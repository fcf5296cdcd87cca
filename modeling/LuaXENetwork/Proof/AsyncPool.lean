import LuaXENetwork.AsyncPool
import LuaXENetwork.Proof.Socket.Lifecycle
import Mathlib.Data.List.ReduceOption

/-! What the `CAsyncSocket` objects hold is theirs, and goes back once. -/

namespace LuaXENetwork.AsyncPool
open Library Sockets

def live (p : AsyncPool) : List AsyncObject := p.slots.reduceOption

/-- What is out of the heap and of Winsock when these objects are alive, with some blocks besides. -/
structure Holds (p : AsyncPool) (blocks : List Nat) (live : List AsyncObject) : Prop where
  counted : p.activeConnections = live.length
  winsock : Sessions (decide (live ≠ [])) p.wsa
  data : p.wsaData.isSome = decide (live ≠ [])
  heap : p.heap.Balanced (blocks ++ (p.wsaData.toList ++ live.flatMap AsyncObject.blocks))
  handles : p.handles.Balanced (live.filterMap AsyncObject.socket)

variable {p : AsyncPool} {live rest : List AsyncObject} {blocks : List Nat} {o : AsyncObject}

theorem Holds.perm (holds : p.Holds blocks live) (same : live.Perm rest) : p.Holds blocks rest := by
  have empty : decide (live ≠ []) = decide (rest ≠ []) := by
    rw [decide_eq_decide, ne_eq, ne_eq, not_iff_not]
    exact ⟨fun none => (none ▸ same).nil_eq.symm, fun none => (none ▸ same).eq_nil⟩
  constructor
  · exact holds.counted.trans same.length_eq
  · exact empty ▸ holds.winsock
  · exact empty ▸ holds.data
  · exact holds.heap.congr (((same.flatMap_right _).append_left _).append_left _)
  · exact holds.handles.congr (same.filterMap _)

theorem free_holds (holds : p.Holds blocks live) : (blocks.foldl free p).Holds [] live := by
  induction blocks generalizing p with
  | nil => exact holds
  | cons block blocks ih =>
      apply ih
      exact ⟨holds.counted, holds.winsock, holds.data, holds.heap.give, holds.handles⟩

/-- The state between the blocks of a connection and its handle. -/
structure Starting (p : AsyncPool) (blocks : List Nat) (live : List AsyncObject) : Prop where
  counted : p.activeConnections = live.length
  winsock : Sessions true p.wsa
  data : p.wsaData.isSome = true
  heap : p.heap.Balanced (blocks ++ (p.wsaData.toList ++ live.flatMap AsyncObject.blocks))
  handles : p.handles.Balanced (live.filterMap AsyncObject.socket)

theorem startup_starting (holds : p.Holds [] live) {l : Ledger}
    (heap : l.Balanced (blocks ++ (p.wsaData.toList ++ live.flatMap AsyncObject.blocks))) :
    Starting { p with heap := l }.startup blocks live := by
  have counted := holds.counted
  have winsock := holds.winsock
  have data := holds.data
  by_cases first : live = []
  · have none_active : p.activeConnections = 0 := by rw [counted, first]; rfl
    have none_given : p.wsaData = none := by simpa [first] using data
    rw [startup, if_pos none_active]
    simp only [none_given]
    rw [none_given] at heap
    constructor
    · exact counted
    · have down : Sessions false p.wsa := by simpa [first] using winsock
      exact .startup down
    · rfl
    · exact heap.take.congr List.perm_middle.symm
    · exact holds.handles
  · have some_active : p.activeConnections ≠ 0 := by
      rw [counted]
      exact fun none => first (List.length_eq_zero_iff.mp none)
    rw [startup, if_neg some_active]
    constructor
    · exact counted
    · simpa [first] using winsock
    · simpa [first] using data
    · exact heap
    · exact holds.handles

/-- The object, and the state with its blocks taken. -/
theorem construct_eq (clock : Nat) (opens found : Bool) :
    p.construct clock opens found =
      let q := { p with heap := p.heap.take.take.take.take.take.take }.startup
      let n := p.heap.next
      if opens then
        (⟨{ valid := found, startTime := clock }, some q.handles.next, n, n + 1, n + 2, n + 3, n + 4, n + 5⟩,
          { q with activeConnections := q.activeConnections + 1, handles := q.handles.take })
      else
        (⟨{ valid := false, startTime := clock }, none, n, n + 1, n + 2, n + 3, n + 4, n + 5⟩,
          { q with activeConnections := q.activeConnections + 1 }) := rfl

theorem construct_holds (holds : p.Holds [] live) (clock : Nat) (opens found : Bool) :
    (p.construct clock opens found).2.Holds [] ((p.construct clock opens found).1 :: live) := by
  have starting : Starting _ [_, _, _, _, _, _] live :=
    startup_starting holds holds.heap.take.take.take.take.take.take
  -- The destructor frees the blocks in another order than the constructor takes them.
  have order (a b c d e f : Nat) (data rest : List Nat) :
      ([f, e, d, c, b, a] ++ (data ++ rest)).Perm (data ++ ([d, c, b, e, f, a] ++ rest)) := by
    rw [List.perm_iff_count]
    intro x
    simp only [List.cons_append, List.nil_append, List.count_append, List.count_cons]
    omega
  rw [construct_eq]
  cases opens with
  | true =>
      constructor
      · exact congrArg (· + 1) starting.counted
      · exact starting.winsock
      · exact starting.data
      · exact starting.heap.congr (order _ _ _ _ _ _ _ _)
      · exact starting.handles.take
  | false =>
      constructor
      · exact congrArg (· + 1) starting.counted
      · exact starting.winsock
      · exact starting.data
      · exact starting.heap.congr (order _ _ _ _ _ _ _ _)
      · exact starting.handles

theorem startup_slots (p : AsyncPool) : p.startup.slots = p.slots := by
  rw [startup]
  split
  · cases p.wsaData with
    | none => rfl
    | some block => rfl
  · rfl

theorem construct_slots (p : AsyncPool) (clock : Nat) (opens found : Bool) :
    (p.construct clock opens found).2.slots = p.slots := by
  rw [construct_eq]
  cases opens with
  | true => exact startup_slots _
  | false => exact startup_slots _

/-! ## The end of a connection -/

theorem cleanup_holds (starting : Starting p blocks live) : p.cleanup.Holds blocks live := by
  have counted := starting.counted
  obtain ⟨block, data⟩ := Option.isSome_iff_exists.mp starting.data
  have heap := starting.heap
  rw [data] at heap
  by_cases last : live = []
  · have none_active : p.activeConnections = 0 := by rw [counted, last]; rfl
    rw [cleanup, if_pos none_active]
    simp only [data]
    constructor
    · exact counted
    · rw [last]
      exact .cleanup starting.winsock
    · rw [last]
      rfl
    · exact (heap.congr List.perm_middle).give
    · exact starting.handles
  · have some_active : p.activeConnections ≠ 0 := by
      rw [counted]
      exact fun none => last (List.length_eq_zero_iff.mp none)
    rw [cleanup, if_neg some_active]
    constructor
    · exact counted
    · simpa [last] using starting.winsock
    · simpa [last] using starting.data
    · rw [data]
      exact heap
    · exact starting.handles

theorem close_holds (holds : p.Holds [] (o :: rest)) :
    ∃ handles, p.close o.socket = { p with handles := handles } ∧
      handles.Balanced (rest.filterMap AsyncObject.socket) := by
  have balanced := holds.handles
  rw [List.filterMap_cons] at balanced
  cases socket : o.socket with
  | none =>
      rw [socket] at balanced
      exact ⟨p.handles, rfl, balanced⟩
  | some s =>
      rw [socket] at balanced
      exact ⟨_, rfl, balanced.give⟩

theorem destruct_holds (holds : p.Holds [] (o :: rest)) : (p.destruct o).Holds [] rest := by
  obtain ⟨handles, closed, balanced⟩ := close_holds holds
  have some_active : decide (o :: rest ≠ []) = true := rfl
  have starting : Starting { p with handles := handles, activeConnections := p.activeConnections - 1 }
      o.blocks rest := by
    constructor
    · rw [holds.counted]
      rfl
    · exact some_active ▸ holds.winsock
    · exact holds.data
    · have heap := holds.heap
      rw [List.nil_append, List.flatMap_cons] at heap
      exact heap.congr (List.perm_append_comm_assoc ..)
    · exact balanced
  rw [destruct, closed]
  exact free_holds (cleanup_holds starting)

/-! ## Whole runs -/

theorem split_slot {slot : Nat} (found : p.object? slot = some o) (other : Option AsyncObject) :
    ∃ before after, p.slots = before ++ some o :: after ∧ p.slots.set slot other = before ++ other :: after := by
  have here := Option.join_eq_some_iff.mp found
  obtain ⟨inside, is⟩ := List.getElem?_eq_some_iff.mp here
  obtain ⟨before, after, split, -, set⟩ := @List.exists_of_set _ slot other p.slots inside
  rw [is] at split
  exact ⟨before, after, split, set⟩

theorem live_split (before after : List (Option AsyncObject)) (x : Option AsyncObject) :
    (before ++ x :: after).reduceOption.Perm (x.toList ++ (before ++ after).reduceOption) := by
  rw [List.reduceOption_append, List.reduceOption_append]
  cases x with
  | none => exact .refl _
  | some o => exact List.perm_middle

/-- A new state of the connection changes nothing of what the object holds. -/
theorem setConnection_holds (holds : p.Holds [] p.live) {slot : Nat} (found : p.object? slot = some o)
    (c : AsyncConnection) : (p.setConnection slot o c).Holds [] (p.setConnection slot o c).live := by
  obtain ⟨before, after, split, set⟩ := split_slot found (some { o with connection := c })
  have old : p.Holds [] (o :: (before ++ after).reduceOption) := by
    apply holds.perm
    rw [AsyncPool.live, split]
    exact live_split before after (some o)
  have new : p.Holds [] ({ o with connection := c } :: (before ++ after).reduceOption) :=
    ⟨old.counted, old.winsock, old.data, old.heap, old.handles⟩
  have same : ({ o with connection := c } :: (before ++ after).reduceOption).Perm (p.setConnection slot o c).live := by
    rw [AsyncPool.live, setConnection, set]
    exact (live_split before after (some { o with connection := c })).symm
  have held := new.perm same
  exact ⟨held.counted, held.winsock, held.data, held.heap, held.handles⟩

theorem call_holds (lua : LuaLibrary) (holds : p.Holds [] p.live) (c : AsyncCall) :
    (p.call lua c).2.Holds [] (p.call lua c).2.live := by
  cases c with
  | create clock opens found =>
      have made := construct_holds holds clock opens found
      have slots := construct_slots p clock opens found
      rw [call]
      generalize p.construct clock opens found = result at made slots ⊢
      obtain ⟨o, q⟩ := result
      have all : (o :: p.live).Perm (q.slots ++ [some o]).reduceOption := by
        rw [slots, List.reduceOption_append]
        exact (List.perm_append_singleton o p.live).symm
      have held := made.perm all
      exact ⟨held.counted, held.winsock, held.data, held.heap, held.handles⟩
  | start slot request error =>
      rw [call]
      cases found : p.object? slot with
      | none => exact holds
      | some o =>
          dsimp only
          split
          · exact holds
          · exact setConnection_holds holds found _
  | poll slot answers =>
      rw [call]
      cases found : p.object? slot with
      | none => exact holds
      | some o => exact setConnection_holds holds found _
  | response slot =>
      rw [call]
      cases p.object? slot with
      | none => exact holds
      | some o => exact holds
  | collect slot =>
      rw [call]
      cases found : p.object? slot with
      | none => exact holds
      | some o =>
          obtain ⟨before, after, split, set⟩ := split_slot found none
          have old : p.Holds [] (o :: (before ++ after).reduceOption) := by
            apply holds.perm
            rw [AsyncPool.live, split]
            exact live_split before after (some o)
          have gone := (destruct_holds old).perm (live_split before after none).symm
          dsimp only
          rw [AsyncPool.live, set]
          generalize p.destruct o = q at gone ⊢
          exact ⟨gone.counted, gone.winsock, gone.data, gone.heap, gone.handles⟩

theorem run_holds (lua : LuaLibrary) (holds : p.Holds [] p.live) (calls : List AsyncCall) :
    (p.run lua calls).Holds [] (p.run lua calls).live := by
  induction calls generalizing p with
  | nil => exact holds
  | cons c calls ih => exact ih (call_holds lua holds c)

/-- In whatever order connections are made, driven and collected, also twice: Winsock is up as long as
one is alive, each block and each handle goes back once, and nothing is left with the last of them. -/
theorem run_releases (lua : LuaLibrary) (calls : List AsyncCall) :
    let p := AsyncPool.run lua {} calls
    p.activeConnections = p.live.length ∧ Sessions (decide (p.live ≠ [])) p.wsa ∧
      p.heap.strays = 0 ∧ p.heap.held.Nodup ∧
      p.heap.held.Perm (p.wsaData.toList ++ p.live.flatMap AsyncObject.blocks) ∧
      p.handles.strays = 0 ∧ p.handles.held.Nodup ∧ p.handles.held.Perm (p.live.filterMap AsyncObject.socket) ∧
      (p.live = [] → p.heap.held = [] ∧ p.handles.held = []) := by
  intro p
  have start : Holds {} [] (AsyncPool.live {}) :=
    ⟨rfl, .none, rfl, Ledger.balanced_empty, Ledger.balanced_empty⟩
  have holds : p.Holds [] p.live := run_holds lua start calls
  refine ⟨holds.counted, holds.winsock, holds.heap.strays, holds.heap.nodup, holds.heap.perm,
    holds.handles.strays, holds.handles.nodup, holds.handles.perm, ?_⟩
  intro none_alive
  have data := holds.data
  have no_data : p.wsaData = none := by simpa [none_alive] using data
  have heap := holds.heap
  have handles := holds.handles
  rw [none_alive, no_data] at heap
  rw [none_alive] at handles
  exact ⟨heap.empty, handles.empty⟩

end LuaXENetwork.AsyncPool
