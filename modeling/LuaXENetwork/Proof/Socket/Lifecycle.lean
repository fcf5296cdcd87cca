import LuaXENetwork.Socket.Lifecycle
import Mathlib.Data.List.Nodup
import Mathlib.Data.List.Perm.Basic

/-! Which uses of `Socket` objects keep their counts, Winsock and the handles in order. -/

namespace LuaXENetwork.Sockets
open Library

/-! ## The property -/

/-- Calls that alternate, and whether Winsock is up after them. -/
inductive Sessions : Bool → List WsaCall → Prop
  | none : Sessions false []
  | startup {calls : List WsaCall} (down : Sessions false calls) : Sessions true (calls ++ [.startup])
  | cleanup {calls : List WsaCall} (up : Sessions true calls) : Sessions false (calls ++ [.cleanup])

structure Kept (t : Sockets) : Prop where
  count : t.nofSockets = t.live.length
  winsock : Sessions (decide (t.live ≠ [])) t.wsa
  once : (t.closes.filterMap id).Nodup
  released : ∀ h ∈ t.opened, (∃ o ∈ t.live, o.s = some h) ∨ some h ∈ t.closes

/-- `Start` does not throw. -/
def Starts (t : Sockets) (startup : Bool) : Prop := t.nofSockets = 0 → startup = true

/-- No object has closed the handle. -/
def Unclosed (t : Sockets) (s : Option Handle) : Prop := ∀ h, s = some h → some h ∉ t.closes

/-- The uses that go well: no assignment, no server, no constructor that finds no handle behind a
counted object, and no second closing of a handle an object with its flag unset still has. -/
def Rule (t : Sockets) : SocketAction → Prop
  | .construct startup opens => t.Starts startup → opens = true
  | .constructFrom _ _ => True
  | .constructServer startup _ _ _ => ¬ t.Starts startup
  | .copy _ => True
  | .assign _ _ => False
  | .close name => ∀ o ∈ t.object? name, o.closed = false → t.Unclosed o.s
  | .destroy name => ∀ o ∈ t.object? name, t.refCount o.refCounter = 1 → o.closed = false → t.Unclosed o.s

/-! ## The invariant -/

/-- Who points to which counter and has which handle. -/
structure Owned (t : Sockets) : Prop where
  named : (t.live.map SocketObject.name).Nodup
  names : ∀ o ∈ t.live, o.name < t.nextName
  counters : ∀ o ∈ t.live, o.refCounter < t.nextCounter
  counts : ∀ c, t.refCount c = t.live.countP (·.refCounter = c)
  shared : ∀ o ∈ t.live, ∀ o' ∈ t.live, o.refCounter = o'.refCounter → o.s = o'.s
  flagged : ∀ o ∈ t.live, o.closed = true → o.s ∈ t.closes
  handles : ∀ o ∈ t.live, ∀ h, o.s = some h → h < t.nextHandle
  handed : ∀ h, some h ∈ t.closes → h < t.nextHandle

structure Tracked (t : Sockets) : Prop where
  kept : Kept t
  owned : Owned t

variable {t t' : Sockets} {o : SocketObject}

theorem object?_some {name : Nat} (found : t.object? name = some o) : o ∈ t.live ∧ o.name = name :=
  ⟨List.mem_of_find?_eq_some found, by simpa using List.find?_some found⟩

theorem start_cases (t : Sockets) (startup : Bool) :
    (¬ t.Starts startup ∧ t.start startup = none) ∨
      (t.Starts startup ∧ ∃ calls,
        t.start startup = some { t with wsa := calls, nofSockets := t.nofSockets + 1 } ∧
        (Sessions (decide (t.nofSockets ≠ 0)) t.wsa → Sessions true calls)) := by
  rw [start, Starts]
  by_cases first : t.nofSockets = 0
  · cases startup with
    | false => exact .inl ⟨by simp [first], by simp [first]⟩
    | true =>
        refine .inr ⟨fun _ => rfl, t.wsa ++ [.startup], by simp [first], fun sessions => .startup ?_⟩
        simpa [first] using sessions
  · refine .inr ⟨fun none => absurd none first, t.wsa, by simp [first], fun sessions => ?_⟩
    simpa [first] using sessions

theorem Kept.sessions (kept : Kept t) : Sessions (decide (t.nofSockets ≠ 0)) t.wsa := by
  have same : decide (t.nofSockets ≠ 0) = decide (t.live ≠ []) := by
    rw [kept.count]
    simp
  rw [same]
  exact kept.winsock

/-! ## Construction -/

/-- Winsock, the count and the handles given out so far play no part. -/
theorem Owned.frame (owned : Owned t) (calls : List WsaCall) (count : Nat) (opened : List Handle)
    {next : Handle} (le : t.nextHandle ≤ next) :
    Owned { t with wsa := calls, nofSockets := count, opened := opened, nextHandle := next } where
  named := owned.named
  names := owned.names
  counters := owned.counters
  counts := owned.counts
  shared := owned.shared
  flagged := owned.flagged
  handles o member h is := Nat.lt_of_lt_of_le (owned.handles o member h is) le
  handed h member := Nat.lt_of_lt_of_le (owned.handed h member) le

/-- One object more for a counter, with the handle the other ones have. -/
theorem Owned.add (owned : Owned t) {s : Option Handle} {counter next : Nat} (later : t.nextCounter ≤ next)
    (below : counter < next) (alike : ∀ o ∈ t.live, o.refCounter = counter → o.s = s)
    (known : ∀ h, s = some h → h < t.nextHandle) :
    Owned ({ t with
      refCount := Function.update t.refCount counter (t.refCount counter + 1)
      nextCounter := next }.add ⟨t.nextName, s, counter, false⟩) where
  named := by
    simp only [Sockets.add, List.map_append, List.map_singleton]
    refine List.nodup_append.mpr ⟨owned.named, List.nodup_singleton _, ?_⟩
    intro name member last here same
    obtain ⟨o, live, rfl⟩ := List.mem_map.mp member
    have := owned.names o live
    rw [List.mem_singleton.mp here] at same
    omega
  names o member := by
    simp only [Sockets.add, List.mem_append, List.mem_singleton] at member ⊢
    rcases member with old | rfl
    · have := owned.names o old
      omega
    · exact Nat.lt_succ_self _
  counters o member := by
    simp only [Sockets.add, List.mem_append, List.mem_singleton] at member ⊢
    rcases member with old | rfl
    · have := owned.counters o old
      omega
    · exact below
  counts c := by
    simp only [Sockets.add, List.countP_append, List.countP_singleton]
    by_cases here : c = counter
    · simp [here, owned.counts counter]
    · simp [here, Ne.symm here, owned.counts c]
  shared o member o' member' same := by
    simp only [Sockets.add, List.mem_append, List.mem_singleton] at member member'
    rcases member with old | rfl <;> rcases member' with old' | rfl
    · exact owned.shared o old o' old' same
    · exact alike o old same
    · exact (alike o' old' same.symm).symm
    · rfl
  flagged o member closed := by
    simp only [Sockets.add, List.mem_append, List.mem_singleton] at member ⊢
    rcases member with old | rfl
    · exact owned.flagged o old closed
    · cases closed
  handles o member h is := by
    simp only [Sockets.add, List.mem_append, List.mem_singleton] at member ⊢
    rcases member with old | rfl
    · exact owned.handles o old h is
    · exact known h is
  handed := owned.handed

theorem Owned.unused (owned : Owned t) : t.refCount t.nextCounter = 0 := by
  rw [owned.counts, List.countP_eq_zero]
  intro o member
  have := owned.counters o member
  simp
  omega

theorem Owned.fresh (owned : Owned t) {s : Option Handle} (known : ∀ h, s = some h → h < t.nextHandle) :
    Owned (t.newCounter.add ⟨t.nextName, s, t.nextCounter, false⟩) := by
  have alike : ∀ o ∈ t.live, o.refCounter = t.nextCounter → o.s = s := by
    intro o member same
    have := owned.counters o member
    omega
  have added := owned.add (Nat.le_succ _) (Nat.lt_succ_self _) alike known
  rwa [owned.unused] at added

theorem Owned.copy (owned : Owned t) (member : o ∈ t.live) : Owned (t.copy o) :=
  (owned.add (Nat.le_refl _) (owned.counters o member)
    (fun o' member' same => owned.shared o' member' o member same) (owned.handles o member)).frame t.wsa
    (t.nofSockets + 1) t.opened (Nat.le_refl _)

theorem Kept.grow (kept : Kept t) {calls : List WsaCall} {object : SocketObject} (opened : List Handle)
    (sessions : Sessions (decide (t.nofSockets ≠ 0)) t.wsa → Sessions true calls)
    (live : t'.live = t.live ++ [object]) (count : t'.nofSockets = t.nofSockets + 1) (wsa : t'.wsa = calls)
    (closes : t'.closes = t.closes) (handles : t'.opened = t.opened ++ opened)
    (owner : ∀ h ∈ opened, object.s = some h) : Kept t' where
  count := by rw [count, live, kept.count, List.length_append, List.length_singleton]
  winsock := by
    rw [live, wsa]
    simpa using sessions kept.sessions
  once := closes ▸ kept.once
  released h member := by
    rw [handles, List.mem_append] at member
    rw [live, closes]
    rcases member with old | new
    · rcases kept.released h old with ⟨o, alive, has⟩ | closed
      · exact .inl ⟨o, List.mem_append_left _ alive, has⟩
      · exact .inr closed
    · exact .inl ⟨object, List.mem_append_right _ (List.mem_singleton_self _), owner h new⟩

theorem tracked_construct (tracked : Tracked t) {startup opens : Bool}
    (succeeds : t.Starts startup → opens = true) : Tracked (t.construct startup opens) := by
  rcases start_cases t startup with ⟨-, throws⟩ | ⟨starts, calls, started, sessions⟩
  · rw [construct, throws]
    exact tracked
  · rw [construct, started]
    simp only [succeeds starts, if_true]
    refine ⟨tracked.kept.grow [t.nextHandle] sessions rfl rfl rfl rfl rfl (by simp), ?_⟩
    refine (tracked.owned.frame calls (t.nofSockets + 1) (t.opened ++ [t.nextHandle]) (Nat.le_succ _)).fresh ?_
    intro h is
    obtain rfl := Option.some.inj is
    exact Nat.lt_succ_self _

theorem tracked_constructFrom (tracked : Tracked t) (startup : Bool) (s : Option Handle) :
    Tracked (t.constructFrom startup s) := by
  rcases start_cases t startup with ⟨-, throws⟩ | ⟨starts, calls, started, sessions⟩
  · rw [constructFrom, throws]
    exact tracked
  · rw [constructFrom, started]
    refine ⟨tracked.kept.grow [] sessions rfl rfl rfl rfl (List.append_nil _).symm (by simp), ?_⟩
    refine (tracked.owned.frame calls (t.nofSockets + 1) t.opened (Nat.le_max_left _ (s.elim 0 (· + 1)))).fresh ?_
    rintro h rfl
    exact Nat.lt_of_lt_of_le (Nat.lt_succ_self h) (Nat.le_max_right ..)

theorem tracked_copy (tracked : Tracked t) (member : o ∈ t.live) : Tracked (t.copy o) := by
  refine ⟨tracked.kept.grow [] (fun sessions => ?_) rfl rfl rfl rfl (List.append_nil _).symm (by simp),
    tracked.owned.copy member⟩
  have some_live : t.nofSockets ≠ 0 := by
    rw [tracked.kept.count]
    exact Nat.ne_of_gt (List.length_pos_iff.mpr (List.ne_nil_of_mem member))
  have up : Sessions true t.wsa := by simpa [some_live] using sessions
  exact up

/-! ## Closing -/

theorem mem_closeHandle {s : Option Handle} :
    s ∈ (t.closeHandle o).closes ↔ s ∈ t.closes ∨ o.closed = false ∧ s = o.s := by
  rw [closeHandle]
  cases flag : o.closed <;> simp [closeSocket]

theorem closeHandle_eq (t : Sockets) (o : SocketObject) :
    t.closeHandle o = { t with closes := (t.closeHandle o).closes } := by
  rw [closeHandle]
  split <;> rfl

theorem once_closeHandle (once : (t.closes.filterMap id).Nodup) :
    ((t.closeHandle o).closes.filterMap id).Nodup ↔ (o.closed = false → t.Unclosed o.s) := by
  rw [closeHandle, Unclosed]
  cases flag : o.closed with
  | true => simpa using once
  | false =>
      cases s : o.s with
      | none => simpa [closeSocket] using once
      | some h =>
          simp only [closeSocket, Bool.false_eq_true, if_false, List.filterMap_append, List.nodup_append,
            true_implies, List.filterMap_cons, List.filterMap_nil, id, Option.some.injEq, forall_eq']
          constructor
          · rintro ⟨-, -, apart⟩ member
            exact apart h (List.mem_filterMap.mpr ⟨some h, member, rfl⟩) h (List.mem_singleton_self h) rfl
          · intro fresh
            refine ⟨once, List.nodup_singleton h, ?_⟩
            intro h' member last here same
            obtain ⟨s', closed, rfl⟩ := List.mem_filterMap.mp member
            rw [List.mem_singleton.mp here] at same
            exact fresh (same ▸ closed)

theorem Owned.unique (owned : Owned t) {o' : SocketObject} (member : o ∈ t.live) (member' : o' ∈ t.live)
    (same : o.name = o'.name) : o = o' := List.inj_on_of_nodup_map owned.named member member' same

theorem close_eq (t : Sockets) (o : SocketObject) :
    t.close o = { t with
      live := t.live.map fun old => if old.name = o.name then { o with closed := true } else old
      closes := (t.closeHandle o).closes } := by
  rw [close, replace, closeHandle_eq]

theorem closes_close : (t.close o).closes = (t.closeHandle o).closes := rfl

theorem live_close : (t.close o).live =
    t.live.map fun old => if old.name = o.name then { o with closed := true } else old := by
  rw [close_eq]

theorem close_origin (owned : Owned t) (member : o ∈ t.live) {p : SocketObject} (alive : p ∈ (t.close o).live) :
    ∃ old ∈ t.live, p.name = old.name ∧ p.refCounter = old.refCounter ∧ p.s = old.s ∧
      (p.closed = true → p.s ∈ (t.close o).closes) := by
  rw [live_close] at alive
  obtain ⟨old, live, rfl⟩ := List.mem_map.mp alive
  refine ⟨old, live, ?_⟩
  by_cases same : old.name = o.name
  · obtain rfl := owned.unique live member same
    rw [if_pos rfl]
    refine ⟨rfl, rfl, rfl, fun _ => ?_⟩
    rw [closes_close, mem_closeHandle]
    cases flag : old.closed with
    | true => exact .inl (owned.flagged old live flag)
    | false => exact .inr ⟨rfl, rfl⟩
  · rw [if_neg same]
    exact ⟨rfl, rfl, rfl, fun flag => mem_closeHandle.mpr (.inl (owned.flagged old live flag))⟩

theorem Owned.close (owned : Owned t) (member : o ∈ t.live) : Owned (t.close o) where
  named := by
    have same : (t.close o).live.map SocketObject.name = t.live.map SocketObject.name := by
      rw [live_close, List.map_map]
      refine List.map_congr_left fun old live => ?_
      by_cases same : old.name = o.name <;> simp [same]
    rw [same]
    exact owned.named
  names p alive := by
    obtain ⟨old, live, name, -⟩ := close_origin owned member alive
    rw [name, close_eq]
    exact owned.names old live
  counters p alive := by
    obtain ⟨old, live, -, counter, -⟩ := close_origin owned member alive
    rw [counter, close_eq]
    exact owned.counters old live
  counts c := by
    have count : (t.close o).refCount = t.refCount := by rw [close_eq]
    rw [count, owned.counts, live_close, List.countP_map]
    refine List.countP_congr fun old live => ?_
    by_cases same : old.name = o.name
    · obtain rfl := owned.unique live member same
      simp
    · simp [same]
  shared p alive p' alive' same := by
    obtain ⟨old, live, -, counter, s, -⟩ := close_origin owned member alive
    obtain ⟨old', live', -, counter', s', -⟩ := close_origin owned member alive'
    rw [s, s']
    exact owned.shared old live old' live' (counter ▸ counter' ▸ same)
  flagged p alive flag := by
    obtain ⟨old, live, -, -, -, flagged⟩ := close_origin owned member alive
    exact flagged flag
  handles p alive h is := by
    obtain ⟨old, live, -, -, s, -⟩ := close_origin owned member alive
    rw [close_eq]
    exact owned.handles old live h (s ▸ is)
  handed h closed := by
    have next : (t.close o).nextHandle = t.nextHandle := by rw [close_eq]
    rw [next]
    rcases mem_closeHandle.mp closed with old | ⟨-, is⟩
    · exact owned.handed h old
    · exact owned.handles o member h is.symm

theorem tracked_close (tracked : Tracked t) (member : o ∈ t.live) (first : o.closed = false → t.Unclosed o.s) :
    Tracked (t.close o) := by
  refine ⟨⟨?_, ?_, ?_, ?_⟩, tracked.owned.close member⟩
  · rw [live_close, List.length_map, close_eq]
    exact tracked.kept.count
  · have same : decide ((t.close o).live ≠ []) = decide (t.live ≠ []) := by simp [live_close]
    rw [same, close_eq]
    exact tracked.kept.winsock
  · exact (once_closeHandle tracked.kept.once).mpr first
  · intro h opened
    have before : h ∈ t.opened := by rwa [close_eq] at opened
    rcases tracked.kept.released h before with ⟨p, live, has⟩ | closed
    · refine .inl ⟨_, live_close ▸ List.mem_map_of_mem live, ?_⟩
      by_cases same : p.name = o.name
      · rw [if_pos same, ← has, tracked.owned.unique live member same]
      · rw [if_neg same, has]
    · exact .inr (mem_closeHandle.mpr (.inl closed))

/-! ## Destruction -/

theorem destruct_eq (t : Sockets) (o : SocketObject) :
    t.destruct o = { t with
      live := t.live.erase o
      refCount := Function.update t.refCount o.refCounter (t.refCount o.refCounter - 1)
      closes := if t.refCount o.refCounter - 1 = 0 then (t.closeHandle o).closes else t.closes
      nofSockets := t.nofSockets - 1
      wsa := if t.nofSockets - 1 = 0 then t.wsa ++ [.cleanup] else t.wsa } := by
  unfold destruct closeHandle closeSocket
  by_cases last : t.refCount o.refCounter - 1 = 0 <;> by_cases none_left : t.nofSockets - 1 = 0 <;>
    cases flag : o.closed <;> simp [last, none_left]

theorem Owned.count_pos (owned : Owned t) (member : o ∈ t.live) : 0 < t.refCount o.refCounter := by
  rw [owned.counts]
  exact List.countP_pos_iff.mpr ⟨o, member, by simp⟩

theorem Owned.countP_erase (owned : Owned t) (member : o ∈ t.live) (c : Nat) :
    (t.live.erase o).countP (·.refCounter = c) = if o.refCounter = c then t.refCount c - 1 else t.refCount c := by
  have split := (List.perm_cons_erase member).countP_eq (·.refCounter = c)
  rw [List.countP_cons, ← owned.counts] at split
  by_cases here : o.refCounter = c <;> simp [here] at split ⊢ <;> omega

theorem closes_destruct {s : Option Handle} : s ∈ (t.destruct o).closes ↔
    s ∈ t.closes ∨ t.refCount o.refCounter - 1 = 0 ∧ o.closed = false ∧ s = o.s := by
  rw [destruct_eq]
  by_cases last : t.refCount o.refCounter - 1 = 0 <;> simp [last, mem_closeHandle]

theorem Owned.destruct (owned : Owned t) (member : o ∈ t.live) : Owned (t.destruct o) := by
  have subset : ∀ p ∈ (t.destruct o).live, p ∈ t.live := by
    rw [destruct_eq]
    exact fun p alive => List.mem_of_mem_erase alive
  refine ⟨?_, ?_, ?_, ?_, ?_, ?_, ?_, ?_⟩
  · rw [destruct_eq]
    exact owned.named.sublist (List.erase_sublist.map _)
  · intro p alive
    rw [destruct_eq]
    exact owned.names p (subset p alive)
  · intro p alive
    rw [destruct_eq]
    exact owned.counters p (subset p alive)
  · intro c
    rw [destruct_eq]
    show Function.update t.refCount _ _ c = (t.live.erase o).countP (·.refCounter = c)
    rw [owned.countP_erase member]
    by_cases here : o.refCounter = c
    · subst here
      rw [Function.update_self, if_pos rfl]
    · rw [Function.update_of_ne (Ne.symm here), if_neg here]
  · exact fun p alive p' alive' same => owned.shared p (subset p alive) p' (subset p' alive') same
  · exact fun p alive flag => closes_destruct.mpr (.inl (owned.flagged p (subset p alive) flag))
  · intro p alive h is
    rw [destruct_eq]
    exact owned.handles p (subset p alive) h is
  · intro h closed
    have next : (t.destruct o).nextHandle = t.nextHandle := by rw [destruct_eq]
    rw [next]
    rcases closes_destruct.mp closed with old | ⟨-, -, is⟩
    · exact owned.handed h old
    · exact owned.handles o member h is.symm

/-- Whoever shares the counter of an object keeps its handle open behind it. -/
theorem released_destruct (tracked : Tracked t) (member : o ∈ t.live) {h : Handle} (has : o.s = some h) :
    (∃ p ∈ (t.destruct o).live, p.s = some h) ∨ some h ∈ (t.destruct o).closes := by
  by_cases last : t.refCount o.refCounter - 1 = 0
  · refine .inr (closes_destruct.mpr ?_)
    cases flag : o.closed with
    | true => exact .inl (has ▸ tracked.owned.flagged o member flag)
    | false => exact .inr ⟨last, rfl, has.symm⟩
  · have others : 0 < (t.live.erase o).countP (·.refCounter = o.refCounter) := by
      rw [tracked.owned.countP_erase member, if_pos rfl]
      omega
    obtain ⟨p, alive, same⟩ := List.countP_pos_iff.mp others
    refine .inl ⟨p, by rw [destruct_eq]; exact alive, ?_⟩
    rw [← has]
    exact tracked.owned.shared p (List.mem_of_mem_erase alive) o member (by simpa using same)

theorem tracked_destruct (tracked : Tracked t) (member : o ∈ t.live)
    (first : t.refCount o.refCounter = 1 → o.closed = false → t.Unclosed o.s) : Tracked (t.destruct o) := by
  have length := List.length_erase_of_mem member
  have positive := List.length_pos_iff.mpr (List.ne_nil_of_mem member)
  have count := tracked.kept.count
  refine ⟨⟨?_, ?_, ?_, ?_⟩, tracked.owned.destruct member⟩
  · rw [destruct_eq]
    show t.nofSockets - 1 = (t.live.erase o).length
    rw [length, count]
  · have up : Sessions true t.wsa := by
      simpa [List.ne_nil_of_mem member] using tracked.kept.winsock
    rw [destruct_eq]
    show Sessions (decide (t.live.erase o ≠ [])) _
    by_cases none_left : t.nofSockets - 1 = 0
    · have empty : t.live.erase o = [] := List.length_eq_zero_iff.mp (by omega)
      rw [empty]
      simpa [none_left] using Sessions.cleanup up
    · have some_left : t.live.erase o ≠ [] := fun empty => by
        rw [empty, List.length_nil] at length
        omega
      simpa [none_left, some_left] using up
  · rw [destruct_eq]
    by_cases last : t.refCount o.refCounter - 1 = 0
    · have := tracked.owned.count_pos member
      simp only [last, if_true]
      exact (once_closeHandle tracked.kept.once).mpr (first (by omega))
    · simpa only [last, if_false] using tracked.kept.once
  · intro h opened
    have before : h ∈ t.opened := by rwa [destruct_eq] at opened
    rcases tracked.kept.released h before with ⟨p, live, has⟩ | closed
    · by_cases same : p = o
      · exact released_destruct tracked member (same ▸ has)
      · refine .inl ⟨p, ?_, has⟩
        rw [destruct_eq]
        exact (List.mem_erase_of_ne same).mpr live
    · exact .inr (closes_destruct.mpr (.inl closed))

/-! ## Uses against the rule -/

theorem construct_counted (tracked : Tracked t) {startup : Bool} (starts : t.Starts startup) :
    ¬ Kept (t.construct startup false) := by
  intro kept
  rcases start_cases t startup with ⟨throws, -⟩ | ⟨-, calls, started, -⟩
  · exact throws starts
  · have count := kept.count
    rw [construct, started] at count
    have := tracked.kept.count
    simp at count
    omega

theorem assign_counted (tracked : Tracked t) (target : SocketObject) : ¬ Kept (t.assign target o) := by
  intro kept
  have count := kept.count
  simp only [assign, replace, List.length_map] at count
  have := tracked.kept.count
  omega

theorem close_twice (tracked : Tracked t) (twice : ¬ (o.closed = false → t.Unclosed o.s)) : ¬ Kept (t.close o) :=
  fun kept => twice ((once_closeHandle tracked.kept.once).mp kept.once)

theorem destruct_twice (tracked : Tracked t) (last : t.refCount o.refCounter = 1)
    (twice : ¬ (o.closed = false → t.Unclosed o.s)) : ¬ Kept (t.destruct o) := by
  intro kept
  have once := kept.once
  rw [destruct_eq] at once
  simp only [last, Nat.sub_self, if_true] at once
  exact twice ((once_closeHandle tracked.kept.once).mp once)

theorem Kept.not_lost (kept : Kept t') (tracked : Tracked t) (opened : t.nextHandle ∈ t'.opened)
    (live : ∀ p ∈ t'.live, p ∈ t.live ∨ p.s = some (t.nextHandle + 1))
    (closes : ∀ h, some h ∈ t'.closes → some h ∈ t.closes ∨ h = t.nextHandle + 1) : False := by
  rcases kept.released t.nextHandle opened with ⟨p, alive, has⟩ | closed
  · rcases live p alive with old | other
    · exact Nat.lt_irrefl _ (tracked.owned.handles p old _ has)
    · exact Nat.succ_ne_self _ (Option.some.inj (other.symm.trans has))
  · rcases closes _ closed with old | other
    · exact Nat.lt_irrefl _ (tracked.owned.handed _ old)
    · exact Nat.succ_ne_self _ other.symm

/-- The handle of the implicit `Socket()` is opened, and lost at once. -/
theorem server_leaks (tracked : Tracked t) {startup opensBase opens works : Bool} (starts : t.Starts startup) :
    ¬ Kept (t.constructServer startup opensBase opens works) := by
  intro kept
  rcases start_cases t startup with ⟨throws, -⟩ | ⟨-, calls, started, -⟩
  · exact throws starts
  rw [constructServer, started] at kept
  cases opensBase with
  | false =>
      have count := kept.count
      have := tracked.kept.count
      simp at count
      omega
  | true =>
      cases opens with
      | false =>
          simp only [Bool.not_true, Bool.not_false, Bool.false_eq_true, if_false, if_true] at kept
          refine kept.not_lost tracked ?_ (fun p alive => ?_) (fun h closed => ?_)
          · simp [destruct_eq, openSocket, newCounter]
          · rw [destruct_eq] at alive
            exact .inl (List.mem_of_mem_erase alive)
          · rcases closes_destruct.mp closed with old | ⟨-, -, is⟩
            · exact .inl old
            · cases is
      | true =>
          simp only [Bool.not_true, Bool.false_eq_true, if_false] at kept
          cases works with
          | true =>
              rw [if_pos rfl] at kept
              refine kept.not_lost tracked ?_ (fun p alive => ?_) (fun h closed => .inl closed)
              · simp [add, openSocket, newCounter]
              · rcases List.mem_append.mp alive with old | new
                · exact .inl old
                · rw [List.mem_singleton.mp new]
                  exact .inr rfl
          | false =>
              rw [if_neg (by decide)] at kept
              refine kept.not_lost tracked ?_ (fun p alive => ?_) (fun h closed => ?_)
              · simp [destruct_eq, closeSocket, openSocket, newCounter]
              · rw [destruct_eq] at alive
                exact .inl (List.mem_of_mem_erase alive)
              · rcases closes_destruct.mp closed with old | ⟨-, -, is⟩
                · rcases List.mem_append.mp old with old | new
                  · exact .inl old
                  · exact .inr (Option.some.inj (List.mem_singleton.mp new))
                · exact .inr (Option.some.inj is)

/-! ## Whole runs -/

theorem tracked_step (tracked : Tracked t) {action : SocketAction} (next : t.step action = some t')
    (follows : t.Rule action) : Tracked t' := by
  cases action with
  | construct startup opens =>
      obtain rfl := Option.some.inj next
      exact tracked_construct tracked follows
  | constructFrom startup s =>
      obtain rfl := Option.some.inj next
      exact tracked_constructFrom tracked startup s
  | constructServer startup opensBase opens works =>
      obtain rfl := Option.some.inj next
      rcases start_cases t startup with ⟨-, throws⟩ | ⟨starts, -⟩
      · rw [constructServer, throws]
        exact tracked
      · exact absurd starts follows
  | copy source =>
      obtain ⟨o, found, rfl⟩ := Option.map_eq_some_iff.mp next
      exact tracked_copy tracked (object?_some found).1
  | assign target source => exact follows.elim
  | close name =>
      obtain ⟨o, found, rfl⟩ := Option.map_eq_some_iff.mp next
      exact tracked_close tracked (object?_some found).1 (follows o found)
  | destroy name =>
      obtain ⟨o, found, rfl⟩ := Option.map_eq_some_iff.mp next
      exact tracked_destruct tracked (object?_some found).1 (follows o found)

theorem broken_step (tracked : Tracked t) {action : SocketAction} (next : t.step action = some t')
    (against : ¬ t.Rule action) : ¬ Kept t' := by
  cases action with
  | construct startup opens =>
      obtain rfl := Option.some.inj next
      obtain ⟨starts, fails⟩ := Classical.not_imp.mp against
      rw [Bool.not_eq_true] at fails
      rw [fails]
      exact construct_counted tracked starts
  | constructFrom startup s => exact absurd trivial against
  | constructServer startup opensBase opens works =>
      obtain rfl := Option.some.inj next
      exact server_leaks tracked (not_not.mp against)
  | copy source => exact absurd trivial against
  | assign target source =>
      obtain ⟨target, -, next⟩ := Option.bind_eq_some_iff.mp next
      obtain ⟨source, -, next⟩ := Option.bind_eq_some_iff.mp next
      obtain rfl := Option.some.inj next
      exact assign_counted tracked target
  | close name =>
      obtain ⟨o, found, rfl⟩ := Option.map_eq_some_iff.mp next
      refine close_twice tracked fun once => against fun o' found' => ?_
      rwa [← Option.some.inj (found.symm.trans found')]
  | destroy name =>
      obtain ⟨o, found, rfl⟩ := Option.map_eq_some_iff.mp next
      simp only [Rule, not_forall] at against
      obtain ⟨o', found', last, twice⟩ := against
      obtain rfl := Option.some.inj (found.symm.trans found')
      exact destruct_twice tracked last (not_forall.mpr twice)

theorem tracked_init : Tracked {} where
  kept := ⟨rfl, .none, List.nodup_nil, nofun⟩
  owned := ⟨List.nodup_nil, nofun, nofun, fun _ => rfl, nofun, nofun, nofun, nofun⟩

theorem discipline : Discipline Sockets.step Tracked Kept Rule where
  sound tracked := tracked.kept
  keeps tracked next follows := tracked_step tracked next follows
  breaks tracked next against := broken_step tracked next against

/-- The count, Winsock and the handles are in order all along a run exactly when every step of it
goes by the rule. -/
theorem kept_iff (actions : List SocketAction) :
    (∀ t ∈ states Sockets.step {} actions, Kept t) ↔
      ∀ made ∈ taken Sockets.step {} actions, made.1.Rule made.2 :=
  discipline.good_iff tracked_init actions

/-- A server that came up and went away: its first handle is open, and nobody's. -/
theorem server_handle_lost :
    ∃ t ∈ states Sockets.step {} [.constructServer true true true true, .destroy 0],
      t.live = [] ∧ t.opened = [0, 1] ∧ t.closes = [some 1] ∧ ¬ Kept t := by
  refine ⟨_, List.mem_cons_of_mem _ (List.mem_cons_of_mem _ (List.mem_singleton_self _)), rfl, rfl, rfl, ?_⟩
  intro kept
  rcases kept.released 0 (by decide) with ⟨o, alive, -⟩ | closed
  · exact nomatch alive
  · exact absurd closed (by decide)

end LuaXENetwork.Sockets
