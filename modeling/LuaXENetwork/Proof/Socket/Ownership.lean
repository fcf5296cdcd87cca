import LuaXENetwork.Library.History
import LuaXENetwork.Socket.Ownership

/-! Which runs of a `CBaseSock` close all that they open. -/

namespace LuaXENetwork.SockHandles
open Library

variable {t : SockHandles}

/-- `Disconnect` can close both events. -/
def Live (t : SockHandles) : Prop :=
  ∃ read write, t.readEvent = some read ∧ t.writeEvent = some write ∧
    read ∈ t.events.held ∧ write ∈ (t.events.give read).held

/-- The read event is set and closed. -/
structure Stale (t : SockHandles) (r : Handle) : Prop where
  read : t.readEvent = some r
  closed : r ∉ t.events.held
  below : r < t.events.next

/-- Before the first connection, in one, and after it. -/
inductive Sound (t : SockHandles) : Prop
  | fresh (socket : t.actualSocket = none) (read : t.readEvent = none) (write : t.writeEvent = none)
      (sockets : t.sockets.Balanced []) (events : t.events.Balanced [])
  | opened (s r w : Handle) (socket : t.actualSocket = some s) (read : t.readEvent = some r)
      (write : t.writeEvent = some w) (sockets : t.sockets.Balanced [s]) (events : t.events.Balanced [r, w])
  | closed (r : Handle) (socket : t.actualSocket = none) (stale : t.Stale r)
      (sockets : t.sockets.Balanced []) (events : t.events.Balanced [])

/-- A socket is open that no `Disconnect` will ever close. -/
structure Doomed (t : SockHandles) (s : Handle) : Prop where
  below : ∀ name ∈ t.sockets.held, name < t.sockets.next
  out : s ∈ t.sockets.held
  lost : t.actualSocket = some s → ¬ t.Live

theorem makeReadEvent_keeps (t : SockHandles) (creates : Bool) :
    (t.makeReadEvent creates).sockets = t.sockets ∧ (t.makeReadEvent creates).actualSocket = t.actualSocket := by
  unfold makeReadEvent createEvent
  split
  · cases creates with
    | false => exact ⟨rfl, rfl⟩
    | true => exact ⟨rfl, rfl⟩
  · exact ⟨rfl, rfl⟩

theorem makeWriteEvent_keeps (t : SockHandles) (creates : Bool) :
    (t.makeWriteEvent creates).sockets = t.sockets ∧
      (t.makeWriteEvent creates).actualSocket = t.actualSocket := by
  unfold makeWriteEvent createEvent
  split
  · cases creates with
    | false => exact ⟨rfl, rfl⟩
    | true => exact ⟨rfl, rfl⟩
  · exact ⟨rfl, rfl⟩

theorem setup_keeps (t : SockHandles) (answers : SetupAnswers) :
    (t.setup answers).2.sockets = t.sockets ∧ (t.setup answers).2.actualSocket = t.actualSocket := by
  have read := makeReadEvent_keeps t answers.createsRead
  have write := makeWriteEvent_keeps (t.makeReadEvent answers.createsRead) answers.createsWrite
  unfold setup
  split
  · exact ⟨rfl, rfl⟩
  · dsimp only
    split
    · exact read
    · split
      · exact ⟨write.1.trans read.1, write.2.trans read.2⟩
      · exact ⟨write.1.trans read.1, write.2.trans read.2⟩

/-- With a closed read event `Setup` fails, and leaves it so. -/
theorem setup_stale {r : Handle} (stale : t.Stale r) (answers : SetupAnswers) :
    (t.setup answers).1 = false ∧ (t.setup answers).2.Stale r := by
  have made : t.makeReadEvent answers.createsRead = t := by
    rw [makeReadEvent, stale.read]
    rfl
  have kept : (t.makeWriteEvent answers.createsWrite).Stale r := by
    unfold makeWriteEvent createEvent
    split
    · cases answers.createsWrite with
      | false => exact ⟨stale.read, stale.closed, stale.below⟩
      | true =>
          constructor
          · exact stale.read
          · intro member
            rcases List.mem_cons.mp member with same | member
            · exact Nat.ne_of_lt stale.below same
            · exact stale.closed member
          · exact Nat.lt_succ_of_lt stale.below
    · exact stale
  unfold setup
  rw [made]
  dsimp only
  split
  · exact ⟨rfl, stale⟩
  · split
    · exact ⟨rfl, stale⟩
    · split
      · exact ⟨rfl, kept⟩
      · refine ⟨?_, kept⟩
        rw [kept.read, resetEvent, decide_eq_false kept.closed, Bool.false_and]

/-- Without events `Setup` succeeds exactly when its calls do, and else `Disconnect` will fail. -/
theorem setup_fresh (read : t.readEvent = none) (write : t.writeEvent = none) (answers : SetupAnswers) :
    if answers.noDelay ∧ answers.createsRead ∧ answers.createsWrite then
      t.setup answers = (true, { t with
        readEvent := some t.events.next
        writeEvent := some (t.events.next + 1)
        events := t.events.take.take })
    else (t.setup answers).1 = false ∧ ¬ (t.setup answers).2.Live := by
  obtain ⟨noDelay, createsRead, createsWrite⟩ := answers
  have none_live : ¬ t.Live := by
    rintro ⟨r, w, is, -⟩
    rw [read] at is
    cases is
  unfold setup makeReadEvent createEvent
  rw [read]
  cases noDelay with
  | false => exact ⟨rfl, none_live⟩
  | true =>
      cases createsRead with
      | false =>
          refine ⟨rfl, ?_⟩
          rintro ⟨r, w, is, -⟩
          cases is
      | true =>
          unfold makeWriteEvent createEvent
          dsimp only
          rw [write]
          cases createsWrite with
          | false =>
              refine ⟨rfl, ?_⟩
              rintro ⟨r, w, -, is, -⟩
              cases is
          | true => simp [resetEvent, Ledger.take]

/-! ## The steps -/

/-- The calls of `Connect` before `Setup` succeed. -/
def Connects (answers : ConnectAnswers) : Prop := answers.opens ∧ answers.connects ∧ answers.updates

theorem connect_cases (t : SockHandles) (answers : ConnectAnswers) :
    (¬ Connects answers ∧ ((t.connect answers) = (false, { t with actualSocket := none }) ∨
      (t.connect answers) =
        (false, { t with actualSocket := none, sockets := { t.sockets with next := t.sockets.next + 1 } }))) ∨
    (Connects answers ∧ t.connect answers =
      setup { t with actualSocket := some t.sockets.next, sockets := t.sockets.take } answers.setup) := by
  obtain ⟨opens, connects, updates, setup⟩ := answers
  have closed : closeAndInvalidateSocket { t with actualSocket := some t.sockets.next, sockets := t.sockets.take } =
      { t with actualSocket := none, sockets := { t.sockets with next := t.sockets.next + 1 } } := by
    rw [closeAndInvalidateSocket]
    simp only [Ledger.take_give]
  unfold connect
  cases opens with
  | false => exact .inl ⟨by simp [Connects], .inl rfl⟩
  | true =>
      cases connects with
      | false => exact .inl ⟨by simp [Connects], .inr (congrArg (Prod.mk false) closed)⟩
      | true =>
          cases updates with
          | false => exact .inl ⟨by simp [Connects], .inr (congrArg (Prod.mk false) closed)⟩
          | true => exact .inr ⟨⟨rfl, rfl, rfl⟩, rfl⟩

/-- `Connect` is called with no socket open, and once its connection is up, it is the first and `Setup`
succeeds. -/
def Proper (t : SockHandles) : SockAction → Prop
  | .connect answers => t.actualSocket = none ∧ (Connects answers → t.readEvent = none ∧
      answers.setup.noDelay ∧ answers.setup.createsRead ∧ answers.setup.createsWrite)
  | .disconnect _ | .reset => True

theorem Sound.disconnect (sound : t.Sound) (close : Bool) :
    (t.disconnect close).2.Sound ∧ (close = true → (t.disconnect close).2.actualSocket = none) := by
  have idle (socket : t.actualSocket = none) : t.disconnect close = (true, t) := by
    rw [SockHandles.disconnect, socket]
    rfl
  cases sound with
  | fresh socket read write sockets events =>
      rw [idle socket]
      exact ⟨.fresh socket read write sockets events, fun _ => socket⟩
  | closed r socket stale sockets events =>
      rw [idle socket]
      exact ⟨.closed r socket stale sockets events, fun _ => socket⟩
  | opened s r w socket read write sockets events =>
      cases close with
      | false =>
          rw [SockHandles.disconnect, Bool.not_false, Bool.or_true, if_pos rfl]
          exact ⟨.opened s r w socket read write sockets events, nofun⟩
      | true =>
          have read_out : r ∈ t.events.held := events.perm.mem_iff.mpr List.mem_cons_self
          have write_out : w ∈ (t.events.give r).held := events.give.perm.mem_iff.mpr List.mem_cons_self
          have ends : t.disconnect true = (true, { t with
              actualSocket := none, sockets := t.sockets.give s, events := (t.events.give r).give w }) := by
            unfold SockHandles.disconnect closeEvent closeAndInvalidateSocket
            simp [socket, read, write, read_out, write_out]
          have below := events.below r read_out
          rw [ends]
          refine ⟨?_, fun _ => rfl⟩
          apply Sound.closed r rfl
          · constructor
            · exact read
            · rw [events.give.give.empty]
              exact List.not_mem_nil
            · rw [Ledger.give_next, Ledger.give_next]
              exact below
          · exact sockets.give
          · exact events.give.give

/-- An attempt that ends before `Setup` leaves the object as it was. -/
theorem Sound.attempt (sound : t.Sound) (unconnected : t.actualSocket = none) {l : Ledger}
    (given : ∀ owned, t.sockets.Balanced owned → l.Balanced owned) :
    Sound { t with actualSocket := none, sockets := l } := by
  cases sound with
  | fresh socket read write sockets events => exact .fresh rfl read write (given [] sockets) events
  | closed r socket stale sockets events =>
      exact .closed r rfl ⟨stale.read, stale.closed, stale.below⟩ (given [] sockets) events
  | opened s r w socket =>
      rw [unconnected] at socket
      cases socket

theorem Sound.step (sound : t.Sound) {action : SockAction} (proper : t.Proper action) : (t.step action).Sound := by
  cases action with
  | disconnect close => exact (sound.disconnect close).1
  | reset => exact (sound.disconnect true).1
  | connect answers =>
      obtain ⟨unconnected, first⟩ := proper
      rw [SockHandles.step]
      rcases connect_cases t answers with ⟨-, ends | ends⟩ | ⟨connects, ends⟩
      · rw [ends]
        exact sound.attempt unconnected fun owned balanced => balanced
      · rw [ends]
        exact sound.attempt unconnected fun owned balanced => t.sockets.take_give ▸ balanced.take.give
      · obtain ⟨read, works⟩ := first connects
        cases sound with
        | fresh socket _ write sockets events =>
            have made := setup_fresh (t := { t with
              actualSocket := some t.sockets.next, sockets := t.sockets.take }) read write answers.setup
            rw [if_pos works] at made
            rw [ends, made]
            apply Sound.opened t.sockets.next t.events.next (t.events.next + 1) rfl rfl rfl
            · exact sockets.take
            · exact events.take.take.congr (.swap _ _ _)
        | closed r _ stale =>
            have set := stale.read
            rw [read] at set
            cases set
        | opened s r w socket =>
            rw [unconnected] at socket
            cases socket

/-- After `Connect` the member no longer names a socket that was open before. -/
theorem connect_doomed {s : Handle} (below : ∀ name ∈ t.sockets.held, name < t.sockets.next)
    (out : s ∈ t.sockets.held) (answers : ConnectAnswers) : (t.connect answers).2.Doomed s := by
  have later : ∀ name ∈ t.sockets.held, name < t.sockets.next + 1 :=
    fun name member => Nat.lt_succ_of_lt (below name member)
  rcases connect_cases t answers with ⟨-, ends | ends⟩ | ⟨-, ends⟩
  · rw [ends]
    exact ⟨below, out, nofun⟩
  · rw [ends]
    exact ⟨later, out, nofun⟩
  · have keeps := setup_keeps { t with
      actualSocket := some t.sockets.next, sockets := t.sockets.take } answers.setup
    rw [ends]
    constructor
    · rw [keeps.1]
      exact List.forall_mem_cons.mpr ⟨Nat.lt_succ_self _, later⟩
    · rw [keeps.1]
      exact List.mem_cons_of_mem _ out
    · rw [keeps.2]
      intro same
      exact absurd (Option.some.inj same) (Nat.ne_of_gt (below s out))

theorem disconnect_cases (t : SockHandles) (close : Bool) :
    (t.disconnect close).2 = t ∨
    ((t.disconnect close).2.sockets = t.sockets ∧ (t.disconnect close).2.actualSocket = t.actualSocket ∧
      ¬ (t.disconnect close).2.Live) ∨
    (∃ s, t.actualSocket = some s ∧ t.Live ∧ (t.disconnect close).2.sockets = t.sockets.give s ∧
      (t.disconnect close).2.actualSocket = none) := by
  unfold disconnect
  split
  · exact .inl rfl
  · rename_i closes
    obtain ⟨s, socket⟩ : ∃ s, t.actualSocket = some s := by
      cases socket : t.actualSocket with
      | none => simp [socket] at closes
      | some s => exact ⟨s, rfl⟩
    cases read : t.readEvent with
    | none => exact .inl rfl
    | some r =>
        by_cases read_out : r ∈ t.events.held
        · cases write : t.writeEvent with
          | none =>
              refine .inr (.inl ?_)
              simp [closeEvent, read_out, write, Live]
          | some w =>
              by_cases write_out : w ∈ (t.events.give r).held
              · refine .inr (.inr ⟨s, socket, ⟨r, w, read, write, read_out, write_out⟩, ?_⟩)
                simp [closeEvent, read_out, write, write_out, closeAndInvalidateSocket, socket]
              · refine .inr (.inl ?_)
                simp only [closeEvent, read_out, write, write_out, decide_true, decide_false]
                refine ⟨trivial, trivial, ?_⟩
                rintro ⟨r', w', -, is, -, out⟩
                obtain rfl := Option.some.inj is
                exact write_out (Ledger.give_subset _ w (Ledger.give_subset _ r' out))
        · refine .inr (.inl ?_)
          simp [closeEvent, read_out, Live, Ledger.give, read]

theorem Doomed.step {s : Handle} (doomed : t.Doomed s) (action : SockAction) : (t.step action).Doomed s := by
  obtain ⟨below, out, lost⟩ := doomed
  have disconnects (close : Bool) : (t.disconnect close).2.Doomed s := by
    rcases disconnect_cases t close with same | ⟨sockets, -, dead⟩ | ⟨other, socket, live, sockets, gone⟩
    · rw [same]
      exact ⟨below, out, lost⟩
    · exact ⟨sockets ▸ below, sockets ▸ out, fun _ => dead⟩
    · -- The socket that is closed is another one.
      have other_ne : s ≠ other := fun same => lost (same ▸ socket) live
      constructor
      · rw [sockets]
        intro name member
        have next : (t.sockets.give other).next = t.sockets.next := t.sockets.give_next other
        rw [next]
        exact below name (Ledger.give_subset _ _ member)
      · rw [sockets, Ledger.give]
        split
        · exact (List.mem_erase_of_ne other_ne).mpr out
        · exact out
      · rw [gone]
        intro same
        cases same
  cases action with
  | disconnect close => exact disconnects close
  | reset => exact disconnects true
  | connect answers => exact connect_doomed below out answers

/-! ## Whole runs -/

theorem Sound.destruct (sound : t.Sound) : t.destruct.sockets.Balanced [] ∧ t.destruct.events.Balanced [] := by
  obtain ⟨ends, shut⟩ := sound.disconnect true
  rw [SockHandles.destruct]
  cases ends with
  | fresh socket read write sockets events => exact ⟨sockets, events⟩
  | closed r socket stale sockets events => exact ⟨sockets, events⟩
  | opened s r w socket =>
      rw [shut rfl] at socket
      cases socket

theorem Stale.give {r : Handle} (stale : t.Stale r) (event : Handle) :
    Stale { t with events := t.events.give event } r where
  read := stale.read
  closed member := stale.closed (Ledger.give_subset _ _ member)
  below := by
    rw [Ledger.give_next]
    exact stale.below

theorem Stale.disconnect {r : Handle} (stale : t.Stale r) (close : Bool) : (t.disconnect close).2.Stale r := by
  unfold SockHandles.disconnect
  split
  · exact stale
  · rw [stale.read]
    simp only [closeEvent, decide_eq_false stale.closed]
    exact stale.give r

theorem Stale.step {r : Handle} (stale : t.Stale r) (action : SockAction) : (t.step action).Stale r := by
  cases action with
  | disconnect close => exact stale.disconnect close
  | reset => exact stale.disconnect true
  | connect answers =>
      rw [SockHandles.step]
      rcases connect_cases t answers with ⟨-, ends | ends⟩ | ⟨-, ends⟩
      · rw [ends]
        exact ⟨stale.read, stale.closed, stale.below⟩
      · rw [ends]
        exact ⟨stale.read, stale.closed, stale.below⟩
      · rw [ends]
        exact (setup_stale (t := { t with actualSocket := some t.sockets.next, sockets := t.sockets.take })
          ⟨stale.read, stale.closed, stale.below⟩ answers.setup).2

/-- What every run keeps. -/
structure Kept (t : SockHandles) : Prop where
  sockets : ∀ name ∈ t.sockets.held, name < t.sockets.next
  events : ∀ name ∈ t.events.held, name < t.events.next
  nodup : t.events.held.Nodup
  read : ∀ r, t.readEvent = some r → r < t.events.next

theorem Kept.takeEvent (kept : t.Kept) :
    Kept { t with events := t.events.take } ∧ Kept { t with readEvent := some t.events.next, events := t.events.take } := by
  have events : ∀ name ∈ t.events.take.held, name < t.events.next + 1 :=
    List.forall_mem_cons.mpr ⟨Nat.lt_succ_self _, fun name member => Nat.lt_succ_of_lt (kept.events name member)⟩
  have nodup : t.events.take.held.Nodup :=
    List.nodup_cons.mpr ⟨fun member => Nat.lt_irrefl _ (kept.events _ member), kept.nodup⟩
  constructor
  · exact ⟨kept.sockets, events, nodup, fun r is => Nat.lt_succ_of_lt (kept.read r is)⟩
  · refine ⟨kept.sockets, events, nodup, fun r is => ?_⟩
    obtain rfl := Option.some.inj is
    exact Nat.lt_succ_self _

theorem Kept.give (kept : t.Kept) (event : Handle) : Kept { t with events := t.events.give event } where
  sockets := kept.sockets
  events name member := by
    rw [Ledger.give_next]
    exact kept.events name (Ledger.give_subset _ _ member)
  nodup := by
    rw [Ledger.give]
    split
    · exact kept.nodup.erase event
    · exact kept.nodup
  read r is := by
    rw [Ledger.give_next]
    exact kept.read r is

theorem Kept.setup (kept : t.Kept) (answers : SetupAnswers) : (t.setup answers).2.Kept := by
  have read : (t.makeReadEvent answers.createsRead).Kept := by
    unfold makeReadEvent createEvent
    split
    · cases answers.createsRead with
      | false => exact ⟨kept.sockets, kept.events, kept.nodup, nofun⟩
      | true => exact kept.takeEvent.2
    · exact kept
  have write : ((t.makeReadEvent answers.createsRead).makeWriteEvent answers.createsWrite).Kept := by
    unfold makeWriteEvent createEvent
    split
    · cases answers.createsWrite with
      | false => exact ⟨read.sockets, read.events, read.nodup, read.read⟩
      | true =>
          have taken := read.takeEvent.1
          exact ⟨taken.sockets, taken.events, taken.nodup, taken.read⟩
    · exact read
  unfold SockHandles.setup
  split
  · exact kept
  · dsimp only
    split
    · exact read
    · split
      · exact write
      · exact write

theorem Kept.closeEvent (kept : t.Kept) (event : Option Handle) : (t.closeEvent event).2.Kept := by
  cases event with
  | none => exact kept
  | some event => exact kept.give event

theorem Kept.closeAndInvalidateSocket (kept : t.Kept) : t.closeAndInvalidateSocket.Kept := by
  unfold SockHandles.closeAndInvalidateSocket
  split
  · refine ⟨fun name member => ?_, kept.events, kept.nodup, kept.read⟩
    rw [Ledger.give_next]
    exact kept.sockets name (Ledger.give_subset _ _ member)
  · exact kept

theorem Kept.disconnect (kept : t.Kept) (close : Bool) : (t.disconnect close).2.Kept := by
  have read := kept.closeEvent t.readEvent
  unfold SockHandles.disconnect
  split
  · exact kept
  · split
    · rename_i ends
      exact ends ▸ read
    · rename_i middle ends
      rw [ends] at read
      have write := read.closeEvent middle.writeEvent
      split
      · rename_i ends'
        exact ends' ▸ write
      · rename_i ends'
        rw [ends'] at write
        exact write.closeAndInvalidateSocket

theorem Kept.step (kept : t.Kept) (action : SockAction) : (t.step action).Kept := by
  cases action with
  | disconnect close => exact kept.disconnect close
  | reset => exact kept.disconnect true
  | connect answers =>
      have later : ∀ name ∈ t.sockets.held, name < t.sockets.next + 1 :=
        fun name member => Nat.lt_succ_of_lt (kept.sockets name member)
      rw [SockHandles.step]
      rcases connect_cases t answers with ⟨-, ends | ends⟩ | ⟨-, ends⟩
      · rw [ends]
        exact ⟨kept.sockets, kept.events, kept.nodup, kept.read⟩
      · rw [ends]
        exact ⟨later, kept.events, kept.nodup, kept.read⟩
      · rw [ends]
        apply Kept.setup
        exact ⟨List.forall_mem_cons.mpr ⟨Nat.lt_succ_self _, later⟩, kept.events, kept.nodup, kept.read⟩

/-- A `Disconnect` that succeeds on an open socket has closed the read event. -/
theorem Kept.stale (kept : t.Kept) (open_ : t.actualSocket ≠ none) (closes : (t.disconnect true).1 = true) :
    ∃ r, (t.disconnect true).2.Stale r := by
  obtain ⟨s, socket⟩ := Option.ne_none_iff_exists'.mp open_
  unfold SockHandles.disconnect at closes ⊢
  rw [if_neg (by simp [socket])] at closes ⊢
  cases read : t.readEvent with
  | none =>
      rw [read] at closes
      cases closes
  | some r =>
      rw [read] at closes
      by_cases read_out : r ∈ t.events.held
      · simp only [SockHandles.closeEvent, decide_eq_true read_out] at closes ⊢
        have gone : Stale { t with events := t.events.give r } r := by
          constructor
          · exact read
          · rw [Ledger.give, if_pos read_out]
            exact kept.nodup.not_mem_erase
          · rw [Ledger.give_next]
            exact kept.read r read
        refine ⟨r, ?_⟩
        cases write : t.writeEvent with
        | none =>
            rw [write] at closes
            cases closes
        | some w =>
            by_cases write_out : w ∈ (t.events.give r).held
            · simp only [decide_eq_true write_out, socket]
              have closed := gone.give w
              exact ⟨closed.read, closed.closed, closed.below⟩
            · rw [write] at closes
              simp [decide_eq_false write_out] at closes
      · simp [SockHandles.closeEvent, decide_eq_false read_out] at closes

end LuaXENetwork.SockHandles
