import LuaXENetwork.Socket.BaseSock
import Mathlib.Data.List.Forall2

/-! What a socket does depends on how much is written, not on what. -/

namespace LuaXENetwork

variable {byte : UInt8 → UInt8 → Prop}

/-- The same target, but for the bytes that are written. -/
inductive Target.Mirrors (byte : UInt8 → UInt8 → Prop) : Target → Target → Prop
  | read (buffer offset length : Nat) : Target.Mirrors byte (.read buffer offset length)
      (.read buffer offset length)
  | write {data data' : Bytes} (bytes : List.Forall₂ byte data data') :
      Target.Mirrors byte (.write data) (.write data')

theorem Target.Mirrors.isRead {target target' : Target} (same : target.Mirrors byte target') :
    target.isRead = target'.isRead := by
  cases same <;> rfl

inductive Operation.Mirrors (byte : UInt8 → UInt8 → Prop) : Operation → Operation → Prop
  | intro (due : Nat) (result : IoResult) {target target' : Target}
      (same : target.Mirrors byte target') :
      Operation.Mirrors byte ⟨due, result, target⟩ ⟨due, result, target'⟩

namespace BaseSock

inductive Mirrors (byte : UInt8 → UInt8 → Prop) (s : BaseSock) : BaseSock → Prop
  | intro {sent : Bytes} {outstanding : List Operation} (bytes : List.Forall₂ byte s.sent sent)
      (operations : List.Forall₂ (Operation.Mirrors byte) s.outstanding outstanding) :
      Mirrors byte s { s with sent := sent, outstanding := outstanding }

def Agree {α : Type} (byte : UInt8 → UInt8 → Prop) (x y : α × BaseSock) : Prop :=
  x.1 = y.1 ∧ Mirrors byte x.2 y.2

@[elab_as_elim]
theorem Agree.elim {α : Type} {motive : α × BaseSock → α × BaseSock → Prop} {x y : α × BaseSock}
    (agree : Agree byte x y) (pair : ∀ a s t, Mirrors byte s t → motive (a, s) (a, t)) : motive x y := by
  obtain ⟨a, s⟩ := x
  obtain ⟨a', t⟩ := y
  obtain ⟨same, mirrors⟩ := agree
  obtain rfl : a = a' := same
  exact pair a s t mirrors

@[elab_as_elim]
theorem Agree.elim₂ {motive : Bool × Nat × BaseSock → Bool × Nat × BaseSock → Prop}
    {x y : Bool × Nat × BaseSock} (agree : x.1 = y.1 ∧ Agree byte x.2 y.2)
    (triple : ∀ ended error s t, Mirrors byte s t → motive (ended, error, s) (ended, error, t)) :
    motive x y := by
  obtain ⟨ended, error, s⟩ := x
  obtain ⟨ended', error', t⟩ := y
  obtain ⟨same, same', mirrors⟩ := agree
  obtain rfl : ended = ended' := same
  obtain rfl : error = error' := same'
  exact triple ended error s t mirrors

variable {s t : BaseSock}

theorem Mirrors.clock (mirrors : Mirrors byte s t) : s.clock = t.clock := by
  obtain ⟨bytes, operations⟩ := mirrors
  rfl

theorem Mirrors.lastError (mirrors : Mirrors byte s t) : s.lastError = t.lastError := by
  obtain ⟨bytes, operations⟩ := mirrors
  rfl

theorem Mirrors.sent (mirrors : Mirrors byte s t) : List.Forall₂ byte s.sent t.sent := by
  obtain ⟨bytes, operations⟩ := mirrors
  exact bytes

theorem setTimeouts_mirrors (seconds : Int) (mirrors : Mirrors byte s t) :
    Mirrors byte ((s.setSendTimeoutSeconds seconds).setRecvTimeoutSeconds seconds)
      ((t.setSendTimeoutSeconds seconds).setRecvTimeoutSeconds seconds) := by
  obtain ⟨bytes, operations⟩ := mirrors
  exact .intro bytes operations

theorem complete_mirrors {operation operation' : Operation} (mirrors : Mirrors byte s t)
    (same : operation.Mirrors byte operation') :
    Mirrors byte (s.complete operation) (t.complete operation') := by
  obtain ⟨bytes, operations⟩ := mirrors
  obtain ⟨due, result, target⟩ := same
  cases target with
  | read buffer offset length => cases result <;> exact .intro bytes operations
  | write written =>
      cases result with
      | failed error => exact .intro bytes operations
      | bytes count =>
          have taken := List.forall₂_take count written
          have length := taken.length_eq
          simp only [complete, length]
          exact .intro (List.rel_append bytes taken) operations

theorem mirrors_takeWhile {operations operations' : List Operation} (time : Nat)
    (same : List.Forall₂ (Operation.Mirrors byte) operations operations') :
    List.Forall₂ (Operation.Mirrors byte) (operations.takeWhile (·.due ≤ time))
      (operations'.takeWhile (·.due ≤ time)) ∧
    List.Forall₂ (Operation.Mirrors byte) (operations.dropWhile (·.due ≤ time))
      (operations'.dropWhile (·.due ≤ time)) := by
  induction same with
  | nil => exact ⟨.nil, .nil⟩
  | @cons first first' later later' one rest ih =>
      obtain ⟨due, result, target⟩ := one
      by_cases passed : due ≤ time
      · simp only [List.takeWhile_cons, List.dropWhile_cons, passed, decide_true, if_true]
        exact ⟨.cons (.intro due result target) ih.1, ih.2⟩
      · simp only [List.takeWhile_cons, List.dropWhile_cons, passed, decide_false, Bool.false_eq_true,
          if_false]
        exact ⟨.nil, .cons (.intro due result target) rest⟩

theorem foldl_complete_mirrors {operations operations' : List Operation} (mirrors : Mirrors byte s t)
    (same : List.Forall₂ (Operation.Mirrors byte) operations operations') :
    Mirrors byte (operations.foldl complete s) (operations'.foldl complete t) := by
  induction same generalizing s t with
  | nil => exact mirrors
  | cons one rest ih => exact ih (complete_mirrors mirrors one)

theorem runTo_mirrors (time : Nat) (mirrors : Mirrors byte s t) :
    Mirrors byte (s.runTo time) (t.runTo time) := by
  obtain ⟨bytes, operations⟩ := mirrors
  obtain ⟨passed, left⟩ := mirrors_takeWhile time operations
  exact foldl_complete_mirrors (.intro bytes left) passed

theorem any_isRead_mirrors {operations operations' : List Operation}
    (same : List.Forall₂ (Operation.Mirrors byte) operations operations') :
    operations.any (·.target.isRead) = operations'.any (·.target.isRead) := by
  induction same with
  | nil => rfl
  | cons one rest ih =>
      obtain ⟨due, result, same⟩ := one
      rw [List.any_cons, List.any_cons, ih, same.isRead]

theorem initialiseOs_mirrors (mirrors : Mirrors byte s t) :
    Mirrors byte s.initialiseOs t.initialiseOs := by
  obtain ⟨bytes, operations⟩ := mirrors
  simp only [initialiseOs, ← any_isRead_mirrors operations]
  exact .intro bytes operations

theorem resetReadEvent_mirrors (mirrors : Mirrors byte s t) :
    Agree byte s.resetReadEvent t.resetReadEvent := by
  obtain ⟨bytes, operations⟩ := mirrors
  unfold resetReadEvent
  split_ifs
  · exact ⟨rfl, .intro bytes operations⟩
  · dsimp only
    split <;> exact ⟨rfl, .intro bytes operations⟩

theorem resetWriteEvent_mirrors (mirrors : Mirrors byte s t) :
    Agree byte s.resetWriteEvent t.resetWriteEvent := by
  obtain ⟨bytes, operations⟩ := mirrors
  unfold resetWriteEvent
  split_ifs
  · exact ⟨rfl, .intro bytes operations⟩
  · dsimp only
    split <;> exact ⟨rfl, .intro bytes operations⟩

theorem start_mirrors (mirrors : Mirrors byte s t) (answer : IoAnswer) {target target' : Target}
    (same : target.Mirrors byte target') :
    (s.start answer target).1 = (t.start answer target').1 ∧
      Agree byte (s.start answer target).2 (t.start answer target').2 := by
  cases answer with
  | eventLost error => exact ⟨rfl, rfl, mirrors⟩
  | refused error => exact ⟨rfl, rfl, mirrors⟩
  | done delay result =>
      cases delay with
      | zero =>
          cases result with
          | failed error => exact ⟨rfl, rfl, mirrors⟩
          | bytes count =>
              obtain ⟨bytes, operations⟩ := mirrors
              exact ⟨rfl, rfl, complete_mirrors (.intro bytes operations) (.intro _ _ same)⟩
      | succ delay =>
          obtain ⟨bytes, operations⟩ := mirrors
          obtain ⟨passed, left⟩ := mirrors_takeWhile (s.clock + (delay + 1)) operations
          exact ⟨rfl, rfl, .intro bytes (List.rel_append passed (.cons (.intro _ _ same) left))⟩

theorem wsaRecv_mirrors (mirrors : Mirrors byte s t) (buffer offset length : Nat) :
    (s.wsaRecv buffer offset length).1 = (t.wsaRecv buffer offset length).1 ∧
      Agree byte (s.wsaRecv buffer offset length).2 (t.wsaRecv buffer offset length).2 := by
  obtain ⟨bytes, operations⟩ := mirrors
  exact start_mirrors (s := { s with reads := s.reads.tail }) (.intro bytes operations) _ (.read _ _ _)

theorem wsaSend_mirrors (mirrors : Mirrors byte s t) {data data' : Bytes}
    (same : List.Forall₂ byte data data') :
    (s.wsaSend data).1 = (t.wsaSend data').1 ∧ Agree byte (s.wsaSend data).2 (t.wsaSend data').2 := by
  obtain ⟨bytes, operations⟩ := mirrors
  unfold wsaSend
  rw [← same.length_eq]
  exact start_mirrors (s := { s with writes := s.writes.tail }) (.intro bytes operations) _
    (.write (List.forall₂_take _ same))

theorem find_isRead_mirrors (isRead : Bool) {operations operations' : List Operation}
    (same : List.Forall₂ (Operation.Mirrors byte) operations operations') :
    (operations.find? (·.target.isRead == isRead)).map Operation.due =
      (operations'.find? (·.target.isRead == isRead)).map Operation.due := by
  induction same with
  | nil => rfl
  | cons one rest ih =>
      obtain ⟨due, result, same⟩ := one
      simp only [List.find?_cons, same.isRead]
      split
      · rfl
      · exact ih

theorem signalTime_mirrors (isRead : Bool) (mirrors : Mirrors byte s t) :
    s.signalTime isRead = t.signalTime isRead := by
  obtain ⟨bytes, operations⟩ := mirrors
  unfold signalTime
  rw [find_isRead_mirrors isRead operations]

theorem waitFor_mirrors (isRead : Bool) (milliseconds : Nat) (mirrors : Mirrors byte s t) :
    Agree byte (s.waitFor isRead milliseconds) (t.waitFor isRead milliseconds) := by
  have signals := signalTime_mirrors isRead mirrors
  obtain ⟨bytes, operations⟩ := mirrors
  have waited : Mirrors byte { s with waits := s.waits.tail } _ := .intro bytes operations
  unfold waitFor
  rw [← signals]
  dsimp only
  split_ifs
  · exact ⟨rfl, waited⟩
  · split
    · exact ⟨rfl, waited⟩
    · exact ⟨rfl, runTo_mirrors _ waited⟩
    all_goals
      split_ifs
      all_goals exact ⟨rfl, runTo_mirrors _ waited⟩

theorem awaitPending_mirrors (mirrors : Mirrors byte s t) :
    Mirrors byte s.awaitPending t.awaitPending := by
  have start := mirrors
  obtain ⟨bytes, operations⟩ := mirrors
  unfold awaitPending
  dsimp only
  cases s.os.status with
  | pending =>
      rcases waiting : s.outstanding with _ | ⟨first, rest⟩
      all_goals
        rw [waiting] at operations
        rcases operations with _ | ⟨one, rest⟩
      · exact start
      · obtain ⟨due, result, same⟩ := one
        exact runTo_mirrors due start
  | success => exact start
  | failed error => exact start

theorem overlappedResult_mirrors (mirrors : Mirrors byte s t) :
    Agree byte s.overlappedResult t.overlappedResult := by
  have waited := awaitPending_mirrors mirrors
  unfold overlappedResult
  generalize s.awaitPending = s' at waited
  generalize t.awaitPending = t' at waited
  obtain ⟨bytes, operations⟩ := waited
  dsimp only
  split <;> exact ⟨rfl, .intro bytes operations⟩

/-! ## Reading -/

theorem collectRead_mirrors (mirrors : Mirrors byte s t) : Agree byte s.collectRead t.collectRead := by
  have result : Agree byte (overlappedResult { s with recvInitiated := false })
      (overlappedResult { t with recvInitiated := false }) := by
    obtain ⟨bytes, operations⟩ := mirrors
    exact overlappedResult_mirrors (.intro bytes operations)
  unfold collectRead
  refine result.elim fun answer s t mirrors => ?_
  have ends := mirrors
  obtain ⟨bytes, operations⟩ := mirrors
  cases answer with
  | ok count => exact ⟨rfl, ends⟩
  | error error =>
      by_cases closed : error = 0
      · simp only [if_pos closed]
        exact ⟨rfl, ends⟩
      · simp only [if_neg closed]
        exact ⟨rfl, .intro bytes operations⟩

theorem awaitRead_mirrors (mirrors : Mirrors byte s t) (secondsLeft : Int) :
    Agree byte (s.awaitRead secondsLeft) (t.awaitRead secondsLeft) := by
  unfold awaitRead
  refine (waitFor_mirrors true (waitMilliseconds secondsLeft) mirrors).elim fun waited s t mirrors => ?_
  obtain ⟨bytes, operations⟩ := mirrors
  cases waited with
  | event => exact collectRead_mirrors (.intro bytes operations)
  | timeout => exact ⟨rfl, .intro bytes operations⟩
  | failed error => exact ⟨rfl, .intro bytes operations⟩
  | other => exact ⟨rfl, .intro bytes operations⟩

theorem startRead_mirrors (mirrors : Mirrors byte s t) (buffer offset length : Nat) (secondsLeft : Int) :
    Agree byte (s.startRead buffer offset length secondsLeft)
      (t.startRead buffer offset length secondsLeft) := by
  unfold startRead
  refine (resetReadEvent_mirrors (initialiseOs_mirrors mirrors)).elim fun error s t mirrors => ?_
  cases error with
  | some error =>
      obtain ⟨bytes, operations⟩ := mirrors
      exact ⟨rfl, .intro bytes operations⟩
  | none =>
      have begun : Mirrors byte { s with recvInitiated := true } { t with recvInitiated := true } := by
        obtain ⟨bytes, operations⟩ := mirrors
        exact .intro bytes operations
      dsimp only
      refine Agree.elim₂ (wsaRecv_mirrors begun buffer offset length) fun ended error s t mirrors => ?_
      obtain ⟨bytes, operations⟩ := mirrors
      cases ended with
      | true => exact collectRead_mirrors (.intro bytes operations)
      | false =>
          by_cases pending : error = wsaIoPending
          · simp only [Bool.false_eq_true, if_false, if_pos pending]
            refine awaitRead_mirrors ?_ secondsLeft
            exact .intro bytes operations
          · simp only [Bool.false_eq_true, if_false, if_neg pending]
            exact ⟨rfl, .intro bytes operations⟩

theorem recvPartial_mirrors (mirrors : Mirrors byte s t) (buffer offset length : Nat) :
    Agree byte (s.recvPartial buffer offset length) (t.recvPartial buffer offset length) := by
  obtain ⟨bytes, operations⟩ := mirrors
  unfold recvPartial
  dsimp only [seconds]
  split_ifs
  · exact ⟨rfl, .intro bytes operations⟩
  · refine awaitRead_mirrors ?_ _
    exact .intro bytes operations
  · exact startRead_mirrors (.intro bytes operations) _ _ _ _

theorem recvLoop_mirrors (mirrors : Mirrors byte s t) (buffer length minLength total : Nat) :
    Agree byte (s.recvLoop buffer length minLength total) (t.recvLoop buffer length minLength total) := by
  induction h : minLength - total using Nat.strong_induction_on generalizing s t total with
  | _ left ih =>
      rw [recvLoop.eq_1 s, recvLoop.eq_1 t]
      by_cases more : total < minLength
      · simp only [if_pos more]
        refine (recvPartial_mirrors mirrors buffer total (length - total)).elim
          fun count s t mirrors => ?_
        rcases count with _ | _ | count
        · obtain ⟨bytes, operations⟩ := mirrors
          exact ⟨rfl, .intro bytes operations⟩
        · exact ⟨rfl, mirrors⟩
        · exact ih _ (by omega) mirrors _ rfl
      · simp only [if_neg more]
        exact ⟨rfl, mirrors⟩

theorem recv_mirrors (mirrors : Mirrors byte s t) (buffer length minLength : Nat) :
    Agree byte (s.recv buffer length minLength) (t.recv buffer length minLength) := by
  refine recvLoop_mirrors ?_ buffer length minLength 0
  obtain ⟨bytes, operations⟩ := mirrors
  dsimp only
  split
  · exact .intro bytes operations
  · exact .intro bytes operations

theorem receive_mirrors (mirrors : Mirrors byte s t) (length minLength : Nat) :
    Agree byte (s.receive length minLength) (t.receive length minLength) := by
  have allocated : Mirrors byte (s.allocate length) (t.allocate length) ∧ s.buffers = t.buffers := by
    obtain ⟨bytes, operations⟩ := mirrors
    exact ⟨.intro bytes operations, rfl⟩
  unfold receive
  rw [← allocated.2]
  refine (recv_mirrors allocated.1 s.buffers length minLength).elim fun count s' t' mirrors => ?_
  have ends := mirrors
  obtain ⟨bytes, operations⟩ := mirrors
  cases count with
  | none => exact ⟨rfl, ends⟩
  | some count => exact ⟨rfl, ends⟩

/-! ## Writing -/

theorem sendFailed_mirrors (mirrors : Mirrors byte s t) : Agree byte s.sendFailed t.sendFailed := by
  have ends := mirrors
  obtain ⟨bytes, operations⟩ := mirrors
  unfold sendFailed
  dsimp only
  split
  · exact ⟨rfl, .intro bytes .nil⟩
  · exact ⟨rfl, ends⟩

theorem collectWrite_mirrors (mirrors : Mirrors byte s t) :
    Agree byte s.collectWrite t.collectWrite := by
  unfold collectWrite
  refine (overlappedResult_mirrors mirrors).elim fun answer s t mirrors => ?_
  cases answer with
  | ok count => exact ⟨rfl, mirrors⟩
  | error error =>
      by_cases closed : error = 0
      · simp only [if_pos closed]
        exact ⟨rfl, mirrors⟩
      · simp only [if_neg closed]
        obtain ⟨bytes, operations⟩ := mirrors
        exact sendFailed_mirrors (.intro bytes operations)

theorem awaitWrite_mirrors (mirrors : Mirrors byte s t) (secondsLeft : Int) :
    Agree byte (s.awaitWrite secondsLeft) (t.awaitWrite secondsLeft) := by
  unfold awaitWrite
  refine (waitFor_mirrors false (waitMilliseconds secondsLeft) mirrors).elim fun waited s t mirrors => ?_
  obtain ⟨bytes, operations⟩ := mirrors
  cases waited with
  | event => exact collectWrite_mirrors (.intro bytes operations)
  | timeout => exact sendFailed_mirrors (.intro bytes operations)
  | failed error => exact sendFailed_mirrors (.intro bytes operations)
  | other => exact sendFailed_mirrors (.intro bytes operations)

theorem sendPartial_mirrors (mirrors : Mirrors byte s t) {data data' : Bytes}
    (same : List.Forall₂ byte data data') : Agree byte (s.sendPartial data) (t.sendPartial data') := by
  unfold sendPartial
  refine (resetWriteEvent_mirrors (initialiseOs_mirrors mirrors)).elim fun error s t mirrors => ?_
  cases error with
  | some error =>
      obtain ⟨bytes, operations⟩ := mirrors
      exact ⟨rfl, .intro bytes operations⟩
  | none =>
      dsimp only
      refine Agree.elim₂ (wsaSend_mirrors mirrors same) fun ended error s t mirrors => ?_
      have left : (t.sendEndTime : Int) - t.seconds = s.sendEndTime - s.seconds := by
        obtain ⟨bytes, operations⟩ := mirrors
        rfl
      dsimp only
      rw [left]
      obtain ⟨bytes, operations⟩ := mirrors
      split_ifs
      · exact ⟨rfl, .intro bytes operations⟩
      · exact collectWrite_mirrors (.intro bytes operations)
      · refine awaitWrite_mirrors ?_ _
        exact .intro bytes operations
      · exact sendFailed_mirrors (.intro bytes operations)

theorem sendLoop_mirrors (mirrors : Mirrors byte s t) {data data' : Bytes}
    (same : List.Forall₂ byte data data') (total : Nat) :
    Agree byte (s.sendLoop data total) (t.sendLoop data' total) := by
  induction h : data.length - total using Nat.strong_induction_on generalizing s t total with
  | _ left ih =>
      rw [sendLoop.eq_1 s, sendLoop.eq_1 t, ← same.length_eq]
      by_cases more : total < data.length
      · simp only [if_pos more]
        refine (sendPartial_mirrors mirrors (List.forall₂_drop total same)).elim
          fun count s t mirrors => ?_
        rcases count with _ | _ | count
        · exact ⟨rfl, mirrors⟩
        · exact ⟨rfl, mirrors⟩
        · exact ih _ (by omega) mirrors _ rfl
      · simp only [if_neg more]
        exact ⟨rfl, mirrors⟩

theorem send_mirrors (mirrors : Mirrors byte s t) {data data' : Bytes}
    (same : List.Forall₂ byte data data') : Agree byte (s.send data) (t.send data') := by
  refine sendLoop_mirrors ?_ same 0
  obtain ⟨bytes, operations⟩ := mirrors
  dsimp only
  split
  · exact .intro bytes operations
  · exact .intro bytes operations

/-! ## Connecting -/

theorem connect_mirrors (mirrors : Mirrors byte s t) : Agree byte s.connect t.connect := by
  obtain ⟨bytes, operations⟩ := mirrors
  have taken : Mirrors byte { s with connects := s.connects.tail } _ := .intro bytes operations
  have ended {s t : BaseSock} (mirrors : Mirrors byte s t) (error : Nat) (isOpen : Bool) :
      Mirrors byte { s with lastError := error, isOpen := isOpen }
        { t with lastError := error, isOpen := isOpen } ∧
      Mirrors byte { s with lastError := error } { t with lastError := error } ∧
      Mirrors byte { s with lastError := 0, isOpen := true, readEvent := false, writeEvent := false }
        { t with lastError := 0, isOpen := true, readEvent := false, writeEvent := false } := by
    obtain ⟨bytes, operations⟩ := mirrors
    exact ⟨.intro bytes operations, .intro bytes operations, .intro bytes operations⟩
  unfold connect
  dsimp only
  rcases s.connects.headD ⟨0, .connected⟩ with ⟨delay, outcome⟩
  by_cases late : s.sendTimeoutSeconds * 1000 < delay
  · have waited := runTo_mirrors (s.clock + s.sendTimeoutSeconds * 1000) taken
    cases outcome with
    | noSocket => exact ⟨rfl, .intro bytes operations⟩
    | _ =>
        simp only [if_pos late]
        exact ⟨rfl, (ended waited wsaeTimedOut true).2.1⟩
  · have waited := runTo_mirrors (s.clock + delay) taken
    cases outcome with
    | noSocket => exact ⟨rfl, .intro bytes operations⟩
    | unreachable error =>
        simp only [if_neg late]
        exact ⟨rfl, (ended waited error false).1⟩
    | setupFailed error =>
        simp only [if_neg late]
        exact ⟨rfl, (ended waited error true).1⟩
    | connected =>
        simp only [if_neg late]
        exact ⟨rfl, (ended waited 0 true).2.2⟩

end BaseSock
end LuaXENetwork
