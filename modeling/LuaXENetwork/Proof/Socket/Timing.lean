import LuaXENetwork.Proof.Socket.BaseSock
import Mathlib.Order.Bounds.Basic

/-! How long a `RecvPartial` and a `SendPartial` take when nothing else is under way. -/

namespace LuaXENetwork

/-- A wait ends with the answer, with its own timer, or because it is stopped. -/
structure Wait where
  answered : Option Nat
  timedOut : Nat
  stopped : Option Nat

namespace Wait

variable {time : Nat}

def OverBy (wait : Wait) (time : Nat) : Prop :=
  (∃ answered ∈ wait.answered, answered ≤ time) ∨ wait.timedOut ≤ time ∨
    ∃ stopped ∈ wait.stopped, stopped ≤ time

/-- The wait ends then and not before. -/
def EndsAt (wait : Wait) (time : Nat) : Prop := IsLeast {time | wait.OverBy time} time

theorem EndsAt.le_timedOut {wait : Wait} (ends : wait.EndsAt time) : time ≤ wait.timedOut :=
  ends.2 (.inr (.inl (Nat.le_refl _)))

/-- Every wait has its end. -/
theorem endsAt_min (answered stopped : Option Nat) (timedOut : Nat) :
    (Wait.mk answered timedOut stopped).EndsAt
      (min (min timedOut (answered.getD timedOut)) (stopped.getD timedOut)) := by
  constructor
  · simp only [OverBy, Set.mem_ofPred_eq, Option.mem_def]
    cases answered <;> cases stopped <;> simp <;> omega
  · intro time past
    simp only [OverBy, Set.mem_ofPred_eq, Option.mem_def] at past
    cases answered <;> cases stopped <;> simp at past ⊢ <;> omega

end Wait

/-- How long the answer to an operation is in coming; a refusal that says pending never comes. -/
def IoAnswer.arrival : IoAnswer → Option Nat
  | .eventLost _ => some 0
  | .refused error | .done 0 (.failed error) => if error = wsaIoPending then none else some 0
  | .done delay _ => some delay

def nextArrival : List IoAnswer → Option Nat
  | [] => some 0
  | answer :: _ => answer.arrival

def WaitAnswer.stop : WaitAnswer → Option Nat
  | .usual => none
  | .interrupted after => some after
  | .failed _ => some 0

namespace BaseSock

/-- The wait for an operation that is started now, with a timer that ends then. -/
def waitUntil (s : BaseSock) (arrival : Option Nat) (endTime : Nat) : Wait where
  answered := arrival.map (s.clock + ·)
  timedOut := s.clock + waitMilliseconds (endTime - s.seconds)
  stopped := (s.waits.headD .usual).stop.map (s.clock + ·)

/-- The wait of the next `RecvPartial`; nothing is waited for on a closed socket. -/
def readWait (s : BaseSock) : Wait :=
  s.waitUntil (if s.isOpen then nextArrival s.reads else some 0) s.recvEndTime

def writeWait (s : BaseSock) : Wait :=
  s.waitUntil (if s.isOpen then nextArrival s.writes else some 0) s.sendEndTime

/-- The timers that were started are as they were. -/
structure SameTimers (s s' : BaseSock) : Prop where
  recvEndTime : s'.recvEndTime = s.recvEndTime
  sendEndTime : s'.sendEndTime = s.sendEndTime

theorem SameTimers.refl (s : BaseSock) : SameTimers s s := ⟨rfl, rfl⟩

theorem SameTimers.trans {s₁ s₂ s₃ : BaseSock} (first : SameTimers s₁ s₂) (second : SameTimers s₂ s₃) :
    SameTimers s₁ s₃ :=
  ⟨second.recvEndTime.trans first.recvEndTime, second.sendEndTime.trans first.sendEndTime⟩

/-- The operation has taken the time of this wait. -/
structure Spent (s : BaseSock) (wait : Wait) (s' : BaseSock) : Prop where
  ends : wait.EndsAt s'.clock
  timers : SameTimers s s'

variable {s : BaseSock}

theorem le_of_overBy {arrival : Option Nat} {endTime time : Nat}
    (past : (s.waitUntil arrival endTime).OverBy time) : s.clock ≤ time := by
  rcases past with ⟨answered, member, early⟩ | early | ⟨stopped, member, early⟩
  · obtain ⟨delay, -, rfl⟩ := Option.map_eq_some_iff.mp member
    omega
  · exact (Nat.le_add_right _ _).trans early
  · obtain ⟨delay, -, rfl⟩ := Option.map_eq_some_iff.mp member
    omega

/-- An operation that is answered inside the call. -/
theorem endsAt_now (s : BaseSock) (endTime : Nat) : (s.waitUntil (some 0) endTime).EndsAt s.clock :=
  ⟨.inl ⟨s.clock, rfl, Nat.le_refl _⟩, fun _ past => le_of_overBy past⟩

/-- A timer that has run out before. -/
theorem endsAt_late (arrival : Option Nat) {endTime : Nat} (late : (endTime : Int) - s.seconds ≤ 0) :
    (s.waitUntil arrival endTime).EndsAt s.clock := by
  refine ⟨.inr (.inl ?_), fun _ past => le_of_overBy past⟩
  have none_left : ((endTime : Int) - s.seconds).toNat = 0 := by omega
  simp [waitUntil, waitMilliseconds, none_left, ulong]

theorem runTo_clock (s : BaseSock) (time : Nat) : (s.runTo time).clock = max s.clock time :=
  (foldl_complete_sameCall _ _).clock

theorem runTo_timers (s : BaseSock) (time : Nat) : SameTimers s (s.runTo time) :=
  ⟨(foldl_complete_sameCall _ _).recvEndTime, (foldl_complete_sameCall _ _).sendEndTime⟩

/-- A wait on an open socket ends with the first of its three ends. -/
theorem waitFor_spent (opened : s.isOpen = true) {isRead : Bool} {arrival : Option Nat}
    (signal : s.signalTime isRead = arrival.map (s.clock + ·)) (endTime : Nat) :
    Spent s (s.waitUntil arrival endTime)
      (s.waitFor isRead (waitMilliseconds (endTime - s.seconds))).2 := by
  have least := Wait.endsAt_min (arrival.map (s.clock + ·)) ((s.waits.headD .usual).stop.map (s.clock + ·))
    (s.clock + waitMilliseconds (endTime - s.seconds))
  have runs {wait : Wait} {finish : Nat} (ends : wait.EndsAt finish) (time : Nat)
      (at_finish : max s.clock time = finish) :
      Spent s wait ({ s with waits := s.waits.tail }.runTo time) := by
    refine ⟨?_, (runTo_timers _ time).recvEndTime, (runTo_timers _ time).sendEndTime⟩
    rwa [runTo_clock, at_finish]
  rw [waitFor, if_neg (by simp [opened]), signal, waitUntil]
  generalize waitMilliseconds (endTime - s.seconds) = milliseconds at least ⊢
  generalize s.waits.headD .usual = stopping at least ⊢
  cases stopping with
  | failed error =>
      refine ⟨?_, rfl, rfl⟩
      cases arrival <;> simpa [WaitAnswer.stop] using least
  | usual =>
      cases arrival with
      | none => exact runs least _ (by simp [WaitAnswer.stop])
      | some delay =>
          dsimp only [Option.map_some]
          split
          · exact runs least _ (by simp [WaitAnswer.stop]; omega)
          · exact runs least _ (by simp [WaitAnswer.stop]; omega)
  | interrupted after =>
      cases arrival with
      | none =>
          dsimp only [Option.map_none]
          split
          · exact runs least _ (by simp [WaitAnswer.stop]; omega)
          · exact runs least _ (by simp [WaitAnswer.stop]; omega)
      | some delay =>
          dsimp only [Option.map_some]
          split
          · exact runs least _ (by simp [WaitAnswer.stop]; omega)
          · split
            · exact runs least _ (by simp [WaitAnswer.stop]; omega)
            · exact runs least _ (by simp [WaitAnswer.stop]; omega)

/-- No time has passed. -/
structure Stands (s s' : BaseSock) : Prop extends SameTimers s s' where
  clock : s'.clock = s.clock

theorem Stands.refl (s : BaseSock) : Stands s s := ⟨⟨rfl, rfl⟩, rfl⟩

theorem Stands.trans {s₁ s₂ s₃ : BaseSock} (first : Stands s₁ s₂) (second : Stands s₂ s₃) : Stands s₁ s₃ :=
  ⟨first.toSameTimers.trans second.toSameTimers, second.clock.trans first.clock⟩

theorem Stands.with_error {t : BaseSock} (stands : Stands s t) (error : Nat) :
    Stands s { t with lastError := error } := ⟨⟨stands.recvEndTime, stands.sendEndTime⟩, stands.clock⟩

theorem Spent.stands {wait : Wait} {t t' : BaseSock} (spent : Spent s wait t) (stands : Stands t t') :
    Spent s wait t' where
  ends := stands.clock ▸ spent.ends
  timers := spent.timers.trans stands.toSameTimers

theorem Stands.spent {wait : Wait} {t t' : BaseSock} (stands : Stands s t) (spent : Spent t wait t') :
    Spent s wait t' where
  ends := spent.ends
  timers := stands.toSameTimers.trans spent.timers

theorem spent_now {s' : BaseSock} (stands : Stands s s') (endTime : Nat) :
    Spent s (s.waitUntil (some 0) endTime) s' where
  ends := stands.clock ▸ endsAt_now s endTime
  timers := stands.toSameTimers

theorem spent_late {s' : BaseSock} (stands : Stands s s') (arrival : Option Nat) {endTime : Nat}
    (late : (endTime : Int) - s.seconds ≤ 0) : Spent s (s.waitUntil arrival endTime) s' where
  ends := stands.clock ▸ endsAt_late arrival late
  timers := stands.toSameTimers

/-- What is under way is due when the event that is waited for is set. -/
def OnlyAwaited (s : BaseSock) (isRead : Bool) : Prop :=
  ∀ time, s.signalTime isRead = some time → s.outstanding.dropWhile (·.due ≤ time) = []

section Signals

variable (isRead : Bool) (quiet : (if isRead then s.readEvent else s.writeEvent) = false)
include quiet

theorem signalTime_idle (idle : s.outstanding = []) : s.signalTime isRead = none := by
  simp [signalTime, quiet, idle]

theorem signalTime_alone (operation : Operation) (alone : s.outstanding = [operation])
    (kind : operation.target.isRead = isRead) : s.signalTime isRead = some operation.due := by
  simp [signalTime, quiet, alone, kind]

theorem onlyAwaited_idle (idle : s.outstanding = []) : OnlyAwaited s isRead := by
  intro time signal
  cases (signalTime_idle isRead quiet idle).symm.trans signal

theorem onlyAwaited_alone (operation : Operation) (alone : s.outstanding = [operation])
    (kind : operation.target.isRead = isRead) : OnlyAwaited s isRead := by
  intro time signal
  cases (signalTime_alone isRead quiet operation alone kind).symm.trans signal
  simp [alone]

end Signals

theorem arrival_headD (answers : List IoAnswer) (count : Nat) :
    (answers.headD (.done 0 (.bytes count))).arrival = nextArrival answers := by
  cases answers <;> rfl

theorem headD_kept {answers : List IoAnswer} (kept : ∀ error, answers.head? ≠ some (.eventLost error))
    (count : Nat) (error : Nat) : answers.headD (.done 0 (.bytes count)) ≠ .eventLost error := by
  cases answers with
  | nil => simp
  | cons answer rest => exact fun same => kept error (congrArg some same)

/-- What `WSARecv` and `WSASend` can come to, with how long the answer is in coming. -/
inductive Started (s : BaseSock) (answer : IoAnswer) (target : Target) : Bool × Nat × BaseSock → Prop
  | refused (error : Nat) (arrival : answer.arrival = if error = wsaIoPending then none else some 0) :
      Started s answer target (false, error, s)
  | ended (result : IoResult) (arrival : answer.arrival = some 0) :
      Started s answer target (true, 0, s.complete ⟨s.clock, result, target⟩)
  | pending (delay : Nat) (result : IoResult) (arrival : answer.arrival = some (delay + 1)) :
      Started s answer target (false, wsaIoPending, { s with
        os := ⟨.pending, 0⟩
        outstanding := [⟨s.clock + (delay + 1), result, target⟩] })

theorem start_started (idle : s.outstanding = []) {answer : IoAnswer} (target : Target)
    (kept : ∀ error, answer ≠ .eventLost error) : Started s answer target (s.start answer target) := by
  cases answer with
  | eventLost error => exact absurd rfl (kept error)
  | refused error => exact .refused error rfl
  | done delay result =>
      cases delay with
      | zero =>
          cases result with
          | failed error => exact .refused error rfl
          | bytes count => exact .ended (.bytes count) rfl
      | succ delay =>
          have pending : Started s (.done (delay + 1) result) target _ := .pending delay result rfl
          simpa [start, idle] using pending

/-! ## Reading -/

theorem collectRead_stands (idle : s.outstanding = []) : Stands s (collectRead s).2 := by
  have same := overlappedResult_idle (s := { s with recvInitiated := false }) idle
  rw [collectRead]
  rcases ended : overlappedResult { s with recvInitiated := false } with ⟨error | count, t⟩
  all_goals
    rw [ended] at same
    obtain rfl : t = _ := same
    dsimp only
  · split <;> constructor <;> first | rfl | constructor <;> rfl
  · constructor <;> first | rfl | constructor <;> rfl

/-- The wait for what is under way alone: it has ended when its event is set. -/
theorem waitFor_alone (opened : s.isOpen = true) (isRead : Bool) (arrival : Option Nat)
    (signal : s.signalTime isRead = arrival.map (s.clock + ·)) (only : OnlyAwaited s isRead) (endTime : Nat)
    {waited : Waited} {t : BaseSock} (ran : s.waitFor isRead (waitMilliseconds (endTime - s.seconds)) = (waited, t)) :
    Spent s (s.waitUntil arrival endTime) t ∧ (waited = .event → t.outstanding = []) := by
  have spent := waitFor_spent opened signal endTime
  rw [ran] at spent
  refine ⟨spent, fun event => ?_⟩
  rcases waitFor_cases s isRead (waitMilliseconds (endTime - s.seconds)) with
    ⟨time, awaited, same⟩ | ⟨_, _, same, missed, -⟩
  · obtain ⟨-, rfl⟩ := Prod.mk.inj (ran.symm.trans same)
    rw [runTo_outstanding]
    exact only time awaited
  · obtain ⟨rfl, -⟩ := Prod.mk.inj (ran.symm.trans same)
    exact absurd event missed

theorem awaitRead_spent (opened : s.isOpen = true) (arrival : Option Nat)
    (signal : s.signalTime true = arrival.map (s.clock + ·)) (only : OnlyAwaited s true) (endTime : Nat) :
    Spent s (s.waitUntil arrival endTime) (awaitRead s (endTime - s.seconds)).2 := by
  rw [awaitRead]
  rcases ran : s.waitFor true (waitMilliseconds (endTime - s.seconds)) with ⟨waited, t⟩
  obtain ⟨spent, ended⟩ := waitFor_alone opened true arrival signal only endTime ran
  cases waited with
  | event =>
      have still := (Stands.refl t).with_error 0
      exact (spent.stands still).stands (collectRead_stands (ended rfl))
  | timeout => exact spent.stands ((Stands.refl t).with_error errorTimeout)
  | failed error => exact spent.stands ((Stands.refl t).with_error error)
  | other => exact spent

/-- The read that `WSARecv` starts, or does not start, and the wait for it. -/
theorem armedRead_spent (opened : s.isOpen = true) (idle : s.outstanding = [])
    (quiet : s.readEvent = false) (buffer offset length : Nat)
    (kept : ∀ error, s.reads.head? ≠ some (.eventLost error)) :
    Spent s (s.waitUntil (nextArrival s.reads) s.recvEndTime)
      (match wsaRecv s buffer offset length with
      | (completed, error, t) =>
          if completed then collectRead { t with lastError := error }
          else if error = wsaIoPending then
            awaitRead { t with lastError := error } (s.recvEndTime - s.seconds)
          else (none, { t with lastError := error })).2 := by
  rw [← arrival_headD s.reads s.incoming.length, wsaRecv]
  have started := start_started (s := { s with reads := s.reads.tail }) idle
    (.read buffer offset (ulong length)) (headD_kept kept s.incoming.length)
  generalize s.reads.headD (.done 0 (.bytes s.incoming.length)) = answer at started ⊢
  generalize BaseSock.start { s with reads := s.reads.tail } answer _ = result at started ⊢
  cases started with
  | refused error arrival =>
      dsimp only
      rw [if_neg Bool.false_ne_true, arrival]
      split
      · refine Stands.spent (t := { s with reads := s.reads.tail, lastError := error }) ⟨⟨rfl, rfl⟩, rfl⟩ ?_
        refine awaitRead_spent ?_ none ?_ ?_ s.recvEndTime
        · exact opened
        · exact signalTime_idle true quiet idle
        · exact onlyAwaited_idle true quiet idle
      · refine spent_now ?_ s.recvEndTime
        exact ⟨⟨rfl, rfl⟩, rfl⟩
  | ended result arrival =>
      rw [arrival]
      have same := complete_sameCall { s with reads := s.reads.tail }
        ⟨s.clock, result, .read buffer offset (ulong length)⟩
      generalize BaseSock.complete _ _ = t at same ⊢
      have still := collectRead_stands (s := { t with lastError := 0 }) (same.outstanding.trans idle)
      refine spent_now ⟨⟨?_, ?_⟩, ?_⟩ s.recvEndTime
      · exact still.recvEndTime.trans same.recvEndTime
      · exact still.sendEndTime.trans same.sendEndTime
      · exact still.clock.trans same.clock
  | pending delay result arrival =>
      rw [arrival]
      dsimp only
      rw [if_neg Bool.false_ne_true, if_pos rfl]
      refine Stands.spent (t := { s with
        lastError := wsaIoPending
        os := ⟨.pending, 0⟩
        reads := s.reads.tail
        outstanding := [⟨s.clock + (delay + 1), result, .read buffer offset (ulong length)⟩] })
        ⟨⟨rfl, rfl⟩, rfl⟩ ?_
      refine awaitRead_spent ?_ (some (delay + 1)) ?_ ?_ s.recvEndTime
      · exact opened
      · refine signalTime_alone true ?_ ⟨_, result, .read buffer offset (ulong length)⟩ rfl rfl
        exact quiet
      · refine onlyAwaited_alone true ?_ ⟨_, result, .read buffer offset (ulong length)⟩ rfl rfl
        exact quiet

theorem resetReadEvent_open (opened : s.isOpen = true) :
    (∃ error rest, s.reads = .eventLost error :: rest ∧
      s.resetReadEvent = (some error, { s with reads := rest })) ∨
    (∀ error, s.reads.head? ≠ some (.eventLost error)) ∧
      s.resetReadEvent = (none, { s with readEvent := false }) := by
  rw [resetReadEvent, if_neg (by simp [opened])]
  split
  · rename_i error rest lost
    exact .inl ⟨error, rest, lost, rfl⟩
  · rename_i kept
    refine .inr ⟨fun error head => ?_, rfl⟩
    obtain ⟨rest, lost⟩ := List.head?_eq_some_iff.mp head
    exact kept error rest lost

theorem recvPartial_spent (calm : Calm s) (buffer offset length : Nat) :
    Spent s s.readWait (recvPartial s buffer offset length).2 := by
  rw [recvPartial, calm.collected]
  by_cases late : (s.recvEndTime : Int) - s.seconds ≤ 0
  · rw [if_pos late]
    refine spent_late ?_ _ late
    exact ⟨⟨rfl, rfl⟩, rfl⟩
  rw [if_neg late, if_neg Bool.false_ne_true, startRead, initialiseOs_idle calm.idle, readWait]
  by_cases opened : s.isOpen = true
  · rw [if_pos opened]
    rcases resetReadEvent_open (s := { s with os := {} }) opened with ⟨error, rest, lost, reset⟩ | ⟨kept, reset⟩
    · have now : nextArrival s.reads = some 0 := congrArg nextArrival lost
      rw [reset, now]
      refine spent_now ?_ s.recvEndTime
      exact ⟨⟨rfl, rfl⟩, rfl⟩
    · rw [reset]
      refine Stands.spent (t := { s with os := {}, readEvent := false, recvInitiated := true })
        ⟨⟨rfl, rfl⟩, rfl⟩ ?_
      refine armedRead_spent ?_ ?_ ?_ buffer offset length ?_
      · exact opened
      · exact calm.idle
      · rfl
      · exact kept
  · have shut : BaseSock.resetReadEvent { s with os := {} } = (some errorInvalidHandle, { s with os := {} }) := by
      simp [resetReadEvent, opened]
    rw [if_neg opened, shut]
    refine spent_now ?_ s.recvEndTime
    exact ⟨⟨rfl, rfl⟩, rfl⟩

/-! ## Writing -/

theorem sendFailed_stands (s : BaseSock) : Stands s s.sendFailed.2 := by
  rw [sendFailed]
  dsimp only
  split
  · exact ⟨⟨rfl, rfl⟩, rfl⟩
  · exact ⟨⟨rfl, rfl⟩, rfl⟩

theorem collectWrite_stands (idle : s.outstanding = []) : Stands s (collectWrite s).2 := by
  have same := overlappedResult_idle idle
  rw [collectWrite]
  rcases ended : overlappedResult s with ⟨error | count, t⟩
  all_goals
    rw [ended] at same
    obtain rfl : t = _ := same
    dsimp only
  · split
    · exact ⟨⟨rfl, rfl⟩, rfl⟩
    · exact ((Stands.refl _).with_error _).trans (sendFailed_stands _)
  · exact ⟨⟨rfl, rfl⟩, rfl⟩

theorem awaitWrite_spent (opened : s.isOpen = true) (arrival : Option Nat)
    (signal : s.signalTime false = arrival.map (s.clock + ·)) (only : OnlyAwaited s false) (endTime : Nat) :
    Spent s (s.waitUntil arrival endTime) (awaitWrite s (endTime - s.seconds)).2 := by
  rw [awaitWrite]
  rcases ran : s.waitFor false (waitMilliseconds (endTime - s.seconds)) with ⟨waited, t⟩
  obtain ⟨spent, ended⟩ := waitFor_alone opened false arrival signal only endTime ran
  have failing (error : Nat) : Stands t ({ t with lastError := error } : BaseSock).sendFailed.2 :=
    ((Stands.refl t).with_error error).trans (sendFailed_stands _)
  cases waited with
  | event =>
      have still := (Stands.refl t).with_error 0
      exact (spent.stands still).stands (collectWrite_stands (ended rfl))
  | timeout => exact spent.stands (failing errorTimeout)
  | failed error => exact spent.stands (failing error)
  | other => exact spent.stands (sendFailed_stands t)

/-- The part of `SendPartial` behind `WSASend`. -/
theorem settleWrite_spent {t : BaseSock} {completed : Bool} {error : Nat} {data : Bytes}
    (opened : s.isOpen = true) (idle : s.outstanding = []) (quiet : s.writeEvent = false)
    {answer : IoAnswer} (started : Started s answer (.write data) (completed, error, t)) :
    Spent s (s.waitUntil answer.arrival s.sendEndTime)
      (let secondsLeft : Int := t.sendEndTime - t.seconds
      if secondsLeft ≤ 0 then (none, { t with lastError := errorTimeout })
      else if completed then collectWrite { t with lastError := error }
      else if error = wsaIoPending then awaitWrite { t with lastError := error } secondsLeft
      else sendFailed { t with lastError := error }).2 := by
  have stands : Stands s t := by
    cases started with
    | refused error arrival => exact ⟨⟨rfl, rfl⟩, rfl⟩
    | ended result arrival =>
        have same := complete_sameCall s ⟨s.clock, result, .write data⟩
        exact ⟨⟨same.recvEndTime, same.sendEndTime⟩, same.clock⟩
    | pending delay result arrival => exact ⟨⟨rfl, rfl⟩, rfl⟩
  have clock := stands.clock
  dsimp only
  by_cases late : (t.sendEndTime : Int) - t.seconds ≤ 0
  · rw [if_pos late]
    refine spent_late (stands.with_error errorTimeout) _ ?_
    rwa [stands.sendEndTime, BaseSock.seconds, clock] at late
  rw [if_neg late]
  cases started with
  | refused error arrival =>
      rw [if_neg Bool.false_ne_true, arrival]
      split
      · refine Stands.spent (t := { s with lastError := error }) ⟨⟨rfl, rfl⟩, rfl⟩ ?_
        refine awaitWrite_spent ?_ none ?_ ?_ s.sendEndTime
        · exact opened
        · exact signalTime_idle false quiet idle
        · exact onlyAwaited_idle false quiet idle
      · exact spent_now (((Stands.refl s).with_error error).trans (sendFailed_stands _)) s.sendEndTime
  | ended result arrival =>
      rw [if_pos rfl, arrival]
      have same := complete_sameCall s ⟨s.clock, result, .write data⟩
      have collected := collectWrite_stands
        (s := { s.complete ⟨s.clock, result, .write data⟩ with lastError := 0 }) (same.outstanding.trans idle)
      exact spent_now ((stands.with_error 0).trans collected) s.sendEndTime
  | pending delay result arrival =>
      rw [if_neg Bool.false_ne_true, if_pos rfl, arrival]
      refine Stands.spent (t := { s with
        lastError := wsaIoPending
        os := ⟨.pending, 0⟩
        outstanding := [⟨s.clock + (delay + 1), result, .write data⟩] }) ⟨⟨rfl, rfl⟩, rfl⟩ ?_
      refine awaitWrite_spent ?_ (some (delay + 1)) ?_ ?_ s.sendEndTime
      · exact opened
      · refine signalTime_alone false ?_ ⟨_, result, .write data⟩ rfl rfl
        exact quiet
      · refine onlyAwaited_alone false ?_ ⟨_, result, .write data⟩ rfl rfl
        exact quiet

theorem resetWriteEvent_open (opened : s.isOpen = true) :
    (∃ error rest, s.writes = .eventLost error :: rest ∧
      s.resetWriteEvent = (some error, { s with writes := rest })) ∨
    (∀ error, s.writes.head? ≠ some (.eventLost error)) ∧
      s.resetWriteEvent = (none, { s with writeEvent := false }) := by
  rw [resetWriteEvent, if_neg (by simp [opened])]
  split
  · rename_i error rest lost
    exact .inl ⟨error, rest, lost, rfl⟩
  · rename_i kept
    refine .inr ⟨fun error head => ?_, rfl⟩
    obtain ⟨rest, lost⟩ := List.head?_eq_some_iff.mp head
    exact kept error rest lost

theorem sendPartial_spent (idle : s.outstanding = []) (data : Bytes) :
    Spent s s.writeWait (sendPartial s data).2 := by
  rw [sendPartial, initialiseOs_idle idle, writeWait]
  by_cases opened : s.isOpen = true
  · rw [if_pos opened]
    rcases resetWriteEvent_open (s := { s with os := {} }) opened with ⟨error, rest, lost, reset⟩ | ⟨kept, reset⟩
    · have now : nextArrival s.writes = some 0 := congrArg nextArrival lost
      rw [reset, now]
      refine spent_now ?_ s.sendEndTime
      exact ⟨⟨rfl, rfl⟩, rfl⟩
    · rw [reset]
      dsimp only
      refine Stands.spent (t := { s with os := {}, writeEvent := false, writes := s.writes.tail })
        ⟨⟨rfl, rfl⟩, rfl⟩ ?_
      rw [← arrival_headD s.writes data.length]
      have started := start_started (s := { s with os := {}, writeEvent := false, writes := s.writes.tail })
        idle (.write (data.take (ulong data.length))) (headD_kept kept data.length)
      rw [wsaSend]
      dsimp only
      generalize BaseSock.start _ _ _ = result at started ⊢
      obtain ⟨completed, error, t⟩ := result
      refine settleWrite_spent ?_ ?_ ?_ started
      · exact opened
      · exact idle
      · rfl
  · have shut : BaseSock.resetWriteEvent { s with os := {} } = (some errorInvalidHandle, { s with os := {} }) := by
      simp [resetWriteEvent, opened]
    rw [if_neg opened, shut]
    refine spent_now ?_ s.sendEndTime
    exact ⟨⟨rfl, rfl⟩, rfl⟩

/-! ## Until a timer runs out -/

/-- No later than a timer that ends then, up to a second that has begun. -/
structure Within (s : BaseSock) (endTime : Nat) (s' : BaseSock) : Prop extends SameTimers s s' where
  clock : s'.clock ≤ max s.clock (1000 * endTime + 999)

theorem Within.trans {s₁ s₂ s₃ : BaseSock} {endTime : Nat} (first : Within s₁ endTime s₂)
    (second : Within s₂ endTime s₃) : Within s₁ endTime s₃ where
  toSameTimers := first.toSameTimers.trans second.toSameTimers
  clock := second.clock.trans (max_le first.clock (Nat.le_max_right _ _))

theorem waitMilliseconds_le (secondsLeft : Int) : waitMilliseconds secondsLeft ≤ 1000 * secondsLeft.toNat := by
  have product := Nat.mod_le (ulong secondsLeft.toNat * 1000) (2 ^ 32)
  have factor := Nat.mod_le secondsLeft.toNat (2 ^ 32)
  rw [waitMilliseconds]
  simp only [ulong] at product factor ⊢
  omega

theorem Spent.within {s' : BaseSock} {arrival : Option Nat} {endTime : Nat}
    (spent : Spent s (s.waitUntil arrival endTime) s') : Within s endTime s' where
  toSameTimers := spent.timers
  clock := by
    have least : s'.clock ≤ s.clock + waitMilliseconds (endTime - s.seconds) := spent.ends.le_timedOut
    have waited := waitMilliseconds_le (endTime - s.seconds)
    simp only [BaseSock.seconds] at least waited
    omega

theorem recvPartial_within (calm : Calm s) (buffer offset length : Nat) :
    Within s s.recvEndTime (recvPartial s buffer offset length).2 :=
  (recvPartial_spent calm buffer offset length).within

theorem sendPartial_within (idle : s.outstanding = []) (data : Bytes) :
    Within s s.sendEndTime (sendPartial s data).2 := (sendPartial_spent idle data).within

theorem recvLoop_within (calm : Calm s) (buffer length minLength total : Nat) :
    Within s s.recvEndTime (recvLoop s buffer length minLength total).2 := by
  fun_induction recvLoop s buffer length minLength total with
  | case1 s total short s' failed =>
      have first := recvPartial_within calm buffer total (length - total)
      rw [failed] at first
      exact { first with }
  | case2 s total short s' closed =>
      have first := recvPartial_within calm buffer total (length - total)
      rwa [closed] at first
  | case3 s total short count s' read ih =>
      have first := recvPartial_within calm buffer total (length - total)
      have ends := recvPartial_calm calm buffer total (length - total)
      rw [read] at first ends
      have took : Took s buffer total (length - total) (count + 1) s' := ends
      have rest := ih took.calm
      rw [first.recvEndTime] at rest
      exact first.trans rest
  | case4 s total enough => exact ⟨.refl s, Nat.le_max_left _ _⟩

theorem sendLoop_within (idle : s.outstanding = []) (data : Bytes) (total : Nat) :
    Within s s.sendEndTime (sendLoop s data total).2 := by
  fun_induction sendLoop s data total with
  | case1 s total more s' failed =>
      have first := sendPartial_within idle (data.drop total)
      rwa [failed] at first
  | case2 s total more s' closed =>
      have first := sendPartial_within idle (data.drop total)
      rwa [closed] at first
  | case3 s total more count s' part ih =>
      have first := sendPartial_within idle (data.drop total)
      have settled := sendPartial_idle idle (data.drop total)
      rw [part] at first settled
      have rest := ih (settled rfl)
      rw [first.sendEndTime] at rest
      exact first.trans rest
  | case4 s total done => exact ⟨.refl s, Nat.le_max_left _ _⟩

/-- A timer of whole seconds runs for up to a second more than it is set to. -/
theorem started_timer (s : BaseSock) (timeoutSeconds : Nat) :
    max s.clock (1000 * ulong (s.seconds + timeoutSeconds) + 999) ≤
      s.clock + (1000 * timeoutSeconds + 999) := by
  have timer := Nat.mod_le (s.seconds + timeoutSeconds) (2 ^ 32)
  simp only [ulong, BaseSock.seconds] at timer ⊢
  omega

theorem receive_clock_within (calm : Calm s) (automatic : s.recvTimerAutomatic = true) (length minLength : Nat) :
    (s.receive length minLength).2.clock ≤
      max s.clock (1000 * ulong (s.seconds + s.recvTimeoutSeconds) + 999) := by
  have within := recvLoop_within (s := (s.allocate length).startRecvTimerInternal)
    ⟨calm.idle, calm.collected⟩ s.buffers length minLength 0
  have read : (s.receive length minLength).2 =
      (recvLoop (s.allocate length).startRecvTimerInternal s.buffers length minLength 0).2 := by
    have set : (s.allocate length).recvTimerAutomatic = true := automatic
    rw [receive, recv, set, if_pos rfl]
    split
    · rename_i failed
      rw [failed]
    · rename_i read
      rw [read]
  rw [read]
  exact within.clock

theorem receive_clock_le (calm : Calm s) (automatic : s.recvTimerAutomatic = true) (length minLength : Nat) :
    (s.receive length minLength).2.clock ≤ s.clock + (1000 * s.recvTimeoutSeconds + 999) :=
  (receive_clock_within calm automatic length minLength).trans (started_timer s s.recvTimeoutSeconds)

theorem send_clock_within (calm : Calm s) (automatic : s.sendTimerAutomatic = true) (data : Bytes) :
    (s.send data).2.clock ≤ max s.clock (1000 * ulong (s.seconds + s.sendTimeoutSeconds) + 999) := by
  rw [send, automatic, if_pos rfl]
  exact (sendLoop_within (s := s.startSendTimerInternal) calm.idle data 0).clock

theorem send_clock_le (calm : Calm s) (automatic : s.sendTimerAutomatic = true) (data : Bytes) :
    (s.send data).2.clock ≤ s.clock + (1000 * s.sendTimeoutSeconds + 999) :=
  (send_clock_within calm automatic data).trans (started_timer s s.sendTimeoutSeconds)

theorem connect_calm (calm : Calm s) : Calm s.connect.2 := by
  rw [connect]
  generalize s.connects.headD ⟨0, .connected⟩ = answer
  obtain ⟨delay, outcome⟩ := answer
  have still (time : Nat) : Calm (BaseSock.runTo { s with connects := s.connects.tail } time) := by
    rw [runTo_nil (s := { s with connects := s.connects.tail }) calm.idle]
    exact ⟨calm.idle, calm.collected⟩
  dsimp only
  split
  · exact ⟨calm.idle, calm.collected⟩
  · split
    · exact ⟨(still _).idle, (still _).collected⟩
    · split
      · exact ⟨(still _).idle, (still _).collected⟩
      · exact ⟨(still _).idle, (still _).collected⟩
      · exact ⟨(still _).idle, (still _).collected⟩

theorem connect_clock_le (s : BaseSock) :
    s.connect.2.clock ≤ s.clock + 1000 * s.sendTimeoutSeconds := by
  rw [connect]
  generalize s.connects.headD ⟨0, .connected⟩ = answer
  obtain ⟨delay, outcome⟩ := answer
  dsimp only
  split
  · exact Nat.le_add_right _ _
  · split
    · rw [runTo_clock]
      dsimp only
      omega
    · split <;> rw [runTo_clock] <;> dsimp only <;> omega

end BaseSock

end LuaXENetwork
