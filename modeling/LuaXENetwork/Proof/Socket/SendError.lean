import LuaXENetwork.Proof.Socket.BaseSock
import LuaXENetwork.Socket.SendFailure

/-! What `GetLastError` says after a `Send` that failed. -/

namespace LuaXENetwork

/-- What `LastError` is left at: a connection reset is wiped out by the `Disconnect` it leads to. -/
def SendFailure.reported : SendFailure → Nat
  | .failed error => if error = wsaeConnReset then 0 else error
  | failure => failure.code

/-- The code of the failure is there to be reported, and is left where it is. -/
def SendFailure.Told : SendFailure → Prop
  | .eventLost error => error ≠ 0
  | .failed error => error ≠ 0 ∧ error ≠ wsaeConnReset
  | .timedOut | .stopped => True
  | .closed => False

theorem SendFailure.told_iff (failure : SendFailure) :
    failure.Told ↔ failure.reported ≠ 0 ∧ failure.reported = failure.code := by
  cases failure with
  | eventLost error => simp [Told, reported, code]
  | failed error =>
      by_cases reset : error = wsaeConnReset
      · simp [Told, reported, reset]
      · simp [Told, reported, code, reset]
  | timedOut => simp [Told, reported, code, errorTimeout]
  | stopped => simp [Told, reported, code, wsaIoPending]
  | closed => simp [Told, reported, code]

namespace BaseSock

/-! ## Winsock does not look at `LastError` -/

section WithError

variable (s : BaseSock) (error : Nat)

theorem complete_with_error (operation : Operation) :
    ({ s with lastError := error } : BaseSock).complete operation =
      { s.complete operation with lastError := error } := by
  obtain ⟨due, result, target⟩ := operation
  cases target <;> cases result <;> rfl

theorem foldl_complete_with_error (operations : List Operation) :
    operations.foldl complete { s with lastError := error } =
      { operations.foldl complete s with lastError := error } := by
  induction operations generalizing s with
  | nil => rfl
  | cons operation operations ih => rw [List.foldl_cons, List.foldl_cons, complete_with_error, ih]

theorem runTo_with_error (time : Nat) :
    ({ s with lastError := error } : BaseSock).runTo time = { s.runTo time with lastError := error } :=
  foldl_complete_with_error
    { s with clock := max s.clock time, outstanding := s.outstanding.dropWhile (·.due ≤ time) } error
    (s.outstanding.takeWhile (·.due ≤ time))

theorem overlappedResult_with_error :
    ({ s with lastError := error } : BaseSock).overlappedResult =
      (s.overlappedResult.1, { s.overlappedResult.2 with lastError := error }) := by
  have awaits : ({ s with lastError := error } : BaseSock).awaitPending =
      { s.awaitPending with lastError := error } := by
    unfold awaitPending
    dsimp only
    split
    · exact runTo_with_error s error _
    · rfl
  rw [overlappedResult, overlappedResult, awaits]
  dsimp only
  split <;> rfl

theorem waitFor_with_error (isRead : Bool) (milliseconds : Nat) :
    ({ s with lastError := error } : BaseSock).waitFor isRead milliseconds =
      ((s.waitFor isRead milliseconds).1,
        { (s.waitFor isRead milliseconds).2 with lastError := error }) := by
  have signal : ({ s with lastError := error } : BaseSock).signalTime isRead = s.signalTime isRead := rfl
  have runs (time : Nat) : ({ s with waits := s.waits.tail, lastError := error } : BaseSock).runTo time =
      { ({ s with waits := s.waits.tail } : BaseSock).runTo time with lastError := error } :=
    runTo_with_error { s with waits := s.waits.tail } error time
  rw [waitFor, waitFor, signal]
  dsimp only
  split
  · rfl
  · split
    · rfl
    · rw [runs]
    · split <;> rw [runs]
    · split <;> rw [runs]
    · split
      · rw [runs]
      · split <;> rw [runs]

end WithError

/-! ## One write -/

/-- What a part of a `Send` makes of the outcome of its write. -/
inductive PartEnds : Except SendFailure Nat → Option Nat × BaseSock → Prop
  | wrote (count : Nat) (s : BaseSock) : PartEnds (.ok (count + 1)) (some (count + 1), s)
  | closed (s : BaseSock) (clear : s.lastError = 0) : PartEnds (.error .closed) (some 0, s)
  | failed (failure : SendFailure) (s : BaseSock) (coded : failure ≠ .closed)
      (reported : s.lastError = failure.reported) : PartEnds (.error failure) (none, s)

theorem sendFailed_ends (s : BaseSock) (error : Nat) :
    PartEnds (.error (.failed error)) (sendFailed { s with lastError := error }) := by
  rw [sendFailed]
  dsimp only
  split
  · rename_i reset
    refine .failed _ _ (by simp) ?_
    rw [SendFailure.reported, if_pos reset]
    rfl
  · rename_i other
    refine .failed _ _ (by simp) ?_
    rw [SendFailure.reported, if_neg other]

theorem collectWrite_ends (s : BaseSock) :
    PartEnds s.writeResult (collectWrite { s with lastError := 0 }) := by
  rw [collectWrite, overlappedResult_with_error, writeResult]
  rcases s.overlappedResult with ⟨error | count, t⟩
  · cases error with
    | zero => exact .closed _ rfl
    | succ error =>
        dsimp only
        rw [if_neg (Nat.succ_ne_zero error), if_pos rfl]
        exact sendFailed_ends t (error + 1)
  · cases count with
    | zero => exact .closed _ rfl
    | succ count => exact .wrote count _

/-- The wait of a write that is pending: when it is stopped, `LastError` still says so. -/
theorem awaitWrite_ends (s : BaseSock) (secondsLeft : Int) :
    PartEnds
      (match s.waitFor false (waitMilliseconds secondsLeft) with
      | (.event, s) => s.writeResult
      | (.timeout, _) => .error .timedOut
      | (.failed error, _) => .error (.failed error)
      | (.other, _) => .error .stopped)
      (awaitWrite { s with lastError := wsaIoPending } secondsLeft) := by
  rw [awaitWrite, waitFor_with_error s wsaIoPending false]
  rcases s.waitFor false (waitMilliseconds secondsLeft) with ⟨waited, t⟩
  cases waited with
  | event => exact collectWrite_ends t
  | timeout =>
      dsimp only
      rw [sendFailed, if_neg (show ¬ errorTimeout = wsaeConnReset from by decide)]
      exact .failed .timedOut _ (by simp) rfl
  | failed error => exact sendFailed_ends t error
  | other =>
      dsimp only
      rw [sendFailed, if_neg (show ¬ wsaIoPending = wsaeConnReset from by decide)]
      exact .failed .stopped _ (by simp) rfl

theorem sendPartial_ends (s : BaseSock) (data : Bytes) :
    PartEnds (s.writeOutcome data) (s.sendPartial data) := by
  rw [sendPartial, writeOutcome]
  rcases s.initialiseOs.resetWriteEvent with ⟨_ | error, s⟩
  · have cleared (completed : (s.wsaSend data).1 = true) : (s.wsaSend data).2.1 = 0 :=
      start_completed completed
    dsimp only
    generalize s.wsaSend data = started at cleared ⊢
    obtain ⟨completed, error, s⟩ := started
    dsimp only at cleared ⊢
    split
    · exact .failed .timedOut _ (by simp) rfl
    · cases completed with
      | true =>
          rw [cleared rfl]
          exact collectWrite_ends s
      | false =>
          rw [if_neg Bool.false_ne_true, if_neg Bool.false_ne_true]
          split
          · rename_i pending
            subst pending
            exact awaitWrite_ends s _
          · exact sendFailed_ends s error
  · exact .failed (.eventLost error) _ (by simp) rfl

/-! ## The whole of `Send` -/

/-- A `Send` that has failed reports the failure that ended it, as far as `LastError` is left alone. -/
def Fails (failure : Option SendFailure) (result : Option Nat × BaseSock) : Prop :=
  match failure with
  | none => result.1 ≠ none
  | some failure => result.1 = none ∧ result.2.lastError = failure.reported

theorem sendLoop_fails (s : BaseSock) (data : Bytes) (total : Nat) :
    Fails (s.failureBehind data total) (s.sendLoop data total) := by
  fun_induction sendLoop s data total with
  | case1 s total more s' failed =>
      have ends := sendPartial_ends s (data.drop total)
      rw [failureBehind, if_pos more]
      rw [failed] at ends
      generalize s.writeOutcome (data.drop total) = outcome at ends ⊢
      cases ends with
      | failed failure s' coded reported =>
          cases failure with
          | closed => exact absurd rfl coded
          | _ => exact ⟨rfl, reported⟩
  | case2 s total more s' closed =>
      have ends := sendPartial_ends s (data.drop total)
      rw [failureBehind, if_pos more]
      rw [closed] at ends
      generalize s.writeOutcome (data.drop total) = outcome at ends ⊢
      cases ends with
      | closed s' clear =>
          by_cases first : total = 0
          · rw [if_pos first]
            dsimp only
            rw [if_pos first]
            exact ⟨rfl, clear⟩
          · rw [if_neg first]
            dsimp only
            rw [if_neg first]
            exact Option.some_ne_none _
  | case3 s total more count s' part ih =>
      have ends := sendPartial_ends s (data.drop total)
      rw [failureBehind, if_pos more, part]
      rw [part] at ends
      generalize s.writeOutcome (data.drop total) = outcome at ends ⊢
      cases ends with
      | wrote count s' => exact ih
  | case4 s total done =>
      rw [failureBehind, if_neg done]
      exact Option.some_ne_none _

theorem send_fails (s : BaseSock) (data : Bytes) : Fails (s.sendFailure data) (s.send data) :=
  sendLoop_fails _ data 0

/-- Once a `Send` has failed, `GetLastError` is the code of the failure that ended it. -/
def ReportsFailure (s : BaseSock) (data : Bytes) : Prop :=
  (s.send data).1 = none → (s.send data).2.lastError ≠ 0 ∧
    ∃ failure, s.sendFailure data = some failure ∧ (s.send data).2.lastError = failure.code

theorem Fails.reports_iff {failure : Option SendFailure} {result : Option Nat × BaseSock}
    (fails : Fails failure result) :
    (result.1 = none → result.2.lastError ≠ 0 ∧
      ∃ ended, failure = some ended ∧ result.2.lastError = ended.code) ↔
      ∀ ended, failure = some ended → ended.Told := by
  cases failure with
  | none =>
      constructor
      · intro _ ended same
        cases same
      · exact fun _ failed => absurd failed fails
  | some ended =>
      obtain ⟨failed, reported⟩ := fails
      rw [reported]
      constructor
      · intro reports other same
        obtain rfl := Option.some.inj same
        obtain ⟨some_error, ended', shown, coded⟩ := reports failed
        obtain rfl := Option.some.inj shown
        exact ended.told_iff.mpr ⟨some_error, coded⟩
      · intro told _
        obtain ⟨some_error, coded⟩ := ended.told_iff.mp (told ended rfl)
        exact ⟨some_error, ended, rfl, coded⟩

end BaseSock

end LuaXENetwork
