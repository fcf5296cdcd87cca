import LuaXENetwork.Socket.BaseSock

/-! What ends a `Send` that fails, as Winsock tells it: what `LastError` is held against. -/

namespace LuaXENetwork

inductive SendFailure where
  /-- `WSAResetEvent` failed. -/
  | eventLost (error : Nat)
  /-- `WSASend`, the wait or the operation failed. -/
  | failed (error : Nat)
  | timedOut
  | stopped
  | closed
deriving DecidableEq, Repr

/-- What Winsock calls the failure: an operation that is stopped is left pending, and a close has no code. -/
def SendFailure.code : SendFailure → Nat
  | .eventLost error | .failed error => error
  | .timedOut => errorTimeout
  | .stopped => wsaIoPending
  | .closed => 0

namespace BaseSock

/-- A write that has completed. -/
def writeResult (s : BaseSock) : Except SendFailure Nat :=
  match s.overlappedResult.1 with
  | .ok (count + 1) => .ok (count + 1)
  | .ok 0 | .error 0 => .error .closed
  | .error error => .error (.failed error)

/-- What comes of one write. A timer that has run out ends it, whatever `WSASend` said. -/
def writeOutcome (s : BaseSock) (data : Bytes) : Except SendFailure Nat :=
  match s.initialiseOs.resetWriteEvent with
  | (some error, _) => .error (.eventLost error)
  | (none, s) =>
      match s.wsaSend data with
      | (completed, error, s) =>
          let secondsLeft : Int := s.sendEndTime - s.seconds
          if secondsLeft ≤ 0 then .error .timedOut
          else if completed then s.writeResult
          else if error = wsaIoPending then
            match s.waitFor false (waitMilliseconds secondsLeft) with
            | (.event, s) => s.writeResult
            | (.timeout, _) => .error .timedOut
            | (.failed error, _) => .error (.failed error)
            | (.other, _) => .error .stopped
          else .error (.failed error)

/-- The failure of the first write that fails; a close behind the first bytes only shortens the `Send`. -/
def failureBehind (s : BaseSock) (data : Bytes) (total : Nat) : Option SendFailure :=
  if total < data.length then
    match s.writeOutcome (data.drop total) with
    | .ok 0 => none
    | .ok (count + 1) => failureBehind (s.sendPartial (data.drop total)).2 data (total + (count + 1))
    | .error .closed => if total = 0 then some .closed else none
    | .error failure => some failure
  else none
termination_by data.length - total

def sendFailure (s : BaseSock) (data : Bytes) : Option SendFailure :=
  failureBehind (if s.sendTimerAutomatic then s.startSendTimerInternal else s) data 0

end BaseSock

end LuaXENetwork
