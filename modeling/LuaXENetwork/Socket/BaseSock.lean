import LuaXENetwork.Socket.Winsock

namespace LuaXENetwork.BaseSock

def maxInt : Nat := 2 ^ 31 - 1

/-- `time_since_epoch` in whole seconds. -/
def seconds (s : BaseSock) : Nat := s.clock / 1000

def startRecvTimerInternal (s : BaseSock) : BaseSock :=
  { s with recvEndTime := ulong (s.seconds + s.recvTimeoutSeconds) }

def startSendTimerInternal (s : BaseSock) : BaseSock :=
  { s with sendEndTime := ulong (s.seconds + s.sendTimeoutSeconds) }

def startRecvTimer (s : BaseSock) : BaseSock :=
  startRecvTimerInternal { s with recvTimerAutomatic := false }

/-- The new timeout of `SetRecvTimeoutSeconds` and `SetSendTimeoutSeconds`: -1 is `INFINITE`. -/
def newTimeout (current : Nat) (new : Int) : Nat :=
  if new = -1 then maxInt else if 0 < new then new.toNat else current

def setRecvTimeoutSeconds (s : BaseSock) (new : Int) : BaseSock :=
  { s with
    recvTimeoutSeconds := newTimeout s.recvTimeoutSeconds new
    recvTimerAutomatic := true }

def setSendTimeoutSeconds (s : BaseSock) (new : Int) : BaseSock :=
  { s with
    sendTimeoutSeconds := newTimeout s.sendTimeoutSeconds new
    sendTimerAutomatic := true }

/-- What a wait is given: `static_cast<DWORD>(SecondsLeft) * 1000`. -/
def waitMilliseconds (secondsLeft : Int) : Nat := ulong (ulong secondsLeft.toNat * 1000)

/-- `Disconnect` of an open socket: closing it aborts what is under way. -/
def disconnect (s : BaseSock) : BaseSock :=
  { s with lastError := 0, isOpen := false, outstanding := [] }

/-! ## Reading -/

/-- The last part of `RecvPartial`, once the read has completed. -/
def collectRead (s : BaseSock) : Option Nat × BaseSock :=
  match overlappedResult { s with recvInitiated := false } with
  | (.ok count, s) => (some count, s)
  | (.error error, s) =>
      if error = 0 then (some 0, s)
      else (none, { s with lastError := if s.lastError = 0 then error else s.lastError })

/-- The part of `RecvPartial` that waits for a read in progress. -/
def awaitRead (s : BaseSock) (secondsLeft : Int) : Option Nat × BaseSock :=
  match s.waitFor true (waitMilliseconds secondsLeft) with
  | (.event, s) => collectRead { s with lastError := 0 }
  | (.timeout, s) => (none, { s with lastError := errorTimeout })
  | (.failed error, s) => (none, { s with lastError := error })
  | (.other, s) => (none, s)

/-- The part of `RecvPartial` that starts a new read. -/
def startRead (s : BaseSock) (buffer offset length : Nat) (secondsLeft : Int) :
    Option Nat × BaseSock :=
  match s.initialiseOs.resetReadEvent with
  | (some error, s) => (none, { s with lastError := error })
  | (none, s) =>
      match wsaRecv { s with recvInitiated := true } buffer offset length with
      | (completed, error, s) =>
          if completed then collectRead { s with lastError := error }
          else if error = wsaIoPending then awaitRead { s with lastError := error } secondsLeft
          else (none, { s with lastError := error })

/-- Up to `length` bytes at `offset` of a buffer; `none` is `SOCKET_ERROR`. -/
def recvPartial (s : BaseSock) (buffer offset length : Nat) : Option Nat × BaseSock :=
  let secondsLeft : Int := s.recvEndTime - s.seconds
  if secondsLeft ≤ 0 then (none, { s with lastError := errorTimeout })
  -- The earlier read was left active, into the buffer it was given then.
  else if s.recvInitiated then awaitRead { s with lastError := wsaIoPending } secondsLeft
  else startRead s buffer offset length secondsLeft

/-- The loop of `Recv`. -/
def recvLoop (s : BaseSock) (buffer length minLength total : Nat) : Option Nat × BaseSock :=
  if total < minLength then
    match recvPartial s buffer total (length - total) with
    | (none, s) => (none, { s with dropped := s.dropped + total })
    | (some 0, s) => (some total, s)
    | (some (count + 1), s) => recvLoop s buffer length minLength (total + (count + 1))
  else (some total, s)
termination_by minLength - total

def recv (s : BaseSock) (buffer length minLength : Nat) : Option Nat × BaseSock :=
  recvLoop (if s.recvTimerAutomatic then s.startRecvTimerInternal else s)
    buffer length minLength 0

/-- A new buffer of the caller's own. -/
def allocate (s : BaseSock) (length : Nat) : BaseSock :=
  { s with
    buffers := s.buffers + 1
    memory := Function.update s.memory s.buffers (List.replicate length 0) }

/-- `Recv` into a buffer of the caller's own, and the bytes the caller then finds in it. -/
def receive (s : BaseSock) (length minLength : Nat) : Option Bytes × BaseSock :=
  match (s.allocate length).recv s.buffers length minLength with
  | (none, s') => (none, s')
  | (some count, s') => (some ((s'.memory s.buffers).take count), s')

/-! ## Writing -/

/-- The end of `SendPartial` on its failing paths. -/
def sendFailed (s : BaseSock) : Option Nat × BaseSock :=
  (none, if s.lastError = wsaeConnReset then s.disconnect else s)

def collectWrite (s : BaseSock) : Option Nat × BaseSock :=
  match overlappedResult s with
  | (.ok count, s) => (some count, s)
  | (.error error, s) =>
      if error = 0 then (some 0, s)
      else sendFailed { s with lastError := if s.lastError = 0 then error else s.lastError }

def awaitWrite (s : BaseSock) (secondsLeft : Int) : Option Nat × BaseSock :=
  match s.waitFor false (waitMilliseconds secondsLeft) with
  | (.event, s) => collectWrite { s with lastError := 0 }
  | (.timeout, s) => sendFailed { s with lastError := errorTimeout }
  | (.failed error, s) => sendFailed { s with lastError := error }
  | (.other, s) => sendFailed s

def sendPartial (s : BaseSock) (data : Bytes) : Option Nat × BaseSock :=
  match s.initialiseOs.resetWriteEvent with
  | (some error, s) => (none, { s with lastError := error })
  | (none, s) =>
      match wsaSend s data with
      | (completed, error, s) =>
          let secondsLeft : Int := s.sendEndTime - s.seconds
          if secondsLeft ≤ 0 then (none, { s with lastError := errorTimeout })
          else if completed then collectWrite { s with lastError := error }
          else if error = wsaIoPending then awaitWrite { s with lastError := error } secondsLeft
          else sendFailed { s with lastError := error }

def sendLoop (s : BaseSock) (data : Bytes) (total : Nat) : Option Nat × BaseSock :=
  if total < data.length then
    match sendPartial s (data.drop total) with
    | (none, s) => (none, s)
    | (some 0, s) => (if total = 0 then none else some total, s)
    | (some (count + 1), s) => sendLoop s data (total + (count + 1))
  else (some total, s)
termination_by data.length - total

def send (s : BaseSock) (data : Bytes) : Option Nat × BaseSock :=
  sendLoop (if s.sendTimerAutomatic then s.startSendTimerInternal else s) data 0

/-! ## Connecting -/

/-- `WSAConnectByNameW` gives up after the send timeout. -/
def connect (s : BaseSock) : Bool × BaseSock :=
  let s' := { s with connects := s.connects.tail }
  match s.connects.headD ⟨0, .connected⟩ with
  | ⟨_, .noSocket⟩ => (false, { s' with isOpen := false })
  | ⟨delay, outcome⟩ =>
      if s.sendTimeoutSeconds * 1000 < delay then
        (false, { s'.runTo (s.clock + s.sendTimeoutSeconds * 1000) with lastError := wsaeTimedOut })
      else
        let s' := s'.runTo (s.clock + delay)
        match outcome with
        | .setupFailed error => (false, { s' with lastError := error, isOpen := true })
        | .unreachable error => (false, { s' with lastError := error, isOpen := false })
        | _ =>
            (true, { s' with
              lastError := 0
              isOpen := true
              readEvent := false
              writeEvent := false })

end LuaXENetwork.BaseSock
