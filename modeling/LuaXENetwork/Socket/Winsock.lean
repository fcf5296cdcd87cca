import LuaXENetwork.Platform
import Mathlib.Logic.Function.Basic

/-!
One socket object and the Winsock state behind it: the peer's stream, the overlapped operations
that are under way, and a clock in milliseconds that both `system_clock` and `steady_clock` show.
-/

namespace LuaXENetwork

/-- What an overlapped operation comes to. A read of no bytes has found the stream closed. -/
inductive IoResult where
  | bytes (count : Nat)
  | failed (error : Nat)
deriving DecidableEq, Repr

/-- How Winsock meets the next `WSARecv` or `WSASend`; without delay it ends inside the call. -/
inductive IoAnswer where
  | eventLost (error : Nat)
  | refused (error : Nat)
  | done (delay : Nat) (result : IoResult)
deriving DecidableEq, Repr

/-- How `WaitForMultipleObjects` goes: by the event alone, cut short by the stop event, or not. -/
inductive WaitAnswer where
  | usual
  | interrupted (after : Nat)
  | failed (error : Nat)
deriving DecidableEq, Repr

inductive ConnectOutcome where
  | noSocket
  | unreachable (error : Nat)
  | setupFailed (error : Nat)
  | connected
deriving DecidableEq, Repr

structure ConnectAnswer where
  delay : Nat
  outcome : ConnectOutcome
deriving DecidableEq, Repr

/-- The memory an operation was given when it started. -/
inductive Target where
  | read (buffer offset length : Nat)
  | write (data : Bytes)
deriving DecidableEq, Repr

def Target.isRead : Target → Bool
  | .read .. => true
  | .write _ => false

structure Operation where
  due : Nat
  result : IoResult
  target : Target
deriving DecidableEq, Repr

inductive IoStatus where
  | pending
  | success
  | failed (error : Nat)
deriving DecidableEq, Repr

/-- `Internal` and `InternalHigh` of an `OVERLAPPED`; zeros read as a success of no bytes. -/
structure Overlapped where
  status : IoStatus := .success
  count : Nat := 0
deriving DecidableEq, Repr

structure BaseSock where
  lastError : Nat := 0
  recvInitiated : Bool := false
  os : Overlapped := {}
  recvEndTime : Nat := 0
  sendEndTime : Nat := 0
  recvTimerAutomatic : Bool := true
  sendTimerAutomatic : Bool := true
  sendTimeoutSeconds : Nat := 1
  recvTimeoutSeconds : Nat := 1
  isOpen : Bool := false
  -- From here on Winsock's side.
  clock : Nat := 0
  incoming : Bytes := []
  sent : Bytes := []
  connects : List ConnectAnswer := []
  reads : List IoAnswer := []
  writes : List IoAnswer := []
  waits : List WaitAnswer := []
  outstanding : List Operation := []
  readEvent : Bool := false
  writeEvent : Bool := false
  buffers : Nat := 0
  memory : Nat → Bytes := fun _ => []
  -- Kept for the proofs: what no code reads.
  /-- `os` was set to zeros while a read that uses it was under way. -/
  clobbered : Bool := false
  /-- Bytes that a failing `Recv` had received and did not hand over. -/
  dropped : Nat := 0

def overwrite (memory : Bytes) (offset : Nat) (data : Bytes) : Bytes :=
  memory.take offset ++ data ++ memory.drop (offset + data.length)

/-- The length field of a `WSABUF`. -/
def ulong (n : Nat) : Nat := n % 2 ^ 32

namespace BaseSock

/-- The end of an operation: its bytes move, and the shared `OVERLAPPED` tells of it. -/
def complete (s : BaseSock) (operation : Operation) : BaseSock :=
  match operation.target, operation.result with
  | .read .., .failed error => { s with os := ⟨.failed error, 0⟩, readEvent := true }
  | .read buffer offset length, .bytes count =>
      let taken := s.incoming.take (min count length)
      { s with
        incoming := s.incoming.drop taken.length
        memory := Function.update s.memory buffer (overwrite (s.memory buffer) offset taken)
        os := ⟨.success, taken.length⟩
        readEvent := true }
  | .write _, .failed error => { s with os := ⟨.failed error, 0⟩, writeEvent := true }
  | .write data, .bytes count =>
      let taken := data.take count
      { s with
        sent := s.sent ++ taken
        os := ⟨.success, taken.length⟩
        writeEvent := true }

/-- Lets the clock run on: what is due by then ends, in its order. -/
def runTo (s : BaseSock) (time : Nat) : BaseSock :=
  (s.outstanding.takeWhile (·.due ≤ time)).foldl complete
    { s with
      clock := max s.clock time
      outstanding := s.outstanding.dropWhile (·.due ≤ time) }

/-- `memset(&os, 0, sizeof(OVERLAPPED))`. -/
def initialiseOs (s : BaseSock) : BaseSock :=
  { s with
    os := {}
    clobbered := s.clobbered || s.outstanding.any (·.target.isRead) }

/-- `WSAResetEvent(read_event)`: its error, if it fails. -/
def resetReadEvent (s : BaseSock) : Option Nat × BaseSock :=
  if !s.isOpen then (some errorInvalidHandle, s)
  else match s.reads with
    | .eventLost error :: rest => (some error, { s with reads := rest })
    | _ => (none, { s with readEvent := false })

def resetWriteEvent (s : BaseSock) : Option Nat × BaseSock :=
  if !s.isOpen then (some errorInvalidHandle, s)
  else match s.writes with
    | .eventLost error :: rest => (some error, { s with writes := rest })
    | _ => (none, { s with writeEvent := false })

/-- Starts an operation: whether it ended at once, and `WSAGetLastError`. -/
def start (s : BaseSock) (answer : IoAnswer) (target : Target) : Bool × Nat × BaseSock :=
  match answer with
  | .eventLost error | .refused error | .done 0 (.failed error) => (false, error, s)
  | .done 0 result => (true, 0, s.complete ⟨s.clock, result, target⟩)
  | .done delay result =>
      let operation : Operation := ⟨s.clock + delay, result, target⟩
      (false, wsaIoPending, { s with
        os := ⟨.pending, 0⟩
        outstanding := s.outstanding.takeWhile (·.due ≤ operation.due) ++
          operation :: s.outstanding.dropWhile (·.due ≤ operation.due) })

/-- With no answer left, a read takes what the peer has sent, and so finds the end at last. -/
def wsaRecv (s : BaseSock) (buffer offset length : Nat) : Bool × Nat × BaseSock :=
  start { s with reads := s.reads.tail } (s.reads.headD (.done 0 (.bytes s.incoming.length)))
    (.read buffer offset (ulong length))

/-- With no answer left, a write takes everything. -/
def wsaSend (s : BaseSock) (data : Bytes) : Bool × Nat × BaseSock :=
  start { s with writes := s.writes.tail } (s.writes.headD (.done 0 (.bytes data.length)))
    (.write (data.take (ulong data.length)))

inductive Waited where
  | event
  | timeout
  | failed (error : Nat)
  | other
deriving DecidableEq, Repr

/-- When the event of the operations of one kind will be set. -/
def signalTime (s : BaseSock) (isRead : Bool) : Option Nat :=
  if (if isRead then s.readEvent else s.writeEvent) then some s.clock
  else (s.outstanding.find? (·.target.isRead == isRead)).map Operation.due

/-- `WaitForMultipleObjects` on the stop event and the event of one kind of operation. -/
def waitFor (s : BaseSock) (isRead : Bool) (milliseconds : Nat) : Waited × BaseSock :=
  let s' := { s with waits := s.waits.tail }
  if !s.isOpen then (.failed errorInvalidHandle, s')
  else match s.waits.headD .usual, s.signalTime isRead with
    | .failed error, _ => (.failed error, s')
    | .usual, none => (.timeout, s'.runTo (s.clock + milliseconds))
    | .usual, some time =>
        if time ≤ s.clock + milliseconds then (.event, s'.runTo time)
        else (.timeout, s'.runTo (s.clock + milliseconds))
    | .interrupted after, none =>
        if milliseconds < after then (.timeout, s'.runTo (s.clock + milliseconds))
        else (.other, s'.runTo (s.clock + after))
    | .interrupted after, some time =>
        if time ≤ s.clock + milliseconds ∧ time < s.clock + after then (.event, s'.runTo time)
        else if milliseconds < after then (.timeout, s'.runTo (s.clock + milliseconds))
        else (.other, s'.runTo (s.clock + after))

/-- Waits for an operation that is pending in `os`. -/
def awaitPending (s : BaseSock) : BaseSock :=
  match s.os.status, s.outstanding with
  | .pending, first :: _ => s.runTo first.due
  | _, _ => s

/-- `WSAGetOverlappedResult` on `os`, with `fWait`. -/
def overlappedResult (s : BaseSock) : Except Nat Nat × BaseSock :=
  match s.awaitPending.os.status with
  | .pending => (.error wsaIoIncomplete, s.awaitPending)
  | .success => (.ok s.awaitPending.os.count, s.awaitPending)
  | .failed error => (.error error, s.awaitPending)

end BaseSock

end LuaXENetwork
