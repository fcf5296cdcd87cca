import LuaXENetwork.Listener.Request
import LuaXENetwork.Socket.WaitReadable

/-! What a client sends to an accepted socket, on the clock of `Socket::ReceiveBytes`. -/

namespace LuaXENetwork

structure Arrival where
  time : Nat
  bytes : Bytes
deriving DecidableEq, Repr

/-- What is still to be read from a client: pieces in the order in which they come, and its close behind
them. A `WaitReadable` that begins at some time may be interrupted, again and again, each time after so
long. -/
structure Inbound where
  arrivals : List Arrival
  closes : Option Nat := none
  interrupts : Nat → List Nat := fun _ => []

/-- `WSAPoll` is left when the event is there, if one is to come, or for an interruption before it. -/
def pollsUntil (event : Option Nat) (now : Nat) : List Nat → List Poll
  | [] => (event.map fun time => { answer := .ready (time - now) }).toList
  | after :: interrupts =>
      let after := event.elim after fun time => min after (time - now)
      { answer := .failed after wsaEIntr } :: pollsUntil event (now + after) interrupts

namespace Inbound

variable (p : Inbound)

def stream : Bytes := p.arrivals.flatMap Arrival.bytes

/-- What is there to be read. -/
def arrived (now : Nat) : Bytes := (p.arrivals.takeWhile (·.time ≤ now)).flatMap Arrival.bytes

/-- What is left when that has been read. -/
def after (now : Nat) : Inbound := { p with arrivals := p.arrivals.dropWhile (·.time ≤ now) }

def nextEvent : Option Nat := (p.arrivals.head?.map Arrival.time).or p.closes

def round (now : Nat) : TimedRound where
  canRecv := some (p.arrived now).length
  peek :=
    if p.arrived now ≠ [] then .ok 1
    else if p.arrivals = [] ∧ p.closes.any (· ≤ now) then .ok 0
    else .error wsaeWouldBlock
  polls := pollsUntil p.nextEvent now (p.interrupts now)

/-- `ReceiveBytes(0, timeoutMs)` in so many rounds: what it returns, and when. -/
def receiveBytes (timeoutMs deadline : Nat) : Nat → Nat → Option (Bytes × Nat)
  | 0, _ => none
  | rounds + 1, now =>
      match timedRound 0 timeoutMs false deadline now (p.round now) with
      | (.ready canRecv, _) =>
          let socket : AcceptedSocket := { waits := [], recvs := [.data (p.arrived now)] }
          some ((socket.readLoop [] (AcceptedSocket.requested 0 canRecv)).1, now)
      | (.gaveUp _, _) => some ([], now)
      | step => (nextStart step).bind (receiveBytes timeoutMs deadline rounds)

/-- The timeout of each receive of `lua_Request`. -/
def receiveMs : Nat := 1000

/-- What the receives of `lua_Request` return, each called so long after the one before has returned. A
wait is only over with something there or with the deadline past, so a second round is the last. -/
def receives (p : Inbound) (now : Nat) : List Nat → List Bytes
  | [] => []
  | delay :: delays =>
      match p.receiveBytes receiveMs (now + delay + receiveMs * millisecond) 2 (now + delay) with
      | none => []
      | some (chunk, later) => chunk :: (p.after later).receives later delays

end Inbound

end LuaXENetwork
