import LuaXENetwork.Socket.BaseSock
import LuaXENetwork.Socket.Receive

/-! `Socket::WaitReadable`, and the waits of `Socket::ReceiveBytes`, on a clock finer than milliseconds. -/

namespace LuaXENetwork

/-- A millisecond on `steady_clock`, which counts nanoseconds. -/
def millisecond : Nat := 1000000

def wsaEIntr : Nat := 10004

/-- How a `WSAPoll` goes. -/
inductive PollAnswer where
  | ready (after : Nat)
  | timedOut
  | failed (after error : Nat)
deriving DecidableEq, Repr

structure Poll where
  /-- What passes before the clock is read for this wait. -/
  pause : Nat := 0
  answer : PollAnswer
deriving DecidableEq, Repr

/-- What `WaitReadable` returns, or none if it waits for ever; what it gave to `WSAPoll`; and the time then. -/
structure Readiness where
  readable : Option Bool
  waits : List Int
  now : Nat
deriving DecidableEq, Repr

/-- What is left of the budget for the next `WSAPoll`, if anything is. -/
def pollWait (timeoutMs : Int) (started now : Nat) : Option Int :=
  if 0 ≤ timeoutMs then
    let spent : Int := ((now - started) / millisecond : Nat)
    let remaining := timeoutMs - spent
    if remaining ≤ 0 then none else some (min remaining BaseSock.maxInt)
  else some timeoutMs

/-- The end of a wait that began now: it lasts no longer than was asked. -/
def pollEnd (now : Nat) (wait : Int) (after : Nat) : Nat :=
  if 0 ≤ wait then now + min after (wait.toNat * millisecond) else now + after

/-- A wait that nothing ends but its time. -/
def pollOut (now : Nat) (wait : Int) : Readiness :=
  if 0 ≤ wait then ⟨some false, [wait], now + wait.toNat * millisecond⟩ else ⟨none, [wait], now⟩

/-- The loop of `WaitReadable`. Behind the answers there are, the wait times out. -/
def pollLoop (timeoutMs : Int) (started : Nat) : Nat → List Poll → Readiness
  | now, [] =>
      match pollWait timeoutMs started now with
      | none => ⟨some false, [], now⟩
      | some wait => pollOut now wait
  | now, poll :: polls =>
      match pollWait timeoutMs started (now + poll.pause), poll.answer with
      | none, _ => ⟨some false, [], now + poll.pause⟩
      | some wait, .ready after => ⟨some true, [wait], pollEnd (now + poll.pause) wait after⟩
      | some wait, .timedOut => pollOut (now + poll.pause) wait
      | some wait, .failed after error =>
          if error = wsaEIntr then
            let rest := pollLoop timeoutMs started (pollEnd (now + poll.pause) wait after) polls
            { rest with waits := wait :: rest.waits }
          else ⟨some false, [wait], pollEnd (now + poll.pause) wait after⟩

/-- Nothing is waited for on a socket that is closed or has no handle. -/
def waitReadable (closed : Bool) (timeoutMs : Int) (polls : List Poll) (now : Nat) : Readiness :=
  if closed then ⟨some false, [], now⟩ else pollLoop timeoutMs now now polls

/-! ## The waiting loop of `ReceiveBytes` -/

/-- What a round is answered, by `FIONREAD`, by the peek and by the waits, where the loop comes to them. -/
structure TimedRound where
  canRecv : Option Nat
  peek : Except Nat Nat
  polls : List Poll := []

section Receive

variable (maxRecv timeoutMs : Nat) (closed : Bool) (deadline : Nat)

def TimedRound.untimed (round : TimedRound) (now : Nat) : WaitRound where
  canRecv := round.canRecv
  peek := round.peek
  expired := deadline ≤ now

/-- The budget of a `WaitReadable`: what is left, rounded up, or -1 without a deadline. -/
def parkMs (now : Nat) : Int :=
  if timeoutMs ≠ 0 then
    let left : Int := ((deadline : Int) - now + (millisecond - 1)) / millisecond
    if 0 < left then min left BaseSock.maxInt else 0
  else -1

/-- What a round comes to, and the wait it makes. Only waits and the sleep take time. -/
def timedRound (now : Nat) (round : TimedRound) : WaitStep × Readiness :=
  match AcceptedSocket.waitRound maxRecv timeoutMs (round.untimed deadline now) with
  | .paced => (.paced, ⟨some false, [], now + millisecond⟩)
  | .parked => (.parked, waitReadable closed (parkMs timeoutMs deadline now) round.polls now)
  | step => (step, ⟨some false, [], now⟩)

/-- When the next round begins, if the loop goes on. -/
def nextStart : WaitStep × Readiness → Option Nat
  | (.paced, wait) | (.parked, wait) => wait.readable.map fun _ => wait.now
  | (.gaveUp _, _) | (.ready _, _) => none

/-- When the round begins, if the loop comes to it. -/
def roundStart (started : Nat) (rounds : Nat → TimedRound) : Nat → Option Nat
  | 0 => some started
  | n + 1 => (roundStart started rounds n).bind fun now =>
      nextStart (timedRound maxRecv timeoutMs closed (started + timeoutMs * millisecond) now (rounds n))

end Receive

end LuaXENetwork
