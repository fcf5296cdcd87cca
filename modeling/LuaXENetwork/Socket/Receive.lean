import LuaXENetwork.Socket.Winsock

/-! `Socket::ReceiveBytes` of an accepted socket, over whatever Winsock answers. -/

namespace LuaXENetwork

/-- What `recv` brings: no bytes once the peer has closed. -/
inductive RecvResult where
  | data (bytes : Bytes)
  | failed (error : Nat)
deriving DecidableEq, Repr

/-- What one round of the waiting loop is answered: by `FIONREAD`, none being `SOCKET_ERROR`; by the
peek, where the loop makes one; and by the clock. -/
structure WaitRound where
  canRecv : Option Nat
  peek : Except Nat Nat
  expired : Bool := false

/-- What a round comes to. A socket found closed is marked so. -/
inductive WaitStep where
  | gaveUp (closed : Bool)
  | ready (canRecv : Nat)
  /-- Sleeps for a millisecond. -/
  | paced
  /-- `WaitReadable`, whose result nothing reads. -/
  | parked
deriving DecidableEq, Repr

structure AcceptedSocket where
  closed : Bool := false
  waits : List WaitRound
  recvs : List RecvResult
  /-- Kept for the proofs: what `recv` has brought to the read loops. -/
  delivered : Bytes := []

namespace AcceptedSocket

section Wait

variable (maxRecv timeoutMs : Nat)

/-- A round behind its `FIONREAD` and peek. -/
def waitChecked (canRecv : Nat) (expired : Bool) : WaitStep :=
  if (if maxRecv ≠ 0 then maxRecv ≤ canRecv else 0 < canRecv) then .ready canRecv
  else if timeoutMs ≠ 0 ∧ expired then .gaveUp false
  else if 0 < canRecv then .paced
  else .parked

def waitRound (round : WaitRound) : WaitStep :=
  match round.canRecv, round.peek with
  | none, _ => .gaveUp false
  | some 0, .ok 0 => .gaveUp true
  | some 0, .error error =>
      if error = wsaeWouldBlock then waitChecked maxRecv timeoutMs 0 round.expired else .gaveUp false
  | some canRecv, _ => waitChecked maxRecv timeoutMs canRecv round.expired

/-- The waiting loop, or none if it goes on behind the rounds there are. -/
def waitLoop : List WaitRound → Option WaitStep × List WaitRound
  | [] => (none, [])
  | round :: rounds =>
      match waitRound maxRecv timeoutMs round with
      | .paced | .parked => waitLoop rounds
      | left => (some left, rounds)

end Wait

/-- The next `recv`, of no more than `maxRecv` bytes. With no answer left the peer has closed. -/
def recv (s : AcceptedSocket) (maxRecv : Nat) : RecvResult × AcceptedSocket :=
  match s.recvs.headD (.data []) with
  | .data bytes =>
      (.data (bytes.take maxRecv), { s with
        recvs := s.recvs.tail
        delivered := s.delivered ++ bytes.take maxRecv })
  | .failed error => (.failed error, { s with recvs := s.recvs.tail })

/-- The read loop. The string grows on every turn by all that is still to come. -/
def readLoop (s : AcceptedSocket) (ret : Bytes) (maxRecv : Nat) : Bytes × AcceptedSocket :=
  if maxRecv = 0 then (ret, s)
  else
    let ret := ret ++ List.replicate maxRecv 0
    match s.recv maxRecv with
    | (.data [], s) => (ret, s)
    | (.data (byte :: bytes), s) =>
        readLoop s (overwrite ret (ret.length - maxRecv) (byte :: bytes))
          (maxRecv - (byte :: bytes).length)
    | (.failed _, s) => ([], s)
termination_by maxRecv
decreasing_by
  rw [List.length_cons]
  omega

/-- How many bytes the read loop is entered for. -/
def requested (maxRecv canRecv : Nat) : Nat := if maxRecv = 0 then canRecv else maxRecv

/-- `ReceiveBytes`; none if it is still waiting. -/
def receiveBytes (s : AcceptedSocket) (maxRecv timeoutMs : Nat) : Option Bytes × AcceptedSocket :=
  match waitLoop maxRecv timeoutMs s.waits with
  | (some (.ready canRecv), waits) =>
      let (ret, s) := readLoop { s with waits := waits } [] (requested maxRecv canRecv)
      (some ret, s)
  | (some (.gaveUp closed), waits) =>
      (some [], { s with waits := waits, closed := s.closed || closed })
  | (_, waits) => (none, { s with waits := waits })

end AcceptedSocket

end LuaXENetwork
