import LuaXENetwork.Platform

/-! `Socket::SendBytes` and `Socket::Close` of an accepted socket, over whatever `send` answers. -/

namespace LuaXENetwork

def wsaeNotSock : Nat := 10038

inductive SendResult where
  | took (count : Nat)
  | failed (error : Nat)
deriving DecidableEq, Repr

structure PeerSocket where
  closed : Bool := false
  /-- Whether `closesocket` was called. -/
  released : Bool := false
  /-- What the calls of `send` will answer. -/
  sends : List SendResult
  /-- Kept for the proofs: the bytes that the socket has taken. -/
  taken : Bytes := []

namespace PeerSocket

/-- `send` of a length that is an `int`. It takes bytes from the front, never more than there are. -/
def send (s : PeerSocket) (data : Bytes) (len : Int) : SendResult × PeerSocket :=
  if s.released then (.failed wsaeNotSock, s)
  else match s.sends.headD (.failed wsaeWouldBlock) with
    | .took count =>
        let count := min count len.toNat
        (.took count, { s with sends := s.sends.tail, taken := s.taken ++ data.take count })
    | .failed error => (.failed error, { s with sends := s.sends.tail })

def sendBytes (s : PeerSocket) (data : Bytes) : Int × PeerSocket :=
  match s.send data (toInt32 data.length) with
  | (.took count, s) => (count, s)
  | (.failed error, s) =>
      if error = wsaeWouldBlock then (0, s)
      else if error = wsaeConnReset then (-1, { s with closed := true })
      else (-1, s)

def close (s : PeerSocket) : PeerSocket :=
  { s with released := s.released || !s.closed, closed := true }

end PeerSocket

end LuaXENetwork
