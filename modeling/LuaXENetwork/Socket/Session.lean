import LuaXENetwork.Socket.BaseSock

namespace LuaXENetwork

/-- What the owner of a connected socket does with it. Between two calls time may pass. -/
inductive SocketCall where
  | recv (length minLength : Nat)
  | send (data : Bytes)
  | pause (milliseconds : Nat)
deriving DecidableEq, Repr

/-- A socket in use, and what its `Recv` calls found in their own buffers when they returned. -/
structure Session where
  socket : BaseSock
  delivered : Bytes := []

namespace Session

def perform (session : Session) : SocketCall → Session
  | .recv length minLength =>
      match session.socket.receive length minLength with
      | (none, s) => { session with socket := s }
      | (some data, s) => { socket := s, delivered := session.delivered ++ data }
  | .send data => { session with socket := (session.socket.send data).2 }
  | .pause milliseconds =>
      { session with socket := session.socket.runTo (session.socket.clock + milliseconds) }

def run (session : Session) (calls : List SocketCall) : Session := calls.foldl perform session

end Session

end LuaXENetwork
