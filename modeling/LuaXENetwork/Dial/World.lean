import LuaXENetwork.Library.Program
import LuaXENetwork.Socket.BaseSock
import LuaXENetwork.Tls.Client

/-! The state that `Dial` works on, and a record of what it did to the outside. -/

namespace LuaXENetwork
open Library

inductive DialEvent where
  | connecting (host : WString) (port : Nat)
  | writing (what : String) (bytes : Bytes)
  | writeFailed (what : String)
  | received (what : String) (bytes : Bytes)
  | readFailed (what : String)
  | expired
  | tlsWriting (token : Bytes)
  | checked (verifier : CertificateVerifier) (certificate : Certificate) (answer : ChainAnswer)
      (accepted : Bool)

structure DialWorld where
  socket : BaseSock
  tls : SslClient := {}
  verifier : CertificateVerifier := { host := [], caFile := [] }
  events : List DialEvent := []

abbrev Dialing (α : Type) := Program DialWorld DialError α

namespace Dialing

def record (event : DialEvent) : Dialing Unit :=
  Program.change fun w => { w with events := w.events ++ [event] }

def fail {α : Type} (code : String) (message : Bytes) : Dialing α := throw { code, message }

def clock : Dialing Nat := Program.read (·.socket.clock)

def lastError : Dialing Nat := Program.read (·.socket.lastError)

def setTimeouts (seconds : Int) : Dialing Unit :=
  Program.change fun w => { w with
    socket := (w.socket.setSendTimeoutSeconds seconds).setRecvTimeoutSeconds seconds }

def connect : Dialing Bool :=
  Program.act fun w => (w.socket.connect.1, { w with socket := w.socket.connect.2 })

def send (data : Bytes) : Dialing (Option Nat) :=
  Program.act fun w => ((w.socket.send data).1, { w with socket := (w.socket.send data).2 })

def receive (length minLength : Nat) : Dialing (Option Bytes) :=
  Program.act fun w => ((w.socket.receive length minLength).1,
    { w with socket := (w.socket.receive length minLength).2 })

def changeTls (f : SslClient → SslClient) : Dialing Unit :=
  Program.change fun w => { w with tls := f w.tls }

end Dialing

end LuaXENetwork
