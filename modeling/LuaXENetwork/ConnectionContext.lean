import LuaXENetwork.Socket.BaseSock
import LuaXENetwork.Tls.Receive
import LuaXENetwork.Http.Builder

/-! `receive` and `send` of a connection, over a plain socket or a TLS client. -/

namespace LuaXENetwork

namespace RecvState

variable {κ : Type} (decryptMessage : κ → Bytes → DecryptAnswer κ)

/-- What `Recv` copies into the buffer of its caller, also where it fails after that. -/
def copied (length : Nat) (s : RecvState κ) : Bytes :=
  if 0 < s.tls.plainTextBytes then
    window s.tls.plainText s.tls.plainTextPtr (min length s.tls.plainTextBytes)
  else if s.tls.encrypting = false then []
  else match nextMessage decryptMessage s with
    | (.ok (scRet, buffers), s) =>
        if scRet ≠ secEOk then []
        else match buffers.find? (·.type = .data) with
          | none => []
          | some dataBuffer =>
              (window s.tls.readBuffer (s.tls.readPtr + dataBuffer.start) dataBuffer.count).take length
    | (.error _, _) => []

end RecvState

/-- `pActiveSock` alone, or with `pSSLClient` on top of it. -/
inductive ConnectionContext (κ : Type) where
  | plain (socket : BaseSock)
  | tls (client : RecvState κ)

/-- What `Recv` returns, none being `SOCKET_ERROR`, and what is then in the buffer. -/
structure RecvOutcome where
  count : Option Nat
  buffer : Bytes
deriving DecidableEq, Repr

/-- The bytes that `Recv` says it has delivered. -/
def RecvOutcome.delivered (outcome : RecvOutcome) : Bytes :=
  outcome.buffer.take (outcome.count.getD 0)

def RecvEnd.count : RecvEnd → Option Nat
  | .failed _ => none
  | .returned data => some data.length

namespace ConnectionContext

variable {κ : Type} (decryptMessage : κ → Bytes → DecryptAnswer κ)

/-- `Recv` into a string of so many zeros. `CSSLClient` does not look at `minLength`. -/
def recv (length minLength : Nat) : ConnectionContext κ → RecvOutcome × ConnectionContext κ
  | .plain socket =>
      let (count, socket') := (socket.allocate length).recv socket.buffers length minLength
      (⟨count, (socket'.memory socket.buffers).take length⟩, .plain socket')
  | .tls client =>
      let (ended, client') := client.recv decryptMessage length
      (⟨ended.count,
        overwrite (List.replicate length 0) 0 (client.copied decryptMessage length)⟩, .tls client')

/-- The size of the string, and the least that `Recv` is asked for. -/
def receiveSizes (length : Int) : Nat × Nat :=
  if length = 0 then (1024, 1) else (length.toNat, length.toNat)

/-- `ReceiveBytes`: the string pushed. A negative length makes `resize` throw. -/
def receiveBytes (length : Int) (context : ConnectionContext κ) :
    Option Bytes × ConnectionContext κ :=
  if length < 0 then (none, context)
  else
    let (size, minLength) := receiveSizes length
    let (outcome, context) := context.recv decryptMessage size minLength
    (some outcome.buffer, context)

end ConnectionContext

/-- `lua_Send`: what goes to `Send` of the transport. -/
def connectionSend (lua : LuaLibrary) (value : LuaValue) : Except LuaFailure Bytes :=
  match value.toString? lua with
  | some text => .ok text
  | none =>
      if value.isTable then responseBuilder lua value
      else .error (.error (ascii "Invalid argument"))

end LuaXENetwork
