import LuaXENetwork.Socket.Winsock
import LuaXENetwork.Tls.Client
import LuaXENetwork.Tls.Send

/-! `CSSLClient::Recv`, over whatever DecryptMessage and the socket answer. -/

namespace LuaXENetwork

def wsaeMsgSize : Nat := 10040
def wsaSysCallFailure : Nat := 10107

/-- The bytes that lie behind a pointer into a buffer. -/
def window (memory : Bytes) (start count : Nat) : Bytes := (memory.drop start).take count

inductive SecBufferType where
  | empty
  | data
  | extra
  | other
deriving DecidableEq, Repr

/-- A buffer of an answer; its start counts from that of the message. -/
structure SecBuffer where
  type : SecBufferType
  start : Nat
  count : Nat
deriving DecidableEq, Repr

/-- `DecryptMessage` works in place; `buffers` are those behind the first. -/
structure DecryptAnswer (κ : Type) where
  status : UInt32
  memory : Bytes
  buffers : List SecBuffer
  context : κ

/-- How the socket meets the next `Recv`. -/
inductive RecvAnswer where
  | bytes (count : Nat)
  | failed
deriving DecidableEq, Repr

/-- The ciphertext that is still to come, and the pieces in which it does. -/
structure Wire where
  incoming : Bytes
  answers : List RecvAnswer := []
deriving DecidableEq, Repr

/-- With no answer left, a read takes what there is; no bytes tell of the end. -/
def Wire.recv (wire : Wire) (length : Nat) : Option Bytes × Wire :=
  match wire.answers.headD (.bytes wire.incoming.length) with
  | .bytes count =>
      let data := wire.incoming.take (min count length)
      (some data, ⟨wire.incoming.drop data.length, wire.answers.tail⟩)
  | .failed => (none, ⟨wire.incoming, wire.answers.tail⟩)

theorem Wire.recv_length {wire wire' : Wire} {length : Nat} {byte : UInt8} {more : Bytes}
    (taken : wire.recv length = (some (byte :: more), wire')) :
    wire'.incoming.length < wire.incoming.length := by
  unfold Wire.recv at taken
  split at taken
  · obtain ⟨data, rfl⟩ := Prod.mk.inj taken
    have some_taken := congrArg List.length (Option.some.inj data)
    simp only [List.length_cons, List.length_take, List.length_drop] at some_taken ⊢
    omega
  · exact absurd taken nofun

structure RecvState (κ : Type) where
  tls : SslClient := {}
  context : κ
  wire : Wire
  -- Kept for the proofs: what the fields of the client have been.
  history : List SslClient := []

/-- The ways to `SOCKET_ERROR`. -/
inductive RecvFailure where
  | notEncrypting
  | inexplicablyFull
  | socket
  | undecryptable (status : UInt32)
  | noData
  | plainTextOverflow
deriving DecidableEq, Repr

inductive RecvEnd where
  | failed (failure : RecvFailure)
  | returned (data : Bytes)
deriving DecidableEq, Repr

namespace RecvState

def secIContextExpired : UInt32 := 0x00090317

variable {κ : Type}

def update (s : RecvState κ) (f : SslClient → SslClient) : RecvState κ :=
  { s with tls := f s.tls, history := s.history ++ [f s.tls] }

/-- Moves what is buffered to the front once the end is reached: the room behind it. -/
def makeRoom (s : RecvState κ) : Option (Nat × RecvState κ) :=
  let freeBytesAtStart := s.tls.readPtr
  let freeBytesAtEnd := readBufferSize - s.tls.readBufferBytes - freeBytesAtStart
  if freeBytesAtEnd = 0 then
    if 0 < freeBytesAtStart then
      some (freeBytesAtStart, s.update fun tls => { tls with
        readBuffer := overwrite tls.readBuffer 0
          (window tls.readBuffer tls.readPtr (readBufferSize - freeBytesAtStart))
        readPtr := 0 })
    else none
  else some (freeBytesAtEnd, s)

theorem makeRoom_wire {s t : RecvState κ} {room : Nat} (roomy : s.makeRoom = some (room, t)) :
    t.wire = s.wire := by
  simp only [makeRoom] at roomy
  split at roomy
  · split at roomy
    · obtain ⟨-, rfl⟩ := Prod.mk.inj (Option.some.inj roomy)
      rfl
    · exact absurd roomy nofun
  · obtain ⟨-, rfl⟩ := Prod.mk.inj (Option.some.inj roomy)
    rfl

/-- Where the next call finds the ciphertext behind the message. -/
def keepExtra (s : RecvState κ) (buffers : List SecBuffer) : RecvState κ :=
  match buffers.find? (·.type = .extra) with
  | some extra =>
      (s.update fun tls => { tls with readBufferBytes := extra.count }).update
        fun tls => { tls with readPtr := tls.readPtr + extra.start }
  | none =>
      (s.update fun tls => { tls with readBufferBytes := 0 }).update
        fun tls => { tls with readPtr := 0 }

/-- The part of `RecvPartialEncrypted` behind the loop. -/
def deliver (s : RecvState κ) (length : Nat) (scRet : UInt32) (buffers : List SecBuffer) :
    RecvEnd × RecvState κ :=
  if scRet = secIContextExpired then
    (.returned [], s.update fun tls => { tls with encrypting := false, lastError := 0 })
  else if scRet ≠ secEOk then
    (.failed (.undecryptable scRet), s.update fun tls => { tls with lastError := scRet.toNat })
  else match buffers.find? (·.type = .data) with
    | none => (.failed .noData, s.update fun tls => { tls with lastError := wsaSysCallFailure })
    | some dataBuffer =>
        let data := window s.tls.readBuffer (s.tls.readPtr + dataBuffer.start) dataBuffer.count
        if dataBuffer.count ≤ length then (.returned data, s.keepExtra buffers)
        else
          let rest := dataBuffer.count - length
          let s := s.update fun tls => { tls with plainTextBytes := rest, plainTextPtr := 0 }
          if plainTextSize < rest then
            (.failed .plainTextOverflow, s.update fun tls => { tls with
              plainText := List.replicate plainTextSize 0
              lastError := wsaeMsgSize })
          else
            (.returned (data.take length), (s.update fun tls => { tls with
              plainText := overwrite tls.plainText 0 (data.drop length) }).keepExtra buffers)

/-- The part of the buffer that holds ciphertext. -/
def buffered (s : RecvState κ) : Bytes := window s.tls.readBuffer s.tls.readPtr s.tls.readBufferBytes

def decrypted (s : RecvState κ) (answer : DecryptAnswer κ) : RecvState κ :=
  { s.update fun tls => { tls with
      readBuffer := overwrite tls.readBuffer tls.readPtr answer.memory } with
    context := answer.context }

/-- The socket has put its bytes behind those that are buffered. -/
def received (s : RecvState κ) (data : Bytes) (wire : Wire) : RecvState κ :=
  { s with wire := wire }.update fun tls => { tls with
    readBuffer := overwrite tls.readBuffer (tls.readPtr + tls.readBufferBytes) data
    readBufferBytes := tls.readBufferBytes + data.length
    lastError := 0 }

variable (decryptMessage : κ → Bytes → DecryptAnswer κ)

/-- The loop of `RecvPartialEncrypted`, entered for want of a whole message. -/
def receiveMessage (s : RecvState κ) : Except RecvEnd (UInt32 × List SecBuffer) × RecvState κ :=
  match _roomy : s.makeRoom with
  | none => (.error (.failed .inexplicablyFull), s)
  | some (freeBytesAtEnd, t) =>
      match _taken : t.wire.recv freeBytesAtEnd with
      | (none, wire) =>
          (.error (.failed .socket), { t with wire := wire }.update fun tls => { tls with lastError := 0 })
      | (some [], wire) =>
          (.error (.returned []), { t with wire := wire }.update fun tls => { tls with
            encrypting := false
            lastError := 0 })
      | (some (byte :: more), wire) =>
          let t := t.received (byte :: more) wire
          let answer := decryptMessage t.context t.buffered
          if answer.status = secEIncompleteMessage then receiveMessage (t.decrypted answer)
          else (.ok (answer.status, answer.buffers), t.decrypted answer)
termination_by s.wire.incoming.length
decreasing_by
  have fewer := Wire.recv_length _taken
  rw [makeRoom_wire _roomy] at fewer
  exact fewer

/-- `RecvPartialEncrypted` up to the end of its loop. -/
def nextMessage (s : RecvState κ) : Except RecvEnd (UInt32 × List SecBuffer) × RecvState κ :=
  let answer := decryptMessage s.context s.buffered
  if s.tls.readBufferBytes = 0 then receiveMessage decryptMessage s
  else if answer.status = secEIncompleteMessage then
    receiveMessage decryptMessage (s.decrypted answer)
  else (.ok (answer.status, answer.buffers), s.decrypted answer)

def recvPartialEncrypted (length : Nat) (s : RecvState κ) : RecvEnd × RecvState κ :=
  let answer := decryptMessage s.context s.buffered
  let (ended, s) :=
    if s.tls.readBufferBytes = 0 then receiveMessage decryptMessage s
    else if answer.status = secEIncompleteMessage then
      receiveMessage decryptMessage (s.decrypted answer)
    else (.ok (answer.status, answer.buffers), s.decrypted answer)
  match ended with
  | .error ended => (ended, s)
  | .ok (scRet, buffers) => s.deliver length scRet buffers

def recv (length : Nat) (s : RecvState κ) : RecvEnd × RecvState κ :=
  if 0 < s.tls.plainTextBytes then
    if s.tls.plainTextBytes ≤ length then
      (.returned (window s.tls.plainText s.tls.plainTextPtr s.tls.plainTextBytes),
        s.update fun tls => { tls with plainTextBytes := 0 })
    else
      (.returned (window s.tls.plainText s.tls.plainTextPtr length),
        (s.update fun tls => { tls with plainTextPtr := tls.plainTextPtr + length }).update
          fun tls => { tls with plainTextBytes := tls.plainTextBytes - length })
  else if s.tls.encrypting then recvPartialEncrypted decryptMessage length s
  else (.failed .notEncrypting, s.update fun tls => { tls with lastError := errorFileNotEncrypted })

/-- One call after the other. -/
def recvs : List Nat → RecvState κ → List RecvEnd × RecvState κ
  | [], s => ([], s)
  | length :: lengths, s =>
      let (ended, s) := recv decryptMessage length s
      let (ends, s) := recvs lengths s
      (ended :: ends, s)

end RecvState

end LuaXENetwork
