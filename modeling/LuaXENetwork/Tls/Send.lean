import LuaXENetwork.Library.Sender
import LuaXENetwork.Tls.Client
import LuaXENetwork.Text

/-! `CSSLClient::Send`, over whatever EncryptMessage and the socket answer. -/

namespace LuaXENetwork
open Library

def errorFileNotEncrypted : Nat := 6002
def socketError : Int := -1
def writeBufferSize : Nat := maxMsgSize + maxExtraSize

/-- What became of one record. Without room in `writeBuffer` no defined behaviour is left. -/
inductive RecordFate where
  | overflow
  | unencrypted (status : UInt32)
  | handed (cipher : Bytes) (taken : Option Nat)
deriving DecidableEq, Repr

/-- A record, and the socket as it was before it. -/
structure SentRecord (σ : Type) where
  plain : Bytes
  socket : σ
  fate : RecordFate

structure SendState (σ : Type) where
  socket : σ
  lastError : Nat := 0
  records : List (SentRecord σ) := []

/-- `CSSLClient::GetLastError`: one of its own, or that of the socket. -/
def SendState.getLastError {σ : Type} (socketError : σ → Nat) (s : SendState σ) : Nat :=
  if s.lastError ≠ 0 then s.lastError else socketError s.socket

inductive SendEnd where
  | crashed
  | returned (value : Int)
deriving DecidableEq, Repr

namespace SslClient

-- `EncryptMessage` fails or gives the whole record, and may depend on what it was given before.
variable {σ : Type} (sender : Sender σ) (encryptMessage : List Bytes → Bytes → Except UInt32 Bytes)
  (tls : SslClient)

/-- The most that one record carries; Schannel stating no maximum leaves the module's own. -/
def maxChunk (sizes : StreamSizes) : Nat :=
  min maxMsgSize (if sizes.maximumMessage ≠ 0 then sizes.maximumMessage else maxMsgSize)

/-- The part of `Send` behind the splitting. -/
def sendRecord (data : Bytes) (s : SendState σ) : SendEnd × SendState σ :=
  let logged (fate : RecordFate) := s.records ++ [⟨data, s.socket, fate⟩]
  if writeBufferSize < tls.sizes.header + data.length + tls.sizes.trailer then
    (.crashed, { s with records := logged .overflow })
  else match encryptMessage (s.records.map SentRecord.plain) data with
    | .error status =>
        (.returned socketError, { s with
          lastError := status.toNat
          records := logged (.unencrypted status) })
    | .ok cipher =>
        match sender.send s.socket cipher with
        | (taken, socket) =>
            (.returned (if taken = none then socketError else toInt32 data.length),
              ⟨socket, 0, logged (.handed cipher taken)⟩)

/-- `Send` of what fits one record. -/
def sendShort (data : Bytes) (s : SendState σ) : SendEnd × SendState σ :=
  if !tls.encrypting then (.returned socketError, { s with lastError := errorFileNotEncrypted })
  else sendRecord sender encryptMessage tls data s

def sendChunks (data : Bytes) (total : Nat) (s : SendState σ) : SendEnd × SendState σ :=
  if total < data.length then
    let remaining := data.length - total
    let chunk := min (maxChunk tls.sizes) remaining
    match sendShort sender encryptMessage tls ((data.drop total).take chunk) s with
    | (.crashed, s) => (.crashed, s)
    | (.returned sent, s) =>
        if sent = socketError ∨ sent ≤ 0 then (.returned socketError, s)
        else sendChunks data (total + sent.toNat) s
  else (.returned (toInt32 total), s)
termination_by data.length - total
decreasing_by omega

def send (data : Bytes) (s : SendState σ) : SendEnd × SendState σ :=
  if !tls.encrypting then (.returned socketError, { s with lastError := errorFileNotEncrypted })
  else if maxChunk tls.sizes < data.length then sendChunks sender encryptMessage tls data 0 s
  else sendRecord sender encryptMessage tls data s

end SslClient

end LuaXENetwork
