import LuaXENetwork.Tls.Verify

/-! The state of `CSSLClient`, and what SSPI answers it during a handshake. -/

namespace LuaXENetwork

def maxMsgSize : Nat := 16000
def maxExtraSize : Nat := 50
def readBufferSize : Nat := (maxMsgSize + maxExtraSize) * 2
def plainTextSize : Nat := maxMsgSize * 2

structure StreamSizes where
  header : Nat := 0
  trailer : Nat := 0
  maximumMessage : Nat := 0
deriving DecidableEq, Repr

/-- `readPtr` and `plainTextPtr` are offsets into their buffers. -/
structure SslClient where
  lastError : Nat := 0
  encrypting : Bool := false
  readBuffer : Bytes := List.replicate readBufferSize 0
  readBufferBytes : Nat := 0
  readPtr : Nat := 0
  plainText : Bytes := List.replicate plainTextSize 0
  plainTextPtr : Nat := 0
  plainTextBytes : Nat := 0
  sizes : StreamSizes := {}
  lastSecurityStatus : UInt32 := 0
  lastExtendedError : WString := []
deriving DecidableEq, Repr

def secEOk : UInt32 := 0
def secIContinueNeeded : UInt32 := 0x00090312
def secIIncompleteCredentials : UInt32 := 0x00090320
def secEIncompleteMessage : UInt32 := 0x80090318
def secEInternalError : UInt32 := 0x80090304
def secEUnknownCredentials : UInt32 := 0x8009030D
def cryptEFileError : UInt32 := 0x80092003

/-- `FAILED`. -/
def isFailure (status : UInt32) : Bool := 0x80000000 ≤ status

/-- What one `InitializeSecurityContext` answers, and what SSPI says when it is asked about it. -/
structure ContextAnswer where
  status : UInt32
  token : Bytes := []
  extendedError : Bool := false
  extra : Option Nat := none
  extendedErrorText : WString := []
  certificate : Except UInt32 Certificate := .error 0x80090301
  chain : ChainAnswer := {}
  newCredentials : UInt32 := secEInternalError
deriving Repr

/-- The answers of a whole `Initialize`: `startup` stands for what comes before the first token. -/
structure TlsAnswers where
  rootFile : RootFile := .unreadable
  startup : UInt32 := secEOk
  first : ContextAnswer := { status := secEInternalError }
  answers : List ContextAnswer := []
  streamSizes : Except UInt32 StreamSizes := .ok {}
deriving Repr

end LuaXENetwork
