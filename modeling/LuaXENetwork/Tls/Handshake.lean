import LuaXENetwork.Dial.World

/-! `CSSLClient::Initialize` with the negotiation loop, over whatever SSPI answers. -/

namespace LuaXENetwork
open Library Dialing

/-- The locals of the loop. -/
structure Negotiation where
  scRet : UInt32
  cbIoBuffer : Nat
  fDoRead : Bool
deriving DecidableEq, Repr

def Negotiation.goesOn (n : Negotiation) : Bool :=
  n.scRet = secIContinueNeeded || n.scRet = secEIncompleteMessage ||
    n.scRet = secIIncompleteCredentials

/-- How a round of the loop ends: by `return`, by `break`, or with the next round. -/
inductive RoundEnd where
  | returned (status : UInt32)
  | left (status : UInt32)
  | again (n : Negotiation)
deriving DecidableEq, Repr

def captureExtendedError (answer : ContextAnswer) : Dialing Unit :=
  changeTls fun tls => { tls with lastExtendedError := answer.extendedErrorText }

/-- Reads from the server when there is nothing to go on; `none` is an error or the end. -/
def readServer (n : Negotiation) : Dialing (Option Negotiation) :=
  if n.cbIoBuffer = 0 ∨ n.scRet = secEIncompleteMessage then
    if n.fDoRead then do
      let answer ← receive (readBufferSize - n.cbIoBuffer) 1
      let data := answer.getD []
      changeTls fun tls => { tls with readBuffer := overwrite tls.readBuffer n.cbIoBuffer data }
      return if data = [] then none else some { n with cbIoBuffer := n.cbIoBuffer + data.length }
    else return some { n with fDoRead := true }
  else return some n

/-- `ServerCertAcceptable` for the server's certificate, if there is one. -/
def acceptServer (platform : Platform) (answer : ContextAnswer) : Dialing Bool :=
  match answer.certificate with
  | .error _ => return true
  | .ok certificate => do
      let verifier ← Program.read (·.verifier)
      let result := verifier.check platform certificate answer.chain
      record (.checked verifier certificate answer.chain result.1)
      Program.change fun w => { w with verifier := result.2 }
      return result.1

/-- Sends a token of a later round; a part of it counts as sent. -/
def sendToken (token : Bytes) : Dialing Bool :=
  if token = [] then return true
  else do
    record (.tlsWriting token)
    let sent ← send token
    return sent ≠ none ∧ sent ≠ some 0

/-- Moves what SSPI left over to the front of the buffer. -/
def keepExtra (cbIoBuffer : Nat) (extra : Nat) : Dialing Unit :=
  changeTls fun tls => { tls with
    readBuffer := overwrite tls.readBuffer 0
      ((tls.readBuffer.drop (cbIoBuffer - extra)).take extra) }

/-- What follows from the status that `InitializeSecurityContext` returned. -/
def afterAnswer (n : Negotiation) (answer : ContextAnswer) : Dialing RoundEnd := do
  if answer.status = secEIncompleteMessage then return .again { n with scRet := answer.status }
  else if answer.status = secEOk then
    match answer.extra with
    | some extra => do
        keepExtra n.cbIoBuffer extra
        changeTls fun tls => { tls with readBufferBytes := extra }
        return .left answer.status
    | none => do
        changeTls fun tls => { tls with readBufferBytes := 0 }
        return .left answer.status
  else if isFailure answer.status then
    captureExtendedError answer
    return .left answer.status
  else if answer.status = secIIncompleteCredentials then
    if answer.newCredentials = secEOk then
      return .again { n with scRet := secIContinueNeeded, fDoRead := false }
    else return .left answer.newCredentials
  else match answer.extra with
    | some extra => do
        keepExtra n.cbIoBuffer extra
        return .again { n with scRet := answer.status, cbIoBuffer := extra }
    | none => return .again { n with scRet := answer.status, cbIoBuffer := 0 }

/-- Only with these statuses the certificate is looked at and the token is sent. -/
def ContextAnswer.speaks (answer : ContextAnswer) : Bool :=
  answer.status = secEOk || answer.status = secIContinueNeeded ||
    (isFailure answer.status && answer.extendedError)

def answerRound (platform : Platform) (n : Negotiation) (answer : ContextAnswer) :
    Dialing RoundEnd :=
  if answer.speaks then do
    let acceptable ← acceptServer platform answer
    if !acceptable then return .returned secEUnknownCredentials
    else
      let sent ← sendToken answer.token
      if !sent then return .returned secEInternalError
      else afterAnswer n answer
  else afterAnswer n answer

def negotiateRound (platform : Platform) (n : Negotiation) (answer : ContextAnswer) :
    Dialing RoundEnd := do
  match ← readServer n with
  | none => return .left secEInternalError
  | some n => answerRound platform n answer

/-- The loop: the status and whether the code behind the loop is reached. A context that answers
no more fails. -/
def negotiateLoop (platform : Platform) : List ContextAnswer → Negotiation → Dialing (UInt32 × Bool)
  | [], n => return (if n.goesOn then secEInternalError else n.scRet, true)
  | answer :: answers, n => do
      if n.goesOn then
        match ← negotiateRound platform n answer with
        | .returned status => return (status, false)
        | .left status => return (status, true)
        | .again n => negotiateLoop platform answers n
      else return (n.scRet, true)

/-- Sends the first token: an error status if it could not be sent. -/
def sendFirstToken (token : Bytes) : Dialing (Option UInt32) :=
  if token = [] then return none
  else do
    record (.tlsWriting token)
    let sent ← send token
    return match sent with
      | none => some cryptEFileError
      | some count => if count ≠ token.length then some secEInternalError else none

def sspiNegotiateLoop (platform : Platform) (answers : TlsAnswers) : Dialing UInt32 := do
  if answers.first.status ≠ secIContinueNeeded then
    captureExtendedError answers.first
    changeTls fun tls => { tls with lastSecurityStatus := answers.first.status }
    return answers.first.status
  else
    match ← sendFirstToken answers.first.token with
    | some status => return status
    | none =>
        let (status, behind) ← negotiateLoop platform answers.answers ⟨secIContinueNeeded, 0, true⟩
        if behind then do
          changeTls fun tls => { tls with
            encrypting := tls.encrypting || !isFailure status
            lastSecurityStatus := status }
          return status
        else return status

/-- `CSSLClient::Initialize`, without data read before. -/
def initializeTls (platform : Platform) (answers : TlsAnswers) : Dialing UInt32 := do
  if isFailure answers.startup then return answers.startup
  else
    changeTls fun tls => { tls with readBufferBytes := 0 }
    let status ← sspiNegotiateLoop platform answers
    if isFailure status then return status
    else match answers.streamSizes with
      | .error error => return error
      | .ok sizes => do
          changeTls fun tls => { tls with sizes := sizes }
          return secEOk

end LuaXENetwork
