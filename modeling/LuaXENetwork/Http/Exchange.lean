import LuaXENetwork.Request.Options
import LuaXENetwork.Http.Response
import LuaXENetwork.Http.ChunkDecoder

/-! `ResolveHttpRequest`: one request and its response, with the callbacks of the option table. -/

namespace LuaXENetwork
open Library

/-- What `lua_pcall` on a callback field answers, or that the field holds no function. -/
inductive CallbackAnswer where
  | absent
  | raised (error : Bytes)
  | returned (value : LuaValue)

inductive CallbackCall where
  | shouldCancel
  | onHeaders (response : HttpResponse)
  | onChunk (chunk : Bytes)
deriving DecidableEq, Repr

/-- Only the boolean `false` stops the transfer. -/
def keepsGoing : LuaValue → Bool
  | .boolean b => b
  | _ => true

def CallbackCall.refusedBy : CallbackCall → CallbackAnswer → Bool
  | _, .absent => false
  | _, .raised _ => true
  | .shouldCancel, .returned value => value.toBoolean
  | .onHeaders _, .returned _ => false
  | .onChunk _, .returned value => !keepsGoing value

/-- One call of a callback: the body accumulated when it was made, and whether it was refused. -/
structure CalledBack where
  call : CallbackCall
  body : Bytes
  refused : Bool
deriving DecidableEq, Repr

/-- What `Recv` answers: no bytes when the peer has closed, and an error code with `SOCKET_ERROR`. -/
inductive Received where
  | data (bytes : Bytes)
  | failed (code : Nat)
deriving DecidableEq, Repr

/-- What the outside answers during one round of the receive loop. -/
structure Round where
  cancel : CallbackAnswer := .absent
  elapsedMs : Int := 0
  received : Received
  headers : CallbackAnswer := .absent
  chunks : List CallbackAnswer := []

/-- The locals of the receive loop, and the callbacks called so far. -/
structure Transfer where
  response : HttpResponse
  decoder : HttpChunkDecoder
  pendingHeaders : Bytes := []
  gotHeaders : Bool := false
  chunked : Bool := false
  finished : Bool := false
  contentLength : Option Nat := none
  calls : List CalledBack := []
deriving DecidableEq, Repr

/-- A `std::runtime_error` on its way out, with the locals as they were. -/
structure Thrown where
  what : Bytes
  transfer : Transfer
deriving DecidableEq, Repr

def secIContextExpired : Nat := 0x00090317

def socketErrorMessage (platform : Platform) (operation : String) (code : Nat) (timeoutMs : Int) :
    Bytes :=
  if code = errorTimeout ∨ code = wsaeTimedOut then
    ascii operation ++ ascii " timed out after " ++ toText timeoutMs ++ ascii " ms (error "
      ++ toText code ++ ascii ")"
  else
    let detail := match platform.formatMessage code with
      | some message => trimAscii message
      | none => ascii "unknown socket or TLS error"
    ascii operation ++ ascii " failed: " ++ detail ++ ascii " (error " ++ toText code ++ ascii ")"

def boundedTimeout (options : HttpRequestOptions) (configured elapsedMs : Int) : Except Bytes Int :=
  if options.totalTimeoutMs ≤ 0 then .ok configured
  else if options.totalTimeoutMs - elapsedMs ≤ 0 then
    .error (ascii "request total timeout exceeded after " ++ toText options.totalTimeoutMs
      ++ ascii " ms")
  else .ok (min configured (options.totalTimeoutMs - elapsedMs))

section Callbacks

variable (options : HttpRequestOptions)

def Transfer.calledBack (t : Transfer) (call : CallbackCall) (answer : CallbackAnswer) : Transfer :=
  { t with calls := t.calls ++ [⟨call, t.response.body, call.refusedBy answer⟩] }

/-- `CallRequestCallback`: the value returned, or none when there was nothing to call. -/
def callRequestCallback (name : String) (call : CallbackCall) (answer : CallbackAnswer)
    (t : Transfer) : Except Thrown (Option LuaValue × Transfer) :=
  if options.requestIndex = 0 then .ok (none, t)
  else match answer with
    | .absent => .ok (none, t)
    | .raised error =>
        .error ⟨ascii name ++ ascii " callback failed: " ++ error, t.calledBack call answer⟩
    | .returned value => .ok (some value, t.calledBack call answer)

def requestCancelled (answer : CallbackAnswer) (t : Transfer) : Except Thrown (Bool × Transfer) := do
  let (value, t) ← callRequestCallback options "should_cancel" .shouldCancel answer t
  return ((value.map LuaValue.toBoolean).getD false, t)

def emitResponseHeaders (answer : CallbackAnswer) (t : Transfer) : Except Thrown Transfer := do
  let (_, t) ← callRequestCallback options "on_headers" (.onHeaders t.response) answer t
  return t

def emitResponseChunk (chunk : Bytes) (answer : CallbackAnswer) (t : Transfer) :
    Except Thrown Transfer :=
  if chunk = [] then .ok t
  else do
    let (value, t) ← callRequestCallback options "on_chunk" (.onChunk chunk) answer t
    if ((value.map keepsGoing).getD true) = false then
      throw ⟨ascii "request cancelled by on_chunk callback", t⟩
    return t

/-- `append_body`. -/
def appendBody (chunk : Bytes) (answer : CallbackAnswer) (t : Transfer) : Except Thrown Transfer :=
  if options.maxResponseBytes < t.response.body.length + chunk.length then
    .error ⟨ascii "response exceeded max_response_bytes (" ++ toText options.maxResponseBytes
      ++ ascii ")", t⟩
  else
    emitResponseChunk options chunk answer
      { t with response := { t.response with body := t.response.body ++ chunk } }

/-- `append_body` on each chunk in turn. -/
def appendChunks : List Bytes → List CallbackAnswer → Transfer → Except Thrown Transfer
  | [], _, t => .ok t
  | chunk :: chunks, answers, t => do
      let t ← appendBody options chunk (answers.head?.getD .absent) t
      appendChunks chunks answers.tail t

end Callbacks

section Loop

variable (options : HttpRequestOptions) (platform : Platform) (secure headRequest : Bool)

/-- `head_request || response.status == 204 || response.status == 304`. -/
def bodyless (response : HttpResponse) : Bool :=
  headRequest || response.status == 204 || response.status == 304

def responseChunked (response : HttpResponse) : Bool :=
  (find (ascii "chunked")
    (lowerAscii (responseHeader response (ascii "transfer-encoding")))).isSome

def responseContentLength (response : HttpResponse) : Except Bytes (Option Nat) :=
  let length := responseHeader response (ascii "content-length")
  if length = [] then .ok none
  else do
    let (value, _) ← stoull 10 length
    return some value

def throwingAt (t : Transfer) : Except Bytes α → Except Thrown α
  | .ok value => .ok value
  | .error what => .error ⟨what, t⟩

/-- The `if (!got_headers)` part: the body bytes already there, once the header block is. -/
def receiveHeaders (answer : CallbackAnswer) (incoming : Bytes) (t : Transfer) :
    Except Thrown (Option Bytes × Transfer) :=
  let pending := t.pendingHeaders ++ incoming
  let t := { t with pendingHeaders := pending }
  if 1024 * 1024 < pending.length then
    .error ⟨ascii "HTTP response headers exceeded 1 MiB", t⟩
  else match find headerEnd pending with
    | none => .ok (none, t)
    | some separator => do
        let response ← throwingAt t (parseResponseHeaders (pending.take separator) t.response)
        let t := { t with response := response, pendingHeaders := [], gotHeaders := true }
        let t ← emitResponseHeaders options answer t
        let t := { t with chunked := responseChunked response }
        let contentLength ← throwingAt t (responseContentLength response)
        let t := { t with contentLength := contentLength }
        if options.maxResponseBytes < contentLength.getD 0 then
          throw ⟨ascii "Content-Length exceeds max_response_bytes", t⟩
        return (some (pending.drop (separator + 4)),
          { t with finished := bodyless headRequest response })

def receiveBody (answers : List CallbackAnswer) (incoming : Bytes) (t : Transfer) :
    Except Thrown Transfer :=
  if t.chunked then do
    let (chunks, decoder) ← throwingAt t (t.decoder.feed incoming)
    let t ← appendChunks options chunks answers { t with decoder := decoder }
    return { t with finished := t.decoder.complete }
  else match t.contentLength with
    | some contentLength => do
        let needed := contentLength - t.response.body.length
        let t ← appendChunks options [incoming.take needed] answers t
        return { t with finished := decide (contentLength ≤ t.response.body.length) }
    | none => appendChunks options [incoming] answers t

/-- One round of the loop after a receive that brought bytes. -/
def receiveData (round : Round) (incoming : Bytes) (t : Transfer) : Except Thrown Transfer := do
  let (incoming, t) ←
    if t.gotHeaders then pure (some incoming, t)
    else receiveHeaders options headRequest round.headers incoming t
  match incoming with
  | none => return t
  | some incoming =>
      if t.finished then return t
      else receiveBody options round.chunks incoming t

def receiveRound (round : Round) (t : Transfer) : Except Thrown Transfer := do
  let (cancelled, t) ← requestCancelled options round.cancel t
  if cancelled then throw ⟨ascii "request cancelled", t⟩
  let receiveTimeout ← throwingAt t (boundedTimeout options options.receiveTimeoutMs round.elapsedMs)
  match round.received with
  | .failed code =>
      if secure ∧ code = secIContextExpired then return { t with finished := true }
      else throw ⟨socketErrorMessage platform "receive" code receiveTimeout, t⟩
  | .data incoming =>
      if incoming = [] then return { t with finished := true }
      else
        let bytesReceived := t.response.bytesReceived + incoming.length
        let t := { t with response := { t.response with bytesReceived := bytesReceived } }
        receiveData options headRequest round incoming t

/-- How far a call has come. -/
inductive Outcome where
  | returned (response : HttpResponse)
  | threw (thrown : Thrown)
  | running (t : Transfer)
deriving DecidableEq, Repr

/-- What follows the loop. -/
def conclude (finishedMs : Int) (t : Transfer) : Outcome :=
  if t.gotHeaders = false then
    .threw ⟨ascii "connection closed before HTTP response headers were received", t⟩
  else if t.chunked ∧ t.decoder.complete = false then
    .threw ⟨ascii "connection closed before the chunked response completed", t⟩
  else match t.contentLength with
    | some contentLength =>
        if bodyless headRequest t.response = false ∧ t.response.body.length ≠ contentLength then
          .threw ⟨ascii "Content-Length mismatch: " ++ toText t.response.body.length
            ++ ascii " vs " ++ toText contentLength, t⟩
        else .returned { t.response with elapsedMs := finishedMs }
    | none => .returned { t.response with elapsedMs := finishedMs }

/-- `while (!finished)` and what follows it. -/
def receiveLoop (finishedMs : Int) (t : Transfer) : List Round → Outcome
  | [] => if t.finished then conclude headRequest finishedMs t else .running t
  | round :: rounds =>
      if t.finished then conclude headRequest finishedMs t
      else match receiveRound options platform secure headRequest round t with
        | .error thrown => .threw thrown
        | .ok t => receiveLoop finishedMs t rounds

end Loop

/-- What the outside answers during one call: whether the dial fails, how the send ends, and the
rounds of the receive loop. -/
structure Exchange where
  dial : DialOptions → Option DialError
  sendElapsedMs : Int := 0
  sent : Option Nat
  sendError : Nat := 0
  rounds : List Round
  finishedMs : Int := 0

def Transfer.start (options : HttpRequestOptions) : Transfer where
  response := {}
  decoder := .fresh options.maxResponseBytes

def isHeadRequest (request : Bytes) : Bool := (ascii "HEAD ").isPrefixOf request

def resolveHttpRequest (platform : Platform) (exchange : Exchange) (host : WString) (port : Int)
    (request : Bytes) (options : HttpRequestOptions) : Outcome :=
  let start := Transfer.start options
  let dial := dialOptions host port options
  match exchange.dial dial with
  | some error => .threw ⟨error.message, start⟩
  | none =>
      match boundedTimeout options options.sendTimeoutMs exchange.sendElapsedMs with
      | .error what => .threw ⟨what, start⟩
      | .ok sendTimeout =>
          if exchange.sent = some request.length then
            receiveLoop options platform dial.ssl (isHeadRequest request) exchange.finishedMs start
              exchange.rounds
          else .threw ⟨socketErrorMessage platform "send" exchange.sendError sendTimeout, start⟩

end LuaXENetwork
