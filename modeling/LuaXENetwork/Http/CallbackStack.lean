import LuaXENetwork.Http.Exchange
import LuaXENetwork.LuaStack

/-! The receive loop once more, with the Lua stack that its callbacks work on. -/

namespace LuaXENetwork

/-- What one use of a callback meets: the field that the option table has by then, and how the call
ends when the field is a function. An `__index` that raises unwinds the caller too and is left out. -/
structure CallbackOutside where
  field : LuaValue := .nil
  call : ProtectedCall := .returned []

/-- What the outside answers during one round of the receive loop. -/
structure CallbackRound where
  cancel : CallbackOutside := {}
  elapsedMs : Int := 0
  received : Received
  headers : CallbackOutside := {}
  chunks : List CallbackOutside := []

def LuaValue.isFunction : LuaValue → Bool
  | .function _ => true
  | _ => false

def LuaValue.isBoolean : LuaValue → Bool
  | .boolean _ => true
  | _ => false

/-- How the receive loop ends: with the response, or still running when the rounds are used up. -/
def Outcome.result : Outcome → Except Thrown (HttpResponse ⊕ Transfer)
  | .returned response => .ok (.inl response)
  | .running t => .ok (.inr t)
  | .threw thrown => .error thrown

namespace OnStack
open Library

section PushResponse

/-- A push and the `lua_setfield(L, -2, name)` after it. -/
def pushField (name : String) (value : LuaValue) : OnStack Unit := do
  push value
  setField (-2) (ascii name)

/-- A push and the `lua_rawseti(L, -2, i)` after it. -/
def pushItem (i : Nat) (value : LuaValue) : OnStack Unit := do
  push value
  rawSetI (-2) i

variable (lua : LuaLibrary)

/-- One turn of the loop over `response.headers`. -/
def pushHeader (header : Bytes × Bytes) : OnStack Unit := do
  let key := cString header.1
  getField (-1) (·.field key)
  let found ← valueAt (-1)
  if found.isNil then do
    pop 1
    push (.string header.2)
    setField (-2) key
  else match found.toString? lua with
    | none => throw misuse
    | some prior => do
        pop 1
        push (.string (prior ++ ascii ", " ++ header.2))
        setField (-2) key

def pushHeaders : HeaderList → OnStack Unit
  | [] => pure ()
  | header :: headers => do
      pushHeader lua header
      pushHeaders headers

/-- The second loop, from `header_index` on. -/
def pushHeaderPairs : Nat → HeaderList → OnStack Unit
  | _, [] => pure ()
  | headerIndex, header :: headers => do
      push (.table [])
      pushItem 1 (.string header.1)
      pushItem 2 (.string header.2)
      rawSetI (-2) headerIndex
      pushHeaderPairs (headerIndex + 1) headers

def pushBody (response : HttpResponse) (includeBody : Bool) : OnStack Unit :=
  if includeBody then pushField "body" (.string response.body) else pure ()

def pushResponse (response : HttpResponse) (includeBody : Bool) : OnStack Unit := do
  push (.table [])
  pushBody response includeBody
  pushField "status" (pushInteger response.status)
  pushField "ok" (.boolean (200 ≤ response.status ∧ response.status < 300))
  pushField "version" (.string response.version)
  pushField "reason" (.string response.reason)
  pushField "raw_headers" (.string response.rawHeaders)
  pushField "bytes_received" (pushInteger (luaInteger response.bytesReceived))
  pushField "elapsed_ms" (pushInteger (luaInteger response.elapsedMs))
  push (.table [])
  pushHeaders lua response.headers
  setField (-2) (ascii "headers")
  push (.table [])
  pushHeaderPairs 1 response.headers
  setField (-2) (ascii "header_list")

end PushResponse

section Callbacks

variable (lua : LuaLibrary) (requestIndex : Nat)

/-- `if (arguments) lua_pop(L, arguments)`. -/
def popArguments (arguments : Nat) : OnStack Unit :=
  if arguments = 0 then pure () else pop arguments

/-- `if (arguments) lua_insert(L, -1 - arguments)`. -/
def insertBelow (arguments : Nat) : OnStack Unit :=
  if arguments = 0 then pure () else insert (-1 - arguments)

def callRequestCallback (name : String) (arguments results : Nat) (outside : CallbackOutside) :
    OnStack Bool :=
  if requestIndex = 0 then do
    popArguments arguments
    return false
  else do
    getField requestIndex fun _ => outside.field
    let callback ← valueAt (-1)
    if callback.isFunction = false then do
      pop 1
      popArguments arguments
      return false
    else do
      insertBelow arguments
      let succeeded ← pcall arguments results outside.call
      if succeeded then return true
      else do
        let error ← valueAt (-1)
        pop 1
        throw (.exception (ascii name ++ ascii " callback failed: "
          ++ (error.toString? lua).getD (ascii "unknown callback error")))

def requestCancelled (outside : CallbackOutside) : OnStack Bool := do
  let called ← callRequestCallback lua requestIndex "should_cancel" 0 1 outside
  if called = false then return false
  else do
    let value ← valueAt (-1)
    pop 1
    return value.toBoolean

def emitResponseHeaders (outside : CallbackOutside) (response : HttpResponse) : OnStack Unit :=
  if requestIndex = 0 then pure ()
  else do
    pushResponse lua response false
    let _called ← callRequestCallback lua requestIndex "on_headers" 1 0 outside
    return

def emitResponseChunk (outside : CallbackOutside) (chunk : Bytes) : OnStack Unit :=
  if requestIndex = 0 ∨ chunk = [] then pure ()
  else do
    push (.string chunk)
    let called ← callRequestCallback lua requestIndex "on_chunk" 1 1 outside
    if called = false then return
    else do
      let value ← valueAt (-1)
      let keepGoing := value.isBoolean = false ∨ value.toBoolean = true
      pop 1
      if keepGoing then return
      else throw (.exception (ascii "request cancelled by on_chunk callback"))

end Callbacks

section Loop

variable (lua : LuaLibrary) (options : HttpRequestOptions) (platform : Platform)
  (secure headRequest : Bool)

/-- What throws a `std::runtime_error` and does not touch the stack. -/
def throwing {α : Type} (x : Except Bytes α) : OnStack α := Program.ofExcept (x.mapError .exception)

/-- `append_body`. -/
def appendBody (chunk : Bytes) (outside : CallbackOutside) (t : Transfer) : OnStack Transfer :=
  if options.maxResponseBytes < t.response.body.length + chunk.length then
    throw (.exception (ascii "response exceeded max_response_bytes ("
      ++ toText options.maxResponseBytes ++ ascii ")"))
  else do
    let t := { t with response := { t.response with body := t.response.body ++ chunk } }
    emitResponseChunk lua options.requestIndex outside chunk
    return t

def appendChunks : List Bytes → List CallbackOutside → Transfer → OnStack Transfer
  | [], _, t => pure t
  | chunk :: chunks, outsides, t => do
      let t ← appendBody lua options chunk (outsides.head?.getD {}) t
      appendChunks chunks outsides.tail t

/-- The `if (!got_headers)` part. -/
def receiveHeaders (outside : CallbackOutside) (incoming : Bytes) (t : Transfer) :
    OnStack (Option Bytes × Transfer) :=
  let pending := t.pendingHeaders ++ incoming
  let t := { t with pendingHeaders := pending }
  if 1024 * 1024 < pending.length then
    throw (.exception (ascii "HTTP response headers exceeded 1 MiB"))
  else match find headerEnd pending with
    | none => pure (none, t)
    | some separator => do
        let response ← throwing (parseResponseHeaders (pending.take separator) t.response)
        let t := { t with response := response, pendingHeaders := [], gotHeaders := true }
        emitResponseHeaders lua options.requestIndex outside response
        let t := { t with chunked := responseChunked response }
        let contentLength ← throwing (responseContentLength response)
        let t := { t with contentLength := contentLength }
        if options.maxResponseBytes < contentLength.getD 0 then
          throw (.exception (ascii "Content-Length exceeds max_response_bytes"))
        else
          return (some (pending.drop (separator + 4)),
            { t with finished := bodyless headRequest response })

def receiveBody (outsides : List CallbackOutside) (incoming : Bytes) (t : Transfer) :
    OnStack Transfer :=
  if t.chunked then do
    let (chunks, decoder) ← throwing (t.decoder.feed incoming)
    let t ← appendChunks lua options chunks outsides { t with decoder := decoder }
    return { t with finished := t.decoder.complete }
  else match t.contentLength with
    | some contentLength => do
        let needed := contentLength - t.response.body.length
        let t ← appendChunks lua options [incoming.take needed] outsides t
        return { t with finished := decide (contentLength ≤ t.response.body.length) }
    | none => appendChunks lua options [incoming] outsides t

def receiveData (round : CallbackRound) (incoming : Bytes) (t : Transfer) : OnStack Transfer := do
  let (incoming, t) ←
    if t.gotHeaders then pure (some incoming, t)
    else receiveHeaders lua options headRequest round.headers incoming t
  match incoming with
  | none => return t
  | some incoming =>
      if t.finished then return t
      else receiveBody lua options round.chunks incoming t

def receiveRound (round : CallbackRound) (t : Transfer) : OnStack Transfer := do
  let cancelled ← requestCancelled lua options.requestIndex round.cancel
  if cancelled then throw (.exception (ascii "request cancelled"))
  else do
    let receiveTimeout ←
      throwing (boundedTimeout options options.receiveTimeoutMs round.elapsedMs)
    match round.received with
    | .failed code =>
        if secure ∧ code = secIContextExpired then return { t with finished := true }
        else throw (.exception (socketErrorMessage platform "receive" code receiveTimeout))
    | .data incoming =>
        if incoming = [] then return { t with finished := true }
        else
          let bytesReceived := t.response.bytesReceived + incoming.length
          let t := { t with response := { t.response with bytesReceived := bytesReceived } }
          receiveData lua options headRequest round incoming t

/-- `while (!finished)` and what follows it. -/
def receiveLoop (finishedMs : Int) (t : Transfer) :
    List CallbackRound → OnStack (HttpResponse ⊕ Transfer)
  | [] => settle (if t.finished then conclude headRequest finishedMs t else .running t)
  | round :: rounds =>
      if t.finished then settle (conclude headRequest finishedMs t)
      else do
        let t ← receiveRound lua options platform secure headRequest round t
        receiveLoop finishedMs t rounds
where
  settle (outcome : Outcome) : OnStack (HttpResponse ⊕ Transfer) :=
    throwing (outcome.result.mapError Thrown.what)

end Loop

end OnStack

end LuaXENetwork
