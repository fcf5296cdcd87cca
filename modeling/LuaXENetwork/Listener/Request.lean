import LuaXENetwork.Text

/-! `ListenerContext::lua_Request`: the request that a listener reads from a client. -/

namespace LuaXENetwork
open Library

/-- The fields of the table that the call leaves on the stack. -/
structure ListenerRequest where
  data : Bytes
  method : Bytes
  query : Option Bytes
  path : Bytes
  version : Bytes
  headers : List Bytes
  body : Bytes
deriving DecidableEq, Repr

inductive ListenerResult where
  | nothing
  | raised (message : Bytes)
  | request (request : ListenerRequest)
deriving DecidableEq, Repr

/-- The receive buffer of the context, and what its next calls of `ReceiveBytes` answer; with no
answer left they answer the empty string. -/
structure ListenerContext where
  recvBuffer : Bytes := []
  receives : List Bytes
deriving DecidableEq, Repr

def maxHeaderBytes : Nat := 1024 * 1024

/-- Reads until the header end is there, the buffer is large, or nothing comes. -/
def awaitHeader (buffer : Bytes) : List Bytes → Bytes × List Bytes
  | [] => (buffer, [])
  | chunk :: receives =>
      if (find headerEnd buffer).isSome ∨ maxHeaderBytes ≤ buffer.length then
        (buffer, chunk :: receives)
      else if chunk = [] then (buffer, receives)
      else awaitHeader (buffer ++ chunk) receives

/-- Reads until the buffer holds `size` bytes or nothing comes. -/
def awaitBody (size : Nat) (buffer : Bytes) : List Bytes → Bytes × List Bytes
  | [] => (buffer, [])
  | chunk :: receives =>
      if size ≤ buffer.length then (buffer, chunk :: receives)
      else if chunk = [] then (buffer, receives)
      else awaitBody size (buffer ++ chunk) receives

/-- `std::strtoull` in base 10, or none when it reads no digits. -/
def strtoull (text : Bytes) : Option Nat :=
  (readNumeral 10 (cString text)).map fun numeral =>
    if 2 ^ 64 ≤ numeral.magnitude then 2 ^ 64 - 1
    else if numeral.negative then sizeT (2 ^ 64 - numeral.magnitude)
    else numeral.magnitude

/-- What a header line makes of the length found so far. -/
def requestContentLength (length : Nat) (line : Bytes) : Except Bytes Nat :=
  match find (ascii ":") line with
  | none => .ok length
  | some colon =>
      if lowerAscii (line.take colon) = ascii "content-length" then
        match strtoull ((line.drop (colon + 1)).dropWhile fun b => b == 32 || b == 9) with
        | none => .error (ascii "Invalid or oversized HTTP Content-Length")
        | some parsed =>
            if 64 * 1024 * 1024 < parsed then
              .error (ascii "Invalid or oversized HTTP Content-Length")
            else .ok parsed
      else .ok length

/-- The parts of a request target before and after its first `?`. -/
def splitTarget (target : Bytes) : Bytes × Option Bytes :=
  match find (ascii "?") target with
  | none => (target, none)
  | some question => (target.take question, some (target.drop (question + 1)))

/-- `substr` with a `size_t` count that may have wrapped. -/
def substr (s : Bytes) (position : Nat) (count : Int) : Bytes :=
  (s.drop position).take (count % 2 ^ 64).toNat

/-- The request line: method, target, version, and where it ends. -/
def readRequestLine (buffer : Bytes) : Option (Bytes × Bytes × Bytes × Nat) := do
  let requestLineEnd ← find crlf buffer
  let firstSpace ← find (ascii " ") buffer
  let gap ← find (ascii " ") (buffer.drop (firstSpace + 1))
  let secondSpace := firstSpace + 1 + gap
  if requestLineEnd < secondSpace then none
  else
    some (buffer.take firstSpace,
      substr buffer (firstSpace + 1) ((secondSpace : Int) - firstSpace - 1),
      substr buffer (secondSpace + 1) ((requestLineEnd : Int) - secondSpace - 1), requestLineEnd)

def luaRequest (ctx : ListenerContext) : ListenerResult × ListenerContext :=
  let (buffer, receives) := match ctx.recvBuffer, ctx.receives with
    | [], chunk :: receives => (chunk, receives)
    | buffer, receives => (buffer, receives)
  if buffer = [] then (.nothing, ⟨buffer, receives⟩)
  else
    let (buffer, receives) := awaitHeader buffer receives
    match find headerEnd buffer with
    | none => (.raised (ascii "Incomplete or oversized HTTP request header"), ⟨buffer, receives⟩)
    | some separator =>
        match readRequestLine buffer with
        | none => (.raised (ascii "Malformed HTTP request line"), ⟨buffer, receives⟩)
        | some (method, target, version, requestLineEnd) =>
            let lines := cursorLines (substr buffer (requestLineEnd + 2)
              ((separator : Int) - requestLineEnd - 2))
            match lines.foldlM requestContentLength 0 with
            | .error message => (.raised message, ⟨buffer, receives⟩)
            | .ok contentLength =>
                let bodyStart := separator + 4
                let (buffer, receives) := awaitBody (bodyStart + contentLength) buffer receives
                if buffer.length < bodyStart + contentLength then
                  (.raised (ascii "HTTP request body ended before Content-Length"),
                    ⟨buffer, receives⟩)
                else
                  (.request {
                    data := buffer
                    method := method
                    query := (splitTarget target).2
                    path := (splitTarget target).1
                    version := version
                    headers := lines
                    body := (buffer.drop bodyStart).take contentLength }, ⟨buffer, receives⟩)

end LuaXENetwork
