import LuaXENetwork.Library.Program
import LuaXENetwork.Platform
import LuaXENetwork.Http.Builder

/-! `SocketServer:accept`: the overloaded arguments, the wait, and the handler that gets the socket. -/

namespace LuaXENetwork
open Library

def wsaeIntr : Nat := 10004

/-- What the outside answers during one call: the registry entry of the server, `WaitReadable`, the
error code of `accept` unless it brings a socket, and the calls of the handler and of `onError`. -/
structure AcceptOutside where
  registered : Option Bytes
  blocking : Bool
  readable : Bool
  accepted : Option Nat
  handler : ProtectedCall
  onError : Option ProtectedCall

inductive AcceptEvent where
  | waited (timeoutMs : Int)
  | accepted (connected : Bool)
  | started (dumped : Bytes)
  | called (handler : LuaValue)
  | sent (response : Bytes)
  | closed

inductive AcceptFailure where
  | lua (failure : LuaFailure)
  | exception (what : Bytes)

abbrev Accepting (α : Type) := Program (List AcceptEvent) AcceptFailure α

namespace Accepting

def record (event : AcceptEvent) : Accepting Unit := Program.change fun events => events ++ [event]

def raise {α : Type} (message : Bytes) : Accepting α := throw (.lua (.error message))

end Accepting

open Accepting

section Arguments

/-- `luaL_argerror`. -/
def argError {α : Type} (index : Nat) (extra : String) : Except AcceptFailure α :=
  .error (.lua (.error
    (ascii "bad argument #" ++ toText index ++ ascii " (" ++ ascii extra ++ ascii ")")))

def isHandler : LuaValue → Bool
  | .function _ | .table _ | .userdata _ => true
  | _ => false

/-- `snprintf` of a double with `%g` is the parameter. -/
def acceptTimeoutArg (shown : LuaNumber → Bytes) (raw : LuaNumber) : Except AcceptFailure Int :=
  match raw with
  | .finite value =>
      if value ≠ value.floor ∨ value < -2 ^ 31 ∨ 2 ^ 31 - 1 < value then refuse else .ok value.floor
  | _ => refuse
where
  refuse : Except AcceptFailure Int := .error (.lua (.error
    (ascii "accept: expected a whole number of milliseconds in [" ++ toText (-2 ^ 31) ++ ascii ", "
      ++ toText (2 ^ 31 - 1) ++ ascii "], got " ++ shown raw)))

/-- `timed`, `timeout_ms`, and the stack as the branches trim it. -/
def acceptArguments (shown : LuaNumber → Bytes) (stack : List LuaValue) :
    Except AcceptFailure (Bool × Int × List LuaValue) :=
  if 3 < stack.length then argError 4 "accept takes at most three arguments (server, handler, timeout_ms)"
  else match argument stack 2, argument stack 3 with
    | .number raw, _ => do
        let timeoutMs ← acceptTimeoutArg shown raw
        return (true, timeoutMs, setTop stack 1)
    | _, .number raw => do
        let timeoutMs ← acceptTimeoutArg shown raw
        return (true, timeoutMs, setTop stack 2)
    | second, third =>
        if isHandler second then
          if 2 < stack.length ∧ third.isNil = false then argError 3 "expected a timeout in milliseconds"
          else .ok (false, 0, setTop stack 2)
        else .ok (false, 0, stack)

end Arguments

section Calls

variable (lua : LuaLibrary) (outside : AcceptOutside)

/-- `SocketServer::Accept`: whether there is a socket. -/
def serverAccept : Accepting Bool := do
  record (.accepted outside.accepted.isNone)
  match outside.accepted with
  | none => return true
  | some code =>
      if code = wsaeWouldBlock ∨ code = wsaeIntr then return false
      else throw (.exception (ascii "Invalid Socket"))

/-- `lua_tostring` of an error value as `%s` prints it. -/
def errorText (error : LuaValue) : Bytes := (error.toString? lua).getD (ascii "(null)")

/-- The stack after the handler was called with the new context. -/
def callHandler (context : LuaValue) (stack : List LuaValue) : Accepting (List LuaValue) := do
  let stack := stack.take 1 ++ [context] ++ stack.drop 1 ++ [context]
  record (.called (argument stack (stack.length - 1)))
  let below := stack.take (stack.length - 2)
  match outside.handler with
  | .returned values => return below ++ values
  | .raised error =>
      match outside.onError with
      | none => raise (ascii "Failed to execute listener function: " ++ errorText lua error)
      | some (.raised error) => raise (ascii "Failed to execute error function: " ++ errorText lua error)
      | some (.returned values) => return below ++ [error] ++ values

/-- What goes to the client for the last value that the handler left. -/
def handlerAnswer (value : LuaValue) : Except AcceptFailure Bytes :=
  if value.isTable then
    match responseBuilder lua value with
    | .ok response => .ok response
    | .error failure => .error (.lua failure)
  else match value.text? lua with
    | some text => .ok text
    | none => .ok (ascii "HTTP/1.1 500 Internal Server Error\r\nContent-Length: 0\r\n\r\n")

def sendAnswer (stack : List LuaValue) : Accepting Unit :=
  if 2 < stack.length then do
    let response ← Program.ofExcept (handlerAnswer lua (argument stack stack.length))
    record (.sent response)
    record .closed
  else return

/-- What `accept` does once there is something to run and the wait, if any, is over. -/
def acceptPending (context : LuaValue) (timed : Bool) (stack : List LuaValue) :
    Accepting (List LuaValue) := do
  let answer (accepted : Bool) : List LuaValue := if timed then [.boolean accepted] else []
  if isHandler (argument stack 2) = false then
    match outside.registered with
    | none => raise (ascii "No function provided")
    | some dumped =>
        let connected ← serverAccept outside
        if connected then
          record (.started dumped)
          return answer true
        else return answer false
  else
    let connected ← serverAccept outside
    if connected then
      let stack ← callHandler lua outside context stack
      sendAnswer lua stack
      return answer true
    else if outside.blocking then raise (ascii "Failed to accept connection")
    else return answer false

/-- `Listener_Accept` on a stack with the server in slot 1; the values are what it returns to Lua. -/
def listenerAccept (shown : LuaNumber → Bytes) (context : LuaValue) (stack : List LuaValue) :
    Accepting (List LuaValue) := do
  let (timed, timeoutMs, stack) ← Program.ofExcept (acceptArguments shown stack)
  if outside.registered = none ∧ isHandler (argument stack 2) = false then
    raise (ascii "No function provided")
  else if timed = true ∧ timeoutMs ≠ 0 then
    record (.waited (if timeoutMs < 0 then -1 else timeoutMs))
    if outside.readable then acceptPending lua outside context timed stack
    else return [.boolean false]
  else acceptPending lua outside context timed stack

end Calls

end LuaXENetwork
