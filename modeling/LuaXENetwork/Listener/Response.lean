import LuaXENetwork.Http.Builder

/-! What a `ListenerContext` builds and sends. -/

namespace LuaXENetwork

/-- `lua_Build` may be called as a method or as a function. -/
def buildArgument (args : List LuaValue) : LuaValue :=
  match argument args 1 with
  | .userdata _ => argument args 2
  | value => value

/-- `ListenerContext::lua_Build`. -/
def listenerBuild (lua : LuaLibrary) (args : List LuaValue) : Except LuaFailure Bytes :=
  let value := buildArgument args
  if value.isTable then responseBuilder lua value
  else match value.text? lua with
    | some text =>
        .ok (ascii "HTTP/1.1 200 OK\r\nContent-Length: " ++ toText text.length ++ headerEnd ++ cString text)
    | none => .ok (ascii "HTTP/1.1 500 Internal Server Error\r\nContent-Length: 0\r\n\r\n")

/-- `ListenerContext::lua_Send`: what goes to `SendBytes` of the socket. -/
def listenerSend (lua : LuaLibrary) (value : LuaValue) : Except LuaFailure Bytes :=
  match value.text? lua with
  | some text => .ok text
  | none =>
      if value.isTable then responseBuilder lua value
      else .error (.error (ascii "Invalid argument"))

end LuaXENetwork
