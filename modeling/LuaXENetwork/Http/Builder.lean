import LuaXENetwork.Lua

namespace LuaXENetwork
open Library

/-- The entries that `lua_next` visits after a string key. -/
def entriesAfter (key : Bytes) : LuaTable → Option LuaTable
  | [] => none
  | (k, _) :: entries => if k = .string key then some entries else entriesAfter key entries

/-- The `lua_next` loop over a header table. `lua_tostring` on a number key rewrites the key in
place, so the walk goes on from the string, or fails when the table has no such key. -/
def headerLines (lua : LuaLibrary) (table : LuaTable) : Nat → LuaTable → Except LuaFailure Bytes
  | _, [] => .ok []
  | 0, _ :: _ => .error .diverges
  | rounds + 1, (key, value) :: entries => do
      let (name, next) ← match key with
        | .string s => pure (cString s, some entries)
        | .number n => pure (cString (lua.numberText n), entriesAfter (lua.numberText n) table)
        | .other _ => throw .undefinedBehaviour
      let some text := value.toString? lua | throw .undefinedBehaviour
      let some next := next | throw (.error (ascii "invalid key to 'next'"))
      let lines ← headerLines lua table rounds next
      return name ++ ascii ": " ++ text ++ crlf ++ lines

/-- The `Content-Length` line, the blank line and the body. -/
def bodyPart (body : LuaValue) : Bytes :=
  match body with
  | .string s => ascii "Content-Length: " ++ toText s.length ++ headerEnd ++ s
  | _ => crlf

/-- The header lines of a request after its `Host` line. -/
def requestHeaders (lua : LuaLibrary) : LuaValue → Except LuaFailure Bytes
  | .table headers => headerLines lua headers headers.length headers
  | .string s => .ok (cString s ++ crlf)
  | _ => .ok (ascii "Accept: */*" ++ crlf)

def requestBuilder (lua : LuaLibrary) (host : Bytes) (value : LuaValue) :
    Except LuaFailure Bytes :=
  match value with
  | .string s => .ok (cString s)
  | .number n => .ok (cString (lua.numberText n))
  | .table _ => do
      let request := match value.getField "method" with
        | .string s => if cString s = [] then [] else cString s ++ ascii " "
        | _ => ascii "GET "
      let request := match value.getField "path" with
        | .string s => if request ++ cString s = [] then [] else request ++ cString s ++ ascii " "
        | _ => request ++ ascii "/ "
      let request := request ++ match value.getField "version" with
        | .string s => cString s ++ crlf
        | _ => ascii "HTTP/1.1" ++ crlf
      let request := request ++ ascii "Host: " ++ host ++ crlf
      let headers ← requestHeaders lua (value.getField "headers")
      return request ++ headers ++ bodyPart (value.getField "body")
  | _ => .error (.error (ascii "attempt to index a non-table value"))

def responseBuilder (lua : LuaLibrary) (value : LuaValue) : Except LuaFailure Bytes :=
  match value with
  | .table _ => do
      let version := match value.getField "version" with
        | .string s => cString s ++ ascii " "
        | _ => ascii "HTTP/1.1 "
      let status :=
        if (value.getField "status").isNumber lua then
          toText ((value.getField "status").toInteger lua) ++ ascii " "
        else ascii "200 "
      let reason := match value.getField "reason" with
        | .string s => cString s ++ crlf
        | _ => ascii "OK" ++ crlf
      let headers ← match value.getField "headers" with
        | .table headers => headerLines lua headers headers.length headers
        | _ => pure []
      return version ++ status ++ reason ++ headers ++ bodyPart (value.getField "body")
  | _ => .error (.error (ascii "attempt to index a non-table value"))

end LuaXENetwork
