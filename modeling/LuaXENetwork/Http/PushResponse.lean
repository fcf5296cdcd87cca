import LuaXENetwork.Lua
import LuaXENetwork.Http.Response
import LuaXENetwork.Library.Assoc

/-! `PushResponse`: the Lua table a response is handed out as. -/

namespace LuaXENetwork
open Library

namespace LuaTable

/-- `lua_getfield`. -/
def field (table : LuaTable) (key : Bytes) : LuaValue := (table.lookup (.string key)).getD .nil

/-- `lua_setfield` of a value that is not nil. -/
def setField (table : LuaTable) (key : Bytes) (value : LuaValue) : LuaTable :=
  Assoc.store (.string key) value table

/-- `lua_rawgeti`. -/
def item (table : LuaTable) (index : Nat) : LuaValue := (table.lookup (.number (.finite index))).getD .nil

end LuaTable

/-- Casting a `size_t` to `lua_Integer`. -/
def luaInteger (n : Int) : Int := (n + 2 ^ 63) % 2 ^ 64 - 2 ^ 63

def pushInteger (n : Int) : LuaValue := .number (.finite n)

/-- One turn of the loop over `response.headers`: both keys and the prior value pass through a
`const char*`. -/
def pushHeader (lua : LuaLibrary) (headers : LuaTable) (header : Bytes × Bytes) :
    Except LuaFailure LuaTable :=
  let key := cString header.1
  match headers.field key with
  | .nil => .ok (headers.setField key (.string header.2))
  | found => match found.toString? lua with
    | none => .error .undefinedBehaviour
    | some prior => .ok (headers.setField key (.string (prior ++ ascii ", " ++ header.2)))

/-- What the second loop appends under `header_index`. -/
def pushHeaderPair (index : Nat) (header : Bytes × Bytes) : LuaKey × LuaValue :=
  (.number (.finite (index + 1 : Nat)),
    .table [(.number (.finite 1), .string header.1), (.number (.finite 2), .string header.2)])

def pushResponse (lua : LuaLibrary) (response : HttpResponse) (includeBody : Bool) :
    Except LuaFailure LuaTable := do
  let table : LuaTable := []
  let table := if includeBody then table.setField (ascii "body") (.string response.body) else table
  let table := table.setField (ascii "status") (pushInteger response.status)
  let table := table.setField (ascii "ok") (.boolean (200 ≤ response.status ∧ response.status < 300))
  let table := table.setField (ascii "version") (.string response.version)
  let table := table.setField (ascii "reason") (.string response.reason)
  let table := table.setField (ascii "raw_headers") (.string response.rawHeaders)
  let table := table.setField (ascii "bytes_received") (pushInteger (luaInteger response.bytesReceived))
  let table := table.setField (ascii "elapsed_ms") (pushInteger (luaInteger response.elapsedMs))
  let headers ← response.headers.foldlM (pushHeader lua) []
  let table := table.setField (ascii "headers") (.table headers)
  return table.setField (ascii "header_list") (.table (response.headers.mapIdx pushHeaderPair))

end LuaXENetwork
