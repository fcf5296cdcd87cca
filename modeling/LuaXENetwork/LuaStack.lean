import LuaXENetwork.Http.PushResponse
import LuaXENetwork.Library.Program
import LuaXENetwork.Library.Stack

/-! The Lua stack of the running C function, and the calls of the C API on it. -/

namespace LuaXENetwork
open Library

abbrev LuaStack := Stack LuaValue

/-- `LUA_MINSTACK`. -/
def luaMinStack : Nat := 20

/-- The stack of a function that was called with the arguments. -/
def LuaStack.entered (args : List LuaValue) : LuaStack := ⟨args, luaMinStack⟩

/-- How a function is left without returning. -/
inductive LuaExit where
  | lua (failure : LuaFailure)
  | exception (what : Bytes)
deriving DecidableEq, Repr

abbrev OnStack (α : Type) := Program LuaStack LuaExit α

namespace OnStack

/-- What becomes of a call on a slot that is not there, or without a free one. -/
def misuse : LuaExit := .lua .undefinedBehaviour

def raise {α : Type} (message : Bytes) : OnStack α := throw (.lua (.error message))

def valueAt (index : Int) : OnStack LuaValue := Program.readOr misuse (·.slot index)

def exchange (popped : Nat) (values : List LuaValue) : OnStack Unit :=
  Program.stepOr misuse (·.exchange popped values)

/-- `lua_newtable`, `lua_pushinteger`, `lua_pushboolean` and `lua_pushlstring`. -/
def push (value : LuaValue) : OnStack Unit := exchange 0 [value]

/-- `lua_pop`. -/
def pop (n : Nat) : OnStack Unit := exchange n []

/-- `lua_insert`. -/
def insert (index : Int) : OnStack Unit := Program.stepOr misuse (·.insert index)

def tableAt (index : Int) : OnStack LuaTable := do
  match ← valueAt index with
  | .table entries => return entries
  | _ => raise (ascii "attempt to index a non-table value")

/-- `lua_getfield` where the table has what is `found`. -/
def getField (index : Int) (found : LuaTable → LuaValue) : OnStack Unit := do
  let table ← tableAt index
  push (found table)

/-- The value on top goes into the table. -/
def store (index : Int) (key : LuaKey) : OnStack Unit := do
  let table ← tableAt index
  let value ← valueAt (-1)
  Program.stepOr misuse (·.replace index (.table (Assoc.store key value table)))
  pop 1

/-- `lua_setfield` of a value that is not nil. -/
def setField (index : Int) (key : Bytes) : OnStack Unit := store index (.string key)

/-- `lua_rawseti`. -/
def rawSetI (index : Int) (i : Nat) : OnStack Unit := store index (.number (.finite i))

/-- `lua_pcall`: whether it reports no error. -/
def pcall (arguments results : Nat) (call : ProtectedCall) : OnStack Bool :=
  match call with
  | .returned values => do
      exchange (arguments + 1) (setTop values results)
      return true
  | .raised error => do
      exchange (arguments + 1) [error]
      return false

end OnStack

end LuaXENetwork
