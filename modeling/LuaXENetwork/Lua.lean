import LuaXENetwork.Text
import Mathlib.Data.Rat.Floor

/-! Lua values as the C API shows them to the sources. -/

namespace LuaXENetwork

inductive LuaNumber where
  | finite (value : Rat)
  | infinite (negative : Bool)
  | nan
deriving DecidableEq

inductive LuaKey where
  | string (s : Bytes)
  | number (n : LuaNumber)
  | other (id : Nat)
deriving DecidableEq

/-- Tables list their entries in the order of `lua_next`. -/
inductive LuaValue where
  | nil
  | boolean (b : Bool)
  | number (n : LuaNumber)
  | string (s : Bytes)
  | table (entries : List (LuaKey × LuaValue))
  | function (id : Nat)
  | userdata (id : Nat)

abbrev LuaTable := List (LuaKey × LuaValue)

/-- The conversions between numbers and strings that the Lua library does. -/
structure LuaLibrary where
  numberText : LuaNumber → Bytes
  stringNumber : Bytes → Option LuaNumber

/-- A library whose only numbers are the whole ones. -/
def LuaLibrary.whole : LuaLibrary where
  numberText n := match n with
    | .finite value => toText value.num
    | _ => []
  stringNumber text :=
    if text ≠ [] ∧ text.all (Library.isDigit 10) then
      some (.finite (Library.fromDigits 10 text))
    else none

/-- How a call into the module can fail to return. -/
inductive LuaFailure where
  | error (message : Bytes)
  | undefinedBehaviour
  | diverges
deriving DecidableEq, Repr

/-- `(lua_Integer)` of a double: truncation, and the integer indefinite value out of range. -/
def LuaNumber.toInteger : LuaNumber → Int
  | .finite value =>
      let whole := if 0 ≤ value then value.floor else value.ceil
      if -2 ^ 63 ≤ whole ∧ whole < 2 ^ 63 then whole else -2 ^ 63
  | _ => -2 ^ 63

namespace LuaValue

def isString : LuaValue → Bool
  | .string _ | .number _ => true
  | _ => false

def isTable : LuaValue → Bool
  | .table _ => true
  | _ => false

def isNil : LuaValue → Bool
  | .nil => true
  | _ => false

variable (lua : LuaLibrary)

/-- `lua_tolstring`. -/
def text? : LuaValue → Option Bytes
  | .string s => some s
  | .number n => some (lua.numberText n)
  | _ => none

/-- `lua_tostring` taken as a `const char*`. -/
def toString? (v : LuaValue) : Option Bytes := (v.text? lua).map cString

def number? : LuaValue → Option LuaNumber
  | .number n => some n
  | .string s => lua.stringNumber s
  | _ => none

def isNumber (v : LuaValue) : Bool := (v.number? lua).isSome

def toInteger (v : LuaValue) : Int := ((v.number? lua).map LuaNumber.toInteger).getD 0

def toBoolean : LuaValue → Bool
  | .nil => false
  | .boolean b => b
  | _ => true

/-- `lua_getfield` on a table. -/
def getField (v : LuaValue) (name : String) : LuaValue :=
  match v with
  | .table entries =>
      match entries.find? (·.1 = .string (ascii name)) with
      | none => .nil
      | some (_, value) => value
  | _ => .nil

end LuaValue

/-- A value in a slot of the argument list; slots count from one. -/
def argument (args : List LuaValue) (index : Nat) : LuaValue := (args[index - 1]?).getD .nil

/-- `lua_settop`. -/
def setTop (stack : List LuaValue) (top : Nat) : List LuaValue :=
  stack.take top ++ List.replicate (top - stack.length) .nil

/-- How a `pcall` ends. -/
inductive ProtectedCall where
  | returned (values : List LuaValue)
  | raised (error : LuaValue)

end LuaXENetwork
