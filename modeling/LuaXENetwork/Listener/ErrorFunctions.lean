import LuaXENetwork.Library.References
import LuaXENetwork.Lua

/-! `context:error`: the error functions of connections, in the registry that they share with other code. -/

namespace LuaXENetwork
open Library

/-- `onError`, which is `LUA_REFNIL` where there is none, and `onErrState`. -/
structure ErrorFields where
  onError : Option Nat := none
  onErrState : Option Nat := none

section Registry

variable {R : References LuaValue} (registry : R.State)

/-- `luaL_ref`, which keeps no nil. -/
def luaRef (value : LuaValue) : Option Nat × R.State :=
  if value.isNil then (none, registry) else (some (R.ref registry value).1, (R.ref registry value).2)

/-- `lua_Error` on a Lua thread, with the context in slot 1 of the stack. -/
def luaError (thread : Nat) (stack : List LuaValue) (fields : ErrorFields) : ErrorFields × R.State :=
  let registry := fields.onError.elim registry (R.unref registry)
  if (argument stack 2).isNil then ({ fields with onError := none }, registry)
  else
    let (onError, registry) := luaRef registry (argument stack stack.length)
    ({ onError := onError, onErrState := some thread }, registry)

end Registry

inductive ErrorAction where
  /-- A connection is accepted. -/
  | accept
  /-- `context:error(...)`. -/
  | error (context thread : Nat) (stack : List LuaValue)
  /-- The handler of a connection raises an error. -/
  | raise (context : Nat)
  | collect (context : Nat)
  /-- A thread is collected. -/
  | sweep (thread : Nat)
  /-- Other code keeps a value, reads it and gives it back. -/
  | keep (name : Nat) (value : LuaValue)
  | read (name : Nat)
  | release (name : Nat)

inductive ErrorEvent where
  /-- What is run for the error of a handler, if anything. -/
  | ran (context : Nat) (function : Option LuaValue)
  | read (name : Nat) (value : LuaValue)

/-- One Lua state: its registry, the connections that have not been collected, what other code keeps, and
the threads that are gone. Thread 0 is the main one. -/
structure ErrorFunctions (R : References LuaValue) where
  registry : R.State := R.empty
  contexts : Nat → Option ErrorFields := fun _ => none
  others : Nat → Option Nat := fun _ => none
  swept : List Nat := []
  next : Nat := 0
  log : List ErrorEvent := []
  /-- A thread that is gone has been used. -/
  dangling : Bool := false

namespace ErrorFunctions

variable {R : References LuaValue} (t : ErrorFunctions R)

def accept : ErrorFunctions R :=
  { t with contexts := Function.update t.contexts t.next (some {}), next := t.next + 1 }

def error (context thread : Nat) (stack : List LuaValue) (fields : ErrorFields) : ErrorFunctions R :=
  let (fields, registry) := luaError t.registry thread stack fields
  { t with registry := registry, contexts := Function.update t.contexts context (some fields) }

/-- `lua_rawgeti`. -/
def get (key : Nat) : LuaValue := (R.get t.registry key).getD .nil

/-- `~ListenerContext`. -/
def collect (context : Nat) (fields : ErrorFields) : ErrorFunctions R :=
  let contexts := Function.update t.contexts context none
  match fields.onError with
  | none => { t with contexts := contexts }
  | some key =>
      if fields.onErrState.any (· ∉ t.swept) then
        { t with registry := R.unref t.registry key, contexts := contexts }
      else { t with dangling := true }

def keep (name : Nat) (value : LuaValue) : ErrorFunctions R :=
  let (key, registry) := luaRef t.registry value
  { t with registry := registry, others := Function.update t.others name key }

/-- A step that is not possible changes nothing, and neither does one after the use of a thread that is
gone. -/
def step (t : ErrorFunctions R) (action : ErrorAction) : ErrorFunctions R :=
  if t.dangling then t
  else match action with
    | .accept => t.accept
    | .error context thread stack =>
        if thread ∈ t.swept then t else (t.contexts context).elim t (t.error context thread stack)
    | .raise context => (t.contexts context).elim t fun fields =>
        { t with log := t.log ++ [.ran context (fields.onError.map t.get)] }
    | .collect context => (t.contexts context).elim t (t.collect context)
    | .sweep thread => if thread = 0 then t else { t with swept := thread :: t.swept }
    | .keep name value => if (t.others name).isSome then t else t.keep name value
    | .read name => (t.others name).elim t fun key => { t with log := t.log ++ [.read name (t.get key)] }
    | .release name => (t.others name).elim t fun key =>
        { t with registry := R.unref t.registry key, others := Function.update t.others name none }

def run (R : References LuaValue) (actions : List ErrorAction) : ErrorFunctions R := actions.foldl step {}

end ErrorFunctions

/-! ## What it is for -/

/-- The error function of a connection, and the thread on which it was given. -/
structure Given where
  function : LuaValue
  thread : Nat

/-- What a call of `context:error` gives. -/
def givenBy (thread : Nat) (stack : List LuaValue) : Option Given :=
  if (argument stack 2).isNil ∨ (argument stack stack.length).isNil then none
  else some ⟨argument stack stack.length, thread⟩

/-- Every connection with its error function, and the values of other code, without a registry. -/
structure GivenFunctions where
  contexts : Nat → Option (Option Given) := fun _ => none
  others : Nat → Option LuaValue := fun _ => none
  swept : List Nat := []
  next : Nat := 0
  log : List ErrorEvent := []
  dangling : Bool := false

namespace GivenFunctions

def collect (t : GivenFunctions) (context : Nat) (given : Option Given) : GivenFunctions :=
  if given.all (·.thread ∉ t.swept) then { t with contexts := Function.update t.contexts context none }
  else { t with dangling := true }

def step (t : GivenFunctions) (action : ErrorAction) : GivenFunctions :=
  if t.dangling then t
  else match action with
    | .accept => { t with contexts := Function.update t.contexts t.next (some none), next := t.next + 1 }
    | .error context thread stack =>
        if thread ∈ t.swept ∨ t.contexts context = none then t
        else { t with contexts := Function.update t.contexts context (some (givenBy thread stack)) }
    | .raise context => (t.contexts context).elim t fun given =>
        { t with log := t.log ++ [.ran context (given.map Given.function)] }
    | .collect context => (t.contexts context).elim t (t.collect context)
    | .sweep thread => if thread = 0 then t else { t with swept := thread :: t.swept }
    | .keep name value =>
        if (t.others name).isSome ∨ value.isNil then t
        else { t with others := Function.update t.others name (some value) }
    | .read name => (t.others name).elim t fun value => { t with log := t.log ++ [.read name value] }
    | .release name => { t with others := Function.update t.others name none }

def run (actions : List ErrorAction) : GivenFunctions := actions.foldl step {}

end GivenFunctions

end LuaXENetwork
