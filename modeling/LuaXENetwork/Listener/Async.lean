import LuaXENetwork.Listener.Accept
import Mathlib.Logic.Function.Basic

/-! The registered form of `accept`: the function under the server, and the threads that run it. -/

namespace LuaXENetwork
open Library

/-- `Listener_AcceptAsync`: what goes into the registry under the server. `lua_dump` is the parameter;
it knows no C functions. -/
def listenerAcceptAsync (dump : LuaValue → Option Bytes) (stack : List LuaValue) : Except AcceptFailure Bytes :=
  if isHandler (argument stack 2) = false then .error (.lua (.error (ascii "No function provided")))
  else match argument stack stack.length with
    | .function id =>
        match dump (.function id) with
        | some dumped => .ok dumped
        | none => .error (.lua (.error (ascii "Unable to transfer function: (null)")))
    | _ => .error (.lua (.error (ascii "bad argument #-1 (function expected)")))

/-- The calls of one thread: the error of `luaL_loadbuffer`, if any, and those of the function and of
`onError`. -/
structure AsyncOutside where
  unloaded : Option LuaValue
  handler : ProtectedCall
  onError : Option ProtectedCall

variable (lua : LuaLibrary)

/-- What the function, or `onError` behind its error, leaves on the stack. -/
def asyncStack (outside : AsyncOutside) : Except AcceptFailure (List LuaValue) :=
  match outside.handler, outside.onError with
  | .returned values, _ => .ok values
  | .raised error, none =>
      .error (.lua (.error (ascii "Failed to execute listener function: " ++ errorText lua error)))
  | .raised _, some (.raised error) =>
      .error (.lua (.error (ascii "Failed to execute error function: " ++ errorText lua error)))
  | .raised error, some (.returned values) => .ok ([error] ++ values)

/-- `Listener_AsyncRun`, on the empty stack of its new state: what goes to the client. Nothing is there
to catch an error. -/
def listenerAsyncRun (outside : AsyncOutside) : Except AcceptFailure (Option Bytes) :=
  match outside.unloaded with
  | some error =>
      .error (.lua (.error (ascii "Failed to load thread: " ++ errorText lua error ++ ascii "\n")))
  | none => do
      let stack ← asyncStack lua outside
      if 0 < stack.length then
        let response ← handlerAnswer lua (argument stack stack.length)
        return some response
      else return none

/-! ## The servers of a process, and their threads -/

/-- A thread: the connection it has been given, and the function that it loads. -/
structure Worker where
  connection : Nat
  dumped : Bytes
deriving DecidableEq, Repr

/-- A call of `accept` whose handler is running, and what follows it. -/
structure HandlerCall where
  server : Nat
  connection : Nat
  rest : List AcceptEvent

inductive ServeEvent where
  | arrived (server connection : Nat)
  | registered (server : Nat) (dumped : Bytes)
  | started (server : Nat) (worker : Worker)
  | called (server connection : Nat) (handler : LuaValue)
  | sent (connection : Nat) (response : Bytes)
  | closed (connection : Nat)
  | returned (connection : Nat)
  | finished (worker : Worker) (response : Option Bytes)

/-- Servers go by their addresses, which are the keys of the registry; connections in the order in which
they come. -/
structure Listeners where
  registry : Nat → Option Bytes := fun _ => none
  backlog : Nat → List Nat := fun _ => []
  workers : List Worker := []
  /-- Innermost first. -/
  handling : List HandlerCall := []
  nextConnection : Nat := 0
  /-- The error that has ended the process. -/
  aborted : Option AcceptFailure := none
  log : List ServeEvent := []

/-- What the outside answers during a call of `accept`; `failure` is the code of an `accept` that fails
although a connection may be pending. -/
structure AcceptAnswers where
  readable : Bool
  failure : Option Nat
  handler : ProtectedCall
  onError : Option ProtectedCall

inductive ServeAction where
  | arrive (server : Nat)
  | async (server : Nat) (stack : List LuaValue)
  | accept (server : Nat) (context : LuaValue) (stack : List LuaValue) (answers : AcceptAnswers)
  | handled
  | finish (worker : Nat) (outside : AsyncOutside)

/-- The events of a call up to the call of its handler, and those after it, if there is one. -/
def upToHandler : List AcceptEvent → List AcceptEvent × Option (List AcceptEvent)
  | [] => ([], none)
  | .called handler :: rest => ([.called handler], some rest)
  | event :: rest => (event :: (upToHandler rest).1, (upToHandler rest).2)

namespace Listeners

variable (t : Listeners) (blocking : Nat → Bool) (shown : LuaNumber → Bytes) (dump : LuaValue → Option Bytes)

def arrive (server : Nat) : Listeners :=
  { t with
    backlog := Function.update t.backlog server (t.backlog server ++ [t.nextConnection])
    nextConnection := t.nextConnection + 1
    log := t.log ++ [.arrived server t.nextConnection] }

def async (server : Nat) (stack : List LuaValue) : Listeners :=
  match listenerAcceptAsync dump stack with
  | .ok dumped =>
      { t with
        registry := Function.update t.registry server (some dumped)
        log := t.log ++ [.registered server dumped] }
  | .error _ => t

/-- What an event of `accept` does outside the call. -/
def perform (server connection : Nat) (t : Listeners) : AcceptEvent → Listeners
  | .waited _ | .accepted false => t
  | .accepted true => { t with backlog := Function.update t.backlog server (t.backlog server).tail }
  | .started dumped =>
      { t with
        workers := t.workers ++ [⟨connection, dumped⟩]
        log := t.log ++ [.started server ⟨connection, dumped⟩] }
  | .called handler => { t with log := t.log ++ [.called server connection handler] }
  | .sent response => { t with log := t.log ++ [.sent connection response] }
  | .closed => { t with log := t.log ++ [.closed connection] }

def acceptOutside (server : Nat) (answers : AcceptAnswers) : AcceptOutside where
  registered := t.registry server
  blocking := blocking server
  readable := answers.readable
  accepted :=
    match answers.failure, t.backlog server with
    | some code, _ => some code
    | none, [] => some wsaeWouldBlock
    | none, _ :: _ => none
  handler := answers.handler
  onError := answers.onError

/-- A call of `accept`, where it goes on after its wait; on a blocking server with nothing pending it does
not, unless it fails. Its handler can do all that a step can before it returns. -/
def accept (server : Nat) (context : LuaValue) (stack : List LuaValue) (answers : AcceptAnswers) :
    Option Listeners :=
  if blocking server = true ∧ t.backlog server = [] ∧ answers.failure = none then none
  else
    let outside := t.acceptOutside blocking server answers
    let connection := (t.backlog server).headD 0
    let (now, later) := upToHandler ((listenerAccept lua outside shown context stack).run []).2
    let t := now.foldl (perform server connection) t
    some { t with handling := (later.map (⟨server, connection, ·⟩)).toList ++ t.handling }

/-- The innermost handler ends. -/
def handled : Option Listeners :=
  match t.handling with
  | [] => none
  | call :: handling =>
      let t := call.rest.foldl (perform call.server call.connection) { t with handling := handling }
      some { t with log := t.log ++ [.returned call.connection] }

/-- A thread runs to its end, and its connection is closed with its context. -/
def finish (index : Nat) (outside : AsyncOutside) : Option Listeners :=
  match t.workers[index]? with
  | none => none
  | some worker =>
      match listenerAsyncRun lua outside with
      | .ok response =>
          some { t with
            workers := t.workers.eraseIdx index
            log := t.log ++ [.finished worker response] }
      | .error failure => some { t with aborted := some failure }

/-- One step; none where it is not possible, and after the end of the process. -/
def step (t : Listeners) (action : ServeAction) : Option Listeners :=
  if t.aborted.isSome then none
  else match action with
    | .arrive server => some (t.arrive server)
    | .async server stack => some (t.async dump server stack)
    | .accept server context stack answers => t.accept lua blocking shown server context stack answers
    | .handled => t.handled
    | .finish index outside => t.finish lua index outside

end Listeners

end LuaXENetwork
