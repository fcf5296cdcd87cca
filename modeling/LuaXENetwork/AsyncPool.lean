import LuaXENetwork.Connection
import LuaXENetwork.Library.Ledger
import LuaXENetwork.Lua
import LuaXENetwork.Socket.Lifecycle

/-! The `CAsyncSocket` objects of a Lua state, and what they share and hold. -/

namespace LuaXENetwork
open Library

/-- An `AsyncConnection` with its blocks of memory and its handle. -/
structure AsyncObject where
  connection : AsyncConnection
  socket : Option Handle
  hint : Nat
  sendbuffer : Nat
  recvbuffer : Nat
  buf : Nat
  sendOverlapped : Nat
  recvOverlapped : Nat
deriving Repr

/-- In the order of the destructor. -/
def AsyncObject.blocks (o : AsyncObject) : List Nat :=
  [o.buf, o.recvbuffer, o.sendbuffer, o.sendOverlapped, o.recvOverlapped, o.hint]

/-- The userdata, each with its pointer, over the statics of `AsyncConnection`. -/
structure AsyncPool where
  slots : List (Option AsyncObject) := []
  activeConnections : Nat := 0
  wsaData : Option Nat := none
  heap : Ledger := {}
  handles : Ledger := {}
  wsa : List WsaCall := []

inductive AsyncCall where
  | create (clock : Nat) (opens found : Bool)
  | start (slot : Nat) (request : LuaValue) (error : Option Nat)
  | poll (slot : Nat) (answers : PollAnswers)
  | response (slot : Nat)
  | collect (slot : Nat)

/-- What a call returns to Lua. -/
inductive AsyncResult where
  | nothing
  | userdata (slot : Nat)
  | boolean (b : Bool)
  | text (s : Bytes)
  | raised
deriving DecidableEq, Repr

namespace AsyncPool

def malloc (p : AsyncPool) : Nat × AsyncPool := (p.heap.next, { p with heap := p.heap.take })

def free (p : AsyncPool) (block : Nat) : AsyncPool := { p with heap := p.heap.give block }

/-- The first connection starts Winsock; what `WSAStartup` answers is not looked at. -/
def startup (p : AsyncPool) : AsyncPool :=
  if p.activeConnections = 0 then
    let p := match p.wsaData with
      | some _ => p
      | none => let (block, p) := p.malloc; { p with wsaData := some block }
    { p with wsa := p.wsa ++ [WsaCall.startup] }
  else p

/-- `AsyncConnection(host_name, port)`. -/
def construct (p : AsyncPool) (clock : Nat) (opens found : Bool) : AsyncObject × AsyncPool :=
  let (hint, p) := p.malloc
  let (sendbuffer, p) := p.malloc
  let (recvbuffer, p) := p.malloc
  let (buf, p) := p.malloc
  let (sendOverlapped, p) := p.malloc
  let (recvOverlapped, p) := p.malloc
  let p := p.startup
  let p := { p with activeConnections := p.activeConnections + 1 }
  let object (socket : Option Handle) (valid : Bool) : AsyncObject :=
    ⟨{ valid := valid, startTime := clock }, socket, hint, sendbuffer, recvbuffer, buf, sendOverlapped,
      recvOverlapped⟩
  if opens then (object (some p.handles.next) found, { p with handles := p.handles.take })
  else (object none false, p)

/-- The last connection ends Winsock. -/
def cleanup (p : AsyncPool) : AsyncPool :=
  if p.activeConnections = 0 then
    let p := { p with wsa := p.wsa ++ [WsaCall.cleanup] }
    match p.wsaData with
    | some block => { p.free block with wsaData := none }
    | none => p
  else p

/-- `closesocket`, if there is a socket. -/
def close (p : AsyncPool) : Option Handle → AsyncPool
  | some s => { p with handles := p.handles.give s }
  | none => p

/-- `~AsyncConnection`. -/
def destruct (p : AsyncPool) (o : AsyncObject) : AsyncPool :=
  let p := p.close o.socket
  let p := { p with activeConnections := p.activeConnections - 1 }
  let p := p.cleanup
  o.blocks.foldl free p

def object? (p : AsyncPool) (slot : Nat) : Option AsyncObject := p.slots[slot]?.join

def setConnection (p : AsyncPool) (slot : Nat) (o : AsyncObject) (c : AsyncConnection) : AsyncPool :=
  { p with slots := p.slots.set slot (some { o with connection := c }) }

/-- `Async_Create` and the methods; a method finds a null pointer after `__gc`. -/
def call (lua : LuaLibrary) (p : AsyncPool) : AsyncCall → AsyncResult × AsyncPool
  | .create clock opens found =>
      let (o, p) := p.construct clock opens found
      (.userdata p.slots.length, { p with slots := p.slots ++ [some o] })
  | .start slot request error =>
      match p.object? slot with
      | none => (.nothing, p)
      | some o =>
          match request.toString? lua with
          | none => (.raised, p)
          | some request => (.nothing, p.setConnection slot o (o.connection.start request error))
  | .poll slot answers =>
      match p.object? slot with
      | none => (.nothing, p)
      | some o =>
          let (ready, c) := o.connection.poll answers
          (.boolean ready, p.setConnection slot o c)
  | .response slot =>
      match p.object? slot with
      | none => (.nothing, p)
      | some o => (.text o.connection.response, p)
  | .collect slot =>
      match p.object? slot with
      | none => (.nothing, p)
      | some o => (.nothing, { p.destruct o with slots := p.slots.set slot none })

def run (lua : LuaLibrary) (p : AsyncPool) (calls : List AsyncCall) : AsyncPool :=
  calls.foldl (fun p c => (p.call lua c).2) p

end AsyncPool

end LuaXENetwork
