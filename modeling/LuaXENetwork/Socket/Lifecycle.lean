import LuaXENetwork.Library.Discipline
import Mathlib.Logic.Function.Basic

/-! Construction, copying and destruction of `Socket` objects. -/

namespace LuaXENetwork

/-- An OS handle: a `SOCKET`, told from the ones the system gave out before under the same number.
`INVALID_SOCKET` is none. -/
abbrev Handle := Nat

structure SocketObject where
  name : Nat
  s : Option Handle
  refCounter : Nat
  closed : Bool := false
deriving DecidableEq, Repr

inductive WsaCall where
  | startup
  | cleanup
deriving DecidableEq, Repr

/-- The objects, the counters they point to, and the calls they have made. -/
structure Sockets where
  live : List SocketObject := []
  refCount : Nat → Nat := fun _ => 0
  nofSockets : Nat := 0
  nextName : Nat := 0
  nextCounter : Nat := 0
  nextHandle : Handle := 0
  /-- What `socket()` returned to a constructor. -/
  opened : List Handle := []
  /-- The arguments of `closesocket`. -/
  closes : List (Option Handle) := []
  wsa : List WsaCall := []

namespace Sockets

def object? (t : Sockets) (name : Nat) : Option SocketObject := t.live.find? (·.name = name)

/-- `Start`; none if it throws because `WSAStartup` fails. -/
def start (t : Sockets) (startup : Bool) : Option Sockets :=
  if t.nofSockets = 0 then
    if startup then some { t with wsa := t.wsa ++ [.startup], nofSockets := t.nofSockets + 1 } else none
  else some { t with nofSockets := t.nofSockets + 1 }

/-- A `socket()` call that succeeds. -/
def openSocket (t : Sockets) : Sockets :=
  { t with nextHandle := t.nextHandle + 1, opened := t.opened ++ [t.nextHandle] }

def closeSocket (t : Sockets) (s : Option Handle) : Sockets := { t with closes := t.closes ++ [s] }

/-- `refCounter_ = new int(1)`. -/
def newCounter (t : Sockets) : Sockets :=
  { t with refCount := Function.update t.refCount t.nextCounter 1, nextCounter := t.nextCounter + 1 }

/-- The constructor returns: the object is alive. -/
def add (t : Sockets) (object : SocketObject) : Sockets :=
  { t with live := t.live ++ [object], nextName := t.nextName + 1 }

/-- `Close()`, but for the flag. -/
def closeHandle (t : Sockets) (object : SocketObject) : Sockets :=
  if object.closed then t else t.closeSocket object.s

/-- `~Socket`. -/
def destruct (t : Sockets) (object : SocketObject) : Sockets :=
  let count := t.refCount object.refCounter - 1
  let t := { t with refCount := Function.update t.refCount object.refCounter count }
  let t := if count = 0 then t.closeHandle object else t
  let t := { t with live := t.live.erase object, nofSockets := t.nofSockets - 1 }
  if t.nofSockets = 0 then { t with wsa := t.wsa ++ [.cleanup] } else t

/-- `Socket()`. An exception leaves no object. -/
def construct (t : Sockets) (startup opens : Bool) : Sockets :=
  match t.start startup with
  | none => t
  | some t =>
      if opens then t.openSocket.newCounter.add ⟨t.nextName, some t.nextHandle, t.nextCounter, false⟩
      else t

/-- `Socket(SOCKET)`, also of a handle no `Socket` has had before. -/
def constructFrom (t : Sockets) (startup : Bool) (s : Option Handle) : Sockets :=
  match t.start startup with
  | none => t
  | some t =>
      { t.newCounter.add ⟨t.nextName, s, t.nextCounter, false⟩ with
        nextHandle := max t.nextHandle (s.elim 0 (· + 1)) }

/-- `SocketServer(port, type, bindAddress)` behind its implicit `Socket()`: a second `socket()`,
and the calls up to `getsockname`, all of which must succeed. -/
def constructServer (t : Sockets) (startup opensBase opens works : Bool) : Sockets :=
  match t.start startup with
  | none => t
  | some t =>
      if !opensBase then t
      else
        let base : SocketObject := ⟨t.nextName, some t.nextHandle, t.nextCounter, false⟩
        let t := t.openSocket.newCounter
        if !opens then t.destruct { base with s := none }
        else
          let server := { base with s := some t.nextHandle }
          let t := t.openSocket
          if works then t.add server else (t.closeSocket server.s).destruct server

/-- `Socket(const Socket&)`: the flag is not copied. -/
def copy (t : Sockets) (o : SocketObject) : Sockets :=
  { t with
    refCount := Function.update t.refCount o.refCounter (t.refCount o.refCounter + 1)
    nofSockets := t.nofSockets + 1 }.add ⟨t.nextName, o.s, o.refCounter, false⟩

/-- Puts an object in the place of the live one of its name. -/
def replace (t : Sockets) (object : SocketObject) : Sockets :=
  { t with live := t.live.map fun old => if old.name = object.name then object else old }

/-- `operator=`: neither the counter nor the handle of before is released. -/
def assign (t : Sockets) (target o : SocketObject) : Sockets :=
  { t with
    refCount := Function.update t.refCount o.refCounter (t.refCount o.refCounter + 1)
    nofSockets := t.nofSockets + 1 }.replace { target with refCounter := o.refCounter, s := o.s }

def close (t : Sockets) (object : SocketObject) : Sockets :=
  (t.closeHandle object).replace { object with closed := true }

end Sockets

/-- What a program does with its objects; the flags say which system calls succeed. -/
inductive SocketAction where
  | construct (startup opens : Bool)
  | constructFrom (startup : Bool) (s : Option Handle)
  | constructServer (startup opensBase opens works : Bool)
  | copy (source : Nat)
  | assign (target source : Nat)
  | close (object : Nat)
  | destroy (object : Nat)
deriving DecidableEq, Repr

/-- One action; none where it names an object that is not alive. -/
def Sockets.step (t : Sockets) : SocketAction → Option Sockets
  | .construct startup opens => some (t.construct startup opens)
  | .constructFrom startup s => some (t.constructFrom startup s)
  | .constructServer startup opensBase opens works => some (t.constructServer startup opensBase opens works)
  | .copy source => (t.object? source).map t.copy
  | .assign target source => do
      let target ← t.object? target
      let source ← t.object? source
      return t.assign target source
  | .close object => (t.object? object).map t.close
  | .destroy object => (t.object? object).map t.destruct

end LuaXENetwork
