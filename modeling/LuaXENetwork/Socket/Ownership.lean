import LuaXENetwork.Library.Ledger
import LuaXENetwork.Socket.Lifecycle

/-! The socket and the two events of a `CBaseSock`: where they are made, and where they are closed. -/

namespace LuaXENetwork
open Library

/-- The handles in the members, over those that Winsock has given out. A null event is none, as is
`INVALID_SOCKET`; `WSA_INVALID_EVENT` is the null event. -/
structure SockHandles where
  actualSocket : Option Handle := none
  readEvent : Option Handle := none
  writeEvent : Option Handle := none
  sockets : Ledger := {}
  events : Ledger := {}
deriving DecidableEq, Repr

/-- Which calls of `Setup` succeed. -/
structure SetupAnswers where
  noDelay : Bool
  createsRead : Bool
  createsWrite : Bool
deriving DecidableEq, Repr

/-- Which calls of `Connect` succeed. -/
structure ConnectAnswers where
  opens : Bool
  connects : Bool
  updates : Bool
  setup : SetupAnswers
deriving DecidableEq, Repr

inductive SockAction where
  | connect (answers : ConnectAnswers)
  | disconnect (closeUnderlyingConnection : Bool)
  /-- A `SendPartial` that ends with `WSAECONNRESET`. -/
  | reset
deriving DecidableEq, Repr

namespace SockHandles

/-- `WSACreateEvent`. -/
def createEvent (t : SockHandles) (creates : Bool) : Option Handle × SockHandles :=
  if creates then (some t.events.next, { t with events := t.events.take }) else (none, t)

/-- `WSAResetEvent`, which works on an event that is not closed. -/
def resetEvent (t : SockHandles) : Option Handle → Bool
  | some event => event ∈ t.events.held
  | none => false

/-- `WSACloseEvent`. -/
def closeEvent (t : SockHandles) : Option Handle → Bool × SockHandles
  | some event => (event ∈ t.events.held, { t with events := t.events.give event })
  | none => (false, t)

def closeAndInvalidateSocket (t : SockHandles) : SockHandles :=
  match t.actualSocket with
  | some s => { t with actualSocket := none, sockets := t.sockets.give s }
  | none => t

def makeReadEvent (t : SockHandles) (creates : Bool) : SockHandles :=
  if t.readEvent.isNone then
    let (event, t) := t.createEvent creates
    { t with readEvent := event }
  else t

def makeWriteEvent (t : SockHandles) (creates : Bool) : SockHandles :=
  if t.writeEvent.isNone then
    let (event, t) := t.createEvent creates
    { t with writeEvent := event }
  else t

/-- Whether `Setup` succeeds; what it has made before it fails stays. -/
def setup (t : SockHandles) (answers : SetupAnswers) : Bool × SockHandles :=
  if !answers.noDelay then (false, t)
  else
    let t := t.makeReadEvent answers.createsRead
    if t.readEvent.isNone then (false, t)
    else
      let t := t.makeWriteEvent answers.createsWrite
      if t.writeEvent.isNone then (false, t)
      else (t.resetEvent t.readEvent && t.resetEvent t.writeEvent, t)

def connect (t : SockHandles) (answers : ConnectAnswers) : Bool × SockHandles :=
  if !answers.opens then (false, { t with actualSocket := none })
  else
    let t := { t with actualSocket := some t.sockets.next, sockets := t.sockets.take }
    if !answers.connects then (false, t.closeAndInvalidateSocket)
    else if !answers.updates then (false, t.closeAndInvalidateSocket)
    else t.setup answers.setup

/-- Whether `Disconnect` returns `S_OK`. -/
def disconnect (t : SockHandles) (closeUnderlyingConnection : Bool) : Bool × SockHandles :=
  if t.actualSocket.isNone || !closeUnderlyingConnection then (true, t)
  else match t.closeEvent t.readEvent with
    | (false, t) => (false, t)
    | (true, t) => match t.closeEvent t.writeEvent with
      | (false, t) => (false, t)
      | (true, t) => (true, t.closeAndInvalidateSocket)

def step (t : SockHandles) : SockAction → SockHandles
  | .connect answers => (t.connect answers).2
  | .disconnect close => (t.disconnect close).2
  | .reset => (t.disconnect true).2

/-- `~CBaseSock`, but for `WSACleanup`. -/
def destruct (t : SockHandles) : SockHandles := (t.disconnect true).2

end SockHandles

end LuaXENetwork
