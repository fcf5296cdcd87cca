import LuaXENetwork.Platform

/-! `AsyncConnection`, a request that is driven by `Poll`, over whatever Winsock answers. -/

namespace LuaXENetwork

/-- What `WSASend` and `WSARecv` are called for; of a receive also what comes of it in that `Poll`. -/
inductive IoCall where
  | send (data : Bytes)
  | recv (result : Except Nat Bytes)
deriving Repr

/-- What the clock and Winsock answer during one `Poll`; an error of a call, or none. -/
structure PollAnswers where
  clock : Nat := 0
  connect : Option Nat := none
  send : Option Nat := none
  sent : Except Nat Nat := .error wsaIoIncomplete
  select : Option Nat := none
  readable : Bool := true
  recv : Option Nat := none
  received : Except Nat Bytes := .error wsaIoIncomplete
deriving Repr

structure AsyncConnection where
  valid : Bool := true
  request : Bytes := []
  response : Bytes := []
  connectionState : Nat := 0
  startTime : Nat := 0
  /-- Kept for the proofs: the calls to Winsock. -/
  calls : List IoCall := []
deriving Repr

def wsaeIsConn : Nat := 10056

namespace AsyncConnection

def reconnect (c : AsyncConnection) : AsyncConnection := { c with connectionState := 0 }

/-- `Start`; `error` is that of `connect`. -/
def start (c : AsyncConnection) (request : Bytes) (error : Option Nat) : AsyncConnection :=
  if !c.valid then c
  else
    let c := { c with request := request }
    if error = some wsaeIsConn then { c with connectionState := 1 } else c

/-- The constructor, and the one `Start` of the caller. -/
def create (valid : Bool) (startTime : Nat) (request : Bytes) (error : Option Nat) : AsyncConnection :=
  start { valid := valid, startTime := startTime } request error

/-- No error of an overlapped call, or only that it goes on. -/
def issued (error : Option Nat) : Bool := error = none || error = some wsaIoPending

/-- `WSAGetOverlappedResult` without waiting: what is not complete counts as zero bytes. -/
def overlapped {α : Type} (zero : α) : Except Nat α → Option α
  | .ok result => some result
  | .error error => if error = wsaIoIncomplete then some zero else none

def send (c : AsyncConnection) (answers : PollAnswers) : Bool × AsyncConnection :=
  if c.request = [] then (false, c)
  else
    let c := { c with calls := c.calls ++ [.send (c.request.take (c.request.length % 2 ^ 32))] }
    if !issued answers.send then (false, c)
    else match overlapped 0 answers.sent with
      | none => (false, c)
      | some bytesWritten => (bytesWritten ≠ 0, c)

def recv (c : AsyncConnection) (answers : PollAnswers) : Bool × AsyncConnection :=
  if answers.select ≠ none ∧ answers.select ≠ some wsaeWouldBlock then (false, c)
  else if !answers.readable then (false, c)
  else if !issued answers.recv then (false, c)
  else
    let c := { c with calls := c.calls ++ [.recv answers.received] }
    match overlapped [] answers.received with
    | none => (false, c)
    | some data =>
        if data = [] then (true, c) else (false, { c with response := c.response ++ data })

/-- The part of `Poll` behind the send. -/
def pollReply (c : AsyncConnection) (answers : PollAnswers) : Bool × AsyncConnection :=
  if sizeT (c.startTime + 30000) < answers.clock then (false, c.reconnect)
  else match c.recv answers with
    | (false, c) => (false, c)
    | (true, c) => (true, { c with connectionState := 3 })

def poll (c : AsyncConnection) (answers : PollAnswers) : Bool × AsyncConnection :=
  if !c.valid then (false, c)
  else if c.connectionState = 0 then (false, c.start c.request answers.connect)
  else if c.connectionState = 1 then
    match c.send answers with
    | (false, c) => (false, c)
    | (true, c) => pollReply { c with connectionState := 2 } answers
  else if c.connectionState = 2 then c.pollReply answers
  else (true, c)

def run (c : AsyncConnection) (polls : List PollAnswers) : AsyncConnection :=
  polls.foldl (fun c answers => (c.poll answers).2) c

/-- How often the request was handed to `WSASend`. -/
def sends (c : AsyncConnection) : Nat :=
  c.calls.countP fun call => match call with
    | .send _ => true
    | .recv _ => false

/-- The bytes of all completed receives, in order. -/
def completed (c : AsyncConnection) : Bytes :=
  c.calls.flatMap fun call => match call with
    | .recv (.ok data) => data
    | _ => []

end AsyncConnection

end LuaXENetwork
