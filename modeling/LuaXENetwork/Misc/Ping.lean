import LuaXENetwork.Library.Ledger
import LuaXENetwork.Lua
import LuaXENetwork.Socket.Lifecycle
import LuaXENetwork.Socket.Winsock

/-! The class `CPing`, and the Lua function `ping` over it. -/

namespace LuaXENetwork
open Library

namespace CPing

/-- The words `in_cksum` adds up, low byte first; an odd byte is mopped up as a word of its own. -/
def shorts : Bytes → List Nat
  | low :: high :: rest => (low.toNat + 256 * high.toNat) :: shorts rest
  | [low] => [low.toNat]
  | [] => []

/-- The accumulator is an `int`. -/
def inCksum (addr : Bytes) : UInt16 :=
  let sum := (shorts addr).foldl (fun (sum : Int) (w : Nat) => toInt32 (sum + w)) 0
  let sum := toInt32 (sum / 2 ^ 16 + sum % 2 ^ 16)
  let sum := toInt32 (sum + sum / 2 ^ 16)
  UInt16.ofInt (-sum - 1)

def shortBytes (n : UInt16) : Bytes := [n.toUInt8, (n >>> 8).toUInt8]

def longBytes (n : UInt32) : Bytes :=
  [n.toUInt8, (n >>> 8).toUInt8, (n >>> 16).toUInt8, (n >>> 24).toUInt8]

def readLong : Bytes → UInt32
  | b0 :: b1 :: b2 :: b3 :: _ =>
      UInt32.ofNat (b0.toNat + 2 ^ 8 * b1.toNat + 2 ^ 16 * b2.toNat + 2 ^ 24 * b3.toNat)
  | _ => 0

/-- `ECHOREQUEST`. -/
structure EchoRequest where
  type : UInt8
  code : UInt8
  checksum : UInt16
  id : UInt16
  seq : UInt16
  data : UInt8
  dwTime : UInt32
  cData : Bytes
deriving DecidableEq, Repr

/-- The structures are packed. -/
def EchoRequest.bytes (r : EchoRequest) : Bytes :=
  [r.type, r.code] ++ shortBytes r.checksum ++ shortBytes r.id ++ shortBytes r.seq ++ [r.data] ++
    longBytes r.dwTime ++ r.cData

/-- `sizeof(IPHDR)`. -/
def ipHdrSize : Nat := 20

/-- `sizeof(ECHOREPLY)`. -/
def echoReplySize : Nat := 321

inductive Selected where
  | failed
  | timeout
  | ready
deriving DecidableEq, Repr

/-- What the outside does in one turn of the loop: `GetTickCount` before and after, `select`, the bytes
`recvfrom` brings (none if it fails), and what the stack held in their place. -/
structure Turn where
  tick : UInt32
  select : Selected
  received : Bytes
  memory : Bytes
  now : UInt32
deriving DecidableEq, Repr

structure Outside where
  startup : Bool
  opens : Bool
  host : Option UInt32
  turns : Nat → Turn
  closes : Bool

end CPing

open CPing

/-- The statics of `SendEchoRequest`, and what the calls have had from Winsock. -/
structure CPing where
  nId : UInt32 := 1
  nSeq : UInt32 := 1
  handles : Ledger := {}
  wsa : List WsaCall := []
  /-- The arguments of `sendto`. -/
  sent : List (UInt32 × Bytes) := []

namespace CPing

def request (p : CPing) (tick : UInt32) : EchoRequest where
  type := 8
  code := 0
  checksum := 0
  id := p.nId.toUInt16
  seq := p.nSeq.toUInt16
  data := 0
  dwTime := tick
  cData := (List.range 32).map fun n => 32 + UInt8.ofNat n

/-- What `sendto` answers makes no difference. -/
def sendEchoRequest (p : CPing) (destination tick : UInt32) : CPing :=
  let echoReq := p.request tick
  let echoReq := { echoReq with checksum := inCksum echoReq.bytes }
  { p with nId := p.nId + 1, nSeq := p.nSeq + 1, sent := p.sent ++ [(destination, echoReq.bytes)] }

/-- The buffer after `recvfrom`. -/
def echoReply (turn : Turn) : Bytes := overwrite turn.memory 0 (turn.received.take echoReplySize)

/-- `dwTime` of the echo request in the reply. -/
def recvEchoReply (turn : Turn) : UInt32 := readLong ((echoReply turn).drop (ipHdrSize + 9))

/-- The loop, on the turns that are left. -/
def loop (p : CPing) (destination : UInt32) (result : Bool × UInt32) : List Turn → (Bool × UInt32) × CPing
  | [] => (result, p)
  | turn :: turns =>
      let p := p.sendEchoRequest destination turn.tick
      match turn.select with
      | .failed => (result, p)
      | .timeout => p.loop destination result turns
      | .ready => p.loop destination (true, turn.now - recvEchoReply turn) turns

def ping (p : CPing) (nRetries : UInt32) (outside : Outside) : (Bool × UInt32) × CPing :=
  if !outside.startup then ((false, 0), p)
  else
    let p := { p with wsa := p.wsa ++ [WsaCall.startup] }
    if !outside.opens then ((false, 0), p)
    else
      let rawSocket := p.handles.next
      let p := { p with handles := p.handles.take }
      match outside.host with
      | none => ((false, 0), p)
      | some destination =>
          let (result, p) := p.loop destination (false, 0) ((List.range nRetries.toNat).map outside.turns)
          if outside.closes then (result, { p with handles := p.handles.give rawSocket })
          else ((false, 0), p)

/-- `luaL_optinteger(L, 2, 1)`; none if it raises. -/
def optRetries (lua : LuaLibrary) (args : List LuaValue) : Option Int :=
  if (argument args 2).isNil then some 1
  else if (argument args 2).isNumber lua then some ((argument args 2).toInteger lua)
  else none

/-- `ping(host, retries)`; none if an argument raises. -/
def luaPing (lua : LuaLibrary) (p : CPing) (args : List LuaValue) (outside : Outside) :
    Option (List LuaValue) × CPing :=
  match (argument args 1).toString? lua, optRetries lua args with
  | some _, some retries =>
      let ((success, ping), p) := p.ping (UInt32.ofInt retries) outside
      (some (if success then [.number (.finite ping.toNat)] else []), p)
  | _, _ => (none, p)

structure Call where
  args : List LuaValue
  outside : Outside

def run (lua : LuaLibrary) (p : CPing) (calls : List Call) : CPing :=
  calls.foldl (fun p call => (p.luaPing lua call.args call.outside).2) p

end CPing

end LuaXENetwork
