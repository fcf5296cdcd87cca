import LuaXENetwork.Library.OnesComplement
import LuaXENetwork.Misc.Ping

/-! What `ping` sends, what it makes of the replies, and what it leaves behind. -/

namespace LuaXENetwork.CPing
open Library

/-! ## The checksum -/

theorem shorts_sum_le (s : Bytes) : 2 * (shorts s).sum ≤ 65535 * (s.length + 1) := by
  induction s using shorts.induct with
  | case1 low high rest ih =>
      have := low.toNat_lt
      have := high.toNat_lt
      rw [shorts, List.sum_cons, List.length_cons, List.length_cons]
      omega
  | case2 low =>
      have := low.toNat_lt
      rw [shorts, List.sum_singleton, List.length_singleton]
      omega
  | case3 => decide

theorem toInt32_small {n : Int} (positive : 0 ≤ n) (small : n < 2 ^ 31) : toInt32 n = n := by
  rw [toInt32]
  omega

theorem foldl_toInt32 (words : List Nat) (start : Nat) (small : start + words.sum < 2 ^ 31) :
    words.foldl (fun (sum : Int) (w : Nat) => toInt32 (sum + w)) start = (start + words.sum : Nat) := by
  induction words generalizing start with
  | nil => rfl
  | cons w words ih =>
      rw [List.sum_cons] at small
      rw [List.foldl_cons, toInt32_small (by omega) (by omega), ← Int.natCast_add, ih (start + w) (by omega),
        List.sum_cons, Nat.add_assoc]

/-- Up to 65536 bytes the accumulator does not overflow. -/
theorem toNat_inCksum {addr : Bytes} (short : addr.length ≤ 65536) :
    (inCksum addr).toNat = 2 ^ 16 - 1 - fold 16 (fold 16 (shorts addr).sum) := by
  have most := shorts_sum_le addr
  have total := foldl_toInt32 (shorts addr) 0 (by omega)
  rw [Nat.zero_add, Int.natCast_zero] at total
  unfold inCksum
  rw [total]
  generalize (shorts addr).sum = n at most
  have once : toInt32 ((n : Int) / 2 ^ 16 + (n : Int) % 2 ^ 16) = (fold 16 n : Nat) := by
    rw [toInt32_small (by omega) (by omega), fold]
    omega
  have below : fold 16 n < 2 * 2 ^ 16 - 1 := fold_lt (by omega)
  simp only [once]
  generalize fold 16 n = m at below
  rw [toInt32_small (by omega) (by omega), UInt16.ofInt, UInt16.toNat_ofNat', fold]
  omega

/-- The test of a receiver: the words of the message, the checksum among them, add up to ones. -/
def Verifies (message : Bytes) : Prop := fold 16 (fold 16 (shorts message).sum) = 2 ^ 16 - 1

theorem shorts_shortBytes (n : UInt16) (rest : Bytes) : shorts (shortBytes n ++ rest) = n.toNat :: shorts rest := by
  have low : n.toUInt8.toNat = n.toNat % 256 := UInt16.toNat_toUInt8 n
  have high : (n >>> 8).toUInt8.toNat = n.toNat / 256 % 256 := by
    rw [UInt16.toNat_toUInt8, UInt16.toNat_shiftRight, Nat.shiftRight_eq_div_pow]
    rfl
  have small := n.toNat_lt
  rw [shortBytes, List.cons_append, List.cons_append, List.nil_append, shorts, low, high]
  congr 1
  omega

theorem sum_bytes (r : EchoRequest) :
    (shorts r.bytes).sum = r.checksum.toNat + (shorts { r with checksum := 0 }.bytes).sum := by
  have split (r : EchoRequest) : r.bytes = r.type :: r.code :: (shortBytes r.checksum ++
      (shortBytes r.id ++ shortBytes r.seq ++ [r.data] ++ longBytes r.dwTime ++ r.cData)) := by
    simp only [EchoRequest.bytes, List.append_assoc, List.cons_append, List.nil_append]
  rw [split r, split { r with checksum := 0 }, shorts, shorts, shorts_shortBytes, shorts_shortBytes]
  simp only [List.sum_cons, UInt16.toNat_zero]
  omega

theorem length_bytes (r : EchoRequest) : r.bytes.length = 13 + r.cData.length := by
  simp only [EchoRequest.bytes, shortBytes, longBytes, List.length_append, List.length_cons, List.length_nil]

theorem checksum_verifies {r : EchoRequest} (short : r.cData.length < 2 ^ 15) (unset : r.checksum = 0) :
    Verifies { r with checksum := inCksum r.bytes }.bytes := by
  have within : r.bytes.length ≤ 65536 := by
    rw [length_bytes]
    omega
  have most := shorts_sum_le r.bytes
  have bound : (shorts r.bytes).sum < 2 ^ 16 * 2 ^ 16 := by omega
  have folded := fold_fold_lt bound
  have completed := complement_completes bound
  have sum := sum_bytes { r with checksum := inCksum r.bytes }
  have blank : { r with checksum := 0 } = r := by rw [← unset]
  rw [blank, toNat_inCksum within] at sum
  rw [Verifies, sum, Nat.add_comm, fold_fold_eq_iff]
  · exact completed
  · by_contra none
    have nothing : (shorts r.bytes).sum = 0 := by omega
    rw [nothing] at none
    exact none (by decide)
  · have least : (shorts r.bytes).sum ≤ 65535 * 32776 := by omega
    omega

/-! ## The packets of all calls -/

/-- The packet with a number: an echo request whose checksum holds. -/
def Numbered (n : Nat) (message : Bytes) : Prop :=
  Verifies message ∧ ∃ checksum tick, message = EchoRequest.bytes
    ⟨8, 0, checksum, UInt16.ofNat n, UInt16.ofNat n, 0, tick, (List.range 32).map fun n => 32 + UInt8.ofNat n⟩

/-- The statics count the packets of all calls together. -/
structure Counted (p : CPing) : Prop where
  id : p.nId = UInt32.ofNat (p.sent.length + 1)
  seq : p.nSeq = UInt32.ofNat (p.sent.length + 1)
  numbered : ∀ n destination message, p.sent[n]? = some (destination, message) → Numbered (n + 1) message

variable {p : CPing}

theorem sendEchoRequest_counted (counted : p.Counted) (destination tick : UInt32) :
    (p.sendEchoRequest destination tick).Counted := by
  have next : (p.sendEchoRequest destination tick).sent.length = p.sent.length + 1 := List.length_append
  constructor
  · rw [next, UInt32.ofNat_add, ← counted.id]
    rfl
  · rw [next, UInt32.ofNat_add, ← counted.seq]
    rfl
  · intro n d message here
    rcases Nat.lt_trichotomy n p.sent.length with before | last | after
    · rw [sendEchoRequest, List.getElem?_append_left before] at here
      exact counted.numbered n d message here
    · rw [sendEchoRequest, last, List.getElem?_append_right (Nat.le_refl _), Nat.sub_self] at here
      obtain ⟨-, rfl⟩ := Prod.mk.inj (Option.some.inj here)
      constructor
      · exact checksum_verifies (by simp [request]) rfl
      · refine ⟨inCksum (p.request tick).bytes, tick, ?_⟩
        rw [request, counted.id, counted.seq, last, UInt32.toUInt16_ofNat']
    · rw [List.getElem?_eq_none (by omega)] at here
      cases here

theorem loop_counted (counted : p.Counted) (destination : UInt32) (result : Bool × UInt32) (turns : List Turn) :
    (p.loop destination result turns).2.Counted := by
  induction turns generalizing p result with
  | nil => exact counted
  | cons turn turns ih =>
      have sent := sendEchoRequest_counted counted destination turn.tick
      rw [loop]
      cases turn.select with
      | failed => exact sent
      | timeout => exact ih sent result
      | ready => exact ih sent _

/-- The loop takes and gives back nothing. -/
theorem loop_keeps (destination : UInt32) (result : Bool × UInt32) (turns : List Turn) :
    (p.loop destination result turns).2.handles = p.handles ∧ (p.loop destination result turns).2.wsa = p.wsa := by
  induction turns generalizing p result with
  | nil => exact ⟨rfl, rfl⟩
  | cons turn turns ih =>
      have sent : (p.sendEchoRequest destination turn.tick).handles = p.handles ∧
          (p.sendEchoRequest destination turn.tick).wsa = p.wsa := ⟨rfl, rfl⟩
      rw [loop]
      cases turn.select with
      | failed => exact sent
      | timeout => exact ⟨(ih _).1.trans sent.1, (ih _).2.trans sent.2⟩
      | ready => exact ⟨(ih _).1.trans sent.1, (ih _).2.trans sent.2⟩

/-! ## What the calls leave behind -/

variable (lua : LuaLibrary)

/-- The arguments are in order and Winsock starts. -/
def Call.starts (call : Call) : Bool :=
  ((argument call.args 1).toString? lua).isSome && (optRetries lua call.args).isSome && call.outside.startup

/-- The raw socket is opened and stays open. -/
def Call.leaves (call : Call) : Bool :=
  call.starts lua && call.outside.opens && (call.outside.host.isNone || !call.outside.closes)

structure Holds (p : CPing) (started left : Nat) : Prop where
  counted : p.Counted
  wsa : p.wsa = List.replicate started .startup
  handles : ∃ owned, p.handles.Balanced owned ∧ owned.length = left

theorem ping_holds {started left : Nat} (holds : p.Holds started left) (nRetries : UInt32) (outside : Outside) :
    (p.ping nRetries outside).2.Holds (started + outside.startup.toNat) (left +
      (outside.startup && outside.opens && (outside.host.isNone || !outside.closes)).toNat) := by
  obtain ⟨counted, wsa, owned, balanced, number⟩ := holds
  rw [ping]
  cases outside.startup with
  | false => exact ⟨counted, wsa, owned, balanced, number⟩
  | true =>
      have started_up : p.wsa ++ [WsaCall.startup] = List.replicate (started + 1) .startup := by
        rw [wsa, List.replicate_succ']
      cases outside.opens with
      | false => exact ⟨⟨counted.id, counted.seq, counted.numbered⟩, started_up, owned, balanced, number⟩
      | true =>
          have taken := balanced.take
          have one_more : (p.handles.next :: owned).length = left + 1 := congrArg (· + 1) number
          cases outside.host with
          | none =>
              exact ⟨⟨counted.id, counted.seq, counted.numbered⟩, started_up, _, taken, one_more⟩
          | some destination =>
              have opened : Counted { p with wsa := p.wsa ++ [.startup], handles := p.handles.take } :=
                ⟨counted.id, counted.seq, counted.numbered⟩
              generalize turns_eq : (List.range nRetries.toNat).map outside.turns = turns
              have sent := loop_counted opened destination (false, 0) turns
              obtain ⟨handles, wsa'⟩ := loop_keeps (p := { p with
                wsa := p.wsa ++ [.startup], handles := p.handles.take }) destination (false, 0) turns
              dsimp only [Bool.not_true, Bool.false_eq_true, if_false] at sent handles wsa' ⊢
              generalize CPing.loop _ destination (false, 0) turns = ends at sent handles wsa' ⊢
              obtain ⟨result, q⟩ := ends
              cases outside.closes with
              | false => exact ⟨sent, wsa'.trans started_up, _, handles ▸ taken, one_more⟩
              | true =>
                  have given : (q.handles.give p.handles.next).Balanced owned := by
                    rw [handles]
                    exact taken.give
                  exact ⟨⟨sent.id, sent.seq, sent.numbered⟩, wsa'.trans started_up, owned, given, number⟩

theorem luaPing_holds {started left : Nat} (holds : p.Holds started left) (call : Call) :
    (p.luaPing lua call.args call.outside).2.Holds (started + (call.starts lua).toNat)
      (left + (call.leaves lua).toNat) := by
  rw [luaPing, Call.leaves, Call.starts]
  cases (argument call.args 1).toString? lua with
  | none => exact holds
  | some host =>
      cases optRetries lua call.args with
      | none => exact holds
      | some retries => exact ping_holds holds (UInt32.ofInt retries) call.outside

theorem run_holds {started left : Nat} (holds : p.Holds started left) (calls : List Call) :
    (p.run lua calls).Holds (started + calls.countP (·.starts lua)) (left + calls.countP (·.leaves lua)) := by
  induction calls generalizing p started left with
  | nil => exact holds
  | cons call calls ih =>
      have later := ih (luaPing_holds lua holds call)
      have count (f : Call → Bool) : (call :: calls).countP f = (f call).toNat + calls.countP f := by
        rw [List.countP_cons, Nat.add_comm]
        cases f call with
        | false => rfl
        | true => rfl
      rw [count, count, ← Nat.add_assoc, ← Nat.add_assoc]
      exact later

/-- Over any calls of `ping`: the packets are echo requests numbered through from one call to the next,
each with a checksum that holds; a raw socket stays open for each call whose host is not found or whose
`closesocket` fails, and for no other; and no `WSAStartup` is ever undone. -/
theorem run_packets (calls : List Call) :
    let p := CPing.run lua {} calls
    (∀ n destination message, p.sent[n]? = some (destination, message) → Numbered (n + 1) message) ∧
      p.handles.strays = 0 ∧ p.handles.held.Nodup ∧ p.handles.held.length = calls.countP (·.leaves lua) ∧
      p.wsa = List.replicate (calls.countP (·.starts lua)) .startup := by
  intro p
  have start : Holds {} 0 0 := ⟨⟨rfl, rfl, nofun⟩, rfl, [], Ledger.balanced_empty, rfl⟩
  obtain ⟨counted, wsa, owned, balanced, number⟩ : p.Holds _ _ := run_holds lua start calls
  rw [Nat.zero_add] at wsa number
  exact ⟨counted.numbered, balanced.strays, balanced.nodup, balanced.perm.length_eq.trans number, wsa⟩

/-! ## What a call reports -/

theorem readLong_longBytes (n : UInt32) (rest : Bytes) : readLong (longBytes n ++ rest) = n := by
  have small := n.toNat_lt
  simp only [longBytes, List.cons_append, List.nil_append, readLong, UInt32.toNat_toUInt8,
    UInt32.toNat_shiftRight, Nat.shiftRight_eq_div_pow, UInt32.reduceToNat, Nat.reduceMod]
  apply UInt32.toNat_inj.mp
  rw [UInt32.toNat_ofNat']
  omega

/-- A datagram that sends back what a request holds, behind an IP header without options. -/
def Echoes (received : Bytes) (request : EchoRequest) : Prop :=
  ∃ header type code checksum, header.length = ipHdrSize ∧ request.cData.length = 32 ∧
    received = header ++ EchoRequest.bytes { request with type := type, code := code, checksum := checksum }

theorem recvEchoReply_eq {turn : Turn} {request : EchoRequest} (echoes : Echoes turn.received request) :
    recvEchoReply turn = request.dwTime := by
  obtain ⟨header, type, code, checksum, sized, full, received⟩ := echoes
  have fits : turn.received.length ≤ echoReplySize := by
    rw [received, List.length_append, length_bytes, sized]
    change ipHdrSize + (13 + request.cData.length) ≤ echoReplySize
    rw [full]
    decide
  have upTo : turn.received = (header ++ ([type, code] ++ shortBytes checksum ++ shortBytes request.id ++
      shortBytes request.seq ++ [request.data])) ++ (longBytes request.dwTime ++ request.cData) := by
    rw [received]
    simp only [EchoRequest.bytes, List.append_assoc]
  rw [recvEchoReply, echoReply, overwrite, List.take_zero, List.nil_append, List.take_of_length_le fits, upTo,
    List.append_assoc, List.drop_left', List.append_assoc, readLong_longBytes]
  rw [List.length_append, sized]
  rfl

/-- The turns whose replies are read: those in which `select` finds one, before it fails. -/
def answered {α : Type} (turn : α → Turn) (order : List α) : List α :=
  (order.takeWhile fun n => (turn n).select ≠ .failed).filter fun n => (turn n).select = .ready

theorem loop_result {α : Type} (turn : α → Turn) (order : List α) (destination : UInt32) (result : Bool × UInt32) :
    (p.loop destination result (order.map turn)).1 =
      ((answered turn order).getLast?.map fun n => (true, (turn n).now - recvEchoReply (turn n))).getD result := by
  induction order generalizing p result with
  | nil => rfl
  | cons n order ih =>
      rw [List.map_cons, loop]
      cases select : (turn n).select with
      | failed => simp [answered, select]
      | timeout =>
          have skipped : answered turn (n :: order) = answered turn order := by simp [answered, select]
          rw [skipped]
          exact ih result
      | ready =>
          have read : answered turn (n :: order) = n :: answered turn order := by simp [answered, select]
          rw [read, List.getLast?_cons]
          dsimp only
          rw [ih]
          cases (answered turn order).getLast? with
          | none => rfl
          | some last => rfl

theorem mem_answered {α : Type} {turn : α → Turn} {order : List α} {n : α} (member : n ∈ answered turn order) :
    n ∈ order ∧ (turn n).select = .ready := by
  have ⟨before, ready⟩ := List.mem_filter.mp member
  exact ⟨(List.takeWhile_sublist _).subset before, of_decide_eq_true ready⟩

/-- The call gets as far as the loop, and its result counts. -/
def Outside.Reports (outside : Outside) : Prop :=
  outside.startup ∧ outside.opens ∧ outside.host.isSome ∧ outside.closes

instance (outside : Outside) : Decidable outside.Reports :=
  inferInstanceAs (Decidable (_ ∧ _ ∧ _ ∧ _))

theorem ping_result (nRetries : UInt32) (outside : Outside) :
    (p.ping nRetries outside).1 =
      if outside.Reports then ((answered outside.turns (List.range nRetries.toNat)).getLast?.map fun n =>
        (true, (outside.turns n).now - recvEchoReply (outside.turns n))).getD (false, 0)
      else (false, 0) := by
  obtain ⟨startup, opens, host, turns, closes⟩ := outside
  rw [ping]
  cases startup with
  | false => rfl
  | true =>
      cases opens with
      | false => rfl
      | true =>
          cases host with
          | none => rfl
          | some destination =>
              cases closes with
              | false => rfl
              | true => exact loop_result turns (List.range nRetries.toNat) destination (false, 0)

/-- If every reply echoes a request, whichever call has sent it, what `ping` returns is the time since the
request was sent that the last reply before the end echoes; and nothing if there is no such reply. -/
theorem luaPing_elapsed {args : List LuaValue} {host : Bytes} {retries : Int} {outside : Outside}
    (named : (argument args 1).toString? lua = some host) (counts : optRetries lua args = some retries)
    {request : Nat → EchoRequest} (echoes : ∀ n < (UInt32.ofInt retries).toNat,
      (outside.turns n).select = .ready → Echoes (outside.turns n).received (request n)) :
    (p.luaPing lua args outside).1 = some (
      if outside.Reports then
        ((answered outside.turns (List.range (UInt32.ofInt retries).toNat)).getLast?.map fun n =>
          LuaValue.number (.finite ((outside.turns n).now - (request n).dwTime).toNat)).toList
      else []) := by
  have returns : (p.luaPing lua args outside).1 = some (
      if (p.ping (UInt32.ofInt retries) outside).1.1 then
        [.number (.finite (p.ping (UInt32.ofInt retries) outside).1.2.toNat)]
      else []) := by
    rw [luaPing]
    simp only [named, counts]
  rw [returns, ping_result]
  generalize UInt32.ofInt retries = nRetries at echoes
  by_cases reports : outside.Reports
  · rw [if_pos reports, if_pos reports]
    cases last : (answered outside.turns (List.range nRetries.toNat)).getLast? with
    | none => rfl
    | some n =>
        obtain ⟨inside, ready⟩ := mem_answered (List.mem_of_getLast? last)
        have stamp := recvEchoReply_eq (echoes n (List.mem_range.mp inside) ready)
        simp only [Option.map_some, Option.getD_some, if_true, Option.toList_some, stamp]
  · rw [if_neg reports, if_neg reports]
    rfl

/-- The first request of the process, and its reply that comes only while the second is waited for. -/
def early : EchoRequest := CPing.request {} 1000

def late : Outside where
  startup := true
  opens := true
  host := some 1
  turns n :=
    { tick := 1000 + 1000 * UInt32.ofNat n
      select := if n = 0 then .timeout else .ready
      received := List.replicate 20 0x45 ++ EchoRequest.bytes { early with type := 0, checksum := 7 }
      memory := []
      now := 2040 + UInt32.ofNat n }
  closes := true

theorem luaPing_elapsed_late :
    (CPing.luaPing .whole {} [.string (ascii "host"), .number (.finite 2)] late).1 =
      some [.number (.finite (1041 : Nat))] := by
  have echoes : ∀ n < (UInt32.ofInt 2).toNat, (late.turns n).select = .ready →
      Echoes (late.turns n).received early := by
    intro n _ _
    exact ⟨_, 0, 0, 7, List.length_replicate, by decide, rfl⟩
  exact luaPing_elapsed .whole rfl rfl echoes

end LuaXENetwork.CPing
