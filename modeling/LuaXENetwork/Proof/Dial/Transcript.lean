import LuaXENetwork.Proof.Dial.Socks5
import LuaXENetwork.Proof.Dial.Messages
import LuaXENetwork.Proof.Socket.Flowing

/-! The SOCKS5 handshake consumes the replies of the proxy, and not a byte more. -/

namespace LuaXENetwork
open Library Dialing BaseSock

/-- The replies before the CONNECT: the method, and the verdict on the password if it was asked for. -/
def Opening (proxy : ProxyTarget) (opening : Bytes) : Prop :=
  opening = [0x05, 0x00] ∨ (proxy.hasCredentials = true ∧ opening = [0x05, 0x02, 0x01, 0x00])

/-- The replies of a proxy that has let us through, byte by byte. -/
def Transcript (proxy : ProxyTarget) (transcript : Bytes) : Prop :=
  ∃ opening reserved addressType length octets address boundPort,
    Opening proxy opening ∧ BoundAddress addressType length octets ∧ address.length = length ∧
    boundPort.length = 2 ∧
    transcript = opening ++ ([0x05, 0x00, reserved, addressType] ++ (octets ++ (address ++ boundPort)))

/-! ## When nothing is late -/

/-- By the horizon there is still a second left of both budgets, and no timer wraps. -/
structure InTime (options : DialOptions) (started horizon : Nat) : Prop where
  connect : (horizon : Int) + 999 < started + options.connectTimeoutMs
  total : 0 < options.totalTimeoutMs → (horizon : Int) + 999 < started + options.totalTimeoutMs
  small : options.connectTimeoutMs + 999 < 2 ^ 31
  epoch : horizon / 1000 + 2147484 ≤ 2 ^ 32

structure Ready (options : DialOptions) (started : Nat) (stream : Bytes) (w : DialWorld) : Prop where
  incoming : w.socket.incoming = stream
  calm : Calm w.socket
  flowing : Flowing w.socket
  begun : started ≤ w.socket.clock
  inTime : InTime options started w.socket.horizon

structure Armed (w : DialWorld) : Prop where
  recvAutomatic : w.socket.recvTimerAutomatic = true
  sendAutomatic : w.socket.sendTimerAutomatic = true
  recvAmple : Ample w.socket (ulong (w.socket.seconds + w.socket.recvTimeoutSeconds))
  sendAmple : Ample w.socket (ulong (w.socket.seconds + w.socket.sendTimeoutSeconds))

abbrev Succeeds {α : Type} (before : DialWorld → Prop) (x : Dialing α)
    (done : α → DialWorld → Prop) : Prop :=
  Program.Triple before x done fun _ _ => False

variable {options : DialOptions} {started : Nat} {stream : Bytes}

theorem clock_le_horizon (s : BaseSock) : s.clock ≤ s.horizon := by
  rw [horizon]
  omega

theorem remaining_ready :
    Succeeds (Ready options started stream) (remaining options started) fun left w =>
      Ready options started stream w ∧ (w.socket.horizon : Int) + 999 < w.socket.clock + left ∧
        left + 999 < 2 ^ 31 := by
  unfold remaining
  split
  · refine .pure fun w ready => ⟨ready, ?_, ready.inTime.small⟩
    have in_time := ready.inTime.connect
    have begun := ready.begun
    omega
  · rename_i budgeted
    intro w ready
    have total := ready.inTime.total (not_le.mp budgeted)
    have connect := ready.inTime.connect
    have small := ready.inTime.small
    have begun := ready.begun
    have early := clock_le_horizon w.socket
    simp only [Program.run_bind, Dialing.clock, Program.run_read]
    rw [if_neg (by omega)]
    refine ⟨ready, ?_, ?_⟩
    · have both : (w.socket.horizon : Int) + 999 - w.socket.clock <
          min options.connectTimeoutMs (options.totalTimeoutMs - (w.socket.clock - started)) :=
        lt_min (by omega) (by omega)
      omega
    · have least := min_le_left options.connectTimeoutMs
        (options.totalTimeoutMs - (w.socket.clock - started))
      omega

theorem seconds_bounds {milliseconds : Int} (positive : 0 < milliseconds)
    (small : milliseconds + 999 < 2 ^ 31) :
    milliseconds ≤ 1000 * seconds milliseconds ∧ 0 < seconds milliseconds ∧
      seconds milliseconds ≤ 2147483 := by
  have fits : toInt32 (milliseconds + 999) = milliseconds + 999 := by
    rw [toInt32]
    omega
  rw [seconds, fits, Int.tdiv_eq_ediv_of_nonneg (by omega)]
  omega

theorem newTimeout_seconds (current : Nat) {new : Int} (positive : 0 < new) :
    newTimeout current new = new.toNat := by
  rw [newTimeout, if_neg (by omega), if_pos positive]

theorem ample_of_seconds {w : DialWorld} (ready : Ready options started stream w) {left : Int}
    (enough : (w.socket.horizon : Int) + 999 < w.socket.clock + left) (small : left + 999 < 2 ^ 31) :
    Ample w.socket (ulong (w.socket.seconds + (seconds left).toNat)) := by
  have early := clock_le_horizon w.socket
  obtain ⟨covers, -, few⟩ := seconds_bounds (show 0 < left by omega) small
  have epoch := ready.inTime.epoch
  have now : w.socket.seconds ≤ w.socket.horizon / 1000 := Nat.div_le_div_right early
  have whole : ulong (w.socket.seconds + (seconds left).toNat) =
      w.socket.seconds + (seconds left).toNat := by
    rw [ulong]
    omega
  rw [whole]
  refine ⟨?_, by omega⟩
  simp only [BaseSock.seconds]
  omega

theorem arm_ready :
    Succeeds (Ready options started stream) (arm options started) fun _ w =>
      Ready options started stream w ∧ Armed w := by
  refine remaining_ready.bind fun left => .change ?_
  rintro w ⟨ready, enough, small⟩
  have early := clock_le_horizon w.socket
  have positive := (seconds_bounds (show 0 < left by omega) small).2.1
  have ample := ample_of_seconds ready enough small
  have recvTimeout := newTimeout_seconds w.socket.recvTimeoutSeconds positive
  have sendTimeout := newTimeout_seconds w.socket.sendTimeoutSeconds positive
  refine ⟨⟨ready.incoming, ⟨ready.calm.idle, ready.calm.collected⟩, { ready.flowing with },
    ready.begun, ready.inTime⟩, rfl, rfl, ?_, ?_⟩
  · rw [← recvTimeout] at ample
    exact ample
  · rw [← sendTimeout] at ample
    exact ample

theorem Ready.passes {w : DialWorld} (ready : Ready options started stream w) {s : BaseSock}
    (passes : Passes w.socket s) (calm : Calm s) {rest : Bytes} (incoming : s.incoming = rest) :
    Ready options started rest { w with socket := s } where
  incoming := incoming
  calm := calm
  flowing := passes.flowing
  begun := ready.begun.trans passes.clock
  inTime := passes.horizon ▸ ready.inTime

theorem record_ready (event : DialEvent) :
    Succeeds (fun w => Ready options started stream w ∧ Armed w) (record event) fun _ w =>
      Ready options started stream w ∧ Armed w :=
  .change fun _ ⟨ready, armed⟩ => ⟨{ ready with }, { armed with }⟩

theorem sendAll_ready {bytes : Bytes} (small : bytes.length < 2 ^ 32) (what : String) :
    Succeeds (Ready options started stream) (sendAll options started bytes what) fun _ =>
      Ready options started stream := by
  refine arm_ready.bind fun _ => (record_ready _).bind fun _ => ?_
  refine Program.Triple.via (fun sent w => sent = some bytes.length ∧
    Ready options started stream w) ?_ fun sent => .assume fun whole => ?_
  · rintro w ⟨ready, armed⟩
    obtain ⟨s', sent, passes, calm, incoming⟩ :=
      send_flowing ready.flowing ready.calm armed.sendAutomatic armed.sendAmple small
    simp only [Dialing.send, Program.run_act, sent]
    exact ⟨trivial, ready.passes passes calm (incoming.trans ready.incoming)⟩
  · rw [if_neg (not_not.mpr whole)]
    exact .pure fun _ ready => ready

theorem takeExact_ready (data : Bytes) (what : String) :
    Succeeds (Ready options started stream) (takeExact data.length what (some data)) fun got w =>
      got = data ∧ Ready options started stream w := by
  intro w ready
  simp only [takeExact, Program.run_bind, Dialing.lastError, Program.run_read, ne_eq, not_true_eq_false,
    if_false, record, Program.run_change, Program.run_pure]
  exact ⟨trivial, { ready with }⟩

theorem recvExact_ready {data : Bytes} (some_bytes : data ≠ []) (small : data.length < 2 ^ 32)
    (rest : Bytes) (what : String) :
    Succeeds (Ready options started (data ++ rest)) (recvExact options started data.length what)
      fun got w => got = data ∧ Ready options started rest w := by
  have counted : data.length ≠ 0 := by simpa using some_bytes
  rw [recvExact, if_neg counted]
  refine arm_ready.bind fun _ => ?_
  refine Program.Triple.via (fun got w => got = some data ∧ Ready options started rest w) ?_
    fun got => .assume fun whole => ?_
  · rintro w ⟨ready, armed⟩
    obtain ⟨s', received, passes, calm, incoming⟩ := receive_flowing ready.flowing ready.calm
      armed.recvAutomatic armed.recvAmple small (by rw [ready.incoming]; simp)
    rw [ready.incoming, List.take_left] at received
    rw [ready.incoming, List.drop_left] at incoming
    simp only [Dialing.receive, Program.run_act, received]
    exact ⟨trivial, ready.passes passes calm incoming⟩
  · rw [whole]
    exact takeExact_ready data what

/-! ## Saying and hearing, whatever carries the bytes -/

structure Carrier (options : DialOptions) (started : Nat) (holds : Bytes → DialWorld → Prop)
    (failed : DialError → DialWorld → Prop) : Prop where
  tells : ∀ stream bytes what, bytes.length < 2 ^ 32 →
    Program.Triple (holds stream) (sendAll options started bytes what) (fun _ => holds stream) failed
  hears : ∀ data rest what, data ≠ [] → data.length < 2 ^ 32 →
    Program.Triple (holds (data ++ rest)) (recvExact options started data.length what)
      (fun got w => got = data ∧ holds rest w) failed

theorem carrier_ready (options : DialOptions) (started : Nat) :
    Carrier options started (Ready options started) fun _ _ => False where
  tells _ _ what small := sendAll_ready small what
  hears _ rest what some_bytes small := recvExact_ready some_bytes small rest what

theorem greeting_length (proxy : ProxyTarget) : (greeting proxy).length < 2 ^ 32 := by
  rw [greeting]
  split <;> decide

section Carried

variable {holds : Bytes → DialWorld → Prop} {failed : DialError → DialWorld → Prop}
  (carrier : Carrier options started holds failed)
  (platform : Platform) (proxy : ProxyTarget) (host : WString) (port : Nat)
include carrier

theorem chooseMethod_carried {method : UInt8} (known : method = 0x00 ∨ method = 0x02) (rest : Bytes) :
    Program.Triple (holds ([0x05, method] ++ rest)) (chooseMethod platform proxy options started)
      (fun chosen w => chosen = method ∧ holds rest w) failed := by
  refine (carrier.tells _ _ "method list" (greeting_length proxy)).bind fun _ =>
    (carrier.hears [0x05, method] rest "method reply" (by simp) (by simp)).bind
      fun choice => .assume fun read => ?_
  subst read
  have refused : method ≠ 0xFF := by
    rcases known with rfl | rfl <;> decide
  have version : ([0x05, method] : Bytes).getD 0 0 = 0x05 := rfl
  have second : ([0x05, method] : Bytes).getD 1 0 = method := rfl
  rw [version, second, if_neg (by decide), if_neg refused, if_neg (by tauto)]
  exact .pure fun _ held => ⟨rfl, held⟩

omit carrier in
theorem authenticate_unasked (rest : Bytes) :
    Program.Triple (holds rest) (authenticate platform proxy options started 0x00)
      (fun _ => holds rest) failed := by
  unfold authenticate
  exact .pure fun _ held => held

theorem authenticate_carried (credentials : proxy.hasCredentials = true)
    (small : (authentication proxy).length < 2 ^ 32) (rest : Bytes) :
    Program.Triple (holds ([0x01, 0x00] ++ rest)) (authenticate platform proxy options started 0x02)
      (fun _ => holds rest) failed := by
  unfold authenticate
  dsimp only
  rw [if_neg (by decide), if_neg (by simp [credentials])]
  refine (carrier.tells _ _ "credentials" small).bind fun _ =>
    (carrier.hears [0x01, 0x00] rest "authentication reply" (by simp) (by simp)).bind
      fun verdict => .assume fun read => ?_
  subst read
  exact .pure fun _ held => held

theorem requestConnect_carried {request : Bytes}
    (encoded : connectRequest platform proxy host port = .ok request) (reserved addressType : UInt8)
    (rest : Bytes) :
    Program.Triple (holds ([0x05, 0x00, reserved, addressType] ++ rest))
      (requestConnect platform proxy options started host port)
      (fun got w => got = addressType ∧ holds rest w) failed := by
  have small : request.length < 2 ^ 32 := by
    have short := connectRequest_length encoded
    omega
  unfold requestConnect
  rw [encoded]
  refine (carrier.tells _ _ "CONNECT request" small).bind fun _ =>
    (carrier.hears [0x05, 0x00, reserved, addressType] rest "CONNECT reply" (by simp) (by simp)).bind
      fun header => .assume fun read => ?_
  subst read
  exact .pure fun _ held => ⟨rfl, held⟩

theorem boundLength_carried {addressType : UInt8} {length : Nat} {octets : Bytes}
    (bound : BoundAddress addressType length octets) (rest : Bytes) :
    Program.Triple (holds (octets ++ rest)) (boundLength platform proxy options started addressType)
      (fun got w => got = length ∧ holds rest w) failed := by
  unfold boundLength
  cases bound with
  | inet => exact .pure fun _ held => ⟨rfl, held⟩
  | inet6 => exact .pure fun _ held => ⟨rfl, held⟩
  | name octet nonempty =>
      refine (carrier.hears [octet] rest "CONNECT reply" (by simp) (by simp)).bind
        fun got => .assume fun read => ?_
      subst read
      have first : ([octet] : Bytes).getD 0 0 = octet := rfl
      rw [first, if_neg nonempty]
      exact .pure fun _ held => ⟨rfl, held⟩

theorem connectReply_carried {request : Bytes}
    (encoded : connectRequest platform proxy host port = .ok request)
    (reserved : UInt8) {addressType : UInt8} {length : Nat} {octets address boundPort : Bytes}
    (bound : BoundAddress addressType length octets) (whole : address.length = length)
    (two : boundPort.length = 2) (rest : Bytes) :
    Program.Triple
      (holds ([0x05, 0x00, reserved, addressType] ++ (octets ++ (address ++ (boundPort ++ rest)))))
      (do
        let addressType ← requestConnect platform proxy options started host port
        let addressLength ← boundLength platform proxy options started addressType
        let _ ← recvExact options started addressLength "CONNECT reply"
        let _ ← recvExact options started 2 "CONNECT reply"
        return ()) (fun _ => holds rest) failed := by
  have some_bytes : address ≠ [] := by
    rintro rfl
    exact bound.pos whole.symm
  have few : address.length < 2 ^ 32 := whole ▸ bound.small
  have port_bytes : boundPort ≠ [] := by
    rintro rfl
    exact absurd two nofun
  refine (requestConnect_carried carrier platform proxy host port encoded reserved addressType _).bind
    fun got => .assume fun same => ?_
  subst same
  refine (boundLength_carried carrier platform proxy bound _).bind fun got => .assume fun same => ?_
  subst same
  rw [← whole, ← two]
  refine (carrier.hears address _ "CONNECT reply" some_bytes few).bind fun _ => .assume fun _ => ?_
  refine (carrier.hears boundPort rest "CONNECT reply" port_bytes (by omega)).bind
    fun _ => .assume fun _ => ?_
  exact .pure fun _ held => held

/-- Through a proxy that asks for no password. -/
theorem socks5Handshake_unasked {request : Bytes}
    (encoded : connectRequest platform proxy host port = .ok request)
    (reserved : UInt8) {addressType : UInt8} {length : Nat} {octets address boundPort : Bytes}
    (bound : BoundAddress addressType length octets) (whole : address.length = length)
    (two : boundPort.length = 2) (rest : Bytes) :
    Program.Triple
      (holds ([0x05, 0x00] ++ ([0x05, 0x00, reserved, addressType] ++
        (octets ++ (address ++ (boundPort ++ rest))))))
      (socks5Handshake platform proxy options started host port) (fun _ => holds rest) failed := by
  refine (chooseMethod_carried carrier platform proxy (.inl rfl) _).bind
    fun method => .assume fun same => ?_
  subst same
  exact (authenticate_unasked platform proxy _).bind fun _ =>
    connectReply_carried carrier platform proxy host port encoded reserved bound whole two rest

theorem socks5Handshake_carried {request transcript : Bytes}
    (encoded : connectRequest platform proxy host port = .ok request)
    (small : (authentication proxy).length < 2 ^ 32) (valid : Transcript proxy transcript)
    (rest : Bytes) :
    Program.Triple (holds (transcript ++ rest))
      (socks5Handshake platform proxy options started host port) (fun _ => holds rest) failed := by
  obtain ⟨opening, reserved, addressType, length, octets, address, boundPort, opened, bound, whole,
    two, rfl⟩ := valid
  simp only [List.append_assoc]
  rcases opened with rfl | ⟨credentials, rfl⟩
  · exact socks5Handshake_unasked carrier platform proxy host port encoded reserved bound whole two rest
  · refine (chooseMethod_carried carrier platform proxy (.inr rfl) _).bind
      fun method => .assume fun same => ?_
    subst same
    exact (authenticate_carried carrier platform proxy credentials small _).bind fun _ =>
      connectReply_carried carrier platform proxy host port encoded reserved bound whole two rest

end Carried

/-! ## When anything may be late -/

def Hears (stream : Bytes) (w : DialWorld) : Prop := w.socket.incoming = stream ∧ Calm w.socket

def Obstructed (w : DialWorld) : Prop :=
  DialEvent.expired ∈ w.events ∨ (∃ what, DialEvent.writeFailed what ∈ w.events) ∨
    ∃ what, DialEvent.readFailed what ∈ w.events

theorem record_obstructed {before : DialWorld → Prop} {failed : DialError → DialWorld → Prop}
    {event : DialEvent} (obstacle : ∀ w : DialWorld, event ∈ w.events → Obstructed w) :
    Program.Triple before (record event) (fun _ => Obstructed) failed :=
  .change fun _ _ => obstacle _ (List.mem_append_right _ List.mem_cons_self)

theorem fail_obstructed {α : Type} {done : α → DialWorld → Prop} (code : String) (message : Bytes) :
    Program.Triple Obstructed (fail code message : Dialing α) done (fun _ => Obstructed) :=
  .throw fun _ stays => stays

theorem remaining_hears :
    Program.Triple (Hears stream) (remaining options started) (fun _ => Hears stream)
      (fun _ => Obstructed) := by
  unfold remaining
  split
  · exact .pure fun _ hears => hears
  · refine (Program.Triple.look _).bind fun now => ?_
    dsimp only
    split
    · exact (record_obstructed fun _ => .inl).bind fun _ => fail_obstructed _ _
    · exact .pure fun _ hears => hears

theorem arm_hears :
    Program.Triple (Hears stream) (arm options started) (fun _ => Hears stream)
      (fun _ => Obstructed) :=
  remaining_hears.bind fun _ => .change fun _ hears =>
    ⟨hears.1, hears.2.idle, hears.2.collected⟩

theorem sendAll_hears (bytes : Bytes) (what : String) :
    Program.Triple (Hears stream) (sendAll options started bytes what) (fun _ => Hears stream)
      (fun _ => Obstructed) := by
  refine arm_hears.bind fun _ => ?_
  refine Program.Triple.via (fun _ => Hears stream) (.change fun _ hears => hears) fun _ => ?_
  refine Program.Triple.via (fun sent w => sent ≠ none → Hears stream w) ?_ fun sent => ?_
  · refine .act fun w hears sent => ⟨?_, ?_⟩
    · exact (send_onlySent hears.2.noReadLeft.onlyWrites bytes).same.incoming.trans hears.1
    · exact send_calm hears.2 bytes (Option.isSome_iff_ne_none.mpr sent)
  · split
    · exact (record_obstructed fun _ member => .inr (.inl ⟨what, member⟩)).bind fun _ =>
        (Program.Triple.look _).bind fun error => fail_obstructed _ _
    · rename_i whole
      refine .pure fun w hears => hears ?_
      rw [not_not.mp whole]
      exact Option.some_ne_none _

theorem takeExact_hears (count : Nat) (what : String) (answer : Option Bytes) :
    Program.Triple
      (fun w => ∀ got, answer = some got → ∃ rest, stream = got ++ rest ∧ Hears rest w)
      (takeExact count what answer)
      (fun got w => got.length = count ∧ ∃ rest, stream = got ++ rest ∧ Hears rest w)
      (fun _ => Obstructed) := by
  have obstacle (w : DialWorld) (member : DialEvent.readFailed what ∈ w.events) : Obstructed w :=
    .inr (.inr ⟨what, member⟩)
  refine (Program.Triple.look _).bind fun error => ?_
  cases answer with
  | none =>
      refine (record_obstructed obstacle).bind fun _ => ?_
      split <;> exact fail_obstructed _ _
  | some data =>
      dsimp only
      split
      · exact (record_obstructed obstacle).bind fun _ => fail_obstructed _ _
      · rename_i exactly
        refine Program.Triple.via (fun _ w => ∃ rest, stream = data ++ rest ∧ Hears rest w)
          (.change fun w heard => heard data rfl) fun _ => ?_
        exact .pure fun w heard => ⟨not_not.mp exactly, heard⟩

theorem recvExact_hears {count : Nat} (some_bytes : count ≠ 0) (what : String) :
    Program.Triple (Hears stream) (recvExact options started count what)
      (fun got w => got.length = count ∧ ∃ rest, stream = got ++ rest ∧ Hears rest w)
      (fun _ => Obstructed) := by
  rw [recvExact, if_neg some_bytes]
  refine arm_hears.bind fun _ => Program.Triple.bind ?_ fun answer => takeExact_hears count what answer
  refine .act fun w hears got received => ?_
  have ends := receive_calm hears.2 count count
  generalize w.socket.receive count count = result at ends received ⊢
  obtain ⟨answer, s'⟩ := result
  obtain rfl : answer = some got := received
  have handed : Handed w.socket count got s' := ends
  exact ⟨s'.incoming, hears.1.symm.trans handed.incoming, rfl, handed.calm⟩

theorem carrier_hears (options : DialOptions) (started : Nat) :
    Carrier options started Hears fun _ => Obstructed where
  tells _ bytes what _ := sendAll_hears bytes what
  hears data rest what some_bytes _ := by
    refine (recvExact_hears (by simpa using some_bytes) what).weaken (fun _ hears => hears) ?_
      fun _ _ stays => stays
    rintro got w ⟨counted, later, same, hears⟩
    obtain ⟨rfl, rfl⟩ := List.append_inj same.symm counted
    exact ⟨rfl, hears⟩

/-! ## What was consumed is a transcript -/

section Heard

variable (platform : Platform) (proxy : ProxyTarget) (host : WString) (port : Nat)

def Consumed (stream : Bytes) (shape : Bytes → Prop) (w : DialWorld) : Prop :=
  ∃ consumed rest, shape consumed ∧ stream = consumed ++ rest ∧ Hears rest w

theorem Consumed.bind {α β : Type} {shape : α → Bytes → Prop} {shape' : β → Bytes → Prop}
    {x : Dialing α} {f : α → Dialing β}
    (first : Program.Triple (Hears stream) x (fun a => Consumed stream (shape a)) fun _ _ => True)
    (rest : ∀ a consumed later, shape a consumed → Program.Triple (Hears later) (f a)
      (fun b => Consumed later fun bytes => shape' b (consumed ++ bytes)) fun _ _ => True) :
    Program.Triple (Hears stream) (x >>= f) (fun b => Consumed stream (shape' b)) fun _ _ => True := by
  refine first.bind fun a => .exists fun consumed => .exists fun later => .assume fun shaped =>
    .assume fun split => ?_
  refine (rest a consumed later shaped).weaken (fun _ hears => hears) ?_ (fun _ _ _ => trivial)
  rintro b w ⟨bytes, last, shaped', split', hears⟩
  exact ⟨consumed ++ bytes, last, shaped', by rw [split, split', List.append_assoc], hears⟩

theorem Consumed.pure {α : Type} {shape : α → Bytes → Prop} {a : α} (shaped : shape a []) :
    Program.Triple (Hears stream) (pure a : Dialing α) (fun b => Consumed stream (shape b))
      fun _ _ => True := .pure fun _ hears => ⟨[], stream, shaped, rfl, hears⟩

theorem Consumed.fail {α : Type} {shape : α → Bytes → Prop} (code : String) (message : Bytes) :
    Program.Triple (Hears stream) (fail code message : Dialing α) (fun b => Consumed stream (shape b))
      fun _ _ => True := .throw fun _ _ => trivial

theorem sendAll_consumed (bytes : Bytes) (what : String) :
    Program.Triple (Hears stream) (sendAll options started bytes what)
      (fun _ => Consumed stream (· = [])) fun _ _ => True :=
  (sendAll_hears bytes what).weaken (fun _ hears => hears)
    (fun _ _ hears => ⟨[], stream, rfl, rfl, hears⟩) fun _ _ _ => trivial

theorem recvExact_consumed {count : Nat} (some_bytes : count ≠ 0) (what : String) :
    Program.Triple (Hears stream) (recvExact options started count what)
      (fun got => Consumed stream fun bytes => bytes = got ∧ got.length = count) fun _ _ => True :=
  (recvExact_hears some_bytes what).weaken (fun _ hears => hears)
    (fun got _ ⟨counted, rest, split, hears⟩ => ⟨got, rest, ⟨rfl, counted⟩, split, hears⟩)
    fun _ _ _ => trivial

theorem chooseMethod_consumed :
    Program.Triple (Hears stream) (chooseMethod platform proxy options started)
      (fun method => Consumed stream fun bytes =>
        (method = 0x00 ∨ method = 0x02) ∧ bytes = [0x05, method]) fun _ _ => True := by
  refine Consumed.bind (sendAll_consumed _ _) ?_
  rintro - _ later rfl
  refine Consumed.bind (recvExact_consumed (by decide) _) ?_
  rintro choice _ later ⟨rfl, two⟩
  obtain ⟨version, method, rfl⟩ := List.length_eq_two.mp two
  have first : ([version, method] : Bytes).getD 0 0 = version := rfl
  have second : ([version, method] : Bytes).getD 1 0 = method := rfl
  rw [first, second]
  dsimp only
  split_ifs with socks5 refused unknown
  · exact Consumed.fail _ _
  · exact Consumed.fail _ _
  · exact Consumed.fail _ _
  · obtain rfl : version = 0x05 := not_not.mp socks5
    exact Consumed.pure ⟨by tauto, rfl⟩

theorem authenticate_consumed {method : UInt8} (known : method = 0x00 ∨ method = 0x02) :
    Program.Triple (Hears stream) (authenticate platform proxy options started method)
      (fun _ => Consumed stream fun bytes => Opening proxy ([0x05, method] ++ bytes))
      fun _ _ => True := by
  unfold authenticate
  dsimp only
  rcases known with rfl | rfl
  · rw [if_pos (by decide)]
    exact Consumed.pure (.inl rfl)
  · rw [if_neg (by decide)]
    split_ifs with given
    · exact Consumed.fail _ _
    · have credentials : proxy.hasCredentials = true := by simpa using given
      refine Consumed.bind (sendAll_consumed _ _) ?_
      rintro - _ later rfl
      refine Consumed.bind (recvExact_consumed (by decide) _) ?_
      rintro verdict _ later ⟨rfl, two⟩
      obtain ⟨version, status, rfl⟩ := List.length_eq_two.mp two
      have first : ([version, status] : Bytes).getD 0 0 = version := rfl
      have second : ([version, status] : Bytes).getD 1 0 = status := rfl
      rw [first, second]
      split_ifs with rfc1929 success
      · exact Consumed.fail _ _
      · exact Consumed.fail _ _
      · obtain rfl : version = 0x01 := not_not.mp rfc1929
        obtain rfl : status = 0x00 := not_not.mp success
        exact Consumed.pure (.inr ⟨credentials, rfl⟩)

theorem requestConnect_consumed :
    Program.Triple (Hears stream) (requestConnect platform proxy options started host port)
      (fun addressType => Consumed stream fun bytes =>
        ∃ reserved, bytes = [0x05, 0x00, reserved, addressType]) fun _ _ => True := by
  unfold requestConnect
  rcases encoded : connectRequest platform proxy host port with error | request
  · exact fun _ _ => trivial
  · change Program.Triple _ (sendAll options started request "CONNECT request" >>= _) _ _
    refine Consumed.bind (sendAll_consumed _ _) ?_
    rintro - _ later rfl
    refine Consumed.bind (recvExact_consumed (by decide) _) ?_
    rintro header _ later ⟨rfl, four⟩
    obtain ⟨version, code, reserved, addressType, rfl⟩ := List.length_eq_four.mp four
    have first : ([version, code, reserved, addressType] : Bytes).getD 0 0 = version := rfl
    have second : ([version, code, reserved, addressType] : Bytes).getD 1 0 = code := rfl
    have fourth : ([version, code, reserved, addressType] : Bytes).getD 3 0 = addressType := rfl
    rw [first, second, fourth]
    dsimp only
    split_ifs with socks5 success
    · exact Consumed.fail _ _
    · exact Consumed.fail _ _
    · obtain rfl : version = 0x05 := not_not.mp socks5
      obtain rfl : code = 0x00 := not_not.mp success
      exact Consumed.pure ⟨reserved, rfl⟩

theorem boundLength_consumed (addressType : UInt8) :
    Program.Triple (Hears stream) (boundLength platform proxy options started addressType)
      (fun length => Consumed stream fun octets => BoundAddress addressType length octets)
      fun _ _ => True := by
  unfold boundLength
  dsimp only
  split_ifs with inet inet6 name
  · exact Consumed.pure (inet ▸ .inet)
  · exact Consumed.pure (inet6 ▸ .inet6)
  · refine Consumed.bind (recvExact_consumed (by decide) _) ?_
    rintro length _ later ⟨rfl, one⟩
    obtain ⟨octet, rfl⟩ := List.length_eq_one_iff.mp one
    have first : ([octet] : Bytes).getD 0 0 = octet := rfl
    rw [first]
    split_ifs with empty
    · exact Consumed.fail _ _
    · exact Consumed.pure (name ▸ .name octet empty)
  · exact Consumed.fail _ _

theorem socks5Handshake_consumed (options : DialOptions) (started : Nat) :
    Program.Triple (Hears stream) (socks5Handshake platform proxy options started host port)
      (fun _ => Consumed stream (Transcript proxy)) fun _ _ => True := by
  refine Consumed.bind (chooseMethod_consumed platform proxy) ?_
  rintro method _ later ⟨known, rfl⟩
  refine Consumed.bind (authenticate_consumed platform proxy known) ?_
  intro _ verdict later opened
  refine Consumed.bind (requestConnect_consumed platform proxy host port) ?_
  rintro addressType _ later ⟨reserved, rfl⟩
  refine Consumed.bind (boundLength_consumed platform proxy addressType) ?_
  intro length octets later bound
  refine Consumed.bind (recvExact_consumed bound.pos _) ?_
  rintro address _ later ⟨rfl, whole⟩
  refine Consumed.bind (recvExact_consumed (by decide) _) ?_
  rintro boundPort _ later ⟨rfl, two⟩
  refine Consumed.pure ⟨_, reserved, addressType, length, octets, _, _, opened, bound, whole, two, ?_⟩
  simp

end Heard

/-- No answer of the socket fails, and all have come a second before the budgets end. -/
structure Prompt (options : DialOptions) (started : Nat) (w : DialWorld) : Prop where
  flowing : Flowing w.socket
  begun : started ≤ w.socket.clock
  inTime : InTime options started w.socket.horizon

/-- Of the replies of a proxy, all of a transcript is consumed and nothing behind it, and nothing
but a transcript lets the handshake return. Only the socket and the clock can stop it. -/
theorem socks5Handshake_transcript (platform : Platform) (proxy : ProxyTarget) (options : DialOptions)
    (started : Nat) (host : WString) (port : Nat) (w : DialWorld) (calm : Calm w.socket)
    (result : Except DialError Unit) (w' : DialWorld)
    (run : (socks5Handshake platform proxy options started host port).run w = (result, w')) :
    (∀ request transcript rest, connectRequest platform proxy host port = .ok request →
      proxy.user.length ≤ 255 → proxy.password.length ≤ 255 → Transcript proxy transcript →
      w.socket.incoming = transcript ++ rest →
        (result = .ok () ∨ Obstructed w') ∧
        (Prompt options started w → result = .ok ()) ∧
        (result = .ok () → w'.socket.incoming = rest ∧
          ∀ length minLength data s, w'.socket.receive length minLength = (some data, s) →
            rest = data ++ s.incoming)) ∧
    (result = .ok () → ∃ transcript, Transcript proxy transcript ∧
      w.socket.incoming = transcript ++ w'.socket.incoming) := by
  refine ⟨fun request transcript rest encoded user password valid incoming => ?_, ?_⟩
  · have small : (authentication proxy).length < 2 ^ 32 := by
      simp only [authentication, List.length_append, List.length_cons, List.length_nil]
      omega
    have ends := socks5Handshake_carried (carrier_hears options started) platform proxy host port
      encoded small valid rest w ⟨incoming, calm⟩
    have prompt_ends (prompt : Prompt options started w) :=
      socks5Handshake_carried (carrier_ready options started) platform proxy host port encoded small
        valid rest w ⟨incoming, calm, prompt.flowing, prompt.begun, prompt.inTime⟩
    rw [run] at ends prompt_ends
    cases result with
    | ok _ =>
        have hears : Hears rest w' := ends
        refine ⟨.inl rfl, fun _ => rfl, fun _ => ⟨hears.1, ?_⟩⟩
        intro length minLength data s received
        have next := receive_calm hears.2 length minLength
        rw [received] at next
        have handed : Handed w'.socket length data s := next
        exact hears.1.symm.trans handed.incoming
    | error error => exact ⟨.inr ends, fun prompt => (prompt_ends prompt).elim, nofun⟩
  · rintro rfl
    have ends := socks5Handshake_consumed platform proxy host port options started w ⟨rfl, calm⟩
    rw [run] at ends
    obtain ⟨transcript, rest, valid, split, hears⟩ := ends
    exact ⟨transcript, valid, hears.1 ▸ split⟩

/-- A proxy that wants a password, with a bound name of one byte, in pieces of two; `ff` is behind. -/
def tunnelWorld : DialWorld where
  socket := {
    isOpen := true
    incoming := [5, 2, 1, 0, 5, 0, 9, 3, 1, 98, 0, 80, 0xFF]
    reads := List.replicate 8 (.done 3 (.bytes 2)) }

theorem socks5Handshake_transcript_name :
    ((socks5Handshake Platform.blank witnessProxy {} 0 [97] 80).run tunnelWorld).1 = .ok () ∧
    ((socks5Handshake Platform.blank witnessProxy {} 0 [97] 80).run tunnelWorld).2.socket.incoming =
      [0xFF] := by
  have valid : Transcript witnessProxy [5, 2, 1, 0, 5, 0, 9, 3, 1, 98, 0, 80] :=
    ⟨[5, 2, 1, 0], 9, 3, 1, [1], [98], [0, 80], .inr ⟨rfl, rfl⟩, .name 1 (by decide), rfl, rfl, rfl⟩
  have reads : ∀ answer ∈ tunnelWorld.socket.reads, answer.Brings := fun answer member =>
    ⟨3, 1, List.eq_of_mem_replicate member⟩
  have flowing : Flowing tunnelWorld.socket :=
    ⟨rfl, rfl, reads, by simp [tunnelWorld], by simp [tunnelWorld]⟩
  have inTime : InTime {} 0 tunnelWorld.socket.horizon :=
    ⟨by decide, nofun, by decide, by decide⟩
  obtain ⟨-, prompt, consumed⟩ := (socks5Handshake_transcript Platform.blank witnessProxy {} 0 [97] 80
    tunnelWorld ⟨rfl, rfl⟩ _ _ rfl).1 [5, 1, 0, 3, 1, 97, 0, 80] _ [0xFF] (by decide) (by decide)
    (by decide) valid rfl
  have returned := prompt ⟨flowing, Nat.zero_le _, inTime⟩
  exact ⟨returned, (consumed returned).1⟩

end LuaXENetwork
