import LuaXENetwork.Proof.Dial.Budget

/-! A dial up to the end of its SOCKS5 handshake, and the second that its deadline holds to. -/

namespace LuaXENetwork
open Library Dialing BaseSock

/-- `Dial` up to the end of `Socks5Handshake`, and when it started. -/
def dialProxy (platform : Platform) (options : DialOptions) : Dialing Nat := do
  let started ← clock
  let connectTimeout ← remaining options started
  setTimeouts (seconds connectTimeout)
  reach platform options started
  return started

theorem dial_eq_dialProxy (platform : Platform) (options : DialOptions) (answers : TlsAnswers) :
    dial platform options answers = (do
      let started ← dialProxy platform options
      if !options.ssl then return { secure := false }
      else secureConnection platform options answers started) := by
  simp only [dial, dialProxy, bind_assoc, pure_bind]

/-- When the handshake with the proxy returns or throws. -/
def handshakeEnd (platform : Platform) (options : DialOptions) (peer : Peer) : Nat :=
  ((dialProxy platform options).run peer.world).2.socket.clock

/-- The deadline falls on a second or a millisecond before one, or in the last that the timers can count. -/
def EndsWithSecond (started : Nat) (total : Int) : Prop :=
  (started + total) % 1000 = 0 ∨ (started + total) % 1000 = 999 ∨
    2 ^ 32 ≤ (started + total) / 1000 + 1

section Bound

variable {options : DialOptions} {started : Nat} (positive : 0 < options.totalTimeoutMs)
  (int : -2 ^ 31 ≤ options.connectTimeoutMs) (ends : EndsWithSecond started options.totalTimeoutMs)
include ends

/-- A timer that is set to the time left, in whole seconds, ends in time: these are the deadlines to which
rounding up adds no more than a second. -/
theorem timer_le {clock : Nat} {left : Int} (int : -2 ^ 31 ≤ left)
    (early : (clock : Int) < started + options.totalTimeoutMs)
    (fits : clock + left ≤ started + options.totalTimeoutMs) :
    (1000 * ulong (clock / 1000 + (seconds left).toNat) + 999 : Int) ≤
      started + options.totalTimeoutMs + 1000 := by
  obtain ⟨some_second, -, rounded⟩ := seconds_le int
  have counted := Nat.mod_le (clock / 1000 + (seconds left).toNat) (2 ^ 32)
  have wraps : 2 ^ 32 ≤ clock / 1000 + (seconds left).toNat →
      ulong (clock / 1000 + (seconds left).toNat) + 2 ^ 32 ≤ clock / 1000 + (seconds left).toNat := by
    intro past
    rw [ulong]
    omega
  rw [ulong] at wraps ⊢
  rcases ends with whole | last | far
  · omega
  · omega
  · omega

theorem setTimeouts_limited {left : Int} :
    Program.Triple
      (fun w => Unhurried (started + options.totalTimeoutMs + 1000) w ∧ -2 ^ 31 ≤ left ∧
        (w.socket.clock : Int) < started + options.totalTimeoutMs ∧
        w.socket.clock + left ≤ started + options.totalTimeoutMs)
      (setTimeouts (seconds left))
      (fun _ w => Limited (started + options.totalTimeoutMs + 1000) w ∧
        (w.socket.connect.2.clock : Int) ≤ started + options.totalTimeoutMs + 1000)
      (fun _ => NoLater (started + options.totalTimeoutMs + 1000)) := by
  refine .change fun w before => ?_
  obtain ⟨unhurried, int, early, fits⟩ := before
  obtain ⟨some_second, -, rounded⟩ := seconds_le int
  have timer := timer_le ends int early fits
  have recvTimeout := newTimeout_seconds w.socket.recvTimeoutSeconds some_second
  have sendTimeout := newTimeout_seconds w.socket.sendTimeoutSeconds some_second
  have calm : Calm ((w.socket.setSendTimeoutSeconds (seconds left)).setRecvTimeoutSeconds (seconds left)) :=
    ⟨unhurried.calm.idle, unhurried.calm.collected⟩
  refine ⟨⟨⟨calm, unhurried.noLater⟩, fun data => ?_, fun length minLength => ?_⟩, ?_⟩
  · have within := send_clock_within calm rfl data
    simp only [setRecvTimeoutSeconds, setSendTimeoutSeconds, sendTimeout, BaseSock.seconds] at within ⊢
    omega
  · have within := receive_clock_within calm rfl length minLength
    simp only [setRecvTimeoutSeconds, setSendTimeoutSeconds, recvTimeout, BaseSock.seconds] at within ⊢
    omega
  · have made := connect_clock_le
      ((w.socket.setSendTimeoutSeconds (seconds left)).setRecvTimeoutSeconds (seconds left))
    simp only [setRecvTimeoutSeconds, setSendTimeoutSeconds, sendTimeout] at made ⊢
    omega

include positive int

theorem arm_second :
    Program.Triple (Unhurried (started + options.totalTimeoutMs + 1000)) (arm options started)
      (fun _ => Limited (started + options.totalTimeoutMs + 1000))
      (fun _ => NoLater (started + options.totalTimeoutMs + 1000)) :=
  (remaining_unhurried positive int).bind fun _ =>
    (setTimeouts_limited ends).weaken (fun _ start => start) (fun _ _ set => set.1) fun _ _ late => late

theorem dialProxy_noLater (platform : Platform) :
    Program.Triple
      (fun w => w.socket.clock = started ∧ Unhurried (started + options.totalTimeoutMs + 1000) w)
      (dialProxy platform options) (fun _ => NoLater (started + options.totalTimeoutMs + 1000))
      (fun _ => NoLater (started + options.totalTimeoutMs + 1000)) := by
  refine Program.Triple.via
    (fun now w => now = started ∧ Unhurried (started + options.totalTimeoutMs + 1000) w)
    (.read fun _ start => start) fun now => .assume fun same => ?_
  subst same
  refine (remaining_unhurried positive int).bind fun left => (setTimeouts_limited ends).bind fun _ =>
    Program.Triple.via (fun _ => NoLater (now + options.totalTimeoutMs + 1000)) ?_ fun _ =>
      .pure fun _ early => early
  have connects (host : WString) (port : Nat) (code : String) :
      Program.Triple
        (fun w => Limited (now + options.totalTimeoutMs + 1000) w ∧
          (w.socket.connect.2.clock : Int) ≤ now + options.totalTimeoutMs + 1000)
        (connectTo platform host port code) (fun _ => Unhurried (now + options.totalTimeoutMs + 1000))
        (fun _ => NoLater (now + options.totalTimeoutMs + 1000)) :=
    (connectTo_unhurried platform host port code).weaken (fun _ start => ⟨start.1.calm, start.2⟩)
      (fun _ _ unhurried => unhurried) fun _ _ late => late
  unfold reach
  cases options.proxy with
  | none =>
      exact (connects _ _ _).weaken (fun _ start => start) (fun _ _ unhurried => unhurried.noLater)
        fun _ _ late => late
  | some proxy =>
      exact (connects _ _ _).bind fun _ =>
        (socks5Handshake_unhurried (arm_second positive int ends) platform proxy _ _).weaken
          (fun _ start => start) (fun _ _ done => done.1.noLater) fun _ _ late => late

end Bound

/-! ## The proxy that uses up the last second -/

namespace BaseSock

/-- An open connection whose first byte is that far off, and the second not due in the second behind it. -/
structure Stalling (clock first : Nat) (s : BaseSock) : Prop where
  isOpen : s.isOpen = true
  calm : Calm s
  clock : s.clock = clock
  incoming : s.incoming = [0x05]
  reads : s.reads = [.done first (.bytes 1), .done 1001 (.bytes 1)]
  writes : s.writes = []
  waits : s.waits = []

structure TimedTo (timeout : Nat) (s : BaseSock) : Prop where
  recvAutomatic : s.recvTimerAutomatic = true
  sendAutomatic : s.sendTimerAutomatic = true
  recvTimeout : s.recvTimeoutSeconds = timeout
  sendTimeout : s.sendTimeoutSeconds = timeout

section Stalling

variable {s : BaseSock} {clock first timeout : Nat} (stalling : Stalling clock first s)
  (timed : TimedTo timeout s) (positive : 0 < timeout) (epoch : clock / 1000 + timeout < 2 ^ 32)
include stalling timed positive epoch

theorem send_stalling {data : Bytes} (some_bytes : data ≠ []) (small : data.length < 2 ^ 32) :
    ∃ s', s.send data = (some data.length, s') ∧ Stalling clock first s' := by
  have left := (timer_left (clock / 1000) positive epoch).1
  rw [send, timed.sendAutomatic, if_pos rfl]
  refine ⟨_, sendLoop_whole (s := s.startSendTimerInternal) stalling.calm.idle stalling.isOpen stalling.writes
    ?_ some_bytes small, ?_⟩
  · simp only [startSendTimerInternal, BaseSock.seconds, stalling.clock, timed.sendTimeout]
    exact left
  · exact { stalling with calm := ⟨stalling.calm.idle, stalling.calm.collected⟩ }

/-- The timer is read again after the first byte, in its last second, and then waited for whole. -/
theorem receive_stalling (few : timeout ≤ 2147484)
    (last : (clock + first) / 1000 + 1 = clock / 1000 + timeout) :
    (s.receive 2 2).1 = none ∧ (s.receive 2 2).2.clock = clock + first + 1000 := by
  have armed : ((s.allocate 2).startRecvTimerInternal).recvEndTime = clock / 1000 + timeout := by
    rw [← Nat.mod_eq_of_lt epoch, ← timed.recvTimeout, ← stalling.clock]
    rfl
  have now : ((s.allocate 2).startRecvTimerInternal).seconds = clock / 1000 := by
    rw [← stalling.clock]
    rfl
  have all_left : ((clock / 1000 + timeout : Nat) : Int) - (clock / 1000 : Nat) = timeout := by omega
  obtain ⟨s₁, read, isOpen, calm, clock₁, endTime, reads, usual⟩ : ∃ s₁,
      recvPartial (s.allocate 2).startRecvTimerInternal s.buffers 0 2 = (some 1, s₁) ∧ s₁.isOpen = true ∧
        Calm s₁ ∧ s₁.clock = clock + first ∧ s₁.recvEndTime = clock / 1000 + timeout ∧
        s₁.reads = [.done 1001 (.bytes 1)] ∧ s₁.waits = [] := by
    refine ⟨_, recvPartial_byte (s := (s.allocate 2).startRecvTimerInternal) stalling.isOpen stalling.waits
      stalling.reads stalling.incoming ?_ s.buffers 0 (show 0 < ulong 2 from by decide)
      ⟨stalling.calm.idle, stalling.calm.collected⟩ ?_, stalling.isOpen, ?_, ?_, armed, rfl, stalling.waits⟩
    · rw [armed, now, all_left, waitMilliseconds_few few]
      omega
    · rw [armed, now, all_left]
      omega
    · exact ⟨stalling.calm.idle, stalling.calm.collected⟩
    · rw [← stalling.clock]
      rfl
  have second_left : (s₁.recvEndTime : Int) - s₁.seconds = (1 : Nat) := by
    rw [endTime, BaseSock.seconds, clock₁]
    omega
  have silent := recvPartial_overdue isOpen usual reads calm (by rw [second_left]; omega)
    (by rw [second_left, waitMilliseconds_few (by omega)]; omega) s.buffers 1 1
  rw [second_left, waitMilliseconds_few (by omega), clock₁] at silent
  have failed : (s.allocate 2).recv s.buffers 2 2 =
      (none, { (recvPartial s₁ s.buffers 1 1).2 with
        dropped := (recvPartial s₁ s.buffers 1 1).2.dropped + 1 }) := by
    have set : (s.allocate 2).recvTimerAutomatic = true := timed.recvAutomatic
    rw [recv, set, if_pos rfl, recvLoop, if_pos Nat.two_pos, read]
    dsimp only
    rw [recvLoop, if_pos Nat.one_lt_two]
    rcases ended : recvPartial s₁ s.buffers 1 1 with ⟨count, s₂⟩
    rw [ended] at silent
    obtain rfl : count = none := silent.1
    simp only [Nat.reduceAdd]
  rw [receive, failed]
  exact ⟨rfl, silent.2⟩

end Stalling

/-- The same connection, which takes its time to come about. -/
structure Offering (clock delay first : Nat) (s : BaseSock) : Prop where
  connects : s.connects = [⟨delay, .connected⟩]
  stalling : Stalling (clock + delay) first { s with isOpen := true, clock := s.clock + delay }

structure Awaited (clock delay first : Nat) (s : BaseSock) : Prop extends Offering clock delay first s where
  allowed : delay ≤ s.sendTimeoutSeconds * 1000

theorem connect_stalling {s : BaseSock} {clock delay first : Nat} (awaited : Awaited clock delay first s) :
    s.connect.1 = true ∧ Stalling (clock + delay) first s.connect.2 := by
  obtain ⟨⟨offered, stalling⟩, allowed⟩ := awaited
  have answer : s.connects.headD ⟨0, .connected⟩ = ⟨delay, .connected⟩ := by rw [offered, List.headD_cons]
  have idle : s.outstanding = [] := stalling.calm.idle
  have later : max s.clock (s.clock + delay) = clock + delay :=
    (Nat.max_eq_right (Nat.le_add_right _ _)).trans stalling.clock
  rw [BaseSock.connect, answer]
  dsimp only
  rw [if_neg (not_lt.mpr allowed), runTo_nil (s := { s with connects := s.connects.tail }) idle]
  exact ⟨rfl, ⟨rfl, ⟨idle, stalling.calm.collected⟩, later, stalling.incoming, stalling.reads,
    stalling.writes, stalling.waits⟩⟩

end BaseSock

section Tardy

variable {options : DialOptions} {started : Nat} (positive : 0 < options.totalTimeoutMs)

theorem setTimeouts_timed {left : Int} {timeout : Nat} (some_time : 0 < timeout)
    (counted : (seconds left).toNat = timeout) (s : BaseSock) :
    TimedTo timeout ((s.setSendTimeoutSeconds (seconds left)).setRecvTimeoutSeconds (seconds left)) := by
  have some_second : 0 < seconds left := Int.pos_iff_toNat_pos.mpr (counted ▸ some_time)
  exact ⟨rfl, rfl, (newTimeout_seconds _ some_second).trans counted,
    (newTimeout_seconds _ some_second).trans counted⟩

variable {clock first timeout : Nat} (some_time : 0 < timeout)
  (early : (clock : Int) - started < options.totalTimeoutMs)
  (counted :
    (seconds (min options.connectTimeoutMs (options.totalTimeoutMs - (clock - started)))).toNat = timeout)
include positive some_time early counted

theorem arm_stalling :
    Succeeds (fun w => Stalling clock first w.socket) (arm options started) fun _ w =>
      Stalling clock first w.socket ∧ TimedTo timeout w.socket := by
  refine (remaining_at positive early fun w stalling => stalling.clock).bind fun left =>
    .assume fun same => .change fun w stalling => ?_
  rw [← same] at counted
  exact ⟨{ stalling with calm := ⟨stalling.calm.idle, stalling.calm.collected⟩ },
    setTimeouts_timed some_time counted w.socket⟩

variable (epoch : clock / 1000 + timeout < 2 ^ 32) (few : timeout ≤ 2147484)
  (last : (clock + first) / 1000 + 1 = clock / 1000 + timeout)
include epoch few last

theorem chooseMethod_stalling (platform : Platform) (proxy : ProxyTarget) :
    Program.Triple (fun w => Stalling clock first w.socket) (chooseMethod platform proxy options started)
      (fun _ _ => False) (fun _ w => w.socket.clock = clock + first + 1000) := by
  have told : Succeeds (fun w => Stalling clock first w.socket)
      (sendAll options started (greeting proxy) "method list") fun _ w => Stalling clock first w.socket := by
    have some_bytes : greeting proxy ≠ [] := by
      rw [greeting]
      split <;> exact List.cons_ne_nil _ _
    have small : (greeting proxy).length < 2 ^ 32 := by
      rw [greeting]
      split <;> decide
    refine (arm_stalling positive some_time early counted).bind fun _ => ?_
    refine Program.Triple.via
      (fun _ w => Stalling clock first w.socket ∧ TimedTo timeout w.socket)
      (.change fun _ before => before) fun _ => ?_
    refine Program.Triple.via
      (fun sent w => sent = some (greeting proxy).length ∧ Stalling clock first w.socket)
      (.act fun w before => ?_) fun sent => .assume fun whole => ?_
    · obtain ⟨s', sent, stalling⟩ := send_stalling before.1 before.2 some_time epoch some_bytes small
      rw [sent]
      exact ⟨rfl, stalling⟩
    · rw [if_neg (not_not.mpr whole)]
      exact .pure fun _ stalling => stalling
  have heard : Program.Triple (fun w => Stalling clock first w.socket)
      (recvExact options started 2 "method reply")
      (fun _ _ => False) (fun _ w => w.socket.clock = clock + first + 1000) := by
    rw [recvExact, if_neg (by omega)]
    refine (triple_of_succeeds (arm_stalling positive some_time early counted)).bind fun _ => ?_
    refine Program.Triple.via
      (fun answer w => answer = none ∧ w.socket.clock = clock + first + 1000)
      (.act fun w before => receive_stalling before.1 before.2 some_time epoch few last)
      fun answer => .assume fun failed => ?_
    subst failed
    refine (Program.Triple.look _).bind fun error => ?_
    refine Program.Triple.via (fun _ w => w.socket.clock = clock + first + 1000)
      (.change fun _ late => late) fun _ => ?_
    split <;> exact .throw fun _ late => late
  exact (triple_of_succeeds told).bind fun _ => heard.bind fun _ => fun _ never => never.elim

variable (options started) in
omit positive some_time early counted epoch few last in
/-- A dial that is connected after a delay, and hears a byte in the last second of its timer. -/
theorem dialProxy_stalling (platform : Platform) {proxy : ProxyTarget} (through : options.proxy = some proxy)
    (positive : 0 < options.totalTimeoutMs) {delay first timeout connecting : Nat}
    (some_seconds : 0 < connecting) (allowed : delay ≤ connecting * 1000)
    (counted_first : (seconds (min options.connectTimeoutMs options.totalTimeoutMs)).toNat = connecting)
    (early : (delay : Int) < options.totalTimeoutMs) (some_time : 0 < timeout)
    (counted : (seconds (min options.connectTimeoutMs (options.totalTimeoutMs - delay))).toNat = timeout)
    (epoch : (started + delay) / 1000 + timeout < 2 ^ 32) (few : timeout ≤ 2147484)
    (last : (started + delay + first) / 1000 + 1 = (started + delay) / 1000 + timeout) :
    Program.Triple
      (fun w => w.socket.clock = started ∧ Offering started delay first w.socket)
      (dialProxy platform options) (fun _ _ => False)
      (fun _ w => w.socket.clock = started + delay + first + 1000) := by
  have connects : Succeeds
      (fun w => Awaited started delay first w.socket)
      (connectTo platform proxy.host proxy.port "proxy_connect_refused")
      fun _ w => Stalling (started + delay) first w.socket := by
    refine Program.Triple.via
      (fun _ w => Awaited started delay first w.socket)
      (.change fun _ before => before) fun _ => ?_
    refine Program.Triple.via
      (fun connected w => connected = true ∧ Stalling (started + delay) first w.socket)
      (.act fun w before => connect_stalling before) fun connected => .assume fun made => ?_
    subst made
    exact .pure fun _ stalling => stalling
  have met : Program.Triple
      (fun w => Awaited started delay first w.socket)
      (reach platform options started) (fun _ _ => False)
      (fun _ w => w.socket.clock = started + delay + first + 1000) := by
    rw [reach, through]
    refine (triple_of_succeeds connects).bind fun _ => ?_
    exact (chooseMethod_stalling positive some_time (by omega) (by rw [← counted]; congr 4; omega) epoch few
      last platform proxy).bind fun _ => fun _ never => never.elim
  refine Program.Triple.via
    (fun now w => now = started ∧ w.socket.clock = started ∧ Offering started delay first w.socket)
    (.read fun _ start => ⟨start.1, start⟩) fun now => .assume fun same => ?_
  subst same
  refine (triple_of_succeeds (remaining_at positive (by omega) fun w start => start.1)).bind fun left =>
    .assume fun whole => ?_
  rw [sub_self, sub_zero] at whole
  rw [← whole] at counted_first
  refine Program.Triple.via
    (fun _ w => Awaited now delay first w.socket)
    (.change fun w start => ?_) fun _ => met.bind fun _ => fun _ never => never.elim
  have timed := setTimeouts_timed some_seconds counted_first w.socket
  refine ⟨⟨start.2.connects, ?_⟩, ?_⟩
  · exact { start.2.stalling with
      calm := ⟨start.2.stalling.calm.idle, start.2.stalling.calm.collected⟩ }
  · rw [timed.sendTimeout]
    exact allowed

end Tardy

/-- The options of a dial through a proxy whose timers are bounded by its budget alone. -/
def ProxyTarget.dialed (proxy : ProxyTarget) (total : Int) : DialOptions where
  proxy := some proxy
  connectTimeoutMs := 2147482648
  totalTimeoutMs := total

/-- Up to the second of the deadline; or to the one before, where no timer runs as long. -/
def connectDelay (started : Nat) (total : Int) : Nat :=
  let wait := 1000 * ((started + total.toNat) / 1000) - started
  if wait ≤ 2147483000 then wait else wait - 1000

/-- Connects late, and sends one byte at the end of the second that the deadline is in. -/
def tardyPeer (started : Nat) (total : Int) : Peer where
  clock := started
  incoming := [0x05]
  connects := [⟨connectDelay started total, .connected⟩]
  reads := [
    .done (1000 * ((started + total.toNat) / 1000) + 999 - (started + connectDelay started total)) (.bytes 1),
    .done 1001 (.bytes 1)]
  writes := []
  waits := []
  tls := slowTls 0

theorem seconds_toNat {left : Nat} (positive : 0 < left) (small : left + 999 < 2 ^ 31) :
    (seconds left).toNat = (left + 999) / 1000 := by
  have covers := (seconds_bounds (show 0 < (left : Int) by omega) (by omega)).1
  have rounded := (seconds_le (show -2 ^ 31 ≤ (left : Int) by omega)).2.2
  generalize seconds left = counted at covers rounded ⊢
  omega

/-- The connect of a tardy peer leaves at most two seconds, and its timer runs past the second of the deadline. -/
theorem connectDelay_early (started : Nat) {budget : Nat} (positive : 0 < budget)
    (whole : (started + budget) % 1000 ≠ 0) (last : (started + budget) % 1000 ≠ 999)
    (small : budget < 2 ^ 31) :
    connectDelay started budget < budget ∧ budget - connectDelay started budget ≤ 1998 ∧
      (started + connectDelay started budget) / 1000 + (budget - connectDelay started budget + 999) / 1000 =
        (started + budget) / 1000 + 1 := by
  obtain ⟨delay, waits⟩ : ∃ delay, connectDelay started budget = delay := ⟨_, rfl⟩
  rw [waits]
  simp only [connectDelay, Int.toNat_natCast] at waits
  split at waits <;> omega

/-- The timer of the connect itself has not run out by then. -/
theorem connectDelay_allowed (started : Nat) {budget : Nat} (positive : 0 < budget) (small : budget < 2 ^ 31) :
    connectDelay started budget ≤ (min 2147482648 budget + 999) / 1000 * 1000 := by
  obtain ⟨delay, waits⟩ : ∃ delay, connectDelay started budget = delay := ⟨_, rfl⟩
  rw [waits]
  simp only [connectDelay, Int.toNat_natCast] at waits
  split at waits <;> omega

theorem handshakeEnd_tardyPeer (platform : Platform) (proxy : ProxyTarget) {started : Nat} {total : Int}
    (positive : 0 < total) (int : IsInt total) (within : ¬ EndsWithSecond started total) :
    handshakeEnd platform (proxy.dialed total) (tardyPeer started total) =
      1000 * ((started + total.toNat) / 1000) + 1999 := by
  lift total to ℕ using positive.le with budget
  obtain ⟨-, below⟩ := int
  obtain ⟨whole, last, near⟩ : ¬ ((started : Int) + budget) % 1000 = 0 ∧
      ¬ ((started : Int) + budget) % 1000 = 999 ∧ ¬ 2 ^ 32 ≤ ((started : Int) + budget) / 1000 + 1 := by
    simpa only [EndsWithSecond, not_or] using within
  have small : budget < 2 ^ 31 := by omega
  have some_budget : 0 < budget := by omega
  have allowed := connectDelay_allowed started some_budget small
  obtain ⟨early, soon, timer⟩ := connectDelay_early started some_budget (by omega) (by omega) small
  obtain ⟨delay, delayed⟩ : ∃ delay, connectDelay started budget = delay := ⟨_, rfl⟩
  rw [delayed] at allowed early soon timer
  have left : min 2147482648 ((budget : Int) - delay) = (budget - delay : Nat) := by omega
  have least : min 2147482648 (budget : Int) = (min 2147482648 budget : Nat) := by omega
  have some_seconds : 0 < (min 2147482648 budget + 999) / 1000 := by omega
  have some_time : 0 < (budget - delay + 999) / 1000 := by omega
  have epoch : (started + delay) / 1000 + (budget - delay + 999) / 1000 < 2 ^ 32 := by omega
  have few : (budget - delay + 999) / 1000 ≤ 2147484 := by omega
  obtain ⟨first, found⟩ : ∃ first, 1000 * ((started + budget) / 1000) + 999 - (started + delay) = first :=
    ⟨_, rfl⟩
  have heard : started + delay + first = 1000 * ((started + budget) / 1000) + 999 := by omega
  have last : (started + delay + first) / 1000 + 1 =
      (started + delay) / 1000 + (budget - delay + 999) / 1000 := by omega
  obtain ⟨some_first, small_first⟩ : 0 < min 2147482648 budget ∧ min 2147482648 budget + 999 < 2 ^ 31 := by
    omega
  obtain ⟨some_left, small_left⟩ : 0 < budget - delay ∧ budget - delay + 999 < 2 ^ 31 := by omega
  have counted := seconds_toNat some_left small_left
  have counted_first := seconds_toNat some_first small_first
  rw [← left] at counted
  rw [← least] at counted_first
  have ends := dialProxy_stalling (proxy.dialed budget) started platform rfl positive
    some_seconds allowed counted_first (Int.ofNat_lt.mpr early) some_time counted epoch few last
    (tardyPeer started budget).world ⟨rfl, ?_, ?_⟩
  · rw [handshakeEnd]
    rcases ran : (dialProxy platform (proxy.dialed budget)).run (tardyPeer started budget).world with
      ⟨error | returned, w⟩
    · rw [ran] at ends
      have late : w.socket.clock = started + delay + first + 1000 := ends
      rw [late, heard]
      rfl
    · rw [ran] at ends
      exact ends.elim
  · rw [← delayed]
    rfl
  · refine ⟨rfl, ⟨rfl, rfl⟩, ?_, rfl, ?_, rfl, rfl⟩
    · rw [← delayed]
      rfl
    · rw [← found, ← delayed]
      rfl

/-- The deadline of a handshake holds to within a second just where rounding up to seconds adds no more. -/
theorem handshakeEnd_le_iff (platform : Platform) (proxy : ProxyTarget) (started : Nat) {total : Int}
    (positive : 0 < total) (int : IsInt total) :
    (∀ options peer, options.proxy = some proxy → options.totalTimeoutMs = total →
      IsInt options.connectTimeoutMs → peer.clock = started →
      (handshakeEnd platform options peer : Int) ≤ started + total + 1000) ↔
      EndsWithSecond started total := by
  constructor
  · intro within
    by_contra between
    have late := within (proxy.dialed total) (tardyPeer started total) rfl rfl
      (show IsInt 2147482648 from ⟨by decide, by decide⟩) rfl
    rw [handshakeEnd_tardyPeer platform proxy positive int between] at late
    simp only [EndsWithSecond, not_or] at between
    omega
  · rintro ends options peer - rfl connect rfl
    have begun : Unhurried (peer.clock + options.totalTimeoutMs + 1000) peer.world := by
      refine ⟨⟨rfl, rfl⟩, ?_⟩
      have now : peer.world.socket.clock = peer.clock := rfl
      rw [NoLater, now]
      omega
    have punctual := dialProxy_noLater positive connect.1 ends platform peer.world ⟨rfl, begun⟩
    rw [handshakeEnd]
    rcases ran : (dialProxy platform options).run peer.world with ⟨error | returned, w⟩
    all_goals
      rw [ran] at punctual
      exact punctual

theorem handshakeEnd_le_iff_blank :
    (∀ options peer, options.proxy = some ⟨[], 1080, true, [], [], false⟩ → options.totalTimeoutMs = 1000 →
      IsInt options.connectTimeoutMs → peer.clock = 0 →
      (handshakeEnd Platform.blank options peer : Int) ≤ (0 : Nat) + 1000 + 1000) ∧
    ¬ ∀ options peer, options.proxy = some ⟨[], 1080, true, [], [], false⟩ → options.totalTimeoutMs = 1500 →
      IsInt options.connectTimeoutMs → peer.clock = 0 →
      (handshakeEnd Platform.blank options peer : Int) ≤ (0 : Nat) + 1500 + 1000 := by
  constructor
  · apply (handshakeEnd_le_iff Platform.blank ⟨[], 1080, true, [], [], false⟩ 0 (by decide)
      ⟨by decide, by decide⟩).mpr
    exact .inl (by decide)
  · intro within
    rcases (handshakeEnd_le_iff Platform.blank ⟨[], 1080, true, [], [], false⟩ 0 (by decide)
      ⟨by decide, by decide⟩).mp within with whole | last | far
    · exact absurd whole (by decide)
    · exact absurd last (by decide)
    · exact absurd far (by decide)

/-- One byte of the method reply at the end of the second that the timer ends with, and no more. -/
def waveringPeer : Peer where
  clock := 0
  incoming := [0x05]
  connects := []
  reads := [.done 1999 (.bytes 1), .done 60000 (.bytes 1)]
  writes := []
  waits := []
  tls := slowTls 0

theorem handshakeEnd_wavering :
    handshakeEnd Platform.blank
      { proxy := some ⟨[], 1080, true, [], [], false⟩, totalTimeoutMs := 1500 } waveringPeer = 2999 ∧
    ¬ (handshakeEnd Platform.blank
      { proxy := some ⟨[], 1080, true, [], [], false⟩, totalTimeoutMs := 1500 } waveringPeer : Int) ≤
      waveringPeer.clock + 1500 + 1000 := by
  have late : handshakeEnd Platform.blank
      { proxy := some ⟨[], 1080, true, [], [], false⟩, totalTimeoutMs := 1500 } waveringPeer = 2999 := by
    decide +kernel
  refine ⟨late, ?_⟩
  rw [late]
  decide

end LuaXENetwork
