import LuaXENetwork.Proof.Dial.Limit
import LuaXENetwork.Proof.Socket.Paced

/-! The time of a dial with a total timeout, whatever the pace of its peer. -/

namespace LuaXENetwork
open Library Dialing BaseSock

def IsInt (n : Int) : Prop := -2 ^ 31 ≤ n ∧ n < 2 ^ 31

theorem seconds_le {milliseconds : Int} (int : -2 ^ 31 ≤ milliseconds) :
    0 < seconds milliseconds ∧ seconds milliseconds ≤ 2147483 ∧
      1000 * seconds milliseconds ≤ max 1000 (milliseconds + 999) := by
  have below : toInt32 (milliseconds + 999) ≤ milliseconds + 999 ∧
      toInt32 (milliseconds + 999) < 2 ^ 31 := by
    rw [toInt32]
    omega
  rw [seconds]
  generalize toInt32 (milliseconds + 999) = rounded at below ⊢
  rcases lt_or_ge rounded 0 with negative | positive
  · have none_left := Int.tdiv_le_tdiv (show (0 : Int) < 1000 by omega) negative.le
    rw [Int.zero_tdiv] at none_left
    omega
  · rw [Int.tdiv_eq_ediv_of_nonneg positive]
    omega

/-! ## Without TLS -/

/-- Each wait of the dial is over by then: the budget, and what rounding up to seconds adds. -/
def Punctual (options : DialOptions) (started : Nat) (w : DialWorld) : Prop :=
  (w.socket.clock : Int) ≤ started + options.totalTimeoutMs + 1998

structure Going (options : DialOptions) (started : Nat) (w : DialWorld) : Prop where
  calm : Calm w.socket
  punctual : Punctual options started w

/-- Both timers end before the budget does, but for the rounding. -/
structure Budgeted (options : DialOptions) (started : Nat) (w : DialWorld) : Prop
    extends Going options started w where
  recvAutomatic : w.socket.recvTimerAutomatic = true
  sendAutomatic : w.socket.sendTimerAutomatic = true
  recvTimeout : (w.socket.clock : Int) + (1000 * w.socket.recvTimeoutSeconds + 999) ≤
    started + options.totalTimeoutMs + 1998
  sendTimeout : (w.socket.clock : Int) + (1000 * w.socket.sendTimeoutSeconds + 999) ≤
    started + options.totalTimeoutMs + 1998

section Bound

variable {options : DialOptions} {started : Nat} (positive : 0 < options.totalTimeoutMs)
  (int : -2 ^ 31 ≤ options.connectTimeoutMs)

theorem setTimeouts_budgeted {left : Int} :
    Program.Triple
      (fun w => Going options started w ∧ -2 ^ 31 ≤ left ∧
        (w.socket.clock : Int) < started + options.totalTimeoutMs ∧
        w.socket.clock + left ≤ started + options.totalTimeoutMs)
      (setTimeouts (seconds left)) (fun _ => Budgeted options started)
      (fun _ => Punctual options started) := by
  refine .change fun w before => ?_
  obtain ⟨going, int, early, fits⟩ := before
  obtain ⟨some_second, -, rounded⟩ := seconds_le int
  have recvTimeout := newTimeout_seconds w.socket.recvTimeoutSeconds some_second
  have sendTimeout := newTimeout_seconds w.socket.sendTimeoutSeconds some_second
  refine ⟨⟨⟨going.calm.idle, going.calm.collected⟩, going.punctual⟩, rfl, rfl, ?_, ?_⟩
  · simp only [setRecvTimeoutSeconds, setSendTimeoutSeconds, recvTimeout]
    omega
  · simp only [setRecvTimeoutSeconds, setSendTimeoutSeconds, sendTimeout]
    omega

include positive int

theorem remaining_going :
    Program.Triple (Going options started) (remaining options started)
      (fun left w => Going options started w ∧ -2 ^ 31 ≤ left ∧
        (w.socket.clock : Int) < started + options.totalTimeoutMs ∧
        w.socket.clock + left ≤ started + options.totalTimeoutMs)
      (fun _ => Punctual options started) :=
  (remaining_unhurried positive int).weaken (fun _ going => ⟨going.calm, going.punctual⟩)
    (fun _ _ before => ⟨⟨before.1.calm, before.1.noLater⟩, before.2⟩) fun _ _ late => late

theorem arm_budgeted :
    Program.Triple (Going options started) (arm options started) (fun _ => Budgeted options started)
      (fun _ => Punctual options started) :=
  (remaining_going positive int).bind fun _ => setTimeouts_budgeted

omit positive int in
theorem Budgeted.limited {w : DialWorld} (budgeted : Budgeted options started w) :
    Limited (started + options.totalTimeoutMs + 1998) w where
  calm := budgeted.calm
  noLater := budgeted.punctual
  sends data := by
    have ends := send_clock_le budgeted.calm budgeted.sendAutomatic data
    have timeout := budgeted.sendTimeout
    omega
  receives length minLength := by
    have ends := receive_clock_le budgeted.calm budgeted.recvAutomatic length minLength
    have timeout := budgeted.recvTimeout
    omega

theorem arm_limited :
    Program.Triple (Unhurried (started + options.totalTimeoutMs + 1998)) (arm options started)
      (fun _ => Limited (started + options.totalTimeoutMs + 1998))
      (fun _ => NoLater (started + options.totalTimeoutMs + 1998)) :=
  (arm_budgeted positive int).weaken (fun _ unhurried => ⟨unhurried.calm, unhurried.noLater⟩)
    (fun _ _ budgeted => budgeted.limited) fun _ _ late => late

/-- TLS is off, or the proxy cannot be asked for the target. -/
def NeverSecured (platform : Platform) (options : DialOptions) : Prop :=
  options.ssl = false ∨ ∃ proxy error, options.proxy = some proxy ∧
    connectRequest platform proxy options.host options.port = .error error

omit positive int in
theorem connectTo_budgeted (platform : Platform) (host : WString) (port : Nat) (code : String) :
    Program.Triple (Budgeted options started) (connectTo platform host port code)
      (fun _ => Unhurried (started + options.totalTimeoutMs + 1998)) (fun _ => Punctual options started) := by
  refine (connectTo_unhurried platform host port code).weaken (fun w before => ?_)
    (fun _ _ unhurried => unhurried) fun _ _ late => late
  have ends := connect_clock_le w.socket
  have timeout := before.sendTimeout
  refine ⟨before.calm, ?_⟩
  omega

theorem reach_going (platform : Platform) :
    Program.Triple (Budgeted options started) (reach platform options started)
      (fun _ w => Punctual options started w ∧ (NeverSecured platform options → options.ssl = false))
      (fun _ => Punctual options started) := by
  unfold reach
  cases through : options.proxy with
  | none =>
      refine (connectTo_budgeted platform _ _ _).weaken (fun _ start => start)
        (fun _ w unhurried => ⟨unhurried.noLater, fun never => ?_⟩) fun _ _ late => late
      rcases never with plain | ⟨proxy, error, some_proxy, -⟩
      · exact plain
      · cases through.symm.trans some_proxy
  | some proxy =>
      refine (connectTo_budgeted platform _ _ _).bind fun _ =>
        (socks5Handshake_unhurried (arm_limited positive int) platform proxy _ _).weaken
          (fun _ start => start) (fun _ w before => ⟨before.1.noLater, fun never => ?_⟩)
          fun _ _ late => late
      obtain ⟨-, request, encoded⟩ := before
      rcases never with plain | ⟨proxy', error, some_proxy, refused⟩
      · exact plain
      · cases through.symm.trans some_proxy
        cases encoded.symm.trans refused

theorem dial_going (platform : Platform) (answers : TlsAnswers) (never : NeverSecured platform options) :
    Program.Triple (fun w => w.socket.clock = started ∧ Going options started w)
      (dial platform options answers) (fun _ => Punctual options started)
      (fun _ => Punctual options started) := by
  refine Program.Triple.via (fun now w => now = started ∧ Going options started w)
    (.read fun _ start => start) fun now => .assume fun same => ?_
  subst same
  refine (remaining_going positive int).bind fun left => setTimeouts_budgeted.bind fun _ =>
    (reach_going positive int platform).bind fun _ => ?_
  intro w before
  rw [before.2 never]
  exact before.1

/-- A dial that never comes to TLS is over in time. -/
theorem dial_punctual (platform : Platform) (answers : TlsAnswers) (never : NeverSecured platform options)
    {w : DialWorld} (calm : Calm w.socket) :
    Punctual options w.socket.clock ((dial platform options answers).run w).2 := by
  have begun : Going options w.socket.clock w := by
    refine ⟨calm, ?_⟩
    simp only [Punctual]
    omega
  have ends := dial_going positive int platform answers never w ⟨rfl, begun⟩
  rcases ran : (dial platform options answers).run w with ⟨error | connection, w'⟩
  all_goals
    rw [ran] at ends
    exact ends

end Bound

/-! ## With TLS -/

/-- What a dial meets with: how its peer answers, and when. -/
structure Peer where
  clock : Nat
  incoming : Bytes
  connects : List ConnectAnswer
  reads : List IoAnswer
  writes : List IoAnswer
  waits : List WaitAnswer
  tls : TlsAnswers

/-- `Dial` makes a socket of its own. -/
def Peer.world (peer : Peer) : DialWorld where
  socket := {
    clock := peer.clock
    incoming := peer.incoming
    connects := peer.connects
    reads := peer.reads
    writes := peer.writes
    waits := peer.waits }

/-- When `Dial` returns or throws. -/
def dialEnd (platform : Platform) (options : DialOptions) (peer : Peer) : Nat :=
  ((dial platform options peer.tls).run peer.world).2.socket.clock

abbrev wantsMore : ContextAnswer := { status := secIContinueNeeded }

section Slow

variable {clock rounds : Nat} (epoch : clock / 1000 + 2147484 < 2 ^ 32)

def Slow (clock rounds : Nat) (w : DialWorld) : Prop := Paced clock [] rounds w.socket ∧ Timed w.socket

theorem answerRound_slow (platform : Platform) (n : Negotiation) :
    Succeeds (Slow clock rounds) (answerRound platform n wantsMore) fun roundEnd w =>
      roundEnd = .again { n with scRet := secIContinueNeeded, cbIoBuffer := 0 } ∧ Slow clock rounds w :=
  fun _ slow => ⟨rfl, slow⟩

include epoch

theorem receive_slow {length : Nat} (room : 0 < length) (small : length < 2 ^ 32) :
    Succeeds (Slow clock (rounds + 1)) (Dialing.receive length 1) fun answer w =>
      (∃ data, answer = some data ∧ data ≠ []) ∧ Slow (clock + 1000) rounds w := by
  refine .act fun w before => ?_
  obtain ⟨data, s', received, some_bytes, moved, still⟩ := receive_late before.2 epoch before.1 room small
  rw [received]
  exact ⟨⟨data, rfl, some_bytes⟩, moved, still⟩

theorem readServer_slow :
    Succeeds (Slow clock (rounds + 1)) (readServer ⟨secIContinueNeeded, 0, true⟩) fun n w =>
      (∃ count, n = some ⟨secIContinueNeeded, count, true⟩) ∧ Slow (clock + 1000) rounds w := by
  unfold readServer
  rw [if_pos (.inl rfl), if_pos rfl]
  refine (receive_slow epoch (by decide) (by decide)).bind fun answer => .assume fun read => ?_
  obtain ⟨data, rfl, some_bytes⟩ := read
  refine Program.Triple.via (fun _ => Slow (clock + 1000) rounds) (.change fun _ slow => slow) fun _ => ?_
  rw [Option.getD_some, if_neg some_bytes]
  exact .pure fun _ slow => ⟨⟨_, rfl⟩, slow⟩

theorem negotiateRound_slow (platform : Platform) :
    Succeeds (Slow clock (rounds + 1))
      (negotiateRound platform ⟨secIContinueNeeded, 0, true⟩ wantsMore) fun roundEnd w =>
        roundEnd = .again ⟨secIContinueNeeded, 0, true⟩ ∧ Slow (clock + 1000) rounds w := by
  refine (readServer_slow epoch).bind fun n => .assume fun read => ?_
  obtain ⟨count, rfl⟩ := read
  exact answerRound_slow platform _

omit epoch in
theorem negotiateLoop_slow (platform : Platform)
    (epoch : (clock + 1000 * rounds) / 1000 + 2147484 < 2 ^ 32) :
    Succeeds (Slow clock rounds)
      (negotiateLoop platform (List.replicate rounds wantsMore) ⟨secIContinueNeeded, 0, true⟩)
      fun _ w => w.socket.clock = clock + 1000 * rounds := by
  induction rounds generalizing clock with
  | zero => exact .pure fun w slow => slow.1.clock
  | succ rounds ih =>
      rw [List.replicate_succ, negotiateLoop]
      rw [if_pos (by decide)]
      refine (negotiateRound_slow (by omega) platform).bind fun roundEnd => .assume fun again => ?_
      subst again
      have further : clock + 1000 * (rounds + 1) = clock + 1000 + 1000 * rounds := by omega
      rw [further] at epoch ⊢
      exact ih epoch

/-- The answers of a peer that has never said enough. -/
def slowTls (rounds : Nat) : TlsAnswers where
  first := wantsMore
  answers := List.replicate rounds wantsMore

omit epoch in
theorem initializeTls_slow (platform : Platform) (epoch : (clock + 1000 * rounds) / 1000 + 2147484 < 2 ^ 32) :
    Succeeds (Slow clock rounds) (initializeTls platform (slowTls rounds))
      fun _ w => w.socket.clock = clock + 1000 * rounds := by
  have settled (f : SslClient → SslClient) : Succeeds (fun w => w.socket.clock = clock + 1000 * rounds)
      (changeTls f) fun _ w => w.socket.clock = clock + 1000 * rounds := .change fun _ late => late
  have starts : ¬ isFailure (slowTls rounds).startup = true := by
    change ¬ isFailure secEOk = true
    decide
  have continues : (slowTls rounds).first.status = secIContinueNeeded := rfl
  have negotiated : Succeeds (Slow clock rounds) (sspiNegotiateLoop platform (slowTls rounds))
      fun _ w => w.socket.clock = clock + 1000 * rounds := by
    unfold sspiNegotiateLoop
    rw [if_neg (not_not.mpr continues)]
    refine Program.Triple.via (fun sent w => sent = none ∧ Slow clock rounds w)
      (.pure fun _ slow => ⟨rfl, slow⟩) fun sent => .assume fun unsent => ?_
    subst unsent
    refine (negotiateLoop_slow platform epoch).bind fun result => ?_
    dsimp only
    split
    · exact (settled _).bind fun _ => .pure fun _ late => late
    · exact .pure fun _ late => late
  unfold initializeTls
  rw [if_neg starts]
  refine Program.Triple.via (fun _ => Slow clock rounds) (.change fun _ slow => slow) fun _ =>
    negotiated.bind fun status => ?_
  split
  · exact .pure fun _ late => late
  · exact (settled _).bind fun _ => .pure fun _ late => late

end Slow

section Reached

variable {options : DialOptions} {started rounds : Nat} {soon : Bytes}
  (positive : 0 < options.totalTimeoutMs) (int : IsInt options.connectTimeoutMs)

theorem timed_of_seconds {left : Int} (int : -2 ^ 31 ≤ left) (s : BaseSock) :
    Timed ((s.setSendTimeoutSeconds (seconds left)).setRecvTimeoutSeconds (seconds left)) := by
  obtain ⟨some_second, few, -⟩ := seconds_le int
  have recvTimeout := newTimeout_seconds s.recvTimeoutSeconds some_second
  have sendTimeout := newTimeout_seconds s.sendTimeoutSeconds some_second
  refine ⟨rfl, rfl, ?_, ?_⟩
  · simp only [setRecvTimeoutSeconds, setSendTimeoutSeconds, recvTimeout]
    omega
  · simp only [setRecvTimeoutSeconds, setSendTimeoutSeconds, sendTimeout]
    omega

/-- The connection that `Connect` is about to make. -/
def Offered (clock : Nat) (soon : Bytes) (late : Nat) (w : DialWorld) : Prop :=
  w.socket.connects = [] ∧ Paced clock soon late { w.socket with isOpen := true }

include positive int

omit int in
theorem remaining_at {time : Nat} (early : (time : Int) - started < options.totalTimeoutMs)
    {before : DialWorld → Prop} (now : ∀ w, before w → w.socket.clock = time) :
    Succeeds before (remaining options started) fun left w =>
      left = min options.connectTimeoutMs (options.totalTimeoutMs - (time - started)) ∧ before w := by
  unfold remaining
  rw [if_neg (not_le.mpr positive)]
  refine Program.Triple.via (fun clock w => clock = time ∧ before w)
    (.read fun w start => ⟨now w start, start⟩) fun clock => .assume fun same => ?_
  subst same
  dsimp only
  rw [if_neg (by omega)]
  exact .pure fun w start => ⟨rfl, start⟩

theorem remaining_now {before : DialWorld → Prop} (now : ∀ w, before w → w.socket.clock = started) :
    Succeeds before (remaining options started) fun left w => -2 ^ 31 ≤ left ∧ before w := by
  refine (remaining_at positive (by omega) now).weaken (fun _ start => start) (fun left w ends => ?_)
    fun _ _ never => never
  refine ⟨?_, ends.2⟩
  rw [ends.1]
  exact le_min int.1 (by omega)

theorem arm_paced :
    Succeeds (fun w => Paced started soon rounds w.socket) (arm options started) fun _ w =>
      Paced started soon rounds w.socket ∧ Timed w.socket := by
  refine (remaining_now positive int fun w paced => paced.clock).bind fun left =>
    .assume fun int => .change fun w paced => ⟨?_, timed_of_seconds int w.socket⟩
  exact { paced with calm := ⟨paced.calm.idle, paced.calm.collected⟩ }

theorem carrier_paced (epoch : started / 1000 + 2147484 < 2 ^ 32) :
    Carrier options started (fun stream w => Paced started stream rounds w.socket) fun _ _ => False where
  tells stream bytes what small := by
    refine (arm_paced positive int).bind fun _ => ?_
    refine Program.Triple.via
      (fun _ w => Paced started stream rounds w.socket ∧ Timed w.socket)
      (.change fun _ before => before) fun _ => ?_
    refine Program.Triple.via
      (fun sent w => sent = some bytes.length ∧ Paced started stream rounds w.socket) ?_
      fun sent => .assume fun whole => ?_
    · refine .act fun w before => ?_
      obtain ⟨s', sent, moved⟩ := send_soon before.2 epoch before.1 small
      rw [sent]
      exact ⟨rfl, moved⟩
    · rw [if_neg (not_not.mpr whole)]
      exact .pure fun _ paced => paced
  hears data rest what some_bytes small := by
    have counted : data.length ≠ 0 := by simpa using some_bytes
    rw [recvExact, if_neg counted]
    refine (arm_paced positive int).bind fun _ => ?_
    refine Program.Triple.via (fun got w => got = some data ∧ Paced started rest rounds w.socket) ?_
      fun got => .assume fun whole => ?_
    · refine .act fun w before => ?_
      obtain ⟨s', received, moved⟩ := receive_soon before.2 epoch before.1 small
      rw [received]
      exact ⟨rfl, moved⟩
    · subst whole
      unfold takeExact
      refine (Program.Triple.look _).bind fun error => ?_
      dsimp only
      rw [if_neg (not_not.mpr rfl)]
      exact Program.Triple.via (fun _ w => Paced started rest rounds w.socket) (.change fun _ paced => paced)
        fun _ => .pure fun _ paced => ⟨rfl, paced⟩

omit positive int in
theorem connect_paced {s : BaseSock} (at_once : s.connects = [])
    (paced : Paced started soon rounds { s with isOpen := true }) :
    s.connect.1 = true ∧ Paced started soon rounds s.connect.2 := by
  have first : s.connects.headD ⟨0, .connected⟩ = ⟨0, .connected⟩ := by rw [at_once, List.headD_nil]
  have idle : s.outstanding = [] := paced.calm.idle
  rw [BaseSock.connect, first]
  dsimp only
  rw [if_neg (Nat.not_lt_zero _), runTo_nil (s := { s with connects := s.connects.tail }) idle]
  refine ⟨rfl, ⟨rfl, ⟨idle, paced.calm.collected⟩, ?_, paced.incoming, paced.reads, paced.writes,
    paced.waits⟩⟩
  have now : s.clock = started := paced.clock
  simp [now]

omit positive int in
theorem connectTo_paced (platform : Platform) (host : WString) (port : Nat) (code : String) :
    Succeeds (Offered started soon rounds) (connectTo platform host port code) fun _ w =>
      Paced started soon rounds w.socket := by
  refine Program.Triple.via (fun _ => Offered started soon rounds) (.change fun _ offered => offered)
    fun _ => ?_
  refine Program.Triple.via (fun connected w => connected = true ∧ Paced started soon rounds w.socket)
    (.act fun w offered => connect_paced offered.1 offered.2) fun connected => .assume fun made => ?_
  subst made
  exact .pure fun _ paced => paced

/-- What a proxy says that lets everyone through. -/
def welcome (options : DialOptions) : Bytes :=
  if options.proxy.isSome then [0x05, 0x00, 0x05, 0x00, 0x00, 0x01, 0, 0, 0, 0, 0, 0] else []

theorem reach_paced (platform : Platform) (epoch : started / 1000 + 2147484 < 2 ^ 32)
    (encoded : ∀ proxy, options.proxy = some proxy →
      ∃ request, connectRequest platform proxy options.host options.port = .ok request) :
    Succeeds (Offered started (welcome options) rounds) (reach platform options started) fun _ w =>
      Paced started [] rounds w.socket := by
  unfold reach welcome
  cases through : options.proxy with
  | none => exact connectTo_paced platform _ _ _
  | some proxy =>
      obtain ⟨request, made⟩ := encoded proxy through
      exact (connectTo_paced platform _ _ _).bind fun _ =>
        socks5Handshake_unasked (carrier_paced positive int epoch) platform proxy _ _ made 0x00 .inet
          (show ([0, 0, 0, 0] : Bytes).length = 4 from rfl) (show ([0, 0] : Bytes).length = 2 from rfl) []

omit positive int in
theorem triple_of_succeeds {α : Type} {x : Dialing α} {before : DialWorld → Prop}
    {done : α → DialWorld → Prop} {failed : DialError → DialWorld → Prop}
    (succeeds : Succeeds before x done) :
    Program.Triple before x done failed :=
  succeeds.weaken (fun _ start => start) (fun _ _ ends => ends) fun _ _ never => never.elim

omit positive int in
theorem concludeTls_clock (platform : Platform) (serverName : WString) (result : UInt32) (time : Nat) :
    Program.Triple (fun w => w.socket.clock = time) (concludeTls platform options serverName result)
      (fun _ w => w.socket.clock = time) (fun _ w => w.socket.clock = time) := by
  refine (Program.Triple.look _).bind fun verifier => (Program.Triple.look _).bind fun tls => ?_
  split
  · exact .throw fun _ late => late
  · split
    · exact .throw fun _ late => late
    · exact .pure fun _ late => late

theorem secureConnection_slow (platform : Platform)
    (epoch : (started + 1000 * rounds) / 1000 + 2147484 < 2 ^ 32) :
    Program.Triple (fun w => Paced started [] rounds w.socket)
      (secureConnection platform options (slowTls rounds) started)
      (fun _ w => w.socket.clock = started + 1000 * rounds)
      (fun _ w => w.socket.clock = started + 1000 * rounds) := by
  refine Program.Triple.via (fun _ w => Paced started [] rounds w.socket) (.change fun _ paced => paced)
    fun _ => ?_
  refine (triple_of_succeeds (remaining_now positive int fun w paced => paced.clock)).bind fun left => ?_
  refine Program.Triple.via (fun _ => Slow started rounds) ?_ fun _ =>
    (triple_of_succeeds (initializeTls_slow platform epoch)).bind fun result =>
      concludeTls_clock platform _ result _
  refine .assume fun int => .change fun w paced => ⟨?_, timed_of_seconds int w.socket⟩
  exact { paced with calm := ⟨paced.calm.idle, paced.calm.collected⟩ }

theorem dial_slow (platform : Platform) (secure : options.ssl = true)
    (encoded : ∀ proxy, options.proxy = some proxy →
      ∃ request, connectRequest platform proxy options.host options.port = .ok request)
    (epoch : (started + 1000 * rounds) / 1000 + 2147484 < 2 ^ 32) :
    Program.Triple (fun w => w.socket.clock = started ∧ Offered started (welcome options) rounds w)
      (dial platform options (slowTls rounds))
      (fun _ w => w.socket.clock = started + 1000 * rounds)
      (fun _ w => w.socket.clock = started + 1000 * rounds) := by
  refine Program.Triple.via (fun now w => now = started ∧ Offered started (welcome options) rounds w)
    (.read fun _ start => start) fun now => .assume fun same => ?_
  subst same
  refine (triple_of_succeeds (remaining_now positive int fun w offered => offered.2.clock)).bind fun left =>
    .assume fun _ => ?_
  refine Program.Triple.via (fun _ => Offered now (welcome options) rounds) (.change fun w offered => ?_)
    fun _ => (triple_of_succeeds (reach_paced positive int platform (by omega) encoded)).bind fun _ => ?_
  · exact ⟨offered.1, { offered.2 with calm := ⟨offered.2.calm.idle, offered.2.calm.collected⟩ }⟩
  · rw [secure]
    exact secureConnection_slow positive int platform epoch

end Reached

/-- The peer that lets everyone through, and then sends a byte of its TLS each second. -/
def slowPeer (options : DialOptions) (rounds : Nat) : Peer where
  clock := 0
  incoming := welcome options ++ List.replicate rounds 0
  connects := []
  reads := List.replicate (welcome options).length (.done 0 (.bytes 1)) ++
    List.replicate rounds (.done 1000 (.bytes 1))
  writes := []
  waits := []
  tls := slowTls rounds

/-- The dial outlasts its budget by any number of seconds. -/
theorem dialEnd_slowPeer (platform : Platform) {options : DialOptions}
    (positive : 0 < options.totalTimeoutMs) (int : IsInt options.connectTimeoutMs)
    (comes : ¬ NeverSecured platform options) {rounds : Nat} (epoch : rounds + 2147484 < 2 ^ 32) :
    dialEnd platform options (slowPeer options rounds) = 1000 * rounds := by
  have secure : options.ssl = true := by
    cases plain : options.ssl with
    | false => exact absurd (.inl plain) comes
    | true => rfl
  have encoded (proxy : ProxyTarget) (through : options.proxy = some proxy) :
      ∃ request, connectRequest platform proxy options.host options.port = .ok request := by
    cases made : connectRequest platform proxy options.host options.port with
    | error error => exact absurd (.inr ⟨proxy, error, through, made⟩) comes
    | ok request => exact ⟨request, rfl⟩
  have short : (0 + 1000 * rounds) / 1000 + 2147484 < 2 ^ 32 := by omega
  have ends := dial_slow positive int platform secure encoded short
    (slowPeer options rounds).world ⟨rfl, rfl, ⟨rfl, ⟨rfl, rfl⟩, rfl, rfl, rfl, rfl, rfl⟩⟩
  rw [dialEnd]
  rcases ran : (dial platform options (slowPeer options rounds).tls).run (slowPeer options rounds).world with
    ⟨error | connection, w⟩
  all_goals
    have same : (slowPeer options rounds).tls = slowTls rounds := rfl
    rw [same] at ran
    rw [ran] at ends
    exact ends.trans (Nat.zero_add _)

/-- `total_timeout_ms` is one budget, whatever the peer does, just where no TLS handshake can begin. -/
theorem dialEnd_le_iff (platform : Platform) (options : DialOptions)
    (positive : 0 < options.totalTimeoutMs) (total : IsInt options.totalTimeoutMs)
    (connect : IsInt options.connectTimeoutMs) :
    (∀ peer, (dialEnd platform options peer : Int) ≤ peer.clock + options.totalTimeoutMs + 2000) ↔
      NeverSecured platform options := by
  constructor
  · intro within
    by_contra comes
    have rounds : options.totalTimeoutMs.toNat / 1000 + 3 + 2147484 < 2 ^ 32 := by
      have below := total.2
      omega
    have late := within (slowPeer options (options.totalTimeoutMs.toNat / 1000 + 3))
    rw [dialEnd_slowPeer platform positive connect comes rounds] at late
    have started : (slowPeer options (options.totalTimeoutMs.toNat / 1000 + 3)).clock = 0 := rfl
    omega
  · intro never peer
    have punctual := dial_punctual positive connect.1 platform peer.tls never
      (show Calm peer.world.socket from ⟨rfl, rfl⟩)
    have started : peer.world.socket.clock = peer.clock := rfl
    simp only [Punctual, started] at punctual
    rw [dialEnd]
    omega

theorem dialEnd_le_iff_plain :
    (∀ peer, (dialEnd Platform.blank { totalTimeoutMs := 1000 } peer : Int) ≤ peer.clock + 1000 + 2000) ∧
    ¬ ∀ peer, (dialEnd Platform.blank { ssl := true, totalTimeoutMs := 1000 } peer : Int) ≤
      peer.clock + 1000 + 2000 := by
  have total : IsInt 1000 := ⟨by decide, by decide⟩
  have connect : IsInt 30000 := ⟨by decide, by decide⟩
  refine ⟨?_, fun within => ?_⟩
  · exact (dialEnd_le_iff Platform.blank { totalTimeoutMs := 1000 } (by decide) total connect).mpr (.inl rfl)
  · rcases (dialEnd_le_iff Platform.blank { ssl := true, totalTimeoutMs := 1000 } (by decide) total
      connect).mp within with plain | ⟨proxy, error, through, -⟩
    · exact absurd plain (by decide)
    · cases through

/-- Four bytes of a `ServerHello`, each almost a second after the one before. -/
def hesitantPeer : Peer where
  clock := 0
  incoming := [0x16, 0x03, 0x03, 0x00]
  connects := []
  reads := List.replicate 4 (.done 999 (.bytes 1))
  writes := []
  waits := []
  tls := {
    first := { status := secIContinueNeeded, token := [0x16, 0x03, 0x03] }
    answers := List.replicate 4 { status := secEIncompleteMessage } }

theorem dialEnd_hesitant :
    dialEnd Platform.blank { ssl := true, totalTimeoutMs := 1000 } hesitantPeer = 3996 ∧
    ¬ (dialEnd Platform.blank { ssl := true, totalTimeoutMs := 1000 } hesitantPeer : Int) ≤
      hesitantPeer.clock + 1000 + 2000 := by
  have late : dialEnd Platform.blank { ssl := true, totalTimeoutMs := 1000 } hesitantPeer = 3996 := by
    decide +kernel
  refine ⟨late, ?_⟩
  rw [late]
  decide

end LuaXENetwork
