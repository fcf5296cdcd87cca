import LuaXENetwork.Dial.Dial
import LuaXENetwork.Library.Alike
import LuaXENetwork.Proof.Socket.Mirror

/-! Two dials that differ in the credentials differ in nothing else. -/

namespace LuaXENetwork
open Library Dialing

def SameByte (message message' : Bytes) (b b' : UInt8) : Prop :=
  b = b' ∨ ∃ i : Nat, message[i]? = some b ∧ message'[i]? = some b'

def SameEvent (message message' : Bytes) (event event' : DialEvent) : Prop :=
  event = event' ∨
    (event = .writing "credentials" message ∧ event' = .writing "credentials" message')

structure SameWorld (message message' : Bytes) (w w' : DialWorld) : Prop where
  socket : BaseSock.Mirrors (SameByte message message') w.socket w'.socket
  tls : w.tls = w'.tls
  verifier : w.verifier = w'.verifier
  events : List.Forall₂ (SameEvent message message') w.events w'.events

variable {message message' : Bytes}

theorem sameBytes_refl (bytes : Bytes) : List.Forall₂ (SameByte message message') bytes bytes :=
  List.forall₂_same.mpr fun _ _ => .inl rfl

theorem sameBytes_messages (length : message.length = message'.length) :
    List.Forall₂ (SameByte message message') message message' := by
  refine List.forall₂_iff_get.mpr ⟨length, fun i h h' => .inr ⟨i, ?_, ?_⟩⟩
  · exact List.getElem?_eq_getElem h
  · exact List.getElem?_eq_getElem h'

abbrev Blind {α : Type} (message message' : Bytes) (x : Dialing α) : Prop :=
  Program.Alike (SameWorld message message') x x

theorem record_alike {event event' : DialEvent} (same : SameEvent message message' event event') :
    Program.Alike (SameWorld message message') (record event) (record event') :=
  .change fun _ _ worlds => { worlds with events := List.rel_append worlds.events (.cons same .nil) }

theorem record_blind (event : DialEvent) : Blind message message' (record event) :=
  record_alike (.inl rfl)

theorem fail_blind {α : Type} (code : String) (text : Bytes) :
    Blind message message' (fail code text : Dialing α) := .throw _

theorem clock_blind : Blind message message' clock :=
  .read fun _ _ worlds => worlds.socket.clock

theorem lastError_blind : Blind message message' lastError :=
  .read fun _ _ worlds => worlds.socket.lastError

theorem setTimeouts_blind (seconds : Int) : Blind message message' (setTimeouts seconds) :=
  .change fun _ _ worlds => { worlds with
    socket := BaseSock.setTimeouts_mirrors seconds worlds.socket }

theorem connect_blind : Blind message message' Dialing.connect :=
  .act fun _ _ worlds => by
    obtain ⟨same, mirrors⟩ := BaseSock.connect_mirrors worlds.socket
    exact ⟨same, { worlds with socket := mirrors }⟩

theorem send_alike {data data' : Bytes} (same : List.Forall₂ (SameByte message message') data data') :
    Program.Alike (SameWorld message message') (Dialing.send data) (Dialing.send data') :=
  .act fun _ _ worlds => by
    obtain ⟨count, mirrors⟩ := BaseSock.send_mirrors worlds.socket same
    exact ⟨count, { worlds with socket := mirrors }⟩

theorem receive_blind (length minLength : Nat) :
    Blind message message' (Dialing.receive length minLength) :=
  .act fun _ _ worlds => by
    obtain ⟨same, mirrors⟩ := BaseSock.receive_mirrors worlds.socket length minLength
    exact ⟨same, { worlds with socket := mirrors }⟩

theorem changeTls_blind (f : SslClient → SslClient) : Blind message message' (changeTls f) :=
  .change fun _ _ worlds => { worlds with tls := congrArg f worlds.tls }

variable (platform : Platform) (target : ProxyTarget) (options : DialOptions) (started : Nat)
  (host : WString) (port : Nat)

theorem remaining_blind : Blind message message' (remaining options started) := by
  unfold remaining
  split
  · exact .pure _
  · refine .bind clock_blind fun now => ?_
    dsimp only
    split
    · exact .bind (record_blind _) fun _ => fail_blind _ _
    · exact .pure _

theorem arm_blind : Blind message message' (arm options started) :=
  .bind (remaining_blind options started) fun _ => setTimeouts_blind _

/-! ## The SOCKS5 conversation -/

theorem sendAll_alike {bytes bytes' : Bytes} {what : String}
    (same : List.Forall₂ (SameByte message message') bytes bytes')
    (event : SameEvent message message' (.writing what bytes) (.writing what bytes')) :
    Program.Alike (SameWorld message message') (sendAll options started bytes what)
      (sendAll options started bytes' what) := by
  unfold sendAll
  rw [← same.length_eq]
  refine .bind (arm_blind options started) fun _ => .bind (record_alike event) fun _ =>
    .bind (send_alike same) fun sent => ?_
  split
  · exact .bind (record_blind _) fun _ => .bind lastError_blind fun _ => fail_blind _ _
  · exact .pure _

theorem sendAll_blind (bytes : Bytes) (what : String) :
    Blind message message' (sendAll options started bytes what) :=
  sendAll_alike options started (sameBytes_refl bytes) (.inl rfl)

theorem takeExact_blind (count : Nat) (what : String) (answer : Option Bytes) :
    Blind message message' (takeExact count what answer) := by
  refine .bind lastError_blind fun error => ?_
  cases answer with
  | none =>
      refine .bind (record_blind _) fun _ => ?_
      split <;> exact fail_blind _ _
  | some data =>
      dsimp only
      split
      · exact .bind (record_blind _) fun _ => fail_blind _ _
      · exact .bind (record_blind _) fun _ => .pure _

theorem recvExact_blind (count : Nat) (what : String) :
    Blind message message' (recvExact options started count what) := by
  unfold recvExact
  split
  · exact .pure _
  · exact .bind (arm_blind options started) fun _ => .bind (receive_blind _ _) fun answer =>
      takeExact_blind count what answer

theorem chooseMethod_blind : Blind message message' (chooseMethod platform target options started) := by
  refine .bind (sendAll_blind options started _ _) fun _ =>
    .bind (recvExact_blind options started _ _) fun choice => ?_
  dsimp only
  split
  · exact fail_blind _ _
  · split
    · exact fail_blind _ _
    · split
      · exact fail_blind _ _
      · exact .pure _

theorem boundLength_blind (addressType : UInt8) :
    Blind message message' (boundLength platform target options started addressType) := by
  unfold boundLength
  dsimp only
  split
  · exact .pure _
  · split
    · exact .pure _
    · split
      · refine .bind (recvExact_blind options started _ _) fun length => ?_
        split
        · exact fail_blind _ _
        · exact .pure _
      · exact fail_blind _ _

theorem requestConnect_blind :
    Blind message message' (requestConnect platform target options started host port) := by
  refine .bind (.ofExcept _) fun request => .bind (sendAll_blind options started _ _) fun _ =>
    .bind (recvExact_blind options started _ _) fun header => ?_
  dsimp only
  split
  · exact fail_blind _ _
  · split
    · exact fail_blind _ _
    · exact .pure _

/-! ## The TLS handshake -/

section Tls

theorem readServer_blind (n : Negotiation) : Blind message message' (readServer n) := by
  unfold readServer
  split
  · split
    · exact .bind (receive_blind _ _) fun _ => .bind (changeTls_blind _) fun _ => .pure _
    · exact .pure _
  · exact .pure _

theorem acceptServer_blind (answer : ContextAnswer) :
    Blind message message' (acceptServer platform answer) := by
  unfold acceptServer
  split
  · exact .pure _
  · refine .bind (.read fun _ _ worlds => worlds.verifier) fun verifier =>
      .bind (record_blind _) fun _ => .bind (.change fun _ _ worlds => ?_) fun _ => .pure _
    exact { worlds with verifier := rfl }

theorem sendToken_blind (token : Bytes) : Blind message message' (sendToken token) := by
  unfold sendToken
  split
  · exact .pure _
  · exact .bind (record_blind _) fun _ => .bind (send_alike (sameBytes_refl _)) fun _ => .pure _

theorem afterAnswer_blind (n : Negotiation) (answer : ContextAnswer) :
    Blind message message' (afterAnswer n answer) := by
  unfold afterAnswer
  split
  · exact .pure _
  · split
    · split
      · exact .bind (changeTls_blind _) fun _ => .bind (changeTls_blind _) fun _ => .pure _
      · exact .bind (changeTls_blind _) fun _ => .pure _
    · split
      · exact .bind (changeTls_blind _) fun _ => .pure _
      · split
        · split <;> exact .pure _
        · split
          · exact .bind (changeTls_blind _) fun _ => .pure _
          · exact .pure _

theorem answerRound_blind (n : Negotiation) (answer : ContextAnswer) :
    Blind message message' (answerRound platform n answer) := by
  unfold answerRound
  split
  · refine .bind (acceptServer_blind platform answer) fun acceptable => ?_
    split
    · exact .pure _
    · refine .bind (sendToken_blind _) fun sent => ?_
      split
      · exact .pure _
      · exact afterAnswer_blind n answer
  · exact afterAnswer_blind n answer

theorem negotiateLoop_blind (answers : List ContextAnswer) (n : Negotiation) :
    Blind message message' (negotiateLoop platform answers n) := by
  induction answers generalizing n with
  | nil => exact .pure _
  | cons answer answers ih =>
      rw [negotiateLoop]
      split
      · refine .bind (.bind (readServer_blind n) fun read => ?_) fun roundEnd => ?_
        · cases read with
          | none => exact .pure _
          | some n => exact answerRound_blind platform n answer
        · cases roundEnd with
          | returned status => exact .pure _
          | left status => exact .pure _
          | again n => exact ih n
      · exact .pure _

theorem sendFirstToken_blind (token : Bytes) : Blind message message' (sendFirstToken token) := by
  unfold sendFirstToken
  split
  · exact .pure _
  · exact .bind (record_blind _) fun _ => .bind (send_alike (sameBytes_refl _)) fun _ => .pure _

theorem sspiNegotiateLoop_blind (answers : TlsAnswers) :
    Blind message message' (sspiNegotiateLoop platform answers) := by
  unfold sspiNegotiateLoop
  split
  · exact .bind (changeTls_blind _) fun _ => .bind (changeTls_blind _) fun _ => .pure _
  · refine .bind (sendFirstToken_blind _) fun sent => ?_
    cases sent with
    | some status => exact .pure _
    | none =>
        refine .bind (negotiateLoop_blind platform _ _) fun (status, behind) => ?_
        dsimp only
        split
        · exact .bind (changeTls_blind _) fun _ => .pure _
        · exact .pure _

theorem initializeTls_blind (answers : TlsAnswers) :
    Blind message message' (initializeTls platform answers) := by
  unfold initializeTls
  split
  · exact .pure _
  · refine .bind (changeTls_blind _) fun _ =>
      .bind (sspiNegotiateLoop_blind platform answers) fun status => ?_
    split
    · exact .pure _
    · split
      · exact .pure _
      · exact .bind (changeTls_blind _) fun _ => .pure _

theorem concludeTls_blind (serverName : WString) (result : UInt32) :
    Blind message message' (concludeTls platform options serverName result) := by
  refine .bind (.read fun _ _ worlds => worlds.verifier) fun verifier =>
    .bind (.read fun _ _ worlds => worlds.tls) fun tls => ?_
  split
  · exact .throw _
  · split
    · exact fail_blind _ _
    · exact .pure _

theorem secureConnection_blind (answers : TlsAnswers) :
    Blind message message' (secureConnection platform options answers started) := by
  unfold secureConnection
  refine .bind (.change fun _ _ worlds => { worlds with tls := rfl, verifier := rfl }) fun _ =>
    .bind (remaining_blind options started) fun _ => .bind (setTimeouts_blind _) fun _ =>
    .bind (initializeTls_blind platform answers) fun status => ?_
  exact concludeTls_blind platform options _ status

end Tls

/-! ## The two dials -/

theorem connectTo_blind (code : String) :
    Blind message message' (connectTo platform host port code) := by
  refine .bind (record_blind _) fun _ => .bind connect_blind fun connected => ?_
  split
  · exact .bind lastError_blind fun error => fail_blind _ _
  · exact .pure _

section Credentials

variable {user password : Bytes}

/-- The proxy with other credentials. -/
def ProxyTarget.withCredentials (target : ProxyTarget) (user password : Bytes) : ProxyTarget :=
  { target with user := user, password := password }

theorem authentication_length (named : user.length = target.user.length)
    (worded : password.length = target.password.length) :
    (authentication target).length = (authentication (target.withCredentials user password)).length := by
  simp [authentication, ProxyTarget.withCredentials, named, worded]

theorem authenticate_alike (named : user.length = target.user.length)
    (worded : password.length = target.password.length) (method : UInt8) :
    Program.Alike (SameWorld (authentication target)
        (authentication (target.withCredentials user password)))
      (authenticate platform target options started method)
      (authenticate platform (target.withCredentials user password) options started method) := by
  have place : proxyPlace platform (target.withCredentials user password) =
      proxyPlace platform target := rfl
  have given : (target.withCredentials user password).hasCredentials = target.hasCredentials := rfl
  unfold authenticate
  rw [place, given]
  dsimp only
  split
  · exact .pure _
  · split
    · exact fail_blind _ _
    · refine .bind (sendAll_alike options started
          (sameBytes_messages (authentication_length target named worded)) (.inr ⟨rfl, rfl⟩)) fun _ =>
        .bind (recvExact_blind options started _ _) fun verdict => ?_
      split
      · exact fail_blind _ _
      · split
        · exact fail_blind _ _
        · exact .pure _

theorem socks5Handshake_alike (named : user.length = target.user.length)
    (worded : password.length = target.password.length) :
    Program.Alike (SameWorld (authentication target)
        (authentication (target.withCredentials user password)))
      (socks5Handshake platform target options started host port)
      (socks5Handshake platform (target.withCredentials user password) options started host port) :=
  .bind (chooseMethod_blind platform target options started) fun _ =>
    .bind (authenticate_alike platform target options started named worded _) fun _ =>
    .bind (requestConnect_blind platform target options started host port) fun _ =>
    .bind (boundLength_blind platform target options started _) fun _ =>
    .bind (recvExact_blind options started _ _) fun _ =>
    .bind (recvExact_blind options started _ _) fun _ => .pure _

theorem dial_alike {options : DialOptions} (answers : TlsAnswers) (via : options.proxy = some target)
    (named : user.length = target.user.length) (worded : password.length = target.password.length) :
    Program.Alike (SameWorld (authentication target)
        (authentication (target.withCredentials user password))) (dial platform options answers)
      (dial platform { options with proxy := some (target.withCredentials user password) } answers) := by
  refine .bind clock_blind fun started => .bind (remaining_blind options started) fun _ =>
    .bind (setTimeouts_blind _) fun _ => ?_
  rw [reach, reach, via]
  refine .bind (.bind (connectTo_blind platform _ _ _) fun _ =>
    socks5Handshake_alike platform target options started _ _ named worded) fun _ => ?_
  dsimp only
  split
  · exact .pure _
  · exact secureConnection_blind platform options started answers

end Credentials

theorem mirrors_refl (socket : BaseSock) :
    BaseSock.Mirrors (SameByte message message') socket socket := by
  refine .intro (sameBytes_refl _) (List.forall₂_same.mpr fun operation _ => ?_)
  obtain ⟨due, result, target⟩ := operation
  cases target with
  | read buffer offset length => exact .intro _ _ (.read _ _ _)
  | write data => exact .intro _ _ (.write (sameBytes_refl data))

/-- With other credentials of the same lengths a dial ends the same, with the same error if it
fails; what it writes differs in the one message alone. -/
theorem dial_credentials (platform : Platform) (options : DialOptions) (answers : TlsAnswers)
    (socket : BaseSock) (proxy : ProxyTarget) (via : options.proxy = some proxy)
    (user password : Bytes) (named : user.length = proxy.user.length)
    (worded : password.length = proxy.password.length) :
    let other : ProxyTarget := { proxy with user := user, password := password }
    let ends := (dial platform options answers).run { socket := socket }
    let ends' := (dial platform { options with proxy := some other } answers).run { socket := socket }
    ends.1 = ends'.1 ∧
      List.Forall₂ (SameEvent (authentication proxy) (authentication other))
        ends.2.events ends'.2.events ∧
      List.Forall₂ (SameByte (authentication proxy) (authentication other))
        ends.2.socket.sent ends'.2.socket.sent := by
  obtain ⟨same, worlds⟩ := dial_alike platform proxy answers via named worded { socket := socket }
    { socket := socket } ⟨mirrors_refl socket, rfl, rfl, .nil⟩
  exact ⟨same, worlds.events, worlds.socket.sent⟩

/-- A proxy that has asked for the credentials and does not take them. -/
def refusingSocket : BaseSock := { incoming := [5, 2, 1, 1] }

theorem dial_credentials_refused :
    ((dial .blank { host := wide "h", proxy := some ⟨wide "p", 1, true, ascii "u", ascii "a", true⟩ } {}).run
      { socket := refusingSocket }).1 =
    ((dial .blank { host := wide "h", proxy := some ⟨wide "p", 1, true, ascii "v", ascii "b", true⟩ } {}).run
      { socket := refusingSocket }).1 ∧
    ((dial .blank { host := wide "h", proxy := some ⟨wide "p", 1, true, ascii "v", ascii "b", true⟩ } {}).run
      { socket := refusingSocket }).1 = .error ⟨"proxy_auth_failed", ascii
        "[proxy_auth_failed] the SOCKS5 proxy at p:1 rejected the supplied username and password"⟩ :=
  ⟨(dial_credentials .blank { host := wide "h", proxy := some _ } {} refusingSocket
    ⟨wide "p", 1, true, ascii "u", ascii "a", true⟩ rfl (ascii "v") (ascii "b") rfl rfl).1,
    by decide +kernel⟩

end LuaXENetwork
