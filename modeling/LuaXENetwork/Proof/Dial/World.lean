import LuaXENetwork.Dial.Dial
import LuaXENetwork.Library.History

/-! Which events the parts of a dial can add to the record. -/

namespace LuaXENetwork
open Library Dialing

def Adds (allowed : DialEvent → Prop) (w w' : DialWorld) : Prop :=
  ∃ new, w'.events = w.events ++ new ∧ ∀ event ∈ new, allowed event

structure Moves (allowed : DialEvent → Prop) (w w' : DialWorld) : Prop where
  verifier : w'.verifier = w.verifier
  events : Adds allowed w w'

variable {allowed : DialEvent → Prop}

instance : Std.Refl (Adds allowed) := ⟨fun w => ⟨[], by simp⟩⟩

instance : IsTrans DialWorld (Adds allowed) where
  trans w₁ w₂ w₃ := by
    rintro ⟨new, events, kind⟩ ⟨new', events', kind'⟩
    refine ⟨new ++ new', by rw [events', events, List.append_assoc], fun event member => ?_⟩
    exact (List.mem_append.mp member).elim (kind event) (kind' event)

instance : Std.Refl (Moves allowed) := ⟨fun w => ⟨rfl, refl_of (Adds allowed) w⟩⟩

instance : IsTrans DialWorld (Moves allowed) where
  trans _ _ _ first second :=
    ⟨second.verifier.trans first.verifier, trans_of (Adds allowed) first.events second.events⟩

theorem Moves.silent {w w' : DialWorld} (events : w'.events = w.events)
    (verifier : w'.verifier = w.verifier) : Moves allowed w w' := ⟨verifier, [], by simp [events]⟩

theorem record_moves {event : DialEvent} (kind : allowed event) :
    Program.Always (Moves allowed) (record event) :=
  Program.Always.change fun _ => ⟨rfl, [event], rfl, by simpa using kind⟩

theorem fail_moves {α : Type} (code : String) (message : Bytes) :
    Program.Always (Moves allowed) (fail code message : Dialing α) := .throw _

theorem setTimeouts_moves (seconds : Int) : Program.Always (Moves allowed) (setTimeouts seconds) :=
  Program.Always.change fun _ => .silent rfl rfl

theorem connect_moves : Program.Always (Moves allowed) Dialing.connect :=
  Program.Always.act fun _ => .silent rfl rfl

theorem send_moves (data : Bytes) : Program.Always (Moves allowed) (Dialing.send data) :=
  Program.Always.act fun _ => .silent rfl rfl

theorem receive_moves (length minLength : Nat) :
    Program.Always (Moves allowed) (Dialing.receive length minLength) :=
  Program.Always.act fun _ => .silent rfl rfl

theorem changeTls_moves (f : SslClient → SslClient) : Program.Always (Moves allowed) (changeTls f) :=
  Program.Always.change fun _ => .silent rfl rfl

theorem remaining_moves (expires : allowed .expired) (options : DialOptions) (started : Nat) :
    Program.Always (Moves allowed) (remaining options started) := by
  unfold remaining
  split
  · exact .pure _
  · refine .bind (.read _) fun now => ?_
    dsimp only
    split
    · exact .bind (record_moves expires) fun _ => fail_moves _ _
    · exact .pure _

/-! ## The SOCKS5 conversation -/

def DialEvent.OfProxy : DialEvent → Prop
  | .writing .. | .writeFailed _ | .received .. | .readFailed _ | .expired => True
  | _ => False

structure AllowsAnswers (allowed : DialEvent → Prop) : Prop where
  writeFailed : ∀ what, allowed (.writeFailed what)
  received : ∀ what bytes, allowed (.received what bytes)
  readFailed : ∀ what, allowed (.readFailed what)
  expired : allowed .expired

section Socks5

variable (platform : Platform) (target : ProxyTarget) (options : DialOptions) (started : Nat)
  (host : WString) (port : Nat)

structure AllowsMessages (allowed : DialEvent → Prop) : Prop extends AllowsAnswers allowed where
  greeting : allowed (.writing "method list" (greeting target))
  authentication : target.hasCredentials = true →
    allowed (.writing "credentials" (authentication target))
  request : ∀ bytes, connectRequest platform target host port = .ok bytes →
    allowed (.writing "CONNECT request" bytes)

theorem allowsMessages_ofProxy : AllowsMessages platform target host port DialEvent.OfProxy := by
  constructor
  · constructor <;> simp [DialEvent.OfProxy]
  all_goals simp [DialEvent.OfProxy]

theorem arm_moves (expires : allowed .expired) :
    Program.Always (Moves allowed) (arm options started) :=
  .bind (remaining_moves expires options started) fun _ => setTimeouts_moves _

theorem sendAll_moves (answers : AllowsAnswers allowed) {bytes : Bytes} {what : String}
    (writes : allowed (.writing what bytes)) :
    Program.Always (Moves allowed) (sendAll options started bytes what) := by
  refine .bind (arm_moves options started answers.expired) fun _ =>
    .bind (record_moves writes) fun _ => .bind (send_moves bytes) fun sent => ?_
  split
  · exact .bind (record_moves (answers.writeFailed what)) fun _ =>
      .bind (.read _) fun _ => fail_moves _ _
  · exact .pure _

theorem takeExact_moves (answers : AllowsAnswers allowed) (count : Nat) (what : String)
    (answer : Option Bytes) : Program.Always (Moves allowed) (takeExact count what answer) := by
  refine .bind (.read _) fun error => ?_
  cases answer with
  | none =>
      refine .bind (record_moves (answers.readFailed what)) fun _ => ?_
      split <;> exact fail_moves _ _
  | some data =>
      dsimp only
      split
      · exact .bind (record_moves (answers.readFailed what)) fun _ => fail_moves _ _
      · exact .bind (record_moves (answers.received what data)) fun _ => .pure _

theorem recvExact_moves (answers : AllowsAnswers allowed) (count : Nat) (what : String) :
    Program.Always (Moves allowed) (recvExact options started count what) := by
  unfold recvExact
  split
  · exact .pure _
  · exact .bind (arm_moves options started answers.expired) fun _ =>
      .bind (receive_moves _ _) fun answer => takeExact_moves answers count what answer

theorem chooseMethod_moves (allows : AllowsMessages platform target host port allowed) :
    Program.Always (Moves allowed) (chooseMethod platform target options started) := by
  refine .bind (sendAll_moves options started allows.toAllowsAnswers allows.greeting) fun _ =>
    .bind (recvExact_moves options started allows.toAllowsAnswers _ _) fun choice => ?_
  dsimp only
  split
  · exact fail_moves _ _
  · split
    · exact fail_moves _ _
    · split
      · exact fail_moves _ _
      · exact .pure _

theorem authenticate_moves (allows : AllowsMessages platform target host port allowed)
    (method : UInt8) :
    Program.Always (Moves allowed) (authenticate platform target options started method) := by
  unfold authenticate
  dsimp only
  split
  · exact .pure _
  · split
    · exact fail_moves _ _
    · rename_i given
      have credentials : target.hasCredentials = true := by simpa using given
      refine .bind (sendAll_moves options started allows.toAllowsAnswers
          (allows.authentication credentials)) fun _ =>
        .bind (recvExact_moves options started allows.toAllowsAnswers _ _) fun verdict => ?_
      split
      · exact fail_moves _ _
      · split
        · exact fail_moves _ _
        · exact .pure _

theorem boundLength_moves (answers : AllowsAnswers allowed) (addressType : UInt8) :
    Program.Always (Moves allowed) (boundLength platform target options started addressType) := by
  unfold boundLength
  dsimp only
  split
  · exact .pure _
  · split
    · exact .pure _
    · split
      · refine .bind (recvExact_moves options started answers _ _) fun length => ?_
        split
        · exact fail_moves _ _
        · exact .pure _
      · exact fail_moves _ _

theorem requestConnect_moves (allows : AllowsMessages platform target host port allowed) :
    Program.Always (Moves allowed)
      (requestConnect platform target options started host port) := by
  unfold requestConnect
  rcases encoded : connectRequest platform target host port with error | request
  · exact fun w => refl_of (Moves allowed) w
  change Program.Always _ (sendAll options started request "CONNECT request" >>= _)
  refine .bind (sendAll_moves options started allows.toAllowsAnswers (allows.request _ encoded))
    fun _ => .bind (recvExact_moves options started allows.toAllowsAnswers _ _) fun header => ?_
  dsimp only
  split
  · exact fail_moves _ _
  · split
    · exact fail_moves _ _
    · exact .pure _

theorem socks5Handshake_adds (allows : AllowsMessages platform target host port allowed) :
    Program.Always (Moves allowed) (socks5Handshake platform target options started host port) :=
  .bind (chooseMethod_moves platform target options started host port allows) fun _ =>
    .bind (authenticate_moves platform target options started host port allows _) fun _ =>
    .bind (requestConnect_moves platform target options started host port allows) fun _ =>
    .bind (boundLength_moves platform target options started allows.toAllowsAnswers _) fun _ =>
    .bind (recvExact_moves options started allows.toAllowsAnswers _ _) fun _ =>
    .bind (recvExact_moves options started allows.toAllowsAnswers _ _) fun _ => .pure _

theorem socks5Handshake_moves :
    Program.Always (Moves DialEvent.OfProxy)
      (socks5Handshake platform target options started host port) :=
  socks5Handshake_adds platform target options started host port
    (allowsMessages_ofProxy platform target host port)

end Socks5

/-! ## The TLS handshake -/

def DialEvent.OfTls : DialEvent → Prop
  | .tlsWriting _ => True
  | _ => False

structure Talks (w w' : DialWorld) : Prop extends Moves DialEvent.OfTls w w' where
  encrypting : w'.tls.encrypting = w.tls.encrypting

instance : Std.Refl Talks := ⟨fun w => ⟨refl_of (Moves DialEvent.OfTls) w, rfl⟩⟩

instance : IsTrans DialWorld Talks where
  trans _ _ _ first second :=
    ⟨trans_of (Moves DialEvent.OfTls) first.toMoves second.toMoves,
      second.encrypting.trans first.encrypting⟩

theorem moves_of_talks {α : Type} {x : Dialing α} (talks : Program.Succeeds Talks x) :
    Program.Always (Moves DialEvent.OfTls) x := talks.always.weaken fun _ _ step => step.toMoves

theorem changeTls_talks {f : SslClient → SslClient} (keeps : ∀ tls, (f tls).encrypting = tls.encrypting) :
    Program.Succeeds Talks (changeTls f) := Program.Succeeds.change fun _ => ⟨.silent rfl rfl, keeps _⟩

theorem speak_talks (token : Bytes) : Program.Succeeds Talks (record (.tlsWriting token)) :=
  Program.Succeeds.change fun _ => ⟨⟨rfl, [.tlsWriting token], rfl, by simp [DialEvent.OfTls]⟩, rfl⟩

theorem send_talks (data : Bytes) : Program.Succeeds Talks (Dialing.send data) :=
  Program.Succeeds.act fun _ => ⟨.silent rfl rfl, rfl⟩

theorem receive_talks (length minLength : Nat) :
    Program.Succeeds Talks (Dialing.receive length minLength) :=
  Program.Succeeds.act fun _ => ⟨.silent rfl rfl, rfl⟩

section Tls

variable (platform : Platform)

theorem readServer_talks (n : Negotiation) : Program.Succeeds Talks (readServer n) := by
  unfold readServer
  split
  · split
    · exact .bind (receive_talks _ _) fun _ => .bind (changeTls_talks fun _ => rfl) fun _ => .pure _
    · exact .pure _
  · exact .pure _

theorem sendToken_talks (token : Bytes) : Program.Succeeds Talks (sendToken token) := by
  unfold sendToken
  split
  · exact .pure _
  · exact .bind (speak_talks token) fun _ => .bind (send_talks token) fun _ => .pure _

theorem captureExtendedError_moves (answer : ContextAnswer) :
    Program.Always (Moves DialEvent.OfTls) (captureExtendedError answer) := changeTls_moves _

theorem readServer_moves (n : Negotiation) : Program.Always (Moves DialEvent.OfTls) (readServer n) :=
  moves_of_talks (readServer_talks n)

theorem sendToken_moves (token : Bytes) : Program.Always (Moves DialEvent.OfTls) (sendToken token) :=
  moves_of_talks (sendToken_talks token)

theorem afterAnswer_moves (n : Negotiation) (answer : ContextAnswer) :
    Program.Always (Moves DialEvent.OfTls) (afterAnswer n answer) := by
  unfold afterAnswer
  split
  · exact .pure _
  · split
    · split
      · exact .bind (changeTls_moves _) fun _ => .bind (changeTls_moves _) fun _ => .pure _
      · exact .bind (changeTls_moves _) fun _ => .pure _
    · split
      · exact .bind (captureExtendedError_moves _) fun _ => .pure _
      · split
        · split <;> exact .pure _
        · split
          · exact .bind (changeTls_moves _) fun _ => .pure _
          · exact .pure _

theorem sendFirstToken_moves (token : Bytes) :
    Program.Always (Moves DialEvent.OfTls) (sendFirstToken token) := by
  unfold sendFirstToken
  split
  · exact .pure _
  · exact .bind (record_moves trivial) fun _ => .bind (send_moves _) fun _ => .pure _

def DialEvent.OfHandshake : DialEvent → Prop
  | .tlsWriting _ | .checked .. => True
  | _ => False

theorem adds_of_tls {α : Type} {x : Dialing α} (moves : Program.Always (Moves DialEvent.OfTls) x) :
    Program.Always (Adds DialEvent.OfHandshake) x := by
  refine moves.weaken fun w w' step => ?_
  obtain ⟨-, new, events, kind⟩ := step
  refine ⟨new, events, fun event member => ?_⟩
  have tls := kind event member
  cases event <;> trivial

theorem acceptServer_adds (answer : ContextAnswer) :
    Program.Always (Adds DialEvent.OfHandshake) (acceptServer platform answer) := by
  unfold acceptServer
  split
  · exact .pure _
  · refine .bind (.read _) fun verifier => .bind (.change fun w => ⟨[_], rfl, ?_⟩) fun _ =>
      .bind (.change fun w => ⟨[], (List.append_nil _).symm, by simp⟩) fun _ => .pure _
    simp [DialEvent.OfHandshake]

theorem answerRound_adds (n : Negotiation) (answer : ContextAnswer) :
    Program.Always (Adds DialEvent.OfHandshake) (answerRound platform n answer) := by
  unfold answerRound
  split
  · refine .bind (acceptServer_adds platform answer) fun acceptable => ?_
    split
    · exact .pure _
    · refine .bind (adds_of_tls (sendToken_moves answer.token)) fun sent => ?_
      split
      · exact .pure _
      · exact adds_of_tls (afterAnswer_moves n answer)
  · exact adds_of_tls (afterAnswer_moves n answer)

theorem negotiateRound_adds (n : Negotiation) (answer : ContextAnswer) :
    Program.Always (Adds DialEvent.OfHandshake) (negotiateRound platform n answer) := by
  unfold negotiateRound
  refine .bind (adds_of_tls (readServer_moves n)) fun read => ?_
  cases read with
  | none => exact .pure _
  | some n => exact answerRound_adds platform n answer

theorem negotiateLoop_adds (answers : List ContextAnswer) (n : Negotiation) :
    Program.Always (Adds DialEvent.OfHandshake) (negotiateLoop platform answers n) := by
  induction answers generalizing n with
  | nil => exact .pure _
  | cons answer answers ih =>
      rw [negotiateLoop]
      split
      · refine .bind (negotiateRound_adds platform n answer) fun roundEnd => ?_
        cases roundEnd with
        | returned status => exact .pure _
        | left status => exact .pure _
        | again n => exact ih n
      · exact .pure _

theorem sspiNegotiateLoop_adds (answers : TlsAnswers) :
    Program.Always (Adds DialEvent.OfHandshake) (sspiNegotiateLoop platform answers) := by
  unfold sspiNegotiateLoop
  split
  · exact .bind (adds_of_tls (captureExtendedError_moves _)) fun _ =>
      .bind (adds_of_tls (changeTls_moves _)) fun _ => .pure _
  · refine .bind (adds_of_tls (sendFirstToken_moves _)) fun sent => ?_
    cases sent with
    | some status => exact .pure _
    | none =>
        refine .bind (negotiateLoop_adds platform _ _) fun (status, behind) => ?_
        dsimp only
        split
        · exact .bind (adds_of_tls (changeTls_moves _)) fun _ => .pure _
        · exact .pure _

theorem initializeTls_adds (answers : TlsAnswers) :
    Program.Always (Adds DialEvent.OfHandshake) (initializeTls platform answers) := by
  unfold initializeTls
  split
  · exact .pure _
  · refine .bind (adds_of_tls (changeTls_moves _)) fun _ =>
      .bind (sspiNegotiateLoop_adds platform answers) fun status => ?_
    split
    · exact .pure _
    · split
      · exact .pure _
      · exact .bind (adds_of_tls (changeTls_moves _)) fun _ => .pure _

end Tls

end LuaXENetwork
