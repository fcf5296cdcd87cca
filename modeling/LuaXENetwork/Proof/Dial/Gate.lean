import LuaXENetwork.Proof.Dial.World
import LuaXENetwork.Proof.Tls.Verify

/-! No connection leaves `Dial` past a certificate that was not accepted. -/

namespace LuaXENetwork
open Library Dialing CertificateVerifier

def DialEvent.NoCheck : DialEvent → Prop
  | .checked .. => False
  | _ => True

theorem DialEvent.OfProxy.noCheck {event : DialEvent} (kind : event.OfProxy) : event.NoCheck := by
  cases event <;> trivial

theorem DialEvent.OfTls.noCheck {event : DialEvent} (kind : event.OfTls) : event.NoCheck := by
  cases event <;> trivial

theorem Moves.weaken {allowed allowed' : DialEvent → Prop}
    (wider : ∀ event, allowed event → allowed' event) {w w' : DialWorld} (moves : Moves allowed w w') : Moves allowed' w w' := by
  obtain ⟨verifier, new, events, kind⟩ := moves
  exact ⟨verifier, new, events, fun event member => wider event (kind event member)⟩

/-- Some `Check` of the record has returned false. -/
def Refused (events : List DialEvent) : Prop :=
  ∃ verifier certificate answer, .checked verifier certificate answer false ∈ events

def AllAccepted (w : DialWorld) : Prop := ¬ Refused w.events

section Gate

variable (platform : Platform) (doomed : Prop)

def CheckedRightly (before : List DialEvent) : DialEvent → Prop
  | .checked verifier certificate answer accepted =>
      verifier.verify = true ∧ (doomed ∨ Refused before → verifier.failed = true) ∧
      (accepted = true → verifier.failed = false ∧
        Accepts platform { verifier with checked := true } certificate answer)
  | _ => True

structure Gate (w : DialWorld) : Prop where
  verify : w.verifier.verify = true
  rightly : Guarded (CheckedRightly platform doomed) w.events
  latest : doomed ∨ Refused w.events → w.verifier.failed = true
  checked : w.verifier.checked = true → ∃ event ∈ w.events, ¬ event.NoCheck

end Gate

variable {platform : Platform} {doomed : Prop}

theorem refused_append {events new : List DialEvent} (kind : ∀ event ∈ new, event.NoCheck) :
    Refused (events ++ new) ↔ Refused events := by
  constructor
  · rintro ⟨verifier, certificate, answer, member⟩
    rcases List.mem_append.mp member with before | later
    · exact ⟨verifier, certificate, answer, before⟩
    · exact (kind _ later).elim
  · rintro ⟨verifier, certificate, answer, member⟩
    exact ⟨verifier, certificate, answer, List.mem_append_left _ member⟩

theorem Gate.moves {w w' : DialWorld} (gate : Gate platform doomed w)
    (moves : Moves DialEvent.NoCheck w w') : Gate platform doomed w' := by
  obtain ⟨verifier, new, events, kind⟩ := moves
  refine ⟨verifier ▸ gate.verify, ?_, ?_, ?_⟩
  · rw [events]
    refine gate.rightly.append fun event member since => ?_
    have plain := kind event member
    cases event <;> trivial
  · rw [verifier, events, refused_append kind]
    exact gate.latest
  · rw [verifier, events]
    intro checked
    obtain ⟨event, member, check⟩ := gate.checked checked
    exact ⟨event, List.mem_append_left _ member, check⟩

theorem AllAccepted.moves {w w' : DialWorld} (accepted : AllAccepted w)
    (moves : Moves DialEvent.NoCheck w w') : AllAccepted w' := by
  obtain ⟨-, new, events, kind⟩ := moves
  rwa [AllAccepted, events, refused_append kind]

def Open (platform : Platform) (doomed : Prop) (w : DialWorld) : Prop :=
  Gate platform doomed w ∧ AllAccepted w

theorem Open.moves {w w' : DialWorld} (isOpen : Open platform doomed w)
    (moves : Moves DialEvent.NoCheck w w') : Open platform doomed w' :=
  ⟨isOpen.1.moves moves, isOpen.2.moves moves⟩

theorem open_of_moves {α : Type} {x : Dialing α}
    (moves : Program.Always (Moves DialEvent.NoCheck) x) :
    Program.Triple (Open platform doomed) x (fun _ => Open platform doomed)
      (fun _ => Gate platform doomed) :=
  (moves.triple fun _ _ isOpen step => isOpen.moves step).weaken
    (fun _ start => start) (fun _ _ stays => stays) (fun _ _ stays => stays.1)

theorem noCheck_of_tls {α : Type} {x : Dialing α} (moves : Program.Always (Moves DialEvent.OfTls) x) :
    Program.Always (Moves DialEvent.NoCheck) x :=
  moves.weaken fun _ _ step => step.weaken fun _ kind => kind.noCheck

theorem open_of_tls {α : Type} {x : Dialing α} (moves : Program.Always (Moves DialEvent.OfTls) x) :
    Program.Triple (Open platform doomed) x (fun _ => Open platform doomed)
      (fun _ => Gate platform doomed) := open_of_moves (noCheck_of_tls moves)

theorem refused_snoc_true {events : List DialEvent} {verifier : CertificateVerifier}
    {certificate : Certificate} {answer : ChainAnswer} :
    Refused (events ++ [.checked verifier certificate answer true]) ↔ Refused events := by
  simp [Refused]

theorem gate_check {w : DialWorld} (isOpen : Open platform doomed w) (certificate : Certificate)
    (answer : ChainAnswer) {accepted : Bool} {verifier : CertificateVerifier}
    (result : w.verifier.check platform certificate answer = (accepted, verifier)) :
    Gate platform doomed { w with
      events := w.events ++ [.checked w.verifier certificate answer accepted]
      verifier := verifier } ∧
    (accepted = true →
      AllAccepted { w with events := w.events ++ [.checked w.verifier certificate answer accepted] }) := by
  obtain ⟨gate, allAccepted⟩ := isOpen
  have present : ∃ event ∈ w.events ++ [.checked w.verifier certificate answer accepted],
      ¬ event.NoCheck := ⟨_, List.mem_append_right _ List.mem_cons_self, id⟩
  rcases check_cases platform certificate answer gate.verify with
    ⟨refused, failed, verify⟩ | ⟨checked, hopeful, both⟩
  · rw [result] at refused failed verify
    obtain rfl : accepted = false := refused
    refine ⟨⟨verify, ?_, fun _ => failed, fun _ => present⟩, nofun⟩
    exact gate.rightly.snoc ⟨gate.verify, gate.latest, nofun⟩
  · obtain ⟨rfl, rfl⟩ := Prod.mk.inj (result.symm.trans checked)
    refine ⟨⟨gate.verify, ?_, ?_, fun _ => present⟩, fun _ => ?_⟩
    · exact gate.rightly.snoc ⟨gate.verify, gate.latest, fun _ => ⟨hopeful, both⟩⟩
    · rw [refused_snoc_true]
      exact gate.latest
    · rwa [AllAccepted, refused_snoc_true]

theorem acceptServer_gate (answer : ContextAnswer) :
    Program.Triple (Open platform doomed) (acceptServer platform answer)
      (fun acceptable w => Gate platform doomed w ∧ (acceptable = true → AllAccepted w))
      (fun _ => Gate platform doomed) := by
  unfold acceptServer
  cases answer.certificate with
  | error status => exact .pure fun w isOpen => ⟨isOpen.1, fun _ => isOpen.2⟩
  | ok certificate =>
      intro w isOpen
      rcases result : w.verifier.check platform certificate answer.chain with ⟨accepted, verifier⟩
      obtain ⟨gate, allAccepted⟩ := gate_check isOpen certificate answer.chain result
      simp only [Program.run_bind, Program.run_read, record, Program.run_change, result]
      exact ⟨gate, allAccepted⟩

def RoundGate (platform : Platform) (doomed : Prop) (roundEnd : RoundEnd) (w : DialWorld) : Prop :=
  Gate platform doomed w ∧ (AllAccepted w ∨ roundEnd = .returned secEUnknownCredentials)

theorem roundGate_of_open {x : Dialing RoundEnd}
    (moves : Program.Always (Moves DialEvent.OfTls) x) :
    Program.Triple (Open platform doomed) x (RoundGate platform doomed)
      (fun _ => Gate platform doomed) :=
  (open_of_tls moves).weaken (fun _ start => start) (fun _ _ stays => ⟨stays.1, .inl stays.2⟩)
    (fun _ _ gate => gate)

theorem answerRound_gate (n : Negotiation) (answer : ContextAnswer) :
    Program.Triple (Open platform doomed) (answerRound platform n answer)
      (RoundGate platform doomed) (fun _ => Gate platform doomed) := by
  unfold answerRound
  split
  · refine (acceptServer_gate answer).bind fun acceptable => ?_
    cases acceptable with
    | false => exact .pure fun w after => ⟨after.1, .inr rfl⟩
    | true =>
        refine Program.Triple.weaken (show Program.Triple (Open platform doomed) _
            (RoundGate platform doomed) (fun _ => Gate platform doomed) from ?_)
          (fun w after => ⟨after.1, after.2 rfl⟩) (fun _ _ ends => ends) (fun _ _ gate => gate)
        refine (open_of_tls (sendToken_moves answer.token)).bind fun sent => ?_
        cases sent with
        | false => exact .pure fun w isOpen => ⟨isOpen.1, .inl isOpen.2⟩
        | true => exact roundGate_of_open (afterAnswer_moves n answer)
  · exact roundGate_of_open (afterAnswer_moves n answer)

theorem negotiateRound_gate (n : Negotiation) (answer : ContextAnswer) :
    Program.Triple (Open platform doomed) (negotiateRound platform n answer)
      (RoundGate platform doomed) (fun _ => Gate platform doomed) := by
  unfold negotiateRound
  refine (open_of_tls (readServer_moves n)).bind fun read => ?_
  cases read with
  | none => exact .pure fun w isOpen => ⟨isOpen.1, .inl isOpen.2⟩
  | some n => exact answerRound_gate n answer

def StatusGate (platform : Platform) (doomed : Prop) (status : UInt32) (w : DialWorld) : Prop :=
  Gate platform doomed w ∧ (AllAccepted w ∨ isFailure status = true)

theorem negotiateLoop_gate (answers : List ContextAnswer) (n : Negotiation) :
    Program.Triple (Open platform doomed) (negotiateLoop platform answers n)
      (fun result => StatusGate platform doomed result.1) (fun _ => Gate platform doomed) := by
  have stays (result : UInt32 × Bool) : Program.Triple (Open platform doomed)
      (pure result : Dialing (UInt32 × Bool))
      (fun result => StatusGate platform doomed result.1) (fun _ => Gate platform doomed) :=
    .pure fun w isOpen => ⟨isOpen.1, .inl isOpen.2⟩
  induction answers generalizing n with
  | nil => exact stays _
  | cons answer answers ih =>
      rw [negotiateLoop]
      split
      · refine (negotiateRound_gate n answer).bind fun roundEnd => ?_
        cases roundEnd with
        | returned status =>
            refine .pure fun w after => ⟨after.1, after.2.imp_right fun refused => ?_⟩
            rw [RoundEnd.returned.injEq] at refused
            rw [refused]
            decide
        | left status => exact .pure fun w after => ⟨after.1, .inl (after.2.resolve_right (by simp))⟩
        | again n =>
            exact (ih n).weaken (fun w after => ⟨after.1, after.2.resolve_right (by simp)⟩)
              (fun _ _ ends => ends) (fun _ _ gate => gate)
      · exact stays _

theorem StatusGate.moves {status : UInt32} {w w' : DialWorld}
    (ends : StatusGate platform doomed status w) (moves : Moves DialEvent.NoCheck w w') :
    StatusGate platform doomed status w' :=
  ⟨ends.1.moves moves, ends.2.imp_left fun accepted => accepted.moves moves⟩

theorem statusGate_of_tls {α : Type} {x : Dialing α} (status : UInt32)
    (moves : Program.Always (Moves DialEvent.OfTls) x) :
    Program.Triple (StatusGate platform doomed status) x
      (fun _ => StatusGate platform doomed status) (fun _ => Gate platform doomed) :=
  ((noCheck_of_tls moves).triple fun _ _ ends step => ends.moves step).weaken
    (fun _ start => start) (fun _ _ stays => stays) (fun _ _ stays => stays.1)

theorem sspiNegotiateLoop_gate (answers : TlsAnswers) :
    Program.Triple (Open platform doomed) (sspiNegotiateLoop platform answers)
      (StatusGate platform doomed) (fun _ => Gate platform doomed) := by
  unfold sspiNegotiateLoop
  split
  · refine (open_of_tls (captureExtendedError_moves _)).bind fun _ =>
      (open_of_tls (changeTls_moves _)).bind fun _ => ?_
    exact .pure fun w isOpen => ⟨isOpen.1, .inl isOpen.2⟩
  · refine (open_of_tls (sendFirstToken_moves _)).bind fun sent => ?_
    cases sent with
    | some status => exact .pure fun w isOpen => ⟨isOpen.1, .inl isOpen.2⟩
    | none =>
        refine (negotiateLoop_gate _ _).bind fun (status, behind) => ?_
        dsimp only
        split
        · exact (statusGate_of_tls _ (changeTls_moves _)).bind fun _ => .pure fun w ends => ends
        · exact .pure fun w ends => ends

theorem initializeTls_gate (answers : TlsAnswers) :
    Program.Triple (Open platform doomed) (initializeTls platform answers)
      (StatusGate platform doomed) (fun _ => Gate platform doomed) := by
  unfold initializeTls
  split
  · exact .pure fun w isOpen => ⟨isOpen.1, .inl isOpen.2⟩
  · refine (open_of_tls (changeTls_moves _)).bind fun _ =>
      (sspiNegotiateLoop_gate answers).bind fun status => ?_
    split
    · exact .pure fun w ends => ends
    · rename_i success
      split
      · exact .pure fun w ends => ⟨ends.1, .inl (ends.2.resolve_right success)⟩
      · refine (statusGate_of_tls status (changeTls_moves _)).bind fun _ => ?_
        exact .pure fun w ends => ⟨ends.1, .inl (ends.2.resolve_right success)⟩

section Dial

variable {options : DialOptions}

theorem concludeTls_gate (verify : options.tlsVerify = true) (serverName : WString)
    (result : UInt32) :
    Program.Triple (StatusGate platform doomed result)
      (concludeTls platform options serverName result)
      (fun _ w => Open platform doomed w ∧ w.verifier.checked = true)
      (fun _ => Gate platform doomed) := by
  rintro w ⟨gate, accepted⟩
  unfold concludeTls
  simp only [Program.run_bind, Program.run_read]
  split_ifs with failure unchecked
  · exact gate
  · exact gate
  · refine ⟨⟨gate, accepted.resolve_right failure⟩, ?_⟩
    simpa [verify] using unchecked

def Unchecked (w : DialWorld) : Prop :=
  (∀ event ∈ w.events, event.NoCheck) ∧ w.verifier.checked = false

theorem unchecked_of_moves {α : Type} {x : Dialing α}
    (moves : Program.Always (Moves DialEvent.NoCheck) x) :
    Program.Triple Unchecked x (fun _ => Unchecked) (fun _ => Unchecked) := by
  refine moves.triple fun w w' start step => ?_
  obtain ⟨verifier, new, events, kind⟩ := step
  refine ⟨fun event member => ?_, verifier ▸ start.2⟩
  rw [events] at member
  exact (List.mem_append.mp member).elim (start.1 event) (kind event)

theorem not_refused {w : DialWorld} (start : Unchecked w) : ¬ Refused w.events :=
  fun ⟨_, _, _, member⟩ => start.1 _ member

theorem create_gate (answers : TlsAnswers) (serverName : WString) :
    Program.Triple Unchecked
      (Program.change fun w => { w with
        verifier := CertificateVerifier.create serverName options.caFile true
          options.tlsCheckRevocation answers.rootFile
        tls := {} } : Dialing Unit)
      (fun _ => Open platform (RootsLost options.caFile answers.rootFile))
      (fun _ => Gate platform (RootsLost options.caFile answers.rootFile)) := by
  refine .change fun w start => ?_
  have none_refused : ¬ Refused w.events := not_refused start
  obtain ⟨verify, unchecked⟩ := create_fresh serverName options.caFile true
    options.tlsCheckRevocation answers.rootFile
  refine ⟨⟨verify, ?_, ?_, ?_⟩, none_refused⟩
  · refine Guarded.nil.append fun event member since => ?_
    have plain := start.1 event member
    cases event <;> trivial
  · rintro (lost | refused)
    · exact create_failed lost
    · exact (none_refused refused).elim
  · intro checked
    exact absurd (unchecked.symm.trans checked) nofun

theorem secureConnection_gate (verify : options.tlsVerify = true) (answers : TlsAnswers)
    (started : Nat) :
    Program.Triple Unchecked (secureConnection platform options answers started)
      (fun _ w => Open platform (RootsLost options.caFile answers.rootFile) w ∧
        w.verifier.checked = true)
      (fun _ => Gate platform (RootsLost options.caFile answers.rootFile)) := by
  unfold secureConnection
  rw [verify]
  refine (create_gate answers _).bind fun _ => ?_
  refine (open_of_moves (remaining_moves trivial options started)).bind fun milliseconds => ?_
  refine (open_of_moves (setTimeouts_moves _)).bind fun _ => ?_
  exact (initializeTls_gate answers).bind fun status => concludeTls_gate verify _ status

theorem connectTo_moves (host : WString) (port : Nat) (code : String) :
    Program.Always (Moves DialEvent.NoCheck) (connectTo platform host port code) := by
  refine .bind (record_moves trivial) fun _ => .bind connect_moves fun connected => ?_
  split
  · exact .bind (.read _) fun error => fail_moves _ _
  · exact .pure _

theorem reach_moves (started : Nat) :
    Program.Always (Moves DialEvent.NoCheck) (reach platform options started) := by
  unfold reach
  split
  · rename_i proxy via
    refine .bind (connectTo_moves _ _ _) fun _ => ?_
    exact (socks5Handshake_moves platform proxy options started options.host options.port).weaken
      fun _ _ step => step.weaken fun _ kind => kind.noCheck
  · exact connectTo_moves _ _ _

theorem dial_gate (platform : Platform) (ssl : options.ssl = true) (verify : options.tlsVerify = true)
    (answers : TlsAnswers) :
    Program.Triple Unchecked (dial platform options answers)
      (fun _ w => Open platform (RootsLost options.caFile answers.rootFile) w ∧
        w.verifier.checked = true)
      (fun _ w => Gate platform (RootsLost options.caFile answers.rootFile) w ∨ Unchecked w) := by
  have before {α : Type} {x : Dialing α} (moves : Program.Always (Moves DialEvent.NoCheck) x) :
      Program.Triple Unchecked x (fun _ => Unchecked)
        (fun _ w => Gate platform (RootsLost options.caFile answers.rootFile) w ∨ Unchecked w) :=
    (unchecked_of_moves moves).weaken (fun _ start => start) (fun _ _ stays => stays)
      (fun _ _ stays => .inr stays)
  unfold dial
  rw [ssl]
  refine (before (.read _)).bind fun started => ?_
  refine (before (remaining_moves trivial options started)).bind fun milliseconds => ?_
  refine (before (setTimeouts_moves _)).bind fun _ => ?_
  refine (before (reach_moves started)).bind fun _ => ?_
  exact (secureConnection_gate verify answers started).weaken (fun _ start => start)
    (fun _ _ ends => ends) (fun _ _ gate => .inl gate)

end Dial

/-- Whatever else is checked with it, the verifier has not passed. -/
def NeverPasses (platform : Platform) (v : CertificateVerifier) : Prop :=
  ∀ calls, (v.checkAll platform calls).passed = false

theorem neverPasses_of_failed {v : CertificateVerifier} (verify : v.verify = true)
    (failed : v.failed = true) : NeverPasses platform v := by
  intro calls
  simp [passed, checkAll_failed verify failed calls]

/-- No connection without a check; each check of the run was an acceptance by `VerifyChain` and
by `VerifyName`. -/
def Verified (platform : Platform) (w : DialWorld) : Prop :=
  (∃ verifier certificate answer accepted,
    DialEvent.checked verifier certificate answer accepted ∈ w.events) ∧
  ∀ verifier certificate answer accepted,
    DialEvent.checked verifier certificate answer accepted ∈ w.events →
      accepted = true ∧ Accepts platform { verifier with checked := true } certificate answer

/-- Once a check has refused or the roots are lost, no later state of the verifier passes. -/
structure Latched (platform : Platform) (doomed : Prop) (w : DialWorld) : Prop where
  checking : ∀ before verifier certificate answer accepted after,
    w.events = before ++ .checked verifier certificate answer accepted :: after →
      doomed ∨ Refused before → NeverPasses platform verifier ∧ accepted = false
  refused : Refused w.events → NeverPasses platform w.verifier
  lost : doomed → w.verifier.passed = false

theorem Gate.latched {w : DialWorld} (gate : Gate platform doomed w) :
    Latched platform doomed w where
  checking before verifier certificate answer accepted after split hopeless := by
    obtain ⟨verify, fails, accepts⟩ := gate.rightly before _ after split
    have failed := fails hopeless
    refine ⟨neverPasses_of_failed verify failed, ?_⟩
    cases accepted with
    | false => rfl
    | true => exact absurd (failed.symm.trans (accepts rfl).1) nofun
  refused refused := neverPasses_of_failed gate.verify (gate.latest (.inr refused))
  lost lost := by simp [passed, gate.latest (.inl lost)]

theorem Unchecked.latched {w : DialWorld} (unchecked : Unchecked w) :
    Latched platform doomed w where
  checking before verifier certificate answer accepted after split _ := by
    have member : DialEvent.checked verifier certificate answer accepted ∈ w.events := by
      rw [split]
      simp
    exact (unchecked.1 _ member).elim
  refused refused := (not_refused unchecked refused).elim
  lost _ := by simp [passed, unchecked.2]

theorem Open.verified {w : DialWorld} (isOpen : Open platform doomed w)
    (checked : w.verifier.checked = true) : Verified platform w := by
  obtain ⟨gate, allAccepted⟩ := isOpen
  refine ⟨?_, fun verifier certificate answer accepted member => ?_⟩
  · obtain ⟨event, member, check⟩ := gate.checked checked
    cases event with
    | checked verifier certificate answer accepted => exact ⟨_, _, _, _, member⟩
    | _ => exact (check trivial).elim
  · obtain ⟨before, after, split⟩ := List.append_of_mem member
    obtain ⟨-, -, accepts⟩ := gate.rightly before _ after split
    cases accepted with
    | false => exact (allAccepted ⟨_, _, _, member⟩).elim
    | true => exact ⟨rfl, (accepts rfl).2⟩

/-- With `ssl` and `tls_verify`, whatever the peer sends and the platform answers. -/
theorem dial_verified (platform : Platform) (options : DialOptions) (answers : TlsAnswers)
    (socket : BaseSock) (ssl : options.ssl = true) (verify : options.tlsVerify = true)
    (result : Except DialError DialedConnection) (w : DialWorld)
    (run : (dial platform options answers).run { socket := socket } = (result, w)) :
    (∀ connection, result = .ok connection → Verified platform w) ∧
    Latched platform (RootsLost options.caFile answers.rootFile) w := by
  have ends := dial_gate platform ssl verify answers { socket := socket }
    ⟨by simp, rfl⟩
  rw [run] at ends
  cases result with
  | error error =>
      refine ⟨nofun, ?_⟩
      rcases ends with gate | unchecked
      · exact gate.latched
      · exact unchecked.latched
  | ok connection => exact ⟨fun _ _ => ends.1.verified ends.2, ends.1.1.latched⟩

/-- A handshake of one round, with a certificate for the common name `a`. -/
def oneRound : TlsAnswers where
  first := { status := secIContinueNeeded, token := [1] }
  answers := [{
    status := secEOk
    certificate := .ok { encoded := [] }
    chain := { chain := .ok ⟨0, []⟩, policy := some 0, commonName := some [97] } }]

theorem dial_verified_oneRound :
    ((dial Platform.blank { host := [97], ssl := true } oneRound).run
      { socket := { incoming := [2] } }).1.toOption = some ⟨true⟩ ∧
    Verified Platform.blank ((dial Platform.blank { host := [97], ssl := true } oneRound).run
      { socket := { incoming := [2] } }).2 := by
  have returns : ((dial Platform.blank { host := [97], ssl := true } oneRound).run
      { socket := { incoming := [2] } }).1.toOption = some ⟨true⟩ := by decide +kernel
  refine ⟨returns, ?_⟩
  rcases run : (dial Platform.blank { host := [97], ssl := true } oneRound).run
      { socket := { incoming := [2] } } with ⟨_ | connection, w⟩
  · rw [run] at returns
    exact absurd returns nofun
  · exact (dial_verified _ _ _ _ rfl rfl _ _ run).1 connection rfl

end LuaXENetwork
