import LuaXENetwork.Proof.Dial.World
import LuaXENetwork.Proof.Dial.Report

/-! What is known of the certificates while the TLS handshake goes on, and when it ends. -/

namespace LuaXENetwork
open Library Dialing CertificateVerifier

namespace DialCall

def serverName (call : DialCall) : WString := sniName call.options.host call.options.sni

/-- The verifier as `Dial` makes it. -/
def verifier (call : DialCall) : CertificateVerifier :=
  create call.serverName call.options.caFile call.options.tlsVerify call.options.tlsCheckRevocation
    call.answers.rootFile

end DialCall

/-! ## The constructor and one check -/

section Verifier

variable {platform : Platform} {v : CertificateVerifier} {host : WString} {caFile : Bytes}
  {verify checkRevocation : Bool} {file : RootFile}

theorem create_hopeful : (create host caFile false checkRevocation file).failed = false := by
  simp [create]

theorem loadRoots_lost (hopeful : v.failed = false) (lost : (v.loadRoots file).failed = true) :
    (∀ hashes, file = .certificates hashes → hashes.filter (· ≠ []) = []) ∧
      (v.loadRoots file).code = "tls_ca_unreadable" := by
  have fresh (code : String) (text : Bytes) (v : CertificateVerifier) (hopeful : v.failed = false) :
      (v.fail code text).code = code := by
    simp [CertificateVerifier.fail, hopeful]
  cases file with
  | noStore => exact ⟨by simp, fresh _ _ _ hopeful⟩
  | unreadable => exact ⟨by simp, fresh _ _ _ hopeful⟩
  | certificates hashes =>
      by_cases none_left : hashes.filter (· ≠ []) = []
      · refine ⟨fun other same => RootFile.certificates.inj same ▸ none_left, ?_⟩
        rw [loadRoots]
        dsimp only
        rw [if_pos none_left]
        exact fresh _ _ _ hopeful
      · rw [loadRoots] at lost
        dsimp only at lost
        rw [if_neg none_left] at lost
        cases hopeful.symm.trans lost

theorem create_lost (lost : (create host caFile verify checkRevocation file).failed = true) :
    RootsLost caFile file ∧ (create host caFile verify checkRevocation file).code = "tls_ca_unreadable" := by
  rw [create] at lost ⊢
  split at lost
  · rename_i given
    rw [if_pos given]
    obtain ⟨none_left, code⟩ := loadRoots_lost rfl lost
    exact ⟨⟨given.2, none_left⟩, code⟩
  · cases lost

end Verifier

/-! ## The state of the handshake -/

def DialEvent.Trusting : DialEvent → Prop
  | .expired | .writeFailed _ => False
  | .checked _ _ _ accepted => accepted = true
  | _ => True

theorem DialEvent.Steady.trusting {event : DialEvent} (steady : event.Steady) : event.Trusting := by
  cases event <;> trivial

inductive Unspent (call : DialCall) : CertificateVerifier → Prop
  | fresh : Unspent call call.verifier
  | accepting (hopeful : call.verifier.failed = false) : Unspent call { call.verifier with checked := true }

structure Trusting (call : DialCall) (w : DialWorld) : Prop where
  events : ∀ event ∈ w.events, event.Trusting
  verifier : Unspent call w.verifier
  unchecked : w.verifier.checked = false → Steady w

structure Handshaking (call : DialCall) (w : DialWorld) : Prop extends Trusting call w where
  encrypting : w.tls.encrypting = false

structure Refusing (call : DialCall) (w : DialWorld) (verifier : CertificateVerifier)
    (certificate : Certificate) (answer : ChainAnswer) : Prop where
  events : ∃ before, w.events = before ++ [.checked verifier certificate answer false] ∧
    ∀ event ∈ before, event.Trusting
  unspent : Unspent call verifier
  refused : (verifier.check call.platform certificate answer).1 = false
  verifier : w.verifier = (verifier.check call.platform certificate answer).2

section States

variable {call : DialCall} {v : CertificateVerifier} {w w' : DialWorld}

theorem Unspent.accept (unspent : Unspent call v) (hopeful : v.verify = true → v.failed = false) :
    Unspent call { v with checked := true } := by
  cases unspent with
  | accepting still => exact .accepting still
  | fresh =>
      refine .accepting ?_
      cases checks : call.options.tlsVerify with
      | true => exact hopeful (by rw [DialCall.verifier, (create_fresh _ _ _ _ _).1, checks])
      | false => rw [DialCall.verifier, checks, create_hopeful]

theorem Unspent.verify (unspent : Unspent call v) : v.verify = call.options.tlsVerify := by
  cases unspent with
  | fresh => exact (create_fresh _ _ _ _ _).1
  | accepting _ => exact (create_fresh _ _ _ _ _).1

theorem Unspent.lost (unspent : Unspent call v) (hopeless : v.failed = true) :
    RootsLost call.options.caFile call.answers.rootFile ∧ v.code = "tls_ca_unreadable" := by
  cases unspent with
  | fresh => exact create_lost hopeless
  | accepting hopeful => exact nomatch hopeful.symm.trans hopeless

theorem Trusting.moves (trusting : Trusting call w) (moves : Moves DialEvent.OfTls w w') :
    Trusting call w' := by
  obtain ⟨verifier, new, events, kind⟩ := moves
  have fine (event : DialEvent) (tls : event.OfTls) : event.Steady := by
    cases event <;> trivial
  refine ⟨?_, verifier ▸ trusting.verifier, ?_⟩
  · intro event member
    rw [events] at member
    exact (List.mem_append.mp member).elim (trusting.events event) fun now =>
      (fine event (kind event now)).trusting
  · intro unchecked event member
    rw [events] at member
    exact (List.mem_append.mp member).elim (trusting.unchecked (verifier ▸ unchecked) event) fun now =>
      fine event (kind event now)

theorem Handshaking.talks (handshaking : Handshaking call w) (talks : Talks w w') :
    Handshaking call w' :=
  ⟨handshaking.toTrusting.moves talks.toMoves, talks.encrypting.trans handshaking.encrypting⟩

variable {failed : DialError → DialWorld → Prop}

end States

/-! ## The handshake -/

section Handshake

variable {call : DialCall} {failed : DialError → DialWorld → Prop}

end Handshake

end LuaXENetwork
