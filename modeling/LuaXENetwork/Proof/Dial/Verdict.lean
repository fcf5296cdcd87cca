import LuaXENetwork.Proof.Dial.ProxyUrl
import LuaXENetwork.Proof.Tls.Reasons
import LuaXENetwork.Proof.Tls.Trust

/-! Which errors of `Dial` tell what has happened. -/

namespace LuaXENetwork
open Library Dialing CertificateVerifier

/-! ## The error of a handshake -/

section Conclude

variable {call : DialCall} {w : DialWorld}

theorem Unspent.trusting {v : CertificateVerifier} (unspent : Unspent call v) :
    v.checked = true → v.failed = false := by
  cases unspent with
  | fresh => exact fun checked => nomatch (create_fresh _ _ _ _ _).2.symm.trans checked
  | accepting hopeful => exact fun _ => hopeful

theorem Trusting.right (trusting : Trusting call w) (connected : call.connect.1 = true) :
    ¬ Misreported call w := by
  intro wrong
  cases wrong with
  | proxyConnect error proxy failed => exact nomatch connected.symm.trans failed.1
  | connect error failed known => exact nomatch connected.symm.trans failed.1
  | budget expired => exact trusting.events _ expired
  | unsent what failed => exact trusting.events _ failed
  | chain verifier certificate answer refused misjudged => exact nomatch trusting.events _ refused

variable {v : CertificateVerifier} {certificate : Certificate} {answer : ChainAnswer}

theorem Refusing.last (refusing : Refusing call w v certificate answer) :
    LastIs (.checked v certificate answer false) w := by
  obtain ⟨before, events, -⟩ := refusing.events
  simp [LastIs, events]

end Conclude

section Conclude

variable {call : DialCall} {w : DialWorld}

variable (connected : call.connect.1 = true)
include connected

end Conclude

def DialEvent.connects : DialEvent → Bool
  | .connecting .. => true
  | _ => false

def blocked : DialCall where
  platform := Platform.blank
  options := { host := [97] }
  answers := {}
  socket := { connects := [⟨5, .unreachable 10013⟩] }

end LuaXENetwork
