import LuaXENetwork.Proof.Dial.Causes

/-! For which reasons `CertificateVerifier` refuses a certificate. -/

namespace LuaXENetwork

namespace CertificateVerifier

variable {platform : Platform} {v : CertificateVerifier} {certificate : Certificate} {answer : ChainAnswer}

def RefusesFor (v : CertificateVerifier) (why : String → Prop) (result : Bool × CertificateVerifier) :
    Prop :=
  result.1 = false → ∃ code text, result.2 = v.fail code text ∧ why code

theorem RefusesFor.refuse {why : String → Prop} {code : String} (text : Bytes) (reason : why code) :
    RefusesFor v why (false, v.fail code text) := fun _ => ⟨code, text, rfl, reason⟩

theorem RefusesFor.accept {why : String → Prop} : RefusesFor v why (true, v) := nofun

end CertificateVerifier

end LuaXENetwork
