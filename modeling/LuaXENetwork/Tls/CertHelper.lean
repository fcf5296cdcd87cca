import LuaXENetwork.Text

/-! `MatchCertificateName`: which certificate names the older helpers take for a host. -/

namespace LuaXENetwork
open Library

/-- What a `PCWSTR` shows: the units in front of the terminator. -/
structure WideCString where
  units : WString
  no_null : 0 ∉ units
deriving DecidableEq

/-- `s.c_str()`: what follows an embedded null is out of sight. -/
def cStr (s : WString) : WideCString where
  units := s.takeWhile (· != 0)
  no_null := fun member => by simpa using List.mem_takeWhile_imp member

/-- `s.length() - s.find(L'.')`; without a dot the subtrahend is `npos`, which is -1. -/
def domainLength (s : WString) : Nat :=
  match find [46] s with
  | some dot => s.length - dot
  | none => s.length + 1

/-- `DnsNameMatches`; `compare` is `DnsNameCompare_W`. -/
def dnsNameMatches (compare : WideCString → WideCString → Bool) (hostName : WString)
    (pRequiredName : WideCString) : Bool :=
  if compare (cStr hostName) pRequiredName then true
  else if pRequiredName.units.head? ≠ some 42 then false
  else
    let requiredName := pRequiredName.units
    let suffixLen := domainLength hostName
    if requiredName.length ≠ suffixLen + 1 ∧ requiredName.head? ≠ some 42 then false
    else if domainLength requiredName ≠ suffixLen then false
    else domainLength hostName = suffixLen

/-- One `CERT_ALT_NAME_ENTRY`. -/
inductive AltNameEntry where
  | dnsName (name : WideCString)
  | other
deriving DecidableEq

/-- A `PCCERT_CONTEXT` as Windows shows it: an extension it finds may still not decode. -/
structure CertContext where
  subjectAltName2 : Option (Option (List AltNameEntry)) := none
  subjectAltName : Option (Option (List AltNameEntry)) := none
  commonName : Option WideCString := none
deriving DecidableEq

def matchCertificateName (compare : WideCString → WideCString → Bool) (certContext : CertContext)
    (pszRequiredName : WideCString) : Bool :=
  match certContext.subjectAltName2.or certContext.subjectAltName with
  | some (some entries) => entries.any fun
      | .dnsName name => dnsNameMatches compare pszRequiredName.units name
      | .other => false
  | _ =>
      match certContext.commonName with
      | none => false
      | some commonName => dnsNameMatches compare pszRequiredName.units commonName

end LuaXENetwork
