import LuaXENetwork.Tls.CertHelper
import LuaXENetwork.Proof.Tls.Names

/-! `DnsNameMatches` beside `MatchesWildcard`: the older rule counts units where the newer one
compares them. -/

namespace LuaXENetwork
open Library

/-- On ASCII names `DnsNameCompare_W` is equality up to case. -/
def CaseInsensitive (compare : WideCString → WideCString → Bool) : Prop :=
  ∀ left right : WideCString, IsAscii left.units → IsAscii right.units →
    (compare left right = true ↔ SameName left.units right.units)

def EndsIn (host suffix : WString) : Prop := ∃ front rest, host = front ++ rest ∧ SameName rest suffix

/-- The left-most label, up to the first dot. -/
def hostLabel (host : WString) : WString := host.takeWhile (· ≠ 46)

/-- Everything from the first dot on. -/
def hostDomain (host : WString) : WString := host.dropWhile (· ≠ 46)

theorem hostLabel_split {label : WString} (rest : WString) (no_dot : 46 ∉ label) :
    hostLabel (label ++ 46 :: rest) = label ∧ hostDomain (label ++ 46 :: rest) = 46 :: rest := by
  have plain : ∀ unit ∈ label, decide (unit ≠ 46) = true := fun unit member =>
    decide_eq_true fun dot => no_dot (dot ▸ member)
  constructor
  · rw [hostLabel, List.takeWhile_append_of_pos plain]
    simp
  · rw [hostDomain, List.dropWhile_append_of_pos plain]
    simp

theorem domainLength_split (label rest : WString) (no_dot : 46 ∉ label) :
    domainLength (label ++ 46 :: rest) = rest.length + 1 := by
  have found : find [46] (label ++ 46 :: rest) = some label.length := find_append_cons no_dot [] rest
  simp only [domainLength, found, List.length_append, List.length_cons]
  omega

theorem cStr_units (s : WideCString) : (cStr s.units).units = s.units := by
  rw [cStr, List.takeWhile_eq_self_iff]
  intro unit member
  exact bne_iff_ne.mpr fun null => s.no_null (null ▸ member)

theorem dnsNameMatches_wildcard {compare : WideCString → WideCString → Bool} {host : WString}
    {name : WideCString} {suffix : WString} (star : name.units = 42 :: 46 :: suffix) :
    dnsNameMatches compare host name = true ↔
      compare (cStr host) name = true ∨ domainLength host = suffix.length + 1 := by
  have length : domainLength (42 :: 46 :: suffix) = suffix.length + 1 :=
    domainLength_split [42] _ (by decide)
  simp only [dnsNameMatches, star, length]
  grind

theorem domainLength_of_sameName {host suffix : WString} (same : SameName host (42 :: 46 :: suffix)) :
    domainLength host = suffix.length + 1 := by
  obtain ⟨domain, rfl, others⟩ := (sameName_cons (by decide)).mp same
  obtain ⟨rest, rfl, tail⟩ := sameName_cons_dot.mp others
  rw [← tail.length_eq]
  exact domainLength_split [42] rest (by decide)

theorem endsIn_iff {host suffix : WString} (label rest : WString) (split : host = label ++ 46 :: rest)
    (lengths : rest.length = suffix.length) :
    EndsIn host (46 :: suffix) ↔ SameName (46 :: rest) (46 :: suffix) := by
  constructor
  · rintro ⟨front, back, split', same⟩
    have tail : back.length = (46 :: rest).length := by
      rw [same.length_eq, List.length_cons, List.length_cons, lengths]
    obtain ⟨-, rfl⟩ := List.append_inj' (split'.symm.trans split) tail
    exact same
  · exact fun same => ⟨label, 46 :: rest, split, same⟩

theorem wildcard_split_iff {host label rest suffix : WString} (split : host = label ++ 46 :: rest)
    (no_dot : 46 ∉ label) (some_suffix : suffix ≠ []) :
    Wildcard host (42 :: 46 :: suffix) ↔
      SameName (46 :: rest) (46 :: suffix) ∧ label ≠ [] ∧ 42 ∉ label := by
  constructor
  · rintro ⟨label', covered, rest', pattern, -, split', same, some_label, one_label, starless⟩
    obtain rfl : suffix = covered := by simpa using pattern
    obtain ⟨first, domain⟩ := hostLabel_split rest no_dot
    obtain ⟨first', domain'⟩ := hostLabel_split rest' one_label
    rw [← split] at first domain
    rw [← split', first] at first'
    rw [← split', domain] at domain'
    subst first'
    exact ⟨domain' ▸ sameName_cons_dot.mpr ⟨rest', rfl, same⟩, some_label, starless⟩
  · rintro ⟨same, some_label, starless⟩
    obtain ⟨rest', tail, same⟩ := sameName_cons_dot.mp same
    obtain rfl := List.cons.inj tail |>.2
    exact ⟨label, suffix, rest, rfl, some_suffix, split, same, some_label, no_dot, starless⟩

section
variable {compare : WideCString → WideCString → Bool} (folds : CaseInsensitive compare)
  {host name : WideCString} {label rest suffix : WString} (asciiHost : IsAscii host.units)
  (asciiName : IsAscii name.units) (split : host.units = label ++ 46 :: rest) (no_dot : 46 ∉ label)
  (star : name.units = 42 :: 46 :: suffix)
include folds asciiHost asciiName split no_dot star

/-- The older rule never looks at the units behind the first dot. -/
theorem dnsNameMatches_length :
    dnsNameMatches compare host.units name = true ↔ rest.length = suffix.length := by
  have length : domainLength host.units = rest.length + 1 := by rw [split, domainLength_split label rest no_dot]
  rw [dnsNameMatches_wildcard star, length, Nat.add_right_cancel_iff]
  constructor
  · rintro (equal | lengths)
    · have ascii' : IsAscii (cStr host.units).units := by rwa [cStr_units]
      have same := (folds _ _ ascii' asciiName).mp equal
      rw [cStr_units, star] at same
      have := domainLength_of_sameName same
      omega
    · exact lengths
  · exact .inr

end

/-- The two rules agree, and the older one is sound, unless the part of the host from its first
dot is as long as the suffix without being it, or the label in front of it is none. -/
theorem dnsNameMatches_agrees_iff (compare : WideCString → WideCString → Bool)
    (folds : CaseInsensitive compare) (host name : WideCString) (suffix : WString)
    (asciiHost : IsAscii host.units) (asciiName : IsAscii name.units) (dotted : 46 ∈ host.units)
    (star : name.units = 42 :: 46 :: suffix) (some_suffix : suffix ≠ []) :
    (dnsNameMatches compare host.units name = true → EndsIn host.units (46 :: suffix)) ∧
        dnsNameMatches compare host.units name = matchesWildcard host.units name.units ↔
      ((hostDomain host.units).length = suffix.length + 1 →
        SameName (hostDomain host.units) (46 :: suffix) ∧ hostLabel host.units ≠ [] ∧
          42 ∉ hostLabel host.units) := by
  obtain ⟨label, rest, split, no_dot⟩ := List.eq_append_cons_of_mem dotted
  have accepts := dnsNameMatches_length folds asciiHost asciiName split no_dot star
  have covers : matchesWildcard host.units name.units = true ↔
      SameName (46 :: rest) (46 :: suffix) ∧ label ≠ [] ∧ 42 ∉ label := by
    rw [wildcard_of_latin asciiHost.latin asciiName.latin, star]
    exact wildcard_split_iff split no_dot some_suffix
  obtain ⟨first, domain⟩ := hostLabel_split rest no_dot
  rw [← split] at first domain
  have agrees := Bool.eq_iff_iff (a := dnsNameMatches compare host.units name)
    (b := matchesWildcard host.units name.units)
  rw [first, domain, List.length_cons, Nat.add_right_cancel_iff, agrees, covers, accepts]
  constructor
  · exact fun ⟨_, agree⟩ lengths => agree.mp lengths
  · intro told
    refine ⟨fun lengths => ?_, told, fun ⟨same, _⟩ => ?_⟩
    · exact (endsIn_iff label rest split lengths).mpr (told lengths).1
    · simpa using same.length_eq

/-- Equality up to the case of ASCII letters, as a comparison of C strings. -/
def compareAscii (left right : WideCString) : Bool := decide (SameName left.units right.units)

theorem compareAscii_folds : CaseInsensitive compareAscii := by
  intro left right _ _
  exact decide_eq_true_iff

theorem dnsNameMatches_agrees_label :
    (dnsNameMatches compareAscii (cStr (wide "a.B.com")).units (cStr (wide "*.b.com")) = true →
        EndsIn (cStr (wide "a.B.com")).units (wide ".b.com")) ∧
      dnsNameMatches compareAscii (cStr (wide "a.B.com")).units (cStr (wide "*.b.com")) =
        matchesWildcard (cStr (wide "a.B.com")).units (cStr (wide "*.b.com")).units :=
  (dnsNameMatches_agrees_iff compareAscii compareAscii_folds _ _ (wide "b.com") (by decide)
    (by decide) (by decide) (by decide) (by decide)).mpr (by decide)

/-- Two domains of one length are one to the older rule. -/
theorem other_domain_accepted :
    matchCertificateName compareAscii
        { subjectAltName2 := some (some [.dnsName (cStr (wide "*.good1.com"))]) }
        (cStr (wide "www.evil1.com")) = true ∧
      dnsNameMatches compareAscii (wide "www.evil1.com") (cStr (wide "*.good1.com")) = true ∧
      ¬ EndsIn (wide "www.evil1.com") (wide ".good1.com") ∧
      matchesWildcard (wide "www.evil1.com") (wide "*.good1.com") = false := by
  refine ⟨by decide, by decide, ?_, by decide⟩
  exact mt (endsIn_iff (wide "www") (wide "evil1.com") (by decide) (by decide)).mp (by decide)

/-! ## The names of a certificate -/

/-- The names `MatchCertificateName` tries: the common name stands in only where no alternative
name extension decodes. -/
def CertContext.names (certContext : CertContext) : List WideCString :=
  match certContext.subjectAltName2.or certContext.subjectAltName with
  | some (some entries) => entries.filterMap fun
      | .dnsName name => some name
      | .other => none
  | _ => certContext.commonName.toList

theorem matchCertificateName_iff (compare : WideCString → WideCString → Bool) (certContext : CertContext)
    (host : WideCString) :
    matchCertificateName compare certContext host = true ↔
      ∃ name ∈ certContext.names, dnsNameMatches compare host.units name = true := by
  rw [matchCertificateName, CertContext.names]
  rcases certContext.subjectAltName2.or certContext.subjectAltName with _ | _ | entries
  · cases certContext.commonName <;> simp
  · cases certContext.commonName <;> simp
  · simp only [List.any_eq_true, List.mem_filterMap]
    constructor
    · rintro ⟨entry, member, accepted⟩
      cases entry with
      | dnsName name => exact ⟨name, ⟨_, member, rfl⟩, accepted⟩
      | other => cases accepted
    · rintro ⟨name, ⟨entry, member, shown⟩, accepted⟩
      cases entry with
      | dnsName name' =>
          obtain rfl := Option.some.inj shown
          exact ⟨_, member, accepted⟩
      | other => cases shown

end LuaXENetwork
