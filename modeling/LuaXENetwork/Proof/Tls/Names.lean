import LuaXENetwork.Proof.Tls.Verify

/-! Which host a name of the certificate covers, and which ones `VerifyName` accepts for it. -/

namespace LuaXENetwork

/-- Folds the case of the ASCII letters, and nothing else. -/
def foldUnit (unit : UInt16) : UInt16 := if 65 ≤ unit ∧ unit ≤ 90 then unit + 32 else unit

/-- Equal unit for unit, up to the case of ASCII letters. -/
def SameName (left right : WString) : Prop := left.map foldUnit = right.map foldUnit

instance (left right : WString) : Decidable (SameName left right) :=
  inferInstanceAs (Decidable (left.map foldUnit = right.map foldUnit))

/-- The lengths differ, or somewhere the low bytes do, beyond the case of a letter. -/
def Apart (left right : WString) : Prop :=
  left.length ≠ right.length ∨ ∃ pair ∈ left.zip right, lowerUnit pair.1 ≠ lowerUnit pair.2

/-- Where the names differ, neither unit is above Latin-1. -/
def Narrow (left right : WString) : Prop :=
  ∀ pair ∈ left.zip right, pair.1 ≠ pair.2 → pair.1 < 256 ∧ pair.2 < 256

theorem lowerUnit_foldUnit (unit : UInt16) : lowerUnit (foldUnit unit) = lowerUnit unit := by
  rw [foldUnit]
  split
  · rename_i letter
    simp only [lowerUnit, lowerByte, UInt8.le_iff_toNat_le, UInt16.le_iff_toNat_le, UInt8.ext_iff] at *
    simp at *
    grind
  · rfl

theorem toUInt16_lowerUnit {unit : UInt16} (narrow : unit < 256) :
    (lowerUnit unit).toUInt16 = foldUnit unit := by
  have small : unit.toUInt8.toNat = unit.toNat := by
    rw [UInt16.toNat_toUInt8]
    exact Nat.mod_eq_of_lt narrow
  have letter : (65 ≤ unit.toUInt8 ∧ unit.toUInt8 ≤ 90) ↔ (65 ≤ unit ∧ unit ≤ 90) := by
    simp only [UInt8.le_iff_toNat_le, small, UInt16.le_iff_toNat_le]
    exact Iff.rfl
  rw [lowerUnit, lowerByte, foldUnit, ← UInt16.toNat_inj]
  by_cases upper : 65 ≤ unit ∧ unit ≤ 90
  · have least := UInt16.le_iff_toNat_le.mp upper.2
    rw [if_pos (letter.mpr upper), if_pos upper, UInt8.toNat_toUInt16, UInt8.toNat_add, UInt16.toNat_add, small]
    simp at least ⊢
    omega
  · rw [if_neg (mt letter.mp upper), if_neg upper, UInt8.toNat_toUInt16, small]

theorem foldUnit_of_ne {left right : UInt16} (same : foldUnit left = foldUnit right) (differ : left ≠ right) :
    left < 256 ∧ right < 256 := by
  simp only [foldUnit, UInt16.le_iff_toNat_le, UInt16.lt_iff_toNat_lt, ← UInt16.toNat_inj, ne_eq] at *
  split at same <;> split at same <;> simp at * <;> omega

theorem foldUnit_of_narrow {left right : UInt16} (low : lowerUnit left = lowerUnit right)
    (narrow : left ≠ right → left < 256 ∧ right < 256) : foldUnit left = foldUnit right := by
  by_cases same : left = right
  · rw [same]
  · rw [← toUInt16_lowerUnit (narrow same).1, ← toUInt16_lowerUnit (narrow same).2, low]

theorem lowerUnit_of_fold {left right : UInt16} (same : foldUnit left = foldUnit right) :
    lowerUnit left = lowerUnit right := by
  rw [← lowerUnit_foldUnit left, same, lowerUnit_foldUnit]

theorem map_eq_map_iff_zip {α β : Type} (f : α → β) (left right : List α) :
    left.map f = right.map f ↔
      left.length = right.length ∧ ∀ pair ∈ left.zip right, f pair.1 = f pair.2 := by
  induction left generalizing right with
  | nil => cases right <;> simp
  | cons unit left ih =>
      cases right with
      | nil => simp
      | cons unit' right => simp [ih, and_left_comm]

theorem asciiEqualsInsensitive_iff (left right : WString) :
    asciiEqualsInsensitive left right = true ↔ ¬ Apart left right := by
  have maps := map_eq_map_iff_zip lowerUnit left right
  simp only [asciiEqualsInsensitive, Apart, Bool.and_eq_true, decide_eq_true_eq, beq_iff_eq, not_or, ne_eq,
    not_not, not_exists, not_and]
  exact ⟨fun ⟨length, same⟩ => maps.mp same, fun same => ⟨same.1, maps.mpr same⟩⟩

theorem SameName.not_apart {left right : WString} (same : SameName left right) : ¬ Apart left right := by
  obtain ⟨length, units⟩ := (map_eq_map_iff_zip ..).mp same
  rintro (differ | ⟨pair, member, differ⟩)
  · exact differ length
  · exact differ (lowerUnit_of_fold (units pair member))

theorem SameName.narrow {left right : WString} (same : SameName left right) : Narrow left right :=
  fun pair member differ => foldUnit_of_ne (((map_eq_map_iff_zip ..).mp same).2 pair member) differ

theorem SameName.of_narrow {left right : WString} (together : ¬ Apart left right)
    (narrow : Narrow left right) : SameName left right := by
  simp only [Apart, not_or, ne_eq, not_not, not_exists, not_and] at together
  refine (map_eq_map_iff_zip ..).mpr ⟨together.1, fun pair member => ?_⟩
  exact foldUnit_of_narrow (together.2 pair member) (narrow pair member)

theorem equals_sound_iff (left right : WString) :
    (asciiEqualsInsensitive left right = true → SameName left right) ↔
      Apart left right ∨ Narrow left right := by
  rw [asciiEqualsInsensitive_iff]
  constructor
  · intro sound
    by_cases apart : Apart left right
    · exact .inl apart
    · exact .inr (sound apart).narrow
  · rintro (apart | narrow) together
    · exact absurd apart together
    · exact .of_narrow together narrow

theorem SameName.length_eq {left right : WString} (same : SameName left right) :
    left.length = right.length := ((map_eq_map_iff_zip ..).mp same).1

/-! ## Wildcards -/

structure Covers (host pattern label rest : WString) : Prop where
  split : host = label ++ rest
  length : rest.length + 1 = pattern.length
  star : pattern.take 2 = [42, 46]
  long : 3 ≤ pattern.length
  some_label : label ≠ []
  one_label : 46 ∉ label
  starless : 42 ∉ label
  dotted : 46 ∈ host

theorem matchesWildcard_eq (host pattern : WString) {size : Nat}
    (offset : host.length - (pattern.drop 1).length = size) :
    matchesWildcard host pattern = true ↔
      (3 ≤ pattern.length ∧ pattern.take 2 = [42, 46]) ∧ (pattern.drop 1).length < host.length ∧ 46 ∈ host ∧
        asciiEqualsInsensitive (host.drop size) (pattern.drop 1) = true ∧
        (host.take size ≠ [] ∧ 42 ∉ host.take size) ∧ 46 ∉ host.take size := by
  rw [matchesWildcard, offset]
  grind

theorem Covers.offset {host pattern label rest : WString} (covers : Covers host pattern label rest) :
    host.length - (pattern.drop 1).length = label.length := by
  have length := covers.length
  rw [covers.split, List.length_append, List.length_drop]
  omega

theorem matchesWildcard_iff (host pattern : WString) :
    matchesWildcard host pattern = true ↔
      ∃ label rest, Covers host pattern label rest ∧ ¬ Apart rest (pattern.drop 1) := by
  simp only [← asciiEqualsInsensitive_iff]
  constructor
  · intro accepted
    obtain ⟨⟨long, star⟩, shorter, dotted, same, ⟨some_label, starless⟩, one_label⟩ :=
      (matchesWildcard_eq host pattern rfl).mp accepted
    rw [List.length_drop] at shorter
    refine ⟨_, _, ⟨(List.take_append_drop _ host).symm, ?_, star, long, some_label, one_label, starless, dotted⟩,
      same⟩
    simp only [List.length_drop]
    omega
  · rintro ⟨label, rest, covers, same⟩
    have front : host.take label.length = label := by rw [covers.split, List.take_left]
    have back : host.drop label.length = rest := by rw [covers.split, List.drop_left]
    refine (matchesWildcard_eq host pattern covers.offset).mpr ?_
    rw [front, back]
    refine ⟨⟨covers.long, covers.star⟩, ?_, covers.dotted, same, ⟨covers.some_label, covers.starless⟩,
      covers.one_label⟩
    have length := covers.length
    have label_length := List.length_pos_iff.mpr covers.some_label
    rw [covers.split, List.length_append, List.length_drop]
    omega

/-- The wildcard stands for one whole left-most label. -/
def Wildcard (host pattern : WString) : Prop :=
  ∃ label rest rest', pattern = 42 :: 46 :: rest ∧ rest ≠ [] ∧ host = label ++ 46 :: rest' ∧
    SameName rest' rest ∧ label ≠ [] ∧ 46 ∉ label ∧ 42 ∉ label

theorem foldUnit_eq_symbol {unit symbol : UInt16} (low : symbol < 65) (same : foldUnit unit = symbol) :
    unit = symbol := by
  rw [foldUnit] at same
  split at same
  · simp only [UInt16.le_iff_toNat_le, UInt16.lt_iff_toNat_lt, ← UInt16.toNat_inj] at *
    simp at *
    omega
  · exact same

/-- No case folding touches the dot and the star. -/
theorem sameName_cons {symbol : UInt16} {left right : WString} (low : symbol < 65) :
    SameName left (symbol :: right) ↔ ∃ rest, left = symbol :: rest ∧ SameName rest right := by
  have fixed : foldUnit symbol = symbol := if_neg fun letter => absurd low (UInt16.not_lt.mpr letter.1)
  constructor
  · intro same
    cases left with
    | nil => exact nomatch same
    | cons unit left =>
        obtain ⟨first, others⟩ := List.cons.inj same
        exact ⟨left, by rw [foldUnit_eq_symbol low (first.trans fixed)], others⟩
  · rintro ⟨rest, rfl, same⟩
    exact congrArg (foldUnit symbol :: ·) same

theorem sameName_cons_dot {left right : WString} :
    SameName left (46 :: right) ↔ ∃ rest, left = 46 :: rest ∧ SameName rest right := sameName_cons (by decide)

theorem wildcard_iff (host pattern : WString) :
    Wildcard host pattern ↔ ∃ label rest, Covers host pattern label rest ∧ SameName rest (pattern.drop 1) := by
  constructor
  · rintro ⟨label, rest, rest', rfl, long, split, same, some_label, one_label, starless⟩
    have length := same.length_eq
    have rest_length := List.length_pos_iff.mpr long
    refine ⟨label, 46 :: rest', ⟨split, by simp [length], rfl, ?_, some_label, one_label, starless, ?_⟩, ?_⟩
    · simp only [List.length_cons]
      omega
    · rw [split]
      exact List.mem_append_right _ List.mem_cons_self
    · exact sameName_cons_dot.mpr ⟨rest', rfl, same⟩
  · rintro ⟨label, rest, covers, same⟩
    obtain ⟨split, length, star, long, some_label, one_label, starless, dotted⟩ := covers
    match pattern, star, long with
    | [_, _], _, long => simp at long
    | _ :: _ :: unit :: others, star, _ =>
        simp only [List.take_succ_cons, List.take_zero, List.cons.injEq, and_true] at star
        obtain ⟨rfl, rfl⟩ := star
        obtain ⟨rest', rfl, tail⟩ := sameName_cons_dot.mp same
        exact ⟨label, unit :: others, rest', rfl, by simp, split, tail, some_label, one_label, starless⟩

theorem wildcard_sound_iff (host pattern : WString) :
    (matchesWildcard host pattern = true → Wildcard host pattern) ↔
      ∀ label rest, Covers host pattern label rest →
        Apart rest (pattern.drop 1) ∨ Narrow rest (pattern.drop 1) := by
  rw [matchesWildcard_iff, wildcard_iff]
  constructor
  · intro sound label rest covers
    by_cases apart : Apart rest (pattern.drop 1)
    · exact .inl apart
    · obtain ⟨label', rest', covers', same⟩ := sound ⟨label, rest, covers, apart⟩
      have suffix : rest.length = rest'.length := by
        have := covers.length
        have := covers'.length
        omega
      obtain ⟨-, rfl⟩ := List.append_inj' (covers.split.symm.trans covers'.split) suffix
      exact .inr same.narrow
  · rintro told ⟨label, rest, covers, together⟩
    rcases told label rest covers with apart | narrow
    · exact absurd apart together
    · exact ⟨label, rest, covers, .of_narrow together narrow⟩

def IsLatin (text : WString) : Prop := ∀ unit ∈ text, unit < 256

def IsAscii (text : WString) : Prop := ∀ unit ∈ text, unit < 128

instance (text : WString) : Decidable (IsAscii text) := List.decidableBAll _ text

theorem IsAscii.latin {text : WString} (ascii : IsAscii text) : IsLatin text := by
  intro unit member
  exact UInt16.lt_trans (ascii unit member) (by decide)

theorem IsLatin.narrow {left right : WString} (latin : IsLatin left) (latin' : IsLatin right) :
    Narrow left right := by
  rintro ⟨unit, unit'⟩ member -
  obtain ⟨first, second⟩ := List.of_mem_zip member
  exact ⟨latin unit first, latin' unit' second⟩

theorem equals_of_latin {left right : WString} (latin : IsLatin left) (latin' : IsLatin right) :
    asciiEqualsInsensitive left right = true ↔ SameName left right := by
  constructor
  · exact (equals_sound_iff left right).mpr (.inr (latin.narrow latin'))
  · exact fun same => (asciiEqualsInsensitive_iff left right).mpr same.not_apart

theorem wildcard_of_latin {host pattern : WString} (latin : IsLatin host) (latin' : IsLatin pattern) :
    matchesWildcard host pattern = true ↔ Wildcard host pattern := by
  constructor
  · refine (wildcard_sound_iff host pattern).mpr fun label rest covers => .inr (IsLatin.narrow ?_ ?_)
    · intro unit member
      exact latin unit (by rw [covers.split]; exact List.mem_append_right _ member)
    · exact fun unit member => latin' unit (List.mem_of_mem_drop member)
  · rw [wildcard_iff, matchesWildcard_iff]
    rintro ⟨label, rest, covers, same⟩
    exact ⟨label, rest, covers, same.not_apart⟩

theorem matchesWildcard_ascii_iff (host pattern : WString) (asciiHost : IsAscii host)
    (asciiPattern : IsAscii pattern) : matchesWildcard host pattern = true ↔ Wildcard host pattern :=
  wildcard_of_latin asciiHost.latin asciiPattern.latin

theorem matchesWildcard_ascii_www :
    matchesWildcard (wide "www.Example.com") (wide "*.example.com") = true ↔
      Wildcard (wide "www.Example.com") (wide "*.example.com") :=
  matchesWildcard_ascii_iff _ _ (by decide) (by decide)

/-! ## `VerifyName` -/

/-- A name by which `VerifyName` may accept a host that is no IP literal. -/
inductive NameSource where
  | dnsName (name : WString)
  | wildcard (pattern : WString)
  | commonName (name : WString)

namespace NameSource

def accepts (host : WString) : NameSource → Bool
  | dnsName name => asciiEqualsInsensitive name host
  | wildcard pattern => matchesWildcard host pattern
  | commonName name => asciiEqualsInsensitive (CertificateVerifier.simpleName name) host

/-- The name of the certificate is that of the host, or the wildcard stands for one label of it. -/
def Certifies (host : WString) : NameSource → Prop
  | dnsName name => SameName name host
  | wildcard pattern => Wildcard host pattern
  | commonName name => SameName name host

/-- The comparison is decided by lengths and low bytes, or meets nothing above Latin-1 that differs;
of a common name it sees what stands before the first comma. -/
def Told (host : WString) : NameSource → Prop
  | dnsName name => Apart name host ∨ Narrow name host
  | wildcard pattern => ∀ label rest, Covers host pattern label rest →
      Apart rest (pattern.drop 1) ∨ Narrow rest (pattern.drop 1)
  | commonName name => Apart (CertificateVerifier.simpleName name) host ∨ 44 ∉ name ∧ Narrow name host

end NameSource

namespace CertificateVerifier

variable {platform : Platform} {v : CertificateVerifier} {certificate : Certificate}
  {answer : ChainAnswer}

theorem simpleName_eq {name : WString} (none_cut : 44 ∉ name) : simpleName name = name :=
  List.takeWhile_eq_self_iff.mpr fun unit member => by
    simpa using fun comma : unit = 44 => none_cut (comma ▸ member)

theorem simpleName_shorter {name : WString} (cut : 44 ∈ name) : (simpleName name).length < name.length := by
  have front := List.takeWhile_prefix (fun unit : UInt16 => decide (unit ≠ 44)) (l := name)
  refine lt_of_le_of_ne front.length_le fun same => ?_
  have whole := front.eq_of_length same
  have comma := List.takeWhile_eq_self_iff.mp whole 44 cut
  simp at comma

theorem told_iff (host : WString) (source : NameSource) :
    (source.accepts host = true → source.Certifies host) ↔ source.Told host := by
  cases source with
  | dnsName name => exact equals_sound_iff name host
  | wildcard pattern => exact wildcard_sound_iff host pattern
  | commonName name =>
      by_cases cut : 44 ∈ name
      · have shorter := simpleName_shorter cut
        rw [NameSource.accepts, NameSource.Certifies, NameSource.Told, asciiEqualsInsensitive_iff]
        constructor
        · intro sound
          by_contra told
          have together : ¬ Apart (simpleName name) host := fun apart => told (.inl apart)
          have length := (sound together).length_eq
          have same : (simpleName name).length = host.length := by
            by_contra differ
            exact together (.inl differ)
          omega
        · rintro (apart | ⟨none_cut, -⟩) together
          · exact absurd apart together
          · exact absurd cut none_cut
      · have sound := equals_sound_iff name host
        simpa only [NameSource.accepts, NameSource.Certifies, NameSource.Told, simpleName_eq cut, cut,
          not_false_eq_true, true_and] using sound

/-- What `VerifyName` goes by, one after the other; for an IP literal it is none of them. -/
def nameSources (platform : Platform) (v : CertificateVerifier) (certificate : Certificate)
    (answer : ChainAnswer) : List NameSource :=
  let names := (readAltNames platform certificate).2.dnsNames
  if isIpLiteral platform v.host then []
  else if names = [] then answer.commonName.toList.map .commonName
  else names.flatMap fun name => [.dnsName name, .wildcard name]

theorem verifyCommonName_accepts (v : CertificateVerifier) (answer : ChainAnswer) :
    (v.verifyCommonName answer).1 = true ↔
      ∃ name, answer.commonName = some name ∧ asciiEqualsInsensitive (simpleName name) v.host = true := by
  rw [verifyCommonName]
  cases answer.commonName with
  | none => simp
  | some name =>
      by_cases same : asciiEqualsInsensitive (simpleName name) v.host = true
      · simp [same]
      · simp [same]

theorem dnsSources_accept (host : WString) (names : List WString) :
    (∃ source ∈ names.flatMap fun name => [NameSource.dnsName name, NameSource.wildcard name],
        source.accepts host = true) ↔
      (names.any fun name => asciiEqualsInsensitive name host || matchesWildcard host name) = true := by
  simp only [List.mem_flatMap, List.any_eq_true, Bool.or_eq_true]
  constructor
  · rintro ⟨source, ⟨name, member, kind⟩, accepted⟩
    rcases List.mem_pair.mp kind with rfl | rfl
    · exact ⟨name, member, .inl accepted⟩
    · exact ⟨name, member, .inr accepted⟩
  · rintro ⟨name, member, accepted | accepted⟩
    · exact ⟨.dnsName name, ⟨name, member, by simp⟩, accepted⟩
    · exact ⟨.wildcard name, ⟨name, member, by simp⟩, accepted⟩

theorem verifyName_accepts_iff (platform : Platform) (v : CertificateVerifier) (certificate : Certificate)
    (answer : ChainAnswer) :
    (∃ source ∈ nameSources platform v certificate answer, source.accepts v.host = true) ↔
      isIpLiteral platform v.host = false ∧ (v.verifyName platform certificate answer).1 = true := by
  rw [nameSources, verifyName]
  rcases readAltNames platform certificate with ⟨found, names⟩
  dsimp only
  by_cases literal : isIpLiteral platform v.host = true
  · simp [literal]
  rw [if_neg literal, if_neg literal]
  have named : isIpLiteral platform v.host = false := by simpa using literal
  by_cases unnamed : names.dnsNames = []
  · rw [if_pos unnamed, if_neg (by simp [unnamed]), if_neg (by simp [unnamed]), verifyCommonName_accepts]
    simp [named, NameSource.accepts]
  · rw [if_neg unnamed]
    rw [dnsSources_accept]
    by_cases matched : (names.dnsNames.any fun name =>
        asciiEqualsInsensitive name v.host || matchesWildcard v.host name) = true
    · rw [if_pos matched]
      simp [named, matched]
    · rw [if_neg matched, if_pos unnamed]
      simp [named, matched]

/-- When the comparisons, and with them `VerifyName`, take no other name for that of the host. -/
theorem names_sound_iff (left right : WString) (platform : Platform) (v : CertificateVerifier)
    (certificate : Certificate) (answer : ChainAnswer) :
    ((asciiEqualsInsensitive left right = true → SameName left right) ↔
      Apart left right ∨ Narrow left right) ∧
    (isIpLiteral platform v.host = false ∧ (v.verifyName platform certificate answer).1 = true ↔
      ∃ source ∈ nameSources platform v certificate answer, source.accepts v.host = true) ∧
    ((∀ source ∈ nameSources platform v certificate answer,
        source.accepts v.host = true → source.Certifies v.host) ↔
      ∀ source ∈ nameSources platform v certificate answer, source.Told v.host) := by
  refine ⟨equals_sound_iff left right, ?_, ?_⟩
  · exact (verifyName_accepts_iff platform v certificate answer).symm
  · exact forall₂_congr fun source _ => told_iff v.host source

/-- The host `š`, and a certificate for `a`. -/
theorem names_collide :
    ¬ (asciiEqualsInsensitive [0x61] [0x161] = true → SameName [0x61] [0x161]) ∧
    (verifyName .blank (create [0x161] [] true true .noStore)
      { encoded := [] } { commonName := some [0x61] }).1 = true ∧
    ¬ SameName [0x61] [0x161] := by decide

/-! ## Precedence -/

/-- The host is covered by the names of the certificate: by addresses an IP literal, else by DNS names,
and by the common name only where there is no DNS name. -/
def Named (platform : Platform) (host : WString) (names : AltNames) (commonName : Option WString) : Prop :=
  (isIpLiteral platform host = true ∧ canonicalIp platform host ∈ names.ipNames) ∨
  (isIpLiteral platform host = false ∧ ∃ name ∈ names.dnsNames, SameName name host ∨ Wildcard host name) ∨
  (isIpLiteral platform host = false ∧ names.dnsNames = [] ∧
    ∃ name, commonName = some name ∧ SameName name host)

/-- The cut at the first comma makes no difference to what is compared with the host. -/
def CutUnseen (host name : WString) : Prop :=
  44 ∉ name ∨ (¬ SameName (simpleName name) host ∧ ¬ SameName name host)

theorem verifyIpName_accepts (hasSan : Bool) (names : AltNames)
    (literal : isIpLiteral platform v.host = true) :
    (v.verifyIpName platform hasSan names).1 = true ↔ canonicalIp platform v.host ∈ names.ipNames := by
  have target : canonicalIp platform v.host ≠ [] := by simpa [isIpLiteral] using literal
  have matches_iff : (names.ipNames.any fun name =>
      decide (canonicalIp platform v.host ≠ []) && name == canonicalIp platform v.host) = true ↔
        canonicalIp platform v.host ∈ names.ipNames := by
    simp [target]
  rw [verifyIpName]
  by_cases found : canonicalIp platform v.host ∈ names.ipNames
  · rw [if_pos (matches_iff.mpr found)]
    simp [found]
  · rw [if_neg (mt matches_iff.mp found)]
    split <;> simp [found]

def Refused (v : CertificateVerifier) (result : Bool × CertificateVerifier) : Prop :=
  result.1 = false → result.2.failed = true ∧ (v.failed = false → result.2.code = "tls_name_mismatch")

theorem Refused.fail (v : CertificateVerifier) (text : Bytes) :
    Refused v (false, v.fail "tls_name_mismatch" text) := by
  refine fun _ => ⟨fail_failed .., fun fresh => ?_⟩
  simp [CertificateVerifier.fail, fresh]

theorem Refused.accept (v : CertificateVerifier) : Refused v (true, v) := nofun

theorem verifyName_refused (platform : Platform) (v : CertificateVerifier) (certificate : Certificate)
    (answer : ChainAnswer) : Refused v (v.verifyName platform certificate answer) := by
  rw [verifyName]
  dsimp only
  split
  · rw [verifyIpName]
    split
    · exact .accept v
    · split <;> exact Refused.fail v _
  split
  · exact .accept v
  split
  · exact Refused.fail v _
  · rw [verifyCommonName]
    split
    · exact Refused.fail v _
    · split
      · exact .accept v
      · exact Refused.fail v _

theorem simpleName_latin {name : WString} (latin : IsLatin name) : IsLatin (simpleName name) :=
  fun unit member => latin unit ((List.takeWhile_prefix _).subset member)

theorem commonName_iff {host name : WString} (latinHost : IsLatin host) (latinName : IsLatin name) :
    (asciiEqualsInsensitive (simpleName name) host = true ↔ SameName name host) ↔ CutUnseen host name := by
  rw [equals_of_latin (simpleName_latin latinName) latinHost, CutUnseen]
  by_cases cut : 44 ∈ name
  · have shorter := simpleName_shorter cut
    constructor
    · refine fun same => .inr (not_or.mp ?_)
      rintro (front | whole)
      · have := front.length_eq.trans (same.mp front).length_eq.symm
        omega
      · have := whole.length_eq.trans (same.mpr whole).length_eq.symm
        omega
    · rintro (uncut | ⟨front, whole⟩)
      · exact absurd cut uncut
      · exact iff_of_false front whole
  · rw [simpleName_eq cut]
    exact iff_of_true Iff.rfl (.inl cut)

/-- `VerifyName` is exact but for common names with a comma. -/
theorem verifyName_exact_iff (platform : Platform) (v : CertificateVerifier) (certificate : Certificate)
    (answer : ChainAnswer) (asciiHost : IsAscii v.host)
    (asciiNames : ∀ name ∈ (readAltNames platform certificate).2.dnsNames, IsAscii name)
    (asciiCommon : ∀ name, answer.commonName = some name → IsAscii name) :
    (((v.verifyName platform certificate answer).1 = true ↔
        Named platform v.host (readAltNames platform certificate).2 answer.commonName) ∧
      Refused v (v.verifyName platform certificate answer)) ↔
    (isIpLiteral platform v.host = false → (readAltNames platform certificate).2.dnsNames = [] →
      ∀ name, answer.commonName = some name → CutUnseen v.host name) := by
  rw [and_iff_left (verifyName_refused platform v certificate answer), verifyName]
  generalize readAltNames platform certificate = read at asciiNames ⊢
  obtain ⟨found, names⟩ := read
  dsimp only at asciiNames ⊢
  by_cases literal : isIpLiteral platform v.host = true
  · rw [if_pos literal, verifyIpName_accepts found names literal]
    simp [Named, literal]
  rw [if_neg literal]
  have named : isIpLiteral platform v.host = false := by simpa using literal
  have each : ∀ name ∈ names.dnsNames,
      ((asciiEqualsInsensitive name v.host || matchesWildcard v.host name) = true ↔
        SameName name v.host ∨ Wildcard v.host name) := by
    intro name member
    rw [Bool.or_eq_true, equals_of_latin (asciiNames name member).latin asciiHost.latin,
      wildcard_of_latin asciiHost.latin (asciiNames name member).latin]
  have matched_iff : (names.dnsNames.any fun name =>
      asciiEqualsInsensitive name v.host || matchesWildcard v.host name) = true ↔
        ∃ name ∈ names.dnsNames, SameName name v.host ∨ Wildcard v.host name := by
    rw [List.any_eq_true]
    exact exists_congr fun name => and_congr_right (each name)
  by_cases unnamed : names.dnsNames = []
  · rw [if_neg (by simp [unnamed]), if_neg (by simp [unnamed]), verifyCommonName_accepts]
    simp only [Named, named, unnamed, List.not_mem_nil, false_and, exists_false, and_false, false_or, true_and,
      Bool.false_eq_true, forall_const]
    cases common : answer.commonName with
    | none => simp
    | some name =>
        have exact_iff := commonName_iff asciiHost.latin (asciiCommon name common).latin
        simpa using exact_iff
  · by_cases matched : ∃ name ∈ names.dnsNames, SameName name v.host ∨ Wildcard v.host name
    · rw [if_pos (matched_iff.mpr matched)]
      simp [Named, named, unnamed, matched]
    · rw [if_neg (mt matched_iff.mp matched), if_pos unnamed]
      simp [Named, named, unnamed, matched]

/-- The certificate's common name is `a,b`, the host `a`. -/
def commaName : CertificateVerifier := create [97] [] true true .noStore

theorem verifyName_exact_fallback :
    (((commaName.verifyName .blank { encoded := [] } { commonName := some [97] }).1 = true ↔
        Named .blank commaName.host (readAltNames .blank { encoded := [] }).2 (some [97])) ∧
      Refused commaName (commaName.verifyName .blank { encoded := [] } { commonName := some [97] })) ↔
    (isIpLiteral .blank commaName.host = false → (readAltNames .blank { encoded := [] }).2.dnsNames = [] →
      ∀ name, some [97] = some name → CutUnseen commaName.host name) :=
  verifyName_exact_iff .blank commaName { encoded := [] } { commonName := some [97] } (by decide)
    (by decide) (by simp [IsAscii])

theorem verifyName_cuts :
    (commaName.verifyName .blank { encoded := [] } { commonName := some [97, 44, 98] }).1 = true ∧
    ¬ Named .blank commaName.host (readAltNames .blank { encoded := [] }).2 (some [97, 44, 98]) := by
  refine ⟨by decide, ?_⟩
  have unnamed : (readAltNames .blank { encoded := [] }).2.dnsNames = [] := by decide
  rintro (⟨literal, -⟩ | ⟨-, name, member, -⟩ | ⟨-, -, name, common, same⟩)
  · revert literal
    decide
  · rw [unnamed] at member
    exact nomatch member
  · obtain rfl := Option.some.inj common
    revert same
    decide

end CertificateVerifier

end LuaXENetwork
