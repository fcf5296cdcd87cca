import LuaXENetwork.Tls.Verify
import LuaXENetwork.Proof.Tls.Slices

/-! The names `ReadAltNames` reports for well-formed certificates. -/

namespace LuaXENetwork
open Library Element

/-- `Extension ::= SEQUENCE { extnID, critical BOOLEAN OPTIONAL, extnValue OCTET STRING }`. -/
structure CertExtension where
  oid : Bytes
  critical : Option UInt8
  value : Bytes
deriving DecidableEq, Repr

namespace CertExtension

def afterOid (extension : CertExtension) : List Element :=
  (extension.critical.map fun octet => ⟨0x01, [octet]⟩).toList ++ [⟨0x04, extension.value⟩]

def Encodes (extension : CertExtension) (element : Element) : Prop :=
  element.tag = 0x30 ∧ EncodeAll (⟨0x06, extension.oid⟩ :: extension.afterOid) element.content

def likeSan (extension : CertExtension) : Bool := sanOid.isPrefixOf extension.oid

/-- The value that `ReadSanExtension` makes of it. -/
def read (extension : CertExtension) : Option Bytes :=
  match extension.critical with
  | none => if extension.value.head? = some 0x01 then none else some extension.value
  | some octet => if octet = 0x01 then some extension.value else none

end CertExtension

/-- The field `[3]` of a TBSCertificate, if it has one. -/
inductive ExtensionsField : Option (List CertExtension) → List Element → Prop
  | absent : ExtensionsField none []
  | present {extensions : List CertExtension} {items : List Element} {content bytes : Bytes}
      (each : List.Forall₂ CertExtension.Encodes extensions items) (all : EncodeAll items content)
      (sequence : Element.Encodes ⟨0x30, content⟩ bytes) :
      ExtensionsField (some extensions) [⟨0xA3, bytes⟩]

/-- `Certificate ::= SEQUENCE { TBSCertificate, .. }`, the TBSCertificate with any fields before `[3]`. -/
structure DerCertificate where
  fields : List Element
  extensions : Option (List CertExtension)
  signature : Bytes
  untagged : ∀ field ∈ fields, field.tag ≠ 0xA3

namespace DerCertificate

def Encodes (der : DerCertificate) (bytes : Bytes) : Prop :=
  ∃ last content tbs, ExtensionsField der.extensions last ∧ EncodeAll (der.fields ++ last) content ∧
    Element.Encodes ⟨0x30, content⟩ tbs ∧ Element.Encodes ⟨0x30, tbs ++ der.signature⟩ bytes

def extensionList (der : DerCertificate) : List CertExtension := der.extensions.getD []

end DerCertificate

def GeneralNames (names : List Element) (value : Bytes) : Prop :=
  ∃ content, EncodeAll names content ∧ Element.Encodes ⟨0x30, content⟩ value

/-! ## Reading one extension -/

theorem parse_encodes {element : Element} {bytes : Bytes} (encodes : Element.Encodes element bytes) :
    parse bytes = some (element, []) := by
  have found := parse_append encodes []
  rwa [List.append_nil] at found

theorem encodes_head {element : Element} {bytes : Bytes} (encodes : Element.Encodes element bytes) :
    bytes.head? = some element.tag := by
  obtain ⟨octets, -, rfl⟩ := encodes
  rfl

theorem encodeAll_singleton {element : Element} {bytes : Bytes} :
    EncodeAll [element] bytes ↔ Element.Encodes element bytes := by
  rw [encodeAll_cons]
  simp [encodeAll_nil]

theorem head_one {value behind : Bytes} (told : value ≠ [] ∨ behind.head? = some 0x30) :
    (value ++ behind).headD 0 = 0x01 ↔ value.head? = some 0x01 := by
  cases value with
  | cons byte value => simp
  | nil =>
      have next : behind.head? = some 0x30 := told.resolve_left (by simp)
      rw [List.nil_append, List.headD_eq_head?_getD, next]
      decide

theorem sanValueOf_encodes {extension : CertExtension} {rest behind : Bytes}
    (encodes : EncodeAll extension.afterOid rest)
    (told : extension.value ≠ [] ∨ behind.head? = some 0x30) :
    sanValueOf rest behind = extension.read := by
  rw [sanValueOf, CertExtension.read]
  rw [CertExtension.afterOid] at encodes
  cases critical : extension.critical with
  | none =>
      rw [critical] at encodes
      have value := encodeAll_singleton.mp encodes
      rw [parse_encodes value, Option.bind_eq_bind, Option.bind_some]
      dsimp only
      rw [List.append_nil]
      by_cases one : extension.value.head? = some 0x01
      · rw [if_pos ((head_one told).mpr one)]
        simp [one, parse]
      · rw [if_neg (mt (head_one told).mp one)]
        simp [one, parse_encodes value]
  | some octet =>
      rw [critical] at encodes
      obtain ⟨front, rest', boolean, others, rfl⟩ := encodeAll_cons.mp encodes
      have value := encodeAll_singleton.mp others
      rw [parse_append boolean, Option.bind_eq_bind, Option.bind_some]
      dsimp only
      by_cases one : octet = 0x01
      · simp [one, parse_encodes value]
      · simp [one, parse_append boolean]

/-! ## Finding the extension -/

inductive Found (extensions : List CertExtension) (following : Bytes) : Option (Bytes × Bytes) → Prop
  | nothing (unlike : ∀ extension ∈ extensions, extension.likeSan = false) : Found extensions following none
  | extension (before after : List CertExtension) (found : CertExtension) (rest behind : Bytes)
      (split : extensions = before ++ found :: after)
      (unlike : ∀ extension ∈ before, extension.likeSan = false) (like : found.likeSan = true)
      (encodes : EncodeAll found.afterOid rest)
      (next : after ≠ [] ∨ following.head? = some 0x30 → behind.head? = some 0x30) :
      Found extensions following (some (rest, behind))

theorem sanSearch_found {extensions : List CertExtension} {items : List Element} {content : Bytes}
    (each : List.Forall₂ CertExtension.Encodes extensions items) (all : EncodeAll items content) (following : Bytes) :
    Found extensions following
      ((sanSearch (walk content)).map fun (rest, behind) => (rest, behind ++ following)) := by
  induction each generalizing content with
  | nil =>
      rw [encodeAll_nil.mp all, walk_nil]
      exact .nothing (by simp)
  | @cons extension item extensions items encodes each ih =>
      obtain ⟨front, more, first, others, rfl⟩ := encodeAll_cons.mp all
      obtain ⟨kind, inner⟩ := encodes
      obtain ⟨oid, rest, named, value, inner⟩ := encodeAll_cons.mp inner
      rw [walk_of_parse (parse_append first more), sanSearch, inner, parse_append named]
      have test : sanOid.isPrefixOf extension.oid = extension.likeSan := rfl
      dsimp only
      rw [test]
      by_cases like : extension.likeSan = true
      · rw [if_pos like]
        refine .extension [] extensions extension rest _ rfl (by simp) like value fun following => ?_
        cases each with
        | nil =>
            rw [encodeAll_nil.mp others]
            simpa using following
        | cons encodes' each' =>
            obtain ⟨front', more', first', -, rfl⟩ := encodeAll_cons.mp others
            have head := encodes_head first'
            rw [encodes'.1] at head
            simp [head]
      · rw [if_neg like]
        have unlike : extension.likeSan = false := by simpa using like
        have found := ih others
        generalize (sanSearch (walk more)).map _ = result at found
        cases found with
        | nothing none_like => exact .nothing (by simpa [unlike] using none_like)
        | extension before after found rest behind split none_like like encodes next =>
            refine .extension (extension :: before) after found rest behind (by rw [split]; rfl) ?_ like
              encodes next
            simpa [unlike] using none_like

theorem walk_fields {fields last : List Element} {content : Bytes}
    (untagged : ∀ field ∈ fields, field.tag ≠ 0xA3) (all : EncodeAll (fields ++ last) content) :
    ∃ rest, EncodeAll last rest ∧
      (walk content).find? (·.1.tag = 0xA3) = (walk rest).find? (·.1.tag = 0xA3) := by
  induction fields generalizing content with
  | nil => exact ⟨content, all, rfl⟩
  | cons field fields ih =>
      obtain ⟨front, more, first, others, rfl⟩ := encodeAll_cons.mp all
      obtain ⟨rest, encodes, same⟩ := ih (fun field member => untagged field (by simp [member])) others
      refine ⟨rest, encodes, ?_⟩
      rw [walk_of_parse (parse_append first more), List.find?_cons_of_neg, same]
      simpa using untagged field (by simp)

theorem sanOf_found {der : DerCertificate} {encoded : Bytes} (encodes : der.Encodes encoded) :
    Found der.extensionList der.signature (sanOf encoded) := by
  obtain ⟨last, content, tbs, present, all, inner, outer⟩ := encodes
  obtain ⟨rest, extensions, same⟩ := walk_fields der.untagged all
  rw [sanOf, parse_encodes outer, Option.bind_eq_bind, Option.bind_some]
  dsimp only
  rw [parse_append inner, Option.bind_some, fieldsSan, same, DerCertificate.extensionList]
  dsimp only
  generalize der.extensions = found at present
  cases present with
  | absent =>
      rw [encodeAll_nil.mp extensions, walk_nil]
      exact .nothing (by simp)
  | @present list items inside bytes each every sequence =>
      have field := encodeAll_singleton.mp extensions
      rw [walk_of_parse (parse_encodes field), List.find?_cons_of_pos (by simp)]
      simp only [Option.bind_eq_bind, Option.bind_some, parse_encodes sequence]
      have result := sanSearch_found each every der.signature
      cases searched : sanSearch (walk inside) with
      | none => simpa [searched] using result
      | some found => simpa [searched] using result

theorem split_first {α : Type} {test : α → Bool} {before before' after after' : List α} {found found' : α}
    (split : before ++ found :: after = before' ++ found' :: after')
    (unlike : ∀ a ∈ before, test a = false) (unlike' : ∀ a ∈ before', test a = false)
    (like : test found = true) (like' : test found' = true) :
    before = before' ∧ found = found' ∧ after = after' := by
  induction before generalizing before' with
  | nil =>
      cases before' with
      | nil => simpa using split
      | cons a before' =>
          obtain ⟨rfl, -⟩ := List.cons.inj split
          simp [unlike' found (by simp)] at like
  | cons a before ih =>
      cases before' with
      | nil =>
          obtain ⟨rfl, -⟩ := List.cons.inj split
          simp [unlike a (by simp)] at like'
      | cons a' before' =>
          simp only [List.cons_append, List.cons.injEq] at split
          obtain ⟨rfl, split⟩ := split
          obtain ⟨same, rest⟩ := ih split (fun b member => unlike b (List.mem_cons_of_mem _ member))
            (fun b member => unlike' b (List.mem_cons_of_mem _ member))
          exact ⟨congrArg _ same, rest⟩

variable {der : DerCertificate} {certificate : Certificate}

theorem outcome_unlike (platform : Platform) (readable : certificate.readable = true)
    (encodes : der.Encodes certificate.encoded)
    (unlike : ∀ extension ∈ der.extensionList, extension.likeSan = false) :
    outcome (readAltNames platform certificate) = (false, [], []) := by
  have result := sanOf_found encodes
  rw [readAltNames_eq platform certificate readable, altNamesOf]
  generalize sanOf certificate.encoded = san at result
  cases result with
  | nothing => rfl
  | extension before after found rest behind split _ like =>
      have never := unlike found (by simp [split])
      rw [like] at never
      contradiction

theorem outcome_like {before after : List CertExtension} {found : CertExtension} (platform : Platform)
    (readable : certificate.readable = true) (encodes : der.Encodes certificate.encoded)
    (split : der.extensionList = before ++ found :: after)
    (unlike : ∀ extension ∈ before, extension.likeSan = false) (like : found.likeSan = true)
    (told : found.value ≠ [] ∨ after ≠ [] ∨ der.signature.head? = some 0x30) :
    outcome (readAltNames platform certificate) = outcomeOf platform found.read := by
  have result := sanOf_found encodes
  rw [readAltNames_eq platform certificate readable, altNamesOf]
  generalize sanOf certificate.encoded = san at result
  cases result with
  | nothing none_like =>
      have never := none_like found (by simp [split])
      rw [like] at never
      contradiction
  | extension before' after' found' rest behind split' unlike' like' encodes next =>
      obtain ⟨rfl, rfl, rfl⟩ := split_first (split.symm.trans split') unlike unlike' like like'
      rw [Option.bind_some]
      dsimp only
      rw [sanValueOf_encodes encodes]
      refine told.imp_right fun later => ?_
      rw [List.head?_append, next later]
      rfl

theorem outcomeOf_generalNames {names : List Element} {value : Bytes} (platform : Platform)
    (given : GeneralNames names value) :
    outcomeOf platform (some value) = (true, dnsNamesOf names, ipNamesOf platform names) := by
  obtain ⟨content, all, sequence⟩ := given
  rw [outcomeOf, generalNamesOf, parse_encodes sequence]
  simp [walk_encodeAll all]

theorem GeneralNames.head {names : List Element} {value : Bytes} (given : GeneralNames names value) :
    value.head? = some 0x30 := by
  obtain ⟨content, -, sequence⟩ := given
  exact encodes_head sequence

theorem read_plain {extension : CertExtension} {names : List Element} (plain : extension.critical = none)
    (given : GeneralNames names extension.value) : extension.read = some extension.value := by
  rw [CertExtension.read, plain]
  simp [given.head]

theorem GeneralNames.ne_nil {names : List Element} {value : Bytes} (given : GeneralNames names value) :
    value ≠ [] := by
  rintro rfl
  exact nomatch given.head

theorem likeSan_eq_false {extension : CertExtension} :
    extension.likeSan = false ↔ ¬ sanOid <+: extension.oid := by
  rw [CertExtension.likeSan, Bool.eq_false_iff, ne_eq, List.isPrefixOf_iff_prefix]

theorem likeSan_of_oid {extension : CertExtension} (oid : extension.oid = sanOid) :
    extension.likeSan = true := by
  rw [CertExtension.likeSan, oid]
  decide

/-! ## Certificates in the short form -/

def CertExtension.short (extension : CertExtension) : Element :=
  ⟨0x30, (⟨0x06, extension.oid⟩ :: extension.afterOid : List Element).flatMap Element.short⟩

def DerCertificate.extensionsShort (der : DerCertificate) : List Element :=
  match der.extensions with
  | none => []
  | some extensions =>
      [⟨0xA3, Element.short ⟨0x30, (extensions.map CertExtension.short).flatMap Element.short⟩⟩]

def DerCertificate.short (der : DerCertificate) : Bytes :=
  Element.short ⟨0x30,
    Element.short ⟨0x30, (der.fields ++ der.extensionsShort).flatMap Element.short⟩ ++ der.signature⟩

theorem length_short (element : Element) : element.short.length = element.content.length + 2 := rfl

theorem extensionsField_short (der : DerCertificate)
    (small : (der.extensionsShort.flatMap Element.short).length < 128) :
    ExtensionsField der.extensions der.extensionsShort := by
  rw [DerCertificate.extensionsShort] at *
  generalize der.extensions = given at *
  cases given with
  | none => exact .absent
  | some extensions =>
      simp only [List.flatMap_cons, List.flatMap_nil, List.append_nil, length_short] at small
      have all : EncodeAll _ ((extensions.map CertExtension.short).flatMap Element.short) :=
        encodeAll_short_of_length (by omega)
      refine .present ?_ all (encodes_short (by dsimp only; omega))
      rw [List.forall₂_map_right_iff, List.forall₂_same]
      refine fun extension member => ⟨rfl, encodeAll_short_of_length ?_⟩
      have part := content_length_le (List.mem_map_of_mem (f := CertExtension.short) member)
      rw [CertExtension.short] at part
      dsimp only at part
      omega

theorem der_short (der : DerCertificate) (small : der.short.length < 128) : der.Encodes der.short := by
  rw [DerCertificate.short, length_short, List.length_append, length_short, List.flatMap_append,
    List.length_append] at small
  refine ⟨_, _, _, extensionsField_short der (by omega), encodeAll_short_of_length ?_, encodes_short ?_,
    encodes_short ?_⟩
  · rw [List.flatMap_append, List.length_append]
    omega
  · dsimp only
    rw [List.flatMap_append, List.length_append]
    omega
  · dsimp only
    rw [List.length_append, length_short, List.flatMap_append, List.length_append]
    omega

/-- All names of the subjectAltName, and none without one. -/
theorem readAltNames_exact (platform : Platform) (certificate : Certificate) (der : DerCertificate)
    (readable : certificate.readable = true) (encodes : der.Encodes certificate.encoded) :
    (∀ before san after names, der.extensions = some (before ++ san :: after) →
      (∀ extension ∈ before, ¬ sanOid <+: extension.oid) → san.oid = sanOid → san.critical = none →
      GeneralNames names san.value →
      outcome (readAltNames platform certificate) = (true, dnsNamesOf names, ipNamesOf platform names)) ∧
    ((∀ extensions, der.extensions = some extensions → ∀ extension ∈ extensions, ¬ sanOid <+: extension.oid) →
      outcome (readAltNames platform certificate) = (false, [], [])) := by
  constructor
  · intro before san after names extensions unlike oid plain given
    have split : der.extensionList = before ++ san :: after := by
      rw [DerCertificate.extensionList, extensions, Option.getD_some]
    rw [outcome_like platform readable encodes split
      (fun extension member => likeSan_eq_false.mpr (unlike extension member)) (likeSan_of_oid oid)
      (.inl given.ne_nil), read_plain plain given, outcomeOf_generalNames platform given]
  · intro unlike
    refine outcome_unlike platform readable encodes fun extension member => likeSan_eq_false.mpr ?_
    rw [DerCertificate.extensionList] at member
    cases listed : der.extensions with
    | none => simp [listed] at member
    | some extensions => exact unlike extensions listed extension (by simpa [listed] using member)

/-- The names `a` and `127.0.0.1`. -/
def sampleNames : List Element := [⟨0x82, [97]⟩, ⟨0x87, [127, 0, 0, 1]⟩]

def sampleSan : CertExtension where
  oid := sanOid
  critical := none
  value := Element.short ⟨0x30, sampleNames.flatMap Element.short⟩

theorem sampleNames_given : GeneralNames sampleNames sampleSan.value :=
  ⟨_, encodeAll_short_of_length (by decide), encodes_short (by decide)⟩

/-- A serial number, the extensions, and a signature. -/
def sampleDer (extensions : List CertExtension) : DerCertificate where
  fields := [⟨0x02, [1]⟩]
  extensions := some extensions
  signature := [0x30, 0x00]
  untagged := by decide

/-- `basicConstraints`, marked critical. -/
def sampleConstraints : CertExtension := ⟨[0x55, 0x1D, 0x13], some 0xFF, [0x30, 0x00]⟩

def sampleCertificate (extensions : List CertExtension) : Certificate where
  encoded := (sampleDer extensions).short

theorem readAltNames_exact_sample :
    outcome (readAltNames .blank (sampleCertificate [sampleConstraints, sampleSan])) =
      (true, dnsNamesOf sampleNames, ipNamesOf .blank sampleNames) :=
  (readAltNames_exact .blank (sampleCertificate [sampleConstraints, sampleSan])
    (sampleDer [sampleConstraints, sampleSan]) rfl (der_short _ (by decide))).1
    [sampleConstraints] sampleSan [] sampleNames rfl (by decide) rfl rfl sampleNames_given

/-! ## The critical flag -/

end LuaXENetwork
