import LuaXENetwork.Library.Tlv
import LuaXENetwork.Tls.Certificate
import Mathlib.Data.List.GetD

/-! The reader of subjectAltNames over offsets, as a reader of byte strings. -/

namespace LuaXENetwork
open Library Element

namespace Certificate

variable {certificate : Certificate} {start : Nat} {front slice rest behind : Bytes}

/-- From the offset on there stand the bytes of the slice, and those behind it. -/
def Stands (certificate : Certificate) (start : Nat) (slice behind : Bytes) : Prop :=
  (certificate.encoded ++ certificate.beyond).drop start = slice ++ behind

theorem Stands.byteAt (stands : certificate.Stands start slice behind) (index : Nat) :
    certificate.byteAt (start + index) = (slice ++ behind).getD index 0 := by
  rw [Certificate.byteAt, ← stands, List.getD_eq_getElem?_getD, List.getD_eq_getElem?_getD, List.getElem?_drop]

theorem Stands.first (stands : certificate.Stands start slice behind) :
    certificate.byteAt start = (slice ++ behind).headD 0 := by
  have first := stands.byteAt 0
  cases whole : slice ++ behind with
  | nil => simpa [whole] using first
  | cons byte more => simpa [whole] using first

theorem Stands.after (stands : certificate.Stands start (front ++ slice) behind) :
    certificate.Stands (start + front.length) slice behind := by
  rw [Stands, ← List.drop_drop, stands, List.append_assoc, List.drop_left]

theorem Stands.within (stands : certificate.Stands start (slice ++ rest) behind) :
    certificate.Stands start slice (rest ++ behind) := stands.trans (List.append_assoc ..)

theorem Stands.contents (stands : certificate.Stands start slice behind) :
    certificate.contents start slice.length = slice := by
  apply List.ext_getElem
  · simp [Certificate.contents]
  · intro index bound bound'
    simp only [Certificate.contents, List.getElem_map, List.getElem_range]
    rw [stands.byteAt, List.getD_append _ _ _ _ bound', List.getD_eq_getElem]

end Certificate

variable {certificate : Certificate} {start : Nat} {slice behind : Bytes}

inductive TlvAt (start : Nat) (slice : Bytes) : Option Tlv → Option (Element × Bytes) → Prop
  | unreadable : TlvAt start slice none none
  | element (tag : UInt8) (header content rest : Bytes) (split : slice = (tag :: header) ++ (content ++ rest)) :
      TlvAt start slice (some ⟨start + (tag :: header).length, content.length⟩) (some (⟨tag, content⟩, rest))

theorem cut_at (start : Nat) (tag : UInt8) (header : Bytes) (length : Nat) (more : Bytes) :
    TlvAt start ((tag :: header) ++ more)
      (if header.length + 1 + more.length < header.length + 1 + length then none
        else some ⟨start + header.length + 1, length⟩)
      (cut tag length more) := by
  rw [cut]
  by_cases missing : more.length < length
  · rw [if_pos missing, if_pos (by omega)]
    exact .unreadable
  · rw [if_neg missing, if_neg (by omega)]
    have size : (more.take length).length = length := List.length_take_of_le (by omega)
    have whole : tag :: header ++ more = (tag :: header) ++ (more.take length ++ more.drop length) := by
      rw [List.take_append_drop]
    have found : TlvAt start _ _ _ := .element tag header _ _ whole
    rwa [size, List.length_cons, ← Nat.add_assoc] at found

theorem readTlv_parse (stands : certificate.Stands start slice behind) :
    TlvAt start slice (readTlv certificate start slice.length) (parse slice) := by
  match slice with
  | [] => exact .unreadable
  | [_] => exact .unreadable
  | tag :: first :: more =>
      have second : certificate.byteAt (start + 1) = first := stands.byteAt 1
      have after : certificate.Stands (start + [tag, first].length) more behind := Certificate.Stands.after stands
      have size : (tag :: first :: more).length = 1 + 1 + more.length := by
        simp only [List.length_cons]
        omega
      rw [readTlv, parse, second]
      rw [if_neg (by simp)]
      by_cases short : first.toNat < 128
      · rw [if_pos short, if_pos short, size]
        exact cut_at start tag [first] first.toNat more
      · rw [if_neg short, if_neg short, size]
        generalize first.toNat - 128 = count
        dsimp only
        by_cases bad : count = 0 ∨ 4 < count ∨ more.length < count
        · rw [if_pos bad, if_pos (by omega)]
          exact .unreadable
        · rw [if_neg bad, if_neg (by omega)]
          simp only [not_or, Nat.not_lt] at bad
          have octets : (more.take count).length = count := List.length_take_of_le bad.2.2
          have there : certificate.Stands (start + 2) (more.take count) (more.drop count ++ behind) :=
            Certificate.Stands.within (by rwa [List.take_append_drop])
          have value := there.contents
          rw [octets] at value
          have found := cut_at start tag (first :: more.take count) (bigEndian (more.take count)) (more.drop count)
          have header : (first :: more.take count).length = 1 + count := by
            rw [List.length_cons, octets, Nat.add_comm]
          have rest : (more.drop count).length = more.length - count := List.length_drop
          have whole : (tag :: first :: more.take count) ++ more.drop count = tag :: first :: more := by simp
          have total : 1 + count + 1 + (more.length - count) = 1 + 1 + more.length := by omega
          rw [whole, header, rest, total] at found
          rw [value]
          exact found

/-! ## The reader of byte strings -/

def AltNames.lists (names : AltNames) : List WString × List Bytes := (names.dnsNames, names.ipNames)

def dnsNamesOf (entries : List Element) : List WString :=
  (entries.filter (·.tag = 0x82)).map (fromAscii ·.content)

def ipNamesOf (platform : Platform) (entries : List Element) : List Bytes :=
  (entries.filter (·.tag = 0x87)).map (ipText platform ·.content)

/-- The names in the value of a subjectAltName extension. -/
def generalNamesOf (platform : Platform) (value : Bytes) : List WString × List Bytes :=
  match parse value with
  | some (sequence, _) =>
      if sequence.tag = 0x30 then
        let entries := (walk sequence.content).map Prod.fst
        (dnsNamesOf entries, ipNamesOf platform entries)
      else ([], [])
  | none => ([], [])

/-- The value of an extension, out of what stands behind its identifier; a first content that is empty
is tested on the bytes behind it. -/
def sanValueOf (rest behind : Bytes) : Option Bytes := do
  let (first, after) ← parse rest
  let (value, _) ← parse (if (first.content ++ after ++ behind).headD 0 = 0x01 then after else rest)
  if value.tag = 0x04 then some value.content else none

/-- The first extension whose identifier begins like that of subjectAltName: what stands in it behind the
identifier, and what stands behind the extension. -/
def sanSearch : List (Element × Bytes) → Option (Bytes × Bytes)
  | [] => none
  | (extension, behind) :: extensions =>
      match parse extension.content with
      | none => none
      | some (oid, rest) =>
          if sanOid.isPrefixOf oid.content then some (rest, behind) else sanSearch extensions

/-- The fields of the TBSCertificate, up to the extensions. -/
def fieldsSan (fields : List (Element × Bytes)) : Option (Bytes × Bytes) := do
  let (field, afterField) ← fields.find? (·.1.tag = 0xA3)
  let (extensions, afterExtensions) ← parse field.content
  let (rest, behind) ← sanSearch (walk extensions.content)
  return (rest, behind ++ (afterExtensions ++ afterField))

/-- What stands behind the identifier of the subjectAltName extension, and behind the extension. -/
def sanOf (encoded : Bytes) : Option (Bytes × Bytes) := do
  let (outer, afterOuter) ← parse encoded
  let (tbs, afterTbs) ← parse outer.content
  let (rest, behind) ← fieldsSan (walk tbs.content)
  return (rest, behind ++ (afterTbs ++ afterOuter))

def outcome (result : Bool × AltNames) : Bool × List WString × List Bytes := (result.1, result.2.lists)

def outcomeOf (platform : Platform) : Option Bytes → Bool × List WString × List Bytes
  | none => (false, [], [])
  | some value => (true, generalNamesOf platform value)

def altNamesOf (platform : Platform) (encoded beyond : Bytes) : Bool × List WString × List Bytes :=
  outcomeOf platform ((sanOf encoded).bind fun (rest, behind) => sanValueOf rest (behind ++ beyond))

/-! ## The walks over offsets -/

variable {platform : Platform} {names : AltNames}

theorem readTlv_none (stands : certificate.Stands start slice behind) (unreadable : parse slice = none) :
    readTlv certificate start slice.length = none := by
  have found := readTlv_parse stands
  rw [unreadable] at found
  generalize readTlv certificate start slice.length = tlv at found ⊢
  cases found
  rfl

structure ElementAt (certificate : Certificate) (start : Nat) (slice behind : Bytes) (element : Element)
    (rest : Bytes) (tlv : Tlv) : Prop where
  tag : certificate.byteAt start = element.tag
  size : tlv.size = element.content.length
  header : start + 2 ≤ tlv.content
  finish : tlv.content + tlv.size + rest.length = start + slice.length
  content : certificate.Stands tlv.content element.content (rest ++ behind)
  rest : certificate.Stands (tlv.content + tlv.size) rest behind

theorem readTlv_some (stands : certificate.Stands start slice behind) {element : Element} {rest : Bytes}
    (readable : parse slice = some (element, rest)) :
    ∃ tlv, readTlv certificate start slice.length = some tlv ∧
      ElementAt certificate start slice behind element rest tlv := by
  have found := readTlv_parse stands
  have length := parse_length readable
  rw [readable] at found
  generalize readTlv certificate start slice.length = tlv at found
  cases found with
  | element tag header content rest split =>
      subst split
      have inside := stands.after
      refine ⟨_, rfl, ?_, rfl, ?_, ?_, inside.within, inside.after⟩
      · simpa using stands.first
      · simp only [List.length_append] at length ⊢
        omega
      · simp only [List.length_append]
        omega

theorem ElementAt.contents {element : Element} {rest : Bytes} {tlv : Tlv}
    (at_start : ElementAt certificate start slice behind element rest tlv) :
    certificate.contents tlv.content tlv.size = element.content := by
  rw [at_start.size]
  exact at_start.content.contents

/-- What the cursor leaves of the slice behind the element. -/
theorem ElementAt.left {element : Element} {rest : Bytes} {tlv : Tlv}
    (at_start : ElementAt certificate start slice behind element rest tlv) :
    slice.length - (tlv.content + tlv.size - start) = rest.length := by
  have header := at_start.header
  have finish := at_start.finish
  omega

theorem fieldsSan_cons {field : Element} (other : field.tag ≠ 0xA3) (after : Bytes)
    (fields : List (Element × Bytes)) : fieldsSan ((field, after) :: fields) = fieldsSan fields := by
  rw [fieldsSan, List.find?_cons_of_neg (by simpa using other), fieldsSan]

theorem readNames_walk {cursor : Nat} {slice behind : Bytes}
    (stands : certificate.Stands cursor slice behind) (names : AltNames) :
    (readNames platform certificate cursor slice.length names).lists =
      (names.dnsNames ++ dnsNamesOf ((walk slice).map Prod.fst),
        names.ipNames ++ ipNamesOf platform ((walk slice).map Prod.fst)) := by
  rw [readNames]
  by_cases ended : slice = []
  · subst ended
    simp [walk_nil, dnsNamesOf, ipNamesOf, AltNames.lists]
  rw [if_neg (by simpa using ended)]
  cases readable : parse slice with
  | none =>
      rw [readTlv_none stands readable, walk_of_none readable]
      simp [dnsNamesOf, ipNamesOf, AltNames.lists]
  | some found =>
      obtain ⟨element, rest⟩ := found
      obtain ⟨tlv, read, here⟩ := readTlv_some stands readable
      have finish := here.finish
      have shorter := parse_length readable
      rw [read, walk_of_parse readable]
      dsimp only
      rw [if_neg (by omega), here.left, readNames_walk here.rest, here.tag, here.contents]
      by_cases dns : element.tag = 0x82
      · simp [dns, dnsNamesOf, ipNamesOf]
      · by_cases ip : element.tag = 0x87
        · simp [ip, dnsNamesOf, ipNamesOf]
        · simp [dns, ip, dnsNamesOf, ipNamesOf]
termination_by slice.length

theorem readGeneralNames_eq (stands : certificate.Stands start slice behind)
    (none_yet : names.lists = ([], [])) :
    (readGeneralNames platform certificate start slice.length names).lists = generalNamesOf platform slice := by
  rw [readGeneralNames, generalNamesOf]
  cases readable : parse slice with
  | none =>
      rw [readTlv_none stands readable]
      exact none_yet
  | some found =>
      obtain ⟨sequence, rest⟩ := found
      obtain ⟨tlv, read, here⟩ := readTlv_some stands readable
      rw [read]
      dsimp only
      rw [here.tag]
      by_cases kind : sequence.tag = 0x30
      · have empty := Prod.mk.inj none_yet
        rw [if_neg (not_not.mpr kind), if_pos kind, here.size, readNames_walk here.content, empty.1, empty.2]
        rfl
      · rw [if_pos kind, if_neg kind]
        exact none_yet

theorem readValue_eq {next finish : Nat} (stands : certificate.Stands next slice behind)
    (ends : finish = next + slice.length) (none_yet : names.lists = ([], [])) :
    outcome (match readTlv certificate next (finish - next) with
      | none => (false, names.note (ascii " san not an octet string"))
      | some value =>
          if certificate.byteAt next ≠ 0x04 then
            (false, names.note (ascii " san not an octet string"))
          else
            let names := readGeneralNames platform certificate value.content value.size names
            (true, names.note (ascii " san" ++ toText names.dnsNames.length ++ ascii "/"
              ++ toText names.ipNames.length))) =
      outcomeOf platform ((parse slice).bind fun (value, _) =>
        if value.tag = 0x04 then some value.content else none) := by
  have available : finish - next = slice.length := by omega
  rw [available]
  cases readable : parse slice with
  | none =>
      rw [readTlv_none stands readable]
      exact congrArg (Prod.mk false) none_yet
  | some found =>
      obtain ⟨value, rest⟩ := found
      obtain ⟨tlv, read, here⟩ := readTlv_some stands readable
      rw [read, Option.bind_some]
      dsimp only
      rw [here.tag]
      by_cases kind : value.tag = 0x04
      · rw [if_neg (not_not.mpr kind), if_pos kind, here.size]
        exact congrArg (Prod.mk true) (readGeneralNames_eq here.content none_yet)
      · rw [if_pos kind, if_neg kind]
        exact congrArg (Prod.mk false) none_yet

theorem readSanValue_eq {next finish : Nat} (stands : certificate.Stands next slice behind)
    (ends : finish = next + slice.length) (none_yet : names.lists = ([], [])) :
    outcome (readSanValue platform certificate next finish names) =
      outcomeOf platform (sanValueOf slice behind) := by
  have available : finish - next = slice.length := by omega
  rw [readSanValue, available, sanValueOf]
  cases readable : parse slice with
  | none =>
      rw [readTlv_none stands readable]
      exact congrArg (Prod.mk false) none_yet
  | some found =>
      obtain ⟨first, rest⟩ := found
      obtain ⟨tlv, read, here⟩ := readTlv_some stands readable
      have finish_first := here.finish
      rw [read, Option.bind_eq_bind, Option.bind_some]
      dsimp only
      rw [here.content.first, ← List.append_assoc]
      by_cases skipped : (first.content ++ rest ++ behind).headD 0 = 0x01
      · rw [if_pos skipped, if_pos skipped]
        exact readValue_eq here.rest (by omega) none_yet
      · rw [if_neg skipped, if_neg skipped]
        exact readValue_eq stands ends none_yet

theorem Certificate.Stands.take (stands : certificate.Stands start slice behind) {size : Nat}
    (inside : size ≤ slice.length) : certificate.contents start size = slice.take size := by
  have front : certificate.Stands start (slice.take size) (slice.drop size ++ behind) :=
    Certificate.Stands.within (by rwa [List.take_append_drop])
  have contents := front.contents
  rwa [List.length_take_of_le inside] at contents

theorem isOid_eq (stands : certificate.Stands start slice behind) (encoded : Bytes) :
    isOid certificate start slice.length encoded = encoded.isPrefixOf slice := by
  rw [isOid, Bool.eq_iff_iff, Bool.and_eq_true, decide_eq_true_eq, beq_iff_eq, List.isPrefixOf_iff_prefix,
    List.prefix_iff_eq_take]
  constructor
  · rintro ⟨long, same⟩
    rw [← stands.take long, same]
  · intro front
    have long := (List.prefix_iff_eq_take.mpr front).length_le
    exact ⟨long, (stands.take long).trans front.symm⟩

theorem readSanExtension_eq {cursor : Nat} {slice behind : Bytes}
    (stands : certificate.Stands cursor slice behind) (index : Nat) (names : AltNames)
    (none_yet : names.lists = ([], [])) :
    outcome (readSanExtension platform certificate cursor slice.length index names) =
      outcomeOf platform ((sanSearch (walk slice)).bind fun (rest, after) => sanValueOf rest (after ++ behind)) := by
  rw [readSanExtension]
  by_cases ended : slice = []
  · subst ended
    rw [if_pos List.length_nil, walk_nil]
    exact congrArg (Prod.mk false) none_yet
  rw [if_neg (by simpa using ended)]
  cases readable : parse slice with
  | none =>
      rw [readTlv_none stands readable, walk_of_none readable]
      exact congrArg (Prod.mk false) none_yet
  | some found =>
      obtain ⟨extension, rest⟩ := found
      obtain ⟨tlv, read, here⟩ := readTlv_some stands readable
      have finish := here.finish
      have shorter := parse_length readable
      rw [read, walk_of_parse readable, sanSearch]
      dsimp only
      rw [if_neg (by omega), here.left, here.size]
      cases inner : parse extension.content with
      | none =>
          rw [readTlv_none here.content inner]
          exact congrArg (Prod.mk false) none_yet
      | some found =>
          obtain ⟨oid, value⟩ := found
          obtain ⟨tlv', read', inside⟩ := readTlv_some here.content inner
          have finish' := inside.finish
          rw [read']
          dsimp only
          rw [inside.size, isOid_eq inside.content]
          by_cases named : sanOid.isPrefixOf oid.content = true
          · rw [if_pos named, if_pos named, ← inside.size, ← here.size, Option.bind_some]
            rw [← here.size] at finish'
            refine readSanValue_eq inside.rest ?_ none_yet
            dsimp only
            omega
          · rw [if_neg named, if_neg named, ← here.size]
            refine readSanExtension_eq here.rest _ _ ?_
            exact none_yet
termination_by slice.length

theorem readFields_eq {cursor : Nat} {slice behind : Bytes}
    (stands : certificate.Stands cursor slice behind) (fields : Nat) (names : AltNames)
    (none_yet : names.lists = ([], [])) :
    outcome (readFields platform certificate cursor slice.length fields names) =
      outcomeOf platform ((fieldsSan (walk slice)).bind fun (rest, after) => sanValueOf rest (after ++ behind)) := by
  rw [readFields]
  by_cases ended : slice = []
  · subst ended
    rw [if_pos List.length_nil, walk_nil]
    exact congrArg (Prod.mk false) none_yet
  rw [if_neg (by simpa using ended)]
  cases readable : parse slice with
  | none =>
      rw [readTlv_none stands readable, walk_of_none readable]
      exact congrArg (Prod.mk false) none_yet
  | some found =>
      obtain ⟨field, rest⟩ := found
      obtain ⟨tlv, read, here⟩ := readTlv_some stands readable
      have finish := here.finish
      have shorter := parse_length readable
      rw [read, walk_of_parse readable]
      dsimp only
      rw [if_neg (by omega), here.left, here.tag]
      by_cases kind : field.tag = 0xA3
      · rw [if_pos kind, fieldsSan, List.find?_cons_of_pos (by simpa using kind), here.size,
          Option.bind_eq_bind, Option.bind_some]
        dsimp only
        cases inner : parse field.content with
        | none =>
            rw [readTlv_none here.content inner]
            exact congrArg (Prod.mk false) none_yet
        | some found =>
            obtain ⟨extensions, after⟩ := found
            obtain ⟨tlv', read', inside⟩ := readTlv_some here.content inner
            rw [read']
            dsimp only
            rw [inside.size, readSanExtension_eq inside.content 0 _ ?_]
            · rw [Option.bind_some]
              dsimp only
              cases sanSearch (walk extensions.content) with
              | none => rfl
              | some found => simp
            · exact none_yet
      · rw [if_neg kind, fieldsSan_cons kind]
        refine readFields_eq here.rest _ _ ?_
        exact none_yet
termination_by slice.length

theorem readAltNames_eq (platform : Platform) (certificate : Certificate)
    (readable : certificate.readable = true) :
    outcome (readAltNames platform certificate) =
      altNamesOf platform certificate.encoded certificate.beyond := by
  have stands : certificate.Stands 0 certificate.encoded certificate.beyond := by simp [Certificate.Stands]
  rw [readAltNames, if_neg (by simp [readable]), altNamesOf, sanOf]
  cases outermost : parse certificate.encoded with
  | none =>
      rw [readTlv_none stands outermost]
      rfl
  | some found =>
      obtain ⟨outer, afterOuter⟩ := found
      obtain ⟨tlv, read, here⟩ := readTlv_some stands outermost
      rw [read, Option.bind_eq_bind, Option.bind_some]
      dsimp only
      rw [here.size]
      cases inner : parse outer.content with
      | none =>
          rw [readTlv_none here.content inner]
          rfl
      | some found =>
          obtain ⟨tbs, afterTbs⟩ := found
          obtain ⟨tlv', read', inside⟩ := readTlv_some here.content inner
          rw [read', Option.bind_some]
          dsimp only
          rw [inside.size, readFields_eq inside.content 0 _ rfl]
          cases fieldsSan (walk tbs.content) with
          | none => rfl
          | some found => simp

end LuaXENetwork
