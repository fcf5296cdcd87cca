import LuaXENetwork.Proof.Tls.Slices

/-! The bytes `ReadAltNames` reads, and the lengths it subtracts. -/

namespace LuaXENetwork
open Library Element

/-! ## The walk with checked reads and subtractions -/

/-- A read of one byte, allowed below `cbCertEncoded`. -/
def Certificate.readByte (certificate : Certificate) (offset : Nat) : Option UInt8 := certificate.encoded[offset]?

def Certificate.readBytes (certificate : Certificate) (offset size : Nat) : Option Bytes :=
  (List.range size).mapM fun index => certificate.readByte (offset + index)

/-- A subtraction of lengths or offsets, allowed if it is not negative. -/
def subtract (whole part : Nat) : Option Nat := if part ≤ whole then some (whole - part) else none

theorem of_subtract {whole part rest : Nat} (left : subtract whole part = some rest) :
    part ≤ whole ∧ rest = whole - part := by
  rw [subtract] at left
  split at left
  · exact ⟨‹_›, (Option.some.inj left).symm⟩
  · cases left

def checkedTlv (certificate : Certificate) (start available : Nat) : Option (Option Tlv) :=
  let upTo (offset length : Nat) : Option Tlv :=
    if available < offset + 1 + length then none
    else some { content := start + offset + 1, size := length }
  if available < 2 then some none
  else do
    let first := (← certificate.readByte (start + 1)).toNat
    if first < 128 then some (upTo 1 first)
    else
      let count := first - 128
      if count = 0 ∨ 4 < count ∨ available < 1 + count + 1 then some none
      else do
        let octets ← certificate.readBytes (start + 2) count
        some (upTo (1 + count) (octets.foldl (fun length byte => length * 256 + byte.toNat) 0))

/-- The loop of `IsOid` from an index on. -/
def checkedOid (certificate : Certificate) (start size : Nat) : Nat → Bytes → Option Bool
  | _, [] => some true
  | index, byte :: encoded =>
      if size ≤ index then some false
      else do
        if (← certificate.readByte (start + index)) ≠ byte then some false
        else checkedOid certificate start size (index + 1) encoded

def checkedIpText (platform : Platform) (certificate : Certificate) (start size : Nat) : Option Bytes :=
  if size = 4 ∨ size = 16 then do
    let bytes ← certificate.readBytes start size
    some ((platform.inetNtop bytes).getD [])
  else some []

/-- The body of the loop of `ReadGeneralNames`. -/
def checkedName (platform : Platform) (certificate : Certificate) (cursor : Nat) (entry : Tlv)
    (names : AltNames) : Option AltNames := do
  let tag ← certificate.readByte cursor
  if tag = 0x82 then do
    let text ← certificate.readBytes entry.content entry.size
    some { names with dnsNames := names.dnsNames ++ [fromAscii text] }
  else if tag = 0x87 then do
    let text ← checkedIpText platform certificate entry.content entry.size
    some { names with ipNames := names.ipNames ++ [text] }
  else some names

def checkedNames (platform : Platform) (certificate : Certificate) (cursor left : Nat)
    (names : AltNames) : Option AltNames :=
  if left = 0 then some names
  else do
    match ← checkedTlv certificate cursor left with
    | none => some names
    | some entry =>
        let consumed ← subtract (entry.content + entry.size) cursor
        if consumed = 0 ∨ left < consumed then some names
        else do
          let names ← checkedName platform certificate cursor entry names
          match _rest : subtract left consumed with
          | none => none
          | some rest => checkedNames platform certificate (entry.content + entry.size) rest names
termination_by left
decreasing_by
  have := of_subtract _rest
  omega

def checkedGeneralNames (platform : Platform) (certificate : Certificate) (start available : Nat)
    (names : AltNames) : Option AltNames := do
  match ← checkedTlv certificate start available with
  | none => some names
  | some sequence =>
      if (← certificate.readByte start) ≠ 0x30 then some names
      else checkedNames platform certificate sequence.content sequence.size names

/-- The value behind the identifier of the extension that ends at `finish`. -/
def checkedSanValue (platform : Platform) (certificate : Certificate) (next finish : Nat)
    (names : AltNames) : Option (Bool × AltNames) := do
  match ← checkedTlv certificate next (← subtract finish next) with
  | none => some (false, names.note (ascii " san value unreadable"))
  | some first =>
      let next := if (← certificate.readByte first.content) = 0x01 then first.content + first.size else next
      match ← checkedTlv certificate next (← subtract finish next) with
      | none => some (false, names.note (ascii " san not an octet string"))
      | some value =>
          if (← certificate.readByte next) ≠ 0x04 then
            some (false, names.note (ascii " san not an octet string"))
          else
            let names ← checkedGeneralNames platform certificate value.content value.size names
            some (true, names.note (ascii " san" ++ toText names.dnsNames.length ++ ascii "/"
              ++ toText names.ipNames.length))

def checkedSanExtension (platform : Platform) (certificate : Certificate) (cursor left index : Nat)
    (names : AltNames) : Option (Bool × AltNames) :=
  if left = 0 then
    some (false, names.note (ascii " san not among " ++ toText index ++ ascii " extensions"))
  else do
    match ← checkedTlv certificate cursor left with
    | none => some (false, names.note (ascii " ext" ++ toText index ++ ascii " unreadable"))
    | some extension =>
        let consumed ← subtract (extension.content + extension.size) cursor
        if consumed = 0 ∨ left < consumed then
          some (false, names.note (ascii " ext" ++ toText index ++ ascii " bad size"))
        else do
          match ← checkedTlv certificate extension.content extension.size with
          | none => some (false, names.note (ascii " ext" ++ toText index ++ ascii " oid unreadable"))
          | some oid =>
              let tag ← certificate.readByte cursor
              let names := names.note (ascii " x" ++ toText index ++ ascii "/"
                ++ toText tag.toNat ++ ascii "/" ++ toText oid.size)
              if ← checkedOid certificate oid.content oid.size 0 sanOid then
                checkedSanValue platform certificate (oid.content + oid.size)
                  (extension.content + extension.size) names
              else
                match _rest : subtract left consumed with
                | none => none
                | some rest =>
                    checkedSanExtension platform certificate (extension.content + extension.size)
                      rest (index + 1) names
termination_by left
decreasing_by
  have := of_subtract _rest
  omega

def checkedFields (platform : Platform) (certificate : Certificate) (cursor left fields : Nat)
    (names : AltNames) : Option (Bool × AltNames) :=
  if left = 0 then
    some (false, names.note (ascii " no [3] among " ++ toText fields ++ ascii " fields"))
  else do
    match ← checkedTlv certificate cursor left with
    | none => some (false, names.note (ascii " field " ++ toText fields ++ ascii " unreadable"))
    | some field =>
        let consumed ← subtract (field.content + field.size) cursor
        if consumed = 0 ∨ left < consumed then
          some (false, names.note (ascii " field " ++ toText fields ++ ascii " bad size"))
        else do
          let tag ← certificate.readByte cursor
          let names := names.note (ascii " f" ++ toText fields ++ ascii "=" ++ toText tag.toNat)
          if tag = 0xA3 then do
            match ← checkedTlv certificate field.content field.size with
            | none => some (false, names.note (ascii " extensions unreadable"))
            | some extensions =>
                checkedSanExtension platform certificate extensions.content extensions.size 0
                  (names.note (ascii " ext" ++ toText extensions.size))
          else
            match _rest : subtract left consumed with
            | none => none
            | some rest =>
                checkedFields platform certificate (field.content + field.size) rest (fields + 1) names
termination_by left
decreasing_by
  have := of_subtract _rest
  omega

/-- `ReadAltNames`, or nothing if it reads a byte that is not the certificate's, or a length goes below
zero. -/
def checkedAltNames (platform : Platform) (certificate : Certificate) : Option (Bool × AltNames) :=
  if !certificate.readable then some (false, AltNames.note {} (ascii "no encoded bytes"))
  else do
    match ← checkedTlv certificate 0 certificate.encoded.length with
    | none => some (false, AltNames.note {} (ascii "outer unreadable"))
    | some outer =>
        match ← checkedTlv certificate outer.content outer.size with
        | none => some (false, AltNames.note {} (ascii "tbs unreadable"))
        | some tbs =>
            checkedFields platform certificate tbs.content tbs.size 0
              (AltNames.note {} (ascii "outer " ++ toText outer.size ++ ascii " tbs "
                ++ toText tbs.size))

/-! ## What is within bounds -/

variable {platform : Platform} {certificate : Certificate} {start : Nat} {slice behind : Bytes}

theorem readByte_eq {offset : Nat} (inside : offset < certificate.encoded.length) :
    certificate.readByte offset = some (certificate.byteAt offset) := by
  rw [Certificate.readByte, Certificate.byteAt, List.getElem?_eq_getElem inside,
    List.getD_eq_getElem?_getD, List.getElem?_append_left inside, List.getElem?_eq_getElem inside]
  rfl

theorem mapM_some {α β : Type} {f : α → Option β} {g : α → β} {list : List α}
    (each : ∀ a ∈ list, f a = some (g a)) : list.mapM f = some (list.map g) := by
  induction list with
  | nil => rfl
  | cons a list ih =>
      rw [List.mapM_cons, each a (by simp), ih fun b member => each b (by simp [member])]
      rfl

theorem readBytes_eq {offset size : Nat} (inside : offset + size ≤ certificate.encoded.length) :
    certificate.readBytes offset size = some (certificate.contents offset size) := by
  refine mapM_some fun index member => readByte_eq ?_
  have := List.mem_range.mp member
  omega

theorem subtract_eq {whole part : Nat} (le : part ≤ whole) : subtract whole part = some (whole - part) :=
  if_pos le

theorem checkedTlv_eq {available : Nat} (inside : start + available ≤ certificate.encoded.length) :
    checkedTlv certificate start available = some (readTlv certificate start available) := by
  rw [checkedTlv, readTlv]
  by_cases header : available < 2
  · rw [if_pos header, if_pos header]
  rw [if_neg header, if_neg header, readByte_eq (by omega), Option.bind_eq_bind, Option.bind_some]
  dsimp only
  by_cases short : (certificate.byteAt (start + 1)).toNat < 128
  · rw [if_pos short, if_pos short]
  rw [if_neg short, if_neg short]
  by_cases bad : (certificate.byteAt (start + 1)).toNat - 128 = 0 ∨
      4 < (certificate.byteAt (start + 1)).toNat - 128 ∨
      available < 1 + ((certificate.byteAt (start + 1)).toNat - 128) + 1
  · rw [if_pos bad, if_pos bad]
  · rw [if_neg bad, if_neg bad, readBytes_eq (by omega), Option.bind_eq_bind, Option.bind_some]

theorem checkedOid_drop (stands : certificate.Stands start slice behind)
    (inside : start + slice.length ≤ certificate.encoded.length) (index : Nat) (encoded : Bytes) :
    checkedOid certificate start slice.length index encoded = some (encoded.isPrefixOf (slice.drop index)) := by
  induction encoded generalizing index with
  | nil => simp [checkedOid]
  | cons byte encoded ih =>
      rw [checkedOid]
      by_cases ended : slice.length ≤ index
      · rw [if_pos ended, List.drop_eq_nil_of_le ended]
        rfl
      · have there : index < slice.length := by omega
        have read : certificate.byteAt (start + index) = slice[index] := by
          rw [stands.byteAt, List.getD_append _ _ _ _ there, List.getD_eq_getElem]
        rw [if_neg ended, readByte_eq (by omega), Option.bind_eq_bind, Option.bind_some, read,
          List.drop_eq_getElem_cons there, List.isPrefixOf_cons_cons]
        by_cases same : slice[index] = byte
        · rw [if_neg (not_not.mpr same), ih, same, beq_self_eq_true, Bool.true_and]
        · rw [if_pos same, beq_false_of_ne (Ne.symm same), Bool.false_and]

theorem checkedOid_eq (stands : certificate.Stands start slice behind)
    (inside : start + slice.length ≤ certificate.encoded.length) (encoded : Bytes) :
    checkedOid certificate start slice.length 0 encoded =
      some (isOid certificate start slice.length encoded) := by
  rw [checkedOid_drop stands inside, isOid_eq stands, List.drop_zero]

theorem checkedIpText_eq {size : Nat} (inside : start + size ≤ certificate.encoded.length) :
    checkedIpText platform certificate start size =
      some (ipText platform (certificate.contents start size)) := by
  have length : (certificate.contents start size).length = size := by simp [Certificate.contents]
  rw [checkedIpText, ipText, length]
  by_cases address : size = 4 ∨ size = 16
  · rw [if_pos address, if_pos address, readBytes_eq inside]
    rfl
  · rw [if_neg address, if_neg address]

theorem checkedName_eq {cursor : Nat} {entry : Tlv} (names : AltNames)
    (tagged : cursor < certificate.encoded.length)
    (inside : entry.content + entry.size ≤ certificate.encoded.length) :
    checkedName platform certificate cursor entry names =
      some (if certificate.byteAt cursor = 0x82 then
          { names with dnsNames := names.dnsNames ++ [fromAscii (certificate.contents entry.content entry.size)] }
        else if certificate.byteAt cursor = 0x87 then
          { names with
            ipNames := names.ipNames ++ [ipText platform (certificate.contents entry.content entry.size)] }
        else names) := by
  rw [checkedName, readByte_eq tagged, Option.bind_eq_bind, Option.bind_some]
  by_cases dns : certificate.byteAt cursor = 0x82
  · rw [if_pos dns, if_pos dns, readBytes_eq inside]
    rfl
  rw [if_neg dns, if_neg dns]
  by_cases ip : certificate.byteAt cursor = 0x87
  · rw [if_pos ip, if_pos ip, checkedIpText_eq inside]
    rfl
  · rw [if_neg ip, if_neg ip]

theorem checkedNames_eq {cursor : Nat} {slice behind : Bytes} (stands : certificate.Stands cursor slice behind)
    (inside : cursor + slice.length ≤ certificate.encoded.length) (names : AltNames) :
    checkedNames platform certificate cursor slice.length names =
      some (readNames platform certificate cursor slice.length names) := by
  rw [checkedNames, readNames]
  by_cases ended : slice.length = 0
  · rw [if_pos ended, if_pos ended]
  rw [if_neg ended, if_neg ended, checkedTlv_eq inside, Option.bind_eq_bind, Option.bind_some]
  cases readable : parse slice with
  | none => rw [readTlv_none stands readable]
  | some found =>
      obtain ⟨element, rest⟩ := found
      obtain ⟨tlv, read, here⟩ := readTlv_some stands readable
      have finish := here.finish
      have shorter := parse_length readable
      rw [read]
      dsimp only
      rw [subtract_eq (by omega), Option.bind_eq_bind, Option.bind_some, if_neg (by omega), if_neg (by omega),
        checkedName_eq names (by omega) (by omega), Option.bind_eq_bind, Option.bind_some]
      split
      · rename_i negative
        rw [subtract_eq (by omega)] at negative
        contradiction
      · rename_i rest' remaining
        obtain rfl : rest' = rest.length := by rw [(of_subtract remaining).2, here.left]
        rw [here.left]
        exact checkedNames_eq here.rest (by omega) _
termination_by slice.length

theorem checkedGeneralNames_eq (stands : certificate.Stands start slice behind)
    (inside : start + slice.length ≤ certificate.encoded.length) (names : AltNames) :
    checkedGeneralNames platform certificate start slice.length names =
      some (readGeneralNames platform certificate start slice.length names) := by
  rw [checkedGeneralNames, readGeneralNames, checkedTlv_eq inside, Option.bind_eq_bind, Option.bind_some]
  cases readable : parse slice with
  | none => rw [readTlv_none stands readable]
  | some found =>
      obtain ⟨sequence, rest⟩ := found
      obtain ⟨tlv, read, here⟩ := readTlv_some stands readable
      have header := here.header
      have finish := here.finish
      rw [read]
      dsimp only
      rw [readByte_eq (by omega), Option.bind_eq_bind, Option.bind_some]
      by_cases kind : certificate.byteAt start = 0x30
      · rw [if_neg (not_not.mpr kind), if_neg (not_not.mpr kind), here.size]
        have size := here.size
        exact checkedNames_eq here.content (by omega) names
      · rw [if_pos kind, if_pos kind]

/-! ## The one read out of bounds -/

/-- Behind the identifier stands a single element without content, and behind the extension nothing. -/
def Stray : Option (Bytes × Bytes) → Prop
  | some (rest, behind) => behind = [] ∧ ∃ first, parse rest = some (first, []) ∧ first.content = []
  | none => False

def Checks {α : Type} (stray : Prop) (checked : Option α) (plain : α) : Prop :=
  (¬ stray → checked = some plain) ∧ (stray → checked = none)

theorem Checks.of_eq {α : Type} {stray : Prop} {checked : Option α} {plain : α} (within : ¬ stray)
    (same : checked = some plain) : Checks stray checked plain := ⟨fun _ => same, fun out => absurd out within⟩

theorem checkedValue_eq {next finish : Nat} {names : AltNames} (stands : certificate.Stands next slice behind)
    (ends : finish = next + slice.length) (inside : finish ≤ certificate.encoded.length) :
    (do
      match ← checkedTlv certificate next (← subtract finish next) with
      | none => some (false, names.note (ascii " san not an octet string"))
      | some value =>
          if (← certificate.readByte next) ≠ 0x04 then
            some (false, names.note (ascii " san not an octet string"))
          else
            let names ← checkedGeneralNames platform certificate value.content value.size names
            some (true, names.note (ascii " san" ++ toText names.dnsNames.length ++ ascii "/"
              ++ toText names.ipNames.length))) =
      some (match readTlv certificate next (finish - next) with
        | none => (false, names.note (ascii " san not an octet string"))
        | some value =>
            if certificate.byteAt next ≠ 0x04 then
              (false, names.note (ascii " san not an octet string"))
            else
              let names := readGeneralNames platform certificate value.content value.size names
              (true, names.note (ascii " san" ++ toText names.dnsNames.length ++ ascii "/"
                ++ toText names.ipNames.length))) := by
  have available : finish - next = slice.length := by omega
  rw [subtract_eq (by omega), available, Option.bind_eq_bind, Option.bind_some, checkedTlv_eq (by omega),
    Option.bind_eq_bind, Option.bind_some]
  cases readable : parse slice with
  | none => rw [readTlv_none stands readable]
  | some found =>
      obtain ⟨value, rest⟩ := found
      obtain ⟨tlv, read, here⟩ := readTlv_some stands readable
      have header := here.header
      have finish_value := here.finish
      have size := here.size
      rw [read]
      dsimp only
      rw [readByte_eq (by omega), Option.bind_eq_bind, Option.bind_some]
      by_cases kind : certificate.byteAt next = 0x04
      · rw [if_neg (not_not.mpr kind), if_neg (not_not.mpr kind), size,
          checkedGeneralNames_eq here.content (by omega)]
        rfl
      · rw [if_pos kind, if_pos kind]

theorem checkedSanValue_checks {next finish : Nat} (after : Bytes) {names : AltNames}
    (stands : certificate.Stands next slice (after ++ certificate.beyond))
    (ends : finish = next + slice.length) (whole : finish + after.length = certificate.encoded.length) :
    Checks (Stray (some (slice, after))) (checkedSanValue platform certificate next finish names)
      (readSanValue platform certificate next finish names) := by
  have available : finish - next = slice.length := by omega
  rw [checkedSanValue, readSanValue, subtract_eq (by omega), available, Option.bind_eq_bind, Option.bind_some,
    checkedTlv_eq (by omega), Option.bind_eq_bind, Option.bind_some]
  cases readable : parse slice with
  | none =>
      rw [readTlv_none stands readable]
      exact .of_eq (by simp [Stray, readable]) rfl
  | some found =>
      obtain ⟨first, rest⟩ := found
      obtain ⟨tlv, read, here⟩ := readTlv_some stands readable
      have header := here.header
      have finish_first := here.finish
      have size := here.size
      have stray_iff : Stray (some (slice, after)) ↔ certificate.encoded.length ≤ tlv.content := by
        simp only [Stray, readable, Option.some.injEq, Prod.mk.injEq]
        constructor
        · rintro ⟨rfl, _, ⟨rfl, rfl⟩, empty⟩
          rw [empty] at size
          simp only [List.length_nil] at *
          omega
        · intro out
          exact ⟨List.length_eq_zero_iff.mp (by omega), first, ⟨rfl, List.length_eq_zero_iff.mp (by omega)⟩,
            List.length_eq_zero_iff.mp (by omega)⟩
      rw [read]
      dsimp only
      by_cases within : tlv.content < certificate.encoded.length
      · refine .of_eq (by rw [stray_iff]; omega) ?_
        rw [readByte_eq within, Option.bind_eq_bind, Option.bind_some]
        by_cases skipped : certificate.byteAt tlv.content = 0x01
        · rw [if_pos skipped]
          exact checkedValue_eq here.rest (by omega) (by omega)
        · rw [if_neg skipped]
          exact checkedValue_eq stands ends (by omega)
      · refine ⟨fun inside => absurd (stray_iff.mpr (by omega)) inside, fun _ => ?_⟩
        have out : certificate.readByte tlv.content = none := List.getElem?_eq_none (by omega)
        rw [out]
        rfl

theorem checkedSanExtension_checks (platform : Platform) {cursor : Nat} {slice : Bytes} (after : Bytes)
    (stands : certificate.Stands cursor slice (after ++ certificate.beyond))
    (whole : cursor + slice.length + after.length = certificate.encoded.length) (index : Nat)
    (names : AltNames) :
    Checks (Stray ((sanSearch (walk slice)).map fun (rest, behind) => (rest, behind ++ after)))
      (checkedSanExtension platform certificate cursor slice.length index names)
      (readSanExtension platform certificate cursor slice.length index names) := by
  rw [checkedSanExtension, readSanExtension]
  by_cases ended : slice.length = 0
  · obtain rfl := List.length_eq_zero_iff.mp ended
    rw [if_pos ended, if_pos ended, walk_nil]
    exact .of_eq id rfl
  rw [if_neg ended, if_neg ended, checkedTlv_eq (by omega), Option.bind_eq_bind, Option.bind_some]
  cases readable : parse slice with
  | none =>
      rw [readTlv_none stands readable, walk_of_none readable]
      exact .of_eq id rfl
  | some found =>
      obtain ⟨extension, rest⟩ := found
      obtain ⟨tlv, read, here⟩ := readTlv_some stands readable
      have finish := here.finish
      have size := here.size
      have shorter := parse_length readable
      rw [read, walk_of_parse readable, sanSearch]
      dsimp only
      rw [subtract_eq (by omega), Option.bind_eq_bind, Option.bind_some, if_neg (by omega), if_neg (by omega),
        checkedTlv_eq (by omega), Option.bind_eq_bind, Option.bind_some, size]
      cases inner : parse extension.content with
      | none =>
          rw [readTlv_none here.content inner]
          exact .of_eq id rfl
      | some found =>
          obtain ⟨oid, value⟩ := found
          obtain ⟨tlv', read', inside⟩ := readTlv_some here.content inner
          have finish' := inside.finish
          have header' := inside.header
          have size' := inside.size
          rw [read']
          dsimp only
          rw [readByte_eq (by omega), Option.bind_eq_bind, Option.bind_some, size',
            checkedOid_eq inside.content (by omega), Option.bind_some, isOid_eq inside.content]
          by_cases named : sanOid.isPrefixOf oid.content = true
          · rw [if_pos named, if_pos named, if_pos named, ← size']
            refine checkedSanValue_checks (rest ++ after) ?_ ?_ ?_
            · rw [List.append_assoc]
              exact inside.rest
            · dsimp only
              omega
            · rw [List.length_append]
              omega
          · rw [if_neg named, if_neg named, if_neg named, ← size, here.left]
            split
            · rename_i negative
              rw [subtract_eq (by omega)] at negative
              contradiction
            · rename_i rest' remaining
              obtain rfl : rest' = rest.length := by rw [(of_subtract remaining).2, here.left]
              exact checkedSanExtension_checks platform after here.rest (by omega) _ _
termination_by slice.length

theorem checkedFields_checks (platform : Platform) {cursor : Nat} {slice : Bytes} (after : Bytes)
    (stands : certificate.Stands cursor slice (after ++ certificate.beyond))
    (whole : cursor + slice.length + after.length = certificate.encoded.length) (fields : Nat)
    (names : AltNames) :
    Checks (Stray ((fieldsSan (walk slice)).map fun (rest, behind) => (rest, behind ++ after)))
      (checkedFields platform certificate cursor slice.length fields names)
      (readFields platform certificate cursor slice.length fields names) := by
  rw [checkedFields, readFields]
  by_cases ended : slice.length = 0
  · obtain rfl := List.length_eq_zero_iff.mp ended
    rw [if_pos ended, if_pos ended, walk_nil]
    exact .of_eq id rfl
  rw [if_neg ended, if_neg ended, checkedTlv_eq (by omega), Option.bind_eq_bind, Option.bind_some]
  cases readable : parse slice with
  | none =>
      rw [readTlv_none stands readable, walk_of_none readable]
      exact .of_eq id rfl
  | some found =>
      obtain ⟨field, rest⟩ := found
      obtain ⟨tlv, read, here⟩ := readTlv_some stands readable
      have finish := here.finish
      have size := here.size
      have shorter := parse_length readable
      rw [read, walk_of_parse readable]
      dsimp only
      rw [subtract_eq (by omega), Option.bind_eq_bind, Option.bind_some, if_neg (by omega), if_neg (by omega),
        readByte_eq (by omega), Option.bind_eq_bind, Option.bind_some, here.tag]
      by_cases kind : field.tag = 0xA3
      · rw [if_pos kind, if_pos kind, fieldsSan, List.find?_cons_of_pos (by simpa using kind),
          checkedTlv_eq (by omega), size]
        simp only [Option.bind_eq_bind, Option.bind_some]
        cases inner : parse field.content with
        | none =>
            rw [readTlv_none here.content inner]
            exact .of_eq id rfl
        | some found =>
            obtain ⟨extensions, behind⟩ := found
            obtain ⟨tlv', read', inside⟩ := readTlv_some here.content inner
            have finish' := inside.finish
            have size' := inside.size
            rw [read', Option.bind_some]
            dsimp only
            rw [size']
            have checks := checkedSanExtension_checks platform (behind ++ (rest ++ after))
              (by simpa using inside.content) (by simp only [List.length_append]; omega) 0
              ((names.note (ascii " f" ++ toText fields ++ ascii "=" ++ toText field.tag.toNat)).note
                (ascii " ext" ++ toText extensions.content.length))
            cases searched : sanSearch (walk extensions.content) with
            | none => simpa [searched] using checks
            | some found => simpa [searched] using checks
      · rw [if_neg kind, if_neg kind, fieldsSan_cons kind, here.left]
        split
        · rename_i negative
          rw [subtract_eq (by omega)] at negative
          contradiction
        · rename_i rest' remaining
          obtain rfl : rest' = rest.length := by rw [(of_subtract remaining).2, here.left]
          exact checkedFields_checks platform after here.rest (by omega) _ _
termination_by slice.length

theorem checkedAltNames_checks (platform : Platform) (certificate : Certificate)
    (readable : certificate.readable = true) :
    Checks (Stray (sanOf certificate.encoded)) (checkedAltNames platform certificate)
      (readAltNames platform certificate) := by
  have stands : certificate.Stands 0 certificate.encoded certificate.beyond := by simp [Certificate.Stands]
  rw [checkedAltNames, readAltNames, if_neg (by simp [readable]), if_neg (by simp [readable]),
    checkedTlv_eq (by omega), Option.bind_eq_bind, Option.bind_some, sanOf]
  cases outermost : parse certificate.encoded with
  | none =>
      rw [readTlv_none stands outermost]
      exact .of_eq id rfl
  | some found =>
      obtain ⟨outer, afterOuter⟩ := found
      obtain ⟨tlv, read, here⟩ := readTlv_some stands outermost
      have finish := here.finish
      have size := here.size
      rw [read]
      simp only [Option.bind_eq_bind, Option.bind_some]
      rw [checkedTlv_eq (by omega), Option.bind_some, size]
      cases inner : parse outer.content with
      | none =>
          rw [readTlv_none here.content inner]
          exact .of_eq id rfl
      | some found =>
          obtain ⟨tbs, afterTbs⟩ := found
          obtain ⟨tlv', read', inside⟩ := readTlv_some here.content inner
          have finish' := inside.finish
          have size' := inside.size
          rw [read', Option.bind_some]
          dsimp only
          rw [size']
          have checks := checkedFields_checks platform (afterTbs ++ afterOuter)
            (by simpa using inside.content) (by simp only [List.length_append]; omega) 0
            (AltNames.note {} (ascii "outer " ++ toText outer.content.length ++ ascii " tbs "
              ++ toText tbs.content.length))
          cases searched : fieldsSan (walk tbs.content) with
          | none => simpa [searched] using checks
          | some found => simpa [searched] using checks

/-- Every read and every subtraction stays within bounds, unless the certificate ends with the identifier of
its subjectAltName and one element without content. -/
theorem checkedAltNames_iff (platform : Platform) (certificate : Certificate) :
    checkedAltNames platform certificate = some (readAltNames platform certificate) ↔
      (certificate.readable = true → ¬ Stray (sanOf certificate.encoded)) := by
  by_cases readable : certificate.readable = true
  · obtain ⟨same, strays⟩ := checkedAltNames_checks platform certificate readable
    constructor
    · intro checked _ stray
      rw [strays stray] at checked
      contradiction
    · exact fun within => same (within readable)
  · simp [checkedAltNames, readAltNames, readable]

/-- A certificate that is nothing but a subjectAltName with an empty value. -/
theorem checkedAltNames_strays :
    checkedAltNames .blank { encoded := [0x30, 0x0F, 0x30, 0x0D, 0xA3, 0x0B, 0x30, 0x09, 0x30, 0x07, 0x06, 0x03,
      0x55, 0x1D, 0x11, 0x04, 0x00] } = none := by decide +kernel

end LuaXENetwork
