import LuaXENetwork.Proof.Tls.Slices

/-! `ReadTlv` on an array: what it accepts, what it reads, and that its arithmetic fits a `size_t`. -/

namespace LuaXENetwork
open Library Element

/-! ## The function in `size_t`, with reads below `available` only -/

def readBelow (data : Bytes) (available index : Nat) : Option UInt8 :=
  if index < available then data[index]? else none

/-- The loop over the length octets behind `data[offset]`. -/
def sizedLength (data : Bytes) (available offset : Nat) : Nat → Option Nat
  | 0 => some 0
  | index + 1 => do
      let length ← sizedLength data available offset index
      let byte ← readBelow data available (sizeT (offset + 1 + index))
      some (sizeT (length <<< 8) ||| byte.toNat)

def sizedContent (available offset length : Nat) : Option Tlv :=
  if available < sizeT (offset + 1 + length) then none
  else some { content := sizeT (offset + 1), size := length }

/-- `none` is a read at or beyond `available`, `some none` is a `Tlv` that is not ok. -/
def sizedTlv (data : Bytes) (available : Nat) : Option (Option Tlv) :=
  if available < 2 then some none
  else do
    let first := (← readBelow data available 1).toNat
    if first &&& 0x80 = 0 then some (sizedContent available 1 first)
    else
      let count := first &&& 0x7F
      if count = 0 ∨ 4 < count ∨ available < sizeT (1 + count + 1) then some none
      else do
        let length ← sizedLength data available 1 count
        some (sizedContent available (1 + count) length)

theorem and_high (byte : UInt8) :
    (byte.toNat &&& 0x80 = 0 ↔ byte.toNat < 128) ∧
      (¬ byte.toNat < 128 → byte.toNat &&& 0x7F = byte.toNat - 128) := by
  have all : ∀ n < 256, (n &&& 0x80 = 0 ↔ n < 128) ∧ (¬ n < 128 → n &&& 0x7F = n - 128) := by decide +kernel
  exact all byte.toNat byte.toNat_lt

section
variable {data : Bytes} {available : Nat} (inside : available ≤ data.length)
include inside

theorem readBelow_eq {index : Nat} (below : index < available) :
    readBelow data available index = some (Certificate.byteAt { encoded := data } index) := by
  have bound : index < data.length := by omega
  rw [readBelow, if_pos below, List.getElem?_eq_getElem bound, Certificate.byteAt, List.append_nil,
    List.getD_eq_getElem _ _ bound]

theorem sizedLength_eq {count : Nat} (few : count ≤ 4) (there : 2 + count ≤ available) :
    sizedLength data available 1 count = some (bigEndian (Certificate.contents { encoded := data } 2 count)) := by
  induction count with
  | zero => rfl
  | succ count ih =>
      have octets : Certificate.contents { encoded := data } 2 (count + 1) =
          Certificate.contents { encoded := data } 2 count ++
            [Certificate.byteAt { encoded := data } (2 + count)] := by
        rw [Certificate.contents, List.range_succ, List.map_append]
        rfl
      have small := bigEndian_lt (Certificate.contents { encoded := data } 2 count)
      have length : (Certificate.contents { encoded := data } 2 count).length = count := by
        simp [Certificate.contents]
      have bound : 256 ^ count ≤ 256 ^ 3 := Nat.pow_le_pow_right (by decide) (by omega)
      rw [length] at small
      rw [sizedLength, ih (by omega) (by omega), Option.bind_eq_bind, Option.bind_some, sizeT_small (by omega),
        readBelow_eq inside (by omega), Option.bind_eq_bind, Option.bind_some, octets, bigEndian_append,
        Nat.shiftLeft_eq, sizeT_small (by omega), ← Nat.shiftLeft_eq,
        ← Nat.shiftLeft_add_eq_or_of_lt (UInt8.toNat_lt _), Nat.shiftLeft_eq]

/-- No sum wraps and no read is refused: `ReadTlv` is the reader over unbounded offsets. -/
theorem sizedTlv_eq : sizedTlv data available = some (readTlv { encoded := data } 0 available) := by
  rw [sizedTlv, readTlv]
  by_cases header : available < 2
  · rw [if_pos header, if_pos header]
  rw [if_neg header, if_neg header, readBelow_eq inside (by omega), Option.bind_eq_bind, Option.bind_some]
  generalize Certificate.byteAt { encoded := data } 1 = first
  have bound := first.toNat_lt
  have high := and_high first
  dsimp only
  by_cases short : first.toNat < 128
  · rw [if_pos (high.1.mpr short), if_pos short, sizedContent, sizeT_small (by omega), sizeT_small (by omega)]
  rw [if_neg (mt high.1.mp short), if_neg short, high.2 short]
  by_cases bad : first.toNat - 128 = 0 ∨ 4 < first.toNat - 128 ∨ available < 1 + (first.toNat - 128) + 1
  · rw [if_pos (by rwa [sizeT_small (by omega)]), if_pos bad]
  · have few : first.toNat - 128 ≤ 4 := by omega
    have small := bigEndian_lt (Certificate.contents { encoded := data } 2 (first.toNat - 128))
    have length : (Certificate.contents { encoded := data } 2 (first.toNat - 128)).length = first.toNat - 128 := by
      simp [Certificate.contents]
    have power : 256 ^ (first.toNat - 128) ≤ 256 ^ 4 := Nat.pow_le_pow_right (by decide) few
    rw [length] at small
    rw [if_neg (by rwa [sizeT_small (by omega)]), if_neg bad, sizedLength_eq inside few (by omega),
      Option.bind_eq_bind, Option.bind_some, sizedContent, sizeT_small (by omega), sizeT_small (by omega)]
    simp only [Nat.zero_add]
    rfl

end

/-! ## What it accepts -/

/-- The bytes are a header, the content it announces, and more; the result marks the content. -/
def Delimits (bytes : Bytes) (tlv : Tlv) : Prop :=
  ∃ element header rest, Encodes element (header ++ element.content) ∧
    bytes = header ++ element.content ++ rest ∧ tlv = ⟨header.length, element.content.length⟩

theorem Delimits.header {bytes : Bytes} {tlv : Tlv} (is : Delimits bytes tlv) : 2 ≤ tlv.content := by
  obtain ⟨element, header, rest, encodes, -, rfl⟩ := is
  have long := encodes_length encodes
  rw [List.length_append] at long
  show 2 ≤ header.length
  omega

theorem TlvAt.delimits {slice : Bytes} {tlv : Tlv} {parsed : Option (Element × Bytes)}
    (found : TlvAt 0 slice (some tlv) parsed) (parses : parse slice = parsed) : Delimits slice tlv := by
  cases found with
  | element tag header content rest split =>
      obtain ⟨front, encodes, split'⟩ := of_parse parses
      have whole : front ++ rest = (tag :: header ++ content) ++ rest := by
        rw [← split', split, List.append_assoc]
      have same : front = tag :: header ++ content := List.append_cancel_right whole
      refine ⟨⟨tag, content⟩, tag :: header, rest, same ▸ encodes, by rw [split, List.append_assoc], ?_⟩
      rw [Nat.zero_add]

/-- `ReadTlv` reads nothing from `available` on and accepts what begins with an element, whole in
front of there; the result is its content. -/
theorem sizedTlv_exact (data : Bytes) (available : Nat) (inside : available ≤ data.length) :
    sizedTlv data available = some (readTlv { encoded := data } 0 available) ∧
      ((∃ tlv, readTlv { encoded := data } 0 available = some tlv) ↔
        ∃ element front rest, Encodes element front ∧ data.take available = front ++ rest) ∧
      ∀ tlv, readTlv { encoded := data } 0 available = some tlv →
        Delimits (data.take available) tlv ∧ 2 ≤ tlv.content := by
  have stands : Certificate.Stands { encoded := data } 0 (data.take available) (data.drop available) := by
    rw [Certificate.Stands, List.append_nil, List.drop_zero, List.take_append_drop]
  have length : (data.take available).length = available := List.length_take_of_le inside
  have found := readTlv_parse stands
  rw [length] at found
  refine ⟨sizedTlv_eq inside, ⟨?_, ?_⟩, ?_⟩
  · rintro ⟨tlv, read⟩
    rw [read] at found
    obtain ⟨element, header, rest, encodes, split, -⟩ := found.delimits rfl
    exact ⟨element, _, rest, encodes, split⟩
  · rintro ⟨element, front, rest, encodes, split⟩
    rw [split, parse_append encodes] at found
    generalize readTlv { encoded := data } 0 available = tlv at found ⊢
    cases found with
    | element => exact ⟨_, rfl⟩
  · intro tlv read
    rw [read] at found
    have delimits := found.delimits rfl
    exact ⟨delimits, delimits.header⟩

theorem sizedTlv_exact_long :
    sizedTlv [4, 0x81, 2, 97, 98, 99] 5 = some (readTlv { encoded := [4, 0x81, 2, 97, 98, 99] } 0 5) ∧
      Delimits [4, 0x81, 2, 97, 98] ⟨3, 2⟩ := by
  have exact_read := sizedTlv_exact [4, 0x81, 2, 97, 98, 99] 5 (by decide)
  exact ⟨exact_read.1, (exact_read.2.2 ⟨3, 2⟩ (by decide)).1⟩

end LuaXENetwork
