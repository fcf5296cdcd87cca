import Mathlib.Data.List.Forall2
import Mathlib.Data.List.Induction
import Mathlib.Data.UInt

/-!
# Tag-length-value encodings

Elements with a tag of one octet and a definite length, in the short form or in the long form with at
most four octets, which need not be minimal.
-/

namespace LuaXENetwork.Library

structure Element where
  tag : UInt8
  content : List UInt8
deriving DecidableEq, Repr

namespace Element

def bigEndian (octets : List UInt8) : Nat := octets.foldl (fun value octet => value * 256 + octet.toNat) 0

theorem bigEndian_append (octets : List UInt8) (octet : UInt8) :
    bigEndian (octets ++ [octet]) = bigEndian octets * 256 + octet.toNat := by
  rw [bigEndian, List.foldl_append]
  rfl

theorem bigEndian_lt (octets : List UInt8) : bigEndian octets < 256 ^ octets.length := by
  induction octets using List.reverseRecOn with
  | nil => decide
  | append_singleton octets octet ih =>
      have small := octet.toNat_lt
      rw [bigEndian_append, List.length_append, List.length_singleton, Nat.pow_succ]
      omega

/-- The octets in front of a content that give its length. -/
inductive LengthOctets (length : Nat) : List UInt8 → Prop
  | short (small : length < 128) : LengthOctets length [UInt8.ofNat length]
  | long (octets : List UInt8) (given : octets ≠ []) (few : octets.length ≤ 4)
      (value : bigEndian octets = length) : LengthOctets length (UInt8.ofNat (128 + octets.length) :: octets)

def Encodes (element : Element) (bytes : List UInt8) : Prop :=
  ∃ octets, LengthOctets element.content.length octets ∧ bytes = element.tag :: octets ++ element.content

/-- The encodings of the elements, one after the other. -/
def EncodeAll (elements : List Element) (bytes : List UInt8) : Prop :=
  ∃ parts, List.Forall₂ Encodes elements parts ∧ bytes = parts.flatten

/-- Cuts the content off what follows the length. -/
def cut (tag : UInt8) (length : Nat) (rest : List UInt8) : Option (Element × List UInt8) :=
  if rest.length < length then none else some (⟨tag, rest.take length⟩, rest.drop length)

/-- The element at the front, and what follows it. -/
def parse : List UInt8 → Option (Element × List UInt8)
  | tag :: first :: rest =>
      if first.toNat < 128 then cut tag first.toNat rest
      else
        let count := first.toNat - 128
        if count = 0 ∨ 4 < count ∨ rest.length < count then none
        else cut tag (bigEndian (rest.take count)) (rest.drop count)
  | _ => none

variable {element : Element} {bytes rest : List UInt8} {elements : List Element}

theorem cut_append (tag : UInt8) (content rest : List UInt8) :
    cut tag content.length (content ++ rest) = some (⟨tag, content⟩, rest) := by
  simp [cut]

theorem parse_append (encodes : Encodes element bytes) (rest : List UInt8) :
    parse (bytes ++ rest) = some (element, rest) := by
  obtain ⟨octets, length, rfl⟩ := encodes
  cases length with
  | short small =>
      have first : (UInt8.ofNat element.content.length).toNat = element.content.length := by
        rw [UInt8.toNat_ofNat']
        omega
      simp only [List.cons_append, List.nil_append, parse]
      rw [first, if_pos small, cut_append]
  | long octets given few value =>
      have count_pos := List.length_pos_iff.mpr given
      have first : (UInt8.ofNat (128 + octets.length)).toNat = 128 + octets.length := by
        rw [UInt8.toNat_ofNat']
        omega
      simp only [List.cons_append, parse, List.append_assoc]
      rw [first, if_neg (by omega), Nat.add_sub_cancel_left, if_neg, List.take_left, List.drop_left, value,
        cut_append]
      rw [List.length_append]
      omega

theorem encodes_length (encodes : Encodes element bytes) : 2 + element.content.length ≤ bytes.length := by
  obtain ⟨octets, length, rfl⟩ := encodes
  cases length with
  | short small => simp; omega
  | long octets given few value => simp; omega

theorem cut_some {tag : UInt8} {length : Nat} (found : cut tag length rest = some (element, bytes)) :
    element.tag = tag ∧ element.content.length = length ∧ rest = element.content ++ bytes := by
  rw [cut] at found
  split at found
  · contradiction
  · obtain ⟨rfl, rfl⟩ := Prod.mk.inj (Option.some.inj found)
    exact ⟨rfl, by simp; omega, (List.take_append_drop ..).symm⟩

theorem of_parse (found : parse bytes = some (element, rest)) :
    ∃ front, Encodes element front ∧ bytes = front ++ rest := by
  match bytes with
  | tag :: first :: more =>
      rw [parse] at found
      split at found
      · rename_i small
        obtain ⟨rfl, length, rfl⟩ := cut_some found
        refine ⟨element.tag :: [first] ++ element.content, ⟨[first], ?_, rfl⟩, by simp⟩
        have same : first = UInt8.ofNat element.content.length := by
          rw [length]
          simp
        rw [same]
        exact .short (length ▸ small)
      · rename_i long
        dsimp only at found
        split at found
        · contradiction
        · rename_i count
          simp only [not_or, Nat.not_lt] at count
          obtain ⟨rfl, length, split⟩ := cut_some found
          have octets_length : (more.take (first.toNat - 128)).length = first.toNat - 128 :=
            List.length_take_of_le count.2.2
          have same : first = UInt8.ofNat (128 + (more.take (first.toNat - 128)).length) := by
            rw [octets_length, Nat.add_sub_cancel' (Nat.not_lt.mp long), UInt8.ofNat_toNat]
          refine ⟨element.tag :: (first :: more.take (first.toNat - 128)) ++ element.content,
            ⟨first :: more.take (first.toNat - 128), ?_, rfl⟩, ?_⟩
          · nth_rewrite 1 [same]
            refine .long _ ?_ (by omega) length.symm
            exact List.length_pos_iff.mp (by omega)
          · rw [List.append_assoc, ← split]
            simp
  | [] => contradiction
  | [_] => contradiction

theorem parse_length (found : parse bytes = some (element, rest)) :
    element.content.length + rest.length + 2 ≤ bytes.length := by
  obtain ⟨front, encodes, rfl⟩ := of_parse found
  have := encodes_length encodes
  rw [List.length_append]
  omega

/-- The elements from the front, each with what follows it, as far as they can be read. -/
def walk (bytes : List UInt8) : List (Element × List UInt8) :=
  match _found : parse bytes with
  | none => []
  | some (element, rest) => (element, rest) :: walk rest
termination_by bytes.length
decreasing_by
  have := parse_length _found
  omega

theorem walk_of_parse (found : parse bytes = some (element, rest)) :
    walk bytes = (element, rest) :: walk rest := by
  rw [walk]
  split
  · rename_i none_found
    rw [none_found] at found
    contradiction
  · rename_i element' rest' found'
    obtain ⟨rfl, rfl⟩ := Prod.mk.inj (Option.some.inj (found'.symm.trans found))
    rfl

theorem walk_of_none (found : parse bytes = none) : walk bytes = [] := by
  rw [walk]
  split
  · rfl
  · rename_i found'
    rw [found] at found'
    contradiction

theorem walk_nil : walk [] = [] := walk_of_none rfl

theorem encodeAll_nil : EncodeAll [] bytes ↔ bytes = [] := by
  simp [EncodeAll]

theorem encodeAll_cons : EncodeAll (element :: elements) bytes ↔
    ∃ front rest, Encodes element front ∧ EncodeAll elements rest ∧ bytes = front ++ rest := by
  constructor
  · rintro ⟨parts, each, rfl⟩
    obtain ⟨front, parts, first, others, rfl⟩ := List.forall₂_cons_left_iff.mp each
    exact ⟨front, parts.flatten, first, ⟨parts, others, rfl⟩, rfl⟩
  · rintro ⟨front, rest, first, ⟨parts, others, rfl⟩, rfl⟩
    exact ⟨front :: parts, .cons first others, rfl⟩

theorem walk_encodeAll (encodes : EncodeAll elements bytes) : (walk bytes).map Prod.fst = elements := by
  induction elements generalizing bytes with
  | nil => rw [encodeAll_nil.mp encodes, walk_nil, List.map_nil]
  | cons element elements ih =>
      obtain ⟨front, rest, first, others, rfl⟩ := encodeAll_cons.mp encodes
      rw [walk_of_parse (parse_append first rest), List.map_cons, ih others]

/-! ## The short form -/

def short (element : Element) : List UInt8 :=
  element.tag :: UInt8.ofNat element.content.length :: element.content

theorem encodes_short (small : element.content.length < 128) : Encodes element element.short :=
  ⟨[UInt8.ofNat element.content.length], .short small, rfl⟩

theorem encodeAll_short (small : ∀ element ∈ elements, element.content.length < 128) :
    EncodeAll elements (elements.flatMap short) := by
  refine ⟨elements.map short, ?_, rfl⟩
  rw [List.forall₂_map_right_iff, List.forall₂_same]
  exact fun element member => encodes_short (small element member)

theorem content_length_le (member : element ∈ elements) :
    element.content.length + 2 ≤ (elements.flatMap short).length :=
  (List.sublist_flatten_of_mem (List.mem_map_of_mem (f := short) member)).length_le

theorem encodeAll_short_of_length (small : (elements.flatMap short).length < 128) :
    EncodeAll elements (elements.flatMap short) := by
  refine encodeAll_short fun element member => ?_
  have part := content_length_le member
  omega

end Element

end LuaXENetwork.Library
