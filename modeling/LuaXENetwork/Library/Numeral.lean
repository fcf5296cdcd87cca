import Mathlib.Data.Nat.Digits.Lemmas
import Mathlib.Data.UInt
import Mathlib.Tactic.IntervalCases

/-! Positional numerals written in ASCII letters, and what a reader makes of them. -/

namespace LuaXENetwork.Library

/-- The value of a letter as a digit of the base. -/
def digitValue (base : Nat) (b : UInt8) : Option Nat :=
  let value :=
    if 48 ≤ b ∧ b ≤ 57 then some (b.toNat - 48)
    else if 97 ≤ b ∧ b ≤ 122 then some (b.toNat - 87)
    else if 65 ≤ b ∧ b ≤ 90 then some (b.toNat - 55)
    else none
  value.filter (· < base)

def isDigit (base : Nat) (b : UInt8) : Bool := (digitValue base b).isSome

/-- The number that a list of digits denotes, most significant digit first. -/
def fromDigits (base : Nat) (digits : List UInt8) : Nat :=
  digits.foldl (fun value b => value * base + (digitValue base b).getD 0) 0

/-- The decimal numeral without leading zeros. -/
def decimal (n : Nat) : List UInt8 :=
  if n = 0 then [48] else ((Nat.digits 10 n).map fun d => UInt8.ofNat (48 + d)).reverse

theorem digitValue_decimal_letter {d : Nat} (lt : d < 10) :
    digitValue 10 (UInt8.ofNat (48 + d)) = some d := by
  interval_cases d <;> decide

theorem decimal_ne_nil (n : Nat) : decimal n ≠ [] := by
  unfold decimal
  split
  · simp
  · simpa [Nat.digits_ne_nil_iff_ne_zero] using ‹¬ n = 0›

theorem mem_decimal {n : Nat} {b : UInt8} (h : b ∈ decimal n) : ∃ d < 10, b = UInt8.ofNat (48 + d) := by
  unfold decimal at h
  split at h
  · exact ⟨0, by omega, by simpa using h⟩
  · rw [List.mem_reverse, List.mem_map] at h
    obtain ⟨d, member, rfl⟩ := h
    exact ⟨d, Nat.digits_lt_base (by omega) member, rfl⟩

theorem isDigit_of_mem_decimal {n : Nat} {b : UInt8} (h : b ∈ decimal n) : isDigit 10 b = true := by
  obtain ⟨d, lt, rfl⟩ := mem_decimal h
  rw [isDigit, digitValue_decimal_letter lt]
  rfl

private theorem foldr_digits (digits : List Nat) (small : ∀ d ∈ digits, d < 10) :
    (digits.map fun d => UInt8.ofNat (48 + d)).foldr
      (fun b value => value * 10 + (digitValue 10 b).getD 0) 0 = Nat.ofDigits 10 digits := by
  induction digits with
  | nil => rfl
  | cons d digits ih =>
      rw [List.map_cons, List.foldr_cons, ih (fun e member => small e (by simp [member])),
        digitValue_decimal_letter (small d (by simp)), Nat.ofDigits_cons]
      simp only [Option.getD_some]
      ring

theorem fromDigits_decimal (n : Nat) : fromDigits 10 (decimal n) = n := by
  unfold decimal
  split
  · subst n
    decide
  · rw [fromDigits, List.foldl_reverse, foldr_digits _ fun d => Nat.digits_lt_base (by omega),
      Nat.ofDigits_digits]

private theorem mul_pow_le_foldl (base value : Nat) (digits : List UInt8) :
    value * base ^ digits.length ≤
      digits.foldl (fun value b => value * base + (digitValue base b).getD 0) value := by
  induction digits generalizing value with
  | nil => simp
  | cons b digits ih =>
      rw [List.foldl_cons, List.length_cons, Nat.pow_succ', ← Nat.mul_assoc]
      refine le_trans (Nat.mul_le_mul_right _ ?_) (ih _)
      exact Nat.le_add_right _ _

theorem pow_le_fromDigits {base v : Nat} {b : UInt8} (first : digitValue base b = some v)
    (positive : 0 < v) (digits : List UInt8) : base ^ digits.length ≤ fromDigits base (b :: digits) := by
  rw [fromDigits, List.foldl_cons, first, Option.getD_some, Nat.zero_mul, Nat.zero_add]
  calc base ^ digits.length ≤ v * base ^ digits.length := Nat.le_mul_of_pos_left _ positive
    _ ≤ _ := mul_pow_le_foldl base v digits

theorem takeWhile_decimal (n : Nat) {rest : List UInt8}
    (stops : ∀ b ∈ rest.head?, isDigit 10 b = false) :
    (decimal n ++ rest).takeWhile (isDigit 10) = decimal n := by
  rw [List.takeWhile_append_of_pos fun b => isDigit_of_mem_decimal]
  cases rest with
  | nil => simp
  | cons b rest => simp [stops b (by simp)]

end LuaXENetwork.Library
