import Mathlib.Data.Nat.ModEq

/-!
# Ones' complement sums

Sums of words of `w` bits in which what is carried out at the top is added back in, and the word that
completes such a sum.
-/

namespace LuaXENetwork.Library

/-- Adds what is above `w` bits back in. -/
def fold (w n : Nat) : Nat := n / 2 ^ w + n % 2 ^ w

variable {w n : Nat}

theorem fold_modEq (w n : Nat) : fold w n ≡ n [MOD 2 ^ w - 1] := by
  have one : 2 ^ w ≡ 1 [MOD 2 ^ w - 1] := by
    have := Nat.add_modEq_left (n := 2 ^ w - 1) (a := 1)
    rwa [Nat.sub_add_cancel Nat.one_le_two_pow] at this
  calc
    fold w n = 1 * (n / 2 ^ w) + n % 2 ^ w := by rw [fold, Nat.one_mul]
    _ ≡ 2 ^ w * (n / 2 ^ w) + n % 2 ^ w [MOD 2 ^ w - 1] := (one.symm.mul_right _).add_right _
    _ = n := Nat.div_add_mod n _

theorem fold_pos (some_set : 0 < n) : 0 < fold w n := by
  rw [fold, Nat.pos_iff_ne_zero]
  intro none
  have whole := Nat.div_add_mod n (2 ^ w)
  rw [Nat.eq_zero_of_add_eq_zero_right none, Nat.eq_zero_of_add_eq_zero_left none] at whole
  omega

/-- One fold leaves a carry of at most one bit. -/
theorem fold_lt (bound : n < 2 ^ w * 2 ^ w) : fold w n < 2 * 2 ^ w - 1 := by
  have high : n / 2 ^ w < 2 ^ w := Nat.div_lt_of_lt_mul bound
  have low : n % 2 ^ w < 2 ^ w := Nat.mod_lt _ (Nat.two_pow_pos w)
  rw [fold]
  omega

/-- The second fold leaves none. -/
theorem fold_fold_lt (bound : n < 2 ^ w * 2 ^ w) : fold w (fold w n) < 2 ^ w := by
  have once := fold_lt bound
  generalize fold w n = m at once
  have whole := Nat.div_add_mod m (2 ^ w)
  have low : m % 2 ^ w < 2 ^ w := Nat.mod_lt _ (Nat.two_pow_pos w)
  rw [fold]
  rcases Nat.lt_or_ge m (2 ^ w) with small | large
  · rwa [Nat.div_eq_of_lt small, Nat.mod_eq_of_lt small, Nat.zero_add]
  · have carry : m / 2 ^ w = 1 := Nat.div_eq_of_lt_le (by omega) (by omega)
    rw [carry, Nat.mul_one] at whole
    omega

/-- A sum is all ones exactly when it is a multiple of the word of ones, and not of no words. -/
theorem fold_fold_eq_iff (some_set : 0 < n) (bound : n < 2 ^ w * 2 ^ w) :
    fold w (fold w n) = 2 ^ w - 1 ↔ 2 ^ w - 1 ∣ n := by
  have same : fold w (fold w n) ≡ n [MOD 2 ^ w - 1] := (fold_modEq w _).trans (fold_modEq w n)
  constructor
  · intro ones
    rw [ones] at same
    exact (same.dvd_iff dvd_rfl).mp dvd_rfl
  · intro multiple
    have divides := (same.dvd_iff dvd_rfl).mpr multiple
    have least := Nat.le_of_dvd (fold_pos (fold_pos some_set)) divides
    have most := fold_fold_lt bound
    omega

/-- The complement of a sum completes it. -/
theorem complement_completes (bound : n < 2 ^ w * 2 ^ w) :
    2 ^ w - 1 ∣ n + (2 ^ w - 1 - fold w (fold w n)) := by
  have most := fold_fold_lt bound
  have same : n ≡ fold w (fold w n) [MOD 2 ^ w - 1] := ((fold_modEq w _).trans (fold_modEq w n)).symm
  have ones : fold w (fold w n) + (2 ^ w - 1 - fold w (fold w n)) = 2 ^ w - 1 := by omega
  have sum := same.add_right (2 ^ w - 1 - fold w (fold w n))
  rw [ones] at sum
  exact (sum.dvd_iff dvd_rfl).mpr dvd_rfl

end LuaXENetwork.Library
