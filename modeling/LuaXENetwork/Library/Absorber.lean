import Mathlib.Data.List.Basic
import Mathlib.Data.Nat.ModEq

/-! Input that is taken in by whole blocks, whatever the pieces in which it comes. -/

namespace LuaXENetwork.Library

/-- What the whole blocks came to, and the items behind the last of them. -/
structure Absorber (α σ : Type*) (size : Nat) where
  state : σ
  pending : List α
  short : pending.length < size

namespace Absorber

variable {α σ : Type*} {size : Nat} (f : σ → List α → σ)

def push (s : Absorber α σ size) (item : α) : Absorber α σ size :=
  if more : (s.pending ++ [item]).length < size then ⟨s.state, s.pending ++ [item], more⟩
  else ⟨f s.state (s.pending ++ [item]), [], Nat.zero_lt_of_lt s.short⟩

def absorb (s : Absorber α σ size) (input : List α) : Absorber α σ size := input.foldl (push f) s

@[simp] theorem absorb_nil (s : Absorber α σ size) : s.absorb f [] = s := rfl

theorem absorb_append (s : Absorber α σ size) (first second : List α) :
    s.absorb f (first ++ second) = (s.absorb f first).absorb f second :=
  List.foldl_append

theorem absorb_short (s : Absorber α σ size) (input : List α)
    (less : (s.pending ++ input).length < size) :
    s.absorb f input = ⟨s.state, s.pending ++ input, less⟩ := by
  induction input generalizing s with
  | nil => simp
  | cons item input ih =>
      have more : (s.pending ++ [item]).length < size := by
        simp only [List.length_append, List.length_cons, List.length_nil] at less ⊢
        omega
      have pushed : s.push f item = ⟨s.state, s.pending ++ [item], more⟩ := dif_pos more
      rw [absorb, List.foldl_cons, pushed, ← absorb, ih _ (by simpa using less)]
      simp

/-- The input that fills the block takes it in. -/
theorem absorb_full (s : Absorber α σ size) (input : List α)
    (full : (s.pending ++ input).length = size) :
    s.absorb f input =
      ⟨f s.state (s.pending ++ input), [], Nat.zero_lt_of_lt s.short⟩ := by
  rcases input.eq_nil_or_concat' with rfl | ⟨input, item, rfl⟩
  · have short := s.short
    rw [List.append_nil] at full
    omega
  · have less : (s.pending ++ input).length < size := by
      simp only [List.length_append, List.length_cons, List.length_nil] at full ⊢
      omega
    rw [absorb_append, absorb_short f s input less, absorb, List.foldl_cons, List.foldl_nil, push, dif_neg]
    · simp
    · rw [List.append_assoc, full]
      exact lt_irrefl size

theorem absorb_pending_length (s : Absorber α σ size) (input : List α) :
    (s.absorb f input).pending.length = (s.pending.length + input.length) % size := by
  induction input generalizing s with
  | nil => exact (Nat.mod_eq_of_lt s.short).symm
  | cons item input ih =>
      have short := s.short
      rw [absorb, List.foldl_cons, ← absorb, ih, push]
      split
      · simp only [List.length_append, List.length_cons, List.length_nil]
        congr 1
        omega
      · have full : s.pending.length + 1 = size := by
          simp only [List.length_append, List.length_cons, List.length_nil] at *
          omega
        rw [List.length_cons, List.length_nil, ← Nat.add_assoc, Nat.add_right_comm, full, Nat.zero_add,
          Nat.add_mod_left]

end Absorber

end LuaXENetwork.Library
