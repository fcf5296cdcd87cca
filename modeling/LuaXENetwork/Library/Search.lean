import Mathlib.Data.List.Infix

/-! First occurrences of a pattern in a list, and what more input does to them. -/

namespace LuaXENetwork.Library

variable {α : Type*} [DecidableEq α]

/-- The position of the first occurrence of `pattern`. -/
def find (pattern : List α) : List α → Option Nat
  | [] => if pattern = [] then some 0 else none
  | a :: s => if pattern.isPrefixOf (a :: s) then some 0 else (find pattern s).map (· + 1)

theorem find_eq_zero {p s : List α} (h : p <+: s) : find p s = some 0 := by
  cases s with
  | nil => simp [find, List.prefix_nil.mp h]
  | cons a s => simp [find, List.isPrefixOf_iff_prefix.mpr h]

theorem find_cons_skip {p s : List α} {a : α} (h : ¬ p <+: a :: s) :
    find p (a :: s) = (find p s).map (· + 1) := by
  rw [find, if_neg (fun holds => h (List.isPrefixOf_iff_prefix.mp holds))]

theorem prefix_drop_of_find {p s : List α} {i : Nat} (h : find p s = some i) :
    p <+: s.drop i := by
  induction s generalizing i with
  | nil =>
      unfold find at h
      split at h <;> simp_all
  | cons a s ih =>
      by_cases here : p <+: a :: s
      · rw [find_eq_zero here] at h
        obtain rfl := Option.some.inj h
        exact here
      · rw [find_cons_skip here, Option.map_eq_some_iff] at h
        obtain ⟨j, found, rfl⟩ := h
        exact ih found

theorem not_prefix_drop_of_find {p s : List α} {i j : Nat} (h : find p s = some i) (lt : j < i) :
    ¬ p <+: s.drop j := by
  induction s generalizing i j with
  | nil =>
      unfold find at h
      split at h
      · obtain rfl := Option.some.inj h
        omega
      · contradiction
  | cons a s ih =>
      by_cases here : p <+: a :: s
      · rw [find_eq_zero here] at h
        obtain rfl := Option.some.inj h
        omega
      · rw [find_cons_skip here, Option.map_eq_some_iff] at h
        obtain ⟨k, found, rfl⟩ := h
        cases j with
        | zero => exact here
        | succ j => exact ih found (by omega)

theorem not_prefix_drop_of_find_none {p s : List α} (h : find p s = none) (j : Nat) :
    ¬ p <+: s.drop j := by
  induction s generalizing j with
  | nil =>
      unfold find at h
      split at h
      · contradiction
      · simpa using ‹p ≠ []›
  | cons a s ih =>
      by_cases here : p <+: a :: s
      · rw [find_eq_zero here] at h
        contradiction
      · rw [find_cons_skip here, Option.map_eq_none_iff] at h
        cases j with
        | zero => exact here
        | succ j => exact ih h j

theorem eq_append_of_find {p s : List α} {i : Nat} (h : find p s = some i) :
    s = s.take i ++ p ++ s.drop (i + p.length) := by
  obtain ⟨rest, split⟩ := prefix_drop_of_find h
  have after : s.drop (i + p.length) = rest := by
    rw [← List.drop_drop, ← split, List.drop_left]
  rw [after, List.append_assoc, split, List.take_append_drop]

theorem add_length_le_of_find {p s : List α} {i : Nat} (h : find p s = some i) :
    i + p.length ≤ s.length := by
  have bound := (prefix_drop_of_find h).length_le
  by_cases inside : i ≤ s.length
  · rw [List.length_drop] at bound
    omega
  · cases p with
    | nil =>
        rw [find_eq_zero List.nil_prefix] at h
        obtain rfl := Option.some.inj h
        omega
    | cons b p =>
        rw [List.drop_eq_nil_of_le (by omega)] at bound
        simp at bound

theorem find_append {p s : List α} {i : Nat} (h : find p s = some i) (t : List α) :
    find p (s ++ t) = some i := by
  induction s generalizing i with
  | nil =>
      unfold find at h
      split at h
      · subst ‹p = []›
        obtain rfl := Option.some.inj h
        exact find_eq_zero (List.nil_prefix)
      · contradiction
  | cons a s ih =>
      by_cases here : p <+: a :: s
      · rw [find_eq_zero here] at h
        rw [find_eq_zero (here.trans (List.prefix_append _ _)), h]
      · have found := h
        rw [find_cons_skip here, Option.map_eq_some_iff] at found
        obtain ⟨j, found, rfl⟩ := found
        have enough : p.length ≤ (a :: s).length := by
          have := add_length_le_of_find h
          omega
        have still : ¬ p <+: a :: s ++ t := fun holds =>
          here (List.prefix_of_prefix_length_le holds (List.prefix_append _ _) enough)
        rw [List.cons_append] at still ⊢
        rw [find_cons_skip still, ih found]
        rfl

theorem find_within {p s whole : List α} {i : Nat} (front : s <+: whole)
    (h : find p whole = some i) (enough : i + p.length ≤ s.length) : find p s = some i := by
  cases found : find p s with
  | some j =>
      obtain ⟨t, rfl⟩ := front
      rw [find_append found t] at h
      exact h
  | none =>
      exfalso
      apply not_prefix_drop_of_find_none found i
      have here := prefix_drop_of_find h
      obtain ⟨t, rfl⟩ := front
      rw [List.drop_append_of_le_length (by omega)] at here
      exact List.prefix_of_prefix_length_le here (List.prefix_append _ _)
        (by rw [List.length_drop]; omega)

theorem find_isSome_iff {p s : List α} : (find p s).isSome = true ↔ p <:+: s := by
  constructor
  · intro found
    obtain ⟨position, found⟩ := Option.isSome_iff_exists.mp found
    exact ⟨_, _, (eq_append_of_find found).symm⟩
  · rintro ⟨before, after, rfl⟩
    cases absent : find p (before ++ p ++ after) with
    | some position => rfl
    | none =>
        exfalso
        apply not_prefix_drop_of_find_none absent before.length
        rw [List.append_assoc, List.drop_left]
        exact List.prefix_append _ _

theorem find_eq_none_iff {p s : List α} : find p s = none ↔ ¬ p <:+: s := by
  rw [← find_isSome_iff, Bool.not_eq_true, Option.isSome_eq_false_iff, Option.isNone_iff_eq_none]

theorem find_append_left {a : α} {before : List α} (absent : a ∉ before) (q after : List α) :
    find (a :: q) (before ++ after) = (find (a :: q) after).map (· + before.length) := by
  induction before with
  | nil => simp
  | cons b before ih =>
      rw [List.mem_cons, not_or] at absent
      have skip : ¬ a :: q <+: b :: before ++ after := fun holds =>
        absent.1 (List.cons_prefix_cons.mp holds).1
      rw [List.cons_append] at skip ⊢
      rw [find_cons_skip skip, ih absent.2, Option.map_map]
      rfl

theorem find_append_cons {a : α} {before : List α} (absent : a ∉ before) (q after : List α) :
    find (a :: q) (before ++ (a :: q ++ after)) = some before.length := by
  rw [find_append_left absent, find_eq_zero (List.prefix_append _ _), Option.map_some, Nat.zero_add]

theorem find_eq_none_of_head_notMem {a : α} {s : List α} (absent : a ∉ s) (q : List α) :
    find (a :: q) s = none := by
  cases h : find (a :: q) s with
  | none => rfl
  | some i =>
      exfalso
      apply absent
      rw [eq_append_of_find h]
      simp

theorem find_letter_none {a : α} {s : List α} : find [a] s = none ↔ a ∉ s := by
  constructor
  · intro none_found member
    obtain ⟨before, after, rfl⟩ := List.append_of_mem member
    refine not_prefix_drop_of_find_none none_found before.length ?_
    rw [List.drop_left]
    exact ⟨after, rfl⟩
  · exact fun absent => find_eq_none_of_head_notMem absent []

theorem find_letter_some {a : α} {s : List α} {i : Nat} :
    find [a] s = some i ↔ ∃ before after, s = before ++ a :: after ∧ a ∉ before ∧ i = before.length := by
  constructor
  · intro found
    have split := eq_append_of_find found
    have inside := add_length_le_of_find found
    refine ⟨s.take i, s.drop (i + 1), by simpa using split, fun member => ?_, ?_⟩
    · obtain ⟨front, back, same⟩ := List.append_of_mem member
      refine not_prefix_drop_of_find found (j := front.length) ?_ ?_
      · have length := congrArg List.length same
        simp only [List.length_take, List.length_append, List.length_cons] at length
        omega
      · rw [← List.take_append_drop i s, same, List.append_assoc, List.drop_left]
        exact ⟨back ++ s.drop i, rfl⟩
    · exact (List.length_take_of_le (by simp at inside; omega)).symm
  · rintro ⟨before, after, rfl, absent, rfl⟩
    exact find_append_cons absent [] after

end LuaXENetwork.Library
