import Mathlib.Data.List.Basic

/-!
# Resumable machines

A machine that reads a list from the front and may ask for more input. When what it does never
changes once it no longer waits, cutting the input into pieces makes no difference.
-/

namespace LuaXENetwork.Library

/-- What a machine does with the input it holds. -/
inductive Progress (σ ο ε : Type*) where
  | wait
  | fail (error : ε)
  | advance (state : σ) (used : Nat) (out : List ο)

structure Machine (σ α ο ε : Type*) where
  step : σ → List α → Progress σ ο ε
  used_pos {s input s' used out} : step s input = .advance s' used out → 0 < used
  used_le {s input s' used out} : step s input = .advance s' used out → used ≤ input.length
  stable {s input} (more : List α) : step s input ≠ .wait → step s (input ++ more) = step s input

namespace Machine

variable {σ α ο ε : Type*} (m : Machine σ α ο ε)

/-- Runs the machine until it waits: the output, the state, and the input left over. -/
def drain (s : σ) (input : List α) : Except ε (List ο × σ × List α) :=
  match _advanced : m.step s input with
  | .wait => .ok ([], s, input)
  | .fail error => .error error
  | .advance s' used out => do
      let (outs, rest) ← drain s' (input.drop used)
      return (out ++ outs, rest)
termination_by input.length
decreasing_by
  have := m.used_pos _advanced
  have := m.used_le _advanced
  simp only [List.length_drop]
  omega

/-- Hands over the pieces one after the other. -/
def feedAll (s : σ) (held : List α) : List (List α) → Except ε (List ο × σ × List α)
  | [] => .ok ([], s, held)
  | piece :: pieces => do
      let (out, s', held') ← m.drain s (held ++ piece)
      let (outs, rest) ← feedAll s' held' pieces
      return (out ++ outs, rest)

/-- What the machine puts out before it waits or fails. -/
def outputs (s : σ) (input : List α) : List ο :=
  match _advanced : m.step s input with
  | .wait => []
  | .fail _ => []
  | .advance s' used out => out ++ outputs s' (input.drop used)
termination_by input.length
decreasing_by
  have := m.used_pos _advanced
  have := m.used_le _advanced
  simp only [List.length_drop]
  omega

variable {m}

theorem drain_of_wait {s : σ} {input : List α} (h : m.step s input = .wait) :
    m.drain s input = .ok ([], s, input) := by
  rw [drain]
  split <;> simp_all

theorem drain_of_fail {s : σ} {input : List α} {error : ε} (h : m.step s input = .fail error) :
    m.drain s input = .error error := by
  rw [drain]
  split <;> simp_all

theorem drain_of_advance {s s' : σ} {input : List α} {used : Nat} {out : List ο}
    (h : m.step s input = .advance s' used out) :
    m.drain s input = (do
      let (outs, rest) ← m.drain s' (input.drop used)
      return (out ++ outs, rest)) := by
  rw [drain]
  split <;> simp_all

theorem drain_ok_of_advance {s s₁ s' : σ} {input rest : List α} {used : Nat} {first out : List ο}
    (advances : m.step s input = .advance s₁ used first)
    (h : m.drain s input = .ok (out, s', rest)) :
    ∃ outs, out = first ++ outs ∧ m.drain s₁ (input.drop used) = .ok (outs, s', rest) := by
  rw [drain_of_advance advances] at h
  cases later : m.drain s₁ (input.drop used) with
  | error e => simp [later, bind, Except.bind] at h
  | ok result =>
      obtain ⟨outs, final⟩ := result
      simp only [later, bind, Except.bind, pure, Except.pure, Except.ok.injEq,
        Prod.mk.injEq] at h
      obtain ⟨rfl, rfl⟩ := h
      exact ⟨outs, rfl, rfl⟩

/-- Cases of a run: what one step does, and for an advancing step the run from there. -/
theorem drain_induct {motive : σ → List α → Prop}
    (wait : ∀ s input, m.step s input = .wait → motive s input)
    (fail : ∀ s input error, m.step s input = .fail error → motive s input)
    (advance : ∀ s input s' used out, m.step s input = .advance s' used out →
      motive s' (input.drop used) → motive s input)
    (s : σ) (input : List α) : motive s input := by
  induction s, input using drain.induct m with
  | case1 s input h => exact wait s input h
  | case2 s input error h => exact fail s input error h
  | case3 s input s' used out h ih => exact advance s input s' used out h ih

theorem wait_of_drain {s s' : σ} {input rest : List α} {out : List ο}
    (h : m.drain s input = .ok (out, s', rest)) : m.step s' rest = .wait := by
  induction s, input using drain_induct (m := m) generalizing out with
  | wait s input waits =>
      rw [drain_of_wait waits] at h
      cases h
      exact waits
  | fail s input error fails =>
      rw [drain_of_fail fails] at h
      contradiction
  | advance s input s₁ used first advances ih =>
      obtain ⟨outs, -, later⟩ := drain_ok_of_advance advances h
      exact ih later

theorem invariant_of_drain {P : σ → Prop} (inv : ∀ s input s' used out,
      m.step s input = .advance s' used out → P s → P s')
    {s s' : σ} {input rest : List α} {out : List ο} (start : P s)
    (h : m.drain s input = .ok (out, s', rest)) : P s' := by
  induction s, input using drain_induct (m := m) generalizing out with
  | wait s input waits =>
      rw [drain_of_wait waits] at h
      cases h
      exact start
  | fail s input error fails =>
      rw [drain_of_fail fails] at h
      contradiction
  | advance s input s₁ used first advances ih =>
      obtain ⟨outs, -, later⟩ := drain_ok_of_advance advances h
      exact ih (inv s input s₁ used first advances start) later

theorem suffix_of_drain {s s' : σ} {input rest : List α} {out : List ο}
    (h : m.drain s input = .ok (out, s', rest)) : rest <:+ input := by
  induction s, input using drain_induct (m := m) generalizing out with
  | wait s input waits =>
      rw [drain_of_wait waits] at h
      cases h
      exact List.suffix_rfl
  | fail s input error fails =>
      rw [drain_of_fail fails] at h
      contradiction
  | advance s input s₁ used first advances ih =>
      obtain ⟨outs, -, later⟩ := drain_ok_of_advance advances h
      exact (ih later).trans (List.drop_suffix used input)

/-- Input that arrives later is handled as if it had been there from the start. -/
theorem drain_append (s : σ) (input more : List α) :
    m.drain s (input ++ more) = (do
      let (out, s', rest) ← m.drain s input
      let (outs, final) ← m.drain s' (rest ++ more)
      return (out ++ outs, final)) := by
  induction s, input using drain_induct (m := m) with
  | wait s input waits =>
      rw [drain_of_wait waits]
      simp only [bind, Except.bind, pure, Except.pure, List.nil_append]
      cases m.drain s (input ++ more) <;> rfl
  | fail s input error fails =>
      rw [drain_of_fail fails, drain_of_fail (by rw [m.stable more (by simp [fails]), fails])]
      rfl
  | advance s input s₁ used first advances ih =>
      have still : m.step s (input ++ more) = .advance s₁ used first := by
        rw [m.stable more (by simp [advances]), advances]
      rw [drain_of_advance still, drain_of_advance advances,
        List.drop_append_of_le_length (m.used_le advances), ih]
      cases m.drain s₁ (input.drop used) with
      | error e => rfl
      | ok result =>
          obtain ⟨out, s₂, rest⟩ := result
          simp only [bind, Except.bind, pure, Except.pure]
          cases m.drain s₂ (rest ++ more) with
          | error e => rfl
          | ok final => simp [List.append_assoc]

theorem drain_append_ok {s s' : σ} {input more rest : List α} {out outs : List ο}
    {final : σ × List α} (first : m.drain s input = .ok (out, s', rest))
    (later : m.drain s' (rest ++ more) = .ok (outs, final)) :
    m.drain s (input ++ more) = .ok (out ++ outs, final) := by
  rw [drain_append, first]
  simp only [bind, Except.bind, later]
  rfl

/-- Feeding pieces to a waiting machine is running it on all the input at once. -/
theorem feedAll_eq_drain {s : σ} {held : List α} (waiting : m.step s held = .wait)
    (pieces : List (List α)) :
    m.feedAll s held pieces = m.drain s (held ++ pieces.flatten) := by
  induction pieces generalizing s held with
  | nil => simp [feedAll, drain_of_wait waiting]
  | cons piece pieces ih =>
      rw [feedAll, List.flatten_cons, ← List.append_assoc, drain_append s (held ++ piece)]
      cases first : m.drain s (held ++ piece) with
      | error e => rfl
      | ok result =>
          obtain ⟨out, s', rest⟩ := result
          simp only [bind, Except.bind]
          rw [ih (wait_of_drain first)]

theorem outputs_of_wait {s : σ} {input : List α} (h : m.step s input = .wait) :
    m.outputs s input = [] := by
  rw [outputs]
  split <;> simp_all

theorem outputs_of_fail {s : σ} {input : List α} {error : ε} (h : m.step s input = .fail error) :
    m.outputs s input = [] := by
  rw [outputs]
  split <;> simp_all

theorem outputs_of_advance {s s' : σ} {input : List α} {used : Nat} {out : List ο}
    (h : m.step s input = .advance s' used out) :
    m.outputs s input = out ++ m.outputs s' (input.drop used) := by
  rw [outputs]
  split <;> simp_all

theorem outputs_of_drain {s s' : σ} {input rest : List α} {out : List ο}
    (h : m.drain s input = .ok (out, s', rest)) : m.outputs s input = out := by
  induction s, input using drain_induct (m := m) generalizing out with
  | wait s input waits =>
      rw [drain_of_wait waits] at h
      cases h
      exact outputs_of_wait waits
  | fail s input error fails =>
      rw [drain_of_fail fails] at h
      contradiction
  | advance s input s₁ used first advances ih =>
      obtain ⟨outs, rfl, later⟩ := drain_ok_of_advance advances h
      rw [outputs_of_advance advances, ih later]

/-- A machine that takes at least the steps of another puts out at least as much, on more input too. -/
theorem outputs_prefix {m' : Machine σ α ο ε} (follows : ∀ s input s' used out,
      m.step s input = .advance s' used out → m'.step s input = .advance s' used out)
    (s : σ) (input more : List α) : m.outputs s input <+: m'.outputs s (input ++ more) := by
  induction s, input using drain_induct (m := m) with
  | wait s input waits =>
      rw [outputs_of_wait waits]
      exact List.nil_prefix
  | fail s input error fails =>
      rw [outputs_of_fail fails]
      exact List.nil_prefix
  | advance s input s₁ used first advances ih =>
      have same := follows s input s₁ used first advances
      have still : m'.step s (input ++ more) = .advance s₁ used first := by
        rw [m'.stable more (by simp [same]), same]
      rw [outputs_of_advance advances, outputs_of_advance still,
        List.drop_append_of_le_length (m.used_le advances)]
      exact List.prefix_append_right_inj first |>.mpr ih

end Machine
end LuaXENetwork.Library
