import Mathlib.Tactic.ByContra

/-!
# Disciplined runs

A rule for single steps that says exactly when a run keeps a property: a step by the rule keeps an
invariant that implies the property, and a step against it breaks the property at once.
-/

namespace LuaXENetwork.Library

variable {σ α : Type*} (step : σ → α → Option σ)

/-- The states of a run, the first one included; an impossible step ends the run. -/
def states (s : σ) : List α → List σ
  | [] => [s]
  | action :: actions =>
      s :: match step s action with
        | none => []
        | some s' => states s' actions

/-- The steps of a run, each with the state it starts from. -/
def taken (s : σ) : List α → List (σ × α)
  | [] => []
  | action :: actions =>
      match step s action with
      | none => []
      | some s' => (s, action) :: taken s' actions

/-- A rule that separates the steps that keep the invariant from those that break the property. -/
structure Discipline (inv good : σ → Prop) (rule : σ → α → Prop) : Prop where
  sound {s} : inv s → good s
  keeps {s s' action} : inv s → step s action = some s' → rule s action → inv s'
  breaks {s s' action} : inv s → step s action = some s' → ¬ rule s action → ¬ good s'

variable {step} {inv good : σ → Prop} {rule : σ → α → Prop}

theorem head_mem_states (s : σ) (actions : List α) : s ∈ states step s actions := by
  cases actions <;> simp [states]

/-- The property holds all along a run exactly when all of its steps follow the rule. -/
theorem Discipline.good_iff (discipline : Discipline step inv good rule) {s : σ} (start : inv s)
    (actions : List α) :
    (∀ t ∈ states step s actions, good t) ↔ ∀ made ∈ taken step s actions, rule made.1 made.2 := by
  induction actions generalizing s with
  | nil => simp [states, taken, discipline.sound start]
  | cons action actions ih =>
      rw [states, taken]
      cases next : step s action with
      | none => simp [discipline.sound start]
      | some s' =>
          simp only [List.forall_mem_cons]
          constructor
          · rintro ⟨-, later⟩
            have follows : rule s action := by
              by_contra against
              exact discipline.breaks start next against (later s' (head_mem_states s' actions))
            exact ⟨follows, (ih (discipline.keeps start next follows)).mp later⟩
          · rintro ⟨follows, later⟩
            exact ⟨discipline.sound start, (ih (discipline.keeps start next follows)).mpr later⟩

end LuaXENetwork.Library
