import Mathlib.Data.List.Induction

/-!
# Histories

Safety of a sequence of events: each event was allowed by what had happened before it.
-/

namespace LuaXENetwork.Library

variable {α : Type*}

/-- Every event of the history was allowed after the events before it. -/
def Guarded (allowed : List α → α → Prop) (history : List α) : Prop :=
  ∀ before event after, history = before ++ event :: after → allowed before event

namespace Guarded

variable {allowed : List α → α → Prop} {history new : List α}

theorem nil : Guarded allowed ([] : List α) := by
  intro before event after split
  simp at split

theorem snoc {event : α} (guarded : Guarded allowed history) (next : allowed history event) :
    Guarded allowed (history ++ [event]) := by
  intro before last after split
  rcases List.eq_nil_or_concat after with rfl | ⟨middle, final, rfl⟩
  · obtain ⟨rfl, same⟩ := List.append_inj' split rfl
    obtain rfl : event = last := by simpa using same
    exact next
  · have split' : history ++ [event] = (before ++ last :: middle) ++ [final] := by
      simpa using split
    exact guarded before last middle (List.append_inj_left' split' rfl)

/-- Events that are allowed after everything that begins with the history. -/
theorem append (guarded : Guarded allowed history)
    (next : ∀ event ∈ new, ∀ since, allowed (history ++ since) event) :
    Guarded allowed (history ++ new) := by
  induction new using List.reverseRecOn with
  | nil => simpa using guarded
  | append_singleton new event ih =>
      rw [← List.append_assoc]
      refine (ih fun earlier member => next earlier (by simp [member])).snoc ?_
      exact next event (by simp) new

end Guarded

/-- The second history is the first with more events, all of them allowed. -/
def Appends (allowed : α → Prop) (history later : List α) : Prop :=
  ∃ new, later = history ++ new ∧ ∀ event ∈ new, allowed event

namespace Appends

variable {allowed : α → Prop} {history : List α}

instance : Std.Refl (Appends allowed) := ⟨fun history => ⟨[], by simp, by simp⟩⟩

instance : IsTrans (List α) (Appends allowed) := ⟨by
  rintro history _ _ ⟨first, rfl, ok⟩ ⟨second, rfl, ok'⟩
  refine ⟨first ++ second, by simp, fun event member => ?_⟩
  rcases List.mem_append.mp member with member | member
  · exact ok event member
  · exact ok' event member⟩

theorem one {event : α} (ok : allowed event) : Appends allowed history (history ++ [event]) :=
  ⟨[event], rfl, by simpa using ok⟩

end Appends

/-! ## Runs of a machine on a list of inputs -/

section Runs

variable {σ : Type*} {step : σ → α → σ} {meets : σ → α → Prop} {s : σ} {inputs : List α}

/-- Every step of the run meets the condition in the state in which it is taken. -/
def Along (step : σ → α → σ) (meets : σ → α → Prop) : σ → List α → Prop
  | _, [] => True
  | s, input :: inputs => meets s input ∧ Along step meets (step s input) inputs

theorem Along.invariant {kept : σ → Prop} (along : Along step meets s inputs) (start : kept s)
    (keeps : ∀ s input, kept s → meets s input → kept (step s input)) :
    kept (inputs.foldl step s) := by
  induction inputs generalizing s with
  | nil => exact start
  | cons input inputs ih => exact ih along.2 (keeps s input start along.1)

end Runs

end LuaXENetwork.Library
