import Mathlib.Tactic.Common

/-! How computations in `Except` come apart. -/

namespace LuaXENetwork.Library

variable {ε : Type*} {α β : Type}

@[simp] theorem bind_eq_ok {x : Except ε α} {f : α → Except ε β} {b : β} :
    x >>= f = .ok b ↔ ∃ a, x = .ok a ∧ f a = .ok b := by
  cases x <;> simp [bind, Except.bind]

@[simp] theorem map_eq_ok {x : Except ε α} {f : α → β} {b : β} :
    f <$> x = .ok b ↔ ∃ a, x = .ok a ∧ f a = b := by
  cases x <;> simp [Functor.map, Except.map]

@[simp] theorem pure_eq_ok {a b : α} : (pure a : Except ε α) = .ok b ↔ a = b := by
  simp [pure, Except.pure]

@[simp] theorem pure_ne_error {a : α} {e : ε} : (pure a : Except ε α) = .error e ↔ False := by
  simp [pure, Except.pure]

@[simp] theorem throw_eq_error {e e' : ε} : (throw e : Except ε α) = .error e' ↔ e = e' := by
  simp [throw, throwThe, MonadExceptOf.throw]

@[simp] theorem throw_ne_ok {e : ε} {a : α} : (throw e : Except ε α) = .ok a ↔ False := by
  simp [throw, throwThe, MonadExceptOf.throw]

@[simp] theorem ok_bind {a : α} {f : α → Except ε β} : (Except.ok a >>= f) = f a := rfl

@[simp] theorem error_bind {e : ε} {f : α → Except ε β} : (Except.error e >>= f) = .error e := rfl

/-- Whichever way the computation ends, what it ends with is good. -/
def Ends (failed : ε → Prop) (done : α → Prop) : Except ε α → Prop
  | .error e => failed e
  | .ok a => done a

theorem Ends.bind {failed : ε → Prop} {middle : α → Prop} {done : β → Prop} {x : Except ε α}
    {f : α → Except ε β} (first : Ends failed middle x)
    (rest : ∀ a, middle a → Ends failed done (f a)) : Ends failed done (x >>= f) := by
  cases x with
  | error e => exact first
  | ok a => exact rest a first

end LuaXENetwork.Library
