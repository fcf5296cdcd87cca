import LuaXENetwork.Library.Program

/-!
# Two runs side by side

Programs that cannot tell alike states apart: they give the same answers and leave alike states.
-/

namespace LuaXENetwork.Library.Program

variable {σ ε α β : Type}

/-- From alike states the programs end with the same answer or error, in alike states. -/
def Alike (alike : σ → σ → Prop) (x y : Program σ ε α) : Prop :=
  ∀ s t, alike s t → (x.run s).1 = (y.run t).1 ∧ alike (x.run s).2 (y.run t).2

namespace Alike

variable {alike : σ → σ → Prop}

theorem bind {x y : Program σ ε α} {f g : α → Program σ ε β} (first : Alike alike x y)
    (rest : ∀ a, Alike alike (f a) (g a)) : Alike alike (x >>= f) (y >>= g) := by
  intro s t start
  obtain ⟨same, middle⟩ := first s t start
  rw [run_bind, run_bind]
  rcases h : x.run s with ⟨e | a, s'⟩
  all_goals
    rcases h' : y.run t with ⟨e' | a', t'⟩
    all_goals rw [h, h'] at same middle
  · exact ⟨congrArg Except.error (Except.error.inj same), middle⟩
  · exact absurd same nofun
  · exact absurd same nofun
  · obtain rfl := Except.ok.inj same
    exact rest a s' t' middle

theorem pure (a : α) : Alike alike (pure a : Program σ ε α) (Pure.pure a) :=
  fun _ _ start => ⟨rfl, start⟩

theorem throw (e : ε) : Alike alike (throw e : Program σ ε α) (MonadExcept.throw e) :=
  fun _ _ start => ⟨rfl, start⟩

theorem ofExcept (x : Except ε α) : Alike alike (ofExcept x : Program σ ε α) (ofExcept x) :=
  fun _ _ start => ⟨rfl, start⟩

theorem read {f : σ → α} (same : ∀ s t, alike s t → f s = f t) :
    Alike alike (read f : Program σ ε α) (Program.read f) :=
  fun s t start => ⟨congrArg Except.ok (same s t start), start⟩

theorem act {f g : σ → α × σ} (step : ∀ s t, alike s t → (f s).1 = (g t).1 ∧ alike (f s).2 (g t).2) :
    Alike alike (act f : Program σ ε α) (Program.act g) :=
  fun s t start => ⟨congrArg Except.ok (step s t start).1, (step s t start).2⟩

theorem change {f g : σ → σ} (step : ∀ s t, alike s t → alike (f s) (g t)) :
    Alike alike (change f : Program σ ε Unit) (Program.change g) :=
  fun s t start => ⟨rfl, step s t start⟩

end Alike

end LuaXENetwork.Library.Program
