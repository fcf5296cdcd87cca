import Mathlib.Tactic.Common

/-!
# Programs with a state and exceptions

The rules of pre- and postconditions for programs that keep their state when they throw.
-/

namespace LuaXENetwork.Library

abbrev Program (σ ε α : Type) := ExceptT ε (StateM σ) α

namespace Program

variable {σ ε α β : Type}

/-- A program that ends in a state and an answer. -/
def run (x : Program σ ε α) (s : σ) : Except ε α × σ := x s

/-- A step on the state that cannot fail. -/
def act (step : σ → α × σ) : Program σ ε α := fun s => (.ok (step s).1, (step s).2)

def read (f : σ → α) : Program σ ε α := fun s => (.ok (f s), s)

def change (f : σ → σ) : Program σ ε Unit := fun s => (.ok (), f s)

def ofExcept (x : Except ε α) : Program σ ε α := fun s => (x, s)

/-- A step that not every state allows. -/
def stepOr (failure : ε) (step : σ → Option σ) : Program σ ε Unit := fun s =>
  match step s with
  | some s' => (.ok (), s')
  | none => (.error failure, s)

def readOr (failure : ε) (f : σ → Option α) : Program σ ε α := fun s =>
  match f s with
  | some a => (.ok a, s)
  | none => (.error failure, s)

/-- From every state with `before`, the program returns with `done` or throws with `failed`. -/
def Triple (before : σ → Prop) (x : Program σ ε α) (done : α → σ → Prop)
    (failed : ε → σ → Prop) : Prop :=
  ∀ s, before s → match x.run s with
    | (.ok a, s') => done a s'
    | (.error e, s') => failed e s'

theorem run_bind (x : Program σ ε α) (f : α → Program σ ε β) (s : σ) :
    (x >>= f).run s = match x.run s with
      | (.ok a, s') => (f a).run s'
      | (.error e, s') => (.error e, s') := by
  simp only [run, bind, ExceptT.bind, ExceptT.mk, StateT.bind]
  rcases x s with ⟨e | a, s'⟩ <;> rfl

@[simp] theorem run_pure (a : α) (s : σ) : (pure a : Program σ ε α).run s = (.ok a, s) := rfl

@[simp] theorem run_throw (e : ε) (s : σ) : (throw e : Program σ ε α).run s = (.error e, s) := rfl

@[simp] theorem run_act (step : σ → α × σ) (s : σ) :
    (act step : Program σ ε α).run s = (.ok (step s).1, (step s).2) := rfl

@[simp] theorem run_read (f : σ → α) (s : σ) : (read f : Program σ ε α).run s = (.ok (f s), s) := rfl

@[simp] theorem run_ofExcept (x : Except ε α) (s : σ) :
    (ofExcept x : Program σ ε α).run s = (x, s) := rfl

@[simp] theorem run_change (f : σ → σ) (s : σ) :
    (change f : Program σ ε Unit).run s = (.ok (), f s) := rfl

theorem run_stepOr {failure : ε} {step : σ → Option σ} {s s' : σ} (allowed : step s = some s') :
    (stepOr failure step).run s = (.ok (), s') := by
  simp only [run, stepOr, allowed]

theorem run_readOr {failure : ε} {f : σ → Option α} {s : σ} {a : α} (found : f s = some a) :
    (readOr failure f).run s = (.ok a, s) := by
  simp only [run, readOr, found]

theorem run_bind_ok {x : Program σ ε α} {f : α → Program σ ε β} {s s' : σ} {a : α}
    (returns : x.run s = (.ok a, s')) : (x >>= f).run s = (f a).run s' := by
  rw [run_bind, returns]

theorem run_bind_error {x : Program σ ε α} {f : α → Program σ ε β} {s s' : σ} {e : ε}
    (throws : x.run s = (.error e, s')) : (x >>= f).run s = (.error e, s') := by
  rw [run_bind, throws]

variable {before : σ → Prop} {done : α → σ → Prop} {failed : ε → σ → Prop}

theorem Triple.bind {x : Program σ ε α} {f : α → Program σ ε β} {last : β → σ → Prop}
    (first : Triple before x done failed) (rest : ∀ a, Triple (done a) (f a) last failed) :
    Triple before (x >>= f) last failed := by
  intro s start
  have middle := first s start
  rw [run_bind]
  rcases h : x.run s with ⟨e | a, s'⟩
  all_goals rw [h] at middle
  · exact middle
  · exact rest a s' middle

theorem Triple.via (middle : α → σ → Prop) {x : Program σ ε α} {f : α → Program σ ε β}
    {last : β → σ → Prop} (first : Triple before x middle failed)
    (rest : ∀ a, Triple (middle a) (f a) last failed) : Triple before (x >>= f) last failed :=
  first.bind rest

theorem Triple.pure {a : α} (h : ∀ s, before s → done a s) :
    Triple before (pure a : Program σ ε α) done failed := h

theorem Triple.throw {e : ε} (h : ∀ s, before s → failed e s) :
    Triple before (throw e : Program σ ε α) done failed := h

theorem Triple.act {step : σ → α × σ} (h : ∀ s, before s → done (step s).1 (step s).2) :
    Triple before (act step : Program σ ε α) done failed := h

theorem Triple.read {f : σ → α} (h : ∀ s, before s → done (f s) s) :
    Triple before (read f : Program σ ε α) done failed := h

theorem Triple.look (f : σ → α) :
    Triple before (Program.read f : Program σ ε α) (fun _ => before) failed := fun _ start => start

theorem Triple.change {f : σ → σ} {done : Unit → σ → Prop} (h : ∀ s, before s → done () (f s)) :
    Triple before (change f : Program σ ε Unit) done failed := h

theorem Triple.weaken {before' : σ → Prop} {done' : α → σ → Prop} {failed' : ε → σ → Prop}
    {x : Program σ ε α} (triple : Triple before x done failed)
    (starts : ∀ s, before' s → before s) (returns : ∀ a s, done a s → done' a s)
    (throws : ∀ e s, failed e s → failed' e s) : Triple before' x done' failed' := by
  intro s start
  have ends := triple s (starts s start)
  rcases h : x.run s with ⟨e | a, s'⟩
  all_goals rw [h] at ends
  · exact throws e s' ends
  · exact returns a s' ends

theorem Triple.any (x : Program σ ε α) : Triple before x (fun _ _ => True) (fun _ _ => True) := by
  intro s _
  rcases x.run s with ⟨e | a, s'⟩
  · trivial
  · trivial

theorem Triple.assume {fact : Prop} {x : Program σ ε α}
    (h : fact → Triple before x done failed) :
    Triple (fun s => fact ∧ before s) x done failed :=
  fun s start => h start.1 s start.2

theorem Triple.exists {ι : Sort*} {before : ι → σ → Prop} {x : Program σ ε α}
    (h : ∀ i, Triple (before i) x done failed) : Triple (fun s => ∃ i, before i s) x done failed :=
  fun s ⟨i, start⟩ => h i s start

theorem Triple.ok {x : Program σ ε α} (triple : Triple before x done failed) {s s' : σ} {a : α}
    (start : before s) (returns : x.run s = (.ok a, s')) : done a s' := by
  have ends := triple s start
  rwa [returns] at ends

theorem Triple.error {x : Program σ ε α} (triple : Triple before x done failed) {s s' : σ} {e : ε}
    (start : before s) (throws : x.run s = (.error e, s')) : failed e s' := by
  have ends := triple s start
  rwa [throws] at ends

/-! ## What a program does to the state on every path -/

/-- Whether it returns or throws, the program moves the state along the relation. -/
def Always (moves : σ → σ → Prop) (x : Program σ ε α) : Prop := ∀ s, moves s (x.run s).2

variable {moves : σ → σ → Prop}

theorem Always.bind [IsTrans σ moves] {x : Program σ ε α} {f : α → Program σ ε β}
    (first : Always moves x) (rest : ∀ a, Always moves (f a)) : Always moves (x >>= f) := by
  intro s
  have middle := first s
  rw [run_bind]
  rcases h : x.run s with ⟨e | a, s'⟩
  all_goals rw [h] at middle
  · exact middle
  · exact trans_of moves middle (rest a s')

theorem Always.pure [Std.Refl moves] (a : α) : Always moves (pure a : Program σ ε α) :=
  fun s => refl_of moves s

theorem Always.throw [Std.Refl moves] (e : ε) : Always moves (throw e : Program σ ε α) :=
  fun s => refl_of moves s

theorem Always.read [Std.Refl moves] (f : σ → α) : Always moves (read f : Program σ ε α) :=
  fun s => refl_of moves s

theorem Always.ofExcept [Std.Refl moves] (x : Except ε α) :
    Always moves (ofExcept x : Program σ ε α) := fun s => refl_of moves s

theorem Always.act {step : σ → α × σ} (h : ∀ s, moves s (step s).2) :
    Always moves (act step : Program σ ε α) := h

theorem Always.change {f : σ → σ} (h : ∀ s, moves s (f s)) :
    Always moves (change f : Program σ ε Unit) := h

theorem Always.weaken {moves' : σ → σ → Prop} {x : Program σ ε α} (always : Always moves x)
    (wider : ∀ s s', moves s s' → moves' s s') : Always moves' x := fun s => wider s _ (always s)

/-- A property that every move keeps is a property of all ends. -/
theorem Always.triple {x : Program σ ε α} {kept : σ → Prop} (always : Always moves x)
    (keeps : ∀ s s', kept s → moves s s' → kept s') :
    Triple kept x (fun _ => kept) (fun _ => kept) := by
  intro s start
  have ends := keeps s _ start (always s)
  rcases h : x.run s with ⟨e | a, s'⟩
  all_goals rw [h] at ends
  · exact ends
  · exact ends

/-- The program always returns, and moves the state along the relation. -/
def Succeeds (moves : σ → σ → Prop) (x : Program σ ε α) : Prop :=
  ∀ s, ∃ a s', x.run s = (.ok a, s') ∧ moves s s'

theorem Succeeds.bind [IsTrans σ moves] {x : Program σ ε α} {f : α → Program σ ε β}
    (first : Succeeds moves x) (rest : ∀ a, Succeeds moves (f a)) : Succeeds moves (x >>= f) := by
  intro s
  obtain ⟨a, s', ran, moved⟩ := first s
  obtain ⟨b, s'', ran', moved'⟩ := rest a s'
  refine ⟨b, s'', ?_, trans_of moves moved moved'⟩
  rw [run_bind, ran]
  exact ran'

theorem Succeeds.pure [Std.Refl moves] (a : α) : Succeeds moves (pure a : Program σ ε α) :=
  fun s => ⟨a, s, rfl, refl_of moves s⟩

theorem Succeeds.act {step : σ → α × σ} (h : ∀ s, moves s (step s).2) :
    Succeeds moves (act step : Program σ ε α) := fun s => ⟨_, _, rfl, h s⟩

theorem Succeeds.change {f : σ → σ} (h : ∀ s, moves s (f s)) :
    Succeeds moves (change f : Program σ ε Unit) := fun s => ⟨(), _, rfl, h s⟩

theorem Succeeds.always {x : Program σ ε α} (succeeds : Succeeds moves x) : Always moves x := by
  intro s
  obtain ⟨a, s', ran, moved⟩ := succeeds s
  rwa [ran]

theorem Succeeds.triple {x : Program σ ε α} {kept : σ → Prop} (succeeds : Succeeds moves x)
    (keeps : ∀ s s', kept s → moves s s' → kept s') : Triple kept x (fun _ => kept) failed := by
  intro s start
  obtain ⟨a, s', ran, moved⟩ := succeeds s
  rw [ran]
  exact keeps s s' start moved

/-! ## Programs that end as a computation does -/

section Follows

variable {ε' α' β' : Type} {same : α → α' → Prop} {shown : ε' → ε} {s s' : σ}

/-- From `s` the program ends as the computation does, and either way in `s'`. -/
def Follows (s s' : σ) (same : α → α' → Prop) (shown : ε' → ε) (x : Program σ ε α)
    (r : Except ε' α') : Prop :=
  match r with
  | .ok b => ∃ a, x.run s = (.ok a, s') ∧ same a b
  | .error e => x.run s = (.error (shown e), s')

theorem Follows.pure {a : α} {b : α'} (h : same a b) :
    Follows s s same shown (pure a : Program σ ε α) (.ok b) := ⟨a, rfl, h⟩

theorem Follows.throw (e : ε') : Follows s s same shown (throw (shown e) : Program σ ε α) (.error e) := rfl

theorem Follows.of_run {x y : Program σ ε α} {r : Except ε' α'} {t : σ} (alike : x.run s = y.run t)
    (follows : Follows t s' same shown y r) : Follows s s' same shown x r := by
  unfold Follows
  rw [alike]
  exact follows

theorem Follows.bind {last : β → β' → Prop} {x : Program σ ε α} {r : Except ε' α'}
    {f : α → Program σ ε β} {g : α' → Except ε' β'} (first : Follows s s' same shown x r)
    (rest : ∀ a b, same a b → Follows s' s' last shown (f a) (g b)) :
    Follows s s' last shown (x >>= f) (r >>= g) := by
  cases r with
  | error e => exact run_bind_error first
  | ok b =>
      obtain ⟨a, returns, is⟩ := first
      exact .of_run (run_bind_ok returns) (rest a b is)

theorem Follows.map {last : β → α' → Prop} {x : Program σ ε α} {r : Except ε' α'} {f : α → β}
    (first : Follows s s' same shown x r) (keeps : ∀ a b, same a b → last (f a) b) :
    Follows s s' last shown (x >>= fun a => Pure.pure (f a)) r := by
  cases r with
  | error e => exact run_bind_error first
  | ok b =>
      obtain ⟨a, returns, is⟩ := first
      exact .of_run (run_bind_ok returns) (.pure (keeps a b is))

theorem Follows.ends {x : Program σ ε α} {r : Except ε' α'} (follows : Follows s s' same shown x r) :
    (x.run s).2 = s' := by
  cases r with
  | error e => exact congrArg Prod.snd follows
  | ok b =>
      obtain ⟨a, returns, -⟩ := follows
      exact congrArg Prod.snd returns

/-- What the program throws is what the computation fails with. -/
theorem Follows.thrown {x : Program σ ε α} {r : Except ε' α'} (follows : Follows s s' same shown x r)
    {e : ε} (throws : (x.run s).1 = .error e) : ∃ e', e = shown e' := by
  cases r with
  | error e' =>
      rw [show (x.run s).1 = .error (shown e') from congrArg Prod.fst follows] at throws
      exact ⟨e', (Except.error.inj throws).symm⟩
  | ok b =>
      obtain ⟨a, returns, -⟩ := follows
      rw [returns] at throws
      contradiction

end Follows

end Program

end LuaXENetwork.Library
