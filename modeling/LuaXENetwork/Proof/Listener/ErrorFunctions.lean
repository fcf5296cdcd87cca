import LuaXENetwork.Listener.ErrorFunctions

/-! The registry keeps the error functions apart, and nothing else. -/

namespace LuaXENetwork
open Library

variable {R : References LuaValue}

theorem luaRef_held {ι : Type} [DecidableEq ι] {registry : R.State} {keys : ι → Option Nat}
    {values : ι → Option LuaValue} (held : R.Held registry keys values) {owner : ι} (free : keys owner = none)
    (value : LuaValue) :
    R.Held (luaRef registry value).2 (Function.update keys owner (luaRef registry value).1)
      (Function.update values owner (if value.isNil then none else some value)) := by
  unfold luaRef
  by_cases none_given : value.isNil = true
  · have cleared := held.clear owner
    rw [free] at cleared
    rw [if_pos none_given, if_pos none_given]
    exact cleared
  · rw [if_neg none_given, if_neg none_given]
    exact held.ref free value

/-- Whatever the connection had before, its slot holds what this call has given. -/
theorem luaError_held {ι : Type} [DecidableEq ι] {registry : R.State} {keys : ι → Option Nat}
    {values : ι → Option LuaValue} (held : R.Held registry keys values) {owner : ι} {fields : ErrorFields}
    (has : keys owner = fields.onError) (thread : Nat) (stack : List LuaValue) :
    R.Held (luaError registry thread stack fields).2
      (Function.update keys owner (luaError registry thread stack fields).1.onError)
      (Function.update values owner ((givenBy thread stack).map Given.function)) := by
  have cleared := held.clear owner
  rw [has] at cleared
  unfold luaError givenBy
  by_cases withdrawn : (argument stack 2).isNil = true
  · rw [if_pos withdrawn, if_pos (.inl withdrawn)]
    exact cleared
  · have kept := luaRef_held cleared (Function.update_self owner none keys) (argument stack stack.length)
    rw [Function.update_idem, Function.update_idem] at kept
    rw [if_neg withdrawn]
    by_cases none_given : (argument stack stack.length).isNil = true
    · rw [if_pos none_given] at kept
      rw [if_pos (.inr none_given)]
      exact kept
    · rw [if_neg none_given] at kept
      rw [if_neg (by tauto)]
      exact kept

theorem luaError_thread {registry : R.State} {thread : Nat} {stack : List LuaValue} {fields : ErrorFields}
    {given : Given} (gives : givenBy thread stack = some given) :
    (luaError registry thread stack fields).1.onErrState = some given.thread := by
  unfold givenBy at gives
  split_ifs at gives with nothing
  rw [not_or] at nothing
  obtain rfl := Option.some.inj gives
  rw [luaError, if_neg nothing.1]

/-- Connections on the left, the names of other code on the right. -/
def ErrorFunctions.keys (t : ErrorFunctions R) : Nat ⊕ Nat → Option Nat :=
  Sum.elim ((·.bind ErrorFields.onError) ∘ t.contexts) t.others

def GivenFunctions.values (g : GivenFunctions) : Nat ⊕ Nat → Option LuaValue :=
  Sum.elim ((·.bind fun given => given.map Given.function) ∘ g.contexts) g.others

/-- A connection as the registry has it, and as it is meant. -/
inductive SameContext : Option ErrorFields → Option (Option Given) → Prop
  | collected : SameContext none none
  | without (fields : ErrorFields) : SameContext (some fields) (some none)
  | given (fields : ErrorFields) (given : Given) (thread : fields.onErrState = some given.thread) :
      SameContext (some fields) (some (some given))

structure Refines (t : ErrorFunctions R) (g : GivenFunctions) : Prop where
  held : R.Held t.registry t.keys g.values
  contexts : ∀ context, SameContext (t.contexts context) (g.contexts context)
  unused : ∀ context, t.next ≤ context → t.contexts context = none
  swept : t.swept = g.swept
  next : t.next = g.next
  log : t.log = g.log
  dangling : t.dangling = g.dangling

theorem elim_update_inl {α β : Type} (f : α → Option β) (contexts : Nat → Option α) (others : Nat → Option β)
    (context : Nat) (new : Option α) :
    Sum.elim ((·.bind f) ∘ Function.update contexts context new) others =
      Function.update (Sum.elim ((·.bind f) ∘ contexts) others) (.inl context) (new.bind f) := by
  rw [Sum.update_elim_inl, Function.comp_update]

theorem elim_update_inr {α β : Type} (f : α → Option β) (contexts : Nat → Option α) (others : Nat → Option β)
    (name : Nat) (new : Option β) :
    Sum.elim ((·.bind f) ∘ contexts) (Function.update others name new) =
      Function.update (Sum.elim ((·.bind f) ∘ contexts) others) (.inr name) new := by
  rw [Sum.update_elim_inr]

namespace Refines

variable {t : ErrorFunctions R} {g : GivenFunctions}

theorem start : Refines ({} : ErrorFunctions R) {} where
  held := .empty R (fun owner => by cases owner <;> rfl) (fun owner => by cases owner <;> rfl)
  contexts _ := .collected
  unused _ _ := rfl
  swept := rfl
  next := rfl
  log := rfl
  dangling := rfl

/-- A step for one connection that is there. -/
theorem context (refines : Refines t g) {context : Nat} (there : t.contexts context ≠ none) {registry : R.State}
    {fields : Option ErrorFields} {given : Option (Option Given)}
    (held : R.Held registry (Function.update t.keys (.inl context) (fields.bind ErrorFields.onError))
      (Function.update g.values (.inl context) (given.bind fun given => given.map Given.function)))
    (same : SameContext fields given) :
    Refines { t with registry := registry, contexts := Function.update t.contexts context fields }
      { g with contexts := Function.update g.contexts context given } where
  held := by
    rw [ErrorFunctions.keys, GivenFunctions.values, elim_update_inl, elim_update_inl]
    exact held
  contexts other := by
    change SameContext (Function.update t.contexts context fields other)
      (Function.update g.contexts context given other)
    by_cases here : other = context
    · subst here
      rw [Function.update_self, Function.update_self]
      exact same
    · rw [Function.update_of_ne here, Function.update_of_ne here]
      exact refines.contexts other
  unused other later := by
    have differ : other ≠ context := by
      rintro rfl
      exact there (refines.unused other later)
    change Function.update t.contexts context fields other = none
    rw [Function.update_of_ne differ]
    exact refines.unused other later
  swept := refines.swept
  next := refines.next
  log := refines.log
  dangling := refines.dangling

/-- A step for a name of other code. -/
theorem other (refines : Refines t g) {name : Nat} {registry : R.State} {key : Option Nat}
    {value : Option LuaValue} (held : R.Held registry (Function.update t.keys (.inr name) key)
      (Function.update g.values (.inr name) value)) :
    Refines { t with registry := registry, others := Function.update t.others name key }
      { g with others := Function.update g.others name value } where
  held := by
    rw [ErrorFunctions.keys, GivenFunctions.values, elim_update_inr, elim_update_inr]
    exact held
  contexts := refines.contexts
  unused := refines.unused
  swept := refines.swept
  next := refines.next
  log := refines.log
  dangling := refines.dangling

theorem logged (refines : Refines t g) {event event' : ErrorEvent} (same : event = event') :
    Refines { t with log := t.log ++ [event] } { g with log := g.log ++ [event'] } :=
  { refines with log := by rw [refines.log, same] }

@[simp] theorem keys_inl (t : ErrorFunctions R) (context : Nat) :
    t.keys (.inl context) = (t.contexts context).bind ErrorFields.onError := rfl

@[simp] theorem values_inl (g : GivenFunctions) (context : Nat) :
    g.values (.inl context) = (g.contexts context).bind fun given => given.map Given.function := rfl

theorem accept (refines : Refines t g) : Refines t.accept
    { g with contexts := Function.update g.contexts g.next (some none), next := g.next + 1 } where
  held := by
    have cleared := refines.held.clear (.inl t.next)
    rw [keys_inl, refines.unused t.next le_rfl] at cleared
    rw [ErrorFunctions.keys, GivenFunctions.values, ErrorFunctions.accept, elim_update_inl, elim_update_inl,
      ← refines.next]
    exact cleared
  contexts other := by
    change SameContext (Function.update t.contexts t.next (some {}) other)
      (Function.update g.contexts g.next (some none) other)
    rw [← refines.next]
    by_cases here : other = t.next
    · subst here
      rw [Function.update_self, Function.update_self]
      exact .without {}
    · rw [Function.update_of_ne here, Function.update_of_ne here]
      exact refines.contexts other
  unused other later := by
    change t.next + 1 ≤ other at later
    change Function.update t.contexts t.next (some {}) other = none
    rw [Function.update_of_ne (by omega)]
    exact refines.unused other (by omega)
  swept := refines.swept
  next := by
    change t.next + 1 = g.next + 1
    rw [refines.next]
  log := refines.log
  dangling := refines.dangling

/-- A connection has a slot of the registry exactly while it has a function. -/
theorem context_cases (refines : Refines t g) (context : Nat) :
    (t.contexts context = none ∧ g.contexts context = none) ∨
      (∃ fields, t.contexts context = some fields ∧ g.contexts context = some none ∧ fields.onError = none) ∨
      ∃ fields given key, t.contexts context = some fields ∧ g.contexts context = some (some given) ∧
        fields.onError = some key ∧ fields.onErrState = some given.thread ∧
        R.get t.registry key = some given.function := by
  have same := refines.contexts context
  have none_iff := refines.held.none_iff (.inl context)
  have reads : ∀ key, t.keys (.inl context) = some key → R.get t.registry key = g.values (.inl context) :=
    fun key => refines.held.get
  rw [keys_inl, values_inl] at none_iff reads
  generalize t.contexts context = fields at *
  generalize g.contexts context = given at *
  cases same with
  | collected => exact .inl ⟨rfl, rfl⟩
  | without fields => exact .inr (.inl ⟨fields, rfl, rfl, none_iff.mpr rfl⟩)
  | given fields given thread =>
      cases has : fields.onError with
      | none => cases none_iff.mp has
      | some key => exact .inr (.inr ⟨fields, given, key, rfl, rfl, has, thread, reads key has⟩)

theorem other_cases (refines : Refines t g) (name : Nat) :
    (t.others name = none ∧ g.others name = none) ∨
      ∃ key value, t.others name = some key ∧ g.others name = some value ∧ R.get t.registry key = some value := by
  have none_iff : t.others name = none ↔ g.others name = none := refines.held.none_iff (.inr name)
  cases taken : t.others name with
  | none => exact .inl ⟨rfl, none_iff.mp taken⟩
  | some key =>
      have slot : t.keys (.inr name) = some key := taken
      have reads : R.get t.registry key = g.others name := refines.held.get slot
      cases has : g.others name with
      | none =>
          rw [none_iff.mpr has] at taken
          cases taken
      | some value => exact .inr ⟨key, value, rfl, rfl, reads.trans has⟩

theorem error (refines : Refines t g) {context : Nat} {fields : ErrorFields} (thread : Nat) (stack : List LuaValue)
    (there : t.contexts context = some fields) :
    Refines (t.error context thread stack fields)
      { g with contexts := Function.update g.contexts context (some (givenBy thread stack)) } := by
  have slot : t.keys (.inl context) = fields.onError := by rw [keys_inl, there, Option.bind_some]
  have held := luaError_held refines.held slot thread stack
  refine refines.context (by simp [there]) held ?_
  cases gives : givenBy thread stack with
  | none => exact .without _
  | some given => exact .given _ given (luaError_thread gives)

theorem collect (refines : Refines t g) (context : Nat) :
    Refines ((t.contexts context).elim t (t.collect context))
      ((g.contexts context).elim g (g.collect context)) := by
  have cleared := refines.held.clear (.inl context)
  rw [keys_inl] at cleared
  rcases refines.context_cases context with
    ⟨missing, meant⟩ | ⟨fields, there, meant, nothing⟩ | ⟨fields, given, key, there, meant, has, thread, -⟩
  · rw [missing, meant]
    exact refines
  · rw [there, Option.bind_some, nothing] at cleared
    rw [there, meant, Option.elim_some, Option.elim_some, ErrorFunctions.collect, nothing, GivenFunctions.collect]
    exact refines.context (by simp [there]) cleared .collected
  · rw [there, Option.bind_some, has] at cleared
    have usable : fields.onErrState.any (· ∉ t.swept) = decide (given.thread ∉ g.swept) := by
      rw [thread, refines.swept]
      rfl
    rw [there, meant, Option.elim_some, Option.elim_some, ErrorFunctions.collect, has, GivenFunctions.collect]
    simp only [usable, Option.all_some]
    by_cases gone : given.thread ∈ g.swept
    · simp only [gone, not_true_eq_false, decide_false, Bool.false_eq_true, if_false]
      exact { refines with dangling := rfl }
    · simp only [gone, not_false_eq_true, decide_true, if_true]
      exact refines.context (by simp [there]) cleared .collected

theorem keep (refines : Refines t g) {name : Nat} (free : t.others name = none) (value : LuaValue) :
    Refines (t.keep name value)
      { g with others := Function.update g.others name (if value.isNil then none else some value) } := by
  have slot : t.keys (.inr name) = none := free
  exact refines.other (luaRef_held refines.held slot value)

/-- One step of the registry is one step without it. -/
theorem step (refines : Refines t g) (action : ErrorAction) : Refines (t.step action) (g.step action) := by
  unfold ErrorFunctions.step GivenFunctions.step
  by_cases ended : g.dangling = true
  · rw [if_pos (refines.dangling.trans ended), if_pos ended]
    exact refines
  rw [if_neg fun used => ended (refines.dangling.symm.trans used), if_neg ended]
  cases action with
  | accept => exact refines.accept
  | error context thread stack =>
      simp only [refines.swept]
      by_cases gone : thread ∈ g.swept
      · rw [if_pos gone, if_pos (.inl gone)]
        exact refines
      rw [if_neg gone]
      rcases refines.context_cases context with
        ⟨missing, meant⟩ | ⟨fields, there, meant, -⟩ | ⟨fields, given, key, there, meant, -⟩
      · rw [missing, if_pos (.inr meant)]
        exact refines
      all_goals
        rw [there, if_neg (not_or.mpr ⟨gone, by simp [meant]⟩)]
        exact refines.error thread stack there
  | raise context =>
      rcases refines.context_cases context with
        ⟨missing, meant⟩ | ⟨fields, there, meant, nothing⟩ | ⟨fields, given, key, there, meant, has, -, reads⟩
      · simp only [missing, meant]
        exact refines
      · simp only [there, meant]
        exact refines.logged (by rw [nothing, Option.map_none, Option.map_none])
      · simp only [there, meant]
        refine refines.logged ?_
        rw [has, Option.map_some, Option.map_some, ErrorFunctions.get, reads, Option.getD_some]
  | collect context => exact refines.collect context
  | sweep thread =>
      by_cases main : thread = 0
      · simp only [main, if_true]
        exact refines
      · simp only [main, if_false]
        exact { refines with swept := by rw [refines.swept] }
  | keep name value =>
      rcases refines.other_cases name with ⟨free, unkept⟩ | ⟨key, kept, taken, has, -⟩
      · simp only [free, unkept, Option.isSome_none, Bool.false_eq_true, if_false, false_or]
        have keeps := refines.keep free value
        by_cases nothing : value.isNil = true
        · rw [if_pos nothing] at keeps ⊢
          rwa [Function.update_eq_self_iff.mpr unkept.symm] at keeps
        · rw [if_neg nothing] at keeps ⊢
          exact keeps
      · simp only [taken, has, Option.isSome_some, if_true, true_or]
        exact refines
  | read name =>
      rcases refines.other_cases name with ⟨free, unkept⟩ | ⟨key, kept, taken, has, reads⟩
      · simp only [free, unkept]
        exact refines
      · simp only [taken, has]
        exact refines.logged (by rw [ErrorFunctions.get, reads, Option.getD_some])
  | release name =>
      have cleared := refines.held.clear (.inr name)
      rcases refines.other_cases name with ⟨free, unkept⟩ | ⟨key, kept, taken, -, -⟩
      · have same : Function.update g.others name none = g.others := Function.update_eq_self_iff.mpr unkept.symm
        simp only [free, same]
        exact refines
      · have slot : t.keys (.inr name) = some key := taken
        rw [slot] at cleared
        simp only [taken]
        exact refines.other cleared

theorem run (R : References LuaValue) (actions : List ErrorAction) :
    Refines (ErrorFunctions.run R actions) (GivenFunctions.run actions) :=
  List.foldl_rel start fun action _ _ _ refines => refines.step action

end Refines

/-! ## Threads -/

namespace GivenFunctions

/-- Every function that is kept has been given on the main thread. -/
structure OnMain (g : GivenFunctions) : Prop where
  given : ∀ context given, g.contexts context = some (some given) → given.thread = 0
  main : 0 ∉ g.swept
  sound : g.dangling = false

theorem OnMain.update {g : GivenFunctions} (on_main : OnMain g) (context : Nat) {new : Option (Option Given)}
    (given : ∀ given, new = some (some given) → given.thread = 0) :
    ∀ other given, Function.update g.contexts context new other = some (some given) → given.thread = 0 := by
  intro other given' has
  by_cases here : other = context
  · rw [here, Function.update_self] at has
    exact given given' has
  · rw [Function.update_of_ne here] at has
    exact on_main.given other given' has

theorem OnMain.step {g : GivenFunctions} (on_main : OnMain g) {action : ErrorAction}
    (main : ∀ context thread stack, action = .error context thread stack → thread = 0) :
    OnMain (g.step action) := by
  unfold GivenFunctions.step
  rw [if_neg (by rw [on_main.sound]; exact Bool.false_ne_true)]
  cases action with
  | accept => exact { on_main with given := on_main.update g.next (fun given same => by cases same) }
  | error context thread stack =>
      obtain rfl := main context thread stack rfl
      dsimp only
      by_cases out : 0 ∈ g.swept ∨ g.contexts context = none
      · rw [if_pos out]
        exact on_main
      · rw [if_neg out]
        refine { on_main with given := on_main.update context fun given same => ?_ }
        have gives : givenBy 0 stack = some given := Option.some.inj same
        unfold givenBy at gives
        split_ifs at gives
        obtain rfl := Option.some.inj gives
        rfl
  | raise context =>
      dsimp only
      cases g.contexts context with
      | none => exact on_main
      | some given => exact { on_main with }
  | collect context =>
      dsimp only
      cases there : g.contexts context with
      | none => exact on_main
      | some given =>
          have usable : given.all (·.thread ∉ g.swept) = true := by
            cases given with
            | none => rfl
            | some given =>
                rw [Option.all_some, on_main.given context given there]
                exact decide_eq_true on_main.main
          change OnMain (g.collect context given)
          rw [GivenFunctions.collect, if_pos usable]
          exact { on_main with given := on_main.update context (fun given same => by cases same) }
  | sweep thread =>
      dsimp only
      by_cases is_main : thread = 0
      · rw [if_pos is_main]
        exact on_main
      · rw [if_neg is_main]
        refine { on_main with main := ?_ }
        rw [List.mem_cons, not_or]
        exact ⟨Ne.symm is_main, on_main.main⟩
  | keep name value =>
      dsimp only
      split_ifs
      · exact on_main
      · exact { on_main with }
  | read name =>
      dsimp only
      cases g.others name with
      | none => exact on_main
      | some value => exact { on_main with }
  | release name => exact { on_main with }

end GivenFunctions

/-- A connection that outlives the coroutine of its last `context:error`. -/
example : (ErrorFunctions.run (FreeList.references LuaValue)
    [.accept, .error 0 1 [.userdata 0, .function 5], .sweep 1, .collect 0]).dangling = true := rfl

end LuaXENetwork
