import Mathlib.Data.List.Nodup
import Mathlib.Logic.Function.Basic
import Mathlib.Tactic.ByContra

/-!
# References

A table that keeps values under keys of its own choice. A key that has been given back may be chosen
again, so whoever goes on using it reads the value of somebody else.
-/

namespace LuaXENetwork.Library

/-- What such a table promises. Giving back a key that is not out may do anything to the others. -/
structure References (V : Type) where
  State : Type
  empty : State
  get : State → Nat → Option V
  ref : State → V → Nat × State
  unref : State → Nat → State
  get_empty (key : Nat) : get empty key = none
  fresh (s : State) (value : V) : get s (ref s value).1 = none
  get_ref (s : State) (value : V) : get (ref s value).2 = Function.update (get s) (ref s value).1 (some value)
  get_unref {s : State} {key : Nat} {value : V} (out : get s key = some value) :
    get (unref s key) = Function.update (get s) key none

namespace References

variable {V ι : Type} {R : References V} {s : R.State} {keys : ι → Option Nat} {values : ι → Option V}

/-- The owners have keys of their own for their values, and no other key is out. -/
structure Held (R : References V) (s : R.State) (keys : ι → Option Nat) (values : ι → Option V) : Prop where
  reads : ∀ owner, (keys owner).map (R.get s) = (values owner).map some
  apart : ∀ {owner other key}, keys owner = some key → keys other = some key → owner = other
  covers : ∀ key, R.get s key ≠ none → ∃ owner, keys owner = some key

namespace Held

theorem empty (R : References V) (no_keys : ∀ owner, keys owner = none)
    (no_values : ∀ owner, values owner = none) : Held R R.empty keys values where
  reads owner := by rw [no_keys, no_values, Option.map_none, Option.map_none]
  apart {owner other key} has := by
    rw [no_keys] at has
    cases has
  covers key out := absurd (R.get_empty key) out

theorem get (held : Held R s keys values) {owner : ι} {key : Nat} (has : keys owner = some key) :
    R.get s key = values owner := by
  have reads := held.reads owner
  rw [has] at reads
  cases value : values owner with
  | none => simp [value] at reads
  | some value' => simpa [value] using reads

theorem out (held : Held R s keys values) {owner : ι} {key : Nat} (has : keys owner = some key) :
    ∃ value, R.get s key = some value := by
  have reads := held.reads owner
  rw [has] at reads
  cases value : values owner with
  | none => simp [value] at reads
  | some value' => exact ⟨value', by simpa [value] using reads⟩

theorem none_iff (held : Held R s keys values) (owner : ι) : keys owner = none ↔ values owner = none := by
  have reads := held.reads owner
  rw [← Option.map_eq_none_iff (f := R.get s), reads, Option.map_eq_none_iff]

variable [DecidableEq ι]

theorem ref (held : Held R s keys values) {owner : ι} (free : keys owner = none) (value : V) :
    Held R (R.ref s value).2 (Function.update keys owner (some (R.ref s value).1))
      (Function.update values owner (some value)) := by
  have fresh := R.fresh s value
  have new := R.get_ref s value
  generalize (R.ref s value).1 = key at fresh new
  have unused : ∀ other, keys other ≠ some key := by
    intro other has
    obtain ⟨value', out⟩ := held.out has
    rw [fresh] at out
    cases out
  constructor
  · intro other
    by_cases same : other = owner
    · subst same
      simp [new]
    · rw [Function.update_of_ne same, Function.update_of_ne same, ← held.reads other, new]
      cases has : keys other with
      | none => rfl
      | some key' =>
          have differ : key' ≠ key := fun equal => unused other (equal ▸ has)
          rw [Option.map_some, Option.map_some, Function.update_of_ne differ]
  · intro one other key' has has'
    by_cases first : one = owner
    · by_cases second : other = owner
      · rw [first, second]
      · rw [first, Function.update_self] at has
        rw [Function.update_of_ne second, ← has] at has'
        exact absurd has' (unused other)
    · rw [Function.update_of_ne first] at has
      by_cases second : other = owner
      · rw [second, Function.update_self] at has'
        rw [← has'] at has
        exact absurd has (unused one)
      · rw [Function.update_of_ne second] at has'
        exact held.apart has has'
  · intro key' out
    by_cases same : key' = key
    · exact ⟨owner, by rw [same, Function.update_self]⟩
    · rw [new, Function.update_of_ne same] at out
      obtain ⟨other, has⟩ := held.covers key' out
      have differ : other ≠ owner := by
        rintro rfl
        rw [free] at has
        cases has
      exact ⟨other, by rw [Function.update_of_ne differ, has]⟩

theorem unref (held : Held R s keys values) {owner : ι} {key : Nat} (has : keys owner = some key) :
    Held R (R.unref s key) (Function.update keys owner none) (Function.update values owner none) := by
  obtain ⟨value, out⟩ := held.out has
  have left := R.get_unref out
  constructor
  · intro other
    by_cases same : other = owner
    · subst same
      simp
    · rw [Function.update_of_ne same, Function.update_of_ne same, ← held.reads other, left]
      cases has' : keys other with
      | none => rfl
      | some key' =>
          have differ : key' ≠ key := by
            rintro rfl
            exact same (held.apart has' has)
          rw [Option.map_some, Option.map_some, Function.update_of_ne differ]
  · intro one other key' has has'
    by_cases first : one = owner
    · rw [first, Function.update_self] at has
      cases has
    by_cases second : other = owner
    · rw [second, Function.update_self] at has'
      cases has'
    rw [Function.update_of_ne first] at has
    rw [Function.update_of_ne second] at has'
    exact held.apart has has'
  · intro key' out'
    have differ : key' ≠ key := by
      rintro rfl
      rw [left, Function.update_self] at out'
      exact out' rfl
    rw [left, Function.update_of_ne differ] at out'
    obtain ⟨other, has'⟩ := held.covers key' out'
    have apart : other ≠ owner := by
      rintro rfl
      exact differ (Option.some.inj (has'.symm.trans has))
    exact ⟨other, by rw [Function.update_of_ne apart, has']⟩

/-- Giving back the key of an owner, if it has one. -/
theorem clear (held : Held R s keys values) (owner : ι) :
    Held R ((keys owner).elim s (R.unref s)) (Function.update keys owner none)
      (Function.update values owner none) := by
  cases has : keys owner with
  | none =>
      have nothing := (held.none_iff owner).mp has
      rwa [Function.update_eq_self_iff.mpr has.symm, Function.update_eq_self_iff.mpr nothing.symm]
  | some key => exact held.unref has

end Held

end References

/-! ## Free slots as a list through the slots themselves -/

inductive Slot (V : Type) where
  | taken (value : V)
  | free (next : Nat)

def Slot.value? {V : Type} : Slot V → Option V
  | .taken value => some value
  | .free _ => none

/-- Slot `n` has key `n + 1`; key 0 ends the list of the free ones. -/
structure FreeList (V : Type) where
  slots : List (Slot V) := []
  first : Nat := 0

namespace FreeList

variable {V : Type}

def get (l : FreeList V) : Nat → Option V
  | 0 => none
  | key + 1 => l.slots[key]?.bind Slot.value?

def ref (l : FreeList V) (value : V) : Nat × FreeList V :=
  match l.first with
  | 0 => (l.slots.length + 1, { l with slots := l.slots ++ [.taken value] })
  | key + 1 =>
      match l.slots[key]? with
      | some (.free next) => (key + 1, ⟨l.slots.set key (.taken value), next⟩)
      | _ => (key + 1, ⟨l.slots.set key (.taken value), 0⟩)

def unref (l : FreeList V) : Nat → FreeList V
  | 0 => l
  | key + 1 => ⟨l.slots.set key (.free l.first), key + 1⟩

/-- From this key on, the list runs through these free slots to its end. -/
inductive Linked (slots : List (Slot V)) : Nat → List Nat → Prop
  | done : Linked slots 0 []
  | link {key next : Nat} {rest : List Nat} (free : slots[key]? = some (.free next))
      (linked : Linked slots next rest) : Linked slots (key + 1) (key :: rest)

/-- No free slot comes twice. -/
def Sound (l : FreeList V) : Prop := ∃ free, Linked l.slots l.first free ∧ free.Nodup

theorem Linked.set {slots : List (Slot V)} {first : Nat} {free : List Nat} (linked : Linked slots first free)
    {key : Nat} (slot : Slot V) (off : key ∉ free) : Linked (slots.set key slot) first free := by
  induction linked with
  | done => exact .done
  | link free linked ih =>
      rw [List.mem_cons, not_or] at off
      refine .link ?_ (ih off.2)
      rw [List.getElem?_set_ne off.1]
      exact free

theorem Linked.append {slots : List (Slot V)} {first : Nat} {free : List Nat} (linked : Linked slots first free)
    (slot : Slot V) : Linked (slots ++ [slot]) first free := by
  induction linked with
  | done => exact .done
  | link free linked ih =>
      refine .link ?_ ih
      rw [List.getElem?_append_left (List.getElem?_eq_some_iff.mp free).1]
      exact free

theorem Linked.free_of_mem {slots : List (Slot V)} {first : Nat} {free : List Nat}
    (linked : Linked slots first free) {key : Nat} (member : key ∈ free) : ∃ next, slots[key]? = some (.free next) := by
  induction linked with
  | done => cases member
  | @link key' next rest free linked ih =>
      rcases List.mem_cons.mp member with rfl | member
      · exact ⟨next, free⟩
      · exact ih member

theorem get_set (l : FreeList V) {key : Nat} (within : key < l.slots.length) (slot : Slot V) (first : Nat) :
    get ⟨l.slots.set key slot, first⟩ = Function.update l.get (key + 1)
      slot.value? := by
  funext other
  cases other with
  | zero => rfl
  | succ other =>
      by_cases same : other = key
      · subst same
        rw [Function.update_self, get, List.getElem?_set_self within]
        rfl
      · rw [Function.update_of_ne (by omega), get, List.getElem?_set_ne (Ne.symm same)]
        rfl

theorem get_append (l : FreeList V) (value : V) (first : Nat) :
    get ⟨l.slots ++ [.taken value], first⟩ = Function.update l.get (l.slots.length + 1) (some value) := by
  funext other
  cases other with
  | zero => rfl
  | succ other =>
      rcases Nat.lt_trichotomy other l.slots.length with below | rfl | above
      · rw [Function.update_of_ne (by omega), get, List.getElem?_append_left below]
        rfl
      · simp [get, Slot.value?]
      · rw [Function.update_of_ne (by omega), get, get, List.getElem?_eq_none (by simp; omega),
          List.getElem?_eq_none (by omega)]

/-- What a sound list does for a new value. -/
theorem Sound.ref_cases {l : FreeList V} (sound : l.Sound) (value : V) :
    l.ref value = (l.slots.length + 1, { l with slots := l.slots ++ [.taken value] }) ∨
      ∃ key next, l.slots[key]? = some (.free next) ∧
        l.ref value = (key + 1, ⟨l.slots.set key (.taken value), next⟩) := by
  obtain ⟨free, linked, -⟩ := sound
  obtain ⟨slots, first⟩ := l
  cases linked with
  | done => exact .inl rfl
  | @link key next rest free linked =>
      refine .inr ⟨key, next, free, ?_⟩
      simp only at free
      simp only [ref, free]

theorem Sound.ref {l : FreeList V} (sound : l.Sound) (value : V) : (l.ref value).2.Sound := by
  obtain ⟨free, linked, distinct⟩ := sound
  obtain ⟨slots, first⟩ := l
  cases linked with
  | done => exact ⟨[], .done, distinct⟩
  | @link key next rest free linked =>
      simp only at free linked
      rw [List.nodup_cons] at distinct
      refine ⟨rest, ?_, distinct.2⟩
      simp only [FreeList.ref, free]
      exact linked.set _ distinct.1

theorem Sound.unref {l : FreeList V} (sound : l.Sound) {key : Nat} (out : l.get key ≠ none) :
    (l.unref key).Sound := by
  obtain ⟨free, linked, distinct⟩ := sound
  cases key with
  | zero => exact absurd rfl out
  | succ key =>
      have off : key ∉ free := by
        intro member
        obtain ⟨next, is⟩ := linked.free_of_mem member
        rw [get, is] at out
        exact out rfl
      have within : key < l.slots.length := by
        by_contra outside
        rw [get, List.getElem?_eq_none (by omega)] at out
        exact out rfl
      refine ⟨key :: free, .link ?_ (linked.set _ off), List.nodup_cons.mpr ⟨off, distinct⟩⟩
      exact List.getElem?_set_self within

theorem length_of_get {l : FreeList V} {key : Nat} {value : V} (out : l.get (key + 1) = some value) :
    key < l.slots.length := by
  by_contra outside
  rw [get, List.getElem?_eq_none (by omega)] at out
  cases out

/-- Such lists are what a table of references is to be. -/
def references (V : Type) : References V where
  State := { l : FreeList V // l.Sound }
  empty := ⟨{}, [], .done, List.nodup_nil⟩
  get l := l.val.get
  ref l value := ((l.val.ref value).1, ⟨(l.val.ref value).2, l.property.ref value⟩)
  unref l key := if out : l.val.get key ≠ none then ⟨l.val.unref key, l.property.unref out⟩ else l
  get_empty key := by cases key <;> rfl
  fresh l value := by
    change l.val.get (l.val.ref value).1 = none
    rcases l.property.ref_cases value with new | ⟨key, next, free, reused⟩
    · rw [new, get, List.getElem?_eq_none (Nat.le_refl _)]
      rfl
    · rw [reused, get, free]
      rfl
  get_ref l value := by
    rcases l.property.ref_cases value with new | ⟨key, next, free, reused⟩
    · simp only [new]
      exact get_append l.val value _
    · simp only [reused]
      exact get_set l.val (List.getElem?_eq_some_iff.mp free).1 _ _
  get_unref {l key value} out := by
    simp only [dif_pos (show l.val.get key ≠ none by rw [out]; simp)]
    cases key with
    | zero => cases out
    | succ key => exact get_set l.val (length_of_get out) _ _

end FreeList

end LuaXENetwork.Library
