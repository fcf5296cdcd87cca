import Mathlib.Data.List.Induction
import Mathlib.Data.List.Nodup

/-!
# Association lists

Tables as lists of entries in the order their keys were first stored, and tables that collect the
values of each key one after another.
-/

namespace LuaXENetwork.Library.Assoc

variable {κ ν ω : Type*} [DecidableEq κ]

/-- Stores a value under a key, in the place of an older one. -/
def store (key : κ) (value : ν) : List (κ × ν) → List (κ × ν)
  | [] => [(key, value)]
  | entry :: table => if entry.1 = key then (key, value) :: table else entry :: store key value table

theorem lookup_entry (entry : κ × ν) (table : List (κ × ν)) (key : κ) :
    (entry :: table).lookup key = if key = entry.1 then some entry.2 else table.lookup key := by
  rw [List.lookup_cons]
  by_cases same : key = entry.1
  · rw [if_pos same, beq_iff_eq.mpr same]
  · rw [if_neg same, beq_eq_false_iff_ne.mpr same]

@[simp] theorem lookup_store_self (key : κ) (value : ν) (table : List (κ × ν)) :
    (store key value table).lookup key = some value := by
  induction table with
  | nil => simp [store]
  | cons entry table ih =>
      by_cases here : entry.1 = key
      · simp [store, here]
      · rw [store, if_neg here, lookup_entry, if_neg (Ne.symm here), ih]

theorem lookup_store_of_ne {key other : κ} (differ : other ≠ key) (value : ν) (table : List (κ × ν)) :
    (store key value table).lookup other = table.lookup other := by
  induction table with
  | nil => rw [store, lookup_entry, if_neg differ]
  | cons entry table ih =>
      by_cases here : entry.1 = key
      · rw [store, if_pos here, lookup_entry, lookup_entry, here, if_neg differ, if_neg differ]
      · rw [store, if_neg here, lookup_entry, lookup_entry, ih]

theorem store_fresh {key : κ} (value : ν) {table : List (κ × ν)} (fresh : key ∉ table.map Prod.fst) :
    store key value table = table ++ [(key, value)] := by
  induction table with
  | nil => rfl
  | cons entry table ih =>
      rw [List.map_cons, List.mem_cons, not_or] at fresh
      rw [store, if_neg (Ne.symm fresh.1), ih fresh.2, List.cons_append]

theorem keys_store (key : κ) (value : ν) (table : List (κ × ν)) :
    (store key value table).map Prod.fst =
      if key ∈ table.map Prod.fst then table.map Prod.fst else table.map Prod.fst ++ [key] := by
  induction table with
  | nil => simp [store]
  | cons entry table ih =>
      by_cases here : entry.1 = key
      · simp [store, here]
      · simp only [store, here, if_false, List.map_cons, List.mem_cons, Ne.symm here, false_or, ih]
        split <;> rfl

theorem mem_keys_store {key other : κ} {value : ν} {table : List (κ × ν)} :
    other ∈ (store key value table).map Prod.fst ↔ other = key ∨ other ∈ table.map Prod.fst := by
  rw [keys_store]
  split
  · constructor
    · exact .inr
    · rintro (rfl | member) <;> assumption
  · rw [List.mem_append, List.mem_singleton, or_comm]

theorem nodup_store {key : κ} {value : ν} {table : List (κ × ν)} (distinct : (table.map Prod.fst).Nodup) :
    ((store key value table).map Prod.fst).Nodup := by
  rw [keys_store]
  split
  · exact distinct
  · rename_i fresh
    refine List.nodup_append.mpr ⟨distinct, List.nodup_singleton key, ?_⟩
    intro other member last here same
    rw [List.mem_singleton.mp here] at same
    exact fresh (same ▸ member)

/-- Every item is combined with what the table holds under its key so far. -/
def group (combine : Option ν → ω → ν) (items : List (κ × ω)) : List (κ × ν) :=
  items.foldl (fun table item => store item.1 (combine (table.lookup item.1) item.2) table) []

/-- The items of a key, in order. -/
def values (items : List (κ × ω)) (key : κ) : List ω := (items.filter (·.1 = key)).map Prod.snd

theorem group_append (combine : Option ν → ω → ν) (items : List (κ × ω)) (item : κ × ω) :
    group combine (items ++ [item]) =
      store item.1 (combine ((group combine items).lookup item.1) item.2) (group combine items) := by
  rw [group, List.foldl_append]
  rfl

@[simp] theorem values_append (items : List (κ × ω)) (item : κ × ω) (key : κ) :
    values (items ++ [item]) key =
      values items key ++ if item.1 = key then [item.2] else [] := by
  simp only [values, List.filter_append, List.map_append, List.filter_cons, List.filter_nil]
  split <;> simp_all

/-- Under each key stands the fold over the items of that key. -/
theorem lookup_group (combine : Option ν → ω → ν) (items : List (κ × ω)) (key : κ) :
    (group combine items).lookup key =
      (values items key).foldl (fun prior value => some (combine prior value)) none := by
  induction items using List.reverseRecOn with
  | nil => rfl
  | append_singleton items item ih =>
      rw [group_append, values_append]
      by_cases here : item.1 = key
      · rw [here, lookup_store_self, if_pos rfl, List.foldl_append, ih]
        rfl
      · rw [lookup_store_of_ne (Ne.symm here), if_neg here, List.append_nil, ih]

theorem mem_keys_group (combine : Option ν → ω → ν) (items : List (κ × ω)) (key : κ) :
    key ∈ (group combine items).map Prod.fst ↔ key ∈ items.map Prod.fst := by
  induction items using List.reverseRecOn with
  | nil => rfl
  | append_singleton items item ih =>
      rw [group_append, mem_keys_store, ih, List.map_append, List.mem_append, List.map_singleton,
        List.mem_singleton, or_comm]

theorem nodup_group (combine : Option ν → ω → ν) (items : List (κ × ω)) :
    ((group combine items).map Prod.fst).Nodup := by
  induction items using List.reverseRecOn with
  | nil => exact List.nodup_nil
  | append_singleton items item ih =>
      rw [group_append]
      exact nodup_store ih

theorem values_ne_nil {items : List (κ × ω)} {key : κ} :
    values items key ≠ [] ↔ key ∈ items.map Prod.fst := by
  simp [values]

end LuaXENetwork.Library.Assoc
