import Mathlib.Tactic.Common

/-! # Stacks with a bounded number of slots -/

namespace LuaXENetwork.Library

/-- The slots in use, the top one last, and how many more there may be. -/
structure Stack (α : Type) where
  slots : List α
  free : Nat
deriving DecidableEq, Repr

namespace Stack

variable {α : Type}

/-- Positive indices count from the bottom, negative ones from the top. -/
def position (s : Stack α) : Int → Option Nat
  | .ofNat 0 => none
  | .ofNat (n + 1) => if n < s.slots.length then some n else none
  | .negSucc n => if n < s.slots.length then some (s.slots.length - 1 - n) else none

def slot (s : Stack α) (index : Int) : Option α := (s.position index).bind (s.slots[·]?)

def replace (s : Stack α) (index : Int) (value : α) : Option (Stack α) :=
  (s.position index).map fun place => { s with slots := s.slots.set place value }

/-- The top slots give way to the values, when both are possible. -/
def exchange (s : Stack α) (popped : Nat) (values : List α) : Option (Stack α) :=
  if popped ≤ s.slots.length ∧ values.length ≤ s.free + popped then
    some ⟨s.slots.take (s.slots.length - popped) ++ values, s.free + popped - values.length⟩
  else none

/-- The top slot moves down to the index. -/
def insert (s : Stack α) (index : Int) : Option (Stack α) :=
  (s.position index).map fun place =>
    { s with slots := s.slots.take place ++ s.slots.drop (s.slots.length - 1)
        ++ (s.slots.drop place).dropLast }

/-- The stack with more values on it. -/
def onTop (s : Stack α) (values : List α) : Stack α := ⟨s.slots ++ values, s.free - values.length⟩

variable (s : Stack α) {values : List α}

@[simp] theorem onTop_nil : s.onTop [] = s := by simp [onTop]

@[simp] theorem free_onTop : (s.onTop values).free = s.free - values.length := rfl

@[simp] theorem onTop_onTop (more : List α) : (s.onTop values).onTop more = s.onTop (values ++ more) := by
  simp [onTop, Nat.sub_sub]

variable {s}

theorem exchange_onTop {gone : List α} (there : gone.length ≤ s.free) (room : values.length ≤ s.free) :
    (s.onTop gone).exchange gone.length values = some (s.onTop values) := by
  have fits : gone.length ≤ (s.onTop gone).slots.length ∧
      values.length ≤ (s.onTop gone).free + gone.length := by
    simp only [onTop, List.length_append]
    omega
  rw [exchange, if_pos fits]
  simp [onTop, Nat.sub_add_cancel there]

/-- What a positive index names stays where it is. -/
theorem slot_below {index : Nat} {value : α} (found : s.slot index = some value) :
    (s.onTop values).slot index = some value := by
  cases index with
  | zero => simp [slot, position] at found
  | succ n =>
      obtain ⟨place, here, is⟩ := Option.bind_eq_some_iff.mp found
      obtain ⟨inside, rfl⟩ : n < s.slots.length ∧ n = place := by simpa [position] using here
      have inside' : n < (s.onTop values).slots.length := by
        simp only [onTop, List.length_append]
        omega
      have here' : (s.onTop values).position (n + 1 : Nat) = some n := if_pos inside'
      rw [slot, here', Option.bind_some]
      exact (List.getElem?_append_left inside).trans is

theorem position_onTop {n : Nat} (size : values.length = n + 1) :
    (s.onTop values).position (.negSucc n) = some s.slots.length := by
  have length : (s.onTop values).slots.length = s.slots.length + (n + 1) := by simp [onTop, size]
  have inside : n < (s.onTop values).slots.length := by omega
  rw [position, if_pos inside, length]
  congr 1
  omega

theorem slot_onTop (value : α) (above : List α) :
    (s.onTop (value :: above)).slot (.negSucc above.length) = some value := by
  rw [slot, position_onTop rfl]
  simp [onTop]

theorem replace_onTop (value new : α) (above : List α) :
    (s.onTop (value :: above)).replace (.negSucc above.length) new = some (s.onTop (new :: above)) := by
  rw [replace, position_onTop rfl]
  simp [onTop, List.set_append]

theorem insert_onTop (moved : α) :
    (s.onTop (values ++ [moved])).insert (.negSucc values.length) = some (s.onTop (moved :: values)) := by
  rw [insert, position_onTop (by simp)]
  simp [onTop]

end Stack

end LuaXENetwork.Library
