import Mathlib.Data.List.Nodup
import Mathlib.Data.List.Perm.Basic

/-!
# Ledgers

Things that are taken and given back, each under a name of its own: blocks of memory, handles, keys of
a registry. What is given back without being out is counted as a stray.
-/

namespace LuaXENetwork.Library

structure Ledger where
  held : List Nat := []
  next : Nat := 0
  strays : Nat := 0
deriving DecidableEq, Repr

namespace Ledger

/-- The name of the next thing taken is `next`. -/
def take (l : Ledger) : Ledger := { l with held := l.next :: l.held, next := l.next + 1 }

def give (l : Ledger) (name : Nat) : Ledger :=
  if name ∈ l.held then { l with held := l.held.erase name } else { l with strays := l.strays + 1 }

theorem take_give (l : Ledger) : l.take.give l.next = { l with next := l.next + 1 } := by
  rw [give, take, if_pos List.mem_cons_self]
  simp

theorem give_next (l : Ledger) (name : Nat) : (l.give name).next = l.next := by
  rw [give]
  split
  · rfl
  · rfl

theorem give_subset (l : Ledger) (name : Nat) : (l.give name).held ⊆ l.held := by
  rw [give]
  split
  · exact List.erase_subset
  · exact List.Subset.refl _

/-- Exactly the things owned are out, each once, and nothing has been given back twice. -/
structure Balanced (l : Ledger) (owned : List Nat) : Prop where
  perm : l.held.Perm owned
  nodup : l.held.Nodup
  below : ∀ name ∈ l.held, name < l.next
  strays : l.strays = 0

variable {l : Ledger} {owned owned' : List Nat}

theorem balanced_empty : Balanced {} [] := ⟨.nil, List.nodup_nil, nofun, rfl⟩

theorem Balanced.congr (balanced : l.Balanced owned) (same : owned.Perm owned') : l.Balanced owned' :=
  { balanced with perm := balanced.perm.trans same }

theorem Balanced.take (balanced : l.Balanced owned) : l.take.Balanced (l.next :: owned) where
  perm := balanced.perm.cons _
  nodup := List.nodup_cons.mpr ⟨fun member => Nat.lt_irrefl _ (balanced.below _ member), balanced.nodup⟩
  below := by
    intro name member
    rcases List.mem_cons.mp member with rfl | member
    · exact Nat.lt_succ_self _
    · exact Nat.lt_succ_of_lt (balanced.below name member)
  strays := balanced.strays

theorem Balanced.give {name : Nat} (balanced : l.Balanced (name :: owned)) : (l.give name).Balanced owned := by
  have out : name ∈ l.held := balanced.perm.mem_iff.mpr List.mem_cons_self
  rw [Ledger.give, if_pos out]
  constructor
  · exact (balanced.perm.erase name).trans (by rw [List.erase_cons_head])
  · exact balanced.nodup.erase name
  · exact fun other member => balanced.below other (List.mem_of_mem_erase member)
  · exact balanced.strays

/-- With nothing owned any more, nothing is left out. -/
theorem Balanced.empty (balanced : l.Balanced []) : l.held = [] := balanced.perm.eq_nil

end Ledger

end LuaXENetwork.Library
