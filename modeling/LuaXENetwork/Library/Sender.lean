import Mathlib.Tactic.Common

/-!
# Sending in parts

A channel that takes some of the bytes it is given, reports a close by taking none, or fails; and
the loop that keeps handing it the rest.
-/

namespace LuaXENetwork.Library

structure Sender (σ : Type) where
  arm : σ → σ
  sendPartial : σ → List UInt8 → Option Nat × σ
  accepted : σ → List UInt8

namespace Sender

variable {σ : Type} (sender : Sender σ)

/-- Sends what follows the first `total` bytes; a close behind the first of them ends it early. -/
def sendLoop (s : σ) (data : List UInt8) (total : Nat) : Option Nat × σ :=
  if total < data.length then
    match sender.sendPartial s (data.drop total) with
    | (none, s) => (none, s)
    | (some 0, s) => (if total = 0 then none else some total, s)
    | (some (count + 1), s) => sendLoop s data (total + (count + 1))
  else (some total, s)
termination_by data.length - total

def send (s : σ) (data : List UInt8) : Option Nat × σ := sender.sendLoop (sender.arm s) data 0

/-- Somewhere in the loop, after `total` bytes the channel's answer is of the given kind. -/
inductive Meets (kind : Nat → Option Nat → Prop) (data : List UInt8) : σ → Nat → Prop
  | here {s : σ} {total : Nat} (more : total < data.length)
      (answer : kind total (sender.sendPartial s (data.drop total)).1) : Meets kind data s total
  | later {s s' : σ} {total count : Nat} (more : total < data.length)
      (part : sender.sendPartial s (data.drop total) = (some (count + 1), s'))
      (rest : Meets kind data s' (total + (count + 1))) : Meets kind data s total

/-- The channel fails, or is closed before it has taken anything. -/
def Refuses (s : σ) (data : List UInt8) : Prop :=
  sender.Meets (fun total answer => answer = none ∨ (answer = some 0 ∧ total = 0)) data (sender.arm s) 0

/-- The channel reports a close after it has taken a part of the data. -/
def ClosesWithin (s : σ) (data : List UInt8) : Prop :=
  sender.Meets (fun total answer => answer = some 0 ∧ total ≠ 0) data (sender.arm s) 0

/-- What the channel says it took is what it took, as long as it has not failed. -/
structure Truthful (sound : σ → Prop) : Prop where
  arm : ∀ s, sound s → sound (sender.arm s) ∧ sender.accepted (sender.arm s) = sender.accepted s
  sendPartial : ∀ s data count s', sound s → sender.sendPartial s data = (some count, s') →
    sound s' ∧ count ≤ data.length ∧ sender.accepted s' = sender.accepted s ++ data.take count

variable {sender} {sound : σ → Prop}

theorem sendLoop_accepted (truthful : sender.Truthful sound) {s s' : σ} {data : List UInt8}
    {total count : Nat} (start : sound s) (within : total ≤ data.length)
    (sends : sender.sendLoop s data total = (some count, s')) :
    sound s' ∧ count ≤ data.length ∧
      sender.accepted s' = sender.accepted s ++ (data.drop total).take (count - total) ∧
      total ≤ count := by
  fun_induction sendLoop sender s data total with
  | case1 s total more s'' failed => exact absurd sends nofun
  | case2 s total more s'' closed =>
      obtain ⟨sound', -, accepted⟩ := truthful.sendPartial _ _ _ _ start closed
      split at sends
      · exact absurd sends nofun
      · obtain ⟨same, rfl⟩ := Prod.mk.inj sends
        obtain rfl := Option.some.inj same
        exact ⟨sound', within, by simpa using accepted, Nat.le_refl _⟩
  | case3 s total more n s'' part ih =>
      obtain ⟨sound', few, accepted⟩ := truthful.sendPartial _ _ _ _ start part
      rw [List.length_drop] at few
      obtain ⟨ends, fits, accepted', order⟩ := ih sound' (by omega) sends
      refine ⟨ends, fits, ?_, by omega⟩
      have split : count - total = (n + 1) + (count - (total + (n + 1))) := by omega
      rw [accepted', accepted, List.append_assoc, split, List.take_add, List.drop_drop]
  | case4 s total done =>
      obtain ⟨same, rfl⟩ := Prod.mk.inj sends
      obtain rfl := Option.some.inj same
      exact ⟨start, within, by simp, Nat.le_refl _⟩

/-- A count that `send` returns tells how much was taken, which may be less than there is. -/
theorem send_accepted (truthful : sender.Truthful sound) {s s' : σ} {data : List UInt8} {count : Nat}
    (start : sound s) (sends : sender.send s data = (some count, s')) :
    sound s' ∧ count ≤ data.length ∧ sender.accepted s' = sender.accepted s ++ data.take count := by
  obtain ⟨armed, same⟩ := truthful.arm s start
  obtain ⟨ends, fits, accepted, -⟩ := sendLoop_accepted truthful armed (Nat.zero_le _) sends
  exact ⟨ends, fits, by simpa [same] using accepted⟩

theorem meets_iff {kind : Nat → Option Nat → Prop} {s : σ} {data : List UInt8} {total : Nat} :
    sender.Meets kind data s total ↔ total < data.length ∧
      (kind total (sender.sendPartial s (data.drop total)).1 ∨
        ∃ count s', sender.sendPartial s (data.drop total) = (some (count + 1), s') ∧
          sender.Meets kind data s' (total + (count + 1))) := by
  constructor
  · intro meets
    cases meets with
    | here more answer => exact ⟨more, .inl answer⟩
    | later more part rest => exact ⟨more, .inr ⟨_, _, part, rest⟩⟩
  · rintro ⟨more, answer | ⟨count, s', part, rest⟩⟩
    · exact .here more answer
    · exact .later more part rest

theorem sendLoop_none_iff {s : σ} {data : List UInt8} {total : Nat} :
    (sender.sendLoop s data total).1 = none ↔
      sender.Meets (fun total answer => answer = none ∨ (answer = some 0 ∧ total = 0)) data s total := by
  fun_induction sendLoop sender s data total with
  | case1 s total more s' failed =>
      rw [meets_iff]
      simp [more, failed]
  | case2 s total more s' closed =>
      rw [meets_iff]
      simp [more, closed]
  | case3 s total more count s' part ih =>
      rw [ih, meets_iff (s := s)]
      simp [more, part]
  | case4 s total done =>
      rw [meets_iff]
      simp [done]

theorem sendLoop_short_iff {s : σ} {data : List UInt8} {total : Nat} :
    (∃ count, (sender.sendLoop s data total).1 = some count ∧ count < data.length) ↔
      sender.Meets (fun total answer => answer = some 0 ∧ total ≠ 0) data s total := by
  fun_induction sendLoop sender s data total with
  | case1 s total more s' failed =>
      rw [meets_iff]
      simp [failed]
  | case2 s total more s' closed =>
      rw [meets_iff]
      by_cases none_yet : total = 0
      · subst none_yet
        simp_all
      · simp [more, closed, none_yet]
  | case3 s total more count s' part ih =>
      rw [ih, meets_iff (s := s)]
      simp [more, part]
  | case4 s total done =>
      rw [meets_iff]
      simp [done]

theorem refuses_iff {s : σ} {data : List UInt8} :
    sender.Refuses s data ↔ (sender.send s data).1 = none :=
  sendLoop_none_iff.symm

theorem closesWithin_iff {s : σ} {data : List UInt8} :
    sender.ClosesWithin s data ↔ ∃ count, (sender.send s data).1 = some count ∧ count < data.length :=
  sendLoop_short_iff.symm

end Sender

end LuaXENetwork.Library
