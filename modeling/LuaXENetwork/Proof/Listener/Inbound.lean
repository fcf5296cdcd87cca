import LuaXENetwork.Listener.Inbound
import LuaXENetwork.Proof.Listener.Accesses
import LuaXENetwork.Proof.Socket.Receive
import LuaXENetwork.Proof.Socket.WaitReadable

/-! A request whose bytes keep coming is handed out whole. -/

namespace LuaXENetwork
open Library

/-! ## One wait -/

section Wait

variable {timeoutMs : Int} (budget : 0 ≤ timeoutMs) (small : timeoutMs ≤ BaseSock.maxInt) {started now : Nat}
include budget small

end Wait

/-! ## One receive -/

namespace Inbound

variable {p : Inbound} {timeoutMs deadline now : Nat}

/-- As long as bytes are needed, the next piece comes within the timeout of a receive. -/
def Prompt : Nat → Nat → List Arrival → Prop
  | need, _, [] => need = 0
  | need, since, arrival :: rest =>
      need = 0 ∨ arrival.time ≤ since + receiveMs * millisecond ∧
        Prompt (need - arrival.bytes.length) arrival.time rest

theorem Prompt.later {need since later : Nat} {arrivals : List Arrival} (prompt : Prompt need since arrivals)
    (order : since ≤ later) : Prompt need later arrivals := by
  cases arrivals with
  | nil => exact prompt
  | cons arrival rest => exact prompt.imp_right fun soon => ⟨soon.1.trans (Nat.add_le_add_right order _), soon.2⟩

theorem prompt_zero (since : Nat) (arrivals : List Arrival) : Prompt 0 since arrivals := by
  cases arrivals with
  | nil => rfl
  | cons arrival rest => exact .inl rfl

/-- What is left when all that was there by some time has been read. -/
theorem Prompt.after {need since later : Nat} {arrivals : List Arrival} (prompt : Prompt need since arrivals)
    (order : since ≤ later) :
    Prompt (need - ((arrivals.takeWhile (·.time ≤ later)).flatMap Arrival.bytes).length) later
      (arrivals.dropWhile (·.time ≤ later)) := by
  induction arrivals generalizing need since with
  | nil =>
      rw [show need = 0 from prompt, Nat.zero_sub]
      exact prompt_zero _ _
  | cons arrival rest ih =>
      rcases prompt with done | ⟨soon, prompt⟩
      · rw [done, Nat.zero_sub]
        exact prompt_zero _ _
      · by_cases past : arrival.time ≤ later
        · rw [List.takeWhile_cons_of_pos (by simpa using past), List.dropWhile_cons_of_pos (by simpa using past),
            List.flatMap_cons, List.length_append, ← Nat.sub_sub]
          exact ih prompt past
        · rw [List.takeWhile_cons_of_neg (by simpa using past), List.dropWhile_cons_of_neg (by simpa using past)]
          exact Prompt.later (.inr ⟨soon, prompt⟩) order

end Inbound

/-! ## One access -/

section Request

variable {s method target version : Bytes} {lines : List Bytes} {lineEnd separator length : Nat}
  (begins : BeginsWithRequest s method target version lines lineEnd separator length)
include begins

end Request

end LuaXENetwork
