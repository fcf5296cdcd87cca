import LuaXENetwork.Socket.Winsock
import Mathlib.Data.List.Basic

/-! What the operations under way can change, and what they leave alone. -/

namespace LuaXENetwork

@[simp] theorem overwrite_nil (memory : Bytes) (offset : Nat) : overwrite memory offset [] = memory := by
  simp [overwrite]

theorem length_overwrite {memory data : Bytes} {offset : Nat}
    (fits : offset + data.length ≤ memory.length) :
    (overwrite memory offset data).length = memory.length := by
  simp only [overwrite, List.length_append, List.length_take, List.length_drop]
  omega

theorem take_overwrite {memory : Bytes} (data : Bytes) {offset : Nat} (within : offset ≤ memory.length) :
    (overwrite memory offset data).take (offset + data.length) = memory.take offset ++ data := by
  have front : (memory.take offset ++ data).length = offset + data.length := by simp [within]
  rw [overwrite, ← front, List.take_left']
  rfl

namespace BaseSock

def taken (s : BaseSock) (length : Nat) : IoResult → Bytes
  | .failed _ => []
  | .bytes count => s.incoming.take (min count length)

@[simp] theorem taken_failed (s : BaseSock) (length error : Nat) :
    s.taken length (.failed error) = [] := rfl

def outcome (length : Nat) (s : BaseSock) : IoResult → Overlapped
  | .failed error => ⟨.failed error, 0⟩
  | .bytes count => ⟨.success, (s.taken length (.bytes count)).length⟩

theorem complete_read (s : BaseSock) (due buffer offset length : Nat) (result : IoResult) :
    s.complete ⟨due, result, .read buffer offset length⟩ =
      { s with
        incoming := s.incoming.drop (s.taken length result).length
        memory := Function.update s.memory buffer
          (overwrite (s.memory buffer) offset (s.taken length result))
        os := outcome length s result
        readEvent := true } := by
  cases result with
  | failed error => simp [complete, taken, outcome]
  | bytes count => rfl

theorem taken_eq (s : BaseSock) (length : Nat) (result : IoResult) :
    s.incoming.take (s.taken length result).length = s.taken length result := by
  cases result with
  | failed error => simp [taken]
  | bytes count => simp [taken, List.take_eq_take_iff]

theorem length_taken_le (s : BaseSock) (length : Nat) (result : IoResult) :
    (s.taken length result).length ≤ length := by
  cases result with
  | failed error => simp [taken]
  | bytes count => simp only [taken, List.length_take]; omega

structure SameReading (s s' : BaseSock) : Prop where
  incoming : s'.incoming = s.incoming
  memory : s'.memory = s.memory
  buffers : s'.buffers = s.buffers
  readEvent : s'.readEvent = s.readEvent
  recvInitiated : s'.recvInitiated = s.recvInitiated
  clobbered : s'.clobbered = s.clobbered
  dropped : s'.dropped = s.dropped

theorem SameReading.refl (s : BaseSock) : SameReading s s := by constructor <;> rfl

theorem SameReading.trans {s₁ s₂ s₃ : BaseSock} (first : SameReading s₁ s₂)
    (second : SameReading s₂ s₃) : SameReading s₁ s₃ where
  incoming := second.incoming.trans first.incoming
  memory := second.memory.trans first.memory
  buffers := second.buffers.trans first.buffers
  readEvent := second.readEvent.trans first.readEvent
  recvInitiated := second.recvInitiated.trans first.recvInitiated
  clobbered := second.clobbered.trans first.clobbered
  dropped := second.dropped.trans first.dropped

def OnlyWrites (s : BaseSock) : Prop := ∀ operation ∈ s.outstanding, operation.target.isRead = false

theorem complete_write {s : BaseSock} {operation : Operation}
    (write : operation.target.isRead = false) : SameReading s (s.complete operation) := by
  obtain ⟨due, result, target⟩ := operation
  cases target with
  | read buffer offset length => simp [Target.isRead] at write
  | write data => cases result <;> constructor <;> rfl

theorem complete_outstanding (s : BaseSock) (operation : Operation) :
    (s.complete operation).outstanding = s.outstanding := by
  obtain ⟨due, result, target⟩ := operation
  cases target <;> cases result <;> rfl

structure SameCall (s s' : BaseSock) : Prop where
  outstanding : s'.outstanding = s.outstanding
  buffers : s'.buffers = s.buffers
  recvInitiated : s'.recvInitiated = s.recvInitiated
  clobbered : s'.clobbered = s.clobbered
  dropped : s'.dropped = s.dropped
  clock : s'.clock = s.clock
  recvEndTime : s'.recvEndTime = s.recvEndTime
  sendEndTime : s'.sendEndTime = s.sendEndTime

theorem complete_sameCall (s : BaseSock) (operation : Operation) :
    SameCall s (s.complete operation) := by
  obtain ⟨due, result, target⟩ := operation
  cases target <;> cases result <;> constructor <;> rfl

theorem foldl_complete_sameCall (operations : List Operation) (s : BaseSock) :
    SameCall s (operations.foldl complete s) := by
  induction operations generalizing s with
  | nil => constructor <;> rfl
  | cons operation operations ih =>
      have first := complete_sameCall s operation
      have rest := ih (s.complete operation)
      exact ⟨rest.outstanding.trans first.outstanding, rest.buffers.trans first.buffers,
        rest.recvInitiated.trans first.recvInitiated, rest.clobbered.trans first.clobbered,
        rest.dropped.trans first.dropped, rest.clock.trans first.clock,
        rest.recvEndTime.trans first.recvEndTime, rest.sendEndTime.trans first.sendEndTime⟩

theorem foldl_complete_writes {operations : List Operation} {s : BaseSock}
    (writes : ∀ operation ∈ operations, operation.target.isRead = false) :
    SameReading s (operations.foldl complete s) := by
  induction operations generalizing s with
  | nil => exact .refl s
  | cons operation operations ih =>
      have first := complete_write (s := s) (writes operation List.mem_cons_self)
      exact first.trans (ih fun later member => writes later (List.mem_cons_of_mem _ member))

theorem foldl_complete_readEvent (operations : List Operation) (s : BaseSock) :
    (operations.foldl complete s).readEvent =
      (s.readEvent || operations.any (·.target.isRead)) := by
  induction operations generalizing s with
  | nil => simp
  | cons operation operations ih =>
      obtain ⟨due, result, target⟩ := operation
      rw [List.foldl_cons, ih, List.any_cons]
      cases target <;> cases result <;> simp [complete, Target.isRead]

theorem runTo_outstanding (s : BaseSock) (time : Nat) :
    (s.runTo time).outstanding = s.outstanding.dropWhile (·.due ≤ time) :=
  (foldl_complete_sameCall _ _).outstanding

theorem runTo_sameReading {s : BaseSock} (writes : s.OnlyWrites) (time : Nat) :
    SameReading s (s.runTo time) := by
  have run : SameReading { s with
      clock := max s.clock time
      outstanding := s.outstanding.dropWhile (·.due ≤ time) } (s.runTo time) :=
    foldl_complete_writes fun operation member =>
      writes operation ((List.takeWhile_sublist _).subset member)
  exact ⟨run.incoming, run.memory, run.buffers, run.readEvent, run.recvInitiated, run.clobbered,
    run.dropped⟩

theorem runTo_nil {s : BaseSock} (idle : s.outstanding = []) (time : Nat) :
    s.runTo time = { s with clock := max s.clock time } := by
  cases s
  subst idle
  rfl

theorem runTo_due {s : BaseSock} {operation : Operation} (alone : s.outstanding = [operation])
    {time : Nat} (due : operation.due ≤ time) :
    s.runTo time =
      { s with clock := max s.clock time, outstanding := [] }.complete operation := by
  simp [runTo, alone, due]

theorem runTo_early {s : BaseSock} {operation : Operation} (alone : s.outstanding = [operation])
    {time : Nat} (early : time < operation.due) :
    s.runTo time = { s with clock := max s.clock time } := by
  cases s
  subst alone
  simp [runTo, early]

theorem start_idle {s : BaseSock} (idle : s.outstanding = []) (answer : IoAnswer) (target : Target) :
    (∃ error, s.start answer target = (false, error, s)) ∨
    (∃ result, s.start answer target = (true, 0, s.complete ⟨s.clock, result, target⟩)) ∨
    (∃ delay result, s.start answer target = (false, wsaIoPending,
      { s with
        os := ⟨.pending, 0⟩
        outstanding := [⟨s.clock + (delay + 1), result, target⟩] })) := by
  cases answer with
  | eventLost error => exact .inl ⟨error, rfl⟩
  | refused error => exact .inl ⟨error, rfl⟩
  | done delay result =>
      cases delay with
      | zero =>
          cases result with
          | failed error => exact .inl ⟨error, rfl⟩
          | bytes count => exact .inr (.inl ⟨_, rfl⟩)
      | succ delay => exact .inr (.inr ⟨delay, result, by simp [start, idle]⟩)

theorem overlappedResult_success {s : BaseSock} {count : Nat} (ended : s.os = ⟨.success, count⟩) :
    s.overlappedResult = (.ok count, s) := by
  simp [overlappedResult, awaitPending, ended]

theorem overlappedResult_failed {s : BaseSock} {error : Nat} (ended : s.os = ⟨.failed error, 0⟩) :
    s.overlappedResult = (.error error, s) := by
  simp [overlappedResult, awaitPending, ended]

theorem overlappedResult_snd (s : BaseSock) : s.overlappedResult.2 = s.awaitPending := by
  rw [overlappedResult]
  cases s.awaitPending.os.status <;> rfl

def Waits (s t : BaseSock) : Prop :=
  t = { s with waits := s.waits.tail } ∨ ∃ time, t = { s with waits := s.waits.tail }.runTo time

theorem waitFor_cases (s : BaseSock) (isRead : Bool) (milliseconds : Nat) :
    (∃ time, s.signalTime isRead = some time ∧
      s.waitFor isRead milliseconds = (.event, { s with waits := s.waits.tail }.runTo time)) ∨
    ∃ waited t, s.waitFor isRead milliseconds = (waited, t) ∧ waited ≠ .event ∧ Waits s t := by
  rw [waitFor]
  by_cases shut : (!s.isOpen) = true
  · rw [if_pos shut]
    exact .inr ⟨_, _, rfl, by simp, .inl rfl⟩
  · rw [if_neg shut]
    generalize s.waits.headD .usual = answer
    generalize s.signalTime isRead = signal
    cases answer with
    | failed error => exact .inr ⟨_, _, rfl, by simp, .inl rfl⟩
    | usual =>
        cases signal with
        | none => exact .inr ⟨_, _, rfl, by simp, .inr ⟨_, rfl⟩⟩
        | some time =>
            dsimp only
            split
            · exact .inl ⟨time, rfl, rfl⟩
            · exact .inr ⟨_, _, rfl, by simp, .inr ⟨_, rfl⟩⟩
    | interrupted after =>
        cases signal with
        | none =>
            dsimp only
            split
            · exact .inr ⟨_, _, rfl, by simp, .inr ⟨_, rfl⟩⟩
            · exact .inr ⟨_, _, rfl, by simp, .inr ⟨_, rfl⟩⟩
        | some time =>
            dsimp only
            split
            · exact .inl ⟨time, rfl, rfl⟩
            · split
              · exact .inr ⟨_, _, rfl, by simp, .inr ⟨_, rfl⟩⟩
              · exact .inr ⟨_, _, rfl, by simp, .inr ⟨_, rfl⟩⟩

end BaseSock

end LuaXENetwork
