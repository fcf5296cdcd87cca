import LuaXENetwork.Socket.BaseSock
import LuaXENetwork.Proof.Socket.Winsock

/-! What one `RecvPartial`, one `Recv` and one `Send` do when no earlier read is left over. -/

namespace LuaXENetwork.BaseSock

/-- Nothing is under way and nothing waits to be collected. -/
structure Calm (s : BaseSock) : Prop where
  idle : s.outstanding = []
  collected : s.recvInitiated = false

/-- No read is under way, and none has ended without being collected. -/
structure NoReadLeft (s : BaseSock) : Prop where
  onlyWrites : s.OnlyWrites
  collected : s.recvInitiated = true → s.readEvent = false

theorem Calm.noReadLeft {s : BaseSock} (calm : Calm s) : NoReadLeft s where
  onlyWrites := by simp [OnlyWrites, calm.idle]
  collected := by simp [calm.collected]

structure SameStream (s s' : BaseSock) : Prop where
  incoming : s'.incoming = s.incoming
  memory : s'.memory = s.memory
  buffers : s'.buffers = s.buffers
  clobbered : s'.clobbered = s.clobbered
  dropped : s'.dropped = s.dropped

structure Took (s : BaseSock) (buffer offset length count : Nat) (s' : BaseSock) : Prop where
  calm : Calm s'
  within : count ≤ length
  available : count ≤ s.incoming.length
  incoming : s'.incoming = s.incoming.drop count
  memory : s'.memory = Function.update s.memory buffer
    (overwrite (s.memory buffer) offset (s.incoming.take count))
  buffers : s'.buffers = s.buffers
  clobbered : s'.clobbered = s.clobbered
  dropped : s'.dropped = s.dropped

structure Stopped (s s' : BaseSock) : Prop where
  stream : NoReadLeft s' → s'.incoming = s.incoming
  owned : s'.OnlyWrites ∨ s'.recvInitiated = true
  buffers : s'.buffers = s.buffers
  clobbered : s'.clobbered = s.clobbered
  dropped : s'.dropped = s.dropped

theorem Took.of_same {s₀ s s' : BaseSock} {buffer offset length count : Nat}
    (same : SameStream s₀ s) (took : Took s buffer offset length count s') :
    Took s₀ buffer offset length count s' where
  calm := took.calm
  within := took.within
  available := same.incoming ▸ took.available
  incoming := same.incoming ▸ took.incoming
  memory := same.memory ▸ same.incoming ▸ took.memory
  buffers := took.buffers.trans same.buffers
  clobbered := took.clobbered.trans same.clobbered
  dropped := took.dropped.trans same.dropped

theorem Stopped.of_same {s₀ s s' : BaseSock} (same : SameStream s₀ s) (stopped : Stopped s s') :
    Stopped s₀ s' where
  stream := fun settled => (stopped.stream settled).trans same.incoming
  owned := stopped.owned
  buffers := stopped.buffers.trans same.buffers
  clobbered := stopped.clobbered.trans same.clobbered
  dropped := stopped.dropped.trans same.dropped

def ReadEnds (s : BaseSock) (buffer offset length : Nat) : Option Nat × BaseSock → Prop
  | (some count, s') => Took s buffer offset length count s'
  | (none, s') => Stopped s s'

theorem ReadEnds.of_same {s₀ s : BaseSock} {buffer offset length : Nat}
    {result : Option Nat × BaseSock} (same : SameStream s₀ s)
    (ends : ReadEnds s buffer offset length result) : ReadEnds s₀ buffer offset length result := by
  rcases result with ⟨_ | count, s'⟩
  · exact Stopped.of_same same ends
  · exact Took.of_same same ends

theorem ReadEnds.of_ulong {s : BaseSock} {buffer offset length : Nat} {result : Option Nat × BaseSock}
    (ends : ReadEnds s buffer offset (ulong length) result) : ReadEnds s buffer offset length result := by
  rcases result with ⟨_ | count, s'⟩
  · exact ends
  · have took : Took s buffer offset (ulong length) count s' := ends
    exact { took with within := took.within.trans (Nat.mod_le _ _) }

theorem collectRead_complete {s : BaseSock} (idle : s.outstanding = [])
    (due buffer offset length error : Nat) (result : IoResult) :
    ReadEnds s buffer offset length
      (collectRead { s.complete ⟨due, result, .read buffer offset length⟩ with lastError := error }) := by
  cases result with
  | failed failure =>
      rw [complete_read, collectRead, overlappedResult_failed rfl]
      dsimp only
      by_cases zero : failure = 0
      · rw [if_pos zero]
        exact { calm := ⟨idle, rfl⟩, within := Nat.zero_le _, available := Nat.zero_le _,
                incoming := by simp, memory := by simp, buffers := rfl, clobbered := rfl,
                dropped := rfl }
      · rw [if_neg zero]
        exact { stream := fun _ => by simp, owned := .inl (by simp [OnlyWrites, idle]),
                buffers := rfl, clobbered := rfl, dropped := rfl }
  | bytes count =>
      have some_taken := taken_eq s length (.bytes count)
      rw [complete_read, collectRead, overlappedResult_success rfl]
      exact { calm := ⟨idle, rfl⟩, within := length_taken_le s length _,
              available := by simp [taken], incoming := rfl, memory := by rw [some_taken],
              buffers := rfl, clobbered := rfl, dropped := rfl }

theorem stopped_runTo {s : BaseSock} {due buffer offset length : Nat} {result : IoResult}
    (alone : s.outstanding = [⟨due, result, .read buffer offset length⟩])
    (initiated : s.recvInitiated = true) (time error : Nat) :
    Stopped s { s.runTo time with lastError := error } := by
  by_cases reached : due ≤ time
  · rw [runTo_due alone reached, complete_read]
    exact { stream := fun settled => (nomatch settled.collected initiated),
            owned := .inr initiated, buffers := rfl, clobbered := rfl, dropped := rfl }
  · rw [runTo_early alone (Nat.lt_of_not_le reached)]
    exact { stream := fun _ => rfl, owned := .inr initiated, buffers := rfl, clobbered := rfl,
            dropped := rfl }

theorem awaitRead_cases (s : BaseSock) (secondsLeft : Int) :
    (∃ time, s.signalTime true = some time ∧ awaitRead s secondsLeft =
      collectRead { { s with waits := s.waits.tail }.runTo time with lastError := 0 }) ∨
    ∃ t error, awaitRead s secondsLeft = (none, { t with lastError := error }) ∧ Waits s t := by
  rcases waitFor_cases s true (waitMilliseconds secondsLeft) with
    ⟨time, signal, event⟩ | ⟨waited, t, answered, missed, waits⟩
  · exact .inl ⟨time, signal, by rw [awaitRead, event]⟩
  · rw [awaitRead, answered]
    cases waited with
    | event => exact (missed rfl).elim
    | timeout => exact .inr ⟨t, _, rfl, waits⟩
    | failed error => exact .inr ⟨t, _, rfl, waits⟩
    | other => exact .inr ⟨t, t.lastError, rfl, waits⟩

theorem awaitRead_alone {s : BaseSock} {due buffer offset length : Nat} {result : IoResult}
    (alone : s.outstanding = [⟨due, result, .read buffer offset length⟩])
    (initiated : s.recvInitiated = true) (quiet : s.readEvent = false) (secondsLeft : Int) :
    ReadEnds s buffer offset length (awaitRead s secondsLeft) := by
  rcases awaitRead_cases s secondsLeft with ⟨time, signal, event⟩ | ⟨t, error, missed, waits⟩
  · have at_due : due = time := by simpa [signalTime, quiet, alone, Target.isRead] using signal
    rw [event, ← at_due, runTo_due (s := { s with waits := s.waits.tail }) alone (Nat.le_refl due)]
    refine ReadEnds.of_same ?_ (collectRead_complete ?_ due buffer offset length 0 result)
    · constructor <;> rfl
    · rfl
  · rw [missed]
    rcases waits with now | ⟨time, later⟩
    · rw [now]
      exact { stream := fun _ => rfl, owned := .inr initiated, buffers := rfl, clobbered := rfl,
              dropped := rfl }
    · rw [later]
      refine Stopped.of_same ?_ (stopped_runTo (s := { s with waits := s.waits.tail })
        alone initiated time error)
      constructor <;> rfl

theorem stopped_idle {s t : BaseSock} (same : SameStream s t) (idle : t.outstanding = []) :
    Stopped s t where
  stream := fun _ => same.incoming
  owned := .inl (by simp [OnlyWrites, idle])
  buffers := same.buffers
  clobbered := same.clobbered
  dropped := same.dropped

theorem awaitRead_idle {s : BaseSock} (idle : s.outstanding = []) (quiet : s.readEvent = false)
    (secondsLeft : Int) : ∃ t, awaitRead s secondsLeft = (none, t) ∧ Stopped s t := by
  rcases awaitRead_cases s secondsLeft with ⟨time, signal, event⟩ | ⟨t, error, missed, waits⟩
  · simp [signalTime, quiet, idle] at signal
  · refine ⟨_, missed, ?_⟩
    rcases waits with now | ⟨time, later⟩
    · rw [now]
      exact stopped_idle (by constructor <;> rfl) idle
    · rw [later, runTo_nil (s := { s with waits := s.waits.tail }) idle]
      exact stopped_idle (by constructor <;> rfl) idle

theorem initialiseOs_idle {s : BaseSock} (idle : s.outstanding = []) :
    s.initialiseOs = { s with os := {} } := by
  simp [initialiseOs, idle]

theorem resetReadEvent_cases (s : BaseSock) :
    (∃ error reads, s.resetReadEvent = (some error, { s with reads := reads })) ∨
    s.resetReadEvent = (none, { s with readEvent := false }) := by
  unfold resetReadEvent
  split
  · exact .inl ⟨_, s.reads, rfl⟩
  · split
    · exact .inl ⟨_, _, rfl⟩
    · exact .inr rfl

theorem wsaRecv_idle {s : BaseSock} (idle : s.outstanding = []) (buffer offset length : Nat) :
    (∃ error, s.wsaRecv buffer offset length = (false, error, { s with reads := s.reads.tail })) ∨
    (∃ due result, s.wsaRecv buffer offset length = (true, 0, { s with reads := s.reads.tail }.complete
      ⟨due, result, .read buffer offset (ulong length)⟩)) ∨
    ∃ t due result, s.wsaRecv buffer offset length = (false, wsaIoPending, t) ∧ SameStream s t ∧
      t.outstanding = [⟨due, result, .read buffer offset (ulong length)⟩] ∧
      t.recvInitiated = s.recvInitiated ∧ t.readEvent = s.readEvent := by
  rcases start_idle (s := { s with reads := s.reads.tail }) idle
      (s.reads.headD (.done 0 (.bytes s.incoming.length))) (.read buffer offset (ulong length)) with
    ⟨error, refused⟩ | ⟨result, ended⟩ | ⟨delay, result, pending⟩
  · exact .inl ⟨error, refused⟩
  · exact .inr (.inl ⟨_, result, ended⟩)
  · refine .inr (.inr ⟨_, _, result, pending, ?_, rfl, rfl, rfl⟩)
    constructor <;> rfl

theorem startRead_armed {s : BaseSock} (idle : s.outstanding = []) (initiated : s.recvInitiated = true)
    (quiet : s.readEvent = false) (buffer offset length : Nat) (secondsLeft : Int) :
    ReadEnds s buffer offset length
      (match wsaRecv s buffer offset length with
      | (completed, error, s) =>
          if completed then collectRead { s with lastError := error }
          else if error = wsaIoPending then awaitRead { s with lastError := error } secondsLeft
          else (none, { s with lastError := error })) := by
  apply ReadEnds.of_ulong
  rcases wsaRecv_idle idle buffer offset length with
    ⟨error, refused⟩ | ⟨due, result, ended⟩ | ⟨t, due, result, pending, kept, alone, flag, event⟩
  · rw [refused]
    dsimp only
    rw [if_neg Bool.false_ne_true]
    by_cases stale : error = wsaIoPending
    · rw [if_pos stale]
      obtain ⟨t, missed, stopped⟩ := awaitRead_idle
        (s := { s with reads := s.reads.tail, lastError := error }) idle quiet secondsLeft
      rw [missed]
      exact Stopped.of_same (by constructor <;> rfl) stopped
    · rw [if_neg stale]
      exact stopped_idle (by constructor <;> rfl) idle
  · rw [ended]
    have collected := collectRead_complete (s := { s with reads := s.reads.tail }) idle due buffer
      offset (ulong length) 0 result
    exact ReadEnds.of_same (by constructor <;> rfl) collected
  · rw [pending]
    have awaited := awaitRead_alone (s := { t with lastError := wsaIoPending }) alone
      (flag.trans initiated) (event.trans quiet) secondsLeft
    have same : SameStream s { t with lastError := wsaIoPending } :=
      ⟨kept.incoming, kept.memory, kept.buffers, kept.clobbered, kept.dropped⟩
    exact ReadEnds.of_same same awaited

theorem startRead_calm {s : BaseSock} (calm : Calm s) (buffer offset length : Nat)
    (secondsLeft : Int) :
    ReadEnds s buffer offset length (startRead s buffer offset length secondsLeft) := by
  have idle := calm.idle
  rw [startRead, initialiseOs_idle idle]
  rcases resetReadEvent_cases { s with os := {} } with ⟨error, reads, reset⟩ | reset
  · rw [reset]
    exact stopped_idle (by constructor <;> rfl) idle
  · rw [reset]
    have armed := startRead_armed (s := { s with os := {}, readEvent := false, recvInitiated := true })
      idle rfl rfl buffer offset length secondsLeft
    exact ReadEnds.of_same (by constructor <;> rfl) armed

theorem recvPartial_calm {s : BaseSock} (calm : Calm s) (buffer offset length : Nat) :
    ReadEnds s buffer offset length (recvPartial s buffer offset length) := by
  simp only [recvPartial, calm.collected]
  split
  · exact { stream := fun _ => rfl, owned := .inl (by simp [OnlyWrites, calm.idle]), buffers := rfl,
            clobbered := rfl, dropped := rfl }
  · exact startRead_calm calm buffer offset length _

/-! ## The loop of `Recv` -/

structure Received (s : BaseSock) (buffer total count : Nat) (s' : BaseSock) : Prop where
  calm : Calm s'
  grown : total ≤ count
  within : count ≤ (s.memory buffer).length
  available : count - total ≤ s.incoming.length
  incoming : s'.incoming = s.incoming.drop (count - total)
  bytes : (s'.memory buffer).take count =
    (s.memory buffer).take total ++ s.incoming.take (count - total)
  buffers : s'.buffers = s.buffers
  clobbered : s'.clobbered = s.clobbered
  dropped : s'.dropped = s.dropped

structure GaveUp (s : BaseSock) (total : Nat) (s' : BaseSock) : Prop where
  stream : NoReadLeft s' → s'.dropped = s.dropped → s'.incoming = s.incoming
  owned : s'.OnlyWrites ∨ s'.recvInitiated = true
  buffers : s'.buffers = s.buffers
  clobbered : s'.clobbered = s.clobbered
  dropped : s.dropped + total ≤ s'.dropped

def RecvEnds (s : BaseSock) (buffer total : Nat) : Option Nat × BaseSock → Prop
  | (some count, s') => Received s buffer total count s'
  | (none, s') => GaveUp s total s'

theorem Received.refl {s : BaseSock} (calm : Calm s) {buffer total : Nat}
    (within : total ≤ (s.memory buffer).length) : Received s buffer total total s where
  calm := calm
  grown := Nat.le_refl total
  within := within
  available := by simp
  incoming := by simp
  bytes := by simp
  buffers := rfl
  clobbered := rfl
  dropped := rfl

section Took

variable {s s' : BaseSock} {buffer total count : Nat}
  (within : total ≤ (s.memory buffer).length)
  (took : Took s buffer total ((s.memory buffer).length - total) count s')
include within took

theorem Took.length_memory : (s'.memory buffer).length = (s.memory buffer).length := by
  have fits := took.within
  have available := took.available
  rw [took.memory, Function.update_self, length_overwrite]
  rw [List.length_take]
  omega

theorem Took.take_memory :
    (s'.memory buffer).take (total + count) = (s.memory buffer).take total ++ s.incoming.take count := by
  have length_taken : (s.incoming.take count).length = count := by simp [took.available]
  have taken := take_overwrite (s.incoming.take count) within
  rwa [length_taken, ← Function.update_self buffer (overwrite (s.memory buffer) total
    (s.incoming.take count)) s.memory, ← took.memory] at taken

theorem Took.step (positive : 0 < count) {result : Option Nat × BaseSock}
    (rest : RecvEnds s' buffer (total + count) result) : RecvEnds s buffer total result := by
  have length_eq := took.length_memory within
  rcases result with ⟨_ | last, t⟩
  · have gaveUp : GaveUp s' (total + count) t := rest
    have dropped := gaveUp.dropped
    have same := took.dropped
    exact { stream := fun _ same => by omega, owned := gaveUp.owned,
            buffers := gaveUp.buffers.trans took.buffers,
            clobbered := gaveUp.clobbered.trans took.clobbered,
            dropped := by omega }
  · have received : Received s' buffer (total + count) last t := rest
    have grown := received.grown
    have split : last - total = count + (last - (total + count)) := by omega
    have available := received.available
    rw [took.incoming, List.length_drop] at available
    have first := took.available
    exact { calm := received.calm, grown := by omega, within := length_eq ▸ received.within,
            available := by omega,
            incoming := by rw [received.incoming, took.incoming, List.drop_drop, split],
            bytes := by
              rw [received.bytes, took.take_memory within, took.incoming, split, List.take_add,
                List.append_assoc],
            buffers := received.buffers.trans took.buffers,
            clobbered := received.clobbered.trans took.clobbered,
            dropped := received.dropped.trans took.dropped }

end Took

theorem recvLoop_calm {s : BaseSock} (calm : Calm s) {buffer length : Nat} (minLength : Nat)
    {total : Nat} (size : (s.memory buffer).length = length) (within : total ≤ length) :
    RecvEnds s buffer total (recvLoop s buffer length minLength total) := by
  fun_induction recvLoop s buffer length minLength total with
  | case1 s total short s' failed =>
      have ends := recvPartial_calm calm buffer total (length - total)
      rw [failed] at ends
      have stopped : Stopped s s' := ends
      have dropped := stopped.dropped
      exact { stream := fun left _ => stopped.stream ⟨left.onlyWrites, left.collected⟩,
              owned := stopped.owned, buffers := stopped.buffers,
              clobbered := stopped.clobbered, dropped := by simp only [dropped, Nat.le_refl] }
  | case2 s total short s' closed =>
      have ends := recvPartial_calm calm buffer total (length - total)
      rw [closed] at ends
      have took : Took s buffer total ((s.memory buffer).length - total) 0 s' := by rwa [size]
      have unmoved := took.take_memory (size ▸ within)
      exact { calm := took.calm, grown := Nat.le_refl total, within := size ▸ within,
              available := by simp, incoming := by simp [took.incoming],
              bytes := by simpa using unmoved, buffers := took.buffers,
              clobbered := took.clobbered, dropped := took.dropped }
  | case3 s total short count s' read ih =>
      have ends := recvPartial_calm calm buffer total (length - total)
      rw [read] at ends
      have took : Took s buffer total ((s.memory buffer).length - total) (count + 1) s' := by
        rwa [size]
      have within' : total ≤ (s.memory buffer).length := size ▸ within
      have fits := took.within
      have size' := took.length_memory within'
      exact took.step within' (Nat.succ_pos count)
        (ih took.calm (size'.trans size) (by omega))
  | case4 s total enough => exact Received.refl calm (size ▸ within)

theorem recv_calm {s : BaseSock} (calm : Calm s) {buffer length : Nat}
    (size : (s.memory buffer).length = length) (minLength : Nat) :
    RecvEnds s buffer 0 (s.recv buffer length minLength) := by
  rw [recv]
  split
  · have started := recvLoop_calm (s := s.startRecvTimerInternal) ⟨calm.idle, calm.collected⟩
      minLength size (Nat.zero_le length)
    rcases ended : recvLoop s.startRecvTimerInternal buffer length minLength 0 with ⟨_ | count, s'⟩
    all_goals rw [ended] at started
    · have gaveUp : GaveUp s.startRecvTimerInternal 0 s' := started
      exact ⟨gaveUp.stream, gaveUp.owned, gaveUp.buffers, gaveUp.clobbered, gaveUp.dropped⟩
    · have received : Received s.startRecvTimerInternal buffer 0 count s' := started
      exact ⟨received.calm, received.grown, received.within, received.available, received.incoming,
        received.bytes, received.buffers, received.clobbered, received.dropped⟩
  · exact recvLoop_calm calm minLength size (Nat.zero_le length)

structure Handed (s : BaseSock) (length : Nat) (data : Bytes) (s' : BaseSock) : Prop where
  calm : Calm s'
  within : data.length ≤ length
  incoming : s.incoming = data ++ s'.incoming
  clobbered : s'.clobbered = s.clobbered
  dropped : s'.dropped = s.dropped

def ReceiveEnds (s : BaseSock) (length : Nat) : Option Bytes × BaseSock → Prop
  | (some data, s') => Handed s length data s'
  | (none, s') => GaveUp { s with buffers := s.buffers + 1 } 0 s'

theorem receive_calm {s : BaseSock} (calm : Calm s) (length minLength : Nat) :
    ReceiveEnds s length (s.receive length minLength) := by
  have size : ((s.allocate length).memory s.buffers).length = length := by simp [allocate]
  have ends := recv_calm (s := s.allocate length) ⟨calm.idle, calm.collected⟩ size minLength
  rw [receive]
  rcases ended : (s.allocate length).recv s.buffers length minLength with ⟨_ | count, s'⟩
  all_goals rw [ended] at ends
  · have gaveUp : GaveUp (s.allocate length) 0 s' := ends
    exact ⟨gaveUp.stream, gaveUp.owned, gaveUp.buffers, gaveUp.clobbered, gaveUp.dropped⟩
  · have received : Received (s.allocate length) s.buffers 0 count s' := ends
    have bytes : (s'.memory s.buffers).take count = s.incoming.take count := by
      simpa [allocate] using received.bytes
    have incoming : s'.incoming = s.incoming.drop count := received.incoming
    exact { calm := received.calm,
            within := by simpa [bytes] using .inl (size ▸ received.within),
            incoming := by rw [bytes, incoming, List.take_append_drop],
            clobbered := received.clobbered, dropped := received.dropped }

/-! ## Errors of a read -/

theorem start_completed {s : BaseSock} {answer : IoAnswer} {target : Target}
    (completed : (s.start answer target).1 = true) : (s.start answer target).2.1 = 0 := by
  unfold start at completed ⊢
  split at completed
  all_goals first | rfl | exact absurd completed nofun

theorem initialiseOs_sameReading {s : BaseSock} (writes : s.OnlyWrites) :
    SameReading s s.initialiseOs := by
  have none_read : s.outstanding.any (·.target.isRead) = false := by
    simpa [List.any_eq_false, OnlyWrites] using writes
  exact { SameReading.refl s with clobbered := by simp [initialiseOs, none_read] }

structure OnlySent (s s' : BaseSock) : Prop where
  same : SameReading s s'
  writes : s'.OnlyWrites

theorem OnlySent.trans {s₁ s₂ s₃ : BaseSock} (first : OnlySent s₁ s₂)
    (second : OnlySent s₂ s₃) : OnlySent s₁ s₃ := ⟨first.same.trans second.same, second.writes⟩

theorem OnlySent.with_error {s t : BaseSock} (sent : OnlySent s t) (error : Nat) :
    OnlySent s { t with lastError := error } :=
  ⟨{ sent.same with }, sent.writes⟩

theorem runTo_onlySent {s : BaseSock} (writes : s.OnlyWrites) (time : Nat) :
    OnlySent s (s.runTo time) where
  same := runTo_sameReading writes time
  writes := by
    intro operation member
    rw [runTo_outstanding] at member
    exact writes operation ((List.dropWhile_sublist _).subset member)

theorem start_onlySent {s : BaseSock} (writes : s.OnlyWrites) (answer : IoAnswer) (data : Bytes) :
    OnlySent s (s.start answer (.write data)).2.2 := by
  have now (result : IoResult) : OnlySent s (s.complete ⟨s.clock, result, .write data⟩) :=
    ⟨complete_write rfl, by rw [OnlyWrites, complete_outstanding]; exact writes⟩
  cases answer with
  | eventLost error => exact ⟨.refl s, writes⟩
  | refused error => exact ⟨.refl s, writes⟩
  | done delay result =>
      cases delay with
      | zero =>
          cases result with
          | failed error => exact ⟨.refl s, writes⟩
          | bytes count => exact now (.bytes count)
      | succ delay =>
          refine ⟨by constructor <;> rfl, ?_⟩
          intro operation member
          simp only [start, List.mem_append, List.mem_cons] at member
          rcases member with before | rfl | after
          · exact writes operation ((List.takeWhile_sublist _).subset before)
          · rfl
          · exact writes operation ((List.dropWhile_sublist _).subset after)

theorem overlappedResult_onlySent {s : BaseSock} (writes : s.OnlyWrites) :
    OnlySent s s.overlappedResult.2 := by
  rw [overlappedResult_snd, awaitPending]
  split
  · exact runTo_onlySent writes _
  · exact ⟨.refl s, writes⟩

theorem overlappedResult_idle {s : BaseSock} (idle : s.outstanding = []) :
    s.overlappedResult.2 = s := by
  rw [overlappedResult_snd, awaitPending, idle]
  cases s.os.status <;> rfl

theorem sendFailed_onlySent {s t : BaseSock} (sent : OnlySent s t) : OnlySent s t.sendFailed.2 := by
  rw [sendFailed]
  dsimp only
  split
  · exact ⟨{ sent.same with }, by simp [OnlyWrites, disconnect]⟩
  · exact sent

theorem collectWrite_onlySent {s t : BaseSock} (sent : OnlySent s t) : OnlySent s t.collectWrite.2 := by
  have settled := sent.trans (overlappedResult_onlySent sent.writes)
  rw [collectWrite]
  rcases ended : t.overlappedResult with ⟨error | count, t'⟩
  all_goals rw [ended] at settled
  · dsimp only
    split
    · exact settled
    · exact sendFailed_onlySent (settled.with_error _)
  · exact settled

theorem collectWrite_idle {s : BaseSock} (idle : s.outstanding = [])
    (success : s.collectWrite.1.isSome) : s.collectWrite.2.outstanding = [] := by
  have same := overlappedResult_idle idle
  rw [collectWrite] at success ⊢
  rcases ended : s.overlappedResult with ⟨error | count, t⟩
  all_goals rw [ended] at same success
  all_goals obtain rfl : t = s := same
  · dsimp only at success ⊢
    by_cases zero : error = 0
    · rw [if_pos zero]
      exact idle
    · simp [zero, sendFailed] at success
  · exact idle

theorem waits_onlySent {s t : BaseSock} (writes : s.OnlyWrites) (waits : Waits s t) : OnlySent s t := by
  have popped : OnlySent s { s with waits := s.waits.tail } := ⟨by constructor <;> rfl, writes⟩
  rcases waits with rfl | ⟨time, rfl⟩
  · exact popped
  · exact popped.trans (runTo_onlySent popped.writes time)

theorem awaitWrite_cases (s : BaseSock) (secondsLeft : Int) :
    (∃ time, s.signalTime false = some time ∧ awaitWrite s secondsLeft =
      collectWrite { { s with waits := s.waits.tail }.runTo time with lastError := 0 }) ∨
    ∃ t error, awaitWrite s secondsLeft = sendFailed { t with lastError := error } ∧ Waits s t := by
  rcases waitFor_cases s false (waitMilliseconds secondsLeft) with
    ⟨time, signal, event⟩ | ⟨waited, t, answered, missed, waits⟩
  · exact .inl ⟨time, signal, by rw [awaitWrite, event]⟩
  · rw [awaitWrite, answered]
    cases waited with
    | event => exact (missed rfl).elim
    | timeout => exact .inr ⟨t, _, rfl, waits⟩
    | failed error => exact .inr ⟨t, _, rfl, waits⟩
    | other => exact .inr ⟨t, t.lastError, rfl, waits⟩

theorem awaitWrite_onlySent {s : BaseSock} (writes : s.OnlyWrites) (secondsLeft : Int) :
    OnlySent s (s.awaitWrite secondsLeft).2 := by
  rcases awaitWrite_cases s secondsLeft with ⟨time, signal, event⟩ | ⟨t, error, failed, waits⟩
  · rw [event]
    exact collectWrite_onlySent ((waits_onlySent writes (.inr ⟨time, rfl⟩)).with_error 0)
  · rw [failed]
    exact sendFailed_onlySent ((waits_onlySent writes waits).with_error error)

structure Sending (s : BaseSock) : Prop where
  quiet : s.writeEvent = false
  few : s.outstanding = [] ∨ ∃ operation, s.outstanding = [operation]

theorem awaitWrite_idle {s : BaseSock} (sending : Sending s) {secondsLeft : Int}
    (success : (s.awaitWrite secondsLeft).1.isSome) :
    (s.awaitWrite secondsLeft).2.outstanding = [] := by
  rcases awaitWrite_cases s secondsLeft with ⟨time, signal, event⟩ | ⟨t, error, failed, waits⟩
  · rw [event] at success ⊢
    refine collectWrite_idle ?_ success
    rcases sending.few with idle | ⟨operation, alone⟩
    · simp [signalTime, sending.quiet, idle] at signal
    · rw [signalTime, sending.quiet, alone] at signal
      have at_due : operation.due = time := by
        cases kind : operation.target.isRead with
        | true => simp [kind] at signal
        | false => simpa [List.find?_cons, kind] using signal
      dsimp only
      rw [runTo_outstanding]
      simp [alone, at_due]
  · simp [failed, sendFailed] at success

theorem resetWriteEvent_cases (s : BaseSock) :
    (∃ error writes, s.resetWriteEvent = (some error, { s with writes := writes })) ∨
    s.resetWriteEvent = (none, { s with writeEvent := false }) := by
  unfold resetWriteEvent
  split
  · exact .inl ⟨_, s.writes, rfl⟩
  · split
    · exact .inl ⟨_, _, rfl⟩
    · exact .inr rfl

theorem wsaSend_onlySent {s : BaseSock} (writes : s.OnlyWrites) (data : Bytes) :
    OnlySent s (s.wsaSend data).2.2 := by
  have popped : OnlySent s { s with writes := s.writes.tail } := ⟨by constructor <;> rfl, writes⟩
  exact popped.trans (start_onlySent popped.writes _ _)

theorem wsaSend_idle {s : BaseSock} (idle : s.outstanding = []) (quiet : s.writeEvent = false)
    (data : Bytes) :
    ((s.wsaSend data).1 = true → (s.wsaSend data).2.2.outstanding = []) ∧
    ((s.wsaSend data).1 = false → Sending (s.wsaSend data).2.2) := by
  rcases start_idle (s := { s with writes := s.writes.tail }) idle
      (s.writes.headD (.done 0 (.bytes data.length))) (.write (data.take (ulong data.length))) with
    ⟨error, refused⟩ | ⟨result, ended⟩ | ⟨delay, result, pending⟩
  · rw [wsaSend, refused]
    exact ⟨nofun, fun _ => ⟨quiet, .inl idle⟩⟩
  · rw [wsaSend, ended]
    exact ⟨fun _ => by rw [complete_outstanding]; exact idle, nofun⟩
  · rw [wsaSend, pending]
    exact ⟨nofun, fun _ => ⟨quiet, .inr ⟨_, rfl⟩⟩⟩

theorem sendPartial_onlySent {s : BaseSock} (writes : s.OnlyWrites) (data : Bytes) :
    OnlySent s (s.sendPartial data).2 := by
  have initialised : OnlySent s s.initialiseOs := ⟨initialiseOs_sameReading writes, writes⟩
  rw [sendPartial]
  rcases resetWriteEvent_cases s.initialiseOs with ⟨error, rest, reset⟩ | reset
  · rw [reset]
    exact ⟨{ initialised.same with }, writes⟩
  · rw [reset]
    have armed : OnlySent s { s.initialiseOs with writeEvent := false } :=
      ⟨{ initialised.same with }, writes⟩
    have sent := armed.trans (wsaSend_onlySent armed.writes data)
    dsimp only
    generalize BaseSock.wsaSend { s.initialiseOs with writeEvent := false } data = answer at sent ⊢
    rcases answer with ⟨completed, error, t⟩
    have failed := sent.with_error error
    dsimp only
    split
    · exact sent.with_error _
    · split
      · exact collectWrite_onlySent failed
      · split
        · exact failed.trans (awaitWrite_onlySent failed.writes _)
        · exact sendFailed_onlySent failed

theorem sendPartial_idle {s : BaseSock} (idle : s.outstanding = []) (data : Bytes)
    (success : (s.sendPartial data).1.isSome) : (s.sendPartial data).2.outstanding = [] := by
  rw [sendPartial, initialiseOs_idle idle] at success ⊢
  rcases resetWriteEvent_cases { s with os := {} } with ⟨error, rest, reset⟩ | reset
  · simp [reset] at success
  · rw [reset] at success ⊢
    have started := wsaSend_idle (s := { s with os := {}, writeEvent := false }) idle rfl data
    dsimp only at success ⊢
    generalize BaseSock.wsaSend { s with os := {}, writeEvent := false } data = answer at *
    rcases answer with ⟨completed, error, t⟩
    dsimp only at started success ⊢
    by_cases late : (t.sendEndTime : Int) - t.seconds ≤ 0
    · simp [late] at success
    · rw [if_neg late] at success ⊢
      cases completed with
      | true => exact collectWrite_idle (started.1 rfl) success
      | false =>
          have sending := started.2 rfl
          rw [if_neg Bool.false_ne_true] at success ⊢
          by_cases pending : error = wsaIoPending
          · rw [if_pos pending] at success ⊢
            have waiting : Sending { t with lastError := error } := ⟨sending.quiet, sending.few⟩
            exact awaitWrite_idle waiting success
          · simp [pending, sendFailed] at success

theorem sendLoop_onlySent {s : BaseSock} (writes : s.OnlyWrites) (data : Bytes) (total : Nat) :
    OnlySent s (s.sendLoop data total).2 := by
  fun_induction sendLoop s data total with
  | case1 s total more s' failed =>
      have sent := sendPartial_onlySent writes (data.drop total)
      rwa [failed] at sent
  | case2 s total more s' closed =>
      have sent := sendPartial_onlySent writes (data.drop total)
      rwa [closed] at sent
  | case3 s total more count s' part ih =>
      have sent := sendPartial_onlySent writes (data.drop total)
      rw [part] at sent
      exact sent.trans (ih sent.writes)
  | case4 s total done => exact ⟨.refl s, writes⟩

theorem sendLoop_idle {s : BaseSock} (idle : s.outstanding = []) {data : Bytes} {total : Nat}
    (success : (s.sendLoop data total).1.isSome) : (s.sendLoop data total).2.outstanding = [] := by
  fun_induction sendLoop s data total with
  | case1 s total more s' failed => simp at success
  | case2 s total more s' closed =>
      have settled := sendPartial_idle idle (data.drop total)
      rw [closed] at settled
      exact settled rfl
  | case3 s total more count s' part ih =>
      have settled := sendPartial_idle idle (data.drop total)
      rw [part] at settled
      exact ih (settled rfl) success
  | case4 s total done => exact idle

theorem send_onlySent {s : BaseSock} (writes : s.OnlyWrites) (data : Bytes) :
    OnlySent s (s.send data).2 := by
  rw [send]
  split
  · have timed : OnlySent s s.startSendTimerInternal := ⟨by constructor <;> rfl, writes⟩
    exact timed.trans (sendLoop_onlySent timed.writes data 0)
  · exact sendLoop_onlySent writes data 0

theorem send_calm {s : BaseSock} (calm : Calm s) (data : Bytes) (success : (s.send data).1.isSome) :
    Calm (s.send data).2 where
  idle := by
    rw [send] at success ⊢
    split at success
    · rename_i automatic
      rw [if_pos automatic]
      exact sendLoop_idle (s := s.startSendTimerInternal) calm.idle success
    · rename_i manual
      rw [if_neg manual]
      exact sendLoop_idle calm.idle success
  collected := (send_onlySent calm.noReadLeft.onlyWrites data).same.recvInitiated.trans calm.collected

end LuaXENetwork.BaseSock
