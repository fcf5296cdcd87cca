import LuaXENetwork.Proof.Socket.BaseSock

/-! A connection on which every read and every write gets somewhere, in time. -/

namespace LuaXENetwork

def IoAnswer.delay : IoAnswer → Nat
  | .done delay _ => delay
  | _ => 0

def IoAnswer.Brings (answer : IoAnswer) : Prop :=
  ∃ delay count, answer = .done delay (.bytes (count + 1))

namespace BaseSock

/-- Open and idle, with answers that bring bytes, however they cut the streams. -/
structure Flowing (s : BaseSock) : Prop where
  isOpen : s.isOpen = true
  idle : s.outstanding = []
  reads : ∀ answer ∈ s.reads, answer.Brings
  writes : ∀ answer ∈ s.writes, answer.Brings
  waits : ∀ answer ∈ s.waits, answer = .usual

/-- When the last of the answers has come. -/
def horizon (s : BaseSock) : Nat :=
  s.clock + (s.reads.map IoAnswer.delay).sum + (s.writes.map IoAnswer.delay).sum

structure Passes (s s' : BaseSock) : Prop where
  flowing : Flowing s'
  horizon : s'.horizon = s.horizon
  clock : s.clock ≤ s'.clock

structure Flows (s s' : BaseSock) : Prop extends Passes s s' where
  recvEndTime : s'.recvEndTime = s.recvEndTime
  sendEndTime : s'.sendEndTime = s.sendEndTime

theorem Passes.trans {s₁ s₂ s₃ : BaseSock} (first : Passes s₁ s₂) (second : Passes s₂ s₃) :
    Passes s₁ s₃ where
  flowing := second.flowing
  horizon := second.horizon.trans first.horizon
  clock := first.clock.trans second.clock

theorem Flows.refl {s : BaseSock} (flowing : Flowing s) : Flows s s :=
  ⟨⟨flowing, rfl, Nat.le_refl _⟩, rfl, rfl⟩

theorem Flows.trans {s₁ s₂ s₃ : BaseSock} (first : Flows s₁ s₂) (second : Flows s₂ s₃) :
    Flows s₁ s₃ where
  toPasses := first.toPasses.trans second.toPasses
  recvEndTime := second.recvEndTime.trans first.recvEndTime
  sendEndTime := second.sendEndTime.trans first.sendEndTime

/-- The timer that ends then does not run out, and its waits fit a `DWORD`. -/
def Ample (s : BaseSock) (endTime : Nat) : Prop :=
  s.horizon < 1000 * endTime ∧ endTime ≤ s.seconds + 4294967

theorem Ample.passes {s s' : BaseSock} {endTime : Nat} (ample : Ample s endTime) (passes : Passes s s') :
    Ample s' endTime := by
  have later : s.seconds ≤ s'.seconds := Nat.div_le_div_right passes.clock
  exact ⟨passes.horizon ▸ ample.1, ample.2.trans (Nat.add_le_add_right later _)⟩

theorem Ample.clock {s : BaseSock} {endTime : Nat} (ample : Ample s endTime) :
    0 < (endTime : Int) - s.seconds := by
  have early := ample.1
  simp only [horizon, seconds] at *
  omega

theorem Ample.wait {s : BaseSock} {endTime delay : Nat} (ample : Ample s endTime)
    (within : s.clock + delay ≤ s.horizon) :
    s.clock + delay ≤ s.clock + waitMilliseconds (endTime - s.seconds) := by
  obtain ⟨early, near⟩ := ample
  have few : ((endTime : Int) - s.seconds).toNat = endTime - s.seconds := by omega
  rw [waitMilliseconds, few]
  simp only [ulong, seconds] at *
  omega

theorem Flowing.usual {s : BaseSock} (flowing : Flowing s) : s.waits.headD .usual = .usual := by
  cases waits : s.waits with
  | nil => rfl
  | cons wait rest => exact flowing.waits wait (by simp [waits])

theorem Flowing.waits_tail {s : BaseSock} (flowing : Flowing s) :
    ∀ answer ∈ s.waits.tail, answer = .usual :=
  fun answer member => flowing.waits answer (List.mem_of_mem_tail member)

theorem brings_headD {answers : List IoAnswer} (brings : ∀ answer ∈ answers, answer.Brings)
    {count : Nat} (positive : 0 < count) :
    ∃ delay more, answers.headD (.done 0 (.bytes count)) = .done delay (.bytes (more + 1)) ∧
      delay + (answers.tail.map IoAnswer.delay).sum = (answers.map IoAnswer.delay).sum := by
  cases answers with
  | nil =>
      obtain ⟨more, rfl⟩ := Nat.exists_eq_succ_of_ne_zero positive.ne'
      exact ⟨0, more, rfl, rfl⟩
  | cons answer rest =>
      obtain ⟨delay, more, rfl⟩ := brings answer List.mem_cons_self
      exact ⟨delay, more, rfl, rfl⟩

theorem resetReadEvent_flowing {s : BaseSock} (flowing : Flowing s) :
    s.resetReadEvent = (none, { s with readEvent := false }) := by
  have opened := flowing.isOpen
  have brings := flowing.reads
  rw [resetReadEvent]
  rcases reads : s.reads with _ | ⟨answer, rest⟩
  · simp [opened]
  · obtain ⟨delay, count, rfl⟩ := brings answer (by simp [reads])
    simp [opened]

theorem resetWriteEvent_flowing {s : BaseSock} (flowing : Flowing s) :
    s.resetWriteEvent = (none, { s with writeEvent := false }) := by
  have opened := flowing.isOpen
  have brings := flowing.writes
  rw [resetWriteEvent]
  rcases writes : s.writes with _ | ⟨answer, rest⟩
  · simp [opened]
  · obtain ⟨delay, count, rfl⟩ := brings answer (by simp [writes])
    simp [opened]

theorem waitFor_due {s : BaseSock} {delay milliseconds : Nat} {result : IoResult} {target : Target}
    {isRead : Bool} (kind : target.isRead = isRead) (opened : s.isOpen = true)
    (usual : s.waits.headD .usual = .usual)
    (alone : s.outstanding = [⟨s.clock + delay, result, target⟩])
    (quiet : (if isRead then s.readEvent else s.writeEvent) = false)
    (soon : s.clock + delay ≤ s.clock + milliseconds) :
    s.waitFor isRead milliseconds = (.event, { s with
      waits := s.waits.tail
      clock := s.clock + delay
      outstanding := [] }.complete ⟨s.clock + delay, result, target⟩) := by
  have signal : s.signalTime isRead = some (s.clock + delay) := by
    simp [signalTime, quiet, alone, kind]
  have shut : ¬ (!s.isOpen) = true := by simp [opened]
  rw [waitFor, if_neg shut, signal, usual]
  dsimp only
  rw [if_pos soon, runTo_due (s := { s with waits := s.waits.tail }) alone (Nat.le_refl _),
    Nat.max_eq_right (Nat.le_add_right s.clock delay)]

/-! ## Reading -/

theorem collectRead_flows {s t : BaseSock} (flows : Flows s t) (more : t.incoming ≠ []) {length : Nat}
    (room : 0 < length) (due buffer offset error count : Nat) :
    ∃ taken s', collectRead { t.complete ⟨due, .bytes (count + 1), .read buffer offset length⟩ with
      lastError := error } = (some (taken + 1), s') ∧ Flows s s' := by
  have available : 0 < t.incoming.length := List.length_pos_iff.mpr more
  have positive : (t.taken length (.bytes (count + 1))).length ≠ 0 := by
    simp only [taken, List.length_take]
    omega
  obtain ⟨taken, brought⟩ := Nat.exists_eq_succ_of_ne_zero positive
  rw [complete_read, collectRead, overlappedResult_success rfl, brought]
  exact ⟨taken, _, rfl, { flows with flowing := { flows.flowing with } }⟩

theorem awaitRead_flows {s t : BaseSock} {delay buffer offset length count : Nat} {secondsLeft : Int}
    (alone : t.outstanding = [⟨t.clock + delay, .bytes (count + 1), .read buffer offset length⟩])
    (opened : t.isOpen = true) (usual : t.waits.headD .usual = .usual) (quiet : t.readEvent = false)
    (soon : t.clock + delay ≤ t.clock + waitMilliseconds secondsLeft)
    (flows : Flows s { t with waits := t.waits.tail, clock := t.clock + delay, outstanding := [] })
    (more : t.incoming ≠ []) (room : 0 < length) :
    ∃ taken s', awaitRead t secondsLeft = (some (taken + 1), s') ∧ Flows s s' := by
  have is_read : (Target.read buffer offset length).isRead = true := rfl
  rw [awaitRead, waitFor_due is_read opened usual alone quiet soon]
  exact collectRead_flows flows more room _ buffer offset 0 count

section Read

variable {s : BaseSock} (flowing : Flowing s)
include flowing

theorem Flowing.popRead {delay : Nat} {waits : List WaitAnswer}
    (later : delay + (s.reads.tail.map IoAnswer.delay).sum = (s.reads.map IoAnswer.delay).sum)
    (usual : ∀ answer ∈ waits, answer = .usual) :
    Flows s { s with clock := s.clock + delay, reads := s.reads.tail, waits := waits } where
  flowing := ⟨flowing.isOpen, flowing.idle,
    fun answer member => flowing.reads answer (List.mem_of_mem_tail member), flowing.writes, usual⟩
  horizon := by
    simp only [BaseSock.horizon]
    omega
  clock := Nat.le_add_right _ _
  recvEndTime := rfl
  sendEndTime := rfl

theorem armedRead_flowing (ample : Ample s s.recvEndTime) (quiet : s.readEvent = false) {length : Nat}
    (room : 0 < ulong length) (more : s.incoming ≠ []) (buffer offset : Nat) :
    ∃ count s', (match wsaRecv s buffer offset length with
      | (completed, error, t) =>
          if completed then collectRead { t with lastError := error }
          else if error = wsaIoPending then
            awaitRead { t with lastError := error } (s.recvEndTime - s.seconds)
          else (none, { t with lastError := error })) = (some (count + 1), s') ∧ Flows s s' := by
  have available : 0 < s.incoming.length := List.length_pos_iff.mpr more
  obtain ⟨delay, count, answer, later⟩ := brings_headD flowing.reads available
  rw [wsaRecv, answer]
  cases delay with
  | zero =>
      have popped := flowing.popRead later flowing.waits
      exact collectRead_flows popped more room s.clock buffer offset 0 count
  | succ delay =>
      have popped := flowing.popRead later flowing.waits_tail
      have in_time : s.clock + (delay + 1) ≤ s.clock +
          waitMilliseconds (s.recvEndTime - s.seconds) := by
        refine ample.wait ?_
        have reached := popped.horizon
        simp only [BaseSock.horizon] at reached ⊢
        omega
      have pending : BaseSock.start { s with reads := s.reads.tail }
          (.done (delay + 1) (.bytes (count + 1))) (.read buffer offset (ulong length)) =
          (false, wsaIoPending, { s with
            reads := s.reads.tail
            os := ⟨.pending, 0⟩
            outstanding := [⟨s.clock + (delay + 1), .bytes (count + 1),
              .read buffer offset (ulong length)⟩] }) := by
        simp [start, flowing.idle]
      rw [pending]
      exact awaitRead_flows (t := { s with
        lastError := wsaIoPending
        os := ⟨.pending, 0⟩
        reads := s.reads.tail
        outstanding := [⟨s.clock + (delay + 1), .bytes (count + 1),
          .read buffer offset (ulong length)⟩] }) rfl flowing.isOpen flowing.usual quiet in_time
        { popped with flowing := { popped.flowing with idle := rfl } } more room

theorem startRead_flowing (ample : Ample s s.recvEndTime) {length : Nat}
    (room : 0 < ulong length) (more : s.incoming ≠ []) (buffer offset : Nat) :
    ∃ count s', startRead s buffer offset length (s.recvEndTime - s.seconds) = (some (count + 1), s') ∧
      Flows s s' := by
  have clear : Flowing { s with os := {} } := { flowing with }
  rw [startRead, initialiseOs_idle flowing.idle, resetReadEvent_flowing clear]
  obtain ⟨count, s', read, flows⟩ := armedRead_flowing
    (s := { s with os := {}, readEvent := false, recvInitiated := true }) { flowing with }
    ample rfl room more buffer offset
  exact ⟨count, s', read, { flows with }⟩

theorem recvPartial_flowing (collected : s.recvInitiated = false) (ample : Ample s s.recvEndTime)
    {length : Nat} (room : 0 < ulong length) (more : s.incoming ≠ []) (buffer offset : Nat) :
    ∃ count s', recvPartial s buffer offset length = (some (count + 1), s') ∧ Flows s s' := by
  rw [recvPartial, collected]
  rw [if_neg (not_le.mpr ample.clock), if_neg Bool.false_ne_true]
  exact startRead_flowing flowing ample room more buffer offset

end Read

theorem recvLoop_flowing {s : BaseSock} (flowing : Flowing s) (collected : s.recvInitiated = false)
    (ample : Ample s s.recvEndTime) (buffer : Nat) {length total : Nat} (small : length < 2 ^ 32)
    (size : (s.memory buffer).length = length) (within : total ≤ length)
    (available : length - total ≤ s.incoming.length) :
    ∃ s', recvLoop s buffer length length total = (some length, s') ∧ Flows s s' := by
  induction left : length - total using Nat.strongRecOn generalizing s total with
  | ind left ih =>
      rw [recvLoop]
      by_cases short : total < length
      · have room : 0 < ulong (length - total) := by
          rw [ulong, Nat.mod_eq_of_lt (by omega)]
          omega
        have more : s.incoming ≠ [] := by
          rw [← List.length_pos_iff]
          omega
        obtain ⟨count, s₁, read, flows⟩ :=
          recvPartial_flowing flowing collected ample room more buffer total
        have ends := recvPartial_calm ⟨flowing.idle, collected⟩ buffer total (length - total)
        rw [read] at ends
        have took : Took s buffer total ((s.memory buffer).length - total) (count + 1) s₁ := by
          rwa [size]
        have fits := took.within
        have rest : s₁.incoming.length = s.incoming.length - (count + 1) := by simp [took.incoming]
        have size₁ := took.length_memory (size ▸ within)
        have ample₁ : Ample s₁ s₁.recvEndTime := by
          rw [flows.recvEndTime]
          exact ample.passes flows.toPasses
        obtain ⟨s', loop, later⟩ := ih (length - (total + (count + 1))) (by omega) flows.flowing
          took.calm.collected ample₁ (size₁.trans size) (by omega) (by omega) rfl
        rw [if_pos short, read]
        exact ⟨s', loop, flows.trans later⟩
      · obtain rfl : total = length := by omega
        rw [if_neg short]
        exact ⟨s, rfl, .refl flowing⟩

theorem receive_flowing {s : BaseSock} (flowing : Flowing s) (calm : Calm s)
    (automatic : s.recvTimerAutomatic = true)
    (ample : Ample s (ulong (s.seconds + s.recvTimeoutSeconds))) {length : Nat}
    (small : length < 2 ^ 32) (available : length ≤ s.incoming.length) :
    ∃ s', s.receive length length = (some (s.incoming.take length), s') ∧ Passes s s' ∧ Calm s' ∧
      s'.incoming = s.incoming.drop length := by
  have size : ((s.allocate length).memory s.buffers).length = length := by simp [allocate]
  obtain ⟨s', loop, flows⟩ := recvLoop_flowing (s := (s.allocate length).startRecvTimerInternal)
    { flowing with } calm.collected ample s.buffers small size (Nat.zero_le _)
    (by rwa [Nat.sub_zero])
  have received : (s.allocate length).recv s.buffers length length = (some length, s') := by
    have set : (s.allocate length).recvTimerAutomatic = true := automatic
    rw [recv, set, if_pos rfl, loop]
  have ends := recv_calm (s := s.allocate length) ⟨calm.idle, calm.collected⟩ size length
  rw [received] at ends
  have moved : Received (s.allocate length) s.buffers 0 length s' := ends
  refine ⟨s', ?_, { flows.toPasses with }, moved.calm, moved.incoming⟩
  rw [receive, received]
  have bytes := moved.bytes
  rw [List.take_zero, List.nil_append] at bytes
  exact congrArg (fun data => (some data, s')) bytes

/-! ## Writing -/

def Accepted (s : BaseSock) (data : Bytes) (result : Option Nat × BaseSock) : Prop :=
  ∃ count s', result = (some (count + 1), s') ∧ count + 1 ≤ data.length ∧ Flows s s'

theorem collectWrite_flows {s t : BaseSock} (flows : Flows s t) {data : Bytes} (more : data ≠ [])
    (due error count : Nat) :
    Accepted s data (collectWrite { t.complete ⟨due, .bytes (count + 1), .write data⟩ with
      lastError := error }) := by
  have available : 0 < data.length := List.length_pos_iff.mpr more
  have positive : (data.take (count + 1)).length ≠ 0 := by
    rw [List.length_take]
    omega
  obtain ⟨taken, brought⟩ := Nat.exists_eq_succ_of_ne_zero positive
  have within : taken + 1 ≤ data.length := brought.symm.le.trans (List.length_take_le' _ _)
  rw [complete, collectWrite, overlappedResult_success rfl]
  dsimp only
  rw [brought]
  exact ⟨taken, _, rfl, within, { flows with flowing := { flows.flowing with } }⟩

theorem awaitWrite_flows {s t : BaseSock} {delay count : Nat} {data : Bytes} {secondsLeft : Int}
    (alone : t.outstanding = [⟨t.clock + delay, .bytes (count + 1), .write data⟩])
    (opened : t.isOpen = true) (usual : t.waits.headD .usual = .usual) (quiet : t.writeEvent = false)
    (soon : t.clock + delay ≤ t.clock + waitMilliseconds secondsLeft)
    (flows : Flows s { t with waits := t.waits.tail, clock := t.clock + delay, outstanding := [] })
    (more : data ≠ []) :
    Accepted s data (awaitWrite t secondsLeft) := by
  have is_write : (Target.write data).isRead = false := rfl
  rw [awaitWrite, waitFor_due is_write opened usual alone quiet soon]
  exact collectWrite_flows flows more _ 0 count

theorem settleWrite_flowing {s t : BaseSock} {secondsLeft : Int} (left : 0 < secondsLeft)
    {completed : Bool} {error : Nat} {data : Bytes}
    (done : completed = true → Accepted s data (collectWrite { t with lastError := error }))
    (pending : completed = false → error = wsaIoPending ∧
      Accepted s data (awaitWrite { t with lastError := error } secondsLeft)) :
    Accepted s data (if secondsLeft ≤ 0 then (none, { t with lastError := errorTimeout })
      else if completed then collectWrite { t with lastError := error }
      else if error = wsaIoPending then awaitWrite { t with lastError := error } secondsLeft
      else sendFailed { t with lastError := error }) := by
  rw [if_neg (not_le.mpr left)]
  cases completed with
  | true => exact done rfl
  | false =>
      obtain ⟨waiting, awaited⟩ := pending rfl
      rw [if_neg Bool.false_ne_true, if_pos waiting]
      exact awaited

section Write

variable {s : BaseSock} (flowing : Flowing s)
include flowing

theorem Flowing.popWrite {delay : Nat} {waits : List WaitAnswer}
    (later : delay + (s.writes.tail.map IoAnswer.delay).sum = (s.writes.map IoAnswer.delay).sum)
    (usual : ∀ answer ∈ waits, answer = .usual) :
    Flows s { s with clock := s.clock + delay, writes := s.writes.tail, waits := waits } where
  flowing := ⟨flowing.isOpen, flowing.idle, flowing.reads,
    fun answer member => flowing.writes answer (List.mem_of_mem_tail member), usual⟩
  horizon := by
    simp only [BaseSock.horizon]
    omega
  clock := Nat.le_add_right _ _
  recvEndTime := rfl
  sendEndTime := rfl

theorem armedWrite_flowing (ample : Ample s s.sendEndTime) (quiet : s.writeEvent = false)
    {data : Bytes} (more : data ≠ []) (small : data.length < 2 ^ 32) :
    Accepted s data (match wsaSend s data with
      | (completed, error, t) =>
          let secondsLeft : Int := t.sendEndTime - t.seconds
          if secondsLeft ≤ 0 then (none, { t with lastError := errorTimeout })
          else if completed then collectWrite { t with lastError := error }
          else if error = wsaIoPending then awaitWrite { t with lastError := error } secondsLeft
          else sendFailed { t with lastError := error }) := by
  have available : 0 < data.length := List.length_pos_iff.mpr more
  obtain ⟨delay, count, answer, later⟩ := brings_headD flowing.writes available
  have whole : data.take (ulong data.length) = data := by
    rw [ulong, Nat.mod_eq_of_lt small, List.take_length]
  rw [wsaSend, answer, whole]
  cases delay with
  | zero =>
      have popped := flowing.popWrite later flowing.waits
      have left := ample.clock
      refine settleWrite_flowing left (fun _ => ?_) (by simp)
      exact collectWrite_flows popped more s.clock 0 count
  | succ delay =>
      have popped := flowing.popWrite later flowing.waits_tail
      have in_time : s.clock + (delay + 1) ≤ s.clock +
          waitMilliseconds (s.sendEndTime - s.seconds) := by
        refine ample.wait ?_
        have reached := popped.horizon
        simp only [BaseSock.horizon] at reached ⊢
        omega
      have pending : BaseSock.start { s with writes := s.writes.tail }
          (.done (delay + 1) (.bytes (count + 1))) (.write data) =
          (false, wsaIoPending, { s with
            writes := s.writes.tail
            os := ⟨.pending, 0⟩
            outstanding := [⟨s.clock + (delay + 1), .bytes (count + 1), .write data⟩] }) := by
        simp [start, flowing.idle]
      rw [pending]
      refine settleWrite_flowing ample.clock (by simp) (fun _ => ⟨rfl, ?_⟩)
      exact awaitWrite_flows (t := { s with
        lastError := wsaIoPending
        os := ⟨.pending, 0⟩
        writes := s.writes.tail
        outstanding := [⟨s.clock + (delay + 1), .bytes (count + 1), .write data⟩] })
        rfl flowing.isOpen flowing.usual quiet in_time
        { popped with flowing := { popped.flowing with idle := rfl } } more

theorem sendPartial_flowing (ample : Ample s s.sendEndTime) {data : Bytes} (more : data ≠ [])
    (small : data.length < 2 ^ 32) : Accepted s data (s.sendPartial data) := by
  have clear : Flowing { s with os := {} } := { flowing with }
  rw [sendPartial, initialiseOs_idle flowing.idle, resetWriteEvent_flowing clear]
  obtain ⟨count, s', written, within, flows⟩ := armedWrite_flowing
    (s := { s with os := {}, writeEvent := false }) { flowing with } ample rfl more small
  exact ⟨count, s', written, within, { flows with }⟩

end Write

theorem sendLoop_flowing {s : BaseSock} (flowing : Flowing s) (ample : Ample s s.sendEndTime)
    {data : Bytes} (small : data.length < 2 ^ 32) {total : Nat} (within : total ≤ data.length) :
    ∃ s', sendLoop s data total = (some data.length, s') ∧ Flows s s' := by
  induction left : data.length - total using Nat.strongRecOn generalizing s total with
  | ind left ih =>
      rw [sendLoop]
      by_cases short : total < data.length
      · have length_rest : (data.drop total).length = data.length - total := by simp
        have more : data.drop total ≠ [] := by
          rw [← List.length_pos_iff]
          omega
        obtain ⟨count, s₁, written, fits, flows⟩ := sendPartial_flowing flowing ample more (by omega)
        have ample₁ : Ample s₁ s₁.sendEndTime := by
          rw [flows.sendEndTime]
          exact ample.passes flows.toPasses
        obtain ⟨s', loop, later⟩ := ih (data.length - (total + (count + 1))) (by omega) flows.flowing
          ample₁ (by omega) rfl
        rw [if_pos short, written]
        exact ⟨s', loop, flows.trans later⟩
      · obtain rfl : total = data.length := by omega
        rw [if_neg short]
        exact ⟨s, rfl, .refl flowing⟩

theorem send_flowing {s : BaseSock} (flowing : Flowing s) (calm : Calm s)
    (automatic : s.sendTimerAutomatic = true)
    (ample : Ample s (ulong (s.seconds + s.sendTimeoutSeconds))) {data : Bytes}
    (small : data.length < 2 ^ 32) :
    ∃ s', s.send data = (some data.length, s') ∧ Passes s s' ∧ Calm s' ∧ s'.incoming = s.incoming := by
  obtain ⟨s', loop, flows⟩ := sendLoop_flowing (s := s.startSendTimerInternal) { flowing with }
    ample small (Nat.zero_le _)
  have written : s.send data = (some data.length, s') := by
    rw [send, automatic, if_pos rfl, loop]
  have settled := send_calm calm data (by rw [written]; rfl)
  have same := (send_onlySent calm.noReadLeft.onlyWrites data).same.incoming
  rw [written] at settled same
  exact ⟨s', written, { flows.toPasses with }, settled, same⟩

end BaseSock

end LuaXENetwork
