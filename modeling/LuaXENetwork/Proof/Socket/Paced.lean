import LuaXENetwork.Proof.Socket.Flowing

/-! A connection that brings its bytes one by one: some at once, and then one each second. -/

namespace LuaXENetwork.BaseSock

variable {s : BaseSock}

section Byte

variable {delay : Nat} {later : List IoAnswer} {byte : UInt8} {rest : Bytes}
  (opened : s.isOpen = true) (usual : s.waits = []) (answers : s.reads = .done delay (.bytes 1) :: later)
  (incoming : s.incoming = byte :: rest) (soon : delay ≤ waitMilliseconds (s.recvEndTime - s.seconds))
  (buffer offset : Nat) {length : Nat} (room : 0 < ulong length)
include opened usual answers incoming soon room

theorem armedRead_byte (idle : s.outstanding = []) (quiet : s.readEvent = false) :
    (match wsaRecv s buffer offset length with
      | (completed, error, t) =>
          if completed then collectRead { t with lastError := error }
          else if error = wsaIoPending then
            awaitRead { t with lastError := error } (s.recvEndTime - s.seconds)
          else (none, { t with lastError := error })) = (some 1, { s with
      clock := s.clock + delay
      incoming := rest
      reads := later
      memory := Function.update s.memory buffer (overwrite (s.memory buffer) offset [byte])
      os := ⟨.success, 1⟩
      readEvent := true
      recvInitiated := false
      lastError := 0 }) := by
  have taken : List.take (min 1 (ulong length)) (byte :: rest) = [byte] := by
    rw [Nat.min_eq_left room, List.take_succ_cons, List.take_zero]
  rw [wsaRecv, answers]
  cases delay with
  | zero => simp [start, complete, collectRead, overlappedResult, awaitPending, incoming, taken]
  | succ delay =>
      have pending : BaseSock.start { s with reads := later }
          (.done (delay + 1) (.bytes 1)) (.read buffer offset (ulong length)) =
          (false, wsaIoPending, { s with
            reads := later
            os := ⟨.pending, 0⟩
            outstanding := [⟨s.clock + (delay + 1), .bytes 1, .read buffer offset (ulong length)⟩] }) := by
        simp [start, idle]
      have in_time := Nat.add_le_add_left soon s.clock
      have is_read : (Target.read buffer offset (ulong length)).isRead = true := rfl
      dsimp only [List.headD_cons, List.tail_cons]
      rw [pending]
      dsimp only
      rw [if_neg Bool.false_ne_true, if_pos rfl, awaitRead, waitFor_due (s := { s with
        lastError := wsaIoPending
        reads := later
        os := ⟨.pending, 0⟩
        outstanding := [⟨s.clock + (delay + 1), .bytes 1, .read buffer offset (ulong length)⟩] })
        is_read opened (by rw [usual, List.headD_nil]) rfl quiet in_time]
      simp [complete, collectRead, overlappedResult, awaitPending, incoming, taken, usual, idle]

/-- A read that brings one byte, after a delay that is not longer than the timer. -/
theorem recvPartial_byte (calm : Calm s) (left : 0 < (s.recvEndTime : Int) - s.seconds) :
    recvPartial s buffer offset length = (some 1, { s with
      clock := s.clock + delay
      incoming := rest
      reads := later
      memory := Function.update s.memory buffer (overwrite (s.memory buffer) offset [byte])
      os := ⟨.success, 1⟩
      readEvent := true
      lastError := 0 }) := by
  have kept : BaseSock.resetReadEvent { s with os := {} } = (none, { s with os := {}, readEvent := false }) := by
    simp [resetReadEvent, opened, answers]
  rw [recvPartial, calm.collected, if_neg (not_le.mpr left), if_neg Bool.false_ne_true, startRead,
    initialiseOs_idle calm.idle, kept]
  exact armedRead_byte (s := { s with os := {}, readEvent := false, recvInitiated := true })
    opened usual answers incoming soon buffer offset room calm.idle rfl

end Byte

/-- A read that is not answered before its timer runs out. -/
theorem recvPartial_overdue (opened : s.isOpen = true) (usual : s.waits = []) {delay : Nat}
    {result : IoResult} {later : List IoAnswer} (answers : s.reads = .done delay result :: later)
    (calm : Calm s) (left : 0 < (s.recvEndTime : Int) - s.seconds)
    (overdue : waitMilliseconds (s.recvEndTime - s.seconds) < delay) (buffer offset length : Nat) :
    (recvPartial s buffer offset length).1 = none ∧
      (recvPartial s buffer offset length).2.clock =
        s.clock + waitMilliseconds (s.recvEndTime - s.seconds) := by
  obtain ⟨delay, rfl⟩ := Nat.exists_eq_succ_of_ne_zero (by omega : delay ≠ 0)
  have kept : BaseSock.resetReadEvent { s with os := {} } = (none, { s with os := {}, readEvent := false }) := by
    simp [resetReadEvent, opened, answers]
  have late : ¬ s.clock + (delay + 1) ≤ s.clock + waitMilliseconds (s.recvEndTime - s.seconds) := by omega
  have none_due : ¬ delay + 1 ≤ waitMilliseconds (s.recvEndTime - s.seconds) := by omega
  have idle := calm.idle
  rw [recvPartial, calm.collected, if_neg (not_le.mpr left), if_neg Bool.false_ne_true, startRead,
    initialiseOs_idle calm.idle, kept]
  dsimp only
  rw [wsaRecv]
  dsimp only
  rw [answers]
  constructor
  · simp [BaseSock.start, idle, awaitRead, waitFor, opened, usual, signalTime, Target.isRead, none_due]
  · simp [BaseSock.start, idle, awaitRead, waitFor, opened, usual, signalTime, Target.isRead, none_due, runTo]

/-- A write that is taken whole at once. -/
theorem sendPartial_whole (idle : s.outstanding = []) (opened : s.isOpen = true) (free : s.writes = [])
    (left : 0 < (s.sendEndTime : Int) - s.seconds) {data : Bytes} (small : data.length < 2 ^ 32) :
    sendPartial s data = (some data.length, { s with
      sent := s.sent ++ data
      os := ⟨.success, data.length⟩
      writeEvent := true
      lastError := 0 }) := by
  have kept : BaseSock.resetWriteEvent { s with os := {} } =
      (none, { s with os := {}, writeEvent := false }) := by
    simp [resetWriteEvent, opened, free]
  have whole : data.take (ulong data.length) = data := by
    rw [ulong, Nat.mod_eq_of_lt small, List.take_length]
  rw [sendPartial, initialiseOs_idle idle, kept]
  dsimp only
  rw [wsaSend, whole]
  dsimp only
  rw [free]
  have later : (s.clock : Int) / 1000 < s.sendEndTime := by
    simp only [BaseSock.seconds] at left
    omega
  simp [start, complete, BaseSock.seconds, later, collectWrite, overlappedResult, awaitPending]

theorem sendLoop_whole (idle : s.outstanding = []) (opened : s.isOpen = true) (free : s.writes = [])
    (left : 0 < (s.sendEndTime : Int) - s.seconds) {data : Bytes} (some_bytes : data ≠ [])
    (small : data.length < 2 ^ 32) :
    sendLoop s data 0 = (some data.length, { s with
      sent := s.sent ++ data
      os := ⟨.success, data.length⟩
      writeEvent := true
      lastError := 0 }) := by
  have more : 0 < data.length := List.length_pos_iff.mpr some_bytes
  obtain ⟨count, length⟩ := Nat.exists_eq_succ_of_ne_zero more.ne'
  rw [sendLoop, if_pos more, List.drop_zero, sendPartial_whole idle opened free left small, length]
  dsimp only
  rw [sendLoop, if_neg (by omega)]
  simp

/-- An open connection with these bytes at hand, and then one more each second. -/
structure Paced (clock : Nat) (soon : Bytes) (late : Nat) (s : BaseSock) : Prop where
  isOpen : s.isOpen = true
  calm : Calm s
  clock : s.clock = clock
  incoming : s.incoming = soon ++ List.replicate late 0
  reads : s.reads = List.replicate soon.length (.done 0 (.bytes 1)) ++
    List.replicate late (.done 1000 (.bytes 1))
  writes : s.writes = []
  waits : s.waits = []

/-- Timers of a second at least, that no second up to the end of an `int` of milliseconds lets wrap. -/
structure Timed (s : BaseSock) : Prop where
  recvAutomatic : s.recvTimerAutomatic = true
  sendAutomatic : s.sendTimerAutomatic = true
  recvTimeout : 0 < s.recvTimeoutSeconds ∧ s.recvTimeoutSeconds ≤ 2147484
  sendTimeout : 0 < s.sendTimeoutSeconds ∧ s.sendTimeoutSeconds ≤ 2147484

theorem waitMilliseconds_few {seconds : Nat} (few : seconds ≤ 2147484) :
    waitMilliseconds seconds = 1000 * seconds := by
  have once : ulong seconds = seconds := Nat.mod_eq_of_lt (by omega)
  have twice : ulong (seconds * 1000) = seconds * 1000 := Nat.mod_eq_of_lt (by omega)
  rw [waitMilliseconds, Int.toNat_natCast, once, twice, Nat.mul_comm]

theorem timer_left (seconds : Nat) {timeout : Nat} (positive : 0 < timeout) (epoch : seconds + timeout < 2 ^ 32) :
    0 < (ulong (seconds + timeout) : Int) - seconds ∧
      (timeout ≤ 2147484 → 1000 ≤ waitMilliseconds (ulong (seconds + timeout) - seconds)) := by
  have whole : ulong (seconds + timeout) = seconds + timeout := Nat.mod_eq_of_lt epoch
  rw [whole]
  refine ⟨by omega, fun few => ?_⟩
  have rest : ((seconds + timeout : Nat) - seconds : Int) = timeout := by omega
  rw [rest, waitMilliseconds_few few]
  omega

section Paced

variable {clock late : Nat} {rest : Bytes}

theorem recvLoop_soon {data : Bytes} (paced : Paced clock (data ++ rest) late s)
    (left : 0 < (s.recvEndTime : Int) - s.seconds) (buffer : Nat) {length total : Nat}
    (within : total + data.length ≤ length) (small : length < 2 ^ 32) :
    ∃ s', recvLoop s buffer length (total + data.length) total = (some (total + data.length), s') ∧
      Paced clock rest late s' := by
  induction data generalizing s total with
  | nil =>
      rw [recvLoop, if_neg (by simp)]
      exact ⟨s, rfl, paced⟩
  | cons byte data ih =>
      have room : 0 < ulong (length - total) := by
        simp only [List.length_cons] at within
        rw [ulong, Nat.mod_eq_of_lt (by omega)]
        omega
      have read := recvPartial_byte paced.isOpen paced.waits
        (by rw [paced.reads, List.cons_append, List.length_cons, List.replicate_succ, List.cons_append])
        (by rw [paced.incoming, List.cons_append, List.cons_append]) (Nat.zero_le _) buffer total room
        paced.calm left
      have further : total + (byte :: data).length = total + 1 + data.length := by
        rw [List.length_cons]
        omega
      rw [recvLoop, if_pos (by simp), read, further]
      dsimp only
      refine ih ?_ ?_ (further ▸ within)
      · exact ⟨paced.isOpen, ⟨paced.calm.idle, paced.calm.collected⟩, paced.clock, rfl, rfl, paced.writes,
          paced.waits⟩
      · exact left

variable (timed : Timed s) (epoch : clock / 1000 + 2147484 < 2 ^ 32)
include timed epoch

theorem receive_soon {data : Bytes} (paced : Paced clock (data ++ rest) late s)
    (small : data.length < 2 ^ 32) :
    ∃ s', s.receive data.length data.length = (some data, s') ∧ Paced clock rest late s' := by
  obtain ⟨positive, few⟩ := timed.recvTimeout
  have armed : Paced clock (data ++ rest) late (s.allocate data.length).startRecvTimerInternal :=
    ⟨paced.isOpen, ⟨paced.calm.idle, paced.calm.collected⟩, paced.clock, paced.incoming, paced.reads,
      paced.writes, paced.waits⟩
  have now : s.seconds = clock / 1000 := by rw [BaseSock.seconds, paced.clock]
  have left := (timer_left s.seconds positive (by omega)).1
  have within : 0 + data.length ≤ data.length := (Nat.zero_add _).le
  obtain ⟨s', loop, moved⟩ := recvLoop_soon armed left s.buffers within small
  rw [Nat.zero_add] at loop
  have set : (s.allocate data.length).recvTimerAutomatic = true := timed.recvAutomatic
  have received : (s.allocate data.length).recv s.buffers data.length data.length =
      (some data.length, s') := by
    rw [recv, set, if_pos rfl, loop]
  have ends := receive_calm paced.calm data.length data.length
  rw [receive, received] at ends ⊢
  have handed : Handed s data.length ((s'.memory s.buffers).take data.length) s' := ends
  have same := handed.incoming
  rw [paced.incoming, moved.incoming, List.append_assoc] at same
  have bytes := List.append_inj_left' same rfl
  exact ⟨s', congrArg (fun data => (some data, s')) bytes.symm, moved⟩

theorem receive_late {length : Nat} (paced : Paced clock [] (late + 1) s) (room : 0 < length)
    (small : length < 2 ^ 32) :
    ∃ data s', s.receive length 1 = (some data, s') ∧ data ≠ [] ∧ Paced (clock + 1000) [] late s' ∧
      Timed s' := by
  obtain ⟨positive, few⟩ := timed.recvTimeout
  have now : s.seconds = clock / 1000 := by rw [BaseSock.seconds, paced.clock]
  obtain ⟨left, soon⟩ := timer_left s.seconds positive (by omega)
  have some_room : 0 < ulong (length - 0) := by rwa [Nat.sub_zero, ulong, Nat.mod_eq_of_lt small]
  obtain ⟨s', read, moved, still⟩ : ∃ s',
      recvPartial (s.allocate length).startRecvTimerInternal s.buffers 0 (length - 0) = (some 1, s') ∧
        Paced (clock + 1000) [] late s' ∧ Timed s' := by
    refine ⟨_, recvPartial_byte (s := (s.allocate length).startRecvTimerInternal) paced.isOpen paced.waits
      paced.reads paced.incoming (soon few) s.buffers 0 some_room
      ⟨paced.calm.idle, paced.calm.collected⟩ left, ?_, ?_⟩
    · exact ⟨paced.isOpen, ⟨paced.calm.idle, paced.calm.collected⟩, congrArg (· + 1000) paced.clock, rfl, rfl,
        paced.writes, paced.waits⟩
    · exact ⟨timed.recvAutomatic, timed.sendAutomatic, timed.recvTimeout, timed.sendTimeout⟩
  have received : (s.allocate length).recv s.buffers length 1 = (some 1, s') := by
    have set : (s.allocate length).recvTimerAutomatic = true := timed.recvAutomatic
    rw [recv, set, if_pos rfl, recvLoop, if_pos Nat.one_pos, read]
    dsimp only
    rw [recvLoop, if_neg (by omega)]
  have ends := receive_calm paced.calm length 1
  rw [receive, received] at ends ⊢
  have handed : Handed s length ((s'.memory s.buffers).take 1) s' := ends
  refine ⟨_, s', rfl, fun none_read => ?_, moved, still⟩
  have counted := congrArg List.length handed.incoming
  rw [none_read, paced.incoming, moved.incoming] at counted
  simp at counted

theorem send_soon {soon : Bytes} (paced : Paced clock soon late s) {data : Bytes}
    (small : data.length < 2 ^ 32) :
    ∃ s', s.send data = (some data.length, s') ∧ Paced clock soon late s' := by
  obtain ⟨positive, few⟩ := timed.sendTimeout
  have now : s.seconds = clock / 1000 := by rw [BaseSock.seconds, paced.clock]
  have left := (timer_left s.seconds positive (by omega)).1
  rw [send, timed.sendAutomatic, if_pos rfl]
  by_cases nothing : data = []
  · subst nothing
    rw [sendLoop, if_neg (by simp)]
    refine ⟨_, rfl, ?_⟩
    exact { paced with calm := ⟨paced.calm.idle, paced.calm.collected⟩ }
  · refine ⟨_, sendLoop_whole (s := s.startSendTimerInternal) paced.calm.idle paced.isOpen paced.writes left
      nothing small, ?_⟩
    exact { paced with calm := ⟨paced.calm.idle, paced.calm.collected⟩ }

end Paced

end LuaXENetwork.BaseSock
