import LuaXENetwork.Socket.Receive
import Mathlib.Order.Monotone.Defs

/-! What `Socket::ReceiveBytes` returns, and whether it ever stops waiting. -/

namespace LuaXENetwork.AcceptedSocket

/-! ## The waiting loop -/

section Wait

variable {maxRecv timeoutMs : Nat}

theorem waitChecked_ready {canRecv n : Nat} {expired : Bool}
    (ready : waitChecked maxRecv timeoutMs canRecv expired = .ready n) : 0 < requested maxRecv n := by
  unfold waitChecked at ready
  unfold requested
  split_ifs at ready ⊢
  all_goals
    obtain rfl := WaitStep.ready.inj ready
    omega

theorem waitRound_ready {round : WaitRound} {n : Nat}
    (ready : waitRound maxRecv timeoutMs round = .ready n) : 0 < requested maxRecv n := by
  unfold waitRound at ready
  split at ready
  · contradiction
  · contradiction
  · split_ifs at ready
    exact waitChecked_ready ready
  · exact waitChecked_ready ready

theorem waitLoop_ready {rounds left : List WaitRound} {n : Nat}
    (ready : waitLoop maxRecv timeoutMs rounds = (some (.ready n), left)) : 0 < requested maxRecv n := by
  induction rounds with
  | nil => simp [waitLoop] at ready
  | cons round rounds ih =>
      rw [waitLoop] at ready
      cases step : waitRound maxRecv timeoutMs round with
      | gaveUp closed => simp [step] at ready
      | paced => exact ih (by simpa [step] using ready)
      | parked => exact ih (by simpa [step] using ready)
      | ready m =>
          obtain ⟨rfl, -⟩ : m = n ∧ rounds = left := by simpa [step] using ready
          exact waitRound_ready step

end Wait

/-! ## The read loop -/

section Read

variable {s : AcceptedSocket} {ret : Bytes} {maxRecv : Nat}

theorem recv_of_data (maxRecv : Nat) {bytes : Bytes}
    (brings : s.recvs.headD (.data []) = .data bytes) :
    s.recv maxRecv = (.data (bytes.take maxRecv), { s with
      recvs := s.recvs.tail
      delivered := s.delivered ++ bytes.take maxRecv }) := by rw [recv, brings]

theorem recv_of_failed {error : Nat} (fails : s.recvs.headD (.data []) = .failed error) :
    s.recv maxRecv = (.failed error, { s with recvs := s.recvs.tail }) := by rw [recv, fails]

theorem recv_length {s' : AcceptedSocket} {bytes : Bytes}
    (brings : s.recv maxRecv = (.data bytes, s')) :
    bytes.length ≤ maxRecv ∧ s'.delivered = s.delivered ++ bytes := by
  unfold recv at brings
  split at brings
  · obtain ⟨same, rfl⟩ := Prod.mk.inj brings
    obtain rfl := RecvResult.data.inj same
    exact ⟨List.length_take_le _ _, rfl⟩
  · obtain ⟨same, -⟩ := Prod.mk.inj brings
    contradiction

theorem recv_failed {s' : AcceptedSocket} {error : Nat} (fails : s.recv maxRecv = (.failed error, s')) :
    s'.delivered = s.delivered := by
  unfold recv at fails
  split at fails
  · obtain ⟨same, -⟩ := Prod.mk.inj fails
    contradiction
  · obtain ⟨-, rfl⟩ := Prod.mk.inj fails
    rfl

theorem length_overwrite_end {bytes : Bytes} (fits : bytes.length ≤ maxRecv) :
    (overwrite (ret ++ List.replicate maxRecv 0) ((ret ++ List.replicate maxRecv 0).length - maxRecv)
      bytes).length = ret.length + maxRecv := by
  simp only [overwrite, List.length_append, List.length_take, List.length_drop, List.length_replicate]
  omega

/-- Unless it is lost, the string gains at least a byte for every byte received. -/
theorem readLoop_grows (s : AcceptedSocket) (ret : Bytes) (maxRecv : Nat) :
    ∃ got, (s.readLoop ret maxRecv).2.delivered = s.delivered ++ got ∧
      ((s.readLoop ret maxRecv).1 = [] ∨
        ret.length + got.length ≤ (s.readLoop ret maxRecv).1.length) := by
  fun_induction readLoop s ret maxRecv with
  | case1 s ret => exact ⟨[], by simp, .inr (by simp)⟩
  | case2 s ret maxRecv more grown s' closes =>
      refine ⟨[], ?_, .inr ?_⟩
      · rw [(recv_length closes).2]
      · simp [grown]
  | case3 s ret maxRecv more _ byte bytes s' brings ih =>
      obtain ⟨fits, delivered⟩ := recv_length brings
      obtain ⟨got, later, lost | grown⟩ := ih
      · exact ⟨byte :: bytes ++ got, by rw [later, delivered, List.append_assoc], .inl lost⟩
      · refine ⟨byte :: bytes ++ got, by rw [later, delivered, List.append_assoc], .inr ?_⟩
        rw [length_overwrite_end fits] at grown
        rw [List.length_append]
        omega
  | case4 s ret maxRecv more error s' fails =>
      exact ⟨[], by rw [recv_failed fails, List.append_nil], .inl rfl⟩

theorem readLoop_whole {bytes : Bytes} (some_asked : 0 < maxRecv)
    (brings : s.recvs.headD (.data []) = .data bytes) (whole : maxRecv ≤ bytes.length) :
    (s.readLoop [] maxRecv).1 = bytes.take maxRecv ∧
      (s.readLoop [] maxRecv).2.delivered = s.delivered ++ bytes.take maxRecv := by
  have size : (bytes.take maxRecv).length = maxRecv := List.length_take_of_le whole
  have one := recv_of_data maxRecv brings
  cases taken : bytes.take maxRecv with
  | nil =>
      rw [taken, List.length_nil] at size
      omega
  | cons byte more =>
      rw [taken] at one size
      have all : maxRecv - (byte :: more).length = 0 := by omega
      rw [readLoop, if_neg (by omega), one]
      simp only [all]
      rw [readLoop, if_pos rfl]
      simp [overwrite, ← size]

theorem readLoop_fails {error : Nat} (some_asked : 0 < maxRecv)
    (fails : s.recvs.headD (.data []) = .failed error) :
    (s.readLoop [] maxRecv).1 = [] ∧ (s.readLoop [] maxRecv).2.delivered = s.delivered := by
  rw [readLoop, if_neg (by omega), recv_of_failed fails]
  exact ⟨rfl, rfl⟩

/-- After a first `recv` that falls short, the string is padded or lost whatever comes next. -/
theorem readLoop_short {bytes : Bytes} (brings : s.recvs.headD (.data []) = .data bytes)
    (short : bytes.length < maxRecv) :
    (s.readLoop [] maxRecv).2.delivered ≠ s.delivered ++ (s.readLoop [] maxRecv).1 := by
  have one := recv_of_data maxRecv brings
  rw [List.take_of_length_le (Nat.le_of_lt short)] at one
  intro exact_string
  rw [readLoop, if_neg (by omega), one] at exact_string
  cases bytes with
  | nil => simp at exact_string; omega
  | cons byte more =>
      simp only at exact_string
      obtain ⟨got, later, lost | grown⟩ := readLoop_grows { s with
        recvs := s.recvs.tail
        delivered := s.delivered ++ byte :: more } (overwrite (([] : Bytes) ++ List.replicate maxRecv 0)
          ((([] : Bytes) ++ List.replicate maxRecv 0).length - maxRecv) (byte :: more))
          (maxRecv - (byte :: more).length)
      · rw [later, lost] at exact_string
        simp at exact_string
      · rw [later, List.append_assoc] at exact_string
        have same := congrArg List.length (List.append_cancel_left exact_string)
        rw [length_overwrite_end (Nat.le_of_lt short)] at grown
        rw [List.length_append] at same
        simp only [List.length_nil] at grown
        omega

end Read

/-- The string that a call returns is what its `recv` calls have brought. -/
def ReturnsDelivered (s : AcceptedSocket) (maxRecv timeoutMs : Nat) : Prop :=
  ∀ ret s', s.receiveBytes maxRecv timeoutMs = (some ret, s') → s'.delivered = s.delivered ++ ret

/-- The first `recv` of all that is asked for brings all of it, or fails. -/
def Whole (count : Nat) : RecvResult → Prop
  | .data bytes => count ≤ bytes.length
  | .failed _ => True

theorem returnsDelivered_iff (s : AcceptedSocket) (maxRecv timeoutMs : Nat) :
    ReturnsDelivered s maxRecv timeoutMs ↔
      ∀ canRecv waits, waitLoop maxRecv timeoutMs s.waits = (some (.ready canRecv), waits) →
        Whole (requested maxRecv canRecv) (s.recvs.headD (.data [])) := by
  constructor
  · intro returns canRecv waits ready
    have called : s.receiveBytes maxRecv timeoutMs =
        (some (readLoop { s with waits := waits } [] (requested maxRecv canRecv)).1,
          (readLoop { s with waits := waits } [] (requested maxRecv canRecv)).2) := by
      rw [receiveBytes, ready]
    have same := returns _ _ called
    cases brings : s.recvs.headD (.data []) with
    | failed error => trivial
    | data bytes =>
        by_contra short
        have brings' : ({ s with waits := waits } : AcceptedSocket).recvs.headD (.data []) =
          .data bytes := brings
        exact readLoop_short brings' (Nat.lt_of_not_le short) same
  · intro whole ret s' called
    unfold receiveBytes at called
    split at called
    · rename_i canRecv waits ready
      have some_asked := waitLoop_ready ready
      have first := whole canRecv waits ready
      obtain ⟨same, rfl⟩ := Prod.mk.inj called
      obtain rfl := Option.some.inj same
      cases brings : s.recvs.headD (.data []) with
      | failed error =>
          have ends := readLoop_fails (s := { s with waits := waits }) some_asked brings
          rw [ends.2, ends.1, List.append_nil]
      | data bytes =>
          rw [brings] at first
          have ends := readLoop_whole (s := { s with waits := waits }) some_asked brings first
          rw [ends.2, ends.1]
    · obtain ⟨same, rfl⟩ := Prod.mk.inj called
      obtain rfl := Option.some.inj same
      exact (List.append_nil _).symm
    · obtain ⟨same, -⟩ := Prod.mk.inj called
      contradiction

/-- Two bytes of four, and then the other two. -/
def twoShort : AcceptedSocket where
  waits := [⟨some 4, .ok 1, false⟩]
  recvs := [.data [1, 2], .data [3, 4]]

theorem returnsDelivered_fails : ¬ ReturnsDelivered twoShort 4 0 := by
  intro returns
  have called : twoShort.receiveBytes 4 0 = (some [1, 2, 0, 0, 3, 4], (twoShort.receiveBytes 4 0).2) :=
    Prod.ext (by decide +kernel) rfl
  have same := returns _ _ called
  have brought : (twoShort.receiveBytes 4 0).2.delivered = [1, 2, 3, 4] := by decide +kernel
  rw [brought] at same
  exact absurd same (by decide)

/-! ## Leaving the waiting loop -/

def Left : WaitStep → Prop
  | .paced | .parked => False
  | _ => True

theorem waitLoop_leaves_iff {maxRecv timeoutMs : Nat} {rounds : List WaitRound} :
    (waitLoop maxRecv timeoutMs rounds).1 ≠ none ↔
      ∃ round ∈ rounds, Left (waitRound maxRecv timeoutMs round) := by
  induction rounds with
  | nil => simp [waitLoop]
  | cons round rounds ih =>
      rw [waitLoop]
      cases step : waitRound maxRecv timeoutMs round <;> simp [step, Left, ih]

theorem waitRound_leaves_iff {maxRecv : Nat} (some_asked : 0 < maxRecv) {round : WaitRound} :
    Left (waitRound maxRecv 0 round) ↔
      round.canRecv = none ∨ (∃ canRecv, round.canRecv = some canRecv ∧ maxRecv ≤ canRecv) ∨
        round.canRecv = some 0 ∧
          (round.peek = .ok 0 ∨ ∃ error, round.peek = .error error ∧ error ≠ wsaeWouldBlock) := by
  have checked (canRecv : Nat) (expired : Bool) :
      Left (waitChecked maxRecv 0 canRecv expired) ↔ maxRecv ≤ canRecv := by
    unfold waitChecked
    split_ifs <;> simp [Left] <;> omega
  obtain ⟨canRecv, peek, expired⟩ := round
  cases canRecv with
  | none => simp [waitRound, Left]
  | some canRecv =>
      cases canRecv with
      | zero =>
          cases peek with
          | ok count =>
              cases count with
              | zero => simp [waitRound, Left]
              | succ count => simp [waitRound, checked, Nat.pos_iff_ne_zero.mp some_asked]
          | error error =>
              by_cases blocks : error = wsaeWouldBlock
              · simp [waitRound, checked, blocks]
              · simp [waitRound, Left, blocks]
      | succ canRecv =>
          simp [waitRound, checked]

/-- What has arrived of the peer's bytes by a time, and whether the end of them has. -/
structure Peer where
  buffered : Nat → Nat
  closed : Nat → Bool
  grows : Monotone buffered
  ends : ∀ t u, t ≤ u → closed t = true → closed u = true ∧ buffered u = buffered t

/-- The peer, when the calls of each round are made, and which of them fail. -/
structure Surroundings where
  peer : Peer
  ioctl : Nat → Nat
  peek : Nat → Nat
  behind : ∀ i, ioctl i ≤ peek i
  unbounded : ∀ t, ∃ i, t ≤ ioctl i
  ioctlFails : Nat → Bool
  peekFails : Nat → Option Nat
  genuine : ∀ i, peekFails i ≠ some wsaeWouldBlock

namespace Surroundings

variable (around : Surroundings)

/-- Nothing that has arrived is taken while the loop waits. -/
def round (i : Nat) : WaitRound where
  canRecv := if around.ioctlFails i then none else some (around.peer.buffered (around.ioctl i))
  peek := match around.peekFails i with
    | some error => .error error
    | none =>
        if 0 < around.peer.buffered (around.peek i) then .ok 1
        else if around.peer.closed (around.peek i) then .ok 0
        else .error wsaeWouldBlock

def rounds (count : Nat) : List WaitRound := (List.range count).map around.round

/-- With no timeout, the loop is left after finitely many rounds. -/
def Leaves (maxRecv : Nat) : Prop := ∃ count, (waitLoop maxRecv 0 (around.rounds count)).1 ≠ none

/-- A call of the loop fails. -/
def Fails : Prop := ∃ i, around.ioctlFails i = true ∨
  around.peer.buffered (around.ioctl i) = 0 ∧ (around.peekFails i).isSome = true

theorem peek_iff {i : Nat} : (around.round i).peek = .ok 0 ∨
    (∃ error, (around.round i).peek = .error error ∧ error ≠ wsaeWouldBlock) ↔
      (around.peekFails i).isSome = true ∨
        around.peer.closed (around.peek i) = true ∧ around.peer.buffered (around.peek i) = 0 := by
  have genuine := around.genuine i
  unfold round
  cases fails : around.peekFails i with
  | some error =>
      rw [fails] at genuine
      simpa using genuine
  | none =>
      by_cases empty : around.peer.buffered (around.peek i) = 0
      · cases around.peer.closed (around.peek i) <;> simp [empty]
      · simp [empty, Nat.pos_iff_ne_zero]

theorem leaves_iff_round {maxRecv : Nat} : around.Leaves maxRecv ↔
    ∃ i, Left (waitRound maxRecv 0 (around.round i)) := by
  simp only [Leaves, waitLoop_leaves_iff, rounds, List.mem_map, List.mem_range]
  constructor
  · rintro ⟨count, round, ⟨i, -, rfl⟩, leaves⟩
    exact ⟨i, leaves⟩
  · rintro ⟨i, leaves⟩
    exact ⟨i + 1, _, ⟨i, Nat.lt_succ_self i, rfl⟩, leaves⟩

theorem left_iff {maxRecv i : Nat} (some_asked : 0 < maxRecv) :
    Left (waitRound maxRecv 0 (around.round i)) ↔ around.ioctlFails i = true ∨
      maxRecv ≤ around.peer.buffered (around.ioctl i) ∨
        around.peer.buffered (around.ioctl i) = 0 ∧ ((around.peekFails i).isSome = true ∨
          around.peer.closed (around.peek i) = true ∧ around.peer.buffered (around.peek i) = 0) := by
  rw [waitRound_leaves_iff some_asked, around.peek_iff]
  cases fails : around.ioctlFails i <;> simp [round, fails]

end Surroundings

/-- Without a deadline the wait ends if and only if enough bytes come, or the peer closes before it has
sent any, or a call fails. -/
theorem leaves_iff (around : Surroundings) (maxRecv : Nat) (some_asked : 0 < maxRecv) :
    around.Leaves maxRecv ↔ (∃ t, maxRecv ≤ around.peer.buffered t) ∨
      (∃ t, around.peer.closed t = true ∧ around.peer.buffered t = 0) ∨ around.Fails := by
  rw [around.leaves_iff_round]
  simp only [around.left_iff some_asked]
  constructor
  · rintro ⟨i, failed | enough | ⟨empty, failed | closed⟩⟩
    · exact .inr (.inr ⟨i, .inl failed⟩)
    · exact .inl ⟨_, enough⟩
    · exact .inr (.inr ⟨i, .inr ⟨empty, failed⟩⟩)
    · exact .inr (.inl ⟨_, closed⟩)
  · rintro (⟨t, enough⟩ | ⟨t, closed, empty⟩ | ⟨i, failed | ⟨empty, failed⟩⟩)
    · obtain ⟨i, late⟩ := around.unbounded t
      exact ⟨i, .inr (.inl (enough.trans (around.peer.grows late)))⟩
    · obtain ⟨i, late⟩ := around.unbounded t
      have at_ioctl := around.peer.ends t _ late closed
      have at_peek := around.peer.ends t _ (late.trans (around.behind i)) closed
      exact ⟨i, .inr (.inr ⟨at_ioctl.2.trans empty, .inr ⟨at_peek.1, at_peek.2.trans empty⟩⟩)⟩
    · exact ⟨i, .inl failed⟩
    · exact ⟨i, .inr (.inr ⟨empty, .inl failed⟩)⟩

/-- A peer that closed after one byte. -/
def oneByte : Surroundings where
  peer := {
    buffered := fun _ => 1
    closed := fun _ => true
    grows := monotone_const
    ends := by simp }
  ioctl i := i
  peek i := i
  behind _ := le_rfl
  unbounded t := ⟨t, le_rfl⟩
  ioctlFails _ := false
  peekFails _ := none
  genuine := by simp

theorem leaves_iff_oneByte : oneByte.Leaves 2 ↔ (∃ t, 2 ≤ oneByte.peer.buffered t) ∨
    (∃ t, oneByte.peer.closed t = true ∧ oneByte.peer.buffered t = 0) ∨ oneByte.Fails :=
  leaves_iff oneByte 2 (by decide)

theorem leaves_never : (∃ t, oneByte.peer.closed t = true) ∧ ¬ oneByte.Leaves 2 := by
  refine ⟨⟨0, rfl⟩, fun leaves => ?_⟩
  rw [oneByte.leaves_iff_round] at leaves
  obtain ⟨i, left⟩ := leaves
  rw [oneByte.left_iff (by decide)] at left
  simp [oneByte] at left

end LuaXENetwork.AcceptedSocket
