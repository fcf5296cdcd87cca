import LuaXENetwork.Socket.Session
import LuaXENetwork.Proof.Socket.BaseSock

/-! Runs of `Recv` and `Send` on one socket, and when the bytes survive them. -/

namespace LuaXENetwork
open BaseSock

namespace BaseSock

structure ReceiveStep (s : BaseSock) (data : Bytes) (s' : BaseSock) : Prop where
  arrived : data <+: s.incoming
  whole : NoReadLeft s' → s'.dropped = s.dropped → s.incoming = data ++ s'.incoming
  owned : s'.OnlyWrites ∨ s'.recvInitiated = true
  clobbered : s'.clobbered = s.clobbered
  dropped : s.dropped ≤ s'.dropped

theorem GaveUp.receiveStep {s s' : BaseSock} {total : Nat} (gaveUp : GaveUp s total s') :
    ReceiveStep s [] s' where
  arrived := List.nil_prefix
  whole := fun settled same => (gaveUp.stream settled same).symm
  owned := gaveUp.owned
  clobbered := gaveUp.clobbered
  dropped := Nat.le_of_add_right_le gaveUp.dropped

theorem recvPartial_stuck {s : BaseSock} (idle : s.outstanding = []) (initiated : s.recvInitiated = true)
    (quiet : s.readEvent = false) (buffer offset length : Nat) :
    ∃ t, recvPartial s buffer offset length = (none, t) ∧ Stopped s t := by
  rw [recvPartial]
  split
  · exact ⟨_, rfl, stopped_idle (by constructor <;> rfl) idle⟩
  · obtain ⟨t, missed, stopped⟩ := awaitRead_idle (s := { s with lastError := wsaIoPending })
      idle quiet ((s.recvEndTime : Int) - s.seconds)
    exact ⟨t, missed, stopped.of_same (by constructor <;> rfl)⟩

theorem recvLoop_stuck {s : BaseSock} (idle : s.outstanding = []) (initiated : s.recvInitiated = true)
    (quiet : s.readEvent = false) (buffer length minLength : Nat) :
    recvLoop s buffer length minLength 0 = (some 0, s) ∨
    ∃ t, recvLoop s buffer length minLength 0 = (none, t) ∧ GaveUp s 0 t := by
  rw [recvLoop]
  split
  · obtain ⟨t, missed, stopped⟩ := recvPartial_stuck idle initiated quiet buffer 0 (length - 0)
    rw [missed]
    have same := stopped.dropped
    exact .inr ⟨_, rfl, fun settled _ => stopped.stream ⟨settled.onlyWrites, settled.collected⟩,
      stopped.owned, stopped.buffers, stopped.clobbered, by simp [same]⟩
  · exact .inl rfl

theorem receive_stuck {s : BaseSock} (idle : s.outstanding = []) (initiated : s.recvInitiated = true)
    (quiet : s.readEvent = false) (length minLength : Nat) :
    ReceiveStep s ((s.receive length minLength).1.getD []) (s.receive length minLength).2 := by
  have timed : ∃ t : BaseSock, t = (if (s.allocate length).recvTimerAutomatic then
      (s.allocate length).startRecvTimerInternal else s.allocate length) ∧
      t.outstanding = [] ∧ t.recvInitiated = true ∧ t.readEvent = false ∧
      t.incoming = s.incoming ∧ t.clobbered = s.clobbered ∧ t.dropped = s.dropped := by
    refine ⟨_, rfl, ?_⟩
    split
    · exact ⟨idle, initiated, quiet, rfl, rfl, rfl⟩
    · exact ⟨idle, initiated, quiet, rfl, rfl, rfl⟩
  obtain ⟨t, starts, idle', initiated', quiet', incoming, clobbered, dropped⟩ := timed
  rw [receive, recv, ← starts]
  rcases recvLoop_stuck idle' initiated' quiet' s.buffers length minLength with
    nothing | ⟨t', failed, gaveUp⟩
  · rw [nothing]
    exact { arrived := by simp, whole := fun _ _ => by simp [incoming],
            owned := .inr initiated', clobbered := clobbered, dropped := dropped.ge }
  · rw [failed]
    have step := gaveUp.receiveStep
    exact { arrived := List.nil_prefix,
            whole := fun settled same => incoming ▸ step.whole settled (same.trans dropped.symm),
            owned := step.owned, clobbered := step.clobbered.trans clobbered,
            dropped := dropped ▸ step.dropped }

theorem receive_settled {s : BaseSock} (settled : NoReadLeft s) (idle : s.outstanding = [])
    (length minLength : Nat) :
    ReceiveStep s ((s.receive length minLength).1.getD []) (s.receive length minLength).2 := by
  cases flag : s.recvInitiated with
  | true => exact receive_stuck idle flag (settled.collected flag) length minLength
  | false =>
      have ends := receive_calm ⟨idle, flag⟩ length minLength
      rcases received : s.receive length minLength with ⟨_ | data, s'⟩
      all_goals rw [received] at ends
      · have gaveUp : GaveUp { s with buffers := s.buffers + 1 } 0 s' := ends
        exact { gaveUp.receiveStep with }
      · have handed : Handed s length data s' := ends
        exact { arrived := ⟨_, handed.incoming.symm⟩, whole := fun _ _ => handed.incoming,
                owned := .inl handed.calm.noReadLeft.onlyWrites, clobbered := handed.clobbered,
                dropped := handed.dropped.ge }

theorem runTo_noReadLeft {s : BaseSock} (owned : s.OnlyWrites ∨ s.recvInitiated = true) {time : Nat}
    (settled : NoReadLeft (s.runTo time)) : NoReadLeft s := by
  have call : SameCall _ (s.runTo time) := foldl_complete_sameCall _ _
  have event : (s.runTo time).readEvent =
      (s.readEvent || (s.outstanding.takeWhile (·.due ≤ time)).any (·.target.isRead)) :=
    foldl_complete_readEvent _ _
  rcases owned with writes | initiated
  · refine ⟨writes, fun initiated => ?_⟩
    have quiet := settled.collected (call.recvInitiated.trans initiated)
    rw [event, Bool.or_eq_false_iff] at quiet
    exact quiet.1
  · have quiet := settled.collected (call.recvInitiated.trans initiated)
    rw [event, Bool.or_eq_false_iff] at quiet
    refine ⟨fun operation member => ?_, fun _ => quiet.1⟩
    rw [← List.takeWhile_append_dropWhile (p := (·.due ≤ time)) (l := s.outstanding)] at member
    rcases List.mem_append.mp member with due | later
    · simpa using List.any_eq_false.mp quiet.2 operation due
    · have later' : operation ∈ (s.runTo time).outstanding := by rwa [runTo_outstanding]
      exact settled.onlyWrites operation later'

end BaseSock

namespace Session

/-- Bytes arrive in order, each once, and `os` belongs to one operation at a time. -/
structure Sound (stream : Bytes) (session : Session) : Prop where
  ordered : session.delivered <+: stream
  unclobbered : session.socket.clobbered = false

/-- The condition on a call: no read of an earlier call is under way or uncollected. A `Recv` also
wants no write under way, and no earlier `Recv` to have failed with part of its bytes. -/
def Ready (session : Session) : SocketCall → Prop
  | .recv _ _ =>
      NoReadLeft session.socket ∧ session.socket.outstanding = [] ∧ session.socket.dropped = 0
  | .send _ => NoReadLeft session.socket
  | .pause _ => True

def AllReady (session : Session) : List SocketCall → Prop
  | [] => True
  | call :: calls => session.Ready call ∧ AllReady (session.perform call) calls

instance (s : BaseSock) : Decidable (NoReadLeft s) :=
  decidable_of_iff ((∀ operation ∈ s.outstanding, operation.target.isRead = false) ∧
      (s.recvInitiated = true → s.readEvent = false))
    ⟨fun settled => ⟨settled.1, settled.2⟩, fun settled => ⟨settled.onlyWrites, settled.collected⟩⟩

instance (session : Session) : (call : SocketCall) → Decidable (session.Ready call)
  | .recv _ _ => inferInstanceAs (Decidable (_ ∧ _ ∧ _))
  | .send _ => inferInstanceAs (Decidable (NoReadLeft _))
  | .pause _ => inferInstanceAs (Decidable True)

instance decidableAllReady (session : Session) : (calls : List SocketCall) →
    Decidable (session.AllReady calls)
  | [] => inferInstanceAs (Decidable True)
  | call :: calls =>
      have := decidableAllReady (session.perform call) calls
      inferInstanceAs (Decidable (_ ∧ _))

structure Invariant (stream : Bytes) (session : Session) : Prop extends Sound stream session where
  owned : session.socket.OnlyWrites ∨ session.socket.recvInitiated = true
  whole : NoReadLeft session.socket → session.socket.dropped = 0 →
    session.delivered ++ session.socket.incoming = stream

variable {stream : Bytes} {session : Session}

theorem Invariant.initial (calm : Calm session.socket) (unused : session.delivered = [])
    (unclobbered : session.socket.clobbered = false) :
    Invariant session.socket.incoming session where
  ordered := unused ▸ List.nil_prefix
  unclobbered := unclobbered
  owned := .inl calm.noReadLeft.onlyWrites
  whole := by simp [unused]

theorem perform_recv (session : Session) (length minLength : Nat) :
    session.perform (.recv length minLength) =
      { socket := (session.socket.receive length minLength).2
        delivered := session.delivered ++ (session.socket.receive length minLength).1.getD [] } := by
  rw [perform]
  rcases session.socket.receive length minLength with ⟨_ | data, s⟩
  · simp
  · rfl

theorem Invariant.recv (invariant : Invariant stream session) {length minLength : Nat}
    (ready : session.Ready (.recv length minLength)) :
    Invariant stream (session.perform (.recv length minLength)) := by
  obtain ⟨settled, idle, undropped⟩ := ready
  have step := receive_settled settled idle length minLength
  have whole := invariant.whole settled undropped
  rw [perform_recv]
  exact {
    ordered := by
      obtain ⟨rest, more⟩ := step.arrived
      exact ⟨rest, by rw [List.append_assoc, more, whole]⟩
    unclobbered := step.clobbered.trans invariant.unclobbered
    owned := step.owned
    whole := fun settled' undropped' => by
      have arrived := step.whole settled' (undropped'.trans undropped.symm)
      rw [List.append_assoc, ← arrived, whole] }

theorem Invariant.send (invariant : Invariant stream session) {data : Bytes}
    (ready : session.Ready (.send data)) : Invariant stream (session.perform (.send data)) := by
  have settled : NoReadLeft session.socket := ready
  have sent := send_onlySent settled.onlyWrites data
  exact {
    ordered := invariant.ordered
    unclobbered := sent.same.clobbered.trans invariant.unclobbered
    owned := .inl sent.writes
    whole := fun _ undropped => by
      rw [perform, sent.same.incoming]
      exact invariant.whole settled (sent.same.dropped ▸ undropped) }

theorem Invariant.pause (invariant : Invariant stream session) (milliseconds : Nat) :
    Invariant stream (session.perform (.pause milliseconds)) := by
  have call : SameCall _ (session.perform (.pause milliseconds)).socket := foldl_complete_sameCall _ _
  exact {
    ordered := invariant.ordered
    unclobbered := call.clobbered.trans invariant.unclobbered
    owned := by
      rcases invariant.owned with writes | initiated
      · exact .inl (runTo_onlySent writes _).writes
      · exact .inr (call.recvInitiated.trans initiated)
    whole := fun settled undropped => by
      have before := runTo_noReadLeft invariant.owned settled
      have same := runTo_sameReading before.onlyWrites (session.socket.clock + milliseconds)
      rw [perform, same.incoming]
      exact invariant.whole before (same.dropped ▸ undropped) }

theorem Invariant.perform (invariant : Invariant stream session) {call : SocketCall}
    (ready : session.Ready call) : Invariant stream (session.perform call) := by
  cases call with
  | recv length minLength => exact invariant.recv ready
  | send data => exact invariant.send ready
  | pause milliseconds => exact invariant.pause milliseconds

theorem Invariant.run (invariant : Invariant stream session) {calls : List SocketCall}
    (ready : session.AllReady calls) : Invariant stream (session.run calls) := by
  induction calls generalizing session with
  | nil => exact invariant
  | cons call calls ih => exact ih (invariant.perform ready.1) ready.2

/-- In a run whose calls all meet the condition, the bytes delivered are the peer's, in order. -/
theorem run_sound (calm : Calm session.socket) (unused : session.delivered = [])
    (unclobbered : session.socket.clobbered = false) {calls : List SocketCall}
    (ready : session.AllReady calls) : Sound session.socket.incoming (session.run calls) :=
  ((Invariant.initial calm unused unclobbered).run ready).toSound

/-- A peer that sends six bytes, its first three after one and a half seconds. -/
def slowPeer (reads : List IoAnswer) : Session :=
  { socket := { isOpen := true, incoming := [1, 2, 3, 4, 5, 6], reads := reads } }

theorem run_sound_slowPeer :
    Sound [1, 2, 3, 4, 5, 6] ((slowPeer [.done 800 (.bytes 3)]).run
      [.recv 4 1, .send [7], .pause 100, .recv 4 2]) :=
  @run_sound (slowPeer [.done 800 (.bytes 3)]) ⟨rfl, rfl⟩ rfl rfl _ (by decide +kernel)

/-- A retry delivers an untouched buffer, a `Send` resets `os` under a read, and a failing `Recv`
drops what it had. -/
theorem run_unsound :
    ¬ Sound [1, 2, 3, 4, 5, 6] ((slowPeer [.done 1500 (.bytes 3)]).run
      [.recv 4 1, .pause 1000, .recv 4 1]) ∧
    ¬ Sound [1, 2, 3, 4, 5, 6] ((slowPeer [.done 1500 (.bytes 3)]).run [.recv 4 1, .send [7]]) ∧
    ¬ Sound [1, 2, 3, 4, 5, 6] ((slowPeer [.done 400 (.bytes 2), .done 700 (.bytes 1)]).run
      [.recv 4 4, .recv 4 1]) :=
  ⟨fun sound => absurd sound.ordered (by decide +kernel),
    fun sound => absurd sound.unclobbered (by decide +kernel),
    fun sound => absurd sound.ordered (by decide +kernel)⟩

end Session

end LuaXENetwork
