import LuaXENetwork.Library.Sender
import LuaXENetwork.Proof.Socket.BaseSock

/-! A socket takes the bytes that it says it took. -/

namespace LuaXENetwork.BaseSock
open Library

def sender : Sender BaseSock where
  arm s := if s.sendTimerAutomatic then s.startSendTimerInternal else s
  sendPartial := sendPartial
  accepted := sent

theorem sender_sendPartial (s : BaseSock) (data : Bytes) :
    sender.sendPartial s data = s.sendPartial data := rfl

theorem sendLoop_eq (s : BaseSock) (data : Bytes) (total : Nat) :
    s.sendLoop data total = sender.sendLoop s data total := by
  fun_induction sendLoop s data total with
  | case1 s total more s' failed =>
      rw [Sender.sendLoop, if_pos more, sender_sendPartial, failed]
  | case2 s total more s' closed =>
      rw [Sender.sendLoop, if_pos more, sender_sendPartial, closed]
  | case3 s total more count s' part ih =>
      rw [ih, Sender.sendLoop.eq_def sender s, if_pos more, sender_sendPartial, part]
  | case4 s total done => rw [Sender.sendLoop, if_neg done]

/-- `Send` of a socket is that of the library. -/
theorem send_eq (s : BaseSock) (data : Bytes) : s.send data = sender.send s data :=
  sendLoop_eq _ data 0

structure Wrote (s : BaseSock) (data : Bytes) (count : Nat) (s' : BaseSock) : Prop where
  idle : s'.outstanding = []
  within : count ≤ data.length
  sent : s'.sent = s.sent ++ data.take count

def WriteEnds (s : BaseSock) (data : Bytes) : Option Nat × BaseSock → Prop
  | (some count, s') => Wrote s data count s'
  | (none, _) => True

theorem WriteEnds.of_sent {s t : BaseSock} {data : Bytes} {result : Option Nat × BaseSock}
    (same : t.sent = s.sent) (ends : WriteEnds t data result) : WriteEnds s data result := by
  rcases result with ⟨_ | count, s'⟩
  · trivial
  · have wrote : Wrote t data count s' := ends
    exact { wrote with sent := same ▸ wrote.sent }

theorem WriteEnds.sendFailed (s t : BaseSock) (data : Bytes) : WriteEnds s data t.sendFailed := trivial

theorem collectWrite_complete {s : BaseSock} (idle : s.outstanding = []) (due error : Nat)
    (result : IoResult) (data : Bytes) :
    WriteEnds s data (collectWrite { s.complete ⟨due, result, .write data⟩ with lastError := error }) := by
  cases result with
  | failed failure =>
      rw [collectWrite, overlappedResult_failed rfl]
      dsimp only
      split
      · exact { idle := idle, within := Nat.zero_le _, sent := by simp [complete] }
      · exact .sendFailed _ _ _
  | bytes count =>
      rw [collectWrite, overlappedResult_success rfl]
      have same : data.take (data.take count).length = data.take count := by
        simp [List.take_eq_take_iff]
      exact { idle := idle, within := by simp, sent := by rw [same]; rfl }

theorem awaitWrite_alone {s : BaseSock} (due : Nat) (result : IoResult) {data : Bytes}
    (alone : s.outstanding = [⟨due, result, .write data⟩]) (quiet : s.writeEvent = false)
    (secondsLeft : Int) : WriteEnds s data (awaitWrite s secondsLeft) := by
  rcases awaitWrite_cases s secondsLeft with ⟨time, signal, event⟩ | ⟨t, error, failed, -⟩
  · have at_due : due = time := by simpa [signalTime, quiet, alone, Target.isRead] using signal
    rw [event, ← at_due, runTo_due (s := { s with waits := s.waits.tail }) alone (Nat.le_refl due)]
    refine WriteEnds.of_sent ?_ (collectWrite_complete ?_ due 0 result data)
    · rfl
    · rfl
  · rw [failed]
    exact .sendFailed _ _ _

theorem awaitWrite_none {s : BaseSock} (idle : s.outstanding = []) (quiet : s.writeEvent = false)
    (secondsLeft : Int) (data : Bytes) : WriteEnds s data (awaitWrite s secondsLeft) := by
  rcases awaitWrite_cases s secondsLeft with ⟨time, signal, event⟩ | ⟨t, error, failed, -⟩
  · simp [signalTime, quiet, idle] at signal
  · rw [failed]
    exact .sendFailed _ _ _

theorem WriteEnds.of_ulong {s : BaseSock} {data : Bytes} {result : Option Nat × BaseSock}
    (ends : WriteEnds s (data.take (ulong data.length)) result) : WriteEnds s data result := by
  rcases result with ⟨_ | count, s'⟩
  · trivial
  · have wrote : Wrote s (data.take (ulong data.length)) count s' := ends
    have within := wrote.within
    rw [List.length_take] at within
    have same : (data.take (ulong data.length)).take count = data.take count := by
      rw [List.take_take, Nat.min_eq_left (by omega)]
    exact { idle := wrote.idle, within := by omega, sent := by rw [wrote.sent, same] }

theorem sendPartial_wrote {s : BaseSock} (idle : s.outstanding = []) (data : Bytes) :
    WriteEnds s data (sendPartial s data) := by
  rw [sendPartial, initialiseOs_idle idle]
  rcases resetWriteEvent_cases { s with os := {} } with ⟨error, rest, reset⟩ | reset
  · rw [reset]
    trivial
  rw [reset]
  dsimp only
  have started := start_idle (s := { s with
    os := {}
    writeEvent := false
    writes := s.writes.tail }) idle (s.writes.headD (.done 0 (.bytes data.length)))
    (.write (data.take (ulong data.length)))
  rw [wsaSend]
  rcases started with ⟨error, refused⟩ | ⟨result, ended⟩ | ⟨delay, result, pending⟩
  · rw [refused]
    dsimp only
    split
    · trivial
    rw [if_neg Bool.false_ne_true]
    split
    · refine WriteEnds.of_sent ?_ (awaitWrite_none ?_ ?_ _ data)
      · rfl
      · exact idle
      · rfl
    · exact .sendFailed _ _ _
  · rw [ended]
    dsimp only
    split
    · trivial
    rw [if_pos rfl]
    apply WriteEnds.of_ulong
    refine WriteEnds.of_sent ?_ (collectWrite_complete ?_ s.clock 0 result _)
    · rfl
    · exact idle
  · rw [pending]
    dsimp only
    split
    · trivial
    rw [if_neg Bool.false_ne_true, if_pos rfl]
    apply WriteEnds.of_ulong
    refine WriteEnds.of_sent ?_ (awaitWrite_alone (s.clock + (delay + 1)) result ?_ ?_ _)
    · rfl
    · rfl
    · rfl

theorem sender_truthful : sender.Truthful fun s => s.outstanding = [] where
  arm s idle := by
    dsimp only [sender]
    split
    · exact ⟨idle, rfl⟩
    · exact ⟨idle, rfl⟩
  sendPartial s data count s' idle answered := by
    have wrote : Wrote s data count s' := by
      have ends := sendPartial_wrote idle data
      rwa [← sender_sendPartial, answered] at ends
    exact ⟨wrote.idle, wrote.within, wrote.sent⟩

end LuaXENetwork.BaseSock
