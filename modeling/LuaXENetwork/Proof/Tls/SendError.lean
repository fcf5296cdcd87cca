import LuaXENetwork.Proof.Socket.SendError
import LuaXENetwork.Proof.Socket.Sender
import LuaXENetwork.Proof.Tls.WriteBuffer

/-! What `CSSLClient::GetLastError` says after a `Send` that its socket failed. -/

namespace LuaXENetwork
open Library

namespace SslClient

variable (encryptMessage : List Bytes → Bytes → Except UInt32 Bytes) {tls : SslClient}

/-- Where the last record was failed by the socket, its error is the one to ask for. -/
def Forwards (t : SendState BaseSock) : Prop :=
  ∀ plain socket cipher, t.records.getLast? = some ⟨plain, socket, .handed cipher none⟩ →
    t.lastError = 0 ∧ (socket.send cipher).1 = none ∧ t.socket = (socket.send cipher).2

theorem sendRecord_forwards (data : Bytes) (t : SendState BaseSock) :
    Forwards (sendRecord BaseSock.sender encryptMessage tls data t).2 := by
  unfold sendRecord
  dsimp only
  split
  · intro plain socket cipher last
    simp at last
  · split
    · intro plain socket cipher last
      simp at last
    · rename_i sealed encrypted
      rcases sent : BaseSock.sender.send t.socket sealed with ⟨taken, s⟩
      intro plain socket cipher last
      simp only [List.getLast?_append, List.getLast?_singleton, Option.some_or, Option.some.injEq,
        SentRecord.mk.injEq, RecordFate.handed.injEq] at last
      obtain ⟨-, rfl, rfl, rfl⟩ := last
      rw [BaseSock.send_eq, sent]
      exact ⟨rfl, rfl, rfl⟩

theorem sendChunks_forwards (encrypting : tls.encrypting = true) (data : Bytes) (total : Nat)
    (t : SendState BaseSock) (ready : Forwards t ∨ total < data.length) :
    Forwards (sendChunks BaseSock.sender encryptMessage tls data total t).2 := by
  have record (data : Bytes) (t : SendState BaseSock) :
      Forwards (sendShort BaseSock.sender encryptMessage tls data t).2 := by
    rw [sendShort_eq BaseSock.sender encryptMessage encrypting]
    exact sendRecord_forwards encryptMessage data t
  fun_induction sendChunks BaseSock.sender encryptMessage tls data total t with
  | case1 total t more remaining chunk t' crashed =>
      have first := record ((data.drop total).take chunk) t
      rwa [crashed] at first
  | case2 total t more remaining chunk t' sent ends failed =>
      have first := record ((data.drop total).take chunk) t
      rwa [ends] at first
  | case3 total t more remaining chunk t' sent ends goes ih =>
      have first := record ((data.drop total).take chunk) t
      rw [ends] at first
      exact ih (.inl first)
  | case4 total t done => exact ready.resolve_right done

theorem send_forwards (encrypting : tls.encrypting = true) (data : Bytes) (t : SendState BaseSock) :
    Forwards (send BaseSock.sender encryptMessage tls data t).2 := by
  unfold send
  rw [if_neg (by simp [encrypting])]
  split
  · rename_i long
    exact sendChunks_forwards encryptMessage encrypting data 0 t (.inr (by omega))
  · exact sendRecord_forwards encryptMessage data t

/-- Once the socket has failed the last record, `GetLastError` is the code of the failure that ended it. -/
def ReportsFailure (tls : SslClient) (data : Bytes) (t : SendState BaseSock) : Prop :=
  let ended := (send BaseSock.sender encryptMessage tls data t).2
  tls.encrypting = true → ∀ plain socket cipher,
    ended.records.getLast? = some ⟨plain, socket, .handed cipher none⟩ →
    ended.getLastError BaseSock.lastError ≠ 0 ∧ ∃ failure, socket.sendFailure cipher = some failure ∧
      ended.getLastError BaseSock.lastError = failure.code

end SslClient

/-- The error is there and the right one just where the failure has a code and is no connection reset; and
TLS passes on what it finds. -/
theorem lastError_reports_iff (s : BaseSock) (data : Bytes)
    (encryptMessage : List Bytes → Bytes → Except UInt32 Bytes) (tls : SslClient) (t : SendState BaseSock) :
    (s.ReportsFailure data ↔ ∀ failure, s.sendFailure data = some failure → failure.Told) ∧
    (SslClient.ReportsFailure encryptMessage tls data t ↔
      (tls.encrypting = true → ∀ plain socket cipher,
        (SslClient.send BaseSock.sender encryptMessage tls data t).2.records.getLast? =
          some ⟨plain, socket, .handed cipher none⟩ →
        ∀ failure, socket.sendFailure cipher = some failure → failure.Told)) := by
  refine ⟨(BaseSock.send_fails s data).reports_iff, ?_⟩
  constructor
  · intro reports encrypting plain socket cipher last
    obtain ⟨none_own, failed, same⟩ :=
      SslClient.send_forwards encryptMessage encrypting data t plain socket cipher last
    have reported := reports encrypting plain socket cipher last
    rw [SendState.getLastError, if_neg (not_not.mpr none_own), same] at reported
    exact (BaseSock.send_fails socket cipher).reports_iff.mp fun _ => reported
  · intro told encrypting plain socket cipher last
    obtain ⟨none_own, failed, same⟩ :=
      SslClient.send_forwards encryptMessage encrypting data t plain socket cipher last
    rw [SendState.getLastError, if_neg (not_not.mpr none_own), same]
    exact (BaseSock.send_fails socket cipher).reports_iff.mpr
      (told encrypting plain socket cipher last) failed

def resetSocket : BaseSock where
  isOpen := true
  writes := [.refused wsaeConnReset]

theorem reset_unreported :
    (resetSocket.send [0x2A]).1 = none ∧ resetSocket.sendFailure [0x2A] = some (.failed wsaeConnReset) ∧
    (resetSocket.send [0x2A]).2.lastError = 0 ∧ ¬ resetSocket.ReportsFailure [0x2A] ∧
    (SslClient.send BaseSock.sender (fun _ plain => .ok plain) { encrypting := true } [0x2A]
      { socket := resetSocket }).1 = .returned socketError ∧
    (SslClient.send BaseSock.sender (fun _ plain => .ok plain) { encrypting := true } [0x2A]
      { socket := resetSocket }).2.getLastError BaseSock.lastError = 0 := by
  have failed : (resetSocket.send [0x2A]).1 = none := by decide +kernel
  have wiped : (resetSocket.send [0x2A]).2.lastError = 0 := by decide +kernel
  refine ⟨failed, by decide +kernel, wiped, fun reports => ?_, by decide +kernel, by decide +kernel⟩
  exact (reports failed).1 wiped

end LuaXENetwork
