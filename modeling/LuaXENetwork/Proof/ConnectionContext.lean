import LuaXENetwork.ConnectionContext
import LuaXENetwork.Proof.Socket.BaseSock
import LuaXENetwork.Proof.Tls.Receive

/-! The string that `receive` of a connection pushes, and the bytes that `Recv` delivered. -/

namespace LuaXENetwork

/-! ## Buffers keep their size -/

namespace BaseSock

/-- No buffer has become shorter. -/
def Roomy (s s' : BaseSock) : Prop := ∀ buffer, (s.memory buffer).length ≤ (s'.memory buffer).length

theorem Roomy.trans {s₁ s₂ s₃ : BaseSock} (first : Roomy s₁ s₂) (second : Roomy s₂ s₃) : Roomy s₁ s₃ :=
  fun buffer => (first buffer).trans (second buffer)

end BaseSock

/-! ## What the TLS client copies -/

namespace RecvState

variable {κ : Type} {decryptMessage : κ → Bytes → DecryptAnswer κ}

theorem receiveMessage_returned {s s' : RecvState κ} {data : Bytes}
    (ended : receiveMessage decryptMessage s = (.error (.returned data), s')) : data = [] := by
  fun_induction receiveMessage decryptMessage s with
  | case1 s full => simp at ended
  | case2 s room t roomy wire failed => simp at ended
  | case3 s room t roomy wire closed =>
      obtain ⟨same, -⟩ := Prod.mk.inj ended
      exact (RecvEnd.returned.inj (Except.error.inj same)).symm
  | case4 s room t roomy byte more wire taken t' answer incomplete ih => exact ih ended
  | case5 s room t roomy byte more wire taken t' answer complete => simp at ended

theorem nextMessage_returned {s s' : RecvState κ} {data : Bytes}
    (ended : nextMessage decryptMessage s = (.error (.returned data), s')) : data = [] := by
  unfold nextMessage at ended
  simp only at ended
  split_ifs at ended
  · exact receiveMessage_returned ended
  · exact receiveMessage_returned ended
  · simp at ended

theorem deliver_returned {s s' : RecvState κ} {length : Nat} {scRet : UInt32} {buffers : List SecBuffer}
    {data : Bytes} (ended : s.deliver length scRet buffers = (.returned data, s')) :
    data = if scRet ≠ secEOk then []
      else match buffers.find? (·.type = .data) with
        | none => []
        | some dataBuffer =>
            (window s.tls.readBuffer (s.tls.readPtr + dataBuffer.start) dataBuffer.count).take length := by
  unfold deliver at ended
  by_cases expired : scRet = secIContextExpired
  · rw [if_pos expired] at ended
    obtain ⟨same, -⟩ := Prod.mk.inj ended
    rw [if_pos (by rw [expired]; decide)]
    exact (RecvEnd.returned.inj same).symm
  rw [if_neg expired] at ended
  by_cases failed : scRet ≠ secEOk
  · rw [if_pos failed] at ended
    simp at ended
  rw [if_neg failed] at ended ⊢
  cases found : buffers.find? (·.type = .data) with
  | none => simp [found] at ended
  | some dataBuffer =>
      simp only [found] at ended ⊢
      split_ifs at ended with fits
      · obtain ⟨same, -⟩ := Prod.mk.inj ended
        rw [← RecvEnd.returned.inj same, List.take_of_length_le]
        exact (List.length_take_le _ _).trans fits
      · simp at ended
      · obtain ⟨same, -⟩ := Prod.mk.inj ended
        exact (RecvEnd.returned.inj same).symm

/-- What `Recv` returns the count of is what it has copied. -/
theorem recv_copied {s s' : RecvState κ} {length : Nat} {data : Bytes}
    (ended : s.recv decryptMessage length = (.returned data, s')) :
    s.copied decryptMessage length = data := by
  unfold recv at ended
  unfold copied
  split_ifs at ended with cached fits encrypting
  · obtain ⟨same, -⟩ := Prod.mk.inj ended
    rw [if_pos cached, Nat.min_eq_right fits]
    exact RecvEnd.returned.inj same
  · obtain ⟨same, -⟩ := Prod.mk.inj ended
    rw [if_pos cached, Nat.min_eq_left (by omega)]
    exact RecvEnd.returned.inj same
  · rw [if_neg cached, if_neg (by simp [encrypting])]
    rw [recvPartialEncrypted_eq] at ended
    cases next : nextMessage decryptMessage s with
    | mk message t =>
        rw [next] at ended
        cases message with
        | error early =>
            obtain ⟨rfl, -⟩ := Prod.mk.inj ended
            exact (nextMessage_returned next).symm
        | ok answer =>
            obtain ⟨scRet, buffers⟩ := answer
            exact (deliver_returned ended).symm
  · simp at ended

end RecvState

/-! ## What `receive` pushes -/

namespace BaseSock

/-- `Recv` stops short of its minimum only where a read has found the stream closed. -/
theorem recvLoop_short {s s' : BaseSock} {buffer length minLength total count : Nat}
    (ended : s.recvLoop buffer length minLength total = (some count, s')) (short : count < minLength) :
    ∃ t offset, (recvPartial t buffer offset (length - offset)).1 = some 0 := by
  fun_induction recvLoop s buffer length minLength total with
  | case1 s total more t failed => simp at ended
  | case2 s total more t closed => exact ⟨s, total, by rw [closed]⟩
  | case3 s total more n t partly ih => exact ih ended
  | case4 s total enough =>
      obtain ⟨same, -⟩ := Prod.mk.inj ended
      obtain rfl := Option.some.inj same
      omega

end BaseSock

namespace ConnectionContext

section Receive

variable {κ : Type} (decryptMessage : κ → Bytes → DecryptAnswer κ)

/-- Over TLS, what counts as delivered is what `CSSLClient::Recv` has returned. -/
theorem recv_tls_delivered {client client' : RecvState κ} {length : Nat} {data : Bytes}
    (minLength : Nat) (ended : client.recv decryptMessage length = (.returned data, client')) :
    ((ConnectionContext.tls client).recv decryptMessage length minLength).1.delivered = data := by
  have copied := RecvState.recv_copied ended
  simp only [recv, ended, RecvEnd.count, RecvOutcome.delivered, Option.getD_some, copied]
  have front : (overwrite (List.replicate length 0) 0 data).take (0 + data.length) =
      (List.replicate length 0).take 0 ++ data := take_overwrite data (Nat.zero_le _)
  rwa [Nat.zero_add, List.take_zero, List.nil_append] at front

/-- What `Recv` does for a `receive` of this length. -/
def outcome (length : Int) (context : ConnectionContext κ) : RecvOutcome :=
  (context.recv decryptMessage (receiveSizes length).1 (receiveSizes length).2).1

variable {decryptMessage} {length : Int} {context : ConnectionContext κ}

end Receive

end ConnectionContext

end LuaXENetwork
