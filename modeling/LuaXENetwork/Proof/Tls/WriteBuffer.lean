import LuaXENetwork.Library.History
import LuaXENetwork.Proof.Tls.Send

/-! Whether the records that `CSSLClient::Send` builds have room in `writeBuffer`. -/

namespace LuaXENetwork.SslClient
open Library

variable {σ : Type} (sender : Sender σ) (encryptMessage : List Bytes → Bytes → Except UInt32 Bytes)
  (tls : SslClient)

/-- The longest record of a call: the first. -/
def longestRecord (data : Bytes) : Nat := min (maxChunk tls.sizes) data.length

theorem sendRecord_records (data : Bytes) (s : SendState σ) : ∃ record,
    record.plain = data ∧
      (sendRecord sender encryptMessage tls data s).2.records = s.records ++ [record] := by
  unfold sendRecord
  dsimp only
  split
  · exact ⟨⟨data, s.socket, .overflow⟩, rfl, rfl⟩
  · cases encryptMessage (s.records.map SentRecord.plain) data with
    | error status => exact ⟨⟨data, s.socket, .unencrypted status⟩, rfl, rfl⟩
    | ok cipher => exact ⟨⟨data, s.socket, .handed cipher _⟩, rfl, rfl⟩

/-- No record is longer than a chunk, or than the data. -/
theorem sendRecord_appends {data whole : Bytes} (short : data.length ≤ longestRecord tls whole)
    (s : SendState σ) : Appends (fun record => record.plain.length ≤ longestRecord tls whole) s.records
      (sendRecord sender encryptMessage tls data s).2.records := by
  obtain ⟨record, plain, grown⟩ := sendRecord_records sender encryptMessage tls data s
  rw [grown]
  apply Appends.one
  rw [plain]
  exact short

variable {tls}

theorem sendShort_eq (encrypting : tls.encrypting = true) (data : Bytes) (s : SendState σ) :
    sendShort sender encryptMessage tls data s = sendRecord sender encryptMessage tls data s := by
  simp [sendShort, encrypting]

theorem chunk_length (data : Bytes) (total : Nat) :
    ((data.drop total).take (min (maxChunk tls.sizes) (data.length - total))).length =
      min (maxChunk tls.sizes) (data.length - total) := by
  rw [List.length_take, List.length_drop]
  omega

theorem sendChunks_appends (encrypting : tls.encrypting = true) (data : Bytes) (total : Nat)
    (s : SendState σ) : Appends (fun record => record.plain.length ≤ longestRecord tls data) s.records
      (sendChunks sender encryptMessage tls data total s).2.records := by
  have one (total : Nat) (s : SendState σ) :
      Appends (fun record => record.plain.length ≤ longestRecord tls data) s.records
        (sendShort sender encryptMessage tls
          ((data.drop total).take (min (maxChunk tls.sizes) (data.length - total))) s).2.records := by
    rw [sendShort_eq sender encryptMessage encrypting]
    apply sendRecord_appends
    rw [chunk_length, longestRecord]
    omega
  fun_induction sendChunks sender encryptMessage tls data total s with
  | case1 total s more remaining chunk s' crashed =>
      have first := one total s
      rwa [crashed] at first
  | case2 total s more remaining chunk s' sent ends failed =>
      have first := one total s
      rwa [ends] at first
  | case3 total s more remaining chunk s' sent ends goes ih =>
      have first := one total s
      rw [ends] at first
      exact trans_of _ first ih
  | case4 total s done => exact refl_of _ _

/-- The records of a call, of which the first is the longest. -/
theorem send_records (encrypting : tls.encrypting = true) (data : Bytes) (s : SendState σ) :
    ∃ first later, (send sender encryptMessage tls data s).2.records = s.records ++ first :: later ∧
      first.plain.length = longestRecord tls data ∧
      ∀ record ∈ later, record.plain.length ≤ longestRecord tls data := by
  have encrypts : send sender encryptMessage tls data s =
      if maxChunk tls.sizes < data.length then sendChunks sender encryptMessage tls data 0 s
      else sendRecord sender encryptMessage tls data s := by simp [send, encrypting]
  rw [encrypts]
  by_cases long : maxChunk tls.sizes < data.length
  · have positive := maxChunk_pos tls.sizes
    rw [if_pos long, sendChunks, if_pos (by omega)]
    obtain ⟨record, plain, grown⟩ := sendRecord_records sender encryptMessage tls
      ((data.drop 0).take (min (maxChunk tls.sizes) (data.length - 0))) s
    have length : record.plain.length = longestRecord tls data := by
      rw [plain, chunk_length, Nat.sub_zero, longestRecord]
    dsimp only
    rw [sendShort_eq sender encryptMessage encrypting]
    rcases ends : sendRecord sender encryptMessage tls
      ((data.drop 0).take (min (maxChunk tls.sizes) (data.length - 0))) s with ⟨_ | sent, s'⟩
    all_goals
      rw [ends] at grown
      dsimp only at grown ⊢
    · exact ⟨record, [], grown, length, by simp⟩
    · split_ifs
      · exact ⟨record, [], grown, length, by simp⟩
      · obtain ⟨later, more, short⟩ :=
          sendChunks_appends sender encryptMessage encrypting data (0 + sent.toNat) s'
        exact ⟨record, later, by rw [more, grown, List.append_assoc]; rfl, length, short⟩
  · rw [if_neg long]
    obtain ⟨record, plain, grown⟩ := sendRecord_records sender encryptMessage tls data s
    exact ⟨record, [], grown, by rw [plain, longestRecord]; omega, by simp⟩

/-- Every record of a call has room, with its header and trailer, just when the longest one has. -/
theorem send_fits_iff (tls : SslClient) (data : Bytes) (s : SendState σ) :
    (∀ record ∈ recordsOf s (send sender encryptMessage tls data s), Fits tls record.plain) ↔
      tls.encrypting = false ∨
        tls.sizes.header + longestRecord tls data + tls.sizes.trailer ≤ writeBufferSize := by
  cases encrypting : tls.encrypting with
  | false =>
      have none : recordsOf s (send sender encryptMessage tls data s) = [] :=
        recordsOf_eq (by simp [send, encrypting])
      simp [none]
  | true =>
      obtain ⟨first, later, grown, length, short⟩ := send_records sender encryptMessage encrypting data s
      rw [recordsOf_eq grown]
      constructor
      · intro fits
        have room := fits first List.mem_cons_self
        rw [Fits, length] at room
        exact .inr room
      · rintro (idle | room) record member
        · cases idle
        · unfold Fits
          rcases List.mem_cons.mp member with rfl | member
          · rwa [length]
          · have few := short record member
            omega

/-- A cipher suite with blocks of 16 bytes and a hash of 48. -/
def cbcSuite : SslClient where
  encrypting := true
  sizes := ⟨21, 64, 16384⟩

/-- The record of a request of 16000 bytes leaves 50 for the 85 of header and trailer. -/
theorem send_overflows :
    ∃ record ∈ recordsOf { socket := {} }
      (send BaseSock.sender unchanged cbcSuite (List.replicate 16000 0) { socket := {} }),
      ¬ Fits cbcSuite record.plain := by
  obtain ⟨first, later, grown, length, -⟩ :=
    send_records BaseSock.sender unchanged (show cbcSuite.encrypting = true from rfl)
      (List.replicate 16000 0) { socket := {} }
  rw [recordsOf_eq grown]
  refine ⟨first, List.mem_cons_self, ?_⟩
  rw [longestRecord, List.length_replicate] at length
  rw [Fits, length]
  decide

end LuaXENetwork.SslClient
