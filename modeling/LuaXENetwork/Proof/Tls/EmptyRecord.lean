import LuaXENetwork.Library.History
import LuaXENetwork.Proof.Tls.Receive

/-! When `CSSLClient::Recv` returns no bytes. -/

namespace LuaXENetwork

/-- Of two moments of a wire, the later is reached by a read that had room and brought nothing. -/
def Wire.Ended (before after : Wire) : Prop :=
  ∃ (wire : Wire) (room : Nat), 0 < room ∧ wire.recv room = (some [], after) ∧
    wire.incoming <:+ before.incoming ∧ wire.answers <:+ before.answers

theorem Wire.recv_suffix {wire wire' : Wire} {length : Nat} {data : Option Bytes}
    (taken : wire.recv length = (data, wire')) :
    wire'.incoming <:+ wire.incoming ∧ wire'.answers <:+ wire.answers := by
  unfold Wire.recv at taken
  split at taken
  · obtain ⟨-, rfl⟩ := Prod.mk.inj taken
    exact ⟨List.drop_suffix _ _, List.tail_suffix _⟩
  · obtain ⟨-, rfl⟩ := Prod.mk.inj taken
    exact ⟨List.suffix_refl _, List.tail_suffix _⟩

namespace RecvState
open Library Intact

variable {κ : Type} {decryptMessage : κ → Bytes → DecryptAnswer κ} {records : List TlsRecord}
  {cached : Bytes} {s t : RecvState κ}

/-- No bytes are returned but at the end of the connection, which the client then takes note of. -/
def TellsEnd (before : RecvState κ) (result : RecvEnd × RecvState κ) : Prop :=
  result.1 = .returned [] → result.2.tls.encrypting = false ∧ before.wire.Ended result.2.wire

/-! ## The next message -/

def MessageTells (before : RecvState κ) : Except RecvEnd (UInt32 × List SecBuffer) × RecvState κ → Prop
  | (.error ended, after) => TellsEnd before (ended, after)
  | (.ok _, after) => after.tls.encrypting = before.tls.encrypting

theorem makeRoom_room {room : Nat} (roomy : s.makeRoom = some (room, t)) :
    0 < room ∧ t.tls.encrypting = s.tls.encrypting := by
  simp only [makeRoom] at roomy
  split_ifs at roomy
  · obtain ⟨rfl, rfl⟩ := Prod.mk.inj (Option.some.inj roomy)
    exact ⟨by assumption, rfl⟩
  · obtain ⟨rfl, rfl⟩ := Prod.mk.inj (Option.some.inj roomy)
    exact ⟨by omega, rfl⟩

theorem MessageTells.earlier {result : Except RecvEnd (UInt32 × List SecBuffer) × RecvState κ}
    (tells : MessageTells t result) (encrypting : t.tls.encrypting = s.tls.encrypting)
    (incoming : t.wire.incoming <:+ s.wire.incoming) (answers : t.wire.answers <:+ s.wire.answers) :
    MessageTells s result := by
  rcases result with ⟨ended | message, after⟩
  · intro nothing
    obtain ⟨stopped, wire, room, some_room, closed, incoming', answers'⟩ := tells nothing
    exact ⟨stopped, wire, room, some_room, closed, incoming'.trans incoming, answers'.trans answers⟩
  · exact Eq.trans tells encrypting

variable (decryptMessage) in
theorem receiveMessage_tells (s : RecvState κ) :
    MessageTells s (receiveMessage decryptMessage s) := by
  fun_induction receiveMessage decryptMessage s with
  | case1 s full =>
      intro closed
      cases closed
  | case2 s room t roomy wire failed =>
      intro closed
      cases closed
  | case3 s room t roomy wire closed =>
      obtain ⟨some_room, -⟩ := makeRoom_room roomy
      rw [makeRoom_wire roomy] at closed
      exact fun _ => ⟨rfl, s.wire, room, some_room, closed, List.suffix_refl _, List.suffix_refl _⟩
  | case4 s room t roomy byte more wire taken t' answer incomplete ih =>
      obtain ⟨incoming, answers⟩ := Wire.recv_suffix taken
      rw [makeRoom_wire roomy] at incoming answers
      exact ih.earlier (makeRoom_room roomy).2 incoming answers
  | case5 s room t roomy byte more wire taken t' answer complete =>
      exact (makeRoom_room roomy).2

variable (decryptMessage) in
theorem nextMessage_tells (s : RecvState κ) : MessageTells s (nextMessage decryptMessage s) := by
  unfold nextMessage
  dsimp only
  split_ifs
  · exact receiveMessage_tells decryptMessage s
  · exact (receiveMessage_tells decryptMessage _).earlier rfl (List.suffix_refl _) (List.suffix_refl _)
  · rfl

/-! ## Records with data -/

theorem take_ne_nil {data : Bytes} (some_data : data ≠ []) {length : Nat} (some_asked : 0 < length) :
    data.take length ≠ [] := by
  cases data with
  | nil => exact absurd rfl some_data
  | cons byte data =>
      obtain ⟨length, rfl⟩ := Nat.exists_eq_succ_of_ne_zero (Nat.ne_of_gt some_asked)
      simp

/-- A call that comes to a record with data tells the truth, and goes on to later records. -/
theorem recv_tells (intact : Intact decryptMessage records cached s)
    (some_plain : ∀ record ∈ records, record.plain ≠ []) {length : Nat} (some_asked : 0 < length) :
    TellsEnd s (recv decryptMessage length s) ∧ ∃ records' cached', records' <:+ records ∧
      Intact decryptMessage records' cached' (recv decryptMessage length s).2 := by
  by_cases some_cached : 0 < s.tls.plainTextBytes
  · obtain ⟨returned, intact'⟩ := recv_cached intact some_cached length
    refine ⟨fun nothing => ?_, records, _, List.suffix_refl _, intact'⟩
    have some_data : cached ≠ [] := by
      intro none
      have count := intact.cached_length
      rw [none, List.length_nil] at count
      omega
    exact absurd (RecvEnd.returned.inj (returned.symm.trans nothing)) (take_ne_nil some_data some_asked)
  · obtain rfl : cached = [] := List.length_eq_zero_iff.mp (by have := intact.cached_length; omega)
    rw [recv, if_neg some_cached]
    split
    · rcases recvPartialEncrypted_cases intact length with
        ⟨scRet, buffers, t, record, later, -, rfl, same, returned, intact'⟩ |
        ⟨ended, t, next, ends, intact', -⟩
      · rw [same]
        refine ⟨fun nothing => ?_, later, _, List.suffix_cons _ _, intact'⟩
        have some_data := some_plain record List.mem_cons_self
        exact absurd (RecvEnd.returned.inj (returned.symm.trans nothing))
          (take_ne_nil some_data some_asked)
      · have tells := nextMessage_tells decryptMessage s
        rw [next] at tells
        rw [ends]
        exact ⟨tells, records, [], List.suffix_refl _, intact'⟩
    · have kept : Intact decryptMessage records [] (s.update fun tls => { tls with
          lastError := errorFileNotEncrypted }) := intact.flags rfl
      refine ⟨fun nothing => ?_, records, [], List.suffix_refl _, kept⟩
      cases nothing

/-- Every call of a run tells the truth about the end. -/
def TellsEndAlong (decryptMessage : κ → Bytes → DecryptAnswer κ) : RecvState κ → List Nat → Prop :=
  Along (fun s length => (recv decryptMessage length s).2)
    fun s length => TellsEnd s (recv decryptMessage length s)

theorem tellsEndAlong_of_data (intact : Intact decryptMessage records cached s)
    (some_plain : ∀ record ∈ records, record.plain ≠ []) {lengths : List Nat}
    (some_asked : ∀ length ∈ lengths, 0 < length) : TellsEndAlong decryptMessage s lengths := by
  induction lengths generalizing s records cached with
  | nil => trivial
  | cons length lengths ih =>
      obtain ⟨tells, records', cached', later, intact'⟩ :=
        recv_tells intact some_plain (some_asked length List.mem_cons_self)
      exact ⟨tells, ih intact' (fun record member => some_plain record (later.subset member))
        fun length member => some_asked length (List.mem_cons_of_mem _ member)⟩

/-! ## Records that arrive one by one -/

/-- The wire on which every read brings one record. -/
def recordWire (records : List TlsRecord) : Wire :=
  ⟨ciphers records, records.map fun record => .bytes record.cipher.length⟩

/-- Nothing is buffered, and the records are to come one by one. -/
structure Waiting (decryptMessage : κ → Bytes → DecryptAnswer κ) (records : List TlsRecord)
    (s : RecvState κ) : Prop where
  intact : Intact decryptMessage records [] s
  readPtr : s.tls.readPtr = 0
  readBufferBytes : s.tls.readBufferBytes = 0
  encrypting : s.tls.encrypting = true
  wire : s.wire = recordWire records

theorem recordWire_recv (record : TlsRecord) (later : List TlsRecord) {room : Nat}
    (fits : record.cipher.length ≤ room) :
    (recordWire (record :: later)).recv room = (some record.cipher, recordWire later) := by
  have all : ciphers (record :: later) = record.cipher ++ ciphers later := by simp [ciphers]
  simp only [recordWire, Wire.recv, List.map_cons, List.headD_cons, List.tail_cons, all,
    Nat.min_eq_left fits, List.take_left', List.drop_left']

/-- The record that the next read brings is opened. -/
theorem Waiting.opened {record : TlsRecord} {later : List TlsRecord}
    (waiting : Waiting decryptMessage (record :: later) s) :
    let t := s.received record.cipher (recordWire later)
    let answer := decryptMessage t.context t.buffered
    Opened decryptMessage (record :: later) [] t answer record later [] ∧
      nextMessage decryptMessage s = (.ok (answer.status, answer.buffers), t.decrypted answer) := by
  intro t answer
  have short := record.cipher_short
  have header := record.header
  have size : readBufferSize = 32100 := rfl
  have none := waiting.readBufferBytes
  have front := waiting.readPtr
  have room : s.makeRoom = some (readBufferSize, s) := by
    simp only [makeRoom, none, front]
    rw [if_neg (by omega)]
    rfl
  have taken := recordWire_recv record later (show record.cipher.length ≤ readBufferSize by omega)
  rw [← waiting.wire] at taken
  have intact : Intact decryptMessage (record :: later) [] t :=
    waiting.intact.received (by omega) (by rw [waiting.wire]; rfl)
  have empty : s.buffered = [] := List.length_eq_zero_iff.mp (waiting.intact.buffered_length.trans none)
  have buffered : t.buffered = record.cipher ++ [] := by
    have within : s.tls.readPtr + s.tls.readBufferBytes ≤ s.tls.readBuffer.length := by
      rw [waiting.intact.readBuffer]
      omega
    have grown : t.buffered = s.buffered ++ record.cipher := window_overwrite_behind record.cipher within
    rw [grown, empty, List.append_nil]
    rfl
  have decrypts := intact.decrypts.1 []
  rw [← buffered] at decrypts
  have opened : Opened decryptMessage (record :: later) [] t answer record later [] :=
    ⟨intact, rfl, buffered, decrypts.1, decrypts.2, List.prefix_rfl⟩
  refine ⟨opened, ?_⟩
  have complete : answer.status ≠ secEIncompleteMessage := by
    rw [opened.opens.status]
    decide
  rw [nextMessage, if_pos none, receiveMessage]
  split
  · rename_i full
    cases full.symm.trans room
  · rename_i room' t' roomy
    obtain ⟨rfl, rfl⟩ := Prod.mk.inj (Option.some.inj (roomy.symm.trans room))
    split
    · rename_i failed
      cases failed.symm.trans taken
    · rename_i closed
      obtain ⟨nothing, -⟩ := Prod.mk.inj (closed.symm.trans taken)
      rw [← Option.some.inj nothing] at header
      exact absurd header (by decide)
    · rename_i byte more wire brought
      obtain ⟨bytes, rfl⟩ := Prod.mk.inj (brought.symm.trans taken)
      rw [Option.some.inj bytes]
      exact if_neg complete

theorem Waiting.recv {record : TlsRecord} {later : List TlsRecord}
    (waiting : Waiting decryptMessage (record :: later) s) :
    (recv decryptMessage (2 ^ 14) s).1 = .returned record.plain ∧
      Waiting decryptMessage later (recv decryptMessage (2 ^ 14) s).2 := by
  obtain ⟨opened, next⟩ := waiting.opened
  have none_cached : ¬ 0 < s.tls.plainTextBytes := by
    rw [← waiting.intact.cached_length]
    exact Nat.lt_irrefl 0
  have none_extra := opened.opens.extra.resolve_right fun more => more.1 rfl
  have ends := deliver_whole opened record.plain_short
  have intact := opened.consumed.keepExtra
  rw [keepExtra, none_extra.2] at ends intact
  rw [RecvState.recv, if_neg none_cached, if_pos waiting.encrypting, recvPartialEncrypted_eq, next]
  dsimp only
  rw [ends]
  exact ⟨rfl, intact, rfl, rfl, waiting.encrypting, rfl⟩

theorem Waiting.untold (waiting : Waiting decryptMessage records s)
    (some_empty : ∃ record ∈ records, record.plain = []) :
    ∃ lengths, (∀ length ∈ lengths, 0 < length) ∧ ¬ TellsEndAlong decryptMessage s lengths := by
  induction records generalizing s with
  | nil => simp at some_empty
  | cons record later ih =>
      obtain ⟨returned, waiting'⟩ := waiting.recv
      by_cases empty : record.plain = []
      · refine ⟨[2 ^ 14], by simp, fun told => ?_⟩
        rw [empty] at returned
        have stopped := (told.1 returned).1
        rw [waiting'.encrypting] at stopped
        cases stopped
      · obtain ⟨lengths, positive, untold⟩ := ih waiting' (by simpa [empty] using some_empty)
        refine ⟨2 ^ 14 :: lengths, ?_, fun told => untold told.2⟩
        simpa using positive

/-- `Recv` returns 0 for nothing but the end, in every run over the records, just when none of them
is empty. -/
theorem tellsEnd_iff {context : κ} (decrypts : Decrypts decryptMessage context records) :
    (∀ s lengths, s.context = context → s.tls.encrypting = true → Fresh records s →
      (∀ length ∈ lengths, 0 < length) → TellsEndAlong decryptMessage s lengths) ↔
      ∀ record ∈ records, record.plain ≠ [] := by
  constructor
  · intro told record member empty
    have fresh : Fresh records (⟨{ encrypting := true }, context, recordWire records, []⟩ : RecvState κ) :=
      ⟨List.length_replicate, List.length_replicate, rfl, Nat.zero_le _, rfl, rfl, rfl,
        by simp [recordWire]⟩
    have waiting : Waiting decryptMessage records ⟨{ encrypting := true }, context, recordWire records, []⟩ :=
      ⟨fresh.intact decrypts, rfl, rfl, rfl, rfl⟩
    obtain ⟨lengths, positive, untold⟩ := waiting.untold ⟨record, member, empty⟩
    exact untold (told _ lengths rfl rfl fresh positive)
  · rintro some_plain s lengths rfl - fresh positive
    exact tellsEndAlong_of_data (fresh.intact decrypts) some_plain positive

theorem tellsEnd_hi : TellsEndAlong decryptHi arriving [1, 1, 1] :=
  (tellsEnd_iff decryptHi_decrypts).mpr (by decide) arriving [1, 1, 1] rfl rfl arriving_fresh (by decide)

/-- A record without data, as servers send them against attacks on the cipher suite. -/
def blank : TlsRecord where
  cipher := [23, 3, 3, 0, 0]
  plain := []
  header := by decide
  cipher_short := by decide
  plain_short := by decide

def decryptBoth (context : Unit) (message : Bytes) : DecryptAnswer Unit :=
  if blank.cipher <+: message then
    let rest := message.length - 5
    let kind := if rest = 0 then .empty else .extra
    ⟨secEOk, message, [⟨.data, 5, 0⟩, ⟨.other, 5, 0⟩, ⟨kind, 5, rest⟩], ()⟩
  else decryptHi context message

theorem decryptBoth_hi {message : Bytes} (unlike : ¬ blank.cipher <+: message) :
    decryptBoth () message = decryptHi () message := if_neg unlike

theorem decryptBoth_decrypts : Decrypts decryptBoth () [blank, hi] := by
  have five : blank.cipher.length = 5 := rfl
  obtain ⟨opensHi, asksHi⟩ := decryptHi_decrypts
  refine ⟨fun rest => ⟨?_, ?_, ?_⟩, ?_⟩
  · rw [decryptBoth, if_pos (List.prefix_append _ _)]
    refine ⟨rfl, List.length_append, ⟨⟨.data, 5, 0⟩, rfl, ?_, rfl⟩, ?_⟩
    · simp [five]
    · cases rest with
      | nil => exact .inl ⟨rfl, rfl⟩
      | cons byte rest => exact .inr ⟨List.cons_ne_nil _ _, by simp [five], rfl⟩
  · intro rest
    have unlike : ¬ blank.cipher <+: hi.cipher ++ rest := by
      simp [blank, hi, List.cons_prefix_cons]
    rw [decryptBoth_hi unlike]
    exact opensHi rest
  · intro part shorter proper
    have unlike : ¬ blank.cipher <+: part := fun like => absurd (like.trans shorter) (by decide)
    rw [decryptBoth_hi unlike]
    exact asksHi part shorter proper
  · intro part shorter proper
    have few : part.length < 5 := by
      have most := shorter.length_le
      have other := mt shorter.eq_of_length proper
      omega
    have unlike : ¬ blank.cipher <+: part := fun like => absurd like.length_le (by omega)
    have unlikeHi : ¬ hi.cipher <+: part :=
      fun like => absurd (show 7 ≤ part.length from like.length_le) (by omega)
    exact ⟨[], by rw [decryptBoth_hi unlike, decryptHi, if_neg unlikeHi]⟩

def beforeBoth : RecvState Unit := ⟨{ encrypting := true }, (), recordWire [blank, hi], []⟩

/-- The first call returns nothing, and the second the data that was still to come. -/
theorem blank_taken_for_end :
    Decrypts decryptBoth () [blank, hi] ∧
    (recv decryptBoth (2 ^ 14) beforeBoth).1 = .returned [] ∧
    (recv decryptBoth (2 ^ 14) beforeBoth).2.tls.encrypting = true ∧
    (recv decryptBoth (2 ^ 14) (recv decryptBoth (2 ^ 14) beforeBoth).2).1 = .returned (ascii "hi") := by
  have fresh : Fresh [blank, hi] beforeBoth :=
    ⟨List.length_replicate, List.length_replicate, rfl, Nat.zero_le _, rfl, rfl, rfl,
      by simp [beforeBoth, recordWire]⟩
  have waiting : Waiting decryptBoth [blank, hi] beforeBoth :=
    ⟨fresh.intact decryptBoth_decrypts, rfl, rfl, rfl, rfl⟩
  obtain ⟨nothing, waiting'⟩ := waiting.recv
  exact ⟨decryptBoth_decrypts, nothing, waiting'.encrypting, waiting'.recv.1⟩

end RecvState

end LuaXENetwork
