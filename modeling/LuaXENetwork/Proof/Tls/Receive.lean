import LuaXENetwork.Proof.Socket.Winsock
import LuaXENetwork.Tls.Receive

/-! What `CSSLClient::Recv` hands over is the plaintext, from its start and without gaps. -/

namespace LuaXENetwork

/-! ## Windows -/

theorem length_window {memory : Bytes} {start count : Nat} (fits : start + count ≤ memory.length) :
    (window memory start count).length = count := by
  rw [window, List.length_take, List.length_drop]
  omega

theorem window_window (memory : Bytes) (start : Nat) {count offset length : Nat}
    (within : offset + length ≤ count) :
    window (window memory start count) offset length = window memory (start + offset) length := by
  rw [window, window, window, List.drop_take, List.take_take, List.drop_drop,
    Nat.min_eq_left (by omega)]

theorem window_append (memory : Bytes) (start count more : Nat) :
    window memory start (count + more) = window memory start count ++ window memory (start + count) more := by
  rw [window, window, window, List.take_add, List.drop_drop]

theorem window_overwrite {memory data : Bytes} {start : Nat} (within : start ≤ memory.length) :
    window (overwrite memory start data) start data.length = data := by
  have front : (memory.take start).length = start := by simp [within]
  rw [window, overwrite, List.append_assoc, List.drop_left' front, List.take_left]

theorem window_overwrite_before {memory data : Bytes} {start count offset : Nat}
    (before : start + count ≤ offset) (within : offset ≤ memory.length) :
    window (overwrite memory offset data) start count = window memory start count := by
  have front : (memory.take offset).length = offset := by simp [within]
  rw [window, overwrite, List.append_assoc, List.drop_append_of_le_length (by omega),
    List.take_append_of_le_length (by rw [List.length_drop]; omega), List.drop_take, List.take_take,
    Nat.min_eq_left (by omega), window]

theorem window_overwrite_behind {memory : Bytes} (data : Bytes) {start count : Nat}
    (within : start + count ≤ memory.length) :
    window (overwrite memory (start + count) data) start (count + data.length) =
      window memory start count ++ data := by
  rw [window_append, window_overwrite_before (Nat.le_refl _) within, window_overwrite within]

theorem overwrite_window {memory : Bytes} {start count : Nat} (fits : start + count ≤ memory.length) :
    overwrite memory start (window memory start count) = memory := by
  rw [overwrite, length_window fits, window, List.append_assoc, ← List.drop_drop, List.take_append_drop,
    List.take_append_drop]

/-! ## Records -/

/-- A TLS record and what it carries. -/
structure TlsRecord where
  cipher : Bytes
  plain : Bytes
  header : 5 ≤ cipher.length
  cipher_short : cipher.length ≤ 5 + 2 ^ 14 + 2048
  plain_short : plain.length ≤ 2 ^ 14

def ciphers (records : List TlsRecord) : Bytes := (records.map TlsRecord.cipher).flatten
def plains (records : List TlsRecord) : Bytes := (records.map TlsRecord.plain).flatten

variable {κ : Type}

structure Opens (record : TlsRecord) (rest : Bytes) (answer : DecryptAnswer κ) : Prop where
  status : answer.status = secEOk
  inPlace : answer.memory.length = record.cipher.length + rest.length
  data : ∃ buffer, answer.buffers.find? (·.type = .data) = some buffer ∧
    buffer.start + buffer.count ≤ answer.memory.length ∧
    window answer.memory buffer.start buffer.count = record.plain
  extra : (rest = [] ∧ answer.buffers.find? (·.type = .extra) = none) ∨
    (rest ≠ [] ∧
      answer.buffers.find? (·.type = .extra) = some ⟨.extra, record.cipher.length, rest.length⟩ ∧
      answer.memory.drop record.cipher.length = rest)

/-- `DecryptMessage` opens the records one by one, and asks for more where one is not complete. -/
def Decrypts (decryptMessage : κ → Bytes → DecryptAnswer κ) : κ → List TlsRecord → Prop
  | _, [] => True
  | context, record :: records =>
      (∀ rest, Opens record rest (decryptMessage context (record.cipher ++ rest)) ∧
        Decrypts decryptMessage (decryptMessage context (record.cipher ++ rest)).context records) ∧
      ∀ part, part <+: record.cipher → part ≠ record.cipher →
        ∃ buffers, decryptMessage context part = ⟨secEIncompleteMessage, part, buffers, context⟩

def RecvEnd.data : RecvEnd → Bytes
  | .returned data => data
  | .failed _ => []

def RecvEnd.Expected (ended : RecvEnd) : Prop :=
  ended ≠ .failed .inexplicablyFull ∧ ended ≠ .failed .plainTextOverflow

/-! ## What holds between the steps -/

namespace RecvState

structure InBounds (tls : SslClient) : Prop where
  cipher : tls.readPtr + tls.readBufferBytes ≤ readBufferSize
  plain : tls.plainTextBytes ≤ plainTextSize

/-- The ciphertext at hand and to come is that of the records left, with `cached` before them. -/
structure Intact (decryptMessage : κ → Bytes → DecryptAnswer κ) (records : List TlsRecord) (cached : Bytes)
    (s : RecvState κ) : Prop where
  readBuffer : s.tls.readBuffer.length = readBufferSize
  plainText : s.tls.plainText.length = plainTextSize
  inBounds : InBounds s.tls
  past : ∀ tls ∈ s.history, InBounds tls
  cachedBounds : s.tls.plainTextPtr + s.tls.plainTextBytes ≤ plainTextSize
  cached : window s.tls.plainText s.tls.plainTextPtr s.tls.plainTextBytes = cached
  stream : s.buffered ++ s.wire.incoming <+: ciphers records
  decrypts : Decrypts decryptMessage s.context records

def Awaits (records : List TlsRecord) (s : RecvState κ) : Prop :=
  (∃ record later, records = record :: later ∧ s.buffered <+: record.cipher ∧
    s.buffered ≠ record.cipher) ∨
  (s.buffered = [] ∧ s.wire.incoming = [])

theorem Awaits.short {records : List TlsRecord} {s : RecvState κ} (awaits : Awaits records s) :
    s.buffered.length ≤ 5 + 2 ^ 14 + 2048 := by
  rcases awaits with ⟨record, later, -, part, -⟩ | ⟨empty, -⟩
  · exact part.length_le.trans record.cipher_short
  · simp [empty]

structure Opened (decryptMessage : κ → Bytes → DecryptAnswer κ) (records : List TlsRecord) (cached : Bytes)
    (s : RecvState κ) (answer : DecryptAnswer κ) (record : TlsRecord) (later : List TlsRecord)
    (rest : Bytes) : Prop where
  intact : Intact decryptMessage records cached s
  records : records = record :: later
  buffered : s.buffered = record.cipher ++ rest
  opens : Opens record rest answer
  decrypts : Decrypts decryptMessage answer.context later
  stream : rest ++ s.wire.incoming <+: ciphers later

namespace Intact

variable {decryptMessage : κ → Bytes → DecryptAnswer κ} {records : List TlsRecord} {cached : Bytes}
  {s t : RecvState κ}

theorem buffered_length (intact : Intact decryptMessage records cached s) :
    s.buffered.length = s.tls.readBufferBytes :=
  length_window (by rw [intact.readBuffer]; exact intact.inBounds.cipher)

theorem cached_length (intact : Intact decryptMessage records cached s) :
    cached.length = s.tls.plainTextBytes := by
  rw [← intact.cached]
  exact length_window (by rw [intact.plainText]; exact intact.cachedBounds)

theorem past_update (past : ∀ tls ∈ s.history, InBounds tls) {f : SslClient → SslClient}
    (inBounds : InBounds (f s.tls)) : ∀ tls ∈ (s.update f).history, InBounds tls := by
  intro tls member
  rcases List.mem_append.mp member with before | now
  · exact past tls before
  · exact List.mem_singleton.mp now ▸ inBounds

theorem flags (intact : Intact decryptMessage records cached s) {f : SslClient → SslClient} {error : Nat}
    {encrypting : Bool} (same : f s.tls = { s.tls with lastError := error, encrypting := encrypting }) :
    Intact decryptMessage records cached (s.update f) := by
  have inBounds : InBounds (f s.tls) := same ▸ ⟨intact.inBounds.cipher, intact.inBounds.plain⟩
  have tls : (s.update f).tls = { s.tls with lastError := error, encrypting := encrypting } := same
  constructor
  case past => exact past_update intact.past inBounds
  case decrypts => exact intact.decrypts
  case inBounds => exact inBounds
  case stream =>
    rw [RecvState.buffered, tls]
    exact intact.stream
  all_goals rw [tls]
  · exact intact.readBuffer
  · exact intact.plainText
  · exact intact.cachedBounds
  · exact intact.cached

theorem wire (intact : Intact decryptMessage records cached s) (wire : Wire)
    (same : wire.incoming = s.wire.incoming) :
    Intact decryptMessage records cached { s with wire := wire } where
  readBuffer := intact.readBuffer
  plainText := intact.plainText
  inBounds := intact.inBounds
  past := intact.past
  cachedBounds := intact.cachedBounds
  cached := intact.cached
  stream := by
    rw [same]
    exact intact.stream
  decrypts := intact.decrypts

theorem buffered_cases (intact : Intact decryptMessage records cached s) :
    (∃ record later rest, records = record :: later ∧ s.buffered = record.cipher ++ rest ∧
      rest ++ s.wire.incoming <+: ciphers later) ∨
    (∃ record later, records = record :: later ∧ s.buffered <+: record.cipher ∧
      s.buffered ≠ record.cipher) ∨
    (s.buffered = [] ∧ s.wire.incoming = []) := by
  have stream := intact.stream
  cases records with
  | nil =>
      have none_left : s.buffered ++ s.wire.incoming = [] := List.prefix_nil.mp stream
      exact .inr (.inr (List.append_eq_nil_iff.mp none_left))
  | cons record later =>
      have all : ciphers (record :: later) = record.cipher ++ ciphers later := by simp [ciphers]
      rw [all] at stream
      have ours : s.buffered <+: record.cipher ++ ciphers later := (List.prefix_append _ _).trans stream
      rcases List.prefix_or_prefix_of_prefix ours (List.prefix_append _ _) with part | whole
      · by_cases complete : s.buffered = record.cipher
        · refine .inl ⟨record, later, [], rfl, by simpa using complete, ?_⟩
          rw [complete, List.prefix_append_right_inj] at stream
          exact stream
        · exact .inr (.inl ⟨record, later, rfl, part, complete⟩)
      · obtain ⟨rest, split⟩ := whole
        refine .inl ⟨record, later, rest, rfl, split.symm, ?_⟩
        rw [← split, List.append_assoc, List.prefix_append_right_inj] at stream
        exact stream

theorem awaits_of_empty (intact : Intact decryptMessage records cached s) (empty : s.buffered = []) :
    Awaits records s := by
  rcases intact.buffered_cases with ⟨record, later, rest, -, whole, -⟩ | awaits
  · have header := record.header
    rw [empty] at whole
    rw [(List.append_eq_nil_iff.mp whole.symm).1] at header
    exact absurd header (by simp)
  · exact awaits

theorem makeRoom_holds (intact : Intact decryptMessage records cached s) (awaits : Awaits records s) :
    ∃ room t, s.makeRoom = some (room, t) ∧ Intact decryptMessage records cached t ∧
      t.buffered = s.buffered ∧ t.tls.readPtr + t.tls.readBufferBytes + room = readBufferSize := by
  have short := awaits.short
  have bounds := intact.inBounds.cipher
  rw [intact.buffered_length] at short
  have size : readBufferSize = 32100 := rfl
  rw [RecvState.makeRoom]
  by_cases full : readBufferSize - s.tls.readBufferBytes - s.tls.readPtr = 0
  · have behind : 0 < s.tls.readPtr := by omega
    rw [if_pos full, if_pos behind]
    have rest : readBufferSize - s.tls.readPtr = s.tls.readBufferBytes := by omega
    rw [rest]
    have same : window (overwrite s.tls.readBuffer 0
        (window s.tls.readBuffer s.tls.readPtr s.tls.readBufferBytes)) 0 s.tls.readBufferBytes =
        s.buffered := by
      have front : window (overwrite s.tls.readBuffer 0 s.buffered) 0 s.buffered.length = s.buffered :=
        window_overwrite (Nat.zero_le _)
      rwa [intact.buffered_length] at front
    have length := intact.buffered_length
    rw [RecvState.buffered] at length
    refine ⟨_, _, rfl, ?_, same, by simp [RecvState.update]; omega⟩
    have inside : InBounds { s.tls with
        readBuffer := overwrite s.tls.readBuffer 0
          (window s.tls.readBuffer s.tls.readPtr s.tls.readBufferBytes)
        readPtr := 0 } := ⟨by dsimp only; omega, intact.inBounds.plain⟩
    exact {
      readBuffer := by
        rw [RecvState.update, length_overwrite (by rw [length, intact.readBuffer]; omega), intact.readBuffer]
      plainText := intact.plainText
      inBounds := inside
      past := past_update intact.past inside
      cachedBounds := intact.cachedBounds
      cached := intact.cached
      stream := by
        rw [RecvState.buffered, RecvState.update]
        dsimp only
        rw [same]
        exact intact.stream
      decrypts := intact.decrypts }
  · rw [if_neg full]
    exact ⟨_, s, rfl, intact, rfl, by omega⟩

theorem received (intact : Intact decryptMessage records cached s) {data : Bytes} {wire : Wire}
    (fits : s.tls.readPtr + s.tls.readBufferBytes + data.length ≤ readBufferSize)
    (incoming : s.wire.incoming = data ++ wire.incoming) :
    Intact decryptMessage records cached (s.received data wire) := by
  have inside : InBounds (s.received data wire).tls := {
    cipher := by
      simp only [RecvState.received, RecvState.update]
      omega
    plain := intact.inBounds.plain }
  exact {
    readBuffer := by
      simp only [RecvState.received, RecvState.update]
      rw [length_overwrite (by rw [intact.readBuffer]; omega), intact.readBuffer]
    plainText := intact.plainText
    inBounds := inside
    past := past_update (s := { s with wire := wire }) intact.past inside
    cachedBounds := intact.cachedBounds
    cached := intact.cached
    stream := by
      have grown : (s.received data wire).buffered = s.buffered ++ data := by
        simp only [RecvState.received, RecvState.buffered, RecvState.update]
        exact window_overwrite_behind data (by rw [intact.readBuffer]; omega)
      rw [grown, List.append_assoc, RecvState.received, RecvState.update, ← incoming]
      exact intact.stream
    decrypts := intact.decrypts }

theorem decrypted_cases (intact : Intact decryptMessage records cached s) (some_bytes : s.buffered ≠ []) :
    let answer := decryptMessage s.context s.buffered
    (answer.status = secEIncompleteMessage ∧ Intact decryptMessage records cached (s.decrypted answer) ∧
      Awaits records (s.decrypted answer)) ∨
    ∃ record later rest, Opened decryptMessage records cached s answer record later rest := by
  intro answer
  have decrypts := intact.decrypts
  rcases intact.buffered_cases with ⟨record, later, rest, rfl, whole, stream⟩ |
    ⟨record, later, rfl, part, proper⟩ | ⟨empty, -⟩
  · have opens := decrypts.1 rest
    rw [← whole] at opens
    exact .inr ⟨record, later, rest, intact, rfl, whole, opens.1, opens.2, stream⟩
  · obtain ⟨buffers, incomplete⟩ := decrypts.2 _ part proper
    have same : s.decrypted answer = s.update fun tls => tls := by
      have kept : overwrite s.tls.readBuffer s.tls.readPtr
          (window s.tls.readBuffer s.tls.readPtr s.tls.readBufferBytes) = s.tls.readBuffer :=
        overwrite_window (by rw [intact.readBuffer]; exact intact.inBounds.cipher)
      simp only [answer, incomplete, RecvState.decrypted, RecvState.buffered, RecvState.update, kept]
    rw [same]
    refine .inl ⟨by simp only [answer, incomplete], intact.flags rfl, .inl ⟨record, later, rfl, part, proper⟩⟩
  · exact absurd empty some_bytes

end Intact

open Intact

variable {decryptMessage : κ → Bytes → DecryptAnswer κ} {records : List TlsRecord} {cached : Bytes}
  {s t : RecvState κ}

def Obtains (decryptMessage : κ → Bytes → DecryptAnswer κ) (records : List TlsRecord) (cached : Bytes) :
    Except RecvEnd (UInt32 × List SecBuffer) × RecvState κ → Prop
  | (.error ended, s) => Intact decryptMessage records cached s ∧ ended.data = [] ∧ ended.Expected
  | (.ok (scRet, buffers), s) => ∃ t answer record later rest,
      Opened decryptMessage records cached t answer record later rest ∧ s = t.decrypted answer ∧
        scRet = answer.status ∧ buffers = answer.buffers

theorem Wire.recv_cases (wire : Wire) (length : Nat) :
    (∃ answers, wire.recv length = (none, ⟨wire.incoming, answers⟩)) ∨
    ∃ data wire', wire.recv length = (some data, wire') ∧ data.length ≤ length ∧
      wire.incoming = data ++ wire'.incoming := by
  unfold Wire.recv
  split
  · rename_i count _
    refine .inr ⟨_, _, rfl, by rw [List.length_take]; omega, ?_⟩
    have whole : wire.incoming.take (wire.incoming.take (min count length)).length =
        wire.incoming.take (min count length) := by simp [List.take_eq_take_iff]
    have split := List.take_append_drop (wire.incoming.take (min count length)).length wire.incoming
    rw [whole] at split
    exact split.symm
  · exact .inl ⟨_, rfl⟩

theorem turn_holds (intact : Intact decryptMessage records cached s) (awaits : Awaits records s)
    {room : Nat} (roomy : s.makeRoom = some (room, t)) {wire : Wire} :
    (t.wire.recv room = (none, wire) → Intact decryptMessage records cached { t with wire := wire }) ∧
    (t.wire.recv room = (some [], wire) → Intact decryptMessage records cached { t with wire := wire }) ∧
    ∀ data, t.wire.recv room = (some data, wire) →
      Intact decryptMessage records cached (t.received data wire) := by
  obtain ⟨room', t', roomy', intact', -, fits⟩ := intact.makeRoom_holds awaits
  obtain ⟨rfl, rfl⟩ := Prod.mk.inj (Option.some.inj (roomy'.symm.trans roomy))
  have taken (data : Bytes) (answer : t'.wire.recv room' = (some data, wire)) :
      data.length ≤ room' ∧ t'.wire.incoming = data ++ wire.incoming := by
    rcases Wire.recv_cases t'.wire room' with ⟨answers, failed⟩ | ⟨data', wire', got, few, incoming⟩
    · exact absurd (failed.symm.trans answer) nofun
    · obtain ⟨same, rfl⟩ := Prod.mk.inj (got.symm.trans answer)
      obtain rfl := Option.some.inj same
      exact ⟨few, incoming⟩
  refine ⟨fun answer => ?_, fun answer => ?_, fun data answer => ?_⟩
  · rcases Wire.recv_cases t'.wire room' with ⟨answers, failed⟩ | ⟨data, wire', got, -⟩
    · obtain ⟨-, rfl⟩ := Prod.mk.inj (failed.symm.trans answer)
      exact intact'.wire _ rfl
    · exact absurd (got.symm.trans answer) nofun
  · exact intact'.wire _ (taken [] answer).2.symm
  · obtain ⟨few, incoming⟩ := taken data answer
    exact intact'.received (by omega) incoming

theorem received_nonempty {data : Bytes} {wire : Wire}
    (intact : Intact decryptMessage records cached (t.received data wire)) (some_bytes : data ≠ []) :
    (t.received data wire).buffered ≠ [] := by
  intro empty
  have length := intact.buffered_length
  rw [empty] at length
  simp only [received, update, List.length_nil] at length
  exact some_bytes (List.length_eq_zero_iff.mp (by omega))

theorem receiveMessage_obtains (intact : Intact decryptMessage records cached s)
    (awaits : Awaits records s) :
    Obtains decryptMessage records cached (receiveMessage decryptMessage s) := by
  fun_induction receiveMessage decryptMessage s with
  | case1 s full =>
      obtain ⟨room, t, roomy, -⟩ := intact.makeRoom_holds awaits
      exact absurd (full.symm.trans roomy) nofun
  | case2 s room t roomy wire failed =>
      exact ⟨((turn_holds intact awaits roomy).1 failed).flags rfl, rfl, nofun, nofun⟩
  | case3 s room t roomy wire closed =>
      exact ⟨((turn_holds intact awaits roomy).2.1 closed).flags rfl, rfl, nofun, nofun⟩
  | case4 s room t roomy byte more wire taken t' answer incomplete ih =>
      have turned := (turn_holds intact awaits roomy).2.2 _ taken
      rcases turned.decrypted_cases (received_nonempty turned (List.cons_ne_nil _ _)) with
        ⟨-, intact', awaits'⟩ | ⟨record, later, rest, opened⟩
      · exact ih intact' awaits'
      · exact absurd (opened.opens.status.symm.trans incomplete) (by decide)
  | case5 s room t roomy byte more wire taken t' answer complete =>
      have turned := (turn_holds intact awaits roomy).2.2 _ taken
      rcases turned.decrypted_cases (received_nonempty turned (List.cons_ne_nil _ _)) with
        ⟨incomplete, -⟩ | ⟨record, later, rest, opened⟩
      · exact absurd incomplete complete
      · exact ⟨t', answer, record, later, rest, opened, rfl, rfl, rfl⟩

structure Consumed (decryptMessage : κ → Bytes → DecryptAnswer κ) (later : List TlsRecord) (cached : Bytes)
    (rest : Bytes) (buffers : List SecBuffer) (s : RecvState κ) : Prop where
  readBuffer : s.tls.readBuffer.length = readBufferSize
  plainText : s.tls.plainText.length = plainTextSize
  inBounds : InBounds s.tls
  past : ∀ tls ∈ s.history, InBounds tls
  cachedBounds : s.tls.plainTextPtr + s.tls.plainTextBytes ≤ plainTextSize
  cached : window s.tls.plainText s.tls.plainTextPtr s.tls.plainTextBytes = cached
  stream : rest ++ s.wire.incoming <+: ciphers later
  decrypts : Decrypts decryptMessage s.context later
  extra : (rest = [] ∧ buffers.find? (·.type = .extra) = none) ∨
    ∃ extra, buffers.find? (·.type = .extra) = some extra ∧ extra.count ≤ s.tls.readBufferBytes ∧
      s.tls.readPtr + extra.start + extra.count ≤ readBufferSize ∧
      window s.tls.readBuffer (s.tls.readPtr + extra.start) extra.count = rest

theorem Consumed.keepExtra {later : List TlsRecord} {rest : Bytes} {buffers : List SecBuffer}
    (consumed : Consumed decryptMessage later cached rest buffers s) :
    Intact decryptMessage later cached (s.keepExtra buffers) := by
  have plain := consumed.inBounds.plain
  have cipher := consumed.inBounds.cipher
  rcases consumed.extra with ⟨rfl, none_left⟩ | ⟨extra, found, few, fits, rest_eq⟩
  · have first : InBounds { s.tls with readBufferBytes := 0 } := ⟨by dsimp only; omega, plain⟩
    have second : InBounds { s.tls with readBufferBytes := 0, readPtr := 0 } := ⟨Nat.zero_le _, plain⟩
    rw [RecvState.keepExtra, none_left]
    exact {
      readBuffer := consumed.readBuffer
      plainText := consumed.plainText
      inBounds := second
      past := past_update (past_update consumed.past first) second
      cachedBounds := consumed.cachedBounds
      cached := consumed.cached
      stream := consumed.stream
      decrypts := consumed.decrypts }
  · have first : InBounds { s.tls with readBufferBytes := extra.count } := ⟨by dsimp only; omega, plain⟩
    have second : InBounds { s.tls with
        readBufferBytes := extra.count
        readPtr := s.tls.readPtr + extra.start } := ⟨fits, plain⟩
    rw [RecvState.keepExtra, found]
    exact {
      readBuffer := consumed.readBuffer
      plainText := consumed.plainText
      inBounds := second
      past := past_update (past_update consumed.past first) second
      cachedBounds := consumed.cachedBounds
      cached := consumed.cached
      stream := by
        have left : ((s.update fun tls => { tls with readBufferBytes := extra.count }).update fun tls =>
            { tls with readPtr := tls.readPtr + extra.start }).buffered = rest := rest_eq
        rw [left]
        exact consumed.stream
      decrypts := consumed.decrypts }

variable {answer : DecryptAnswer κ} {record : TlsRecord} {later : List TlsRecord} {rest : Bytes}

theorem Opened.inPlace (opened : Opened decryptMessage records cached s answer record later rest) :
    answer.memory.length = s.tls.readBufferBytes := by
  rw [opened.opens.inPlace, ← List.length_append, ← opened.buffered, opened.intact.buffered_length]

theorem Opened.window_decrypted (opened : Opened decryptMessage records cached s answer record later rest)
    {start count : Nat} (within : start + count ≤ answer.memory.length) :
    window (s.decrypted answer).tls.readBuffer ((s.decrypted answer).tls.readPtr + start) count =
      window answer.memory start count := by
  have bounds := opened.intact.inBounds.cipher
  have written : window (s.decrypted answer).tls.readBuffer s.tls.readPtr answer.memory.length =
      answer.memory := window_overwrite (by rw [opened.intact.readBuffer]; omega)
  calc
    _ = window (window (s.decrypted answer).tls.readBuffer s.tls.readPtr answer.memory.length) start count :=
      (window_window _ _ within).symm
    _ = window answer.memory start count := by rw [written]

theorem Opened.consumed (opened : Opened decryptMessage records cached s answer record later rest) :
    Consumed decryptMessage later cached rest answer.buffers (s.decrypted answer) := by
  have inPlace := opened.inPlace
  have whole := opened.opens.inPlace
  have bounds := opened.intact.inBounds.cipher
  have inBounds : InBounds { s.tls with
      readBuffer := overwrite s.tls.readBuffer s.tls.readPtr answer.memory } :=
    ⟨bounds, opened.intact.inBounds.plain⟩
  have past : ∀ tls ∈ (s.update fun tls => { tls with
      readBuffer := overwrite tls.readBuffer tls.readPtr answer.memory }).history, InBounds tls :=
    past_update opened.intact.past inBounds
  exact {
    readBuffer := by
      simp only [RecvState.decrypted, RecvState.update]
      rw [length_overwrite (by rw [opened.intact.readBuffer, inPlace]; exact bounds),
        opened.intact.readBuffer]
    plainText := opened.intact.plainText
    inBounds := inBounds
    past := past
    cachedBounds := opened.intact.cachedBounds
    cached := opened.intact.cached
    stream := opened.stream
    decrypts := opened.decrypts
    extra := by
      rcases opened.opens.extra with none_left | ⟨-, found, left⟩
      · exact .inl none_left
      · have start : (s.decrypted answer).tls.readPtr = s.tls.readPtr := rfl
        have bytes : (s.decrypted answer).tls.readBufferBytes = s.tls.readBufferBytes := rfl
        refine .inr ⟨_, found, ?_, ?_, ?_⟩
        · dsimp only
          omega
        · dsimp only
          omega
        · rw [opened.window_decrypted (by dsimp only; omega), window, left, List.take_length] }

/-! ## A call, and one after the other -/

theorem recvPartialEncrypted_eq (length : Nat) (s : RecvState κ) :
    recvPartialEncrypted decryptMessage length s = match (nextMessage decryptMessage s).1 with
      | .error ended => (ended, (nextMessage decryptMessage s).2)
      | .ok (scRet, buffers) => (nextMessage decryptMessage s).2.deliver length scRet buffers := rfl

/-- A record that the caller has room for is handed over as a whole. -/
theorem deliver_whole {answer : DecryptAnswer κ} {record : TlsRecord} {later : List TlsRecord}
    {rest : Bytes} (opened : Opened decryptMessage records cached s answer record later rest) {length : Nat}
    (fits : record.plain.length ≤ length) :
    (s.decrypted answer).deliver length answer.status answer.buffers =
      (.returned record.plain, (s.decrypted answer).keepExtra answer.buffers) := by
  obtain ⟨buffer, found, within, plain⟩ := opened.opens.data
  have count : record.plain.length = buffer.count := plain ▸ length_window within
  rw [deliver, opened.opens.status, if_neg (by decide), if_neg (by simp), found]
  dsimp only
  rw [opened.window_decrypted within, plain, if_pos (count ▸ fits)]

/-- An opened record is handed over from its start, and what is left of it is cached. -/
theorem deliver_opened {answer : DecryptAnswer κ} {record : TlsRecord} {later : List TlsRecord}
    {rest : Bytes} (opened : Opened decryptMessage records [] s answer record later rest) (length : Nat) :
    ((s.decrypted answer).deliver length answer.status answer.buffers).1 =
        .returned (record.plain.take length) ∧
      Intact decryptMessage later (record.plain.drop length)
        ((s.decrypted answer).deliver length answer.status answer.buffers).2 := by
  have consumed := opened.consumed
  by_cases all : record.plain.length ≤ length
  · rw [deliver_whole opened all, List.take_of_length_le all, List.drop_of_length_le all]
    exact ⟨rfl, consumed.keepExtra⟩
  · obtain ⟨buffer, found, within, plain⟩ := opened.opens.data
    have short := record.plain_short
    have count : record.plain.length = buffer.count := plain ▸ length_window within
    have size : plainTextSize = 32000 := rfl
    rw [deliver, opened.opens.status, if_neg (by decide), if_neg (by simp), found]
    dsimp only
    rw [opened.window_decrypted within, plain, if_neg (count ▸ all), if_neg (by omega)]
    have inBounds : InBounds { (s.decrypted answer).tls with
        plainTextBytes := buffer.count - length
        plainTextPtr := 0 } := ⟨consumed.inBounds.cipher, by dsimp only; omega⟩
    have rest_length : (record.plain.drop length).length = buffer.count - length := by
      rw [List.length_drop, count]
    have stored : window (overwrite (s.decrypted answer).tls.plainText 0 (record.plain.drop length)) 0
        (buffer.count - length) = record.plain.drop length := by
      rw [← rest_length]
      exact window_overwrite (Nat.zero_le _)
    refine ⟨rfl, Consumed.keepExtra (?_ : Consumed _ _ _ rest _ _)⟩
    exact { consumed with
      plainText := by
        simp only [update]
        rw [length_overwrite (by rw [rest_length, consumed.plainText]; omega), consumed.plainText]
      inBounds := ⟨inBounds.cipher, inBounds.plain⟩
      past := past_update (past_update consumed.past inBounds) ⟨inBounds.cipher, inBounds.plain⟩
      cachedBounds := by simp only [update]; omega
      cached := stored }

/-- What is in the buffer, or comes in, is either no whole message or the next record. -/
theorem nextMessage_obtains (intact : Intact decryptMessage records [] s) :
    Obtains decryptMessage records [] (nextMessage decryptMessage s) := by
  have counted := intact.buffered_length
  unfold nextMessage
  dsimp only
  split
  · rename_i none_left
    refine receiveMessage_obtains intact (intact.awaits_of_empty ?_)
    exact List.length_eq_zero_iff.mp (counted.trans none_left)
  · rename_i some_left
    have some_bytes : s.buffered ≠ [] := fun empty => some_left (by rw [← counted, empty]; rfl)
    rcases intact.decrypted_cases some_bytes with
      ⟨incomplete, intact', awaits'⟩ | ⟨record, later, rest, opened⟩
    · rw [if_pos incomplete]
      exact receiveMessage_obtains intact' awaits'
    · rw [if_neg (by rw [opened.opens.status]; decide)]
      exact ⟨s, _, record, later, rest, opened, rfl, rfl, rfl⟩

/-- A call without cached plaintext opens the next record, or ends without data. -/
theorem recvPartialEncrypted_cases (intact : Intact decryptMessage records [] s) (length : Nat) :
    (∃ scRet buffers t record later,
      nextMessage decryptMessage s = (.ok (scRet, buffers), t) ∧ records = record :: later ∧
      recvPartialEncrypted decryptMessage length s = t.deliver length scRet buffers ∧
      (t.deliver length scRet buffers).1 = .returned (record.plain.take length) ∧
      Intact decryptMessage later (record.plain.drop length) (t.deliver length scRet buffers).2) ∨
    ∃ ended t, nextMessage decryptMessage s = (.error ended, t) ∧
      recvPartialEncrypted decryptMessage length s = (ended, t) ∧
      Intact decryptMessage records [] t ∧ ended.data = [] ∧ ended.Expected := by
  have ends := nextMessage_obtains intact
  rw [recvPartialEncrypted_eq]
  rcases next : nextMessage decryptMessage s with ⟨ended | ⟨scRet, buffers⟩, s'⟩
  all_goals rw [next] at ends
  · obtain ⟨intact', nothing, expected⟩ := ends
    exact .inr ⟨ended, s', rfl, rfl, intact', nothing, expected⟩
  · obtain ⟨t, answer, record, later, rest, opened, rfl, rfl, rfl⟩ := ends
    obtain ⟨returned, intact'⟩ := deliver_opened opened length
    exact .inl ⟨_, _, _, record, later, rfl, opened.records, rfl, returned, intact'⟩

def Hands (decryptMessage : κ → Bytes → DecryptAnswer κ) (records : List TlsRecord) (cached : Bytes)
    (result : RecvEnd × RecvState κ) : Prop :=
  ∃ records' cached', Intact decryptMessage records' cached' result.2 ∧
    result.1.data ++ (cached' ++ plains records') = cached ++ plains records ∧ result.1.Expected

theorem recvPartialEncrypted_hands (intact : Intact decryptMessage records [] s) (length : Nat) :
    Hands decryptMessage records [] (recvPartialEncrypted decryptMessage length s) := by
  rcases recvPartialEncrypted_cases intact length with
    ⟨scRet, buffers, t, record, later, -, rfl, same, returned, intact'⟩ |
    ⟨ended, t, -, ends, intact', nothing, expected⟩
  · rw [same]
    refine ⟨later, _, intact', ?_, by rw [returned]; nofun, by rw [returned]; nofun⟩
    rw [returned, RecvEnd.data, ← List.append_assoc, List.take_append_drop]
    rfl
  · rw [ends]
    exact ⟨records, [], intact', by simp [nothing], expected⟩

/-- Cached plaintext is handed over from its start, and the rest stays cached. -/
theorem recv_cached (intact : Intact decryptMessage records cached s) (some_cached : 0 < s.tls.plainTextBytes)
    (length : Nat) : (recv decryptMessage length s).1 = .returned (cached.take length) ∧
      Intact decryptMessage records (cached.drop length) (recv decryptMessage length s).2 := by
  have cached_length := intact.cached_length
  have cachedBounds := intact.cachedBounds
  unfold recv
  rw [if_pos some_cached]
  split
  · have inBounds : InBounds { s.tls with plainTextBytes := 0 } :=
      ⟨intact.inBounds.cipher, Nat.zero_le _⟩
    rw [List.take_of_length_le (by omega), List.drop_of_length_le (by omega), intact.cached]
    refine ⟨rfl, ?_⟩
    exact { intact with
      inBounds := inBounds
      past := past_update intact.past inBounds
      cachedBounds := by simp only [update]; omega
      cached := rfl }
  · rename_i part
    have plain := intact.inBounds.plain
    have first : InBounds { s.tls with plainTextPtr := s.tls.plainTextPtr + length } :=
      ⟨intact.inBounds.cipher, plain⟩
    have second : InBounds { s.tls with
        plainTextPtr := s.tls.plainTextPtr + length
        plainTextBytes := s.tls.plainTextBytes - length } :=
      ⟨intact.inBounds.cipher, by dsimp only; omega⟩
    have front : window s.tls.plainText s.tls.plainTextPtr length = cached.take length := by
      rw [← intact.cached, window, window, List.take_take, Nat.min_eq_left (by omega)]
    have behind : window s.tls.plainText (s.tls.plainTextPtr + length) (s.tls.plainTextBytes - length) =
        cached.drop length := by
      rw [← intact.cached, window, window, List.drop_take, List.drop_drop]
    refine ⟨congrArg RecvEnd.returned front, ?_⟩
    exact { intact with
      inBounds := second
      past := past_update (past_update intact.past first) second
      cachedBounds := by simp only [update]; omega
      cached := behind }

theorem recv_hands (intact : Intact decryptMessage records cached s) (length : Nat) :
    Hands decryptMessage records cached (recv decryptMessage length s) := by
  by_cases some_cached : 0 < s.tls.plainTextBytes
  · obtain ⟨returned, intact'⟩ := recv_cached intact some_cached length
    refine ⟨records, _, intact', ?_, by rw [returned]; nofun, by rw [returned]; nofun⟩
    rw [returned, RecvEnd.data, ← List.append_assoc, List.take_append_drop]
  · obtain rfl : cached = [] := List.length_eq_zero_iff.mp (by have := intact.cached_length; omega)
    rw [recv, if_neg some_cached]
    split
    · exact recvPartialEncrypted_hands intact length
    · have kept : Intact decryptMessage records [] (s.update fun tls => { tls with
          lastError := errorFileNotEncrypted }) := intact.flags rfl
      exact ⟨records, [], kept, rfl, nofun, nofun⟩

theorem recvs_hands (intact : Intact decryptMessage records cached s) (lengths : List Nat) :
    ∃ records' cached', Intact decryptMessage records' cached' (recvs decryptMessage lengths s).2 ∧
      ((recvs decryptMessage lengths s).1.map RecvEnd.data).flatten ++ (cached' ++ plains records') =
        cached ++ plains records ∧
      ∀ ended ∈ (recvs decryptMessage lengths s).1, ended.Expected := by
  induction lengths generalizing s records cached with
  | nil => exact ⟨records, cached, intact, by simp [recvs], by simp [recvs]⟩
  | cons length lengths ih =>
      obtain ⟨records', cached', intact', hands, expected⟩ := recv_hands intact length
      obtain ⟨records'', cached'', intact'', rest, all⟩ := ih intact'
      refine ⟨records'', cached'', intact'', ?_, ?_⟩
      · rw [← hands, ← rest]
        simp [recvs]
      · simpa [recvs] using ⟨expected, all⟩

/-- The client as the handshake leaves it, with what was read of the application's data. -/
structure Fresh (records : List TlsRecord) (s : RecvState κ) : Prop where
  readBuffer : s.tls.readBuffer.length = readBufferSize
  plainText : s.tls.plainText.length = plainTextSize
  readPtr : s.tls.readPtr = 0
  within : s.tls.readBufferBytes ≤ readBufferSize
  plainTextPtr : s.tls.plainTextPtr = 0
  plainTextBytes : s.tls.plainTextBytes = 0
  history : s.history = []
  stream : s.tls.readBuffer.take s.tls.readBufferBytes ++ s.wire.incoming <+: ciphers records

theorem Fresh.intact (fresh : Fresh records s) (decrypts : Decrypts decryptMessage s.context records) :
    Intact decryptMessage records [] s where
  readBuffer := fresh.readBuffer
  plainText := fresh.plainText
  inBounds := ⟨by rw [fresh.readPtr, Nat.zero_add]; exact fresh.within,
    by rw [fresh.plainTextBytes]; exact Nat.zero_le _⟩
  past := by simp [fresh.history]
  cachedBounds := by rw [fresh.plainTextPtr, fresh.plainTextBytes]; exact Nat.zero_le _
  cached := by rw [fresh.plainTextBytes]; rfl
  stream := by
    have front : s.buffered = s.tls.readBuffer.take s.tls.readBufferBytes := by
      rw [buffered, window, fresh.readPtr, List.drop_zero]
    rw [front]
    exact fresh.stream
  decrypts := decrypts

/-- Whatever the calls ask for and however the ciphertext comes in. -/
theorem recvs_delivers (decrypts : Decrypts decryptMessage s.context records) (fresh : Fresh records s)
    (lengths : List Nat) :
    let (ends, s') := recvs decryptMessage lengths s
    (ends.map RecvEnd.data).flatten <+: plains records ∧ (∀ tls ∈ s'.history, InBounds tls) ∧
      ∀ ended ∈ ends, ended ≠ .failed .inexplicablyFull ∧ ended ≠ .failed .plainTextOverflow := by
  obtain ⟨records', cached, intact, delivered, expected⟩ := recvs_hands (fresh.intact decrypts) lengths
  refine ⟨?_, intact.past, expected⟩
  rw [List.nil_append] at delivered
  exact ⟨_, delivered⟩

/-- A record of a cipher suite that does not encrypt. -/
def hi : TlsRecord where
  cipher := [23, 3, 3, 0, 2] ++ ascii "hi"
  plain := ascii "hi"
  header := by decide
  cipher_short := by decide
  plain_short := by decide

def decryptHi (_ : Unit) (message : Bytes) : DecryptAnswer Unit :=
  if hi.cipher <+: message then
    let rest := message.length - 7
    let kind := if rest = 0 then .empty else .extra
    ⟨secEOk, message, [⟨.data, 5, 2⟩, ⟨.other, 7, 0⟩, ⟨kind, 7, rest⟩], ()⟩
  else ⟨secEIncompleteMessage, message, [], ()⟩

theorem decryptHi_decrypts : Decrypts decryptHi () [hi] := by
  refine ⟨fun rest => ⟨?_, trivial⟩, fun part shorter proper => ⟨[], ?_⟩⟩
  · have seven : hi.cipher.length = 7 := rfl
    rw [decryptHi, if_pos (List.prefix_append _ _)]
    refine ⟨rfl, List.length_append, ⟨⟨.data, 5, 2⟩, rfl, ?_, rfl⟩, ?_⟩
    · simp [seven]
    · cases rest with
      | nil => exact .inl ⟨rfl, rfl⟩
      | cons byte rest => exact .inr ⟨List.cons_ne_nil _ _, by simp [seven], rfl⟩
  · have longer : ¬ hi.cipher <+: part := fun whole =>
      proper (shorter.eq_of_length (Nat.le_antisymm shorter.length_le whole.length_le))
    rw [decryptHi, if_neg longer]

/-- The record comes in two pieces, with an error between them. -/
def arriving : RecvState Unit where
  tls := { encrypting := true }
  context := ()
  wire := ⟨hi.cipher, [.bytes 3, .failed, .bytes 9]⟩

theorem arriving_fresh : Fresh [hi] arriving where
  readBuffer := List.length_replicate
  plainText := List.length_replicate
  readPtr := rfl
  within := Nat.zero_le _
  plainTextPtr := rfl
  plainTextBytes := rfl
  history := rfl
  stream := by simp [arriving, ciphers]

theorem recvs_delivers_hi :
    ((recvs decryptHi [1, 1, 1] arriving).1.map RecvEnd.data).flatten <+: plains [hi] :=
  (recvs_delivers decryptHi_decrypts arriving_fresh [1, 1, 1]).1

end RecvState

end LuaXENetwork
