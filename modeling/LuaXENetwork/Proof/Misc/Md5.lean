import LuaXENetwork.Library.Absorber
import LuaXENetwork.Misc.Md5
import LuaXENetwork.Proof.Socket.Winsock

namespace LuaXENetwork.Md5
open Library

/-! ## The digest of a message -/

/-- A number of bytes as a number of bits, modulo 2^64. -/
def bitCount (bytes : Nat) : UInt32 × UInt32 := (UInt32.ofNat (8 * bytes), UInt32.ofNat (8 * bytes / 2 ^ 32))

/-- A one bit, zeros up to eight bytes before the end of a block, and the number of bits. -/
def padded (message : Bytes) : Bytes :=
  message ++ 0x80 :: List.replicate ((119 - message.length % 64) % 64) 0 ++
    encode [(bitCount message.length).1, (bitCount message.length).2]

def untouched : Absorber UInt8 State 64 := ⟨.magic, [], by decide⟩

/-- The digest of RFC 1321, over the code's `transform`. -/
def digestOf (message : Bytes) : Bytes := encode (untouched.absorb State.transform (padded message)).state.words

/-! ## What the fields hold -/

/-- The object has taken in `total` bytes, and they brought it where `s` stands. -/
structure Holds (m : Md5) (s : Absorber UInt8 State 64) (total : Nat) : Prop where
  state : m.state = s.state
  pending : m.buffer.take s.pending.length = s.pending
  index : s.pending.length = total % 64
  count : m.count = bitCount total

theorem holds_init (raw : Md5) : Holds raw.init untouched 0 := ⟨rfl, rfl, rfl, rfl⟩

theorem bitCount_index (total : Nat) : ((bitCount total).1 / 8 % 64).toNat = total % 64 := by
  simp only [bitCount, UInt32.toNat_mod, UInt32.toNat_div, UInt32.toNat_ofNat']
  simp only [UInt32.reduceToNat]
  omega

theorem toNat_bits (length : UInt32) : (length <<< 3).toNat = 8 * length.toNat % 2 ^ 32 := by
  rw [UInt32.toNat_shiftLeft, Nat.shiftLeft_eq, Nat.mul_comm]
  rfl

theorem toNat_highBits (length : UInt32) : (length >>> 29).toNat = length.toNat / 2 ^ 29 := by
  rw [UInt32.toNat_shiftRight, Nat.shiftRight_eq_div_pow]
  rfl

theorem bitCount_low (total length : Nat) :
    (bitCount total).1 + (UInt32.ofNat length <<< 3) = (bitCount (total + length)).1 := by
  apply UInt32.toNat_inj.mp
  simp only [bitCount, UInt32.toNat_add, toNat_bits, UInt32.toNat_ofNat']
  omega

/-- The carry out of the low word, and the bits of the length that do not fit into it. -/
theorem bitCount_high (total : Nat) {length : Nat} (small : length < 2 ^ 32) :
    (if (bitCount (total + length)).1 < UInt32.ofNat length <<< 3 then (bitCount total).2 + 1
      else (bitCount total).2) + (UInt32.ofNat length >>> 29) = (bitCount (total + length)).2 := by
  apply UInt32.toNat_inj.mp
  split
  all_goals
    rename_i carry
    simp only [bitCount, UInt32.lt_iff_toNat_lt, UInt32.toNat_add, toNat_bits, toNat_highBits,
      UInt32.toNat_ofNat', UInt32.reduceToNat] at carry ⊢
    omega

/-! ## `update` -/

theorem readAt_eq {input : Bytes} {start count : Nat} (inside : start + count ≤ input.length) :
    readAt input start count = some ((input.drop start).take count) := if_pos inside

theorem copyTo_eq (m : Md5) (index : Nat) (data : Bytes) (fits : index + data.length ≤ 64) :
    ∃ buffer kept, m.copyTo index data = some { m with buffer := buffer, buffer_length := kept } ∧
      buffer.take (index + data.length) = m.buffer.take index ++ data := by
  have inside : index + data.length ≤ m.buffer.length := by
    rw [m.buffer_length]
    exact fits
  exact ⟨_, _, dif_pos inside, take_overwrite data (by omega)⟩

/-- From `i` on, the blocks of the text are taken in and less than one is left over. -/
theorem transformAll_absorbs {input : Bytes} {size : Nat} (readable : size ≤ input.length)
    (small : size + 64 < 2 ^ 32) (turns : Nat) (i : UInt32) (state : State) (within : i.toNat ≤ size)
    (enough : (size - i.toNat) / 64 < turns) :
    ∃ i' state' short, transformAll input (UInt32.ofNat size) turns i state = some (i', state') ∧
      i'.toNat ≤ size ∧
      Absorber.absorb State.transform (⟨state, [], by decide⟩ : Absorber UInt8 State 64)
        ((input.take size).drop i.toNat) = ⟨state', (input.take size).drop i'.toNat, short⟩ := by
  induction turns generalizing i state with
  | zero => exact absurd enough (Nat.not_lt_zero _)
  | succ turns ih =>
      have size_eq : (UInt32.ofNat size).toNat = size := by
        rw [UInt32.toNat_ofNat']
        omega
      have next : (i + 64).toNat = i.toNat + 64 := by
        rw [UInt32.toNat_add]
        simp only [UInt32.reduceToNat]
        omega
      rw [transformAll]
      simp only [UInt32.le_iff_toNat_le, next, size_eq]
      by_cases whole : i.toNat + 64 ≤ size
      · have block : (input.take size).drop i.toNat =
            (input.drop i.toNat).take 64 ++ (input.take size).drop (i + 64).toNat := by
          rw [next, ← List.drop_drop, List.drop_take]
          nth_rewrite 1 [← List.take_append_drop 64 ((input.drop i.toNat).take (size - i.toNat))]
          rw [List.take_take, Nat.min_eq_left (by omega)]
        have full : ((input.drop i.toNat).take 64).length = 64 := by
          rw [List.length_take, List.length_drop]
          omega
        obtain ⟨i', state', short, ends, inside, absorbed⟩ :=
          ih (i + 64) (state.transform ((input.drop i.toNat).take 64)) (by omega) (by omega)
        refine ⟨i', state', short, ?_, inside, ?_⟩
        · rw [if_pos whole, readAt_eq (by omega)]
          exact ends
        · have taken := Absorber.absorb_full State.transform
            (⟨state, [], by decide⟩ : Absorber UInt8 State 64) _ full
          rw [block, Absorber.absorb_append, taken]
          exact absorbed
      · have short : ((input.take size).drop i.toNat).length < 64 := by
          rw [List.length_drop, List.length_take]
          omega
        refine ⟨i, state, short, if_neg whole, within, ?_⟩
        exact Absorber.absorb_short _ _ _ (by simpa using short)

theorem update_holds {m : Md5} {s : Absorber UInt8 State 64} {total : Nat} (holds : Holds m s total)
    (input : Bytes) (size : Nat) (readable : size ≤ input.length) (small : size + 64 < 2 ^ 32) :
    ∃ m', m.update input (UInt32.ofNat size) = some m' ∧
      Holds m' (s.absorb State.transform (input.take size)) (total + size) ∧
      m'.finalized = m.finalized ∧ m'.digest = m.digest := by
  have size_eq : (UInt32.ofNat size).toNat = size := by
    rw [UInt32.toNat_ofNat']
    omega
  have index_eq : (m.count.1 / 8 % 64).toNat = s.pending.length := by
    rw [holds.count, bitCount_index, holds.index]
  have short := s.short
  have firstpart_eq : (64 - m.count.1 / 8 % 64).toNat = 64 - s.pending.length := by
    rw [UInt32.toNat_sub, index_eq]
    simp only [UInt32.reduceToNat]
    omega
  have counted : (m.count.1 + (UInt32.ofNat size <<< 3),
      (if m.count.1 + (UInt32.ofNat size <<< 3) < UInt32.ofNat size <<< 3 then m.count.2 + 1
        else m.count.2) + (UInt32.ofNat size >>> 29)) = bitCount (total + size) := by
    rw [holds.count, bitCount_low, bitCount_high total (by omega)]
  have index : (s.absorb State.transform (input.take size)).pending.length = (total + size) % 64 := by
    rw [Absorber.absorb_pending_length, List.length_take, holds.index]
    omega
  rw [update]
  simp only [counted, UInt32.le_iff_toNat_le, firstpart_eq, index_eq, size_eq]
  by_cases whole : 64 - s.pending.length ≤ size
  · have head : (input.take (64 - s.pending.length)).length = 64 - s.pending.length :=
      List.length_take_of_le (by omega)
    have full : (s.pending ++ input.take (64 - s.pending.length)).length = 64 := by
      rw [List.length_append, head]
      omega
    obtain ⟨filled, kept, copied, begins⟩ := copyTo_eq { m with count := bitCount (total + size) }
      s.pending.length (input.take (64 - s.pending.length)) (by omega)
    have block : filled = s.pending ++ input.take (64 - s.pending.length) := by
      rw [head, show s.pending.length + (64 - s.pending.length) = filled.length by omega, List.take_length,
        holds.pending] at begins
      exact begins
    obtain ⟨i, state, less, ends, inside, absorbed⟩ := transformAll_absorbs readable small
      (2 ^ 26 + 1) (64 - m.count.1 / 8 % 64)
      (s.state.transform (s.pending ++ input.take (64 - s.pending.length))) (by omega) (by omega)
    rw [firstpart_eq] at absorbed
    have left_eq : (UInt32.ofNat size - i).toNat = size - i.toNat := by
      rw [UInt32.toNat_sub_of_le _ _ (by rw [UInt32.le_iff_toNat_le, size_eq]; exact inside), size_eq]
    have rest : (input.drop i.toNat).take (size - i.toNat) = (input.take size).drop i.toNat :=
      List.drop_take.symm
    obtain ⟨buffer, kept', copied', begins'⟩ := copyTo_eq
      { m with count := bitCount (total + size), buffer := filled, buffer_length := kept, state := state }
      0 ((input.drop i.toNat).take (size - i.toNat)) (by rw [rest, Nat.zero_add]; omega)
    have taken : s.absorb State.transform (input.take size) = ⟨state, (input.take size).drop i.toNat, less⟩ := by
      nth_rewrite 1 [← List.take_append_drop (64 - s.pending.length) (input.take size)]
      rw [List.take_take, Nat.min_eq_left whole, Absorber.absorb_append, Absorber.absorb_full _ _ _ full]
      exact absorbed
    refine ⟨{ m with count := bitCount (total + size), buffer := buffer, buffer_length := kept', state := state },
      ?_, ⟨?_, ?_, index, rfl⟩, rfl, rfl⟩
    · rw [if_pos whole, readAt_eq (by omega), List.drop_zero]
      simp only [Option.bind_eq_bind, Option.bind_some, copied]
      rw [← holds.state, ← block] at ends
      rw [ends]
      simp only [Option.bind_some, left_eq]
      rw [readAt_eq (by omega)]
      simp only [Option.bind_some]
      exact copied'
    · rw [taken]
    · rw [rest, Nat.zero_add, List.take_zero, List.nil_append] at begins'
      rw [taken]
      exact begins'
  · have less : (s.pending ++ input.take size).length < 64 := by
      rw [List.length_append, List.length_take]
      omega
    have data_length : (input.take size).length = size := List.length_take_of_le readable
    obtain ⟨buffer, kept, copied, begins⟩ := copyTo_eq { m with count := bitCount (total + size) }
      s.pending.length (input.take size) (by omega)
    have taken := Absorber.absorb_short State.transform s (input.take size) less
    refine ⟨{ m with count := bitCount (total + size), buffer := buffer, buffer_length := kept },
      ?_, ⟨?_, ?_, index, rfl⟩, rfl, rfl⟩
    · rw [if_neg whole, readAt_eq (by omega), List.drop_zero]
      exact copied
    · rw [taken]
      exact holds.state
    · rw [taken, List.length_append, begins, holds.pending]

/-! ## `finalize` -/

theorem encode_length (words : List UInt32) : (encode words).length = 4 * words.length := by
  induction words with
  | nil => rfl
  | cons word words ih =>
      rw [encode, List.flatMap_cons, ← encode, List.length_append, ih, List.length_cons]
      simp only [List.length_cons, List.length_nil]
      omega

theorem take_padding {count : Nat} (some_taken : 0 < count) (within : count ≤ 64) :
    padding.take count = 0x80 :: List.replicate (count - 1) 0 := by
  cases count with
  | zero => exact absurd some_taken (lt_irrefl 0)
  | succ count =>
      rw [padding, List.take_succ_cons, List.take_replicate, Nat.min_eq_left (by omega), Nat.add_sub_cancel]

theorem finalize_holds {m : Md5} {message : Bytes} (unfinished : m.finalized = false)
    (holds : Holds m (untouched.absorb State.transform message) message.length) :
    ∃ m', m.finalize = some m' ∧ m'.finalized = true ∧ m'.digest = digestOf message ∧
      Holds m' ⟨m'.state, [], by decide⟩ 0 := by
  have index_eq : (m.count.1 / 8 % 64).toNat = message.length % 64 := by
    rw [holds.count, bitCount_index]
  obtain ⟨padLen, padLen_eq, count_eq⟩ : ∃ padLen : Nat,
      (if m.count.1 / 8 % 64 < 56 then 56 - m.count.1 / 8 % 64 else 120 - m.count.1 / 8 % 64) =
        UInt32.ofNat padLen ∧ padLen = (119 - message.length % 64) % 64 + 1 := by
    refine ⟨_, ?_, rfl⟩
    apply UInt32.toNat_inj.mp
    split
    all_goals
      rename_i early
      simp only [UInt32.lt_iff_toNat_lt, UInt32.toNat_sub, index_eq, UInt32.toNat_ofNat',
        UInt32.reduceToNat] at early ⊢
      omega
  obtain ⟨m₁, padded_by, holds₁, open₁, -⟩ :=
    update_holds holds padding padLen (by rw [count_eq]; simp [padding]; omega)
      (by omega)
  obtain ⟨m₂, counted_by, holds₂, -, -⟩ := update_holds holds₁ (encode [m.count.1, m.count.2])
    8 (by rw [encode_length]; rfl) (by decide)
  have whole : ((untouched.absorb State.transform message).absorb State.transform (padding.take padLen)).absorb
      State.transform ((encode [m.count.1, m.count.2]).take 8) =
        untouched.absorb State.transform (padded message) := by
    rw [take_padding (by omega) (by omega), List.take_of_length_le (by rw [encode_length]; rfl),
      ← Absorber.absorb_append, ← Absorber.absorb_append, holds.count, count_eq, Nat.add_sub_cancel, padded,
      List.append_assoc]
  refine ⟨{ m₂ with
      digest := encode m₂.state.words
      buffer := List.replicate 64 0
      count := (0, 0)
      finalized := true
      buffer_length := List.length_replicate }, ?_, rfl, ?_, ⟨rfl, rfl, rfl, rfl⟩⟩
  · rw [finalize, if_neg (by rw [unfinished]; exact Bool.false_ne_true)]
    simp only [padLen_eq, Option.bind_eq_bind, padded_by, Option.bind_some]
    rw [show (8 : UInt32) = UInt32.ofNat 8 from rfl, counted_by]
    rfl
  · rw [digestOf, ← whole, ← holds₂.state]

/-! ## Runs -/

inductive Call where
  | update (piece : Bytes)
  | finalize
deriving DecidableEq, Repr

def perform (m : Md5) : Call → Option Md5
  | .update piece => m.update piece (UInt32.ofNat piece.length)
  | .finalize => m.finalize

/-- The bytes before the first `finalize`. -/
def message : List Call → Bytes
  | [] => []
  | .update piece :: calls => piece ++ message calls
  | .finalize :: _ => []

/-- What is added behind `finalize` does not reach the digest. -/
theorem run_finalized {calls : List Call} (short : ∀ piece, .update piece ∈ calls → piece.length + 64 < 2 ^ 32)
    {m : Md5} {s : Absorber UInt8 State 64} {total : Nat} (finished : m.finalized = true)
    (holds : Holds m s total) :
    ∃ m', calls.foldlM perform m = some m' ∧ m'.finalized = true ∧ m'.digest = m.digest := by
  induction calls generalizing m s total with
  | nil => exact ⟨m, rfl, finished, rfl⟩
  | cons call calls ih =>
      have later := fun piece member => short piece (List.mem_cons_of_mem _ member)
      cases call with
      | update piece =>
          obtain ⟨m₁, updated, holds₁, finished₁, digest₁⟩ :=
            update_holds holds piece _ (Nat.le_refl _) (short piece List.mem_cons_self)
          obtain ⟨m', ran, finished', digest'⟩ := ih later (finished₁.trans finished) holds₁
          refine ⟨m', ?_, finished', digest'.trans digest₁⟩
          rw [List.foldlM_cons, perform, updated]
          exact ran
      | finalize =>
          obtain ⟨m', ran, kept⟩ := ih later finished holds
          refine ⟨m', ?_, kept⟩
          rw [List.foldlM_cons, perform, finalize, if_pos finished]
          exact ran

theorem run_from {calls : List Call} (short : ∀ piece, .update piece ∈ calls → piece.length + 64 < 2 ^ 32)
    {m : Md5} {before : Bytes} (unfinished : m.finalized = false)
    (holds : Holds m (untouched.absorb State.transform before) before.length) :
    ∃ m', calls.foldlM perform m = some m' ∧
      m'.hexdigest = if .finalize ∈ calls then hexText (digestOf (before ++ message calls)) else [] := by
  induction calls generalizing m before with
  | nil => exact ⟨m, rfl, by rw [hexdigest, unfinished]; rfl⟩
  | cons call calls ih =>
      have later := fun piece member => short piece (List.mem_cons_of_mem _ member)
      cases call with
      | update piece =>
          obtain ⟨m₁, updated, holds₁, unfinished₁, -⟩ :=
            update_holds holds piece _ (Nat.le_refl _) (short piece List.mem_cons_self)
          rw [List.take_length, ← Absorber.absorb_append, ← List.length_append] at holds₁
          obtain ⟨m', ran, digest⟩ := ih later (unfinished₁.trans unfinished) holds₁
          refine ⟨m', ?_, ?_⟩
          · rw [List.foldlM_cons, perform, updated]
            exact ran
          · rw [digest, message, List.append_assoc]
            simp
      | finalize =>
          obtain ⟨m₁, finalized, finished₁, digest₁, holds₁⟩ := finalize_holds unfinished holds
          obtain ⟨m', ran, finished', digest'⟩ := run_finalized later finished₁ holds₁
          refine ⟨m', ?_, ?_⟩
          · rw [List.foldlM_cons, perform, finalized]
            exact ran
          · rw [hexdigest, if_pos finished', digest', digest₁, if_pos List.mem_cons_self, message,
              List.append_nil]

/-- However the message is cut into pieces, and whatever follows the first `finalize`. -/
theorem run_hexdigest (raw : Md5) (calls : List Call)
    (short : ∀ piece, .update piece ∈ calls → piece.length + 64 < 2 ^ 32) :
    ∃ m, calls.foldlM perform raw.init = some m ∧
      m.hexdigest = if .finalize ∈ calls then hexText (digestOf (message calls)) else [] := by
  have start : Holds raw.init (untouched.absorb State.transform []) ([] : Bytes).length := holds_init raw
  obtain ⟨m, ran, digest⟩ := run_from short rfl start
  rw [List.nil_append] at digest
  exact ⟨m, ran, digest⟩

/-- An object on memory of no particular content. -/
def unspecified : Md5 := ⟨true, List.replicate 64 7, (3, 4), ⟨1, 2, 3, 4⟩, [5], List.length_replicate⟩

def spelling : List Call := [.update (ascii "a"), .update (ascii "bc"), .finalize, .update (ascii "d")]

theorem run_hexdigest_abc : ∃ m, spelling.foldlM perform unspecified.init = some m ∧
    m.hexdigest = if .finalize ∈ spelling then hexText (digestOf (message spelling)) else [] := by
  apply run_hexdigest
  intro piece member
  simp only [spelling, List.mem_cons, Call.update.injEq, reduceCtorEq, List.not_mem_nil, or_false,
    false_or] at member
  rcases member with rfl | rfl | rfl <;> decide +kernel

example : hexText (digestOf (ascii "abc")) = ascii "900150983cd24fb0d6963f7d28e17f72" := by decide +kernel

/-! ## `md5` -/

end LuaXENetwork.Md5
