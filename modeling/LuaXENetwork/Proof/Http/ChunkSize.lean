import LuaXENetwork.Proof.Numeral
import LuaXENetwork.Proof.Http.ChunkEncoding

/-! Which size lines the chunk decoder accepts, and as which sizes. -/

namespace LuaXENetwork
open Library

/-! ## Trimming -/

theorem trimAscii_blanks_append {blanks : Bytes} (all : ∀ b ∈ blanks, isBlank b = true) (s : Bytes) :
    trimAscii (blanks ++ s) = trimAscii s := by
  rw [trimAscii, List.dropWhile_append_of_pos all, trimAscii]

theorem trimAscii_append_blanks (s : Bytes) {blanks : Bytes} (all : ∀ b ∈ blanks, isBlank b = true) :
    trimAscii (s ++ blanks) = trimAscii s := by
  have behind (front : Bytes) : (front ++ blanks).rdropWhile isBlank = front.rdropWhile isBlank := by
    rw [List.rdropWhile, List.reverse_append, List.dropWhile_append_of_pos, List.rdropWhile]
    intro b member
    exact all b (List.mem_reverse.mp member)
  rw [trimAscii, List.dropWhile_append, trimAscii]
  split
  · rename_i empty
    rw [List.isEmpty_iff.mp empty, List.dropWhile_eq_nil_iff.mpr all]
  · exact behind _

theorem trimAscii_parts (s : Bytes) : ∃ front back, s = front ++ (trimAscii s ++ back) ∧
    (∀ b ∈ front, isBlank b = true) ∧ ∀ b ∈ back, isBlank b = true := by
  refine ⟨s.takeWhile isBlank, (s.dropWhile isBlank).rtakeWhile isBlank, ?_, ?_, ?_⟩
  · rw [trimAscii, List.rdropWhile_append_rtakeWhile, List.takeWhile_append_dropWhile]
  · exact fun b member => List.mem_takeWhile_imp member
  · exact fun b member => List.mem_takeWhile_imp (List.mem_reverse.mp member)

/-- The part before a letter, as the sources cut it off. -/
theorem take_find_letter (letter : UInt8) (s : Bytes) :
    (match find [letter] s with
      | none => s
      | some position => s.take position) = s.takeWhile (· != letter) := by
  cases found : find [letter] s with
  | none =>
      have absent := find_letter_none.mp found
      symm
      rw [List.takeWhile_eq_self_iff]
      intro b member
      have differs : b ≠ letter := fun same => absent (same ▸ member)
      simpa using differs
  | some position =>
      obtain ⟨before, after, rfl, absent, rfl⟩ := find_letter_some.mp found
      show (before ++ letter :: after).take before.length = _
      rw [List.take_left, takeWhile_append_stops]
      · intro b member
        have differs : b ≠ letter := fun same => absent (same ▸ member)
        simpa using differs
      · intro b first
        obtain rfl := Option.some.inj first
        simp

namespace HttpChunkDecoder

/-- The text of a size line before its extension, without the blanks around it. -/
def sizeField (line : Bytes) : Bytes := trimAscii (line.takeWhile (· != 59))

theorem sizeText_eq (line : Bytes) : sizeText line = sizeField line := by
  obtain ⟨front, back, parts, leading, trailing⟩ := trimAscii_parts line
  have plain {b : UInt8} (blank : isBlank b = true) : (b != 59) = true := by
    rw [bne_iff_ne]
    rintro rfl
    contradiction
  have before : line.takeWhile (· != 59) = front ++ (trimAscii line ++ back).takeWhile (· != 59) := by
    conv_lhs => rw [parts]
    exact List.takeWhile_append_of_pos fun b member => plain (leading b member)
  have text : sizeText line = trimAscii ((trimAscii line).takeWhile (· != 59)) :=
    congrArg trimAscii (take_find_letter 59 (trimAscii line))
  rw [text, sizeField, before, trimAscii_blanks_append leading, List.takeWhile_append]
  split
  · rename_i whole
    have all : (trimAscii line).takeWhile (· != 59) = trimAscii line :=
      (List.takeWhile_prefix _).eq_of_length whole
    rw [all, List.takeWhile_eq_self_iff.mpr fun b member => plain (trailing b member),
      trimAscii_append_blanks _ trailing]
  · rfl

/-! ## The size lines of a stream -/

/-- The loop, run from the decoder, comes to this size line. -/
inductive Comes : HttpChunkDecoder → Bytes → Prop where
  | here {maximum lineEnd : Nat} {buffer : Bytes} (found : find crlf buffer = some lineEnd) :
      Comes ⟨buffer, none, false, maximum⟩ (buffer.take lineEnd)
  | size {maximum lineEnd size : Nat} {buffer line : Bytes} (found : find crlf buffer = some lineEnd)
      (sized : chunkSize maximum (buffer.take lineEnd) = .ok (size + 1))
      (later : Comes ⟨buffer.drop (lineEnd + 2), some (size + 1), false, maximum⟩ line) :
      Comes ⟨buffer, none, false, maximum⟩ line
  | chunk {maximum size : Nat} {buffer line : Bytes} (enough : ¬ buffer.length < sizeT (size + 2))
      (ends : (buffer.drop size).take 2 = crlf)
      (later : Comes ⟨buffer.drop (size + 2), none, false, maximum⟩ line) :
      Comes ⟨buffer, some size, false, maximum⟩ line

/-- `Feed` on the pieces, one after the other, comes to this size line. -/
inductive Reads : HttpChunkDecoder → List Bytes → Bytes → Prop where
  | now {d : HttpChunkDecoder} {piece line : Bytes} {pieces : List Bytes}
      (room : ¬ sizeT (d.maximum + 1024 * 1024) < (d.buffer ++ piece).length)
      (comes : Comes { d with buffer := d.buffer ++ piece } line) : Reads d (piece :: pieces) line
  | later {d d' : HttpChunkDecoder} {piece line : Bytes} {pieces chunks : List Bytes}
      (feeds : feed d piece = .ok (chunks, d')) (reads : Reads d' pieces line) :
      Reads d (piece :: pieces) line

/-- The loop throws what a size line throws, or that a chunk has no end. -/
theorem drain_ends (d : HttpChunkDecoder) :
    Ends (fun what => what = ascii "HTTP chunk missing terminator" ∨
        ∃ line, chunkSize d.maximum line = .error what)
      (fun run => run.2.maximum = d.maximum) (drain d) := by
  induction d using drain.induct with
  | case1 d finished =>
      rw [drain, if_pos finished]
      exact rfl
  | case2 d running mode absent =>
      obtain ⟨buffer, remaining, finished, maximum⟩ := d
      obtain rfl : remaining = none := mode
      obtain rfl : finished = false := Bool.not_eq_true _ ▸ running
      rw [drain_no_line absent]
      exact rfl
  | case3 d running mode lineEnd found what bad =>
      obtain ⟨buffer, remaining, finished, maximum⟩ := d
      obtain rfl : remaining = none := mode
      obtain rfl : finished = false := Bool.not_eq_true _ ▸ running
      rw [drain_bad_line found bad]
      exact .inr ⟨_, bad⟩
  | case4 d running mode lineEnd found last =>
      obtain ⟨buffer, remaining, finished, maximum⟩ := d
      obtain rfl : remaining = none := mode
      obtain rfl : finished = false := Bool.not_eq_true _ ▸ running
      rw [drain_last_line found last]
      exact rfl
  | case5 d running mode lineEnd found size sized ih =>
      obtain ⟨buffer, remaining, finished, maximum⟩ := d
      obtain rfl : remaining = none := mode
      obtain rfl : finished = false := Bool.not_eq_true _ ▸ running
      rw [drain_size_line found sized]
      exact ih
  | case6 d running size mode short =>
      obtain ⟨buffer, remaining, finished, maximum⟩ := d
      obtain rfl : remaining = some size := mode
      obtain rfl : finished = false := Bool.not_eq_true _ ▸ running
      rw [drain_short short]
      exact rfl
  | case7 d running size mode enough ends ih =>
      obtain ⟨buffer, remaining, finished, maximum⟩ := d
      obtain rfl : remaining = some size := mode
      obtain rfl : finished = false := Bool.not_eq_true _ ▸ running
      rw [drain_chunk enough ends]
      exact Ends.bind ih fun _ same => same
  | case8 d running size mode enough bad =>
      obtain ⟨buffer, remaining, finished, maximum⟩ := d
      obtain rfl : remaining = some size := mode
      obtain rfl : finished = false := Bool.not_eq_true _ ▸ running
      rw [drain_bad_end enough bad]
      exact .inl rfl

theorem drain_maximum {d d' : HttpChunkDecoder} {chunks : List Bytes}
    (runs : drain d = .ok (chunks, d')) : d'.maximum = d.maximum := by
  have ends := drain_ends d
  rw [runs] at ends
  exact ends

theorem drain_comes {d : HttpChunkDecoder} {line what : Bytes} (comes : Comes d line)
    (bad : chunkSize d.maximum line = .error what) : drain d = .error what := by
  induction comes with
  | here found => exact drain_bad_line found bad
  | size found sized later ih => rw [drain_size_line found sized, ih bad]
  | chunk enough ends later ih =>
      rw [drain_chunk enough ends, ih bad]
      rfl

theorem feedAll_reads {d : HttpChunkDecoder} {pieces : List Bytes} {line what : Bytes}
    (reads : Reads d pieces line) (bad : chunkSize d.maximum line = .error what) :
    feedAll d pieces = .error what := by
  induction reads with
  | now room comes =>
      rw [feedAll, feed, if_neg room, drain_comes comes bad]
      rfl
  | later feeds reads ih =>
      have same := drain_maximum (drain_of_feed feeds)
      rw [feedAll, feeds, ok_bind]
      simp only [ih (same ▸ bad)]
      rfl

/-! ## Sizes that are more than hexadecimal digits -/

def Hexadecimal (text : Bytes) : Prop := text ≠ [] ∧ ∀ b ∈ text, isDigit 16 b = true

theorem chunkSize_parts {maximum size : Nat} {line : Bytes} : chunkSize maximum line = .ok size ↔
    ∃ spaces sign mark digits, NumeralParts 16 (sizeField line) spaces sign mark digits [] ∧
      fromDigits 16 digits < 2 ^ 64 ∧ size = wrapped sign (fromDigits 16 digits) ∧ size ≤ maximum := by
  constructor
  · intro sized
    have read : stoull 16 (sizeField line) = .ok (size, (sizeField line).length) := by
      rw [chunkSize, sizeText_eq] at sized
      cases read : stoull 16 (sizeField line) with
      | error what =>
          rw [read] at sized
          split_ifs at sized
      | ok result =>
          obtain ⟨value, used⟩ := result
          simp only [read] at sized
          split_ifs at sized with empty partly large
          obtain rfl := Except.ok.inj sized
          rw [Decidable.not_not.mp partly]
    obtain ⟨spaces, sign, mark, digits, parts, small, is⟩ := stoull_whole.mp read
    exact ⟨spaces, sign, mark, digits, parts, small, is, chunkSize_le sized⟩
  · rintro ⟨spaces, sign, mark, digits, parts, small, is, fits⟩
    have read := stoull_whole.mpr ⟨spaces, sign, mark, digits, parts, small, is⟩
    have nonempty : sizeField line ≠ [] := by
      rw [parts.split]
      simp [parts.nonempty]
    rw [chunkSize, sizeText_eq, if_neg nonempty, read]
    simp only [ne_eq, not_true_eq_false, if_false]
    rw [if_neg (by omega)]

/-- A numeral within the maximum that `std::stoull` takes although blanks, a sign or a `0x` stand
before its digits. -/
def Disguised (maximum : Nat) (text : Bytes) : Prop :=
  ∃ spaces sign mark digits, NumeralParts 16 text spaces sign mark digits [] ∧
    spaces ++ (sign ++ mark) ≠ [] ∧ fromDigits 16 digits < 2 ^ 64 ∧
    wrapped sign (fromDigits 16 digits) ≤ maximum

theorem hexadecimal_undisguised {spaces sign mark digits text : Bytes}
    (parts : NumeralParts 16 text spaces sign mark digits []) (hex : Hexadecimal text) :
    spaces ++ (sign ++ mark) = [] := by
  have letters {b : UInt8} (member : b ∈ spaces ++ (sign ++ mark)) : isDigit 16 b = true := by
    apply hex.2
    rw [parts.split]
    simp only [List.mem_append] at member ⊢
    tauto
  have blankless : spaces = [] := by
    cases spaces with
    | nil => rfl
    | cons b spaces =>
        have solid := (digit_letter (letters (b := b) (by simp))).1
        rw [parts.blanks b (by simp)] at solid
        contradiction
  have unsigned : sign = [] := by
    rcases parts.signs with rfl | rfl | rfl
    · rfl
    · exact absurd (letters (b := 43) (by simp)) (by decide)
    · exact absurd (letters (b := 45) (by simp)) (by decide)
  have unmarked : mark = [] := by
    rcases parts.marks with rfl | ⟨-, rfl | rfl⟩
    · rfl
    · exact absurd (letters (b := 120) (by simp)) (by decide)
    · exact absurd (letters (b := 88) (by simp)) (by decide)
  rw [blankless, unsigned, unmarked]
  rfl

/-- Every size line that the decoder comes to is a hexadecimal number, which is the size it goes on
with, or the decoder throws. -/
def ReadsHexadecimal (maximum : Nat) (pieces : List Bytes) : Prop :=
  ∀ line, Reads (fresh maximum) pieces line →
    (∀ size, chunkSize maximum line = .ok size →
      Hexadecimal (sizeField line) ∧ fromDigits 16 (sizeField line) = size) ∧
    (¬ Hexadecimal (sizeField line) → ∃ what, feedAll (fresh maximum) pieces = .error what)

theorem readsHexadecimal_iff (maximum : Nat) (pieces : List Bytes) :
    ReadsHexadecimal maximum pieces ↔
      ∀ line, Reads (fresh maximum) pieces line → ¬ Disguised maximum (sizeField line) := by
  constructor
  · rintro holds line reads ⟨spaces, sign, mark, digits, parts, disguise, small, fits⟩
    have sized := chunkSize_parts.mpr ⟨spaces, sign, mark, digits, parts, small, rfl, fits⟩
    obtain ⟨hex, -⟩ := (holds line reads).1 _ sized
    exact disguise (hexadecimal_undisguised parts hex)
  · intro plain line reads
    have accepted (size : Nat) (sized : chunkSize maximum line = .ok size) :
        Hexadecimal (sizeField line) ∧ fromDigits 16 (sizeField line) = size := by
      obtain ⟨spaces, sign, mark, digits, parts, small, rfl, fits⟩ := chunkSize_parts.mp sized
      have bare : spaces ++ (sign ++ mark) = [] := by
        by_contra disguise
        exact plain line reads ⟨spaces, sign, mark, digits, parts, disguise, small, fits⟩
      simp only [List.append_eq_nil_iff] at bare
      obtain ⟨rfl, rfl, rfl⟩ := bare
      have whole : sizeField line = digits := by simpa using parts.split
      rw [whole]
      exact ⟨⟨parts.nonempty, parts.figures⟩, rfl⟩
    refine ⟨accepted, fun strange => ?_⟩
    cases sized : chunkSize maximum line with
    | error what => exact ⟨what, feedAll_reads reads sized⟩
    | ok size => exact absurd (accepted size sized).1 strange

theorem readsHexadecimal_minus :
    ¬ ReadsHexadecimal 9 [ascii "-FFFFFFFFFFFFFFFC\r\nwiki\r\n0\r\n\r\n"] := by
  intro holds
  have reads : Reads (fresh 9) [ascii "-FFFFFFFFFFFFFFFC\r\nwiki\r\n0\r\n\r\n"]
      (ascii "-FFFFFFFFFFFFFFFC") :=
    have found : find crlf (ascii "-FFFFFFFFFFFFFFFC\r\nwiki\r\n0\r\n\r\n") = some 17 := by
      decide
    .now (by decide) (.here found)
  have sized : chunkSize 9 (ascii "-FFFFFFFFFFFFFFFC") = .ok 4 := by decide
  have hex := ((holds _ reads).1 4 sized).1.2 45
  exact absurd (hex (by decide)) (by decide)

end HttpChunkDecoder
end LuaXENetwork
