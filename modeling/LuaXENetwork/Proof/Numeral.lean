import LuaXENetwork.Proof.Http.Builder

/-! The grammar of the C number readers: which texts they take, and as which number. -/

namespace LuaXENetwork
open Library

/-- How a reader takes the front of a text apart. -/
structure NumeralParts (base : Nat) (text spaces sign mark digits rest : Bytes) : Prop where
  split : text = spaces ++ (sign ++ (mark ++ (digits ++ rest)))
  blanks : ∀ b ∈ spaces, isSpace b = true
  signs : sign = [] ∨ sign = [43] ∨ sign = [45]
  marks : mark = [] ∨ base = 16 ∧ (mark = [48, 120] ∨ mark = [48, 88])
  figures : ∀ b ∈ digits, isDigit base b = true
  nonempty : digits ≠ []
  stops : ∀ b ∈ rest.head?, isDigit base b = false
  unmarked : mark = [] → base = 16 → hasHexPrefix (digits ++ rest) = false

/-- A letter that counts as a digit is no blank, no sign and not NUL. -/
theorem digit_letter {base : Nat} {b : UInt8} (digit : isDigit base b = true) :
    isSpace b = false ∧ isBlank b = false ∧ b ≠ 0 ∧ b ≠ 43 ∧ b ≠ 45 := by
  have every : ∀ n < 256, (48 ≤ n ∧ n ≤ 57) ∨ (97 ≤ n ∧ n ≤ 122) ∨ (65 ≤ n ∧ n ≤ 90) →
      isSpace (UInt8.ofNat n) = false ∧ isBlank (UInt8.ofNat n) = false ∧ UInt8.ofNat n ≠ 0 ∧
        UInt8.ofNat n ≠ 43 ∧ UInt8.ofNat n ≠ 45 := by decide +kernel
  have here := every b.toNat b.toNat_lt
  rw [UInt8.ofNat_toNat] at here
  apply here
  rw [isDigit, digitValue] at digit
  simp only [UInt8.le_iff_toNat_le] at digit
  split_ifs at digit with figure small large
  · exact .inl figure
  · exact .inr (.inl small)
  · exact .inr (.inr large)
  · simp at digit

theorem eq_of_hasHexPrefix {text : Bytes} (begins : hasHexPrefix text = true) :
    ∃ x rest, text = 48 :: x :: rest ∧ (x = 120 ∨ x = 88) := by
  unfold hasHexPrefix at begins
  split at begins
  · rename_i zero x digit rest
    simp only [Bool.and_eq_true, Bool.or_eq_true, beq_iff_eq] at begins
    obtain ⟨⟨rfl, is⟩, -⟩ := begins
    exact ⟨x, digit :: rest, rfl, is⟩
  · contradiction

section Reading

variable {base : Nat} {text spaces sign mark digits rest : Bytes}

/-- The text behind the blanks does not start with a blank. -/
theorem NumeralParts.solid (parts : NumeralParts base text spaces sign mark digits rest) :
    ∀ b ∈ (sign ++ (mark ++ (digits ++ rest))).head?, isSpace b = false := by
  intro b first
  rcases parts.signs with rfl | rfl | rfl
  · rcases parts.marks with rfl | ⟨-, rfl | rfl⟩
    · obtain ⟨d, ds, rfl⟩ := List.exists_cons_of_ne_nil parts.nonempty
      obtain rfl := Option.some.inj first
      exact (digit_letter (parts.figures d (by simp))).1
    all_goals
      obtain rfl := Option.some.inj first
      rfl
  all_goals
    obtain rfl := Option.some.inj first
    rfl

theorem NumeralParts.unsigned (parts : NumeralParts base text spaces sign mark digits rest) :
    ∀ b ∈ (mark ++ (digits ++ rest)).head?, b ≠ 43 ∧ b ≠ 45 := by
  intro b first
  rcases parts.marks with rfl | ⟨-, rfl | rfl⟩
  · obtain ⟨d, ds, rfl⟩ := List.exists_cons_of_ne_nil parts.nonempty
    obtain rfl := Option.some.inj first
    exact (digit_letter (parts.figures d (by simp))).2.2.2
  all_goals
    obtain rfl := Option.some.inj first
    decide

theorem takeWhile_append_stops {p : UInt8 → Bool} {front back : Bytes} (all : ∀ b ∈ front, p b = true)
    (stops : ∀ b ∈ back.head?, p b = false) : (front ++ back).takeWhile p = front := by
  rw [List.takeWhile_append_of_pos all]
  cases back with
  | nil => simp
  | cons b back => simp [stops b rfl]

theorem readNumeral_parts (parts : NumeralParts base text spaces sign mark digits rest) :
    readNumeral base text = some {
      negative := sign == [45]
      magnitude := fromDigits base digits
      used := spaces.length + sign.length + mark.length + digits.length } := by
  have blanks : (text.takeWhile isSpace).length = spaces.length := by
    rw [parts.split, takeWhile_append_stops parts.blanks parts.solid]
  have unspaced : text.drop spaces.length = sign ++ (mark ++ (digits ++ rest)) := by
    rw [parts.split, List.drop_left]
  have figures : (digits ++ rest).takeWhile (isDigit base) = digits :=
    takeWhile_append_stops parts.figures parts.stops
  have signed : decide ((sign ++ (mark ++ (digits ++ rest))).head? = some 45) = (sign == [45]) ∧
      (if (sign ++ (mark ++ (digits ++ rest))).head? = some 45 ∨
        (sign ++ (mark ++ (digits ++ rest))).head? = some 43 then 1 else 0) = sign.length := by
    have plain := parts.unsigned
    rcases parts.signs with rfl | rfl | rfl
    · have plus : ¬ (mark ++ (digits ++ rest)).head? = some 43 := fun is => (plain 43 is).1 rfl
      have minus : ¬ (mark ++ (digits ++ rest)).head? = some 45 := fun is => (plain 45 is).2 rfl
      simp only [List.nil_append, minus, plus]
      decide
    · exact ⟨rfl, rfl⟩
    · exact ⟨rfl, rfl⟩
  have marked : (if base = 16 ∧ hasHexPrefix (mark ++ (digits ++ rest)) = true then 2 else 0) =
      mark.length := by
    rcases parts.marks with rfl | ⟨rfl, is⟩
    · rw [List.nil_append, if_neg]
      · rfl
      · rintro ⟨hex, prefixed⟩
        rw [parts.unmarked rfl hex] at prefixed
        contradiction
    · obtain ⟨d, ds, rfl⟩ := List.exists_cons_of_ne_nil parts.nonempty
      have digit := parts.figures d (by simp)
      rcases is with rfl | rfl <;> simp [hasHexPrefix, digit]
  simp only [readNumeral, blanks, unspaced, signed, List.drop_left, marked, figures,
    if_neg parts.nonempty]

theorem drop_takeWhile (p : UInt8 → Bool) (s : Bytes) : s.drop (s.takeWhile p).length = s.dropWhile p := by
  have parts := List.takeWhile_append_dropWhile (p := p) (l := s)
  calc s.drop (s.takeWhile p).length
      = (s.takeWhile p ++ s.dropWhile p).drop (s.takeWhile p).length := by rw [parts]
    _ = s.dropWhile p := List.drop_left

theorem take_sign (text : Bytes) :
    let signLength := if text.head? = some 45 ∨ text.head? = some 43 then 1 else 0
    text.take signLength = [] ∨ text.take signLength = [43] ∨ text.take signLength = [45] := by
  intro signLength
  by_cases signed : text.head? = some 45 ∨ text.head? = some 43
  · have one : signLength = 1 := if_pos signed
    cases text with
    | nil => simp at signed
    | cons b bs => simpa [one, or_comm] using signed
  · left
    rw [show signLength = 0 from if_neg signed, List.take_zero]

theorem take_mark (base : Nat) (text : Bytes) :
    let markLength := if base = 16 ∧ hasHexPrefix text then 2 else 0
    text.take markLength = [] ∨
      base = 16 ∧ (text.take markLength = [48, 120] ∨ text.take markLength = [48, 88]) := by
  intro markLength
  by_cases marked : base = 16 ∧ hasHexPrefix text = true
  · right
    obtain ⟨hex, begins⟩ := marked
    rw [show markLength = 2 from if_pos ⟨hex, begins⟩]
    obtain ⟨x, rest, front, is⟩ := eq_of_hasHexPrefix begins
    exact ⟨hex, by simpa [front] using is⟩
  · left
    rw [show markLength = 0 from if_neg marked, List.take_zero]

theorem parts_of_readNumeral {numeral : Numeral} (read : readNumeral base text = some numeral) :
    ∃ spaces sign mark digits rest, NumeralParts base text spaces sign mark digits rest := by
  let unspaced := text.dropWhile isSpace
  let signLength := if unspaced.head? = some 45 ∨ unspaced.head? = some 43 then 1 else 0
  let unsigned := unspaced.drop signLength
  let markLength := if base = 16 ∧ hasHexPrefix unsigned then 2 else 0
  have nonempty : (unsigned.drop markLength).takeWhile (isDigit base) ≠ [] := by
    intro none
    simp only [readNumeral, drop_takeWhile] at read
    rw [if_pos none] at read
    contradiction
  have stops : ∀ b ∈ ((unsigned.drop markLength).dropWhile (isDigit base)).head?,
      isDigit base b = false := by
    intro b first
    have not := List.head?_dropWhile_not (isDigit base) (unsigned.drop markLength)
    rw [Option.mem_def.mp first] at not
    simpa using not
  have unmarked : unsigned.take markLength = [] → base = 16 →
      hasHexPrefix ((unsigned.drop markLength).takeWhile (isDigit base) ++
        (unsigned.drop markLength).dropWhile (isDigit base)) = false := by
    intro none hex
    rw [List.takeWhile_append_dropWhile]
    by_cases begins : hasHexPrefix unsigned = true
    · rw [show markLength = 2 from if_pos ⟨hex, begins⟩] at none
      obtain ⟨x, rest, front, -⟩ := eq_of_hasHexPrefix begins
      simp [front] at none
    · rw [show markLength = 0 from if_neg fun both => begins both.2, List.drop_zero]
      simpa using begins
  refine ⟨text.takeWhile isSpace, unspaced.take signLength, unsigned.take markLength,
    (unsigned.drop markLength).takeWhile (isDigit base),
    (unsigned.drop markLength).dropWhile (isDigit base), ?_⟩
  exact {
    split := by
      rw [List.takeWhile_append_dropWhile, List.take_append_drop, List.take_append_drop,
        List.takeWhile_append_dropWhile]
    blanks := fun b member => List.mem_takeWhile_imp member
    signs := take_sign unspaced
    marks := take_mark base unsigned
    figures := fun b member => List.mem_takeWhile_imp member
    nonempty := nonempty
    stops := stops
    unmarked := unmarked }

theorem NumeralParts.length (parts : NumeralParts base text spaces sign mark digits rest) :
    text.length = spaces.length + sign.length + mark.length + digits.length + rest.length := by
  rw [parts.split]
  simp only [List.length_append]
  omega

theorem NumeralParts.clean (parts : NumeralParts base text spaces sign mark digits []) :
    (0 : UInt8) ∉ text := by
  rw [parts.split]
  simp only [List.mem_append, not_or, List.append_nil]
  refine ⟨fun member => ?_, ?_, ?_, fun member => (digit_letter (parts.figures 0 member)).2.2.1 rfl⟩
  · exact absurd (parts.blanks 0 member) (by decide)
  · rcases parts.signs with rfl | rfl | rfl <;> decide
  · rcases parts.marks with rfl | ⟨-, rfl | rfl⟩ <;> decide

/-- What `std::stoull` makes of a numeral with this sign. -/
def wrapped (sign : Bytes) (magnitude : Nat) : Nat :=
  if sign = [45] then sizeT (2 ^ 64 - magnitude) else magnitude

theorem stoull_parts (parts : NumeralParts base (cString text) spaces sign mark digits rest)
    (small : fromDigits base digits < 2 ^ 64) :
    stoull base text = .ok (wrapped sign (fromDigits base digits),
      spaces.length + sign.length + mark.length + digits.length) := by
  rw [stoull, readNumeral_parts parts]
  simp only
  rw [if_neg (by omega), wrapped]
  simp only [beq_iff_eq]

theorem parts_of_stoull {value used : Nat} (read : stoull base text = .ok (value, used)) :
    ∃ spaces sign mark digits rest,
      NumeralParts base (cString text) spaces sign mark digits rest ∧
      fromDigits base digits < 2 ^ 64 ∧ value = wrapped sign (fromDigits base digits) ∧
      used + rest.length = (cString text).length := by
  cases numeral : readNumeral base (cString text) with
  | none =>
      rw [stoull, numeral] at read
      contradiction
  | some found =>
      obtain ⟨spaces, sign, mark, digits, rest, parts⟩ := parts_of_readNumeral numeral
      have small : fromDigits base digits < 2 ^ 64 := by
        by_contra large
        rw [stoull, readNumeral_parts parts] at read
        simp only at read
        rw [if_pos (by omega)] at read
        contradiction
      rw [stoull_parts parts small] at read
      obtain ⟨rfl, rfl⟩ := Prod.mk.inj (Except.ok.inj read)
      exact ⟨spaces, sign, mark, digits, rest, parts, small, rfl, parts.length.symm⟩

/-- `std::stoull` takes the whole text exactly when the text is a numeral that fits. -/
theorem stoull_whole {value : Nat} : stoull base text = .ok (value, text.length) ↔
    ∃ spaces sign mark digits, NumeralParts base text spaces sign mark digits [] ∧
      fromDigits base digits < 2 ^ 64 ∧ value = wrapped sign (fromDigits base digits) := by
  constructor
  · intro read
    obtain ⟨spaces, sign, mark, digits, rest, parts, small, rfl, length⟩ := parts_of_stoull read
    have front : cString text <+: text := List.takeWhile_prefix _
    have whole : cString text = text := front.eq_of_length_le (by omega)
    have none : rest = [] := List.eq_nil_of_length_eq_zero (by rw [whole] at length; omega)
    rw [whole, none] at parts
    exact ⟨spaces, sign, mark, digits, parts, small, rfl⟩
  · rintro ⟨spaces, sign, mark, digits, parts, small, rfl⟩
    have same : cString text = text := cString_clean parts.clean
    have read := stoull_parts (same.symm ▸ parts) small
    rw [read, parts.length, List.length_nil, Nat.add_zero]

end Reading

end LuaXENetwork
