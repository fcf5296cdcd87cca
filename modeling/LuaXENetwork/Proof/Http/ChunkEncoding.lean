import LuaXENetwork.Proof.Http.ChunkDecoder
import LuaXENetwork.Proof.Http.ResponseRoundTrip

/-! A legal chunked body, cut anywhere, is decoded to the chunks it was made of. -/

namespace LuaXENetwork.HttpChunkDecoder
open Library

/-- The size in hexadecimal digits of any letter case, without leading zeros. -/
structure HexSize (size : Nat) (digits : Bytes) : Prop where
  hex : ∀ b ∈ digits, isDigit 16 b = true
  leading : digits.head? ≠ some 48
  nonempty : digits ≠ []
  denotes : fromDigits 16 digits = size

inductive Encoding : List Bytes → Bytes → Prop where
  | last : Encoding [] (ascii "0\r\n\r\n")
  | chunk {data digits rest : Bytes} {chunks : List Bytes} (size : HexSize data.length digits)
      (later : Encoding chunks rest) :
      Encoding (data :: chunks) (digits ++ crlf ++ (data ++ crlf ++ rest))

/-! ## Reading a size back -/

theorem hexLetter_ne {b c : UInt8} (hex : isDigit 16 b = true) (other : isDigit 16 c = false) :
    b ≠ c := by
  rintro rfl
  rw [hex] at other
  contradiction

theorem hexLetter_solid {b : UInt8} (hex : isDigit 16 b = true) :
    isBlank b = false ∧ isSpace b = false := by
  have every : ∀ n < 256, isDigit 16 (UInt8.ofNat n) = true →
      isBlank (UInt8.ofNat n) = false ∧ isSpace (UInt8.ofNat n) = false := by decide +kernel
  have here := every b.toNat b.toNat_lt
  rw [UInt8.ofNat_toNat] at here
  exact here hex

section Letters

variable {digits : Bytes} (hex : ∀ b ∈ digits, isDigit 16 b = true)
include hex

theorem notMem_hex {c : UInt8} (other : isDigit 16 c = false) : c ∉ digits := fun member =>
  hexLetter_ne (hex c member) other rfl

theorem hasHexPrefix_hex : hasHexPrefix digits = false := by
  unfold hasHexPrefix
  split
  · rename_i zero x digit rest
    have small : x ≠ 120 := hexLetter_ne (hex x (by simp)) rfl
    have large : x ≠ 88 := hexLetter_ne (hex x (by simp)) rfl
    simp [small, large]
  · rfl

theorem readNumeral_hex (nonempty : digits ≠ []) :
    readNumeral 16 digits = some ⟨false, fromDigits 16 digits, digits.length⟩ := by
  have start : digits.takeWhile isSpace = [] := by
    rw [List.takeWhile_eq_nil_iff]
    intro inside
    simp [(hexLetter_solid (hex _ (List.getElem_mem inside))).2]
  have unlike {c : UInt8} (other : isDigit 16 c = false) : digits.head? ≠ some c := fun first =>
    notMem_hex hex other (List.mem_of_mem_head? first)
  have whole : digits.takeWhile (isDigit 16) = digits := List.takeWhile_eq_self_iff.mpr hex
  have signless : ¬ (digits.head? = some 45 ∨ digits.head? = some 43) :=
    not_or.mpr ⟨unlike rfl, unlike rfl⟩
  simp only [readNumeral, start, List.length_nil, List.drop_zero, if_neg signless]
  simp only [hasHexPrefix_hex hex, Bool.false_eq_true, and_false, if_false, List.drop_zero, whole,
    if_neg nonempty, unlike (c := 45) rfl, decide_false, Nat.zero_add, Nat.add_zero]

theorem stoull_hex (nonempty : digits ≠ []) (small : fromDigits 16 digits < 2 ^ 64) :
    stoull 16 digits = .ok (fromDigits 16 digits, digits.length) := by
  rw [stoull, cString_clean (notMem_hex hex rfl), readNumeral_hex hex nonempty]
  simp only
  rw [if_neg (by omega)]
  simp

theorem sizeText_hex : sizeText digits = digits := by
  have unpadded : Unpadded digits :=
    ⟨fun b first => (hexLetter_solid (hex b (List.mem_of_mem_head? first))).1,
      fun b last => (hexLetter_solid (hex b (List.mem_of_getLast? last))).1⟩
  have plain : find (ascii ";") digits = none :=
    find_eq_none_of_head_notMem (notMem_hex hex (show isDigit 16 59 = false from rfl)) []
  rw [sizeText, trimAscii_unpadded unpadded, plain, trimAscii_unpadded unpadded]

end Letters

theorem chunkSize_hex {maximum size : Nat} {digits : Bytes} (h : HexSize size digits)
    (fits : size ≤ maximum) (small : maximum < 2 ^ 63) : chunkSize maximum digits = .ok size := by
  have read := stoull_hex h.hex h.nonempty (by rw [h.denotes]; omega)
  rw [h.denotes] at read
  rw [chunkSize, sizeText_hex h.hex, if_neg h.nonempty, read]
  simp only [ne_eq, not_true_eq_false, if_false]
  rw [if_neg (by omega)]

theorem HexSize.short {size : Nat} {digits : Bytes} (h : HexSize size digits) (positive : 0 < size) :
    digits.length ≤ size ∧ (digits.length < size ∨ size = 1) := by
  obtain ⟨d, ds, rfl⟩ := List.exists_cons_of_ne_nil h.nonempty
  have hex := h.hex d (by simp)
  rw [isDigit, Option.isSome_iff_exists] at hex
  obtain ⟨v, value⟩ := hex
  have first : 0 < v := by
    have every : ∀ n < 256, digitValue 16 (UInt8.ofNat n) = some 0 → n = 48 := by decide +kernel
    by_contra zero
    have here := every d.toNat d.toNat_lt
    rw [UInt8.ofNat_toNat, value, show v = 0 by omega] at here
    apply h.leading
    rw [List.head?_cons, ← UInt8.ofNat_toNat (x := d), here rfl]
    rfl
  have large := pow_le_fromDigits value first ds
  rw [h.denotes] at large
  cases ds with
  | nil =>
      rw [List.length_singleton]
      omega
  | cons e es =>
      have grows : es.length < 16 ^ es.length := Nat.lt_pow_self (by omega)
      rw [List.length_cons, Nat.pow_succ] at large
      rw [List.length_cons, List.length_cons]
      omega

/-! ## The decoder on an encoding -/

theorem Encoding.length_ge {chunks : List Bytes} {s : Bytes} (h : Encoding chunks s) : 5 ≤ s.length := by
  cases h with
  | last => decide
  | chunk size later =>
      have := List.length_pos_iff.mpr size.nonempty
      simp only [List.length_append, crlf_length]
      omega

/-- What is still to come in a mode: the bytes, and the chunks they stand for. -/
def Mode.Awaits (whole : Bytes) (chunks : List Bytes) : Mode → Prop
  | .sizeLine => Encoding chunks whole
  | .data size => ∃ data rest later, whole = data ++ crlf ++ rest ∧ data.length = size ∧
      chunks = data :: later ∧ Encoding later rest
  | .done => whole = crlf ∧ chunks = []

/-- The chunks are not empty and fit in the maximum together. -/
structure Fits (maximum : Nat) (chunks : List Bytes) : Prop where
  nonempty : ∀ data ∈ chunks, data ≠ []
  total : chunks.flatten.length ≤ maximum

theorem Fits.tail {maximum : Nat} {data : Bytes} {chunks : List Bytes}
    (h : Fits maximum (data :: chunks)) : Fits maximum chunks where
  nonempty other member := h.nonempty other (by simp [member])
  total := by
    have := h.total
    rw [List.flatten_cons, List.length_append] at this
    omega

theorem Fits.last {maximum : Nat} {data : Bytes} {chunks : List Bytes}
    (h : Fits maximum (data :: chunks)) (full : maximum ≤ data.length) : chunks = [] := by
  cases chunks with
  | nil => rfl
  | cons next chunks =>
      exfalso
      have total := h.total
      have positive := List.length_pos_iff.mpr (h.nonempty next (by simp))
      simp only [List.flatten_cons, List.length_append] at total
      omega

theorem Encoding.firstLine {chunks : List Bytes} {whole : Bytes} (h : Encoding chunks whole) :
    ∃ line tail, whole = line ++ crlf ++ tail ∧ (∀ b ∈ line, isDigit 16 b = true) ∧
      ((chunks = [] ∧ line = ascii "0" ∧ tail = crlf) ∨
       ∃ data rest later, chunks = data :: later ∧ HexSize data.length line ∧
         tail = data ++ crlf ++ rest ∧ Encoding later rest) := by
  cases h with
  | last => exact ⟨ascii "0", crlf, rfl, by decide +kernel, .inl ⟨rfl, rfl, rfl⟩⟩
  | @chunk data digits rest later size encoded =>
      exact ⟨digits, data ++ crlf ++ rest, rfl, size.hex,
        .inr ⟨data, rest, later, rfl, size, rfl, encoded⟩⟩

theorem chunkSize_zero (maximum : Nat) : chunkSize maximum (ascii "0") = .ok 0 := by
  have read : stoull 16 (ascii "0") = .ok (0, 1) := by decide
  have text : sizeText (ascii "0") = ascii "0" := by decide
  rw [chunkSize, text, if_neg (by decide), read]
  simp only [show (ascii "0").length = 1 from rfl, ne_eq, not_true_eq_false, if_false]
  rw [if_neg (by omega)]

theorem find_firstLine {line tail input future : Bytes} (hex : ∀ b ∈ line, isDigit 16 b = true)
    (whole : input ++ future = line ++ crlf ++ tail) :
    find crlf input = if line.length + 2 ≤ input.length then some line.length else none := by
  have found : find crlf (input ++ future) = some line.length := by
    rw [whole, List.append_assoc]
    exact find_append_cons (notMem_hex hex rfl) [10] tail
  by_cases enough : line.length + 2 ≤ input.length
  · rw [if_pos enough]
    exact find_within (List.prefix_append _ _) found enough
  · rw [if_neg enough]
    cases early : find crlf input with
    | none => rfl
    | some at' =>
        have same := find_append early future
        rw [found] at same
        obtain rfl := Option.some.inj same
        have bound := add_length_le_of_find early
        rw [crlf_length] at bound
        contradiction

section Steps

variable {maximum : Nat} {mode : Mode} {input future : Bytes} {chunks : List Bytes}

def Settled (maximum : Nat) (mode : Mode) (input future : Bytes) : Prop :=
  (mode = .done ↔ future.length ≤ 2) ∧
    (input.length ≤ maximum ∨ (input ++ future).length ≤ maximum + 16)

theorem sizeLine_awaits (small : maximum < 2 ^ 63) (positive : 1 ≤ maximum)
    (awaits : Encoding chunks (input ++ future)) (fits : Fits maximum chunks) :
    (sizeLineStep maximum input = .wait ∧ Settled maximum .sizeLine input future) ∨
    ∃ mode' used, sizeLineStep maximum input = .advance mode' used [] ∧
      mode'.Awaits (input.drop used ++ future) chunks := by
  obtain ⟨line, tail, whole, hex, kind⟩ := awaits.firstLine
  have found := find_firstLine hex whole
  have length := congrArg List.length whole
  simp only [List.length_append, crlf_length] at length
  by_cases enough : line.length + 2 ≤ input.length
  · right
    rw [if_pos enough] at found
    have front : input.take line.length = line := by
      have taken := congrArg (List.take line.length) whole
      rwa [List.take_append_of_le_length (by omega), List.append_assoc, List.take_left] at taken
    have behind : input.drop (line.length + 2) ++ future = tail := by
      have dropped := congrArg (List.drop (line ++ crlf).length) whole
      rwa [List.drop_left, List.length_append, crlf_length,
        List.drop_append_of_le_length enough] at dropped
    rcases kind with ⟨rfl, rfl, rfl⟩ | ⟨data, rest, later, rfl, size, rfl, encoded⟩
    · refine ⟨.done, _, ?_, behind, rfl⟩
      simp only [sizeLineStep, found, front, chunkSize_zero]
    · have positive := List.length_pos_iff.mpr (fits.nonempty data (by simp))
      have within : data.length ≤ maximum := by
        have total := fits.total
        rw [List.flatten_cons, List.length_append] at total
        omega
      obtain ⟨size', same⟩ := Nat.exists_eq_succ_of_ne_zero (Nat.pos_iff_ne_zero.mp positive)
      refine ⟨.data data.length, line.length + 2, ?_, data, rest, later, behind, rfl, rfl, encoded⟩
      have sized := chunkSize_hex size within small
      simp only [sizeLineStep, found, front, sized]
      rw [same]
  · left
    rw [if_neg enough] at found
    refine ⟨by simp only [sizeLineStep, found], ?_⟩
    rcases kind with ⟨rfl, rfl, rfl⟩ | ⟨data, rest, later, rfl, size, rfl, encoded⟩
    · have line : (ascii "0").length = 1 := rfl
      rw [crlf_length] at length
      constructor
      · simp only [reduceCtorEq, false_iff]
        omega
      · right
        rw [List.length_append]
        omega
    · have positive' := List.length_pos_iff.mpr (fits.nonempty data (by simp))
      have within := fits.total
      have tail := encoded.length_ge
      simp only [List.flatten_cons, List.length_append, crlf_length] at within length
      constructor
      · simp only [reduceCtorEq, false_iff]
        omega
      · rcases (size.short positive').2 with shorter | one
        · left
          omega
        · by_cases full : maximum ≤ data.length
          · obtain rfl := fits.last full
            cases encoded
            have last : (ascii "0\r\n\r\n").length = 5 := rfl
            have line := (size.short positive').1
            right
            rw [List.length_append]
            omega
          · have line := (size.short positive').1
            left
            omega

theorem data_awaits {size : Nat} (awaits : (Mode.data size).Awaits (input ++ future) chunks)
    (fits : Fits maximum chunks) :
    (dataStep size input = .wait ∧ Settled maximum (.data size) input future) ∨
    ∃ data later, chunks = data :: later ∧ dataStep size input = .advance .sizeLine (size + 2) [data] ∧
      Encoding later (input.drop (size + 2) ++ future) := by
  obtain ⟨data, rest, later, whole, rfl, rfl, encoded⟩ := awaits
  have length := congrArg List.length whole
  have tail := encoded.length_ge
  have within := fits.total
  simp only [List.flatten_cons, List.length_append, crlf_length] at length within
  by_cases short : input.length < data.length + 2
  · refine .inl ⟨if_pos short, ?_, ?_⟩
    · simp only [reduceCtorEq, false_iff]
      omega
    · by_cases full : maximum ≤ data.length
      · obtain rfl := fits.last full
        cases encoded
        have last : (ascii "0\r\n\r\n").length = 5 := rfl
        right
        rw [List.length_append]
        omega
      · left
        omega
  · right
    have front : input.take (data.length + 2) = data ++ crlf := by
      have taken := congrArg (List.take (data ++ crlf).length) whole
      rwa [List.take_left, List.length_append, crlf_length,
        List.take_append_of_le_length (by omega)] at taken
    have behind : input.drop (data.length + 2) ++ future = rest := by
      have dropped := congrArg (List.drop (data ++ crlf).length) whole
      rwa [List.drop_left, List.length_append, crlf_length,
        List.drop_append_of_le_length (by omega)] at dropped
    have chunk : input.take data.length = data := by
      have taken := congrArg (List.take data.length) front
      rwa [List.take_take, Nat.min_eq_left (by omega), List.take_left] at taken
    have ends : (input.drop data.length).take 2 = crlf := by
      have dropped := congrArg (List.drop data.length) front
      rwa [List.drop_take, Nat.add_sub_cancel_left, List.drop_left] at dropped
    refine ⟨data, later, rfl, ?_, by rwa [behind]⟩
    rw [dataStep, if_neg short, if_pos ends, chunk]

theorem chunkStep_awaits (small : maximum < 2 ^ 63) (positive : 1 ≤ maximum)
    (awaits : mode.Awaits (input ++ future) chunks) (fits : Fits maximum chunks) :
    (chunkStep maximum mode input = .wait ∧ Settled maximum mode input future) ∨
    ∃ mode' used out chunks', chunkStep maximum mode input = .advance mode' used out ∧
      chunks = out ++ chunks' ∧ mode'.Awaits (input.drop used ++ future) chunks' := by
  cases mode with
  | sizeLine =>
      rcases sizeLine_awaits small positive awaits fits with waits | ⟨mode', used, advances, next⟩
      · exact .inl waits
      · exact .inr ⟨mode', used, [], chunks, advances, rfl, next⟩
  | data size =>
      rcases data_awaits awaits fits with waits | ⟨data, later, rfl, advances, next⟩
      · exact .inl waits
      · exact .inr ⟨.sizeLine, size + 2, [data], later, advances, rfl, next⟩
  | done =>
      have length := congrArg List.length awaits.1
      rw [List.length_append, crlf_length] at length
      refine .inl ⟨rfl, ?_, ?_⟩
      · simp only [true_iff]
        omega
      · right
        rw [List.length_append]
        omega

theorem Fits.append {out : List Bytes} (h : Fits maximum (out ++ chunks)) : Fits maximum chunks where
  nonempty data member := h.nonempty data (by simp [member])
  total := by
    have := h.total
    rw [List.flatten_append, List.length_append] at this
    omega

theorem drain_awaits (small : maximum < 2 ^ 63) (positive : 1 ≤ maximum)
    (awaits : mode.Awaits (input ++ future) chunks) (fits : Fits maximum chunks) :
    ∃ out chunks' mode' held, (machine maximum).drain mode input = .ok (out, mode', held) ∧
      chunks = out ++ chunks' ∧ mode'.Awaits (held ++ future) chunks' ∧
      Settled maximum mode' held future := by
  induction mode, input using Machine.drain_induct (m := machine maximum) generalizing chunks with
  | wait mode input waits =>
      rcases chunkStep_awaits small positive awaits fits with
        ⟨_, settled⟩ | ⟨mode', used, out, chunks', advances, _⟩
      · exact ⟨[], chunks, mode, input, Machine.drain_of_wait waits, rfl, awaits, settled⟩
      · rw [show chunkStep maximum mode input = .wait from waits] at advances
        contradiction
  | fail mode input what fails =>
      rcases chunkStep_awaits small positive awaits fits with
        ⟨waits, _⟩ | ⟨mode', used, out, chunks', advances, _⟩
      · rw [show chunkStep maximum mode input = .fail what from fails] at waits
        contradiction
      · rw [show chunkStep maximum mode input = .fail what from fails] at advances
        contradiction
  | advance mode input mode' used first advances ih =>
      rcases chunkStep_awaits small positive awaits fits with
        ⟨waits, _⟩ | ⟨mode'', used', out, chunks', advances', rfl, next⟩
      · rw [show chunkStep maximum mode input = .advance mode' used first from advances] at waits
        contradiction
      · rw [show chunkStep maximum mode input = .advance mode' used first from advances] at advances'
        obtain ⟨rfl, rfl, rfl⟩ := Progress.advance.inj advances'
        obtain ⟨outs, chunks'', last, held, runs, rfl, awaits', settled⟩ := ih next fits.append
        refine ⟨first ++ outs, chunks'', last, held, ?_, by rw [List.append_assoc], awaits', settled⟩
        rw [Machine.drain_of_advance advances, runs]
        rfl

end Steps

/-! ## Every cut -/

theorem complete_ofMode (maximum : Nat) (mode : Mode) (held : Bytes) :
    (ofMode maximum mode held).complete = true ↔ mode = .done := by
  cases mode <;> simp [ofMode, complete]

section Cuts

variable {maximum : Nat} (small : maximum < 2 ^ 63) (positive : 1 ≤ maximum)
include small positive

theorem feed_awaits {mode : Mode} {held piece future : Bytes} {chunks : List Bytes}
    (awaits : mode.Awaits (held ++ (piece ++ future)) chunks) (fits : Fits maximum chunks)
    (settled : Settled maximum mode held (piece ++ future)) (bounded : mode.Bounded maximum)
    (piece_le : piece.length ≤ 1024 * 1024) :
    ∃ out chunks' mode' held', feed (ofMode maximum mode held) piece =
        .ok (out, ofMode maximum mode' held') ∧ chunks = out ++ chunks' ∧
      mode'.Awaits (held' ++ future) chunks' ∧ Settled maximum mode' held' future ∧
      mode'.Bounded maximum := by
  have guard : (held ++ piece).length ≤ maximum + 1024 * 1024 := by
    have room := settled.2
    simp only [List.length_append] at room ⊢
    omega
  rw [← List.append_assoc] at awaits
  obtain ⟨out, chunks', mode', held', runs, parts, next, settles⟩ :=
    drain_awaits small positive awaits fits
  refine ⟨out, chunks', mode', held', ?_, parts, next, settles, drain_bounded bounded runs⟩
  rw [feed_ofMode small bounded guard, runs]
  rfl

theorem feedAll_awaits {mode : Mode} {held : Bytes} (future : Bytes) {chunks : List Bytes}
    (pieces : List Bytes) (awaits : mode.Awaits (held ++ (pieces.flatten ++ future)) chunks) (fits : Fits maximum chunks)
    (settled : Settled maximum mode held (pieces.flatten ++ future)) (bounded : mode.Bounded maximum)
    (pieces_le : ∀ piece ∈ pieces, piece.length ≤ 1024 * 1024) :
    ∃ out chunks' mode' held', feedAll (ofMode maximum mode held) pieces =
        .ok (out, ofMode maximum mode' held') ∧ chunks = out ++ chunks' ∧
      mode'.Awaits (held' ++ future) chunks' ∧ Settled maximum mode' held' future := by
  induction pieces generalizing mode held chunks with
  | nil => exact ⟨[], chunks, mode, held, rfl, rfl, awaits, settled⟩
  | cons piece pieces ih =>
      rw [List.flatten_cons, List.append_assoc] at awaits settled
      obtain ⟨out, chunks', mode', held', feeds, rfl, next, settles, bounded'⟩ :=
        feed_awaits small positive awaits fits settled bounded (pieces_le piece (by simp))
      obtain ⟨outs, chunks'', last, held'', later, rfl, awaits', settled'⟩ :=
        ih next fits.append settles bounded' fun other member => pieces_le other (by simp [member])
      refine ⟨out ++ outs, chunks'', last, held'', ?_, by rw [List.append_assoc], awaits', settled'⟩
      rw [feedAll, feeds]
      simp only [bind, Except.bind, later]
      rfl

end Cuts

theorem feedAll_encoding (maximum : Nat) (positive : 1 ≤ maximum) (small : maximum < 2 ^ 63)
    (chunks : List Bytes) (nonempty : ∀ data ∈ chunks, data ≠ [])
    (total : chunks.flatten.length ≤ maximum) (s : Bytes) (encoded : Encoding chunks s)
    (pieces : List Bytes) (cut : pieces.flatten = s)
    (pieces_le : ∀ piece ∈ pieces, piece.length ≤ 1024 * 1024) :
    (∃ d, feedAll (fresh maximum) pieces = .ok (chunks, d)) ∧
      ∀ before after, pieces = before ++ after →
        ∃ done d, feedAll (fresh maximum) before = .ok (done, d) ∧
          (d.complete = true ↔ s.length - 2 ≤ before.flatten.length) := by
  have fits : Fits maximum chunks := ⟨nonempty, total⟩
  have start (before after : List Bytes) (split : pieces = before ++ after) :=
    feedAll_awaits small positive after.flatten before
      (show Mode.sizeLine.Awaits ([] ++ (before.flatten ++ after.flatten)) chunks by
        rw [List.nil_append, ← List.flatten_append, ← split, cut]; exact encoded) fits
      (by
        rw [← List.flatten_append, ← split, cut]
        have := encoded.length_ge
        refine ⟨?_, .inl (Nat.zero_le _)⟩
        simp only [reduceCtorEq, false_iff]
        omega)
      trivial (fun piece member => pieces_le piece (by simp [split, member]))
  constructor
  · obtain ⟨out, chunks', mode, held, runs, rfl, awaits, settled⟩ := start pieces [] (by simp)
    obtain rfl := settled.1.mpr (Nat.zero_le _)
    obtain rfl := awaits.2
    exact ⟨_, by rw [List.append_nil]; exact runs⟩
  · intro before after split
    obtain ⟨out, chunks', mode, held, runs, -, -, settled⟩ := start before after split
    refine ⟨out, _, runs, ?_⟩
    have length := congrArg List.length cut
    have := encoded.length_ge
    rw [split, List.flatten_append, List.length_append] at length
    rw [complete_ofMode, settled.1]
    omega

theorem feedAll_encoding_wiki :
    (∃ d, feedAll (fresh 4) [ascii "4\r", ascii "\nwi", ascii "ki\r\n0\r\n\r\n"] =
        .ok ([ascii "wiki"], d)) ∧
      ∀ before after, [ascii "4\r", ascii "\nwi", ascii "ki\r\n0\r\n\r\n"] = before ++ after →
        ∃ done d, feedAll (fresh 4) before = .ok (done, d) ∧
          (d.complete = true ↔ (ascii "4\r\nwiki\r\n0\r\n\r\n").length - 2 ≤ before.flatten.length) :=
  have four : HexSize (ascii "wiki").length (ascii "4") :=
    ⟨by decide +kernel, by decide, by decide, by decide⟩
  feedAll_encoding 4 (by decide) (by decide) _ (by decide) (by decide) _ (.chunk four .last) _
    (by decide) (by decide)

end LuaXENetwork.HttpChunkDecoder
