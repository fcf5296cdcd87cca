import LuaXENetwork.Library.Except
import LuaXENetwork.Proof.Http.ChunkDecoder
import LuaXENetwork.Proof.Http.HeaderBlock

/-! What a decoder holds between two calls of `Feed`: nothing it could have taken already. -/

namespace LuaXENetwork.HttpChunkDecoder
open Library

/-- Bytes read off a body, piece by piece: size lines and the chunks they announce. The mode is
what comes next. -/
inductive Read (maximum : Nat) : Bytes → List Bytes → Mode → Prop
  | start : Read maximum [] [] .sizeLine
  | size {read line : Bytes} {chunks : List Bytes} {size : Nat} (before : Read maximum read chunks .sizeLine)
      (oneLine : find crlf line = none) (sized : chunkSize maximum line = .ok (size + 1)) :
      Read maximum (read ++ (line ++ crlf)) chunks (.data (size + 1))
  | data {read data : Bytes} {chunks : List Bytes} (before : Read maximum read chunks (.data data.length)) :
      Read maximum (read ++ (data ++ crlf)) (chunks ++ [data]) .sizeLine
  | last {read line : Bytes} {chunks : List Bytes} (before : Read maximum read chunks .sizeLine)
      (oneLine : find crlf line = none) (zero : chunkSize maximum line = .ok 0) :
      Read maximum (read ++ (line ++ crlf)) chunks .done

theorem Read.pending {maximum size : Nat} {read : Bytes} {chunks : List Bytes}
    (is : Read maximum read chunks (.data size)) : 1 ≤ size ∧ size ≤ maximum := by
  cases is with
  | size before oneLine sized => exact ⟨by omega, chunkSize_le sized⟩

theorem find_take_none {input : Bytes} {lineEnd : Nat} (found : find crlf input = some lineEnd) :
    find crlf (input.take lineEnd) = none := by
  rw [find_eq_none_iff]
  rintro ⟨before, after, inside⟩
  have bound := congrArg List.length inside
  simp only [List.length_append, List.length_take, crlf_length] at bound
  refine not_prefix_drop_of_find found (j := before.length) (by omega) ?_
  rw [← List.take_append_drop lineEnd input, ← inside, List.append_assoc, List.append_assoc, List.drop_left]
  exact List.prefix_append _ _

/-- A step that advances reads one line or one chunk more. -/
theorem chunkStep_read {maximum used : Nat} {mode mode' : Mode} {read input : Bytes} {chunks out : List Bytes}
    (before : Read maximum read chunks mode)
    (advances : chunkStep maximum mode input = .advance mode' used out) :
    Read maximum (read ++ input.take used) (chunks ++ out) mode' := by
  cases mode with
  | sizeLine =>
      rw [chunkStep] at advances
      rcases sizeLineStep_cases maximum input with
        ⟨_, is⟩ | ⟨lineEnd, found, ⟨what, _, is⟩ | ⟨zero, is⟩ | ⟨size, sized, is⟩⟩ <;>
        rw [is] at advances <;> cases advances
      all_goals
        have line : input.take (lineEnd + 2) = input.take lineEnd ++ crlf := by
          rw [List.take_add, ← crlf_length]
          exact congrArg _ (List.prefix_iff_eq_take.mp (prefix_drop_of_find found)).symm
        rw [line, List.append_nil]
      · exact .last before (find_take_none found) zero
      · exact .size before (find_take_none found) sized
  | data size =>
      rw [chunkStep, dataStep] at advances
      split_ifs at advances with short ends
      cases advances
      have length : (input.take size).length = size := by
        rw [List.length_take]
        omega
      rw [List.take_add, ends]
      refine .data ?_
      rw [length]
      exact before
  | done => contradiction

/-- A run reads a body further, and keeps what it has not read. -/
theorem drain_read {maximum : Nat} {mode mode' : Mode} {read input rest : Bytes} {chunks out : List Bytes}
    (before : Read maximum read chunks mode)
    (run : (machine maximum).drain mode input = .ok (out, mode', rest)) :
    ∃ taken, Read maximum (read ++ taken) (chunks ++ out) mode' ∧
      taken ++ rest = input := by
  induction mode, input using Machine.drain_induct (m := machine maximum) generalizing read chunks out with
  | wait mode input waits =>
      rw [Machine.drain_of_wait waits] at run
      cases run
      exact ⟨[], by simpa using before, rfl⟩
  | fail mode input what fails =>
      rw [Machine.drain_of_fail fails] at run
      contradiction
  | advance mode input mode₁ used first advances ih =>
      obtain ⟨later, rfl, after⟩ := Machine.drain_ok_of_advance advances run
      obtain ⟨taken, reads, split⟩ := ih (chunkStep_read before advances) after
      refine ⟨input.take used ++ taken, ?_, ?_⟩
      · simpa only [List.append_assoc] using reads
      · rw [List.append_assoc, split, List.take_append_drop]

/-! ## Whoever holds these bytes has read them -/

section Eager

variable {maximum : Nat} {line data : Bytes} (more : Bytes)

theorem step_line {size : Nat} (oneLine : find crlf line = none)
    (sized : chunkSize maximum line = .ok (size + 1)) :
    (machine maximum).step .sizeLine (line ++ crlf ++ more) =
      .advance (.data (size + 1)) (line ++ crlf).length [] := by
  simp [machine, chunkStep, sizeLineStep, find_crlf_unbroken oneLine, sized]

theorem step_last (oneLine : find crlf line = none) (zero : chunkSize maximum line = .ok 0) :
    (machine maximum).step .sizeLine (line ++ crlf ++ more) = .advance .done (line ++ crlf).length [] := by
  simp [machine, chunkStep, sizeLineStep, find_crlf_unbroken oneLine, zero]

theorem step_data :
    (machine maximum).step (.data data.length) (data ++ crlf ++ more) =
      .advance .sizeLine (data ++ crlf).length [data] := by
  have enough : ¬ (data ++ crlf ++ more).length < data.length + 2 := by
    simp only [List.length_append, crlf_length]
    omega
  have ends : ((data ++ crlf ++ more).drop data.length).take 2 = crlf := by
    rw [List.append_assoc, List.drop_left]
    rfl
  simp only [machine, chunkStep, dataStep, if_neg enough, if_pos ends]
  simp

end Eager

theorem Read.delivered {maximum : Nat} {read : Bytes} {chunks : List Bytes} {mode : Mode}
    (is : Read maximum read chunks mode) {more : Bytes} {out : List Bytes} {final : Mode × Bytes}
    (run : (machine maximum).drain .sizeLine (read ++ more) = .ok (out, final)) :
    ∃ later, out = chunks ++ later ∧ (machine maximum).drain mode more = .ok (later, final) := by
  induction is generalizing more with
  | start =>
      rw [List.nil_append] at run
      exact ⟨out, (List.nil_append out).symm, run⟩
  | @size read line chunks size before oneLine sized ih =>
      rw [List.append_assoc] at run
      obtain ⟨later, rfl, next⟩ := ih run
      obtain ⟨later, rfl, after⟩ := Machine.drain_ok_of_advance (step_line more oneLine sized) next
      rw [List.drop_left] at after
      exact ⟨later, rfl, after⟩
  | @data read data chunks before ih =>
      rw [List.append_assoc] at run
      obtain ⟨later, rfl, next⟩ := ih run
      obtain ⟨later, rfl, after⟩ := Machine.drain_ok_of_advance (step_data more) next
      rw [List.drop_left] at after
      exact ⟨later, (List.append_assoc ..).symm, after⟩
  | @last read line chunks before oneLine zero ih =>
      rw [List.append_assoc] at run
      obtain ⟨later, rfl, next⟩ := ih run
      obtain ⟨later, rfl, after⟩ := Machine.drain_ok_of_advance (step_last more oneLine zero) next
      rw [List.drop_left] at after
      exact ⟨later, rfl, after⟩

/-! ## Between two calls -/

theorem feedAll_cons_ok {d d' : HttpChunkDecoder} {piece : Bytes} {pieces chunks : List Bytes}
    (fed : feedAll d (piece :: pieces) = .ok (chunks, d')) :
    ∃ out d₁ later, feed d piece = .ok (out, d₁) ∧ feedAll d₁ pieces = .ok (later, d') ∧
      chunks = out ++ later := by
  rw [feedAll, bind_eq_ok] at fed
  obtain ⟨⟨out, d₁⟩, first, fed⟩ := fed
  obtain ⟨⟨later, d₂⟩, others, last⟩ := bind_eq_ok.mp fed
  obtain ⟨rfl, rfl⟩ := Prod.mk.inj (pure_eq_ok.mp last)
  exact ⟨out, d₁, later, first, others, rfl⟩

theorem feedAll_append_ok {d d' : HttpChunkDecoder} {earlier later chunks : List Bytes}
    (fed : feedAll d (earlier ++ later) = .ok (chunks, d')) :
    ∃ before d₁, feedAll d earlier = .ok (before, d₁) ∧ before <+: chunks := by
  induction earlier generalizing d chunks with
  | nil => exact ⟨[], d, rfl, List.nil_prefix⟩
  | cons piece earlier ih =>
      obtain ⟨out, d₁, rest, first, others, rfl⟩ := feedAll_cons_ok fed
      obtain ⟨before, d₂, run, front⟩ := ih others
      refine ⟨out ++ before, d₂, ?_, (List.prefix_append_right_inj out).mpr front⟩
      rw [feedAll, first, ok_bind]
      exact bind_eq_ok.mpr ⟨_, run, rfl⟩

theorem feedAll_ok {maximum : Nat} (small : maximum < 2 ^ 63) {mode : Mode} {held : Bytes}
    {pieces chunks : List Bytes} {d : HttpChunkDecoder} (bounded : mode.Bounded maximum)
    (fed : feedAll (ofMode maximum mode held) pieces = .ok (chunks, d)) :
    ∃ mode' held', (machine maximum).feedAll mode held pieces = .ok (chunks, mode', held') ∧
      d = ofMode maximum mode' held' := by
  induction pieces generalizing mode held chunks with
  | nil =>
      cases fed
      exact ⟨mode, held, rfl, rfl⟩
  | cons piece pieces ih =>
      obtain ⟨out, d₁, later, first, others, rfl⟩ := feedAll_cons_ok fed
      obtain ⟨mode₁, held₁, run, rfl⟩ := feed_ok small bounded first
      obtain ⟨mode', held', run', rfl⟩ := ih (drain_bounded bounded run) others
      refine ⟨mode', held', ?_, rfl⟩
      rw [Machine.feedAll, run]
      simp only [bind, Except.bind, run']
      rfl

theorem drain_of_feedAll {maximum : Nat} (small : maximum < 2 ^ 63) {pieces chunks : List Bytes}
    {d : HttpChunkDecoder} (fed : feedAll (fresh maximum) pieces = .ok (chunks, d)) :
    ∃ mode held, (machine maximum).drain .sizeLine pieces.flatten = .ok (chunks, mode, held) ∧
      d = ofMode maximum mode held := by
  have bounded : Mode.sizeLine.Bounded maximum := trivial
  have fed' : feedAll (ofMode maximum .sizeLine []) pieces = .ok (chunks, d) := fed
  obtain ⟨mode, held, run, rfl⟩ := feedAll_ok small bounded fed'
  rw [Machine.feedAll_eq_drain rfl, List.nil_append] at run
  exact ⟨mode, held, run, rfl⟩

/-- These are the chunks that the fed bytes complete, all of them. -/
structure Completes (maximum : Nat) (fed : Bytes) (chunks : List Bytes) : Prop where
  within : ∃ read mode, Read maximum read chunks mode ∧ read <+: fed
  greatest : ∀ read chunks' mode, Read maximum read chunks' mode → read <+: fed → chunks' <+: chunks

theorem completes_of_feedAll {maximum : Nat} (small : maximum < 2 ^ 63) {pieces chunks : List Bytes}
    {d : HttpChunkDecoder} (fed : feedAll (fresh maximum) pieces = .ok (chunks, d)) :
    Completes maximum pieces.flatten chunks := by
  obtain ⟨mode, held, run, -⟩ := drain_of_feedAll small fed
  obtain ⟨read, reads, split⟩ := drain_read .start run
  refine ⟨⟨read, mode, by simpa using reads, ⟨held, split⟩⟩, ?_⟩
  rintro read' chunks' mode' reads' ⟨more, whole⟩
  rw [← whole] at run
  obtain ⟨later, rfl, -⟩ := reads'.delivered run
  exact List.prefix_append _ _

/-- What a waiting decoder waits for. -/
theorem waits_cases {maximum : Nat} {mode : Mode} {held : Bytes}
    (waits : (machine maximum).step mode held = .wait) :
    match mode with
    | .sizeLine => ¬ crlf <:+: held
    | .data size => held.length < size + 2
    | .done => True := by
  cases mode with
  | sizeLine =>
      rcases sizeLineStep_cases maximum held with
        ⟨absent, _⟩ | ⟨lineEnd, found, ⟨what, _, is⟩ | ⟨_, is⟩ | ⟨size, _, is⟩⟩
      · exact find_eq_none_iff.mp absent
      all_goals
        rw [show sizeLineStep maximum held = .wait from waits] at is
        contradiction
  | data size =>
      by_contra enough
      simp only [machine, chunkStep, dataStep, if_neg enough] at waits
      split_ifs at waits
  | done => trivial

/-- After any calls of `Feed` that did not throw: the bytes read and the bytes held are the bytes
fed, the decoder waits for bytes it needs, and after each call every chunk complete by then was
out. -/
theorem feedAll_eager (maximum : Nat) (small : maximum < 2 ^ 63) (pieces chunks : List Bytes)
    (d : HttpChunkDecoder) (fed : feedAll (fresh maximum) pieces = .ok (chunks, d)) :
    (∃ read mode, Read maximum read chunks mode ∧ d = ofMode maximum mode d.buffer ∧
        read ++ d.buffer = pieces.flatten) ∧
      (d.finished = false →
        d.remaining = none ∧ ¬ crlf <:+: d.buffer ∨
        ∃ n, d.remaining = some n ∧ 1 ≤ n ∧ n ≤ maximum ∧ d.buffer.length < n + 2) ∧
      ∀ earlier later, pieces = earlier ++ later → ∃ before d',
        feedAll (fresh maximum) earlier = .ok (before, d') ∧ before <+: chunks ∧
          Completes maximum earlier.flatten before := by
  obtain ⟨mode, held, run, rfl⟩ := drain_of_feedAll small fed
  obtain ⟨read, reads, split⟩ := drain_read .start run
  have waits := waits_cases (Machine.wait_of_drain run)
  rw [List.nil_append, List.nil_append] at reads
  refine ⟨⟨read, mode, reads, ?_, ?_⟩, ?_, ?_⟩
  · cases mode <;> rfl
  · cases mode <;> exact split
  · intro unfinished
    cases mode with
    | sizeLine => exact .inl ⟨rfl, waits⟩
    | data size => exact .inr ⟨size, rfl, reads.pending.1, reads.pending.2, waits⟩
    | done => cases unfinished
  · rintro earlier later rfl
    obtain ⟨before, d', fed', front⟩ := feedAll_append_ok fed
    exact ⟨before, d', fed', front, completes_of_feedAll small fed'⟩

theorem feedAll_eager_wiki :
    ∃ d, (∃ read mode, Read 9 read [] mode ∧ d = ofMode 9 mode d.buffer ∧
        read ++ d.buffer = ascii "4\r\nwi") ∧
      (d.finished = false →
        d.remaining = none ∧ ¬ crlf <:+: d.buffer ∨
        ∃ n, d.remaining = some n ∧ 1 ≤ n ∧ n ≤ 9 ∧ d.buffer.length < n + 2) := by
  have line : drain ⟨ascii "4\r\nwi", none, false, 9⟩ = drain ⟨ascii "wi", some 4, false, 9⟩ := by
    have found : find crlf (ascii "4\r\nwi") = some 1 := by decide
    have sized : chunkSize 9 ((ascii "4\r\nwi").take 1) = .ok 4 := by decide +kernel
    exact drain_size_line found sized
  have short : drain ⟨ascii "wi", some 4, false, 9⟩ = .ok ([], ⟨ascii "wi", some 4, false, 9⟩) :=
    drain_short (by decide)
  have fed : feedAll (fresh 9) [ascii "4\r\nwi"] = .ok ([], ⟨ascii "wi", some 4, false, 9⟩) := by
    rw [feedAll, feed, if_neg (by decide)]
    simp only [fresh, List.nil_append, line, short]
    rfl
  have eager := feedAll_eager 9 (by decide) _ _ _ fed
  exact ⟨_, eager.1, eager.2.1⟩

end LuaXENetwork.HttpChunkDecoder
