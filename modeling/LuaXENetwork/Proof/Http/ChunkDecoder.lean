import LuaXENetwork.Http.ChunkDecoder
import LuaXENetwork.Library.Incremental
import Mathlib.Tactic.SplitIfs

namespace LuaXENetwork

@[simp] theorem crlf_length : crlf.length = 2 := rfl

namespace HttpChunkDecoder
open Library

/-! ## One round of the loop -/

section Rounds

variable {maximum : Nat} {buffer : Bytes}

theorem drain_finished {remaining : Option Nat} :
    drain ⟨buffer, remaining, true, maximum⟩ = .ok ([], ⟨buffer, remaining, true, maximum⟩) := by
  rw [drain, if_pos rfl]

theorem drain_no_line (absent : find crlf buffer = none) :
    drain ⟨buffer, none, false, maximum⟩ = .ok ([], ⟨buffer, none, false, maximum⟩) := by
  rw [drain]
  simp only [Bool.false_eq_true, if_false]
  split <;> simp_all

theorem drain_bad_line {lineEnd : Nat} {what : Bytes} (found : find crlf buffer = some lineEnd)
    (bad : chunkSize maximum (buffer.take lineEnd) = .error what) :
    drain ⟨buffer, none, false, maximum⟩ = .error what := by
  rw [drain]
  simp only [Bool.false_eq_true, if_false]
  split <;> simp_all

theorem drain_last_line {lineEnd : Nat} (found : find crlf buffer = some lineEnd)
    (last : chunkSize maximum (buffer.take lineEnd) = .ok 0) :
    drain ⟨buffer, none, false, maximum⟩ =
      .ok ([], ⟨buffer.drop (lineEnd + 2), none, true, maximum⟩) := by
  rw [drain]
  simp only [Bool.false_eq_true, if_false]
  split <;> simp_all

theorem drain_size_line {lineEnd size : Nat} (found : find crlf buffer = some lineEnd)
    (sized : chunkSize maximum (buffer.take lineEnd) = .ok (size + 1)) :
    drain ⟨buffer, none, false, maximum⟩ =
      drain ⟨buffer.drop (lineEnd + 2), some (size + 1), false, maximum⟩ := by
  rw [drain]
  simp only [Bool.false_eq_true, if_false]
  split <;> simp_all

theorem drain_short {size : Nat} (short : buffer.length < sizeT (size + 2)) :
    drain ⟨buffer, some size, false, maximum⟩ =
      .ok ([], ⟨buffer, some size, false, maximum⟩) := by
  rw [drain]
  simp only [Bool.false_eq_true, if_false, if_pos short]

theorem drain_bad_end {size : Nat} (enough : ¬ buffer.length < sizeT (size + 2))
    (bad : (buffer.drop size).take 2 ≠ crlf) :
    drain ⟨buffer, some size, false, maximum⟩ = .error (ascii "HTTP chunk missing terminator") := by
  rw [drain]
  simp only [Bool.false_eq_true, if_false, if_neg enough, dif_neg bad]

theorem drain_chunk {size : Nat} (enough : ¬ buffer.length < sizeT (size + 2))
    (ends : (buffer.drop size).take 2 = crlf) :
    drain ⟨buffer, some size, false, maximum⟩ = (do
      let (chunks, d) ← drain ⟨buffer.drop (size + 2), none, false, maximum⟩
      return (buffer.take size :: chunks, d)) := by
  rw [drain]
  simp only [Bool.false_eq_true, if_false, if_neg enough, dif_pos ends]

end Rounds

theorem chunkSize_le {maximum size : Nat} {line : Bytes} (h : chunkSize maximum line = .ok size) :
    size ≤ maximum := by
  rw [chunkSize] at h
  by_cases empty : sizeText line = []
  · rw [if_pos empty] at h
    nomatch h
  rw [if_neg empty] at h
  cases read : stoull 16 (sizeText line) with
  | error what =>
      rw [read] at h
      nomatch h
  | ok result =>
      rw [read] at h
      dsimp only at h
      by_cases partly : result.2 ≠ (sizeText line).length
      · rw [if_pos partly] at h
        nomatch h
      rw [if_neg partly] at h
      by_cases large : maximum < result.1
      · rw [if_pos large] at h
        nomatch h
      rw [if_neg large] at h
      obtain rfl := Except.ok.inj h
      omega

/-! ## The decoder as a resumable machine -/

/-- Which part of the body comes next. -/
inductive Mode where
  | sizeLine
  | data (size : Nat)
  | done

def sizeLineStep (maximum : Nat) (input : Bytes) : Progress Mode Bytes Bytes :=
  match find crlf input with
  | none => .wait
  | some lineEnd =>
      match chunkSize maximum (input.take lineEnd) with
      | .error what => .fail what
      | .ok 0 => .advance .done (lineEnd + 2) []
      | .ok (size + 1) => .advance (.data (size + 1)) (lineEnd + 2) []

def dataStep (size : Nat) (input : Bytes) : Progress Mode Bytes Bytes :=
  if input.length < size + 2 then .wait
  else if (input.drop size).take 2 = crlf then .advance .sizeLine (size + 2) [input.take size]
  else .fail (ascii "HTTP chunk missing terminator")

def chunkStep (maximum : Nat) : Mode → Bytes → Progress Mode Bytes Bytes
  | .sizeLine => sizeLineStep maximum
  | .data size => dataStep size
  | .done => fun _ => .wait

theorem sizeLineStep_cases (maximum : Nat) (input : Bytes) :
    (find crlf input = none ∧ sizeLineStep maximum input = .wait) ∨
    ∃ lineEnd, find crlf input = some lineEnd ∧
      ((∃ what, chunkSize maximum (input.take lineEnd) = .error what ∧
          sizeLineStep maximum input = .fail what) ∨
       (chunkSize maximum (input.take lineEnd) = .ok 0 ∧
          sizeLineStep maximum input = .advance .done (lineEnd + 2) []) ∨
       ∃ size, chunkSize maximum (input.take lineEnd) = .ok (size + 1) ∧
          sizeLineStep maximum input = .advance (.data (size + 1)) (lineEnd + 2) []) := by
  cases found : find crlf input with
  | none => exact .inl ⟨rfl, by simp [sizeLineStep, found]⟩
  | some lineEnd =>
      refine .inr ⟨lineEnd, rfl, ?_⟩
      cases sized : chunkSize maximum (input.take lineEnd) with
      | error what => exact .inl ⟨what, rfl, by simp [sizeLineStep, found, sized]⟩
      | ok size =>
          cases size with
          | zero => exact .inr (.inl ⟨rfl, by simp [sizeLineStep, found, sized]⟩)
          | succ size => exact .inr (.inr ⟨size, rfl, by simp [sizeLineStep, found, sized]⟩)

theorem chunkStep_used {maximum : Nat} {mode mode' : Mode} {input : Bytes} {used : Nat}
    {out : List Bytes} (h : chunkStep maximum mode input = .advance mode' used out) :
    0 < used ∧ used ≤ input.length := by
  cases mode with
  | sizeLine =>
      rw [chunkStep] at h
      rcases sizeLineStep_cases maximum input with
        ⟨_, is⟩ | ⟨lineEnd, found, ⟨what, _, is⟩ | ⟨_, is⟩ | ⟨size, _, is⟩⟩ <;>
        rw [is] at h
      · contradiction
      · contradiction
      all_goals
        have bound := add_length_le_of_find found
        rw [crlf_length] at bound
        cases h
        omega
  | data size =>
      rw [chunkStep, dataStep] at h
      split_ifs at h with short ends
      cases h
      omega
  | done => contradiction

theorem chunkStep_stable {maximum : Nat} {mode : Mode} {input : Bytes} (more : Bytes)
    (moves : chunkStep maximum mode input ≠ .wait) :
    chunkStep maximum mode (input ++ more) = chunkStep maximum mode input := by
  cases mode with
  | sizeLine =>
      simp only [chunkStep, sizeLineStep] at moves ⊢
      cases found : find crlf input with
      | none => simp [found] at moves
      | some lineEnd =>
          have bound := add_length_le_of_find found
          have inside : lineEnd ≤ input.length := by omega
          simp only [find_append found, List.take_append_of_le_length inside]
  | data size =>
      have enough : ¬ input.length < size + 2 := fun short => moves (if_pos short)
      have enough' : ¬ (input ++ more).length < size + 2 := by
        rw [List.length_append]
        omega
      simp only [chunkStep, dataStep, if_neg enough, if_neg enough']
      rw [List.drop_append_of_le_length (by omega),
        List.take_append_of_le_length (by rw [List.length_drop]; omega),
        List.take_append_of_le_length (by omega)]
  | done => exact absurd rfl moves

def machine (maximum : Nat) : Machine Mode UInt8 Bytes Bytes where
  step := chunkStep maximum
  used_pos h := (chunkStep_used h).1
  used_le h := (chunkStep_used h).2
  stable := chunkStep_stable

/-! ## `Feed` refines the machine -/

def ofMode (maximum : Nat) : Mode → Bytes → HttpChunkDecoder
  | .sizeLine, buffer => ⟨buffer, none, false, maximum⟩
  | .data size, buffer => ⟨buffer, some size, false, maximum⟩
  | .done, buffer => ⟨buffer, none, true, maximum⟩

def Mode.Bounded (maximum : Nat) : Mode → Prop
  | .data size => size ≤ maximum
  | _ => True

def ofRun (maximum : Nat) (run : List Bytes × Mode × Bytes) : List Bytes × HttpChunkDecoder :=
  (run.1, ofMode maximum run.2.1 run.2.2)

theorem chunkStep_bounded {maximum : Nat} {mode mode' : Mode} {input : Bytes} {used : Nat}
    {out : List Bytes} (h : chunkStep maximum mode input = .advance mode' used out) :
    mode'.Bounded maximum := by
  cases mode with
  | sizeLine =>
      rw [chunkStep] at h
      rcases sizeLineStep_cases maximum input with
        ⟨_, is⟩ | ⟨lineEnd, found, ⟨what, _, is⟩ | ⟨_, is⟩ | ⟨size, sized, is⟩⟩ <;>
        rw [is] at h <;> cases h
      · trivial
      · exact chunkSize_le sized
  | data size =>
      rw [chunkStep, dataStep] at h
      split_ifs at h
      cases h
      trivial
  | done => contradiction

theorem drain_ofMode {maximum : Nat} (small : maximum < 2 ^ 63) (mode : Mode) (input : Bytes)
    (bounded : mode.Bounded maximum) :
    drain (ofMode maximum mode input) =
      ((machine maximum).drain mode input).map (ofRun maximum) := by
  have exact_size {size : Nat} (h : size ≤ maximum) : sizeT (size + 2) = size + 2 :=
    sizeT_small (by omega)
  induction mode, input using Machine.drain_induct (m := machine maximum) with
  | wait mode input waits =>
      rw [Machine.drain_of_wait waits]
      cases mode with
      | sizeLine =>
          rcases sizeLineStep_cases maximum input with
            ⟨absent, _⟩ | ⟨lineEnd, found, ⟨what, _, is⟩ | ⟨_, is⟩ | ⟨size, _, is⟩⟩
          · exact drain_no_line absent
          all_goals
            rw [show sizeLineStep maximum input = .wait from waits] at is
            contradiction
      | data size =>
          have short : input.length < size + 2 := by
            by_contra enough
            simp only [machine, chunkStep, dataStep, if_neg enough] at waits
            split_ifs at waits
          exact drain_short (by rwa [exact_size bounded])
      | done => exact drain_finished
  | fail mode input what fails =>
      rw [Machine.drain_of_fail fails]
      cases mode with
      | sizeLine =>
          rcases sizeLineStep_cases maximum input with
            ⟨_, is⟩ | ⟨lineEnd, found, ⟨what', bad, is⟩ | ⟨_, is⟩ | ⟨size, _, is⟩⟩ <;>
            rw [show sizeLineStep maximum input = .fail what from fails] at is <;> cases is
          exact drain_bad_line found bad
      | data size =>
          simp only [machine, chunkStep, dataStep] at fails
          split_ifs at fails with short ends
          cases fails
          exact drain_bad_end (by rwa [exact_size bounded]) ends
      | done => contradiction
  | advance mode input mode' used out advances ih =>
      have next := ih (chunkStep_bounded advances)
      rw [Machine.drain_of_advance advances]
      cases mode with
      | sizeLine =>
          rcases sizeLineStep_cases maximum input with
            ⟨_, is⟩ | ⟨lineEnd, found, ⟨what, _, is⟩ | ⟨last, is⟩ | ⟨size, sized, is⟩⟩ <;>
            rw [show sizeLineStep maximum input = .advance mode' used out from advances] at is <;>
            cases is
          · rw [ofMode, drain_last_line found last, Machine.drain_of_wait rfl]
            rfl
          · rw [ofMode, drain_size_line found sized]
            rw [ofMode] at next
            rw [next]
            cases (machine maximum).drain (.data (size + 1)) (input.drop (lineEnd + 2)) <;> rfl
      | data size =>
          simp only [machine, chunkStep, dataStep] at advances
          split_ifs at advances with short ends
          cases advances
          rw [ofMode, drain_chunk (by rwa [exact_size bounded]) ends]
          rw [ofMode] at next
          rw [next]
          cases (machine maximum).drain .sizeLine (input.drop (size + 2)) <;> rfl
      | done => contradiction

theorem drain_bounded {maximum : Nat} {mode mode' : Mode} {input rest : Bytes} {out : List Bytes}
    (bounded : mode.Bounded maximum) (h : (machine maximum).drain mode input = .ok (out, mode', rest)) :
    mode'.Bounded maximum :=
  Machine.invariant_of_drain (P := Mode.Bounded maximum)
    (fun _ _ _ _ _ advances _ => chunkStep_bounded advances) bounded h

theorem feed_ofMode {maximum : Nat} (small : maximum < 2 ^ 63) {mode : Mode} {held data : Bytes}
    (bounded : mode.Bounded maximum) (fits : (held ++ data).length ≤ maximum + 1024 * 1024) :
    feed (ofMode maximum mode held) data =
      ((machine maximum).drain mode (held ++ data)).map (ofRun maximum) := by
  have guard : ¬ sizeT (maximum + 1024 * 1024) < (held ++ data).length := by
    rw [sizeT_small (by omega)]
    omega
  rw [← drain_ofMode small mode (held ++ data) bounded]
  cases mode <;> exact if_neg guard

theorem drain_of_feed {d : HttpChunkDecoder} {data : Bytes} {result : List Bytes × HttpChunkDecoder}
    (h : feed d data = .ok result) : drain { d with buffer := d.buffer ++ data } = .ok result := by
  rw [feed] at h
  by_cases large : sizeT (d.maximum + 1024 * 1024) < (d.buffer ++ data).length
  · rw [if_pos large] at h
    nomatch h
  · rwa [if_neg large] at h

theorem feed_ok {maximum : Nat} (small : maximum < 2 ^ 63) {mode : Mode} {held data : Bytes}
    (bounded : mode.Bounded maximum) {chunks : List Bytes} {d : HttpChunkDecoder}
    (h : feed (ofMode maximum mode held) data = .ok (chunks, d)) :
    ∃ mode' held', (machine maximum).drain mode (held ++ data) = .ok (chunks, mode', held') ∧
      d = ofMode maximum mode' held' := by
  have loops : drain (ofMode maximum mode (held ++ data)) = .ok (chunks, d) := by
    cases mode <;> exact drain_of_feed h
  rw [drain_ofMode small mode (held ++ data) bounded] at loops
  cases run : (machine maximum).drain mode (held ++ data) with
  | error what =>
      rw [run] at loops
      nomatch loops
  | ok result =>
      obtain ⟨out, mode', held'⟩ := result
      rw [run] at loops
      obtain ⟨rfl, rfl⟩ := Prod.mk.inj (Except.ok.inj loops)
      exact ⟨mode', held', rfl, rfl⟩

theorem feedAll_ofMode {maximum : Nat} (small : maximum < 2 ^ 63) {mode : Mode} {held : Bytes}
    (pieces : List Bytes) (bounded : mode.Bounded maximum)
    (fits : (held ++ pieces.flatten).length ≤ maximum + 1024 * 1024) :
    feedAll (ofMode maximum mode held) pieces =
      ((machine maximum).feedAll mode held pieces).map (ofRun maximum) := by
  induction pieces generalizing mode held with
  | nil => rfl
  | cons piece pieces ih =>
      simp only [List.flatten_cons, List.length_append] at fits
      rw [feedAll, Machine.feedAll, feed_ofMode small bounded (by rw [List.length_append]; omega)]
      cases first : (machine maximum).drain mode (held ++ piece) with
      | error what => rfl
      | ok result =>
          obtain ⟨out, mode', held'⟩ := result
          have left := (Machine.suffix_of_drain first).length_le
          rw [List.length_append] at left
          have later := ih (drain_bounded bounded first)
            (show (held' ++ pieces.flatten).length ≤ _ by rw [List.length_append]; omega)
          simp only [Except.map, ofRun, bind, Except.bind, later]
          cases (machine maximum).feedAll mode' held' pieces <;> rfl

/-- However the stream is cut, the decoder throws or delivers the same chunks and ends the same. -/
theorem feedAll_eq_feed (maximum : Nat) (small : maximum < 2 ^ 63) (s : Bytes)
    (fits : s.length ≤ maximum + 1024 * 1024) (pieces : List Bytes) (cut : pieces.flatten = s) :
    feedAll (fresh maximum) pieces = feed (fresh maximum) s := by
  subst cut
  have start : fresh maximum = ofMode maximum .sizeLine [] := rfl
  have waiting : (machine maximum).step .sizeLine [] = .wait := rfl
  have bounded : Mode.sizeLine.Bounded maximum := trivial
  rw [start, feedAll_ofMode small pieces bounded fits, feed_ofMode small bounded fits,
    Machine.feedAll_eq_drain waiting]

theorem feedAll_eq_feed_wiki :
    feedAll (fresh 9) [ascii "4\r", ascii "\nwi", ascii "ki\r\n0\r\n\r\n"] =
      feed (fresh 9) (ascii "4\r\nwiki\r\n0\r\n\r\n") :=
  feedAll_eq_feed 9 (by decide) _ (by decide) _ (by decide)

/-! ## What a complete body looks like -/

/-- The bytes start with these chunks and the size zero that ends them. -/
inductive ChunkStream (maximum : Nat) : Bytes → List Bytes → Prop where
  | last {line rest : Bytes} (first : find crlf (line ++ crlf ++ rest) = some line.length)
      (zero : chunkSize maximum line = .ok 0) : ChunkStream maximum (line ++ crlf ++ rest) []
  | chunk {line data rest : Bytes} {chunks : List Bytes}
      (first : find crlf (line ++ crlf ++ (data ++ crlf ++ rest)) = some line.length)
      (sized : chunkSize maximum line = .ok data.length) (nonempty : data ≠ [])
      (later : ChunkStream maximum rest chunks) :
      ChunkStream maximum (line ++ crlf ++ (data ++ crlf ++ rest)) (data :: chunks)

theorem ChunkStream.append {maximum : Nat} {s : Bytes} {chunks : List Bytes}
    (h : ChunkStream maximum s chunks) (more : Bytes) : ChunkStream maximum (s ++ more) chunks := by
  induction h with
  | @last line rest first zero =>
      have still := find_append first more
      rw [List.append_assoc] at still ⊢
      exact .last still zero
  | @chunk line data rest chunks first sized nonempty _ ih =>
      have still := find_append first more
      rw [List.append_assoc (line ++ crlf), List.append_assoc (data ++ crlf)] at still ⊢
      exact .chunk still sized nonempty ih

def Mode.Decodes (maximum : Nat) (input : Bytes) (chunks : List Bytes) : Mode → Prop
  | .sizeLine => ChunkStream maximum input chunks
  | .data size => ∃ data rest later, input = data ++ crlf ++ rest ∧ data.length = size ∧
      chunks = data :: later ∧ ChunkStream maximum rest later
  | .done => True

theorem decodes_of_drain {maximum : Nat} {mode : Mode} {input rest : Bytes} {chunks : List Bytes}
    (h : (machine maximum).drain mode input = .ok (chunks, .done, rest)) :
    mode.Decodes maximum input chunks := by
  induction mode, input using Machine.drain_induct (m := machine maximum) generalizing chunks with
  | wait mode input waits =>
      rw [Machine.drain_of_wait waits] at h
      cases h
      trivial
  | fail mode input what fails =>
      rw [Machine.drain_of_fail fails] at h
      contradiction
  | advance mode input mode' used out advances ih =>
      obtain ⟨later, rfl, after⟩ := Machine.drain_ok_of_advance advances h
      have decoded := ih after
      cases mode with
      | sizeLine =>
          rcases sizeLineStep_cases maximum input with
            ⟨_, is⟩ | ⟨lineEnd, found, ⟨what, _, is⟩ | ⟨zero, is⟩ | ⟨size, sized, is⟩⟩ <;>
            rw [show sizeLineStep maximum input = .advance mode' used out from advances] at is <;>
            cases is
          all_goals
            have split := eq_append_of_find found
            have bound := add_length_le_of_find found
            have length : (input.take lineEnd).length = lineEnd := by
              rw [List.length_take]
              omega
            rw [crlf_length] at split bound
          · rw [Machine.drain_of_wait rfl] at after
            cases after
            rw [Mode.Decodes, split]
            exact .last (by rw [← split, length, found]) zero
          · obtain ⟨data, rest', chunks, holds, sizes, rfl, stream⟩ := decoded
            rw [Mode.Decodes, split, holds]
            refine .chunk (by rw [← holds, ← split, length, found]) (by rw [sizes, sized]) ?_ stream
            rintro rfl
            contradiction
      | data size =>
          simp only [machine, chunkStep, dataStep] at advances
          split_ifs at advances with short ends
          cases advances
          refine ⟨input.take size, input.drop (size + 2), later, ?_, ?_, rfl, decoded⟩
          · rw [← ends, ← List.drop_drop, List.append_assoc, List.take_append_drop,
              List.take_append_drop]
          · rw [List.length_take]
            omega
      | done => contradiction

end HttpChunkDecoder
end LuaXENetwork
