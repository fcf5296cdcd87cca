import LuaXENetwork.Text
import LuaXENetwork.Proof.Http.ChunkDecoder

/-! Header blocks as lists of lines: where they end, and what splits them again. -/

namespace LuaXENetwork
open Library

def brokenLines (lines : List Bytes) : Bytes := lines.flatMap (crlf ++ ·)

structure IsLine (line : Bytes) : Prop where
  nonempty : line ≠ []
  noReturn : (13 : UInt8) ∉ line
  noFeed : (10 : UInt8) ∉ line

@[simp] theorem brokenLines_cons (line : Bytes) (lines : List Bytes) :
    brokenLines (line :: lines) = crlf ++ line ++ brokenLines lines := by
  simp [brokenLines]

theorem crlf_append_lines (lines : List Bytes) (rest : Bytes) :
    crlf ++ (lines.flatMap (· ++ crlf) ++ rest) = brokenLines lines ++ (crlf ++ rest) := by
  induction lines with
  | nil => simp [brokenLines]
  | cons line lines ih =>
      rw [List.flatMap_cons, brokenLines_cons, List.append_assoc _ _ (crlf ++ rest), ← ih]
      simp only [List.append_assoc]

theorem brokenLines_append (lines more : List Bytes) :
    brokenLines (lines ++ more) = brokenLines lines ++ brokenLines more := by
  simp [brokenLines]

theorem cursorLines_nil : cursorLines [] = [] := by
  rw [cursorLines, if_pos rfl]

theorem find_crlf_unbroken {line : Bytes} (unbroken : find crlf line = none) (rest : Bytes) :
    find crlf (line ++ (crlf ++ rest)) = some line.length := by
  induction line with
  | nil => exact find_eq_zero (List.prefix_append _ _)
  | cons b line ih =>
      have skip : ¬ crlf <+: b :: line := not_prefix_drop_of_find_none unbroken 0
      have skip' : ¬ crlf <+: b :: (line ++ (crlf ++ rest)) := by
        cases line with
        | nil =>
            intro holds
            simp [crlf] at holds
        | cons c line =>
            intro holds
            exact skip (List.prefix_of_prefix_length_le holds ⟨crlf ++ rest, by simp⟩ (by simp))
      rw [find_cons_skip skip, Option.map_eq_none_iff] at unbroken
      rw [List.cons_append, find_cons_skip skip', ih unbroken]
      rfl

theorem cursorLines_unbroken {line : Bytes} (unbroken : find crlf line = none) (given : line ≠ []) :
    cursorLines line = [line] := by
  rw [cursorLines, if_neg given]
  split
  · rfl
  · rename_i found
    rw [unbroken] at found
    contradiction

theorem cursorLines_unbroken_cons {line : Bytes} (unbroken : find crlf line = none) (rest : Bytes) :
    cursorLines (line ++ (crlf ++ rest)) = line :: cursorLines rest := by
  have found := find_crlf_unbroken unbroken rest
  rw [cursorLines, if_neg (by simp [crlf])]
  split
  · rename_i absent
    rw [found] at absent
    contradiction
  · rename_i finish found'
    obtain rfl := Option.some.inj (found.symm.trans found')
    rw [List.take_left, ← List.drop_drop, List.drop_left]
    rfl

theorem IsLine.unbroken {line : Bytes} (is : IsLine line) : find crlf line = none :=
  find_eq_none_of_head_notMem is.noReturn [10]

theorem cursorLines_brokenLines {line : Bytes} (is : IsLine line) (lines : List Bytes)
    (are : ∀ line ∈ lines, IsLine line) :
    cursorLines (line ++ brokenLines lines) = line :: lines := by
  induction lines generalizing line with
  | nil => simpa [brokenLines] using cursorLines_unbroken is.unbroken is.nonempty
  | cons next lines ih =>
      rw [brokenLines_cons, List.append_assoc crlf, cursorLines_unbroken_cons is.unbroken,
        ih (are next (by simp)) fun line member => are line (by simp [member])]

theorem find_crlf_line {line : Bytes} (noReturn : (13 : UInt8) ∉ line) (rest : Bytes) :
    find crlf (line ++ (crlf ++ rest)) = some line.length :=
  find_append_cons noReturn [10] rest

theorem find_headerEnd_crlf {line : Bytes} (is : IsLine line) (rest : Bytes) :
    find headerEnd (crlf ++ line ++ rest) =
      (find headerEnd rest).map (· + (crlf ++ line).length) := by
  cases line with
  | nil => exact absurd rfl is.nonempty
  | cons b line =>
      have differs : (13 : UInt8) ≠ b := fun same => is.noReturn (by simp [same])
      have first : ¬ headerEnd <+: 13 :: 10 :: (b :: line ++ rest) := by
        intro holds
        simp only [headerEnd, List.cons_append, List.cons_prefix_cons] at holds
        exact differs holds.2.2.1
      have second : ¬ headerEnd <+: 10 :: (b :: line ++ rest) := by
        intro holds
        simp [headerEnd] at holds
      show find headerEnd (13 :: 10 :: (b :: line ++ rest)) = _
      rw [find_cons_skip first, find_cons_skip second, headerEnd, find_append_left is.noReturn]
      simp [crlf, Option.map_map, Function.comp_def, Nat.add_assoc]

theorem find_headerEnd_brokenLines {line : Bytes} (noReturn : (13 : UInt8) ∉ line)
    (lines : List Bytes) (are : ∀ line ∈ lines, IsLine line) (rest : Bytes) :
    find headerEnd (line ++ brokenLines lines ++ headerEnd ++ rest) =
      some (line ++ brokenLines lines).length := by
  have after (lines : List Bytes) (are : ∀ line ∈ lines, IsLine line) :
      find headerEnd (brokenLines lines ++ (headerEnd ++ rest)) = some (brokenLines lines).length := by
    induction lines with
    | nil => exact find_eq_zero (List.prefix_append _ _)
    | cons next lines ih =>
        rw [brokenLines_cons, List.append_assoc, find_headerEnd_crlf (are next (by simp)),
          ih fun line member => are line (by simp [member]), Option.map_some, Nat.add_comm,
          ← List.length_append]
  rw [List.append_assoc, List.append_assoc, headerEnd, find_append_left noReturn, ← headerEnd,
    after lines are, Option.map_some, List.length_append, Nat.add_comm]

end LuaXENetwork
