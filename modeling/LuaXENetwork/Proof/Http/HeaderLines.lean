import LuaXENetwork.Proof.Http.Builder

/-! `ParseResponseHeaders` on a status line and any lines after it. -/

namespace LuaXENetwork
open Library

/-! ## The header lines -/

/-- Only an empty last line is not visited, and it holds no field. -/
theorem fields_of_cursorLines {line : Bytes} (unbroken : find crlf line = none) (lines : List Bytes)
    (others : ∀ line ∈ lines, find crlf line = none) :
    (cursorLines (line ++ brokenLines lines)).filterMap parseHeaderLine =
      (line :: lines).filterMap parseHeaderLine := by
  induction lines generalizing line with
  | nil =>
      rw [brokenLines, List.flatMap_nil, List.append_nil]
      by_cases empty : line = []
      · rw [empty, cursorLines_nil]
        rfl
      · rw [cursorLines_unbroken unbroken empty]
  | cons next lines ih =>
      rw [brokenLines_cons, List.append_assoc crlf, cursorLines_unbroken_cons unbroken,
        List.filterMap_cons, List.filterMap_cons,
        ih (others next (by simp)) fun line member => others line (by simp [member])]

/-! ## The status line -/

def Unpadded (s : Bytes) : Prop :=
  (∀ b ∈ s.head?, isBlank b = false) ∧ ∀ b ∈ s.getLast?, isBlank b = false

theorem trimAscii_unpadded {s : Bytes} (unpadded : Unpadded s) : trimAscii s = s := by
  have front : s.dropWhile isBlank = s := by
    cases s with
    | nil => rfl
    | cons b s => simp [unpadded.1 b (by simp)]
  rw [trimAscii, front, List.rdropWhile_eq_self_iff]
  intro nonempty
  simp [unpadded.2 _ (List.getLast?_eq_some_getLast nonempty)]

theorem trimAscii_blank {b : UInt8} (blank : isBlank b = true) (s : Bytes) :
    trimAscii (b :: s) = trimAscii s := by
  rw [trimAscii, List.dropWhile_cons_of_pos blank, trimAscii]

theorem notMem_statusLine {version reason : Bytes} {status : Nat} {b : UInt8}
    (noVersion : b ∉ version) (noReason : b ∉ reason) (noDigit : b ∉ decimal status)
    (solid : b ≠ 32) : b ∉ statusLine version status reason := by
  simp [statusLine, noVersion, noReason, noDigit, solid]

/-- A status line that is read back as its parts. -/
structure PlainStatus (version : Bytes) (status : Nat) (reason : Bytes) : Prop where
  http : ascii "HTTP/" <+: version
  solid : ∀ b ∈ version, isSpace b = false
  range : 100 ≤ status ∧ status ≤ 999
  clean : ∀ b ∈ reason, b ≠ 13 ∧ b ≠ 10
  unpadded : Unpadded reason

section Status

variable {version reason : Bytes} {status : Nat} (plain : PlainStatus version status reason)
include plain

theorem PlainStatus.read :
    readStatusLine (statusLine version status reason) = ⟨version, status, 32 :: reason⟩ := by
  have nonempty : version ≠ [] := by
    rintro rfl
    simpa [ascii] using plain.http
  have range := plain.range
  exact readStatusLine_statusLine nonempty plain.solid (by omega) fun member => (plain.clean _ member).2 rfl

theorem PlainStatus.unbroken : find crlf (statusLine version status reason) = none :=
  find_eq_none_of_head_notMem (notMem_statusLine (fun member => absurd (plain.solid _ member) (by decide))
    (fun member => (plain.clean _ member).1 rfl) (fun member => (decimal_letter member).2.2.2.2.1 rfl)
    (by decide)) [10]

theorem PlainStatus.valid :
    ¬ (¬ ascii "HTTP/" <+: version ∨ (status : Int) < 100 ∨ 999 < (status : Int)) := by
  have range := plain.range
  simp only [not_or, not_not, not_lt]
  exact ⟨plain.http, by omega, by omega⟩

theorem parseResponseHeaders_lines (lines : List Bytes) (unbroken : ∀ line ∈ lines, find crlf line = none) :
    parseResponseHeaders (statusLine version status reason ++ brokenLines lines) {} = .ok {
      rawHeaders := statusLine version status reason ++ brokenLines lines
      version := version
      status := status
      reason := reason
      headers := lines.filterMap parseHeaderLine } := by
  have trimmed : trimAscii (32 :: reason) = reason := by
    rw [trimAscii_blank rfl, trimAscii_unpadded plain.unpadded]
  unfold parseResponseHeaders
  cases lines with
  | nil =>
      simp only [brokenLines, List.flatMap_nil, List.append_nil, plain.unbroken, plain.read,
        if_neg plain.valid, trimmed, cursorLines_nil, List.filterMap_nil]
  | cons line lines =>
      have broken : find crlf (statusLine version status reason ++ brokenLines (line :: lines)) =
          some (statusLine version status reason).length := by
        rw [brokenLines_cons, List.append_assoc crlf]
        exact find_crlf_unbroken plain.unbroken _
      have fields := fields_of_cursorLines (unbroken line (by simp)) lines fun line member =>
        unbroken line (by simp [member])
      have rest : (brokenLines (line :: lines)).drop 2 = line ++ brokenLines lines := by
        rw [brokenLines_cons, List.append_assoc]
        rfl
      simp only [broken, List.take_left, plain.read, if_neg plain.valid, trimmed]
      rw [← List.drop_drop, List.drop_left, rest, fields]
      rfl

end Status

/-! ## Fields among other lines -/

/-- A header field whose name and value survive the splitting and trimming of its line. -/
structure IsField (field : Bytes × Bytes) : Prop where
  name : ∀ b ∈ field.1, b ≠ 58 ∧ b ≠ 13 ∧ b ≠ 10
  nameUnpadded : Unpadded field.1
  value : ∀ b ∈ field.2, b ≠ 13 ∧ b ≠ 10
  valueUnpadded : Unpadded field.2

theorem IsField.unbroken {field : Bytes × Bytes} (is : IsField field) : find crlf (fieldLine field) = none := by
  refine find_eq_none_of_head_notMem ?_ [10]
  simp only [fieldLine, List.mem_append, not_or]
  exact ⟨⟨fun member => (is.name _ member).2.1 rfl, by decide⟩, fun member => (is.value _ member).1 rfl⟩

theorem IsField.parse {field : Bytes × Bytes} (is : IsField field) :
    parseHeaderLine (fieldLine field) = some (lowerAscii field.1, field.2) := by
  obtain ⟨name, value⟩ := field
  have colonless : (58 : UInt8) ∉ name := fun member => (is.name _ member).1 rfl
  have line : fieldLine (name, value) = name ++ ([58] ++ 32 :: value) := by
    rw [fieldLine, List.append_assoc]
    rfl
  have colon : find (ascii ":") (fieldLine (name, value)) = some name.length := by
    rw [line]
    exact find_append_cons colonless [] (32 :: value)
  rw [parseHeaderLine, colon, line]
  simp only [List.take_left]
  rw [← List.drop_drop, List.drop_left, trimAscii_unpadded is.nameUnpadded]
  show some (_, trimAscii (32 :: value)) = _
  rw [trimAscii_blank rfl, trimAscii_unpadded is.valueUnpadded]

/-- A line of a header block: a field, or any text. -/
inductive BlockLine where
  | field (name value : Bytes)
  | other (text : Bytes)
deriving DecidableEq, Repr

namespace BlockLine

def text : BlockLine → Bytes
  | field name value => fieldLine (name, value)
  | other text => text

def field? : BlockLine → Option (Bytes × Bytes)
  | field name value => some (name, value)
  | other _ => none

/-- Other lines have no colon and no line break; they may be empty. -/
def Plain : BlockLine → Prop
  | field name value => IsField (name, value)
  | other text => (58 : UInt8) ∉ text ∧ find crlf text = none

theorem Plain.unbroken {line : BlockLine} (plain : line.Plain) : find crlf line.text = none := by
  cases line with
  | field name value => exact IsField.unbroken plain
  | other text => exact plain.2

theorem Plain.parse {line : BlockLine} (plain : line.Plain) :
    parseHeaderLine line.text = line.field?.map fun field => (lowerAscii field.1, field.2) := by
  cases line with
  | field name value => exact IsField.parse plain
  | other text =>
      rw [BlockLine.text, parseHeaderLine, show ascii ":" = [58] from rfl, find_letter_none.mpr plain.1]
      rfl

end BlockLine

/-- A rendered header block is read back as its status line and its fields, whatever other lines stand
between them. -/
theorem parseResponseHeaders_rendered {version reason : Bytes} {status : Nat}
    (plain : PlainStatus version status reason) (lines : List BlockLine) (each : ∀ line ∈ lines, line.Plain) :
    parseResponseHeaders (statusLine version status reason ++ brokenLines (lines.map BlockLine.text)) {} = .ok {
      rawHeaders := statusLine version status reason ++ brokenLines (lines.map BlockLine.text)
      version := version
      status := status
      reason := reason
      headers := (lines.filterMap BlockLine.field?).map fun field => (lowerAscii field.1, field.2) } := by
  have fields : (lines.map BlockLine.text).filterMap parseHeaderLine =
      (lines.filterMap BlockLine.field?).map fun field => (lowerAscii field.1, field.2) := by
    rw [List.filterMap_map, List.map_filterMap]
    exact List.filterMap_congr fun line member => (each line member).parse
  rw [← fields]
  refine parseResponseHeaders_lines plain (lines.map BlockLine.text) ?_
  rw [List.forall_mem_map]
  exact fun line member => (each line member).unbroken

theorem parseResponseHeaders_rendered_repeated :
    parseResponseHeaders (ascii "HTTP/1.1 204 No Content\r\n\r\nX-A: 1\r\nodd\r\nx-a: ") {} = .ok {
      rawHeaders := ascii "HTTP/1.1 204 No Content\r\n\r\nX-A: 1\r\nodd\r\nx-a: "
      version := ascii "HTTP/1.1"
      status := 204
      reason := ascii "No Content"
      headers := [(ascii "x-a", ascii "1"), (ascii "x-a", [])] } := by
  have status : PlainStatus (ascii "HTTP/1.1") 204 (ascii "No Content") := {
    http := by decide
    solid := by decide +kernel
    range := by decide
    clean := by decide +kernel
    unpadded := ⟨by decide +kernel, by decide +kernel⟩ }
  have lines : ∀ line ∈ [BlockLine.other [], .field (ascii "X-A") (ascii "1"), .other (ascii "odd"),
      .field (ascii "x-a") []], line.Plain := by
    simp only [List.forall_mem_cons]
    exact ⟨⟨by simp, rfl⟩,
      ⟨by decide +kernel, ⟨by decide +kernel, by decide +kernel⟩, by decide +kernel, ⟨by decide +kernel, by decide +kernel⟩⟩,
      ⟨by decide +kernel, rfl⟩,
      ⟨by decide +kernel, ⟨by decide +kernel, by decide +kernel⟩, by simp, ⟨by simp, by simp⟩⟩, by simp⟩
  exact parseResponseHeaders_rendered status _ lines

end LuaXENetwork
