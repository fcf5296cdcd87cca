import LuaXENetwork.Proof.Listener.HeaderExtent
import LuaXENetwork.Proof.Http.ContentLength
import LuaXENetwork.Proof.Http.ChunkSize

/-! The length that a request announces, and the length that the listener reads. -/

namespace LuaXENetwork
open Library

/-! ## One line -/

theorem isSpace_of_isBlank {b : UInt8} (blank : isBlank b = true) : isSpace b = true ∧ b ≠ 0 ∧
    isDigit 10 b = false := by
  simp only [isBlank, Bool.or_eq_true, beq_iff_eq] at blank
  rcases blank with ((rfl | rfl) | rfl) | rfl <;> decide

theorem lowerByte_blank {b : UInt8} (blank : isBlank b = true) : isBlank (lowerByte b) = true := by
  simp only [isBlank, Bool.or_eq_true, beq_iff_eq] at blank
  rcases blank with ((rfl | rfl) | rfl) | rfl <;> decide

theorem unpadded_of_lower {name lowered : Bytes} (same : lowerAscii name = lowered)
    (unpadded : Unpadded lowered) : Unpadded name := by
  subst same
  constructor
  · intro b first
    by_contra blank
    have lower := unpadded.1 (lowerByte b) (by simp [lowerAscii, Option.mem_def.mp first])
    rw [lowerByte_blank (by simpa using blank)] at lower
    contradiction
  · intro b last
    by_contra blank
    have lower := unpadded.2 (lowerByte b) (by simp [lowerAscii, Option.mem_def.mp last])
    rw [lowerByte_blank (by simpa using blank)] at lower
    contradiction

/-- `strtoull` past the blanks that the listener skips reads a value of decimal digits. -/
theorem strtoull_decimal_value {raw : Bytes} (decimal : Decimal (trimAscii raw)) :
    strtoull (raw.dropWhile fun b => b == 32 || b == 9) =
      some (min (fromDigits 10 (trimAscii raw)) (2 ^ 64 - 1)) := by
  obtain ⟨front, back, parts, leading, trailing⟩ := trimAscii_parts raw
  obtain ⟨d, ds, value⟩ := List.exists_cons_of_ne_nil decimal.1
  have digit := decimal.2 d (by simp [value])
  have solid : (d == 32 || d == 9) = false := by
    have plain := (digit_letter digit).2.1
    simp only [isBlank, Bool.or_eq_false_iff] at plain ⊢
    exact plain.1.1
  have skipped : ∃ left, raw.dropWhile (fun b => b == 32 || b == 9) = left ++ (trimAscii raw ++ back) ∧
      ∀ b ∈ left, isBlank b = true := by
    conv => enter [1, left, 1, 1]; rw [parts]
    rw [List.dropWhile_append]
    split
    · refine ⟨[], ?_, by simp⟩
      simp [value, solid]
    · exact ⟨_, rfl, fun b member => leading b ((List.dropWhile_suffix _).subset member)⟩
  obtain ⟨left, same, blanks⟩ := skipped
  have clean : (0 : UInt8) ∉ left ++ (trimAscii raw ++ back) := by
    simp only [List.mem_append, not_or]
    exact ⟨fun member => (isSpace_of_isBlank (blanks 0 member)).2.1 rfl,
      fun member => (digit_letter (decimal.2 0 member)).2.2.1 rfl,
      fun member => (isSpace_of_isBlank (trailing 0 member)).2.1 rfl⟩
  have numeral : NumeralParts 10 (left ++ (trimAscii raw ++ back)) left [] [] (trimAscii raw) back := {
    split := rfl
    blanks := fun b member => (isSpace_of_isBlank (blanks b member)).1
    signs := .inl rfl
    marks := .inl rfl
    figures := decimal.2
    nonempty := decimal.1
    stops := fun b first => (isSpace_of_isBlank (trailing b (List.mem_of_mem_head? first))).2.2
    unmarked := by omega }
  rw [same, strtoull, cString_clean clean, readNumeral_parts numeral, Option.map_some]
  simp only [show (([] : Bytes) == [45]) = false from rfl, Bool.false_eq_true, if_false]
  split_ifs with large <;> congr 1 <;> omega

/-- A line that the listener takes for a Content-Length: no blanks stand around its name. -/
theorem fields_of_sized {line : Bytes} (sized : ¬ Unsized line) : ∃ colon,
    find (ascii ":") line = some colon ∧ lowerAscii (line.take colon) = ascii "content-length" ∧
      parseHeaderLine line = some (ascii "content-length", trimAscii (line.drop (colon + 1))) := by
  simp only [Unsized, not_forall, not_not] at sized
  obtain ⟨colon, found, name⟩ := sized
  refine ⟨colon, found, name, ?_⟩
  have unpadded : Unpadded (line.take colon) := by
    apply unpadded_of_lower name
    constructor <;> decide +kernel
  rw [parseHeaderLine, found]
  simp only [trimAscii_unpadded unpadded, name]

theorem requestContentLength_declared {lines : List Bytes} {n : Nat} (declares : Declares lines n)
    {line : Bytes} (member : line ∈ lines) (named : ¬ Unsized line) {length length' : Nat}
    (read : requestContentLength length line = .ok length') : length' = n := by
  obtain ⟨colon, found, name, parsed⟩ := fields_of_sized named
  have declared : trimAscii (line.drop (colon + 1)) ∈ contentLengths lines := by
    simp only [contentLengths, fieldValues, List.mem_map, List.mem_filter, List.mem_filterMap]
    exact ⟨_, ⟨⟨line, member, parsed⟩, by simp⟩, rfl⟩
  obtain ⟨decimal, denotes⟩ := declares _ declared
  rw [requestContentLength, found] at read
  simp only [name, if_true, strtoull_decimal_value decimal, denotes] at read
  split_ifs at read with large
  obtain rfl := Except.ok.inj read
  omega

/-! ## All lines -/

theorem foldlM_declared {lines : List Bytes} {n start length : Nat}
    (each : ∀ line ∈ lines, ¬ Unsized line → ∀ before after,
      requestContentLength before line = .ok after → after = n)
    (sized : lines.foldlM requestContentLength start = .ok length) :
    length = n ∨ length = start ∧ ∀ line ∈ lines, Unsized line := by
  induction lines generalizing start with
  | nil =>
      obtain rfl := Except.ok.inj sized
      exact .inr ⟨rfl, by simp⟩
  | cons line lines ih =>
      simp only [List.foldlM_cons, bind_eq_ok] at sized
      obtain ⟨after, one, later⟩ := sized
      rcases ih (fun other member => each other (by simp [member])) later with same | ⟨rfl, unsized⟩
      · exact .inl same
      · by_cases plain : Unsized line
        · right
          rw [requestContentLength_unsized plain] at one
          obtain rfl := Except.ok.inj one
          exact ⟨rfl, by simpa using ⟨plain, unsized⟩⟩
        · exact .inl (each line (by simp) plain start _ one)

/-- The header lines of a request head, as its Content-Length is declared in them. -/
def headLines (head : Bytes) (lineEnd separator : Nat) : List Bytes :=
  cursorLines ((head.drop (lineEnd + 2)).take (separator - lineEnd - 2))

/-- However the request arrives: what the listener hands over declares the length of its body. -/
def RequestsDeclare (head : Bytes) (lineEnd separator : Nat) : Prop :=
  ∀ ctx request, (luaRequest ctx).1 = .request request → head <+: request.data →
    Declares (headLines head lineEnd separator) request.body.length

theorem headLines_nil (head : Bytes) (lineEnd : Nat) : headLines head lineEnd lineEnd = [] := by
  rw [headLines, Nat.sub_self, Nat.zero_sub, List.take_zero, cursorLines_nil]

section Head

variable {head method target version : Bytes} {lineEnd separator : Nat}
  (is : RequestHead head method target version lineEnd separator)
include is

/-- A request that the listener hands over was read from the header lines of its head. -/
theorem RequestHead.accepted (headed : lineEnd + 2 < separator) {ctx : ListenerContext}
    {request : ListenerRequest} (accepts : (luaRequest ctx).1 = .request request)
    (front : head <+: request.data) :
    (headLines head lineEnd separator).foldlM requestContentLength 0 = .ok request.body.length := by
  by_cases empty : (opened ctx).1 = []
  · rw [luaRequest_silent empty] at accepts
    contradiction
  rw [luaRequest_opened empty] at accepts
  have access := luaRequest_access empty (opened ctx).2
  generalize luaRequest ⟨(opened ctx).1, (opened ctx).2⟩ = result at access accepts
  cases access with
  | refused waited => contradiction
  | cut waited arrived => contradiction
  | @complete buffer' buffer'' left' left'' separator' lineEnd' length' method' target' version' lines'
      waited found line split sized arrived enough =>
      obtain rfl := ListenerResult.request.inj accepts
      have grows : buffer' <+: buffer'' := by
        have grows := prefix_awaitBody (separator' + 4 + length') buffer' left'
        rwa [arrived] at grows
      have front' : head <+: buffer'' := front
      obtain ⟨whole, -⟩ := is.extended front'
      have same : separator' = separator := by
        obtain ⟨rest, rfl⟩ := grows
        rw [find_append found] at whole
        exact Option.some.inj whole
      subst same
      have there := add_length_le_of_find found
      have inside : head <+: buffer' := List.prefix_of_prefix_length_le front' grows (by
        rw [is.whole]
        exact there)
      obtain ⟨-, line'⟩ := is.extended inside
      obtain ⟨rfl, rfl, rfl, rfl⟩ : _ ∧ _ ∧ _ ∧ _ := by simpa [line] using line'
      rw [is.cut inside headed] at split
      rw [headLines, split, sized]
      congr 1
      show length' = ((buffer''.drop (separator' + 4)).take length').length
      rw [List.length_take_of_le]
      rw [List.length_drop]
      omega

/-- With header lines that are not refused there is a request of this head that is handed over. -/
theorem RequestHead.handed (headed : lineEnd + 2 < separator) {length : Nat}
    (sized : (headLines head lineEnd separator).foldlM requestContentLength 0 = .ok length) :
    ∃ ctx request, (luaRequest ctx).1 = .request request ∧ head <+: request.data ∧
      request.body.length = length := by
  let piece := head ++ List.replicate length 0
  have front : head <+: piece := List.prefix_append _ _
  have size : piece.length = separator + 4 + length := by
    rw [List.length_append, is.whole, List.length_replicate]
  have nonempty : piece ≠ [] := by simp [piece, is.nonempty]
  obtain ⟨found, line⟩ := is.extended front
  rcases luaRequest_parsed { receives := [piece] } nonempty rfl found line
      (is.cut front headed) with ⟨message, refused, -⟩ | ⟨length', sized', ended⟩
  · cases sized.symm.trans refused
  · obtain rfl := Except.ok.inj (sized.symm.trans sized')
    rcases ended with ⟨short, -⟩ | ⟨enough, table⟩
    · have short' : piece.length < separator + 4 + length := short
      omega
    · refine ⟨_, _, table, front, ?_⟩
      show ((piece.drop (separator + 4)).take length).length = length
      rw [List.length_take_of_le]
      rw [List.length_drop]
      omega

theorem requestsDeclare_iff : RequestsDeclare head lineEnd separator ↔
    (∃ n, Declares (headLines head lineEnd separator) n ∧
      (n = 0 ∨ ∃ line ∈ headLines head lineEnd separator, ¬ Unsized line)) ∨
    ∃ message, (headLines head lineEnd separator).foldlM requestContentLength 0 = .error message := by
  rcases is.lineEnd_cases with rfl | headed
  · have every (n : Nat) : Declares (headLines head lineEnd lineEnd) n := by
      intro value member
      simp [headLines_nil, contentLengths, fieldValues] at member
    exact iff_of_true (fun _ request _ _ => every request.body.length) (.inl ⟨0, every 0, .inl rfl⟩)
  constructor
  · intro declare
    cases sized : (headLines head lineEnd separator).foldlM requestContentLength 0 with
    | error message => exact .inr ⟨message, rfl⟩
    | ok length =>
        obtain ⟨ctx, request, accepts, front, same⟩ := is.handed headed sized
        have declares := declare ctx request accepts front
        rw [same] at declares
        refine .inl ⟨length, declares, ?_⟩
        by_cases named : ∃ line ∈ headLines head lineEnd separator, ¬ Unsized line
        · exact .inr named
        · left
          simp only [not_exists, not_and, not_not] at named
          rw [foldlM_unsized named] at sized
          exact (Except.ok.inj sized).symm
  · rintro (⟨n, declares, there⟩ | ⟨message, refused⟩) ctx request accepts front
    · have sized := is.accepted headed accepts front
      have read := foldlM_declared (fun line member named _ _ =>
        requestContentLength_declared declares member named) sized
      rcases read with same | ⟨none, unsized⟩
      · rw [same]
        exact declares
      · rcases there with rfl | ⟨line, member, named⟩
        · rw [none]
          exact declares
        · exact absurd (unsized line member) named
    · cases (is.accepted headed accepts front).symm.trans refused

end Head

/-! ## Both sides -/

theorem contentLength_iff (options : HttpRequestOptions) (limit : options.maxResponseBytes < 2 ^ 63)
    (request header : Bytes) (head : HttpResponse) (is : LengthHead request header head)
    (requestHead method target version : Bytes) (lineEnd separator : Nat)
    (is' : RequestHead requestHead method target version lineEnd separator) :
    (ResponsesDeclare options request header ↔
      (∃ n, Declares (headerBlockLines header) n) ∨ ¬ LengthAdmitted options head) ∧
    (RequestsDeclare requestHead lineEnd separator ↔
      (∃ n, Declares (headLines requestHead lineEnd separator) n ∧
        (n = 0 ∨ ∃ line ∈ headLines requestHead lineEnd separator, ¬ Unsized line)) ∨
      ∃ message, (headLines requestHead lineEnd separator).foldlM requestContentLength 0 =
        .error message) :=
  ⟨responsesDeclare_iff limit is, requestsDeclare_iff is'⟩

section Examples

def twoLengths : HttpResponse where
  rawHeaders := ascii "HTTP/1.1 200 OK\r\nContent-Length: 3\r\nContent-Length: 4"
  version := ascii "HTTP/1.1"
  reason := ascii "OK"
  headers := [(ascii "content-length", ascii "3"), (ascii "content-length", ascii "4")]
  status := 200

theorem twoLengths_is : LengthHead bareHead twoLengths.rawHeaders twoLengths where
  parsed := by decide +kernel
  framed := by decide
  unchunked := by decide
  room := by decide
  alone := by decide

def blankBeforeColon : Bytes := ascii "POST / HTTP/1.1\r\nContent-Length : 3\r\n\r\n"

theorem blankBeforeColon_is :
    RequestHead blankBeforeColon (ascii "POST") (ascii "/") (ascii "HTTP/1.1") 15 35 where
  header := by decide
  whole := by decide
  size := by decide
  line := by decide

end Examples

theorem contentLength_iff_both :
    (ResponsesDeclare {} bareHead twoLengths.rawHeaders ↔
      (∃ n, Declares (headerBlockLines twoLengths.rawHeaders) n) ∨ ¬ LengthAdmitted {} twoLengths) ∧
    (RequestsDeclare blankBeforeColon 15 35 ↔
      (∃ n, Declares (headLines blankBeforeColon 15 35) n ∧
        (n = 0 ∨ ∃ line ∈ headLines blankBeforeColon 15 35, ¬ Unsized line)) ∨
      ∃ message, (headLines blankBeforeColon 15 35).foldlM requestContentLength 0 =
        .error message) :=
  contentLength_iff {} (by decide) bareHead _ twoLengths twoLengths_is blankBeforeColon _ _ _ 15 35
    blankBeforeColon_is

theorem contentLength_differs : ¬ ResponsesDeclare {} bareHead twoLengths.rawHeaders ∧
    ¬ RequestsDeclare blankBeforeColon 15 35 := by
  constructor
  · rw [responsesDeclare_iff (by decide) twoLengths_is]
    have values : contentLengths (headerBlockLines twoLengths.rawHeaders) = [ascii "3", ascii "4"] := by
      decide +kernel
    rintro (⟨n, declares⟩ | refused)
    · have three := (declares (ascii "3") (by simp [values])).2
      have four := (declares (ascii "4") (by simp [values])).2
      exact absurd (three.trans four.symm) (by decide)
    · exact refused ⟨some 3, by decide, by decide⟩
  · rw [requestsDeclare_iff blankBeforeColon_is]
    have lines : headLines blankBeforeColon 15 35 = [ascii "Content-Length : 3"] := by decide +kernel
    have unsized : Unsized (ascii "Content-Length : 3") := by
      intro colon found
      have same : find (ascii ":") (ascii "Content-Length : 3") = some 15 := by decide
      obtain rfl := Option.some.inj (same.symm.trans found)
      decide
    rw [lines]
    rintro (⟨n, declares, there⟩ | ⟨message, refused⟩)
    · have three := (declares (ascii "3") (by decide)).2
      rcases there with rfl | ⟨line, member, named⟩
      · exact absurd three (by decide)
      · rw [List.mem_singleton.mp member] at named
        exact named unsized
    · rw [foldlM_unsized (by simpa using unsized)] at refused
      contradiction

end LuaXENetwork
