import LuaXENetwork.Proof.Listener.Accesses

/-! Which bytes of a request are read as its header lines. -/

namespace LuaXENetwork
open Library

/-! ## Cursor lines -/

theorem find_crlf_take {s : Bytes} {finish : Nat} (found : find crlf s = some finish) :
    find crlf (s.take finish) = none := by
  cases early : find crlf (s.take finish) with
  | none => rfl
  | some position =>
      have still := find_append early (s.drop finish)
      rw [List.take_append_drop, found] at still
      obtain rfl := Option.some.inj still
      have inside := add_length_le_of_find early
      rw [List.length_take, crlf_length] at inside
      omega

theorem cursorLines_some {block : Bytes} {finish : Nat} (found : find crlf block = some finish) :
    cursorLines block = block.take finish :: cursorLines (block.drop (finish + 2)) := by
  have nonempty : block ≠ [] := by
    rintro rfl
    contradiction
  rw [cursorLines, if_neg nonempty]
  split
  · simp_all
  · rename_i finish' found'
    obtain rfl := Option.some.inj (found.symm.trans found')
    rfl

theorem cursorLines_plain {block line : Bytes} (member : line ∈ cursorLines block) :
    find crlf line = none := by
  induction block using cursorLines.induct with
  | case1 => simp [cursorLines_nil] at member
  | case2 block nonempty absent =>
      rw [cursorLines, if_neg nonempty] at member
      split at member
      · rw [List.mem_singleton.mp member, absent]
      · simp_all
  | case3 block nonempty finish found ih =>
      rw [cursorLines_some found, List.mem_cons] at member
      rcases member with rfl | member
      · exact find_crlf_take found
      · exact ih member

/-- Lines broken apart by the cursor loop make up the block again, unless it ends with a break. -/
theorem brokenLines_cursorLines {block : Bytes} (nonempty : block ≠ []) (unbroken : ¬ crlf <:+ block) :
    brokenLines (cursorLines block) = crlf ++ block := by
  induction block using cursorLines.induct with
  | case1 => contradiction
  | case2 block nonempty absent =>
      rw [cursorLines, if_neg nonempty]
      split
      · simp [brokenLines]
      · simp_all
  | case3 block nonempty finish found ih =>
      have parts := eq_append_of_find found
      rw [crlf_length] at parts
      have later : block.drop (finish + 2) ≠ [] := by
        intro none
        apply unbroken
        rw [none, List.append_nil] at parts
        exact ⟨_, parts.symm⟩
      have unbroken' : ¬ crlf <:+ block.drop (finish + 2) := fun ends =>
        unbroken (ends.trans (List.drop_suffix _ _))
      rw [cursorLines_some found, brokenLines_cons, ih later unbroken', List.append_assoc]
      conv_rhs => rw [parts]
      simp only [List.append_assoc]

/-! ## The head of a request -/

/-- The bytes of a request up to its blank line. -/
structure RequestHead (head method target version : Bytes) (lineEnd separator : Nat) : Prop where
  header : find headerEnd head = some separator
  whole : head.length = separator + 4
  size : head.length < 2 ^ 64
  line : readRequestLine head = some (method, target, version, lineEnd)

/-- The lines strictly between the request line and the blank line. -/
structure HeaderLines (head : Bytes) (lineEnd separator : Nat) (lines : List Bytes) : Prop where
  joined : brokenLines lines = (head.drop lineEnd).take (separator - lineEnd)
  plain : ∀ line ∈ lines, find crlf line = none

section Head

variable {head method target version : Bytes} {lineEnd separator : Nat}
  (is : RequestHead head method target version lineEnd separator)
include is

theorem RequestHead.lineEnd_found : find crlf head = some lineEnd := by
  obtain ⟨first, gap, ends, -⟩ := readRequestLine_some.mp is.line
  exact ends

theorem RequestHead.lineEnd_cases : lineEnd = separator ∨ lineEnd + 2 < separator := by
  have ends := is.lineEnd_found
  have early : lineEnd ≤ separator := by
    by_contra late
    apply not_prefix_drop_of_find ends (show separator < lineEnd by omega)
    exact List.IsPrefix.trans ⟨[13, 10], rfl⟩ (prefix_drop_of_find is.header)
  obtain ⟨rest, line⟩ := prefix_drop_of_find ends
  obtain ⟨rest', header⟩ := prefix_drop_of_find is.header
  by_contra close
  have near : separator = lineEnd + 1 ∨ separator = lineEnd + 2 := by omega
  rcases near with rfl | rfl
  · rw [← List.drop_drop, ← line] at header
    exact absurd (List.cons.inj header).1 (by decide)
  · rw [← List.drop_drop, ← line] at header
    apply not_prefix_drop_of_find is.header (show lineEnd < lineEnd + 2 by omega)
    have tail : headerEnd ++ rest' = rest := header
    rw [← line, ← tail]
    exact ⟨[13, 10] ++ rest', rfl⟩

theorem RequestHead.middle (headed : lineEnd + 2 < separator) :
    (head.drop lineEnd).take (separator - lineEnd) =
      crlf ++ (head.drop (lineEnd + 2)).take (separator - lineEnd - 2) := by
  obtain ⟨rest, line⟩ := prefix_drop_of_find is.lineEnd_found
  have behind : head.drop (lineEnd + 2) = rest := by
    rw [← List.drop_drop, ← line]
    rfl
  rw [← line, behind, List.take_append, crlf_length]
  congr 1
  exact List.take_of_length_le (by rw [crlf_length]; omega)

/-- With a header line the cursor loop finds exactly the lines between. -/
theorem RequestHead.lines (headed : lineEnd + 2 < separator) :
    HeaderLines head lineEnd separator
      (cursorLines ((head.drop (lineEnd + 2)).take (separator - lineEnd - 2))) where
  joined := by
    have length : ((head.drop (lineEnd + 2)).take (separator - lineEnd - 2)).length =
        separator - lineEnd - 2 := by
      rw [List.length_take, List.length_drop, is.whole]
      omega
    rw [is.middle headed]
    apply brokenLines_cursorLines
    · intro none
      rw [none] at length
      simp at length
      omega
    · -- a break at the end would be the start of an earlier blank line
      rintro ⟨front, ends⟩
      have size := congrArg List.length ends
      rw [List.length_append, length, crlf_length] at size
      apply not_prefix_drop_of_find is.header (show separator - 2 < separator by omega)
      obtain ⟨rest, header⟩ := prefix_drop_of_find is.header
      have cut : head.drop (lineEnd + 2) = front ++ crlf ++ (headerEnd ++ rest) := by
        rw [ends, header]
        conv_lhs => rw [← List.take_append_drop (separator - lineEnd - 2) (head.drop (lineEnd + 2))]
        rw [List.drop_drop]
        congr 2
        omega
      have here : head.drop (separator - 2) = crlf ++ (headerEnd ++ rest) := by
        rw [show separator - 2 = lineEnd + 2 + front.length by omega, ← List.drop_drop, cut,
          List.append_assoc, List.drop_left]
      rw [here]
      exact ⟨[13, 10] ++ rest, rfl⟩
  plain _ member := cursorLines_plain member

theorem RequestHead.extended {buffer : Bytes} (front : head <+: buffer) :
    find headerEnd buffer = some separator ∧
      readRequestLine buffer = some (method, target, version, lineEnd) := by
  obtain ⟨first, gap, ends, space, next, order, rfl, rfl, rfl⟩ := readRequestLine_some.mp is.line
  have strict := space_ne_lineEnd ends next
  have inside := add_length_le_of_find ends
  rw [crlf_length] at inside
  refine ⟨?_, readRequestLine_some.mpr ⟨first, gap, ?_, ?_, ?_, order, ?_, ?_, ?_⟩⟩
  · obtain ⟨rest, rfl⟩ := front
    exact find_append is.header rest
  · obtain ⟨rest, rfl⟩ := front
    exact find_append ends rest
  · obtain ⟨rest, rfl⟩ := front
    exact find_append space rest
  · obtain ⟨rest, rfl⟩ := front
    rw [List.drop_append_of_le_length (by omega)]
    exact find_append next rest
  · obtain ⟨rest, rfl⟩ := front
    rw [List.take_append_of_le_length (by omega)]
  · exact substr_within front (by omega) (by omega)
  · exact substr_within front (by omega) (by omega)

/-- What the call goes over as header lines. -/
theorem RequestHead.cut {buffer : Bytes} (front : head <+: buffer) (headed : lineEnd + 2 < separator) :
    cursorLines (substr buffer (lineEnd + 2) ((separator : Int) - lineEnd - 2)) =
      cursorLines ((head.drop (lineEnd + 2)).take (separator - lineEnd - 2)) := by
  have room := is.whole
  have size := is.size
  rw [← substr_within front (by omega) (by omega), substr]
  congr 2
  omega

end Head

/-! ## The call on a head -/

theorem luaRequest_parsed (ctx : ListenerContext) {buffer method target version : Bytes}
    {left : List Bytes} {lineEnd separator : Nat} (nonempty : (opened ctx).1 ≠ [])
    (waits : awaitHeader (opened ctx).1 (opened ctx).2 = (buffer, left))
    (found : find headerEnd buffer = some separator)
    (line : readRequestLine buffer = some (method, target, version, lineEnd)) {lines : List Bytes}
    (cut : cursorLines (substr buffer (lineEnd + 2) ((separator : Int) - lineEnd - 2)) = lines) :
    (∃ message, lines.foldlM requestContentLength 0 = .error message ∧
      (luaRequest ctx).1 = .raised message) ∨
    ∃ length, lines.foldlM requestContentLength 0 = .ok length ∧
      ((awaitBody (separator + 4 + length) buffer left).1.length < separator + 4 + length ∧
        (luaRequest ctx).1 = .raised (ascii "HTTP request body ended before Content-Length") ∨
        separator + 4 + length ≤ (awaitBody (separator + 4 + length) buffer left).1.length ∧
        (luaRequest ctx).1 = .request (requestTable method target version lines separator length
          (awaitBody (separator + 4 + length) buffer left).1)) := by
  rw [luaRequest_opened nonempty]
  obtain ⟨b, start, same⟩ := List.exists_cons_of_ne_nil nonempty
  rw [same] at waits nonempty ⊢
  simp only [luaRequest, if_neg nonempty, waits, found, line, cut]
  cases sized : lines.foldlM requestContentLength 0 with
  | error message => exact .inl ⟨message, rfl, rfl⟩
  | ok length =>
      right
      refine ⟨length, rfl, ?_⟩
      simp only
      split_ifs with short
      · exact .inl ⟨short, rfl⟩
      · exact .inr ⟨by omega, rfl⟩

theorem RequestHead.nonempty {head method target version : Bytes} {lineEnd separator : Nat}
    (is : RequestHead head method target version lineEnd separator) : head ≠ [] := by
  rintro rfl
  have whole := is.whole
  rw [List.length_nil] at whole
  omega

/-- Without a header line the unsigned count wraps, and the rest of the buffer is cut out: from a bare
head the empty line in front of the body. -/
theorem RequestHead.headless {head method target version : Bytes} {lineEnd : Nat}
    (is : RequestHead head method target version lineEnd lineEnd) :
    ∃ request, (luaRequest { receives := [head] }).1 = .request request ∧ request.headers = [[]] := by
  have rest : substr head (lineEnd + 2) ((lineEnd : Int) - lineEnd - 2) = crlf := by
    obtain ⟨rest, header⟩ := prefix_drop_of_find is.header
    have length := congrArg List.length header
    rw [List.length_append, List.length_drop, is.whole, show headerEnd.length = 4 from rfl] at length
    have none : rest = [] := List.eq_nil_of_length_eq_zero (by omega)
    have count : (((lineEnd : Int) - lineEnd - 2) % 2 ^ 64).toNat = 2 ^ 64 - 2 := by omega
    rw [substr, ← List.drop_drop, ← header, none, count]
    exact List.take_of_length_le (show 2 ≤ 2 ^ 64 - 2 by omega)
  have lines : cursorLines crlf = [[]] := by
    rw [cursorLines_some (show find crlf crlf = some 0 from rfl)]
    exact congrArg _ cursorLines_nil
  have parsed := luaRequest_parsed { receives := [head] } is.nonempty rfl is.header is.line
    (congrArg cursorLines rest |>.trans lines)
  rcases parsed with ⟨message, refused, -⟩ | ⟨length, sized, ended⟩
  · contradiction
  · obtain rfl := Except.ok.inj sized
    rcases ended with ⟨short, -⟩ | ⟨enough, table⟩
    · have whole := is.whole
      have short' : head.length < lineEnd + 4 := short
      omega
    · exact ⟨_, table, rfl⟩

/-- The call goes over the lines between the request line and the blank line, as the headers it
reports and as the lines it searches for the length. -/
def HeadersExact (head : Bytes) (lineEnd separator : Nat) : Prop :=
  ∃ lines, HeaderLines head lineEnd separator lines ∧
    ∀ ctx, (opened ctx).1 ≠ [] → head <+: (awaitHeader (opened ctx).1 (opened ctx).2).1 →
      match lines.foldlM requestContentLength 0 with
      | .error message => (luaRequest ctx).1 = .raised message
      | .ok length =>
          (luaRequest ctx).1 = .raised (ascii "HTTP request body ended before Content-Length") ∨
          ∃ request, (luaRequest ctx).1 = .request request ∧ request.headers = lines ∧
            request.body.length = length

theorem RequestHead.inexact {head method target version : Bytes} {lineEnd : Nat}
    (is : RequestHead head method target version lineEnd lineEnd) :
    ¬ HeadersExact head lineEnd lineEnd := by
  rintro ⟨lines, are, each⟩
  obtain ⟨request, table, headers⟩ := is.headless
  have none : lines = [] := by
    have joined := are.joined
    rw [Nat.sub_self, List.take_zero] at joined
    cases lines with
    | nil => rfl
    | cons line lines => simp [crlf] at joined
  subst none
  rcases each { receives := [head] } is.nonempty List.prefix_rfl with raised | ⟨request', table', same, -⟩
  · rw [table] at raised
    contradiction
  · rw [table] at table'
    obtain rfl := ListenerResult.request.inj table'
    rw [headers] at same
    contradiction

theorem headersExact_iff (head method target version : Bytes) (lineEnd separator : Nat)
    (is : RequestHead head method target version lineEnd separator) :
    HeadersExact head lineEnd separator ↔ lineEnd ≠ separator := by
  constructor
  · rintro exactly rfl
    exact is.inexact exactly
  · intro headed
    have headed' : lineEnd + 2 < separator := is.lineEnd_cases.resolve_left headed
    refine ⟨_, is.lines headed', fun ctx nonempty front => ?_⟩
    obtain ⟨found, line⟩ := is.extended front
    rcases luaRequest_parsed _ nonempty rfl found line (is.cut front headed') with
      ⟨message, refused, raised⟩ | ⟨length, sized, ended⟩
    · rw [refused]
      exact raised
    · rw [sized]
      rcases ended with ⟨-, raised⟩ | ⟨enough, table⟩
      · exact .inl raised
      · refine .inr ⟨_, table, rfl, ?_⟩
        rw [requestTable, List.length_take_of_le]
        rw [List.length_drop]
        omega

def bareHead : Bytes := ascii "GET / HTTP/1.1\r\n\r\n"

theorem bareHead_is : RequestHead bareHead (ascii "GET") (ascii "/") (ascii "HTTP/1.1") 14 14 where
  header := by decide
  whole := by decide
  size := by decide
  line := by decide

theorem headersExact_iff_host :
    HeadersExact (ascii "GET / HTTP/1.1\r\nHost: a\r\n\r\n") 14 23 ↔ 14 ≠ 23 :=
  headersExact_iff _ (ascii "GET") (ascii "/") (ascii "HTTP/1.1") 14 23
    ⟨by decide +kernel, by decide, by decide, by decide +kernel⟩

theorem headersExact_bare : ¬ HeadersExact bareHead 14 14 := bareHead_is.inexact

end LuaXENetwork
