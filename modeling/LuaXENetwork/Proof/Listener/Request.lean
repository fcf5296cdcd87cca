import LuaXENetwork.Listener.Request
import LuaXENetwork.Proof.Http.Builder

namespace LuaXENetwork
open Library

/-! ## Waiting for the header and the body -/

section Waiting

variable {whole header : Bytes}

theorem awaitHeader_arrives (first : find headerEnd whole = some header.length)
    (short : header.length + 4 ≤ maxHeaderBytes) (buffer : Bytes) (pieces : List Bytes)
    (nonempty : ∀ piece ∈ pieces, piece ≠ []) (sent : whole = buffer ++ pieces.flatten) :
    ∃ buffer' left, awaitHeader buffer pieces = (buffer', left) ∧ left <:+ pieces ∧
      whole = buffer' ++ left.flatten ∧ find headerEnd buffer' = some header.length := by
  induction pieces generalizing buffer with
  | nil =>
      refine ⟨buffer, [], rfl, List.suffix_rfl, sent, ?_⟩
      rw [List.flatten_nil, List.append_nil] at sent
      rw [← sent, first]
  | cons piece pieces ih =>
      rw [awaitHeader]
      have front : buffer <+: whole := by
        rw [sent]
        exact List.prefix_append _ _
      split_ifs with stops empty
      · refine ⟨buffer, _, rfl, List.suffix_rfl, sent, ?_⟩
        rcases stops with found | large
        · obtain ⟨i, found⟩ := Option.isSome_iff_exists.mp found
          rw [sent, find_append found] at first
          rwa [found]
        · exact find_within front first (show header.length + 4 ≤ _ by omega)
      · exact absurd empty (nonempty piece (by simp))
      · obtain ⟨buffer', left, waits, suffix, sent', found⟩ := ih (buffer ++ piece)
          (fun other member => nonempty other (by simp [member])) (by simpa using sent)
        exact ⟨buffer', left, waits, suffix.trans (List.suffix_cons _ _), sent', found⟩

theorem awaitBody_arrives {size : Nat} (enough : size = whole.length) {buffer : Bytes}
    (pieces : List Bytes) (nonempty : ∀ piece ∈ pieces, piece ≠ [])
    (sent : whole = buffer ++ pieces.flatten) :
    (awaitBody size buffer pieces).1 = whole := by
  induction pieces generalizing buffer with
  | nil => simpa [awaitBody] using sent.symm
  | cons piece pieces ih =>
      rw [awaitBody]
      split_ifs with full empty
      · have none : (piece :: pieces).flatten = [] := by
          rw [enough, sent, List.length_append] at full
          exact List.eq_nil_of_length_eq_zero (by omega)
        rw [sent, none, List.append_nil]
      · exact absurd empty (nonempty piece (by simp))
      · exact ih (fun other member => nonempty other (by simp [member])) (by simpa using sent)

end Waiting

/-! ## Reading the printed head -/

def requestLine (method path version : Bytes) : Bytes := method ++ 32 :: (path ++ 32 :: version)

structure IsWord (word : Bytes) : Prop where
  noSpace : (32 : UInt8) ∉ word
  noReturn : (13 : UInt8) ∉ word
  noNul : (0 : UInt8) ∉ word

theorem substr_exact {s : Bytes} {position : Nat} {count : Int} {middle : Bytes} (front rest : Bytes)
    (split : s = front ++ (middle ++ rest)) (start : position = front.length)
    (length : count = middle.length) (small : middle.length < 2 ^ 64) :
    substr s position count = middle := by
  have exactly : (count % 2 ^ 64).toNat = middle.length := by
    rw [length, Int.emod_eq_of_lt (by omega) (by omega), Int.toNat_natCast]
  rw [substr, exactly, split, start, List.drop_left, List.take_left]

theorem readRequestLine_requestLine {method path version rest : Bytes} (methodWord : IsWord method)
    (pathWord : IsWord path) (noReturn : (13 : UInt8) ∉ version)
    (small : (requestLine method path version).length < 2 ^ 64) :
    readRequestLine (requestLine method path version ++ (crlf ++ rest)) =
      some (method, path, version, (requestLine method path version).length) := by
  have line : (13 : UInt8) ∉ requestLine method path version := by
    simp [requestLine, methodWord.noReturn, pathWord.noReturn, noReturn]
  have lineEnd := find_crlf_line line rest
  have parts : requestLine method path version ++ (crlf ++ rest) =
      method ++ ([32] ++ (path ++ ([32] ++ (version ++ (crlf ++ rest))))) := by
    simp [requestLine]
  have firstSpace : find (ascii " ") (requestLine method path version ++ (crlf ++ rest)) =
      some method.length := by
    rw [parts]
    exact find_append_cons methodWord.noSpace [] _
  have after : (requestLine method path version ++ (crlf ++ rest)).drop (method.length + 1) =
      path ++ ([32] ++ (version ++ (crlf ++ rest))) := by
    rw [parts, ← List.drop_drop, List.drop_left]
    rfl
  have gap : find (ascii " ") (path ++ ([32] ++ (version ++ (crlf ++ rest)))) = some path.length :=
    find_append_cons pathWord.noSpace [] _
  have length : (requestLine method path version).length =
      method.length + 1 + path.length + 1 + version.length := by
    simp only [requestLine, List.length_append, List.length_cons]
    omega
  have target : substr (requestLine method path version ++ (crlf ++ rest)) (method.length + 1)
      ((↑(method.length + 1 + path.length) : Int) - method.length - 1) = path :=
    substr_exact (method ++ [32]) ([32] ++ (version ++ (crlf ++ rest)))
      (by rw [parts]; simp) (by simp) (by omega) (by omega)
  have version' : substr (requestLine method path version ++ (crlf ++ rest))
      (method.length + 1 + path.length + 1) ((↑(requestLine method path version).length : Int) -
        ↑(method.length + 1 + path.length) - 1) = version :=
    substr_exact (method ++ ([32] ++ (path ++ [32]))) (crlf ++ rest)
      (by rw [parts]; simp) (by simp; omega) (by omega) (by omega)
  have method' : (requestLine method path version ++ (crlf ++ rest)).take method.length = method := by
    rw [parts, List.take_left]
  simp only [readRequestLine, lineEnd, firstSpace, after, gap, Option.bind_eq_bind, Option.bind_some]
  rw [if_neg (by omega), target, version', method']

/-! ## The header lines -/

def Unsized (line : Bytes) : Prop :=
  ∀ colon, find (ascii ":") line = some colon →
    lowerAscii (line.take colon) ≠ ascii "content-length"

theorem requestContentLength_unsized {line : Bytes} (unsized : Unsized line) (length : Nat) :
    requestContentLength length line = .ok length := by
  rw [requestContentLength]
  cases found : find (ascii ":") line with
  | none => rfl
  | some colon => exact if_neg (unsized colon found)

theorem strtoull_decimal {n : Nat} (small : n < 2 ^ 64) : strtoull (decimal n) = some n := by
  have read := readNumeral_decimal [] n [] (by simp) (by simp)
  rw [List.nil_append, List.append_nil] at read
  simp only [strtoull, cString_clean (zero_notMem_decimal n), read, Option.map_some,
    Bool.false_eq_true, if_false]
  rw [if_neg (by omega)]

theorem requestContentLength_lengthField {body : Bytes} (small : body.length ≤ 64 * 1024 * 1024)
    (length : Nat) : requestContentLength length (fieldLine (lengthField body)) = .ok body.length := by
  have line : fieldLine (lengthField body) =
      ascii "Content-Length" ++ ([58] ++ (32 :: decimal body.length)) := rfl
  have colon : find (ascii ":") (fieldLine (lengthField body)) = some 14 := by
    rw [line]
    exact find_append_cons (by decide) [] _
  have name : lowerAscii ((fieldLine (lengthField body)).take 14) = ascii "content-length" := rfl
  have value : ((fieldLine (lengthField body)).drop (14 + 1)).dropWhile
      (fun b => b == 32 || b == 9) = decimal body.length := by
    obtain ⟨d, ds, digits⟩ := List.exists_cons_of_ne_nil (decimal_ne_nil body.length)
    have blank := (decimal_letter (n := body.length) (b := d) (by simp [digits])).2.1
    simp only [isBlank, Bool.or_eq_false_iff] at blank
    show (32 :: decimal body.length).dropWhile (fun b => b == 32 || b == 9) = _
    simp [digits, blank]
  rw [requestContentLength, colon]
  simp only
  rw [if_pos name, value, strtoull_decimal (by omega)]
  exact if_neg (by omega)

theorem foldlM_unsized {lines : List Bytes} (unsized : ∀ line ∈ lines, Unsized line) (length : Nat) :
    lines.foldlM requestContentLength length = .ok length := by
  induction lines with
  | nil => rfl
  | cons line lines ih =>
      rw [List.foldlM_cons, requestContentLength_unsized (unsized line (by simp)), ok_bind]
      exact ih fun other member => unsized other (by simp [member])

theorem splitTarget_join (target : Bytes) :
    (splitTarget target).1 ++ ((splitTarget target).2.map (ascii "?" ++ ·)).getD [] = target := by
  unfold splitTarget
  cases found : find (ascii "?") target with
  | none => simp
  | some question =>
      simp only [Option.map_some, Option.getD_some, ← List.append_assoc]
      exact (eq_append_of_find found).symm

theorem luaRequest_arrived {piece buffer whole method target version : Bytes}
    {pieces left lines : List Bytes} {separator lineEnd length : Nat} (nonempty : piece ≠ [])
    (waits : awaitHeader piece pieces = (buffer, left))
    (found : find headerEnd buffer = some separator)
    (line : readRequestLine buffer = some (method, target, version, lineEnd))
    (split : cursorLines (substr buffer (lineEnd + 2) ((separator : Int) - lineEnd - 2)) = lines)
    (sized : lines.foldlM requestContentLength 0 = .ok length)
    (arrives : (awaitBody (separator + 4 + length) buffer left).1 = whole)
    (enough : separator + 4 + length ≤ whole.length) :
    (luaRequest { receives := piece :: pieces }).1 = .request {
      data := whole
      method := method
      query := (splitTarget target).2
      path := (splitTarget target).1
      version := version
      headers := lines
      body := (whole.drop (separator + 4)).take length } := by
  subst arrives
  simp only [luaRequest, if_neg nonempty, waits, found, line, split, sized]
  rw [if_neg (by omega)]

end LuaXENetwork
