import LuaXENetwork.Proof.Http.HeaderBlock
import LuaXENetwork.Proof.Request.Authority

/-! The bytes that `get` and `download` make of a URL, as lines. -/

namespace LuaXENetwork
open Library

/-! ## Splitting at line breaks -/

/-- The pieces between the line breaks. -/
def splitCrlf (text : Bytes) : List Bytes :=
  match _found : find crlf text with
  | none => [text]
  | some finish => text.take finish :: splitCrlf (text.drop (finish + 2))
termination_by text.length
decreasing_by
  have := add_length_le_of_find _found
  rw [crlf_length] at this
  rw [List.length_drop]
  omega

theorem splitCrlf_unbroken {text : Bytes} (unbroken : find crlf text = none) : splitCrlf text = [text] := by
  rw [splitCrlf]
  split
  · rfl
  · rename_i found
    rw [unbroken] at found
    contradiction

theorem splitCrlf_broken {text : Bytes} {finish : Nat} (found : find crlf text = some finish) :
    splitCrlf text = text.take finish :: splitCrlf (text.drop (finish + 2)) := by
  rw [splitCrlf]
  split
  · rename_i absent
    rw [found] at absent
    contradiction
  · rename_i finish' found'
    obtain rfl := Option.some.inj (found.symm.trans found')
    rfl

theorem splitCrlf_append (front back : Bytes) :
    splitCrlf (front ++ (crlf ++ back)) = splitCrlf front ++ splitCrlf back := by
  induction front using splitCrlf.induct with
  | case1 front unbroken =>
      have found := find_crlf_unbroken unbroken back
      rw [splitCrlf_unbroken unbroken, splitCrlf_broken found, List.take_left, ← List.drop_drop, List.drop_left]
      rfl
  | case2 front finish found ih =>
      have inside := add_length_le_of_find found
      rw [crlf_length] at inside
      rw [splitCrlf_broken found, splitCrlf_broken (find_append found _), List.take_append_of_le_length (by omega),
        List.drop_append_of_le_length inside, ih, List.cons_append]

theorem splitCrlf_ne_nil (text : Bytes) : splitCrlf text ≠ [] := by
  cases found : find crlf text with
  | none => simp [splitCrlf_unbroken found]
  | some finish => simp [splitCrlf_broken found]

theorem splitCrlf_single {text piece : Bytes} (single : splitCrlf text = [piece]) :
    find crlf text = none ∧ piece = text := by
  cases found : find crlf text with
  | none =>
      rw [splitCrlf_unbroken found] at single
      exact ⟨rfl, (List.cons.inj single).1.symm⟩
  | some finish =>
      rw [splitCrlf_broken found] at single
      exact absurd (List.cons.inj single).2 (splitCrlf_ne_nil _)

/-- Texts around another that neither begin nor end a line break. -/
theorem unbroken_within_iff {front text back : Bytes} (noReturn : 13 ∉ front) (noReturn' : 13 ∉ back)
    (noFeed : 10 ∉ back) : find crlf (front ++ (text ++ back)) = none ↔ find crlf text = none := by
  have ends (unbroken : find crlf text = none) : find crlf (text ++ back) = none := by
    induction text with
    | nil => exact find_eq_none_of_head_notMem noReturn' [10]
    | cons b text ih =>
        have skip : ¬ crlf <+: b :: text := not_prefix_drop_of_find_none unbroken 0
        have skip' : ¬ crlf <+: b :: (text ++ back) := by
          intro holds
          cases text with
          | nil =>
              obtain ⟨after, same⟩ := (List.cons_prefix_cons.mp holds).2
              obtain rfl : 10 :: after = back := same
              exact noFeed (by simp)
          | cons c text => exact skip (List.prefix_of_prefix_length_le holds ⟨back, by simp⟩ (by simp))
        rw [find_cons_skip skip, Option.map_eq_none_iff] at unbroken
        rw [List.cons_append, find_cons_skip skip', ih unbroken]
        rfl
  rw [crlf, find_append_left noReturn, Option.map_eq_none_iff, ← crlf]
  refine ⟨fun unbroken => ?_, ends⟩
  cases found : find crlf text with
  | none => rfl
  | some finish =>
      rw [find_append found] at unbroken
      contradiction

/-! ## The request -/

section Fetch

variable {lua : LuaLibrary} {platform : Platform} {args : List LuaValue}

/-- What `get` and `download` send for a URL. -/
def fetchRequest (accept : String) (target : ParsedHttpUrl) : Bytes :=
  ascii "GET " ++ target.path ++ ascii " HTTP/1.1" ++ crlf ++ ascii "Accept: " ++ ascii accept ++ crlf
    ++ ascii "Accept-Encoding: identity" ++ crlf ++ ascii "Connection: close" ++ crlf ++ ascii "Host: "
    ++ httpHostHeader target ++ headerEnd

/-- The calls of `get` and `download` that send a request, each with the `Accept` value it sends. -/
inductive Fetches (lua : LuaLibrary) (platform : Platform) (args : List LuaValue) : String → HttpCall → Prop
  | get {call : HttpCall} (built : webRequestSimpleGET lua platform args = .ok call) :
      Fetches lua platform args "text/html" call
  | download {call : HttpCall} (built : webRequestSimpleDownload lua platform args = .ok call) :
      Fetches lua platform args "*/*" call

theorem simpleRequest_fetches {accept : String} {slot : Nat} {url : Bytes} {call : HttpCall}
    (built : simpleRequest lua platform accept slot args url = .ok call) :
    ∃ target, parseHttpUrl url = .ok target ∧ call.request = fetchRequest accept target := by
  simp only [simpleRequest] at built
  cases parsed : parseHttpUrl url with
  | error what => simp [parsed] at built
  | ok target =>
      simp only [parsed, pure_bind, bind_eq_ok, pure_eq_ok] at built
      obtain ⟨options, -, rfl⟩ := built
      exact ⟨target, rfl, rfl⟩

theorem Fetches.request {accept : String} {call : HttpCall} (fetches : Fetches lua platform args accept call) :
    ∃ url target, checkString lua args 1 = .ok url ∧ parseHttpUrl url = .ok target ∧
      call.request = fetchRequest accept target := by
  cases fetches with
  | get built =>
      rw [webRequestSimpleGET, bind_eq_ok] at built
      obtain ⟨url, checked, simple⟩ := built
      obtain ⟨target, parsed, request⟩ := simpleRequest_fetches simple
      exact ⟨url, target, checked, parsed, request⟩
  | download built =>
      rw [webRequestSimpleDownload, bind_eq_ok] at built
      obtain ⟨url, checked, rest⟩ := built
      cases parses : parseHttpUrl url with
      | error what => simp [parses] at rest
      | ok _ =>
          simp only [parses, bind_eq_ok] at rest
          obtain ⟨localPath, -, simple⟩ := rest
          obtain ⟨target, parsed, request⟩ := simpleRequest_fetches simple
          exact ⟨url, target, checked, parsed, request⟩

/-- A request line whose path is one word, four header lines and the blank line. -/
def OneRequest (accept : String) (request : Bytes) : Prop :=
  ∃ path host, splitCrlf request = [ascii "GET " ++ path ++ ascii " HTTP/1.1", ascii "Accept: " ++ ascii accept,
    ascii "Accept-Encoding: identity", ascii "Connection: close", ascii "Host: " ++ host, [], []] ∧
    ∀ b ∈ path, b ≠ 32 ∧ b ≠ 13 ∧ b ≠ 10

theorem splitCrlf_fetchRequest {accept : String} (line : 13 ∉ ascii accept) (target : ParsedHttpUrl) :
    splitCrlf (fetchRequest accept target) = splitCrlf (ascii "GET " ++ target.path ++ ascii " HTTP/1.1") ++
      [ascii "Accept: " ++ ascii accept, ascii "Accept-Encoding: identity", ascii "Connection: close"] ++
      splitCrlf (ascii "Host: " ++ httpHostHeader target) ++ [[], []] := by
  have single {text : Bytes} (noReturn : 13 ∉ text) : splitCrlf text = [text] :=
    splitCrlf_unbroken (find_eq_none_of_head_notMem noReturn [10])
  have accepts : 13 ∉ ascii "Accept: " ++ ascii accept := by
    rw [List.mem_append, not_or]
    exact ⟨by decide, line⟩
  have parts : fetchRequest accept target = (ascii "GET " ++ target.path ++ ascii " HTTP/1.1") ++ (crlf ++
      ((ascii "Accept: " ++ ascii accept) ++ (crlf ++ (ascii "Accept-Encoding: identity" ++ (crlf ++
      (ascii "Connection: close" ++ (crlf ++ ((ascii "Host: " ++ httpHostHeader target) ++ (crlf ++
      ([] ++ (crlf ++ [])))))))))))  := by
    simp only [fetchRequest, show headerEnd = crlf ++ crlf from rfl, List.append_assoc, List.nil_append,
      List.append_nil]
  rw [parts]
  simp only [splitCrlf_append]
  rw [single accepts, single (show 13 ∉ ascii "Accept-Encoding: identity" by decide),
    single (show 13 ∉ ascii "Connection: close" by decide), single List.not_mem_nil]
  simp only [List.append_assoc]
  rfl

theorem oneRequest_fetchRequest_iff {accept : String} (line : 13 ∉ ascii accept) (target : ParsedHttpUrl) :
    OneRequest accept (fetchRequest accept target) ↔
      (∀ b ∈ target.path, b ≠ 32 ∧ b ≠ 13 ∧ b ≠ 10) ∧ find crlf (httpHostHeader target) = none := by
  have hosted : find crlf (ascii "Host: " ++ httpHostHeader target) = none ↔
      find crlf (httpHostHeader target) = none := by
    have within := @unbroken_within_iff (ascii "Host: ") (httpHostHeader target) [] (by decide) (by simp) (by simp)
    rwa [List.append_nil] at within
  have requested : find crlf (ascii "GET " ++ target.path ++ ascii " HTTP/1.1") = none ↔
      find crlf target.path = none := by
    rw [List.append_assoc]
    exact unbroken_within_iff (by decide) (by decide) (by decide)
  rw [OneRequest, splitCrlf_fetchRequest line]
  constructor
  · rintro ⟨path, host, pieces, word⟩
    have one := List.length_pos_iff.mpr (splitCrlf_ne_nil (ascii "GET " ++ target.path ++ ascii " HTTP/1.1"))
    have one' := List.length_pos_iff.mpr (splitCrlf_ne_nil (ascii "Host: " ++ httpHostHeader target))
    have seven := congrArg List.length pieces
    simp only [List.length_append, List.length_cons, List.length_nil] at seven
    obtain ⟨first, isFirst⟩ := List.length_eq_one_iff.mp (show (splitCrlf (ascii "GET " ++ target.path ++
      ascii " HTTP/1.1")).length = 1 by omega)
    obtain ⟨last, isLast⟩ := List.length_eq_one_iff.mp (show (splitCrlf (ascii "Host: " ++
      httpHostHeader target)).length = 1 by omega)
    obtain ⟨-, rfl⟩ := splitCrlf_single isFirst
    rw [isFirst] at pieces
    have same := (List.cons.inj pieces).1
    rw [List.append_cancel_right_eq, List.append_cancel_left_eq] at same
    exact ⟨same ▸ word, hosted.mp (splitCrlf_single isLast).1⟩
  · rintro ⟨word, unbroken⟩
    have noReturn : 13 ∉ target.path := fun member => (word 13 member).2.1 rfl
    refine ⟨target.path, httpHostHeader target, ?_, word⟩
    rw [splitCrlf_unbroken (requested.mpr (find_eq_none_of_head_notMem noReturn [10])),
      splitCrlf_unbroken (hosted.mpr unbroken)]
    rfl

theorem httpHostHeader_unbroken_iff {target : ParsedHttpUrl} (positive : 1 ≤ target.port) :
    find crlf (httpHostHeader target) = none ↔ find crlf target.host = none := by
  have suffix {b : UInt8} (letter : isDigit 10 b = false) (colon : b ≠ 58) :
      b ∉ portSuffix target.ssl target.port := by
    rw [portSuffix]
    split
    · simp
    · simpa [colon] using notMem_toText positive letter
  have noReturn : 13 ∉ portSuffix target.ssl target.port := suffix rfl (by decide)
  have noFeed : 10 ∉ portSuffix target.ssl target.port := suffix rfl (by decide)
  rw [httpHostHeader_eq]
  split
  · have bracketed : 91 :: target.host ++ [93] ++ portSuffix target.ssl target.port =
        [91] ++ (target.host ++ ([93] ++ portSuffix target.ssl target.port)) := by simp
    rw [bracketed]
    exact unbroken_within_iff (by decide) (by simpa using noReturn) (by simpa using noFeed)
  · exact unbroken_within_iff List.not_mem_nil noReturn noFeed

/-- `get` and `download` send one request just when the path is one word and the host has no line break. -/
theorem Fetches.oneRequest_iff {accept : String} {call : HttpCall} (fetches : Fetches lua platform args accept call) :
    ∃ url target rest, checkString lua args 1 = .ok url ∧ parseHttpUrl url = .ok target ∧
      url = httpScheme target.ssl ++ rest ∧
      (OneRequest accept call.request ↔ (∀ b ∈ pathText rest, b ≠ 32 ∧ b ≠ 13 ∧ b ≠ 10) ∧
        find crlf (hostText (authorityText rest)) = none) := by
  obtain ⟨url, target, checked, parsed, request⟩ := fetches.request
  obtain ⟨rest, is, path, -, range, splits⟩ := parts_of_accepted parsed
  have line : 13 ∉ ascii accept := by
    cases fetches <;> decide
  have hosted : find crlf (hostText (authorityText rest)) = none ↔ find crlf target.host = none := by
    rcases hostText_of_splits splits with same | same
    · rw [same]
    · have within := @unbroken_within_iff [91] target.host [] (by decide) (by simp) (by simp)
      rwa [List.append_nil, List.singleton_append, ← same] at within
  refine ⟨url, target, rest, checked, parsed, is, ?_⟩
  rw [request, oneRequest_fetchRequest_iff line, path, hosted, httpHostHeader_unbroken_iff range.1]

end Fetch

theorem oneRequest_query :
    ∃ call url target rest, webRequestSimpleGET .whole .blank [.string (ascii "http://h/a?b")] = .ok call ∧
      checkString .whole [.string (ascii "http://h/a?b")] 1 = .ok url ∧ parseHttpUrl url = .ok target ∧
      url = httpScheme target.ssl ++ rest ∧
      (OneRequest "text/html" call.request ↔ (∀ b ∈ pathText rest, b ≠ 32 ∧ b ≠ 13 ∧ b ≠ 10) ∧
        find crlf (hostText (authorityText rest)) = none) := by
  have built : webRequestSimpleGET .whole .blank [.string (ascii "http://h/a?b")] = .ok _ := rfl
  obtain ⟨url, target, rest, is⟩ := (Fetches.get built).oneRequest_iff
  exact ⟨_, url, target, rest, built, is⟩

/-- `get("http://h/\r\nX: y")` sends a header line of the caller's. -/
theorem path_adds_header :
    ∃ call, webRequestSimpleGET .whole .blank [.string (ascii "http://h/\r\nX: y")] = .ok call ∧
      ascii "GET /\r\nX: y HTTP/1.1\r\nAccept: text/html\r\n" <+: call.request ∧
      ¬ OneRequest "text/html" call.request := by
  refine ⟨_, rfl, by decide, fun one => ?_⟩
  have request : OneRequest "text/html" (fetchRequest "text/html" ⟨ascii "h", ascii "/\r\nX: y", 80, false⟩) := one
  have word := ((oneRequest_fetchRequest_iff (by decide) _).mp request).1
  exact (word 13 (by decide)).2.1 rfl

end LuaXENetwork
