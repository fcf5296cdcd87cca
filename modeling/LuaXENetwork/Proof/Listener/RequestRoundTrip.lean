import LuaXENetwork.Proof.Listener.Request

namespace LuaXENetwork
open Library

/-- The header lines that `RequestBuilder` writes for a header table or a header string. -/
inductive EmittedLines (lua : LuaLibrary) : LuaValue → List Bytes → Prop where
  | table {entries : LuaTable} {fields : HeaderList} (writes : Writes lua entries fields) :
      EmittedLines lua (.table entries) (fields.map fieldLine)
  | string (line : Bytes) (lines : List Bytes) :
      EmittedLines lua (.string (line ++ brokenLines lines)) (line :: lines)

/-- A request table that leaves the framing to `RequestBuilder`. -/
structure RequestTable (lua : LuaLibrary) (value : LuaValue) (method path version : Bytes)
    (lines : List Bytes) (body : Option Bytes) : Prop where
  hasMethod : value.getField "method" = .string method
  nonempty : method ≠ []
  methodWord : IsWord method
  hasPath : value.getField "path" = .string path
  pathWord : IsWord path
  hasVersion : value.getField "version" = .string version
  versionClean : ∀ b ∈ version, b ≠ 13 ∧ b ≠ 10 ∧ b ≠ 0
  hasHeaders : EmittedLines lua (value.getField "headers") lines
  areLines : ∀ line ∈ lines, IsLine line ∧ (0 : UInt8) ∉ line
  unsized : ∀ line ∈ lines, Unsized line
  hasBody : value.getField "body" = (body.map LuaValue.string).getD .nil
  bounded : ∀ bytes ∈ body, bytes.length ≤ 64 * 1024 * 1024

section Table

variable {lua : LuaLibrary} {value : LuaValue} {host method path version : Bytes}
  {lines : List Bytes} {body : Option Bytes}

def requestLines (host : Bytes) (lines : List Bytes) (body : Option Bytes) : List Bytes :=
  fieldLine (ascii "Host", host) :: lines ++
    (body.map fun bytes => fieldLine (lengthField bytes)).toList

def requestHeader (host method path version : Bytes) (lines : List Bytes) (body : Option Bytes) :
    Bytes :=
  requestLine method path version ++ brokenLines (requestLines host lines body)

theorem requestHeaders_emitted {headers : LuaValue} (emitted : EmittedLines lua headers lines)
    (clean : ∀ line ∈ lines, (0 : UInt8) ∉ line) :
    requestHeaders lua headers = .ok (lines.flatMap (· ++ crlf)) := by
  cases emitted with
  | table writes =>
      refine headerLines_writes _ writes fun field member => ?_
      have noNul := clean (fieldLine field) (List.mem_map_of_mem member)
      simp only [fieldLine, List.mem_append, not_or] at noNul
      exact ⟨noNul.1.1, noNul.2⟩
  | string line lines =>
      have noNul : (0 : UInt8) ∉ line ++ brokenLines lines := by
        simp only [brokenLines, List.mem_append, List.mem_flatMap, not_or, not_exists, not_and]
        exact ⟨clean line (by simp), fun other member => ⟨by decide, clean other (by simp [member])⟩⟩
      have joined := crlf_append_lines lines []
      rw [List.append_nil, List.append_nil] at joined
      rw [requestHeaders, cString_clean noNul, List.flatMap_cons, List.append_assoc, List.append_assoc,
        joined]

theorem requestBuilder_prints (table : RequestTable lua value method path version lines body) :
    requestBuilder lua host value =
      .ok (requestHeader host method path version lines body ++ headerEnd ++ body.getD []) := by
  have written := requestHeaders_emitted table.hasHeaders
    fun line member => (table.areLines line member).2
  have method' : cString method = method := cString_clean table.methodWord.noNul
  have path' : cString path = path := cString_clean table.pathWord.noNul
  have version' : cString version = version :=
    cString_clean fun nul => (table.versionClean _ nul).2.2 rfl
  have begun : method ++ ascii " " ++ path ≠ [] := by simp [table.nonempty]
  have space : ascii " " = [32] := rfl
  have hostField : ascii "Host: " = ascii "Host" ++ ascii ": " := rfl
  cases value with
  | table _ =>
      simp only [requestBuilder, table.hasMethod, table.hasPath, table.hasVersion, table.hasBody,
        method', path', version', if_neg table.nonempty, if_neg begun, written, ok_bind]
      refine congrArg Except.ok ?_
      cases body with
      | none =>
          simp only [requestHeader, requestLines, requestLine, Option.map_none, Option.getD_none,
            Option.toList_none, List.append_nil, brokenLines_cons, fieldLine, bodyPart,
            List.append_assoc, List.cons_append, space, hostField, crlf_append_lines]
          rfl
      | some bytes =>
          simp only [requestHeader, requestLines, requestLine, Option.map_some, Option.getD_some,
            Option.toList_some, List.cons_append, brokenLines_cons, brokenLines_append, fieldLine,
            bodyPart_string, List.append_assoc, space, hostField, crlf_append_lines]
          rfl
  | _ => cases table.hasMethod

theorem isLine_hostLine (clean : ∀ b ∈ host, b ≠ 13 ∧ b ≠ 10 ∧ b ≠ 0) :
    IsLine (fieldLine (ascii "Host", host)) where
  nonempty := by simp [fieldLine, ascii]
  noReturn := by
    simp only [fieldLine, List.mem_append, not_or]
    exact ⟨by decide, fun member => (clean _ member).1 rfl⟩
  noFeed := by
    simp only [fieldLine, List.mem_append, not_or]
    exact ⟨by decide, fun member => (clean _ member).2.1 rfl⟩

theorem unsized_hostLine (host : Bytes) : Unsized (fieldLine (ascii "Host", host)) := by
  intro colon found
  have line : fieldLine (ascii "Host", host) = ascii "Host" ++ ([58] ++ 32 :: host) := rfl
  have here : find (ascii ":") (fieldLine (ascii "Host", host)) = some 4 := by
    rw [line]
    exact find_append_cons (by decide) [] _
  obtain rfl := Option.some.inj (here.symm.trans found)
  exact show ascii "host" ≠ ascii "content-length" by decide

theorem isLine_lengthLine (bytes : Bytes) : IsLine (fieldLine (lengthField bytes)) where
  nonempty := by simp [fieldLine, ascii]
  noReturn := by
    simp only [fieldLine, lengthField, List.mem_append, not_or]
    exact ⟨by decide, fun member => (decimal_letter member).2.2.2.2.1 rfl⟩
  noFeed := by
    simp only [fieldLine, lengthField, List.mem_append, not_or]
    exact ⟨by decide, fun member => (decimal_letter member).2.2.2.1 rfl⟩

theorem isLine_requestLines (clean : ∀ b ∈ host, b ≠ 13 ∧ b ≠ 10 ∧ b ≠ 0)
    (table : RequestTable lua value method path version lines body) :
    ∀ line ∈ requestLines host lines body, IsLine line := by
  simp only [requestLines, List.forall_mem_append, List.forall_mem_cons]
  refine ⟨⟨isLine_hostLine clean, fun line member => (table.areLines line member).1⟩, ?_⟩
  cases body with
  | none => simp
  | some bytes => simpa using isLine_lengthLine bytes

theorem foldlM_requestLines (table : RequestTable lua value method path version lines body) :
    (requestLines host lines body).foldlM requestContentLength 0 = .ok (body.getD []).length := by
  have before : (fieldLine (ascii "Host", host) :: lines).foldlM requestContentLength 0 = .ok 0 :=
    foldlM_unsized (List.forall_mem_cons.mpr ⟨unsized_hostLine host, table.unsized⟩) 0
  rw [requestLines, List.foldlM_append, before, ok_bind]
  cases body with
  | none => rfl
  | some bytes =>
      rw [Option.map_some, Option.toList_some, List.foldlM_cons,
        requestContentLength_lengthField (table.bounded bytes rfl)]
      rfl

/-- A request comes back from its bytes as it was given, however they were cut. -/
theorem requestBuilder_luaRequest (clean : ∀ b ∈ host, b ≠ 13 ∧ b ≠ 10 ∧ b ≠ 0)
    (table : RequestTable lua value method path version lines body) :
    ∃ bytes, requestBuilder lua host value = .ok bytes ∧
      (bytes.length - (body.getD []).length ≤ 1024 * 1024 →
        ∀ pieces : List Bytes, (∀ piece ∈ pieces, piece ≠ []) → pieces.flatten = bytes →
          ∃ request, (luaRequest { receives := pieces }).1 = .request request ∧
            request.method = method ∧
            request.path ++ (request.query.map (ascii "?" ++ ·)).getD [] = path ∧
            request.version = version ∧
            request.headers = fieldLine (ascii "Host", host) :: lines ++
              (body.map fun bytes => fieldLine (lengthField bytes)).toList ∧
            request.body = body.getD []) := by
  refine ⟨_, requestBuilder_prints table, fun room pieces nonempty sent => ?_⟩
  have are := isLine_requestLines clean table
  have noReturn : (13 : UInt8) ∉ version := fun member => (table.versionClean _ member).1 rfl
  have lineNoReturn : (13 : UInt8) ∉ requestLine method path version := by
    simp [requestLine, table.methodWord.noReturn, table.pathWord.noReturn, noReturn]
  have first := find_headerEnd_brokenLines lineNoReturn _ are (body.getD [])
  rw [← requestHeader] at first
  have short : (requestHeader host method path version lines body).length + 4 ≤ maxHeaderBytes := by
    simp only [List.length_append, headerEnd, List.length_cons, List.length_nil] at room
    rw [maxHeaderBytes]
    omega
  cases pieces with
  | nil => exact absurd sent.symm (by simp [headerEnd])
  | cons piece pieces =>
      obtain ⟨buffer, left, waits, suffix, whole, found⟩ := awaitHeader_arrives first short
        piece pieces (fun other member => nonempty other (by simp [member]))
        (by simpa using sent.symm)
      have front : buffer.take (requestHeader host method path version lines body).length =
          requestHeader host method path version lines body := by
        have inside := add_length_le_of_find found
        have taken : (buffer ++ left.flatten).take
            (requestHeader host method path version lines body).length = buffer.take _ :=
          List.take_append_of_le_length (by omega)
        rw [← taken, ← whole, List.append_assoc, List.take_left]
      have parts := eq_append_of_find found
      rw [front] at parts
      have block : requestHeader host method path version lines body =
          requestLine method path version ++ (crlf ++ (fieldLine (ascii "Host", host) ++
            brokenLines (lines ++ (body.map fun bytes => fieldLine (lengthField bytes)).toList))) := by
        simp only [requestHeader, requestLines, List.cons_append, brokenLines_cons, List.append_assoc]
      have small : (requestHeader host method path version lines body).length < 2 ^ 64 := by
        rw [maxHeaderBytes] at short
        omega
      have line : readRequestLine buffer =
          some (method, path, version, (requestLine method path version).length) := by
        rw [parts, block]
        simp only [List.append_assoc]
        refine readRequestLine_requestLine table.methodWord table.pathWord noReturn ?_
        rw [block, List.length_append] at small
        omega
      have split : substr buffer ((requestLine method path version).length + 2)
          (((requestHeader host method path version lines body).length : Int) -
            (requestLine method path version).length - 2) =
          fieldLine (ascii "Host", host) ++
            brokenLines (lines ++ (body.map fun bytes => fieldLine (lengthField bytes)).toList) := by
        rw [block] at small ⊢
        refine substr_exact (requestLine method path version ++ crlf) (headerEnd ++ buffer.drop
          ((requestHeader host method path version lines body).length + headerEnd.length)) ?_ ?_ ?_ ?_
        · nth_rewrite 1 [parts, block]
          simp only [List.append_assoc]
        · rw [List.length_append, crlf_length]
        · simp only [List.length_append, crlf_length]
          omega
        · simp only [List.length_append] at small ⊢
          omega
      have lines' := cursorLines_brokenLines (are (fieldLine (ascii "Host", host)) (by simp [requestLines]))
        (lines ++ (body.map fun bytes => fieldLine (lengthField bytes)).toList)
        fun other member => are other (by
          simp only [requestLines, List.cons_append, List.mem_cons]
          exact .inr member)
      rw [← split] at lines'
      have arrives := awaitBody_arrives
        (show (requestHeader host method path version lines body).length + 4 + (body.getD []).length =
          _ by simp [headerEnd]; omega) left
        (fun other member => nonempty other (List.mem_cons_of_mem _ (suffix.subset member))) whole
      refine ⟨_, luaRequest_arrived (nonempty piece (by simp)) waits found line lines'
        (foldlM_requestLines table) arrives (by simp [headerEnd]; omega), rfl, splitTarget_join path, rfl,
        rfl, ?_⟩
      show ((_ ++ headerEnd ++ body.getD []).drop (_ + 4)).take _ = body.getD []
      rw [List.append_assoc, ← List.drop_drop, List.drop_left]
      show (body.getD []).take _ = body.getD []
      rw [List.take_length]

end Table

theorem requestBuilder_luaRequest_query :
    ∃ request, (luaRequest { receives := [ascii "PUT /a?b=1 HTTP/1.1\r\nHo",
        ascii "st: h:80\r\nX-A: 1\r\nX-B: 2\r\nContent-Length: 2\r\n\r", ascii "\n\x00?"] }).1 =
        .request request ∧
      request.headers = [ascii "Host: h:80", ascii "X-A: 1", ascii "X-B: 2", ascii "Content-Length: 2"] ∧
      request.body = [0, 63] := by
  have table : RequestTable .whole
      (.table [(.string (ascii "method"), .string (ascii "PUT")),
        (.string (ascii "path"), .string (ascii "/a?b=1")),
        (.string (ascii "version"), .string (ascii "HTTP/1.1")),
        (.string (ascii "headers"), .string (ascii "X-A: 1\r\nX-B: 2")),
        (.string (ascii "body"), .string [0, 63])])
      (ascii "PUT") (ascii "/a?b=1") (ascii "HTTP/1.1") [ascii "X-A: 1", ascii "X-B: 2"]
      (some [0, 63]) := {
    hasMethod := rfl
    nonempty := by decide
    methodWord := ⟨by decide, by decide, by decide⟩
    hasPath := rfl
    pathWord := ⟨by decide, by decide, by decide⟩
    hasVersion := rfl
    versionClean := by decide +kernel
    hasHeaders := .string (ascii "X-A: 1") [ascii "X-B: 2"]
    areLines := by
      simp only [List.forall_mem_cons]
      exact ⟨⟨⟨by decide, by decide, by decide⟩, by decide⟩,
        ⟨⟨by decide, by decide, by decide⟩, by decide⟩, by simp⟩
    unsized := by
      simp only [List.forall_mem_cons]
      refine ⟨fun colon found => ?_, fun colon found => ?_, by simp⟩ <;>
        obtain rfl := Option.some.inj ((by decide : _ = some 3).symm.trans found) <;> decide
    hasBody := rfl
    bounded := by simp }
  obtain ⟨bytes, built, reads⟩ := requestBuilder_luaRequest
    (show ∀ b ∈ ascii "h:80", b ≠ 13 ∧ b ≠ 10 ∧ b ≠ 0 by decide +kernel) table
  obtain rfl : ascii "PUT /a?b=1 HTTP/1.1\r\nHost: h:80\r\nX-A: 1\r\nX-B: 2\r\nContent-Length: 2\r\n\r\n\x00?" =
      bytes := Except.ok.inj (Eq.trans (by decide) built)
  obtain ⟨request, read, -, -, -, headers, body⟩ := reads (by decide)
    [ascii "PUT /a?b=1 HTTP/1.1\r\nHo",
      ascii "st: h:80\r\nX-A: 1\r\nX-B: 2\r\nContent-Length: 2\r\n\r", ascii "\n\x00?"]
    (by decide) (by decide)
  exact ⟨request, read, headers, body⟩

/-- A name that holds a colon can turn its line into a length. -/
theorem requestBuilder_luaRequest_colon :
    (∀ b ∈ ascii "Content-Length:x", b ≠ 13 ∧ b ≠ 10 ∧ b ≠ 0) ∧
    lowerAscii (ascii "Content-Length:x") ≠ ascii "content-length" ∧
    ∃ bytes, requestBuilder .whole (ascii "h:80")
      (.table [(.string (ascii "method"), .string (ascii "PUT")),
        (.string (ascii "path"), .string (ascii "/")),
        (.string (ascii "version"), .string (ascii "HTTP/1.1")),
        (.string (ascii "headers"), .table [(.string (ascii "Content-Length:x"), .string (ascii "1"))]),
        (.string (ascii "body"), .string (ascii "abc"))]) = .ok bytes ∧
      (luaRequest { receives := [bytes] }).1 =
        .raised (ascii "Invalid or oversized HTTP Content-Length") := by
  refine ⟨by decide +kernel, by decide +kernel, ascii "PUT / HTTP/1.1\r\nHost: h:80\r\nContent-Length:x: 1\r\nContent-Length: 3\r\n\r\nabc",
    by decide +kernel, by decide +kernel⟩

end LuaXENetwork
