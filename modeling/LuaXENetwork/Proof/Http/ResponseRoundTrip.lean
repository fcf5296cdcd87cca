import LuaXENetwork.Proof.Http.HeaderLines
import LuaXENetwork.Proof.Http.Framing

namespace LuaXENetwork
open Library

/-! ## Header lines -/

/-- A header field whose line is read back as the field. -/
structure PlainField (field : Bytes × Bytes) : Prop where
  name : ∀ b ∈ field.1, b ≠ 58 ∧ b ≠ 13 ∧ b ≠ 10 ∧ b ≠ 0
  nameUnpadded : Unpadded field.1
  value : ∀ b ∈ field.2, b ≠ 13 ∧ b ≠ 10 ∧ b ≠ 0
  valueUnpadded : Unpadded field.2

theorem PlainField.isLine {field : Bytes × Bytes} (plain : PlainField field) :
    IsLine (fieldLine field) where
  nonempty := by simp [fieldLine, ascii]
  noReturn := by
    simp only [fieldLine, List.mem_append, not_or]
    exact ⟨⟨fun member => (plain.name _ member).2.1 rfl, by decide⟩,
      fun member => (plain.value _ member).1 rfl⟩
  noFeed := by
    simp only [fieldLine, List.mem_append, not_or]
    exact ⟨⟨fun member => (plain.name _ member).2.2.1 rfl, by decide⟩,
      fun member => (plain.value _ member).2.1 rfl⟩

theorem PlainField.isField {field : Bytes × Bytes} (plain : PlainField field) : IsField field where
  name b member := ⟨(plain.name b member).1, (plain.name b member).2.1, (plain.name b member).2.2.1⟩
  nameUnpadded := plain.nameUnpadded
  value b member := ⟨(plain.value b member).1, (plain.value b member).2.1⟩
  valueUnpadded := plain.valueUnpadded

/-! ## The head of a printed response -/

def printedHead (version : Bytes) (status : Nat) (reason : Bytes) (fields : HeaderList) :
    HttpResponse where
  rawHeaders := statusLine version status reason ++ brokenLines (fields.map fieldLine)
  version := version
  reason := reason
  headers := fields.map fun field => (lowerAscii field.1, field.2)
  status := status

theorem parseResponseHeaders_printed {version reason : Bytes} {status : Nat} {fields : HeaderList}
    (http : ascii "HTTP/" <+: version) (solid : ∀ b ∈ version, isSpace b = false)
    (range : 100 ≤ status ∧ status ≤ 999) (clean : ∀ b ∈ reason, b ≠ 13 ∧ b ≠ 10)
    (unpadded : Unpadded reason) (plain : ∀ field ∈ fields, PlainField field) :
    parseResponseHeaders (statusLine version status reason ++ brokenLines (fields.map fieldLine))
      {} = .ok (printedHead version status reason fields) := by
  have read : (fields.map fieldLine).filterMap parseHeaderLine =
      fields.map fun field => (lowerAscii field.1, field.2) := by
    rw [List.filterMap_map, ← List.filterMap_eq_map]
    exact List.filterMap_congr fun field member => (plain field member).isField.parse
  rw [printedHead, ← read]
  refine parseResponseHeaders_lines ⟨http, solid, range, clean, unpadded⟩ _ ?_
  rw [List.forall_mem_map]
  exact fun field member => (plain field member).isField.unbroken

/-! ## From the table to the response -/

/-- A response table without anything that the status line, the header lines or the framing would
give another meaning. -/
structure ResponseTable (lua : LuaLibrary) (value : LuaValue) (version : Bytes) (status : Int)
    (reason : Bytes) (fields : HeaderList) (body : Bytes) : Prop where
  hasVersion : value.getField "version" = .string version
  http : ascii "HTTP/" <+: version
  solid : ∀ b ∈ version, isSpace b = false ∧ b ≠ 0
  isNumber : (value.getField "status").isNumber lua = true
  hasStatus : (value.getField "status").toInteger lua = status
  range : 100 ≤ status ∧ status ≤ 999
  framed : status ≠ 204 ∧ status ≠ 304
  hasReason : value.getField "reason" = .string reason
  clean : ∀ b ∈ reason, b ≠ 13 ∧ b ≠ 10 ∧ b ≠ 0
  unpadded : Unpadded reason
  hasHeaders : ∃ entries, value.getField "headers" = .table entries ∧ Writes lua entries fields
  plain : ∀ field ∈ fields, PlainField field
  unframing : ∀ field ∈ fields, lowerAscii field.1 ≠ ascii "content-length" ∧
    lowerAscii field.1 ≠ ascii "transfer-encoding"
  hasBody : value.getField "body" = .string body

section Table

variable {lua : LuaLibrary} {value : LuaValue} {version reason body : Bytes} {status : Int}
  {fields : HeaderList}

/-- The header block that `ResponseBuilder` prints. -/
def printedHeader (version : Bytes) (status : Int) (reason : Bytes) (fields : HeaderList)
    (body : Bytes) : Bytes :=
  statusLine version status.natAbs reason ++
    brokenLines ((fields ++ [lengthField body]).map fieldLine)

theorem responseBuilder_prints (table : ResponseTable lua value version status reason fields body) :
    responseBuilder lua value =
      .ok (printedHeader version status reason fields body ++ headerEnd ++ body) := by
  obtain ⟨entries, isTable, writes⟩ := table.hasHeaders
  have written := headerLines_writes entries writes fun field member =>
    ⟨fun nul => ((table.plain field member).name _ nul).2.2.2 rfl,
      fun nul => ((table.plain field member).value _ nul).2.2 rfl⟩
  have version' : cString version = version := cString_clean fun nul => (table.solid _ nul).2 rfl
  have reason' : cString reason = reason := cString_clean fun nul => (table.clean _ nul).2.2 rfl
  have status' : toText status = decimal status.natAbs := by
    rw [toText, if_neg (by have := table.range; omega)]
  cases value with
  | table _ =>
      simp only [responseBuilder, table.hasVersion, table.isNumber, table.hasStatus, table.hasReason,
        isTable, table.hasBody, if_true, written, ok_bind, bodyPart_string, version', reason', status']
      refine congrArg Except.ok ?_
      simp only [printedHeader, statusLine, List.map_append, List.map_singleton, brokenLines_append,
        brokenLines_cons, fieldLine, lengthField, List.append_assoc, List.cons_append,
        show ascii " " = [32] from rfl, crlf_append_lines]
      rfl
  | _ => cases table.hasVersion

theorem plainField_lengthField (body : Bytes) : PlainField (lengthField body) where
  name := show ∀ b ∈ ascii "Content-Length", b ≠ 58 ∧ b ≠ 13 ∧ b ≠ 10 ∧ b ≠ 0 by decide +kernel
  nameUnpadded := ⟨show ∀ b ∈ (ascii "Content-Length").head?, isBlank b = false by decide +kernel,
    show ∀ b ∈ (ascii "Content-Length").getLast?, isBlank b = false by decide +kernel⟩
  value b member := by
    obtain ⟨-, -, noNul, noFeed, noReturn, -, -⟩ := decimal_letter member
    exact ⟨noReturn, noFeed, noNul⟩
  valueUnpadded := ⟨fun b first => (decimal_letter (List.mem_of_mem_head? first)).2.1,
    fun b last => (decimal_letter (List.mem_of_mem_getLast? last)).2.1⟩

theorem responseHeader_append {version reason : Bytes} {status : Nat} {name : Bytes}
    (others : ∀ field ∈ fields, lowerAscii field.1 ≠ name) (more : HeaderList) :
    responseHeader (printedHead version status reason (fields ++ more)) name =
      responseHeader (printedHead version status reason more) name := by
  have none : (fields.map fun field => (lowerAscii field.1, field.2)).find? (·.1 == name) = none := by
    simpa using fun a b member => others (a, b) member
  simp only [responseHeader, printedHead, List.map_append, List.find?_append, none, Option.none_or]

theorem lengthFramed_printed (table : ResponseTable lua value version status reason fields body)
    (small : body.length < 2 ^ 64) :
    LengthFramed false (printedHeader version status reason fields body)
      (printedHead version status.natAbs reason (fields ++ [lengthField body])) body.length where
  parsed := by
    refine parseResponseHeaders_printed table.http (fun b member => (table.solid b member).1)
      (by have := table.range; omega) (fun b member => ?_) table.unpadded ?_
    · exact ⟨(table.clean b member).1, (table.clean b member).2.1⟩
    · simp only [List.forall_mem_append, List.forall_mem_singleton]
      exact ⟨table.plain, plainField_lengthField body⟩
  framed := by
    obtain ⟨noContent, notModified⟩ := table.framed
    have range := table.range
    simp only [bodyless, printedHead, Bool.false_or, Bool.or_eq_false_iff, beq_eq_false_iff_ne]
    omega
  unchunked := by
    rw [responseChunked, responseHeader_append fun field member => (table.unframing field member).2]
    rfl
  length := by
    have read : responseHeader (printedHead version status.natAbs reason [lengthField body])
        (ascii "content-length") = decimal body.length := rfl
    rw [responseContentLength, responseHeader_append
      fun field member => (table.unframing field member).1]
    simp only [read, if_neg (decimal_ne_nil _), stoull_decimal small, ok_bind]
    rfl

/-- A response table comes back from its bytes as it was given, however they were cut. -/
theorem responseBuilder_resolveHttpRequest
    (table : ResponseTable lua value version status reason fields body) :
    ∃ bytes, responseBuilder lua value = .ok bytes ∧
      ∀ (platform : Platform) (exchange : Exchange) (host : WString) (port : Int) (request : Bytes)
        (options : HttpRequestOptions),
        options.maxResponseBytes < 2 ^ 63 → body.length ≤ options.maxResponseBytes →
        bytes.length - body.length + options.bufferSize ≤ 1024 * 1024 →
        isHeadRequest request = false → Undisturbed exchange host port request options →
        peerStream exchange.rounds = bytes →
        ∃ response, resolveHttpRequest platform exchange host port request options =
            .returned response ∧
          response.version = version ∧ response.status = status ∧ response.reason = reason ∧
          response.headers = (fields.map fun field => (lowerAscii field.1, field.2)) ++
            [(ascii "content-length", decimal body.length)] ∧
          response.body = body := by
  refine ⟨_, responseBuilder_prints table, ?_⟩
  intro platform exchange host port request options limit small room method undisturbed sent
  have frame := lengthFramed_printed table (by omega)
  rw [← method] at frame
  have noReturn : (13 : UInt8) ∉ statusLine version status.natAbs reason :=
    notMem_statusLine (fun member => nomatch (table.solid _ member).1)
      (fun member => (table.clean _ member).1 rfl)
      (fun member => (decimal_letter member).2.2.2.2.1 rfl) (by decide)
  have lines : ∀ line ∈ (fields ++ [lengthField body]).map fieldLine, IsLine line := by
    simp only [List.forall_mem_map, List.forall_mem_append, List.forall_mem_singleton]
    exact ⟨fun field member => (table.plain field member).isLine, (plainField_lengthField body).isLine⟩
  have first := find_headerEnd_brokenLines noReturn _ lines body
  have room' : (printedHeader version status reason fields body).length + 4 + options.bufferSize ≤
      1024 * 1024 := by
    simp only [List.length_append, headerEnd, List.length_cons, List.length_nil] at room
    omega
  rw [← printedHeader, ← sent] at first
  obtain ⟨response, returned⟩ := resolveHttpRequest_returns platform limit frame small room' sent
    first le_rfl undisturbed
  obtain ⟨header, rest, is⟩ := resolveHttpRequest_returned limit returned
  obtain ⟨head, body'⟩ := is.lengthFramed frame sent first
  have range := table.range
  refine ⟨response, returned, congrArg HttpResponse.version head, ?_,
    congrArg HttpResponse.reason head, ?_, by rw [body', List.take_length]⟩
  · rw [show response.status = status.natAbs from congrArg HttpResponse.status head]
    omega
  · rw [show response.headers = response.head.headers from rfl, head]
    simp only [printedHead, List.map_append]
    rfl

end Table

theorem responseBuilder_resolveHttpRequest_nul :
    ∃ response, resolveHttpRequest .blank
      (plainExchange (ascii "GET / HTTP/1.1\r\n\r\n") [
        ascii "HTTP/1.0 299 Odd\r\nX-A: 1\r\nContent-Le", ascii "ngth: 3\r\n\r\na\x00", ascii "b"])
      [] 80 (ascii "GET / HTTP/1.1\r\n\r\n") {} = .returned response ∧
      response.headers = [(ascii "x-a", ascii "1"), (ascii "content-length", ascii "3")] ∧
      response.body = [97, 0, 98] := by
  have table : ResponseTable .whole
      (.table [(.string (ascii "version"), .string (ascii "HTTP/1.0")),
        (.string (ascii "status"), .number (.finite 299)),
        (.string (ascii "reason"), .string (ascii "Odd")),
        (.string (ascii "headers"), .table [(.string (ascii "X-A"), .string (ascii "1"))]),
        (.string (ascii "body"), .string [97, 0, 98])])
      (ascii "HTTP/1.0") 299 (ascii "Odd") [(ascii "X-A", ascii "1")] [97, 0, 98] := {
    hasVersion := rfl
    http := by decide
    solid := by decide +kernel
    isNumber := rfl
    hasStatus := by decide
    range := by decide
    framed := by decide
    hasReason := rfl
    clean := by decide +kernel
    unpadded := ⟨by decide +kernel, by decide +kernel⟩
    hasHeaders := ⟨_, rfl, .cons ⟨rfl, rfl⟩ .nil⟩
    plain := by
      rw [List.forall_mem_singleton]
      exact ⟨by decide +kernel, ⟨by decide +kernel, by decide +kernel⟩, by decide +kernel, ⟨by decide +kernel, by decide +kernel⟩⟩
    unframing := by decide
    hasBody := rfl }
  obtain ⟨bytes, built, arrives⟩ := responseBuilder_resolveHttpRequest table
  obtain rfl : ascii "HTTP/1.0 299 Odd\r\nX-A: 1\r\nContent-Length: 3\r\n\r\na\x00b" = bytes :=
    Except.ok.inj (Eq.trans (by decide) built)
  obtain ⟨response, returned, -, -, -, headers, body⟩ := arrives .blank
    (plainExchange (ascii "GET / HTTP/1.1\r\n\r\n") [
      ascii "HTTP/1.0 299 Odd\r\nX-A: 1\r\nContent-Le", ascii "ngth: 3\r\n\r\na\x00", ascii "b"])
    [] 80 _ {} (by decide) (by decide) (by decide) (by decide) (undisturbed_plain [] 80 _ (by decide))
    (by decide)
  exact ⟨response, returned, headers, body⟩

end LuaXENetwork
