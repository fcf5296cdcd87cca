import LuaXENetwork.Proof.Http.HeaderPhase
import LuaXENetwork.Proof.Numeral

/-! The length that a response announces, and the length that the call reads. -/

namespace LuaXENetwork
open Library

/-- The values of a field, first line first. -/
def fieldValues (headers : HeaderList) (name : Bytes) : List Bytes :=
  (headers.filter (·.1 == name)).map (·.2)

theorem responseHeader_eq (response : HttpResponse) (name : Bytes) :
    responseHeader response name = (fieldValues response.headers name).head?.getD [] := by
  rw [responseHeader, fieldValues, List.head?_map, List.head?_filter]
  cases response.headers.find? (·.1 == name) <;> rfl

/-- The lines of a response header block after its status line. -/
def headerBlockLines (block : Bytes) : List Bytes :=
  cursorLines (match find crlf block with
    | none => []
    | some finish => block.drop (finish + 2))

theorem headers_of_parsed {block : Bytes} {head : HttpResponse}
    (parsed : parseResponseHeaders block {} = .ok head) :
    head.headers = (headerBlockLines block).filterMap parseHeaderLine := by
  unfold parseResponseHeaders at parsed
  simp only at parsed
  split_ifs at parsed
  obtain rfl := Except.ok.inj parsed
  rfl

/-! ## Decimal values -/

def Decimal (text : Bytes) : Prop := text ≠ [] ∧ ∀ b ∈ text, isDigit 10 b = true

/-- The values of all fields among the lines whose trimmed name is Content-Length in any case. -/
def contentLengths (lines : List Bytes) : List Bytes :=
  fieldValues (lines.filterMap parseHeaderLine) (ascii "content-length")

/-- Every Content-Length among the lines is this number, in decimal digits only. -/
def Declares (lines : List Bytes) (n : Nat) : Prop :=
  ∀ value ∈ contentLengths lines, Decimal value ∧ fromDigits 10 value = n

theorem Decimal.parts {text : Bytes} (decimal : Decimal text) :
    NumeralParts 10 text [] [] [] text [] where
  split := by simp
  blanks := by simp
  signs := .inl rfl
  marks := .inl rfl
  figures := decimal.2
  nonempty := decimal.1
  stops := by simp
  unmarked := by omega

theorem stoull_of_decimal {text : Bytes} (decimal : Decimal text) {value used : Nat}
    (read : stoull 10 text = .ok (value, used)) : value = fromDigits 10 text := by
  have clean : cString text = text := cString_clean decimal.parts.clean
  have parts : NumeralParts 10 (cString text) [] [] [] text [] := by
    rw [clean]
    exact decimal.parts
  by_cases small : fromDigits 10 text < 2 ^ 64
  · rw [stoull_parts parts small] at read
    exact (Prod.mk.inj (Except.ok.inj read)).1.symm
  · rw [stoull, readNumeral_parts parts] at read
    simp only at read
    rw [if_pos (by omega)] at read
    contradiction

theorem responseContentLength_cases {head : HttpResponse} {length : Option Nat}
    (announced : responseContentLength head = .ok length) :
    (length = none ∧ (fieldValues head.headers (ascii "content-length")).head?.getD [] = []) ∨
    ∃ value later n used, fieldValues head.headers (ascii "content-length") = value :: later ∧
      stoull 10 value = .ok (n, used) ∧ length = some n := by
  unfold responseContentLength at announced
  rw [responseHeader_eq] at announced
  simp only at announced
  split_ifs at announced with empty
  · exact .inl ⟨(Except.ok.inj announced).symm, empty⟩
  · right
    cases values : fieldValues head.headers (ascii "content-length") with
    | nil =>
        rw [values] at empty
        exact absurd rfl empty
    | cons value later =>
        simp only [values, List.head?_cons, Option.getD_some, bind_eq_ok, pure_eq_ok,
          Prod.exists] at announced
        obtain ⟨n, used, read, rfl⟩ := announced
        exact ⟨value, later, n, used, rfl, read, rfl⟩

section Head

variable {header : Bytes} {head : HttpResponse} (parsed : parseResponseHeaders header {} = .ok head)
include parsed

theorem contentLengths_of_parsed :
    fieldValues head.headers (ascii "content-length") = contentLengths (headerBlockLines header) := by
  rw [headers_of_parsed parsed, contentLengths]

theorem declares_read {n m : Nat} (announced : responseContentLength head = .ok (some n))
    (declares : Declares (headerBlockLines header) m) : m = n := by
  rcases responseContentLength_cases announced with ⟨none, -⟩ | ⟨value, later, n', used, values, read, same⟩
  · contradiction
  · obtain rfl := Option.some.inj same
    rw [contentLengths_of_parsed parsed] at values
    obtain ⟨decimal, denotes⟩ := declares value (by rw [values]; simp)
    rw [← denotes, stoull_of_decimal decimal read]

theorem declares_none {m : Nat} (announced : responseContentLength head = .ok none)
    (declares : Declares (headerBlockLines header) m) (n : Nat) :
    Declares (headerBlockLines header) n := by
  rcases responseContentLength_cases announced with ⟨-, first⟩ | ⟨value, later, n', used, values, read, same⟩
  · rw [contentLengths_of_parsed parsed] at first
    cases values : contentLengths (headerBlockLines header) with
    | nil =>
        intro value member
        rw [values] at member
        contradiction
    | cons value later =>
        rw [values] at first
        obtain rfl : value = [] := first
        exact absurd rfl (declares [] (by rw [values]; simp)).1.1
  · contradiction

end Head

/-! ## A peer that sends byte by byte -/

def byteRounds (stream : Bytes) : List Round := stream.map fun b => { received := .data [b] }

/-- The peer sends the stream in pieces of one byte and closes. -/
def byteExchange (request stream : Bytes) : Exchange where
  dial _ := none
  sent := some request.length
  rounds := byteRounds stream ++ [{ received := .data [] }]

theorem peerStream_byteRounds (stream : Bytes) (rounds : List Round) :
    peerStream (byteRounds stream ++ rounds) = stream ++ peerStream rounds := by
  induction stream with
  | nil => rfl
  | cons b stream ih =>
      rw [byteRounds, List.map_cons, List.cons_append, peerStream_data rfl (by simp), ← byteRounds, ih]
      rfl

theorem peerStream_bytes (stream : Bytes) : peerStream (byteRounds stream) = stream := by
  rw [← List.append_nil (byteRounds stream), peerStream_byteRounds]
  exact List.append_nil stream

theorem peerStream_byteExchange (request stream : Bytes) :
    peerStream (byteExchange request stream).rounds = stream := by
  rw [byteExchange, peerStream_byteRounds]
  exact List.append_nil stream

theorem boundedTimeout_start (options : HttpRequestOptions) (configured : Int) :
    ∃ timeout, boundedTimeout options configured 0 = .ok timeout := by
  unfold boundedTimeout
  split_ifs with unlimited
  · exact ⟨_, rfl⟩
  · omega
  · exact ⟨_, rfl⟩

theorem quiet_bare (options : HttpRequestOptions) (received : Received) :
    Quiet options { received := received } where
  cancel := trivial
  headers := trivial
  chunks := by simp
  onTime := boundedTimeout_start options _

theorem byteExchange_round {request stream : Bytes} {round : Round}
    (member : round ∈ (byteExchange request stream).rounds) :
    ∃ bytes : Bytes, round = { received := .data bytes } ∧ bytes.length ≤ 1 := by
  simp only [byteExchange, byteRounds, List.mem_append, List.mem_map, List.mem_singleton] at member
  rcases member with ⟨b, -, rfl⟩ | rfl
  · exact ⟨[b], rfl, le_rfl⟩
  · exact ⟨[], rfl, Nat.zero_le _⟩

section Byte

variable {options : HttpRequestOptions} {platform : Platform} {host : WString} {port : Int}
  {request header : Bytes} {head : HttpResponse}

theorem resolveHttpRequest_byteExchange (stream : Bytes) :
    resolveHttpRequest platform (byteExchange request stream) host port request options =
      receiveLoop options platform (options.useSsl port) (isHeadRequest request) 0
        (Transfer.start options) (byteExchange request stream).rounds :=
  resolveHttpRequest_sent rfl (boundedTimeout_start options _) rfl

theorem resolveHttpRequest_bytes (platform : Platform) (host : WString) (port : Int) {n : Nat} (limit : options.maxResponseBytes < 2 ^ 63)
    (frame : LengthFramed (isHeadRequest request) header head n)
    (small : n ≤ options.maxResponseBytes) (room : header.length + 4 ≤ 1024 * 1024)
    (alone : find headerEnd (header ++ headerEnd) = some header.length) :
    ∃ response, resolveHttpRequest platform
      (byteExchange request (header ++ headerEnd ++ List.replicate n 0)) host port request options =
        .returned response := by
  rw [resolveHttpRequest_byteExchange]
  apply receiveLoop_returns frame small limit (show header.length + 3 + 1 ≤ 1024 * 1024 by omega) rfl (find_append alone _)
    (show n ≤ (List.replicate n (0 : UInt8)).length by rw [List.length_replicate])
    (byteExchange request (header ++ headerEnd ++ List.replicate n 0)).rounds
  · intro round member
    obtain ⟨bytes, rfl, -⟩ := byteExchange_round member
    exact quiet_bare options _
  · intro round member bytes received
    obtain ⟨bytes', rfl, short⟩ := byteExchange_round member
    obtain rfl := Received.data.inj received
    exact short
  · exact reached_start options _
  · simp [Transfer.start, Complete]
  · rw [peerStream_byteExchange]
    rfl

theorem receiveData_opening_body {headRequest : Bool} {round : Round} {stream incoming rest : Bytes}
    {received : Nat} {calls : List CalledBack} {t : Transfer} (running : t.finished = false)
    (opened : receiveHeaders options headRequest round.headers incoming
      (.opening options stream received calls) = .ok (some rest, t)) :
    receiveData options headRequest round incoming (.opening options stream received calls) =
      receiveBody options round.chunks rest t := by
  unfold receiveData
  rw [if_neg (by simp [Transfer.opening, Transfer.start]), opened]
  simp only [ok_bind, running, Bool.false_eq_true, if_false]

theorem receiveLoop_close {secure headRequest : Bool} {finishedMs : Int} {t : Transfer}
    (got : t.gotHeaders = true) (running : t.finished = false) (unchunked : t.chunked = false)
    (announced : t.contentLength = none) :
    ∃ response, receiveLoop options platform secure headRequest finishedMs t
      [{ received := .data [] }] = .returned response := by
  obtain ⟨timeout, onTime⟩ := boundedTimeout_start options options.receiveTimeoutMs
  obtain ⟨calls, asked⟩ := requestCancelled_quiet options
    (quiet_bare options (.data [])).cancel t
  have one : receiveRound options platform secure headRequest { received := .data [] } t =
      .ok { t with finished := true, calls := calls } := by
    unfold receiveRound
    simp only [asked, ok_bind, Bool.false_eq_true, if_false, onTime, throwingAt, if_true]
    rfl
  rw [receiveLoop, if_neg (by simp [running]), one]
  simp [receiveLoop, conclude, got, unchunked, announced]

theorem completing_headerBytes (alone : find headerEnd (header ++ headerEnd) = some header.length)
    (after : List Round) :
    CompletingReceive [] header.length (byteRounds (header ++ headerEnd) ++ after)
      (byteRounds (header ++ [13, 10, 13])) { received := .data [10] } [10] after where
  split := by simp [byteRounds, headerEnd]
  received := rfl
  nonempty := by simp
  sofar := by
    rw [peerStream_byteRounds, peerStream_bytes]
    rfl
  absent := by
    rw [List.nil_append, peerStream_bytes]
    cases early : find headerEnd (header ++ [13, 10, 13]) with
    | none => rfl
    | some position =>
        have still := find_append early [10]
        rw [show header ++ [13, 10, 13] ++ [10] = header ++ headerEnd by simp [headerEnd], alone] at still
        obtain rfl := Option.some.inj still
        have inside := add_length_le_of_find early
        simp [headerEnd] at inside
  found := by
    rw [List.nil_append, peerStream_bytes]
    simpa [headerEnd] using alone

/-- Once the header block has come in, byte by byte, the loop goes on to the body. -/
theorem receiveLoop_headerBytes (platform : Platform) (secure : Bool) (finishedMs : Int)
    {length : Option Nat}
    (parsed : parseResponseHeaders header {} = .ok head)
    (framed : bodyless (isHeadRequest request) head = false)
    (announced : responseContentLength head = .ok length)
    (fits : length.getD 0 ≤ options.maxResponseBytes) (room : header.length + 4 ≤ 1024 * 1024)
    (alone : find headerEnd (header ++ headerEnd) = some header.length) {after : List Round}
    (quiet : ∀ round ∈ after, Quiet options round) :
    ∃ received calls, receiveLoop options platform secure (isHeadRequest request) finishedMs
        (Transfer.start options) (byteRounds (header ++ headerEnd) ++ after) =
      match receiveBody options [] []
        (.opened options (isHeadRequest request) head length received calls) with
      | .error thrown => .threw thrown
      | .ok t => receiveLoop options platform secure (isHeadRequest request) finishedMs t after := by
  have completes := completing_headerBytes alone after
  have quiet' : ∀ round ∈ byteRounds (header ++ headerEnd) ++ after, Quiet options round := by
    intro round member
    rw [List.mem_append, byteRounds, List.mem_map] at member
    rcases member with ⟨b, -, rfl⟩ | member
    · exact quiet_bare options _
    · exact quiet round member
  obtain ⟨received, calls, run⟩ := receiveLoop_completing platform secure (isHeadRequest request)
    finishedMs completes room (completes.reach quiet')
  have sofar : peerStream (byteRounds (header ++ [13, 10, 13])) ++ [10] = header ++ headerEnd := by
    rw [peerStream_bytes]
    simp [headerEnd]
  have found : find headerEnd (peerStream (byteRounds (header ++ [13, 10, 13])) ++ [10]) =
      some header.length := by rw [sofar, alone]
  have front : (peerStream (byteRounds (header ++ [13, 10, 13])) ++ [10]).take header.length = header := by
    rw [sofar, List.take_left]
  have short : (peerStream (byteRounds (header ++ [13, 10, 13])) ++ [10]).length ≤ 1024 * 1024 := by
    rw [sofar, List.length_append]
    exact room
  have rest : (peerStream (byteRounds (header ++ [13, 10, 13])) ++ [10]).drop (header.length + 4) =
      [] := by
    rw [sofar, List.drop_eq_nil_iff, List.length_append]
    exact le_rfl
  rcases receiveHeaders_found options (isHeadRequest request)
      (quiet_bare options (.data [10])).headers short found (by rw [front]; exact parsed) received
      calls with
    ⟨length', calls', announced', fits', opened⟩ | ⟨-, refused⟩
  · obtain rfl := Except.ok.inj (announced.symm.trans announced')
    rw [rest] at opened
    have body := receiveData_opening_body framed opened
    exact ⟨received, calls', run.trans (body ▸ rfl)⟩
  · exact absurd ⟨length, announced, fits⟩ refused

/-- Without a length the body ends where the peer closes, here at once. -/
theorem resolveHttpRequest_closes (platform : Platform) (host : WString) (port : Int)
    (options : HttpRequestOptions) (parsed : parseResponseHeaders header {} = .ok head)
    (framed : bodyless (isHeadRequest request) head = false) (unchunked : responseChunked head = false)
    (announced : responseContentLength head = .ok none) (room : header.length + 4 ≤ 1024 * 1024)
    (alone : find headerEnd (header ++ headerEnd) = some header.length) :
    ∃ response, resolveHttpRequest platform (byteExchange request (header ++ headerEnd)) host port
      request options = .returned response := by
  have calm : ∀ round ∈ [({ received := .data [] } : Round)], Quiet options round := by
    simp only [List.mem_singleton, forall_eq]
    exact quiet_bare options _
  obtain ⟨received, calls, run⟩ := receiveLoop_headerBytes platform (options.useSsl port) 0 parsed framed
    announced (Nat.zero_le _) room alone calm
  have empty : head.body = [] := parseResponseHeaders_body parsed
  have fits : (Transfer.opened options (isHeadRequest request) head none received
      calls).response.body.length + ([] : Bytes).length ≤ options.maxResponseBytes := by
    simp [Transfer.opened, empty]
  obtain ⟨calls', appended⟩ := appendChunks_quiet (List.forall_mem_nil _) fits
  have body : receiveBody options [] [] (.opened options (isHeadRequest request) head none received
      calls) = appendChunks options [[]] [] (.opened options (isHeadRequest request) head none
        received calls) := by
    rw [receiveBody, if_neg]
    · rfl
    · show ¬ responseChunked head = true
      simp [unchunked]
  rw [resolveHttpRequest_byteExchange, byteExchange, run, body, appended]
  exact receiveLoop_close rfl framed unchunked rfl

end Byte

/-! ## Responses framed by their length -/

/-- A header block of at most 1 MiB after which neither the status nor the transfer coding frames
the body. -/
structure LengthHead (request header : Bytes) (head : HttpResponse) : Prop where
  parsed : parseResponseHeaders header {} = .ok head
  framed : bodyless (isHeadRequest request) head = false
  unchunked : responseChunked head = false
  room : header.length + 4 ≤ 1024 * 1024
  alone : find headerEnd (header ++ headerEnd) = some header.length

/-- Whatever follows the header block and however it arrives: a response that the call returns
declares the length of the body returned. -/
def ResponsesDeclare (options : HttpRequestOptions) (request header : Bytes) : Prop :=
  ∀ platform exchange host port rest response,
    peerStream exchange.rounds = header ++ headerEnd ++ rest →
    find headerEnd (peerStream exchange.rounds) = some header.length →
    resolveHttpRequest platform exchange host port request options = .returned response →
    Declares (headerBlockLines header) response.body.length

theorem ResponseOf.header_eq {maximum : Nat} {headRequest closed : Bool}
    {stream header header' rest rest' : Bytes} {response : HttpResponse}
    (is : ResponseOf maximum headRequest closed stream response header' rest')
    (split : stream = header ++ headerEnd ++ rest) (first : find headerEnd stream = some header.length) :
    header' = header := by
  have size : header'.length = header.length := Option.some.inj (is.first.symm.trans first)
  have both := is.split.symm.trans split
  rw [List.append_assoc, List.append_assoc] at both
  exact (List.append_inj both size).1

theorem responsesDeclare_iff {options : HttpRequestOptions} (limit : options.maxResponseBytes < 2 ^ 63)
    {request header : Bytes} {head : HttpResponse} (is : LengthHead request header head) :
    ResponsesDeclare options request header ↔
      (∃ n, Declares (headerBlockLines header) n) ∨ ¬ LengthAdmitted options head := by
  constructor
  · intro declare
    by_cases admitted : LengthAdmitted options head
    · left
      obtain ⟨length, announced, fits⟩ := admitted
      cases length with
      | none =>
          obtain ⟨response, returned⟩ := resolveHttpRequest_closes .blank [] 80 options is.parsed
            is.framed is.unchunked announced is.room is.alone
          refine ⟨_, declare .blank _ [] 80 [] response ?_ ?_ returned⟩
          · rw [peerStream_byteExchange, List.append_nil]
          · rw [peerStream_byteExchange, is.alone]
      | some n =>
          obtain ⟨response, returned⟩ := resolveHttpRequest_bytes .blank [] 80 limit
            ⟨is.parsed, is.framed, is.unchunked, announced⟩ fits is.room is.alone
          refine ⟨_, declare .blank _ [] 80 (List.replicate n 0) response ?_ ?_ returned⟩
          · rw [peerStream_byteExchange]
          · rw [peerStream_byteExchange, find_append is.alone]
    · exact .inr admitted
  · intro exactly platform exchange host port rest response split first returned
    obtain ⟨header', rest', of⟩ := resolveHttpRequest_returned limit returned
    obtain rfl := of.header_eq split first
    have same := Except.ok.inj (of.head.symm.trans is.parsed)
    have within := resolveHttpRequest_within platform exchange host port request options
    rw [returned] at within
    have body := of.body
    unfold BodyOf at body
    rw [← same] at exactly is
    rw [show bodyless (isHeadRequest request) response = false from is.framed,
      show responseChunked response = false from is.unchunked, if_neg (by simp), if_neg (by simp)] at body
    obtain ⟨length, announced, ends⟩ := body
    have announced' : responseContentLength response.head = .ok length := announced
    cases length with
    | none =>
        rcases exactly with ⟨m, declares⟩ | refused
        · exact declares_none is.parsed announced' declares _
        · exact absurd ⟨none, announced', Nat.zero_le _⟩ refused
    | some n =>
        have size : response.body.length = n := by
          rw [ends.2, List.length_take_of_le ends.1]
        rcases exactly with ⟨m, declares⟩ | refused
        · rw [size, ← declares_read is.parsed announced' declares]
          exact declares
        · refine absurd ⟨some n, announced', ?_⟩ refused
          rw [Option.getD_some, ← size]
          exact within

end LuaXENetwork
