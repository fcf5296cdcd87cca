import LuaXENetwork.Proof.Http.ContentLength
import LuaXENetwork.Proof.Http.Callbacks

/-! The transfer codings that a response names, and when its body is decoded as chunked. -/

namespace LuaXENetwork
open Library

/-! ## What the header fields say -/

/-- The transfer codings over all Transfer-Encoding fields, in order; an empty element names none. -/
def transferCodings (headers : HeaderList) : List Bytes :=
  ((fieldValues headers (ascii "transfer-encoding")).flatMap fun value =>
    (value.splitOn 44).map fun coding => lowerAscii (trimAscii coding)).filter (· ≠ [])

def LastChunked (headers : HeaderList) : Prop :=
  (transferCodings headers).getLast? = some (ascii "chunked")

instance (headers : HeaderList) : Decidable (LastChunked headers) := inferInstanceAs (Decidable (_ = _))

/-- The first Transfer-Encoding field has the word somewhere in it. -/
def FirstMentions (headers : HeaderList) : Prop :=
  ∃ value ∈ (fieldValues headers (ascii "transfer-encoding")).head?, ascii "chunked" <:+: lowerAscii value

theorem responseChunked_iff (head : HttpResponse) :
    responseChunked head = true ↔ FirstMentions head.headers := by
  rw [responseChunked, responseHeader_eq, find_isSome_iff, FirstMentions]
  cases (fieldValues head.headers (ascii "transfer-encoding")).head? with
  | none => simp [lowerAscii, ascii]
  | some value => simp

/-! ## The choice holds to the end of the call -/

section Run

variable {options : HttpRequestOptions} {headRequest : Bool} {t t' : Transfer}

def Transfer.Admitted (options : HttpRequestOptions) (t : Transfer) : Prop :=
  t.contentLength.getD 0 ≤ options.maxResponseBytes

theorem receiveHeaders_admitted {answer : CallbackAnswer} {incoming : Bytes} {body : Option Bytes}
    (admitted : t.Admitted options)
    (opened : receiveHeaders options headRequest answer incoming t = .ok (body, t')) :
    t'.Admitted options := by
  unfold receiveHeaders at opened
  simp only at opened
  split_ifs at opened
  cases found : find headerEnd (t.pendingHeaders ++ incoming) with
  | none =>
      rw [found] at opened
      obtain ⟨-, rfl⟩ := Prod.mk.inj (Except.ok.inj opened)
      exact admitted
  | some separator =>
      simp only [found, bind_eq_ok] at opened
      obtain ⟨response, -, t₁, -, length, -, opened⟩ := opened
      split_ifs at opened with large
      · simp at opened
      · simp only [pure_eq_ok, Prod.mk.injEq] at opened
        obtain ⟨-, rfl⟩ := opened
        exact Nat.le_of_not_lt large

theorem receiveBody_admitted {answers : List CallbackAnswer} {incoming : Bytes}
    (admitted : t.Admitted options) (h : receiveBody options answers incoming t = .ok t') :
    t'.Admitted options := by
  unfold receiveBody at h
  split_ifs at h
  · simp only [bind_eq_ok, pure_eq_ok, Prod.exists] at h
    obtain ⟨chunks, decoder, -, t₁, appended, rfl⟩ := h
    obtain ⟨calls, rfl⟩ := appendChunks_ok appended
    exact admitted
  · split at h
    · simp only [bind_eq_ok, pure_eq_ok] at h
      obtain ⟨t₁, appended, rfl⟩ := h
      obtain ⟨calls, rfl⟩ := appendChunks_ok appended
      exact admitted
    · obtain ⟨calls, rfl⟩ := appendChunks_ok h
      exact admitted

theorem receiveData_admitted {round : Round} {incoming : Bytes} (admitted : t.Admitted options)
    (h : receiveData options headRequest round incoming t = .ok t') : t'.Admitted options := by
  unfold receiveData at h
  by_cases got : t.gotHeaders = true
  · simp only [got, if_true, bind_eq_ok, pure_eq_ok, Prod.mk.injEq, Prod.exists] at h
    obtain ⟨_, _, ⟨rfl, rfl⟩, h⟩ := h
    simp only at h
    split_ifs at h
    · obtain rfl := Except.ok.inj h
      exact admitted
    · exact receiveBody_admitted admitted h
  · rw [if_neg got] at h
    simp only [bind_eq_ok, Prod.exists] at h
    obtain ⟨body, t₁, opened, h⟩ := h
    have still := receiveHeaders_admitted admitted opened
    cases body with
    | none =>
        obtain rfl := pure_eq_ok.mp h
        exact still
    | some rest =>
        simp only at h
        split_ifs at h
        · obtain rfl := pure_eq_ok.mp h
          exact still
        · exact receiveBody_admitted still h

theorem Reached.opening_or_read (reached : Reached options headRequest stream t) :
    (find headerEnd stream = none ∧ ∃ received calls, t = .opening options stream received calls) ∨
      ∃ header rest, HeadersRead stream t header rest := by
  cases reached with
  | headers absent received calls same => exact .inl ⟨absent, received, calls, same⟩
  | bodyless read none empty ended => exact .inr ⟨_, _, read⟩
  | body read framed body => exact .inr ⟨_, _, read⟩

/-- Where a call that has not thrown is left, the header block has been read if it is in the stream. -/
theorem receiveLoopEnd_reached (small : options.maxResponseBytes < 2 ^ 63) {platform : Platform}
    {secure : Bool} {finishedMs : Int} (rounds : List Round) {stream : Bytes}
    (reached : Reached options headRequest stream t) (admitted : t.Admitted options)
    (complete : (find headerEnd (stream ++ peerStream rounds)).isSome = true)
    (runs : ∀ thrown, receiveLoop options platform secure headRequest finishedMs t rounds ≠ .threw thrown) :
    ∃ stream' header rest, stream' <+: stream ++ peerStream rounds ∧
      HeadersRead stream' (receiveLoopEnd options platform secure headRequest t rounds) header rest ∧
      (receiveLoopEnd options platform secure headRequest t rounds).Admitted options := by
  induction rounds generalizing stream t with
  | nil =>
      rw [receiveLoopEnd]
      rw [peerStream, List.append_nil] at complete ⊢
      rcases reached.opening_or_read with ⟨absent, -⟩ | ⟨header, rest, read⟩
      · simp [absent] at complete
      · exact ⟨stream, header, rest, List.prefix_rfl, read, admitted⟩
  | cons round rounds ih =>
      rw [receiveLoopEnd]
      rw [receiveLoop] at runs
      by_cases finished : t.finished = true
      · rw [if_pos finished]
        rcases reached.opening_or_read with ⟨-, received, calls, rfl⟩ | ⟨header, rest, read⟩
        · simp [Transfer.opening, Transfer.start] at finished
        · exact ⟨stream, header, rest, List.prefix_append _ _, read, admitted⟩
      rw [if_neg finished] at runs ⊢
      have running : t.finished = false := Bool.not_eq_true _ ▸ finished
      cases one : receiveRound options platform secure headRequest round t with
      | error thrown =>
          rw [one] at runs
          exact absurd rfl (runs thrown)
      | ok t' =>
          rw [one] at runs
          simp only at runs ⊢
          rcases receiveRound_ok one with ⟨incoming, calls, some, received, data⟩ | ⟨closes, calls, rfl⟩
          · obtain ⟨reached', -⟩ := receiveData_ok small (reached.received _ calls) running data
            rw [peerStream_data received some, ← List.append_assoc] at complete ⊢
            have before : Transfer.Admitted options { t with
                response := { t.response with
                  bytesReceived := t.response.bytesReceived + incoming.length }
                calls := calls } := admitted
            exact ih reached' (receiveData_admitted before data) complete runs
          · have stays : receiveLoopEnd options platform secure headRequest
                { t with finished := true, calls := calls } rounds =
                  { t with finished := true, calls := calls } := by
              cases rounds <;> simp [receiveLoopEnd]
            rw [stays]
            rcases reached.opening_or_read with ⟨-, received, calls', rfl⟩ | ⟨header, rest, read⟩
            · exfalso
              cases rounds <;> simp [receiveLoop, conclude, Transfer.opening, Transfer.start] at runs
            · exact ⟨stream, header, rest, List.prefix_append _ _, read.congr rfl rfl rfl rfl, admitted⟩

end Run

/-! ## Responses with a body -/

/-- A header block of at most 1 MiB that a body follows. -/
structure BodyHead (request header : Bytes) (head : HttpResponse) : Prop where
  parsed : parseResponseHeaders header {} = .ok head
  framed : bodyless (isHeadRequest request) head = false
  room : header.length + 4 ≤ 1024 * 1024
  alone : find headerEnd (header ++ headerEnd) = some header.length

/-- Whatever follows the header block and however it arrives: a call that has not thrown decodes the
body as chunked if and only if the last coding says so. -/
def DecodesByLast (options : HttpRequestOptions) (request header : Bytes) (headers : HeaderList) :
    Prop :=
  ∀ platform exchange host port rest,
    peerStream exchange.rounds = header ++ headerEnd ++ rest →
    find headerEnd (peerStream exchange.rounds) = some header.length →
    (∀ thrown, resolveHttpRequest platform exchange host port request options ≠ .threw thrown) →
    ((resolveHttpRequestEnd platform exchange host port request options).chunked = true ↔
      LastChunked headers)

section Call

variable {options : HttpRequestOptions} {platform : Platform} {host : WString} {port : Int}
  {request header : Bytes} {head : HttpResponse}

theorem resolveHttpRequestEnd_chunked {exchange : Exchange} {rest : Bytes}
    (limit : options.maxResponseBytes < 2 ^ 63) (parsed : parseResponseHeaders header {} = .ok head)
    (split : peerStream exchange.rounds = header ++ headerEnd ++ rest)
    (first : find headerEnd (peerStream exchange.rounds) = some header.length)
    (runs : ∀ thrown, resolveHttpRequest platform exchange host port request options ≠ .threw thrown) :
    (resolveHttpRequestEnd platform exchange host port request options).chunked = responseChunked head ∧
      LengthAdmitted options head := by
  rcases resolveHttpRequestEnd_cases platform exchange host port request options with
    ⟨loop, last⟩ | ⟨⟨what, threw⟩, -⟩
  · rw [loop] at runs
    obtain ⟨stream, header', rest', front, read, admitted⟩ := receiveLoopEnd_reached limit
      exchange.rounds (reached_start options _) (Nat.zero_le _) (by rw [List.nil_append, first]; rfl) runs
    rw [List.nil_append] at front
    rw [← last] at read admitted
    obtain ⟨more, whole⟩ := front
    have size : header'.length = header.length := by
      have still := find_append read.first more
      rw [whole, first] at still
      exact (Option.some.inj still).symm
    have both : header' ++ (headerEnd ++ rest' ++ more) = header ++ (headerEnd ++ rest) := by
      have split' := split
      rw [← whole, read.split] at split'
      simpa only [List.append_assoc] using split'
    obtain rfl := (List.append_inj both size).1
    have same := Except.ok.inj (parsed.symm.trans read.head)
    subst same
    exact ⟨read.chunked, _, read.length, admitted⟩
  · exact absurd threw (runs _)

theorem feed_fresh_nil (maximum : Nat) :
    (HttpChunkDecoder.fresh maximum).feed [] = .ok ([], .fresh maximum) := by
  unfold HttpChunkDecoder.feed
  rw [if_neg]
  · exact HttpChunkDecoder.drain_no_line rfl
  · exact Nat.not_lt_zero _

/-- The peer sends the stream in pieces of one byte and stays. -/
def openExchange (request stream : Bytes) : Exchange :=
  { byteExchange request [] with rounds := byteRounds stream }

/-- A chunked body that has not begun keeps the call waiting. -/
theorem resolveHttpRequest_waits (platform : Platform) (host : WString) (port : Int)
    (is : BodyHead request header head)
    (chunked : responseChunked head = true) (admitted : LengthAdmitted options head) :
    ∃ t, resolveHttpRequest platform (openExchange request (header ++ headerEnd)) host port request
      options = .running t := by
  obtain ⟨length, announced, fits⟩ := admitted
  obtain ⟨received, calls, run⟩ := receiveLoop_headerBytes platform (options.useSsl port) 0 is.parsed
    is.framed announced fits is.room is.alone (List.forall_mem_nil _)
  have body : receiveBody options [] [] (.opened options (isHeadRequest request) head length received
      calls) = .ok (.opened options (isHeadRequest request) head length received calls) := by
    have fresh : (Transfer.opened options (isHeadRequest request) head length received calls).decoder =
        .fresh options.maxResponseBytes := rfl
    rw [receiveBody, if_pos]
    · rw [fresh, feed_fresh_nil]
      simp only [throwingAt, ok_bind, appendChunks, pure_eq_ok]
      simp [Transfer.opened, Transfer.start, HttpChunkDecoder.complete, HttpChunkDecoder.fresh, is.framed]
    · exact chunked
  have waits : (Transfer.opened options (isHeadRequest request) head length received calls).finished =
      false := is.framed
  rw [List.append_nil, body] at run
  refine ⟨.opened options (isHeadRequest request) head length received calls, ?_⟩
  rw [resolveHttpRequest_sent rfl (boundedTimeout_start options _) rfl]
  apply run.trans
  simp [receiveLoop, waits]

/-- Some peer that sends the header block first does not make the call throw. -/
theorem resolveHttpRequest_calm (platform : Platform) (host : WString) (port : Int)
    (limit : options.maxResponseBytes < 2 ^ 63)
    (is : BodyHead request header head) (admitted : LengthAdmitted options head) :
    ∃ exchange rest, peerStream exchange.rounds = header ++ headerEnd ++ rest ∧
      ∀ thrown, resolveHttpRequest platform exchange host port request options ≠ .threw thrown := by
  cases chunked : responseChunked head with
  | true =>
      obtain ⟨t, waits⟩ := resolveHttpRequest_waits platform host port is chunked admitted
      refine ⟨openExchange request (header ++ headerEnd), [], ?_, fun thrown threw => ?_⟩
      · exact (peerStream_bytes _).trans (List.append_nil _).symm
      · rw [waits] at threw
        contradiction
  | false =>
      obtain ⟨length, announced, fits⟩ := admitted
      cases length with
      | none =>
          obtain ⟨response, returned⟩ := resolveHttpRequest_closes platform host port options is.parsed
            is.framed chunked announced is.room is.alone
          refine ⟨byteExchange request (header ++ headerEnd), [], ?_, fun thrown threw => ?_⟩
          · exact (peerStream_byteExchange request _).trans (List.append_nil _).symm
          · rw [returned] at threw
            contradiction
      | some n =>
          obtain ⟨response, returned⟩ := resolveHttpRequest_bytes platform host port limit
            ⟨is.parsed, is.framed, chunked, announced⟩ fits is.room is.alone
          refine ⟨byteExchange request (header ++ headerEnd ++ List.replicate n 0), List.replicate n 0,
            peerStream_byteExchange request _, fun thrown threw => ?_⟩
          rw [returned] at threw
          contradiction

end Call

theorem agree_of_decodesByLast {options : HttpRequestOptions} (limit : options.maxResponseBytes < 2 ^ 63)
    {request header : Bytes} {head : HttpResponse} (is : BodyHead request header head)
    (decodes : DecodesByLast options request header head.headers)
    (admitted : LengthAdmitted options head) :
    FirstMentions head.headers ↔ LastChunked head.headers := by
  obtain ⟨exchange, rest, split, runs⟩ := resolveHttpRequest_calm .blank [] 80 limit is admitted
  have first : find headerEnd (peerStream exchange.rounds) = some header.length := by
    rw [split]
    exact find_append is.alone rest
  obtain ⟨chunked, -⟩ := resolveHttpRequestEnd_chunked limit is.parsed split first runs
  rw [← responseChunked_iff, ← chunked]
  exact decodes .blank exchange [] 80 rest split first runs

theorem decodesByLast_iff (options : HttpRequestOptions) (limit : options.maxResponseBytes < 2 ^ 63)
    (request header : Bytes) (head : HttpResponse) (is : BodyHead request header head) :
    DecodesByLast options request header head.headers ↔
      ¬ LengthAdmitted options head ∨ (FirstMentions head.headers ↔ LastChunked head.headers) := by
  constructor
  · intro decodes
    by_cases admitted : LengthAdmitted options head
    · exact .inr (agree_of_decodesByLast limit is decodes admitted)
    · exact .inl admitted
  · intro agree platform exchange host port rest split first runs
    obtain ⟨chunked, admitted⟩ := resolveHttpRequestEnd_chunked limit is.parsed split first runs
    rcases agree with refused | agree
    · exact absurd admitted refused
    · rw [chunked, responseChunked_iff]
      exact agree

section Examples

def getRequestText : Bytes := ascii "GET / HTTP/1.1\r\n\r\n"

def twoCodings : HttpResponse where
  rawHeaders := ascii "HTTP/1.1 200 OK\r\nTransfer-Encoding: gzip\r\nTransfer-Encoding: chunked"
  version := ascii "HTTP/1.1"
  reason := ascii "OK"
  headers := [(ascii "transfer-encoding", ascii "gzip"), (ascii "transfer-encoding", ascii "chunked")]
  status := 200

theorem twoCodings_is : BodyHead getRequestText twoCodings.rawHeaders twoCodings where
  parsed := by decide +kernel
  framed := by decide
  room := by decide
  alone := by decide

end Examples

theorem decodesByLast_iff_codings :
    DecodesByLast {} getRequestText twoCodings.rawHeaders twoCodings.headers ↔
      ¬ LengthAdmitted {} twoCodings ∨
        (FirstMentions twoCodings.headers ↔ LastChunked twoCodings.headers) :=
  decodesByLast_iff {} (by decide) getRequestText _ twoCodings twoCodings_is

theorem decodesByLast_fails :
    ¬ DecodesByLast {} getRequestText twoCodings.rawHeaders twoCodings.headers := by
  intro decodes
  have admitted : LengthAdmitted {} twoCodings := ⟨none, by decide, Nat.zero_le _⟩
  have agree := agree_of_decodesByLast (by decide) twoCodings_is decodes admitted
  rw [← responseChunked_iff] at agree
  have last : LastChunked twoCodings.headers := by decide
  exact absurd (agree.mpr last) (by decide)

end LuaXENetwork
