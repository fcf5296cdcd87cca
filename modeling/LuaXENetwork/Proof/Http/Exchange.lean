import LuaXENetwork.Http.Exchange
import LuaXENetwork.Library.Except
import LuaXENetwork.Proof.Http.ChunkDecoder

namespace LuaXENetwork
open Library

/-! ## What the callbacks leave alone -/

section Callbacks

variable {options : HttpRequestOptions}

theorem callRequestCallback_ok {name : String} {call : CallbackCall} {answer : CallbackAnswer}
    {t t' : Transfer} {value : Option LuaValue}
    (h : callRequestCallback options name call answer t = .ok (value, t')) :
    ∃ calls, t' = { t with calls := calls } := by
  unfold callRequestCallback at h
  split_ifs at h
  · cases h
    exact ⟨t.calls, rfl⟩
  · split at h <;> cases h
    · exact ⟨t.calls, rfl⟩
    · exact ⟨_, rfl⟩

theorem requestCancelled_ok {answer : CallbackAnswer} {t t' : Transfer} {cancelled : Bool}
    (h : requestCancelled options answer t = .ok (cancelled, t')) :
    ∃ calls, t' = { t with calls := calls } := by
  simp only [requestCancelled, bind_eq_ok, pure_eq_ok, Prod.exists] at h
  obtain ⟨value, t₁, called, same⟩ := h
  obtain ⟨-, rfl⟩ := Prod.mk.inj same
  exact callRequestCallback_ok called

theorem emitResponseHeaders_ok {answer : CallbackAnswer} {t t' : Transfer}
    (h : emitResponseHeaders options answer t = .ok t') :
    ∃ calls, t' = { t with calls := calls } := by
  simp only [emitResponseHeaders, bind_eq_ok, pure_eq_ok, Prod.exists] at h
  obtain ⟨value, t₁, called, rfl⟩ := h
  exact callRequestCallback_ok called

theorem emitResponseChunk_ok {chunk : Bytes} {answer : CallbackAnswer} {t t' : Transfer}
    (h : emitResponseChunk options chunk answer t = .ok t') :
    ∃ calls, t' = { t with calls := calls } := by
  unfold emitResponseChunk at h
  split_ifs at h with empty
  · cases h
    exact ⟨t.calls, rfl⟩
  · simp only [bind_eq_ok, Prod.exists] at h
    obtain ⟨value, t₁, called, h⟩ := h
    split_ifs at h
    · simp at h
    · simp only [pure_eq_ok] at h
      subst h
      exact callRequestCallback_ok called

theorem appendBody_ok {chunk : Bytes} {answer : CallbackAnswer} {t t' : Transfer}
    (h : appendBody options chunk answer t = .ok t') :
    t.response.body.length + chunk.length ≤ options.maxResponseBytes ∧
    ∃ calls, t' = { t with
      response := { t.response with body := t.response.body ++ chunk }
      calls := calls } := by
  unfold appendBody at h
  split_ifs at h with large
  exact ⟨by omega, emitResponseChunk_ok h⟩

theorem appendChunks_ok {chunks : List Bytes} {answers : List CallbackAnswer} {t t' : Transfer}
    (h : appendChunks options chunks answers t = .ok t') :
    ∃ calls, t' = { t with
      response := { t.response with body := t.response.body ++ chunks.flatten }
      calls := calls } := by
  induction chunks generalizing answers t with
  | nil =>
      obtain rfl := Except.ok.inj h
      exact ⟨t.calls, by simp⟩
  | cons chunk chunks ih =>
      simp only [appendChunks, bind_eq_ok] at h
      obtain ⟨t₁, appended, later⟩ := h
      obtain ⟨-, calls, rfl⟩ := appendBody_ok appended
      obtain ⟨calls', rfl⟩ := ih later
      exact ⟨calls', by simp [List.append_assoc]⟩

end Callbacks

/-! ## What the peer sends -/

/-- The bytes that arrive before the peer closes or a receive fails. -/
def peerStream : List Round → Bytes
  | [] => []
  | round :: rounds => match round.received with
    | .data [] => []
    | .data bytes => bytes ++ peerStream rounds
    | .failed _ => []

/-- The peer closes after the bytes it sends. -/
def peerCloses (secure : Bool) : List Round → Bool
  | [] => false
  | round :: rounds => match round.received with
    | .data [] => true
    | .data _ => peerCloses secure rounds
    | .failed code => secure && code == secIContextExpired

/-! ## What a response is of a stream -/

def HttpResponse.head (response : HttpResponse) : HttpResponse :=
  { response with body := [], bytesReceived := 0, elapsedMs := 0 }

/-- The body that the header block announces, out of the bytes that follow it. -/
def BodyOf (maximum : Nat) (headRequest closed : Bool) (response : HttpResponse) (rest : Bytes) :
    Prop :=
  if bodyless headRequest response then response.body = []
  else if responseChunked response then
    ∃ chunks, HttpChunkDecoder.ChunkStream maximum rest chunks ∧ response.body = chunks.flatten
  else ∃ length, responseContentLength response = .ok length ∧ match length with
    | some n => n ≤ rest.length ∧ response.body = rest.take n
    | none => closed = true ∧ response.body = rest

structure ResponseOf (maximum : Nat) (headRequest closed : Bool) (stream : Bytes)
    (response : HttpResponse) (header rest : Bytes) : Prop where
  split : stream = header ++ headerEnd ++ rest
  first : find headerEnd stream = some header.length
  head : parseResponseHeaders header {} = .ok response.head
  body : BodyOf maximum headRequest closed response rest

/-! ## Where the receive loop is -/

structure HeadersRead (stream : Bytes) (t : Transfer) (header rest : Bytes) : Prop where
  split : stream = header ++ headerEnd ++ rest
  first : find headerEnd stream = some header.length
  head : parseResponseHeaders header {} = .ok t.response.head
  got : t.gotHeaders = true
  chunked : t.chunked = responseChunked t.response
  length : responseContentLength t.response = .ok t.contentLength

def BodyRead (maximum : Nat) (t : Transfer) (rest : Bytes) : Prop :=
  if t.chunked then ∃ chunks mode held,
    (HttpChunkDecoder.machine maximum).drain .sizeLine rest = .ok (chunks, mode, held) ∧
    t.decoder = HttpChunkDecoder.ofMode maximum mode held ∧ t.response.body = chunks.flatten
  else match t.contentLength with
    | some n => t.response.body = rest.take n
    | none => t.response.body = rest

inductive Reached (options : HttpRequestOptions) (headRequest : Bool) (stream : Bytes)
    (t : Transfer) : Prop where
  | headers (absent : find headerEnd stream = none) (received : Nat) (calls : List CalledBack)
      (same : t = { Transfer.start options with
        response := { bytesReceived := received }, pendingHeaders := stream, calls := calls })
  | bodyless {header rest : Bytes} (read : HeadersRead stream t header rest)
      (none : bodyless headRequest t.response = true) (empty : t.response.body = [])
      (ended : t.finished = true)
  | body {header rest : Bytes} (read : HeadersRead stream t header rest)
      (framed : LuaXENetwork.bodyless headRequest t.response = false)
      (body : BodyRead options.maxResponseBytes t rest)

def Announced (headRequest : Bool) (t : Transfer) : Prop :=
  bodyless headRequest t.response = true ∨ t.chunked = true ∨ t.contentLength ≠ none

theorem HeadersRead.more {stream header rest : Bytes} {t t' : Transfer}
    (read : HeadersRead stream t header rest) (incoming : Bytes)
    (head : t'.response.head = t.response.head) (got : t'.gotHeaders = t.gotHeaders)
    (chunked : t'.chunked = t.chunked) (length : t'.contentLength = t.contentLength) :
    HeadersRead (stream ++ incoming) t' header (rest ++ incoming) := by
  have headers : t'.response.headers = t.response.headers :=
    show t'.response.head.headers = t.response.head.headers by rw [head]
  have field (name : Bytes) : responseHeader t'.response name = responseHeader t.response name := by
    rw [responseHeader, responseHeader, headers]
  exact {
    split := by rw [read.split, List.append_assoc]
    first := find_append read.first incoming
    head := by rw [head, read.head]
    got := by rw [got, read.got]
    chunked := by rw [chunked, read.chunked, responseChunked, responseChunked, field]
    length := by rw [length, responseContentLength, field, ← responseContentLength, read.length] }

theorem HeadersRead.congr {stream header rest : Bytes} {t t' : Transfer}
    (read : HeadersRead stream t header rest)
    (head : t'.response.head = t.response.head) (got : t'.gotHeaders = t.gotHeaders)
    (chunked : t'.chunked = t.chunked) (length : t'.contentLength = t.contentLength) :
    HeadersRead stream t' header rest := by
  simpa using read.more [] head got chunked length

theorem throwingAt_ok {t : Transfer} {x : Except Bytes α} {value : α} :
    throwingAt t x = .ok value ↔ x = .ok value := by
  cases x <;> simp [throwingAt]

theorem parseResponseHeaders_bytesReceived (block : Bytes) (n : Nat) :
    parseResponseHeaders block { bytesReceived := n } =
      (parseResponseHeaders block {}).map fun response => { response with bytesReceived := n } := by
  unfold parseResponseHeaders
  simp only
  split_ifs <;> rfl

theorem parseResponseHeaders_fresh {block : Bytes} {response : HttpResponse} {n : Nat}
    (h : parseResponseHeaders block { bytesReceived := n } = .ok response) :
    parseResponseHeaders block {} = .ok response.head ∧ response.body = [] := by
  unfold parseResponseHeaders at h ⊢
  simp only at h ⊢
  split_ifs at h ⊢
  obtain rfl := Except.ok.inj h
  exact ⟨rfl, rfl⟩

section Rounds

variable {options : HttpRequestOptions} {headRequest : Bool} {stream incoming : Bytes}
  {t t' : Transfer}

theorem receiveHeaders_ok {answer : CallbackAnswer} {body : Option Bytes} {received : Nat}
    {calls : List CalledBack}
    (h : receiveHeaders options headRequest answer incoming { Transfer.start options with
      response := { bytesReceived := received }, pendingHeaders := stream, calls := calls } =
        .ok (body, t')) :
    (body = none ∧ find headerEnd (stream ++ incoming) = none ∧ t' = { Transfer.start options with
      response := { bytesReceived := received }, pendingHeaders := stream ++ incoming,
      calls := calls }) ∨
    ∃ header rest, body = some rest ∧ HeadersRead (stream ++ incoming) t' header rest ∧
      t'.response.body = [] ∧ t'.decoder = .fresh options.maxResponseBytes ∧
      t'.finished = bodyless headRequest t'.response := by
  unfold receiveHeaders at h
  simp only at h
  split_ifs at h with large
  cases found : find headerEnd (stream ++ incoming) with
  | none =>
      rw [found] at h
      cases h
      exact .inl ⟨rfl, rfl, rfl⟩
  | some separator =>
      right
      simp only [found, bind_eq_ok, throwingAt_ok] at h
      obtain ⟨response, parsed, t₁, emitted, length, lengthRead, h⟩ := h
      obtain ⟨calls', rfl⟩ := emitResponseHeaders_ok emitted
      split_ifs at h with huge
      · simp at h
      simp only [pure_eq_ok, Prod.mk.injEq] at h
      obtain ⟨rfl, rfl⟩ := h
      obtain ⟨head, empty⟩ := parseResponseHeaders_fresh parsed
      have inside := add_length_le_of_find found
      have size : ((stream ++ incoming).take separator).length = separator := by
        rw [List.length_take]
        omega
      refine ⟨(stream ++ incoming).take separator, _, rfl, ?_, empty, rfl, rfl⟩
      exact {
        split := eq_append_of_find found
        first := by rw [size]; exact found
        head := head
        got := rfl
        chunked := rfl
        length := lengthRead }

theorem bodyRead_start (got : t.response.body = [])
    (decoder : t.decoder = .fresh options.maxResponseBytes) :
    BodyRead options.maxResponseBytes t [] := by
  unfold BodyRead
  split
  · exact ⟨[], .sizeLine, [], Library.Machine.drain_of_wait rfl, decoder, got⟩
  · split <;> simp [got]

theorem take_next (n : Nat) (rest incoming : Bytes) :
    rest.take n ++ incoming.take (n - (rest.take n).length) = (rest ++ incoming).take n := by
  have lacking : n - (rest.take n).length = n - rest.length := by
    rw [List.length_take]
    omega
  rw [List.take_append, lacking]

theorem receiveBody_ok (small : options.maxResponseBytes < 2 ^ 63) {answers : List CallbackAnswer}
    {rest : Bytes} (read : BodyRead options.maxResponseBytes t rest) (running : t.finished = false)
    (h : receiveBody options answers incoming t = .ok t') :
    BodyRead options.maxResponseBytes t' (rest ++ incoming) ∧
    t'.response.head = t.response.head ∧ t'.gotHeaders = t.gotHeaders ∧ t'.chunked = t.chunked ∧
    t'.contentLength = t.contentLength ∧
    (t'.finished = true → t'.chunked = true ∨ t'.contentLength ≠ none) := by
  obtain ⟨response, decoder, pending, got, chunked, finished, contentLength, calls⟩ := t
  unfold receiveBody at h
  unfold BodyRead at read
  cases chunked with
  | true =>
      simp only [if_true, bind_eq_ok, throwingAt_ok, pure_eq_ok, Prod.exists] at h read
      obtain ⟨chunks, mode, held, drained, rfl, body⟩ := read
      obtain ⟨later, d, fed, t₁, appended, rfl⟩ := h
      obtain ⟨calls', rfl⟩ := appendChunks_ok appended
      have bounded : HttpChunkDecoder.Mode.sizeLine.Bounded options.maxResponseBytes := trivial
      obtain ⟨mode', held', drains, rfl⟩ :=
        HttpChunkDecoder.feed_ok small (HttpChunkDecoder.drain_bounded bounded drained) fed
      refine ⟨?_, rfl, rfl, rfl, rfl, fun _ => .inl rfl⟩
      exact ⟨chunks ++ later, mode', held', Library.Machine.drain_append_ok drained drains, rfl,
        by simp [body]⟩
  | false =>
      simp only [Bool.false_eq_true, if_false] at h read
      cases contentLength with
      | some n =>
          simp only [bind_eq_ok, pure_eq_ok] at h read
          obtain ⟨t₁, appended, rfl⟩ := h
          obtain ⟨calls', rfl⟩ := appendChunks_ok appended
          refine ⟨?_, rfl, rfl, rfl, rfl, fun _ => .inr (by simp)⟩
          simpa [BodyRead, read] using take_next n rest incoming
      | none =>
          simp only at h read running
          obtain ⟨calls', rfl⟩ := appendChunks_ok h
          refine ⟨?_, rfl, rfl, rfl, rfl, fun ends => ?_⟩
          · simp [BodyRead, read]
          · exact absurd ends (by simp [running])

theorem Reached.received (reached : Reached options headRequest stream t) (n : Nat)
    (calls : List CalledBack) : Reached options headRequest stream
      { t with response := { t.response with bytesReceived := n }, calls := calls } := by
  cases reached with
  | headers absent received calls same =>
      subst same
      exact .headers absent n _ rfl
  | bodyless read none empty ended => exact .bodyless (read.congr rfl rfl rfl rfl) none empty ended
  | body read framed body => exact .body (read.congr rfl rfl rfl rfl) framed body

theorem bodyless_head {before after : HttpResponse} (head : after.head = before.head) :
    bodyless headRequest after = bodyless headRequest before := by
  have status : after.status = before.status :=
    show after.head.status = before.head.status by rw [head]
  rw [bodyless, bodyless, status]

theorem receiveData_ok (small : options.maxResponseBytes < 2 ^ 63)
    (reached : Reached options headRequest stream t) (running : t.finished = false) {round : Round}
    (h : receiveData options headRequest round incoming t = .ok t') :
    Reached options headRequest (stream ++ incoming) t' ∧
      (t'.finished = true → Announced headRequest t') := by
  unfold receiveData at h
  cases reached with
  | headers absent received calls same =>
      subst same
      simp only [Transfer.start, Bool.false_eq_true, if_false, bind_eq_ok, Prod.exists] at h
      obtain ⟨body, t₁, opened, h⟩ := h
      rcases receiveHeaders_ok opened with
        ⟨rfl, absent', rfl⟩ | ⟨header, rest, rfl, read, empty, decoder, ended⟩
      · obtain rfl := pure_eq_ok.mp h
        exact ⟨.headers absent' received calls rfl, by simp [Transfer.start]⟩
      · simp only at h
        split_ifs at h with finished
        · obtain rfl := pure_eq_ok.mp h
          have none := ended ▸ finished
          exact ⟨.bodyless read none empty finished, fun _ => .inl none⟩
        · have alive : t₁.finished = false := Bool.not_eq_true _ ▸ finished
          have unframed : bodyless headRequest t₁.response = false := by rw [← ended, alive]
          obtain ⟨body, head, got, chunked, length, early⟩ :=
            receiveBody_ok small (bodyRead_start empty decoder) alive h
          exact ⟨.body (read.congr head got chunked length)
            (by rw [bodyless_head head, unframed]) body, fun ended => .inr (early ended)⟩
  | bodyless read none empty ended => simp [running] at ended
  | body read framed body =>
      simp only [read.got, if_true, bind_eq_ok, pure_eq_ok, Prod.mk.injEq, Prod.exists] at h
      obtain ⟨_, _, ⟨rfl, rfl⟩, h⟩ := h
      simp only [running, Bool.false_eq_true, if_false] at h
      obtain ⟨body', head, got, chunked, length, early'⟩ := receiveBody_ok small body running h
      exact ⟨.body (read.more incoming head got chunked length)
        (by rw [bodyless_head head, framed]) body', fun ended => .inr (early' ended)⟩

theorem bodyOf_of_read {header rest : Bytes} {closed : Bool} (read : HeadersRead stream t header rest)
    (framed : bodyless headRequest t.response = false)
    (body : BodyRead options.maxResponseBytes t rest)
    (complete : t.chunked = true → t.decoder.complete = true)
    (whole : ∀ n, t.contentLength = some n → t.response.body.length = n)
    (ended : Announced headRequest t ∨ closed = true) :
    BodyOf options.maxResponseBytes headRequest closed t.response rest := by
  unfold BodyRead at body
  unfold BodyOf
  rw [framed, if_neg (by simp), ← read.chunked]
  cases chunked : t.chunked with
  | true =>
      rw [chunked, if_pos rfl] at body
      rw [if_pos rfl]
      obtain ⟨chunks, mode, held, drained, decoder, flat⟩ := body
      have done := complete chunked
      rw [decoder] at done
      cases mode with
      | done => exact ⟨chunks, HttpChunkDecoder.decodes_of_drain drained, flat⟩
      | sizeLine => nomatch done
      | data size => nomatch done
  | false =>
      rw [chunked, if_neg (by simp)] at body
      rw [if_neg (by simp)]
      refine ⟨t.contentLength, read.length, ?_⟩
      cases length : t.contentLength with
      | some n =>
          simp only [length] at body ⊢
          have size := whole n length
          rw [body, List.length_take] at size
          exact ⟨by omega, body⟩
      | none =>
          simp only [length] at body ⊢
          refine ⟨?_, body⟩
          rcases ended with (none | chunks | announced) | closed
          · simp [framed] at none
          · simp [chunked] at chunks
          · exact absurd length announced
          · exact closed

theorem conclude_returned {closed : Bool} {finishedMs : Int} {response : HttpResponse}
    (reached : Reached options headRequest stream t)
    (ended : Announced headRequest t ∨ closed = true)
    (h : conclude headRequest finishedMs t = .returned response) :
    ∃ header rest, ResponseOf options.maxResponseBytes headRequest closed stream response
      header rest := by
  unfold conclude at h
  split_ifs at h with unread incomplete
  have same : response = { t.response with elapsedMs := finishedMs } := by
    cases length : t.contentLength with
    | none =>
        rw [length] at h
        exact (Outcome.returned.inj h).symm
    | some n =>
        simp only [length] at h
        split_ifs at h
        exact (Outcome.returned.inj h).symm
  subst same
  cases reached with
  | headers absent received calls same =>
      subst same
      simp [Transfer.start] at unread
  | @bodyless header rest read none empty finished =>
      refine ⟨header, rest, read.split, read.first, read.head, ?_⟩
      rw [BodyOf, if_pos (show bodyless headRequest { t.response with elapsedMs := finishedMs } = true
        from none)]
      exact empty
  | @body header rest read framed body =>
      have complete : t.chunked = true → t.decoder.complete = true := fun chunked =>
        Bool.not_eq_false _ ▸ fun unfinished => incomplete ⟨chunked, unfinished⟩
      have whole (n : Nat) (length : t.contentLength = some n) : t.response.body.length = n := by
        simp only [length] at h
        split_ifs at h with mismatch
        by_contra differs
        exact mismatch ⟨framed, differs⟩
      exact ⟨header, rest, read.split, read.first, read.head,
        bodyOf_of_read read framed body complete whole ended⟩

theorem receiveRound_ok {platform : Platform} {secure : Bool} {round : Round}
    (h : receiveRound options platform secure headRequest round t = .ok t') :
    (∃ incoming calls, incoming ≠ [] ∧ round.received = .data incoming ∧
      receiveData options headRequest round incoming { t with
        response := { t.response with
          bytesReceived := t.response.bytesReceived + incoming.length }
        calls := calls } = .ok t') ∨
    ((round.received = .data [] ∨ secure = true ∧ round.received = .failed secIContextExpired) ∧
      ∃ calls, t' = { t with finished := true, calls := calls }) := by
  simp only [receiveRound, bind_eq_ok, Prod.exists] at h
  obtain ⟨cancelled, t₁, asked, h⟩ := h
  obtain ⟨calls, rfl⟩ := requestCancelled_ok asked
  split_ifs at h with stops
  · simp at h
  simp only [bind_eq_ok, throwingAt_ok] at h
  obtain ⟨timeout, bounded, h⟩ := h
  cases received : round.received with
  | failed code =>
      simp only [received] at h
      split_ifs at h with expired
      · obtain rfl := pure_eq_ok.mp h
        exact .inr ⟨.inr ⟨expired.1, by rw [expired.2]⟩, calls, rfl⟩
  | data incoming =>
      simp only [received] at h
      split_ifs at h with empty
      · obtain rfl := pure_eq_ok.mp h
        exact .inr ⟨.inl (by rw [empty]), calls, rfl⟩
      · exact .inl ⟨incoming, calls, empty, rfl, h⟩

theorem conclude_ended {finishedMs : Int} {finished : Bool} {calls : List CalledBack}
    {response : HttpResponse}
    (h : conclude headRequest finishedMs { t with finished := finished, calls := calls } =
      .returned response) : conclude headRequest finishedMs t = .returned response := by
  unfold conclude at h ⊢
  simp only at h
  split_ifs at h ⊢
  cases length : t.contentLength with
  | none => simpa only [length] using h
  | some n =>
      simp only [length] at h ⊢
      split_ifs at h ⊢
      exact h

theorem ResponseOf.append {maximum : Nat} {closed : Bool} {response : HttpResponse}
    {header rest : Bytes} (h : ResponseOf maximum headRequest false stream response header rest)
    (more : Bytes) :
    ResponseOf maximum headRequest closed (stream ++ more) response header (rest ++ more) where
  split := by rw [h.split, List.append_assoc]
  first := find_append h.first more
  head := h.head
  body := by
    have body := h.body
    unfold BodyOf at body ⊢
    split_ifs at body ⊢ with bodyless chunked
    · exact body
    · obtain ⟨chunks, stream, flat⟩ := body
      exact ⟨chunks, stream.append more, flat⟩
    · obtain ⟨length, read, body⟩ := body
      refine ⟨length, read, ?_⟩
      cases length with
      | none => simp at body
      | some n =>
          simp only at body ⊢
          rw [List.length_append, List.take_append_of_le_length body.1]
          exact ⟨by omega, body.2⟩

theorem receiveLoop_returned (small : options.maxResponseBytes < 2 ^ 63) {platform : Platform}
    {secure : Bool} {finishedMs : Int} {response : HttpResponse} (rounds : List Round)
    (reached : Reached options headRequest stream t)
    (early : t.finished = true → Announced headRequest t)
    (h : receiveLoop options platform secure headRequest finishedMs t rounds = .returned response) :
    ∃ header rest, ResponseOf options.maxResponseBytes headRequest (peerCloses secure rounds)
      (stream ++ peerStream rounds) response header rest := by
  induction rounds generalizing stream t with
  | nil =>
      simp only [receiveLoop] at h
      split_ifs at h with finished
      obtain ⟨header, rest, is⟩ := conclude_returned reached (.inl (early finished)) h
      exact ⟨header, rest ++ [], is.append []⟩
  | cons round rounds ih =>
      simp only [receiveLoop] at h
      split_ifs at h with finished
      · obtain ⟨header, rest, is⟩ := conclude_returned reached (.inl (early finished)) h
        exact ⟨header, rest ++ peerStream (round :: rounds), is.append _⟩
      have running : t.finished = false := Bool.not_eq_true _ ▸ finished
      cases one : receiveRound options platform secure headRequest round t with
      | error thrown =>
          rw [one] at h
          nomatch h
      | ok t' =>
          rw [one] at h
          rcases receiveRound_ok one with ⟨incoming, calls, some, received, data⟩ | ⟨closes, calls, rfl⟩
          · obtain ⟨reached', early'⟩ := receiveData_ok small (reached.received _ calls) running data
            obtain ⟨header, rest, is⟩ := ih reached' early' h
            have stream_eq : peerStream (round :: rounds) = incoming ++ peerStream rounds := by
              cases incoming with
              | nil => contradiction
              | cons b incoming => simp [peerStream, received]
            have closes_eq : peerCloses secure (round :: rounds) = peerCloses secure rounds := by
              cases incoming with
              | nil => contradiction
              | cons b incoming => simp [peerCloses, received]
            rw [stream_eq, closes_eq, ← List.append_assoc]
            exact ⟨header, rest, is⟩
          · have concludes : conclude headRequest finishedMs t = .returned response := by
              cases rounds <;> exact conclude_ended (by simpa only [receiveLoop, if_true] using h)
            obtain ⟨header, rest, is⟩ := conclude_returned reached (.inr rfl) concludes
            refine ⟨header, rest, ?_⟩
            rcases closes with closes | ⟨rfl, closes⟩ <;>
              simpa [peerStream, peerCloses, closes] using is

end Rounds

end LuaXENetwork
