import LuaXENetwork.Proof.Http.HeaderPhase
import LuaXENetwork.Proof.Http.ChunkSize

/-! When a response is refused for the size of its header block. -/

namespace LuaXENetwork
open Library

def headerLimitText : Bytes := ascii "HTTP response headers exceeded 1 MiB"

def Outcome.RaisesHeaderLimit (outcome : Outcome) : Prop := ∃ t, outcome = .threw ⟨headerLimitText, t⟩

/-! ## No other part of the call throws this text -/

/-- Another text: already its first letters differ. -/
def OtherText (what : Bytes) : Prop := 6 ≤ what.length ∧ what.take 6 ≠ headerLimitText.take 6

/-- A literal is told from the refusal by its letters, without its bytes. -/
theorem otherText_ascii {letters : List Char} (long : 6 ≤ letters.length)
    (other : (letters.take 6).map (fun c => UInt8.ofNat c.toNat) ≠ [72, 84, 84, 80, 32, 114]) :
    OtherText (ascii (String.ofList letters)) := by
  have front : headerLimitText.take 6 = [72, 84, 84, 80, 32, 114] := by
    rw [headerLimitText, ascii_ofList]
    rfl
  rw [OtherText, ascii_ofList, List.length_map, front, ← List.map_take]
  exact ⟨long, other⟩

theorem OtherText.append {front : Bytes} (other : OtherText front) (rest : Bytes) :
    OtherText (front ++ rest) := by
  constructor
  · rw [List.length_append]
    exact Nat.le_add_right_of_le other.1
  · rw [List.take_append_of_le_length other.1]
    exact other.2

theorem OtherText.ne {what : Bytes} (other : OtherText what) : what ≠ headerLimitText := by
  rintro rfl
  exact other.2 rfl

abbrev ThrowsOther (done : α → Prop) : Except Thrown α → Prop :=
  Ends (fun thrown => OtherText thrown.what) done

section Texts

variable {options : HttpRequestOptions} {t : Transfer}

theorem throwingAt_other {x : Except Bytes α} (others : Ends OtherText (fun _ => True) x) :
    ThrowsOther (fun _ => True) (throwingAt t x) := by
  cases x with
  | error what => exact others
  | ok a => trivial

theorem stoull_other (base : Nat) (text : Bytes) :
    Ends OtherText (fun _ => True) (stoull base text) := by
  rw [stoull]
  cases readNumeral base (cString text) with
  | none =>
      show OtherText _
      exact otherText_ascii (by decide) (by decide)
  | some numeral =>
      simp only
      by_cases large : 2 ^ 64 ≤ numeral.magnitude
      · rw [if_pos large]
        show OtherText _
        exact otherText_ascii (by decide) (by decide)
      · rw [if_neg large]
        trivial

theorem stoull_error_other {base : Nat} {text what : Bytes} (bad : stoull base text = .error what) :
    OtherText what := by
  have others := stoull_other base text
  rw [bad] at others
  exact others

theorem responseContentLength_other (response : HttpResponse) :
    Ends OtherText (fun _ => True) (responseContentLength response) := by
  unfold responseContentLength
  simp only
  split_ifs
  · trivial
  · exact Ends.bind (stoull_other 10 _) fun _ _ => trivial

theorem boundedTimeout_other (configured elapsedMs : Int) :
    Ends OtherText (fun _ => True) (boundedTimeout options configured elapsedMs) := by
  unfold boundedTimeout
  split_ifs
  · trivial
  · have text : OtherText (ascii "request total timeout exceeded after ") :=
      otherText_ascii (by decide) (by decide)
    exact (text.append _).append _
  · trivial

theorem chunkSize_other {maximum : Nat} {line what : Bytes}
    (bad : HttpChunkDecoder.chunkSize maximum line = .error what) : OtherText what := by
  rw [HttpChunkDecoder.chunkSize] at bad
  by_cases empty : HttpChunkDecoder.sizeText line = []
  · rw [if_pos empty] at bad
    obtain rfl := Except.error.inj bad
    exact otherText_ascii (by decide) (by decide)
  rw [if_neg empty] at bad
  cases read : stoull 16 (HttpChunkDecoder.sizeText line) with
  | error text =>
      rw [read] at bad
      obtain rfl := Except.error.inj bad
      exact stoull_error_other read
  | ok result =>
      simp only [read] at bad
      split_ifs at bad
      · obtain rfl := Except.error.inj bad
        have text : OtherText (ascii "invalid HTTP chunk size: ") :=
          otherText_ascii (by decide) (by decide)
        exact text.append _
      · obtain rfl := Except.error.inj bad
        exact otherText_ascii (by decide) (by decide)

theorem feed_other (d : HttpChunkDecoder) (data : Bytes) :
    Ends OtherText (fun _ => True) (d.feed data) := by
  unfold HttpChunkDecoder.feed
  split_ifs
  · show OtherText _
    exact otherText_ascii (by decide) (by decide)
  have ends := HttpChunkDecoder.drain_ends { d with buffer := d.buffer ++ data }
  cases run : HttpChunkDecoder.drain { d with buffer := d.buffer ++ data } with
  | ok result => trivial
  | error what =>
      rw [run] at ends
      rcases ends with rfl | ⟨line, bad⟩
      · show OtherText _
        exact otherText_ascii (by decide) (by decide)
      · exact chunkSize_other bad

theorem callRequestCallback_other {name : String} (text : OtherText (ascii name))
    {call : CallbackCall} {answer : CallbackAnswer} (got : t.gotHeaders = true) :
    ThrowsOther (fun result => result.2.gotHeaders = true)
      (callRequestCallback options name call answer t) := by
  unfold callRequestCallback
  split_ifs
  · exact got
  cases answer with
  | absent => exact got
  | raised error => exact (text.append _).append _
  | returned value => exact got

theorem requestCancelled_other {answer : CallbackAnswer} (got : t.gotHeaders = true) :
    ThrowsOther (fun result => result.2.gotHeaders = true) (requestCancelled options answer t) :=
  Ends.bind (callRequestCallback_other (otherText_ascii (by decide) (by decide)) got) fun _ still => still

theorem emitResponseChunk_other {chunk : Bytes} {answer : CallbackAnswer} (got : t.gotHeaders = true) :
    ThrowsOther (·.gotHeaders = true) (emitResponseChunk options chunk answer t) := by
  unfold emitResponseChunk
  split_ifs
  · exact got
  · refine Ends.bind (callRequestCallback_other (otherText_ascii (by decide) (by decide)) got)
      fun result still => ?_
    obtain ⟨value, t'⟩ := result
    simp only
    split_ifs
    · show OtherText (ascii "request cancelled by on_chunk callback")
      exact otherText_ascii (by decide) (by decide)
    · exact still

theorem appendChunks_other {chunks : List Bytes} {answers : List CallbackAnswer}
    (got : t.gotHeaders = true) :
    ThrowsOther (·.gotHeaders = true) (appendChunks options chunks answers t) := by
  induction chunks generalizing answers t with
  | nil => exact got
  | cons chunk chunks ih =>
      refine Ends.bind (show ThrowsOther (·.gotHeaders = true) _ from ?_) fun t' still => ih still
      unfold appendBody
      split_ifs
      · have text : OtherText (ascii "response exceeded max_response_bytes (") :=
          otherText_ascii (by decide) (by decide)
        exact (text.append _).append _
      · exact emitResponseChunk_other got

theorem receiveBody_other {answers : List CallbackAnswer} {incoming : Bytes}
    (got : t.gotHeaders = true) :
    ThrowsOther (·.gotHeaders = true) (receiveBody options answers incoming t) := by
  unfold receiveBody
  split_ifs
  · refine Ends.bind (throwingAt_other (feed_other _ _)) fun fed _ => ?_
    exact Ends.bind (appendChunks_other (t := { t with decoder := fed.2 }) got) fun _ still => still
  · split
    · exact Ends.bind (appendChunks_other got) fun _ still => still
    · exact appendChunks_other got

theorem socketErrorMessage_other (platform : Platform) {operation : String}
    (timedOut : OtherText (ascii operation ++ ascii " timed out after "))
    (failed : OtherText (ascii operation ++ ascii " failed: ")) (code : Nat) (timeoutMs : Int) :
    OtherText (socketErrorMessage platform operation code timeoutMs) := by
  unfold socketErrorMessage
  split_ifs
  · exact ((timedOut.append _).append _).append _ |>.append _
  · dsimp only
    exact ((failed.append _).append _).append _ |>.append _

theorem receiveRound_other (platform : Platform) (secure headRequest : Bool) (round : Round)
    (got : t.gotHeaders = true) :
    ThrowsOther (·.gotHeaders = true) (receiveRound options platform secure headRequest round t) := by
  refine Ends.bind (requestCancelled_other got) fun result still => ?_
  obtain ⟨cancelled, t'⟩ := result
  simp only
  split_ifs
  · show OtherText (ascii "request cancelled")
    exact otherText_ascii (by decide) (by decide)
  refine Ends.bind (throwingAt_other (boundedTimeout_other _ _)) fun timeout _ => ?_
  cases round.received with
  | failed code =>
      simp only
      split_ifs
      · exact still
      · have text : OtherText (ascii "receive") := otherText_ascii (by decide) (by decide)
        exact socketErrorMessage_other platform (text.append _) (text.append _) code timeout
  | data incoming =>
      simp only
      split_ifs
      · exact still
      · have got' : t'.gotHeaders = true := still
        unfold receiveData
        simp only [got', if_true, pure_bind]
        split_ifs
        · exact (rfl : true = true)
        · exact receiveBody_other rfl

theorem conclude_other {headRequest : Bool} {finishedMs : Int} :
    ¬ (conclude headRequest finishedMs t).RaisesHeaderLimit := by
  rintro ⟨t', raised⟩
  unfold conclude at raised
  split_ifs at raised
  · have text : OtherText (ascii "connection closed before HTTP response headers were received") := by
      exact otherText_ascii (by decide) (by decide)
    exact text.ne (congrArg Thrown.what (Outcome.threw.inj raised))
  · have text : OtherText (ascii "connection closed before the chunked response completed") := by
      exact otherText_ascii (by decide) (by decide)
    exact text.ne (congrArg Thrown.what (Outcome.threw.inj raised))
  · have text : OtherText (ascii "Content-Length mismatch: ") := otherText_ascii (by decide) (by decide)
    cases length : t.contentLength with
    | none =>
        rw [length] at raised
        cases raised
    | some n =>
        simp only [length] at raised
        split_ifs at raised
        exact (((text.append _).append _).append _).ne (congrArg Thrown.what (Outcome.threw.inj raised))

theorem receiveLoop_other {platform : Platform} {secure headRequest : Bool} {finishedMs : Int}
    (rounds : List Round) (got : t.gotHeaders = true) :
    ¬ (receiveLoop options platform secure headRequest finishedMs t rounds).RaisesHeaderLimit := by
  induction rounds generalizing t with
  | nil =>
      rw [receiveLoop]
      split_ifs
      · exact conclude_other
      · rintro ⟨t', raised⟩
        cases raised
  | cons round rounds ih =>
      rw [receiveLoop]
      split_ifs
      · exact conclude_other
      have step : ThrowsOther (·.gotHeaders = true)
          (receiveRound options platform secure headRequest round t) :=
        receiveRound_other platform secure headRequest round got
      cases one : receiveRound options platform secure headRequest round t with
      | error thrown =>
          rw [one] at step
          rintro ⟨t', raised⟩
          exact OtherText.ne step (congrArg Thrown.what (Outcome.threw.inj raised))
      | ok t' =>
          rw [one] at step
          exact ih step

theorem emitResponseHeaders_other {answer : CallbackAnswer} (got : t.gotHeaders = true) :
    ThrowsOther (·.gotHeaders = true) (emitResponseHeaders options answer t) :=
  Ends.bind (callRequestCallback_other (otherText_ascii (by decide) (by decide)) got) fun _ still => still

theorem parseResponseHeaders_other (block : Bytes) (response : HttpResponse) :
    Ends OtherText (fun _ => True) (parseResponseHeaders block response) := by
  unfold parseResponseHeaders
  simp only
  split_ifs
  · have text : OtherText (ascii "invalid HTTP response status line: ") :=
      otherText_ascii (by decide) (by decide)
    exact text.append _
  · trivial

/-- With the header block there and the limit kept, the rest of the round throws other texts. -/
theorem receiveData_found_other {headRequest : Bool} {round : Round} {stream incoming : Bytes}
    {separator received : Nat} {calls : List CalledBack}
    (short : (stream ++ incoming).length ≤ 1024 * 1024)
    (found : find headerEnd (stream ++ incoming) = some separator) :
    ThrowsOther (·.gotHeaders = true) (receiveData options headRequest round incoming
      (.opening options stream received calls)) := by
  have opened : ThrowsOther (fun result => result.2.gotHeaders = true)
      (receiveHeaders options headRequest round.headers incoming
        (.opening options stream received calls)) := by
    unfold Transfer.opening receiveHeaders
    simp only
    rw [if_neg (by omega), found]
    refine Ends.bind (throwingAt_other (parseResponseHeaders_other _ _)) fun response _ => ?_
    refine Ends.bind (emitResponseHeaders_other rfl) fun t' still => ?_
    refine Ends.bind (throwingAt_other (responseContentLength_other _)) fun length _ => ?_
    split_ifs
    · show OtherText (ascii "Content-Length exceeds max_response_bytes")
      exact otherText_ascii (by decide) (by decide)
    · exact still
  unfold receiveData
  rw [if_neg (by simp [Transfer.opening, Transfer.start])]
  refine Ends.bind opened fun result got => ?_
  obtain ⟨body, t'⟩ := result
  cases body with
  | none => exact got
  | some rest =>
      simp only
      split_ifs
      · exact got
      · exact receiveBody_other got

end Texts

/-! ## A round that does not come to its receive -/

section Cut

variable {options : HttpRequestOptions} {platform : Platform} {secure headRequest : Bool}
  {finishedMs : Int}

theorem requestCancelled_accepts (answer : CallbackAnswer) (t : Transfer) :
    ThrowsOther (fun result => result.1 = false →
        options.requestIndex = 0 ∨ answer.Accepts (·.toBoolean = false))
      (requestCancelled options answer t) := by
  unfold requestCancelled callRequestCallback
  by_cases uncalled : options.requestIndex = 0
  · rw [if_pos uncalled]
    exact fun _ => .inl uncalled
  rw [if_neg uncalled]
  cases answer with
  | absent => exact fun _ => .inr trivial
  | raised error =>
      have text : OtherText (ascii "should_cancel") := otherText_ascii (by decide) (by decide)
      exact (text.append _).append _
  | returned value => exact fun no => .inr no

theorem receiveRound_cut {round : Round} (cut : ¬ ReachesReceive options round) (t : Transfer) :
    ThrowsOther (fun _ => False) (receiveRound options platform secure headRequest round t) := by
  unfold receiveRound
  refine Ends.bind (requestCancelled_accepts round.cancel t) fun result accepts => ?_
  obtain ⟨cancelled, t'⟩ := result
  cases cancelled with
  | true => exact otherText_ascii (by decide) (by decide)
  | false =>
      have others : Ends OtherText (fun _ => True)
          (boundedTimeout options options.receiveTimeoutMs round.elapsedMs) := boundedTimeout_other _ _
      cases timed : boundedTimeout options options.receiveTimeoutMs round.elapsedMs with
      | error what =>
          rw [timed] at others
          exact others
      | ok timeout => exact absurd ⟨accepts rfl, timeout, timed⟩ cut

theorem receiveLoop_cut_first {round : Round} (cut : ¬ ReachesReceive options round) (rounds : List Round)
    (stream : Bytes) (received : Nat) (calls : List CalledBack) :
    ¬ (receiveLoop options platform secure headRequest finishedMs
      (.opening options stream received calls) (round :: rounds)).RaisesHeaderLimit := by
  have step : ThrowsOther (fun _ => False) (receiveRound options platform secure headRequest round
      (.opening options stream received calls)) := receiveRound_cut cut _
  rw [receiveLoop, if_neg (by simp [Transfer.opening, Transfer.start])]
  cases one : receiveRound options platform secure headRequest round
      (.opening options stream received calls) with
  | error thrown =>
      rw [one] at step
      rintro ⟨t', raised⟩
      exact OtherText.ne step (congrArg Thrown.what (Outcome.threw.inj raised))
  | ok t' =>
      rw [one] at step
      exact step.elim

theorem receiveLoop_cut {stream : Bytes} {separator : Nat} {rounds before after : List Round}
    {round : Round} {incoming : Bytes}
    (completes : CompletingReceive stream separator rounds before round incoming after)
    (room : separator + 4 ≤ 1024 * 1024)
    (cut : ¬ ∀ other ∈ before ++ [round], ReachesReceive options other)
    (received : Nat) (calls : List CalledBack) :
    ¬ (receiveLoop options platform secure headRequest finishedMs
      (.opening options stream received calls) rounds).RaisesHeaderLimit := by
  induction before generalizing stream rounds received calls with
  | nil =>
      obtain rfl := completes.split
      exact receiveLoop_cut_first (by simpa using cut) _ _ _ _
  | cons first before ih =>
      obtain rfl := completes.split
      by_cases reaches : ReachesReceive options first
      · obtain ⟨bytes, arrived, nonempty⟩ := completes.first_data
        obtain ⟨calls', one⟩ := completes.receiveLoop_first platform secure headRequest finishedMs room
          reaches arrived nonempty received calls
        rw [one]
        apply ih (completes.later arrived nonempty)
        intro later
        apply cut
        rw [List.cons_append, List.forall_mem_cons]
        exact ⟨reaches, later⟩
      · exact receiveLoop_cut_first reaches _ _ _ _

end Cut

/-! ## The limit -/

section Limit

variable {options : HttpRequestOptions} {platform : Platform} {secure headRequest : Bool}
  {finishedMs : Int}

theorem receiveLoop_headerLimit {rounds before after : List Round} {round : Round} {incoming : Bytes}
    {separator : Nat} (completes : CompletingReceive [] separator rounds before round incoming after)
    (room : separator + 4 ≤ 1024 * 1024)
    (reach : ∀ other ∈ before ++ [round], ReachesReceive options other) :
    (receiveLoop options platform secure headRequest finishedMs (Transfer.start options)
      rounds).RaisesHeaderLimit ↔ 1024 * 1024 < (peerStream (before ++ [round])).length := by
  obtain ⟨received, calls, run⟩ := receiveLoop_completing platform secure headRequest finishedMs
    completes room reach
  have found := completes.found
  rw [List.nil_append] at found
  rw [run, completes.sofar]
  constructor
  · intro raises
    by_contra short
    have data : ThrowsOther (·.gotHeaders = true) (receiveData options headRequest round incoming
        (.opening options (peerStream before) received calls)) :=
      receiveData_found_other (by omega) found
    cases result : receiveData options headRequest round incoming
        (.opening options (peerStream before) received calls) with
    | error thrown =>
        rw [result] at data raises
        obtain ⟨t', raised⟩ := raises
        exact OtherText.ne data (congrArg Thrown.what (Outcome.threw.inj raised))
    | ok t' =>
        rw [result] at data raises
        exact receiveLoop_other after data raises
  · intro long
    have fails : receiveHeaders options headRequest round.headers incoming
        (.opening options (peerStream before) received calls) =
          .error ⟨headerLimitText,
            .opening options (peerStream before ++ incoming) received calls⟩ := by
      unfold Transfer.opening receiveHeaders
      simp only
      rw [if_pos (by omega)]
      rfl
    rw [receiveData_opening_fails fails]
    exact ⟨_, rfl⟩

end Limit

/-- The peer answers with a header block of at most 1 MiB, with the blank line, and any bytes after
it. -/
structure SmallHeader (exchange : Exchange) (host : WString) (port : Int) (options : HttpRequestOptions)
    (header rest : Bytes) : Prop where
  dial : exchange.dial (dialOptions host port options) = none
  split : peerStream exchange.rounds = header ++ headerEnd ++ rest
  first : find headerEnd (peerStream exchange.rounds) = some header.length
  room : (header ++ headerEnd).length ≤ 1024 * 1024
  pieces : ∀ round ∈ exchange.rounds, ∀ bytes, round.received = .data bytes →
    bytes.length ≤ options.bufferSize

/-- The call sends the request and comes to the last of these receives. -/
structure ComesTo (exchange : Exchange) (request : Bytes) (options : HttpRequestOptions)
    (rounds : List Round) : Prop where
  onTime : ∃ timeout,
    boundedTimeout options options.sendTimeoutMs exchange.sendElapsedMs = .ok timeout
  sent : exchange.sent = some request.length
  reach : ∀ round ∈ rounds, ReachesReceive options round

section Call

variable {exchange : Exchange} {host : WString} {port : Int} {request : Bytes}
  {options : HttpRequestOptions}

theorem resolveHttpRequest_unsent (platform : Platform)
    (dial : exchange.dial (dialOptions host port options) = none)
    (unsent : ¬ ((∃ timeout,
      boundedTimeout options options.sendTimeoutMs exchange.sendElapsedMs = .ok timeout) ∧
        exchange.sent = some request.length)) :
    ¬ (resolveHttpRequest platform exchange host port request options).RaisesHeaderLimit := by
  rintro ⟨t, raised⟩
  unfold resolveHttpRequest at raised
  simp only [dial] at raised
  have others : Ends OtherText (fun _ => True)
      (boundedTimeout options options.sendTimeoutMs exchange.sendElapsedMs) := boundedTimeout_other _ _
  cases timed : boundedTimeout options options.sendTimeoutMs exchange.sendElapsedMs with
  | error what =>
      rw [timed] at raised others
      exact OtherText.ne others (congrArg Thrown.what (Outcome.threw.inj raised))
  | ok timeout =>
      rw [timed] at raised
      simp only at raised
      rw [if_neg fun sent => unsent ⟨⟨timeout, timed⟩, sent⟩] at raised
      have timedOut : OtherText (ascii "send" ++ ascii " timed out after ") := ⟨by decide, by decide⟩
      have failed : OtherText (ascii "send" ++ ascii " failed: ") := ⟨by decide, by decide⟩
      exact (socketErrorMessage_other platform timedOut failed _ _).ne
        (congrArg Thrown.what (Outcome.threw.inj raised))

/-- The exact cause, for a call that has been connected. -/
theorem resolveHttpRequest_headerLimit (platform : Platform) {header rest : Bytes}
    (small : SmallHeader exchange host port options header rest) {before after : List Round}
    {round : Round} {incoming : Bytes}
    (completes : CompletingReceive [] header.length exchange.rounds before round incoming after) :
    (resolveHttpRequest platform exchange host port request options).RaisesHeaderLimit ↔
      ComesTo exchange request options (before ++ [round]) ∧
        1024 * 1024 < (peerStream (before ++ [round])).length := by
  have room : header.length + 4 ≤ 1024 * 1024 := by
    have room := small.room
    rwa [List.length_append] at room
  by_cases sends : (∃ timeout,
      boundedTimeout options options.sendTimeoutMs exchange.sendElapsedMs = .ok timeout) ∧
        exchange.sent = some request.length
  · rw [resolveHttpRequest_sent small.dial sends.1 sends.2]
    by_cases reach : ∀ other ∈ before ++ [round], ReachesReceive options other
    · rw [receiveLoop_headerLimit completes room reach]
      exact (and_iff_right ⟨sends.1, sends.2, reach⟩).symm
    · apply iff_of_false
      · exact receiveLoop_cut completes room reach 0 []
      · exact fun comes => reach comes.1.reach
  · apply iff_of_false
    · exact resolveHttpRequest_unsent platform small.dial sends
    · exact fun comes => sends ⟨comes.1.onTime, comes.1.sent⟩

end Call

theorem headerLimit_iff (platform : Platform) (exchange : Exchange) (host : WString) (port : Int)
    (request : Bytes) (options : HttpRequestOptions) (header rest : Bytes)
    (small : SmallHeader exchange host port options header rest) :
    ¬ (resolveHttpRequest platform exchange host port request options).RaisesHeaderLimit ↔
      ∀ before round incoming after,
        CompletingReceive [] header.length exchange.rounds before round incoming after →
        ComesTo exchange request options (before ++ [round]) →
        (peerStream (before ++ [round])).length ≤ 1024 * 1024 := by
  constructor
  · intro silent before round incoming after completes comes
    by_contra long
    apply silent
    rw [resolveHttpRequest_headerLimit platform small completes]
    exact ⟨comes, by omega⟩
  · intro kept raises
    obtain ⟨before, round, incoming, after, completes⟩ :=
      completingReceive_exists [] rfl small.first
    obtain ⟨comes, long⟩ := (resolveHttpRequest_headerLimit platform small completes).mp raises
    have short := kept before round incoming after completes comes
    omega

theorem headerLimit_iff_plain :
    ¬ (resolveHttpRequest .blank (plainExchange headRequestText [chunkedHead.rawHeaders ++ headerEnd])
        [] 80 headRequestText {}).RaisesHeaderLimit ↔
      ∀ before round incoming after,
        CompletingReceive [] chunkedHead.rawHeaders.length (plainExchange headRequestText
          [chunkedHead.rawHeaders ++ headerEnd]).rounds before round incoming after →
        ComesTo (plainExchange headRequestText [chunkedHead.rawHeaders ++ headerEnd]) headRequestText {}
          (before ++ [round]) →
        (peerStream (before ++ [round])).length ≤ 1024 * 1024 :=
  headerLimit_iff .blank _ [] 80 headRequestText {} chunkedHead.rawHeaders []
    ⟨rfl, chunkedHead_is.split, chunkedHead_is.first, by decide, chunkedHead_is.undisturbed.pieces⟩

section Large

/-- All but the last letter of a header block, and then a full buffer that starts with that letter. -/
def largePieces (body : Bytes) : List Bytes := [ascii "HTTP/1.1 200 OK\r\n\r", 10 :: body]

def largeBuffer : HttpRequestOptions := { bufferSize := 1024 * 1024 }

variable {body : Bytes} (length : body.length + 1 = 1024 * 1024)
include length

theorem largePieces_small : SmallHeader (plainExchange headRequestText (largePieces body)) [] 80
    largeBuffer (ascii "HTTP/1.1 200 OK") body where
  dial := rfl
  split := by
    simp [plainExchange, largePieces, peerStream, ascii, headerEnd]
  first := by
    have whole : peerStream (plainExchange headRequestText (largePieces body)).rounds =
        ascii "HTTP/1.1 200 OK\r\n\r\n" ++ body := by
      simp [plainExchange, largePieces, peerStream, ascii]
    rw [whole]
    exact find_append (by decide) body
  room := by decide
  pieces := by
    simp only [plainExchange, List.forall_mem_map, Received.data.injEq, largePieces,
      List.forall_mem_cons]
    refine ⟨?_, ?_, by simp⟩
    · rintro bytes rfl
      decide
    · rintro bytes rfl
      rw [List.length_cons, length]
      exact le_rfl

theorem largePieces_raises : (resolveHttpRequest .blank
    (plainExchange headRequestText (largePieces body)) [] 80 headRequestText
    largeBuffer).RaisesHeaderLimit := by
  have completes : CompletingReceive [] (ascii "HTTP/1.1 200 OK").length
      (plainExchange headRequestText (largePieces body)).rounds
      [{ received := .data (ascii "HTTP/1.1 200 OK\r\n\r") }]
      { received := .data (10 :: body) } (10 :: body) [] := {
    split := rfl
    received := rfl
    nonempty := by simp
    sofar := by simp [peerStream, ascii]
    absent := by decide
    found := by
      have whole : [] ++ peerStream [{ received := .data (ascii "HTTP/1.1 200 OK\r\n\r") }] ++
          (10 :: body) = ascii "HTTP/1.1 200 OK\r\n\r\n" ++ body := by
        simp [peerStream, ascii]
      rw [whole]
      exact find_append (by decide) body }
  have reaches (received : Received) : ReachesReceive largeBuffer { received := received } :=
    ⟨.inr trivial, 300000, rfl⟩
  rw [resolveHttpRequest_headerLimit .blank (largePieces_small length) completes]
  constructor
  · exact ⟨⟨60000, rfl⟩, rfl, List.forall_mem_cons.mpr
      ⟨reaches _, List.forall_mem_singleton.mpr (reaches _)⟩⟩
  · rw [completes.sofar, List.length_append, List.length_cons, length]
    exact Nat.lt_add_of_pos_left (by decide)

end Large

theorem headerLimit_raised :
    1024 ≤ largeBuffer.bufferSize ∧ largeBuffer.bufferSize ≤ 1024 * 1024 ∧
    SmallHeader (plainExchange headRequestText (largePieces (List.replicate 1048575 0))) [] 80
      largeBuffer (ascii "HTTP/1.1 200 OK") (List.replicate 1048575 0) ∧
    (resolveHttpRequest .blank (plainExchange headRequestText (largePieces (List.replicate 1048575 0)))
      [] 80 headRequestText largeBuffer).RaisesHeaderLimit := by
  have length : (List.replicate 1048575 (0 : UInt8)).length + 1 = 1024 * 1024 := by
    rw [List.length_replicate]
  exact ⟨by decide, by decide, largePieces_small length, largePieces_raises length⟩

end LuaXENetwork
