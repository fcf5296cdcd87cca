import LuaXENetwork.Proof.Http.Framing

/-! The receive loop up to the end of the header block, and responses that end there. -/

namespace LuaXENetwork
open Library

/-- The locals while the header block is not complete. -/
def Transfer.opening (options : HttpRequestOptions) (stream : Bytes) (received : Nat)
    (calls : List CalledBack) : Transfer :=
  { Transfer.start options with
    response := { bytesReceived := received }, pendingHeaders := stream, calls := calls }

theorem peerStream_data {round : Round} {incoming : Bytes} (received : round.received = .data incoming)
    (some : incoming ≠ []) (rounds : List Round) :
    peerStream (round :: rounds) = incoming ++ peerStream rounds := by
  cases incoming with
  | nil => contradiction
  | cons b incoming => simp [peerStream, received]

theorem peerStream_prefix {rounds more : List Round} (front : rounds <+: more) :
    peerStream rounds <+: peerStream more := by
  induction rounds generalizing more with
  | nil => exact List.nil_prefix
  | cons round rounds ih =>
      obtain ⟨rest, rfl⟩ := front
      have later := ih (List.prefix_append rounds rest)
      cases received : round.received with
      | failed code => simp [peerStream, received]
      | data incoming =>
          cases incoming with
          | nil => simp [peerStream, received]
          | cons b incoming =>
              rw [List.cons_append, peerStream_data received (by simp),
                peerStream_data received (by simp)]
              exact (List.prefix_append_right_inj _).mpr later

/-- The receive that completes the header block. -/
structure CompletingReceive (stream : Bytes) (separator : Nat) (rounds before : List Round)
    (round : Round) (incoming : Bytes) (after : List Round) : Prop where
  split : rounds = before ++ round :: after
  received : round.received = .data incoming
  nonempty : incoming ≠ []
  sofar : peerStream (before ++ [round]) = peerStream before ++ incoming
  absent : find headerEnd (stream ++ peerStream before) = none
  found : find headerEnd (stream ++ peerStream before ++ incoming) = some separator

section Phase

variable {options : HttpRequestOptions} {platform : Platform} {secure headRequest : Bool}
  {finishedMs : Int} {stream : Bytes} {separator : Nat}

theorem completingReceive_exists (stream : Bytes) {rounds : List Round}
    (absent : find headerEnd stream = none)
    (found : find headerEnd (stream ++ peerStream rounds) = some separator) :
    ∃ before round incoming after,
      CompletingReceive stream separator rounds before round incoming after := by
  induction rounds generalizing stream with
  | nil =>
      rw [peerStream, List.append_nil, absent] at found
      contradiction
  | cons round rounds ih =>
      cases received : round.received with
      | failed code => simp [peerStream, received, absent] at found
      | data incoming =>
          by_cases nonempty : incoming = []
          · subst nonempty
            simp [peerStream, received, absent] at found
          rw [peerStream_data received nonempty, ← List.append_assoc] at found
          cases now : find headerEnd (stream ++ incoming) with
          | some position =>
              have same := find_append now (peerStream rounds)
              rw [found] at same
              exact ⟨[], round, incoming, rounds, rfl, received, nonempty,
                by simp [peerStream_data received nonempty, peerStream],
                by simpa [peerStream] using absent, by simpa [peerStream, same] using now⟩
          | none =>
              obtain ⟨before, round', incoming', after, is⟩ := ih (stream ++ incoming) now found
              have front (more : List Round) :
                  peerStream (round :: (before ++ more)) = incoming ++ peerStream (before ++ more) :=
                peerStream_data received nonempty _
              exact ⟨round :: before, round', incoming', after, by rw [is.split]; rfl, is.received,
                is.nonempty,
                by rw [List.cons_append, front, is.sofar, peerStream_data received nonempty,
                  List.append_assoc],
                by rw [peerStream_data received nonempty, ← List.append_assoc, is.absent],
                by rw [peerStream_data received nonempty, ← List.append_assoc, is.found]⟩

/-- Neither `should_cancel` nor the total timeout ends the round before its receive. -/
structure ReachesReceive (options : HttpRequestOptions) (round : Round) : Prop where
  cancel : options.requestIndex = 0 ∨ round.cancel.Accepts (·.toBoolean = false)
  onTime : ∃ timeout, boundedTimeout options options.receiveTimeoutMs round.elapsedMs = .ok timeout

theorem Quiet.reaches {round : Round} (quiet : Quiet options round) : ReachesReceive options round :=
  ⟨.inr quiet.cancel, quiet.onTime⟩

theorem ReachesReceive.uncancelled {round : Round} (reaches : ReachesReceive options round) (t : Transfer) :
    ∃ calls, requestCancelled options round.cancel t = .ok (false, { t with calls := calls }) := by
  rcases reaches.cancel with uncalled | accepts
  · refine ⟨t.calls, ?_⟩
    unfold requestCancelled callRequestCallback
    rw [if_pos uncalled]
    rfl
  · exact requestCancelled_quiet options accepts t

theorem ReachesReceive.receiveRound (platform : Platform) (secure headRequest : Bool) {round : Round}
    (reaches : ReachesReceive options round) {incoming : Bytes}
    (received : round.received = .data incoming) (nonempty : incoming ≠ []) (t : Transfer) :
    ∃ calls, receiveRound options platform secure headRequest round t =
      receiveData options headRequest round incoming { t with
        response := { t.response with
          bytesReceived := t.response.bytesReceived + incoming.length }
        calls := calls } := by
  obtain ⟨calls, asked⟩ := reaches.uncancelled t
  obtain ⟨timeout, onTime⟩ := reaches.onTime
  refine ⟨calls, ?_⟩
  unfold LuaXENetwork.receiveRound
  simp only [asked, ok_bind, Bool.false_eq_true, if_false, onTime, throwingAt, received]
  rw [if_neg nonempty]

theorem receiveData_opening_absent {round : Round} {incoming : Bytes} {received : Nat}
    {calls : List CalledBack} (absent : find headerEnd (stream ++ incoming) = none)
    (short : (stream ++ incoming).length ≤ 1024 * 1024) :
    receiveData options headRequest round incoming (.opening options stream received calls) =
      .ok (.opening options (stream ++ incoming) received calls) := by
  have opened : receiveHeaders options headRequest round.headers incoming
      (.opening options stream received calls) =
        .ok (none, .opening options (stream ++ incoming) received calls) := by
    unfold Transfer.opening receiveHeaders
    simp only
    rw [if_neg (by omega), absent]
  unfold receiveData
  rw [if_neg (by simp [Transfer.opening, Transfer.start]), opened]
  rfl

theorem absent_of_prefix {front whole : Bytes} (is : front <+: whole)
    (absent : find headerEnd whole = none) : find headerEnd front = none := by
  obtain ⟨more, rfl⟩ := is
  cases found : find headerEnd front with
  | none => rfl
  | some position =>
      rw [find_append found more] at absent
      contradiction

theorem take_of_found {front more header rest : Bytes}
    (whole : front ++ more = header ++ headerEnd ++ rest)
    (found : find headerEnd front = some header.length) : front.take header.length = header := by
  have inside := add_length_le_of_find found
  have early : header.length ≤ front.length := by omega
  calc front.take header.length
      = (front ++ more).take header.length := (List.take_append_of_le_length early).symm
    _ = header := by rw [whole, List.append_assoc, List.take_left]

theorem length_of_absent {front whole : Bytes} (is : front <+: whole)
    (absent : find headerEnd front = none) (found : find headerEnd whole = some separator) :
    front.length < separator + 4 := by
  by_contra late
  have inside := find_within is found (show separator + headerEnd.length ≤ front.length by
    rw [show headerEnd.length = 4 from rfl]
    omega)
  rw [absent] at inside
  contradiction

theorem CompletingReceive.first_data {rounds before after : List Round} {first round : Round}
    {incoming : Bytes}
    (completes : CompletingReceive stream separator rounds (first :: before) round incoming after) :
    ∃ bytes, first.received = .data bytes ∧ bytes ≠ [] := by
  have sofar := completes.sofar
  have nonempty := completes.nonempty
  cases arrived : first.received with
  | failed code => simp [peerStream, arrived, nonempty.symm] at sofar
  | data bytes =>
      cases bytes with
      | nil => simp [peerStream, arrived, nonempty.symm] at sofar
      | cons b bytes => exact ⟨b :: bytes, rfl, by simp⟩

theorem CompletingReceive.later {rounds before after : List Round} {first round : Round}
    {incoming bytes : Bytes}
    (completes : CompletingReceive stream separator rounds (first :: before) round incoming after)
    (arrived : first.received = .data bytes) (nonempty : bytes ≠ []) :
    CompletingReceive (stream ++ bytes) separator (before ++ round :: after) before round incoming
      after := by
  have front (more : List Round) : peerStream (first :: more) = bytes ++ peerStream more :=
    peerStream_data arrived nonempty more
  exact {
    split := rfl
    received := completes.received
    nonempty := completes.nonempty
    sofar := by
      have sofar := completes.sofar
      rw [List.cons_append, front, front, List.append_assoc] at sofar
      exact List.append_cancel_left sofar
    absent := by
      have absent := completes.absent
      rwa [front, ← List.append_assoc] at absent
    found := by
      have found := completes.found
      rwa [front, ← List.append_assoc] at found }

/-- A receive in front of the one that completes the header block only adds its bytes. -/
theorem CompletingReceive.receiveLoop_first (platform : Platform) (secure headRequest : Bool)
    (finishedMs : Int) {before after : List Round} {first round : Round} {incoming bytes : Bytes}
    (completes : CompletingReceive stream separator (first :: before ++ round :: after)
      (first :: before) round incoming after)
    (room : separator + 4 ≤ 1024 * 1024) (reaches : ReachesReceive options first)
    (arrived : first.received = .data bytes) (nonempty : bytes ≠ [])
    (received : Nat) (calls : List CalledBack) :
    ∃ calls', receiveLoop options platform secure headRequest finishedMs
        (.opening options stream received calls) (first :: before ++ round :: after) =
      receiveLoop options platform secure headRequest finishedMs
        (.opening options (stream ++ bytes) (received + bytes.length) calls')
        (before ++ round :: after) := by
  have front : peerStream (first :: before) = bytes ++ peerStream before :=
    peerStream_data arrived nonempty before
  have absent : find headerEnd (stream ++ bytes) = none := by
    apply absent_of_prefix _ completes.absent
    rw [front, ← List.append_assoc]
    exact List.prefix_append _ _
  have short : (stream ++ bytes).length < separator + 4 := by
    apply length_of_absent _ absent completes.found
    rw [front, ← List.append_assoc, List.append_assoc]
    exact List.prefix_append _ _
  obtain ⟨calls', one⟩ := reaches.receiveRound platform secure headRequest arrived nonempty
    (.opening options stream received calls)
  have data : receiveData options headRequest first bytes
      (.opening options stream (received + bytes.length) calls') =
        .ok (.opening options (stream ++ bytes) (received + bytes.length) calls') :=
    receiveData_opening_absent absent (by omega)
  refine ⟨calls', ?_⟩
  rw [List.cons_append, receiveLoop, if_neg (by simp [Transfer.opening, Transfer.start]), one]
  simp only [Transfer.opening] at data ⊢
  rw [data]

/-- Up to the receive that completes the header block the loop only collects bytes. -/
theorem receiveLoop_opening (platform : Platform) (secure headRequest : Bool) (finishedMs : Int)
    {rounds before after : List Round} {round : Round} {incoming : Bytes}
    (completes : CompletingReceive stream separator rounds before round incoming after)
    (room : separator + 4 ≤ 1024 * 1024) (reach : ∀ round ∈ before, ReachesReceive options round)
    (received : Nat) (calls : List CalledBack) :
    ∃ received' calls', receiveLoop options platform secure headRequest finishedMs
        (.opening options stream received calls) rounds =
      receiveLoop options platform secure headRequest finishedMs
        (.opening options (stream ++ peerStream before) received' calls') (round :: after) := by
  induction before generalizing stream rounds received calls with
  | nil =>
      obtain rfl := completes.split
      exact ⟨received, calls, by simp [peerStream]⟩
  | cons first before ih =>
      obtain rfl := completes.split
      obtain ⟨bytes, arrived, nonempty⟩ := completes.first_data
      have front : peerStream (first :: before) = bytes ++ peerStream before :=
        peerStream_data arrived nonempty before
      obtain ⟨calls', one⟩ := completes.receiveLoop_first platform secure headRequest finishedMs room
        (reach first List.mem_cons_self) arrived nonempty received calls
      obtain ⟨received'', calls'', run⟩ := ih (completes.later arrived nonempty)
        (fun round member => reach round (List.mem_cons_of_mem _ member))
        (received + bytes.length) calls'
      refine ⟨received'', calls'', ?_⟩
      rw [one, run, front, List.append_assoc]

theorem CompletingReceive.reach {rounds before after : List Round} {round : Round} {incoming : Bytes}
    (completes : CompletingReceive stream separator rounds before round incoming after)
    (quiet : ∀ round ∈ rounds, Quiet options round) :
    ∀ other ∈ before ++ [round], ReachesReceive options other := by
  intro other member
  apply Quiet.reaches
  apply quiet
  rw [completes.split, ← List.singleton_append, ← List.append_assoc]
  exact List.mem_append_left _ member

/-- The loop comes to the receive that completes the header block, and goes on from there. -/
theorem receiveLoop_completing (platform : Platform) (secure headRequest : Bool) (finishedMs : Int)
    {rounds before after : List Round} {round : Round} {incoming : Bytes}
    (completes : CompletingReceive [] separator rounds before round incoming after)
    (room : separator + 4 ≤ 1024 * 1024)
    (reach : ∀ other ∈ before ++ [round], ReachesReceive options other) :
    ∃ received calls, receiveLoop options platform secure headRequest finishedMs
        (Transfer.start options) rounds =
      match receiveData options headRequest round incoming
        (.opening options (peerStream before) received calls) with
      | .error thrown => .threw thrown
      | .ok t => receiveLoop options platform secure headRequest finishedMs t after := by
  obtain ⟨received, calls, run⟩ := receiveLoop_opening platform secure headRequest finishedMs
    completes room (fun other member => reach other (List.mem_append_left _ member)) 0 []
  obtain ⟨calls', one⟩ := (reach round (by simp)).receiveRound platform secure headRequest
    completes.received completes.nonempty (.opening options (peerStream before) received calls)
  refine ⟨received + incoming.length, calls', ?_⟩
  rw [List.nil_append] at run
  rw [show Transfer.start options = .opening options [] 0 [] from rfl, run, receiveLoop,
    if_neg (by simp [Transfer.opening, Transfer.start]), one]
  rfl

/-- The locals when the header block has just been read. -/
def Transfer.opened (options : HttpRequestOptions) (headRequest : Bool) (head : HttpResponse)
    (length : Option Nat) (received : Nat) (calls : List CalledBack) : Transfer :=
  { Transfer.start options with
    response := { head with bytesReceived := received }
    gotHeaders := true
    chunked := responseChunked head
    finished := bodyless headRequest head
    contentLength := length
    calls := calls }

/-- The Content-Length, if there is one, can be read and stays within `max_response_bytes`. -/
def LengthAdmitted (options : HttpRequestOptions) (head : HttpResponse) : Prop :=
  ∃ length, responseContentLength head = .ok length ∧ length.getD 0 ≤ options.maxResponseBytes

theorem receiveHeaders_found (options : HttpRequestOptions) (headRequest : Bool)
    {answer : CallbackAnswer} (quiet : answer.Accepts fun _ => True)
    {incoming : Bytes} {head : HttpResponse} (short : (stream ++ incoming).length ≤ 1024 * 1024)
    (found : find headerEnd (stream ++ incoming) = some separator)
    (parsed : parseResponseHeaders ((stream ++ incoming).take separator) {} = .ok head)
    (received : Nat) (calls : List CalledBack) :
    (∃ length calls', responseContentLength head = .ok length ∧
      length.getD 0 ≤ options.maxResponseBytes ∧
      receiveHeaders options headRequest answer incoming (.opening options stream received calls) =
        .ok (some ((stream ++ incoming).drop (separator + 4)),
          .opened options headRequest head length received calls')) ∨
    (∃ thrown, receiveHeaders options headRequest answer incoming
        (.opening options stream received calls) = .error thrown) ∧
      ¬ LengthAdmitted options head := by
  have parsed' : parseResponseHeaders ((stream ++ incoming).take separator)
      { bytesReceived := received } = .ok { head with bytesReceived := received } := by
    rw [parseResponseHeaders_bytesReceived, parsed]
    rfl
  obtain ⟨calls', emitted⟩ := emitResponseHeaders_quiet options quiet
    { Transfer.start options with
      response := { head with bytesReceived := received }, gotHeaders := true, calls := calls }
  have same : responseContentLength { head with bytesReceived := received } =
      responseContentLength head := rfl
  unfold Transfer.opening receiveHeaders
  simp only
  rw [if_neg (by omega), found]
  simp only [parsed', throwingAt, ok_bind]
  simp only [Transfer.start] at emitted ⊢
  simp only [emitted, ok_bind, same]
  cases announced : responseContentLength head with
  | error what =>
      right
      exact ⟨⟨_, rfl⟩, by simp [LengthAdmitted, announced]⟩
  | ok length =>
      by_cases fits : length.getD 0 ≤ options.maxResponseBytes
      · left
        refine ⟨length, calls', rfl, fits, ?_⟩
        simp only [ok_bind]
        rw [if_neg (by omega)]
        rfl
      · right
        refine ⟨?_, by simpa [LengthAdmitted, announced] using fits⟩
        simp only [ok_bind]
        rw [if_pos (by omega)]
        exact ⟨_, rfl⟩

theorem receiveData_opening_found {round : Round} {incoming rest : Bytes} {received : Nat}
    {calls : List CalledBack} {t : Transfer} (ended : t.finished = true)
    (opened : receiveHeaders options headRequest round.headers incoming
      (.opening options stream received calls) = .ok (some rest, t)) :
    receiveData options headRequest round incoming (.opening options stream received calls) = .ok t := by
  unfold receiveData
  rw [if_neg (by simp [Transfer.opening, Transfer.start]), opened]
  simp only [ok_bind, ended, if_true]
  rfl

theorem receiveData_opening_fails {round : Round} {incoming : Bytes} {received : Nat}
    {calls : List CalledBack} {thrown : Thrown}
    (fails : receiveHeaders options headRequest round.headers incoming
      (.opening options stream received calls) = .error thrown) :
    receiveData options headRequest round incoming (.opening options stream received calls) =
      .error thrown := by
  unfold receiveData
  rw [if_neg (by simp [Transfer.opening, Transfer.start]), fails]
  rfl

/-! ## Responses without a body -/

theorem conclude_bodyless {head : HttpResponse} {length : Option Nat} {received : Nat}
    {calls : List CalledBack} (none : bodyless headRequest head = true) (empty : head.body = []) :
    (∃ response, conclude headRequest finishedMs (.opened options headRequest head length received calls) =
      .returned response ∧ response.body = []) ↔ responseChunked head = false := by
  have same : bodyless headRequest { head with bytesReceived := received } = true := none
  cases chunked : responseChunked head with
  | true => simp [conclude, Transfer.opened, Transfer.start, chunked, HttpChunkDecoder.complete,
      HttpChunkDecoder.fresh]
  | false =>
      cases length with
      | none => simp [conclude, Transfer.opened, chunked, empty]
      | some n => simpa [conclude, Transfer.opened, chunked, same] using empty

theorem receiveLoop_bodyless {rounds : List Round} {header rest : Bytes} {head : HttpResponse}
    (parsed : parseResponseHeaders header {} = .ok head)
    (none : bodyless headRequest head = true)
    (room : header.length + 4 + options.bufferSize ≤ 1024 * 1024)
    (split : peerStream rounds = header ++ headerEnd ++ rest)
    (first : find headerEnd (peerStream rounds) = some header.length)
    (quiet : ∀ round ∈ rounds, Quiet options round)
    (pieces : ∀ round ∈ rounds, ∀ bytes, round.received = .data bytes →
      bytes.length ≤ options.bufferSize) :
    (∃ response, receiveLoop options platform secure headRequest finishedMs (Transfer.start options)
      rounds = .returned response ∧ response.body = []) ↔
      LengthAdmitted options head ∧ responseChunked head = false := by
  obtain ⟨before, round, incoming, after, completes⟩ :=
    completingReceive_exists [] rfl first
  have member : round ∈ rounds := by simp [completes.split]
  obtain ⟨received, calls, run⟩ := receiveLoop_completing platform secure headRequest finishedMs
    completes (by omega) (completes.reach quiet)
  have absent := completes.absent
  have found := completes.found
  rw [List.nil_append] at absent found
  have front : peerStream before ++ incoming <+: peerStream rounds := by
    rw [← completes.sofar]
    apply peerStream_prefix
    exact ⟨after, by simp [completes.split]⟩
  have short : (peerStream before ++ incoming).length ≤ 1024 * 1024 := by
    have early := length_of_absent ((List.prefix_append _ _).trans front) absent first
    have piece := pieces round member incoming completes.received
    rw [List.length_append]
    omega
  have header_eq : (peerStream before ++ incoming).take header.length = header := by
    obtain ⟨more, whole⟩ := front
    exact take_of_found (whole.trans split) found
  have empty : head.body = [] := parseResponseHeaders_body parsed
  rw [run]
  rcases receiveHeaders_found options headRequest
      (quiet round member).headers short found (by rw [header_eq]; exact parsed) received calls with
    ⟨length, calls', announced, fits, opened⟩ | ⟨⟨thrown, fails⟩, refused⟩
  · have admitted : LengthAdmitted options head := ⟨length, announced, fits⟩
    rw [receiveData_opening_found (t := .opened options headRequest head length received calls') none
      opened]
    have ends (rounds : List Round) :
        receiveLoop options platform secure headRequest finishedMs (.opened options headRequest head
          length received calls') rounds =
        conclude headRequest finishedMs (.opened options headRequest head length received calls') := by
      cases rounds <;> exact if_pos none
    simp only [ends, conclude_bodyless none empty, admitted, true_and]
  · simp [receiveData_opening_fails fails, refused]

end Phase

/-- The peer answers with a complete header block of a response that has no body. -/
structure BodylessResponse (exchange : Exchange) (host : WString) (port : Int) (request : Bytes)
    (options : HttpRequestOptions) (header rest : Bytes) (head : HttpResponse) : Prop where
  split : peerStream exchange.rounds = header ++ headerEnd ++ rest
  first : find headerEnd (peerStream exchange.rounds) = some header.length
  parsed : parseResponseHeaders header {} = .ok head
  none : bodyless (isHeadRequest request) head = true
  room : header.length + 4 + options.bufferSize ≤ 1024 * 1024
  undisturbed : Undisturbed exchange host port request options

/-- As soon as the receives have brought the whole header block, the call has returned with an empty
body. -/
def ReturnsEmpty (platform : Platform) (exchange : Exchange) (host : WString) (port : Int)
    (request : Bytes) (options : HttpRequestOptions) : Prop :=
  ∀ rounds, rounds <+: exchange.rounds → (find headerEnd (peerStream rounds)).isSome = true →
    ∃ response, resolveHttpRequest platform { exchange with rounds := rounds } host port request options =
      .returned response ∧ response.body = []

theorem resolveHttpRequest_bodyless {platform : Platform} {exchange : Exchange} {host : WString}
    {port : Int} {request : Bytes} {options : HttpRequestOptions} {header rest : Bytes}
    {head : HttpResponse} (is : BodylessResponse exchange host port request options header rest head)
    {rounds : List Round} (front : rounds <+: exchange.rounds)
    (complete : (find headerEnd (peerStream rounds)).isSome = true) :
    (∃ response, resolveHttpRequest platform { exchange with rounds := rounds } host port request
      options = .returned response ∧ response.body = []) ↔
      LengthAdmitted options head ∧ responseChunked head = false := by
  obtain ⟨position, found⟩ := Option.isSome_iff_exists.mp complete
  obtain ⟨more, whole⟩ := peerStream_prefix front
  have same : position = header.length := by
    have still := find_append found more
    rw [whole, is.first] at still
    exact (Option.some.inj still).symm
  subst same
  have cut := eq_append_of_find found
  have header_eq : (peerStream rounds).take header.length = header :=
    take_of_found (whole.trans is.split) found
  rw [header_eq] at cut
  have calm : Undisturbed { exchange with rounds := rounds } host port request options := {
    dial := is.undisturbed.dial
    onTime := is.undisturbed.onTime
    sent := is.undisturbed.sent
    quiet := fun round member => is.undisturbed.quiet round (front.subset member)
    pieces := fun round member => is.undisturbed.pieces round (front.subset member) }
  rw [resolveHttpRequest_undisturbed calm]
  exact receiveLoop_bodyless is.parsed is.none is.room cut found calm.quiet calm.pieces

theorem returnsEmpty_iff (platform : Platform) (exchange : Exchange) (host : WString) (port : Int)
    (request : Bytes) (options : HttpRequestOptions) (header rest : Bytes) (head : HttpResponse)
    (is : BodylessResponse exchange host port request options header rest head) :
    ReturnsEmpty platform exchange host port request options ↔
      LengthAdmitted options head ∧ responseChunked head = false := by
  constructor
  · intro holds
    have complete : (find headerEnd (peerStream exchange.rounds)).isSome = true := by simp [is.first]
    exact (resolveHttpRequest_bodyless is List.prefix_rfl complete).mp (holds _ List.prefix_rfl complete)
  · intro admitted rounds front complete
    exact (resolveHttpRequest_bodyless is front complete).mpr admitted

section Examples

def headRequestText : Bytes := ascii "HEAD / HTTP/1.1\r\n\r\n"

def chunkedHead : HttpResponse where
  rawHeaders := ascii "HTTP/1.1 200 OK\r\nTransfer-Encoding: chunked"
  version := ascii "HTTP/1.1"
  reason := ascii "OK"
  headers := [(ascii "transfer-encoding", ascii "chunked")]
  status := 200

theorem chunkedHead_is : BodylessResponse
    (plainExchange headRequestText [chunkedHead.rawHeaders ++ headerEnd]) [] 80 headRequestText {}
    chunkedHead.rawHeaders [] chunkedHead where
  split := by decide
  first := by decide
  parsed := by decide +kernel
  none := by decide
  room := by decide
  undisturbed := undisturbed_plain [] 80 _ (by decide)

end Examples

theorem returnsEmpty_iff_chunked :
    ReturnsEmpty .blank (plainExchange headRequestText [chunkedHead.rawHeaders ++ headerEnd]) [] 80
      headRequestText {} ↔ LengthAdmitted {} chunkedHead ∧ responseChunked chunkedHead = false :=
  returnsEmpty_iff .blank _ [] 80 headRequestText {} chunkedHead.rawHeaders [] chunkedHead chunkedHead_is

theorem returnsEmpty_chunked :
    BodylessResponse (plainExchange headRequestText [chunkedHead.rawHeaders ++ headerEnd]) [] 80
      headRequestText {} chunkedHead.rawHeaders [] chunkedHead ∧
    responseContentLength chunkedHead = .ok none ∧
    ¬ ReturnsEmpty .blank (plainExchange headRequestText [chunkedHead.rawHeaders ++ headerEnd]) [] 80
      headRequestText {} := by
  refine ⟨chunkedHead_is, by decide, fun holds => ?_⟩
  have complete : (find headerEnd (peerStream (plainExchange headRequestText
      [chunkedHead.rawHeaders ++ headerEnd]).rounds)).isSome = true := by decide
  have both := (resolveHttpRequest_bodyless chunkedHead_is List.prefix_rfl complete).mp
    (holds _ List.prefix_rfl complete)
  exact absurd both.2 (by decide)

end LuaXENetwork
