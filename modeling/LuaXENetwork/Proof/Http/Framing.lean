import LuaXENetwork.Proof.Http.Exchange

namespace LuaXENetwork
open Library

/-! ## The limit holds throughout -/

section Limit

variable {options : HttpRequestOptions}

abbrev BodyStays (P : Bytes → Prop) (transfer : α → Transfer) : Except Thrown α → Prop :=
  Ends (fun thrown => P thrown.transfer.response.body) (fun a => P (transfer a).response.body)

section Steps

variable (P : Bytes → Prop) {t : Transfer} (holds : P t.response.body)
include holds

theorem callRequestCallback_stays {name : String} {call : CallbackCall} {answer : CallbackAnswer} :
    BodyStays P (·.2) (callRequestCallback options name call answer t) := by
  unfold callRequestCallback
  split_ifs
  · exact holds
  · cases answer <;> exact holds

theorem requestCancelled_stays {answer : CallbackAnswer} :
    BodyStays P (·.2) (requestCancelled options answer t) :=
  Ends.bind (callRequestCallback_stays P holds) fun _ still => still

theorem emitResponseHeaders_stays {answer : CallbackAnswer} :
    BodyStays P id (emitResponseHeaders options answer t) :=
  Ends.bind (callRequestCallback_stays P holds) fun _ still => still

theorem emitResponseChunk_stays {chunk : Bytes} {answer : CallbackAnswer} :
    BodyStays P id (emitResponseChunk options chunk answer t) := by
  unfold emitResponseChunk
  split_ifs
  · exact holds
  · refine Ends.bind (callRequestCallback_stays P holds) fun result still => ?_
    obtain ⟨value, t'⟩ := result
    simp only
    split_ifs <;> exact still

theorem throwingAt_stays {x : Except Bytes α} :
    Ends (fun thrown => P thrown.transfer.response.body) (fun a => x = .ok a) (throwingAt t x) := by
  cases x with
  | error what => exact holds
  | ok a => rfl

omit holds in
theorem parseResponseHeaders_body {block : Bytes} {before after : HttpResponse}
    (h : parseResponseHeaders block before = .ok after) : after.body = before.body := by
  unfold parseResponseHeaders at h
  simp only at h
  split_ifs at h
  exact (Except.ok.inj h) ▸ rfl

theorem receiveHeaders_stays {headRequest : Bool} {answer : CallbackAnswer} {incoming : Bytes} :
    BodyStays P (·.2) (receiveHeaders options headRequest answer incoming t) := by
  unfold receiveHeaders
  simp only
  split_ifs
  · exact holds
  cases find headerEnd (t.pendingHeaders ++ incoming) with
  | none => exact holds
  | some separator =>
      refine Ends.bind (throwingAt_stays P
        (t := { t with pendingHeaders := t.pendingHeaders ++ incoming }) holds) fun response parsed => ?_
      refine Ends.bind (emitResponseHeaders_stays P ?_) fun t₁ still => ?_
      · rw [parseResponseHeaders_body parsed]
        exact holds
      refine Ends.bind (throwingAt_stays P
        (t := { t₁ with chunked := responseChunked response }) still) fun length _ => ?_
      simp only
      split_ifs <;> exact still

theorem appendChunks_stays {chunks : List Bytes} {answers : List CallbackAnswer}
    (grows : ∀ taken, taken <+: chunks →
      (t.response.body ++ taken.flatten).length ≤ options.maxResponseBytes →
      P (t.response.body ++ taken.flatten)) :
    BodyStays P id (appendChunks options chunks answers t) := by
  induction chunks generalizing answers t with
  | nil => exact holds
  | cons chunk chunks ih =>
      have one (small : t.response.body.length + chunk.length ≤ options.maxResponseBytes) :
          P (t.response.body ++ chunk) := by
        simpa using grows [chunk] (by simp) (by simpa using small)
      cases appended : appendBody options chunk (answers.head?.getD .absent) t with
      | error thrown =>
          rw [appendChunks, appended]
          unfold appendBody at appended
          split_ifs at appended with large
          · obtain rfl := Except.error.inj appended
            exact holds
          · have emitted : BodyStays P id (emitResponseChunk options chunk (answers.head?.getD .absent)
                { t with response := { t.response with body := t.response.body ++ chunk } }) :=
              emitResponseChunk_stays P (one (by omega))
            rw [appended] at emitted
            exact emitted
      | ok t' =>
          rw [appendChunks, appended]
          obtain ⟨small, calls, rfl⟩ := appendBody_ok appended
          refine ih (one small) fun taken front room => ?_
          simpa using grows (chunk :: taken) (List.cons_prefix_cons.mpr ⟨rfl, front⟩) (by simpa using room)

end Steps

def Within (options : HttpRequestOptions) (t : Transfer) : Prop :=
  t.response.body.length ≤ options.maxResponseBytes

abbrev StaysWithin (options : HttpRequestOptions) (transfer : α → Transfer) :
    Except Thrown α → Prop :=
  BodyStays (·.length ≤ options.maxResponseBytes) transfer

theorem appendChunks_within {chunks : List Bytes} {answers : List CallbackAnswer} {t : Transfer}
    (within : Within options t) : StaysWithin options id (appendChunks options chunks answers t) :=
  appendChunks_stays (·.length ≤ options.maxResponseBytes) within fun _ _ room => room

theorem receiveBody_within {answers : List CallbackAnswer} {incoming : Bytes} {t : Transfer}
    (within : Within options t) :
    StaysWithin options id (receiveBody options answers incoming t) := by
  unfold receiveBody
  split_ifs
  · refine Ends.bind (throwingAt_stays (·.length ≤ options.maxResponseBytes) within) fun fed _ => ?_
    exact Ends.bind (appendChunks_within within) fun _ still => still
  · split
    · exact Ends.bind (appendChunks_within within) fun _ still => still
    · exact appendChunks_within within

theorem receiveData_within {headRequest : Bool} {round : Round} {incoming : Bytes} {t : Transfer}
    (within : Within options t) :
    StaysWithin options id (receiveData options headRequest round incoming t) := by
  unfold receiveData
  extract_lets goesOn
  have stays (opened : Option Bytes × Transfer) (still : Within options opened.2) :
      StaysWithin options id (goesOn opened) := by
    dsimp only [goesOn]
    split
    · exact still
    · split_ifs
      · exact still
      · exact receiveBody_within still
  split_ifs
  · exact stays (some incoming, t) within
  · exact Ends.bind (receiveHeaders_stays (·.length ≤ options.maxResponseBytes) within) stays

theorem receiveRound_within (platform : Platform) (secure headRequest : Bool) (round : Round)
    {t : Transfer} (within : Within options t) :
    StaysWithin options id (receiveRound options platform secure headRequest round t) := by
  refine Ends.bind (requestCancelled_stays (·.length ≤ options.maxResponseBytes) within) fun result still => ?_
  obtain ⟨cancelled, t'⟩ := result
  simp only
  split_ifs
  · exact still
  refine Ends.bind (throwingAt_stays (·.length ≤ options.maxResponseBytes) still) fun timeout _ => ?_
  cases round.received with
  | failed code =>
      simp only
      split_ifs <;> exact still
  | data incoming =>
      simp only
      split_ifs
      · exact still
      · exact receiveData_within still

def Outcome.body : Outcome → Bytes
  | .returned response => response.body
  | .threw thrown => thrown.transfer.response.body
  | .running t => t.response.body

theorem conclude_body (headRequest : Bool) (finishedMs : Int) (t : Transfer) :
    (conclude headRequest finishedMs t).body = t.response.body := by
  unfold conclude
  split_ifs
  · rfl
  · rfl
  · cases t.contentLength with
    | none => rfl
    | some n =>
        simp only
        split_ifs <;> rfl

theorem receiveLoop_within {platform : Platform} {secure headRequest : Bool} {finishedMs : Int}
    (rounds : List Round) {t : Transfer} (within : Within options t) :
    (receiveLoop options platform secure headRequest finishedMs t rounds).body.length ≤
      options.maxResponseBytes := by
  induction rounds generalizing t with
  | nil =>
      rw [receiveLoop]
      split_ifs
      · rw [conclude_body]
        exact within
      · exact within
  | cons round rounds ih =>
      rw [receiveLoop]
      split_ifs
      · rw [conclude_body]
        exact within
      have step := receiveRound_within platform secure headRequest round within
      cases one : receiveRound options platform secure headRequest round t with
      | error thrown =>
          rw [one] at step
          exact step
      | ok t' =>
          rw [one] at step
          exact ih step

end Limit

/-! ## A response framed by its length arrives -/

/-- The callback is not there, or it returns and its value is one that lets the call go on. -/
def CallbackAnswer.Accepts (accepted : LuaValue → Prop) : CallbackAnswer → Prop
  | .absent => True
  | .raised _ => False
  | .returned value => accepted value

/-- A round without timeout, cancellation or failing callback. -/
structure Quiet (options : HttpRequestOptions) (round : Round) : Prop where
  cancel : round.cancel.Accepts (·.toBoolean = false)
  headers : round.headers.Accepts fun _ => True
  chunks : ∀ answer ∈ round.chunks, answer.Accepts (keepsGoing · = true)
  onTime : ∃ timeout, boundedTimeout options options.receiveTimeoutMs round.elapsedMs = .ok timeout

section Quiet

variable {options : HttpRequestOptions}

theorem quiet_plain (received : Received) : Quiet {} { received := received } where
  cancel := trivial
  headers := trivial
  chunks := by simp
  onTime := ⟨300000, rfl⟩

theorem callRequestCallback_accepts (options : HttpRequestOptions) (name : String)
    (call : CallbackCall) {accepted : LuaValue → Prop} {answer : CallbackAnswer}
    (accepts : answer.Accepts accepted) (t : Transfer) : ∃ value calls,
      callRequestCallback options name call answer t = .ok (value, { t with calls := calls }) ∧
      ∀ v ∈ value, accepted v := by
  unfold callRequestCallback
  split_ifs
  · exact ⟨none, t.calls, rfl, by simp⟩
  cases answer with
  | absent => exact ⟨none, t.calls, rfl, by simp⟩
  | raised error => exact accepts.elim
  | returned value =>
      refine ⟨some value, _, rfl, fun v same => ?_⟩
      obtain rfl := Option.some.inj same
      exact accepts

theorem requestCancelled_quiet (options : HttpRequestOptions) {answer : CallbackAnswer}
    (quiet : answer.Accepts (·.toBoolean = false)) (t : Transfer) :
    ∃ calls, requestCancelled options answer t = .ok (false, { t with calls := calls }) := by
  obtain ⟨value, calls, called, accepted⟩ := 
    callRequestCallback_accepts options "should_cancel" .shouldCancel quiet t
  refine ⟨calls, ?_⟩
  rw [requestCancelled, called]
  cases value with
  | none => rfl
  | some v => simp [accepted v rfl]

theorem emitResponseHeaders_quiet (options : HttpRequestOptions) {answer : CallbackAnswer}
    (quiet : answer.Accepts fun _ => True) (t : Transfer) :
    ∃ calls, emitResponseHeaders options answer t = .ok { t with calls := calls } := by
  obtain ⟨value, calls, called, -⟩ := 
    callRequestCallback_accepts options "on_headers" (.onHeaders t.response) quiet t
  refine ⟨calls, ?_⟩
  rw [emitResponseHeaders, called]
  rfl

theorem emitResponseChunk_quiet (options : HttpRequestOptions) {answer : CallbackAnswer}
    (quiet : answer.Accepts (keepsGoing · = true)) (chunk : Bytes) (t : Transfer) :
    ∃ calls, emitResponseChunk options chunk answer t = .ok { t with calls := calls } := by
  unfold emitResponseChunk
  split_ifs
  · exact ⟨t.calls, rfl⟩
  obtain ⟨value, calls, called, accepted⟩ := 
    callRequestCallback_accepts options "on_chunk" (.onChunk chunk) quiet t
  refine ⟨calls, ?_⟩
  rw [called]
  cases value with
  | none => rfl
  | some v => simp [accepted v rfl]

theorem appendChunks_quiet {answers : List CallbackAnswer}
    (quiet : ∀ answer ∈ answers, answer.Accepts (keepsGoing · = true)) {chunk : Bytes} {t : Transfer}
    (fits : t.response.body.length + chunk.length ≤ options.maxResponseBytes) :
    ∃ calls, appendChunks options [chunk] answers t = .ok { t with
      response := { t.response with body := t.response.body ++ chunk }, calls := calls } := by
  have answered : (answers.head?.getD .absent).Accepts (keepsGoing · = true) := by
    cases answers with
    | nil => trivial
    | cons answer answers => exact quiet answer (by simp)
  obtain ⟨calls, emitted⟩ := emitResponseChunk_quiet options answered chunk
    { t with response := { t.response with body := t.response.body ++ chunk } }
  refine ⟨calls, ?_⟩
  rw [appendChunks, appendBody, if_neg (by omega), emitted]
  rfl

end Quiet

/-- The header block of a response whose body is announced to have `n` bytes. -/
structure LengthFramed (headRequest : Bool) (header : Bytes) (head : HttpResponse) (n : Nat) :
    Prop where
  parsed : parseResponseHeaders header {} = .ok head
  framed : bodyless headRequest head = false
  unchunked : responseChunked head = false
  length : responseContentLength head = .ok (some n)

section Converse

variable {options : HttpRequestOptions} {headRequest : Bool} {stream incoming header rest : Bytes}
  {head : HttpResponse} {n : Nat} {t : Transfer}

def Complete (n : Nat) (t : Transfer) : Prop :=
  t.gotHeaders = true ∧ n ≤ t.response.body.length

theorem receiveBody_quiet {answers : List CallbackAnswer}
    (quiet : ∀ answer ∈ answers, answer.Accepts (keepsGoing · = true)) (got : t.gotHeaders = true)
    (unchunked : t.chunked = false) (length : t.contentLength = some n)
    (fits : t.response.body.length ≤ n) (small : n ≤ options.maxResponseBytes) :
    ∃ t', receiveBody options answers incoming t = .ok t' ∧ (t'.finished = true ↔ Complete n t') := by
  have room : t.response.body.length + (incoming.take (n - t.response.body.length)).length ≤
      options.maxResponseBytes := by
    rw [List.length_take]
    omega
  obtain ⟨calls, appended⟩ := appendChunks_quiet quiet room
  unfold receiveBody
  simp only [unchunked, Bool.false_eq_true, if_false, length, appended, ok_bind]
  refine ⟨_, rfl, ?_⟩
  simp [Complete, got]

theorem HeadersRead.unique {whole header' rest' : Bytes} (read : HeadersRead stream t header' rest')
    (front : stream <+: whole) (split : whole = header ++ headerEnd ++ rest)
    (first : find headerEnd whole = some header.length) : header' = header := by
  obtain ⟨more, rfl⟩ := front
  have same : header'.length = header.length :=
    Option.some.inj ((find_append read.first more).symm.trans first)
  have begins : header' <+: stream ++ more := by
    rw [read.split]
    simp only [List.append_assoc]
    exact List.prefix_append _ _
  have begins' : header <+: stream ++ more := by
    rw [split, List.append_assoc]
    exact List.prefix_append _ _
  exact (List.prefix_of_prefix_length_le begins begins' same.le).eq_of_length same

theorem LengthFramed.transfer {header' rest' : Bytes}
    (frame : LengthFramed headRequest header' t.response.head n)
    (read : HeadersRead stream t header' rest') :
    t.chunked = false ∧ t.contentLength = some n := by
  refine ⟨by rw [read.chunked]; exact frame.unchunked, ?_⟩
  exact Except.ok.inj (read.length.symm.trans frame.length)

theorem receiveHeaders_quiet (frame : LengthFramed headRequest header head n)
    (small : n ≤ options.maxResponseBytes) {answer : CallbackAnswer}
    (quiet : answer.Accepts fun _ => True) {received : Nat}
    (fresh : t.response = { bytesReceived := received })
    (short : (t.pendingHeaders ++ incoming).length ≤ 1024 * 1024)
    (opens : ∀ separator, find headerEnd (t.pendingHeaders ++ incoming) = some separator →
      (t.pendingHeaders ++ incoming).take separator = header) :
    ∃ opened, receiveHeaders options headRequest answer incoming t = .ok opened := by
  unfold receiveHeaders
  simp only
  rw [if_neg (by omega)]
  cases found : find headerEnd (t.pendingHeaders ++ incoming) with
  | none => exact ⟨_, rfl⟩
  | some separator =>
      have parsed : parseResponseHeaders ((t.pendingHeaders ++ incoming).take separator) t.response =
          .ok { head with bytesReceived := received } := by
        rw [opens separator found, fresh, parseResponseHeaders_bytesReceived, frame.parsed]
        rfl
      have length : responseContentLength { head with bytesReceived := received } = .ok (some n) :=
        frame.length
      simp only [parsed, throwingAt, ok_bind]
      obtain ⟨calls, emitted⟩ := emitResponseHeaders_quiet options quiet { t with
        response := { head with bytesReceived := received }, pendingHeaders := [], gotHeaders := true }
      simp only [emitted, ok_bind, length, Option.getD_some]
      rw [if_neg (by omega)]
      exact ⟨_, rfl⟩

theorem receiveData_quiet {whole : Bytes} {size : Nat} (frame : LengthFramed headRequest header head n)
    (small : n ≤ options.maxResponseBytes) (room : header.length + 3 + size ≤ 1024 * 1024)
    (split : whole = header ++ headerEnd ++ rest)
    (first : find headerEnd whole = some header.length)
    (reached : Reached options headRequest stream t) (running : t.finished = false)
    (lacking : ¬ Complete n t) {round : Round} (quiet : Quiet options round)
    (front : stream ++ incoming <+: whole) (piece : incoming.length ≤ size) :
    ∃ t', receiveData options headRequest round incoming t = .ok t' ∧
      (t'.finished = true ↔ Complete n t') := by
  have begins : stream <+: whole := (List.prefix_append _ _).trans front
  unfold receiveData
  cases reached with
  | headers absent received calls same =>
      subst same
      have early : stream.length < header.length + 4 := by
        by_contra late
        have found := find_within begins first (show header.length + 4 ≤ stream.length by omega)
        simp [absent] at found
      have short : (stream ++ incoming).length ≤ 1024 * 1024 := by
        rw [List.length_append]
        omega
      have opens (separator : Nat) (found : find headerEnd (stream ++ incoming) = some separator) :
          (stream ++ incoming).take separator = header := by
        obtain ⟨more, rfl⟩ := front
        have same : separator = header.length :=
          Option.some.inj ((find_append found more).symm.trans first)
        have inside := add_length_le_of_find found
        have taken : (stream ++ incoming ++ more).take separator =
            (stream ++ incoming).take separator := List.take_append_of_le_length (by omega)
        rw [← taken, same, split, List.append_assoc, List.take_left]
      obtain ⟨⟨body, t₁⟩, opened⟩ := receiveHeaders_quiet
        (t := { Transfer.start options with
          response := { bytesReceived := received }, pendingHeaders := stream, calls := calls })
        frame small quiet.headers rfl short opens
      simp only [Transfer.start, Bool.false_eq_true, if_false]
      simp only [Transfer.start] at opened
      rw [opened, ok_bind]
      rcases receiveHeaders_ok opened with
        ⟨rfl, absent', rfl⟩ | ⟨header', rest', rfl, read, empty, decoder, ended⟩
      · exact ⟨_, rfl, by simp [Complete, Transfer.start]⟩
      · have same := read.unique front split first
        subst same
        have parsed := Except.ok.inj (read.head.symm.trans frame.parsed)
        rw [← parsed] at frame
        obtain ⟨unchunked, length⟩ := frame.transfer read
        have alive : t₁.finished = false := by rw [ended]; exact frame.framed
        simp only [alive, Bool.false_eq_true, if_false]
        exact receiveBody_quiet quiet.chunks read.got unchunked length (by simp [empty]) small
  | bodyless read none empty ended => simp [running] at ended
  | @body header' rest' read framed body =>
      have same := read.unique begins split first
      subst same
      have parsed := Except.ok.inj (read.head.symm.trans frame.parsed)
      rw [← parsed] at frame
      obtain ⟨unchunked, length⟩ := frame.transfer read
      have fits : t.response.body.length ≤ n := by
        by_contra beyond
        exact lacking ⟨read.got, by omega⟩
      simp only [read.got, if_true, pure_bind, running, Bool.false_eq_true, if_false]
      exact receiveBody_quiet quiet.chunks read.got unchunked length fits small

theorem body_of_reached {whole : Bytes} (frame : LengthFramed headRequest header head n)
    (split : whole = header ++ headerEnd ++ rest) (first : find headerEnd whole = some header.length)
    (reached : Reached options headRequest stream t) (front : stream <+: whole)
    (got : t.gotHeaders = true) :
    t.chunked = false ∧ t.contentLength = some n ∧ bodyless headRequest t.response = false ∧
      ∃ rest', stream = header ++ headerEnd ++ rest' ∧ t.response.body = rest'.take n := by
  cases reached with
  | headers absent received calls same =>
      subst same
      simp [Transfer.start] at got
  | bodyless read none empty ended =>
      have same := read.unique front split first
      subst same
      have parsed := Except.ok.inj (read.head.symm.trans frame.parsed)
      have framed := frame.framed
      rw [← parsed] at framed
      cases none.symm.trans framed
  | @body header' rest' read framed body =>
      have same := read.unique front split first
      subst same
      have parsed := Except.ok.inj (read.head.symm.trans frame.parsed)
      rw [← parsed] at frame
      obtain ⟨unchunked, length⟩ := frame.transfer read
      refine ⟨unchunked, length, framed, rest', read.split, ?_⟩
      simpa [BodyRead, unchunked, length] using body

theorem complete_of_whole {whole : Bytes} (frame : LengthFramed headRequest header head n)
    (split : whole = header ++ headerEnd ++ rest) (first : find headerEnd whole = some header.length)
    (enough : n ≤ rest.length) (reached : Reached options headRequest whole t) : Complete n t := by
  have got : t.gotHeaders = true := by
    cases reached with
    | headers absent received calls same => simp [absent] at first
    | bodyless read none empty ended => exact read.got
    | body read framed body => exact read.got
  obtain ⟨-, -, -, rest', split', body⟩ :=
    body_of_reached frame split first reached List.prefix_rfl got
  obtain rfl := List.append_cancel_left (split'.symm.trans split)
  refine ⟨got, ?_⟩
  rw [body, List.length_take]
  omega

theorem conclude_complete {whole : Bytes} (frame : LengthFramed headRequest header head n)
    (split : whole = header ++ headerEnd ++ rest) (first : find headerEnd whole = some header.length)
    (reached : Reached options headRequest stream t) (front : stream <+: whole)
    (complete : Complete n t) (finishedMs : Int) :
    conclude headRequest finishedMs t = .returned { t.response with elapsedMs := finishedMs } := by
  obtain ⟨got, enough⟩ := complete
  obtain ⟨unchunked, length, framed, rest', split', body⟩ :=
    body_of_reached frame split first reached front got
  have exactly : t.response.body.length = n := by
    rw [body, List.length_take] at enough ⊢
    omega
  simp [conclude, got, unchunked, length, exactly]

theorem receiveLoop_returns {whole : Bytes} {size : Nat} (frame : LengthFramed headRequest header head n)
    (small : n ≤ options.maxResponseBytes) (limit : options.maxResponseBytes < 2 ^ 63)
    (room : header.length + 3 + size ≤ 1024 * 1024)
    (split : whole = header ++ headerEnd ++ rest)
    (first : find headerEnd whole = some header.length) (enough : n ≤ rest.length)
    {platform : Platform} {secure : Bool} {finishedMs : Int} (rounds : List Round)
    (quiet : ∀ round ∈ rounds, Quiet options round)
    (pieces : ∀ round ∈ rounds, ∀ bytes, round.received = .data bytes → bytes.length ≤ size)
    (reached : Reached options headRequest stream t) (complete : t.finished = true ↔ Complete n t)
    (sent : whole = stream ++ peerStream rounds) :
    ∃ response,
      receiveLoop options platform secure headRequest finishedMs t rounds = .returned response := by
  induction rounds generalizing stream t with
  | nil =>
      simp only [peerStream, List.append_nil] at sent
      subst sent
      have full := complete_of_whole frame split first enough reached
      rw [receiveLoop, if_pos (complete.mpr full)]
      exact ⟨_, conclude_complete frame split first reached List.prefix_rfl full finishedMs⟩
  | cons round rounds ih =>
      have front : stream <+: whole := by
        rw [sent]
        exact List.prefix_append _ _
      rw [receiveLoop]
      by_cases finished : t.finished = true
      · rw [if_pos finished]
        exact ⟨_, conclude_complete frame split first reached front (complete.mp finished) finishedMs⟩
      rw [if_neg finished]
      have running : t.finished = false := Bool.not_eq_true _ ▸ finished
      have lacking : ¬ Complete n t := fun full => finished (complete.mpr full)
      have more : peerStream (round :: rounds) ≠ [] := by
        intro none
        rw [none, List.append_nil] at sent
        subst sent
        exact lacking (complete_of_whole frame split first enough reached)
      cases received : round.received with
      | failed code => exact absurd (by simp [peerStream, received]) more
      | data incoming =>
          cases incoming with
          | nil => exact absurd (by simp [peerStream, received]) more
          | cons b incoming =>
              have sends : peerStream (round :: rounds) = b :: incoming ++ peerStream rounds := by
                simp [peerStream, received]
              rw [sends, ← List.append_assoc] at sent
              have calm := quiet round (by simp)
              obtain ⟨calls, asked⟩ := requestCancelled_quiet options calm.cancel t
              obtain ⟨timeout, onTime⟩ := calm.onTime
              have reached' := reached.received
                (t.response.bytesReceived + (b :: incoming).length) calls
              obtain ⟨t', data, complete'⟩ := receiveData_quiet frame small room split first reached'
                running lacking calm (sent ▸ List.prefix_append _ _) (pieces round (by simp) _ received)
              have one : receiveRound options platform secure headRequest round t = .ok t' := by
                unfold receiveRound
                simp only [asked, ok_bind, Bool.false_eq_true, if_false, onTime, throwingAt, received]
                rw [if_neg (by simp)]
                exact data
              rw [one]
              obtain ⟨next, -⟩ := receiveData_ok limit reached' running data
              exact ih (fun round member => quiet round (by simp [member]))
                (fun round member => pieces round (by simp [member])) next complete' sent

end Converse

/-! ## The whole call -/

/-- Dial and send succeed, no timeout passes, the callbacks let the transfer go on, and no receive
brings more than the buffer holds. -/
structure Undisturbed (exchange : Exchange) (host : WString) (port : Int) (request : Bytes)
    (options : HttpRequestOptions) : Prop where
  dial : exchange.dial (dialOptions host port options) = none
  onTime : ∃ timeout,
    boundedTimeout options options.sendTimeoutMs exchange.sendElapsedMs = .ok timeout
  sent : exchange.sent = some request.length
  quiet : ∀ round ∈ exchange.rounds, Quiet options round
  pieces : ∀ round ∈ exchange.rounds, ∀ bytes, round.received = .data bytes →
    bytes.length ≤ options.bufferSize

theorem reached_start (options : HttpRequestOptions) (headRequest : Bool) :
    Reached options headRequest [] (Transfer.start options) :=
  .headers rfl 0 [] rfl

theorem resolveHttpRequest_cases (platform : Platform) (exchange : Exchange) (host : WString)
    (port : Int) (request : Bytes) (options : HttpRequestOptions) :
    resolveHttpRequest platform exchange host port request options =
      receiveLoop options platform (options.useSsl port) (isHeadRequest request) exchange.finishedMs
        (Transfer.start options) exchange.rounds ∨
    ∃ what, resolveHttpRequest platform exchange host port request options =
      .threw ⟨what, Transfer.start options⟩ := by
  unfold resolveHttpRequest
  simp only
  cases exchange.dial (dialOptions host port options) with
  | some error => exact .inr ⟨_, rfl⟩
  | none =>
      cases boundedTimeout options options.sendTimeoutMs exchange.sendElapsedMs with
      | error what => exact .inr ⟨_, rfl⟩
      | ok timeout =>
          simp only
          split_ifs
          · exact .inl rfl
          · exact .inr ⟨_, rfl⟩

theorem resolveHttpRequest_sent {platform : Platform} {exchange : Exchange} {host : WString}
    {port : Int} {request : Bytes} {options : HttpRequestOptions}
    (dial : exchange.dial (dialOptions host port options) = none)
    (onTime : ∃ timeout,
      boundedTimeout options options.sendTimeoutMs exchange.sendElapsedMs = .ok timeout)
    (sent : exchange.sent = some request.length) :
    resolveHttpRequest platform exchange host port request options =
      receiveLoop options platform (options.useSsl port) (isHeadRequest request) exchange.finishedMs
        (Transfer.start options) exchange.rounds := by
  obtain ⟨timeout, onTime⟩ := onTime
  simp only [resolveHttpRequest, dial, onTime, sent, if_true]
  rfl

theorem resolveHttpRequest_undisturbed {platform : Platform} {exchange : Exchange} {host : WString}
    {port : Int} {request : Bytes} {options : HttpRequestOptions}
    (undisturbed : Undisturbed exchange host port request options) :
    resolveHttpRequest platform exchange host port request options =
      receiveLoop options platform (options.useSsl port) (isHeadRequest request) exchange.finishedMs
        (Transfer.start options) exchange.rounds :=
  resolveHttpRequest_sent undisturbed.dial undisturbed.onTime undisturbed.sent

theorem resolveHttpRequest_returned {platform : Platform} {exchange : Exchange} {host : WString}
    {port : Int} {request : Bytes} {options : HttpRequestOptions} {response : HttpResponse}
    (limit : options.maxResponseBytes < 2 ^ 63)
    (returned : resolveHttpRequest platform exchange host port request options =
      .returned response) :
    ∃ header rest, ResponseOf options.maxResponseBytes (isHeadRequest request)
      (peerCloses (options.useSsl port) exchange.rounds) (peerStream exchange.rounds) response
      header rest := by
  rcases resolveHttpRequest_cases platform exchange host port request options with
    loop | ⟨what, threw⟩
  · rw [loop] at returned
    exact receiveLoop_returned limit exchange.rounds (reached_start options _)
      (by simp [Transfer.start]) returned
  · rw [threw] at returned
    cases returned

theorem resolveHttpRequest_within (platform : Platform) (exchange : Exchange) (host : WString)
    (port : Int) (request : Bytes) (options : HttpRequestOptions) :
    (resolveHttpRequest platform exchange host port request options).body.length ≤
      options.maxResponseBytes := by
  rcases resolveHttpRequest_cases platform exchange host port request options with
    loop | ⟨what, threw⟩
  · rw [loop]
    exact receiveLoop_within exchange.rounds (Nat.zero_le _)
  · rw [threw]
    exact Nat.zero_le _

theorem resolveHttpRequest_returns (platform : Platform) {exchange : Exchange} {host : WString}
    {port : Int} {request header rest : Bytes} {options : HttpRequestOptions} {head : HttpResponse}
    {n : Nat} (limit : options.maxResponseBytes < 2 ^ 63)
    (frame : LengthFramed (isHeadRequest request) header head n)
    (small : n ≤ options.maxResponseBytes)
    (room : header.length + 4 + options.bufferSize ≤ 1024 * 1024)
    (split : peerStream exchange.rounds = header ++ headerEnd ++ rest)
    (first : find headerEnd (peerStream exchange.rounds) = some header.length)
    (enough : n ≤ rest.length) (undisturbed : Undisturbed exchange host port request options) :
    ∃ response, resolveHttpRequest platform exchange host port request options =
      .returned response := by
  rw [resolveHttpRequest_undisturbed undisturbed]
  exact receiveLoop_returns frame small limit (by omega) split first enough exchange.rounds
    undisturbed.quiet undisturbed.pieces (reached_start options _)
    (by simp [Transfer.start, Complete]) rfl

theorem ResponseOf.lengthFramed {maximum : Nat} {headRequest closed : Bool}
    {stream header header' rest rest' : Bytes} {response head : HttpResponse} {n : Nat}
    (is : ResponseOf maximum headRequest closed stream response header' rest')
    (frame : LengthFramed headRequest header head n) (split : stream = header ++ headerEnd ++ rest)
    (first : find headerEnd stream = some header.length) :
    response.head = head ∧ response.body = rest.take n := by
  have size : header'.length = header.length := Option.some.inj (is.first.symm.trans first)
  have both := is.split.symm.trans split
  rw [List.append_assoc, List.append_assoc] at both
  obtain ⟨rfl, after⟩ := List.append_inj both size
  obtain rfl := List.append_cancel_left after
  have parsed := Except.ok.inj (is.head.symm.trans frame.parsed)
  rw [← parsed] at frame
  have framed : bodyless headRequest response = false := frame.framed
  have unchunked : responseChunked response = false := frame.unchunked
  have length : responseContentLength response = .ok (some n) := frame.length
  have body := is.body
  simp only [BodyOf, framed, unchunked, length, Bool.false_eq_true, if_false, Except.ok.injEq,
    exists_eq_left'] at body
  exact ⟨parsed, body.2⟩

/-- What the call returns is what the peer's bytes say, however they were cut; its body stays within
the limit all the way; and a response framed by its length does arrive. -/
theorem resolveHttpRequest_framing (platform : Platform) (exchange : Exchange) (host : WString)
    (port : Int) (request : Bytes) (options : HttpRequestOptions)
    (limit : options.maxResponseBytes < 2 ^ 63) :
    (∀ response, resolveHttpRequest platform exchange host port request options =
        .returned response →
      ∃ header rest, ResponseOf options.maxResponseBytes (isHeadRequest request)
        (peerCloses (options.useSsl port) exchange.rounds) (peerStream exchange.rounds) response
        header rest) ∧
    (∀ rounds, rounds <+: exchange.rounds →
      (resolveHttpRequest platform { exchange with rounds := rounds } host port request
        options).body.length ≤ options.maxResponseBytes) ∧
    (∀ header rest head n, LengthFramed (isHeadRequest request) header head n →
      n ≤ options.maxResponseBytes → header.length + 4 + options.bufferSize ≤ 1024 * 1024 →
      peerStream exchange.rounds = header ++ headerEnd ++ rest →
      find headerEnd (peerStream exchange.rounds) = some header.length → n ≤ rest.length →
      Undisturbed exchange host port request options →
      ∃ response, resolveHttpRequest platform exchange host port request options =
        .returned response) := by
  refine ⟨fun response returned => resolveHttpRequest_returned limit returned,
    fun rounds _ => resolveHttpRequest_within .., ?_⟩
  intro header rest head n frame small room split first enough undisturbed
  exact resolveHttpRequest_returns platform limit frame small room split first enough undisturbed

/-- An exchange that only the peer's pieces shape. -/
def plainExchange (request : Bytes) (pieces : List Bytes) : Exchange where
  dial _ := none
  sent := some request.length
  rounds := pieces.map fun piece => { received := .data piece }

theorem undisturbed_plain (host : WString) (port : Int) (request : Bytes) {pieces : List Bytes}
    (small : ∀ piece ∈ pieces, piece.length ≤ 16384) :
    Undisturbed (plainExchange request pieces) host port request {} where
  dial := rfl
  onTime := ⟨60000, rfl⟩
  sent := rfl
  quiet := by
    simp only [plainExchange, List.forall_mem_map]
    exact fun piece _ => quiet_plain _
  pieces := by
    simp only [plainExchange, List.forall_mem_map, Received.data.injEq]
    rintro piece member bytes rfl
    exact small piece member

theorem resolveHttpRequest_framing_cut :
    ∃ response, resolveHttpRequest .blank
      (plainExchange (ascii "GET / HTTP/1.1\r\n\r\n") [ascii "HTTP/1.1 200 OK\r\nContent-Le",
        ascii "ngth: 3\r\n\r", ascii "\nabcd"])
      [] 80 (ascii "GET / HTTP/1.1\r\n\r\n") {} = .returned response := by
  refine (resolveHttpRequest_framing .blank _ [] 80 _ {} (by decide)).2.2
    (ascii "HTTP/1.1 200 OK\r\nContent-Length: 3") (ascii "abcd")
    { rawHeaders := ascii "HTTP/1.1 200 OK\r\nContent-Length: 3"
      version := ascii "HTTP/1.1"
      reason := ascii "OK"
      headers := [(ascii "content-length", ascii "3")]
      status := 200 } 3 ?_ (by decide) (by decide) (by decide) (by decide) (by decide)
    (undisturbed_plain [] 80 _ (by decide))
  exact ⟨by decide +kernel, by decide, by decide, by decide⟩

end LuaXENetwork
