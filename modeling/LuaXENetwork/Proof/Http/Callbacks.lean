import LuaXENetwork.Proof.Http.Framing

/-! The order of the callbacks of a request, and that `on_chunk` is handed the body. -/

namespace LuaXENetwork
open Library

/-! ## Logs of callback calls -/

def CallbackCall.chunk : CallbackCall → Bytes
  | .onChunk chunk => chunk
  | _ => []

def chunkArguments (calls : List CalledBack) : Bytes := (calls.map (·.call.chunk)).flatten

/-- Every call comes where it may. With `there` set, every chunk was handed to `on_chunk`. -/
inductive Orderly (there : Prop) : List CalledBack → Prop where
  | nil : Orderly there []
  | snoc {calls : List CalledBack} {entry : CalledBack} (before : Orderly there calls)
      (accepted : ∀ earlier ∈ calls, earlier.refused = false)
      (headers : ∀ response, entry.call = .onHeaders response →
        ∀ earlier ∈ calls, earlier.call = .shouldCancel)
      (nonempty : ∀ chunk, entry.call = .onChunk chunk → chunk ≠ [])
      (agrees : there → chunkArguments (calls ++ [entry]) = entry.body) :
      Orderly there (calls ++ [entry])

theorem chunkArguments_snoc (calls : List CalledBack) (entry : CalledBack) :
    chunkArguments (calls ++ [entry]) = chunkArguments calls ++ entry.call.chunk := by
  simp [chunkArguments]

theorem Orderly.at {there : Prop} {calls : List CalledBack} (h : Orderly there calls)
    {before after : List CalledBack} {entry : CalledBack} (split : calls = before ++ entry :: after) :
    Orderly there (before ++ [entry]) ∧ (entry.refused = true → after = []) := by
  induction h generalizing after with
  | nil => simp at split
  | @snoc calls last before' accepted headers nonempty agrees ih =>
      rcases List.eq_nil_or_concat after with rfl | ⟨after, final, rfl⟩
      · obtain ⟨rfl, same⟩ := List.append_inj' split rfl
        obtain rfl := (List.cons.inj same).1
        exact ⟨.snoc before' accepted headers nonempty agrees, fun _ => rfl⟩
      · rw [List.concat_eq_append, ← List.cons_append, ← List.append_assoc] at split
        obtain ⟨rfl, -⟩ := List.append_inj' split rfl
        refine ⟨(ih rfl).1, fun refused => ?_⟩
        rw [accepted entry (by simp)] at refused
        contradiction

theorem Orderly.last {there : Prop} {calls : List CalledBack} {entry : CalledBack}
    (h : Orderly there (calls ++ [entry])) :
    (∀ response, entry.call = .onHeaders response → ∀ earlier ∈ calls, earlier.call = .shouldCancel) ∧
    (∀ chunk, entry.call = .onChunk chunk → chunk ≠ []) ∧
    (there → chunkArguments (calls ++ [entry]) = entry.body) := by
  generalize whole : calls ++ [entry] = log at h
  cases h with
  | nil => simp at whole
  | snoc before accepted headers nonempty agrees =>
      obtain ⟨rfl, same⟩ := List.append_inj' whole rfl
      obtain rfl := (List.cons.inj same).1
      exact ⟨headers, nonempty, agrees⟩

/-! ## What a step of the call does to the log -/

structure Sound (there : Prop) (t : Transfer) : Prop where
  orderly : Orderly there t.calls
  agrees : there → chunkArguments t.calls = t.response.body

structure Kept (options : HttpRequestOptions) (there : Prop) (t : Transfer) : Prop
    extends Sound there t where
  limit : t.decoder.maximum = options.maxResponseBytes
  accepted : ∀ entry ∈ t.calls, entry.refused = false
  unopened : t.gotHeaders = false → ∀ entry ∈ t.calls, entry.call = .shouldCancel

abbrev Keeps (there : Prop) (kept : α → Prop) : Except Thrown α → Prop :=
  Ends (fun thrown => Sound there thrown.transfer) kept

section Steps

variable {options : HttpRequestOptions} {there : Prop} {t : Transfer}

theorem callRequestCallback_keeps {name : String} {call : CallbackCall} {answer : CallbackAnswer}
    (orderly : Orderly there t.calls) (accepted : ∀ entry ∈ t.calls, entry.refused = false)
    (headers : ∀ response, call = .onHeaders response → ∀ entry ∈ t.calls, entry.call = .shouldCancel)
    (nonempty : ∀ chunk, call = .onChunk chunk → chunk ≠ [])
    (agrees : there → chunkArguments t.calls ++ call.chunk = t.response.body)
    (asked : there → call.chunk ≠ [] → options.requestIndex ≠ 0 ∧ answer ≠ .absent) :
    Keeps there (fun result => Sound there result.2 ∧
      ((result.1 = none ∧ result.2 = t) ∨
        ∃ value, result = (some value, t.calledBack call (.returned value))))
      (callRequestCallback options name call answer t) := by
  have called (answer : CallbackAnswer) : Sound there (t.calledBack call answer) := by
    have agrees' (is : there) :
        chunkArguments (t.calls ++ [⟨call, t.response.body, call.refusedBy answer⟩]) =
          t.response.body := by
      rw [chunkArguments_snoc, agrees is]
    exact ⟨.snoc orderly accepted headers nonempty agrees', agrees'⟩
  have uncalled (skipped : there → call.chunk = []) : Sound there t :=
    ⟨orderly, fun is => by rw [← agrees is, skipped is, List.append_nil]⟩
  unfold callRequestCallback
  split_ifs with unasked
  · refine ⟨uncalled fun is => ?_, .inl ⟨rfl, rfl⟩⟩
    by_contra some
    exact (asked is some).1 unasked
  · cases answer with
    | absent =>
        refine ⟨uncalled fun is => ?_, .inl ⟨rfl, rfl⟩⟩
        by_contra some
        exact (asked is some).2 rfl
    | raised error => exact called _
    | returned value => exact ⟨called _, .inr ⟨value, rfl⟩⟩

theorem requestCancelled_keeps {answer : CallbackAnswer} (kept : Kept options there t) :
    Keeps there (fun result => Sound there result.2 ∧ (result.1 = false → Kept options there result.2))
      (requestCancelled options answer t) := by
  refine Ends.bind (callRequestCallback_keeps kept.orderly kept.accepted (by simp) (by simp)
    (fun is => by simpa [CallbackCall.chunk] using kept.agrees is)
    (by simp [CallbackCall.chunk])) fun result ends => ?_
  obtain ⟨sound, ⟨none, same⟩ | ⟨value, rfl⟩⟩ := ends
  · obtain ⟨value, t'⟩ := result
    subst none same
    exact ⟨sound, fun _ => kept⟩
  · refine ⟨sound, fun goes => ⟨sound, kept.limit, ?_, ?_⟩⟩
    · intro entry member
      simp only [Transfer.calledBack, List.mem_append, List.mem_singleton] at member
      rcases member with member | rfl
      · exact kept.accepted entry member
      · exact goes
    · intro unopened entry member
      simp only [Transfer.calledBack, List.mem_append, List.mem_singleton] at member
      rcases member with member | rfl
      · exact kept.unopened unopened entry member
      · rfl

theorem emitResponseHeaders_keeps {answer : CallbackAnswer} (sound : Sound there t)
    (accepted : ∀ entry ∈ t.calls, entry.refused = false)
    (unopened : ∀ entry ∈ t.calls, entry.call = .shouldCancel) (got : t.gotHeaders = true)
    (limit : t.decoder.maximum = options.maxResponseBytes) :
    Keeps there (fun t' => Kept options there t' ∧ t'.gotHeaders = true)
      (emitResponseHeaders options answer t) := by
  refine Ends.bind (callRequestCallback_keeps sound.orderly accepted (fun _ _ => unopened) (by simp)
    (fun is => by simpa [CallbackCall.chunk] using sound.agrees is)
    (by simp [CallbackCall.chunk])) fun result ends => ?_
  obtain ⟨sound', ⟨none, same⟩ | ⟨value, rfl⟩⟩ := ends
  · obtain ⟨value, t'⟩ := result
    subst none same
    exact ⟨⟨sound', limit, accepted, fun _ => unopened⟩, got⟩
  · refine ⟨⟨sound', limit, ?_, fun closed => ?_⟩, got⟩
    · intro entry member
      simp only [Transfer.calledBack, List.mem_append, List.mem_singleton] at member
      rcases member with member | rfl
      · exact accepted entry member
      · rfl
    · exact nomatch got.symm.trans closed

structure Answered (options : HttpRequestOptions) (most : Nat) (answers : List CallbackAnswer) :
    Prop where
  index : options.requestIndex ≠ 0
  enough : most ≤ answers.length
  present : ∀ answer ∈ answers, answer ≠ .absent

theorem appendBody_keeps {chunk : Bytes} {answer : CallbackAnswer} (kept : Kept options there t)
    (got : t.gotHeaders = true) (asked : there → options.requestIndex ≠ 0 ∧ answer ≠ .absent) :
    Keeps there (fun t' => Kept options there t' ∧ t'.gotHeaders = true)
      (appendBody options chunk answer t) := by
  unfold appendBody emitResponseChunk
  split_ifs with large empty
  · exact kept.toSound
  · subst empty
    have same : { t with response := { t.response with body := t.response.body ++ [] } } = t := by simp
    rw [same]
    exact ⟨kept, got⟩
  refine Ends.bind (callRequestCallback_keeps kept.orderly kept.accepted (by simp)
    (by simpa using empty) (fun is => by simp [CallbackCall.chunk, kept.agrees is])
    (fun is _ => asked is)) fun result ends => ?_
  obtain ⟨sound, ⟨none, same⟩ | ⟨value, rfl⟩⟩ := ends
  · obtain ⟨value, t'⟩ := result
    subst none same
    exact ⟨⟨sound, kept.limit, kept.accepted, fun closed => nomatch got.symm.trans closed⟩, got⟩
  · simp only [Option.map_some, Option.getD_some]
    split_ifs with stops
    · exact sound
    · refine ⟨⟨sound, kept.limit, ?_, fun closed => nomatch got.symm.trans closed⟩, got⟩
      intro entry member
      simp only [Transfer.calledBack, List.mem_append, List.mem_singleton] at member
      rcases member with member | rfl
      · exact kept.accepted entry member
      · simpa [CallbackCall.refusedBy] using stops

theorem appendChunks_keeps {chunks : List Bytes} {answers : List CallbackAnswer} (kept : Kept options there t)
    (got : t.gotHeaders = true) (asked : there → Answered options chunks.length answers) :
    Keeps there (fun t' => Kept options there t' ∧ t'.gotHeaders = true)
      (appendChunks options chunks answers t) := by
  induction chunks generalizing answers t with
  | nil => exact ⟨kept, got⟩
  | cons chunk chunks ih =>
      refine Ends.bind (appendBody_keeps kept got fun is => ?_) fun t' ends => ih ends.1 ends.2 ?_
      · obtain ⟨index, enough, present⟩ := asked is
        cases answers with
        | nil => simp at enough
        | cons answer answers => exact ⟨index, present answer (by simp)⟩
      · intro is
        obtain ⟨index, enough, present⟩ := asked is
        cases answers with
        | nil => simp at enough
        | cons answer answers =>
            exact ⟨index, by simpa using enough, fun other member => present other (by simp_all)⟩

theorem chunks_of_drain {d d' : HttpChunkDecoder} {chunks : List Bytes}
    (h : d.drain = .ok (chunks, d')) : chunks.length ≤ d.buffer.length ∧ d'.maximum = d.maximum := by
  induction d using HttpChunkDecoder.drain.induct generalizing chunks with
  | case5 d running unsized lineEnd found size sized ih =>
      obtain ⟨buffer, remaining, finished, maximum⟩ := d
      obtain rfl : finished = false := Bool.not_eq_true _ ▸ running
      obtain rfl : remaining = none := unsized
      rw [HttpChunkDecoder.drain_size_line found sized] at h
      exact ⟨(ih h).1.trans (by simp), (ih h).2⟩
  | case7 d running size sized enough ends ih =>
      obtain ⟨buffer, remaining, finished, maximum⟩ := d
      obtain rfl : finished = false := Bool.not_eq_true _ ▸ running
      obtain rfl : remaining = some size := sized
      simp only [HttpChunkDecoder.drain_chunk enough ends, bind_eq_ok, pure_eq_ok, Prod.exists,
        Prod.mk.injEq] at h
      obtain ⟨later, d', drains, rfl, rfl⟩ := h
      obtain ⟨shorter, same⟩ := ih drains
      have there := congrArg List.length ends
      simp only [List.length_take, List.length_drop, crlf_length] at there shorter ⊢
      rw [List.length_cons]
      exact ⟨by omega, same⟩
  | case1 d finished =>
      rw [HttpChunkDecoder.drain, if_pos finished] at h
      cases h
      exact ⟨Nat.zero_le _, rfl⟩
  | case6 d running size sized short =>
      obtain ⟨buffer, remaining, finished, maximum⟩ := d
      obtain rfl : finished = false := Bool.not_eq_true _ ▸ running
      obtain rfl : remaining = some size := sized
      rw [HttpChunkDecoder.drain_short short] at h
      cases h
      exact ⟨Nat.zero_le _, rfl⟩
  | case8 d running size sized enough bad =>
      obtain ⟨buffer, remaining, finished, maximum⟩ := d
      obtain rfl : finished = false := Bool.not_eq_true _ ▸ running
      obtain rfl : remaining = some size := sized
      rw [HttpChunkDecoder.drain_bad_end enough bad] at h
      contradiction
  | case2 d running unsized absent =>
      obtain ⟨buffer, remaining, finished, maximum⟩ := d
      obtain rfl : finished = false := Bool.not_eq_true _ ▸ running
      obtain rfl : remaining = none := unsized
      rw [HttpChunkDecoder.drain_no_line absent] at h
      cases h
      exact ⟨Nat.zero_le _, rfl⟩
  | case3 d running unsized lineEnd found what bad =>
      obtain ⟨buffer, remaining, finished, maximum⟩ := d
      obtain rfl : finished = false := Bool.not_eq_true _ ▸ running
      obtain rfl : remaining = none := unsized
      rw [HttpChunkDecoder.drain_bad_line found bad] at h
      contradiction
  | case4 d running unsized lineEnd found last =>
      obtain ⟨buffer, remaining, finished, maximum⟩ := d
      obtain rfl : finished = false := Bool.not_eq_true _ ▸ running
      obtain rfl : remaining = none := unsized
      rw [HttpChunkDecoder.drain_last_line found last] at h
      cases h
      exact ⟨Nat.zero_le _, rfl⟩

theorem chunks_of_feed {d d' : HttpChunkDecoder} {data : Bytes} {chunks : List Bytes}
    (h : d.feed data = .ok (chunks, d')) : 
    chunks.length ≤ sizeT (d.maximum + 1024 * 1024) ∧ d'.maximum = d.maximum := by
  obtain ⟨bound, same⟩ := chunks_of_drain (HttpChunkDecoder.drain_of_feed h)
  rw [HttpChunkDecoder.feed] at h
  by_cases large : sizeT (d.maximum + 1024 * 1024) < (d.buffer ++ data).length
  · rw [if_pos large] at h
    contradiction
  · simp only at bound
    exact ⟨by omega, same⟩

theorem throwingAt_keeps {x : Except Bytes α} (sound : Sound there t) :
    Keeps there (fun a => x = .ok a) (throwingAt t x) := by
  cases x with
  | error what => exact sound
  | ok a => rfl

theorem receiveHeaders_keeps {headRequest : Bool} {answer : CallbackAnswer} {incoming : Bytes}
    (kept : Kept options there t) (closed : t.gotHeaders = false) :
    Keeps there (fun result => Kept options there result.2 ∧ (result.1 ≠ none → result.2.gotHeaders = true))
      (receiveHeaders options headRequest answer incoming t) := by
  unfold receiveHeaders
  simp only
  split_ifs with large
  · exact ⟨kept.orderly, kept.agrees⟩
  cases find headerEnd (t.pendingHeaders ++ incoming) with
  | none =>
      refine ⟨⟨⟨kept.orderly, kept.agrees⟩, kept.limit, kept.accepted, kept.unopened⟩, fun some => ?_⟩
      contradiction
  | some separator =>
      refine Ends.bind (throwingAt_keeps ⟨kept.orderly, kept.agrees⟩) fun response parsed => ?_
      have body := parseResponseHeaders_body parsed
      refine Ends.bind (emitResponseHeaders_keeps ⟨kept.orderly, fun is => ?_⟩ kept.accepted
        (kept.unopened closed) rfl kept.limit) fun t' ends => ?_
      · rw [kept.agrees is]
        exact body.symm
      obtain ⟨⟨sound, limit, accepted, unopened⟩, got⟩ := ends
      refine Ends.bind (throwingAt_keeps ⟨sound.orderly, sound.agrees⟩) fun length _ => ?_
      split_ifs
      · exact ⟨sound.orderly, sound.agrees⟩
      · exact ⟨⟨⟨sound.orderly, sound.agrees⟩, limit, accepted, unopened⟩, fun _ => got⟩

def mostChunks (options : HttpRequestOptions) : Nat := options.maxResponseBytes + 1024 * 1024 + 1

theorem receiveBody_keeps {answers : List CallbackAnswer} {incoming : Bytes} (kept : Kept options there t)
    (got : t.gotHeaders = true) (asked : there → Answered options (mostChunks options) answers) :
    Keeps there (Kept options there) (receiveBody options answers incoming t) := by
  have one (is : there) : Answered options 1 answers :=
    ⟨(asked is).index, le_trans (Nat.le_add_left _ _) (asked is).enough, (asked is).present⟩
  unfold receiveBody
  split_ifs
  · refine Ends.bind (throwingAt_keeps kept.toSound) fun fed feeds => ?_
    obtain ⟨few, same⟩ := chunks_of_feed feeds
    rw [kept.limit] at few
    have enough (is : there) : Answered options fed.1.length answers := by
      refine ⟨(asked is).index, le_trans ?_ (asked is).enough, (asked is).present⟩
      have := Nat.mod_le (options.maxResponseBytes + 1024 * 1024) (2 ^ 64)
      rw [sizeT] at few
      rw [mostChunks]
      omega
    have kept' : Kept options there { t with decoder := fed.2 } :=
      ⟨⟨kept.orderly, kept.agrees⟩, same.trans kept.limit, kept.accepted, kept.unopened⟩
    refine Ends.bind (appendChunks_keeps kept' got enough) fun t' ends => ?_
    exact ⟨⟨ends.1.orderly, ends.1.agrees⟩, ends.1.limit, ends.1.accepted, ends.1.unopened⟩
  · split
    · refine Ends.bind (appendChunks_keeps kept got one) fun t' ends => ?_
      exact ⟨⟨ends.1.orderly, ends.1.agrees⟩, ends.1.limit, ends.1.accepted, ends.1.unopened⟩
    · have appended : Keeps there (fun t' => Kept options there t' ∧ t'.gotHeaders = true)
          (appendChunks options [incoming] answers t) := appendChunks_keeps kept got one
      cases result : appendChunks options [incoming] answers t with
      | error thrown =>
          rw [result] at appended
          exact appended
      | ok t' =>
          rw [result] at appended
          exact appended.1

theorem receiveData_keeps {headRequest : Bool} {round : Round} {incoming : Bytes}
    (kept : Kept options there t) (asked : there → Answered options (mostChunks options) round.chunks) :
    Keeps there (Kept options there) (receiveData options headRequest round incoming t) := by
  unfold receiveData
  extract_lets goesOn
  have keeps (opened : Option Bytes × Transfer) (still : Kept options there opened.2)
      (got : opened.1 ≠ none → opened.2.gotHeaders = true) :
      Keeps there (Kept options there) (goesOn opened) := by
    dsimp only [goesOn]
    split
    · exact still
    · rename_i body some
      split_ifs
      · exact still
      · exact receiveBody_keeps still (got (by simp [some])) asked
  split_ifs with got
  · exact keeps (some incoming, t) kept fun _ => got
  · exact Ends.bind (receiveHeaders_keeps kept (Bool.not_eq_true _ ▸ got))
      fun opened ends => keeps opened ends.1 ends.2

theorem receiveRound_keeps (platform : Platform) (secure headRequest : Bool) (round : Round)
    (kept : Kept options there t) (asked : there → Answered options (mostChunks options) round.chunks) :
    Keeps there (Kept options there)
      (receiveRound options platform secure headRequest round t) := by
  refine Ends.bind (requestCancelled_keeps kept) fun result ends => ?_
  obtain ⟨cancelled, t'⟩ := result
  obtain ⟨sound, goes⟩ := ends
  simp only at sound goes ⊢
  split_ifs with stops
  · exact sound
  have still := goes (Bool.not_eq_true _ ▸ stops)
  refine Ends.bind (throwingAt_keeps sound) fun timeout _ => ?_
  cases round.received with
  | failed code =>
      simp only
      split_ifs
      · exact ⟨⟨still.orderly, still.agrees⟩, still.limit, still.accepted, still.unopened⟩
      · exact sound
  | data incoming =>
      simp only
      split_ifs
      · exact ⟨⟨still.orderly, still.agrees⟩, still.limit, still.accepted, still.unopened⟩
      · exact receiveData_keeps
          ⟨⟨still.orderly, still.agrees⟩, still.limit, still.accepted, still.unopened⟩ asked

end Steps

/-! ## The body that the bytes of the peer spell -/

/-- The chunks that come before a chunk stream breaks off, with no limit on their sizes. -/
def streamChunks (rest : Bytes) : List Bytes :=
  (HttpChunkDecoder.machine (2 ^ 64)).outputs .sizeLine rest

/-- The body in the bytes of the peer, as far as they go. -/
def trueBody (headRequest : Bool) (stream : Bytes) : Bytes :=
  match find headerEnd stream with
  | none => []
  | some separator =>
      let rest := stream.drop (separator + 4)
      match parseResponseHeaders (stream.take separator) {} with
      | .error _ => []
      | .ok response =>
          if bodyless headRequest response then []
          else if responseChunked response then (streamChunks rest).flatten
          else match responseContentLength response with
            | .error _ => []
            | .ok (some n) => rest.take n
            | .ok none => rest

theorem chunkSize_wider {maximum wide size : Nat} {line : Bytes} (wider : maximum ≤ wide)
    (sized : HttpChunkDecoder.chunkSize maximum line = .ok size) :
    HttpChunkDecoder.chunkSize wide line = .ok size := by
  have bound := HttpChunkDecoder.chunkSize_le sized
  rw [HttpChunkDecoder.chunkSize] at sized ⊢
  by_cases empty : HttpChunkDecoder.sizeText line = []
  · rw [if_pos empty] at sized
    cases sized
  rw [if_neg empty] at sized ⊢
  cases read : stoull 16 (HttpChunkDecoder.sizeText line) with
  | error what =>
      rw [read] at sized
      cases sized
  | ok result =>
      rw [read] at sized
      simp only at sized ⊢
      split_ifs at sized with partly large
      obtain rfl := Except.ok.inj sized
      rw [if_neg partly, if_neg (by omega)]

theorem chunkStep_wider {maximum wide : Nat} (wider : maximum ≤ wide) (mode : HttpChunkDecoder.Mode)
    (input : Bytes) (mode' : HttpChunkDecoder.Mode) (used : Nat) (out : List Bytes)
    (advances : (HttpChunkDecoder.machine maximum).step mode input = .advance mode' used out) :
    (HttpChunkDecoder.machine wide).step mode input = .advance mode' used out := by
  cases mode with
  | sizeLine =>
      rcases HttpChunkDecoder.sizeLineStep_cases maximum input with
        ⟨_, is⟩ | ⟨lineEnd, found, ⟨what, _, is⟩ | ⟨zero, is⟩ | ⟨size, sized, is⟩⟩ <;>
        rw [show HttpChunkDecoder.sizeLineStep maximum input = .advance mode' used out from advances]
          at is <;> cases is
      · simp [HttpChunkDecoder.machine, HttpChunkDecoder.chunkStep, HttpChunkDecoder.sizeLineStep,
          found, chunkSize_wider wider zero]
      · simp [HttpChunkDecoder.machine, HttpChunkDecoder.chunkStep, HttpChunkDecoder.sizeLineStep,
          found, chunkSize_wider wider sized]
  | data size => exact advances
  | done => contradiction

theorem chunks_prefix {maximum : Nat} (small : maximum < 2 ^ 63) {rest : Bytes} {chunks : List Bytes}
    {mode : HttpChunkDecoder.Mode} {held : Bytes}
    (drained : (HttpChunkDecoder.machine maximum).drain .sizeLine rest = .ok (chunks, mode, held))
    (more : Bytes) : chunks.flatten <+: (streamChunks (rest ++ more)).flatten := by
  have front := Machine.outputs_prefix (chunkStep_wider (show maximum ≤ 2 ^ 64 by omega)) .sizeLine rest more
  rw [Machine.outputs_of_drain drained] at front
  obtain ⟨later, same⟩ := front
  exact ⟨later.flatten, by rw [← List.flatten_append, same, streamChunks]⟩

theorem streamChunks_of_stream {maximum : Nat} (small : maximum < 2 ^ 63) {rest : Bytes}
    {chunks : List Bytes} (h : HttpChunkDecoder.ChunkStream maximum rest chunks) :
    streamChunks rest = chunks := by
  have follows := chunkStep_wider (show maximum ≤ 2 ^ 64 by omega)
  have front (line tail : Bytes) : (line ++ crlf ++ tail).take line.length = line := by
    rw [List.append_assoc, List.take_left]
  have behind (line tail : Bytes) : (line ++ crlf ++ tail).drop (line.length + 2) = tail := by
    rw [← List.drop_drop, List.append_assoc, List.drop_left]
    rfl
  induction h with
  | @last line rest first zero =>
      have step := follows .sizeLine (line ++ crlf ++ rest) .done (line.length + 2) [] (by
        show HttpChunkDecoder.sizeLineStep maximum _ = _
        simp only [HttpChunkDecoder.sizeLineStep, first, front, zero])
      rw [streamChunks, Machine.outputs_of_advance step, Machine.outputs_of_wait rfl]
      rfl
  | @chunk line data rest chunks first sized nonempty _ ih =>
      obtain ⟨size, length⟩ := Nat.exists_eq_succ_of_ne_zero
        (Nat.pos_iff_ne_zero.mp (List.length_pos_iff.mpr nonempty))
      have step := follows .sizeLine (line ++ crlf ++ (data ++ crlf ++ rest)) (.data data.length)
        (line.length + 2) [] (by
          rw [length] at sized ⊢
          show HttpChunkDecoder.sizeLineStep maximum _ = _
          simp only [HttpChunkDecoder.sizeLineStep, first, front, sized])
      have ends : ((data ++ crlf ++ rest).drop data.length).take 2 = crlf := by
        rw [List.append_assoc, List.drop_left]
        rfl
      have step' := follows (.data data.length) (data ++ crlf ++ rest) .sizeLine (data.length + 2) [data]
        (by
          show HttpChunkDecoder.dataStep _ _ = _
          rw [HttpChunkDecoder.dataStep, if_neg (by simp; omega), if_pos ends, front])
      rw [streamChunks, Machine.outputs_of_advance step, behind, Machine.outputs_of_advance step', behind]
      simpa [streamChunks] using ih

theorem trueBody_head {headRequest : Bool} {stream header rest : Bytes} {response : HttpResponse}
    (split : stream = header ++ headerEnd ++ rest) (first : find headerEnd stream = some header.length)
    (head : parseResponseHeaders header {} = .ok response.head) :
    trueBody headRequest stream =
      if bodyless headRequest response then []
      else if responseChunked response then (streamChunks rest).flatten
      else match responseContentLength response with
        | .error _ => []
        | .ok (some n) => rest.take n
        | .ok none => rest := by
  have header_eq : stream.take header.length = header := by
    rw [split, List.append_assoc, List.take_left]
  have rest_eq : stream.drop (header.length + 4) = rest := by
    rw [split, ← List.drop_drop, List.append_assoc, List.drop_left]
    rfl
  simp only [trueBody, first, header_eq, head, rest_eq]
  rfl

theorem ResponseOf.trueBody {maximum : Nat} (small : maximum < 2 ^ 63) {headRequest closed : Bool}
    {stream header rest : Bytes} {response : HttpResponse}
    (is : ResponseOf maximum headRequest closed stream response header rest) :
    response.body = LuaXENetwork.trueBody headRequest stream := by
  have body := is.body
  unfold BodyOf at body
  rw [trueBody_head is.split is.first is.head]
  split_ifs at body ⊢
  · exact body
  · obtain ⟨chunks, stream, flat⟩ := body
    rw [flat, streamChunks_of_stream small stream]
  · obtain ⟨length, read, body⟩ := body
    rw [read]
    cases length with
    | some n => exact body.2
    | none => exact body.2

theorem trueBody_read {headRequest : Bool} {stream header rest : Bytes} {t : Transfer}
    (read : HeadersRead stream t header rest) (more : Bytes)
    (framed : bodyless headRequest t.response = false) :
    trueBody headRequest (stream ++ more) =
      if t.chunked then (streamChunks (rest ++ more)).flatten
      else match t.contentLength with
        | some n => (rest ++ more).take n
        | none => rest ++ more := by
  have split : stream ++ more = header ++ headerEnd ++ (rest ++ more) := by
    rw [read.split]
    simp only [List.append_assoc]
  rw [trueBody_head split (find_append read.first more) read.head, framed, read.chunked, read.length]
  simp only [Bool.false_eq_true, if_false]
  split_ifs
  · rfl
  · cases t.contentLength <;> rfl

section TrueBody

variable {options : HttpRequestOptions} {headRequest : Bool} {stream incoming : Bytes} {t : Transfer}

theorem reached_prefix (small : options.maxResponseBytes < 2 ^ 63)
    (reached : Reached options headRequest stream t) (more : Bytes) :
    t.response.body <+: trueBody headRequest (stream ++ more) := by
  cases reached with
  | headers absent received calls same =>
      subst same
      exact List.nil_prefix
  | bodyless read none empty ended =>
      rw [empty]
      exact List.nil_prefix
  | @body header rest read framed body =>
      rw [trueBody_read read more framed]
      unfold BodyRead at body
      split_ifs at body ⊢
      · obtain ⟨chunks, mode, held, drained, -, flat⟩ := body
        rw [flat]
        exact chunks_prefix small drained more
      · cases length : t.contentLength with
        | some n =>
            simp only [length] at body ⊢
            rw [body, List.take_append]
            exact List.prefix_append _ _
        | none =>
            simp only [length] at body ⊢
            rw [body]
            exact List.prefix_append _ _

abbrev Spells (headRequest : Bool) (stream : Bytes) : Except Thrown Transfer → Prop :=
  Ends (fun thrown => ∀ more, thrown.transfer.response.body <+: trueBody headRequest (stream ++ more))
    fun _ => True

theorem Ends.trivial {failed : Thrown → Prop} {done : α → Prop} {x : Except Thrown α}
    (h : Ends failed done x) : Ends failed (fun _ => True) x := by
  cases x with
  | error thrown => exact h
  | ok a => exact True.intro

theorem receiveBody_spells (small : options.maxResponseBytes < 2 ^ 63) {answers : List CallbackAnswer}
    {header rest : Bytes} (read : HeadersRead stream t header (rest ++ incoming))
    (framed : bodyless headRequest t.response = false)
    (body : BodyRead options.maxResponseBytes t rest) :
    Spells headRequest stream (receiveBody options answers incoming t) := by
  have spelled (taken whole : Bytes) (front : taken <+: whole)
      (is : ∀ more, whole <+: trueBody headRequest (stream ++ more)) :
      ∀ more, taken <+: trueBody headRequest (stream ++ more) :=
    fun more => front.trans (is more)
  have appends (t' : Transfer) (chunks : List Bytes)
      (is : ∀ more, t'.response.body ++ chunks.flatten <+:
        trueBody headRequest (stream ++ more)) :
      Spells headRequest stream (appendChunks options chunks answers t') := by
    refine Ends.trivial (appendChunks_stays
      (fun taken => ∀ more, taken <+: trueBody headRequest (stream ++ more)) ?_ ?_)
    · exact spelled _ _ (List.prefix_append _ _) is
    · rintro taken ⟨later, rfl⟩ _
      refine spelled _ _ ?_ is
      rw [List.flatten_append, ← List.append_assoc]
      exact List.prefix_append _ _
  unfold receiveBody
  unfold BodyRead at body
  have whole (more : Bytes) := trueBody_read read more framed
  split_ifs at body ⊢ with chunked
  · obtain ⟨chunks, mode, held, drained, decoder, flat⟩ := body
    cases fed : t.decoder.feed incoming with
    | error what =>
        intro more
        rw [whole more, if_pos chunked, flat, List.append_assoc]
        exact chunks_prefix small drained _
    | ok result =>
        obtain ⟨later, d⟩ := result
        rw [decoder] at fed
        have bounded : HttpChunkDecoder.Mode.sizeLine.Bounded options.maxResponseBytes := True.intro
        obtain ⟨mode', held', drains, rfl⟩ := HttpChunkDecoder.feed_ok small
          (HttpChunkDecoder.drain_bounded bounded drained) fed
        have delivered := appends
          { t with decoder := HttpChunkDecoder.ofMode options.maxResponseBytes mode' held' } later
          fun more => by
            rw [whole more, if_pos chunked, flat, ← List.flatten_append]
            exact chunks_prefix small (Machine.drain_append_ok drained drains) more
        exact Ends.bind (x := appendChunks options later answers _) delivered fun _ _ => True.intro
  · cases length : t.contentLength with
    | some n =>
        simp only [length] at body ⊢
        have delivered := appends t [incoming.take (n - t.response.body.length)] fun more => by
          rw [whole more, if_neg chunked, length, body]
          simp only [List.flatten_cons, List.flatten_nil, List.append_nil, take_next]
          exact (List.prefix_append _ more).take n
        exact Ends.bind delivered fun _ _ => True.intro
    | none =>
        simp only [length] at body ⊢
        refine appends t [incoming] fun more => ?_
        rw [whole more, if_neg chunked, length, body]
        simp

theorem receiveData_spells (small : options.maxResponseBytes < 2 ^ 63)
    (reached : Reached options headRequest stream t) (running : t.finished = false) (round : Round) :
    Spells headRequest (stream ++ incoming) (receiveData options headRequest round incoming t) := by
  unfold receiveData
  cases reached with
  | headers absent received calls same =>
      have got : t.gotHeaders = false := by
        rw [same]
        rfl
      have empty : t.response.body = [] := by rw [same]
      rw [if_neg (by simp [got])]
      cases opened : receiveHeaders options headRequest round.headers incoming t with
      | error thrown =>
          have still : BodyStays (· = []) (·.2)
              (receiveHeaders options headRequest round.headers incoming t) :=
            receiveHeaders_stays (· = []) empty
          rw [opened] at still
          intro more
          rw [show thrown.transfer.response.body = [] from still]
          exact List.nil_prefix
      | ok result =>
          obtain ⟨body, t'⟩ := result
          rw [same] at opened
          rcases receiveHeaders_ok opened with
            ⟨rfl, -, -⟩ | ⟨header, rest, rfl, read, empty, decoder, ended⟩
          · exact True.intro
          · show Spells _ _ (if t'.finished then pure t' else receiveBody options round.chunks rest t')
            split_ifs with finished
            · exact True.intro
            · have unframed : bodyless headRequest t'.response = false := by
                rw [← ended]
                exact Bool.not_eq_true _ ▸ finished
              exact receiveBody_spells small read unframed (bodyRead_start empty decoder)
  | bodyless read none empty ended => simp [running] at ended
  | body read framed body =>
      rw [if_pos read.got]
      show Spells _ _ (if t.finished then pure t else receiveBody options round.chunks incoming t)
      rw [running]
      exact receiveBody_spells small (read.more incoming rfl rfl rfl rfl) framed body

theorem peerStream_cons (round : Round) (rounds : List Round) :
    ∃ more, peerStream (round :: rounds) = peerStream [round] ++ more := by
  cases received : round.received with
  | failed code => exact ⟨[], by simp [peerStream, received]⟩
  | data bytes =>
      cases bytes with
      | nil => exact ⟨[], by simp [peerStream, received]⟩
      | cons b bytes => exact ⟨peerStream rounds, by simp [peerStream, received]⟩

theorem receiveRound_spells (small : options.maxResponseBytes < 2 ^ 63) (platform : Platform)
    (secure : Bool) (reached : Reached options headRequest stream t) (running : t.finished = false)
    (round : Round) : Spells headRequest (stream ++ peerStream [round])
      (receiveRound options platform secure headRequest round t) := by
  have before (thrown : Thrown) (same : thrown.transfer.response.body = t.response.body)
      (more : Bytes) : thrown.transfer.response.body <+:
        trueBody headRequest (stream ++ peerStream [round] ++ more) := by
    rw [same, List.append_assoc]
    exact reached_prefix small reached _
  have asked : BodyStays (· = t.response.body) (·.2) (requestCancelled options round.cancel t) :=
    requestCancelled_stays (· = t.response.body) rfl
  unfold receiveRound
  cases cancels : requestCancelled options round.cancel t with
  | error thrown =>
      rw [cancels] at asked
      exact before thrown asked
  | ok result =>
      obtain ⟨cancelled, t'⟩ := result
      obtain ⟨calls, rfl⟩ := requestCancelled_ok cancels
      simp only [ok_bind]
      split_ifs
      · exact before _ rfl
      cases boundedTimeout options options.receiveTimeoutMs round.elapsedMs with
      | error what => exact before _ rfl
      | ok timeout =>
          simp only [throwingAt, ok_bind]
          cases received : round.received with
          | failed code =>
              simp only
              split_ifs
              · exact True.intro
              · exact before _ rfl
          | data incoming =>
              simp only
              split_ifs with empty
              · exact True.intro
              · have arrives : peerStream [round] = incoming := by
                  cases incoming with
                  | nil => contradiction
                  | cons b incoming => simp [peerStream, received]
                rw [arrives]
                exact receiveData_spells small (reached.received _ calls) running round

end TrueBody

/-! ## Whole calls -/

/-- The locals of the receive loop where it is left. -/
def receiveLoopEnd (options : HttpRequestOptions) (platform : Platform) (secure headRequest : Bool)
    (t : Transfer) : List Round → Transfer
  | [] => t
  | round :: rounds =>
      if t.finished then t
      else match receiveRound options platform secure headRequest round t with
        | .error thrown => thrown.transfer
        | .ok t => receiveLoopEnd options platform secure headRequest t rounds

/-- The locals where a call ends; a call that does not come to the loop ends as it starts. -/
def resolveHttpRequestEnd (platform : Platform) (exchange : Exchange) (host : WString) (port : Int)
    (request : Bytes) (options : HttpRequestOptions) : Transfer :=
  match resolveHttpRequest platform { exchange with rounds := [] } host port request options with
  | .running t => receiveLoopEnd options platform (options.useSsl port) (isHeadRequest request) t
      exchange.rounds
  | _ => Transfer.start options

def Outcome.EndsAt (last : Transfer) : Outcome → Prop
  | .returned response => response.body = last.response.body
  | .threw thrown => thrown.transfer = last
  | .running t => t = last

section Loop

variable {options : HttpRequestOptions} {platform : Platform} {secure headRequest : Bool}

structure Ended (there : Prop) (last : Transfer) (outcome : Outcome) : Prop where
  sound : Sound there last
  ends : outcome.EndsAt last
  refused : (∃ entry ∈ last.calls, entry.refused = true) → ∃ thrown, outcome = .threw thrown

theorem conclude_endsAt (finishedMs : Int) (t : Transfer) :
    (conclude headRequest finishedMs t).EndsAt t := by
  unfold conclude
  split_ifs
  · rfl
  · rfl
  · cases t.contentLength with
    | none => rfl
    | some n =>
        simp only
        split_ifs <;> rfl

theorem Kept.ended {there : Prop} {t : Transfer} (kept : Kept options there t) {outcome : Outcome}
    (ends : outcome.EndsAt t) : Ended there t outcome where
  sound := kept.toSound
  ends := ends
  refused := by
    rintro ⟨entry, member, refused⟩
    rw [kept.accepted entry member] at refused
    contradiction

theorem receiveLoop_ended {there : Prop} {finishedMs : Int} (rounds : List Round)
    (asked : there → ∀ round ∈ rounds, Answered options (mostChunks options) round.chunks)
    {t : Transfer} (kept : Kept options there t) :
    Ended there (receiveLoopEnd options platform secure headRequest t rounds)
      (receiveLoop options platform secure headRequest finishedMs t rounds) := by
  induction rounds generalizing t with
  | nil =>
      rw [receiveLoop, receiveLoopEnd]
      split_ifs
      · exact kept.ended (conclude_endsAt finishedMs t)
      · exact kept.ended rfl
  | cons round rounds ih =>
      rw [receiveLoop, receiveLoopEnd]
      split_ifs
      · exact kept.ended (conclude_endsAt finishedMs t)
      have step := receiveRound_keeps platform secure headRequest round kept
        fun is => asked is round (by simp)
      cases one : receiveRound options platform secure headRequest round t with
      | error thrown =>
          rw [one] at step
          exact ⟨step, rfl, fun _ => ⟨thrown, rfl⟩⟩
      | ok t' =>
          rw [one] at step
          exact ih (fun is other member => asked is other (by simp [member])) step

theorem receiveLoopEnd_spells (small : options.maxResponseBytes < 2 ^ 63) (rounds : List Round)
    {stream : Bytes} {t : Transfer} (reached : Reached options headRequest stream t) :
    (receiveLoopEnd options platform secure headRequest t rounds).response.body <+:
      trueBody headRequest (stream ++ peerStream rounds) := by
  induction rounds generalizing stream t with
  | nil => exact reached_prefix small reached _
  | cons round rounds ih =>
      rw [receiveLoopEnd]
      by_cases finished : t.finished = true
      · rw [if_pos finished]
        exact reached_prefix small reached _
      rw [if_neg finished]
      have running : t.finished = false := Bool.not_eq_true _ ▸ finished
      have step := receiveRound_spells small platform secure reached running round
      cases one : receiveRound options platform secure headRequest round t with
      | error thrown =>
          rw [one] at step
          obtain ⟨more, sends⟩ := peerStream_cons round rounds
          rw [sends, ← List.append_assoc]
          exact step more
      | ok t' =>
          rcases receiveRound_ok one with ⟨incoming, calls, some, received, data⟩ | ⟨closes, calls, rfl⟩
          · obtain ⟨reached', -⟩ := receiveData_ok small (reached.received _ calls) running data
            have sends : peerStream (round :: rounds) = incoming ++ peerStream rounds := by
              cases incoming with
              | nil => contradiction
              | cons b incoming => simp [peerStream, received]
            rw [sends, ← List.append_assoc]
            exact ih reached'
          · have stays : receiveLoopEnd options platform secure headRequest
                { t with finished := true, calls := calls } rounds =
                  { t with finished := true, calls := calls } := by
              cases rounds <;> simp [receiveLoopEnd]
            simp only [stays]
            exact reached_prefix small reached _

end Loop

theorem kept_start (options : HttpRequestOptions) (there : Prop) :
    Kept options there (Transfer.start options) where
  orderly := .nil
  agrees _ := rfl
  limit := rfl
  accepted := by simp [Transfer.start]
  unopened := by simp [Transfer.start]

theorem resolveHttpRequestEnd_cases (platform : Platform) (exchange : Exchange) (host : WString)
    (port : Int) (request : Bytes) (options : HttpRequestOptions) :
    (resolveHttpRequest platform exchange host port request options =
        receiveLoop options platform (options.useSsl port) (isHeadRequest request) exchange.finishedMs
          (Transfer.start options) exchange.rounds ∧
      resolveHttpRequestEnd platform exchange host port request options =
        receiveLoopEnd options platform (options.useSsl port) (isHeadRequest request)
          (Transfer.start options) exchange.rounds) ∨
    (∃ what, resolveHttpRequest platform exchange host port request options =
        .threw ⟨what, Transfer.start options⟩) ∧
      resolveHttpRequestEnd platform exchange host port request options = Transfer.start options := by
  unfold resolveHttpRequestEnd resolveHttpRequest
  simp only
  cases exchange.dial (dialOptions host port options) with
  | some error => exact .inr ⟨⟨_, rfl⟩, rfl⟩
  | none =>
      cases boundedTimeout options options.sendTimeoutMs exchange.sendElapsedMs with
      | error what => exact .inr ⟨⟨_, rfl⟩, rfl⟩
      | ok timeout =>
          simp only
          by_cases sent : exchange.sent = some request.length
          · left
            rw [if_pos sent, if_pos sent]
            exact ⟨rfl, rfl⟩
          · right
            rw [if_neg sent, if_neg sent]
            exact ⟨⟨_, rfl⟩, rfl⟩

theorem resolveHttpRequest_ended (platform : Platform) (exchange : Exchange) (host : WString)
    (port : Int) (request : Bytes) (options : HttpRequestOptions) :
    Ended (∀ round ∈ exchange.rounds, Answered options (mostChunks options) round.chunks)
      (resolveHttpRequestEnd platform exchange host port request options)
      (resolveHttpRequest platform exchange host port request options) := by
  rcases resolveHttpRequestEnd_cases platform exchange host port request options with
    ⟨loop, last⟩ | ⟨⟨what, threw⟩, last⟩
  · rw [loop, last]
    exact receiveLoop_ended exchange.rounds id (kept_start options _)
  · rw [threw, last]
    exact (kept_start options _).ended rfl

theorem resolveHttpRequestEnd_spells (platform : Platform) (exchange : Exchange) (host : WString)
    (port : Int) (request : Bytes) (options : HttpRequestOptions)
    (limit : options.maxResponseBytes < 2 ^ 63) :
    (resolveHttpRequestEnd platform exchange host port request options).response.body <+:
      trueBody (isHeadRequest request) (peerStream exchange.rounds) := by
  rcases resolveHttpRequestEnd_cases platform exchange host port request options with
    ⟨-, last⟩ | ⟨-, last⟩
  · rw [last]
    exact receiveLoopEnd_spells limit exchange.rounds (reached_start options _)
  · rw [last]
    exact List.nil_prefix

/-- What the callbacks of a call see, in order, and what `on_chunk` is handed of the body. -/
theorem resolveHttpRequest_callbacks (platform : Platform) (exchange : Exchange) (host : WString)
    (port : Int) (request : Bytes) (options : HttpRequestOptions)
    (limit : options.maxResponseBytes < 2 ^ 63) :
    let outcome := resolveHttpRequest platform exchange host port request options
    let last := resolveHttpRequestEnd platform exchange host port request options
    outcome.EndsAt last ∧
    (∀ before entry after, last.calls = before ++ entry :: after →
      (∀ response, entry.call = .onHeaders response →
        ∀ earlier ∈ before, earlier.call = .shouldCancel) ∧
      (∀ chunk, entry.call = .onChunk chunk → chunk ≠ []) ∧
      (entry.refused = true → after = [] ∧ ∃ thrown, outcome = .threw thrown)) ∧
    ((∀ round ∈ exchange.rounds, Answered options (mostChunks options) round.chunks) →
      (∀ before entry after chunk, last.calls = before ++ entry :: after →
        entry.call = .onChunk chunk → chunkArguments (before ++ [entry]) = entry.body) ∧
      chunkArguments last.calls = last.response.body) ∧
    last.response.body <+: trueBody (isHeadRequest request) (peerStream exchange.rounds) ∧
    ∀ response, outcome = .returned response →
      response.body = trueBody (isHeadRequest request) (peerStream exchange.rounds) := by
  intro outcome last
  obtain ⟨sound, ends, refused⟩ := resolveHttpRequest_ended platform exchange host port request options
  refine ⟨ends, fun before entry after split => ?_, fun answered => ⟨?_, ?_⟩, ?_, ?_⟩
  · obtain ⟨ordered, final⟩ := sound.orderly.at split
    refine ⟨ordered.last.1, ordered.last.2.1, fun is => ⟨final is, refused ⟨entry, ?_, is⟩⟩⟩
    rw [split]
    simp
  · intro before entry after chunk split call
    exact (sound.orderly.at split).1.last.2.2 answered
  · exact sound.agrees answered
  · exact resolveHttpRequestEnd_spells platform exchange host port request options limit
  · intro response returned
    obtain ⟨header, rest, is⟩ := resolveHttpRequest_returned limit returned
    exact is.trueBody limit

/-- An option table whose `on_chunk` returns nothing, and a response of one piece. -/
def answeredExchange (options : HttpRequestOptions) (piece : Bytes) : Exchange where
  dial _ := none
  sent := some 0
  rounds := [{
    received := .data piece
    chunks := List.replicate (mostChunks options) (.returned .nil) }]

theorem resolveHttpRequest_callbacks_piece :
    let options : HttpRequestOptions := { requestIndex := 2 }
    let last := resolveHttpRequestEnd .blank
      (answeredExchange options (ascii "HTTP/1.1 200 OK\r\n\r\nbody")) [] 80 [] options
    chunkArguments last.calls = last.response.body := by
  refine ((resolveHttpRequest_callbacks .blank _ [] 80 [] _ (by decide)).2.2.1 ?_).2
  intro round member
  obtain rfl := List.mem_singleton.mp member
  refine ⟨by decide, by simp, ?_⟩
  intro answer among
  rw [List.eq_of_mem_replicate among]
  simp

end LuaXENetwork
