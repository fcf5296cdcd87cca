import LuaXENetwork.Proof.Dial.Transcript
import LuaXENetwork.Proof.Tls.Receive

/-! What the server sends behind its handshake is kept for `Recv`, whatever it came together with. -/

namespace LuaXENetwork
open Library Dialing BaseSock

/-! ## What SSPI does with the bytes of the server -/

def ContextAnswer.Fails (answer : ContextAnswer) : Prop :=
  isFailure answer.status = true ∧ answer.status ≠ secEIncompleteMessage

/-- The bytes of the server up to the client's next turn are taken, and those behind them are not. -/
structure ContextAnswer.Takes (answer : ContextAnswer) (later : List Bytes) (rest : Bytes) : Prop where
  status : answer.status = if later = [] then secEOk else secIContinueNeeded
  extra : answer.extra = if rest = [] then none else some rest.length

def ContextAnswer.Asks (answer : ContextAnswer) : Prop :=
  answer.status = secIIncompleteCredentials ∧
    (answer.newCredentials = secEOk ∨ isFailure answer.newCredentials = true)

/-- `InitializeSecurityContext` takes in the flights of the server one by one, asks for more where
one is not complete, and may ask for a certificate or fail at any time. -/
structure Negotiates {κ : Type} (initializeSecurityContext : κ → Bytes → ContextAnswer × κ)
    (expects : κ → List Bytes) : Prop where
  whole : ∀ context flight later rest, expects context = flight :: later →
    let (answer, next) := initializeSecurityContext context (flight ++ rest)
    (answer.Takes later rest ∧ expects next = later) ∨
      (answer.Asks ∧ expects next = flight :: later) ∨ answer.Fails
  part : ∀ context flight later part, expects context = flight :: later → part <+: flight → part ≠ flight →
    let (answer, next) := initializeSecurityContext context part
    (answer.status = secEIncompleteMessage ∧ expects next = flight :: later) ∨ answer.Fails

/-- What SSPI is given in a round. -/
def Negotiation.token (n : Negotiation) (w : DialWorld) : Bytes := w.tls.readBuffer.take n.cbIoBuffer

/-- The answers are those of SSPI to what it is given in the rounds of this run. -/
def AnsweredBy {κ : Type} (initializeSecurityContext : κ → Bytes → ContextAnswer × κ) (platform : Platform) :
    κ → List ContextAnswer → Negotiation → DialWorld → Prop
  | _, [], _, _ => True
  | context, answer :: answers, n, w => ∀ n' w', (readServer n).run w = (.ok (some n'), w') →
      answer = (initializeSecurityContext context (n'.token w')).1 ∧
        ∀ n'' w'', (answerRound platform n' answer).run w' = (.ok (.again n''), w'') →
          AnsweredBy initializeSecurityContext platform (initializeSecurityContext context (n'.token w')).2 answers
            n'' w''

/-! ## What a round keeps -/

/-- The fields that only `Recv` uses are as they were at first. -/
structure Unused (tls : SslClient) : Prop where
  readBuffer : tls.readBuffer.length = readBufferSize
  plainText : tls.plainText.length = plainTextSize
  readPtr : tls.readPtr = 0
  plainTextPtr : tls.plainTextPtr = 0
  plainTextBytes : tls.plainTextBytes = 0

/-- What was read and not taken, and what is still to come, are the flights left and the data. -/
structure Pending (flights : List Bytes) (data : Bytes) (n : Negotiation) (w : DialWorld) : Prop where
  calm : Calm w.socket
  unused : Unused w.tls
  within : n.cbIoBuffer ≤ readBufferSize
  stream : n.token w ++ w.socket.incoming = flights.flatten ++ data

structure Shown (flights : List Bytes) (data seen : Bytes) (n : Negotiation) (w : DialWorld) : Prop
    extends Pending flights data n w where
  seen : n.token w = seen

/-- All flights are taken: the data is in the buffer of the client, or still to come. -/
structure LeftOver (data : Bytes) (w : DialWorld) : Prop where
  unused : Unused w.tls
  within : w.tls.readBufferBytes ≤ readBufferSize
  stream : w.tls.readBuffer.take w.tls.readBufferBytes ++ w.socket.incoming = data

def RoundEnd.Keeps (flights : List Bytes) (data : Bytes) : RoundEnd → DialWorld → Prop
  | .returned status, _ => isFailure status = true
  | .left status, w => isFailure status = false → LeftOver data w
  | .again n, w => n.goesOn = true ∧ flights ≠ [] ∧ Pending flights data n w

section Rounds

variable {flights later : List Bytes} {flight rest data seen : Bytes} {n : Negotiation}

theorem Unused.keeps {tls tls' : SslClient} (unused : Unused tls)
    (readBuffer : tls'.readBuffer.length = tls.readBuffer.length) (plainText : tls'.plainText = tls.plainText)
    (readPtr : tls'.readPtr = tls.readPtr) (plainTextPtr : tls'.plainTextPtr = tls.plainTextPtr)
    (plainTextBytes : tls'.plainTextBytes = tls.plainTextBytes) : Unused tls' where
  readBuffer := readBuffer.trans unused.readBuffer
  plainText := plainText ▸ unused.plainText
  readPtr := readPtr.trans unused.readPtr
  plainTextPtr := plainTextPtr.trans unused.plainTextPtr
  plainTextBytes := plainTextBytes.trans unused.plainTextBytes

theorem readServer_pending :
    Succeeds (Pending flights data n) (readServer n) fun read w => ∀ n', read = some n' →
      n'.scRet = n.scRet ∧ Pending flights data n' w := by
  unfold readServer
  split
  · split
    · refine Program.Triple.via (fun answer w => ∀ data', answer = some data' →
        Calm w.socket ∧ Unused w.tls ∧ n.cbIoBuffer + data'.length ≤ readBufferSize ∧
          n.token w ++ (data' ++ w.socket.incoming) = flights.flatten ++ data) ?_ fun answer => ?_
      · refine .act fun w pending data' received => ?_
        have ends := receive_calm pending.calm (readBufferSize - n.cbIoBuffer) 1
        generalize w.socket.receive (readBufferSize - n.cbIoBuffer) 1 = result at ends received ⊢
        obtain ⟨answer, s'⟩ := result
        obtain rfl : answer = some data' := received
        have handed : Handed w.socket (readBufferSize - n.cbIoBuffer) data' s' := ends
        have within := pending.within
        have short := handed.within
        refine ⟨handed.calm, pending.unused, by omega, ?_⟩
        rw [← handed.incoming]
        exact pending.stream
      · refine Program.Triple.via (fun _ w => answer.getD [] ≠ [] →
          Pending flights data { n with cbIoBuffer := n.cbIoBuffer + (answer.getD []).length } w) ?_ fun _ => ?_
        · refine .change fun w arrived some_bytes => ?_
          obtain ⟨data', rfl⟩ : ∃ data', answer = some data' := by
            cases answer with
            | none => contradiction
            | some data' => exact ⟨data', rfl⟩
          obtain ⟨calm, unused, fits, stream⟩ := arrived data' rfl
          have size := unused.readBuffer
          refine ⟨calm, unused.keeps (length_overwrite (by rw [size]; exact fits)) rfl rfl rfl rfl, fits, ?_⟩
          rw [← stream, ← List.append_assoc]
          exact congrArg (· ++ w.socket.incoming) (take_overwrite data' (by rw [size]; omega))
        · refine .pure fun w arrived n' same => ?_
          split at same
          · cases same
          · rename_i some_bytes
            cases same
            exact ⟨rfl, arrived some_bytes⟩
    · refine .pure fun w pending n' same => ?_
      cases same
      exact ⟨rfl, pending.calm, pending.unused, pending.within, pending.stream⟩
  · refine .pure fun w pending n' same => ?_
    cases same
    exact ⟨rfl, pending⟩

theorem acceptServer_shown (platform : Platform) (answer : ContextAnswer) :
    Succeeds (Shown flights data seen n) (acceptServer platform answer) fun _ => Shown flights data seen n := by
  unfold acceptServer
  split
  · exact .pure fun _ shown => shown
  · refine (Program.Triple.look _).bind fun verifier => ?_
    refine Program.Triple.via (fun _ => Shown flights data seen n) (.change fun w shown => ?_) fun _ => ?_
    · exact ⟨⟨shown.calm, shown.unused, shown.within, shown.stream⟩, shown.seen⟩
    refine Program.Triple.via (fun _ => Shown flights data seen n) (.change fun w shown => ?_) fun _ => ?_
    · exact ⟨⟨shown.calm, shown.unused, shown.within, shown.stream⟩, shown.seen⟩
    · exact .pure fun _ shown => shown

theorem sendToken_shown (token : Bytes) :
    Succeeds (Shown flights data seen n) (sendToken token) fun sent w =>
      sent = true → Shown flights data seen n w := by
  unfold sendToken
  split
  · exact .pure fun _ shown _ => shown
  · refine Program.Triple.via (fun _ => Shown flights data seen n) (.change fun w shown => ?_) fun _ => ?_
    · exact ⟨⟨shown.calm, shown.unused, shown.within, shown.stream⟩, shown.seen⟩
    refine Program.Triple.via (fun sent w => sent ≠ none → Shown flights data seen n w) ?_ fun sent => ?_
    · refine .act fun w shown sent => ⟨⟨?_, shown.unused, shown.within, ?_⟩, shown.seen⟩
      · exact send_calm shown.calm token (Option.isSome_iff_ne_none.mpr sent)
      · rw [(send_onlySent shown.calm.noReadLeft.onlyWrites token).same.incoming]
        exact shown.stream
    · refine .pure fun w kept whole => kept ?_
      exact (of_decide_eq_true whole).1

/-- What was not taken goes to the front of the buffer. -/
theorem front_of_shown {w : DialWorld} (shown : Shown (flight :: later) data (flight ++ rest) n w) :
    let buffer := overwrite w.tls.readBuffer 0
      ((w.tls.readBuffer.drop (n.cbIoBuffer - rest.length)).take rest.length)
    buffer.length = w.tls.readBuffer.length ∧ buffer.take rest.length = rest ∧ rest.length ≤ readBufferSize ∧
      rest ++ w.socket.incoming = later.flatten ++ data := by
  have counted := congrArg List.length shown.seen
  have within := shown.within
  have size := shown.unused.readBuffer
  rw [Negotiation.token, List.length_take, List.length_append, size, Nat.min_eq_left within] at counted
  have back : (w.tls.readBuffer.drop (n.cbIoBuffer - rest.length)).take rest.length = rest := by
    have behind : (n.token w).drop flight.length = rest := by rw [shown.seen, List.drop_left]
    rw [Negotiation.token, List.drop_take] at behind
    rw [show n.cbIoBuffer - rest.length = flight.length by omega,
      show rest.length = n.cbIoBuffer - flight.length by omega, behind]
  dsimp only
  rw [back]
  refine ⟨length_overwrite (by omega), ?_, by omega, ?_⟩
  · have front := take_overwrite rest (Nat.zero_le w.tls.readBuffer.length)
    rwa [Nat.zero_add, List.take_zero, List.nil_append] at front
  · have stream := shown.stream
    rw [shown.seen, List.flatten_cons, List.append_assoc, List.append_assoc] at stream
    exact List.append_cancel_left stream

/-- The last flight: what is left is data. -/
theorem afterAnswer_last {answer : ContextAnswer} (takes : answer.Takes [] rest) :
    Succeeds (Shown [flight] data (flight ++ rest) n) (afterAnswer n answer) (RoundEnd.Keeps [] data) := by
  have status : answer.status = secEOk := takes.status
  unfold afterAnswer
  rw [status, if_neg (by decide), if_pos rfl, takes.extra]
  by_cases none_left : rest = []
  · rw [if_pos none_left]
    refine Program.Triple.via (fun _ => LeftOver data) (.change fun w shown => ?_) fun _ =>
      .pure fun w handed _ => handed
    obtain ⟨-, -, -, stream⟩ := front_of_shown shown
    refine ⟨shown.unused.keeps rfl rfl rfl rfl rfl, Nat.zero_le _, ?_⟩
    rw [none_left] at stream
    exact stream
  · rw [if_neg none_left]
    refine Program.Triple.via (fun _ w => Unused w.tls ∧ w.tls.readBuffer.take rest.length = rest ∧
      rest.length ≤ readBufferSize ∧ rest ++ w.socket.incoming = data) (.change fun w shown => ?_) fun _ => ?_
    · obtain ⟨length, front, short, stream⟩ := front_of_shown shown
      exact ⟨shown.unused.keeps length rfl rfl rfl rfl, front, short, stream⟩
    refine Program.Triple.via (fun _ => LeftOver data) (.change fun w kept => ?_) fun _ =>
      .pure fun w handed _ => handed
    obtain ⟨unused, front, short, stream⟩ := kept
    refine ⟨unused.keeps rfl rfl rfl rfl rfl, short, ?_⟩
    dsimp only
    rw [front]
    exact stream

theorem afterAnswer_takes {answer : ContextAnswer} (more : later ≠ []) (takes : answer.Takes later rest) :
    Succeeds (Shown (flight :: later) data (flight ++ rest) n) (afterAnswer n answer)
      (RoundEnd.Keeps later data) := by
  have status : answer.status = secIContinueNeeded := takes.status.trans (if_neg more)
  unfold afterAnswer
  rw [status, if_neg (by decide), if_neg (by decide), if_neg (by decide), if_neg (by decide), takes.extra]
  by_cases none_left : rest = []
  · rw [if_pos none_left]
    refine .pure fun w shown => ⟨rfl, more, ?_⟩
    obtain ⟨-, -, -, stream⟩ := front_of_shown shown
    refine ⟨shown.calm, shown.unused, Nat.zero_le _, ?_⟩
    rw [none_left] at stream
    exact stream
  · rw [if_neg none_left]
    refine Program.Triple.via
      (fun _ => Pending later data { n with scRet := secIContinueNeeded, cbIoBuffer := rest.length })
      (.change fun w shown => ?_) fun _ => .pure fun w pending => ⟨rfl, more, pending⟩
    obtain ⟨length, front, short, stream⟩ := front_of_shown shown
    refine ⟨shown.calm, shown.unused.keeps length rfl rfl rfl rfl, short, ?_⟩
    rw [← stream]
    exact congrArg (· ++ w.socket.incoming) front

/-- How SSPI answers to a token, and which flights it expects from then on. -/
def Reacts (answer : ContextAnswer) (seen : Bytes) (flights flights' : List Bytes) : Prop :=
  (∃ flight rest, flights = flight :: flights' ∧ seen = flight ++ rest ∧ answer.Takes flights' rest) ∨
    (flights' = flights ∧ (answer.status = secEIncompleteMessage ∨ answer.Asks)) ∨ answer.Fails

theorem afterAnswer_keeps {answer : ContextAnswer} {flights' : List Bytes} (some_left : flights ≠ [])
    (reacts : Reacts answer seen flights flights') :
    Succeeds (Shown flights data seen n) (afterAnswer n answer) (RoundEnd.Keeps flights' data) := by
  rcases reacts with ⟨flight, rest, rfl, rfl, takes⟩ | ⟨rfl, incomplete | ⟨credentials, new⟩⟩ | ⟨failure, status⟩
  · by_cases more : flights' = []
    · subst more
      exact afterAnswer_last takes
    · exact afterAnswer_takes more takes
  · unfold afterAnswer
    rw [if_pos incomplete, incomplete]
    exact .pure fun w shown => ⟨rfl, some_left, shown.calm, shown.unused, shown.within, shown.stream⟩
  · unfold afterAnswer
    rw [credentials, if_neg (by decide), if_neg (by decide), if_neg (by decide), if_pos rfl]
    split
    · exact .pure fun w shown => ⟨rfl, some_left, shown.calm, shown.unused, shown.within, shown.stream⟩
    · rename_i refused
      have failure := new.resolve_left refused
      exact .pure fun w shown succeeded => by simp [failure] at succeeded
  · have not_ok : answer.status ≠ secEOk := by
      intro ok
      rw [ok] at failure
      contradiction
    unfold afterAnswer
    rw [if_neg status, if_neg not_ok, if_pos failure]
    exact Program.Triple.via (fun _ _ => True) (.change fun _ _ => trivial) fun _ =>
      .pure fun w _ succeeded => by simp [failure] at succeeded

theorem answerRound_keeps (platform : Platform) {answer : ContextAnswer} {flights' : List Bytes}
    (some_left : flights ≠ []) (reacts : Reacts answer seen flights flights') :
    Succeeds (Shown flights data seen n) (answerRound platform n answer) (RoundEnd.Keeps flights' data) := by
  unfold answerRound
  split
  · refine (acceptServer_shown platform answer).bind fun acceptable => ?_
    split
    · exact .pure fun w _ => rfl
    · refine (sendToken_shown answer.token).bind fun sent => ?_
      split
      · exact .pure fun w _ => rfl
      · rename_i whole
        exact (afterAnswer_keeps some_left reacts).weaken (fun _ shown => shown (by simpa using whole))
          (fun _ _ keeps => keeps) fun _ _ impossible => impossible
  · exact afterAnswer_keeps some_left reacts

end Rounds

/-! ## The whole handshake -/

section Handshake

variable {κ : Type} {initializeSecurityContext : κ → Bytes → ContextAnswer × κ} {expects : κ → List Bytes}

theorem Negotiates.reacts_whole (negotiates : Negotiates initializeSecurityContext expects) {context : κ}
    {flight rest : Bytes} {later : List Bytes} (expected : expects context = flight :: later) :
    Reacts (initializeSecurityContext context (flight ++ rest)).1 (flight ++ rest) (expects context)
      (expects (initializeSecurityContext context (flight ++ rest)).2) := by
  rcases negotiates.whole context flight later rest expected with ⟨takes, next⟩ | ⟨asks, next⟩ | fails
  · exact .inl ⟨flight, rest, next ▸ expected, rfl, next ▸ takes⟩
  · exact .inr (.inl ⟨next.trans expected.symm, .inr asks⟩)
  · exact .inr (.inr fails)

/-- What has come in of the stream is a part of the next flight, or that flight and more. -/
theorem Negotiates.reacts (negotiates : Negotiates initializeSecurityContext expects) {context : κ} {data : Bytes}
    {n : Negotiation} {w : DialWorld} (some_left : expects context ≠ [])
    (pending : Pending (expects context) data n w) :
    Reacts (initializeSecurityContext context (n.token w)).1 (n.token w) (expects context)
      (expects (initializeSecurityContext context (n.token w)).2) := by
  obtain ⟨flight, later, expected⟩ := List.exists_cons_of_ne_nil some_left
  have stream := pending.stream
  rw [expected, List.flatten_cons, List.append_assoc] at stream
  have first : n.token w <+: flight ++ (later.flatten ++ data) := ⟨_, stream⟩
  rcases List.prefix_or_prefix_of_prefix first (List.prefix_append _ _) with part | ⟨rest, seen⟩
  · by_cases all : n.token w = flight
    · have whole := @Negotiates.reacts_whole _ _ _ negotiates context flight [] later expected
      rwa [List.append_nil, ← all] at whole
    · rcases negotiates.part context flight later _ expected part all with ⟨status, next⟩ | fails
      · exact .inr (.inl ⟨next.trans expected.symm, .inl status⟩)
      · exact .inr (.inr fails)
  · rw [← seen]
    exact negotiates.reacts_whole expected

variable {data : Bytes} (platform : Platform)

theorem negotiateRound_keeps (negotiates : Negotiates initializeSecurityContext expects) {context : κ}
    {answer : ContextAnswer} {answers : List ContextAnswer} {n : Negotiation} {w w' : DialWorld}
    {roundEnd : RoundEnd} (some_left : expects context ≠ []) (pending : Pending (expects context) data n w)
    (answered : AnsweredBy initializeSecurityContext platform context (answer :: answers) n w)
    (ends : (negotiateRound platform n answer).run w = (.ok roundEnd, w')) :
    ∃ context', roundEnd.Keeps (expects context') data w' ∧
      ∀ n', roundEnd = .again n' → AnsweredBy initializeSecurityContext platform context' answers n' w' := by
  rw [negotiateRound, Program.run_bind] at ends
  rcases read : (readServer n).run w with ⟨error | _ | n₁, w₁⟩
  all_goals rw [read] at ends
  · cases ends
  · cases ends
    exact ⟨context, fun succeeded => absurd succeeded (by decide), nofun⟩
  · obtain ⟨-, pending₁⟩ := readServer_pending.ok pending read n₁ rfl
    obtain ⟨same, rest⟩ := answered n₁ w₁ read
    have reacts := negotiates.reacts some_left pending₁
    rw [← same] at reacts
    have keeps := (answerRound_keeps platform some_left reacts).ok ⟨pending₁, rfl⟩ ends
    refine ⟨_, keeps, ?_⟩
    rintro n' rfl
    exact rest n' w' ends

theorem negotiateLoop_hands_over (negotiates : Negotiates initializeSecurityContext expects)
    {answers : List ContextAnswer} {context : κ} {n : Negotiation} {w w' : DialWorld} {status : UInt32}
    {behind : Bool} (goes_on : n.goesOn = true) (some_left : expects context ≠ [])
    (pending : Pending (expects context) data n w)
    (answered : AnsweredBy initializeSecurityContext platform context answers n w)
    (ends : (negotiateLoop platform answers n).run w = (.ok (status, behind), w'))
    (succeeded : isFailure status = false) : LeftOver data w' := by
  induction answers generalizing context n w with
  | nil =>
      rw [negotiateLoop, goes_on, if_pos rfl] at ends
      cases ends
      contradiction
  | cons answer answers ih =>
      rw [negotiateLoop, if_pos goes_on, Program.run_bind] at ends
      rcases round : (negotiateRound platform n answer).run w with ⟨error | roundEnd, w₁⟩
      all_goals rw [round] at ends
      · cases ends
      · obtain ⟨context', keeps, rest⟩ :=
          negotiateRound_keeps platform negotiates some_left pending answered round
        cases roundEnd with
        | returned status =>
            cases ends
            have failure : isFailure status = true := keeps
            rw [failure] at succeeded
            contradiction
        | left status =>
            cases ends
            exact keeps succeeded
        | again n' => exact ih keeps.1 keeps.2.1 keeps.2.2 (rest n' rfl) ends

/-- The world as the loop finds it, when the first token is sent. -/
def firstRound : Negotiation := ⟨secIContinueNeeded, 0, true⟩

theorem sendFirstToken_pending {flights : List Bytes} (token : Bytes) :
    Succeeds (Pending flights data firstRound) (sendFirstToken token) fun failure w =>
      failure.elim (Pending flights data firstRound w) (isFailure · = true) := by
  unfold sendFirstToken
  split
  · exact .pure fun _ pending => pending
  · refine Program.Triple.via (fun _ => Pending flights data firstRound) (.change fun w pending => ?_) fun _ => ?_
    · exact ⟨pending.calm, pending.unused, pending.within, pending.stream⟩
    refine Program.Triple.via (fun sent w => sent ≠ none → Pending flights data firstRound w) ?_ fun sent => ?_
    · refine .act fun w pending sent => ⟨?_, pending.unused, pending.within, ?_⟩
      · exact send_calm pending.calm token (Option.isSome_iff_ne_none.mpr sent)
      · rw [(send_onlySent pending.calm.noReadLeft.onlyWrites token).same.incoming]
        exact pending.stream
    · refine .pure fun w kept => ?_
      cases sent with
      | none => exact (rfl : isFailure cryptEFileError = true)
      | some count =>
          dsimp only
          split
          · exact (rfl : isFailure secEInternalError = true)
          · exact kept (Option.some_ne_none _)

theorem LeftOver.keeps {w : DialWorld} (handed : LeftOver data w) {f : SslClient → SslClient}
    (same : ∀ tls, (f tls).readBuffer = tls.readBuffer ∧ (f tls).readBufferBytes = tls.readBufferBytes ∧
      (f tls).plainText = tls.plainText ∧ (f tls).readPtr = tls.readPtr ∧
      (f tls).plainTextPtr = tls.plainTextPtr ∧ (f tls).plainTextBytes = tls.plainTextBytes) :
    LeftOver data { w with tls := f w.tls } := by
  obtain ⟨readBuffer, readBufferBytes, plainText, readPtr, plainTextPtr, plainTextBytes⟩ := same w.tls
  refine ⟨handed.unused.keeps (by rw [readBuffer]) plainText readPtr plainTextPtr plainTextBytes, ?_, ?_⟩
  · dsimp only
    rw [readBufferBytes]
    exact handed.within
  · dsimp only
    rw [readBuffer, readBufferBytes]
    exact handed.stream

theorem sspiNegotiateLoop_hands_over (negotiates : Negotiates initializeSecurityContext expects)
    {answers : TlsAnswers} {context : κ} {w w' : DialWorld} {status : UInt32}
    (greeted : answers.first.status = secIContinueNeeded) (some_left : expects context ≠ [])
    (pending : Pending (expects context) data firstRound w)
    (answered : ∀ w₁, (sendFirstToken answers.first.token).run w = (.ok none, w₁) →
      AnsweredBy initializeSecurityContext platform context answers.answers firstRound w₁)
    (ends : (sspiNegotiateLoop platform answers).run w = (.ok status, w'))
    (succeeded : isFailure status = false) : LeftOver data w' := by
  rw [sspiNegotiateLoop, if_neg (not_not.mpr greeted), Program.run_bind] at ends
  rcases first : (sendFirstToken answers.first.token).run w with ⟨error | _ | failure, w₁⟩
  all_goals rw [first] at ends
  · cases ends
  · have pending₁ := (sendFirstToken_pending answers.first.token).ok pending first
    dsimp only at ends
    rw [Program.run_bind] at ends
    rcases loop : (negotiateLoop platform answers.answers firstRound).run w₁ with ⟨error | ⟨status', behind⟩, w₂⟩
    all_goals
      rw [firstRound] at loop
      rw [loop] at ends
    · cases ends
    · have handed := negotiateLoop_hands_over platform negotiates rfl some_left pending₁ (answered w₁ first) loop
      cases behind with
      | false =>
          cases ends
          exact handed succeeded
      | true =>
          cases ends
          exact (handed succeeded).keeps (f := fun tls => { tls with
            encrypting := tls.encrypting || !isFailure status'
            lastSecurityStatus := status' }) fun _ => ⟨rfl, rfl, rfl, rfl, rfl, rfl⟩
  · have failed := (sendFirstToken_pending answers.first.token).ok pending first
    cases ends
    have failure : isFailure status = true := failed
    rw [failure] at succeeded
    contradiction

theorem initializeTls_hands_over (negotiates : Negotiates initializeSecurityContext expects)
    {answers : TlsAnswers} {context : κ} {w w' : DialWorld} (greeted : answers.first.status = secIContinueNeeded)
    (some_left : expects context ≠ []) (calm : Calm w.socket) (unused : Unused w.tls)
    (incoming : w.socket.incoming = (expects context).flatten ++ data)
    (answered : ∀ w₁, (sendFirstToken answers.first.token).run
        { w with tls := { w.tls with readBufferBytes := 0 } } = (.ok none, w₁) →
      AnsweredBy initializeSecurityContext platform context answers.answers firstRound w₁)
    (succeeded : (initializeTls platform answers).run w = (.ok secEOk, w')) : LeftOver data w' := by
  rw [initializeTls] at succeeded
  split at succeeded
  · rename_i failure
    have status : answers.startup = secEOk := Except.ok.inj (congrArg Prod.fst succeeded)
    rw [status] at failure
    contradiction
  · have begun : (changeTls fun tls => { tls with readBufferBytes := 0 } : Dialing Unit).run w =
        (.ok (), { w with tls := { w.tls with readBufferBytes := 0 } }) := rfl
    rw [Program.run_bind_ok begun, Program.run_bind] at succeeded
    rcases ends : (sspiNegotiateLoop platform answers).run { w with tls := { w.tls with readBufferBytes := 0 } }
      with ⟨error | status, w₁⟩
    all_goals rw [ends] at succeeded
    · cases succeeded
    · have pending : Pending (expects context) data firstRound
          { w with tls := { w.tls with readBufferBytes := 0 } } :=
        ⟨calm, unused.keeps rfl rfl rfl rfl rfl, Nat.zero_le _, incoming⟩
      have handed := sspiNegotiateLoop_hands_over platform negotiates greeted some_left pending answered ends
      dsimp only at succeeded
      split at succeeded
      · rename_i failure
        have status_ok : status = secEOk := Except.ok.inj (congrArg Prod.fst succeeded)
        rw [status_ok] at failure
        contradiction
      · rename_i ok
        have handed := handed (by simpa using ok)
        split at succeeded
        · cases succeeded
          exact handed
        · rename_i sizes _
          cases succeeded
          exact handed.keeps (f := fun tls => { tls with sizes := sizes }) fun _ => ⟨rfl, rfl, rfl, rfl, rfl, rfl⟩

end Handshake

/-! ## From the handshake to the plaintext -/

theorem LeftOver.fresh {κ : Type} {records : List TlsRecord} {data : Bytes} {w : DialWorld}
    (handed : LeftOver data w) (whole : data <+: ciphers records) (keys : κ) (arrivals : List RecvAnswer) :
    RecvState.Fresh records { tls := w.tls, context := keys, wire := ⟨w.socket.incoming, arrivals⟩ } where
  readBuffer := handed.unused.readBuffer
  plainText := handed.unused.plainText
  readPtr := handed.unused.readPtr
  within := handed.within
  plainTextPtr := handed.unused.plainTextPtr
  plainTextBytes := handed.unused.plainTextBytes
  history := rfl
  stream := by rw [handed.stream]; exact whole

/-- Nothing that the server sends behind its last flight is lost, taken twice or put out of order,
however the bytes of the handshake and of the records come in together. -/
theorem initializeTls_recvs {κ κ' : Type} {initializeSecurityContext : κ → Bytes → ContextAnswer × κ}
    {expects : κ → List Bytes} (negotiates : Negotiates initializeSecurityContext expects)
    (platform : Platform) {answers : TlsAnswers} {context : κ} {data : Bytes} {w w' : DialWorld}
    (greeted : answers.first.status = secIContinueNeeded) (some_left : expects context ≠ [])
    (calm : Calm w.socket) (unused : Unused w.tls)
    (incoming : w.socket.incoming = (expects context).flatten ++ data)
    (answered : ∀ w₁, (sendFirstToken answers.first.token).run
        { w with tls := { w.tls with readBufferBytes := 0 } } = (.ok none, w₁) →
      AnsweredBy initializeSecurityContext platform context answers.answers firstRound w₁)
    (succeeded : (initializeTls platform answers).run w = (.ok secEOk, w'))
    {decryptMessage : κ' → Bytes → DecryptAnswer κ'} {keys : κ'} {records : List TlsRecord}
    (decrypts : Decrypts decryptMessage keys records) (whole : data <+: ciphers records)
    (arrivals : List RecvAnswer) (lengths : List Nat) :
    let start : RecvState κ' := { tls := w'.tls, context := keys, wire := ⟨w'.socket.incoming, arrivals⟩ }
    w'.tls.readBuffer.take w'.tls.readBufferBytes ++ w'.socket.incoming = data ∧
      ((start.recvs decryptMessage lengths).1.map RecvEnd.data).flatten <+: plains records ∧
      ∀ ended ∈ (start.recvs decryptMessage lengths).1, ended.Expected := by
  intro start
  have handed := initializeTls_hands_over platform negotiates greeted some_left calm unused incoming answered
    succeeded
  have intact := (handed.fresh whole keys arrivals).intact decrypts
  obtain ⟨records', cached, -, delivered, expected⟩ := RecvState.recvs_hands intact lengths
  rw [List.nil_append] at delivered
  exact ⟨handed.stream, ⟨_, delivered⟩, expected⟩


/-- A server whose flight is one byte. -/
def oneFlight : Bool → Bytes → ContextAnswer × Bool
  | false, 5 :: rest =>
      ({ status := secEOk, extra := if rest = [] then none else some rest.length }, true)
  | false, _ => ({ status := secEIncompleteMessage }, false)
  | true, _ => ({ status := secEInternalError }, true)

def oneFlightLeft : Bool → List Bytes
  | false => [[5]]
  | true => []

theorem oneFlight_negotiates : Negotiates oneFlight oneFlightLeft where
  whole context flight later rest expected := by
    cases context with
    | false =>
        cases expected
        exact .inl ⟨⟨rfl, rfl⟩, rfl⟩
    | true => cases expected
  part context flight later part expected shorter proper := by
    cases context with
    | false =>
        cases expected
        cases part with
        | nil => exact .inl ⟨rfl, rfl⟩
        | cons byte part =>
            obtain ⟨rfl, rest⟩ := List.cons_prefix_cons.mp shorter
            rw [List.prefix_nil.mp rest] at proper
            contradiction
    | true => cases expected

/-- The record comes in together with the flight. -/
def bundled : DialWorld where
  socket := { isOpen := true, incoming := [5] ++ RecvState.hi.cipher }

def bundledAnswers : TlsAnswers where
  first := { status := secIContinueNeeded, token := [1] }
  answers := [{ status := secEOk, extra := some 7 }]

theorem bundled_answered (w₁ : DialWorld)
    (first : (sendFirstToken bundledAnswers.first.token).run bundled = (.ok none, w₁)) :
    AnsweredBy oneFlight Platform.blank false bundledAnswers.answers firstRound w₁ := by
  intro n' w' read
  have seen : ∀ n' ∈ ((readServer firstRound).run
      ((sendFirstToken bundledAnswers.first.token).run bundled).2).1.toOption.join,
      n'.token ((readServer firstRound).run ((sendFirstToken bundledAnswers.first.token).run bundled).2).2 =
        5 :: RecvState.hi.cipher := by decide +kernel
  rw [first, read] at seen
  rw [seen n' rfl]
  exact ⟨rfl, fun _ _ _ => trivial⟩

theorem initializeTls_recvs_bundled :
    ∃ w', (initializeTls Platform.blank bundledAnswers).run bundled = (.ok secEOk, w') ∧
      w'.tls.readBuffer.take w'.tls.readBufferBytes ++ w'.socket.incoming = RecvState.hi.cipher := by
  have returns : ((initializeTls Platform.blank bundledAnswers).run bundled).1.toOption = some secEOk := by
    decide +kernel
  rcases run : (initializeTls Platform.blank bundledAnswers).run bundled with ⟨error | status, w'⟩
  all_goals rw [run] at returns
  · cases returns
  · obtain rfl : status = secEOk := Option.some.inj returns
    have unused : Unused bundled.tls :=
      ⟨List.length_replicate, List.length_replicate, rfl, rfl, rfl⟩
    have whole : RecvState.hi.cipher <+: ciphers [RecvState.hi] := by simp [ciphers]
    have some_left : oneFlightLeft false ≠ [] := List.cons_ne_nil _ _
    exact ⟨w', rfl, (initializeTls_recvs oneFlight_negotiates Platform.blank rfl some_left
      ⟨rfl, rfl⟩ unused rfl bundled_answered run RecvState.decryptHi_decrypts whole [] [2]).1⟩

end LuaXENetwork
