import LuaXENetwork.Proof.Listener.Accept
import LuaXENetwork.Socket.Send

/-! What the peer gets of an answer of the handler. -/

namespace LuaXENetwork
open Library

namespace AcceptOutside

/-- What the handler returned, or the error handler after the handler had failed. -/
def results (outside : AcceptOutside) : Option (List LuaValue) :=
  match outside.handler, outside.onError with
  | .returned values, _ => some values
  | .raised _, some (.returned values) => some values
  | .raised _, _ => none

/-- What the calls leave above the socket. The error of the handler stays below the results of the
error handler. -/
def left (outside : AcceptOutside) : Option (List LuaValue) :=
  match outside.handler, outside.onError with
  | .returned values, _ => some values
  | .raised error, some (.returned values) => some (error :: values)
  | .raised _, _ => none

end AcceptOutside

/-- The bytes that the last of the values makes, if there are any. -/
def lastAnswer (lua : LuaLibrary) (values : Option (List LuaValue)) : Bytes :=
  match values.bind List.getLast? with
  | none => []
  | some value => (handlerAnswer lua value).toOption.getD []

/-- What is sent for the handler is what goes to the peer's socket. -/
def sentBytes (events : List AcceptEvent) : Bytes :=
  events.flatMap fun
    | .sent response => response
    | _ => []

namespace PeerSocket

/-- What an event of `accept` does to the accepted socket. -/
def after (s : PeerSocket) : AcceptEvent → PeerSocket
  | .sent response => (s.sendBytes response).2
  | .closed => s.close
  | _ => s

end PeerSocket

/-- An event that leaves the accepted socket alone. -/
def Aside : AcceptEvent → Prop
  | .sent _ | .closed => False
  | _ => True

theorem sentBytes_append (events more : List AcceptEvent) :
    sentBytes (events ++ more) = sentBytes events ++ sentBytes more := List.flatMap_append

theorem sentBytes_aside {events : List AcceptEvent} (aside : ∀ event ∈ events, Aside event) :
    sentBytes events = [] := by
  apply List.flatMap_eq_nil_iff.mpr
  intro event member
  cases event with
  | sent response => cases aside _ member
  | _ => rfl

theorem after_aside {events : List AcceptEvent} (aside : ∀ event ∈ events, Aside event)
    (s : PeerSocket) : events.foldl PeerSocket.after s = s := by
  induction events with
  | nil => rfl
  | cons event events ih =>
      have later := ih fun event member => aside event (List.mem_cons_of_mem _ member)
      have first := aside event List.mem_cons_self
      cases event with
      | sent response => cases first
      | closed => cases first
      | waited ms => exact later
      | accepted connected => exact later
      | started dumped => exact later
      | called handler => exact later

/-! ## The end of a call that ran the handler -/

section Calls

variable (lua : LuaLibrary) (outside : AcceptOutside)

/-- How `accept` ends behind the call of the handler, by what the calls have left. -/
inductive HandlerEnded (earlier : List AcceptEvent) :
    Except AcceptFailure (List LuaValue) × List AcceptEvent → Prop
  | failed {failure : AcceptFailure} (left : outside.left = none) :
      HandlerEnded earlier (.error failure, earlier)
  | silent (values : List LuaValue) (left : outside.left = some []) :
      HandlerEnded earlier (.ok values, earlier)
  | unbuilt {values : List LuaValue} {value : LuaValue} {failure : AcceptFailure}
      (left : outside.left = some values) (last : values.getLast? = some value)
      (bad : handlerAnswer lua value = .error failure) : HandlerEnded earlier (.error failure, earlier)
  | sent {values : List LuaValue} {value : LuaValue} {response : Bytes} (returned : List LuaValue)
      (left : outside.left = some values) (last : values.getLast? = some value)
      (built : handlerAnswer lua value = .ok response) :
      HandlerEnded earlier (.ok returned, earlier ++ [.sent response, .closed])

theorem callHandler_left (context server handler : LuaValue) (events : List AcceptEvent) :
    ∃ failure, (callHandler lua outside context [server, handler]).run events =
      (match outside.left with
        | some values => .ok ([server, context] ++ values)
        | none => .error failure, events ++ [.called handler]) := by
  unfold callHandler Accepting.record Accepting.raise AcceptOutside.left
  simp only [Program.run_bind, Program.run_change]
  cases outside.handler with
  | returned values => exact ⟨.exception [], rfl⟩
  | raised error =>
      cases outside.onError with
      | none => exact ⟨_, rfl⟩
      | some call =>
          cases call with
          | returned values => exact ⟨.exception [], by simp [argument]⟩
          | raised error => exact ⟨_, rfl⟩

theorem argument_last {values : List LuaValue} {value : LuaValue} (last : values.getLast? = some value)
    (below : List LuaValue) : argument (below ++ values) (below ++ values).length = value := by
  obtain ⟨init, rfl⟩ := List.getLast?_eq_some_iff.mp last
  rw [← List.append_assoc, argument, List.length_append, List.length_singleton, Nat.add_sub_cancel,
    List.getElem?_concat_length]
  rfl

/-- The last value above the socket is answered, and nothing else is sent. -/
theorem sendAnswer_run (server context : LuaValue) (values : List LuaValue)
    (events : List AcceptEvent) :
    (values = [] ∧ (sendAnswer lua ([server, context] ++ values)).run events = (.ok (), events)) ∨
    ∃ value, values.getLast? = some value ∧
      ((∃ failure, handlerAnswer lua value = .error failure ∧
          (sendAnswer lua ([server, context] ++ values)).run events = (.error failure, events)) ∨
        ∃ response, handlerAnswer lua value = .ok response ∧
          (sendAnswer lua ([server, context] ++ values)).run events =
            (.ok (), events ++ [.sent response, .closed])) := by
  cases last : values.getLast? with
  | none =>
      obtain rfl := List.getLast?_eq_none_iff.mp last
      exact .inl ⟨rfl, rfl⟩
  | some value =>
      have more : 2 < ([server, context] ++ values).length := by
        cases values with
        | nil => cases last
        | cons first others => simp
      refine .inr ⟨value, rfl, ?_⟩
      unfold sendAnswer
      rw [if_pos more, argument_last last, Program.run_bind, Program.run_ofExcept]
      cases handlerAnswer lua value with
      | error failure => exact .inl ⟨failure, rfl, rfl⟩
      | ok response =>
          refine .inr ⟨response, rfl, ?_⟩
          simp only [Accepting.record, Program.run_bind, Program.run_change, List.append_assoc]
          rfl

theorem acceptHandler_ended (context : LuaValue) (timed : Bool) {stack : List LuaValue}
    (handler : isHandler (argument stack 2) = true) (two : stack.length = 2)
    (connected : outside.accepted = none) (events : List AcceptEvent) :
    HandlerEnded lua outside (events ++ [.accepted true, .called (argument stack 2)])
      ((acceptPending lua outside context timed stack).run events) := by
  obtain ⟨server, function, rfl⟩ := List.length_eq_two.mp two
  unfold acceptPending
  simp only [handler, Bool.true_eq_false, if_false, Program.run_bind, serverAccept_run, connected,
    if_true, Option.isNone_none]
  obtain ⟨failure, called⟩ := callHandler_left lua outside context server function
    (events ++ [.accepted true])
  rw [called, List.append_assoc]
  cases left : outside.left with
  | none => exact .failed left
  | some values =>
      simp only
      rcases sendAnswer_run lua server context values
          (events ++ ([.accepted true] ++ [.called function])) with
        ⟨rfl, silent⟩ | ⟨value, last, ⟨failure, bad, unbuilt⟩ | ⟨response, built, sent⟩⟩
      · rw [silent]
        exact .silent _ left
      · rw [unbuilt]
        exact .unbuilt left last bad
      · rw [sent]
        exact .sent _ left last built

/-- Without a handler, or without a connection for it, no handler is called. -/
theorem acceptPending_uncalled (context : LuaValue) (timed : Bool) {stack : List LuaValue}
    (uncalled : isHandler (argument stack 2) = false ∨ outside.accepted ≠ none)
    (events : List AcceptEvent) (function : LuaValue) :
    .called function ∈ ((acceptPending lua outside context timed stack).run events).2 ↔
      .called function ∈ events := by
  unfold acceptPending
  by_cases handler : isHandler (argument stack 2) = false
  · rw [if_pos handler]
    cases outside.registered with
    | none => rfl
    | some dumped =>
        simp only [Program.run_bind, serverAccept_run]
        cases outside.accepted with
        | none =>
            simp only [Accepting.record, if_true, Program.run_bind, Program.run_change]
            simp
        | some code =>
            by_cases gone : code = wsaeWouldBlock ∨ code = wsaeIntr
            · simp [if_pos gone]
            · simp [if_neg gone]
  · rw [if_neg handler, Program.run_bind, serverAccept_run]
    cases accepted : outside.accepted with
    | none => exact absurd accepted (uncalled.resolve_left handler)
    | some code =>
        by_cases gone : code = wsaeWouldBlock ∨ code = wsaeIntr
        · cases blocking : outside.blocking
          · simp [if_pos gone]
          · simp [if_pos gone, Accepting.raise]
        · simp [if_neg gone]

/-- A call that ran the handler did nothing to the peer's socket before. -/
theorem listenerAccept_ended {shown : LuaNumber → Bytes} {context : LuaValue}
    {stack : List LuaValue} {function : LuaValue}
    (called : .called function ∈ ((listenerAccept lua outside shown context stack).run []).2) :
    ∃ earlier, (∀ event ∈ earlier, Aside event) ∧
      HandlerEnded lua outside earlier ((listenerAccept lua outside shown context stack).run []) := by
  cases read : acceptArguments shown stack with
  | error failure =>
      simp [listenerAccept, Program.run_bind, read] at called
  | ok result =>
      obtain ⟨timed, timeoutMs, stack'⟩ := result
      have arguments := acceptArguments_ok read
      have pending {events : List AcceptEvent} (aside : ∀ event ∈ events, Aside event)
          (none : .called function ∉ events)
          (called : .called function ∈
            ((acceptPending lua outside context timed stack').run events).2) :
          ∃ earlier, (∀ event ∈ earlier, Aside event) ∧
            HandlerEnded lua outside earlier ((acceptPending lua outside context timed stack').run events) := by
        have reached : ¬ (isHandler (argument stack' 2) = false ∨ outside.accepted ≠ Option.none) :=
          fun uncalled => none ((acceptPending_uncalled lua outside context timed uncalled events _).mp called)
        simp only [not_or, Bool.not_eq_false, not_not] at reached
        have two := (arguments.trimmed (arguments.handler ▸ reached.1)).1
        refine ⟨_, ?_, acceptHandler_ended lua outside context timed reached.1 two reached.2 events⟩
        intro event member
        rcases List.mem_append.mp member with member | member
        · exact aside event member
        · rcases List.mem_pair.mp member with rfl | rfl
          · trivial
          · trivial
      unfold listenerAccept at called ⊢
      simp only [Program.run_bind, Program.run_ofExcept, read] at called ⊢
      by_cases nothing : outside.registered = none ∧ isHandler (argument stack' 2) = false
      · simp [if_pos nothing, Accepting.raise] at called
      · simp only [if_neg nothing] at called ⊢
        by_cases waits : timed = true ∧ timeoutMs ≠ 0
        · simp only [if_pos waits, Accepting.record, Program.run_bind, Program.run_change] at called ⊢
          cases readable : outside.readable with
          | false => simp [readable] at called
          | true =>
              simp only [readable, if_true] at called ⊢
              exact pending (by simp [Aside]) (by simp) called
        · simp only [if_neg waits] at called ⊢
          exact pending (by simp) (by simp) called

end Calls

/-! ## The whole answer -/

namespace AcceptOutside

theorem left_of_results {outside : AcceptOutside} {values left : List LuaValue} {value : LuaValue}
    (returned : outside.results = some values) (last : values.getLast? = some value)
    (same : outside.left = some left) : left.getLast? = some value := by
  unfold results at returned
  unfold AcceptOutside.left at same
  split at returned
  · simp_all
  · rename_i error values' raised handled
    obtain rfl := Option.some.inj returned
    simp only [raised, handled, Option.some.injEq] at same
    rw [← same, List.getLast?_cons, last]
    rfl
  · cases returned

end AcceptOutside

namespace PeerSocket

/-- `send` takes all of the response. -/
def TakesWhole (s : PeerSocket) (response : Bytes) : Prop :=
  s.released = false ∧ response.length < 2 ^ 31 ∧
    ∃ count, s.sends.head? = some (.took count) ∧ response.length ≤ count

theorem close_taken (s : PeerSocket) : s.close.taken = s.taken := rfl

theorem sendBytes_taken (s : PeerSocket) (data : Bytes) :
    (s.sendBytes data).2.taken = (s.send data (toInt32 data.length)).2.taken := by
  unfold sendBytes
  split
  · rename_i same
    rw [same]
  · rename_i same
    rw [same]
    split_ifs <;> rfl

theorem toInt32_length_lt {n : Nat} : n ≤ (toInt32 n).toNat ↔ n < 2 ^ 31 := by
  unfold toInt32
  omega

theorem send_taken_iff (s : PeerSocket) (data : Bytes) :
    (s.send data (toInt32 data.length)).2.taken = s.taken ++ data ↔ data = [] ∨ s.TakesWhole data := by
  unfold send TakesWhole
  cases released : s.released with
  | true => simp
  | false =>
      cases sends : s.sends with
      | nil => simp
      | cons first others =>
          cases first with
          | failed error => simp
          | took count =>
              have whole : data.take (min count (toInt32 data.length).toNat) = data ↔
                  data.length ≤ count ∧ data.length < 2 ^ 31 := by
                rw [List.take_eq_self_iff, le_min_iff, toInt32_length_lt]
              simp only [Bool.false_eq_true, if_false, List.headD_cons, List.append_cancel_left_eq, whole,
                List.head?_cons, Option.some.injEq, SendResult.took.injEq, exists_eq_left', true_and]
              constructor
              · exact fun both => .inr both.symm
              · rintro (rfl | both)
                · simp
                · exact both.symm

end PeerSocket

/-- A response that a handled call has for the peer is taken before the socket is closed, if the one
call of `send` takes it. -/
theorem response_taken_iff {lua : LuaLibrary} {outside : AcceptOutside}
    {shown : LuaNumber → Bytes} {context function answer : LuaValue} {stack values returned : List LuaValue}
    {events : List AcceptEvent} {response : Bytes} (socket : PeerSocket)
    (handled : (listenerAccept lua outside shown context stack).run [] = (.ok returned, events))
    (called : .called function ∈ events) (results : outside.results = some values)
    (last : values.getLast? = some answer) (built : handlerAnswer lua answer = .ok response) :
    (events.foldl PeerSocket.after socket).taken = socket.taken ++ response ↔
      response = [] ∨ socket.TakesWhole response := by
  have ran : .called function ∈ ((listenerAccept lua outside shown context stack).run []).2 := by
    rw [handled]
    exact called
  obtain ⟨earlier, aside, ended⟩ := listenerAccept_ended lua outside ran
  rw [handled] at ended
  cases ended with
  | silent values' left =>
      have stays := AcceptOutside.left_of_results results last left
      cases stays
  | sent returned' left last' built' =>
      have same := AcceptOutside.left_of_results results last left
      obtain rfl := Option.some.inj (same.symm.trans last')
      obtain rfl := Except.ok.inj (built.symm.trans built')
      rw [List.foldl_append, after_aside aside]
      show ((socket.sendBytes response).2.close).taken = _ ↔ _
      rw [PeerSocket.close_taken, PeerSocket.sendBytes_taken, PeerSocket.send_taken_iff]

/-- What is sent is made from the last value above the socket, whoever left it there. -/
theorem sentBytes_left {lua : LuaLibrary} {outside : AcceptOutside} {shown : LuaNumber → Bytes}
    {context function : LuaValue} {stack : List LuaValue}
    (called : .called function ∈ ((listenerAccept lua outside shown context stack).run []).2) :
    sentBytes ((listenerAccept lua outside shown context stack).run []).2 =
      lastAnswer lua outside.left := by
  obtain ⟨earlier, aside, ended⟩ := listenerAccept_ended lua outside called
  generalize (listenerAccept lua outside shown context stack).run [] = ends at ended
  cases ended with
  | failed left =>
      rw [left, sentBytes_aside aside]
      rfl
  | silent values left =>
      rw [left, sentBytes_aside aside]
      rfl
  | unbuilt left last bad =>
      rw [left, sentBytes_aside aside]
      simp [lastAnswer, last, bad, Except.toOption]
  | sent returned left last built =>
      rw [left, sentBytes_append, sentBytes_aside aside]
      simp [lastAnswer, last, built, Except.toOption, sentBytes]

theorem lastAnswer_nil_iff (lua : LuaLibrary) (error : LuaValue) :
    lastAnswer lua (some [error]) = lastAnswer lua (some []) ↔
      ∀ error' response, ProtectedCall.raised error = .raised error' →
        some (ProtectedCall.returned []) = some (.returned []) →
        handlerAnswer lua error' = .ok response → response = [] := by
  constructor
  · intro same error' response raised _ built
    obtain rfl := ProtectedCall.raised.inj raised
    simpa [lastAnswer, built, Except.toOption] using same
  · intro empty
    cases built : handlerAnswer lua error with
    | error failure => simp [lastAnswer, built, Except.toOption]
    | ok response =>
        obtain rfl := empty error response rfl rfl built
        simp [lastAnswer, built, Except.toOption]

/-- What is sent is the answer of the results, unless the error handler returned nothing and the
error itself makes an answer. -/
theorem sent_answer_iff {lua : LuaLibrary} {outside : AcceptOutside} {shown : LuaNumber → Bytes}
    {context function : LuaValue} {stack : List LuaValue}
    (called : .called function ∈ ((listenerAccept lua outside shown context stack).run []).2) :
    sentBytes ((listenerAccept lua outside shown context stack).run []).2 =
        lastAnswer lua outside.results ↔
      ∀ error response, outside.handler = .raised error → outside.onError = some (.returned []) →
        handlerAnswer lua error = .ok response → response = [] := by
  rw [sentBytes_left called]
  unfold AcceptOutside.left AcceptOutside.results
  cases outside.handler with
  | returned values => simp
  | raised error =>
      cases outside.onError with
      | none => simp
      | some call =>
          cases call with
          | raised error => simp
          | returned values =>
              cases values with
              | nil => exact lastAnswer_nil_iff lua error
              | cons value values => simp [lastAnswer, List.getLast?_cons]

/-! ## Answers that are lost or leaked -/

/-- A connection is pending, and the handler and the error handler do as given. -/
def pendingCall (handler : ProtectedCall) (onError : Option ProtectedCall) : AcceptOutside where
  registered := none
  blocking := false
  readable := true
  accepted := none
  handler := handler
  onError := onError

def handlerCall (handler : ProtectedCall) (onError : Option ProtectedCall) :
    Except AcceptFailure (List LuaValue) × List AcceptEvent :=
  (listenerAccept .whole (pendingCall handler onError) (fun _ => []) (.userdata 2)
    [.userdata 0, .function 1]).run []

def returnsTwoBytes : ProtectedCall := .returned [.string [97, 98]]

theorem handlerCall_twoBytes (onError : Option ProtectedCall) :
    handlerCall returnsTwoBytes onError =
      (.ok [], [.accepted true, .called (.function 1), .sent [97, 98], .closed]) := rfl

/-- The socket takes the first byte of two, and is closed. -/
theorem response_cut_short :
    handlerCall returnsTwoBytes none =
      (.ok [], [.accepted true, .called (.function 1), .sent [97, 98], .closed]) ∧
    (pendingCall returnsTwoBytes none).results = some [.string [97, 98]] ∧
    ((handlerCall returnsTwoBytes none).2.foldl PeerSocket.after { sends := [.took 1] }).taken = [97] :=
  ⟨handlerCall_twoBytes none, rfl, by rw [handlerCall_twoBytes]; decide⟩

theorem response_taken_twoBytes :
    ((handlerCall returnsTwoBytes none).2.foldl PeerSocket.after { sends := [.took 2] }).taken =
      [97, 98] := by
  have called : .called (.function 1) ∈ (handlerCall returnsTwoBytes none).2 := by
    rw [handlerCall_twoBytes]
    simp
  have taken := response_taken_iff { sends := [.took 2] } (handlerCall_twoBytes none) called
    (show (pendingCall returnsTwoBytes none).results = some [.string [97, 98]] from rfl) rfl rfl
  apply taken.mpr
  exact .inr ⟨rfl, by decide, 2, rfl, by decide⟩

def raisesText : ProtectedCall := .raised (.string [111, 104])

/-- The error of the handler goes to the peer, though the error handler returned nothing. -/
theorem error_leaked :
    (pendingCall raisesText (some (.returned []))).results = some [] ∧
    sentBytes (handlerCall raisesText (some (.returned []))).2 = [111, 104] :=
  ⟨rfl, rfl⟩

theorem sent_answer_twoBytes :
    sentBytes (handlerCall returnsTwoBytes none).2 =
      lastAnswer .whole (pendingCall returnsTwoBytes none).results := by
  have called : .called (.function 1) ∈ (handlerCall returnsTwoBytes none).2 := by
    rw [handlerCall_twoBytes]
    simp
  apply (sent_answer_iff called).mpr
  intro error response raised
  cases raised

end LuaXENetwork
