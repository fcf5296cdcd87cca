import LuaXENetwork.Listener.Async
import LuaXENetwork.Proof.Listener.Accept

/-! The servers of a process, their handlers and their threads, in any order of steps. -/

namespace LuaXENetwork
open Library

section Calls

variable (lua : LuaLibrary) (outside : AcceptOutside)

/-- The calls of a thread whose function behaves as the handler does. -/
def AcceptOutside.async : AsyncOutside := ⟨none, outside.handler, outside.onError⟩

/-- How a call of `accept` ends whose handler would, in a thread, end so. -/
def handlerEnd (timed : Bool) : Except AcceptFailure (Option Bytes) →
    Except AcceptFailure (List LuaValue) × List AcceptEvent
  | .ok response => (.ok (if timed then [.boolean true] else []), response.toList.flatMap fun r => [.sent r, .closed])
  | .error failure => (.error failure, [])

theorem callHandler_async (context server handler : LuaValue) (events : List AcceptEvent) :
    (callHandler lua outside context [server, handler]).run events =
      ((asyncStack lua outside.async).map ([server, context] ++ ·), events ++ [.called handler]) := by
  unfold callHandler Accepting.record Accepting.raise asyncStack AcceptOutside.async
  simp only [Program.run_bind, Program.run_change]
  cases outside.handler with
  | returned values => rfl
  | raised error =>
      cases outside.onError with
      | none => rfl
      | some call =>
          cases call with
          | returned values => rfl
          | raised error => rfl

theorem sendAnswer_async (server context : LuaValue) (values : List LuaValue) (events : List AcceptEvent) :
    (sendAnswer lua ([server, context] ++ values)).run events =
      if values = [] then (.ok (), events)
      else ((handlerAnswer lua (argument values values.length)).map fun _ => (),
        events ++ (handlerAnswer lua (argument values values.length)).toOption.toList.flatMap
          fun r => [.sent r, .closed]) := by
  cases values with
  | nil => rfl
  | cons first values =>
      have last : argument ([server, context] ++ first :: values) ([server, context] ++ first :: values).length =
          argument (first :: values) (first :: values).length := by
        simp [argument]
      rw [sendAnswer, if_pos (by simp), if_neg (by simp), last, Program.run_bind, Program.run_ofExcept]
      cases handlerAnswer lua (argument (first :: values) (first :: values).length) with
      | error failure => simp [Except.map, Except.toOption]
      | ok response =>
          simp [Except.map, Except.toOption, Accepting.record, Program.run_bind, Program.run_change]

variable {lua outside}

theorem listenerAsyncRun_ok {call : AsyncOutside} {values : List LuaValue} (loaded : call.unloaded = none)
    (left : asyncStack lua call = .ok values) :
    listenerAsyncRun lua call =
      if values = [] then .ok none else (handlerAnswer lua (argument values values.length)).map some := by
  rw [listenerAsyncRun, loaded]
  simp only [left, ok_bind]
  cases values with
  | nil => rfl
  | cons first values =>
      rw [if_pos (by simp), if_neg (by simp)]
      cases handlerAnswer lua (argument (first :: values) (first :: values).length) with
      | error failure => rfl
      | ok response => rfl

theorem listenerAsyncRun_error {call : AsyncOutside} {failure : AcceptFailure} (loaded : call.unloaded = none)
    (fails : asyncStack lua call = .error failure) : listenerAsyncRun lua call = .error failure := by
  rw [listenerAsyncRun, loaded]
  simp only [fails]
  rfl

variable (lua outside)

theorem acceptPending_async (context : LuaValue) (timed : Bool) {stack : List LuaValue} (two : stack.length = 2)
    (handler : isHandler (argument stack 2) = true) (connected : outside.accepted = none)
    (events : List AcceptEvent) :
    (acceptPending lua outside context timed stack).run events =
      ((handlerEnd timed (listenerAsyncRun lua outside.async)).1, events ++
        ([.accepted true, .called (argument stack 2)] ++ (handlerEnd timed (listenerAsyncRun lua outside.async)).2)) := by
  obtain ⟨server, second, rfl⟩ := List.length_eq_two.mp two
  have called : argument [server, second] 2 = second := rfl
  rw [called] at handler ⊢
  unfold acceptPending
  simp only [called, handler, Bool.true_eq_false, if_false, Program.run_bind, serverAccept_run, connected,
    Option.isNone_none, if_true, callHandler_async]
  cases left : asyncStack lua outside.async with
  | error failure =>
      rw [listenerAsyncRun_error rfl left]
      simp [Except.map, handlerEnd]
  | ok values =>
      rw [listenerAsyncRun_ok rfl left]
      simp only [Except.map, sendAnswer_async]
      cases values with
      | nil => simp [handlerEnd]
      | cons first values =>
          rw [if_neg (List.cons_ne_nil _ _), if_neg (List.cons_ne_nil _ _)]
          cases handlerAnswer lua (argument (first :: values) (first :: values).length) with
          | error failure => simp [Except.toOption, handlerEnd]
          | ok response => simp [Except.toOption, handlerEnd]

/-- The handler form answers as a thread does with the same function; where a thread would end the process,
the call raises. -/
theorem listenerAccept_async {shown : LuaNumber → Bytes} {context : LuaValue} {stack stack' : List LuaValue}
    {timed : Bool} {timeoutMs : Int} (read : acceptArguments shown stack = .ok (timed, timeoutMs, stack'))
    (handler : isHandler (argument stack 2) = true) (connected : outside.accepted = none)
    (readable : outside.readable = true) :
    ∃ waits, (∀ event ∈ waits, ∃ ms, event = .waited ms) ∧
      (listenerAccept lua outside shown context stack).run [] =
        ((handlerEnd timed (listenerAsyncRun lua outside.async)).1, waits ++ ([.accepted true, .called (argument stack 2)] ++
          (handlerEnd timed (listenerAsyncRun lua outside.async)).2)) := by
  have arguments := acceptArguments_ok read
  obtain ⟨two, second⟩ := arguments.trimmed handler
  have handler' := arguments.handler.trans handler
  have pending := acceptPending_async lua outside context timed two handler' connected
  rw [second] at pending
  unfold listenerAccept
  simp only [Program.run_bind, Program.run_ofExcept, read]
  rw [if_neg (by simp [handler'])]
  by_cases waits : timed = true ∧ timeoutMs ≠ 0
  · simp only [if_pos waits, Accepting.record, Program.run_bind, Program.run_change, readable, if_true, pending]
    exact ⟨_, by simp, rfl⟩
  · simp only [if_neg waits, pending]
    exact ⟨[], by simp, rfl⟩

/-- The handler raises, and `onError` answers. -/
def repaired : AcceptOutside where
  registered := none
  blocking := false
  readable := true
  accepted := none
  handler := .raised (.string [33])
  onError := some (.returned [.string [65]])

theorem listenerAccept_async_repaired : ∃ waits, (∀ event ∈ waits, ∃ ms, event = .waited ms) ∧
    (listenerAccept .whole repaired (fun _ => []) (.userdata 8) [.userdata 7, .function 3]).run [] =
      (.ok [], waits ++ [.accepted true, .called (.function 3), .sent [65], .closed]) :=
  have read : acceptArguments (fun _ => []) [.userdata 7, .function 3] =
      .ok (false, 0, [.userdata 7, .function 3]) := rfl
  listenerAccept_async .whole repaired read rfl rfl rfl

end Calls

end LuaXENetwork
