import LuaXENetwork.Listener.Accept
import LuaXENetwork.Library.Except
import LuaXENetwork.Library.History
import Mathlib.Tactic.SplitIfs

/-! What a call of `accept` returns, and when it waits. -/

namespace LuaXENetwork
open Library

def timeoutArgument (stack : List LuaValue) : Option LuaNumber :=
  match argument stack 2, argument stack 3 with
  | .number raw, _ => some raw
  | _, .number raw => some raw
  | _, _ => none

/-- A whole number of milliseconds that fits an `int`. -/
def IsMilliseconds (raw : LuaNumber) (n : Int) : Prop :=
  raw = .finite n ∧ -2 ^ 31 ≤ n ∧ n < 2 ^ 31

/-- A connection was accepted, and the handler or the registered function got it. -/
def HandedOver (outside : AcceptOutside) (handler : LuaValue) (events : List AcceptEvent) : Prop :=
  .accepted true ∈ events ∧
    (.called handler ∈ events ∨ ∃ dumped, outside.registered = some dumped ∧ .started dumped ∈ events)

/-! ## The arguments -/

theorem acceptTimeoutArg_cases (shown : LuaNumber → Bytes) (raw : LuaNumber) :
    (∃ n, IsMilliseconds raw n ∧ acceptTimeoutArg shown raw = .ok n) ∨
      (∀ n, ¬ IsMilliseconds raw n) ∧ ∃ failure, acceptTimeoutArg shown raw = .error failure := by
  cases raw with
  | finite value =>
      unfold acceptTimeoutArg
      simp only
      split_ifs with bad
      · refine .inr ⟨?_, _, rfl⟩
        rintro n ⟨same, low, high⟩
        obtain rfl := LuaNumber.finite.inj same
        rw [Rat.floor_intCast] at bad
        rcases bad with fraction | small | large
        · exact fraction rfl
        · exact absurd small (not_lt.mpr (by exact_mod_cast low))
        · exact absurd large (not_lt.mpr (by exact_mod_cast Int.le_sub_one_of_lt high))
      · simp only [not_or, not_not, not_lt] at bad
        refine .inl ⟨value.floor, ⟨?_, ?_, ?_⟩, rfl⟩
        · rw [← bad.1]
        · have low := bad.2.1
          rw [bad.1] at low
          exact_mod_cast low
        · have high := bad.2.2
          rw [bad.1] at high
          have : value.floor ≤ 2 ^ 31 - 1 := by exact_mod_cast high
          omega
  | infinite negative => exact .inr ⟨fun n is => (nomatch is.1), _, rfl⟩
  | nan => exact .inr ⟨fun n is => (nomatch is.1), _, rfl⟩

/-- What a call makes of its arguments when they do not raise. -/
structure Arguments (stack : List LuaValue) (timed : Bool) (timeoutMs : Int)
    (stack' : List LuaValue) : Prop where
  timeout : ∀ raw, timeoutArgument stack = some raw → timed = true ∧ IsMilliseconds raw timeoutMs
  untimed : timeoutArgument stack = none → timed = false ∧ timeoutMs = 0
  handler : isHandler (argument stack' 2) = isHandler (argument stack 2)
  trimmed : isHandler (argument stack 2) = true →
    stack'.length = 2 ∧ argument stack' 2 = argument stack 2

theorem argument_setTop_le {stack : List LuaValue} {index top : Nat} (positive : 0 < index)
    (kept : index ≤ top) : argument (setTop stack top) index = argument stack index := by
  simp only [argument, setTop, List.getElem?_append, List.length_take, List.getElem?_take,
    List.getElem?_replicate]
  by_cases inside : index - 1 < stack.length
  · rw [if_pos (by omega), if_pos (by omega)]
  · rw [if_neg (by omega), List.getElem?_eq_none (by omega)]
    split_ifs <;> rfl

theorem argument_setTop_gt {stack : List LuaValue} {index top : Nat} (cut : top < index) :
    argument (setTop stack top) index = .nil := by
  rw [argument, List.getElem?_eq_none]
  · rfl
  · simp only [setTop, List.length_append, List.length_take, List.length_replicate]
    omega

theorem length_setTop (stack : List LuaValue) (top : Nat) : (setTop stack top).length = top := by
  simp only [setTop, List.length_append, List.length_take, List.length_replicate]
  omega

theorem acceptArguments_ok {shown : LuaNumber → Bytes} {stack stack' : List LuaValue} {timed : Bool}
    {timeoutMs : Int} (h : acceptArguments shown stack = .ok (timed, timeoutMs, stack')) :
    Arguments stack timed timeoutMs stack' := by
  have taken {raw : LuaNumber} (read : acceptTimeoutArg shown raw = .ok timeoutMs) :
      IsMilliseconds raw timeoutMs := by
    rcases acceptTimeoutArg_cases shown raw with ⟨n, is, same⟩ | ⟨-, failure, same⟩
    · obtain rfl := Except.ok.inj (read.symm.trans same)
      exact is
    · rw [same] at read
      cases read
  unfold acceptArguments at h
  by_cases many : 3 < stack.length
  · rw [if_pos many] at h
    cases h
  rw [if_neg many] at h
  split at h
  · rename_i raw _ second
    simp only [bind_eq_ok, pure_eq_ok, Prod.mk.injEq] at h
    obtain ⟨ms, read, rfl, rfl, rfl⟩ := h
    have none : isHandler (argument stack 2) = false := by rw [second]; rfl
    refine ⟨fun raw' same => ?_, fun untaken => ?_, ?_, ?_⟩
    · simp only [timeoutArgument, second, Option.some.injEq] at same
      exact ⟨rfl, same ▸ taken read⟩
    · simp [timeoutArgument, second] at untaken
    · rw [none, argument_setTop_gt (by omega)]
      rfl
    · simp [none]
  · rename_i second raw third unlike
    simp only [bind_eq_ok, pure_eq_ok, Prod.mk.injEq] at h
    obtain ⟨ms, read, rfl, rfl, rfl⟩ := h
    have same_second : argument (setTop stack 2) 2 = argument stack 2 :=
      argument_setTop_le (by omega) le_rfl
    have takes : timeoutArgument stack = some raw := by
      unfold timeoutArgument
      split <;> simp_all
    refine ⟨fun raw' same => ?_, fun untaken => ?_, ?_, ?_⟩
    · obtain rfl := Option.some.inj (takes.symm.trans same)
      exact ⟨rfl, taken read⟩
    · rw [takes] at untaken
      cases untaken
    · rw [same_second]
    · exact fun _ => ⟨length_setTop stack 2, same_second⟩
  · rename_i second third first rest
    have untaken : timeoutArgument stack = none := by
      unfold timeoutArgument
      split <;> simp_all
    have same_second : argument (setTop stack 2) 2 = argument stack 2 :=
      argument_setTop_le (by omega) le_rfl
    split_ifs at h with handler stray
    · cases h
    · obtain ⟨rfl, rfl, rfl⟩ : _ ∧ _ ∧ _ := by simpa using h
      exact ⟨fun raw taken => by simp [untaken] at taken, fun _ => ⟨rfl, rfl⟩,
        by rw [same_second], fun _ => ⟨length_setTop stack 2, same_second⟩⟩
    · obtain ⟨rfl, rfl, rfl⟩ : _ ∧ _ ∧ _ := by simpa using h
      exact ⟨fun raw taken => by simp [untaken] at taken, fun _ => ⟨rfl, rfl⟩, rfl,
        fun is => absurd is handler⟩

theorem acceptArguments_refuses {stack : List LuaValue} {raw : LuaNumber}
    (taken : timeoutArgument stack = some raw) (bad : ∀ n, ¬ IsMilliseconds raw n)
    (shown : LuaNumber → Bytes) : ∃ failure, acceptArguments shown stack = .error failure := by
  cases h : acceptArguments shown stack with
  | error failure => exact ⟨failure, rfl⟩
  | ok result =>
      obtain ⟨timed, timeoutMs, stack'⟩ := result
      exact absurd ((acceptArguments_ok h).timeout raw taken).2 (bad timeoutMs)

/-! ## The call -/

section Calls

variable (lua : LuaLibrary) (outside : AcceptOutside)

theorem serverAccept_run (events : List AcceptEvent) :
    (serverAccept outside).run events = (match outside.accepted with
      | none => .ok true
      | some code =>
          if code = wsaeWouldBlock ∨ code = wsaeIntr then .ok false
          else .error (.exception (ascii "Invalid Socket")),
      events ++ [.accepted outside.accepted.isNone]) := by
  unfold serverAccept Accepting.record
  rw [Program.run_bind, Program.run_change]
  cases outside.accepted with
  | none => rfl
  | some code =>
      simp only
      split_ifs <;> rfl

theorem callHandler_run (context : LuaValue) {stack : List LuaValue} (two : stack.length = 2)
    (events : List AcceptEvent) : ∃ result, (callHandler lua outside context stack).run events =
      (result, events ++ [.called (argument stack 2)]) := by
  obtain ⟨server, handler, rfl⟩ := List.length_eq_two.mp two
  unfold callHandler Accepting.record Accepting.raise
  simp only [Program.run_bind, Program.run_change]
  cases outside.handler with
  | returned values => exact ⟨_, rfl⟩
  | raised error =>
      cases outside.onError with
      | none => exact ⟨_, rfl⟩
      | some call => cases call <;> exact ⟨_, rfl⟩

theorem record_appends {allowed : AcceptEvent → Prop} {event : AcceptEvent} (ok : allowed event) :
    Program.Always (Appends allowed) (Accepting.record event) :=
  Program.Always.change fun _ => Appends.one ok

theorem sendAnswer_appends (stack : List LuaValue) :
    Program.Always (Appends fun event => event = .closed ∨ ∃ response, event = .sent response)
      (sendAnswer lua stack) := by
  unfold sendAnswer
  split_ifs
  · refine Program.Always.bind (Program.Always.ofExcept _) fun response => ?_
    refine Program.Always.bind (record_appends (.inr ⟨response, rfl⟩)) fun _ => ?_
    exact record_appends (.inl rfl)
  · exact Program.Always.pure _

structure Reports (outside : AcceptOutside) (timed : Bool) (handler : LuaValue)
    (result : Except AcceptFailure (List LuaValue)) (new : List AcceptEvent) : Prop where
  unwaited : ∀ ms, .waited ms ∉ new
  reported : ∀ values, result = .ok values → ∃ accepted,
    values = (if timed then [.boolean accepted] else []) ∧
    (accepted = true ↔ HandedOver outside handler new)

variable {outside}

theorem Reports.failed {timed : Bool} {handler : LuaValue} {failure : AcceptFailure}
    {new : List AcceptEvent} (unwaited : ∀ ms, .waited ms ∉ new) :
    Reports outside timed handler (.error failure) new where
  unwaited := unwaited
  reported values returned := by contradiction

theorem Reports.refused (timed : Bool) (handler : LuaValue) :
    Reports outside timed handler (.ok (if timed then [.boolean false] else [])) [.accepted false] where
  unwaited := by simp
  reported values returned := by
    refine ⟨false, (Except.ok.inj returned).symm, ?_⟩
    simp [HandedOver]

theorem Reports.served {timed : Bool} {handler : LuaValue} {new : List AcceptEvent}
    (unwaited : ∀ ms, .waited ms ∉ new) (given : HandedOver outside handler new) :
    Reports outside timed handler (.ok (if timed then [.boolean true] else [])) new where
  unwaited := unwaited
  reported values returned := ⟨true, (Except.ok.inj returned).symm, by simp [given]⟩

variable (outside)

theorem acceptHandler_run (context : LuaValue) (timed : Bool) {stack : List LuaValue}
    (handler : isHandler (argument stack 2) = true) (two : stack.length = 2)
    (events : List AcceptEvent) :
    ∃ result new, (acceptPending lua outside context timed stack).run events =
      (result, events ++ new) ∧ Reports outside timed (argument stack 2) result new := by
  unfold acceptPending
  simp only [handler, Bool.true_eq_false, if_false, Program.run_bind, serverAccept_run]
  cases outside.accepted with
  | some code =>
      simp only [Option.isNone_some]
      by_cases gone : code = wsaeWouldBlock ∨ code = wsaeIntr
      · simp only [if_pos gone, Bool.false_eq_true, if_false]
        by_cases blocking : outside.blocking = true
        · rw [if_pos blocking]
          exact ⟨_, _, rfl, .failed (by simp)⟩
        · rw [if_neg blocking]
          exact ⟨_, _, rfl, .refused timed _⟩
      · simp only [if_neg gone]
        exact ⟨_, _, rfl, .failed (by simp)⟩
  | none =>
      simp only [if_true, Option.isNone_none, Program.run_bind]
      obtain ⟨handled, called⟩ := callHandler_run lua outside context two
        (events ++ [.accepted true])
      rw [called, List.append_assoc]
      cases handled with
      | error failure => exact ⟨_, _, rfl, .failed (by simp)⟩
      | ok stack' =>
          simp only
          obtain ⟨new, sends, answers⟩ := sendAnswer_appends lua stack'
            (events ++ ([.accepted true] ++ [.called (argument stack 2)]))
          have unwaited (ms : Int) : .waited ms ∉
              [AcceptEvent.accepted true] ++ [AcceptEvent.called (argument stack 2)] ++ new := by
            intro member
            rcases List.mem_append.mp member with member | member
            · simp at member
            · rcases answers _ member with same | ⟨response, same⟩ <;> contradiction
          have given : HandedOver outside (argument stack 2)
              ([AcceptEvent.accepted true] ++ [AcceptEvent.called (argument stack 2)] ++ new) :=
            ⟨by simp, .inl (by simp)⟩
          cases sent : (sendAnswer lua stack').run
              (events ++ ([.accepted true] ++ [.called (argument stack 2)])) with
          | mk result events' =>
              rw [sent, List.append_assoc] at sends
              obtain rfl := sends
              cases result with
              | error failure => exact ⟨_, _, rfl, .failed unwaited⟩
              | ok _ => exact ⟨_, _, rfl, .served unwaited given⟩

theorem acceptRegistered_run (context : LuaValue) (timed : Bool) {stack : List LuaValue}
    (unhandled : isHandler (argument stack 2) = false) (handler : LuaValue)
    (events : List AcceptEvent) :
    ∃ result new, (acceptPending lua outside context timed stack).run events =
      (result, events ++ new) ∧ Reports outside timed handler result new := by
  unfold acceptPending Accepting.record
  rw [if_pos unhandled]
  cases registered : outside.registered with
  | none =>
      refine ⟨.error (.lua (.error (ascii "No function provided"))), [], ?_, .failed (by simp)⟩
      rw [List.append_nil]
      rfl
  | some dumped =>
      simp only [Program.run_bind, serverAccept_run]
      cases outside.accepted with
      | some code =>
          simp only [Option.isNone_some]
          by_cases gone : code = wsaeWouldBlock ∨ code = wsaeIntr
          · simp only [if_pos gone, Bool.false_eq_true, if_false]
            exact ⟨_, _, rfl, .refused timed _⟩
          · simp only [if_neg gone]
            exact ⟨_, _, rfl, .failed (by simp)⟩
      | none =>
          simp only [if_true, Option.isNone_none, Program.run_bind, Program.run_change]
          rw [List.append_assoc]
          exact ⟨_, _, rfl, .served (by simp) ⟨by simp, .inr ⟨dumped, registered, by simp⟩⟩⟩

theorem acceptPending_run (context : LuaValue) (timed : Bool) {stack stack' : List LuaValue}
    (same : isHandler (argument stack' 2) = isHandler (argument stack 2))
    (trimmed : isHandler (argument stack 2) = true →
      stack'.length = 2 ∧ argument stack' 2 = argument stack 2) (events : List AcceptEvent) :
    ∃ result new, (acceptPending lua outside context timed stack').run events =
      (result, events ++ new) ∧ Reports outside timed (argument stack 2) result new := by
  cases handler : isHandler (argument stack 2) with
  | true =>
      obtain ⟨two, second⟩ := trimmed handler
      rw [← second]
      exact acceptHandler_run lua outside context timed (same.trans handler) two events
  | false => exact acceptRegistered_run lua outside context timed (same.trans handler) _ events

theorem listenerAccept_run {shown : LuaNumber → Bytes} (context : LuaValue)
    {stack stack' : List LuaValue} {timed : Bool} {timeoutMs : Int}
    (read : acceptArguments shown stack = .ok (timed, timeoutMs, stack')) :
    (∃ failure, (listenerAccept lua outside shown context stack).run [] = (.error failure, [])) ∨
    (isHandler (argument stack 2) = true ∨ outside.registered ≠ none) ∧
      ∃ result waits new, (listenerAccept lua outside shown context stack).run [] =
          (result, waits ++ new) ∧
        waits = (if timed = true ∧ timeoutMs ≠ 0 then
          [.waited (if timeoutMs < 0 then -1 else timeoutMs)] else []) ∧
        ((timed = true ∧ result = .ok [.boolean false] ∧ new = []) ∨
          Reports outside timed (argument stack 2) result new) := by
  have arguments := acceptArguments_ok read
  have pending := acceptPending_run lua outside context timed arguments.handler
    arguments.trimmed
  unfold listenerAccept
  simp only [Program.run_bind, Program.run_ofExcept, read]
  by_cases nothing : outside.registered = none ∧ isHandler (argument stack' 2) = false
  · rw [if_pos nothing]
    exact .inl ⟨_, rfl⟩
  have something : isHandler (argument stack 2) = true ∨ outside.registered ≠ none := by
    rw [← arguments.handler, ← Bool.not_eq_false]
    exact (not_and_or.mp nothing).symm
  refine .inr ⟨something, ?_⟩
  rw [if_neg nothing]
  by_cases waits : timed = true ∧ timeoutMs ≠ 0
  · simp only [if_pos waits, Accepting.record, Program.run_bind, Program.run_change]
    cases outside.readable with
    | false => exact ⟨_, _, [], by rw [List.append_nil]; rfl, rfl, .inl ⟨waits.1, rfl, rfl⟩⟩
    | true =>
        obtain ⟨result, new, runs, reports⟩ :=
          pending ([] ++ [.waited (if timeoutMs < 0 then -1 else timeoutMs)])
        exact ⟨result, _, new, runs, rfl, .inr reports⟩
  · simp only [if_neg waits]
    obtain ⟨result, new, runs, reports⟩ := pending []
    exact ⟨result, [], new, runs, rfl, .inr reports⟩

end Calls

theorem handedOver_waits {outside : AcceptOutside} {handler : LuaValue} {waits new : List AcceptEvent}
    (only : ∀ event ∈ waits, ∃ ms, event = .waited ms) :
    HandedOver outside handler (waits ++ new) ↔ HandedOver outside handler new := by
  have later (event : AcceptEvent) (other : ∀ ms, event ≠ .waited ms) :
      event ∈ waits ++ new ↔ event ∈ new := by
    rw [List.mem_append, or_iff_right]
    intro member
    obtain ⟨ms, same⟩ := only event member
    exact other ms same
  unfold HandedOver
  rw [later _ (by simp), later _ (by simp)]
  simp only [fun dumped => later (.started dumped) (by simp)]

/-- The contract of `accept`, whatever the arguments are and however the outside answers. -/
theorem listenerAccept_contract (lua : LuaLibrary) (outside : AcceptOutside)
    (shown : LuaNumber → Bytes) (context : LuaValue) (stack : List LuaValue) :
    let ends := (listenerAccept lua outside shown context stack).run []
    (∀ values, ends.1 = .ok values → match timeoutArgument stack with
      | some _ => ∃ accepted, values = [.boolean accepted] ∧
          (accepted = true ↔ HandedOver outside (argument stack 2) ends.2)
      | none => values = []) ∧
    (∀ ms, .waited ms ∈ ends.2 →
      (isHandler (argument stack 2) = true ∨ outside.registered ≠ none) ∧
      ∃ raw n, timeoutArgument stack = some raw ∧ IsMilliseconds raw n ∧ n ≠ 0 ∧
        ms = if n < 0 then -1 else n) ∧
    (∀ raw, timeoutArgument stack = some raw → (∀ n, ¬ IsMilliseconds raw n) →
      (∃ failure, ends.1 = .error failure) ∧ ends.2 = []) := by
  intro ends
  cases read : acceptArguments shown stack with
  | error failure =>
      have raises : ends = (.error failure, []) := by
        show (listenerAccept lua outside shown context stack).run [] = _
        unfold listenerAccept
        rw [Program.run_bind, Program.run_ofExcept, read]
      rw [raises]
      exact ⟨by simp, by simp, fun _ _ _ => ⟨⟨failure, rfl⟩, rfl⟩⟩
  | ok result =>
      obtain ⟨timed, timeoutMs, stack'⟩ := result
      have arguments := acceptArguments_ok read
      refine ⟨?_, ?_, fun raw taken bad => absurd (arguments.timeout raw taken).2 (bad timeoutMs)⟩
      all_goals
        rcases listenerAccept_run lua outside context read with
          ⟨failure, raises⟩ | ⟨something, result, waits, new, runs, waited, ends'⟩
      · simp [ends, raises]
      · intro values returned
        simp only [ends, runs] at returned ⊢
        have only : ∀ event ∈ waits, ∃ ms, event = .waited ms := by
          rw [waited]
          split_ifs <;> simp
        rw [handedOver_waits only]
        obtain ⟨accepted, shape, given⟩ : ∃ accepted,
            values = (if timed = true then [.boolean accepted] else []) ∧
            (accepted = true ↔ HandedOver outside (argument stack 2) new) := by
          rcases ends' with ⟨isTimed, same, rfl⟩ | reports
          · obtain rfl := Except.ok.inj (returned.symm.trans same)
            exact ⟨false, by rw [if_pos isTimed], by simp [HandedOver]⟩
          · exact reports.reported values returned
        cases taken : timeoutArgument stack with
        | none =>
            rw [(arguments.untimed taken).1] at shape
            exact shape
        | some raw =>
            rw [(arguments.timeout raw taken).1, if_pos rfl] at shape
            exact ⟨accepted, shape, given⟩
      · simp [ends, raises]
      · intro ms member
        simp only [ends, runs] at member
        refine ⟨something, ?_⟩
        have unwaited : .waited ms ∉ new := by
          rcases ends' with ⟨-, -, rfl⟩ | reports
          · simp
          · exact reports.unwaited ms
        have first := (List.mem_append.mp member).resolve_right unwaited
        rw [waited] at first
        by_cases waits : timed = true ∧ timeoutMs ≠ 0
        · rw [if_pos waits, List.mem_singleton] at first
          obtain rfl := AcceptEvent.waited.inj first
          cases taken : timeoutArgument stack with
          | none => exact absurd (arguments.untimed taken).2 waits.2
          | some raw => exact ⟨raw, timeoutMs, rfl, (arguments.timeout raw taken).2, waits.2, rfl⟩
        · simp [if_neg waits] at first

end LuaXENetwork
