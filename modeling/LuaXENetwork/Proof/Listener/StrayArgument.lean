import LuaXENetwork.Proof.Listener.Accept

/-! A third argument of `accept` that is no timeout. -/

namespace LuaXENetwork
open Library

/-- A value in the timeout's slot that cannot be a timeout. -/
def IsStray : LuaValue → Prop
  | .nil | .number _ => False
  | _ => True

/-- The errors about an argument: those of `luaL_argerror` and that of `AcceptTimeoutArg`. -/
def IsArgumentError (failure : AcceptFailure) : Prop :=
  ∃ message, failure = .lua (.error message) ∧
    (ascii "bad argument #" <+: message ∨
      ascii "accept: expected a whole number of milliseconds in [" <+: message)

theorem argError_isArgumentError {α : Type} (index : Nat) (extra : String) :
    ∃ failure, argError (α := α) index extra = .error failure ∧ IsArgumentError failure := by
  refine ⟨_, rfl, _, rfl, .inl ?_⟩
  simp only [List.append_assoc]
  exact List.prefix_append _ _

theorem acceptTimeoutArg_isArgumentError {shown : LuaNumber → Bytes} {raw : LuaNumber}
    {failure : AcceptFailure} (fails : acceptTimeoutArg shown raw = .error failure) :
    IsArgumentError failure := by
  have refuses : acceptTimeoutArg.refuse shown raw = .error failure := by
    unfold acceptTimeoutArg at fails
    split at fails
    · split_ifs at fails
      exact fails
    · exact fails
  obtain rfl := Except.error.inj refuses
  refine ⟨_, rfl, .inr ?_⟩
  simp only [List.append_assoc]
  exact List.prefix_append _ _

theorem nothing_not_isArgumentError :
    ¬ IsArgumentError (.lua (.error (ascii "No function provided"))) := by
  rintro ⟨message, same, ⟨rest, bad⟩ | ⟨rest, expected⟩⟩
  all_goals
    obtain rfl := LuaFailure.error.inj (AcceptFailure.lua.inj same)
  · have first := congrArg List.head? bad
    rw [List.head?_append_of_ne_nil _ (by decide)] at first
    exact absurd first (by decide)
  · have first := congrArg List.head? expected
    rw [List.head?_append_of_ne_nil _ (by decide)] at first
    exact absurd first (by decide)

/-- Where the third argument is looked at, or an earlier one is refused. -/
def Noticed (stack : List LuaValue) : Prop :=
  3 < stack.length ∨ isHandler (argument stack 2) = true ∨
    ∃ raw, argument stack 2 = .number raw ∧ ∀ n, ¬ IsMilliseconds raw n

theorem length_of_stray {stack : List LuaValue} (stray : IsStray (argument stack 3)) :
    2 < stack.length := by
  by_contra short
  rw [argument, List.getElem?_eq_none (by omega)] at stray
  exact stray

theorem acceptArguments_untimed {stack : List LuaValue} (stray : IsStray (argument stack 3))
    (few : ¬ 3 < stack.length) (unlike : ∀ raw, argument stack 2 ≠ .number raw)
    (shown : LuaNumber → Bytes) : acceptArguments shown stack =
      if isHandler (argument stack 2) then argError 3 "expected a timeout in milliseconds"
      else .ok (false, 0, stack) := by
  have three := length_of_stray stray
  have present : (argument stack 3).isNil = false := by
    cases third : argument stack 3 with
    | nil =>
        rw [third] at stray
        cases stray
    | boolean _ | number _ | string _ | table _ | function _ | userdata _ => rfl
  unfold acceptArguments
  rw [if_neg few]
  split
  · rename_i second
    exact absurd second (unlike _)
  · rename_i third _
    rw [third] at stray
    cases stray
  · rw [if_pos (⟨three, present⟩ : 2 < stack.length ∧ (argument stack 3).isNil = false)]

/-- A stray argument is refused where it is noticed. Elsewhere it is dropped, and there is no
handler. -/
theorem acceptArguments_stray {stack : List LuaValue} (stray : IsStray (argument stack 3))
    (shown : LuaNumber → Bytes) :
    (Noticed stack ∧ ∃ failure, acceptArguments shown stack = .error failure ∧ IsArgumentError failure) ∨
    (¬ Noticed stack ∧ ∃ timed timeoutMs stack',
      acceptArguments shown stack = .ok (timed, timeoutMs, stack') ∧
        isHandler (argument stack' 2) = false) := by
  unfold Noticed
  by_cases many : 3 < stack.length
  · unfold acceptArguments
    rw [if_pos many]
    exact .inl ⟨.inl many, argError_isArgumentError _ _⟩
  by_cases number : ∃ raw, argument stack 2 = .number raw
  · obtain ⟨raw, second⟩ := number
    have read : acceptArguments shown stack = (do
        let timeoutMs ← acceptTimeoutArg shown raw
        return (true, timeoutMs, setTop stack 1)) := by
      unfold acceptArguments
      rw [if_neg many, second]
    rcases acceptTimeoutArg_cases shown raw with ⟨n, is, taken⟩ | ⟨bad, failure, refused⟩
    · rw [taken] at read
      refine .inr ⟨?_, true, n, setTop stack 1, read, ?_⟩
      · rintro (longer | handler | ⟨raw', same, none⟩)
        · exact many longer
        · simp [second, isHandler] at handler
        · obtain rfl := LuaValue.number.inj (second.symm.trans same)
          exact none n is
      · rw [argument_setTop_gt (by omega)]
        rfl
    · rw [refused] at read
      exact .inl ⟨.inr (.inr ⟨raw, second, bad⟩), failure, read, acceptTimeoutArg_isArgumentError refused⟩
  · have unlike (raw : LuaNumber) : argument stack 2 ≠ .number raw := fun same => number ⟨raw, same⟩
    have read := acceptArguments_untimed stray many unlike shown
    cases handler : isHandler (argument stack 2) with
    | true =>
        rw [handler, if_pos rfl] at read
        refine .inl ⟨.inr (.inl rfl), ?_⟩
        rw [read]
        exact argError_isArgumentError _ _
    | false =>
        rw [handler, if_neg Bool.false_ne_true] at read
        refine .inr ⟨?_, false, 0, stack, read, handler⟩
        rintro (longer | handler' | ⟨raw, same, -⟩)
        · exact many longer
        · cases handler'
        · exact unlike raw same

section Calls

variable (lua : LuaLibrary) (outside : AcceptOutside)

/-- With a registered function the connection is looked for. -/
theorem acceptPending_accepts (context : LuaValue) (timed : Bool) {stack : List LuaValue}
    (handler : isHandler (argument stack 2) = false) (registered : outside.registered ≠ none)
    (events : List AcceptEvent) :
    ((acceptPending lua outside context timed stack).run events).2 ≠ [] := by
  unfold acceptPending
  rw [if_pos handler]
  cases dumped : outside.registered with
  | none => exact absurd dumped registered
  | some dumped =>
      simp only [Program.run_bind, serverAccept_run]
      cases outside.accepted with
      | none =>
          simp only [Accepting.record, if_true, Program.run_bind, Program.run_change]
          simp
      | some code =>
          by_cases gone : code = wsaeWouldBlock ∨ code = wsaeIntr
          · simp [if_pos gone]
          · simp [if_neg gone]

/-- A call of `accept` that raises an argument error, and has neither waited nor accepted. -/
def RaisedEarly (result : Except AcceptFailure (List LuaValue) × List AcceptEvent) : Prop :=
  (∃ failure, result.1 = .error failure ∧ IsArgumentError failure) ∧ result.2 = []

theorem listenerAccept_unrefused {shown : LuaNumber → Bytes} {context : LuaValue}
    {stack stack' : List LuaValue} {timed : Bool} {timeoutMs : Int}
    (read : acceptArguments shown stack = .ok (timed, timeoutMs, stack'))
    (handler : isHandler (argument stack' 2) = false) :
    ¬ RaisedEarly ((listenerAccept lua outside shown context stack).run []) := by
  unfold listenerAccept
  simp only [Program.run_bind, Program.run_ofExcept, read]
  by_cases nothing : outside.registered = none
  · rw [if_pos ⟨nothing, handler⟩]
    rintro ⟨⟨failure, same, argument⟩, -⟩
    obtain rfl := Except.error.inj same
    exact nothing_not_isArgumentError argument
  · rw [if_neg (fun both => nothing both.1)]
    by_cases waits : timed = true ∧ timeoutMs ≠ 0
    · simp only [if_pos waits, Accepting.record, Program.run_bind, Program.run_change]
      cases outside.readable with
      | false => exact fun refused => absurd refused.2 (by simp)
      | true =>
          intro refused
          exact acceptPending_accepts lua outside context timed handler nothing _ refused.2
    · rw [if_neg waits]
      exact fun refused => acceptPending_accepts lua outside context timed handler nothing _ refused.2

/-- A third argument that is neither nil nor a number is refused exactly where it is noticed. -/
theorem stray_refused_iff (shown : LuaNumber → Bytes) (context : LuaValue) {stack : List LuaValue}
    (stray : IsStray (argument stack 3)) :
    RaisedEarly ((listenerAccept lua outside shown context stack).run []) ↔ Noticed stack := by
  rcases acceptArguments_stray stray shown with
    ⟨noticed, failure, read, argument⟩ | ⟨unnoticed, timed, timeoutMs, stack', read, handler⟩
  · refine iff_of_true ⟨⟨failure, ?_, argument⟩, ?_⟩ noticed
    all_goals
      unfold listenerAccept
      rw [Program.run_bind, Program.run_ofExcept, read]
  · exact iff_of_false (listenerAccept_unrefused lua outside read handler) unnoticed

end Calls

/-- A call with a registered function and a connection pending. -/
def registeredCall : AcceptOutside where
  registered := some []
  blocking := false
  readable := true
  accepted := none
  handler := .returned []
  onError := none

/-- `accept("x", "abc")` takes the connection. -/
theorem stray_accepted : IsStray (argument [.userdata 0, .string [120], .string [97, 98, 99]] 3) ∧
    (listenerAccept .whole registeredCall (fun _ => []) (.userdata 1)
      [.userdata 0, .string [120], .string [97, 98, 99]]).run [] =
        (.ok [], [.accepted true, .started []]) := ⟨trivial, rfl⟩

theorem stray_refused_handler : RaisedEarly ((listenerAccept .whole registeredCall (fun _ => []) (.userdata 1)
    [.userdata 0, .function 1, .string [97]]).run []) :=
  (stray_refused_iff .whole registeredCall (fun _ => []) (.userdata 1)
    (show IsStray (argument [.userdata 0, .function 1, .string [97]] 3) from trivial)).mpr (.inr (.inl rfl))

end LuaXENetwork
