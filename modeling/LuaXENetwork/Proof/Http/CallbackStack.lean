import LuaXENetwork.Http.CallbackStack
import LuaXENetwork.Library.Except
import LuaXENetwork.Proof.Http.PushResponse
import LuaXENetwork.Proof.LuaStack
import LuaXENetwork.Proof.Request.EntryPoints

/-! The callbacks of a request leave the Lua stack as they find it. -/

namespace LuaXENetwork.OnStack
open Library

variable {lua : LuaLibrary} {s : LuaStack}

/-! ## `PushResponse` -/

theorem run_pushField (room : 1 < s.free) (name : String) (table : LuaTable) (value : LuaValue) :
    (pushField name value).run (s.onTop [.table table]) =
      (.ok (), s.onTop [.table (table.setField (ascii name) value)]) :=
  run_push_store room _ _ _

theorem run_pushItem (room : 1 < s.free) (i : Nat) (table : LuaTable) (value : LuaValue) :
    (pushItem i value).run (s.onTop [.table table]) =
      (.ok (), s.onTop [.table (Assoc.store (.number (.finite i)) value table)]) :=
  run_push_store room _ _ _

theorem pushHeader_ok {headers headers' : LuaTable} {header : Bytes × Bytes}
    (built : LuaXENetwork.pushHeader lua headers header = .ok headers') :
    ((headers.field (cString header.1)).isNil = true ∧
      headers' = headers.setField (cString header.1) (.string header.2)) ∨
    ∃ prior, (headers.field (cString header.1)).isNil = false ∧
      (headers.field (cString header.1)).toString? lua = some prior ∧
      headers' = headers.setField (cString header.1) (.string (prior ++ ascii ", " ++ header.2)) := by
  unfold LuaXENetwork.pushHeader at built
  cases found : headers.field (cString header.1) with
  | nil =>
      simp only [found] at built
      exact .inl ⟨rfl, (Except.ok.inj built).symm⟩
  | string text =>
      simp only [found] at built
      exact .inr ⟨_, rfl, rfl, (Except.ok.inj built).symm⟩
  | number n =>
      simp only [found] at built
      exact .inr ⟨_, rfl, rfl, (Except.ok.inj built).symm⟩
  | _ =>
      simp only [found] at built
      contradiction

theorem run_pushHeader (room : 1 < s.free) {headers headers' : LuaTable} {header : Bytes × Bytes}
    (built : LuaXENetwork.pushHeader lua headers header = .ok headers') :
    (pushHeader lua header).run (s.onTop [.table headers]) = (.ok (), s.onTop [.table headers']) := by
  have more : 0 < (s.onTop [LuaValue.table headers]).free := Nat.sub_pos_of_lt room
  have found : (s.onTop [LuaValue.table headers]).slot (-1) = some (.table headers) :=
    Stack.slot_onTop (LuaValue.table headers) []
  unfold pushHeader
  rw [Program.run_bind_ok (run_getField found more _), Program.run_bind_ok (run_valueAt_top _)]
  rcases pushHeader_ok built with ⟨empty, rfl⟩ | ⟨prior, full, text, rfl⟩
  · rw [if_pos empty, Program.run_bind_ok (run_pop_one more _)]
    exact run_push_store room _ _ _
  · rw [if_neg (by simp [full]), text]
    simp only
    rw [Program.run_bind_ok (run_pop_one more _)]
    exact run_push_store room _ _ _

theorem run_pushHeaders (room : 1 < s.free) (list : HeaderList) {headers headers' : LuaTable}
    (built : list.foldlM (LuaXENetwork.pushHeader lua) headers = .ok headers') :
    (pushHeaders lua list).run (s.onTop [.table headers]) = (.ok (), s.onTop [.table headers']) := by
  induction list generalizing headers with
  | nil =>
      obtain rfl := Except.ok.inj built
      rfl
  | cons header list ih =>
      rw [List.foldlM_cons, bind_eq_ok] at built
      obtain ⟨middle, first, rest⟩ := built
      rw [pushHeaders, Program.run_bind_ok (run_pushHeader room first)]
      exact ih rest

theorem headerIndex_fresh (list : HeaderList) :
    LuaKey.number (.finite (list.length + 1 : Nat)) ∉
      (list.mapIdx LuaXENetwork.pushHeaderPair).map Prod.fst := by
  rw [(listsHeaders_mapIdx list).keys]
  intro member
  obtain ⟨index, inside, same⟩ := List.mem_map.mp member
  have equal := Nat.cast_injective (LuaNumber.finite.inj (LuaKey.number.inj same))
  rw [List.mem_range] at inside
  omega

theorem store_headerIndex (list : HeaderList) (header : Bytes × Bytes) :
    Assoc.store (.number (.finite (list.length + 1 : Nat))) (LuaXENetwork.pushHeaderPair list.length header).2
        (list.mapIdx LuaXENetwork.pushHeaderPair) =
      (list ++ [header]).mapIdx LuaXENetwork.pushHeaderPair := by
  rw [List.mapIdx_concat, Assoc.store_fresh _ (headerIndex_fresh list)]
  rfl

/-- One turn of the second loop. -/
theorem run_pushHeaderPair (room : 2 < s.free) (before : HeaderList) (header : Bytes × Bytes)
    {rest : OnStack Unit} :
    (do push (.table [])
        pushItem 1 (.string header.1)
        pushItem 2 (.string header.2)
        rawSetI (-2) (before.length + 1)
        rest : OnStack Unit).run (s.onTop [.table (before.mapIdx LuaXENetwork.pushHeaderPair)]) =
      rest.run (s.onTop [.table ((before ++ [header]).mapIdx LuaXENetwork.pushHeaderPair)]) := by
  let lists : LuaStack := s.onTop [.table (before.mapIdx LuaXENetwork.pushHeaderPair)]
  have more : 1 < lists.free := Nat.lt_sub_of_add_lt room
  have pair : LuaValue.table (Assoc.store (.number (.finite (2 : Nat))) (.string header.2)
      (Assoc.store (.number (.finite (1 : Nat))) (.string header.1) [])) =
        (LuaXENetwork.pushHeaderPair before.length header).2 := by
    simp [Assoc.store, LuaXENetwork.pushHeaderPair]
  have stored := run_store (s := s) (Nat.lt_of_succ_lt room) (.number (.finite (before.length + 1 : Nat)))
    (before.mapIdx LuaXENetwork.pushHeaderPair) (LuaXENetwork.pushHeaderPair before.length header).2
  rw [store_headerIndex] at stored
  rw [Program.run_bind_ok (run_push (s := lists) (Nat.lt_of_succ_lt more) _),
    Program.run_bind_ok (run_pushItem more 1 [] (.string header.1)),
    Program.run_bind_ok (run_pushItem more 2 _ (.string header.2)), pair, Stack.onTop_onTop]
  exact Program.run_bind_ok stored

theorem run_pushHeaderPairs (room : 2 < s.free) (before after : HeaderList) :
    (pushHeaderPairs (before.length + 1) after).run
        (s.onTop [.table (before.mapIdx LuaXENetwork.pushHeaderPair)]) =
      (.ok (), s.onTop [.table ((before ++ after).mapIdx LuaXENetwork.pushHeaderPair)]) := by
  induction after generalizing before with
  | nil =>
      rw [List.append_nil]
      rfl
  | cons header after ih =>
      have rest := ih (before ++ [header])
      rw [List.length_append, List.length_singleton, List.append_assoc, List.singleton_append] at rest
      rw [pushHeaderPairs, run_pushHeaderPair room before header]
      exact rest

theorem run_pushBody (room : 1 < s.free) (response : HttpResponse) (includeBody : Bool) (table : LuaTable) :
    (pushBody response includeBody).run (s.onTop [.table table]) =
      (.ok (), s.onTop [.table
        (if includeBody then table.setField (ascii "body") (.string response.body) else table)]) := by
  cases includeBody with
  | false => rfl
  | true => exact run_pushField room _ _ _

/-- A table that is built above another one. -/
theorem run_build (room : 1 < s.free) {table inner : LuaTable} {build : OnStack Unit}
    {rest : Unit → OnStack Unit}
    (builds : build.run ((s.onTop [.table table]).onTop [.table []]) =
      (.ok (), (s.onTop [.table table]).onTop [.table inner])) :
    (push (.table []) >>= fun _ => build >>= rest).run (s.onTop [.table table]) =
      (rest ()).run (s.onTop [.table table, .table inner]) := by
  have more : 0 < (s.onTop [LuaValue.table table]).free := Nat.sub_pos_of_lt room
  rw [Program.run_bind_ok (run_push more _), Program.run_bind_ok builds, Stack.onTop_onTop]
  rfl

/-- The response table ends up on top. -/
theorem run_pushResponse (room : 3 < s.free) {response : HttpResponse} {includeBody : Bool} {table : LuaTable}
    (built : LuaXENetwork.pushResponse lua response includeBody = .ok table) :
    (pushResponse lua response includeBody).run s = (.ok (), s.onTop [.table table]) := by
  have two : 1 < s.free := by omega
  have more (fields : LuaTable) : 2 < (s.onTop [LuaValue.table fields]).free := Nat.lt_sub_of_add_lt room
  unfold LuaXENetwork.pushResponse at built
  simp only [bind_eq_ok, pure_eq_ok] at built
  obtain ⟨headers, joined, rfl⟩ := built
  have pairs (fields : LuaTable) : (pushHeaderPairs 1 response.headers).run
      ((s.onTop [.table fields]).onTop [.table []]) = (.ok (), (s.onTop [.table fields]).onTop
        [.table (response.headers.mapIdx LuaXENetwork.pushHeaderPair)]) :=
    run_pushHeaderPairs (more fields) [] response.headers
  unfold pushResponse
  rw [Program.run_bind_ok (run_push (Nat.zero_lt_of_lt room) _),
    Program.run_bind_ok (run_pushBody two response includeBody []),
    Program.run_bind_ok (run_pushField two _ _ _), Program.run_bind_ok (run_pushField two _ _ _),
    Program.run_bind_ok (run_pushField two _ _ _), Program.run_bind_ok (run_pushField two _ _ _),
    Program.run_bind_ok (run_pushField two _ _ _), Program.run_bind_ok (run_pushField two _ _ _),
    Program.run_bind_ok (run_pushField two _ _ _),
    run_build two (run_pushHeaders (Nat.lt_of_succ_lt (more _)) _ joined),
    Program.run_bind_ok (run_setField two _ _ _), run_build two (pairs _)]
  exact run_setField two _ _ _

/-! ## `CallRequestCallback` -/

section CallRequestCallback

variable {requestIndex : Nat} {name : String} {args : List LuaValue} {results : Nat}

theorem run_popArguments (there : args.length ≤ s.free) :
    (popArguments args.length).run (s.onTop args) = (.ok (), s) := by
  cases args with
  | nil =>
      rw [Stack.onTop_nil]
      rfl
  | cons arg args => exact run_pop _ there

theorem run_insertBelow (args : List LuaValue) (moved : LuaValue) :
    (insertBelow args.length).run (s.onTop (args ++ [moved])) = (.ok (), s.onTop (moved :: args)) := by
  cases args with
  | nil => rfl
  | cons arg args => exact run_insert (arg :: args) moved

theorem run_callRequestCallback_unset (there : args.length ≤ s.free) (outside : CallbackOutside) :
    (callRequestCallback lua 0 name args.length results outside).run (s.onTop args) = (.ok false, s) := by
  unfold callRequestCallback
  rw [if_pos rfl]
  exact Program.run_bind_ok (run_popArguments there)

variable {table : LuaTable} (request : s.slot requestIndex = some (.table table))
  (room : args.length < s.free)

include request

theorem requestIndex_ne_zero : requestIndex ≠ 0 := by
  rintro rfl
  contradiction

include room

/-- The field is fetched above the arguments. -/
theorem run_fetch (field : LuaValue) (rest : LuaValue → OnStack Bool) :
    (do getField requestIndex fun _ => field
        let callback ← valueAt (-1)
        rest callback : OnStack Bool).run (s.onTop args) = (rest field).run ((s.onTop args).onTop [field]) := by
  rw [Program.run_bind_ok (run_getField (Stack.slot_below request) (Nat.sub_pos_of_lt room) _),
    Program.run_bind_ok (run_valueAt_top _)]

theorem run_callRequestCallback_absent {outside : CallbackOutside} (absent : outside.field.isFunction = false) :
    (callRequestCallback lua requestIndex name args.length results outside).run (s.onTop args) =
      (.ok false, s) := by
  unfold callRequestCallback
  rw [if_neg (requestIndex_ne_zero request), run_fetch request room, if_pos absent,
    Program.run_bind_ok (run_pop_one (Nat.sub_pos_of_lt room) _)]
  exact Program.run_bind_ok (run_popArguments (Nat.le_of_lt room))

theorem run_callRequestCallback_raised (id : Nat) (error : LuaValue) :
    (callRequestCallback lua requestIndex name args.length results ⟨.function id, .raised error⟩).run
        (s.onTop args) =
      (.error (.exception (ascii name ++ ascii " callback failed: "
        ++ (error.toString? lua).getD (ascii "unknown callback error"))), s) := by
  unfold callRequestCallback
  rw [if_neg (requestIndex_ne_zero request), run_fetch request room, if_neg (by simp [LuaValue.isFunction]),
    Stack.onTop_onTop,
    Program.run_bind_ok (run_insertBelow _ _), Program.run_bind_ok (run_pcall_raised room _ error results)]
  simp only [Bool.false_eq_true, if_false]
  rw [Program.run_bind_ok (run_valueAt_top _), Program.run_bind_ok (run_pop_one (Nat.zero_lt_of_lt room) _)]
  rfl

theorem run_callRequestCallback_returned (fits : results ≤ s.free) (id : Nat) (values : List LuaValue) :
    (callRequestCallback lua requestIndex name args.length results ⟨.function id, .returned values⟩).run
        (s.onTop args) = (.ok true, s.onTop (setTop values results)) := by
  unfold callRequestCallback
  rw [if_neg (requestIndex_ne_zero request), run_fetch request room, if_neg (by simp [LuaValue.isFunction]),
    Stack.onTop_onTop,
    Program.run_bind_ok (run_insertBelow _ _), Program.run_bind_ok (run_pcall_returned room _ values fits)]
  rfl

end CallRequestCallback

/-! ## The three callers -/

/-- What the loop learns of a use of a callback. -/
def answer (lua : LuaLibrary) (outside : CallbackOutside) : CallbackAnswer :=
  match outside.field, outside.call with
  | .function _, .raised error => .raised ((error.toString? lua).getD (ascii "unknown callback error"))
  | .function _, .returned values => .returned (argument values 1)
  | _, _ => .absent

/-- The locals agree; only one side keeps a log of the calls. -/
def SameLocals (t t' : Transfer) : Prop := ∃ calls, t' = { t with calls := calls }

/-- A `std::runtime_error` with the message leaves the function. -/
def thrown (thrown : Thrown) : LuaExit := .exception thrown.what

/-- The stack of a request: room for what the callbacks push, and the option table in its slot. -/
structure Ready (options : HttpRequestOptions) (s : LuaStack) : Prop where
  room : 3 < s.free
  request : options.requestIndex ≠ 0 → ∃ table, s.slot options.requestIndex = some (.table table)

theorem Ready.of_index {options options' : HttpRequestOptions} (ready : Ready options s)
    (same : options'.requestIndex = options.requestIndex) : Ready options' s where
  room := ready.room
  request := by
    rw [same]
    exact ready.request

section Callers

variable {options : HttpRequestOptions}

theorem answer_absent {outside : CallbackOutside} (absent : outside.field.isFunction = false) :
    answer lua outside = .absent := by
  obtain ⟨field, call⟩ := outside
  cases field with
  | function id => contradiction
  | _ => rfl

theorem outside_cases (outside : CallbackOutside) :
    outside.field.isFunction = false ∨ (∃ id error, outside = ⟨.function id, .raised error⟩) ∨
      ∃ id values, outside = ⟨.function id, .returned values⟩ := by
  obtain ⟨field, call⟩ := outside
  cases field with
  | function id =>
      cases call with
      | raised error => exact .inr (.inl ⟨id, error, rfl⟩)
      | returned values => exact .inr (.inr ⟨id, values, rfl⟩)
  | _ => exact .inl rfl

theorem setTop_one (values : List LuaValue) : setTop values 1 = [argument values 1] := by
  cases values <;> simp [setTop, argument]

theorem setTop_zero (values : List LuaValue) : setTop values 0 = [] := by simp [setTop]

/-- What follows the call starts with the arguments gone and, after a call, with its results. -/
theorem callRequestCallback_follows (ready : Ready options s) (name : String) (args : List LuaValue)
    (results : Nat) (outside : CallbackOutside) (call : CallbackCall) (t : Transfer) (given : args.length ≤ 1)
    (asked : results ≤ 1) {same : α → β → Prop} {rest : Bool → OnStack α}
    {rest' : Option LuaValue × Transfer → Except Thrown β}
    (absent : Program.Follows s s same thrown (rest false) (rest' (none, t)))
    (returned : ∀ values calls, Program.Follows (s.onTop (setTop values results)) s same thrown (rest true)
      (rest' (some (argument values 1), { t with calls := calls }))) :
    Program.Follows (s.onTop args) s same thrown
      (callRequestCallback lua options.requestIndex name args.length results outside >>= rest)
      (LuaXENetwork.callRequestCallback options name call (answer lua outside) t >>= rest') := by
  have room := ready.room
  unfold LuaXENetwork.callRequestCallback
  by_cases unset : options.requestIndex = 0
  · rw [unset, if_pos rfl]
    exact .of_run (Program.run_bind_ok (run_callRequestCallback_unset (by omega) outside)) absent
  obtain ⟨table, request⟩ := ready.request unset
  have fits : args.length < s.free := by omega
  rw [if_neg unset]
  rcases outside_cases outside with missing | ⟨id, error, rfl⟩ | ⟨id, values, rfl⟩
  · rw [answer_absent missing]
    exact .of_run (Program.run_bind_ok (run_callRequestCallback_absent request fits missing)) absent
  · exact Program.run_bind_error (run_callRequestCallback_raised request fits id error)
  · exact .of_run (Program.run_bind_ok
      (run_callRequestCallback_returned request fits (by omega) id values)) (returned values _)

theorem requestCancelled_follows (ready : Ready options s) (outside : CallbackOutside) (t : Transfer) :
    Program.Follows s s (fun cancelled result => cancelled = result.1 ∧ SameLocals t result.2) thrown
      (requestCancelled lua options.requestIndex outside)
      (LuaXENetwork.requestCancelled options (answer lua outside) t) := by
  unfold requestCancelled LuaXENetwork.requestCancelled
  refine .of_run (t := s.onTop []) (congrArg _ (Stack.onTop_nil s).symm) ?_
  refine callRequestCallback_follows ready "should_cancel" [] 1 outside .shouldCancel t (Nat.zero_le _)
    (Nat.le_refl _) (.pure ⟨rfl, t.calls, rfl⟩) fun values calls => ?_
  rw [setTop_one]
  refine .of_run (Program.run_bind_ok (run_valueAt_top _)) ?_
  refine .of_run (Program.run_bind_ok (run_pop_one (Nat.zero_lt_of_lt ready.room) _)) (.pure ?_)
  exact ⟨rfl, calls, rfl⟩

theorem emitResponseHeaders_follows (ready : Ready options s) (outside : CallbackOutside) (t : Transfer) :
    Program.Follows s s (fun _ => SameLocals t) thrown
      (emitResponseHeaders lua options.requestIndex outside t.response)
      (LuaXENetwork.emitResponseHeaders options (answer lua outside) t) := by
  unfold emitResponseHeaders LuaXENetwork.emitResponseHeaders
  by_cases unset : options.requestIndex = 0
  · unfold LuaXENetwork.callRequestCallback
    rw [if_pos unset, if_pos unset]
    exact .pure ⟨t.calls, rfl⟩
  rw [if_neg unset]
  obtain ⟨table, built, -⟩ := pushResponse_ok lua t.response false
  refine .of_run (Program.run_bind_ok (run_pushResponse ready.room built)) ?_
  refine callRequestCallback_follows ready "on_headers" [.table table] 0 outside (.onHeaders t.response) t
    (Nat.le_refl _) (Nat.zero_le _) (.pure ⟨t.calls, rfl⟩) fun values calls => ?_
  rw [setTop_zero, Stack.onTop_nil]
  exact .pure ⟨calls, rfl⟩

theorem keepGoing_iff (value : LuaValue) :
    (value.isBoolean = false ∨ value.toBoolean = true) ↔ keepsGoing value = true := by
  cases value <;> simp [LuaValue.isBoolean, LuaValue.toBoolean, keepsGoing]

theorem emitResponseChunk_follows (ready : Ready options s) (outside : CallbackOutside) (chunk : Bytes)
    (t : Transfer) :
    Program.Follows s s (fun _ => SameLocals t) thrown
      (emitResponseChunk lua options.requestIndex outside chunk)
      (LuaXENetwork.emitResponseChunk options chunk (answer lua outside) t) := by
  have room := Nat.zero_lt_of_lt ready.room
  unfold emitResponseChunk LuaXENetwork.emitResponseChunk
  by_cases empty : chunk = []
  · rw [if_pos (.inr empty), if_pos empty]
    exact .pure ⟨t.calls, rfl⟩
  rw [if_neg empty]
  by_cases unset : options.requestIndex = 0
  · unfold LuaXENetwork.callRequestCallback
    rw [if_pos (.inl unset), if_pos unset]
    exact .pure ⟨t.calls, rfl⟩
  rw [if_neg (not_or.mpr ⟨unset, empty⟩)]
  refine .of_run (Program.run_bind_ok (run_push room (.string chunk))) ?_
  refine callRequestCallback_follows ready "on_chunk" [.string chunk] 1 outside (.onChunk chunk) t
    (Nat.le_refl _) (Nat.le_refl _) (.pure ⟨t.calls, rfl⟩) fun values calls => ?_
  rw [setTop_one]
  refine .of_run (Program.run_bind_ok (run_valueAt_top _)) ?_
  refine .of_run (Program.run_bind_ok (run_pop_one room _)) ?_
  simp only [keepGoing_iff, Option.map_some, Option.getD_some]
  cases keepsGoing (argument values 1) with
  | true => exact .pure ⟨calls, rfl⟩
  | false => exact Eq.refl _

end Callers

/-! ## The receive loop -/

/-- What the loop learns of a round. -/
def answered (lua : LuaLibrary) (round : CallbackRound) : Round where
  cancel := answer lua round.cancel
  elapsedMs := round.elapsedMs
  received := round.received
  headers := answer lua round.headers
  chunks := round.chunks.map (answer lua)

section Loop

variable {options : HttpRequestOptions}

theorem SameLocals.trans {t t' t'' : Transfer} (first : SameLocals t t') (second : SameLocals t' t'') :
    SameLocals t t'' := by
  obtain ⟨calls, rfl⟩ := first
  obtain ⟨calls', rfl⟩ := second
  exact ⟨calls', rfl⟩

theorem SameLocals.finished {t t' : Transfer} (same : SameLocals t t') : t'.finished = t.finished := by
  obtain ⟨calls, rfl⟩ := same
  rfl

theorem throw_follows {same : α → β → Prop} (what : Bytes) (t : Transfer) :
    Program.Follows s s same thrown (throw (.exception what) : OnStack α) (.error ⟨what, t⟩) := rfl

theorem throwing_follows (t : Transfer) (x : Except Bytes α) :
    Program.Follows s s Eq thrown (throwing x) (throwingAt t x) := by
  cases x with
  | ok a => exact ⟨a, rfl, rfl⟩
  | error what => rfl

theorem appendBody_follows (ready : Ready options s) (chunk : Bytes) (outside : CallbackOutside)
    {t t' : Transfer} (same : SameLocals t t') :
    Program.Follows s s SameLocals thrown (appendBody lua options chunk outside t)
      (LuaXENetwork.appendBody options chunk (answer lua outside) t') := by
  obtain ⟨calls, rfl⟩ := same
  unfold appendBody LuaXENetwork.appendBody
  split_ifs with large
  · exact throw_follows _ _
  · exact (emitResponseChunk_follows ready outside chunk _).map fun _ t'' emitted =>
      .trans ⟨calls, rfl⟩ emitted

theorem appendChunks_follows (ready : Ready options s) (chunks : List Bytes) (outsides : List CallbackOutside)
    {t t' : Transfer} (same : SameLocals t t') :
    Program.Follows s s SameLocals thrown (appendChunks lua options chunks outsides t)
      (LuaXENetwork.appendChunks options chunks (outsides.map (answer lua)) t') := by
  induction chunks generalizing outsides t t' with
  | nil => exact .pure same
  | cons chunk chunks ih =>
      have first : ((outsides.map (answer lua)).head?).getD .absent = answer lua (outsides.head?.getD {}) := by
        cases outsides <;> rfl
      rw [appendChunks, LuaXENetwork.appendChunks, first, ← List.map_tail]
      exact (appendBody_follows ready chunk _ same).bind fun _ _ appended => ih outsides.tail appended

theorem receiveHeaders_follows (ready : Ready options s) (headRequest : Bool) (outside : CallbackOutside)
    (incoming : Bytes) {t t' : Transfer} (same : SameLocals t t') :
    Program.Follows s s (fun a b => a.1 = b.1 ∧ SameLocals a.2 b.2) thrown
      (receiveHeaders lua options headRequest outside incoming t)
      (LuaXENetwork.receiveHeaders options headRequest (answer lua outside) incoming t') := by
  obtain ⟨calls, rfl⟩ := same
  unfold receiveHeaders LuaXENetwork.receiveHeaders
  simp only
  split_ifs with large
  · exact throw_follows _ _
  cases find headerEnd (t.pendingHeaders ++ incoming) with
  | none => exact .pure ⟨rfl, calls, rfl⟩
  | some separator =>
      refine (throwing_follows _ _).bind ?_
      rintro response _ rfl
      let opened : Transfer :=
        { t with response := response, pendingHeaders := [], gotHeaders := true, calls := calls }
      refine (emitResponseHeaders_follows ready outside opened).bind ?_
      rintro _ _ ⟨calls', rfl⟩
      refine (throwing_follows _ _).bind ?_
      rintro contentLength _ rfl
      simp only
      split_ifs with beyond
      · exact throw_follows _ _
      · exact .pure ⟨rfl, calls', rfl⟩

theorem receiveBody_follows (ready : Ready options s) (outsides : List CallbackOutside) (incoming : Bytes)
    {t t' : Transfer} (same : SameLocals t t') :
    Program.Follows s s SameLocals thrown (receiveBody lua options outsides incoming t)
      (LuaXENetwork.receiveBody options (outsides.map (answer lua)) incoming t') := by
  obtain ⟨calls, rfl⟩ := same
  unfold receiveBody LuaXENetwork.receiveBody
  simp only
  split_ifs with chunked
  · refine (throwing_follows _ _).bind ?_
    rintro ⟨chunks, decoder⟩ _ rfl
    refine (appendChunks_follows ready chunks outsides ⟨calls, rfl⟩).bind ?_
    rintro t'' _ ⟨calls', rfl⟩
    exact .pure ⟨calls', rfl⟩
  obtain ⟨response, decoder, pendingHeaders, gotHeaders, _, finished, contentLength, calls'⟩ := t
  cases contentLength with
  | none => exact appendChunks_follows ready _ outsides ⟨calls, rfl⟩
  | some contentLength =>
      refine (appendChunks_follows ready _ outsides ⟨calls, rfl⟩).bind ?_
      rintro t'' _ ⟨calls', rfl⟩
      exact .pure ⟨calls', rfl⟩

theorem receiveUnfinished_follows (ready : Ready options s) (outsides : List CallbackOutside) (incoming : Bytes)
    {t t' : Transfer} (same : SameLocals t t') :
    Program.Follows s s SameLocals thrown
      (if t.finished then pure t else receiveBody lua options outsides incoming t)
      (if t'.finished then pure t'
        else LuaXENetwork.receiveBody options (outsides.map (answer lua)) incoming t') := by
  obtain ⟨calls, rfl⟩ := same
  simp only
  split_ifs with finished
  · exact .pure ⟨calls, rfl⟩
  · exact receiveBody_follows ready outsides incoming ⟨calls, rfl⟩

theorem receiveData_follows (ready : Ready options s) (headRequest : Bool) (round : CallbackRound)
    (incoming : Bytes) {t t' : Transfer} (same : SameLocals t t') :
    Program.Follows s s SameLocals thrown (receiveData lua options headRequest round incoming t)
      (LuaXENetwork.receiveData options headRequest (answered lua round) incoming t') := by
  obtain ⟨calls, rfl⟩ := same
  unfold receiveData LuaXENetwork.receiveData
  simp only
  split_ifs with got
  · exact receiveUnfinished_follows ready round.chunks incoming ⟨calls, rfl⟩
  · refine (receiveHeaders_follows ready headRequest round.headers incoming ⟨calls, rfl⟩).bind ?_
    rintro ⟨rest, t⟩ ⟨_, t'⟩ ⟨rfl, same⟩
    cases rest with
    | none => exact .pure same
    | some rest => exact receiveUnfinished_follows ready round.chunks rest same

theorem receiveRound_follows (ready : Ready options s) (platform : Platform) (secure headRequest : Bool)
    (round : CallbackRound) {t t' : Transfer} (same : SameLocals t t') :
    Program.Follows s s SameLocals thrown (receiveRound lua options platform secure headRequest round t)
      (LuaXENetwork.receiveRound options platform secure headRequest (answered lua round) t') := by
  obtain ⟨calls, rfl⟩ := same
  unfold receiveRound LuaXENetwork.receiveRound
  refine (requestCancelled_follows ready round.cancel _).bind ?_
  rintro cancelled ⟨_, _⟩ ⟨rfl, calls', rfl⟩
  simp only
  split_ifs with stop
  · exact throw_follows _ _
  refine (throwing_follows _ _).bind ?_
  rintro receiveTimeout _ rfl
  have received : (answered lua round).received = round.received := rfl
  rw [received]
  cases round.received with
  | failed code =>
      simp only
      split_ifs with closed
      · exact .pure ⟨calls', rfl⟩
      · exact throw_follows _ _
  | data incoming =>
      simp only
      split_ifs with empty
      · exact .pure ⟨calls', rfl⟩
      · exact receiveData_follows ready headRequest round incoming ⟨calls', rfl⟩

/-- The same response, or the same locals. -/
def SameEnd : HttpResponse ⊕ Transfer → HttpResponse ⊕ Transfer → Prop
  | .inl response, .inl response' => response = response'
  | .inr t, .inr t' => SameLocals t t'
  | _, _ => False

theorem conclude_follows (headRequest : Bool) (finishedMs : Int) {t t' : Transfer} (same : SameLocals t t') :
    Program.Follows s s SameEnd thrown (receiveLoop.settle (conclude headRequest finishedMs t))
      (conclude headRequest finishedMs t').result := by
  obtain ⟨calls, rfl⟩ := same
  unfold conclude
  simp only
  split_ifs
  · exact throw_follows _ _
  · exact throw_follows _ _
  obtain ⟨response, decoder, pendingHeaders, gotHeaders, chunked, finished, contentLength, calls'⟩ := t
  cases contentLength with
  | none => exact .pure rfl
  | some contentLength =>
      simp only
      split_ifs
      · exact throw_follows _ _
      · exact .pure rfl

/-- However many rounds there are, the loop ends as the one without a stack does. -/
theorem receiveLoop_follows (ready : Ready options s) (platform : Platform) (secure headRequest : Bool)
    (finishedMs : Int) (rounds : List CallbackRound) {t t' : Transfer} (same : SameLocals t t') :
    Program.Follows s s SameEnd thrown
      (receiveLoop lua options platform secure headRequest finishedMs t rounds)
      (LuaXENetwork.receiveLoop options platform secure headRequest finishedMs t'
        (rounds.map (answered lua))).result := by
  induction rounds generalizing t t' with
  | nil =>
      rw [receiveLoop, List.map_nil, LuaXENetwork.receiveLoop, same.finished]
      split_ifs
      · exact conclude_follows headRequest finishedMs same
      · exact .pure same
  | cons round rounds ih =>
      rw [receiveLoop, List.map_cons, LuaXENetwork.receiveLoop, same.finished]
      split_ifs
      · exact conclude_follows headRequest finishedMs same
      have step : Program.Follows s s SameLocals thrown
          (receiveRound lua options platform secure headRequest round t) _ :=
        receiveRound_follows ready platform secure headRequest round same
      cases turn : LuaXENetwork.receiveRound options platform secure headRequest (answered lua round) t' with
      | error failure =>
          rw [turn] at step
          exact Program.run_bind_error step
      | ok t'' =>
          rw [turn] at step
          obtain ⟨next, returns, still⟩ := step
          exact .of_run (Program.run_bind_ok returns) (ih still)

end Loop

/-! ## The stacks that the functions of the module are entered with -/

section Entered

variable {platform : Platform} {args : List LuaValue}

theorem slot_entered {index : Nat} (given : index ≠ 0) (isTable : (argument args index).isTable = true) :
    ∃ table, (LuaStack.entered args).slot index = some (.table table) := by
  obtain ⟨n, rfl⟩ := Nat.exists_eq_succ_of_ne_zero given
  cases found : args[n]? with
  | none => simp [argument, found, LuaValue.isTable] at isTable
  | some value =>
      obtain ⟨inside, -⟩ := List.getElem?_eq_some_iff.mp found
      have is : (LuaStack.entered args).slot (n + 1 : Nat) = some value := by
        have here : (LuaStack.entered args).position (n + 1 : Nat) = some n := if_pos inside
        rw [Stack.slot, here, Option.bind_some]
        exact found
      have same : argument args (n + 1) = value := by simp [argument, found]
      rw [same] at isTable
      cases value with
      | table table => exact ⟨table, is⟩
      | _ => contradiction

theorem readOptions_index {index : Nat} {table : LuaValue} {options : HttpRequestOptions}
    (read : readOptions lua platform index table = .ok options) :
    options.requestIndex = 0 ∨ options.requestIndex = index ∧ index ≠ 0 ∧ table.isTable = true := by
  have read := NetworkCall.readOptions_ok.mp read
  unfold readRequestOptions at read
  by_cases none : index = 0 ∨ table.isTable = false
  · rw [if_pos none] at read
    obtain rfl := Except.ok.inj read
    exact .inl rfl
  · rw [if_neg none] at read
    rw [not_or, Bool.not_eq_false] at none
    simp only at read
    split_ifs at read with direct
    · simp only [pure_bind, pure_eq_ok] at read
      subst read
      exact .inr ⟨rfl, none⟩
    · simp only [bind_eq_ok, pure_eq_ok] at read
      obtain ⟨proxy, -, rfl⟩ := read
      exact .inr ⟨rfl, none⟩

theorem readOptions_ready {index : Nat} {options : HttpRequestOptions}
    (read : readOptions lua platform index (argument args index) = .ok options) :
    Ready options (LuaStack.entered args) := by
  refine ⟨Nat.lt_of_sub_eq_succ rfl, fun given => ?_⟩
  rcases readOptions_index read with none | ⟨same, some_index, isTable⟩
  · exact absurd none given
  · rw [same]
    exact slot_entered some_index isTable

theorem webRequestImpl_ready {force : Bool} {call : HttpCall}
    (built : webRequestImpl lua platform force args = .ok call) :
    Ready call.options (LuaStack.entered args) := by
  unfold webRequestImpl at built
  simp only at built
  by_cases string : (argument args 1).isString = true ∧ 1 < args.length
  · simp only [if_pos string, pure_bind, bind_eq_ok, pure_eq_ok] at built
    obtain ⟨request, -, options, read, rfl⟩ := built
    exact (readOptions_ready read).of_index rfl
  · rw [if_neg string] at built
    split_ifs at built
    · simp only [pure_bind, bind_eq_ok, pure_eq_ok] at built
      obtain ⟨name, -, request, -, options, read, rfl⟩ := built
      exact (readOptions_ready read).of_index rfl
    · cases built

theorem simpleRequest_ready {accept : String} {slot : Nat} {url : Bytes} {call : HttpCall}
    (built : simpleRequest lua platform accept slot args url = .ok call) :
    Ready call.options (LuaStack.entered args) := by
  unfold simpleRequest at built
  cases parsed : parseHttpUrl url with
  | error what => simp [parsed] at built
  | ok target =>
      simp only [parsed, pure_bind, bind_eq_ok, pure_eq_ok] at built
      obtain ⟨options, read, rfl⟩ := built
      by_cases isTable : (argument args slot).isTable = true
      · rw [if_pos isTable] at read
        exact (readOptions_ready read).of_index rfl
      · rcases readOptions_index read with none | ⟨-, -, table⟩
        · exact ⟨Nat.lt_of_sub_eq_succ rfl, absurd none⟩
        · exact absurd table isTable

/-- `request`, `send`, `get` or `download` comes to the call of `ResolveHttpRequest`. -/
def ComesTo (lua : LuaLibrary) (platform : Platform) (args : List LuaValue) (call : HttpCall) : Prop :=
  (∃ force, webRequestImpl lua platform force args = .ok call) ∨
    webRequestSimpleGET lua platform args = .ok call ∨ webRequestSimpleDownload lua platform args = .ok call

/-- Each of them has the room and the table that the callbacks need. -/
theorem ComesTo.ready {call : HttpCall} (comes : ComesTo lua platform args call) :
    Ready call.options (LuaStack.entered args) := by
  rcases comes with ⟨force, request⟩ | get | download
  · exact webRequestImpl_ready request
  · unfold webRequestSimpleGET at get
    obtain ⟨url, -, get⟩ := bind_eq_ok.mp get
    exact simpleRequest_ready get
  · unfold webRequestSimpleDownload at download
    obtain ⟨url, -, download⟩ := bind_eq_ok.mp download
    cases parsed : parseHttpUrl url with
    | error what => simp [parsed] at download
    | ok target =>
        simp only [parsed, bind_eq_ok] at download
        obtain ⟨path, -, download⟩ := download
        exact simpleRequest_ready download

end Entered

/-! ## The height of the stack -/

/-- Whether it returns or throws an exception, and it does one of both, the stack is as it was. -/
structure Balanced (s : LuaStack) (x : OnStack α) : Prop where
  kept : (x.run s).2 = s
  throws : ∀ exit, (x.run s).1 = .error exit → ∃ what, exit = .exception what

theorem balanced_of_follows {same : α → β → Prop} {x : OnStack α} {r : Except Thrown β}
    (follows : Program.Follows s s same thrown x r) : Balanced s x where
  kept := follows.ends
  throws exit out := by
    obtain ⟨failure, rfl⟩ := follows.thrown out
    exact ⟨failure.what, rfl⟩

/-- However long the response, the loop leaves the stack with the arguments of the call on it. -/
theorem ComesTo.balanced {platform : Platform} {args : List LuaValue} {call : HttpCall}
    (comes : ComesTo lua platform args call) (secure headRequest : Bool) (finishedMs : Int)
    (rounds : List CallbackRound) :
    Balanced (LuaStack.entered args) (receiveLoop lua call.options platform secure headRequest finishedMs
      (Transfer.start call.options) rounds) :=
  balanced_of_follows
    (receiveLoop_follows comes.ready platform secure headRequest finishedMs rounds ⟨[], rfl⟩)

/-- No callback moves the stack, in no round of a transfer of any length, and four free slots are
enough for all of them. -/
theorem callbacks_balanced (lua : LuaLibrary) (platform : Platform) (options : HttpRequestOptions)
    (secure headRequest : Bool) (finishedMs : Int) (s : LuaStack) (room : 4 ≤ s.free)
    (request : options.requestIndex ≠ 0 → ∃ table, s.slot options.requestIndex = some (.table table)) :
    (∀ outside, Balanced s (requestCancelled lua options.requestIndex outside)) ∧
    (∀ outside response, Balanced s (emitResponseHeaders lua options.requestIndex outside response)) ∧
    (∀ outside chunk, Balanced s (emitResponseChunk lua options.requestIndex outside chunk)) ∧
    ∀ t rounds, Balanced s (receiveLoop lua options platform secure headRequest finishedMs t rounds) := by
  have ready : Ready options s := ⟨room, request⟩
  refine ⟨fun outside => ?_, fun outside response => ?_, fun outside chunk => ?_, fun t rounds => ?_⟩
  · exact balanced_of_follows (requestCancelled_follows ready outside (Transfer.start options))
  · exact balanced_of_follows
      (emitResponseHeaders_follows ready outside { Transfer.start options with response := response })
  · exact balanced_of_follows (emitResponseChunk_follows ready outside chunk (Transfer.start options))
  · exact balanced_of_follows
      (receiveLoop_follows ready platform secure headRequest finishedMs rounds ⟨t.calls, rfl⟩)

/-- `PushResponse` needs the fourth slot as soon as there is a header. -/
example : ((emitResponseHeaders .whole 1 {} { headers := [(ascii "a", ascii "b")] }).run ⟨[.table []], 3⟩).1 =
    .error misuse := by decide +kernel

/-- An `on_chunk` that raises nil. -/
theorem callbacks_balanced_raised :
    Balanced (LuaStack.entered [.string (ascii "http://host/"), .table []])
      (emitResponseChunk .whole 2 ⟨.function 0, .raised .nil⟩ (ascii "body")) ∧
    ((emitResponseChunk .whole 2 ⟨.function 0, .raised .nil⟩ (ascii "body")).run
        (LuaStack.entered [.string (ascii "http://host/"), .table []])).1 =
      .error (.exception (ascii "on_chunk callback failed: unknown callback error")) :=
  ⟨(callbacks_balanced .whole .blank { requestIndex := 2 } false false 0 _ (by decide)
    (fun _ => ⟨[], rfl⟩)).2.2.1 _ _, rfl⟩

end LuaXENetwork.OnStack
