import LuaXENetwork.Http.PushResponse

/-! What a Lua program finds in `headers` and `header_list` of a response. -/

namespace LuaXENetwork
open Library

/-! ## Values joined through C strings -/

/-- All values of a name, in order. -/
def HeaderList.valuesOf (headers : HeaderList) (name : Bytes) : List Bytes := Assoc.values headers name

/-- What the repeated joining leaves of the values: every one but the last is cut at its first
null. -/
def joinedValue (values : List Bytes) : Bytes :=
  (ascii ", ").intercalate (values.dropLast.map cString ++ values.getLast?.toList)

theorem intercalate_concat (separator last : Bytes) {texts : List Bytes} (some_text : texts ≠ []) :
    separator.intercalate (texts ++ [last]) = separator.intercalate texts ++ separator ++ last := by
  induction texts with
  | nil => exact absurd rfl some_text
  | cons text texts ih =>
      by_cases others : texts = []
      · subst others
        simp [List.intercalate_cons_cons]
      · rw [List.cons_append, List.intercalate_cons_of_ne_nil (by simp), ih others,
          List.intercalate_cons_of_ne_nil others]
        simp only [List.append_assoc]

theorem notMem_intercalate {separator : Bytes} (clean : (0 : UInt8) ∉ separator) {texts : List Bytes}
    (cleans : ∀ text ∈ texts, (0 : UInt8) ∉ text) : (0 : UInt8) ∉ separator.intercalate texts := by
  induction texts with
  | nil => simp
  | cons text texts ih =>
      rw [List.forall_mem_cons] at cleans
      by_cases others : texts = []
      · simpa [others] using cleans.1
      · rw [List.intercalate_cons_of_ne_nil others]
        simp [clean, cleans.1, ih cleans.2]

theorem comma_clean : (0 : UInt8) ∉ ascii ", " := by decide

theorem cString_intercalate {texts : List Bytes} (cleans : ∀ text ∈ texts, (0 : UInt8) ∉ text)
    (last : Bytes) :
    cString ((ascii ", ").intercalate (texts ++ [last])) = (ascii ", ").intercalate (texts ++ [cString last]) := by
  by_cases some_text : texts = []
  · simp [some_text]
  · rw [intercalate_concat _ _ some_text, intercalate_concat _ _ some_text]
    refine cString_append ?_ last
    simp [comma_clean, notMem_intercalate comma_clean cleans]

theorem joinedValue_concat (front : List Bytes) (last : Bytes) :
    joinedValue (front ++ [last]) = (ascii ", ").intercalate (front.map cString ++ [last]) := by
  simp [joinedValue]

theorem clean_map_cString (values : List Bytes) : ∀ text ∈ values.map cString, (0 : UInt8) ∉ text := by
  intro text member
  obtain ⟨value, -, rfl⟩ := List.mem_map.mp member
  exact notMem_cString value

/-- Reading the joined text back and appending one more value. -/
theorem joinedValue_append {values : List Bytes} (some_value : values ≠ []) (value : Bytes) :
    joinedValue (values ++ [value]) = cString (joinedValue values) ++ ascii ", " ++ value := by
  obtain ⟨front, last, rfl⟩ := (List.eq_nil_or_concat' values).resolve_left some_value
  rw [joinedValue_concat, joinedValue_concat, cString_intercalate (clean_map_cString front),
    intercalate_concat _ _ (by simp), List.map_append, List.map_singleton]

theorem length_intercalate_le (front : List Bytes) (last : Bytes) :
    ((ascii ", ").intercalate (front.map cString ++ [last])).length ≤
      ((ascii ", ").intercalate (front ++ [last])).length := by
  induction front with
  | nil => rfl
  | cons text front ih =>
      have := (cString_front text).length_le
      rw [List.map_cons, List.cons_append, List.cons_append, List.intercalate_cons_of_ne_nil (by simp),
        List.intercalate_cons_of_ne_nil (by simp)]
      simp only [List.length_append] at ih ⊢
      omega

/-- Nothing is lost exactly where no value but the last holds a null. -/
theorem joinedValue_eq_iff (values : List Bytes) :
    joinedValue values = (ascii ", ").intercalate values ↔
      ∀ value ∈ values.dropLast, (0 : UInt8) ∉ value := by
  rcases List.eq_nil_or_concat' values with rfl | ⟨front, last, rfl⟩
  · simp [joinedValue]
  rw [joinedValue_concat, List.dropLast_concat]
  induction front with
  | nil => simp
  | cons text front ih =>
      rw [List.map_cons, List.cons_append, List.cons_append, List.intercalate_cons_of_ne_nil (by simp),
        List.intercalate_cons_of_ne_nil (by simp), List.forall_mem_cons, ← ih, ← cString_eq_iff]
      constructor
      · intro same
        have shorter := (cString_front text).length_le
        have shorter' := length_intercalate_le front last
        have lengths := congrArg List.length same
        simp only [List.length_append] at lengths
        obtain ⟨first, others⟩ := List.append_inj same (by simp only [List.length_append]; omega)
        exact ⟨List.append_cancel_right first, others⟩
      · rintro ⟨first, others⟩
        rw [first, others]

/-! ## The table of headers -/

/-- What stands under a key after one more value. -/
def joinValue (prior : Option LuaValue) (value : Bytes) : LuaValue :=
  match prior with
  | some (.string prior) => .string (cString prior ++ ascii ", " ++ value)
  | _ => .string value

def HoldsStrings (table : LuaTable) : Prop :=
  ∀ key value, table.lookup key = some value → ∃ s, value = .string s

theorem pushHeader_eq (lua : LuaLibrary) {table : LuaTable} (strings : HoldsStrings table)
    (header : Bytes × Bytes) :
    pushHeader lua table header = .ok (Assoc.store (.string (cString header.1))
      (joinValue (table.lookup (.string (cString header.1))) header.2) table) := by
  rw [pushHeader, LuaTable.field]
  rcases found : table.lookup (.string (cString header.1)) with _ | value
  · rw [found]
    rfl
  · obtain ⟨s, rfl⟩ := strings _ _ found
    rw [found]
    rfl

theorem joinValue_string (prior : Option LuaValue) (value : Bytes) : ∃ s, joinValue prior value = .string s := by
  unfold joinValue
  split <;> exact ⟨_, rfl⟩

theorem HoldsStrings.store {table : LuaTable} (strings : HoldsStrings table) (key : LuaKey)
    (prior : Option LuaValue) (value : Bytes) :
    HoldsStrings (Assoc.store key (joinValue prior value) table) := by
  intro other found member
  by_cases same : other = key
  · rw [same, Assoc.lookup_store_self, Option.some.injEq] at member
    rw [← member]
    exact joinValue_string prior value
  · rw [Assoc.lookup_store_of_ne same] at member
    exact strings other found member

/-- The headers under the keys `PushResponse` stores them by. -/
def shownHeaders (headers : HeaderList) : List (LuaKey × Bytes) :=
  headers.map fun header => (.string (cString header.1), header.2)

/-- The loop groups the values by what a C string shows of their names. -/
theorem pushHeaders_eq (lua : LuaLibrary) (headers : HeaderList) :
    headers.foldlM (pushHeader lua) [] = .ok (Assoc.group joinValue (shownHeaders headers)) ∧
      HoldsStrings (Assoc.group joinValue (shownHeaders headers)) := by
  induction headers using List.reverseRecOn with
  | nil => exact ⟨rfl, fun _ _ found => nomatch found⟩
  | append_singleton headers header ih =>
      obtain ⟨built, strings⟩ := ih
      have last : shownHeaders (headers ++ [header]) =
          shownHeaders headers ++ [(.string (cString header.1), header.2)] := by simp [shownHeaders]
      rw [last, Assoc.group_append]
      refine ⟨?_, strings.store _ _ _⟩
      rw [List.foldlM_append, built]
      exact (bind_pure _).trans (pushHeader_eq lua strings header)

theorem foldl_joinValue {values : List Bytes} (some_value : values ≠ []) :
    values.foldl (fun prior value => some (joinValue prior value)) none =
      some (.string (joinedValue values)) := by
  induction values using List.reverseRecOn with
  | nil => exact absurd rfl some_value
  | append_singleton values value ih =>
      rw [List.foldl_append]
      by_cases first : values = []
      · simp [first, joinValue, joinedValue]
      · rw [ih first, joinedValue_append first]
        rfl

/-! ## What a Lua program reads -/

theorem getField_table (table : LuaTable) (name : String) :
    (LuaValue.table table).getField name = table.field (ascii name) := by
  rw [LuaValue.getField, LuaTable.field]
  induction table with
  | nil => rfl
  | cons entry table ih =>
      rw [Assoc.lookup_entry, List.find?_cons]
      by_cases here : entry.1 = .string (ascii name)
      · simp [here]
      · simpa [here, Ne.symm here] using ih

/-- `header_list`: the headers in order, as pairs under 1, 2, 3 and so on. -/
structure ListsHeaders (headers : HeaderList) (list : LuaTable) : Prop where
  keys : list.map Prod.fst = (List.range headers.length).map fun index => .number (.finite (index + 1 : Nat))
  pairs : ∀ index header, headers[index]? = some header → ∃ pair : LuaTable,
    list.item (index + 1) = .table pair ∧ pair.length = 2 ∧ pair.item 1 = .string header.1 ∧
      pair.item 2 = .string header.2

/-- `headers`: one entry for each name, its values joined. -/
structure GroupsHeaders (headers : HeaderList) (table : LuaTable) : Prop where
  keys : ∀ key, key ∈ table.map Prod.fst ↔ ∃ header ∈ headers, key = .string header.1
  distinct : (table.map Prod.fst).Nodup
  values : ∀ header ∈ headers,
    table.field header.1 = .string ((ascii ", ").intercalate (headers.valuesOf header.1))

theorem item_pushHeaderPair (headers : HeaderList) (first index : Nat) :
    (headers.mapIdx fun i => pushHeaderPair (i + first)).lookup (.number (.finite (index + first + 1 : Nat))) =
      headers[index]?.map fun header => (pushHeaderPair 0 header).2 := by
  induction headers generalizing first index with
  | nil => rfl
  | cons header headers ih =>
      rw [List.mapIdx_cons, Assoc.lookup_entry]
      cases index with
      | zero => simp [pushHeaderPair]
      | succ index =>
          have later : LuaKey.number (.finite (index + 1 + first + 1 : Nat)) ≠
              (pushHeaderPair (0 + first) header).1 := by
            intro same
            have := Nat.cast_injective (LuaNumber.finite.inj (LuaKey.number.inj same))
            omega
          rw [if_neg later]
          have := ih (first + 1) index
          simpa [Nat.add_comm, Nat.add_left_comm, Nat.add_assoc] using this

theorem listsHeaders_mapIdx (headers : HeaderList) : ListsHeaders headers (headers.mapIdx pushHeaderPair) where
  keys := by
    apply List.ext_getElem <;> simp [pushHeaderPair]
  pairs index header found := by
    refine ⟨[(.number (.finite 1), .string header.1), (.number (.finite 2), .string header.2)], ?_, rfl, ?_, ?_⟩
    · have := item_pushHeaderPair headers 0 index
      rw [found] at this
      exact congrArg (Option.getD · .nil) this
    · simp [LuaTable.item, Assoc.lookup_entry]
    · simp [LuaTable.item, Assoc.lookup_entry]

/-- No name holds a null, and no value does that another one of its name follows. -/
structure NullsLast (headers : HeaderList) : Prop where
  names : ∀ header ∈ headers, (0 : UInt8) ∉ header.1
  values : ∀ header ∈ headers, ∀ value ∈ (headers.valuesOf header.1).dropLast, (0 : UInt8) ∉ value

theorem shownHeaders_clean {headers : HeaderList} (names : ∀ header ∈ headers, (0 : UInt8) ∉ header.1) :
    shownHeaders headers = headers.map fun header => (.string header.1, header.2) := by
  refine List.map_congr_left fun header member => ?_
  rw [cString_clean (names header member)]

theorem values_shownHeaders {headers : HeaderList} (names : ∀ header ∈ headers, (0 : UInt8) ∉ header.1)
    (name : Bytes) : Assoc.values (shownHeaders headers) (.string name) = headers.valuesOf name := by
  rw [shownHeaders_clean names, HeaderList.valuesOf, Assoc.values, Assoc.values, List.filter_map, List.map_map]
  simp only [Function.comp_def, LuaKey.string.injEq]

theorem field_group {headers : HeaderList} (names : ∀ header ∈ headers, (0 : UInt8) ∉ header.1)
    {header : Bytes × Bytes} (member : header ∈ headers) :
    LuaTable.field (Assoc.group joinValue (shownHeaders headers)) header.1 =
      .string (joinedValue (headers.valuesOf header.1)) := by
  have some_value : headers.valuesOf header.1 ≠ [] :=
    Assoc.values_ne_nil.mpr (List.mem_map.mpr ⟨header, member, rfl⟩)
  rw [LuaTable.field, Assoc.lookup_group, values_shownHeaders names, foldl_joinValue some_value]
  rfl

theorem mem_shownHeaders {headers : HeaderList} {key : LuaKey} :
    key ∈ (Assoc.group joinValue (shownHeaders headers)).map Prod.fst ↔
      ∃ header ∈ headers, key = .string (cString header.1) := by
  rw [Assoc.mem_keys_group]
  simp only [shownHeaders, List.map_map, List.mem_map, Function.comp_apply, eq_comm]

theorem groupsHeaders_iff (headers : HeaderList) :
    GroupsHeaders headers (Assoc.group joinValue (shownHeaders headers)) ↔ NullsLast headers := by
  constructor
  · intro groups
    have names : ∀ header ∈ headers, (0 : UInt8) ∉ header.1 := by
      intro header member
      have stored := (groups.keys (.string header.1)).mpr ⟨header, member, rfl⟩
      obtain ⟨shown, -, same⟩ := mem_shownHeaders.mp stored
      rw [LuaKey.string.inj same]
      exact notMem_cString shown.1
    refine ⟨names, fun header member => ?_⟩
    have joined := groups.values header member
    rw [field_group names member, LuaValue.string.injEq] at joined
    exact (joinedValue_eq_iff _).mp joined
  · intro nulls
    refine ⟨fun key => ?_, Assoc.nodup_group _ _, fun header member => ?_⟩
    · rw [Assoc.mem_keys_group, shownHeaders_clean nulls.names]
      simp only [List.map_map, List.mem_map, Function.comp_apply, eq_comm]
    · rw [field_group nulls.names member, (joinedValue_eq_iff _).mpr (nulls.values header member)]

@[simp] theorem field_setField_self (table : LuaTable) (key : Bytes) (value : LuaValue) :
    LuaTable.field (table.setField key value) key = value := by
  rw [LuaTable.field, LuaTable.setField, Assoc.lookup_store_self, Option.getD_some]

theorem field_setField_of_ne {key other : Bytes} (differ : other ≠ key) (table : LuaTable) (value : LuaValue) :
    LuaTable.field (table.setField key value) other = table.field other := by
  rw [LuaTable.field, LuaTable.setField, Assoc.lookup_store_of_ne (mt LuaKey.string.inj differ), LuaTable.field]

/-- Handing out a response never fails. -/
theorem pushResponse_ok (lua : LuaLibrary) (response : HttpResponse) (includeBody : Bool) :
    ∃ table, pushResponse lua response includeBody = .ok table ∧
      (LuaValue.table table).getField "header_list" = .table (response.headers.mapIdx pushHeaderPair) ∧
      (LuaValue.table table).getField "headers" =
        .table (Assoc.group joinValue (shownHeaders response.headers)) := by
  simp only [pushResponse, (pushHeaders_eq lua response.headers).1]
  refine ⟨_, rfl, ?_, ?_⟩
  · rw [getField_table, field_setField_self]
  · rw [getField_table, field_setField_of_ne (by decide), field_setField_self]

/-- Both tables are right, unless a null meets a C string. -/
theorem pushResponse_headers_iff (lua : LuaLibrary) (response : HttpResponse) (includeBody : Bool) :
    (∃ table list headers, pushResponse lua response includeBody = .ok table ∧
        (LuaValue.table table).getField "header_list" = .table list ∧ ListsHeaders response.headers list ∧
        (LuaValue.table table).getField "headers" = .table headers ∧ GroupsHeaders response.headers headers) ↔
      NullsLast response.headers := by
  obtain ⟨table, pushed, listed, grouped⟩ := pushResponse_ok lua response includeBody
  rw [← groupsHeaders_iff]
  constructor
  · rintro ⟨table', list, headers, pushed', -, -, grouped', groups⟩
    obtain rfl := Except.ok.inj (pushed.symm.trans pushed')
    rwa [← LuaValue.table.inj (grouped'.symm.trans grouped)]
  · exact fun groups => ⟨table, _, _, pushed, listed, listsHeaders_mapIdx _, grouped, groups⟩

/-- The first of two values is cut at its null. -/
theorem repeated_value_cut :
    ∃ response table headers,
      parseResponseHeaders (ascii "HTTP/1.1 200 OK\r\nA: x" ++ [0] ++ ascii "y\r\nA: z") {} = .ok response ∧
      response.headers = [(ascii "a", ascii "x" ++ [0] ++ ascii "y"), (ascii "a", ascii "z")] ∧
      pushResponse .whole response true = .ok table ∧
      (LuaValue.table table).getField "headers" = .table headers ∧
      headers = [(.string (ascii "a"), .string (ascii "x, z"))] ∧ ¬ GroupsHeaders response.headers headers := by
  obtain ⟨response, parsed, shown⟩ : ∃ response,
      parseResponseHeaders (ascii "HTTP/1.1 200 OK\r\nA: x" ++ [0] ++ ascii "y\r\nA: z") {} = .ok response ∧
        response.headers = [(ascii "a", ascii "x" ++ [0] ++ ascii "y"), (ascii "a", ascii "z")] :=
    ⟨_, rfl, by decide +kernel⟩
  obtain ⟨table, pushed, -, grouped⟩ := pushResponse_ok .whole response true
  rw [shown] at grouped
  refine ⟨response, table, _, parsed, shown, pushed, grouped, rfl, fun groups => ?_⟩
  rw [shown] at groups
  have value : LuaValue.string (ascii "x, z") = .string (ascii "x" ++ [0] ++ ascii "y, z") :=
    groups.values (ascii "a", ascii "z") (by decide)
  exact absurd (LuaValue.string.inj value) (by decide)

end LuaXENetwork
