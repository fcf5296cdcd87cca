import LuaXENetwork.ConnectionContext
import LuaXENetwork.Listener.Response
import LuaXENetwork.Proof.Listener.RequestRoundTrip

/-! The bodies of the messages that the module builds, and what it sends, byte for byte. -/

namespace LuaXENetwork
open Library

/-! ## The first blank line -/

theorem not_headerEnd_prefix {a : UInt8} {front line : Bytes} (is : IsLine line) (rest : Bytes)
    (clear : find headerEnd (a :: front) = none) : ¬ headerEnd <+: a :: (front ++ (line ++ rest)) := by
  obtain ⟨b, line, rfl⟩ := List.exists_cons_of_ne_nil is.nonempty
  have noReturn : (13 : UInt8) ≠ b := fun same => is.noReturn (by simp [same])
  have noFeed : (10 : UInt8) ≠ b := fun same => is.noFeed (by simp [same])
  intro holds
  rw [headerEnd] at holds
  cases front with
  | nil => simp [List.cons_prefix_cons, noFeed] at holds
  | cons c front =>
      cases front with
      | nil => simp [List.cons_prefix_cons, noReturn] at holds
      | cons d front =>
          cases front with
          | nil => simp [List.cons_prefix_cons, noFeed] at holds
          | cons e front =>
              have here : headerEnd <+: a :: c :: d :: e :: front := by
                simpa [List.cons_prefix_cons, headerEnd] using holds
              rw [find_eq_zero here] at clear
              contradiction

/-- A line behind lines without a blank one is followed by the first blank line. -/
theorem find_headerEnd_line {front line : Bytes} (is : IsLine line) (rest : Bytes)
    (clear : find headerEnd front = none) :
    find headerEnd (front ++ (line ++ (headerEnd ++ rest))) = some (front ++ line).length := by
  induction front with
  | nil => exact find_append_cons is.noReturn [10, 13, 10] rest
  | cons a front ih =>
      have skip := not_headerEnd_prefix is (headerEnd ++ rest) clear
      have later : find headerEnd front = none := by
        have same := clear
        rw [find_cons_skip (not_prefix_drop_of_find_none clear 0)] at same
        simpa using same
      rw [List.cons_append, find_cons_skip skip, ih later]
      rfl

/-! ## Messages with a body -/

/-- The message ends with the body behind a blank line and announces its length on the line before.
This is the first blank line, unless what the caller gave for the lines above has one. -/
def Carries (message body : Bytes) : Prop :=
  ∃ front, message = front ++ (fieldLine (lengthField body) ++ (headerEnd ++ body)) ∧ crlf <:+ front ∧
    (find headerEnd front = none →
      find headerEnd message = some (front ++ fieldLine (lengthField body)).length)

theorem carries_of_front {front body : Bytes} (broken : crlf <:+ front) :
    Carries (front ++ (fieldLine (lengthField body) ++ (headerEnd ++ body))) body :=
  ⟨front, rfl, broken, find_headerEnd_line (isLine_lengthLine body) body⟩

/-- Nothing, or lines that are all broken. -/
def Broken (lines : Bytes) : Prop := lines = [] ∨ crlf <:+ lines

theorem Broken.behind {front lines : Bytes} (broken : Broken lines) (before : crlf <:+ front) :
    crlf <:+ front ++ lines := by
  rcases broken with rfl | ends
  · rwa [List.append_nil]
  · exact ends.trans (List.suffix_append _ _)

theorem headerLines_cons {lua : LuaLibrary} {table entries : LuaTable} {rounds : Nat} {key : LuaKey}
    {value : LuaValue} {lines : Bytes}
    (built : headerLines lua table (rounds + 1) ((key, value) :: entries) = .ok lines) :
    ∃ start next later, headerLines lua table rounds next = .ok later ∧ lines = start ++ crlf ++ later := by
  unfold headerLines at built
  cases shown : value.toString? lua with
  | none => cases key <;> simp [shown] at built
  | some text =>
      cases key with
      | string s =>
          simp only [shown, pure_bind, bind_eq_ok, pure_eq_ok] at built
          obtain ⟨later, read, rfl⟩ := built
          exact ⟨_, _, later, read, rfl⟩
      | number n =>
          cases walk : entriesAfter (lua.numberText n) table with
          | none => simp [shown, walk] at built
          | some next =>
              simp only [shown, walk, pure_bind, bind_eq_ok, pure_eq_ok] at built
              obtain ⟨later, read, rfl⟩ := built
              exact ⟨_, _, later, read, rfl⟩
      | other id => simp at built

theorem headerLines_broken {lua : LuaLibrary} {table : LuaTable} {rounds : Nat} {entries : LuaTable}
    {lines : Bytes} (built : headerLines lua table rounds entries = .ok lines) : Broken lines := by
  induction rounds generalizing entries lines with
  | zero =>
      cases entries with
      | nil => exact .inl (Except.ok.inj built).symm
      | cons entry entries => simp [headerLines] at built
  | succ rounds ih =>
      cases entries with
      | nil => exact .inl (Except.ok.inj built).symm
      | cons entry entries =>
          obtain ⟨start, next, later, read, rfl⟩ := headerLines_cons built
          exact .inr ((ih read).behind (List.suffix_append _ _))

theorem requestHeaders_broken {lua : LuaLibrary} {value : LuaValue} {lines : Bytes}
    (built : requestHeaders lua value = .ok lines) : Broken lines := by
  unfold requestHeaders at built
  split at built
  · exact headerLines_broken built
  · obtain rfl := Except.ok.inj built
    exact .inr (List.suffix_append _ _)
  · obtain rfl := Except.ok.inj built
    exact .inr (List.suffix_append _ _)

theorem reason_ended (reason : LuaValue) :
    crlf <:+ match reason with
      | .string s => cString s ++ crlf
      | _ => ascii "OK" ++ crlf := by
  split
  · exact List.suffix_append _ _
  · exact List.suffix_append _ _

section Builders

variable {lua : LuaLibrary} {host message body : Bytes} {table : LuaValue}
  (given : table.getField "body" = .string body)
include given

theorem requestBuilder_carries (built : requestBuilder lua host table = .ok message) :
    Carries message body := by
  unfold requestBuilder at built
  split at built
  · simp [LuaValue.getField] at given
  · simp [LuaValue.getField] at given
  · simp only [given, bodyPart_string, bind_eq_ok, pure_eq_ok] at built
    obtain ⟨headers, read, rfl⟩ := built
    exact carries_of_front ((requestHeaders_broken read).behind (List.suffix_append _ _))
  · simp at built

theorem responseBuilder_carries (built : responseBuilder lua table = .ok message) :
    Carries message body := by
  unfold responseBuilder at built
  split at built
  · have carried (version status : Bytes) {reason headers : Bytes} (ended : crlf <:+ reason)
        (broken : Broken headers) : Carries (version ++ status ++ reason ++ headers ++
          (fieldLine (lengthField body) ++ (headerEnd ++ body))) body :=
      carries_of_front (broken.behind (ended.trans (List.suffix_append _ _)))
    simp only [given, bodyPart_string] at built
    split at built
    · simp only [bind_eq_ok, pure_eq_ok] at built
      obtain ⟨headers, read, rfl⟩ := built
      exact carried _ _ (reason_ended _) (headerLines_broken read)
    · simp only [pure_bind, pure_eq_ok] at built
      obtain rfl := built
      exact carried _ _ (reason_ended _) (.inl rfl)
  · simp at built

end Builders

/-! ## Strings that cross the boundary as C strings -/

def okLine : Bytes := ascii "HTTP/1.1 200 OK" ++ crlf

theorem listenerBuild_string {lua : LuaLibrary} {args : List LuaValue} {text : Bytes}
    (given : buildArgument args = .string text) : listenerBuild lua args =
      .ok (okLine ++ (fieldLine (lengthField text) ++ (headerEnd ++ cString text))) := by
  have start : ascii "HTTP/1.1 200 OK\r\nContent-Length: " =
      okLine ++ (ascii "Content-Length" ++ ascii ": ") := by decide
  rw [listenerBuild, given, start]
  simp [LuaValue.isTable, LuaValue.text?, fieldLine, lengthField, toText_natCast]

/-- A C string that is cut short leaves no place for the whole body behind a broken line. -/
theorem not_carries_of_cut {text : Bytes} (zero : (0 : UInt8) ∈ text) :
    ¬ Carries (okLine ++ (fieldLine (lengthField text) ++ (headerEnd ++ cString text))) text := by
  rintro ⟨front, same, broken, -⟩
  have cut : (cString text).length < text.length := by
    have shorter := cString_front text
    have differs : cString text ≠ text := fun all => cString_eq_iff.mp all zero
    exact Nat.lt_of_le_of_ne shorter.length_le fun size => differs (shorter.eq_of_length size)
  have sizes := congrArg List.length same
  simp only [List.length_append] at sizes
  have start : front <+: okLine ++ (fieldLine (lengthField text) ++ (headerEnd ++ cString text)) := by
    rw [same]
    exact List.prefix_append _ _
  have within : front <+: okLine :=
    List.prefix_of_prefix_length_le start (List.prefix_append _ _) (by omega)
  have early : front <+: ascii "HTTP/1.1 200 OK" ++ [13] := by
    apply List.prefix_of_prefix_length_le within (show _ <+: okLine from ⟨[10], by decide⟩)
    have size : okLine.length = (ascii "HTTP/1.1 200 OK" ++ [13]).length + 1 := by decide
    omega
  have feed : (10 : UInt8) ∈ front := broken.subset (by decide)
  exact absurd (early.subset feed) (by decide)

/-- What is sent as a string arrives whole, and so do the bodies of the messages built. -/
structure BinarySafe (text : Bytes) : Prop where
  sends : ∀ lua, connectionSend lua (.string text) = .ok text
  answers : ∀ lua, listenerSend lua (.string text) = .ok text
  requests : ∀ lua host table message, table.getField "body" = .string text →
    requestBuilder lua host table = .ok message → Carries message text
  responses : ∀ lua table message, table.getField "body" = .string text →
    responseBuilder lua table = .ok message → Carries message text
  builds : ∀ lua args message,
    (buildArgument args).getField "body" = .string text ∨ buildArgument args = .string text →
    listenerBuild lua args = .ok message → Carries message text

theorem binarySafe_iff (text : Bytes) : BinarySafe text ↔ (0 : UInt8) ∉ text := by
  constructor
  · intro safe
    have whole : cString text = text := Except.ok.inj (safe.sends .whole)
    exact cString_eq_iff.mp whole
  · intro clean
    have whole : cString text = text := cString_clean clean
    refine ⟨fun lua => congrArg Except.ok whole, fun _ => rfl,
      fun _ _ _ _ given => requestBuilder_carries given,
      fun _ _ _ given => responseBuilder_carries given, ?_⟩
    rintro lua args message (given | given) built
    · cases value : buildArgument args with
      | table entries =>
          rw [listenerBuild, value] at built
          rw [value] at given
          exact responseBuilder_carries given built
      | _ => simp [value, LuaValue.getField] at given
    · rw [listenerBuild_string given, whole] at built
      obtain rfl := Except.ok.inj built
      exact carries_of_front (List.suffix_append _ _)

/-- What `connection:send` makes of a byte before and after a zero, and `build` of the same body. -/
theorem binarySafe_fails : connectionSend .whole (.string [97, 0, 98]) = .ok [97] ∧
    listenerBuild .whole [.string [97, 0, 98]] =
      .ok (ascii "HTTP/1.1 200 OK\r\nContent-Length: 3\r\n\r\na") ∧
    ¬ BinarySafe [97, 0, 98] := by
  refine ⟨by decide, by decide, fun safe => ?_⟩
  exact not_carries_of_cut (by decide)
    (safe.builds .whole [.string [97, 0, 98]] _ (.inr rfl) (listenerBuild_string rfl))

end LuaXENetwork
