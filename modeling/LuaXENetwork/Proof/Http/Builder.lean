import LuaXENetwork.Http.Builder
import LuaXENetwork.Http.Response
import LuaXENetwork.Library.Except
import LuaXENetwork.Proof.Http.HeaderBlock

/-! What the builders print, and how the readers of the response head take it apart again. -/

namespace LuaXENetwork
open Library

/-! ## Printing -/

/-- The entries of a header table, and the texts their keys and values are written as. -/
def Writes (lua : LuaLibrary) (entries : LuaTable) (fields : HeaderList) : Prop :=
  List.Forall₂ (fun entry field => entry.1 = .string field.1 ∧ entry.2.text? lua = some field.2)
    entries fields

def fieldLine (field : Bytes × Bytes) : Bytes := field.1 ++ ascii ": " ++ field.2

def lengthField (body : Bytes) : Bytes × Bytes := (ascii "Content-Length", decimal body.length)

theorem headerLines_writes {lua : LuaLibrary} (table : LuaTable) {entries : LuaTable}
    {fields : HeaderList} (writes : Writes lua entries fields)
    (clean : ∀ field ∈ fields, (0 : UInt8) ∉ field.1 ∧ (0 : UInt8) ∉ field.2) :
    headerLines lua table entries.length entries =
      .ok ((fields.map fieldLine).flatMap (· ++ crlf)) := by
  induction writes with
  | nil => rfl
  | @cons entry field entries fields is _ ih =>
      obtain ⟨key, value⟩ := entry
      obtain ⟨rfl, text⟩ := is
      obtain ⟨name, nul⟩ := clean field (by simp)
      rw [List.length_cons, headerLines]
      simp only [LuaValue.toString?, text, Option.map_some, cString_clean name, cString_clean nul,
        pure_bind, ih fun field member => clean field (by simp [member]), ok_bind]
      simp [fieldLine, List.flatMap_cons, pure, Except.pure]

theorem toText_natCast (n : Nat) : toText n = decimal n := by
  rw [toText, if_neg (by omega), Int.natAbs_natCast]

theorem bodyPart_string (body : Bytes) :
    bodyPart (.string body) = fieldLine (lengthField body) ++ (headerEnd ++ body) := by
  have name : ascii "Content-Length: " = ascii "Content-Length" ++ ascii ": " := by decide
  rw [bodyPart, name, toText_natCast]
  simp [fieldLine, lengthField]

/-! ## Reading numbers back -/

theorem decimal_letter {n : Nat} {b : UInt8} (member : b ∈ decimal n) :
    isSpace b = false ∧ isBlank b = false ∧ b ≠ 0 ∧ b ≠ 10 ∧ b ≠ 13 ∧ b ≠ 43 ∧ b ≠ 45 := by
  obtain ⟨d, small, rfl⟩ := mem_decimal member
  interval_cases d <;> decide

theorem readNumeral_decimal (spaces : Bytes) (n : Nat) (rest : Bytes)
    (blank : ∀ b ∈ spaces, isSpace b = true) (stops : ∀ b ∈ rest.head?, isDigit 10 b = false) :
    readNumeral 10 (spaces ++ (decimal n ++ rest)) =
      some ⟨false, n, spaces.length + (decimal n).length⟩ := by
  obtain ⟨d, ds, digits⟩ := List.exists_cons_of_ne_nil (decimal_ne_nil n)
  obtain ⟨notSpace, -, -, -, -, notPlus, notMinus⟩ :=
    decimal_letter (n := n) (b := d) (by simp [digits])
  have start : (decimal n ++ rest).takeWhile isSpace = [] := by simp [digits, notSpace]
  have spaced : ((spaces ++ (decimal n ++ rest)).takeWhile isSpace).length = spaces.length := by
    rw [List.takeWhile_append_of_pos blank, start, List.append_nil]
  have signless : ¬ ((decimal n ++ rest).head? = some 45 ∨ (decimal n ++ rest).head? = some 43) := by
    simp [digits, notMinus, notPlus]
  have unsigned : ¬ (decimal n ++ rest).head? = some 45 := fun sign => signless (.inl sign)
  simp only [readNumeral, spaced, List.drop_left, if_neg signless, List.drop_zero]
  simp only [show ¬ (10 = 16 ∧ hasHexPrefix (decimal n ++ rest) = true) by simp, if_false,
    List.drop_zero, takeWhile_decimal n stops, if_neg (decimal_ne_nil n), unsigned, decide_false,
    fromDigits_decimal, Nat.add_zero]

theorem zero_notMem_decimal (n : Nat) : (0 : UInt8) ∉ decimal n := fun member =>
  (decimal_letter member).2.2.1 rfl

theorem stoull_decimal {n : Nat} (small : n < 2 ^ 64) :
    stoull 10 (decimal n) = .ok (n, (decimal n).length) := by
  have read := readNumeral_decimal [] n [] (by simp) (by simp)
  rw [List.nil_append, List.append_nil] at read
  rw [stoull, cString_clean (zero_notMem_decimal n), read]
  simp only
  rw [if_neg (by omega)]
  simp

/-! ## Reading the status line back -/

theorem extractWord_word {word : Bytes} (rest : Bytes) (nonempty : word ≠ [])
    (solid : ∀ b ∈ word, isSpace b = false) (stops : ∀ b ∈ rest.head?, isSpace b = true) :
    extractWord (word ++ rest) = some (word, rest) := by
  obtain ⟨b, bs, rfl⟩ := List.exists_cons_of_ne_nil nonempty
  have unspaced : (b :: bs ++ rest).dropWhile isSpace = b :: bs ++ rest := by
    simp [solid b (by simp)]
  have solid' : ∀ c ∈ b :: bs, (!isSpace c) = true := fun c member => by simp [solid c member]
  have halts : rest.takeWhile (!isSpace ·) = [] ∧ rest.dropWhile (!isSpace ·) = rest := by
    cases rest with
    | nil => simp
    | cons c rest => simp [stops c (by simp)]
  simp only [extractWord, unspaced]
  rw [if_neg (by simp), List.takeWhile_append_of_pos solid', List.dropWhile_append_of_pos solid',
    halts.1, halts.2, List.append_nil]

theorem extractInt_decimal {n : Nat} (small : n < 2 ^ 31) (rest : Bytes)
    (stops : ∀ b ∈ rest.head?, isDigit 10 b = false) :
    extractInt (32 :: (decimal n ++ rest)) = ((n : Int), some rest) := by
  have read := readNumeral_decimal [32] n rest (by decide +kernel) stops
  rw [List.singleton_append] at read
  have after : (32 :: (decimal n ++ rest)).drop (1 + (decimal n).length) = rest := by
    rw [Nat.add_comm, List.drop_succ_cons, List.drop_left]
  simp only [extractInt, read, Bool.false_eq_true, if_false, List.length_singleton, after]
  rw [if_neg (by omega), if_neg (by omega)]

theorem getLine_clean {s : Bytes} (noFeed : (10 : UInt8) ∉ s) : getLine s = s := by
  rw [getLine, List.takeWhile_eq_self_iff]
  intro b member
  have differs : b ≠ 10 := fun same => noFeed (same ▸ member)
  simpa using differs

def statusLine (version : Bytes) (status : Nat) (reason : Bytes) : Bytes :=
  version ++ 32 :: (decimal status ++ 32 :: reason)

theorem readStatusLine_statusLine {version reason : Bytes} {status : Nat} (nonempty : version ≠ [])
    (solid : ∀ b ∈ version, isSpace b = false) (small : status < 2 ^ 31)
    (noFeed : (10 : UInt8) ∉ reason) :
    readStatusLine (statusLine version status reason) = ⟨version, status, 32 :: reason⟩ := by
  have word := extractWord_word (32 :: (decimal status ++ 32 :: reason)) nonempty solid
    (by simp [isSpace])
  have number := extractInt_decimal small (32 :: reason) (by simp [isDigit, digitValue])
  have line : getLine (32 :: reason) = 32 :: reason := getLine_clean (by simp [noFeed])
  simp only [readStatusLine, statusLine, word, number, line]

end LuaXENetwork
