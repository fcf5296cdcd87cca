import LuaXENetwork.Library.Search
import LuaXENetwork.Library.Numeral
import Mathlib.Data.List.DropRight

/-! The string operations of the sources: `std::string`, the C locale and the number readers. -/

namespace LuaXENetwork
open Library

abbrev Bytes := List UInt8

/-- UTF-16 code units, a `std::wstring`. -/
abbrev WString := List UInt16

/-- The bytes of a literal of the sources. -/
def ascii (s : String) : Bytes := s.toList.map fun c => UInt8.ofNat c.toNat

/-- Literals are lists of letters here: nothing has to be decoded. -/
theorem ascii_ofList (letters : List Char) :
    ascii (String.ofList letters) = letters.map fun c => UInt8.ofNat c.toNat := by
  rw [ascii, String.toList_ofList]

def wide (s : String) : WString := s.toList.map fun c => UInt16.ofNat c.toNat

def crlf : Bytes := [13, 10]

def headerEnd : Bytes := [13, 10, 13, 10]

/-- `size_t` arithmetic. -/
def sizeT (n : Nat) : Nat := n % 2 ^ 64

theorem sizeT_small {n : Nat} (h : n < 2 ^ 64) : sizeT n = n := Nat.mod_eq_of_lt h

/-- Narrowing to a 32-bit `int`. -/
def toInt32 (n : Int) : Int := (n + 2 ^ 31) % 2 ^ 32 - 2 ^ 31

/-- What a `const char*` shows of a string. -/
def cString (s : Bytes) : Bytes := s.takeWhile (· != 0)

theorem notMem_cString (s : Bytes) : (0 : UInt8) ∉ cString s :=
  fun member => by simpa using List.mem_takeWhile_imp member

theorem cString_clean {s : Bytes} (clean : (0 : UInt8) ∉ s) : cString s = s := by
  rw [cString, List.takeWhile_eq_self_iff]
  exact fun byte member => bne_iff_ne.mpr fun null => clean (null ▸ member)

theorem cString_eq_iff {s : Bytes} : cString s = s ↔ (0 : UInt8) ∉ s := by
  constructor
  · intro same
    rw [← same]
    exact notMem_cString s
  · exact cString_clean

theorem cString_append {front : Bytes} (clean : (0 : UInt8) ∉ front) (s : Bytes) :
    cString (front ++ s) = front ++ cString s := by
  rw [cString, List.takeWhile_append_of_pos]
  · rfl
  · exact fun byte member => bne_iff_ne.mpr fun null => clean (null ▸ member)

theorem cString_front (s : Bytes) : cString s <+: s := List.takeWhile_prefix _

/-- The characters `" \t\r\n"`. -/
def isBlank (b : UInt8) : Bool := b == 32 || b == 9 || b == 13 || b == 10

def trimAscii (value : Bytes) : Bytes := (value.dropWhile isBlank).rdropWhile isBlank

/-- `std::tolower` in the C locale. -/
def lowerByte (b : UInt8) : UInt8 := if 65 ≤ b ∧ b ≤ 90 then b + 32 else b

def lowerAscii (value : Bytes) : Bytes := value.map lowerByte

/-- `std::isspace` in the C locale. -/
def isSpace (b : UInt8) : Bool := b == 32 || (9 ≤ b && b ≤ 13)

/-- `std::to_string` of a signed integer. -/
def toText (n : Int) : Bytes :=
  if n < 0 then 45 :: decimal n.natAbs else decimal n.natAbs

/-- The lines a `find("\r\n", position)` cursor loop visits: an empty rest is no line. -/
def cursorLines (block : Bytes) : List Bytes :=
  if block = [] then []
  else match find crlf block with
    | none => [block]
    | some finish => block.take finish :: cursorLines (block.drop (finish + 2))
termination_by block.length
decreasing_by
  have := List.length_pos_iff.mpr ‹¬ block = []›
  simp only [List.length_drop]
  omega

/-! ## The C number readers -/

/-- What `strtol` and `strtoull` take from the front of a text. -/
structure Numeral where
  negative : Bool
  magnitude : Nat
  used : Nat

def hasHexPrefix (text : Bytes) : Bool :=
  match text with
  | zero :: x :: digit :: _ => zero == 48 && (x == 120 || x == 88) && isDigit 16 digit
  | _ => false

/-- The longest numeral of the base at the front: blanks, one sign, `0x` in base 16, digits. -/
def readNumeral (base : Nat) (text : Bytes) : Option Numeral :=
  let spaces := (text.takeWhile isSpace).length
  let unspaced := text.drop spaces
  let sign := if unspaced.head? = some 45 ∨ unspaced.head? = some 43 then 1 else 0
  let unsigned := unspaced.drop sign
  let mark := if base = 16 ∧ hasHexPrefix unsigned then 2 else 0
  let digits := (unsigned.drop mark).takeWhile (isDigit base)
  if digits = [] then none
  else some {
    negative := unspaced.head? = some 45
    magnitude := fromDigits base digits
    used := spaces + sign + mark + digits.length }

/-- `std::stoull`: the value, and how many characters it took. -/
def stoull (base : Nat) (text : Bytes) : Except Bytes (Nat × Nat) :=
  match readNumeral base (cString text) with
  | none => .error (ascii "invalid stoull argument")
  | some numeral =>
      if 2 ^ 64 ≤ numeral.magnitude then .error (ascii "stoull argument out of range")
      else .ok (if numeral.negative then sizeT (2 ^ 64 - numeral.magnitude) else numeral.magnitude,
        numeral.used)

/-- `std::stoi`. -/
def stoi (text : Bytes) : Except Bytes Int :=
  match readNumeral 10 (cString text) with
  | none => .error (ascii "invalid stoi argument")
  | some numeral =>
      let value : Int := if numeral.negative then -numeral.magnitude else numeral.magnitude
      if value < -2 ^ 31 ∨ 2 ^ 31 ≤ value then .error (ascii "stoi argument out of range")
      else .ok value

end LuaXENetwork
