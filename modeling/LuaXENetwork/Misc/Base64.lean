import LuaXENetwork.Text

/-! `base64_encode` and `base64_decode`. -/

namespace LuaXENetwork
open Library

namespace Base64

/-- `base64_chars`. -/
def chars (url : Bool) : Bytes :=
  ascii "ABCDEFGHIJKLMNOPQRSTUVWXYZabcdefghijklmnopqrstuvwxyz0123456789"
    ++ (if url then ascii "-_" else ascii "+/")

/-- The one `throw`, or a read behind the null that ends the string. -/
inductive Failure where
  | thrown
  | outOfRange
deriving DecidableEq, Repr

def posOfChar (chr : UInt8) : Except Failure Nat :=
  if 65 ≤ chr ∧ chr ≤ 90 then .ok (chr.toNat - 65)
  else if 97 ≤ chr ∧ chr ≤ 122 then .ok (chr.toNat - 97 + (90 - 65) + 1)
  else if 48 ≤ chr ∧ chr ≤ 57 then .ok (chr.toNat - 48 + (90 - 65) + (122 - 97) + 2)
  -- Either alphabet is taken, whatever the flag was.
  else if chr = 43 ∨ chr = 45 then .ok 62
  else if chr = 47 ∨ chr = 95 then .ok 63
  else .error .thrown

/-- The loop `while (pos < str.size())`. -/
def insertLoop (distance : Nat) [NeZero distance] (str : Bytes) (pos : Nat) : Bytes :=
  if pos < str.length then insertLoop distance (str.take pos ++ [10] ++ str.drop pos) (pos + (distance + 1))
  else str
termination_by str.length - pos
decreasing_by
  have := NeZero.ne distance
  simp only [List.length_append, List.length_take, List.length_drop, List.length_cons, List.length_nil]
  omega

def insertLinebreaks (str : Bytes) (distance : Nat) [NeZero distance] : Bytes :=
  if str = [] then [] else insertLoop distance str distance

/-- What one turn of the encoding loop appends. -/
def encodeGroup (url : Bool) (bytes : Bytes) (pos : UInt32) : Bytes :=
  let at_ (i : UInt32) : UInt8 := bytes.getD i.toNat 0
  let char (i : UInt8) : UInt8 := (chars url).getD i.toNat 0
  let trailing : UInt8 := if url then 46 else 61
  char ((at_ pos &&& 0xfc) >>> 2) ::
    if (pos + 1).toNat < bytes.length then
      char (((at_ pos &&& 0x03) <<< 4) + ((at_ (pos + 1) &&& 0xf0) >>> 4)) ::
        if (pos + 2).toNat < bytes.length then
          [char (((at_ (pos + 1) &&& 0x0f) <<< 2) + ((at_ (pos + 2) &&& 0xc0) >>> 6)),
            char (at_ (pos + 2) &&& 0x3f)]
        else [char ((at_ (pos + 1) &&& 0x0f) <<< 2), trailing]
    else [char ((at_ pos &&& 0x03) <<< 4), trailing, trailing]

/-- The encoding loop: `pos` has 32 bits, so after 2^32 turns it has come round and never ends. -/
def encodeLoop (url : Bool) (bytes : Bytes) : Nat → UInt32 → Option Bytes
  | 0, _ => none
  | turns + 1, pos =>
      if pos.toNat < bytes.length then (encodeGroup url bytes pos ++ ·) <$> encodeLoop url bytes turns (pos + 3)
      else some []

/-- `encoded_string[index]`. -/
def charAt (encoded : Bytes) (index : Nat) : Except Failure UInt8 :=
  if index = encoded.length then .ok 0
  else match encoded[index]? with
    | some chr => .ok chr
    | none => .error .outOfRange

def isPadding (chr : UInt8) : Bool := chr == 61 || chr == 46

/-- What one turn of the decoding loop appends. -/
def decodeGroup (encoded : Bytes) (pos : Nat) : Except Failure Bytes := do
  let posOfChar1 ← posOfChar (← charAt encoded (pos + 1))
  let posOfChar0 ← posOfChar (← charAt encoded pos)
  let first := UInt8.ofNat ((posOfChar0 <<< 2) + ((posOfChar1 &&& 0x30) >>> 4))
  let chr2 ← charAt encoded (pos + 2)
  if isPadding chr2 then return [first]
  else
    let posOfChar2 ← posOfChar chr2
    let second := UInt8.ofNat (((posOfChar1 &&& 0x0f) <<< 4) + ((posOfChar2 &&& 0x3c) >>> 2))
    let chr3 ← charAt encoded (pos + 3)
    if isPadding chr3 then return [first, second]
    else
      let posOfChar3 ← posOfChar chr3
      return [first, second, UInt8.ofNat (((posOfChar2 &&& 0x03) <<< 6) + posOfChar3)]

def decodeLoop (encoded : Bytes) (pos : Nat) : Except Failure Bytes :=
  if pos < encoded.length then do
    let group ← decodeGroup encoded pos
    let rest ← decodeLoop encoded (pos + 4)
    return group ++ rest
  else return []
termination_by encoded.length - pos

/-- The loop that erases each line break from `pos` on. -/
def eraseLinebreaks (copy : Bytes) (pos : Nat) : Bytes :=
  match _found : find [10] (copy.drop pos) with
  | none => copy
  | some i => eraseLinebreaks (copy.take (pos + i) ++ copy.drop (pos + i + 1)) (pos + i)
termination_by copy.length
decreasing_by
  have inside := add_length_le_of_find _found
  simp only [List.length_drop, List.length_append, List.length_take, List.length_cons, List.length_nil] at *
  omega

end Base64

/-- None when it never ends. -/
def base64Encode (s : Bytes) (url : Bool) : Option Bytes := Base64.encodeLoop url s (2 ^ 32 + 1) 0

def base64EncodePem (s : Bytes) : Option Bytes := (base64Encode s false).map (Base64.insertLinebreaks · 64)

def base64EncodeMime (s : Bytes) : Option Bytes := (base64Encode s false).map (Base64.insertLinebreaks · 76)

def base64Decode (s : Bytes) (removeLinebreaks : Bool) : Except Base64.Failure Bytes :=
  if removeLinebreaks then
    if s = [] then .ok [] else Base64.decodeLoop (Base64.eraseLinebreaks s 0) 0
  else Base64.decodeLoop s 0

end LuaXENetwork
