import LuaXENetwork.Socket.Winsock
import LuaXENetwork.Tls.Verify

/-! The class `MD5` and the function `md5`. -/

namespace LuaXENetwork
namespace Md5

def F (x y z : UInt32) : UInt32 := x &&& y ||| ~~~x &&& z
def G (x y z : UInt32) : UInt32 := x &&& z ||| y &&& ~~~z
def H (x y z : UInt32) : UInt32 := x ^^^ y ^^^ z
def I (x y z : UInt32) : UInt32 := y ^^^ (x ||| ~~~z)

def rotateLeft (x n : UInt32) : UInt32 := x <<< n ||| x >>> (32 - n)

/-- What `FF`, `GG`, `HH` and `II` make of `a`, each with a function of its own. -/
def mixed (f : UInt32 → UInt32 → UInt32 → UInt32) (a b c d x s ac : UInt32) : UInt32 :=
  rotateLeft (a + f b c d + x + ac) s + b

def FF := mixed F
def GG := mixed G
def HH := mixed H
def II := mixed I

/-- The words of a block, low byte first. -/
def decode : Bytes → List UInt32
  | b0 :: b1 :: b2 :: b3 :: rest =>
      (b0.toUInt32 ||| b1.toUInt32 <<< 8 ||| b2.toUInt32 <<< 16 ||| b3.toUInt32 <<< 24) :: decode rest
  | _ => []

def encode (words : List UInt32) : Bytes :=
  words.flatMap fun (word : UInt32) =>
    [word.toUInt8, (word >>> 8).toUInt8, (word >>> 16).toUInt8, (word >>> 24).toUInt8]

structure State where
  a : UInt32
  b : UInt32
  c : UInt32
  d : UInt32
deriving DecidableEq, Repr

def State.words (r : State) : List UInt32 := [r.a, r.b, r.c, r.d]

/-- One of the 64 calls. The next one names the registers `d, a, b, c` where this one has `a, b, c, d`. -/
def State.step (mix : UInt32 → UInt32 → UInt32 → UInt32 → UInt32 → UInt32 → UInt32 → UInt32)
    (x : List UInt32) (r : State) (call : UInt32 × Nat × UInt32) : State :=
  ⟨r.d, mix r.a r.b r.c r.d (x.getD call.2.1 0) call.1 call.2.2, r.b, r.c⟩

/-- The sixteen calls of a round; the shifts come round after four. -/
def State.round (mix : UInt32 → UInt32 → UInt32 → UInt32 → UInt32 → UInt32 → UInt32 → UInt32)
    (shifts : List UInt32) (calls : List (Nat × UInt32)) (x : List UInt32) (r : State) : State :=
  ((List.replicate 4 shifts).flatten.zip calls).foldl (State.step mix x) r

def round1 : List (Nat × UInt32) := [
  (0, 0xd76aa478), (1, 0xe8c7b756), (2, 0x242070db), (3, 0xc1bdceee),
  (4, 0xf57c0faf), (5, 0x4787c62a), (6, 0xa8304613), (7, 0xfd469501),
  (8, 0x698098d8), (9, 0x8b44f7af), (10, 0xffff5bb1), (11, 0x895cd7be),
  (12, 0x6b901122), (13, 0xfd987193), (14, 0xa679438e), (15, 0x49b40821)]

def round2 : List (Nat × UInt32) := [
  (1, 0xf61e2562), (6, 0xc040b340), (11, 0x265e5a51), (0, 0xe9b6c7aa),
  (5, 0xd62f105d), (10, 0x02441453), (15, 0xd8a1e681), (4, 0xe7d3fbc8),
  (9, 0x21e1cde6), (14, 0xc33707d6), (3, 0xf4d50d87), (8, 0x455a14ed),
  (13, 0xa9e3e905), (2, 0xfcefa3f8), (7, 0x676f02d9), (12, 0x8d2a4c8a)]

def round3 : List (Nat × UInt32) := [
  (5, 0xfffa3942), (8, 0x8771f681), (11, 0x6d9d6122), (14, 0xfde5380c),
  (1, 0xa4beea44), (4, 0x4bdecfa9), (7, 0xf6bb4b60), (10, 0xbebfbc70),
  (13, 0x289b7ec6), (0, 0xeaa127fa), (3, 0xd4ef3085), (6, 0x04881d05),
  (9, 0xd9d4d039), (12, 0xe6db99e5), (15, 0x1fa27cf8), (2, 0xc4ac5665)]

def round4 : List (Nat × UInt32) := [
  (0, 0xf4292244), (7, 0x432aff97), (14, 0xab9423a7), (5, 0xfc93a039),
  (12, 0x655b59c3), (3, 0x8f0ccc92), (10, 0xffeff47d), (1, 0x85845dd1),
  (8, 0x6fa87e4f), (15, 0xfe2ce6e0), (6, 0xa3014314), (13, 0x4e0811a1),
  (4, 0xf7537e82), (11, 0xbd3af235), (2, 0x2ad7d2bb), (9, 0xeb86d391)]

def State.transform (r : State) (block : Bytes) : State :=
  let x := decode block
  let mixed := r.round FF [7, 12, 17, 22] round1 x |>.round GG [5, 9, 14, 20] round2 x
    |>.round HH [4, 11, 16, 23] round3 x |>.round II [6, 10, 15, 21] round4 x
  ⟨r.a + mixed.a, r.b + mixed.b, r.c + mixed.c, r.d + mixed.d⟩

def State.magic : State := ⟨0x67452301, 0xefcdab89, 0x98badcfe, 0x10325476⟩

end Md5

/-- An `MD5` object; `count` is the number of bits, low word first. -/
structure Md5 where
  finalized : Bool
  buffer : Bytes
  count : UInt32 × UInt32
  state : Md5.State
  digest : Bytes
  buffer_length : buffer.length = 64

namespace Md5

/-- The constructor, on memory of any content. -/
def init (m : Md5) : Md5 := { m with finalized := false, count := (0, 0), state := .magic }

/-- What `memcpy` reads behind a pointer; none when the memory ends before. -/
def readAt (memory : Bytes) (start count : Nat) : Option Bytes :=
  if start + count ≤ memory.length then some ((memory.drop start).take count) else none

/-- `memcpy(&buffer[index], ...)`; none when it writes behind the buffer. -/
def copyTo (m : Md5) (index : Nat) (data : Bytes) : Option Md5 :=
  if fits : index + data.length ≤ m.buffer.length then
    some { m with
      buffer := overwrite m.buffer index data
      buffer_length := by
        simp only [overwrite, List.length_append, List.length_take, List.length_drop]
        have := m.buffer_length
        omega }
  else none

/-- The loop over whole blocks. It has come round after 2^26 turns, and then it never ends. -/
def transformAll (input : Bytes) (length : UInt32) : Nat → UInt32 → State → Option (UInt32 × State)
  | 0, _, _ => none
  | turns + 1, i, state =>
      if i + 64 ≤ length then do
        let block ← readAt input i.toNat 64
        transformAll input length turns (i + 64) (state.transform block)
      else some (i, state)

/-- `update(input, length)`; none if it leaves the memory behind `input` or does not end. -/
def update (m : Md5) (input : Bytes) (length : UInt32) : Option Md5 := do
  let index := m.count.1 / 8 % 64
  let low := m.count.1 + (length <<< 3)
  let high := if low < length <<< 3 then m.count.2 + 1 else m.count.2
  let m := { m with count := (low, high + (length >>> 29)) }
  let firstpart := 64 - index
  if firstpart ≤ length then
    let m ← m.copyTo index.toNat (← readAt input 0 firstpart.toNat)
    let (i, state) ← transformAll input length (2 ^ 26 + 1) firstpart (m.state.transform m.buffer)
    { m with state := state }.copyTo 0 (← readAt input i.toNat (length - i).toNat)
  else m.copyTo index.toNat (← readAt input 0 length.toNat)

def padding : Bytes := 0x80 :: List.replicate 63 0

def finalize (m : Md5) : Option Md5 :=
  if m.finalized then some m
  else do
    let bits := encode [m.count.1, m.count.2]
    let index := m.count.1 / 8 % 64
    let padLen := if index < 56 then 56 - index else 120 - index
    let m ← m.update padding padLen
    let m ← m.update bits 8
    return { m with
      digest := encode m.state.words
      buffer := List.replicate 64 0
      count := (0, 0)
      finalized := true
      buffer_length := List.length_replicate }

/-- `sprintf("%02x", ...)` of each byte. -/
def hexText (digest : Bytes) : Bytes :=
  digest.flatMap fun byte => [hexDigitText (byte.toNat / 16), hexDigitText (byte.toNat % 16)]

def hexdigest (m : Md5) : Bytes := if m.finalized then hexText m.digest else []

end Md5

end LuaXENetwork
