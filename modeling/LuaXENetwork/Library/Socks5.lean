import Mathlib.Tactic.Common

/-!
# SOCKS5 messages

What a server makes of the messages that RFC 1928 and RFC 1929 let a client send.
-/

namespace LuaXENetwork.Library.Socks5

/-- The bytes that the first octet counts, at least one, and what follows them. -/
def takeCounted : List UInt8 → Option (List UInt8 × List UInt8)
  | [] => none
  | count :: bytes =>
      if count.toNat = 0 ∨ bytes.length < count.toNat then none
      else some (bytes.take count.toNat, bytes.drop count.toNat)

/-- A client's list of the methods it offers. -/
def decodeMethods : List UInt8 → Option (List UInt8)
  | 0x05 :: rest => do
      let (methods, rest) ← takeCounted rest
      if rest = [] then some methods else none
  | _ => none

/-- A user name and a password. -/
def decodeCredentials : List UInt8 → Option (List UInt8 × List UInt8)
  | 0x01 :: rest => do
      let (user, rest) ← takeCounted rest
      let (password, rest) ← takeCounted rest
      if rest = [] then some (user, password) else none
  | _ => none

inductive Address where
  | inet (bytes : List UInt8)
  | name (bytes : List UInt8)
  | inet6 (bytes : List UInt8)
deriving DecidableEq, Repr

structure Request where
  command : UInt8
  address : Address
  port : Nat
deriving DecidableEq, Repr

def decodeAddress : List UInt8 → Option (Address × List UInt8)
  | 0x01 :: rest => if rest.length < 4 then none else some (.inet (rest.take 4), rest.drop 4)
  | 0x03 :: rest => do
      let (name, rest) ← takeCounted rest
      return (.name name, rest)
  | 0x04 :: rest => if rest.length < 16 then none else some (.inet6 (rest.take 16), rest.drop 16)
  | _ => none

/-- The port stands in network order behind the address. -/
def decodeRequest : List UInt8 → Option Request
  | 0x05 :: command :: 0x00 :: rest => do
      let (address, rest) ← decodeAddress rest
      match rest with
      | [high, low] => some ⟨command, address, high.toNat * 256 + low.toNat⟩
      | _ => none
  | _ => none

/-! ## Reading messages back -/

theorem takeCounted_cons {field : List UInt8} (nonempty : field ≠ []) (fits : field.length ≤ 255)
    (rest : List UInt8) :
    takeCounted (UInt8.ofNat field.length :: (field ++ rest)) = some (field, rest) := by
  have count : (UInt8.ofNat field.length).toNat = field.length := by
    rw [UInt8.toNat_ofNat']
    omega
  have some_bytes : field.length ≠ 0 := by simpa using nonempty
  rw [takeCounted, count, if_neg (by simp [some_bytes]), List.take_left, List.drop_left]

theorem takeCounted_zero (bytes : List UInt8) : takeCounted (0 :: bytes) = none := by
  rw [takeCounted, if_pos (.inl rfl)]

theorem decodeCredentials_cons {user password : List UInt8} (named : user ≠ []) (user_fits : user.length ≤ 255)
    (given : password ≠ []) (password_fits : password.length ≤ 255) :
    decodeCredentials (0x01 :: UInt8.ofNat user.length ::
      (user ++ UInt8.ofNat password.length :: password)) = some (user, password) := by
  have second := takeCounted_cons given password_fits []
  rw [List.append_nil] at second
  simp only [decodeCredentials, takeCounted_cons named user_fits, second, Option.bind_eq_bind,
    Option.bind_some, if_true]

theorem decodeCredentials_empty {user : List UInt8} (named : user ≠ []) (user_fits : user.length ≤ 255) :
    decodeCredentials (0x01 :: UInt8.ofNat user.length :: (user ++ [0])) = none := by
  simp only [decodeCredentials, takeCounted_cons named user_fits, takeCounted_zero,
    Option.bind_eq_bind, Option.bind_some, Option.bind_none]

namespace Address

/-- The address with its type in front. -/
def encode : Address → List UInt8
  | inet bytes => 0x01 :: bytes
  | name bytes => 0x03 :: UInt8.ofNat bytes.length :: bytes
  | inet6 bytes => 0x04 :: bytes

def Valid : Address → Prop
  | inet bytes => bytes.length = 4
  | name bytes => bytes ≠ [] ∧ bytes.length ≤ 255
  | inet6 bytes => bytes.length = 16

end Address

theorem decodeAddress_encode {address : Address} (valid : address.Valid) (rest : List UInt8) :
    decodeAddress (address.encode ++ rest) = some (address, rest) := by
  cases address with
  | inet bytes =>
      have whole : bytes.length = 4 := valid
      have enough : ¬ (bytes ++ rest).length < 4 := by
        rw [List.length_append]
        omega
      simp only [Address.encode, List.cons_append, decodeAddress, if_neg enough]
      rw [← whole, List.take_left, List.drop_left]
  | name bytes =>
      simp only [Address.encode, List.cons_append, decodeAddress, takeCounted_cons valid.1 valid.2]
      rfl
  | inet6 bytes =>
      have whole : bytes.length = 16 := valid
      have enough : ¬ (bytes ++ rest).length < 16 := by
        rw [List.length_append]
        omega
      simp only [Address.encode, List.cons_append, decodeAddress, if_neg enough]
      rw [← whole, List.take_left, List.drop_left]

theorem decodeRequest_encode {address : Address} (valid : address.Valid) (command : UInt8)
    {port : Nat} (fits : port < 65536) :
    decodeRequest ([0x05, command, 0x00] ++ address.encode ++
      [UInt8.ofNat (port / 256), UInt8.ofNat port]) = some ⟨command, address, port⟩ := by
  have octets : (UInt8.ofNat (port / 256)).toNat * 256 + (UInt8.ofNat port).toNat = port := by
    rw [UInt8.toNat_ofNat', UInt8.toNat_ofNat']
    omega
  rw [List.append_assoc, List.cons_append, List.cons_append, List.cons_append, List.nil_append]
  simp only [decodeRequest, decodeAddress_encode valid, Option.bind_eq_bind, Option.bind_some, octets]

end LuaXENetwork.Library.Socks5
