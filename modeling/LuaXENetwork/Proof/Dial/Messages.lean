import LuaXENetwork.Dial.Socks5

/-! What the messages to a SOCKS5 proxy are made of. -/

namespace LuaXENetwork
open Library

theorem resolveLocally_length {platform : Platform} {host : WString} {resolved : Bytes}
    (found : resolveLocally platform host = some resolved) :
    resolved.length = 4 ∨ resolved.length = 16 := by
  unfold resolveLocally at found
  extract_lets pick at found
  have picked {family : AddressFamily} {wanted : Nat} {entries : List AddrInfo} {address : Bytes}
      (some_pick : pick family wanted entries = some address) : address.length = wanted := by
    obtain ⟨entry, -, chosen⟩ := List.exists_of_findSome?_eq_some some_pick
    split at chosen
    · split at chosen
      · rename_i usable
        rw [Option.some.injEq] at chosen
        rw [← chosen, List.length_take]
        omega
      · cases chosen
    · cases chosen
  split at found
  · cases found
  · rcases Option.or_eq_some_iff.mp found with inet | ⟨-, inet6⟩
    · exact .inl (picked inet)
    · exact .inr (picked inet6)

theorem targetAddress_cases {platform : Platform} {target : ProxyTarget} {host : WString} {port : Nat}
    {address : Bytes} (encoded : targetAddress platform target host port = .ok address) :
    (target.remoteDns = true ∧ utf8 platform host ≠ [] ∧ (utf8 platform host).length ≤ 255 ∧
      address = 0x03 :: UInt8.ofNat (utf8 platform host).length :: utf8 platform host) ∨
    (target.remoteDns = false ∧ ∃ literal,
      platform.inetPtonW (host.takeWhile (· ≠ 0)) = some literal ∧ address = 0x01 :: literal.take 4) ∨
    (target.remoteDns = false ∧ platform.inetPtonW (host.takeWhile (· ≠ 0)) = none ∧
      ∃ resolved, resolveLocally platform host = some resolved ∧
        address = (if resolved.length = 4 then 0x01 else 0x04) :: resolved) := by
  unfold targetAddress at encoded
  split at encoded
  · rename_i remote
    dsimp only at encoded
    split at encoded
    · exact absurd encoded nofun
    · rename_i fits
      rw [not_or, not_lt] at fits
      rw [Except.ok.injEq] at encoded
      exact .inl ⟨remote, fits.1, fits.2, encoded.symm⟩
  · rename_i here
    have localDns : target.remoteDns = false := by simpa using here
    split at encoded
    · rename_i literal found
      rw [Except.ok.injEq] at encoded
      exact .inr (.inl ⟨localDns, literal, found, encoded.symm⟩)
    · rename_i none_found
      split at encoded
      · rename_i resolved found
        rw [Except.ok.injEq] at encoded
        exact .inr (.inr ⟨localDns, none_found, resolved, found, encoded.symm⟩)
      · exact absurd encoded nofun

theorem connectRequest_ok {platform : Platform} {target : ProxyTarget} {host : WString} {port : Nat}
    {request : Bytes} (encoded : connectRequest platform target host port = .ok request) :
    ∃ address, targetAddress platform target host port = .ok address ∧
      request = [0x05, 0x01, 0x00] ++ address ++ [UInt8.ofNat (port / 256), UInt8.ofNat port] := by
  unfold connectRequest at encoded
  rcases found : targetAddress platform target host port with error | address
  all_goals rw [found] at encoded
  · exact absurd encoded nofun
  · exact ⟨address, rfl, (Except.ok.inj encoded).symm⟩

theorem connectRequest_length {platform : Platform} {target : ProxyTarget} {host : WString} {port : Nat}
    {request : Bytes} (encoded : connectRequest platform target host port = .ok request) :
    request.length ≤ 262 := by
  obtain ⟨address, found, rfl⟩ := connectRequest_ok encoded
  have short : address.length ≤ 257 := by
    rcases targetAddress_cases found with ⟨-, -, fits, rfl⟩ | ⟨-, literal, -, rfl⟩ |
      ⟨-, -, resolved, here, rfl⟩
    · simp only [List.length_cons]
      omega
    · simp only [List.length_cons, List.length_take]
      omega
    · have size := resolveLocally_length here
      simp only [List.length_cons]
      omega
  simp only [List.length_append, List.length_cons, List.length_nil]
  omega

end LuaXENetwork
