import LuaXENetwork.Library.Except
import LuaXENetwork.Dial.ProxyUrl

/-! What the credentials of an accepted proxy URL are bounded by. -/

namespace LuaXENetwork
open Library

/-- Credentials that fit their octets, though the password may have no bytes. -/
def Bounded (user password : Bytes) : Prop :=
  user ≠ [] ∧ user.length ≤ 255 ∧ password.length ≤ 255

def checkUserinfo (user password : Bytes) : Except DialError (Bytes × Bytes) := do
  if user = [] ∨ 255 < user.length ∨ 255 < password.length then
    throw (proxyUrlInvalid "the proxy user name and password must each be 1-255 bytes")
  return (user, password)

theorem checkUserinfo_bounded {name word user password : Bytes}
    (checked : checkUserinfo name word = .ok (user, password)) : Bounded user password := by
  unfold checkUserinfo at checked
  split at checked
  · exact absurd checked nofun
  · rename_i fits
    obtain ⟨rfl, rfl⟩ := Prod.mk.inj (Except.ok.inj checked)
    simpa [Bounded, not_or] using fits

theorem parseUserinfo_bounded {userinfo user password : Bytes}
    (parsed : parseUserinfo userinfo = .ok (user, password)) : Bounded user password := by
  unfold parseUserinfo at parsed
  obtain ⟨name, -, rest⟩ := bind_eq_ok.mp parsed
  split at rest
  · exact checkUserinfo_bounded rest
  · obtain ⟨word, -, last⟩ := bind_eq_ok.mp rest
    exact checkUserinfo_bounded last

def finishProxyUrl (platform : Platform) (remoteDns : Bool) (rest : Bytes)
    (credentials : Option (Bytes × Bytes)) : Except DialError ProxyTarget := do
  let (authority, rest) ← splitProxyAuthority rest
  let port ← parseProxyPort (rest.drop 1)
  if authority = [] ∨ port = 0 ∨ 65535 < port then
    throw (proxyUrlInvalid "the proxy host or port is out of range")
  return {
    host := wideFromUtf8 platform authority
    port := port
    remoteDns := remoteDns
    user := (credentials.map (·.1)).getD []
    password := (credentials.map (·.2)).getD []
    hasCredentials := credentials.isSome }

theorem finishProxyUrl_credentials {platform : Platform} {remoteDns : Bool} {rest : Bytes}
    {credentials : Option (Bytes × Bytes)} {proxy : ProxyTarget}
    (built : finishProxyUrl platform remoteDns rest credentials = .ok proxy)
    (given : proxy.hasCredentials = true) : credentials = some (proxy.user, proxy.password) := by
  unfold finishProxyUrl at built
  obtain ⟨⟨authority, rest⟩, -, built⟩ := bind_eq_ok.mp built
  obtain ⟨port, -, built⟩ := bind_eq_ok.mp built
  split at built
  · exact absurd built nofun
  · obtain rfl := Except.ok.inj built
    obtain ⟨⟨user, password⟩, rfl⟩ := Option.isSome_iff_exists.mp given
    rfl

def behindScheme (platform : Platform) (remoteDns : Bool) (rest : Bytes) : Except DialError ProxyTarget :=
  match find (ascii "@") rest with
  | none => finishProxyUrl platform remoteDns rest none
  | some at_ =>
      if (find (ascii "@") (rest.drop (at_ + 1))).isSome then
        .error (proxyUrlInvalid "the proxy URL has more than one '@'")
      else parseUserinfo (rest.take at_) >>= fun credentials =>
        finishProxyUrl platform remoteDns (rest.drop (at_ + 1)) (some credentials)

theorem parseProxyUrl_eq (platform : Platform) (url : Bytes) :
    parseProxyUrl platform url =
      if ascii "socks5h://" <+: lowerAscii url then behindScheme platform true (url.drop 10)
      else if ascii "socks5://" <+: lowerAscii url then behindScheme platform false (url.drop 9)
      else .error (proxyUrlInvalid "the proxy must be socks5:// or socks5h://") := by
  unfold parseProxyUrl
  dsimp only
  by_cases socks5h : ascii "socks5h://" <+: lowerAscii url
  · rw [if_pos socks5h, if_pos socks5h, if_pos socks5h, behindScheme]
    rfl
  · rw [if_neg socks5h, if_neg socks5h, if_neg socks5h]
    by_cases socks5 : ascii "socks5://" <+: lowerAscii url
    · rw [if_pos socks5, if_pos socks5]
      rfl
    · rw [if_neg socks5, if_neg socks5]
      rfl

theorem parseProxyUrl_bounded {platform : Platform} {url : Bytes} {proxy : ProxyTarget}
    (accepted : parseProxyUrl platform url = .ok proxy) (given : proxy.hasCredentials = true) :
    Bounded proxy.user proxy.password := by
  have split_rest {remoteDns : Bool} {rest : Bytes} (parsed : behindScheme platform remoteDns rest = .ok proxy) :
      Bounded proxy.user proxy.password := by
    unfold behindScheme at parsed
    split at parsed
    · cases finishProxyUrl_credentials parsed given
    · split at parsed
      · cases parsed
      · obtain ⟨credentials, read, built⟩ := bind_eq_ok.mp parsed
        obtain rfl := Option.some.inj (finishProxyUrl_credentials built given)
        exact parseUserinfo_bounded read
  rw [parseProxyUrl_eq] at accepted
  split at accepted
  · exact split_rest accepted
  · split at accepted
    · exact split_rest accepted
    · cases accepted

/-! ## Errors -/

abbrev Parses {α : Type} (x : Except DialError α) : Prop :=
  Ends (fun error => ∃ message, error = proxyUrlInvalid message) (fun _ => True) x

theorem Parses.bind {α β : Type} {x : Except DialError α} {f : α → Except DialError β}
    (first : Parses x) (rest : ∀ a, Parses (f a)) : Parses (x >>= f) := Ends.bind first fun a _ => rest a

theorem Parses.ok {α : Type} (a : α) : Parses (.ok a) := trivial

theorem Parses.error {α : Type} (message : String) : Parses (.error (proxyUrlInvalid message) : Except _ α) :=
  ⟨message, rfl⟩

theorem percentDecode_parses (text : Bytes) : Parses (percentDecode text) := by
  fun_induction percentDecode text with
  | case1 => exact .ok _
  | case2 high low rest upper highDigit lower lowDigit ih => exact Parses.bind ih fun _ => .ok _
  | case3 => exact .error _
  | case4 => exact .error _
  | case5 character rest plain ih => exact Parses.bind ih fun _ => .ok _

theorem parseUserinfo_parses (userinfo : Bytes) : Parses (parseUserinfo userinfo) := by
  have checked (user password : Bytes) : Parses (checkUserinfo user password) := by
    unfold checkUserinfo
    split
    · exact .error _
    · exact .ok _
  refine Parses.bind (percentDecode_parses _) fun user => ?_
  dsimp only
  split
  · exact checked user []
  · exact Parses.bind (percentDecode_parses _) fun password => checked user password

theorem splitProxyAuthority_parses (rest : Bytes) : Parses (splitProxyAuthority rest) := by
  unfold splitProxyAuthority
  split
  · split
    · exact .error _
    · dsimp only
      split
      · exact .ok _
      · exact .error _
  · split
    · exact .error _
    · exact .ok _

theorem parseProxyPort_parses (portText : Bytes) : Parses (parseProxyPort portText) := by
  unfold parseProxyPort
  split
  · exact .error _
  · split
    · exact .ok _
    · exact .error _

theorem finishProxyUrl_parses (platform : Platform) (remoteDns : Bool) (rest : Bytes)
    (credentials : Option (Bytes × Bytes)) :
    Parses (finishProxyUrl platform remoteDns rest credentials) := by
  refine Parses.bind (splitProxyAuthority_parses rest) fun (authority, rest) => ?_
  refine Parses.bind (parseProxyPort_parses (rest.drop 1)) fun port => ?_
  split
  · exact .error _
  · exact .ok _

theorem behindScheme_parses (platform : Platform) (remoteDns : Bool) (rest : Bytes) :
    Parses (behindScheme platform remoteDns rest) := by
  unfold behindScheme
  split
  · exact finishProxyUrl_parses ..
  · split
    · exact .error _
    · exact Parses.bind (parseUserinfo_parses _) fun _ => finishProxyUrl_parses ..

theorem parseProxyUrl_parses (platform : Platform) (url : Bytes) : Parses (parseProxyUrl platform url) := by
  rw [parseProxyUrl_eq]
  split
  · exact behindScheme_parses ..
  · split
    · exact behindScheme_parses ..
    · exact .error _

end LuaXENetwork
