import LuaXENetwork.Dial.Options

namespace LuaXENetwork
open Library

def proxyUrlInvalid (message : String) : DialError :=
  ⟨"proxy_url_invalid", ascii "[proxy_url_invalid] " ++ ascii message⟩

def hexDigit (character : UInt8) : Option UInt8 :=
  if 48 ≤ character ∧ character ≤ 57 then some (character - 48)
  else if 97 ≤ character ∧ character ≤ 102 then some (character - 97 + 10)
  else if 65 ≤ character ∧ character ≤ 70 then some (character - 65 + 10)
  else none

def percentDecode : Bytes → Except DialError Bytes
  | [] => .ok []
  | 37 :: rest =>
      match rest with
      | high :: low :: rest =>
          match hexDigit high, hexDigit low with
          | some high, some low => do
              let decoded ← percentDecode rest
              return (high <<< 4 ||| low) :: decoded
          | _, _ => .error (proxyUrlInvalid "bad escape sequence in the proxy credentials")
      | _ => .error (proxyUrlInvalid "truncated escape in the proxy credentials")
  | character :: rest => do
      let decoded ← percentDecode rest
      return character :: decoded

/-- The last position of a character, `rfind`. -/
def findLast (character : UInt8) (text : Bytes) : Option Nat :=
  (find [character] text.reverse).map fun i => text.length - 1 - i

/-- `user[:password]` before the one `@`, percent-decoded. -/
def parseUserinfo (userinfo : Bytes) : Except DialError (Bytes × Bytes) := do
  let colon := find (ascii ":") userinfo
  let user ← percentDecode (match colon with
    | none => userinfo
    | some colon => userinfo.take colon)
  let password ← match colon with
    | none => pure []
    | some colon => percentDecode (userinfo.drop (colon + 1))
  if user = [] ∨ 255 < user.length ∨ 255 < password.length then
    throw (proxyUrlInvalid "the proxy user name and password must each be 1-255 bytes")
  return (user, password)

/-- The host, and what follows it from the colon of the port on. -/
def splitProxyAuthority (rest : Bytes) : Except DialError (Bytes × Bytes) :=
  if rest.head? = some 91 then
    match find (ascii "]") rest with
    | none => .error (proxyUrlInvalid "the bracketed proxy host is not closed")
    | some closing =>
        let after := rest.drop (closing + 1)
        if after.head? = some 58 then .ok ((rest.take closing).drop 1, after)
        else .error (proxyUrlInvalid "the proxy URL has no port")
  else
    match findLast 58 rest with
    | none => .error (proxyUrlInvalid "the proxy URL has no port")
    | some colon => .ok (rest.take colon, rest.drop colon)

def parseProxyPort (portText : Bytes) : Except DialError Nat :=
  if portText = [] ∨ 5 < portText.length then
    .error (proxyUrlInvalid "the proxy port is missing or malformed")
  else if portText.all (isDigit 10) then .ok (fromDigits 10 portText)
  else .error (proxyUrlInvalid "the proxy port is not a number")

def parseProxyUrl (platform : Platform) (url : Bytes) : Except DialError ProxyTarget := do
  let lowered := lowerAscii url
  let remoteDns ←
    if ascii "socks5h://" <+: lowered then pure true
    else if ascii "socks5://" <+: lowered then pure false
    else throw (proxyUrlInvalid "the proxy must be socks5:// or socks5h://")
  let rest := url.drop (if ascii "socks5h://" <+: lowered then 10 else 9)
  let (rest, credentials) ← match find (ascii "@") rest with
    | none => pure (rest, none)
    | some at_ =>
        if (find (ascii "@") (rest.drop (at_ + 1))).isSome then
          throw (proxyUrlInvalid "the proxy URL has more than one '@'")
        else do
          let credentials ← parseUserinfo (rest.take at_)
          pure (rest.drop (at_ + 1), some credentials)
  let (authority, rest) ← splitProxyAuthority rest
  let port ← parseProxyPort (rest.drop 1)
  if authority = [] ∨ port = 0 ∨ 65535 < port then
    throw (proxyUrlInvalid "the proxy host or port is out of range")
  return {
    host := wideFromUtf8 platform authority
    port := port
    remoteDns := remoteDns
    user := (credentials.map (·.1)).getD []
    password := (credentials.map (·.2)).getD []
    hasCredentials := credentials.isSome }

end LuaXENetwork
