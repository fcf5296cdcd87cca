import LuaXENetwork.Dial.World

namespace LuaXENetwork
open Library Dialing

def seconds (milliseconds : Int) : Int := max 1 ((toInt32 (milliseconds + 999)).tdiv 1000)

def endpoint (platform : Platform) (host : WString) (port : Nat) : Bytes :=
  utf8 platform host ++ ascii ":" ++ toText port

/-- The whole budget: `connect_timeout_ms`, or what is left of `total_timeout_ms`. -/
def remaining (options : DialOptions) (started : Nat) : Dialing Int := do
  if options.totalTimeoutMs ≤ 0 then return options.connectTimeoutMs
  else
    let left := options.totalTimeoutMs - ((← clock) - started)
    if left ≤ 0 then do
      record .expired
      fail "timeout" (ascii "[timeout] the total timeout of " ++ toText options.totalTimeoutMs
        ++ ascii " ms expired before connecting")
    else return min options.connectTimeoutMs left

/-- `StepBudget::Arm`. -/
def arm (options : DialOptions) (started : Nat) : Dialing Unit := do
  let milliseconds ← remaining options started
  setTimeouts (seconds milliseconds)

def countText : Option Nat → Bytes
  | none => ascii "-1"
  | some count => toText count

def sendAll (options : DialOptions) (started : Nat) (bytes : Bytes) (what : String) :
    Dialing Unit := do
  arm options started
  record (.writing what bytes)
  let sent ← send bytes
  if sent ≠ some bytes.length then do
    record (.writeFailed what)
    let error ← lastError
    fail "proxy_protocol_error" (ascii "[proxy_protocol_error] could not send the " ++ ascii what
      ++ ascii " to the SOCKS5 proxy (" ++ countText sent ++ ascii " of " ++ toText bytes.length
      ++ ascii " bytes, error " ++ toText error ++ ascii ")")
  else return ()

/-- What `RecvExact` makes of the answer of `Recv`. -/
def takeExact (count : Nat) (what : String) (answer : Option Bytes) : Dialing Bytes := do
  let error ← lastError
  match answer with
  | none =>
      record (.readFailed what)
      if error = errorTimeout ∨ error = wsaeTimedOut then
        fail "proxy_timeout" (ascii "[proxy_timeout] the SOCKS5 proxy did not send the "
          ++ ascii what ++ ascii " in time")
      else
        fail "proxy_closed"
          (ascii "[proxy_closed] the SOCKS5 proxy closed the connection during the " ++ ascii what)
  | some data =>
      if data.length ≠ count then do
        record (.readFailed what)
        fail "proxy_closed"
          (ascii "[proxy_closed] the SOCKS5 proxy closed the connection during the " ++ ascii what
            ++ ascii " (" ++ toText data.length ++ ascii " of " ++ toText count
            ++ ascii " bytes, error " ++ toText error ++ ascii ")")
      else do
        record (.received what data)
        return data

def recvExact (options : DialOptions) (started count : Nat) (what : String) : Dialing Bytes := do
  if count = 0 then return []
  else
    arm options started
    let answer ← receive count count
    takeExact count what answer

def replyText (code : UInt8) : Bytes :=
  match code.toNat with
  | 1 => ascii "the SOCKS5 proxy reported a general failure"
  | 2 => ascii "the SOCKS5 proxy refused this connection (not allowed by ruleset)"
  | 3 => ascii "the SOCKS5 proxy reported the network as unreachable"
  | 4 => ascii "the SOCKS5 proxy could not reach the host (its own DNS or route failed)"
  | 5 => ascii "the target refused the connection through the SOCKS5 proxy"
  | 6 => ascii "the SOCKS5 proxy reported the TTL expired"
  | 7 => ascii "the SOCKS5 proxy does not support the CONNECT command"
  | 8 => ascii "the SOCKS5 proxy does not support the address type asked for"
  | n => ascii "the SOCKS5 proxy answered with an unknown reply code " ++ toText n

def replyCode (code : UInt8) : String :=
  match code.toNat with
  | 1 => "proxy_general_failure"
  | 2 => "proxy_not_allowed"
  | 3 => "proxy_network_unreachable"
  | 4 => "proxy_host_unreachable"
  | 5 => "proxy_target_refused"
  | 6 => "proxy_ttl_expired"
  | 7 => "proxy_command_unsupported"
  | 8 => "proxy_address_type_unsupported"
  | _ => "proxy_reply_unknown"

/-- IPv4 addresses first; a family's entry without enough bytes is passed over. -/
def resolveLocally (platform : Platform) (host : WString) : Option Bytes :=
  let pick (family : AddressFamily) (wanted : Nat) (entries : List AddrInfo) : Option Bytes :=
    entries.findSome? fun entry => match entry.address with
      | some address =>
          if entry.family = family ∧ wanted ≤ address.length then some (address.take wanted) else none
      | none => none
  match platform.getAddrInfoW (host.takeWhile (· ≠ 0)) with
  | none => none
  | some entries => (pick .inet 4 entries).or (pick .inet6 16 entries)

/-- The address part of the request, with its ATYP. -/
def targetAddress (platform : Platform) (target : ProxyTarget) (host : WString) (port : Nat) :
    Except DialError Bytes :=
  if target.remoteDns then
    let name := utf8 platform host
    if name = [] ∨ 255 < name.length then
      .error ⟨"proxy_target_name_invalid", ascii "[proxy_target_name_invalid] the target host name "
        ++ ascii "must be 1-255 bytes for socks5h, this one is " ++ toText name.length⟩
    else .ok (0x03 :: UInt8.ofNat name.length :: name)
  else match platform.inetPtonW (host.takeWhile (· ≠ 0)) with
    | some address => .ok (0x01 :: address.take 4)
    | none => match resolveLocally platform host with
      | some resolved => .ok ((if resolved.length = 4 then 0x01 else 0x04) :: resolved)
      | none =>
          .error ⟨"proxy_dns_failed", ascii "[proxy_dns_failed] could not resolve "
            ++ endpoint platform host port ++ ascii " locally for a socks5 proxy request; "
            ++ ascii "socks5h:// lets the proxy resolve it instead"⟩

def connectRequest (platform : Platform) (target : ProxyTarget) (host : WString) (port : Nat) :
    Except DialError Bytes := do
  let address ← targetAddress platform target host port
  return [0x05, 0x01, 0x00] ++ address ++ [UInt8.ofNat (port / 256), UInt8.ofNat port]

section Handshake

variable (platform : Platform) (target : ProxyTarget) (options : DialOptions) (started : Nat)

/-- How the errors name the proxy. -/
def proxyPlace : Bytes :=
  ascii "the SOCKS5 proxy at " ++ utf8 platform target.host ++ ascii ":" ++ toText target.port

def greeting : Bytes :=
  if target.hasCredentials then [0x05, 0x02, 0x00, 0x02] else [0x05, 0x01, 0x00]

def authentication : Bytes :=
  [0x01, UInt8.ofNat target.user.length] ++ target.user
    ++ UInt8.ofNat target.password.length :: target.password

/-- Method negotiation: the method the proxy chose. -/
def chooseMethod : Dialing UInt8 := do
  let place := proxyPlace platform target
  sendAll options started (greeting target) "method list"
  let choice ← recvExact options started 2 "method reply"
  let version := choice.getD 0 0
  let method := choice.getD 1 0
  if version ≠ 0x05 then
    fail "proxy_protocol_error" (ascii "[proxy_protocol_error] " ++ place ++ ascii " is not SOCKS5")
  else if method = 0xFF then
    fail "proxy_no_acceptable_auth" (ascii "[proxy_no_acceptable_auth] " ++ place
      ++ ascii " accepts no authentication method this client offers")
  else if method ≠ 0x00 ∧ method ≠ 0x02 then
    fail "proxy_no_acceptable_auth" (ascii "[proxy_no_acceptable_auth] " ++ place
      ++ ascii " chose an authentication method this client does not support")
  else return method

/-- Username and password, only when the proxy picked them. -/
def authenticate (method : UInt8) : Dialing Unit := do
  let place := proxyPlace platform target
  if method ≠ 0x02 then return ()
  else if !target.hasCredentials then
    fail "proxy_no_acceptable_auth" (ascii "[proxy_no_acceptable_auth] " ++ place
      ++ ascii " requires a username and password, and none were given")
  else
    sendAll options started (authentication target) "credentials"
    let verdict ← recvExact options started 2 "authentication reply"
    if verdict.getD 0 0 ≠ 0x01 then
      fail "proxy_protocol_error" (ascii "[proxy_protocol_error] " ++ place
        ++ ascii " answered the RFC 1929 authentication with a bad version")
    else if verdict.getD 1 0 ≠ 0x00 then
      fail "proxy_auth_failed" (ascii "[proxy_auth_failed] " ++ place
        ++ ascii " rejected the supplied username and password")
    else return ()

/-- The length of the bound address: fixed by the ATYP, or one more octet on the wire. -/
def boundLength (addressType : UInt8) : Dialing Nat := do
  let place := proxyPlace platform target
  if addressType = 0x01 then return 4
  else if addressType = 0x04 then return 16
  else if addressType = 0x03 then do
    let length ← recvExact options started 1 "CONNECT reply"
    let addressLength := (length.getD 0 0).toNat
    if addressLength = 0 then
      fail "proxy_protocol_error" (ascii "[proxy_protocol_error] " ++ place
        ++ ascii " answered a CONNECT with an empty bound address")
    else return addressLength
  else fail "proxy_protocol_error" (ascii "[proxy_protocol_error] " ++ place
    ++ ascii " answered with an unknown address type")

/-- CONNECT and the head of its reply: the ATYP of the bound address. -/
def requestConnect (host : WString) (port : Nat) : Dialing UInt8 := do
  let place := proxyPlace platform target
  let request ← Program.ofExcept (connectRequest platform target host port)
  sendAll options started request "CONNECT request"
  let header ← recvExact options started 4 "CONNECT reply"
  let code := header.getD 1 0
  if header.getD 0 0 ≠ 0x05 then
    fail "proxy_protocol_error" (ascii "[proxy_protocol_error] " ++ place
      ++ ascii " answered a CONNECT with a bad version")
  else if code ≠ 0x00 then
    fail (replyCode code) (ascii "[" ++ ascii (replyCode code) ++ ascii "] " ++ place ++ ascii ": "
      ++ replyText code)
  else return header.getD 3 0

def socks5Handshake (host : WString) (port : Nat) : Dialing Unit := do
  let method ← chooseMethod platform target options started
  authenticate platform target options started method
  let addressType ← requestConnect platform target options started host port
  let addressLength ← boundLength platform target options started addressType
  let _ ← recvExact options started addressLength "CONNECT reply"
  let _ ← recvExact options started 2 "CONNECT reply"
  return ()

end Handshake

end LuaXENetwork
