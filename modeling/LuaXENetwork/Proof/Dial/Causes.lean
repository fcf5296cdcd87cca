import LuaXENetwork.Dial.Dial
import LuaXENetwork.Proof.Tls.Verify
import Mathlib.Order.Interval.Set.Defs

/-! The error codes of the README, each with what a failed dial has met with. -/

namespace LuaXENetwork
open Library

/-- The rows of the README's tables. -/
inductive DialCause where
  | proxyRefused
  | proxyUnreachable
  | proxySilent
  | proxyHungUp
  | proxyNotSocks5
  | noCommonMethod
  | credentialsRejected
  | proxyReply (reply : UInt8)
  | targetUnresolved
  | targetNameUnfit
  | connectRefused
  | connectTimedOut
  | networkUnreachable
  | hostUnknown
  | connectFailed
  | untrustedRoot
  | expired
  | revoked
  | nameMismatch
  | caUnreadable
  | policyFailed
  | noCertificate
  | wrongUsage
  | handshakeFailed
deriving DecidableEq, Repr

def readmeReplies : List (UInt8 × String) :=
  [(1, "proxy_general_failure"),
    (2, "proxy_not_allowed"),
    (3, "proxy_network_unreachable"),
    (4, "proxy_host_unreachable"),
    (5, "proxy_target_refused"),
    (6, "proxy_ttl_expired"),
    (7, "proxy_command_unsupported"),
    (8, "proxy_address_type_unsupported")]

namespace DialCause

def code : DialCause → String
  | proxyRefused => "proxy_connect_refused"
  | proxyUnreachable => "proxy_connect_failed"
  | proxySilent => "proxy_timeout"
  | proxyHungUp => "proxy_closed"
  | proxyNotSocks5 => "proxy_protocol_error"
  | noCommonMethod => "proxy_no_acceptable_auth"
  | credentialsRejected => "proxy_auth_failed"
  | proxyReply reply => (readmeReplies.lookup reply).getD "proxy_reply_unknown"
  | targetUnresolved => "proxy_dns_failed"
  | targetNameUnfit => "proxy_target_name_invalid"
  | connectRefused => "connect_refused"
  | connectTimedOut => "connect_timeout"
  | networkUnreachable => "connect_network_unreachable"
  | hostUnknown => "dns_failed"
  | connectFailed => "connect_failed"
  | untrustedRoot => "tls_untrusted_root"
  | expired => "tls_expired"
  | revoked => "tls_revoked"
  | nameMismatch => "tls_name_mismatch"
  | caUnreadable => "tls_ca_unreadable"
  | policyFailed => "tls_policy_failed"
  | noCertificate => "tls_no_certificate"
  | wrongUsage => "tls_wrong_usage"
  | handshakeFailed => "tls_handshake_failed"

end DialCause

/-! ## What a dial has met with -/

/-- What `Dial` is given, and what the machine and the peer are. -/
structure DialCall where
  platform : Platform
  options : DialOptions
  answers : TlsAnswers
  socket : BaseSock

namespace DialCall

variable (call : DialCall)

def run : Except DialError DialedConnection × DialWorld :=
  (dial call.platform call.options call.answers).run { socket := call.socket }

def connectTimeout : Int :=
  if call.options.totalTimeoutMs ≤ 0 then call.options.connectTimeoutMs
  else min call.options.connectTimeoutMs call.options.totalTimeoutMs

def connect : Bool × BaseSock :=
  ((call.socket.setSendTimeoutSeconds (seconds call.connectTimeout)).setRecvTimeoutSeconds
    (seconds call.connectTimeout)).connect

def ConnectFails (error : Nat) : Prop := call.connect.1 = false ∧ call.connect.2.lastError = error

end DialCall

def LastIs (event : DialEvent) (w : DialWorld) : Prop := w.events.getLast? = some event

/-- The errors of a chain that count: the check ignores unreachable revocation servers, and with a
`ca_file` decides about the root itself. -/
def hardStatus (verifier : CertificateVerifier) (context : ChainContext) : UInt32 :=
  let status := context.errorStatus &&&
    ~~~(certTrustRevocationStatusUnknown ||| certTrustIsOfflineRevocation)
  if verifier.exclusive then status &&& ~~~certTrustIsUntrustedRoot else status

/-- A chain ends in one of the certificates of `ca_file`. -/
def Rooted (verifier : CertificateVerifier) (context : ChainContext) : Prop :=
  ∃ hash, some hash ∈ context.lastHashes ∧ hash ≠ [] ∧ hash ∈ verifier.rootHashes

section Causes

variable (call : DialCall)

def Bracketed (error : DialError) : Prop :=
  ascii "[" ++ ascii error.code ++ ascii "] " <+: error.message

/-- A certificate is refused because of a chain that is wrong only for the use, or not there. -/
def MisjudgedChain (verifier : CertificateVerifier) (certificate : Certificate)
    (answer : ChainAnswer) : Prop :=
  verifier.failed = false ∧ certificate.readable = true ∧
    ((∃ error, answer.chain = .error error) ∨
      ∃ context, answer.chain = .ok context ∧ (verifier.exclusive = true → Rooted verifier context) ∧
        hardStatus verifier context = 0x10)

/-- What the dial has no code for, or not the right one. -/
inductive Misreported (w : DialWorld) : Prop
  | proxyConnect (error : Nat) (proxy : call.options.proxy.isSome) (failed : call.ConnectFails error)
  | connect (error : Nat) (failed : call.ConnectFails error)
      (known : error ∈ [10061, 10060, 1460, 10051, 10065, 10064, 11001])
  | budget (expired : .expired ∈ w.events)
  | unsent (what : String) (failed : .writeFailed what ∈ w.events)
  | chain (verifier : CertificateVerifier) (certificate : Certificate) (answer : ChainAnswer)
      (refused : .checked verifier certificate answer false ∈ w.events)
      (misjudged : MisjudgedChain verifier certificate answer)

end Causes

end LuaXENetwork
