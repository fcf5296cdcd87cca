import LuaXENetwork.Dial.Socks5
import LuaXENetwork.Tls.Handshake

namespace LuaXENetwork
open Library Dialing

/-- The detail code and the text of a Winsock error. -/
def dialErrorDetail (error : Nat) : String × String :=
  match error with
  | 10061 => ("connect_refused", "connection refused")
  | 10060 => ("connect_timeout", "connection timed out")
  | 1460 => ("connect_timeout", "connection timed out")
  | 10051 => ("connect_network_unreachable", "network unreachable")
  | 10065 => ("connect_network_unreachable", "host unreachable")
  | 10064 => ("connect_network_unreachable", "host down")
  | 11001 => ("dns_failed", "host not found")
  | _ => ("connect_failed", "connection failed")

def dialErrorText (platform : Platform) (host : WString) (port error : Nat) : Bytes :=
  ascii "[" ++ ascii (dialErrorDetail error).1 ++ ascii "] " ++ endpoint platform host port
    ++ ascii ": " ++ ascii (dialErrorDetail error).2
    ++ (if error = 0 then [] else ascii " (error " ++ toText error ++ ascii ")")

structure DialedConnection where
  secure : Bool
deriving DecidableEq, Repr

section Dial

variable (platform : Platform) (options : DialOptions)

/-- The TCP connection, to the address given; a failure carries the code given. -/
def connectTo (host : WString) (port : Nat) (code : String) : Dialing Unit := do
  record (.connecting host port)
  let connected ← connect
  if !connected then
    let error ← lastError
    fail code (dialErrorText platform host port error)
  else return ()

/-- Through the proxy if there is one: a proxy that cannot be used is never gone around. -/
def reach (started : Nat) : Dialing Unit :=
  match options.proxy with
  | some proxy => do
      connectTo platform proxy.host proxy.port "proxy_connect_refused"
      socks5Handshake platform proxy options started options.host options.port
  | none => connectTo platform options.host options.port "connect_failed"

/-- The error of a handshake that failed. -/
def handshakeError (serverName : WString) (verifier : CertificateVerifier) (tls : SslClient) :
    DialError :=
  if verifier.checked ∧ !verifier.passed then
    ⟨if verifier.code = "" then "tls_handshake_failed" else verifier.code, verifier.message platform⟩
  else
    ⟨"tls_handshake_failed", ascii "[tls_handshake_failed] " ++ endpoint platform serverName options.port
      ++ ascii ": TLS handshake failed (SSPI 0x" ++ hex8 tls.lastSecurityStatus ++ ascii ")"
      ++ (if tls.lastExtendedError = [] then []
          else ascii ": " ++ utf8 platform tls.lastExtendedError)⟩

/-- What `Dial` does with the status of the handshake. -/
def concludeTls (serverName : WString) (result : UInt32) : Dialing DialedConnection := do
  let verifier ← Program.read (·.verifier)
  let tls ← Program.read (·.tls)
  if isFailure result then throw (handshakeError platform options serverName verifier tls)
  else if options.tlsVerify ∧ !verifier.checked then
    fail "tls_no_certificate" (ascii "[tls_no_certificate] "
      ++ endpoint platform serverName options.port
      ++ ascii ": the peer completed a TLS handshake without presenting a certificate to verify")
  else return { secure := true }

def secureConnection (answers : TlsAnswers) (started : Nat) : Dialing DialedConnection := do
  let serverName := CertificateVerifier.sniName options.host options.sni
  let verifier := CertificateVerifier.create serverName options.caFile options.tlsVerify
    options.tlsCheckRevocation answers.rootFile
  Program.change fun w => { w with verifier := verifier, tls := {} }
  let handshakeTimeout ← remaining options started
  setTimeouts (seconds handshakeTimeout)
  let result ← initializeTls platform answers
  concludeTls platform options serverName result

def dial (answers : TlsAnswers) : Dialing DialedConnection := do
  let started ← clock
  let connectTimeout ← remaining options started
  setTimeouts (seconds connectTimeout)
  reach platform options started
  if !options.ssl then return { secure := false }
  else secureConnection platform options answers started

end Dial

end LuaXENetwork
