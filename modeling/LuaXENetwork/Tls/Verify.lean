import LuaXENetwork.Tls.Certificate

/-! `CertificateVerifier`, over whatever the chain engine answers. -/

namespace LuaXENetwork

/-- What comes of opening `ca_file`; for each certificate its hash, empty if it could not be taken. -/
inductive RootFile where
  | noStore
  | unreadable
  | certificates (hashes : List Bytes)
deriving DecidableEq, Repr

/-- A chain context: its error status, and for each chain the hash of its last certificate. -/
structure ChainContext where
  errorStatus : UInt32
  lastHashes : List (Option Bytes)
deriving DecidableEq, Repr

/-- What Crypt32 answers during one `Check`. -/
structure ChainAnswer where
  chain : Except Nat ChainContext := .error 0
  policy : Option UInt32 := none
  commonName : Option WString := none
deriving Repr

structure CertificateVerifier where
  host : WString
  caFile : Bytes
  verify : Bool := true
  checkRevocation : Bool := true
  exclusive : Bool := false
  checked : Bool := false
  failed : Bool := false
  code : String := ""
  detail : Bytes := []
  rootHashes : List Bytes := []
deriving DecidableEq, Repr

def certTrustIsNotTimeValid : UInt32 := 0x1
def certTrustIsRevoked : UInt32 := 0x4
def certTrustIsUntrustedRoot : UInt32 := 0x20
def certTrustRevocationStatusUnknown : UInt32 := 0x40
def certTrustIsOfflineRevocation : UInt32 := 0x1000000
def trustECertUntrustedRoot : UInt32 := 0x800B0109

def hexDigitText (n : Nat) : UInt8 := if n < 10 then UInt8.ofNat (48 + n) else UInt8.ofNat (87 + n)

/-- `%08x`. -/
def hex8 (value : UInt32) : Bytes :=
  (List.range 8).map fun index => hexDigitText (value.toNat / 16 ^ (7 - index) % 16)

def chainStatusNames : List (UInt32 × String) :=
  [(0x1, "expired or not yet valid"),
    (0x4, "revoked"),
    (0x8, "bad signature"),
    (0x10, "not valid for this use"),
    (0x20, "untrusted root"),
    (0x40, "revocation status unknown"),
    (0x80, "certificate chain is cyclic"),
    (0x100, "invalid certificate extension"),
    (0x400, "invalid basic constraints"),
    (0x1000000, "revocation information unavailable"),
    (0x10000, "incomplete chain"),
    (0x200, "invalid policy constraints")]

def chainStatusText (status : UInt32) : Bytes :=
  let names := (chainStatusNames.filter fun entry => status &&& entry.1 ≠ 0).map (ascii ·.2)
  let text := if names = [] then ascii "certificate chain error" else (ascii ", ").intercalate names
  text ++ ascii " (status 0x" ++ hex8 status ++ ascii ")"

namespace CertificateVerifier

def sniName (host sni : WString) : WString := if sni = [] then host else sni

/-- Keeps the first reason. -/
def fail (v : CertificateVerifier) (code : String) (text : Bytes) : CertificateVerifier :=
  if v.failed then v else { v with failed := true, code := code, detail := text }

def passed (v : CertificateVerifier) : Bool := v.checked && !v.failed

def message (platform : Platform) (v : CertificateVerifier) : Bytes :=
  let code := if v.code = "" then "tls_verify_failed" else v.code
  ascii "[" ++ ascii code ++ ascii "] " ++ utf8 platform v.host
    ++ (if v.detail = [] then [] else ascii ": " ++ v.detail)

def loadRoots (v : CertificateVerifier) (file : RootFile) : CertificateVerifier :=
  let v := { v with exclusive := true }
  match file with
  | .noStore =>
      v.fail "tls_ca_unreadable"
        (ascii "no in-memory certificate store could be opened for ca_file")
  | .unreadable =>
      v.fail "tls_ca_unreadable" (ascii "ca_file could not be opened or holds no certificate")
  | .certificates hashes =>
      let v := { v with rootHashes := hashes.filter (· ≠ []) }
      if v.rootHashes = [] then
        v.fail "tls_ca_unreadable" (ascii "ca_file contains no PEM or DER certificate")
      else v

/-- The constructor. -/
def create (host : WString) (caFile : Bytes) (verify checkRevocation : Bool) (file : RootFile) :
    CertificateVerifier :=
  let v : CertificateVerifier := {
    host := host, caFile := caFile, verify := verify, checkRevocation := checkRevocation }
  if verify ∧ caFile ≠ [] then v.loadRoots file else v

/-- The verdict of the SSL chain policy; an exclusive `ca_file` has decided about the root itself. -/
def verifyPolicy (v : CertificateVerifier) (answer : ChainAnswer) : Bool × CertificateVerifier :=
  match answer.policy with
  | none => (false, v.fail "tls_policy_failed" (ascii "the SSL chain policy could not be evaluated"))
  | some error =>
      if error ≠ 0 ∧ ¬ (v.exclusive ∧ error = trustECertUntrustedRoot) then
        (false, v.fail "tls_policy_failed" (ascii "SSL policy error 0x" ++ hex8 error))
      else (true, v)

def verifyStatus (v : CertificateVerifier) (status : UInt32) (answer : ChainAnswer) :
    Bool × CertificateVerifier :=
  if status ≠ 0 then
    let code := if status &&& certTrustIsNotTimeValid ≠ 0 then "tls_expired"
      else if status &&& certTrustIsRevoked ≠ 0 then "tls_revoked"
      else "tls_untrusted_root"
    (false, v.fail code (chainStatusText status))
  else v.verifyPolicy answer

def verifyChain (v : CertificateVerifier) (answer : ChainAnswer) : Bool × CertificateVerifier :=
  match answer.chain with
  | .error error =>
      (false, v.fail "tls_chain_failed" (ascii "the certificate chain could not be built (error "
        ++ toText error ++ ascii ")"))
  | .ok context =>
      let soft := certTrustRevocationStatusUnknown ||| certTrustIsOfflineRevocation
      let status := context.errorStatus &&& ~~~soft
      if v.exclusive then
        let rooted := context.lastHashes.any fun last => match last with
          | none => false
          | some hash => hash ≠ [] && v.rootHashes.contains hash
        if !rooted then
          (false, v.fail "tls_untrusted_root"
            (ascii "the certificate does not chain to a certificate in ca_file"))
        else v.verifyStatus (status &&& ~~~certTrustIsUntrustedRoot) answer
      else v.verifyStatus status answer

/-- The part of `VerifyName` for a host that is an IP literal. -/
def verifyIpName (platform : Platform) (v : CertificateVerifier) (hasSan : Bool) (names : AltNames) :
    Bool × CertificateVerifier :=
  let target := canonicalIp platform v.host
  if names.ipNames.any fun name => target ≠ [] && name == target then (true, v)
  else if names.ipNames = [] then
    (false, v.fail "tls_name_mismatch"
      (ascii "the certificate carries no IP address subject alternative name ("
        ++ ascii (if hasSan then "a subjectAltName was found" else "no subjectAltName was found")
        ++ ascii ", " ++ toText names.dnsNames.length ++ ascii " DNS names, walk[" ++ names.trace
        ++ ascii "]"))
  else (false, v.fail "tls_name_mismatch" (ascii "the certificate is not valid for this IP address"))

/-- The common name up to its first comma. -/
def simpleName (name : WString) : WString := name.takeWhile (· ≠ 44)

def verifyCommonName (v : CertificateVerifier) (answer : ChainAnswer) : Bool × CertificateVerifier :=
  let mismatch := v.fail "tls_name_mismatch" (ascii "the certificate carries no name for this host")
  match answer.commonName with
  | none => (false, mismatch)
  | some name =>
      if asciiEqualsInsensitive (simpleName name) v.host then (true, v) else (false, mismatch)

def verifyName (platform : Platform) (v : CertificateVerifier) (certificate : Certificate)
    (answer : ChainAnswer) : Bool × CertificateVerifier :=
  let (hasSan, names) := readAltNames platform certificate
  if isIpLiteral platform v.host then v.verifyIpName platform hasSan names
  else if names.dnsNames.any fun name =>
      asciiEqualsInsensitive name v.host || matchesWildcard v.host name then (true, v)
  else if names.dnsNames ≠ [] then
    (false, v.fail "tls_name_mismatch" (ascii "no subject alternative name matches this host"))
  else v.verifyCommonName answer

/-- `VerifyChain(certificate) && VerifyName(certificate)`. -/
def verifyBoth (platform : Platform) (v : CertificateVerifier) (certificate : Certificate)
    (answer : ChainAnswer) : Bool × CertificateVerifier :=
  match v.verifyChain answer with
  | (false, v) => (false, v)
  | (true, v) => v.verifyName platform certificate answer

def check (platform : Platform) (v : CertificateVerifier) (certificate : Certificate)
    (answer : ChainAnswer) : Bool × CertificateVerifier :=
  let v := { v with checked := true }
  if !v.verify then (true, v)
  else if v.failed then (false, v)
  else if !certificate.readable then
    (false, v.fail "tls_no_certificate" (ascii "the peer sent no readable certificate"))
  else v.verifyBoth platform certificate answer

end CertificateVerifier

end LuaXENetwork
