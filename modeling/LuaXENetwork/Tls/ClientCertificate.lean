import LuaXENetwork.Library.Ledger
import LuaXENetwork.Tls.Client

/-! The certificate a server asks for: how it is searched for, and the credentials made from it. -/

namespace LuaXENetwork
open Library

/-- A certificate that may be used for client authentication: whether its friendly name is there, its
subject name as the buffer of 128 characters shows it, and whether its private key is accessible. -/
structure StoreCertificate where
  serial : Nat
  friendlyName : Bool
  subjectName : Option WString
  privateKey : Bool
deriving DecidableEq, Repr

/-- A reference to a `PCCERT_CONTEXT`. -/
structure CertReference where
  reference : Nat
  certificate : StoreCertificate
deriving DecidableEq, Repr

/-- A credentials handle, and the certificate it was acquired with. -/
structure Credentials where
  handle : Nat
  certificate : Option StoreCertificate
deriving DecidableEq, Repr

/-- The references and handles that are out, and the private keys that were acquired. -/
structure CertificateUse where
  contexts : Ledger := {}
  credentials : Ledger := {}
  keys : Nat := 0
deriving DecidableEq, Repr

def secECertUnknown : UInt32 := 0x80090327

/-- `HRESULT_FROM_WIN32`. -/
def hresultFromWin32 (error : UInt32) : UInt32 :=
  if error = 0 || isFailure error then error else 0x80070000 ||| error &&& 0xFFFF

namespace CertificateUse

variable (u : CertificateUse)

/-- A new reference to a context. -/
def reference (certificate : StoreCertificate) : CertReference × CertificateUse :=
  (⟨u.contexts.next, certificate⟩, { u with contexts := u.contexts.take })

/-- `CertFreeCertificateContext`, also on a null pointer. -/
def free : Option CertReference → CertificateUse
  | some context => { u with contexts := u.contexts.give context.reference }
  | none => u

/-- The loop of `CertFindClientCertificate`, on the certificates that are left. What
`CertFindCertificateInStore` is given as the last one it frees. -/
def searchClient (u : CertificateUse) (subjectName : Option WString) (pCertContext current : Option CertReference) :
    List StoreCertificate → Option CertReference × CertificateUse
  | [] => (pCertContext, u.free current)
  | certificate :: rest =>
      let u := u.free current
      let (current, u) := u.reference certificate
      if !certificate.friendlyName then u.searchClient subjectName pCertContext (some current) rest
      else match certificate.subjectName with
        | none => u.searchClient subjectName pCertContext (some current) rest
        | some nameString =>
            if !certificate.privateKey then u.searchClient subjectName pCertContext (some current) rest
            else
              let u := { u with keys := u.keys + 1 }
              let u := u.free pCertContext
              let (saved, u) := u.reference certificate
              if subjectName.any (· ≠ nameString) then
                u.searchClient subjectName (some saved) (some current) rest
              else (some saved, u)

/-- `CertFindClientCertificate`; `store` is what `GetStore` finds, and `lastError` the error of a search
that finds nothing. -/
def certFindClientCertificate (pCertContext : Option CertReference) (subjectName : Option WString)
    (store : Except UInt32 (List StoreCertificate)) (lastError : UInt32) :
    UInt32 × Option CertReference × CertificateUse :=
  match store with
  | .error status => (status, pCertContext, u)
  | .ok certificates =>
      let (pCertContext, u) := (u.free pCertContext).searchClient subjectName none none certificates
      if pCertContext.isNone then (hresultFromWin32 lastError, pCertContext, u) else (secEOk, pCertContext, u)

/-- `CertFindFromIssuerList`; of the store only the leaf of the first chain matters. -/
def certFindFromIssuerList (pCertContext : Option CertReference)
    (store : Except UInt32 (Option StoreCertificate)) (lastError : UInt32) :
    UInt32 × Option CertReference × CertificateUse :=
  let u := u.free pCertContext
  match store with
  | .error status => (status, none, u)
  | .ok none => (hresultFromWin32 lastError, none, u)
  | .ok (some leaf) =>
      let (context, u) := u.reference leaf
      (secEOk, some context, u)

end CertificateUse

/-- What the outside answers to one `GetNewClientCredentials`. -/
structure CertificateAnswers where
  queried : UInt32
  issuers : Nat
  machineStore : Except UInt32 (Option StoreCertificate)
  userStore : Except UInt32 (List StoreCertificate)
  lastError : UInt32
  acquired : UInt32
deriving Repr

/-- The credentials of a `CSSLClient`. -/
structure ClientCredentials where
  clientCreds : Option Credentials := none
  use : CertificateUse := {}
deriving DecidableEq, Repr

open CertificateUse

/-- `SelectClientCertificate`, given a null context; the number of issuers is that of the list, if there is
one. -/
def selectClientCertificate (u : CertificateUse) (issuers : Option Nat) (required : Bool)
    (answers : CertificateAnswers) : UInt32 × Option CertReference × CertificateUse :=
  if !required then (secECertUnknown, none, u)
  else
    let (status, pCertContext, u) :=
      if issuers.any (· ≠ 0) then u.certFindFromIssuerList none answers.machineStore answers.lastError
      else (secECertUnknown, none, u)
    if pCertContext.isNone then u.certFindClientCertificate pCertContext none answers.userStore answers.lastError
    else (status, pCertContext, u)

namespace ClientCredentials

variable (c : ClientCredentials)

/-- `CreateCredentialsFromCertificate`. -/
def create (u : CertificateUse) (pCertContext : Option CertReference) (acquired : UInt32) :
    UInt32 × Option Credentials × CertificateUse :=
  if acquired ≠ secEOk then (acquired, none, u)
  else (secEOk, some ⟨u.credentials.next, pCertContext.map CertReference.certificate⟩,
    { u with credentials := u.credentials.take })

/-- The part of `Initialize` before the handshake, which writes over the member. -/
def initializeCredentials (answers : CertificateAnswers) : UInt32 × ClientCredentials :=
  let (_, pCertContext, u) := selectClientCertificate c.use none false answers
  let (status, creds, u) := create u pCertContext answers.acquired
  (status, ⟨creds.or c.clientCreds, u.free pCertContext⟩)

/-- `~CredentialHandle`, and `Close`. -/
def close (u : CertificateUse) : Option Credentials → CertificateUse
  | some creds => { u with credentials := u.credentials.give creds.handle }
  | none => u

def getNewClientCredentials (answers : CertificateAnswers) : UInt32 × ClientCredentials :=
  if answers.queried ≠ secEOk then (answers.queried, c)
  else
    let (status, pCertContext, u) := selectClientCertificate c.use (some answers.issuers) true answers
    if isFailure status then (status, { c with use := u })
    else
      let (status, hCreds, u) := create u pCertContext answers.acquired
      -- The context goes back as its handle is left.
      match hCreds with
      | some creds => (status, ⟨some creds, (close u c.clientCreds).free pCertContext⟩)
      | none => (status, { c with use := u.free pCertContext })

/-- The requests for credentials of one handshake, each with its answers. -/
def renew (c : ClientCredentials) (rounds : List CertificateAnswers) : ClientCredentials :=
  rounds.foldl (fun c answers => (c.getNewClientCredentials answers).2) c

def destruct : CertificateUse := close c.use c.clientCreds

end ClientCredentials

end LuaXENetwork
