import LuaXENetwork.Tls.ClientCertificate

/-! Which certificate a client shows, and what the search for it leaves open. -/

namespace LuaXENetwork
open Library

/-- A certificate that can be shown. -/
def StoreCertificate.Usable (c : StoreCertificate) : Prop :=
  c.friendlyName = true ∧ c.subjectName.isSome = true ∧ c.privateKey = true

instance (c : StoreCertificate) : Decidable c.Usable := inferInstanceAs (Decidable (_ ∧ _ ∧ _))

/-- The references behind a pointer that may be null. -/
def refs (context : Option CertReference) : List Nat := (context.map CertReference.reference).toList

namespace CertificateUse

variable {u : CertificateUse} {owned : List Nat}

theorem free_balanced {context : Option CertReference} (balanced : u.contexts.Balanced (refs context ++ owned)) :
    (u.free context).contexts.Balanced owned := by
  cases context with
  | none => exact balanced
  | some context => exact balanced.give

theorem free_keeps (u : CertificateUse) (context : Option CertReference) :
    (u.free context).credentials = u.credentials ∧ (u.free context).keys = u.keys := by
  cases context with
  | none => exact ⟨rfl, rfl⟩
  | some context => exact ⟨rfl, rfl⟩

/-- The search without a subject name: it stops at the first usable certificate, and only then is the
reference to it in the store left out. -/
structure Searched (u : CertificateUse) (owned : List Nat) (store : List StoreCertificate)
    (result : Option CertReference × CertificateUse) : Prop where
  chosen : result.1.map CertReference.certificate = store.find? (·.Usable)
  contexts : ∃ lost, result.2.contexts.Balanced (refs result.1 ++ (lost ++ owned)) ∧
    lost.length = result.1.toList.length
  keys : result.2.keys = u.keys + result.1.toList.length
  credentials : result.2.credentials = u.credentials

theorem searchClient_searched (current : Option CertReference) (store : List StoreCertificate)
    (balanced : u.contexts.Balanced (refs current ++ owned)) :
    Searched u owned store (u.searchClient none none current store) := by
  induction store generalizing u current with
  | nil =>
      have keeps := free_keeps u current
      exact ⟨rfl, ⟨[], free_balanced balanced, rfl⟩, keeps.2, keeps.1⟩
  | cons certificate rest ih =>
      have freed := free_balanced balanced
      obtain ⟨credentials, keys⟩ := free_keeps u current
      have next := freed.take
      -- A certificate that is passed over: the search goes on with its reference as the current one.
      have passes (unusable : ¬ certificate.Usable) :
          Searched u owned (certificate :: rest)
            (((u.free current).reference certificate).2.searchClient none none
              (some ((u.free current).reference certificate).1) rest) := by
        have later := ih (u := ((u.free current).reference certificate).2)
          (some ((u.free current).reference certificate).1) next
        constructor
        · rw [later.chosen, List.find?_cons_of_neg (by simpa using unusable)]
        · exact later.contexts
        · rw [later.keys]
          exact congrArg (· + _) keys
        · exact later.credentials.trans credentials
      rw [searchClient]
      cases friendlyName : certificate.friendlyName with
      | false => exact passes fun usable => by simp [usable.1] at friendlyName
      | true =>
          cases subjectName : certificate.subjectName with
          | none =>
              apply passes
              intro usable
              have named := usable.2.1
              rw [subjectName] at named
              cases named
          | some nameString =>
              cases privateKey : certificate.privateKey with
              | false => exact passes fun usable => by simp [usable.2.2] at privateKey
              | true =>
                  have usable : certificate.Usable := ⟨friendlyName, by rw [subjectName]; rfl, privateKey⟩
                  constructor
                  · rw [List.find?_cons_of_pos (by simpa using usable)]
                    rfl
                  · exact ⟨[(u.free current).contexts.next], next.take, rfl⟩
                  · exact congrArg (· + 1) keys
                  · exact credentials

end CertificateUse

open CertificateUse

/-! ## One certificate -/

namespace CertificateAnswers

/-- The leaf of a chain in the machine store to an issuer that the server names. -/
def fromIssuers (a : CertificateAnswers) : Option StoreCertificate :=
  if a.issuers = 0 then none else a.machineStore.toOption.join

/-- The first usable certificate of the user store, which is only looked into without such a leaf. -/
def fromUserStore (a : CertificateAnswers) : Option StoreCertificate :=
  if a.fromIssuers.isSome then none else a.userStore.toOption.bind (List.find? (·.Usable))

def certificate (a : CertificateAnswers) : Option StoreCertificate := a.fromIssuers.or a.fromUserStore

/-- What the search returns without a certificate. -/
def unfound (a : CertificateAnswers) : UInt32 :=
  match a.userStore with
  | .error status => status
  | .ok _ => hresultFromWin32 a.lastError

end CertificateAnswers

variable {u : CertificateUse} {owned : List Nat} {answers : CertificateAnswers}

/-- A search that was made: what it found, and what it leaves open besides. -/
structure Selected (u : CertificateUse) (owned : List Nat) (answers : CertificateAnswers)
    (result : UInt32 × Option CertReference × CertificateUse) : Prop where
  chosen : result.2.1.map CertReference.certificate = answers.certificate
  status : result.1 = if answers.certificate.isSome then secEOk else answers.unfound
  contexts : ∃ lost, result.2.2.contexts.Balanced (refs result.2.1 ++ (lost ++ owned)) ∧
    lost.length = answers.fromUserStore.toList.length
  keys : result.2.2.keys = u.keys + answers.fromUserStore.toList.length
  credentials : result.2.2.credentials = u.credentials

theorem certFindClientCertificate_ok (certificates : List StoreCertificate) (lastError : UInt32) :
    u.certFindClientCertificate none none (.ok certificates) lastError =
      (if (u.searchClient none none none certificates).1.isSome then secEOk else hresultFromWin32 lastError,
        u.searchClient none none none certificates) := by
  unfold certFindClientCertificate
  change (if (u.searchClient none none none certificates).1.isNone then
      (hresultFromWin32 lastError, u.searchClient none none none certificates)
    else (secEOk, u.searchClient none none none certificates)) = _
  cases found : (u.searchClient none none none certificates).1 with
  | none => rfl
  | some context => rfl

theorem certFindClientCertificate_selected (balanced : u.contexts.Balanced owned)
    (unnamed : answers.fromIssuers = none) :
    Selected u owned answers (u.certFindClientCertificate none none answers.userStore answers.lastError) := by
  have from_user : answers.certificate = answers.fromUserStore := by
    rw [CertificateAnswers.certificate, unnamed]
    rfl
  have first : answers.fromUserStore = answers.userStore.toOption.bind (List.find? (·.Usable)) := by
    rw [CertificateAnswers.fromUserStore, unnamed]
    rfl
  cases store : answers.userStore with
  | error status =>
      rw [store] at first
      have nothing : answers.fromUserStore = none := first
      rw [nothing] at from_user
      constructor
      · exact from_user.symm
      · rw [from_user, CertificateAnswers.unfound, store]
        rfl
      · exact ⟨[], balanced, by rw [nothing]; rfl⟩
      · rw [nothing]
        rfl
      · rfl
  | ok certificates =>
      rw [store] at first
      have searched := searchClient_searched (u := u) none certificates balanced
      have same := searched.chosen.trans first.symm
      have length := congrArg (fun found => found.toList.length) same
      rw [Option.toList_map, List.length_map] at length
      rw [certFindClientCertificate_ok]
      constructor
      · exact same.trans from_user.symm
      · rw [from_user, ← same, Option.isSome_map, CertificateAnswers.unfound, store]
      · obtain ⟨lost, balance, as_many⟩ := searched.contexts
        exact ⟨lost, balance, as_many.trans length⟩
      · exact searched.keys.trans (congrArg _ length)
      · exact searched.credentials

/-- Without a leaf for the issuers, the search is that of the user store. -/
theorem selectClientCertificate_none (unnamed : answers.fromIssuers = none) :
    selectClientCertificate u (some answers.issuers) true answers =
      u.certFindClientCertificate none none answers.userStore answers.lastError := by
  rw [CertificateAnswers.fromIssuers] at unnamed
  cases issuers : answers.issuers with
  | zero => rfl
  | succ more =>
      rw [issuers, if_neg (Nat.succ_ne_zero more)] at unnamed
      unfold selectClientCertificate certFindFromIssuerList
      cases store : answers.machineStore with
      | error status => rfl
      | ok leaf =>
          rw [store] at unnamed
          change leaf = none at unnamed
          rw [unnamed]
          rfl

theorem selectClientCertificate_some {leaf : StoreCertificate} (named : answers.fromIssuers = some leaf) :
    selectClientCertificate u (some answers.issuers) true answers =
      (secEOk, some (u.reference leaf).1, (u.reference leaf).2) := by
  rw [CertificateAnswers.fromIssuers] at named
  cases issuers : answers.issuers with
  | zero =>
      rw [issuers] at named
      cases named
  | succ more =>
      rw [issuers, if_neg (Nat.succ_ne_zero more)] at named
      unfold selectClientCertificate certFindFromIssuerList
      cases store : answers.machineStore with
      | error status =>
          rw [store] at named
          cases named
      | ok found =>
          rw [store] at named
          change found = some leaf at named
          rw [named]
          rfl

theorem selectClientCertificate_selected (balanced : u.contexts.Balanced owned) :
    Selected u owned answers (selectClientCertificate u (some answers.issuers) true answers) := by
  cases leaf : answers.fromIssuers with
  | none =>
      rw [selectClientCertificate_none leaf]
      exact certFindClientCertificate_selected balanced leaf
  | some certificate =>
      have chosen : answers.certificate = some certificate := by
        rw [CertificateAnswers.certificate, leaf]
        rfl
      have unsearched : answers.fromUserStore = none := by
        rw [CertificateAnswers.fromUserStore, leaf]
        rfl
      rw [selectClientCertificate_some leaf]
      constructor
      · exact chosen.symm
      · rw [chosen]
        rfl
      · rw [unsearched]
        exact ⟨[], balanced.take, rfl⟩
      · rw [unsearched]
        rfl
      · rfl

theorem Selected.granted {status : UInt32} {rest : Option CertReference × CertificateUse}
    (selected : Selected u owned answers (status, rest)) :
    isFailure status = false ↔ answers.certificate.isSome = true ∨ isFailure answers.unfound = false := by
  have status_eq : status = if answers.certificate.isSome then secEOk else answers.unfound := selected.status
  cases found : answers.certificate.isSome with
  | false =>
      rw [found, if_neg Bool.false_ne_true] at status_eq
      rw [status_eq]
      simp
  | true =>
      rw [found, if_pos rfl] at status_eq
      rw [status_eq]
      exact iff_of_true (by decide) (.inl rfl)

/-! ## One round -/

namespace ClientCredentials

/-- The round returns `SEC_E_OK`. -/
def Granted (a : CertificateAnswers) : Prop :=
  a.queried = secEOk ∧ (a.certificate.isSome = true ∨ isFailure a.unfound = false) ∧ a.acquired = secEOk

instance (a : CertificateAnswers) : Decidable (Granted a) := inferInstanceAs (Decidable (_ ∧ _ ∧ _))

/-- The certificates of the user store that a round refers to. -/
def looked (a : CertificateAnswers) : Nat :=
  if a.queried = secEOk then a.fromUserStore.toList.length else 0

/-- What a client holds and has lost. -/
structure Holding (c : ClientCredentials) (lost : List Nat) : Prop where
  contexts : c.use.contexts.Balanced lost
  credentials : c.use.credentials.Balanced (c.clientCreds.map Credentials.handle).toList
  keys : c.use.keys = lost.length

/-- One round: what is shown after it, and what has been lost in it. -/
structure Round (c : ClientCredentials) (lost : List Nat) (a : CertificateAnswers)
    (result : UInt32 × ClientCredentials) : Prop where
  granted : result.1 = secEOk ↔ Granted a
  shown : result.2.clientCreds.map Credentials.certificate =
    if Granted a then some a.certificate else c.clientCreds.map Credentials.certificate
  holding : ∃ more, result.2.Holding (more ++ lost) ∧ more.length = looked a

/-- The context of a round goes back, whatever came of it. -/
theorem Holding.free {u : CertificateUse} {context : Option CertReference} {creds : Option Credentials}
    {lost : List Nat} (contexts : u.contexts.Balanced (refs context ++ lost))
    (credentials : u.credentials.Balanced (creds.map Credentials.handle).toList)
    (keys : u.keys = lost.length) : Holding ⟨creds, u.free context⟩ lost where
  contexts := free_balanced contexts
  credentials := by
    rw [show (u.free context).credentials = _ from (free_keeps u context).1]
    exact credentials
  keys := (free_keeps u context).2.trans keys

/-- New credentials take the place of the old ones, which are closed. -/
theorem Holding.replace {u : CertificateUse} {context : Option CertReference} {creds : Option Credentials}
    {certificate : Option StoreCertificate} {lost : List Nat} (contexts : u.contexts.Balanced (refs context ++ lost))
    (credentials : u.credentials.Balanced (creds.map Credentials.handle).toList) (keys : u.keys = lost.length) :
    Holding ⟨some ⟨u.credentials.next, certificate⟩,
      (close { u with credentials := u.credentials.take } creds).free context⟩ lost := by
  have taken := credentials.take
  cases creds with
  | none => exact .free contexts taken keys
  | some creds => exact .free contexts (taken.congr (.swap ..)).give keys

theorem getNewClientCredentials_round {c : ClientCredentials} {lost : List Nat} (holding : c.Holding lost)
    (a : CertificateAnswers) : Round c lost a (c.getNewClientCredentials a) := by
  by_cases queried : a.queried = secEOk
  · have selected : Selected c.use lost a _ := selectClientCertificate_selected holding.contexts
    have looks : looked a = a.fromUserStore.toList.length := if_pos queried
    unfold getNewClientCredentials
    rw [if_neg (not_not.mpr queried)]
    generalize selectClientCertificate c.use (some a.issuers) true a = result at selected
    obtain ⟨status, context, u⟩ := result
    obtain ⟨more, balance, as_many⟩ := selected.contexts
    have found := selected.granted
    have credentials : u.credentials.Balanced (c.clientCreds.map Credentials.handle).toList := by
      rw [show u.credentials = _ from selected.credentials]
      exact holding.credentials
    have keys : u.keys = (more ++ lost).length := by
      rw [show u.keys = _ from selected.keys, holding.keys, List.length_append, as_many, Nat.add_comm]
    have freed := Holding.free balance credentials keys
    by_cases refused : isFailure status = true
    · have ungranted : ¬ Granted a := fun granted =>
        Bool.false_ne_true ((found.mpr granted.2.1).symm.trans refused)
      have no_context : context = none := by
        have unfound := (not_or.mp (mt found.mpr (by rw [refused]; decide))).1
        rw [← selected.chosen, Option.isSome_map] at unfound
        simpa using unfound
      change Round c lost a (if isFailure status = true then (status, { c with use := u }) else _)
      rw [if_pos refused]
      constructor
      · apply iff_of_false _ ungranted
        intro ok
        rw [show status = secEOk from ok] at refused
        exact absurd refused (by decide)
      · rw [if_neg ungranted]
      · rw [no_context] at freed
        exact ⟨more, freed, as_many.trans looks.symm⟩
    · have chose := found.mp (by simpa using refused)
      change Round c lost a (if isFailure status = true then _ else _)
      rw [if_neg refused, create]
      by_cases acquired : a.acquired = secEOk
      · have granted : Granted a := ⟨queried, chose, acquired⟩
        rw [if_neg (not_not.mpr acquired)]
        constructor
        · exact iff_of_true rfl granted
        · rw [if_pos granted]
          exact congrArg some selected.chosen
        · exact ⟨more, .replace balance credentials keys, as_many.trans looks.symm⟩
      · have ungranted : ¬ Granted a := fun granted => acquired granted.2.2
        rw [if_pos acquired]
        constructor
        · exact iff_of_false acquired ungranted
        · rw [if_neg ungranted]
        · exact ⟨more, freed, as_many.trans looks.symm⟩
  · have ungranted : ¬ Granted a := fun granted => queried granted.1
    unfold getNewClientCredentials
    rw [if_pos queried]
    constructor
    · exact iff_of_false queried ungranted
    · rw [if_neg ungranted]
    · exact ⟨[], holding, (if_neg queried).symm⟩

/-- The handshake begins without a certificate. -/
theorem initializeCredentials_holding (first : CertificateAnswers) :
    (initializeCredentials {} first).2.Holding [] ∧
      (initializeCredentials {} first).2.clientCreds.map Credentials.certificate =
        if first.acquired = secEOk then some none else none := by
  have start : (initializeCredentials {} first).2 =
      ⟨(create {} none first.acquired).2.1.or none, (create {} none first.acquired).2.2⟩ := rfl
  rw [start, create]
  by_cases acquired : first.acquired = secEOk
  · rw [if_neg (not_not.mpr acquired), if_pos acquired]
    exact ⟨⟨Ledger.balanced_empty, Ledger.balanced_empty.take, rfl⟩, rfl⟩
  · rw [if_pos acquired, if_neg acquired]
    exact ⟨⟨Ledger.balanced_empty, Ledger.balanced_empty, rfl⟩, rfl⟩

/-! ## All rounds -/

/-- What is shown after rounds. -/
def shown (before : Option (Option StoreCertificate)) (rounds : List CertificateAnswers) :
    Option (Option StoreCertificate) :=
  rounds.foldl (fun shown a => if Granted a then some a.certificate else shown) before

theorem rounds_holding {c : ClientCredentials} {lost : List Nat} (holding : c.Holding lost)
    (rounds : List CertificateAnswers) :
    ((c.renew rounds).clientCreds.map Credentials.certificate =
        shown (c.clientCreds.map Credentials.certificate) rounds) ∧
      ∃ more, (c.renew rounds).Holding (more ++ lost) ∧ more.length = (rounds.map looked).sum := by
  induction rounds generalizing c lost with
  | nil => exact ⟨rfl, [], holding, rfl⟩
  | cons a rounds ih =>
      have round := getNewClientCredentials_round holding a
      obtain ⟨more, held, as_many⟩ := round.holding
      obtain ⟨same, later, kept, as_many_later⟩ := ih held
      constructor
      · exact same.trans (by rw [round.shown]; rfl)
      · refine ⟨later ++ more, by rwa [List.append_assoc], ?_⟩
        rw [List.length_append, as_many, as_many_later, List.map_cons, List.sum_cons, Nat.add_comm]

/-- The credentials shown to the server at the end are those of the last request that was granted, all
others are closed, and one reference to a certificate and one private key stay with each request that was
answered from the user store. -/
theorem renew_credentials (first : CertificateAnswers) (rounds : List CertificateAnswers) :
    let client := (initializeCredentials {} first).2.renew rounds
    client.clientCreds.map Credentials.certificate =
        shown (if first.acquired = secEOk then some none else none) rounds ∧
      (client.destruct.credentials.held = [] ∧ client.destruct.credentials.strays = 0) ∧
      (client.destruct.contexts.strays = 0 ∧
        client.destruct.contexts.held.length = (rounds.map looked).sum) ∧
      client.destruct.keys = (rounds.map looked).sum := by
  intro client
  obtain ⟨held, anonymous⟩ := initializeCredentials_holding first
  obtain ⟨same, more, holding, as_many⟩ := rounds_holding held rounds
  rw [List.append_nil] at holding
  have contexts := holding.contexts
  have closed : client.destruct.credentials.Balanced [] := by
    have credentials : client.use.credentials.Balanced (client.clientCreds.map Credentials.handle).toList :=
      holding.credentials
    rw [destruct]
    cases creds : client.clientCreds with
    | none =>
        rw [creds] at credentials
        exact credentials
    | some shown =>
        rw [creds] at credentials
        exact credentials.give
  have kept : client.destruct.contexts = client.use.contexts ∧ client.destruct.keys = client.use.keys := by
    rw [destruct]
    cases client.clientCreds with
    | none => exact ⟨rfl, rfl⟩
    | some creds => exact ⟨rfl, rfl⟩
  rw [kept.1, kept.2]
  constructor
  · rw [← anonymous]
    exact same
  · exact ⟨⟨closed.empty, closed.strays⟩, ⟨contexts.strays, contexts.perm.length_eq.trans as_many⟩,
      holding.keys.trans as_many⟩

end ClientCredentials

end LuaXENetwork
