import LuaXENetwork.Tls.Verify

/-! What a verdict of `CertificateVerifier` leaves behind. -/

namespace LuaXENetwork.CertificateVerifier

variable {platform : Platform} {v : CertificateVerifier} {certificate : Certificate}
  {answer : ChainAnswer}

theorem fail_failed (v : CertificateVerifier) (code : String) (text : Bytes) :
    (v.fail code text).failed = true := by
  rw [fail]
  split
  · assumption
  · rfl

theorem fail_verify (v : CertificateVerifier) (code : String) (text : Bytes) :
    (v.fail code text).verify = v.verify := by
  rw [fail]
  split <;> rfl

theorem fail_checked (v : CertificateVerifier) (code : String) (text : Bytes) :
    (v.fail code text).checked = v.checked := by
  rw [fail]
  split <;> rfl

structure Verdict (v : CertificateVerifier) (result : Bool × CertificateVerifier) : Prop where
  accepted : result.1 = true → result.2 = v
  refused : result.1 = false → result.2.failed = true
  verify : result.2.verify = v.verify

theorem Verdict.accept (v : CertificateVerifier) : Verdict v (true, v) where
  accepted _ := rfl
  refused := nofun
  verify := rfl

theorem Verdict.refuse (v : CertificateVerifier) (code : String) (text : Bytes) :
    Verdict v (false, v.fail code text) where
  accepted := nofun
  refused _ := fail_failed v code text
  verify := fail_verify v code text

theorem verifyPolicy_verdict (v : CertificateVerifier) (answer : ChainAnswer) :
    Verdict v (v.verifyPolicy answer) := by
  rw [verifyPolicy]
  split
  · exact .refuse ..
  · split
    · exact .refuse ..
    · exact .accept v

theorem verifyStatus_verdict (v : CertificateVerifier) (status : UInt32) (answer : ChainAnswer) :
    Verdict v (v.verifyStatus status answer) := by
  rw [verifyStatus]
  split
  · exact .refuse ..
  · exact verifyPolicy_verdict v answer

theorem verifyChain_verdict (v : CertificateVerifier) (answer : ChainAnswer) :
    Verdict v (v.verifyChain answer) := by
  rw [verifyChain]
  split
  · exact .refuse ..
  · dsimp only
    split
    · split
      · exact .refuse ..
      · exact verifyStatus_verdict v _ answer
    · exact verifyStatus_verdict v _ answer

theorem verifyIpName_verdict (v : CertificateVerifier) (hasSan : Bool) (names : AltNames) :
    Verdict v (v.verifyIpName platform hasSan names) := by
  rw [verifyIpName]
  split
  · exact .accept v
  · split
    · exact .refuse ..
    · exact .refuse ..

theorem verifyCommonName_verdict (v : CertificateVerifier) (answer : ChainAnswer) :
    Verdict v (v.verifyCommonName answer) := by
  rw [verifyCommonName]
  split
  · exact .refuse ..
  · split
    · exact .accept v
    · exact .refuse ..

theorem verifyName_verdict (platform : Platform) (v : CertificateVerifier) (certificate : Certificate)
    (answer : ChainAnswer) : Verdict v (v.verifyName platform certificate answer) := by
  rw [verifyName]
  dsimp only
  split
  · exact verifyIpName_verdict v _ _
  · split
    · exact .accept v
    · split
      · exact .refuse ..
      · exact verifyCommonName_verdict v answer

def Accepts (platform : Platform) (v : CertificateVerifier) (certificate : Certificate)
    (answer : ChainAnswer) : Prop :=
  (v.verifyChain answer).1 = true ∧ (v.verifyName platform certificate answer).1 = true

theorem verifyBoth_cases (platform : Platform) (v : CertificateVerifier) (certificate : Certificate) (answer : ChainAnswer) :
    Verdict v (v.verifyBoth platform certificate answer) ∧
    ((v.verifyBoth platform certificate answer).1 = true → Accepts platform v certificate answer) := by
  have chain := verifyChain_verdict v answer
  have name := verifyName_verdict platform v certificate answer
  rw [verifyBoth]
  rcases linked : v.verifyChain answer with ⟨_ | _, v'⟩
  all_goals rw [linked] at chain
  · exact ⟨chain, nofun⟩
  · obtain rfl : v' = v := chain.accepted rfl
    exact ⟨name, fun named => ⟨by rw [linked], named⟩⟩

theorem check_cases (platform : Platform) (certificate : Certificate) (answer : ChainAnswer)
    (checks : v.verify = true) :
    ((v.check platform certificate answer).1 = false ∧
      (v.check platform certificate answer).2.failed = true ∧
      (v.check platform certificate answer).2.verify = true) ∨
    (v.check platform certificate answer = (true, { v with checked := true }) ∧ v.failed = false ∧
      Accepts platform { v with checked := true } certificate answer) := by
  rw [check]
  dsimp only
  rw [if_neg (by simp [checks])]
  by_cases hopeless : v.failed = true
  · rw [if_pos hopeless]
    exact .inl ⟨rfl, hopeless, checks⟩
  · rw [if_neg hopeless]
    split
    · exact .inl ⟨rfl, fail_failed .., (fail_verify ..).trans checks⟩
    · obtain ⟨verdict, both⟩ := verifyBoth_cases platform
        { v with checked := true } certificate answer
      rcases result : CertificateVerifier.verifyBoth platform { v with checked := true }
          certificate answer with ⟨_ | _, v'⟩
      all_goals rw [result] at verdict both
      · exact .inl ⟨rfl, verdict.refused rfl, verdict.verify.trans checks⟩
      · exact .inr ⟨congrArg (Prod.mk true) (verdict.accepted rfl), by simpa using hopeless, both rfl⟩

theorem check_failed (checks : v.verify = true) (failed : v.failed = true) :
    (v.check platform certificate answer).2.failed = true := by
  simp [check, checks, failed]

theorem check_verify (checks : v.verify = true) :
    (v.check platform certificate answer).2.verify = true := by
  rcases check_cases platform certificate answer checks with
    ⟨-, -, still⟩ | ⟨accepted, -, -⟩
  · exact still
  · rw [accepted]
    exact checks

theorem loadRoots_keeps (v : CertificateVerifier) (file : RootFile) :
    (v.loadRoots file).verify = v.verify ∧ (v.loadRoots file).checked = v.checked := by
  cases file with
  | noStore => exact ⟨fail_verify .., fail_checked ..⟩
  | unreadable => exact ⟨fail_verify .., fail_checked ..⟩
  | certificates hashes =>
      rw [loadRoots]
      split
      · exact ⟨fail_verify .., fail_checked ..⟩
      · exact ⟨rfl, rfl⟩

theorem create_fresh (host : WString) (caFile : Bytes) (verify checkRevocation : Bool)
    (file : RootFile) :
    (create host caFile verify checkRevocation file).verify = verify ∧
    (create host caFile verify checkRevocation file).checked = false := by
  rw [create]
  split
  · exact loadRoots_keeps _ file
  · exact ⟨rfl, rfl⟩

/-- `ca_file` was to be loaded, and nothing usable came of it. -/
def RootsLost (caFile : Bytes) (file : RootFile) : Prop :=
  caFile ≠ [] ∧ ∀ hashes, file = .certificates hashes → hashes.filter (· ≠ []) = []

theorem create_failed {host : WString} {caFile : Bytes} {checkRevocation : Bool} {file : RootFile}
    (lost : RootsLost caFile file) : (create host caFile true checkRevocation file).failed = true := by
  rw [create, if_pos ⟨rfl, lost.1⟩]
  cases file with
  | noStore => exact fail_failed ..
  | unreadable => exact fail_failed ..
  | certificates hashes =>
      have none_left := lost.2 hashes rfl
      rw [loadRoots]
      dsimp only
      rw [if_pos none_left]
      exact fail_failed ..

def checkAll (platform : Platform) (v : CertificateVerifier)
    (calls : List (Certificate × ChainAnswer)) : CertificateVerifier :=
  calls.foldl (fun v call => (v.check platform call.1 call.2).2) v

theorem checkAll_failed (checks : v.verify = true) (failed : v.failed = true)
    (calls : List (Certificate × ChainAnswer)) : (v.checkAll platform calls).failed = true := by
  induction calls generalizing v with
  | nil => exact failed
  | cons call calls ih => exact ih (check_verify checks) (check_failed checks failed)

end LuaXENetwork.CertificateVerifier
