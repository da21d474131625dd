import ComplianceLedger.Pki.Keeper

/-!
# Chains of certificates

What `verifyCertificate` searches for, stated without the search. A chain leads from a certificate
through approved certificates, each of which verifies the one before it, up to a self-signed
certificate that verifies itself. A search that returns finds a chain exactly when there is one,
and it returns whenever the certificates that may have issued one another are well founded.

## Main definitions

* `Chain lib now s x root`: a chain from `x` up to a root with the identifier `root`
* `IssuedBy lib s`: the approved certificates that the search may move on to

## Main results

* `chain_of_verifyCertificate`, `not_chain_of_verifyCertificate`: the search is sound and complete
* `exists_verifyCertificate`: the search returns
-/

open Machine

namespace ComplianceLedger.Pki

section Definitions

variable (lib : CryptoX509) (now : ℤ) (s : Store)

/-- A chain of certificates from `x` up to a root, through the approved certificates. -/
inductive Chain : X509Certificate → String × String → Prop
  | root {x : X509Certificate} (self_signed : x.isSelfSigned = true)
      (verify : x.verify lib now x = .ok ()) : Chain x (x.subject, x.subjectKeyID)
  | link {x parent : X509Certificate} {record : ApprovedCertificates} {cert : Certificate}
      {root : String × String} (not_self_signed : x.isSelfSigned = false)
      (found : s.approvedCertificates.get (pairKey x.issuer x.authorityKeyID) = some record)
      (mem : cert ∈ record.certs) (decode : decodeX509Certificate lib cert.pemCert = .ok parent)
      (verify : x.verify lib now parent = .ok ()) (chain : Chain parent root) : Chain x root

/-- The search moves from `x` to an approved certificate of the identifier it names as its
issuer. -/
def IssuedBy (parent x : X509Certificate) : Prop :=
  x.isSelfSigned = false ∧ ∃ record,
    s.approvedCertificates.get (pairKey x.issuer x.authorityKeyID) = some record ∧
      ∃ cert ∈ record.certs, decodeX509Certificate lib cert.pemCert = .ok parent

end Definitions

variable {lib : CryptoX509} {now : ℤ} {s : Store} {x : X509Certificate}

/-! ## The loop over the parents -/

section Loop

variable {f g : X509Certificate → Option (Except SdkError (String × String))}
  {certs : List Certificate} {root : String × String} {e : SdkError}

theorem verifyAgainst_mono (hfg : ∀ p r, f p = some r → g p = some r)
    {r : Except SdkError (String × String)} (h : verifyAgainst lib now x f certs = some r) :
    verifyAgainst lib now x g certs = some r := by
  induction certs with
  | nil => exact h
  | cons cert certs ih =>
    rw [verifyAgainst] at h ⊢
    split at h
    · exact ih h
    · split at h
      · exact ih h
      · -- the recursive call returns the same with `g`, whatever it returns with `f`
        split at h
        · cases h
        · next hf => rw [hfg _ _ hf]; exact h
        · next hf => rw [hfg _ _ hf]; exact ih h

theorem exists_of_verifyAgainst_ok (h : verifyAgainst lib now x f certs = some (.ok root)) :
    ∃ cert ∈ certs, ∃ parent, decodeX509Certificate lib cert.pemCert = .ok parent ∧
      x.verify lib now parent = .ok () ∧ f parent = some (.ok root) := by
  induction certs with
  | nil => cases h
  | cons cert certs ih =>
    have hlater : verifyAgainst lib now x f certs = some (.ok root) → ∃ cert' ∈ cert :: certs,
        ∃ parent, decodeX509Certificate lib cert'.pemCert = .ok parent ∧
          x.verify lib now parent = .ok () ∧ f parent = some (.ok root) := fun h =>
      (ih h).imp fun _ hc => ⟨List.mem_cons_of_mem _ hc.1, hc.2⟩
    rw [verifyAgainst] at h
    split at h
    · exact hlater h
    · next parent hdecode =>
      split at h
      · exact hlater h
      · next hverify =>
        split at h
        · cases h
        · next hf =>
          obtain rfl := Except.ok.inj (Option.some.inj h)
          exact ⟨cert, List.mem_cons_self, parent, hdecode, hverify, hf⟩
        · exact hlater h

theorem forall_of_verifyAgainst_error (h : verifyAgainst lib now x f certs = some (.error e)) :
    e = verificationFailed x ∧ ∀ cert ∈ certs, ∀ parent,
      decodeX509Certificate lib cert.pemCert = .ok parent → x.verify lib now parent = .ok () →
        ∃ e', f parent = some (.error e') := by
  induction certs with
  | nil =>
    obtain rfl := Except.error.inj (Option.some.inj h)
    exact ⟨rfl, fun cert hcert => nomatch hcert⟩
  | cons cert certs ih =>
    rw [verifyAgainst] at h
    -- a certificate that is skipped is excluded by the test that skipped it
    split at h
    · next hskip =>
      refine ⟨(ih h).1, fun c hc parent hdecode hverify => ?_⟩
      rcases List.mem_cons.mp hc with rfl | hc
      · rw [hdecode] at hskip
        cases hskip
      · exact (ih h).2 c hc parent hdecode hverify
    · next p hp =>
      split at h
      · next hskip =>
        refine ⟨(ih h).1, fun c hc parent hdecode hverify => ?_⟩
        rcases List.mem_cons.mp hc with rfl | hc
        · obtain rfl := Except.ok.inj (hp.symm.trans hdecode)
          rw [hverify] at hskip
          cases hskip
        · exact (ih h).2 c hc parent hdecode hverify
      · split at h
        · cases h
        · cases h
        · next e' hf =>
          refine ⟨(ih h).1, fun c hc parent hdecode hverify => ?_⟩
          rcases List.mem_cons.mp hc with rfl | hc
          · obtain rfl := Except.ok.inj (hp.symm.trans hdecode)
            exact ⟨e', hf⟩
          · exact (ih h).2 c hc parent hdecode hverify

/-- The loop returns if the recursive calls return with enough fuel. -/
theorem exists_verifyAgainst {v : ℕ → X509Certificate → Option (Except SdkError (String × String))}
    (hmono : ∀ {m n p r}, m ≤ n → v m p = some r → v n p = some r)
    (h : ∀ cert ∈ certs, ∀ parent, decodeX509Certificate lib cert.pemCert = .ok parent →
      ∃ fuel r, v fuel parent = some r) :
    ∃ fuel r, verifyAgainst lib now x (v fuel) certs = some r := by
  induction certs with
  | nil => exact ⟨0, _, rfl⟩
  | cons cert certs ih =>
    obtain ⟨m, r, hm⟩ := ih fun c hc => h c (List.mem_cons_of_mem _ hc)
    have hlater : ∀ n, m ≤ n → verifyAgainst lib now x (v n) certs = some r := fun n hn =>
      verifyAgainst_mono (fun p r => hmono hn) hm
    cases hdecode : decodeX509Certificate lib cert.pemCert with
    | error e => exact ⟨m, r, by rw [verifyAgainst, hdecode]; exact hm⟩
    | ok parent =>
      cases hverify : x.verify lib now parent with
      | error e => exact ⟨m, r, by rw [verifyAgainst, hdecode]; simp only [hverify]; exact hm⟩
      | ok u =>
        obtain ⟨n, q, hn⟩ := h cert List.mem_cons_self parent hdecode
        have hn' := hmono (le_max_right m n) hn
        have hm' := hlater _ (le_max_left m n)
        cases q with
        | ok root =>
          exact ⟨max m n, .ok root, by rw [verifyAgainst, hdecode]; simp only [hverify, hn']⟩
        | error e =>
          exact ⟨max m n, r, by rw [verifyAgainst, hdecode]; simp only [hverify, hn', hm']⟩

end Loop

/-! ## The search -/

theorem verifyCertificate_succ {fuel : ℕ} : ∀ {x : X509Certificate}
    {r : Except SdkError (String × String)}, verifyCertificate lib now s fuel x = some r →
      verifyCertificate lib now s (fuel + 1) x = some r := by
  induction fuel with
  | zero => exact fun h => nomatch h
  | succ fuel ih =>
    intro x r h
    rw [verifyCertificate] at h ⊢
    split at h
    · next hself => rw [if_pos hself]; exact h
    · next hself =>
      rw [if_neg hself]
      cases hrecord : s.getApprovedCertificates x.issuer x.authorityKeyID with
      | none => rw [hrecord] at h; exact h
      | some record =>
        rw [hrecord] at h
        exact verifyAgainst_mono (fun p r => ih) h

theorem verifyCertificate_mono {m n : ℕ} (hmn : m ≤ n) {r : Except SdkError (String × String)}
    (h : verifyCertificate lib now s m x = some r) : verifyCertificate lib now s n x = some r := by
  induction hmn with
  | refl => exact h
  | step _ ih => exact verifyCertificate_succ ih

/-- **The search is sound**: what it returns is the end of a chain. -/
theorem chain_of_verifyCertificate {fuel : ℕ} {root : String × String}
    (h : verifyCertificate lib now s fuel x = some (.ok root)) : Chain lib now s x root := by
  induction fuel generalizing x with
  | zero => cases h
  | succ fuel ih =>
    rw [verifyCertificate] at h
    split at h
    · next hself =>
      split at h
      · next hverify =>
        obtain rfl := Except.ok.inj (Option.some.inj h)
        exact Chain.root hself hverify
      · cases h
    · next hself =>
      split at h
      · cases h
      · next record hrecord =>
        obtain ⟨cert, hcert, parent, hdecode, hverify, hparent⟩ := exists_of_verifyAgainst_ok h
        exact Chain.link (by simpa using hself) hrecord hcert hdecode hverify (ih hparent)

/-- **The search is complete**: when it fails there is no chain. -/
theorem not_chain_of_verifyCertificate {fuel : ℕ} {e : SdkError}
    (h : verifyCertificate lib now s fuel x = some (.error e)) :
    e = verificationFailed x ∧ ∀ root, ¬ Chain lib now s x root := by
  induction fuel generalizing x e with
  | zero => cases h
  | succ fuel ih =>
    rw [verifyCertificate] at h
    split at h
    · next hself =>
      split at h
      · cases h
      · next e' hverify =>
        obtain rfl := Except.error.inj (Option.some.inj h)
        refine ⟨rfl, fun root hchain => ?_⟩
        cases hchain with
        | root _ hverify' => rw [hverify'] at hverify; cases hverify
        | link hnot => rw [hself] at hnot; cases hnot
    · next hself =>
      split at h
      · next hnone =>
        obtain rfl := Except.error.inj (Option.some.inj h)
        refine ⟨rfl, fun root hchain => ?_⟩
        cases hchain with
        | root hself' => exact hself hself'
        | link _ hrecord => exact absurd (hnone.symm.trans hrecord) (by simp)
      · next record hrecord =>
        obtain ⟨rfl, hall⟩ := forall_of_verifyAgainst_error h
        refine ⟨rfl, fun root hchain => ?_⟩
        cases hchain with
        | root hself' => exact hself hself'
        | link _ hrecord' hcert hdecode hverify hparent =>
          obtain rfl := Option.some.inj (hrecord.symm.trans hrecord')
          obtain ⟨e', he'⟩ := hall _ hcert _ hdecode hverify
          exact (ih he').2 root hparent

/-- **The search returns** where the certificates that may have issued one another are well
founded. -/
theorem exists_verifyCertificate (h : Acc (IssuedBy lib s) x) (now : ℤ) :
    ∃ fuel r, verifyCertificate lib now s fuel x = some r := by
  induction h with
  | intro x _ ih =>
    by_cases hself : x.isSelfSigned = true
    · refine ⟨1, ?_⟩
      rw [verifyCertificate, if_pos hself]
      split <;> exact ⟨_, rfl⟩
    · cases hrecord : s.getApprovedCertificates x.issuer x.authorityKeyID with
      | none => exact ⟨1, _, by rw [verifyCertificate, if_neg hself, hrecord]⟩
      | some record =>
        have hparents : ∀ cert ∈ record.certs, ∀ parent,
            decodeX509Certificate lib cert.pemCert = .ok parent →
              ∃ fuel r, verifyCertificate lib now s fuel parent = some r :=
          fun cert hcert parent hdecode =>
            ih parent ⟨by simpa using hself, record, hrecord, cert, hcert, hdecode⟩
        obtain ⟨fuel, r, hr⟩ : ∃ fuel r,
            verifyAgainst lib now x (verifyCertificate lib now s fuel) record.certs = some r :=
          exists_verifyAgainst (fun hmn => verifyCertificate_mono hmn) hparents
        exact ⟨fuel + 1, r, by rw [verifyCertificate, if_neg hself, hrecord]; exact hr⟩

end ComplianceLedger.Pki
