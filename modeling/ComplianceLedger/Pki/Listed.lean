import ComplianceLedger.Pki.Index

/-!
# What the lists hold in every run

Two facts about the approved records that hold in every run, whatever identifiers the messages
name. In each record the certificates that are not roots have one issuer, and they come before any
root. And every approved root is on the list of approved roots.

## Main definitions

* `Arranged certs`: the certificates of one record, by issuer and kind
* `Listed s`: the records are arranged, and their roots are listed

## Main results

* `listed_step`, `listed_of_reachable`: the invariant of every run
-/

open Machine Machine.TransitionSystem

namespace ComplianceLedger.Pki

/-- The certificates of a record that are not roots have one issuer, and a record that begins with a
root has only roots. -/
structure Arranged (certs : List Certificate) : Prop where
  issuer : ∀ c ∈ certs, ∀ c' ∈ certs, c.isRoot = false → c'.isRoot = false →
    c.issuer = c'.issuer ∧ c.authorityKeyId = c'.authorityKeyId
  first : ∀ first rest, certs = first :: rest → first.isRoot = true →
    ∀ c ∈ certs, c.isRoot = true

/-- All records are arranged, and their roots are on the list of approved roots. -/
structure Listed (s : Store) : Prop where
  arranged : ∀ k, Arranged (s.approvedCerts k)
  roots : ∀ k, ∀ cert ∈ s.approvedCerts k, cert.isRoot = true → cert.certID ∈ s.approvedRoots

/-! ## Arranged records -/

theorem Arranged.nil : Arranged [] where
  issuer _ hc := nomatch hc
  first _ _ hcerts := nomatch hcerts

/-- A root can join any record. -/
theorem Arranged.append_root {certs : List Certificate} (h : Arranged certs) {cert : Certificate}
    (hroot : cert.isRoot = true) : Arranged (certs ++ [cert]) where
  issuer c hc c' hc' hnot hnot' := by
    -- neither of two certificates that are not roots is the new one
    have hold : ∀ c ∈ certs ++ [cert], c.isRoot = false → c ∈ certs := by
      intro c hc hnot
      rcases List.mem_append.mp hc with hc | hc
      · exact hc
      · rw [List.mem_singleton.mp hc, hroot] at hnot
        cases hnot
    exact h.issuer c (hold c hc hnot) c' (hold c' hc' hnot') hnot hnot'
  first first rest hcerts hfirst c hc := by
    rcases List.mem_append.mp hc with hc | hc
    · obtain ⟨head, tail, rfl⟩ := List.exists_cons_of_ne_nil (List.ne_nil_of_mem hc)
      obtain ⟨rfl, -⟩ := List.cons.inj hcerts
      exact h.first head tail rfl hfirst c hc
    · rw [List.mem_singleton.mp hc, hroot]

/-- A certificate that is not a root can join a record that begins with one of the same issuer. -/
theorem Arranged.append_cert {certs : List Certificate} (h : Arranged certs) {cert : Certificate}
    (hnot : cert.isRoot = false)
    (hfirst : ∀ first rest, certs = first :: rest → first.isRoot = false ∧
      cert.issuer = first.issuer ∧ cert.authorityKeyId = first.authorityKeyId) :
    Arranged (certs ++ [cert]) where
  issuer := by
    -- every certificate that is not a root has the issuer of the new one
    have hsame : ∀ c ∈ certs ++ [cert], c.isRoot = false →
        c.issuer = cert.issuer ∧ c.authorityKeyId = cert.authorityKeyId := by
      intro c hc hc'
      rcases List.mem_append.mp hc with hc | hc
      · obtain ⟨head, tail, rfl⟩ := List.exists_cons_of_ne_nil (List.ne_nil_of_mem hc)
        obtain ⟨hhead, hissuer, hauthority⟩ := hfirst head tail rfl
        have hagree := h.issuer c hc head List.mem_cons_self hc' hhead
        exact ⟨hagree.1.trans hissuer.symm, hagree.2.trans hauthority.symm⟩
      · rw [List.mem_singleton.mp hc]
        exact ⟨rfl, rfl⟩
    intro c hc c' hc' hnot hnot'
    obtain ⟨hi, ha⟩ := hsame c hc hnot
    obtain ⟨hi', ha'⟩ := hsame c' hc' hnot'
    exact ⟨hi.trans hi'.symm, ha.trans ha'.symm⟩
  first first rest hcerts hroot := by
    -- the record does not begin with a root: neither an old one nor the new certificate is one
    exfalso
    cases certs with
    | nil =>
      obtain ⟨rfl, -⟩ := List.cons.inj hcerts
      rw [hnot] at hroot
      cases hroot
    | cons head tail =>
      obtain ⟨rfl, -⟩ := List.cons.inj hcerts
      rw [(hfirst head tail rfl).1] at hroot
      cases hroot

/-! ## Steps and runs -/

variable {lib : CryptoX509} {bech32 : Bech32} {ctx : Context} {s s' : Store} {msg : Msg}

theorem Listed.congr (h : Listed s) (happroved : s'.approvedCertificates = s.approvedCertificates)
    (hroots : s'.approvedRootCertificates = s.approvedRootCertificates) : Listed s' := by
  have hcerts : s'.approvedCerts = s.approvedCerts := approvedCerts_of_eq happroved
  have hlist : s'.approvedRoots = s.approvedRoots := by
    unfold Store.approvedRoots
    rw [hroots]
  constructor
  · rw [hcerts]
    exact h.arranged
  · rw [hcerts, hlist]
    exact h.roots

/-- A revocation keeps the records that stay arranged. -/
theorem Revocation.arranged {k : Bytes} {f : Certificate → Certificate} (hrev : Revocation k f s s')
    (h : Listed s) (k' : Bytes) : Arranged (s'.approvedCerts k') := by
  rcases hrev.approvedCerts_cases k' with hk | hk <;> rw [hk]
  · exact h.arranged k'
  · exact Arranged.nil

/-- **One step keeps the invariant.** -/
theorem listed_step (hwf : WellFormed lib s) (h : Listed s) (he : Effect lib bech32 ctx s msg s') :
    Listed s' := by
  cases he with
  | refused => exact h
  | proposed => exact h.congr rfl rfl
  | approved => exact h.congr rfl rfl
  | rejected => exact h.congr rfl rfl
  | discarded => exact h.congr rfl rfl
  | revocationProposed => exact h.congr rfl rfl
  | revocationApproved => exact h.congr rfl rfl
  | activated cert hvote _ hcert =>
    obtain ⟨⟨x, hreads⟩, hroot, -⟩ := hvote.reads_cert hwf.records hcert
    constructor
    · exact hwf.records.forall_addApprovedCertificate hreads h.arranged
        ((h.arranged _).append_root hroot)
    · intro k c hc hc'
      apply Records.mem_addIdentifier.mpr
      rcases (hwf.records.mem_addApprovedCertificate hreads).mp hc with hc | ⟨-, rfl⟩
      · exact Or.inl (h.roots k c hc hc')
      · exact Or.inr rfl
  | @added m x fuel root cert hdecode hnot _ hexisting hverify hcert =>
    subst hcert
    have hreads := reads_certificateOf root hdecode hnot
    constructor
    · refine hwf.records.forall_addApprovedCertificate hreads h.arranged ?_
      apply (h.arranged _).append_cert rfl
      -- the handler has compared the certificate with the first that is stored
      intro first rest hfirst
      have hmem : first ∈ s.approvedCerts (certificateOf m x root).certID.key := by
        rw [hfirst]
        exact List.mem_cons_self
      obtain ⟨record, hget, -⟩ := mem_approvedCerts_iff.mp hmem
      obtain ⟨head, tail, hhead, hsame, -⟩ := hexisting record hget
      rw [approvedCerts_of_get hget, hhead] at hfirst
      obtain ⟨rfl, -⟩ := List.cons.inj hfirst
      exact hsame
    · intro k c hc hroot
      change c.certID ∈ s.approvedRoots
      rcases (hwf.records.mem_addApprovedCertificate hreads).mp hc with hc | ⟨-, rfl⟩
      · exact h.roots k c hc hroot
      · cases hroot
  | @rootRevoked m _ _ _ _ approvals t _ _ _ hget ht =>
    obtain ⟨-, hrev, -⟩ := revocation_of_rootRevoked hwf.records hget ht
    refine ⟨hrev.arranged h, fun k c hc hroot => ?_⟩
    change c ∈ t.approvedCerts k at hc
    have hold := hrev.mem_of_mem hc
    -- only the identifier of the message leaves the list, and its record is gone
    have hne : c.certID ≠ m.certID := by
      intro hid
      have hk : k = pairKey m.subject m.subjectKeyId := by
        rw [(hwf.records.of_mem_approvedCerts hold).1, hid]
        rfl
      rw [hk, approvedCerts_of_gone hrev.gone] at hc
      cases hc
    change c.certID ∈ (Store.removeIdentifier m.certID t.approvedRootCertificates).getD []
    rw [Records.removeIdentifier_getD, hrev.approvedRoot]
    exact (List.mem_erase_of_ne hne).mpr (h.roots k c hold hroot)
  | revoked t hget _ _ _ ht =>
    obtain ⟨-, hrev, -⟩ := revocation_of_revoked hwf.records hget ht
    refine Listed.congr (s := t) ⟨hrev.arranged h, fun k c hc hroot => ?_⟩ rfl rfl
    rw [Store.approvedRoots, hrev.approvedRoot]
    exact h.roots k c (hrev.mem_of_mem hc) hroot

theorem listed_empty : Listed Store.empty where
  arranged _ := Arranged.nil
  roots _ _ hc := nomatch hc

/-- **In every run** the records are arranged and their roots are listed. -/
theorem listed_of_reachable (h : Reachable (certificates lib bech32) s) :
    WellFormed lib s ∧ Listed s := by
  apply h.invariant
  · exact ⟨wellFormed_empty, listed_empty⟩
  · rintro s ⟨ctx, msg⟩ s' ⟨hwf, hlisted⟩ hstep
    have he := step_effect hstep
    exact ⟨wellFormed_step hwf he, listed_step hwf hlisted he⟩

end ComplianceLedger.Pki
