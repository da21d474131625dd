import ComplianceLedger.Pki.Index

/-!
# Chains of trust

Every approved certificate that is not a root has a chain of approved certificates, each verified
by the next, up to the root that is recorded in it. A new certificate has one because the search
found it. No revocation breaks a chain: a certificate that stays is listed under its issuer, whose
record therefore stays as it is.

## Main definitions

* `LinksTo lib now s cert parent`: `parent` is approved under the issuer of `cert` and verifies it
* `Anchored lib now s`: every approved certificate has a chain up to its recorded root

## Main results

* `chain_of_trust`: every approved certificate is anchored, in every run with a constant clock
-/

open Machine Machine.TransitionSystem Relation

namespace ComplianceLedger.Pki

section Definitions

variable (lib : CryptoX509) (now : ℤ) (s : Store)

/-- A link of a chain: `parent` is stored under the issuer and the authority key of `cert`, which is
not a root, and verifies it. -/
structure LinksTo (cert parent : Certificate) : Prop where
  not_root : cert.isRoot = false
  mem : parent ∈ s.approvedCerts (pairKey cert.issuer cert.authorityKeyId)
  verify : ∃ x p, decodeX509Certificate lib cert.pemCert = .ok x ∧
    decodeX509Certificate lib parent.pemCert = .ok p ∧ x.verify lib now p = .ok ()

/-- There is a chain from `cert` up to the root that is recorded in it. -/
def HasRoot (cert : Certificate) : Prop :=
  ∃ root, TransGen (LinksTo lib now s) cert root ∧ root.isRoot = true ∧
    root.subject = cert.rootSubject ∧ root.subjectKeyId = cert.rootSubjectKeyId

/-- Every approved certificate that is not a root has a chain up to its root. -/
def Anchored : Prop :=
  ∀ k, ∀ cert ∈ s.approvedCerts k, cert.isRoot = false → HasRoot lib now s cert

end Definitions

variable {lib : CryptoX509} {bech32 : Bech32} {ctx : Context} {now : ℤ} {s s' : Store} {msg : Msg}

/-- Chains stay when certificates are added. -/
theorem HasRoot.mono (hsub : ∀ k, s.approvedCerts k ⊆ s'.approvedCerts k) {cert : Certificate}
    (h : HasRoot lib now s cert) : HasRoot lib now s' cert := by
  obtain ⟨root, hpath, hroot⟩ := h
  refine ⟨root, TransGen.mono ?_ _ _ hpath, hroot⟩
  intro c p hlink
  exact ⟨hlink.not_root, hsub _ hlink.mem, hlink.verify⟩

/-- **The chain that a search finds is a chain of stored certificates.** -/
theorem exists_transGen_of_chain (hrecords : Records lib s) {x : X509Certificate}
    {id : String × String} (h : Chain lib now s x id) {cert : Certificate} (hcert : Reads lib cert x)
    (hnot : cert.isRoot = false) :
    ∃ root, TransGen (LinksTo lib now s) cert root ∧ root.isRoot = true ∧
      (root.subject, root.subjectKeyId) = id := by
  induction h generalizing cert with
  | root hself =>
    rw [hcert.isRoot, hself] at hnot
    cases hnot
  | @link x parent record p id _ hget hmem hdecode hverify hchain ih =>
    obtain ⟨hissuer, hauthority⟩ := hcert.issuer hnot
    have hp : p ∈ s.approvedCerts (pairKey cert.issuer cert.authorityKeyId) := by
      rw [hissuer, hauthority, approvedCerts_of_get hget]
      exact hmem
    have hlink : LinksTo lib now s cert p := ⟨hnot, hp, x, parent, hcert.decode, hdecode, hverify⟩
    obtain ⟨-, x', hreads⟩ := hrecords.of_mem_approvedCerts hp
    obtain rfl : x' = parent := Except.ok.inj (hreads.decode.symm.trans hdecode)
    -- the parent ends the chain if it is a root, and continues it otherwise
    cases hroot : p.isRoot with
    | true =>
      refine ⟨p, TransGen.single hlink, hroot, ?_⟩
      cases hchain with
      | root => rw [hreads.subject, hreads.subjectKeyId]
      | link hnot' =>
        rw [hreads.isRoot, hnot'] at hroot
        cases hroot
    | false =>
      obtain ⟨root, hpath, hroot', hid⟩ := ih hreads hroot
      exact ⟨root, TransGen.head hlink hpath, hroot', hid⟩

/-- The issuer of a certificate that survives a revocation survives it, with all its
certificates. -/
theorem approvedCerts_issuer_of_revocation {k : Bytes} {f : Certificate → Certificate}
    (hrev : Revocation k f s s') (hindex : Index s') {k' : Bytes} {cert : Certificate}
    (hcert : cert ∈ s'.approvedCerts k') (hnot : cert.isRoot = false) :
    s'.approvedCerts (pairKey cert.issuer cert.authorityKeyId) =
      s.approvedCerts (pairKey cert.issuer cert.authorityKeyId) := by
  have hlisted := hindex.linked k' cert hcert hnot
  have hstays := hindex.parents _ (List.ne_nil_of_mem hlisted)
  rcases hrev.moved (pairKey cert.issuer cert.authorityKeyId) with ⟨hget, -⟩ | ⟨hget, -⟩
  · exact approvedCerts_congr hget
  · exact absurd hget hstays

/-- **No revocation breaks the chain of a certificate that stays.** -/
theorem HasRoot.revocation {k : Bytes} {f : Certificate → Certificate}
    (hrev : Revocation k f s s') (hindex : Index s') {k' : Bytes} {cert : Certificate}
    (hcert : cert ∈ s'.approvedCerts k') (h : HasRoot lib now s cert) :
    HasRoot lib now s' cert := by
  obtain ⟨root, hpath, hroot⟩ := h
  refine ⟨root, ?_, hroot⟩
  -- by induction from the root down, every link is kept, and with it the certificate above
  clear hroot
  induction hpath using TransGen.head_induction_on generalizing k' with
  | single hlink =>
    have hissuer := approvedCerts_issuer_of_revocation hrev hindex hcert hlink.not_root
    exact TransGen.single ⟨hlink.not_root, hissuer ▸ hlink.mem, hlink.verify⟩
  | head hlink _ ih =>
    have hissuer := approvedCerts_issuer_of_revocation hrev hindex hcert hlink.not_root
    have hmem : _ ∈ s'.approvedCerts _ := hissuer ▸ hlink.mem
    exact TransGen.head ⟨hlink.not_root, hmem, hlink.verify⟩ (ih hmem)

theorem Anchored.revocation {k : Bytes} {f : Certificate → Certificate} (h : Anchored lib now s)
    (hrev : Revocation k f s s') (hindex : Index s') : Anchored lib now s' := by
  intro k' cert hcert hnot
  exact HasRoot.revocation hrev hindex hcert (h k' cert (hrev.mem_of_mem hcert) hnot)

theorem Anchored.congr (h : Anchored lib now s)
    (happroved : s'.approvedCertificates = s.approvedCertificates) : Anchored lib now s' := by
  have hcerts : s'.approvedCerts = s.approvedCerts := approvedCerts_of_eq happroved
  intro k cert hcert hnot
  rw [hcerts] at hcert
  exact HasRoot.mono (fun k => by rw [hcerts]; exact fun _ => id) (h k cert hcert hnot)

/-- A certificate is added with a chain of its own, if it is not a root. -/
theorem Anchored.addApprovedCertificate (h : Anchored lib now s) (hrecords : Records lib s)
    {cert : Certificate} {x : X509Certificate} (hcert : Reads lib cert x)
    (hnew : cert.isRoot = false → HasRoot lib now s cert) :
    Anchored lib now (s.addApprovedCertificate cert) := by
  have hsub := hrecords.subset_addApprovedCertificate hcert
  intro k c hc hnot
  rcases (hrecords.mem_addApprovedCertificate hcert).mp hc with hc | ⟨-, rfl⟩
  · exact (h k c hc hnot).mono hsub
  · exact (hnew hnot).mono hsub

/-- **One step keeps all chains.** -/
theorem anchored_step (hwf : WellFormed lib s) (h : Anchored lib ctx.now s)
    (he : Effect lib bech32 ctx s msg s') : Anchored lib ctx.now s' := by
  have hwf' := wellFormed_step hwf he
  cases he with
  | refused => exact h
  | proposed => exact h.congr rfl
  | approved => exact h.congr rfl
  | rejected => exact h.congr rfl
  | discarded => exact h.congr rfl
  | revocationProposed => exact h.congr rfl
  | revocationApproved => exact h.congr rfl
  | activated cert hvote _ hcert =>
    obtain ⟨⟨x, hreads⟩, hroot, -⟩ := hvote.reads_cert hwf.records hcert
    refine (h.addApprovedCertificate hwf.records hreads fun hnot => ?_).congr rfl
    rw [hroot] at hnot
    cases hnot
  | @added m x fuel root cert hdecode hnot _ _ hverify hcert =>
    subst hcert
    have hreads := reads_certificateOf root hdecode hnot
    refine (h.addApprovedCertificate hwf.records hreads fun hnot' => ?_).congr rfl
    obtain ⟨top, hpath, hroot, rfl⟩ := exists_transGen_of_chain hwf.records
      (chain_of_verifyCertificate hverify) hreads hnot'
    exact ⟨top, hpath, hroot, rfl, rfl⟩
  | rootRevoked approvals t _ _ _ hget ht =>
    obtain ⟨-, hrev, -⟩ := revocation_of_rootRevoked hwf.records hget ht
    exact (h.revocation hrev (hwf'.index.congr rfl rfl)).congr rfl
  | revoked t hget _ _ _ ht =>
    obtain ⟨-, hrev, -⟩ := revocation_of_revoked hwf.records hget ht
    exact (h.revocation hrev (hwf'.index.congr rfl rfl)).congr rfl

/-- **Every approved certificate has a chain up to its root.** In every store reached while the
clock shows one time, an approved certificate that is not a root is linked through approved
certificates to a root with the identifier recorded in it. -/
theorem chain_of_trust
    (h : Reachable ((certificates lib bech32).restrict fun _ a => a.1.now = now) s)
    {subject subjectKeyID : String} {record : ApprovedCertificates} {cert : Certificate}
    (hget : s.getApprovedCertificates subject subjectKeyID = some record)
    (hcert : cert ∈ record.certs) (hnot : cert.isRoot = false) :
    ∃ root, TransGen (LinksTo lib now s) cert root ∧ root.isRoot = true ∧
      root.subject = cert.rootSubject ∧ root.subjectKeyId = cert.rootSubjectKeyId := by
  have hinv : WellFormed lib s ∧ Anchored lib now s := by
    apply h.invariant
    · exact ⟨wellFormed_empty, fun _ _ hcert => nomatch hcert⟩
    · rintro s ⟨ctx, msg⟩ s' ⟨hwf, hanchored⟩ ⟨hstep, hnow⟩
      obtain rfl : ctx.now = now := hnow
      have he := step_effect hstep
      exact ⟨wellFormed_step hwf he, anchored_step hwf hanchored he⟩
  apply hinv.2 (pairKey subject subjectKeyID) cert _ hnot
  rw [approvedCerts_of_get hget]
  exact hcert

/-- The certificate issued under the example's root is linked to it. -/
theorem example_leaf_linked :
    ∃ s, Reachable ((certificates exampleLib Dclauth.exampleCodec).restrict
        fun _ a => a.1.now = 50) s ∧
      ∃ cert, cert.pemCert = "leaf" ∧ ∃ root, TransGen (LinksTo exampleLib 50 s) cert root ∧
        root.isRoot = true ∧ root.subject = "Ug==" ∧ root.subjectKeyId = "01" := by
  obtain ⟨s, hs, hp⟩ := exists_reachable_of_foldlM
    (T := (certificates exampleLib Dclauth.exampleCodec).restrict fun _ a => a.1.now = 50)
    (p := fun s => (s.getApprovedCertificates "Uw==" "02").any fun record =>
      record.certs.any fun cert => cert.pemCert = "leaf" ∧ cert.isRoot = false ∧
        cert.rootSubject = "Ug==" ∧ cert.rootSubjectKeyId = "01")
    (fun s a => if a.1.now = 50 then deliverMsg exampleLib Dclauth.exampleCodec 3 s a else none)
    (by
      intro s a s' h
      split at h
      · next hnow => exact ⟨step_of_deliverMsg h, hnow⟩
      · cases h)
    exampleLeaf (by decide +kernel)
  rw [Option.any_eq_true] at hp
  obtain ⟨record, hget, hany⟩ := hp
  obtain ⟨cert, hcert, hleaf⟩ := List.any_eq_true.mp hany
  obtain ⟨hpem, hnot, hsubject, hkey⟩ := of_decide_eq_true hleaf
  obtain ⟨root, hpath, hroot, hs', hk'⟩ := chain_of_trust hs hget hcert hnot
  exact ⟨s, hs, cert, hpem, root, hpath, hroot, hs'.trans hsubject, hk'.trans hkey⟩

end ComplianceLedger.Pki
