import ComplianceLedger.Pki.Index

/-!
# Uniform records

The handlers read the owner, the issuer and the rootness of a record off its first certificate.
This is sound as long as all certificates of a record agree. A new certificate that is not a root
is compared with the first one; a root is compared when it is proposed, and not again when its
approval is complete. If a certificate that is not a root has been added in the meantime, the
record is mixed (`MixesRoot`). Without such a step all records are uniform.

## Main definitions

* `MixesRoot bech32 s a`: the message adds a root to a record that begins with another certificate
* `Uniform certs`: the certificates agree in owner, rootness and issuer

## Main results

* `uniform_of_no_mixing`: all records are uniform in the runs without mixing
* `mixed_record`: a run that ends in a mixed record
-/

open Machine Machine.TransitionSystem

namespace ComplianceLedger.Pki

/-- The message completes the approval of a root certificate while the approved record of its
identifier begins with a certificate that is not a root. -/
def MixesRoot (bech32 : Bech32) (s : Store) : Context × Msg → Prop
  | (ctx, .approveAddX509RootCert msg) => ∃ addr found record first rest,
      ProposalVote bech32 ctx s msg addr found ∧
      certificateApprovalsCount ctx.accounts ≤ found.approvals.length + 1 ∧
      s.approvedCertificates.get (pairKey msg.subject msg.subjectKeyId) = some record ∧
      record.certs = first :: rest ∧ first.isRoot = false
  | _ => False

/-- The certificates have one owner, and all are roots or all have one issuer. -/
structure Uniform (certs : List Certificate) : Prop where
  owner : ∀ c ∈ certs, ∀ c' ∈ certs, c.owner = c'.owner
  kind : (∀ c ∈ certs, c.isRoot = true) ∨
    ∃ issuer authorityKeyId, ∀ c ∈ certs,
      c.isRoot = false ∧ c.issuer = issuer ∧ c.authorityKeyId = authorityKeyId

/-- The records are uniform, and a proposal has the owner of the roots it will join. -/
structure UniformRecords (s : Store) : Prop where
  approved : ∀ k, Uniform (s.approvedCerts k)
  proposed : ∀ k proposed, s.proposedCertificate.get k = some proposed →
    ∀ cert ∈ s.approvedCerts k, cert.isRoot = true → cert.owner = proposed.owner

/-! ## Uniform lists -/

theorem Uniform.nil : Uniform [] where
  owner _ hc := nomatch hc
  kind := Or.inl fun _ hc => nomatch hc

/-- A list with a root has only roots. -/
theorem Uniform.isRoot_of_mem {certs : List Certificate} (h : Uniform certs) {c c' : Certificate}
    (hc : c ∈ certs) (hc' : c' ∈ certs) : c.isRoot = c'.isRoot := by
  rcases h.kind with hroot | ⟨issuer, authority, hnot⟩
  · rw [hroot c hc, hroot c' hc']
  · rw [(hnot c hc).1, (hnot c' hc').1]

/-- The certificates of a list without roots have one issuer. -/
theorem Uniform.issuer_of_mem {certs : List Certificate} (h : Uniform certs) {c c' : Certificate}
    (hc : c ∈ certs) (hc' : c' ∈ certs) (hroot : c.isRoot = false) :
    c.issuer = c'.issuer ∧ c.authorityKeyId = c'.authorityKeyId := by
  rcases h.kind with hall | ⟨issuer, authority, hnot⟩
  · rw [hall c hc] at hroot
    cases hroot
  · obtain ⟨-, hi, ha⟩ := hnot c hc
    obtain ⟨-, hi', ha'⟩ := hnot c' hc'
    exact ⟨hi.trans hi'.symm, ha.trans ha'.symm⟩

/-- A certificate joins a list if it agrees with every certificate of it. -/
theorem Uniform.append {certs : List Certificate} {cert : Certificate}
    (hagree : ∀ c ∈ certs, c.owner = cert.owner ∧ c.isRoot = cert.isRoot ∧
      (cert.isRoot = false → c.issuer = cert.issuer ∧ c.authorityKeyId = cert.authorityKeyId)) :
    Uniform (certs ++ [cert]) where
  owner c hc c' hc' := by
    have howner : ∀ c ∈ certs ++ [cert], c.owner = cert.owner := by
      intro c hc
      rcases List.mem_append.mp hc with hc | hc
      · exact (hagree c hc).1
      · rw [List.mem_singleton.mp hc]
    rw [howner c hc, howner c' hc']
  kind := by
    cases hroot : cert.isRoot with
    | true =>
      left
      intro c hc
      rcases List.mem_append.mp hc with hc | hc
      · rw [(hagree c hc).2.1, hroot]
      · rw [List.mem_singleton.mp hc, hroot]
    | false =>
      right
      refine ⟨cert.issuer, cert.authorityKeyId, fun c hc => ?_⟩
      rcases List.mem_append.mp hc with hc | hc
      · exact ⟨(hagree c hc).2.1.trans hroot, (hagree c hc).2.2 hroot⟩
      · rw [List.mem_singleton.mp hc]
        exact ⟨hroot, rfl, rfl⟩

/-! ## Steps -/

variable {lib : CryptoX509} {bech32 : Bech32} {ctx : Context} {s s' : Store} {msg : Msg}

theorem UniformRecords.congr (h : UniformRecords s)
    (happroved : s'.approvedCertificates = s.approvedCertificates)
    (hproposed : ∀ k proposed', s'.proposedCertificate.get k = some proposed' →
      (∃ proposed, s.proposedCertificate.get k = some proposed ∧
        proposed.owner = proposed'.owner) ∨
      ∀ cert ∈ s.approvedCerts k, cert.isRoot = true → cert.owner = proposed'.owner) :
    UniformRecords s' := by
  have hcerts : s'.approvedCerts = s.approvedCerts := approvedCerts_of_eq happroved
  refine ⟨fun k => hcerts ▸ h.approved k, fun k proposed' hget cert hcert hroot => ?_⟩
  rw [hcerts] at hcert
  rcases hproposed k proposed' hget with ⟨proposed, hold, howner⟩ | hnew
  · exact (h.proposed k proposed hold cert hcert hroot).trans howner
  · exact hnew cert hcert hroot

theorem UniformRecords.revocation {k : Bytes} {f : Certificate → Certificate}
    (h : UniformRecords s) (hrev : Revocation k f s s') : UniformRecords s' := by
  constructor
  · intro k'
    rcases hrev.approvedCerts_cases k' with hk | hk <;> rw [hk]
    · exact h.approved k'
    · exact Uniform.nil
  · intro k' proposed hget cert hcert hroot
    rw [hrev.proposed] at hget
    exact h.proposed k' proposed hget cert (hrev.mem_of_mem hcert) hroot

/-- A vote replaces a proposal by one of the same owner. -/
theorem UniformRecords.set_vote (h : UniformRecords s) (hrecords : Records lib s) {m : MsgIdentifier}
    {addr : AccAddress} {found : ProposedCertificate}
    (hvote : ProposalVote bech32 ctx s m addr found) (approvals rejects : List Grant) :
    UniformRecords (s.setProposedCertificate
      { found with approvals := approvals, rejects := rejects }) := by
  refine h.congr rfl fun k proposed' hget => Or.inl ?_
  change (s.proposedCertificate.set _ _).get k = some proposed' at hget
  rw [KVStore.get_set] at hget
  split at hget
  · next hk =>
    obtain rfl := Option.some.inj hget
    refine ⟨found, ?_, rfl⟩
    rw [hk]
    change s.proposedCertificate.get (pairKey found.subject found.subjectKeyId) = _
    rw [← hvote.key hrecords]
    exact hvote.proposal
  · exact ⟨proposed', hget, rfl⟩

/-- A new proposal under the key has the owner of the roots that are stored there. -/
theorem UniformRecords.propose (h : UniformRecords s) {proposed : ProposedCertificate}
    (hproposed : s'.proposedCertificate = s.proposedCertificate.set
      (pairKey proposed.subject proposed.subjectKeyId) proposed)
    (happroved : s'.approvedCertificates = s.approvedCertificates)
    (hexisting : FirstApproved s proposed.subject proposed.subjectKeyId fun first =>
      proposed.owner = first.owner) : UniformRecords s' := by
  refine h.congr happroved fun k proposed' hget => ?_
  rw [hproposed, KVStore.get_set] at hget
  split at hget
  · -- the first certificate has the owner of the proposal, and so have all of them
    next hk =>
    obtain rfl := Option.some.inj hget
    right
    intro cert hcert _
    rw [hk] at hcert
    obtain ⟨first, hfirst, howner⟩ := exists_first_of_mem hexisting hcert
    exact ((h.approved _).owner cert hcert first hfirst).trans howner.symm
  · exact Or.inl ⟨proposed', hget, rfl⟩

/-- A root joins roots of its owner, and the proposal under its key is gone. -/
theorem UniformRecords.addRoot (h : UniformRecords s) (hrecords : Records lib s)
    {cert : Certificate} {x : X509Certificate} (hcert : Reads lib cert x)
    (hroot : cert.isRoot = true)
    (hjoin : ∀ c ∈ s.approvedCerts cert.certID.key, c.isRoot = true ∧ c.owner = cert.owner)
    (happroved : s'.approvedCertificates = (s.addApprovedCertificate cert).approvedCertificates)
    (hproposed : s'.proposedCertificate = s.proposedCertificate.delete cert.certID.key) :
    UniformRecords s' := by
  have hcerts := approvedCerts_of_eq happroved
  constructor
  · rw [hcerts]
    refine hrecords.forall_addApprovedCertificate hcert h.approved (Uniform.append fun c hc => ?_)
    refine ⟨(hjoin c hc).2, (hjoin c hc).1.trans hroot.symm, fun hnot => ?_⟩
    rw [hroot] at hnot
    cases hnot
  · intro k proposed hget c hc hc'
    rw [hproposed] at hget
    obtain ⟨hk, hget⟩ := KVStore.get_of_get_delete hget
    rw [hcerts, hrecords.mem_addApprovedCertificate hcert] at hc
    rcases hc with hc | ⟨heq, -⟩
    · exact h.proposed k proposed hget c hc hc'
    · exact absurd heq hk

/-- A certificate that is not a root joins certificates that agree with it. -/
theorem UniformRecords.addCert (h : UniformRecords s) (hrecords : Records lib s)
    {cert : Certificate} {x : X509Certificate} (hcert : Reads lib cert x)
    (hnot : cert.isRoot = false)
    (hexisting : FirstApproved s cert.subject cert.subjectKeyId fun first =>
      (first.isRoot = false ∧ cert.issuer = first.issuer ∧
        cert.authorityKeyId = first.authorityKeyId) ∧ cert.owner = first.owner)
    (happroved : s'.approvedCertificates = (s.addApprovedCertificate cert).approvedCertificates)
    (hproposed : s'.proposedCertificate = s.proposedCertificate) : UniformRecords s' := by
  have hcerts := approvedCerts_of_eq happroved
  constructor
  · rw [hcerts]
    refine hrecords.forall_addApprovedCertificate hcert h.approved (Uniform.append fun c hc => ?_)
    -- the first certificate agrees with the new one, and the others with the first
    obtain ⟨first, hfirst, ⟨hroot, hissuer, hauthority⟩, howner⟩ := exists_first_of_mem hexisting hc
    have hc' := (h.approved _).issuer_of_mem hfirst hc hroot
    refine ⟨((h.approved _).owner c hc first hfirst).trans howner.symm, ?_, fun _ =>
      ⟨hc'.1.symm.trans hissuer.symm, hc'.2.symm.trans hauthority.symm⟩⟩
    rw [(h.approved _).isRoot_of_mem hc hfirst, hroot, hnot]
  · intro k proposed hget c hc hc'
    rw [hproposed] at hget
    rw [hcerts, hrecords.mem_addApprovedCertificate hcert] at hc
    rcases hc with hc | ⟨-, rfl⟩
    · exact h.proposed k proposed hget c hc hc'
    · rw [hnot] at hc'
      cases hc'

/-- The certificates that an approved root joins are roots of its owner, unless it mixes. -/
theorem UniformRecords.joins_roots (h : UniformRecords s) (hrecords : Records lib s)
    {m : MsgIdentifier} {addr : AccAddress} {found : ProposedCertificate}
    (hvote : ProposalVote bech32 ctx s m addr found)
    (hcount : certificateApprovalsCount ctx.accounts ≤ found.approvals.length + 1)
    (hclean : ¬ MixesRoot bech32 s (ctx, .approveAddX509RootCert m)) {c : Certificate}
    (hc : c ∈ s.approvedCerts (pairKey m.subject m.subjectKeyId)) :
    c.isRoot = true ∧ c.owner = found.owner := by
  have hroot : c.isRoot = true := by
    by_contra hnot
    obtain ⟨record, hget, -⟩ := mem_approvedCerts_iff.mp hc
    obtain ⟨first, rest, hfirst⟩ := List.exists_cons_of_ne_nil (hrecords.approved _ _ hget).2.2
    have hmem := first_mem_approvedCerts hget hfirst
    apply hclean
    refine ⟨addr, found, record, first, rest, hvote, hcount, hget, hfirst, ?_⟩
    rw [(h.approved _).isRoot_of_mem hmem hc]
    simpa using hnot
  exact ⟨hroot, h.proposed _ found hvote.proposal c hc hroot⟩

/-- **A step that does not mix a record keeps all records uniform.** -/
theorem uniformRecords_step (hwf : WellFormed lib s) (h : UniformRecords s)
    (he : Effect lib bech32 ctx s msg s') (hclean : ¬ MixesRoot bech32 s (ctx, msg)) :
    UniformRecords s' := by
  cases he with
  | refused => exact h
  | @proposed m x _ _ _ approvals _ _ _ _ _ hexisting =>
    have hfirst : FirstApproved s x.subject x.subjectKeyID fun first => m.signer = first.owner :=
      hexisting.imp fun _ hfirst => hfirst.2
    exact h.propose rfl rfl hfirst
  | approved hvote => exact h.set_vote hwf.records hvote _ _
  | rejected hvote => exact h.set_vote hwf.records hvote _ _
  | discarded record =>
    exact h.congr rfl fun k proposed' hget =>
      Or.inl ⟨proposed', (KVStore.get_of_get_delete hget).2, rfl⟩
  | revocationProposed => exact h.congr rfl fun k proposed' hget => Or.inl ⟨proposed', hget, rfl⟩
  | revocationApproved => exact h.congr rfl fun k proposed' hget => Or.inl ⟨proposed', hget, rfl⟩
  | @activated m addr found cert hvote hcount hcert =>
    obtain ⟨⟨x, hreads⟩, hroot, hkey⟩ := hvote.reads_cert hwf.records hcert
    have howner : cert.owner = found.owner := by rw [hcert]; rfl
    refine h.addRoot hwf.records hreads hroot (fun c hc => ?_) rfl (by rw [hkey]; rfl)
    rw [hkey] at hc
    rw [howner]
    exact h.joins_roots hwf.records hvote hcount hclean hc
  | @added m x fuel root cert hdecode hnot _ hexisting hverify hcert =>
    subst hcert
    exact h.addCert hwf.records (reads_certificateOf root hdecode hnot) rfl hexisting rfl rfl
  | rootRevoked approvals t _ _ _ hget ht =>
    obtain ⟨-, hrev, -⟩ := revocation_of_rootRevoked hwf.records hget ht
    exact (h.revocation hrev).congr rfl fun k proposed' hget => Or.inl ⟨proposed', hget, rfl⟩
  | revoked t hget _ _ _ ht =>
    obtain ⟨-, hrev, -⟩ := revocation_of_revoked hwf.records hget ht
    exact (h.revocation hrev).congr rfl fun k proposed' hget => Or.inl ⟨proposed', hget, rfl⟩

theorem uniformRecords_empty : UniformRecords Store.empty where
  approved _ := Uniform.nil
  proposed _ _ hget := nomatch hget

/-- The records are well formed and uniform in the runs without mixing. -/
theorem uniformRecords_of_reachable
    (h : Reachable ((certificates lib bech32).restrict fun s a => ¬ MixesRoot bech32 s a) s) :
    WellFormed lib s ∧ UniformRecords s := by
  apply h.invariant
  · exact ⟨wellFormed_empty, uniformRecords_empty⟩
  · rintro s ⟨ctx, msg⟩ s' ⟨hwf, huniform⟩ ⟨hstep, hclean⟩
    have he := step_effect hstep
    exact ⟨wellFormed_step hwf he, uniformRecords_step hwf huniform he hclean⟩

/-- **All records are uniform, unless one is mixed.** In every run without a step that adds a root
to a record that begins with another certificate, the certificates of each record have one owner,
and all are roots, or none is and they have one issuer and authority key. -/
theorem uniform_of_no_mixing
    (h : Reachable ((certificates lib bech32).restrict fun s a => ¬ MixesRoot bech32 s a) s)
    {subject subjectKeyID : String} {record : ApprovedCertificates}
    (hget : s.getApprovedCertificates subject subjectKeyID = some record) :
    (∀ c ∈ record.certs, ∀ c' ∈ record.certs, c.owner = c'.owner) ∧
      ((∀ c ∈ record.certs, c.isRoot = true) ∨
        ∃ issuer authorityKeyId, ∀ c ∈ record.certs,
          c.isRoot = false ∧ c.issuer = issuer ∧ c.authorityKeyId = authorityKeyId) := by
  have huniform := (uniformRecords_of_reachable h).2.approved (pairKey subject subjectKeyID)
  rw [approvedCerts_of_get hget] at huniform
  exact ⟨huniform.owner, huniform.kind⟩

/-! ## A mixed record -/

/-- A root and a certificate under it are in place. The trustees are voting on a second root when a
vendor adds the certificate of the same identifier; the approval is then completed. -/
def exampleMixing : List (Context × Msg) :=
  exampleRoot ++ [examplePropose "cosmos1one" "twin", exampleAdd "cosmos1vendor" "leaf",
    exampleApprove "cosmos1two" "Uw==" "02"]

/-- **A mixed record**: a root of one owner beside a certificate that is not a root, of another. -/
theorem mixed_record : ∃ s, Reachable (certificates exampleLib Dclauth.exampleCodec) s ∧
    ∃ record, s.getApprovedCertificates "Uw==" "02" = some record ∧
      record.certs.map (fun c => (c.isRoot, c.owner)) =
        [(false, "cosmos1vendor"), (true, "cosmos1one")] := by
  obtain ⟨s, hs, hp⟩ := exists_reachable_of_foldlM
    (T := certificates exampleLib Dclauth.exampleCodec)
    (p := fun s => (s.getApprovedCertificates "Uw==" "02").any fun record =>
      record.certs.map (fun c => (c.isRoot, c.owner)) =
        [(false, "cosmos1vendor"), (true, "cosmos1one")])
    (deliverMsg exampleLib Dclauth.exampleCodec 3) step_of_deliverMsg exampleMixing
    (by decide +kernel)
  rw [Option.any_eq_true] at hp
  obtain ⟨record, hget, hcerts⟩ := hp
  exact ⟨s, hs, record, hget, of_decide_eq_true hcerts⟩

/-- A check that a message mixes no record: it adds a root only when no record is approved. -/
def mixesNothing (s : Store) : Context × Msg → Bool
  | (_, .approveAddX509RootCert _) => s.approvedCertificates.values.isEmpty
  | _ => true

theorem not_mixesRoot_of_mixesNothing {a : Context × Msg} (h : mixesNothing s a = true) :
    ¬ MixesRoot bech32 s a := by
  intro hmixes
  obtain ⟨ctx, msg⟩ := a
  cases msg with
  | approveAddX509RootCert msg =>
    obtain ⟨-, -, record, -, -, -, -, hget, -⟩ := hmixes
    have hmem := KVStore.mem_values_iff.mpr ⟨_, hget⟩
    rw [List.isEmpty_iff.mp h] at hmem
    cases hmem
  | _ => exact hmixes

/-- The record of the example's root holds roots only. -/
theorem example_root_uniform : ∃ s,
    Reachable ((certificates exampleLib Dclauth.exampleCodec).restrict
      fun s a => ¬ MixesRoot Dclauth.exampleCodec s a) s ∧
    ∃ record, s.getApprovedCertificates "Ug==" "01" = some record ∧
      ∀ c ∈ record.certs, ∀ c' ∈ record.certs, c.owner = c'.owner := by
  obtain ⟨s, hs, hp⟩ := exists_reachable_of_foldlM
    (T := (certificates exampleLib Dclauth.exampleCodec).restrict
      fun s a => ¬ MixesRoot Dclauth.exampleCodec s a)
    (p := fun s => (s.getApprovedCertificates "Ug==" "01").isSome)
    (fun s a => if mixesNothing s a then deliverMsg exampleLib Dclauth.exampleCodec 3 s a else none)
    (by
      intro s a s' h
      split at h
      · next hnothing => exact ⟨step_of_deliverMsg h, not_mixesRoot_of_mixesNothing hnothing⟩
      · cases h)
    exampleRoot (by decide +kernel)
  obtain ⟨record, hget⟩ := Option.isSome_iff_exists.mp hp
  exact ⟨s, hs, record, hget, (uniform_of_no_mixing hs hget).1⟩

end ComplianceLedger.Pki
