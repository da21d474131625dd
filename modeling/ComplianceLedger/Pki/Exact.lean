import ComplianceLedger.Pki.Listed

/-!
# Runs without aliases

When no message names an identifier with a slash in its subject key identifier, a record is named
by its own identifier only. In these runs nothing stale is left behind: an identifier on a list of
children has a certificate of that issuer, and a revocation is proposed only of a record of roots.
Roots are then never below another certificate, so that no revocation of another record takes them
along.

## Main definitions

* `Msg.NamesSlashFree`: the message names no identifier with a slash
* `Exact s`: the lists of children and the proposed revocations are about approved records

## Main results

* `exact_step`, `exact_of_reachable`: the invariant of the runs without aliases
* `Exact.exists_not_root`: a record that a revocation takes along has a certificate that is no root
-/

open Machine Machine.TransitionSystem Relation

namespace ComplianceLedger.Pki

/-- What a message says about a stored certificate. -/
def Msg.named : Msg → List MsgIdentifier
  | .proposeAddX509RootCert _ => []
  | .addX509Cert _ => []
  | .approveAddX509RootCert msg => [msg]
  | .rejectAddX509RootCert msg => [msg]
  | .proposeRevokeX509RootCert msg => [msg]
  | .approveRevokeX509RootCert msg => [msg]
  | .revokeX509Cert msg => [msg]

/-- The subject key identifier in the message, if any, is free of slashes. -/
def Msg.NamesSlashFree (m : Msg) : Prop := ∀ msg ∈ m.named, SlashFree msg.subjectKeyId

instance (m : Msg) : Decidable m.NamesSlashFree :=
  inferInstanceAs (Decidable (∀ msg ∈ m.named, SlashFree msg.subjectKeyId))

/-- The lists of children and the proposed revocations are about approved records. -/
structure Exact (s : Store) : Prop where
  children : ∀ k certID, certID ∈ s.children k → ∃ cert ∈ s.approvedCerts certID.key,
    cert.isRoot = false ∧ pairKey cert.issuer cert.authorityKeyId = k
  pending : ∀ k revocation, s.proposedCertificateRevocation.get k = some revocation →
    s.approvedCerts k ≠ [] ∧ ∀ cert ∈ s.approvedCerts k, cert.isRoot = true

variable {lib : CryptoX509} {bech32 : Bech32} {ctx : Context} {s s' : Store} {msg : Msg}

/-! ## What a revocation takes along -/

section Revocation

variable {k : Bytes} {f : Certificate → Certificate} (hrev : Revocation k f s s')

include hrev

/-- The children on a list that is emptied are gone, with their own lists. -/
theorem Revocation.gone_of_edge (hindex : Index s) {c p : Bytes} (hempty : s'.children p = [])
    (hedge : s.Edge c p) : s'.approvedCertificates.get c = none ∧ s'.children c = [] := by
  obtain ⟨certID, hmem, rfl⟩ := hedge
  have hlost : certID ∉ s'.children p := by
    rw [hempty]
    exact List.not_mem_nil
  have hgone := hrev.lost p certID hmem hlost
  refine ⟨hgone, ?_⟩
  rcases hrev.emptied _ hgone with hnone | hnil
  · -- an identifier without a record had no children before
    have hnil : s.children certID.key = [] := by
      by_contra hne
      exact hindex.parents _ hne hnone
    exact List.sublist_nil.mp (hnil ▸ hrev.children certID.key)
  · exact hnil

/-- **Everything below the record is gone.** -/
theorem Revocation.gone_below (hindex : Index s) (hsome : s.approvedCertificates.get k ≠ none)
    {c : Bytes} (hpath : TransGen s.Edge c k) :
    s'.approvedCertificates.get c = none ∧ s'.children c = [] := by
  have hself : s'.children k = [] := by
    rcases hrev.emptied k hrev.gone with hnone | hnil
    · exact absurd hnone hsome
    · exact hnil
  induction hpath using TransGen.head_induction_on with
  | single hedge => exact hrev.gone_of_edge hindex hself hedge
  | head hedge _ ih => exact hrev.gone_of_edge hindex ih.2 hedge

/-- **What a revocation takes along is no root**: another record that is gone has a certificate that
is not a root. -/
theorem Exact.exists_not_root (h : Exact s) {k' : Bytes} (hne : k' ≠ k)
    (hsome : s.approvedCertificates.get k' ≠ none) (hgone : s'.approvedCertificates.get k' = none) :
    ∃ cert ∈ s.approvedCerts k', cert.isRoot = false := by
  rcases hrev.descends k' hgone with hnone | heq | hpath
  · exact absurd hnone hsome
  · exact absurd heq hne
  · obtain ⟨p, ⟨certID, hmem, rfl⟩, -⟩ := TransGen.head'_iff.mp hpath
    obtain ⟨cert, hcert, hnot, -⟩ := h.children p certID hmem
    exact ⟨cert, hcert, hnot⟩

/-- The lists of children stay exact when the record that is named leaves the list of its issuer. -/
theorem Exact.children_revocation (h : Exact s) (hindex : Index s) (hlisted : Listed s)
    (hsome : s.approvedCertificates.get k ≠ none)
    (hself : ∀ k' certID, certID.key = k → certID ∉ s'.children k') {k' : Bytes}
    {certID : CertificateIdentifier} (hmem : certID ∈ s'.children k') :
    ∃ cert ∈ s'.approvedCerts certID.key,
      cert.isRoot = false ∧ pairKey cert.issuer cert.authorityKeyId = k' := by
  obtain ⟨cert, hcert, hnot, hk'⟩ := h.children k' certID ((hrev.children k').subset hmem)
  refine ⟨cert, ?_, hnot, hk'⟩
  rcases hrev.moved certID.key with ⟨hkept, -⟩ | ⟨hgone, -⟩
  · rwa [approvedCerts_congr hkept]
  · -- the record cannot be gone: its issuer would be, and with it the list that it is on
    exfalso
    rcases hrev.descends _ hgone with hnone | heq | hpath
    · rw [approvedCerts_of_gone hnone] at hcert
      cases hcert
    · exact hself k' certID heq hmem
    · obtain ⟨p, ⟨certID', hmem', hkey⟩, hrest⟩ := TransGen.head'_iff.mp hpath
      obtain ⟨cert', hcert', hnot', hp⟩ := h.children p certID' hmem'
      rw [hkey] at hcert'
      have hissuer := (hlisted.arranged _).issuer cert' hcert' cert hcert hnot' hnot
      obtain rfl : p = k' := by rw [← hp, ← hk', hissuer.1, hissuer.2]
      have hempty : s'.children p = [] := by
        rcases reflTransGen_iff_eq_or_transGen.mp hrest with rfl | hpath'
        · exact (hrev.emptied _ hrev.gone).resolve_left hsome
        · exact (hrev.gone_below hindex hsome hpath').2
      rw [hempty] at hmem
      cases hmem

/-- A proposed revocation of another record stays about a record of roots. -/
theorem Exact.pending_revocation (h : Exact s) {k' : Bytes} (hne : k' ≠ k)
    {revocation : ProposedCertificateRevocation}
    (hget : s.proposedCertificateRevocation.get k' = some revocation) :
    s'.approvedCerts k' ≠ [] ∧ ∀ cert ∈ s'.approvedCerts k', cert.isRoot = true := by
  obtain ⟨hnonempty, hroots⟩ := h.pending k' revocation hget
  rcases hrev.moved k' with ⟨hkept, -⟩ | ⟨hgone, -⟩
  · rw [approvedCerts_congr hkept]
    exact ⟨hnonempty, hroots⟩
  · have hsome : s.approvedCertificates.get k' ≠ none := fun hnone =>
      hnonempty (approvedCerts_of_gone hnone)
    obtain ⟨cert, hcert, hnot⟩ := h.exists_not_root hrev hne hsome hgone
    rw [hroots cert hcert] at hnot
    cases hnot

end Revocation

/-! ## Steps and runs -/

theorem Exact.congr (h : Exact s) (happroved : s'.approvedCertificates = s.approvedCertificates)
    (hchild : s'.childCertificates = s.childCertificates)
    (hpending : s'.proposedCertificateRevocation = s.proposedCertificateRevocation) : Exact s' := by
  have hcerts : s'.approvedCerts = s.approvedCerts := approvedCerts_of_eq happroved
  have hchildren : s'.children = s.children := children_of_eq hchild
  constructor
  · rw [hchildren, hcerts]
    exact h.children
  · rw [hcerts, hpending]
    exact h.pending

/-- A revocation is proposed, or voted on, of a record of roots. -/
theorem Exact.setProposedCertificateRevocation (h : Exact s)
    (revocation : ProposedCertificateRevocation)
    (hroots : s.approvedCerts (pairKey revocation.subject revocation.subjectKeyId) ≠ [] ∧
      ∀ cert ∈ s.approvedCerts (pairKey revocation.subject revocation.subjectKeyId),
        cert.isRoot = true) :
    Exact (s.setProposedCertificateRevocation revocation) := by
  refine ⟨h.children, fun k revocation' hget => ?_⟩
  change (s.proposedCertificateRevocation.set _ _).get k = _ at hget
  rw [KVStore.get_set] at hget
  split at hget
  · next hk =>
    rw [hk]
    exact hroots
  · exact h.pending k revocation' hget

/-- A certificate is added: what the lists say stays true. -/
theorem Exact.exists_of_children (h : Exact s)
    (hsub : ∀ k, s.approvedCerts k ⊆ s'.approvedCerts k) {k : Bytes}
    {certID : CertificateIdentifier} (hmem : certID ∈ s.children k) :
    ∃ cert ∈ s'.approvedCerts certID.key,
      cert.isRoot = false ∧ pairKey cert.issuer cert.authorityKeyId = k := by
  obtain ⟨cert, hcert, hnot, hk⟩ := h.children k certID hmem
  exact ⟨cert, hsub _ hcert, hnot, hk⟩

/-- A root joins a record. -/
theorem Exact.addRoot (h : Exact s) (hrecords : Records lib s) {cert : Certificate}
    {x : X509Certificate} (hcert : Reads lib cert x) (hroot : cert.isRoot = true) :
    Exact (s.addApprovedCertificate cert) where
  children _ _ hmem :=
    h.exists_of_children (hrecords.subset_addApprovedCertificate hcert) hmem
  pending k revocation hget := by
    obtain ⟨hne, hroots⟩ := h.pending k revocation hget
    constructor
    · obtain ⟨c, hc⟩ := List.exists_mem_of_ne_nil _ hne
      exact List.ne_nil_of_mem (hrecords.subset_addApprovedCertificate hcert k hc)
    · intro c hc
      rcases (hrecords.mem_addApprovedCertificate hcert).mp hc with hc | ⟨-, rfl⟩
      · exact hroots c hc
      · exact hroot

/-- A certificate that is not a root joins a record without roots, and is listed. -/
theorem Exact.addCert (h : Exact s) (hrecords : Records lib s) {cert : Certificate}
    {x : X509Certificate} (hcert : Reads lib cert x) (hnot : cert.isRoot = false)
    (hexisting : FirstApproved s cert.subject cert.subjectKeyId fun first =>
      first.isRoot = false) :
    Exact (s.addCert cert) where
  children k certID hmem := by
    rcases mem_children_addCert.mp hmem with hmem | ⟨rfl, rfl⟩
    · exact h.exists_of_children (hrecords.subset_addApprovedCertificate hcert) hmem
    · exact ⟨cert, (hrecords.mem_addApprovedCertificate hcert).mpr (Or.inr ⟨rfl, rfl⟩), hnot, rfl⟩
  pending k revocation hget := by
    obtain ⟨hne, hroots⟩ := h.pending k revocation hget
    obtain ⟨c, hc⟩ := List.exists_mem_of_ne_nil _ hne
    have hk : k ≠ cert.certID.key := by
      -- the record of a proposed revocation begins with a root
      rintro rfl
      obtain ⟨first, hfirst, hnot'⟩ := exists_first_of_mem hexisting hc
      rw [hroots first hfirst] at hnot'
      cases hnot'
    constructor
    · exact List.ne_nil_of_mem (hrecords.subset_addApprovedCertificate hcert k hc)
    · intro c hc
      rcases (hrecords.mem_addApprovedCertificate hcert).mp hc with hc | ⟨heq, -⟩
      · exact hroots c hc
      · exact absurd heq hk

/-- A record of roots leaves with everything below it, and with the proposal to revoke it. -/
theorem Exact.rootRevoked (h : Exact s) (hindex : Index s) (hlisted : Listed s) {k : Bytes}
    {f : Certificate → Certificate} {t : Store} (hrev : Revocation k f s t)
    {found : ProposedCertificateRevocation}
    (hfound : s.proposedCertificateRevocation.get k = some found)
    (happroved : s'.approvedCertificates = t.approvedCertificates)
    (hchild : s'.childCertificates = t.childCertificates)
    (hpending : s'.proposedCertificateRevocation = t.proposedCertificateRevocation.delete k) :
    Exact s' := by
  obtain ⟨hne, hroots⟩ := h.pending _ _ hfound
  have hsome : s.approvedCertificates.get k ≠ none := fun hnone => hne (approvedCerts_of_gone hnone)
  constructor
  · rw [children_of_eq hchild, approvedCerts_of_eq happroved]
    intro k' certID hmem
    refine h.children_revocation hrev hindex hlisted hsome ?_ hmem
    -- a record of roots is on no list of children
    intro k' certID' hkey hmem'
    obtain ⟨cert, hcert, hnot, -⟩ := h.children k' certID' ((hrev.children k').subset hmem')
    rw [hkey] at hcert
    rw [hroots cert hcert] at hnot
    cases hnot
  · rw [approvedCerts_of_eq happroved, hpending]
    intro k' revocation hget
    obtain ⟨hne, hget⟩ := KVStore.get_of_get_delete hget
    rw [hrev.revocation] at hget
    exact h.pending_revocation hrev hne hget

/-- A record that begins with a certificate that is not a root leaves with everything below it, and
off the list of its issuer. -/
theorem Exact.revoked (h : Exact s) (hwf : WellFormed lib s) (hlisted : Listed s)
    {certID : CertificateIdentifier} (hslash : SlashFree certID.subjectKeyId)
    {f : Certificate → Certificate} (hrev : Revocation certID.key f s s') {first : Certificate}
    (hfirst : first ∈ s.approvedCerts certID.key) (hnot : first.isRoot = false)
    (hlists : ∀ k', s'.children k' =
        (if k' = pairKey first.issuer first.authorityKeyId then (s.children k').erase certID
          else s.children k') ∨
      (Gone s' k' ∧ s'.children k' = [])) : Exact s' := by
  have hsome : s.approvedCertificates.get certID.key ≠ none := by
    intro hnone
    rw [approvedCerts_of_gone hnone] at hfirst
    cases hfirst
  constructor
  · intro k certID' hmem
    refine h.children_revocation hrev hwf.index hlisted hsome ?_ hmem
    -- the identifier is the one that was named, which has left the list of the issuer
    intro k' certID' hkey hmem'
    have hold := (hrev.children k').subset hmem'
    have hid : certID' = certID := CertificateIdentifier.key_inj
      (hwf.records.slashFree_of_mem_children hold) hslash hkey
    obtain ⟨cert, hcert, hnot', hk'⟩ := h.children k' certID' hold
    rw [hkey] at hcert
    have hissuer := (hlisted.arranged _).issuer cert hcert first hfirst hnot' hnot
    rw [hissuer.1, hissuer.2] at hk'
    rcases hlists k' with heq | ⟨-, heq⟩ <;> rw [heq] at hmem'
    · rw [if_pos hk'.symm, hid] at hmem'
      exact (hwf.records.children_nodup k').not_mem_erase hmem'
    · cases hmem'
  · intro k revocation hget
    rw [hrev.revocation] at hget
    refine h.pending_revocation hrev ?_ hget
    rintro rfl
    rw [(h.pending _ _ hget).2 first hfirst] at hnot
    cases hnot

/-- **One step keeps the invariant**, if its message names no identifier with a slash. -/
theorem exact_step (hwf : WellFormed lib s) (hlisted : Listed s) (h : Exact s)
    (he : Effect lib bech32 ctx s msg s') (hfree : msg.NamesSlashFree) : Exact s' := by
  cases he with
  | refused => exact h
  | proposed => exact h.congr rfl rfl rfl
  | approved => exact h.congr rfl rfl rfl
  | rejected => exact h.congr rfl rfl rfl
  | discarded => exact h.congr rfl rfl rfl
  | activated cert hvote _ hcert =>
    obtain ⟨⟨x, hreads⟩, hroot, -⟩ := hvote.reads_cert hwf.records hcert
    exact (h.addRoot hwf.records hreads hroot).congr rfl rfl rfl
  | @added m x fuel root cert hdecode hnot _ hexisting hverify hcert =>
    subst hcert
    have hreads := reads_certificateOf root hdecode hnot
    exact (h.addCert hwf.records hreads rfl
      (hexisting.imp fun _ hfirst => hfirst.1.1)).congr rfl rfl rfl
  | @revocationProposed m _ record first rest _ _ _ hget hcerts hroot =>
    apply h.setProposedCertificateRevocation
    -- a record that begins with a root has only roots
    have harranged := hlisted.arranged (pairKey m.subject m.subjectKeyId)
    rw [approvedCerts_of_get hget] at harranged ⊢
    exact ⟨hcerts ▸ List.cons_ne_nil _ _, harranged.first first rest hcerts hroot⟩
  | @revocationApproved m _ found hvote =>
    apply h.setProposedCertificateRevocation
    -- the vote is stored under the key that the proposal was found under
    rw [← hwf.records.revocation _ _ hvote.proposal]
    exact h.pending _ _ hvote.proposal
  | @rootRevoked m _ found record _ approvals t hvote _ _ hget ht =>
    obtain ⟨-, hrev, -⟩ := revocation_of_rootRevoked hwf.records hget ht
    exact h.rootRevoked hwf.index hlisted hrev hvote.proposal rfl rfl rfl
  | @revoked m record first rest _ t hget hcerts hnot _ ht =>
    obtain ⟨-, hrev, hlists⟩ := revocation_of_revoked hwf.records hget ht
    have hslash : SlashFree m.certID.subjectKeyId := hfree m List.mem_cons_self
    have hexact : Exact t := h.revoked hwf hlisted hslash hrev
      (first_mem_approvedCerts hget hcerts) hnot hlists
    exact hexact.congr rfl rfl rfl

theorem exact_empty : Exact Store.empty where
  children _ _ hmem := nomatch hmem
  pending _ _ hget := nomatch hget

/-- **The invariant of the runs without aliases.** -/
theorem exact_of_reachable
    (h : Reachable ((certificates lib bech32).restrict fun _ a => a.2.NamesSlashFree) s) :
    WellFormed lib s ∧ Listed s ∧ Exact s := by
  apply h.invariant
  · exact ⟨wellFormed_empty, listed_empty, exact_empty⟩
  · rintro s ⟨ctx, msg⟩ s' ⟨hwf, hlisted, hexact⟩ ⟨hstep, hfree⟩
    have he := step_effect hstep
    exact ⟨wellFormed_step hwf he, listed_step hwf hlisted he, exact_step hwf hlisted hexact he hfree⟩

/-- Deliver a message without aliases. -/
def deliverSlashFree (s : Store) (a : Context × Msg) : Option Store :=
  if a.2.NamesSlashFree then deliverMsg exampleLib Dclauth.exampleCodec 3 s a else none

theorem step_of_deliverSlashFree {a : Context × Msg} (h : deliverSlashFree s a = some s') :
    ((certificates exampleLib Dclauth.exampleCodec).restrict
      fun _ a => a.2.NamesSlashFree).step s a s' := by
  unfold deliverSlashFree at h
  split at h
  · next hfree => exact ⟨step_of_deliverMsg h, hfree⟩
  · cases h

end ComplianceLedger.Pki
