import ComplianceLedger.Pki.Exact
import ComplianceLedger.Pki.Uniform

/-!
# Root certificates

The lists of approved and of revoked roots are what relying parties take for the anchors of trust.
They are kept by the two handlers that complete a vote on a root, whereas certificates also leave
the approved records by a revocation of their owner and along with a certificate above them. In
the runs without aliases and without mixed records neither of these takes a root: a root leaves
only when the trustees have voted for its revocation, and both lists are exact. A mixed record
breaks both.

## Main definitions

* `KeepsRootsApart bech32 s a`: the message has no alias and mixes no record
* `RootLists s`: the lists of roots are about the roots of the records

## Main results

* `root_leaves_by_vote`, `root_lists_exact`: how roots leave, and what the lists of roots hold
* `root_revoked_by_owner`, `root_lists_stale`: what an owner can do to a mixed record
-/

open Machine Machine.TransitionSystem

namespace ComplianceLedger.Pki

/-- The message names no identifier with a slash, and does not add a root to a record that begins
with another certificate. -/
def KeepsRootsApart (bech32 : Bech32) (s : Store) (a : Context × Msg) : Prop :=
  a.2.NamesSlashFree ∧ ¬ MixesRoot bech32 s a

/-- The lists of roots are about the roots of the approved and of the revoked records. -/
structure RootLists (s : Store) : Prop where
  approved : ∀ certID ∈ s.approvedRoots, ∃ cert ∈ s.approvedCerts certID.key,
    cert.isRoot = true ∧ cert.certID = certID
  revoked : ∀ certID, certID ∈ s.revokedRoots ↔ ∃ cert ∈ s.revokedCerts certID.key,
    cert.isRoot = true ∧ cert.certID = certID

/-- **The invariant of the runs that keep roots apart.** -/
structure Orderly (lib : CryptoX509) (s : Store) : Prop where
  wellFormed : WellFormed lib s
  listed : Listed s
  exact : Exact s
  uniform : UniformRecords s
  roots : RootLists s

variable {lib : CryptoX509} {bech32 : Bech32} {ctx : Context} {s s' : Store} {msg : Msg}

/-! ## Revocations and roots -/

section Revocation

variable {k : Bytes} {f : Certificate → Certificate} (h : Orderly lib s)
  (hrev : Revocation k f s s')

include h hrev

/-- A record with a root is gone only if it is the one that was named. -/
theorem Orderly.root_stays {k' : Bytes} (hne : k' ≠ k) {cert : Certificate}
    (hcert : cert ∈ s.approvedCerts k') (hroot : cert.isRoot = true) :
    s'.approvedCertificates.get k' = s.approvedCertificates.get k' := by
  rcases hrev.moved k' with ⟨hkept, -⟩ | ⟨hgone, -⟩
  · exact hkept
  · -- a record that is taken along has a certificate that is no root, and is uniform
    exfalso
    have hsome : s.approvedCertificates.get k' ≠ none := by
      intro hnone
      rw [approvedCerts_of_gone hnone] at hcert
      cases hcert
    obtain ⟨c, hc, hnot⟩ := h.exact.exists_not_root hrev hne hsome hgone
    rw [(h.uniform.approved k').isRoot_of_mem hc hcert, hroot] at hnot
    cases hnot

/-- The roots that are revoked, but for those of the record named, were revoked before. -/
theorem Orderly.revoked_root_iff {k' : Bytes} (hne : k' ≠ k) {cert : Certificate}
    (hroot : cert.isRoot = true) : cert ∈ s'.revokedCerts k' ↔ cert ∈ s.revokedCerts k' := by
  rcases hrev.moved k' with ⟨-, hkept⟩ | ⟨hgone, hmoved⟩
  · rw [hkept]
  · rw [hmoved, if_neg hne, List.map_id, List.mem_append, or_iff_left]
    intro hcert
    have hstays := h.root_stays hrev hne hcert hroot
    rw [hgone] at hstays
    rw [approvedCerts_of_gone hstays.symm] at hcert
    cases hcert

end Revocation

/-! ## Steps -/

theorem RootLists.congr (h : RootLists s)
    (happroved : s'.approvedCertificates = s.approvedCertificates)
    (hrevoked : s'.revokedCertificates = s.revokedCertificates)
    (happrovedRoot : s'.approvedRootCertificates = s.approvedRootCertificates)
    (hrevokedRoot : s'.revokedRootCertificates = s.revokedRootCertificates) : RootLists s' := by
  have hcerts : s'.approvedCerts = s.approvedCerts := approvedCerts_of_eq happroved
  have hcerts' : s'.revokedCerts = s.revokedCerts := by
    unfold Store.revokedCerts
    rw [hrevoked]
  constructor
  · rw [Store.approvedRoots, happrovedRoot, hcerts]
    exact h.approved
  · rw [Store.revokedRoots, hrevokedRoot, hcerts']
    exact h.revoked

/-- A message names every certificate under its key by its own identifier. -/
theorem certID_eq_of_key {m : MsgIdentifier} (hfree : SlashFree m.subjectKeyId) {cert : Certificate}
    {x : X509Certificate} (hreads : Reads lib cert x)
    (hkey : cert.certID.key = pairKey m.subject m.subjectKeyId) : cert.certID = m.certID :=
  CertificateIdentifier.key_inj hreads.slashFree hfree hkey

/-- The roots that stay listed after a revocation by the trustees are those that stay. -/
theorem Orderly.approvedRoots_revoked (h : Orderly lib s) {m : MsgIdentifier}
    {f : Certificate → Certificate} (hfree : SlashFree m.subjectKeyId)
    (hrev : Revocation (pairKey m.subject m.subjectKeyId) f s s') {certID : CertificateIdentifier}
    (hmem : certID ∈ s.approvedRoots.erase m.certID) :
    ∃ cert ∈ s'.approvedCerts certID.key, cert.isRoot = true ∧ cert.certID = certID := by
  -- an identifier that stays on the list is that of another record, whose root stays too
  obtain ⟨hne, hmem⟩ := h.wellFormed.records.approvedRoot.mem_erase_iff.mp hmem
  obtain ⟨cert, hcert, hroot, rfl⟩ := h.roots.approved certID hmem
  obtain ⟨-, x, hreads⟩ := h.wellFormed.records.of_mem_approvedCerts hcert
  have hstays := h.root_stays hrev (fun hkey => hne (certID_eq_of_key hfree hreads hkey)) hcert hroot
  refine ⟨cert, ?_, hroot, rfl⟩
  rwa [approvedCerts_congr hstays]

/-- The roots that are revoked after a revocation by the trustees: those that were, and those of the
record named, which has roots only. -/
theorem Orderly.revokedRoots_revoked (h : Orderly lib s) {m : MsgIdentifier}
    {approvals : List Grant} (hfree : SlashFree m.subjectKeyId) (hrecords : Records lib s')
    (hrev : Revocation (pairKey m.subject m.subjectKeyId) (assignTo approvals) s s')
    (hnonempty : s.approvedCerts m.certID.key ≠ [])
    (hroots : ∀ cert ∈ s.approvedCerts m.certID.key, cert.isRoot = true)
    (certID : CertificateIdentifier) : certID ∈ s.revokedRoots ∨ certID = m.certID ↔
      ∃ cert ∈ s'.revokedCerts certID.key, cert.isRoot = true ∧ cert.certID = certID := by
  have hmoved : s'.revokedCerts m.certID.key = s.revokedCerts m.certID.key ++
      (s.approvedCerts m.certID.key).map (assignTo approvals) := hrev.revokedCerts_self
  constructor
  · rintro (hold | rfl)
    · obtain ⟨cert, hcert, hroot, hid⟩ := (h.roots.revoked certID).mp hold
      refine ⟨cert, ?_, hroot, hid⟩
      by_cases hkey : certID.key = m.certID.key
      · rw [hkey, hmoved]
        exact List.mem_append_left _ (hkey ▸ hcert)
      · exact (h.revoked_root_iff hrev hkey hroot).mpr hcert
    · obtain ⟨cert, hcert⟩ := List.exists_mem_of_ne_nil _ hnonempty
      obtain ⟨hkey, x, hreads⟩ := h.wellFormed.records.of_mem_approvedCerts hcert
      refine ⟨assignTo approvals cert, ?_, ?_, ?_⟩
      · rw [hmoved]
        exact List.mem_append_right _ (List.mem_map_of_mem hcert)
      · rw [assignTo_isRoot, hroots cert hcert]
      · rw [assignTo_certID, certID_eq_of_key hfree hreads hkey.symm]
  · rintro ⟨cert, hcert, hroot, rfl⟩
    by_cases hkey : cert.certID.key = m.certID.key
    · obtain ⟨-, x, hreads⟩ := hrecords.of_mem_revokedCerts hcert
      exact Or.inr (certID_eq_of_key hfree hreads hkey)
    · left
      refine (h.roots.revoked _).mpr ⟨cert, ?_, hroot, rfl⟩
      exact (h.revoked_root_iff hrev hkey hroot).mp hcert

/-- The trustees revoke a record of roots: its identifier moves from the one list to the other. -/
theorem rootLists_rootRevoked (h : Orderly lib s) {m : MsgIdentifier} {addr : AccAddress}
    {found : ProposedCertificateRevocation} {record : ApprovedCertificates} {fuel : ℕ}
    {approvals : List Grant} {t : Store} (hfree : SlashFree m.subjectKeyId)
    (hvote : RevocationVote bech32 ctx s m addr found)
    (hget : s.approvedCertificates.get (pairKey m.subject m.subjectKeyId) = some record)
    (ht : revokeChildCertificates fuel m.subject m.subjectKeyId
      ((s.addRevokedCertificates (assignApprovals approvals record)).removeApprovedCertificates
        m.subject m.subjectKeyId) = some t) :
    RootLists ((((t.removeProposedCertificateRevocation m.subject
      m.subjectKeyId).removeApprovedRootCertificate ⟨m.subject, m.subjectKeyId⟩
        ).addRevokedRootCertificate ⟨m.subject, m.subjectKeyId⟩
          ).removeApprovedCertificateBySubject m.subject m.subjectKeyId) := by
  obtain ⟨hrecords, hrev, -⟩ := revocation_of_rootRevoked h.wellFormed.records hget ht
  -- a record with a revocation pending is not empty, and has roots only
  obtain ⟨hnonempty, hroots⟩ := h.exact.pending _ _ hvote.proposal
  constructor
  · intro certID hmem
    change certID ∈ (Store.removeIdentifier m.certID t.approvedRootCertificates).getD [] at hmem
    rw [Records.removeIdentifier_getD, hrev.approvedRoot] at hmem
    exact h.approvedRoots_revoked hfree hrev hmem
  · intro certID
    change certID ∈ (Store.addIdentifier m.certID t.revokedRootCertificates).getD [] ↔ _
    rw [Records.mem_addIdentifier, hrev.revokedRoot]
    exact h.revokedRoots_revoked hfree hrecords hrev hnonempty hroots certID

/-- The owner revokes a record without roots: the lists of roots stay, and so do the roots. -/
theorem rootLists_revoked (h : Orderly lib s) {m : MsgIdentifier} {record : ApprovedCertificates}
    {first : Certificate} {rest : List Certificate} {fuel : ℕ} {t : Store}
    (hget : s.approvedCertificates.get (pairKey m.subject m.subjectKeyId) = some record)
    (hcerts : record.certs = first :: rest) (hnot : first.isRoot = false)
    (ht : revokeChildCertificates fuel m.subject m.subjectKeyId
      (((s.addRevokedCertificates record).removeApprovedCertificates
        m.subject m.subjectKeyId).removeChildCertificate first.issuer first.authorityKeyId
          ⟨m.subject, m.subjectKeyId⟩) = some t) :
    RootLists (t.removeApprovedCertificateBySubject m.subject m.subjectKeyId) := by
  obtain ⟨-, hrev, -⟩ := revocation_of_revoked h.wellFormed.records hget ht
  have hnone : ∀ cert ∈ s.approvedCerts (pairKey m.subject m.subjectKeyId), cert.isRoot = false := by
    intro cert hcert
    have hfirst := first_mem_approvedCerts hget hcerts
    rw [(h.uniform.approved _).isRoot_of_mem hcert hfirst, hnot]
  refine RootLists.congr (s := t) ⟨fun certID hmem => ?_, fun certID => ?_⟩ rfl rfl rfl rfl
  · rw [Store.approvedRoots, hrev.approvedRoot] at hmem
    obtain ⟨cert, hcert, hroot, hid⟩ := h.roots.approved certID hmem
    refine ⟨cert, ?_, hroot, hid⟩
    have hne : certID.key ≠ pairKey m.subject m.subjectKeyId := by
      intro hkey
      rw [hnone cert (hkey ▸ hcert)] at hroot
      cases hroot
    rwa [approvedCerts_congr (h.root_stays hrev hne hcert hroot)]
  · rw [Store.revokedRoots, hrev.revokedRoot]
    refine (h.roots.revoked certID).trans (exists_congr fun cert => ?_)
    rw [and_congr_left_iff]
    rintro ⟨hroot, -⟩
    by_cases hkey : certID.key = pairKey m.subject m.subjectKeyId
    · -- what is appended under the key of the message holds no root
      rw [hkey, hrev.revokedCerts_self, List.map_id, List.mem_append, or_iff_left]
      intro hcert
      rw [hnone cert hcert] at hroot
      cases hroot
    · exact (h.revoked_root_iff hrev hkey hroot).symm

/-- **One step keeps the lists of roots exact**, if it keeps roots apart. -/
theorem rootLists_step (h : Orderly lib s) (he : Effect lib bech32 ctx s msg s')
    (hfree : msg.NamesSlashFree) : RootLists s' := by
  have hwf := h.wellFormed
  cases he with
  | refused => exact h.roots
  | proposed => exact h.roots.congr rfl rfl rfl rfl
  | approved => exact h.roots.congr rfl rfl rfl rfl
  | rejected => exact h.roots.congr rfl rfl rfl rfl
  | discarded => exact h.roots.congr rfl rfl rfl rfl
  | revocationProposed => exact h.roots.congr rfl rfl rfl rfl
  | revocationApproved => exact h.roots.congr rfl rfl rfl rfl
  | activated cert hvote _ hcert =>
    obtain ⟨⟨x, hreads⟩, hroot, -⟩ := hvote.reads_cert hwf.records hcert
    refine ⟨fun certID hmem => ?_, h.roots.revoked⟩
    rcases Records.mem_addIdentifier.mp hmem with hmem | rfl
    · obtain ⟨c, hc, hroot, hid⟩ := h.roots.approved certID hmem
      exact ⟨c, hwf.records.subset_addApprovedCertificate hreads _ hc, hroot, hid⟩
    · exact ⟨cert, (hwf.records.mem_addApprovedCertificate hreads).mpr (Or.inr ⟨rfl, rfl⟩), hroot, rfl⟩
  | @added m x fuel root cert hdecode hnot _ _ _ hcert =>
    subst hcert
    have hreads := reads_certificateOf root hdecode hnot
    refine ⟨fun certID hmem => ?_, h.roots.revoked⟩
    obtain ⟨c, hc, hroot, hid⟩ := h.roots.approved certID hmem
    exact ⟨c, hwf.records.subset_addApprovedCertificate hreads _ hc, hroot, hid⟩
  | @rootRevoked m _ _ _ _ _ _ hvote _ _ hget ht =>
    exact rootLists_rootRevoked h (hfree m List.mem_cons_self) hvote hget ht
  | revoked t hget hcerts hnot _ ht => exact rootLists_revoked h hget hcerts hnot ht

/-- **One step keeps the invariant**, if it keeps roots apart. -/
theorem orderly_step (h : Orderly lib s) (he : Effect lib bech32 ctx s msg s')
    (hapart : KeepsRootsApart bech32 s (ctx, msg)) : Orderly lib s' where
  wellFormed := wellFormed_step h.wellFormed he
  listed := listed_step h.wellFormed h.listed he
  exact := exact_step h.wellFormed h.listed h.exact he hapart.1
  uniform := uniformRecords_step h.wellFormed h.uniform he hapart.2
  roots := rootLists_step h he hapart.1

theorem orderly_empty : Orderly lib Store.empty where
  wellFormed := wellFormed_empty
  listed := listed_empty
  exact := exact_empty
  uniform := uniformRecords_empty
  roots :=
    { approved := fun _ hmem => nomatch hmem
      revoked := fun _ => ⟨fun hmem => (nomatch hmem), fun ⟨_, hcert, _⟩ => nomatch hcert⟩ }

theorem orderly_of_reachable
    (h : Reachable ((certificates lib bech32).restrict (KeepsRootsApart bech32)) s) :
    Orderly lib s := by
  apply h.invariant
  · exact orderly_empty
  · rintro s ⟨ctx, msg⟩ s' horderly ⟨hstep, hapart⟩
    exact orderly_step horderly (step_effect hstep) hapart

/-! ## How roots leave -/

/-- Only a completed vote on its own identifier takes a root from the approved records. -/
theorem exists_vote_of_root_left (h : Orderly lib s) (he : Effect lib bech32 ctx s msg s')
    (hfree : msg.NamesSlashFree) {k : Bytes} {cert : Certificate} (hcert : cert ∈ s.approvedCerts k)
    (hroot : cert.isRoot = true) (hleft : cert ∉ s'.approvedCerts k) :
    ∃ m addr found, msg = .approveRevokeX509RootCert m ∧ m.certID = cert.certID ∧
      RevocationVote bech32 ctx s m addr found ∧
      certificateApprovalsCount ctx.accounts ≤ (found.approvals ++ [grantOf bech32 m addr]).length := by
  have hwf := h.wellFormed
  cases he with
  | refused => exact absurd hcert hleft
  | proposed => exact absurd hcert hleft
  | approved => exact absurd hcert hleft
  | rejected => exact absurd hcert hleft
  | discarded => exact absurd hcert hleft
  | revocationProposed => exact absurd hcert hleft
  | revocationApproved => exact absurd hcert hleft
  | activated new hvote _ hnew =>
    obtain ⟨⟨x, hreads⟩, -⟩ := hvote.reads_cert hwf.records hnew
    exact absurd (hwf.records.subset_addApprovedCertificate hreads k hcert) hleft
  | @added m x fuel root new hdecode hnot _ _ _ hnew =>
    subst hnew
    have hreads := reads_certificateOf root hdecode hnot
    exact absurd (hwf.records.subset_addApprovedCertificate hreads k hcert) hleft
  | @rootRevoked m addr found record _ approvals t hvote _ hcount hget ht =>
    obtain ⟨-, hrev, -⟩ := revocation_of_rootRevoked hwf.records hget ht
    have hkey : k = pairKey m.subject m.subjectKeyId := by
      by_contra hne
      apply hleft
      change cert ∈ t.approvedCerts k
      rwa [approvedCerts_congr (h.root_stays hrev hne hcert hroot)]
    obtain ⟨hk, x, hreads⟩ := hwf.records.of_mem_approvedCerts hcert
    have hid : m.certID = cert.certID := CertificateIdentifier.key_inj
      (hfree m List.mem_cons_self) hreads.slashFree (hkey.symm.trans hk)
    refine ⟨m, addr, found, rfl, hid, hvote, ?_⟩
    rwa [List.length_append, List.length_singleton]
  | @revoked m record first rest _ t hget hcerts hnot _ ht =>
    obtain ⟨-, hrev, -⟩ := revocation_of_revoked hwf.records hget ht
    -- the record of a root holds no other certificate, and the owner's handler refuses roots
    have hne : k ≠ pairKey m.subject m.subjectKeyId := by
      rintro rfl
      have hfirst := first_mem_approvedCerts hget hcerts
      rw [(h.uniform.approved _).isRoot_of_mem hfirst hcert, hroot] at hnot
      cases hnot
    exfalso
    apply hleft
    change cert ∈ t.approvedCerts k
    rwa [approvedCerts_congr (h.root_stays hrev hne hcert hroot)]

/-- **A root leaves by a vote of the trustees.** In every run without aliases and mixed records, a
root certificate leaves the approved records only in a step that approves the revocation of its own
identifier, whose proposal then has at least as many approvals as are needed. -/
theorem root_leaves_by_vote {a : Context × Msg}
    (h : Reachable ((certificates lib bech32).restrict (KeepsRootsApart bech32)) s)
    (hstep : ((certificates lib bech32).restrict (KeepsRootsApart bech32)).step s a s')
    {subject subjectKeyID : String} {record : ApprovedCertificates} {cert : Certificate}
    (hget : s.getApprovedCertificates subject subjectKeyID = some record)
    (hcert : cert ∈ record.certs) (hroot : cert.isRoot = true)
    (hleft : ∀ record', s'.getApprovedCertificates subject subjectKeyID = some record' →
      cert ∉ record'.certs) :
    ∃ m addr found, a.2 = .approveRevokeX509RootCert m ∧
      m.subject = cert.subject ∧ m.subjectKeyId = cert.subjectKeyId ∧
      RevocationVote bech32 a.1 s m addr found ∧
      certificateApprovalsCount a.1.accounts ≤
        (found.approvals ++ [grantOf bech32 m addr]).length := by
  have hmem : cert ∈ s.approvedCerts (pairKey subject subjectKeyID) := by
    rw [approvedCerts_of_get hget]
    exact hcert
  have hleft' : cert ∉ s'.approvedCerts (pairKey subject subjectKeyID) := by
    intro hmem'
    obtain ⟨record', hget', hcert'⟩ := mem_approvedCerts_iff.mp hmem'
    exact hleft record' hget' hcert'
  obtain ⟨m, addr, found, ha, hid, hvote, hcount⟩ := exists_vote_of_root_left
    (orderly_of_reachable h) (step_effect hstep.1) hstep.2.1 hmem hroot hleft'
  obtain ⟨hsubject, hkey⟩ := CertificateIdentifier.mk.inj hid
  exact ⟨m, addr, found, ha, hsubject, hkey, hvote, hcount⟩

/-- **The lists of roots are exact.** In every run without aliases and mixed records, the list of
approved roots holds, once each, the identifiers whose approved record has a root, and the list of
revoked roots those whose revoked record has one. -/
theorem root_lists_exact
    (h : Reachable ((certificates lib bech32).restrict (KeepsRootsApart bech32)) s) :
    s.approvedRoots.Nodup ∧
    (∀ certID, certID ∈ s.approvedRoots ↔ ∃ record,
      s.getApprovedCertificates certID.subject certID.subjectKeyId = some record ∧
        record.certID = certID ∧ ∃ cert ∈ record.certs, cert.isRoot = true) ∧
    s.revokedRoots.Nodup ∧
    ∀ certID, certID ∈ s.revokedRoots ↔ ∃ record,
      s.revokedCertificates.get (revokedCertificatesKey certID.subject certID.subjectKeyId) =
          some record ∧
        record.certID = certID ∧ ∃ cert ∈ record.certs, cert.isRoot = true := by
  have horderly := orderly_of_reachable h
  have hrecords := horderly.wellFormed.records
  refine ⟨hrecords.approvedRoot, fun certID => ⟨fun hmem => ?_, ?_⟩, hrecords.revokedRoot,
    fun certID => (horderly.roots.revoked certID).trans ⟨?_, ?_⟩⟩
  · obtain ⟨cert, hcert, hroot, hid⟩ := horderly.roots.approved certID hmem
    obtain ⟨record, hget, hcert⟩ := mem_approvedCerts_iff.mp hcert
    have hown := (hrecords.approved _ _ hget).2.1.certID cert hcert
    exact ⟨record, hget, hown.symm.trans hid, cert, hcert, hroot⟩
  · rintro ⟨record, hget, rfl, cert, hcert, hroot⟩
    rw [← (hrecords.approved _ _ hget).2.1.certID cert hcert]
    exact horderly.listed.roots _ cert (mem_approvedCerts_iff.mpr ⟨record, hget, hcert⟩) hroot
  · rintro ⟨cert, hcert, hroot, hid⟩
    obtain ⟨record, hget, hcert⟩ := mem_revokedCerts_iff.mp hcert
    have hown := (hrecords.revoked _ _ hget).2.certID cert hcert
    exact ⟨record, hget, hown.symm.trans hid, cert, hcert, hroot⟩
  · rintro ⟨record, hget, rfl, cert, hcert, hroot⟩
    have hown := (hrecords.revoked _ _ hget).2.certID cert hcert
    exact ⟨cert, mem_revokedCerts_iff.mpr ⟨record, hget, hcert⟩, hroot, hown⟩

/-! ## A mixed record is revoked -/

/-- **A root is revoked by an owner.** The record that holds a root beside a vendor's certificate is
revoked by the vendor alone. -/
theorem root_revoked_by_owner : ∃ s s',
    Reachable ((certificates exampleLib Dclauth.exampleCodec).restrict
      fun _ a => a.2.NamesSlashFree) s ∧
    ((certificates exampleLib Dclauth.exampleCodec).restrict
      fun _ a => a.2.NamesSlashFree).step s (exampleRevoke "cosmos1vendor" "Uw==" "02") s' ∧
    ∃ record, s.getApprovedCertificates "Uw==" "02" = some record ∧
      (∃ cert ∈ record.certs, cert.isRoot = true) ∧
      s'.getApprovedCertificates "Uw==" "02" = none := by
  obtain ⟨s, hs, hp⟩ := exists_reachable_of_foldlM
    (T := (certificates exampleLib Dclauth.exampleCodec).restrict fun _ a => a.2.NamesSlashFree)
    (p := fun s => (s.getApprovedCertificates "Uw==" "02").any fun record =>
      (record.certs.any fun cert => cert.isRoot) &&
        (deliverSlashFree s (exampleRevoke "cosmos1vendor" "Uw==" "02")).any fun s' =>
          (s'.getApprovedCertificates "Uw==" "02").isNone)
    deliverSlashFree step_of_deliverSlashFree exampleMixing (by decide +kernel)
  rw [Option.any_eq_true] at hp
  obtain ⟨record, hget, hp⟩ := hp
  rw [Bool.and_eq_true, List.any_eq_true, Option.any_eq_true] at hp
  obtain ⟨hroot, s', hs', hnone⟩ := hp
  exact ⟨s, s', hs, step_of_deliverSlashFree hs', record, hget, hroot,
    Option.isNone_iff_eq_none.mp hnone⟩

/-- **Both lists of roots are wrong** after that: the identifier is listed as an approved root
without an approved record, and is not listed as a revoked root though its revoked record has
one. -/
theorem root_lists_stale : ∃ s,
    Reachable ((certificates exampleLib Dclauth.exampleCodec).restrict
      fun _ a => a.2.NamesSlashFree) s ∧
    (⟨"Uw==", "02"⟩ ∈ s.approvedRoots ∧ s.getApprovedCertificates "Uw==" "02" = none) ∧
    ⟨"Uw==", "02"⟩ ∉ s.revokedRoots ∧
    ∃ record, s.revokedCertificates.get (revokedCertificatesKey "Uw==" "02") = some record ∧
      ∃ cert ∈ record.certs, cert.isRoot = true := by
  obtain ⟨s, hs, hp⟩ := exists_reachable_of_foldlM
    (T := (certificates exampleLib Dclauth.exampleCodec).restrict fun _ a => a.2.NamesSlashFree)
    (p := fun s => (s.revokedCertificates.get (revokedCertificatesKey "Uw==" "02")).any fun record =>
      (record.certs.any fun cert => cert.isRoot) &&
        decide (⟨"Uw==", "02"⟩ ∈ s.approvedRoots ∧ ⟨"Uw==", "02"⟩ ∉ s.revokedRoots) &&
        (s.getApprovedCertificates "Uw==" "02").isNone)
    deliverSlashFree step_of_deliverSlashFree
    (exampleMixing ++ [exampleRevoke "cosmos1vendor" "Uw==" "02"]) (by decide +kernel)
  rw [Option.any_eq_true] at hp
  obtain ⟨record, hget, hp⟩ := hp
  rw [Bool.and_eq_true, Bool.and_eq_true, List.any_eq_true, decide_eq_true_eq] at hp
  obtain ⟨⟨hroot, happroved, hrevoked⟩, hnone⟩ := hp
  exact ⟨s, hs, ⟨happroved, Option.isNone_iff_eq_none.mp hnone⟩, hrevoked, record, hget, hroot⟩

/-! ## The trustees revoke a root -/

/-- Deliver a message that keeps roots apart. -/
def deliverApart (s : Store) (a : Context × Msg) : Option Store :=
  if a.2.NamesSlashFree ∧ mixesNothing s a then deliverMsg exampleLib Dclauth.exampleCodec 3 s a
  else none

theorem step_of_deliverApart {a : Context × Msg} (h : deliverApart s a = some s') :
    ((certificates exampleLib Dclauth.exampleCodec).restrict
      (KeepsRootsApart Dclauth.exampleCodec)).step s a s' := by
  unfold deliverApart at h
  split at h
  · next hapart =>
    exact ⟨step_of_deliverMsg h, hapart.1, not_mixesRoot_of_mixesNothing hapart.2⟩
  · cases h

/-- The example's root, and a proposal to revoke it. -/
def exampleRevocation : List (Context × Msg) :=
  exampleRoot ++ [exampleProposeRevoke "cosmos1one" "Ug==" "01"]

/-- The root of the example leaves when the second of three trustees approves its revocation. -/
theorem example_root_leaves : ∃ s s',
    ((certificates exampleLib Dclauth.exampleCodec).restrict
      (KeepsRootsApart Dclauth.exampleCodec)).step s
        (exampleApproveRevoke "cosmos1two" "Ug==" "01") s' ∧
    ∃ addr found, RevocationVote Dclauth.exampleCodec exampleContext s
        (exampleMsg "cosmos1two" "Ug==" "01") addr found ∧
      certificateApprovalsCount exampleContext.accounts ≤ found.approvals.length + 1 := by
  obtain ⟨s, hs, hp⟩ := exists_reachable_of_foldlM
    (T := (certificates exampleLib Dclauth.exampleCodec).restrict
      (KeepsRootsApart Dclauth.exampleCodec))
    (p := fun s => (s.getApprovedCertificates "Ug==" "01").any fun record =>
      (record.certs.any fun cert => cert.isRoot) &&
        (deliverApart s (exampleApproveRevoke "cosmos1two" "Ug==" "01")).any fun s' =>
          (s'.getApprovedCertificates "Ug==" "01").isNone)
    deliverApart step_of_deliverApart exampleRevocation (by decide +kernel)
  rw [Option.any_eq_true] at hp
  obtain ⟨record, hget, hp⟩ := hp
  rw [Bool.and_eq_true, List.any_eq_true, Option.any_eq_true] at hp
  obtain ⟨⟨cert, hcert, hroot⟩, s', hs', hnone⟩ := hp
  have hstep := step_of_deliverApart hs'
  have hleft : ∀ record', s'.getApprovedCertificates "Ug==" "01" = some record' →
      cert ∉ record'.certs := by
    intro record' hget'
    rw [Option.isNone_iff_eq_none.mp hnone] at hget'
    cases hget'
  obtain ⟨m, addr, found, hm, -, -, hvote, hcount⟩ :=
    root_leaves_by_vote hs hstep hget hcert hroot hleft
  obtain rfl := Msg.approveRevokeX509RootCert.inj hm
  rw [List.length_append, List.length_singleton] at hcount
  exact ⟨s, s', hstep, addr, found, hvote, hcount⟩

/-- After that it is on the list of revoked roots, and not on that of approved ones. -/
theorem example_root_listed_revoked : ∃ s,
    Reachable ((certificates exampleLib Dclauth.exampleCodec).restrict
      (KeepsRootsApart Dclauth.exampleCodec)) s ∧
    ⟨"Ug==", "01"⟩ ∈ s.revokedRoots ∧ ⟨"Ug==", "01"⟩ ∉ s.approvedRoots := by
  obtain ⟨s, hs, hp⟩ := exists_reachable_of_foldlM
    (T := (certificates exampleLib Dclauth.exampleCodec).restrict
      (KeepsRootsApart Dclauth.exampleCodec))
    (p := fun s => (s.revokedCertificates.get (revokedCertificatesKey "Ug==" "01")).any fun record =>
      (record.certs.any fun cert => cert.isRoot) && decide (record.certID = ⟨"Ug==", "01"⟩) &&
        (s.getApprovedCertificates "Ug==" "01").isNone)
    deliverApart step_of_deliverApart
    (exampleRevocation ++ [exampleApproveRevoke "cosmos1two" "Ug==" "01"]) (by decide +kernel)
  rw [Option.any_eq_true] at hp
  obtain ⟨record, hget, hp⟩ := hp
  rw [Bool.and_eq_true, Bool.and_eq_true, List.any_eq_true, decide_eq_true_eq] at hp
  obtain ⟨⟨hroot, hid⟩, hnone⟩ := hp
  obtain ⟨-, happroved, -, hrevoked⟩ := root_lists_exact hs
  refine ⟨s, hs, (hrevoked _).mpr ⟨record, hget, hid, hroot⟩, fun hmem => ?_⟩
  obtain ⟨record', hget', -⟩ := (happroved _).mp hmem
  rw [Option.isNone_iff_eq_none.mp hnone] at hget'
  cases hget'

end ComplianceLedger.Pki
