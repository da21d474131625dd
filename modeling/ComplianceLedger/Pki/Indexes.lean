import ComplianceLedger.Pki.Exact

/-!
# The indexes of the approved certificates

Beside the approved records the store keeps two indexes of them, by issuer and by subject, which
the handlers update by calls of their own. In the runs without aliases both are exact: the lists
hold, each once, the identifiers that they are lists of, and an empty list is not stored.

A record is that of the fields it has, and not of every identifier with its key: the identifiers
and the issuers below are free of slashes, as is all that is read off a certificate.

## Main definitions

* `Store.Holds s certID record`: `record` is the approved record of the identifier
* `ChildIndex s`, `SubjectIndex s`: the two indexes are exact
* `Subjects s`: the invariant behind the index by subject

## Main results

* `subjects_step`, `subjects_of_reachable`: the invariant of the runs without aliases
* `indexes_exact`: both indexes are exact
-/

open Machine Machine.TransitionSystem

namespace ComplianceLedger.Pki

/-- The record is the approved record of the identifier. -/
def Store.Holds (s : Store) (certID : CertificateIdentifier) (record : ApprovedCertificates) : Prop :=
  s.getApprovedCertificates certID.subject certID.subjectKeyId = some record ∧ record.certID = certID

/-- The approved record of the identifier has a certificate of this issuer that is not a root. -/
def Store.IssuedUnder (s : Store) (issuer authorityKeyID : String) (certID : CertificateIdentifier) :
    Prop :=
  ∃ record, s.Holds certID record ∧ ∃ cert ∈ record.certs, cert.isRoot = false ∧
    cert.issuer = issuer ∧ cert.authorityKeyId = authorityKeyID

/-- **The index by issuer is exact.** -/
structure ChildIndex (s : Store) : Prop where
  /-- A record is that of the fields it has. -/
  own : ∀ k record, s.childCertificates.get k = some record →
    k = childCertificatesKey record.issuer record.authorityKeyId ∧ SlashFree record.authorityKeyId
  /-- The record of an issuer lists what is issued under it, at least one and each once. -/
  found : ∀ issuer authorityKeyID record, SlashFree authorityKeyID →
    s.getChildCertificates issuer authorityKeyID = some record →
    record.issuer = issuer ∧ record.authorityKeyId = authorityKeyID ∧
      record.certIds.Nodup ∧ record.certIds ≠ [] ∧
      ∀ certID, certID ∈ record.certIds ↔ s.IssuedUnder issuer authorityKeyID certID
  /-- Nothing is issued under an issuer without a record. -/
  missing : ∀ issuer authorityKeyID, s.getChildCertificates issuer authorityKeyID = none →
    ∀ certID, ¬ s.IssuedUnder issuer authorityKeyID certID
  /-- Nothing is issued under an authority key identifier with a slash. -/
  authority : ∀ issuer authorityKeyID certID, s.IssuedUnder issuer authorityKeyID certID →
    SlashFree authorityKeyID
  /-- An identifier is on one list only. -/
  once : ∀ k k' record record' certID, s.childCertificates.get k = some record →
    s.childCertificates.get k' = some record' → certID ∈ record.certIds →
    certID ∈ record'.certIds → k = k'

/-- **The index by subject is exact.** -/
structure SubjectIndex (s : Store) : Prop where
  /-- The record of a subject lists its approved identifiers, at least one and each once. -/
  found : ∀ subject record, s.getApprovedCertificatesBySubject subject = some record →
    record.subject = subject ∧ record.subjectKeyIds.Nodup ∧ record.subjectKeyIds ≠ [] ∧
      ∀ subjectKeyID, subjectKeyID ∈ record.subjectKeyIds ↔
        ∃ approved, s.Holds ⟨subject, subjectKeyID⟩ approved
  /-- A subject without a record has no approved identifier. -/
  missing : ∀ subject, s.getApprovedCertificatesBySubject subject = none →
    ∀ subjectKeyID approved, ¬ s.Holds ⟨subject, subjectKeyID⟩ approved

variable {lib : CryptoX509} {bech32 : Bech32} {ctx : Context} {s s' : Store} {msg : Msg}

/-! ## Subjects in the course of a run -/

/-- The identifier is listed for its subject. -/
def Store.ListsSubject (s : Store) (certID : CertificateIdentifier) : Prop :=
  certID.subjectKeyId ∈ s.subjectKeyIds certID.subject

/-- An identifier free of slashes is listed for its subject exactly when it has a record. -/
def Store.Tracks (s : Store) (certID : CertificateIdentifier) : Prop :=
  s.ListsSubject certID ↔ s.approvedCertificates.get certID.key ≠ none

/-- The lists of the subjects are those of the approved records, and no slash is in any text that
was read off a certificate. -/
structure Subjects (s : Store) : Prop where
  tracks : ∀ certID, SlashFree certID.subjectKeyId → s.Tracks certID
  slashFree : ∀ certID, s.ListsSubject certID → SlashFree certID.subjectKeyId
  authority : s.childCertificates.All fun _ record => SlashFree record.authorityKeyId

/-- What a part of a revocation does: an identifier that is tracked stays tracked, and nothing new
is listed. -/
structure Untracks (s s' : Store) : Prop where
  tracks : ∀ certID, SlashFree certID.subjectKeyId → s.Tracks certID → s'.Tracks certID
  listed : ∀ certID, s'.ListsSubject certID → s.ListsSubject certID
  child : ∀ k record, s'.childCertificates.get k = some record →
    s.childCertificates.get k = some record

theorem Untracks.refl (s : Store) : Untracks s s :=
  ⟨fun _ _ htracks => htracks, fun _ hlisted => hlisted, fun _ _ hget => hget⟩

theorem Untracks.trans {s₁ s₂ s₃ : Store} (h : Untracks s₁ s₂) (h' : Untracks s₂ s₃) :
    Untracks s₁ s₃ where
  tracks certID hfree htracks := h'.tracks certID hfree (h.tracks certID hfree htracks)
  listed certID hlisted := h.listed certID (h'.listed certID hlisted)
  child k record hget := h.child k record (h'.child k record hget)

theorem Subjects.congr (h : Subjects s)
    (happroved : s'.approvedCertificates = s.approvedCertificates)
    (hsubjects : s'.approvedCertificatesBySubject = s.approvedCertificatesBySubject)
    (hchild : s'.childCertificates = s.childCertificates) : Subjects s' := by
  have hlists : ∀ certID, s'.ListsSubject certID ↔ s.ListsSubject certID := by
    intro certID
    unfold Store.ListsSubject Store.subjectKeyIds
    rw [hsubjects]
  refine ⟨fun certID hfree => ?_, fun certID hlisted => ?_, ?_⟩
  · unfold Store.Tracks
    rw [hlists, happroved]
    exact h.tracks certID hfree
  · exact h.slashFree certID ((hlists certID).mp hlisted)
  · rw [hchild]
    exact h.authority

/-- The identifier and its record are removed together. -/
theorem listsSubject_remove_iff (hrecords : Records lib s) {subject subjectKeyID : String}
    {certID : CertificateIdentifier} :
    (s.removeApprovedCertificateBySubject subject subjectKeyID).ListsSubject certID ↔
      certID ≠ ⟨subject, subjectKeyID⟩ ∧ s.ListsSubject certID := by
  obtain ⟨subject', subjectKeyID'⟩ := certID
  unfold Store.ListsSubject
  rw [hrecords.subjectKeyIds_removeApprovedCertificateBySubject]
  dsimp only
  have hnodup := hrecords.subjectKeyIds_nodup subject'
  split
  · next hsubject =>
    have hid : (⟨subject', subjectKeyID'⟩ : CertificateIdentifier) ≠ ⟨subject, subjectKeyID⟩ ↔
        subjectKeyID' ≠ subjectKeyID := by simp [hsubject]
    rw [hnodup.mem_erase_iff, hid]
  · next hsubject => simp [hsubject]

/-- The revocation of one child. -/
theorem untracks_revokeChild (hrecords : Records lib s) {certID : CertificateIdentifier}
    (hfree : SlashFree certID.subjectKeyId) : Untracks s (s.revokeChild certID) := by
  have hrecords' := (hrecords.addRevokedCertificates
    (hrecords.wellFormed_approvedAt certID.key)).removeApprovedCertificates certID.subject
      certID.subjectKeyId
  have hlists : ∀ certID', (s.revokeChild certID).ListsSubject certID' ↔
      certID' ≠ certID ∧ s.ListsSubject certID' :=
    fun certID' => listsSubject_remove_iff hrecords'
  refine ⟨fun certID' hfree' htracks => ?_, fun certID' h => ((hlists certID').mp h).2,
    fun _ _ hget => hget⟩
  unfold Store.Tracks
  rw [hlists]
  change _ ↔ (s.approvedCertificates.delete certID.key).get certID'.key ≠ none
  rw [KVStore.get_delete]
  by_cases hid : certID' = certID
  · simp [hid]
  · -- identifiers free of slashes have keys of their own
    have hkey : certID'.key ≠ certID.key := fun heq =>
      hid (CertificateIdentifier.key_inj hfree' hfree heq)
    rw [if_neg hkey, and_iff_right hid]
    exact htracks

theorem untracks_dropChildren (k : Bytes) (s : Store) : Untracks s (s.dropChildren k) where
  tracks _ _ htracks := htracks
  listed _ hlisted := hlisted
  child _ _ hget := (KVStore.get_of_get_delete hget).2

/-- The cascade of a revocation. -/
theorem untracks_of_revokeChildCertificates {fuel : ℕ} {issuer authorityKeyID : String} {t : Store}
    (h : Records lib s) (ht : revokeChildCertificates fuel issuer authorityKeyID s = some t) :
    Untracks s t := by
  rw [revokeChildCertificates_eq_cascade] at ht
  have hrel : Records lib s → Records lib t ∧ Untracks s t := by
    refine cascade_rel_of_children (R := fun s t => Records lib s → Records lib t ∧ Untracks s t)
      lawful ?_ ?_ ?_ ?_ (fun _ => Or.inl rfl) ht
    · exact fun s h => ⟨h, Untracks.refl s⟩
    · intro s₁ s₂ s₃ h₁₂ h₂₃ h₁
      obtain ⟨h₂, hu⟩ := h₁₂ h₁
      obtain ⟨h₃, hu'⟩ := h₂₃ h₂
      exact ⟨h₃, hu.trans hu'⟩
    · intro k certID hmem s₁ h₁
      -- the identifiers on the lists of children were read off certificates
      have hfree := h.slashFree_of_mem_children hmem
      exact ⟨h₁.revokeChild certID, untracks_revokeChild h₁ hfree⟩
    · exact fun k s₁ h₁ => ⟨h₁.dropChildren k, untracks_dropChildren k s₁⟩
  exact (hrel h).2

/-- **A revocation keeps the lists of the subjects**: the record that is named leaves before the
cascade, and its identifier the list of its subject after it. -/
theorem Subjects.revoke (h : Subjects s) (certID : CertificateIdentifier)
    (hfree : SlashFree certID.subjectKeyId) {fuel : ℕ} {s₁ t : Store} (hrecords : Records lib s₁)
    (happroved : s₁.approvedCertificates = s.approvedCertificates.delete certID.key)
    (hsubjects : s₁.approvedCertificatesBySubject = s.approvedCertificatesBySubject)
    (hchild : s₁.childCertificates.All fun _ record => SlashFree record.authorityKeyId)
    (ht : revokeChildCertificates fuel certID.subject certID.subjectKeyId s₁ = some t) :
    Subjects (t.removeApprovedCertificateBySubject certID.subject certID.subjectKeyId) := by
  have hu := untracks_of_revokeChildCertificates hrecords ht
  have hrecords' := (moves_of_revokeChildCertificates hrecords ht).1
  have hlists : ∀ certID', s₁.ListsSubject certID' ↔ s.ListsSubject certID' := by
    intro certID'
    unfold Store.ListsSubject Store.subjectKeyIds
    rw [hsubjects]
  refine ⟨fun certID' hfree' => ?_, fun certID' hlisted => ?_, fun k record hget => ?_⟩
  · unfold Store.Tracks
    rw [listsSubject_remove_iff hrecords']
    change _ ↔ t.approvedCertificates.get certID'.key ≠ none
    by_cases hid : certID' = certID
    · -- the record stays gone through the cascade
      have hgone : t.approvedCertificates.get certID'.key = none := by
        rcases (moves_of_revokeChildCertificates hrecords ht).2.moved certID'.key with
          ⟨hkept, -⟩ | ⟨hgone, -⟩
        · rw [hkept, happroved, KVStore.get_delete, if_pos (by rw [hid])]
        · exact hgone
      simp [hid, hid ▸ hgone]
    · rw [and_iff_right hid]
      apply hu.tracks certID' hfree'
      unfold Store.Tracks
      have hkey : certID'.key ≠ certID.key := fun heq =>
        hid (CertificateIdentifier.key_inj hfree' hfree heq)
      rw [hlists, happroved, KVStore.get_delete, if_neg hkey]
      exact h.tracks certID' hfree'
  · have hlisted' := ((listsSubject_remove_iff hrecords').mp hlisted).2
    exact h.slashFree certID' ((hlists certID').mp (hu.listed certID' hlisted'))
  · exact hchild k record (hu.child k record hget)

/-- A certificate joins the record of its identifier, which is listed for its subject. -/
theorem Subjects.add (h : Subjects s) (hrecords : Records lib s) {cert : Certificate}
    {x : X509Certificate} (hreads : Reads lib cert x)
    (happroved : s'.approvedCertificates = (s.addApprovedCertificate cert).approvedCertificates)
    (hsubjects : ∀ subject subjectKeyID, subjectKeyID ∈ s'.subjectKeyIds subject ↔
      subjectKeyID ∈ s.subjectKeyIds subject ∨
        (subject = cert.subject ∧ subjectKeyID = cert.subjectKeyId))
    (hchild : s'.childCertificates.All fun _ record => SlashFree record.authorityKeyId) :
    Subjects s' := by
  have hlists : ∀ certID, s'.ListsSubject certID ↔ s.ListsSubject certID ∨ certID = cert.certID := by
    intro certID
    unfold Store.ListsSubject
    rw [hsubjects]
    obtain ⟨subject, subjectKeyID⟩ := certID
    rw [Certificate.certID, CertificateIdentifier.mk.injEq]
  refine ⟨fun certID hfree => ?_, fun certID hlisted => ?_, hchild⟩
  · unfold Store.Tracks
    rw [hlists, happroved, hrecords.addApprovedCertificate_eq hreads, KVStore.get_set]
    by_cases hid : certID = cert.certID
    · simp [hid]
    · have hkey : certID.key ≠ cert.certID.key := fun heq =>
        hid (CertificateIdentifier.key_inj hfree hreads.slashFree heq)
      rw [if_neg hkey, or_iff_left hid]
      exact h.tracks certID hfree
  · rcases (hlists certID).mp hlisted with hlisted | rfl
    · exact h.slashFree certID hlisted
    · exact hreads.slashFree

/-! ## Steps and runs -/

theorem authority_addChildCertificate
    (h : s.childCertificates.All fun _ record => SlashFree record.authorityKeyId)
    {issuer authorityKeyID : String} (hfree : SlashFree authorityKeyID)
    (certID : CertificateIdentifier) :
    (s.addChildCertificate issuer authorityKeyID certID).childCertificates.All
      fun _ record => SlashFree record.authorityKeyId := by
  rw [Store.addChildCertificate_childCertificates]
  dsimp only
  split
  · exact h
  · apply h.set
    cases hget : s.getChildCertificates issuer authorityKeyID with
    | none => exact hfree
    | some record => exact h _ record hget

theorem authority_removeChildCertificate
    (h : s.childCertificates.All fun _ record => SlashFree record.authorityKeyId)
    (issuer authorityKeyID : String) (certID : CertificateIdentifier) :
    (s.removeChildCertificate issuer authorityKeyID certID).childCertificates.All
      fun _ record => SlashFree record.authorityKeyId := by
  rw [Store.removeChildCertificate_childCertificates]
  dsimp only
  split
  · exact h
  · next hmem =>
    split
    · apply h.set
      cases hget : s.getChildCertificates issuer authorityKeyID with
      | none =>
        rw [hget] at hmem
        exact absurd List.not_mem_nil hmem
      | some record => exact h _ record hget
    · exact h.delete _

/-- **One step keeps the invariant**, if its message names no identifier with a slash. -/
theorem subjects_step (hwf : WellFormed lib s) (h : Subjects s)
    (he : Effect lib bech32 ctx s msg s') (hfree : msg.NamesSlashFree) : Subjects s' := by
  cases he with
  | refused => exact h
  | proposed => exact h.congr rfl rfl rfl
  | approved => exact h.congr rfl rfl rfl
  | rejected => exact h.congr rfl rfl rfl
  | discarded => exact h.congr rfl rfl rfl
  | revocationProposed => exact h.congr rfl rfl rfl
  | revocationApproved => exact h.congr rfl rfl rfl
  | activated cert hvote _ hcert =>
    obtain ⟨⟨x, hreads⟩, -⟩ := hvote.reads_cert hwf.records hcert
    exact h.add hwf.records hreads rfl
      (fun _ _ => Records.mem_addApprovedCertificateBySubject) h.authority
  | @added m x fuel root cert hdecode hnot _ _ _ hcert =>
    subst hcert
    have hreads := reads_certificateOf root hdecode hnot
    exact h.add hwf.records hreads rfl (fun _ _ => Records.mem_addApprovedCertificateBySubject)
      (authority_addChildCertificate h.authority (decode_spec hdecode).authorityKeyID _)
  | @rootRevoked m _ found record _ approvals t hvote _ _ hget ht =>
    have hslash : SlashFree m.certID.subjectKeyId := hfree m List.mem_cons_self
    have hretired := (records_retire hwf.records (assignApprovals approvals record) hget
      (f := assignTo approvals) rfl
      (wellFormed_assignApprovals approvals (hwf.records.approved _ _ hget).2.1) rfl).1
    exact (h.revoke m.certID hslash hretired rfl rfl h.authority ht).congr rfl rfl rfl
  | @revoked m record first rest _ t hget hcerts hnot _ ht =>
    have hslash : SlashFree m.certID.subjectKeyId := hfree m List.mem_cons_self
    have hretired := (records_retire hwf.records record hget (f := id) rfl
      (hwf.records.approved _ _ hget).2.1 (List.map_id _).symm).1
    exact h.revoke m.certID hslash (hretired.removeChildCertificate _ _ _) rfl rfl
      (authority_removeChildCertificate h.authority _ _ _) ht

theorem subjects_empty : Subjects Store.empty where
  tracks _ _ := ⟨fun hlisted => (nomatch hlisted), fun hsome => absurd rfl hsome⟩
  slashFree _ hlisted := nomatch hlisted
  authority := KVStore.All.empty

/-- **The invariant of the runs without aliases.** -/
theorem subjects_of_reachable
    (h : Reachable ((certificates lib bech32).restrict fun _ a => a.2.NamesSlashFree) s) :
    WellFormed lib s ∧ Subjects s := by
  apply h.invariant
  · exact ⟨wellFormed_empty, subjects_empty⟩
  · rintro s ⟨ctx, msg⟩ s' ⟨hwf, hsubjects⟩ ⟨hstep, hfree⟩
    have he := step_effect hstep
    exact ⟨wellFormed_step hwf he, subjects_step hwf hsubjects he hfree⟩

/-! ## The two indexes -/

/-- A record under the key of an identifier without slashes is the record of the identifier. -/
theorem Records.holds (h : Records lib s) {certID : CertificateIdentifier}
    (hfree : SlashFree certID.subjectKeyId) {record : ApprovedCertificates}
    (hget : s.approvedCertificates.get certID.key = some record) : s.Holds certID record := by
  obtain ⟨hkey, hwf, -⟩ := h.approved _ _ hget
  exact ⟨hget, CertificateIdentifier.key_inj hwf.slashFree hfree hkey.symm⟩

/-- The authority key identifier of a certificate that is not a root is free of slashes. -/
theorem Records.slashFree_authorityKeyId (h : Records lib s) {k : Bytes} {cert : Certificate}
    (hcert : cert ∈ s.approvedCerts k) (hnot : cert.isRoot = false) :
    SlashFree cert.authorityKeyId := by
  obtain ⟨-, x, hreads⟩ := h.of_mem_approvedCerts hcert
  rw [(hreads.issuer hnot).2]
  exact (decode_spec hreads.decode).authorityKeyID

/-- What is issued under an issuer is on the list of its key. -/
theorem WellFormed.mem_children_of_issuedUnder (h : WellFormed lib s) {issuer authorityKeyID : String}
    {certID : CertificateIdentifier} (hissued : s.IssuedUnder issuer authorityKeyID certID) :
    certID ∈ s.children (pairKey issuer authorityKeyID) ∧ SlashFree authorityKeyID := by
  obtain ⟨record, ⟨hget, hid⟩, cert, hcert, hnot, rfl, rfl⟩ := hissued
  have hmem : cert ∈ s.approvedCerts certID.key := mem_approvedCerts_iff.mpr ⟨record, hget, hcert⟩
  have hcertID : cert.certID = certID :=
    ((h.records.approved _ _ hget).2.1.certID cert hcert).trans hid
  exact ⟨hcertID ▸ h.index.linked _ cert hmem hnot, h.records.slashFree_authorityKeyId hmem hnot⟩

/-- What is on the list of the key of an issuer is issued under it. -/
theorem Exact.issuedUnder_of_mem_children (h : Exact s) (hrecords : Records lib s)
    {issuer authorityKeyID : String} (hfree : SlashFree authorityKeyID)
    {certID : CertificateIdentifier} (hmem : certID ∈ s.children (pairKey issuer authorityKeyID)) :
    s.IssuedUnder issuer authorityKeyID certID := by
  obtain ⟨cert, hcert, hnot, hkey⟩ := h.children _ certID hmem
  have hissuer : (⟨cert.issuer, cert.authorityKeyId⟩ : CertificateIdentifier) =
      ⟨issuer, authorityKeyID⟩ :=
    CertificateIdentifier.key_inj (hrecords.slashFree_authorityKeyId hcert hnot) hfree hkey
  obtain ⟨hi, ha⟩ := (CertificateIdentifier.mk.injEq _ _ _ _).mp hissuer
  obtain ⟨record, hget, hcert⟩ := mem_approvedCerts_iff.mp hcert
  exact ⟨record, hrecords.holds (hrecords.slashFree_of_mem_children hmem) hget, cert, hcert, hnot,
    hi, ha⟩

/-- The index by issuer. -/
theorem childIndex_of (hwf : WellFormed lib s) (hlisted : Listed s) (hexact : Exact s)
    (hsubjects : Subjects s) : ChildIndex s where
  own k record hget := ⟨(hwf.records.child _ _ hget).1, hsubjects.authority _ _ hget⟩
  found issuer authorityKeyID record hfree hget := by
    obtain ⟨hkey, -, hnodup, hne⟩ := hwf.records.child _ _ hget
    have hown : (⟨issuer, authorityKeyID⟩ : CertificateIdentifier) =
        ⟨record.issuer, record.authorityKeyId⟩ :=
      CertificateIdentifier.key_inj hfree (hsubjects.authority _ _ hget) hkey
    obtain ⟨hi, ha⟩ := (CertificateIdentifier.mk.injEq _ _ _ _).mp hown
    refine ⟨hi.symm, ha.symm, hnodup, hne, fun certID => ⟨fun hmem => ?_, fun hissued => ?_⟩⟩
    · exact hexact.issuedUnder_of_mem_children hwf.records hfree
        (mem_children_iff.mpr ⟨record, hget, hmem⟩)
    · obtain ⟨record', hget', hmem⟩ :=
        mem_children_iff.mp (hwf.mem_children_of_issuedUnder hissued).1
      rwa [Option.some.inj (hget.symm.trans hget')]
  missing issuer authorityKeyID hnone certID hissued := by
    obtain ⟨record, hget, -⟩ := mem_children_iff.mp (hwf.mem_children_of_issuedUnder hissued).1
    cases hget.symm.trans hnone
  authority issuer authorityKeyID certID hissued := (hwf.mem_children_of_issuedUnder hissued).2
  once k k' record record' certID hget hget' hmem hmem' := by
    obtain ⟨cert, hcert, hnot, rfl⟩ :=
      hexact.children k certID (mem_children_iff.mpr ⟨record, hget, hmem⟩)
    obtain ⟨cert', hcert', hnot', rfl⟩ :=
      hexact.children k' certID (mem_children_iff.mpr ⟨record', hget', hmem'⟩)
    -- the certificates of one record that are not roots have one issuer
    obtain ⟨hi, ha⟩ := (hlisted.arranged _).issuer cert hcert cert' hcert' hnot hnot'
    rw [hi, ha]

/-- The identifiers listed for a subject are those with a record. -/
theorem Subjects.mem_subjectKeyIds_iff (h : Subjects s) (hrecords : Records lib s)
    {subject subjectKeyID : String} : subjectKeyID ∈ s.subjectKeyIds subject ↔
      ∃ approved, s.Holds ⟨subject, subjectKeyID⟩ approved := by
  constructor
  · intro hmem
    have hfree : SlashFree subjectKeyID := h.slashFree ⟨subject, subjectKeyID⟩ hmem
    obtain ⟨record, hget⟩ := Option.ne_none_iff_exists'.mp
      ((h.tracks ⟨subject, subjectKeyID⟩ hfree).mp hmem)
    exact ⟨record, hrecords.holds hfree hget⟩
  · rintro ⟨record, hget, hid⟩
    have hfree : SlashFree subjectKeyID := by
      have hfree' := (hrecords.approved _ _ hget).2.1.slashFree
      rwa [(CertificateIdentifier.mk.inj hid).2] at hfree'
    refine (h.tracks ⟨subject, subjectKeyID⟩ hfree).mpr ?_
    exact Option.ne_none_iff_exists'.mpr ⟨record, hget⟩

/-- The index by subject. -/
theorem subjectIndex_of (hrecords : Records lib s) (h : Subjects s) : SubjectIndex s where
  found subject record hget := by
    obtain ⟨hkey, hnodup, hne⟩ := hrecords.bySubject _ _ hget
    have hlist : s.subjectKeyIds subject = record.subjectKeyIds := KVStore.listAt_of_get hget
    refine ⟨(approvedCertificatesBySubjectKey_inj.mp hkey).symm, hnodup, hne, fun subjectKeyID => ?_⟩
    rw [← hlist]
    exact h.mem_subjectKeyIds_iff hrecords
  missing subject hnone subjectKeyID approved hholds := by
    have hmem := (h.mem_subjectKeyIds_iff hrecords).mpr ⟨approved, hholds⟩
    have hlist : s.subjectKeyIds subject = [] := KVStore.listAt_of_get_none hnone
    rw [hlist] at hmem
    cases hmem

/-- **Both indexes are exact** in the runs in which no message names an identifier with a slash. -/
theorem indexes_exact
    (h : Reachable ((certificates lib bech32).restrict fun _ a => a.2.NamesSlashFree) s) :
    ChildIndex s ∧ SubjectIndex s := by
  obtain ⟨hwf, hlisted, hexact⟩ := exact_of_reachable h
  obtain ⟨-, hsubjects⟩ := subjects_of_reachable h
  exact ⟨childIndex_of hwf hlisted hexact hsubjects, subjectIndex_of hwf.records hsubjects⟩

/-- A root with a certificate issued under it: the leaf is on the list of the root, and on that of
its own subject. -/
theorem example_indexes_exact : ∃ s,
    Reachable ((certificates exampleLib Dclauth.exampleCodec).restrict
      fun _ a => a.2.NamesSlashFree) s ∧
    s.IssuedUnder "Ug==" "01" ⟨"Uw==", "02"⟩ ∧
    ∃ record, s.getApprovedCertificatesBySubject "Uw==" = some record ∧
      record.subjectKeyIds = ["02"] := by
  obtain ⟨s, hs, hp⟩ := exists_reachable_of_foldlM
    (T := (certificates exampleLib Dclauth.exampleCodec).restrict fun _ a => a.2.NamesSlashFree)
    (p := fun s => (s.getChildCertificates "Ug==" "01").any (fun record : ChildCertificates =>
        decide (⟨"Uw==", "02"⟩ ∈ record.certIds)) &&
      (s.getApprovedCertificatesBySubject "Uw==").any
        fun record : ApprovedCertificatesBySubject => decide (record.subjectKeyIds = ["02"]))
    deliverSlashFree step_of_deliverSlashFree exampleLeaf (by decide +kernel)
  obtain ⟨hchild, -⟩ := indexes_exact hs
  rw [Bool.and_eq_true, Option.any_eq_true, Option.any_eq_true] at hp
  obtain ⟨⟨record, hget, hmem⟩, record', hget', hids⟩ := hp
  obtain ⟨-, -, -, -, hmem_iff⟩ := hchild.found _ _ _ (by decide) hget
  exact ⟨s, hs, (hmem_iff _).mp (of_decide_eq_true hmem), record', hget', of_decide_eq_true hids⟩

end ComplianceLedger.Pki
