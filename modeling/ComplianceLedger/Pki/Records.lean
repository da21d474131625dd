import ComplianceLedger.Pki.Keeper

/-!
# Well-formed records

Every record of the store lies under the key of its own fields, and every certificate in it says
what was read off its text. The updates of the keeper keep this, so that they can be read as
updates under the key of the identifier they are given.

## Main definitions

* `Reads lib cert x`: the stored certificate `cert` says what the decoded certificate `x` says
* `Records lib s`: all records of `s` are well formed
* `Store.approvedCerts`, `Store.revokedCerts`: the certificates under a key
* `Store.subjectKeyIds`, `Store.approvedRoots`, `Store.revokedRoots`: the lists of the store

## Main results

* `Records.setProposedCertificate`, ...: the updates keep the records well formed
* `approvedCerts_addApprovedCertificate`, `revokedCerts_addRevokedCertificates`,
  `children_addChildCertificate`, `children_removeChildCertificate`,
  `subjectKeyIds_removeApprovedCertificateBySubject`: what the updates do under a key
-/

open Machine

namespace ComplianceLedger.Pki

section Definitions

variable (lib : CryptoX509)

/-- A stored certificate says what was read off its text. The issuer of a root is not stored. -/
structure Reads (cert : Certificate) (x : X509Certificate) : Prop where
  decode : decodeX509Certificate lib cert.pemCert = .ok x
  subject : cert.subject = x.subject
  subjectKeyId : cert.subjectKeyId = x.subjectKeyID
  serialNumber : cert.serialNumber = x.serialNumber
  isRoot : cert.isRoot = x.isSelfSigned
  issuer : cert.isRoot = false → cert.issuer = x.issuer ∧ cert.authorityKeyId = x.authorityKeyID

/-- A proposal says what was read off its text, which is that of a self-signed certificate. -/
structure ReadsProposal (proposed : ProposedCertificate) (x : X509Certificate) : Prop where
  decode : decodeX509Certificate lib proposed.pemCert = .ok x
  self_signed : x.isSelfSigned = true
  subject : proposed.subject = x.subject
  subjectKeyId : proposed.subjectKeyId = x.subjectKeyID
  serialNumber : proposed.serialNumber = x.serialNumber

/-- A record holds certificates of its own identifier, with what was read off them. -/
structure ApprovedCertificates.WellFormed (record : ApprovedCertificates) : Prop where
  slashFree : SlashFree record.subjectKeyId
  certID : ∀ cert ∈ record.certs, cert.certID = record.certID
  reads : ∀ cert ∈ record.certs, ∃ x, Reads lib cert x

/-- **The records of the store are well formed**, and each lies under the key of its own fields. -/
structure Records (s : Store) : Prop where
  approved : s.approvedCertificates.All fun k record =>
    k = record.certID.key ∧ record.WellFormed lib ∧ record.certs ≠ []
  bySubject : s.approvedCertificatesBySubject.All fun k record =>
    k = approvedCertificatesBySubjectKey record.subject ∧ record.subjectKeyIds.Nodup ∧
      record.subjectKeyIds ≠ []
  approvedRoot : (s.approvedRootCertificates.getD []).Nodup
  child : s.childCertificates.All fun k record =>
    k = pairKey record.issuer record.authorityKeyId ∧
      (∀ certID ∈ record.certIds, SlashFree certID.subjectKeyId) ∧ record.certIds.Nodup ∧
      record.certIds ≠ []
  proposed : s.proposedCertificate.All fun k proposed =>
    k = pairKey proposed.subject proposed.subjectKeyId ∧ ∃ x, ReadsProposal lib proposed x
  revocation : s.proposedCertificateRevocation.All fun k revocation =>
    k = pairKey revocation.subject revocation.subjectKeyId
  rejected : s.rejectedCertificate.All fun k record => k = record.certID.key
  revoked : s.revokedCertificates.All fun k record =>
    k = record.certID.key ∧ record.WellFormed lib
  revokedRoot : (s.revokedRootCertificates.getD []).Nodup
  unique : s.uniqueCertificate.All fun k unique => k = pairKey unique.issuer unique.serialNumber

end Definitions

/-- The approved certificates under a key. -/
def Store.approvedCerts (s : Store) (k : Bytes) : List Certificate := (s.approvedAt k).certs

/-- The revoked certificates under a key. -/
def Store.revokedCerts (s : Store) (k : Bytes) : List Certificate :=
  s.revokedCertificates.listAt ApprovedCertificates.certs k

/-- The subject key identifiers listed for a subject. -/
def Store.subjectKeyIds (s : Store) (subject : String) : List String :=
  s.approvedCertificatesBySubject.listAt ApprovedCertificatesBySubject.subjectKeyIds
    (approvedCertificatesBySubjectKey subject)

/-- The identifiers listed as approved roots. -/
def Store.approvedRoots (s : Store) : List CertificateIdentifier :=
  s.approvedRootCertificates.getD []

/-- The identifiers listed as revoked roots. -/
def Store.revokedRoots (s : Store) : List CertificateIdentifier :=
  s.revokedRootCertificates.getD []

variable {lib : CryptoX509} {s : Store}

theorem Reads.slashFree {cert : Certificate} {x : X509Certificate} (h : Reads lib cert x) :
    SlashFree cert.subjectKeyId :=
  h.subjectKeyId ▸ (decode_spec h.decode).subjectKeyID

theorem ReadsProposal.slashFree {proposed : ProposedCertificate} {x : X509Certificate}
    (h : ReadsProposal lib proposed x) : SlashFree proposed.subjectKeyId :=
  h.subjectKeyId ▸ (decode_spec h.decode).subjectKeyID

/-- The issuer of a self-signed certificate is its subject. -/
theorem X509Certificate.issuer_eq_subject {x : X509Certificate} (h : x.isSelfSigned = true) :
    x.issuer = x.subject := by
  unfold X509Certificate.isSelfSigned at h
  split at h
  · exact (of_decide_eq_true h).1
  · exact of_decide_eq_true h

theorem ApprovedCertificates.WellFormed.zero : ApprovedCertificates.zero.WellFormed lib where
  slashFree := by decide
  certID cert hcert := nomatch hcert
  reads cert hcert := nomatch hcert

/-- Certificates of the same identifier can be appended to a well-formed record. -/
theorem ApprovedCertificates.WellFormed.append {record : ApprovedCertificates}
    (h : record.WellFormed lib) {certs : List Certificate}
    (hid : ∀ cert ∈ certs, cert.certID = record.certID)
    (hreads : ∀ cert ∈ certs, ∃ x, Reads lib cert x) :
    ({ record with certs := record.certs ++ certs } : ApprovedCertificates).WellFormed lib where
  slashFree := h.slashFree
  certID cert hcert := (List.mem_append.mp hcert).elim (h.certID cert) (hid cert)
  reads cert hcert := (List.mem_append.mp hcert).elim (h.reads cert) (hreads cert)

theorem mem_approvedCerts_iff {k : Bytes} {cert : Certificate} :
    cert ∈ s.approvedCerts k ↔ ∃ record, s.approvedCertificates.get k = some record ∧
      cert ∈ record.certs := by
  unfold Store.approvedCerts Store.approvedAt
  cases s.approvedCertificates.get k <;> simp [ApprovedCertificates.zero]

theorem mem_revokedCerts_iff {k : Bytes} {cert : Certificate} :
    cert ∈ s.revokedCerts k ↔ ∃ record, s.revokedCertificates.get k = some record ∧
      cert ∈ record.certs :=
  KVStore.mem_listAt_iff

theorem approvedCerts_of_get {k : Bytes} {record : ApprovedCertificates}
    (h : s.approvedCertificates.get k = some record) : s.approvedCerts k = record.certs := by
  rw [Store.approvedCerts, Store.approvedAt, h, Option.getD_some]

theorem approvedCerts_eq_listAt (k : Bytes) :
    s.approvedCerts k = s.approvedCertificates.listAt ApprovedCertificates.certs k := by
  unfold Store.approvedCerts Store.approvedAt KVStore.listAt
  cases s.approvedCertificates.get k <;> rfl

/-- The first certificate of a record is approved. -/
theorem first_mem_approvedCerts {k : Bytes} {record : ApprovedCertificates} {first : Certificate}
    {rest : List Certificate} (hget : s.approvedCertificates.get k = some record)
    (hcerts : record.certs = first :: rest) : first ∈ s.approvedCerts k := by
  rw [approvedCerts_of_get hget, hcerts]
  exact List.mem_cons_self

/-- The approved certificates depend on the approved records only. -/
theorem approvedCerts_of_eq {s' : Store} (h : s'.approvedCertificates = s.approvedCertificates) :
    s'.approvedCerts = s.approvedCerts := by
  unfold Store.approvedCerts Store.approvedAt
  rw [h]

/-- The children depend on the child records only. -/
theorem children_of_eq {s' : Store} (h : s'.childCertificates = s.childCertificates) :
    s'.children = s.children := by
  unfold Store.children
  rw [h]

/-- A step that leaves the approved records as they are removes none. -/
theorem approvedCertificates_ne_of_gone {s' : Store} {subject subjectKeyID : String}
    {record : ApprovedCertificates}
    (hget : s.getApprovedCertificates subject subjectKeyID = some record)
    (hgone : s'.getApprovedCertificates subject subjectKeyID = none) :
    s'.approvedCertificates ≠ s.approvedCertificates := by
  intro heq
  unfold Store.getApprovedCertificates at hget hgone
  rw [heq, hget] at hgone
  cases hgone

theorem mem_children_iff {k : Bytes} {certID : CertificateIdentifier} :
    certID ∈ s.children k ↔ ∃ record, s.childCertificates.get k = some record ∧
      certID ∈ record.certIds :=
  KVStore.mem_listAt_iff

namespace Records

variable (h : Records lib s)

include h

/-! ## Certificates under a key -/

/-- A record is absent exactly when there are no approved certificates under its key. -/
theorem approvedCerts_eq_nil_iff {k : Bytes} :
    s.approvedCerts k = [] ↔ s.approvedCertificates.get k = none := by
  cases hget : s.approvedCertificates.get k with
  | none => simp [Store.approvedCerts, Store.approvedAt, hget, ApprovedCertificates.zero]
  | some record => simp [approvedCerts_of_get hget, (h.approved _ _ hget).2.2]

/-- An approved certificate lies under its own key and says what was read off it. -/
theorem of_mem_approvedCerts {k : Bytes} {cert : Certificate} (hcert : cert ∈ s.approvedCerts k) :
    k = cert.certID.key ∧ ∃ x, Reads lib cert x := by
  obtain ⟨record, hget, hmem⟩ := mem_approvedCerts_iff.mp hcert
  obtain ⟨hk, hwf, -⟩ := h.approved _ _ hget
  exact ⟨(hwf.certID cert hmem).symm ▸ hk, hwf.reads cert hmem⟩

theorem of_mem_revokedCerts {k : Bytes} {cert : Certificate} (hcert : cert ∈ s.revokedCerts k) :
    k = cert.certID.key ∧ ∃ x, Reads lib cert x := by
  obtain ⟨record, hget, hmem⟩ := mem_revokedCerts_iff.mp hcert
  obtain ⟨hk, hwf⟩ := h.revoked _ _ hget
  exact ⟨(hwf.certID cert hmem).symm ▸ hk, hwf.reads cert hmem⟩

theorem slashFree_of_mem_children {k : Bytes} {certID : CertificateIdentifier}
    (hid : certID ∈ s.children k) : SlashFree certID.subjectKeyId := by
  obtain ⟨record, hget, hmem⟩ := mem_children_iff.mp hid
  exact (h.child _ _ hget).2.1 certID hmem

theorem wellFormed_approvedAt (k : Bytes) : (s.approvedAt k).WellFormed lib := by
  unfold Store.approvedAt
  cases hget : s.approvedCertificates.get k with
  | none => exact ApprovedCertificates.WellFormed.zero
  | some record => exact (h.approved _ _ hget).2.1

/-! ## Approved certificates -/

/-- The record a certificate is appended to is well formed and has its identifier. -/
theorem approvedFor_spec {cert : Certificate} {x : X509Certificate} (hcert : Reads lib cert x) :
    (s.approvedFor cert.subject cert.subjectKeyId).certID = cert.certID ∧
      (s.approvedFor cert.subject cert.subjectKeyId).WellFormed lib := by
  unfold Store.approvedFor
  cases hget : s.getApprovedCertificates cert.subject cert.subjectKeyId with
  | none => exact ⟨rfl, ⟨hcert.slashFree, fun _ hc => (nomatch hc), fun _ hc => nomatch hc⟩⟩
  | some record =>
    obtain ⟨hk, hwf, -⟩ := h.approved _ _ hget
    -- both identifiers are free of slashes, so that equal keys make them equal
    exact ⟨CertificateIdentifier.key_inj hwf.slashFree hcert.slashFree hk.symm, hwf⟩

theorem addApprovedCertificate {cert : Certificate} {x : X509Certificate}
    (hcert : Reads lib cert x) : Records lib (s.addApprovedCertificate cert) := by
  obtain ⟨hid, hwf⟩ := h.approvedFor_spec hcert
  refine { h with approved := h.approved.set ⟨rfl, hwf.append ?_ ?_, ?_⟩ }
  · intro c hc
    obtain rfl := List.mem_singleton.mp hc
    exact hid.symm
  · intro c hc
    obtain rfl := List.mem_singleton.mp hc
    exact ⟨x, hcert⟩
  · exact List.append_ne_nil_of_right_ne_nil _ (List.cons_ne_nil _ _)

/-- The record of a certificate is stored under the key of its identifier. -/
theorem addApprovedCertificate_eq {cert : Certificate} {x : X509Certificate}
    (hcert : Reads lib cert x) :
    (s.addApprovedCertificate cert).approvedCertificates =
      s.approvedCertificates.set cert.certID.key
        { s.approvedFor cert.subject cert.subjectKeyId with
          certs := s.approvedCerts cert.certID.key ++ [cert] } := by
  obtain ⟨hid, -⟩ := h.approvedFor_spec hcert
  have hcerts : (s.approvedFor cert.subject cert.subjectKeyId).certs =
      s.approvedCerts cert.certID.key := by
    unfold Store.approvedFor Store.approvedCerts Store.approvedAt
    change ((s.approvedCertificates.get cert.certID.key).getD _).certs = _
    cases s.approvedCertificates.get cert.certID.key <;> rfl
  rw [Store.addApprovedCertificate_approvedCertificates]
  dsimp only
  rw [hcerts, ← hid]
  rfl

theorem approvedCerts_addApprovedCertificate {cert : Certificate} {x : X509Certificate}
    (hcert : Reads lib cert x) (k : Bytes) :
    (s.addApprovedCertificate cert).approvedCerts k =
      if k = cert.certID.key then s.approvedCerts k ++ [cert] else s.approvedCerts k := by
  rw [Store.approvedCerts, Store.approvedAt, h.addApprovedCertificate_eq hcert, KVStore.get_set]
  split
  · next hk => rw [hk]; rfl
  · rfl

/-- The approved certificates are the old ones and the one that is added. -/
theorem mem_addApprovedCertificate {cert c : Certificate} {x : X509Certificate}
    (hcert : Reads lib cert x) {k : Bytes} :
    c ∈ (s.addApprovedCertificate cert).approvedCerts k ↔
      c ∈ s.approvedCerts k ∨ (k = cert.certID.key ∧ c = cert) := by
  rw [h.approvedCerts_addApprovedCertificate hcert]
  split
  · next hk => simp [hk]
  · next hk => simp [hk]

theorem subset_addApprovedCertificate {cert : Certificate} {x : X509Certificate}
    (hcert : Reads lib cert x) (k : Bytes) :
    s.approvedCerts k ⊆ (s.addApprovedCertificate cert).approvedCerts k :=
  fun _ hc => (h.mem_addApprovedCertificate hcert).mpr (Or.inl hc)

/-- What holds of the certificates under every key holds of them after one is added, if it holds of
those that the new one joins. -/
theorem forall_addApprovedCertificate {P : List Certificate → Prop} {cert : Certificate}
    {x : X509Certificate} (hcert : Reads lib cert x) (hold : ∀ k, P (s.approvedCerts k))
    (hnew : P (s.approvedCerts cert.certID.key ++ [cert])) (k : Bytes) :
    P ((s.addApprovedCertificate cert).approvedCerts k) := by
  rw [h.approvedCerts_addApprovedCertificate hcert]
  split
  · next hk =>
    rw [hk]
    exact hnew
  · exact hold k

theorem removeApprovedCertificates (subject subjectKeyID : String) :
    Records lib (s.removeApprovedCertificates subject subjectKeyID) :=
  { h with approved := h.approved.delete _ }

/-! ## Revoked certificates -/

theorem revokedFor_spec {approved : ApprovedCertificates} (hwf : approved.WellFormed lib) :
    (s.revokedFor approved.subject approved.subjectKeyId).certID = approved.certID ∧
      (s.revokedFor approved.subject approved.subjectKeyId).WellFormed lib := by
  unfold Store.revokedFor
  cases hget : s.revokedCertificates.get
      (revokedCertificatesKey approved.subject approved.subjectKeyId) with
  | none => exact ⟨rfl, ⟨hwf.slashFree, fun _ hc => (nomatch hc), fun _ hc => nomatch hc⟩⟩
  | some record =>
    obtain ⟨hk, hwf'⟩ := h.revoked _ _ hget
    exact ⟨CertificateIdentifier.key_inj hwf'.slashFree hwf.slashFree hk.symm, hwf'⟩

theorem addRevokedCertificates {approved : ApprovedCertificates} (hwf : approved.WellFormed lib) :
    Records lib (s.addRevokedCertificates approved) := by
  obtain ⟨hid, hwf'⟩ := h.revokedFor_spec hwf
  refine { h with revoked := h.revoked.set ⟨rfl, hwf'.append ?_ hwf.reads⟩ }
  exact fun cert hcert => (hwf.certID cert hcert).trans hid.symm

/-- Revoked certificates are stored under the key of the identifier of their record. -/
theorem addRevokedCertificates_eq {approved : ApprovedCertificates}
    (hwf : approved.WellFormed lib) :
    (s.addRevokedCertificates approved).revokedCertificates =
      s.revokedCertificates.set approved.certID.key
        { s.revokedFor approved.subject approved.subjectKeyId with
          certs := s.revokedCerts approved.certID.key ++ approved.certs } := by
  obtain ⟨hid, -⟩ := h.revokedFor_spec hwf
  have hcerts : (s.revokedFor approved.subject approved.subjectKeyId).certs =
      s.revokedCerts approved.certID.key := by
    unfold Store.revokedFor Store.revokedCerts KVStore.listAt
    change ((s.revokedCertificates.get approved.certID.key).getD _).certs = _
    cases s.revokedCertificates.get approved.certID.key <;> rfl
  rw [Store.addRevokedCertificates_revokedCertificates]
  dsimp only
  rw [hcerts, ← hid]
  rfl

theorem revokedCerts_addRevokedCertificates {approved : ApprovedCertificates}
    (hwf : approved.WellFormed lib) (k : Bytes) :
    (s.addRevokedCertificates approved).revokedCerts k =
      if k = approved.certID.key then s.revokedCerts k ++ approved.certs
      else s.revokedCerts k := by
  rw [Store.revokedCerts, h.addRevokedCertificates_eq hwf, KVStore.listAt_set]
  split
  · next hk => rw [hk]
  · rfl

/-! ## Children -/

theorem children_nodup (k : Bytes) : (s.children k).Nodup := by
  unfold Store.children
  cases hget : s.childCertificates.get k with
  | none => exact List.nodup_nil
  | some record => exact (h.child _ _ hget).2.2.1

theorem addChildCertificate {issuer authorityKeyID : String} {certID : CertificateIdentifier}
    (hid : SlashFree certID.subjectKeyId) :
    Records lib (s.addChildCertificate issuer authorityKeyID certID) := by
  refine { h with child := ?_ }
  rw [Store.addChildCertificate_childCertificates]
  dsimp only
  split
  · exact h.child
  · next hnew =>
    apply h.child.set
    cases hget : s.getChildCertificates issuer authorityKeyID with
    | none => exact ⟨rfl, fun c hc => (List.mem_singleton.mp hc) ▸ hid, List.nodup_singleton _,
        List.cons_ne_nil _ _⟩
    | some record =>
      obtain ⟨hk, hold, hnodup, -⟩ := h.child _ _ hget
      rw [hget] at hnew
      refine ⟨hk, fun c hc => ?_, ?_, List.append_ne_nil_of_right_ne_nil _ (List.cons_ne_nil _ _)⟩
      · rcases List.mem_append.mp hc with hc | hc
        · exact hold c hc
        · exact (List.mem_singleton.mp hc) ▸ hid
      · exact List.concat_eq_append ▸ hnodup.concat hnew

omit h in
theorem children_addChildCertificate (issuer authorityKeyID : String)
    (certID : CertificateIdentifier) (k : Bytes) :
    (s.addChildCertificate issuer authorityKeyID certID).children k =
      if k = pairKey issuer authorityKeyID ∧ certID ∉ s.children k then s.children k ++ [certID]
      else s.children k := by
  have hfound : ((s.getChildCertificates issuer authorityKeyID).getD
      ⟨issuer, authorityKeyID, []⟩).certIds =
        s.childCertificates.listAt ChildCertificates.certIds (pairKey issuer authorityKeyID) := by
    unfold Store.getChildCertificates KVStore.listAt
    cases s.childCertificates.get (childCertificatesKey issuer authorityKeyID) <;> rfl
  exact KVStore.listAt_append _ _ certID hfound rfl k

theorem dropChildren (k : Bytes) : Records lib (s.dropChildren k) :=
  { h with child := h.child.delete k }

theorem removeChildCertificate (issuer authorityKeyID : String) (certID : CertificateIdentifier) :
    Records lib (s.removeChildCertificate issuer authorityKeyID certID) := by
  refine { h with child := ?_ }
  rw [Store.removeChildCertificate_childCertificates]
  dsimp only
  split
  · exact h.child
  · split
    · next hmem hlen =>
      cases hget : s.getChildCertificates issuer authorityKeyID with
      | none => rw [hget] at hlen; exact absurd hlen (by simp)
      | some record =>
        rw [hget] at hlen
        obtain ⟨-, hold, hnodup, -⟩ := h.child _ _ hget
        exact h.child.set ⟨rfl, fun c hc => hold c (List.mem_of_mem_erase hc), hnodup.erase _,
          List.length_pos_iff.mp hlen⟩
    · exact h.child.delete _

theorem children_removeChildCertificate (issuer authorityKeyID : String)
    (certID : CertificateIdentifier) (k : Bytes) :
    (s.removeChildCertificate issuer authorityKeyID certID).children k =
      if k = pairKey issuer authorityKeyID then (s.children k).erase certID
      else s.children k := by
  change (s.removeChildCertificate issuer authorityKeyID certID).childCertificates.listAt _ k = _
  rw [Store.removeChildCertificate_childCertificates]
  dsimp only
  cases hget : s.getChildCertificates issuer authorityKeyID with
  | none =>
    exact KVStore.listAt_erase (ChildCertificates.mk "" "" []) (ChildCertificates.mk "" "" [])
      certID (KVStore.listAt_of_get_none hget).symm rfl k
  | some record =>
    -- the record is written back under its own fields, which are those it was found under
    have hown : pairKey issuer authorityKeyID = pairKey record.issuer record.authorityKeyId :=
      (h.child _ _ hget).1
    rw [Option.getD_some, childCertificatesKey, ← hown]
    exact KVStore.listAt_erase record _ certID (KVStore.listAt_of_get hget).symm rfl k

/-! ## Subjects -/

theorem subjectKeyIds_nodup (subject : String) : (s.subjectKeyIds subject).Nodup := by
  unfold Store.subjectKeyIds KVStore.listAt
  cases hget : s.approvedCertificatesBySubject.get (approvedCertificatesBySubjectKey subject) with
  | none => exact List.nodup_nil
  | some record => exact (h.bySubject _ _ hget).2.1

theorem addApprovedCertificateBySubject (subject subjectKeyID : String) :
    Records lib (s.addApprovedCertificateBySubject subject subjectKeyID) := by
  refine { h with bySubject := ?_ }
  rw [Store.addApprovedCertificateBySubject_approvedCertificatesBySubject]
  dsimp only
  split
  · exact h.bySubject
  · next hnew =>
    apply h.bySubject.set
    refine ⟨rfl, ?_, List.append_ne_nil_of_right_ne_nil _ (List.cons_ne_nil _ _)⟩
    cases hget : s.getApprovedCertificatesBySubject subject with
    | none => exact List.nodup_singleton _
    | some record =>
      rw [hget] at hnew
      exact List.concat_eq_append ▸ (h.bySubject _ _ hget).2.1.concat hnew

omit h in
theorem mem_addApprovedCertificateBySubject {subject subjectKeyID subject' subjectKeyID' : String} :
    subjectKeyID' ∈ (s.addApprovedCertificateBySubject subject subjectKeyID).subjectKeyIds subject' ↔
      subjectKeyID' ∈ s.subjectKeyIds subject' ∨
        (subject' = subject ∧ subjectKeyID' = subjectKeyID) := by
  have hfound : ((s.getApprovedCertificatesBySubject subject).getD ⟨"", []⟩).subjectKeyIds =
      s.subjectKeyIds subject := by
    unfold Store.getApprovedCertificatesBySubject Store.subjectKeyIds KVStore.listAt
    cases s.approvedCertificatesBySubject.get (approvedCertificatesBySubjectKey subject) <;> rfl
  have hkey : subject' = subject ↔
      approvedCertificatesBySubjectKey subject' = approvedCertificatesBySubjectKey subject :=
    approvedCertificatesBySubjectKey_inj.symm
  have hlist : (s.addApprovedCertificateBySubject subject subjectKeyID).subjectKeyIds subject' =
      if subject' = subject ∧ subjectKeyID ∉ s.subjectKeyIds subject' then
        s.subjectKeyIds subject' ++ [subjectKeyID]
      else s.subjectKeyIds subject' := by
    simp only [hkey]
    exact KVStore.listAt_append _ _ subjectKeyID hfound rfl _
  rw [hlist]
  split
  · next hnew => simp [hnew.1]
  · next hold =>
    constructor
    · exact Or.inl
    · rintro (hmem | ⟨rfl, rfl⟩)
      · exact hmem
      · by_contra hnot
        exact hold ⟨rfl, hnot⟩

theorem removeApprovedCertificateBySubject (subject subjectKeyID : String) :
    Records lib (s.removeApprovedCertificateBySubject subject subjectKeyID) := by
  refine { h with bySubject := ?_ }
  rw [Store.removeApprovedCertificateBySubject_approvedCertificatesBySubject]
  dsimp only
  split
  · exact h.bySubject
  · split
    · next hmem hlen =>
      cases hget : s.getApprovedCertificatesBySubject subject with
      | none => rw [hget] at hlen; exact absurd hlen (by simp)
      | some record =>
        rw [hget] at hlen
        exact h.bySubject.set ⟨rfl, (h.bySubject _ _ hget).2.1.erase _, List.length_pos_iff.mp hlen⟩
    · exact h.bySubject.delete _

theorem subjectKeyIds_removeApprovedCertificateBySubject (subject subjectKeyID subject' : String) :
    (s.removeApprovedCertificateBySubject subject subjectKeyID).subjectKeyIds subject' =
      if subject' = subject then (s.subjectKeyIds subject').erase subjectKeyID
      else s.subjectKeyIds subject' := by
  have hkey : subject' = subject ↔
      approvedCertificatesBySubjectKey subject' = approvedCertificatesBySubjectKey subject :=
    approvedCertificatesBySubjectKey_inj.symm
  simp only [hkey]
  change (s.removeApprovedCertificateBySubject subject
    subjectKeyID).approvedCertificatesBySubject.listAt _ _ = _
  rw [Store.removeApprovedCertificateBySubject_approvedCertificatesBySubject]
  dsimp only
  cases hget : s.getApprovedCertificatesBySubject subject with
  | none =>
    exact KVStore.listAt_erase (ApprovedCertificatesBySubject.mk "" [])
      (ApprovedCertificatesBySubject.mk "" []) subjectKeyID
      (KVStore.listAt_of_get_none hget).symm rfl _
  | some record =>
    rw [Option.getD_some, ← (h.bySubject _ _ hget).1]
    exact KVStore.listAt_erase record _ subjectKeyID (KVStore.listAt_of_get hget).symm rfl _

/-! ## Roots -/

omit h in
theorem mem_addIdentifier {certID certID' : CertificateIdentifier}
    {root : Option (List CertificateIdentifier)} :
    certID' ∈ (Store.addIdentifier certID root).getD [] ↔
      certID' ∈ root.getD [] ∨ certID' = certID := by
  unfold Store.addIdentifier
  split
  · next hmem =>
    constructor
    · exact Or.inl
    · rintro (hold | rfl)
      · exact hold
      · exact hmem
  · simp

omit h in
theorem nodup_addIdentifier {root : Option (List CertificateIdentifier)} (hroot : (root.getD []).Nodup)
    (certID : CertificateIdentifier) : ((Store.addIdentifier certID root).getD []).Nodup := by
  unfold Store.addIdentifier
  split
  · exact hroot
  · next hnew => exact List.concat_eq_append ▸ hroot.concat hnew

omit h in
theorem removeIdentifier_getD (certID : CertificateIdentifier)
    (root : Option (List CertificateIdentifier)) :
    (Store.removeIdentifier certID root).getD [] = (root.getD []).erase certID := by
  unfold Store.removeIdentifier
  split
  · rfl
  · next hnot => rw [List.erase_of_not_mem hnot]

theorem addApprovedRootCertificate (certID : CertificateIdentifier) :
    Records lib (s.addApprovedRootCertificate certID) :=
  { h with approvedRoot := nodup_addIdentifier h.approvedRoot certID }

theorem removeApprovedRootCertificate (certID : CertificateIdentifier) :
    Records lib (s.removeApprovedRootCertificate certID) :=
  { h with approvedRoot := removeIdentifier_getD certID _ ▸ h.approvedRoot.erase certID }

theorem addRevokedRootCertificate (certID : CertificateIdentifier) :
    Records lib (s.addRevokedRootCertificate certID) :=
  { h with revokedRoot := nodup_addIdentifier h.revokedRoot certID }

/-! ## Proposals and the other records -/

theorem setProposedCertificate {proposed : ProposedCertificate} {x : X509Certificate}
    (hreads : ReadsProposal lib proposed x) : Records lib (s.setProposedCertificate proposed) :=
  { h with proposed := h.proposed.set ⟨rfl, x, hreads⟩ }

theorem removeProposedCertificate (subject subjectKeyID : String) :
    Records lib (s.removeProposedCertificate subject subjectKeyID) :=
  { h with proposed := h.proposed.delete _ }

theorem setRejectedCertificate (record : RejectedCertificate) :
    Records lib (s.setRejectedCertificate record) :=
  { h with rejected := h.rejected.set rfl }

theorem removeRejectedCertificate (subject subjectKeyID : String) :
    Records lib (s.removeRejectedCertificate subject subjectKeyID) :=
  { h with rejected := h.rejected.delete _ }

theorem setProposedCertificateRevocation (revocation : ProposedCertificateRevocation) :
    Records lib (s.setProposedCertificateRevocation revocation) :=
  { h with revocation := h.revocation.set rfl }

theorem removeProposedCertificateRevocation (subject subjectKeyID : String) :
    Records lib (s.removeProposedCertificateRevocation subject subjectKeyID) :=
  { h with revocation := h.revocation.delete _ }

theorem setUniqueCertificate (unique : UniqueCertificate) :
    Records lib (s.setUniqueCertificate unique) :=
  { h with unique := h.unique.set rfl }

theorem removeUniqueCertificate (issuer serialNumber : String) :
    Records lib (s.removeUniqueCertificate issuer serialNumber) :=
  { h with unique := h.unique.delete _ }

theorem revokeChild (certID : CertificateIdentifier) : Records lib (s.revokeChild certID) :=
  ((h.addRevokedCertificates (h.wellFormed_approvedAt certID.key)).removeApprovedCertificates _
    _).removeApprovedCertificateBySubject _ _

end Records

end ComplianceLedger.Pki
