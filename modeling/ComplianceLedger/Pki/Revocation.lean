import ComplianceLedger.Pki.Effect
import ComplianceLedger.Pki.Records

/-!
# What a revocation does

Both kinds of revocation move the certificates of one identifier to the revoked ones and cascade
through everything issued under it. `Revocation k f s s'` says what has become of the store: every
approved record is as it was, or is gone with its certificates appended to the revoked ones; an
identifier has left a list of children only if its record is gone; and a record is gone only if it
is the one that was named or lies below it.

## Main definitions

* `Revocation k f s s'`: the revocation of the certificates under the key `k`
* `Retired k f s s₁`: the store between the move of these certificates and the cascade

## Main results

* `lawful`: the revocation of children obeys the laws of a cascade
* `revocation_of_rootRevoked`, `revocation_of_revoked`: both kinds of revocation are revocations
-/

open Machine

namespace ComplianceLedger.Pki

/-- The approvals of a revocation, assigned to a root certificate. -/
def assignTo (approvals : List Grant) (cert : Certificate) : Certificate :=
  if cert.isRoot then { cert with approvals := approvals } else cert

@[simp] theorem assignTo_isRoot (approvals : List Grant) (cert : Certificate) :
    (assignTo approvals cert).isRoot = cert.isRoot := by
  unfold assignTo
  split <;> rfl

@[simp] theorem assignTo_certID (approvals : List Grant) (cert : Certificate) :
    (assignTo approvals cert).certID = cert.certID := by
  unfold assignTo
  split <;> rfl

/-- The revocation of the certificates under the key `k`, which are stored as `f` makes them. -/
structure Revocation (k : Bytes) (f : Certificate → Certificate) (s s' : Store) : Prop where
  /-- A record is kept, or its certificates are appended to the revoked ones. -/
  moved : ∀ k', (s'.approvedCertificates.get k' = s.approvedCertificates.get k' ∧
      s'.revokedCerts k' = s.revokedCerts k') ∨
    (s'.approvedCertificates.get k' = none ∧
      s'.revokedCerts k' = s.revokedCerts k' ++ (s.approvedCerts k').map (if k' = k then f else id))
  /-- The record that was named is gone. -/
  gone : s'.approvedCertificates.get k = none
  children : ∀ k', (s'.children k').Sublist (s.children k')
  /-- An identifier has left a list of children only if its record is gone. -/
  lost : ∀ k' certID, certID ∈ s.children k' → certID ∉ s'.children k' →
    s'.approvedCertificates.get certID.key = none
  /-- A record that is gone has no children. -/
  emptied : ∀ k', s'.approvedCertificates.get k' = none →
    s.approvedCertificates.get k' = none ∨ s'.children k' = []
  /-- A record that is gone is the one that was named, or lies below it. -/
  descends : ∀ k', s'.approvedCertificates.get k' = none →
    s.approvedCertificates.get k' = none ∨ k' = k ∨
      Relation.TransGen (Cascade.Edge CertificateIdentifier.key Store.children s) k' k
  proposed : s'.proposedCertificate = s.proposedCertificate
  revocation : s'.proposedCertificateRevocation = s.proposedCertificateRevocation
  rejected : s'.rejectedCertificate = s.rejectedCertificate
  unique : s'.uniqueCertificate = s.uniqueCertificate
  approvedRoot : s'.approvedRootCertificates = s.approvedRootCertificates
  revokedRoot : s'.revokedRootCertificates = s.revokedRootCertificates

/-! ## The cascade -/

/-- The record under the key is gone. -/
def Gone (s : Store) (k : Bytes) : Prop := s.approvedCertificates.get k = none

/-- **The revocation of children obeys the laws of a cascade.** -/
theorem lawful : Cascade.Lawful CertificateIdentifier.key Store.children Store.revokeChild
    Store.dropChildren Gone where
  children_visit _ _ _ := rfl
  children_finish k s k' := by
    rw [Store.children, Store.dropChildren, KVStore.get_delete]
    split <;> rfl
  dead_visit certID s k := by
    change (s.approvedCertificates.delete certID.key).get k = none ↔ _
    rw [KVStore.get_delete]
    split
    · next hk => simp [hk]
    · next hk => simp [hk, Gone]
  dead_finish _ _ _ := Iff.rfl

/-- What a cascade keeps: certificates are only moved, and the other records stay. -/
structure Moves (s s' : Store) : Prop where
  moved : ∀ k, (s'.approvedCertificates.get k = s.approvedCertificates.get k ∧
      s'.revokedCerts k = s.revokedCerts k) ∨
    (s'.approvedCertificates.get k = none ∧
      s'.revokedCerts k = s.revokedCerts k ++ s.approvedCerts k)
  proposed : s'.proposedCertificate = s.proposedCertificate
  revocation : s'.proposedCertificateRevocation = s.proposedCertificateRevocation
  rejected : s'.rejectedCertificate = s.rejectedCertificate
  unique : s'.uniqueCertificate = s.uniqueCertificate
  approvedRoot : s'.approvedRootCertificates = s.approvedRootCertificates
  revokedRoot : s'.revokedRootCertificates = s.revokedRootCertificates

theorem approvedCerts_congr {s s' : Store} {k : Bytes}
    (h : s'.approvedCertificates.get k = s.approvedCertificates.get k) :
    s'.approvedCerts k = s.approvedCerts k := by
  rw [Store.approvedCerts, Store.approvedAt, h, Store.approvedCerts, Store.approvedAt]

theorem approvedCerts_of_gone {s : Store} {k : Bytes} (h : s.approvedCertificates.get k = none) :
    s.approvedCerts k = [] := by
  rw [Store.approvedCerts, Store.approvedAt, h]
  rfl

/-- The certificates that a revocation leaves are those of before. -/
theorem Revocation.mem_approvedCerts {k k' : Bytes} {f : Certificate → Certificate} {s s' : Store}
    (h : Revocation k f s s') {cert : Certificate} (hcert : cert ∈ s'.approvedCerts k') :
    cert ∈ s.approvedCerts k' := by
  rcases h.moved k' with ⟨hkept, -⟩ | ⟨hgone, -⟩
  · exact approvedCerts_congr hkept ▸ hcert
  · rw [approvedCerts_of_gone hgone] at hcert
    cases hcert

theorem Moves.refl (s : Store) : Moves s s :=
  ⟨fun _ => Or.inl ⟨rfl, rfl⟩, rfl, rfl, rfl, rfl, rfl, rfl⟩

theorem Moves.trans {s₁ s₂ s₃ : Store} (h : Moves s₁ s₂) (h' : Moves s₂ s₃) : Moves s₁ s₃ where
  moved k := by
    rcases h.moved k with ⟨ha, hr⟩ | ⟨ha, hr⟩ <;> rcases h'.moved k with ⟨ha', hr'⟩ | ⟨ha', hr'⟩
    · exact Or.inl ⟨ha'.trans ha, hr'.trans hr⟩
    · exact Or.inr ⟨ha', by rw [hr', hr, approvedCerts_congr ha]⟩
    · exact Or.inr ⟨ha'.trans ha, by rw [hr', hr]⟩
    · -- a record that was moved has no certificates left to move
      exact Or.inr ⟨ha', by rw [hr', hr, approvedCerts_of_gone ha, List.append_nil]⟩
  proposed := h'.proposed.trans h.proposed
  revocation := h'.revocation.trans h.revocation
  rejected := h'.rejected.trans h.rejected
  unique := h'.unique.trans h.unique
  approvedRoot := h'.approvedRoot.trans h.approvedRoot
  revokedRoot := h'.revokedRoot.trans h.revokedRoot

variable {lib : CryptoX509} {s : Store}

/-- Revoked certificates are appended under the key of their record. -/
theorem revokedCerts_revokeChild (h : Records lib s) (certID : CertificateIdentifier) (k : Bytes) :
    (s.revokeChild certID).revokedCerts k =
      if k = certID.key then s.revokedCerts k ++ s.approvedCerts k else s.revokedCerts k := by
  have hwf := h.wellFormed_approvedAt certID.key
  change (s.addRevokedCertificates (s.approvedAt certID.key)).revokedCerts k = _
  rw [h.revokedCerts_addRevokedCertificates hwf]
  cases hget : s.approvedCertificates.get certID.key with
  | none =>
    -- the empty record is appended under a key of its own, which adds no certificate anywhere
    have hnil : (s.approvedAt certID.key).certs = [] := approvedCerts_of_gone hget
    rw [hnil, List.append_nil, ite_self]
    split
    · next hk => rw [hk, approvedCerts_of_gone hget, List.append_nil]
    · rfl
  | some record =>
    have hrecord : s.approvedAt certID.key = record := by rw [Store.approvedAt, hget]; rfl
    rw [hrecord, ← (h.approved _ _ hget).1]
    split
    · next hk => rw [hk, approvedCerts_of_get hget]
    · rfl

theorem moves_revokeChild (h : Records lib s) (certID : CertificateIdentifier) :
    Moves s (s.revokeChild certID) where
  moved k := by
    rw [revokedCerts_revokeChild h]
    change ((s.approvedCertificates.delete certID.key).get k = _ ∧ _) ∨
      ((s.approvedCertificates.delete certID.key).get k = none ∧ _)
    rw [KVStore.get_delete]
    split
    · exact Or.inr ⟨rfl, rfl⟩
    · exact Or.inl ⟨rfl, rfl⟩
  proposed := rfl
  revocation := rfl
  rejected := rfl
  unique := rfl
  approvedRoot := rfl
  revokedRoot := rfl

theorem moves_dropChildren (k : Bytes) (s : Store) : Moves s (s.dropChildren k) :=
  ⟨fun _ => Or.inl ⟨rfl, rfl⟩, rfl, rfl, rfl, rfl, rfl, rfl⟩

/-- The cascade of a revocation, from a store with well-formed records. -/
theorem moves_of_revokeChildCertificates {fuel : ℕ} {issuer authorityKeyID : String} {t : Store}
    (h : Records lib s) (ht : revokeChildCertificates fuel issuer authorityKeyID s = some t) :
    Records lib t ∧ Moves s t := by
  rw [revokeChildCertificates_eq_cascade] at ht
  refine cascade_rel (R := fun s t => Records lib s → Records lib t ∧ Moves s t) ?_ ?_ ?_ ?_ ht h
  · exact fun s h => ⟨h, Moves.refl s⟩
  · intro s₁ s₂ s₃ h₁₂ h₂₃ h₁
    obtain ⟨h₂, hm⟩ := h₁₂ h₁
    obtain ⟨h₃, hm'⟩ := h₂₃ h₂
    exact ⟨h₃, hm.trans hm'⟩
  · exact fun certID s h => ⟨h.revokeChild certID, moves_revokeChild h certID⟩
  · exact fun k s h => ⟨h.dropChildren k, moves_dropChildren k s⟩

/-! ## Revocations -/

/-- The store between the move of the certificates under a key and the cascade: the identifiers under
that key may have been taken off lists of children. -/
structure Retired (k : Bytes) (f : Certificate → Certificate) (s s₁ : Store) : Prop where
  moved : ∀ k', (k' ≠ k ∧ s₁.approvedCertificates.get k' = s.approvedCertificates.get k' ∧
      s₁.revokedCerts k' = s.revokedCerts k') ∨
    (k' = k ∧ s₁.approvedCertificates.get k' = none ∧
      s₁.revokedCerts k' = s.revokedCerts k' ++ (s.approvedCerts k').map f)
  children : ∀ k', (s₁.children k').Sublist (s.children k')
  lost : ∀ k' certID, certID ∈ s.children k' → certID ∉ s₁.children k' → certID.key = k
  proposed : s₁.proposedCertificate = s.proposedCertificate
  revocation : s₁.proposedCertificateRevocation = s.proposedCertificateRevocation
  rejected : s₁.rejectedCertificate = s.rejectedCertificate
  unique : s₁.uniqueCertificate = s.uniqueCertificate
  approvedRoot : s₁.approvedRootCertificates = s.approvedRootCertificates
  revokedRoot : s₁.revokedRootCertificates = s.revokedRootCertificates

section Retired

variable {k k' : Bytes} {f : Certificate → Certificate} {s₁ t : Store}

theorem Retired.gone (h : Retired k f s s₁) : Gone s₁ k := by
  rcases h.moved k with ⟨hne, -⟩ | ⟨-, hgone, -⟩
  · exact absurd rfl hne
  · exact hgone

/-- What is gone before the cascade was gone at the start, or is the record named. -/
theorem Retired.gone_before (h : Retired k f s s₁) (hk' : Gone s₁ k') :
    s.approvedCertificates.get k' = none ∨ k' = k := by
  rcases h.moved k' with ⟨-, hkept, -⟩ | ⟨hk, -⟩
  · exact Or.inl (hkept ▸ hk')
  · exact Or.inr hk

/-- The move adds no children. -/
theorem Retired.edge (h : Retired k f s s₁) (c p : Bytes)
    (hedge : Cascade.Edge CertificateIdentifier.key Store.children s₁ c p) :
    Cascade.Edge CertificateIdentifier.key Store.children s c p := by
  obtain ⟨certID, hmem, hkey⟩ := hedge
  exact ⟨certID, (h.children p).subset hmem, hkey⟩

/-- What the move and the cascade do to a record. -/
theorem Retired.moved_trans (h : Retired k f s s₁) (hm : Moves s₁ t) (k' : Bytes) :
    (t.approvedCertificates.get k' = s.approvedCertificates.get k' ∧
        t.revokedCerts k' = s.revokedCerts k') ∨
      (t.approvedCertificates.get k' = none ∧
        t.revokedCerts k' =
          s.revokedCerts k' ++ (s.approvedCerts k').map (if k' = k then f else id)) := by
  rcases h.moved k' with ⟨hk, ha, hr⟩ | ⟨hk, ha, hr⟩
  · rw [if_neg hk, List.map_id]
    rcases hm.moved k' with ⟨ha', hr'⟩ | ⟨ha', hr'⟩
    · exact Or.inl ⟨ha'.trans ha, hr'.trans hr⟩
    · exact Or.inr ⟨ha', by rw [hr', hr, approvedCerts_congr ha]⟩
  · rw [if_pos hk]
    right
    rcases hm.moved k' with ⟨ha', hr'⟩ | ⟨ha', hr'⟩
    · exact ⟨ha'.trans ha, hr'.trans hr⟩
    · exact ⟨ha', by rw [hr', hr, approvedCerts_of_gone ha, List.append_nil]⟩

end Retired

/-- **A revocation**: the certificates under a key are moved, and the rest is the cascade. -/
theorem revocation_of_cascade {s₁ t : Store} {subject subjectKeyID : String} {fuel : ℕ}
    {f : Certificate → Certificate} (h₁ : Records lib s₁)
    (hretired : Retired (pairKey subject subjectKeyID) f s s₁)
    (ht : revokeChildCertificates fuel subject subjectKeyID s₁ = some t) :
    Records lib t ∧ Revocation (pairKey subject subjectKeyID) f s t ∧
      ∀ k', t.children k' = s₁.children k' ∨ (Gone t k' ∧ t.children k' = []) := by
  obtain ⟨hrecords, hm⟩ := moves_of_revokeChildCertificates h₁ ht
  rw [revokeChildCertificates_eq_cascade] at ht
  obtain ⟨hbelow, hself⟩ := cascade_below lawful hretired.gone ht
  refine ⟨hrecords, ⟨hretired.moved_trans hm, hbelow.dead_mono _ hretired.gone, fun k' => ?_,
    fun k' certID hmem hlost => ?_, fun k' hk' => ?_, fun k' hk' => ?_,
    hm.proposed.trans hretired.proposed, hm.revocation.trans hretired.revocation,
    hm.rejected.trans hretired.rejected, hm.unique.trans hretired.unique,
    hm.approvedRoot.trans hretired.approvedRoot, hm.revokedRoot.trans hretired.revokedRoot⟩,
    hbelow.children_eq⟩
  · rcases hbelow.children_eq k' with he | ⟨-, he⟩ <;> rw [he]
    · exact hretired.children k'
    · exact List.nil_sublist _
  · by_cases hmem₁ : certID ∈ s₁.children k'
    · exact hbelow.dead_of_lost k' certID hmem₁ hlost
    · rw [hretired.lost k' certID hmem hmem₁]
      exact hbelow.dead_mono _ hretired.gone
  · rcases hbelow.empty_of_dead k' hk' with hdead | hempty
    · rcases hretired.gone_before hdead with hdead | rfl
      · exact Or.inl hdead
      · exact Or.inr hself
    · exact Or.inr hempty
  · rcases cascade_dead_only lawful (fun _ => Or.inl rfl) ht hk' with hdead | hpath
    · rcases hretired.gone_before hdead with hdead | rfl
      · exact Or.inl hdead
      · exact Or.inr (Or.inl rfl)
    · exact Or.inr (Or.inr (Relation.TransGen.mono hretired.edge _ _ hpath))

/-- The certificates under a key all stay, or all leave. -/
theorem Revocation.approvedCerts_cases {k : Bytes} {f : Certificate → Certificate} {s' : Store}
    (h : Revocation k f s s') (k' : Bytes) :
    s'.approvedCerts k' = s.approvedCerts k' ∨ s'.approvedCerts k' = [] := by
  rcases h.moved k' with ⟨hget, -⟩ | ⟨hget, -⟩
  · exact Or.inl (approvedCerts_congr hget)
  · exact Or.inr (approvedCerts_of_gone hget)

/-- The certificates of the record that was named are appended to the revoked ones. -/
theorem Revocation.revokedCerts_self {k : Bytes} {f : Certificate → Certificate} {s' : Store}
    (h : Revocation k f s s') : s'.revokedCerts k = s.revokedCerts k ++ (s.approvedCerts k).map f := by
  rcases h.moved k with ⟨hkept, hrevoked⟩ | ⟨-, hmoved⟩
  · rw [hrevoked, approvedCerts_of_gone (hkept.symm.trans h.gone), List.map_nil, List.append_nil]
  · rw [hmoved, if_pos rfl]

/-- A record with a certificate left is as it was. -/
theorem Revocation.get_of_mem {k : Bytes} {f : Certificate → Certificate} {s' : Store}
    (h : Revocation k f s s') {k' : Bytes} {cert : Certificate} (hcert : cert ∈ s'.approvedCerts k') :
    s'.approvedCertificates.get k' = s.approvedCertificates.get k' := by
  rcases h.moved k' with ⟨hget, -⟩ | ⟨hget, -⟩
  · exact hget
  · rw [approvedCerts_of_gone hget] at hcert
    cases hcert

/-- No certificate is new. -/
theorem Revocation.mem_of_mem {k : Bytes} {f : Certificate → Certificate} {s' : Store}
    (h : Revocation k f s s') {k' : Bytes} {cert : Certificate} (hcert : cert ∈ s'.approvedCerts k') :
    cert ∈ s.approvedCerts k' :=
  approvedCerts_congr (h.get_of_mem hcert) ▸ hcert

theorem wellFormed_assignApprovals (approvals : List Grant) {record : ApprovedCertificates}
    (h : record.WellFormed lib) : (assignApprovals approvals record).WellFormed lib where
  slashFree := h.slashFree
  certID cert hcert := by
    obtain ⟨c, hc, rfl⟩ := List.mem_map.mp hcert
    rw [← show c.certID = (assignApprovals approvals record).certID from h.certID c hc]
    split <;> rfl
  reads cert hcert := by
    obtain ⟨c, hc, rfl⟩ := List.mem_map.mp hcert
    obtain ⟨x, hx⟩ := h.reads c hc
    refine ⟨x, ?_⟩
    split
    · exact ⟨hx.decode, hx.subject, hx.subjectKeyId, hx.serialNumber, hx.isRoot, hx.issuer⟩
    · exact hx

/-- The store between the move of a record and the cascade. -/
theorem records_retire (h : Records lib s) {subject subjectKeyID : String}
    {record : ApprovedCertificates} (approved : ApprovedCertificates)
    (hget : s.approvedCertificates.get (pairKey subject subjectKeyID) = some record)
    (hid : approved.certID = record.certID) (hwf : approved.WellFormed lib)
    {f : Certificate → Certificate} (hf : approved.certs = record.certs.map f) :
    let s₁ := (s.addRevokedCertificates approved).removeApprovedCertificates subject subjectKeyID
    Records lib s₁ ∧ ∀ k', (k' ≠ pairKey subject subjectKeyID ∧
        s₁.approvedCertificates.get k' = s.approvedCertificates.get k' ∧
        s₁.revokedCerts k' = s.revokedCerts k') ∨
      (k' = pairKey subject subjectKeyID ∧ s₁.approvedCertificates.get k' = none ∧
        s₁.revokedCerts k' = s.revokedCerts k' ++ (s.approvedCerts k').map f) := by
  intro s₁
  refine ⟨(h.addRevokedCertificates hwf).removeApprovedCertificates _ _, fun k' => ?_⟩
  have hkey : approved.certID.key = pairKey subject subjectKeyID := by
    rw [hid, (h.approved _ _ hget).1]
  have happroved : s₁.approvedCertificates.get k' =
      if k' = pairKey subject subjectKeyID then none else s.approvedCertificates.get k' :=
    KVStore.get_delete _ _ _
  have hrevoked : s₁.revokedCerts k' = if k' = approved.certID.key then
      s.revokedCerts k' ++ approved.certs else s.revokedCerts k' :=
    h.revokedCerts_addRevokedCertificates hwf k'
  rw [happroved, hrevoked, hkey]
  by_cases hk : k' = pairKey subject subjectKeyID
  · right
    rw [if_pos hk, if_pos hk, hk, hf, approvedCerts_of_get hget]
    exact ⟨rfl, rfl, rfl⟩
  · left
    rw [if_neg hk, if_neg hk]
    exact ⟨hk, rfl, rfl⟩

theorem revocation_of_rootRevoked (h : Records lib s) {subject subjectKeyID : String}
    {record : ApprovedCertificates} {approvals : List Grant} {fuel : ℕ} {t : Store}
    (hget : s.approvedCertificates.get (pairKey subject subjectKeyID) = some record)
    (ht : revokeChildCertificates fuel subject subjectKeyID
      ((s.addRevokedCertificates (assignApprovals approvals record)).removeApprovedCertificates
        subject subjectKeyID) = some t) :
    Records lib t ∧ Revocation (pairKey subject subjectKeyID) (assignTo approvals) s t ∧
      ∀ k', t.children k' = s.children k' ∨ (Gone t k' ∧ t.children k' = []) := by
  have hwf := (h.approved _ _ hget).2.1
  obtain ⟨h₁, hmoved⟩ := records_retire h (assignApprovals approvals record) hget
    (f := assignTo approvals) rfl (wellFormed_assignApprovals approvals hwf) rfl
  have hretired : Retired (pairKey subject subjectKeyID) (assignTo approvals) s
      ((s.addRevokedCertificates (assignApprovals approvals record)).removeApprovedCertificates
        subject subjectKeyID) :=
    ⟨hmoved, fun _ => List.Sublist.refl _, fun _ _ hmem hlost => absurd hmem hlost, rfl, rfl, rfl,
      rfl, rfl, rfl⟩
  have hrev := revocation_of_cascade h₁ hretired ht
  exact hrev

theorem revocation_of_revoked (h : Records lib s) {subject subjectKeyID : String}
    {record : ApprovedCertificates} {issuer authorityKeyID : String} {fuel : ℕ} {t : Store}
    (hget : s.approvedCertificates.get (pairKey subject subjectKeyID) = some record)
    (ht : revokeChildCertificates fuel subject subjectKeyID
      (((s.addRevokedCertificates record).removeApprovedCertificates
        subject subjectKeyID).removeChildCertificate issuer authorityKeyID
          ⟨subject, subjectKeyID⟩) = some t) :
    Records lib t ∧ Revocation (pairKey subject subjectKeyID) id s t ∧
      ∀ k', t.children k' =
          (if k' = pairKey issuer authorityKeyID then (s.children k').erase ⟨subject, subjectKeyID⟩
            else s.children k') ∨
        (Gone t k' ∧ t.children k' = []) := by
  have hwf := (h.approved _ _ hget).2.1
  obtain ⟨h₁, hmoved⟩ := records_retire h record hget (f := id) rfl hwf (List.map_id _).symm
  have h₂ := h₁.removeChildCertificate issuer authorityKeyID ⟨subject, subjectKeyID⟩
  have hchildren := h₁.children_removeChildCertificate issuer authorityKeyID ⟨subject, subjectKeyID⟩
  have hretired : Retired (pairKey subject subjectKeyID) id s
      (((s.addRevokedCertificates record).removeApprovedCertificates subject
        subjectKeyID).removeChildCertificate issuer authorityKeyID ⟨subject, subjectKeyID⟩) := by
    refine ⟨hmoved, fun k' => ?_, fun k' certID hmem hlost => ?_, rfl, rfl, rfl, rfl, rfl, rfl⟩
    · rw [hchildren]
      split
      · exact List.erase_sublist
      · exact List.Sublist.refl _
    · -- only the identifier of the message is taken off a list of children
      rw [hchildren] at hlost
      split at hlost
      · by_cases hid : certID = ⟨subject, subjectKeyID⟩
        · rw [hid]
          rfl
        · exact absurd ((List.mem_erase_of_ne hid).mpr hmem) hlost
      · exact absurd hmem hlost
  obtain ⟨hrecords, hrev, hlists⟩ := revocation_of_cascade h₂ hretired ht
  refine ⟨hrecords, hrev, fun k' => ?_⟩
  have hlist := hlists k'
  rw [hchildren] at hlist
  exact hlist

end ComplianceLedger.Pki
