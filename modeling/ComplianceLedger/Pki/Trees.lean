import ComplianceLedger.Pki.Exact

/-!
# Revoked trees

In the runs without aliases the approved certificates form a forest: every identifier has one issuer
at most, and it is on the list of children of that issuer once. A revocation takes the tree below the
record that is named, and nothing else. Since no identifier of the tree is visited twice, no visit
finds its record gone, and the empty record that would then be written is never written.

## Main definitions

* `IssuerLink s a b`: `a` has an approved certificate that names `b` as its issuer
* `TreeRevoked certID f s s'`: the tree below `certID` has moved to the revoked certificates

## Main results

* `forest_of_exact`: the child records are a forest
* `tree_revoked`: both kinds of revocation take the tree, and nothing else
-/

open Machine Machine.TransitionSystem Relation

namespace ComplianceLedger.Pki

/-- The identifier `a` has an approved certificate, not a root, that names `b` as its issuer. -/
def IssuerLink (s : Store) (a b : CertificateIdentifier) : Prop :=
  ∃ k, ∃ cert ∈ s.approvedCerts k, cert.isRoot = false ∧ cert.certID = a ∧
    ⟨cert.issuer, cert.authorityKeyId⟩ = b

/-- The certificates of `certID` and of everything issued below it have moved to the revoked ones of
their own identifiers, those of `certID` as `f` makes them. -/
structure TreeRevoked (certID : CertificateIdentifier) (f : Certificate → Certificate)
    (s s' : Store) : Prop where
  /-- The records that disappear are those of the tree. -/
  gone_iff : ∀ a : CertificateIdentifier, SlashFree a.subjectKeyId →
    ((s.getApprovedCertificates a.subject a.subjectKeyId ≠ none ∧
        s'.getApprovedCertificates a.subject a.subjectKeyId = none) ↔
      ReflTransGen (IssuerLink s) a certID)
  moved : ∀ a, ReflTransGen (IssuerLink s) a certID →
    s'.revokedCertificates.get a.key = some ⟨a.subject, a.subjectKeyId,
      s.revokedCerts a.key ++ (s.approvedCerts a.key).map (if a = certID then f else id)⟩
  childless : ∀ a, ReflTransGen (IssuerLink s) a certID → s'.childCertificates.get a.key = none
  /-- All other records stay as they are. -/
  kept : ∀ k, (∀ a, ReflTransGen (IssuerLink s) a certID → k ≠ a.key) →
    s'.approvedCertificates.get k = s.approvedCertificates.get k ∧
      s'.revokedCertificates.get k = s.revokedCertificates.get k

variable {lib : CryptoX509} {bech32 : Bech32} {s s₁ t : Store}

/-! ## Links -/

/-- A link between identifiers is an edge between their keys. -/
theorem edge_of_issuerLink (hindex : Index s) {a b : CertificateIdentifier} (h : IssuerLink s a b) :
    s.Edge a.key b.key := by
  obtain ⟨k, cert, hcert, hnot, rfl, rfl⟩ := h
  exact ⟨cert.certID, hindex.linked k cert hcert hnot, rfl⟩

/-- The identifiers of a link are free of slashes, having been read off a certificate. -/
theorem slashFree_of_issuerLink (hrecords : Records lib s) {a b : CertificateIdentifier}
    (h : IssuerLink s a b) : SlashFree a.subjectKeyId ∧ SlashFree b.subjectKeyId := by
  obtain ⟨k, cert, hcert, hnot, rfl, rfl⟩ := h
  obtain ⟨-, x, hreads⟩ := hrecords.of_mem_approvedCerts hcert
  refine ⟨hreads.slashFree, ?_⟩
  rw [(hreads.issuer hnot).2]
  exact (decode_spec hreads.decode).authorityKeyID

theorem slashFree_of_reflTransGen (hrecords : Records lib s) {a certID : CertificateIdentifier}
    (hslash : SlashFree certID.subjectKeyId) (h : ReflTransGen (IssuerLink s) a certID) :
    SlashFree a.subjectKeyId := by
  rcases ReflTransGen.cases_head h with rfl | ⟨b, hlink, -⟩
  · exact hslash
  · exact (slashFree_of_issuerLink hrecords hlink).1

/-- A child has a record. -/
theorem get_ne_none_of_edge (hexact : Exact s) {c p : Bytes} (h : s.Edge c p) :
    s.approvedCertificates.get c ≠ none := by
  obtain ⟨certID, hmem, rfl⟩ := h
  obtain ⟨cert, hcert, -, -⟩ := hexact.children p certID hmem
  intro hnone
  rw [approvedCerts_of_gone hnone] at hcert
  cases hcert

section Exact

variable (hwf : WellFormed lib s) (hlisted : Listed s) (hexact : Exact s)
include hwf hexact

/-- An edge between keys is a link between identifiers. -/
theorem exists_issuerLink_of_edge {c p : Bytes} (h : s.Edge c p) :
    ∃ a b : CertificateIdentifier, a.key = c ∧ b.key = p ∧ IssuerLink s a b := by
  obtain ⟨certID, hmem, rfl⟩ := h
  obtain ⟨cert, hcert, hnot, hp⟩ := hexact.children p certID hmem
  exact ⟨cert.certID, ⟨cert.issuer, cert.authorityKeyId⟩,
    (hwf.records.of_mem_approvedCerts hcert).1.symm, hp, _, cert, hcert, hnot, rfl, rfl⟩

/-- **The tree of keys is the tree of identifiers.** -/
theorem reflTransGen_edge_iff {certID : CertificateIdentifier} (hslash : SlashFree certID.subjectKeyId)
    {c : Bytes} : ReflTransGen s.Edge c certID.key ↔
      ∃ a : CertificateIdentifier, a.key = c ∧ ReflTransGen (IssuerLink s) a certID := by
  constructor
  · intro hpath
    induction hpath using ReflTransGen.head_induction_on with
    | refl => exact ⟨certID, rfl, ReflTransGen.refl⟩
    | head hedge _ ih =>
      obtain ⟨b', hb', hpath⟩ := ih
      obtain ⟨a, b, ha, hb, hlink⟩ := exists_issuerLink_of_edge hwf hexact hedge
      -- the two names of the node in the middle have the same key
      obtain rfl : b = b' := CertificateIdentifier.key_inj
        (slashFree_of_issuerLink hwf.records hlink).2
        (slashFree_of_reflTransGen hwf.records hslash hpath) (hb.trans hb'.symm)
      exact ⟨a, ha, ReflTransGen.head hlink hpath⟩
  · rintro ⟨a, rfl, hpath⟩
    exact hpath.lift CertificateIdentifier.key fun a b hlink => edge_of_issuerLink hwf.index hlink

/-- The tree at an identifier. -/
theorem reflTransGen_key_iff {certID a : CertificateIdentifier}
    (hslash : SlashFree certID.subjectKeyId) (ha : SlashFree a.subjectKeyId) :
    ReflTransGen s.Edge a.key certID.key ↔ ReflTransGen (IssuerLink s) a certID := by
  rw [reflTransGen_edge_iff hwf hexact hslash]
  constructor
  · rintro ⟨b, hb, hpath⟩
    obtain rfl : b = a := CertificateIdentifier.key_inj
      (slashFree_of_reflTransGen hwf.records hslash hpath) ha hb
    exact hpath
  · exact fun hpath => ⟨a, rfl, hpath⟩

/-- What lies below a node has a record, and is another node. -/
theorem live_below {k p : Bytes} (hpath : TransGen s.Edge k p) :
    k ≠ p ∧ s.approvedCertificates.get k ≠ none := by
  obtain ⟨parent, hedge, -⟩ := TransGen.head'_iff.mp hpath
  refine ⟨?_, get_ne_none_of_edge hexact hedge⟩
  rintro rfl
  exact hwf.index.acyclic.not_transGen_self _ hpath

include hlisted

/-- **The child records are a forest.** -/
theorem forest_of_exact : Cascade.Forest CertificateIdentifier.key Store.children s where
  acyclic := hwf.index.acyclic
  parent := by
    rintro c p p' ⟨certID, hmem, rfl⟩ ⟨certID', hmem', hkey⟩
    obtain ⟨cert, hcert, hnot, hp⟩ := hexact.children p certID hmem
    obtain ⟨cert', hcert', hnot', hp'⟩ := hexact.children p' certID' hmem'
    -- the certificates of one record have one issuer
    rw [hkey] at hcert'
    have hissuer := (hlisted.arranged _).issuer cert hcert cert' hcert' hnot hnot'
    rw [← hp, ← hp', hissuer.1, hissuer.2]
  distinct k := by
    refine (hwf.records.children_nodup k).map_on ?_
    intro a ha b hb hkey
    exact CertificateIdentifier.key_inj (hwf.records.slashFree_of_mem_children ha)
      (hwf.records.slashFree_of_mem_children hb) hkey

end Exact

/-! ## Moves -/

/-- The records under a key are as they were. -/
def KeptAt (s t : Store) (k : Bytes) : Prop :=
  t.approvedCertificates.get k = s.approvedCertificates.get k ∧
    t.revokedCertificates.get k = s.revokedCertificates.get k

/-- The certificates of the approved record under a key are appended to the revoked ones, as `f` makes
them. -/
def MovedAt (f : Certificate → Certificate) (s t : Store) (k : Bytes) : Prop :=
  ∃ record, s.approvedCertificates.get k = some record ∧ t.approvedCertificates.get k = none ∧
    t.revokedCertificates.get k = some ⟨record.subject, record.subjectKeyId,
      s.revokedCerts k ++ record.certs.map f⟩

theorem MovedAt.ne_none {k : Bytes} {f : Certificate → Certificate} (h : MovedAt f s t k) :
    s.approvedCertificates.get k ≠ none := by
  obtain ⟨record, hget, -⟩ := h
  rw [hget]
  exact Option.some_ne_none record

theorem KeptAt.trans {k : Bytes} (h : KeptAt s s₁ k) (h' : KeptAt s₁ t k) : KeptAt s t k :=
  ⟨h'.1.trans h.1, h'.2.trans h.2⟩

theorem KeptAt.moved {k : Bytes} {f : Certificate → Certificate} (h : KeptAt s s₁ k)
    (h' : MovedAt f s₁ t k) : MovedAt f s t k := by
  obtain ⟨record, hget, hnone, hrevoked⟩ := h'
  have hcerts : s₁.revokedCerts k = s.revokedCerts k := by
    rw [Store.revokedCerts, KVStore.listAt, h.2]
    rfl
  exact ⟨record, h.1 ▸ hget, hnone, hcerts ▸ hrevoked⟩

/-- A record that has been moved cannot be moved again. -/
theorem MovedAt.trans {k : Bytes} {f : Certificate → Certificate} (h : MovedAt f s s₁ k)
    (h' : KeptAt s₁ t k ∨ MovedAt id s₁ t k) : MovedAt f s t k := by
  obtain ⟨record, hget, hnone, hrevoked⟩ := h
  rcases h' with hkept | ⟨record', hget', -⟩
  · exact ⟨record, hget, hkept.1.trans hnone, hkept.2.trans hrevoked⟩
  · rw [hnone] at hget'
    cases hget'

/-- The revoked record after certificates have been appended to it. -/
theorem get_addRevokedCertificates (h : Records lib s) {approved : ApprovedCertificates}
    (hwf : approved.WellFormed lib) (k : Bytes) :
    (s.addRevokedCertificates approved).revokedCertificates.get k =
      if k = approved.certID.key then
        some ⟨approved.subject, approved.subjectKeyId, s.revokedCerts k ++ approved.certs⟩
      else s.revokedCertificates.get k := by
  obtain ⟨hsubject, hkey⟩ := CertificateIdentifier.mk.inj (h.revokedFor_spec hwf).1
  rw [h.addRevokedCertificates_eq hwf, KVStore.get_set]
  dsimp only
  rw [hsubject, hkey]
  split
  · next hk => rw [hk]
  · rfl

/-- The move of one record. -/
theorem movedAt_of_delete (h : Records lib s) {certID : CertificateIdentifier}
    {record : ApprovedCertificates} (approved : ApprovedCertificates) {f : Certificate → Certificate}
    (hget : s.approvedCertificates.get certID.key = some record)
    (hid : approved.certID = record.certID) (hwf : approved.WellFormed lib)
    (hf : approved.certs = record.certs.map f)
    (happroved : s₁.approvedCertificates = s.approvedCertificates.delete certID.key)
    (hrevoked : s₁.revokedCertificates = (s.addRevokedCertificates approved).revokedCertificates) :
    MovedAt f s s₁ certID.key ∧ ∀ k, k ≠ certID.key → KeptAt s s₁ k := by
  have hkey : approved.certID.key = certID.key := by
    rw [hid]
    exact (h.approved _ _ hget).1.symm
  obtain ⟨hsubject, hsubjectKey⟩ := CertificateIdentifier.mk.inj hid
  constructor
  · refine ⟨record, hget, ?_, ?_⟩
    · rw [happroved, KVStore.get_delete_self]
    · rw [hrevoked, get_addRevokedCertificates h hwf, if_pos hkey.symm, hf, hsubject, hsubjectKey]
  · intro k hk
    constructor
    · rw [happroved, KVStore.get_delete, if_neg hk]
    · rw [hrevoked, get_addRevokedCertificates h hwf, if_neg (hkey ▸ hk)]

/-- The revocation of a child that has a record. -/
theorem movedAt_revokeChild (h : Records lib s) {certID : CertificateIdentifier}
    (hlive : ¬ Gone s certID.key) (k : Bytes) :
    KeptAt s (s.revokeChild certID) k ∨ MovedAt id s (s.revokeChild certID) k := by
  obtain ⟨record, hget⟩ := Option.ne_none_iff_exists'.mp hlive
  have hrecord : s.approvedAt certID.key = record := by rw [Store.approvedAt, hget]; rfl
  have hmove : MovedAt id s (s.revokeChild certID) certID.key ∧
      ∀ k, k ≠ certID.key → KeptAt s (s.revokeChild certID) k :=
    movedAt_of_delete h record hget rfl (h.approved _ _ hget).2.1 (List.map_id _).symm rfl
      (hrecord ▸ rfl)
  by_cases hk : k = certID.key
  · exact Or.inr (hk ▸ hmove.1)
  · exact Or.inl (hmove.2 k hk)

/-- **The cascade moves records as they are**, if it starts where everything below has a record. -/
theorem movedAt_of_cascade {fuel : ℕ} {subject subjectKeyID : String} (h : Records lib s)
    (hforest : Cascade.Forest CertificateIdentifier.key Store.children s)
    (hlive : ∀ k, TransGen s.Edge k (pairKey subject subjectKeyID) → ¬ Gone s k)
    (ht : revokeChildCertificates fuel subject subjectKeyID s = some t) (k : Bytes) :
    KeptAt s t k ∨ MovedAt id s t k := by
  rw [revokeChildCertificates_eq_cascade] at ht
  have hrel := cascade_rel_of_live lawful
    (R := fun s t => Records lib s → Records lib t ∧ ∀ k, KeptAt s t k ∨ MovedAt id s t k)
    ?_ ?_ hforest ?_ ?_ (fun _ => Or.inl rfl) hlive ht
  · exact (hrel h).2 k
  · exact fun s h => ⟨h, fun k => Or.inl ⟨rfl, rfl⟩⟩
  · intro s₁ s₂ s₃ h₁₂ h₂₃ h₁
    obtain ⟨h₂, hm⟩ := h₁₂ h₁
    obtain ⟨h₃, hm'⟩ := h₂₃ h₂
    refine ⟨h₃, fun k => ?_⟩
    rcases hm k with hkept | hmoved
    · exact (hm' k).imp hkept.trans hkept.moved
    · exact Or.inr (hmoved.trans (hm' k))
  · exact fun certID s hlive h => ⟨h.revokeChild certID, movedAt_revokeChild h hlive⟩
  · exact fun k s h => ⟨h.dropChildren k, fun _ => Or.inl ⟨rfl, rfl⟩⟩

/-! ## Revocations -/

/-- **What a revocation does to the records under the keys**: those of the tree are moved, and all
others are kept. -/
theorem movedAt_of_revocation (hwf : WellFormed lib s) (hlisted : Listed s) (hexact : Exact s)
    {certID : CertificateIdentifier} {f : Certificate → Certificate} (h₁ : Records lib s₁)
    (hsub : ∀ k, (s₁.children k).Sublist (s.children k))
    (hmoved : MovedAt f s s₁ certID.key) (hkept : ∀ k, k ≠ certID.key → KeptAt s s₁ k) {fuel : ℕ}
    (ht : revokeChildCertificates fuel certID.subject certID.subjectKeyId s₁ = some t)
    (hrev : Revocation certID.key f s t) (k : Bytes) :
    (ReflTransGen s.Edge k certID.key → MovedAt (if k = certID.key then f else id) s t k) ∧
      (¬ ReflTransGen s.Edge k certID.key → KeptAt s t k) := by
  have hlive : ∀ k, TransGen s.Edge k certID.key →
      k ≠ certID.key ∧ s.approvedCertificates.get k ≠ none := fun _ => live_below hwf hexact
  have hedge : ∀ c p, s₁.Edge c p → s.Edge c p := by
    rintro c p ⟨n, hn, hkey⟩
    exact ⟨n, (hsub p).subset hn, hkey⟩
  have hlive₁ : ∀ k, TransGen s₁.Edge k certID.key → ¬ Gone s₁ k := by
    intro k hpath
    obtain ⟨hne, hget⟩ := hlive k (TransGen.mono hedge _ _ hpath)
    rw [Gone, (hkept k hne).1]
    exact hget
  have hcascade := movedAt_of_cascade h₁ ((forest_of_exact hwf hlisted hexact).of_sublist hsub)
    hlive₁ ht k
  constructor
  · intro hpath
    rcases reflTransGen_iff_eq_or_transGen.mp hpath with heq | hpath
    · rw [if_pos heq.symm]
      rw [← heq] at hcascade ⊢
      exact hmoved.trans hcascade
    · obtain ⟨hne, hget⟩ := hlive k hpath
      rw [if_neg hne]
      rcases hcascade with hkept' | hmoved'
      · -- the cascade does not keep what lies below
        have hgone := (hrev.gone_below hwf.index hmoved.ne_none hpath).1
        exact absurd (((hkept k hne).trans hkept').1.symm.trans hgone) hget
      · exact (hkept k hne).moved hmoved'
  · intro hnot
    have hne : k ≠ certID.key := fun heq => hnot (heq ▸ ReflTransGen.refl)
    rcases hcascade with hkept' | ⟨record, hget, hnone, -⟩
    · exact (hkept k hne).trans hkept'
    · exfalso
      rcases hrev.descends k hnone with hnone' | heq | hpath
      · rw [(hkept k hne).1, hnone'] at hget
        cases hget
      · exact hne heq
      · exact hnot hpath.to_reflTransGen

/-- The child records of the tree are gone. -/
theorem Revocation.childless {certID : CertificateIdentifier} {f : Certificate → Certificate}
    (hrev : Revocation certID.key f s t) (hindex : Index s) (hrecords : Records lib t)
    (hsome : s.approvedCertificates.get certID.key ≠ none) {k : Bytes}
    (hpath : ReflTransGen s.Edge k certID.key) : t.childCertificates.get k = none := by
  have hnil : t.children k = [] := by
    rcases reflTransGen_iff_eq_or_transGen.mp hpath with heq | hpath
    · rw [← heq]
      exact (hrev.emptied _ hrev.gone).resolve_left hsome
    · exact (hrev.gone_below hindex hsome hpath).2
  cases hget : t.childCertificates.get k with
  | none => rfl
  | some record =>
    rw [Store.children, hget] at hnil
    exact absurd hnil (hrecords.child _ _ hget).2.2.2

/-- A record that is moved, and the cascade behind it, from keys to identifiers. -/
theorem treeRevoked_of_cascade (hwf : WellFormed lib s) (hlisted : Listed s) (hexact : Exact s)
    {certID : CertificateIdentifier} (hslash : SlashFree certID.subjectKeyId)
    {f : Certificate → Certificate} (h₁ : Records lib s₁)
    (hsub : ∀ k, (s₁.children k).Sublist (s.children k))
    (hmove : MovedAt f s s₁ certID.key ∧ ∀ k, k ≠ certID.key → KeptAt s s₁ k) {fuel : ℕ}
    (ht : revokeChildCertificates fuel certID.subject certID.subjectKeyId s₁ = some t)
    (hrecords : Records lib t) (hrev : Revocation certID.key f s t) : TreeRevoked certID f s t := by
  have hkeys := movedAt_of_revocation hwf hlisted hexact h₁ hsub hmove.1 hmove.2 ht hrev
  have hfree : ∀ a : CertificateIdentifier, ReflTransGen (IssuerLink s) a certID →
      SlashFree a.subjectKeyId := fun a => slashFree_of_reflTransGen hwf.records hslash
  have hpath : ∀ a : CertificateIdentifier, ReflTransGen (IssuerLink s) a certID →
      ReflTransGen s.Edge a.key certID.key := fun a ha =>
    (reflTransGen_key_iff hwf hexact hslash (hfree a ha)).mpr ha
  refine ⟨fun a ha => ?_, fun a hlinks => ?_, fun a hlinks => ?_, fun k hoff => ?_⟩
  · rw [← reflTransGen_key_iff hwf hexact hslash ha]
    constructor
    · rintro ⟨hbefore, hafter⟩
      by_contra hnot
      exact hbefore (((hkeys a.key).2 hnot).1.symm.trans hafter)
    · intro hedges
      obtain ⟨record, hget, hnone, -⟩ := (hkeys a.key).1 hedges
      exact ⟨fun hnone' => Option.some_ne_none record (hget.symm.trans hnone'), hnone⟩
  · obtain ⟨record, hget, -, hrevoked⟩ := (hkeys a.key).1 (hpath a hlinks)
    -- the record is that of the identifier
    obtain rfl : record.certID = a := by
      obtain ⟨hkey, hwf', -⟩ := hwf.records.approved _ _ hget
      exact CertificateIdentifier.key_inj hwf'.slashFree (hfree a hlinks) hkey.symm
    have hself : record.certID.key = certID.key ↔ record.certID = certID :=
      ⟨fun hkey => CertificateIdentifier.key_inj (hfree _ hlinks) hslash hkey, fun h => h ▸ rfl⟩
    rw [hrevoked, approvedCerts_of_get hget]
    simp only [hself]
    rfl
  · exact hrev.childless hwf.index hrecords hmove.1.ne_none (hpath a hlinks)
  · apply (hkeys k).2
    intro hedges
    obtain ⟨a, ha, hlinks⟩ := (reflTransGen_edge_iff hwf hexact hslash).mp hedges
    exact hoff a hlinks ha.symm

/-- **A revocation takes a tree.** When a certificate is revoked by its owner, or the last vote on the
revocation of a root is given, the records of the identifier and of everything issued below it move to
the revoked ones with all their certificates, and no other record changes. The root certificates of the
identifier itself get the approvals of the revocation. -/
theorem tree_revoked
    (h : Reachable ((certificates lib bech32).restrict fun _ a => a.2.NamesSlashFree) s)
    {fuel : ℕ} {ctx : Context} {msg : MsgIdentifier} (hslash : SlashFree msg.subjectKeyId)
    (s' : Store) :
    ((handle lib bech32 fuel ctx (.revokeX509Cert msg)).deliver s = some (.ok (), s') →
      TreeRevoked msg.certID id s s') ∧
    ∀ found, s.getProposedCertificateRevocation msg.subject msg.subjectKeyId = some found →
      certificateApprovalsCount ctx.accounts ≤ found.approvals.length + 1 →
      (handle lib bech32 fuel ctx (.approveRevokeX509RootCert msg)).deliver s = some (.ok (), s') →
      ∃ addr, bech32.accAddressFromBech32 msg.signer = .ok addr ∧
        TreeRevoked msg.certID (assignTo (found.approvals ++ [grantOf bech32 msg addr])) s s' := by
  obtain ⟨hwf, hlisted, hexact⟩ := exact_of_reachable h
  constructor
  · intro hd
    rcases Handler.deliver_cases hd with ⟨_, -, hok⟩ | ⟨⟨_, herr⟩, -⟩
    · obtain ⟨record, first, rest, t, hget, -, -, -, ht, rfl⟩ := revokeX509Cert_cases hok
      obtain ⟨hrecords, hrev, -⟩ := revocation_of_revoked hwf.records hget ht
      have hwf' := (hwf.records.approved _ _ hget).2.1
      have h₁ := (hwf.records.addRevokedCertificates hwf').removeApprovedCertificates
        msg.subject msg.subjectKeyId
      have htree : TreeRevoked msg.certID id s t := by
        refine treeRevoked_of_cascade hwf hlisted hexact hslash
          (h₁.removeChildCertificate first.issuer first.authorityKeyId msg.certID) (fun k => ?_)
          (movedAt_of_delete hwf.records record hget rfl hwf' (List.map_id _).symm rfl rfl) ht hrecords hrev
        rw [h₁.children_removeChildCertificate]
        split
        · exact List.erase_sublist
        · exact List.Sublist.refl _
      exact ⟨htree.gone_iff, htree.moved, htree.childless, htree.kept⟩
    · cases herr
  · intro found hfound hcount hd
    rcases Handler.deliver_cases hd with ⟨_, -, hok⟩ | ⟨⟨_, herr⟩, -⟩
    · obtain ⟨addr, found', hvote, hcases⟩ := approveRevokeX509RootCert_cases hok
      obtain rfl : found' = found := Option.some.inj (hvote.proposal.symm.trans hfound)
      rcases hcases with ⟨hless, -⟩ | ⟨-, record, t, hget, ht, rfl⟩
      · exact absurd hcount (not_le.mpr hless)
      · obtain ⟨hrecords, hrev, -⟩ := revocation_of_rootRevoked hwf.records hget ht
        have hget' : s.approvedCertificates.get msg.certID.key = some record := hget
        have hwf' := wellFormed_assignApprovals (found'.approvals ++ [grantOf bech32 msg addr])
          (hwf.records.approved _ _ hget).2.1
        have htree := treeRevoked_of_cascade hwf hlisted hexact hslash
          ((hwf.records.addRevokedCertificates hwf').removeApprovedCertificates
            msg.subject msg.subjectKeyId) (fun k => List.Sublist.refl _)
          (movedAt_of_delete hwf.records (assignApprovals _ record) hget' rfl hwf' rfl rfl rfl) ht hrecords hrev
        exact ⟨addr, hvote.signer, htree.gone_iff, htree.moved, htree.childless, htree.kept⟩
    · cases herr

/-- The last vote on the revocation of the example's root takes the leaf below it along. -/
theorem example_tree_revoked : ∃ s s' : Store, ∃ addr found,
    Reachable ((certificates exampleLib Dclauth.exampleCodec).restrict
      fun _ a => a.2.NamesSlashFree) s ∧
    IssuerLink s ⟨"Uw==", "02"⟩ ⟨"Ug==", "01"⟩ ∧
    TreeRevoked ⟨"Ug==", "01"⟩ (assignTo (found ++
      [grantOf Dclauth.exampleCodec (exampleMsg "cosmos1two" "Ug==" "01") addr])) s s' ∧
    s'.getApprovedCertificates "Uw==" "02" = none := by
  obtain ⟨s, hs, hp⟩ := exists_reachable_of_foldlM
    (T := (certificates exampleLib Dclauth.exampleCodec).restrict fun _ a => a.2.NamesSlashFree)
    (p := fun s =>
      (s.getProposedCertificateRevocation "Ug==" "01").any (fun found =>
        decide (certificateApprovalsCount exampleContext.accounts ≤ found.approvals.length + 1)) &&
      ((s.approvedCerts (pairKey "Uw==" "02")).any fun cert =>
        decide (cert.isRoot = false ∧ cert.certID = ⟨"Uw==", "02"⟩ ∧
          (⟨cert.issuer, cert.authorityKeyId⟩ : CertificateIdentifier) = ⟨"Ug==", "01"⟩)) &&
      ((handle exampleLib Dclauth.exampleCodec 3 exampleContext
        (.approveRevokeX509RootCert (exampleMsg "cosmos1two" "Ug==" "01"))).deliver s).any fun r =>
          r.1.isOk)
    deliverSlashFree step_of_deliverSlashFree
    (exampleLeaf ++ [exampleProposeRevoke "cosmos1one" "Ug==" "01"]) (by decide +kernel)
  rw [Bool.and_eq_true, Bool.and_eq_true, Option.any_eq_true, List.any_eq_true,
    Option.any_eq_true] at hp
  obtain ⟨⟨⟨found, hfound, hcount⟩, cert, hcert, hissued⟩, ⟨r, s'⟩, hd, hok⟩ := hp
  obtain ⟨hnot, hid, hissuer⟩ := of_decide_eq_true hissued
  have hlink : IssuerLink s ⟨"Uw==", "02"⟩ ⟨"Ug==", "01"⟩ := ⟨_, cert, hcert, hnot, hid, hissuer⟩
  cases r with
  | error e => cases hok
  | ok u =>
    obtain ⟨addr, -, htree⟩ := (tree_revoked hs (by decide) s').2 found hfound
      (of_decide_eq_true hcount) hd
    refine ⟨s, s', addr, found.approvals, hs, hlink, htree, ?_⟩
    exact ((htree.gone_iff ⟨"Uw==", "02"⟩ (by decide)).mpr (ReflTransGen.single hlink)).2

end ComplianceLedger.Pki
