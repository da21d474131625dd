import ComplianceLedger.Pki.Chain
import ComplianceLedger.Pki.Revocation

/-!
# The graph of issuers

The child records are an index of the approved certificates: a certificate that is not a root is
listed under the issuer it names, and only approved identifiers have children. The edges of the
index form a graph without cycles, since a new edge leads to an identifier that has no children
yet. All of this holds in every run, also when messages name records by other identifiers with the
same key.

## Main definitions

* `Index s`: what the child records say about the approved certificates
* `WellFormed lib s`: the records are well formed, and indexed

## Main results

* `wellFormed_step`, `wellFormed_of_reachable`: the invariant of every run
-/

open Machine Machine.TransitionSystem

namespace ComplianceLedger.Pki

/-- The edges of the child records: from the key of an issuer to the keys of its children. -/
abbrev Store.Edge (s : Store) : Bytes → Bytes → Prop :=
  Cascade.Edge CertificateIdentifier.key Store.children s

/-- The child records as an index of the approved certificates. -/
structure Index (s : Store) : Prop where
  /-- A certificate that is not a root is listed under its issuer. -/
  linked : ∀ k, ∀ cert ∈ s.approvedCerts k, cert.isRoot = false →
    cert.certID ∈ s.children (pairKey cert.issuer cert.authorityKeyId)
  /-- Only approved identifiers have children. -/
  parents : ∀ k, s.children k ≠ [] → s.approvedCertificates.get k ≠ none
  acyclic : Acyclic s.Edge

/-- **The invariant of every run.** -/
structure WellFormed (lib : CryptoX509) (s : Store) : Prop where
  records : Records lib s
  index : Index s

variable {lib : CryptoX509} {bech32 : Bech32} {ctx : Context} {s s' : Store} {msg : Msg}

/-! ## The index -/

theorem Index.congr (h : Index s) (happroved : s'.approvedCertificates = s.approvedCertificates)
    (hchild : s'.childCertificates = s.childCertificates) : Index s' := by
  have hcerts : s'.approvedCerts = s.approvedCerts := approvedCerts_of_eq happroved
  have hchildren : s'.children = s.children := children_of_eq hchild
  obtain ⟨hlinked, hparents, hacyclic⟩ := h
  refine ⟨?_, ?_, hacyclic.mono fun c p hc => ?_⟩
  · rwa [hcerts, hchildren]
  · rwa [hchildren, happroved]
  · unfold Store.Edge Cascade.Edge at hc ⊢
    rwa [hchildren] at hc

/-- A revocation keeps the index: an identifier is taken off a list only with its record, and a
record goes only with its list. -/
theorem Index.revocation {k : Bytes} {f : Certificate → Certificate} (h : Index s)
    (hrecords : Records lib s) (hrev : Revocation k f s s') : Index s' where
  linked k' cert hcert hroot := by
    obtain ⟨record, hget', -⟩ := mem_approvedCerts_iff.mp hcert
    have hold := hrev.mem_of_mem hcert
    -- had the identifier been taken off the list, the record would be gone
    by_contra hlost
    have hgone := hrev.lost _ _ (h.linked k' cert hold hroot) hlost
    rw [← (hrecords.of_mem_approvedCerts hold).1, hget'] at hgone
    cases hgone
  parents k' hne := by
    intro hgone
    have hne' : s.children k' ≠ [] := fun hnil =>
      hne (List.sublist_nil.mp (hnil ▸ hrev.children k'))
    rcases hrev.emptied k' hgone with hgone | hempty
    · exact h.parents k' hne' hgone
    · exact hne hempty
  acyclic := h.acyclic.mono fun c p ⟨certID, hmem, hkey⟩ =>
    ⟨certID, (hrev.children p).subset hmem, hkey⟩

/-- An approved record stays when a certificate is added. -/
theorem get_addApprovedCertificate_ne_none (hrecords : Records lib s) {cert : Certificate}
    {x : X509Certificate} (hcert : Reads lib cert x) {k : Bytes}
    (hk : s.approvedCertificates.get k ≠ none) :
    (s.addApprovedCertificate cert).approvedCertificates.get k ≠ none := by
  rw [Ne, ← (hrecords.addApprovedCertificate hcert).approvedCerts_eq_nil_iff,
    hrecords.approvedCerts_addApprovedCertificate hcert]
  rw [Ne, ← hrecords.approvedCerts_eq_nil_iff] at hk
  split
  · exact List.append_ne_nil_of_left_ne_nil hk _
  · exact hk

/-- A root certificate is added without an entry in the index. -/
theorem Index.addRoot (h : Index s) (hrecords : Records lib s) {cert : Certificate}
    {x : X509Certificate} (hcert : Reads lib cert x) (hroot : cert.isRoot = true) :
    Index (s.addApprovedCertificate cert) where
  linked k c hc hnot := by
    rcases (hrecords.mem_addApprovedCertificate hcert).mp hc with hc | ⟨-, rfl⟩
    · exact h.linked k c hc hnot
    · rw [hroot] at hnot
      cases hnot
  parents k hne := get_addApprovedCertificate_ne_none hrecords hcert (h.parents k hne)
  acyclic := h.acyclic

/-! ## A new certificate -/

section Added

variable {cert : Certificate} {x : X509Certificate}

/-- The store with a certificate added and listed under its issuer. -/
def Store.addCert (cert : Certificate) (s : Store) : Store :=
  (s.addApprovedCertificate cert).addChildCertificate cert.issuer cert.authorityKeyId cert.certID

theorem children_addCert (cert : Certificate) (k : Bytes) :
    (s.addCert cert).children k =
      if k = pairKey cert.issuer cert.authorityKeyId ∧ cert.certID ∉ s.children k then
        s.children k ++ [cert.certID]
      else s.children k :=
  Records.children_addChildCertificate cert.issuer cert.authorityKeyId cert.certID k

theorem mem_children_addCert {certID : CertificateIdentifier} {k : Bytes} :
    certID ∈ (s.addCert cert).children k ↔
      certID ∈ s.children k ∨ (k = pairKey cert.issuer cert.authorityKeyId ∧
        certID = cert.certID) := by
  rw [children_addCert]
  split
  · next hnew => simp [hnew.1]
  · next hold =>
    constructor
    · exact Or.inl
    · rintro (hmem | ⟨rfl, rfl⟩)
      · exact hmem
      · by_contra hnot
        exact hold ⟨rfl, hnot⟩

/-- The identifier of a new certificate is listed under its issuer, or has no children. -/
theorem linked_or_leaf (h : WellFormed lib s) (hcert : Reads lib cert x)
    (hexisting : FirstApproved s cert.subject cert.subjectKeyId fun first =>
      first.isRoot = false ∧ cert.issuer = first.issuer ∧
        cert.authorityKeyId = first.authorityKeyId) :
    cert.certID ∈ s.children (pairKey cert.issuer cert.authorityKeyId) ∨
      s.children cert.certID.key = [] := by
  by_cases hleaf : s.children cert.certID.key = []
  · exact Or.inr hleaf
  · -- an identifier with children is approved, and its certificates have the same issuer
    left
    obtain ⟨record, hget⟩ := Option.ne_none_iff_exists'.mp (h.index.parents _ hleaf)
    obtain ⟨first, rest, hcerts, hroot, hissuer, hauthority⟩ := hexisting record hget
    have hfirst : first ∈ s.approvedCerts cert.certID.key := first_mem_approvedCerts hget hcerts
    obtain ⟨hkey, x', hreads⟩ := h.records.of_mem_approvedCerts hfirst
    have hid : cert.certID = first.certID :=
      CertificateIdentifier.key_inj hcert.slashFree hreads.slashFree hkey
    rw [hid, hissuer, hauthority]
    exact h.index.linked _ first hfirst hroot

theorem issuer_key_ne (hcert : Reads lib cert x) (hnot : x.isSelfSigned = false) :
    pairKey cert.issuer cert.authorityKeyId ≠ cert.certID.key := by
  intro hkey
  have hissuer := hcert.issuer (hcert.isRoot.trans hnot)
  have hspec := decode_spec hcert.decode
  have hid : x.issuerID = x.certID := by
    apply CertificateIdentifier.key_inj hspec.authorityKeyID hspec.subjectKeyID
    change pairKey x.issuer x.authorityKeyID = pairKey x.subject x.subjectKeyID
    rw [← hissuer.1, ← hissuer.2, ← hcert.subject, ← hcert.subjectKeyId]
    exact hkey
  exact X509Certificate.issuerID_ne_certID hnot hid

/-- A certificate is added under an approved issuer, to certificates with the same issuer. -/
theorem Index.addCert (h : WellFormed lib s) (hcert : Reads lib cert x)
    (hnot : x.isSelfSigned = false)
    (hparent : s.approvedCertificates.get (pairKey cert.issuer cert.authorityKeyId) ≠ none)
    (hexisting : FirstApproved s cert.subject cert.subjectKeyId fun first =>
      first.isRoot = false ∧ cert.issuer = first.issuer ∧
        cert.authorityKeyId = first.authorityKeyId) :
    Index (s.addCert cert) where
  linked k c hc hroot := by
    rw [mem_children_addCert]
    rcases (h.records.mem_addApprovedCertificate hcert).mp hc with hc | ⟨-, rfl⟩
    · exact Or.inl (h.index.linked k c hc hroot)
    · exact Or.inr ⟨rfl, rfl⟩
  parents k hne := by
    apply get_addApprovedCertificate_ne_none h.records hcert
    rw [children_addCert] at hne
    split at hne
    · next hnew =>
      rw [hnew.1]
      exact hparent
    · exact h.index.parents k hne
  acyclic := by
    rcases linked_or_leaf h hcert hexisting with hold | hleaf
    · -- the edge is there already
      refine h.index.acyclic.mono fun c p ⟨certID, hmem, hkey⟩ => ?_
      rcases mem_children_addCert.mp hmem with hmem | ⟨rfl, rfl⟩
      · exact ⟨certID, hmem, hkey⟩
      · exact ⟨cert.certID, hold, hkey⟩
    · -- the edge leads to an identifier without children, from another one
      apply h.index.acyclic.graft (n := cert.certID.key)
      · rintro c ⟨certID, hmem, -⟩
        rw [hleaf] at hmem
        cases hmem
      · rintro c p ⟨certID, hmem, hkey⟩
        rcases mem_children_addCert.mp hmem with hmem | ⟨rfl, rfl⟩
        · exact Or.inl ⟨certID, hmem, hkey⟩
        · exact Or.inr ⟨hkey.symm, issuer_key_ne hcert hnot⟩

end Added

/-! ## Steps and runs -/

theorem readsProposal_proposalOf {m : MsgCert} {x : X509Certificate} (approvals : List Grant)
    (hdecode : decodeX509Certificate lib m.cert = .ok x) (hself : x.isSelfSigned = true) :
    ReadsProposal lib (proposalOf m x approvals) x :=
  ⟨hdecode, hself, rfl, rfl, rfl⟩

theorem reads_certificateOf {m : MsgCert} {x : X509Certificate} (root : String × String)
    (hdecode : decodeX509Certificate lib m.cert = .ok x) (hnot : x.isSelfSigned = false) :
    Reads lib (certificateOf m x root) x :=
  ⟨hdecode, rfl, rfl, rfl, hnot.symm, fun _ => ⟨rfl, rfl⟩⟩

/-- The root certificate of a proposal says what the proposal says. -/
theorem ReadsProposal.reads_root {proposed : ProposedCertificate} {x : X509Certificate}
    (h : ReadsProposal lib proposed x) : Reads lib (rootCertificateOf proposed) x :=
  ⟨h.decode, h.subject, h.subjectKeyId, h.serialNumber, h.self_signed.symm, fun hroot => nomatch hroot⟩

/-- The votes of a proposal may change. -/
theorem ReadsProposal.with_votes {proposed : ProposedCertificate} {x : X509Certificate}
    (h : ReadsProposal lib proposed x) (approvals rejects : List Grant) :
    ReadsProposal lib { proposed with approvals := approvals, rejects := rejects } x :=
  ⟨h.decode, h.self_signed, h.subject, h.subjectKeyId, h.serialNumber⟩

/-- The proposal that a vote is counted for. -/
theorem ProposalVote.reads {m : MsgIdentifier} {addr : AccAddress} {found : ProposedCertificate}
    (hvote : ProposalVote bech32 ctx s m addr found) (h : Records lib s) :
    ∃ x, ReadsProposal lib found x :=
  (h.proposed _ _ hvote.proposal).2

/-- The key of a proposal that a vote is counted for is the key of the message. -/
theorem ProposalVote.key {m : MsgIdentifier} {addr : AccAddress} {found : ProposedCertificate}
    (hvote : ProposalVote bech32 ctx s m addr found) (hrecords : Records lib s) :
    pairKey m.subject m.subjectKeyId = pairKey found.subject found.subjectKeyId :=
  (hrecords.proposed _ _ hvote.proposal).1

/-- The certificate that a vote approves is a root, of the identifier that the message names by its
key. -/
theorem ProposalVote.reads_cert {m : MsgIdentifier} {addr : AccAddress} {found : ProposedCertificate}
    {cert : Certificate} {approvals : List Grant} (hvote : ProposalVote bech32 ctx s m addr found)
    (h : Records lib s) (hcert : cert = rootCertificateOf { found with approvals := approvals }) :
    (∃ x, Reads lib cert x) ∧ cert.isRoot = true ∧
      cert.certID.key = pairKey m.subject m.subjectKeyId := by
  obtain ⟨x, hx⟩ := hvote.reads h
  subst hcert
  exact ⟨⟨x, (hx.with_votes _ _).reads_root⟩, rfl, (hvote.key h).symm⟩

theorem FirstApproved.imp {subject subjectKeyID : String} {p q : Certificate → Prop}
    (h : FirstApproved s subject subjectKeyID p) (hpq : ∀ cert, p cert → q cert) :
    FirstApproved s subject subjectKeyID q := by
  intro record hget
  obtain ⟨first, rest, hcerts, hp⟩ := h record hget
  exact ⟨first, rest, hcerts, hpq first hp⟩

/-- A record that begins with a certificate such that `p` has one. -/
theorem exists_first_of_mem {subject subjectKeyID : String} {p : Certificate → Prop}
    (h : FirstApproved s subject subjectKeyID p) {cert : Certificate}
    (hcert : cert ∈ s.approvedCerts (pairKey subject subjectKeyID)) :
    ∃ first ∈ s.approvedCerts (pairKey subject subjectKeyID), p first := by
  obtain ⟨record, hget, -⟩ := mem_approvedCerts_iff.mp hcert
  obtain ⟨first, rest, hcerts, hp⟩ := h record hget
  exact ⟨first, first_mem_approvedCerts hget hcerts, hp⟩

/-- The issuer of a certificate with a chain is approved. -/
theorem get_issuer_ne_none {now : ℤ} {x : X509Certificate} {root : String × String}
    (h : Chain lib now s x root) (hnot : x.isSelfSigned = false) :
    s.approvedCertificates.get (pairKey x.issuer x.authorityKeyID) ≠ none := by
  cases h with
  | root hself =>
    rw [hself] at hnot
    cases hnot
  | link _ hget =>
    rw [hget]
    exact Option.some_ne_none _

/-- **One step keeps the invariant.** -/
theorem wellFormed_step (h : WellFormed lib s) (he : Effect lib bech32 ctx s msg s') :
    WellFormed lib s' := by
  obtain ⟨hrecords, hindex⟩ := h
  cases he with
  | refused => exact ⟨hrecords, hindex⟩
  | proposed approvals hdecode hself =>
    refine ⟨?_, hindex.congr rfl rfl⟩
    exact ((hrecords.setProposedCertificate (readsProposal_proposalOf approvals hdecode
      hself)).removeRejectedCertificate _ _).setUniqueCertificate _
  | approved hvote =>
    obtain ⟨x, hx⟩ := hvote.reads hrecords
    exact ⟨hrecords.setProposedCertificate (hx.with_votes _ _), hindex.congr rfl rfl⟩
  | rejected hvote =>
    obtain ⟨x, hx⟩ := hvote.reads hrecords
    exact ⟨hrecords.setProposedCertificate (hx.with_votes _ _), hindex.congr rfl rfl⟩
  | discarded record =>
    refine ⟨?_, hindex.congr rfl rfl⟩
    exact ((hrecords.setRejectedCertificate record).removeProposedCertificate _
      _).removeUniqueCertificate _ _
  | activated cert hvote _ hcert =>
    obtain ⟨⟨x, hreads⟩, hroot, -⟩ := hvote.reads_cert hrecords hcert
    refine ⟨?_, (hindex.addRoot hrecords hreads hroot).congr rfl rfl⟩
    exact (((hrecords.addApprovedCertificate hreads).removeProposedCertificate _
      _).addApprovedRootCertificate _).addApprovedCertificateBySubject _ _
  | @added m x fuel root cert hdecode hnot _ hexisting hverify hcert =>
    subst hcert
    have hreads := reads_certificateOf root hdecode hnot
    have hparent := get_issuer_ne_none (chain_of_verifyCertificate hverify) hnot
    constructor
    · exact (((hrecords.addApprovedCertificate hreads).addChildCertificate
        hreads.slashFree).setUniqueCertificate _).addApprovedCertificateBySubject _ _
    · exact (Index.addCert ⟨hrecords, hindex⟩ hreads hnot hparent
        (hexisting.imp fun _ hfirst => hfirst.1)).congr rfl rfl
  | revocationProposed =>
    exact ⟨hrecords.setProposedCertificateRevocation _, hindex.congr rfl rfl⟩
  | revocationApproved =>
    exact ⟨hrecords.setProposedCertificateRevocation _, hindex.congr rfl rfl⟩
  | rootRevoked approvals t _ _ _ hget ht =>
    obtain ⟨hrecords', hrev, -⟩ := revocation_of_rootRevoked hrecords hget ht
    refine ⟨?_, (hindex.revocation hrecords hrev).congr rfl rfl⟩
    exact (((hrecords'.removeProposedCertificateRevocation _ _).removeApprovedRootCertificate
      _).addRevokedRootCertificate _).removeApprovedCertificateBySubject _ _
  | revoked t hget _ _ _ ht =>
    obtain ⟨hrecords', hrev, -⟩ := revocation_of_revoked hrecords hget ht
    exact ⟨hrecords'.removeApprovedCertificateBySubject _ _,
      (hindex.revocation hrecords hrev).congr rfl rfl⟩

theorem wellFormed_empty : WellFormed lib Store.empty where
  records := ⟨.empty, .empty, List.nodup_nil, .empty, .empty, .empty, .empty, .empty, List.nodup_nil, .empty⟩
  index :=
    { linked := fun _ _ hcert => nomatch hcert
      parents := fun _ hne => absurd rfl hne
      acyclic := Acyclic.of_no_edges fun _ _ ⟨_, hmem, _⟩ => nomatch hmem }

/-- **Every reachable store is well formed.** -/
theorem wellFormed_of_reachable (h : Reachable (certificates lib bech32) s) : WellFormed lib s :=
  h.invariant wellFormed_empty fun hs hstep => wellFormed_step hs (step_effect hstep)

end ComplianceLedger.Pki
