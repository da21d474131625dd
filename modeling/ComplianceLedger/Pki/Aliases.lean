import ComplianceLedger.Pki.Listed

/-!
# Aliases of identifiers

The key of a record joins its subject and its subject key identifier by a slash, and both may hold
slashes. Two identifiers have one key exactly when a part of the one's subject key identifier, up
to a slash, is moved to the end of its subject (`key_eq_iff`). A message can therefore name a
record by an alias, while the lists of children, of subjects and of roots are searched for the
identifier in the message. Such a revocation leaves the record's own identifier on the lists.

## Main definitions

* `ShiftedTo p q`: `q` is `p` with a part moved from its subject key identifier to its subject
* `Unlisted s record`: the identifier of the record is on none of the lists it belongs to
* `RevokesListed s record m`: the message names the record by its own identifier, and is of the
  kind that the lists have it under

## Main results

* `key_eq_iff`: which identifiers have one key
* `revocation_unlists_iff`: when a revocation takes the identifier off all lists
* `aliases_and_revocations`: both of these
* `alias_revoked`: a revocation by an alias
-/

open Machine Machine.TransitionSystem Relation

namespace ComplianceLedger.Pki

/-! ## Identifiers with one key -/

/-- `q` is `p` with a part of its subject key identifier, up to a slash, moved to its subject. -/
def ShiftedTo (p q : CertificateIdentifier) : Prop :=
  ∃ part, q.subject = p.subject ++ "/" ++ part ∧ p.subjectKeyId = part ++ "/" ++ q.subjectKeyId

/-- The text that a key is made of, without the slash at its end. -/
theorem pairKey_eq_iff_text {a b a' b' : String} :
    pairKey a b = pairKey a' b' ↔
      a.toList ++ '/' :: b.toList = a'.toList ++ '/' :: b'.toList := by
  have htext : ∀ a b : String, pairKey a b = utf8 (a ++ "/" ++ b) ++ utf8 "/" := by
    intro a b
    rw [pairKey, utf8_append, utf8_append]
  rw [htext, htext, List.append_left_inj, utf8_inj, ← String.toList_inj]
  simp

/-- **Identifiers with one key** are equal, or one is shifted to the other. -/
theorem key_eq_iff {p q : CertificateIdentifier} :
    p.key = q.key ↔ p = q ∨ ShiftedTo p q ∨ ShiftedTo q p := by
  obtain ⟨a, b⟩ := p
  obtain ⟨a', b'⟩ := q
  -- a cut of the characters further to the right is a cut of the texts
  have hcut : ∀ {a b a' b' : String},
      (∃ m, a'.toList = a.toList ++ '/' :: m ∧ b.toList = m ++ '/' :: b'.toList) ↔
        ShiftedTo ⟨a, b⟩ ⟨a', b'⟩ := by
    intro a b a' b'
    constructor
    · rintro ⟨m, hm, hm'⟩
      refine ⟨String.ofList m, ?_, ?_⟩
      · rw [← String.toList_inj]
        simpa using hm
      · rw [← String.toList_inj]
        simpa using hm'
    · rintro ⟨part, hpart, hpart'⟩
      refine ⟨part.toList, ?_, ?_⟩
      · simpa using congrArg String.toList hpart
      · simpa using congrArg String.toList hpart'
  change pairKey a b = pairKey a' b' ↔ _
  rw [pairKey_eq_iff_text, append_sep_eq_iff, hcut, hcut]
  simp [String.toList_inj]

/-! ## The lists after a revocation -/

/-- The identifier of the record is on none of its lists: not among the children of an issuer of its
certificates, not among the subject key identifiers of its subject, and not among the roots. -/
structure Unlisted (s : Store) (record : ApprovedCertificates) : Prop where
  child : ∀ cert ∈ record.certs, cert.isRoot = false →
    record.certID ∉ s.children (childCertificatesKey cert.issuer cert.authorityKeyId)
  bySubject : record.subjectKeyId ∉ s.subjectKeyIds record.subject
  approvedRoot : record.certID ∉ s.approvedRoots

/-- The message names the record by its own identifier. The owner revokes what is not listed as a
root, the trustees what has no issuer to be listed under. -/
def RevokesListed (s : Store) (record : ApprovedCertificates) : Msg → Prop
  | .revokeX509Cert msg => msg.certID = record.certID ∧ record.certID ∉ s.approvedRoots
  | .approveRevokeX509RootCert msg =>
    msg.certID = record.certID ∧ ∀ cert ∈ record.certs, cert.isRoot = true
  | _ => False

variable {lib : CryptoX509} {bech32 : Bech32} {ctx : Context} {s s' : Store}

/-- The issuer of the record that is revoked stays. -/
theorem Revocation.issuer_stays {k : Bytes} {f : Certificate → Certificate}
    (hrev : Revocation k f s s') (hindex : Index s) {issuer : Bytes} (hedge : s.Edge k issuer) :
    s'.approvedCertificates.get issuer ≠ none := by
  intro hgone
  obtain ⟨certID, hmem, -⟩ := id hedge
  -- an issuer that is gone lies below the record, which lies below it
  rcases hrev.descends issuer hgone with hnone | rfl | hpath
  · exact hindex.parents issuer (List.ne_nil_of_mem hmem) hnone
  · exact hindex.acyclic.not_transGen_self _ (TransGen.single hedge)
  · exact hindex.acyclic.not_transGen_self _ (hpath.tail hedge)

/-- The list of the issuer of the record that is revoked is not emptied. -/
theorem Revocation.children_of_issuer {k : Bytes} {f : Certificate → Certificate}
    (hrev : Revocation k f s s') (hindex : Index s) {issuer : Bytes} (hedge : s.Edge k issuer)
    {l : List CertificateIdentifier}
    (h : s'.children issuer = l ∨ (Gone s' issuer ∧ s'.children issuer = [])) :
    s'.children issuer = l := by
  rcases h with heq | ⟨hgone, -⟩
  · exact heq
  · exact absurd hgone (hrev.issuer_stays hindex hedge)

section Record

variable {record : ApprovedCertificates} {k : Bytes}

/-- A certificate of a record has the identifier of the record. -/
theorem certID_of_mem (h : Records lib s) (hget : s.approvedCertificates.get k = some record)
    {cert : Certificate} (hcert : cert ∈ record.certs) : cert.certID = record.certID :=
  (h.approved _ _ hget).2.1.certID cert hcert

/-- A record with a certificate that is not a root is listed under the issuer. -/
theorem edge_of_mem (h : WellFormed lib s) (hget : s.approvedCertificates.get k = some record)
    {cert : Certificate} (hcert : cert ∈ record.certs) (hnot : cert.isRoot = false) :
    record.certID ∈ s.children (pairKey cert.issuer cert.authorityKeyId) ∧
      s.Edge k (pairKey cert.issuer cert.authorityKeyId) := by
  have hid := certID_of_mem h.records hget hcert
  have hlinked := h.index.linked k cert (by rwa [approvedCerts_of_get hget]) hnot
  rw [hid] at hlinked
  exact ⟨hlinked, record.certID, hlinked, (h.records.approved _ _ hget).1.symm⟩

/-- A message with the identifier of the record takes it off the list of its subject. -/
theorem not_mem_subjectKeyIds_removed (h : Records lib s) {msg : MsgIdentifier}
    (hid : msg.certID = record.certID) :
    record.subjectKeyId ∉
      (s.removeApprovedCertificateBySubject msg.subject msg.subjectKeyId).subjectKeyIds
        record.subject := by
  obtain ⟨hsubject, hkey⟩ := CertificateIdentifier.mk.inj hid
  rw [h.subjectKeyIds_removeApprovedCertificateBySubject, if_pos hsubject.symm, hkey]
  exact (h.subjectKeyIds_nodup _).not_mem_erase

end Record

/-- **The owner revokes**: all lists are rid of the identifier exactly when the message has it, and it
was no root's. -/
theorem unlisted_revoked_iff (hwf : WellFormed lib s) (hlisted : Listed s) {msg : MsgIdentifier}
    {record : ApprovedCertificates} {first : Certificate} {rest : List Certificate} {fuel : ℕ}
    {t : Store}
    (hget : s.approvedCertificates.get (pairKey msg.subject msg.subjectKeyId) = some record)
    (hcerts : record.certs = first :: rest) (hnot : first.isRoot = false)
    (ht : revokeChildCertificates fuel msg.subject msg.subjectKeyId
      (((s.addRevokedCertificates record).removeApprovedCertificates
        msg.subject msg.subjectKeyId).removeChildCertificate first.issuer first.authorityKeyId
          ⟨msg.subject, msg.subjectKeyId⟩) = some t) :
    Unlisted (t.removeApprovedCertificateBySubject msg.subject msg.subjectKeyId) record ↔
      msg.certID = record.certID ∧ record.certID ∉ s.approvedRoots := by
  obtain ⟨hrecords, hrev, hlists⟩ := revocation_of_revoked hwf.records hget ht
  have hfirst : first ∈ record.certs := by
    rw [hcerts]
    exact List.mem_cons_self
  have hroots : t.approvedRoots = s.approvedRoots := by
    rw [Store.approvedRoots, hrev.approvedRoot, Store.approvedRoots]
  obtain ⟨hmem, hedge⟩ := edge_of_mem hwf hget hfirst hnot
  -- the list of the issuer loses the identifier in the message, and nothing else
  have hlist : t.children (pairKey first.issuer first.authorityKeyId) =
      (s.children (pairKey first.issuer first.authorityKeyId)).erase msg.certID :=
    (hrev.children_of_issuer hwf.index hedge (hlists _)).trans (if_pos rfl)
  constructor
  · intro hunlisted
    refine ⟨?_, hroots ▸ hunlisted.approvedRoot⟩
    -- another identifier in the message leaves this one among the issuer's children
    by_contra hne
    apply hunlisted.child first hfirst hnot
    change record.certID ∈ t.children (pairKey first.issuer first.authorityKeyId)
    rw [hlist]
    exact (List.mem_erase_of_ne (Ne.symm hne)).mpr hmem
  · rintro ⟨hid, hroot⟩
    constructor
    · intro cert hcert hnot'
      -- all certificates of the record that are not roots have the issuer of the first
      obtain ⟨hissuer, hauthority⟩ := (hlisted.arranged (pairKey msg.subject msg.subjectKeyId)).issuer
        cert (by rwa [approvedCerts_of_get hget]) first (by rwa [approvedCerts_of_get hget]) hnot' hnot
      change record.certID ∉ t.children (pairKey cert.issuer cert.authorityKeyId)
      rw [hissuer, hauthority, hlist, hid]
      exact (hwf.records.children_nodup _).not_mem_erase
    · exact not_mem_subjectKeyIds_removed hrecords hid
    · change record.certID ∉ t.approvedRoots
      rwa [hroots]

/-- **The trustees revoke**: all lists are rid of the identifier exactly when the message has it, and
the record has only roots. -/
theorem unlisted_rootRevoked_iff (hwf : WellFormed lib s) (hlisted : Listed s) {msg : MsgIdentifier}
    {record : ApprovedCertificates} {approvals : List Grant} {fuel : ℕ} {t : Store}
    (hget : s.approvedCertificates.get (pairKey msg.subject msg.subjectKeyId) = some record)
    (ht : revokeChildCertificates fuel msg.subject msg.subjectKeyId
      ((s.addRevokedCertificates (assignApprovals approvals record)).removeApprovedCertificates
        msg.subject msg.subjectKeyId) = some t) :
    Unlisted ((((t.removeProposedCertificateRevocation msg.subject
        msg.subjectKeyId).removeApprovedRootCertificate
          ⟨msg.subject, msg.subjectKeyId⟩).addRevokedRootCertificate
            ⟨msg.subject, msg.subjectKeyId⟩).removeApprovedCertificateBySubject
              msg.subject msg.subjectKeyId) record ↔
      msg.certID = record.certID ∧ ∀ cert ∈ record.certs, cert.isRoot = true := by
  obtain ⟨hrecords, hrev, hlists⟩ := revocation_of_rootRevoked hwf.records hget ht
  have hroots : (Store.removeIdentifier msg.certID t.approvedRootCertificates).getD [] =
      s.approvedRoots.erase msg.certID := by
    rw [Records.removeIdentifier_getD, hrev.approvedRoot]
    rfl
  constructor
  · intro hunlisted
    -- the list of an issuer would be as it was, with the identifier on it
    have hall : ∀ cert ∈ record.certs, cert.isRoot = true := by
      intro cert hcert
      by_contra hroot
      have hnot : cert.isRoot = false := by simpa using hroot
      obtain ⟨hmem, hedge⟩ := edge_of_mem hwf hget hcert hnot
      apply hunlisted.child cert hcert hnot
      change record.certID ∈ t.children (pairKey cert.issuer cert.authorityKeyId)
      rwa [hrev.children_of_issuer hwf.index hedge (hlists _)]
    refine ⟨?_, hall⟩
    -- a record of roots is on the list of roots, and only the identifier in the message goes
    obtain ⟨first, rest, hcerts⟩ := List.exists_cons_of_ne_nil (hwf.records.approved _ _ hget).2.2
    have hfirst : first ∈ record.certs := by
      rw [hcerts]
      exact List.mem_cons_self
    have hroot := hlisted.roots (pairKey msg.subject msg.subjectKeyId) first
      (by rwa [approvedCerts_of_get hget]) (hall first hfirst)
    rw [certID_of_mem hwf.records hget hfirst] at hroot
    by_contra hne
    apply hunlisted.approvedRoot
    change record.certID ∈ (Store.removeIdentifier msg.certID t.approvedRootCertificates).getD []
    rw [hroots]
    exact (List.mem_erase_of_ne (Ne.symm hne)).mpr hroot
  · rintro ⟨hid, hall⟩
    constructor
    · intro cert hcert hnot
      rw [hall cert hcert] at hnot
      cases hnot
    · exact not_mem_subjectKeyIds_removed hrecords hid
    · change record.certID ∉ (Store.removeIdentifier msg.certID t.approvedRootCertificates).getD []
      rw [hroots, hid]
      exact hwf.records.approvedRoot.not_mem_erase

/-- **When a revocation takes the identifier of a record off its lists.** -/
theorem revocation_unlists_iff (h : Reachable (certificates lib bech32) s) {msg : MsgIdentifier}
    {m : Msg} (hm : m = .revokeX509Cert msg ∨ m = .approveRevokeX509RootCert msg)
    {record : ApprovedCertificates}
    (hget : s.getApprovedCertificates msg.subject msg.subjectKeyId = some record)
    (hstep : (certificates lib bech32).step s (ctx, m) s')
    (hgone : s'.getApprovedCertificates msg.subject msg.subjectKeyId = none) :
    Unlisted s' record ↔ RevokesListed s record m := by
  obtain ⟨hwf, hlisted⟩ := listed_of_reachable h
  have hkept := approvedCertificates_ne_of_gone hget hgone
  have he : Effect lib bech32 ctx s m s' := step_effect hstep
  rcases hm with rfl | rfl
  · cases he with
    | refused => exact absurd rfl hkept
    | revoked t hget' hcerts hnot _ ht =>
      obtain rfl := Option.some.inj (hget'.symm.trans hget)
      exact unlisted_revoked_iff hwf hlisted hget' hcerts hnot ht
  · cases he with
    | refused => exact absurd rfl hkept
    | revocationApproved => exact absurd rfl hkept
    | rootRevoked approvals t _ _ _ hget' ht =>
      obtain rfl := Option.some.inj (hget'.symm.trans hget)
      exact unlisted_rootRevoked_iff hwf hlisted hget' ht

/-- **Keys and revocations.** Different identifiers have different keys, for every kind of record,
unless one is shifted to the other. A successful revocation, in any reachable store, takes the own
identifier of the record off the list of its issuer, of its subject and of the roots exactly when
the message has that identifier and the record is of the kind that its lists say. -/
theorem aliases_and_revocations (lib : CryptoX509) (bech32 : Bech32) :
    (∀ p q : CertificateIdentifier, p ≠ q →
      ((approvedCertificatesKey p.subject p.subjectKeyId ≠
            approvedCertificatesKey q.subject q.subjectKeyId ∧
          proposedCertificateKey p.subject p.subjectKeyId ≠
            proposedCertificateKey q.subject q.subjectKeyId ∧
          proposedCertificateRevocationKey p.subject p.subjectKeyId ≠
            proposedCertificateRevocationKey q.subject q.subjectKeyId ∧
          childCertificatesKey p.subject p.subjectKeyId ≠
            childCertificatesKey q.subject q.subjectKeyId) ↔
        ¬ ShiftedTo p q ∧ ¬ ShiftedTo q p)) ∧
    ∀ (ctx : Context) (s s' : Store) (msg : MsgIdentifier) (m : Msg)
      (record : ApprovedCertificates), Reachable (certificates lib bech32) s →
      m = .revokeX509Cert msg ∨ m = .approveRevokeX509RootCert msg →
      s.getApprovedCertificates msg.subject msg.subjectKeyId = some record →
      (certificates lib bech32).step s (ctx, m) s' →
      s'.getApprovedCertificates msg.subject msg.subjectKeyId = none →
      (Unlisted s' record ↔ RevokesListed s record m) := by
  constructor
  · intro p q hne
    have hkey : p.key ≠ q.key ↔ ¬ ShiftedTo p q ∧ ¬ ShiftedTo q p := by
      rw [Ne, key_eq_iff, not_or, not_or]
      exact and_iff_right hne
    rw [← hkey]
    exact ⟨fun h => h.1, fun h => ⟨h, h, h, h⟩⟩
  · intro ctx s s' msg m record h hm hget hstep hgone
    exact revocation_unlists_iff h hm hget hstep hgone

/-! ## A revocation by an alias -/

/-- The DER name `CN=???`, whose base64 text has a slash in it. -/
def exampleSlashName : Bytes :=
  [0x30, 0x0E, 0x31, 0x0C, 0x30, 0x0A, 0x06, 0x03, 0x55, 0x04, 0x03, 0x0C, 0x03, 0x3F, 0x3F, 0x3F]

/-- The example's root, and a certificate under it for this name. -/
def exampleSlashLib : CryptoX509 := .ofTable
  [("root", exampleCert [82] [1] [82] [1] 1), ("slashed", exampleCert [82] [1] exampleSlashName [2] 2)]

def exampleSlashed : List (Context × Msg) := exampleRoot ++ [exampleAdd "cosmos1vendor" "slashed"]

/-- The identifier of the certificate. -/
def exampleOwn : CertificateIdentifier := ⟨"MA4xDDAKBgNVBAMMAz8/Pw==", "02"⟩

/-- The identifier shifted back over the slash. -/
def exampleAlias : CertificateIdentifier := ⟨"MA4xDDAKBgNVBAMMAz8", "Pw==/02"⟩

/-- The owner's message that revokes the certificate by one of the two. -/
def exampleRevokeBy (certID : CertificateIdentifier) : MsgIdentifier :=
  exampleMsg "cosmos1vendor" certID.subject certID.subjectKeyId

/-- The message revokes a record, and `p` holds of the record and the stores around the step. -/
def revokedSuchThat (msg : MsgIdentifier) (p : Store → ApprovedCertificates → Store → Bool)
    (s : Store) : Bool :=
  (s.getApprovedCertificates msg.subject msg.subjectKeyId).any fun record =>
    (deliverMsg exampleSlashLib Dclauth.exampleCodec 3 s
      (exampleContext, .revokeX509Cert msg)).any fun s' =>
        (s'.getApprovedCertificates msg.subject msg.subjectKeyId).isNone && p s record s'

theorem exists_of_revokedSuchThat {msg : MsgIdentifier}
    {p : Store → ApprovedCertificates → Store → Bool} (h : revokedSuchThat msg p s = true) :
    ∃ record s', s.getApprovedCertificates msg.subject msg.subjectKeyId = some record ∧
      (certificates exampleSlashLib Dclauth.exampleCodec).step s
        (exampleContext, .revokeX509Cert msg) s' ∧
      s'.getApprovedCertificates msg.subject msg.subjectKeyId = none ∧ p s record s' = true := by
  rw [revokedSuchThat, Option.any_eq_true] at h
  obtain ⟨record, hget, h⟩ := h
  rw [Option.any_eq_true] at h
  obtain ⟨s', hs', h⟩ := h
  rw [Bool.and_eq_true, Option.isNone_iff_eq_none] at h
  exact ⟨record, s', hget, step_of_deliverMsg hs', h.1, h.2⟩

/-- **A revocation by an alias.** Two different identifiers that pass the stateless checks have one
key. The owner of the certificate of the one revokes it by the other: the record is gone, and its
own identifier is still among the children of its issuer and among those of its subject. -/
theorem alias_revoked :
    (exampleOwn ≠ exampleAlias ∧
      ((exampleRevokeBy exampleOwn).validateBasic Dclauth.exampleCodec).isOk = true ∧
      ((exampleRevokeBy exampleAlias).validateBasic Dclauth.exampleCodec).isOk = true ∧
      approvedCertificatesKey exampleOwn.subject exampleOwn.subjectKeyId =
        approvedCertificatesKey exampleAlias.subject exampleAlias.subjectKeyId) ∧
    ∃ s, Reachable (certificates exampleSlashLib Dclauth.exampleCodec) s ∧ ∃ record s',
      s.getApprovedCertificates exampleAlias.subject exampleAlias.subjectKeyId = some record ∧
      (certificates exampleSlashLib Dclauth.exampleCodec).step s
        (exampleContext, .revokeX509Cert (exampleRevokeBy exampleAlias)) s' ∧
      s'.getApprovedCertificates exampleAlias.subject exampleAlias.subjectKeyId = none ∧
      record.certID = exampleOwn ∧
      record.certID ∈ s'.children (childCertificatesKey "Ug==" "01") ∧
      record.subjectKeyId ∈ s'.subjectKeyIds record.subject := by
  refine ⟨by decide, ?_⟩
  obtain ⟨s, hs, hp⟩ := exists_reachable_of_foldlM
    (T := certificates exampleSlashLib Dclauth.exampleCodec)
    (p := revokedSuchThat (exampleRevokeBy exampleAlias) fun _ record s' =>
      record.certID = exampleOwn ∧ record.certID ∈ s'.children (childCertificatesKey "Ug==" "01") ∧
        record.subjectKeyId ∈ s'.subjectKeyIds record.subject)
    (deliverMsg exampleSlashLib Dclauth.exampleCodec 3) step_of_deliverMsg exampleSlashed
    (by decide +kernel)
  obtain ⟨record, s', hget, hstep, hgone, hlists⟩ := exists_of_revokedSuchThat hp
  exact ⟨s, hs, record, s', hget, hstep, hgone, of_decide_eq_true hlists⟩

/-- The owner revokes the certificate by its own identifier, and the lists are rid of it. -/
theorem own_identifier_revoked :
    approvedCertificatesKey "Ug==" "01" ≠
      approvedCertificatesKey exampleOwn.subject exampleOwn.subjectKeyId ∧
    ∃ s, Reachable (certificates exampleSlashLib Dclauth.exampleCodec) s ∧ ∃ record s',
      s.getApprovedCertificates exampleOwn.subject exampleOwn.subjectKeyId = some record ∧
      (certificates exampleSlashLib Dclauth.exampleCodec).step s
        (exampleContext, .revokeX509Cert (exampleRevokeBy exampleOwn)) s' ∧
      Unlisted s' record := by
  constructor
  · apply (((aliases_and_revocations exampleSlashLib Dclauth.exampleCodec).1 ⟨"Ug==", "01"⟩
      exampleOwn (by decide)).mpr ?_).1
    -- neither subject begins with the other and a slash
    constructor
    · rintro ⟨part, hpart, -⟩
      have hlist := congrArg String.toList hpart
      simp [exampleOwn] at hlist
    · rintro ⟨part, hpart, -⟩
      have hlist := congrArg String.toList hpart
      simp [exampleOwn] at hlist
  · obtain ⟨s, hs, hp⟩ := exists_reachable_of_foldlM
      (T := certificates exampleSlashLib Dclauth.exampleCodec)
      (p := revokedSuchThat (exampleRevokeBy exampleOwn) fun s record _ =>
        record.certID = exampleOwn ∧ record.certID ∉ s.approvedRoots)
      (deliverMsg exampleSlashLib Dclauth.exampleCodec 3) step_of_deliverMsg exampleSlashed
      (by decide +kernel)
    obtain ⟨record, s', hget, hstep, hgone, hlisted⟩ := exists_of_revokedSuchThat hp
    obtain ⟨hid, hroot⟩ := of_decide_eq_true hlisted
    refine ⟨s, hs, record, s', hget, hstep, ?_⟩
    exact ((aliases_and_revocations _ _).2 _ s s' _ _ record hs (Or.inl rfl) hget hstep hgone).mpr
      ⟨hid.symm, hroot⟩

end ComplianceLedger.Pki
