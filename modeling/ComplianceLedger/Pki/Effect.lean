import ComplianceLedger.Pki.MsgServer

/-!
# What a message does to the certificates

A delivered message leaves the store as it is, or does one of ten things. `Effect` lists them with
what the handler has found before it and with the store it leaves; the later modules use nothing
else of the handlers.

## Main definitions

* `ProposalVote`, `RevocationVote`: a vote that is counted
* `Effect lib bech32 ctx s msg s'`: what `msg` does to `s`

## Main results

* `step_effect`: every step of the module is an effect
-/

open Machine Machine.Handler

namespace ComplianceLedger.Pki

section Definitions

variable (bech32 : Bech32) (ctx : Context) (s : Store)

/-- A vote on a proposed root certificate that is counted: it comes from a trustee who has neither
approved nor rejected the certificate. -/
structure ProposalVote (msg : MsgIdentifier) (addr : AccAddress) (found : ProposedCertificate) :
    Prop where
  signer : bech32.accAddressFromBech32 msg.signer = .ok addr
  role : ctx.accounts.hasRole addr rootCertificateApprovalRole = true
  proposal : s.proposedCertificate.get (pairKey msg.subject msg.subjectKeyId) = some found
  no_reject : found.hasRejectFrom (bech32.string addr) = false
  no_approval : found.hasApprovalFrom (bech32.string addr) = false

/-- A vote on a proposed revocation that is counted. -/
structure RevocationVote (msg : MsgIdentifier) (addr : AccAddress)
    (found : ProposedCertificateRevocation) : Prop where
  signer : bech32.accAddressFromBech32 msg.signer = .ok addr
  role : ctx.accounts.hasRole addr rootCertificateApprovalRole = true
  proposal : s.proposedCertificateRevocation.get (pairKey msg.subject msg.subjectKeyId) = some found
  no_approval : found.hasApprovalFrom (bech32.string addr) = false

/-- The approved record of an identifier, if any, begins with a certificate such that `p`. -/
def FirstApproved (subject subjectKeyID : String) (p : Certificate → Prop) : Prop :=
  ∀ record, s.approvedCertificates.get (pairKey subject subjectKeyID) = some record →
    ∃ first rest, record.certs = first :: rest ∧ p first

end Definitions

/-- The proposal of a message, with the approvals it starts with. -/
def proposalOf (msg : MsgCert) (x : X509Certificate) (approvals : List Grant) :
    ProposedCertificate :=
  ⟨x.subject, x.subjectKeyID, msg.cert, x.serialNumber, msg.signer, approvals, x.subjectAsText, []⟩

/-- The certificate of a message, under the root its chain ends in. -/
def certificateOf (msg : MsgCert) (x : X509Certificate) (root : String × String) : Certificate :=
  newNonRootCertificate msg.cert x.subject x.subjectAsText x.subjectKeyID x.serialNumber x.issuer
    x.authorityKeyID root.1 root.2 msg.signer

/-- **What a message does**: nothing, or one of ten things. -/
inductive Effect (lib : CryptoX509) (bech32 : Bech32) (ctx : Context) (s : Store) :
    Msg → Store → Prop
  | refused (msg : Msg) : Effect lib bech32 ctx s msg s
  | proposed {msg : MsgCert} {x : X509Certificate} {fuel : ℕ} {root : String × String}
      {addr : AccAddress} (approvals : List Grant)
      (decode : decodeX509Certificate lib msg.cert = .ok x) (self_signed : x.isSelfSigned = true)
      (free : s.proposedCertificate.get (pairKey x.subject x.subjectKeyID) = none)
      (unique : s.uniqueCertificate.get (pairKey x.issuer x.serialNumber) = none)
      (verify : verifyCertificate lib ctx.now s fuel x = some (.ok root))
      (existing : FirstApproved s x.subject x.subjectKeyID fun first =>
        first.isRoot = true ∧ msg.signer = first.owner)
      (signer : bech32.accAddressFromBech32 msg.signer = .ok addr)
      (approvals_eq : approvals =
        if ctx.accounts.hasRole addr rootCertificateApprovalRole then
          [⟨bech32.string addr, msg.time, msg.info⟩]
        else []) :
      Effect lib bech32 ctx s (.proposeAddX509RootCert msg)
        (((s.setProposedCertificate (proposalOf msg x approvals)).removeRejectedCertificate
          x.subject x.subjectKeyID).setUniqueCertificate ⟨x.issuer, x.serialNumber, true⟩)
  | approved {msg : MsgIdentifier} {addr : AccAddress} {found : ProposedCertificate}
      (vote : ProposalVote bech32 ctx s msg addr found)
      (count : found.approvals.length + 1 < certificateApprovalsCount ctx.accounts) :
      Effect lib bech32 ctx s (.approveAddX509RootCert msg)
        (s.setProposedCertificate
          { found with approvals := found.approvals ++ [grantOf bech32 msg addr] })
  | activated {msg : MsgIdentifier} {addr : AccAddress} {found : ProposedCertificate}
      (cert : Certificate) (vote : ProposalVote bech32 ctx s msg addr found)
      (count : certificateApprovalsCount ctx.accounts ≤ found.approvals.length + 1)
      (cert_eq : cert = rootCertificateOf
        { found with approvals := found.approvals ++ [grantOf bech32 msg addr] }) :
      Effect lib bech32 ctx s (.approveAddX509RootCert msg)
        ((((s.addApprovedCertificate cert).removeProposedCertificate msg.subject
          msg.subjectKeyId).addApprovedRootCertificate
            ⟨cert.subject, cert.subjectKeyId⟩).addApprovedCertificateBySubject
              cert.subject cert.subjectKeyId)
  | rejected {msg : MsgIdentifier} {addr : AccAddress} {found : ProposedCertificate}
      (vote : ProposalVote bech32 ctx s msg addr found)
      (count : found.rejects.length + 1 < certificateRejectApprovalsCount ctx.accounts) :
      Effect lib bech32 ctx s (.rejectAddX509RootCert msg)
        (s.setProposedCertificate
          { found with rejects := found.rejects ++ [grantOf bech32 msg addr] })
  | discarded {msg : MsgIdentifier} {addr : AccAddress} {found : ProposedCertificate}
      (record : RejectedCertificate) (vote : ProposalVote bech32 ctx s msg addr found)
      (count : certificateRejectApprovalsCount ctx.accounts ≤ found.rejects.length + 1)
      (record_eq : record = ⟨found.subject, found.subjectKeyId,
        [{ rootCertificateOf
            { found with rejects := found.rejects ++ [grantOf bech32 msg addr] } with
          isRoot := false }]⟩) :
      Effect lib bech32 ctx s (.rejectAddX509RootCert msg)
        (((s.setRejectedCertificate record).removeProposedCertificate msg.subject
          msg.subjectKeyId).removeUniqueCertificate found.subject found.serialNumber)
  | added {msg : MsgCert} {x : X509Certificate} {fuel : ℕ} {root : String × String}
      (cert : Certificate) (decode : decodeX509Certificate lib msg.cert = .ok x)
      (not_self_signed : x.isSelfSigned = false)
      (unique : s.uniqueCertificate.get (pairKey x.issuer x.serialNumber) = none)
      (existing : FirstApproved s x.subject x.subjectKeyID fun first =>
        (first.isRoot = false ∧ x.issuer = first.issuer ∧ x.authorityKeyID = first.authorityKeyId) ∧
          msg.signer = first.owner)
      (verify : verifyCertificate lib ctx.now s fuel x = some (.ok root))
      (cert_eq : cert = certificateOf msg x root) :
      Effect lib bech32 ctx s (.addX509Cert msg)
        ((((s.addApprovedCertificate cert).addChildCertificate cert.issuer cert.authorityKeyId
          ⟨cert.subject, cert.subjectKeyId⟩).setUniqueCertificate
            ⟨x.issuer, x.serialNumber, true⟩).addApprovedCertificateBySubject
              cert.subject cert.subjectKeyId)
  | revocationProposed {msg : MsgIdentifier} {addr : AccAddress} {record : ApprovedCertificates}
      {first : Certificate} {rest : List Certificate}
      (signer : bech32.accAddressFromBech32 msg.signer = .ok addr)
      (role : ctx.accounts.hasRole addr rootCertificateApprovalRole = true)
      (free : s.proposedCertificateRevocation.get (pairKey msg.subject msg.subjectKeyId) = none)
      (found : s.approvedCertificates.get (pairKey msg.subject msg.subjectKeyId) = some record)
      (certs : record.certs = first :: rest) (root : first.isRoot = true) :
      Effect lib bech32 ctx s (.proposeRevokeX509RootCert msg)
        (s.setProposedCertificateRevocation
          ⟨msg.subject, msg.subjectKeyId, [⟨msg.signer, msg.time, msg.info⟩]⟩)
  | revocationApproved {msg : MsgIdentifier} {addr : AccAddress}
      {found : ProposedCertificateRevocation} (vote : RevocationVote bech32 ctx s msg addr found)
      (count : found.approvals.length + 1 < certificateApprovalsCount ctx.accounts) :
      Effect lib bech32 ctx s (.approveRevokeX509RootCert msg)
        (s.setProposedCertificateRevocation
          { found with approvals := found.approvals ++ [grantOf bech32 msg addr] })
  | rootRevoked {msg : MsgIdentifier} {addr : AccAddress} {found : ProposedCertificateRevocation}
      {record : ApprovedCertificates} {fuel : ℕ} (approvals : List Grant) (t : Store)
      (vote : RevocationVote bech32 ctx s msg addr found)
      (approvals_eq : approvals = found.approvals ++ [grantOf bech32 msg addr])
      (count : certificateApprovalsCount ctx.accounts ≤ found.approvals.length + 1)
      (certs : s.approvedCertificates.get (pairKey msg.subject msg.subjectKeyId) = some record)
      (children : revokeChildCertificates fuel msg.subject msg.subjectKeyId
        ((s.addRevokedCertificates (assignApprovals approvals record)).removeApprovedCertificates
          msg.subject msg.subjectKeyId) = some t) :
      Effect lib bech32 ctx s (.approveRevokeX509RootCert msg)
        ((((t.removeProposedCertificateRevocation msg.subject
          msg.subjectKeyId).removeApprovedRootCertificate
            ⟨msg.subject, msg.subjectKeyId⟩).addRevokedRootCertificate
              ⟨msg.subject, msg.subjectKeyId⟩).removeApprovedCertificateBySubject
                msg.subject msg.subjectKeyId)
  | revoked {msg : MsgIdentifier} {record : ApprovedCertificates} {first : Certificate}
      {rest : List Certificate} {fuel : ℕ} (t : Store)
      (found : s.approvedCertificates.get (pairKey msg.subject msg.subjectKeyId) = some record)
      (certs : record.certs = first :: rest) (not_root : first.isRoot = false)
      (owner : msg.signer = first.owner)
      (children : revokeChildCertificates fuel msg.subject msg.subjectKeyId
        (((s.addRevokedCertificates record).removeApprovedCertificates
          msg.subject msg.subjectKeyId).removeChildCertificate first.issuer first.authorityKeyId
            ⟨msg.subject, msg.subjectKeyId⟩) = some t) :
      Effect lib bech32 ctx s (.revokeX509Cert msg)
        (t.removeApprovedCertificateBySubject msg.subject msg.subjectKeyId)

/-! ## The checks -/

section Inversion

variable {lib : CryptoX509} {bech32 : Bech32} {ctx : Context} {s s' : Store} {u : Unit}

theorem decodeCert_eq_ok_iff {msg : MsgCert} {x : X509Certificate} :
    decodeCert lib msg = .ok x ↔ decodeX509Certificate lib msg.cert = .ok x := by
  unfold decodeCert
  cases decodeX509Certificate lib msg.cert <;> simp

theorem firstCert_eq_ok_iff {record : ApprovedCertificates} {first : Certificate} :
    firstCert record = .ok first ↔ ∃ rest, record.certs = first :: rest := by
  unfold firstCert
  cases record.certs <;> simp

theorem checkExisting_eq_ok_iff {existing : Option ApprovedCertificates} {x : X509Certificate}
    {signer : String} {differs : Certificate → Bool} :
    checkExisting existing x signer differs = .ok u ↔
      ∀ record, existing = some record → ∃ first rest, record.certs = first :: rest ∧
        differs first = false ∧ signer = first.owner := by
  unfold checkExisting firstCert
  -- no record, a record without certificates (the panic), and one that begins with `first`
  rcases existing with - | ⟨subject, subjectKeyId, - | ⟨first, rest⟩⟩
  · simp
  · simp
  · by_cases hd : differs first = true
    · simp [hd]
    · by_cases ho : signer = first.owner
      · simp [hd, ho]
      · simp [hd, ho]

/-- The comparison with the certificates stored under an identifier looks at the first of them. -/
theorem checkExisting_ok_iff_firstApproved {subject subjectKeyID signer : String}
    {x : X509Certificate} {differs : Certificate → Bool} {p : Certificate → Prop}
    (hp : ∀ first, differs first = false ∧ signer = first.owner ↔ p first) :
    checkExisting (s.getApprovedCertificates subject subjectKeyID) x signer differs = .ok u ↔
      FirstApproved s subject subjectKeyID p := by
  rw [checkExisting_eq_ok_iff]
  simp only [hp]
  rfl

/-- The comparison for a new root. -/
theorem checkExisting_root_iff {x : X509Certificate} {signer : String} :
    checkExisting (s.getApprovedCertificates x.subject x.subjectKeyID) x signer
        (fun first => !first.isRoot) = .ok u ↔
      FirstApproved s x.subject x.subjectKeyID fun first =>
        first.isRoot = true ∧ signer = first.owner :=
  checkExisting_ok_iff_firstApproved fun first => by simp

/-- The comparison for a new certificate that is not a root. -/
theorem checkExisting_cert_iff {x : X509Certificate} {signer : String} :
    checkExisting (s.getApprovedCertificates x.subject x.subjectKeyID) x signer (fun first =>
        first.isRoot || x.issuer != first.issuer || x.authorityKeyID != first.authorityKeyId) =
          .ok u ↔
      FirstApproved s x.subject x.subjectKeyID fun first =>
        (first.isRoot = false ∧ x.issuer = first.issuer ∧
          x.authorityKeyID = first.authorityKeyId) ∧ signer = first.owner :=
  checkExisting_ok_iff_firstApproved fun first => by simp [and_assoc]

theorem trusteeSigner_ok {message signer : String} {addr : AccAddress}
    (h : trusteeSigner bech32 ctx message signer s = some (.ok addr, s')) :
    bech32.accAddressFromBech32 signer = .ok addr ∧
      ctx.accounts.hasRole addr rootCertificateApprovalRole = true ∧ s = s' := by
  simp only [trusteeSigner, ofExcept_bind_ok_iff, failIf_bind_ok_iff, pure_ok_iff] at h
  obtain ⟨addr', hsigner, hrole, rfl, rfl⟩ := h
  exact ⟨Bech32.signer_eq_ok_iff.mp hsigner, by simpa using hrole, rfl⟩

theorem findProposedCertificate_ok {msg : MsgIdentifier} {r : AccAddress × ProposedCertificate}
    (h : findProposedCertificate bech32 ctx msg s = some (.ok r, s')) :
    ProposalVote bech32 ctx s msg r.1 r.2 ∧ s = s' := by
  obtain ⟨addr, s₁, h₁, h⟩ := bind_ok_iff.mp h
  obtain ⟨hsigner, hrole, rfl⟩ := trusteeSigner_ok h₁
  simp only [readSome_bind_ok_iff, failIf_bind_ok_iff, pure_ok_iff] at h
  obtain ⟨found, hfound, hreject, happroval, rfl, rfl⟩ := h
  exact ⟨⟨hsigner, hrole, hfound, by simpa using hreject, by simpa using happroval⟩, rfl⟩

/-! ## The handlers -/

theorem proposeAddX509RootCert_ok {fuel : ℕ} {msg : MsgCert}
    (h : proposeAddX509RootCert lib bech32 fuel ctx msg s = some (.ok u, s')) :
    Effect lib bech32 ctx s (.proposeAddX509RootCert msg) s' := by
  simp only [proposeAddX509RootCert, ofExcept_bind_ok_iff, failIf_bind_ok_iff, read_bind_ok_iff,
    ofOption_bind_ok_iff, write_bind_ok_iff, write_ok_iff] at h
  obtain ⟨x, hdecode, hself, hfree, hunique, root, hverify, _, hexisting, addr, hsigner, rfl⟩ := h
  refine Effect.proposed _ (decodeCert_eq_ok_iff.mp hdecode) (by simpa using hself) ?_ ?_ hverify
    (checkExisting_root_iff.mp hexisting) (Bech32.signer_eq_ok_iff.mp hsigner) rfl
  · exact KVStore.has_eq_false_iff.mp (Bool.eq_false_iff.mpr hfree)
  · exact KVStore.has_eq_false_iff.mp (Bool.eq_false_iff.mpr hunique)

theorem approveAddX509RootCert_ok {msg : MsgIdentifier}
    (h : approveAddX509RootCert bech32 ctx msg s = some (.ok u, s')) :
    Effect lib bech32 ctx s (.approveAddX509RootCert msg) s' := by
  obtain ⟨⟨addr, found⟩, s₁, h₁, h⟩ := bind_ok_iff.mp h
  obtain ⟨hvote, rfl⟩ := findProposedCertificate_ok h₁
  dsimp only at h
  rw [List.length_append, List.length_singleton] at h
  split at h
  · next hcount =>
    simp only [write_bind_ok_iff, write_ok_iff] at h
    obtain rfl := h
    exact Effect.activated _ hvote hcount rfl
  · next hcount =>
    obtain rfl := write_ok_iff.mp h
    exact Effect.approved hvote (not_le.mp hcount)

theorem rejectAddX509RootCert_ok {msg : MsgIdentifier}
    (h : rejectAddX509RootCert bech32 ctx msg s = some (.ok u, s')) :
    Effect lib bech32 ctx s (.rejectAddX509RootCert msg) s' := by
  obtain ⟨⟨addr, found⟩, s₁, h₁, h⟩ := bind_ok_iff.mp h
  obtain ⟨hvote, rfl⟩ := findProposedCertificate_ok h₁
  dsimp only at h
  rw [List.length_append, List.length_singleton] at h
  split at h
  · next hcount =>
    simp only [write_bind_ok_iff, write_ok_iff] at h
    obtain rfl := h
    exact Effect.discarded _ hvote hcount rfl
  · next hcount =>
    obtain rfl := write_ok_iff.mp h
    exact Effect.rejected hvote (not_le.mp hcount)

theorem addX509Cert_ok {fuel : ℕ} {msg : MsgCert}
    (h : addX509Cert lib fuel ctx msg s = some (.ok u, s')) :
    Effect lib bech32 ctx s (.addX509Cert msg) s' := by
  simp only [addX509Cert, ofExcept_bind_ok_iff, failIf_bind_ok_iff, read_bind_ok_iff,
    ofOption_bind_ok_iff, write_bind_ok_iff, write_ok_iff] at h
  obtain ⟨x, hdecode, hself, hunique, _, hexisting, root, hverify, rfl⟩ := h
  refine Effect.added _ (decodeCert_eq_ok_iff.mp hdecode) (by simpa using hself) ?_
    (checkExisting_cert_iff.mp hexisting) hverify rfl
  exact KVStore.has_eq_false_iff.mp (Bool.eq_false_iff.mpr hunique)

theorem proposeRevokeX509RootCert_ok {msg : MsgIdentifier}
    (h : proposeRevokeX509RootCert bech32 ctx msg s = some (.ok u, s')) :
    Effect lib bech32 ctx s (.proposeRevokeX509RootCert msg) s' := by
  obtain ⟨addr, s₁, h₁, h⟩ := bind_ok_iff.mp h
  obtain ⟨hsigner, hrole, rfl⟩ := trusteeSigner_ok h₁
  simp only [read_bind_ok_iff, failIf_bind_ok_iff, readSome_bind_ok_iff, ofExcept_bind_ok_iff,
    write_ok_iff, firstCert_eq_ok_iff] at h
  obtain ⟨hfree, record, hrecord, first, ⟨rest, hcerts⟩, hroot, rfl⟩ := h
  exact Effect.revocationProposed hsigner hrole
    (KVStore.has_eq_false_iff.mp (Bool.eq_false_iff.mpr hfree)) hrecord hcerts (by simpa using hroot)

/-- An approval of a revocation that succeeds: the vote is stored, or it is the last one and the record
is revoked. -/
theorem approveRevokeX509RootCert_cases {fuel : ℕ} {msg : MsgIdentifier}
    (h : approveRevokeX509RootCert bech32 fuel ctx msg s = some (.ok u, s')) :
    ∃ addr found, RevocationVote bech32 ctx s msg addr found ∧
      ((found.approvals.length + 1 < certificateApprovalsCount ctx.accounts ∧
          s' = s.setProposedCertificateRevocation
            { found with approvals := found.approvals ++ [grantOf bech32 msg addr] }) ∨
        (certificateApprovalsCount ctx.accounts ≤ found.approvals.length + 1 ∧
          ∃ record t, s.approvedCertificates.get (pairKey msg.subject msg.subjectKeyId) = some record ∧
            revokeChildCertificates fuel msg.subject msg.subjectKeyId
              ((s.addRevokedCertificates (assignApprovals
                (found.approvals ++ [grantOf bech32 msg addr]) record)).removeApprovedCertificates
                  msg.subject msg.subjectKeyId) = some t ∧
            s' = (((t.removeProposedCertificateRevocation msg.subject
              msg.subjectKeyId).removeApprovedRootCertificate
                ⟨msg.subject, msg.subjectKeyId⟩).addRevokedRootCertificate
                  ⟨msg.subject, msg.subjectKeyId⟩).removeApprovedCertificateBySubject
                    msg.subject msg.subjectKeyId)) := by
  obtain ⟨addr, s₁, h₁, h⟩ := bind_ok_iff.mp h
  obtain ⟨hsigner, hrole, rfl⟩ := trusteeSigner_ok h₁
  simp only [readSome_bind_ok_iff, failIf_bind_ok_iff, List.length_append,
    List.length_singleton] at h
  obtain ⟨found, hfound, happroval, h⟩ := h
  refine ⟨addr, found, ⟨hsigner, hrole, hfound, by simpa using happroval⟩, ?_⟩
  split at h
  · next hcount =>
    simp only [readSome_bind_ok_iff, write_bind_ok_iff, transform_bind_ok_iff, write_ok_iff] at h
    obtain ⟨record, hrecord, t, ht, rfl⟩ := h
    exact Or.inr ⟨hcount, record, t, hrecord, ht, rfl⟩
  · next hcount =>
    obtain rfl := write_ok_iff.mp h
    exact Or.inl ⟨not_le.mp hcount, rfl⟩

theorem approveRevokeX509RootCert_ok {fuel : ℕ} {msg : MsgIdentifier}
    (h : approveRevokeX509RootCert bech32 fuel ctx msg s = some (.ok u, s')) :
    Effect lib bech32 ctx s (.approveRevokeX509RootCert msg) s' := by
  rcases approveRevokeX509RootCert_cases h with
    ⟨addr, found, hvote, ⟨hcount, rfl⟩ | ⟨hcount, record, t, hrecord, ht, rfl⟩⟩
  · exact Effect.revocationApproved hvote hcount
  · exact Effect.rootRevoked _ t hvote rfl hcount hrecord ht

/-- A revocation that succeeds. -/
theorem revokeX509Cert_cases {fuel : ℕ} {msg : MsgIdentifier}
    (h : revokeX509Cert fuel msg s = some (.ok u, s')) :
    ∃ record first rest t,
      s.approvedCertificates.get (pairKey msg.subject msg.subjectKeyId) = some record ∧
      record.certs = first :: rest ∧ first.isRoot = false ∧ msg.signer = first.owner ∧
      revokeChildCertificates fuel msg.subject msg.subjectKeyId
        (((s.addRevokedCertificates record).removeApprovedCertificates
          msg.subject msg.subjectKeyId).removeChildCertificate first.issuer first.authorityKeyId
            ⟨msg.subject, msg.subjectKeyId⟩) = some t ∧
      s' = t.removeApprovedCertificateBySubject msg.subject msg.subjectKeyId := by
  simp only [revokeX509Cert, readSome_bind_ok_iff, ofExcept_bind_ok_iff, failIf_bind_ok_iff,
    write_bind_ok_iff, transform_bind_ok_iff, write_ok_iff, firstCert_eq_ok_iff] at h
  obtain ⟨record, hrecord, first, ⟨rest, hcerts⟩, hroot, howner, t, ht, rfl⟩ := h
  exact ⟨record, first, rest, t, hrecord, hcerts, by simpa using hroot, not_not.mp howner, ht, rfl⟩

theorem revokeX509Cert_ok {fuel : ℕ} {msg : MsgIdentifier}
    (h : revokeX509Cert fuel msg s = some (.ok u, s')) :
    Effect lib bech32 ctx s (.revokeX509Cert msg) s' := by
  obtain ⟨record, first, rest, t, hrecord, hcerts, hnot, howner, ht, rfl⟩ := revokeX509Cert_cases h
  exact Effect.revoked t hrecord hcerts hnot howner ht

/-- **Every step is an effect.** -/
theorem step_effect {a : Context × Msg} (h : (certificates lib bech32).step s a s') :
    Effect lib bech32 a.1 s a.2 s' := by
  obtain ⟨fuel, r, hd⟩ := h
  -- a failed handler may have written, but the delivery drops it
  rcases deliver_cases hd with ⟨u, -, hok⟩ | ⟨-, rfl⟩
  · obtain ⟨ctx, msg⟩ := a
    cases msg with
    | proposeAddX509RootCert msg => exact proposeAddX509RootCert_ok hok
    | approveAddX509RootCert msg => exact approveAddX509RootCert_ok hok
    | rejectAddX509RootCert msg => exact rejectAddX509RootCert_ok hok
    | addX509Cert msg => exact addX509Cert_ok hok
    | proposeRevokeX509RootCert msg => exact proposeRevokeX509RootCert_ok hok
    | approveRevokeX509RootCert msg => exact approveRevokeX509RootCert_ok hok
    | revokeX509Cert msg => exact revokeX509Cert_ok hok
  · exact Effect.refused _

end Inversion

end ComplianceLedger.Pki
