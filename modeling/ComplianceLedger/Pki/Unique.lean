import ComplianceLedger.Machine.Registry
import ComplianceLedger.Pki.Index

/-!
# Accepted certificates

A certificate that is accepted is proposed, approved or revoked, and the ledger registers its issuer
and serial number. The certificate is moved from record to record, and its pair is registered and
released, by separate updates in different handlers; together they are a registry. No two accepted
certificates have the same pair, the pairs registered are those of the accepted certificates, and a
certificate that has been revoked stays revoked.

## Main definitions

* `Accepted`: the text, the issuer and the serial number of a certificate
* `Store.accepted`: the certificates that are proposed, approved or revoked
* `Change`: what a message does to the accepted certificates and to the pairs registered

## Main results

* `change_of_effect`: every message keeps the accepted certificates, adds one, or discards one
* `registered_of_reachable`: the pairs registered are those of the accepted certificates
* `accepted_once`: the contract of the registry, over every run
-/

open Machine Machine.TransitionSystem

namespace ComplianceLedger.Pki

/-- The text, the issuer and the serial number of a certificate. -/
structure Accepted where
  pemCert : String
  issuer : String
  serialNumber : String
deriving DecidableEq, Repr

/-- The issuer and the serial number. -/
def Accepted.pair (cert : Accepted) : String × String := (cert.issuer, cert.serialNumber)

/-- A root certificate is stored without its issuer, which is its subject. -/
def Certificate.accepted (cert : Certificate) : Accepted :=
  ⟨cert.pemCert, if cert.isRoot then cert.subject else cert.issuer, cert.serialNumber⟩

def ProposedCertificate.accepted (proposed : ProposedCertificate) : Accepted :=
  ⟨proposed.pemCert, proposed.subject, proposed.serialNumber⟩

namespace Store

/-- The certificates of all approved records. -/
def allApproved (s : Store) : List Certificate :=
  s.approvedCertificates.values.flatMap ApprovedCertificates.certs

/-- The certificates of all revoked records. -/
def allRevoked (s : Store) : List Certificate :=
  s.revokedCertificates.values.flatMap ApprovedCertificates.certs

/-- The certificates that are proposed. -/
def pending (s : Store) : List Accepted :=
  s.proposedCertificate.values.map ProposedCertificate.accepted

/-- The certificates that are approved or revoked. -/
def held (s : Store) : List Accepted := (s.allApproved ++ s.allRevoked).map Certificate.accepted

/-- The certificates that are proposed, approved or revoked. -/
def accepted (s : Store) : List Accepted := s.pending ++ s.held

/-- The pairs with a decimal serial number that are registered. -/
def Taken (s : Store) (pair : String × String) : Prop :=
  IsDecimal pair.2 ∧ s.isUniqueCertificatePresent pair.1 pair.2 = true

end Store

section Definitions

variable (bech32 : Bech32) (ctx : Context) (s : Store) (msg : Msg)

/-- The message is the vote that completes the rejection of the certificate. -/
def Discards (cert : Accepted) : Prop :=
  ∃ m addr found, msg = .rejectAddX509RootCert m ∧ ProposalVote bech32 ctx s m addr found ∧
    certificateRejectApprovalsCount ctx.accounts ≤ found.rejects.length + 1 ∧
    found.accepted = cert

/-- **What a message does to the accepted certificates**, and to the pairs registered. -/
inductive Change (s' : Store) : Prop
  | kept (perm : s'.accepted.Perm s.accepted)
      (unique : s'.uniqueCertificate = s.uniqueCertificate)
  | added (cert : Accepted) (decimal : IsDecimal cert.serialNumber)
      (free : s.uniqueCertificate.get (pairKey cert.issuer cert.serialNumber) = none)
      (perm : s'.accepted.Perm (cert :: s.accepted))
      (unique : s'.uniqueCertificate = s.uniqueCertificate.set
        (pairKey cert.issuer cert.serialNumber) ⟨cert.issuer, cert.serialNumber, true⟩)
  | discarded (cert : Accepted) (vote : Discards bech32 ctx s msg cert)
      (perm : s.accepted.Perm (cert :: s'.accepted))
      (unique : s'.uniqueCertificate =
        s.uniqueCertificate.delete (pairKey cert.issuer cert.serialNumber))

end Definitions

variable {lib : CryptoX509} {bech32 : Bech32} {ctx : Context} {s s' : Store} {msg : Msg}

/-! ## Certificates and their texts -/

/-- The pair of a stored certificate is that of its text. -/
theorem Reads.accepted {cert : Certificate} {x : X509Certificate} (h : Reads lib cert x) :
    cert.accepted = ⟨cert.pemCert, x.issuer, x.serialNumber⟩ := by
  unfold Certificate.accepted
  rw [h.serialNumber]
  cases hroot : cert.isRoot with
  | false => simp [(h.issuer hroot).1]
  | true => simp [h.subject, X509Certificate.issuer_eq_subject (h.isRoot.symm.trans hroot)]

theorem ReadsProposal.accepted {proposed : ProposedCertificate} {x : X509Certificate}
    (h : ReadsProposal lib proposed x) :
    proposed.accepted = ⟨proposed.pemCert, x.issuer, x.serialNumber⟩ := by
  rw [ProposedCertificate.accepted, h.subject, h.serialNumber,
    X509Certificate.issuer_eq_subject h.self_signed]

/-- The approvals of a revocation change neither the text nor the pair. -/
theorem accepted_assignApprovals (approvals : List Grant) (record : ApprovedCertificates) :
    (assignApprovals approvals record).certs.map Certificate.accepted =
      record.certs.map Certificate.accepted := by
  unfold assignApprovals
  rw [List.map_map]
  apply List.map_congr_left
  intro cert _
  dsimp only [Function.comp_apply]
  split <;> rfl

/-- The accepted certificate of a text. -/
def Certifies (lib : CryptoX509) (cert : Accepted) : Prop :=
  ∃ x, decodeX509Certificate lib cert.pemCert = .ok x ∧ cert.pair = (x.issuer, x.serialNumber)

theorem Certifies.pair_eq {cert cert' : Accepted} (h : Certifies lib cert)
    (h' : Certifies lib cert') (hpem : cert.pemCert = cert'.pemCert) : cert.pair = cert'.pair := by
  obtain ⟨x, hx, hpair⟩ := h
  obtain ⟨x', hx', hpair'⟩ := h'
  rw [hpem, hx'] at hx
  obtain rfl := Except.ok.inj hx
  rw [hpair, hpair']

theorem mem_allApproved_iff {cert : Certificate} :
    cert ∈ s.allApproved ↔ ∃ k, cert ∈ s.approvedCerts k := by
  simp only [approvedCerts_eq_listAt]
  exact KVStore.mem_flatMap_values_iff

theorem mem_allRevoked_iff {cert : Certificate} :
    cert ∈ s.allRevoked ↔ ∃ k, cert ∈ s.revokedCerts k :=
  KVStore.mem_flatMap_values_iff

/-- Every accepted certificate has the pair of its text. -/
theorem certifies_of_mem (h : Records lib s) {cert : Accepted} (hcert : cert ∈ s.accepted) :
    Certifies lib cert := by
  rcases List.mem_append.mp hcert with hcert | hcert
  · obtain ⟨proposed, hmem, rfl⟩ := List.mem_map.mp hcert
    obtain ⟨k, hget⟩ := KVStore.mem_values_iff.mp hmem
    obtain ⟨-, x, hx⟩ := h.proposed k proposed hget
    exact ⟨x, hx.decode, by rw [hx.accepted]; rfl⟩
  · obtain ⟨c, hmem, rfl⟩ := List.mem_map.mp hcert
    have hreads : ∃ x, Reads lib c x := by
      rcases List.mem_append.mp hmem with hmem | hmem
      · obtain ⟨k, hk⟩ := mem_allApproved_iff.mp hmem
        exact (h.of_mem_approvedCerts hk).2
      · obtain ⟨k, hk⟩ := mem_allRevoked_iff.mp hmem
        exact (h.of_mem_revokedCerts hk).2
    obtain ⟨x, hx⟩ := hreads
    exact ⟨x, hx.decode, by rw [hx.accepted]; rfl⟩

/-! ## Approved and revoked certificates -/

/-- A certificate that is approved is held. -/
theorem held_addApprovedCertificate (h : Records lib s) {cert : Certificate} {x : X509Certificate}
    (hcert : Reads lib cert x) :
    (s.addApprovedCertificate cert).held.Perm (cert.accepted :: s.held) := by
  have happroved : (s.addApprovedCertificate cert).allApproved.Perm (s.allApproved ++ [cert]) := by
    unfold Store.allApproved
    rw [h.addApprovedCertificate_eq hcert]
    apply KVStore.flatMap_values_append
    rw [approvedCerts_eq_listAt]
  have hall : ((s.addApprovedCertificate cert).allApproved ++ s.allRevoked).Perm
      (cert :: (s.allApproved ++ s.allRevoked)) := by
    refine (happroved.append_right _).trans ?_
    rw [List.append_assoc]
    exact List.perm_middle
  exact hall.map Certificate.accepted

/-- Certificates that are moved to the revoked ones are held as before. -/
theorem held_retire (h : Records lib s) {approved : ApprovedCertificates}
    (hwf : approved.WellFormed lib) (subject subjectKeyID : String)
    (hcerts : approved.certs.map Certificate.accepted =
      (s.approvedCerts (pairKey subject subjectKeyID)).map Certificate.accepted) :
    ((s.addRevokedCertificates approved).removeApprovedCertificates subject
      subjectKeyID).held.Perm s.held := by
  have hrevoked : (s.addRevokedCertificates approved).allRevoked.Perm
      (s.allRevoked ++ approved.certs) := by
    unfold Store.allRevoked
    rw [h.addRevokedCertificates_eq hwf]
    exact KVStore.flatMap_values_append _ _ _ rfl
  have happroved : s.allApproved.Perm (s.approvedCerts (pairKey subject subjectKeyID) ++
      (s.removeApprovedCertificates subject subjectKeyID).allApproved) := by
    rw [approvedCerts_eq_listAt]
    exact KVStore.flatMap_values_perm _ _ _
  have hr := hrevoked.map Certificate.accepted
  have ha := happroved.map Certificate.accepted
  rw [List.map_append] at hr ha
  rw [hcerts] at hr
  unfold Store.held
  rw [List.map_append, List.map_append]
  change (List.map _ (s.removeApprovedCertificates subject subjectKeyID).allApproved ++
    List.map _ (s.addRevokedCertificates approved).allRevoked).Perm _
  -- the certificates leave the front of one list for the end of the other
  refine (hr.append_left _).trans (.trans ?_ (ha.symm.append_right _))
  rw [← List.append_assoc]
  exact List.perm_append_comm.trans (by rw [List.append_assoc])

/-- A cascade keeps what is held. -/
theorem held_of_revokeChildCertificates {fuel : ℕ} {issuer authorityKeyID : String} {t : Store}
    (h : Records lib s) (ht : revokeChildCertificates fuel issuer authorityKeyID s = some t) :
    t.held.Perm s.held := by
  rw [revokeChildCertificates_eq_cascade] at ht
  have hrel := cascade_rel (R := fun s t => Records lib s → Records lib t ∧ t.held.Perm s.held)
    (fun s h => ⟨h, .refl _⟩) ?_ ?_ ?_ ht h
  · exact hrel.2
  · intro s₁ s₂ s₃ h₁₂ h₂₃ h₁
    obtain ⟨h₂, hp⟩ := h₁₂ h₁
    obtain ⟨h₃, hp'⟩ := h₂₃ h₂
    exact ⟨h₃, hp'.trans hp⟩
  · intro certID s h
    refine ⟨h.revokeChild certID, ?_⟩
    exact held_retire h (h.wellFormed_approvedAt certID.key) certID.subject certID.subjectKeyId rfl
  · exact fun k s h => ⟨h.dropChildren k, .refl _⟩

/-! ## Proposed certificates -/

/-- A proposal under a free key is pending. -/
theorem pending_propose {proposed : ProposedCertificate}
    (hfree : s.proposedCertificate.get (pairKey proposed.subject proposed.subjectKeyId) = none) :
    (s.setProposedCertificate proposed).pending.Perm (proposed.accepted :: s.pending) := by
  have hset := KVStore.values_set_perm s.proposedCertificate
    (pairKey proposed.subject proposed.subjectKeyId) proposed
  rw [KVStore.delete_of_get_none hfree] at hset
  exact hset.map ProposedCertificate.accepted

/-- The proposal under a key leaves. -/
theorem pending_remove {subject subjectKeyID : String} {found : ProposedCertificate}
    (hget : s.proposedCertificate.get (pairKey subject subjectKeyID) = some found) :
    s.pending.Perm
      (found.accepted :: (s.removeProposedCertificate subject subjectKeyID).pending) :=
  (KVStore.values_perm_of_get hget).map ProposedCertificate.accepted

/-- A vote on a proposal keeps what is pending. -/
theorem pending_vote {found proposed : ProposedCertificate}
    (hget : s.proposedCertificate.get (pairKey proposed.subject proposed.subjectKeyId) = some found)
    (hsame : proposed.accepted = found.accepted) :
    (s.setProposedCertificate proposed).pending.Perm s.pending := by
  have hset := (KVStore.values_set_perm s.proposedCertificate
    (pairKey proposed.subject proposed.subjectKeyId) proposed).map ProposedCertificate.accepted
  rw [List.map_cons, hsame] at hset
  exact hset.trans (pending_remove hget).symm

/-! ## Messages -/

theorem Change.vote {m : MsgIdentifier} {addr : AccAddress} {found : ProposedCertificate}
    (h : Records lib s) (hvote : ProposalVote bech32 ctx s m addr found)
    (approvals rejects : List Grant) :
    Change bech32 ctx s msg
      (s.setProposedCertificate { found with approvals := approvals, rejects := rejects }) := by
  refine .kept ?_ rfl
  have hget := hvote.proposal
  rw [hvote.key h] at hget
  have hpending : (s.setProposedCertificate
      { found with approvals := approvals, rejects := rejects }).pending.Perm s.pending :=
    pending_vote hget rfl
  exact hpending.append_right s.held

theorem Change.moved (hproposed : s'.proposedCertificate = s.proposedCertificate)
    (hunique : s'.uniqueCertificate = s.uniqueCertificate) (hheld : s'.held.Perm s.held) :
    Change bech32 ctx s msg s' := by
  refine .kept ?_ hunique
  unfold Store.accepted Store.pending
  rw [hproposed]
  exact hheld.append_left _

/-- **Every message keeps the accepted certificates, adds one, or discards one.** -/
theorem change_of_effect (h : Records lib s) (he : Effect lib bech32 ctx s msg s') :
    Change bech32 ctx s msg s' := by
  cases he with
  | refused => exact .kept (.refl _) rfl
  | @proposed m x fuel root addr approvals hdecode hself hfree hunique =>
    have hreads := readsProposal_proposalOf approvals hdecode hself
    refine .added ⟨m.cert, x.issuer, x.serialNumber⟩ (decode_spec hdecode).serialNumber hunique ?_
      rfl
    have hpending : (s.setProposedCertificate (proposalOf m x approvals)).pending.Perm
        ((proposalOf m x approvals).accepted :: s.pending) := pending_propose hfree
    rw [hreads.accepted] at hpending
    exact hpending.append_right s.held
  | approved hvote => exact .vote h hvote _ _
  | rejected hvote => exact .vote h hvote _ _
  | @discarded m addr found record hvote hcount =>
    refine .discarded found.accepted ⟨m, addr, found, rfl, hvote, hcount, rfl⟩ ?_ rfl
    exact (pending_remove hvote.proposal).append_right s.held
  | @activated m addr found cert hvote _ hcert =>
    obtain ⟨⟨x, hreads⟩, -⟩ := hvote.reads_cert h hcert
    have hsame : cert.accepted = found.accepted := by rw [hcert]; rfl
    have hheld := held_addApprovedCertificate h hreads
    rw [hsame] at hheld
    refine .kept ?_ rfl
    -- the certificate leaves the proposals for the approved certificates
    refine (hheld.append_left _).trans (List.perm_middle.trans ?_)
    exact ((pending_remove hvote.proposal).append_right s.held).symm
  | @added m x fuel root cert hdecode hnot hunique _ _ hcert =>
    subst hcert
    have hreads := reads_certificateOf root hdecode hnot
    have hheld := held_addApprovedCertificate h hreads
    rw [hreads.accepted] at hheld
    refine .added ⟨m.cert, x.issuer, x.serialNumber⟩ (decode_spec hdecode).serialNumber hunique ?_
      rfl
    exact (hheld.append_left s.pending).trans List.perm_middle
  | revocationProposed => exact .kept (.refl _) rfl
  | revocationApproved => exact .kept (.refl _) rfl
  | @rootRevoked m addr found record fuel approvals t _ _ _ hget ht =>
    obtain ⟨-, hrev, -⟩ := revocation_of_rootRevoked h hget ht
    have hwf := wellFormed_assignApprovals approvals (h.approved _ _ hget).2.1
    refine .moved hrev.proposed hrev.unique ?_
    refine (held_of_revokeChildCertificates
      ((h.addRevokedCertificates hwf).removeApprovedCertificates _ _) ht).trans ?_
    apply held_retire h hwf
    rw [accepted_assignApprovals, approvedCerts_of_get hget]
  | @revoked m record first rest fuel t hget _ _ _ ht =>
    obtain ⟨-, hrev, -⟩ := revocation_of_revoked h hget ht
    have hwf := (h.approved _ _ hget).2.1
    refine .moved hrev.proposed hrev.unique ?_
    refine (held_of_revokeChildCertificates (((h.addRevokedCertificates
      hwf).removeApprovedCertificates _ _).removeChildCertificate _ _ _) ht).trans ?_
    apply held_retire h hwf
    rw [approvedCerts_of_get hget]

/-! ## The registry -/

theorem taken_iff_get {issuer serialNumber : String} :
    s.Taken (issuer, serialNumber) ↔ IsDecimal serialNumber ∧
      s.uniqueCertificate.get (pairKey issuer serialNumber) ≠ none :=
  and_congr_right fun _ => by
    rw [Store.isUniqueCertificatePresent, KVStore.has_iff, Option.ne_none_iff_exists']

/-- Pairs with decimal serial numbers have different keys. -/
theorem pairKey_eq_iff_pair {issuer serialNumber : String} {cert : Accepted}
    (hdecimal : IsDecimal serialNumber) (hcert : IsDecimal cert.serialNumber) :
    pairKey issuer serialNumber = pairKey cert.issuer cert.serialNumber ↔
      (issuer, serialNumber) = cert.pair := by
  rw [pairKey_eq_iff hdecimal.slashFree hcert.slashFree, Accepted.pair, Prod.mk.injEq]

/-- The pairs registered are those of the accepted certificates. -/
abbrev Store.Registry (s : Store) : Prop := Registered Accepted.pair s.accepted s.Taken

/-- **One step keeps the registry.** -/
theorem registered_step (hreg : s.Registry)
    (hchange : Change bech32 ctx s msg s') : s'.Registry := by
  cases hchange with
  | kept hperm hunique =>
    have htaken : s'.Taken = s.Taken := by
      unfold Store.Taken Store.isUniqueCertificatePresent
      rw [hunique]
    unfold Store.Registry
    rw [htaken]
    exact hreg.perm hperm
  | added cert hdecimal hfree hperm hunique =>
    refine (hreg.register (a := cert) ?_ ?_).perm hperm
    · exact fun htaken => (taken_iff_get.mp htaken).2 hfree
    · rintro ⟨issuer, serialNumber⟩
      rw [taken_iff_get, taken_iff_get, hunique, KVStore.get_set]
      by_cases hdec : IsDecimal serialNumber
      · by_cases hkey : pairKey issuer serialNumber = pairKey cert.issuer cert.serialNumber
        · simp [hkey, hdec, (pairKey_eq_iff_pair hdec hdecimal).mp hkey]
        · have hne := mt (pairKey_eq_iff_pair hdec hdecimal).mpr hkey
          simp [hkey, hdec, hne]
      · have hne : (issuer, serialNumber) ≠ cert.pair := by
          intro heq
          exact hdec ((Prod.mk.inj heq).2 ▸ hdecimal)
        simp [hdec, hne]
  | discarded cert _ hperm hunique =>
    have hmem : cert ∈ s.accepted := hperm.mem_iff.mpr List.mem_cons_self
    -- the certificate was registered, so that its serial number is decimal
    have hdecimal : IsDecimal cert.serialNumber :=
      ((hreg.taken_iff cert.pair).mpr (List.mem_map_of_mem hmem)).1
    refine (hreg.perm hperm.symm).release ?_
    rintro ⟨issuer, serialNumber⟩
    rw [taken_iff_get, taken_iff_get, hunique, KVStore.get_delete]
    by_cases hdec : IsDecimal serialNumber
    · have hkey : pairKey issuer serialNumber = pairKey cert.issuer cert.serialNumber ↔
          (issuer, serialNumber) = cert.pair := pairKey_eq_iff_pair hdec hdecimal
      by_cases heq : (issuer, serialNumber) = cert.pair
      · simp [hkey.mpr heq, heq]
      · simp [mt hkey.mp heq, heq]
    · simp [hdec]

theorem registered_empty : Store.empty.Registry :=
  Registered.nil fun _ htaken => nomatch htaken.2

/-- **The pairs registered are those of the accepted certificates**, in every run. -/
theorem registered_of_reachable (h : Reachable (certificates lib bech32) s) : s.Registry := by
  have hboth : WellFormed lib s ∧ s.Registry := by
    refine h.invariant (P := fun s => WellFormed lib s ∧ s.Registry)
      ⟨wellFormed_empty, registered_empty⟩ ?_
    rintro s a s' ⟨hwf, hreg⟩ hstep
    have he := step_effect hstep
    exact ⟨wellFormed_step hwf he,
      registered_step hreg (change_of_effect hwf.records he)⟩
  exact hboth.2

/-! ## Revoked certificates -/

/-- The lists of revoked certificates have only grown. -/
def Grows (s s' : Store) : Prop := ∀ k, s.revokedCerts k <+: s'.revokedCerts k

theorem Grows.refl (s : Store) : Grows s s := fun _ => List.prefix_rfl

theorem Grows.trans {s₁ s₂ s₃ : Store} (h : Grows s₁ s₂) (h' : Grows s₂ s₃) : Grows s₁ s₃ :=
  fun k => (h k).trans (h' k)

/-- A revocation appends to the revoked certificates. -/
theorem Revocation.grows {k : Bytes} {f : Certificate → Certificate} (h : Revocation k f s s') :
    Grows s s' := by
  intro k'
  rcases h.moved k' with ⟨-, hkept⟩ | ⟨-, hmoved⟩
  · rw [hkept]
  · rw [hmoved]
    exact List.prefix_append _ _

theorem grows_of_effect (h : Records lib s) (he : Effect lib bech32 ctx s msg s') : Grows s s' := by
  cases he with
  | rootRevoked approvals t _ _ _ hget ht =>
    exact (revocation_of_rootRevoked h hget ht).2.1.grows
  | revoked t hget _ _ _ ht => exact (revocation_of_revoked h hget ht).2.1.grows
  | _ => exact Grows.refl s

theorem grows_of_reaches (h : Reachable (certificates lib bech32) s)
    (hs : (certificates lib bech32).Reaches s s') : Grows s s' :=
  Reaches.rel Grows.refl Grows.trans
    (fun hreach hstep => grows_of_effect (wellFormed_of_reachable hreach).records
      (step_effect hstep)) h hs

/-- A revoked certificate is neither proposed nor approved, nor is another of its pair or text. -/
theorem not_accepted_of_revoked (h : Reachable (certificates lib bech32) s) {k : Bytes}
    {cert : Certificate} (hcert : cert ∈ s.revokedCerts k) {other : Accepted}
    (hother : other ∈ s.pending ++ s.allApproved.map Certificate.accepted) :
    other.pair ≠ cert.accepted.pair ∧ other.pemCert ≠ cert.pemCert := by
  have hsplit : s.accepted = (s.pending ++ s.allApproved.map Certificate.accepted) ++
      s.allRevoked.map Certificate.accepted := by
    rw [Store.accepted, Store.held, List.map_append, List.append_assoc]
  have hrevoked : cert.accepted ∈ s.allRevoked.map Certificate.accepted :=
    List.mem_map_of_mem (mem_allRevoked_iff.mpr ⟨k, hcert⟩)
  have hreg := registered_of_reachable h
  unfold Store.Registry at hreg
  rw [hsplit] at hreg
  have hne := hreg.key_ne hother hrevoked
  refine ⟨hne, fun hpem => hne ?_⟩
  -- one text has one pair
  have hrecords := (wellFormed_of_reachable h).records
  apply (certifies_of_mem hrecords _).pair_eq (certifies_of_mem hrecords _) hpem
  · rw [hsplit]
    exact List.mem_append_left _ hother
  · rw [hsplit]
    exact List.mem_append_right _ hrevoked

/-- A certificate is lost only by the vote that completes its rejection. -/
theorem Change.accepted_or_discards (h : Change bech32 ctx s msg s') {cert : Accepted}
    (hcert : cert ∈ s.accepted) : cert ∈ s'.accepted ∨ Discards bech32 ctx s msg cert := by
  cases h with
  | kept hperm => exact Or.inl (hperm.mem_iff.mpr hcert)
  | added _ _ _ hperm => exact Or.inl (hperm.mem_iff.mpr (List.mem_cons_of_mem _ hcert))
  | discarded _ hvote hperm =>
    rcases List.mem_cons.mp (hperm.mem_iff.mp hcert) with rfl | hcert
    · exact Or.inr hvote
    · exact Or.inl hcert

/-- **Certificates are accepted once.** In every run, no pair of an issuer and a serial number
occurs twice among the certificates that are proposed, approved or revoked, and the pairs with a
decimal serial number that are registered are theirs. The lists of revoked certificates only grow,
and what has been revoked is never proposed or approved again, neither under its pair nor with its
text. A certificate is lost only by the vote that completes its rejection, and an approved record
has a first certificate. -/
theorem accepted_once (h : Reachable (certificates lib bech32) s) :
    (s.accepted.map Accepted.pair).Nodup ∧
    (∀ issuer serialNumber, (issuer, serialNumber) ∈ s.accepted.map Accepted.pair ↔
      IsDecimal serialNumber ∧ s.isUniqueCertificatePresent issuer serialNumber = true) ∧
    (∀ s', (certificates lib bech32).Reaches s s' → ∀ k,
      s.revokedCerts k <+: s'.revokedCerts k ∧
      ∀ cert ∈ s.revokedCerts k,
        ∀ other ∈ s'.pending ++ s'.allApproved.map Certificate.accepted,
          other.pair ≠ cert.accepted.pair ∧ other.pemCert ≠ cert.pemCert) ∧
    (∀ a s', (certificates lib bech32).step s a s' → ∀ cert ∈ s.accepted,
      cert ∈ s'.accepted ∨ Discards bech32 a.1 s a.2 cert) ∧
    (∀ k record, s.approvedCertificates.get k = some record → record.certs ≠ []) := by
  have hrecords := (wellFormed_of_reachable h).records
  have hreg := registered_of_reachable h
  refine ⟨hreg.nodup, fun issuer serialNumber => (hreg.taken_iff _).symm, ?_, ?_, ?_⟩
  · intro s' hs k
    have hgrows := grows_of_reaches h hs k
    refine ⟨hgrows, fun cert hcert other hother => ?_⟩
    exact not_accepted_of_revoked (h.reaches hs) (hgrows.subset hcert) hother
  · intro a s' hstep cert hcert
    exact (change_of_effect hrecords (step_effect hstep)).accepted_or_discards hcert
  · exact fun k record hget => (hrecords.approved k record hget).2.2

/-- The root and the leaf of the example, and the revocation of both. -/
def exampleAllRevoked : List (Context × Msg) :=
  exampleLeaf ++ [exampleProposeRevoke "cosmos1one" "Ug==" "01",
    exampleApproveRevoke "cosmos1two" "Ug==" "01"]

/-- The root of the example and its leaf, once revoked, are not proposed or approved again. -/
theorem example_revoked_for_good : ∃ s, Reachable (certificates exampleLib Dclauth.exampleCodec) s ∧
    s.accepted.map Accepted.pair = [("Ug==", "1"), ("Ug==", "2")] ∧
    (s.accepted.map Accepted.pair).Nodup ∧
    s.isUniqueCertificatePresent "Ug==" "2" = true ∧
    ∀ s', (certificates exampleLib Dclauth.exampleCodec).Reaches s s' →
      ∀ cert ∈ s.revokedCerts (pairKey "Uw==" "02"),
        cert ∈ s'.revokedCerts (pairKey "Uw==" "02") := by
  obtain ⟨s, hs, hp⟩ := exists_reachable_of_foldlM
    (T := certificates exampleLib Dclauth.exampleCodec)
    (p := fun s => s.accepted.map Accepted.pair == [("Ug==", "1"), ("Ug==", "2")])
    (deliverMsg exampleLib Dclauth.exampleCodec 5) step_of_deliverMsg exampleAllRevoked
    (by decide +kernel)
  have hpairs := eq_of_beq hp
  obtain ⟨hnodup, htaken, hlater, -⟩ := accepted_once hs
  refine ⟨s, hs, hpairs, hnodup, ?_, ?_⟩
  · refine ((htaken "Ug==" "2").mp ?_).2
    rw [hpairs]
    decide
  · exact fun s' hs' cert hcert => (hlater s' hs' _).1.subset hcert

end ComplianceLedger.Pki
