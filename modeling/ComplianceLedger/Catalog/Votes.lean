import ComplianceLedger.Catalog.Effect
import ComplianceLedger.Ledger.Polls
import ComplianceLedger.Pki.Thresholds

/-!
# Where votes come from

The votes of the trustees are kept in the records that they are about: with the pending record, and
then with the approved, the rejected or the revoked one. The records name the voters, and nothing else
of the messages that the votes came with. In every run a vote in a record can be traced back: it was
cast by a message about the same subject, which was accepted when its signer, whom the vote names, was
a trustee. And no account votes twice on a record, for or against; only the approvals of the revocation
of a certificate do not keep to this, since the first of them is recorded as it was spelled.

## Main definitions

* `Topic`: what votes are about
* `Msg.ballot env`: what a message is a vote on, and whether for or against
* `Bech32.CastBy accounts signer grant`: the vote names the signer, a trustee
* `Dclauth.Authentic`, `Pki.Authentic`, `Validators.Authentic`, `Dclupgrade.Authentic`: the votes in the
  records of a module come from different voters, and each has a cause
* `Cause env history topic approves grant`: the message that a vote was cast by

## Main results

* `Dclauth.Authentic.step`, …: the votes that a message records
* `votes_cast`: every vote in a record was cast by a trustee
-/

open Machine Machine.Handler Machine.TransitionSystem

namespace ComplianceLedger

/-- What votes are about. Accounts and certificates are named by the keys of their records. -/
inductive Topic
  | account (key : Bytes)
  | accountRevocation (key : Bytes)
  | certificate (key : Bytes)
  | certificateRevocation (key : Bytes)
  | validator (address : String)
  | upgrade (name : String)
deriving DecidableEq

/-- The vote names the account, however it is spelled. -/
def Bech32.Names (bech32 : Bech32) (grant : Grant) (a : AccAddress) : Prop :=
  bech32.accAddressFromBech32 grant.address = .ok a

theorem Bech32.names_of_casts {bech32 : Bech32} {grant : Grant} {a : AccAddress}
    (h : bech32.Casts grant a) : bech32.Names grant a := by
  rw [Bech32.Names, h.1]
  exact h.2

/-- The vote names the signer, who is a trustee. -/
def Bech32.CastBy (bech32 : Bech32) (accounts : Dclauth.AccountStore)
    (signer : Except String AccAddress) (grant : Grant) : Prop :=
  ∃ a, signer = .ok a ∧ bech32.Names grant a ∧ accounts.hasRole a .trustee = true

theorem Bech32.castBy_of_signer {bech32 : Bech32} {accounts : Dclauth.AccountStore} {text : String}
    {a : AccAddress} {grant : Grant} (h : bech32.accAddressFromBech32 text = .ok a)
    (hrole : accounts.hasRole a .trustee = true) (hgrant : grant.address = bech32.string a) :
    bech32.CastBy accounts (bech32.accAddressFromBech32 text) grant :=
  ⟨a, h, Bech32.names_of_casts (Bech32.casts_of_signer h hgrant), hrole⟩

/-- What a message about a text that decodes is a vote on. -/
theorem map_toOption_of_ok {ε α β : Type} {e : Except ε α} {a : α} (h : e = .ok a) (f : α → β) :
    e.toOption.map f = some (f a) := by
  rw [h]
  rfl

end ComplianceLedger

/-! ## Accounts -/

namespace ComplianceLedger.Dclauth

/-- What a message is a vote on. -/
def Msg.ballot (bech32 : Bech32) : Msg → Option (Topic × Bool)
  | .proposeAddAccount msg => (bech32.accAddressFromBech32 msg.address).toOption.map fun a =>
      (.account (accountKey a), true)
  | .approveAddAccount msg => (bech32.accAddressFromBech32 msg.address).toOption.map fun a =>
      (.account (accountKey a), true)
  | .rejectAddAccount msg => (bech32.accAddressFromBech32 msg.address).toOption.map fun a =>
      (.account (accountKey a), false)
  | .proposeRevokeAccount msg => (bech32.accAddressFromBech32 msg.address).toOption.map fun a =>
      (.accountRevocation (accountKey a), true)
  | .approveRevokeAccount msg => (bech32.accAddressFromBech32 msg.address).toOption.map fun a =>
      (.accountRevocation (accountKey a), true)

/-- The votes that an account was revoked with. -/
def RevokedAccount.poll (revoked : RevokedAccount) : Poll Unit Grant := ⟨(), revoked.revokeApprovals, []⟩

/-- The votes in the records come from different voters, and each has a cause. -/
structure Authentic (bech32 : Bech32) (cause : Topic → Bool → Grant → Prop) (s : Store) : Prop where
  account : s.account.All fun k account => account.poll.Authentic bech32.Casts (cause (.account k))
  pending : s.pendingAccount.All fun k account =>
    account.poll.Authentic bech32.Casts (cause (.account k))
  rejected : s.rejectedAccount.All fun k account =>
    account.poll.Authentic bech32.Casts (cause (.account k))
  revoked : s.revokedAccount.All fun k revoked =>
    revoked.account.poll.Authentic bech32.Casts (cause (.account k)) ∧
    revoked.poll.Authentic bech32.Names (cause (.accountRevocation k))
  revocation : s.pendingAccountRevocation.All fun k revocation =>
    revocation.poll.Authentic bech32.Casts (cause (.accountRevocation k))

section Steps

variable {bech32 : Bech32} {cause : Topic → Bool → Grant → Prop} {s s' : Store} {act : Act}

theorem Authentic.imp {cause' : Topic → Bool → Grant → Prop} (h : Authentic bech32 cause s)
    (himp : ∀ topic b g, cause topic b g → cause' topic b g) : Authentic bech32 cause' s where
  account k r hr := (h.account k r hr).imp (himp _)
  pending k r hr := (h.pending k r hr).imp (himp _)
  rejected k r hr := (h.rejected k r hr).imp (himp _)
  revoked k r hr := ⟨(h.revoked k r hr).1.imp (himp _), (h.revoked k r hr).2.imp (himp _)⟩
  revocation k r hr := (h.revocation k r hr).imp (himp _)

/-- A pending account with one more vote for it, which may have made it active. -/
theorem Authentic.aye (h : Authentic bech32 cause s) {msg : MsgAccount}
    {signerAddr accAddr : AccAddress} {found account : PendingAccount}
    (hvote : PendingVote bech32 s msg signerAddr accAddr found)
    (hcause : cause (.account (accountKey accAddr)) true (grantOf bech32 msg signerAddr))
    (hayes : account.approvals = found.approvals ++ [grantOf bech32 msg signerAddr])
    (hnays : account.rejects = found.rejects) :
    account.poll.Authentic bech32.Casts (cause (.account (accountKey accAddr))) := by
  have hcounts := hvote.counts_of_mem (Finset.mem_singleton_self _)
  exact ((h.pending _ _ hvote.pending).addAye hcounts hcause).of_votes hayes hnays

/-- A pending account with one more vote against it, which may have rejected it. -/
theorem Authentic.nay (h : Authentic bech32 cause s) {msg : MsgAccount}
    {signerAddr accAddr : AccAddress} {found account : PendingAccount}
    (hvote : PendingVote bech32 s msg signerAddr accAddr found)
    (hcause : cause (.account (accountKey accAddr)) false (grantOf bech32 msg signerAddr))
    (hayes : account.approvals = found.approvals)
    (hnays : account.rejects = found.rejects ++ [grantOf bech32 msg signerAddr]) :
    account.poll.Authentic bech32.Casts (cause (.account (accountKey accAddr))) := by
  have hcounts := hvote.counts_of_mem (Finset.mem_singleton_self _)
  exact ((h.pending _ _ hvote.pending).addNay hcounts hcause).of_votes hayes hnays

/-- A pending revocation with one more vote. -/
theorem Authentic.revocationAye (h : Authentic bech32 cause s) {msg : MsgAccount}
    {signerAddr accAddr : AccAddress} {found : PendingAccountRevocation}
    (hvote : RevocationVote bech32 s msg signerAddr accAddr found)
    (hcause : cause (.accountRevocation (accountKey accAddr)) true (grantOf bech32 msg signerAddr)) :
    (found.poll.addAye (grantOf bech32 msg signerAddr)).Authentic bech32.Casts
      (cause (.accountRevocation (accountKey accAddr))) := by
  have hcounts := hvote.counts_of_mem (Finset.mem_singleton_self _)
  exact (h.revocation _ _ hvote.pending).addAye hcounts hcause

/-- The vote of an accepted proposal. -/
theorem Proposal.authentic {msg : MsgProposeAddAccount} {signerAddr accAddr : AccAddress}
    {account account' : Account} (h : Proposal bech32 s msg signerAddr accAddr account)
    (hcause : cause (.account (accountKey accAddr)) true ⟨bech32.string signerAddr, msg.time, msg.info⟩)
    (hayes : account'.approvals = [⟨bech32.string signerAddr, msg.time, msg.info⟩])
    (hnays : account'.rejects = account.rejects) :
    account'.poll.Authentic bech32.Casts (cause (.account (accountKey accAddr))) := by
  obtain ⟨pk, -, rfl⟩ := h.account_eq
  exact (Poll.authentic_singleton () (Bech32.casts_of_signer h.signer rfl) hcause).of_votes hayes hnays

/-- **The votes that a message about accounts records** are its own. -/
theorem Authentic.step (h : Authentic bech32 cause s) (he : Effect bech32 s act s')
    (hcause : ∀ msg topic b g, act = .deliver msg → msg.ballot bech32 = some (topic, b) →
      bech32.CastBy s.account (bech32.accAddressFromBech32 msg.signer) g → cause topic b g) :
    Authentic bech32 cause s' := by
  -- a message of a trustee causes the votes that name its signer
  have hcast : ∀ {msg : Msg} {topic : Topic} {b : Bool} {signer : AccAddress}, act = .deliver msg →
      msg.ballot bech32 = some (topic, b) → bech32.accAddressFromBech32 msg.signer = .ok signer →
      s.account.hasRole signer .trustee = true → ∀ ⦃g : Grant⦄, g.address = bech32.string signer →
      cause topic b g := fun hact hballot hsigner hrole g hgrant =>
    hcause _ _ _ g hact hballot (Bech32.castBy_of_signer hsigner hrole hgrant)
  cases he with
  | refused => exact h
  | proposed proposal =>
    have hvote := hcast rfl (map_toOption_of_ok proposal.address _) proposal.signer proposal.role
    exact { h with
      pending := h.pending.set (proposal.authentic (hvote rfl) rfl rfl)
      rejected := h.rejected.delete _ }
  | addedAtOnce proposal =>
    have hvote := hcast rfl (map_toOption_of_ok proposal.address _) proposal.signer proposal.role
    exact { h with
      account := h.account.set (proposal.authentic (hvote rfl) rfl rfl)
      rejected := h.rejected.delete _ }
  | approved vote =>
    have hvote := hcast rfl (map_toOption_of_ok vote.address _) vote.signer vote.role
    exact { h with pending := h.pending.set (h.aye vote (hvote rfl) rfl rfl) }
  | added vote =>
    have hvote := hcast rfl (map_toOption_of_ok vote.address _) vote.signer vote.role
    exact { h with
      account := h.account.set (h.aye vote (hvote rfl) rfl rfl)
      revoked := h.revoked.delete _
      pending := h.pending.delete _ }
  | rejected vote =>
    have hvote := hcast rfl (map_toOption_of_ok vote.address _) vote.signer vote.role
    exact { h with pending := h.pending.set (h.nay vote (hvote rfl) rfl rfl) }
  | discarded vote =>
    have hvote := hcast rfl (map_toOption_of_ok vote.address _) vote.signer vote.role
    exact { h with
      rejected := h.rejected.set (h.nay vote (hvote rfl) rfl rfl)
      pending := h.pending.delete _ }
  | revocationProposed signed =>
    have hvote := hcast rfl (map_toOption_of_ok signed.address _) signed.signer signed.role
    exact { h with
      revocation := h.revocation.set
        (Poll.authentic_singleton () (Bech32.casts_of_signer signed.signer rfl) (hvote rfl)) }
  | revokedAtOnce signed active =>
    -- the text of the message is recorded, not the address as the codec spells it
    have hvote := hcause _ _ _ ⟨_, 0, ""⟩ rfl (map_toOption_of_ok signed.address _)
      ⟨_, signed.signer, signed.signer, signed.role⟩
    exact { h with
      revoked := h.revoked.set
        ⟨h.account _ _ active, Poll.authentic_singleton () signed.signer hvote⟩
      account := h.account.delete _ }
  | revocationApproved vote =>
    have hvote := hcast rfl (map_toOption_of_ok vote.address _) vote.signer vote.role
    exact { h with revocation := h.revocation.set (h.revocationAye vote (hvote rfl)) }
  | revoked vote active =>
    have hvote := hcast rfl (map_toOption_of_ok vote.address _) vote.signer vote.role
    have hrevoked := (h.revocationAye vote (hvote rfl)).of_cast fun _ _ => Bech32.names_of_casts
    exact { h with
      revoked := h.revoked.set ⟨h.account _ _ active, hrevoked⟩
      account := h.account.delete _
      revocation := h.revocation.delete _ }
  | writtenBack pubKey sequence signed active =>
    exact { h with account := h.account.set ((h.account _ _ active).of_votes rfl rfl) }
  | revokedMalicious active =>
    exact { h with
      revoked := h.revoked.set ⟨h.account _ _ active, Poll.authentic_nil ()⟩
      account := h.account.delete _ }

/-- Accounts of a genesis without votes. -/
theorem Authentic.initGenesis {genesis : List Account}
    (h : ∀ account ∈ genesis, account.approvals = [] ∧ account.rejects = []) :
    Authentic bech32 cause (initGenesis bech32 genesis) := by
  induction genesis using List.reverseRecOn with
  | nil => exact ⟨.empty, .empty, .empty, .empty, .empty⟩
  | append_singleton genesis elem ih =>
    have hearlier := ih fun account haccount => h account (List.mem_append_left _ haccount)
    obtain ⟨hayes, hnays⟩ := h elem (by simp)
    rw [initGenesis_append_singleton]
    exact { hearlier with
      account := hearlier.account.set ((Poll.authentic_nil ()).of_votes hayes hnays) }

end Steps

end ComplianceLedger.Dclauth

/-! ## Certificates -/

namespace ComplianceLedger.Pki

/-- What a message is a vote on. The revocation of a certificate that is not a root takes no votes. -/
def Msg.ballot (lib : CryptoX509) : Msg → Option (Topic × Bool)
  | .proposeAddX509RootCert msg => (decodeX509Certificate lib msg.cert).toOption.map fun x =>
      (.certificate (pairKey x.subject x.subjectKeyID), true)
  | .approveAddX509RootCert msg => some (.certificate (pairKey msg.subject msg.subjectKeyId), true)
  | .rejectAddX509RootCert msg => some (.certificate (pairKey msg.subject msg.subjectKeyId), false)
  | .proposeRevokeX509RootCert msg | .approveRevokeX509RootCert msg =>
      some (.certificateRevocation (pairKey msg.subject msg.subjectKeyId), true)
  | .addX509Cert _ | .revokeX509Cert _ => none

/-- The votes on a certificate. -/
def Certificate.poll (cert : Certificate) : Poll Unit Grant := ⟨(), cert.approvals, cert.rejects⟩

/-- The votes on proposed, approved and rejected certificates come from different voters, and each has a
cause; so have the votes on revocations. A revoked certificate has kept the votes on it, or it has those
on its revocation in the place of the approvals. -/
structure Authentic (bech32 : Bech32) (cause : Topic → Bool → Grant → Prop) (s : Store) : Prop where
  proposed : s.proposedCertificate.All fun k proposed =>
    proposed.poll.Authentic bech32.Casts (cause (.certificate k))
  approved : ∀ k, ∀ cert ∈ s.approvedCerts k, cert.poll.Authentic bech32.Casts (cause (.certificate k))
  rejected : s.rejectedCertificate.All fun k rejected =>
    ∀ cert ∈ rejected.certs, cert.poll.Authentic bech32.Casts (cause (.certificate k))
  revocation : s.proposedCertificateRevocation.All fun k revocation =>
    ∀ g ∈ revocation.approvals, cause (.certificateRevocation k) true g
  revoked : ∀ k, ∀ cert ∈ s.revokedCerts k,
    cert.poll.Authentic bech32.Casts (cause (.certificate k)) ∨
      (∀ g ∈ cert.approvals, cause (.certificateRevocation k) true g) ∧
        ∀ g ∈ cert.rejects, cause (.certificate k) false g

variable {lib : CryptoX509} {bech32 : Bech32} {ctx : Context} {s s' : Store} {msg : Msg}
  {cause : Topic → Bool → Grant → Prop}

theorem Authentic.empty : Authentic bech32 cause Store.empty :=
  ⟨.empty, fun _ _ h => (nomatch h), .empty, .empty, fun _ _ h => (nomatch h)⟩

theorem Authentic.imp {cause' : Topic → Bool → Grant → Prop} (h : Authentic bech32 cause s)
    (himp : ∀ topic b g, cause topic b g → cause' topic b g) : Authentic bech32 cause' s where
  proposed k r hr := (h.proposed k r hr).imp (himp _)
  approved k cert hcert := (h.approved k cert hcert).imp (himp _)
  rejected k r hr cert hcert := (h.rejected k r hr cert hcert).imp (himp _)
  revocation k r hr g hg := himp _ _ _ (h.revocation k r hr g hg)
  revoked k cert hcert := (h.revoked k cert hcert).imp (·.imp (himp _))
    fun ⟨hayes, hnays⟩ => ⟨fun g hg => himp _ _ _ (hayes g hg), fun g hg => himp _ _ _ (hnays g hg)⟩

/-- The certificates that are revoked keep their votes, but for those that `f` gives to what is named. -/
theorem Authentic.revocation_of (h : Authentic bech32 cause s) {k : Bytes}
    {f : Certificate → Certificate} (hrev : Revocation k f s s')
    (hf : ∀ cert ∈ s.approvedCerts k, (f cert).poll.Authentic bech32.Casts (cause (.certificate k)) ∨
      (∀ g ∈ (f cert).approvals, cause (.certificateRevocation k) true g) ∧
        ∀ g ∈ (f cert).rejects, cause (.certificate k) false g) : Authentic bech32 cause s' := by
  refine ⟨hrev.proposed ▸ h.proposed,
    fun k' cert hcert => h.approved k' cert (hrev.mem_approvedCerts hcert),
    hrev.rejected ▸ h.rejected, hrev.revocation ▸ h.revocation, fun k' cert hcert => ?_⟩
  rcases hrev.moved k' with ⟨-, hkept⟩ | ⟨-, hmoved⟩
  · exact h.revoked k' cert (hkept ▸ hcert)
  · rw [hmoved, List.mem_append] at hcert
    rcases hcert with hold | hnew
    · exact h.revoked k' cert hold
    · obtain ⟨cert, hcert, rfl⟩ := List.mem_map.mp hnew
      split
      · next hk =>
        subst hk
        exact hf cert hcert
      · exact .inl (h.approved k' cert hcert)

section Votes

variable {m : MsgIdentifier} {addr : AccAddress}

/-- A new proposal has the vote of its signer, if the signer is a trustee. -/
theorem authentic_proposalOf {m : MsgCert} {x : X509Certificate} {approvals : List Grant} {k : Bytes}
    (hsigner : bech32.accAddressFromBech32 m.signer = .ok addr)
    (happrovals : approvals = if ctx.accounts.hasRole addr rootCertificateApprovalRole then
      [⟨bech32.string addr, m.time, m.info⟩] else [])
    (hcause : ctx.accounts.hasRole addr rootCertificateApprovalRole = true →
      cause (.certificate k) true ⟨bech32.string addr, m.time, m.info⟩) :
    (proposalOf m x approvals).poll.Authentic bech32.Casts (cause (.certificate k)) := by
  subst happrovals
  unfold proposalOf ProposedCertificate.poll
  split
  · next hrole =>
    exact Poll.authentic_singleton () (Bech32.casts_of_signer hsigner rfl) (hcause hrole)
  · exact Poll.authentic_nil ()

/-- A proposal with one more vote for the certificate, which may have made it an approved one. -/
theorem Authentic.aye (h : Authentic bech32 cause s) {found : ProposedCertificate}
    (hvote : ProposalVote bech32 ctx s m addr found)
    (hcause : cause (.certificate (pairKey m.subject m.subjectKeyId)) true (grantOf bech32 m addr)) :
    (found.poll.addAye (grantOf bech32 m addr)).Authentic bech32.Casts
      (cause (.certificate (pairKey m.subject m.subjectKeyId))) :=
  (h.proposed _ _ hvote.proposal).addAye (hvote.counts_of_mem (Finset.mem_singleton_self _)) hcause

/-- A proposal with one more vote against the certificate, which may have rejected it. -/
theorem Authentic.nay (h : Authentic bech32 cause s) {found : ProposedCertificate}
    (hvote : ProposalVote bech32 ctx s m addr found)
    (hcause : cause (.certificate (pairKey m.subject m.subjectKeyId)) false (grantOf bech32 m addr)) :
    (found.poll.addNay (grantOf bech32 m addr)).Authentic bech32.Casts
      (cause (.certificate (pairKey m.subject m.subjectKeyId))) :=
  (h.proposed _ _ hvote.proposal).addNay (hvote.counts_of_mem (Finset.mem_singleton_self _)) hcause

/-- The votes on a revocation, with one more. -/
theorem Authentic.revocationAye (h : Authentic bech32 cause s) {found : ProposedCertificateRevocation}
    (hvote : RevocationVote bech32 ctx s m addr found)
    (hcause : cause (.certificateRevocation (pairKey m.subject m.subjectKeyId)) true
      (grantOf bech32 m addr)) :
    ∀ g ∈ found.approvals ++ [grantOf bech32 m addr],
      cause (.certificateRevocation (pairKey m.subject m.subjectKeyId)) true g := by
  intro g hg
  rcases List.mem_append.mp hg with hg | hg
  · exact h.revocation _ _ hvote.proposal g hg
  · obtain rfl := List.mem_singleton.mp hg
    exact hcause

end Votes

/-- **The votes that a message about certificates records** are its own. -/
theorem Authentic.step (h : Authentic bech32 cause s) (hrecords : Records lib s)
    (he : Effect lib bech32 ctx s msg s')
    (hcause : ∀ topic b g, msg.ballot lib = some (topic, b) →
      bech32.CastBy ctx.accounts (bech32.accAddressFromBech32 msg.signer) g → cause topic b g) :
    Authentic bech32 cause s' := by
  -- a message of a trustee causes the votes that name its signer
  have hcast : ∀ {topic : Topic} {b : Bool} {signer : AccAddress},
      msg.ballot lib = some (topic, b) → bech32.accAddressFromBech32 msg.signer = .ok signer →
      ctx.accounts.hasRole signer .trustee = true → ∀ ⦃g : Grant⦄, g.address = bech32.string signer →
      cause topic b g := fun hballot hsigner hrole g hgrant =>
    hcause _ _ g hballot (Bech32.castBy_of_signer hsigner hrole hgrant)
  cases he with
  | refused => exact h
  | @proposed m x _ _ addr approvals hdecode _ _ _ _ _ hsigner happrovals =>
    have hproposed := authentic_proposalOf (x := x) hsigner happrovals fun hrole =>
      hcast (map_toOption_of_ok hdecode _) hsigner hrole rfl
    exact { h with proposed := h.proposed.set hproposed, rejected := h.rejected.delete _ }
  | approved vote =>
    have hproposed := h.aye vote (hcast rfl vote.signer vote.role rfl)
    rw [vote.key hrecords] at hproposed
    exact { h with proposed := h.proposed.set hproposed }
  | rejected vote =>
    have hproposed := h.nay vote (hcast rfl vote.signer vote.role rfl)
    rw [vote.key hrecords] at hproposed
    exact { h with proposed := h.proposed.set hproposed }
  | discarded record vote _ hrecord =>
    have hproposed := h.nay vote (hcast rfl vote.signer vote.role rfl)
    rw [vote.key hrecords] at hproposed
    subst hrecord
    refine { h with proposed := h.proposed.delete _, rejected := h.rejected.set fun cert hcert => ?_ }
    obtain rfl := List.mem_singleton.mp hcert
    exact hproposed
  | activated cert vote _ hcert =>
    have hproposed := h.aye vote (hcast rfl vote.signer vote.role rfl)
    obtain ⟨⟨x, hreads⟩, -, hkey⟩ := vote.reads_cert hrecords hcert
    refine { h with proposed := h.proposed.delete _, approved := fun k c hc => ?_ }
    rcases (hrecords.mem_addApprovedCertificate hreads).mp hc with hold | ⟨rfl, rfl⟩
    · exact h.approved k c hold
    · rw [hkey, hcert]
      exact hproposed
  | @added m x fuel root cert hdecode hnot _ _ _ hcert =>
    subst hcert
    have hreads := reads_certificateOf root hdecode hnot
    refine { h with approved := fun k c hc => ?_ }
    rcases (hrecords.mem_addApprovedCertificate hreads).mp hc with hold | ⟨rfl, rfl⟩
    · exact h.approved k c hold
    · exact Poll.authentic_nil ()
  | revocationProposed hsigner hrole =>
    -- the text of the message is recorded, not the address as the codec spells it
    refine { h with revocation := h.revocation.set fun g hg => ?_ }
    obtain rfl := List.mem_singleton.mp hg
    exact hcause _ _ _ rfl ⟨_, hsigner, hsigner, hrole⟩
  | revocationApproved vote =>
    have hvotes := h.revocationAye vote (hcast rfl vote.signer vote.role rfl)
    rw [hrecords.revocation _ _ vote.proposal] at hvotes
    exact { h with revocation := h.revocation.set hvotes }
  | rootRevoked approvals t vote happrovals _ hget ht =>
    have hvotes := h.revocationAye vote (hcast rfl vote.signer vote.role rfl)
    obtain ⟨-, hrev, -⟩ := revocation_of_rootRevoked hrecords hget ht
    have hauthentic := h.revocation_of hrev fun cert hcert => ?_
    · exact { hauthentic with revocation := hauthentic.revocation.delete _ }
    · -- a root is given the approvals of its revocation
      have hold := h.approved _ cert hcert
      unfold assignTo
      split
      · exact .inr ⟨happrovals ▸ hvotes, hold.nays⟩
      · exact .inl hold
  | revoked t hget _ _ _ ht =>
    obtain ⟨-, hrev, -⟩ := revocation_of_revoked hrecords hget ht
    have hauthentic := h.revocation_of hrev fun cert hcert => .inl (h.approved _ cert hcert)
    exact { hauthentic with }

end ComplianceLedger.Pki

/-! ## Validators -/

namespace ComplianceLedger.Validators

/-- What a message is a vote on. The owner of a validator disables it without votes. -/
def Msg.ballot (addr : Addresses) : Msg → Option (Topic × Bool)
  | .proposeDisableValidator msg | .approveDisableValidator msg =>
    (addr.valAddressFromBech32 msg.address).toOption.map fun a => (.validator (addr.valString a), true)
  | .rejectDisableValidator msg =>
    (addr.valAddressFromBech32 msg.address).toOption.map fun a => (.validator (addr.valString a), false)
  | .createValidator _ | .disableValidator _ | .enableValidator _ => none

/-- The votes that a validator was disabled with; there are none if its owner has done it. -/
def DisabledValidator.votes (disabled : DisabledValidator) : Poll Unit Grant :=
  ⟨(), disabled.approvals, disabled.rejects⟩

/-- The votes in the records come from different voters, and each has a cause. -/
structure Authentic (addr : Addresses) (cause : Topic → Bool → Grant → Prop) (s : Store) : Prop where
  proposed : s.proposedDisableValidator.All fun _ proposed =>
    proposed.poll.Authentic addr.acc.Casts (cause (.validator proposed.address))
  disabled : s.disabledValidator.All fun _ disabled =>
    disabled.votes.Authentic addr.acc.Casts (cause (.validator disabled.address))
  rejected : s.rejectedNode.All fun _ rejected =>
    rejected.poll.Authentic addr.acc.Casts (cause (.validator rejected.address))

variable {addr : Addresses} {cause : Topic → Bool → Grant → Prop} {s s' : Store} {act : Act}

theorem Authentic.empty : Authentic addr cause Store.empty := ⟨.empty, .empty, .empty⟩

theorem Authentic.imp {cause' : Topic → Bool → Grant → Prop} (h : Authentic addr cause s)
    (himp : ∀ topic b g, cause topic b g → cause' topic b g) : Authentic addr cause' s where
  proposed k r hr := (h.proposed k r hr).imp (himp _)
  disabled k r hr := (h.disabled k r hr).imp (himp _)
  rejected k r hr := (h.rejected k r hr).imp (himp _)

section Votes

variable {ctx : Context} {msg : MsgVoteDisableValidator} {t : AccAddress} {a : ValAddress}
  {v : Validator} {found : ProposedDisableValidator}

/-- A proposal with one more vote for it, which may have disabled the validator. -/
theorem Authentic.aye (h : Authentic addr cause s) (hvote : ProposalVote addr s ctx msg t a v found)
    (hcause : cause (.validator (addr.valString a)) true (grantOf addr msg t)) :
    (found.poll.addAye (grantOf addr msg t)).Authentic addr.acc.Casts
      (cause (.validator found.address)) := by
  rw [← hvote.names] at hcause
  exact (h.proposed _ _ hvote.pending).addAye (hvote.counts_of_mem (Finset.mem_singleton_self _)) hcause

/-- A proposal with one more vote against it, which may have rejected it. -/
theorem Authentic.nay (h : Authentic addr cause s) (hvote : ProposalVote addr s ctx msg t a v found)
    (hcause : cause (.validator (addr.valString a)) false (grantOf addr msg t)) :
    (found.poll.addNay (grantOf addr msg t)).Authentic addr.acc.Casts
      (cause (.validator found.address)) := by
  rw [← hvote.names] at hcause
  exact (h.proposed _ _ hvote.pending).addNay (hvote.counts_of_mem (Finset.mem_singleton_self _)) hcause

end Votes

/-- **The votes that a message about validators records** are its own. -/
theorem Authentic.step (h : Authentic addr cause s) (hs : Consistent addr s)
    (he : Effect addr s act s')
    (hcause : ∀ ctx msg topic b g, act = .deliver ctx msg → msg.ballot addr = some (topic, b) →
      addr.acc.CastBy ctx.accounts (msg.getSigner addr) g → cause topic b g) :
    Authentic addr cause s' := by
  -- a message of a trustee causes the votes that name its signer
  have hcast : ∀ {ctx : Context} {msg : Msg} {text : String} {topic : Topic} {b : Bool}
      {signer : AccAddress}, act = .deliver ctx msg → msg.ballot addr = some (topic, b) →
      msg.getSigner addr = addr.acc.accAddressFromBech32 text →
      addr.acc.accAddressFromBech32 text = .ok signer →
      ctx.accounts.hasRole signer .trustee = true →
      ∀ ⦃g : Grant⦄, g.address = addr.acc.string signer → cause topic b g := by
    intro ctx msg text topic b signer hact hballot htext hsigner hrole g hgrant
    refine hcause _ _ _ _ g hact hballot ?_
    rw [htext]
    exact Bech32.castBy_of_signer hsigner hrole hgrant
  cases he with
  | refused | created | jailed => exact { h with }
  | ended ends =>
    rw [endBlock_frame hs ends]
    exact { h with }
  | disabled => exact { h with disabled := h.disabled.set (Poll.authentic_nil ()) }
  | enabled => exact { h with disabled := h.disabled.delete _ }
  | proposed proposal =>
    have hvote := hcast rfl (map_toOption_of_ok proposal.address _) rfl proposal.creator proposal.role
    exact { h with
      proposed := h.proposed.set
        (Poll.authentic_singleton () (Bech32.casts_of_signer proposal.creator rfl) (hvote rfl))
      rejected := h.rejected.delete _ }
  | disabledAtOnce proposal =>
    have hvote := hcast rfl (map_toOption_of_ok proposal.address _) rfl proposal.creator proposal.role
    exact { h with
      disabled := h.disabled.set
        (Poll.authentic_singleton () (Bech32.casts_of_signer proposal.creator rfl) (hvote rfl))
      rejected := h.rejected.delete _ }
  | approved vote =>
    have hvote := hcast rfl (map_toOption_of_ok vote.address _) rfl vote.creator vote.role
    exact { h with proposed := h.proposed.set (h.aye vote (hvote rfl)) }
  | disabledByVotes vote =>
    have hvote := hcast rfl (map_toOption_of_ok vote.address _) rfl vote.creator vote.role
    exact { h with
      proposed := h.proposed.delete _
      disabled := h.disabled.set (h.aye vote (hvote rfl)) }
  | rejected vote =>
    have hvote := hcast rfl (map_toOption_of_ok vote.address _) rfl vote.creator vote.role
    exact { h with proposed := h.proposed.set (h.nay vote (hvote rfl)) }
  | discarded vote =>
    have hvote := hcast rfl (map_toOption_of_ok vote.address _) rfl vote.creator vote.role
    exact { h with
      proposed := h.proposed.delete _
      rejected := h.rejected.set (h.nay vote (hvote rfl)) }

end ComplianceLedger.Validators

/-! ## Upgrades -/

namespace ComplianceLedger.Dclupgrade

/-- What a message is a vote on. -/
def Msg.ballot : Msg → Option (Topic × Bool)
  | .proposeUpgrade msg => some (.upgrade msg.plan.name, true)
  | .approveUpgrade msg => some (.upgrade msg.name, true)
  | .rejectUpgrade msg => some (.upgrade msg.name, false)

/-- The votes in the records come from different voters, and each has a cause. -/
structure Authentic (bech32 : Bech32) (cause : Topic → Bool → Grant → Prop) (s : Store) : Prop where
  proposed : s.proposedUpgrade.All fun _ upgrade =>
    upgrade.poll.Authentic bech32.Casts (cause (.upgrade upgrade.plan.name))
  approved : s.approvedUpgrade.All fun _ upgrade =>
    upgrade.poll.Authentic bech32.Casts (cause (.upgrade upgrade.plan.name))
  rejected : s.rejectedUpgrade.All fun _ upgrade =>
    upgrade.poll.Authentic bech32.Casts (cause (.upgrade upgrade.plan.name))

variable {bech32 : Bech32} {ctx : Context} {cause : Topic → Bool → Grant → Prop} {s s' : Store}
  {msg : Msg} {u : Unit}

theorem Authentic.empty : Authentic bech32 cause Store.empty := ⟨.empty, .empty, .empty⟩

theorem Authentic.imp {cause' : Topic → Bool → Grant → Prop} (h : Authentic bech32 cause s)
    (himp : ∀ topic b g, cause topic b g → cause' topic b g) : Authentic bech32 cause' s where
  proposed k r hr := (h.proposed k r hr).imp (himp _)
  approved k r hr := (h.approved k r hr).imp (himp _)
  rejected k r hr := (h.rejected k r hr).imp (himp _)

/-- **The votes that a message about upgrades records** are its own. -/
theorem Authentic.handle (h : Authentic bech32 cause s) (hkeyed : Keyed s)
    (hhandle : handle bech32 ctx msg s = some (.ok u, s'))
    (hcause : ∀ topic b g, msg.ballot = some (topic, b) →
      bech32.CastBy ctx.accounts (bech32.accAddressFromBech32 msg.creator) g → cause topic b g) :
    Authentic bech32 cause s' := by
  cases msg with
  | proposeUpgrade msg =>
    obtain ⟨creator, hsigner, hrole, -, -, -, upgrade, rfl, hcases⟩ := proposeUpgrade_ok hhandle
    have hnew := Poll.authentic_singleton () (Bech32.casts_of_signer hsigner rfl)
      (hcause _ _ ⟨bech32.string creator, msg.time, msg.info⟩ rfl
        (Bech32.castBy_of_signer hsigner hrole rfl))
    rcases hcases with ⟨-, rfl⟩ | ⟨-, rfl⟩
    · exact { h with proposed := (h.proposed.delete _).set hnew, rejected := h.rejected.delete _ }
    · exact { h with
        proposed := h.proposed.delete _
        approved := h.approved.set hnew
        rejected := h.rejected.delete _ }
  | approveUpgrade msg =>
    obtain ⟨voter, found, hsigner, hrole, hfound, hreject, happroval, -, upgrade, rfl, hcases⟩ :=
      approveUpgrade_ok hhandle
    have hg : cause (.upgrade found.plan.name) true (grantOf bech32 msg voter) := by
      rw [hkeyed.name_eq hfound]
      exact hcause _ _ _ rfl (Bech32.castBy_of_signer hsigner hrole rfl)
    have hcounts : found.poll.Counts bech32.Casts {voter} (grantOf bech32 msg voter) :=
      counts_of_not_hasGrantFrom (Finset.mem_singleton_self _) hsigner rfl happroval hreject
    have hvoted := (h.proposed _ _ hfound).addAye hcounts hg
    rcases hcases with ⟨-, rfl⟩ | ⟨-, rfl⟩
    · exact { h with proposed := h.proposed.delete _, approved := h.approved.set hvoted }
    · exact { h with proposed := h.proposed.set hvoted }
  | rejectUpgrade msg =>
    obtain ⟨voter, found, hsigner, hrole, hfound, hreject, happroval, upgrade, rfl, hcases⟩ :=
      rejectUpgrade_ok hhandle
    have hg : cause (.upgrade found.plan.name) false (grantOf bech32 msg voter) := by
      rw [hkeyed.name_eq hfound]
      exact hcause _ _ _ rfl (Bech32.castBy_of_signer hsigner hrole rfl)
    have hcounts : found.poll.Counts bech32.Casts {voter} (grantOf bech32 msg voter) :=
      counts_of_not_hasGrantFrom (Finset.mem_singleton_self _) hsigner rfl happroval hreject
    have hvoted := (h.proposed _ _ hfound).addNay hcounts hg
    rcases hcases with ⟨-, -, rfl⟩ | ⟨-, rfl⟩
    · exact { h with proposed := h.proposed.delete _, rejected := h.rejected.set hvoted }
    · exact { h with proposed := h.proposed.set hvoted }

end ComplianceLedger.Dclupgrade

/-! ## The ledger -/

namespace ComplianceLedger.Catalog

/-- What a message is a vote on, and whether for or against. -/
def Msg.ballot (env : Env) : Msg → Option (Topic × Bool)
  | .auth msg => msg.ballot env.addr.acc
  | .pki msg => msg.ballot env.lib
  | .validator msg => msg.ballot env.addr
  | .upgrade msg => msg.ballot
  | .model _ | .vendorInfo _ | .compliance _ => none

/-- The votes in the records of all modules come from different voters, and each has a cause. -/
structure Authentic (env : Env) (cause : Topic → Bool → Grant → Prop) (st : State) : Prop where
  auth : Dclauth.Authentic env.addr.acc cause st.chain.auth
  pki : Pki.Authentic env.addr.acc cause st.chain.pki
  validators : Validators.Authentic env.addr cause st.chain.validators
  upgrade : Dclupgrade.Authentic env.addr.acc cause st.chain.upgrade

/-- The vote was cast by a message about the subject, which was accepted, and whose signer was a trustee
at that time. -/
def Cause (env : Env) (history : List (Transition State Act)) (topic : Topic) (approves : Bool)
    (g : Grant) : Prop :=
  ∃ t ∈ history, ∃ msg, t.label.msg = some msg ∧ msg.ballot env = some (topic, approves) ∧
    (∃ fuel, handle env fuel t.label t.before = some (.ok (), t.after)) ∧
    env.addr.acc.CastBy t.before.accounts (msg.getSigner env) g

section Steps

variable {env : Env} {genesis : List Dclauth.Account} {cause : Topic → Bool → Grant → Prop}
  {st st' : State} {act : Act}

theorem Authentic.imp {cause' : Topic → Bool → Grant → Prop} (h : Authentic env cause st)
    (himp : ∀ topic b g, cause topic b g → cause' topic b g) : Authentic env cause' st :=
  ⟨h.auth.imp himp, h.pki.imp himp, h.validators.imp himp, h.upgrade.imp himp⟩

/-- **A step records no votes but those of its message.** -/
theorem Authentic.step (h : Authentic env cause st) (hst : Consistent env st)
    (he : Effect env st act st')
    (hcause : ∀ msg topic b g, act.msg = some msg → msg.ballot env = some (topic, b) →
      env.addr.acc.CastBy st.accounts (msg.getSigner env) g → cause topic b g) :
    Authentic env cause st' := by
  cases he with
  | @auth msg auth heffect =>
    refine { h with auth := h.auth.step heffect ?_ }
    rintro msg topic b g ⟨⟩
    exact hcause _ topic b g rfl
  | writeBack heffect => exact { h with auth := h.auth.step heffect fun _ _ _ _ hmsg => nomatch hmsg }
  | pki heffect =>
    exact { h with pki := h.pki.step hst.pki.records heffect fun topic b g => hcause _ topic b g rfl }
  | @validator ctx msg validators heffect =>
    refine { h with validators := h.validators.step hst.validators heffect ?_ }
    rintro ctx msg topic b g ⟨⟩
    exact hcause _ topic b g rfl
  | upgrade hhandle =>
    exact { h with
      upgrade := h.upgrade.handle hst.upgrade hhandle fun topic b g => hcause _ topic b g rfl }
  | evidence hjailed hrevoked =>
    have hvalidators := h.validators.step hst.validators hjailed fun _ _ _ _ _ hmsg => nomatch hmsg
    rcases hrevoked with rfl | ⟨a, -, hauth⟩
    · exact { h with validators := hvalidators }
    · exact { h with
        auth := h.auth.step hauth fun _ _ _ _ hmsg => nomatch hmsg
        validators := hvalidators }
  | endBlock heffect =>
    exact { h with
      validators := h.validators.step hst.validators heffect fun _ _ _ _ _ hmsg => nomatch hmsg }
  | other hchain =>
    obtain ⟨hauth, hpki, hvalidators, hupgrade⟩ := h
    rw [← hchain] at hauth hpki hvalidators hupgrade
    exact ⟨hauth, hpki, hvalidators, hupgrade⟩

/-- **Every vote was cast by a trustee.** Start from a genesis of accounts without votes, and nothing
else. Then every vote in the records, for or against an account, the revocation of an account, a root
certificate, its revocation, the disabling of a validator or an upgrade, whether pending or decided, was
cast by a message on that subject. The message was accepted, and its signer, whom the vote names, had the
role of a trustee at that time. The votes in one record are those of different accounts, except for those
on the revocation of a root certificate. -/
theorem votes_cast {history : List (Transition State Act)}
    (hgenesis : ∀ account ∈ genesis, account.approvals = [] ∧ account.rejects = [])
    (h : (env.runs genesis).Trace history st) : Authentic env (Cause env history) st := by
  refine h.induction (P := fun history st => Authentic env (Cause env history) st) ?_ ?_
  · exact ⟨.initGenesis hgenesis, .empty, .empty, .empty⟩
  · rintro history st act st' hr hst hstep
    -- what was cast earlier was cast in the longer history
    replace hst : Authentic env (Cause env (history ++ [⟨st, act, st'⟩])) st := by
      refine hst.imp fun topic b g hcause => ?_
      obtain ⟨t, ht, hcause⟩ := hcause
      exact ⟨t, List.mem_append_left _ ht, hcause⟩
    rcases step_cases hstep with rfl | ⟨fuel, hhandle⟩
    · exact hst
    · have hconsistent := consistent_of_reachable hr
      refine hst.step hconsistent (hconsistent.effect hhandle) fun msg topic b g hmsg hballot hcast => ?_
      exact ⟨⟨st, act, st'⟩, by simp, msg, hmsg, hballot, ⟨fuel, hhandle⟩, hcast⟩

end Steps

/-- Two trustees approve a root certificate, and two revoke it. -/
def exampleRevocation : List Act :=
  [.chain (.pki 50 (.proposeAddX509RootCert ⟨"cosmos1one", "root", "", 1⟩)),
    .chain (.pki 50 (.approveAddX509RootCert (Pki.exampleMsg "cosmos1two" "Ug==" "01"))),
    .chain (.pki 50 (.proposeRevokeX509RootCert (Pki.exampleMsg "cosmos1two" "Ug==" "01"))),
    .chain (.pki 50 (.approveRevokeX509RootCert (Pki.exampleMsg "cosmos1three" "Ug==" "01")))]

/-- The revoked root of the example carries two votes, which trustees have cast. -/
theorem example_votes_cast : ∃ history st, ∃ cert ∈ st.chain.pki.revokedCerts (Pki.pairKey "Ug==" "01"),
    (exampleEnv.runs exampleAccounts).Trace history st ∧ cert.approvals.length = 2 ∧
    ∀ g ∈ cert.approvals, ∃ topic, Cause exampleEnv history topic true g := by
  obtain ⟨history, st, htrace, hp⟩ := exists_trace_of_foldlM (T := exampleEnv.runs exampleAccounts)
    (p := fun _ st => (st.chain.pki.revokedCerts (Pki.pairKey "Ug==" "01")).any fun cert =>
      cert.approvals.length = 2)
    exampleNext (fun h => (step_of_exampleNext h).1) exampleRevocation (by decide +kernel)
  obtain ⟨cert, hcert, hlength⟩ := List.any_eq_true.mp hp
  have hauthentic := votes_cast (by decide +kernel) htrace
  refine ⟨history, st, cert, hcert, htrace, of_decide_eq_true hlength, fun g hg => ?_⟩
  rcases hauthentic.pki.revoked _ cert hcert with hkept | ⟨hrevocation, -⟩
  · exact ⟨_, hkept.ayes g hg⟩
  · exact ⟨_, hrevocation g hg⟩

end ComplianceLedger.Catalog
