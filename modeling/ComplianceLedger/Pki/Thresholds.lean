import ComplianceLedger.Dclauth.Electorate
import ComplianceLedger.Pki.Listed

/-!
# Pending certificates and the thresholds

The votes on a proposed root certificate are a poll of the trustees: two thirds of them approve it,
or so many reject it that two thirds can no longer be reached. The approving and the rejecting
handler compare the votes with the thresholds. The proposing handlers do not: the vote of the
proposer is recorded without a look at the threshold, so that where one approval is enough a
proposal stays pending with it, and the trustees may run out of votes. When no trustee proposes
where one approval is enough (with three trustees or more this is always so), every pending poll is
open, and each of its votes either keeps it open or decides it.

## Main definitions

* `ProposedCertificate.poll`: the votes on a proposal
* `NeedsMoreVotes bech32 a`: no trustee proposes where one approval is enough
* `BelowThresholds bech32 T s`: the pending polls of `s` are open
* `ShowsVerdict s s' k found verdict`: what the store shows of the verdict on a proposal

## Main results

* `next_of_effect`: what a step makes of a pending proposal
* `belowThresholds_step`, `belowThresholds_of_reachable`: the invariant
* `proposals_undecided`: no pending proposal has reached a threshold or run out of voters
* `all_trustees_voted`: what happens with two trustees
-/

open Machine Machine.TransitionSystem

namespace ComplianceLedger.Pki

open Dclauth (Electorate)

/-- The votes on a proposed certificate. -/
def ProposedCertificate.poll (proposed : ProposedCertificate) : Poll Unit Grant :=
  ⟨(), proposed.approvals, proposed.rejects⟩

section Definitions

variable (bech32 : Bech32)

/-- If a trustee proposes a root certificate or a revocation, more than one approval is needed. -/
def NeedsMoreVotes : Context × Msg → Prop
  | (ctx, .proposeAddX509RootCert msg) => ∀ addr, bech32.accAddressFromBech32 msg.signer = .ok addr →
      ctx.accounts.hasRole addr rootCertificateApprovalRole = true →
      1 < certificateApprovalsCount ctx.accounts
  | (ctx, .proposeRevokeX509RootCert msg) =>
      ∀ addr, bech32.accAddressFromBech32 msg.signer = .ok addr →
      ctx.accounts.hasRole addr rootCertificateApprovalRole = true →
      1 < certificateApprovalsCount ctx.accounts
  | _ => True

variable (T : Finset AccAddress)

/-- A poll of the trustees that has reached neither threshold. -/
abbrev IsOpen (p : Poll Unit Grant) : Prop :=
  p.Open bech32.Casts T (fun _ => approvalsCount rootCertificateApprovalsPercent T.card)
    (rejectsCount rootCertificateApprovalsPercent T.card)

/-- What becomes of a poll of the trustees. -/
abbrev NextVerdict (p : Poll Unit Grant) : Poll.Verdict Unit Grant → Prop :=
  p.Next bech32.Casts T (fun _ => approvalsCount rootCertificateApprovalsPercent T.card)
    (rejectsCount rootCertificateApprovalsPercent T.card)

/-- The pending proposals and revocations have not reached the thresholds. -/
structure BelowThresholds (s : Store) : Prop where
  proposed : s.proposedCertificate.All fun _ proposed => IsOpen bech32 T proposed.poll
  revocation : s.proposedCertificateRevocation.All fun _ revocation =>
    revocation.approvals.length < approvalsCount rootCertificateApprovalsPercent T.card

end Definitions

/-- What the store shows, after a step, of the verdict on the proposal `found` under the key `k`. -/
def ShowsVerdict (s s' : Store) (k : Bytes) (found : ProposedCertificate) :
    Poll.Verdict Unit Grant → Prop
  | .pending p => s'.proposedCertificate.get k =
      some { found with approvals := p.ayes, rejects := p.nays }
  | .approved p => s'.proposedCertificate.get k = none ∧
      rootCertificateOf { found with approvals := p.ayes, rejects := p.nays } ∈ s'.approvedCerts k ∧
      s'.rejectedCertificate = s.rejectedCertificate
  | .rejected p => s'.proposedCertificate.get k = none ∧
      s'.rejectedCertificate.get k = some ⟨found.subject, found.subjectKeyId,
        [{ rootCertificateOf { found with approvals := p.ayes, rejects := p.nays } with
          isRoot := false }]⟩ ∧
      s'.approvedCertificates = s.approvedCertificates

variable {lib : CryptoX509} {bech32 : Bech32} {ctx : Context} {s s' : Store} {msg : Msg}
  {T : Finset AccAddress}

/-! ## The thresholds -/

theorem certificateApprovalsCount_eq {accounts : Dclauth.AccountStore} (h : Electorate accounts T) :
    certificateApprovalsCount accounts = approvalsCount rootCertificateApprovalsPercent T.card := by
  unfold certificateApprovalsCount approvalsCount
  rw [rootCertificateApprovalRole, h.countAccountsWithRole]

theorem certificateRejectApprovalsCount_eq {accounts : Dclauth.AccountStore}
    (h : Electorate accounts T) :
    certificateRejectApprovalsCount accounts =
      rejectsCount rootCertificateApprovalsPercent T.card := by
  unfold certificateRejectApprovalsCount rejectsCount
  rw [certificateApprovalsCount_eq h, rootCertificateApprovalRole, h.countAccountsWithRole]

/-- With three trustees or more, the condition on proposals always holds. -/
theorem needsMoreVotes_of_three {a : Context × Msg} (h : Electorate a.1.accounts T)
    (hcard : 3 ≤ T.card) : NeedsMoreVotes bech32 a := by
  have hcount : 1 < certificateApprovalsCount a.1.accounts := by
    rw [certificateApprovalsCount_eq h]
    exact one_lt_approvalsCount_iff.mpr hcard
  obtain ⟨ctx, msg⟩ := a
  cases msg <;> first | trivial | exact fun _ _ _ => hcount

/-! ## Votes -/

theorem ProposalVote.counts_of_mem {m : MsgIdentifier} {addr : AccAddress}
    {found : ProposedCertificate} (h : ProposalVote bech32 ctx s m addr found) (hmem : addr ∈ T) :
    found.poll.Counts bech32.Casts T (grantOf bech32 m addr) :=
  counts_of_not_hasGrantFrom hmem h.signer rfl h.no_approval h.no_reject

/-- A vote that the handlers count is that of a trustee who has not voted. -/
theorem ProposalVote.counts (helectorate : Electorate ctx.accounts T) {m : MsgIdentifier}
    {addr : AccAddress} {found : ProposedCertificate}
    (h : ProposalVote bech32 ctx s m addr found) :
    found.poll.Counts bech32.Casts T (grantOf bech32 m addr) :=
  h.counts_of_mem ((helectorate.member addr).mp h.role)

/-- The poll that a proposal starts with. -/
theorem isOpen_proposalOf (helectorate : Electorate ctx.accounts T) (hne : T.Nonempty) {m : MsgCert}
    {x : X509Certificate} {addr : AccAddress} {approvals : List Grant}
    (hsigner : bech32.accAddressFromBech32 m.signer = .ok addr)
    (happrovals : approvals = if ctx.accounts.hasRole addr rootCertificateApprovalRole then
      [⟨bech32.string addr, m.time, m.info⟩] else [])
    (hmore : NeedsMoreVotes bech32 (ctx, .proposeAddX509RootCert m)) :
    IsOpen bech32 T (proposalOf m x approvals).poll := by
  have hcount := certificateApprovalsCount_eq helectorate
  have hveto : 0 < rejectsCount rootCertificateApprovalsPercent T.card := Nat.succ_pos _
  subst happrovals
  unfold proposalOf ProposedCertificate.poll
  split
  · next hrole =>
    -- a trustee approves by proposing
    refine ⟨Poll.fair_singleton () ((helectorate.member addr).mp hrole) ?_, ?_, hveto⟩
    · exact Bech32.casts_of_signer hsigner rfl
    · have hmany := hmore addr hsigner hrole
      rw [hcount] at hmany
      exact hmany
  · refine ⟨Poll.fair_nil (), ?_, hveto⟩
    exact one_le_approvalsCount (by decide) hne.card_pos

/-! ## Steps and runs -/

section Votes

variable {m : MsgIdentifier} {addr : AccAddress} {voted found : ProposedCertificate} {k : Bytes}

/-- A vote that leaves the proposal pending, with the votes `p`. -/
theorem next_of_vote_stored (hrecords : Records lib s)
    (hvote : ProposalVote bech32 ctx s m addr voted) {p : Poll Unit Grant}
    (hnext : NextVerdict bech32 T voted.poll (.pending p))
    (hstore : s'.proposedCertificate =
      s.proposedCertificate.set (proposedCertificateKey voted.subject voted.subjectKeyId)
        { voted with approvals := p.ayes, rejects := p.nays })
    (hget : s.proposedCertificate.get k = some found) :
    ∃ verdict, NextVerdict bech32 T found.poll verdict ∧ ShowsVerdict s s' k found verdict := by
  -- the votes are stored back under the key that they were found under
  rw [proposedCertificateKey, ← hvote.key hrecords] at hstore
  by_cases hk : k = pairKey m.subject m.subjectKeyId
  · subst hk
    obtain rfl := Option.some.inj (hget.symm.trans hvote.proposal)
    refine ⟨.pending p, hnext, ?_⟩
    rw [ShowsVerdict, hstore, KVStore.get_set_self]
  · refine ⟨.pending found.poll, .kept, ?_⟩
    rw [ShowsVerdict, hstore, KVStore.get_set_of_ne _ _ hk, hget]
    rfl

/-- A vote that decides the proposal, which is then removed. -/
theorem next_of_vote_decided (hvote : ProposalVote bech32 ctx s m addr voted)
    {verdict : Poll.Verdict Unit Grant} (hnext : NextVerdict bech32 T voted.poll verdict)
    (hshows : ShowsVerdict s s' (pairKey m.subject m.subjectKeyId) voted verdict)
    (hstore : s'.proposedCertificate =
      s.proposedCertificate.delete (proposedCertificateKey m.subject m.subjectKeyId))
    (hget : s.proposedCertificate.get k = some found) :
    ∃ verdict, NextVerdict bech32 T found.poll verdict ∧ ShowsVerdict s s' k found verdict := by
  by_cases hk : k = pairKey m.subject m.subjectKeyId
  · subst hk
    obtain rfl := Option.some.inj (hget.symm.trans hvote.proposal)
    exact ⟨verdict, hnext, hshows⟩
  · refine ⟨.pending found.poll, .kept, ?_⟩
    rw [ShowsVerdict, hstore, KVStore.get_delete, proposedCertificateKey, if_neg hk, hget]
    rfl

/-- A vote makes no new proposal. -/
theorem get_of_vote_stored (hrecords : Records lib s)
    (hvote : ProposalVote bech32 ctx s m addr voted) {approvals rejects : List Grant}
    (hnone : s.proposedCertificate.get k = none)
    (hget : (s.proposedCertificate.set (proposedCertificateKey voted.subject voted.subjectKeyId)
      { voted with approvals := approvals, rejects := rejects }).get k = some found) :
    s.proposedCertificate.get k = some found := by
  rwa [KVStore.get_set_of_ne] at hget
  rintro rfl
  rw [proposedCertificateKey, ← hvote.key hrecords, hvote.proposal] at hnone
  cases hnone

end Votes

/-- **What a step makes of a pending proposal.** -/
theorem next_of_effect (hrecords : Records lib s) (helectorate : Electorate ctx.accounts T)
    (he : Effect lib bech32 ctx s msg s') {k : Bytes} {found : ProposedCertificate}
    (hget : s.proposedCertificate.get k = some found) :
    ∃ verdict, NextVerdict bech32 T found.poll verdict ∧ ShowsVerdict s s' k found verdict := by
  have hcount := certificateApprovalsCount_eq helectorate
  have hrejects := certificateRejectApprovalsCount_eq helectorate
  -- what does not concern this proposal leaves it pending
  have hkept : s'.proposedCertificate.get k = some found →
      ∃ verdict, NextVerdict bech32 T found.poll verdict ∧ ShowsVerdict s s' k found verdict :=
    fun hsame => ⟨.pending found.poll, .kept, hsame⟩
  cases he with
  | refused => exact hkept hget
  | @proposed m x _ _ _ _ _ _ hfree =>
    apply hkept
    change (s.proposedCertificate.set _ _).get k = _
    rw [KVStore.get_set_of_ne, hget]
    rintro rfl
    cases hfree.symm.trans hget
  | approved hvote hbelow =>
    rw [hcount] at hbelow
    exact next_of_vote_stored hrecords hvote (.aye (hvote.counts helectorate) hbelow) rfl hget
  | activated cert hvote hreached hcert =>
    rw [hcount] at hreached
    obtain ⟨⟨x, hreads⟩, -, hkey⟩ := hvote.reads_cert hrecords hcert
    refine next_of_vote_decided hvote (.passed (hvote.counts helectorate) hreached) ?_ rfl hget
    refine ⟨KVStore.get_delete_self _ _, ?_, rfl⟩
    exact (hrecords.mem_addApprovedCertificate hreads).mpr (Or.inr ⟨hkey.symm, hcert.symm⟩)
  | rejected hvote hbelow =>
    rw [hrejects] at hbelow
    exact next_of_vote_stored hrecords hvote (.nay (hvote.counts helectorate) hbelow) rfl hget
  | discarded record hvote hreached hrecord =>
    rw [hrejects] at hreached
    refine next_of_vote_decided hvote (.failed (hvote.counts helectorate) hreached) ?_ rfl hget
    refine ⟨KVStore.get_delete_self _ _, ?_, rfl⟩
    change (s.rejectedCertificate.set _ _).get _ = _
    rw [hvote.key hrecords, hrecord]
    exact KVStore.get_set_self _ _ _
  | added => exact hkept hget
  | revocationProposed => exact hkept hget
  | revocationApproved => exact hkept hget
  | rootRevoked approvals t _ _ _ hcerts ht =>
    obtain ⟨-, hrev, -⟩ := revocation_of_rootRevoked hrecords hcerts ht
    apply hkept
    change t.proposedCertificate.get k = _
    rw [hrev.proposed, hget]
  | revoked t hcerts _ _ _ ht =>
    obtain ⟨-, hrev, -⟩ := revocation_of_revoked hrecords hcerts ht
    apply hkept
    change t.proposedCertificate.get k = _
    rw [hrev.proposed, hget]

/-- The proposal of a step under a key was pending before it, or is the one the step has made. -/
theorem get_of_effect (hrecords : Records lib s) (he : Effect lib bech32 ctx s msg s') {k : Bytes}
    (hnone : s.proposedCertificate.get k = none) {proposed : ProposedCertificate}
    (hget : s'.proposedCertificate.get k = some proposed) :
    ∃ m x addr approvals, msg = .proposeAddX509RootCert m ∧
      bech32.accAddressFromBech32 m.signer = .ok addr ∧
      approvals = (if ctx.accounts.hasRole addr rootCertificateApprovalRole then
        [⟨bech32.string addr, m.time, m.info⟩] else []) ∧ proposed = proposalOf m x approvals := by
  have hold : s.proposedCertificate.get k = some proposed → False := by
    rw [hnone]
    exact fun h => nomatch h
  cases he with
  | refused => exact (hold hget).elim
  | @proposed m x _ _ addr approvals _ _ _ _ _ _ hsigner happrovals =>
    change (s.proposedCertificate.set _ _).get k = _ at hget
    rw [KVStore.get_set] at hget
    split at hget
    · exact ⟨m, x, addr, approvals, rfl, hsigner, happrovals, (Option.some.inj hget).symm⟩
    · exact (hold hget).elim
  | approved hvote => exact (hold (get_of_vote_stored hrecords hvote hnone hget)).elim
  | activated => exact (hold (KVStore.get_of_get_delete hget).2).elim
  | rejected hvote => exact (hold (get_of_vote_stored hrecords hvote hnone hget)).elim
  | discarded => exact (hold (KVStore.get_of_get_delete hget).2).elim
  | added => exact (hold hget).elim
  | revocationProposed => exact (hold hget).elim
  | revocationApproved => exact (hold hget).elim
  | rootRevoked approvals t _ _ _ hcerts ht =>
    obtain ⟨-, hrev, -⟩ := revocation_of_rootRevoked hrecords hcerts ht
    change t.proposedCertificate.get k = _ at hget
    rw [hrev.proposed] at hget
    exact (hold hget).elim
  | revoked t hcerts _ _ _ ht =>
    obtain ⟨-, hrev, -⟩ := revocation_of_revoked hrecords hcerts ht
    change t.proposedCertificate.get k = _ at hget
    rw [hrev.proposed] at hget
    exact (hold hget).elim

/-- A step keeps the revocations below the threshold. -/
theorem revocations_step (hrecords : Records lib s) (helectorate : Electorate ctx.accounts T)
    (h : BelowThresholds bech32 T s) (he : Effect lib bech32 ctx s msg s')
    (hmore : NeedsMoreVotes bech32 (ctx, msg)) :
    s'.proposedCertificateRevocation.All fun _ revocation =>
      revocation.approvals.length < approvalsCount rootCertificateApprovalsPercent T.card := by
  have hcount := certificateApprovalsCount_eq helectorate
  cases he with
  | refused => exact h.revocation
  | proposed => exact h.revocation
  | approved => exact h.revocation
  | activated => exact h.revocation
  | rejected => exact h.revocation
  | discarded => exact h.revocation
  | added => exact h.revocation
  | @revocationProposed m addr _ _ _ hsigner hrole =>
    have hmany := hmore addr hsigner hrole
    rw [hcount] at hmany
    exact h.revocation.set hmany
  | revocationApproved hvote hbelow =>
    rw [hcount] at hbelow
    exact h.revocation.set (by simpa using hbelow)
  | rootRevoked approvals t _ _ _ hcerts ht =>
    obtain ⟨-, hrev, -⟩ := revocation_of_rootRevoked hrecords hcerts ht
    exact (hrev.revocation ▸ h.revocation).delete _
  | revoked t hcerts _ _ _ ht =>
    obtain ⟨-, hrev, -⟩ := revocation_of_revoked hrecords hcerts ht
    change t.proposedCertificateRevocation.All _
    rw [hrev.revocation]
    exact h.revocation

/-- **One step keeps every pending poll open**, if more votes are needed than that of a trustee who
proposes. -/
theorem belowThresholds_step (hrecords : Records lib s) (helectorate : Electorate ctx.accounts T)
    (hne : T.Nonempty) (h : BelowThresholds bech32 T s) (he : Effect lib bech32 ctx s msg s')
    (hmore : NeedsMoreVotes bech32 (ctx, msg)) : BelowThresholds bech32 T s' := by
  refine ⟨fun k proposed hget => ?_, revocations_step hrecords helectorate h he hmore⟩
  cases hold : s.proposedCertificate.get k with
  | none =>
    obtain ⟨m, x, addr, approvals, rfl, hsigner, happrovals, rfl⟩ :=
      get_of_effect hrecords he hold hget
    exact isOpen_proposalOf helectorate hne hsigner happrovals hmore
  | some found =>
    obtain ⟨verdict, hnext, hshows⟩ := next_of_effect hrecords helectorate he hold
    have hopen := (h.proposed k found hold).next hnext
    cases verdict with
    | pending p =>
      obtain rfl := Option.some.inj (hget.symm.trans hshows)
      exact hopen.1
    | approved p => cases hget.symm.trans hshows.1
    | rejected p => cases hget.symm.trans hshows.1

theorem belowThresholds_of_reachable (hne : T.Nonempty)
    (h : Reachable ((certificates lib bech32).restrict fun _ a =>
      Electorate a.1.accounts T ∧ NeedsMoreVotes bech32 a) s) :
    Records lib s ∧ BelowThresholds bech32 T s := by
  have hinv : WellFormed lib s ∧ BelowThresholds bech32 T s := by
    apply h.invariant
    · exact ⟨wellFormed_empty, KVStore.All.empty, KVStore.All.empty⟩
    · rintro s ⟨ctx, msg⟩ s' ⟨hwf, hbelow⟩ ⟨hstep, helectorate, hmore⟩
      have he := step_effect hstep
      exact ⟨wellFormed_step hwf he,
        belowThresholds_step hwf.records helectorate hne hbelow he hmore⟩
  exact ⟨hinv.1.records, hinv.2⟩

/-- **No pending proposal is stuck.** In the runs with one electorate in which no trustee proposes
where one approval is enough: a pending proposal has fewer approvals and fewer rejections than are
needed, of different trustees, and some trustee has not voted; a pending revocation has fewer
approvals than are needed; and a step leaves a pending proposal pending, approves it or rejects it,
the latter two exactly when the threshold is reached. With three trustees or more, every run is such
a run. -/
theorem proposals_undecided (lib : CryptoX509) (bech32 : Bech32) (T : Finset AccAddress)
    (hne : T.Nonempty) :
    (∀ accounts, Electorate accounts T →
      certificateApprovalsCount accounts = (66 * T.card + 50) / 100 ∧
      certificateRejectApprovalsCount accounts = T.card - (66 * T.card + 50) / 100 + 1) ∧
    (3 ≤ T.card → ∀ a : Context × Msg, Electorate a.1.accounts T → NeedsMoreVotes bech32 a) ∧
    ∀ s, Reachable ((certificates lib bech32).restrict fun _ a =>
        Electorate a.1.accounts T ∧ NeedsMoreVotes bech32 a) s →
      (∀ subject subjectKeyID proposed,
        s.getProposedCertificate subject subjectKeyID = some proposed →
        proposed.approvals.length < (66 * T.card + 50) / 100 ∧
        proposed.rejects.length < T.card - (66 * T.card + 50) / 100 + 1 ∧
        proposed.poll.Fair bech32.Casts T ∧ proposed.poll.HasVoterLeft bech32.Casts T) ∧
      (∀ subject subjectKeyID revocation,
        s.getProposedCertificateRevocation subject subjectKeyID = some revocation →
        revocation.approvals.length < (66 * T.card + 50) / 100) ∧
      ∀ a s' k proposed, (certificates lib bech32).step s a s' → Electorate a.1.accounts T →
        s.proposedCertificate.get k = some proposed →
        ∃ verdict, NextVerdict bech32 T proposed.poll verdict ∧
          ShowsVerdict s s' k proposed verdict := by
  refine ⟨fun accounts helectorate => ?_, fun hcard a helectorate => ?_, fun s hs => ?_⟩
  · exact ⟨certificateApprovalsCount_eq helectorate, certificateRejectApprovalsCount_eq helectorate⟩
  · exact needsMoreVotes_of_three helectorate hcard
  · obtain ⟨hrecords, hbelow⟩ := belowThresholds_of_reachable hne hs
    refine ⟨fun _ _ proposed hget => ?_, fun _ _ revocation hget => ?_, ?_⟩
    · have hopen := hbelow.proposed _ proposed hget
      refine ⟨hopen.ayes_lt, hopen.nays_lt, hopen.fair, ?_⟩
      exact hopen.exists_not_voted Bech32.casts_unique
        (approvalsCount_add_rejectsCount_le (by decide))
    · exact hbelow.revocation _ revocation hget
    · rintro ⟨ctx, msg⟩ s' k proposed hstep helectorate hget
      exact next_of_effect hrecords helectorate (step_effect hstep) hget

/-! ## Two trustees -/

/-- Deliver a message in a context with the electorate of the given accounts. -/
def deliverAmong (accounts : Dclauth.AccountStore) (s : Store) (a : Context × Msg) : Option Store :=
  if Dclauth.isKeyed a.1.accounts ∧ Dclauth.trustees a.1.accounts = Dclauth.trustees accounts then
    deliverMsg exampleLib Dclauth.exampleCodec 3 s a
  else none

theorem step_of_deliverAmong {accounts : Dclauth.AccountStore} {a : Context × Msg}
    (h : deliverAmong accounts s a = some s') :
    (certificates exampleLib Dclauth.exampleCodec).step s a s' ∧
      Electorate a.1.accounts (Dclauth.trustees accounts) := by
  unfold deliverAmong at h
  split at h
  · next hsame => exact ⟨step_of_deliverMsg h, hsame.2 ▸ Dclauth.electorate_trustees hsame.1⟩
  · cases h

/-- Two trustees. -/
def exampleTwo : Dclauth.AccountStore :=
  (KVStore.empty.set (Dclauth.accountKey (utf8 "cosmos1one"))
    (Dclauth.exampleAccount "cosmos1one" [.trustee])).set (Dclauth.accountKey (utf8 "cosmos1two"))
      (Dclauth.exampleAccount "cosmos1two" [.trustee])

/-- **Both trustees have voted, and the proposal is pending.** One of two trustees proposes a root
certificate, and the other rejects it: one approval is enough, but no handler looks at it again. -/
theorem all_trustees_voted : ∃ (T : Finset AccAddress) (s : Store) (proposed : ProposedCertificate),
    T.card = 2 ∧
    Reachable ((certificates exampleLib Dclauth.exampleCodec).restrict fun _ a =>
      Electorate a.1.accounts T) s ∧
    s.getProposedCertificate "Ug==" "01" = some proposed ∧
    ¬ proposed.approvals.length < (66 * T.card + 50) / 100 ∧
    ∀ v ∈ T, ∃ g ∈ proposed.approvals ++ proposed.rejects, Dclauth.exampleCodec.Casts g v := by
  obtain ⟨s, hs, hp⟩ := exists_reachable_of_foldlM
    (T := (certificates exampleLib Dclauth.exampleCodec).restrict fun _ a =>
      Electorate a.1.accounts (Dclauth.trustees exampleTwo))
    (p := fun s => (s.getProposedCertificate "Ug==" "01").any fun proposed : ProposedCertificate =>
      decide ((proposed.approvals ++ proposed.rejects).map Grant.address =
        ["cosmos1one", "cosmos1two"] ∧ proposed.approvals.length = 1))
    (deliverAmong exampleTwo) step_of_deliverAmong
    [(⟨exampleTwo, 50⟩, .proposeAddX509RootCert ⟨"cosmos1one", "root", "", 1⟩),
      (⟨exampleTwo, 50⟩, .rejectAddX509RootCert (exampleMsg "cosmos1two" "Ug==" "01"))]
    (by decide +kernel)
  rw [Option.any_eq_true] at hp
  obtain ⟨proposed, hget, hp⟩ := hp
  obtain ⟨hvotes, hlength⟩ := of_decide_eq_true hp
  have hcard : (Dclauth.trustees exampleTwo).card = 2 := by decide +kernel
  refine ⟨_, s, proposed, hcard, hs, hget, by rw [hlength, hcard]; decide, fun v hv => ?_⟩
  have hmembers : Dclauth.trustees exampleTwo = {utf8 "cosmos1one", utf8 "cosmos1two"} := by
    decide +kernel
  have hcast : ∃ text ∈ ["cosmos1one", "cosmos1two"], text = Dclauth.exampleCodec.string v ∧
      Dclauth.exampleCodec.accAddressFromBech32 (Dclauth.exampleCodec.string v) = .ok v := by
    rw [hmembers, Finset.mem_insert, Finset.mem_singleton] at hv
    rcases hv with rfl | rfl <;> decide +kernel
  obtain ⟨text, htext, hspelled, hdecode⟩ := hcast
  rw [← hvotes] at htext
  obtain ⟨g, hg, rfl⟩ := List.mem_map.mp htext
  exact ⟨g, hg, hspelled, hdecode⟩

/-- Deliver a message with the trustees of the example, who are three. -/
theorem step_of_deliverAmong_three {a : Context × Msg}
    (h : deliverAmong Dclauth.exampleAccounts s a = some s') :
    ((certificates exampleLib Dclauth.exampleCodec).restrict fun _ a =>
      Electorate a.1.accounts (Dclauth.trustees Dclauth.exampleAccounts) ∧
        NeedsMoreVotes Dclauth.exampleCodec a).step s a s' := by
  obtain ⟨hstep, helectorate⟩ := step_of_deliverAmong h
  exact ⟨hstep, helectorate, needsMoreVotes_of_three helectorate (by decide +kernel)⟩

/-- Of three trustees, one has proposed a root certificate: one of the others has not voted. -/
theorem example_proposal_undecided : ∃ (s : Store) (proposed : ProposedCertificate),
    Reachable ((certificates exampleLib Dclauth.exampleCodec).restrict fun _ a =>
      Electorate a.1.accounts (Dclauth.trustees Dclauth.exampleAccounts) ∧
        NeedsMoreVotes Dclauth.exampleCodec a) s ∧
    s.getProposedCertificate "Ug==" "01" = some proposed ∧
    proposed.poll.HasVoterLeft Dclauth.exampleCodec.Casts
      (Dclauth.trustees Dclauth.exampleAccounts) := by
  obtain ⟨s, hs, hp⟩ := exists_reachable_of_foldlM
    (T := (certificates exampleLib Dclauth.exampleCodec).restrict fun _ a =>
      Electorate a.1.accounts (Dclauth.trustees Dclauth.exampleAccounts) ∧
        NeedsMoreVotes Dclauth.exampleCodec a)
    (p := fun s => (s.getProposedCertificate "Ug==" "01").isSome)
    (deliverAmong Dclauth.exampleAccounts) step_of_deliverAmong_three
    [examplePropose "cosmos1one" "root"] (by decide +kernel)
  obtain ⟨proposed, hget⟩ := Option.isSome_iff_exists.mp hp
  have hne : (Dclauth.trustees Dclauth.exampleAccounts).Nonempty :=
    ⟨utf8 "cosmos1one", by decide +kernel⟩
  obtain ⟨-, -, hreachable⟩ := proposals_undecided exampleLib Dclauth.exampleCodec
    (Dclauth.trustees Dclauth.exampleAccounts) hne
  obtain ⟨hproposals, -, -⟩ := hreachable s hs
  obtain ⟨-, -, -, hleft⟩ := hproposals _ _ proposed hget
  exact ⟨s, proposed, hs, hget, hleft⟩

end ComplianceLedger.Pki
