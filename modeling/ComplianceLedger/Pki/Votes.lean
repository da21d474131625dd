import ComplianceLedger.Pki.Roots

/-!
# The votes for a revocation

A revocation of root certificates needs the approvals of a share of the trustees. The approving
handler records the address of the voter in the spelling of the codec, and looks for it among the
approvals. The proposing handler records the text of the signer as it stands in the message, which
may be the other spelling: the proposer can then approve once more. When the proposals are signed
in the spelling of the codec, the approvals come from different accounts, each of which was a
trustee when it voted.

## Main definitions

* `isCanonical bech32 a`: a proposal to revoke is signed in the spelling of the codec
* `VotesFor bech32 k addr a`: the account votes, as a trustee, for the revocation under the key `k`
* `VotedInPoll bech32 history k addr`: such a vote was counted, and the revocation has been pending
  since
* `Ballot bech32 history k approvals voters`: the approvals are those of different voters of the poll

## Main results

* `ballots_step`, `ballots_of_trace`: every stored revocation has a ballot
* `revoked_by_distinct_trustees`: the approvals come from different trustees, and there are enough
  of these whenever a root is revoked
* `trustee_votes_twice`: what one trustee can do with two spellings
-/

open Machine Machine.TransitionSystem

namespace ComplianceLedger.Pki

section Definitions

variable (bech32 : Bech32)

/-- If the message proposes a revocation, its signer is spelled as the codec does. -/
def isCanonical : Context × Msg → Bool
  | (_, .proposeRevokeX509RootCert msg) =>
    (bech32.accAddressFromBech32 msg.signer).toOption.all fun addr =>
      msg.signer = bech32.string addr
  | _ => true

/-- The account signs a proposal or an approval of the revocation under the key `k`, and has the role
of a trustee. -/
def VotesFor (k : Bytes) (addr : AccAddress) : Context × Msg → Prop
  | (ctx, .proposeRevokeX509RootCert msg) => pairKey msg.subject msg.subjectKeyId = k ∧
      bech32.accAddressFromBech32 msg.signer = .ok addr ∧
      ctx.accounts.hasRole addr rootCertificateApprovalRole = true
  | (ctx, .approveRevokeX509RootCert msg) => pairKey msg.subject msg.subjectKeyId = k ∧
      bech32.accAddressFromBech32 msg.signer = .ok addr ∧
      ctx.accounts.hasRole addr rootCertificateApprovalRole = true
  | _ => False

/-- The approvals of the revocation that is pending under a key. -/
def Store.revocationApprovals (s : Store) (k : Bytes) : List Grant :=
  match s.proposedCertificateRevocation.get k with
  | none => []
  | some revocation => revocation.approvals

/-- The account has voted in the poll on the revocation under the key `k` that is under way: one of the
steps is its vote and adds its grant to the approvals, and the revocation has been pending since. -/
def VotedInPoll (history : List (Transition Store (Context × Msg))) (k : Bytes)
    (addr : AccAddress) : Prop :=
  ∃ earlier t later, history = earlier ++ t :: later ∧ VotesFor bech32 k addr t.label ∧
    (∃ grant : Grant, grant.address = bech32.string addr ∧
      t.after.revocationApprovals k = t.before.revocationApprovals k ++ [grant]) ∧
    ∀ u ∈ later, (u.after.proposedCertificateRevocation.get k).isSome

/-- The approvals are those of `voters`, who are different accounts that voted in the poll. -/
structure Ballot (history : List (Transition Store (Context × Msg))) (k : Bytes)
    (approvals : List Grant) (voters : List AccAddress) : Prop where
  addresses : approvals.map Grant.address = voters.map bech32.string
  decode : ∀ addr ∈ voters, bech32.accAddressFromBech32 (bech32.string addr) = .ok addr
  distinct : voters.Nodup
  voted : ∀ addr ∈ voters, VotedInPoll bech32 history k addr

/-- Every stored revocation has a ballot. -/
def Ballots (history : List (Transition Store (Context × Msg))) (s : Store) : Prop :=
  s.proposedCertificateRevocation.All fun k revocation =>
    ∃ voters, Ballot bech32 history k revocation.approvals voters

end Definitions

variable {lib : CryptoX509} {bech32 : Bech32} {ctx : Context} {s s' : Store} {msg : Msg}
  {history : List (Transition Store (Context × Msg))} {t : Transition Store (Context × Msg)}
  {k : Bytes} {addr : AccAddress} {approvals : List Grant} {voters : List AccAddress}

theorem revocationApprovals_of_get {revocation : ProposedCertificateRevocation}
    (h : s.proposedCertificateRevocation.get k = some revocation) :
    s.revocationApprovals k = revocation.approvals := by
  rw [Store.revocationApprovals, h]

/-- A vote stays one of the poll while the revocation is pending. -/
theorem VotedInPoll.step (h : VotedInPoll bech32 history k addr)
    (hpending : (t.after.proposedCertificateRevocation.get k).isSome) :
    VotedInPoll bech32 (history ++ [t]) k addr := by
  obtain ⟨earlier, vote, later, rfl, hvote, hcounted, hsince⟩ := h
  refine ⟨earlier, vote, later ++ [t], by simp, hvote, hcounted, fun u hu => ?_⟩
  rcases List.mem_append.mp hu with hu | hu
  · exact hsince u hu
  · rwa [List.mem_singleton.mp hu]

/-! ## Ballots -/

namespace Ballot

/-- A ballot stays valid while the revocation is pending. -/
theorem step (h : Ballot bech32 history k approvals voters)
    (hpending : (t.after.proposedCertificateRevocation.get k).isSome) :
    Ballot bech32 (history ++ [t]) k approvals voters :=
  ⟨h.addresses, h.decode, h.distinct, fun addr haddr => (h.voted addr haddr).step hpending⟩

theorem length_eq (h : Ballot bech32 history k approvals voters) : approvals.length = voters.length := by
  have hlength := congrArg List.length h.addresses
  rwa [List.length_map, List.length_map] at hlength

/-- The texts of the approvals decode to the voters. -/
theorem decodes (h : Ballot bech32 history k approvals voters) :
    approvals.map (fun grant => bech32.accAddressFromBech32 grant.address) = voters.map .ok := by
  have hmap := congrArg (List.map bech32.accAddressFromBech32) h.addresses
  rw [List.map_map, List.map_map] at hmap
  refine hmap.trans (List.map_congr_left fun addr haddr => ?_)
  exact h.decode addr haddr

/-- An account whose spelling is not among the approvals is not among the voters. -/
theorem not_mem (h : Ballot bech32 history k approvals voters)
    (hnew : ∀ g ∈ approvals, g.address ≠ bech32.string addr) : addr ∉ voters := by
  intro hmem
  have hspelled : bech32.string addr ∈ approvals.map Grant.address := by
    rw [h.addresses]
    exact List.mem_map_of_mem hmem
  obtain ⟨g, hg, heq⟩ := List.mem_map.mp hspelled
  exact hnew g hg heq

/-- One more vote, of an account whose spelling is not among the approvals. -/
theorem append (h : Ballot bech32 history k approvals voters) {grant : Grant}
    (hgrant : grant.address = bech32.string addr)
    (hdecode : bech32.accAddressFromBech32 (bech32.string addr) = .ok addr)
    (hnew : ∀ g ∈ approvals, g.address ≠ bech32.string addr) (hvote : VotesFor bech32 k addr t.label)
    (hbefore : t.before.revocationApprovals k = approvals)
    {revocation : ProposedCertificateRevocation}
    (hafter : t.after.proposedCertificateRevocation.get k = some revocation)
    (happrovals : revocation.approvals = approvals ++ [grant]) :
    Ballot bech32 (history ++ [t]) k revocation.approvals (voters ++ [addr]) where
  addresses := by
    rw [happrovals, List.map_append, List.map_append, h.addresses, List.map_singleton,
      List.map_singleton, hgrant]
  decode addr' haddr' := by
    rcases List.mem_append.mp haddr' with hold | hlast
    · exact h.decode addr' hold
    · rw [List.mem_singleton.mp hlast]
      exact hdecode
  distinct := by
    rw [← List.concat_eq_append]
    exact h.distinct.concat (h.not_mem hnew)
  voted addr' haddr' := by
    rcases List.mem_append.mp haddr' with hold | hlast
    · exact (h.voted addr' hold).step (Option.isSome_iff_exists.mpr ⟨_, hafter⟩)
    · rw [List.mem_singleton.mp hlast]
      refine ⟨history, t, [], rfl, hvote, ⟨grant, hgrant, ?_⟩, fun u hu => nomatch hu⟩
      rw [revocationApprovals_of_get hafter, happrovals, hbefore]

theorem nil (bech32 : Bech32) (history : List (Transition Store (Context × Msg))) (k : Bytes) :
    Ballot bech32 history k [] [] :=
  ⟨rfl, fun _ haddr => (nomatch haddr), List.nodup_nil, fun _ haddr => nomatch haddr⟩

end Ballot

/-! ## Steps and runs -/

/-- The revocations that were pending before keep their ballots, also where one is set beside them. -/
theorem Ballots.mono (h : Ballots bech32 history s) (a : Context × Msg)
    (hget : ∀ k revocation, s'.proposedCertificateRevocation.get k = some revocation →
      s.proposedCertificateRevocation.get k = some revocation ∨
        ∃ voters, Ballot bech32 (history ++ [⟨s, a, s'⟩]) k revocation.approvals voters) :
    Ballots bech32 (history ++ [⟨s, a, s'⟩]) s' := by
  intro k revocation hget'
  rcases hget k revocation hget' with hold | hballot
  · obtain ⟨voters, hballot⟩ := h k revocation hold
    exact ⟨voters, hballot.step (Option.isSome_iff_exists.mpr ⟨_, hget'⟩)⟩
  · exact hballot

/-- A revocation is set, with a ballot of its own. -/
theorem Ballots.set (h : Ballots bech32 history s) (a : Context × Msg)
    {revocation : ProposedCertificateRevocation}
    (hset : s'.proposedCertificateRevocation = s.proposedCertificateRevocation.set k revocation)
    (hballot : s'.proposedCertificateRevocation.get k = some revocation →
      ∃ voters, Ballot bech32 (history ++ [⟨s, a, s'⟩]) k revocation.approvals voters) :
    Ballots bech32 (history ++ [⟨s, a, s'⟩]) s' := by
  refine h.mono a fun k' revocation' hget => ?_
  rcases eq_or_ne k' k with rfl | hne
  · have hnew : s'.proposedCertificateRevocation.get k' = some revocation := by
      rw [hset, KVStore.get_set_self]
    obtain rfl := Option.some.inj (hget.symm.trans hnew)
    exact .inr (hballot hnew)
  · rw [hset, KVStore.get_set_of_ne _ _ hne] at hget
    exact .inl hget

/-- **One step keeps a ballot for every revocation**, if proposals are signed as the codec spells. -/
theorem ballots_step (hwf : WellFormed lib s) (h : Ballots bech32 history s)
    (he : Effect lib bech32 ctx s msg s') (hcanonical : isCanonical bech32 (ctx, msg) = true) :
    Ballots bech32 (history ++ [⟨s, (ctx, msg), s'⟩]) s' := by
  cases he with
  | refused | proposed | approved | activated | rejected | discarded | added =>
    exact h.mono _ fun _ _ hget => .inl hget
  | @revocationProposed m addr record first rest hsigner hrole free =>
    -- the text of the signer is the spelling of the codec, so that the ballot has one voter
    have hspelled : m.signer = bech32.string addr := by
      rw [isCanonical, hsigner] at hcanonical
      exact of_decide_eq_true hcanonical
    refine h.set _ rfl fun hafter => ?_
    have hnone : s.revocationApprovals (pairKey m.subject m.subjectKeyId) = [] := by
      rw [Store.revocationApprovals, free]
    have hvote : VotesFor bech32 (pairKey m.subject m.subjectKeyId) addr
        (ctx, .proposeRevokeX509RootCert m) := ⟨rfl, hsigner, hrole⟩
    exact ⟨_, (Ballot.nil bech32 history _).append hspelled (bech32.decode_string hsigner)
      (fun _ hg => nomatch hg) hvote hnone hafter rfl⟩
  | @revocationApproved m addr found hvote =>
    -- the approvals are stored back under the key that they were found under
    have hkey := hwf.records.revocation _ _ hvote.proposal
    refine h.set _ rfl fun hafter => ?_
    obtain ⟨voters, hballot⟩ := h _ _ hvote.proposal
    rw [proposedCertificateRevocationKey, ← hkey] at hafter ⊢
    have hcast : VotesFor bech32 (pairKey m.subject m.subjectKeyId) addr
        (ctx, .approveRevokeX509RootCert m) := ⟨rfl, hvote.signer, hvote.role⟩
    exact ⟨_, hballot.append rfl (bech32.decode_string hvote.signer)
      (hasGrantFrom_eq_false_iff.mp hvote.no_approval) hcast
      (revocationApprovals_of_get hvote.proposal) hafter rfl⟩
  | rootRevoked approvals t _ _ _ hget ht =>
    obtain ⟨-, hrev, -⟩ := revocation_of_rootRevoked hwf.records hget ht
    refine h.mono _ fun k revocation hget' => .inl ?_
    have hold := (KVStore.get_of_get_delete hget').2
    rwa [hrev.revocation] at hold
  | revoked t hget _ _ _ ht =>
    obtain ⟨-, hrev, -⟩ := revocation_of_revoked hwf.records hget ht
    refine h.mono _ fun k revocation hget' => .inl ?_
    change t.proposedCertificateRevocation.get k = _ at hget'
    rwa [hrev.revocation] at hget'

/-- **Every stored revocation has a ballot** in the runs whose proposals are signed as the codec
spells. -/
theorem ballots_of_trace
    (h : ((certificates lib bech32).restrict fun _ a => isCanonical bech32 a = true).Trace history s) :
    Ballots bech32 history s := by
  refine h.induction (P := fun history s => Ballots bech32 history s) ?_ ?_
  · exact KVStore.All.empty
  rintro history s ⟨ctx, msg⟩ s' hr hballots ⟨hstep, hcanonical⟩
  exact ballots_step (wellFormed_of_reachable hr.of_restrict) hballots (step_effect hstep) hcanonical

/-! ## Enough trustees -/

/-- A message is the last of enough votes for the revocation under the key `k`: it is the vote of a
trustee, other accounts have voted in the poll that is under way, each as a trustee and all different,
and together they are as many as are needed. -/
def EnoughTrustees (bech32 : Bech32) (history : List (Transition Store (Context × Msg)))
    (a : Context × Msg) (k : Bytes) : Prop :=
  ∃ (last : AccAddress) (voters : List AccAddress), VotesFor bech32 k last a ∧
    (last :: voters).Nodup ∧ certificateApprovalsCount a.1.accounts ≤ (last :: voters).length ∧
    ∀ addr ∈ voters, VotedInPoll bech32 history k addr

/-- A vote that completes the approvals is the last of enough. -/
theorem Ballots.enough (h : Ballots bech32 history s) {m : MsgIdentifier} {addr : AccAddress}
    {found : ProposedCertificateRevocation} (hvote : RevocationVote bech32 ctx s m addr found)
    (hcount : certificateApprovalsCount ctx.accounts ≤
      (found.approvals ++ [grantOf bech32 m addr]).length) :
    EnoughTrustees bech32 history (ctx, .approveRevokeX509RootCert m)
      (pairKey m.subject m.subjectKeyId) := by
  obtain ⟨voters, hballot⟩ := h _ _ hvote.proposal
  have hnew := hballot.not_mem (hasGrantFrom_eq_false_iff.mp hvote.no_approval)
  rw [List.length_append, List.length_singleton, hballot.length_eq] at hcount
  exact ⟨addr, voters, ⟨rfl, hvote.signer, hvote.role⟩, List.nodup_cons.mpr ⟨hnew, hballot.distinct⟩,
    hcount, hballot.voted⟩

/-- **Revocations by different trustees.** In every run whose proposals to revoke are signed as the
codec spells, the approvals of every stored revocation decode to different accounts, each of which
voted as a trustee since the revocation was proposed, in a step that added its approval; and an
approval that revokes a record is the last of enough such votes. If the run moreover has no aliases
and no mixed records, a root leaves the approved records only with the last of enough votes. -/
theorem revoked_by_distinct_trustees (lib : CryptoX509) (bech32 : Bech32) :
    (∀ history s subject subjectKeyID revocation,
      ((certificates lib bech32).restrict fun _ a => isCanonical bech32 a = true).Trace history s →
      s.getProposedCertificateRevocation subject subjectKeyID = some revocation →
      ∃ voters : List AccAddress, voters.Nodup ∧
        revocation.approvals.map (fun grant => bech32.accAddressFromBech32 grant.address) =
          voters.map .ok ∧
        ∀ addr ∈ voters, VotedInPoll bech32 history (pairKey subject subjectKeyID) addr) ∧
    (∀ history s ctx m record s',
      ((certificates lib bech32).restrict fun _ a => isCanonical bech32 a = true).Trace history s →
      (certificates lib bech32).step s (ctx, .approveRevokeX509RootCert m) s' →
      s.getApprovedCertificates m.subject m.subjectKeyId = some record →
      s'.getApprovedCertificates m.subject m.subjectKeyId = none →
      EnoughTrustees bech32 history (ctx, .approveRevokeX509RootCert m)
        (pairKey m.subject m.subjectKeyId)) ∧
    ∀ history s a s' subject subjectKeyID record cert,
      ((certificates lib bech32).restrict fun s a =>
        isCanonical bech32 a = true ∧ KeepsRootsApart bech32 s a).Trace history s →
      (certificates lib bech32).step s a s' → KeepsRootsApart bech32 s a →
      s.getApprovedCertificates subject subjectKeyID = some record → cert ∈ record.certs →
      cert.isRoot = true →
      (∀ record', s'.getApprovedCertificates subject subjectKeyID = some record' →
        cert ∉ record'.certs) →
      EnoughTrustees bech32 history a cert.certID.key := by
  refine ⟨?_, ?_, ?_⟩
  · intro history s subject subjectKeyID revocation htrace hget
    obtain ⟨voters, hballot⟩ := ballots_of_trace htrace _ _ hget
    exact ⟨voters, hballot.distinct, hballot.decodes, hballot.voted⟩
  · intro history s ctx m record s' htrace hstep hget hgone
    have hkept := approvedCertificates_ne_of_gone hget hgone
    have he : Effect lib bech32 ctx s (.approveRevokeX509RootCert m) s' := step_effect hstep
    cases he with
    | refused => exact absurd rfl hkept
    | revocationApproved => exact absurd rfl hkept
    | rootRevoked approvals t hvote _ hcount =>
      apply (ballots_of_trace htrace).enough hvote
      rwa [List.length_append, List.length_singleton]
  · intro history s a s' subject subjectKeyID record cert htrace hstep hapart hget hcert hroot hleft
    -- the run meets both conditions, and so each of them
    have hcanonical : ((certificates lib bech32).restrict fun _ a =>
        isCanonical bech32 a = true).Trace history s := htrace.restrict_imp fun _ _ hgood => hgood.1
    have hclean : ((certificates lib bech32).restrict (KeepsRootsApart bech32)).Reachable s :=
      (htrace.restrict_imp fun _ _ hgood => hgood.2).reachable
    have hmem : cert ∈ s.approvedCerts (pairKey subject subjectKeyID) :=
      mem_approvedCerts_iff.mpr ⟨record, hget, hcert⟩
    have hleft' : cert ∉ s'.approvedCerts (pairKey subject subjectKeyID) := by
      intro hmem'
      obtain ⟨record', hget', hcert'⟩ := mem_approvedCerts_iff.mp hmem'
      exact hleft record' hget' hcert'
    obtain ⟨ctx, msg⟩ := a
    obtain ⟨m, addr, found, rfl, hid, hvote, hcount⟩ := exists_vote_of_root_left
      (orderly_of_reachable hclean) (step_effect hstep) hapart.1 hmem hroot hleft'
    rw [← hid]
    exact (ballots_of_trace hcanonical).enough hvote hcount

/-! ## One trustee, two spellings -/

/-- The root of the example, whose revocation is proposed by a trustee in uppercase. -/
def exampleShouted : List (Context × Msg) :=
  exampleRoot ++ [exampleProposeRevoke "COSMOS1ONE" "Ug==" "01"]

/-- Four trustees, three of whom are needed. -/
def exampleCrowd : Context :=
  ⟨Dclauth.exampleAccounts.set (Dclauth.accountKey (utf8 "cosmos1four"))
    (Dclauth.exampleAccount "cosmos1four" [.trustee]), 50⟩

/-- The revocation of the root has the vote in uppercase, and the one in lowercase completes it. -/
def oneVoteMissing (s : Store) : Bool :=
  (s.getProposedCertificateRevocation "Ug==" "01").any fun revocation =>
    (deliverMsg exampleLib Dclauth.exampleCodec 3 s
      (exampleApproveRevoke "cosmos1one" "Ug==" "01")).any fun s' =>
        (s.getApprovedCertificates "Ug==" "01").any (fun record => record.certs.any (·.isRoot)) &&
          (s'.getApprovedCertificates "Ug==" "01").isNone &&
          decide (revocation.approvals.map Grant.address = ["COSMOS1ONE"])

/-- **One trustee votes twice.** A trustee proposes a revocation in uppercase and approves it in
lowercase. Where two approvals are needed the root is revoked by the votes of this account alone;
where three are needed both votes are stored. -/
theorem trustee_votes_twice :
    (certificateApprovalsCount exampleContext.accounts = 2 ∧
      ∃ s s' addr, Reachable (certificates exampleLib Dclauth.exampleCodec) s ∧
        (certificates exampleLib Dclauth.exampleCodec).step s
          (exampleApproveRevoke "cosmos1one" "Ug==" "01") s' ∧
        (s.getApprovedCertificates "Ug==" "01").any (fun record => record.certs.any (·.isRoot)) ∧
        s'.getApprovedCertificates "Ug==" "01" = none ∧
        Dclauth.exampleCodec.accAddressFromBech32 "cosmos1one" = .ok addr ∧
        ∃ revocation, s.getProposedCertificateRevocation "Ug==" "01" = some revocation ∧
          revocation.approvals.map (fun grant =>
            Dclauth.exampleCodec.accAddressFromBech32 grant.address) = [.ok addr]) ∧
    ∃ s addr, Reachable (certificates exampleLib Dclauth.exampleCodec) s ∧
      ∃ revocation, s.getProposedCertificateRevocation "Ug==" "01" = some revocation ∧
        revocation.approvals.map (fun grant =>
          Dclauth.exampleCodec.accAddressFromBech32 grant.address) = [.ok addr, .ok addr] := by
  refine ⟨⟨by decide, ?_⟩, ?_⟩
  · obtain ⟨s, hs, hp⟩ := exists_reachable_of_foldlM
      (T := certificates exampleLib Dclauth.exampleCodec)
      (p := oneVoteMissing) (deliverMsg exampleLib Dclauth.exampleCodec 3) step_of_deliverMsg
      exampleShouted (by decide +kernel)
    rw [oneVoteMissing, Option.any_eq_true] at hp
    obtain ⟨revocation, hget, hp⟩ := hp
    rw [Option.any_eq_true] at hp
    obtain ⟨s', hs', hp⟩ := hp
    rw [Bool.and_eq_true, Bool.and_eq_true, decide_eq_true_eq] at hp
    obtain ⟨⟨hroot, hnone⟩, haddresses⟩ := hp
    refine ⟨s, s', utf8 "cosmos1one", hs, step_of_deliverMsg hs', hroot,
      Option.isNone_iff_eq_none.mp hnone, rfl, revocation, hget, ?_⟩
    have hdecode := congrArg (List.map Dclauth.exampleCodec.accAddressFromBech32) haddresses
    rw [List.map_map] at hdecode
    exact hdecode
  · obtain ⟨s, hs, hp⟩ := exists_reachable_of_foldlM
      (T := certificates exampleLib Dclauth.exampleCodec)
      (p := fun s => (s.getProposedCertificateRevocation "Ug==" "01").any fun revocation =>
        decide (revocation.approvals.map Grant.address = ["COSMOS1ONE", "cosmos1one"]))
      (deliverMsg exampleLib Dclauth.exampleCodec 3) step_of_deliverMsg
      (exampleShouted ++
        [(exampleCrowd, .approveRevokeX509RootCert (exampleMsg "cosmos1one" "Ug==" "01"))])
      (by decide +kernel)
    rw [Option.any_eq_true] at hp
    obtain ⟨revocation, hget, haddresses⟩ := hp
    refine ⟨s, utf8 "cosmos1one", hs, revocation, hget, ?_⟩
    have hdecode := congrArg (List.map Dclauth.exampleCodec.accAddressFromBech32)
      (of_decide_eq_true haddresses)
    rw [List.map_map] at hdecode
    exact hdecode

/-- Deliver a message that keeps roots apart and is signed as the codec spells. -/
def deliverCanonical (s : Store) (a : Context × Msg) : Option Store :=
  if isCanonical Dclauth.exampleCodec a then deliverApart s a else none

theorem step_of_deliverCanonical {a : Context × Msg} (h : deliverCanonical s a = some s') :
    ((certificates exampleLib Dclauth.exampleCodec).restrict fun s a =>
      isCanonical Dclauth.exampleCodec a = true ∧
        KeepsRootsApart Dclauth.exampleCodec s a).step s a s' := by
  unfold deliverCanonical at h
  split at h
  · next hcanonical =>
    have hstep := step_of_deliverApart h
    exact ⟨hstep.1, hcanonical, hstep.2⟩
  · cases h

/-- Two trustees propose and approve the revocation of the example's root: the proposal has the vote
of the first, and when the root leaves there are enough votes. -/
theorem example_root_revoked_by_two : ∃ history s s', ∃ voters : List AccAddress,
    ((certificates exampleLib Dclauth.exampleCodec).restrict fun s a =>
      isCanonical Dclauth.exampleCodec a = true ∧
        KeepsRootsApart Dclauth.exampleCodec s a).Trace history s ∧
    (∃ revocation, s.getProposedCertificateRevocation "Ug==" "01" = some revocation ∧
      revocation.approvals.map (fun grant =>
        Dclauth.exampleCodec.accAddressFromBech32 grant.address) = voters.map .ok) ∧
    (certificates exampleLib Dclauth.exampleCodec).step s
      (exampleApproveRevoke "cosmos1two" "Ug==" "01") s' ∧
    EnoughTrustees Dclauth.exampleCodec history (exampleApproveRevoke "cosmos1two" "Ug==" "01")
      (pairKey "Ug==" "01") := by
  obtain ⟨history, s, hs, hp⟩ := exists_trace_of_foldlM
    (T := (certificates exampleLib Dclauth.exampleCodec).restrict fun s a =>
      isCanonical Dclauth.exampleCodec a = true ∧ KeepsRootsApart Dclauth.exampleCodec s a)
    (p := fun _ s => (s.getProposedCertificateRevocation "Ug==" "01").isSome &&
      (s.getApprovedCertificates "Ug==" "01").any fun record =>
        (record.certs.any fun cert => cert.isRoot && decide (cert.certID = ⟨"Ug==", "01"⟩)) &&
          (deliverApart s (exampleApproveRevoke "cosmos1two" "Ug==" "01")).any fun s' =>
            (s'.getApprovedCertificates "Ug==" "01").isNone)
    deliverCanonical step_of_deliverCanonical exampleRevocation (by decide +kernel)
  rw [Bool.and_eq_true, Option.any_eq_true] at hp
  obtain ⟨hsome, record, hget, hp⟩ := hp
  rw [Bool.and_eq_true, List.any_eq_true, Option.any_eq_true] at hp
  obtain ⟨⟨cert, hcert, hroot⟩, s', hs', hnone⟩ := hp
  rw [Bool.and_eq_true, decide_eq_true_eq] at hroot
  obtain ⟨revocation, hrevocation⟩ := Option.isSome_iff_exists.mp hsome
  have hstep := step_of_deliverApart hs'
  have hleft : ∀ record', s'.getApprovedCertificates "Ug==" "01" = some record' →
      cert ∉ record'.certs := by
    intro record' hget'
    rw [Option.isNone_iff_eq_none.mp hnone] at hget'
    cases hget'
  obtain ⟨hvotes, -, henough⟩ := revoked_by_distinct_trustees exampleLib Dclauth.exampleCodec
  obtain ⟨voters, -, hdecode, -⟩ := hvotes history s "Ug==" "01" revocation
    (hs.restrict_imp fun _ _ hgood => hgood.1) hrevocation
  refine ⟨history, s, s', voters, hs, ⟨revocation, hrevocation, hdecode⟩, hstep.1, ?_⟩
  have hvoters := henough history s _ s' "Ug==" "01" record cert hs hstep.1 hstep.2 hget
    hcert hroot.1 hleft
  rw [hroot.2] at hvoters
  exact hvoters

end ComplianceLedger.Pki
