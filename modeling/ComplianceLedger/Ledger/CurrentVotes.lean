import ComplianceLedger.Dclauth.LifeCycle
import ComplianceLedger.Ledger.System
import ComplianceLedger.Pki.Listed

/-!
# The votes of the present trustees

The handlers check that a voter is a trustee when the vote is cast, and compare the number of votes
with the threshold when the last one arrives. In between the trustees may change: a trustee who has
voted may be revoked, which lowers the threshold and leaves the vote. An account or a root
certificate can then be approved although fewer of the present trustees have voted for it than are
needed. In the runs in which no trustee loses the role while an approval of theirs is pending, all
approvals are those of present trustees.

## Main definitions

* `CurrentVotes bech32 accounts approvals`: the approvals are those of different present trustees
* `trusteeApprovals bech32 accounts approvals`: the number of those that are
* `revoked addr st act`: the account that a step revokes, read off the state before it
* `removesVoter addr st act`: it is that of a trustee with a pending approval

## Main results

* `hasRole_of_effect`: an account keeps its roles unless it is revoked
* `pendingVotes_effect`, `proposedVotes_effect`: what a step does to the votes
* `votesCurrent_of_reachable`: all votes are current in the runs without such a step
* `approved_by_present_trustees`: what this means when a vote is the last
* `approved_by_former_trustee`: a run with such a step
-/

open Machine Machine.TransitionSystem

namespace ComplianceLedger

/-- The number of approvals that come from present trustees. -/
def trusteeApprovals (bech32 : Bech32) (accounts : Dclauth.AccountStore) (approvals : List Grant) :
    ℕ :=
  approvals.countP fun grant => accounts.hasRole (bech32.getAddress grant.address) .trustee

/-- The approvals are those of different present trustees. -/
structure CurrentVotes (bech32 : Bech32) (accounts : Dclauth.AccountStore)
    (approvals : List Grant) : Prop where
  distinct : (approvals.map Grant.address).Nodup
  current : ∀ grant ∈ approvals,
    accounts.hasRole (bech32.getAddress grant.address) .trustee = true

namespace CurrentVotes

variable {bech32 : Bech32} {accounts accounts' : Dclauth.AccountStore} {approvals : List Grant}

theorem nil : CurrentVotes bech32 accounts [] := ⟨List.nodup_nil, fun _ hg => nomatch hg⟩

theorem count (h : CurrentVotes bech32 accounts approvals) :
    trusteeApprovals bech32 accounts approvals = approvals.length :=
  List.countP_eq_length.mpr h.current

/-- One more vote, of a trustee whose spelling is not among the approvals. -/
theorem append (h : CurrentVotes bech32 accounts approvals) {text : String} {signer : AccAddress}
    (hsigner : bech32.accAddressFromBech32 text = .ok signer)
    (hrole : accounts.hasRole signer .trustee = true)
    (hnew : hasGrantFrom approvals (bech32.string signer) = false) {grant : Grant}
    (hgrant : grant.address = bech32.string signer) :
    CurrentVotes bech32 accounts (approvals ++ [grant]) where
  distinct := by
    rw [List.map_append, List.map_singleton, ← List.concat_eq_append]
    refine h.distinct.concat fun hmem => ?_
    obtain ⟨g, hg, heq⟩ := List.mem_map.mp hmem
    exact hasGrantFrom_eq_false_iff.mp hnew g hg (heq.trans hgrant)
  current g hg := by
    rcases List.mem_append.mp hg with hg | hg
    · exact h.current g hg
    · rw [List.mem_singleton.mp hg, hgrant, Bech32.getAddress_string hsigner]
      exact hrole

/-- Trustees who have voted and stay trustees. -/
theorem mono (h : CurrentVotes bech32 accounts approvals)
    (hkept : ∀ grant ∈ approvals, accounts.hasRole (bech32.getAddress grant.address) .trustee = true →
      accounts'.hasRole (bech32.getAddress grant.address) .trustee = true) :
    CurrentVotes bech32 accounts' approvals :=
  ⟨h.distinct, fun g hg => hkept g hg (h.current g hg)⟩

end CurrentVotes

/-! ## The modules -/

namespace Dclauth

variable {bech32 : Bech32} {s s' : Store} {a : Act} {msg : MsgAccount}
  {signerAddr accAddr : AccAddress} {found : PendingAccount}

/-- The account that a message revokes: the signer is a trustee who has not voted on it yet, and no
other vote is needed. -/
def revokedBy (bech32 : Bech32) (s : Store) : Msg → Option AccAddress
  | .proposeRevokeAccount msg => do
    let signerAddr ← (bech32.accAddressFromBech32 msg.signer).toOption
    let accAddr ← (bech32.accAddressFromBech32 msg.address).toOption
    if s.account.hasRole signerAddr .trustee && (s.getPendingAccountRevocation accAddr).isNone &&
        accountApprovalsCount s.account accountApprovalsPercent ≤ 1 then
      some accAddr
    else none
  | .approveRevokeAccount msg => do
    let signerAddr ← (bech32.accAddressFromBech32 msg.signer).toOption
    let accAddr ← (bech32.accAddressFromBech32 msg.address).toOption
    let found ← s.getPendingAccountRevocation accAddr
    if s.account.hasRole signerAddr .trustee &&
        !found.hasRevocationFrom (bech32.string signerAddr) &&
        accountApprovalsCount s.account accountApprovalsPercent ≤ found.approvals.length + 1 then
      some accAddr
    else none
  | _ => none

/-- **An account keeps its roles unless it is revoked**, by votes or for a double signature. -/
theorem hasRole_of_effect (hstages : Stages s) (he : Effect bech32 s a s') {address : AccAddress}
    {role : AccountRole} (hrole : s.account.hasRole address role = true) :
    s'.account.hasRole address role = true ∨
      (∃ msg, a = .deliver msg ∧ revokedBy bech32 s msg = some address) ∨
      a = .revokeMalicious address := by
  obtain ⟨account, hactive, hmem⟩ := hasRole_iff.mp hrole
  have hset : ∀ {accAddr account'}, (accAddr = address → role ∈ account'.roles) →
      AccountStore.hasRole (s.account.set (accountKey accAddr) account') address role = true := by
    intro accAddr account' hsame
    rw [hasRole_iff, KVStore.get_set]
    split
    · next hkey => exact ⟨_, rfl, hsame (accountKey_injective hkey).symm⟩
    · exact ⟨account, hactive, hmem⟩
  have hdelete : ∀ {accAddr}, accAddr ≠ address →
      AccountStore.hasRole (s.account.delete (accountKey accAddr)) address role = true := by
    intro accAddr hne
    rw [hasRole_iff, KVStore.get_delete, if_neg fun hkey => hne (accountKey_injective hkey).symm]
    exact ⟨account, hactive, hmem⟩
  cases he with
  | refused | proposed | approved | rejected | discarded | revocationProposed
  | revocationApproved => exact .inl hrole
  | addedAtOnce proposal =>
    refine .inl (hset ?_)
    rintro rfl
    cases hactive.symm.trans proposal.not_active
  | added vote =>
    refine .inl (hset ?_)
    rintro rfl
    cases vote.pending.symm.trans (hstages.active_pending.get_eq_none hactive)
  | writtenBack pubKey sequence signed active =>
    refine .inl (hset ?_)
    rintro rfl
    obtain rfl := Option.some.inj (hactive.symm.trans active)
    exact hmem
  | @revokedAtOnce msg signerAddr accAddr account' signed active free count =>
    rcases eq_or_ne accAddr address with rfl | hne
    · refine .inr (.inl ⟨_, rfl, ?_⟩)
      have hnone : s.getPendingAccountRevocation accAddr = none := free
      simp [revokedBy, signed.signer, signed.address, signed.role, hnone, count, Except.toOption]
    · exact .inl (hdelete hne)
  | @revoked msg signerAddr accAddr found account' vote active count =>
    rcases eq_or_ne accAddr address with rfl | hne
    · refine .inr (.inl ⟨_, rfl, ?_⟩)
      have hpending : s.getPendingAccountRevocation accAddr = some found := vote.pending
      simp [revokedBy, vote.signer, vote.address, vote.role, hpending, vote.no_approval, count,
        Except.toOption]
    · exact .inl (hdelete hne)
  | @revokedMalicious accAddr =>
    rcases eq_or_ne accAddr address with rfl | hne
    · exact .inr (.inr rfl)
    · exact .inl (hdelete hne)

/-- The approvals with the vote that is counted. -/
theorem PendingVote.currentVotes (hvote : PendingVote bech32 s msg signerAddr accAddr found)
    (h : CurrentVotes bech32 s.account found.approvals) :
    CurrentVotes bech32 s.account (found.approvals ++ [grantOf bech32 msg signerAddr]) :=
  h.append hvote.signer hvote.role hvote.no_approval rfl

/-- The votes on pending accounts, when the trustees who have voted stay trustees. -/
theorem pendingVotes_effect
    (h : s.pendingAccount.All fun _ pending => CurrentVotes bech32 s.account pending.approvals)
    (he : Effect bech32 s a s')
    (hkept : ∀ k pending, s.pendingAccount.get k = some pending → ∀ grant ∈ pending.approvals,
      s.account.hasRole (bech32.getAddress grant.address) .trustee = true →
      s'.account.hasRole (bech32.getAddress grant.address) .trustee = true) :
    s'.pendingAccount.All fun _ pending => CurrentVotes bech32 s'.account pending.approvals := by
  have hstay : s.pendingAccount.All fun _ pending =>
      CurrentVotes bech32 s'.account pending.approvals :=
    fun k pending hget => (h k pending hget).mono (hkept k pending hget)
  cases he with
  | refused | revocationProposed | revocationApproved => exact h
  | proposed proposal =>
    refine h.set ?_
    exact CurrentVotes.nil.append proposal.signer proposal.role rfl rfl
  | approved vote => exact h.set (vote.currentVotes (h _ _ vote.pending))
  | @rejected _ _ _ found vote => exact h.set (h _ found vote.pending)
  | addedAtOnce | revokedAtOnce | revoked | writtenBack | revokedMalicious => exact hstay
  | added => exact hstay.delete _
  | discarded => exact h.delete _

/-- An approval that ends the vote on a pending account makes it active, with enough approvals. -/
theorem added_of_effect (he : Effect bech32 s (.deliver (.approveAddAccount msg)) s')
    {address : AccAddress} (hbefore : s.getPendingAccount address = some found)
    (hafter : s'.getPendingAccount address = none) :
    ∃ signerAddr account, PendingVote bech32 s msg signerAddr address found ∧
      s'.getAccountO address = some account ∧
      account.approvals = found.approvals ++ [grantOf bech32 msg signerAddr] ∧
      accountApprovalsCount s.account account.approvalsPercent ≤ account.approvals.length := by
  cases he with
  | refused => cases hbefore.symm.trans hafter
  | approved => exact absurd hafter (KVStore.get_ne_none_of_set hbefore)
  | @added _ signerAddr accAddr voted vote count =>
    obtain rfl := accountKey_injective (KVStore.eq_of_get_delete_eq_none hbefore hafter)
    obtain rfl := Option.some.inj (hbefore.symm.trans vote.pending)
    refine ⟨signerAddr, _, vote, KVStore.get_set_self _ _ _, rfl, ?_⟩
    rw [List.length_append]
    exact count

end Dclauth

namespace Pki

variable {lib : CryptoX509} {bech32 : Bech32} {ctx : Context} {s s' : Store} {msg : Msg}
  {m : MsgIdentifier} {addr : AccAddress} {found : ProposedCertificate}

/-- The approvals with the vote that is counted. -/
theorem ProposalVote.currentVotes (hvote : ProposalVote bech32 ctx s m addr found)
    (h : CurrentVotes bech32 ctx.accounts found.approvals) :
    CurrentVotes bech32 ctx.accounts (found.approvals ++ [grantOf bech32 m addr]) :=
  h.append hvote.signer hvote.role hvote.no_approval rfl

/-- The votes on proposed certificates. -/
theorem proposedVotes_effect (hrecords : Records lib s)
    (h : s.proposedCertificate.All fun _ proposed =>
      CurrentVotes bech32 ctx.accounts proposed.approvals)
    (he : Effect lib bech32 ctx s msg s') :
    s'.proposedCertificate.All fun _ proposed =>
      CurrentVotes bech32 ctx.accounts proposed.approvals := by
  cases he with
  | refused | added | revocationProposed | revocationApproved => exact h
  | proposed approvals _ _ _ _ _ _ signer approvals_eq =>
    refine KVStore.All.set h ?_
    subst approvals_eq
    unfold proposalOf
    split
    · next hrole => exact CurrentVotes.nil.append signer hrole rfl rfl
    · exact CurrentVotes.nil
  | approved vote => exact KVStore.All.set h (vote.currentVotes (h _ _ vote.proposal))
  | @rejected _ _ found vote => exact KVStore.All.set h (h _ found vote.proposal)
  | activated | discarded => exact KVStore.All.delete h _
  | rootRevoked approvals t _ _ _ hcerts ht =>
    obtain ⟨-, hrev, -⟩ := revocation_of_rootRevoked hrecords hcerts ht
    change t.proposedCertificate.All _
    rwa [hrev.proposed]
  | revoked t hcerts _ _ _ ht =>
    obtain ⟨-, hrev, -⟩ := revocation_of_revoked hrecords hcerts ht
    change t.proposedCertificate.All _
    rwa [hrev.proposed]

/-- An approval that ends the vote on a proposed certificate adds it as a root, with enough
approvals. -/
theorem activated_of_effect (hrecords : Records lib s)
    (he : Effect lib bech32 ctx s (.approveAddX509RootCert m) s') {k : Bytes}
    (hbefore : s.proposedCertificate.get k = some found)
    (hafter : s'.proposedCertificate.get k = none) :
    ∃ addr cert, ProposalVote bech32 ctx s m addr found ∧ cert ∈ s'.approvedCerts k ∧
      cert.isRoot = true ∧ cert.approvals = found.approvals ++ [grantOf bech32 m addr] ∧
      certificateApprovalsCount ctx.accounts ≤ cert.approvals.length := by
  cases he with
  | refused => cases hbefore.symm.trans hafter
  | approved => exact absurd hafter (KVStore.get_ne_none_of_set hbefore)
  | @activated _ addr voted cert vote count cert_eq =>
    obtain rfl : k = pairKey m.subject m.subjectKeyId :=
      KVStore.eq_of_get_delete_eq_none hbefore hafter
    obtain rfl := Option.some.inj (hbefore.symm.trans vote.proposal)
    obtain ⟨⟨x, hreads⟩, hroot, hkey⟩ := vote.reads_cert hrecords cert_eq
    have happrovals : cert.approvals = found.approvals ++ [grantOf bech32 m addr] := by
      rw [cert_eq]
      rfl
    refine ⟨addr, cert, vote, ?_, hroot, happrovals, ?_⟩
    · exact (hrecords.mem_addApprovedCertificate hreads).mpr (Or.inr ⟨hkey.symm, rfl⟩)
    · rw [happrovals, List.length_append]
      exact count

end Pki

/-! ## Runs -/

namespace Ledger

open Validators (Addresses exampleAddresses)
open Dclauth (exampleAccount exampleMsgAccount)

/-- The approvals of pending accounts and proposed certificates. -/
def State.pendingApprovals (st : State) : List Grant :=
  st.auth.pendingAccount.values.flatMap Dclauth.Account.approvals ++
    st.pki.proposedCertificate.values.flatMap Pki.ProposedCertificate.approvals

section Definitions

variable (addr : Addresses) (st : State)

/-- The account that a step revokes. -/
def revoked : Act → Option AccAddress
  | .auth msg => Dclauth.revokedBy addr.acc st.auth msg
  | .evidence ctx evidence => doubleSigner addr st ctx evidence
  | _ => none

/-- A trustee is revoked while an approval of theirs is pending. -/
def removesVoter (act : Act) : Bool :=
  (revoked addr st act).any fun address => st.auth.account.hasRole address .trustee &&
    st.pendingApprovals.any fun grant => addr.acc.getAddress grant.address = address

/-- The pending approvals are those of present trustees. -/
structure VotesCurrent : Prop where
  account : st.auth.pendingAccount.All fun _ pending =>
    CurrentVotes addr.acc st.auth.account pending.approvals
  certificate : st.pki.proposedCertificate.All fun _ proposed =>
    CurrentVotes addr.acc st.auth.account proposed.approvals

end Definitions

section Steps

variable {lib : Pki.CryptoX509} {addr : Addresses} {genesis : List Dclauth.Account}
  {st st' : State} {act : Act}

/-- An account keeps its roles in a step, unless the step revokes it. -/
theorem hasRole_or_revoked (hr : (ledger lib addr genesis).Reachable st)
    (hstep : (ledger lib addr genesis).step st act st') {address : AccAddress}
    {role : Dclauth.AccountRole} (hrole : st.auth.account.hasRole address role = true) :
    st'.auth.account.hasRole address role = true ∨ revoked addr st act = some address := by
  have hauth := auth_reachable hr
  have hstages := Dclauth.stages_of_reachable hauth
  rcases auth_cases hstep with ⟨msg, rfl, hmsg⟩ | ⟨signer, pubKey, sequence, rfl, hback⟩ |
    ⟨ctx, evidence, signer, rfl, hsigner, hrevoke⟩ | hsame
  · rcases Dclauth.hasRole_of_effect hstages (Dclauth.effect_of_reachable hauth hmsg) hrole with
      hkept | ⟨msg', heq, hrevoked⟩ | heq
    · exact .inl hkept
    · obtain rfl := Dclauth.Act.deliver.inj heq
      exact .inr hrevoked
    · cases heq
  · rcases Dclauth.hasRole_of_effect hstages (Dclauth.effect_of_reachable hauth hback) hrole with
      hkept | ⟨msg', heq, -⟩ | heq
    · exact .inl hkept
    · cases heq
    · cases heq
  · rcases Dclauth.hasRole_of_effect hstages (Dclauth.effect_of_reachable hauth hrevoke) hrole with
      hkept | ⟨msg', heq, -⟩ | heq
    · exact .inl hkept
    · cases heq
    · obtain rfl := Dclauth.Act.revokeMalicious.inj heq
      exact .inr hsigner
  · exact .inl (hsame ▸ hrole)

/-- A trustee whose approval is pending stays a trustee. -/
theorem hasRole_of_step (hr : (ledger lib addr genesis).Reachable st)
    (hstep : (ledger lib addr genesis).step st act st')
    (hgood : removesVoter addr st act = false) {grant : Grant} (hgrant : grant ∈ st.pendingApprovals)
    (hrole : st.auth.account.hasRole (addr.acc.getAddress grant.address) .trustee = true) :
    st'.auth.account.hasRole (addr.acc.getAddress grant.address) .trustee = true := by
  rcases hasRole_or_revoked hr hstep hrole with hkept | hrevoked
  · exact hkept
  · have hremoves : removesVoter addr st act = true := by
      rw [removesVoter, hrevoked, Option.any_some, hrole, Bool.true_and, List.any_eq_true]
      exact ⟨grant, hgrant, decide_eq_true rfl⟩
    cases hgood.symm.trans hremoves

theorem mem_pendingApprovals_of_account {k : Bytes} {pending : Dclauth.PendingAccount}
    {grant : Grant} (hget : st.auth.pendingAccount.get k = some pending)
    (hgrant : grant ∈ pending.approvals) : grant ∈ st.pendingApprovals :=
  List.mem_append_left _ (List.mem_flatMap.mpr ⟨_, KVStore.mem_values_iff.mpr ⟨k, hget⟩, hgrant⟩)

theorem mem_pendingApprovals_of_certificate {k : Bytes} {proposed : Pki.ProposedCertificate}
    {grant : Grant} (hget : st.pki.proposedCertificate.get k = some proposed)
    (hgrant : grant ∈ proposed.approvals) : grant ∈ st.pendingApprovals :=
  List.mem_append_right _ (List.mem_flatMap.mpr ⟨_, KVStore.mem_values_iff.mpr ⟨k, hget⟩, hgrant⟩)

/-- **A step keeps the votes current**, unless a trustee loses the role while an approval of theirs is
pending. -/
theorem votesCurrent_step (hr : (ledger lib addr genesis).Reachable st) (h : VotesCurrent addr st)
    (hstep : (ledger lib addr genesis).step st act st')
    (hgood : removesVoter addr st act = false) : VotesCurrent addr st' := by
  obtain ⟨a, he, -⟩ := exists_auth_effect hr hstep
  refine ⟨Dclauth.pendingVotes_effect h.account he fun k pending hget grant hgrant => ?_, ?_⟩
  · exact hasRole_of_step hr hstep hgood (mem_pendingApprovals_of_account hget hgrant)
  · have hstay : st.pki.proposedCertificate.All fun _ proposed =>
        CurrentVotes addr.acc st'.auth.account proposed.approvals := by
      intro k proposed hget
      refine (h.certificate k proposed hget).mono fun grant hgrant => ?_
      exact hasRole_of_step hr hstep hgood (mem_pendingApprovals_of_certificate hget hgrant)
    cases act with
    | pki now msg =>
      obtain ⟨pki, hpki, rfl⟩ := hstep
      exact Pki.proposedVotes_effect (Pki.wellFormed_of_reachable (pki_reachable hr)).records
        h.certificate (Pki.step_effect hpki)
    | evidence =>
      obtain ⟨validators, address, -, rfl⟩ := hstep
      exact hstay
    | auth | writeBack | validator | upgrade | endBlock =>
      obtain ⟨store, -, rfl⟩ := hstep
      exact hstay

theorem votesCurrent_of_reachable
    (h : ((ledger lib addr genesis).restrict fun st act =>
      removesVoter addr st act = false).Reachable st) : VotesCurrent addr st := by
  refine h.induction (P := VotesCurrent addr) ⟨?_, .empty⟩ fun hr hs hstep =>
    votesCurrent_step hr.of_restrict hs hstep.1 hstep.2
  obtain ⟨accounts, accountStat, hgenesis⟩ := Dclauth.initGenesis_eq addr.acc genesis
  rw [restrict, ledger, hgenesis]
  exact .empty

end Steps

/-- **What is approved is approved by present trustees**, in the runs in which no trustee loses the
role while an approval of theirs is pending. When an approval makes a pending account active, or adds
a proposed root certificate, as many approvals as are needed at that time come from accounts that are
trustees at that time, each from another one. -/
theorem approved_by_present_trustees (lib : Pki.CryptoX509) (addr : Addresses)
    (genesis : List Dclauth.Account) (st : State)
    (h : ((ledger lib addr genesis).restrict fun st act =>
      removesVoter addr st act = false).Reachable st) :
    (∀ msg st' address found,
      (ledger lib addr genesis).step st (.auth (.approveAddAccount msg)) st' →
      st.auth.getPendingAccount address = some found → st'.auth.getPendingAccount address = none →
      ∃ account, st'.auth.getAccountO address = some account ∧
        (account.approvals.map Grant.address).Nodup ∧
        Dclauth.accountApprovalsCount st.auth.account account.approvalsPercent ≤
          trusteeApprovals addr.acc st.auth.account account.approvals) ∧
    ∀ now msg st' subject subjectKeyID found,
      (ledger lib addr genesis).step st (.pki now (.approveAddX509RootCert msg)) st' →
      st.pki.getProposedCertificate subject subjectKeyID = some found →
      st'.pki.getProposedCertificate subject subjectKeyID = none →
      ∃ cert ∈ st'.pki.approvedCerts (Pki.pairKey subject subjectKeyID), cert.isRoot = true ∧
        (cert.approvals.map Grant.address).Nodup ∧
        Pki.certificateApprovalsCount st.auth.account ≤
          trusteeApprovals addr.acc st.auth.account cert.approvals := by
  have hcurrent := votesCurrent_of_reachable h
  refine ⟨fun msg st' address found hstep hbefore hafter => ?_,
    fun now msg st' subject subjectKeyID found hstep hbefore hafter => ?_⟩
  · obtain ⟨auth, hauth, rfl⟩ := hstep
    have he := Dclauth.effect_of_reachable (auth_reachable h.of_restrict) hauth
    obtain ⟨signer, account, hvote, haccount, happrovals, hcount⟩ :=
      Dclauth.added_of_effect he hbefore hafter
    have hvotes := hvote.currentVotes (hcurrent.account _ _ hbefore)
    rw [← happrovals] at hvotes
    exact ⟨account, haccount, hvotes.distinct, hvotes.count ▸ hcount⟩
  · obtain ⟨pki, hpki, rfl⟩ := hstep
    have hrecords := (Pki.wellFormed_of_reachable (pki_reachable h.of_restrict)).records
    obtain ⟨signer, cert, hvote, hcert, hroot, happrovals, hcount⟩ :=
      Pki.activated_of_effect hrecords (Pki.step_effect hpki) hbefore hafter
    have hvotes := hvote.currentVotes (hcurrent.certificate _ _ hbefore)
    rw [← happrovals] at hvotes
    exact ⟨cert, hcert, hroot, hvotes.distinct, hvotes.count ▸ hcount⟩

/-! ## Four trustees -/

/-- Four trustees. -/
def exampleTrustees : List Dclauth.Account :=
  ["one", "two", "three", "four"].map fun name => exampleAccount ("cosmos1" ++ name) [.trustee]

/-- A trustee proposes an account and a root certificate. -/
def exampleProposals : List Act :=
  [.auth (.proposeAddAccount
      ⟨"cosmos1one", "cosmos1new", some [], [.certificationCenter], 0, "", 1⟩),
    .pki 50 (.proposeAddX509RootCert ⟨"cosmos1one", "root", "", 1⟩)]

/-- Two more trustees approve the account: the third approval is the last. -/
theorem example_approved : ∃ st st' account,
    ((ledger Pki.exampleLib exampleAddresses exampleTrustees).restrict fun st act =>
      removesVoter exampleAddresses st act = false).Reachable st ∧
    (ledger Pki.exampleLib exampleAddresses exampleTrustees).step st
      (.auth (.approveAddAccount (exampleMsgAccount "cosmos1three" "cosmos1new"))) st' ∧
    st'.auth.getAccountO (utf8 "new") = some account ∧
    3 ≤ trusteeApprovals exampleAddresses.acc st.auth.account account.approvals := by
  obtain ⟨st, h, hp⟩ := exists_reachable_of_foldlM
    (T := (ledger Pki.exampleLib exampleAddresses exampleTrustees).restrict fun st act =>
      removesVoter exampleAddresses st act = false)
    (p := fun st => (next Pki.exampleLib exampleAddresses 3 st
      (.auth (.approveAddAccount (exampleMsgAccount "cosmos1three" "cosmos1new")))).any fun st' =>
        (st.auth.getPendingAccount (utf8 "new")).isSome &&
        (st'.auth.getPendingAccount (utf8 "new")).isNone &&
        (st'.auth.getAccountO (utf8 "new")).all fun account =>
          Dclauth.accountApprovalsCount st.auth.account account.approvalsPercent = 3)
    (guarded _ (next Pki.exampleLib exampleAddresses 3)) (step_of_guarded step_of_next)
    (exampleProposals ++
      [.auth (.approveAddAccount (exampleMsgAccount "cosmos1two" "cosmos1new"))])
    (by decide +kernel)
  simp only [Bool.and_eq_true, Option.any_eq_true, Option.isNone_iff_eq_none] at hp
  obtain ⟨st', hst', ⟨hpending, hgone⟩, hcount⟩ := hp
  obtain ⟨found, hfound⟩ := Option.isSome_iff_exists.mp hpending
  obtain ⟨haccounts, -⟩ :=
    approved_by_present_trustees Pki.exampleLib exampleAddresses exampleTrustees st h
  obtain ⟨account, haccount, -, henough⟩ :=
    haccounts _ st' (utf8 "new") found (step_of_next hst') hfound hgone
  rw [haccount, Option.all_some, decide_eq_true_eq] at hcount
  exact ⟨st, st', account, h, step_of_next hst', haccount, hcount ▸ henough⟩

/-- The other trustees revoke the account of the first. -/
def exampleRevoked : List Act :=
  exampleProposals ++
    [.auth (.proposeRevokeAccount (exampleMsgAccount "cosmos1two" "cosmos1one")),
      .auth (.approveRevokeAccount (exampleMsgAccount "cosmos1three" "cosmos1one")),
      .auth (.approveRevokeAccount (exampleMsgAccount "cosmos1four" "cosmos1one"))]

/-- The second trustee approves the account, and the root certificate. -/
def exampleApproveAccount : Act :=
  .auth (.approveAddAccount (exampleMsgAccount "cosmos1two" "cosmos1new"))

def exampleApproveRoot : Act :=
  .pki 50 (.approveAddX509RootCert (Pki.exampleMsg "cosmos1two" "Ug==" "01"))

/-- **Approved with the vote of a former trustee.** Of four trustees, one has proposed an account and
a root certificate, for each of which three approvals are needed, and is then revoked. Of the three
that are left, two are needed. One of them approves the account, and it becomes active; one approves
the root, and it is added. The other approval is that of the former trustee. -/
theorem approved_by_former_trustee : ∃ st,
    (ledger Pki.exampleLib exampleAddresses exampleTrustees).Run exampleRevoked st ∧
    (∃ st' account,
      (ledger Pki.exampleLib exampleAddresses exampleTrustees).step st exampleApproveAccount st' ∧
      (st.auth.getPendingAccount (utf8 "new")).isSome = true ∧
      st'.auth.getPendingAccount (utf8 "new") = none ∧
      st'.auth.getAccountO (utf8 "new") = some account ∧
      trusteeApprovals exampleAddresses.acc st.auth.account account.approvals = 1 ∧
      Dclauth.accountApprovalsCount st.auth.account account.approvalsPercent = 2) ∧
    ∃ st', (ledger Pki.exampleLib exampleAddresses exampleTrustees).step st exampleApproveRoot st' ∧
      (st.pki.getProposedCertificate "Ug==" "01").isSome = true ∧
      st'.pki.getProposedCertificate "Ug==" "01" = none ∧
      (st'.pki.approvedCerts (Pki.pairKey "Ug==" "01")).map (fun cert =>
        trusteeApprovals exampleAddresses.acc st.auth.account cert.approvals) = [1] ∧
      Pki.certificateApprovalsCount st.auth.account = 2 := by
  obtain ⟨st, h, hp⟩ := exists_run_of_foldlM
    (T := ledger Pki.exampleLib exampleAddresses exampleTrustees)
    (p := fun st =>
      ((next Pki.exampleLib exampleAddresses 3 st exampleApproveAccount).any fun st' =>
        (st'.auth.getAccountO (utf8 "new")).any fun account =>
          (st.auth.getPendingAccount (utf8 "new")).isSome &&
          (st'.auth.getPendingAccount (utf8 "new")).isNone &&
          trusteeApprovals exampleAddresses.acc st.auth.account account.approvals = 1 &&
          Dclauth.accountApprovalsCount st.auth.account account.approvalsPercent = 2) &&
      (next Pki.exampleLib exampleAddresses 3 st exampleApproveRoot).any fun st' =>
        (st.pki.getProposedCertificate "Ug==" "01").isSome &&
        (st'.pki.getProposedCertificate "Ug==" "01").isNone &&
        (st'.pki.approvedCerts (Pki.pairKey "Ug==" "01")).map (fun cert =>
          trusteeApprovals exampleAddresses.acc st.auth.account cert.approvals) = [1] &&
        Pki.certificateApprovalsCount st.auth.account = 2)
    (next Pki.exampleLib exampleAddresses 3) step_of_next exampleRevoked (by decide +kernel)
  simp only [Bool.and_eq_true, Option.any_eq_true, Option.isNone_iff_eq_none,
    decide_eq_true_eq] at hp
  obtain ⟨⟨st₁, hst₁, account, haccount, ⟨⟨hpending, hgone⟩, hvotes⟩, hcount⟩, st₂, hst₂,
    ⟨⟨hproposed, hgone'⟩, hvotes'⟩, hcount'⟩ := hp
  exact ⟨st, h, ⟨st₁, account, step_of_next hst₁, hpending, hgone, haccount, hvotes, hcount⟩,
    st₂, step_of_next hst₂, hproposed, hgone', hvotes', hcount'⟩

end Ledger

end ComplianceLedger
