import ComplianceLedger.Dclauth.LifeCycle
import ComplianceLedger.Dclauth.Rules

/-!
# Accounts as polls of the trustees

The trustees vote on whether a proposed account becomes active. The votes are kept with the record:
in the pending account while it is open, and then in the active or in the rejected account. A third
of the trustees is enough for an account that has no role but that of a vendor, two thirds for every
other, and one approval is always needed; the rejections that are needed do not depend on the roles.

## Main definitions

* `Account.poll`: the votes on an account; the kind of the question is the share that is needed
* `board`: the polls on accounts, by address
* `accountQuorum n percent`, `accountVeto n`: the thresholds for `n` trustees

## Main results

* `accountApprovalsCount_eq`, `accountRejectApprovalsCount_eq`: the thresholds of the handlers
* `accountQuorum_add_accountVeto_le`: the thresholds are complementary for either share
* `turn_of_effect`, `turn_of_effect_within`: every step is a turn on every address, of those
  trustees who sign
-/

open Machine

namespace ComplianceLedger.Dclauth

/-- The votes on an account. -/
def Account.poll (account : Account) : Poll ℕ Grant :=
  ⟨account.approvalsPercent, account.approvals, account.rejects⟩

/-- The votes on the revocation of an account. -/
def PendingAccountRevocation.poll (revocation : PendingAccountRevocation) : Poll Unit Grant :=
  ⟨(), revocation.approvals, []⟩

/-- The polls on pending, active and rejected accounts. An account of the genesis is active with the
votes that the genesis gives it. -/
def board : Board Store AccAddress ℕ Grant where
  pending s address := (s.getPendingAccount address).map Account.poll
  approved s address := (s.getAccountO address).map Account.poll
  rejected s address := (s.getRejectedAccount address).map Account.poll

/-! ## The thresholds -/

/-- The approvals that are needed, of `n` trustees, for a share of `percent` per cent. -/
def accountQuorum (n percent : ℕ) : ℕ := max 1 (approvalsCount percent n)

/-- The rejections that are needed, of `n` trustees. -/
def accountVeto (n : ℕ) : ℕ := rejectsCount accountApprovalsPercent n

section Thresholds

variable {accounts : AccountStore} {T : Finset AccAddress}

theorem accountApprovalsCount_eq (h : Electorate accounts T) (percent : ℕ) :
    accountApprovalsCount accounts percent = accountQuorum T.card percent := by
  unfold accountApprovalsCount accountQuorum approvalsCount
  rw [h.countAccountsWithRole]
  split <;> omega

theorem accountRejectApprovalsCount_eq (h : Electorate accounts T) (hne : T.Nonempty) :
    accountRejectApprovalsCount accounts = accountVeto T.card := by
  have hpos : 1 ≤ approvalsCount accountApprovalsPercent T.card :=
    one_le_approvalsCount (by decide) hne.card_pos
  have hle : approvalsCount accountApprovalsPercent T.card ≤ T.card := roundPercent_le (by decide)
  unfold accountRejectApprovalsCount accountVeto rejectsCount
  rw [accountApprovalsCount_eq h, h.countAccountsWithRole, accountQuorum]
  omega

theorem Account.approvalsPercent_le (account : Account) :
    account.approvalsPercent ≤ accountApprovalsPercent := by
  unfold Account.approvalsPercent
  split <;> decide

/-- **The thresholds are complementary** also where the approvals are fewer than two thirds. -/
theorem accountQuorum_add_accountVeto_le {n percent : ℕ} (hn : 1 ≤ n)
    (h : percent ≤ accountApprovalsPercent) : accountQuorum n percent + accountVeto n ≤ n + 1 := by
  have hshare : approvalsCount percent n ≤ approvalsCount accountApprovalsPercent n := by
    unfold approvalsCount roundPercent
    exact Nat.div_le_div_right (Nat.add_le_add_right (Nat.mul_le_mul_right n h) 50)
  have hpos : 1 ≤ approvalsCount accountApprovalsPercent n := one_le_approvalsCount (by decide) hn
  calc accountQuorum n percent + accountVeto n
      ≤ approvalsCount accountApprovalsPercent n + rejectsCount accountApprovalsPercent n :=
        Nat.add_le_add_right (max_le hpos hshare) _
    _ ≤ n + 1 := approvalsCount_add_rejectsCount_le (by decide)

end Thresholds

/-! ## Steps -/

section Steps

variable {bech32 : Bech32} {s s' : Store} {a : Act} {T V : Finset AccAddress}

theorem poll_update_set (accounts : KVStore Bytes Account) (address : AccAddress)
    (account : Account) :
    (fun x => ((accounts.set (accountKey address) account).get (accountKey x)).map Account.poll) =
      Function.update (fun x => (accounts.get (accountKey x)).map Account.poll) address
        (some account.poll) :=
  KVStore.update_set accountKey_injective (Option.map Account.poll) accounts address account

theorem poll_update_delete (accounts : KVStore Bytes Account) (address : AccAddress) :
    (fun x => ((accounts.delete (accountKey address)).get (accountKey x)).map Account.poll) =
      Function.update (fun x => (accounts.get (accountKey x)).map Account.poll) address none :=
  KVStore.update_delete accountKey_injective (Option.map Account.poll) accounts address

theorem SignedByTrustee.mem (helectorate : Electorate s.account T) {signer address : String}
    {signerAddr accAddr : AccAddress} (h : SignedByTrustee bech32 s signer address signerAddr accAddr)
    (hV : SignedWithin T V (bech32.accAddressFromBech32 signer)) : signerAddr ∈ V :=
  hV signerAddr ((helectorate.member signerAddr).mp h.role) h.signer

theorem PendingVote.counts_of_mem {msg : MsgAccount} {signerAddr accAddr : AccAddress}
    {found : PendingAccount} (h : PendingVote bech32 s msg signerAddr accAddr found)
    (hmem : signerAddr ∈ V) : found.poll.Counts bech32.Casts V (grantOf bech32 msg signerAddr) :=
  counts_of_not_hasGrantFrom hmem h.signer rfl h.no_approval h.no_reject

theorem PendingVote.counts (helectorate : Electorate s.account T) {msg : MsgAccount}
    {signerAddr accAddr : AccAddress} {found : PendingAccount}
    (h : PendingVote bech32 s msg signerAddr accAddr found)
    (hV : SignedWithin T V (bech32.accAddressFromBech32 msg.signer)) :
    found.poll.Counts bech32.Casts V (grantOf bech32 msg signerAddr) :=
  h.counts_of_mem (h.mem helectorate hV)

theorem RevocationVote.counts_of_mem {msg : MsgAccount} {signerAddr accAddr : AccAddress}
    {found : PendingAccountRevocation} (h : RevocationVote bech32 s msg signerAddr accAddr found)
    (hmem : signerAddr ∈ V) : found.poll.Counts bech32.Casts V (grantOf bech32 msg signerAddr) :=
  counts_of_not_hasGrantFrom hmem h.signer rfl h.no_approval rfl

theorem PendingVote.pending_eq {msg : MsgAccount} {signerAddr accAddr : AccAddress}
    {found : PendingAccount} (h : PendingVote bech32 s msg signerAddr accAddr found) :
    board.pending s accAddr = some found.poll :=
  congrArg (Option.map Account.poll) h.pending

theorem Proposal.pending_eq {msg : MsgProposeAddAccount} {signerAddr accAddr : AccAddress}
    {account : Account} (h : Proposal bech32 s msg signerAddr accAddr account) :
    board.pending s accAddr = none :=
  congrArg (Option.map Account.poll) h.not_pending

theorem Proposal.approved_eq {msg : MsgProposeAddAccount} {signerAddr accAddr : AccAddress}
    {account : Account} (h : Proposal bech32 s msg signerAddr accAddr account) :
    board.approved s accAddr = none :=
  congrArg (Option.map Account.poll) h.not_active

/-- The votes of a proposal are one approval, by the trustee who signs it. -/
theorem Proposal.fair (helectorate : Electorate s.account T) {msg : MsgProposeAddAccount}
    {signerAddr accAddr : AccAddress} {account : Account}
    (h : Proposal bech32 s msg signerAddr accAddr account)
    (hV : SignedWithin T V (bech32.accAddressFromBech32 msg.signer)) (percent : ℕ) :
    (⟨percent, [⟨bech32.string signerAddr, msg.time, msg.info⟩], account.rejects⟩ :
      Poll ℕ Grant).Fair bech32.Casts V := by
  obtain ⟨pk, -, rfl⟩ := h.account_eq
  exact Poll.fair_singleton percent (h.mem helectorate hV) (Bech32.casts_of_signer h.signer rfl)

/-- **Every step is a turn on every address**, of those trustees who sign. -/
theorem turn_of_effect_within (helectorate : Electorate s.account T) (hne : T.Nonempty)
    (hV : ∀ msg, a = .deliver msg → SignedWithin T V (bech32.accAddressFromBech32 msg.signer))
    (he : Effect bech32 s a s') (x : AccAddress) :
    board.Turn bech32.Casts V (accountQuorum T.card) (accountVeto T.card) (fun _ => False) s s'
      x := by
  have hcount := accountApprovalsCount_eq helectorate
  have hrejects := accountRejectApprovalsCount_eq helectorate hne
  cases he with
  | refused | revocationProposed | revocationApproved => exact .of_eq rfl (.of_eq rfl rfl)
  | @proposed _ _ _ account proposal count =>
    rw [hcount] at count
    have hveto : account.rejects.length < accountVeto T.card := by
      obtain ⟨pk, -, rfl⟩ := proposal.account_eq
      exact Nat.succ_pos _
    exact Board.turn_of_opened (.inl proposal.pending_eq)
      ⟨proposal.fair helectorate (hV _ rfl) account.approvalsPercent, count, hveto⟩ proposal.approved_eq
      (poll_update_set _ _ _) rfl (poll_update_delete _ _)
  | @addedAtOnce _ _ _ account proposal count =>
    -- one approval is always needed, so where one is enough it is all that is needed
    have hone : accountQuorum T.card account.approvalsPercent = 1 :=
      le_antisymm (hcount _ ▸ count) (le_max_left _ _)
    exact Board.turn_of_passedAtOnce (.inl proposal.pending_eq)
      (proposal.fair helectorate (hV _ rfl) account.approvalsPercent) hone.symm
      (Function.update_eq_self_iff.mpr proposal.pending_eq.symm).symm (poll_update_set _ _ _)
      (poll_update_delete _ _)
  | approved vote count =>
    rw [hcount] at count
    exact Board.turn_of_aye vote.pending_eq (vote.counts helectorate (hV _ rfl)) count
      (poll_update_set _ _ _) rfl rfl
  | added vote count =>
    rw [hcount] at count
    exact Board.turn_of_passed vote.pending_eq (vote.counts helectorate (hV _ rfl)) count
      (poll_update_delete _ _) (poll_update_set _ _ _) rfl
  | rejected vote count =>
    rw [hrejects] at count
    exact Board.turn_of_nay vote.pending_eq (vote.counts helectorate (hV _ rfl)) count
      (poll_update_set _ _ _) rfl rfl
  | discarded vote count =>
    rw [hrejects] at count
    exact Board.turn_of_failed vote.pending_eq (vote.counts helectorate (hV _ rfl)) count
      (poll_update_delete _ _) rfl (poll_update_set _ _ _)
  | revokedAtOnce | revoked | revokedMalicious =>
    exact Board.turn_of_removed rfl (poll_update_delete _ _) rfl
  | writtenBack pubKey sequence signed active =>
    -- the roles and the votes of the account stay
    refine .of_eq rfl (.of_eq ?_ rfl)
    refine congrFun ((poll_update_set _ _ _).trans (Function.update_eq_self_iff.mpr ?_)) x
    exact (congrArg (Option.map Account.poll) active).symm

theorem turn_of_effect (helectorate : Electorate s.account T) (hne : T.Nonempty)
    (he : Effect bech32 s a s') (x : AccAddress) :
    board.Turn bech32.Casts T (accountQuorum T.card) (accountVeto T.card) (fun _ => False) s s' x :=
  turn_of_effect_within helectorate hne (fun _ _ => .refl T _) he x

end Steps

end ComplianceLedger.Dclauth
