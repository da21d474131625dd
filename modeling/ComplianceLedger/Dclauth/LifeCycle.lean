import ComplianceLedger.Dclauth.Effect

/-!
# The stages of an account

The records of an address tell the stage of its account: pending, active, rejected or revoked. A
pending account is neither active nor rejected, and an active one is not rejected, in every run. The
record of a revocation is different: it stays while the address is proposed again, and only the last
approval removes it. An account that becomes active as soon as it is proposed keeps it, so that the
ledger shows the account as active and as revoked.

## Main definitions

* `Stages s`: the stages that exclude each other in every run
* `ReaddsAtOnce bech32 s a`: an account with the record of a revocation becomes active as soon as it
  is proposed

## Main results

* `stages_of_reachable`: the stages exclude each other in every run
* `active_not_revoked`: so do active and revoked, unless an account is added again at once
* `stages_exclusive`: all of them together
-/

open Machine Machine.Handler Machine.TransitionSystem

namespace ComplianceLedger.Dclauth

/-- The stages that exclude each other in every run. -/
structure Stages (s : Store) : Prop where
  active_pending : s.account.Disjoint s.pendingAccount
  active_rejected : s.account.Disjoint s.rejectedAccount
  pending_rejected : s.pendingAccount.Disjoint s.rejectedAccount

/-- A message proposes an account that has the record of a revocation, and the approval of the
proposer is enough to make it active. -/
def ReaddsAtOnce (bech32 : Bech32) (s : Store) : Act → Prop
  | .deliver (.proposeAddAccount msg) =>
    (s.getRevokedAccount (bech32.getAddress msg.address)).isSome ∧
      accountApprovalsCount s.account (newAccount bech32 msg [] []).approvalsPercent ≤ 1
  | _ => False

instance instDecidableReaddsAtOnce (bech32 : Bech32) (s : Store) (a : Act) :
    Decidable (ReaddsAtOnce bech32 s a) := by
  unfold ReaddsAtOnce
  split <;> infer_instance

section Steps

variable {bech32 : Bech32} {s s' : Store} {a : Act}

/-- A step keeps the stages apart. -/
theorem stages_effect (h : Stages s) (he : Effect bech32 s a s') : Stages s' := by
  cases he with
  | refused => exact h
  | proposed proposal =>
    exact
      { active_pending := (h.active_pending.symm.set _ proposal.not_active).symm
        active_rejected := (h.active_rejected.symm.delete _).symm
        pending_rejected := h.pending_rejected.set_delete _ _ }
  | addedAtOnce proposal =>
    exact
      { active_pending := h.active_pending.set _ proposal.not_pending
        active_rejected := h.active_rejected.set_delete _ _
        pending_rejected := (h.pending_rejected.symm.delete _).symm }
  | approved vote | rejected vote =>
    exact
      { active_pending :=
          (h.active_pending.symm.set _ (h.active_pending.symm.get_eq_none vote.pending)).symm
        active_rejected := h.active_rejected
        pending_rejected := h.pending_rejected.set _ (h.pending_rejected.get_eq_none vote.pending) }
  | added vote =>
    exact
      { active_pending := h.active_pending.set_delete _ _
        active_rejected := h.active_rejected.set _ (h.pending_rejected.get_eq_none vote.pending)
        pending_rejected := h.pending_rejected.delete _ }
  | discarded vote =>
    exact
      { active_pending := (h.active_pending.symm.delete _).symm
        active_rejected :=
          (h.active_rejected.symm.set _ (h.active_pending.symm.get_eq_none vote.pending)).symm
        pending_rejected := (h.pending_rejected.symm.set_delete _ _).symm }
  | revocationProposed | revocationApproved =>
    exact ⟨h.active_pending, h.active_rejected, h.pending_rejected⟩
  | revokedAtOnce | revoked | revokedMalicious =>
    exact ⟨h.active_pending.delete _, h.active_rejected.delete _, h.pending_rejected⟩
  | writtenBack _ _ _ active =>
    exact ⟨h.active_pending.set _ (h.active_pending.get_eq_none active),
      h.active_rejected.set _ (h.active_rejected.get_eq_none active), h.pending_rejected⟩

/-- A step keeps active and revoked accounts apart, unless an account is added again at once. -/
theorem active_revoked_effect (h : s.account.Disjoint s.revokedAccount)
    (he : Effect bech32 s a s') (hgood : ¬ ReaddsAtOnce bech32 s a) :
    s'.account.Disjoint s'.revokedAccount := by
  cases he with
  | refused | proposed | approved | rejected | discarded | revocationProposed
  | revocationApproved => exact h
  | addedAtOnce proposal count =>
    refine h.set _ ?_
    by_contra hne
    refine hgood ⟨?_, ?_⟩
    · rw [Store.getRevokedAccount, Bech32.getAddress_of_ok proposal.address]
      exact Option.isSome_iff_ne_none.mpr hne
    · obtain ⟨pk, -, rfl⟩ := proposal.account_eq
      exact count
  | added => exact h.set_delete _ _
  | revokedAtOnce | revoked | revokedMalicious => exact (h.symm.set_delete _ _).symm
  | writtenBack _ _ _ active => exact h.set _ (h.get_eq_none active)

end Steps

section Runs

variable {bech32 : Bech32} {genesis : List Account} {s : Store}

/-- A chain starts with active accounts only. -/
theorem initGenesis_eq (bech32 : Bech32) (accountList : List Account) :
    ∃ accounts accountStat, initGenesis bech32 accountList =
      { Store.empty with account := accounts, accountStat := accountStat } := by
  induction accountList using List.reverseRecOn with
  | nil => exact ⟨_, _, rfl⟩
  | append_singleton accountList elem ih =>
    obtain ⟨accounts, accountStat, ih⟩ := ih
    rw [initGenesis_append_singleton, ih]
    exact ⟨_, _, rfl⟩

/-- **The stages exclude each other in every run.** -/
theorem stages_of_reachable (h : (accounts bech32 genesis).Reachable s) : Stages s := by
  refine h.induction ?_ fun hr hs hstep => stages_effect hs (effect_of_reachable hr hstep)
  obtain ⟨active, accountStat, hgenesis⟩ := initGenesis_eq bech32 genesis
  rw [accounts, hgenesis]
  exact ⟨KVStore.disjoint_empty, KVStore.disjoint_empty, KVStore.disjoint_empty⟩

/-- **An active account is not revoked**, in a run in which no account is added again at once. -/
theorem active_not_revoked
    (h : ((accounts bech32 genesis).restrict fun s a => ¬ ReaddsAtOnce bech32 s a).Reachable s) :
    s.account.Disjoint s.revokedAccount := by
  refine h.induction ?_ fun hr hs hstep =>
    active_revoked_effect hs (effect_of_reachable hr.of_restrict hstep.1) hstep.2
  obtain ⟨active, accountStat, hgenesis⟩ := initGenesis_eq bech32 genesis
  rw [restrict, accounts, hgenesis]
  exact KVStore.disjoint_empty

end Runs

/-! ## The stages of an address -/

/-- **The stages of an address exclude each other.** In every run from active accounts, an address
with an active account has no pending and no rejected one, and an address with a pending account has
no rejected one. Where no account with the record of a revocation becomes active as soon as it is
proposed, an address with an active account is not revoked either. -/
theorem stages_exclusive (bech32 : Bech32) (genesis : List Account) :
    (∀ s, (accounts bech32 genesis).Reachable s → ∀ address,
      (s.isAccountPresent address →
        s.getPendingAccount address = none ∧ s.getRejectedAccount address = none) ∧
      (s.isPendingAccountPresent address → s.getRejectedAccount address = none)) ∧
    ∀ s, ((accounts bech32 genesis).restrict fun s a => ¬ ReaddsAtOnce bech32 s a).Reachable s →
      ∀ address, s.isAccountPresent address → s.getRevokedAccount address = none := by
  refine ⟨fun s hs address => ?_, fun s hs address hactive => ?_⟩
  · have hstages := stages_of_reachable hs
    constructor
    · intro hactive
      obtain ⟨account, haccount⟩ := KVStore.has_iff.mp hactive
      exact ⟨hstages.active_pending.get_eq_none haccount,
        hstages.active_rejected.get_eq_none haccount⟩
    · intro hpending
      obtain ⟨account, haccount⟩ := KVStore.has_iff.mp hpending
      exact hstages.pending_rejected.get_eq_none haccount
  · obtain ⟨account, haccount⟩ := KVStore.has_iff.mp hactive
    exact (active_not_revoked hs).get_eq_none haccount

/-- The proposal of a vendor's account in the examples. -/
def exampleProposeAccount (signer address : String) : Act :=
  .deliver (.proposeAddAccount ⟨signer, address, some [], [.vendor], 1, "", 1⟩)

/-- The messages about an account in the examples. -/
def exampleMsgAccount (signer address : String) : MsgAccount := ⟨signer, address, "", 1⟩

/-- The only trustee adds an account, which has no record but that of an active one. -/
theorem example_stages_exclusive : ∃ s,
    ((accounts exampleCodec [exampleAccount "cosmos1one" [.trustee]]).restrict fun s a =>
      ¬ ReaddsAtOnce exampleCodec s a).Reachable s ∧
    s.isAccountPresent (utf8 "cosmos1vendor") = true ∧
    s.getPendingAccount (utf8 "cosmos1vendor") = none ∧
    s.getRejectedAccount (utf8 "cosmos1vendor") = none ∧
    s.getRevokedAccount (utf8 "cosmos1vendor") = none := by
  obtain ⟨s, hs, hactive⟩ := exists_reachable_of_foldlM
    (T := (accounts exampleCodec [exampleAccount "cosmos1one" [.trustee]]).restrict fun s a =>
      ¬ ReaddsAtOnce exampleCodec s a)
    (p := fun s => s.isAccountPresent (utf8 "cosmos1vendor"))
    (guarded _ (exec exampleCodec)) (step_of_guarded step_of_exec)
    [exampleProposeAccount "cosmos1one" "cosmos1vendor"] (by decide +kernel)
  obtain ⟨hstages, hrevoked⟩ := stages_exclusive exampleCodec [exampleAccount "cosmos1one" [.trustee]]
  obtain ⟨hpending, hrejected⟩ := (hstages s hs.of_restrict (utf8 "cosmos1vendor")).1 hactive
  exact ⟨s, hs, hactive, hpending, hrejected, hrevoked s hs _ hactive⟩

/-- The only trustee adds an account, revokes it and adds it again: it is active, and its record of
the revocation is still there. -/
theorem readded_active_and_revoked : ∃ s,
    (accounts exampleCodec [exampleAccount "cosmos1one" [.trustee]]).Run
      [exampleProposeAccount "cosmos1one" "cosmos1vendor",
        .deliver (.proposeRevokeAccount (exampleMsgAccount "cosmos1one" "cosmos1vendor")),
        exampleProposeAccount "cosmos1one" "cosmos1vendor"] s ∧
    s.isAccountPresent (utf8 "cosmos1vendor") = true ∧
    (s.getRevokedAccount (utf8 "cosmos1vendor")).isSome = true := by
  obtain ⟨s, hs, hp⟩ := exists_run_of_foldlM
    (T := accounts exampleCodec [exampleAccount "cosmos1one" [.trustee]])
    (p := fun s => s.isAccountPresent (utf8 "cosmos1vendor") &&
      (s.getRevokedAccount (utf8 "cosmos1vendor")).isSome)
    (exec exampleCodec) step_of_exec
    [exampleProposeAccount "cosmos1one" "cosmos1vendor",
      .deliver (.proposeRevokeAccount (exampleMsgAccount "cosmos1one" "cosmos1vendor")),
      exampleProposeAccount "cosmos1one" "cosmos1vendor"]
    (by decide +kernel)
  exact ⟨s, hs, Bool.and_eq_true_iff.mp hp⟩

end ComplianceLedger.Dclauth
