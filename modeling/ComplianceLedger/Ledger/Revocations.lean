import ComplianceLedger.Dclauth.Numbers
import ComplianceLedger.Ledger.System

/-!
# The votes to revoke an account

The trustees collect their approvals to revoke an account in a record of their own, which is meant to
be about an account that is active. The messages of `dclauth` remove it with the account. The
evidence of a double signature does not: the account of the validator is revoked at once, and the
votes that were collected against it stay. When the address is added again, they count against the
new account. In the runs in which no evidence revokes an account that is proposed to be revoked, the
votes were all cast against the account that is active, under one account number.

## Main definitions

* `revokesProposed addr st act`: evidence revokes an account with votes to revoke it
* `CollectedAgainst history address account`: the votes were all cast while the account was active

## Main results

* `active_of_effect`, `proposed_of_effect`: what a step does to an account that is proposed to be
  revoked, and how it comes to be
* `collected_against_active`: the votes in the runs without such evidence
* `votes_outlive_account`: a run in which they count against another account
-/

open Machine Machine.TransitionSystem

namespace ComplianceLedger

namespace Dclauth

variable {bech32 : Bech32} {s s' : Store} {a : Act} {k : Bytes}

/-- An account that is proposed to be revoked stays active as long as it is, unless its validator has
signed twice. -/
theorem active_of_effect (he : Effect bech32 s a s')
    (hmalicious : ∀ address, a = .revokeMalicious address → k ≠ accountKey address)
    (hactive : (s.account.get k).isSome) (hbefore : (s.pendingAccountRevocation.get k).isSome)
    (hafter : (s'.pendingAccountRevocation.get k).isSome) : (s'.account.get k).isSome := by
  have hset : ∀ {k' : Bytes} (account : Account), ((s.account.set k' account).get k).isSome := by
    intro k' account
    rw [KVStore.get_set]
    split
    · rfl
    · exact hactive
  have hdelete : ∀ {k' : Bytes}, k ≠ k' → ((s.account.delete k').get k).isSome := by
    intro k' hne
    rwa [KVStore.get_delete, if_neg hne]
  cases he with
  | refused | proposed | approved | rejected | discarded | revocationProposed
  | revocationApproved => exact hactive
  | addedAtOnce | added | writtenBack => exact hset _
  | revokedAtOnce _ _ free =>
    apply hdelete
    rintro rfl
    simp [free] at hbefore
  | revoked =>
    apply hdelete
    rintro rfl
    simp [KVStore.get_delete] at hafter
  | revokedMalicious => exact hdelete (hmalicious _ rfl)

/-- Only an active account is proposed to be revoked. -/
theorem proposed_of_effect (he : Effect bech32 s a s')
    (hbefore : s.pendingAccountRevocation.get k = none)
    (hafter : (s'.pendingAccountRevocation.get k).isSome) :
    (s.account.get k).isSome ∧ s'.account = s.account := by
  have hold : ¬ (s.pendingAccountRevocation.get k).isSome := by simp [hbefore]
  cases he with
  | refused | proposed | addedAtOnce | approved | added | rejected | discarded | revokedAtOnce
  | writtenBack | revokedMalicious => exact absurd hafter hold
  | revocationProposed signed active =>
    rw [KVStore.get_set] at hafter
    split at hafter
    · next hk => exact ⟨hk ▸ Option.isSome_iff_exists.mpr ⟨_, active⟩, rfl⟩
    · exact absurd hafter hold
  | revocationApproved vote =>
    rw [KVStore.get_set_of_ne] at hafter
    · exact absurd hafter hold
    · rintro rfl
      cases hbefore.symm.trans vote.pending
  | revoked =>
    rw [KVStore.get_delete] at hafter
    split at hafter
    · cases hafter
    · exact absurd hafter hold

end Dclauth

namespace Ledger

open Validators (Addresses exampleAddresses exampleContext exampleCreate)
open Dclauth (exampleAccount exampleMsgAccount)

/-- Evidence revokes an account that is proposed to be revoked. -/
def revokesProposed (addr : Addresses) (st : State) : Act → Bool
  | .evidence ctx evidence => (doubleSigner addr st ctx evidence).any fun address =>
      (st.auth.getPendingAccountRevocation address).isSome
  | _ => false

/-- The votes to revoke the account of an address were all cast while this account was active: there
were none before the step `t`, and the account number is the same from then on. -/
def CollectedAgainst (history : List (Transition State Act)) (address : AccAddress)
    (account : Dclauth.Account) : Prop :=
  ∃ earlier t later, history = earlier ++ t :: later ∧
    t.before.auth.getPendingAccountRevocation address = none ∧
    ∀ u ∈ t :: later, (u.after.auth.getPendingAccountRevocation address).isSome ∧
      ∃ found, u.before.auth.getAccountO address = some found ∧
        found.accountNumber = account.accountNumber

section Steps

variable {lib : Pki.CryptoX509} {addr : Addresses} {genesis : List Dclauth.Account}
  {st st' : State} {act : Act} {address : AccAddress} {account account' : Dclauth.Account}
  {history : List (Transition State Act)}

/-- The votes of one more step. -/
theorem CollectedAgainst.append (h : CollectedAgainst history address account)
    (hactive : st.auth.getAccountO address = some account)
    (hafter : (st'.auth.getPendingAccountRevocation address).isSome)
    (hnumber : account'.accountNumber = account.accountNumber) :
    CollectedAgainst (history ++ [⟨st, act, st'⟩]) address account' := by
  obtain ⟨earlier, t, later, rfl, hnone, hsince⟩ := h
  refine ⟨earlier, t, later ++ [⟨st, act, st'⟩], by simp, hnone, fun u hu => ?_⟩
  rw [← List.cons_append] at hu
  rcases List.mem_append.mp hu with hu | hu
  · obtain ⟨hpending, found, hfound, hsame⟩ := hsince u hu
    exact ⟨hpending, found, hfound, hsame.trans hnumber.symm⟩
  · obtain rfl := List.mem_singleton.mp hu
    exact ⟨hafter, account, hactive, hnumber.symm⟩

/-- The first vote. -/
theorem collectedAgainst_first (hnone : st.auth.getPendingAccountRevocation address = none)
    (hafter : (st'.auth.getPendingAccountRevocation address).isSome)
    (hactive : st.auth.getAccountO address = some account) :
    CollectedAgainst (history ++ [⟨st, act, st'⟩]) address account := by
  refine ⟨history, _, [], rfl, hnone, fun u hu => ?_⟩
  obtain rfl := List.mem_singleton.mp hu
  exact ⟨hafter, account, hactive, rfl⟩

/-- **The votes of a step** are cast against the account that is active. -/
theorem collected_step (hr : (ledger lib addr genesis).Reachable st)
    (ih : ∀ address revocation, st.auth.getPendingAccountRevocation address = some revocation →
      ∃ account, st.auth.getAccountO address = some account ∧
        CollectedAgainst history address account)
    (hstep : (ledger lib addr genesis).step st act st') (hgood : revokesProposed addr st act = false)
    {revocation : Dclauth.PendingAccountRevocation}
    (hget : st'.auth.getPendingAccountRevocation address = some revocation) :
    ∃ account, st'.auth.getAccountO address = some account ∧
      CollectedAgainst (history ++ [⟨st, act, st'⟩]) address account := by
  obtain ⟨a, he, hevidence⟩ := exists_auth_effect hr hstep
  have hafter : (st'.auth.getPendingAccountRevocation address).isSome := by simp [hget]
  cases hbefore : st.auth.getPendingAccountRevocation address with
  | none =>
    obtain ⟨hactive, hsame⟩ := Dclauth.proposed_of_effect he hbefore hafter
    obtain ⟨account, haccount⟩ := Option.isSome_iff_exists.mp hactive
    refine ⟨account, ?_, collectedAgainst_first hbefore hafter haccount⟩
    rw [Dclauth.Store.getAccountO, hsame]
    exact haccount
  | some before =>
    obtain ⟨account, haccount, hcollected⟩ := ih address before hbefore
    have hkept : (st'.auth.getAccountO address).isSome := by
      refine Dclauth.active_of_effect he (fun address' ha hkey => ?_)
        (Option.isSome_iff_exists.mpr ⟨_, haccount⟩) (Option.isSome_iff_exists.mpr ⟨_, hbefore⟩) hafter
      obtain ⟨ctx, evidence, rfl, hsigner⟩ := hevidence address' ha
      obtain rfl := Dclauth.accountKey_injective hkey
      simp [revokesProposed, hsigner, hbefore] at hgood
    obtain ⟨account', haccount'⟩ := Option.isSome_iff_exists.mp hkept
    have hnumber := (Dclauth.numbering_of_effect (Dclauth.stages_of_reachable (auth_reachable hr))
      he).number_eq haccount haccount'
    exact ⟨account', haccount', hcollected.append haccount hafter hnumber⟩

end Steps

/-- **Votes to revoke an account are cast against the account that is active**, in every run in which
no evidence revokes an account that is proposed to be revoked: an address with such votes has an
active account, and the votes were all cast while it was active under its present number. -/
theorem collected_against_active (lib : Pki.CryptoX509) (addr : Addresses)
    (genesis : List Dclauth.Account) (history : List (Transition State Act)) (st : State)
    (h : ((ledger lib addr genesis).restrict fun st act =>
      revokesProposed addr st act = false).Trace history st)
    (address : AccAddress) (revocation : Dclauth.PendingAccountRevocation)
    (hget : st.auth.getPendingAccountRevocation address = some revocation) :
    ∃ account, st.auth.getAccountO address = some account ∧
      CollectedAgainst history address account := by
  refine h.induction (P := fun history st => ∀ address revocation,
    st.auth.getPendingAccountRevocation address = some revocation →
      ∃ account, st.auth.getAccountO address = some account ∧
        CollectedAgainst history address account) ?_ ?_ address revocation hget
  · -- a chain starts with active accounts only
    intro address revocation hget
    obtain ⟨accounts, accountStat, hgenesis⟩ := Dclauth.initGenesis_eq addr.acc genesis
    simp only [restrict, ledger, hgenesis] at hget
    cases hget
  · intro history st act st' hr ih hstep address revocation hget
    exact collected_step hr.of_restrict ih hstep.1 hstep.2 hget

/-! ## A validator that has signed twice -/

/-- Three trustees, and the node admin of a validator. -/
def exampleGenesis : List Dclauth.Account :=
  [exampleAccount "cosmos1one" [.trustee], exampleAccount "cosmos1two" [.trustee],
    exampleAccount "cosmos1three" [.trustee], exampleAccount "cosmos1node" [.nodeAdmin]]

/-- The validator is created, and a trustee proposes to revoke the account of its owner. -/
def exampleProposed : List Act :=
  [.validator (exampleContext .empty) (exampleCreate "node"),
    .auth (.proposeRevokeAccount (exampleMsgAccount "cosmos1one" "cosmos1node"))]

/-- The validator signs twice. -/
def exampleDoubleSign : List Act :=
  exampleProposed ++ [.evidence (exampleContext .empty) ⟨.duplicateVote, utf8 "node", 0, 0⟩]

/-- Two trustees add the account of its owner again. -/
def exampleReadded : List Act :=
  exampleDoubleSign ++
    [.auth (.proposeAddAccount ⟨"cosmos1one", "cosmos1node", some [], [.nodeAdmin], 0, "", 1⟩),
      .auth (.approveAddAccount (exampleMsgAccount "cosmos1two" "cosmos1node"))]

/-- One trustee votes to revoke the account of the node admin, which is active. -/
theorem example_collected : ∃ history st account,
    ((ledger Pki.exampleLib exampleAddresses exampleGenesis).restrict fun st act =>
      revokesProposed exampleAddresses st act = false).Trace history st ∧
    st.auth.getAccountO (utf8 "node") = some account ∧
    CollectedAgainst history (utf8 "node") account := by
  obtain ⟨history, st, h, hp⟩ := exists_trace_of_foldlM
    (T := (ledger Pki.exampleLib exampleAddresses exampleGenesis).restrict fun st act =>
      revokesProposed exampleAddresses st act = false)
    (p := fun _ st => (st.auth.getPendingAccountRevocation (utf8 "node")).isSome)
    (guarded _ (next Pki.exampleLib exampleAddresses 0)) (step_of_guarded step_of_next)
    exampleProposed (by decide +kernel)
  obtain ⟨revocation, hget⟩ := Option.isSome_iff_exists.mp hp
  obtain ⟨account, haccount, hcollected⟩ := collected_against_active Pki.exampleLib exampleAddresses
    exampleGenesis history st h (utf8 "node") revocation hget
  exact ⟨history, st, account, h, haccount, hcollected⟩

/-- **The votes outlive the account.** The validator signs twice, which revokes the account of its
owner and leaves the vote of the first trustee. The account is added again. The second trustee
approves the revocation, and the new account is revoked, with the vote that was cast against the old
one. -/
theorem votes_outlive_account :
    (∃ st, (ledger Pki.exampleLib exampleAddresses exampleGenesis).Run exampleDoubleSign st ∧
      (st.auth.getPendingAccountRevocation (utf8 "node")).isSome = true ∧
      st.auth.getAccountO (utf8 "node") = none) ∧
    (∃ st, (ledger Pki.exampleLib exampleAddresses exampleGenesis).Run exampleReadded st ∧
      (st.auth.getAccountO (utf8 "node")).isSome = true) ∧
    ∃ st revoked, (ledger Pki.exampleLib exampleAddresses exampleGenesis).Run (exampleReadded ++
        [.auth (.approveRevokeAccount (exampleMsgAccount "cosmos1two" "cosmos1node"))]) st ∧
      st.auth.getAccountO (utf8 "node") = none ∧
      st.auth.getRevokedAccount (utf8 "node") = some revoked ∧
      revoked.revokeApprovals.map Grant.address = ["cosmos1one", "cosmos1two"] := by
  refine ⟨?_, ?_, ?_⟩
  · obtain ⟨st, h, hp⟩ := exists_run_of_foldlM
      (T := ledger Pki.exampleLib exampleAddresses exampleGenesis)
      (p := fun st => (st.auth.getPendingAccountRevocation (utf8 "node")).isSome &&
        (st.auth.getAccountO (utf8 "node")).isNone)
      (next Pki.exampleLib exampleAddresses 0) step_of_next exampleDoubleSign (by decide +kernel)
    simp only [Bool.and_eq_true, Option.isNone_iff_eq_none] at hp
    exact ⟨st, h, hp⟩
  · exact exists_run_of_foldlM (next Pki.exampleLib exampleAddresses 0) step_of_next exampleReadded
      (by decide +kernel)
  · obtain ⟨st, h, hp⟩ := exists_run_of_foldlM
      (T := ledger Pki.exampleLib exampleAddresses exampleGenesis)
      (p := fun st => (st.auth.getAccountO (utf8 "node")).isNone &&
        (st.auth.getRevokedAccount (utf8 "node")).any fun revoked =>
          revoked.revokeApprovals.map Grant.address = ["cosmos1one", "cosmos1two"])
      (next Pki.exampleLib exampleAddresses 0) step_of_next
      (exampleReadded ++
        [.auth (.approveRevokeAccount (exampleMsgAccount "cosmos1two" "cosmos1node"))])
      (by decide +kernel)
    simp only [Bool.and_eq_true, Option.isNone_iff_eq_none, Option.any_eq_true,
      decide_eq_true_eq] at hp
    obtain ⟨hgone, revoked, hget, hvotes⟩ := hp
    exact ⟨st, revoked, h, hgone, hget, hvotes⟩

end Ledger

end ComplianceLedger
