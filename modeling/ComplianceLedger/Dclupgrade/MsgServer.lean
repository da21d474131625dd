import ComplianceLedger.Dclupgrade.Keeper
import ComplianceLedger.Machine.TransitionSystem

/-!
# The upgrade proposals of the ledger: message handlers

The three handlers, and the runs of the module as the deliveries of their messages. The inversion
lemmas say what a successful handler has found and what it has written; the later modules use
nothing else of the handlers.

## Main definitions

* `proposeUpgrade`, `approveUpgrade`, `rejectUpgrade`: the handlers
* `Msg`, `handle`, `upgrades`: the messages and the runs of the module

## Main results

* `proposeUpgrade_ok`, `approveUpgrade_ok`, `rejectUpgrade_ok`: the successful runs of the handlers
-/

open Machine Machine.Handler

namespace ComplianceLedger.Dclupgrade

/-- The fields of `MsgProposeUpgrade`. -/
structure MsgProposeUpgrade where
  creator : String
  plan : Plan
  info : String
  time : ℤ
deriving DecidableEq, Repr

/-- The fields of `MsgApproveUpgrade` and of `MsgRejectUpgrade`. -/
structure MsgVoteUpgrade where
  creator : String
  name : String
  info : String
  time : ℤ
deriving DecidableEq, Repr

/-- The messages of the module. -/
inductive Msg
  | proposeUpgrade (msg : MsgProposeUpgrade)
  | approveUpgrade (msg : MsgVoteUpgrade)
  | rejectUpgrade (msg : MsgVoteUpgrade)
deriving DecidableEq, Repr

section Handlers

variable (bech32 : Bech32) (ctx : Context)

/-- The text of a missing role. -/
def missingRole (message : String) : SdkError :=
  ⟨errUnauthorized, message ++ " transaction should be signed by an account with the " ++
    upgradeApprovalRole.name ++ " role"⟩

/-- The text of a second vote, with the `kind` of the first. -/
def alreadyVoted (msg : MsgVoteUpgrade) (kind : String) : SdkError :=
  ⟨errUnauthorized, "Proposed upgrade with name=" ++ msg.name ++ " already has " ++ kind ++
    " from=" ++ msg.creator⟩

/-- The proposal is in the way of a new one of the same name, unless its height has passed. -/
def dropExpired (name : String) : Handler SdkError Store Unit := do
  let existing ← read fun s => s.getProposedUpgrade name
  match existing with
  | none => pure ()
  | some upgrade =>
    -- an upgrade at the height of this very block has not expired
    if upgrade.plan.height < ctx.blockHeight then
      write (Store.removeProposedUpgrade name)
    else fail (newErrProposedUpgradeAlreadyExists name)

/-- Store a new proposal, or the approved upgrade when the approval of its creator is enough; the
branch the plan was scheduled on is then written back. -/
def storeProposal (cache : Store) (upgrade : ProposedUpgrade) : Handler SdkError Store Unit :=
  if 1 < upgradeApprovalsCount ctx then
    write (Store.setProposedUpgrade upgrade)
  else do
    -- nothing but the plan was written on the branch
    write fun s => { s with plan := cache.plan }
    write (Store.setApprovedUpgrade upgrade)

/-- Propose an upgrade. The plan is scheduled on a branch of the store first, to validate it. -/
def proposeUpgrade (msg : MsgProposeUpgrade) : Handler SdkError Store Unit := do
  let creatorAddr ← ofExcept (bech32.signer msg.creator)
  failIf (ctx.accounts.hasRole creatorAddr upgradeApprovalRole = false)
    (missingRole "MsgProposeUpgrade")
  let cache ← branch (scheduleUpgrade ctx msg.plan)
  dropExpired ctx msg.plan.name
  let approved ← read fun s => s.getApprovedUpgrade msg.plan.name
  failIf (approved.isSome) (newErrApprovedUpgradeAlreadyExists msg.plan.name)
  let grant : Grant := ⟨bech32.string creatorAddr, msg.time, msg.info⟩
  storeProposal ctx cache ⟨msg.plan, msg.creator, [grant], []⟩
  write (Store.removeRejectedUpgrade msg.plan.name)

/-- What approving and rejecting check before the vote is counted: the role of the voter, the
proposal, and that the voter has not voted on it. -/
def findProposal (message : String) (msg : MsgVoteUpgrade) :
    Handler SdkError Store (AccAddress × ProposedUpgrade) := do
  let creatorAddr ← ofExcept (bech32.signer msg.creator)
  failIf (ctx.accounts.hasRole creatorAddr upgradeApprovalRole = false) (missingRole message)
  let upgrade ← readSome (fun s => s.getProposedUpgrade msg.name)
    (newErrProposedUpgradeDoesNotExist msg.name)
  failIf (upgrade.hasRejectFrom (bech32.string creatorAddr)) (alreadyVoted msg "reject")
  failIf (upgrade.hasApprovalFrom (bech32.string creatorAddr)) (alreadyVoted msg "approval")
  pure (creatorAddr, upgrade)

/-- The vote of a message. -/
def grantOf (msg : MsgVoteUpgrade) (creatorAddr : AccAddress) : Grant :=
  ⟨bech32.string creatorAddr, msg.time, msg.info⟩

/-- Approve a proposed upgrade. Short of the threshold the plan is scheduled on a branch of the
store that is dropped. -/
def approveUpgrade (msg : MsgVoteUpgrade) : Handler SdkError Store Unit := do
  let (creatorAddr, found) ← findProposal bech32 ctx "MsgApproveUpgrade" msg
  let upgrade := { found with approvals := found.approvals ++ [grantOf bech32 msg creatorAddr] }
  if upgradeApprovalsCount ctx ≤ upgrade.approvals.length then
    scheduleUpgrade ctx upgrade.plan
    write (Store.removeProposedUpgrade upgrade.plan.name)
    write (Store.setApprovedUpgrade upgrade)
  else
    let _ ← branch (scheduleUpgrade ctx upgrade.plan)
    write (Store.setProposedUpgrade upgrade)

/-- Reject a proposed upgrade. The source schedules the plan when the rejection is complete, and
reports a missing role under the name of the approving message. -/
def rejectUpgrade (msg : MsgVoteUpgrade) : Handler SdkError Store Unit := do
  let (creatorAddr, found) ← findProposal bech32 ctx "MsgApproveUpgrade" msg
  let upgrade := { found with rejects := found.rejects ++ [grantOf bech32 msg creatorAddr] }
  if upgradeRejectsCount ctx ≤ upgrade.rejects.length then
    scheduleUpgrade ctx upgrade.plan
    write (Store.removeProposedUpgrade upgrade.plan.name)
    write (Store.setRejectedUpgrade upgrade)
  else
    write (Store.setProposedUpgrade upgrade)

/-- The handler of a message. -/
def handle : Msg → Handler SdkError Store Unit
  | .proposeUpgrade msg => proposeUpgrade bech32 ctx msg
  | .approveUpgrade msg => approveUpgrade bech32 ctx msg
  | .rejectUpgrade msg => rejectUpgrade bech32 ctx msg

end Handlers

/-! ## The successful runs of the handlers -/

section Inversion

variable {bech32 : Bech32} {ctx : Context} {s s' : Store} {u : Unit}

theorem dropExpired_ok {name : String} (h : dropExpired ctx name s = some (.ok u, s')) :
    (∀ upgrade, s.getProposedUpgrade name = some upgrade → upgrade.plan.height < ctx.blockHeight) ∧
      s' = s.removeProposedUpgrade name := by
  rw [dropExpired, read_bind_ok_iff] at h
  cases he : s.getProposedUpgrade name with
  | none =>
    -- without a proposal nothing is removed, which is what removing it amounts to
    rw [he] at h
    obtain ⟨-, rfl⟩ := pure_ok_iff.mp h
    refine ⟨fun upgrade hu => (nomatch hu), ?_⟩
    simp only [Store.removeProposedUpgrade, KVStore.delete_of_get_none he]
  | some upgrade =>
    simp only [he] at h
    split at h
    · next hlt =>
      refine ⟨fun upgrade' hu => ?_, write_ok_iff.mp h⟩
      obtain rfl : upgrade = upgrade' := Option.some.inj hu
      exact hlt
    · exact absurd h (by simp)

/-- A successful proposal has found the plan acceptable to the upgrade keeper. It has stored a
proposal, or scheduled the plan and stored an approved upgrade. -/
theorem proposeUpgrade_ok {msg : MsgProposeUpgrade}
    (h : proposeUpgrade bech32 ctx msg s = some (.ok u, s')) :
    ∃ creatorAddr, bech32.accAddressFromBech32 msg.creator = .ok creatorAddr ∧
      ctx.accounts.hasRole creatorAddr upgradeApprovalRole = true ∧
      ctx.scheduleError s.plan msg.plan = none ∧
      s.getApprovedUpgrade msg.plan.name = none ∧
      (∀ old, s.getProposedUpgrade msg.plan.name = some old →
        old.plan.height < ctx.blockHeight) ∧
      ∃ upgrade : ProposedUpgrade, upgrade =
          ⟨msg.plan, msg.creator, [⟨bech32.string creatorAddr, msg.time, msg.info⟩], []⟩ ∧
        ((1 < upgradeApprovalsCount ctx ∧
            s' = ((s.removeProposedUpgrade msg.plan.name).setProposedUpgrade
              upgrade).removeRejectedUpgrade msg.plan.name) ∨
          (upgradeApprovalsCount ctx ≤ 1 ∧
            s' = (Store.setApprovedUpgrade upgrade
              { s.removeProposedUpgrade msg.plan.name with
                plan := some msg.plan }).removeRejectedUpgrade msg.plan.name)) := by
  simp only [proposeUpgrade, ofExcept_bind_ok_iff, failIf_bind_ok_iff, branch_bind_ok_iff,
    scheduleUpgrade_ok_iff] at h
  obtain ⟨creatorAddr, hsigner, hrole, -, cache, ⟨hplan, rfl⟩, h⟩ := h
  obtain ⟨⟨⟩, s₁, h₁, h⟩ := bind_ok_iff.mp h
  obtain ⟨hexpired, rfl⟩ := dropExpired_ok h₁
  simp only [read_bind_ok_iff, failIf_bind_ok_iff] at h
  obtain ⟨happroved, h⟩ := h
  refine ⟨creatorAddr, Bech32.signer_eq_ok_iff.mp hsigner, by simpa using hrole, hplan,
    by simpa [Store.getApprovedUpgrade, Store.removeProposedUpgrade] using happroved, hexpired, _,
    rfl, ?_⟩
  -- what is left is the threshold, on the store without the expired proposal
  obtain ⟨⟨⟩, s₂, h₂, h₃⟩ := bind_ok_iff.mp h
  rw [write_ok_iff.mp h₃]
  unfold storeProposal at h₂
  split at h₂
  · next hcount => exact Or.inl ⟨hcount, by rw [write_ok_iff.mp h₂]⟩
  · next hcount =>
    simp only [write_bind_ok_iff, write_ok_iff] at h₂
    exact Or.inr ⟨by omega, by rw [h₂]⟩

/-- A vote that is counted comes from a trustee who has not voted on the proposal. -/
theorem findProposal_ok {message : String} {msg : MsgVoteUpgrade}
    {found : AccAddress × ProposedUpgrade}
    (h : findProposal bech32 ctx message msg s = some (.ok found, s')) :
    bech32.accAddressFromBech32 msg.creator = .ok found.1 ∧
      ctx.accounts.hasRole found.1 upgradeApprovalRole = true ∧
      s.getProposedUpgrade msg.name = some found.2 ∧
      found.2.hasRejectFrom (bech32.string found.1) = false ∧
      found.2.hasApprovalFrom (bech32.string found.1) = false ∧ s = s' := by
  simp only [findProposal, ofExcept_bind_ok_iff, failIf_bind_ok_iff, readSome_bind_ok_iff,
    pure_ok_iff] at h
  obtain ⟨creatorAddr, hsigner, hrole, upgrade, hfound, hreject, happroval, rfl, rfl⟩ := h
  exact ⟨Bech32.signer_eq_ok_iff.mp hsigner, by simpa using hrole, hfound, by simpa using hreject,
    by simpa using happroval, rfl⟩

/-- A successful approval has stored the vote, or scheduled the plan and approved the upgrade. -/
theorem approveUpgrade_ok {msg : MsgVoteUpgrade}
    (h : approveUpgrade bech32 ctx msg s = some (.ok u, s')) :
    ∃ creatorAddr found, bech32.accAddressFromBech32 msg.creator = .ok creatorAddr ∧
      ctx.accounts.hasRole creatorAddr upgradeApprovalRole = true ∧
      s.getProposedUpgrade msg.name = some found ∧
      found.hasRejectFrom (bech32.string creatorAddr) = false ∧
      found.hasApprovalFrom (bech32.string creatorAddr) = false ∧
      ctx.scheduleError s.plan found.plan = none ∧
      ∃ upgrade : ProposedUpgrade, upgrade =
          { found with approvals := found.approvals ++ [grantOf bech32 msg creatorAddr] } ∧
        ((upgradeApprovalsCount ctx ≤ found.approvals.length + 1 ∧
            s' = Store.setApprovedUpgrade upgrade (Store.removeProposedUpgrade found.plan.name
              { s with plan := some found.plan })) ∨
          (found.approvals.length + 1 < upgradeApprovalsCount ctx ∧
            s' = s.setProposedUpgrade upgrade)) := by
  obtain ⟨⟨creatorAddr, found⟩, s₁, h₁, h⟩ := bind_ok_iff.mp h
  obtain ⟨haddr, hrole, hfound, hreject, happroval, rfl⟩ := findProposal_ok h₁
  dsimp only at h
  rw [List.length_append, List.length_singleton] at h
  split at h
  · next hcount =>
    obtain ⟨⟨⟩, s₂, h₂, h⟩ := bind_ok_iff.mp h
    obtain ⟨hplan, rfl⟩ := scheduleUpgrade_ok_iff.mp h₂
    simp only [write_bind_ok_iff, write_ok_iff] at h
    exact ⟨creatorAddr, found, haddr, hrole, hfound, hreject, happroval, hplan, _, rfl,
      Or.inl ⟨hcount, h⟩⟩
  · next hcount =>
    -- the plan was acceptable here too: it has been scheduled on a branch
    simp only [branch_bind_ok_iff, scheduleUpgrade_ok_iff, write_ok_iff] at h
    obtain ⟨-, cache, ⟨hplan, -⟩, h⟩ := h
    exact ⟨creatorAddr, found, haddr, hrole, hfound, hreject, happroval, hplan, _, rfl,
      Or.inr ⟨by omega, h⟩⟩

/-- A successful rejection has stored the vote, or scheduled the plan and rejected the upgrade. -/
theorem rejectUpgrade_ok {msg : MsgVoteUpgrade}
    (h : rejectUpgrade bech32 ctx msg s = some (.ok u, s')) :
    ∃ creatorAddr found, bech32.accAddressFromBech32 msg.creator = .ok creatorAddr ∧
      ctx.accounts.hasRole creatorAddr upgradeApprovalRole = true ∧
      s.getProposedUpgrade msg.name = some found ∧
      found.hasRejectFrom (bech32.string creatorAddr) = false ∧
      found.hasApprovalFrom (bech32.string creatorAddr) = false ∧
      ∃ upgrade : ProposedUpgrade, upgrade =
          { found with rejects := found.rejects ++ [grantOf bech32 msg creatorAddr] } ∧
        ((upgradeRejectsCount ctx ≤ found.rejects.length + 1 ∧
            ctx.scheduleError s.plan found.plan = none ∧
            s' = Store.setRejectedUpgrade upgrade (Store.removeProposedUpgrade found.plan.name
              { s with plan := some found.plan })) ∨
          (found.rejects.length + 1 < upgradeRejectsCount ctx ∧
            s' = s.setProposedUpgrade upgrade)) := by
  obtain ⟨⟨creatorAddr, found⟩, s₁, h₁, h⟩ := bind_ok_iff.mp h
  obtain ⟨haddr, hrole, hfound, hreject, happroval, rfl⟩ := findProposal_ok h₁
  dsimp only at h
  rw [List.length_append, List.length_singleton] at h
  split at h
  · next hcount =>
    obtain ⟨⟨⟩, s₂, h₂, h⟩ := bind_ok_iff.mp h
    obtain ⟨hplan, rfl⟩ := scheduleUpgrade_ok_iff.mp h₂
    simp only [write_bind_ok_iff, write_ok_iff] at h
    exact ⟨creatorAddr, found, haddr, hrole, hfound, hreject, happroval, _, rfl,
      Or.inl ⟨hcount, hplan, h⟩⟩
  · next hcount =>
    exact ⟨creatorAddr, found, haddr, hrole, hfound, hreject, happroval, _, rfl,
      Or.inr ⟨by omega, write_ok_iff.mp h⟩⟩

end Inversion

/-- The runs of the module from an empty store: deliveries of messages, each in a context of its
own. -/
def upgrades (bech32 : Bech32) : TransitionSystem Store (Context × Msg) where
  init := Store.empty
  step s a s' := ∃ r, (handle bech32 a.1 a.2).deliver s = some (r, s')

end ComplianceLedger.Dclupgrade
