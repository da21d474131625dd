import ComplianceLedger.Dclupgrade.MsgServer

/-!
# Which upgrades are scheduled

The plan held by the upgrade keeper is meant to be one the trustees have approved. A step of the
module keeps the plan and the approved upgrades, or approves an upgrade and schedules its plan, or
completes a rejection and schedules the plan it has rejected. Without steps of the third kind the
plan is an approved one in every run.

## Main definitions

* `IsFinalApproval s a`: the message brings the approvals of an upgrade to the threshold
* `SchedulesRejected s a`: the message completes a rejection and replaces the plan
* `PlanApproved s`: the plan held by the upgrade keeper is that of an approved upgrade

## Main results

* `step_effect`: what a step does to the plan and to the approved upgrades
* `plan_approved_of_no_scheduled_rejection`: the plan is approved, and kept by every step that is
  not a final approval, in the runs without a rejection that schedules a plan
* `rejected_plan_scheduled`: a run in which the trustees reject an upgrade and its plan is scheduled
-/

open Machine Machine.TransitionSystem

namespace ComplianceLedger.Dclupgrade

open Dclauth (exampleCodec)

/-- The message brings the approvals of an upgrade to the threshold. -/
def IsFinalApproval (s : Store) : Context × Msg → Prop
  | (ctx, .proposeUpgrade _) => upgradeApprovalsCount ctx ≤ 1
  | (ctx, .approveUpgrade msg) => ∃ upgrade, s.getProposedUpgrade msg.name = some upgrade ∧
      upgradeApprovalsCount ctx ≤ upgrade.approvals.length + 1
  | (_, .rejectUpgrade _) => False

/-- The message is the vote of a trustee that completes the rejection of a proposed upgrade, and the
upgrade keeper holds another plan and accepts the one rejected in its place. -/
def SchedulesRejected (bech32 : Bech32) (s : Store) : Context × Msg → Prop
  | (ctx, .rejectUpgrade msg) => ∃ voter upgrade,
      bech32.accAddressFromBech32 msg.creator = .ok voter ∧
      ctx.accounts.hasRole voter upgradeApprovalRole = true ∧
      s.getProposedUpgrade msg.name = some upgrade ∧
      upgrade.hasRejectFrom (bech32.string voter) = false ∧
      upgrade.hasApprovalFrom (bech32.string voter) = false ∧
      upgradeRejectsCount ctx ≤ upgrade.rejects.length + 1 ∧
      ctx.scheduleError s.plan upgrade.plan = none ∧
      s.plan ≠ some upgrade.plan
  | _ => False

/-- The upgrade keeper holds no plan, or the plan of an approved upgrade. -/
def PlanApproved (s : Store) : Prop :=
  s.plan = none ∨ ∃ upgrade ∈ s.approvedUpgrade.values, s.plan = some upgrade.plan

instance (s : Store) : Decidable (PlanApproved s) :=
  inferInstanceAs (Decidable (_ ∨ ∃ upgrade ∈ s.approvedUpgrade.values, _))

variable {bech32 : Bech32} {s s' : Store} {a : Context × Msg}

/-- An approved plan stays approved while neither the plan nor the approved upgrades change. -/
theorem PlanApproved.of_eq (h : PlanApproved s) (hplan : s'.plan = s.plan)
    (happroved : s'.approvedUpgrade = s.approvedUpgrade) : PlanApproved s' := by
  unfold PlanApproved
  rw [hplan, happroved]
  exact h

theorem PlanApproved.removeRejectedUpgrade (h : PlanApproved s) (name : String) :
    PlanApproved (s.removeRejectedUpgrade name) := h.of_eq rfl rfl

/-- Scheduling a plan and storing its upgrade as approved makes the plan an approved one. -/
theorem planApproved_setApprovedUpgrade {upgrade : ApprovedUpgrade}
    (hplan : s.plan = some upgrade.plan) : PlanApproved (s.setApprovedUpgrade upgrade) := by
  refine Or.inr ⟨upgrade, ?_, hplan⟩
  rw [KVStore.mem_values_iff]
  exact ⟨upgradeKey upgrade.plan.name, KVStore.get_set_self _ _ _⟩

/-- **What a step does to the plan.** It keeps the plan and the approved upgrades, or is a final
approval after which the plan is approved, or it completes a rejection and replaces the plan. -/
theorem step_effect (h : (upgrades bech32).step s a s') :
    (s'.plan = s.plan ∧ s'.approvedUpgrade = s.approvedUpgrade) ∨
      (IsFinalApproval s a ∧ PlanApproved s') ∨
      (SchedulesRejected bech32 s a ∧ s'.plan ≠ s.plan) := by
  obtain ⟨r, hd⟩ := h
  rcases Handler.deliver_cases hd with ⟨u, -, hok⟩ | ⟨-, rfl⟩
  · obtain ⟨ctx, msg⟩ := a
    cases msg with
    | proposeUpgrade msg =>
      obtain ⟨creator, -, -, -, -, -, upgrade, rfl, ⟨-, rfl⟩ | ⟨hcount, rfl⟩⟩ :=
        proposeUpgrade_ok hok
      · exact Or.inl ⟨rfl, rfl⟩
      · -- the approval of the proposer alone is enough
        right; left
        constructor
        · exact hcount
        · apply PlanApproved.removeRejectedUpgrade
          exact planApproved_setApprovedUpgrade rfl
    | approveUpgrade msg =>
      obtain ⟨voter, found, -, -, hfound, -, -, -, upgrade, rfl, ⟨hcount, rfl⟩ | ⟨-, rfl⟩⟩ :=
        approveUpgrade_ok hok
      · right; left
        constructor
        · exact ⟨found, hfound, hcount⟩
        · exact planApproved_setApprovedUpgrade rfl
      · exact Or.inl ⟨rfl, rfl⟩
    | rejectUpgrade msg =>
      obtain ⟨voter, found, haddr, hrole, hfound, hreject, happroval, upgrade, rfl,
        ⟨hcount, hplan, rfl⟩ | ⟨-, rfl⟩⟩ := rejectUpgrade_ok hok
      · -- the rejected plan is scheduled: nothing changes only if it is held already
        by_cases hheld : s.plan = some found.plan
        · exact Or.inl ⟨hheld.symm, rfl⟩
        · right; right
          constructor
          · exact ⟨voter, found, haddr, hrole, hfound, hreject, happroval, hcount, hplan, hheld⟩
          · exact fun heq => hheld heq.symm
      · exact Or.inl ⟨rfl, rfl⟩
  · exact Or.inl ⟨rfl, rfl⟩

/-- A step that schedules no rejected plan keeps the plan approved. -/
theorem planApproved_step (h : PlanApproved s) (hstep : (upgrades bech32).step s a s')
    (hgood : ¬ SchedulesRejected bech32 s a) : PlanApproved s' := by
  rcases step_effect hstep with ⟨hplan, happroved⟩ | ⟨-, happroved⟩ | ⟨hbad, -⟩
  · exact h.of_eq hplan happroved
  · exact happroved
  · exact absurd hbad hgood

/-- **Only approved plans are scheduled, unless a rejection schedules one.** In every run without a
step that schedules the plan it rejects, the plan held by the upgrade keeper is absent or that of an
approved upgrade, and every step but a final approval keeps it. -/
theorem plan_approved_of_no_scheduled_rejection
    (h : Reachable ((upgrades bech32).restrict fun s a => ¬ SchedulesRejected bech32 s a) s) :
    PlanApproved s ∧
      ∀ a s', (upgrades bech32).step s a s' → ¬ SchedulesRejected bech32 s a →
        ¬ IsFinalApproval s a → s'.plan = s.plan := by
  constructor
  · apply h.invariant
    · exact Or.inl rfl
    · intro s a s' hs hstep
      exact planApproved_step hs hstep.1 hstep.2
  · intro a s' hstep hgood hfinal
    rcases step_effect hstep with ⟨hplan, -⟩ | ⟨hbad, -⟩ | ⟨hbad, -⟩
    · exact hplan
    · exact absurd hbad hfinal
    · exact absurd hbad hgood

/-! ## A rejected plan that is scheduled -/

section Example

/-- A block in which the upgrade keeper accepts the plans for later heights. -/
def exampleContext : Context where
  blockHeight := 10
  accounts := Dclauth.exampleAccounts
  scheduleError _ plan :=
    if plan.height < 10 then
      some ⟨⟨"sdk", 18, "invalid request"⟩, "upgrade cannot be scheduled in the past"⟩
    else none

def examplePlan : Plan := ⟨"v1.1", 100, ""⟩

def exampleProposal : Context × Msg :=
  (exampleContext, .proposeUpgrade ⟨"cosmos1one", examplePlan, "", 1⟩)

def exampleVote (creator : String) : MsgVoteUpgrade := ⟨creator, "v1.1", "", 2⟩

/-- Deliver a message, if its handler returns. -/
def deliverMsg (bech32 : Bech32) (s : Store) (a : Context × Msg) : Option Store :=
  ((handle bech32 a.1 a.2).deliver s).map Prod.snd

theorem step_of_deliverMsg (h : deliverMsg bech32 s a = some s') :
    (upgrades bech32).step s a s' := by
  obtain ⟨⟨r, t⟩, hd, rfl⟩ := Option.map_eq_some_iff.mp h
  exact ⟨r, hd⟩

/-- **A rejected plan is scheduled.** Of three trustees one proposes an upgrade and the other two
reject it. The upgrade is then recorded as rejected, and its plan is the one the chain will run. -/
theorem rejected_plan_scheduled : ∃ s, Reachable (upgrades exampleCodec) s ∧
    (s.plan = some examplePlan ∧ (s.getRejectedUpgrade "v1.1").isSome ∧ ¬ PlanApproved s) := by
  obtain ⟨s, hs, hp⟩ := exists_reachable_of_foldlM (T := upgrades exampleCodec)
    (p := fun s => s.plan = some examplePlan ∧ (s.getRejectedUpgrade "v1.1").isSome ∧
      ¬ PlanApproved s)
    (deliverMsg exampleCodec) step_of_deliverMsg
    [exampleProposal, (exampleContext, .rejectUpgrade (exampleVote "cosmos1two")),
      (exampleContext, .rejectUpgrade (exampleVote "cosmos1three"))]
    (by decide +kernel)
  exact ⟨s, hs, of_decide_eq_true hp⟩

/-- The votes of two trustees are enough to schedule a plan, and the plan is then approved. -/
theorem approved_plan_scheduled : ∃ s,
    Reachable ((upgrades exampleCodec).restrict fun s a => ¬ SchedulesRejected exampleCodec s a) s ∧
      s.plan = some examplePlan ∧ PlanApproved s := by
  obtain ⟨s, hs, hp⟩ := exists_reachable_of_foldlM
    (T := (upgrades exampleCodec).restrict fun s a => ¬ SchedulesRejected exampleCodec s a)
    (p := fun s => s.plan = some examplePlan)
    (fun s a => if a.2 matches .rejectUpgrade _ then none else deliverMsg exampleCodec s a)
    (by
      rintro s ⟨ctx, msg⟩ s' h
      cases msg with
      | proposeUpgrade msg => exact ⟨step_of_deliverMsg h, id⟩
      | approveUpgrade msg => exact ⟨step_of_deliverMsg h, id⟩
      | rejectUpgrade msg => cases h)
    [exampleProposal, (exampleContext, .approveUpgrade (exampleVote "cosmos1two"))]
    (by decide +kernel)
  exact ⟨s, hs, of_decide_eq_true hp, (plan_approved_of_no_scheduled_rejection hs).1⟩

end Example

end ComplianceLedger.Dclupgrade
