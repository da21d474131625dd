import ComplianceLedger.Dclupgrade.Polls
import ComplianceLedger.Dclupgrade.Scheduling

/-!
# The stages of an upgrade

An upgrade of a name is proposed, approved or rejected, and at most one of these. A proposal removes
an expired one of its name before its last check, the one for an approved upgrade of the name. Since
a name is never proposed and approved at once, the check does not fail after a removal: no handler
of the module needs the rollback of a failed transaction. The runs here are those of the handlers
themselves, in which an error keeps what has been written.

## Main definitions

* `handled bech32`: the runs of the handlers, without rollback
* `Staged s`: the three kinds of records have no name in common
* `KeepsApproved s s'`: the approved upgrades are still there, as they were

## Main results

* `staged_of_handle`, `keepsApproved_of_handle`: what a successful handler does to the stages
* `failsIn_handle`: an error leaves the store as it was
* `stages_of_run`: the stages of upgrades in every run
-/

open Machine Machine.Handler Machine.TransitionSystem

namespace ComplianceLedger.Dclupgrade

open Dclauth (exampleCodec)

/-- The runs of the handlers themselves, in which a message that fails keeps what it has written. -/
def handled (bech32 : Bech32) : TransitionSystem Store (Context × Msg) where
  init := Store.empty
  step s a s' := ∃ r, handle bech32 a.1 a.2 s = some (r, s')

/-- The kinds of records that there are of a name. -/
def stages (s : Store) (name : String) : List Bool :=
  [(s.getProposedUpgrade name).isSome, (s.getApprovedUpgrade name).isSome,
    (s.getRejectedUpgrade name).isSome]

/-- The three kinds of records have no name in common, and proposals lie under their names. -/
structure Staged (s : Store) : Prop where
  keyed : Keyed s
  proposed_approved : s.proposedUpgrade.Disjoint s.approvedUpgrade
  proposed_rejected : s.proposedUpgrade.Disjoint s.rejectedUpgrade
  approved_rejected : s.approvedUpgrade.Disjoint s.rejectedUpgrade

/-- The approved upgrades of `s` are those of `s'`, which may have more. -/
def KeepsApproved (s s' : Store) : Prop :=
  ∀ name upgrade, s.getApprovedUpgrade name = some upgrade →
    s'.getApprovedUpgrade name = some upgrade

variable {bech32 : Bech32} {ctx : Context} {s s' : Store} {msg : Msg} {u : Unit}

theorem staged_empty : Staged Store.empty where
  keyed := KVStore.All.empty
  proposed_approved := KVStore.disjoint_empty
  proposed_rejected := KVStore.disjoint_empty
  approved_rejected := KVStore.disjoint_empty

/-- A name is in at most one stage. -/
theorem Staged.count_stages_le (h : Staged s) (name : String) :
    (stages s name).count true ≤ 1 := by
  have hpa := h.proposed_approved (upgradeKey name)
  have hpr := h.proposed_rejected (upgradeKey name)
  have har := h.approved_rejected (upgradeKey name)
  unfold stages Store.getProposedUpgrade Store.getApprovedUpgrade Store.getRejectedUpgrade
  rcases hpa with hp | ha
  · rcases har with ha | hr
    · cases s.rejectedUpgrade.get (upgradeKey name) <;> simp [hp, ha]
    · cases s.approvedUpgrade.get (upgradeKey name) <;> simp [hp, hr]
  · rcases hpr with hp | hr
    · cases s.rejectedUpgrade.get (upgradeKey name) <;> simp [hp, ha]
    · cases s.proposedUpgrade.get (upgradeKey name) <;> simp [ha, hr]

/-! ## The moves between the stages -/

/-- A new proposal of a name that is not approved; a rejection of the name is forgotten. -/
theorem Staged.propose (h : Staged s) {upgrade : ProposedUpgrade}
    (happroved : s.getApprovedUpgrade upgrade.plan.name = none) :
    Staged (((s.removeProposedUpgrade upgrade.plan.name).setProposedUpgrade
      upgrade).removeRejectedUpgrade upgrade.plan.name) where
  keyed := (KVStore.All.delete h.keyed _).set rfl
  proposed_approved := (h.proposed_approved.delete _).set _ happroved
  proposed_rejected := (h.proposed_rejected.delete _).set_delete _ _
  approved_rejected := (h.approved_rejected.symm.delete _).symm

/-- An approval at once, of a name that is not approved. -/
theorem Staged.approveAtOnce (h : Staged s) {upgrade : ProposedUpgrade} {plan : Option Plan} :
    Staged ((Store.setApprovedUpgrade upgrade
      { s.removeProposedUpgrade upgrade.plan.name with plan := plan }).removeRejectedUpgrade
        upgrade.plan.name) where
  keyed := KVStore.All.delete h.keyed _
  proposed_approved := (h.proposed_approved.symm.set_delete _ _).symm
  proposed_rejected := ((h.proposed_rejected.delete _).symm.delete _).symm
  approved_rejected := h.approved_rejected.set_delete _ _

/-- A vote on a proposal that stays one. -/
theorem Staged.vote (h : Staged s) {found upgrade : ProposedUpgrade} {name : String}
    (hfound : s.getProposedUpgrade name = some found) (hname : upgrade.plan.name = found.plan.name) :
    Staged (s.setProposedUpgrade upgrade) := by
  have hkey : upgradeKey upgrade.plan.name = upgradeKey name := by rw [hname, h.keyed.name_eq hfound]
  refine ⟨KVStore.All.set h.keyed rfl, ?_, ?_, h.approved_rejected⟩
  · apply h.proposed_approved.set
    rw [hkey]
    exact h.proposed_approved.get_eq_none hfound
  · apply h.proposed_rejected.set
    rw [hkey]
    exact h.proposed_rejected.get_eq_none hfound

/-- The last approval of a proposal. -/
theorem Staged.approve (h : Staged s) {found upgrade : ProposedUpgrade} {name : String}
    {plan : Option Plan} (hfound : s.getProposedUpgrade name = some found)
    (hname : upgrade.plan.name = found.plan.name) :
    Staged (Store.setApprovedUpgrade upgrade (Store.removeProposedUpgrade found.plan.name
      { s with plan := plan })) := by
  refine ⟨KVStore.All.delete h.keyed _, ?_, h.proposed_rejected.delete _, ?_⟩
  · have hmoved := h.proposed_approved.symm.set_delete (upgradeKey found.plan.name) upgrade
    rw [← hname] at hmoved ⊢
    exact hmoved.symm
  · apply h.approved_rejected.set
    rw [hname, h.keyed.name_eq hfound]
    exact h.proposed_rejected.get_eq_none hfound

/-- The last rejection of a proposal. -/
theorem Staged.reject (h : Staged s) {found upgrade : ProposedUpgrade} {name : String}
    {plan : Option Plan} (hfound : s.getProposedUpgrade name = some found)
    (hname : upgrade.plan.name = found.plan.name) :
    Staged (Store.setRejectedUpgrade upgrade (Store.removeProposedUpgrade found.plan.name
      { s with plan := plan })) := by
  refine ⟨KVStore.All.delete h.keyed _, h.proposed_approved.delete _, ?_, ?_⟩
  · have hmoved := h.proposed_rejected.symm.set_delete (upgradeKey found.plan.name) upgrade
    rw [← hname] at hmoved ⊢
    exact hmoved.symm
  · apply KVStore.Disjoint.symm
    apply h.approved_rejected.symm.set
    rw [hname, h.keyed.name_eq hfound]
    exact h.proposed_approved.get_eq_none hfound

/-- **A successful handler keeps the stages apart.** -/
theorem staged_of_handle (h : Staged s) (hok : handle bech32 ctx msg s = some (.ok u, s')) :
    Staged s' := by
  cases msg with
  | proposeUpgrade msg =>
    obtain ⟨creator, -, -, -, happroved, -, upgrade, rfl, ⟨-, rfl⟩ | ⟨-, rfl⟩⟩ :=
      proposeUpgrade_ok hok
    · exact h.propose happroved
    · exact h.approveAtOnce
  | approveUpgrade msg =>
    obtain ⟨voter, found, -, -, hfound, -, -, -, upgrade, rfl, ⟨-, rfl⟩ | ⟨-, rfl⟩⟩ :=
      approveUpgrade_ok hok
    · exact h.approve hfound rfl
    · exact h.vote hfound rfl
  | rejectUpgrade msg =>
    obtain ⟨voter, found, -, -, hfound, -, -, upgrade, rfl, ⟨-, -, rfl⟩ | ⟨-, rfl⟩⟩ :=
      rejectUpgrade_ok hok
    · exact h.reject hfound rfl
    · exact h.vote hfound rfl

/-! ## Approved upgrades -/

/-- An approved upgrade of another name does not touch those there are. -/
theorem keepsApproved_set {upgrade : ProposedUpgrade}
    (hnone : s.getApprovedUpgrade upgrade.plan.name = none)
    (hset : s'.approvedUpgrade = s.approvedUpgrade.set (upgradeKey upgrade.plan.name) upgrade) :
    KeepsApproved s s' := by
  intro name old hold
  unfold Store.getApprovedUpgrade at hold ⊢
  rw [hset, KVStore.get_set_of_ne, hold]
  intro hkey
  rw [hkey] at hold
  cases hnone.symm.trans hold

theorem keepsApproved_of_eq (heq : s'.approvedUpgrade = s.approvedUpgrade) : KeepsApproved s s' := by
  intro name old hold
  unfold Store.getApprovedUpgrade
  rw [heq]
  exact hold

/-- **A successful handler keeps the approved upgrades.** -/
theorem keepsApproved_of_handle (h : Staged s) (hok : handle bech32 ctx msg s = some (.ok u, s')) :
    KeepsApproved s s' := by
  cases msg with
  | proposeUpgrade msg =>
    obtain ⟨creator, -, -, -, happroved, -, upgrade, rfl, ⟨-, rfl⟩ | ⟨-, rfl⟩⟩ :=
      proposeUpgrade_ok hok
    · exact keepsApproved_of_eq rfl
    · exact keepsApproved_set happroved rfl
  | approveUpgrade msg =>
    obtain ⟨voter, found, -, -, hfound, -, -, -, upgrade, rfl, ⟨-, rfl⟩ | ⟨-, rfl⟩⟩ :=
      approveUpgrade_ok hok
    · -- a name that is proposed is not approved yet
      refine keepsApproved_set ?_ rfl
      show s.getApprovedUpgrade found.plan.name = none
      rw [h.keyed.name_eq hfound]
      exact h.proposed_approved.get_eq_none hfound
    · exact keepsApproved_of_eq rfl
  | rejectUpgrade msg =>
    obtain ⟨voter, found, -, -, -, -, -, upgrade, rfl, ⟨-, -, rfl⟩ | ⟨-, rfl⟩⟩ :=
      rejectUpgrade_ok hok
    · exact keepsApproved_of_eq rfl
    · exact keepsApproved_of_eq rfl

/-! ## Errors -/

theorem failsIn_scheduleUpgrade (plan : Plan) : (scheduleUpgrade ctx plan).FailsIn s s := by
  intro e t h
  unfold scheduleUpgrade at h
  split at h
  · cases h
    rfl
  · cases h

theorem failsIn_dropExpired (name : String) : (dropExpired ctx name).FailsIn s s := by
  rw [dropExpired, failsIn_read_bind]
  split
  · exact (readOnly_pure ()).failsIn
  · split
    · exact failsIn_write _
    · exact (readOnly_fail _).failsIn

/-- Storing a proposal does not fail. -/
theorem failsIn_storeProposal {cache t : Store} (upgrade : ProposedUpgrade) :
    (storeProposal ctx cache upgrade).FailsIn s t := by
  unfold storeProposal
  split
  · exact failsIn_write _
  · rw [failsIn_write_bind]
    exact failsIn_write _

theorem readOnly_findProposal (message : String) (msg : MsgVoteUpgrade) :
    (findProposal bech32 ctx message msg).ReadOnly := by
  unfold findProposal
  apply (readOnly_ofExcept _).bind
  intro creatorAddr
  apply (readOnly_failIf _ _).bind
  intro _
  apply (readOnly_readSome _ _).bind
  intro upgrade
  apply (readOnly_failIf _ _).bind
  intro _
  apply (readOnly_failIf _ _).bind
  intro _
  exact readOnly_pure _

/-- The last check of a proposal, made on the store without an expired proposal of the name: it
fails only if there was none. -/
theorem failsIn_check_approved (h : Staged s) (name : String) (e : SdkError) :
    (failIf (((s.removeProposedUpgrade name).getApprovedUpgrade name).isSome = true) e).FailsIn s
      (s.removeProposedUpgrade name) := by
  cases hfound : s.getProposedUpgrade name with
  | none =>
    have hsame : s.removeProposedUpgrade name = s := by
      simp only [Store.removeProposedUpgrade, KVStore.delete_of_get_none hfound]
    rw [hsame]
    exact (readOnly_failIf _ _).failsIn
  | some found =>
    have hnone : (s.removeProposedUpgrade name).getApprovedUpgrade name = none :=
      h.proposed_approved.get_eq_none hfound
    intro e' t hfail
    rw [failIf, if_neg (by simp [hnone])] at hfail
    cases hfail

/-- **A proposal that fails has removed nothing.** -/
theorem failsIn_proposeUpgrade (h : Staged s) (msg : MsgProposeUpgrade) :
    (proposeUpgrade bech32 ctx msg).FailsIn s s := by
  unfold proposeUpgrade
  apply (readOnly_ofExcept _).failsIn_bind
  intro creatorAddr _
  apply (readOnly_failIf _ _).failsIn_bind
  intro _ _
  apply (readOnly_branch _).failsIn_bind
  intro cache _
  apply (failsIn_dropExpired _).bind
  intro _ t ht
  obtain ⟨-, rfl⟩ := dropExpired_ok ht
  rw [failsIn_read_bind]
  apply (failsIn_check_approved h _ _).bind
  -- nothing fails any more
  intro _ t _
  apply (failsIn_storeProposal _).bind
  intro _ t' _
  exact failsIn_write _

theorem failsIn_approveUpgrade (msg : MsgVoteUpgrade) :
    (approveUpgrade bech32 ctx msg).FailsIn s s := by
  unfold approveUpgrade
  apply (readOnly_findProposal _ msg).failsIn_bind
  rintro ⟨creatorAddr, found⟩ _
  dsimp only
  split
  · apply (failsIn_scheduleUpgrade _).bind
    intro _ t _
    rw [failsIn_write_bind]
    exact failsIn_write _
  · apply (readOnly_branch _).failsIn_bind
    intro cache _
    exact failsIn_write _

theorem failsIn_rejectUpgrade (msg : MsgVoteUpgrade) :
    (rejectUpgrade bech32 ctx msg).FailsIn s s := by
  unfold rejectUpgrade
  apply (readOnly_findProposal _ msg).failsIn_bind
  rintro ⟨creatorAddr, found⟩ _
  dsimp only
  split
  · apply (failsIn_scheduleUpgrade _).bind
    intro _ t _
    rw [failsIn_write_bind]
    exact failsIn_write _
  · exact failsIn_write _

/-- **An error leaves the store as it was.** -/
theorem failsIn_handle (h : Staged s) (msg : Msg) : (handle bech32 ctx msg).FailsIn s s := by
  cases msg with
  | proposeUpgrade msg => exact failsIn_proposeUpgrade h msg
  | approveUpgrade msg => exact failsIn_approveUpgrade msg
  | rejectUpgrade msg => exact failsIn_rejectUpgrade msg

/-! ## Runs -/

section Runs

variable {a : Context × Msg}

/-- A step of the handlers keeps the stages apart, and the approved upgrades. -/
theorem staged_step (h : Staged s) (hstep : (handled bech32).step s a s') :
    Staged s' ∧ KeepsApproved s s' := by
  obtain ⟨e | u, hrun⟩ := hstep
  · obtain rfl := failsIn_handle h a.2 e s' hrun
    exact ⟨h, keepsApproved_of_eq rfl⟩
  · exact ⟨staged_of_handle h hrun, keepsApproved_of_handle h hrun⟩

theorem staged_of_reachable (h : Reachable (handled bech32) s) : Staged s :=
  h.invariant staged_empty fun hs hstep => (staged_step hs hstep).1

/-- The handlers do without the rollback: their runs are those of the module. -/
theorem step_handled_iff (h : Staged s) :
    (handled bech32).step s a s' ↔ (upgrades bech32).step s a s' := by
  show (∃ r, _) ↔ ∃ r, _
  rw [deliver_eq_of_failsIn (failsIn_handle h a.2)]

theorem reachable_handled_iff : Reachable (handled bech32) s ↔ Reachable (upgrades bech32) s := by
  constructor
  · intro h
    refine h.induction (P := Reachable (upgrades bech32)) ?_ ?_
    · exact Reachable.init
    · intro s a s' hs hu hstep
      exact hu.step ((step_handled_iff (staged_of_reachable hs)).mp hstep)
  · intro h
    refine h.invariant (P := Reachable (handled bech32)) ?_ ?_
    · exact Reachable.init
    · intro s a s' hs hstep
      exact hs.step ((step_handled_iff (staged_of_reachable hs)).mpr hstep)

/-- **The stages of upgrades.** In every run of the handlers from an empty store, a name is in at
most one stage; the approved upgrades of a state are there, unchanged, in every later one; and a
message that returns an error leaves the store as it was. -/
theorem stages_of_run (h : Reachable (handled bech32) s) :
    (∀ name, (stages s name).count true ≤ 1) ∧
      (∀ s', (handled bech32).Reaches s s' → KeepsApproved s s') ∧
      ∀ ctx msg e s', handle bech32 ctx msg s = some (.error e, s') → s' = s := by
  have hstaged := staged_of_reachable h
  refine ⟨hstaged.count_stages_le, ?_, ?_⟩
  · intro s' hs
    apply Reaches.rel (R := KeepsApproved) _ _ _ h hs
    · exact fun s => keepsApproved_of_eq rfl
    · exact fun h₁ h₂ name upgrade hget => h₂ name upgrade (h₁ name upgrade hget)
    · exact fun hs hstep => (staged_step (staged_of_reachable hs) hstep).2
  · intro ctx msg e s' hrun
    exact failsIn_handle hstaged msg e s' hrun

end Runs

/-! ## A proposal that replaces an expired one -/

/-- A later block, in which the height of the first plan has passed. -/
def exampleLaterContext : Context :=
  { exampleContext with blockHeight := 200, scheduleError := fun _ _ => none }

/-- The same name is proposed for another height. -/
def exampleReproposal : Context × Msg :=
  (exampleLaterContext, .proposeUpgrade ⟨"cosmos1one", ⟨"v1.1", 300, ""⟩, "", 3⟩)

theorem step_handled_of_handle {a : Context × Msg}
    (h : (handle exampleCodec a.1 a.2 s).map Prod.snd = some s') :
    (handled exampleCodec).step s a s' := by
  obtain ⟨⟨r, t⟩, hr, rfl⟩ := Option.map_eq_some_iff.mp h
  exact ⟨r, hr⟩

/-- An upgrade is proposed, expires, and is proposed again and approved. A third proposal is refused
and changes nothing. -/
theorem example_stages : ∃ s, Reachable (handled exampleCodec) s ∧
    stages s "v1.1" = [false, true, false] ∧ (stages s "v1.1").count true ≤ 1 ∧
      ∃ e, handle exampleCodec exampleLaterContext exampleReproposal.2 s = some (.error e, s) := by
  obtain ⟨s, hs, hp⟩ := exists_reachable_of_foldlM (T := handled exampleCodec)
    (p := fun s => stages s "v1.1" = [false, true, false] ∧
      (handle exampleCodec exampleLaterContext exampleReproposal.2 s).any
        (fun r => r.1 matches .error _))
    (fun s a => (handle exampleCodec a.1 a.2 s).map Prod.snd) step_handled_of_handle
    [exampleProposal, exampleReproposal,
      (exampleLaterContext, .approveUpgrade (exampleVote "cosmos1two"))]
    (by decide +kernel)
  obtain ⟨hstages, herror⟩ := of_decide_eq_true hp
  obtain ⟨⟨r, s'⟩, hrun, hr⟩ := (Option.any_eq_true _ _).mp herror
  cases r with
  | ok u => cases hr
  | error e =>
    have hsame := (stages_of_run hs).2.2 _ _ e s' hrun
    exact ⟨s, hs, hstages, (stages_of_run hs).1 "v1.1", e, hsame ▸ hrun⟩

end ComplianceLedger.Dclupgrade
