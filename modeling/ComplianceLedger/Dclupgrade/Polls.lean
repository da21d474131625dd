import ComplianceLedger.Dclauth.Electorate
import ComplianceLedger.Dclupgrade.Rules

/-!
# Upgrades as polls of the trustees

The trustees vote on upgrade plans: two thirds of them approve a plan, or so many reject it that two
thirds can no longer be reached. A vote that decides is refused together with its effect when the
upgrade keeper does not accept the plan, so that a plan whose height has passed stays pending; it
has lapsed, and a new proposal may take its name.

## Main definitions

* `ProposedUpgrade.poll`: the votes on an upgrade
* `board`: the polls on upgrades, by name
* `Lapsed s a name`: the message replaces the proposal of the name, whose height has passed
* `Keyed s`: every proposal lies under the name of its plan

## Main results

* `upgradeApprovalsCount_eq`, `upgradeRejectsCount_eq`: the thresholds
* `keyed_of_reachable`: proposals lie under their own names in every run
* `turn_of_step`, `turn_of_step_within`: every step is a turn on every name, of those
  trustees who sign
-/

open Machine Machine.TransitionSystem

namespace ComplianceLedger.Dclupgrade

open Dclauth (Electorate)

/-- The votes on an upgrade. -/
def ProposedUpgrade.poll (upgrade : ProposedUpgrade) : Poll Unit Grant :=
  ⟨(), upgrade.approvals, upgrade.rejects⟩

/-- The polls on upgrades. -/
def board : Board Store String Unit Grant where
  pending s name := (s.getProposedUpgrade name).map ProposedUpgrade.poll
  approved s name := (s.getApprovedUpgrade name).map ProposedUpgrade.poll
  rejected s name := (s.getRejectedUpgrade name).map ProposedUpgrade.poll

/-- The message proposes a plan under a name whose pending proposal is for a height that has
passed. -/
def Lapsed (s : Store) : Context × Msg → String → Prop
  | (ctx, .proposeUpgrade msg), name => msg.plan.name = name ∧
      ∃ upgrade, s.getProposedUpgrade name = some upgrade ∧ upgrade.plan.height < ctx.blockHeight
  | _, _ => False

/-- Every proposal lies under the name of its plan. -/
def Keyed (s : Store) : Prop :=
  s.proposedUpgrade.All fun k upgrade => k = upgradeKey upgrade.plan.name

/-! ## The thresholds -/

section Thresholds

variable {ctx : Context} {T : Finset AccAddress}

theorem upgradeApprovalsCount_eq (h : Electorate ctx.accounts T) :
    upgradeApprovalsCount ctx = approvalsCount upgradeApprovalsPercent T.card := by
  unfold upgradeApprovalsCount approvalsCount
  rw [upgradeApprovalRole, h.countAccountsWithRole]

theorem upgradeRejectsCount_eq (h : Electorate ctx.accounts T) :
    upgradeRejectsCount ctx = rejectsCount upgradeApprovalsPercent T.card := by
  unfold upgradeRejectsCount rejectsCount
  rw [upgradeApprovalsCount_eq h, upgradeApprovalRole, h.countAccountsWithRole]

end Thresholds

/-! ## Keys -/

section Keys

variable {bech32 : Bech32} {ctx : Context} {s s' : Store} {a : Context × Msg}

theorem upgradeKey_injective : Function.Injective upgradeKey :=
  fun _ _ h => utf8_injective (List.append_cancel_right h)

/-- A proposal is found under the name of its plan. -/
theorem Keyed.name_eq (h : Keyed s) {name : String} {upgrade : ProposedUpgrade}
    (hget : s.getProposedUpgrade name = some upgrade) : upgrade.plan.name = name :=
  (upgradeKey_injective (h _ _ hget)).symm

theorem Keyed.pending_eq (h : Keyed s) {name : String} {upgrade : ProposedUpgrade}
    (hget : s.getProposedUpgrade name = some upgrade) :
    board.pending s upgrade.plan.name = some upgrade.poll := by
  rw [h.name_eq hget]
  exact congrArg (Option.map ProposedUpgrade.poll) hget

/-- A step leaves every proposal under the name of its plan. -/
theorem keyed_step (h : Keyed s) (hstep : (upgrades bech32).step s a s') : Keyed s' := by
  obtain ⟨r, hd⟩ := hstep
  rcases Handler.deliver_cases hd with ⟨u, -, hok⟩ | ⟨-, rfl⟩
  · obtain ⟨ctx, msg⟩ := a
    cases msg with
    | proposeUpgrade msg =>
      obtain ⟨creator, -, -, -, -, -, upgrade, rfl, ⟨-, rfl⟩ | ⟨-, rfl⟩⟩ := proposeUpgrade_ok hok
      · exact (KVStore.All.delete h _).set rfl
      · exact KVStore.All.delete h _
    | approveUpgrade msg =>
      obtain ⟨voter, found, -, -, -, -, -, -, upgrade, rfl, ⟨-, rfl⟩ | ⟨-, rfl⟩⟩ :=
        approveUpgrade_ok hok
      · exact KVStore.All.delete h _
      · exact KVStore.All.set h rfl
    | rejectUpgrade msg =>
      obtain ⟨voter, found, -, -, -, -, -, upgrade, rfl, ⟨-, -, rfl⟩ | ⟨-, rfl⟩⟩ :=
        rejectUpgrade_ok hok
      · exact KVStore.All.delete h _
      · exact KVStore.All.set h rfl
  · exact h

theorem keyed_of_reachable (h : (upgrades bech32).Reachable s) : Keyed s :=
  h.invariant KVStore.All.empty fun hs hstep => keyed_step hs hstep

end Keys

/-! ## Steps -/

section Steps

variable {bech32 : Bech32} {ctx : Context} {s s' : Store} {T V : Finset AccAddress}

theorem poll_update_set (upgrades : KVStore Bytes ProposedUpgrade) (name : String)
    (upgrade : ProposedUpgrade) :
    (fun x => ((upgrades.set (upgradeKey name) upgrade).get (upgradeKey x)).map
        ProposedUpgrade.poll) =
      Function.update (fun x => (upgrades.get (upgradeKey x)).map ProposedUpgrade.poll) name
        (some upgrade.poll) :=
  KVStore.update_set upgradeKey_injective (Option.map ProposedUpgrade.poll) upgrades name upgrade

theorem poll_update_delete (upgrades : KVStore Bytes ProposedUpgrade) (name : String) :
    (fun x => ((upgrades.delete (upgradeKey name)).get (upgradeKey x)).map ProposedUpgrade.poll) =
      Function.update (fun x => (upgrades.get (upgradeKey x)).map ProposedUpgrade.poll) name none :=
  KVStore.update_delete upgradeKey_injective (Option.map ProposedUpgrade.poll) upgrades name

/-- A turn of the voters in `V`, with the thresholds of the trustees in `T`. -/
abbrev IsTurn (bech32 : Bech32) (T V : Finset AccAddress) (lapsed : String → Prop) (s s' : Store)
    (name : String) : Prop :=
  board.Turn bech32.Casts V (fun _ => approvalsCount upgradeApprovalsPercent T.card)
    (rejectsCount upgradeApprovalsPercent T.card) lapsed s s' name

/-- A proposal opens a poll, or is approved at once. -/
theorem turn_of_proposeUpgrade (helectorate : Electorate ctx.accounts T) (hne : T.Nonempty)
    {msg : MsgProposeUpgrade} {u : Unit}
    (hV : SignedWithin T V (bech32.accAddressFromBech32 msg.creator))
    (h : proposeUpgrade bech32 ctx msg s = some (.ok u, s'))
    (x : String) : IsTurn bech32 T V (Lapsed s (ctx, .proposeUpgrade msg)) s s' x := by
  obtain ⟨creator, hsigner, hrole, -, happroved, hexpired, upgrade, rfl, hcases⟩ :=
    proposeUpgrade_ok h
  have hbefore : board.pending s msg.plan.name = none ∨
      Lapsed s (ctx, .proposeUpgrade msg) msg.plan.name := by
    cases hold : s.getProposedUpgrade msg.plan.name with
    | none => exact .inl (congrArg (Option.map ProposedUpgrade.poll) hold)
    | some old => exact .inr ⟨rfl, old, hold, hexpired old hold⟩
  have hfree : board.approved s msg.plan.name = none :=
    congrArg (Option.map ProposedUpgrade.poll) happroved
  have hfair : (⟨(), [⟨bech32.string creator, msg.time, msg.info⟩], []⟩ : Poll Unit Grant).Fair
      bech32.Casts V :=
    Poll.fair_singleton () (hV creator ((helectorate.member creator).mp hrole) hsigner)
      (Bech32.casts_of_signer hsigner rfl)
  rw [upgradeApprovalsCount_eq helectorate] at hcases
  rcases hcases with ⟨hcount, rfl⟩ | ⟨hcount, rfl⟩
  · refine Board.turn_of_opened hbefore ⟨hfair, hcount, Nat.succ_pos _⟩ hfree ?_ rfl
      (poll_update_delete _ _)
    -- the proposal that has lapsed is removed before the new one is stored
    have hdropped := poll_update_delete s.proposedUpgrade msg.plan.name
    refine (poll_update_set _ _ _).trans ?_
    exact (congrArg (Function.update · msg.plan.name _) hdropped).trans (Function.update_idem _ _ _)
  · have hone : approvalsCount upgradeApprovalsPercent T.card = 1 :=
      le_antisymm hcount (one_le_approvalsCount (by decide) hne.card_pos)
    exact Board.turn_of_passedAtOnce hbefore hfair hone.symm (poll_update_delete _ _)
      (poll_update_set _ _ _) (poll_update_delete _ _)

section Votes

variable {lapsed : String → Prop} {msg : MsgVoteUpgrade} {u : Unit}

/-- An approval is stored, or approves the upgrade. -/
theorem turn_of_approveUpgrade (hkeyed : Keyed s) (helectorate : Electorate ctx.accounts T)
    (hV : SignedWithin T V (bech32.accAddressFromBech32 msg.creator))
    (h : approveUpgrade bech32 ctx msg s = some (.ok u, s')) (x : String) :
    IsTurn bech32 T V lapsed s s' x := by
  obtain ⟨voter, found, hsigner, hrole, hfound, hreject, happroval, -, upgrade, rfl, hcases⟩ :=
    approveUpgrade_ok h
  have hcounts : found.poll.Counts bech32.Casts V (grantOf bech32 msg voter) :=
    counts_of_not_hasGrantFrom (hV voter ((helectorate.member voter).mp hrole) hsigner) hsigner rfl
      happroval hreject
  have hbefore := hkeyed.pending_eq hfound
  rw [upgradeApprovalsCount_eq helectorate] at hcases
  rcases hcases with ⟨hcount, rfl⟩ | ⟨hcount, rfl⟩
  · exact Board.turn_of_passed hbefore hcounts hcount (poll_update_delete _ _)
      (poll_update_set _ _ _) rfl
  · exact Board.turn_of_aye hbefore hcounts hcount (poll_update_set _ _ _) rfl rfl

/-- A rejection is stored, or rejects the upgrade. -/
theorem turn_of_rejectUpgrade (hkeyed : Keyed s) (helectorate : Electorate ctx.accounts T)
    (hV : SignedWithin T V (bech32.accAddressFromBech32 msg.creator))
    (h : rejectUpgrade bech32 ctx msg s = some (.ok u, s')) (x : String) :
    IsTurn bech32 T V lapsed s s' x := by
  obtain ⟨voter, found, hsigner, hrole, hfound, hreject, happroval, upgrade, rfl, hcases⟩ :=
    rejectUpgrade_ok h
  have hcounts : found.poll.Counts bech32.Casts V (grantOf bech32 msg voter) :=
    counts_of_not_hasGrantFrom (hV voter ((helectorate.member voter).mp hrole) hsigner) hsigner rfl
      happroval hreject
  have hbefore := hkeyed.pending_eq hfound
  rw [upgradeRejectsCount_eq helectorate] at hcases
  rcases hcases with ⟨hcount, -, rfl⟩ | ⟨hcount, rfl⟩
  · exact Board.turn_of_failed hbefore hcounts hcount (poll_update_delete _ _) rfl
      (poll_update_set _ _ _)
  · exact Board.turn_of_nay hbefore hcounts hcount (poll_update_set _ _ _) rfl rfl

end Votes

/-- **Every step is a turn on every name**, of those trustees who sign. -/
theorem turn_of_step_within (hkeyed : Keyed s) {a : Context × Msg}
    (helectorate : Electorate a.1.accounts T) (hne : T.Nonempty)
    (hV : SignedWithin T V (bech32.accAddressFromBech32 a.2.creator))
    (hstep : (upgrades bech32).step s a s') (x : String) :
    IsTurn bech32 T V (Lapsed s a) s s' x := by
  obtain ⟨r, hd⟩ := hstep
  rcases Handler.deliver_cases hd with ⟨u, -, hok⟩ | ⟨-, rfl⟩
  · obtain ⟨ctx, msg⟩ := a
    cases msg with
    | proposeUpgrade msg => exact turn_of_proposeUpgrade helectorate hne hV hok x
    | approveUpgrade msg => exact turn_of_approveUpgrade hkeyed helectorate hV hok x
    | rejectUpgrade msg => exact turn_of_rejectUpgrade hkeyed helectorate hV hok x
  · exact .of_eq rfl (.of_eq rfl rfl)

theorem turn_of_step (hkeyed : Keyed s) {a : Context × Msg} (helectorate : Electorate a.1.accounts T)
    (hne : T.Nonempty) (hstep : (upgrades bech32).step s a s') (x : String) :
    IsTurn bech32 T T (Lapsed s a) s s' x :=
  turn_of_step_within hkeyed helectorate hne (.refl T _) hstep x

end Steps

end ComplianceLedger.Dclupgrade
