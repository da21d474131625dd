import ComplianceLedger.Dclauth.Electorate
import ComplianceLedger.Validators.Effect
import ComplianceLedger.Validators.Rules

/-!
# Proposals to disable a validator as polls of the trustees

The trustees may disable a validator against the will of its owner: two thirds of them approve the
proposal, or so many reject it that two thirds can no longer be reached. The owner may disable the
validator too, at any time and without votes, also while a proposal is pending; the record that this
leaves is not an approved poll, and replaces one.

## Main definitions

* `ProposedDisableValidator.poll`, `DisabledValidator.poll`: the votes on a proposal
* `board addr`: the polls on validators, by their addresses

## Main results

* `disableValidatorApprovalsCount_eq`, `disableValidatorRejectApprovalsCount_eq`: the thresholds
* `turn_of_effect`, `turn_of_effect_within`: every step is a turn on every validator, of those
  trustees who sign
-/

open Machine

namespace ComplianceLedger.Validators

open Dclauth (Electorate)

/-- The votes on a proposal. -/
def ProposedDisableValidator.poll (proposed : ProposedDisableValidator) : Poll Unit Grant :=
  ⟨(), proposed.approvals, proposed.rejects⟩

/-- The votes that have disabled a validator, unless its owner has. -/
def DisabledValidator.poll (disabled : DisabledValidator) : Option (Poll Unit Grant) :=
  if disabled.disabledByNodeAdmin then none else some ⟨(), disabled.approvals, disabled.rejects⟩

/-- The addresses that proposals can be about. -/
abbrev Subject (addr : Addresses) := {a // addr.IsAddress a}

/-- The polls on whether to disable a validator. -/
def board (addr : Addresses) : Board Store (Subject addr) Unit Grant where
  pending s a := (s.getProposedDisableValidator (addr.valString a)).map ProposedDisableValidator.poll
  approved s a := (s.getDisabledValidator (addr.valString a)).bind DisabledValidator.poll
  rejected s a := (s.getRejectedNode addr (addr.valString a)).map ProposedDisableValidator.poll

/-! ## The thresholds -/

section Thresholds

variable {ctx : Context} {T : Finset AccAddress}

theorem disableValidatorApprovalsCount_eq (h : Electorate ctx.accounts T) :
    disableValidatorApprovalsCount ctx = approvalsCount disableValidatorPercent T.card := by
  unfold disableValidatorApprovalsCount approvalsCount
  rw [voteForDisableValidatorRole, h.countAccountsWithRole]

theorem disableValidatorRejectApprovalsCount_eq (h : Electorate ctx.accounts T) :
    disableValidatorRejectApprovalsCount ctx = rejectsCount disableValidatorPercent T.card := by
  unfold disableValidatorRejectApprovalsCount rejectsCount
  rw [disableValidatorApprovalsCount_eq h, voteForDisableValidatorRole, h.countAccountsWithRole]

end Thresholds

/-! ## Steps -/

section Steps

variable {addr : Addresses} {ctx : Context} {s s' : Store} {act : Act} {T V : Finset AccAddress}

/-- Different addresses have different texts, and so different keys. -/
theorem valStringKey_injective :
    Function.Injective fun a : Subject addr => disabledValidatorKey (addr.valString a) :=
  fun a b h => Subtype.ext (IsAddress.eq a.2 b.2 (disabledValidatorKey_injective h))

theorem rejectedNodeKey_injective :
    Function.Injective fun a : Subject addr => rejectedNodeKey a :=
  fun _ _ h => Subtype.ext (List.append_cancel_right h)

/-- The rejected proposals lie under the addresses, not under the texts. -/
theorem board_rejected (addr : Addresses) (s : Store) : (board addr).rejected s =
    fun a : Subject addr =>
      (s.rejectedNode.get (rejectedNodeKey a)).map ProposedDisableValidator.poll := by
  funext ⟨a, text, ha⟩
  show (s.getRejectedNode addr (addr.val.string a)).map _ = _
  rw [Store.getRejectedNode, Bech32.getAddress_string ha]

section Updates

variable (a : Subject addr) {p : Poll Unit Grant}

theorem pending_of_set {record : ProposedDisableValidator}
    (h : s'.proposedDisableValidator = s.proposedDisableValidator.set
      (proposedDisableValidatorKey (addr.valString a)) record) (hp : record.poll = p) :
    (board addr).pending s' = Function.update ((board addr).pending s) a (some p) := by
  show (fun x : Subject addr => (s'.proposedDisableValidator.get
    (proposedDisableValidatorKey (addr.valString x))).map ProposedDisableValidator.poll) = _
  rw [h, ← hp]
  exact KVStore.update_set valStringKey_injective (Option.map ProposedDisableValidator.poll) _ a
    record

theorem pending_of_delete
    (h : s'.proposedDisableValidator = s.proposedDisableValidator.delete
      (proposedDisableValidatorKey (addr.valString a))) :
    (board addr).pending s' = Function.update ((board addr).pending s) a none := by
  show (fun x : Subject addr => (s'.proposedDisableValidator.get
    (proposedDisableValidatorKey (addr.valString x))).map ProposedDisableValidator.poll) = _
  rw [h]
  exact KVStore.update_delete valStringKey_injective (Option.map ProposedDisableValidator.poll) _ a

theorem approved_of_set {record : DisabledValidator} {o : Option (Poll Unit Grant)}
    (h : s'.disabledValidator = s.disabledValidator.set
      (disabledValidatorKey (addr.valString a)) record) (ho : record.poll = o) :
    (board addr).approved s' = Function.update ((board addr).approved s) a o := by
  show (fun x : Subject addr => (s'.disabledValidator.get
    (disabledValidatorKey (addr.valString x))).bind DisabledValidator.poll) = _
  rw [h, ← ho]
  exact KVStore.update_set valStringKey_injective (Option.bind · DisabledValidator.poll) _ a record

theorem approved_of_delete
    (h : s'.disabledValidator = s.disabledValidator.delete
      (disabledValidatorKey (addr.valString a))) :
    (board addr).approved s' = Function.update ((board addr).approved s) a none := by
  show (fun x : Subject addr => (s'.disabledValidator.get
    (disabledValidatorKey (addr.valString x))).bind DisabledValidator.poll) = _
  rw [h]
  exact KVStore.update_delete valStringKey_injective (Option.bind · DisabledValidator.poll) _ a

theorem rejected_of_set {record : ProposedDisableValidator}
    (h : s'.rejectedNode = s.rejectedNode.set (rejectedNodeKey a) record) (hp : record.poll = p) :
    (board addr).rejected s' = Function.update ((board addr).rejected s) a (some p) := by
  rw [board_rejected, board_rejected, h, ← hp]
  exact KVStore.update_set rejectedNodeKey_injective (Option.map ProposedDisableValidator.poll) _ a
    record

theorem rejected_of_delete (h : s'.rejectedNode = s.rejectedNode.delete (rejectedNodeKey a)) :
    (board addr).rejected s' = Function.update ((board addr).rejected s) a none := by
  rw [board_rejected, board_rejected, h]
  exact KVStore.update_delete rejectedNodeKey_injective (Option.map ProposedDisableValidator.poll) _ a

end Updates

variable {msg : MsgVoteDisableValidator} {t : AccAddress} {a : ValAddress} {v : Validator}

theorem ProposalVote.counts_of_mem {found : ProposedDisableValidator}
    (h : ProposalVote addr s ctx msg t a v found) (hmem : t ∈ V) :
    found.poll.Counts addr.acc.Casts V (grantOf addr msg t) :=
  counts_of_not_hasGrantFrom hmem h.creator rfl h.no_approval h.no_reject

theorem ProposalVote.counts (helectorate : Electorate ctx.accounts T)
    {found : ProposedDisableValidator} (h : ProposalVote addr s ctx msg t a v found)
    (hV : SignedWithin T V (addr.acc.accAddressFromBech32 msg.creator)) :
    found.poll.Counts addr.acc.Casts V (grantOf addr msg t) :=
  h.counts_of_mem (hV t ((helectorate.member t).mp h.role) h.creator)

theorem ProposalVote.pending_eq {found : ProposedDisableValidator}
    (h : ProposalVote addr s ctx msg t a v found) :
    (board addr).pending s ⟨a, _, h.address⟩ = some found.poll :=
  congrArg (Option.map ProposedDisableValidator.poll) h.pending

theorem Proposal.pending_eq (h : Proposal addr s ctx msg t a v) :
    (board addr).pending s ⟨a, _, h.address⟩ = none :=
  congrArg (Option.map ProposedDisableValidator.poll) h.not_pending

theorem Proposal.approved_eq (h : Proposal addr s ctx msg t a v) :
    (board addr).approved s ⟨a, _, h.address⟩ = none :=
  congrArg (Option.bind · DisabledValidator.poll) h.not_disabled

/-- The vote of a proposal is that of the trustee who signs it. -/
theorem Proposal.fair (helectorate : Electorate ctx.accounts T)
    (h : Proposal addr s ctx msg t a v)
    (hV : SignedWithin T V (addr.acc.accAddressFromBech32 msg.creator)) :
    (⟨(), [grantOf addr msg t], []⟩ : Poll Unit Grant).Fair addr.acc.Casts V :=
  Poll.fair_singleton () (hV t ((helectorate.member t).mp h.role) h.creator)
    (Bech32.casts_of_signer h.creator rfl)

/-- The trustees who may vote in a step are the members of `T`. -/
def VotesWith (T : Finset AccAddress) : Act → Prop
  | .deliver ctx _ => Electorate ctx.accounts T
  | _ => True

/-- **Every step is a turn on every validator**, of those trustees who sign. -/
theorem turn_of_effect_within (hs : Consistent addr s) (helectorate : VotesWith T act)
    (hne : T.Nonempty)
    (hV : ∀ ctx msg, act = .deliver ctx msg → SignedWithin T V (msg.getSigner addr))
    (he : Effect addr s act s') (x : Subject addr) :
    (board addr).Turn addr.acc.Casts V (fun _ => approvalsCount disableValidatorPercent T.card)
      (rejectsCount disableValidatorPercent T.card) (fun _ => False) s s' x := by
  cases he with
  | refused | created | jailed => exact .of_eq rfl (.of_eq rfl rfl)
  | ended ends =>
    rw [endBlock_frame hs ends]
    exact .of_eq rfl (.of_eq rfl rfl)
  | disabled found =>
    -- the record of the owner is not one of votes
    exact Board.turn_of_removed rfl (approved_of_set ⟨_, _, found.creator⟩ rfl rfl) rfl
  | enabled found => exact Board.turn_of_removed rfl (approved_of_delete ⟨_, _, found.creator⟩ rfl) rfl
  | proposed proposal count =>
    rw [disableValidatorApprovalsCount_eq helectorate] at count
    exact Board.turn_of_opened (.inl proposal.pending_eq)
      ⟨proposal.fair helectorate (hV _ _ rfl), count, Nat.succ_pos _⟩ proposal.approved_eq
      (pending_of_set ⟨_, _, proposal.address⟩ rfl rfl) rfl
      (rejected_of_delete ⟨_, _, proposal.address⟩ rfl)
  | disabledAtOnce proposal count =>
    rw [disableValidatorApprovalsCount_eq helectorate] at count
    have hone : approvalsCount disableValidatorPercent T.card = 1 :=
      le_antisymm count (one_le_approvalsCount (by decide) hne.card_pos)
    exact Board.turn_of_passedAtOnce (.inl proposal.pending_eq) (proposal.fair helectorate (hV _ _ rfl))
      hone.symm (Function.update_eq_self_iff.mpr proposal.pending_eq.symm).symm
      (approved_of_set ⟨_, _, proposal.address⟩ rfl rfl)
      (rejected_of_delete ⟨_, _, proposal.address⟩ rfl)
  | approved vote count =>
    rw [disableValidatorApprovalsCount_eq helectorate] at count
    exact Board.turn_of_aye vote.pending_eq (vote.counts helectorate (hV _ _ rfl)) count
      (pending_of_set ⟨_, _, vote.address⟩ rfl rfl) rfl rfl
  | disabledByVotes vote count =>
    rw [disableValidatorApprovalsCount_eq helectorate] at count
    exact Board.turn_of_passed vote.pending_eq (vote.counts helectorate (hV _ _ rfl)) count
      (pending_of_delete ⟨_, _, vote.address⟩ rfl) (approved_of_set ⟨_, _, vote.address⟩ rfl rfl) rfl
  | rejected vote count =>
    rw [disableValidatorRejectApprovalsCount_eq helectorate] at count
    exact Board.turn_of_nay vote.pending_eq (vote.counts helectorate (hV _ _ rfl)) count
      (pending_of_set ⟨_, _, vote.address⟩ rfl rfl) rfl rfl
  | discarded vote count =>
    rw [disableValidatorRejectApprovalsCount_eq helectorate] at count
    exact Board.turn_of_failed vote.pending_eq (vote.counts helectorate (hV _ _ rfl)) count
      (pending_of_delete ⟨_, _, vote.address⟩ rfl) rfl
      (rejected_of_set ⟨_, _, vote.address⟩ rfl rfl)

theorem turn_of_effect (hs : Consistent addr s) (helectorate : VotesWith T act) (hne : T.Nonempty)
    (he : Effect addr s act s') (x : Subject addr) :
    (board addr).Turn addr.acc.Casts T (fun _ => approvalsCount disableValidatorPercent T.card)
      (rejectsCount disableValidatorPercent T.card) (fun _ => False) s s' x :=
  turn_of_effect_within hs helectorate hne (fun _ _ _ => .refl T _) he x

end Steps

end ComplianceLedger.Validators
