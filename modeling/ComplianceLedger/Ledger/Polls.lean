import ComplianceLedger.Dclauth.Polls
import ComplianceLedger.Dclupgrade.Polls
import ComplianceLedger.Ledger.System
import ComplianceLedger.Validators.Polls

/-!
# One protocol for three polls

`dclauth`, `validator` and `dclupgrade` each hold votes of the trustees, and each has its own code for
it: a proposal, an approval, a rejection, and a way of its own where one approval is enough. As long
as the trustees stay the same, all three keep to one protocol. The votes on a pending record come from
different trustees and reach neither threshold, so that some trustee has not voted; the vote that
reaches a threshold decides, and no record is decided in both ways.

## Main definitions

* `during lib addr genesis T`: the runs of the ledger in which the trustees are the members of `T`
* `lapsed st act name`: a pending upgrade that a new proposal may replace

## Main results

* `accounts_governed`, `validators_governed`, `upgrades_governed`: the three modules
* `polls_decided`: the protocol, with the thresholds
-/

open Machine Machine.TransitionSystem

namespace ComplianceLedger.Ledger

open Dclauth (Electorate)
open Validators (Addresses exampleAddresses)

section Definitions

variable (lib : Pki.CryptoX509) (addr : Addresses) (genesis : List Dclauth.Account)

/-- The runs of the ledger in which the trustees are the members of `T`. -/
def during (T : Finset AccAddress) : TransitionSystem State Act :=
  (ledger lib addr genesis).restrict fun st _ => Electorate st.auth.account T

end Definitions

/-- The height of the pending upgrade has passed, and a message proposes another under its name. -/
def lapsed (st : State) : Act → String → Prop
  | .upgrade ctx msg, name => Dclupgrade.Lapsed st.upgrade (ctx, msg) name
  | _, _ => False

variable {lib : Pki.CryptoX509} {addr : Addresses} {genesis : List Dclauth.Account}
  {T : Finset AccAddress}

/-! ## The modules -/

theorem accounts_governed (hne : T.Nonempty) :
    Dclauth.board.Governs addr.acc.Casts T (Dclauth.accountQuorum T.card)
      (Dclauth.accountVeto T.card) (during lib addr genesis T) State.auth fun _ _ _ => False := by
  refine Board.governs_of_turn Bech32.casts_unique ?_ ?_ ?_
  · -- the share that is needed is at most two thirds, whatever the roles
    intro s address p hp
    obtain ⟨account, -, rfl⟩ := Option.map_eq_some_iff.mp hp
    exact Dclauth.accountQuorum_add_accountVeto_le hne.card_pos account.approvalsPercent_le
  · obtain ⟨accounts, accountStat, hgenesis⟩ := Dclauth.initGenesis_eq addr.acc genesis
    show Dclauth.board.Sound _ _ _ _ (Dclauth.initGenesis addr.acc genesis)
    rw [hgenesis]
    exact Board.sound_of_none (fun _ => rfl) fun _ => rfl
  · rintro st act st' x hr ⟨hstep, helectorate⟩
    obtain ⟨a, heffect, -⟩ := exists_auth_effect hr.of_restrict hstep
    exact Dclauth.turn_of_effect helectorate hne heffect x

theorem validators_governed (hne : T.Nonempty) :
    (Validators.board addr).Governs addr.acc.Casts T
      (fun _ => approvalsCount Validators.disableValidatorPercent T.card)
      (rejectsCount Validators.disableValidatorPercent T.card) (during lib addr genesis T)
      State.validators fun _ _ _ => False := by
  refine Board.governs_of_turn Bech32.casts_unique ?_ ?_ ?_
  · intro s address p hp
    exact approvalsCount_add_rejectsCount_le (by decide)
  · exact Board.sound_of_none (fun _ => rfl) fun _ => rfl
  · rintro st act st' x hr ⟨hstep, helectorate⟩
    have hreachable := validators_reachable hr.of_restrict
    rcases validators_cases hstep with hsame | ⟨a, hvalidators, haccounts⟩
    · rw [hsame]
      exact .of_eq rfl (.of_eq rfl rfl)
    · refine Validators.turn_of_effect (Validators.consistent_of_reachable hreachable) ?_ hne
        (Validators.effect_of_reachable hreachable hvalidators) x
      cases a with
      | deliver ctx msg =>
        show Electorate ctx.accounts T
        rw [haccounts ctx msg rfl]
        exact helectorate
      | evidence | endBlock => trivial

theorem upgrades_governed (hne : T.Nonempty) :
    Dclupgrade.board.Governs addr.acc.Casts T
      (fun _ => approvalsCount Dclupgrade.upgradeApprovalsPercent T.card)
      (rejectsCount Dclupgrade.upgradeApprovalsPercent T.card) (during lib addr genesis T)
      State.upgrade lapsed := by
  refine Board.governs_of_turn Bech32.casts_unique ?_ ?_ ?_
  · intro s name p hp
    exact approvalsCount_add_rejectsCount_le (by decide)
  · exact Board.sound_of_none (fun _ => rfl) fun _ => rfl
  · rintro st act st' x hr ⟨hstep, helectorate⟩
    have hkeyed := Dclupgrade.keyed_of_reachable (upgrade_reachable hr.of_restrict)
    rcases upgrade_cases hstep with hsame | ⟨ctx, msg, rfl, hupgrade⟩
    · rw [hsame]
      exact .of_eq rfl (.of_eq rfl rfl)
    · have hturn := Dclupgrade.turn_of_step hkeyed helectorate hne hupgrade x
      cases msg <;> exact hturn

/-! ## The protocol -/

/-- **One protocol for three polls.** While the trustees are the members of `T`, of whom there is at
least one, the pending accounts, the proposals to disable a validator and the pending upgrades keep
to the same protocol: the votes on a pending record are those of different trustees, fewer than
either threshold, and some trustee has not voted; a record is approved or rejected in the step in
which the approvals or the rejections reach the threshold, and in no other; and no record is both
approved and rejected. -/
theorem polls_decided (lib : Pki.CryptoX509) (addr : Addresses) (genesis : List Dclauth.Account)
    (T : Finset AccAddress) (hne : T.Nonempty) :
    (∀ accounts, Electorate accounts T →
      (∀ percent, Dclauth.accountApprovalsCount accounts percent =
        max 1 ((percent * T.card + 50) / 100)) ∧
      Dclauth.accountRejectApprovalsCount accounts = T.card - (66 * T.card + 50) / 100 + 1) ∧
    (∀ ctx : Validators.Context, Electorate ctx.accounts T →
      Validators.disableValidatorApprovalsCount ctx = (66 * T.card + 50) / 100 ∧
      Validators.disableValidatorRejectApprovalsCount ctx =
        T.card - (66 * T.card + 50) / 100 + 1) ∧
    (∀ ctx : Dclupgrade.Context, Electorate ctx.accounts T →
      Dclupgrade.upgradeApprovalsCount ctx = (66 * T.card + 50) / 100 ∧
      Dclupgrade.upgradeRejectsCount ctx = T.card - (66 * T.card + 50) / 100 + 1) ∧
    Dclauth.board.Governs addr.acc.Casts T (fun percent => max 1 ((percent * T.card + 50) / 100))
      (T.card - (66 * T.card + 50) / 100 + 1) (during lib addr genesis T) State.auth
      (fun _ _ _ => False) ∧
    (Validators.board addr).Governs addr.acc.Casts T (fun _ => (66 * T.card + 50) / 100)
      (T.card - (66 * T.card + 50) / 100 + 1) (during lib addr genesis T) State.validators
      (fun _ _ _ => False) ∧
    Dclupgrade.board.Governs addr.acc.Casts T (fun _ => (66 * T.card + 50) / 100)
      (T.card - (66 * T.card + 50) / 100 + 1) (during lib addr genesis T) State.upgrade lapsed := by
  refine ⟨fun accounts h => ⟨?_, ?_⟩, fun ctx h => ⟨?_, ?_⟩, fun ctx h => ⟨?_, ?_⟩, ?_, ?_, ?_⟩
  · exact Dclauth.accountApprovalsCount_eq h
  · exact Dclauth.accountRejectApprovalsCount_eq h hne
  · exact Validators.disableValidatorApprovalsCount_eq h
  · exact Validators.disableValidatorRejectApprovalsCount_eq h
  · exact Dclupgrade.upgradeApprovalsCount_eq h
  · exact Dclupgrade.upgradeRejectsCount_eq h
  · exact accounts_governed hne
  · exact validators_governed hne
  · exact upgrades_governed hne

/-! ## Three trustees -/

/-- A chain that starts with three trustees. -/
def exampleThree : List Dclauth.Account :=
  ["one", "two", "three"].map fun name => Dclauth.exampleAccount ("cosmos1" ++ name) [.trustee]

/-- The trustees that the chain starts with. -/
def exampleElectorate : Finset AccAddress :=
  Dclauth.trustees (Dclauth.initGenesis exampleAddresses.acc exampleThree).account

/-- A block in which the upgrade keeper accepts every plan. -/
def exampleBlock : Dclupgrade.Context := ⟨10, .empty, fun _ _ => none⟩

/-- Execute a step while the trustees are those that the chain has started with. -/
def nextDuring (st : State) (act : Act) : Option State :=
  if Dclauth.isKeyed st.auth.account ∧ Dclauth.trustees st.auth.account = exampleElectorate then
    next Pki.exampleLib exampleAddresses 3 st act
  else none

theorem step_of_nextDuring {st st' : State} {act : Act} (h : nextDuring st act = some st') :
    (during Pki.exampleLib exampleAddresses exampleThree exampleElectorate).step st act st' := by
  unfold nextDuring at h
  split at h
  · next hsame => exact ⟨step_of_next h, hsame.2 ▸ Dclauth.electorate_trustees hsame.1⟩
  · cases h

/-- One of three trustees has proposed an account and an upgrade, and another has rejected both: the
third has not voted. -/
theorem example_voter_left : ∃ st account upgrade,
    (during Pki.exampleLib exampleAddresses exampleThree exampleElectorate).Reachable st ∧
    Dclauth.board.pending st.auth (utf8 "new") = some account ∧
    account.HasVoterLeft exampleAddresses.acc.Casts exampleElectorate ∧
    Dclupgrade.board.pending st.upgrade "v1.1" = some upgrade ∧
    upgrade.HasVoterLeft exampleAddresses.acc.Casts exampleElectorate := by
  obtain ⟨st, hst, hp⟩ := exists_reachable_of_foldlM
    (T := during Pki.exampleLib exampleAddresses exampleThree exampleElectorate)
    (p := fun st => (Dclauth.board.pending st.auth (utf8 "new")).isSome &&
      (Dclupgrade.board.pending st.upgrade "v1.1").isSome)
    nextDuring step_of_nextDuring
    [.auth (.proposeAddAccount
        ⟨"cosmos1one", "cosmos1new", some [], [.certificationCenter], 0, "", 1⟩),
      .upgrade exampleBlock (.proposeUpgrade ⟨"cosmos1one", ⟨"v1.1", 100, ""⟩, "", 1⟩),
      .auth (.rejectAddAccount ⟨"cosmos1two", "cosmos1new", "", 2⟩),
      .upgrade exampleBlock (.rejectUpgrade ⟨"cosmos1two", "v1.1", "", 2⟩)]
    (by decide +kernel)
  simp only [Bool.and_eq_true, Option.isSome_iff_exists] at hp
  obtain ⟨⟨account, haccount⟩, upgrade, hupgrade⟩ := hp
  have hne : exampleElectorate.Nonempty := Finset.card_pos.mp (by decide +kernel)
  obtain ⟨-, -, -, haccounts, -, hupgrades⟩ :=
    polls_decided Pki.exampleLib exampleAddresses exampleThree exampleElectorate hne
  exact ⟨st, account, upgrade, hst, haccount, haccounts.voterLeft st _ account hst haccount,
    hupgrade, hupgrades.voterLeft st _ upgrade hst hupgrade⟩

end ComplianceLedger.Ledger
