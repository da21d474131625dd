import ComplianceLedger.Catalog.Effect
import ComplianceLedger.Ledger.Polls
import ComplianceLedger.Pki.Thresholds

/-!
# A minority of the trustees

The trustees decide together: most of what they decide on takes the approval of two thirds of them. So
as long as fewer of them sign, nothing of it happens, whatever messages they send, in whatever order,
and whatever everybody else sends. No account is added but those of vendors, and none is revoked; no
certificate is approved, neither a root nor any other; no validator is disabled but by its owner; and no
upgrade is approved.

The trustees stay the same, since adding and revoking trustees takes two thirds of them as well. The
statement is about runs without evidence, which revokes accounts without a vote. A rejected upgrade
is scheduled, too, so that the plan stays empty only if the minority is also below the veto.

## Main definitions

* `Dclauth.Grows accounts accounts'`: the accounts stay, and new ones are those of vendors
* `Dclauth.Minority`, `Pki.Minority`, `Validators.Minority`, `Dclupgrade.Minority`: the invariants
* `Act.Within`: the trustees who sign are among the minority, and there is no evidence

## Main results

* `Dclauth.Minority.step`, …: what a message of the minority does in each module
* `minority_powerless`: what a minority cannot do in any run
-/

open Machine Machine.Handler Machine.TransitionSystem

namespace ComplianceLedger

theorem nonempty_of_lt_approvalsCount {percent : ℕ} {T C : Finset AccAddress}
    (h : C.card < approvalsCount percent T.card) : T.Nonempty := by
  rw [← Finset.card_pos]
  by_contra hzero
  rw [Nat.eq_zero_of_not_pos hzero] at h
  unfold approvalsCount roundPercent at h
  omega

end ComplianceLedger

/-! ## Accounts -/

namespace ComplianceLedger.Dclauth

/-- The accounts stay, with their roles, vendor IDs and numbers, and the new ones are those of
vendors. -/
structure Grows (accounts accounts' : AccountStore) : Prop where
  kept : ∀ a account, accounts.get (accountKey a) = some account →
    ∃ account', accounts'.get (accountKey a) = some account' ∧ account'.roles = account.roles ∧
      account'.vendorID = account.vendorID ∧ account'.accountNumber = account.accountNumber
  new : ∀ a account', accounts.get (accountKey a) = none →
    accounts'.get (accountKey a) = some account' → account'.roles = [.vendor]

section Grows

variable {accounts accounts' accounts'' : AccountStore} {a : AccAddress} {account account' : Account}

theorem Grows.refl (accounts : AccountStore) : Grows accounts accounts := by
  refine ⟨fun a account hget => ⟨account, hget, rfl, rfl, rfl⟩, fun a account' hnone hget => ?_⟩
  rw [hnone] at hget
  cases hget

theorem Grows.trans (h : Grows accounts accounts') (h' : Grows accounts' accounts'') :
    Grows accounts accounts'' := by
  refine ⟨fun a account hget => ?_, fun a account'' hnone hget => ?_⟩
  · obtain ⟨account', hget', hroles, hvendorID, hnumber⟩ := h.kept a account hget
    obtain ⟨account'', hget'', hroles', hvendorID', hnumber'⟩ := h'.kept a account' hget'
    exact ⟨account'', hget'', hroles'.trans hroles, hvendorID'.trans hvendorID, hnumber'.trans hnumber⟩
  · cases hget' : accounts'.get (accountKey a) with
    | none => exact h'.new a account'' hget' hget
    | some account' =>
      obtain ⟨account₁, hget₁, hroles, -, -⟩ := h'.kept a account' hget'
      obtain rfl := Option.some.inj (hget₁.symm.trans hget)
      exact hroles.trans (h.new a account' hnone hget')

theorem Grows.add (hnone : accounts.get (accountKey a) = none) (hroles : account.roles = [.vendor]) :
    Grows accounts (accounts.set (accountKey a) account) := by
  refine ⟨fun b account' hget => ⟨account', ?_, rfl, rfl, rfl⟩, fun b account' hnone' hget => ?_⟩
  · rw [KVStore.get_set_of_ne _ _ fun hk => ?_, hget]
    rw [hk, hnone] at hget
    cases hget
  · rw [KVStore.get_set] at hget
    split at hget
    · obtain rfl := Option.some.inj hget
      exact hroles
    · rw [hnone'] at hget
      cases hget

theorem Grows.rewrite (hget : accounts.get (accountKey a) = some account)
    (hroles : account'.roles = account.roles) (hvendorID : account'.vendorID = account.vendorID)
    (hnumber : account'.accountNumber = account.accountNumber) :
    Grows accounts (accounts.set (accountKey a) account') := by
  refine ⟨fun b account₁ hget₁ => ?_, fun b account₁ hnone hget₁ => ?_⟩
  · rw [KVStore.get_set]
    split
    · next hk =>
      rw [hk, hget] at hget₁
      obtain rfl := Option.some.inj hget₁
      exact ⟨account', rfl, hroles, hvendorID, hnumber⟩
    · exact ⟨account₁, hget₁, rfl, rfl, rfl⟩
  · rw [KVStore.get_set] at hget₁
    split at hget₁
    · next hk =>
      rw [hk, hget] at hnone
      cases hnone
    · rw [hnone] at hget₁
      cases hget₁

/-- The trustees stay the same. -/
theorem Grows.electorate {T : Finset AccAddress} (h : Grows accounts accounts')
    (helectorate : Electorate accounts T)
    (hkeyed : accounts'.All fun k _ => ∃ addr, k = accountKey addr) : Electorate accounts' T := by
  refine ⟨hkeyed, fun a => ?_⟩
  rw [← helectorate.member, hasRole_iff, hasRole_iff]
  constructor
  · rintro ⟨account', hget', hrole⟩
    cases hget : accounts.get (accountKey a) with
    | none =>
      rw [h.new a account' hget hget'] at hrole
      exact absurd (List.mem_singleton.mp hrole) (by decide)
    | some account =>
      obtain ⟨account₁, hget₁, hroles, -⟩ := h.kept a account hget
      obtain rfl := Option.some.inj (hget₁.symm.trans hget')
      exact ⟨account, rfl, hroles ▸ hrole⟩
  · rintro ⟨account, hget, hrole⟩
    obtain ⟨account', hget', hroles, -⟩ := h.kept a account hget
    exact ⟨account', hget', hroles.symm ▸ hrole⟩

end Grows

/-- The trustees are the members of `T`, and only members of `C` have voted on what is pending. -/
structure Minority (bech32 : Bech32) (T C : Finset AccAddress) (s : Store) : Prop where
  electorate : Electorate s.account T
  sound : board.Sound bech32.Casts C (accountQuorum T.card) (accountVeto T.card) s
  revocation : s.pendingAccountRevocation.All fun _ revocation => revocation.poll.Fair bech32.Casts C

section Steps

variable {bech32 : Bech32} {T C : Finset AccAddress} {s s' : Store} {act : Act}

theorem lt_quorum (hfew : C.card < approvalsCount accountApprovalsPercent T.card) :
    C.card < accountQuorum T.card accountApprovalsPercent :=
  hfew.trans_le (le_max_right _ _)

/-- An account that a minority can add is that of a vendor. -/
theorem roles_of_count (hfew : C.card < approvalsCount accountApprovalsPercent T.card)
    (helectorate : Electorate s.account T) {account : Account} {n : ℕ} (hn : n ≤ C.card)
    (hcount : accountApprovalsCount s.account account.approvalsPercent ≤ n) :
    account.roles = [.vendor] := by
  rw [accountApprovalsCount_eq helectorate] at hcount
  by_contra hroles
  have hpercent : account.approvalsPercent = accountApprovalsPercent :=
    if_neg fun hvendor => hroles (of_decide_eq_true hvendor)
  rw [hpercent] at hcount
  exact absurd (lt_quorum hfew) (not_lt.mpr (hcount.trans hn))

/-- **A minority adds accounts of vendors only, and revokes none.** -/
theorem Minority.grows (h : Minority bech32 T C s)
    (hfew : C.card < approvalsCount accountApprovalsPercent T.card)
    (hC : ∀ msg, act = .deliver msg → SignedWithin T C (bech32.accAddressFromBech32 msg.signer))
    (hact : ∀ a, act ≠ .revokeMalicious a) (he : Effect bech32 s act s') :
    Grows s.account s'.account := by
  -- one vote of a minority is not enough where two thirds are needed
  have hone : ∀ {signer address : String} {signerAddr accAddr : AccAddress},
      SignedByTrustee bech32 s signer address signerAddr accAddr →
      SignedWithin T C (bech32.accAddressFromBech32 signer) → 1 ≤ C.card := fun hsigned hC =>
    Finset.card_pos.mpr ⟨_, hsigned.mem h.electorate hC⟩
  cases he with
  | refused | proposed | approved | rejected | discarded | revocationProposed | revocationApproved =>
    exact .refl _
  | addedAtOnce proposal count =>
    refine .add proposal.not_active ?_
    exact roles_of_count hfew h.electorate (hone proposal.toSignedByTrustee (hC _ rfl)) count
  | @added msg signerAddr accAddr found vote count =>
    have hfair := (h.sound.isOpen accAddr _ vote.pending_eq).fair
    have hle := hfair.ayes_lt_card (vote.counts h.electorate (hC _ rfl))
    have hroles : found.roles = [.vendor] := roles_of_count hfew h.electorate hle count
    have hnone : s.account.get (accountKey accAddr) = none :=
      Option.map_eq_none_iff.mp (h.sound.undecided accAddr _ vote.pending_eq).1
    exact .add hnone hroles
  | revokedAtOnce signed active free count =>
    -- a revocation takes two thirds whatever the roles of the account are
    rw [accountApprovalsCount_eq h.electorate] at count
    exact absurd (lt_quorum hfew) (not_lt.mpr (count.trans (hone signed (hC _ rfl))))
  | revoked vote active count =>
    rw [accountApprovalsCount_eq h.electorate] at count
    have hfair := h.revocation _ _ vote.pending
    have hle := hfair.ayes_lt_card (vote.counts_of_mem (vote.mem h.electorate (hC _ rfl)))
    exact absurd (lt_quorum hfew) (not_lt.mpr (count.trans hle))
  | writtenBack pubKey sequence signed active => exact .rewrite active rfl rfl rfl
  | revokedMalicious active => exact absurd rfl (hact _)

/-- A minority keeps the invariant. -/
theorem Minority.step (h : Minority bech32 T C s) (hkeyed : Keyed bech32 s)
    (hfew : C.card < approvalsCount accountApprovalsPercent T.card)
    (hC : ∀ msg, act = .deliver msg → SignedWithin T C (bech32.accAddressFromBech32 msg.signer))
    (hact : ∀ a, act ≠ .revokeMalicious a) (he : Effect bech32 s act s') :
    Minority bech32 T C s' := by
  refine ⟨?_, ?_, ?_⟩
  · exact (h.grows hfew hC hact he).electorate h.electorate fun k account hget =>
      ⟨_, (keyed_effect hkeyed he).account k account hget⟩
  · exact h.sound.step fun x =>
      turn_of_effect_within h.electorate (nonempty_of_lt_approvalsCount hfew) hC he x
  · cases he with
    | refused | proposed | addedAtOnce | approved | added | rejected | discarded | revokedAtOnce
    | writtenBack | revokedMalicious => exact h.revocation
    | revocationProposed signed =>
      exact h.revocation.set (Poll.fair_singleton () (signed.mem h.electorate (hC _ rfl))
        (Bech32.casts_of_signer signed.signer rfl))
    | revocationApproved vote =>
      exact h.revocation.set ((h.revocation _ _ vote.pending).addAye
        (vote.counts_of_mem (vote.mem h.electorate (hC _ rfl))))
    | revoked => exact h.revocation.delete _

end Steps

end ComplianceLedger.Dclauth

/-! ## Certificates -/

namespace ComplianceLedger.Pki

open Dclauth (Electorate)

/-- No certificate is approved, and only members of `C` have voted on what is proposed. -/
structure Minority (bech32 : Bech32) (C : Finset AccAddress) (s : Store) : Prop where
  unapproved : ∀ k, s.approvedCertificates.get k = none
  fair : s.proposedCertificate.All fun _ proposed => proposed.poll.Fair bech32.Casts C

variable {lib : CryptoX509} {bech32 : Bech32} {ctx : Context} {T C : Finset AccAddress}
  {s s' : Store} {msg : Msg}

theorem Minority.empty : Minority bech32 C Store.empty := ⟨fun _ => rfl, .empty⟩

/-- **A minority approves no certificate.** Without an approved root no other certificate has a chain,
and there is nothing to revoke. -/
theorem Minority.step (h : Minority bech32 C s)
    (hfew : C.card < approvalsCount rootCertificateApprovalsPercent T.card)
    (helectorate : Electorate ctx.accounts T)
    (hC : SignedWithin T C (bech32.accAddressFromBech32 msg.signer))
    (he : Effect lib bech32 ctx s msg s') : Minority bech32 C s' := by
  -- a trustee who signs the message is one of the minority
  have hmem : ∀ {addr : AccAddress}, bech32.accAddressFromBech32 msg.signer = .ok addr →
      ctx.accounts.hasRole addr rootCertificateApprovalRole = true → addr ∈ C :=
    fun hsigner hrole => hC _ ((helectorate.member _).mp hrole) hsigner
  cases he with
  | refused | revocationApproved => exact ⟨h.unapproved, h.fair⟩
  | @proposed m x _ _ addr approvals _ _ _ _ _ _ hsigner happrovals =>
    refine ⟨h.unapproved, h.fair.set ?_⟩
    subst happrovals
    unfold proposalOf ProposedCertificate.poll
    split
    · next hrole =>
      exact Poll.fair_singleton () (hmem hsigner hrole) (Bech32.casts_of_signer hsigner rfl)
    · exact Poll.fair_nil ()
  | approved vote =>
    have hcounts := vote.counts_of_mem (hmem vote.signer vote.role)
    exact ⟨h.unapproved, h.fair.set ((h.fair _ _ vote.proposal).addAye hcounts)⟩
  | rejected vote =>
    have hcounts := vote.counts_of_mem (hmem vote.signer vote.role)
    exact ⟨h.unapproved, h.fair.set ((h.fair _ _ vote.proposal).addNay hcounts)⟩
  | discarded => exact ⟨h.unapproved, h.fair.delete _⟩
  | activated cert vote hreached =>
    have hcounts := vote.counts_of_mem (hmem vote.signer vote.role)
    have hle := (h.fair _ _ vote.proposal).ayes_lt_card hcounts
    rw [certificateApprovalsCount_eq helectorate] at hreached
    exact absurd hfew (not_lt.mpr (hreached.trans hle))
  | added cert _ hnot _ _ hverify =>
    -- the chain of a certificate that is not self-signed starts at an approved issuer
    exact absurd (h.unapproved _) (get_issuer_ne_none (chain_of_verifyCertificate hverify) hnot)
  | revocationProposed _ _ _ hfound => cases (h.unapproved _).symm.trans hfound
  | rootRevoked _ _ _ _ _ hfound => cases (h.unapproved _).symm.trans hfound
  | revoked _ hfound => cases (h.unapproved _).symm.trans hfound

end ComplianceLedger.Pki

/-! ## Validators -/

namespace ComplianceLedger.Validators

/-- No validator is disabled by votes, and only members of `C` have voted on what is proposed. -/
structure Minority (addr : Addresses) (T C : Finset AccAddress) (s : Store) : Prop where
  sound : (board addr).Sound addr.acc.Casts C (fun _ => approvalsCount disableValidatorPercent T.card)
    (rejectsCount disableValidatorPercent T.card) s
  unapproved : ∀ x, (board addr).approved s x = none

variable {addr : Addresses} {T C : Finset AccAddress} {s s' : Store} {act : Act}

theorem Minority.empty : Minority addr T C Store.empty :=
  ⟨Board.sound_of_none (fun _ => rfl) fun _ => rfl, fun _ => rfl⟩

/-- **A minority disables no validator.** -/
theorem Minority.step (h : Minority addr T C s) (hs : Consistent addr s)
    (hfew : C.card < approvalsCount disableValidatorPercent T.card) (helectorate : VotesWith T act)
    (hC : ∀ ctx msg, act = .deliver ctx msg → SignedWithin T C (msg.getSigner addr))
    (he : Effect addr s act s') : Minority addr T C s' := by
  have hturn := turn_of_effect_within hs helectorate (nonempty_of_lt_approvalsCount hfew) hC he
  refine ⟨h.sound.step hturn, fun x => ?_⟩
  exact ((hturn x).approved_of_minority h.sound fun _ => hfew).elim (·.trans (h.unapproved x)) id

/-- A validator that is disabled is disabled by its owner. -/
theorem Minority.disabledByNodeAdmin (h : Minority addr T C s) {x : Subject addr}
    {disabled : DisabledValidator}
    (hget : s.getDisabledValidator (addr.valString x) = some disabled) :
    disabled.disabledByNodeAdmin = true := by
  by_contra hnot
  have happroved : (s.getDisabledValidator (addr.valString x)).bind DisabledValidator.poll = none :=
    h.unapproved x
  rw [hget, Option.bind_some, DisabledValidator.poll, if_neg hnot] at happroved
  cases happroved

end ComplianceLedger.Validators

/-! ## Upgrades -/

namespace ComplianceLedger.Dclupgrade

open Dclauth (Electorate)

/-- No upgrade is approved, and only members of `C` have voted on what is proposed. If they are also
below the veto, no upgrade is rejected either, and no plan is scheduled. -/
structure Minority (bech32 : Bech32) (T C : Finset AccAddress) (s : Store) : Prop where
  sound : board.Sound bech32.Casts C (fun _ => approvalsCount upgradeApprovalsPercent T.card)
    (rejectsCount upgradeApprovalsPercent T.card) s
  unapproved : ∀ name, board.approved s name = none
  unrejected : C.card < rejectsCount upgradeApprovalsPercent T.card →
    ∀ name, board.rejected s name = none
  unplanned : C.card < rejectsCount upgradeApprovalsPercent T.card → s.plan = none

variable {bech32 : Bech32} {ctx : Context} {T C : Finset AccAddress} {s s' : Store} {msg : Msg}
  {u : Unit}

theorem Minority.empty : Minority bech32 T C Store.empty :=
  ⟨Board.sound_of_none (fun _ => rfl) fun _ => rfl, fun _ => rfl, fun _ _ => rfl, fun _ => rfl⟩

/-- A message that schedules a plan has approved or rejected an upgrade. -/
theorem decided_of_plan (h : handle bech32 ctx msg s = some (.ok u, s')) :
    s'.plan = s.plan ∨ ∃ name, board.approved s' name ≠ none ∨ board.rejected s' name ≠ none := by
  have hsome : ∀ (upgrades : KVStore Bytes ProposedUpgrade) name upgrade,
      ((upgrades.set (upgradeKey name) upgrade).get (upgradeKey name)).map ProposedUpgrade.poll ≠
        none := by
    intro upgrades name upgrade
    rw [KVStore.get_set_self]
    exact Option.some_ne_none _
  cases msg with
  | proposeUpgrade msg =>
    obtain ⟨creatorAddr, -, -, -, -, -, upgrade, -, ⟨-, rfl⟩ | ⟨-, rfl⟩⟩ := proposeUpgrade_ok h
    · exact .inl rfl
    · exact .inr ⟨_, .inl (hsome _ _ _)⟩
  | approveUpgrade msg =>
    obtain ⟨creatorAddr, found, -, -, -, -, -, -, upgrade, -, ⟨-, rfl⟩ | ⟨-, rfl⟩⟩ :=
      approveUpgrade_ok h
    · exact .inr ⟨_, .inl (hsome _ _ _)⟩
    · exact .inl rfl
  | rejectUpgrade msg =>
    obtain ⟨creatorAddr, found, -, -, -, -, -, upgrade, -, ⟨-, -, rfl⟩ | ⟨-, rfl⟩⟩ :=
      rejectUpgrade_ok h
    · -- the rejection that decides schedules the plan, as an approval does
      exact .inr ⟨_, .inr (hsome _ _ _)⟩
    · exact .inl rfl

/-- **A minority approves no upgrade**, and schedules none if it is below the veto. -/
theorem Minority.handle (h : Minority bech32 T C s) (hkeyed : Keyed s)
    (hfew : C.card < approvalsCount upgradeApprovalsPercent T.card)
    (helectorate : Electorate ctx.accounts T)
    (hC : SignedWithin T C (bech32.accAddressFromBech32 msg.creator))
    (hhandle : handle bech32 ctx msg s = some (.ok u, s')) : Minority bech32 T C s' := by
  have hstep : (upgrades bech32).step s (ctx, msg) s' := ⟨_, Handler.deliver_of_ok hhandle⟩
  have hturn := turn_of_step_within (a := (ctx, msg)) hkeyed helectorate
    (nonempty_of_lt_approvalsCount hfew) hC hstep
  have hunapproved : ∀ name, board.approved s' name = none := fun name =>
    ((hturn name).approved_of_minority h.sound fun _ => hfew).elim (·.trans (h.unapproved name)) id
  have hunrejected : C.card < rejectsCount upgradeApprovalsPercent T.card →
      ∀ name, board.rejected s' name = none := fun hveto name =>
    ((hturn name).rejected_of_minority h.sound hveto).elim (·.trans (h.unrejected hveto name)) id
  refine ⟨h.sound.step hturn, hunapproved, hunrejected, fun hveto => ?_⟩
  rcases decided_of_plan hhandle with hsame | ⟨name, happroved | hrejected⟩
  · exact hsame.trans (h.unplanned hveto)
  · exact absurd (hunapproved name) happroved
  · exact absurd (hunrejected hveto name) hrejected

end ComplianceLedger.Dclupgrade

/-! ## The ledger -/

namespace ComplianceLedger.Catalog

open Dclauth (Electorate Grows)

def Act.isEvidence : Act → Bool
  | .chain (.evidence _ _) => true
  | _ => false

/-- There is no evidence, and a trustee who signs the message is a member of `C`. -/
def Act.Within (env : Env) (T C : Finset AccAddress) (act : Act) : Prop :=
  act.isEvidence = false ∧ ∀ msg ∈ act.msg, SignedWithin T C (msg.getSigner env)

instance (T C : Finset AccAddress) (signer : Except String AccAddress) :
    Decidable (SignedWithin T C signer) :=
  inferInstanceAs (Decidable (∀ v ∈ T, signer = .ok v → v ∈ C))

instance (env : Env) (T C : Finset AccAddress) : DecidablePred (Act.Within env T C) := fun act =>
  inferInstanceAs (Decidable (act.isEvidence = false ∧
    ∀ msg ∈ act.msg, SignedWithin T C (msg.getSigner env)))

/-- What a minority has not changed. -/
structure Minority (env : Env) (T C : Finset AccAddress) (st : State) : Prop where
  auth : Dclauth.Minority env.addr.acc T C st.chain.auth
  pki : Pki.Minority env.addr.acc C st.chain.pki
  validators : Validators.Minority env.addr T C st.chain.validators
  upgrade : Dclupgrade.Minority env.addr.acc T C st.chain.upgrade

section Steps

variable {env : Env} {genesis : List Dclauth.Account} {T C : Finset AccAddress} {st st' : State}
  {act : Act}

/-- Before any step: the trustees are those of the genesis, and nothing is pending. -/
theorem Minority.init (helectorate : Electorate (Dclauth.initGenesis env.addr.acc genesis).account T) :
    Minority env T C (env.runs genesis).init := by
  refine ⟨⟨helectorate, ?_, ?_⟩, .empty, .empty, .empty⟩
  all_goals
    obtain ⟨accounts, accountStat, hgenesis⟩ := Dclauth.initGenesis_eq env.addr.acc genesis
  · change Dclauth.board.Sound _ _ _ _ (Dclauth.initGenesis env.addr.acc genesis)
    rw [hgenesis]
    exact Board.sound_of_none (fun _ => rfl) fun _ => rfl
  · change (Dclauth.initGenesis env.addr.acc genesis).pendingAccountRevocation.All _
    rw [hgenesis]
    exact .empty

/-- **A step of the minority keeps the invariant**, and the accounts. -/
theorem Minority.step (h : Minority env T C st) (hst : Consistent env st)
    (hfew : C.card < (66 * T.card + 50) / 100) (hC : act.Within env T C)
    (he : Effect env st act st') :
    Minority env T C st' ∧ Grows st.chain.auth.account st'.chain.auth.account := by
  cases he with
  | @auth msg auth heffect =>
    have hsigned : ∀ msg', Dclauth.Act.deliver msg = .deliver msg' →
        SignedWithin T C (env.addr.acc.accAddressFromBech32 msg'.signer) := by
      rintro msg' ⟨⟩
      exact hC.2 _ rfl
    have hact : ∀ a, Dclauth.Act.deliver msg ≠ .revokeMalicious a := fun _ h => nomatch h
    exact ⟨{ h with auth := h.auth.step hst.auth hfew hsigned hact heffect },
      h.auth.grows hfew hsigned hact heffect⟩
  | @writeBack signer pubKey sequence auth heffect =>
    have hsigned : ∀ msg, Dclauth.Act.writeBack signer pubKey sequence = .deliver msg →
      SignedWithin T C (env.addr.acc.accAddressFromBech32 msg.signer) := fun _ h => nomatch h
    have hact : ∀ a, Dclauth.Act.writeBack signer pubKey sequence ≠ .revokeMalicious a :=
      fun _ h => nomatch h
    exact ⟨{ h with auth := h.auth.step hst.auth hfew hsigned hact heffect },
      h.auth.grows hfew hsigned hact heffect⟩
  | pki heffect =>
    exact ⟨{ h with pki := h.pki.step hfew h.auth.electorate (hC.2 _ rfl) heffect }, .refl _⟩
  | @validator ctx msg validators heffect =>
    have hvotes : Validators.VotesWith T (.deliver { ctx with accounts := st.accounts } msg) :=
      h.auth.electorate
    refine ⟨{ h with validators := h.validators.step hst.validators hfew hvotes ?_ heffect }, .refl _⟩
    rintro ctx' msg' ⟨⟩
    exact hC.2 _ rfl
  | upgrade hhandle =>
    have hupgrade := h.upgrade.handle hst.upgrade hfew h.auth.electorate (hC.2 _ rfl) hhandle
    exact ⟨{ h with upgrade := hupgrade }, .refl _⟩
  | evidence => cases hC.1
  | endBlock heffect =>
    have hvotes : Validators.VotesWith T .endBlock := trivial
    have hsigned : ∀ ctx msg, Validators.Act.endBlock = .deliver ctx msg →
      SignedWithin T C (msg.getSigner env.addr) := fun _ _ h => nomatch h
    exact ⟨{ h with validators := h.validators.step hst.validators hfew hvotes hsigned heffect },
      .refl _⟩
  | other hchain =>
    obtain ⟨hauth, hpki, hvalidators, hupgrade⟩ := h
    rw [← hchain] at hauth hpki hvalidators hupgrade ⊢
    exact ⟨⟨hauth, hpki, hvalidators, hupgrade⟩, .refl _⟩

/-- **A run of the minority keeps the invariant.** -/
theorem minority_of_reachable
    (helectorate : Electorate (Dclauth.initGenesis env.addr.acc genesis).account T)
    (hfew : C.card < (66 * T.card + 50) / 100)
    (h : ((env.runs genesis).restrict fun _ act => act.Within env T C).Reachable st) :
    Minority env T C st ∧
    Grows (Dclauth.initGenesis env.addr.acc genesis).account st.chain.auth.account := by
  refine h.induction (P := fun st => Minority env T C st ∧
    Grows (Dclauth.initGenesis env.addr.acc genesis).account st.chain.auth.account) ?_ ?_
  · exact ⟨.init helectorate, .refl _⟩
  rintro st act st' hr ⟨hminority, hgrows⟩ ⟨hstep, hwithin⟩
  obtain ⟨hminority', hgrows'⟩ := hminority.step (consistent_of_reachable hr.of_restrict) hfew hwithin
    (effect_of_step hr.of_restrict hstep)
  exact ⟨hminority', hgrows.trans hgrows'⟩

/-- **A minority of the trustees is powerless.** Start from a genesis of accounts only. Let the trustees
who sign messages be fewer than 66 percent of all, rounded, whatever everybody else signs, and let there
be no evidence. Then the trustees stay the same; no account is revoked or given other rights, and every
account that is added is that of a vendor; no certificate is approved, and no upgrade; and no validator
is disabled but by its owner. If they are also too few to reject anything, no upgrade is ever
scheduled. -/
theorem minority_powerless
    (helectorate : Electorate (Dclauth.initGenesis env.addr.acc genesis).account T)
    (hfew : C.card < (66 * T.card + 50) / 100)
    (h : ((env.runs genesis).restrict fun _ act => act.Within env T C).Reachable st) :
    Electorate st.chain.auth.account T ∧
    Grows (Dclauth.initGenesis env.addr.acc genesis).account st.chain.auth.account ∧
    (∀ k, st.chain.pki.approvedCertificates.get k = none) ∧
    (∀ (a : Validators.Subject env.addr) disabled,
      st.chain.validators.getDisabledValidator (env.addr.valString a) = some disabled →
        disabled.disabledByNodeAdmin = true) ∧
    (∀ name, st.chain.upgrade.getApprovedUpgrade name = none) ∧
    (C.card < T.card - (66 * T.card + 50) / 100 + 1 → st.chain.upgrade.plan = none) := by
  obtain ⟨hminority, hgrows⟩ := minority_of_reachable helectorate hfew h
  refine ⟨hminority.auth.electorate, hgrows, hminority.pki.unapproved,
    fun a disabled hget => hminority.validators.disabledByNodeAdmin hget, fun name => ?_,
    fun hveto => hminority.upgrade.unplanned hveto⟩
  exact Option.map_eq_none_iff.mp (hminority.upgrade.unapproved name)

end Steps

/-- The context of a message about upgrades at height 1, where every plan may be scheduled. -/
def exampleUpgradeContext : Dclupgrade.Context where
  blockHeight := 1
  accounts := .empty
  scheduleError _ _ := none

/-- One of three trustees proposes a trustee, an upgrade and a root certificate. Their approval of the
upgrade fails, since they have proposed it. -/
def exampleMinority : List Act :=
  [.chain (.auth (.proposeAddAccount
      ⟨"cosmos1one", "cosmos1new", some (utf8 "new"), [.trustee], 0, "", 1⟩)),
    .chain (.upgrade exampleUpgradeContext (.proposeUpgrade ⟨"cosmos1one", ⟨"v0.12.0", 2, ""⟩, "", 1⟩)),
    .chain (.pki 50 (.proposeAddX509RootCert ⟨"cosmos1one", "root", "", 1⟩)),
    .chain (.upgrade exampleUpgradeContext (.approveUpgrade ⟨"cosmos1one", "v0.12.0", "", 1⟩))]

/-- The trustees of the example, and one of them. -/
def exampleTrustees : Finset AccAddress :=
  Dclauth.trustees (Dclauth.initGenesis exampleEnv.addr.acc exampleAccounts).account

def exampleTrustee : Finset AccAddress := {utf8 "one"}

/-- The upgrade that one of three trustees proposes stays pending, and is not scheduled. -/
theorem example_minority : ∃ st,
    ((exampleEnv.runs exampleAccounts).restrict fun _ act =>
      act.Within exampleEnv exampleTrustees exampleTrustee).Reachable st ∧
    (st.chain.upgrade.getProposedUpgrade "v0.12.0").isSome ∧ st.chain.upgrade.plan = none := by
  obtain ⟨st, hreachable, hp⟩ := exists_reachable_of_foldlM
    (T := (exampleEnv.runs exampleAccounts).restrict fun _ act =>
      act.Within exampleEnv exampleTrustees exampleTrustee)
    (p := fun st => (st.chain.upgrade.getProposedUpgrade "v0.12.0").isSome)
    (guarded (fun _ act => act.Within exampleEnv exampleTrustees exampleTrustee) exampleNext)
    (step_of_guarded fun h => (step_of_exampleNext h).1) exampleMinority (by decide +kernel)
  have helectorate : Electorate
      (Dclauth.initGenesis exampleEnv.addr.acc exampleAccounts).account exampleTrustees :=
    Dclauth.electorate_trustees (by decide +kernel)
  obtain ⟨-, -, -, -, -, hplan⟩ := minority_powerless helectorate (by decide +kernel) hreachable
  exact ⟨st, hreachable, hp, hplan (by decide +kernel)⟩

end ComplianceLedger.Catalog
