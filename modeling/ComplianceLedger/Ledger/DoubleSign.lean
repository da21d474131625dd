import ComplianceLedger.Ledger.System
import ComplianceLedger.Validators.Updates

/-!
# Validators that have signed twice

A validator that has signed twice is not to sign again. This is stored nowhere. It follows from three
things: the validator is jailed, by the evidence or before; the account of its owner is revoked, and
only the owner can enable it; and neither the owner nor the key can be used for another validator, since
validators are never removed. It holds as long as the account of the owner is not added again.

## Main definitions

* `Banned addr st consAddr owner`: the validator of the owner has this key and is jailed, and the owner
  has no account
* `Reactivates t owner`: a step adds the account of the owner again

## Main results

* `banned_of_evidence`, `Banned.step`: evidence bans a validator, and the next step keeps the ban
* `double_signer_powerless`: a validator that has signed twice has no power from then on
-/

open Machine Machine.TransitionSystem

namespace ComplianceLedger

/-! ## Jailed validators -/

namespace Validators

variable {addr : Addresses} {s s' : Store} {act : Act} {a : ValAddress} {consAddr : ConsAddress}

/-- The validator of an address has a key with this address and is jailed. -/
def JailedWithKey (addr : Addresses) (s : Store) (consAddr : ConsAddress) (a : ValAddress) : Prop :=
  ∃ v pk, s.getValidator a = some v ∧ v.pubKey = some pk ∧ addr.address pk = consAddr ∧
    v.jailed = true

/-- **Only the owner can enable a jailed validator**, with the role of a node admin. -/
theorem JailedWithKey.effect (hs : Consistent addr s) (h : JailedWithKey addr s consAddr a)
    (he : Effect addr s act s')
    (hrole : ∀ ctx msg, act = .deliver ctx msg →
      ctx.accounts.hasRole a enableDisableValidatorRole = false) :
    JailedWithKey addr s' consAddr a := by
  obtain ⟨v, pk, hget, hpk, hconsAddr, hjailed⟩ := h
  have hkept : s'.validator = s.validator → JailedWithKey addr s' consAddr a := by
    intro heq
    refine ⟨v, pk, ?_, hpk, hconsAddr, hjailed⟩
    rw [Store.getValidator, heq]
    exact hget
  -- another validator may be set, and this one if it stays jailed
  have hset : ∀ {b w}, s'.validator = s.validator.set (validatorKey b) w →
      (a = b → w.pubKey = v.pubKey ∧ w.jailed = true) → JailedWithKey addr s' consAddr a := by
    intro b w heq hw
    have hlookup := getValidator_of_set heq a
    split at hlookup
    · next hab => exact ⟨w, pk, hlookup, (hw hab).1.trans hpk, hconsAddr, (hw hab).2⟩
    · exact ⟨v, pk, hlookup.trans hget, hpk, hconsAddr, hjailed⟩
  have hjail : ∀ {b w reason}, s'.validator = s.validator.set (validatorKey b) (w.jail reason) →
      s.getValidator b = some w → JailedWithKey addr s' consAddr a := by
    intro b w reason heq hfound
    refine hset heq fun hab => ?_
    subst hab
    obtain rfl := Option.some.inj (hget.symm.trans hfound)
    exact ⟨rfl, rfl⟩
  cases he with
  | refused | proposed | approved | rejected | discarded => exact hkept rfl
  | ended ends => exact hkept (by rw [endBlock_frame hs ends])
  | created _ _ _ free =>
    refine hset rfl fun hab => ?_
    subst hab
    cases free.symm.trans hget
  | disabled found => exact hjail rfl found.found
  | disabledAtOnce proposal => exact hjail rfl proposal.found
  | disabledByVotes vote => exact hjail rfl vote.found
  | jailed _ _ found => exact hjail rfl found
  | enabled found =>
    refine hset rfl fun hab => ?_
    subst hab
    cases (hrole _ _ rfl).symm.trans found.role

/-- Accepted evidence leaves the validator of the key jailed, whether it was before or not. -/
theorem jailedWithKey_of_evidence {ctx : Context} {evidence : Evidence} {owner : AccAddress}
    (hs : Consistent addr s) (hindexed : Indexed addr s)
    (h : processEvidence addr ctx evidence s = some (s', some owner)) :
    JailedWithKey addr s' evidence.consensusAddress owner := by
  have hhandle : handleDoubleSign addr ctx evidence s = some (s', some owner) := by
    unfold processEvidence at h
    split at h
    · exact h
    · exact h
    · cases (Prod.mk.inj (Option.some.inj h)).2
  unfold handleDoubleSign at hhandle
  split at hhandle
  · cases (Prod.mk.inj (Option.some.inj hhandle)).2
  next v hfound =>
  obtain ⟨a, hindex, hget⟩ := getValidatorByConsAddr_eq_some_iff.mp hfound
  obtain ⟨w, pk, hw, hpk, hconsAddr⟩ := hindexed.index_iff.mp hindex
  obtain rfl : w = v := Option.some.inj (hw.symm.trans hget)
  have howned := hs.owned hget
  split at hhandle
  · cases (Prod.mk.inj (Option.some.inj hhandle)).2
  obtain ⟨t, ht, hpair⟩ := Option.map_eq_some_iff.mp hhandle
  obtain ⟨rfl, howner⟩ := Prod.mk.inj hpair
  -- the account that is revoked is that of the address
  obtain rfl : a = owner := by
    obtain ⟨text, htext⟩ := howned.isAddress
    rw [howned.owner] at howner
    exact (Bech32.getAddress_string htext).symm.trans (Option.some.inj howner)
  split at ht
  · next hjailed =>
    obtain rfl := Option.some.inj ht
    exact ⟨w, pk, hget, hpk, hconsAddr, hjailed⟩
  · rw [howned.jail_eq] at ht
    obtain rfl := Option.some.inj ht
    refine ⟨w.jail (evidence.reason addr ctx), pk, ?_, hpk, hconsAddr, rfl⟩
    rw [getValidator_of_set rfl, if_pos rfl]

/-- The validator of a key has no power while it is jailed. -/
theorem JailedWithKey.power_eq_zero (hs : Consistent addr s) (hindexed : Indexed addr s)
    (h : JailedWithKey addr s consAddr a) {v : Validator} (hv : v ∈ s.validator.values) {pk : PubKey}
    (hpk : v.pubKey = some pk) (hconsAddr : addr.address pk = consAddr) : v.power = 0 := by
  obtain ⟨k, hk⟩ := KVStore.mem_values_iff.mp hv
  obtain ⟨b, rfl, howned⟩ := hs.validator k v hk
  obtain ⟨w, pk', hw, hpk', hconsAddr', hjailed⟩ := h
  have hb := hindexed.index_iff.mpr ⟨v, pk, hk, hpk, hconsAddr⟩
  have ha := hindexed.index_iff.mpr ⟨w, pk', hw, hpk', hconsAddr'⟩
  obtain rfl : a = b := Option.some.inj (ha.symm.trans hb)
  obtain rfl : w = v := Option.some.inj (hw.symm.trans hk)
  rcases howned.power with ⟨-, hpower⟩ | ⟨hfree, -⟩
  · exact hpower
  · cases hjailed.symm.trans hfree

end Validators

namespace Ledger

open Validators (Addresses exampleAddresses exampleContext exampleCreate)

variable {lib : Pki.CryptoX509} {addr : Addresses} {genesis : List Dclauth.Account}
  {st st' : State} {act : Act} {consAddr : Validators.ConsAddress} {owner : AccAddress}

/-! ## The ban -/

/-- The validator of the owner has this key and is jailed, and the owner has no account. -/
structure Banned (addr : Addresses) (st : State) (consAddr : Validators.ConsAddress)
    (owner : AccAddress) : Prop where
  validator : Validators.JailedWithKey addr st.validators consAddr owner
  account : st.auth.getAccountO owner = none

/-- The step adds an account of the owner, who had none. -/
def Reactivates (t : Transition State Act) (owner : AccAddress) : Prop :=
  t.before.auth.getAccountO owner = none ∧ (t.after.auth.getAccountO owner).isSome

/-- An account that is revoked for a double signature is not active, whether it was before or not. -/
theorem getAccountO_revokeMalicious (bech32 : Bech32) (address : AccAddress) (s : Dclauth.Store) :
    (Dclauth.revokeMalicious bech32 address s).getAccountO address = none := by
  unfold Dclauth.revokeMalicious
  split
  · next hnone => exact hnone
  · exact KVStore.get_delete_self _ _

theorem banned_of_evidence (hr : (ledger lib addr genesis).Reachable st)
    {ctx : Validators.Context} {evidence : Validators.Evidence}
    (hstep : (ledger lib addr genesis).step st (.evidence ctx evidence) st')
    (haccepted : doubleSigner addr st ctx evidence = some owner) :
    Banned addr st' evidence.consensusAddress owner := by
  have hvalidators := validators_reachable hr
  obtain ⟨validators, address, hevidence, rfl⟩ := hstep
  obtain rfl : address = some owner := (processEvidence_eq_doubleSigner hevidence).trans haccepted
  exact ⟨Validators.jailedWithKey_of_evidence (Validators.consistent_of_reachable hvalidators)
    (Validators.indexed_of_reachable hvalidators) hevidence,
    getAccountO_revokeMalicious addr.acc owner st.auth⟩

/-- **The next step keeps a ban**, if it does not add the account of the owner again. -/
theorem Banned.step (hr : (ledger lib addr genesis).Reachable st) (h : Banned addr st consAddr owner)
    (hstep : (ledger lib addr genesis).step st act st') (hnot : ¬ Reactivates ⟨st, act, st'⟩ owner) :
    Banned addr st' consAddr owner := by
  constructor
  · rcases validators_cases hstep with hsame | ⟨a, hvalidators, haccounts⟩
    · rw [hsame]
      exact h.validator
    · have hreach := validators_reachable hr
      refine h.validator.effect (Validators.consistent_of_reachable hreach)
        (Validators.effect_of_reachable hreach hvalidators) fun ctx msg ha => ?_
      have hnone : st.auth.account.getAccount owner = none := h.account
      rw [haccounts ctx msg ha, Dclauth.AccountStore.hasRole, hnone]
  · by_contra hsome
    exact hnot ⟨h.account, Option.isSome_iff_ne_none.mpr hsome⟩

/-- **A validator that has signed twice has no power.** In every run, after a piece of evidence of a
known kind that is not too old, against a key that some validator has, and as long as no step adds the
account of the owner again, no validator with this key has power. -/
theorem double_signer_powerless {earlier later : List (Transition State Act)}
    {t : Transition State Act} (h : (ledger lib addr genesis).Trace (earlier ++ t :: later) st)
    {ctx : Validators.Context} {evidence : Validators.Evidence}
    (hevidence : t.label = .evidence ctx evidence)
    (hknown : evidence.type ≠ .unknown) {w : Validators.Validator}
    (hfound : t.before.validators.getValidatorByConsAddr evidence.consensusAddress = some w)
    (hfresh : evidence.isStale ctx = false)
    (hlater : ∀ u ∈ later, ¬ Reactivates u (addr.val.getAddress w.owner)) {v : Validators.Validator}
    (hv : v ∈ st.validators.validator.values) {pk : Validators.PubKey} (hpk : v.pubKey = some pk)
    (hconsAddr : addr.address pk = evidence.consensusAddress) : v.power = 0 := by
  have haccepted : doubleSigner addr t.before ctx evidence = some (addr.val.getAddress w.owner) := by
    simp [doubleSigner, hfound, hknown, hfresh]
  have hbanned : Banned addr st evidence.consensusAddress (addr.val.getAddress w.owner) := by
    refine h.since (Q := fun st =>
      Banned addr st evidence.consensusAddress (addr.val.getAddress w.owner)) ?_ ?_
    · intro hr hstep
      rw [hevidence] at hstep
      exact banned_of_evidence hr hstep haccepted
    · intro u hu hr hstep hbefore
      exact hbefore.step hr hstep (hlater u hu)
  have hreach := validators_reachable h.reachable
  exact hbanned.validator.power_eq_zero (Validators.consistent_of_reachable hreach)
    (Validators.indexed_of_reachable hreach) hv hpk hconsAddr

/-- Evidence that the node has signed twice. -/
def exampleEvidence : Validators.Evidence := ⟨.duplicateVote, utf8 "node", 0, 0⟩

/-- A node admin disables the own validator before the evidence arrives, and tries to enable it
afterwards. -/
theorem example_powerless : ∃ history st st₁ st₂ v,
    (ledger Pki.exampleLib exampleAddresses
      [Dclauth.exampleAccount "cosmos1node" [.nodeAdmin]]).Trace
        (history ++ [⟨st, .evidence (exampleContext .empty) exampleEvidence, st₁⟩,
          ⟨st₁, .validator (exampleContext .empty) (.enableValidator "cosmosvaloper1node"), st₂⟩])
        st₂ ∧
    v ∈ st₂.validators.validator.values ∧ v.power = 0 := by
  obtain ⟨history, st, htrace, hp⟩ := exists_trace_of_foldlM
    (T := ledger Pki.exampleLib exampleAddresses
      [Dclauth.exampleAccount "cosmos1node" [.nodeAdmin]])
    (p := fun _ st =>
      ((st.validators.getValidatorByConsAddr (utf8 "node")).any fun w =>
        exampleAddresses.val.getAddress w.owner = utf8 "node") = true ∧
      ((next Pki.exampleLib exampleAddresses 3 st
        (.evidence (exampleContext .empty) exampleEvidence)).any fun st₁ =>
        (next Pki.exampleLib exampleAddresses 3 st₁
          (.validator (exampleContext .empty) (.enableValidator "cosmosvaloper1node"))).any fun st₂ =>
          st₂.auth.getAccountO (utf8 "node") = none ∧
          st₂.validators.validator.values.map Validators.Validator.pubKey =
            [some (.ed25519 (utf8 "node"))]) = true)
    (next Pki.exampleLib exampleAddresses 3) step_of_next
    [.validator (exampleContext .empty) (exampleCreate "node"),
      .validator (exampleContext .empty) (.disableValidator "cosmosvaloper1node")] (by decide +kernel)
  obtain ⟨hfound, hnext⟩ := of_decide_eq_true hp
  rw [Option.any_eq_true] at hfound hnext
  obtain ⟨w, hfound, howner⟩ := hfound
  obtain ⟨st₁, hst₁, hnext⟩ := hnext
  rw [Option.any_eq_true] at hnext
  obtain ⟨st₂, hst₂, hlast⟩ := hnext
  obtain ⟨hnone, hkeys⟩ := of_decide_eq_true hlast
  obtain ⟨v, hvalues, hpk⟩ := List.map_eq_singleton_iff.mp hkeys
  have hv : v ∈ st₂.validators.validator.values := by
    rw [hvalues]
    exact List.mem_singleton_self v
  have hrun := (htrace.step (step_of_next hst₁)).step (step_of_next hst₂)
  rw [List.append_assoc] at hrun
  refine ⟨history, st, st₁, st₂, v, hrun, hv,
    double_signer_powerless hrun rfl (by decide) hfound rfl (fun u hu => ?_) hv hpk rfl⟩
  -- the refused message adds no account
  rw [List.mem_singleton.mp hu, of_decide_eq_true howner]
  rintro ⟨-, hsome⟩
  rw [hnone] at hsome
  cases hsome

end Ledger

end ComplianceLedger
