import ComplianceLedger.Catalog.Messages
import ComplianceLedger.Dclupgrade.Polls
import ComplianceLedger.Pki.Index
import ComplianceLedger.Validators.Effect

/-!
# The effects of the steps

In every run the records of each module are consistent. So the effects that the modules list for their
own messages are those that the messages have in the catalog, where a message finds the accounts as the
steps before it have left them.

## Main definitions

* `Consistent env st`: the records of the modules are consistent
* `Effect env st act st'`: what a step does to the stores of the chain

## Main results

* `consistent_of_reachable`: the records of a run are consistent
* `Consistent.effect`: every step whose handler succeeds has an effect
* `effect_of_step`: so has every step of a run
-/

open Machine Machine.Handler Machine.TransitionSystem

namespace ComplianceLedger.Catalog

/-- The records of the modules are consistent. -/
structure Consistent (env : Env) (st : State) : Prop where
  auth : Dclauth.Keyed env.addr.acc st.chain.auth
  pki : Pki.WellFormed env.lib st.chain.pki
  validators : Validators.Consistent env.addr st.chain.validators
  upgrade : Dclupgrade.Keyed st.chain.upgrade

/-- **What a step does to the stores**: what it does to those of its module. Evidence may jail a
validator and revoke the account of its owner. -/
inductive Effect (env : Env) (st : State) : Act → State → Prop
  | auth {msg : Dclauth.Msg} {auth : Dclauth.Store}
      (effect : Dclauth.Effect env.addr.acc st.chain.auth (.deliver msg) auth) :
      Effect env st (.chain (.auth msg)) (st.withAuth auth)
  | writeBack {signer : String} {pubKey : Bytes} {sequence : ℕ} {auth : Dclauth.Store}
      (effect : Dclauth.Effect env.addr.acc st.chain.auth (.writeBack signer pubKey sequence) auth) :
      Effect env st (.chain (.writeBack signer pubKey sequence)) (st.withAuth auth)
  | pki {now : ℤ} {msg : Pki.Msg} {pki : Pki.Store}
      (effect : Pki.Effect env.lib env.addr.acc ⟨st.accounts, now⟩ st.chain.pki msg pki) :
      Effect env st (.chain (.pki now msg)) (st.withPki pki)
  | validator {ctx : Validators.Context} {msg : Validators.Msg} {validators : Validators.Store}
      (effect : Validators.Effect env.addr st.chain.validators
        (.deliver { ctx with accounts := st.accounts } msg) validators) :
      Effect env st (.chain (.validator ctx msg)) (st.withValidators validators)
  | upgrade {ctx : Dclupgrade.Context} {msg : Dclupgrade.Msg} {upgrade : Dclupgrade.Store}
      (handled : Dclupgrade.handle env.addr.acc { ctx with accounts := st.accounts } msg
        st.chain.upgrade = some (.ok (), upgrade)) :
      Effect env st (.chain (.upgrade ctx msg)) (st.withUpgrade upgrade)
  | evidence {ctx : Validators.Context} {evidence : Validators.Evidence}
      {validators : Validators.Store} {auth : Dclauth.Store}
      (jailed : Validators.Effect env.addr st.chain.validators
        (.evidence { ctx with accounts := st.accounts } evidence) validators)
      (revoked : auth = st.chain.auth ∨
        ∃ a, Ledger.doubleSigner env.addr st.chain ctx evidence = some a ∧
          Dclauth.Effect env.addr.acc st.chain.auth (.revokeMalicious a) auth) :
      Effect env st (.chain (.evidence ctx evidence)) ((st.withValidators validators).withAuth auth)
  | endBlock {validators : Validators.Store}
      (effect : Validators.Effect env.addr st.chain.validators .endBlock validators) :
      Effect env st (.chain .endBlock) (st.withValidators validators)
  /-- The messages about models, vendors and compliance leave the stores of the chain, and so does what
  is refused. -/
  | other {act : Act} {st' : State} (chain : st'.chain = st.chain) : Effect env st act st'

variable {env : Env} {genesis : List Dclauth.Account} {fuel : ℕ} {act : Act} {st st' : State}

/-- **The records of a run are consistent.** -/
theorem consistent_of_reachable (h : (env.runs genesis).Reachable st) : Consistent env st := by
  have hchain := chain_reachable h
  exact ⟨Dclauth.keyed_of_reachable (Ledger.auth_reachable hchain),
    Pki.wellFormed_of_reachable (Ledger.pki_reachable hchain),
    Validators.consistent_of_reachable (Ledger.validators_reachable hchain),
    Dclupgrade.keyed_of_reachable (Ledger.upgrade_reachable hchain)⟩

/-- A piece of evidence has an effect on the validators, and then on the accounts. -/
theorem Consistent.evidence (h : Consistent env st) {ctx : Validators.Context}
    {evidence : Validators.Evidence}
    (hnext : next env.lib env.addr env.parse fuel st (.chain (.evidence ctx evidence)) = some st') :
    Effect env st (.chain (.evidence ctx evidence)) st' := by
  obtain ⟨chain, hchain, rfl⟩ := Option.map_eq_some_iff.mp hnext
  obtain ⟨⟨validators, address⟩, hprocess, rfl⟩ := Option.map_eq_some_iff.mp hchain
  have hstep : (Validators.validators env.addr).step st.chain.validators
      (.evidence { ctx with accounts := st.accounts } evidence) validators :=
    ⟨[], Option.map_eq_some_iff.mpr ⟨_, hprocess, rfl⟩⟩
  refine .evidence (Validators.step_effect h.validators hstep) ?_
  -- the handler hands on the owner of the validator, if there is one
  have hsigner := Ledger.processEvidence_eq_doubleSigner hprocess
  cases address with
  | none => exact .inl rfl
  | some a => exact .inr ⟨a, hsigner.symm, Dclauth.effect_revokeMalicious h.auth a⟩

/-- **Every step whose handler succeeds has an effect.** -/
theorem Consistent.effect (h : Consistent env st) {u : Unit}
    (hhandle : handle env fuel act st = some (.ok u, st')) : Effect env st act st' := by
  -- the effects are those that the modules prove of their own systems
  have hdeliver := deliver_of_ok hhandle
  rcases act with act | msg | msg | msg
  · cases act with
    | auth msg =>
      rw [handle, focus_ok_iff] at hhandle
      obtain ⟨auth, hauth, rfl⟩ := hhandle
      exact .auth (Dclauth.handle_ok h.auth hauth)
    | writeBack signer pubKey sequence =>
      obtain rfl := Option.some.inj (deliver_transform_iff.mp hdeliver).2
      exact .writeBack (Dclauth.effect_writeBack h.auth signer pubKey sequence)
    | pki now msg =>
      obtain ⟨pki, hpki, rfl⟩ := deliver_pki_iff.mp hdeliver
      have hstep : (Pki.certificates env.lib env.addr.acc).step st.chain.pki (⟨st.accounts, now⟩, msg)
          pki := ⟨fuel, _, hpki⟩
      exact .pki (Pki.step_effect hstep)
    | validator ctx msg =>
      obtain ⟨validators, hvalidators, rfl⟩ := deliver_validator_iff.mp hdeliver
      have hstep : (Validators.validators env.addr).step st.chain.validators
          (.deliver { ctx with accounts := st.accounts } msg) validators :=
        ⟨[], Option.map_eq_some_iff.mpr ⟨_, hvalidators, rfl⟩⟩
      exact .validator (Validators.step_effect h.validators hstep)
    | upgrade ctx msg =>
      rw [handle, focus_ok_iff] at hhandle
      obtain ⟨upgrade, hupgrade, rfl⟩ := hhandle
      exact .upgrade hupgrade
    | evidence ctx evidence => exact h.evidence (deliver_transform_iff.mp hdeliver).2
    | endBlock =>
      obtain ⟨chain, hchain, rfl⟩ :=
        Option.map_eq_some_iff.mp (deliver_transform_iff.mp hdeliver).2
      obtain ⟨validators, hnext, rfl⟩ := Option.map_eq_some_iff.mp hchain
      exact .endBlock (Validators.step_effect h.validators (Validators.step_of_next hnext))
  · obtain ⟨models, -, rfl⟩ := deliver_model_iff.mp hdeliver
    exact .other rfl
  · obtain ⟨vendorInfos, -, rfl⟩ := deliver_vendorInfo_iff.mp hdeliver
    exact .other rfl
  · obtain ⟨compliance, -, rfl⟩ := deliver_compliance_iff.mp hdeliver
    exact .other rfl

/-- Every step of a run has an effect. -/
theorem effect_of_step (hr : (env.runs genesis).Reachable st)
    (h : (env.runs genesis).step st act st') : Effect env st act st' := by
  rcases step_cases h with rfl | ⟨fuel, hhandle⟩
  · exact .other rfl
  · exact (consistent_of_reachable hr).effect hhandle

end ComplianceLedger.Catalog
