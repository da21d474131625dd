import ComplianceLedger.Dclauth.Effect
import ComplianceLedger.Dclupgrade.MsgServer
import ComplianceLedger.Pki.MsgServer
import ComplianceLedger.Validators.MsgServer

/-!
# The ledger

The modules run on one chain, and each keeps a store of its own. What they share are the accounts: the
other modules read them to find out what a signer may do, and the evidence of a double signature,
which `validator` handles, revokes the account of the validator in `dclauth`. The runs here
interleave the messages of all modules, the evidence and the ends of blocks in any order.

Seen from one module, a run of the ledger is a run of that module. What is proved of the runs of a
module therefore holds on the ledger.

## Main definitions

* `State`, `Act`: the stores of the modules, and what happens on the ledger
* `doubleSigner addr st ctx evidence`: the account that a piece of evidence revokes
* `ledger lib addr genesis`: the runs
* `next lib addr fuel st act`: a step, executed

## Main results

* `auth_cases`, `exists_auth_effect`: what a step of the ledger is for the accounts
* `validators_cases`, `upgrade_cases`: what it is for the validators and for the upgrades
* `auth_reachable`, `pki_reachable`, `validators_reachable`, `upgrade_reachable`: the runs of the
  modules
-/

open Machine Machine.TransitionSystem

namespace ComplianceLedger.Ledger

open Validators (Addresses)

/-- The stores of the modules. -/
structure State where
  auth : Dclauth.Store
  pki : Pki.Store
  validators : Validators.Store
  upgrade : Dclupgrade.Store

/-- What happens on the ledger. The accounts in a context are those of the ledger, whatever the
context says. -/
inductive Act
  | auth (msg : Dclauth.Msg)
  /-- The SDK writes the account of a signer back, with another key or sequence number. -/
  | writeBack (signer : String) (pubKey : Bytes) (sequence : ℕ)
  | pki (now : ℤ) (msg : Pki.Msg)
  | validator (ctx : Validators.Context) (msg : Validators.Msg)
  | upgrade (ctx : Dclupgrade.Context) (msg : Dclupgrade.Msg)
  /-- A block starts with a piece of evidence. -/
  | evidence (ctx : Validators.Context) (evidence : Validators.Evidence)
  /-- A block ends. -/
  | endBlock

section Definitions

variable (lib : Pki.CryptoX509) (addr : Addresses)

/-- What `validator` does with a piece of evidence. -/
def State.processEvidence (st : State) (ctx : Validators.Context)
    (evidence : Validators.Evidence) : Option (Validators.Store × Option AccAddress) :=
  Validators.processEvidence addr { ctx with accounts := st.auth.account } evidence st.validators

/-- The account that a piece of evidence revokes: that of the owner of the validator with the key, if
there is one, and the evidence is of a known kind and not too old. -/
def doubleSigner (st : State) (ctx : Validators.Context) (evidence : Validators.Evidence) :
    Option AccAddress :=
  match st.validators.getValidatorByConsAddr evidence.consensusAddress with
  | none => none
  | some v =>
    if evidence.type = .unknown ∨ evidence.isStale ctx = true then none
    else some (addr.val.getAddress v.owner)

/-- The accounts after a piece of evidence. -/
def revokeDoubleSigner (address : Option AccAddress) (auth : Dclauth.Store) : Dclauth.Store :=
  match address with
  | none => auth
  | some address => Dclauth.revokeMalicious addr.acc address auth

/-- The runs of the ledger from a genesis with these accounts. -/
def ledger (genesis : List Dclauth.Account) : TransitionSystem State Act where
  init := ⟨Dclauth.initGenesis addr.acc genesis, .empty, .empty, .empty⟩
  step st act st' :=
    match act with
    | .auth msg => ∃ auth, (Dclauth.accounts addr.acc genesis).step st.auth (.deliver msg) auth ∧
        st' = { st with auth := auth }
    | .writeBack signer pubKey sequence => ∃ auth,
        (Dclauth.accounts addr.acc genesis).step st.auth (.writeBack signer pubKey sequence) auth ∧
        st' = { st with auth := auth }
    | .pki now msg => ∃ pki,
        (Pki.certificates lib addr.acc).step st.pki (⟨st.auth.account, now⟩, msg) pki ∧
        st' = { st with pki := pki }
    | .validator ctx msg => ∃ validators, (Validators.validators addr).step st.validators
          (.deliver { ctx with accounts := st.auth.account } msg) validators ∧
        st' = { st with validators := validators }
    | .upgrade ctx msg => ∃ upgrade, (Dclupgrade.upgrades addr.acc).step st.upgrade
          ({ ctx with accounts := st.auth.account }, msg) upgrade ∧
        st' = { st with upgrade := upgrade }
    | .evidence ctx evidence => ∃ validators address,
        st.processEvidence addr ctx evidence = some (validators, address) ∧
        st' = { st with validators := validators, auth := revokeDoubleSigner addr address st.auth }
    | .endBlock => ∃ validators,
        (Validators.validators addr).step st.validators .endBlock validators ∧
        st' = { st with validators := validators }

/-- Execute a step, with the fuel for the certificates. -/
def next (fuel : ℕ) (st : State) : Act → Option State
  | .auth msg => (Dclauth.exec addr.acc st.auth (.deliver msg)).map fun auth =>
      { st with auth := auth }
  | .writeBack signer pubKey sequence =>
      (Dclauth.exec addr.acc st.auth (.writeBack signer pubKey sequence)).map fun auth =>
        { st with auth := auth }
  | .pki now msg => (Pki.deliverMsg lib addr.acc fuel st.pki (⟨st.auth.account, now⟩, msg)).map
      fun pki => { st with pki := pki }
  | .validator ctx msg => (Validators.next addr st.validators
      (.deliver { ctx with accounts := st.auth.account } msg)).map fun validators =>
        { st with validators := validators }
  | .upgrade ctx msg => ((Dclupgrade.handle addr.acc { ctx with accounts := st.auth.account }
      msg).deliver st.upgrade).map fun r => { st with upgrade := r.2 }
  | .evidence ctx evidence => (st.processEvidence addr ctx evidence).map fun r =>
      { st with validators := r.1, auth := revokeDoubleSigner addr r.2 st.auth }
  | .endBlock => (Validators.next addr st.validators .endBlock).map fun validators =>
      { st with validators := validators }

end Definitions

variable {lib : Pki.CryptoX509} {addr : Addresses} {genesis : List Dclauth.Account}
  {st st' : State} {act : Act}

theorem step_of_next {fuel : ℕ} (h : next lib addr fuel st act = some st') :
    (ledger lib addr genesis).step st act st' := by
  cases act with
  | auth msg =>
    obtain ⟨auth, hauth, rfl⟩ := Option.map_eq_some_iff.mp h
    exact ⟨auth, Dclauth.step_of_exec hauth, rfl⟩
  | writeBack signer pubKey sequence =>
    rw [next, Option.map_eq_some_iff] at h
    obtain ⟨auth, hauth, rfl⟩ := h
    exact ⟨auth, Dclauth.step_of_exec hauth, rfl⟩
  | pki now msg =>
    obtain ⟨pki, hpki, rfl⟩ := Option.map_eq_some_iff.mp h
    exact ⟨pki, Pki.step_of_deliverMsg hpki, rfl⟩
  | validator ctx msg =>
    obtain ⟨validators, hvalidators, rfl⟩ := Option.map_eq_some_iff.mp h
    exact ⟨validators, Validators.step_of_next hvalidators, rfl⟩
  | upgrade ctx msg =>
    obtain ⟨⟨r, upgrade⟩, hupgrade, rfl⟩ := Option.map_eq_some_iff.mp h
    exact ⟨upgrade, ⟨r, hupgrade⟩, rfl⟩
  | evidence ctx evidence =>
    obtain ⟨⟨validators, address⟩, hevidence, rfl⟩ := Option.map_eq_some_iff.mp h
    exact ⟨validators, address, hevidence, rfl⟩
  | endBlock =>
    obtain ⟨validators, hvalidators, rfl⟩ := Option.map_eq_some_iff.mp h
    exact ⟨validators, Validators.step_of_next hvalidators, rfl⟩

/-- What is revoked is read off the state before. -/
theorem processEvidence_eq_doubleSigner {ctx : Validators.Context} {evidence : Validators.Evidence}
    {s : Validators.Store} {address : Option AccAddress}
    (h : st.processEvidence addr ctx evidence = some (s, address)) :
    address = doubleSigner addr st ctx evidence := by
  have hstale : evidence.isStale { ctx with accounts := st.auth.account } = evidence.isStale ctx := rfl
  rw [State.processEvidence, Validators.processEvidence, Validators.handleDoubleSign, hstale] at h
  rw [doubleSigner]
  cases hfound : st.validators.getValidatorByConsAddr evidence.consensusAddress with
  | none => cases htype : evidence.type <;> simp_all
  | some v =>
    simp only [hfound] at h
    cases htype : evidence.type with
    | unknown => simp_all
    | duplicateVote | lightClientAttack =>
      cases hold : evidence.isStale ctx <;> simp_all

/-! ## The modules -/

/-- **What a step of the ledger is for the accounts**: a message, an account that is written back, the
account of a validator that is revoked, or nothing. -/
theorem auth_cases (h : (ledger lib addr genesis).step st act st') :
    (∃ msg, act = .auth msg ∧
      (Dclauth.accounts addr.acc genesis).step st.auth (.deliver msg) st'.auth) ∨
    (∃ signer pubKey sequence, act = .writeBack signer pubKey sequence ∧
      (Dclauth.accounts addr.acc genesis).step st.auth (.writeBack signer pubKey sequence)
        st'.auth) ∨
    (∃ ctx evidence address, act = .evidence ctx evidence ∧
      doubleSigner addr st ctx evidence = some address ∧
      (Dclauth.accounts addr.acc genesis).step st.auth (.revokeMalicious address) st'.auth) ∨
    st'.auth = st.auth := by
  cases act with
  | auth msg =>
    obtain ⟨auth, hauth, rfl⟩ := h
    exact .inl ⟨msg, rfl, hauth⟩
  | writeBack signer pubKey sequence =>
    obtain ⟨auth, hauth, rfl⟩ := h
    exact .inr (.inl ⟨signer, pubKey, sequence, rfl, hauth⟩)
  | evidence ctx evidence =>
    obtain ⟨validators, address, hevidence, rfl⟩ := h
    cases address with
    | none => exact .inr (.inr (.inr rfl))
    | some address =>
      have hsigner := processEvidence_eq_doubleSigner hevidence
      exact .inr (.inr (.inl ⟨ctx, evidence, address, rfl, hsigner.symm, rfl⟩))
  | pki | validator | upgrade | endBlock =>
    obtain ⟨store, -, rfl⟩ := h
    exact .inr (.inr (.inr rfl))

/-- The accounts of the ledger are those of a run of `dclauth`. -/
theorem auth_reachable (h : (ledger lib addr genesis).Reachable st) :
    (Dclauth.accounts addr.acc genesis).Reachable st.auth := by
  refine h.simulate State.auth rfl fun hstep => ?_
  rcases auth_cases hstep with ⟨msg, -, hauth⟩ | ⟨signer, pubKey, sequence, -, hauth⟩ |
    ⟨ctx, evidence, address, -, -, hauth⟩ | hsame
  · exact .inr ⟨_, hauth⟩
  · exact .inr ⟨_, hauth⟩
  · exact .inr ⟨_, hauth⟩
  · exact .inl hsame

/-- **The effect of a step on the accounts.** An account is revoked for a double signature by evidence
only. -/
theorem exists_auth_effect (hr : (ledger lib addr genesis).Reachable st)
    (hstep : (ledger lib addr genesis).step st act st') :
    ∃ a, Dclauth.Effect addr.acc st.auth a st'.auth ∧
      ∀ address, a = .revokeMalicious address → ∃ ctx evidence,
        act = .evidence ctx evidence ∧ doubleSigner addr st ctx evidence = some address := by
  have hauth := auth_reachable hr
  rcases auth_cases hstep with ⟨msg, -, hmsg⟩ | ⟨signer, pubKey, sequence, -, hback⟩ |
    ⟨ctx, evidence, address, hact, hsigner, hrevoke⟩ | hsame
  · exact ⟨_, Dclauth.effect_of_reachable hauth hmsg, fun _ h => nomatch h⟩
  · exact ⟨_, Dclauth.effect_of_reachable hauth hback, fun _ h => nomatch h⟩
  · refine ⟨_, Dclauth.effect_of_reachable hauth hrevoke, fun address' h => ?_⟩
    obtain rfl := Dclauth.Act.revokeMalicious.inj h
    exact ⟨ctx, evidence, hact, hsigner⟩
  · refine ⟨.writeBack "" [] 0, ?_, fun _ h => nomatch h⟩
    rw [hsame]
    exact .refused _

/-- The certificates of the ledger are those of a run of `pki`. -/
theorem pki_reachable (h : (ledger lib addr genesis).Reachable st) :
    (Pki.certificates lib addr.acc).Reachable st.pki := by
  refine h.simulate State.pki rfl fun {st act st'} hstep => ?_
  cases act with
  | pki now msg =>
    obtain ⟨pki, hpki, rfl⟩ := hstep
    exact .inr ⟨_, hpki⟩
  | auth | writeBack | validator | upgrade | endBlock =>
    obtain ⟨store, -, rfl⟩ := hstep
    exact .inl rfl
  | evidence =>
    obtain ⟨validators, address, -, rfl⟩ := hstep
    exact .inl rfl

/-- What a step of the ledger is for the validators: nothing, or a step of `validator`, in which a
message finds the accounts of the ledger. -/
theorem validators_cases (h : (ledger lib addr genesis).step st act st') :
    st'.validators = st.validators ∨
    ∃ a, (Validators.validators addr).step st.validators a st'.validators ∧
      ∀ ctx msg, a = .deliver ctx msg → ctx.accounts = st.auth.account := by
  cases act with
  | validator ctx msg =>
    obtain ⟨validators, hvalidators, rfl⟩ := h
    refine .inr ⟨_, hvalidators, fun ctx' msg' heq => ?_⟩
    obtain ⟨rfl, rfl⟩ := Validators.Act.deliver.inj heq
    rfl
  | evidence ctx evidence =>
    obtain ⟨validators, address, hevidence, rfl⟩ := h
    refine .inr ⟨.evidence { ctx with accounts := st.auth.account } evidence, ⟨[], ?_⟩,
      fun _ _ heq => nomatch heq⟩
    rw [State.processEvidence] at hevidence
    rw [Validators.exec, hevidence]
    rfl
  | endBlock =>
    obtain ⟨validators, hvalidators, rfl⟩ := h
    exact .inr ⟨_, hvalidators, fun _ _ heq => nomatch heq⟩
  | auth | writeBack | pki | upgrade =>
    obtain ⟨store, -, rfl⟩ := h
    exact .inl rfl

/-- The validators of the ledger are those of a run of `validator`. -/
theorem validators_reachable (h : (ledger lib addr genesis).Reachable st) :
    (Validators.validators addr).Reachable st.validators := by
  refine h.simulate State.validators rfl fun hstep => ?_
  rcases validators_cases hstep with hsame | ⟨a, hvalidators, -⟩
  · exact .inl hsame
  · exact .inr ⟨a, hvalidators⟩

/-- What a step of the ledger is for the upgrades: nothing, or a message of `dclupgrade`. -/
theorem upgrade_cases (h : (ledger lib addr genesis).step st act st') :
    st'.upgrade = st.upgrade ∨
    ∃ ctx msg, act = .upgrade ctx msg ∧ (Dclupgrade.upgrades addr.acc).step st.upgrade
      ({ ctx with accounts := st.auth.account }, msg) st'.upgrade := by
  cases act with
  | upgrade ctx msg =>
    obtain ⟨upgrade, hupgrade, rfl⟩ := h
    exact .inr ⟨ctx, msg, rfl, hupgrade⟩
  | auth | writeBack | pki | validator | endBlock =>
    obtain ⟨store, -, rfl⟩ := h
    exact .inl rfl
  | evidence =>
    obtain ⟨validators, address, -, rfl⟩ := h
    exact .inl rfl

/-- The upgrades of the ledger are those of a run of `dclupgrade`. -/
theorem upgrade_reachable (h : (ledger lib addr genesis).Reachable st) :
    (Dclupgrade.upgrades addr.acc).Reachable st.upgrade := by
  refine h.simulate State.upgrade rfl fun hstep => ?_
  rcases upgrade_cases hstep with hsame | ⟨ctx, msg, -, hupgrade⟩
  · exact .inl hsame
  · exact .inr ⟨_, hupgrade⟩

end ComplianceLedger.Ledger
