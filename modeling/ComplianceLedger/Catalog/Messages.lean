import ComplianceLedger.Catalog.System
import ComplianceLedger.Dclauth.Rules
import ComplianceLedger.Dclupgrade.Rules
import ComplianceLedger.Models.Rules
import ComplianceLedger.Validators.Rules
import ComplianceLedger.VendorInfos.Rules

/-!
# The messages of the ledger

Each message has a signer and a check of its own, and goes to the handler of its module, which finds the
store of the module and reads the accounts. A step of the catalog is what the handler of a message
leaves, or what happens without one: an account is written back, evidence comes, or a block ends.

What the checks and the handlers get from libraries is put together in one record. The signatures of
transactions are not part of it: who has signed a message is the business of the SDK.

## Main definitions

* `Msg`: the messages of all modules
* `Env`: what a node gets from its libraries
* `Msg.getSigner`, `Msg.validateBasic`: the signer of a message, and its check
* `handle env fuel act`: the handler of a step
* `Lawful env st act`, `Env.catalog`: the steps of messages that pass their checks

## Main results

* `Msg.signer_of_validateBasic`: a message that passes its check has a signer
* `step_iff`: the steps of the catalog are the deliveries of their handlers
-/

open Machine Machine.Handler Machine.TransitionSystem

namespace ComplianceLedger.Catalog

/-- The messages of all modules. -/
inductive Msg
  | auth (msg : Dclauth.Msg)
  | pki (msg : Pki.Msg)
  | validator (msg : Validators.Msg)
  | upgrade (msg : Dclupgrade.Msg)
  | model (msg : Models.Msg)
  | vendorInfo (msg : VendorInfos.Msg)
  | compliance (msg : Compliance.Msg)
deriving DecidableEq, Repr

/-- What a node gets from its libraries: certificates, addresses, dates, URLs, keys and the check of a
plan. -/
structure Env where
  lib : Pki.CryptoX509
  addr : Validators.Addresses
  parse : String → Option ℤ
  isURL : String → Bool
  keys : Dclauth.Keys addr.acc
  validatePlan : Dclupgrade.Plan → Except SdkError Unit

/-- The message of a step, if it has one. -/
def Act.msg : Act → Option Msg
  | .chain (.auth msg) => some (.auth msg)
  | .chain (.pki _ msg) => some (.pki msg)
  | .chain (.validator _ msg) => some (.validator msg)
  | .chain (.upgrade _ msg) => some (.upgrade msg)
  | .model msg => some (.model msg)
  | .vendorInfo msg => some (.vendorInfo msg)
  | .compliance msg => some (.compliance msg)
  | .chain (.writeBack _ _ _) | .chain (.evidence _ _) | .chain .endBlock => none

/-! The stores of the chain, in their places. -/

def State.withAuth (auth : Dclauth.Store) (st : State) : State :=
  { st with chain := { st.chain with auth := auth } }

def State.withPki (pki : Pki.Store) (st : State) : State :=
  { st with chain := { st.chain with pki := pki } }

def State.withValidators (validators : Validators.Store) (st : State) : State :=
  { st with chain := { st.chain with validators := validators } }

def State.withUpgrade (upgrade : Dclupgrade.Store) (st : State) : State :=
  { st with chain := { st.chain with upgrade := upgrade } }

section Definitions

variable (env : Env)

/-- The signer of a message. -/
def Msg.getSigner : Msg → Except String AccAddress
  | .auth msg => env.addr.acc.accAddressFromBech32 msg.signer
  | .pki msg => env.addr.acc.accAddressFromBech32 msg.signer
  | .validator msg => msg.getSigner env.addr
  | .upgrade msg => env.addr.acc.accAddressFromBech32 msg.creator
  | .model msg => env.addr.acc.accAddressFromBech32 msg.creator
  | .vendorInfo msg => env.addr.acc.accAddressFromBech32 msg.fields.creator
  | .compliance msg => env.addr.acc.accAddressFromBech32 msg.signer

/-- The check of a message before it is executed. -/
def Msg.validateBasic : Msg → Except SdkError Unit
  | .auth msg => msg.validateBasic env.addr.acc env.keys.keyAddress
  | .pki msg => msg.validateBasic env.addr.acc
  | .validator msg => msg.validateBasic env.addr
  | .upgrade msg => msg.validateBasic env.addr.acc env.validatePlan
  | .model msg => msg.validateBasic env.addr.acc env.isURL
  | .vendorInfo msg => msg.validateBasic env.addr.acc env.isURL
  | .compliance msg => msg.validateBasic env.addr.acc env.parse

/-- The handler of a step, with the fuel for the certificates. The accounts in a context are those of
the catalog, whatever it says. -/
def handle (fuel : ℕ) (act : Act) : Handler SdkError State Unit := fun st =>
  match act with
  | .chain (.auth msg) =>
    focus (fun st => st.chain.auth) State.withAuth (Dclauth.handle env.addr.acc msg) st
  | .chain (.pki now msg) =>
    focus (fun st => st.chain.pki) State.withPki
      (Pki.handle env.lib env.addr.acc fuel ⟨st.accounts, now⟩ msg) st
  | .chain (.validator ctx msg) =>
    focus (fun st => st.chain.validators) State.withValidators
      (Validators.handle env.addr { ctx with accounts := st.accounts } msg) st
  | .chain (.upgrade ctx msg) =>
    focus (fun st => st.chain.upgrade) State.withUpgrade
      (Dclupgrade.handle env.addr.acc { ctx with accounts := st.accounts } msg) st
  | .model msg =>
    focus State.models (fun models st => { st with models := models })
      (Models.handle env.addr.acc st.accounts msg) st
  | .vendorInfo msg =>
    focus State.vendorInfos (fun vendorInfos st => { st with vendorInfos := vendorInfos })
      (VendorInfos.handle env.addr.acc st.accounts msg) st
  | .compliance msg =>
    focus State.compliance (fun compliance st => { st with compliance := compliance })
      (Compliance.handle env.addr.acc env.parse st.context msg) st
  -- what is not a message is not answered
  | .chain (.writeBack signer pubKey sequence) =>
    transform (next env.lib env.addr env.parse fuel · (.chain (.writeBack signer pubKey sequence))) st
  | .chain (.evidence ctx evidence) =>
    transform (next env.lib env.addr env.parse fuel · (.chain (.evidence ctx evidence))) st
  | .chain .endBlock => transform (next env.lib env.addr env.parse fuel · (.chain .endBlock)) st

/-- The steps that a node takes: messages pass their checks, and accounts that are written back are
given no key that is not theirs. -/
def Lawful (st : State) : Act → Prop
  | .chain (.auth msg) => (Msg.auth msg).validateBasic env = .ok ()
  | .chain (.writeBack signer pubKey sequence) =>
      Dclauth.Act.Lawful env.addr.acc env.keys.keyAddress st.chain.auth
        (.writeBack signer pubKey sequence)
  | .chain (.pki _ msg) => (Msg.pki msg).validateBasic env = .ok ()
  | .chain (.validator _ msg) => (Msg.validator msg).validateBasic env = .ok ()
  | .chain (.upgrade _ msg) => (Msg.upgrade msg).validateBasic env = .ok ()
  | .chain (.evidence _ _) | .chain .endBlock => True
  | .model msg => (Msg.model msg).validateBasic env = .ok ()
  | .vendorInfo msg => (Msg.vendorInfo msg).validateBasic env = .ok ()
  | .compliance msg => (Msg.compliance msg).validateBasic env = .ok ()

instance decidableLawful (st : State) : ∀ act : Act, Decidable (Lawful env st act)
  | .chain (.auth msg) => inferInstanceAs (Decidable ((Msg.auth msg).validateBasic env = .ok ()))
  | .chain (.writeBack signer pubKey sequence) =>
    Dclauth.decidableLawful env.addr.acc env.keys.keyAddress st.chain.auth
      (.writeBack signer pubKey sequence)
  | .chain (.pki _ msg) => inferInstanceAs (Decidable ((Msg.pki msg).validateBasic env = .ok ()))
  | .chain (.validator _ msg) =>
    inferInstanceAs (Decidable ((Msg.validator msg).validateBasic env = .ok ()))
  | .chain (.upgrade _ msg) =>
    inferInstanceAs (Decidable ((Msg.upgrade msg).validateBasic env = .ok ()))
  | .chain (.evidence _ _) | .chain .endBlock => isTrue trivial
  | .model msg => inferInstanceAs (Decidable ((Msg.model msg).validateBasic env = .ok ()))
  | .vendorInfo msg => inferInstanceAs (Decidable ((Msg.vendorInfo msg).validateBasic env = .ok ()))
  | .compliance msg => inferInstanceAs (Decidable ((Msg.compliance msg).validateBasic env = .ok ()))

/-- The runs of the catalog with any messages, from a genesis of accounts. -/
abbrev Env.runs (genesis : List Dclauth.Account) : TransitionSystem State Act :=
  catalog env.lib env.addr env.parse genesis

/-- The runs with messages that pass their checks. -/
abbrev Env.catalog (genesis : List Dclauth.Account) : TransitionSystem State Act :=
  (env.runs genesis).restrict (Lawful env)

end Definitions

variable {env : Env} {genesis : List Dclauth.Account} {fuel : ℕ} {act : Act} {st st' : State}

/-- A message that passes its check has a signer. -/
theorem Msg.signer_of_validateBasic {msg : Msg} {u : Unit} (h : msg.validateBasic env = .ok u) :
    ∃ a, msg.getSigner env = .ok a := by
  cases msg with
  | auth msg => exact Dclauth.Msg.signer_of_validateBasic h
  | pki msg => exact Pki.Msg.signer_of_validateBasic h
  | validator msg => exact Validators.Msg.signer_of_validateBasic h
  | upgrade msg => exact Dclupgrade.Msg.creator_of_validateBasic h
  | model msg => exact Models.Msg.creator_of_validateBasic h
  | vendorInfo msg => exact VendorInfos.Msg.signer_of_validateBasic h
  | compliance msg => exact Compliance.Msg.signer_of_validateBasic h

/-! ## Steps

The handler of a message is delivered to the store of its module. -/

section Steps

variable {r : Except SdkError Unit}

theorem deliver_auth_iff {msg : Dclauth.Msg} :
    (handle env fuel (.chain (.auth msg))).deliver st = some (r, st') ↔
      ∃ auth, (Dclauth.handle env.addr.acc msg).deliver st.chain.auth = some (r, auth) ∧
        st' = st.withAuth auth :=
  deliver_iff_of_focus (fun st : State => st.chain.auth) State.withAuth rfl rfl

theorem deliver_pki_iff {now : ℤ} {msg : Pki.Msg} :
    (handle env fuel (.chain (.pki now msg))).deliver st = some (r, st') ↔
      ∃ pki, (Pki.handle env.lib env.addr.acc fuel ⟨st.accounts, now⟩ msg).deliver st.chain.pki =
          some (r, pki) ∧
        st' = st.withPki pki :=
  deliver_iff_of_focus (fun st : State => st.chain.pki) State.withPki rfl rfl

theorem deliver_validator_iff {ctx : Validators.Context} {msg : Validators.Msg} :
    (handle env fuel (.chain (.validator ctx msg))).deliver st = some (r, st') ↔
      ∃ validators, (Validators.handle env.addr { ctx with accounts := st.accounts } msg).deliver
          st.chain.validators = some (r, validators) ∧
        st' = st.withValidators validators :=
  deliver_iff_of_focus (fun st : State => st.chain.validators) State.withValidators rfl rfl

theorem deliver_upgrade_iff {ctx : Dclupgrade.Context} {msg : Dclupgrade.Msg} :
    (handle env fuel (.chain (.upgrade ctx msg))).deliver st = some (r, st') ↔
      ∃ upgrade, (Dclupgrade.handle env.addr.acc { ctx with accounts := st.accounts } msg).deliver
          st.chain.upgrade = some (r, upgrade) ∧
        st' = st.withUpgrade upgrade :=
  deliver_iff_of_focus (fun st : State => st.chain.upgrade) State.withUpgrade rfl rfl

theorem deliver_model_iff {msg : Models.Msg} :
    (handle env fuel (.model msg)).deliver st = some (r, st') ↔
      ∃ models, (Models.handle env.addr.acc st.accounts msg).deliver st.models = some (r, models) ∧
        st' = { st with models := models } :=
  deliver_iff_of_focus State.models (fun models st => { st with models := models }) rfl rfl

theorem deliver_vendorInfo_iff {msg : VendorInfos.Msg} :
    (handle env fuel (.vendorInfo msg)).deliver st = some (r, st') ↔
      ∃ vendorInfos, (VendorInfos.handle env.addr.acc st.accounts msg).deliver st.vendorInfos =
          some (r, vendorInfos) ∧
        st' = { st with vendorInfos := vendorInfos } :=
  deliver_iff_of_focus State.vendorInfos
    (fun vendorInfos st => { st with vendorInfos := vendorInfos }) rfl rfl

theorem deliver_compliance_iff {msg : Compliance.Msg} :
    (handle env fuel (.compliance msg)).deliver st = some (r, st') ↔
      ∃ compliance, (Compliance.handle env.addr.acc env.parse st.context msg).deliver st.compliance =
          some (r, compliance) ∧
        st' = { st with compliance := compliance } :=
  deliver_iff_of_focus State.compliance
    (fun compliance st => { st with compliance := compliance }) rfl rfl

/-- A step that is executed is one of the catalog. -/
theorem step_of_deliver (h : (handle env fuel act).deliver st = some (r, st')) :
    (env.runs genesis).step st act st' := by
  rcases act with act | msg | msg | msg
  · cases act with
    | auth msg =>
      obtain ⟨auth, hd, rfl⟩ := deliver_auth_iff.mp h
      exact ⟨_, ⟨auth, ⟨r, hd⟩, rfl⟩, rfl⟩
    | pki now msg =>
      obtain ⟨pki, hd, rfl⟩ := deliver_pki_iff.mp h
      exact ⟨_, ⟨pki, ⟨fuel, r, hd⟩, rfl⟩, rfl⟩
    | validator ctx msg =>
      obtain ⟨validators, hd, rfl⟩ := deliver_validator_iff.mp h
      exact ⟨_, ⟨validators, ⟨[], Option.map_eq_some_iff.mpr ⟨_, hd, rfl⟩⟩, rfl⟩, rfl⟩
    | upgrade ctx msg =>
      obtain ⟨upgrade, hd, rfl⟩ := deliver_upgrade_iff.mp h
      exact ⟨_, ⟨upgrade, ⟨r, hd⟩, rfl⟩, rfl⟩
    | writeBack | evidence | endBlock => exact step_of_next (deliver_transform_iff.mp h).2
  · obtain ⟨models, hd, rfl⟩ := deliver_model_iff.mp h
    exact ⟨models, ⟨r, hd⟩, rfl⟩
  · obtain ⟨vendorInfos, hd, rfl⟩ := deliver_vendorInfo_iff.mp h
    exact ⟨vendorInfos, ⟨r, hd⟩, rfl⟩
  · obtain ⟨compliance, hd, rfl⟩ := deliver_compliance_iff.mp h
    exact ⟨compliance, ⟨r, hd⟩, rfl⟩

end Steps

/-- A step of the catalog is executed with enough fuel. -/
theorem exists_deliver_of_step (h : (env.runs genesis).step st act st') :
    ∃ fuel r, (handle env fuel act).deliver st = some (r, st') := by
  rcases act with act | msg | msg | msg
  · obtain ⟨chain, hchain, rfl⟩ := h
    cases act with
    | auth msg =>
      obtain ⟨auth, ⟨r, hd⟩, rfl⟩ := hchain
      exact ⟨0, r, deliver_auth_iff.mpr ⟨auth, hd, rfl⟩⟩
    | pki now msg =>
      obtain ⟨pki, ⟨fuel, r, hd⟩, rfl⟩ := hchain
      exact ⟨fuel, r, deliver_pki_iff.mpr ⟨pki, hd, rfl⟩⟩
    | validator ctx msg =>
      obtain ⟨validators, ⟨updates, hexec⟩, rfl⟩ := hchain
      obtain ⟨⟨r, t⟩, hd, heq⟩ := Option.map_eq_some_iff.mp hexec
      obtain ⟨-, rfl⟩ := Prod.mk.inj heq
      exact ⟨0, r, deliver_validator_iff.mpr ⟨t, hd, rfl⟩⟩
    | upgrade ctx msg =>
      obtain ⟨upgrade, ⟨r, hd⟩, rfl⟩ := hchain
      exact ⟨0, r, deliver_upgrade_iff.mpr ⟨upgrade, hd, rfl⟩⟩
    | writeBack signer pubKey sequence =>
      obtain ⟨auth, rfl, rfl⟩ := hchain
      exact ⟨0, .ok (), rfl⟩
    | evidence ctx evidence =>
      obtain ⟨validators, address, hprocess, rfl⟩ := hchain
      refine ⟨0, .ok (), deliver_transform_iff.mpr ⟨rfl, ?_⟩⟩
      exact Option.map_eq_some_iff.mpr ⟨_, Option.map_eq_some_iff.mpr ⟨_, hprocess, rfl⟩, rfl⟩
    | endBlock =>
      obtain ⟨validators, ⟨updates, hexec⟩, rfl⟩ := hchain
      refine ⟨0, .ok (), deliver_transform_iff.mpr ⟨rfl, ?_⟩⟩
      have hnext : Validators.next env.addr st.chain.validators .endBlock = some validators :=
        Option.map_eq_some_iff.mpr ⟨_, hexec, rfl⟩
      exact Option.map_eq_some_iff.mpr ⟨_, Option.map_eq_some_iff.mpr ⟨_, hnext, rfl⟩, rfl⟩
  · obtain ⟨models, ⟨r, hd⟩, rfl⟩ := h
    exact ⟨0, r, deliver_model_iff.mpr ⟨models, hd, rfl⟩⟩
  · obtain ⟨vendorInfos, ⟨r, hd⟩, rfl⟩ := h
    exact ⟨0, r, deliver_vendorInfo_iff.mpr ⟨vendorInfos, hd, rfl⟩⟩
  · obtain ⟨compliance, ⟨r, hd⟩, rfl⟩ := h
    exact ⟨0, r, deliver_compliance_iff.mpr ⟨compliance, hd, rfl⟩⟩

/-- **The steps of the catalog are the deliveries of their handlers.** -/
theorem step_iff : (env.runs genesis).step st act st' ↔
    ∃ fuel r, (handle env fuel act).deliver st = some (r, st') :=
  ⟨exists_deliver_of_step, fun ⟨_, _, h⟩ => step_of_deliver h⟩

/-- A step is refused and leaves the stores, or its handler succeeds. -/
theorem step_cases (h : (env.runs genesis).step st act st') :
    st' = st ∨ ∃ fuel, handle env fuel act st = some (.ok (), st') := by
  obtain ⟨fuel, r, hd⟩ := step_iff.mp h
  rcases deliver_cases hd with ⟨u, -, hok⟩ | ⟨-, hsame⟩
  · exact .inr ⟨fuel, hok⟩
  · exact .inl hsame

/-! ## A small ledger

The libraries and the genesis of the concrete runs in the later modules. -/

/-- The address of a key is the key itself. -/
def exampleEnv : Env where
  lib := Pki.exampleLib
  addr := Validators.exampleAddresses
  parse := Compliance.exampleParse
  isURL _ := true
  keys := ⟨id, fun _ _ => .ok (), fun _ _ => rfl⟩
  validatePlan _ := .ok ()

/-- Three trustees, a node admin and a vendor. -/
def exampleAccounts : List Dclauth.Account :=
  [Dclauth.exampleAccount "cosmos1one" [.trustee], Dclauth.exampleAccount "cosmos1two" [.trustee],
    Dclauth.exampleAccount "cosmos1three" [.trustee], Dclauth.exampleAccount "cosmos1node" [.nodeAdmin],
    { Dclauth.exampleAccount "cosmos1vendor" [.vendor] with vendorID := 10 }]

/-- Execute a step of the example, if it is lawful. -/
def exampleNext : State → Act → Option State :=
  guarded (Lawful exampleEnv) (next exampleEnv.lib exampleEnv.addr exampleEnv.parse 5)

theorem step_of_exampleNext (h : exampleNext st act = some st') :
    (exampleEnv.catalog exampleAccounts).step st act st' :=
  step_of_guarded step_of_next h

end ComplianceLedger.Catalog
