import ComplianceLedger.Compliance.MsgServer
import ComplianceLedger.Ledger.System
import ComplianceLedger.VendorInfos.MsgServer

/-!
# The catalog of the ledger

Three modules keep what the ledger is about: the vendors, their models with the software versions, and
the compliance of the versions. They run on the chain of the other modules. All three look up their
signers among the accounts of the chain, and `compliance` looks up the versions that it certifies and
revokes among the models.

Seen from one module, a run of the catalog is a run of that module.

## Main definitions

* `State`, `Act`: the stores of the chain and of the three modules, and what happens
* `catalog lib addr parse genesis`: the runs
* `next lib addr parse fuel st act`: a step, executed

## Main results

* `models_reachable`, `compliance_reachable`: the runs of the modules
-/

open Machine Machine.TransitionSystem

namespace ComplianceLedger.Catalog

open Validators (Addresses)

/-- The stores of the chain and of the three modules. -/
structure State where
  chain : Ledger.State
  models : Models.Store
  vendorInfos : VendorInfos.Store
  compliance : Compliance.Store

/-- What happens: something on the chain, or a message of one of the three modules. -/
inductive Act
  | chain (act : Ledger.Act)
  | model (msg : Models.Msg)
  | vendorInfo (msg : VendorInfos.Msg)
  | compliance (msg : Compliance.Msg)

/-- The accounts that the modules look up their signers in. -/
def State.accounts (st : State) : Dclauth.AccountStore := st.chain.auth.account

/-- What `compliance` reads of the other modules. -/
def State.context (st : State) : Compliance.Context := ⟨st.accounts, st.models⟩

section Definitions

variable (lib : Pki.CryptoX509) (addr : Addresses) (parse : String → Option ℤ)

/-- The runs of the catalog from a genesis with these accounts and nothing else. -/
def catalog (genesis : List Dclauth.Account) : TransitionSystem State Act where
  init := ⟨(Ledger.ledger lib addr genesis).init, .empty, .empty, .empty⟩
  step st act st' :=
    match act with
    | .chain act => ∃ chain, (Ledger.ledger lib addr genesis).step st.chain act chain ∧
        st' = { st with chain := chain }
    | .model msg => ∃ models, (Models.models addr.acc).step st.models (st.accounts, msg) models ∧
        st' = { st with models := models }
    | .vendorInfo msg => ∃ vendorInfos,
        (VendorInfos.vendorInfos addr.acc).step st.vendorInfos (st.accounts, msg) vendorInfos ∧
        st' = { st with vendorInfos := vendorInfos }
    | .compliance msg => ∃ compliance,
        (Compliance.compliance addr.acc parse).step st.compliance (st.context, msg) compliance ∧
        st' = { st with compliance := compliance }

/-- Execute a step, with the fuel for the certificates of the chain. -/
def next (fuel : ℕ) (st : State) : Act → Option State
  | .chain act => (Ledger.next lib addr fuel st.chain act).map fun chain => { st with chain := chain }
  | .model msg => (Models.next addr.acc st.models (st.accounts, msg)).map fun models =>
      { st with models := models }
  | .vendorInfo msg => ((VendorInfos.handle addr.acc st.accounts msg).deliver st.vendorInfos).map
      fun r => { st with vendorInfos := r.2 }
  | .compliance msg => (Compliance.next addr.acc parse st.compliance (st.context, msg)).map
      fun compliance => { st with compliance := compliance }

end Definitions

variable {lib : Pki.CryptoX509} {addr : Addresses} {parse : String → Option ℤ}
  {genesis : List Dclauth.Account} {st st' : State} {act : Act}

theorem step_of_next {fuel : ℕ} (h : next lib addr parse fuel st act = some st') :
    (catalog lib addr parse genesis).step st act st' := by
  cases act with
  | chain act =>
    obtain ⟨chain, hchain, rfl⟩ := Option.map_eq_some_iff.mp h
    exact ⟨chain, Ledger.step_of_next hchain, rfl⟩
  | model msg =>
    obtain ⟨models, hmodels, rfl⟩ := Option.map_eq_some_iff.mp h
    exact ⟨models, Models.step_of_next hmodels, rfl⟩
  | vendorInfo msg =>
    obtain ⟨⟨r, vendorInfos⟩, hvendorInfos, rfl⟩ := Option.map_eq_some_iff.mp h
    exact ⟨vendorInfos, ⟨r, hvendorInfos⟩, rfl⟩
  | compliance msg =>
    obtain ⟨compliance, hcompliance, rfl⟩ := Option.map_eq_some_iff.mp h
    exact ⟨compliance, Compliance.step_of_next hcompliance, rfl⟩

/-! ## The modules -/

/-- The chain of the catalog is that of a run of the ledger. -/
theorem chain_reachable (h : (catalog lib addr parse genesis).Reachable st) :
    (Ledger.ledger lib addr genesis).Reachable st.chain := by
  refine h.simulate State.chain rfl fun {st act st'} hstep => ?_
  cases act with
  | chain act =>
    obtain ⟨chain, hchain, rfl⟩ := hstep
    exact .inr ⟨_, hchain⟩
  | model | vendorInfo | compliance =>
    obtain ⟨store, -, rfl⟩ := hstep
    exact .inl rfl

/-- The models of the catalog are those of a run of `model`. -/
theorem models_reachable (h : (catalog lib addr parse genesis).Reachable st) :
    (Models.models addr.acc).Reachable st.models := by
  refine h.simulate State.models rfl fun {st act st'} hstep => ?_
  cases act with
  | model msg =>
    obtain ⟨models, hmodels, rfl⟩ := hstep
    exact .inr ⟨_, hmodels⟩
  | chain | vendorInfo | compliance =>
    obtain ⟨store, -, rfl⟩ := hstep
    exact .inl rfl

/-- The compliance records of the catalog are those of a run of `compliance`. -/
theorem compliance_reachable (h : (catalog lib addr parse genesis).Reachable st) :
    (Compliance.compliance addr.acc parse).Reachable st.compliance := by
  refine h.simulate State.compliance rfl fun {st act st'} hstep => ?_
  cases act with
  | compliance msg =>
    obtain ⟨compliance, hcompliance, rfl⟩ := hstep
    exact .inr ⟨_, hcompliance⟩
  | chain | model | vendorInfo =>
    obtain ⟨store, -, rfl⟩ := hstep
    exact .inl rfl

/-! ## A vendor and a certification center

The genesis of the concrete runs in the later modules. -/

def exampleGenesis : List Dclauth.Account :=
  [{ Dclauth.exampleAccount "cosmos1vendor" [.vendor] with vendorID := 10 },
    Dclauth.exampleAccount "cosmos1center" [.certificationCenter]]

/-- The vendor has a product with a software version. -/
def exampleProduct : List Act :=
  [.model (Models.exampleCreate 1 "Lamp" "p1"), .model (Models.exampleVersion 1 7 "7.0")]

end ComplianceLedger.Catalog
