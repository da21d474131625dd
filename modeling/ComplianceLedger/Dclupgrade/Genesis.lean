import ComplianceLedger.Dclauth.Genesis
import ComplianceLedger.Dclupgrade.Scheduling
import ComplianceLedger.Machine.Layout

/-!
# Export and import of the upgrades

The three kinds of records share one key-value store, under the names of their plans. The plan that the
chain is scheduled to run belongs to the upgrade keeper of the SDK: it is in a store of its own, which
the import and the export of this module do not touch.

## Main definitions

* `Kind`, `layout`: the kinds, and the records in one store
* `GenesisState`, `GenesisState.validate`: a genesis state and its check
* `initGenesis`, `exportGenesis`: import and export
* `imported bech32 gs`: the runs of a chain that starts from a genesis state

## Main results

* `own_of_imported`: in every run all records lie under their own keys
* `validate_exportGenesis`, `initGenesis_exportGenesis`: an exported state passes its check, and comes
  back
-/

open Machine Machine.TransitionSystem

namespace ComplianceLedger.Dclupgrade

open Dclauth (checkIndexes checkIndexes_values)

/-! ## Kinds -/

/-- The kinds of records. -/
inductive Kind
  | proposedUpgrade
  | approvedUpgrade
  | rejectedUpgrade
deriving DecidableEq, Repr

namespace Kind

/-- The kinds, in the order in which a genesis state is read. -/
def all : List Kind := [proposedUpgrade, approvedUpgrade, rejectedUpgrade]

theorem mem_all (kind : Kind) : kind ∈ all := by
  cases kind <;> decide

/-- The records of a kind. -/
abbrev Record : Kind → Type
  | proposedUpgrade => ProposedUpgrade
  | approvedUpgrade => ApprovedUpgrade
  | rejectedUpgrade => RejectedUpgrade

/-- `ProposedUpgradeKeyPrefix` and its likes. -/
def keyText : Kind → String
  | proposedUpgrade => "ProposedUpgrade/value/"
  | approvedUpgrade => "ApprovedUpgrade/value/"
  | rejectedUpgrade => "RejectedUpgrade/value/"

theorem prefixFree_keyText : PrefixFree fun kind => utf8 (keyText kind) :=
  prefixFree_of_forall_mem mem_all (by decide +kernel)

/-- The key of a record, computed from its own fields. -/
def key : (kind : Kind) → kind.Record → Bytes
  | proposedUpgrade, elem => upgradeKey elem.plan.name
  | approvedUpgrade, elem => upgradeKey elem.plan.name
  | rejectedUpgrade, elem => upgradeKey elem.plan.name

end Kind

namespace Store

/-- The records of a kind. -/
def records (s : Store) : (kind : Kind) → KVStore Bytes kind.Record
  | .proposedUpgrade => s.proposedUpgrade
  | .approvedUpgrade => s.approvedUpgrade
  | .rejectedUpgrade => s.rejectedUpgrade

/-- The store with other records of a kind. -/
def putRecords (s : Store) : (kind : Kind) → KVStore Bytes kind.Record → Store
  | .proposedUpgrade, t => { s with proposedUpgrade := t }
  | .approvedUpgrade, t => { s with approvedUpgrade := t }
  | .rejectedUpgrade, t => { s with rejectedUpgrade := t }

theorem ext_records {s s' : Store} (h : ∀ kind, s.records kind = s'.records kind)
    (hplan : s.plan = s'.plan) : s = s' := by
  cases s
  cases s'
  rw [Store.mk.injEq]
  exact ⟨h .proposedUpgrade, h .approvedUpgrade, h .rejectedUpgrade, hplan⟩

end Store

/-- **The records of the module in one store.** -/
def layout : Layout Store Kind Kind.Record where
  kinds := Kind.all
  pre kind := utf8 kind.keyText
  IsKey _ _ := True
  records := Store.records
  put := Store.putRecords
  mem_kinds := Kind.mem_all
  prefixFree := Kind.prefixFree_keyText
  isKey _ _ _ _ _ := trivial
  records_put_self _ kind _ _ := by cases kind <;> rfl
  records_put_of_ne _ kind _ kind' h := by
    cases kind <;> cases kind' <;> first | rfl | exact absurd rfl h

/-! ## Genesis states -/

/-- What a chain starts with. -/
structure GenesisState where
  proposedUpgradeList : List ProposedUpgrade
  approvedUpgradeList : List ApprovedUpgrade
  rejectedUpgradeList : List RejectedUpgrade
deriving DecidableEq, Repr

namespace GenesisState

/-- The check of a genesis state: no two records of a kind have the same key. -/
def validate (gs : GenesisState) : Except String Unit := do
  checkIndexes (fun elem => .ok (Kind.key .proposedUpgrade elem)) "proposedUpgrade" []
    gs.proposedUpgradeList
  checkIndexes (fun elem => .ok (Kind.key .approvedUpgrade elem)) "approvedUpgrade" []
    gs.approvedUpgradeList
  checkIndexes (fun elem => .ok (Kind.key .rejectedUpgrade elem)) "rejectedUpgrade" []
    gs.rejectedUpgradeList

/-- The list of a kind. -/
def records (gs : GenesisState) : (kind : Kind) → List kind.Record
  | .proposedUpgrade => gs.proposedUpgradeList
  | .approvedUpgrade => gs.approvedUpgradeList
  | .rejectedUpgrade => gs.rejectedUpgradeList

end GenesisState

/-- The genesis state without records. -/
def defaultGenesis : GenesisState := ⟨[], [], []⟩

/-- Import a genesis state. -/
def initGenesis (gs : GenesisState) (s : Store) : Store :=
  let s := gs.proposedUpgradeList.foldl (fun s elem => s.setProposedUpgrade elem) s
  let s := gs.approvedUpgradeList.foldl (fun s elem => s.setApprovedUpgrade elem) s
  gs.rejectedUpgradeList.foldl (fun s elem => s.setRejectedUpgrade elem) s

/-- Export the store. -/
def exportGenesis (s : Store) : GenesisState where
  proposedUpgradeList := s.proposedUpgrade.values
  approvedUpgradeList := s.approvedUpgrade.values
  rejectedUpgradeList := s.rejectedUpgrade.values

/-- A store without records of the module, and the plan held by the upgrade keeper. -/
def Store.emptyWith (plan : Option Plan) : Store := { Store.empty with plan := plan }

/-- The runs of a chain that starts from a genesis state, and with a plan or none in the upgrade
keeper. -/
def imported (bech32 : Bech32) (gs : GenesisState) (plan : Option Plan) :
    TransitionSystem Store (Context × Msg) where
  init := initGenesis gs (Store.emptyWith plan)
  step := (upgrades bech32).step

theorem initGenesis_eq_load (gs : GenesisState) (s : Store) :
    initGenesis gs s = layout.load Kind.key gs.records s :=
  rfl

theorem records_exportGenesis (s : Store) :
    (exportGenesis s).records = fun kind => (layout.records s kind).values := by
  funext kind
  cases kind <;> rfl

theorem plan_initGenesis (gs : GenesisState) (s : Store) : (initGenesis gs s).plan = s.plan := by
  rw [initGenesis_eq_load]
  refine layout.load_fixed (g := Store.plan) (fun s kind t => ?_) gs.records s
  cases kind <;> rfl

/-! ## Own keys -/

section Own

variable {bech32 : Bech32} {s s' : Store} {a : Context × Msg} {plan : Option Plan}

theorem own_emptyWith : layout.Own Kind.key (Store.emptyWith plan) := by
  intro kind
  cases kind <;> exact KVStore.All.empty

theorem own_setRecord (h : layout.Own Kind.key s) (kind : Kind) (elem : kind.Record) :
    layout.Own Kind.key (s.putRecords kind ((s.records kind).set (kind.key elem) elem)) :=
  h.set (fun _ _ => trivial) kind elem

theorem own_delete (h : layout.Own Kind.key s) (kind : Kind) (k : Bytes) :
    layout.Own Kind.key (s.putRecords kind ((s.records kind).delete k)) :=
  h.delete (fun _ _ => trivial) kind k

/-- The plan of the upgrade keeper is no record of the module. -/
theorem own_schedule (h : layout.Own Kind.key s) : layout.Own Kind.key { s with plan := plan } := by
  intro kind
  cases kind <;> exact h _

/-- **A step leaves every record under its own key.** -/
theorem own_step (h : layout.Own Kind.key s) (hstep : (upgrades bech32).step s a s') :
    layout.Own Kind.key s' := by
  obtain ⟨r, hd⟩ := hstep
  rcases Handler.deliver_cases hd with ⟨u, -, hok⟩ | ⟨-, rfl⟩
  · obtain ⟨ctx, msg⟩ := a
    cases msg with
    | proposeUpgrade msg =>
      have hremoved := own_delete h .proposedUpgrade (upgradeKey msg.plan.name)
      obtain ⟨creator, -, -, -, -, -, upgrade, -, ⟨-, rfl⟩ | ⟨-, rfl⟩⟩ := proposeUpgrade_ok hok
      · exact own_delete (own_setRecord hremoved .proposedUpgrade upgrade) .rejectedUpgrade _
      · exact own_delete (own_setRecord (own_schedule hremoved) .approvedUpgrade upgrade)
          .rejectedUpgrade _
    | approveUpgrade msg =>
      obtain ⟨voter, found, -, -, -, -, -, -, upgrade, -, ⟨-, rfl⟩ | ⟨-, rfl⟩⟩ :=
        approveUpgrade_ok hok
      · exact own_setRecord (own_delete (own_schedule h) .proposedUpgrade _) .approvedUpgrade upgrade
      · exact own_setRecord h .proposedUpgrade upgrade
    | rejectUpgrade msg =>
      obtain ⟨voter, found, -, -, -, -, -, upgrade, -, ⟨-, -, rfl⟩ | ⟨-, rfl⟩⟩ :=
        rejectUpgrade_ok hok
      · exact own_setRecord (own_delete (own_schedule h) .proposedUpgrade _) .rejectedUpgrade upgrade
      · exact own_setRecord h .proposedUpgrade upgrade
  · exact h

theorem own_of_imported {gs : GenesisState} (h : (imported bech32 gs plan).Reachable s) :
    layout.Own Kind.key s := by
  refine h.invariant ?_ fun {s a s'} hs hstep => ?_
  · exact layout.own_load (fun _ _ => trivial) (by decide) gs.records own_emptyWith
  · have hstep' : (upgrades bech32).step s a s' := hstep
    exact own_step hs hstep'

end Own

/-! ## The round trip -/

section RoundTrip

variable {s : Store} (h : layout.Own Kind.key s)
include h

/-- An exported state passes its check. -/
theorem validate_exportGenesis : (exportGenesis s).validate = .ok () := by
  have hkind (kind : Kind) (name : String) :
      checkIndexes (fun elem => .ok (kind.key elem)) name [] (s.records kind).values = .ok () :=
    checkIndexes_values name (h kind) fun _ _ _ => rfl
  have hproposed := hkind .proposedUpgrade "proposedUpgrade"
  have happroved := hkind .approvedUpgrade "approvedUpgrade"
  have hrejected := hkind .rejectedUpgrade "rejectedUpgrade"
  simp only [Store.records] at hproposed happroved hrejected
  simp only [GenesisState.validate, exportGenesis, hproposed, happroved, hrejected]
  rfl

/-- **An exported state comes back**, beside whatever plan the upgrade keeper holds. -/
theorem initGenesis_exportGenesis (plan : Option Plan) :
    initGenesis (exportGenesis s) (Store.emptyWith plan) = { s with plan := plan } := by
  have hrecords (kind : Kind) : ({ s with plan := plan } : Store).records kind = s.records kind := by
    cases kind <;> rfl
  apply Store.ext_records
  · intro kind
    rw [initGenesis_eq_load, records_exportGenesis, hrecords]
    refine layout.records_load_values (fun _ _ => trivial) (by decide) h ?_ kind
    intro kind
    cases kind <;> rfl
  · exact plan_initGenesis _ _

end RoundTrip

end ComplianceLedger.Dclupgrade
