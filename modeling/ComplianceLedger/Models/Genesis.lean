import ComplianceLedger.Dclauth.Genesis
import ComplianceLedger.Machine.Layout
import ComplianceLedger.Models.Indexes

/-!
# Export and import of the models

The four kinds of records share one key-value store. The texts of the kinds `ModelVersion` and
`ModelVersions` part where the slash follows the first of them, so that an iterator over the versions
does not come across the lists of versions.

## Main definitions

* `Kind`, `layout`: the kinds, and the records in one store
* `GenesisState`, `GenesisState.validate`: a genesis state and its check
* `initGenesis`, `exportGenesis`: import and export
* `imported bech32 gs`: the runs of a chain that starts from a genesis state

## Main results

* `own_of_imported`: in every run all records lie under their own keys
* `validate_exportGenesis`, `initGenesis_exportGenesis`: an exported state passes its check, and comes
  back
-/

open Machine Machine.TransitionSystem

namespace ComplianceLedger.Models

open Dclauth (checkIndexes checkIndexes_values)

/-! ## Kinds -/

/-- The kinds of records. -/
inductive Kind
  | vendorProducts
  | model
  | modelVersion
  | modelVersions
deriving DecidableEq, Repr

namespace Kind

/-- The kinds, in the order in which a genesis state is read. -/
def all : List Kind := [vendorProducts, model, modelVersion, modelVersions]

theorem mem_all (kind : Kind) : kind ∈ all := by
  cases kind <;> decide

/-- The records of a kind. -/
abbrev Record : Kind → Type
  | vendorProducts => VendorProducts
  | model => Model
  | modelVersion => ModelVersion
  | modelVersions => ModelVersions

/-- `ModelKeyPrefix` and its likes. -/
def keyText : Kind → String
  | vendorProducts => "VendorProducts/value/"
  | model => "Model/value/"
  | modelVersion => "ModelVersion/value/"
  | modelVersions => "ModelVersions/value/"

theorem prefixFree_keyText : PrefixFree fun kind => utf8 (keyText kind) :=
  prefixFree_of_forall_mem mem_all (by decide +kernel)

/-- The key of a record, computed from its own fields. -/
def key : (kind : Kind) → kind.Record → Bytes
  | vendorProducts, elem => vendorProductsKey elem.vid
  | model, elem => modelKey elem.vid elem.pid
  | modelVersion, elem => modelVersionKey elem.vid elem.pid elem.softwareVersion
  | modelVersions, elem => modelVersionsKey elem.vid elem.pid

end Kind

namespace Store

/-- The records of a kind. -/
def records (s : Store) : (kind : Kind) → KVStore Bytes kind.Record
  | .vendorProducts => s.vendorProducts
  | .model => s.model
  | .modelVersion => s.modelVersion
  | .modelVersions => s.modelVersions

/-- The store with other records of a kind. -/
def putRecords (s : Store) : (kind : Kind) → KVStore Bytes kind.Record → Store
  | .vendorProducts, t => { s with vendorProducts := t }
  | .model, t => { s with model := t }
  | .modelVersion, t => { s with modelVersion := t }
  | .modelVersions, t => { s with modelVersions := t }

theorem ext_records {s s' : Store} (h : ∀ kind, s.records kind = s'.records kind) : s = s' := by
  cases s
  cases s'
  rw [Store.mk.injEq]
  exact ⟨h .model, h .modelVersion, h .modelVersions, h .vendorProducts⟩

end Store

/-- **The records of the module in one store.** -/
def layout : Layout Store Kind Kind.Record where
  kinds := Kind.all
  pre kind := utf8 kind.keyText
  IsKey _ _ := True
  records := Store.records
  put := Store.putRecords
  mem_kinds := Kind.mem_all
  prefixFree := Kind.prefixFree_keyText
  isKey _ _ _ _ _ := trivial
  records_put_self _ kind _ _ := by cases kind <;> rfl
  records_put_of_ne _ kind _ kind' h := by
    cases kind <;> cases kind' <;> first | rfl | exact absurd rfl h

/-! ## Genesis states -/

/-- What a chain starts with. -/
structure GenesisState where
  vendorProductsList : List VendorProducts
  modelList : List Model
  modelVersionList : List ModelVersion
  modelVersionsList : List ModelVersions
deriving DecidableEq, Repr

namespace GenesisState

/-- The check of a genesis state: no two records of a kind have the same key. -/
def validate (gs : GenesisState) : Except String Unit := do
  checkIndexes (fun elem => .ok (Kind.key .vendorProducts elem)) "vendorProducts" []
    gs.vendorProductsList
  checkIndexes (fun elem => .ok (Kind.key .model elem)) "model" [] gs.modelList
  checkIndexes (fun elem => .ok (Kind.key .modelVersion elem)) "modelVersion" []
    gs.modelVersionList
  checkIndexes (fun elem => .ok (Kind.key .modelVersions elem)) "modelVersions" []
    gs.modelVersionsList

/-- The list of a kind. -/
def records (gs : GenesisState) : (kind : Kind) → List kind.Record
  | .vendorProducts => gs.vendorProductsList
  | .model => gs.modelList
  | .modelVersion => gs.modelVersionList
  | .modelVersions => gs.modelVersionsList

end GenesisState

/-- The genesis state without records. -/
def defaultGenesis : GenesisState := ⟨[], [], [], []⟩

/-- Import a genesis state. -/
def initGenesis (gs : GenesisState) (s : Store) : Store :=
  let s := gs.vendorProductsList.foldl (fun s elem => s.setVendorProducts elem) s
  let s := gs.modelList.foldl (fun s elem => s.setModel elem) s
  let s := gs.modelVersionList.foldl (fun s elem => s.setModelVersion elem) s
  gs.modelVersionsList.foldl (fun s elem => s.setModelVersions elem) s

/-- Export the store. -/
def exportGenesis (s : Store) : GenesisState where
  vendorProductsList := s.vendorProducts.values
  modelList := s.model.values
  modelVersionList := s.modelVersion.values
  modelVersionsList := s.modelVersions.values

/-- The runs of a chain that starts from a genesis state. -/
def imported (bech32 : Bech32) (gs : GenesisState) :
    TransitionSystem Store (Dclauth.AccountStore × Msg) where
  init := initGenesis gs Store.empty
  step := (models bech32).step

theorem initGenesis_eq_load (gs : GenesisState) (s : Store) :
    initGenesis gs s = layout.load Kind.key gs.records s :=
  rfl

theorem records_exportGenesis (s : Store) :
    (exportGenesis s).records = fun kind => (layout.records s kind).values := by
  funext kind
  cases kind <;> rfl

/-! ## Own keys -/

section Own

variable {bech32 : Bech32} {s : Store}

theorem own_iff_keyed : layout.Own Kind.key s ↔ Keyed s := by
  constructor
  · exact fun h => ⟨h .model, h .modelVersion, h .modelVersions, h .vendorProducts⟩
  · intro h kind
    cases kind with
    | vendorProducts => exact h.vendorProducts
    | model => exact h.model
    | modelVersion => exact h.modelVersion
    | modelVersions => exact h.modelVersions

theorem own_of_imported {gs : GenesisState} (h : (imported bech32 gs).Reachable s) :
    layout.Own Kind.key s := by
  refine h.invariant ?_ fun hs hstep => ?_
  · exact layout.own_load (fun _ _ => trivial) (by decide) gs.records
      (own_iff_keyed.mpr Keyed.empty)
  · rcases step_cases hstep with rfl | ⟨-, hc⟩
    · exact hs
    · exact own_iff_keyed.mpr (keyed_change (own_iff_keyed.mp hs) hc)

end Own

/-! ## The round trip -/

section RoundTrip

variable {s : Store} (h : layout.Own Kind.key s)
include h

/-- An exported state passes its check. -/
theorem validate_exportGenesis : (exportGenesis s).validate = .ok () := by
  have hkind (kind : Kind) (name : String) :
      checkIndexes (fun elem => .ok (kind.key elem)) name [] (s.records kind).values = .ok () :=
    checkIndexes_values name (h kind) fun _ _ _ => rfl
  have hproducts := hkind .vendorProducts "vendorProducts"
  have hmodel := hkind .model "model"
  have hversion := hkind .modelVersion "modelVersion"
  have hversions := hkind .modelVersions "modelVersions"
  simp only [Store.records] at hproducts hmodel hversion hversions
  simp only [GenesisState.validate, exportGenesis, hproducts, hmodel, hversion, hversions]
  rfl

/-- **An exported state comes back.** -/
theorem initGenesis_exportGenesis : initGenesis (exportGenesis s) Store.empty = s := by
  rw [initGenesis_eq_load, records_exportGenesis]
  apply Store.ext_records
  refine layout.records_load_values (fun _ _ => trivial) (by decide) h ?_
  intro kind
  cases kind <;> rfl

end RoundTrip

end ComplianceLedger.Models
