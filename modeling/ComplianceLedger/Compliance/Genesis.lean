import ComplianceLedger.Compliance.MsgServer
import ComplianceLedger.Dclauth.Genesis
import ComplianceLedger.Machine.Layout

/-!
# Export and import of the compliance records

The five kinds of records share one key-value store, and each of them is exported as a list. The
flags repeat the fields of the subject they are about, so that their keys can be computed from them
as those of the records can.

## Main definitions

* `Kind`, `layout`: the kinds, and the records in one store
* `GenesisState`, `GenesisState.validate`: a genesis state and its check
* `initGenesis`, `exportGenesis`: import and export
* `imported bech32 parse gs`: the runs of a chain that starts from a genesis state

## Main results

* `own_of_imported`: in every run all records lie under their own keys
* `validate_exportGenesis`, `initGenesis_exportGenesis`: an exported state passes its check, and comes
  back
-/

open Machine Machine.TransitionSystem

namespace ComplianceLedger.Compliance

open Dclauth (checkIndexes checkIndexes_values)

/-! ## Kinds -/

/-- The kinds of records. -/
inductive Kind
  | complianceInfo
  | certifiedModel
  | revokedModel
  | provisionalModel
  | deviceSoftwareCompliance
deriving DecidableEq, Repr

namespace Kind

/-- The kinds, in the order in which a genesis state is read. -/
def all : List Kind :=
  [complianceInfo, certifiedModel, revokedModel, provisionalModel, deviceSoftwareCompliance]

theorem mem_all (kind : Kind) : kind ∈ all := by
  cases kind <;> decide

/-- The records of a kind. -/
abbrev Record : Kind → Type
  | complianceInfo => ComplianceInfo
  | certifiedModel => ModelFlag
  | revokedModel => ModelFlag
  | provisionalModel => ModelFlag
  | deviceSoftwareCompliance => DeviceSoftwareCompliance

/-- `ComplianceInfoKeyPrefix` and its likes. -/
def keyText : Kind → String
  | complianceInfo => "ComplianceInfo/value/"
  | certifiedModel => "CertifiedModel/value/"
  | revokedModel => "RevokedModel/value/"
  | provisionalModel => "ProvisionalModel/value/"
  | deviceSoftwareCompliance => "DeviceSoftwareCompliance/value/"

theorem prefixFree_keyText : PrefixFree fun kind => utf8 (keyText kind) :=
  prefixFree_of_forall_mem mem_all (by decide +kernel)

/-- The key of a record, computed from its own fields. -/
def key : (kind : Kind) → kind.Record → Bytes
  | complianceInfo, elem => complianceInfoKey elem.toSubject
  | certifiedModel, elem => certifiedModelKey elem.toSubject
  | revokedModel, elem => revokedModelKey elem.toSubject
  | provisionalModel, elem => provisionalModelKey elem.toSubject
  | deviceSoftwareCompliance, elem => deviceSoftwareComplianceKey elem.cDCertificateId

end Kind

namespace Store

/-- The records of a kind. -/
def records (s : Store) : (kind : Kind) → KVStore Bytes kind.Record
  | .complianceInfo => s.complianceInfo
  | .certifiedModel => s.certifiedModel
  | .revokedModel => s.revokedModel
  | .provisionalModel => s.provisionalModel
  | .deviceSoftwareCompliance => s.deviceSoftwareCompliance

/-- The store with other records of a kind. -/
def putRecords (s : Store) : (kind : Kind) → KVStore Bytes kind.Record → Store
  | .complianceInfo, t => { s with complianceInfo := t }
  | .certifiedModel, t => { s with certifiedModel := t }
  | .revokedModel, t => { s with revokedModel := t }
  | .provisionalModel, t => { s with provisionalModel := t }
  | .deviceSoftwareCompliance, t => { s with deviceSoftwareCompliance := t }

theorem ext_records {s s' : Store} (h : ∀ kind, s.records kind = s'.records kind) : s = s' := by
  cases s
  cases s'
  rw [Store.mk.injEq]
  exact ⟨h .complianceInfo, h .certifiedModel, h .revokedModel, h .provisionalModel,
    h .deviceSoftwareCompliance⟩

end Store

/-- **The records of the module in one store.** -/
def layout : Layout Store Kind Kind.Record where
  kinds := Kind.all
  pre kind := utf8 kind.keyText
  IsKey _ _ := True
  records := Store.records
  put := Store.putRecords
  mem_kinds := Kind.mem_all
  prefixFree := Kind.prefixFree_keyText
  isKey _ _ _ _ _ := trivial
  records_put_self _ kind _ _ := by cases kind <;> rfl
  records_put_of_ne _ kind _ kind' h := by cases kind <;> cases kind' <;> first | rfl | exact absurd rfl h

/-! ## Genesis states -/

/-- What a chain starts with. -/
structure GenesisState where
  complianceInfoList : List ComplianceInfo
  certifiedModelList : List ModelFlag
  revokedModelList : List ModelFlag
  provisionalModelList : List ModelFlag
  deviceSoftwareComplianceList : List DeviceSoftwareCompliance
deriving DecidableEq, Repr

namespace GenesisState

/-- The check of a genesis state: no two records of a kind have the same key. -/
def validate (gs : GenesisState) : Except String Unit := do
  checkIndexes (fun elem => .ok (Kind.key .complianceInfo elem)) "complianceInfo" []
    gs.complianceInfoList
  checkIndexes (fun elem => .ok (Kind.key .certifiedModel elem)) "certifiedModel" []
    gs.certifiedModelList
  checkIndexes (fun elem => .ok (Kind.key .revokedModel elem)) "revokedModel" []
    gs.revokedModelList
  checkIndexes (fun elem => .ok (Kind.key .provisionalModel elem)) "provisionalModel" []
    gs.provisionalModelList
  checkIndexes (fun elem => .ok (Kind.key .deviceSoftwareCompliance elem))
    "deviceSoftwareCompliance" [] gs.deviceSoftwareComplianceList

/-- The list of a kind. -/
def records (gs : GenesisState) : (kind : Kind) → List kind.Record
  | .complianceInfo => gs.complianceInfoList
  | .certifiedModel => gs.certifiedModelList
  | .revokedModel => gs.revokedModelList
  | .provisionalModel => gs.provisionalModelList
  | .deviceSoftwareCompliance => gs.deviceSoftwareComplianceList

end GenesisState

/-- The genesis state without records. -/
def defaultGenesis : GenesisState := ⟨[], [], [], [], []⟩

/-- Import a genesis state. -/
def initGenesis (gs : GenesisState) (s : Store) : Store :=
  let s := gs.complianceInfoList.foldl (fun s elem => s.setComplianceInfo elem) s
  let s := gs.certifiedModelList.foldl (fun s elem => s.setCertifiedModel elem) s
  let s := gs.revokedModelList.foldl (fun s elem => s.setRevokedModel elem) s
  let s := gs.provisionalModelList.foldl (fun s elem => s.setProvisionalModel elem) s
  gs.deviceSoftwareComplianceList.foldl (fun s elem => s.setDeviceSoftwareCompliance elem) s

/-- Export the store. -/
def exportGenesis (s : Store) : GenesisState where
  complianceInfoList := s.complianceInfo.values
  certifiedModelList := s.certifiedModel.values
  revokedModelList := s.revokedModel.values
  provisionalModelList := s.provisionalModel.values
  deviceSoftwareComplianceList := s.deviceSoftwareCompliance.values

/-- The runs of a chain that starts from a genesis state. -/
def imported (bech32 : Bech32) (parse : String → Option ℤ) (gs : GenesisState) :
    TransitionSystem Store (Context × Msg) where
  init := initGenesis gs Store.empty
  step := (compliance bech32 parse).step

theorem initGenesis_eq_load (gs : GenesisState) (s : Store) :
    initGenesis gs s = layout.load Kind.key gs.records s :=
  rfl

theorem records_exportGenesis (s : Store) :
    (exportGenesis s).records = fun kind => (layout.records s kind).values := by
  funext kind
  cases kind <;> rfl

/-! ## Own keys -/

section Own

variable {bech32 : Bech32} {parse : String → Option ℤ} {ctx : Context} {s s' : Store} {msg : Msg}

theorem own_empty : layout.Own Kind.key Store.empty := by
  intro kind
  cases kind <;> exact KVStore.All.empty

theorem own_setRecord (h : layout.Own Kind.key s) (kind : Kind) (elem : kind.Record) :
    layout.Own Kind.key (s.putRecords kind ((s.records kind).set (kind.key elem) elem)) :=
  h.set (fun _ _ => trivial) kind elem

theorem own_addToCertificate (h : layout.Own Kind.key s) (msg : MsgDeclareModel)
    (info : ComplianceInfo) : layout.Own Kind.key (s.addToCertificate msg info) :=
  own_setRecord h .deviceSoftwareCompliance _

theorem own_removeFromCertificate (h : layout.Own Kind.key s) (msg : MsgRevokeModel)
    (info : ComplianceInfo) : layout.Own Kind.key (s.removeFromCertificate msg info) := by
  have hset := own_setRecord h .deviceSoftwareCompliance (s.withoutRevoked msg info)
  unfold Store.removeFromCertificate
  dsimp only
  split
  · exact hset.delete (fun _ _ => trivial) .deviceSoftwareCompliance _
  · exact hset

/-- **An accepted message leaves every record under its own key.** -/
theorem own_change (h : layout.Own Kind.key s) (hc : Change parse ctx s msg s') :
    layout.Own Kind.key s' := by
  cases hc with
  | @provisioned msg =>
    exact own_setRecord (own_setRecord h .complianceInfo msg.provisionalInfo) .provisionalModel
      ⟨msg.toSubject, true⟩
  | @certified msg version info =>
    have hcertificate := own_addToCertificate (own_setRecord h .complianceInfo info) msg info
    exact own_setRecord (own_setRecord (own_setRecord hcertificate .certifiedModel
      ⟨msg.toSubject, true⟩) .revokedModel ⟨msg.toSubject, false⟩) .provisionalModel
      ⟨msg.toSubject, false⟩
  | @revokedFirst msg =>
    exact own_setRecord (own_setRecord h .complianceInfo msg.newRevokedInfo) .revokedModel
      ⟨msg.toSubject, true⟩
  | @revoked msg version d info =>
    have hcertificate := own_removeFromCertificate h msg info
    exact own_setRecord (own_setRecord (own_setRecord (own_setRecord hcertificate .certifiedModel
      ⟨msg.toSubject, false⟩) .provisionalModel ⟨msg.toSubject, false⟩) .complianceInfo info)
      .revokedModel ⟨msg.toSubject, true⟩

theorem own_of_imported {gs : GenesisState} (h : (imported bech32 parse gs).Reachable s) :
    layout.Own Kind.key s := by
  refine h.invariant ?_ fun hs hstep => ?_
  · exact layout.own_load (fun _ _ => trivial) (by decide) gs.records own_empty
  · rcases step_cases hstep with rfl | hc
    · exact hs
    · exact own_change hs hc

end Own

/-! ## The round trip -/

section RoundTrip

variable {s : Store} (h : layout.Own Kind.key s)
include h

/-- An exported state passes its check. -/
theorem validate_exportGenesis : (exportGenesis s).validate = .ok () := by
  have hkind (kind : Kind) (name : String) :
      checkIndexes (fun elem => .ok (kind.key elem)) name [] (s.records kind).values = .ok () :=
    checkIndexes_values name (h kind) fun _ _ _ => rfl
  have hinfo := hkind .complianceInfo "complianceInfo"
  have hcertified := hkind .certifiedModel "certifiedModel"
  have hrevoked := hkind .revokedModel "revokedModel"
  have hprovisional := hkind .provisionalModel "provisionalModel"
  have hdevice := hkind .deviceSoftwareCompliance "deviceSoftwareCompliance"
  simp only [Store.records] at hinfo hcertified hrevoked hprovisional hdevice
  simp only [GenesisState.validate, exportGenesis, hinfo, hcertified, hrevoked, hprovisional, hdevice]
  rfl

/-- **An exported state comes back.** -/
theorem initGenesis_exportGenesis : initGenesis (exportGenesis s) Store.empty = s := by
  rw [initGenesis_eq_load, records_exportGenesis]
  apply Store.ext_records
  refine layout.records_load_values (fun _ _ => trivial) (by decide) h ?_
  intro kind
  cases kind <;> rfl

end RoundTrip

end ComplianceLedger.Compliance
