import ComplianceLedger.Models.Bounds

/-!
# The limits of models

The fields of a model and of a version have limits: lengths, ranges, URLs, and fields that are given
together. They are checked in the messages only, and an update shows a part of a record only. Still the
stored records stay within the limits: each of them, read as the message that creates it, passes the
check of that message, whatever updates it has seen.

## Main definitions

* `Model.message`, `ModelVersion.message`: the message that creates a record with the stored fields
* `Model.Valid`, `ModelVersion.Valid`: it passes the check of messages
* `ValidRecords bech32 isURL s`: all models and versions are valid

## Main results

* `Model.Valid.update`, `ModelVersion.Valid.update`: an update keeps a record valid
* `validRecords_step`: messages that pass their checks leave valid records
-/

open Machine Machine.TransitionSystem

namespace ComplianceLedger.Models

/-! ## Records as messages -/

/-- The message that creates a model with the stored fields. -/
def Model.message (model : Model) : MsgCreateModel where
  creator := model.creator
  vid := model.vid
  pid := model.pid
  deviceTypeId := model.deviceTypeId
  productName := model.productName
  productLabel := model.productLabel
  partNumber := model.partNumber
  commissioningCustomFlow := model.commissioningCustomFlow
  commissioningCustomFlowUrl := model.commissioningCustomFlowUrl
  commissioningModeInitialStepsHint := model.commissioningModeInitialStepsHint
  commissioningModeInitialStepsInstruction := model.commissioningModeInitialStepsInstruction
  commissioningModeSecondaryStepsHint := model.commissioningModeSecondaryStepsHint
  commissioningModeSecondaryStepsInstruction := model.commissioningModeSecondaryStepsInstruction
  userManualUrl := model.userManualUrl
  supportUrl := model.supportUrl
  productUrl := model.productUrl
  lsfUrl := model.lsfUrl

/-- The message that creates a version with the stored fields. -/
def ModelVersion.message (version : ModelVersion) : MsgCreateModelVersion where
  creator := version.creator
  vid := version.vid
  pid := version.pid
  softwareVersion := version.softwareVersion
  softwareVersionString := version.softwareVersionString
  cdVersionNumber := version.cdVersionNumber
  firmwareInformation := version.firmwareInformation
  softwareVersionValid := version.softwareVersionValid
  otaUrl := version.otaUrl
  otaFileSize := version.otaFileSize
  otaChecksum := version.otaChecksum
  otaChecksumType := version.otaChecksumType
  minApplicableSoftwareVersion := version.minApplicableSoftwareVersion
  maxApplicableSoftwareVersion := version.maxApplicableSoftwareVersion
  releaseNotesUrl := version.releaseNotesUrl

section Definitions

variable (bech32 : Bech32) (isURL : String → Bool)

/-- The model passes the check of the message that creates it. -/
def Model.Valid (model : Model) : Prop :=
  (Msg.createModel model.message).validateBasic bech32 isURL = .ok ()

/-- The version passes the check of the message that creates it. -/
def ModelVersion.Valid (version : ModelVersion) : Prop :=
  (Msg.createModelVersion version.message).validateBasic bech32 isURL = .ok ()

/-- The stored models and versions are valid. -/
structure ValidRecords (s : Store) : Prop where
  model : ∀ vid pid model, s.getModel vid pid = some model → model.Valid bech32 isURL
  modelVersion : ∀ vid pid sv version, s.getModelVersion vid pid sv = some version →
    version.Valid bech32 isURL

end Definitions

variable {bech32 : Bech32} {isURL : String → Bool} {u : Unit}

theorem Msg.validateBasic_eq_ok_iff {msg : Msg} : msg.validateBasic bech32 isURL = .ok u ↔
    (∃ a, bech32.accAddressFromBech32 msg.creator = .ok a) ∧ Kept (msg.rules isURL) := by
  unfold Msg.validateBasic
  cases bech32.accAddressFromBech32 msg.creator with
  | error e =>
    constructor
    · exact fun h => nomatch h
    · rintro ⟨⟨a, ha⟩, -⟩
      cases ha
  | ok a => exact validate_eq_ok_iff.trans ⟨fun h => ⟨⟨a, rfl⟩, h⟩, And.right⟩

/-! ## Updates -/

/-- **An update keeps a model valid.** What it leaves empty is kept, and what it gives has the limits of
a new model. -/
theorem Model.Valid.update {msg : MsgUpdateModel} {found : Model} (h : found.Valid bech32 isURL)
    (hrules : (Msg.updateModel msg).validateBasic bech32 isURL = .ok ()) (lsfRevision : Int32) :
    (msg.model found lsfRevision).Valid bech32 isURL := by
  obtain ⟨hcreator, hfound⟩ := Msg.validateBasic_eq_ok_iff.mp h
  obtain ⟨-, hmsg⟩ := Msg.validateBasic_eq_ok_iff.mp hrules
  refine Msg.validateBasic_eq_ok_iff.mpr ⟨hcreator, ?_⟩
  simp only [Msg.rules, MsgCreateModel.rules, MsgUpdateModel.rules, kept_append, kept_cons,
    and_assoc] at hfound hmsg ⊢
  obtain ⟨hcommon, htype, hname, hnameMax, hlabel, hlabelMax, hpart, hpartMax, hnil, hflow, hflowUrl, -,
    hurl, hinitial, hsecondary, -, hmanual, hsupport, hproduct, hlsf⟩ := hfound
  obtain ⟨-, hnameMax', hlabelMax', hpartMax', -, hurl', hinitial', hsecondary', -, hmanual', hsupport',
    hproduct', hlsf', -⟩ := hmsg
  refine ⟨hcommon, htype, required_orKeep hname, maxLength_orKeep hnameMax' hnameMax,
    required_orKeep hlabel, maxLength_orKeep hlabelMax' hlabelMax, required_orKeep hpart,
    maxLength_orKeep hpartMax' hpartMax, hnil, hflow, ?_, hnil, optionalURL_orKeep hurl' hurl,
    maxLength_orKeep hinitial' hinitial, maxLength_orKeep hsecondary' hsecondary, hnil,
    optionalURL_orKeep hmanual' hmanual, optionalURL_orKeep hsupport' hsupport,
    optionalURL_orKeep hproduct' hproduct, optionalURL_orKeep hlsf' hlsf⟩
  -- the flow stays as it is, and its URL does not become empty
  exact requiredIf_mono hflowUrl fun hgiven =>
    decide_eq_true (orKeep_ne_empty (of_decide_eq_true hgiven))

theorem ModelVersion.Valid.inOrder {version : ModelVersion} (h : version.Valid bech32 isURL) :
    version.InOrder where
  bounds := (MsgCreateModelVersion.of_validateBasic h).1
  image := (MsgCreateModelVersion.of_validateBasic h).2

/-- **An update keeps a version valid**, if the handler accepts it. -/
theorem ModelVersion.Valid.update {msg : MsgUpdateModelVersion} {found : ModelVersion}
    (h : found.Valid bech32 isURL)
    (hrules : (Msg.updateModelVersion msg).validateBasic bech32 isURL = .ok ())
    (hota : msg.otaUrl ≠ "" → found.otaUrl ≠ "") (horder : (msg.modelVersion found).InOrder) :
    (msg.modelVersion found).Valid bech32 isURL := by
  obtain ⟨hcreator, hfound⟩ := Msg.validateBasic_eq_ok_iff.mp h
  obtain ⟨-, hmsg⟩ := Msg.validateBasic_eq_ok_iff.mp hrules
  refine Msg.validateBasic_eq_ok_iff.mpr ⟨hcreator, ?_⟩
  simp only [Msg.rules, MsgCreateModelVersion.rules, MsgUpdateModelVersion.rules, kept_append,
    kept_cons, and_assoc] at hfound hmsg ⊢
  obtain ⟨hcommon, hstring, hstringMax, hnil, hnumber, hfirmware, -, hurl, hsize, hchecksum,
    hchecksumMax, htype, -, htypeWithin, -, -, hnotes⟩ := hfound
  obtain ⟨-, hurl', -, hnotes'⟩ := hmsg
  -- an image that is there after the update was there before
  have himage : decide ((msg.modelVersion found).message.otaUrl ≠ "") = true →
      decide (found.message.otaUrl ≠ "") = true := fun hset =>
    decide_eq_true fun hnone => of_decide_eq_true hset ((otaUrl_eq_empty_iff hota).mpr hnone)
  exact ⟨hcommon, hstring, hstringMax, hnil, hnumber, hfirmware, hnil, optionalURL_orKeep hurl' hurl,
    requiredWith_anti hsize himage, requiredWith_anti hchecksum himage, hchecksumMax,
    requiredWith_anti htype himage, hnil, htypeWithin,
    decide_eq_true (UInt32.le_iff_toNat_le.mp horder.bounds), hnil, optionalURL_orKeep hnotes' hnotes⟩

/-! ## Runs -/

theorem ValidRecords.empty : ValidRecords bech32 isURL Store.empty where
  model _ _ _ h := nomatch h
  modelVersion _ _ _ _ h := nomatch h

/-- **Messages that pass their checks leave valid records.** -/
theorem validRecords_step {s s' : Store} {a : Dclauth.AccountStore × Msg} (hkeyed : Keyed s)
    (h : ValidRecords bech32 isURL s) (hstep : (models bech32).step s a s')
    (hrules : a.2.validateBasic bech32 isURL = .ok ()) : ValidRecords bech32 isURL s' where
  model vid pid model hget := by
    rcases getModel_of_step hkeyed hstep vid pid with hsame | hnone | ⟨msg, hmsg, -, hnew⟩ |
      ⟨msg, found, lsfRevision, hmsg, hfound, -, hnew⟩
    · exact h.model vid pid model (hsame ▸ hget)
    · cases hnone.symm.trans hget
    · obtain rfl := Option.some.inj (hnew.symm.trans hget)
      rw [hmsg] at hrules
      exact hrules
    · obtain rfl := Option.some.inj (hnew.symm.trans hget)
      rw [hmsg] at hrules
      exact (h.model vid pid found hfound).update hrules lsfRevision
  modelVersion vid pid sv version hget := by
    rcases getModelVersion_of_step hkeyed hstep vid pid sv with hsame | ⟨msg, hmsg, -, hnew⟩ |
      ⟨msg, found, hmsg, hfound, hurl, hmin, hmax, hnew⟩
    · exact h.modelVersion vid pid sv version (hsame ▸ hget)
    · obtain rfl := Option.some.inj (hnew.symm.trans hget)
      rw [hmsg] at hrules
      exact hrules
    · obtain rfl := Option.some.inj (hnew.symm.trans hget)
      rw [hmsg] at hrules
      have hvalid := h.modelVersion vid pid sv found hfound
      exact hvalid.update hrules hurl (hvalid.inOrder.update hrules hurl hmin hmax)

end ComplianceLedger.Models
