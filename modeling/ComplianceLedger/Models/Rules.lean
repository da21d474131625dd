import ComplianceLedger.Models.Indexes
import ComplianceLedger.Sdk.Validate

/-!
# The models of the ledger: rules of the messages

The fields of the messages have rules, which are checked before a message is executed. A message that
changes a record leaves a field empty, or zero, to keep what is stored, so that the rules see only a
part of the record that results: the handlers check the rest against the store.

## Main definitions

* `Msg.validateBasic`: the check of a message before it is executed
* `KeepsVersionRules`, `KeepsModelRules`: the messages about versions, or models, keep their rules

## Main results

* `MsgCreateModelVersion.of_validateBasic` and its likes: what a message that keeps its rules is like
* `getModel_of_step`, `getModelVersion_of_step`: what a step makes of a model and of a version
-/

open Machine Machine.Handler Machine.TransitionSystem

namespace ComplianceLedger.Models

/-! ## Rules -/

section Rules

variable (bech32 : Bech32) (isURL : String → Bool)

/-- The rules that all messages begin with. -/
def commonRules (creator : String) (vid pid : Int32) : List Rule :=
  [required "Creator" creator] ++ within "Vid" vid.toInt 1 65535 ++ within "Pid" pid.toInt 1 65535

def MsgCreateModel.rules (msg : MsgCreateModel) : List Rule :=
  commonRules msg.creator msg.vid msg.pid ++
    within "DeviceTypeId" msg.deviceTypeId.toInt 0 65535 ++
    [required "ProductName" msg.productName, maxLength "ProductName" msg.productName 128,
      required "ProductLabel" msg.productLabel, maxLength "ProductLabel" msg.productLabel 256,
      required "PartNumber" msg.partNumber, maxLength "PartNumber" msg.partNumber 32] ++
    within "CommissioningCustomFlow" msg.commissioningCustomFlow.toInt 0 2 ++
    [requiredIf "CommissioningCustomFlowUrl" "CommissioningCustomFlow=2"
      (msg.commissioningCustomFlowUrl ≠ "") (msg.commissioningCustomFlow = 2)] ++
    optionalURL isURL "CommissioningCustomFlowUrl" msg.commissioningCustomFlowUrl ++
    [maxLength "CommissioningModeInitialStepsInstruction"
        msg.commissioningModeInitialStepsInstruction 1024,
      maxLength "CommissioningModeSecondaryStepsInstruction"
        msg.commissioningModeSecondaryStepsInstruction 1024] ++
    optionalURL isURL "UserManualUrl" msg.userManualUrl ++
    optionalURL isURL "SupportUrl" msg.supportUrl ++
    optionalURL isURL "ProductUrl" msg.productUrl ++
    optionalURL isURL "LsfUrl" msg.lsfUrl

def MsgUpdateModel.rules (msg : MsgUpdateModel) : List Rule :=
  commonRules msg.creator msg.vid msg.pid ++
    [maxLength "ProductName" msg.productName 128, maxLength "ProductLabel" msg.productLabel 256,
      maxLength "PartNumber" msg.partNumber 32] ++
    optionalURL isURL "CommissioningCustomFlowUrl" msg.commissioningCustomFlowUrl ++
    [maxLength "CommissioningModeInitialStepsInstruction"
        msg.commissioningModeInitialStepsInstruction 1024,
      maxLength "CommissioningModeSecondaryStepsInstruction"
        msg.commissioningModeSecondaryStepsInstruction 1024] ++
    optionalURL isURL "UserManualUrl" msg.userManualUrl ++
    optionalURL isURL "SupportUrl" msg.supportUrl ++
    optionalURL isURL "ProductUrl" msg.productUrl ++
    optionalURL isURL "LsfUrl" msg.lsfUrl ++
    within "LsfRevision" msg.lsfRevision.toInt 0 65535

def MsgDeleteModel.rules (msg : MsgDeleteModel) : List Rule :=
  commonRules msg.creator msg.vid msg.pid

def MsgCreateModelVersion.rules (msg : MsgCreateModelVersion) : List Rule :=
  commonRules msg.creator msg.vid msg.pid ++
    [required "SoftwareVersionString" msg.softwareVersionString,
      maxLength "SoftwareVersionString" msg.softwareVersionString 64] ++
    within "CdVersionNumber" msg.cdVersionNumber.toInt 0 65535 ++
    [maxLength "FirmwareInformation" msg.firmwareInformation 512] ++
    optionalURL isURL "OtaUrl" msg.otaUrl ++
    [requiredWith "OtaFileSize" "OtaUrl" (msg.otaFileSize ≠ 0) (msg.otaUrl ≠ ""),
      requiredWith "OtaChecksum" "OtaUrl" (msg.otaChecksum ≠ "") (msg.otaUrl ≠ ""),
      maxLength "OtaChecksum" msg.otaChecksum 64,
      requiredWith "OtaChecksumType" "OtaUrl" (msg.otaChecksumType ≠ 0) (msg.otaUrl ≠ "")] ++
    within "OtaChecksumType" msg.otaChecksumType.toInt 0 65535 ++
    [atLeastField "MaxApplicableSoftwareVersion" "MinApplicableSoftwareVersion"
      msg.maxApplicableSoftwareVersion.toNat msg.minApplicableSoftwareVersion.toNat] ++
    optionalURL isURL "ReleaseNotesUrl" msg.releaseNotesUrl

def MsgUpdateModelVersion.rules (msg : MsgUpdateModelVersion) : List Rule :=
  commonRules msg.creator msg.vid msg.pid ++
    optionalURL isURL "OtaUrl" msg.otaUrl ++
    -- a maximum that is left out is not compared
    omitEmpty (msg.maxApplicableSoftwareVersion ≠ 0)
      [atLeastField "MaxApplicableSoftwareVersion" "MinApplicableSoftwareVersion"
        msg.maxApplicableSoftwareVersion.toNat msg.minApplicableSoftwareVersion.toNat] ++
    optionalURL isURL "ReleaseNotesUrl" msg.releaseNotesUrl

/-- The rules of the fields of a message. -/
def Msg.rules : Msg → List Rule
  | .createModel msg => msg.rules isURL
  | .updateModel msg => msg.rules isURL
  | .deleteModel msg => msg.rules
  | .createModelVersion msg => msg.rules isURL
  | .updateModelVersion msg => msg.rules isURL

/-- The check of a message before it is executed: the signer, then the fields. -/
def Msg.validateBasic (msg : Msg) : Except SdkError Unit :=
  match bech32.accAddressFromBech32 msg.creator with
  | .error e => .error ⟨errInvalidAddress, "invalid creator address (" ++ e ++ ")"⟩
  | .ok _ => validate (msg.rules isURL)

end Rules

section Kept

variable {bech32 : Bech32} {isURL : String → Bool} {u : Unit}

theorem Msg.kept_of_validateBasic {msg : Msg} (h : msg.validateBasic bech32 isURL = .ok u) :
    ∀ rule ∈ msg.rules isURL, rule.kept = true := by
  unfold Msg.validateBasic at h
  split at h
  · cases h
  · exact validate_eq_ok_iff.mp h

/-- A message that passes its check has a signer. -/
theorem Msg.creator_of_validateBasic {msg : Msg} (h : msg.validateBasic bech32 isURL = .ok u) :
    ∃ a, bech32.accAddressFromBech32 msg.creator = .ok a := by
  unfold Msg.validateBasic at h
  split at h
  · cases h
  · next a hcreator => exact ⟨a, hcreator⟩

/-- A model that is to be set up by a custom flow comes with the URL of the flow. -/
theorem MsgCreateModel.of_validateBasic {msg : MsgCreateModel}
    (h : (Msg.createModel msg).validateBasic bech32 isURL = .ok u)
    (hflow : msg.commissioningCustomFlow = 2) : msg.commissioningCustomFlowUrl ≠ "" := by
  have hkept := Msg.kept_of_validateBasic h
    (requiredIf "CommissioningCustomFlowUrl" "CommissioningCustomFlow=2"
      (msg.commissioningCustomFlowUrl ≠ "") (msg.commissioningCustomFlow = 2))
    (by simp [Msg.rules, MsgCreateModel.rules])
  simpa [requiredIf, hflow] using hkept

/-- An update asks for a revision within the bounds. -/
theorem MsgUpdateModel.of_validateBasic {msg : MsgUpdateModel}
    (h : (Msg.updateModel msg).validateBasic bech32 isURL = .ok u) :
    msg.lsfRevision.toInt ≤ 65535 := by
  have hkept := Msg.kept_of_validateBasic h (atMost "LsfRevision" msg.lsfRevision.toInt 65535)
    (by simp [Msg.rules, MsgUpdateModel.rules, within])
  simpa [atMost] using hkept

/-- A version that is created has its bounds in order, and with the URL of an image it has the size
and the checksum of the image. -/
theorem MsgCreateModelVersion.of_validateBasic {msg : MsgCreateModelVersion}
    (h : (Msg.createModelVersion msg).validateBasic bech32 isURL = .ok u) :
    msg.minApplicableSoftwareVersion ≤ msg.maxApplicableSoftwareVersion ∧
      (msg.otaUrl ≠ "" → msg.otaFileSize ≠ 0 ∧ msg.otaChecksum ≠ "" ∧ msg.otaChecksumType ≠ 0) := by
  have hkept := Msg.kept_of_validateBasic h
  have hbounds := hkept (atLeastField "MaxApplicableSoftwareVersion" "MinApplicableSoftwareVersion"
    msg.maxApplicableSoftwareVersion.toNat msg.minApplicableSoftwareVersion.toNat)
    (by simp [Msg.rules, MsgCreateModelVersion.rules])
  refine ⟨UInt32.le_iff_toNat_le.mpr (by simpa [atLeastField] using hbounds), ?_⟩
  intro hurl
  have hsize := hkept (requiredWith "OtaFileSize" "OtaUrl" (msg.otaFileSize ≠ 0) (msg.otaUrl ≠ ""))
    (by simp [Msg.rules, MsgCreateModelVersion.rules])
  have hchecksum := hkept
    (requiredWith "OtaChecksum" "OtaUrl" (msg.otaChecksum ≠ "") (msg.otaUrl ≠ ""))
    (by simp [Msg.rules, MsgCreateModelVersion.rules])
  have htype := hkept
    (requiredWith "OtaChecksumType" "OtaUrl" (msg.otaChecksumType ≠ 0) (msg.otaUrl ≠ ""))
    (by simp [Msg.rules, MsgCreateModelVersion.rules])
  exact ⟨by simpa [requiredWith, hurl] using hsize, by simpa [requiredWith, hurl] using hchecksum,
    by simpa [requiredWith, hurl] using htype⟩

/-- An update that gives a maximum gives no minimum above it. -/
theorem MsgUpdateModelVersion.of_validateBasic {msg : MsgUpdateModelVersion}
    (h : (Msg.updateModelVersion msg).validateBasic bech32 isURL = .ok u)
    (hmax : msg.maxApplicableSoftwareVersion ≠ 0) :
    msg.minApplicableSoftwareVersion ≤ msg.maxApplicableSoftwareVersion := by
  have hbounds := Msg.kept_of_validateBasic h
    (atLeastField "MaxApplicableSoftwareVersion" "MinApplicableSoftwareVersion"
      msg.maxApplicableSoftwareVersion.toNat msg.minApplicableSoftwareVersion.toNat)
    (by simp [Msg.rules, MsgUpdateModelVersion.rules, omitEmpty, hmax])
  exact UInt32.le_iff_toNat_le.mpr (by simpa [atLeastField] using hbounds)

end Kept

/-! ## Runs of messages that keep their rules -/

/-- A message about a version keeps its rules. -/
def KeepsVersionRules (bech32 : Bech32) (isURL : String → Bool) : Msg → Prop
  | .createModelVersion msg => (Msg.createModelVersion msg).validateBasic bech32 isURL = .ok ()
  | .updateModelVersion msg => (Msg.updateModelVersion msg).validateBasic bech32 isURL = .ok ()
  | _ => True

/-- A message that creates or updates a model keeps its rules. -/
def KeepsModelRules (bech32 : Bech32) (isURL : String → Bool) : Msg → Prop
  | .createModel msg => (Msg.createModel msg).validateBasic bech32 isURL = .ok ()
  | .updateModel msg => (Msg.updateModel msg).validateBasic bech32 isURL = .ok ()
  | _ => True

/-! ## Single records -/

section Steps

variable {bech32 : Bech32} {s s' : Store} {a : Dclauth.AccountStore × Msg}

/-- **What a step makes of a model**: it stays as it is, is deleted, is created by a message, or is
updated by one that asks for a revision that is allowed. -/
theorem getModel_of_step (hkeyed : Keyed s) (hstep : (models bech32).step s a s') (vid pid : Int32) :
    s'.getModel vid pid = s.getModel vid pid ∨ s'.getModel vid pid = none ∨
      (∃ msg, a.2 = .createModel msg ∧ s.getModel vid pid = none ∧
        s'.getModel vid pid = some msg.model) ∨
      ∃ msg found lsfRevision, a.2 = .updateModel msg ∧ s.getModel vid pid = some found ∧
        msg.newLsfRevision found = .ok lsfRevision ∧
        s'.getModel vid pid = some (msg.model found lsfRevision) := by
  obtain ⟨accounts, msg⟩ := a
  obtain ⟨r, hr⟩ := hstep
  rcases deliver_cases hr with ⟨u, -, hok⟩ | ⟨-, rfl⟩
  · cases msg with
    | createModel msg =>
      cases (handle_ok hok).2 with
      | createModel hnone =>
        rw [getModel_setVendorProduct, getModel_setModel]
        split
        · next heq =>
          obtain ⟨rfl, rfl⟩ := heq
          exact .inr (.inr (.inl ⟨msg, rfl, hnone, rfl⟩))
        · exact .inl rfl
    | updateModel msg =>
      obtain ⟨-, found, lsfRevision, hfound, hrevision, rfl⟩ := updateModel_ok hok
      obtain ⟨hvid, hpid⟩ := hkeyed.of_getModel hfound
      rw [getModel_setVendorProduct, getModel_setModel]
      split
      · next heq =>
        obtain ⟨rfl, rfl⟩ := heq
        rw [← hvid, ← hpid] at hfound
        exact .inr (.inr (.inr ⟨msg, found, lsfRevision, rfl, hfound, hrevision, rfl⟩))
      · exact .inl rfl
    | deleteModel msg =>
      cases (handle_ok hok).2 with
      | deleteModel hfound =>
        rw [getModel_removeVendorProduct, getModel_removeModel]
        split
        · exact .inr (.inl rfl)
        · exact .inl rfl
    | createModelVersion msg =>
      cases (handle_ok hok).2 with
      | createModelVersion => exact .inl (by simp [Store.getModel, Store.setModelVersion])
    | updateModelVersion msg =>
      obtain ⟨-, found, -, -, -, -, rfl⟩ := updateModelVersion_ok hok
      exact .inl rfl
  · exact .inl rfl

/-- **What a step makes of a version**: it stays as it is, is created by a message, or is updated by
one that is in order with what is stored. -/
theorem getModelVersion_of_step (hkeyed : Keyed s) (hstep : (models bech32).step s a s')
    (vid pid : Int32) (sv : UInt32) :
    s'.getModelVersion vid pid sv = s.getModelVersion vid pid sv ∨
      (∃ msg, a.2 = .createModelVersion msg ∧ s.getModelVersion vid pid sv = none ∧
        s'.getModelVersion vid pid sv = some msg.modelVersion) ∨
      ∃ msg found, a.2 = .updateModelVersion msg ∧ s.getModelVersion vid pid sv = some found ∧
        (msg.otaUrl ≠ "" → found.otaUrl ≠ "") ∧
        (msg.minApplicableSoftwareVersion ≠ 0 → msg.maxApplicableSoftwareVersion = 0 →
          msg.minApplicableSoftwareVersion ≤ found.maxApplicableSoftwareVersion) ∧
        (msg.minApplicableSoftwareVersion = 0 → msg.maxApplicableSoftwareVersion ≠ 0 →
          found.minApplicableSoftwareVersion ≤ msg.maxApplicableSoftwareVersion) ∧
        s'.getModelVersion vid pid sv = some (msg.modelVersion found) := by
  obtain ⟨accounts, msg⟩ := a
  obtain ⟨r, hr⟩ := hstep
  rcases deliver_cases hr with ⟨u, -, hok⟩ | ⟨-, rfl⟩
  · cases msg with
    | createModel msg =>
      cases (handle_ok hok).2 with
      | createModel => exact .inl rfl
    | updateModel msg =>
      cases (handle_ok hok).2 with
      | updateModel => exact .inl rfl
    | deleteModel msg =>
      cases (handle_ok hok).2 with
      | deleteModel => exact .inl (by simp [Store.getModelVersion, Store.removeModel])
    | createModelVersion msg =>
      cases (handle_ok hok).2 with
      | createModelVersion _ hnone =>
        rw [getModelVersion_addModelVersion, getModelVersion_setModelVersion]
        split
        · next heq =>
          obtain ⟨rfl, rfl, rfl⟩ := heq
          exact .inr (.inl ⟨msg, rfl, hnone, rfl⟩)
        · exact .inl rfl
    | updateModelVersion msg =>
      obtain ⟨-, found, hfound, hurl, hmin, hmax, rfl⟩ := updateModelVersion_ok hok
      obtain ⟨hvid, hpid, hsv⟩ := hkeyed.of_getModelVersion hfound
      rw [getModelVersion_setModelVersion (msg.modelVersion found)]
      split
      · next heq =>
        obtain ⟨rfl, rfl, rfl⟩ := heq
        rw [← hvid, ← hpid, ← hsv] at hfound
        exact .inr (.inr ⟨msg, found, rfl, hfound, hurl, hmin, hmax, rfl⟩)
      · exact .inl rfl
  · exact .inl rfl

end Steps

end ComplianceLedger.Models
