import ComplianceLedger.Machine.Handler
import ComplianceLedger.Machine.TransitionSystem
import ComplianceLedger.Models.Keeper

/-!
# The models of the ledger: message handlers

The five handlers, and the runs of the module as the deliveries of their messages. Each message finds
the accounts that `dclauth` holds at the time, so that a label is the accounts and a message.

A handler first checks the rights of its signer, then what is stored, and writes at the end. What a
message that is accepted has found and written is stated once, as a `Change`; the later modules use
nothing else of the handlers.

## Main definitions

* `createModel`, `updateModel`, `deleteModel`, `createModelVersion`, `updateModelVersion`: the
  handlers
* `Msg`, `handle`, `models bech32`: the messages and the runs of the module
* `Change s msg s'`: what an accepted message does

## Main results

* `handle_ok`: an accepted message is signed by the vendor and makes its change
* `step_cases`: a step is a change or changes nothing
-/

open Machine Machine.Handler

namespace ComplianceLedger.Models

/-! ## Messages -/

/-- The fields of `MsgCreateModel`. -/
structure MsgCreateModel where
  creator : String
  vid : Int32
  pid : Int32
  deviceTypeId : Int32
  productName : String
  productLabel : String
  partNumber : String
  commissioningCustomFlow : Int32
  commissioningCustomFlowUrl : String
  commissioningModeInitialStepsHint : UInt32
  commissioningModeInitialStepsInstruction : String
  commissioningModeSecondaryStepsHint : UInt32
  commissioningModeSecondaryStepsInstruction : String
  userManualUrl : String
  supportUrl : String
  productUrl : String
  lsfUrl : String
deriving DecidableEq, Repr

/-- The fields of `MsgUpdateModel`. -/
structure MsgUpdateModel where
  creator : String
  vid : Int32
  pid : Int32
  productName : String
  productLabel : String
  partNumber : String
  commissioningCustomFlowUrl : String
  commissioningModeInitialStepsInstruction : String
  commissioningModeSecondaryStepsInstruction : String
  userManualUrl : String
  supportUrl : String
  productUrl : String
  lsfUrl : String
  lsfRevision : Int32
deriving DecidableEq, Repr

/-- The fields of `MsgDeleteModel`. -/
structure MsgDeleteModel where
  creator : String
  vid : Int32
  pid : Int32
deriving DecidableEq, Repr

/-- The fields of `MsgCreateModelVersion`. -/
structure MsgCreateModelVersion where
  creator : String
  vid : Int32
  pid : Int32
  softwareVersion : UInt32
  softwareVersionString : String
  cdVersionNumber : Int32
  firmwareInformation : String
  softwareVersionValid : Bool
  otaUrl : String
  otaFileSize : UInt64
  otaChecksum : String
  otaChecksumType : Int32
  minApplicableSoftwareVersion : UInt32
  maxApplicableSoftwareVersion : UInt32
  releaseNotesUrl : String
deriving DecidableEq, Repr

/-- The fields of `MsgUpdateModelVersion`. -/
structure MsgUpdateModelVersion where
  creator : String
  vid : Int32
  pid : Int32
  softwareVersion : UInt32
  softwareVersionValid : Bool
  otaUrl : String
  minApplicableSoftwareVersion : UInt32
  maxApplicableSoftwareVersion : UInt32
  releaseNotesUrl : String
deriving DecidableEq, Repr

/-- The messages of the module. -/
inductive Msg
  | createModel (msg : MsgCreateModel)
  | updateModel (msg : MsgUpdateModel)
  | deleteModel (msg : MsgDeleteModel)
  | createModelVersion (msg : MsgCreateModelVersion)
  | updateModelVersion (msg : MsgUpdateModelVersion)
deriving DecidableEq, Repr

/-- The text of the signer of a message. -/
def Msg.creator : Msg → String
  | .createModel msg => msg.creator
  | .updateModel msg => msg.creator
  | .deleteModel msg => msg.creator
  | .createModelVersion msg => msg.creator
  | .updateModelVersion msg => msg.creator

/-- The vendor ID that a message is about. -/
def Msg.vid : Msg → Int32
  | .createModel msg => msg.vid
  | .updateModel msg => msg.vid
  | .deleteModel msg => msg.vid
  | .createModelVersion msg => msg.vid
  | .updateModelVersion msg => msg.vid

/-! ## Records from messages -/

/-- The model that a message creates. With a URL of the localized strings their revision is 1. -/
def MsgCreateModel.model (msg : MsgCreateModel) : Model where
  vid := msg.vid
  pid := msg.pid
  deviceTypeId := msg.deviceTypeId
  productName := msg.productName
  productLabel := msg.productLabel
  partNumber := msg.partNumber
  commissioningCustomFlow := msg.commissioningCustomFlow
  commissioningCustomFlowUrl := msg.commissioningCustomFlowUrl
  commissioningModeInitialStepsHint := msg.commissioningModeInitialStepsHint
  commissioningModeInitialStepsInstruction := msg.commissioningModeInitialStepsInstruction
  commissioningModeSecondaryStepsHint := msg.commissioningModeSecondaryStepsHint
  commissioningModeSecondaryStepsInstruction := msg.commissioningModeSecondaryStepsInstruction
  userManualUrl := msg.userManualUrl
  supportUrl := msg.supportUrl
  productUrl := msg.productUrl
  lsfUrl := msg.lsfUrl
  -- the localized strings start with their first revision
  lsfRevision := if msg.lsfUrl ≠ "" then 1 else 0
  creator := msg.creator

/-- The revision of the localized strings that an update asks for. It goes up by one, as a number of
32 bits, or stays. -/
def MsgUpdateModel.newLsfRevision (msg : MsgUpdateModel) (model : Model) : Except SdkError Int32 :=
  if 0 < msg.lsfRevision then
    if msg.lsfUrl = "" ∧ model.lsfUrl = "" then .error newErrLsfRevisionIsNotAllowed
    else if msg.lsfRevision ≠ model.lsfRevision + 1 then
      .error (newErrLsfRevisionIsNotValid model.lsfRevision msg.lsfRevision)
    else .ok msg.lsfRevision
  else .ok model.lsfRevision

/-- The model after an update to this revision. A first URL of the localized strings makes it 1. -/
def MsgUpdateModel.model (msg : MsgUpdateModel) (model : Model) (lsfRevision : Int32) : Model :=
  { model with
    productName := orKeep msg.productName model.productName
    productLabel := orKeep msg.productLabel model.productLabel
    partNumber := orKeep msg.partNumber model.partNumber
    commissioningCustomFlowUrl :=
      orKeep msg.commissioningCustomFlowUrl model.commissioningCustomFlowUrl
    commissioningModeInitialStepsInstruction :=
      orKeep msg.commissioningModeInitialStepsInstruction
        model.commissioningModeInitialStepsInstruction
    commissioningModeSecondaryStepsInstruction :=
      orKeep msg.commissioningModeSecondaryStepsInstruction
        model.commissioningModeSecondaryStepsInstruction
    userManualUrl := orKeep msg.userManualUrl model.userManualUrl
    supportUrl := orKeep msg.supportUrl model.supportUrl
    productUrl := orKeep msg.productUrl model.productUrl
    lsfRevision := if msg.lsfUrl ≠ "" ∧ lsfRevision = 0 then 1 else lsfRevision
    lsfUrl := orKeep msg.lsfUrl model.lsfUrl }

/-- The version that a message creates. -/
def MsgCreateModelVersion.modelVersion (msg : MsgCreateModelVersion) : ModelVersion where
  vid := msg.vid
  pid := msg.pid
  softwareVersion := msg.softwareVersion
  softwareVersionString := msg.softwareVersionString
  cdVersionNumber := msg.cdVersionNumber
  firmwareInformation := msg.firmwareInformation
  softwareVersionValid := msg.softwareVersionValid
  otaUrl := msg.otaUrl
  otaFileSize := msg.otaFileSize
  otaChecksum := msg.otaChecksum
  otaChecksumType := msg.otaChecksumType
  minApplicableSoftwareVersion := msg.minApplicableSoftwareVersion
  maxApplicableSoftwareVersion := msg.maxApplicableSoftwareVersion
  releaseNotesUrl := msg.releaseNotesUrl
  creator := msg.creator

/-- The new value of a bound, which stays as it is when the message leaves it zero. -/
def boundOrKeep (new old : UInt32) : UInt32 := if new ≠ 0 then new else old

/-- The version after an update. The flag is taken over in any case. -/
def MsgUpdateModelVersion.modelVersion (msg : MsgUpdateModelVersion)
    (modelVersion : ModelVersion) : ModelVersion :=
  { modelVersion with
    softwareVersionValid := msg.softwareVersionValid
    otaUrl := orKeep msg.otaUrl modelVersion.otaUrl
    minApplicableSoftwareVersion :=
      boundOrKeep msg.minApplicableSoftwareVersion modelVersion.minApplicableSoftwareVersion
    maxApplicableSoftwareVersion :=
      boundOrKeep msg.maxApplicableSoftwareVersion modelVersion.maxApplicableSoftwareVersion
    releaseNotesUrl := orKeep msg.releaseNotesUrl modelVersion.releaseNotesUrl }

/-! ## Handlers -/

section Handlers

variable (bech32 : Bech32) (accounts : Dclauth.AccountStore)

/-- Does the signer act for the vendor? -/
def checkModelRights (signer : AccAddress) (vid : Int32) (message : String) :
    Except SdkError Unit :=
  accounts.checkVendorRights message "containing" signer vid

/-- What every handler checks first: the signer and the rights of the signer. -/
def checkSigner (creator : String) (vid : Int32) (message : String) :
    Handler SdkError Store Unit := do
  let signerAddr ← ofExcept (bech32.signer creator)
  ofExcept (checkModelRights accounts signerAddr vid message)

def createModel (msg : MsgCreateModel) : Handler SdkError Store Unit := do
  checkSigner bech32 accounts msg.creator msg.vid "MsgCreateModel"
  let found ← read fun s => s.getModel msg.vid msg.pid
  failIf found.isSome (newErrModelAlreadyExists msg.vid msg.pid)
  write (Store.setModel msg.model)
  write (Store.setVendorProduct msg.model.vid msg.model.product)

def updateModel (msg : MsgUpdateModel) : Handler SdkError Store Unit := do
  checkSigner bech32 accounts msg.creator msg.vid "MsgUpdateModel"
  let found ← readSome (fun s => s.getModel msg.vid msg.pid)
    (newErrModelDoesNotExist msg.vid msg.pid)
  let lsfRevision ← ofExcept (msg.newLsfRevision found)
  let model := msg.model found lsfRevision
  write (Store.setModel model)
  -- the index has the name and the part number, which may have changed
  write (Store.setVendorProduct model.vid model.product)

/-- Delete a model. Its versions stay. -/
def deleteModel (msg : MsgDeleteModel) : Handler SdkError Store Unit := do
  checkSigner bech32 accounts msg.creator msg.vid "MsgDeleteModel"
  let _ ← readSome (fun s => s.getModel msg.vid msg.pid) (newErrModelDoesNotExist msg.vid msg.pid)
  -- the record that lists the versions is not written either
  write (Store.removeModel msg.vid msg.pid)
  write (Store.removeVendorProduct msg.vid msg.pid)

def createModelVersion (msg : MsgCreateModelVersion) : Handler SdkError Store Unit := do
  checkSigner bech32 accounts msg.creator msg.vid "MsgCreateModelVersion"
  let _ ← readSome (fun s => s.getModel msg.vid msg.pid) (newErrModelDoesNotExist msg.vid msg.pid)
  let found ← read fun s => s.getModelVersion msg.vid msg.pid msg.softwareVersion
  failIf found.isSome (newErrModelVersionAlreadyExists msg.vid msg.pid msg.softwareVersion)
  write (Store.setModelVersion msg.modelVersion)
  write (Store.addModelVersion msg.vid msg.pid msg.softwareVersion)

/-- Update a version. The model is not looked up, and missing rights are reported under the name of
the creating message. -/
def updateModelVersion (msg : MsgUpdateModelVersion) : Handler SdkError Store Unit := do
  checkSigner bech32 accounts msg.creator msg.vid "MsgCreateModelVersion"
  let found ← readSome (fun s => s.getModelVersion msg.vid msg.pid msg.softwareVersion)
    (newErrModelVersionDoesNotExist msg.vid msg.pid msg.softwareVersion)
  failIf (msg.otaUrl ≠ "" ∧ found.otaUrl = "")
    (newErrOtaURLCannotBeSet msg.vid msg.pid msg.softwareVersion)
  -- a bound that the message leaves out is the stored one
  failIf (msg.minApplicableSoftwareVersion ≠ 0 ∧ msg.maxApplicableSoftwareVersion = 0 ∧
      found.maxApplicableSoftwareVersion < msg.minApplicableSoftwareVersion)
    (newErrMaxSVLessThanMinSV msg.minApplicableSoftwareVersion found.maxApplicableSoftwareVersion)
  failIf (msg.minApplicableSoftwareVersion = 0 ∧ msg.maxApplicableSoftwareVersion ≠ 0 ∧
      msg.maxApplicableSoftwareVersion < found.minApplicableSoftwareVersion)
    (newErrMaxSVLessThanMinSV found.minApplicableSoftwareVersion msg.maxApplicableSoftwareVersion)
  write (Store.setModelVersion (msg.modelVersion found))

/-- The handler of a message. -/
def handle : Msg → Handler SdkError Store Unit
  | .createModel msg => createModel bech32 accounts msg
  | .updateModel msg => updateModel bech32 accounts msg
  | .deleteModel msg => deleteModel bech32 accounts msg
  | .createModelVersion msg => createModelVersion bech32 accounts msg
  | .updateModelVersion msg => updateModelVersion bech32 accounts msg

end Handlers

/-! ## Accepted messages -/

/-- What an accepted message has found and written. -/
inductive Change (s : Store) : Msg → Store → Prop
  | createModel {msg : MsgCreateModel} (hmodel : s.getModel msg.vid msg.pid = none) :
    Change s (.createModel msg)
      ((s.setModel msg.model).setVendorProduct msg.vid msg.model.product)
  | updateModel {msg : MsgUpdateModel} {found : Model} {lsfRevision : Int32}
      (hfound : s.getModel msg.vid msg.pid = some found) :
    Change s (.updateModel msg) ((s.setModel (msg.model found lsfRevision)).setVendorProduct
      found.vid (msg.model found lsfRevision).product)
  | deleteModel {msg : MsgDeleteModel} {found : Model}
      (hfound : s.getModel msg.vid msg.pid = some found) :
    Change s (.deleteModel msg)
      ((s.removeModel msg.vid msg.pid).removeVendorProduct msg.vid msg.pid)
  | createModelVersion {msg : MsgCreateModelVersion} {model : Model}
      (hmodel : s.getModel msg.vid msg.pid = some model)
      (hversion : s.getModelVersion msg.vid msg.pid msg.softwareVersion = none) :
    Change s (.createModelVersion msg) ((s.setModelVersion msg.modelVersion).addModelVersion
      msg.vid msg.pid msg.softwareVersion)
  | updateModelVersion {msg : MsgUpdateModelVersion} {found : ModelVersion}
      (hfound : s.getModelVersion msg.vid msg.pid msg.softwareVersion = some found) :
    Change s (.updateModelVersion msg) (s.setModelVersion (msg.modelVersion found))

section Inversion

variable {bech32 : Bech32} {accounts : Dclauth.AccountStore} {s s' : Store} {u : Unit}

/-- The check of the signer is passed by the vendor, and writes nothing. -/
theorem checkSigner_ok_iff {creator : String} {vid : Int32} {message : String} :
    checkSigner bech32 accounts creator vid message s = some (.ok u, s') ↔
      accounts.SignedByVendor bech32 creator vid.toInt ∧ s = s' := by
  simp only [checkSigner, ofExcept_bind_ok_iff, ofExcept_ok_iff, Bech32.signer_eq_ok_iff,
    checkModelRights, Dclauth.AccountStore.checkVendorRights_eq_ok_iff,
    Dclauth.AccountStore.signedByVendor_iff, exists_and_right, ← and_assoc]

/-- The rest of a handler runs when its signer is the vendor. -/
theorem checkSigner_bind_ok_iff {creator : String} {vid : Int32} {message : String}
    {rest : Handler SdkError Store Unit} :
    (checkSigner bech32 accounts creator vid message >>= fun _ => rest) s = some (.ok u, s') ↔
      accounts.SignedByVendor bech32 creator vid.toInt ∧ rest s = some (.ok u, s') := by
  rw [bind_ok_iff]
  simp only [checkSigner_ok_iff]
  constructor
  · rintro ⟨-, s₁, ⟨hsigned, rfl⟩, hrest⟩
    exact ⟨hsigned, hrest⟩
  · exact fun h => ⟨(), s, ⟨h.1, rfl⟩, h.2⟩

/-- An accepted update of a model has found it, and asks for a revision that is allowed. -/
theorem updateModel_ok {msg : MsgUpdateModel}
    (h : updateModel bech32 accounts msg s = some (.ok u, s')) :
    accounts.SignedByVendor bech32 msg.creator msg.vid.toInt ∧
      ∃ found lsfRevision, s.getModel msg.vid msg.pid = some found ∧
        msg.newLsfRevision found = .ok lsfRevision ∧
        s' = (s.setModel (msg.model found lsfRevision)).setVendorProduct found.vid
          (msg.model found lsfRevision).product := by
  simp only [updateModel, checkSigner_bind_ok_iff, readSome_bind_ok_iff, ofExcept_bind_ok_iff,
    write_bind_ok_iff, write_ok_iff] at h
  obtain ⟨hsigned, found, hfound, lsfRevision, hrevision, rfl⟩ := h
  exact ⟨hsigned, found, lsfRevision, hfound, hrevision, rfl⟩

/-- An accepted update of a version has found it. It sets no URL of an image where there was none, and
a bound that comes alone is in order with the stored one. -/
theorem updateModelVersion_ok {msg : MsgUpdateModelVersion}
    (h : updateModelVersion bech32 accounts msg s = some (.ok u, s')) :
    accounts.SignedByVendor bech32 msg.creator msg.vid.toInt ∧
      ∃ found, s.getModelVersion msg.vid msg.pid msg.softwareVersion = some found ∧
        (msg.otaUrl ≠ "" → found.otaUrl ≠ "") ∧
        (msg.minApplicableSoftwareVersion ≠ 0 → msg.maxApplicableSoftwareVersion = 0 →
          msg.minApplicableSoftwareVersion ≤ found.maxApplicableSoftwareVersion) ∧
        (msg.minApplicableSoftwareVersion = 0 → msg.maxApplicableSoftwareVersion ≠ 0 →
          found.minApplicableSoftwareVersion ≤ msg.maxApplicableSoftwareVersion) ∧
        s' = s.setModelVersion (msg.modelVersion found) := by
  simp only [updateModelVersion, checkSigner_bind_ok_iff, readSome_bind_ok_iff, failIf_bind_ok_iff,
    write_ok_iff] at h
  obtain ⟨hsigned, found, hfound, hurl, hmin, hmax, rfl⟩ := h
  refine ⟨hsigned, found, hfound, fun hgiven hnone => hurl ⟨hgiven, hnone⟩, ?_, ?_, rfl⟩
  · intro hgiven hleft
    exact UInt32.not_lt.mp fun hlt => hmin ⟨hgiven, hleft, hlt⟩
  · intro hleft hgiven
    exact UInt32.not_lt.mp fun hlt => hmax ⟨hleft, hgiven, hlt⟩

/-- **An accepted message** is signed by the vendor it is about, and makes its change. -/
theorem handle_ok {msg : Msg} (h : handle bech32 accounts msg s = some (.ok u, s')) :
    accounts.SignedByVendor bech32 msg.creator msg.vid.toInt ∧ Change s msg s' := by
  cases msg with
  | createModel msg =>
    simp only [handle, createModel, checkSigner_bind_ok_iff, read_bind_ok_iff, failIf_bind_ok_iff,
      write_bind_ok_iff, write_ok_iff] at h
    obtain ⟨hsigned, hmodel, rfl⟩ := h
    exact ⟨hsigned, .createModel (by simpa using hmodel)⟩
  | updateModel msg =>
    obtain ⟨hsigned, found, lsfRevision, hfound, -, rfl⟩ := updateModel_ok h
    exact ⟨hsigned, .updateModel hfound⟩
  | deleteModel msg =>
    simp only [handle, deleteModel, checkSigner_bind_ok_iff, readSome_bind_ok_iff,
      write_bind_ok_iff, write_ok_iff] at h
    obtain ⟨hsigned, found, hfound, rfl⟩ := h
    exact ⟨hsigned, .deleteModel hfound⟩
  | createModelVersion msg =>
    simp only [handle, createModelVersion, checkSigner_bind_ok_iff, readSome_bind_ok_iff,
      read_bind_ok_iff, failIf_bind_ok_iff, write_bind_ok_iff, write_ok_iff] at h
    obtain ⟨hsigned, model, hmodel, hversion, rfl⟩ := h
    exact ⟨hsigned, .createModelVersion hmodel (by simpa using hversion)⟩
  | updateModelVersion msg =>
    obtain ⟨hsigned, found, hfound, -, -, -, rfl⟩ := updateModelVersion_ok h
    exact ⟨hsigned, .updateModelVersion hfound⟩

end Inversion

/-! ## The runs of the module -/

/-- The runs of the module from an empty store: deliveries of messages, each with the accounts of its
time. -/
def models (bech32 : Bech32) : TransitionSystem Store (Dclauth.AccountStore × Msg) where
  init := Store.empty
  step s a s' := ∃ r, (handle bech32 a.1 a.2).deliver s = some (r, s')

/-- Execute a step. -/
def next (bech32 : Bech32) (s : Store) (a : Dclauth.AccountStore × Msg) : Option Store :=
  ((handle bech32 a.1 a.2).deliver s).map Prod.snd

theorem step_of_next {bech32 : Bech32} {s s' : Store} {a : Dclauth.AccountStore × Msg}
    (h : next bech32 s a = some s') : (models bech32).step s a s' := by
  obtain ⟨⟨r, s₁⟩, hdeliver, rfl⟩ := Option.map_eq_some_iff.mp h
  exact ⟨r, hdeliver⟩

/-- **The effect of a step**: nothing, or the change of a message that the vendor has signed. -/
theorem step_cases {bech32 : Bech32} {s s' : Store} {a : Dclauth.AccountStore × Msg}
    (h : (models bech32).step s a s') :
    s' = s ∨ (a.1.SignedByVendor bech32 a.2.creator a.2.vid.toInt ∧ Change s a.2 s') := by
  obtain ⟨r, hr⟩ := h
  rcases deliver_cases hr with ⟨u, -, hok⟩ | ⟨-, rfl⟩
  · exact .inr (handle_ok hok)
  · exact .inl rfl

/-! ## Messages of a vendor

The messages of the concrete runs in the later modules: those of the vendor with the ID 10. -/

/-- The codec of a vendor and a certification center. -/
def exampleCodec : Bech32 := Bech32.ofTexts ["cosmos1vendor", "cosmos1center"] (by decide)

/-- The accounts of the vendor with the ID 10 and of a certification center. -/
def exampleAccounts : Dclauth.AccountStore :=
  (KVStore.empty.set (Dclauth.accountKey (utf8 "cosmos1vendor"))
    { Dclauth.exampleAccount "cosmos1vendor" [.vendor] with vendorID := 10 }).set
    (Dclauth.accountKey (utf8 "cosmos1center"))
    (Dclauth.exampleAccount "cosmos1center" [.certificationCenter])

def exampleCreate (pid : Int32) (name partNumber : String) : Msg :=
  .createModel ⟨"cosmos1vendor", 10, pid, 1, name, name, partNumber, 0, "", 0, "", 0, "", "", "", "", ""⟩

def exampleRename (pid : Int32) (name : String) : Msg :=
  .updateModel ⟨"cosmos1vendor", 10, pid, name, "", "", "", "", "", "", "", "", "", 0⟩

def exampleDelete (pid : Int32) : Msg := .deleteModel ⟨"cosmos1vendor", 10, pid⟩

def exampleVersion (pid : Int32) (softwareVersion : UInt32) (softwareVersionString : String) : Msg :=
  .createModelVersion ⟨"cosmos1vendor", 10, pid, softwareVersion, softwareVersionString, 1, "", true,
    "", 0, "", 0, 0, 0, ""⟩

end ComplianceLedger.Models
