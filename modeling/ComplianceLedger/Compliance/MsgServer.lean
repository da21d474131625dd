import ComplianceLedger.Compliance.Keeper
import ComplianceLedger.Models.MsgServer
import ComplianceLedger.Sdk.Validate

/-!
# The compliance of models: messages and handlers

A certification center makes a software version of a product provisional, certifies it or revokes it.
The messages are checked by rules on their fields first. The handlers look up the signer among the
accounts and, to certify and to revoke, the version among the models; a label of a run is the accounts,
the models and the message.

Dates are texts, and `parse` reads one as an instant, if it is in the format of RFC 3339. It is a
parameter: nothing is assumed of it.

## Main definitions

* `MsgDeclareModel`, `MsgRevokeModel`, `Msg`: the messages; `validateBasic`: their rules
* `provisionModel`, `certifyModel`, `revokeModel`: the handlers
* `handle`, `compliance bech32 parse`: the runs of the module; `checked bech32 parse`: those of messages
  that keep their rules
* `Change parse ctx s msg s'`: what an accepted message does

## Main results

* `handle_ok`: an accepted message makes its change
* `step_cases`: a step is a change or changes nothing
-/

open Machine Machine.Handler

namespace ComplianceLedger.Compliance

/-! ## Messages -/

/-- The fields of `MsgProvisionModel` and of `MsgCertifyModel`; `date` is the `ProvisionalDate` of the
one and the `CertificationDate` of the other. -/
structure MsgDeclareModel extends Subject where
  signer : String
  softwareVersionString : String
  cDVersionNumber : UInt32
  date : String
  reason : String
  programTypeVersion : String
  cDCertificateId : String
  familyId : String
  supportedClusters : String
  compliantPlatformUsed : String
  compliantPlatformVersion : String
  oSVersion : String
  certificationRoute : String
  programType : String
  transport : String
  parentChild : String
deriving DecidableEq, Repr

/-- The fields of `MsgRevokeModel`; `date` is the `RevocationDate`. -/
structure MsgRevokeModel extends Subject where
  signer : String
  softwareVersionString : String
  cDVersionNumber : UInt32
  date : String
  reason : String
deriving DecidableEq, Repr

/-- The messages of the module. -/
inductive Msg
  | provisionModel (msg : MsgDeclareModel)
  | certifyModel (msg : MsgDeclareModel)
  | revokeModel (msg : MsgRevokeModel)
deriving DecidableEq, Repr

/-- What a message is about. -/
def Msg.subject : Msg → Subject
  | .provisionModel msg => msg.toSubject
  | .certifyModel msg => msg.toSubject
  | .revokeModel msg => msg.toSubject

/-! ## Errors -/

def errInconsistentDates : RegisteredError := ⟨"compliance", 302, "inconsistent dates"⟩

def errAlreadyCertified : RegisteredError := ⟨"compliance", 303, "model already certified"⟩

def errAlreadyRevoked : RegisteredError := ⟨"compliance", 304, "model already revoked"⟩

def errAlreadyProvisional : RegisteredError :=
  ⟨"compliance", 305, "model already in provisional state"⟩

def errModelVersionStringDoesNotMatch : RegisteredError :=
  ⟨"compliance", 306, "model version does not match"⟩

def errInvalidTestDateFormat : RegisteredError :=
  ⟨"compliance", 307, "test date must be in RFC3339 format"⟩

def errInvalidCertificationType : RegisteredError :=
  ⟨"compliance", 308, "invalid certification type"⟩

def errInvalidPFCCertificationRoute : RegisteredError :=
  ⟨"compliance", 309, "invalid PFC certification route"⟩

/-- How the errors name a subject. -/
def Subject.text (x : Subject) : String :=
  "Model with vid=" ++ toString x.vid ++ ", pid=" ++ toString x.pid ++ ", softwareVersion=" ++
    toString x.softwareVersion ++ ", certificationType=" ++ x.certificationType

def newErrInconsistentDates (err : String) : SdkError := ⟨errInconsistentDates, err⟩

def newErrAlreadyCertified (x : Subject) : SdkError :=
  ⟨errAlreadyCertified, x.text ++ " already certified on the ledger"⟩

def newErrAlreadyRevoked (x : Subject) : SdkError :=
  ⟨errAlreadyRevoked, x.text ++ " already revoked on the ledger"⟩

def newErrAlreadyProvisional (x : Subject) : SdkError :=
  ⟨errAlreadyProvisional, x.text ++ " is already in provisional state on the ledger"⟩

/-- The source returns this under the error of a revoked model. -/
def newErrComplianceInfoAlreadyExist (x : Subject) : SdkError :=
  ⟨errAlreadyRevoked, x.text ++ " already has compliance info on the ledger"⟩

def newErrModelVersionStringDoesNotMatch (x : Subject) (softwareVersionString : String) : SdkError :=
  ⟨errModelVersionStringDoesNotMatch, "Model with vid=" ++ toString x.vid ++ ", pid=" ++
    toString x.pid ++ ", softwareVersion=" ++ toString x.softwareVersion ++
    " present on the ledger does not have matching softwareVersionString=" ++
    softwareVersionString⟩

def newErrInvalidTestDateFormat (testDate : String) : SdkError :=
  ⟨errInvalidTestDateFormat, "Invalid TestDate \"" ++ testDate ++
    "\": it must be RFC3339 encoded date, for example 2019-10-12T07:20:50.52Z"⟩

def newErrInvalidCertificationType (certType : String) : SdkError :=
  ⟨errInvalidCertificationType, "Invalid CertificationType: \"" ++ certType ++
    "\". Supported types: [[zigbee matter access control product security]]"⟩

def newErrInvalidPFCCertificationRoute (certRoute : String) : SdkError :=
  ⟨errInvalidPFCCertificationRoute, "Invalid PFCCertificationRoute: \"" ++ certRoute ++
    "\". Supported types: [[parent child ]]"⟩

/-! ## The rules of the messages -/

def certificationTypesList : List String :=
  ["zigbee", "matter", "access control", "product security"]

def pfcCertificationRouteList : List String := ["parent", "child", ""]

section Rules

variable (bech32 : Bech32) (parse : String → Option ℤ)

/-- The rules of the fields that all messages have up to the reason, in their order. The date has a
name of its own in each of them. -/
def commonRules (x : Subject) (signer softwareVersionString dateField date reason : String)
    (cDVersionNumber : UInt32) : List Rule :=
  [required "Signer" signer] ++ within "Vid" x.vid.toInt 1 65535 ++
    within "Pid" x.pid.toInt 1 65535 ++
    [required "SoftwareVersionString" softwareVersionString,
      maxLength "SoftwareVersionString" softwareVersionString 64] ++
    within "CDVersionNumber" cDVersionNumber.toNat 0 65535 ++
    [required dateField date, required "CertificationType" x.certificationType,
      maxLength "CertificationType" x.certificationType 100, maxLength "Reason" reason 102400]

/-- The rules of the fields of a message that declares a model provisional or certified. -/
def MsgDeclareModel.rules (msg : MsgDeclareModel) (dateField : String) : List Rule :=
  commonRules msg.toSubject msg.signer msg.softwareVersionString dateField msg.date msg.reason
      msg.cDVersionNumber ++
    [maxLength "ProgramTypeVersion" msg.programTypeVersion 64,
      required "CDCertificateId" msg.cDCertificateId,
      maxLength "CDCertificateId" msg.cDCertificateId 64,
      maxLength "FamilyId" msg.familyId 64,
      maxLength "SupportedClusters" msg.supportedClusters 64,
      maxLength "CompliantPlatformUsed" msg.compliantPlatformUsed 64,
      maxLength "CompliantPlatformVersion" msg.compliantPlatformVersion 64,
      maxLength "OSVersion" msg.oSVersion 64,
      maxLength "CertificationRoute" msg.certificationRoute 64,
      maxLength "ProgramType" msg.programType 64,
      maxLength "Transport" msg.transport 64,
      maxLength "ParentChild" msg.parentChild 64]

/-- What the rules of all messages begin and end with: the signer, the fields, the date and the type of
certification. -/
def checkBasic (rules : List Rule) (x : Subject) (signer date : String) : Except SdkError Unit :=
  match bech32.accAddressFromBech32 signer with
  | .error e => .error ⟨errInvalidAddress, "invalid signer address (" ++ e ++ ")"⟩
  | .ok _ =>
    match validate rules with
    | .error e => .error e
    | .ok _ =>
      if parse date = none then .error (newErrInvalidTestDateFormat date)
      else if x.certificationType ∉ certificationTypesList then
        .error (newErrInvalidCertificationType x.certificationType)
      else .ok ()

/-- The check of a message that declares a model provisional or certified. -/
def MsgDeclareModel.validateBasic (msg : MsgDeclareModel) (dateField : String) :
    Except SdkError Unit :=
  match checkBasic bech32 parse (msg.rules dateField) msg.toSubject msg.signer msg.date with
  | .error e => .error e
  | .ok _ =>
    if msg.parentChild ∉ pfcCertificationRouteList then
      .error (newErrInvalidPFCCertificationRoute msg.parentChild)
    else .ok ()

def MsgRevokeModel.validateBasic (msg : MsgRevokeModel) : Except SdkError Unit :=
  checkBasic bech32 parse
    (commonRules msg.toSubject msg.signer msg.softwareVersionString "RevocationDate" msg.date
      msg.reason msg.cDVersionNumber)
    msg.toSubject msg.signer msg.date

/-- The check of a message before it is executed. -/
def Msg.validateBasic : Msg → Except SdkError Unit
  | .provisionModel msg => msg.validateBasic bech32 parse "ProvisionalDate"
  | .certifyModel msg => msg.validateBasic bech32 parse "CertificationDate"
  | .revokeModel msg => msg.validateBasic bech32 parse

end Rules

/-- The text of the signer of a message. -/
def Msg.signer : Msg → String
  | .provisionModel msg | .certifyModel msg => msg.signer
  | .revokeModel msg => msg.signer

section Signers

variable {bech32 : Bech32} {parse : String → Option ℤ} {u : Unit}

theorem signer_of_checkBasic {rules : List Rule} {x : Subject} {signer date : String}
    (h : checkBasic bech32 parse rules x signer date = .ok u) :
    ∃ a, bech32.accAddressFromBech32 signer = .ok a := by
  unfold checkBasic at h
  cases hsigner : bech32.accAddressFromBech32 signer with
  | ok a => exact ⟨a, rfl⟩
  | error e =>
    rw [hsigner] at h
    cases h

/-- A message that passes its check has a signer. -/
theorem Msg.signer_of_validateBasic {msg : Msg} (h : msg.validateBasic bech32 parse = .ok u) :
    ∃ a, bech32.accAddressFromBech32 msg.signer = .ok a := by
  cases msg with
  | provisionModel msg | certifyModel msg =>
    rw [Msg.validateBasic, MsgDeclareModel.validateBasic] at h
    split at h
    · cases h
    · next hbasic => exact signer_of_checkBasic hbasic
  | revokeModel msg => exact signer_of_checkBasic h

end Signers

/-! ## Records from messages -/

/-- The record that makes a subject provisional. -/
def MsgDeclareModel.provisionalInfo (msg : MsgDeclareModel) : ComplianceInfo where
  toSubject := msg.toSubject
  softwareVersionString := msg.softwareVersionString
  cDVersionNumber := msg.cDVersionNumber
  softwareVersionCertificationStatus := codeProvisional
  date := msg.date
  reason := msg.reason
  owner := msg.signer
  history := []
  cDCertificateId := msg.cDCertificateId
  certificationRoute := msg.certificationRoute
  programType := msg.programType
  programTypeVersion := msg.programTypeVersion
  compliantPlatformUsed := msg.compliantPlatformUsed
  compliantPlatformVersion := msg.compliantPlatformVersion
  transport := msg.transport
  familyId := msg.familyId
  supportedClusters := msg.supportedClusters
  oSVersion := msg.oSVersion
  parentChild := msg.parentChild

/-- The record of a subject that has none, when it is certified. -/
def MsgDeclareModel.newCertifiedInfo (msg : MsgDeclareModel) : ComplianceInfo where
  toSubject := msg.toSubject
  softwareVersionString := msg.softwareVersionString
  cDVersionNumber := msg.cDVersionNumber
  softwareVersionCertificationStatus := codeCertified
  date := msg.date
  reason := msg.reason
  owner := msg.signer
  history := []
  cDCertificateId := msg.cDCertificateId
  certificationRoute := ""
  programType := ""
  programTypeVersion := ""
  compliantPlatformUsed := ""
  compliantPlatformVersion := ""
  transport := ""
  familyId := ""
  supportedClusters := ""
  oSVersion := ""
  parentChild := ""

/-- The optional fields of a message that certifies, where they are not empty. -/
def ComplianceInfo.setOptionalFields (msg : MsgDeclareModel) (d : ComplianceInfo) :
    ComplianceInfo :=
  { d with
    programTypeVersion := orKeep msg.programTypeVersion d.programTypeVersion
    familyId := orKeep msg.familyId d.familyId
    supportedClusters := orKeep msg.supportedClusters d.supportedClusters
    compliantPlatformUsed := orKeep msg.compliantPlatformUsed d.compliantPlatformUsed
    compliantPlatformVersion := orKeep msg.compliantPlatformVersion d.compliantPlatformVersion
    oSVersion := orKeep msg.oSVersion d.oSVersion
    certificationRoute := orKeep msg.certificationRoute d.certificationRoute
    programType := orKeep msg.programType d.programType
    transport := orKeep msg.transport d.transport
    parentChild := orKeep msg.parentChild d.parentChild }

/-- The record of a subject that has none, when it is revoked. It has no certificate. -/
def MsgRevokeModel.newRevokedInfo (msg : MsgRevokeModel) : ComplianceInfo where
  toSubject := msg.toSubject
  softwareVersionString := msg.softwareVersionString
  cDVersionNumber := msg.cDVersionNumber
  softwareVersionCertificationStatus := codeRevoked
  date := msg.date
  reason := msg.reason
  owner := msg.signer
  history := []
  cDCertificateId := ""
  certificationRoute := ""
  programType := ""
  programTypeVersion := ""
  compliantPlatformUsed := ""
  compliantPlatformVersion := ""
  transport := ""
  familyId := ""
  supportedClusters := ""
  oSVersion := ""
  parentChild := ""

section Dates

variable (parse : String → Option ℤ)

/-- The date of a new state is not before that of the present one. -/
def checkDates (new old err : String) : Except SdkError Unit :=
  match parse new with
  | none => .error (newErrInvalidTestDateFormat new)
  | some newDate =>
    match parse old with
    | none => .error (newErrInvalidTestDateFormat old)
    | some oldDate => if newDate < oldDate then .error (newErrInconsistentDates err) else .ok ()

/-- The record of a subject when it is certified. A record that exists keeps its owner, its software
version string and its CD version number. -/
def MsgDeclareModel.certifiedInfo (msg : MsgDeclareModel) :
    Option ComplianceInfo → Except SdkError ComplianceInfo
  | none => .ok (msg.newCertifiedInfo.setOptionalFields msg)
  | some d =>
    if d.softwareVersionCertificationStatus = codeCertified then
      .error (newErrAlreadyCertified msg.toSubject)
    else
      match checkDates parse msg.date d.date ("The `certification_date`:" ++ msg.date ++
        " must be after the current `date`:" ++ d.date ++ " to certify model") with
      | .error e => .error e
      | .ok _ =>
        .ok ((d.setCertifiedStatus msg.date msg.reason msg.cDCertificateId).setOptionalFields msg)

/-- The record of a subject that has one, when it is revoked. -/
def MsgRevokeModel.revokedInfo (msg : MsgRevokeModel) (d : ComplianceInfo) :
    Except SdkError ComplianceInfo :=
  if d.softwareVersionCertificationStatus = codeRevoked then
    .error (newErrAlreadyRevoked msg.toSubject)
  else
    match checkDates parse msg.date d.date ("The `revocation_date`:" ++ msg.date ++
      " must be after the `certification_date`:" ++ d.date ++ " to revoke model") with
    | .error e => .error e
    | .ok _ => .ok (d.setRevokedStatus msg.date msg.reason)

end Dates

/-! ## The records of a certificate -/

namespace Store

/-- Add a record to those of the certificate of a message. -/
def addToCertificate (msg : MsgDeclareModel) (info : ComplianceInfo) (s : Store) : Store :=
  s.setDeviceSoftwareCompliance
    (match s.getDeviceSoftwareCompliance msg.cDCertificateId with
    | some m => { m with complianceInfo := m.complianceInfo ++ [info] }
    | none => ⟨msg.cDCertificateId, [info]⟩)

/-- What is left of the records of a certificate when one is revoked. Without a certificate the source
goes on with an empty one, which has an empty ID. -/
def withoutRevoked (msg : MsgRevokeModel) (info : ComplianceInfo) (s : Store) :
    DeviceSoftwareCompliance :=
  match s.getDeviceSoftwareCompliance info.cDCertificateId with
  | some m =>
    -- the search does not look at the type of the certification
    match m.isComplianceInfoExist msg.toSubject msg.softwareVersionString with
    | some index => m.removeComplianceInfo index
    | none => m
  | none => ⟨"", []⟩

/-- Remove a record from those of its certificate. The certificate is removed with the last one. -/
def removeFromCertificate (msg : MsgRevokeModel) (info : ComplianceInfo) (s : Store) : Store :=
  let m := s.withoutRevoked msg info
  let s := s.setDeviceSoftwareCompliance m
  if m.complianceInfo.length = 0 then s.removeDeviceSoftwareCompliance m.cDCertificateId else s

end Store

/-! ## Handlers -/

/-- What a handler reads of the other modules. -/
structure Context where
  accounts : Dclauth.AccountStore
  models : Models.Store

/-- The version that a subject is about. -/
def Context.getModelVersion (ctx : Context) (x : Subject) : Option Models.ModelVersion :=
  ctx.models.getModelVersion x.vid x.pid x.softwareVersion

section Handlers

variable (bech32 : Bech32) (parse : String → Option ℤ) (ctx : Context)

/-- What every handler checks first: the signer and the role of the signer. -/
def checkSigner (signer : String) : Handler SdkError Store Unit := do
  let signerAddr ← ofExcept (bech32.signer signer)
  failIf (ctx.accounts.hasRole signerAddr .certificationCenter = false)
    ⟨errUnauthorized, "MsgAddTestingResult transaction should be signed by an account with the " ++
      Dclauth.AccountRole.certificationCenter.name ++ " role"⟩

/-- What certifying and revoking check next: the version is on the ledger, under this string. -/
def checkModelVersion (x : Subject) (softwareVersionString : String) :
    Handler SdkError Store Unit := do
  let modelVersion ← readSome (fun _ => ctx.getModelVersion x)
    (Models.newErrModelVersionDoesNotExist x.vid x.pid x.softwareVersion)
  failIf (modelVersion.softwareVersionString ≠ softwareVersionString)
    (newErrModelVersionStringDoesNotMatch x softwareVersionString)

/-- Make a subject provisional. The version is not looked up. -/
def provisionModel (msg : MsgDeclareModel) : Handler SdkError Store Unit := do
  checkSigner bech32 ctx msg.signer
  let found ← read fun s => s.getComplianceInfo msg.toSubject
  match found with
  | some info =>
    if info.softwareVersionCertificationStatus = codeProvisional then
      fail (newErrAlreadyProvisional msg.toSubject)
    else if info.softwareVersionCertificationStatus = codeCertified then
      fail (newErrAlreadyCertified msg.toSubject)
    else if info.softwareVersionCertificationStatus = codeRevoked then
      fail (newErrAlreadyRevoked msg.toSubject)
    else fail (newErrComplianceInfoAlreadyExist msg.toSubject)
  | none =>
    write (Store.setComplianceInfo msg.provisionalInfo)
    write (Store.setProvisionalModel ⟨msg.toSubject, true⟩)

def certifyModel (msg : MsgDeclareModel) : Handler SdkError Store Unit := do
  checkSigner bech32 ctx msg.signer
  checkModelVersion ctx msg.toSubject msg.softwareVersionString
  let found ← read fun s => s.getComplianceInfo msg.toSubject
  let info ← ofExcept (msg.certifiedInfo parse found)
  write (Store.setComplianceInfo info)
  -- the record is appended, also if the certificate has one of the same version
  write (Store.addToCertificate msg info)
  write (Store.setCertifiedModel ⟨msg.toSubject, true⟩)
  write (Store.setRevokedModel ⟨msg.toSubject, false⟩)
  write (Store.setProvisionalModel ⟨msg.toSubject, false⟩)

def revokeModel (msg : MsgRevokeModel) : Handler SdkError Store Unit := do
  checkSigner bech32 ctx msg.signer
  checkModelVersion ctx msg.toSubject msg.softwareVersionString
  let found ← read fun s => s.getComplianceInfo msg.toSubject
  match found with
  | some d =>
    let info ← ofExcept (msg.revokedInfo parse d)
    -- the certificate is that of the record, and not one of the message
    write (Store.removeFromCertificate msg info)
    write (Store.setCertifiedModel ⟨msg.toSubject, false⟩)
    write (Store.setProvisionalModel ⟨msg.toSubject, false⟩)
    write (Store.setComplianceInfo info)
    write (Store.setRevokedModel ⟨msg.toSubject, true⟩)
  | none =>
    -- a version can be revoked without having been certified on the ledger
    write (Store.setComplianceInfo msg.newRevokedInfo)
    write (Store.setRevokedModel ⟨msg.toSubject, true⟩)

/-- The handler of a message. -/
def handle : Msg → Handler SdkError Store Unit
  | .provisionModel msg => provisionModel bech32 ctx msg
  | .certifyModel msg => certifyModel bech32 parse ctx msg
  | .revokeModel msg => revokeModel bech32 parse ctx msg

end Handlers

/-! ## Accepted messages -/

/-- What an accepted message has found and written. -/
inductive Change (parse : String → Option ℤ) (ctx : Context) (s : Store) : Msg → Store → Prop
  | provisioned {msg : MsgDeclareModel} (hnone : s.getComplianceInfo msg.toSubject = none) :
    Change parse ctx s (.provisionModel msg)
      ((s.setComplianceInfo msg.provisionalInfo).setProvisionalModel ⟨msg.toSubject, true⟩)
  | certified {msg : MsgDeclareModel} {version : Models.ModelVersion} {info : ComplianceInfo}
      (hversion : ctx.getModelVersion msg.toSubject = some version)
      (hstring : version.softwareVersionString = msg.softwareVersionString)
      (hinfo : msg.certifiedInfo parse (s.getComplianceInfo msg.toSubject) = .ok info) :
    Change parse ctx s (.certifyModel msg)
      (((((s.setComplianceInfo info).addToCertificate msg info).setCertifiedModel
        ⟨msg.toSubject, true⟩).setRevokedModel ⟨msg.toSubject, false⟩).setProvisionalModel
        ⟨msg.toSubject, false⟩)
  | revokedFirst {msg : MsgRevokeModel} {version : Models.ModelVersion}
      (hversion : ctx.getModelVersion msg.toSubject = some version)
      (hstring : version.softwareVersionString = msg.softwareVersionString)
      (hnone : s.getComplianceInfo msg.toSubject = none) :
    Change parse ctx s (.revokeModel msg)
      ((s.setComplianceInfo msg.newRevokedInfo).setRevokedModel ⟨msg.toSubject, true⟩)
  | revoked {msg : MsgRevokeModel} {version : Models.ModelVersion} {d info : ComplianceInfo}
      (hversion : ctx.getModelVersion msg.toSubject = some version)
      (hstring : version.softwareVersionString = msg.softwareVersionString)
      (hfound : s.getComplianceInfo msg.toSubject = some d)
      (hinfo : msg.revokedInfo parse d = .ok info) :
    Change parse ctx s (.revokeModel msg)
      (((((s.removeFromCertificate msg info).setCertifiedModel
        ⟨msg.toSubject, false⟩).setProvisionalModel ⟨msg.toSubject, false⟩).setComplianceInfo
        info).setRevokedModel ⟨msg.toSubject, true⟩)

section Inversion

variable {bech32 : Bech32} {parse : String → Option ℤ} {ctx : Context} {s s' : Store} {u : Unit}

theorem checkSigner_bind_ok {signer : String} {rest : Handler SdkError Store Unit}
    (h : (checkSigner bech32 ctx signer >>= fun _ => rest) s = some (.ok u, s')) :
    rest s = some (.ok u, s') := by
  obtain ⟨⟨⟩, s₁, hcheck, hrest⟩ := bind_ok_iff.mp h
  simp only [checkSigner, ofExcept_bind_ok_iff, failIf_ok_iff] at hcheck
  obtain ⟨signerAddr, -, -, rfl⟩ := hcheck
  exact hrest

theorem checkModelVersion_bind_ok {x : Subject} {softwareVersionString : String}
    {rest : Handler SdkError Store Unit}
    (h : (checkModelVersion ctx x softwareVersionString >>= fun _ => rest) s = some (.ok u, s')) :
    ∃ version, ctx.getModelVersion x = some version ∧
      version.softwareVersionString = softwareVersionString ∧ rest s = some (.ok u, s') := by
  obtain ⟨⟨⟩, s₁, hcheck, hrest⟩ := bind_ok_iff.mp h
  simp only [checkModelVersion, readSome_bind_ok_iff, failIf_ok_iff, not_not] at hcheck
  obtain ⟨version, hversion, hstring, rfl⟩ := hcheck
  exact ⟨version, hversion, hstring, hrest⟩

/-- **An accepted message** makes its change. -/
theorem handle_ok {msg : Msg} (h : handle bech32 parse ctx msg s = some (.ok u, s')) :
    Change parse ctx s msg s' := by
  cases msg with
  | provisionModel msg =>
    replace h := checkSigner_bind_ok h
    rw [read_bind_ok_iff] at h
    cases hfound : s.getComplianceInfo msg.toSubject with
    | some info =>
      -- every state refuses the message
      simp only [hfound] at h
      split_ifs at h <;> simp at h
    | none =>
      simp only [hfound, write_bind_ok_iff, write_ok_iff] at h
      subst h
      exact .provisioned hfound
  | certifyModel msg =>
    obtain ⟨version, hversion, hstring, h⟩ := checkModelVersion_bind_ok (checkSigner_bind_ok h)
    simp only [read_bind_ok_iff, ofExcept_bind_ok_iff, write_bind_ok_iff, write_ok_iff] at h
    obtain ⟨info, hinfo, rfl⟩ := h
    exact .certified hversion hstring hinfo
  | revokeModel msg =>
    obtain ⟨version, hversion, hstring, h⟩ := checkModelVersion_bind_ok (checkSigner_bind_ok h)
    rw [read_bind_ok_iff] at h
    cases hfound : s.getComplianceInfo msg.toSubject with
    | some d =>
      simp only [hfound, ofExcept_bind_ok_iff, write_bind_ok_iff, write_ok_iff] at h
      obtain ⟨info, hinfo, rfl⟩ := h
      exact .revoked hversion hstring hfound hinfo
    | none =>
      simp only [hfound, write_bind_ok_iff, write_ok_iff] at h
      subst h
      exact .revokedFirst hversion hstring hfound

end Inversion

/-! ## The runs of the module -/

/-- The runs of the module from an empty store: deliveries of messages, each with the accounts and the
models of its time. -/
def compliance (bech32 : Bech32) (parse : String → Option ℤ) :
    TransitionSystem Store (Context × Msg) where
  init := Store.empty
  step s a s' := ∃ r, (handle bech32 parse a.1 a.2).deliver s = some (r, s')

/-- The runs of messages that keep their rules: the others are refused before a handler sees them. -/
abbrev checked (bech32 : Bech32) (parse : String → Option ℤ) :
    TransitionSystem Store (Context × Msg) :=
  (compliance bech32 parse).restrict fun _ a => a.2.validateBasic bech32 parse = .ok ()

/-- Execute a step. -/
def next (bech32 : Bech32) (parse : String → Option ℤ) (s : Store) (a : Context × Msg) :
    Option Store :=
  ((handle bech32 parse a.1 a.2).deliver s).map Prod.snd

section Steps

variable {bech32 : Bech32} {parse : String → Option ℤ} {s s' : Store} {a : Context × Msg}

theorem step_of_next (h : next bech32 parse s a = some s') :
    (compliance bech32 parse).step s a s' := by
  obtain ⟨⟨r, s₁⟩, hdeliver, rfl⟩ := Option.map_eq_some_iff.mp h
  exact ⟨r, hdeliver⟩

/-- **The effect of a step**: nothing, or the change of its message. -/
theorem step_cases (h : (compliance bech32 parse).step s a s') :
    s' = s ∨ Change parse a.1 s a.2 s' := by
  obtain ⟨r, hr⟩ := h
  rcases deliver_cases hr with ⟨u, -, hok⟩ | ⟨-, rfl⟩
  · exact .inr (handle_ok hok)
  · exact .inl rfl

end Steps

/-! ## Messages of a certification center

The messages of the concrete runs in the later modules. The ledger has one product with two software
versions. -/

/-- The instants of a few dates. -/
def exampleParse (date : String) : Option ℤ :=
  [("2020-01-01T00:00:00Z", 1577836800), ("2021-01-01T00:00:00Z", 1609459200),
    ("2022-01-01T00:00:00Z", 1640995200)].lookup date

def exampleContext : Context where
  accounts := Models.exampleAccounts
  models := (([Models.exampleCreate 1 "Lamp" "p1", Models.exampleVersion 1 7 "7.0",
    Models.exampleVersion 1 8 "8.0"].map (Prod.mk Models.exampleAccounts)).foldlM
      (Models.next Models.exampleCodec) Models.Store.empty).getD Models.Store.empty

def exampleSubject (softwareVersion : UInt32) (certificationType : String) : Subject :=
  ⟨10, 1, softwareVersion, certificationType⟩

/-- The fields of a message for the certificate `CD1`. -/
def exampleDeclare (x : Subject) (softwareVersionString date : String) : MsgDeclareModel :=
  { x with
    signer := "cosmos1center", softwareVersionString := softwareVersionString, cDVersionNumber := 1
    date := date, reason := "", programTypeVersion := "", cDCertificateId := "CD1", familyId := ""
    supportedClusters := "", compliantPlatformUsed := "", compliantPlatformVersion := ""
    oSVersion := "", certificationRoute := "", programType := "", transport := ""
    parentChild := "" }

def exampleProvision (x : Subject) (softwareVersionString date : String) : Context × Msg :=
  (exampleContext, .provisionModel (exampleDeclare x softwareVersionString date))

def exampleCertify (x : Subject) (softwareVersionString date : String) : Context × Msg :=
  (exampleContext, .certifyModel (exampleDeclare x softwareVersionString date))

def exampleRevoke (x : Subject) (softwareVersionString date : String) : Context × Msg :=
  (exampleContext, .revokeModel { x with
    signer := "cosmos1center", softwareVersionString := softwareVersionString, cDVersionNumber := 1
    date := date, reason := "" })

end ComplianceLedger.Compliance
