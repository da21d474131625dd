import ComplianceLedger.Machine.KVStore
import ComplianceLedger.Sdk.Basic

/-!
# The compliance of models: records and store

`compliance` keeps, for a software version of a product and a type of certification, whether it is
provisional, certified or revoked, with the history of its states. Three more kinds of records are
flags that repeat the state, one for each state, and are what clients ask for. A last kind collects
the certified records by the ID of their certificate.

The first three parts of a key are words of four bytes and the last one is a text; each part is
followed by a slash. The type of certification is a text of any kind here.

## Main definitions

* `Subject`: what a compliance record is about
* `ComplianceInfo`, `ComplianceHistoryItem`: the records and the states they had before
* `ModelFlag`: a flag
* `DeviceSoftwareCompliance`: the certified records of a certificate
* `Store`: the five kinds of records
* `setCertifiedStatus`, `setRevokedStatus`, `setOptionalFields`: what happens to a record

## Main results

* `subjectKey_inj`: a key determines the subject
-/

open Machine

namespace ComplianceLedger.Compliance

/-- What a compliance record is about: a software version of a product, and a type of
certification. -/
structure Subject where
  vid : Int32
  pid : Int32
  softwareVersion : UInt32
  certificationType : String
deriving DecidableEq, Repr

/-- A state that a record had before. -/
structure ComplianceHistoryItem where
  softwareVersionCertificationStatus : UInt32
  date : String
  reason : String
  cDVersionNumber : UInt32
deriving DecidableEq, Repr

/-- The compliance of a subject. -/
structure ComplianceInfo extends Subject where
  softwareVersionString : String
  cDVersionNumber : UInt32
  softwareVersionCertificationStatus : UInt32
  date : String
  reason : String
  owner : String
  history : List ComplianceHistoryItem
  cDCertificateId : String
  certificationRoute : String
  programType : String
  programTypeVersion : String
  compliantPlatformUsed : String
  compliantPlatformVersion : String
  transport : String
  familyId : String
  supportedClusters : String
  oSVersion : String
  parentChild : String
deriving DecidableEq, Repr

/-- The fields of `CertifiedModel`, of `RevokedModel` and of `ProvisionalModel`. -/
structure ModelFlag extends Subject where
  value : Bool
deriving DecidableEq, Repr

/-- The certified records of a certificate. -/
structure DeviceSoftwareCompliance where
  cDCertificateId : String
  complianceInfo : List ComplianceInfo
deriving DecidableEq, Repr

/-! ## States -/

def codeProvisional : UInt32 := 1

def codeCertified : UInt32 := 2

def codeRevoked : UInt32 := 3

theorem certified_ne_provisional : codeCertified ≠ codeProvisional := by decide

theorem revoked_ne_provisional : codeRevoked ≠ codeProvisional := by decide

theorem revoked_ne_certified : codeRevoked ≠ codeCertified := by decide

namespace ComplianceInfo

/-- The item that a state leaves in the history. -/
def historyItem (d : ComplianceInfo) : ComplianceHistoryItem :=
  ⟨d.softwareVersionCertificationStatus, d.date, d.reason, d.cDVersionNumber⟩

def setCertifiedStatus (date reason cdCertificateID : String) (d : ComplianceInfo) :
    ComplianceInfo :=
  { d with
    history := d.history ++ [d.historyItem]
    softwareVersionCertificationStatus := codeCertified
    date := date
    reason := reason
    cDCertificateId := cdCertificateID }

def setRevokedStatus (date reason : String) (d : ComplianceInfo) : ComplianceInfo :=
  { d with
    history := d.history ++ [d.historyItem]
    softwareVersionCertificationStatus := codeRevoked
    date := date
    reason := reason }

end ComplianceInfo

/-! ## The records of a certificate -/

namespace DeviceSoftwareCompliance

/-- Is this the record that is looked for? The type of certification plays no part. -/
def isRecordOf (x : Subject) (softwareVersionString : String) (info : ComplianceInfo) : Bool :=
  info.vid = x.vid ∧ info.pid = x.pid ∧ info.softwareVersion = x.softwareVersion ∧
    info.softwareVersionString = softwareVersionString

/-- The index of the first record that is looked for. -/
def isComplianceInfoExist (m : DeviceSoftwareCompliance) (x : Subject)
    (softwareVersionString : String) : Option ℕ :=
  m.complianceInfo.findIdx? (isRecordOf x softwareVersionString)

def removeComplianceInfo (m : DeviceSoftwareCompliance) (index : ℕ) : DeviceSoftwareCompliance :=
  { m with complianceInfo := m.complianceInfo.eraseIdx index }

end DeviceSoftwareCompliance

/-! ## Keys -/

/-- The four kinds of records about a subject have keys of the same form. -/
def subjectKey (x : Subject) : Bytes :=
  wordKey x.vid.toUInt32 ++ (wordKey x.pid.toUInt32 ++ (wordKey x.softwareVersion ++
    (utf8 x.certificationType ++ utf8 "/")))

theorem subjectKey_inj {x y : Subject} : subjectKey x = subjectKey y ↔ x = y := by
  obtain ⟨vid, pid, softwareVersion, certificationType⟩ := x
  obtain ⟨vid', pid', softwareVersion', certificationType'⟩ := y
  simp only [subjectKey, wordKey_append_inj, toUInt32_inj, List.append_cancel_right_eq, utf8_inj,
    Subject.mk.injEq]

theorem subjectKey_injective : Function.Injective subjectKey := fun _ _ => subjectKey_inj.mp

def complianceInfoKey : Subject → Bytes := subjectKey

def certifiedModelKey : Subject → Bytes := subjectKey

def revokedModelKey : Subject → Bytes := subjectKey

def provisionalModelKey : Subject → Bytes := subjectKey

def deviceSoftwareComplianceKey (cdCertificateID : String) : Bytes :=
  utf8 cdCertificateID ++ utf8 "/"

theorem deviceSoftwareComplianceKey_injective :
    Function.Injective deviceSoftwareComplianceKey := by
  intro a b h
  simpa [deviceSoftwareComplianceKey] using h

/-! ## The store -/

/-- The records of the module. -/
structure Store where
  complianceInfo : KVStore Bytes ComplianceInfo
  certifiedModel : KVStore Bytes ModelFlag
  revokedModel : KVStore Bytes ModelFlag
  provisionalModel : KVStore Bytes ModelFlag
  deviceSoftwareCompliance : KVStore Bytes DeviceSoftwareCompliance

namespace Store

/-- The store without records. -/
def empty : Store := ⟨.empty, .empty, .empty, .empty, .empty⟩

def getComplianceInfo (s : Store) (x : Subject) : Option ComplianceInfo :=
  s.complianceInfo.get (complianceInfoKey x)

def setComplianceInfo (info : ComplianceInfo) (s : Store) : Store :=
  { s with complianceInfo := s.complianceInfo.set (complianceInfoKey info.toSubject) info }

def getCertifiedModel (s : Store) (x : Subject) : Option ModelFlag :=
  s.certifiedModel.get (certifiedModelKey x)

def setCertifiedModel (flag : ModelFlag) (s : Store) : Store :=
  { s with certifiedModel := s.certifiedModel.set (certifiedModelKey flag.toSubject) flag }

def getRevokedModel (s : Store) (x : Subject) : Option ModelFlag :=
  s.revokedModel.get (revokedModelKey x)

def setRevokedModel (flag : ModelFlag) (s : Store) : Store :=
  { s with revokedModel := s.revokedModel.set (revokedModelKey flag.toSubject) flag }

def getProvisionalModel (s : Store) (x : Subject) : Option ModelFlag :=
  s.provisionalModel.get (provisionalModelKey x)

def setProvisionalModel (flag : ModelFlag) (s : Store) : Store :=
  { s with provisionalModel := s.provisionalModel.set (provisionalModelKey flag.toSubject) flag }

def getDeviceSoftwareCompliance (s : Store) (cDCertificateID : String) :
    Option DeviceSoftwareCompliance :=
  s.deviceSoftwareCompliance.get (deviceSoftwareComplianceKey cDCertificateID)

def setDeviceSoftwareCompliance (m : DeviceSoftwareCompliance) (s : Store) : Store :=
  { s with
    deviceSoftwareCompliance :=
      s.deviceSoftwareCompliance.set (deviceSoftwareComplianceKey m.cDCertificateId) m }

def removeDeviceSoftwareCompliance (cDCertificateID : String) (s : Store) : Store :=
  { s with
    deviceSoftwareCompliance :=
      s.deviceSoftwareCompliance.delete (deviceSoftwareComplianceKey cDCertificateID) }

end Store

end ComplianceLedger.Compliance
