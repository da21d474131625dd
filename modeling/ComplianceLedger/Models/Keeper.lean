import ComplianceLedger.Dclauth.Account
import ComplianceLedger.Machine.Listing

/-!
# The models of the ledger: records and store

`model` keeps the products of the vendors. A product is a model under a vendor ID and a product ID; it
has versions, one for each software version. Two more kinds of records are indexes: the products of
a vendor, and the software versions of a product.

The parts of a key are words of four bytes and each is followed by a slash. The words stand at fixed
places, so that a key determines its parts, whatever bytes the words are made of.

## Main definitions

* `Model`, `ModelVersion`: the products and their versions
* `VendorProducts`, `ModelVersions`: the indexes
* `Store`: the four kinds of records
* `setVendorProduct`, `removeVendorProduct`, `addModelVersion`: the loops that keep the indexes

## Main results

* `modelKey_inj`, `modelVersionKey_inj`, `vendorProductsKey_inj`: a key determines its parts
-/

open Machine

namespace ComplianceLedger.Models

/-- A product of a vendor. -/
structure Model where
  vid : Int32
  pid : Int32
  deviceTypeId : Int32
  productName : String
  productLabel : String
  partNumber : String
  commissioningCustomFlow : Int32
  commissioningCustomFlowUrl : String
  commissioningModeInitialStepsHint : UInt32
  commissioningModeInitialStepsInstruction : String
  commissioningModeSecondaryStepsHint : UInt32
  commissioningModeSecondaryStepsInstruction : String
  userManualUrl : String
  supportUrl : String
  productUrl : String
  lsfUrl : String
  lsfRevision : Int32
  creator : String
deriving DecidableEq, Repr

/-- A software version of a product. -/
structure ModelVersion where
  vid : Int32
  pid : Int32
  softwareVersion : UInt32
  softwareVersionString : String
  cdVersionNumber : Int32
  firmwareInformation : String
  softwareVersionValid : Bool
  otaUrl : String
  otaFileSize : UInt64
  otaChecksum : String
  otaChecksumType : Int32
  minApplicableSoftwareVersion : UInt32
  maxApplicableSoftwareVersion : UInt32
  releaseNotesUrl : String
  creator : String
deriving DecidableEq, Repr

/-- What the index of a vendor says of a product. -/
structure Product where
  pid : Int32
  name : String
  partNumber : String
deriving DecidableEq, Repr

/-- The products of a vendor. -/
structure VendorProducts where
  vid : Int32
  products : List Product
deriving DecidableEq, Repr

/-- The software versions of a product. -/
structure ModelVersions where
  vid : Int32
  pid : Int32
  softwareVersions : List UInt32
deriving DecidableEq, Repr

/-- The product that a model is listed as. -/
def Model.product (model : Model) : Product := ⟨model.pid, model.productName, model.partNumber⟩

/-! ## Errors -/

def errModelAlreadyExists : RegisteredError := ⟨"model", 501, "model already exists"⟩

def errModelDoesNotExist : RegisteredError := ⟨"model", 502, "model does not exist"⟩

def errModelVersionDoesNotExist : RegisteredError := ⟨"model", 517, "model version does not exist"⟩

def errModelVersionAlreadyExists : RegisteredError :=
  ⟨"model", 519, "model version already exists"⟩

def errOtaURLCannotBeSet : RegisteredError := ⟨"model", 520, "OTA URL cannot be set"⟩

def errMaxSVLessThanMinSV : RegisteredError :=
  ⟨"model", 521, "max software version less than min software version"⟩

def errLsfRevisionIsNotValid : RegisteredError :=
  ⟨"model", 522, "LsfRevision should monotonically increase by 1"⟩

def newErrModelAlreadyExists (vid pid : Int32) : SdkError :=
  ⟨errModelAlreadyExists, "Model associated with vid=" ++ toString vid ++ " and pid=" ++
    toString pid ++ " already exists on the ledger"⟩

def newErrModelDoesNotExist (vid pid : Int32) : SdkError :=
  ⟨errModelDoesNotExist, "No model associated with vid=" ++ toString vid ++ " and pid=" ++
    toString pid ++ " exist on the ledger"⟩

def newErrModelVersionDoesNotExist (vid pid : Int32) (softwareVersion : UInt32) : SdkError :=
  ⟨errModelVersionDoesNotExist, "No model version associated with vid=" ++ toString vid ++
    ", pid=" ++ toString pid ++ " and softwareVersion=" ++ toString softwareVersion ++
    " exist on the ledger"⟩

def newErrModelVersionAlreadyExists (vid pid : Int32) (softwareVersion : UInt32) : SdkError :=
  ⟨errModelVersionAlreadyExists, "Model Version already exists on ledger with vid=" ++
    toString vid ++ " pid=" ++ toString pid ++ " and softwareVersion=" ++
    toString softwareVersion ++ " exist on the ledger"⟩

def newErrOtaURLCannotBeSet (vid pid : Int32) (softwareVersion : UInt32) : SdkError :=
  ⟨errOtaURLCannotBeSet, "OTA URL cannot be set for model version associated with vid=" ++
    toString vid ++ ", pid=" ++ toString pid ++ " and softwareVersion=" ++
    toString softwareVersion ++ " because OTA was not set for this model initially"⟩

def newErrMaxSVLessThanMinSV (minApplicableSoftwareVersion maxApplicableSoftwareVersion : UInt32) :
    SdkError :=
  ⟨errMaxSVLessThanMinSV, "MaxApplicableSoftwareVersion " ++
    toString maxApplicableSoftwareVersion ++ " is less than MinApplicableSoftwareVersion " ++
    toString minApplicableSoftwareVersion⟩

/-- The source registers an error of its own for this case and returns the one of an invalid
revision. -/
def newErrLsfRevisionIsNotAllowed : SdkError :=
  ⟨errLsfRevisionIsNotValid, "LsfRevision is only applicable if LsfURL is not present"⟩

def newErrLsfRevisionIsNotValid (previousLsfVersion currentLsfVersion : Int32) : SdkError :=
  ⟨errLsfRevisionIsNotValid, "LsfRevision " ++ toString currentLsfVersion ++
    " should be greater then existing lsfRevision " ++ toString previousLsfVersion ++ " by 1"⟩

/-! ## Keys -/

def modelKey (vid pid : Int32) : Bytes := wordKey vid.toUInt32 ++ wordKey pid.toUInt32

def modelVersionKey (vid pid : Int32) (softwareVersion : UInt32) : Bytes :=
  wordKey vid.toUInt32 ++ (wordKey pid.toUInt32 ++ wordKey softwareVersion)

def modelVersionsKey (vid pid : Int32) : Bytes := wordKey vid.toUInt32 ++ wordKey pid.toUInt32

def vendorProductsKey (vid : Int32) : Bytes := wordKey vid.toUInt32

@[simp] theorem modelKey_inj {vid pid vid' pid' : Int32} :
    modelKey vid pid = modelKey vid' pid' ↔ vid = vid' ∧ pid = pid' := by
  simp only [modelKey, wordKey_append_inj, wordKey_inj, toUInt32_inj]

@[simp] theorem modelVersionKey_inj {vid pid vid' pid' : Int32} {sv sv' : UInt32} :
    modelVersionKey vid pid sv = modelVersionKey vid' pid' sv' ↔
      vid = vid' ∧ pid = pid' ∧ sv = sv' := by
  simp only [modelVersionKey, wordKey_append_inj, wordKey_inj, toUInt32_inj]

@[simp] theorem modelVersionsKey_inj {vid pid vid' pid' : Int32} :
    modelVersionsKey vid pid = modelVersionsKey vid' pid' ↔ vid = vid' ∧ pid = pid' :=
  modelKey_inj

@[simp] theorem vendorProductsKey_inj {vid vid' : Int32} :
    vendorProductsKey vid = vendorProductsKey vid' ↔ vid = vid' := by
  simp only [vendorProductsKey, wordKey_inj, toUInt32_inj]

/-! ## The store -/

/-- The records of the module. -/
structure Store where
  model : KVStore Bytes Model
  modelVersion : KVStore Bytes ModelVersion
  modelVersions : KVStore Bytes ModelVersions
  vendorProducts : KVStore Bytes VendorProducts

namespace Store

/-- The store without records. -/
def empty : Store := ⟨.empty, .empty, .empty, .empty⟩

def getModel (s : Store) (vid pid : Int32) : Option Model := s.model.get (modelKey vid pid)

def setModel (model : Model) (s : Store) : Store :=
  { s with model := s.model.set (modelKey model.vid model.pid) model }

def removeModel (vid pid : Int32) (s : Store) : Store :=
  { s with model := s.model.delete (modelKey vid pid) }

def getModelVersion (s : Store) (vid pid : Int32) (softwareVersion : UInt32) :
    Option ModelVersion :=
  s.modelVersion.get (modelVersionKey vid pid softwareVersion)

def setModelVersion (modelVersion : ModelVersion) (s : Store) : Store :=
  { s with
    modelVersion := s.modelVersion.set
      (modelVersionKey modelVersion.vid modelVersion.pid modelVersion.softwareVersion)
      modelVersion }

def getModelVersions (s : Store) (vid pid : Int32) : Option ModelVersions :=
  s.modelVersions.get (modelVersionsKey vid pid)

def setModelVersions (modelVersions : ModelVersions) (s : Store) : Store :=
  { s with
    modelVersions := s.modelVersions.set (modelVersionsKey modelVersions.vid modelVersions.pid)
      modelVersions }

def getVendorProducts (s : Store) (vid : Int32) : Option VendorProducts :=
  s.vendorProducts.get (vendorProductsKey vid)

def setVendorProducts (vendorProducts : VendorProducts) (s : Store) : Store :=
  { s with
    vendorProducts := s.vendorProducts.set (vendorProductsKey vendorProducts.vid) vendorProducts }

def removeVendorProducts (vid : Int32) (s : Store) : Store :=
  { s with vendorProducts := s.vendorProducts.delete (vendorProductsKey vid) }

/-- List a product of a vendor, in the place of the one with the same product ID if there is one. -/
def setVendorProduct (vid : Int32) (product : Product) (s : Store) : Store :=
  s.setVendorProducts
    (match s.getVendorProducts vid with
    | some vendorProducts =>
      { vendorProducts with products := upsert Product.pid product vendorProducts.products }
    | none => ⟨vid, [product]⟩)

/-- Drop a product of a vendor, and the record with the last one. -/
def removeVendorProduct (vid pid : Int32) (s : Store) : Store :=
  match s.getVendorProducts vid with
  | some vendorProducts =>
    -- the source drops the first product with the ID
    let products := vendorProducts.products.eraseP fun value => value.pid = pid
    if products.length = 0 then s.removeVendorProducts vid
    else s.setVendorProducts { vendorProducts with products := products }
  | none => s

/-- List a software version of a product, unless it is listed. -/
def addModelVersion (vid pid : Int32) (softwareVersion : UInt32) (s : Store) : Store :=
  match s.getModelVersions vid pid with
  | some modelVersions =>
    if softwareVersion ∈ modelVersions.softwareVersions then s
    else s.setModelVersions
      { modelVersions with softwareVersions := modelVersions.softwareVersions ++ [softwareVersion] }
  | none => s.setModelVersions ⟨vid, pid, [softwareVersion]⟩

end Store

end ComplianceLedger.Models
