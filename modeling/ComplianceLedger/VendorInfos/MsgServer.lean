import ComplianceLedger.Dclauth.Account
import ComplianceLedger.Machine.Handler
import ComplianceLedger.Machine.TransitionSystem

/-!
# The vendors of the ledger

`vendorinfo` keeps what a vendor says of itself, one record for each vendor ID. A record is created and
updated by an account of the vendor, and never removed.

The key of a record is eight bytes and a slash; the vendor ID is in the first four of them.

## Main definitions

* `VendorInfo`, `Store`: the records
* `createVendorInfo`, `updateVendorInfo`: the handlers
* `Msg`, `handle`, `vendorInfos bech32`: the messages and the runs of the module

## Main results

* `handle_ok`: an accepted message is signed by the vendor and writes the record of the vendor
-/

open Machine Machine.Handler

namespace ComplianceLedger.VendorInfos

/-- What a vendor says of itself. -/
structure VendorInfo where
  vendorID : Int32
  vendorName : String
  companyLegalName : String
  companyPreferredName : String
  vendorLandingPageURL : String
  creator : String
deriving DecidableEq, Repr

/-! ## The store -/

def vendorInfoKey (vendorID : Int32) : Bytes :=
  bigEndian32 vendorID.toUInt32 ++ ([0, 0, 0, 0] ++ utf8 "/")

theorem vendorInfoKey_inj {vid vid' : Int32} :
    vendorInfoKey vid = vendorInfoKey vid' ↔ vid = vid' := by
  simp only [vendorInfoKey, bigEndian32_append_inj, toUInt32_inj, and_true]

/-- The records of the module. -/
structure Store where
  vendorInfo : KVStore Bytes VendorInfo

namespace Store

/-- The store without records. -/
def empty : Store := ⟨.empty⟩

def getVendorInfo (s : Store) (vendorID : Int32) : Option VendorInfo :=
  s.vendorInfo.get (vendorInfoKey vendorID)

def setVendorInfo (vendorInfo : VendorInfo) (s : Store) : Store :=
  { s with vendorInfo := s.vendorInfo.set (vendorInfoKey vendorInfo.vendorID) vendorInfo }

end Store

theorem getVendorInfo_setVendorInfo {s : Store} (vendorInfo : VendorInfo) {vid : Int32} :
    (s.setVendorInfo vendorInfo).getVendorInfo vid =
      if vid = vendorInfo.vendorID then some vendorInfo else s.getVendorInfo vid := by
  simp only [Store.getVendorInfo, Store.setVendorInfo, KVStore.get_set, vendorInfoKey_inj]

/-! ## Messages and handlers -/

def errInvalidRequest : RegisteredError := ⟨"sdk", 18, "invalid request"⟩

def errKeyNotFound : RegisteredError := ⟨"sdk", 30, "key not found"⟩

/-- The fields of `MsgCreateVendorInfo` and of `MsgUpdateVendorInfo`. -/
structure MsgVendorInfo where
  creator : String
  vendorID : Int32
  vendorName : String
  companyLegalName : String
  companyPreferredName : String
  vendorLandingPageURL : String
deriving DecidableEq, Repr

/-- The record that a message writes; an update replaces it as a whole. -/
def MsgVendorInfo.vendorInfo (msg : MsgVendorInfo) : VendorInfo where
  vendorID := msg.vendorID
  vendorName := msg.vendorName
  companyLegalName := msg.companyLegalName
  companyPreferredName := msg.companyPreferredName
  vendorLandingPageURL := msg.vendorLandingPageURL
  creator := msg.creator

/-- The messages of the module. -/
inductive Msg
  | createVendorInfo (msg : MsgVendorInfo)
  | updateVendorInfo (msg : MsgVendorInfo)
deriving DecidableEq, Repr

/-- The fields of a message. -/
def Msg.fields : Msg → MsgVendorInfo
  | .createVendorInfo msg => msg
  | .updateVendorInfo msg => msg

section Handlers

variable (bech32 : Bech32) (accounts : Dclauth.AccountStore)

/-- The first signer of a message. A text that is no address makes `GetSigners` panic. -/
def getSigner (creator : String) : Except SdkError AccAddress :=
  match bech32.accAddressFromBech32 creator with
  | .ok a => .ok a
  | .error e => .error ⟨errPanic, e⟩

/-- The rights that a new record needs. -/
def checkAddVendorRights : AccAddress → Int32 → Except SdkError Unit :=
  accounts.checkVendorRights "MsgAddVendorInfo" "associated with"

/-- The rights that an update needs. -/
def checkUpdateVendorRights : AccAddress → Int32 → Except SdkError Unit :=
  accounts.checkVendorRights "MsgUpdateVendorInfo" "associated with"

def createVendorInfo (msg : MsgVendorInfo) : Handler SdkError Store Unit := do
  let found ← read fun s => s.getVendorInfo msg.vendorID
  failIf found.isSome ⟨errInvalidRequest, "index already set"⟩
  let signer ← ofExcept (getSigner bech32 msg.creator)
  let _ ← ofExcept (checkAddVendorRights accounts signer msg.vendorID)
  write (Store.setVendorInfo msg.vendorInfo)

def updateVendorInfo (msg : MsgVendorInfo) : Handler SdkError Store Unit := do
  let found ← read fun s => s.getVendorInfo msg.vendorID
  failIf found.isNone ⟨errKeyNotFound, "index not set"⟩
  let signer ← ofExcept (getSigner bech32 msg.creator)
  let _ ← ofExcept (checkUpdateVendorRights accounts signer msg.vendorID)
  write (Store.setVendorInfo msg.vendorInfo)

/-- The handler of a message. -/
def handle : Msg → Handler SdkError Store Unit
  | .createVendorInfo msg => createVendorInfo bech32 accounts msg
  | .updateVendorInfo msg => updateVendorInfo bech32 accounts msg

end Handlers

/-! ## Accepted messages -/

section Inversion

variable {bech32 : Bech32} {accounts : Dclauth.AccountStore} {s s' : Store} {u : Unit}

theorem getSigner_eq_ok_iff {creator : String} {a : AccAddress} :
    getSigner bech32 creator = .ok a ↔ bech32.accAddressFromBech32 creator = .ok a := by
  unfold getSigner
  cases bech32.accAddressFromBech32 creator <;> simp

/-- **An accepted message** is signed by the vendor it is about and writes the record of the
vendor. -/
theorem handle_ok {msg : Msg} (h : handle bech32 accounts msg s = some (.ok u, s')) :
    accounts.SignedByVendor bech32 msg.fields.creator msg.fields.vendorID.toInt ∧
      s' = s.setVendorInfo msg.fields.vendorInfo := by
  rw [Dclauth.AccountStore.signedByVendor_iff]
  cases msg with
  | createVendorInfo msg =>
    simp only [handle, createVendorInfo, read_bind_ok_iff, failIf_bind_ok_iff,
      ofExcept_bind_ok_iff, write_ok_iff, getSigner_eq_ok_iff, checkAddVendorRights,
      Dclauth.AccountStore.checkVendorRights_eq_ok_iff] at h
    obtain ⟨-, signer, hsigner, -, hrights, rfl⟩ := h
    exact ⟨⟨signer, hsigner, hrights⟩, rfl⟩
  | updateVendorInfo msg =>
    simp only [handle, updateVendorInfo, read_bind_ok_iff, failIf_bind_ok_iff,
      ofExcept_bind_ok_iff, write_ok_iff, getSigner_eq_ok_iff, checkUpdateVendorRights,
      Dclauth.AccountStore.checkVendorRights_eq_ok_iff] at h
    obtain ⟨-, signer, hsigner, -, hrights, rfl⟩ := h
    exact ⟨⟨signer, hsigner, hrights⟩, rfl⟩

end Inversion

/-- The runs of the module from an empty store: deliveries of messages, each with the accounts of its
time. -/
def vendorInfos (bech32 : Bech32) : TransitionSystem Store (Dclauth.AccountStore × Msg) where
  init := Store.empty
  step s a s' := ∃ r, (handle bech32 a.1 a.2).deliver s = some (r, s')

/-- **The effect of a step**: nothing, or the record of a message that the vendor has signed. -/
theorem step_cases {bech32 : Bech32} {s s' : Store} {a : Dclauth.AccountStore × Msg}
    (h : (vendorInfos bech32).step s a s') :
    s' = s ∨ (a.1.SignedByVendor bech32 a.2.fields.creator a.2.fields.vendorID.toInt ∧
      s' = s.setVendorInfo a.2.fields.vendorInfo) := by
  obtain ⟨r, hr⟩ := h
  rcases deliver_cases hr with ⟨u, -, hok⟩ | ⟨-, rfl⟩
  · exact .inr (handle_ok hok)
  · exact .inl rfl

end ComplianceLedger.VendorInfos
