import ComplianceLedger.Sdk.Validate
import ComplianceLedger.VendorInfos.MsgServer

/-!
# The vendors of the ledger: rules of the messages

A record is replaced as a whole, by a message that keeps the rules of a new record. So every record
keeps them.

## Main definitions

* `Msg.validateBasic`: the check of a message before it is executed
* `VendorInfo.message`, `VendorInfo.Valid`: the message that creates a record, and that it passes its
  check

## Main results

* `validRecords_step`: messages that pass their checks leave valid records, each under its own key
-/

open Machine Machine.TransitionSystem

namespace ComplianceLedger.VendorInfos

section Rules

variable (bech32 : Bech32) (isURL : String → Bool)

/-- The rules of the two messages are the same. -/
def MsgVendorInfo.rules (msg : MsgVendorInfo) : List Rule :=
  [required "Creator" msg.creator] ++ within "VendorID" msg.vendorID.toInt 1 65535 ++
    [required "VendorName" msg.vendorName, maxLength "VendorName" msg.vendorName 128,
      required "CompanyLegalName" msg.companyLegalName,
      maxLength "CompanyLegalName" msg.companyLegalName 256] ++
    omitEmpty (msg.companyPreferredName ≠ "")
      [maxLength "CompanyPreferredName" msg.companyPreferredName 256] ++
    omitEmpty (msg.vendorLandingPageURL ≠ "")
      [maxLength "VendorLandingPageURL" msg.vendorLandingPageURL 256,
        ⟨isURL msg.vendorLandingPageURL, errFieldNotValid,
          "Field VendorLandingPageURL : " ++ msg.vendorLandingPageURL ++ " is not a valid url"⟩]

/-- The check of a message before it is executed: the signer, then the fields. -/
def Msg.validateBasic (msg : Msg) : Except SdkError Unit :=
  match bech32.accAddressFromBech32 msg.fields.creator with
  | .error e => .error ⟨errInvalidAddress, "invalid creator address (" ++ e ++ ")"⟩
  | .ok _ => validate (msg.fields.rules isURL)

/-- The message that creates a record with the stored fields. -/
def VendorInfo.message (info : VendorInfo) : MsgVendorInfo where
  creator := info.creator
  vendorID := info.vendorID
  vendorName := info.vendorName
  companyLegalName := info.companyLegalName
  companyPreferredName := info.companyPreferredName
  vendorLandingPageURL := info.vendorLandingPageURL

/-- The record passes the check of the message that creates it. -/
def VendorInfo.Valid (info : VendorInfo) : Prop :=
  (Msg.createVendorInfo info.message).validateBasic bech32 isURL = .ok ()

/-- Every record is valid, and lies under its own key. -/
def ValidRecords (s : Store) : Prop :=
  s.vendorInfo.All fun k info => k = vendorInfoKey info.vendorID ∧ info.Valid bech32 isURL

end Rules

variable {bech32 : Bech32} {isURL : String → Bool} {u : Unit}

theorem Msg.signer_of_validateBasic {msg : Msg} (h : msg.validateBasic bech32 isURL = .ok u) :
    ∃ a, bech32.accAddressFromBech32 msg.fields.creator = .ok a := by
  unfold Msg.validateBasic at h
  cases hcreator : bech32.accAddressFromBech32 msg.fields.creator with
  | error e =>
    rw [hcreator] at h
    cases h
  | ok a => exact ⟨a, rfl⟩

/-- The record of a message that passes its check is valid. -/
theorem Msg.valid_vendorInfo {msg : Msg} (h : msg.validateBasic bech32 isURL = .ok ()) :
    msg.fields.vendorInfo.Valid bech32 isURL := by
  cases msg with
  | createVendorInfo msg | updateVendorInfo msg => exact h

/-- **Messages that pass their checks leave valid records.** -/
theorem validRecords_step {s s' : Store} {a : Dclauth.AccountStore × Msg}
    (h : ValidRecords bech32 isURL s) (hstep : (vendorInfos bech32).step s a s')
    (hrules : a.2.validateBasic bech32 isURL = .ok ()) : ValidRecords bech32 isURL s' := by
  rcases step_cases hstep with rfl | ⟨-, rfl⟩
  · exact h
  · exact KVStore.All.set h ⟨rfl, Msg.valid_vendorInfo hrules⟩

end ComplianceLedger.VendorInfos
