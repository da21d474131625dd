import ComplianceLedger.Sdk.Validate
import ComplianceLedger.Validators.MsgServer

/-!
# The validators of the ledger: rules of the messages

Who signs a message depends on it: the owner of a validator, in the spelling of validators, or a
trustee, in that of accounts. No rule looks at the note of a vote against disabling a validator.

## Main definitions

* `Msg.getSigner`: the signer of a message
* `Msg.validateBasic`: its check before it is executed

## Main results

* `Msg.signer_of_validateBasic`: a message that passes its check has a signer
-/

open Machine

namespace ComplianceLedger.Validators

def errInvalidPubKey : RegisteredError := ⟨"sdk", 8, "invalid pubkey"⟩

def errInvalidRequest : RegisteredError := ⟨"sdk", 18, "invalid request"⟩

/-- The description that says nothing. -/
def Description.empty : Description := ⟨"", "", "", ""⟩

section Checks

variable (addr : Addresses)

/-- The signer of a message. -/
def Msg.getSigner : Msg → Except String AccAddress
  | .createValidator msg => addr.valAddressFromBech32 msg.signer
  | .disableValidator creator => addr.valAddressFromBech32 creator
  | .enableValidator creator => addr.valAddressFromBech32 creator
  | .proposeDisableValidator msg => addr.acc.accAddressFromBech32 msg.creator
  | .approveDisableValidator msg => addr.acc.accAddressFromBech32 msg.creator
  | .rejectDisableValidator msg => addr.acc.accAddressFromBech32 msg.creator

/-- The error of an address in a message. -/
def invalid (kind e : String) : SdkError :=
  ⟨errInvalidAddress, "invalid " ++ kind ++ " address (" ++ e ++ ")"⟩

/-- The check of a new validator. The address of its owner is not empty, since it decodes. -/
def MsgCreateValidator.validateBasic (msg : MsgCreateValidator) : Except SdkError Unit := do
  let _ ← decodeWith (invalid "signer") (addr.valAddressFromBech32 msg.signer)
  if msg.pubKey = none then
    .error ⟨errInvalidPubKey, "Invalid Validator PubKey: it cannot be empty"⟩
  else if msg.description = .empty then .error ⟨errInvalidRequest, "empty description"⟩
  else do
    msg.description.validate
    validate [required "Signer" msg.signer,
      ⟨msg.pubKey.isSome, errRequiredFieldMissing, "PubKey is a required field"⟩]

/-- The check of the two messages about one's own validator. -/
def validateOwn (creator : String) : Except SdkError Unit := do
  let _ ← decodeWith (invalid "validator") (addr.valAddressFromBech32 creator)
  validate [required "Creator" creator]

/-- The check of a proposal to disable a validator, and of a vote for it. -/
def MsgVoteDisableValidator.validateBasic (msg : MsgVoteDisableValidator) : Except SdkError Unit := do
  let _ ← decodeWith (invalid "creator") (addr.acc.accAddressFromBech32 msg.creator)
  let _ ← decodeWith (invalid "validator") (addr.valAddressFromBech32 msg.address)
  validate [required "Creator" msg.creator, required "Address" msg.address,
    maxLength "Info" msg.info 4096]

/-- The check of a vote against it, which looks at the signer only. -/
def MsgVoteDisableValidator.validateReject (msg : MsgVoteDisableValidator) :
    Except SdkError Unit := do
  let _ ← decodeWith (invalid "creator") (addr.acc.accAddressFromBech32 msg.creator)
  pure ()

/-- The check of a message before it is executed. -/
def Msg.validateBasic : Msg → Except SdkError Unit
  | .createValidator msg => msg.validateBasic addr
  | .disableValidator creator => validateOwn addr creator
  | .enableValidator creator => validateOwn addr creator
  | .proposeDisableValidator msg => msg.validateBasic addr
  | .approveDisableValidator msg => msg.validateBasic addr
  | .rejectDisableValidator msg => msg.validateReject addr

end Checks

/-- A message that passes its check has a signer. -/
theorem Msg.signer_of_validateBasic {addr : Addresses} {msg : Msg} {u : Unit}
    (h : msg.validateBasic addr = .ok u) : ∃ a, msg.getSigner addr = .ok a := by
  -- the signer is what every check looks at first
  have hfirst : ∀ {e : String → SdkError} {r : Except String AccAddress}
      {f : AccAddress → Except SdkError Unit}, (decodeWith e r >>= f) = .ok u → ∃ a, r = .ok a := by
    intro e r f h
    obtain ⟨a, ha, -⟩ := bind_eq_ok_iff.mp h
    exact ⟨a, decodeWith_eq_ok_iff.mp ha⟩
  cases msg with
  | createValidator msg => exact hfirst h
  | disableValidator creator => exact hfirst h
  | enableValidator creator => exact hfirst h
  | proposeDisableValidator msg => exact hfirst h
  | approveDisableValidator msg => exact hfirst h
  | rejectDisableValidator msg => exact hfirst h

end ComplianceLedger.Validators
