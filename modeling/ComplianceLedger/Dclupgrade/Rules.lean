import ComplianceLedger.Dclupgrade.MsgServer
import ComplianceLedger.Sdk.Validate

/-!
# The checks of messages about upgrades

A message about an upgrade is checked before it is executed. The plan in a proposal is checked by a
function of the SDK, which is a parameter, `validatePlan`.

## Main definitions

* `Msg.creator`, `Msg.validateBasic`: the signer of a message, and its check before it is executed

## Main results

* `Msg.creator_of_validateBasic`: a message that passes its check has a signer
-/

open Machine

namespace ComplianceLedger.Dclupgrade

/-- The text of the signer of a message. -/
def Msg.creator : Msg → String
  | .proposeUpgrade msg => msg.creator
  | .approveUpgrade msg => msg.creator
  | .rejectUpgrade msg => msg.creator

section Rules

variable (bech32 : Bech32) (validatePlan : Plan → Except SdkError Unit)

/-- The check of the signer, which all messages begin with. -/
def checkCreator (creator : String) : Except SdkError AccAddress :=
  match bech32.accAddressFromBech32 creator with
  | .ok a => .ok a
  | .error e => .error ⟨errInvalidAddress, "invalid creator address (" ++ e ++ ")"⟩

/-- The check of a message before it is executed. That of a rejection looks at the signer only. -/
def Msg.validateBasic : Msg → Except SdkError Unit
  | .proposeUpgrade msg => do
    let _ ← checkCreator bech32 msg.creator
    validate [required "Creator" msg.creator, maxLength "Info" msg.info 4096]
    validatePlan msg.plan
  | .approveUpgrade msg => do
    let _ ← checkCreator bech32 msg.creator
    validate [required "Creator" msg.creator, required "Name" msg.name,
      maxLength "Info" msg.info 4096]
  | .rejectUpgrade msg => do
    let _ ← checkCreator bech32 msg.creator
    pure ()

end Rules

/-- The signer of a message that passes its check has an address. -/
theorem Msg.creator_of_validateBasic {bech32 : Bech32}
    {validatePlan : Plan → Except SdkError Unit} {msg : Msg} {u : Unit}
    (h : msg.validateBasic bech32 validatePlan = .ok u) :
    ∃ a, bech32.accAddressFromBech32 msg.creator = .ok a := by
  have hcreator : ∀ {creator : String} {f : AccAddress → Except SdkError Unit},
      (checkCreator bech32 creator >>= f) = .ok u →
      ∃ a, bech32.accAddressFromBech32 creator = .ok a := by
    intro creator f h
    obtain ⟨a, ha, -⟩ := bind_eq_ok_iff.mp h
    unfold checkCreator at ha
    cases hdecode : bech32.accAddressFromBech32 creator with
    | ok a' => exact ⟨a', rfl⟩
    | error e =>
      rw [hdecode] at ha
      cases ha
  cases msg with
  | proposeUpgrade msg => exact hcreator h
  | approveUpgrade msg => exact hcreator h
  | rejectUpgrade msg => exact hcreator h

end ComplianceLedger.Dclupgrade
