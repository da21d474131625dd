import ComplianceLedger.Machine.Handler
import ComplianceLedger.Validators.Types

/-!
# The validators of the ledger: store and block logic

The store of the `validator` module, what the evidence of a double signature does at the start of a
block, and the update of the validator set at its end. Validators are stored under the bytes of their
owner's address. Disabled validators, and those proposed to be, are stored under a text of it, and
rejected proposals under the bytes again.

Setting a validator decodes the text of its owner and panics if it does not decode. A panic within a
message fails the message; one at the start or at the end of a block stops the chain, which is
`none`.

## Main definitions

* `Store`, `getValidator`, `setValidator`, `jail`, `unjail`, ...: the keeper
* `Context`: what a block provides
* `handleDoubleSign`: evidence
* `applyAndReturnValidatorSetUpdates`: the changes that are sent to Tendermint
-/

open Machine

namespace ComplianceLedger.Validators

/-- The records of the module. -/
structure Store where
  validator : KVStore Bytes Validator
  validatorByConsAddr : KVStore Bytes ValAddress
  lastValidatorPower : KVStore Bytes LastValidatorPower
  disabledValidator : KVStore Bytes DisabledValidator
  proposedDisableValidator : KVStore Bytes ProposedDisableValidator
  rejectedNode : KVStore Bytes RejectedDisableValidator

namespace Store

/-- The store without records. -/
def empty : Store := ⟨.empty, .empty, .empty, .empty, .empty, .empty⟩

def isValidatorPresent (s : Store) (owner : ValAddress) : Bool := s.validator.has (validatorKey owner)

def getValidator (s : Store) (owner : ValAddress) : Option Validator :=
  s.validator.get (validatorKey owner)

def getValidatorByConsAddr (s : Store) (consAddr : ConsAddress) : Option Validator :=
  match s.validatorByConsAddr.get (validatorByConsAddrKey consAddr) with
  | none => none
  | some owner => s.getValidator owner

def getLastValidatorPower (s : Store) (owner : ValAddress) : Option LastValidatorPower :=
  s.lastValidatorPower.get (lastValidatorPowerKey owner)

def removeLastValidatorPower (owner : ValAddress) (s : Store) : Store :=
  { s with lastValidatorPower := s.lastValidatorPower.delete (lastValidatorPowerKey owner) }

/-- The number of validators that were active at the end of the last block. -/
def countLastValidators (s : Store) : ℕ := s.lastValidatorPower.entries.length

def getDisabledValidator (s : Store) (address : String) : Option DisabledValidator :=
  s.disabledValidator.get (disabledValidatorKey address)

def setDisabledValidator (disabled : DisabledValidator) (s : Store) : Store :=
  { s with
    disabledValidator := s.disabledValidator.set (disabledValidatorKey disabled.address) disabled }

def removeDisabledValidator (address : String) (s : Store) : Store :=
  { s with disabledValidator := s.disabledValidator.delete (disabledValidatorKey address) }

def getProposedDisableValidator (s : Store) (address : String) : Option ProposedDisableValidator :=
  s.proposedDisableValidator.get (proposedDisableValidatorKey address)

def setProposedDisableValidator (proposed : ProposedDisableValidator) (s : Store) : Store :=
  { s with
    proposedDisableValidator :=
      s.proposedDisableValidator.set (proposedDisableValidatorKey proposed.address) proposed }

def removeProposedDisableValidator (address : String) (s : Store) : Store :=
  { s with
    proposedDisableValidator :=
      s.proposedDisableValidator.delete (proposedDisableValidatorKey address) }

section Codecs

variable (addr : Addresses)

/-- Set a validator under the address of its owner. The error is that of a panic. -/
def setValidator (v : Validator) (s : Store) : Except String Store :=
  match v.getOwner addr with
  | .ok owner => .ok { s with validator := s.validator.set (validatorKey owner) v }
  | .error e => .error e

/-- Index a validator by the address of its key. -/
def setValidatorByConsAddr (v : Validator) (s : Store) : Except SdkError Store :=
  match v.pubKey with
  | none => .error ⟨Dclauth.errInvalidType, "expecting cryptotypes.PubKey, got <nil>"⟩
  | some pk =>
    match v.getOwner addr with
    | .ok owner =>
      .ok { s with
        validatorByConsAddr :=
          s.validatorByConsAddr.set (validatorByConsAddrKey (addr.address pk)) owner }
    | .error e => .error ⟨errPanic, e⟩

def setLastValidatorPower (last : LastValidatorPower) (s : Store) : Except String Store :=
  match addr.valAddressFromBech32 last.owner with
  | .ok owner =>
    .ok { s with
      lastValidatorPower := s.lastValidatorPower.set (lastValidatorPowerKey owner) last }
  | .error e => .error e

def getRejectedNode (owner : String) (s : Store) : Option RejectedDisableValidator :=
  s.rejectedNode.get (rejectedNodeKey (addr.val.getAddress owner))

def setRejectedNode (rejected : RejectedDisableValidator) (s : Store) : Store :=
  { s with
    rejectedNode :=
      s.rejectedNode.set (rejectedNodeKey (addr.val.getAddress rejected.address)) rejected }

def removeRejectedNode (owner : String) (s : Store) : Store :=
  { s with rejectedNode := s.rejectedNode.delete (rejectedNodeKey (addr.val.getAddress owner)) }

end Codecs

end Store

/-! ## Jail -/

/-- A validator without power, and the reason why. -/
def Validator.jail (v : Validator) (reason : String) : Validator :=
  { v with power := zeroPower, jailed := true, jailedReason := reason }

/-- A validator with its power back. -/
def Validator.unjail (v : Validator) : Validator :=
  { v with power := Validators.power, jailed := false, jailedReason := "" }

/-- Jail a validator. -/
def Store.jail (addr : Addresses) (v : Validator) (reason : String) : Store → Except String Store :=
  Store.setValidator addr (v.jail reason)

/-- Unjail a validator. -/
def Store.unjail (addr : Addresses) (v : Validator) : Store → Except String Store :=
  Store.setValidator addr v.unjail

/-! ## Blocks -/

/-- The consensus parameters for evidence. -/
structure EvidenceParams where
  maxAgeDuration : ℤ
  maxAgeNumBlocks : ℤ
deriving DecidableEq, Repr

/-- What a block provides: the accounts, its time and its height, and the consensus parameters, as far
as they are set. -/
structure Context where
  accounts : Dclauth.AccountStore
  blockTime : ℤ
  blockHeight : ℤ
  evidenceParams : Option EvidenceParams
  pubKeyTypes : Option (List String)

/-- The kinds of evidence. -/
inductive EvidenceType
  | duplicateVote
  | lightClientAttack
  | unknown
deriving DecidableEq, Repr

/-- The evidence of a double signature. -/
structure Evidence where
  type : EvidenceType
  consensusAddress : ConsAddress
  height : ℤ
  time : ℤ
deriving DecidableEq, Repr

section Blocks

variable (addr : Addresses)

/-- Evidence is too old when it exceeds both limits. -/
def Evidence.isStale (ctx : Context) (evidence : Evidence) : Bool :=
  match ctx.evidenceParams with
  | none => false
  | some params =>
    params.maxAgeDuration < ctx.blockTime - evidence.time &&
      params.maxAgeNumBlocks < ctx.blockHeight - evidence.height

def Evidence.reason (ctx : Context) (evidence : Evidence) : String :=
  "Confirmed double sign from " ++ addr.consString evidence.consensusAddress ++ " at height " ++
    toString evidence.height ++ ", age of duration " ++ toString (ctx.blockTime - evidence.time) ++
    ", age of blocks " ++ toString (ctx.blockHeight - evidence.height)

/-- The evidence of a double signature jails the validator. The second part of the value is the
account that is then revoked, which `dclauth` keeps. -/
def handleDoubleSign (ctx : Context) (evidence : Evidence) (s : Store) :
    Option (Store × Option AccAddress) :=
  match s.getValidatorByConsAddr evidence.consensusAddress with
  | none => some (s, none)
  | some v =>
    if evidence.isStale ctx then some (s, none)
    else
      (if v.jailed then some s else (s.jail addr v (evidence.reason addr ctx)).toOption).map
        fun s' => (s', some (addr.val.getAddress v.owner))

/-- The start of a block handles each piece of evidence of a kind that it knows. -/
def processEvidence (ctx : Context) (evidence : Evidence) (s : Store) :
    Option (Store × Option AccAddress) :=
  match evidence.type with
  | .duplicateVote | .lightClientAttack => handleDoubleSign addr ctx evidence s
  | .unknown => some (s, none)

/-- The change that adds a validator. -/
def Validator.abciValidatorUpdate (v : Validator) : Option ValidatorUpdate :=
  (v.pubKey.bind PubKey.toTmProtoPublicKey).map fun tm => ⟨tm, v.power⟩

/-- The change that removes a validator. -/
def Validator.abciValidatorUpdateZero (v : Validator) : Option ValidatorUpdate :=
  (v.pubKey.bind PubKey.toTmProtoPublicKey).map fun tm => ⟨tm, zeroPower⟩

/-- The power a validator had at the end of the last block. -/
def Store.lastPower (s : Store) (owner : ValAddress) : ℕ :=
  match s.getLastValidatorPower owner with
  | none => 0
  | some last => last.power

/-- Compare the power of a validator with what it was, and note a change. -/
def applyValidator (p : List ValidatorUpdate × Store) (v : Validator) :
    Option (List ValidatorUpdate × Store) := do
  let owner ← (v.getOwner addr).toOption
  if 0 < p.2.lastPower owner ∧ v.power = 0 then
    let update ← v.abciValidatorUpdateZero
    return (p.1 ++ [update], p.2.removeLastValidatorPower owner)
  else if p.2.lastPower owner = 0 ∧ 0 < v.power then
    let update ← v.abciValidatorUpdate
    let s ← (p.2.setLastValidatorPower addr (newLastValidatorPower addr owner)).toOption
    return (p.1 ++ [update], s)
  else
    return p

/-- The changes of the validator set at the end of a block, in the order of the keys. -/
def applyAndReturnValidatorSetUpdates (s : Store) : Option (List ValidatorUpdate × Store) :=
  s.validator.values.foldlM (applyValidator addr) ([], s)

end Blocks

end ComplianceLedger.Validators
