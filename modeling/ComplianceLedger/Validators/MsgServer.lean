import ComplianceLedger.Machine.TransitionSystem
import ComplianceLedger.Validators.Keeper

/-!
# The validators of the ledger: message handlers

The six handlers, and the runs of the module: messages, evidence and the ends of blocks. A block has
its evidence first, then its messages, then its end; the runs here have them in any order, and so
include those of all sequences of blocks. Each message and each piece of evidence comes with a
context of its own: the accounts, which `dclauth` may have changed, the time, the height and the
consensus parameters.

## Main definitions

* `createValidator`, `disableValidator`, `enableValidator`, `proposeDisableValidator`,
  `approveDisableValidator`, `rejectDisableValidator`: the handlers
* `Msg`, `Act`, `handle`: the messages and what else happens
* `validators addr`: the runs of the module
-/

open Machine Machine.Handler

namespace ComplianceLedger.Validators

/-- The fields of `MsgCreateValidator`. The key is absent if the message does not hold one. -/
structure MsgCreateValidator where
  signer : String
  pubKey : Option PubKey
  description : Description
deriving DecidableEq, Repr

/-- The fields of the three messages that propose to disable a validator and vote on it. -/
structure MsgVoteDisableValidator where
  creator : String
  address : String
  info : String
  time : ℤ
deriving DecidableEq, Repr

/-- The messages of the module. -/
inductive Msg
  | createValidator (msg : MsgCreateValidator)
  | disableValidator (creator : String)
  | enableValidator (creator : String)
  | proposeDisableValidator (msg : MsgVoteDisableValidator)
  | approveDisableValidator (msg : MsgVoteDisableValidator)
  | rejectDisableValidator (msg : MsgVoteDisableValidator)
deriving DecidableEq, Repr

/-- `DisableValidatorPercent`, in per cent. -/
def disableValidatorPercent : ℕ := 66

def voteForDisableValidatorRole : Dclauth.AccountRole := .trustee

def enableDisableValidatorRole : Dclauth.AccountRole := .nodeAdmin

/-- The approvals that disable a validator. -/
def disableValidatorApprovalsCount (ctx : Context) : ℕ :=
  roundPercent disableValidatorPercent
    (ctx.accounts.countAccountsWithRole voteForDisableValidatorRole)

/-- The rejections that keep it. -/
def disableValidatorRejectApprovalsCount (ctx : Context) : ℕ :=
  ctx.accounts.countAccountsWithRole voteForDisableValidatorRole -
    disableValidatorApprovalsCount ctx + 1

section Handlers

variable (addr : Addresses) (ctx : Context)

/-- The result of decoding an address, with the error of the handler. -/
def decodeWith {α : Type} (e : String → SdkError) : Except String α → Except SdkError α
  | .ok a => .ok a
  | .error text => .error (e text)

theorem decodeWith_eq_ok_iff {α : Type} {e : String → SdkError} {r : Except String α} {a : α} :
    decodeWith e r = .ok a ↔ r = .ok a := by
  cases r <;> simp [decodeWith]

def invalidAddress (kind text : String) : SdkError :=
  ⟨errInvalidAddress, "Invalid " ++ kind ++ ": (" ++ text ++ ")"⟩

/-- Set a validator within a message, which fails if the owner does not decode. -/
def setting (f : Store → Except String Store) : Handler SdkError Store Unit :=
  attempt fun s => decodeWith (fun e => ⟨errPanic, e⟩) (f s)

/-- The key of a new validator. -/
def decodePubKey (pubKey : Option PubKey) : Except SdkError PubKey :=
  match pubKey with
  | some pk => .ok pk
  | none => .error ⟨Dclauth.errInvalidType, "Expecting cryptotypes.PubKey, got <nil>"⟩

theorem decodePubKey_eq_ok_iff {pubKey : Option PubKey} {pk : PubKey} :
    decodePubKey pubKey = .ok pk ↔ pubKey = some pk := by
  cases pubKey <;> simp [decodePubKey]

/-- The type of a key has to be one of the consensus parameters, if they are set. -/
def checkPubKeyType (pk : PubKey) : Except SdkError Unit :=
  match ctx.pubKeyTypes with
  | none => .ok ()
  | some types =>
    if pk.type ∈ types then .ok ()
    else .error ⟨validatorPubKeyTypeNotSupported, "got: " ++ pk.type ++ ", expected: [" ++
      " ".intercalate types ++ "]"⟩

/-- Create a validator. The number of validators is that of the last block, and the limit is compared
for equality. -/
def createValidator (msg : MsgCreateValidator) : Handler SdkError Store Unit := do
  let valAddr ← ofExcept (decodeWith (fun e => ⟨errInternal, e⟩)
    (addr.valAddressFromBech32 msg.signer))
  failIf (ctx.accounts.hasRole valAddr .nodeAdmin = false)
    ⟨errUnauthorized, "CreateValidator transaction should be signed by an account with the \"" ++
      enableDisableValidatorRole.name ++ "\" role"⟩
  let count ← read Store.countLastValidators
  failIf (count = maxNodes) errPoolIsFull
  let existing ← read fun s => s.getValidator valAddr
  failIf existing.isSome ⟨validatorOwnerExists, ""⟩
  let pk ← ofExcept (decodePubKey msg.pubKey)
  let known ← read fun s => s.getValidatorByConsAddr (addr.address pk)
  failIf known.isSome ⟨validatorPubKeyExists, ""⟩
  ofExcept msg.description.validate
  ofExcept (checkPubKeyType ctx pk)
  setting (Store.setValidator addr (newValidator addr valAddr pk msg.description))
  attempt (Store.setValidatorByConsAddr addr (newValidator addr valAddr pk msg.description))

/-- The owner of a validator, who has to be a node admin. -/
def nodeAdmin (message creator : String) : Handler SdkError Store ValAddress := do
  let creatorAddr ← ofExcept (decodeWith (invalidAddress "Address")
    (addr.valAddressFromBech32 creator))
  failIf (ctx.accounts.hasRole creatorAddr enableDisableValidatorRole = false)
    ⟨errUnauthorized, message ++ " validator transaction should be signed by an account with the " ++
      enableDisableValidatorRole.name ++ " role"⟩
  pure creatorAddr

/-- Disable one's own validator. The record of an earlier disabling is looked for under the text of
the message, but stored under that of the codec. -/
def disableValidator (creator : String) : Handler SdkError Store Unit := do
  let creatorAddr ← nodeAdmin addr ctx "Disable" creator
  let present ← read fun s => s.isValidatorPresent creatorAddr
  failIf (present = false) ⟨noValidatorFound, ""⟩
  let disabled ← read fun s => s.getDisabledValidator creator
  failIf disabled.isSome (newErrDisabledValidatorAlreadyExists creator)
  let validator ← read fun s => s.getValidator creatorAddr
  setting (Store.jail addr (validator.getD Validator.zero) "disabled by a node admin")
  write (Store.setDisabledValidator
    ⟨addr.valString creatorAddr, addr.acc.string creatorAddr, [], true, []⟩)

/-- Enable one's own validator, whoever has disabled it. -/
def enableValidator (creator : String) : Handler SdkError Store Unit := do
  let creatorAddr ← nodeAdmin addr ctx "Enable" creator
  let disabled ← read fun s => s.getDisabledValidator creator
  failIf (disabled = none) (newErrDisabledValidatorDoesNotExist creator)
  let validator ← read fun s => s.getValidator creatorAddr
  setting (Store.unjail addr (validator.getD Validator.zero))
  write (Store.removeDisabledValidator creator)

/-- A trustee and the validator that the message is about. -/
def trusteeAndValidator (message : String) (msg : MsgVoteDisableValidator) :
    Handler SdkError Store (AccAddress × ValAddress) := do
  let creatorAddr ← ofExcept (decodeWith (invalidAddress "creator address")
    (addr.acc.accAddressFromBech32 msg.creator))
  let validatorAddr ← ofExcept (decodeWith (invalidAddress "validator address")
    (addr.valAddressFromBech32 msg.address))
  failIf (ctx.accounts.hasRole creatorAddr voteForDisableValidatorRole = false)
    ⟨errUnauthorized, message ++ " transaction should be signed by an account with the " ++
      voteForDisableValidatorRole.name ++ " role"⟩
  pure (creatorAddr, validatorAddr)

/-- The vote of a message. -/
def grantOf (msg : MsgVoteDisableValidator) (creatorAddr : AccAddress) : Grant :=
  ⟨addr.acc.string creatorAddr, msg.time, msg.info⟩

/-- Store a proposal, or disable the validator when one approval is enough. -/
def storeProposal (proposed : ProposedDisableValidator) (validatorAddr : ValAddress)
    (info : String) : Handler SdkError Store Unit := do
  if 1 < disableValidatorApprovalsCount ctx then
    write (Store.setProposedDisableValidator proposed)
  else do
    let validator ← read fun s => s.getValidator validatorAddr
    setting (Store.jail addr (validator.getD Validator.zero) info)
    write (Store.setDisabledValidator
      ⟨proposed.address, proposed.creator, proposed.approvals, false, []⟩)

/-- Propose to disable a validator. -/
def proposeDisableValidator (msg : MsgVoteDisableValidator) : Handler SdkError Store Unit := do
  let (creatorAddr, validatorAddr) ←
    trusteeAndValidator addr ctx "MsgProposeDisableValidator" msg
  let present ← read fun s => s.isValidatorPresent validatorAddr
  failIf (present = false) ⟨noValidatorFound, ""⟩
  let disabled ← read fun s => s.getDisabledValidator (addr.valString validatorAddr)
  failIf disabled.isSome (newErrDisabledValidatorAlreadyExists msg.address)
  let existing ← read fun s => s.getProposedDisableValidator (addr.valString validatorAddr)
  failIf existing.isSome (newErrProposedDisableValidatorAlreadyExists msg.address)
  storeProposal addr ctx
    ⟨addr.valString validatorAddr, addr.acc.string creatorAddr, [grantOf addr msg creatorAddr], []⟩
    validatorAddr msg.info
  -- the source looks for the record first; removing an absent one changes nothing
  write (Store.removeRejectedNode addr (addr.valString validatorAddr))

/-- What approving and rejecting check before the vote is counted: the role of the voter, the
proposal, and that the voter has not voted on it. -/
def findProposal (message : String) (msg : MsgVoteDisableValidator) :
    Handler SdkError Store (AccAddress × ValAddress × ProposedDisableValidator) := do
  let (creatorAddr, validatorAddr) ← trusteeAndValidator addr ctx message msg
  let proposed ← readSome
    (fun s => s.getProposedDisableValidator (addr.valString validatorAddr))
    (newErrProposedDisableValidatorDoesNotExist msg.address)
  failIf (proposed.hasRejectDisableFrom (addr.acc.string creatorAddr))
    ⟨errUnauthorized, "Disabled validator with address=" ++ msg.address ++
      " already has reject from=" ++ msg.creator⟩
  failIf (proposed.hasApprovalFrom (addr.acc.string creatorAddr))
    ⟨errUnauthorized, "Disabled validator with address=" ++ msg.address ++
      " already has approval from=" ++ msg.creator⟩
  pure (creatorAddr, validatorAddr, proposed)

/-- Approve to disable a validator. -/
def approveDisableValidator (msg : MsgVoteDisableValidator) : Handler SdkError Store Unit := do
  let (creatorAddr, validatorAddr, found) ←
    findProposal addr ctx "MsgApproveDisableValidator" msg
  let proposed := { found with approvals := found.approvals ++ [grantOf addr msg creatorAddr] }
  if disableValidatorApprovalsCount ctx ≤ proposed.approvals.length then
    write (Store.removeProposedDisableValidator proposed.address)
    let validator ← read fun s => s.getValidator validatorAddr
    -- the reason is the note of the first approval, which is the new one if there was none
    setting (Store.jail addr (validator.getD Validator.zero)
      (found.approvals.headD (grantOf addr msg creatorAddr)).info)
    write (Store.setDisabledValidator
      ⟨proposed.address, proposed.creator, proposed.approvals, false, proposed.rejects⟩)
  else
    write (Store.setProposedDisableValidator proposed)

/-- Reject to disable a validator. -/
def rejectDisableValidator (msg : MsgVoteDisableValidator) : Handler SdkError Store Unit := do
  let (creatorAddr, _, found) ← findProposal addr ctx "MsgRejectDisableValidator" msg
  let proposed := { found with rejects := found.rejects ++ [grantOf addr msg creatorAddr] }
  if disableValidatorRejectApprovalsCount ctx ≤ proposed.rejects.length then
    write (Store.removeProposedDisableValidator proposed.address)
    write (Store.setRejectedNode addr proposed)
  else
    write (Store.setProposedDisableValidator proposed)

/-- The handler of a message. -/
def handle : Msg → Handler SdkError Store Unit
  | .createValidator msg => createValidator addr ctx msg
  | .disableValidator creator => disableValidator addr ctx creator
  | .enableValidator creator => enableValidator addr ctx creator
  | .proposeDisableValidator msg => proposeDisableValidator addr ctx msg
  | .approveDisableValidator msg => approveDisableValidator addr ctx msg
  | .rejectDisableValidator msg => rejectDisableValidator addr ctx msg

end Handlers

/-! ## Runs -/

/-- What happens to the validators. -/
inductive Act
  /-- A message is delivered. -/
  | deliver (ctx : Context) (msg : Msg)
  /-- A block starts with a piece of evidence. -/
  | evidence (ctx : Context) (evidence : Evidence)
  /-- A block ends. -/
  | endBlock

/-- Execute what happens to the validators. The updates are those of the end of a block. -/
def exec (addr : Addresses) (s : Store) : Act → Option (List ValidatorUpdate × Store)
  | .deliver ctx msg => ((handle addr ctx msg).deliver s).map fun r => ([], r.2)
  | .evidence ctx evidence => (processEvidence addr ctx evidence s).map fun r => ([], r.1)
  | .endBlock => applyAndReturnValidatorSetUpdates addr s

/-- The runs of the module from an empty genesis. -/
def validators (addr : Addresses) : TransitionSystem Store Act where
  init := Store.empty
  step s a s' := ∃ updates, exec addr s a = some (updates, s')

/-- The store that is left. -/
def next (addr : Addresses) (s : Store) (a : Act) : Option Store := (exec addr s a).map Prod.snd

theorem step_of_next {addr : Addresses} {s s' : Store} {a : Act} (h : next addr s a = some s') :
    (validators addr).step s a s' := by
  obtain ⟨⟨updates, t⟩, hexec, rfl⟩ := Option.map_eq_some_iff.mp h
  exact ⟨updates, hexec⟩

/-! ## Node admins

The accounts of the concrete runs in the later modules. -/

/-- Accounts with these names after the prefix, all with the same roles. -/
def exampleAccounts (names : List String) (roles : List Dclauth.AccountRole) :
    Dclauth.AccountStore :=
  names.foldl (fun accounts name => accounts.set (Dclauth.accountKey (utf8 name))
    (Dclauth.exampleAccount ("cosmos1" ++ name) roles)) KVStore.empty

def exampleContext (accounts : Dclauth.AccountStore) : Context :=
  ⟨accounts, 0, 0, none, some ["ed25519"]⟩

/-- The message that creates the validator of a name, with a key of the same bytes. -/
def exampleCreate (name : String) : Msg :=
  .createValidator ⟨"cosmosvaloper1" ++ name, some (.ed25519 (utf8 name)), ⟨name, "", "", ""⟩⟩

end ComplianceLedger.Validators
