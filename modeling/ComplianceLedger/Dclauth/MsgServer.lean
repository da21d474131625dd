import ComplianceLedger.Dclauth.Keeper
import ComplianceLedger.Machine.TransitionSystem

/-!
# The accounts of the ledger: message handlers

The five handlers, and the runs of the module. Beside the messages two things happen to accounts:
the SDK writes them back when their key is set or their sequence number grows, and the evidence of
a double signature revokes the account of the validator.

## Main definitions

* `proposeAddAccount`, `approveAddAccount`, `rejectAddAccount`, `proposeRevokeAccount`,
  `approveRevokeAccount`: the handlers
* `Msg`, `Act`, `handle`: the messages and what else happens
* `accounts bech32 genesis`: the runs of the module
-/

open Machine Machine.Handler

namespace ComplianceLedger.Dclauth

/-- The fields of `MsgProposeAddAccount`. The key is absent if the message does not hold one. -/
structure MsgProposeAddAccount where
  signer : String
  address : String
  pubKey : Option Bytes
  roles : List AccountRole
  vendorID : ℤ
  info : String
  time : ℤ
deriving DecidableEq, Repr

/-- The fields of the four other messages. -/
structure MsgAccount where
  signer : String
  address : String
  info : String
  time : ℤ
deriving DecidableEq, Repr

/-- The messages of the module. -/
inductive Msg
  | proposeAddAccount (msg : MsgProposeAddAccount)
  | approveAddAccount (msg : MsgAccount)
  | rejectAddAccount (msg : MsgAccount)
  | proposeRevokeAccount (msg : MsgAccount)
  | approveRevokeAccount (msg : MsgAccount)
deriving DecidableEq, Repr

section Handlers

variable (bech32 : Bech32)

/-- The address in a field of a message, with the name the errors have for the field. -/
def decodeAddress (field text : String) : Except SdkError AccAddress :=
  match bech32.accAddressFromBech32 text with
  | .ok a => .ok a
  | .error e => .error ⟨errInvalidAddress, "Invalid " ++ field ++ ": (" ++ e ++ ")"⟩

theorem decodeAddress_eq_ok_iff {bech32 : Bech32} {field text : String} {a : AccAddress} :
    decodeAddress bech32 field text = .ok a ↔ bech32.accAddressFromBech32 text = .ok a := by
  unfold decodeAddress
  cases bech32.accAddressFromBech32 text <;> simp

/-- The signer of a message, who has to be a trustee. -/
def trusteeSigner (message signer : String) : Handler SdkError Store AccAddress := do
  let signerAddr ← ofExcept (decodeAddress bech32 "Signer" signer)
  let accounts ← read Store.account
  failIf (accounts.hasRole signerAddr .trustee = false)
    ⟨errUnauthorized, message ++ " transaction should be signed by an account with the " ++
      AccountRole.trustee.name ++ " role"⟩
  pure signerAddr

/-- The text of a second vote: `kind` is that of the first. -/
def alreadyVoted (record : String) (msg : MsgAccount) (kind : String) : SdkError :=
  ⟨errUnauthorized, record ++ " associated with the address=" ++ msg.address ++ " already has " ++
    kind ++ " from=" ++ msg.signer⟩

/-- The key of a proposed account. -/
def decodePubKey (pubKey : Option Bytes) : Except SdkError Bytes :=
  match pubKey with
  | some pk => .ok pk
  | none => .error ⟨errInvalidType, "Expecting cryptotypes.PubKey, got <nil>"⟩

theorem decodePubKey_eq_ok_iff {pubKey : Option Bytes} {pk : Bytes} :
    decodePubKey pubKey = .ok pk ↔ pubKey = some pk := by
  cases pubKey <;> simp [decodePubKey]

/-- The account that a message proposes, before any vote. -/
def newAccount (msg : MsgProposeAddAccount) (accAddr : AccAddress) (pk : Bytes) : Account :=
  ⟨bech32.string accAddr, pk, 0, 0, msg.roles, [], msg.vendorID, []⟩

/-- Store a proposed account, or the active account when the approval of the proposer is enough.
The record of an earlier revocation stays. -/
def storeProposal (account : Account) (grant : Grant) : Handler SdkError Store Unit := do
  let count ← read fun s => accountApprovalsCount s.account account.approvalsPercent
  if 1 < count then
    write (Store.setPendingAccount bech32 { account with approvals := [grant] })
  else do
    let accountNumber ← getNextAccountNumber
    write (Store.setAccountO bech32
      { account with accountNumber := accountNumber, approvals := [grant] })

/-- Propose an account. -/
def proposeAddAccount (msg : MsgProposeAddAccount) : Handler SdkError Store Unit := do
  let signerAddr ← trusteeSigner bech32 "MsgProposeAddAccount" msg.signer
  failIf (.vendor ∈ msg.roles ∧ msg.vendorID ≤ 0) errMissingVendorIDForVendorAccount
  let accAddr ← ofExcept (decodeAddress bech32 "Address" msg.address)
  let active ← read fun s => s.isAccountPresent accAddr
  failIf active (errAccountAlreadyExists msg.address)
  let pending ← read fun s => s.isPendingAccountPresent accAddr
  failIf pending (errPendingAccountAlreadyExists msg.address)
  let pk ← ofExcept (decodePubKey msg.pubKey)
  storeProposal bech32 (newAccount bech32 msg accAddr pk)
    ⟨bech32.string signerAddr, msg.time, msg.info⟩
  -- the source looks for the record first; removing an absent one changes nothing
  write (Store.removeRejectedAccount accAddr)

/-- What approving and rejecting check before the vote is counted: the role of the voter, the
pending account, and that the voter has not voted on it. The texts differ. -/
def findPendingAccount (message rejectKind : String) (msg : MsgAccount) :
    Handler SdkError Store (AccAddress × AccAddress × PendingAccount) := do
  let signerAddr ← trusteeSigner bech32 message msg.signer
  let accAddr ← ofExcept (decodeAddress bech32 "Address" msg.address)
  let pendAcc ← readSome (fun s => s.getPendingAccount accAddr)
    (errPendingAccountDoesNotExist msg.address)
  failIf (pendAcc.hasRejectApprovalFrom (bech32.string signerAddr))
    (alreadyVoted "Pending account" msg rejectKind)
  failIf (pendAcc.hasApprovalFrom (bech32.string signerAddr))
    (alreadyVoted "Pending account" msg "approval")
  pure (signerAddr, accAddr, pendAcc)

/-- The vote of a message. -/
def grantOf (msg : MsgAccount) (signerAddr : AccAddress) : Grant :=
  ⟨bech32.string signerAddr, msg.time, msg.info⟩

/-- Approve a proposed account. With enough approvals it becomes active, under a number of its
own, and the record of an earlier revocation is removed. -/
def approveAddAccount (msg : MsgAccount) : Handler SdkError Store Unit := do
  let (signerAddr, accAddr, found) ←
    findPendingAccount bech32 "MsgApproveAddAccount" "reject approval" msg
  let pendAcc := { found with approvals := found.approvals ++ [grantOf bech32 msg signerAddr] }
  let count ← read fun s => accountApprovalsCount s.account pendAcc.approvalsPercent
  if count ≤ pendAcc.approvals.length then
    let accountNumber ← getNextAccountNumber
    write (Store.setAccountO bech32 { pendAcc with accountNumber := accountNumber })
    write (Store.removeRevokedAccount accAddr)
    write (Store.removePendingAccount accAddr)
  else
    write (Store.setPendingAccount bech32 pendAcc)

/-- Reject a proposed account. A rejected account, too, is given a number. -/
def rejectAddAccount (msg : MsgAccount) : Handler SdkError Store Unit := do
  let (signerAddr, accAddr, found) ← findPendingAccount bech32 "MsgRejectAccount" "reject" msg
  let pendAcc := { found with rejects := found.rejects ++ [grantOf bech32 msg signerAddr] }
  let count ← read fun s => accountRejectApprovalsCount s.account
  if count ≤ pendAcc.rejects.length then
    let accountNumber ← getNextAccountNumber
    write (Store.setRejectedAccount bech32 { pendAcc with accountNumber := accountNumber })
    write (Store.removePendingAccount accAddr)
  else
    write (Store.setPendingAccount bech32 pendAcc)

/-- Propose to revoke an account, or revoke it when one approval is enough. The approval then has the
text of the signer as it stands in the message, and neither time nor note. -/
def proposeRevokeAccount (msg : MsgAccount) : Handler SdkError Store Unit := do
  let signerAddr ← trusteeSigner bech32 "MsgProposeRevokeAccount" msg.signer
  let accAddr ← ofExcept (decodeAddress bech32 "Address" msg.address)
  let active ← read fun s => s.isAccountPresent accAddr
  failIf (active = false) (errAccountDoesNotExist msg.address)
  let pending ← read fun s => s.isPendingAccountRevocationPresent accAddr
  failIf pending (errPendingAccountRevocationAlreadyExists msg.address)
  let count ← read fun s => accountApprovalsCount s.account accountApprovalsPercent
  if 1 < count then
    write (Store.setPendingAccountRevocation bech32
      ⟨bech32.string accAddr, [grantOf bech32 msg signerAddr]⟩)
  else
    let revoked ← addAccountToRevokedAccount bech32 accAddr [⟨msg.signer, 0, ""⟩] .trusteeVoting
    write (Store.setRevokedAccount bech32 revoked)
    write (Store.removeAccount accAddr)

/-- Approve the revocation of an account. -/
def approveRevokeAccount (msg : MsgAccount) : Handler SdkError Store Unit := do
  let signerAddr ← trusteeSigner bech32 "MsgApproveRevokeAccount" msg.signer
  let accAddr ← ofExcept (decodeAddress bech32 "Address" msg.address)
  let found ← readSome (fun s => s.getPendingAccountRevocation accAddr)
    (errPendingAccountRevocationDoesNotExist msg.address)
  failIf (found.hasRevocationFrom (bech32.string signerAddr))
    (alreadyVoted "Pending account revocation" msg "approval")
  let revoc := { found with approvals := found.approvals ++ [grantOf bech32 msg signerAddr] }
  let count ← read fun s => accountApprovalsCount s.account accountApprovalsPercent
  if count ≤ revoc.approvals.length then
    let revoked ← addAccountToRevokedAccount bech32 accAddr revoc.approvals .trusteeVoting
    write (Store.setRevokedAccount bech32 revoked)
    write (Store.removeAccount accAddr)
    write (Store.removePendingAccountRevocation accAddr)
  else
    write (Store.setPendingAccountRevocation bech32 revoc)

/-- The handler of a message. -/
def handle : Msg → Handler SdkError Store Unit
  | .proposeAddAccount msg => proposeAddAccount bech32 msg
  | .approveAddAccount msg => approveAddAccount bech32 msg
  | .rejectAddAccount msg => rejectAddAccount bech32 msg
  | .proposeRevokeAccount msg => proposeRevokeAccount bech32 msg
  | .approveRevokeAccount msg => approveRevokeAccount bech32 msg

end Handlers

/-! ## Runs -/

/-- What happens to the accounts. -/
inductive Act
  /-- A message is delivered. -/
  | deliver (msg : Msg)
  /-- The SDK writes the account of a signer back, with another key or sequence number. -/
  | writeBack (signer : String) (pubKey : Bytes) (sequence : ℕ)
  /-- A validator of this account has signed twice. -/
  | revokeMalicious (address : AccAddress)
deriving DecidableEq, Repr

/-- The runs of the module from a genesis with these accounts. -/
def accounts (bech32 : Bech32) (genesis : List Account) : TransitionSystem Store Act where
  init := initGenesis bech32 genesis
  step s a s' :=
    match a with
    | .deliver msg => ∃ r, (handle bech32 msg).deliver s = some (r, s')
    | .writeBack signer pubKey sequence => s' = writeBack bech32 signer pubKey sequence s
    | .revokeMalicious address => s' = revokeMalicious bech32 address s

/-- Execute what happens to the accounts. -/
def exec (bech32 : Bech32) (s : Store) : Act → Option Store
  | .deliver msg => ((handle bech32 msg).deliver s).map Prod.snd
  | .writeBack signer pubKey sequence => some (writeBack bech32 signer pubKey sequence s)
  | .revokeMalicious address => some (revokeMalicious bech32 address s)

theorem step_of_exec {bech32 : Bech32} {genesis : List Account} {s s' : Store} {a : Act}
    (h : exec bech32 s a = some s') : (accounts bech32 genesis).step s a s' := by
  cases a with
  | deliver msg =>
    obtain ⟨⟨r, t⟩, hd, rfl⟩ := Option.map_eq_some_iff.mp h
    exact ⟨r, hd⟩
  | writeBack => exact (Option.some.inj h).symm
  | revokeMalicious => exact (Option.some.inj h).symm

end ComplianceLedger.Dclauth
