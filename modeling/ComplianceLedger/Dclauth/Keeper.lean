import ComplianceLedger.Dclauth.Account
import ComplianceLedger.Machine.Handler
import Mathlib.Algebra.Group.Nat.Defs

/-!
# The accounts of the ledger: records and store

`dclauth` keeps the accounts through their life: an account is proposed and pending, then active or
rejected; an active account may have a pending revocation, and is then revoked. Each stage is a
record of its own under the key of the address. Active accounts have numbers, which are drawn from
one counter.

A record is stored under the address that its own text decodes to; when it does not decode, the
source goes on with the empty address.

## Main definitions

* `PendingAccount`, `PendingAccountRevocation`, `RevokedAccount`, `RejectedAccount`: the records
* `Store`: the records of the module
* `setAccountO`, `setAccount`, `getNextAccountNumber`, ...: the keeper
* `accountApprovalsCount`, `accountRejectApprovalsCount`: the thresholds
* `initGenesis`: the store that a chain starts with
-/

open Machine

namespace ComplianceLedger

/-- The address of a text, or the empty address. -/
def Bech32.getAddress (bech32 : Bech32) (text : String) : AccAddress :=
  match bech32.accAddressFromBech32 text with
  | .ok a => a
  | .error _ => []

theorem Bech32.getAddress_of_ok {bech32 : Bech32} {text : String} {a : AccAddress}
    (h : bech32.accAddressFromBech32 text = .ok a) : bech32.getAddress text = a := by
  rw [getAddress, h]

@[simp] theorem Bech32.getAddress_string {bech32 : Bech32} {text : String} {a : AccAddress}
    (h : bech32.accAddressFromBech32 text = .ok a) : bech32.getAddress (bech32.string a) = a :=
  getAddress_of_ok (bech32.decode_string h)

namespace Dclauth

/-- A proposed account has the fields of an account. -/
abbrev PendingAccount := Account

/-- A rejected account has the fields of an account. -/
abbrev RejectedAccount := Account

namespace Account

/-- Has the account no other role than this one? -/
def hasOnlyVendorRole (account : Account) (targetRole : AccountRole) : Bool :=
  account.roles = [targetRole]

/-- Has the address approved the account? -/
def hasApprovalFrom (account : PendingAccount) (address : String) : Bool :=
  hasGrantFrom account.approvals address

/-- Has the address rejected the account? -/
def hasRejectApprovalFrom (account : PendingAccount) (address : String) : Bool :=
  hasGrantFrom account.rejects address

end Account

/-- The votes to revoke an account. -/
structure PendingAccountRevocation where
  address : String
  approvals : List Grant
deriving DecidableEq, Repr

/-- Has the address approved the revocation? -/
def PendingAccountRevocation.hasRevocationFrom (revocation : PendingAccountRevocation)
    (address : String) : Bool :=
  hasGrantFrom revocation.approvals address

/-- Why an account was revoked. -/
inductive RevokedAccountReason
  | trusteeVoting
  | maliciousValidator
deriving DecidableEq, Repr

/-- An account that was revoked, with the votes for it. -/
structure RevokedAccount where
  account : Account
  revokeApprovals : List Grant
  reason : RevokedAccountReason
deriving DecidableEq, Repr

/-! ## Errors -/

def errInvalidType : RegisteredError := ⟨"sdk", 29, "invalid type"⟩

def accountAlreadyExists : RegisteredError := ⟨"dclauth", 101, "account already exists"⟩

def accountDoesNotExist : RegisteredError := ⟨"dclauth", 102, "account not found"⟩

def pendingAccountAlreadyExists : RegisteredError :=
  ⟨"dclauth", 103, "pending account already exists"⟩

def pendingAccountDoesNotExist : RegisteredError := ⟨"dclauth", 104, "pending account not found"⟩

def pendingAccountRevocationAlreadyExists : RegisteredError :=
  ⟨"dclauth", 105, "pending account revocation already exists"⟩

def pendingAccountRevocationDoesNotExist : RegisteredError :=
  ⟨"dclauth", 106, "pending account revocation not found"⟩

def missingVendorIDForVendorAccount : RegisteredError := ⟨"dclauth", 107, "no Vendor ID provided"⟩

def errAccountAlreadyExists (address : String) : SdkError :=
  ⟨accountAlreadyExists,
    "Account associated with the address=" ++ address ++ " already exists on the ledger"⟩

def errAccountDoesNotExist (address : String) : SdkError :=
  ⟨accountDoesNotExist, "No account associated with the address=" ++ address ++ " on the ledger"⟩

def errPendingAccountAlreadyExists (address : String) : SdkError :=
  ⟨pendingAccountAlreadyExists,
    "Pending account associated with the address=" ++ address ++ " already exists on the ledger"⟩

def errPendingAccountDoesNotExist (address : String) : SdkError :=
  ⟨pendingAccountDoesNotExist,
    "No pending account associated with the address=" ++ address ++ " on the ledger"⟩

def errPendingAccountRevocationAlreadyExists (address : String) : SdkError :=
  ⟨pendingAccountRevocationAlreadyExists,
    "Pending account revocation associated with the address=" ++ address ++
      " already exists on the ledger"⟩

def errPendingAccountRevocationDoesNotExist (address : String) : SdkError :=
  ⟨pendingAccountRevocationDoesNotExist,
    "No pending account revocation associated with the address=" ++ address ++ " on the ledger"⟩

def errMissingVendorIDForVendorAccount : SdkError :=
  ⟨missingVendorIDForVendorAccount,
    "No Vendor ID is provided in the Vendor Role for the new account"⟩

/-! ## The store -/

/-- The records of the module. The four other kinds have the keys of accounts. -/
structure Store where
  account : AccountStore
  pendingAccount : KVStore Bytes PendingAccount
  pendingAccountRevocation : KVStore Bytes PendingAccountRevocation
  revokedAccount : KVStore Bytes RevokedAccount
  rejectedAccount : KVStore Bytes RejectedAccount
  accountStat : Option ℕ

namespace Store

/-- The store without records. -/
def empty : Store := ⟨.empty, .empty, .empty, .empty, .empty, none⟩

def isAccountPresent (s : Store) (address : AccAddress) : Bool := s.account.has (accountKey address)

def isPendingAccountPresent (s : Store) (address : AccAddress) : Bool :=
  s.pendingAccount.has (accountKey address)

def isPendingAccountRevocationPresent (s : Store) (address : AccAddress) : Bool :=
  s.pendingAccountRevocation.has (accountKey address)

def getAccountO (s : Store) (address : AccAddress) : Option Account :=
  s.account.get (accountKey address)

def getPendingAccount (s : Store) (address : AccAddress) : Option PendingAccount :=
  s.pendingAccount.get (accountKey address)

def getPendingAccountRevocation (s : Store) (address : AccAddress) :
    Option PendingAccountRevocation :=
  s.pendingAccountRevocation.get (accountKey address)

def getRevokedAccount (s : Store) (address : AccAddress) : Option RevokedAccount :=
  s.revokedAccount.get (accountKey address)

def getRejectedAccount (s : Store) (address : AccAddress) : Option RejectedAccount :=
  s.rejectedAccount.get (accountKey address)

def removeAccount (address : AccAddress) (s : Store) : Store :=
  { s with account := s.account.delete (accountKey address) }

def removePendingAccount (address : AccAddress) (s : Store) : Store :=
  { s with pendingAccount := s.pendingAccount.delete (accountKey address) }

def removePendingAccountRevocation (address : AccAddress) (s : Store) : Store :=
  { s with pendingAccountRevocation := s.pendingAccountRevocation.delete (accountKey address) }

def removeRevokedAccount (address : AccAddress) (s : Store) : Store :=
  { s with revokedAccount := s.revokedAccount.delete (accountKey address) }

def removeRejectedAccount (address : AccAddress) (s : Store) : Store :=
  { s with rejectedAccount := s.rejectedAccount.delete (accountKey address) }

section Codec

variable (bech32 : Bech32)

def setAccountO (account : Account) (s : Store) : Store :=
  { s with account := s.account.set (accountKey (bech32.getAddress account.address)) account }

/-- What the SDK calls to write an account back. The base account is built anew, with the address in
the spelling of the codec. -/
def setAccount (account : Account) (s : Store) : Store :=
  s.setAccountO bech32
    { address := bech32.string (bech32.getAddress account.address)
      pubKey := account.pubKey
      accountNumber := account.accountNumber
      sequence := account.sequence
      roles := account.roles
      approvals := account.approvals
      vendorID := account.vendorID
      rejects := account.rejects }

def setPendingAccount (account : PendingAccount) (s : Store) : Store :=
  { s with
    pendingAccount := s.pendingAccount.set (accountKey (bech32.getAddress account.address)) account }

def setPendingAccountRevocation (revocation : PendingAccountRevocation) (s : Store) : Store :=
  { s with
    pendingAccountRevocation :=
      s.pendingAccountRevocation.set (accountKey (bech32.getAddress revocation.address)) revocation }

def setRevokedAccount (revoked : RevokedAccount) (s : Store) : Store :=
  { s with
    revokedAccount :=
      s.revokedAccount.set (accountKey (bech32.getAddress revoked.account.address)) revoked }

def setRejectedAccount (account : RejectedAccount) (s : Store) : Store :=
  { s with
    rejectedAccount := s.rejectedAccount.set (accountKey (bech32.getAddress account.address)) account }

end Codec

/-- The number that is drawn next. -/
def nextAccountNumber (s : Store) : ℕ := s.accountStat.getD 0

/-- The store with the counter moved on, as a number of 64 bits. -/
def bumpAccountNumber (s : Store) : Store :=
  { s with accountStat := some ((s.nextAccountNumber + 1) % 2 ^ 64) }

end Store

/-- Draw an account number. -/
def getNextAccountNumber : Handler SdkError Store ℕ := fun s =>
  some (.ok s.nextAccountNumber, s.bumpAccountNumber)

@[simp] theorem getNextAccountNumber_bind_ok_iff {β : Type} {f : ℕ → Handler SdkError Store β}
    {b : β} {s s' : Store} :
    (getNextAccountNumber >>= f) s = some (.ok b, s') ↔
      f s.nextAccountNumber s.bumpAccountNumber = some (.ok b, s') := by
  simp [Handler.bind_ok_iff, getNextAccountNumber, and_assoc]

/-- The record of an account that is revoked, if it is active. -/
def addAccountToRevokedAccount (bech32 : Bech32) (accAddr : AccAddress) (approvals : List Grant)
    (reason : RevokedAccountReason) : Handler SdkError Store RevokedAccount := do
  let account ← Handler.readSome (fun s => s.getAccountO accAddr)
    (errAccountDoesNotExist (bech32.string accAddr))
  pure ⟨account, approvals, reason⟩

/-- What the evidence of a double signature does to the account of the validator: it is revoked, if
it is active. A pending revocation of the account stays. -/
def revokeMalicious (bech32 : Bech32) (accAddr : AccAddress) (s : Store) : Store :=
  match s.getAccountO accAddr with
  | none => s
  | some account =>
    (s.setRevokedAccount bech32 ⟨account, [], .maliciousValidator⟩).removeAccount accAddr

/-- The SDK reads the account of a signer, changes its key or its sequence number and writes it
back. -/
def writeBack (bech32 : Bech32) (signer : String) (pubKey : Bytes) (sequence : ℕ) (s : Store) :
    Store :=
  match bech32.accAddressFromBech32 signer with
  | .error _ => s
  | .ok accAddr =>
    match s.getAccountO accAddr with
    | none => s
    | some account => s.setAccount bech32 { account with pubKey := pubKey, sequence := sequence }

/-! ## Thresholds -/

/-- `AccountApprovalsPercent`, in per cent. -/
def accountApprovalsPercent : ℕ := 66

/-- `VendorAccountApprovalsPercent`, in per cent. -/
def vendorAccountApprovalsPercent : ℕ := 33

/-- The share of the trustees that has to approve an account: it is smaller for vendors. -/
def Account.approvalsPercent (account : Account) : ℕ :=
  if account.hasOnlyVendorRole .vendor then vendorAccountApprovalsPercent
  else accountApprovalsPercent

/-- The approvals that are needed, at least one. -/
def accountApprovalsCount (accounts : AccountStore) (percent : ℕ) : ℕ :=
  if roundPercent percent (accounts.countAccountsWithRole .trustee) = 0 then 1
  else roundPercent percent (accounts.countAccountsWithRole .trustee)

/-- The rejections that are needed; the share of vendors plays no part in them. -/
def accountRejectApprovalsCount (accounts : AccountStore) : ℕ :=
  accounts.countAccountsWithRole .trustee + 1 -
    accountApprovalsCount accounts accountApprovalsPercent

/-! ## Genesis -/

/-- The store of a chain that starts with these accounts: they are numbered in their order. -/
def initGenesis (bech32 : Bech32) (accountList : List Account) : Store :=
  accountList.foldl (fun s elem =>
    s.bumpAccountNumber.setAccountO bech32 { elem with accountNumber := s.nextAccountNumber })
    Store.empty

theorem initGenesis_append_singleton (bech32 : Bech32) (accountList : List Account)
    (elem : Account) :
    initGenesis bech32 (accountList ++ [elem]) =
      (initGenesis bech32 accountList).bumpAccountNumber.setAccountO bech32
        { elem with accountNumber := (initGenesis bech32 accountList).nextAccountNumber } :=
  List.foldl_append

end Dclauth

end ComplianceLedger
