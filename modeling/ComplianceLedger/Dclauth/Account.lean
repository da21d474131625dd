import ComplianceLedger.Machine.KVStore
import ComplianceLedger.Sdk.Basic

/-!
# The accounts of the ledger

The account store of `dclauth`, as far as the other modules read it: whether an account has a role,
how many accounts have it, and which vendor an account belongs to.

## Main definitions

* `AccountRole`, `Account`: the roles and the accounts
* `AccountStore`: the accounts under their keys
* `hasRole`, `countAccountsWithRole`, `hasVendorID`: the questions the other modules ask
* `SignedByVendor`, `checkVendorRights`: the signer of a message is an account of a vendor, and the
  check for it
* `exampleCodec`, `exampleAccounts`: three trustees and a vendor
-/

open Machine

namespace ComplianceLedger.Dclauth

/-- The role of an account: any text, as it is stored and printed. The ledger knows four of them. -/
structure AccountRole where
  name : String
deriving DecidableEq, Repr

namespace AccountRole

def vendor : AccountRole := ⟨"Vendor"⟩

def certificationCenter : AccountRole := ⟨"CertificationCenter"⟩

def trustee : AccountRole := ⟨"Trustee"⟩

def nodeAdmin : AccountRole := ⟨"NodeAdmin"⟩

end AccountRole

/-- An account: the fields of the embedded base account and those of the ledger. -/
structure Account where
  address : String
  pubKey : Bytes
  accountNumber : ℕ
  sequence : ℕ
  roles : List AccountRole
  approvals : List Grant
  vendorID : ℤ
  rejects : List Grant
deriving DecidableEq, Repr

/-- The store key of an account. -/
def accountKey (address : AccAddress) : Bytes := address ++ utf8 "/"

/-- The accounts, by their keys. -/
abbrev AccountStore := KVStore Bytes Account

namespace AccountStore

/-- The account of an address. -/
def getAccount (accounts : AccountStore) (address : AccAddress) : Option Account :=
  accounts.get (accountKey address)

/-- Does the account of this address exist and have the role? -/
def hasRole (accounts : AccountStore) (address : AccAddress) (role : AccountRole) : Bool :=
  match accounts.getAccount address with
  | none => false
  | some account => account.roles.contains role

/-- Does the account of this address exist and have the vendor ID? -/
def hasVendorID (accounts : AccountStore) (address : AccAddress) (vid : ℤ) : Bool :=
  match accounts.getAccount address with
  | none => false
  | some account => account.vendorID = vid

/-- The text is the address of an account with the vendor role and the vendor ID. -/
def SignedByVendor (accounts : AccountStore) (bech32 : Bech32) (creator : String) (vid : ℤ) : Prop :=
  ∃ address account, bech32.accAddressFromBech32 creator = .ok address ∧
    accounts.getAccount address = some account ∧ .vendor ∈ account.roles ∧ account.vendorID = vid

theorem signedByVendor_iff {accounts : AccountStore} {bech32 : Bech32} {creator : String} {vid : ℤ} :
    accounts.SignedByVendor bech32 creator vid ↔
      ∃ address, bech32.accAddressFromBech32 creator = .ok address ∧
        accounts.hasRole address .vendor = true ∧ accounts.hasVendorID address vid = true := by
  refine exists_congr fun address => ?_
  rw [exists_and_left, hasRole, hasVendorID]
  cases accounts.getAccount address <;> simp

/-- Does the signer act for the vendor? The two modules that ask name the message and put the second
error in words of their own. -/
def checkVendorRights (accounts : AccountStore) (message association : String) (signer : AccAddress)
    (vid : Int32) : Except SdkError Unit :=
  if accounts.hasRole signer .vendor = false then
    .error ⟨errUnauthorized, message ++ " transaction should be signed by an account with the " ++
      AccountRole.vendor.name ++ " role"⟩
  else if accounts.hasVendorID signer vid.toInt = false then
    .error ⟨errUnauthorized, message ++ " transaction should be signed by a vendor account " ++
      association ++ " the vendorID " ++ toString vid ++ " "⟩
  else .ok ()

theorem checkVendorRights_eq_ok_iff {accounts : AccountStore} {message association : String}
    {signer : AccAddress} {vid : Int32} {u : Unit} :
    accounts.checkVendorRights message association signer vid = .ok u ↔
      accounts.hasRole signer .vendor = true ∧ accounts.hasVendorID signer vid.toInt = true := by
  unfold checkVendorRights
  split
  · next hrole => simp [hrole]
  · next hrole =>
    split
    · next hvid => simp [hvid]
    · next hvid => simp [hrole, hvid]

/-- The number of accounts with the role. -/
def countAccountsWithRole (accounts : AccountStore) (role : AccountRole) : ℕ :=
  accounts.values.countP fun account => account.roles.contains role

end AccountStore

/-! ## Three trustees

The accounts of the concrete runs in the later modules. -/

/-- The codec of three trustees and a vendor. -/
def exampleCodec : Bech32 :=
  Bech32.ofTexts ["cosmos1one", "cosmos1two", "cosmos1three", "cosmos1vendor"] (by decide)

/-- An account that has only its text and its roles. -/
def exampleAccount (text : String) (roles : List AccountRole) : Account :=
  ⟨text, [], 0, 0, roles, [], 0, []⟩

def exampleAccounts : AccountStore :=
  [("cosmos1one", [AccountRole.trustee]), ("cosmos1two", [.trustee]), ("cosmos1three", [.trustee]),
    ("cosmos1vendor", [.vendor])].foldl
    (fun accounts p => accounts.set (accountKey (utf8 p.1)) (exampleAccount p.1 p.2)) KVStore.empty

end ComplianceLedger.Dclauth
