import ComplianceLedger.Dclauth.Effect
import ComplianceLedger.Sdk.Validate

/-!
# The accounts of the ledger: rules of the messages

The messages are checked before they are executed. A proposed account comes with a key, whose address
is the address of the account, with roles that the ledger knows, and with a vendor ID if it is to be
the account of a vendor. No handler looks at the key again, and an account that is written back may
have another key: the records keep the rules as long as the SDK sets only a key of the right address.

How the address of a key is computed is left open, and so is the check of the base account that the
SDK makes.

## Main definitions

* `Keys`: the addresses of keys and the check of a base account
* `Msg.signer`, `Msg.validateBasic`: the signer of a message, and its check before it is executed
* `AccountRole.validate`, `Account.validate`: the check of a role and of an account
* `Account.WellFormed`, `WellFormed s`: the account passes its check and has a role; all accounts do
* `Act.Lawful s a`: the message passes its check, or the key that is written back may be set

## Main results

* `wellFormed_effect`: lawful steps keep the accounts well-formed
-/

open Machine Machine.TransitionSystem

namespace ComplianceLedger.Dclauth

/-! ## Errors -/

def errUnknownRequest : RegisteredError := ⟨"sdk", 6, "unknown request"⟩

def missingRoles : RegisteredError := ⟨"dclauth", 108, "no roles provided"⟩

def errMissingRoles : SdkError := ⟨missingRoles, "No roles provided"⟩

/-! ## Roles and keys -/

/-- The roles that the ledger knows. -/
def accountRoles : List AccountRole := [.vendor, .certificationCenter, .trustee, .nodeAdmin]

/-- The check of a role. -/
def AccountRole.validate (role : AccountRole) : Except SdkError Unit :=
  if accountRoles.contains role then .ok ()
  else
    .error ⟨errUnknownRequest, "Invalid Account Role: " ++ role.name ++ ". Supported roles: [[" ++
      " ".intercalate (accountRoles.map AccountRole.name) ++ "]]"⟩

theorem AccountRole.validate_eq_ok_iff {role : AccountRole} {u : Unit} :
    role.validate = .ok u ↔ role ∈ accountRoles := by
  unfold AccountRole.validate
  split
  · next h => simp [List.contains_iff_mem.mp h]
  · next h => simpa using h

/-- What the SDK knows of keys. -/
structure Keys (bech32 : Bech32) where
  /-- The address of a key. -/
  keyAddress : Bytes → AccAddress
  /-- The check of a base account, by its address and its key. -/
  validateBase : String → Bytes → Except SdkError Unit
  /-- An account passes if it has no key, or one of its address. -/
  validateBase_eq_ok : ∀ {address pubKey a}, bech32.accAddressFromBech32 address = .ok a →
    (pubKey = [] ∨ keyAddress pubKey = a) → validateBase address pubKey = .ok ()

/-! ## Messages -/

/-- The text of the signer of a message. -/
def Msg.signer : Msg → String
  | .proposeAddAccount msg => msg.signer
  | .approveAddAccount msg => msg.signer
  | .rejectAddAccount msg => msg.signer
  | .proposeRevokeAccount msg => msg.signer
  | .approveRevokeAccount msg => msg.signer

def MsgProposeAddAccount.rules (msg : MsgProposeAddAccount) : List Rule :=
  [required "Signer" msg.signer, required "Address" msg.address,
    ⟨msg.pubKey.isSome, errRequiredFieldMissing, "PubKey is a required field"⟩,
    ⟨msg.roles ≠ [], errRequiredFieldMissing, "Roles is a required field"⟩] ++
    within "VendorID" msg.vendorID 0 65535 ++ [maxLength "Info" msg.info 4096]

def MsgAccount.rules (msg : MsgAccount) : List Rule :=
  [required "Signer" msg.signer, required "Address" msg.address, maxLength "Info" msg.info 4096]

section Checks

variable (bech32 : Bech32) (keyAddress : Bytes → AccAddress)

/-- An address in a field of a message. The messages spell the first word of the error in two ways. -/
def checkAddress (invalid field text : String) : Except SdkError AccAddress :=
  if text = "" then .error ⟨errInvalidAddress, "Invalid " ++ field ++ ": it cannot be empty"⟩
  else
    match bech32.accAddressFromBech32 text with
    | .ok a => .ok a
    | .error e => .error ⟨errInvalidAddress, invalid ++ " " ++ field ++ ": (" ++ e ++ ")"⟩

/-- The check of a proposal. -/
def MsgProposeAddAccount.validateBasic (msg : MsgProposeAddAccount) : Except SdkError Unit := do
  let accAddr ← checkAddress bech32 "Invalid" "Account Address" msg.address
  let _ ← checkAddress bech32 "Invalid" "Signer" msg.signer
  match msg.pubKey with
  | none => .error ⟨errUnknownRequest, "Invalid PublicKey: it cannot be empty"⟩
  | some pk =>
    if keyAddress pk ≠ accAddr then
      .error ⟨errUnknownRequest, "account address and pubkey address do not match"⟩
    else if msg.roles = [] then .error errMissingRoles
    else do
      forM msg.roles AccountRole.validate
      if .vendor ∈ msg.roles ∧ msg.vendorID ≤ 0 then .error errMissingVendorIDForVendorAccount
      else validate msg.rules

/-- The check of the three votes that check the address. -/
def MsgAccount.validateBasic (invalid : String) (msg : MsgAccount) : Except SdkError Unit := do
  let _ ← checkAddress bech32 invalid "Account Address" msg.address
  let _ ← checkAddress bech32 invalid "Signer" msg.signer
  validate msg.rules

/-- The check of a rejection, which looks at the signer only. -/
def MsgAccount.validateReject (msg : MsgAccount) : Except SdkError Unit :=
  match bech32.accAddressFromBech32 msg.signer with
  | .ok _ => .ok ()
  | .error e => .error ⟨errInvalidAddress, "invalid signer address (" ++ e ++ ")"⟩

/-- The check of a message before it is executed. -/
def Msg.validateBasic : Msg → Except SdkError Unit
  | .proposeAddAccount msg => msg.validateBasic bech32 keyAddress
  | .approveAddAccount msg => msg.validateBasic bech32 "invalid"
  | .rejectAddAccount msg => msg.validateReject bech32
  | .proposeRevokeAccount msg => msg.validateBasic bech32 "Invalid"
  | .approveRevokeAccount msg => msg.validateBasic bech32 "invalid"

/-! ## Accounts -/

/-- The check of an account. -/
def Account.validate (keys : Keys bech32) (account : Account) : Except SdkError Unit := do
  keys.validateBase account.address account.pubKey
  forM account.roles AccountRole.validate
  if .vendor ∈ account.roles ∧ account.vendorID ≤ 0 then .error errMissingVendorIDForVendorAccount
  else .ok ()

/-- An account as the messages make it: it has an address, its key is of that address, and it has a
role, only roles that the ledger knows, and a vendor ID in the range. -/
structure Account.WellFormed (account : Account) : Prop where
  address : ∃ accAddr, bech32.accAddressFromBech32 account.address = .ok accAddr
  key : account.pubKey = [] ∨ keyAddress account.pubKey = bech32.getAddress account.address
  roles : account.roles ≠ []
  known : ∀ role ∈ account.roles, role ∈ accountRoles
  vendor : .vendor ∈ account.roles → 0 < account.vendorID
  vendorID : 0 ≤ account.vendorID ∧ account.vendorID ≤ 65535

/-- All accounts are well-formed, whatever their stage. -/
structure WellFormed (s : Store) : Prop where
  account : s.account.All fun _ account => account.WellFormed bech32 keyAddress
  pendingAccount : s.pendingAccount.All fun _ account => account.WellFormed bech32 keyAddress
  revokedAccount : s.revokedAccount.All fun _ revoked => revoked.account.WellFormed bech32 keyAddress
  rejectedAccount : s.rejectedAccount.All fun _ account => account.WellFormed bech32 keyAddress

/-- The message passes its check, or the key that is written back is the one the account has or one
of its address. -/
def Act.Lawful (s : Store) : Act → Prop
  | .deliver msg => msg.validateBasic bech32 keyAddress = .ok ()
  | .writeBack signer pubKey _ => ∀ accAddr account,
      bech32.accAddressFromBech32 signer = .ok accAddr → s.getAccountO accAddr = some account →
      pubKey = account.pubKey ∨ keyAddress pubKey = accAddr
  | .revokeMalicious _ => True

instance decidableLawful (s : Store) : ∀ a : Act, Decidable (a.Lawful bech32 keyAddress s)
  | .deliver msg => inferInstanceAs (Decidable (msg.validateBasic bech32 keyAddress = .ok ()))
  | .writeBack signer pubKey _ =>
    match hsigner : bech32.accAddressFromBech32 signer with
    | .error _ => isTrue fun _ _ ha _ => nomatch hsigner.symm.trans ha
    | .ok accAddr =>
      match hget : s.getAccountO accAddr with
      | none => isTrue fun a account ha hget' => by
          obtain rfl := Except.ok.inj (hsigner.symm.trans ha)
          exact nomatch hget.symm.trans hget'
      | some account =>
        decidable_of_iff (pubKey = account.pubKey ∨ keyAddress pubKey = accAddr)
          ⟨fun h a account' ha hget' => by
            obtain rfl := Except.ok.inj (hsigner.symm.trans ha)
            obtain rfl := Option.some.inj (hget.symm.trans hget')
            exact h, fun h => h accAddr account hsigner hget⟩
  | .revokeMalicious _ => isTrue trivial

end Checks

/-! ## Messages that pass their checks -/

section Kept

variable {bech32 : Bech32} {keyAddress : Bytes → AccAddress} {u : Unit}

theorem checkAddress_eq_ok {invalid field text : String} {a : AccAddress}
    (h : checkAddress bech32 invalid field text = .ok a) :
    bech32.accAddressFromBech32 text = .ok a := by
  unfold checkAddress at h
  split at h
  · cases h
  · split at h
    · next hdecode => rwa [Except.ok.inj h] at hdecode
    · cases h

/-- Roles pass their check if the ledger knows each of them. -/
theorem validate_roles_eq_ok_iff {roles : List AccountRole} :
    forM roles AccountRole.validate = .ok u ↔ ∀ role ∈ roles, role ∈ accountRoles := by
  induction roles with
  | nil => simp [pure, Except.pure]
  | cons role roles ih =>
    rw [List.forM_cons, bind_eq_ok_iff, List.forall_mem_cons, ← ih]
    simp [AccountRole.validate_eq_ok_iff]

/-- What a proposal that passes its check is like. -/
theorem MsgProposeAddAccount.of_validateBasic {msg : MsgProposeAddAccount}
    (h : msg.validateBasic bech32 keyAddress = .ok u) :
    ∃ accAddr pk, bech32.accAddressFromBech32 msg.address = .ok accAddr ∧ msg.pubKey = some pk ∧
      keyAddress pk = accAddr ∧ msg.roles ≠ [] ∧ (∀ role ∈ msg.roles, role ∈ accountRoles) ∧
      ¬ (.vendor ∈ msg.roles ∧ msg.vendorID ≤ 0) ∧ 0 ≤ msg.vendorID ∧ msg.vendorID ≤ 65535 := by
  unfold MsgProposeAddAccount.validateBasic at h
  obtain ⟨accAddr, haddress, h⟩ := bind_eq_ok_iff.mp h
  obtain ⟨signerAddr, -, h⟩ := bind_eq_ok_iff.mp h
  cases hpk : msg.pubKey with
  | none =>
    rw [hpk] at h
    cases h
  | some pk =>
    rw [hpk] at h
    dsimp only at h
    split at h
    · cases h
    · next hkey =>
      split at h
      · cases h
      · next hroles =>
        obtain ⟨⟨⟩, hknown, h⟩ := bind_eq_ok_iff.mp h
        split at h
        · cases h
        · next hvendor =>
          have hkept := validate_eq_ok_iff.mp h
          have hlower := hkept (atLeast "VendorID" msg.vendorID 0) (by simp [rules, within])
          have hupper := hkept (atMost "VendorID" msg.vendorID 65535) (by simp [rules, within])
          exact ⟨accAddr, pk, checkAddress_eq_ok haddress, rfl, not_not.mp hkey, hroles,
            validate_roles_eq_ok_iff.mp hknown, hvendor, by simpa [atLeast] using hlower,
            by simpa [atMost] using hupper⟩

theorem MsgAccount.signer_of_validateBasic {invalid : String} {msg : MsgAccount}
    (h : msg.validateBasic bech32 invalid = .ok u) :
    ∃ signerAddr, bech32.accAddressFromBech32 msg.signer = .ok signerAddr := by
  unfold MsgAccount.validateBasic at h
  obtain ⟨accAddr, -, h⟩ := bind_eq_ok_iff.mp h
  obtain ⟨signerAddr, hsigner, -⟩ := bind_eq_ok_iff.mp h
  exact ⟨signerAddr, checkAddress_eq_ok hsigner⟩

/-- The signer of a message that passes its check has an address. -/
theorem Msg.signer_of_validateBasic {msg : Msg} (h : msg.validateBasic bech32 keyAddress = .ok u) :
    ∃ signerAddr, bech32.accAddressFromBech32 msg.signer = .ok signerAddr := by
  cases msg with
  | proposeAddAccount msg =>
    rw [Msg.validateBasic, MsgProposeAddAccount.validateBasic] at h
    obtain ⟨accAddr, -, h⟩ := bind_eq_ok_iff.mp h
    obtain ⟨signerAddr, hsigner, -⟩ := bind_eq_ok_iff.mp h
    exact ⟨signerAddr, checkAddress_eq_ok hsigner⟩
  | rejectAddAccount msg =>
    rw [Msg.validateBasic, MsgAccount.validateReject] at h
    cases hsigner : bech32.accAddressFromBech32 msg.signer with
    | ok signerAddr => exact ⟨signerAddr, hsigner⟩
    | error e =>
      rw [hsigner] at h
      cases h
  | approveAddAccount msg => exact MsgAccount.signer_of_validateBasic h
  | proposeRevokeAccount msg => exact MsgAccount.signer_of_validateBasic h
  | approveRevokeAccount msg => exact MsgAccount.signer_of_validateBasic h

/-! ## Well-formed accounts -/

namespace Account.WellFormed

variable {account : Account}

/-- A well-formed account passes its check. -/
theorem validate_eq_ok {keys : Keys bech32} (h : account.WellFormed bech32 keys.keyAddress) :
    account.validate bech32 keys = .ok () := by
  obtain ⟨accAddr, haddress⟩ := h.address
  have hkey := h.key
  rw [Bech32.getAddress_of_ok haddress] at hkey
  rw [validate, bind_eq_ok_iff]
  refine ⟨(), keys.validateBase_eq_ok haddress hkey, ?_⟩
  rw [bind_eq_ok_iff]
  refine ⟨(), validate_roles_eq_ok_iff.mpr h.known, if_neg ?_⟩
  rintro ⟨hvendor, hzero⟩
  exact absurd (h.vendor hvendor) (not_lt.mpr hzero)

/-- Numbers and votes do not matter. -/
theorem of_votes (h : account.WellFormed bech32 keyAddress) (number : ℕ)
    (approvals rejects : List Grant) :
    WellFormed bech32 keyAddress
      { account with
        accountNumber := number
        approvals := approvals
        rejects := rejects } :=
  ⟨h.address, h.key, h.roles, h.known, h.vendor, h.vendorID⟩

/-- An account that is written back is in the spelling of the codec, and keeps its key or is given one
of its address. -/
theorem of_writeBack (h : account.WellFormed bech32 keyAddress) {accAddr : AccAddress}
    (hkeyed : bech32.getAddress account.address = accAddr) {pubKey : Bytes} (sequence : ℕ)
    (hkey : pubKey = account.pubKey ∨ keyAddress pubKey = accAddr) :
    WellFormed bech32 keyAddress
      { account with
        address := bech32.string accAddr
        pubKey := pubKey
        sequence := sequence } := by
  obtain ⟨accAddr', haddress⟩ := h.address
  rw [Bech32.getAddress_of_ok haddress] at hkeyed
  obtain rfl := hkeyed
  refine ⟨⟨accAddr', bech32.decode_string haddress⟩, ?_, h.roles, h.known, h.vendor, h.vendorID⟩
  rw [Bech32.getAddress_string haddress]
  rcases hkey with rfl | hkey
  · exact Bech32.getAddress_of_ok haddress ▸ h.key
  · exact .inr hkey

end Account.WellFormed

/-- A proposed account is well-formed. -/
theorem Proposal.wellFormed {s : Store} {msg : MsgProposeAddAccount}
    {signerAddr accAddr : AccAddress} {account : Account}
    (h : Proposal bech32 s msg signerAddr accAddr account)
    (hcheck : msg.validateBasic bech32 keyAddress = .ok ()) :
    account.WellFormed bech32 keyAddress := by
  obtain ⟨pk, hpk, rfl⟩ := h.account_eq
  obtain ⟨accAddr', pk', haddress, hpk', hkey, hroles, hknown, hvendor, hrange⟩ :=
    MsgProposeAddAccount.of_validateBasic hcheck
  obtain rfl := Except.ok.inj (h.address.symm.trans haddress)
  obtain rfl := Option.some.inj (hpk.symm.trans hpk')
  refine ⟨⟨accAddr, bech32.decode_string h.address⟩, .inr ?_, hroles, hknown, fun hrole => ?_, hrange⟩
  · exact hkey.trans (Bech32.getAddress_string h.address).symm
  · exact not_le.mp fun hzero => hvendor ⟨hrole, hzero⟩

/-- **Lawful steps keep the accounts well-formed.** -/
theorem wellFormed_effect {s s' : Store} {a : Act} (h : WellFormed bech32 keyAddress s)
    (hkeyed : Keyed bech32 s) (hlawful : a.Lawful bech32 keyAddress s)
    (he : Effect bech32 s a s') : WellFormed bech32 keyAddress s' := by
  cases he with
  | refused => exact h
  | proposed proposal =>
    exact { h with
      pendingAccount := h.pendingAccount.set ((proposal.wellFormed hlawful).of_votes _ _ _)
      rejectedAccount := h.rejectedAccount.delete _ }
  | addedAtOnce proposal =>
    exact { h with
      account := h.account.set ((proposal.wellFormed hlawful).of_votes _ _ _)
      rejectedAccount := h.rejectedAccount.delete _ }
  | approved vote =>
    have hfound := h.pendingAccount _ _ vote.pending
    exact { h with pendingAccount := h.pendingAccount.set (hfound.of_votes _ _ _) }
  | added vote =>
    have hfound := h.pendingAccount _ _ vote.pending
    exact { h with
      account := h.account.set (hfound.of_votes _ _ _)
      revokedAccount := h.revokedAccount.delete _
      pendingAccount := h.pendingAccount.delete _ }
  | rejected vote =>
    have hfound := h.pendingAccount _ _ vote.pending
    exact { h with pendingAccount := h.pendingAccount.set (hfound.of_votes _ _ _) }
  | discarded vote =>
    have hfound := h.pendingAccount _ _ vote.pending
    exact { h with
      rejectedAccount := h.rejectedAccount.set (hfound.of_votes _ _ _)
      pendingAccount := h.pendingAccount.delete _ }
  | revocationProposed | revocationApproved => exact { h with }
  | revokedAtOnce signed active =>
    exact { h with
      revokedAccount := h.revokedAccount.set (h.account _ _ active)
      account := h.account.delete _ }
  | revoked vote active =>
    exact { h with
      revokedAccount := h.revokedAccount.set (h.account _ _ active)
      account := h.account.delete _ }
  | @writtenBack _ accAddr account pubKey sequence signed active =>
    have haddress : bech32.getAddress account.address = accAddr :=
      accountKey_injective (hkeyed.account _ _ active).symm
    have hkey := hlawful accAddr account signed active
    exact { h with
      account := h.account.set ((h.account _ _ active).of_writeBack haddress sequence hkey) }
  | revokedMalicious active =>
    exact { h with
      revokedAccount := h.revokedAccount.set (h.account _ _ active)
      account := h.account.delete _ }

/-- A chain that starts with well-formed accounts has well-formed accounts. -/
theorem wellFormed_initGenesis {genesis : List Account}
    (h : ∀ account ∈ genesis, account.WellFormed bech32 keyAddress) :
    WellFormed bech32 keyAddress (initGenesis bech32 genesis) := by
  induction genesis using List.reverseRecOn with
  | nil => exact ⟨.empty, .empty, .empty, .empty⟩
  | append_singleton genesis elem ih =>
    have hearlier := ih fun account haccount => h account (List.mem_append_left _ haccount)
    have helem := h elem (by simp)
    rw [initGenesis_append_singleton]
    exact { hearlier with account := hearlier.account.set (helem.of_votes _ _ _) }

end Kept

end ComplianceLedger.Dclauth
