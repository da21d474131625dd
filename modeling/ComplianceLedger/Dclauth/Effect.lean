import ComplianceLedger.Dclauth.Electorate
import ComplianceLedger.Dclauth.MsgServer

/-!
# What happens to the accounts

Every record lies under the key of the address that its own text decodes to. A step leaves the store
as it is, or does one of twelve things to the records of one address; `Effect` lists them with what
was found before and with the store that is left. The later modules use nothing else of the
handlers.

## Main definitions

* `Keyed bech32 s`: every record lies under its own key
* `PendingVote`, `RevocationVote`: a vote that is counted
* `Effect bech32 s a s'`: what happens to the records of one address

## Main results

* `step_effect`: every step is an effect
* `keyed_effect`, `keyed_of_reachable`: records lie under their own keys in every run
-/

open Machine Machine.Handler Machine.TransitionSystem

namespace ComplianceLedger.Dclauth

section Definitions

variable (bech32 : Bech32)

/-- Every record lies under the key of its own address. -/
structure Keyed (s : Store) : Prop where
  account : s.account.All fun k account => k = accountKey (bech32.getAddress account.address)
  pendingAccount : s.pendingAccount.All fun k account =>
    k = accountKey (bech32.getAddress account.address)
  pendingAccountRevocation : s.pendingAccountRevocation.All fun k revocation =>
    k = accountKey (bech32.getAddress revocation.address)
  revokedAccount : s.revokedAccount.All fun k revoked =>
    k = accountKey (bech32.getAddress revoked.account.address)
  rejectedAccount : s.rejectedAccount.All fun k account =>
    k = accountKey (bech32.getAddress account.address)

variable (s : Store)

/-- A trustee signs a message about an address. -/
structure SignedByTrustee (signer address : String) (signerAddr accAddr : AccAddress) : Prop where
  signer : bech32.accAddressFromBech32 signer = .ok signerAddr
  role : s.account.hasRole signerAddr .trustee = true
  address : bech32.accAddressFromBech32 address = .ok accAddr

/-- A vote on a pending account that is counted: it comes from a trustee who has neither approved nor
rejected the account. -/
structure PendingVote (msg : MsgAccount) (signerAddr accAddr : AccAddress)
    (found : PendingAccount) : Prop extends
    SignedByTrustee bech32 s msg.signer msg.address signerAddr accAddr where
  pending : s.pendingAccount.get (accountKey accAddr) = some found
  no_reject : found.hasRejectApprovalFrom (bech32.string signerAddr) = false
  no_approval : found.hasApprovalFrom (bech32.string signerAddr) = false

/-- A vote on a pending revocation that is counted. -/
structure RevocationVote (msg : MsgAccount) (signerAddr accAddr : AccAddress)
    (found : PendingAccountRevocation) : Prop extends
    SignedByTrustee bech32 s msg.signer msg.address signerAddr accAddr where
  pending : s.pendingAccountRevocation.get (accountKey accAddr) = some found
  no_approval : found.hasRevocationFrom (bech32.string signerAddr) = false

/-- A proposal that is accepted: it comes from a trustee, and is about an address that has neither an
active nor a pending account. -/
structure Proposal (msg : MsgProposeAddAccount) (signerAddr accAddr : AccAddress)
    (account : Account) : Prop extends
    SignedByTrustee bech32 s msg.signer msg.address signerAddr accAddr where
  not_active : s.account.get (accountKey accAddr) = none
  not_pending : s.pendingAccount.get (accountKey accAddr) = none
  account_eq : ∃ pk, msg.pubKey = some pk ∧ account = newAccount bech32 msg accAddr pk

/-- **What happens to the records of one address**: nothing, or one of twelve things. -/
inductive Effect : Act → Store → Prop
  | refused (a : Act) : Effect a s
  | proposed {msg : MsgProposeAddAccount} {signerAddr accAddr : AccAddress} {account : Account}
      (proposal : Proposal bech32 s msg signerAddr accAddr account)
      (count : 1 < accountApprovalsCount s.account account.approvalsPercent) :
      Effect (.deliver (.proposeAddAccount msg))
        { s with
          pendingAccount := s.pendingAccount.set (accountKey accAddr)
            { account with approvals := [⟨bech32.string signerAddr, msg.time, msg.info⟩] }
          rejectedAccount := s.rejectedAccount.delete (accountKey accAddr) }
  | addedAtOnce {msg : MsgProposeAddAccount} {signerAddr accAddr : AccAddress} {account : Account}
      (proposal : Proposal bech32 s msg signerAddr accAddr account)
      (count : accountApprovalsCount s.account account.approvalsPercent ≤ 1) :
      Effect (.deliver (.proposeAddAccount msg))
        { s.bumpAccountNumber with
          account := s.account.set (accountKey accAddr)
            { account with
              accountNumber := s.nextAccountNumber
              approvals := [⟨bech32.string signerAddr, msg.time, msg.info⟩] }
          rejectedAccount := s.rejectedAccount.delete (accountKey accAddr) }
  | approved {msg : MsgAccount} {signerAddr accAddr : AccAddress} {found : PendingAccount}
      (vote : PendingVote bech32 s msg signerAddr accAddr found)
      (count : found.approvals.length + 1 < accountApprovalsCount s.account found.approvalsPercent) :
      Effect (.deliver (.approveAddAccount msg))
        { s with
          pendingAccount := s.pendingAccount.set (accountKey accAddr)
            { found with approvals := found.approvals ++ [grantOf bech32 msg signerAddr] } }
  | added {msg : MsgAccount} {signerAddr accAddr : AccAddress} {found : PendingAccount}
      (vote : PendingVote bech32 s msg signerAddr accAddr found)
      (count : accountApprovalsCount s.account found.approvalsPercent ≤ found.approvals.length + 1) :
      Effect (.deliver (.approveAddAccount msg))
        { s.bumpAccountNumber with
          account := s.account.set (accountKey accAddr)
            { found with
              approvals := found.approvals ++ [grantOf bech32 msg signerAddr]
              accountNumber := s.nextAccountNumber }
          revokedAccount := s.revokedAccount.delete (accountKey accAddr)
          pendingAccount := s.pendingAccount.delete (accountKey accAddr) }
  | rejected {msg : MsgAccount} {signerAddr accAddr : AccAddress} {found : PendingAccount}
      (vote : PendingVote bech32 s msg signerAddr accAddr found)
      (count : found.rejects.length + 1 < accountRejectApprovalsCount s.account) :
      Effect (.deliver (.rejectAddAccount msg))
        { s with
          pendingAccount := s.pendingAccount.set (accountKey accAddr)
            { found with rejects := found.rejects ++ [grantOf bech32 msg signerAddr] } }
  | discarded {msg : MsgAccount} {signerAddr accAddr : AccAddress} {found : PendingAccount}
      (vote : PendingVote bech32 s msg signerAddr accAddr found)
      (count : accountRejectApprovalsCount s.account ≤ found.rejects.length + 1) :
      Effect (.deliver (.rejectAddAccount msg))
        { s.bumpAccountNumber with
          rejectedAccount := s.rejectedAccount.set (accountKey accAddr)
            { found with
              rejects := found.rejects ++ [grantOf bech32 msg signerAddr]
              accountNumber := s.nextAccountNumber }
          pendingAccount := s.pendingAccount.delete (accountKey accAddr) }
  | revocationProposed {msg : MsgAccount} {signerAddr accAddr : AccAddress} {account : Account}
      (signed : SignedByTrustee bech32 s msg.signer msg.address signerAddr accAddr)
      (active : s.account.get (accountKey accAddr) = some account)
      (free : s.pendingAccountRevocation.get (accountKey accAddr) = none)
      (count : 1 < accountApprovalsCount s.account accountApprovalsPercent) :
      Effect (.deliver (.proposeRevokeAccount msg))
        { s with
          pendingAccountRevocation := s.pendingAccountRevocation.set (accountKey accAddr)
            ⟨bech32.string accAddr, [grantOf bech32 msg signerAddr]⟩ }
  | revokedAtOnce {msg : MsgAccount} {signerAddr accAddr : AccAddress} {account : Account}
      (signed : SignedByTrustee bech32 s msg.signer msg.address signerAddr accAddr)
      (active : s.account.get (accountKey accAddr) = some account)
      (free : s.pendingAccountRevocation.get (accountKey accAddr) = none)
      (count : accountApprovalsCount s.account accountApprovalsPercent ≤ 1) :
      Effect (.deliver (.proposeRevokeAccount msg))
        { s with
          revokedAccount := s.revokedAccount.set (accountKey accAddr)
            ⟨account, [⟨msg.signer, 0, ""⟩], .trusteeVoting⟩
          account := s.account.delete (accountKey accAddr) }
  | revocationApproved {msg : MsgAccount} {signerAddr accAddr : AccAddress}
      {found : PendingAccountRevocation}
      (vote : RevocationVote bech32 s msg signerAddr accAddr found)
      (count : found.approvals.length + 1 < accountApprovalsCount s.account accountApprovalsPercent) :
      Effect (.deliver (.approveRevokeAccount msg))
        { s with
          pendingAccountRevocation := s.pendingAccountRevocation.set (accountKey accAddr)
            { found with approvals := found.approvals ++ [grantOf bech32 msg signerAddr] } }
  | revoked {msg : MsgAccount} {signerAddr accAddr : AccAddress}
      {found : PendingAccountRevocation} {account : Account}
      (vote : RevocationVote bech32 s msg signerAddr accAddr found)
      (active : s.account.get (accountKey accAddr) = some account)
      (count : accountApprovalsCount s.account accountApprovalsPercent ≤ found.approvals.length + 1) :
      Effect (.deliver (.approveRevokeAccount msg))
        { s with
          revokedAccount := s.revokedAccount.set (accountKey accAddr)
            ⟨account, found.approvals ++ [grantOf bech32 msg signerAddr], .trusteeVoting⟩
          account := s.account.delete (accountKey accAddr)
          pendingAccountRevocation := s.pendingAccountRevocation.delete (accountKey accAddr) }
  | writtenBack {signer : String} {accAddr : AccAddress} {account : Account} (pubKey : Bytes)
      (sequence : ℕ) (signed : bech32.accAddressFromBech32 signer = .ok accAddr)
      (active : s.account.get (accountKey accAddr) = some account) :
      Effect (.writeBack signer pubKey sequence)
        { s with
          account := s.account.set (accountKey accAddr)
            { account with
              address := bech32.string accAddr
              pubKey := pubKey
              sequence := sequence } }
  | revokedMalicious {accAddr : AccAddress} {account : Account}
      (active : s.account.get (accountKey accAddr) = some account) :
      Effect (.revokeMalicious accAddr)
        { s with
          revokedAccount := s.revokedAccount.set (accountKey accAddr)
            ⟨account, [], .maliciousValidator⟩
          account := s.account.delete (accountKey accAddr) }

end Definitions

/-! ## The handlers -/

section Inversion

variable {bech32 : Bech32} {s s' : Store} {u : Unit}

theorem trusteeSigner_ok {message signer : String} {signerAddr : AccAddress}
    (h : trusteeSigner bech32 message signer s = some (.ok signerAddr, s')) :
    bech32.accAddressFromBech32 signer = .ok signerAddr ∧
      s.account.hasRole signerAddr .trustee = true ∧ s = s' := by
  simp only [trusteeSigner, ofExcept_bind_ok_iff, read_bind_ok_iff, failIf_bind_ok_iff,
    pure_ok_iff] at h
  obtain ⟨addr, hsigner, hrole, rfl, rfl⟩ := h
  exact ⟨decodeAddress_eq_ok_iff.mp hsigner, by simpa using hrole, rfl⟩

theorem findPendingAccount_ok {message rejectKind : String} {msg : MsgAccount}
    {r : AccAddress × AccAddress × PendingAccount}
    (h : findPendingAccount bech32 message rejectKind msg s = some (.ok r, s')) :
    PendingVote bech32 s msg r.1 r.2.1 r.2.2 ∧ s = s' := by
  obtain ⟨signerAddr, s₁, h₁, h⟩ := bind_ok_iff.mp h
  obtain ⟨hsigner, hrole, rfl⟩ := trusteeSigner_ok h₁
  simp only [ofExcept_bind_ok_iff, readSome_bind_ok_iff, failIf_bind_ok_iff, pure_ok_iff] at h
  obtain ⟨accAddr, haddress, found, hpending, hreject, happroval, rfl, rfl⟩ := h
  exact ⟨⟨⟨hsigner, hrole, decodeAddress_eq_ok_iff.mp haddress⟩, hpending, by simpa using hreject,
    by simpa using happroval⟩, rfl⟩

theorem addAccountToRevokedAccount_bind_ok_iff {accAddr : AccAddress} {approvals : List Grant}
    {reason : RevokedAccountReason} {f : RevokedAccount → Handler SdkError Store Unit} :
    (addAccountToRevokedAccount bech32 accAddr approvals reason >>= f) s = some (.ok u, s') ↔
      ∃ account, s.account.get (accountKey accAddr) = some account ∧
        f ⟨account, approvals, reason⟩ s = some (.ok u, s') := by
  rw [bind_ok_iff]
  simp only [addAccountToRevokedAccount, readSome_bind_ok_iff, pure_ok_iff]
  constructor
  · rintro ⟨_, _, ⟨account, hget, rfl, rfl⟩, hf⟩
    exact ⟨account, hget, hf⟩
  · rintro ⟨account, hget, hf⟩
    exact ⟨_, s, ⟨account, hget, rfl, rfl⟩, hf⟩

/-- The address of a new account is that of the message. -/
theorem SignedByTrustee.getAddress_string {signer address : String}
    {signerAddr accAddr : AccAddress}
    (h : SignedByTrustee bech32 s signer address signerAddr accAddr) :
    bech32.getAddress (bech32.string accAddr) = accAddr :=
  Bech32.getAddress_string h.address

theorem proposeAddAccount_ok {msg : MsgProposeAddAccount}
    (h : proposeAddAccount bech32 msg s = some (.ok u, s')) :
    Effect bech32 s (.deliver (.proposeAddAccount msg)) s' := by
  obtain ⟨signerAddr, s₁, h₁, h⟩ := bind_ok_iff.mp h
  obtain ⟨hsigner, hrole, rfl⟩ := trusteeSigner_ok h₁
  simp only [failIf_bind_ok_iff, ofExcept_bind_ok_iff, read_bind_ok_iff,
    decodeAddress_eq_ok_iff, decodePubKey_eq_ok_iff] at h
  obtain ⟨-, accAddr, haddress, hactive, hpending, pk, hpk, h⟩ := h
  have hproposal : Proposal bech32 s msg signerAddr accAddr (newAccount bech32 msg accAddr pk) :=
    ⟨⟨hsigner, hrole, haddress⟩, KVStore.has_eq_false_iff.mp (Bool.eq_false_iff.mpr hactive),
      KVStore.has_eq_false_iff.mp (Bool.eq_false_iff.mpr hpending), pk, hpk, rfl⟩
  have hkey : bech32.getAddress (newAccount bech32 msg accAddr pk).address = accAddr :=
    hproposal.getAddress_string
  obtain ⟨⟨⟩, s₂, h₂, h⟩ := bind_ok_iff.mp h
  obtain rfl := write_ok_iff.mp h
  simp only [storeProposal, read_bind_ok_iff] at h₂
  split at h₂
  · next hcount =>
    obtain rfl := write_ok_iff.mp h₂
    simp only [Store.setPendingAccount, Store.removeRejectedAccount, hkey]
    exact Effect.proposed hproposal hcount
  · next hcount =>
    rw [getNextAccountNumber_bind_ok_iff] at h₂
    obtain rfl := write_ok_iff.mp h₂
    simp only [Store.setAccountO, Store.removeRejectedAccount, hkey]
    exact Effect.addedAtOnce hproposal (not_lt.mp hcount)

/-- The key of a pending account that is found is that of the address. -/
theorem PendingVote.key (hkeyed : Keyed bech32 s) {msg : MsgAccount}
    {signerAddr accAddr : AccAddress} {found : PendingAccount}
    (h : PendingVote bech32 s msg signerAddr accAddr found) :
    accountKey (bech32.getAddress found.address) = accountKey accAddr :=
  (hkeyed.pendingAccount _ _ h.pending).symm

theorem approveAddAccount_ok (hkeyed : Keyed bech32 s) {msg : MsgAccount}
    (h : approveAddAccount bech32 msg s = some (.ok u, s')) :
    Effect bech32 s (.deliver (.approveAddAccount msg)) s' := by
  obtain ⟨⟨signerAddr, accAddr, found⟩, s₁, h₁, h⟩ := bind_ok_iff.mp h
  obtain ⟨hvote, rfl⟩ := findPendingAccount_ok h₁
  simp only [read_bind_ok_iff, List.length_append, List.length_singleton] at h
  have hkey := hvote.key hkeyed
  split at h
  · next hcount =>
    rw [getNextAccountNumber_bind_ok_iff] at h
    simp only [write_bind_ok_iff, write_ok_iff] at h
    obtain rfl := h
    simp only [Store.setAccountO, Store.removeRevokedAccount, Store.removePendingAccount, hkey]
    exact Effect.added hvote hcount
  · next hcount =>
    obtain rfl := write_ok_iff.mp h
    simp only [Store.setPendingAccount, hkey]
    exact Effect.approved hvote (not_le.mp hcount)

theorem rejectAddAccount_ok (hkeyed : Keyed bech32 s) {msg : MsgAccount}
    (h : rejectAddAccount bech32 msg s = some (.ok u, s')) :
    Effect bech32 s (.deliver (.rejectAddAccount msg)) s' := by
  obtain ⟨⟨signerAddr, accAddr, found⟩, s₁, h₁, h⟩ := bind_ok_iff.mp h
  obtain ⟨hvote, rfl⟩ := findPendingAccount_ok h₁
  simp only [read_bind_ok_iff, List.length_append, List.length_singleton] at h
  have hkey := hvote.key hkeyed
  split at h
  · next hcount =>
    rw [getNextAccountNumber_bind_ok_iff] at h
    simp only [write_bind_ok_iff, write_ok_iff] at h
    obtain rfl := h
    simp only [Store.setRejectedAccount, Store.removePendingAccount, hkey]
    exact Effect.discarded hvote hcount
  · next hcount =>
    obtain rfl := write_ok_iff.mp h
    simp only [Store.setPendingAccount, hkey]
    exact Effect.rejected hvote (not_le.mp hcount)

theorem proposeRevokeAccount_ok (hkeyed : Keyed bech32 s) {msg : MsgAccount}
    (h : proposeRevokeAccount bech32 msg s = some (.ok u, s')) :
    Effect bech32 s (.deliver (.proposeRevokeAccount msg)) s' := by
  obtain ⟨signerAddr, s₁, h₁, h⟩ := bind_ok_iff.mp h
  obtain ⟨hsigner, hrole, rfl⟩ := trusteeSigner_ok h₁
  simp only [ofExcept_bind_ok_iff, read_bind_ok_iff, failIf_bind_ok_iff,
    decodeAddress_eq_ok_iff] at h
  obtain ⟨accAddr, haddress, hactive, hfree, h⟩ := h
  have hsigned : SignedByTrustee bech32 s msg.signer msg.address signerAddr accAddr :=
    ⟨hsigner, hrole, haddress⟩
  obtain ⟨account, haccount⟩ := KVStore.has_iff.mp (Bool.of_not_eq_false hactive)
  have hfree' := KVStore.has_eq_false_iff.mp (Bool.eq_false_iff.mpr hfree)
  split at h
  · next hcount =>
    obtain rfl := write_ok_iff.mp h
    simp only [Store.setPendingAccountRevocation, hsigned.getAddress_string]
    exact Effect.revocationProposed hsigned haccount hfree' hcount
  · next hcount =>
    rw [addAccountToRevokedAccount_bind_ok_iff] at h
    obtain ⟨account', haccount', h⟩ := h
    obtain rfl := Option.some.inj (haccount.symm.trans haccount')
    simp only [write_bind_ok_iff, write_ok_iff] at h
    obtain rfl := h
    simp only [Store.setRevokedAccount, Store.removeAccount, ← hkeyed.account _ _ haccount]
    exact Effect.revokedAtOnce hsigned haccount hfree' (not_lt.mp hcount)

/-- The key of a pending revocation that is found is that of the address. -/
theorem RevocationVote.key (hkeyed : Keyed bech32 s) {msg : MsgAccount}
    {signerAddr accAddr : AccAddress} {found : PendingAccountRevocation}
    (h : RevocationVote bech32 s msg signerAddr accAddr found) :
    accountKey (bech32.getAddress found.address) = accountKey accAddr :=
  (hkeyed.pendingAccountRevocation _ _ h.pending).symm

theorem approveRevokeAccount_ok (hkeyed : Keyed bech32 s) {msg : MsgAccount}
    (h : approveRevokeAccount bech32 msg s = some (.ok u, s')) :
    Effect bech32 s (.deliver (.approveRevokeAccount msg)) s' := by
  obtain ⟨signerAddr, s₁, h₁, h⟩ := bind_ok_iff.mp h
  obtain ⟨hsigner, hrole, rfl⟩ := trusteeSigner_ok h₁
  simp only [ofExcept_bind_ok_iff, readSome_bind_ok_iff, read_bind_ok_iff, failIf_bind_ok_iff,
    decodeAddress_eq_ok_iff, List.length_append, List.length_singleton] at h
  obtain ⟨accAddr, haddress, found, hpending, happroval, h⟩ := h
  have hvote : RevocationVote bech32 s msg signerAddr accAddr found :=
    ⟨⟨hsigner, hrole, haddress⟩, hpending, by simpa using happroval⟩
  split at h
  · next hcount =>
    rw [addAccountToRevokedAccount_bind_ok_iff] at h
    obtain ⟨account, haccount, h⟩ := h
    simp only [write_bind_ok_iff, write_ok_iff] at h
    obtain rfl := h
    simp only [Store.setRevokedAccount, Store.removeAccount, Store.removePendingAccountRevocation,
      ← hkeyed.account _ _ haccount]
    exact Effect.revoked hvote haccount hcount
  · next hcount =>
    obtain rfl := write_ok_iff.mp h
    simp only [Store.setPendingAccountRevocation, hvote.key hkeyed]
    exact Effect.revocationApproved hvote (not_le.mp hcount)

theorem writeBack_eq (hkeyed : Keyed bech32 s) {signer : String} {accAddr : AccAddress}
    {account : Account} (hsigner : bech32.accAddressFromBech32 signer = .ok accAddr)
    (haccount : s.account.get (accountKey accAddr) = some account) (pubKey : Bytes) (sequence : ℕ) :
    writeBack bech32 signer pubKey sequence s = { s with
      account := s.account.set (accountKey accAddr)
        { account with
          address := bech32.string accAddr
          pubKey := pubKey
          sequence := sequence } } := by
  have haddr : bech32.getAddress account.address = accAddr :=
    accountKey_injective (hkeyed.account _ _ haccount).symm
  simp only [writeBack, hsigner, Store.getAccountO, haccount, Store.setAccount, Store.setAccountO, haddr,
    Bech32.getAddress_string hsigner]

theorem effect_writeBack (hkeyed : Keyed bech32 s) (signer : String) (pubKey : Bytes)
    (sequence : ℕ) :
    Effect bech32 s (.writeBack signer pubKey sequence)
      (writeBack bech32 signer pubKey sequence s) := by
  cases hsigner : bech32.accAddressFromBech32 signer with
  | error =>
    simp only [writeBack, hsigner]
    exact Effect.refused _
  | ok accAddr =>
    cases haccount : s.account.get (accountKey accAddr) with
    | none =>
      simp only [writeBack, hsigner, Store.getAccountO, haccount]
      exact Effect.refused _
    | some account =>
      rw [writeBack_eq hkeyed hsigner haccount]
      exact Effect.writtenBack pubKey sequence hsigner haccount

theorem effect_revokeMalicious (hkeyed : Keyed bech32 s) (accAddr : AccAddress) :
    Effect bech32 s (.revokeMalicious accAddr) (revokeMalicious bech32 accAddr s) := by
  unfold revokeMalicious Store.getAccountO
  cases haccount : s.account.get (accountKey accAddr) with
  | none => exact Effect.refused _
  | some account =>
    simp only [Store.setRevokedAccount, Store.removeAccount, ← hkeyed.account _ _ haccount]
    exact Effect.revokedMalicious haccount

theorem handle_ok (hkeyed : Keyed bech32 s) {msg : Msg}
    (h : handle bech32 msg s = some (.ok u, s')) : Effect bech32 s (.deliver msg) s' := by
  cases msg with
  | proposeAddAccount msg => exact proposeAddAccount_ok h
  | approveAddAccount msg => exact approveAddAccount_ok hkeyed h
  | rejectAddAccount msg => exact rejectAddAccount_ok hkeyed h
  | proposeRevokeAccount msg => exact proposeRevokeAccount_ok hkeyed h
  | approveRevokeAccount msg => exact approveRevokeAccount_ok hkeyed h

/-- **Every step is an effect.** -/
theorem step_effect {genesis : List Account} {a : Act} (hkeyed : Keyed bech32 s)
    (h : (accounts bech32 genesis).step s a s') : Effect bech32 s a s' := by
  cases a with
  | deliver msg =>
    obtain ⟨r, hd⟩ := h
    rcases deliver_cases hd with ⟨u, -, hok⟩ | ⟨-, rfl⟩
    · exact handle_ok hkeyed hok
    · exact Effect.refused _
  | writeBack signer pubKey sequence =>
    obtain rfl := h
    exact effect_writeBack hkeyed signer pubKey sequence
  | revokeMalicious address =>
    obtain rfl := h
    exact effect_revokeMalicious hkeyed address

end Inversion

/-! ## Keys -/

section Keys

variable {bech32 : Bech32} {s s' : Store} {a : Act}

theorem Proposal.key {msg : MsgProposeAddAccount} {signerAddr accAddr : AccAddress}
    {account : Account} (h : Proposal bech32 s msg signerAddr accAddr account) :
    accountKey accAddr = accountKey (bech32.getAddress account.address) := by
  obtain ⟨pk, -, rfl⟩ := h.account_eq
  rw [newAccount, h.getAddress_string]

/-- A step leaves every record under its own key. -/
theorem keyed_effect (h : Keyed bech32 s) (he : Effect bech32 s a s') : Keyed bech32 s' := by
  cases he with
  | refused => exact h
  | proposed proposal =>
    exact { h with
      pendingAccount := h.pendingAccount.set proposal.key
      rejectedAccount := h.rejectedAccount.delete _ }
  | addedAtOnce proposal =>
    exact { h with
      account := h.account.set proposal.key
      rejectedAccount := h.rejectedAccount.delete _ }
  | approved vote =>
    exact { h with pendingAccount := h.pendingAccount.set (vote.key h).symm }
  | added vote =>
    exact { h with
      account := h.account.set (vote.key h).symm
      revokedAccount := h.revokedAccount.delete _
      pendingAccount := h.pendingAccount.delete _ }
  | rejected vote =>
    exact { h with pendingAccount := h.pendingAccount.set (vote.key h).symm }
  | discarded vote =>
    exact { h with
      rejectedAccount := h.rejectedAccount.set (vote.key h).symm
      pendingAccount := h.pendingAccount.delete _ }
  | revocationProposed signed =>
    exact { h with
      pendingAccountRevocation := h.pendingAccountRevocation.set
        (congrArg accountKey signed.getAddress_string.symm) }
  | revokedAtOnce signed active =>
    exact { h with
      revokedAccount := h.revokedAccount.set (h.account _ _ active)
      account := h.account.delete _ }
  | revocationApproved vote =>
    exact { h with
      pendingAccountRevocation := h.pendingAccountRevocation.set (vote.key h).symm }
  | revoked vote active =>
    exact { h with
      revokedAccount := h.revokedAccount.set (h.account _ _ active)
      account := h.account.delete _
      pendingAccountRevocation := h.pendingAccountRevocation.delete _ }
  | writtenBack pubKey sequence signed =>
    exact { h with
      account := h.account.set (congrArg accountKey (Bech32.getAddress_string signed).symm) }
  | revokedMalicious active =>
    exact { h with
      revokedAccount := h.revokedAccount.set (h.account _ _ active)
      account := h.account.delete _ }

theorem keyed_initGenesis (accountList : List Account) :
    Keyed bech32 (initGenesis bech32 accountList) := by
  -- the genesis is read from its start, so the induction takes the accounts from the end
  induction accountList using List.reverseRecOn with
  | nil => exact ⟨.empty, .empty, .empty, .empty, .empty⟩
  | append_singleton accountList elem ih =>
    rw [initGenesis_append_singleton]
    exact { ih with account := ih.account.set rfl }

/-- **In every run every record lies under its own key.** -/
theorem keyed_of_reachable {genesis : List Account}
    (h : (accounts bech32 genesis).Reachable s) : Keyed bech32 s :=
  h.invariant (keyed_initGenesis genesis) fun hs hstep => keyed_effect hs (step_effect hs hstep)

/-- Every step of a run is an effect. -/
theorem effect_of_reachable {genesis : List Account} (h : (accounts bech32 genesis).Reachable s)
    (hstep : (accounts bech32 genesis).step s a s') : Effect bech32 s a s' :=
  step_effect (keyed_of_reachable h) hstep

end Keys

end ComplianceLedger.Dclauth
