import ComplianceLedger.Dclauth.LifeCycle
import ComplianceLedger.Machine.Load

/-!
# Export and import of the accounts

The store is exported as a genesis state, from which another chain can start. The export lists the
records of each kind in the order of their keys, and the import sets them one after another. An exported
state passes its own check, and the import gives back everything but the numbers of the accounts: these
are drawn anew, from zero on and in the order of the addresses, and the counter is then set to what it
was. Numbers that were drawn in another order, or that were followed by a revocation, come out
different.

## Main definitions

* `GenesisState`, `GenesisState.validate`: a genesis state and its check
* `initGenesisState`, `exportGenesis`: import and export
* `imported bech32 gs`: the runs of a chain that starts from a genesis state
* `InOrder accountList`: the accounts have the numbers 0, 1, ... in the order of their keys

## Main results

* `validate_exportGenesis`: an exported state passes its check
* `genesis_round_trip`: the import gives back the store where the accounts are numbered in order, and
  only there
* `example_renumbered`: a run after which an account comes back under another number
-/

open Machine Machine.TransitionSystem

namespace ComplianceLedger.Dclauth

/-- What a chain starts with. -/
structure GenesisState where
  accountList : List Account
  pendingAccountList : List PendingAccount
  pendingAccountRevocationList : List PendingAccountRevocation
  accountStat : Option ℕ
  revokedAccountList : List RevokedAccount
  rejectedAccountList : List RejectedAccount
deriving DecidableEq, Repr

/-! ## The check -/

section Validate

variable {α : Type} {index : α → Except String Bytes} {name : String} {seen : List Bytes} {l : List α}

/-- No two items have the same index, and all have one. -/
def checkIndexes (index : α → Except String Bytes) (name : String) :
    List Bytes → List α → Except String Unit
  | _, [] => .ok ()
  | seen, elem :: rest =>
    match index elem with
    | .error e => .error e
    | .ok k =>
      if k ∈ seen then .error ("duplicated index for " ++ name)
      else checkIndexes index name (k :: seen) rest

theorem checkIndexes_eq_ok {key : α → Bytes} (hindex : ∀ elem ∈ l, index elem = .ok (key elem))
    (hnodup : (l.map key).Nodup) (hseen : ∀ elem ∈ l, key elem ∉ seen) :
    checkIndexes index name seen l = .ok () := by
  induction l generalizing seen with
  | nil => rfl
  | cons elem rest ih =>
    rw [List.map_cons, List.nodup_cons] at hnodup
    simp only [checkIndexes, hindex elem List.mem_cons_self,
      if_neg (hseen elem List.mem_cons_self)]
    refine ih (fun e he => hindex e (List.mem_cons_of_mem elem he)) hnodup.2 fun e he hk => ?_
    rcases List.mem_cons.mp hk with hk | hk
    · exact hnodup.1 (hk ▸ List.mem_map_of_mem he)
    · exact hseen e (List.mem_cons_of_mem elem he) hk

theorem index_of_checkIndexes {u : Unit} (h : checkIndexes index name seen l = .ok u) :
    ∀ elem ∈ l, ∃ k, index elem = .ok k := by
  induction l generalizing seen with
  | nil => exact fun elem helem => absurd helem List.not_mem_nil
  | cons elem rest ih =>
    unfold checkIndexes at h
    split at h
    · cases h
    · next k hk =>
      split_ifs at h
      intro e he
      rcases List.mem_cons.mp he with rfl | he
      · exact ⟨k, hk⟩
      · exact ih h e he

end Validate

section Definitions

variable (bech32 : Bech32)

/-- The key of a text that has to be an address. -/
def addressIndex (text : String) : Except String Bytes :=
  match bech32.accAddressFromBech32 text with
  | .error e => .error e
  | .ok address => .ok (accountKey address)

/-- The key that a record is stored under. -/
def recordKey (text : String) : Bytes := accountKey (bech32.getAddress text)

/-- The check of a genesis state. The addresses of the last two kinds do not have to be such. -/
def GenesisState.validate (gs : GenesisState) : Except String Unit := do
  checkIndexes (fun elem => addressIndex bech32 elem.address) "account" [] gs.accountList
  checkIndexes (fun elem => addressIndex bech32 elem.address) "pendingAccount" []
    gs.pendingAccountList
  checkIndexes (fun elem => addressIndex bech32 elem.address) "pendingAccountRevocation" []
    gs.pendingAccountRevocationList
  checkIndexes (fun elem => .ok (recordKey bech32 elem.account.address)) "revokedAccount" []
    gs.revokedAccountList
  checkIndexes (fun elem => .ok (recordKey bech32 elem.address)) "rejectedAccount" []
    gs.rejectedAccountList

/-! ## Import and export -/

def Store.setAccountStat (number : ℕ) (s : Store) : Store := { s with accountStat := some number }

/-- Import a genesis state. The accounts get new numbers; the counter is set afterwards. -/
def initGenesisState (gs : GenesisState) : Store :=
  let s := initGenesis bech32 gs.accountList
  let s := gs.pendingAccountList.foldl (fun s elem => s.setPendingAccount bech32 elem) s
  let s := gs.pendingAccountRevocationList.foldl
    (fun s elem => s.setPendingAccountRevocation bech32 elem) s
  let s := match gs.accountStat with
    | some accountStat => s.setAccountStat accountStat
    | none => s
  let s := gs.revokedAccountList.foldl (fun s elem => s.setRevokedAccount bech32 elem) s
  gs.rejectedAccountList.foldl (fun s elem => s.setRejectedAccount bech32 elem) s

/-- Export the store. -/
def exportGenesis (s : Store) : GenesisState where
  accountList := s.account.values
  pendingAccountList := s.pendingAccount.values
  pendingAccountRevocationList := s.pendingAccountRevocation.values
  accountStat := s.accountStat
  revokedAccountList := s.revokedAccount.values
  rejectedAccountList := s.rejectedAccount.values

/-- The runs of a chain that starts from a genesis state. -/
def imported (gs : GenesisState) : TransitionSystem Store Act where
  init := initGenesisState bech32 gs
  step := (accounts bech32 gs.accountList).step

end Definitions

variable {bech32 : Bech32} {s s' : Store} {a : Act} {gs : GenesisState}

/-! ## The import, kind by kind -/

section Loops

variable (bech32) (s)

theorem foldl_setPendingAccount (l : List PendingAccount) :
    l.foldl (fun s elem => s.setPendingAccount bech32 elem) s =
      { s with
        pendingAccount := s.pendingAccount.load (fun elem => recordKey bech32 elem.address)
          (fun elem => elem) l } :=
  foldl_load Store.pendingAccount (fun t s => { s with pendingAccount := t })
    (fun _ _ => rfl) (fun _ _ _ => rfl) (fun _ => rfl)
    (fun elem : PendingAccount => recordKey bech32 elem.address) (fun elem => elem) l s

theorem foldl_setPendingAccountRevocation (l : List PendingAccountRevocation) :
    l.foldl (fun s elem => s.setPendingAccountRevocation bech32 elem) s =
      { s with
        pendingAccountRevocation := s.pendingAccountRevocation.load
          (fun elem => recordKey bech32 elem.address) (fun elem => elem) l } :=
  foldl_load Store.pendingAccountRevocation
    (fun t s => { s with pendingAccountRevocation := t })
    (fun _ _ => rfl) (fun _ _ _ => rfl) (fun _ => rfl)
    (fun elem : PendingAccountRevocation => recordKey bech32 elem.address) (fun elem => elem) l s

theorem foldl_setRevokedAccount (l : List RevokedAccount) :
    l.foldl (fun s elem => s.setRevokedAccount bech32 elem) s =
      { s with
        revokedAccount := s.revokedAccount.load (fun elem => recordKey bech32 elem.account.address)
          (fun elem => elem) l } :=
  foldl_load Store.revokedAccount (fun t s => { s with revokedAccount := t })
    (fun _ _ => rfl) (fun _ _ _ => rfl) (fun _ => rfl)
    (fun elem : RevokedAccount => recordKey bech32 elem.account.address) (fun elem => elem) l s

theorem foldl_setRejectedAccount (l : List RejectedAccount) :
    l.foldl (fun s elem => s.setRejectedAccount bech32 elem) s =
      { s with
        rejectedAccount := s.rejectedAccount.load (fun elem => recordKey bech32 elem.address)
          (fun elem => elem) l } :=
  foldl_load Store.rejectedAccount (fun t s => { s with rejectedAccount := t })
    (fun _ _ => rfl) (fun _ _ _ => rfl) (fun _ => rfl)
    (fun elem : RejectedAccount => recordKey bech32 elem.address) (fun elem => elem) l s

end Loops

/-- The store that an import gives, kind by kind. -/
theorem initGenesisState_eq (bech32 : Bech32) (gs : GenesisState) :
    initGenesisState bech32 gs =
      { account := (initGenesis bech32 gs.accountList).account
        pendingAccount := KVStore.empty.load (fun elem => recordKey bech32 elem.address)
          (fun elem => elem) gs.pendingAccountList
        pendingAccountRevocation := KVStore.empty.load (fun elem => recordKey bech32 elem.address)
          (fun elem => elem) gs.pendingAccountRevocationList
        revokedAccount := KVStore.empty.load (fun elem => recordKey bech32 elem.account.address)
          (fun elem => elem) gs.revokedAccountList
        rejectedAccount := KVStore.empty.load (fun elem => recordKey bech32 elem.address)
          (fun elem => elem) gs.rejectedAccountList
        accountStat := gs.accountStat.or (initGenesis bech32 gs.accountList).accountStat } := by
  obtain ⟨accounts, accountStat, haccounts⟩ := initGenesis_eq bech32 gs.accountList
  simp only [initGenesisState, foldl_setPendingAccount, foldl_setPendingAccountRevocation,
    foldl_setRevokedAccount, foldl_setRejectedAccount, haccounts]
  cases gs.accountStat <;> rfl

/-! ## The numbers of an import -/

/-- An account under another number. -/
def Account.withNumber (account : Account) (number : ℕ) : Account :=
  { account with accountNumber := number }

/-- An import numbers the accounts in the order of the list. -/
theorem initGenesis_eq_load (bech32 : Bech32) (accountList : List Account) :
    initGenesis bech32 accountList =
      { Store.empty with
        account := KVStore.empty.load (fun e => recordKey bech32 e.1.address)
          (fun e => e.1.withNumber (e.2 % 2 ^ 64)) accountList.zipIdx
        accountStat := if accountList = [] then none else some (accountList.length % 2 ^ 64) } := by
  -- the accounts are numbered from the start, so the induction takes them from the end
  induction accountList using List.reverseRecOn with
  | nil => rfl
  | append_singleton accountList elem ih =>
    have hnext : (initGenesis bech32 accountList).nextAccountNumber =
        accountList.length % 2 ^ 64 := by
      rw [ih]
      by_cases hnil : accountList = []
      · subst hnil
        rfl
      · simp [Store.nextAccountNumber, hnil]
    rw [initGenesis_append_singleton, Store.bumpAccountNumber, hnext, ih]
    simp [Store.setAccountO, KVStore.load, List.zipIdx_append, Account.withNumber, recordKey,
      Nat.mod_add_mod]

/-- The accounts have the numbers 0, 1, ... of 64 bits in the order of the list. -/
def InOrder (accountList : List Account) : Prop :=
  ∀ e ∈ accountList.zipIdx, e.1.accountNumber = e.2 % 2 ^ 64

instance (accountList : List Account) : Decidable (InOrder accountList) :=
  inferInstanceAs (Decidable (∀ e ∈ accountList.zipIdx, _))

theorem Account.withNumber_eq_self_iff {account : Account} {number : ℕ} :
    account.withNumber number = account ↔ account.accountNumber = number := by
  cases account
  simp [withNumber, eq_comm]

/-- **The accounts come back** when their numbers are in order, and only then. -/
theorem account_initGenesis_eq_iff (h : Keyed bech32 s) :
    (initGenesis bech32 s.account.values).account = s.account ↔ InOrder s.account.values := by
  have hget : ∀ e ∈ s.account.values.zipIdx,
      s.account.get (recordKey bech32 e.1.address) = some e.1 := fun e he =>
    h.account.mem_values_iff.mp (List.fst_mem_of_mem_zipIdx he)
  rw [initGenesis_eq_load]
  constructor
  · intro heq e he
    have hnodup : (s.account.values.zipIdx.map
        fun e => recordKey bech32 e.1.address).Nodup := by
      have := KVStore.nodup_map_values h.account
      rwa [← List.zipIdx_map_fst 0 s.account.values, List.map_map] at this
    have hload : (KVStore.empty.load (fun e => recordKey bech32 e.1.address)
        (fun e => e.1.withNumber (e.2 % 2 ^ 64)) s.account.values.zipIdx).get
          (recordKey bech32 e.1.address) = some (e.1.withNumber (e.2 % 2 ^ 64)) := by
      -- the keys are distinct, so no other account is set in its place
      refine KVStore.get_load_of_mem ⟨e, he, rfl⟩ fun e' he' hkey => ?_
      rw [List.inj_on_of_nodup_map hnodup he' he hkey]
    simp only at heq
    rw [heq, hget e he] at hload
    exact Account.withNumber_eq_self_iff.mp (Option.some.inj hload).symm
  · intro horder
    apply KVStore.load_eq
    · intro e he
      rw [hget e he, Account.withNumber_eq_self_iff.mpr (horder e he)]
    · intro k account hk
      obtain ⟨i, hi⟩ := List.mem_iff_getElem?.mp (KVStore.mem_values_iff.mpr ⟨k, hk⟩)
      exact ⟨(account, i), List.mk_mem_zipIdx_iff_getElem?.mpr hi, (h.account k account hk).symm⟩

/-! ## The check of an exported state -/

/-- The text is an address. -/
def IsAddress (bech32 : Bech32) (text : String) : Prop :=
  ∃ address, bech32.accAddressFromBech32 text = .ok address

theorem addressIndex_of_isAddress {text : String} (h : IsAddress bech32 text) :
    addressIndex bech32 text = .ok (recordKey bech32 text) := by
  obtain ⟨address, haddress⟩ := h
  rw [addressIndex, recordKey, Bech32.getAddress_of_ok haddress, haddress]

theorem isAddress_of_addressIndex {text : String} {k : Bytes}
    (h : addressIndex bech32 text = .ok k) : IsAddress bech32 text := by
  unfold addressIndex at h
  split at h
  · cases h
  · next address haddress => exact ⟨address, haddress⟩

/-- Accounts and proposals are about addresses, and accounts have been counted. -/
structure Addressed (bech32 : Bech32) (s : Store) : Prop where
  account : s.account.All fun _ account => IsAddress bech32 account.address
  pendingAccount : s.pendingAccount.All fun _ account => IsAddress bech32 account.address
  pendingAccountRevocation : s.pendingAccountRevocation.All fun _ revocation =>
    IsAddress bech32 revocation.address
  counted : s.accountStat = none → s.account.All fun _ _ => False

theorem SignedByTrustee.isAddress {signer address : String} {signerAddr accAddr : AccAddress}
    (h : SignedByTrustee bech32 s signer address signerAddr accAddr) :
    IsAddress bech32 (bech32.string accAddr) :=
  ⟨accAddr, bech32.decode_string h.address⟩

theorem Proposal.isAddress {msg : MsgProposeAddAccount} {signerAddr accAddr : AccAddress}
    {account : Account} (h : Proposal bech32 s msg signerAddr accAddr account) :
    IsAddress bech32 account.address := by
  obtain ⟨pk, -, rfl⟩ := h.account_eq
  exact h.toSignedByTrustee.isAddress

theorem PendingVote.isAddress {msg : MsgAccount} {signerAddr accAddr : AccAddress}
    {found : PendingAccount} (vote : PendingVote bech32 s msg signerAddr accAddr found)
    (h : Addressed bech32 s) : IsAddress bech32 found.address :=
  h.pendingAccount _ _ vote.pending

theorem RevocationVote.isAddress {msg : MsgAccount} {signerAddr accAddr : AccAddress}
    {found : PendingAccountRevocation} (vote : RevocationVote bech32 s msg signerAddr accAddr found)
    (h : Addressed bech32 s) : IsAddress bech32 found.address :=
  h.pendingAccountRevocation _ _ vote.pending

theorem addressed_effect (h : Addressed bech32 s) (he : Effect bech32 s a s') :
    Addressed bech32 s' := by
  cases he with
  | refused => exact h
  | proposed proposal =>
    exact { h with pendingAccount := h.pendingAccount.set proposal.isAddress }
  | addedAtOnce proposal =>
    exact { h with
      account := h.account.set proposal.isAddress
      counted := fun hstat => nomatch hstat }
  | approved vote =>
    exact { h with pendingAccount := h.pendingAccount.set (vote.isAddress h) }
  | added vote =>
    exact { h with
      account := h.account.set (vote.isAddress h)
      pendingAccount := h.pendingAccount.delete _
      counted := fun hstat => nomatch hstat }
  | rejected vote =>
    exact { h with pendingAccount := h.pendingAccount.set (vote.isAddress h) }
  | discarded vote =>
    exact { h with
      pendingAccount := h.pendingAccount.delete _
      counted := fun hstat => nomatch hstat }
  | revocationProposed signed =>
    exact { h with
      pendingAccountRevocation := h.pendingAccountRevocation.set signed.isAddress }
  | revocationApproved vote =>
    exact { h with
      pendingAccountRevocation := h.pendingAccountRevocation.set (vote.isAddress h) }
  | revoked vote active =>
    exact { h with
      account := h.account.delete _
      pendingAccountRevocation := h.pendingAccountRevocation.delete _
      counted := fun hstat => (h.counted hstat).delete _ }
  | revokedAtOnce signed active =>
    exact { h with
      account := h.account.delete _
      counted := fun hstat => (h.counted hstat).delete _ }
  | revokedMalicious active =>
    exact { h with
      account := h.account.delete _
      counted := fun hstat => (h.counted hstat).delete _ }
  | writtenBack pubKey sequence signed active =>
    -- the account that is written back is one that was counted
    exact { h with
      account := h.account.set ⟨_, bech32.decode_string signed⟩
      counted := fun hstat => (h.counted hstat _ _ active).elim }

/-- The checks of the five kinds. -/
theorem validate_eq_ok_iff_checks : gs.validate bech32 = .ok () ↔
    checkIndexes (fun elem => addressIndex bech32 elem.address) "account" [] gs.accountList =
      .ok () ∧
    checkIndexes (fun elem => addressIndex bech32 elem.address) "pendingAccount" []
      gs.pendingAccountList = .ok () ∧
    checkIndexes (fun elem => addressIndex bech32 elem.address) "pendingAccountRevocation" []
      gs.pendingAccountRevocationList = .ok () ∧
    checkIndexes (fun elem => .ok (recordKey bech32 elem.account.address)) "revokedAccount" []
      gs.revokedAccountList = .ok () ∧
    checkIndexes (fun elem => .ok (recordKey bech32 elem.address)) "rejectedAccount" []
      gs.rejectedAccountList = .ok () := by
  have hbind : ∀ x y : Except String Unit,
      (x >>= fun _ => y) = .ok () ↔ x = .ok () ∧ y = .ok () := by
    rintro (e | ⟨⟩) y <;> simp [bind, Except.bind]
  simp only [GenesisState.validate, hbind]

/-- The values of a store pass the check of their indexes. -/
theorem checkIndexes_values {V : Type} {index : V → Except String Bytes} {key : V → Bytes}
    {t : KVStore Bytes V} (name : String) (h : t.All fun k v => k = key v)
    (hindex : t.All fun _ v => index v = .ok (key v)) :
    checkIndexes index name [] t.values = .ok () := by
  have hvalues : ∀ v ∈ t.values, index v = .ok (key v) := by
    intro v hv
    obtain ⟨k, hk⟩ := KVStore.mem_values_iff.mp hv
    exact hindex k v hk
  exact checkIndexes_eq_ok hvalues (KVStore.nodup_map_values h) fun _ _ => List.not_mem_nil

/-- An exported state passes its check. -/
theorem validate_exportGenesis (hkeyed : Keyed bech32 s) (h : Addressed bech32 s) :
    (exportGenesis s).validate bech32 = .ok () := by
  refine validate_eq_ok_iff_checks.mpr ⟨?_, ?_, ?_, ?_, ?_⟩
  · exact checkIndexes_values _ hkeyed.account fun k account hk =>
      addressIndex_of_isAddress (h.account k account hk)
  · exact checkIndexes_values _ hkeyed.pendingAccount fun k account hk =>
      addressIndex_of_isAddress (h.pendingAccount k account hk)
  · exact checkIndexes_values _ hkeyed.pendingAccountRevocation fun k revocation hk =>
      addressIndex_of_isAddress (h.pendingAccountRevocation k revocation hk)
  · exact checkIndexes_values _ hkeyed.revokedAccount fun _ _ _ => rfl
  · exact checkIndexes_values _ hkeyed.rejectedAccount fun _ _ _ => rfl

/-! ## Runs from a genesis state -/

theorem keyed_initGenesisState (gs : GenesisState) : Keyed bech32 (initGenesisState bech32 gs) := by
  rw [initGenesisState_eq]
  exact {
    account := (keyed_initGenesis gs.accountList).account
    pendingAccount := KVStore.All.empty.load fun _ _ => rfl
    pendingAccountRevocation := KVStore.All.empty.load fun _ _ => rfl
    revokedAccount := KVStore.All.empty.load fun _ _ => rfl
    rejectedAccount := KVStore.All.empty.load fun _ _ => rfl }

theorem isAddress_of_checkIndexes {V : Type} {text : V → String} {name : String} {l : List V}
    (h : checkIndexes (fun elem => addressIndex bech32 (text elem)) name [] l = .ok ()) :
    ∀ elem ∈ l, IsAddress bech32 (text elem) := by
  intro elem helem
  obtain ⟨k, hk⟩ := index_of_checkIndexes h elem helem
  exact isAddress_of_addressIndex hk

/-- A genesis state that passes its check is about addresses. -/
theorem addressed_initGenesisState (h : gs.validate bech32 = .ok ()) :
    Addressed bech32 (initGenesisState bech32 gs) := by
  obtain ⟨haccount, hpending, hrevocation, -, -⟩ := validate_eq_ok_iff_checks.mp h
  rw [initGenesisState_eq, initGenesis_eq_load]
  refine ⟨?_, ?_, ?_, ?_⟩
  · exact KVStore.All.empty.load fun e he =>
      isAddress_of_checkIndexes haccount e.1 (List.fst_mem_of_mem_zipIdx he)
  · exact KVStore.All.empty.load (isAddress_of_checkIndexes hpending)
  · exact KVStore.All.empty.load (isAddress_of_checkIndexes hrevocation)
  · intro hstat
    -- an import of any account starts the counter
    have hnil : gs.accountList = [] := by
      by_contra hne
      simp [hne] at hstat
    rw [hnil]
    exact KVStore.All.empty

theorem effect_of_imported (hkeyed : Keyed bech32 s) (h : (imported bech32 gs).step s a s') :
    Effect bech32 s a s' := by
  have hstep : (accounts bech32 gs.accountList).step s a s' := h
  exact step_effect hkeyed hstep

theorem keyed_of_imported (h : (imported bech32 gs).Reachable s) : Keyed bech32 s :=
  h.invariant (keyed_initGenesisState gs) fun hs hstep =>
    keyed_effect hs (effect_of_imported hs hstep)

theorem addressed_of_imported (hvalid : gs.validate bech32 = .ok ())
    (h : (imported bech32 gs).Reachable s) : Addressed bech32 s :=
  h.induction (P := Addressed bech32) (addressed_initGenesisState hvalid) fun hr hs hstep =>
    addressed_effect hs (effect_of_imported (keyed_of_imported hr) hstep)

/-! ## The round trip -/

/-- What the import of an exported store gives: the store, with the accounts numbered anew. -/
theorem initGenesisState_exportGenesis (hkeyed : Keyed bech32 s) (h : Addressed bech32 s) :
    initGenesisState bech32 (exportGenesis s) =
      { s with account := (initGenesis bech32 s.account.values).account } := by
  have hstat : s.accountStat.or (initGenesis bech32 s.account.values).accountStat =
      s.accountStat := by
    cases hs : s.accountStat with
    | some accountStat => rfl
    | none =>
      -- nothing was ever counted, so there are no accounts
      have hnil : s.account.values = [] := by
        refine List.eq_nil_iff_forall_not_mem.mpr fun account haccount => ?_
        obtain ⟨k, hk⟩ := KVStore.mem_values_iff.mp haccount
        exact h.counted hs k account hk
      rw [hnil]
      rfl
  rw [initGenesisState_eq]
  simp only [exportGenesis, hstat]
  congr 1
  · exact KVStore.load_values hkeyed.pendingAccount
  · exact KVStore.load_values hkeyed.pendingAccountRevocation
  · exact KVStore.load_values hkeyed.revokedAccount
  · exact KVStore.load_values hkeyed.rejectedAccount

/-- **The round trip.** In every run from a genesis state that passes its check, an exported store
passes the check, and its import gives back the store if the accounts have the numbers 0, 1, ... in
the order of their keys, and only then. The other records and the counter always come back. -/
theorem genesis_round_trip (hvalid : gs.validate bech32 = .ok ())
    (h : (imported bech32 gs).Reachable s) :
    (exportGenesis s).validate bech32 = .ok () ∧
    (initGenesisState bech32 (exportGenesis s) = s ↔ InOrder s.account.values) ∧
    initGenesisState bech32 (exportGenesis s) =
      { s with account := (initGenesisState bech32 (exportGenesis s)).account } := by
  have hkeyed := keyed_of_imported h
  have haddressed := addressed_of_imported hvalid h
  refine ⟨validate_exportGenesis hkeyed haddressed, ?_, ?_⟩
  · rw [initGenesisState_exportGenesis hkeyed haddressed, ← account_initGenesis_eq_iff hkeyed]
    constructor
    · intro heq
      have haccount := congrArg Store.account heq
      exact haccount
    · intro haccount
      rw [haccount]
  · rw [initGenesisState_exportGenesis hkeyed haddressed]

/-- Three trustees, in the order of their addresses. -/
def exampleGenesis : GenesisState :=
  ⟨["cosmos1one", "cosmos1three", "cosmos1two"].map (exampleAccount · [.trustee]), [], [], none, [],
    []⟩

theorem step_of_exec_imported {s s' : Store} {a : Act} (h : exec exampleCodec s a = some s') :
    (imported exampleCodec exampleGenesis).step s a s' := by
  have hstep : (accounts exampleCodec exampleGenesis.accountList).step s a s' := step_of_exec h
  exact hstep

/-- A vendor is added after the trustees and is about to be revoked: all comes back. -/
theorem example_round_trip : ∃ s,
    (imported exampleCodec exampleGenesis).Reachable s ∧
    (s.getAccountO (utf8 "cosmos1vendor")).isSome = true ∧
    (s.getPendingAccountRevocation (utf8 "cosmos1vendor")).isSome = true ∧
    (exportGenesis s).validate exampleCodec = .ok () ∧
    initGenesisState exampleCodec (exportGenesis s) = s := by
  obtain ⟨s, hs, hp⟩ := exists_reachable_of_foldlM (T := imported exampleCodec exampleGenesis)
    (p := fun s => decide ((s.getAccountO (utf8 "cosmos1vendor")).isSome = true ∧
      (s.getPendingAccountRevocation (utf8 "cosmos1vendor")).isSome = true ∧
      InOrder s.account.values))
    (exec exampleCodec) step_of_exec_imported
    [exampleProposeAccount "cosmos1one" "cosmos1vendor",
      .deliver (.proposeRevokeAccount (exampleMsgAccount "cosmos1two" "cosmos1vendor"))]
    (by decide +kernel)
  obtain ⟨hvendor, hrevocation, horder⟩ := of_decide_eq_true hp
  have hgenesis : exampleGenesis.validate exampleCodec = .ok () := by decide +kernel
  obtain ⟨hvalid, hback, -⟩ := genesis_round_trip hgenesis hs
  exact ⟨s, hs, hvendor, hrevocation, hvalid, hback.mpr horder⟩

/-- One of three trustees is revoked. The export passes its check, and the import gives another
trustee a new number. -/
theorem example_renumbered : ∃ s,
    exampleGenesis.validate exampleCodec = .ok () ∧
    (imported exampleCodec exampleGenesis).Reachable s ∧
    (exportGenesis s).validate exampleCodec = .ok () ∧
    (s.getAccountO (utf8 "cosmos1two")).map Account.accountNumber = some 2 ∧
    ((initGenesisState exampleCodec (exportGenesis s)).getAccountO (utf8 "cosmos1two")).map
      Account.accountNumber = some 1 ∧
    initGenesisState exampleCodec (exportGenesis s) ≠ s := by
  obtain ⟨s, hs, hp⟩ := exists_reachable_of_foldlM (T := imported exampleCodec exampleGenesis)
    (p := fun s => decide ((exportGenesis s).validate exampleCodec = .ok () ∧
      (s.getAccountO (utf8 "cosmos1two")).map Account.accountNumber = some 2 ∧
      ((initGenesisState exampleCodec (exportGenesis s)).getAccountO (utf8 "cosmos1two")).map
        Account.accountNumber = some 1))
    (exec exampleCodec) step_of_exec_imported
    [.deliver (.proposeRevokeAccount (exampleMsgAccount "cosmos1three" "cosmos1one")),
      .deliver (.approveRevokeAccount (exampleMsgAccount "cosmos1two" "cosmos1one"))]
    (by decide +kernel)
  obtain ⟨hvalid, hbefore, hafter⟩ := of_decide_eq_true hp
  refine ⟨s, by decide +kernel, hs, hvalid, hbefore, hafter, fun heq => ?_⟩
  rw [heq, hbefore] at hafter
  cases hafter

end ComplianceLedger.Dclauth
