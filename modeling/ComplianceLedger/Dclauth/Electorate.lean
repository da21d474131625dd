import ComplianceLedger.Dclauth.Account
import ComplianceLedger.Machine.Poll

/-!
# The trustees as an electorate

The trustees vote on accounts, certificates, validators and upgrades, each module with its own copy
of the protocol. They share who may vote, how a vote is recorded, and thresholds that are a
percentage of the number of trustees, rounded.

## Main definitions

* `Electorate accounts T`: the trustees among the accounts are the members of `T`
* `Bech32.Casts`: the vote records the address of the account, as the codec spells it
* `approvalsCount percent n`, `rejectsCount percent n`: the thresholds for `n` trustees
* `SignedWithin T V signer`: a member of `T` who signs is one of the voters in `V`
* `trustees accounts`: the electorate, computed

## Main results

* `Electorate.countAccountsWithRole`: the number of trustees is the size of the electorate
* `counts_of_not_hasGrantFrom`: what the handlers check before they count a vote
* `approvalsCount_add_rejectsCount_le`: the two thresholds are complementary
-/

open Machine

namespace ComplianceLedger

/-- The vote is that of the account: it records the address as the codec spells it. -/
def Bech32.Casts (bech32 : Bech32) (grant : Grant) (addr : AccAddress) : Prop :=
  grant.address = bech32.string addr ∧ bech32.accAddressFromBech32 (bech32.string addr) = .ok addr

/-- A vote is that of one account. -/
theorem Bech32.casts_unique {bech32 : Bech32} {grant : Grant} {addr addr' : AccAddress}
    (h : bech32.Casts grant addr) (h' : bech32.Casts grant addr') : addr = addr' := by
  have hspelled : bech32.string addr = bech32.string addr' := h.1.symm.trans h'.1
  have hdecode := h.2
  rw [hspelled, h'.2] at hdecode
  exact (Except.ok.inj hdecode).symm

/-- The vote that a handler records for its signer. -/
theorem Bech32.casts_of_signer {bech32 : Bech32} {text : String} {addr : AccAddress}
    (h : bech32.accAddressFromBech32 text = .ok addr) {grant : Grant}
    (hgrant : grant.address = bech32.string addr) : bech32.Casts grant addr :=
  ⟨hgrant, bech32.decode_string h⟩

/-! ## Thresholds -/

/-- The approvals that are needed, of `n` trustees. -/
def approvalsCount (percent n : ℕ) : ℕ := roundPercent percent n

/-- The rejections that are needed, of `n` trustees, when the approvals are `percent` per cent. -/
def rejectsCount (percent n : ℕ) : ℕ := n - approvalsCount percent n + 1

theorem roundPercent_le {percent n : ℕ} (h : percent ≤ 100) : roundPercent percent n ≤ n := by
  unfold roundPercent
  have hle : percent * n ≤ 100 * n := Nat.mul_le_mul_right n h
  omega

/-- **The thresholds are complementary**: together they exceed the electorate by one. -/
theorem approvalsCount_add_rejectsCount_le {percent n : ℕ} (h : percent ≤ 100) :
    approvalsCount percent n + rejectsCount percent n ≤ n + 1 := by
  have hle : approvalsCount percent n ≤ n := roundPercent_le h
  unfold rejectsCount
  omega

/-- A share of at least a half needs at least one approval. -/
theorem one_le_approvalsCount {percent n : ℕ} (h : 50 ≤ percent) (hn : 1 ≤ n) :
    1 ≤ approvalsCount percent n := by
  unfold approvalsCount roundPercent
  have hle : 50 * 1 ≤ percent * n := Nat.mul_le_mul h hn
  omega

/-- Two thirds of the trustees are more than one exactly when there are at least three. -/
theorem one_lt_approvalsCount_iff {n : ℕ} : 1 < approvalsCount 66 n ↔ 3 ≤ n := by
  unfold approvalsCount roundPercent
  omega

/-! ## Voters -/

/-- A member of `T` who signs is one of `V`. -/
def SignedWithin (T V : Finset AccAddress) (signer : Except String AccAddress) : Prop :=
  ∀ v ∈ T, signer = .ok v → v ∈ V

theorem SignedWithin.refl (T : Finset AccAddress) (signer : Except String AccAddress) :
    SignedWithin T T signer := fun _ hv _ => hv

namespace Dclauth

theorem accountKey_injective : Function.Injective accountKey :=
  fun _ _ h => List.append_cancel_right h

/-- The trustees among the accounts are the members of `T`. -/
structure Electorate (accounts : AccountStore) (T : Finset AccAddress) : Prop where
  /-- Every account lies under the key of an address. -/
  keyed : accounts.All fun k _ => ∃ addr, k = accountKey addr
  member : ∀ addr, accounts.hasRole addr .trustee = true ↔ addr ∈ T

theorem hasRole_iff {accounts : AccountStore} {addr : AccAddress} {role : AccountRole} :
    accounts.hasRole addr role = true ↔
      ∃ account, accounts.get (accountKey addr) = some account ∧ role ∈ account.roles := by
  unfold AccountStore.hasRole AccountStore.getAccount
  cases accounts.get (accountKey addr) <;> simp

/-- **The number of trustees is the size of the electorate.** -/
theorem Electorate.countAccountsWithRole {accounts : AccountStore} {T : Finset AccAddress}
    (h : Electorate accounts T) : accounts.countAccountsWithRole .trustee = T.card := by
  -- the entries of trustees have different keys, and these are the keys of the members
  let trustees := accounts.entries.filter fun e => e.2.roles.contains AccountRole.trustee
  have hcount : accounts.countAccountsWithRole .trustee = (trustees.map Prod.fst).length := by
    rw [AccountStore.countAccountsWithRole, KVStore.values, List.countP_map, List.length_map,
      List.countP_eq_length_filter]
    rfl
  have hnodup : (trustees.map Prod.fst).Nodup :=
    accounts.nodup_keys.sublist (List.filter_sublist.map Prod.fst)
  have hkeys : (trustees.map Prod.fst).toFinset = T.image accountKey := by
    ext k
    simp only [List.mem_toFinset, List.mem_map, Finset.mem_image, Prod.exists, exists_and_right,
      exists_eq_right, trustees, List.mem_filter, KVStore.mem_entries_iff, List.contains_iff_mem]
    constructor
    · rintro ⟨account, hget, hrole⟩
      obtain ⟨addr, rfl⟩ := h.keyed k account hget
      exact ⟨addr, (h.member addr).mp (hasRole_iff.mpr ⟨account, hget, hrole⟩), rfl⟩
    · rintro ⟨addr, hmem, rfl⟩
      exact hasRole_iff.mp ((h.member addr).mpr hmem)
  rw [hcount, ← List.toFinset_card_of_nodup hnodup, hkeys,
    Finset.card_image_of_injective T accountKey_injective]

/-- The addresses of the accounts with the role of a trustee. -/
def trustees (accounts : AccountStore) : Finset AccAddress :=
  ((accounts.entries.filter fun e => e.2.roles.contains AccountRole.trustee).map
    fun e => e.1.dropLast).toFinset

/-- Is every account under the key of an address? -/
def isKeyed (accounts : AccountStore) : Bool :=
  accounts.entries.all fun e => e.1 = accountKey e.1.dropLast

/-- Accounts under the keys of addresses have an electorate, which can be computed. -/
theorem electorate_trustees {accounts : AccountStore} (h : isKeyed accounts = true) :
    Electorate accounts (trustees accounts) := by
  have hkey : ∀ k account, accounts.get k = some account → k = accountKey k.dropLast :=
    fun k account hget => of_decide_eq_true
      (List.all_eq_true.mp h (k, account) (KVStore.mem_entries_iff.mpr hget))
  refine ⟨fun k account hget => ⟨_, hkey k account hget⟩, fun addr => ?_⟩
  simp only [hasRole_iff, trustees, List.mem_toFinset, List.mem_map, List.mem_filter, Prod.exists,
    KVStore.mem_entries_iff, List.contains_iff_mem]
  constructor
  · rintro ⟨account, hget, hrole⟩
    exact ⟨accountKey addr, account, ⟨hget, hrole⟩, List.dropLast_concat⟩
  · rintro ⟨k, account, ⟨hget, hrole⟩, rfl⟩
    exact ⟨account, hkey k account hget ▸ hget, hrole⟩

end Dclauth

/-- The accounts whose role a handler has checked are members, and their votes count if the handler
finds neither an approval nor a rejection under their spelling. -/
theorem counts_of_not_hasGrantFrom {C : Type} {bech32 : Bech32} {T : Finset AccAddress}
    {p : Poll C Grant} {text : String} {addr : AccAddress} {grant : Grant} (hmember : addr ∈ T)
    (hsigner : bech32.accAddressFromBech32 text = .ok addr)
    (hgrant : grant.address = bech32.string addr)
    (hayes : hasGrantFrom p.ayes (bech32.string addr) = false)
    (hnays : hasGrantFrom p.nays (bech32.string addr) = false) : p.Counts bech32.Casts T grant := by
  refine ⟨addr, hmember, Bech32.casts_of_signer hsigner hgrant, fun g hg hcast => ?_⟩
  rcases List.mem_append.mp hg with hg | hg
  · exact hasGrantFrom_eq_false_iff.mp hayes g hg hcast.1
  · exact hasGrantFrom_eq_false_iff.mp hnays g hg hcast.1

end ComplianceLedger
