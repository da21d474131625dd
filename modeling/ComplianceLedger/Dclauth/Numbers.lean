import ComplianceLedger.Dclauth.LifeCycle

/-!
# Account numbers

A transaction is signed for an account number and a sequence number. An account that is revoked and
added again starts with sequence 0, and so may be sent the transactions of its earlier life; they are
refused because the account has another number. The numbers are drawn from one counter, at genesis,
when an account becomes active and when one is rejected. They are told apart over the whole history,
as long as the counter, which has 64 bits, does not come round.

## Main definitions

* `activations s s'`: the numbers of the accounts that a step makes active
* `allocations`, `activationLog`: the numbers drawn and the numbers of all activations of a history
* `Numbering s s'`: what a step does to numbers

## Main results

* `numbering_of_effect`: every step keeps the numbers, or draws the next one
* `numbered_trace`: the counter is the number of allocations, and is above every number in use
* `account_numbers_unique`: no number is given to two activations
-/

open Machine Machine.Handler Machine.TransitionSystem

namespace ComplianceLedger.Dclauth

/-- The numbers of the accounts that are active in `s'` and were not in `s`. -/
def activations (s s' : Store) : List ℕ :=
  (s'.account.entries.filter fun e => (s.account.get e.1).isNone).map fun e => e.2.accountNumber

/-- The numbers drawn in a history: one for each account of the genesis, and one whenever the counter
moves. -/
def allocations (genesis : List Account) (history : List (Transition Store Act)) : ℕ :=
  genesis.length + history.countP fun t => t.before.accountStat ≠ t.after.accountStat

/-- The numbers of all activations: those of the genesis, then those of each step. -/
def activationLog (bech32 : Bech32) (genesis : List Account)
    (history : List (Transition Store Act)) : List ℕ :=
  activations Store.empty (initGenesis bech32 genesis) ++
    history.flatMap fun t => activations t.before t.after

/-- What a step does to numbers: accounts that are active after it have the number they had, and the
counter stands or moves on without an account becoming active; or an account becomes active with the
next number. -/
inductive Numbering (s s' : Store) : Prop
  | kept (stat : s'.accountStat = s.accountStat ∨
        s'.accountStat = s.bumpAccountNumber.accountStat)
      (numbers : s'.account.All fun k account' =>
        ∃ account, s.account.get k = some account ∧ account'.accountNumber = account.accountNumber)
  | assigned {k : Bytes} {account : Account}
      (stat : s'.accountStat = s.bumpAccountNumber.accountStat)
      (free : s.account.get k = none)
      (set : s'.account = s.account.set k account)
      (number : account.accountNumber = s.nextAccountNumber)

/-- The numbers are in order after `count` allocations: the counter is their number, the numbers in
the log are below it and differ, and every active account has one of them. -/
structure Numbered (count : ℕ) (log : List ℕ) (s : Store) : Prop where
  stat : s.accountStat = if count = 0 then none else some count
  below : ∀ number ∈ log, number < count
  nodup : log.Nodup
  active : s.account.All fun _ account => account.accountNumber ∈ log

section Steps

variable {bech32 : Bech32} {s s' : Store} {a : Act}

theorem numbering_of_account_eq (stat : s'.accountStat = s.accountStat ∨
      s'.accountStat = s.bumpAccountNumber.accountStat) (h : s'.account = s.account) :
    Numbering s s' :=
  .kept stat fun _ account hget => ⟨account, h ▸ hget, rfl⟩

theorem numbering_of_account_delete (stat : s'.accountStat = s.accountStat) {k : Bytes}
    (h : s'.account = s.account.delete k) : Numbering s s' :=
  .kept (.inl stat) fun _ account hget => ⟨account, (KVStore.get_of_get_delete (h ▸ hget)).2, rfl⟩

/-- **Every step keeps the numbers, or draws the next one.** -/
theorem numbering_of_effect (hstages : Stages s) (he : Effect bech32 s a s') : Numbering s s' := by
  cases he with
  | refused | proposed | approved | rejected | revocationProposed | revocationApproved =>
    exact numbering_of_account_eq (.inl rfl) rfl
  | discarded => exact numbering_of_account_eq (.inr rfl) rfl
  | addedAtOnce proposal => exact .assigned rfl proposal.not_active rfl rfl
  | added vote =>
    exact .assigned rfl (hstages.active_pending.symm.get_eq_none vote.pending) rfl rfl
  | revokedAtOnce | revoked | revokedMalicious => exact numbering_of_account_delete rfl rfl
  | @writtenBack _ _ account _ _ _ active =>
    refine .kept (.inl rfl) fun k account' hget => ?_
    rw [KVStore.get_set] at hget
    split at hget
    · next hk =>
      obtain rfl := Option.some.inj hget
      exact ⟨account, hk ▸ active, rfl⟩
    · exact ⟨account', hget, rfl⟩

/-- An account that stays active keeps its number. -/
theorem Numbering.number_eq (h : Numbering s s') {k : Bytes} {account account' : Account}
    (hget : s.account.get k = some account) (hget' : s'.account.get k = some account') :
    account'.accountNumber = account.accountNumber := by
  cases h with
  | kept stat numbers =>
    obtain ⟨before, hbefore, hnumber⟩ := numbers k account' hget'
    rw [hnumber, Option.some.inj (hbefore.symm.trans hget)]
  | @assigned k' _ stat free set number =>
    have hne : k ≠ k' := by
      rintro rfl
      cases free.symm.trans hget
    rw [set, KVStore.get_set_of_ne _ _ hne, hget] at hget'
    rw [Option.some.inj hget']

/-! ## Activations -/

theorem activations_of_kept (h : s'.account.All fun k account' =>
      ∃ account, s.account.get k = some account ∧ account'.accountNumber = account.accountNumber) :
    activations s s' = [] := by
  rw [activations, List.map_eq_nil_iff, List.filter_eq_nil_iff]
  intro e he
  obtain ⟨account, hget, -⟩ := h e.1 e.2 (KVStore.mem_entries_iff.mp he)
  simp [hget]

theorem activations_of_assigned {k : Bytes} {account : Account} (hfree : s.account.get k = none)
    (hset : s'.account = s.account.set k account) :
    activations s s' = [account.accountNumber] := by
  have hperm := (KVStore.entries_set_perm s.account k account).filter
    fun e => (s.account.get e.1).isNone
  have hothers : (s.account.delete k).entries.filter (fun e => (s.account.get e.1).isNone) = [] := by
    rw [List.filter_eq_nil_iff]
    intro e he
    have hget := (KVStore.get_of_get_delete (KVStore.mem_entries_iff.mp he)).2
    simp [hget]
  rw [List.filter_cons_of_pos (by simp [hfree]), hothers] at hperm
  rw [activations, hset, List.perm_singleton.mp hperm]
  rfl

/-! ## Histories -/

variable {count : ℕ} {log : List ℕ}

theorem Numbered.nextAccountNumber (h : Numbered count log s) : s.nextAccountNumber = count := by
  rw [Store.nextAccountNumber, h.stat]
  split
  · next hzero => rw [hzero]; rfl
  · rfl

/-- A number is drawn before the counter comes round. -/
theorem Numbered.bump (h : Numbered count log s) (hlt : count + 1 < 2 ^ 64) :
    s.bumpAccountNumber.accountStat = some (count + 1) := by
  rw [Store.bumpAccountNumber, h.nextAccountNumber, Nat.mod_eq_of_lt hlt]

/-- The allocations of a step: the counter moves, or it does not. -/
def drawn (s s' : Store) : ℕ := if s.accountStat ≠ s'.accountStat then 1 else 0

theorem Numbered.drawn_bump (h : Numbered count log s)
    (hstat : s'.accountStat = s.bumpAccountNumber.accountStat) : drawn s s' = 1 := by
  rw [drawn, if_pos]
  rw [hstat, h.stat, Store.bumpAccountNumber, h.nextAccountNumber]
  split
  · simp
  · rw [ne_eq, Option.some.injEq]
    omega

theorem Numbered.step (h : Numbered count log s) (hstep : Numbering s s')
    (hlt : count + drawn s s' < 2 ^ 64) :
    Numbered (count + drawn s s') (log ++ activations s s') s' := by
  cases hstep with
  | kept stat numbers =>
    have hactive : s'.account.All fun _ account => account.accountNumber ∈ log := by
      intro k account' hget
      obtain ⟨account, hbefore, hnumber⟩ := numbers k account' hget
      exact hnumber ▸ h.active k account hbefore
    rw [activations_of_kept numbers, List.append_nil]
    rcases stat with stat | stat
    · have hdrawn : drawn s s' = 0 := if_neg (by simp [stat])
      rw [hdrawn]
      exact ⟨stat.trans h.stat, h.below, h.nodup, hactive⟩
    · rw [h.drawn_bump stat] at hlt ⊢
      exact ⟨stat.trans (h.bump hlt), fun n hn => Nat.lt_succ_of_lt (h.below n hn), h.nodup, hactive⟩
  | @assigned k account stat free set number =>
    rw [h.nextAccountNumber] at number
    rw [activations_of_assigned free set, number]
    rw [h.drawn_bump stat] at hlt ⊢
    refine ⟨stat.trans (h.bump hlt), ?_, ?_, ?_⟩
    · intro n hn
      rcases List.mem_append.mp hn with hn | hn
      · exact Nat.lt_succ_of_lt (h.below n hn)
      · rw [List.mem_singleton.mp hn]
        exact Nat.lt_succ_self count
    · -- the new number is the counter, and the numbers given before are below it
      refine List.nodup_append.mpr ⟨h.nodup, List.nodup_singleton _, ?_⟩
      intro n hn m hm
      rw [List.mem_singleton.mp hm]
      exact (h.below n hn).ne
    · rw [set]
      refine KVStore.All.set (fun k account' hget => ?_) (by simp [number])
      exact List.mem_append_left _ (h.active k account' hget)

end Steps

/-! ## Genesis -/

section Genesis

variable (bech32 : Bech32)

theorem activations_empty (s : Store) :
    activations Store.empty s = s.account.values.map Account.accountNumber := by
  rw [activations, KVStore.values, List.map_map, List.filter_eq_self.mpr]
  · rfl
  · intro e _
    rfl

/-- The accounts of a genesis have different numbers, even when an address occurs twice and the later
account replaces the earlier one. -/
theorem numbered_initGenesis (genesis : List Account) (hlt : genesis.length < 2 ^ 64) :
    Numbered genesis.length (activations Store.empty (initGenesis bech32 genesis))
      (initGenesis bech32 genesis) := by
  induction genesis using List.reverseRecOn with
  | nil => exact ⟨rfl, (fun _ hn => nomatch hn), List.nodup_nil, KVStore.All.empty⟩
  | append_singleton genesis elem ih =>
    rw [List.length_append, List.length_singleton] at hlt ⊢
    have ih := ih (Nat.lt_of_succ_lt hlt)
    rw [activations_empty] at ih ⊢
    rw [initGenesis_append_singleton]
    set s := initGenesis bech32 genesis
    set account := { elem with accountNumber := s.nextAccountNumber }
    set k := accountKey (bech32.getAddress account.address)
    have hnumbers : ((s.account.set k account).values.map Account.accountNumber).Perm
        (genesis.length :: (s.account.delete k).values.map Account.accountNumber) := by
      have hperm := (KVStore.values_set_perm s.account k account).map Account.accountNumber
      rwa [List.map_cons, show account.accountNumber = genesis.length from ih.nextAccountNumber]
        at hperm
    have hsub := (KVStore.values_delete_sublist s.account k).map Account.accountNumber
    refine ⟨ih.bump hlt, fun n hn => ?_, ?_, fun k' account' hget => ?_⟩
    · rcases List.mem_cons.mp (hnumbers.mem_iff.mp hn) with rfl | hn
      · exact Nat.lt_succ_self _
      · exact Nat.lt_succ_of_lt (ih.below n (hsub.subset hn))
    · refine hnumbers.nodup_iff.mpr (List.nodup_cons.mpr ⟨fun hn => ?_, ih.nodup.sublist hsub⟩)
      exact (ih.below _ (hsub.subset hn)).false
    · exact List.mem_map_of_mem (KVStore.mem_values_iff.mpr ⟨k', hget⟩)

end Genesis

/-! ## Whole histories -/

section Histories

variable {bech32 : Bech32} {genesis : List Account}

theorem allocations_append (history : List (Transition Store Act)) (t : Transition Store Act) :
    allocations genesis (history ++ [t]) =
      allocations genesis history + drawn t.before t.after := by
  rw [allocations, allocations, List.countP_append, List.countP_singleton, drawn,
    ← Nat.add_assoc]
  simp only [decide_eq_true_eq]

theorem activationLog_append (history : List (Transition Store Act)) (t : Transition Store Act) :
    activationLog bech32 genesis (history ++ [t]) =
      activationLog bech32 genesis history ++ activations t.before t.after := by
  rw [activationLog, activationLog, List.flatMap_append, List.flatMap_singleton, List.append_assoc]

/-- **The counter is the number of allocations**, as long as it does not come round, and above every
number that was given to an account. -/
theorem numbered_trace {history : List (Transition Store Act)} {s : Store}
    (h : (accounts bech32 genesis).Trace history s) (hlt : allocations genesis history < 2 ^ 64) :
    Numbered (allocations genesis history) (activationLog bech32 genesis history) s := by
  revert hlt
  refine h.induction (P := fun history s => allocations genesis history < 2 ^ 64 →
    Numbered (allocations genesis history) (activationLog bech32 genesis history) s)
    (fun hlt => ?_) fun hr ih hstep hlt => ?_
  · rw [activationLog, List.flatMap_nil, List.append_nil]
    exact numbered_initGenesis bech32 genesis hlt
  · rw [allocations_append] at hlt ⊢
    rw [activationLog_append]
    exact (ih (Nat.lt_of_add_right_lt hlt)).step
      (numbering_of_effect (stages_of_reachable hr) (effect_of_reachable hr hstep)) hlt

end Histories

/-! ## No number is given twice -/

/-- What an account keeps when it is written back. -/
def Account.held (account : Account) : ℕ × List AccountRole × ℤ × List Grant × List Grant :=
  (account.accountNumber, account.roles, account.vendorID, account.approvals, account.rejects)

theorem getAccountO_setAccount {bech32 : Bech32} {s : Store} {account : Account}
    {address : AccAddress} (hdecode : bech32.accAddressFromBech32 account.address = .ok address) :
    (s.setAccount bech32 account).getAccountO address =
      some { account with address := bech32.string address } := by
  rw [Store.setAccount, Bech32.getAddress_of_ok hdecode]
  simp only [Store.setAccountO, Store.getAccountO, Bech32.getAddress_string hdecode,
    KVStore.get_set_self]

/-- **No number is given to two activations**, in every run from a genesis without a counter with
fewer than `2 ^ 64` allocations: the numbers of the accounts of the genesis and of all that become
active later differ, those that are active are below the counter, and an account that stays active
keeps its number. Writing an account back changes neither its number nor its roles, its vendor or
its votes. -/
theorem account_numbers_unique (bech32 : Bech32) (genesis : List Account) :
    (∀ history s, (accounts bech32 genesis).Trace history s → allocations genesis history < 2 ^ 64 →
      (activationLog bech32 genesis history).Nodup ∧
      (∀ address account, s.getAccountO address = some account →
        ∃ stat, s.accountStat = some stat ∧ account.accountNumber < stat) ∧
      ∀ a s', (accounts bech32 genesis).step s a s' → ∀ address account account',
        s.getAccountO address = some account → s'.getAccountO address = some account' →
          account'.accountNumber = account.accountNumber) ∧
    ∀ (s : Store) (account : Account) (address : AccAddress),
      bech32.accAddressFromBech32 account.address = .ok address →
      ((s.setAccount bech32 account).getAccountO address).map Account.held = some account.held := by
  refine ⟨fun history s h hlt => ?_, fun s account address hdecode => ?_⟩
  · have hnumbered := numbered_trace h hlt
    refine ⟨hnumbered.nodup, fun address account hget => ?_, fun a s' hstep => ?_⟩
    · have hbelow := hnumbered.below _ (hnumbered.active _ _ hget)
      refine ⟨allocations genesis history, ?_, hbelow⟩
      rw [hnumbered.stat, if_neg (Nat.ne_zero_of_lt hbelow)]
    · intro address account account' hget hget'
      exact (numbering_of_effect (stages_of_reachable h.reachable)
        (effect_of_reachable h.reachable hstep)).number_eq hget hget'
  · rw [getAccountO_setAccount hdecode]
    rfl

/-- The only trustee, whose own number is 0, adds an account, revokes it and adds it again: the two
lives of the account have the numbers 1 and 2. -/
theorem example_numbers_differ : ∃ history s,
    (accounts exampleCodec [exampleAccount "cosmos1one" [.trustee]]).Trace history s ∧
    activationLog exampleCodec [exampleAccount "cosmos1one" [.trustee]] history = [0, 1, 2] ∧
    (activationLog exampleCodec [exampleAccount "cosmos1one" [.trustee]] history).Nodup := by
  obtain ⟨history, s, htrace, hp⟩ := exists_trace_of_foldlM
    (T := accounts exampleCodec [exampleAccount "cosmos1one" [.trustee]])
    (p := fun history _ =>
      decide (activationLog exampleCodec [exampleAccount "cosmos1one" [.trustee]] history =
        [0, 1, 2] ∧ allocations [exampleAccount "cosmos1one" [.trustee]] history = 3))
    (exec exampleCodec) step_of_exec
    [exampleProposeAccount "cosmos1one" "cosmos1vendor",
      .deliver (.proposeRevokeAccount (exampleMsgAccount "cosmos1one" "cosmos1vendor")),
      exampleProposeAccount "cosmos1one" "cosmos1vendor"]
    (by decide +kernel)
  obtain ⟨hlog, hcount⟩ := of_decide_eq_true hp
  obtain ⟨hnumbers, -⟩ := account_numbers_unique exampleCodec
    [exampleAccount "cosmos1one" [.trustee]]
  exact ⟨history, s, htrace, hlog, (hnumbers history s htrace (by rw [hcount]; decide)).1⟩

end ComplianceLedger.Dclauth
