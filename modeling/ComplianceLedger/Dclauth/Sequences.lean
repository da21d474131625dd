import ComplianceLedger.Dclauth.Numbers
import ComplianceLedger.Machine.Tickets

/-!
# Sequence numbers

A signature is made for the number of an account and a sequence number, and the SDK adds one to the
sequence number of an account when it has accepted a signature of it. So an account is a ticket. The
messages of `dclauth` add accounts with new numbers and take accounts away, and an account that comes
back under its old address starts again with the sequence number 0; but its number is new. No pair of
the two numbers comes twice, as long as the counter of account numbers does not come round.

The accounts are written back by the SDK. What is assumed of it is `KeepsCount`: it leaves a sequence
number, or adds one to it.

## Main definitions

* `Store.tickets`: the accounts as tickets
* `KeepsCount bech32 s act`: sequence numbers are left or moved on by one
* `turn bech32 t`: the two numbers of the account whose sequence number a step moves on

## Main results

* `tickets_step`: what a step is for the tickets
* `turns_once`: no turn is taken twice in a history
-/

open Machine Machine.TransitionSystem

namespace ComplianceLedger.Dclauth

/-- The active accounts as tickets. -/
def Store.tickets (s : Store) : Tickets Bytes where
  next := s.nextAccountNumber
  held k := (s.account.get k).map fun account => (account.accountNumber, account.sequence)

/-- The account that is written back, as it is before. -/
def writtenBack (bech32 : Bech32) (s : Store) (signer : String) : Option Account :=
  (bech32.accAddressFromBech32 signer).toOption.bind s.getAccountO

/-- The SDK leaves the sequence number of an account, or adds one to it. -/
def KeepsCount (bech32 : Bech32) (s : Store) : Act → Prop
  | .writeBack signer _ sequence => ∀ account ∈ writtenBack bech32 s signer,
      sequence = account.sequence ∨ sequence = account.sequence + 1
  | .deliver _ | .revokeMalicious _ => True

instance (bech32 : Bech32) (s : Store) : DecidablePred (KeepsCount bech32 s)
  | .writeBack signer _ sequence => inferInstanceAs (Decidable (∀ account ∈ writtenBack bech32 s signer,
      sequence = account.sequence ∨ sequence = account.sequence + 1))
  | .deliver _ | .revokeMalicious _ => isTrue trivial

/-- The turn that a step takes: the number and the sequence number of the account whose sequence number
it moves on. -/
def turn (bech32 : Bech32) (t : Transition Store Act) : Option (ℕ × ℕ) :=
  match t.label with
  | .writeBack signer _ sequence => (writtenBack bech32 t.before signer).bind fun account =>
      if sequence = account.sequence + 1 then some (account.accountNumber, account.sequence) else none
  | .deliver _ | .revokeMalicious _ => none

section Tickets

variable {bech32 : Bech32} {s s' : Store}

theorem held_eq_some_iff {k : Bytes} {ticket : ℕ × ℕ} : s.tickets.held k = some ticket ↔
    ∃ account, s.account.get k = some account ∧ (account.accountNumber, account.sequence) = ticket :=
  Option.map_eq_some_iff

theorem held_set {k : Bytes} {account : Account} (haccount : s'.account = s.account.set k account) :
    s'.tickets.held =
      Function.update s.tickets.held k (some (account.accountNumber, account.sequence)) := by
  funext k'
  rw [Function.update_apply]
  simp only [Store.tickets, haccount, KVStore.get_set]
  split <;> rfl

/-- Accounts go, and the counter does not move. -/
theorem tickets_lose (hstat : s'.accountStat = s.accountStat)
    (haccount : ∀ k account, s'.account.get k = some account → s.account.get k = some account) :
    s.tickets.Step [] s'.tickets := by
  refine .lose (congrArg (·.getD 0) hstat).ge fun k ticket hk => ?_
  obtain ⟨account, hget, rfl⟩ := held_eq_some_iff.mp hk
  exact held_eq_some_iff.mpr ⟨account, haccount k account hget, rfl⟩

theorem nextAccountNumber_of_stat (hnext : s.nextAccountNumber + 1 < 2 ^ 64)
    (hstat : s'.accountStat = s.bumpAccountNumber.accountStat) :
    s'.nextAccountNumber = s.nextAccountNumber + 1 := by
  rw [Store.nextAccountNumber, hstat, Store.bumpAccountNumber, Option.getD_some, Nat.mod_eq_of_lt hnext]

/-- The counter moves on, and the accounts stay. -/
theorem tickets_waste (hnext : s.nextAccountNumber + 1 < 2 ^ 64)
    (hstat : s'.accountStat = s.bumpAccountNumber.accountStat) (haccount : s'.account = s.account) :
    s.tickets.Step [] s'.tickets := by
  refine .lose ?_ fun k ticket hk => ?_
  · exact (Nat.le_succ _).trans_eq (nextAccountNumber_of_stat hnext hstat).symm
  · rwa [Store.tickets, haccount] at hk

/-- An account is added. -/
theorem tickets_draw (hnext : s.nextAccountNumber + 1 < 2 ^ 64)
    (hstat : s'.accountStat = s.bumpAccountNumber.accountStat) {k : Bytes} {account : Account}
    (haccount : s'.account = s.account.set k account)
    (hnumber : account.accountNumber = s.nextAccountNumber) : s.tickets.Step [] s'.tickets := by
  have hheld := held_set haccount
  rw [hnumber] at hheld
  exact .draw (nextAccountNumber_of_stat hnext hstat) hheld

/-- An account is written back: its turn is taken, if its sequence number moves on. -/
theorem tickets_writeBack (hkeyed : Keyed bech32 s) {signer : String} {pubKey : Bytes} {sequence : ℕ}
    (hact : KeepsCount bech32 s (.writeBack signer pubKey sequence)) :
    s.tickets.Step (turn bech32 ⟨s, .writeBack signer pubKey sequence,
        writeBack bech32 signer pubKey sequence s⟩).toList
      (writeBack bech32 signer pubKey sequence s).tickets := by
  cases hsigner : bech32.accAddressFromBech32 signer with
  | error =>
    simp only [turn, writtenBack, writeBack, hsigner]
    exact tickets_lose rfl fun _ _ => id
  | ok accAddr =>
    cases haccount : s.account.get (accountKey accAddr) with
    | none =>
      simp only [turn, writtenBack, writeBack, hsigner, Except.toOption, Option.bind_some,
        Store.getAccountO, haccount]
      exact tickets_lose rfl fun _ _ => id
    | some account =>
      have hfound : writtenBack bech32 s signer = some account := by
        simp only [writtenBack, hsigner, Except.toOption, Option.bind_some, Store.getAccountO, haccount]
      have hheld : s.tickets.held (accountKey accAddr) =
          some (account.accountNumber, account.sequence) :=
        held_eq_some_iff.mpr ⟨account, haccount, rfl⟩
      rw [writeBack_eq hkeyed hsigner haccount]
      simp only [turn, hfound, Option.bind_some]
      rcases hact account hfound with rfl | rfl
      · -- the ticket is what it was
        rw [if_neg (Nat.ne_of_lt (Nat.lt_succ_self _))]
        refine .lose le_rfl fun k ticket hk => ?_
        rw [held_set rfl, Function.update_apply] at hk
        split at hk
        · next heq => exact heq ▸ hheld.trans hk
        · exact hk
      · -- the turn is taken
        rw [if_pos rfl]
        refine .use hheld rfl ?_
        rw [held_set rfl]

/-- **What a step is for the tickets**: some are lost, one is drawn, or one is used. -/
theorem tickets_step {genesis : List Account} {act : Act} (hkeyed : Keyed bech32 s)
    (hact : KeepsCount bech32 s act) (hstep : (accounts bech32 genesis).step s act s')
    (hnext : s'.accountStat = s.bumpAccountNumber.accountStat → s.nextAccountNumber + 1 < 2 ^ 64) :
    s.tickets.Step (turn bech32 ⟨s, act, s'⟩).toList s'.tickets := by
  cases act with
  | writeBack signer pubKey sequence =>
    obtain rfl := hstep
    exact tickets_writeBack hkeyed hact
  | deliver msg =>
    have heffect := step_effect hkeyed hstep
    rw [turn, Option.toList_none]
    cases heffect with
    | refused | proposed | approved | rejected | revocationProposed | revocationApproved =>
      exact tickets_lose rfl fun _ _ => id
    | addedAtOnce => exact tickets_draw (hnext rfl) rfl rfl rfl
    | added => exact tickets_draw (hnext rfl) rfl rfl rfl
    -- the rejection draws a number, too, and no active account gets it
    | discarded => exact tickets_waste (hnext rfl) rfl rfl
    | revokedAtOnce | revoked =>
      exact tickets_lose rfl fun _ _ hget => (KVStore.get_of_get_delete hget).2
  | revokeMalicious address =>
    have heffect := step_effect hkeyed hstep
    rw [turn, Option.toList_none]
    cases heffect with
    | refused => exact tickets_lose rfl fun _ _ => id
    | revokedMalicious => exact tickets_lose rfl fun _ _ hget => (KVStore.get_of_get_delete hget).2

/-- In a genesis no turn is taken. -/
theorem spent_initGenesis (bech32 : Bech32) {genesis : List Account} (hlt : genesis.length < 2 ^ 64) :
    (initGenesis bech32 genesis).tickets.Spent [] := by
  induction genesis using List.reverseRecOn with
  | nil => exact .nil fun _ => rfl
  | append_singleton genesis elem ih =>
    rw [List.length_append, List.length_singleton] at hlt
    have hnumbered := numbered_initGenesis bech32 genesis (Nat.lt_of_succ_lt hlt)
    have hnext : (initGenesis bech32 genesis).nextAccountNumber + 1 < 2 ^ 64 := by
      rwa [hnumbered.nextAccountNumber]
    rw [initGenesis_append_singleton]
    exact (ih (Nat.lt_of_succ_lt hlt)).step (tickets_draw hnext rfl rfl rfl)

end Tickets

theorem turns_append (bech32 : Bech32) (history : List (Transition Store Act))
    (t : Transition Store Act) : (history ++ [t]).filterMap (turn bech32) =
      history.filterMap (turn bech32) ++ (turn bech32 t).toList := by
  rw [List.filterMap_append, List.filterMap_cons]
  cases turn bech32 t <;> rfl

/-- **No turn is taken twice.** Let the SDK leave sequence numbers or add one to them. In every history
with fewer than `2 ^ 64` allocations of account numbers, no two steps move on the sequence number of
accounts with the same number and sequence number, also when an account is revoked and added again. -/
theorem turns_once {bech32 : Bech32} {genesis : List Account} {history : List (Transition Store Act)}
    {s : Store} (h : ((accounts bech32 genesis).restrict (KeepsCount bech32)).Trace history s)
    (hlt : allocations genesis history < 2 ^ 64) : (history.filterMap (turn bech32)).Nodup := by
  -- what the steps keep is more: the tickets that are held are ahead of the log
  suffices hspent : s.tickets.Spent (history.filterMap (turn bech32)) from hspent.nodup
  induction h with
  | init => exact spent_initGenesis bech32 hlt
  | @step history s s' act htrace hstep ih =>
    have hearlier : allocations genesis history < 2 ^ 64 := by
      rw [allocations_append] at hlt
      exact Nat.lt_of_add_right_lt hlt
    have hnumbered := numbered_trace htrace.of_restrict hearlier
    have hturn := tickets_step (keyed_of_reachable htrace.reachable.of_restrict) hstep.2 hstep.1 ?_
    · rw [turns_append]
      exact (ih hearlier).step hturn
    · -- a number that is drawn is an allocation, so the counter has not come round
      intro hstat
      rw [allocations_append, hnumbered.drawn_bump hstat] at hlt
      rwa [hnumbered.nextAccountNumber]

/-- The only trustee signs, adds an account, which signs twice, revokes it and adds it again, and it
signs once more. Its turns are those of the account numbers 1 and 2. -/
theorem example_turns : ∃ history s,
    ((accounts exampleCodec [exampleAccount "cosmos1one" [.trustee]]).restrict
      (KeepsCount exampleCodec)).Trace history s ∧
    history.filterMap (turn exampleCodec) = [(0, 0), (1, 0), (1, 1), (2, 0)] ∧
    (history.filterMap (turn exampleCodec)).Nodup := by
  obtain ⟨history, s, htrace, hp⟩ := exists_trace_of_foldlM
    (T := (accounts exampleCodec [exampleAccount "cosmos1one" [.trustee]]).restrict
      (KeepsCount exampleCodec))
    (p := fun history _ => decide (
      history.filterMap (turn exampleCodec) = [(0, 0), (1, 0), (1, 1), (2, 0)] ∧
      allocations [exampleAccount "cosmos1one" [.trustee]] history = 3))
    (guarded (KeepsCount exampleCodec) (exec exampleCodec)) (step_of_guarded step_of_exec)
    [.writeBack "cosmos1one" [] 1, exampleProposeAccount "cosmos1one" "cosmos1vendor",
      .writeBack "cosmos1vendor" [7] 0, .writeBack "cosmos1vendor" [7] 1,
      .writeBack "cosmos1vendor" [7] 2,
      .deliver (.proposeRevokeAccount (exampleMsgAccount "cosmos1one" "cosmos1vendor")),
      exampleProposeAccount "cosmos1one" "cosmos1vendor", .writeBack "cosmos1vendor" [7] 1]
    (by decide +kernel)
  obtain ⟨hturns, hcount⟩ := of_decide_eq_true hp
  exact ⟨history, s, htrace, hturns, turns_once htrace (by rw [hcount]; decide)⟩

end ComplianceLedger.Dclauth
