import ComplianceLedger.Dclauth.Electorate
import ComplianceLedger.Validators.Updates

/-!
# The limit on active nodes

At most `maxNodes` nodes are meant to be active. `CreateValidator` compares the limit with the number
of validators that were active at the end of the last block, and `EnableValidator` does not look at
it. Within one block any number of validators can be created, and a validator can be enabled whatever
their number. A creation is harmless where the number noted at the end of the last block is the limit,
since `CreateValidator` then refuses it. The limit holds in the runs in which, while as many validators
as allowed have power, no disabled validator is enabled, and none is created in a block that started
with another number.

## Main definitions

* `Store.activeCount`: the number of validators with power
* `PassesChecks s act`: the checks on the limit and on what is disabled do not stop the message
* `Overfills s act`: such a message comes although the limit is reached

## Main results

* `countLastValidators_eq`: after a block the powers noted are as many as the validators with power
* `activeCount_effect`: what a step does to the number
* `exists_block`: a block that creates any number of validators
* `active_le_maxNodes`: where the limit holds
* `block_overfilled`: a run in which it does not
-/

open Machine Machine.Handler Machine.TransitionSystem

namespace ComplianceLedger.Validators

/-- The number of validators with power. -/
def Store.activeCount (s : Store) : ℕ := s.validator.values.countP fun v => decide (0 < v.power)

/-- The two messages that give power to a validator, where the handlers do not refuse them for the
limit, as far as they look at it, or because nothing is disabled. -/
def PassesChecks (s : Store) : Act → Prop
  | .deliver _ (.createValidator _) => s.countLastValidators ≠ maxNodes
  | .deliver _ (.enableValidator creator) => (s.getDisabledValidator creator).isSome = true
  | _ => False

/-- Such a message comes although as many validators as allowed have power. -/
def Overfills (s : Store) (act : Act) : Prop := PassesChecks s act ∧ maxNodes ≤ s.activeCount

instance instDecidablePassesChecks (s : Store) (act : Act) : Decidable (PassesChecks s act) := by
  unfold PassesChecks
  split <;> infer_instance

instance instDecidableOverfills (s : Store) (act : Act) : Decidable (Overfills s act) :=
  inferInstanceAs (Decidable (_ ∧ _))

section Count

variable {addr : Addresses} {s s' : Store} {act : Act} {a : ValAddress} {v w : Validator}
  {updates : List ValidatorUpdate}

/-- A new validator is counted if it has power. -/
theorem activeCount_of_new (hfree : s.getValidator a = none)
    (hset : s'.validator = s.validator.set (validatorKey a) w) :
    s'.activeCount = s.activeCount + if 0 < w.power then 1 else 0 := by
  rw [Store.activeCount, hset, KVStore.countP_values_set, KVStore.delete_of_get_none hfree]
  simp only [Store.activeCount, decide_eq_true_eq]

/-- A validator is set in the place of another. -/
theorem activeCount_of_set (hfound : s.getValidator a = some v)
    (hset : s'.validator = s.validator.set (validatorKey a) w) :
    s'.activeCount + (if 0 < v.power then 1 else 0) =
      s.activeCount + if 0 < w.power then 1 else 0 := by
  rw [Store.activeCount, Store.activeCount, hset, KVStore.countP_values_set,
    KVStore.countP_values_of_get hfound]
  simp only [decide_eq_true_eq]
  omega

theorem activeCount_le_of_set (hfound : s.getValidator a = some v)
    (hset : s'.validator = s.validator.set (validatorKey a) w) :
    s'.activeCount ≤ s.activeCount + 1 := by
  have hcount := activeCount_of_set hfound hset
  split at hcount <;> split at hcount <;> omega

/-- A validator that is jailed is not counted. -/
theorem activeCount_of_jail {reason : String} (hfound : s.getValidator a = some v)
    (hset : s'.validator = s.validator.set (validatorKey a) (v.jail reason)) :
    s'.activeCount ≤ s.activeCount := by
  have hcount := activeCount_of_set hfound hset
  have hzero : ¬ 0 < (v.jail reason).power := Nat.lt_irrefl 0
  rw [if_neg hzero] at hcount
  omega

theorem activeCount_endBlock (hs : Consistent addr s)
    (hend : applyAndReturnValidatorSetUpdates addr s = some (updates, s')) :
    s'.activeCount = s.activeCount := by
  rw [endBlock_frame hs hend]
  rfl

/-- A step raises the number by one at most. That of `CreateValidator` does so only if another number
than the limit is noted, which is what it checks. -/
theorem activeCount_effect (hs : Consistent addr s) (he : Effect addr s act s') :
    s'.activeCount ≤ s.activeCount ∨ PassesChecks s act ∧ s'.activeCount ≤ s.activeCount + 1 := by
  cases he with
  | refused | proposed | approved | rejected | discarded => exact .inl le_rfl
  | created _ _ room free =>
    refine .inr ⟨room, ?_⟩
    rw [activeCount_of_new free rfl]
    split <;> omega
  | enabled found spelled disabled =>
    refine .inr ⟨?_, ?_⟩
    · rw [PassesChecks, spelled, disabled]
      rfl
    · exact activeCount_le_of_set found.found rfl
  | disabled found => exact .inl (activeCount_of_jail found.found rfl)
  | disabledAtOnce proposal => exact .inl (activeCount_of_jail proposal.found rfl)
  | disabledByVotes vote => exact .inl (activeCount_of_jail vote.found rfl)
  | jailed _ _ found => exact .inl (activeCount_of_jail found rfl)
  | ended hend => exact .inl (activeCount_endBlock hs hend).le

/-- A step that does not overfill the ledger keeps the limit. -/
theorem activeCount_step (hs : Consistent addr s) (hstep : (validators addr).step s act s')
    (hgood : ¬ Overfills s act) (hle : s.activeCount ≤ maxNodes) : s'.activeCount ≤ maxNodes := by
  rcases activeCount_effect hs (step_effect hs hstep) with hcount | ⟨hpasses, hcount⟩
  · exact hcount.trans hle
  · have hroom : ¬ maxNodes ≤ s.activeCount := fun hfull => hgood ⟨hpasses, hfull⟩
    omega

theorem activeCount_le_of_reachable
    (h : ((validators addr).restrict fun s act => ¬ Overfills s act).Reachable s) :
    s.activeCount ≤ maxNodes := by
  refine h.induction (P := fun s => s.activeCount ≤ maxNodes) (Nat.zero_le _) fun hr hle hstep => ?_
  exact activeCount_step (consistent_of_reachable hr.of_restrict) hstep.1 hstep.2 hle

/-- After a block the powers noted are as many as the validators with power. -/
theorem countLastValidators_eq (hs : Consistent addr s) (h : Indexed addr s)
    (hend : applyAndReturnValidatorSetUpdates addr s = some (updates, s')) :
    s'.countLastValidators = s'.activeCount := by
  have hs' : Consistent addr s' := consistent_effect hs (.ended hend)
  refine KVStore.length_entries_eq_countP fun k => ?_
  rw [last_iff_of_endBlock hs h hend k]
  simp only [decide_eq_true_eq]
  constructor
  · rintro ⟨a, v, rfl, hget, hpower⟩
    exact ⟨v, hget, hpower⟩
  · rintro ⟨v, hget, hpower⟩
    obtain ⟨a, rfl, -⟩ := hs'.validator k v hget
    exact ⟨a, v, rfl, hget, hpower⟩

end Count

/-- **Where the limit holds.** In every run, after a block as many powers are noted as validators have
power. At most `maxNodes` validators have power at any time, and so after every block, in the runs in
which no `EnableValidator` of a disabled validator comes while as many have power, and no
`CreateValidator` while as many have power and another number was noted at the end of the last
block. -/
theorem active_le_maxNodes (addr : Addresses) :
    (∀ s updates s', (validators addr).Reachable s →
      applyAndReturnValidatorSetUpdates addr s = some (updates, s') →
      s'.countLastValidators = s'.activeCount) ∧
    ∀ s, ((validators addr).restrict fun s act => ¬ Overfills s act).Reachable s →
      s.activeCount ≤ maxNodes ∧
      ∀ updates s', applyAndReturnValidatorSetUpdates addr s = some (updates, s') →
        s'.activeCount ≤ maxNodes ∧ s'.countLastValidators ≤ maxNodes := by
  have hcount : ∀ s updates s', (validators addr).Reachable s →
      applyAndReturnValidatorSetUpdates addr s = some (updates, s') →
      s'.countLastValidators = s'.activeCount := fun s updates s' h hend =>
    countLastValidators_eq (consistent_of_reachable h) (indexed_of_reachable h) hend
  refine ⟨hcount, fun s h => ?_⟩
  have hle := activeCount_le_of_reachable h
  refine ⟨hle, fun updates s' hend => ?_⟩
  have hactive := activeCount_endBlock (consistent_of_reachable h.of_restrict) hend
  exact ⟨hactive.trans_le hle, (hcount s updates s' h.of_restrict hend).trans_le (hactive.trans_le hle)⟩

/-- Two validators are created, and are noted at the end of the block. -/
theorem example_limit_kept : ∃ s updates s',
    ((validators exampleAddresses).restrict fun s act => ¬ Overfills s act).Reachable s ∧
    applyAndReturnValidatorSetUpdates exampleAddresses s = some (updates, s') ∧
    s'.activeCount = 2 ∧ s'.countLastValidators = 2 ∧ s'.countLastValidators ≤ maxNodes := by
  obtain ⟨s, h, hp⟩ := exists_reachable_of_foldlM
    (T := (validators exampleAddresses).restrict fun s act => ¬ Overfills s act)
    (p := fun s : Store => (applyAndReturnValidatorSetUpdates exampleAddresses s).any
      fun r => r.2.activeCount = 2)
    (guarded _ (next exampleAddresses)) (step_of_guarded step_of_next)
    (["one", "two"].map fun name =>
      .deliver (exampleContext (exampleAccounts ["one", "two"] [.nodeAdmin])) (exampleCreate name))
    (by decide +kernel)
  rw [Option.any_eq_true] at hp
  obtain ⟨⟨updates, s'⟩, hend, hactive⟩ := hp
  have hactive : s'.activeCount = 2 := of_decide_eq_true hactive
  obtain ⟨hnoted, hlimit⟩ := active_le_maxNodes exampleAddresses
  exact ⟨s, updates, s', h, hend, hactive, (hnoted s updates s' h.of_restrict hend).trans hactive,
    ((hlimit s h).2 updates s' hend).2⟩

/-! ## A block that creates many validators -/

/-- A validator that may be created: its address and its key. -/
structure Node where
  address : ValAddress
  pubKey : PubKey
deriving DecidableEq

/-- The message creates the node, if its address and its key are free. -/
structure Candidate (addr : Addresses) (ctx : Context) (msg : MsgCreateValidator) (n : Node) :
    Prop where
  signer : addr.valAddressFromBech32 msg.signer = .ok n.address
  role : ctx.accounts.hasRole n.address .nodeAdmin = true
  pubKey : msg.pubKey = some n.pubKey
  description : msg.description.validate = .ok ()
  type : checkPubKeyType ctx n.pubKey = .ok ()
  tmKey : n.pubKey.toTmProtoPublicKey.isSome

/-- Two nodes can both be created. -/
def Distinct (addr : Addresses) (n m : Node) : Prop :=
  n.address ≠ m.address ∧ addr.address n.pubKey ≠ addr.address m.pubKey

/-- The validators are these nodes, all with power, and none is noted yet. -/
structure Filled (addr : Addresses) (nodes : List Node) (s : Store) : Prop where
  reachable : (validators addr).Reachable s
  noted : s.lastValidatorPower = .empty
  count : s.activeCount = nodes.length
  stored : ∀ a v, s.getValidator a = some v → ∃ n ∈ nodes, n.address = a ∧
    v.pubKey = some n.pubKey ∧ n.pubKey.toTmProtoPublicKey.isSome

section Block

variable {addr : Addresses} {ctx : Context} {s s' : Store} {nodes : List Node} {n : Node}

/-- What `CreateValidator` demands is all that it needs. -/
theorem createValidator_eq {msg : MsgCreateValidator} (h : Candidate addr ctx msg n)
    (hroom : s.countLastValidators ≠ maxNodes) (hfree : s.getValidator n.address = none)
    (hunknown : s.getValidatorByConsAddr (addr.address n.pubKey) = none) :
    createValidator addr ctx msg s = some (.ok (), { s with
      validator := s.validator.set (validatorKey n.address)
        (newValidator addr n.address n.pubKey msg.description)
      validatorByConsAddr := s.validatorByConsAddr.set
        (validatorByConsAddrKey (addr.address n.pubKey)) n.address }) := by
  simp only [createValidator, ofExcept_bind_ok_iff, failIf_bind_ok_iff, read_bind_ok_iff,
    setting_bind_ok_iff, attempt_ok_iff, decodeWith_eq_ok_iff, decodePubKey_eq_ok_iff]
  refine ⟨n.address, h.signer, by simp [h.role], hroom, by simp [hfree], n.pubKey, h.pubKey,
    by simp [hunknown], (), h.description, (), h.type, _, setValidator_eq ⟨_, h.signer⟩ rfl, ?_⟩
  exact setValidatorByConsAddr_newValidator h.signer

theorem step_of_ok {msg : Msg} (h : handle addr ctx msg s = some (.ok (), s')) :
    (validators addr).step s (.deliver ctx msg) s' := by
  apply step_of_next
  simp [next, exec, deliver, h]

theorem Filled.getValidator_eq_none (h : Filled addr nodes s)
    (hnew : ∀ m ∈ nodes, Distinct addr m n) : s.getValidator n.address = none := by
  by_contra hsome
  obtain ⟨v, hv⟩ := Option.ne_none_iff_exists'.mp hsome
  obtain ⟨m, hm, haddress, -⟩ := h.stored _ v hv
  exact (hnew m hm).1 haddress

theorem Filled.getValidatorByConsAddr_eq_none (h : Filled addr nodes s)
    (hnew : ∀ m ∈ nodes, Distinct addr m n) :
    s.getValidatorByConsAddr (addr.address n.pubKey) = none := by
  by_contra hsome
  obtain ⟨v, hv⟩ := Option.ne_none_iff_exists'.mp hsome
  obtain ⟨a, hindex, -⟩ := getValidatorByConsAddr_eq_some_iff.mp hv
  obtain ⟨w, pk, hw, hpk, haddress⟩ := (indexed_of_reachable h.reachable).index_iff.mp hindex
  obtain ⟨m, hm, -, hkey, -⟩ := h.stored a w hw
  obtain rfl := Option.some.inj (hkey.symm.trans hpk)
  exact (hnew m hm).2 haddress

/-- One more node can be created, however many there are. -/
theorem Filled.create (h : Filled addr nodes s) {msg : MsgCreateValidator}
    (hmsg : Candidate addr ctx msg n) (hnew : ∀ m ∈ nodes, Distinct addr m n) :
    ∃ s', (validators addr).step s (.deliver ctx (.createValidator msg)) s' ∧
      Filled addr (nodes ++ [n]) s' := by
  have hfree := h.getValidator_eq_none hnew
  have hroom : s.countLastValidators ≠ maxNodes := by
    rw [Store.countLastValidators, h.noted]
    decide
  have hok := createValidator_eq hmsg hroom hfree (h.getValidatorByConsAddr_eq_none hnew)
  have hstep : (validators addr).step s (.deliver ctx (.createValidator msg)) _ := step_of_ok hok
  refine ⟨_, hstep, h.reachable.step hstep, h.noted, ?_, fun a v hget => ?_⟩
  · rw [activeCount_of_new hfree rfl, h.count, List.length_append]
    rfl
  · rw [getValidator_of_set rfl] at hget
    split at hget
    · next ha =>
      obtain rfl := Option.some.inj hget
      exact ⟨n, List.mem_append_right _ (List.mem_singleton_self n), ha.symm, rfl, hmsg.tmKey⟩
    · obtain ⟨m, hm, hvalidator⟩ := h.stored a v hget
      exact ⟨m, List.mem_append_left _ hm, hvalidator⟩

/-- **A block can create any number of validators.** -/
theorem exists_block (block : List (MsgCreateValidator × Node))
    (hblock : ∀ p ∈ block, Candidate addr ctx p.1 p.2)
    (hdistinct : (block.map Prod.snd).Pairwise (Distinct addr)) :
    ∃ s, Run (validators addr) (block.map fun p => .deliver ctx (.createValidator p.1)) s ∧
      Filled addr (block.map Prod.snd) s := by
  induction block using List.reverseRecOn with
  | nil => exact ⟨_, Run.init, Reachable.init, rfl, rfl, fun a v hget => nomatch hget⟩
  | append_singleton block p ih =>
    rw [List.map_append, List.map_singleton] at hdistinct ⊢
    rw [List.map_append]
    obtain ⟨hold, -, hnew⟩ := List.pairwise_append.mp hdistinct
    obtain ⟨s, hrun, hs⟩ := ih (fun q hq => hblock q (List.mem_append_left _ hq)) hold
    have hlast := hblock p (List.mem_append_right _ (List.mem_singleton_self p))
    obtain ⟨s', hstep, hs'⟩ :=
      hs.create hlast fun m hm => hnew m hm p.2 (List.mem_singleton_self p.2)
    exact ⟨s', hrun.step hstep, hs'⟩

theorem Filled.exists_endBlock (h : Filled addr nodes s) :
    ∃ updates s', applyAndReturnValidatorSetUpdates addr s = some (updates, s') := by
  refine Validators.exists_endBlock (consistent_of_reachable h.reachable) fun a v hget => ?_
  obtain ⟨n, -, -, hkey, htm⟩ := h.stored a v hget
  rwa [Validator.tmKey, hkey]

end Block

/-! ### One node more than allowed -/

/-- The address in these characters, with the same bytes as its key. -/
def nodeOf (name : List Char) : Node := ⟨name.map charByte, .ed25519 (name.map charByte)⟩

def createNode (name : List Char) : MsgCreateValidator :=
  ⟨spelled "cosmosvaloper1" name, some (nodeOf name).pubKey, ⟨"node", "", "", ""⟩⟩

/-- Node admins with these addresses. -/
def nodeAdmins (names : List (List Char)) : Dclauth.AccountStore :=
  names.foldl (fun accounts name => accounts.set (Dclauth.accountKey (name.map charByte))
    (Dclauth.exampleAccount (spelled "cosmos1" name) [.nodeAdmin])) KVStore.empty

/-- As many names of two letters as nodes are allowed, and one more. -/
def exampleNames : List (List Char) :=
  (List.range (maxNodes + 1)).map fun i => [Char.ofNat (97 + i / 26), Char.ofNat (97 + i % 26)]

theorem hasRole_nodeAdmins {names : List (List Char)} {name : List Char} (h : name ∈ names) :
    (nodeAdmins names).hasRole (name.map charByte) .nodeAdmin = true := by
  induction names using List.reverseRecOn with
  | nil => cases h
  | append_singleton names last ih =>
    rw [Dclauth.hasRole_iff, nodeAdmins, List.foldl_append, List.foldl_cons, List.foldl_nil,
      KVStore.get_set]
    split
    · exact ⟨_, rfl, List.mem_singleton_self _⟩
    · next hne =>
      refine Dclauth.hasRole_iff.mp (ih ((List.mem_append.mp h).resolve_right fun hlast => hne ?_))
      rw [List.mem_singleton.mp hlast]

theorem candidate_createNode {names : List (List Char)} {name : List Char} (h : name ∈ names)
    (hne : name ≠ []) (hchars : ∀ c ∈ name, isAddressChar c = true) :
    Candidate exampleAddresses (exampleContext (nodeAdmins names)) (createNode name) (nodeOf name) where
  signer := by
    have hdecode := @Bech32.ofPrefix_spelled "cosmosvaloper1" (by decide +kernel) (by decide +kernel)
      name hne hchars
    exact hdecode
  role := hasRole_nodeAdmins h
  pubKey := rfl
  description := rfl
  type := by simp [checkPubKeyType, exampleContext, nodeOf, PubKey.type]
  tmKey := rfl

/-- One block creates a validator for each of the names, and after it more nodes are active than
allowed. -/
theorem block_overfilled : ∃ s updates s',
    Run (validators exampleAddresses) (exampleNames.map fun name =>
      .deliver (exampleContext (nodeAdmins exampleNames)) (.createValidator (createNode name))) s ∧
    applyAndReturnValidatorSetUpdates exampleAddresses s = some (updates, s') ∧
    s'.activeCount = maxNodes + 1 ∧ s'.countLastValidators = maxNodes + 1 := by
  have hchecked : (exampleNames.all fun name => name ≠ [] && name.all isAddressChar) = true := by
    decide +kernel
  have hnames : ∀ name ∈ exampleNames, name ≠ [] ∧ ∀ c ∈ name, isAddressChar c = true := by
    simpa only [List.all_eq_true, Bool.and_eq_true, decide_eq_true_eq] using hchecked
  have hdistinct : (exampleNames.map nodeOf).Pairwise (Distinct exampleAddresses) := by
    have hnodup : (exampleNames.map (List.map charByte)).Nodup := by decide +kernel
    rw [List.Nodup, List.pairwise_map] at hnodup
    rw [List.pairwise_map]
    exact hnodup.imp fun hne => ⟨hne, hne⟩
  let block := exampleNames.map fun name => (createNode name, nodeOf name)
  have hblock : ∀ p ∈ block,
      Candidate exampleAddresses (exampleContext (nodeAdmins exampleNames)) p.1 p.2 := by
    intro p hp
    obtain ⟨name, hname, rfl⟩ := List.mem_map.mp hp
    exact candidate_createNode hname (hnames name hname).1 (hnames name hname).2
  have hnodes : block.map Prod.snd = exampleNames.map nodeOf := List.map_map
  obtain ⟨s, hrun, hfilled⟩ := exists_block block hblock (hnodes ▸ hdistinct)
  rw [List.map_map] at hrun
  obtain ⟨updates, s', hend⟩ := hfilled.exists_endBlock
  have hs := consistent_of_reachable hfilled.reachable
  have hactive : s'.activeCount = maxNodes + 1 := by
    rw [activeCount_endBlock hs hend, hfilled.count, hnodes, List.length_map, exampleNames,
      List.length_map, List.length_range]
  have hnoted := countLastValidators_eq hs (indexed_of_reachable hfilled.reachable) hend
  exact ⟨s, updates, s', hrun, hend, hactive, hnoted.trans hactive⟩

end ComplianceLedger.Validators
