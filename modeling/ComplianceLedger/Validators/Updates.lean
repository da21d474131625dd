import ComplianceLedger.Machine.Delta
import ComplianceLedger.Validators.Effect

/-!
# The validator set of Tendermint

Tendermint keeps the validator set, and learns of its changes from the list that the end of each block
returns. The list is the difference between the validators and the powers noted at the end of the
last block. The runs here carry the set beside the store, and every list that is returned is applied
to it.

At any time the set holds the keys of the validators whose power is noted. At the end of a block the
powers noted become those of the validators, and the changes are the difference, so the set becomes
that of the validators with power.

## Main definitions

* `ValidatorSet`, `ValidatorSet.apply`: the set of Tendermint, and how a list of changes is applied
* `consensus addr`: the runs of the module, with the set
* `Indexed addr s`: the index by consensus addresses, and the powers noted
* `Follows addr s set`: the set holds the validators whose power is noted

## Main results

* `pass_spec`: the end of a block returns the difference, and notes the powers
* `follows_of_reachable`: the set follows the powers noted
* `validator_set_exact`: the set after every block, and the lists that are returned
-/

open Machine Machine.Handler Machine.TransitionSystem

namespace ComplianceLedger.Validators

/-- The validator set of Tendermint: the powers of its keys. -/
abbrev ValidatorSet := TmPublicKey → Option ℕ

/-- A change under the name of its key: without power a key leaves the set. -/
def ValidatorUpdate.change (u : ValidatorUpdate) : TmPublicKey × Option ℕ :=
  (u.pubKey, if u.power = 0 then none else some u.power)

/-- The set after a list of changes. -/
def ValidatorSet.apply (set : ValidatorSet) (updates : List ValidatorUpdate) : ValidatorSet :=
  Delta.apply set (updates.map ValidatorUpdate.change)

/-- The runs of the module with the set that Tendermint keeps. -/
def consensus (addr : Addresses) : TransitionSystem (Store × ValidatorSet) Act where
  init := (Store.empty, fun _ => none)
  step p a q := ∃ updates, exec addr p.1 a = some (updates, q.1) ∧ q.2 = p.2.apply updates

/-! ## The index and the powers noted -/

/-- The index holds every validator under the address of its key and nothing else, and the powers
noted are those of stored validators with keys of Tendermint. -/
structure Indexed (addr : Addresses) (s : Store) : Prop where
  index : s.validatorByConsAddr.All fun k a => ∃ v pk,
    k = validatorByConsAddrKey (addr.address pk) ∧ s.getValidator a = some v ∧ v.pubKey = some pk
  indexed : ∀ a v pk, s.getValidator a = some v → v.pubKey = some pk →
    s.validatorByConsAddr.get (validatorByConsAddrKey (addr.address pk)) = some a
  last : s.lastValidatorPower.All fun k last => ∃ a v, k = lastValidatorPowerKey a ∧
    last = newLastValidatorPower addr a ∧ s.getValidator a = some v ∧ v.tmKey.isSome

section Index

variable {addr : Addresses} {s s' : Store} {act : Act} {a b : ValAddress} {v w : Validator}

/-- Validators with the same key are the same. -/
theorem Indexed.eq_of_pubKey (h : Indexed addr s) {pk : PubKey} (ha : s.getValidator a = some v)
    (hb : s.getValidator b = some w) (hv : v.pubKey = some pk) (hw : w.pubKey = some pk) : a = b :=
  Option.some.inj ((h.indexed a v pk ha hv).symm.trans (h.indexed b w pk hb hw))

/-- A validator may be set in the place of another with the same key. -/
theorem Indexed.set_validator (h : Indexed addr s) (hget : s.getValidator a = some v)
    (hset : s'.validator = s.validator.set (validatorKey a) w)
    (hindex : s'.validatorByConsAddr = s.validatorByConsAddr)
    (hlast : s'.lastValidatorPower = s.lastValidatorPower) (hkey : w.pubKey = v.pubKey) :
    Indexed addr s' := by
  have hlookup := getValidator_of_set hset
  refine ⟨fun k b hb => ?_, fun b u pk hb hpk => ?_, fun k last hk => ?_⟩
  · obtain ⟨u, pk, hk, hu, hpk⟩ := h.index k b (hindex ▸ hb)
    by_cases hba : b = a
    · subst hba
      obtain rfl := Option.some.inj (hget.symm.trans hu)
      exact ⟨w, pk, hk, by rw [hlookup, if_pos rfl], hkey.trans hpk⟩
    · exact ⟨u, pk, hk, by rw [hlookup, if_neg hba, hu], hpk⟩
  · rw [hindex]
    rw [hlookup] at hb
    split at hb
    · next hba =>
      obtain rfl := Option.some.inj hb
      exact hba ▸ h.indexed a v pk hget (hkey ▸ hpk)
    · exact h.indexed b u pk hb hpk
  · obtain ⟨b, u, hkey', hlast', hu, htm⟩ := h.last k last (hlast ▸ hk)
    by_cases hba : b = a
    · subst hba
      obtain rfl := Option.some.inj (hget.symm.trans hu)
      exact ⟨b, w, hkey', hlast', by rw [hlookup, if_pos rfl], by rwa [Validator.tmKey, hkey]⟩
    · exact ⟨b, u, hkey', hlast', by rw [hlookup, if_neg hba, hu], htm⟩

/-- A validator with a key that is not known may be added. -/
theorem Indexed.create (h : Indexed addr s) {pk : PubKey} (hfree : s.getValidator a = none)
    (hunknown : s.getValidatorByConsAddr (addr.address pk) = none) (hkey : w.pubKey = some pk)
    (hset : s'.validator = s.validator.set (validatorKey a) w)
    (hindex : s'.validatorByConsAddr =
      s.validatorByConsAddr.set (validatorByConsAddrKey (addr.address pk)) a)
    (hlast : s'.lastValidatorPower = s.lastValidatorPower) : Indexed addr s' := by
  have hlookup := getValidator_of_set hset
  have hne : ∀ {b u}, s.getValidator b = some u → b ≠ a := by
    rintro b u hu rfl
    cases hfree.symm.trans hu
  -- an entry of the index leads to a validator, so the new key is not in it
  have hnew : s.validatorByConsAddr.get (validatorByConsAddrKey (addr.address pk)) = none := by
    by_contra hsome
    obtain ⟨b, hb⟩ := Option.ne_none_iff_exists'.mp hsome
    obtain ⟨u, pk', -, hu, -⟩ := h.index _ b hb
    rw [getValidatorByConsAddr_eq_some_iff.mpr ⟨b, hb, hu⟩] at hunknown
    cases hunknown
  refine ⟨?_, fun b u pk' hb hpk' => ?_, fun k last hk => ?_⟩
  · rw [hindex]
    refine KVStore.All.set (fun k b hb => ?_) ⟨w, pk, rfl, by rw [hlookup, if_pos rfl], hkey⟩
    obtain ⟨u, pk', hk, hu, hpk'⟩ := h.index k b hb
    exact ⟨u, pk', hk, by rw [hlookup, if_neg (hne hu), hu], hpk'⟩
  · rw [hindex]
    rw [hlookup] at hb
    split at hb
    · next hba =>
      obtain rfl := Option.some.inj hb
      obtain rfl := Option.some.inj (hkey.symm.trans hpk')
      rw [KVStore.get_set_self, hba]
    · have hold := h.indexed b u pk' hb hpk'
      rw [KVStore.get_set_of_ne, hold]
      intro heq
      rw [heq, hnew] at hold
      cases hold
  · obtain ⟨b, u, hk', hlast', hu, htm⟩ := h.last k last (hlast ▸ hk)
    exact ⟨b, u, hk', hlast', by rw [hlookup, if_neg (hne hu), hu], htm⟩

end Index

/-! ## The end of a block -/

/-- The power a validator had at the end of the last block, if it was active. -/
def wasActive (addr : Addresses) (s : Store) (v : Validator) : Option ℕ :=
  if (s.getLastValidatorPower (addr.val.getAddress v.owner)).isSome then some power else none

/-- The power of a validator, if it is active. -/
def isActive (v : Validator) : Option ℕ := if v.power = 0 then none else some v.power

/-- The validators under the keys that Tendermint has for them. -/
def named (vs : List Validator) : List (TmPublicKey × Validator) :=
  vs.filterMap fun v => v.tmKey.map fun tm => (tm, v)

/-- The powers noted are all the same. -/
def LastRecords (addr : Addresses) (s : Store) : Prop :=
  s.lastValidatorPower.All fun k last => ∃ a, k = lastValidatorPowerKey a ∧
    last = newLastValidatorPower addr a

section Pass

variable {addr : Addresses} {s s' : Store} {a : ValAddress} {v : Validator}
  {p q : List ValidatorUpdate × Store}

theorem lastPower_pos_iff (h : LastRecords addr s) :
    0 < s.lastPower a ↔ (s.getLastValidatorPower a).isSome := by
  unfold Store.lastPower
  cases hget : s.getLastValidatorPower a with
  | none => simp
  | some last =>
    obtain ⟨b, -, rfl⟩ := h _ _ hget
    simp [newLastValidatorPower, power]

theorem lastPower_eq_zero_iff (h : LastRecords addr s) :
    s.lastPower a = 0 ↔ s.getLastValidatorPower a = none := by
  rw [← Nat.le_zero, ← not_lt, lastPower_pos_iff h, Option.not_isSome_iff_eq_none]

theorem getLastValidatorPower_remove (s : Store) (a b : ValAddress) :
    (s.removeLastValidatorPower a).getLastValidatorPower b =
      if b = a then none else s.getLastValidatorPower b := by
  have hkey : lastValidatorPowerKey b = lastValidatorPowerKey a ↔ b = a :=
    validatorKey_injective.eq_iff
  simp only [Store.getLastValidatorPower, Store.removeLastValidatorPower, KVStore.get_delete, hkey]

theorem getLastValidatorPower_noteActive (s : Store) (a b : ValAddress) :
    (s.noteActive addr a).getLastValidatorPower b =
      if b = a then some (newLastValidatorPower addr a) else s.getLastValidatorPower b := by
  have hkey : lastValidatorPowerKey b = lastValidatorPowerKey a ↔ b = a :=
    validatorKey_injective.eq_iff
  simp only [Store.getLastValidatorPower, Store.noteActive, KVStore.get_set, hkey]

theorem Validator.Owned.getAddress (h : v.Owned addr a) : addr.val.getAddress v.owner = a := by
  obtain ⟨text, hdecode⟩ := h.isAddress
  rw [h.owner]
  exact Bech32.getAddress_string hdecode

/-- What the end of a block does about one validator: the change is the difference, the power is
noted, and nothing else is written. -/
structure Passed (addr : Addresses) (vs : List Validator) (p q : List ValidatorUpdate × Store) :
    Prop where
  changes : q.1.map ValidatorUpdate.change = p.1.map ValidatorUpdate.change ++
    Delta.diff (wasActive addr p.2) isActive (named vs)
  records : LastRecords addr q.2
  noted : ∀ v ∈ vs, ∀ a, v.Owned addr a →
    ((q.2.getLastValidatorPower a).isSome ↔ 0 < v.power)
  keyed : ∀ v ∈ vs, ∀ a, v.Owned addr a → 0 < v.power →
    v.tmKey.isSome ∨ (p.2.getLastValidatorPower a).isSome
  others : ∀ a, (∀ v ∈ vs, ¬ v.Owned addr a) →
    q.2.getLastValidatorPower a = p.2.getLastValidatorPower a

theorem Validator.Owned.unique {b : ValAddress} (ha : v.Owned addr a) (hb : v.Owned addr b) :
    a = b :=
  IsAddress.eq ha.isAddress hb.isAddress (ha.owner.symm.trans hb.owner)

theorem named_singleton {tm : TmPublicKey} (hkey : v.tmKey = some tm) : named [v] = [(tm, v)] := by
  simp [named, hkey]

theorem mem_named_iff {vs : List Validator} {tm : TmPublicKey} :
    (tm, v) ∈ named vs ↔ v ∈ vs ∧ v.tmKey = some tm := by
  simp only [named, List.mem_filterMap, Option.map_eq_some_iff, Prod.mk.injEq]
  constructor
  · rintro ⟨w, hw, tm', hkey, rfl, rfl⟩
    exact ⟨hw, hkey⟩
  · rintro ⟨hv, hkey⟩
    exact ⟨v, hv, tm, hkey, rfl, rfl⟩

theorem wasActive_eq (howned : v.Owned addr a) :
    wasActive addr s v = if (s.getLastValidatorPower a).isSome then some power else none := by
  rw [wasActive, howned.getAddress]

theorem isActive_eq_some_iff (howned : v.Owned addr a) {w : ℕ} :
    isActive v = some w ↔ w = power ∧ 0 < v.power := by
  unfold isActive
  rcases howned.power with ⟨-, hzero⟩ | ⟨-, hpower⟩
  · simp [hzero]
  · simp [hpower, power, eq_comm]

/-- The power of one validator is noted. -/
theorem passed_singleton (howned : v.Owned addr a)
    (hchanges : q.1.map ValidatorUpdate.change = p.1.map ValidatorUpdate.change ++
      Delta.diff (wasActive addr p.2) isActive (named [v]))
    (hrecords : LastRecords addr q.2)
    (hnoted : (q.2.getLastValidatorPower a).isSome ↔ 0 < v.power)
    (hkeyed : 0 < v.power → v.tmKey.isSome ∨ (p.2.getLastValidatorPower a).isSome)
    (hothers : ∀ b, b ≠ a → q.2.getLastValidatorPower b = p.2.getLastValidatorPower b) :
    Passed addr [v] p q := by
  refine ⟨hchanges, hrecords, fun w hw b hb => ?_, fun w hw b hb => ?_, fun b hb => hothers b ?_⟩
  · obtain rfl := List.mem_singleton.mp hw
    rw [← howned.unique hb]
    exact hnoted
  · obtain rfl := List.mem_singleton.mp hw
    rw [← howned.unique hb]
    exact hkeyed
  · rintro rfl
    exact hb v (List.mem_singleton_self v) howned

theorem Applied.passed (h : Applied addr a v p q) (howned : v.Owned addr a)
    (hlast : LastRecords addr p.2) : Passed addr [v] p q := by
  cases h with
  | @removed tm key was now =>
    have hwas : wasActive addr p.2 v = some power := by
      rw [wasActive_eq howned, if_pos ((lastPower_pos_iff hlast).mp was)]
    refine passed_singleton howned ?_ (KVStore.All.delete hlast _) ?_ ?_ fun b hb => ?_
    · simp [named_singleton key, Delta.diff, hwas, isActive, now, ValidatorUpdate.change]
    · simp [getLastValidatorPower_remove, now]
    · simp [key]
    · rw [getLastValidatorPower_remove, if_neg hb]
  | @added tm key was now =>
    have hwas : wasActive addr p.2 v = none := by
      rw [wasActive_eq howned, (lastPower_eq_zero_iff hlast).mp was]
      rfl
    refine passed_singleton howned ?_ (KVStore.All.set hlast ⟨a, rfl, rfl⟩) ?_ ?_ fun b hb => ?_
    · simp [named_singleton key, Delta.diff, hwas, isActive, now.ne', ValidatorUpdate.change]
    · simp [getLastValidatorPower_noteActive, now]
    · simp [key]
    · rw [getLastValidatorPower_noteActive, if_neg hb]
  | kept same =>
    rw [lastPower_pos_iff hlast] at same
    refine passed_singleton howned ?_ hlast same (fun hpower => .inr (same.mpr hpower)) fun b _ => rfl
    have hsame : (wasActive addr p.2 v).isSome = (isActive v).isSome := by
      rw [wasActive_eq howned, isActive]
      by_cases hnow : v.power = 0
      · simp [hnow] at same ⊢
        simp [same]
      · simp [hnow, same.mpr (Nat.pos_of_ne_zero hnow)]
    cases hkey : v.tmKey with
    | none => simp [named, hkey, Delta.diff]
    | some tm => simp [named_singleton hkey, Delta.diff, hsame]

/-- The powers of validators with different owners are noted one after another. -/
theorem Passed.cons {vs : List Validator} {r : List ValidatorUpdate × Store}
    (h : Passed addr [v] p q) (hvs : Passed addr vs q r) (howned : v.Owned addr a)
    (howners : ∀ w ∈ vs, ∃ b, w.Owned addr b) (hne : ∀ w ∈ vs, ¬ w.Owned addr a) :
    Passed addr (v :: vs) p r := by
  -- noting the first power does not change what the others were
  have hothers : ∀ w ∈ vs, ∀ b, w.Owned addr b →
      q.2.getLastValidatorPower b = p.2.getLastValidatorPower b := by
    intro w hw b hb
    apply h.others b
    intro u hu hub
    obtain rfl := List.mem_singleton.mp hu
    exact hne w hw (howned.unique hub ▸ hb)
  have hwas : ∀ w ∈ vs, wasActive addr q.2 w = wasActive addr p.2 w := by
    intro w hw
    obtain ⟨b, hb⟩ := howners w hw
    rw [wasActive_eq hb, wasActive_eq hb, hothers w hw b hb]
  refine ⟨?_, hvs.records, fun w hw b hb => ?_, fun w hw b hb => ?_, fun b hb => ?_⟩
  · have hnamed : named (v :: vs) = named [v] ++ named vs :=
      List.filterMap_append (l := [v])
    have hrest : Delta.diff (wasActive addr q.2) isActive (named vs) =
        Delta.diff (wasActive addr p.2) isActive (named vs) :=
      Delta.diff_congr fun i hi => hwas i.2 (mem_named_iff.mp hi).1
    rw [hvs.changes, h.changes, hnamed, Delta.diff_append, hrest, List.append_assoc]
  · rcases List.mem_cons.mp hw with rfl | hw
    · rw [hvs.others b fun u hu hub => hne u hu (howned.unique hb ▸ hub)]
      exact h.noted w (List.mem_singleton_self w) b hb
    · exact hvs.noted w hw b hb
  · rcases List.mem_cons.mp hw with rfl | hw
    · exact h.keyed w (List.mem_singleton_self w) b hb
    · rw [← hothers w hw b hb]
      exact hvs.keyed w hw b hb
  · rw [hvs.others b fun w hw => hb w (List.mem_cons_of_mem v hw), h.others b]
    intro u hu
    obtain rfl := List.mem_singleton.mp hu
    exact hb u List.mem_cons_self

/-- **The end of a block returns the difference and notes the powers.** -/
theorem pass_spec {vs : List Validator} (howners : ∀ v ∈ vs, ∃ a, v.Owned addr a)
    (hne : vs.Pairwise fun v w => v.owner ≠ w.owner) (hlast : LastRecords addr p.2)
    (h : vs.foldlM (applyValidator addr) p = some q) : Passed addr vs p q := by
  induction vs generalizing p with
  | nil =>
    obtain rfl := Option.some.inj h
    exact ⟨(List.append_nil _).symm, hlast, (fun _ hv => nomatch hv), (fun _ hv => nomatch hv),
      fun _ _ => rfl⟩
  | cons v vs ih =>
    rw [List.foldlM_cons, Option.bind_eq_bind, Option.bind_eq_some_iff] at h
    obtain ⟨p', happly, h⟩ := h
    obtain ⟨a, howned⟩ := howners v List.mem_cons_self
    obtain ⟨hfirst, hne⟩ := List.pairwise_cons.mp hne
    have hvs : ∀ w ∈ vs, ∃ b, w.Owned addr b := fun w hw => howners w (List.mem_cons_of_mem v hw)
    have hpassed := (applied_of_applyValidator howned happly).passed howned hlast
    refine hpassed.cons (ih hvs hne hpassed.records h) howned hvs fun w hw hwa => ?_
    exact hfirst w hw (howned.owner.trans hwa.owner.symm)

/-- The stored validators have different owners. -/
theorem Consistent.pairwise_owner (hs : Consistent addr s) :
    s.validator.values.Pairwise fun v w => v.owner ≠ w.owner := by
  rw [KVStore.values, List.pairwise_map]
  refine s.validator.sorted.imp_of_mem fun {e e'} he he' hlt => ?_
  obtain ⟨a, hkey, howned⟩ := hs.validator e.1 e.2 (KVStore.mem_entries_iff.mp he)
  obtain ⟨b, hkey', howned'⟩ := hs.validator e'.1 e'.2 (KVStore.mem_entries_iff.mp he')
  intro howner
  have hab : a = b := IsAddress.eq howned.isAddress howned'.isAddress
    (howned.owner.symm.trans (howner.trans howned'.owner))
  rw [hkey, hkey', hab] at hlt
  exact lt_irrefl _ hlt

theorem Indexed.lastRecords (h : Indexed addr s) : LastRecords addr s := by
  intro k last hget
  obtain ⟨a, v, hkey, hlast, -, -⟩ := h.last k last hget
  exact ⟨a, hkey, hlast⟩

theorem mem_values_of_getValidator (hget : s.getValidator a = some v) : v ∈ s.validator.values :=
  KVStore.mem_values_iff.mpr ⟨_, hget⟩

variable {updates : List ValidatorUpdate}

/-- The end of a block passes all validators. -/
theorem endBlock_passed (hs : Consistent addr s) (hindexed : Indexed addr s)
    (h : applyAndReturnValidatorSetUpdates addr s = some (updates, s')) :
    Passed addr s.validator.values ([], s) (updates, s') :=
  pass_spec (fun _ hv => hs.owned_of_mem hv) hs.pairwise_owner hindexed.lastRecords h

/-- After a block the powers noted are those of the validators. -/
theorem endBlock_noted (hs : Consistent addr s) (hindexed : Indexed addr s)
    (h : applyAndReturnValidatorSetUpdates addr s = some (updates, s')) (a : ValAddress) :
    (s'.getLastValidatorPower a).isSome ↔ ∃ v, s'.getValidator a = some v ∧ 0 < v.power := by
  have hpassed := endBlock_passed hs hindexed h
  have hvalidator : s'.getValidator a = s.getValidator a := by rw [endBlock_frame hs h]; rfl
  rw [hvalidator]
  cases hget : s.getValidator a with
  | some v =>
    rw [hpassed.noted v (mem_values_of_getValidator hget) a (hs.owned hget)]
    simp
  | none =>
    -- no power is noted for an address without a validator, and this stays so
    have hothers := hpassed.others a fun v hv howned => by
      obtain ⟨k, hk⟩ := KVStore.mem_values_iff.mp hv
      obtain ⟨b, rfl, hb⟩ := hs.validator k v hk
      rw [← howned.unique hb] at hk
      cases hget.symm.trans hk
    have hnone : s.getLastValidatorPower a = none := by
      by_contra hsome
      obtain ⟨last, hlast⟩ := Option.ne_none_iff_exists'.mp hsome
      obtain ⟨b, v, hkey, -, hv, -⟩ := hindexed.last _ last hlast
      rw [← validatorKey_injective hkey, hget] at hv
      cases hv
    simp [hothers, hnone]

end Pass

/-! ## The set follows the powers noted -/

section Follows

variable {addr : Addresses} {s s' : Store} {act : Act} {set : ValidatorSet}
  {updates : List ValidatorUpdate}

/-- The set holds the keys of the validators whose power is noted. -/
def Follows (s : Store) (set : ValidatorSet) : Prop :=
  ∀ tm w, set tm = some w ↔ w = power ∧
    ∃ a v, s.getValidator a = some v ∧ v.tmKey = some tm ∧ (s.getLastValidatorPower a).isSome

theorem Indexed.getValidator_of_last (h : Indexed addr s) {a : ValAddress}
    (hlast : (s.getLastValidatorPower a).isSome) :
    ∃ v, s.getValidator a = some v ∧ v.tmKey.isSome := by
  obtain ⟨last, hget⟩ := Option.isSome_iff_exists.mp hlast
  obtain ⟨b, v, hkey, -, hv, htm⟩ := h.last _ last hget
  exact ⟨v, validatorKey_injective hkey ▸ hv, htm⟩

/-- A step other than the end of a block keeps the index. -/
theorem indexed_change (h : Indexed addr s) (hchange : Change addr s act s')
    (hlast : s'.lastValidatorPower = s.lastValidatorPower) : Indexed addr s' := by
  cases hchange with
  | kept validator index disabled =>
    have hlookup : s'.getValidator = s.getValidator := by
      funext a
      rw [Store.getValidator, validator]
      rfl
    exact ⟨by simpa only [index, hlookup] using h.index,
      by simpa only [index, hlookup] using h.indexed, by simpa only [hlast, hlookup] using h.last⟩
  | created isAddress free unknown type validator index =>
    exact h.create free unknown rfl validator index hlast
  | disabled found validator index => exact h.set_validator found validator index hlast rfl
  | enabled _ found validator index => exact h.set_validator found validator index hlast rfl
  | jailed found _ validator index => exact h.set_validator found validator index hlast rfl

theorem indexed_endBlock (hs : Consistent addr s) (h : Indexed addr s)
    (hend : applyAndReturnValidatorSetUpdates addr s = some (updates, s')) : Indexed addr s' := by
  have hnoted := endBlock_noted hs h hend
  have hrecords := (endBlock_passed hs h hend).records
  have hframe := endBlock_frame hs hend
  refine ⟨by rw [hframe]; exact h.index, by rw [hframe]; exact h.indexed, fun k last hget => ?_⟩
  obtain ⟨a, rfl, rfl⟩ := hrecords k last hget
  obtain ⟨v, hv, hpower⟩ := (hnoted a).mp (Option.isSome_iff_exists.mpr ⟨_, hget⟩)
  have hv' : s.getValidator a = some v := by rw [hframe] at hv; exact hv
  refine ⟨a, v, rfl, rfl, hv, ?_⟩
  -- a power is noted for a key, in this block or before it
  rcases (endBlock_passed hs h hend).keyed v (mem_values_of_getValidator hv') a (hs.owned hv')
    hpower with hkey | hlast
  · exact hkey
  · obtain ⟨w, hw, hkey⟩ := h.getValidator_of_last hlast
    rwa [Option.some.inj (hv'.symm.trans hw)]

theorem indexed_step (hs : Consistent addr s) (h : Indexed addr s)
    (hstep : (validators addr).step s act s') : Indexed addr s' := by
  have heffect := step_effect hs hstep
  by_cases hact : act = .endBlock
  · subst hact
    obtain ⟨updates, hend⟩ := hstep
    exact indexed_endBlock hs h hend
  · exact indexed_change h (change_of_effect hs heffect) (lastValidatorPower_of_effect heffect hact)

/-- **The index is exact in every run.** -/
theorem indexed_of_reachable (h : (validators addr).Reachable s) : Indexed addr s :=
  h.induction ⟨.empty, (fun _ _ _ hget => nomatch hget), .empty⟩ fun hr hs hstep =>
    indexed_step (consistent_of_reachable hr) hs hstep

/-- A validator keeps its key. -/
theorem Change.tmKey_eq (h : Change addr s act s') {a : ValAddress} {v : Validator}
    (hget : s.getValidator a = some v) :
    ∃ v', s'.getValidator a = some v' ∧ v'.tmKey = v.tmKey := by
  -- a validator that is set in the place of another has its key
  have hset : ∀ {b : ValAddress} {u w : Validator}, s.getValidator b = some u →
      s'.validator = s.validator.set (validatorKey b) w → w.tmKey = u.tmKey →
      ∃ v', s'.getValidator a = some v' ∧ v'.tmKey = v.tmKey := by
    intro b u w hu hvalidator hkey
    have hlookup := getValidator_of_set hvalidator a
    by_cases hab : a = b
    · subst hab
      obtain rfl := Option.some.inj (hget.symm.trans hu)
      exact ⟨w, hlookup.trans (if_pos rfl), hkey⟩
    · exact ⟨v, (hlookup.trans (if_neg hab)).trans hget, rfl⟩
  cases h with
  | kept validator =>
    refine ⟨v, ?_, rfl⟩
    rw [Store.getValidator, validator]
    exact hget
  | @created _ _ _ b _ _ free _ _ validator =>
    have hab : a ≠ b := by
      rintro rfl
      cases free.symm.trans hget
    exact ⟨v, ((getValidator_of_set validator a).trans (if_neg hab)).trans hget, rfl⟩
  | disabled found validator => exact hset found validator rfl
  | enabled _ found validator => exact hset found validator rfl
  | jailed found _ validator => exact hset found validator rfl

/-- A step other than the end of a block changes neither the keys nor the powers noted. -/
theorem follows_change (h : Indexed addr s) (hfollows : Follows s set)
    (hchange : Change addr s act s') (hlast : s'.lastValidatorPower = s.lastValidatorPower) :
    Follows s' set := by
  have hlast' : s'.getLastValidatorPower = s.getLastValidatorPower := by
    funext a
    rw [Store.getLastValidatorPower, hlast]
    rfl
  intro tm w
  rw [hfollows tm w, hlast']
  refine and_congr_right fun _ => exists_congr fun a => ?_
  constructor
  · rintro ⟨v, hv, hkey, hnoted⟩
    obtain ⟨v', hv', hkey'⟩ := hchange.tmKey_eq hv
    exact ⟨v', hv', hkey'.trans hkey, hnoted⟩
  · rintro ⟨v', hv', hkey', hnoted⟩
    obtain ⟨v, hv, -⟩ := h.getValidator_of_last hnoted
    obtain ⟨v'', hv'', hkey⟩ := hchange.tmKey_eq hv
    obtain rfl := Option.some.inj (hv'.symm.trans hv'')
    exact ⟨v, hv, hkey.symm.trans hkey', hnoted⟩

/-- The names of the validators differ. -/
theorem nodup_named (hs : Consistent addr s) (h : Indexed addr s) :
    ((named s.validator.values).map Prod.fst).Nodup := by
  rw [List.Nodup, List.pairwise_map, named, List.pairwise_filterMap]
  refine hs.pairwise_owner.imp_of_mem fun {v w} hv hw howner => ?_
  rintro ⟨tm, _⟩ hnamed ⟨tm', _⟩ hnamed' rfl
  simp only [Option.map_eq_some_iff, Prod.mk.injEq] at hnamed hnamed'
  obtain ⟨tm, hkey, rfl, rfl⟩ := hnamed
  obtain ⟨_, hkey', rfl, rfl⟩ := hnamed'
  obtain ⟨k, hget⟩ := KVStore.mem_values_iff.mp hv
  obtain ⟨a, rfl, howned⟩ := hs.validator k v hget
  obtain ⟨k', hget'⟩ := KVStore.mem_values_iff.mp hw
  obtain ⟨b, rfl, howned'⟩ := hs.validator k' w hget'
  obtain ⟨pk, hpk, htm⟩ := Option.bind_eq_some_iff.mp hkey
  obtain ⟨pk', hpk', htm'⟩ := Option.bind_eq_some_iff.mp hkey'
  obtain rfl := PubKey.toTmProtoPublicKey_injective htm htm'
  obtain rfl := h.eq_of_pubKey hget hget' hpk hpk'
  exact howner (howned.owner.trans howned'.owner.symm)

/-- The set mirrors the validators that were active. -/
theorem Follows.mirrors (hs : Consistent addr s) (h : Follows s set) :
    Delta.Mirrors (named s.validator.values) (wasActive addr s) set := by
  intro tm w
  rw [h tm w]
  constructor
  · rintro ⟨rfl, a, v, hv, hkey, hnoted⟩
    refine ⟨v, mem_named_iff.mpr ⟨mem_values_of_getValidator hv, hkey⟩, ?_⟩
    rw [wasActive_eq (hs.owned hv), if_pos hnoted]
  · rintro ⟨v, hmem, hwas⟩
    obtain ⟨hv, hkey⟩ := mem_named_iff.mp hmem
    obtain ⟨k, hget⟩ := KVStore.mem_values_iff.mp hv
    obtain ⟨a, rfl, howned⟩ := hs.validator k v hget
    rw [wasActive_eq howned] at hwas
    split at hwas
    · next hnoted => exact ⟨(Option.some.inj hwas).symm, a, v, hget, hkey, hnoted⟩
    · cases hwas

theorem changes_of_endBlock (hs : Consistent addr s) (h : Indexed addr s)
    (hend : applyAndReturnValidatorSetUpdates addr s = some (updates, s')) :
    updates.map ValidatorUpdate.change =
      Delta.diff (wasActive addr s) isActive (named s.validator.values) :=
  (endBlock_passed hs h hend).changes

/-- At the end of a block the set follows the new powers. -/
theorem follows_endBlock (hs : Consistent addr s) (h : Indexed addr s) (hfollows : Follows s set)
    (hend : applyAndReturnValidatorSetUpdates addr s = some (updates, s')) :
    Follows s' (set.apply updates) := by
  have hstay : ∀ i ∈ named s.validator.values, (wasActive addr s i.2).isSome →
      (isActive i.2).isSome → wasActive addr s i.2 = isActive i.2 := by
    rintro ⟨tm, v⟩ hmem hwas hnow
    obtain ⟨a, howned⟩ := hs.owned_of_mem (mem_named_iff.mp hmem).1
    obtain ⟨w, hw⟩ := Option.isSome_iff_exists.mp hnow
    obtain ⟨rfl, -⟩ := (isActive_eq_some_iff howned).mp hw
    rw [wasActive] at hwas ⊢
    split at hwas
    · next hnoted => rw [if_pos hnoted, hw]
    · cases hwas
  have hmirrors := Delta.mirrors_apply_diff (nodup_named hs h) (hfollows.mirrors hs) hstay
  rw [← changes_of_endBlock hs h hend] at hmirrors
  have hnoted := endBlock_noted hs h hend
  have hvalidator : s'.getValidator = s.getValidator := by rw [endBlock_frame hs hend]; rfl
  intro tm w
  rw [ValidatorSet.apply, hmirrors tm w]
  constructor
  · rintro ⟨v, hmem, hactive⟩
    obtain ⟨hv, hkey⟩ := mem_named_iff.mp hmem
    obtain ⟨k, hget⟩ := KVStore.mem_values_iff.mp hv
    obtain ⟨a, rfl, howned⟩ := hs.validator k v hget
    obtain ⟨rfl, hpower⟩ := (isActive_eq_some_iff howned).mp hactive
    have hget' : s'.getValidator a = some v := hvalidator ▸ hget
    exact ⟨rfl, a, v, hget', hkey, (hnoted a).mpr ⟨v, hget', hpower⟩⟩
  · rintro ⟨rfl, a, v, hget, hkey, hlast⟩
    obtain ⟨v', hget', hpower⟩ := (hnoted a).mp hlast
    obtain rfl := Option.some.inj (hget.symm.trans hget')
    rw [hvalidator] at hget
    exact ⟨v, mem_named_iff.mpr ⟨mem_values_of_getValidator hget, hkey⟩,
      (isActive_eq_some_iff (hs.owned hget)).mpr ⟨rfl, hpower⟩⟩

/-- The lists that are returned are proper. -/
theorem proper_endBlock (hs : Consistent addr s) (h : Indexed addr s) (hfollows : Follows s set)
    (hend : applyAndReturnValidatorSetUpdates addr s = some (updates, s')) :
    Delta.Proper set (updates.map ValidatorUpdate.change) := by
  rw [changes_of_endBlock hs h hend]
  exact Delta.proper_diff (nodup_named hs h) (hfollows.mirrors hs)

/-! ## Runs with the set -/

theorem reachable_of_consensus {p : Store × ValidatorSet} (h : (consensus addr).Reachable p) :
    (validators addr).Reachable p.1 := by
  refine h.simulate Prod.fst rfl ?_
  rintro p act q ⟨updates, hexec, -⟩
  exact .inr ⟨act, updates, hexec⟩

theorem exec_updates_eq_nil {act : Act} (h : exec addr s act = some (updates, s'))
    (hact : act ≠ .endBlock) : updates = [] := by
  cases act with
  | deliver ctx msg =>
    obtain ⟨r, -, hpair⟩ := Option.map_eq_some_iff.mp h
    exact (Prod.mk.inj hpair).1.symm
  | evidence ctx evidence =>
    obtain ⟨r, -, hpair⟩ := Option.map_eq_some_iff.mp h
    exact (Prod.mk.inj hpair).1.symm
  | endBlock => exact absurd rfl hact

/-- **The set follows the powers noted**, in every run. -/
theorem follows_of_reachable {p : Store × ValidatorSet} (h : (consensus addr).Reachable p) :
    Follows p.1 p.2 := by
  refine h.induction (P := fun p => Follows p.1 p.2) ?_ fun {p act q} hr hfollows hstep => ?_
  · intro tm w
    constructor
    · intro hnone
      cases hnone
    · rintro ⟨-, a, v, hget, -⟩
      cases hget
  · obtain ⟨updates, hexec, hset⟩ := hstep
    have hreach := reachable_of_consensus hr
    have hs := consistent_of_reachable hreach
    have hindexed := indexed_of_reachable hreach
    by_cases hact : act = .endBlock
    · subst hact
      rw [hset]
      exact follows_endBlock hs hindexed hfollows hexec
    · have heffect := step_effect hs ⟨updates, hexec⟩
      rw [hset, exec_updates_eq_nil hexec hact]
      exact follows_change hindexed hfollows (change_of_effect hs heffect)
        (lastValidatorPower_of_effect heffect hact)

end Follows

/-! ## The end of a block returns -/

/-- Validators are created under consensus parameters that admit keys of Tendermint only. -/
def TendermintKeys : Act → Prop
  | .deliver ctx (.createValidator _) =>
    ∃ types, ctx.pubKeyTypes = some types ∧ ∀ type ∈ types, type = "ed25519" ∨ type = "secp256k1"
  | _ => True

section Returns

variable {addr : Addresses} {s s' : Store} {act : Act}

theorem isSome_toTmProtoPublicKey {ctx : Context} {types : List String} {pk : PubKey}
    (htypes : ctx.pubKeyTypes = some types)
    (hall : ∀ type ∈ types, type = "ed25519" ∨ type = "secp256k1")
    (hcheck : checkPubKeyType ctx pk = .ok ()) : pk.toTmProtoPublicKey.isSome := by
  simp only [checkPubKeyType, htypes] at hcheck
  split at hcheck
  · next hmem =>
    have htype := hall _ hmem
    cases pk with
    | ed25519 | secp256k1 => rfl
    | secp256r1 | multisig => simp [PubKey.type] at htype
  · cases hcheck

/-- Every validator has a key of Tendermint. -/
def AllKeyed (s : Store) : Prop := ∀ a v, s.getValidator a = some v → v.tmKey.isSome

theorem allKeyed_change (h : AllKeyed s) (hchange : Change addr s act s')
    (hkeys : TendermintKeys act) : AllKeyed s' := by
  intro a v hget
  cases hold : s.getValidator a with
  | some u =>
    obtain ⟨v', hget', hkey⟩ := hchange.tmKey_eq hold
    obtain rfl := Option.some.inj (hget.symm.trans hget')
    rw [hkey]
    exact h a u hold
  | none =>
    have hne : s'.getValidator a ≠ s.getValidator a := by
      rw [hget, hold]
      exact Option.some_ne_none v
    -- a validator that was not there has been created
    cases hchange with
    | kept validator => exact absurd (by simp only [Store.getValidator, validator]) hne
    | created _ _ _ type validator =>
      obtain ⟨types, htypes, hall⟩ := hkeys
      obtain ⟨-, hset⟩ := eq_of_getValidator_ne validator hne
      obtain rfl := Option.some.inj (hget.symm.trans hset)
      exact isSome_toTmProtoPublicKey htypes hall type
    | disabled found validator =>
      obtain ⟨rfl, -⟩ := eq_of_getValidator_ne validator hne
      cases hold.symm.trans found
    | enabled _ found validator =>
      obtain ⟨rfl, -⟩ := eq_of_getValidator_ne validator hne
      cases hold.symm.trans found
    | jailed found _ validator =>
      obtain ⟨rfl, -⟩ := eq_of_getValidator_ne validator hne
      cases hold.symm.trans found

theorem allKeyed_of_reachable
    (h : ((validators addr).restrict fun _ act => TendermintKeys act).Reachable s) :
    AllKeyed s := by
  refine h.induction (fun a v hget => nomatch hget) fun hr hs hstep => ?_
  have hconsistent := consistent_of_reachable hr.of_restrict
  exact allKeyed_change hs (change_of_effect hconsistent (step_effect hconsistent hstep.1)) hstep.2

theorem exists_foldlM {vs : List Validator} (howners : ∀ v ∈ vs, ∃ a, v.Owned addr a)
    (hkeys : ∀ v ∈ vs, v.tmKey.isSome) (p : List ValidatorUpdate × Store) :
    ∃ q, vs.foldlM (applyValidator addr) p = some q := by
  induction vs generalizing p with
  | nil => exact ⟨p, rfl⟩
  | cons v vs ih =>
    obtain ⟨a, howned⟩ := howners v List.mem_cons_self
    obtain ⟨tm, htm⟩ := Option.isSome_iff_exists.mp (hkeys v List.mem_cons_self)
    have hfirst : ∃ p', applyValidator addr p v = some p' := by
      rw [applyValidator_eq howned, htm]
      split_ifs
      · exact ⟨_, rfl⟩
      · exact ⟨_, rfl⟩
      · exact ⟨_, rfl⟩
    obtain ⟨p', hp'⟩ := hfirst
    obtain ⟨q, hq⟩ := ih (fun w hw => howners w (List.mem_cons_of_mem v hw))
      (fun w hw => hkeys w (List.mem_cons_of_mem v hw)) p'
    exact ⟨q, by rw [List.foldlM_cons, hp']; exact hq⟩

theorem exists_endBlock (hs : Consistent addr s) (hkeys : AllKeyed s) :
    ∃ updates s', applyAndReturnValidatorSetUpdates addr s = some (updates, s') := by
  have hvs : ∀ v ∈ s.validator.values, v.tmKey.isSome := by
    intro v hv
    obtain ⟨k, hget⟩ := KVStore.mem_values_iff.mp hv
    obtain ⟨a, rfl, -⟩ := hs.validator k v hget
    exact hkeys a v hget
  obtain ⟨⟨updates, s'⟩, hfold⟩ := exists_foldlM (fun _ hv => hs.owned_of_mem hv) hvs ([], s)
  exact ⟨updates, s', hfold⟩

end Returns

/-! ## The set after every block -/

section Blocks

variable {addr : Addresses} {s s' : Store} {set : ValidatorSet} {updates : List ValidatorUpdate}

theorem Indexed.index_iff (h : Indexed addr s) {consAddr : ConsAddress} {a : ValAddress} :
    s.validatorByConsAddr.get (validatorByConsAddrKey consAddr) = some a ↔
      ∃ v pk, s.getValidator a = some v ∧ v.pubKey = some pk ∧ addr.address pk = consAddr := by
  constructor
  · intro hget
    obtain ⟨v, pk, hkey, hv, hpk⟩ := h.index _ a hget
    exact ⟨v, pk, hv, hpk, (validatorByConsAddrKey_injective hkey).symm⟩
  · rintro ⟨v, pk, hv, hpk, rfl⟩
    exact h.indexed a v pk hv hpk

/-- What Tendermint demands of the changes, in terms of the list. -/
theorem updates_of_proper (h : Delta.Proper set (updates.map ValidatorUpdate.change)) :
    (updates.map ValidatorUpdate.pubKey).Nodup ∧
      (∀ u ∈ updates, u.power = 0 → set u.pubKey ≠ none) ∧
      ∀ u ∈ updates, u.power ≠ 0 → set u.pubKey = none := by
  refine ⟨?_, fun u hu hzero => ?_, fun u hu hpower => ?_⟩
  · have hnodup := h.nodup
    rwa [List.map_map] at hnodup
  · refine h.leaves u.pubKey (List.mem_map.mpr ⟨u, hu, ?_⟩)
    rw [ValidatorUpdate.change, if_pos hzero]
  · refine h.enters u.pubKey u.power (List.mem_map.mpr ⟨u, hu, ?_⟩)
    rw [ValidatorUpdate.change, if_neg hpower]

/-- After a block the set holds the validators with power. -/
theorem set_iff_of_endBlock (hs : Consistent addr s) (h : Indexed addr s)
    (hfollows : Follows s set)
    (hend : applyAndReturnValidatorSetUpdates addr s = some (updates, s')) (tm : TmPublicKey)
    (w : ℕ) : set.apply updates tm = some w ↔
      w = 10 ∧ ∃ a v, s'.getValidator a = some v ∧ v.tmKey = some tm ∧ 0 < v.power := by
  rw [follows_endBlock hs h hfollows hend tm w]
  refine and_congr_right fun _ => exists_congr fun a => exists_congr fun v => ?_
  refine and_congr_right fun hget => and_congr_right fun _ => ?_
  rw [endBlock_noted hs h hend a, hget]
  simp

/-- After a block the powers noted are under the addresses of the validators with power. -/
theorem last_iff_of_endBlock (hs : Consistent addr s) (h : Indexed addr s)
    (hend : applyAndReturnValidatorSetUpdates addr s = some (updates, s')) (k : Bytes) :
    (s'.lastValidatorPower.get k).isSome ↔
      ∃ a v, k = lastValidatorPowerKey a ∧ s'.getValidator a = some v ∧ 0 < v.power := by
  have hnoted := endBlock_noted hs h hend
  constructor
  · intro hsome
    obtain ⟨last, hget⟩ := Option.isSome_iff_exists.mp hsome
    obtain ⟨a, rfl, -⟩ := (endBlock_passed hs h hend).records k last hget
    obtain ⟨v, hv, hpower⟩ := (hnoted a).mp hsome
    exact ⟨a, v, rfl, hv, hpower⟩
  · rintro ⟨a, v, rfl, hv, hpower⟩
    exact (hnoted a).mpr ⟨v, hv, hpower⟩

end Blocks

/-- **The validator set of Tendermint is that of the ledger after every block.** In every run, with
every list that the end of a block returns applied to the set: the index holds the owner of each
validator under the address of its key and nothing else; the changes of a block are under different
keys, remove only keys that are in the set and add only keys that are not; afterwards the set holds
the keys of the validators with power, each with power 10, and the powers noted are those of these
validators. Where the consensus parameters admit keys of Tendermint only, the end of a block
returns. -/
theorem validator_set_exact (addr : Addresses) :
    (∀ s set, (consensus addr).Reachable (s, set) →
      (∀ consAddr a, s.validatorByConsAddr.get (validatorByConsAddrKey consAddr) = some a ↔
        ∃ v pk, s.getValidator a = some v ∧ v.pubKey = some pk ∧ addr.address pk = consAddr) ∧
      (∀ k a, s.validatorByConsAddr.get k = some a → ∃ consAddr, k = validatorByConsAddrKey consAddr) ∧
      ∀ updates s', applyAndReturnValidatorSetUpdates addr s = some (updates, s') →
        (updates.map ValidatorUpdate.pubKey).Nodup ∧
        (∀ u ∈ updates, u.power = 0 → set u.pubKey ≠ none) ∧
        (∀ u ∈ updates, u.power ≠ 0 → set u.pubKey = none) ∧
        (∀ tm w, set.apply updates tm = some w ↔
          w = 10 ∧ ∃ a v, s'.getValidator a = some v ∧ v.tmKey = some tm ∧ 0 < v.power) ∧
        (∀ a v, s'.getValidator a = some v → 0 < v.power → v.tmKey.isSome) ∧
        ∀ k, (s'.lastValidatorPower.get k).isSome ↔
          ∃ a v, k = lastValidatorPowerKey a ∧ s'.getValidator a = some v ∧ 0 < v.power) ∧
    ∀ s, ((validators addr).restrict fun _ act => TendermintKeys act).Reachable s →
      ∃ updates s', applyAndReturnValidatorSetUpdates addr s = some (updates, s') := by
  refine ⟨fun s set h => ?_, fun s h => ?_⟩
  · have hreach := reachable_of_consensus h
    have hs := consistent_of_reachable hreach
    have hindexed := indexed_of_reachable hreach
    have hfollows := follows_of_reachable h
    refine ⟨fun consAddr a => hindexed.index_iff, fun k a hget => ?_, fun updates s' hend => ?_⟩
    · obtain ⟨v, pk, hkey, -⟩ := hindexed.index k a hget
      exact ⟨_, hkey⟩
    · obtain ⟨hnodup, hleaves, henters⟩ := updates_of_proper (proper_endBlock hs hindexed hfollows hend)
      refine ⟨hnodup, hleaves, henters, set_iff_of_endBlock hs hindexed hfollows hend, ?_,
        last_iff_of_endBlock hs hindexed hend⟩
      intro a v hget hpower
      obtain ⟨v', hget', hkey⟩ := (indexed_endBlock hs hindexed hend).getValidator_of_last
        ((endBlock_noted hs hindexed hend a).mpr ⟨v, hget, hpower⟩)
      rwa [Option.some.inj (hget.symm.trans hget')]
  · exact exists_endBlock (consistent_of_reachable h.of_restrict) (allKeyed_of_reachable h)

/-- What is left, with the changes applied to the set. -/
def nextConsensus (addr : Addresses) (p : Store × ValidatorSet) (act : Act) :
    Option (Store × ValidatorSet) :=
  (exec addr p.1 act).map fun r => (r.2, p.2.apply r.1)

theorem step_of_nextConsensus {addr : Addresses} {p q : Store × ValidatorSet} {act : Act}
    (h : nextConsensus addr p act = some q) : (consensus addr).step p act q := by
  obtain ⟨⟨updates, s⟩, hexec, rfl⟩ := Option.map_eq_some_iff.mp h
  exact ⟨updates, hexec, rfl⟩

/-- A validator is created, and enters the set at the end of the block. -/
theorem example_validator_enters : ∃ s set updates s',
    (consensus exampleAddresses).Reachable (s, set) ∧
    applyAndReturnValidatorSetUpdates exampleAddresses s = some (updates, s') ∧
    set (.ed25519 (utf8 "one")) = none ∧
    set.apply updates (.ed25519 (utf8 "one")) = some 10 := by
  obtain ⟨⟨s, set⟩, h, hp⟩ := exists_reachable_of_foldlM (T := consensus exampleAddresses)
    (p := fun p : Store × ValidatorSet => p.2 (.ed25519 (utf8 "one")) = none &&
      (applyAndReturnValidatorSetUpdates exampleAddresses p.1).any fun r =>
        (r.2.getValidator (utf8 "one")).any fun v =>
          v.tmKey = some (.ed25519 (utf8 "one")) && 0 < v.power)
    (nextConsensus exampleAddresses) step_of_nextConsensus
    [.deliver (exampleContext (exampleAccounts ["one"] [.nodeAdmin])) (exampleCreate "one")]
    (by decide +kernel)
  simp only [Bool.and_eq_true, Option.any_eq_true, decide_eq_true_eq] at hp
  obtain ⟨hout, ⟨updates, s'⟩, hend, v, hget, hkey, hpower⟩ := hp
  obtain ⟨-, -, hblock⟩ := (validator_set_exact exampleAddresses).1 s set h
  obtain ⟨-, -, -, hset, -⟩ := hblock updates s' hend
  exact ⟨s, set, updates, s', h, hend, hout, (hset _ 10).mpr ⟨rfl, _, v, hget, hkey, hpower⟩⟩

end ComplianceLedger.Validators
