import ComplianceLedger.Machine.Load
import ComplianceLedger.Validators.Updates

/-!
# Export and import of the validators

The validators are exported in two forms: the records of the module, and the list of the validators
that Tendermint starts with. An import sets the records and then computes the changes of the validator
set as the end of a block does, by comparing the powers with those of the last block. These are among the
records that were imported, so at the end of a block nothing has changed: the import gives back the store
and returns no changes, while the list for Tendermint has every validator with power.

## Main definitions

* `GenesisState`, `initGenesis`, `exportGenesis`: import and export of the records
* `GenesisValidator`, `writeValidators`: the validators that Tendermint starts with

## Main results

* `initGenesis_exportGenesis`: after a block, an import gives back the store and returns no changes
* `writeValidators_spec`: the list for Tendermint has the validators with power
* `genesis_updates_match`: the two agree where no validator has power, and only there
-/

open Machine Machine.TransitionSystem

namespace ComplianceLedger.Validators

/-- What the module starts with. -/
structure GenesisState where
  validatorList : List Validator
  lastValidatorPowerList : List LastValidatorPower
  proposedDisableValidatorList : List ProposedDisableValidator
  disabledValidatorList : List DisabledValidator
  rejectedValidatorList : List RejectedDisableValidator
deriving DecidableEq, Repr

/-- A validator that Tendermint starts with. -/
structure GenesisValidator where
  address : ConsAddress
  pubKey : TmPublicKey
  power : ℕ
  name : String
deriving DecidableEq, Repr

/-- The key and the power of a validator that Tendermint starts with. -/
def GenesisValidator.update (g : GenesisValidator) : ValidatorUpdate := ⟨g.pubKey, g.power⟩

section Definitions

variable (addr : Addresses)

/-- Set a validator and index it. An error of the index is ignored. -/
def initValidator (s : Store) (elem : Validator) : Option Store :=
  match s.setValidator addr elem with
  | .error _ => none
  | .ok s =>
    match s.setValidatorByConsAddr addr elem with
    | .error _ => some s
    | .ok s => some s

/-- Import a genesis state, and return the changes of the validator set. -/
def initGenesis (gs : GenesisState) : Option (List ValidatorUpdate × Store) := do
  let s ← gs.validatorList.foldlM (initValidator addr) Store.empty
  let s ← gs.lastValidatorPowerList.foldlM
    (fun s elem => (s.setLastValidatorPower addr elem).toOption) s
  let s := gs.proposedDisableValidatorList.foldl (fun s elem => s.setProposedDisableValidator elem) s
  let s := gs.disabledValidatorList.foldl (fun s elem => s.setDisabledValidator elem) s
  let s := gs.rejectedValidatorList.foldl (fun s elem => s.setRejectedNode addr elem) s
  applyAndReturnValidatorSetUpdates addr s

/-- Export the store. The index is not exported. -/
def exportGenesis (s : Store) : GenesisState where
  validatorList := s.validator.values
  lastValidatorPowerList := s.lastValidatorPower.values
  proposedDisableValidatorList := s.proposedDisableValidator.values
  disabledValidatorList := s.disabledValidator.values
  rejectedValidatorList := s.rejectedNode.values

/-- Process the validators of the powers noted, one after another, until the process stops. The source
panics at a power that is noted for no validator. -/
def Store.iterateLastValidators {α : Type} (s : Store) (process : α → Validator → Option (α × Bool)) :
    α → List LastValidatorPower → Option α
  | acc, [] => some acc
  | acc, vp :: rest =>
    match addr.valAddressFromBech32 vp.owner with
    | .error _ => none
    | .ok owner =>
      match s.getValidator owner with
      | none => none
      | some validator =>
        match process acc validator with
        | none => none
        | some (acc, true) => some acc
        | some (acc, false) => s.iterateLastValidators process acc rest

/-- Append a validator to the list. A key that Tendermint does not have ends the list, without an
error; a validator without a description makes the source panic. -/
def writeValidator (vals : List GenesisValidator) (validator : Validator) :
    Option (List GenesisValidator × Bool) :=
  match validator.pubKey with
  | none => some (vals, true)
  | some pk =>
    match pk.toTmProtoPublicKey with
    | none => some (vals, true)
    | some tmPk =>
      match validator.description with
      | none => none
      | some description =>
        some (vals ++ [⟨addr.address pk, tmPk, validator.power, description.moniker⟩], false)

/-- The validators that Tendermint starts with. -/
def writeValidators (s : Store) : Option (List GenesisValidator) :=
  s.iterateLastValidators addr (writeValidator addr) [] s.lastValidatorPower.values

end Definitions

variable {addr : Addresses} {s s' : Store} {act : Act} {a : ValAddress} {v : Validator}
  {updates : List ValidatorUpdate}

/-! ## Runs -/

/-- Validators have descriptions, and rejected proposals lie under their own addresses. -/
structure Exportable (addr : Addresses) (s : Store) : Prop where
  described : s.validator.All fun _ v => v.description.isSome
  rejected : s.rejectedNode.All fun k record =>
    k = rejectedNodeKey (addr.val.getAddress record.address)

/-- Setting a validator that has the description of a stored one. -/
theorem Exportable.set_validator (h : Exportable addr s) (hfound : s.getValidator a = some v)
    {w : Validator} (hw : w.description = v.description) :
    (s.validator.set (validatorKey a) w).All fun _ v => v.description.isSome :=
  h.described.set (by rw [hw]; exact h.described _ v hfound)

theorem exportable_effect (hs : Consistent addr s) (h : Exportable addr s)
    (he : Effect addr s act s') : Exportable addr s' := by
  cases he with
  | refused => exact h
  | created => exact ⟨h.described.set rfl, h.rejected⟩
  | disabled found => exact ⟨h.set_validator found.found rfl, h.rejected⟩
  | enabled found => exact ⟨h.set_validator found.found rfl, h.rejected⟩
  | proposed => exact ⟨h.described, h.rejected.delete _⟩
  | disabledAtOnce proposal => exact ⟨h.set_validator proposal.found rfl, h.rejected.delete _⟩
  | approved => exact ⟨h.described, h.rejected⟩
  | disabledByVotes vote => exact ⟨h.set_validator vote.found rfl, h.rejected⟩
  | rejected => exact ⟨h.described, h.rejected⟩
  | discarded vote =>
    refine ⟨h.described, h.rejected.set ?_⟩
    -- the proposal names the validator as the codec spells it
    rw [vote.names]
    exact congrArg rejectedNodeKey (Bech32.getAddress_string vote.address).symm
  | jailed isAddress owner found => exact ⟨h.set_validator found rfl, h.rejected⟩
  | ended ends =>
    rw [endBlock_frame hs ends]
    exact ⟨h.described, h.rejected⟩

theorem exportable_of_reachable (h : (validators addr).Reachable s) : Exportable addr s :=
  h.induction (P := Exportable addr) ⟨.empty, .empty⟩ fun hr hs hstep =>
    exportable_effect (consistent_of_reachable hr) hs (effect_of_reachable hr hstep)

/-! ## The import, kind by kind -/

section Loops

/-- The key that a validator is indexed under. -/
def indexKey (addr : Addresses) (v : Validator) : Bytes :=
  validatorByConsAddrKey ((v.pubKey.map addr.address).getD [])

/-- The store with a validator set and indexed. -/
def placed (addr : Addresses) (s : Store) (v : Validator) : Store :=
  { s with
    validator := s.validator.set (validatorKey (addr.val.getAddress v.owner)) v
    validatorByConsAddr :=
      s.validatorByConsAddr.set (indexKey addr v) (addr.val.getAddress v.owner) }

theorem initValidator_eq (h : v.Owned addr a) (s : Store) :
    initValidator addr s v = some (placed addr s v) := by
  obtain ⟨text, hdecode⟩ := h.isAddress
  obtain ⟨pk, hpk⟩ := Option.isSome_iff_exists.mp h.pubKey
  have howner := Validator.getOwner_eq hdecode h.owner
  simp only [initValidator, Store.setValidator, Store.setValidatorByConsAddr, howner, hpk, placed,
    indexKey, h.getAddress, Option.map_some, Option.getD_some]

theorem foldl_placed (addr : Addresses) (l : List Validator) (s : Store) :
    l.foldl (placed addr) s =
      { s with
        validator := s.validator.load (fun v => validatorKey (addr.val.getAddress v.owner))
          (fun v => v) l
        validatorByConsAddr := s.validatorByConsAddr.load (indexKey addr)
          (fun v => addr.val.getAddress v.owner) l } := by
  induction l generalizing s with
  | nil => rfl
  | cons v l ih =>
    rw [List.foldl_cons, ih]
    rfl

theorem setLastValidatorPower_eq (ha : addr.IsAddress a) (s : Store) :
    (s.setLastValidatorPower addr (newLastValidatorPower addr a)).toOption =
      some { s with
        lastValidatorPower := s.lastValidatorPower.set
          (lastValidatorPowerKey (addr.val.getAddress (newLastValidatorPower addr a).owner))
          (newLastValidatorPower addr a) } := by
  obtain ⟨text, hdecode⟩ := ha
  simp only [Store.setLastValidatorPower, newLastValidatorPower, addr.decode_valString hdecode,
    Bech32.getAddress_of_ok (addr.decode_valString hdecode), Except.toOption]

end Loops

/-! ## An import after a block -/

section Import

theorem Consistent.keyed (hs : Consistent addr s) :
    s.validator.All fun k v => k = validatorKey (addr.val.getAddress v.owner) := by
  intro k v hget
  obtain ⟨a, rfl, howned⟩ := hs.validator k v hget
  rw [howned.getAddress]

/-- The validators give back the index. -/
theorem load_index (hs : Consistent addr s) (h : Indexed addr s) :
    KVStore.empty.load (indexKey addr) (fun v => addr.val.getAddress v.owner) s.validator.values =
      s.validatorByConsAddr := by
  apply KVStore.load_eq
  · intro v hv
    have hget := hs.keyed.mem_values_iff.mp hv
    obtain ⟨pk, hpk⟩ := Option.isSome_iff_exists.mp (hs.owned hget).pubKey
    rw [indexKey, hpk]
    exact h.indexed _ v pk hget hpk
  · intro k a hget
    obtain ⟨v, pk, rfl, hv, hpk⟩ := h.index k a hget
    refine ⟨v, mem_values_of_getValidator hv, ?_⟩
    rw [indexKey, hpk]
    rfl

/-- The powers noted are those of addresses. -/
theorem Indexed.isAddress_of_mem (h : Indexed addr s) (hs : Consistent addr s)
    {last : LastValidatorPower} (hlast : last ∈ s.lastValidatorPower.values) :
    ∃ a v, addr.IsAddress a ∧ last = newLastValidatorPower addr a ∧ s.getValidator a = some v ∧
      v.tmKey.isSome ∧ (s.getLastValidatorPower a).isSome := by
  obtain ⟨k, hget⟩ := KVStore.mem_values_iff.mp hlast
  obtain ⟨a, v, rfl, rfl, hv, hkey⟩ := h.last k last hget
  exact ⟨a, v, (hs.owned hv).isAddress, rfl, hv, hkey, Option.isSome_iff_exists.mpr ⟨_, hget⟩⟩

theorem Indexed.keyed_last (h : Indexed addr s) (hs : Consistent addr s) :
    s.lastValidatorPower.All fun k last =>
      k = lastValidatorPowerKey (addr.val.getAddress last.owner) := by
  intro k last hget
  obtain ⟨a, v, rfl, rfl, hv, -⟩ := h.last k last hget
  obtain ⟨text, hdecode⟩ := (hs.owned hv).isAddress
  exact congrArg lastValidatorPowerKey (Bech32.getAddress_string hdecode).symm

/-- The validators are imported, and indexed as they were. -/
theorem foldlM_initValidator (hs : Consistent addr s) (h : Indexed addr s) :
    s.validator.values.foldlM (initValidator addr) Store.empty =
      some { Store.empty with
        validator := s.validator, validatorByConsAddr := s.validatorByConsAddr } := by
  rw [foldlM_eq_some (g := placed addr), foldl_placed]
  · congr 2
    · exact KVStore.load_values hs.keyed
    · exact load_index hs h
  · intro v hv t
    obtain ⟨a, howned⟩ := hs.owned_of_mem hv
    exact initValidator_eq howned t

/-- The powers noted are imported. -/
theorem foldlM_setLastValidatorPower (hs : Consistent addr s) (h : Indexed addr s) {t : Store}
    (ht : t.lastValidatorPower = .empty) :
    s.lastValidatorPower.values.foldlM
      (fun s elem => (s.setLastValidatorPower addr elem).toOption) t =
        some { t with lastValidatorPower := s.lastValidatorPower } := by
  rw [foldlM_eq_some (g := fun t last => { t with
      lastValidatorPower := t.lastValidatorPower.set
        (lastValidatorPowerKey (addr.val.getAddress last.owner)) last })]
  · exact congrArg some (foldl_load_values Store.lastValidatorPower
      (fun powers t => { t with lastValidatorPower := powers })
      (fun _ _ => rfl) (fun _ _ _ => rfl) (fun _ => rfl) (h.keyed_last hs) ht)
  · intro last hlast t
    obtain ⟨a, v, ha, rfl, -⟩ := h.isAddress_of_mem hs hlast
    exact setLastValidatorPower_eq ha t

/-- The proposals are imported. -/
theorem foldl_setProposedDisableValidator (hs : Consistent addr s) {t : Store}
    (ht : t.proposedDisableValidator = .empty) :
    s.proposedDisableValidator.values.foldl (fun s elem => s.setProposedDisableValidator elem) t =
      { t with proposedDisableValidator := s.proposedDisableValidator } := by
  have hkeyed : s.proposedDisableValidator.All fun k record =>
      k = proposedDisableValidatorKey record.address := by
    intro k record hget
    obtain ⟨a, v, -, hkey, haddress, -⟩ := hs.proposed k record hget
    rw [hkey, haddress]
  exact foldl_load_values Store.proposedDisableValidator
    (fun records t => { t with proposedDisableValidator := records })
    (fun _ _ => rfl) (fun _ _ _ => rfl) (fun _ => rfl) hkeyed ht

/-- The disabled validators are imported. -/
theorem foldl_setDisabledValidator (hs : Consistent addr s) {t : Store}
    (ht : t.disabledValidator = .empty) :
    s.disabledValidator.values.foldl (fun s elem => s.setDisabledValidator elem) t =
      { t with disabledValidator := s.disabledValidator } := by
  have hkeyed : s.disabledValidator.All fun k record =>
      k = disabledValidatorKey record.address := by
    intro k record hget
    obtain ⟨a, v, -, hkey, haddress, -⟩ := hs.disabled k record hget
    rw [hkey, haddress]
  exact foldl_load_values Store.disabledValidator
    (fun records t => { t with disabledValidator := records })
    (fun _ _ => rfl) (fun _ _ _ => rfl) (fun _ => rfl) hkeyed ht

/-- The rejected proposals are imported. -/
theorem foldl_setRejectedNode (h : Exportable addr s) {t : Store} (ht : t.rejectedNode = .empty) :
    s.rejectedNode.values.foldl (fun s elem => s.setRejectedNode addr elem) t =
      { t with rejectedNode := s.rejectedNode } :=
  foldl_load_values Store.rejectedNode (fun records t => { t with rejectedNode := records })
    (fun _ _ => rfl) (fun _ _ _ => rfl) (fun _ => rfl) h.rejected ht

/-- The records that are imported are those that were exported. -/
theorem initGenesis_eq (hs : Consistent addr s) (h : Indexed addr s) (hexport : Exportable addr s) :
    initGenesis addr (exportGenesis s) = applyAndReturnValidatorSetUpdates addr s := by
  simp only [initGenesis, exportGenesis]
  rw [foldlM_initValidator hs h, Option.bind_eq_bind, Option.bind_some,
    foldlM_setLastValidatorPower hs h rfl, Option.bind_some,
    foldl_setProposedDisableValidator hs rfl, foldl_setDisabledValidator hs rfl,
    foldl_setRejectedNode hexport rfl]

/-- The powers noted are those of the validators. -/
def Noted (s : Store) : Prop :=
  ∀ a, (s.getLastValidatorPower a).isSome ↔ ∃ v, s.getValidator a = some v ∧ 0 < v.power

/-- Where the powers are noted, nothing changes. -/
theorem applyAndReturnValidatorSetUpdates_of_noted (hs : Consistent addr s) (h : Indexed addr s)
    (hnoted : Noted s) : applyAndReturnValidatorSetUpdates addr s = some ([], s) := by
  apply foldlM_fixed
  intro v hv
  have hget := hs.keyed.mem_values_iff.mp hv
  -- a validator is noted exactly if it has power, so neither branch is taken
  have hsame : 0 < s.lastPower (addr.val.getAddress v.owner) ↔ 0 < v.power := by
    rw [lastPower_pos_iff h.lastRecords, hnoted]
    constructor
    · rintro ⟨w, hw, hpower⟩
      rwa [Option.some.inj (hget.symm.trans hw)]
    · intro hpower
      exact ⟨v, hget, hpower⟩
  rw [applyValidator_eq (hs.owned hget), if_neg (by simp only; omega), if_neg (by simp only; omega)]

/-- **After a block, an import gives back the store and returns no changes.** -/
theorem initGenesis_exportGenesis (h : (validators addr).Reachable s) (hnoted : Noted s) :
    initGenesis addr (exportGenesis s) = some ([], s) := by
  have hs := consistent_of_reachable h
  have hindexed := indexed_of_reachable h
  rw [initGenesis_eq hs hindexed (exportable_of_reachable h),
    applyAndReturnValidatorSetUpdates_of_noted hs hindexed hnoted]

end Import

/-! ## The list for Tendermint -/

section Write

/-- The validator has this key and this power. -/
def Shows (v : Validator) (u : ValidatorUpdate) : Prop := v.tmKey = some u.pubKey ∧ v.power = u.power

theorem Shows.unique {u u' : ValidatorUpdate} (h : Shows v u) (h' : Shows v u') : u = u' := by
  obtain ⟨hkey, hpower⟩ := h
  obtain ⟨hkey', hpower'⟩ := h'
  cases u
  cases u'
  simp_all

/-- A validator with a key of Tendermint and a description is appended to the list. -/
theorem writeValidator_eq (addr : Addresses) (hkey : v.tmKey.isSome)
    (hdescription : v.description.isSome) (vals : List GenesisValidator) :
    ∃ g, writeValidator addr vals v = some (vals ++ [g], false) ∧ Shows v g.update := by
  obtain ⟨tm, hkey⟩ := Option.isSome_iff_exists.mp hkey
  obtain ⟨description, hdescription⟩ := Option.isSome_iff_exists.mp hdescription
  obtain ⟨pk, hpk, htm⟩ := Option.bind_eq_some_iff.mp hkey
  refine ⟨⟨addr.address pk, tm, v.power, description.moniker⟩, ?_, hkey, rfl⟩
  simp only [writeValidator, hpk, htm, hdescription]

/-- The validators of the powers noted are appended one after another. -/
theorem iterateLastValidators_spec {l : List LastValidatorPower}
    (h : ∀ last ∈ l, ∃ a v, addr.valAddressFromBech32 last.owner = .ok a ∧
      s.getValidator a = some v ∧ v.tmKey.isSome ∧ v.description.isSome)
    (vals : List GenesisValidator) :
    ∃ new, s.iterateLastValidators addr (writeValidator addr) vals l = some (vals ++ new) ∧
      ∀ u, u ∈ new.map GenesisValidator.update ↔
        ∃ last ∈ l, ∃ a v, addr.valAddressFromBech32 last.owner = .ok a ∧
          s.getValidator a = some v ∧ Shows v u := by
  induction l generalizing vals with
  | nil => exact ⟨[], by simp [Store.iterateLastValidators], by simp⟩
  | cons last l ih =>
    obtain ⟨a, v, hdecode, hv, hkey, hdescription⟩ := h last List.mem_cons_self
    obtain ⟨g, hwrite, hshows⟩ := writeValidator_eq addr hkey hdescription vals
    obtain ⟨new, hiterate, hnew⟩ := ih (fun e he => h e (List.mem_cons_of_mem last he)) (vals ++ [g])
    refine ⟨g :: new, ?_, fun u => ?_⟩
    · rw [Store.iterateLastValidators]
      simp only [hdecode, hv, hwrite, hiterate, List.append_assoc, List.singleton_append]
    · rw [List.map_cons, List.mem_cons, hnew]
      constructor
      · rintro (rfl | ⟨e, he, hshown⟩)
        · exact ⟨last, List.mem_cons_self, a, v, hdecode, hv, hshows⟩
        · exact ⟨e, List.mem_cons_of_mem last he, hshown⟩
      · rintro ⟨e, he, b, w, hb, hw, hshown⟩
        rcases List.mem_cons.mp he with rfl | he
        · obtain rfl := Except.ok.inj (hdecode.symm.trans hb)
          obtain rfl := Option.some.inj (hv.symm.trans hw)
          exact Or.inl (hshown.unique hshows)
        · exact Or.inr ⟨e, he, b, w, hb, hw, hshown⟩

/-- The power of an address is noted in a record that names the address. -/
theorem Indexed.exists_last_iff (h : Indexed addr s) (hs : Consistent addr s) :
    (∃ last ∈ s.lastValidatorPower.values, addr.valAddressFromBech32 last.owner = .ok a) ↔
      (s.getLastValidatorPower a).isSome := by
  constructor
  · rintro ⟨last, hlast, hdecode⟩
    obtain ⟨b, v, ⟨text, hb⟩, rfl, -, -, hnoted⟩ := h.isAddress_of_mem hs hlast
    rwa [← Except.ok.inj ((addr.decode_valString hb).symm.trans hdecode)]
  · intro hnoted
    obtain ⟨last, hget⟩ := Option.isSome_iff_exists.mp hnoted
    obtain ⟨b, v, hkey, rfl, hv, -⟩ := h.last _ last hget
    obtain rfl := validatorKey_injective hkey
    obtain ⟨text, hdecode⟩ := (hs.owned hv).isAddress
    exact ⟨_, KVStore.mem_values_iff.mpr ⟨_, hget⟩, addr.decode_valString hdecode⟩

/-- **The list for Tendermint has the validators with power.** -/
theorem writeValidators_spec (h : (validators addr).Reachable s) (hnoted : Noted s) :
    ∃ vals, writeValidators addr s = some vals ∧
      ∀ u, u ∈ vals.map GenesisValidator.update ↔
        ∃ v ∈ s.validator.values, 0 < v.power ∧ Shows v u := by
  have hs := consistent_of_reachable h
  have hindexed := indexed_of_reachable h
  have hrecords : ∀ last ∈ s.lastValidatorPower.values, ∃ a v,
      addr.valAddressFromBech32 last.owner = .ok a ∧ s.getValidator a = some v ∧ v.tmKey.isSome ∧
        v.description.isSome := by
    intro last hlast
    obtain ⟨a, v, ⟨text, hdecode⟩, rfl, hv, hkey, -⟩ := hindexed.isAddress_of_mem hs hlast
    exact ⟨a, v, addr.decode_valString hdecode, hv, hkey,
      (exportable_of_reachable h).described _ v hv⟩
  -- every power noted is that of a stored validator, so the list does not end early
  obtain ⟨vals, hvals, hshown⟩ := iterateLastValidators_spec hrecords []
  refine ⟨vals, hvals, fun u => ?_⟩
  rw [hshown]
  constructor
  · rintro ⟨last, hlast, a, v, hdecode, hv, hshows⟩
    have hlast' := (hindexed.exists_last_iff hs).mp ⟨last, hlast, hdecode⟩
    obtain ⟨w, hw, hpower⟩ := (hnoted a).mp hlast'
    rw [Option.some.inj (hw.symm.trans hv)] at hpower
    exact ⟨v, mem_values_of_getValidator hv, hpower, hshows⟩
  · rintro ⟨v, hv, hpower, hshows⟩
    have hget := hs.keyed.mem_values_iff.mp hv
    obtain ⟨last, hlast, hdecode⟩ :=
      (hindexed.exists_last_iff hs).mpr ((hnoted _).mpr ⟨v, hget, hpower⟩)
    exact ⟨last, hlast, _, v, hdecode, hget, hshows⟩

end Write

/-! ## The changes and the list -/

/-- **The changes that an import returns.** At the end of every block, the import of the exported
records gives back the store, and Tendermint's list is written. The changes that the import returns are
those of the list where no validator has power, and only there. -/
theorem genesis_updates_match {s₀ : Store} (h : (validators addr).Reachable s₀)
    (hend : applyAndReturnValidatorSetUpdates addr s₀ = some (updates, s)) :
    ∃ res vals, initGenesis addr (exportGenesis s) = some (res, s) ∧
      writeValidators addr s = some vals ∧
      ((∀ u, u ∈ res ↔ u ∈ vals.map GenesisValidator.update) ↔
        ∀ v ∈ s.validator.values, v.power = 0) := by
  have hstep : (validators addr).step s₀ .endBlock s := ⟨updates, hend⟩
  have hreach := h.step hstep
  have hindexed := indexed_of_reachable hreach
  have hnoted : Noted s :=
    endBlock_noted (consistent_of_reachable h) (indexed_of_reachable h) hend
  obtain ⟨vals, hvals, hshown⟩ := writeValidators_spec hreach hnoted
  refine ⟨[], vals, initGenesis_exportGenesis hreach hnoted, hvals, ?_⟩
  simp only [hshown, List.not_mem_nil, false_iff, not_exists, not_and]
  constructor
  · intro hnone v hv
    by_contra hpower
    -- a validator with power has a key of Tendermint
    have hget := (consistent_of_reachable hreach).keyed.mem_values_iff.mp hv
    obtain ⟨w, hw, hkey⟩ := hindexed.getValidator_of_last
      ((hnoted _).mpr ⟨v, hget, Nat.pos_of_ne_zero hpower⟩)
    obtain rfl := Option.some.inj (hget.symm.trans hw)
    obtain ⟨tm, htm⟩ := Option.isSome_iff_exists.mp hkey
    exact hnone ⟨tm, v.power⟩ v hv (Nat.pos_of_ne_zero hpower) ⟨htm, rfl⟩
  · intro hzero u v hv hpower
    exact absurd (hzero v hv) hpower.ne'

/-- The context in which the owner of the only validator signs. -/
def exampleAdmin : Context := exampleContext (exampleAccounts ["one"] [.nodeAdmin])

/-- The only validator is disabled by its owner: neither the changes nor the list have it. -/
theorem example_updates_match : ∃ s₀ updates s,
    (validators exampleAddresses).Reachable s₀ ∧
    applyAndReturnValidatorSetUpdates exampleAddresses s₀ = some (updates, s) ∧
    (s.getValidator (utf8 "one")).isSome = true ∧
    ∃ res vals, initGenesis exampleAddresses (exportGenesis s) = some (res, s) ∧
      writeValidators exampleAddresses s = some vals ∧
      ∀ u, u ∈ res ↔ u ∈ vals.map GenesisValidator.update := by
  obtain ⟨s₀, hs₀, hp⟩ := exists_reachable_of_foldlM (T := validators exampleAddresses)
    (p := fun s => (applyAndReturnValidatorSetUpdates exampleAddresses s).any fun r =>
      (r.2.getValidator (utf8 "one")).isSome && r.2.validator.values.all fun v => v.power = 0)
    (next exampleAddresses) step_of_next
    [.deliver exampleAdmin (exampleCreate "one"), .endBlock,
      .deliver exampleAdmin (.disableValidator "cosmosvaloper1one")]
    (by decide +kernel)
  simp only [Option.any_eq_true, Bool.and_eq_true, List.all_eq_true, decide_eq_true_eq] at hp
  obtain ⟨⟨updates, s⟩, hend, hone, hzero⟩ := hp
  obtain ⟨res, vals, hinit, hwrite, hmatch⟩ := genesis_updates_match hs₀ hend
  exact ⟨s₀, updates, s, hs₀, hend, hone, res, vals, hinit, hwrite, hmatch.mpr hzero⟩

/-- A validator is created. At the end of the block it is on the list for Tendermint, and the import
of the exported records returns no changes. -/
theorem example_no_updates : ∃ s₀ updates s,
    (validators exampleAddresses).Reachable s₀ ∧
    applyAndReturnValidatorSetUpdates exampleAddresses s₀ = some (updates, s) ∧
    (initGenesis exampleAddresses (exportGenesis s)).map Prod.fst = some [] ∧
    (writeValidators exampleAddresses s).map (List.map GenesisValidator.update) =
      some [⟨.ed25519 (utf8 "one"), 10⟩] := by
  obtain ⟨s₀, hs₀, hp⟩ := exists_reachable_of_foldlM (T := validators exampleAddresses)
    (p := fun s => (applyAndReturnValidatorSetUpdates exampleAddresses s).any fun r =>
      (initGenesis exampleAddresses (exportGenesis r.2)).map Prod.fst = some [] &&
        (writeValidators exampleAddresses r.2).map (List.map GenesisValidator.update) =
          some [⟨.ed25519 (utf8 "one"), 10⟩])
    (next exampleAddresses) step_of_next [.deliver exampleAdmin (exampleCreate "one")]
    (by decide +kernel)
  simp only [Option.any_eq_true, Bool.and_eq_true, decide_eq_true_eq] at hp
  obtain ⟨⟨updates, s⟩, hend, hinit, hwrite⟩ := hp
  exact ⟨s₀, updates, s, hs₀, hend, hinit, hwrite⟩

end ComplianceLedger.Validators
