import ComplianceLedger.Validators.Effect

/-!
# Jailed validators

A validator is jailed by its owner, by the votes of trustees, or for a double signature, and it gets
its power back only when its owner enables it. The first two ways leave a record that it is disabled,
and the third does not: a jailed validator without that record has signed twice since it was last
created or enabled.

The record lies under a text of the address, and the handlers look it up partly under the text of the
codec and partly under that of the message. Only the former are ever stored, so the lookups find
records of the right validator or none.

## Main definitions

* `JailsForDoubleSign t a`, `CreatesOrEnables t a`: what a step did to a validator
* `JailedSince history a`: the validator was jailed for a double signature after it was last created
  or enabled

## Main results

* `jailedSince_of_trace`: jailed validators without a record
* `jail_recorded`: the records about validators and their state, in every run
-/

open Machine Machine.Handler Machine.TransitionSystem

namespace ComplianceLedger.Validators

/-- A piece of evidence has jailed the validator. -/
def JailsForDoubleSign (t : Transition Store Act) (a : ValAddress) : Prop :=
  (∃ ctx evidence, t.label = .evidence ctx evidence) ∧
    (∃ v, t.before.getValidator a = some v ∧ v.jailed = false) ∧
    ∃ v, t.after.getValidator a = some v ∧ v.jailed = true

/-- The validator is new after the step, or is not jailed any more. -/
def CreatesOrEnables (t : Transition Store Act) (a : ValAddress) : Prop :=
  t.before.getValidator a = none ∧ (t.after.getValidator a).isSome ∨
    (∃ v, t.before.getValidator a = some v ∧ v.jailed = true) ∧
      ∃ v, t.after.getValidator a = some v ∧ v.jailed = false

/-- The validator was jailed for a double signature, and not created or enabled since. -/
def JailedSince (history : List (Transition Store Act)) (a : ValAddress) : Prop :=
  ∃ earlier t later, history = earlier ++ t :: later ∧ JailsForDoubleSign t a ∧
    ∀ u ∈ later, ¬ CreatesOrEnables u a

section Steps

variable {addr : Addresses} {s s' : Store} {act : Act} {a : ValAddress} {v : Validator}
  {history : List (Transition Store Act)}

theorem JailedSince.append (h : JailedSince history a) {t : Transition Store Act}
    (ht : ¬ CreatesOrEnables t a) : JailedSince (history ++ [t]) a := by
  obtain ⟨earlier, u, later, rfl, hu, hlater⟩ := h
  refine ⟨earlier, u, later ++ [t], by simp, hu, fun w hw => ?_⟩
  rcases List.mem_append.mp hw with hw | hw
  · exact hlater w hw
  · rwa [List.mem_singleton.mp hw]

/-- A step that leaves a validator as it is neither creates nor enables it. -/
theorem not_createsOrEnables (h : s'.getValidator a = s.getValidator a) :
    ¬ CreatesOrEnables ⟨s, act, s'⟩ a := by
  rintro (⟨hnone, hsome⟩ | ⟨⟨v, hv, hjailed⟩, w, hw, hfree⟩)
  · simp [h, hnone] at hsome
  · simp only [h, hv, Option.some.injEq] at hw
    simp [← hw, hjailed] at hfree

/-- The validators that are jailed without a record were jailed for a double signature. -/
def DoubleSigners (addr : Addresses) (history : List (Transition Store Act)) (s : Store) : Prop :=
  ∀ a v, s.getValidator a = some v → v.jailed = true →
    s.getDisabledValidator (addr.valString a) = none → JailedSince history a

theorem getDisabledValidator_of_set {text text' : String} {record : DisabledValidator}
    (h : s'.disabledValidator = s.disabledValidator.set (disabledValidatorKey text) record)
    (hne : text' ≠ text) : s'.getDisabledValidator text' = s.getDisabledValidator text' := by
  have hkey : disabledValidatorKey text' ≠ disabledValidatorKey text :=
    fun h => hne (disabledValidatorKey_injective h)
  rw [Store.getDisabledValidator, h, KVStore.get_set_of_ne _ _ hkey]
  rfl

theorem getDisabledValidator_of_delete {text text' : String}
    (h : s'.disabledValidator = s.disabledValidator.delete (disabledValidatorKey text))
    (hne : text' ≠ text) : s'.getDisabledValidator text' = s.getDisabledValidator text' := by
  have hkey : disabledValidatorKey text' ≠ disabledValidatorKey text :=
    fun h => hne (disabledValidatorKey_injective h)
  rw [Store.getDisabledValidator, h, KVStore.get_delete, if_neg hkey]
  rfl

/-- Validators at different addresses have different texts. -/
theorem Consistent.valString_ne (hs : Consistent addr s) {b : ValAddress} {w : Validator}
    (ha : s.getValidator a = some v) (hb : s.getValidator b = some w) (hne : a ≠ b) :
    addr.valString a ≠ addr.valString b :=
  fun h => hne (IsAddress.eq (hs.owned ha).isAddress (hs.owned hb).isAddress h)

theorem doubleSigners_change (hs : Consistent addr s) (h : DoubleSigners addr history s)
    (hchange : Change addr s act s') : DoubleSigners addr (history ++ [⟨s, act, s'⟩]) s' := by
  intro a v hget hjailed hnone
  -- where neither the validator nor its record changes, the history only grows
  have hsame : s'.getValidator a = s.getValidator a →
      s'.getDisabledValidator (addr.valString a) = s.getDisabledValidator (addr.valString a) →
      JailedSince (history ++ [⟨s, act, s'⟩]) a := by
    intro hvalidator hrecord
    exact (h a v (hvalidator ▸ hget) hjailed (hrecord ▸ hnone)).append
      (not_createsOrEnables hvalidator)
  cases hchange with
  | kept validator index disabled =>
    exact hsame (by simp only [Store.getValidator, validator])
      (by simp only [Store.getDisabledValidator, disabled])
  | @created _ _ _ b pk isAddress free unknown type validator index disabled =>
    have hlookup := getValidator_of_set validator a
    by_cases hab : a = b
    · rw [if_pos hab, hget] at hlookup
      obtain rfl := Option.some.inj hlookup
      cases hjailed
    · exact hsame (hlookup.trans (if_neg hab)) (by simp only [Store.getDisabledValidator, disabled])
  | @disabled _ _ _ b w _ _ found validator index disabled =>
    have hlookup := getValidator_of_set validator a
    by_cases hab : a = b
    · rw [hab, Store.getDisabledValidator, disabled, KVStore.get_set_self] at hnone
      cases hnone
    · rw [if_neg hab] at hlookup
      exact hsame hlookup (getDisabledValidator_of_set disabled
        (hs.valString_ne (hlookup ▸ hget) found hab))
  | @enabled _ _ _ b w creator found validator index disabled =>
    have hlookup := getValidator_of_set validator a
    by_cases hab : a = b
    · rw [if_pos hab, hget] at hlookup
      obtain rfl := Option.some.inj hlookup
      cases hjailed
    · rw [if_neg hab] at hlookup
      exact hsame hlookup (getDisabledValidator_of_delete disabled
        (hs.valString_ne (hlookup ▸ hget) found hab))
  | @jailed ctx evidence _ b w _ found free validator index disabled =>
    have hlookup := getValidator_of_set validator a
    by_cases hab : a = b
    · subst hab
      exact ⟨history, _, [], rfl, ⟨⟨ctx, evidence, rfl⟩, ⟨w, found, free⟩, ⟨v, hget, hjailed⟩⟩,
        fun _ hu => absurd hu List.not_mem_nil⟩
    · exact hsame (hlookup.trans (if_neg hab)) (by simp only [Store.getDisabledValidator, disabled])

/-- **A jailed validator without a record has signed twice** since it was last created or enabled. -/
theorem jailedSince_of_trace (h : (validators addr).Trace history s) :
    DoubleSigners addr history s := by
  refine h.induction (fun a v hget => nomatch hget) fun hr hsigners hstep => ?_
  have hs := consistent_of_reachable hr
  exact doubleSigners_change hs hsigners (change_of_effect hs (step_effect hs hstep))

/-- Only its owner, by enabling it, gives a validator its power back. -/
theorem enabled_of_power (hchange : Change addr s act s') {w : Validator}
    (hget : s.getValidator a = some v) (hzero : v.power = 0)
    (hget' : s'.getValidator a = some w) (hpower : 0 < w.power) :
    ∃ ctx creator, act = .deliver ctx (.enableValidator creator) ∧
      addr.valAddressFromBech32 creator = .ok a := by
  have hne : s'.getValidator a ≠ s.getValidator a := by
    rw [hget, hget', ne_eq, Option.some.injEq]
    rintro rfl
    omega
  cases hchange with
  | kept validator => exact absurd (by simp only [Store.getValidator, validator]) hne
  | created isAddress free unknown type validator =>
    obtain ⟨rfl, -⟩ := eq_of_getValidator_ne validator hne
    cases free.symm.trans hget
  | disabled found validator =>
    obtain ⟨-, hset⟩ := eq_of_getValidator_ne validator hne
    obtain rfl := Option.some.inj (hget'.symm.trans hset)
    exact absurd hpower (lt_irrefl 0)
  | @enabled ctx creator _ b u creator_eq found validator =>
    obtain ⟨rfl, -⟩ := eq_of_getValidator_ne validator hne
    exact ⟨ctx, creator, rfl, creator_eq⟩
  | jailed found free validator =>
    obtain ⟨-, hset⟩ := eq_of_getValidator_ne validator hne
    obtain rfl := Option.some.inj (hget'.symm.trans hset)
    exact absurd hpower (lt_irrefl 0)

end Steps

/-! ## The records about validators -/

/-- **The records about validators and their state**, in every run. A validator is stored under its
own owner, whose address is not empty, and is jailed without power or not jailed with the power that
all have. A validator that is disabled or proposed to be is stored, and jailed if it is disabled. A
jailed validator that is not disabled was jailed for a double signature since it was last created or
enabled. Only enabling gives power back. -/
theorem jail_recorded (addr : Addresses) (history : List (Transition Store Act)) (s : Store)
    (h : (validators addr).Trace history s) :
    (∀ k v, s.validator.get k = some v → ∃ a, k = validatorKey a ∧ a ≠ [] ∧
      addr.valAddressFromBech32 v.owner = .ok a ∧
      (v.jailed = true ∧ v.power = 0 ∨ v.jailed = false ∧ v.power = 10)) ∧
    (∀ k record, s.disabledValidator.get k = some record → ∃ a v,
      k = disabledValidatorKey (addr.valString a) ∧
      addr.valAddressFromBech32 record.address = .ok a ∧
      s.getValidator a = some v ∧ v.jailed = true) ∧
    (∀ k record, s.proposedDisableValidator.get k = some record → ∃ a v,
      k = proposedDisableValidatorKey (addr.valString a) ∧
      addr.valAddressFromBech32 record.address = .ok a ∧ s.getValidator a = some v) ∧
    (∀ a v, s.getValidator a = some v → v.jailed = true →
      s.getDisabledValidator (addr.valString a) = none → JailedSince history a) ∧
    ∀ act s', (validators addr).step s act s' → ∀ a v v', s.getValidator a = some v →
      v.power = 0 → s'.getValidator a = some v' → 0 < v'.power →
        ∃ ctx creator, act = .deliver ctx (.enableValidator creator) ∧
          addr.valAddressFromBech32 creator = .ok a := by
  have hs := consistent_of_reachable h.reachable
  refine ⟨fun k v hget => ?_, fun k record hget => ?_, fun k record hget => ?_,
    jailedSince_of_trace h, fun act s' hstep a v v' => ?_⟩
  · obtain ⟨a, hkey, howned⟩ := hs.validator k v hget
    obtain ⟨text, hdecode⟩ := howned.isAddress
    exact ⟨a, hkey, addr.val_ne_nil hdecode, howned.owner ▸ addr.decode_valString hdecode,
      howned.power⟩
  · obtain ⟨a, v, ⟨text, hdecode⟩, hkey, haddress, hfound, hjailed⟩ := hs.disabled k record hget
    exact ⟨a, v, hkey, haddress ▸ addr.decode_valString hdecode, hfound, hjailed⟩
  · obtain ⟨a, v, ⟨text, hdecode⟩, hkey, haddress, hfound⟩ := hs.proposed k record hget
    exact ⟨a, v, hkey, haddress ▸ addr.decode_valString hdecode, hfound⟩
  · exact enabled_of_power (change_of_effect hs (step_effect hs hstep))

/-- A validator is created and then has signed twice. -/
theorem example_jailed_since : ∃ history s,
    (validators exampleAddresses).Trace history s ∧ history.length = 2 ∧
      JailedSince history (utf8 "one") := by
  obtain ⟨history, s, htrace, hp⟩ := exists_trace_of_foldlM (T := validators exampleAddresses)
    (p := fun history s => history.length = 2 && (s.getValidator (utf8 "one")).any (·.jailed) &&
      (s.getDisabledValidator (exampleAddresses.valString (utf8 "one"))).isNone)
    (next exampleAddresses) step_of_next
    [.deliver (exampleContext (exampleAccounts ["one"] [.nodeAdmin])) (exampleCreate "one"),
      .evidence (exampleContext .empty) ⟨.duplicateVote, utf8 "one", 0, 0⟩]
    (by decide +kernel)
  simp only [Bool.and_eq_true, decide_eq_true_eq, Option.any_eq_true,
    Option.isNone_iff_eq_none] at hp
  obtain ⟨⟨hlength, v, hget, hjailed⟩, hnone⟩ := hp
  obtain ⟨-, -, -, hsince, -⟩ := jail_recorded exampleAddresses history s htrace
  exact ⟨history, s, htrace, hlength, hsince _ v hget hjailed hnone⟩

end ComplianceLedger.Validators
