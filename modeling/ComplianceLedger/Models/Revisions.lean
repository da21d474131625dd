import ComplianceLedger.Models.Rules

/-!
# The revisions of localized strings

A model may have a URL of localized strings, with the number of their revision. A message may give
the URL, the number, both or none of them, and the number is set in four places. This module shows that
URL and number go together in every run: there is a number exactly where there is a URL, and it goes
up one at a time from 1, up to the largest one that the rules allow.

The handlers write at their end, so that a message that is refused has changed nothing.

## Main definitions

* `Model.Revised`: number and URL go together, and a custom flow has its URL
* `Model.Precedes m m'`: the localized strings of `m'` are those of `m` or later ones
* `Lives bech32 isURL vid pid s s'`: a run from `s` to `s'` throughout which the model is stored

## Main results

* `newLsfRevision_ok`: the revisions that an update may ask for
* `Model.Revised.update`: what an update makes of a model, whatever it leaves out
* `failsIn_handle`: an error leaves the store as it was
* `revisions_of_run`: the revisions of a model from its creation to its deletion
-/

open Machine Machine.Handler Machine.TransitionSystem

namespace ComplianceLedger.Models

/-- The number of the revision is zero exactly without a URL, and within the bounds; with a custom flow
there is the URL of the flow. -/
structure Model.Revised (model : Model) : Prop where
  revision_eq_zero_iff : model.lsfRevision = 0 ↔ model.lsfUrl = ""
  nonneg : 0 ≤ model.lsfRevision.toInt
  le_max : model.lsfRevision.toInt ≤ 65535
  flow : model.commissioningCustomFlow = 2 → model.commissioningCustomFlowUrl ≠ ""

/-- The number of the revision has not gone down, the URL has not gone away, and the flow is the same. -/
structure Model.Precedes (m m' : Model) : Prop where
  revision : m.lsfRevision.toInt ≤ m'.lsfRevision.toInt
  url : m.lsfUrl ≠ "" → m'.lsfUrl ≠ ""
  flow : m'.commissioningCustomFlow = m.commissioningCustomFlow

variable {bech32 : Bech32} {isURL : String → Bool} {s s' : Store}
  {a : Dclauth.AccountStore × Msg} {vid pid : Int32} {u : Unit}

theorem Model.Precedes.refl (m : Model) : m.Precedes m := ⟨le_rfl, id, rfl⟩

theorem Model.Precedes.trans {m m' m'' : Model} (h : m.Precedes m') (h' : m'.Precedes m'') :
    m.Precedes m'' where
  revision := h.revision.trans h'.revision
  url hset := h'.url (h.url hset)
  flow := h'.flow.trans h.flow

theorem orKeep_eq_empty_iff {new old : String} : orKeep new old = "" ↔ new = "" ∧ old = "" := by
  unfold orKeep
  split
  · next hgiven => simp [hgiven]
  · next hgiven => simp [not_not.mp hgiven]

/-! ## Creation -/

/-- A model that is created keeps number and URL together. -/
theorem MsgCreateModel.revised_model {msg : MsgCreateModel}
    (hrules : (Msg.createModel msg).validateBasic bech32 isURL = .ok u) : msg.model.Revised := by
  have hrevision : msg.model.lsfRevision = if msg.lsfUrl ≠ "" then 1 else 0 := rfl
  refine ⟨?_, ?_, ?_, MsgCreateModel.of_validateBasic hrules⟩
  · show _ ↔ msg.lsfUrl = ""
    rw [hrevision]
    split
    · next hset => simp [hset]
    · next hnone => simp [not_not.mp hnone]
  · rw [hrevision]
    split <;> decide
  · rw [hrevision]
    split <;> decide

/-! ## Updates -/

section Updates

variable {msg : MsgUpdateModel} {found : Model} {lsfRevision : Int32}

/-- **The revisions that an update may ask for**: the one there is, or the next one, if there is a URL
in the message or in the model. -/
theorem newLsfRevision_ok (h : msg.newLsfRevision found = .ok lsfRevision) :
    lsfRevision = found.lsfRevision ∨
      (0 < msg.lsfRevision ∧ (msg.lsfUrl ≠ "" ∨ found.lsfUrl ≠ "") ∧
        lsfRevision = msg.lsfRevision ∧ msg.lsfRevision = found.lsfRevision + 1) := by
  unfold MsgUpdateModel.newLsfRevision at h
  split at h
  · next hgiven =>
    split at h
    · cases h
    · next hurl =>
      split at h
      · cases h
      · next hnext =>
        obtain rfl := Except.ok.inj h
        exact .inr ⟨hgiven, not_and_or.mp hurl, rfl, not_not.mp hnext⟩
  · exact .inl (Except.ok.inj h).symm

theorem ne_zero_of_pos {n : Int32} (h : 0 < n) : n ≠ 0 := by
  rintro rfl
  exact absurd h (by decide)

/-- A number within the bounds does not overflow when it goes up. -/
theorem toInt_succ {n : Int32} (h₀ : 0 ≤ n.toInt) (h₁ : n.toInt ≤ 65535) :
    (n + 1).toInt = n.toInt + 1 := by
  rw [Int32.toInt_add]
  show (n.toInt + 1).bmod (2 ^ 32) = n.toInt + 1
  apply Int.bmod_eq_of_le
  · omega
  · omega

/-- The number of the revision after an update: the one there was, or the next one. -/
theorem toInt_lsfRevision_update (h : found.Revised)
    (hrevision : msg.newLsfRevision found = .ok lsfRevision) :
    (msg.model found lsfRevision).lsfRevision.toInt = found.lsfRevision.toInt ∨
      (msg.model found lsfRevision).lsfRevision.toInt = found.lsfRevision.toInt + 1 := by
  show (if msg.lsfUrl ≠ "" ∧ lsfRevision = 0 then 1 else lsfRevision : Int32).toInt = _ ∨
    (if msg.lsfUrl ≠ "" ∧ lsfRevision = 0 then 1 else lsfRevision : Int32).toInt = _
  rcases newLsfRevision_ok hrevision with rfl | ⟨hgiven, -, rfl, hnext⟩
  · split
    · -- the first URL of the model
      next hfirst =>
      rw [hfirst.2]
      exact .inr (by decide)
    · exact .inl rfl
  · rw [if_neg fun hfirst => ne_zero_of_pos hgiven hfirst.2, hnext]
    exact .inr (toInt_succ h.nonneg h.le_max)

/-- After an update there is a number exactly where there is a URL. -/
theorem lsfRevision_update_eq_zero_iff (h : found.Revised)
    (hrevision : msg.newLsfRevision found = .ok lsfRevision) :
    (msg.model found lsfRevision).lsfRevision = 0 ↔ (msg.model found lsfRevision).lsfUrl = "" := by
  show (if msg.lsfUrl ≠ "" ∧ lsfRevision = 0 then 1 else lsfRevision : Int32) = 0 ↔
    orKeep msg.lsfUrl found.lsfUrl = ""
  rw [orKeep_eq_empty_iff]
  rcases newLsfRevision_ok hrevision with rfl | ⟨hgiven, hurl, rfl, -⟩
  · by_cases hset : msg.lsfUrl = ""
    · rw [if_neg fun hfirst => hfirst.1 hset, h.revision_eq_zero_iff]
      exact (and_iff_right hset).symm
    · -- with a URL in the message the number is not left at zero
      refine iff_of_false ?_ fun hnone => hset hnone.1
      split
      · decide
      · next hfirst => exact fun hzero => hfirst ⟨hset, hzero⟩
  · refine iff_of_false ?_ fun hnone => hurl.elim (· hnone.1) (· hnone.2)
    rw [if_neg fun hfirst => ne_zero_of_pos hgiven hfirst.2]
    exact ne_zero_of_pos hgiven

/-- The number of the revision after an update is within the bounds: it was there, it is the first one,
or the rules have bounded it. -/
theorem lsfRevision_update_le (h : found.Revised)
    (hrules : (Msg.updateModel msg).validateBasic bech32 isURL = .ok u)
    (hrevision : msg.newLsfRevision found = .ok lsfRevision) :
    (msg.model found lsfRevision).lsfRevision.toInt ≤ 65535 := by
  show (if msg.lsfUrl ≠ "" ∧ lsfRevision = 0 then 1 else lsfRevision : Int32).toInt ≤ 65535
  split
  · decide
  · rcases newLsfRevision_ok hrevision with rfl | ⟨-, -, rfl, -⟩
    · exact h.le_max
    · exact MsgUpdateModel.of_validateBasic hrules

/-- **An update keeps number and URL together.** -/
theorem Model.Revised.update (h : found.Revised)
    (hrules : (Msg.updateModel msg).validateBasic bech32 isURL = .ok u)
    (hrevision : msg.newLsfRevision found = .ok lsfRevision) :
    (msg.model found lsfRevision).Revised where
  revision_eq_zero_iff := lsfRevision_update_eq_zero_iff h hrevision
  nonneg := by
    have hnonneg := h.nonneg
    rcases toInt_lsfRevision_update h hrevision with heq | heq <;> omega
  le_max := lsfRevision_update_le h hrules hrevision
  flow hflow hnone := h.flow hflow (orKeep_eq_empty_iff.mp hnone).2

theorem Model.precedes_update (h : found.Revised)
    (hrevision : msg.newLsfRevision found = .ok lsfRevision) :
    found.Precedes (msg.model found lsfRevision) where
  revision := by
    rcases toInt_lsfRevision_update h hrevision with heq | heq <;> omega
  url hset hnone := hset (orKeep_eq_empty_iff.mp hnone).2
  flow := rfl

end Updates

/-! ## Errors -/

section Errors

variable {accounts : Dclauth.AccountStore}

theorem readOnly_checkSigner (creator : String) (vid : Int32) (message : String) :
    (checkSigner bech32 accounts creator vid message).ReadOnly := by
  unfold checkSigner
  apply (readOnly_ofExcept _).bind
  intro signerAddr
  exact readOnly_ofExcept _

/-- **An error leaves the store as it was**: the handlers write after their last check. -/
theorem failsIn_handle (msg : Msg) : (handle bech32 accounts msg).FailsIn s s := by
  cases msg with
  | createModel msg =>
    apply (readOnly_checkSigner _ _ _).failsIn_bind
    intro _ _
    rw [failsIn_read_bind]
    apply (readOnly_failIf _ _).failsIn_bind
    intro _ _
    rw [failsIn_write_bind]
    exact failsIn_write _
  | updateModel msg =>
    apply (readOnly_checkSigner _ _ _).failsIn_bind
    intro _ _
    apply (readOnly_readSome _ _).failsIn_bind
    intro found _
    apply (readOnly_ofExcept _).failsIn_bind
    intro lsfRevision _
    rw [failsIn_write_bind]
    exact failsIn_write _
  | deleteModel msg =>
    apply (readOnly_checkSigner _ _ _).failsIn_bind
    intro _ _
    apply (readOnly_readSome _ _).failsIn_bind
    intro found _
    rw [failsIn_write_bind]
    exact failsIn_write _
  | createModelVersion msg =>
    apply (readOnly_checkSigner _ _ _).failsIn_bind
    intro _ _
    apply (readOnly_readSome _ _).failsIn_bind
    intro model _
    rw [failsIn_read_bind]
    apply (readOnly_failIf _ _).failsIn_bind
    intro _ _
    rw [failsIn_write_bind]
    exact failsIn_write _
  | updateModelVersion msg =>
    apply (readOnly_checkSigner _ _ _).failsIn_bind
    intro _ _
    apply (readOnly_readSome _ _).failsIn_bind
    intro found _
    -- the three checks against the stored version
    apply (readOnly_failIf _ _).failsIn_bind
    intro _ _
    apply (readOnly_failIf _ _).failsIn_bind
    intro _ _
    apply (readOnly_failIf _ _).failsIn_bind
    intro _ _
    exact failsIn_write _

end Errors

/-! ## Runs -/

/-- The runs in which the messages that create and update models keep their rules. -/
abbrev modelsChecked (bech32 : Bech32) (isURL : String → Bool) :
    TransitionSystem Store (Dclauth.AccountStore × Msg) :=
  (models bech32).restrict fun _ a => KeepsModelRules bech32 isURL a.2

/-- A run from `s` to `s'` throughout which the model is stored. -/
def Lives (bech32 : Bech32) (isURL : String → Bool) (vid pid : Int32) : Store → Store → Prop :=
  Relation.ReflTransGen fun s s' =>
    (s.getModel vid pid).isSome ∧ ∃ a, (modelsChecked bech32 isURL).step s a s'

/-- Number and URL go together in all models. -/
def ModelsRevised (s : Store) : Prop :=
  ∀ vid pid model, s.getModel vid pid = some model → model.Revised

theorem modelsRevised_step (hkeyed : Keyed s) (h : ModelsRevised s)
    (hstep : (modelsChecked bech32 isURL).step s a s') : ModelsRevised s' := by
  obtain ⟨hstep, hrules⟩ := hstep
  intro vid pid model hget
  rcases getModel_of_step hkeyed hstep vid pid with hsame | hnone | ⟨msg, hmsg, -, hnew⟩ |
    ⟨msg, found, lsfRevision, hmsg, hfound, hrevision, hnew⟩
  · exact h vid pid model (hsame ▸ hget)
  · cases hnone.symm.trans hget
  · obtain rfl := Option.some.inj (hnew.symm.trans hget)
    rw [hmsg] at hrules
    exact MsgCreateModel.revised_model hrules
  · obtain rfl := Option.some.inj (hnew.symm.trans hget)
    rw [hmsg] at hrules
    exact (h vid pid found hfound).update hrules hrevision

/-- One step of a model that stays: its strings are those it had or later ones, by one revision at
most. -/
theorem precedes_step (hkeyed : Keyed s) (h : ModelsRevised s)
    (hstep : (modelsChecked bech32 isURL).step s a s') {m m' : Model}
    (hm : s.getModel vid pid = some m) (hm' : s'.getModel vid pid = some m') :
    m.Precedes m' ∧ m'.lsfRevision.toInt ≤ m.lsfRevision.toInt + 1 := by
  rcases getModel_of_step hkeyed hstep.1 vid pid with hsame | hnone | ⟨msg, -, hnone, -⟩ |
    ⟨msg, found, lsfRevision, -, hfound, hrevision, hnew⟩
  · rw [hsame, hm] at hm'
    obtain rfl := Option.some.inj hm'
    exact ⟨.refl m, by omega⟩
  · cases hnone.symm.trans hm'
  · cases hnone.symm.trans hm
  · obtain rfl := Option.some.inj (hfound.symm.trans hm)
    obtain rfl := Option.some.inj (hnew.symm.trans hm')
    have hrevised := h vid pid found hfound
    refine ⟨Model.precedes_update hrevised hrevision, ?_⟩
    rcases toInt_lsfRevision_update hrevised hrevision with heq | heq <;> omega

theorem modelsRevised_of_reachable (h : Reachable (modelsChecked bech32 isURL) s) :
    ModelsRevised s := by
  refine h.induction (P := ModelsRevised) ?_ ?_
  · intro vid pid model hget
    cases hget
  · intro s a s' hr hs hstep
    exact modelsRevised_step (keyed_of_reachable hr.of_restrict) hs hstep

theorem Lives.reaches (h : Lives bech32 isURL vid pid s s') :
    (modelsChecked bech32 isURL).Reaches s s' :=
  Relation.ReflTransGen.mono (fun _ _ hstep => hstep.2) _ _ h

/-- From its creation to its deletion the strings of a model are those it had or later ones. -/
theorem Lives.precedes (h : Reachable (modelsChecked bech32 isURL) s)
    (hlives : Lives bech32 isURL vid pid s s') {m m' : Model} (hm : s.getModel vid pid = some m)
    (hm' : s'.getModel vid pid = some m') : m.Precedes m' := by
  induction hlives generalizing m' with
  | refl =>
    obtain rfl := Option.some.inj (hm.symm.trans hm')
    exact .refl m
  | @tail t t' hbefore hlast ih =>
    -- the model is stored before the last step too
    obtain ⟨hstored, a, hstep⟩ := hlast
    obtain ⟨m₁, hm₁⟩ := Option.isSome_iff_exists.mp hstored
    have hr : Reachable (modelsChecked bech32 isURL) t := h.reaches (Lives.reaches hbefore)
    have hkeyed := keyed_of_reachable hr.of_restrict
    exact (ih hm₁).trans (precedes_step hkeyed (modelsRevised_of_reachable hr) hstep hm₁ hm').1

/-- **The revisions of a model.** In every run in which the messages that create and update models
keep their rules: number and URL go together and the number is within the bounds, with a custom flow
there is the URL of the flow; a step makes the number at most one larger; from the creation of a model
to its deletion the number does not go down, the URL does not go away and the flow stays; and a message
that is refused leaves everything as it was. -/
theorem revisions_of_run (h : Reachable (modelsChecked bech32 isURL) s) :
    ModelsRevised s ∧
      (∀ a s' vid pid m m', (modelsChecked bech32 isURL).step s a s' →
        s.getModel vid pid = some m → s'.getModel vid pid = some m' →
          m'.lsfRevision.toInt ≤ m.lsfRevision.toInt + 1) ∧
      (∀ s' vid pid m m', Lives bech32 isURL vid pid s s' → s.getModel vid pid = some m →
        s'.getModel vid pid = some m' → m.Precedes m') ∧
      ∀ accounts msg e s', handle bech32 accounts msg s = some (.error e, s') → s' = s := by
  have hrevised := modelsRevised_of_reachable h
  refine ⟨hrevised, ?_, ?_, ?_⟩
  · intro a s' vid pid m m' hstep hm hm'
    exact (precedes_step (keyed_of_reachable h.of_restrict) hrevised hstep hm hm').2
  · intro s' vid pid m m' hlives hm hm'
    exact hlives.precedes h hm hm'
  · intro accounts msg e s' hrun
    exact failsIn_handle msg e s' hrun

instance (msg : Msg) : Decidable (KeepsModelRules bech32 isURL msg) :=
  match msg with
  | .createModel _ => inferInstanceAs (Decidable (_ = _))
  | .updateModel _ => inferInstanceAs (Decidable (_ = _))
  | .deleteModel _ | .createModelVersion _ | .updateModelVersion _ => inferInstanceAs (Decidable True)

/-- An update of the localized strings. -/
def exampleStrings (lsfUrl : String) (lsfRevision : Int32) : Dclauth.AccountStore × Msg :=
  (exampleAccounts,
    .updateModel ⟨"cosmos1vendor", 10, 1, "", "", "", "", "", "", "", "", "", lsfUrl, lsfRevision⟩)

/-- A model gets a URL, and then a second revision; a fourth one is refused. -/
theorem example_revisions :
    ∃ s m, Reachable (modelsChecked exampleCodec fun _ => true) s ∧
      s.getModel 10 1 = some m ∧ (m.lsfUrl = "https://lsf" ∧ m.lsfRevision = 2) ∧ m.Revised ∧
      ∃ e, handle exampleCodec (exampleStrings "" 4).1 (exampleStrings "" 4).2 s =
        some (.error e, s) := by
  obtain ⟨s, hs, hp⟩ := exists_reachable_of_foldlM
    (T := modelsChecked exampleCodec fun _ => true)
    (p := fun s => ((s.getModel 10 1).any fun m => m.lsfUrl = "https://lsf" ∧ m.lsfRevision = 2) ∧
      (handle exampleCodec (exampleStrings "" 4).1 (exampleStrings "" 4).2 s).any
        fun r => r.1 matches .error _)
    (guarded (fun _ a => KeepsModelRules exampleCodec (fun _ => true) a.2) (next exampleCodec))
    (step_of_guarded step_of_next)
    [(exampleAccounts, exampleCreate 1 "lamp" "L1"), exampleStrings "https://lsf" 0,
      exampleStrings "" 2]
    (by decide +kernel)
  obtain ⟨hmodel, herror⟩ := of_decide_eq_true hp
  obtain ⟨m, hget, hm⟩ := (Option.any_eq_true _ _).mp hmodel
  obtain ⟨⟨r, s'⟩, hrun, hr⟩ := (Option.any_eq_true _ _).mp herror
  cases r with
  | ok u => cases hr
  | error e =>
    have hsame := (revisions_of_run hs).2.2.2 _ _ e s' hrun
    exact ⟨s, m, hs, hget, of_decide_eq_true hm, (revisions_of_run hs).1 10 1 m hget, e,
      hsame ▸ hrun⟩

end ComplianceLedger.Models
