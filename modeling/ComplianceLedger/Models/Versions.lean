import ComplianceLedger.Models.Indexes

/-!
# The versions of deleted models

A version can be created for a stored model only. When the model is deleted its versions stay, with the
record that lists them: the source removes the model and its entry among the products of the vendor,
and nothing else. The versions are found again by a model that is later created under the same
IDs, and their software versions cannot be created for it.

In the runs that delete models without versions only, every version belongs to a model.

## Main definitions

* `Belong s`: every version, and every record that lists versions, belongs to a stored model
* `DeletesUnversioned s msg`: the message deletes no model with versions

## Main results

* `versions_belong`: in the runs that delete no model with versions, versions belong to models, and
  a model that is created has none
* `example_orphans`: in other runs they do not
-/

open Machine Machine.TransitionSystem Machine.Handler

namespace ComplianceLedger.Models

variable {bech32 : Bech32} {s s' : Store} {vid pid : Int32}

/-- Every version, and every record that lists versions, belongs to a stored model. -/
def Belong (s : Store) : Prop :=
  (∀ version ∈ s.modelVersion.values, (s.getModel version.vid version.pid).isSome) ∧
    ∀ versions ∈ s.modelVersions.values, (s.getModel versions.vid versions.pid).isSome

instance (s : Store) : Decidable (Belong s) := inferInstanceAs (Decidable (_ ∧ _))

/-- The message deletes no model with versions. -/
def DeletesUnversioned (s : Store) : Msg → Prop
  | .deleteModel msg => s.getModelVersions msg.vid msg.pid = none
  | _ => True

instance (s : Store) (msg : Msg) : Decidable (DeletesUnversioned s msg) := by
  cases msg <;> unfold DeletesUnversioned <;> infer_instance

/-! ## Runs that delete no model with versions -/

/-- No versions are listed for a product without a model. -/
def Unlisted (s : Store) : Prop :=
  ∀ vid pid, s.getModel vid pid = none → s.getModelVersions vid pid = none

theorem getModel_of_setModel {model : Model} (h : (s.setModel model).getModel vid pid = none) :
    s.getModel vid pid = none := by
  rw [getModel_setModel] at h
  split at h
  · cases h
  · exact h

/-- Versions are listed for stored models only, and a model with versions is not deleted. -/
theorem unlisted_change {msg : Msg} (hkeyed : Keyed s) (h : Unlisted s) (hc : Change s msg s')
    (hdelete : DeletesUnversioned s msg) : Unlisted s' := by
  intro vid pid hmodel
  cases hc with
  | createModel | updateModel => exact h vid pid (getModel_of_setModel hmodel)
  | @deleteModel msg found hfound =>
    have hversions : ((s.removeModel msg.vid msg.pid).removeVendorProduct msg.vid
        msg.pid).getModelVersions vid pid = s.getModelVersions vid pid := by
      simp [Store.getModelVersions, Store.removeModel]
    rw [getModel_removeVendorProduct, getModel_removeModel] at hmodel
    rw [hversions]
    -- only the deleted model goes missing in this step, and it had no versions
    split at hmodel
    · next heq =>
      rw [heq.1, heq.2]
      exact hdelete
    · exact h vid pid hmodel
  | @createModelVersion msg model hstored hversion =>
    have hget : s.getModel vid pid = none := by
      simpa [Store.getModel, Store.setModelVersion] using hmodel
    rw [getModelVersions_addModelVersion (hkeyed.setModelVersion _)]
    split
    -- the handler has found the model of the new version
    · next heq =>
      rw [heq.1, heq.2.1, hstored] at hget
      cases hget
    · exact h vid pid hget
  | updateModelVersion => exact h vid pid hmodel

/-- The runs that delete no model with versions. -/
abbrev careful (bech32 : Bech32) : TransitionSystem Store (Dclauth.AccountStore × Msg) :=
  (models bech32).restrict fun s a => DeletesUnversioned s a.2

theorem unlisted_of_reachable (h : (careful bech32).Reachable s) : Unlisted s := by
  refine h.induction (P := Unlisted) (fun _ _ _ => rfl) ?_
  intro s a s' hr hs hstep
  rcases step_cases hstep.1 with rfl | ⟨-, hchange⟩
  · exact hs
  · exact unlisted_change (keyed_of_reachable hr.of_restrict) hs hchange hstep.2

/-- A product for which no versions are listed has none. -/
theorem getModelVersion_eq_none (h : (models bech32).Reachable s)
    (hnone : s.getModelVersions vid pid = none) (sv : UInt32) :
    s.getModelVersion vid pid sv = none := by
  have hlisted := (listed_of_reachable h).2 vid pid
  rw [hnone] at hlisted
  exact Option.map_eq_none_iff.mp (hlisted sv)

theorem belong_of_unlisted (h : (models bech32).Reachable s) (hs : Unlisted s) : Belong s := by
  have hkeyed := keyed_of_reachable h
  constructor
  · intro version hversion
    rw [Option.isSome_iff_ne_none]
    intro hmodel
    have hstored := hkeyed.modelVersion.mem_values_iff.mp hversion
    have hnone := getModelVersion_eq_none h (hs _ _ hmodel) version.softwareVersion
    exact Option.some_ne_none version (hstored.symm.trans hnone)
  · intro versions hversions
    rw [Option.isSome_iff_ne_none]
    intro hmodel
    have hstored := hkeyed.modelVersions.mem_values_iff.mp hversions
    exact Option.some_ne_none versions (hstored.symm.trans (hs _ _ hmodel))

/-- The vendor can create every software version that a stored model does not have. -/
theorem createModelVersion_ok {accounts : Dclauth.AccountStore} {msg : MsgCreateModelVersion}
    (hsigned : accounts.SignedByVendor bech32 msg.creator msg.vid.toInt)
    (hmodel : s.getModel msg.vid msg.pid ≠ none)
    (hversion : s.getModelVersion msg.vid msg.pid msg.softwareVersion = none) :
    ∃ s', handle bech32 accounts (.createModelVersion msg) s = some (.ok (), s') := by
  obtain ⟨model, hmodel⟩ := Option.ne_none_iff_exists'.mp hmodel
  refine ⟨(s.setModelVersion msg.modelVersion).addModelVersion msg.vid msg.pid msg.softwareVersion,
    ?_⟩
  simp only [handle, createModelVersion, checkSigner_bind_ok_iff, readSome_bind_ok_iff,
    read_bind_ok_iff, failIf_bind_ok_iff, write_bind_ok_iff, write_ok_iff]
  exact ⟨hsigned, model, hmodel, by simp [hversion], trivial⟩

/-- **The versions belong to models**, in the runs that delete no model with versions. A model that is
created, also in the place of a deleted one, has no versions, and the vendor can create every software
version for it. -/
theorem versions_belong (h : (careful bech32).Reachable s) :
    Belong s ∧ ∀ {accounts msg s'}, handle bech32 accounts (.createModel msg) s = some (.ok (), s') →
      s'.getModelVersions msg.vid msg.pid = none ∧
      (∀ sv, s'.getModelVersion msg.vid msg.pid sv = none) ∧
      ∀ {accounts' : Dclauth.AccountStore} {version : MsgCreateModelVersion},
        version.vid = msg.vid → version.pid = msg.pid →
        accounts'.SignedByVendor bech32 version.creator version.vid.toInt →
        ∃ s'', handle bech32 accounts' (.createModelVersion version) s' = some (.ok (), s'') := by
  have hs := unlisted_of_reachable h
  refine ⟨belong_of_unlisted h.of_restrict hs, fun {accounts msg s'} hok => ?_⟩
  obtain ⟨-, hchange⟩ := handle_ok hok
  cases hchange with
  | createModel hmodel =>
    have hnone := hs _ _ hmodel
    have hversion := getModelVersion_eq_none h.of_restrict hnone
    refine ⟨hnone, hversion, fun {accounts' version} hvid hpid hsigned => ?_⟩
    apply createModelVersion_ok hsigned
    · have hget : (s.setModel msg.model).getModel version.vid version.pid ≠ none := by
        rw [getModel_setModel, if_pos ⟨hvid, hpid⟩]
        exact Option.some_ne_none _
      exact hget
    · rw [hvid, hpid]
      exact hversion version.softwareVersion

/-- A lamp that is deleted before it has a version is created again and gets one. -/
theorem example_recreated : ∃ s, (careful exampleCodec).Reachable s ∧
    s.getModelVersions 10 1 = some ⟨10, 1, [7]⟩ ∧ Belong s := by
  obtain ⟨s, hr, hp⟩ := exists_reachable_of_foldlM (T := careful exampleCodec)
    (p := fun s => s.getModelVersions 10 1 = some ⟨10, 1, [7]⟩)
    (guarded _ (next exampleCodec)) (step_of_guarded step_of_next)
    ([exampleCreate 1 "Lamp" "p1", exampleDelete 1, exampleCreate 1 "Lamp" "p1",
      exampleVersion 1 7 "7.0"].map (Prod.mk exampleAccounts)) (by decide +kernel)
  exact ⟨s, hr, of_decide_eq_true hp, (versions_belong hr).1⟩

/-! ## A deletion that leaves versions behind -/

/-- A lamp with a version is deleted: the version is left without a model. The lamp is created again,
and the version cannot be created for it. -/
theorem example_orphans : ∃ s, (models exampleCodec).Reachable s ∧ ¬ Belong s ∧
    ∃ s', (models exampleCodec).step s (exampleAccounts, exampleCreate 1 "Lamp" "p1") s' ∧
      s'.getModelVersions 10 1 = some ⟨10, 1, [7]⟩ ∧
      ((handle exampleCodec exampleAccounts (exampleVersion 1 7 "7.0")).deliver s').map Prod.fst =
        some (.error (newErrModelVersionAlreadyExists 10 1 7)) := by
  obtain ⟨s, hr, hp⟩ := exists_reachable_of_foldlM (T := models exampleCodec)
    (p := fun s => ¬ Belong s ∧ ((next exampleCodec s (exampleAccounts, exampleCreate 1 "Lamp" "p1")).any
      fun s' => s'.getModelVersions 10 1 = some ⟨10, 1, [7]⟩ ∧
        ((handle exampleCodec exampleAccounts (exampleVersion 1 7 "7.0")).deliver s').map Prod.fst =
          some (.error (newErrModelVersionAlreadyExists 10 1 7))) = true)
    (next exampleCodec) step_of_next
    ([exampleCreate 1 "Lamp" "p1", exampleVersion 1 7 "7.0", exampleDelete 1].map
      (Prod.mk exampleAccounts)) (by decide +kernel)
  obtain ⟨hbelong, hnext⟩ := of_decide_eq_true hp
  rw [Option.any_eq_true] at hnext
  obtain ⟨s', hs', hagain⟩ := hnext
  exact ⟨s, hr, hbelong, s', step_of_next hs', of_decide_eq_true hagain⟩

end ComplianceLedger.Models
