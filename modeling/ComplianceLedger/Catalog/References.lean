import ComplianceLedger.Catalog.System
import ComplianceLedger.Compliance.Records
import ComplianceLedger.Models.Indexes

/-!
# The software versions of compliance records

A compliance record is about a software version and repeats its string. Certifying and revoking look
the version up; making a model provisional does not. The record that it writes may therefore be about a
version that does not exist, or have another string than the version, and certifying keeps the string
of a record that exists.

In the runs in which models are made provisional only for versions on the ledger, under their own
strings, every record refers to its version: no message of `model` removes a version or changes
its string.

## Main definitions

* `Refer st`: every compliance record refers to a version on the ledger, and has its string
* `ProvisionsVersion st act`: a model is made provisional for a version on the ledger

## Main results

* `records_refer`: in the runs that make models provisional for versions on the ledger, every record
  refers to its version
* `example_certified_string`: in other runs a certified record can have another string
-/

open Machine Machine.TransitionSystem

namespace ComplianceLedger

open Validators (Addresses)

/-! ## The strings of the versions -/

namespace Models

variable {s s' : Store} {msg : Msg} {vid pid : Int32} {sv : UInt32} {string : String}

/-- The string of a software version, if it is on the ledger. -/
def Store.versionString (s : Store) (vid pid : Int32) (sv : UInt32) : Option String :=
  (s.getModelVersion vid pid sv).map ModelVersion.softwareVersionString

/-- **A version keeps its string**: it is not removed, and an update has no string. -/
theorem Change.versionString (hkeyed : Keyed s) (h : Change s msg s')
    (hstring : s.versionString vid pid sv = some string) :
    s'.versionString vid pid sv = some string := by
  unfold Store.versionString at hstring ⊢
  cases h with
  | createModel | updateModel => exact hstring
  | deleteModel => simpa [Store.getModelVersion, Store.removeModel] using hstring
  | @createModelVersion msg model hmodel hversion =>
    rw [getModelVersion_addModelVersion, getModelVersion_setModelVersion]
    split
    -- a version that is created was not there, so it had no string to keep
    · next heq =>
      obtain ⟨rfl, rfl, rfl⟩ := heq
      have hnone : s.getModelVersion msg.modelVersion.vid msg.modelVersion.pid
        msg.modelVersion.softwareVersion = none := hversion
      rw [hnone] at hstring
      cases hstring
    · exact hstring
  | @updateModelVersion msg found hfound =>
    rw [getModelVersion_setModelVersion]
    split
    · next heq =>
      -- the new record is the old one with other fields
      have hold : s.getModelVersion vid pid sv = some found := by
        obtain ⟨hvid, hpid, hsv⟩ := hkeyed.of_getModelVersion hfound
        rw [heq.1, heq.2.1, heq.2.2, ← hfound, ← hvid, ← hpid, ← hsv]
        rfl
      rw [hold] at hstring
      exact hstring
    · exact hstring

end Models

/-! ## The versions of messages -/

namespace Compliance

variable {parse : String → Option ℤ} {ctx : Context} {s s' : Store} {msg : Msg}

/-- The message makes a model provisional only for a version of these models, under its string. -/
def ProvisionsVersion (models : Models.Store) : Msg → Prop
  | .provisionModel msg => models.versionString msg.vid msg.pid msg.softwareVersion =
      some msg.softwareVersionString
  | _ => True

instance (models : Models.Store) : DecidablePred (ProvisionsVersion models)
  | .provisionModel msg => inferInstanceAs (Decidable (_ = some msg.softwareVersionString))
  | .certifyModel _ | .revokeModel _ => inferInstanceAs (Decidable True)

/-- An accepted message names the string of its version. -/
theorem Change.versionString (h : Change parse ctx s msg s') (hmsg : ProvisionsVersion ctx.models msg) :
    ctx.models.versionString msg.subject.vid msg.subject.pid msg.subject.softwareVersion =
      some msg.softwareVersionString := by
  cases h with
  | provisioned => exact hmsg
  | certified hversion hstring | revokedFirst hversion hstring | revoked hversion hstring =>
    exact Option.map_eq_some_iff.mpr ⟨_, hversion, hstring⟩

end Compliance

namespace Catalog

variable {lib : Pki.CryptoX509} {addr : Addresses} {parse : String → Option ℤ}
  {genesis : List Dclauth.Account} {st st' : State} {act : Act}

/-- Every compliance record refers to a version on the ledger, and has its string. -/
def Refer (st : State) : Prop :=
  ∀ info ∈ st.compliance.complianceInfo.values,
    st.models.versionString info.vid info.pid info.softwareVersion = some info.softwareVersionString

instance : Decidable (Refer st) := by
  unfold Refer
  infer_instance

/-- A model is made provisional only for a version on the ledger, under its string. -/
def ProvisionsVersion (st : State) : Act → Prop
  | .compliance msg => Compliance.ProvisionsVersion st.models msg
  | _ => True

instance : Decidable (ProvisionsVersion st act) := by
  cases act <;> unfold ProvisionsVersion <;> infer_instance

/-- The compliance messages keep their rules. -/
def KeepsRules (addr : Addresses) (parse : String → Option ℤ) : Act → Prop
  | .compliance msg => msg.validateBasic addr.acc parse = .ok ()
  | _ => True

instance : Decidable (KeepsRules addr parse act) := by
  cases act <;> unfold KeepsRules <;> infer_instance

/-- The certification center makes the version of the example provisional. -/
def exampleProvision (softwareVersionString date : String) : Act :=
  .compliance (.provisionModel (Compliance.exampleDeclare (Compliance.exampleSubject 7 "zigbee")
    softwareVersionString date))

/-- The certification center certifies it. -/
def exampleCertify (softwareVersionString date : String) : Act :=
  .compliance (.certifyModel (Compliance.exampleDeclare (Compliance.exampleSubject 7 "zigbee")
    softwareVersionString date))

/-! ## The references in every run -/

theorem refer_models (hr : (catalog lib addr parse genesis).Reachable st) (h : Refer st)
    {msg : Models.Msg} {models : Models.Store} (hchange : Models.Change st.models msg models) :
    Refer { st with models := models } := fun info hinfo =>
  hchange.versionString (Models.keyed_of_reachable (models_reachable hr)) (h info hinfo)

theorem refer_compliance (hr : (catalog lib addr parse genesis).Reachable st) (h : Refer st)
    {msg : Compliance.Msg} {compliance : Compliance.Store}
    (hmsg : Compliance.ProvisionsVersion st.models msg)
    (hchange : Compliance.Change parse st.context st.compliance msg compliance) :
    Refer { st with compliance := compliance } := by
  have hkeyed := Compliance.keyed_of_reachable (compliance_reachable hr)
  obtain ⟨info, hrecorded, hsubject, hget⟩ := hchange.recorded hkeyed
  intro info' hinfo'
  obtain hstored := (Compliance.keyed_change hkeyed hchange).mem_values_iff.mp hinfo'
  have hfound := (hget info'.toSubject).symm.trans hstored
  split at hfound
  · -- the record that was written is about the version of the message
    obtain rfl := Option.some.inj hfound
    cases hold : st.compliance.getComplianceInfo msg.subject with
    | none =>
      obtain ⟨-, hstring, -⟩ := hrecorded.first hold
      rw [hstring, hsubject]
      exact hchange.versionString hmsg
    -- a later state keeps the string that the record had
    | some d =>
      obtain ⟨hd, hstring, -⟩ := hrecorded.later hold
      rw [hstring, hd]
      exact h d (KVStore.mem_values_iff.mpr ⟨_, hold⟩)
  · exact h info' (KVStore.mem_values_iff.mpr ⟨_, hfound⟩)

/-- **The records refer to versions**, in the runs in which models are made provisional for versions on
the ledger only. -/
theorem records_refer (h : ((catalog lib addr parse genesis).restrict ProvisionsVersion).Reachable st) :
    Refer st := by
  refine h.induction (P := Refer) (fun info hinfo => absurd hinfo List.not_mem_nil) ?_
  intro st act st' hr hs hstep
  obtain ⟨hstep, hversion⟩ := hstep
  cases act with
  | chain | vendorInfo =>
    obtain ⟨store, -, rfl⟩ := hstep
    exact hs
  | model msg =>
    obtain ⟨models, hmodels, rfl⟩ := hstep
    rcases Models.step_cases hmodels with rfl | ⟨-, hchange⟩
    · exact hs
    · exact refer_models hr.of_restrict hs hchange
  | compliance msg =>
    obtain ⟨compliance, hcompliance, rfl⟩ := hstep
    rcases Compliance.step_cases hcompliance with rfl | hchange
    · exact hs
    · exact refer_compliance hr.of_restrict hs hversion hchange

/-- The version of a product is made provisional under its string and then certified. -/
theorem example_refers : ∃ st, ((catalog Pki.exampleLib Validators.exampleAddresses
      Compliance.exampleParse exampleGenesis).restrict ProvisionsVersion).Reachable st ∧
    st.compliance.complianceInfo.values ≠ [] ∧ Refer st := by
  obtain ⟨st, hr, hp⟩ := exists_reachable_of_foldlM
    (T := (catalog Pki.exampleLib Validators.exampleAddresses Compliance.exampleParse
      exampleGenesis).restrict ProvisionsVersion)
    (p := fun st => st.compliance.complianceInfo.values ≠ [])
    (guarded _ (next Pki.exampleLib Validators.exampleAddresses Compliance.exampleParse 3))
    (step_of_guarded step_of_next)
    (exampleProduct ++ [exampleProvision "7.0" "2020-01-01T00:00:00Z",
      exampleCertify "7.0" "2021-01-01T00:00:00Z"]) (by decide +kernel)
  exact ⟨st, hr, of_decide_eq_true hp, records_refer hr⟩

/-! ## A record with another string -/

/-- **Certified under another string.** The version is made provisional under a string that it does not
have, and then certified under its own: the record is certified and keeps the other string. All
messages keep their rules. -/
theorem example_certified_string : ∃ st, ((catalog Pki.exampleLib Validators.exampleAddresses
      Compliance.exampleParse exampleGenesis).restrict
        fun _ => KeepsRules Validators.exampleAddresses Compliance.exampleParse).Reachable st ∧
    (st.compliance.complianceInfo.values.map fun info =>
      (info.softwareVersionCertificationStatus, info.softwareVersionString)) =
        [(Compliance.codeCertified, "6.9")] ∧
    st.models.versionString 10 1 7 = some "7.0" ∧ ¬ Refer st := by
  obtain ⟨st, hr, hp⟩ := exists_reachable_of_foldlM
    (T := (catalog Pki.exampleLib Validators.exampleAddresses Compliance.exampleParse
      exampleGenesis).restrict
        fun _ => KeepsRules Validators.exampleAddresses Compliance.exampleParse)
    (p := fun st => (st.compliance.complianceInfo.values.map fun info =>
      (info.softwareVersionCertificationStatus, info.softwareVersionString)) =
        [(Compliance.codeCertified, "6.9")] ∧
      st.models.versionString 10 1 7 = some "7.0" ∧ ¬ Refer st)
    (guarded _ (next Pki.exampleLib Validators.exampleAddresses Compliance.exampleParse 3))
    (step_of_guarded step_of_next)
    (exampleProduct ++ [exampleProvision "6.9" "2020-01-01T00:00:00Z",
      exampleCertify "7.0" "2021-01-01T00:00:00Z"]) (by decide +kernel)
  exact ⟨st, hr, of_decide_eq_true hp⟩

end Catalog

end ComplianceLedger
