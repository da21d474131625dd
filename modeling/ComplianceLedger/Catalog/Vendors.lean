import ComplianceLedger.Catalog.System
import ComplianceLedger.Models.Indexes

/-!
# The records of a vendor

The models of a vendor, their versions, the two indexes and the record of the vendor itself are changed
by messages of that vendor only. Every handler of `model` and of `vendorinfo` checks that the signer is
an account of the vendor that the message names, and every write goes to a key that begins with the ID
of this vendor. The keys are texts of bytes, so the second part rests on their being injective; the
handlers that read a record and write it back rest on its lying under the key of its own fields.

## Main definitions

* `Models.VendorRecords`, `Models.Store.recordsOf s vid`: the records of `model` for a vendor
* `VendorRecords`, `State.recordsOf st vid`: all records for a vendor

## Main results

* `Models.Change.recordsOf_of_ne`: a message of `model` changes records of its own vendor only
* `vendor_isolation`: what changes a record of a vendor is signed by the vendor, and changes no record of
  another vendor
-/

open Machine Machine.TransitionSystem

namespace ComplianceLedger

open Validators (Addresses)

/-! ## Models -/

namespace Models

variable {s s' : Store} {msg : Msg} {vid vid' pid : Int32} {sv : UInt32}

/-- The records of `model` for a vendor, by product and software version. -/
structure VendorRecords where
  model : Int32 → Option Model
  modelVersion : Int32 → UInt32 → Option ModelVersion
  modelVersions : Int32 → Option ModelVersions
  vendorProducts : Option VendorProducts

/-- The records that are stored for a vendor. -/
def Store.recordsOf (s : Store) (vid : Int32) : VendorRecords :=
  ⟨s.getModel vid, s.getModelVersion vid, s.getModelVersions vid, s.getVendorProducts vid⟩

theorem recordsOf_eq_iff : s'.recordsOf vid = s.recordsOf vid ↔
    (∀ pid, s'.getModel vid pid = s.getModel vid pid) ∧
      (∀ pid sv, s'.getModelVersion vid pid sv = s.getModelVersion vid pid sv) ∧
      (∀ pid, s'.getModelVersions vid pid = s.getModelVersions vid pid) ∧
      s'.getVendorProducts vid = s.getVendorProducts vid := by
  simp only [Store.recordsOf, VendorRecords.mk.injEq, funext_iff]

theorem recordsOf_setModel (model : Model) (h : vid ≠ model.vid) :
    (s.setModel model).recordsOf vid = s.recordsOf vid := by
  refine recordsOf_eq_iff.mpr ⟨fun pid => ?_, fun _ _ => rfl, fun _ => rfl, rfl⟩
  rw [getModel_setModel, if_neg fun heq => h heq.1]

theorem recordsOf_removeModel (h : vid' ≠ vid) :
    (s.removeModel vid pid).recordsOf vid' = s.recordsOf vid' := by
  refine recordsOf_eq_iff.mpr ⟨fun pid => ?_, fun _ _ => rfl, fun _ => rfl, rfl⟩
  rw [getModel_removeModel, if_neg fun heq => h heq.1]

theorem recordsOf_setModelVersion (version : ModelVersion) (h : vid ≠ version.vid) :
    (s.setModelVersion version).recordsOf vid = s.recordsOf vid := by
  refine recordsOf_eq_iff.mpr ⟨fun _ => rfl, fun pid sv => ?_, fun _ => rfl, rfl⟩
  rw [getModelVersion_setModelVersion, if_neg fun heq => h heq.1]

theorem recordsOf_setVendorProduct (hkeyed : Keyed s) (product : Product) (h : vid' ≠ vid) :
    (s.setVendorProduct vid product).recordsOf vid' = s.recordsOf vid' := by
  refine recordsOf_eq_iff.mpr ⟨fun _ => rfl, fun _ _ => rfl, fun _ => rfl, ?_⟩
  rw [getVendorProducts_setVendorProduct hkeyed, if_neg h]

theorem recordsOf_removeVendorProduct (hkeyed : Keyed s) (h : vid' ≠ vid) :
    (s.removeVendorProduct vid pid).recordsOf vid' = s.recordsOf vid' := by
  rw [recordsOf_eq_iff]
  simp only [Store.getModel, Store.getModelVersion, Store.getModelVersions,
    removeVendorProduct_frame, implies_true, true_and]
  rw [getVendorProducts_removeVendorProduct hkeyed, if_neg h]

theorem recordsOf_addModelVersion (hkeyed : Keyed s) (h : vid' ≠ vid) :
    (s.addModelVersion vid pid sv).recordsOf vid' = s.recordsOf vid' := by
  rw [recordsOf_eq_iff]
  simp only [Store.getModel, Store.getModelVersion, Store.getVendorProducts, addModelVersion_frame,
    implies_true, true_and, and_true]
  intro pid'
  rw [getModelVersions_addModelVersion hkeyed, if_neg fun heq => h heq.1]

/-- **A message changes records of its own vendor only.** -/
theorem Change.recordsOf_of_ne (hkeyed : Keyed s) (h : Change s msg s') (hvid : vid ≠ msg.vid) :
    s'.recordsOf vid = s.recordsOf vid := by
  cases h with
  | createModel =>
    exact (recordsOf_setVendorProduct (hkeyed.setModel _) _ hvid).trans (recordsOf_setModel _ hvid)
  | updateModel hfound =>
    -- the record that is written back is that of the vendor
    rw [Msg.vid, ← (hkeyed.of_getModel hfound).1] at hvid
    exact (recordsOf_setVendorProduct (hkeyed.setModel _) _ hvid).trans (recordsOf_setModel _ hvid)
  | deleteModel =>
    exact (recordsOf_removeVendorProduct hkeyed.removeModel hvid).trans (recordsOf_removeModel hvid)
  | createModelVersion =>
    exact (recordsOf_addModelVersion (hkeyed.setModelVersion _) hvid).trans
      (recordsOf_setModelVersion _ hvid)
  | updateModelVersion hfound =>
    rw [Msg.vid, ← (hkeyed.of_getModelVersion hfound).1] at hvid
    exact recordsOf_setModelVersion _ hvid

end Models

/-! ## All records -/

namespace Catalog

variable {lib : Pki.CryptoX509} {addr : Addresses} {parse : String → Option ℤ}
  {genesis : List Dclauth.Account} {st st' : State} {act : Act} {vid : Int32}

/-- The records of the catalog for a vendor. -/
structure VendorRecords where
  models : Models.VendorRecords
  vendorInfo : Option VendorInfos.VendorInfo

/-- The records that are stored for a vendor. -/
def State.recordsOf (st : State) (vid : Int32) : VendorRecords :=
  ⟨st.models.recordsOf vid, st.vendorInfos.getVendorInfo vid⟩

/-- The signer of a message of `model` or of `vendorinfo`. -/
def Act.creator : Act → Option String
  | .model msg => some msg.creator
  | .vendorInfo msg => some msg.fields.creator
  | _ => none

/-- What is signed by an account of the vendor in the present state. -/
def SignedByVendor (addr : Addresses) (st : State) (act : Act) (vid : Int32) : Prop :=
  ∃ creator ∈ act.creator, st.accounts.SignedByVendor addr.acc creator vid.toInt

/-- What changes records is signed by a vendor and changes records of this vendor only. -/
theorem exists_vendor (hr : (catalog lib addr parse genesis).Reachable st)
    (hstep : (catalog lib addr parse genesis).step st act st') :
    (∀ vid, st'.recordsOf vid = st.recordsOf vid) ∨
      ∃ vid, SignedByVendor addr st act vid ∧
        ∀ vid', vid' ≠ vid → st'.recordsOf vid' = st.recordsOf vid' := by
  cases act with
  | chain | compliance =>
    obtain ⟨store, -, rfl⟩ := hstep
    exact .inl fun _ => rfl
  | model msg =>
    obtain ⟨models, hmodels, rfl⟩ := hstep
    rcases Models.step_cases hmodels with rfl | ⟨hsigned, hchange⟩
    · exact .inl fun _ => rfl
    · have hkeyed := Models.keyed_of_reachable (models_reachable hr)
      refine .inr ⟨msg.vid, ⟨msg.creator, rfl, hsigned⟩, fun vid' hvid => ?_⟩
      rw [State.recordsOf, hchange.recordsOf_of_ne hkeyed hvid]
      rfl
  | vendorInfo msg =>
    obtain ⟨vendorInfos, hvendorInfos, rfl⟩ := hstep
    rcases VendorInfos.step_cases hvendorInfos with rfl | ⟨hsigned, rfl⟩
    · exact .inl fun _ => rfl
    · refine .inr ⟨msg.fields.vendorID, ⟨msg.fields.creator, rfl, hsigned⟩, fun vid' hvid => ?_⟩
      -- the vendor ID is in the key, so the records of the others stay
      have hget : (st.vendorInfos.setVendorInfo msg.fields.vendorInfo).getVendorInfo vid' =
          st.vendorInfos.getVendorInfo vid' :=
        (VendorInfos.getVendorInfo_setVendorInfo _).trans (if_neg hvid)
      exact congrArg (VendorRecords.mk _) hget

/-- **Vendors are isolated.** Whatever changes a record that is stored for a vendor is a message of
`model` or of `vendorinfo` that is signed by an account with the vendor role and this vendor ID, and it
changes no record that is stored for another vendor. -/
theorem vendor_isolation (hr : (catalog lib addr parse genesis).Reachable st)
    (hstep : (catalog lib addr parse genesis).step st act st')
    (hchanged : st'.recordsOf vid ≠ st.recordsOf vid) :
    SignedByVendor addr st act vid ∧
      ∀ vid', vid' ≠ vid → st'.recordsOf vid' = st.recordsOf vid' := by
  rcases exists_vendor hr hstep with hsame | ⟨vid₁, hsigned, hother⟩
  · exact absurd (hsame vid) hchanged
  · have hvid : vid = vid₁ := by
      by_contra hne
      exact hchanged (hother vid hne)
    subst hvid
    exact ⟨hsigned, hother⟩

/-- The vendor renames a product. -/
theorem example_vendor : ∃ st st',
    (catalog Pki.exampleLib Validators.exampleAddresses Compliance.exampleParse
      exampleGenesis).Reachable st ∧
    (catalog Pki.exampleLib Validators.exampleAddresses Compliance.exampleParse
      exampleGenesis).step st (.model (Models.exampleRename 1 "Lamp 2")) st' ∧
    st'.recordsOf 10 ≠ st.recordsOf 10 ∧
    SignedByVendor Validators.exampleAddresses st (.model (Models.exampleRename 1 "Lamp 2")) 10 := by
  obtain ⟨st, hr, hp⟩ := exists_reachable_of_foldlM
    (T := catalog Pki.exampleLib Validators.exampleAddresses Compliance.exampleParse exampleGenesis)
    (p := fun st => ((next Pki.exampleLib Validators.exampleAddresses Compliance.exampleParse 3 st
      (.model (Models.exampleRename 1 "Lamp 2"))).any fun st' =>
        st'.models.getVendorProducts 10 ≠ st.models.getVendorProducts 10) = true)
    (next Pki.exampleLib Validators.exampleAddresses Compliance.exampleParse 3) step_of_next
    exampleProduct (by decide +kernel)
  replace hp := of_decide_eq_true hp
  rw [Option.any_eq_true] at hp
  obtain ⟨st', hst', hne⟩ := hp
  have hstep : (catalog Pki.exampleLib Validators.exampleAddresses Compliance.exampleParse
    exampleGenesis).step st _ st' := step_of_next hst'
  have hchanged : st'.recordsOf 10 ≠ st.recordsOf 10 := by
    intro heq
    exact of_decide_eq_true hne (congrArg (fun r => r.models.vendorProducts) heq)
  exact ⟨st, st', hr, hstep, hchanged, (vendor_isolation hr hstep hchanged).1⟩

end Catalog

end ComplianceLedger
