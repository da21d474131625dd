import ComplianceLedger.Models.MsgServer

/-!
# The indexes of the models

The products of a vendor and the software versions of a product are listed in records of their own,
which the handlers keep by searching, replacing, appending and removing. This module shows that
the lists are exact in every run: they have each model and each version once, with the name and the
part number that the model has now, and a record without items is never left behind.

A record lies under the key of its own fields. The handlers rely on this: what they write back after
an update goes to the key of the record they have read.

## Main definitions

* `Keyed s`: every record lies under its own key
* `ProductsListed s`, `VersionsListed s`: the two indexes are exact

## Main results

* `keyed_of_reachable`: in every run every record lies under its own key
* `listings_exact`: in every run the indexes have exactly the models and the versions
-/

open Machine Machine.TransitionSystem

namespace ComplianceLedger.Models

variable {bech32 : Bech32} {s s' : Store} {msg : Msg} {vid vid' pid pid' : Int32} {sv : UInt32}

/-! ## Keys -/

/-- Every record lies under the key of its own fields. -/
structure Keyed (s : Store) : Prop where
  model : s.model.All fun k model => k = modelKey model.vid model.pid
  modelVersion : s.modelVersion.All fun k version =>
    k = modelVersionKey version.vid version.pid version.softwareVersion
  modelVersions : s.modelVersions.All fun k versions => k = modelVersionsKey versions.vid versions.pid
  vendorProducts : s.vendorProducts.All fun k products => k = vendorProductsKey products.vid

theorem Keyed.empty : Keyed Store.empty := ⟨.empty, .empty, .empty, .empty⟩

theorem Keyed.of_getModel {model : Model} (h : Keyed s) (hget : s.getModel vid pid = some model) :
    model.vid = vid ∧ model.pid = pid := by
  have hkey := modelKey_inj.mp (h.model _ _ hget)
  exact ⟨hkey.1.symm, hkey.2.symm⟩

theorem Keyed.of_getModelVersion {version : ModelVersion} (h : Keyed s)
    (hget : s.getModelVersion vid pid sv = some version) :
    version.vid = vid ∧ version.pid = pid ∧ version.softwareVersion = sv := by
  have hkey := modelVersionKey_inj.mp (h.modelVersion _ _ hget)
  exact ⟨hkey.1.symm, hkey.2.1.symm, hkey.2.2.symm⟩

theorem Keyed.of_getModelVersions {versions : ModelVersions} (h : Keyed s)
    (hget : s.getModelVersions vid pid = some versions) :
    versions.vid = vid ∧ versions.pid = pid := by
  have hkey := modelVersionsKey_inj.mp (h.modelVersions _ _ hget)
  exact ⟨hkey.1.symm, hkey.2.symm⟩

theorem Keyed.of_getVendorProducts {products : VendorProducts} (h : Keyed s)
    (hget : s.getVendorProducts vid = some products) : products.vid = vid :=
  (vendorProductsKey_inj.mp (h.vendorProducts _ _ hget)).symm

/-! ## What a write does to the lookups -/

section Lookups

theorem getModel_setModel (model : Model) :
    (s.setModel model).getModel vid pid =
      if vid = model.vid ∧ pid = model.pid then some model else s.getModel vid pid := by
  simp only [Store.getModel, Store.setModel, KVStore.get_set, modelKey_inj]

theorem getModel_removeModel :
    (s.removeModel vid pid).getModel vid' pid' =
      if vid' = vid ∧ pid' = pid then none else s.getModel vid' pid' := by
  simp only [Store.getModel, Store.removeModel, KVStore.get_delete, modelKey_inj]

theorem getModel_setVendorProduct (product : Product) :
    (s.setVendorProduct vid product).getModel vid' pid' = s.getModel vid' pid' := rfl

theorem getModelVersion_setModelVersion (version : ModelVersion) :
    (s.setModelVersion version).getModelVersion vid pid sv =
      if vid = version.vid ∧ pid = version.pid ∧ sv = version.softwareVersion then some version
      else s.getModelVersion vid pid sv := by
  simp only [Store.getModelVersion, Store.setModelVersion, KVStore.get_set, modelVersionKey_inj]

theorem getModelVersions_setModelVersions (versions : ModelVersions) :
    (s.setModelVersions versions).getModelVersions vid pid =
      if vid = versions.vid ∧ pid = versions.pid then some versions
      else s.getModelVersions vid pid := by
  simp only [Store.getModelVersions, Store.setModelVersions, KVStore.get_set, modelVersionsKey_inj]

theorem getVendorProducts_setVendorProducts (products : VendorProducts) :
    (s.setVendorProducts products).getVendorProducts vid =
      if vid = products.vid then some products else s.getVendorProducts vid := by
  simp only [Store.getVendorProducts, Store.setVendorProducts, KVStore.get_set,
    vendorProductsKey_inj]

theorem getVendorProducts_removeVendorProducts :
    (s.removeVendorProducts vid).getVendorProducts vid' =
      if vid' = vid then none else s.getVendorProducts vid' := by
  simp only [Store.getVendorProducts, Store.removeVendorProducts, KVStore.get_delete,
    vendorProductsKey_inj]

/-- The products that are listed for a vendor. -/
def Store.productsOf (s : Store) (vid : Int32) : List Product :=
  ((s.getVendorProducts vid).map VendorProducts.products).getD []

/-- The software versions that are listed for a product. -/
def Store.versionsOf (s : Store) (vid pid : Int32) : List UInt32 :=
  ((s.getModelVersions vid pid).map ModelVersions.softwareVersions).getD []

theorem getVendorProducts_setVendorProduct (h : Keyed s) (product : Product) :
    (s.setVendorProduct vid product).getVendorProducts vid' =
      if vid' = vid then some ⟨vid, upsert Product.pid product (s.productsOf vid)⟩
      else s.getVendorProducts vid' := by
  unfold Store.setVendorProduct Store.productsOf
  rw [getVendorProducts_setVendorProducts]
  cases hget : s.getVendorProducts vid with
  | none => rfl
  | some products =>
    obtain rfl := h.of_getVendorProducts hget
    rfl

theorem getVendorProducts_removeVendorProduct (h : Keyed s) :
    (s.removeVendorProduct vid pid).getVendorProducts vid' =
      if vid' = vid then
        if (s.productsOf vid).eraseP (fun value => value.pid = pid) = [] then none
        else some ⟨vid, (s.productsOf vid).eraseP fun value => value.pid = pid⟩
      else s.getVendorProducts vid' := by
  unfold Store.removeVendorProduct Store.productsOf
  cases hget : s.getVendorProducts vid with
  | none =>
    -- without a record nothing is listed, and nothing is written
    simp only [Option.map_none, Option.getD_none, List.eraseP_nil, if_true]
    split
    · next heq => rw [heq, hget]
    · rfl
  | some products =>
    obtain rfl := h.of_getVendorProducts hget
    simp only [Option.map_some, Option.getD_some, List.length_eq_zero_iff]
    split
    · rw [getVendorProducts_removeVendorProducts]
    · rw [getVendorProducts_setVendorProducts]

theorem getModelVersions_addModelVersion (h : Keyed s) :
    (s.addModelVersion vid pid sv).getModelVersions vid' pid' =
      if vid' = vid ∧ pid' = pid ∧ sv ∉ s.versionsOf vid pid then
        some ⟨vid, pid, s.versionsOf vid pid ++ [sv]⟩
      else s.getModelVersions vid' pid' := by
  unfold Store.addModelVersion Store.versionsOf
  cases hget : s.getModelVersions vid pid with
  | none => simp [getModelVersions_setModelVersions]
  | some versions =>
    obtain ⟨rfl, rfl⟩ := h.of_getModelVersions hget
    simp only [Option.map_some, Option.getD_some]
    split
    · next hmem => simp [hmem]
    · next hmem => simp [hmem, getModelVersions_setModelVersions]

variable (s)

/-- The index of the products is written without touching the other records. -/
@[simp] theorem removeVendorProduct_frame :
    (s.removeVendorProduct vid pid).model = s.model ∧
      (s.removeVendorProduct vid pid).modelVersion = s.modelVersion ∧
      (s.removeVendorProduct vid pid).modelVersions = s.modelVersions := by
  unfold Store.removeVendorProduct
  split
  · dsimp only
    split <;> exact ⟨rfl, rfl, rfl⟩
  · exact ⟨rfl, rfl, rfl⟩

/-- The index of the versions is written without touching the other records. -/
@[simp] theorem addModelVersion_frame :
    (s.addModelVersion vid pid sv).model = s.model ∧
      (s.addModelVersion vid pid sv).modelVersion = s.modelVersion ∧
      (s.addModelVersion vid pid sv).vendorProducts = s.vendorProducts := by
  unfold Store.addModelVersion
  split
  · split <;> exact ⟨rfl, rfl, rfl⟩
  · exact ⟨rfl, rfl, rfl⟩

theorem getModel_removeVendorProduct :
    (s.removeVendorProduct vid pid).getModel vid' pid' = s.getModel vid' pid' := by
  simp [Store.getModel]

theorem getModelVersion_addModelVersion {sv' : UInt32} :
    (s.addModelVersion vid pid sv).getModelVersion vid' pid' sv' =
      s.getModelVersion vid' pid' sv' := by
  simp [Store.getModelVersion]

end Lookups

/-! ## The keys in every run -/

theorem Keyed.setVendorProduct (h : Keyed s) (product : Product) :
    Keyed (s.setVendorProduct vid product) :=
  { h with vendorProducts := h.vendorProducts.set rfl }

theorem Keyed.removeVendorProduct (h : Keyed s) : Keyed (s.removeVendorProduct vid pid) := by
  unfold Store.removeVendorProduct
  split
  · dsimp only
    split
    · exact { h with vendorProducts := h.vendorProducts.delete _ }
    · exact { h with vendorProducts := h.vendorProducts.set rfl }
  · exact h

theorem Keyed.addModelVersion (h : Keyed s) : Keyed (s.addModelVersion vid pid sv) := by
  unfold Store.addModelVersion
  split
  · split
    · exact h
    · exact { h with modelVersions := h.modelVersions.set rfl }
  · exact { h with modelVersions := h.modelVersions.set rfl }

theorem Keyed.setModel (h : Keyed s) (model : Model) : Keyed (s.setModel model) :=
  { h with model := h.model.set rfl }

theorem Keyed.removeModel (h : Keyed s) : Keyed (s.removeModel vid pid) :=
  { h with model := h.model.delete _ }

theorem Keyed.setModelVersion (h : Keyed s) (version : ModelVersion) :
    Keyed (s.setModelVersion version) :=
  { h with modelVersion := h.modelVersion.set rfl }

theorem keyed_change (h : Keyed s) (hc : Change s msg s') : Keyed s' := by
  cases hc with
  | createModel | updateModel => exact (h.setModel _).setVendorProduct _
  | deleteModel => exact h.removeModel.removeVendorProduct
  | createModelVersion => exact (h.setModelVersion _).addModelVersion
  | updateModelVersion => exact h.setModelVersion _

/-- **In every run every record lies under its own key.** -/
theorem keyed_of_reachable (h : (models bech32).Reachable s) : Keyed s := by
  refine h.invariant Keyed.empty fun hs hstep => ?_
  rcases step_cases hstep with rfl | ⟨-, hchange⟩
  · exact hs
  · exact keyed_change hs hchange

/-! ## The products of a vendor -/

/-- The products of every vendor are listed. -/
def ProductsListed (s : Store) : Prop :=
  ∀ vid, Indexed Product.pid VendorProducts.products (fun pid => (s.getModel vid pid).map Model.product)
    (s.getVendorProducts vid)

/-- A model that is stored is listed. -/
theorem ProductsListed.setModel (hkeyed : Keyed s) (h : ProductsListed s) (model : Model) :
    ProductsListed ((s.setModel model).setVendorProduct model.vid model.product) := by
  intro vid
  have hget : ∀ pid, ((s.setModel model).setVendorProduct model.vid model.product).getModel vid pid =
      if vid = model.vid ∧ pid = model.pid then some model else s.getModel vid pid :=
    fun _ => by rw [getModel_setVendorProduct, getModel_setModel]
  rw [getVendorProducts_setVendorProduct (hkeyed.setModel model)]
  split
  · next hvid =>
    subst hvid
    refine .some (((h model.vid).lists.upsert model.product).congr fun pid => ?_)
      (Lists.upsert_ne_nil _ _)
    by_cases hpid : pid = model.product.pid
    · rw [hpid, Function.update_self, hget, if_pos ⟨rfl, rfl⟩, Option.map_some]
    · rw [Function.update_of_ne hpid, hget, if_neg fun heq => hpid heq.2]
  · next hvid =>
    refine (h vid).congr fun pid => ?_
    rw [hget, if_neg fun heq => hvid heq.1]

/-- A model that is deleted is not listed any more. -/
theorem ProductsListed.removeModel (hkeyed : Keyed s) (h : ProductsListed s) :
    ProductsListed ((s.removeModel vid pid).removeVendorProduct vid pid) := by
  intro vid'
  have hget : ∀ pid', ((s.removeModel vid pid).removeVendorProduct vid pid).getModel vid' pid' =
      if vid' = vid ∧ pid' = pid then none else s.getModel vid' pid' := by
    intro pid'
    rw [getModel_removeVendorProduct, getModel_removeModel]
  rw [getVendorProducts_removeVendorProduct hkeyed.removeModel]
  split
  · next hvid =>
    subst hvid
    have hlists := (h vid').lists.eraseP (k := pid) (p := fun value => value.pid = pid)
      fun _ _ => decide_eq_true_iff
    have hnew := hlists.congr
      (g := fun pid' => (((s.removeModel vid' pid).removeVendorProduct vid' pid).getModel vid'
        pid').map Model.product) fun pid' => by
        by_cases hpid : pid' = pid
        · rw [hpid, Function.update_self, hget, if_pos ⟨rfl, rfl⟩, Option.map_none]
        · rw [Function.update_of_ne hpid, hget, if_neg fun heq => hpid heq.2]
    -- the record goes with the last product
    split
    · next hnil => exact .none (hnil ▸ hnew)
    · next hne => exact .some hnew hne
  · next hvid =>
    refine (h vid').congr fun pid' => ?_
    rw [hget, if_neg fun heq => hvid heq.1]

/-! ## The versions of a product -/

/-- The software versions of every product are listed. -/
def VersionsListed (s : Store) : Prop :=
  ∀ vid pid, Indexed id ModelVersions.softwareVersions
    (fun sv => (s.getModelVersion vid pid sv).map ModelVersion.softwareVersion)
    (s.getModelVersions vid pid)

/-- A version that is new is listed. -/
theorem VersionsListed.addModelVersion (hkeyed : Keyed s) (h : VersionsListed s)
    (version : ModelVersion)
    (hnew : s.getModelVersion version.vid version.pid version.softwareVersion = none) :
    VersionsListed ((s.setModelVersion version).addModelVersion version.vid version.pid
      version.softwareVersion) := by
  intro vid pid
  have hget : ∀ sv, ((s.setModelVersion version).addModelVersion version.vid version.pid
      version.softwareVersion).getModelVersion vid pid sv =
      if vid = version.vid ∧ pid = version.pid ∧ sv = version.softwareVersion then some version
      else s.getModelVersion vid pid sv := by
    intro sv
    rw [getModelVersion_addModelVersion, getModelVersion_setModelVersion]
  have hold := (h version.vid version.pid).lists
  -- what is not stored is not listed, so the version is appended
  have hmem : version.softwareVersion ∉ s.versionsOf version.vid version.pid :=
    fun hmem => hold.get_eq_none_iff.mp (by simp [hnew]) _ hmem rfl
  rw [getModelVersions_addModelVersion (hkeyed.setModelVersion version)]
  split
  · next heq =>
    obtain ⟨rfl, rfl, -⟩ := heq
    refine .some ((hold.append (x := version.softwareVersion) (by simp [hnew])).congr fun sv => ?_)
      (by simp)
    by_cases hsv : sv = version.softwareVersion
    · rw [hsv, hget, if_pos ⟨rfl, rfl, rfl⟩]
      exact Function.update_self ..
    · rw [hget, if_neg fun heq => hsv heq.2.2]
      exact Function.update_of_ne hsv ..
  · next hne =>
    refine (h vid pid).congr fun sv => ?_
    rw [hget, if_neg fun heq => hne ⟨heq.1, heq.2.1, hmem⟩]

/-- A version that is updated stays listed. -/
theorem VersionsListed.setModelVersion (h : VersionsListed s) {found version : ModelVersion}
    (hfound : s.getModelVersion version.vid version.pid version.softwareVersion = some found)
    (hsv : found.softwareVersion = version.softwareVersion) :
    VersionsListed (s.setModelVersion version) := by
  intro vid pid
  refine (h vid pid).congr fun sv => ?_
  rw [getModelVersion_setModelVersion]
  split
  · next heq =>
    obtain ⟨rfl, rfl, rfl⟩ := heq
    rw [hfound, Option.map_some, Option.map_some, hsv]
  · rfl

/-! ## The indexes in every run -/

theorem productsListed_change (hkeyed : Keyed s) (h : ProductsListed s) (hc : Change s msg s') :
    ProductsListed s' := by
  cases hc with
  | createModel => exact h.setModel hkeyed _
  | updateModel => exact h.setModel hkeyed _
  | deleteModel => exact h.removeModel hkeyed
  | createModelVersion =>
    intro vid
    simpa [Store.getModel, Store.getVendorProducts, Store.setModelVersion] using h vid
  | updateModelVersion => exact h

theorem versionsListed_change (hkeyed : Keyed s) (h : VersionsListed s) (hc : Change s msg s') :
    VersionsListed s' := by
  cases hc with
  | createModel | updateModel => exact h
  | deleteModel =>
    intro vid pid
    simpa [Store.getModelVersion, Store.getModelVersions, Store.removeModel] using h vid pid
  | createModelVersion _ hversion => exact h.addModelVersion hkeyed _ hversion
  | updateModelVersion hfound =>
    obtain ⟨hvid, hpid, hsv⟩ := hkeyed.of_getModelVersion hfound
    rw [← hvid, ← hpid, ← hsv] at hfound
    exact h.setModelVersion hfound rfl

theorem listed_of_reachable (h : (models bech32).Reachable s) :
    ProductsListed s ∧ VersionsListed s := by
  refine h.induction (P := fun s => ProductsListed s ∧ VersionsListed s) ?_ ?_
  · exact ⟨fun _ _ => rfl, fun _ _ _ => rfl⟩
  · intro s a s' hr ⟨hproducts, hversions⟩ hstep
    rcases step_cases hstep with rfl | ⟨-, hchange⟩
    · exact ⟨hproducts, hversions⟩
    · have hkeyed := keyed_of_reachable hr
      exact ⟨productsListed_change hkeyed hproducts hchange,
        versionsListed_change hkeyed hversions hchange⟩

/-- The products listed for a vendor are exactly those of the stored models. -/
def ProductsExact (s : Store) (vid : Int32) : Prop :=
  match s.getVendorProducts vid with
  | none => ∀ model ∈ s.model.values, model.vid ≠ vid
  | some vendorProducts => vendorProducts.vid = vid ∧ vendorProducts.products ≠ [] ∧
      (vendorProducts.products.map Product.pid).Nodup ∧
      ∀ product, product ∈ vendorProducts.products ↔
        ∃ model ∈ s.model.values, model.vid = vid ∧ model.product = product

/-- The software versions listed for a product are exactly those of the stored versions. -/
def VersionsExact (s : Store) (vid pid : Int32) : Prop :=
  match s.getModelVersions vid pid with
  | none => ∀ version ∈ s.modelVersion.values, ¬ (version.vid = vid ∧ version.pid = pid)
  | some modelVersions => modelVersions.vid = vid ∧ modelVersions.pid = pid ∧
      modelVersions.softwareVersions ≠ [] ∧ modelVersions.softwareVersions.Nodup ∧
      ∀ sv, sv ∈ modelVersions.softwareVersions ↔
        ∃ version ∈ s.modelVersion.values, version.vid = vid ∧ version.pid = pid ∧
          version.softwareVersion = sv

theorem productsExact_of_listed (hkeyed : Keyed s) (h : ProductsListed s) (vid : Int32) :
    ProductsExact s vid := by
  have hvid := h vid
  unfold ProductsExact
  cases hget : s.getVendorProducts vid with
  | none =>
    rw [hget] at hvid
    intro model hmodel heq
    have hstored := hkeyed.model.mem_values_iff.mp hmodel
    have hnone := Option.map_eq_none_iff.mp (hvid model.pid)
    rw [← heq] at hnone
    exact Option.some_ne_none model (hstored.symm.trans hnone)
  | some vendorProducts =>
    rw [hget] at hvid
    refine ⟨hkeyed.of_getVendorProducts hget, hvid.1, hvid.2.nodup, fun product => ?_⟩
    rw [hvid.2.mem_iff, Option.map_eq_some_iff]
    constructor
    · rintro ⟨model, hmodel, rfl⟩
      exact ⟨model, KVStore.mem_values_iff.mpr ⟨_, hmodel⟩, (hkeyed.of_getModel hmodel).1, rfl⟩
    · rintro ⟨model, hmodel, rfl, rfl⟩
      exact ⟨model, hkeyed.model.mem_values_iff.mp hmodel, rfl⟩

theorem versionsExact_of_listed (hkeyed : Keyed s) (h : VersionsListed s) (vid pid : Int32) :
    VersionsExact s vid pid := by
  have hpid := h vid pid
  unfold VersionsExact
  cases hget : s.getModelVersions vid pid with
  | none =>
    rw [hget] at hpid
    rintro version hversion ⟨rfl, rfl⟩
    have hstored := hkeyed.modelVersion.mem_values_iff.mp hversion
    have hnone := Option.map_eq_none_iff.mp (hpid version.softwareVersion)
    exact Option.some_ne_none version (hstored.symm.trans hnone)
  | some modelVersions =>
    rw [hget] at hpid
    obtain ⟨hv, hp⟩ := hkeyed.of_getModelVersions hget
    refine ⟨hv, hp, hpid.1, by simpa using hpid.2.nodup, fun sv => ?_⟩
    rw [hpid.2.mem_iff, Option.map_eq_some_iff]
    constructor
    · rintro ⟨version, hversion, rfl⟩
      obtain ⟨hvid, hpid, -⟩ := hkeyed.of_getModelVersion hversion
      exact ⟨version, KVStore.mem_values_iff.mpr ⟨_, hversion⟩, hvid, hpid, rfl⟩
    · rintro ⟨version, hversion, rfl, rfl, rfl⟩
      exact ⟨version, hkeyed.modelVersion.mem_values_iff.mp hversion, rfl⟩

/-- **The indexes are exact.** In every run the record of a vendor lists the models of the vendor, each
product ID once and with the present name and part number, and there is none without models; the
record of a product lists its software versions, each once, and there is none without versions. -/
theorem listings_exact (h : (models bech32).Reachable s) (vid pid : Int32) :
    ProductsExact s vid ∧ VersionsExact s vid pid := by
  have hkeyed := keyed_of_reachable h
  have hlisted := listed_of_reachable h
  exact ⟨productsExact_of_listed hkeyed hlisted.1 vid,
    versionsExact_of_listed hkeyed hlisted.2 vid pid⟩

/-- Two products of a vendor, of which the first gets a version and a new name, and the second is
deleted. -/
theorem example_products_listed : ∃ s, (models exampleCodec).Reachable s ∧
    s.getVendorProducts 10 = some ⟨10, [⟨1, "Lamp 2", "p1"⟩]⟩ ∧
    s.getModelVersions 10 1 = some ⟨10, 1, [7]⟩ ∧ s.getModelVersions 10 2 = none ∧
    ProductsExact s 10 ∧ VersionsExact s 10 1 ∧ VersionsExact s 10 2 := by
  obtain ⟨s, hr, hp⟩ := exists_reachable_of_foldlM (T := models exampleCodec)
    (p := fun s => s.getVendorProducts 10 = some ⟨10, [⟨1, "Lamp 2", "p1"⟩]⟩ ∧
      s.getModelVersions 10 1 = some ⟨10, 1, [7]⟩ ∧ s.getModelVersions 10 2 = none)
    (next exampleCodec) step_of_next
    ([exampleCreate 1 "Lamp" "p1", exampleCreate 2 "Plug" "p2", exampleVersion 1 7 "7.0",
      exampleRename 1 "Lamp 2", exampleDelete 2].map (Prod.mk exampleAccounts)) (by decide +kernel)
  obtain ⟨hproducts, hversions, hnone⟩ := of_decide_eq_true hp
  exact ⟨s, hr, hproducts, hversions, hnone, (listings_exact hr 10 1).1, (listings_exact hr 10 1).2,
    (listings_exact hr 10 2).2⟩

end ComplianceLedger.Models
