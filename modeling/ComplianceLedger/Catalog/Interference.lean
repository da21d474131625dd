import ComplianceLedger.Catalog.Vendors
import ComplianceLedger.Compliance.Flags
import ComplianceLedger.Machine.Coupling
import ComplianceLedger.Machine.Unwinding

/-!
# Vendors do not interfere

What the catalog records for a vendor, and how it answers the messages about the vendor, depends on these
messages and on the chain of the other modules. It does not depend on the other vendors: take all
messages about them out of a run, and what is left is a run that ends with the same records for the
vendor.

For this it is not enough that nobody else writes the records of a vendor. The handlers must not read
the records of another vendor either, not even to refuse a message. So each handler is run on two stores
that agree on the vendor, and is seen to go the same way on both. The only records that vendors share
are the lists of a certificate in `compliance`: a certificate may cover products of several vendors. They
are written and never lead to a refusal.

## Main definitions

* `Models.SameFor vid`, `VendorInfos.SameFor vid`, `Compliance.SameFor vid`: the stores of a module agree
  on a vendor
* `SameFor vid st t`: the states agree on a vendor
* `Act.concerns vid act`: it is about the vendor, or happens on the chain
* `answer addr parse st act`: how a message is answered

## Main results

* `Models.coupled_handle`, `VendorInfos.coupled_handle`, `Compliance.coupled_handle`: a message about the
  vendor goes the same way on stores that agree on the vendor
* `vendors_do_not_interfere`: every run can be purged of the messages about other vendors
-/

open Machine Machine.Handler Machine.TransitionSystem

/-! ## Models -/

namespace ComplianceLedger.Models

/-- The stores agree on a vendor, and every record in them lies under its own key. -/
structure SameFor (vid : Int32) (s t : Store) : Prop where
  left : Keyed s
  right : Keyed t
  records : s.recordsOf vid = t.recordsOf vid

section Writes

variable {s t : Store} {vid : Int32}

theorem SameFor.setModel (h : SameFor vid s t) (model : Model) :
    SameFor vid (s.setModel model) (t.setModel model) := by
  obtain ⟨hmodel, hversion, hversions, hproducts⟩ := recordsOf_eq_iff.mp h.records
  refine ⟨h.left.setModel _, h.right.setModel _,
    recordsOf_eq_iff.mpr ⟨fun pid => ?_, hversion, hversions, hproducts⟩⟩
  rw [getModel_setModel, getModel_setModel, hmodel]

theorem SameFor.removeModel (h : SameFor vid s t) (vid' pid' : Int32) :
    SameFor vid (s.removeModel vid' pid') (t.removeModel vid' pid') := by
  obtain ⟨hmodel, hversion, hversions, hproducts⟩ := recordsOf_eq_iff.mp h.records
  refine ⟨h.left.removeModel, h.right.removeModel,
    recordsOf_eq_iff.mpr ⟨fun pid => ?_, hversion, hversions, hproducts⟩⟩
  rw [getModel_removeModel, getModel_removeModel, hmodel]

theorem SameFor.setModelVersion (h : SameFor vid s t) (version : ModelVersion) :
    SameFor vid (s.setModelVersion version) (t.setModelVersion version) := by
  obtain ⟨hmodel, hversion, hversions, hproducts⟩ := recordsOf_eq_iff.mp h.records
  refine ⟨h.left.setModelVersion _, h.right.setModelVersion _,
    recordsOf_eq_iff.mpr ⟨hmodel, fun pid sv => ?_, hversions, hproducts⟩⟩
  rw [getModelVersion_setModelVersion, getModelVersion_setModelVersion, hversion]

theorem SameFor.setVendorProduct (h : SameFor vid s t) (vid' : Int32) (product : Product) :
    SameFor vid (s.setVendorProduct vid' product) (t.setVendorProduct vid' product) := by
  obtain ⟨hmodel, hversion, hversions, hproducts⟩ := recordsOf_eq_iff.mp h.records
  refine ⟨h.left.setVendorProduct _, h.right.setVendorProduct _,
    recordsOf_eq_iff.mpr ⟨hmodel, hversion, hversions, ?_⟩⟩
  rw [getVendorProducts_setVendorProduct h.left, getVendorProducts_setVendorProduct h.right]
  -- the new list is made from the list of the same vendor
  split
  · next heq =>
    subst heq
    rw [Store.productsOf, Store.productsOf, hproducts]
  · exact hproducts

theorem SameFor.removeVendorProduct (h : SameFor vid s t) (vid' pid' : Int32) :
    SameFor vid (s.removeVendorProduct vid' pid') (t.removeVendorProduct vid' pid') := by
  obtain ⟨hmodel, hversion, hversions, hproducts⟩ := recordsOf_eq_iff.mp h.records
  refine ⟨h.left.removeVendorProduct, h.right.removeVendorProduct, recordsOf_eq_iff.mpr ?_⟩
  refine ⟨?_, ?_, ?_, ?_⟩
  · simpa [Store.getModel] using hmodel
  · simpa [Store.getModelVersion] using hversion
  · simpa [Store.getModelVersions] using hversions
  · rw [getVendorProducts_removeVendorProduct h.left, getVendorProducts_removeVendorProduct h.right]
    split
    · next heq =>
      subst heq
      rw [Store.productsOf, Store.productsOf, hproducts]
    · exact hproducts

theorem SameFor.addModelVersion (h : SameFor vid s t) (vid' pid' : Int32) (sv : UInt32) :
    SameFor vid (s.addModelVersion vid' pid' sv) (t.addModelVersion vid' pid' sv) := by
  obtain ⟨hmodel, hversion, hversions, hproducts⟩ := recordsOf_eq_iff.mp h.records
  refine ⟨h.left.addModelVersion, h.right.addModelVersion, recordsOf_eq_iff.mpr ?_⟩
  refine ⟨?_, ?_, fun pid => ?_, ?_⟩
  · simpa [Store.getModel] using hmodel
  · simpa [Store.getModelVersion] using hversion
  · rw [getModelVersions_addModelVersion h.left, getModelVersions_addModelVersion h.right]
    by_cases hvid : vid = vid'
    · subst hvid
      rw [Store.versionsOf, Store.versionsOf, hversions, hversions]
    · rw [if_neg fun heq => hvid heq.1, if_neg fun heq => hvid heq.1, hversions]
  · simpa [Store.getVendorProducts] using hproducts

end Writes

section Handlers

variable {bech32 : Bech32} {accounts : Dclauth.AccountStore} {vid : Int32} {msg : Msg}

/-- The check of the signer does not look at the store. -/
theorem coupled_checkSigner_bind {P : Store → Store → Prop} {R : Unit → Unit → Store → Store → Prop}
    {creator : String} {vid : Int32} {message : String} {x y : Handler SdkError Store Unit}
    (hxy : Coupled P x y R) :
    Coupled P (checkSigner bech32 accounts creator vid message >>= fun _ => x)
      (checkSigner bech32 accounts creator vid message >>= fun _ => y) R := by
  refine Coupled.bind (R := fun _ _ => P) ?_ fun _ _ => hxy
  exact coupled_ofExcept_bind fun signerAddr _ => coupled_ofExcept

/-- **A message about a vendor** goes the same way on stores that agree on the vendor. -/
theorem coupled_handle (hvid : msg.vid = vid) :
    Coupled (SameFor vid) (handle bech32 accounts msg) (handle bech32 accounts msg)
      fun _ _ => SameFor vid := by
  have hgetModel : ∀ (pid : Int32) (s t : Store), SameFor vid s t →
      s.getModel msg.vid pid = t.getModel msg.vid pid := fun pid s t h =>
    hvid ▸ (recordsOf_eq_iff.mp h.records).1 pid
  have hgetVersion : ∀ (pid : Int32) (sv : UInt32) (s t : Store), SameFor vid s t →
      s.getModelVersion msg.vid pid sv = t.getModelVersion msg.vid pid sv := fun pid sv s t h =>
    hvid ▸ (recordsOf_eq_iff.mp h.records).2.1 pid sv
  cases msg with
  | createModel msg =>
    refine coupled_checkSigner_bind (coupled_read_bind (hgetModel _) fun found => ?_)
    refine coupled_failIf_bind Iff.rfl (coupled_write_bind (fun s t h => h.setModel _) ?_)
    exact coupled_write fun s t h => h.setVendorProduct _ _
  | updateModel msg =>
    refine coupled_checkSigner_bind (coupled_readSome_bind (hgetModel _) fun found => ?_)
    refine coupled_ofExcept_bind fun lsfRevision _ => ?_
    refine coupled_write_bind (fun s t h => h.setModel _) ?_
    exact coupled_write fun s t h => h.setVendorProduct _ _
  | deleteModel msg =>
    refine coupled_checkSigner_bind (coupled_readSome_bind (hgetModel _) fun found => ?_)
    refine coupled_write_bind (fun s t h => h.removeModel _ _) ?_
    exact coupled_write fun s t h => h.removeVendorProduct _ _
  | createModelVersion msg =>
    refine coupled_checkSigner_bind (coupled_readSome_bind (hgetModel _) fun model => ?_)
    refine coupled_read_bind (hgetVersion _ _) fun found => ?_
    refine coupled_failIf_bind Iff.rfl (coupled_write_bind (fun s t h => h.setModelVersion _) ?_)
    exact coupled_write fun s t h => h.addModelVersion _ _ _
  | updateModelVersion msg =>
    refine coupled_checkSigner_bind (coupled_readSome_bind (hgetVersion _ _) fun found => ?_)
    refine coupled_failIf_bind Iff.rfl (coupled_failIf_bind Iff.rfl (coupled_failIf_bind Iff.rfl ?_))
    exact coupled_write fun s t h => h.setModelVersion _

end Handlers

end ComplianceLedger.Models

/-! ## Vendors -/

namespace ComplianceLedger.VendorInfos

/-- The stores agree on a vendor. -/
def SameFor (vid : Int32) (s t : Store) : Prop := s.getVendorInfo vid = t.getVendorInfo vid

variable {bech32 : Bech32} {accounts : Dclauth.AccountStore} {s t : Store} {vid : Int32} {msg : Msg}

theorem SameFor.setVendorInfo (h : SameFor vid s t) (info : VendorInfo) :
    SameFor vid (s.setVendorInfo info) (t.setVendorInfo info) := by
  unfold SameFor
  rw [getVendorInfo_setVendorInfo, getVendorInfo_setVendorInfo, h]

theorem coupled_handle (hvid : msg.fields.vendorID = vid) :
    Coupled (SameFor vid) (handle bech32 accounts msg) (handle bech32 accounts msg)
      fun _ _ => SameFor vid := by
  have hget : ∀ s t : Store, SameFor vid s t →
      s.getVendorInfo msg.fields.vendorID = t.getVendorInfo msg.fields.vendorID :=
    fun s t h => hvid ▸ h
  cases msg with
  | createVendorInfo msg | updateVendorInfo msg =>
    refine coupled_read_bind hget fun found => coupled_failIf_bind Iff.rfl ?_
    refine coupled_ofExcept_bind fun signer _ => coupled_ofExcept_bind fun _ _ => ?_
    exact coupled_write fun s t h => h.setVendorInfo _

end ComplianceLedger.VendorInfos

/-! ## Compliance -/

namespace ComplianceLedger.Compliance

/-- The stores agree on the versions of a vendor, as far as the records and the flags go. -/
structure SameFor (vid : Int32) (s t : Store) : Prop where
  complianceInfo : ∀ x : Subject, x.vid = vid → s.getComplianceInfo x = t.getComplianceInfo x
  flags : ∀ x : Subject, x.vid = vid → s.flags x = t.flags x

theorem SameFor.trans {vid : Int32} {s t r : Store} (h : SameFor vid s t) (h' : SameFor vid t r) :
    SameFor vid s r where
  complianceInfo x hx := (h.complianceInfo x hx).trans (h'.complianceInfo x hx)
  flags x hx := (h.flags x hx).trans (h'.flags x hx)

section Writes

variable {s t : Store} {vid : Int32}

theorem SameFor.setComplianceInfo (h : SameFor vid s t) (info : ComplianceInfo) :
    SameFor vid (s.setComplianceInfo info) (t.setComplianceInfo info) := by
  refine ⟨fun x hx => ?_, h.flags⟩
  have hget := h.complianceInfo x hx
  unfold Store.getComplianceInfo at hget ⊢
  rw [Store.setComplianceInfo, Store.setComplianceInfo, KVStore.get_set, KVStore.get_set, hget]

theorem SameFor.setProvisionalModel (h : SameFor vid s t) (flag : ModelFlag) :
    SameFor vid (s.setProvisionalModel flag) (t.setProvisionalModel flag) := by
  refine ⟨h.complianceInfo, fun x hx => ?_⟩
  rw [flags_setProvisionalModel, flags_setProvisionalModel, h.flags x hx]

theorem SameFor.setCertifiedModel (h : SameFor vid s t) (flag : ModelFlag) :
    SameFor vid (s.setCertifiedModel flag) (t.setCertifiedModel flag) := by
  refine ⟨h.complianceInfo, fun x hx => ?_⟩
  rw [flags_setCertifiedModel, flags_setCertifiedModel, h.flags x hx]

theorem SameFor.setRevokedModel (h : SameFor vid s t) (flag : ModelFlag) :
    SameFor vid (s.setRevokedModel flag) (t.setRevokedModel flag) := by
  refine ⟨h.complianceInfo, fun x hx => ?_⟩
  rw [flags_setRevokedModel, flags_setRevokedModel, h.flags x hx]

/-- The lists of a certificate may differ, since other vendors are in them. -/
theorem SameFor.addToCertificate (h : SameFor vid s t) (msg : MsgDeclareModel)
    (info : ComplianceInfo) :
    SameFor vid (s.addToCertificate msg info) (t.addToCertificate msg info) :=
  ⟨h.complianceInfo, h.flags⟩

theorem SameFor.removeFromCertificate (h : SameFor vid s t) (msg : MsgRevokeModel)
    (info : ComplianceInfo) :
    SameFor vid (s.removeFromCertificate msg info) (t.removeFromCertificate msg info) := by
  refine ⟨fun x hx => ?_, fun x hx => ?_⟩
  · simpa [Store.getComplianceInfo] using h.complianceInfo x hx
  · simpa using h.flags x hx

end Writes

section Handlers

variable {bech32 : Bech32} {parse : String → Option ℤ} {ctx ctx' : Context} {vid : Int32} {msg : Msg}

/-- The check of the signer looks at the accounts only. -/
theorem coupled_checkSigner_bind {P : Store → Store → Prop} {R : Unit → Unit → Store → Store → Prop}
    {signer : String} {x y : Handler SdkError Store Unit} (haccounts : ctx.accounts = ctx'.accounts)
    (hxy : Coupled P x y R) :
    Coupled P (checkSigner bech32 ctx signer >>= fun _ => x)
      (checkSigner bech32 ctx' signer >>= fun _ => y) R := by
  refine Coupled.bind (R := fun _ _ => P) ?_ fun _ _ => hxy
  refine coupled_ofExcept_bind fun signerAddr _ => ?_
  rw [haccounts]
  exact coupled_failIf

/-- The check of the version looks at the version only. -/
theorem coupled_checkModelVersion_bind {P : Store → Store → Prop}
    {R : Unit → Unit → Store → Store → Prop} {x : Subject} {softwareVersionString : String}
    {rest rest' : Handler SdkError Store Unit} (hversion : ctx.getModelVersion x = ctx'.getModelVersion x)
    (hrest : Coupled P rest rest' R) :
    Coupled P (checkModelVersion ctx x softwareVersionString >>= fun _ => rest)
      (checkModelVersion ctx' x softwareVersionString >>= fun _ => rest') R := by
  refine Coupled.bind (R := fun _ _ => P) ?_ fun _ _ => hrest
  exact coupled_readSome_bind (fun _ _ _ => hversion) fun version => coupled_failIf

/-- **A message about a version of a vendor** goes the same way on stores that agree on the vendor, and
beside models that agree on the vendor. -/
theorem coupled_handle (haccounts : ctx.accounts = ctx'.accounts)
    (hversion : ctx.getModelVersion msg.subject = ctx'.getModelVersion msg.subject)
    (hvid : msg.subject.vid = vid) :
    Coupled (SameFor vid) (handle bech32 parse ctx msg) (handle bech32 parse ctx' msg)
      fun _ _ => SameFor vid := by
  have hget : ∀ s t : Store, SameFor vid s t →
      s.getComplianceInfo msg.subject = t.getComplianceInfo msg.subject :=
    fun s t h => h.complianceInfo _ hvid
  cases msg with
  | provisionModel msg =>
    refine coupled_checkSigner_bind haccounts (coupled_read_bind hget fun found => ?_)
    cases found with
    | some info =>
      -- both stores refuse the message, for the state of the record
      dsimp only
      split
      · exact coupled_fail _
      · split
        · exact coupled_fail _
        · split <;> exact coupled_fail _
    | none =>
      refine coupled_write_bind (fun s t h => h.setComplianceInfo _) ?_
      exact coupled_write fun s t h => h.setProvisionalModel _
  | certifyModel msg =>
    refine coupled_checkSigner_bind haccounts (coupled_checkModelVersion_bind hversion ?_)
    refine coupled_read_bind hget fun found => coupled_ofExcept_bind fun info _ => ?_
    refine coupled_write_bind (fun s t h => h.setComplianceInfo _) ?_
    refine coupled_write_bind (fun s t h => h.addToCertificate _ _) ?_
    refine coupled_write_bind (fun s t h => h.setCertifiedModel _) ?_
    refine coupled_write_bind (fun s t h => h.setRevokedModel _) ?_
    exact coupled_write fun s t h => h.setProvisionalModel _
  | revokeModel msg =>
    refine coupled_checkSigner_bind haccounts (coupled_checkModelVersion_bind hversion ?_)
    refine coupled_read_bind hget fun found => ?_
    cases found with
    | some d =>
      refine coupled_ofExcept_bind fun info _ => ?_
      refine coupled_write_bind (fun s t h => h.removeFromCertificate _ _) ?_
      refine coupled_write_bind (fun s t h => h.setCertifiedModel _) ?_
      refine coupled_write_bind (fun s t h => h.setProvisionalModel _) ?_
      refine coupled_write_bind (fun s t h => h.setComplianceInfo _) ?_
      exact coupled_write fun s t h => h.setRevokedModel _
    | none =>
      refine coupled_write_bind (fun s t h => h.setComplianceInfo _) ?_
      exact coupled_write fun s t h => h.setRevokedModel _

/-- A message about another vendor leaves the versions of the vendor. -/
theorem Change.sameFor {s s' : Store} (hkeyed : Keyed s) (h : Change parse ctx s msg s')
    (hvid : msg.subject.vid ≠ vid) : SameFor vid s' s := by
  obtain ⟨info, -, -, hget⟩ := h.recorded hkeyed
  have hother : ∀ x : Subject, x.vid = vid → x ≠ msg.subject := fun x hx heq => hvid (heq ▸ hx)
  refine ⟨fun x hx => ?_, fun x hx => ?_⟩
  · rw [hget, if_neg (hother x hx)]
  · rw [h.flags, if_neg (hother x hx)]

end Handlers

end ComplianceLedger.Compliance

/-! ## The catalog -/

namespace ComplianceLedger.Catalog

open Validators (Addresses)

/-- The states agree on the chain and on a vendor. -/
structure SameFor (vid : Int32) (st t : State) : Prop where
  chain : st.chain = t.chain
  records : st.recordsOf vid = t.recordsOf vid
  compliance : Compliance.SameFor vid st.compliance t.compliance

/-- It is a message about the vendor, or happens on the chain. -/
def Act.concerns (vid : Int32) : Act → Bool
  | .chain _ => true
  | .model msg => msg.vid = vid
  | .vendorInfo msg => msg.fields.vendorID = vid
  | .compliance msg => msg.subject.vid = vid

/-- How a message of one of the three modules is answered. -/
def answer (addr : Addresses) (parse : String → Option ℤ) (st : State) :
    Act → Option (Except SdkError Unit)
  | .chain _ => none
  | .model msg => ((Models.handle addr.acc st.accounts msg).deliver st.models).map Prod.fst
  | .vendorInfo msg =>
    ((VendorInfos.handle addr.acc st.accounts msg).deliver st.vendorInfos).map Prod.fst
  | .compliance msg =>
    ((Compliance.handle addr.acc parse st.context msg).deliver st.compliance).map Prod.fst

section Runs

variable {lib : Pki.CryptoX509} {addr : Addresses} {parse : String → Option ℤ}
  {genesis : List Dclauth.Account} {st st' t : State} {act : Act} {vid : Int32}

theorem recordsOf_congr (hmodels : st.models.recordsOf vid = t.models.recordsOf vid)
    (hinfo : st.vendorInfos.getVendorInfo vid = t.vendorInfos.getVendorInfo vid) :
    st.recordsOf vid = t.recordsOf vid := by
  rw [State.recordsOf, State.recordsOf, hmodels, hinfo]

theorem SameFor.refl (st : State) : SameFor vid st st := ⟨rfl, rfl, fun _ _ => rfl, fun _ _ => rfl⟩

theorem SameFor.accounts (h : SameFor vid st t) : st.accounts = t.accounts :=
  congrArg (fun chain => chain.auth.account) h.chain

theorem SameFor.modelRecords (h : SameFor vid st t) :
    st.models.recordsOf vid = t.models.recordsOf vid :=
  congrArg VendorRecords.models h.records

theorem SameFor.models (h : SameFor vid st t) (hs : (catalog lib addr parse genesis).Reachable st)
    (ht : (catalog lib addr parse genesis).Reachable t) : Models.SameFor vid st.models t.models where
  left := Models.keyed_of_reachable (models_reachable hs)
  right := Models.keyed_of_reachable (models_reachable ht)
  records := h.modelRecords

theorem SameFor.vendorInfos (h : SameFor vid st t) :
    VendorInfos.SameFor vid st.vendorInfos t.vendorInfos :=
  congrArg VendorRecords.vendorInfo h.records

theorem SameFor.getModelVersion (h : SameFor vid st t) {x : Compliance.Subject} (hx : x.vid = vid) :
    st.context.getModelVersion x = t.context.getModelVersion x := by
  subst hx
  exact (Models.recordsOf_eq_iff.mp h.modelRecords).2.1 _ _

/-- A message about another vendor is not seen. -/
theorem SameFor.unseen (hs : (catalog lib addr parse genesis).Reachable st) (h : SameFor vid st t)
    (hact : act.concerns vid = false) (hstep : (catalog lib addr parse genesis).step st act st') :
    SameFor vid st' t := by
  cases act with
  | chain act => cases hact
  | model msg =>
    obtain ⟨models, hmodels, rfl⟩ := hstep
    rcases Models.step_cases hmodels with rfl | ⟨-, hchange⟩
    · exact h
    · have hkeyed := Models.keyed_of_reachable (models_reachable hs)
      have hsame : models.recordsOf vid = st.models.recordsOf vid :=
        hchange.recordsOf_of_ne hkeyed (Ne.symm (of_decide_eq_false hact))
      refine ⟨h.chain, ?_, h.compliance⟩
      exact recordsOf_congr (hsame.trans h.modelRecords) h.vendorInfos
  | vendorInfo msg =>
    obtain ⟨vendorInfos, hvendorInfos, rfl⟩ := hstep
    rcases VendorInfos.step_cases hvendorInfos with rfl | ⟨-, rfl⟩
    · exact h
    · refine ⟨h.chain, ?_, h.compliance⟩
      have hget : (st.vendorInfos.setVendorInfo msg.fields.vendorInfo).getVendorInfo vid =
          st.vendorInfos.getVendorInfo vid :=
        (VendorInfos.getVendorInfo_setVendorInfo _).trans (if_neg (Ne.symm (of_decide_eq_false hact)))
      exact recordsOf_congr h.modelRecords (hget.trans h.vendorInfos)
  | compliance msg =>
    obtain ⟨compliance, hcompliance, rfl⟩ := hstep
    rcases Compliance.step_cases hcompliance with rfl | hchange
    · exact h
    · have hkeyed := Compliance.keyed_of_reachable (compliance_reachable hs)
      have hsame := hchange.sameFor hkeyed (of_decide_eq_false hact)
      exact ⟨h.chain, h.records, hsame.trans h.compliance⟩

/-- What concerns the vendor has the same effect on states that agree on the vendor. -/
theorem SameFor.seen (hs : (catalog lib addr parse genesis).Reachable st)
    (ht : (catalog lib addr parse genesis).Reachable t) (h : SameFor vid st t)
    (hact : act.concerns vid = true) (hstep : (catalog lib addr parse genesis).step st act st') :
    ∃ t', (catalog lib addr parse genesis).step t act t' ∧ SameFor vid st' t' := by
  cases act with
  | chain act =>
    obtain ⟨chain, hchain, rfl⟩ := hstep
    exact ⟨{ t with chain := chain }, ⟨chain, h.chain ▸ hchain, rfl⟩, rfl, h.records, h.compliance⟩
  | model msg =>
    obtain ⟨models, ⟨r, hdeliver⟩, rfl⟩ := hstep
    have hmodels := h.models hs ht
    obtain ⟨models', hdeliver', hsame⟩ :=
      (Models.coupled_handle (of_decide_eq_true hact)).deliver hmodels hmodels hdeliver
    refine ⟨{ t with models := models' }, ⟨models', ⟨r, ?_⟩, rfl⟩, h.chain, ?_, h.compliance⟩
    · rw [← h.accounts]
      exact hdeliver'
    · exact recordsOf_congr hsame.records h.vendorInfos
  | vendorInfo msg =>
    obtain ⟨vendorInfos, ⟨r, hdeliver⟩, rfl⟩ := hstep
    obtain ⟨vendorInfos', hdeliver', hsame⟩ :=
      (VendorInfos.coupled_handle (of_decide_eq_true hact)).deliver h.vendorInfos h.vendorInfos hdeliver
    refine ⟨{ t with vendorInfos := vendorInfos' }, ⟨vendorInfos', ⟨r, ?_⟩, rfl⟩, h.chain, ?_,
      h.compliance⟩
    · rw [← h.accounts]
      exact hdeliver'
    · exact recordsOf_congr h.modelRecords hsame
  | compliance msg =>
    obtain ⟨compliance, ⟨r, hdeliver⟩, rfl⟩ := hstep
    have hvid : msg.subject.vid = vid := of_decide_eq_true hact
    obtain ⟨compliance', hdeliver', hsame⟩ :=
      (Compliance.coupled_handle h.accounts (h.getModelVersion hvid) hvid).deliver h.compliance
        h.compliance hdeliver
    exact ⟨{ t with compliance := compliance' }, ⟨compliance', ⟨r, hdeliver'⟩, rfl⟩, h.chain, h.records,
      hsame⟩

theorem unwinds (vid : Int32) :
    (catalog lib addr parse genesis).Unwinds (SameFor vid) (Act.concerns vid) where
  init := .refl _
  unseen := SameFor.unseen
  seen := SameFor.seen

/-- Messages about the vendor are answered alike in states that agree on the vendor. -/
theorem SameFor.answer (hs : (catalog lib addr parse genesis).Reachable st)
    (ht : (catalog lib addr parse genesis).Reachable t) (h : SameFor vid st t)
    (hact : act.concerns vid = true) : answer addr parse st act = answer addr parse t act := by
  cases act with
  | chain act => rfl
  | model msg =>
    unfold Catalog.answer
    rw [← h.accounts]
    exact (Models.coupled_handle (of_decide_eq_true hact)).answer (h.models hs ht)
  | vendorInfo msg =>
    unfold Catalog.answer
    rw [← h.accounts]
    exact (VendorInfos.coupled_handle (of_decide_eq_true hact)).answer h.vendorInfos
  | compliance msg =>
    have hvid : msg.subject.vid = vid := of_decide_eq_true hact
    exact (Compliance.coupled_handle h.accounts (h.getModelVersion hvid) hvid).answer h.compliance

/-- **Vendors do not interfere.** Take the messages about all other vendors out of a run of the catalog.
The rest is a run too, with the same chain at its end, the same records for the vendor, and the same
answers to all messages about the vendor. -/
theorem vendors_do_not_interfere {acts : List Act}
    (h : (catalog lib addr parse genesis).Run acts st) (vid : Int32) :
    ∃ t, (catalog lib addr parse genesis).Run (acts.filter (Act.concerns vid)) t ∧ SameFor vid st t ∧
      ∀ act, act.concerns vid = true → answer addr parse st act = answer addr parse t act := by
  obtain ⟨t, ht, hsame⟩ := (unwinds vid).purge h
  exact ⟨t, ht, hsame, fun act hact => hsame.answer ⟨_, h⟩ ⟨_, ht⟩ hact⟩

end Runs

/-- A second vendor, with the ID 20. -/
def exampleVendors : List Dclauth.Account :=
  exampleGenesis ++ [{ Dclauth.exampleAccount "cosmos1other" [.vendor] with vendorID := 20 }]

/-- Both vendors have a product with a software version, and the certification center certifies both
versions under one certificate. -/
def exampleShared : List Act :=
  [.model (.createModel ⟨"cosmos1other", 20, 1, 1, "Plug", "Plug", "p1", 0, "", 0, "", 0, "", "", "",
      "", ""⟩)] ++ exampleProduct ++
  [.model (.createModelVersion ⟨"cosmos1other", 20, 1, 7, "7.1", 1, "", true, "", 0, "", 0, 0, 0, ""⟩),
    .compliance (.certifyModel (Compliance.exampleDeclare ⟨20, 1, 7, "zigbee"⟩ "7.1"
      "2020-01-01T00:00:00Z")),
    .compliance (.certifyModel (Compliance.exampleDeclare ⟨10, 1, 7, "zigbee"⟩ "7.0"
      "2021-01-01T00:00:00Z"))]

/-- The certificate lists the versions of both vendors. Without the messages about the second vendor the
version of the first one is certified all the same. -/
theorem example_shared_certificate : ∃ st t,
    (catalog Pki.exampleLib Validators.exampleAddresses Compliance.exampleParse exampleVendors).Run
      exampleShared st ∧
    (st.compliance.getDeviceSoftwareCompliance "CD1").any (fun m => m.complianceInfo.length = 2) ∧
    (catalog Pki.exampleLib Validators.exampleAddresses Compliance.exampleParse exampleVendors).Run
      (exampleShared.filter (Act.concerns 10)) t ∧
    (exampleShared.filter (Act.concerns 10)).length = 3 ∧
    (t.compliance.getComplianceInfo ⟨10, 1, 7, "zigbee"⟩).isSome := by
  obtain ⟨st, hrun, hp⟩ := exists_run_of_foldlM
    (T := catalog Pki.exampleLib Validators.exampleAddresses Compliance.exampleParse exampleVendors)
    (p := fun st => decide ((st.compliance.getDeviceSoftwareCompliance "CD1").any
      (fun m => m.complianceInfo.length = 2) ∧
        (st.compliance.getComplianceInfo ⟨10, 1, 7, "zigbee"⟩).isSome))
    (next Pki.exampleLib Validators.exampleAddresses Compliance.exampleParse 3) step_of_next
    exampleShared (by decide +kernel)
  obtain ⟨hlisted, hcertified⟩ := of_decide_eq_true hp
  obtain ⟨t, ht, hsame, -⟩ := vendors_do_not_interfere hrun 10
  rw [hsame.compliance.complianceInfo _ rfl] at hcertified
  exact ⟨st, t, hrun, hlisted, ht, by decide +kernel, hcertified⟩

end ComplianceLedger.Catalog
