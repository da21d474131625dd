import ComplianceLedger.Catalog.Messages
import ComplianceLedger.Compliance.Limits
import ComplianceLedger.Models.Limits

/-!
# The records of the catalog

Messages are checked before they are executed. So what the three modules of the catalog store stays
within the limits of the messages, also where a record is put together from several of them.

## Main definitions

* `ValidRecords env st`: the records of the three modules are valid

## Main results

* `validRecords_of_reachable`: lawful steps leave valid records
* `stored_records_pass`: every record, read as a message that creates it, passes its check
-/

open Machine Machine.TransitionSystem

namespace ComplianceLedger.Catalog

/-- The records of the three modules of the catalog are valid. -/
structure ValidRecords (env : Env) (st : State) : Prop where
  models : Models.ValidRecords env.addr.acc env.isURL st.models
  vendorInfos : VendorInfos.ValidRecords env.addr.acc env.isURL st.vendorInfos
  compliance : Compliance.ValidRecords env.addr.acc env.parse st.compliance

variable {env : Env} {genesis : List Dclauth.Account} {st : State}

/-- **Lawful steps leave valid records.** -/
theorem validRecords_of_reachable (h : (env.catalog genesis).Reachable st) : ValidRecords env st := by
  refine h.induction ⟨.empty, .empty, .empty⟩ ?_
  rintro st act st' hr hst ⟨hstep, hlawful⟩
  cases act with
  | chain act =>
    obtain ⟨chain, -, rfl⟩ := hstep
    exact ⟨hst.models, hst.vendorInfos, hst.compliance⟩
  | model msg =>
    obtain ⟨models, hmodels, rfl⟩ := hstep
    have hkeyed := Models.keyed_of_reachable (models_reachable hr.of_restrict)
    exact ⟨Models.validRecords_step hkeyed hst.models hmodels hlawful, hst.vendorInfos,
      hst.compliance⟩
  | vendorInfo msg =>
    obtain ⟨vendorInfos, hvendorInfos, rfl⟩ := hstep
    exact ⟨hst.models, VendorInfos.validRecords_step hst.vendorInfos hvendorInfos hlawful,
      hst.compliance⟩
  | compliance msg =>
    obtain ⟨compliance, hcompliance, rfl⟩ := hstep
    exact ⟨hst.models, hst.vendorInfos,
      Compliance.validRecords_step hst.compliance hcompliance hlawful⟩

/-- **What is stored passes the checks of messages.** Start from a genesis of accounts only, and let
messages pass their checks. Then a stored model, version or vendor info lies under its own IDs, and a
message that creates it with the stored fields passes its check, whatever updates have led to it. A
compliance record lies under its own subject, a message that revokes it passes its check, and so does
one that certifies it, unless the version was revoked without having been certified. -/
theorem stored_records_pass (h : (env.catalog genesis).Reachable st) :
    (∀ vid pid model, st.models.getModel vid pid = some model →
      (model.vid = vid ∧ model.pid = pid) ∧
      (Msg.model (.createModel model.message)).validateBasic env = .ok ()) ∧
    (∀ vid pid sv version, st.models.getModelVersion vid pid sv = some version →
      (version.vid = vid ∧ version.pid = pid ∧ version.softwareVersion = sv) ∧
      (Msg.model (.createModelVersion version.message)).validateBasic env = .ok ()) ∧
    (∀ vid info, st.vendorInfos.getVendorInfo vid = some info → info.vendorID = vid ∧
      (Msg.vendorInfo (.createVendorInfo info.message)).validateBasic env = .ok ()) ∧
    (∀ x info, st.compliance.getComplianceInfo x = some info → info.toSubject = x ∧
      (Msg.compliance (.revokeModel info.revocation)).validateBasic env = .ok () ∧
      ((Msg.compliance (.certifyModel info.declaration)).validateBasic env = .ok () ∨
        info.cDCertificateId = "" ∧
          info.softwareVersionCertificationStatus = Compliance.codeRevoked)) := by
  have hvalid := validRecords_of_reachable h
  have hmodels := Models.keyed_of_reachable (models_reachable h.of_restrict)
  have hcompliance := Compliance.keyed_of_reachable (compliance_reachable h.of_restrict)
  refine ⟨fun vid pid model hget => ?_, fun vid pid sv version hget => ?_, fun vid info hget => ?_,
    fun x info hget => ?_⟩
  · exact ⟨hmodels.of_getModel hget, hvalid.models.model vid pid model hget⟩
  · exact ⟨hmodels.of_getModelVersion hget, hvalid.models.modelVersion vid pid sv version hget⟩
  · obtain ⟨hkey, hinfo⟩ := hvalid.vendorInfos _ info hget
    exact ⟨(VendorInfos.vendorInfoKey_inj.mp hkey).symm, hinfo⟩
  · -- a record without the ID of a certificate cannot be certified as it is
    have hinfo := hvalid.compliance x info hget
    refine ⟨hcompliance.subject hget, hinfo.revokes, ?_⟩
    by_cases hnamed : info.cDCertificateId = ""
    · exact .inr ⟨hnamed, hinfo.named hnamed⟩
    · exact .inl (hinfo.certifies hnamed)

/-- The vendor renames its model, in a message that leaves everything else empty. -/
def exampleRenamed : List Act :=
  exampleProduct ++ [.model (Models.exampleRename 1 "Lamp 2")]

/-- The renamed model passes the check of a new one, which its update alone does not. -/
theorem example_renamed : ∃ st model, (exampleEnv.catalog exampleAccounts).Reachable st ∧
    st.models.getModel 10 1 = some model ∧ model.productName = "Lamp 2" ∧
    (Msg.model (.createModel model.message)).validateBasic exampleEnv = .ok () := by
  obtain ⟨st, hreachable, hp⟩ := exists_reachable_of_foldlM (T := exampleEnv.catalog exampleAccounts)
    (p := fun st => (st.models.getModel 10 1).any fun (model : Models.Model) =>
      model.productName = "Lamp 2")
    exampleNext step_of_exampleNext exampleRenamed (by decide +kernel)
  rw [Option.any_eq_true] at hp
  obtain ⟨model, hget, hname⟩ := hp
  have hpass := (stored_records_pass hreachable).1 10 1 model hget
  exact ⟨st, model, hreachable, hget, of_decide_eq_true hname, hpass.2⟩

end ComplianceLedger.Catalog
