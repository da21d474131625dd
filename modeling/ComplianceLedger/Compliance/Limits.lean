import ComplianceLedger.Compliance.Records

/-!
# The limits of compliance records

The fields of a compliance record have limits, which are checked in the messages only. A record that is
certified or revoked again keeps its owner and its software version string, takes the date and the reason
of the message, and those optional fields that the message gives. So a record is put together from several
messages. It stays within the limits: read as a message that revokes it, or, if it names a certificate,
as one that certifies it, it passes the check of that message. A record without a certificate is one of
a version that was revoked first.

## Main definitions

* `ComplianceInfo.revocation`, `ComplianceInfo.declaration`: the record as a message that revokes or
  certifies
* `ComplianceInfo.Valid`: the record is within the limits
* `ValidRecords bech32 parse s`: all records are

## Main results

* `ComplianceInfo.Valid.revokes`, `ComplianceInfo.Valid.certifies`: what a valid record passes
* `validRecords_step`: messages that pass their checks leave valid records
-/

open Machine Machine.TransitionSystem

namespace ComplianceLedger.Compliance

/-! ## Records as messages -/

/-- The record as a message that revokes the version. -/
def ComplianceInfo.revocation (info : ComplianceInfo) : MsgRevokeModel where
  toSubject := info.toSubject
  signer := info.owner
  softwareVersionString := info.softwareVersionString
  cDVersionNumber := info.cDVersionNumber
  date := info.date
  reason := info.reason

/-- The record as a message that certifies the version. -/
def ComplianceInfo.declaration (info : ComplianceInfo) : MsgDeclareModel where
  toSubject := info.toSubject
  signer := info.owner
  softwareVersionString := info.softwareVersionString
  cDVersionNumber := info.cDVersionNumber
  date := info.date
  reason := info.reason
  programTypeVersion := info.programTypeVersion
  cDCertificateId := info.cDCertificateId
  familyId := info.familyId
  supportedClusters := info.supportedClusters
  compliantPlatformUsed := info.compliantPlatformUsed
  compliantPlatformVersion := info.compliantPlatformVersion
  oSVersion := info.oSVersion
  certificationRoute := info.certificationRoute
  programType := info.programType
  transport := info.transport
  parentChild := info.parentChild

/-- The fields that a message which declares a version provisional or certified has in common with one
that revokes it. -/
def MsgDeclareModel.revocation (msg : MsgDeclareModel) : MsgRevokeModel where
  toSubject := msg.toSubject
  signer := msg.signer
  softwareVersionString := msg.softwareVersionString
  cDVersionNumber := msg.cDVersionNumber
  date := msg.date
  reason := msg.reason

/-- The optional fields. -/
def MsgDeclareModel.optionalFields (msg : MsgDeclareModel) : List String :=
  [msg.programTypeVersion, msg.familyId, msg.supportedClusters, msg.compliantPlatformUsed,
    msg.compliantPlatformVersion, msg.oSVersion, msg.certificationRoute, msg.programType, msg.transport,
    msg.parentChild]

section Definitions

variable (bech32 : Bech32) (parse : String → Option ℤ)

/-- The record is within the limits. It names a certificate, unless the version was revoked first. -/
structure ComplianceInfo.Valid (info : ComplianceInfo) : Prop where
  basic : info.revocation.validateBasic bech32 parse = .ok ()
  optional : ∀ value ∈ info.declaration.optionalFields, value.length ≤ 64
  parentChild : info.parentChild ∈ pfcCertificationRouteList
  certificate : info.cDCertificateId.length ≤ 64
  named : info.cDCertificateId = "" → info.softwareVersionCertificationStatus = codeRevoked

/-- The records are valid. -/
def ValidRecords (s : Store) : Prop :=
  ∀ x info, s.getComplianceInfo x = some info → info.Valid bech32 parse

end Definitions

variable {bech32 : Bech32} {parse : String → Option ℤ} {u : Unit}

/-! ## The checks of messages -/

theorem checkBasic_eq_ok_iff {rules : List Rule} {x : Subject} {signer date : String} :
    checkBasic bech32 parse rules x signer date = .ok u ↔
      (∃ a, bech32.accAddressFromBech32 signer = .ok a) ∧ Kept rules ∧ parse date ≠ none ∧
        x.certificationType ∈ certificationTypesList := by
  unfold checkBasic
  cases bech32.accAddressFromBech32 signer with
  | error e => simp
  | ok a =>
    cases hrules : validate rules with
    | error e =>
      have hbroken : ¬ Kept rules := by
        intro hkept
        have hok : validate rules = .ok () := validate_eq_ok_iff.mpr hkept
        cases hrules.symm.trans hok
      simp [hbroken]
    | ok v =>
      have hkept : Kept rules := validate_eq_ok_iff.mp hrules
      simp [hkept, ite_eq_iff]

/-- The name of the date is for the error only. -/
theorem kept_commonRules_iff {x : Subject} {signer softwareVersionString date reason : String}
    {cDVersionNumber : UInt32} (dateField dateField' : String) :
    Kept (commonRules x signer softwareVersionString dateField date reason cDVersionNumber) ↔
      Kept (commonRules x signer softwareVersionString dateField' date reason cDVersionNumber) := by
  simp only [commonRules, kept_append, kept_cons, required]

theorem MsgDeclareModel.kept_rules_iff {msg : MsgDeclareModel} {dateField : String} :
    Kept (msg.rules dateField) ↔
      Kept (commonRules msg.toSubject msg.signer msg.softwareVersionString dateField msg.date msg.reason
        msg.cDVersionNumber) ∧
      (msg.cDCertificateId ≠ "" ∧ msg.cDCertificateId.length ≤ 64) ∧
      ∀ value ∈ msg.optionalFields, value.length ≤ 64 := by
  simp only [rules, kept_append, kept_cons, kept_nil, and_true, maxLength, required, optionalFields,
    List.forall_mem_cons, decide_eq_true_eq]
  tauto

/-- The fields of a message that declares a version pass the check of one that revokes it; the rest of
its check is about the certificate and the optional fields. -/
theorem MsgDeclareModel.validateBasic_eq_ok_iff {msg : MsgDeclareModel} {dateField : String} :
    msg.validateBasic bech32 parse dateField = .ok u ↔
      msg.revocation.validateBasic bech32 parse = .ok () ∧
        (msg.cDCertificateId ≠ "" ∧ msg.cDCertificateId.length ≤ 64) ∧
        (∀ value ∈ msg.optionalFields, value.length ≤ 64) ∧
        msg.parentChild ∈ pfcCertificationRouteList := by
  have hsplit : msg.validateBasic bech32 parse dateField = .ok u ↔
      checkBasic bech32 parse (msg.rules dateField) msg.toSubject msg.signer msg.date = .ok () ∧
        msg.parentChild ∈ pfcCertificationRouteList := by
    unfold validateBasic
    cases checkBasic bech32 parse (msg.rules dateField) msg.toSubject msg.signer msg.date with
    | error e => simp
    | ok v => by_cases hparent : msg.parentChild ∈ pfcCertificationRouteList <;> simp [hparent]
  rw [hsplit, MsgRevokeModel.validateBasic, checkBasic_eq_ok_iff, checkBasic_eq_ok_iff, kept_rules_iff,
    kept_commonRules_iff dateField "RevocationDate"]
  simp only [revocation]
  tauto

/-- A message with the fields of one that passes its check, and the date and the reason of another. -/
theorem validateBasic_withDate {m m' : MsgRevokeModel} (h : m.validateBasic bech32 parse = .ok ())
    (h' : m'.validateBasic bech32 parse = .ok ()) :
    { m with date := m'.date, reason := m'.reason }.validateBasic bech32 parse = .ok () := by
  rw [MsgRevokeModel.validateBasic, checkBasic_eq_ok_iff] at h h' ⊢
  obtain ⟨hsigner, hrules, -, htype⟩ := h
  obtain ⟨-, hrules', hdate', -⟩ := h'
  refine ⟨hsigner, ?_, hdate', htype⟩
  simp only [commonRules, kept_append, kept_cons] at hrules hrules' ⊢
  exact ⟨hrules.1, hrules'.2.1, hrules.2.2.1, hrules.2.2.2.1, hrules'.2.2.2.2⟩

/-! ## What a valid record passes -/

section Passes

variable {info : ComplianceInfo}

/-- A valid record passes the check of a message that revokes its version. -/
theorem ComplianceInfo.Valid.revokes (h : info.Valid bech32 parse) :
    (Msg.revokeModel info.revocation).validateBasic bech32 parse = .ok () := h.basic

/-- With a certificate it passes the check of a message that certifies its version. -/
theorem ComplianceInfo.Valid.certifies (h : info.Valid bech32 parse) (hnamed : info.cDCertificateId ≠ "") :
    (Msg.certifyModel info.declaration).validateBasic bech32 parse = .ok () :=
  MsgDeclareModel.validateBasic_eq_ok_iff.mpr
    ⟨h.basic, ⟨hnamed, h.certificate⟩, h.optional, h.parentChild⟩

end Passes

/-! ## New records and later ones -/

section Records

variable {msg : MsgDeclareModel} {d : ComplianceInfo} {dateField : String}

/-- An optional field that the message leaves empty is kept. -/
theorem optionalFields_setOptionalFields (msg : MsgDeclareModel) (d : ComplianceInfo) :
    (d.setOptionalFields msg).declaration.optionalFields =
      List.zipWith orKeep msg.optionalFields d.declaration.optionalFields := rfl

theorem ComplianceInfo.Valid.setOptionalFields (h : d.Valid bech32 parse)
    (hmsg : msg.validateBasic bech32 parse dateField = .ok ()) :
    (d.setOptionalFields msg).Valid bech32 parse := by
  obtain ⟨-, -, hoptional, hparent⟩ := MsgDeclareModel.validateBasic_eq_ok_iff.mp hmsg
  refine ⟨h.basic, ?_, ?_, h.certificate, h.named⟩
  · intro value hvalue
    rw [optionalFields_setOptionalFields, ← List.map_uncurry_zip_eq_zipWith, List.mem_map] at hvalue
    obtain ⟨⟨new, old⟩, hmem, rfl⟩ := hvalue
    obtain ⟨hnew, hold⟩ := List.of_mem_zip hmem
    dsimp only [Function.uncurry]
    unfold orKeep
    split
    · exact hoptional new hnew
    · exact h.optional old hold
  · change orKeep msg.parentChild d.parentChild ∈ pfcCertificationRouteList
    unfold orKeep
    split
    · exact hparent
    · exact h.parentChild

theorem valid_provisionalInfo (hmsg : msg.validateBasic bech32 parse dateField = .ok ()) :
    msg.provisionalInfo.Valid bech32 parse := by
  obtain ⟨hbasic, ⟨hnamed, hcertificate⟩, hoptional, hparent⟩ :=
    MsgDeclareModel.validateBasic_eq_ok_iff.mp hmsg
  exact ⟨hbasic, hoptional, hparent, hcertificate, fun hnone => absurd hnone hnamed⟩

/-- A record that is certified again takes the date, the reason and the certificate of the message. -/
theorem ComplianceInfo.Valid.setCertifiedStatus (h : d.Valid bech32 parse)
    (hmsg : msg.validateBasic bech32 parse dateField = .ok ()) :
    (d.setCertifiedStatus msg.date msg.reason msg.cDCertificateId).Valid bech32 parse := by
  obtain ⟨hbasic, ⟨hnamed, hcertificate⟩, -, -⟩ := MsgDeclareModel.validateBasic_eq_ok_iff.mp hmsg
  have hdate := validateBasic_withDate h.basic hbasic
  exact ⟨hdate, h.optional, h.parentChild, hcertificate, fun hnone => absurd hnone hnamed⟩

/-- A record that is revoked takes the date and the reason of the message. -/
theorem ComplianceInfo.Valid.setRevokedStatus {msg : MsgRevokeModel} (h : d.Valid bech32 parse)
    (hmsg : msg.validateBasic bech32 parse = .ok ()) :
    (d.setRevokedStatus msg.date msg.reason).Valid bech32 parse :=
  ⟨validateBasic_withDate h.basic hmsg, h.optional, h.parentChild, h.certificate, fun _ => rfl⟩

/-- A record without optional fields is within their limits. -/
theorem valid_newRevokedInfo {msg : MsgRevokeModel} (hmsg : msg.validateBasic bech32 parse = .ok ()) :
    msg.newRevokedInfo.Valid bech32 parse := by
  refine ⟨hmsg, ?_, ?_, Nat.zero_le _, fun _ => rfl⟩
  · change ∀ value ∈ List.replicate 10 "", value.length ≤ 64
    decide
  · change "" ∈ pfcCertificationRouteList
    decide

theorem valid_newCertifiedInfo (hmsg : msg.validateBasic bech32 parse dateField = .ok ()) :
    msg.newCertifiedInfo.Valid bech32 parse := by
  obtain ⟨hbasic, ⟨hnamed, hcertificate⟩, -, -⟩ := MsgDeclareModel.validateBasic_eq_ok_iff.mp hmsg
  refine ⟨hbasic, ?_, ?_, hcertificate, fun hnone => absurd hnone hnamed⟩
  · change ∀ value ∈ List.replicate 10 "", value.length ≤ 64
    decide
  · change "" ∈ pfcCertificationRouteList
    decide

/-- The record of a version that is certified, with a record or without. -/
theorem valid_certifiedInfo {old : Option ComplianceInfo} {info : ComplianceInfo}
    (hold : ∀ d, old = some d → d.Valid bech32 parse)
    (hmsg : msg.validateBasic bech32 parse dateField = .ok ())
    (hinfo : msg.certifiedInfo parse old = .ok info) : info.Valid bech32 parse := by
  cases old with
  | none =>
    obtain rfl := Except.ok.inj hinfo
    exact (valid_newCertifiedInfo hmsg).setOptionalFields hmsg
  | some d =>
    simp only [MsgDeclareModel.certifiedInfo] at hinfo
    split at hinfo
    · cases hinfo
    · split at hinfo
      · cases hinfo
      · obtain rfl := Except.ok.inj hinfo
        exact ((hold d rfl).setCertifiedStatus hmsg).setOptionalFields hmsg

end Records

/-! ## Runs -/

section Runs

variable {ctx : Context} {s s' : Store} {msg : Msg}

theorem ValidRecords.empty : ValidRecords bech32 parse Store.empty := fun _ _ h => nomatch h

/-- An accepted message that passes its check writes one valid record. -/
theorem Change.exists_valid (hs : ValidRecords bech32 parse s)
    (hrules : msg.validateBasic bech32 parse = .ok ()) (h : Change parse ctx s msg s') :
    ∃ info : ComplianceInfo, info.Valid bech32 parse ∧
      s'.complianceInfo = s.complianceInfo.set (complianceInfoKey info.toSubject) info := by
  cases h with
  | provisioned hnone => exact ⟨_, valid_provisionalInfo hrules, rfl⟩
  | certified _ _ hinfo => exact ⟨_, valid_certifiedInfo (hs _) hrules hinfo, rfl⟩
  | revokedFirst _ _ hnone => exact ⟨_, valid_newRevokedInfo hrules, rfl⟩
  | revoked _ _ hfound hinfo =>
    obtain ⟨-, -, rfl⟩ := revokedInfo_eq_ok hinfo
    refine ⟨_, (hs _ _ hfound).setRevokedStatus hrules, ?_⟩
    simp [Store.setRevokedModel, Store.setComplianceInfo, Store.setProvisionalModel,
      Store.setCertifiedModel]

/-- **Messages that pass their checks leave valid records.** -/
theorem validRecords_step {a : Context × Msg} (hs : ValidRecords bech32 parse s)
    (hstep : (compliance bech32 parse).step s a s') (hrules : a.2.validateBasic bech32 parse = .ok ()) :
    ValidRecords bech32 parse s' := by
  rcases step_cases hstep with rfl | hchange
  · exact hs
  · obtain ⟨info, hvalid, hset⟩ := hchange.exists_valid hs hrules
    intro x info' hget
    rw [Store.getComplianceInfo, hset, KVStore.get_set] at hget
    split at hget
    · obtain rfl := Option.some.inj hget
      exact hvalid
    · exact hs x info' hget

end Runs

end ComplianceLedger.Compliance
