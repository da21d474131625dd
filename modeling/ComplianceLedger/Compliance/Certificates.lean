import ComplianceLedger.Compliance.Records
import ComplianceLedger.Machine.Listing

/-!
# The records of a certificate

A `DeviceSoftwareCompliance` collects the records that are certified under one certificate ID. It is
filled when a model is certified and emptied when it is revoked, by two notions of identity: a record
is stored by vendor, product, software version and type of certification, and it is removed from its
certificate by vendor, product, software version and software version string. The two agree only where
the fields of the second single out the record among those of the certificate.

This can fail in two ways. Two types of certification of one software version may share a certificate,
and then revoking the one that was certified later removes the other one. A record that was made
provisional under another string keeps that string, and then it is not found when it is revoked.

## Main definitions

* `Store.certifiedBy s id`: the records that are certified under a certificate, as a table
* `FindsOwn s msg`: the record that a revocation looks for among those of its certificate is its own
* `CertificateExact s id`: the certificate has exactly the records that are certified under it

## Main results

* `certificates_exact`: in the runs in which revocations find their own records, every certificate is
  exact
* `example_other_type_removed`: a run in which a revocation removes the record of another type
-/

open Machine Machine.TransitionSystem

namespace ComplianceLedger.Compliance

variable {bech32 : Bech32} {parse : String → Option ℤ} {ctx : Context} {s s' : Store} {msg : Msg}
  {x : Subject} {d info : ComplianceInfo} {id : String}

/-! ## The records that are certified under a certificate -/

/-- The record is certified under the certificate. -/
def ComplianceInfo.isCertifiedBy (id : String) (d : ComplianceInfo) : Bool :=
  d.softwareVersionCertificationStatus = codeCertified ∧ d.cDCertificateId = id

/-- The record of a subject, if it is certified under the certificate. -/
def Store.certifiedBy (s : Store) (id : String) (x : Subject) : Option ComplianceInfo :=
  (s.getComplianceInfo x).filter (ComplianceInfo.isCertifiedBy id)

theorem isCertifiedBy_iff : d.isCertifiedBy id = true ↔
    d.softwareVersionCertificationStatus = codeCertified ∧ d.cDCertificateId = id :=
  decide_eq_true_iff

theorem isCertifiedBy_eq_false (h : d.softwareVersionCertificationStatus ≠ codeCertified) :
    d.isCertifiedBy id = false :=
  decide_eq_false fun hd => h hd.1

theorem certifiedBy_eq_some_iff :
    s.certifiedBy id x = some d ↔ s.getComplianceInfo x = some d ∧ d.isCertifiedBy id = true :=
  Option.filter_eq_some_iff

theorem certifiedBy_eq_none (h : s.getComplianceInfo x = none) : s.certifiedBy id x = none := by
  rw [Store.certifiedBy, h, Option.filter_none]

theorem certifiedBy_eq_none_of_found (h : s.getComplianceInfo x = some d)
    (hd : d.isCertifiedBy id = false) : s.certifiedBy id x = none := by
  rw [Store.certifiedBy, h, Option.filter_some, hd]
  rfl

/-- Writing a record changes the table at its subject. -/
theorem certifiedBy_setComplianceInfo (info : ComplianceInfo) :
    (s.setComplianceInfo info).certifiedBy id = Function.update (s.certifiedBy id) info.toSubject
      (if info.isCertifiedBy id then some info else none) := by
  funext x
  have hget : (s.setComplianceInfo info).getComplianceInfo x =
      if x = info.toSubject then some info else s.getComplianceInfo x := by
    simp only [Store.getComplianceInfo, Store.setComplianceInfo, KVStore.get_set, complianceInfoKey,
      subjectKey_inj]
  unfold Store.certifiedBy
  rw [hget, Function.update_apply]
  split
  · exact Option.filter_some
  · rfl

/-- Writing a record that is not certified under the certificate, in the place of one that is not
either, keeps the table. -/
theorem certifiedBy_setComplianceInfo_of_not (hinfo : info.isCertifiedBy id = false)
    (hold : s.certifiedBy id info.toSubject = none) :
    (s.setComplianceInfo info).certifiedBy id = s.certifiedBy id := by
  rw [certifiedBy_setComplianceInfo, hinfo, Function.update_eq_self_iff]
  exact hold.symm

/-! ## Certificates -/

/-- Every certificate lies under the key of its ID. -/
def KeyedCertificates (s : Store) : Prop :=
  s.deviceSoftwareCompliance.All fun k m => k = deviceSoftwareComplianceKey m.cDCertificateId

theorem KeyedCertificates.of_get (h : KeyedCertificates s) {m : DeviceSoftwareCompliance}
    (hget : s.getDeviceSoftwareCompliance id = some m) : m.cDCertificateId = id :=
  (deviceSoftwareComplianceKey_injective (h _ _ hget)).symm

theorem getDeviceSoftwareCompliance_set (m : DeviceSoftwareCompliance) :
    (s.setDeviceSoftwareCompliance m).getDeviceSoftwareCompliance id =
      if id = m.cDCertificateId then some m else s.getDeviceSoftwareCompliance id := by
  simp only [Store.getDeviceSoftwareCompliance, Store.setDeviceSoftwareCompliance, KVStore.get_set,
    deviceSoftwareComplianceKey_injective.eq_iff]

theorem getDeviceSoftwareCompliance_remove (id' : String) :
    (s.removeDeviceSoftwareCompliance id').getDeviceSoftwareCompliance id =
      if id = id' then none else s.getDeviceSoftwareCompliance id := by
  simp only [Store.getDeviceSoftwareCompliance, Store.removeDeviceSoftwareCompliance,
    KVStore.get_delete, deviceSoftwareComplianceKey_injective.eq_iff]

/-- The records of a certificate, none if it does not exist. -/
def Store.recordsOf (s : Store) (id : String) : List ComplianceInfo :=
  ((s.getDeviceSoftwareCompliance id).map DeviceSoftwareCompliance.complianceInfo).getD []

/-- Certifying appends a record to those of the certificate of the message. -/
theorem getDeviceSoftwareCompliance_addToCertificate (hkeyed : KeyedCertificates s)
    (msg : MsgDeclareModel) :
    (s.addToCertificate msg info).getDeviceSoftwareCompliance id =
      if id = msg.cDCertificateId then
        some ⟨msg.cDCertificateId, s.recordsOf msg.cDCertificateId ++ [info]⟩
      else s.getDeviceSoftwareCompliance id := by
  unfold Store.addToCertificate Store.recordsOf
  rw [getDeviceSoftwareCompliance_set]
  cases hget : s.getDeviceSoftwareCompliance msg.cDCertificateId with
  | none => rfl
  | some m => simp only [hkeyed.of_get hget, Option.map_some, Option.getD_some]

/-- Revoking writes what is left of a certificate, or removes it if nothing is. -/
theorem getDeviceSoftwareCompliance_removeFromCertificate (msg : MsgRevokeModel) :
    (s.removeFromCertificate msg info).getDeviceSoftwareCompliance id =
      if id = (s.withoutRevoked msg info).cDCertificateId then
        if (s.withoutRevoked msg info).complianceInfo = [] then none
        else some (s.withoutRevoked msg info)
      else s.getDeviceSoftwareCompliance id := by
  unfold Store.removeFromCertificate
  simp only [List.length_eq_zero_iff]
  split
  · rw [getDeviceSoftwareCompliance_remove, getDeviceSoftwareCompliance_set]
    split <;> rfl
  · rw [getDeviceSoftwareCompliance_set]

/-- The search and the removal by index are one removal. -/
theorem withoutRevoked_of_get (msg : MsgRevokeModel) {m : DeviceSoftwareCompliance}
    (hget : s.getDeviceSoftwareCompliance info.cDCertificateId = some m) :
    s.withoutRevoked msg info = ⟨m.cDCertificateId, m.complianceInfo.eraseP
      (DeviceSoftwareCompliance.isRecordOf msg.toSubject msg.softwareVersionString)⟩ := by
  unfold Store.withoutRevoked DeviceSoftwareCompliance.isComplianceInfoExist
  simp only [hget, List.eraseP_eq_eraseIdx]
  cases m.complianceInfo.findIdx?
    (DeviceSoftwareCompliance.isRecordOf msg.toSubject msg.softwareVersionString) <;> rfl

theorem withoutRevoked_of_get_none (msg : MsgRevokeModel)
    (hget : s.getDeviceSoftwareCompliance info.cDCertificateId = none) :
    s.withoutRevoked msg info = ⟨"", []⟩ := by
  simp only [Store.withoutRevoked, hget]

theorem keyedCertificates_change (hkeyed : KeyedCertificates s) (h : Change parse ctx s msg s') :
    KeyedCertificates s' := by
  cases h with
  | provisioned | revokedFirst => exact hkeyed
  | certified =>
    have hset : ∀ m, KeyedCertificates (s.setDeviceSoftwareCompliance m) :=
      fun _ => KVStore.All.set hkeyed rfl
    exact hset _
  | @revoked msg _ _ info =>
    have hset : ∀ m, KeyedCertificates (s.setDeviceSoftwareCompliance m) :=
      fun _ => KVStore.All.set hkeyed rfl
    have hremove : KeyedCertificates (s.removeFromCertificate msg info) := by
      unfold Store.removeFromCertificate
      dsimp only
      split
      · exact KVStore.All.delete (hset _) _
      · exact hset _
    exact hremove

/-! ## Revocations -/

/-- Among the records that are certified under the certificate of its record, a revocation finds the
one of its own subject and no other. -/
def FindsOwn (s : Store) : Msg → Prop
  | .revokeModel msg => ∀ d ∈ s.getComplianceInfo msg.toSubject, ∀ info ∈ s.complianceInfo.values,
      info.isCertifiedBy d.cDCertificateId = true →
        (DeviceSoftwareCompliance.isRecordOf msg.toSubject msg.softwareVersionString info = true ↔
          info.toSubject = msg.toSubject)
  | _ => True

instance : Decidable (FindsOwn s msg) := by
  unfold FindsOwn
  split <;> infer_instance

/-- The runs of messages that keep their rules in which revocations find their own records. -/
abbrev finding (bech32 : Bech32) (parse : String → Option ℤ) :
    TransitionSystem Store (Context × Msg) :=
  (compliance bech32 parse).restrict fun s a =>
    a.2.validateBasic bech32 parse = .ok () ∧ FindsOwn s a.2

/-! ## The certificates list the certified records -/

/-- Every certificate lists the records that are certified under it, and none is certified without. -/
structure Certified (s : Store) : Prop where
  keyed : Keyed s
  keyedCertificates : KeyedCertificates s
  named : ∀ x, s.certifiedBy "" x = none
  listed : ∀ id, Indexed ComplianceInfo.toSubject DeviceSoftwareCompliance.complianceInfo
    (s.certifiedBy id) (s.getDeviceSoftwareCompliance id)

theorem Certified.empty : Certified Store.empty where
  keyed := Keyed.empty
  keyedCertificates := KVStore.All.empty
  named _ := rfl
  listed _ _ := rfl

/-- A record that is certified takes the place of none or of one that is not. -/
theorem certifiedInfo_eq_ok {msg : MsgDeclareModel} {old : Option ComplianceInfo}
    (h : msg.certifiedInfo parse old = .ok info) :
    info.isCertifiedBy msg.cDCertificateId = true ∧
      ∀ d, old = some d → d.softwareVersionCertificationStatus ≠ codeCertified := by
  cases old with
  | none =>
    obtain rfl := Except.ok.inj h
    exact ⟨isCertifiedBy_iff.mpr ⟨rfl, rfl⟩, fun d hd => nomatch hd⟩
  | some d =>
    unfold MsgDeclareModel.certifiedInfo at h
    simp only at h
    split at h
    · cases h
    · next hstatus =>
      split at h
      · cases h
      · obtain rfl := Except.ok.inj h
        refine ⟨isCertifiedBy_iff.mpr ⟨rfl, rfl⟩, fun d' hd => ?_⟩
        obtain rfl := Option.some.inj hd
        exact hstatus

/-- The tables after a certification. -/
theorem certifiedBy_certified (hkeyed : Keyed s) {msg : MsgDeclareModel}
    (hinfo : msg.certifiedInfo parse (s.getComplianceInfo msg.toSubject) = .ok info) (id : String) :
    s.certifiedBy id info.toSubject = none ∧
      (s.setComplianceInfo info).certifiedBy id =
        if id = msg.cDCertificateId then
          Function.update (s.certifiedBy id) info.toSubject (some info)
        else s.certifiedBy id := by
  obtain ⟨hcertified, hother⟩ := certifiedInfo_eq_ok hinfo
  have hsubject : info.toSubject = msg.toSubject :=
    (recorded_certified hinfo).subject hkeyed
  have hold : s.certifiedBy id info.toSubject = none := by
    rw [hsubject]
    cases hfound : s.getComplianceInfo msg.toSubject with
    | none => exact certifiedBy_eq_none hfound
    | some d => exact certifiedBy_eq_none_of_found hfound (isCertifiedBy_eq_false (hother d hfound))
  refine ⟨hold, ?_⟩
  split
  · next hid =>
    subst hid
    rw [certifiedBy_setComplianceInfo, if_pos hcertified]
  · next hid =>
    apply certifiedBy_setComplianceInfo_of_not _ hold
    refine decide_eq_false fun h => hid ?_
    rw [← h.2, (isCertifiedBy_iff.mp hcertified).2]

theorem Certified.certify (h : Certified s) {msg : MsgDeclareModel} (hid : msg.cDCertificateId ≠ "")
    (hinfo : msg.certifiedInfo parse (s.getComplianceInfo msg.toSubject) = .ok info) :
    (∀ x, (s.setComplianceInfo info).certifiedBy "" x = none) ∧
      ∀ id, Indexed ComplianceInfo.toSubject DeviceSoftwareCompliance.complianceInfo
        ((s.setComplianceInfo info).certifiedBy id)
        ((s.addToCertificate msg info).getDeviceSoftwareCompliance id) := by
  constructor
  · intro x
    rw [(certifiedBy_certified h.keyed hinfo "").2, if_neg (Ne.symm hid)]
    exact h.named x
  · intro id
    obtain ⟨hold, htable⟩ := certifiedBy_certified h.keyed hinfo id
    rw [htable, getDeviceSoftwareCompliance_addToCertificate h.keyedCertificates]
    split
    · next heq =>
      subst heq
      exact .some ((h.listed _).lists.append hold) (by simp)
    · exact h.listed id

/-- The table of a certificate after a record is revoked. -/
theorem certifiedBy_setRevokedStatus (hkeyed : Keyed s) (hfound : s.getComplianceInfo x = some d)
    (date reason id : String) :
    (s.setComplianceInfo (d.setRevokedStatus date reason)).certifiedBy id =
      Function.update (s.certifiedBy id) x none := by
  have hsubject : (d.setRevokedStatus date reason).toSubject = x := by
    rw [← hkeyed.subject hfound]
    rfl
  have hrevoked : (d.setRevokedStatus date reason).isCertifiedBy id = false :=
    isCertifiedBy_eq_false revoked_ne_certified
  rw [certifiedBy_setComplianceInfo, hsubject, hrevoked]
  rfl

/-- The search among the records of the certificate removes the one that is revoked. -/
theorem Certified.lists_eraseP (h : Certified s) {msg : MsgRevokeModel} {m : DeviceSoftwareCompliance}
    (hfinds : FindsOwn s (.revokeModel msg)) (hfound : s.getComplianceInfo msg.toSubject = some d)
    (hget : s.getDeviceSoftwareCompliance d.cDCertificateId = some m) :
    Lists ComplianceInfo.toSubject
      (Function.update (s.certifiedBy d.cDCertificateId) msg.toSubject none)
      (m.complianceInfo.eraseP
        (DeviceSoftwareCompliance.isRecordOf msg.toSubject msg.softwareVersionString)) := by
  have hlisted := h.listed d.cDCertificateId
  rw [hget] at hlisted
  refine hlisted.2.eraseP fun info hinfo => ?_
  obtain ⟨hstored, hcertified⟩ := certifiedBy_eq_some_iff.mp (hlisted.2.mem_iff.mp hinfo)
  exact hfinds d hfound info (KVStore.mem_values_iff.mpr ⟨_, hstored⟩) hcertified

/-- The certificate of a record that is revoked lists the others. -/
theorem Certified.revoke_own (h : Certified s) {msg : MsgRevokeModel}
    (hfinds : FindsOwn s (.revokeModel msg)) (hfound : s.getComplianceInfo msg.toSubject = some d)
    (hid : info.cDCertificateId = d.cDCertificateId) :
    Indexed ComplianceInfo.toSubject DeviceSoftwareCompliance.complianceInfo
      (Function.update (s.certifiedBy d.cDCertificateId) msg.toSubject none)
      ((s.removeFromCertificate msg info).getDeviceSoftwareCompliance d.cDCertificateId) := by
  rw [getDeviceSoftwareCompliance_removeFromCertificate]
  cases hget : s.getDeviceSoftwareCompliance d.cDCertificateId with
  | none =>
    -- the source goes on with the empty certificate, which does not exist
    have hlisted := h.listed d.cDCertificateId
    rw [hget] at hlisted
    have hsame : Function.update (s.certifiedBy d.cDCertificateId) msg.toSubject none =
        s.certifiedBy d.cDCertificateId := Function.update_eq_self_iff.mpr (hlisted _).symm
    rw [withoutRevoked_of_get_none msg (hid ▸ hget), hsame]
    split <;> exact hlisted
  | some m =>
    rw [withoutRevoked_of_get msg (hid ▸ hget)]
    have herased := h.lists_eraseP hfinds hfound hget
    rw [if_pos (h.keyedCertificates.of_get hget).symm]
    split
    · next hnil => exact .none (hnil ▸ herased)
    · next hne => exact .some herased hne

/-- The other certificates list what they listed. -/
theorem Certified.revoke_other (h : Certified s) {msg : MsgRevokeModel} {id : String}
    (hid : info.cDCertificateId = d.cDCertificateId) (hne : id ≠ d.cDCertificateId) :
    Indexed ComplianceInfo.toSubject DeviceSoftwareCompliance.complianceInfo (s.certifiedBy id)
      ((s.removeFromCertificate msg info).getDeviceSoftwareCompliance id) := by
  rw [getDeviceSoftwareCompliance_removeFromCertificate]
  cases hget : s.getDeviceSoftwareCompliance d.cDCertificateId with
  | none =>
    rw [withoutRevoked_of_get_none msg (hid ▸ hget)]
    split
    · next hempty =>
      subst hempty
      exact h.named
    · exact h.listed id
  | some m =>
    have hm := h.keyedCertificates.of_get hget
    rw [withoutRevoked_of_get msg (hid ▸ hget), if_neg fun heq => hne (heq.trans hm)]
    exact h.listed id

/-- A record is revoked, and its certificate lists the others. -/
theorem Certified.revoke (h : Certified s) {msg : MsgRevokeModel}
    (hfinds : FindsOwn s (.revokeModel msg)) (hfound : s.getComplianceInfo msg.toSubject = some d)
    (hinfo : info = d.setRevokedStatus msg.date msg.reason) :
    (∀ x, (s.setComplianceInfo info).certifiedBy "" x = none) ∧
      ∀ id, Indexed ComplianceInfo.toSubject DeviceSoftwareCompliance.complianceInfo
        ((s.setComplianceInfo info).certifiedBy id)
        ((s.removeFromCertificate msg info).getDeviceSoftwareCompliance id) := by
  have htable : ∀ id, (s.setComplianceInfo info).certifiedBy id =
      Function.update (s.certifiedBy id) msg.toSubject none := fun id =>
    hinfo ▸ certifiedBy_setRevokedStatus h.keyed hfound msg.date msg.reason id
  have hid : info.cDCertificateId = d.cDCertificateId := by rw [hinfo]; rfl
  -- a table that does not have the record does not change
  have hkept : ∀ {id}, s.certifiedBy id msg.toSubject = none →
      (s.setComplianceInfo info).certifiedBy id = s.certifiedBy id := by
    intro id hnone
    rw [htable, Function.update_eq_self_iff]
    exact hnone.symm
  refine ⟨fun x => ?_, fun id => ?_⟩
  · rw [hkept (h.named _)]
    exact h.named x
  · by_cases hcertificate : id = d.cDCertificateId
    · subst hcertificate
      rw [htable]
      exact h.revoke_own hfinds hfound hid
    · have hother : s.certifiedBy id msg.toSubject = none :=
        certifiedBy_eq_none_of_found hfound (decide_eq_false fun hd => hcertificate hd.2.symm)
      rw [hkept hother]
      exact h.revoke_other hid hcertificate

/-- The first state of a record other than certified changes no table. -/
theorem certifiedBy_first (info : ComplianceInfo) (hnone : s.getComplianceInfo info.toSubject = none)
    (hstatus : info.softwareVersionCertificationStatus ≠ codeCertified) (id : String) :
    (s.setComplianceInfo info).certifiedBy id = s.certifiedBy id :=
  certifiedBy_setComplianceInfo_of_not (isCertifiedBy_eq_false hstatus) (certifiedBy_eq_none hnone)

/-- The tables are those of the records. -/
theorem certifiedBy_congr (h : s'.complianceInfo = s.complianceInfo) :
    s'.certifiedBy id = s.certifiedBy id := by
  funext x
  rw [Store.certifiedBy, Store.getComplianceInfo, h]
  rfl

theorem certified_change (h : Certified s) (hrules : msg.validateBasic bech32 parse = .ok ())
    (hfinds : FindsOwn s msg) (hc : Change parse ctx s msg s') : Certified s' := by
  have hkeyed := keyed_change h.keyed hc
  have hkeyedCertificates := keyedCertificates_change h.keyedCertificates hc
  -- the tables are those of the one record written, and the flags play no part
  suffices hnew : (∀ x, s'.certifiedBy "" x = none) ∧ ∀ id, Indexed ComplianceInfo.toSubject
      DeviceSoftwareCompliance.complianceInfo (s'.certifiedBy id) (s'.getDeviceSoftwareCompliance id) from
    ⟨hkeyed, hkeyedCertificates, hnew.1, hnew.2⟩
  cases hc with
  | @provisioned msg hnone =>
    have htable := certifiedBy_first msg.provisionalInfo hnone certified_ne_provisional.symm
    exact ⟨fun x => (congrFun (htable "") x).trans (h.named x), fun id =>
      (h.listed id).congr fun x => (congrFun (htable id) x).symm⟩
  | certified _ _ hinfo => exact h.certify (MsgDeclareModel.validateBasic_eq_ok hrules).1 hinfo
  | @revokedFirst msg _ _ _ hnone =>
    have htable := certifiedBy_first msg.newRevokedInfo hnone revoked_ne_certified
    exact ⟨fun x => (congrFun (htable "") x).trans (h.named x), fun id =>
      (h.listed id).congr fun x => (congrFun (htable id) x).symm⟩
  | @revoked msg _ _ info _ _ hfound hinfo =>
    obtain ⟨hnamed, hlisted⟩ := h.revoke hfinds hfound (revokedInfo_eq_ok hinfo).2.2
    have htable : ∀ id, ((s.removeFromCertificate msg info).setComplianceInfo info).certifiedBy id =
        (s.setComplianceInfo info).certifiedBy id :=
      fun _ => certifiedBy_congr (by simp [Store.setComplianceInfo])
    exact ⟨fun x => (congrFun (htable "") x).trans (hnamed x), fun id =>
      (hlisted id).congr fun x => (congrFun (htable id) x).symm⟩

theorem certified_of_reachable (h : (finding bech32 parse).Reachable s) : Certified s := by
  refine h.invariant Certified.empty fun hs hstep => ?_
  rcases step_cases hstep.1 with rfl | hchange
  · exact hs
  · exact certified_change hs hstep.2.1 hstep.2.2 hchange

/-- The certificate has exactly the stored records that are certified under it, each once, and there is
no certificate without records. -/
def CertificateExact (s : Store) (id : String) : Prop :=
  match s.getDeviceSoftwareCompliance id with
  | none => ∀ info ∈ s.complianceInfo.values, info.isCertifiedBy id = false
  | some m => m.cDCertificateId = id ∧ m.complianceInfo ≠ [] ∧ m.complianceInfo.Nodup ∧
      ∀ info, info ∈ m.complianceInfo ↔
        info ∈ s.complianceInfo.values ∧ info.isCertifiedBy id = true

/-- A record that is certified is among those of an exact certificate. -/
theorem CertificateExact.mem_recordsOf (h : CertificateExact s id)
    (hinfo : info ∈ s.complianceInfo.values) (hcertified : info.isCertifiedBy id = true) :
    info ∈ s.recordsOf id := by
  unfold CertificateExact at h
  unfold Store.recordsOf
  cases hget : s.getDeviceSoftwareCompliance id with
  | none =>
    rw [hget] at h
    exact absurd hcertified (by simp [h info hinfo])
  | some m =>
    rw [hget] at h
    exact (h.2.2.2 info).mpr ⟨hinfo, hcertified⟩

/-- **Certificates are exact**, in the runs in which revocations find their own records: a certificate
has exactly the records that are certified under it. -/
theorem certificates_exact (h : (finding bech32 parse).Reachable s) (id : String) :
    CertificateExact s id := by
  have hs := certified_of_reachable h
  have hlisted := hs.listed id
  have hmem : ∀ info, s.certifiedBy id info.toSubject = some info ↔
      info ∈ s.complianceInfo.values ∧ info.isCertifiedBy id = true := by
    intro info
    rw [certifiedBy_eq_some_iff, hs.keyed.mem_values_iff]
    rfl
  unfold CertificateExact
  cases hget : s.getDeviceSoftwareCompliance id with
  | none =>
    rw [hget] at hlisted
    intro info hinfo
    rw [← Bool.not_eq_true]
    intro hcertified
    have hsome := (hmem info).mpr ⟨hinfo, hcertified⟩
    rw [hlisted] at hsome
    cases hsome
  | some m =>
    rw [hget] at hlisted
    refine ⟨hs.keyedCertificates.of_get hget, hlisted.1, hlisted.2.nodup.of_map _, fun info => ?_⟩
    rw [hlisted.2.mem_iff, hmem]

/-- Two software versions share a certificate, and one of them is revoked. -/
theorem example_certificate :
    ∃ s, (finding Models.exampleCodec exampleParse).Reachable s ∧
      (s.recordsOf "CD1").map ComplianceInfo.toSubject = [exampleSubject 8 "zigbee"] ∧
      CertificateExact s "CD1" := by
  obtain ⟨s, hr, hp⟩ := exists_reachable_of_foldlM
    (T := finding Models.exampleCodec exampleParse)
    (p := fun s => (s.recordsOf "CD1").map ComplianceInfo.toSubject = [exampleSubject 8 "zigbee"])
    (guarded _ (next Models.exampleCodec exampleParse)) (step_of_guarded step_of_next)
    [exampleCertify (exampleSubject 7 "zigbee") "7.0" "2020-01-01T00:00:00Z",
      exampleCertify (exampleSubject 8 "zigbee") "8.0" "2020-01-01T00:00:00Z",
      exampleRevoke (exampleSubject 7 "zigbee") "7.0" "2021-01-01T00:00:00Z"] (by decide +kernel)
  exact ⟨s, hr, of_decide_eq_true hp, certificates_exact hr "CD1"⟩

/-! ## A revocation that removes another record -/

/-- One software version is certified under one certificate for two types of certification, and the
second one is revoked. The certificate then has the record of the second one, as it was, and not that
of the first one, which is still certified. -/
theorem example_other_type_removed :
    ∃ s, (checked Models.exampleCodec exampleParse).Reachable s ∧
      (s.recordsOf "CD1").map ComplianceInfo.toSubject = [exampleSubject 7 "matter"] ∧
      (s.certifiedBy "CD1" (exampleSubject 7 "matter")).isNone ∧
      (s.certifiedBy "CD1" (exampleSubject 7 "zigbee")).isSome ∧ ¬ CertificateExact s "CD1" := by
  obtain ⟨s, hr, hp⟩ := exists_reachable_of_foldlM
    (T := checked Models.exampleCodec exampleParse)
    (p := fun s =>
      (s.recordsOf "CD1").map ComplianceInfo.toSubject = [exampleSubject 7 "matter"] ∧
      (s.certifiedBy "CD1" (exampleSubject 7 "matter")).isNone ∧
      (s.certifiedBy "CD1" (exampleSubject 7 "zigbee")).isSome)
    (guarded _ (next Models.exampleCodec exampleParse)) (step_of_guarded step_of_next)
    [exampleCertify (exampleSubject 7 "zigbee") "7.0" "2020-01-01T00:00:00Z",
      exampleCertify (exampleSubject 7 "matter") "7.0" "2020-01-01T00:00:00Z",
      exampleRevoke (exampleSubject 7 "matter") "7.0" "2021-01-01T00:00:00Z"] (by decide +kernel)
  obtain ⟨hrecords, hnone, hsome⟩ := of_decide_eq_true hp
  refine ⟨s, hr, hrecords, hnone, hsome, fun hexact => ?_⟩
  obtain ⟨info, hinfo⟩ := Option.isSome_iff_exists.mp hsome
  obtain ⟨hstored, hcertified⟩ := certifiedBy_eq_some_iff.mp hinfo
  have hmem := hexact.mem_recordsOf (KVStore.mem_values_iff.mpr ⟨_, hstored⟩) hcertified
  have hsubject := List.mem_map_of_mem (f := ComplianceInfo.toSubject) hmem
  rw [hrecords, (keyed_of_reachable hr.of_restrict).subject hstored] at hsubject
  exact absurd hsubject (by decide)

end ComplianceLedger.Compliance
