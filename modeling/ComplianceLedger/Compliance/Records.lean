import ComplianceLedger.Compliance.MsgServer

/-!
# What a message does to a compliance record

An accepted message writes one record, that of its subject, and leaves the records of all other
subjects as they are. The record then has the state, the date and the reason of the message, and the
state it had before is the last one in its history.

## Main definitions

* `Keyed s`: every record lies under the key of its own fields
* `Entry`: a state, its date and its reason; those of a record, of a history item and of a message
* `Recorded parse msg old info`: the record `info` is `old` after the message

## Main results

* `Change.recorded`: what an accepted message does to the records
* `keyed_of_reachable`: in every run every record lies under its own key
-/

open Machine Machine.TransitionSystem

namespace ComplianceLedger.Compliance

variable {bech32 : Bech32} {parse : String → Option ℤ} {ctx : Context} {s s' : Store} {msg : Msg}
  {x : Subject} {d info : ComplianceInfo}

/-! ## States, dates and reasons -/

/-- A state, its date and its reason. -/
structure Entry where
  status : UInt32
  date : String
  reason : String
deriving DecidableEq, Repr

/-- The present state of a record. -/
def ComplianceInfo.entry (d : ComplianceInfo) : Entry :=
  ⟨d.softwareVersionCertificationStatus, d.date, d.reason⟩

/-- A state that a record had before. -/
def ComplianceHistoryItem.entry (item : ComplianceHistoryItem) : Entry :=
  ⟨item.softwareVersionCertificationStatus, item.date, item.reason⟩

/-- The state that a message asks for. -/
def Msg.entry : Msg → Entry
  | .provisionModel msg => ⟨codeProvisional, msg.date, msg.reason⟩
  | .certifyModel msg => ⟨codeCertified, msg.date, msg.reason⟩
  | .revokeModel msg => ⟨codeRevoked, msg.date, msg.reason⟩

/-- The software version string of a message. -/
def Msg.softwareVersionString : Msg → String
  | .provisionModel msg => msg.softwareVersionString
  | .certifyModel msg => msg.softwareVersionString
  | .revokeModel msg => msg.softwareVersionString

/-- The number of the certification declaration that a message carries. -/
def Msg.cDVersionNumber : Msg → UInt32
  | .provisionModel msg => msg.cDVersionNumber
  | .certifyModel msg => msg.cDVersionNumber
  | .revokeModel msg => msg.cDVersionNumber

/-- The instants of two dates are in order. -/
def NotAfter (parse : String → Option ℤ) (old new : String) : Prop :=
  ∃ t t', parse old = some t ∧ parse new = some t' ∧ t ≤ t'

theorem notAfter_of_checkDates {new old err : String} {u : Unit}
    (h : checkDates parse new old err = .ok u) : NotAfter parse old new := by
  unfold checkDates at h
  split at h
  · cases h
  · next newDate hnew =>
    split at h
    · cases h
    · next oldDate hold =>
      split at h
      · cases h
      · next hle => exact ⟨oldDate, newDate, hold, hnew, by omega⟩

theorem checkBasic_eq_ok {rules : List Rule} {signer date : String} {u : Unit}
    (h : checkBasic bech32 parse rules x signer date = .ok u) :
    (∀ rule ∈ rules, rule.kept = true) ∧ parse date ≠ none := by
  unfold checkBasic at h
  split at h
  · cases h
  · split at h
    · cases h
    · next hrules =>
      split_ifs at h with hdate
      exact ⟨validate_eq_ok_iff.mp hrules, hdate⟩

/-- A message that declares a model provisional or certified names a certificate. -/
theorem MsgDeclareModel.validateBasic_eq_ok {msg : MsgDeclareModel} {dateField : String} {u : Unit}
    (h : msg.validateBasic bech32 parse dateField = .ok u) :
    msg.cDCertificateId ≠ "" ∧ parse msg.date ≠ none := by
  unfold MsgDeclareModel.validateBasic at h
  split at h
  · cases h
  · next hbasic =>
    obtain ⟨hrules, hdate⟩ := checkBasic_eq_ok hbasic
    have hkept := hrules (required "CDCertificateId" msg.cDCertificateId) (by
      simp [MsgDeclareModel.rules])
    exact ⟨by simpa [required] using hkept, hdate⟩

/-- The date of a message that keeps its rules is one. -/
theorem Msg.parse_ne_none (h : msg.validateBasic bech32 parse = .ok ()) :
    parse msg.entry.date ≠ none := by
  cases msg with
  | provisionModel msg => exact (MsgDeclareModel.validateBasic_eq_ok h).2
  | certifyModel msg => exact (MsgDeclareModel.validateBasic_eq_ok h).2
  | revokeModel msg => exact (checkBasic_eq_ok h).2

/-! ## The record of a message -/

/-- The record `info` is what the message makes of the record `old`. -/
structure Recorded (parse : String → Option ℤ) (msg : Msg) (old : Option ComplianceInfo)
    (info : ComplianceInfo) : Prop where
  entry : info.entry = msg.entry
  first : old = none → info.toSubject = msg.subject ∧
    info.softwareVersionString = msg.softwareVersionString ∧ info.history = []
  later : ∀ {d}, old = some d → info.toSubject = d.toSubject ∧
    info.softwareVersionString = d.softwareVersionString ∧
    info.history = d.history ++ [d.historyItem] ∧ msg.entry.status ≠ codeProvisional ∧
    msg.entry.status ≠ d.entry.status ∧ NotAfter parse d.date msg.entry.date

theorem recorded_provisional {msg : MsgDeclareModel} :
    Recorded parse (.provisionModel msg) none msg.provisionalInfo where
  entry := rfl
  first _ := ⟨rfl, rfl, rfl⟩
  later h := nomatch h

theorem recorded_certified {msg : MsgDeclareModel} {old : Option ComplianceInfo}
    (h : msg.certifiedInfo parse old = .ok info) : Recorded parse (.certifyModel msg) old info := by
  cases old with
  | none =>
    obtain rfl := Except.ok.inj h
    exact ⟨rfl, fun _ => ⟨rfl, rfl, rfl⟩, fun hd => nomatch hd⟩
  | some d =>
    unfold MsgDeclareModel.certifiedInfo at h
    simp only at h
    split at h
    · cases h
    · next hstatus =>
      split at h
      · cases h
      · next hdates =>
        obtain rfl := Except.ok.inj h
        refine ⟨rfl, (fun hnone => nomatch hnone), fun hd => ?_⟩
        obtain rfl := Option.some.inj hd
        exact ⟨rfl, rfl, rfl, certified_ne_provisional, Ne.symm hstatus,
          notAfter_of_checkDates hdates⟩

theorem recorded_revokedFirst {msg : MsgRevokeModel} :
    Recorded parse (.revokeModel msg) none msg.newRevokedInfo where
  entry := rfl
  first _ := ⟨rfl, rfl, rfl⟩
  later h := nomatch h

theorem revokedInfo_eq_ok {msg : MsgRevokeModel} (h : msg.revokedInfo parse d = .ok info) :
    d.softwareVersionCertificationStatus ≠ codeRevoked ∧ NotAfter parse d.date msg.date ∧
      info = d.setRevokedStatus msg.date msg.reason := by
  unfold MsgRevokeModel.revokedInfo at h
  split at h
  · cases h
  · next hstatus =>
    split at h
    · cases h
    · next hdates => exact ⟨hstatus, notAfter_of_checkDates hdates, (Except.ok.inj h).symm⟩

theorem recorded_revoked {msg : MsgRevokeModel} (h : msg.revokedInfo parse d = .ok info) :
    Recorded parse (.revokeModel msg) (some d) info := by
  obtain ⟨hstatus, hdates, rfl⟩ := revokedInfo_eq_ok h
  refine ⟨rfl, (fun hnone => nomatch hnone), fun hd => ?_⟩
  obtain rfl := Option.some.inj hd
  exact ⟨rfl, rfl, rfl, revoked_ne_provisional, Ne.symm hstatus, hdates⟩

/-! ## The records of a message -/

/-- The certificates are written without touching the other records. -/
@[simp] theorem removeFromCertificate_frame {msg : MsgRevokeModel} (s : Store) :
    (s.removeFromCertificate msg info).complianceInfo = s.complianceInfo ∧
      (s.removeFromCertificate msg info).certifiedModel = s.certifiedModel ∧
      (s.removeFromCertificate msg info).revokedModel = s.revokedModel ∧
      (s.removeFromCertificate msg info).provisionalModel = s.provisionalModel := by
  unfold Store.removeFromCertificate
  dsimp only
  split <;> exact ⟨rfl, rfl, rfl, rfl⟩

/-- The number after a message: the one the record had, or that of the message if there was no
record. -/
def Msg.numberAfter (msg : Msg) (old : Option ComplianceInfo) : UInt32 :=
  (old.map ComplianceInfo.cDVersionNumber).getD msg.cDVersionNumber

/-- A record that is certified keeps its number. -/
theorem certifiedInfo_number {msg : MsgDeclareModel} {old : Option ComplianceInfo}
    (h : msg.certifiedInfo parse old = .ok info) :
    info.cDVersionNumber = (Msg.certifyModel msg).numberAfter old := by
  cases old with
  | none =>
    obtain rfl := Except.ok.inj h
    rfl
  | some d =>
    unfold MsgDeclareModel.certifiedInfo at h
    simp only at h
    split at h
    · cases h
    · split at h
      · cases h
      · obtain rfl := Except.ok.inj h
        rfl

/-- An accepted message writes one record. -/
theorem Change.exists_written (h : Change parse ctx s msg s') :
    ∃ info, Recorded parse msg (s.getComplianceInfo msg.subject) info ∧
      info.cDVersionNumber = msg.numberAfter (s.getComplianceInfo msg.subject) ∧
      s'.complianceInfo = s.complianceInfo.set (complianceInfoKey info.toSubject) info := by
  cases h with
  | provisioned hnone => exact ⟨_, hnone ▸ recorded_provisional, hnone ▸ rfl, rfl⟩
  | certified _ _ hinfo => exact ⟨_, recorded_certified hinfo, certifiedInfo_number hinfo, rfl⟩
  | revokedFirst _ _ hnone => exact ⟨_, hnone ▸ recorded_revokedFirst, hnone ▸ rfl, rfl⟩
  | revoked _ _ hfound hinfo =>
    obtain ⟨-, -, rfl⟩ := revokedInfo_eq_ok hinfo
    refine ⟨_, hfound ▸ recorded_revoked hinfo, hfound ▸ rfl, ?_⟩
    simp [Store.setRevokedModel, Store.setComplianceInfo, Store.setProvisionalModel,
      Store.setCertifiedModel]

theorem Change.exists_recorded (h : Change parse ctx s msg s') :
    ∃ info, Recorded parse msg (s.getComplianceInfo msg.subject) info ∧
      s'.complianceInfo = s.complianceInfo.set (complianceInfoKey info.toSubject) info := by
  obtain ⟨info, hrecorded, -, hset⟩ := h.exists_written
  exact ⟨info, hrecorded, hset⟩

/-- Every record lies under the key of its own fields. -/
def Keyed (s : Store) : Prop :=
  s.complianceInfo.All fun k info => k = complianceInfoKey info.toSubject

theorem Keyed.empty : Keyed Store.empty := KVStore.All.empty

theorem Keyed.subject (h : Keyed s) (hget : s.getComplianceInfo x = some info) :
    info.toSubject = x :=
  (subjectKey_injective (h _ _ hget)).symm

/-- The record of a message is that of its subject. -/
theorem Recorded.subject (hkeyed : Keyed s)
    (h : Recorded parse msg (s.getComplianceInfo msg.subject) info) :
    info.toSubject = msg.subject := by
  cases hold : s.getComplianceInfo msg.subject with
  | none => exact (h.first hold).1
  | some d => rw [(h.later hold).1, hkeyed.subject hold]

theorem keyed_change (hkeyed : Keyed s) (h : Change parse ctx s msg s') : Keyed s' := by
  obtain ⟨info, -, hset⟩ := h.exists_recorded
  unfold Keyed
  rw [hset]
  exact hkeyed.set rfl

/-- **In every run every record lies under its own key.** -/
theorem keyed_of_reachable (h : (compliance bech32 parse).Reachable s) : Keyed s := by
  refine h.invariant Keyed.empty fun hs hstep => ?_
  rcases step_cases hstep with rfl | hchange
  · exact hs
  · exact keyed_change hs hchange

/-- What an accepted message does to the records, with their numbers. -/
theorem Change.written (hkeyed : Keyed s) (h : Change parse ctx s msg s') :
    ∃ info, Recorded parse msg (s.getComplianceInfo msg.subject) info ∧
      info.cDVersionNumber = msg.numberAfter (s.getComplianceInfo msg.subject) ∧
      info.toSubject = msg.subject ∧
      ∀ x, s'.getComplianceInfo x = if x = msg.subject then some info else s.getComplianceInfo x := by
  obtain ⟨info, hrecorded, hnumber, hset⟩ := h.exists_written
  have hsubject := hrecorded.subject hkeyed
  refine ⟨info, hrecorded, hnumber, hsubject, fun x => ?_⟩
  -- the record is stored under its own fields, which are those of the message
  rw [Store.getComplianceInfo, hset, hsubject, KVStore.get_set]
  simp only [complianceInfoKey, subjectKey_inj, Store.getComplianceInfo]

/-- **What an accepted message does to the records**: that of its subject is recorded, and all others
stay. -/
theorem Change.recorded (hkeyed : Keyed s) (h : Change parse ctx s msg s') :
    ∃ info, Recorded parse msg (s.getComplianceInfo msg.subject) info ∧
      info.toSubject = msg.subject ∧
      ∀ x, s'.getComplianceInfo x = if x = msg.subject then some info else s.getComplianceInfo x := by
  obtain ⟨info, hrecorded, -, hsubject, hget⟩ := h.written hkeyed
  exact ⟨info, hrecorded, hsubject, hget⟩

end ComplianceLedger.Compliance
