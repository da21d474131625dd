import ComplianceLedger.Compliance.Records

/-!
# The flags of compliance records

Clients ask whether a model is certified, revoked or provisional at three flags and not at the record.
Each handler writes the flags by hand: certifying writes all three, so does revoking a record that
exists, and the other two cases write one flag only. The flags agree with the record in every run: the
one of the present state is set, and the others are absent or off.

## Main definitions

* `Flags`: the three flags of a subject; `Flags.Show info`: they show the state of a record
* `Msg.flags`: what a message makes of the flags of its subject

## Main results

* `Change.flags`: a message writes flags of its own subject only
* `flags_show`: in every run the flags show the states, and a message changes neither the record nor
  the flags of other subjects than its own
-/

open Machine Machine.TransitionSystem

namespace ComplianceLedger.Compliance

variable {bech32 : Bech32} {parse : String → Option ℤ} {ctx : Context} {s s' : Store} {msg : Msg}
  {x : Subject}

/-- The flags of a subject, as far as they exist. -/
structure Flags where
  provisional : Option ModelFlag
  certified : Option ModelFlag
  revoked : Option ModelFlag
deriving DecidableEq, Repr

/-- The flags that are stored for a subject. -/
def Store.flags (s : Store) (x : Subject) : Flags :=
  ⟨s.getProvisionalModel x, s.getCertifiedModel x, s.getRevokedModel x⟩

/-- The flag is there and on. -/
def isSet (flag : Option ModelFlag) : Bool := flag.any ModelFlag.value

/-- The flags show the state of a record: there are none without a record, and the one that is set is
that of the present state. -/
def Flags.Show (flags : Flags) : Option ComplianceInfo → Prop
  | none => flags = ⟨none, none, none⟩
  | some info =>
      (info.softwareVersionCertificationStatus = codeProvisional ∧
        isSet flags.provisional = true ∧ isSet flags.certified = false ∧
        isSet flags.revoked = false) ∨
      (info.softwareVersionCertificationStatus = codeCertified ∧
        isSet flags.provisional = false ∧ isSet flags.certified = true ∧
        isSet flags.revoked = false) ∨
      (info.softwareVersionCertificationStatus = codeRevoked ∧
        isSet flags.provisional = false ∧ isSet flags.certified = false ∧
        isSet flags.revoked = true)

/-! ## The flags after a write -/

theorem flags_setProvisionalModel (flag : ModelFlag) :
    (s.setProvisionalModel flag).flags x =
      if x = flag.toSubject then { s.flags x with provisional := some flag } else s.flags x := by
  simp only [Store.flags, Store.getProvisionalModel, Store.setProvisionalModel, KVStore.get_set,
    provisionalModelKey, subjectKey_inj]
  split <;> rfl

theorem flags_setCertifiedModel (flag : ModelFlag) :
    (s.setCertifiedModel flag).flags x =
      if x = flag.toSubject then { s.flags x with certified := some flag } else s.flags x := by
  simp only [Store.flags, Store.getCertifiedModel, Store.setCertifiedModel, KVStore.get_set,
    certifiedModelKey, subjectKey_inj]
  split <;> rfl

theorem flags_setRevokedModel (flag : ModelFlag) :
    (s.setRevokedModel flag).flags x =
      if x = flag.toSubject then { s.flags x with revoked := some flag } else s.flags x := by
  simp only [Store.flags, Store.getRevokedModel, Store.setRevokedModel, KVStore.get_set,
    revokedModelKey, subjectKey_inj]
  split <;> rfl

@[simp] theorem flags_setComplianceInfo (info : ComplianceInfo) :
    (s.setComplianceInfo info).flags x = s.flags x := rfl

@[simp] theorem flags_addToCertificate (msg : MsgDeclareModel) (info : ComplianceInfo) :
    (s.addToCertificate msg info).flags x = s.flags x := rfl

@[simp] theorem flags_removeFromCertificate (msg : MsgRevokeModel) (info : ComplianceInfo) :
    (s.removeFromCertificate msg info).flags x = s.flags x := by
  simp [Store.flags, Store.getProvisionalModel, Store.getCertifiedModel, Store.getRevokedModel]

/-- What a message makes of the flags of its subject, given the record. -/
def Msg.flags : Msg → Option ComplianceInfo → Flags → Flags
  | .provisionModel msg, _, flags => { flags with provisional := some ⟨msg.toSubject, true⟩ }
  | .certifyModel msg, _, _ =>
    ⟨some ⟨msg.toSubject, false⟩, some ⟨msg.toSubject, true⟩, some ⟨msg.toSubject, false⟩⟩
  | .revokeModel msg, none, flags => { flags with revoked := some ⟨msg.toSubject, true⟩ }
  | .revokeModel msg, some _, _ =>
    ⟨some ⟨msg.toSubject, false⟩, some ⟨msg.toSubject, false⟩, some ⟨msg.toSubject, true⟩⟩

/-- **A message writes flags of its own subject only.** -/
theorem Change.flags (h : Change parse ctx s msg s') (x : Subject) :
    s'.flags x = if x = msg.subject then msg.flags (s.getComplianceInfo x) (s.flags x)
      else s.flags x := by
  by_cases hx : x = msg.subject
  · rw [if_pos hx]
    subst hx
    cases h with
    | provisioned | certified =>
      simp [flags_setProvisionalModel, flags_setCertifiedModel, flags_setRevokedModel, Msg.subject,
        Msg.flags]
    | revokedFirst _ _ hnone =>
      rw [Msg.subject, hnone]
      simp [flags_setRevokedModel, Msg.flags]
    | revoked _ _ hfound =>
      rw [Msg.subject, hfound]
      simp [flags_setProvisionalModel, flags_setCertifiedModel, flags_setRevokedModel, Msg.flags]
  · rw [if_neg hx]
    -- every flag that is written has the subject of the message
    cases h <;> rw [Msg.subject] at hx <;>
      simp [flags_setProvisionalModel, flags_setCertifiedModel, flags_setRevokedModel, hx]

/-! ## The flags in every run -/

/-- The flags of the subject of a message show the state that the message asks for. -/
theorem Flags.Show.message {flags : Flags} {old : Option ComplianceInfo} {info : ComplianceInfo}
    (hrecorded : Recorded parse msg old info) (h : flags.Show old) :
    (msg.flags old flags).Show (some info) := by
  have hstatus : info.softwareVersionCertificationStatus = msg.entry.status :=
    congrArg Entry.status hrecorded.entry
  cases msg with
  | provisionModel msg =>
    cases old with
    | none =>
      obtain rfl : flags = ⟨none, none, none⟩ := h
      exact .inl ⟨hstatus, rfl, rfl, rfl⟩
    -- only a subject without a record can become provisional
    | some d => exact absurd rfl (hrecorded.later rfl).2.2.2.1
  | certifyModel msg => exact .inr (.inl ⟨hstatus, rfl, rfl, rfl⟩)
  | revokeModel msg =>
    cases old with
    | none =>
      -- the other two flags are not written, and are not there
      obtain rfl : flags = ⟨none, none, none⟩ := h
      exact .inr (.inr ⟨hstatus, rfl, rfl, rfl⟩)
    | some d => exact .inr (.inr ⟨hstatus, rfl, rfl, rfl⟩)

theorem shown_of_reachable (h : (compliance bech32 parse).Reachable s) (x : Subject) :
    (s.flags x).Show (s.getComplianceInfo x) := by
  refine h.induction (P := fun s => (s.flags x).Show (s.getComplianceInfo x)) rfl ?_
  intro s a s' hr hs hstep
  rcases step_cases hstep with rfl | hchange
  · exact hs
  · obtain ⟨info, hrecorded, -, hget⟩ := hchange.recorded (keyed_of_reachable hr)
    rw [hchange.flags, hget]
    split
    · next hx =>
      subst hx
      exact hs.message hrecorded
    · exact hs

/-- **The flags show the states.** In every run the flag of the present state of a record is set and
the others are not, and without a record there are no flags. A message changes neither the record nor
the flags of any other subject than its own. -/
theorem flags_show (h : (compliance bech32 parse).Reachable s) :
    (∀ x, (s.flags x).Show (s.getComplianceInfo x)) ∧
      ∀ {ctx msg s' x}, (compliance bech32 parse).step s (ctx, msg) s' → x ≠ msg.subject →
        s'.getComplianceInfo x = s.getComplianceInfo x ∧ s'.flags x = s.flags x := by
  refine ⟨shown_of_reachable h, fun {ctx msg s' x} hstep hx => ?_⟩
  rcases step_cases hstep with rfl | hchange
  · exact ⟨rfl, rfl⟩
  · obtain ⟨info, -, -, hget⟩ := hchange.recorded (keyed_of_reachable h)
    exact ⟨(hget x).trans (if_neg hx), (hchange.flags x).trans (if_neg hx)⟩

/-- A version is provisional for one type of certification, and for another one it is certified and then
revoked. -/
theorem example_flags : ∃ s, (compliance Models.exampleCodec exampleParse).Reachable s ∧
    (s.flags (exampleSubject 7 "zigbee")).certified = some ⟨exampleSubject 7 "zigbee", false⟩ ∧
    (s.flags (exampleSubject 7 "matter")).revoked = none ∧
    ∀ x, (s.flags x).Show (s.getComplianceInfo x) := by
  obtain ⟨s, hr, hp⟩ := exists_reachable_of_foldlM
    (T := compliance Models.exampleCodec exampleParse)
    (p := fun s =>
      (s.flags (exampleSubject 7 "zigbee")).certified = some ⟨exampleSubject 7 "zigbee", false⟩ ∧
      (s.flags (exampleSubject 7 "matter")).revoked = none)
    (next Models.exampleCodec exampleParse) step_of_next
    [exampleProvision (exampleSubject 7 "matter") "7.0" "2020-01-01T00:00:00Z",
      exampleCertify (exampleSubject 7 "zigbee") "7.0" "2020-01-01T00:00:00Z",
      exampleRevoke (exampleSubject 7 "zigbee") "7.0" "2021-01-01T00:00:00Z"] (by decide +kernel)
  obtain ⟨hcertified, hrevoked⟩ := of_decide_eq_true hp
  exact ⟨s, hr, hcertified, hrevoked, (flags_show hr).1⟩

end ComplianceLedger.Compliance
