import ComplianceLedger.Compliance.History

/-!
# The numbers of certification declarations

A message carries the version number of a certification declaration, and the record and each item of
its history have such a number. The source copies the number of a message into a record that it creates,
and into no other: the setters that change the state of a record keep its number and push it into the
history. So all states of a record have the number of its first message.

## Main definitions

* `Store.numbered s x`: the states of a record with their numbers, the present one last
* `firstNumber msgs`: the number of the first message

## Main results

* `Change.numbered`, `Change.number`: what an accepted message does to the numbers of its subject
* `numbers_of_trace`: in every run all states have the number of the first message, so that they are
  those of their messages exactly if all messages carry the same one
* `example_stale_number`: a certified record with the number of the provisional one
-/

open Machine Machine.TransitionSystem

namespace ComplianceLedger.Compliance

variable {bech32 : Bech32} {parse : String → Option ℤ} {ctx : Context} {s s' : Store} {msg : Msg}
  {x : Subject}

/-- The states that a record had and the one it has, with their numbers. -/
def ComplianceInfo.numbered (d : ComplianceInfo) : List (Entry × UInt32) :=
  d.history.map (fun item => (item.entry, item.cDVersionNumber)) ++ [(d.entry, d.cDVersionNumber)]

namespace Store

/-- The numbered states of the record of a subject, if it has one. -/
def numbered (s : Store) (x : Subject) : List (Entry × UInt32) :=
  (s.getComplianceInfo x).elim [] ComplianceInfo.numbered

/-- The number of the record of a subject, if it has one. -/
def number (s : Store) (x : Subject) : Option UInt32 :=
  (s.getComplianceInfo x).map ComplianceInfo.cDVersionNumber

end Store

/-! ## Accepted messages -/

theorem Recorded.numbered {old : Option ComplianceInfo} {info : ComplianceInfo}
    (h : Recorded parse msg old info) (hnumber : info.cDVersionNumber = msg.numberAfter old) :
    info.numbered = old.elim [] ComplianceInfo.numbered ++ [(msg.entry, msg.numberAfter old)] := by
  unfold ComplianceInfo.numbered
  rw [h.entry, hnumber]
  cases old with
  | none => rw [(h.first rfl).2.2, List.map_nil, Option.elim_none]
  | some d =>
    -- the item that is pushed has the number of the record, and so has the record afterwards
    rw [(h.later rfl).2.2.1, List.map_append]
    rfl

/-- **An accepted message** adds a state to the record of its subject, with the number that the record
has, or with its own one if there was no record. -/
theorem Change.numbered (hkeyed : Keyed s) (h : Change parse ctx s msg s') (x : Subject) :
    s'.numbered x =
      if x = msg.subject then s.numbered x ++ [(msg.entry, msg.numberAfter (s.getComplianceInfo x))]
      else s.numbered x := by
  obtain ⟨info, hrecorded, hnumber, -, hget⟩ := h.written hkeyed
  unfold Store.numbered
  rw [hget x]
  split_ifs with hx
  · subst hx
    exact hrecorded.numbered hnumber
  · rfl

/-- The number of a record is set with its first message and then stays. -/
theorem Change.number (hkeyed : Keyed s) (h : Change parse ctx s msg s') (x : Subject) :
    s'.number x =
      if x = msg.subject then some (msg.numberAfter (s.getComplianceInfo x)) else s.number x := by
  obtain ⟨info, -, hnumber, -, hget⟩ := h.written hkeyed
  unfold Store.number
  rw [hget x]
  split_ifs with hx
  · subst hx
    rw [Option.map_some, hnumber]
  · rfl

/-! ## Runs -/

/-- The number of the first message of a list. -/
def firstNumber (msgs : List Msg) : UInt32 := (msgs.head?.map Msg.cDVersionNumber).getD 0

/-- The numbers of the states are those of the first message: an invariant of the messages that were
accepted for a subject, and the store. -/
structure NumberedFirst (x : Subject) (msgs : List Msg) (s : Store) : Prop where
  number : s.number x = msgs.head?.map Msg.cDVersionNumber
  numbered : s.numbered x = msgs.map fun msg => (msg.entry, firstNumber msgs)

/-- The number after one more message is that of the first one. -/
theorem NumberedFirst.numberAfter {msgs : List Msg} (h : NumberedFirst x msgs s) :
    msg.numberAfter (s.getComplianceInfo x) = firstNumber (msgs ++ [msg]) := by
  show (s.number x).getD msg.cDVersionNumber = _
  rw [h.number]
  cases msgs <;> rfl

theorem NumberedFirst.snoc {msgs : List Msg} (hkeyed : Keyed s) (h : NumberedFirst msg.subject msgs s)
    (hchange : Change parse ctx s msg s') : NumberedFirst msg.subject (msgs ++ [msg]) s' := by
  constructor
  · rw [hchange.number hkeyed, if_pos rfl, h.numberAfter]
    cases msgs <;> rfl
  · rw [hchange.numbered hkeyed, if_pos rfl, h.numberAfter, h.numbered, List.map_append]
    congr 1
    -- the states there were keep their numbers, as the first message stays the first
    cases msgs <;> rfl

theorem numberedFirst_of_trace {history : List (Transition Store (Context × Msg))}
    (h : (compliance bech32 parse).Trace history s) (x : Subject) :
    NumberedFirst x (acceptedMsgs bech32 parse x history) s := by
  refine h.induction
    (P := fun history s => NumberedFirst x (acceptedMsgs bech32 parse x history) s) ⟨rfl, rfl⟩ ?_
  intro history s a s' hr hs hstep
  have hkeyed := keyed_of_reachable hr
  rcases acceptedMsgs_snoc x history hstep with ⟨rfl, hsame⟩ | ⟨hchange, hnew⟩
  · rw [hsame]
    exact hs
  · rw [hnew]
    split_ifs with hx
    · subst hx
      exact hs.snoc hkeyed hchange
    · -- a message about another subject
      constructor
      · rw [hchange.number hkeyed, if_neg hx]
        exact hs.number
      · rw [hchange.numbered hkeyed, if_neg hx]
        exact hs.numbered

/-- **The numbers of the states.** In every run the states of a record are those of the messages that
were accepted for its subject, in their order, and all of them have the number of the first message. So
they have the numbers of their own messages exactly if all of these carry the number of the first. -/
theorem numbers_of_trace {history : List (Transition Store (Context × Msg))}
    (h : (compliance bech32 parse).Trace history s) (x : Subject) :
    s.numbered x = (acceptedMsgs bech32 parse x history).map
        (fun msg => (msg.entry, firstNumber (acceptedMsgs bech32 parse x history))) ∧
      (s.numbered x = (acceptedMsgs bech32 parse x history).map
          (fun msg => (msg.entry, msg.cDVersionNumber)) ↔
        ∀ msg ∈ acceptedMsgs bech32 parse x history,
          msg.cDVersionNumber = firstNumber (acceptedMsgs bech32 parse x history)) := by
  have hfirst := (numberedFirst_of_trace h x).numbered
  refine ⟨hfirst, ?_⟩
  rw [hfirst, List.map_inj_left]
  constructor
  · intro hall msg hmsg
    exact (Prod.mk.inj (hall msg hmsg)).2.symm
  · intro hall msg hmsg
    rw [hall msg hmsg]

/-- The message that certifies the version 7, with a number. -/
def exampleCertifyNumber (cDVersionNumber : UInt32) : Context × Msg :=
  (exampleContext, .certifyModel
    { exampleDeclare (exampleSubject 7 "zigbee") "7.0" "2021-01-01T00:00:00Z" with
      cDVersionNumber := cDVersionNumber })

/-- A version is made provisional and certified with the same number, and both states have it. -/
theorem example_same_number : ∃ history s,
    (compliance Models.exampleCodec exampleParse).Trace history s ∧
    s.numbered (exampleSubject 7 "zigbee") =
      [(⟨codeProvisional, "2020-01-01T00:00:00Z", ""⟩, 1),
        (⟨codeCertified, "2021-01-01T00:00:00Z", ""⟩, 1)] ∧
    s.numbered (exampleSubject 7 "zigbee") =
      (acceptedMsgs Models.exampleCodec exampleParse (exampleSubject 7 "zigbee") history).map
        (fun msg => (msg.entry, msg.cDVersionNumber)) := by
  obtain ⟨history, s, htrace, hp⟩ := exists_trace_of_foldlM
    (T := compliance Models.exampleCodec exampleParse)
    (p := fun history s => s.numbered (exampleSubject 7 "zigbee") =
        [(⟨codeProvisional, "2020-01-01T00:00:00Z", ""⟩, 1),
          (⟨codeCertified, "2021-01-01T00:00:00Z", ""⟩, 1)] ∧
      ∀ msg ∈ acceptedMsgs Models.exampleCodec exampleParse (exampleSubject 7 "zigbee") history,
        msg.cDVersionNumber = firstNumber
          (acceptedMsgs Models.exampleCodec exampleParse (exampleSubject 7 "zigbee") history))
    (next Models.exampleCodec exampleParse) step_of_next
    [exampleProvision (exampleSubject 7 "zigbee") "7.0" "2020-01-01T00:00:00Z",
      exampleCertifyNumber 1] (by decide +kernel)
  obtain ⟨hnumbered, hsame⟩ := of_decide_eq_true hp
  exact ⟨history, s, htrace, hnumbered, (numbers_of_trace htrace _).2.mpr hsame⟩

/-- **A stale number.** A version is made provisional with the number 1 and certified with the number 2.
Both messages are accepted, and the record is certified with the number 1. -/
theorem example_stale_number : ∃ history s,
    (compliance Models.exampleCodec exampleParse).Trace history s ∧
    (acceptedMsgs Models.exampleCodec exampleParse (exampleSubject 7 "zigbee") history).map
        (fun msg => (msg.entry, msg.cDVersionNumber)) =
      [(⟨codeProvisional, "2020-01-01T00:00:00Z", ""⟩, 1),
        (⟨codeCertified, "2021-01-01T00:00:00Z", ""⟩, 2)] ∧
    s.numbered (exampleSubject 7 "zigbee") =
      [(⟨codeProvisional, "2020-01-01T00:00:00Z", ""⟩, 1),
        (⟨codeCertified, "2021-01-01T00:00:00Z", ""⟩, 1)] := by
  obtain ⟨history, s, htrace, hp⟩ := exists_trace_of_foldlM
    (T := compliance Models.exampleCodec exampleParse)
    (p := fun history s =>
      (acceptedMsgs Models.exampleCodec exampleParse (exampleSubject 7 "zigbee") history).map
          (fun msg => (msg.entry, msg.cDVersionNumber)) =
        [(⟨codeProvisional, "2020-01-01T00:00:00Z", ""⟩, 1),
          (⟨codeCertified, "2021-01-01T00:00:00Z", ""⟩, 2)] ∧
      s.numbered (exampleSubject 7 "zigbee") =
        [(⟨codeProvisional, "2020-01-01T00:00:00Z", ""⟩, 1),
          (⟨codeCertified, "2021-01-01T00:00:00Z", ""⟩, 1)])
    (next Models.exampleCodec exampleParse) step_of_next
    [exampleProvision (exampleSubject 7 "zigbee") "7.0" "2020-01-01T00:00:00Z",
      exampleCertifyNumber 2] (by decide +kernel)
  exact ⟨history, s, htrace, of_decide_eq_true hp⟩

end ComplianceLedger.Compliance
