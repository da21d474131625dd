import ComplianceLedger.Compliance.Records
import Mathlib.Data.List.Chain

/-!
# The audit trail of a compliance record

A record keeps the states it had. Together with the present one they are the audit trail of a subject:
one entry for each message that was accepted for it, in the order of the messages. The trail is built
by the two setters that push the present state into the history; they are called in different branches
of the handlers, and a refused message calls none.

## Main definitions

* `Store.trail s x`: the states of a record, the present one last
* `accepted bech32 parse x history`: what the accepted messages of a run asked for; `acceptedMsgs`: the
  messages themselves
* `Orderly parse trail`: provisional is only the first state, no state follows itself, and the dates
  do not go back

## Main results

* `Change.trail`: an accepted message adds its entry to the trail of its subject
* `trail_of_trace`: in every run the trail is what the accepted messages asked for, and it is orderly
-/

open Machine Machine.TransitionSystem

namespace ComplianceLedger.Compliance

variable {bech32 : Bech32} {parse : String → Option ℤ} {ctx : Context} {s s' : Store} {msg : Msg}
  {x : Subject} {e : Entry} {l : List Entry}

/-! ## Trails -/

/-- The states that a record had and the one it has. -/
def ComplianceInfo.trail (d : ComplianceInfo) : List Entry :=
  d.history.map ComplianceHistoryItem.entry ++ [d.entry]

/-- The states of the record of a subject, if it has one. -/
def Store.trail (s : Store) (x : Subject) : List Entry :=
  (s.getComplianceInfo x).elim [] ComplianceInfo.trail

theorem Recorded.trail {old : Option ComplianceInfo} {info : ComplianceInfo}
    (h : Recorded parse msg old info) :
    info.trail = old.elim [] ComplianceInfo.trail ++ [msg.entry] := by
  unfold ComplianceInfo.trail
  rw [h.entry]
  cases old with
  -- a first record has no history, and a later one the history and the state it replaces
  | none => rw [(h.first rfl).2.2, List.map_nil, Option.elim_none]
  | some d =>
    rw [(h.later rfl).2.2.1, List.map_append]
    rfl

/-- **An accepted message** adds its entry to the trail of its subject, and to no other. -/
theorem Change.trail (hkeyed : Keyed s) (h : Change parse ctx s msg s') (x : Subject) :
    s'.trail x = if x = msg.subject then s.trail x ++ [msg.entry] else s.trail x := by
  obtain ⟨info, hrecorded, -, hget⟩ := h.recorded hkeyed
  unfold Store.trail
  rw [hget x]
  split_ifs with hx
  · subst hx
    exact hrecorded.trail
  · rfl

/-! ## Accepted messages -/

/-- The message of a step was accepted. -/
def isAccepted (bech32 : Bech32) (parse : String → Option ℤ)
    (t : Transition Store (Context × Msg)) : Bool :=
  match (handle bech32 parse t.label.1 t.label.2).deliver t.before with
  | some (.ok _, _) => true
  | _ => false

/-- What the accepted messages of a run asked for a subject, in their order. -/
def accepted (bech32 : Bech32) (parse : String → Option ℤ) (x : Subject)
    (history : List (Transition Store (Context × Msg))) : List Entry :=
  (history.filter fun t => isAccepted bech32 parse t ∧ t.label.2.subject = x).map
    fun t => t.label.2.entry

/-- The messages for a subject that were accepted in a run, in their order. -/
def acceptedMsgs (bech32 : Bech32) (parse : String → Option ℤ) (x : Subject)
    (history : List (Transition Store (Context × Msg))) : List Msg :=
  (history.filter fun t => isAccepted bech32 parse t ∧ t.label.2.subject = x).map
    fun t => t.label.2

theorem accepted_eq_map (x : Subject) (history : List (Transition Store (Context × Msg))) :
    accepted bech32 parse x history = (acceptedMsgs bech32 parse x history).map Msg.entry := by
  rw [acceptedMsgs, List.map_map]
  rfl

/-- A step leaves the store and the list of the accepted messages as they are, or its message makes its
change and joins the list of its subject. -/
theorem acceptedMsgs_snoc (x : Subject) (history : List (Transition Store (Context × Msg)))
    {a : Context × Msg} (hstep : (compliance bech32 parse).step s a s') :
    (s' = s ∧
        acceptedMsgs bech32 parse x (history ++ [⟨s, a, s'⟩]) =
          acceptedMsgs bech32 parse x history) ∨
      (Change parse a.1 s a.2 s' ∧ acceptedMsgs bech32 parse x (history ++ [⟨s, a, s'⟩]) =
        if x = a.2.subject then acceptedMsgs bech32 parse x history ++ [a.2]
        else acceptedMsgs bech32 parse x history) := by
  obtain ⟨r, hr⟩ := hstep
  simp only [acceptedMsgs, List.filter_append, List.map_append]
  rcases Handler.deliver_cases hr with ⟨u, rfl, hok⟩ | ⟨⟨e, rfl⟩, rfl⟩
  · have haccepted : isAccepted bech32 parse ⟨s, a, s'⟩ = true := by simp only [isAccepted, hr]
    -- the filter keeps the new step exactly for the subject of its message
    refine .inr ⟨handle_ok hok, ?_⟩
    by_cases hx : x = a.2.subject
    · simp [haccepted, hx]
    · simp [haccepted, hx, Ne.symm hx]
  · have hrefused : isAccepted bech32 parse ⟨s', a, s'⟩ = false := by simp only [isAccepted, hr]
    exact .inl ⟨rfl, by simp [hrefused]⟩

/-- The entries of the accepted messages grow with a step as the trail does. -/
theorem accepted_snoc (x : Subject) (history : List (Transition Store (Context × Msg)))
    {a : Context × Msg} (hstep : (compliance bech32 parse).step s a s') :
    (s' = s ∧ accepted bech32 parse x (history ++ [⟨s, a, s'⟩]) = accepted bech32 parse x history) ∨
      (Change parse a.1 s a.2 s' ∧ accepted bech32 parse x (history ++ [⟨s, a, s'⟩]) =
        if x = a.2.subject then accepted bech32 parse x history ++ [a.2.entry]
        else accepted bech32 parse x history) := by
  simp only [accepted_eq_map]
  rcases acceptedMsgs_snoc x history hstep with ⟨hs, hsame⟩ | ⟨hchange, hnew⟩
  · exact .inl ⟨hs, by rw [hsame]⟩
  · refine .inr ⟨hchange, ?_⟩
    rw [hnew]
    split
    · rw [List.map_append, List.map_singleton]
    · rfl

/-! ## Orderly trails -/

theorem NotAfter.trans {old mid new : String} (h : NotAfter parse old mid)
    (h' : NotAfter parse mid new) : NotAfter parse old new := by
  obtain ⟨t, t₁, hold, hmid, hle⟩ := h
  obtain ⟨t₁', t', hmid', hnew, hle'⟩ := h'
  obtain rfl : t₁ = t₁' := Option.some.inj (hmid.symm.trans hmid')
  exact ⟨t, t', hold, hnew, hle.trans hle'⟩

/-- A trail begins provisional or never is, has no state twice in a row, and its dates are dates that
do not go back. -/
structure Orderly (parse : String → Option ℤ) (l : List Entry) : Prop where
  provisional : ∀ e ∈ l.tail, e.status ≠ codeProvisional
  alternate : l.IsChain fun e e' => e.status ≠ e'.status
  dates : ∀ e ∈ l, parse e.date ≠ none
  ordered : l.Pairwise fun e e' => NotAfter parse e.date e'.date

theorem Orderly.nil : Orderly parse [] := ⟨by simp, .nil, by simp, .nil⟩

theorem Orderly.singleton (h : parse e.date ≠ none) : Orderly parse [e] :=
  ⟨by simp, .singleton e, by simpa using h, List.pairwise_singleton _ e⟩

/-- A trail with the last entry `e` goes on with an entry of another state that is not provisional and
not of an earlier date. -/
theorem Orderly.snoc {e' : Entry} (h : Orderly parse (l ++ [e]))
    (hprovisional : e'.status ≠ codeProvisional) (hstatus : e.status ≠ e'.status)
    (hdate : NotAfter parse e.date e'.date) : Orderly parse (l ++ [e] ++ [e']) where
  provisional := by
    rw [List.tail_append_of_ne_nil (by simp)]
    intro e₁ he₁
    rcases List.mem_append.mp he₁ with he₁ | he₁
    · exact h.provisional e₁ he₁
    · rwa [List.mem_singleton.mp he₁]
  alternate := by
    refine List.isChain_append.mpr ⟨h.alternate, .singleton e', ?_⟩
    simpa using hstatus
  dates := by
    intro e₁ he₁
    rcases List.mem_append.mp he₁ with he₁ | he₁
    · exact h.dates e₁ he₁
    · obtain ⟨-, t', -, hnew, -⟩ := hdate
      rw [List.mem_singleton.mp he₁, hnew]
      exact Option.some_ne_none t'
  ordered := by
    refine List.pairwise_append.mpr ⟨h.ordered, List.pairwise_singleton _ e', ?_⟩
    -- the dates before `e` are not after that of `e`
    intro e₁ he₁ e₂ he₂
    rw [List.mem_singleton.mp he₂]
    rcases List.mem_append.mp he₁ with he₁ | he₁
    · have hlast := (List.pairwise_append.mp h.ordered).2.2 e₁ he₁ e List.mem_cons_self
      exact hlast.trans hdate
    · rwa [List.mem_singleton.mp he₁]

theorem orderly_change (hkeyed : Keyed s) (hrules : msg.validateBasic bech32 parse = .ok ())
    (hs : Orderly parse (s.trail x)) (h : Change parse ctx s msg s') : Orderly parse (s'.trail x) := by
  rw [h.trail hkeyed]
  split_ifs with hx
  · subst hx
    obtain ⟨info, hrecorded, -, -⟩ := h.recorded hkeyed
    unfold Store.trail at hs ⊢
    cases hold : s.getComplianceInfo msg.subject with
    -- the first date is not compared with another one: it is one by the rules of the message
    | none => exact .singleton (Msg.parse_ne_none hrules)
    | some d =>
      obtain ⟨-, -, -, hprovisional, hstatus, hdate⟩ := hrecorded.later hold
      rw [hold] at hs
      exact hs.snoc hprovisional (Ne.symm hstatus) hdate
  · exact hs

/-! ## The trail in every run -/

/-- **The audit trail.** In every run of messages that keep their rules, the states of a record are
what the accepted messages for its subject asked for, in their order, and they are orderly. -/
theorem trail_of_trace {history : List (Transition Store (Context × Msg))}
    (h : (checked bech32 parse).Trace history s) (x : Subject) :
    s.trail x = accepted bech32 parse x history ∧ Orderly parse (s.trail x) := by
  refine h.induction (P := fun history s => s.trail x = accepted bech32 parse x history ∧
    Orderly parse (s.trail x)) ⟨rfl, Orderly.nil⟩ ?_
  intro history s a s' hr hs hstep
  have hkeyed := keyed_of_reachable hr.of_restrict
  rcases accepted_snoc x history hstep.1 with ⟨rfl, hsame⟩ | ⟨hchange, hnew⟩
  · exact ⟨hs.1.trans hsame.symm, hs.2⟩
  · refine ⟨?_, orderly_change hkeyed hstep.2 hs.2 hchange⟩
    rw [hchange.trail hkeyed, hnew, hs.1]

/-- A version is certified, revoked and certified again; a message that comes too late and one with an
earlier date leave no trace. -/
theorem example_trail : ∃ history s,
    (checked Models.exampleCodec exampleParse).Trace history s ∧ history.length = 5 ∧
    s.trail (exampleSubject 7 "zigbee") =
      [⟨codeCertified, "2020-01-01T00:00:00Z", ""⟩, ⟨codeRevoked, "2021-01-01T00:00:00Z", ""⟩,
        ⟨codeCertified, "2021-01-01T00:00:00Z", ""⟩] ∧
    s.trail (exampleSubject 7 "zigbee") =
      accepted Models.exampleCodec exampleParse (exampleSubject 7 "zigbee") history := by
  obtain ⟨history, s, htrace, hp⟩ := exists_trace_of_foldlM
    (T := checked Models.exampleCodec exampleParse)
    (p := fun history s => history.length = 5 ∧ s.trail (exampleSubject 7 "zigbee") =
      [⟨codeCertified, "2020-01-01T00:00:00Z", ""⟩, ⟨codeRevoked, "2021-01-01T00:00:00Z", ""⟩,
        ⟨codeCertified, "2021-01-01T00:00:00Z", ""⟩])
    (guarded _ (next Models.exampleCodec exampleParse)) (step_of_guarded step_of_next)
    [exampleCertify (exampleSubject 7 "zigbee") "7.0" "2020-01-01T00:00:00Z",
      exampleProvision (exampleSubject 7 "zigbee") "7.0" "2020-01-01T00:00:00Z",
      exampleRevoke (exampleSubject 7 "zigbee") "7.0" "2021-01-01T00:00:00Z",
      exampleCertify (exampleSubject 7 "zigbee") "7.0" "2020-01-01T00:00:00Z",
      exampleCertify (exampleSubject 7 "zigbee") "7.0" "2021-01-01T00:00:00Z"] (by decide +kernel)
  obtain ⟨hlength, htrail⟩ := of_decide_eq_true hp
  exact ⟨history, s, htrace, hlength, htrail, (trail_of_trace htrace _).1⟩

end ComplianceLedger.Compliance
