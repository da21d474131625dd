import ComplianceLedger.Machine.TransitionSystem
import Mathlib.Data.Finset.Card
import Mathlib.Data.List.Forall2

/-!
# Polls

An electorate votes on questions. A question passes when the votes for it reach a quorum, which may
depend on the kind of the question, and fails when the votes against it reach a veto. Until then it
is pending, with the votes on it. When quorum and veto together exceed the electorate by at most
one, a pending question always has a voter left: it cannot be stuck.

A board is a system that holds polls, by their subjects. Its `Turn`s are what a step may do to the
poll on a subject, and the invariant `Board.Sound` is what follows for every run.

## Main definitions

* `Poll C G`: a question of a kind, and the votes on it
* `Poll.Fair`, `Poll.Open`: the votes come from different members; neither threshold is reached
* `Poll.Authentic`: the votes come from different voters, and each has a cause
* `Poll.Next`: what one more vote makes of a pending poll
* `Board S X C G`: the pending, approved and rejected polls of a state, by their subjects
* `Board.Turn`: what a step may do to a poll
* `Board.Sound`: the invariant of a board
* `Board.Governs`: the runs of a system keep to the protocol of a board

## Main results

* `Poll.Open.exists_not_voted`: an open poll has a voter left
* `Poll.Open.next`: a vote keeps a poll open, or brings it to exactly one of the thresholds
* `Board.Sound.step`: every turn keeps a board sound
* `Board.Turn.approved_of_minority`, `Board.Turn.rejected_of_minority`: voters who are too few decide
  nothing
* `Board.turn_of_opened`, `Board.turn_of_aye`, …: what is written for one subject is a turn on all
* `Board.governs_of_turn`: a system whose steps are turns keeps to the protocol
-/

namespace Machine

/-- A question of some kind, with the votes for and against it. -/
structure Poll (C G : Type) where
  kind : C
  ayes : List G
  nays : List G
deriving DecidableEq

namespace Poll

variable {C G V : Type}

/-- The poll with one more vote for it. -/
@[simps] def addAye (p : Poll C G) (g : G) : Poll C G := { p with ayes := p.ayes ++ [g] }

/-- The poll with one more vote against it. -/
@[simps] def addNay (p : Poll C G) (g : G) : Poll C G := { p with nays := p.nays ++ [g] }

section Definitions

variable (cast : G → V → Prop) (T : Finset V) (quorum : C → ℕ) (veto : ℕ)

/-- The members of the electorate who cast the votes, in their order and each once. -/
structure CastBy (p : Poll C G) (yes no : List V) : Prop where
  ayes : List.Forall₂ cast p.ayes yes
  nays : List.Forall₂ cast p.nays no
  distinct : (yes ++ no).Nodup
  member : ∀ v ∈ yes ++ no, v ∈ T

/-- The votes come from different members of the electorate. -/
def Fair (p : Poll C G) : Prop := ∃ yes no, p.CastBy cast T yes no

/-- The poll is undecided: its votes are fair, and neither threshold is reached. -/
structure Open (p : Poll C G) : Prop where
  fair : p.Fair cast T
  ayes_lt : p.ayes.length < quorum p.kind
  nays_lt : p.nays.length < veto

/-- The vote comes from a member of the electorate who has not voted. -/
def Counts (p : Poll C G) (g : G) : Prop :=
  ∃ v ∈ T, cast g v ∧ ∀ g' ∈ p.ayes ++ p.nays, ¬ cast g' v

/-- Some member of the electorate has not voted. -/
def HasVoterLeft (p : Poll C G) : Prop := ∃ v ∈ T, ∀ g ∈ p.ayes ++ p.nays, ¬ cast g v

/-- The votes come from different voters, whoever they are, and every vote for or against is one that
`cause` accounts for. -/
structure Authentic (cause : Bool → G → Prop) (p : Poll C G) : Prop where
  distinct : ∃ T, p.Fair cast T
  ayes : ∀ g ∈ p.ayes, cause true g
  nays : ∀ g ∈ p.nays, cause false g

/-- What becomes of a poll. -/
inductive Verdict (C G : Type)
  | pending (p : Poll C G)
  | approved (p : Poll C G)
  | rejected (p : Poll C G)

/-- **What a step makes of a pending poll**: nothing, or one more vote, which decides it when its
threshold is reached. -/
inductive Next (p : Poll C G) : Verdict C G → Prop
  | kept : Next p (.pending p)
  | aye {g : G} (counts : p.Counts cast T g) (below : p.ayes.length + 1 < quorum p.kind) :
      Next p (.pending (p.addAye g))
  | passed {g : G} (counts : p.Counts cast T g) (reached : quorum p.kind ≤ p.ayes.length + 1) :
      Next p (.approved (p.addAye g))
  | nay {g : G} (counts : p.Counts cast T g) (below : p.nays.length + 1 < veto) :
      Next p (.pending (p.addNay g))
  | failed {g : G} (counts : p.Counts cast T g) (reached : veto ≤ p.nays.length + 1) :
      Next p (.rejected (p.addNay g))

end Definitions

variable {cast : G → V → Prop} {T : Finset V} {quorum : C → ℕ} {veto : ℕ} {p : Poll C G}

/-! ## Votes -/

namespace CastBy

variable {yes no : List V} (h : p.CastBy cast T yes no)

include h

theorem votes : List.Forall₂ cast (p.ayes ++ p.nays) (yes ++ no) := List.rel_append h.ayes h.nays

/-- Every vote was cast by a voter on the lists. -/
theorem exists_of_mem {g : G} (hg : g ∈ p.ayes ++ p.nays) : ∃ v ∈ yes ++ no, cast g v := by
  obtain ⟨i, hi, rfl⟩ := List.getElem_of_mem hg
  exact ⟨_, List.getElem_mem (h.votes.length_eq ▸ hi), h.votes.get hi (h.votes.length_eq ▸ hi)⟩

/-- A member who has not voted is not on the lists. -/
theorem notMem_of_not_cast {v : V} (hnew : ∀ g ∈ p.ayes ++ p.nays, ¬ cast g v) : v ∉ yes ++ no := by
  intro hv
  obtain ⟨i, hi, rfl⟩ := List.getElem_of_mem hv
  exact hnew _ (List.getElem_mem (h.votes.length_eq ▸ hi)) (h.votes.get (h.votes.length_eq ▸ hi) hi)

/-- The lists with one more voter, who has not voted, in whatever place. -/
theorem distinct_insert {v : V} (hv : v ∈ T) (hnew : ∀ g ∈ p.ayes ++ p.nays, ¬ cast g v)
    {l : List V} (hperm : l.Perm (v :: (yes ++ no))) : l.Nodup ∧ ∀ v' ∈ l, v' ∈ T := by
  constructor
  · exact hperm.nodup_iff.mpr (List.nodup_cons.mpr ⟨h.notMem_of_not_cast hnew, h.distinct⟩)
  · intro v' hv'
    rcases List.mem_cons.mp (hperm.mem_iff.mp hv') with rfl | hv'
    · exact hv
    · exact h.member v' hv'

end CastBy

/-- A poll without votes is fair. -/
theorem fair_nil (kind : C) : (⟨kind, [], []⟩ : Poll C G).Fair cast T :=
  ⟨[], [], .nil, .nil, List.nodup_nil, fun _ hv => nomatch hv⟩

theorem Fair.addAye (h : p.Fair cast T) {g : G} (hg : p.Counts cast T g) :
    (p.addAye g).Fair cast T := by
  obtain ⟨yes, no, hby⟩ := h
  obtain ⟨v, hv, hgv, hnew⟩ := hg
  have hperm : (yes ++ [v] ++ no).Perm (v :: (yes ++ no)) := by
    rw [List.append_assoc]
    exact List.perm_middle
  obtain ⟨hdistinct, hmember⟩ := hby.distinct_insert hv hnew hperm
  exact ⟨yes ++ [v], no, List.rel_append hby.ayes (.cons hgv .nil), hby.nays, hdistinct, hmember⟩

theorem Fair.addNay (h : p.Fair cast T) {g : G} (hg : p.Counts cast T g) :
    (p.addNay g).Fair cast T := by
  obtain ⟨yes, no, hby⟩ := h
  obtain ⟨v, hv, hgv, hnew⟩ := hg
  have hperm : (yes ++ (no ++ [v])).Perm (v :: (yes ++ no)) := by
    rw [← List.append_assoc]
    exact List.perm_append_singleton v _
  obtain ⟨hdistinct, hmember⟩ := hby.distinct_insert hv hnew hperm
  exact ⟨yes, no ++ [v], hby.ayes, List.rel_append hby.nays (.cons hgv .nil), hdistinct, hmember⟩

/-- A first vote is fair. -/
theorem fair_singleton (kind : C) {g : G} {v : V} (hv : v ∈ T) (hg : cast g v) :
    (⟨kind, [g], []⟩ : Poll C G).Fair cast T :=
  (fair_nil kind).addAye ⟨v, hv, hg, fun _ hg' => nomatch hg'⟩

theorem Fair.mono {T' : Finset V} (h : p.Fair cast T) (hT : T ⊆ T') : p.Fair cast T' := by
  obtain ⟨yes, no, hby⟩ := h
  exact ⟨yes, no, { hby with member := fun v hv => hT (hby.member v hv) }⟩

theorem Counts.mono {T' : Finset V} {g : G} (h : p.Counts cast T g) (hT : T ⊆ T') :
    p.Counts cast T' g := by
  obtain ⟨v, hv, hcounts⟩ := h
  exact ⟨v, hT hv, hcounts⟩

/-- There are at most as many votes as members. -/
theorem Fair.length_le (h : p.Fair cast T) : p.ayes.length + p.nays.length ≤ T.card := by
  obtain ⟨yes, no, hby⟩ := h
  classical
  rw [← List.length_append, hby.votes.length_eq, ← List.toFinset_card_of_nodup hby.distinct]
  exact Finset.card_le_card fun v hv => hby.member v (List.mem_toFinset.mp hv)

/-- A member who can still vote makes one vote more. -/
theorem Fair.ayes_lt_card (h : p.Fair cast T) {g : G} (hg : p.Counts cast T g) :
    p.ayes.length + 1 ≤ T.card := by
  have hle := (h.addAye hg).length_le
  simp only [addAye_ayes, addAye_nays, List.length_append, List.length_singleton] at hle
  omega

theorem Fair.nays_lt_card (h : p.Fair cast T) {g : G} (hg : p.Counts cast T g) :
    p.nays.length + 1 ≤ T.card := by
  have hle := (h.addNay hg).length_le
  simp only [addNay_ayes, addNay_nays, List.length_append, List.length_singleton] at hle
  omega

/-- Fewer votes than members leave a voter. -/
theorem Fair.hasVoterLeft (hcast : ∀ {g v v'}, cast g v → cast g v' → v = v') (h : p.Fair cast T)
    (hlt : p.ayes.length + p.nays.length < T.card) : p.HasVoterLeft cast T := by
  obtain ⟨yes, no, hby⟩ := h
  classical
  have hcard : (yes ++ no).toFinset.card < T.card := by
    rw [List.toFinset_card_of_nodup hby.distinct, ← hby.votes.length_eq, List.length_append]
    exact hlt
  obtain ⟨v, hv, hnot⟩ := Finset.exists_mem_notMem_of_card_lt_card hcard
  refine ⟨v, hv, fun g hg hgv => hnot ?_⟩
  obtain ⟨v', hv', hgv'⟩ := hby.exists_of_mem hg
  rw [hcast hgv hgv']
  exact List.mem_toFinset.mpr hv'

/-! ## Where votes come from -/

section Authentic

variable {cause cause' : Bool → G → Prop}

theorem authentic_nil (kind : C) : (⟨kind, [], []⟩ : Poll C G).Authentic cast cause :=
  ⟨⟨∅, fair_nil kind⟩, fun _ hg => (nomatch hg), fun _ hg => (nomatch hg)⟩

theorem Authentic.imp (h : p.Authentic cast cause) (himp : ∀ b g, cause b g → cause' b g) :
    p.Authentic cast cause' :=
  ⟨h.distinct, fun g hg => himp true g (h.ayes g hg), fun g hg => himp false g (h.nays g hg)⟩

/-- What is read off a vote may be less than what the voter is known by. -/
theorem Authentic.of_cast {cast' : G → V → Prop} (h : p.Authentic cast cause)
    (hcast : ∀ g v, cast g v → cast' g v) : p.Authentic cast' cause := by
  obtain ⟨⟨T, yes, no, hby⟩, hyes, hno⟩ := h
  exact ⟨⟨T, yes, no, hby.ayes.imp hcast, hby.nays.imp hcast, hby.distinct, hby.member⟩, hyes, hno⟩

/-- The kind of the question does not matter. -/
theorem Authentic.of_votes {D : Type} {q : Poll D G} (h : p.Authentic cast cause)
    (hayes : q.ayes = p.ayes) (hnays : q.nays = p.nays) : q.Authentic cast cause := by
  obtain ⟨⟨T, yes, no, hby⟩, hyes, hno⟩ := h
  rw [← hayes] at hyes
  rw [← hnays] at hno
  refine ⟨⟨T, yes, no, ?_, ?_, hby.distinct, hby.member⟩, hyes, hno⟩
  · rw [hayes]
    exact hby.ayes
  · rw [hnays]
    exact hby.nays

theorem Authentic.addAye (h : p.Authentic cast cause) {g : G} (hcounts : p.Counts cast T g)
    (hg : cause true g) : (p.addAye g).Authentic cast cause := by
  classical
  obtain ⟨T', hfair⟩ := h.distinct
  refine ⟨⟨T ∪ T', ?_⟩, fun g' hg' => ?_, h.nays⟩
  · exact (hfair.mono Finset.subset_union_right).addAye (hcounts.mono Finset.subset_union_left)
  · rcases List.mem_append.mp hg' with hg' | hg'
    · exact h.ayes g' hg'
    · exact List.mem_singleton.mp hg' ▸ hg

theorem Authentic.addNay (h : p.Authentic cast cause) {g : G} (hcounts : p.Counts cast T g)
    (hg : cause false g) : (p.addNay g).Authentic cast cause := by
  classical
  obtain ⟨T', hfair⟩ := h.distinct
  refine ⟨⟨T ∪ T', ?_⟩, h.ayes, fun g' hg' => ?_⟩
  · exact (hfair.mono Finset.subset_union_right).addNay (hcounts.mono Finset.subset_union_left)
  · rcases List.mem_append.mp hg' with hg' | hg'
    · exact h.nays g' hg'
    · exact List.mem_singleton.mp hg' ▸ hg

/-- A first vote is authentic. -/
theorem authentic_singleton (kind : C) {g : G} {v : V} (hv : cast g v) (hg : cause true g) :
    (⟨kind, [g], []⟩ : Poll C G).Authentic cast cause :=
  (authentic_nil kind).addAye (T := {v}) ⟨v, Finset.mem_singleton_self v, hv, fun _ h => nomatch h⟩ hg

end Authentic

/-- **An open poll has a voter left**, when the thresholds exceed the electorate by at most one. -/
theorem Open.exists_not_voted (hcast : ∀ {g v v'}, cast g v → cast g v' → v = v')
    (h : p.Open cast T quorum veto) (hthresholds : quorum p.kind + veto ≤ T.card + 1) :
    p.HasVoterLeft cast T := by
  have hayes := h.ayes_lt
  have hnays := h.nays_lt
  exact h.fair.hasVoterLeft hcast (by omega)

/-- **A vote keeps a poll open, or brings it to exactly one of the thresholds.** -/
theorem Open.next (h : p.Open cast T quorum veto) {verdict : Verdict C G}
    (hnext : p.Next cast T quorum veto verdict) :
    match verdict with
    | .pending q => q.Open cast T quorum veto ∧ q.kind = p.kind
    | .approved q => q.Fair cast T ∧ q.kind = p.kind ∧ q.ayes.length = quorum q.kind ∧
        q.nays.length < veto
    | .rejected q => q.Fair cast T ∧ q.kind = p.kind ∧ q.nays.length = veto ∧
        q.ayes.length < quorum q.kind := by
  have hayes := h.ayes_lt
  have hnays := h.nays_lt
  cases hnext with
  | kept => exact ⟨h, rfl⟩
  | aye hg hbelow => exact ⟨⟨h.fair.addAye hg, by simpa using hbelow, hnays⟩, rfl⟩
  | passed hg hreached =>
    refine ⟨h.fair.addAye hg, rfl, ?_, hnays⟩
    simp only [addAye_ayes, addAye_kind, List.length_append, List.length_singleton]
    omega
  | nay hg hbelow => exact ⟨⟨h.fair.addNay hg, hayes, by simpa using hbelow⟩, rfl⟩
  | failed hg hreached =>
    refine ⟨h.fair.addNay hg, rfl, ?_, hayes⟩
    simp only [addNay_nays, List.length_append, List.length_singleton]
    omega

end Poll

/-! ## Boards -/

/-- The polls that a state holds, by their subjects. -/
structure Board (S X C G : Type) where
  pending : S → X → Option (Poll C G)
  approved : S → X → Option (Poll C G)
  rejected : S → X → Option (Poll C G)

namespace Board

variable {S X C G V : Type}

section Definitions

variable (b : Board S X C G) (cast : G → V → Prop) (T : Finset V) (quorum : C → ℕ) (veto : ℕ)

/-- The decided polls on a subject are those of before, or have been removed. -/
structure Keeps (s s' : S) (x : X) : Prop where
  approved : b.approved s' x = b.approved s x ∨ b.approved s' x = none
  rejected : b.rejected s' x = b.rejected s x ∨ b.rejected s' x = none

/-- **What a step may do to the poll on a subject.** A poll that has `lapsed` may be replaced by a
new one. -/
inductive Turn (lapsed : X → Prop) (s s' : S) (x : X) : Prop
  /-- There is no pending poll on the subject, before or after the step. -/
  | idle (before : b.pending s x = none) (after : b.pending s' x = none) (keeps : b.Keeps s s' x)
  /-- A poll is opened, with votes below the thresholds. -/
  | opened (p : Poll C G) (before : b.pending s x = none ∨ lapsed x)
      (isOpen : p.Open cast T quorum veto) (after : b.pending s' x = some p)
      (approved : b.approved s' x = none) (rejected : b.rejected s' x = none)
  /-- A poll is opened with as many votes as are needed, and so approved. -/
  | passedAtOnce (p : Poll C G) (before : b.pending s x = none ∨ lapsed x) (fair : p.Fair cast T)
      (reached : p.ayes.length = quorum p.kind) (after : b.pending s' x = none)
      (approved : b.approved s' x = some p) (rejected : b.rejected s' x = none)
  /-- The pending poll stays pending, with at most one more vote. -/
  | voted (p q : Poll C G) (before : b.pending s x = some p)
      (next : p.Next cast T quorum veto (.pending q)) (after : b.pending s' x = some q)
      (keeps : b.Keeps s s' x)
  /-- The pending poll is approved with one more vote. -/
  | passed (p q : Poll C G) (before : b.pending s x = some p)
      (next : p.Next cast T quorum veto (.approved q)) (after : b.pending s' x = none)
      (approved : b.approved s' x = some q) (rejected : b.rejected s' x = b.rejected s x)
  /-- The pending poll is rejected with one more vote. -/
  | failed (p q : Poll C G) (before : b.pending s x = some p)
      (next : p.Next cast T quorum veto (.rejected q)) (after : b.pending s' x = none)
      (approved : b.approved s' x = b.approved s x) (rejected : b.rejected s' x = some q)

/-- **The invariant of a board**: a pending poll is open and the only one on its subject, and no
subject has both an approved and a rejected poll. -/
structure Sound (s : S) : Prop where
  isOpen : ∀ x p, b.pending s x = some p → p.Open cast T quorum veto
  undecided : ∀ x p, b.pending s x = some p → b.approved s x = none ∧ b.rejected s x = none
  exclusive : ∀ x, b.approved s x = none ∨ b.rejected s x = none

/-- **The runs of a system keep to the protocol of a board**, which a `view` of the states shows: the
board is sound, its pending polls have voters left, and every step is a turn on every subject. -/
structure Governs {S' A : Type} (sys : TransitionSystem S' A) (view : S' → S)
    (lapsed : S' → A → X → Prop) : Prop where
  sound : ∀ s, sys.Reachable s → b.Sound cast T quorum veto (view s)
  voterLeft : ∀ s x p, sys.Reachable s → b.pending (view s) x = some p → p.HasVoterLeft cast T
  turn : ∀ s a s' x, sys.Reachable s → sys.step s a s' →
    b.Turn cast T quorum veto (lapsed s a) (view s) (view s') x

end Definitions

variable {b : Board S X C G} {cast : G → V → Prop} {T : Finset V} {quorum : C → ℕ} {veto : ℕ}
  {s s' : S} {x : X} {lapsed : X → Prop}

theorem Keeps.of_eq (happroved : b.approved s' x = b.approved s x)
    (hrejected : b.rejected s' x = b.rejected s x) : b.Keeps s s' x :=
  ⟨Or.inl happroved, Or.inl hrejected⟩

theorem Keeps.undecided (h : b.Keeps s s' x)
    (hs : b.approved s x = none ∧ b.rejected s x = none) :
    b.approved s' x = none ∧ b.rejected s' x = none :=
  ⟨h.approved.elim (·.trans hs.1) id, h.rejected.elim (·.trans hs.2) id⟩

theorem Keeps.exclusive (h : b.Keeps s s' x) (hs : b.approved s x = none ∨ b.rejected s x = none) :
    b.approved s' x = none ∨ b.rejected s' x = none :=
  hs.imp (fun ha => h.approved.elim (·.trans ha) id) fun hr => h.rejected.elim (·.trans hr) id

/-- A step that changes none of the polls on a subject. -/
theorem Turn.of_eq (hpending : b.pending s' x = b.pending s x)
    (hkeeps : b.Keeps s s' x) : b.Turn cast T quorum veto lapsed s s' x := by
  cases hp : b.pending s x with
  | none => exact .idle hp (hpending.trans hp) hkeeps
  | some p => exact .voted p p hp .kept (hpending.trans hp) hkeeps

/-- **Every turn keeps a board sound.** -/
theorem Sound.step (h : b.Sound cast T quorum veto s)
    (hturn : ∀ x, b.Turn cast T quorum veto lapsed s s' x) : b.Sound cast T quorum veto s' := by
  refine ⟨fun x p hp => ?_, fun x p hp => ?_, fun x => ?_⟩
  · cases hturn x with
    | idle _ hafter => cases hafter.symm.trans hp
    | opened q _ hopen hafter => exact Option.some.inj (hafter.symm.trans hp) ▸ hopen
    | passedAtOnce q _ _ _ hafter => cases hafter.symm.trans hp
    | voted p₀ q hbefore hnext hafter =>
      exact Option.some.inj (hafter.symm.trans hp) ▸ ((h.isOpen x p₀ hbefore).next hnext).1
    | passed _ _ _ _ hafter => cases hafter.symm.trans hp
    | failed _ _ _ _ hafter => cases hafter.symm.trans hp
  · cases hturn x with
    | idle _ hafter => cases hafter.symm.trans hp
    | opened _ _ _ _ happroved hrejected => exact ⟨happroved, hrejected⟩
    | passedAtOnce q _ _ _ hafter => cases hafter.symm.trans hp
    | voted p₀ _ hbefore _ _ hkeeps => exact hkeeps.undecided (h.undecided x p₀ hbefore)
    | passed _ _ _ _ hafter => cases hafter.symm.trans hp
    | failed _ _ _ _ hafter => cases hafter.symm.trans hp
  · cases hturn x with
    | idle _ _ hkeeps => exact hkeeps.exclusive (h.exclusive x)
    | opened _ _ _ _ happroved => exact Or.inl happroved
    | passedAtOnce _ _ _ _ _ _ hrejected => exact Or.inr hrejected
    | voted _ _ _ _ _ hkeeps => exact hkeeps.exclusive (h.exclusive x)
    | passed p₀ _ hbefore _ _ _ hrejected =>
      exact Or.inr (hrejected.trans (h.undecided x p₀ hbefore).2)
    | failed p₀ _ hbefore _ _ happroved =>
      exact Or.inl (happroved.trans (h.undecided x p₀ hbefore).1)

/-- **A minority approves nothing**: voters who are fewer than every quorum leave the approved polls as
they are, or without some of them. -/
theorem Turn.approved_of_minority (hsound : b.Sound cast T quorum veto s)
    (hturn : b.Turn cast T quorum veto lapsed s s' x) (hfew : ∀ c, T.card < quorum c) :
    b.approved s' x = b.approved s x ∨ b.approved s' x = none := by
  cases hturn with
  | idle _ _ hkeeps => exact hkeeps.approved
  | opened _ _ _ _ happroved => exact .inr happroved
  | passedAtOnce p _ hfair hreached =>
    have hle := hfair.length_le
    have := hfew p.kind
    omega
  | voted _ _ _ _ _ hkeeps => exact hkeeps.approved
  | passed p q hbefore hnext =>
    cases hnext with
    | passed hcounts hreached =>
      have hle := (hsound.isOpen x p hbefore).fair.ayes_lt_card hcounts
      have := hfew p.kind
      omega
  | failed _ _ _ _ _ happroved => exact .inl happroved

/-- **A minority rejects nothing**, if it is below the veto. -/
theorem Turn.rejected_of_minority (hsound : b.Sound cast T quorum veto s)
    (hturn : b.Turn cast T quorum veto lapsed s s' x) (hfew : T.card < veto) :
    b.rejected s' x = b.rejected s x ∨ b.rejected s' x = none := by
  cases hturn with
  | idle _ _ hkeeps => exact hkeeps.rejected
  | opened _ _ _ _ _ hrejected => exact .inr hrejected
  | passedAtOnce _ _ _ _ _ _ hrejected => exact .inr hrejected
  | voted _ _ _ _ _ hkeeps => exact hkeeps.rejected
  | passed _ _ _ _ _ _ hrejected => exact .inl hrejected
  | failed p q hbefore hnext =>
    cases hnext with
    | failed hcounts hreached =>
      have hle := (hsound.isOpen x p hbefore).fair.nays_lt_card hcounts
      omega

/-! ### Steps on one subject -/

section Update

variable [DecidableEq X] {y : X} {p : Poll C G} {g : G}

/-- A step that writes the polls on the subject `y` only is a turn on every subject, if it is one
on `y`. -/
theorem Turn.of_update {pending approved rejected : Option (Poll C G)}
    (hpending : b.pending s' = Function.update (b.pending s) y pending)
    (happroved : b.approved s' = Function.update (b.approved s) y approved)
    (hrejected : b.rejected s' = Function.update (b.rejected s) y rejected)
    (hturn : b.pending s' y = pending → b.approved s' y = approved → b.rejected s' y = rejected →
      b.Turn cast T quorum veto lapsed s s' y) :
    b.Turn cast T quorum veto lapsed s s' x := by
  by_cases hx : x = y
  · subst hx
    apply hturn
    · rw [hpending, Function.update_self]
    · rw [happroved, Function.update_self]
    · rw [hrejected, Function.update_self]
  · refine .of_eq ?_ (.of_eq ?_ ?_)
    · rw [hpending, Function.update_of_ne hx]
    · rw [happroved, Function.update_of_ne hx]
    · rw [hrejected, Function.update_of_ne hx]

/-- A new poll is stored, and the rejected poll of before is removed. -/
theorem turn_of_opened (hbefore : b.pending s y = none ∨ lapsed y)
    (hopen : p.Open cast T quorum veto) (hfree : b.approved s y = none)
    (hpending : b.pending s' = Function.update (b.pending s) y (some p))
    (happroved : b.approved s' = b.approved s)
    (hrejected : b.rejected s' = Function.update (b.rejected s) y none) :
    b.Turn cast T quorum veto lapsed s s' x :=
  .of_update hpending (happroved.trans (Function.update_eq_self y _).symm) hrejected
    (fun hp ha hr => .opened p hbefore hopen hp (ha.trans hfree) hr)

/-- A new poll is stored as approved, and the rejected poll of before is removed. -/
theorem turn_of_passedAtOnce (hbefore : b.pending s y = none ∨ lapsed y) (hfair : p.Fair cast T)
    (hreached : p.ayes.length = quorum p.kind)
    (hpending : b.pending s' = Function.update (b.pending s) y none)
    (happroved : b.approved s' = Function.update (b.approved s) y (some p))
    (hrejected : b.rejected s' = Function.update (b.rejected s) y none) :
    b.Turn cast T quorum veto lapsed s s' x :=
  .of_update hpending happroved hrejected (.passedAtOnce p hbefore hfair hreached)

section Votes

variable (hbefore : b.pending s y = some p) (hcounts : p.Counts cast T g)

include hbefore hcounts

/-- One more vote for a poll is stored. -/
theorem turn_of_aye (hbelow : p.ayes.length + 1 < quorum p.kind)
    (hpending : b.pending s' = Function.update (b.pending s) y (some (p.addAye g)))
    (happroved : b.approved s' = b.approved s) (hrejected : b.rejected s' = b.rejected s) :
    b.Turn cast T quorum veto lapsed s s' x :=
  .of_update hpending (happroved.trans (Function.update_eq_self y _).symm)
    (hrejected.trans (Function.update_eq_self y _).symm)
    (fun hp ha hr => .voted p _ hbefore (.aye hcounts hbelow) hp (.of_eq ha hr))

/-- One more vote against a poll is stored. -/
theorem turn_of_nay (hbelow : p.nays.length + 1 < veto)
    (hpending : b.pending s' = Function.update (b.pending s) y (some (p.addNay g)))
    (happroved : b.approved s' = b.approved s) (hrejected : b.rejected s' = b.rejected s) :
    b.Turn cast T quorum veto lapsed s s' x :=
  .of_update hpending (happroved.trans (Function.update_eq_self y _).symm)
    (hrejected.trans (Function.update_eq_self y _).symm)
    (fun hp ha hr => .voted p _ hbefore (.nay hcounts hbelow) hp (.of_eq ha hr))

/-- The poll is stored as approved, with one more vote. -/
theorem turn_of_passed (hreached : quorum p.kind ≤ p.ayes.length + 1)
    (hpending : b.pending s' = Function.update (b.pending s) y none)
    (happroved : b.approved s' = Function.update (b.approved s) y (some (p.addAye g)))
    (hrejected : b.rejected s' = b.rejected s) :
    b.Turn cast T quorum veto lapsed s s' x :=
  .of_update hpending happroved (hrejected.trans (Function.update_eq_self y _).symm)
    (.passed p _ hbefore (.passed hcounts hreached))

/-- The poll is stored as rejected, with one more vote. -/
theorem turn_of_failed (hreached : veto ≤ p.nays.length + 1)
    (hpending : b.pending s' = Function.update (b.pending s) y none)
    (happroved : b.approved s' = b.approved s)
    (hrejected : b.rejected s' = Function.update (b.rejected s) y (some (p.addNay g))) :
    b.Turn cast T quorum veto lapsed s s' x :=
  .of_update hpending (happroved.trans (Function.update_eq_self y _).symm) hrejected
    (.failed p _ hbefore (.failed hcounts hreached))

end Votes

/-- An approved poll is removed. -/
theorem turn_of_removed (hpending : b.pending s' = b.pending s)
    (happroved : b.approved s' = Function.update (b.approved s) y none)
    (hrejected : b.rejected s' = b.rejected s) :
    b.Turn cast T quorum veto lapsed s s' x :=
  .of_update (hpending.trans (Function.update_eq_self y _).symm) happroved
    (hrejected.trans (Function.update_eq_self y _).symm)
    (fun hp ha hr => .of_eq hp ⟨.inr ha, .inl hr⟩)

end Update

/-! ### Runs -/

/-- A board without pending and without rejected polls is sound. -/
theorem sound_of_none (hpending : ∀ x, b.pending s x = none)
    (hrejected : ∀ x, b.rejected s x = none) : b.Sound cast T quorum veto s := by
  refine ⟨fun x p hp => ?_, fun x p hp => ?_, fun x => .inr (hrejected x)⟩
  · cases (hpending x).symm.trans hp
  · cases (hpending x).symm.trans hp

/-- **A system whose steps are turns keeps to the protocol**, if it starts with a sound board and the
thresholds of its polls exceed the electorate by at most one. -/
theorem governs_of_turn {S' A : Type} {sys : TransitionSystem S' A} {view : S' → S}
    {lapsed : S' → A → X → Prop} (hcast : ∀ {g v v'}, cast g v → cast g v' → v = v')
    (hthresholds : ∀ s x p, b.pending s x = some p → quorum p.kind + veto ≤ T.card + 1)
    (hinit : b.Sound cast T quorum veto (view sys.init))
    (hturn : ∀ s a s' x, sys.Reachable s → sys.step s a s' →
      b.Turn cast T quorum veto (lapsed s a) (view s) (view s') x) :
    b.Governs cast T quorum veto sys view lapsed := by
  have hsound : ∀ s, sys.Reachable s → b.Sound cast T quorum veto (view s) := by
    intro s hs
    apply hs.induction (P := fun s => b.Sound cast T quorum veto (view s)) hinit
    intro s a s' hr hsound hstep
    exact hsound.step fun x => hturn s a s' x hr hstep
  refine ⟨hsound, fun s x p hs hp => ?_, hturn⟩
  exact ((hsound s hs).isOpen x p hp).exists_not_voted hcast (hthresholds _ x p hp)

end Board

end Machine
