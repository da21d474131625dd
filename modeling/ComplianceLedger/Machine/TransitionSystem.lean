import Mathlib.Data.List.Induction
import Mathlib.Logic.Relation

/-!
# Transition systems

A system starts in one state and steps under labels. A run is the list of the labels of its
steps; a state is reachable when a run ends in it. `restrict good` keeps the steps whose label is
good in the state before the step, so that its runs are the runs all of whose steps meet a
condition.

## Main definitions

* `TransitionSystem S A`: an initial state and a labelled step relation
* `Run T as s`: the run with the labels `as` ends in `s`
* `Reaches T s s'`: a run leads from one state to another
* `Path T s as s'`: the labels `as` lead from one state to another
* `restrict T good`: the system of the good steps
* `Trace T history s`: the run with these steps ends in `s`

## Main results

* `Reachable.invariant`: what holds initially and is kept by every step holds in every reachable
  state
* `Reaches.rel`: a preorder that every step respects relates the ends of a run
* `Run.of_restrict`: the runs of the restricted system are runs
* `Run.of_foldlM`, `exists_run_of_foldlM`: labels that can be executed one after another are a run
* `step_of_guarded`: a step that is good and can be executed is one of the restricted system
* `Trace.since`: what a step brings about and every later step keeps holds at the end
* `Reachable.simulate`: a system that moves as another one does reaches only what that one reaches
-/

namespace Machine

/-- An initial state and a labelled step relation. -/
structure TransitionSystem (S A : Type) where
  init : S
  step : S → A → S → Prop

namespace TransitionSystem

variable {S A : Type} {T : TransitionSystem S A} {good : S → A → Prop}

/-- The run with the labels `as`, in order, ends in `s`. -/
inductive Run (T : TransitionSystem S A) : List A → S → Prop
  | init : Run T [] T.init
  | step {as : List A} {s s' : S} {a : A} : Run T as s → T.step s a s' → Run T (as ++ [a]) s'

/-- Some run ends in `s`. -/
def Reachable (T : TransitionSystem S A) (s : S) : Prop := ∃ as, Run T as s

/-- The steps of `T` whose label is good in the state before the step. -/
def restrict (T : TransitionSystem S A) (good : S → A → Prop) : TransitionSystem S A where
  init := T.init
  step s a s' := T.step s a s' ∧ good s a

/-- A run leads from `s` to `s'`. -/
def Reaches (T : TransitionSystem S A) (s s' : S) : Prop :=
  Relation.ReflTransGen (fun s s' => ∃ a, T.step s a s') s s'

/-- The labels `as`, in order, lead from `s` to `s'`. -/
inductive Path (T : TransitionSystem S A) : S → List A → S → Prop
  | nil {s : S} : Path T s [] s
  | cons {s s₁ s' : S} {a : A} {as : List A} :
      T.step s a s₁ → Path T s₁ as s' → Path T s (a :: as) s'

theorem Path.append {s s₁ s' : S} {as bs : List A} (h : Path T s as s₁) (h' : Path T s₁ bs s') :
    Path T s (as ++ bs) s' := by
  induction h with
  | nil => exact h'
  | cons hs _ ih => exact .cons hs (ih h')

theorem Reachable.init : Reachable T T.init := ⟨[], Run.init⟩

theorem Reachable.step {s s' : S} {a : A} (h : Reachable T s) (hs : T.step s a s') :
    Reachable T s' :=
  h.elim fun as hr => ⟨as ++ [a], hr.step hs⟩

theorem Reachable.reaches {s s' : S} (h : Reachable T s) (hs : T.Reaches s s') : Reachable T s' := by
  induction hs with
  | refl => exact h
  | tail _ hstep ih => exact hstep.elim fun _ hstep => ih.step hstep

/-- A preorder that every step from a reachable state respects relates the ends of a run. -/
theorem Reaches.rel {R : S → S → Prop} (hrefl : ∀ s, R s s)
    (htrans : ∀ {s₁ s₂ s₃}, R s₁ s₂ → R s₂ s₃ → R s₁ s₃)
    (hstep : ∀ {s a s'}, Reachable T s → T.step s a s' → R s s') {s s' : S} (h : Reachable T s)
    (hs : T.Reaches s s') : R s s' := by
  induction hs with
  | refl => exact hrefl s
  | tail hs hlast ih =>
    obtain ⟨a, hlast⟩ := hlast
    exact htrans ih (hstep (h.reaches hs) hlast)

/-- **The invariant rule.** -/
theorem Reachable.invariant {P : S → Prop} (hinit : P T.init)
    (hstep : ∀ {s a s'}, P s → T.step s a s' → P s') {s : S} (h : Reachable T s) : P s := by
  obtain ⟨as, hr⟩ := h
  induction hr with
  | init => exact hinit
  | step _ hs ih => exact hstep ih hs

/-- The invariant rule, for steps from a reachable state. -/
theorem Reachable.induction {P : S → Prop} (hinit : P T.init)
    (hstep : ∀ {s a s'}, Reachable T s → P s → T.step s a s' → P s') {s : S} (h : Reachable T s) :
    P s :=
  (h.invariant (P := fun s => Reachable T s ∧ P s) ⟨Reachable.init, hinit⟩
    fun hs hlast => ⟨hs.1.step hlast, hstep hs.1 hs.2 hlast⟩).2

theorem Run.of_restrict {as : List A} {s : S} (h : Run (T.restrict good) as s) : Run T as s := by
  induction h with
  | init => exact Run.init
  | step _ hs ih => exact ih.step hs.1

/-- Labels that can be executed one after another are a run. -/
theorem Run.of_foldlM {next : S → A → Option S}
    (hnext : ∀ {s a s'}, next s a = some s' → T.step s a s') {as : List A} {s : S}
    (h : as.foldlM next T.init = some s) : Run T as s := by
  -- a run grows at its end, so the induction takes the labels from the end
  induction as using List.reverseRecOn generalizing s with
  | nil =>
    obtain rfl : T.init = s := Option.some.inj h
    exact Run.init
  | append_singleton as a ih =>
    rw [List.foldlM_append, Option.bind_eq_bind, Option.bind_eq_some_iff] at h
    obtain ⟨s₁, has, h⟩ := h
    apply (ih has).step
    apply hnext
    simpa using h

/-- A decidable property of the last state of an execution holds in the state that the run ends
in. -/
theorem exists_run_of_foldlM {p : S → Bool} (next : S → A → Option S)
    (hnext : ∀ {s a s'}, next s a = some s' → T.step s a s') (as : List A)
    (h : (as.foldlM next T.init).any p = true) : ∃ s, Run T as s ∧ p s = true := by
  rw [Option.any_eq_true] at h
  obtain ⟨s, hs, hp⟩ := h
  exact ⟨s, Run.of_foldlM hnext hs, hp⟩

theorem exists_reachable_of_foldlM {p : S → Bool} (next : S → A → Option S)
    (hnext : ∀ {s a s'}, next s a = some s' → T.step s a s') (as : List A)
    (h : (as.foldlM next T.init).any p = true) : ∃ s, Reachable T s ∧ p s = true := by
  obtain ⟨s, hs, hp⟩ := exists_run_of_foldlM next hnext as h
  exact ⟨s, ⟨as, hs⟩, hp⟩

/-- Execute the good steps only. -/
def guarded (good : S → A → Prop) [∀ s a, Decidable (good s a)] (next : S → A → Option S) (s : S)
    (a : A) : Option S :=
  if good s a then next s a else none

theorem step_of_guarded [∀ s a, Decidable (good s a)] {next : S → A → Option S}
    (hnext : ∀ {s a s'}, next s a = some s' → T.step s a s') {s s' : S} {a : A}
    (h : guarded good next s a = some s') : (T.restrict good).step s a s' := by
  unfold guarded at h
  split at h
  · next hgood => exact ⟨hnext h, hgood⟩
  · cases h

theorem Reachable.of_restrict {s : S} (h : Reachable (T.restrict good) s) : Reachable T s :=
  h.imp fun _ hr => hr.of_restrict

/-- **Simulation**: a system that moves only as another one does, seen through `f`, reaches only what
that one reaches. -/
theorem Reachable.simulate {S' A' : Type} {T' : TransitionSystem S' A'} (f : S → S')
    (hinit : f T.init = T'.init)
    (hstep : ∀ {s a s'}, T.step s a s' → f s' = f s ∨ ∃ b, T'.step (f s) b (f s')) {s : S}
    (h : Reachable T s) : Reachable T' (f s) := by
  refine h.invariant (P := fun s => Reachable T' (f s)) (hinit ▸ Reachable.init) ?_
  intro s a s' hs hlast
  rcases hstep hlast with hsame | ⟨b, hb⟩
  · exact hsame ▸ hs
  · exact hs.step hb

/-! ## Histories -/

/-- A step that was taken: the states before and after it, and its label. -/
structure Transition (S A : Type) where
  before : S
  label : A
  after : S

/-- The steps `history` were taken, in order, and lead to `s`. -/
inductive Trace (T : TransitionSystem S A) : List (Transition S A) → S → Prop
  | init : Trace T [] T.init
  | step {history : List (Transition S A)} {s s' : S} {a : A} :
    Trace T history s → T.step s a s' → Trace T (history ++ [⟨s, a, s'⟩]) s'

theorem Trace.reachable {history : List (Transition S A)} {s : S} (h : Trace T history s) :
    Reachable T s := by
  induction h with
  | init => exact Reachable.init
  | step _ hs ih => exact ih.step hs

theorem Trace.of_restrict {history : List (Transition S A)} {s : S}
    (h : Trace (T.restrict good) history s) : Trace T history s := by
  induction h with
  | init => exact Trace.init
  | step _ hs ih => exact ih.step hs.1

theorem Trace.restrict_imp {good' : S → A → Prop} (himp : ∀ s a, good s a → good' s a)
    {history : List (Transition S A)} {s : S} (h : Trace (T.restrict good) history s) :
    Trace (T.restrict good') history s := by
  induction h with
  | init => exact Trace.init
  | step _ hs ih => exact ih.step ⟨hs.1, himp _ _ hs.2⟩

/-- The invariant rule, for invariants of the history and the state reached. -/
theorem Trace.induction {P : List (Transition S A) → S → Prop} (hinit : P [] T.init)
    (hstep : ∀ {history s a s'}, Reachable T s → P history s → T.step s a s' →
      P (history ++ [⟨s, a, s'⟩]) s') {history : List (Transition S A)} {s : S}
    (h : Trace T history s) : P history s := by
  induction h with
  | init => exact hinit
  | step htrace hs ih => exact hstep htrace.reachable ih hs

theorem Trace.of_snoc {history : List (Transition S A)} {t : Transition S A} {s : S}
    (h : Trace T (history ++ [t]) s) :
    Trace T history t.before ∧ T.step t.before t.label t.after ∧ t.after = s := by
  generalize hl : history ++ [t] = l at h
  cases h with
  | init => simp at hl
  | step htrace hs =>
    obtain ⟨rfl, ht⟩ := List.append_inj' hl rfl
    obtain rfl := List.singleton_inj.mp ht
    exact ⟨htrace, hs, rfl⟩

/-- Each step of a history was taken from a reachable state. -/
theorem Trace.of_mem {history : List (Transition S A)} {s : S} (h : Trace T history s)
    {t : Transition S A} (ht : t ∈ history) :
    Reachable T t.before ∧ T.step t.before t.label t.after := by
  induction h with
  | init => exact (List.not_mem_nil ht).elim
  | step htrace hs ih =>
    rcases List.mem_append.mp ht with ht | ht
    · exact ih ht
    · obtain rfl := List.mem_singleton.mp ht
      exact ⟨htrace.reachable, hs⟩

/-- What a step brings about and every later step keeps holds at the end. -/
theorem Trace.since {Q : S → Prop} {earlier later : List (Transition S A)} {t : Transition S A} {s : S}
    (h : Trace T (earlier ++ t :: later) s)
    (hstart : Reachable T t.before → T.step t.before t.label t.after → Q t.after)
    (hkeep : ∀ u ∈ later, Reachable T u.before → T.step u.before u.label u.after → Q u.before →
      Q u.after) : Q s := by
  induction later using List.reverseRecOn generalizing s with
  | nil =>
    obtain ⟨htrace, hstep, rfl⟩ := h.of_snoc
    exact hstart htrace.reachable hstep
  | append_singleton later u ih =>
    rw [← List.cons_append, ← List.append_assoc] at h
    obtain ⟨htrace, hstep, rfl⟩ := h.of_snoc
    have hbefore := ih htrace fun w hw => hkeep w (List.mem_append_left _ hw)
    exact hkeep u (by simp) htrace.reachable hstep hbefore

/-- Execute a label and record the step. -/
def record (next : S → A → Option S) (p : List (Transition S A) × S) (a : A) :
    Option (List (Transition S A) × S) :=
  (next p.2 a).map fun s' => (p.1 ++ [⟨p.2, a, s'⟩], s')

theorem Trace.of_foldlM {next : S → A → Option S}
    (hnext : ∀ {s a s'}, next s a = some s' → T.step s a s') {as : List A}
    {p : List (Transition S A) × S} (h : as.foldlM (record next) ([], T.init) = some p) :
    Trace T p.1 p.2 := by
  induction as using List.reverseRecOn generalizing p with
  | nil =>
    obtain rfl : ([], T.init) = p := Option.some.inj h
    exact Trace.init
  | append_singleton as a ih =>
    rw [List.foldlM_append, Option.bind_eq_bind, Option.bind_eq_some_iff] at h
    obtain ⟨p₁, has, h⟩ := h
    rw [List.foldlM_cons, Option.bind_eq_bind, Option.bind_eq_some_iff] at h
    obtain ⟨p₂, hrecord, hlast⟩ := h
    obtain ⟨s', hs', rfl⟩ := Option.map_eq_some_iff.mp hrecord
    obtain rfl := Option.some.inj hlast
    exact (ih has).step (hnext hs')

/-- A decidable property of a recorded execution holds for a history. -/
theorem exists_trace_of_foldlM {p : List (Transition S A) → S → Bool} (next : S → A → Option S)
    (hnext : ∀ {s a s'}, next s a = some s' → T.step s a s') (as : List A)
    (h : (as.foldlM (record next) ([], T.init)).any (fun r => p r.1 r.2) = true) :
    ∃ history s, Trace T history s ∧ p history s = true := by
  rw [Option.any_eq_true] at h
  obtain ⟨r, hr, hp⟩ := h
  exact ⟨r.1, r.2, Trace.of_foldlM hnext hr, hp⟩

end TransitionSystem

end Machine
