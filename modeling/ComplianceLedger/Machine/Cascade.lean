import ComplianceLedger.Machine.Acyclic

/-!
# Cascades

A store keeps, under each key, a list of child nodes. The cascade from a key visits every child in
turn, cascades from the child's own key, and at the end empties the list of the key it started
from. The recursion has neither a depth bound nor a visited set: `cascade fuel` is its run with at
most `fuel` nested calls, and it returns exactly when the children form a well-founded graph
(`exists_cascade`).

`dead s k` says that the node under `k` has been visited. The laws `Cascade.Lawful` say that a
visit kills its node and changes no list of children, and that only the end of a cascade empties a
list.

## Main definitions

* `cascade`: the recursive visit
* `Cascade.Lawful`: the laws of `visit` and `finish`
* `Cascade.Below`: what a cascade has done between two stores
* `Cascade.Pruned`: the lists of children are those of an earlier store, some emptied
* `Cascade.Forest`: every node is on one list at most, and once

## Main results

* `cascade_mono`, `exists_cascade`: more fuel changes nothing, and some fuel is enough
* `cascade_below`: a cascade from a dead node empties lists of dead nodes only, and a child leaves
  a list only when it is dead
* `cascade_dead_only`: a cascade kills only nodes below the key it starts from
* `cascade_rel`, `cascade_rel_of_children`: a preorder kept by `visit` and `finish` is kept by a
  cascade
* `cascade_rel_of_live`: in a forest it is enough that the visits of living nodes keep it
-/

namespace Machine

variable {S N K : Type}

section Definition

variable (key : N → K) (children : S → K → List N) (visit : N → S → S) (finish : K → S → S)

/-- Visit the children of `k`, cascading from each, and empty the list of `k`. -/
def cascade : ℕ → K → S → Option S
  | 0, _, _ => none
  | fuel + 1, k, s =>
    ((children s k).foldlM (fun s c => cascade fuel (key c) (visit c s)) s).map (finish k)

/-- The edges of a store: from a key to the keys of its children. -/
def Cascade.Edge (s : S) (c p : K) : Prop := ∃ n ∈ children s p, key n = c

end Definition

variable {key : N → K} {children : S → K → List N} {visit : N → S → S} {finish : K → S → S}
  {dead : S → K → Prop}

/-! ## Fuel -/

/-- A fold whose steps return with less fuel returns with more. -/
theorem foldlM_mono {f g : S → N → Option S} (h : ∀ s c s', f s c = some s' → g s c = some s') :
    ∀ (cs : List N) {s s' : S}, cs.foldlM f s = some s' → cs.foldlM g s = some s' := by
  intro cs
  induction cs with
  | nil => exact fun hs => hs
  | cons c cs ih =>
    intro s s' hs
    simp only [List.foldlM_cons, Option.bind_eq_bind, Option.bind_eq_some_iff] at hs ⊢
    obtain ⟨s₁, h₁, h₂⟩ := hs
    exact ⟨s₁, h s c s₁ h₁, ih h₂⟩

theorem cascade_succ_of_cascade {fuel : ℕ} : ∀ {k : K} {s s' : S},
    cascade key children visit finish fuel k s = some s' →
      cascade key children visit finish (fuel + 1) k s = some s' := by
  induction fuel with
  | zero => exact fun h => nomatch h
  | succ fuel ih =>
    intro k s s' h
    rw [cascade, Option.map_eq_some_iff] at h ⊢
    obtain ⟨s₁, h₁, rfl⟩ := h
    exact ⟨s₁, foldlM_mono (fun _ _ _ hc => ih hc) _ h₁, rfl⟩

theorem cascade_mono {fuel fuel' : ℕ} (hle : fuel ≤ fuel') {k : K} {s s' : S}
    (h : cascade key children visit finish fuel k s = some s') :
    cascade key children visit finish fuel' k s = some s' := by
  induction hle with
  | refl => exact h
  | step _ ih => exact cascade_succ_of_cascade ih

/-! ## Induction over a cascade -/

/-- **The preorder rule**: what relates the stores before and after every visit and every end of a
cascade relates the stores before and after the whole of it. -/
theorem cascade_rel {R : S → S → Prop} (hrefl : ∀ s, R s s)
    (htrans : ∀ {s₁ s₂ s₃}, R s₁ s₂ → R s₂ s₃ → R s₁ s₃) (hvisit : ∀ c s, R s (visit c s))
    (hfinish : ∀ k s, R s (finish k s)) {fuel : ℕ} : ∀ {k : K} {s s' : S},
    cascade key children visit finish fuel k s = some s' → R s s' := by
  induction fuel with
  | zero => exact fun h => nomatch h
  | succ fuel ih =>
    intro k s s' h
    rw [cascade, Option.map_eq_some_iff] at h
    obtain ⟨s₁, h₁, rfl⟩ := h
    refine htrans ?_ (hfinish k s₁)
    generalize children s k = cs at h₁
    induction cs generalizing s with
    | nil =>
      obtain rfl : s = s₁ := Option.some.inj h₁
      exact hrefl s
    | cons c cs ihcs =>
      simp only [List.foldlM_cons, Option.bind_eq_bind, Option.bind_eq_some_iff] at h₁
      obtain ⟨s₂, h₂, h₃⟩ := h₁
      exact htrans (htrans (hvisit c s) (ih h₂)) (ihcs h₃)

/-- The laws of a cascade: a visit kills the node it visits, and only the end of a cascade empties
a list of children. -/
structure Cascade.Lawful [DecidableEq K] (key : N → K) (children : S → K → List N)
    (visit : N → S → S) (finish : K → S → S) (dead : S → K → Prop) : Prop where
  children_visit : ∀ c s k, children (visit c s) k = children s k
  children_finish : ∀ k s k', children (finish k s) k' = if k' = k then [] else children s k'
  dead_visit : ∀ c s k, dead (visit c s) k ↔ k = key c ∨ dead s k
  dead_finish : ∀ k s k', dead (finish k s) k' ↔ dead s k'

/-- What a cascade has done between `s` and `s'`: it has emptied lists of dead nodes only, a child
has left a list only when it is dead, and the list of a node it has killed is empty. -/
structure Cascade.Below (key : N → K) (children : S → K → List N) (dead : S → K → Prop)
    (s s' : S) : Prop where
  children_eq : ∀ k, children s' k = children s k ∨ (dead s' k ∧ children s' k = [])
  dead_of_lost : ∀ k c, c ∈ children s k → c ∉ children s' k → dead s' (key c)
  empty_of_dead : ∀ k, dead s' k → dead s k ∨ children s' k = []
  dead_mono : ∀ k, dead s k → dead s' k

namespace Cascade

theorem Below.refl (s : S) : Below key children dead s s where
  children_eq _ := Or.inl rfl
  dead_of_lost _ _ h h' := absurd h h'
  empty_of_dead _ := Or.inl
  dead_mono _ := id

theorem Below.trans {s₁ s₂ s₃ : S} (h : Below key children dead s₁ s₂)
    (h' : Below key children dead s₂ s₃) : Below key children dead s₁ s₃ where
  children_eq k := by
    rcases h'.children_eq k with he | he
    · rcases h.children_eq k with he' | ⟨hd, he'⟩
      · exact Or.inl (he.trans he')
      · exact Or.inr ⟨h'.dead_mono k hd, he.trans he'⟩
    · exact Or.inr he
  dead_of_lost k c hc hc' := by
    by_cases hc₂ : c ∈ children s₂ k
    · exact h'.dead_of_lost k c hc₂ hc'
    · exact h'.dead_mono _ (h.dead_of_lost k c hc hc₂)
  empty_of_dead k hk := by
    rcases h'.empty_of_dead k hk with hk | hk
    · refine (h.empty_of_dead k hk).imp_right fun he => ?_
      exact (h'.children_eq k).elim (fun he' => he'.trans he) And.right
    · exact Or.inr hk
  dead_mono k hk := h'.dead_mono k (h.dead_mono k hk)

end Cascade

/-- The lists of children are those of `s₀`, some of them emptied. -/
def Cascade.Pruned (children : S → K → List N) (s₀ s : S) : Prop :=
  ∀ k, children s k = children s₀ k ∨ children s k = []

/-- A child on a list that was pruned is one of `s₀`. -/
theorem Cascade.Pruned.mem {s₀ s : S} (h : Cascade.Pruned children s₀ s) {c : N} {k : K}
    (hc : c ∈ children s k) : c ∈ children s₀ k := by
  rcases h k with he | he <;> rw [he] at hc
  · exact hc
  · cases hc

theorem Cascade.Pruned.edge {s₀ s : S} (h : Cascade.Pruned children s₀ s) {c : N} {k : K}
    (hc : c ∈ children s k) : Cascade.Edge key children s₀ (key c) k :=
  ⟨c, h.mem hc, rfl⟩

/-! ## Forests -/

/-- Every node is on one list at most, and once, and there are no cycles. -/
structure Cascade.Forest (key : N → K) (children : S → K → List N) (s : S) : Prop where
  acyclic : Acyclic (Cascade.Edge key children s)
  parent : Relator.RightUnique (Cascade.Edge key children s)
  distinct : ∀ k, ((children s k).map key).Nodup

/-- A forest with some nodes taken off its lists is one. -/
theorem Cascade.Forest.of_sublist {s s' : S} (h : Cascade.Forest key children s)
    (hsub : ∀ k, (children s' k).Sublist (children s k)) : Cascade.Forest key children s' := by
  have hedge : ∀ c p, Cascade.Edge key children s' c p → Cascade.Edge key children s c p := by
    rintro c p ⟨n, hn, hkey⟩
    exact ⟨n, (hsub p).subset hn, hkey⟩
  refine ⟨h.acyclic.mono hedge, ?_, fun k => (h.distinct k).sublist ((hsub k).map key)⟩
  intro c p p' hp hp'
  exact h.parent (hedge c p hp) (hedge c p' hp')

/-- Nothing lies below two children of one node. -/
theorem Cascade.Forest.eq_of_below {s : S} (h : Cascade.Forest key children s) {k c d k' : K}
    (hc : Cascade.Edge key children s c k) (hd : Cascade.Edge key children s d k)
    (hk'c : Relation.ReflTransGen (Cascade.Edge key children s) k' c)
    (hk'd : Relation.ReflTransGen (Cascade.Edge key children s) k' d) : c = d := by
  -- of two nodes above a third one, one is above the other
  have habove : ∀ {c d : K}, Cascade.Edge key children s c k → Cascade.Edge key children s d k →
      Relation.ReflTransGen (Cascade.Edge key children s) c d → c = d := by
    intro c d hc hd hcd
    rcases Relation.ReflTransGen.cases_head hcd with heq | ⟨p, hp, hpd⟩
    · exact heq
    · -- the way up from `c` goes through `k`, which is itself above `d`
      rw [h.parent hp hc] at hpd
      exact absurd (Relation.TransGen.tail' hpd hd) (h.acyclic.not_transGen_self k)
  rcases Relation.ReflTransGen.total_of_right_unique h.parent hk'c hk'd with hcd | hdc
  · exact habove hc hd hcd
  · exact (habove hd hc hdc).symm

section Lawful

variable [DecidableEq K] (law : Cascade.Lawful key children visit finish dead)

include law

/-- A visit followed by the cascade from the visited node. -/
theorem Cascade.Below.of_visit {c : N} {s s' : S}
    (h : Cascade.Below key children dead (visit c s) s') (hself : children s' (key c) = []) :
    Cascade.Below key children dead s s' where
  children_eq k := law.children_visit c s k ▸ h.children_eq k
  dead_of_lost k n hn hn' := h.dead_of_lost k n (law.children_visit c s k ▸ hn) hn'
  empty_of_dead k hk := by
    rcases h.empty_of_dead k hk with hk | hk
    · rcases (law.dead_visit c s k).mp hk with rfl | hk
      · exact Or.inr hself
      · exact Or.inl hk
    · exact Or.inr hk
  dead_mono k hk := h.dead_mono k ((law.dead_visit c s k).mpr (Or.inr hk))

/-- The end of a cascade from a dead node empties a list of dead children. -/
theorem Cascade.Below.end_of {k : K} {s s' : S} (h : Cascade.Below key children dead s s')
    (hk : dead s k) (hdead : ∀ c ∈ children s k, dead s' (key c)) :
    Cascade.Below key children dead s (finish k s') where
  children_eq k' := by
    rw [law.children_finish, law.dead_finish]
    split
    · next hk' => exact Or.inr ⟨hk' ▸ h.dead_mono k hk, rfl⟩
    · exact h.children_eq k'
  dead_of_lost k' c hc hc' := by
    rw [law.children_finish] at hc'
    rw [law.dead_finish]
    split at hc'
    · next hk => exact hdead c (hk ▸ hc)
    · exact h.dead_of_lost k' c hc hc'
  empty_of_dead k' hk' := by
    rw [law.dead_finish] at hk'
    rw [law.children_finish]
    split
    · exact Or.inr rfl
    · exact h.empty_of_dead k' hk'
  dead_mono k' hk' := (law.dead_finish k s' k').mpr (h.dead_mono k' hk')

/-- **What a cascade does** when it starts from a dead node: it kills every child it takes off a
list, empties the lists of dead nodes only, and leaves the list of its own key empty. -/
theorem cascade_below {fuel : ℕ} : ∀ {k : K} {s s' : S}, dead s k →
    cascade key children visit finish fuel k s = some s' →
      Cascade.Below key children dead s s' ∧ children s' k = [] := by
  induction fuel with
  | zero => exact fun _ h => nomatch h
  | succ fuel ih =>
    intro k s s' hk h
    rw [cascade, Option.map_eq_some_iff] at h
    obtain ⟨s₁, h₁, rfl⟩ := h
    have hfold : ∀ (cs : List N) {t : S},
        cs.foldlM (fun s c => cascade key children visit finish fuel (key c) (visit c s)) t
          = some s₁ →
        Cascade.Below key children dead t s₁ ∧ ∀ c ∈ cs, dead s₁ (key c) := by
      intro cs
      induction cs with
      | nil =>
        intro t ht
        obtain rfl : t = s₁ := Option.some.inj ht
        exact ⟨Cascade.Below.refl t, fun c hc => nomatch hc⟩
      | cons c cs ihcs =>
        intro t ht
        simp only [List.foldlM_cons, Option.bind_eq_bind, Option.bind_eq_some_iff] at ht
        obtain ⟨t₁, ht₁, ht₂⟩ := ht
        -- the visit has killed the child before the cascade from it starts
        have hkilled : dead (visit c t) (key c) := (law.dead_visit c t _).mpr (Or.inl rfl)
        obtain ⟨hc, hself⟩ := ih hkilled ht₁
        obtain ⟨hrest, hcs⟩ := ihcs ht₂
        refine ⟨(hc.of_visit law hself).trans hrest, fun n hn => ?_⟩
        rcases List.mem_cons.mp hn with rfl | hn
        · exact hrest.dead_mono _ (hc.dead_mono _ hkilled)
        · exact hcs n hn
    obtain ⟨hbelow, hdead⟩ := hfold (children s k) h₁
    refine ⟨hbelow.end_of law hk hdead, ?_⟩
    rw [law.children_finish, if_pos rfl]

/-- A visit prunes nothing. -/
theorem Cascade.Pruned.visited {s₀ s : S} (h : Cascade.Pruned children s₀ s) (c : N) :
    Cascade.Pruned children s₀ (visit c s) := fun k => by
  rw [law.children_visit]
  exact h k

/-- A visit and the cascade from the visited node only prune. -/
theorem Cascade.Pruned.cascaded {s₀ s s' : S} {c : N} {fuel : ℕ}
    (h : Cascade.Pruned children s₀ s)
    (hc : cascade key children visit finish fuel (key c) (visit c s) = some s') :
    Cascade.Pruned children s₀ s' := by
  intro k
  have hkilled : dead (visit c s) (key c) := (law.dead_visit c s _).mpr (Or.inl rfl)
  rcases (cascade_below law hkilled hc).1.children_eq k with he | ⟨-, he⟩
  · rw [he]
    exact h.visited law c k
  · exact Or.inr he

/-- **The preorder rule for the nodes on the lists**: it is enough that the visits of children of
`s₀` respect the preorder, since no others are visited. -/
theorem cascade_rel_of_children {R : S → S → Prop} (hrefl : ∀ s, R s s)
    (htrans : ∀ {s₁ s₂ s₃}, R s₁ s₂ → R s₂ s₃ → R s₁ s₃) {s₀ : S}
    (hvisit : ∀ k, ∀ c ∈ children s₀ k, ∀ s, R s (visit c s)) (hfinish : ∀ k s, R s (finish k s))
    {fuel : ℕ} : ∀ {k : K} {s s' : S}, Cascade.Pruned children s₀ s →
    cascade key children visit finish fuel k s = some s' → R s s' := by
  induction fuel with
  | zero => exact fun _ h => nomatch h
  | succ fuel ih =>
    intro k s s' hs h
    rw [cascade, Option.map_eq_some_iff] at h
    obtain ⟨s₁, h₁, rfl⟩ := h
    refine htrans ?_ (hfinish k s₁)
    have hmem : ∀ c ∈ children s k, c ∈ children s₀ k := fun c hc => hs.mem hc
    generalize children s k = cs at h₁ hmem
    induction cs generalizing s with
    | nil =>
      obtain rfl : s = s₁ := Option.some.inj h₁
      exact hrefl s
    | cons c cs ihcs =>
      simp only [List.foldlM_cons, Option.bind_eq_bind, Option.bind_eq_some_iff] at h₁
      obtain ⟨s₂, h₂, h₃⟩ := h₁
      have hfirst : R s s₂ :=
        htrans (hvisit k c (hmem c List.mem_cons_self) s) (ih (hs.visited law c) h₂)
      exact htrans hfirst (ihcs (hs.cascaded law h₂) h₃ fun n hn =>
        hmem n (List.mem_cons_of_mem _ hn))

/-- **What a cascade spares**: it kills only nodes below the key it starts from. -/
theorem cascade_dead_only {s₀ : S} {fuel : ℕ} : ∀ {k : K} {s s' : S},
    Cascade.Pruned children s₀ s →
    cascade key children visit finish fuel k s = some s' → ∀ {k' : K}, dead s' k' →
      dead s k' ∨ Relation.TransGen (Cascade.Edge key children s₀) k' k := by
  induction fuel with
  | zero => exact fun _ h => nomatch h
  | succ fuel ih =>
    intro k s s' hs h k' hk'
    rw [cascade, Option.map_eq_some_iff] at h
    obtain ⟨s₁, h₁, rfl⟩ := h
    rw [law.dead_finish] at hk'
    -- the children are read off the list once, before any of them is visited
    have hmem : ∀ c ∈ children s k, Cascade.Edge key children s₀ (key c) k := fun c hc => hs.edge hc
    generalize children s k = cs at h₁ hmem
    induction cs generalizing s with
    | nil =>
      obtain rfl : s = s₁ := Option.some.inj h₁
      exact Or.inl hk'
    | cons c cs ihcs =>
      simp only [List.foldlM_cons, Option.bind_eq_bind, Option.bind_eq_some_iff] at h₁
      obtain ⟨s₂, h₂, h₃⟩ := h₁
      have hc := hmem c List.mem_cons_self
      rcases ihcs (hs.cascaded law h₂) h₃ fun n hn => hmem n (List.mem_cons_of_mem _ hn) with hd | hd
      · -- killed by the first child: the child itself, or what lies below it
        rcases ih (hs.visited law c) h₂ hd with hd | hd
        · rcases (law.dead_visit c s k').mp hd with rfl | hd
          · exact Or.inr (Relation.TransGen.single hc)
          · exact Or.inl hd
        · exact Or.inr (hd.tail hc)
      · exact Or.inr hd

/-- A child dies with what lies below it, and nothing else of a forest does. -/
theorem Cascade.Forest.live_sibling {s₀ s s' : S} (hforest : Cascade.Forest key children s₀)
    (hs : Cascade.Pruned children s₀ s) {k : K} {c d : N}
    (hc : Cascade.Edge key children s₀ (key c) k) (hd : Cascade.Edge key children s₀ (key d) k)
    (hne : key c ≠ key d) {fuel : ℕ}
    (h : cascade key children visit finish fuel (key c) (visit c s) = some s') {k' : K}
    (hk' : Relation.ReflTransGen (Cascade.Edge key children s₀) k' (key d)) (hlive : ¬ dead s k') :
    ¬ dead s' k' := by
  intro hdead
  apply hne
  rcases cascade_dead_only law (hs.visited law c) h hdead with hdead | hpath
  · rcases (law.dead_visit c s k').mp hdead with rfl | hdead
    · exact hforest.eq_of_below hc hd Relation.ReflTransGen.refl hk'
    · exact absurd hdead hlive
  · exact hforest.eq_of_below hc hd hpath.to_reflTransGen hk'

/-- **The preorder rule for forests**: it is enough that the visits of living nodes respect the
preorder. If nothing below a node is dead, the cascade from it never visits a dead node. -/
theorem cascade_rel_of_live {R : S → S → Prop} (hrefl : ∀ s, R s s)
    (htrans : ∀ {s₁ s₂ s₃}, R s₁ s₂ → R s₂ s₃ → R s₁ s₃) {s₀ : S}
    (hforest : Cascade.Forest key children s₀)
    (hvisit : ∀ c s, ¬ dead s (key c) → R s (visit c s)) (hfinish : ∀ k s, R s (finish k s))
    {fuel : ℕ} : ∀ {k : K} {s s' : S}, Cascade.Pruned children s₀ s →
    (∀ k', Relation.TransGen (Cascade.Edge key children s₀) k' k → ¬ dead s k') →
    cascade key children visit finish fuel k s = some s' → R s s' := by
  induction fuel with
  | zero => exact fun _ _ h => nomatch h
  | succ fuel ih =>
    intro k s s' hs hlive h
    rw [cascade, Option.map_eq_some_iff] at h
    obtain ⟨s₁, h₁, rfl⟩ := h
    refine htrans ?_ (hfinish k s₁)
    -- what is still to be visited is on the list once, and alive with all that lies below it
    have hdistinct : ((children s k).map key).Nodup := by
      rcases hs k with he | he <;> rw [he]
      · exact hforest.distinct k
      · exact List.nodup_nil
    have hedge : ∀ c ∈ children s k, Cascade.Edge key children s₀ (key c) k := fun c hc => hs.edge hc
    replace hlive : ∀ c ∈ children s k, ∀ k',
        Relation.ReflTransGen (Cascade.Edge key children s₀) k' (key c) → ¬ dead s k' :=
      fun c hc k' hk' => hlive k' (Relation.TransGen.tail' hk' (hedge c hc))
    generalize children s k = cs at h₁ hdistinct hedge hlive
    induction cs generalizing s with
    | nil =>
      obtain rfl : s = s₁ := Option.some.inj h₁
      exact hrefl s
    | cons c cs ihcs =>
      simp only [List.foldlM_cons, Option.bind_eq_bind, Option.bind_eq_some_iff] at h₁
      obtain ⟨s₂, h₂, h₃⟩ := h₁
      obtain ⟨hnew, hdistinct⟩ := List.nodup_cons.mp hdistinct
      have hc := hedge c List.mem_cons_self
      have hfirst : R s s₂ := by
        refine htrans (hvisit c s (hlive c List.mem_cons_self _ Relation.ReflTransGen.refl))
          (ih (hs.visited law c) ?_ h₂)
        intro k' hk' hdead
        rcases (law.dead_visit c s k').mp hdead with rfl | hdead
        · exact hforest.acyclic.not_transGen_self _ hk'
        · exact hlive c List.mem_cons_self k' hk'.to_reflTransGen hdead
      refine htrans hfirst (ihcs (hs.cascaded law h₂) h₃ hdistinct
        (fun n hn => hedge n (List.mem_cons_of_mem _ hn)) ?_)
      intro d hd k' hk'
      have hne : key c ≠ key d := fun heq => hnew (heq ▸ List.mem_map_of_mem hd)
      exact hforest.live_sibling law hs hc (hedge d (List.mem_cons_of_mem _ hd)) hne h₂ hk'
        (hlive d (List.mem_cons_of_mem _ hd) k' hk')

/-- **A cascade returns** when the children form a well-founded graph. -/
theorem exists_cascade {s₀ : S} (hwf : WellFounded (Cascade.Edge key children s₀)) (k : K) :
    ∀ {s : S}, Cascade.Pruned children s₀ s →
      ∃ fuel s', cascade key children visit finish fuel k s = some s' := by
  induction k using hwf.induction with
  | _ k ih =>
    intro s hs
    suffices hfold : ∀ (cs : List N) {t : S}, (∀ c ∈ cs, Cascade.Edge key children s₀ (key c) k) →
        Cascade.Pruned children s₀ t →
        ∃ fuel s', cs.foldlM
          (fun s c => cascade key children visit finish fuel (key c) (visit c s)) t = some s' by
      obtain ⟨fuel, s', h⟩ := hfold (children s k) (fun c hc => hs.edge hc) hs
      exact ⟨fuel + 1, finish k s', by rw [cascade, h, Option.map_some]⟩
    intro cs
    induction cs with
    | nil => exact fun {t} _ _ => ⟨0, t, rfl⟩
    | cons c cs ihcs =>
      intro t hcs ht
      obtain ⟨f₁, t₁, h₁⟩ := ih (key c) (hcs c List.mem_cons_self) (ht.visited law c)
      obtain ⟨f₂, t₂, h₂⟩ :=
        ihcs (fun n hn => hcs n (List.mem_cons_of_mem _ hn)) (ht.cascaded law h₁)
      -- the first child and the rest need fuel of their own: the larger is enough for both
      refine ⟨max f₁ f₂, t₂, ?_⟩
      simp only [List.foldlM_cons, Option.bind_eq_bind, Option.bind_eq_some_iff]
      exact ⟨t₁, cascade_mono (le_max_left _ _) h₁,
        foldlM_mono (fun _ _ _ hc => cascade_mono (le_max_right _ _) hc) cs h₂⟩

end Lawful

end Machine
