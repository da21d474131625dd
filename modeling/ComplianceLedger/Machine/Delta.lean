import Mathlib.Data.List.Nodup
import Mathlib.Logic.Function.Basic

/-!
# Differences

A map is kept elsewhere by differences: of each change of an item only whether it enters or leaves
the map is sent. The receiver applies the changes in their order and refuses what makes no sense:
two changes under one name, an entry that is there already, the removal of what is not there.

## Main definitions

* `apply m changes`: the map after a list of changes
* `Proper m changes`: what the receiver demands
* `Mirrors items f m`: the map holds the values of the named items
* `diff old new items`: the changes from one value of the items to another

## Main results

* `proper_diff`: differences are proper
* `mirrors_apply_diff`: a map that mirrors the old values mirrors the new ones afterwards
-/

namespace Machine.Delta

variable {P W X : Type}

section Definitions

variable [DecidableEq P]

/-- The map after the changes: under each name the new value, or none. -/
def apply (m : P → Option W) (changes : List (P × Option W)) : P → Option W :=
  changes.foldl (fun m c => Function.update m c.1 c.2) m

/-- No name is changed twice, what enters is not there, and what leaves is. -/
structure Proper (m : P → Option W) (changes : List (P × Option W)) : Prop where
  nodup : (changes.map Prod.fst).Nodup
  enters : ∀ p w, (p, some w) ∈ changes → m p = none
  leaves : ∀ p, (p, none) ∈ changes → m p ≠ none

end Definitions

/-- The map holds the values of the items under their names, and nothing else. -/
def Mirrors (items : List (P × X)) (f : X → Option W) (m : P → Option W) : Prop :=
  ∀ p w, m p = some w ↔ ∃ x, (p, x) ∈ items ∧ f x = some w

/-- The changes of the items that enter or leave the map. -/
def diff (old new : X → Option W) (items : List (P × X)) : List (P × Option W) :=
  items.filterMap fun i => if (old i.2).isSome = (new i.2).isSome then none else some (i.1, new i.2)

section Apply

variable [DecidableEq P] {m : P → Option W} {changes : List (P × Option W)} {p : P} {w : Option W}

theorem apply_of_notMem (h : p ∉ changes.map Prod.fst) : apply m changes p = m p := by
  unfold apply
  induction changes generalizing m with
  | nil => rfl
  | cons c changes ih =>
    rw [List.map_cons, List.mem_cons, not_or] at h
    rw [List.foldl_cons, ih h.2, Function.update_of_ne h.1]

/-- A name that is changed once has the value of its change. -/
theorem apply_of_mem (hnodup : (changes.map Prod.fst).Nodup) (h : (p, w) ∈ changes) :
    apply m changes p = w := by
  induction changes generalizing m with
  | nil => cases h
  | cons c changes ih =>
    rw [List.map_cons, List.nodup_cons] at hnodup
    rcases List.mem_cons.mp h with rfl | h
    · -- the name does not occur again, so the first change stays
      change apply (Function.update m p w) changes p = w
      rw [apply_of_notMem hnodup.1, Function.update_self]
    · exact ih hnodup.2 h

end Apply

section Diff

variable {old new : X → Option W} {items : List (P × X)} {m : P → Option W} {p : P} {w : Option W}

theorem mem_diff_iff : (p, w) ∈ diff old new items ↔
    ∃ x, (p, x) ∈ items ∧ (old x).isSome ≠ (new x).isSome ∧ w = new x := by
  simp only [diff, List.mem_filterMap, Prod.exists]
  constructor
  · rintro ⟨p', x, hmem, h⟩
    split at h
    · cases h
    · next hne =>
      obtain ⟨rfl, rfl⟩ := Prod.mk.inj (Option.some.inj h)
      exact ⟨x, hmem, hne, rfl⟩
  · rintro ⟨x, hmem, hne, rfl⟩
    exact ⟨p, x, hmem, if_neg hne⟩

theorem diff_append (items' : List (P × X)) :
    diff old new (items ++ items') = diff old new items ++ diff old new items' :=
  List.filterMap_append

theorem diff_congr {old' : X → Option W} (h : ∀ i ∈ items, old i.2 = old' i.2) :
    diff old new items = diff old' new items :=
  List.filterMap_congr fun i hi => by rw [h i hi]

theorem diff_names_sublist :
    ((diff old new items).map Prod.fst).Sublist (items.map Prod.fst) := by
  induction items with
  | nil => exact List.Sublist.refl _
  | cons i items ih =>
    unfold diff at ih ⊢
    rw [List.filterMap_cons]
    split
    · exact ih.cons _
    · next c hc =>
      split at hc
      · cases hc
      · obtain rfl := Option.some.inj hc
        exact ih.cons_cons _

/-- Items with different names are told apart by them. -/
theorem eq_of_mem (hnodup : (items.map Prod.fst).Nodup) {x y : X} (hx : (p, x) ∈ items)
    (hy : (p, y) ∈ items) : x = y :=
  (Prod.mk.inj (List.inj_on_of_nodup_map hnodup hx hy rfl)).2

/-- **Differences are proper.** -/
theorem proper_diff (hnodup : (items.map Prod.fst).Nodup) (h : Mirrors items old m) :
    Proper m (diff old new items) := by
  refine ⟨hnodup.sublist diff_names_sublist, fun p w hmem => ?_, fun p hmem => ?_⟩
  · obtain ⟨x, hx, hne, hw⟩ := mem_diff_iff.mp hmem
    rw [← hw, Option.isSome_some, ne_eq, Option.isSome_iff_exists, not_exists] at hne
    by_contra hsome
    obtain ⟨w', hw'⟩ := Option.ne_none_iff_exists'.mp hsome
    obtain ⟨y, hy, hold⟩ := (h p w').mp hw'
    exact hne w' (eq_of_mem hnodup hy hx ▸ hold)
  · obtain ⟨x, hx, hne, hw⟩ := mem_diff_iff.mp hmem
    rw [← hw, Option.isSome_none, ne_eq, Bool.not_eq_false, Option.isSome_iff_exists] at hne
    obtain ⟨w', hw'⟩ := hne
    rw [(h p w').mpr ⟨x, hx, hw'⟩]
    exact Option.some_ne_none w'

/-- **Differences keep a mirror**, when the items that stay have the value they had. -/
theorem mirrors_apply_diff [DecidableEq P] (hnodup : (items.map Prod.fst).Nodup)
    (h : Mirrors items old m)
    (hstay : ∀ i ∈ items, (old i.2).isSome → (new i.2).isSome → old i.2 = new i.2) :
    Mirrors items new (apply m (diff old new items)) := by
  have hchanges : ((diff old new items).map Prod.fst).Nodup := hnodup.sublist diff_names_sublist
  intro p w
  by_cases hmem : p ∈ (diff old new items).map Prod.fst
  · obtain ⟨⟨p', w'⟩, hchange, rfl⟩ := List.mem_map.mp hmem
    obtain ⟨x, hx, -, rfl⟩ := mem_diff_iff.mp hchange
    rw [apply_of_mem hchanges hchange]
    refine ⟨fun hw => ⟨x, hx, hw⟩, ?_⟩
    rintro ⟨y, hy, hw⟩
    rwa [eq_of_mem hnodup hx hy]
  · have hsame : ∀ x, (p, x) ∈ items → (old x).isSome = (new x).isSome := by
      intro x hx
      by_contra hne
      exact hmem (List.mem_map_of_mem (mem_diff_iff.mpr ⟨x, hx, hne, rfl⟩))
    have heq : ∀ x, (p, x) ∈ items → old x = new x := by
      intro x hx
      cases hold : old x with
      | none =>
        have hnew := hsame x hx
        rw [hold, Option.isSome_none] at hnew
        exact (Option.not_isSome_iff_eq_none.mp (Bool.eq_false_iff.mp hnew.symm)).symm
      | some w' =>
        have hnew := hsame x hx
        rw [← hold]
        exact hstay _ hx (by rw [hold]; rfl) (by rw [← hnew, hold]; rfl)
    rw [apply_of_notMem hmem, h p w]
    refine exists_congr fun x => and_congr_right fun hx => ?_
    rw [heq x hx]

end Diff

end Machine.Delta
