import Mathlib.Data.List.Nodup
import Mathlib.Logic.Function.Basic

/-!
# Lists of the values of a partial function

An index keeps, in one list, the values that a table holds under a family of keys. The list is right
when it has every value once and nothing else; the order is the one in which the values came. The
operations on such a list are the loops that keep an index by hand: search and replace, append,
search and remove. Each of them changes the table that the list stands for at one key.

The list is itself the content of a record, and a record with an empty list is not kept.

## Main definitions

* `Lists key f l`: the list `l` has exactly the values of `f`, each under its key and once
* `upsert key x l`: replace the items with the key of `x`, or append `x`
* `Indexed key items f v`: the record `v`, if there is one, lists `f`; there is none for nothing

## Main results

* `Lists.append`, `Lists.upsert`, `Lists.eraseP`: what the operations do to the table
* `Indexed.lists`: the list of a record, or of none
-/

namespace Machine

variable {α κ V : Type} {key : α → κ} {f : κ → Option α} {l : List α} {x : α} {k : κ}

/-- The list has the values of `f`, each under its key and once. -/
structure Lists (key : α → κ) (f : κ → Option α) (l : List α) : Prop where
  nodup : (l.map key).Nodup
  get_iff : ∀ {k x}, f k = some x ↔ x ∈ l ∧ key x = k

/-- Replace every item that has the key of `x`, or append `x` if there is none. -/
def upsert [DecidableEq κ] (key : α → κ) (x : α) (l : List α) : List α :=
  if l.any fun y => key y = key x then l.map fun y => if key y = key x then x else y
  else l ++ [x]

namespace Lists

theorem nil : Lists key (fun _ => none) [] where
  nodup := List.nodup_nil
  get_iff := by simp

theorem mem_iff (h : Lists key f l) : x ∈ l ↔ f (key x) = some x := by
  rw [h.get_iff, and_iff_left rfl]

theorem get_eq_none_iff (h : Lists key f l) : f k = none ↔ ∀ x ∈ l, key x ≠ k := by
  constructor
  · intro hnone x hx hk
    rw [h.get_iff.mpr ⟨hx, hk⟩] at hnone
    cases hnone
  · intro hne
    cases hf : f k with
    | none => rfl
    | some x =>
      obtain ⟨hx, hk⟩ := h.get_iff.mp hf
      exact absurd hk (hne x hx)

theorem eq_nil_iff (h : Lists key f l) : l = [] ↔ ∀ k, f k = none := by
  constructor
  · rintro rfl k
    exact h.get_eq_none_iff.mpr fun x hx => absurd hx List.not_mem_nil
  · intro hnone
    refine List.eq_nil_iff_forall_not_mem.mpr fun x hx => ?_
    rw [h.mem_iff, hnone] at hx
    cases hx

/-- A list stands for one table. -/
theorem congr {g : κ → Option α} (h : Lists key f l) (hfg : ∀ k, f k = g k) : Lists key g l := by
  obtain rfl : f = g := funext hfg
  exact h

/-- Removing the first item with the key removes all items with it. -/
theorem mem_eraseP_iff (h : Lists key f l) {p : α → Bool}
    (hp : ∀ y ∈ l, p y = true ↔ key y = k) : x ∈ l.eraseP p ↔ x ∈ l ∧ key x ≠ k := by
  by_cases hex : ∃ y ∈ l, p y = true
  · obtain ⟨y, hy, hpy⟩ := hex
    obtain ⟨a, l₁, l₂, -, hpa, hl, herase⟩ := List.exists_of_eraseP hy hpy
    have hmem : ∀ {z}, z ∈ l ↔ z ∈ l₁ ∨ z = a ∨ z ∈ l₂ := by simp [hl]
    obtain rfl : key a = k := (hp a (hmem.mpr (.inr (.inl rfl)))).mp hpa
    -- the keys are distinct, so no other item has the key of `a`
    have hnodup := h.nodup
    rw [hl, List.map_append, List.map_cons, List.nodup_middle, List.nodup_cons, ← List.map_append,
      List.mem_map] at hnodup
    have hne : ∀ z ∈ l₁ ++ l₂, key z ≠ key a := fun z hz hk => hnodup.1 ⟨z, hz, hk⟩
    rw [herase, hmem]
    constructor
    · intro hx
      refine ⟨?_, hne x hx⟩
      exact (List.mem_append.mp hx).imp_right .inr
    · rintro ⟨hx | rfl | hx, hk⟩
      · exact List.mem_append_left _ hx
      · exact absurd rfl hk
      · exact List.mem_append_right _ hx
  · have hnone : ∀ y ∈ l, ¬ p y = true := fun y hy hpy => hex ⟨y, hy, hpy⟩
    rw [List.eraseP_of_forall_not hnone]
    exact ⟨fun hx => ⟨hx, fun hk => hnone x hx ((hp x hx).mpr hk)⟩, And.left⟩

variable [DecidableEq κ]

theorem append (h : Lists key f l) (hx : f (key x) = none) :
    Lists key (Function.update f (key x) (some x)) (l ++ [x]) where
  nodup := by
    rw [List.map_append]
    refine h.nodup.append (List.nodup_singleton _) ?_
    rw [List.map_singleton, List.disjoint_singleton, List.mem_map]
    rintro ⟨y, hy, hk⟩
    exact h.get_eq_none_iff.mp hx y hy hk
  get_iff {k y} := by
    by_cases hk : k = key x
    · -- nothing else has the key of the new item
      subst hk
      rw [Function.update_self, Option.some.injEq, List.mem_append, List.mem_singleton]
      constructor
      · rintro rfl
        exact ⟨.inr rfl, rfl⟩
      · rintro ⟨hy | rfl, hky⟩
        · exact absurd hky (h.get_eq_none_iff.mp hx y hy)
        · rfl
    · rw [Function.update_of_ne hk, h.get_iff, List.mem_append, List.mem_singleton]
      constructor
      · exact fun hy => ⟨.inl hy.1, hy.2⟩
      · rintro ⟨hy | rfl, hky⟩
        · exact ⟨hy, hky⟩
        · exact absurd hky.symm hk

/-- The item with a key is replaced in its place. -/
theorem replace (h : Lists key f l) (hx : ∃ y ∈ l, key y = key x) :
    Lists key (Function.update f (key x) (some x))
      (l.map fun y => if key y = key x then x else y) where
  nodup := by
    -- the keys do not change
    have hkeys : (l.map fun y => if key y = key x then x else y).map key = l.map key := by
      rw [List.map_map]
      refine List.map_congr_left fun y _ => ?_
      rw [Function.comp_apply]
      split
      · next hy => exact hy.symm
      · rfl
    rw [hkeys]
    exact h.nodup
  get_iff {k y} := by
    rw [List.mem_map]
    by_cases hk : k = key x
    · subst hk
      rw [Function.update_self, Option.some.injEq]
      constructor
      · rintro rfl
        obtain ⟨y, hy, hky⟩ := hx
        exact ⟨⟨y, hy, if_pos hky⟩, rfl⟩
      · rintro ⟨⟨z, -, rfl⟩, hz⟩
        split at hz
        · next hkz => rw [if_pos hkz]
        · next hkz => exact absurd hz hkz
    · rw [Function.update_of_ne hk, h.get_iff]
      constructor
      · rintro ⟨hy, rfl⟩
        exact ⟨⟨y, hy, if_neg hk⟩, rfl⟩
      · rintro ⟨⟨z, hz, rfl⟩, hkz⟩
        split at hkz
        · exact absurd hkz.symm hk
        · next hne =>
          rw [if_neg hne]
          exact ⟨hz, hkz⟩

theorem upsert_ne_nil (x : α) (l : List α) : Machine.upsert key x l ≠ [] := by
  unfold Machine.upsert
  split
  · next hany =>
    intro hnil
    rw [List.map_eq_nil_iff] at hnil
    simp [hnil] at hany
  · simp

theorem upsert (h : Lists key f l) (x : α) :
    Lists key (Function.update f (key x) (some x)) (upsert key x l) := by
  unfold Machine.upsert
  split
  · next hany => exact h.replace (by simpa using hany)
  · next hany =>
    refine h.append (h.get_eq_none_iff.mpr ?_)
    simpa using hany

/-- The first item with a property is removed, which is the property to have the key `k`. -/
theorem eraseP (h : Lists key f l) {p : α → Bool} (hp : ∀ y ∈ l, p y = true ↔ key y = k) :
    Lists key (Function.update f k none) (l.eraseP p) where
  nodup := h.nodup.sublist (List.eraseP_sublist.map key)
  get_iff {k' y} := by
    rw [h.mem_eraseP_iff hp]
    by_cases hk : k' = k
    · subst hk
      rw [Function.update_self]
      constructor
      · exact fun hnone => nomatch hnone
      · exact fun hy => absurd hy.2 hy.1.2
    · rw [Function.update_of_ne hk, h.get_iff]
      constructor
      · rintro ⟨hy, rfl⟩
        exact ⟨⟨hy, hk⟩, rfl⟩
      · exact fun hy => ⟨hy.1.1, hy.2⟩

end Lists

/-! ## Records that hold a list -/

section Indexed

variable {items : V → List α} {r : Option V} {v : V}

/-- A record lists the table `f`, and there is no record for the empty table. -/
def Indexed (key : α → κ) (items : V → List α) (f : κ → Option α) : Option V → Prop
  | none => ∀ k, f k = none
  | some v => items v ≠ [] ∧ Lists key f (items v)

/-- The list in a record, or the empty one. -/
theorem Indexed.lists (h : Indexed key items f r) : Lists key f ((r.map items).getD []) := by
  cases r with
  | none => exact Lists.nil.congr fun k => (h k).symm
  | some v => exact h.2

theorem Indexed.congr {g : κ → Option α} (h : Indexed key items f r) (hfg : ∀ k, f k = g k) :
    Indexed key items g r := by
  obtain rfl : f = g := funext hfg
  exact h

/-- A record for a list that is not empty. -/
theorem Indexed.some (h : Lists key f (items v)) (hne : items v ≠ []) :
    Indexed key items f (some v) :=
  ⟨hne, h⟩

/-- No record for the empty list. -/
theorem Indexed.none (h : Lists key f []) : Indexed key items f (none : Option V) :=
  h.eq_nil_iff.mp rfl

end Indexed

end Machine
