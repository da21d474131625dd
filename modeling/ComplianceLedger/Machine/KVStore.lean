import Mathlib.Data.List.Lex
import Mathlib.Data.List.Perm.Basic
import Mathlib.Order.Lattice

/-!
# Key-value stores

A store is the list of its entries in strictly ascending order of their keys, which is the order
an iterator visits them in. The order makes the list canonical: two stores that answer every
lookup alike are equal (`ext_get`).

## Main definitions

* `KVStore K V`: the entries of a store, with the proof that they are in order
* `get`, `has`, `set`, `delete`, `values`: the operations of a store
* `All P`: every entry has a property
* `Disjoint s t`: no key is in both stores
* `listAt items s k`: the list in the value under a key

## Main results

* `get_set`, `get_delete`: a write changes the lookup at its own key only
* `update_set`, `update_delete`: the same for lookups as functions of the subjects of keys
* `listAt_append`, `listAt_erase`: an index that adds and removes items of a list under a key
* `entries_perm_of_get`, `entries_set_perm`: the entries of a store, up to their order
* `flatMap_values_perm`, `flatMap_values_append`: the items of all lists, up to their order
* `countP_values_set`, `countP_values_of_get`, `length_entries_eq_countP`: values with a property,
  counted
-/

namespace Machine

/-- The entries of a key-value store in ascending order of their keys. -/
structure KVStore (K V : Type) [LinearOrder K] where
  entries : List (K × V)
  sorted : entries.Pairwise fun a b => a.1 < b.1

namespace KVStore

variable {K V : Type} [LinearOrder K]

/-! ## Lists of entries -/

/-- The value of the first entry under `k`. -/
def find (k : K) : List (K × V) → Option V
  | [] => none
  | e :: es => if k = e.1 then some e.2 else find k es

/-- Write `v` under `k`, in its place in the order. -/
def insert (k : K) (v : V) : List (K × V) → List (K × V)
  | [] => [(k, v)]
  | e :: es =>
    if k < e.1 then (k, v) :: e :: es
    else if k = e.1 then (k, v) :: es
    else e :: insert k v es

/-- Drop the entry under `k`. -/
def erase (k : K) : List (K × V) → List (K × V)
  | [] => []
  | e :: es => if k = e.1 then es else e :: erase k es

theorem find_eq_none {k : K} {es : List (K × V)} (h : ∀ e ∈ es, k ≠ e.1) : find k es = none := by
  induction es with
  | nil => rfl
  | cons e es ih =>
    rw [find, if_neg (h e List.mem_cons_self)]
    exact ih fun e' he' => h e' (List.mem_cons_of_mem _ he')

theorem mem_of_find {k : K} {v : V} {es : List (K × V)} (h : find k es = some v) :
    (k, v) ∈ es := by
  induction es with
  | nil => cases h
  | cons e es ih =>
    rw [find] at h
    split at h
    · next hk =>
      obtain rfl : e.2 = v := Option.some.inj h
      exact hk ▸ List.mem_cons_self
    · exact List.mem_cons_of_mem _ (ih h)

theorem mem_insert {k : K} {v : V} {es : List (K × V)} {e : K × V} (h : e ∈ insert k v es) :
    e = (k, v) ∨ e ∈ es := by
  induction es with
  | nil => exact Or.inl (List.mem_singleton.mp h)
  | cons e' es ih =>
    rw [insert] at h
    split at h
    · exact List.mem_cons.mp h
    · split at h
      · exact (List.mem_cons.mp h).imp_right (List.mem_cons_of_mem _)
      · rcases List.mem_cons.mp h with rfl | h
        · exact Or.inr List.mem_cons_self
        · exact (ih h).imp_right (List.mem_cons_of_mem _)

theorem sublist_erase (k : K) (es : List (K × V)) : (erase k es).Sublist es := by
  induction es with
  | nil => exact List.Sublist.refl _
  | cons e es ih =>
    rw [erase]
    split
    · exact List.sublist_cons_self e es
    · exact ih.cons_cons e

theorem sorted_insert (k : K) (v : V) {es : List (K × V)}
    (h : es.Pairwise fun a b => a.1 < b.1) :
    (insert k v es).Pairwise fun a b => a.1 < b.1 := by
  induction es with
  | nil => exact List.pairwise_singleton _ _
  | cons e es ih =>
    obtain ⟨he, hes⟩ := List.pairwise_cons.mp h
    rw [insert]
    split
    · next hk =>
      -- the new entry comes first: it is below the head, and so below all
      refine List.pairwise_cons.mpr ⟨fun e' he' => ?_, h⟩
      rcases List.mem_cons.mp he' with rfl | he'
      · exact hk
      · exact hk.trans (he e' he')
    · next hk =>
      split
      · next hk' => exact List.pairwise_cons.mpr ⟨fun e' he' => hk' ▸ he e' he', hes⟩
      · next hk' =>
        -- the head stays: it is below the old entries and, by the order, below the new one
        refine List.pairwise_cons.mpr ⟨fun e' he' => ?_, ih hes⟩
        rcases mem_insert he' with rfl | he'
        · exact lt_of_le_of_ne (not_lt.mp hk) (Ne.symm hk')
        · exact he e' he'

theorem find_insert (k k' : K) (v : V) (es : List (K × V)) :
    find k' (insert k v es) = if k' = k then some v else find k' es := by
  induction es with
  | nil => rfl
  | cons e es ih =>
    rw [insert]
    split
    · rfl
    · split
      · next hk =>
        by_cases hk' : k' = k
        · simp [find, hk']
        · simp [find, hk', ← hk]
      · next hk =>
        rw [find, ih, find]
        by_cases hk' : k' = e.1
        · simp [hk', Ne.symm hk]
        · simp [hk']

theorem find_erase {es : List (K × V)} (h : es.Pairwise fun a b => a.1 < b.1) (k k' : K) :
    find k' (erase k es) = if k' = k then none else find k' es := by
  induction es with
  | nil => simp [find, erase]
  | cons e es ih =>
    obtain ⟨he, hes⟩ := List.pairwise_cons.mp h
    rw [erase]
    split
    · next hk =>
      by_cases hk' : k' = k
      · -- only the first entry is dropped: the order says that `k` is on no other
        rw [if_pos hk', hk', hk]
        exact find_eq_none fun e' he' => (he e' he').ne
      · rw [if_neg hk', find, if_neg (hk ▸ hk')]
    · next hk =>
      rw [find, ih hes, find]
      by_cases hk' : k' = k
      · simp [hk', hk]
      · simp [hk']

/-! ## Stores -/

/-- The store without entries. -/
def empty : KVStore K V := ⟨[], List.Pairwise.nil⟩

/-- The value stored under `k`. -/
def get (s : KVStore K V) (k : K) : Option V := find k s.entries

/-- Is there a value under `k`? -/
def has (s : KVStore K V) (k : K) : Bool := (s.get k).isSome

/-- Store `v` under `k`. -/
def set (s : KVStore K V) (k : K) (v : V) : KVStore K V :=
  ⟨insert k v s.entries, sorted_insert k v s.sorted⟩

/-- Remove what is stored under `k`. -/
def delete (s : KVStore K V) (k : K) : KVStore K V :=
  ⟨erase k s.entries, s.sorted.sublist (sublist_erase k s.entries)⟩

/-- The stored values, in the order of their keys. -/
def values (s : KVStore K V) : List V := s.entries.map Prod.snd

@[simp] theorem get_empty (k : K) : (empty : KVStore K V).get k = none := rfl

theorem get_set (s : KVStore K V) (k k' : K) (v : V) [Decidable (k' = k)] :
    (s.set k v).get k' = if k' = k then some v else s.get k' := by
  rw [get, set, find_insert]
  by_cases hk : k' = k <;> simp [hk, get]

theorem get_delete (s : KVStore K V) (k k' : K) [Decidable (k' = k)] :
    (s.delete k).get k' = if k' = k then none else s.get k' := by
  rw [get, delete, find_erase s.sorted]
  by_cases hk : k' = k <;> simp [hk, get]

@[simp] theorem get_set_self (s : KVStore K V) (k : K) (v : V) : (s.set k v).get k = some v := by
  rw [get_set, if_pos rfl]

theorem get_set_of_ne (s : KVStore K V) {k k' : K} (v : V) (h : k' ≠ k) :
    (s.set k v).get k' = s.get k' := by
  rw [get_set, if_neg h]

theorem get_delete_self (s : KVStore K V) (k : K) : (s.delete k).get k = none := by
  rw [get_delete, if_pos rfl]

/-- A removal leaves every lookup as it was, or empty. -/
theorem get_of_get_delete {s : KVStore K V} {k k' : K} {v : V}
    (h : (s.delete k).get k' = some v) : k' ≠ k ∧ s.get k' = some v := by
  rw [get_delete] at h
  split at h
  · cases h
  · next hk => exact ⟨hk, h⟩

/-- Only a removal under its own key empties a lookup. -/
theorem eq_of_get_delete_eq_none {s : KVStore K V} {k k' : K} {v : V} (hget : s.get k' = some v)
    (hnone : (s.delete k).get k' = none) : k' = k := by
  rw [get_delete] at hnone
  by_contra hk
  rw [if_neg hk, hget] at hnone
  cases hnone

theorem get_ne_none_of_set {s : KVStore K V} {k k' : K} {v w : V} (hget : s.get k' = some v) :
    (s.set k w).get k' ≠ none := by
  rw [get_set]
  split
  · exact Option.some_ne_none w
  · rw [hget]
    exact Option.some_ne_none v

theorem has_iff {s : KVStore K V} {k : K} : s.has k = true ↔ ∃ v, s.get k = some v :=
  Option.isSome_iff_exists

theorem has_eq_false_iff {s : KVStore K V} {k : K} : s.has k = false ↔ s.get k = none := by
  rw [has, Option.isSome_eq_false_iff, Option.isNone_iff_eq_none]

/-- **The entries of a store are its lookups.** -/
theorem mem_entries_iff {s : KVStore K V} {k : K} {v : V} :
    (k, v) ∈ s.entries ↔ s.get k = some v := by
  refine ⟨fun h => ?_, mem_of_find⟩
  obtain ⟨es, hs⟩ := s
  change find k es = some v
  change (k, v) ∈ es at h
  induction es with
  | nil => cases h
  | cons e es ih =>
    obtain ⟨he, hes⟩ := List.pairwise_cons.mp hs
    rw [find]
    rcases List.mem_cons.mp h with rfl | h
    · rw [if_pos rfl]
    · rw [if_neg (he (k, v) h).ne']
      exact ih hes h

theorem mem_values_iff {s : KVStore K V} {v : V} : v ∈ s.values ↔ ∃ k, s.get k = some v := by
  simp only [values, List.mem_map, Prod.exists, exists_eq_right, mem_entries_iff]

/-- **Extensionality**: stores with the same lookups are equal. -/
theorem ext_get {s t : KVStore K V} (h : ∀ k, s.get k = t.get k) : s = t := by
  obtain ⟨es, hs⟩ := s
  obtain ⟨ts, ht⟩ := t
  have hmem : ∀ e, e ∈ es ↔ e ∈ ts := by
    rintro ⟨k, v⟩
    rw [mem_entries_iff (s := ⟨es, hs⟩), mem_entries_iff (s := ⟨ts, ht⟩), h k]
  have hnd : ∀ {l : List (K × V)}, l.Pairwise (fun a b => a.1 < b.1) → l.Nodup :=
    fun hl => hl.imp fun hlt heq => hlt.ne (congrArg Prod.fst heq)
  -- the same entries without repetition, and there is one order they can stand in
  have hperm : es.Perm ts := (List.perm_ext_iff_of_nodup (hnd hs) (hnd ht)).mpr hmem
  obtain rfl : es = ts :=
    hperm.eq_of_pairwise (fun _ _ _ _ hab hba => absurd hba hab.asymm) hs ht
  rfl

/-- Removing an absent key changes nothing. -/
theorem delete_of_get_none {s : KVStore K V} {k : K} (h : s.get k = none) : s.delete k = s := by
  refine ext_get fun k' => ?_
  rw [get_delete]
  split
  · next hk => rw [hk, h]
  · rfl

/-! ## Properties of all entries -/

/-- Every entry has the property `P`. -/
def All (P : K → V → Prop) (s : KVStore K V) : Prop := ∀ k v, s.get k = some v → P k v

theorem All.empty {P : K → V → Prop} : (empty : KVStore K V).All P :=
  fun _ _ h => nomatch h

theorem All.set {P : K → V → Prop} {s : KVStore K V} (h : s.All P) {k : K} {v : V} (hv : P k v) :
    (s.set k v).All P := by
  intro k' v' hget
  rw [get_set] at hget
  split at hget
  · next hk =>
    obtain rfl := Option.some.inj hget
    exact hk ▸ hv
  · exact h k' v' hget

theorem All.delete {P : K → V → Prop} {s : KVStore K V} (h : s.All P) (k : K) :
    (s.delete k).All P :=
  fun k' v hget => h k' v (get_of_get_delete hget).2

/-- The values of a store that keeps every value under a key of its own. -/
theorem All.mem_values_iff {key : V → K} {s : KVStore K V} (h : s.All fun k v => k = key v) {v : V} :
    v ∈ s.values ↔ s.get (key v) = some v := by
  rw [KVStore.mem_values_iff]
  constructor
  · rintro ⟨k, hget⟩
    rwa [← h k v hget]
  · exact fun hget => ⟨key v, hget⟩

/-! ## Lookups as functions -/

section Update

variable {X W : Type} [DecidableEq X] {key : X → K} (hkey : Function.Injective key)
  (f : Option V → W) (s : KVStore K V) (x : X)

include hkey

/-- What is read under the keys of some subjects changes for the subject of a write only. -/
theorem update_set (v : V) : (fun x' => f ((s.set (key x) v).get (key x'))) =
    Function.update (fun x' => f (s.get (key x'))) x (f (some v)) := by
  ext x'
  by_cases hx : x' = x
  · rw [hx, get_set_self, Function.update_self]
  · rw [get_set_of_ne s v (hkey.ne hx), Function.update_of_ne hx]

theorem update_delete : (fun x' => f ((s.delete (key x)).get (key x'))) =
    Function.update (fun x' => f (s.get (key x'))) x (f none) := by
  ext x'
  by_cases hx : x' = x
  · rw [hx, get_delete_self, Function.update_self]
  · rw [get_delete, if_neg (hkey.ne hx), Function.update_of_ne hx]

end Update

/-! ## Disjoint stores -/

section Disjoint

variable {W : Type} {s : KVStore K V} {t : KVStore K W} {k : K} {v : V} {w : W}

/-- No key is in both stores. -/
def Disjoint (s : KVStore K V) (t : KVStore K W) : Prop := ∀ k, s.get k = none ∨ t.get k = none

theorem disjoint_empty : (s.Disjoint (empty : KVStore K W)) := fun k => .inr (get_empty k)

theorem Disjoint.symm (h : s.Disjoint t) : t.Disjoint s := fun k => (h k).symm

theorem Disjoint.get_eq_none (h : s.Disjoint t) (hk : s.get k = some v) : t.get k = none :=
  (h k).resolve_left (by simp [hk])

theorem Disjoint.set (h : s.Disjoint t) (v : V) (hk : t.get k = none) : (s.set k v).Disjoint t := by
  intro k'
  rw [get_set]
  split
  · next heq => exact .inr (heq ▸ hk)
  · exact h k'

theorem Disjoint.delete (h : s.Disjoint t) (k : K) : (s.delete k).Disjoint t := by
  intro k'
  rw [get_delete]
  split
  · exact .inl rfl
  · exact h k'

/-- A key that is removed from one store may enter the other. -/
theorem Disjoint.set_delete (h : s.Disjoint t) (k : K) (v : V) :
    (s.set k v).Disjoint (t.delete k) :=
  (h.symm.delete k).symm.set v (by simp [get_delete])

end Disjoint

/-! ## Lists under a key -/

section Lists

variable {α : Type} {items : V → List α} {s : KVStore K V} {k : K} {v : V} {a : α}

/-- The list in the value under a key, which is empty when there is no value. -/
def listAt (items : V → List α) (s : KVStore K V) (k : K) : List α :=
  ((s.get k).map items).getD []

theorem mem_listAt_iff : a ∈ s.listAt items k ↔ ∃ v, s.get k = some v ∧ a ∈ items v := by
  unfold listAt
  cases s.get k <;> simp

theorem listAt_of_get (h : s.get k = some v) : s.listAt items k = items v := by
  rw [listAt, h]
  rfl

theorem listAt_of_get_none (h : s.get k = none) : s.listAt items k = [] := by
  rw [listAt, h]
  rfl

theorem listAt_set (v : V) (k' : K) [Decidable (k' = k)] :
    (s.set k v).listAt items k' = if k' = k then items v else s.listAt items k' := by
  rw [listAt, get_set]
  split <;> rfl

theorem listAt_delete (k' : K) [Decidable (k' = k)] :
    (s.delete k).listAt items k' = if k' = k then [] else s.listAt items k' := by
  rw [listAt, get_delete]
  split <;> rfl

variable [DecidableEq α]

/-- An item is appended to the list under `k`, unless it is there. -/
theorem listAt_append (found v : V) (a : α) (hfound : items found = s.listAt items k)
    (hv : items v = items found ++ [a]) (k' : K) [Decidable (k' = k ∧ a ∉ s.listAt items k')] :
    (if a ∈ items found then s else s.set k v).listAt items k' =
      if k' = k ∧ a ∉ s.listAt items k' then s.listAt items k' ++ [a] else s.listAt items k' := by
  by_cases hk : k' = k
  · subst hk
    split
    · next hmem => rw [if_neg fun hnew => hnew.2 (hfound ▸ hmem)]
    · next hmem => rw [listAt_set, if_pos rfl, if_pos ⟨rfl, hfound ▸ hmem⟩, hv, hfound]
  · have hold : ¬ (k' = k ∧ a ∉ s.listAt items k') := fun hnew => hk hnew.1
    rw [if_neg hold]
    split
    · rfl
    · rw [listAt_set, if_neg hk]

/-- An item is taken off the list under `k`, and the value with it when the list is then empty. -/
theorem listAt_erase (found v : V) (a : α) (hfound : items found = s.listAt items k)
    (hv : items v = (items found).erase a) (k' : K) [Decidable (k' = k)] :
    (if a ∉ items found then s
      else if 0 < ((items found).erase a).length then s.set k v else s.delete k).listAt items k' =
      if k' = k then (s.listAt items k').erase a else s.listAt items k' := by
  by_cases hk : k' = k
  · subst hk
    rw [if_pos rfl]
    split
    · next hmem => rw [List.erase_of_not_mem (hfound ▸ hmem)]
    · -- a value with an empty list is never stored
      split
      · rw [listAt_set, if_pos rfl, hv, hfound]
      · next hlen =>
        rw [listAt_delete, if_pos rfl, ← hfound]
        exact (List.length_eq_zero_iff.mp (by omega)).symm
  · rw [if_neg hk]
    split
    · rfl
    · split
      · rw [listAt_set, if_neg hk]
      · rw [listAt_delete, if_neg hk]

end Lists

/-! ## Entries up to their order -/

theorem entries_perm_of_get {s : KVStore K V} {k : K} {v : V} (h : s.get k = some v) :
    s.entries.Perm ((k, v) :: (s.delete k).entries) := by
  obtain ⟨es, hs⟩ := s
  change find k es = some v at h
  change es.Perm ((k, v) :: erase k es)
  induction es with
  | nil => cases h
  | cons e es ih =>
    rw [find] at h
    rw [erase]
    split at h
    · next hk =>
      obtain rfl : e.2 = v := Option.some.inj h
      rw [if_pos hk, hk]
    · next hk =>
      rw [if_neg hk]
      exact ((ih (List.pairwise_cons.mp hs).2 h).cons e).trans (List.Perm.swap _ _ _)

theorem delete_set (s : KVStore K V) (k : K) (v : V) : (s.set k v).delete k = s.delete k := by
  refine ext_get fun k' => ?_
  rw [get_delete, get_delete]
  split
  · rfl
  · next hk => rw [get_set_of_ne s v hk]

theorem entries_set_perm (s : KVStore K V) (k : K) (v : V) :
    (s.set k v).entries.Perm ((k, v) :: (s.delete k).entries) := by
  rw [← delete_set s k v]
  exact entries_perm_of_get (get_set_self s k v)

theorem values_perm_of_get {s : KVStore K V} {k : K} {v : V} (h : s.get k = some v) :
    s.values.Perm (v :: (s.delete k).values) :=
  (entries_perm_of_get h).map Prod.snd

theorem values_set_perm (s : KVStore K V) (k : K) (v : V) :
    (s.set k v).values.Perm (v :: (s.delete k).values) :=
  (entries_set_perm s k v).map Prod.snd

theorem values_delete_sublist (s : KVStore K V) (k : K) : (s.delete k).values.Sublist s.values :=
  (sublist_erase k s.entries).map Prod.snd

/-- The items of all values are those under the keys. -/
theorem mem_flatMap_values_iff {α : Type} {items : V → List α} {s : KVStore K V} {a : α} :
    a ∈ s.values.flatMap items ↔ ∃ k, a ∈ s.listAt items k := by
  simp only [List.mem_flatMap, mem_values_iff, mem_listAt_iff]
  constructor
  · rintro ⟨v, ⟨k, hget⟩, ha⟩
    exact ⟨k, v, hget, ha⟩
  · rintro ⟨k, v, hget, ha⟩
    exact ⟨v, ⟨k, hget⟩, ha⟩

/-- The items of all values are those under a key, and the rest. -/
theorem flatMap_values_perm {α : Type} (items : V → List α) (s : KVStore K V) (k : K) :
    (s.values.flatMap items).Perm (s.listAt items k ++ (s.delete k).values.flatMap items) := by
  cases hget : s.get k with
  | none => rw [listAt_of_get_none hget, delete_of_get_none hget, List.nil_append]
  | some v =>
    rw [listAt_of_get hget, ← List.flatMap_cons]
    exact (values_perm_of_get hget).flatMap_right items

/-- Items appended to those under a key are appended to the items of all values. -/
theorem flatMap_values_append {α : Type} {items : V → List α} {new : List α} (s : KVStore K V)
    (k : K) (v : V) (hv : items v = s.listAt items k ++ new) :
    ((s.set k v).values.flatMap items).Perm (s.values.flatMap items ++ new) := by
  have hset : ((s.set k v).values.flatMap items).Perm
      (s.listAt items k ++ new ++ (s.delete k).values.flatMap items) := by
    rw [← hv, ← List.flatMap_cons]
    exact (values_set_perm s k v).flatMap_right items
  have hswap : (s.listAt items k ++ new ++ (s.delete k).values.flatMap items).Perm
      (s.listAt items k ++ (s.delete k).values.flatMap items ++ new) := by
    rw [List.append_assoc, List.append_assoc]
    exact List.perm_append_comm.append_left _
  exact (hset.trans hswap).trans ((flatMap_values_perm items s k).symm.append_right new)

/-! ## Values with a property, counted -/

section Count

variable {s : KVStore K V} {k : K} {v : V} {p : V → Bool}

theorem countP_values_of_get (h : s.get k = some v) :
    s.values.countP p = (s.delete k).values.countP p + if p v then 1 else 0 := by
  rw [(values_perm_of_get h).countP_eq, List.countP_cons]

theorem countP_values_set (s : KVStore K V) (k : K) (v : V) :
    (s.set k v).values.countP p = (s.delete k).values.countP p + if p v then 1 else 0 := by
  rw [(values_set_perm s k v).countP_eq, List.countP_cons]

theorem nodup_keys (s : KVStore K V) : (s.entries.map Prod.fst).Nodup :=
  List.pairwise_map.mpr (s.sorted.imp ne_of_lt)

/-- A store whose keys are those of the values with the property has as many entries. -/
theorem length_entries_eq_countP {W : Type} {t : KVStore K W}
    (h : ∀ k, (t.get k).isSome ↔ ∃ v, s.get k = some v ∧ p v = true) :
    t.entries.length = s.values.countP p := by
  have hfiltered : ((s.entries.filter fun e => p e.2).map Prod.fst).Nodup :=
    s.nodup_keys.sublist (List.filter_sublist.map Prod.fst)
  have hperm : (t.entries.map Prod.fst).Perm ((s.entries.filter fun e => p e.2).map Prod.fst) := by
    refine (List.perm_ext_iff_of_nodup t.nodup_keys hfiltered).mpr fun k => ?_
    simp only [List.mem_map, List.mem_filter, Prod.exists, exists_and_right, exists_eq_right,
      mem_entries_iff]
    rw [← h k, Option.isSome_iff_exists]
  have hlength := hperm.length_eq
  rwa [List.length_map, List.length_map, ← List.countP_eq_length_filter, ← Function.comp_def,
    ← List.countP_map] at hlength

end Count

end KVStore

end Machine
