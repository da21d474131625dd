import ComplianceLedger.Machine.Bytes
import ComplianceLedger.Machine.Load
import Mathlib.Logic.Function.Basic

/-!
# Kinds of records in one store

A module has one store for all its records. The records of a kind lie under a text of their own,
followed by the key of the record, and an iterator over a kind visits the keys that begin with
this text. If none of the texts begins with another one, the store is as good as a store for every
kind: a full key says which kind it belongs to.

## Main definitions

* `PrefixFree pre`: none of the texts begins with another one
* `KVStore.under p t`: the store seen through a text that keys begin with
* `KVStore.share kinds pre F`: the stores of the kinds, in one store
* `Layout S ι V`: where the records of a state lie
* `Layout.shared`, `Layout.scan`, `Layout.reload`: the one store of a state, what an iterator over
  a kind finds in it, and the store that lists of records give
* `Layout.load key l s`: the state after the records of some lists have been set, kind by kind
* `Layout.Own key s`: every record lies under its own key
* `Layout.RoundTrips key s`: the state and its one store say the same, and come back from their
  records

## Main results

* `PrefixFree.append_inj`: a full key is taken apart in one way
* `KVStore.under_share`: each kind is seen through its text as if it had a store of its own
* `Layout.shared_set`, `Layout.shared_delete`: a write to a kind is a write to the one store
* `Layout.scan_shared`, `Layout.reload_values`: the records of a kind are found, and give the store
  back
* `Layout.records_load_values`: the records of a state give its kinds back
* `Layout.Own.roundTrips`: the round trip of a state whose records lie under their own keys
-/

namespace Machine

variable {ι : Type} {V : ι → Type} {W : Type} {pre : ι → Bytes}

/-- None of the texts begins with another one. -/
def PrefixFree (pre : ι → Bytes) : Prop := ∀ i j, pre i <+: pre j → i = j

/-- **A full key is taken apart in one way.** -/
theorem PrefixFree.append_inj (h : PrefixFree pre) {i j : ι} {k l : Bytes}
    (heq : pre i ++ k = pre j ++ l) : i = j ∧ k = l := by
  have hij : i = j := by
    -- of two beginnings of one list, the shorter begins the longer
    rcases List.prefix_or_prefix_of_prefix (List.prefix_append (pre i) k)
      (heq ▸ List.prefix_append (pre j) l) with hp | hp
    · exact h i j hp
    · exact (h j i hp).symm
  subst hij
  exact ⟨rfl, List.append_cancel_left heq⟩

/-- Prefix-freeness of finitely many texts, checked pair by pair. -/
theorem prefixFree_of_forall_mem {kinds : List ι} (hkinds : ∀ i, i ∈ kinds)
    (h : ∀ i ∈ kinds, ∀ j ∈ kinds, pre i <+: pre j → i = j) : PrefixFree pre :=
  fun i j => h i (hkinds i) j (hkinds j)

theorem append_lt_append_iff (p : Bytes) {a b : Bytes} : p ++ a < p ++ b ↔ a < b := by
  induction p with
  | nil => rfl
  | cons c p ih => simp [ih]

namespace KVStore

section Map

variable {K U W : Type} [LinearOrder K]

/-- The store with a function applied to its values. -/
def mapValues (f : U → W) (s : KVStore K U) : KVStore K W :=
  ⟨s.entries.map fun e => (e.1, f e.2), List.pairwise_map.mpr s.sorted⟩

@[simp] theorem get_mapValues (f : U → W) (s : KVStore K U) (k : K) :
    (s.mapValues f).get k = (s.get k).map f := by
  show find k (s.entries.map _) = (find k s.entries).map f
  induction s.entries with
  | nil => rfl
  | cons e es ih =>
    simp only [List.map_cons, find]
    split
    · rfl
    · exact ih

theorem values_mapValues (f : U → W) (s : KVStore K U) : (s.mapValues f).values = s.values.map f := by
  simp only [values, mapValues, List.map_map]
  rfl

/-- The store with at most one value, under a given key. -/
def slot (k : K) : Option U → KVStore K U
  | none => empty
  | some v => empty.set k v

theorem get_slot (k k' : K) (o : Option U) : (slot k o).get k' = if k' = k then o else none := by
  cases o with
  | none => simp [slot]
  | some v => rw [slot, get_set, get_empty]

theorem all_slot (k : K) (o : Option U) : (slot k o).All fun k' _ => k' = k := by
  intro k' v h
  rw [get_slot] at h
  by_contra hk
  simp [hk] at h

theorem values_slot (k : K) (o : Option U) : (slot k o).values = o.toList := by
  cases o <;> rfl

/-- A store in which all values lie under one key. -/
theorem slot_get {k : K} {s : KVStore K U} (h : s.All fun k' _ => k' = k) : slot k (s.get k) = s := by
  apply ext_get
  intro k'
  rw [get_slot]
  split
  · next hk => rw [hk]
  · next hk =>
    cases hget : s.get k' with
    | none => rfl
    | some v => exact absurd (h k' v hget) hk

end Map

/-! ## A store seen through a text -/

/-- What is left of an entry whose key begins with `p`. -/
def cut (p : Bytes) (e : Bytes × W) : Option (Bytes × W) :=
  if p <+: e.1 then some (e.1.drop p.length, e.2) else none

theorem cut_eq_some_iff {p : Bytes} {e f : Bytes × W} : cut p e = some f ↔ e = (p ++ f.1, f.2) := by
  constructor
  · intro h
    unfold cut at h
    split at h
    · next hp =>
      obtain ⟨k, hk⟩ := hp
      obtain rfl := Option.some.inj h
      exact Prod.ext (by simp [← hk]) rfl
    · cases h
  · rintro rfl
    simp [cut]

/-- The store seen through a text: the entries whose keys begin with it, without the text. -/
def under (p : Bytes) (t : KVStore Bytes W) : KVStore Bytes W where
  entries := t.entries.filterMap (cut p)
  sorted := by
    refine List.pairwise_filterMap.mpr (t.sorted.imp ?_)
    intro a b hab a' ha b' hb
    rw [cut_eq_some_iff.mp ha, cut_eq_some_iff.mp hb] at hab
    exact (append_lt_append_iff p).mp hab

theorem get_under (p : Bytes) (t : KVStore Bytes W) (k : Bytes) :
    (t.under p).get k = t.get (p ++ k) := by
  apply Option.ext
  intro v
  rw [← mem_entries_iff, ← mem_entries_iff]
  show (k, v) ∈ t.entries.filterMap (cut p) ↔ _
  simp only [List.mem_filterMap, cut_eq_some_iff, exists_eq_right]

/-! ## The stores of the kinds in one -/

/-- Put the entries of the kinds into a store, under the texts of their kinds. -/
def gather (kinds : List ι) (pre : ι → Bytes) (F : ∀ i, KVStore Bytes (V i))
    (t : KVStore Bytes (Σ i, V i)) : KVStore Bytes (Σ i, V i) :=
  kinds.foldl (fun t i => t.load (fun e => pre i ++ e.1) (fun e => ⟨i, e.2⟩) (F i).entries) t

/-- The stores of the kinds, in one store. -/
def share (kinds : List ι) (pre : ι → Bytes) (F : ∀ i, KVStore Bytes (V i)) :
    KVStore Bytes (Σ i, V i) :=
  gather kinds pre F empty

variable {kinds : List ι} {F : ∀ i, KVStore Bytes (V i)} {t : KVStore Bytes (Σ i, V i)}

theorem get_gather_of_ne {k : Bytes} (h : ∀ i ∈ kinds, ∀ e ∈ (F i).entries, pre i ++ e.1 ≠ k) :
    (gather kinds pre F t).get k = t.get k := by
  induction kinds generalizing t with
  | nil => rfl
  | cons i kinds ih =>
    show (gather kinds pre F (t.load _ _ (F i).entries)).get k = t.get k
    rw [ih fun j hj => h j (List.mem_cons_of_mem i hj), get_load_of_ne (h i List.mem_cons_self)]

theorem get_gather_of_get (hpre : PrefixFree pre) {i : ι} (hi : i ∈ kinds) {k : Bytes} {v : V i}
    (h : (F i).get k = some v) : (gather kinds pre F t).get (pre i ++ k) = some ⟨i, v⟩ := by
  induction kinds generalizing t with
  | nil => cases hi
  | cons j kinds ih =>
    show (gather kinds pre F (t.load _ _ (F j).entries)).get (pre i ++ k) = some ⟨i, v⟩
    by_cases hrest : i ∈ kinds
    · exact ih hrest
    · -- the kinds that follow have other texts
      obtain rfl : i = j := (List.mem_cons.mp hi).resolve_right hrest
      rw [get_gather_of_ne]
      · apply get_load_of_mem ⟨(k, v), mem_entries_iff.mpr h, rfl⟩
        rintro ⟨l, w⟩ he hl
        obtain rfl : l = k := List.append_cancel_left hl
        rw [Option.some.inj ((mem_entries_iff.mp he).symm.trans h)]
      · intro j hj e _ hk
        exact hrest ((hpre.append_inj hk).1 ▸ hj)

/-- **Lookups in the one store**: under the text of a kind, its own records are found. -/
theorem get_share (hpre : PrefixFree pre) (hkinds : ∀ i, i ∈ kinds) (i : ι) (k : Bytes) :
    (share kinds pre F).get (pre i ++ k) = ((F i).get k).map (Sigma.mk i) := by
  cases h : (F i).get k with
  | some v => exact get_gather_of_get hpre (hkinds i) h
  | none =>
    apply get_gather_of_ne
    intro j _ e he hk
    obtain ⟨rfl, rfl⟩ := hpre.append_inj hk
    cases (mem_entries_iff.mp he).symm.trans h

/-- A key that begins with none of the texts is not in the one store. -/
theorem get_share_of_ne {k : Bytes} (h : ∀ i l, k ≠ pre i ++ l) :
    (share kinds pre F).get k = none := by
  apply get_gather_of_ne
  intro i _ e _ hk
  exact h i e.1 hk.symm

/-- Stores that agree under every text, and elsewhere, are equal. -/
theorem share_eq (hpre : PrefixFree pre) (hkinds : ∀ i, i ∈ kinds)
    (hin : ∀ i k, t.get (pre i ++ k) = ((F i).get k).map (Sigma.mk i))
    (hout : ∀ k, (∀ i l, k ≠ pre i ++ l) → t.get k = none) : share kinds pre F = t := by
  apply ext_get
  intro k
  by_cases hk : ∃ i l, k = pre i ++ l
  · obtain ⟨i, l, rfl⟩ := hk
    rw [get_share hpre hkinds, hin]
  · have hne : ∀ i l, k ≠ pre i ++ l := fun i l heq => hk ⟨i, l, heq⟩
    rw [get_share_of_ne hne, hout k hne]

/-- **Each kind is seen through its text** as if it had a store of its own. -/
theorem under_share (hpre : PrefixFree pre) (hkinds : ∀ i, i ∈ kinds) (i : ι) :
    (share kinds pre F).under (pre i) = (F i).mapValues (Sigma.mk i) := by
  apply ext_get
  intro k
  rw [get_under, get_share hpre hkinds, get_mapValues]

section Writes

variable [DecidableEq ι]

theorem share_update_set (hpre : PrefixFree pre) (hkinds : ∀ i, i ∈ kinds) (i : ι) (k : Bytes)
    (v : V i) :
    share kinds pre (Function.update F i ((F i).set k v)) =
      (share kinds pre F).set (pre i ++ k) ⟨i, v⟩ := by
  apply share_eq hpre hkinds
  · intro j l
    by_cases hij : j = i
    · subst hij
      by_cases hl : l = k
      · simp [hl]
      · rw [get_set_of_ne _ _ (by simpa using hl), get_share hpre hkinds, Function.update_self,
          get_set_of_ne _ _ hl]
    · rw [Function.update_of_ne hij, get_set_of_ne, get_share hpre hkinds]
      exact fun hk => hij (hpre.append_inj hk).1
  · intro l hl
    rw [get_set_of_ne _ _ (hl i k), get_share_of_ne hl]

theorem share_update_delete (hpre : PrefixFree pre) (hkinds : ∀ i, i ∈ kinds) (i : ι) (k : Bytes) :
    share kinds pre (Function.update F i ((F i).delete k)) =
      (share kinds pre F).delete (pre i ++ k) := by
  apply share_eq hpre hkinds
  · intro j l
    by_cases hij : j = i
    · subst hij
      by_cases hl : l = k
      · simp [hl, get_delete]
      · rw [get_delete, if_neg (by simpa using hl), get_share hpre hkinds, Function.update_self,
          get_delete, if_neg hl]
    · rw [Function.update_of_ne hij, get_delete, if_neg, get_share hpre hkinds]
      exact fun hk => hij (hpre.append_inj hk).1
  · intro l hl
    rw [get_delete, if_neg (hl i k), get_share_of_ne hl]

end Writes

end KVStore

/-! ## Where the records of a state lie -/

/-- Where the records of a state lie: the kinds, the text and the keys of each of them, and the
records themselves. -/
structure Layout (S ι : Type) (V : ι → Type) [DecidableEq ι] where
  kinds : List ι
  pre : ι → Bytes
  /-- The keys that records of the kind lie under. -/
  IsKey : ι → Bytes → Prop
  records : S → (i : ι) → KVStore Bytes (V i)
  put : S → (i : ι) → KVStore Bytes (V i) → S
  mem_kinds : ∀ i, i ∈ kinds
  prefixFree : PrefixFree pre
  isKey : ∀ s i, (records s i).All fun k _ => IsKey i k
  records_put_self : ∀ s i t, (t.All fun k _ => IsKey i k) → records (put s i t) i = t
  records_put_of_ne : ∀ s i t j, j ≠ i → records (put s i t) j = records s j

namespace Layout

variable {S : Type} [DecidableEq ι] (L : Layout S ι V)

/-- What is put is read back, and the records of other kinds stay as they are. -/
theorem records_put (s : S) (i : ι) {t : KVStore Bytes (V i)} (ht : t.All fun k _ => L.IsKey i k) :
    L.records (L.put s i t) = Function.update (L.records s) i t := by
  funext j
  by_cases hj : j = i
  · subst hj
    rw [L.records_put_self s j t ht, Function.update_self]
  · rw [L.records_put_of_ne s i t j hj, Function.update_of_ne hj]

/-- The key in the one store. -/
def fullKey (i : ι) (k : Bytes) : Bytes := L.pre i ++ k

theorem fullKey_inj {i j : ι} {k l : Bytes} : L.fullKey i k = L.fullKey j l ↔ i = j ∧ k = l := by
  refine ⟨L.prefixFree.append_inj, ?_⟩
  rintro ⟨rfl, rfl⟩
  rfl

/-- The one store of a state. -/
def shared (s : S) : KVStore Bytes (Σ i, V i) := KVStore.share L.kinds L.pre (L.records s)

/-- What an iterator over a kind finds in a store. -/
def scan (i : ι) (t : KVStore Bytes (Σ i, V i)) : List (Σ i, V i) := (t.under (L.pre i)).values

/-- The store that lists of records give: each record is set under its own key. -/
def reload (key : ∀ i, V i → Bytes) (l : ∀ i, List (V i)) : KVStore Bytes (Σ i, V i) :=
  L.kinds.foldl (fun t i => t.load (fun v => L.fullKey i (key i v)) (Sigma.mk i) (l i)) .empty

/-- A lookup in the one store finds a record of the kind, and the record that the state has. -/
theorem get_shared (s : S) (i : ι) (k : Bytes) :
    (L.shared s).get (L.fullKey i k) = ((L.records s i).get k).map (Sigma.mk i) :=
  KVStore.get_share L.prefixFree L.mem_kinds i k

/-- **An iterator over a kind finds its records**, and no others. -/
theorem scan_shared (s : S) (i : ι) :
    L.scan i (L.shared s) = (L.records s i).values.map (Sigma.mk i) := by
  rw [scan, shared, KVStore.under_share L.prefixFree L.mem_kinds, KVStore.values_mapValues]

/-- **A write to a kind is a write to the one store.** -/
theorem shared_set (s : S) {i : ι} {k : Bytes} (hk : L.IsKey i k) (v : V i) :
    L.shared (L.put s i ((L.records s i).set k v)) =
      (L.shared s).set (L.fullKey i k) ⟨i, v⟩ := by
  rw [shared, L.records_put s i ((L.isKey s i).set hk)]
  exact KVStore.share_update_set L.prefixFree L.mem_kinds i k v

/-- **A removal from a kind is a removal from the one store.** -/
theorem shared_delete (s : S) (i : ι) (k : Bytes) :
    L.shared (L.put s i ((L.records s i).delete k)) = (L.shared s).delete (L.fullKey i k) := by
  rw [shared, L.records_put s i ((L.isKey s i).delete k)]
  exact KVStore.share_update_delete L.prefixFree L.mem_kinds i k

/-! ### Records under their own keys -/

variable {key : ∀ i, V i → Bytes}

/-- Every record lies under its own key. -/
def Own (key : ∀ i, V i → Bytes) (s : S) : Prop := ∀ i, (L.records s i).All fun k v => k = key i v

variable {L} in
/-- Records under their own keys are put in the place of those of a kind. -/
theorem Own.put {s : S} (h : L.Own key s) {i : ι} {t : KVStore Bytes (V i)}
    (ht : t.All fun k v => k = key i v) (hkey : ∀ v, L.IsKey i (key i v)) :
    L.Own key (L.put s i t) := by
  have hkeys : t.All fun k _ => L.IsKey i k := fun k v hget => ht k v hget ▸ hkey v
  intro j
  rw [L.records_put s i hkeys]
  by_cases hj : j = i
  · subst hj
    rw [Function.update_self]
    exact ht
  · rw [Function.update_of_ne hj]
    exact h j

variable {L} in
/-- A record is set under its own key. -/
theorem Own.set {s : S} (h : L.Own key s) (hkey : ∀ i v, L.IsKey i (key i v)) (i : ι) (v : V i) :
    L.Own key (L.put s i ((L.records s i).set (key i v) v)) :=
  h.put ((h i).set rfl) (hkey i)

variable {L} in
theorem Own.delete {s : S} (h : L.Own key s) (hkey : ∀ i v, L.IsKey i (key i v)) (i : ι)
    (k : Bytes) : L.Own key (L.put s i ((L.records s i).delete k)) :=
  h.put ((h i).delete k) (hkey i)

variable {L} in
/-- **The records give the one store back**, if each of them lies under its own key. -/
theorem reload_values {s : S} (h : L.Own key s) :
    L.reload key (fun i => (L.records s i).values) = L.shared s := by
  have hload : ∀ (t : KVStore Bytes (Σ i, V i)) (i : ι),
      t.load (fun v => L.fullKey i (key i v)) (Sigma.mk i) (L.records s i).values =
        t.load (fun e => L.pre i ++ e.1) (fun e => ⟨i, e.2⟩) (L.records s i).entries := by
    intro t i
    simp only [KVStore.load, KVStore.values, List.foldl_map]
    apply List.foldl_ext
    intro t e he
    rw [h i e.1 e.2 (KVStore.mem_entries_iff.mp he)]
    rfl
  simp only [reload, hload]
  rfl

/-! ### Records from lists -/

/-- Set a record under its own key. -/
def setRecord (key : ∀ i, V i → Bytes) (i : ι) (s : S) (v : V i) : S :=
  L.put s i ((L.records s i).set (key i v) v)

/-- Set the records of a list for every kind, one after another. -/
def load (key : ∀ i, V i → Bytes) (l : ∀ i, List (V i)) (s : S) : S :=
  L.kinds.foldl (fun s i => (l i).foldl (L.setRecord key i) s) s

/-- What no write to the records changes is as it was. -/
theorem load_fixed {γ : Type} {g : S → γ} (h : ∀ s i t, g (L.put s i t) = g s)
    (l : ∀ i, List (V i)) (s : S) : g (L.load key l s) = g s := by
  have hkind : ∀ i (l : List (V i)) s, g (l.foldl (L.setRecord key i) s) = g s := by
    intro i l
    induction l with
    | nil => exact fun _ => rfl
    | cons v l ih => exact fun s => (ih (L.setRecord key i s v)).trans (h s i _)
  unfold load
  induction L.kinds generalizing s with
  | nil => rfl
  | cons i kinds ih => exact (ih ((l i).foldl (L.setRecord key i) s)).trans (hkind i (l i) s)

variable (hkey : ∀ i v, L.IsKey i (key i v))
include hkey

theorem records_foldl_setRecord (i : ι) (l : List (V i)) (s : S) :
    L.records (l.foldl (L.setRecord key i) s) =
      Function.update (L.records s) i ((L.records s i).load (key i) (fun v => v) l) := by
  induction l generalizing s with
  | nil => exact (Function.update_eq_self i (L.records s)).symm
  | cons v l ih =>
    have hset : L.records (L.setRecord key i s v) =
        Function.update (L.records s) i ((L.records s i).set (key i v) v) :=
      L.records_put s i ((L.isKey s i).set (hkey i v))
    rw [List.foldl_cons, ih, hset, Function.update_idem, Function.update_self]
    rfl

/-- **What is set is read back**, kind by kind. -/
theorem records_load (hkinds : L.kinds.Nodup) (l : ∀ i, List (V i)) (s : S) (i : ι) :
    L.records (L.load key l s) i = (L.records s i).load (key i) (fun v => v) (l i) := by
  -- the lists of the other kinds change nothing, whether they come before or after
  have hfold : ∀ (kinds : List ι) (s : S), kinds.Nodup →
      L.records (kinds.foldl (fun s i => (l i).foldl (L.setRecord key i) s) s) i =
        if i ∈ kinds then (L.records s i).load (key i) (fun v => v) (l i) else L.records s i := by
    intro kinds
    induction kinds with
    | nil => intro s _; simp
    | cons j kinds ih =>
      intro s hnodup
      obtain ⟨hj, hnodup⟩ := List.nodup_cons.mp hnodup
      rw [List.foldl_cons, ih _ hnodup, L.records_foldl_setRecord hkey]
      by_cases hij : i = j
      · subst hij
        simp [hj]
      · simp [hij]
  rw [load, hfold L.kinds s hkinds, if_pos (L.mem_kinds i)]

/-- Records from lists lie under their own keys. -/
theorem own_load (hkinds : L.kinds.Nodup) (l : ∀ i, List (V i)) {s : S} (h : L.Own key s) :
    L.Own key (L.load key l s) := by
  intro i
  rw [L.records_load hkey hkinds]
  exact (h i).load fun _ _ => rfl

/-- **The records of a state come back**, if each of them lies under its own key. -/
theorem records_load_values (hkinds : L.kinds.Nodup) {s s₀ : S} (h : L.Own key s)
    (hempty : ∀ i, L.records s₀ i = .empty) (i : ι) :
    L.records (L.load key (fun i => (L.records s i).values) s₀) i = L.records s i := by
  rw [L.records_load hkey hkinds, hempty, KVStore.load_values (h i)]

omit hkey

/-- The state and its one store say the same, and come back from their records. -/
structure RoundTrips (key : ∀ i, V i → Bytes) (s : S) : Prop where
  own : L.Own key s
  /-- A lookup under a key of a kind finds a record of this kind. -/
  get : ∀ i k, (L.shared s).get (L.fullKey i k) = ((L.records s i).get k).map (Sigma.mk i)
  /-- An iterator over a kind finds its records, and no others. -/
  scan : ∀ i, L.scan i (L.shared s) = (L.records s i).values.map (Sigma.mk i)
  set : ∀ i k v, L.IsKey i k →
    L.shared (L.put s i ((L.records s i).set k v)) = (L.shared s).set (L.fullKey i k) ⟨i, v⟩
  delete : ∀ i k,
    L.shared (L.put s i ((L.records s i).delete k)) = (L.shared s).delete (L.fullKey i k)
  /-- The records, set under their own keys, give the one store back. -/
  reload : L.reload key (fun i => (L.records s i).values) = L.shared s

variable {L} in
theorem Own.roundTrips {s : S} (h : L.Own key s) : L.RoundTrips key s where
  own := h
  get := L.get_shared s
  scan := L.scan_shared s
  set _ _ v hk := L.shared_set s hk v
  delete := L.shared_delete s
  reload := reload_values h

end Layout

end Machine
