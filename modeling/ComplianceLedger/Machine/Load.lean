import ComplianceLedger.Machine.KVStore

/-!
# Stores from lists of values

A store is exported as the list of its values, in the order of the keys, and imported by setting the
values of a list one after another. The key of a value is computed from it, so an import gives the
store back when every value lay under its own key.

The state that is imported into has several stores, and the values of one list go to one of them.

## Main definitions

* `load key val l s`: set what comes of the items of a list, one after another

## Main results

* `load_eq`, `load_values`: the store that a list of its entries gives back
* `foldl_load`, `foldl_load_values`: a loop that sets values in one store of a state
* `foldlM_eq_some`, `foldlM_fixed`: a loop that could fail and does not
-/

namespace Machine

variable {K V α S : Type}

namespace KVStore

variable [LinearOrder K] {key : α → K} {val : α → V} {l : List α} {s : KVStore K V} {k : K} {v : V}

/-- Set what comes of the items of a list, one after another. -/
def load (key : α → K) (val : α → V) (l : List α) (s : KVStore K V) : KVStore K V :=
  l.foldl (fun t a => t.set (key a) (val a)) s

theorem get_load_of_ne (h : ∀ a ∈ l, key a ≠ k) : (s.load key val l).get k = s.get k := by
  induction l generalizing s with
  | nil => rfl
  | cons a l ih =>
    have hrest : ∀ b ∈ l, key b ≠ k := fun b hb => h b (List.mem_cons_of_mem a hb)
    show ((s.set (key a) (val a)).load key val l).get k = s.get k
    rw [ih hrest, get_set_of_ne]
    exact (h a List.mem_cons_self).symm

theorem get_load_of_mem (hmem : ∃ a ∈ l, key a = k) (hval : ∀ a ∈ l, key a = k → val a = v) :
    (s.load key val l).get k = some v := by
  induction l generalizing s with
  | nil => simp at hmem
  | cons a l ih =>
    show ((s.set (key a) (val a)).load key val l).get k = some v
    -- a later item with the key replaces what this one sets
    by_cases hrest : ∃ b ∈ l, key b = k
    · exact ih hrest fun b hb => hval b (List.mem_cons_of_mem a hb)
    · -- the last item with the key is the first one of the list
      have hne : ∀ b ∈ l, key b ≠ k := fun b hb hk => hrest ⟨b, hb, hk⟩
      obtain ⟨b, hb, hk⟩ := hmem
      obtain rfl : b = a := (List.mem_cons.mp hb).resolve_right fun hb => hne b hb hk
      rw [get_load_of_ne hne, ← hk, get_set_self, hval b hb hk]

theorem All.load {P : K → V → Prop} (h : s.All P) (hl : ∀ a ∈ l, P (key a) (val a)) :
    (s.load key val l).All P := by
  induction l generalizing s with
  | nil => exact h
  | cons a l ih =>
    exact ih (h.set (hl a List.mem_cons_self)) fun b hb => hl b (List.mem_cons_of_mem a hb)

/-- **A list of the entries of a store gives it back.** -/
theorem load_eq (h : ∀ a ∈ l, s.get (key a) = some (val a))
    (hl : ∀ k v, s.get k = some v → ∃ a ∈ l, key a = k) : empty.load key val l = s := by
  apply ext_get
  intro k
  cases hget : s.get k with
  | none =>
    rw [get_load_of_ne, get_empty]
    rintro a ha rfl
    cases (h a ha).symm.trans hget
  | some v =>
    apply get_load_of_mem (hl k v hget)
    rintro a ha rfl
    exact Option.some.inj ((h a ha).symm.trans hget)

/-- The values of a store give it back, if each of them lies under its own key. -/
theorem load_values {key : V → K} (h : s.All fun k v => k = key v) :
    empty.load key (fun v => v) s.values = s := by
  apply load_eq
  · intro v hv
    exact h.mem_values_iff.mp hv
  · intro k v hget
    exact ⟨v, mem_values_iff.mpr ⟨k, hget⟩, (h k v hget).symm⟩

/-- The keys of the values are distinct. -/
theorem nodup_map_values {key : V → K} (h : s.All fun k v => k = key v) :
    (s.values.map key).Nodup := by
  -- the keys that are computed are those that the values lie under
  have hkeys : s.values.map key = s.entries.map Prod.fst := by
    rw [values, List.map_map]
    refine List.map_congr_left fun e he => ?_
    exact (h e.1 e.2 (mem_entries_iff.mp he)).symm
  rw [hkeys]
  exact s.nodup_keys

end KVStore

/-! ## Loops over a state -/

/-- A loop that sets values in one store of a state loads this store. -/
theorem foldl_load [LinearOrder K] (get : S → KVStore K V) (put : KVStore K V → S → S)
    (hget : ∀ t s, get (put t s) = t) (hput : ∀ t t' s, put t (put t' s) = put t s)
    (hself : ∀ s, put (get s) s = s) (key : α → K) (val : α → V) (l : List α) (s : S) :
    l.foldl (fun s a => put ((get s).set (key a) (val a)) s) s = put ((get s).load key val l) s := by
  induction l generalizing s with
  | nil => exact (hself s).symm
  | cons a l ih =>
    rw [List.foldl_cons, ih, hget, hput]
    rfl

/-- A loop that sets the values of a store gives the store back, if each of them lies under its own
key. -/
theorem foldl_load_values [LinearOrder K] (get : S → KVStore K V) (put : KVStore K V → S → S)
    (hget : ∀ t s, get (put t s) = t) (hput : ∀ t t' s, put t (put t' s) = put t s)
    (hself : ∀ s, put (get s) s = s) {key : V → K} {t : KVStore K V}
    (h : t.All fun k v => k = key v) {s : S} (hs : get s = .empty) :
    t.values.foldl (fun s v => put ((get s).set (key v) v) s) s = put t s := by
  rw [foldl_load get put hget hput hself key (fun v => v), hs, KVStore.load_values h]

/-- A loop whose steps do not fail. -/
theorem foldlM_eq_some {f : S → α → Option S} {g : S → α → S} {l : List α}
    (h : ∀ a ∈ l, ∀ s, f s a = some (g s a)) (s : S) : l.foldlM f s = some (l.foldl g s) := by
  induction l generalizing s with
  | nil => rfl
  | cons a l ih =>
    rw [List.foldlM_cons, h a List.mem_cons_self, List.foldl_cons]
    exact ih (fun b hb => h b (List.mem_cons_of_mem a hb)) (g s a)

/-- A loop whose steps leave the state as it is. -/
theorem foldlM_fixed {f : S → α → Option S} {l : List α} {s : S} (h : ∀ a ∈ l, f s a = some s) :
    l.foldlM f s = some s := by
  induction l with
  | nil => rfl
  | cons a l ih =>
    rw [List.foldlM_cons, h a List.mem_cons_self]
    exact ih fun b hb => h b (List.mem_cons_of_mem a hb)

end Machine
