import Mathlib.Data.List.Nodup
import Mathlib.Data.List.Perm.Basic

/-!
# Registries

A registry keeps items of different keys beside a record of the keys that are taken, and updates
the two separately: an item is registered under a free key, moved about, or released. It is sound
when the keys taken are those of the items.

## Main definitions

* `Registered key items taken`: the items have different keys, which are those taken

## Main results

* `Registered.perm`, `Registered.register`, `Registered.release`: the operations keep it
* `Registered.key_ne`: items kept in two places have different keys
-/

namespace Machine

variable {α κ : Type}

/-- The items have different keys, and the keys taken are theirs. -/
structure Registered (key : α → κ) (items : List α) (taken : κ → Prop) : Prop where
  nodup : (items.map key).Nodup
  taken_iff : ∀ k, taken k ↔ k ∈ items.map key

namespace Registered

variable {key : α → κ} {items items' : List α} {taken taken' : κ → Prop} {a : α}

theorem nil (h : ∀ k, ¬ taken k) : Registered key [] taken where
  nodup := List.nodup_nil
  taken_iff k := by simp [h k]

/-- The items may be moved about. -/
theorem perm (h : Registered key items taken) (hperm : items'.Perm items) :
    Registered key items' taken where
  nodup := (hperm.map key).nodup_iff.mpr h.nodup
  taken_iff k := (h.taken_iff k).trans (hperm.map key).mem_iff.symm

/-- An item is registered under a free key. -/
theorem register (h : Registered key items taken) (hfree : ¬ taken (key a))
    (htaken : ∀ k, taken' k ↔ k = key a ∨ taken k) : Registered key (a :: items) taken' where
  nodup := List.nodup_cons.mpr ⟨fun hmem => hfree ((h.taken_iff _).mpr hmem), h.nodup⟩
  taken_iff k := by rw [htaken, h.taken_iff, List.map_cons, List.mem_cons]

/-- An item is released with its key. -/
theorem release (h : Registered key (a :: items) taken)
    (htaken : ∀ k, taken' k ↔ k ≠ key a ∧ taken k) : Registered key items taken' := by
  obtain ⟨hnew, hnodup⟩ := List.nodup_cons.mp h.nodup
  refine ⟨hnodup, fun k => ?_⟩
  rw [htaken, h.taken_iff, List.map_cons, List.mem_cons]
  constructor
  · rintro ⟨hne, heq | hmem⟩
    · exact absurd heq hne
    · exact hmem
  · intro hmem
    -- an item that stays has another key than the one released
    refine ⟨?_, Or.inr hmem⟩
    rintro rfl
    exact hnew hmem

/-- Items kept in two places have different keys. -/
theorem key_ne (h : Registered key (items ++ items') taken) {b : α} (ha : a ∈ items)
    (hb : b ∈ items') : key a ≠ key b := by
  have hnodup := h.nodup
  rw [List.map_append] at hnodup
  exact List.disjoint_iff_ne.mp (List.disjoint_of_nodup_append hnodup) _ (List.mem_map_of_mem ha) _
    (List.mem_map_of_mem hb)

end Registered

end Machine
