import Mathlib.Data.List.Lex

/-!
# Byte strings

Store keys are byte strings, ordered lexicographically. `utf8 s` is the bytes of a string; it is
an injective homomorphism, so that keys built by concatenation can be compared as strings. A number
stands in a key as a word of four bytes, and what follows such a word starts at a fixed place.

## Main results

* `utf8_append`, `utf8_injective`: concatenation and comparison of keys are those of the strings
* `bigEndian32_append_inj`, `wordKey_append_inj`: a word and what follows it can be read off a key
* `append_sep_eq_iff`, `append_sep_inj`: in how many ways a separator cuts a string, and when in one
-/

namespace Machine

/-- A byte string. -/
abbrev Bytes := List UInt8

instance instLinearOrderUInt8 : LinearOrder UInt8 where
  le_refl := UInt8.le_refl
  le_trans _ _ _ := UInt8.le_trans
  le_antisymm _ _ := UInt8.le_antisymm
  le_total := UInt8.le_total
  lt_iff_le_not_ge a b := by
    simp only [UInt8.lt_iff_toNat_lt, UInt8.le_iff_toNat_le]
    omega
  toDecidableLE := inferInstance
  toDecidableLT := inferInstance
  toDecidableEq := inferInstance

/-- The bytes of a string. -/
def utf8 (s : String) : Bytes := s.toUTF8.data.toList

@[simp] theorem utf8_append (s t : String) : utf8 (s ++ t) = utf8 s ++ utf8 t := by
  simp [utf8, String.toUTF8]

theorem utf8_injective : Function.Injective utf8 := by
  intro s t h
  exact String.toByteArray_inj.mp (ByteArray.ext (Array.toList_inj.mp h))

@[simp] theorem utf8_inj {s t : String} : utf8 s = utf8 t ↔ s = t := utf8_injective.eq_iff

/-! ## Words -/

/-- The four bytes of a word, the most significant one first. -/
def bigEndian32 (n : UInt32) : Bytes :=
  [(n >>> 24).toUInt8, (n >>> 16).toUInt8, (n >>> 8).toUInt8, n.toUInt8]

theorem bigEndian32_injective : Function.Injective bigEndian32 := by
  intro m n h
  simp only [bigEndian32, List.cons.injEq, and_true, ← UInt8.toNat_inj, UInt32.toNat_toUInt8,
    UInt32.toNat_shiftRight] at h
  have hm := m.toNat_lt
  have hn := n.toNat_lt
  apply UInt32.toNat_inj.mp
  -- a number below `2 ^ 32` is made up of its four digits to the base `2 ^ 8`
  simp [Nat.shiftRight_eq_div_pow] at h
  omega

/-- What follows a word in a key starts at the same place, whatever the word. -/
theorem bigEndian32_append_inj {m n : UInt32} {l r : Bytes} :
    bigEndian32 m ++ l = bigEndian32 n ++ r ↔ m = n ∧ l = r := by
  refine ⟨fun h => ?_, by rintro ⟨rfl, rfl⟩; rfl⟩
  obtain ⟨hword, hrest⟩ := List.append_inj h rfl
  exact ⟨bigEndian32_injective hword, hrest⟩

/-- A part of a key: a word and a slash. The slash is not needed to find the end of the word. -/
def wordKey (n : UInt32) : Bytes := bigEndian32 n ++ utf8 "/"

theorem wordKey_append_inj {m n : UInt32} {l r : Bytes} :
    wordKey m ++ l = wordKey n ++ r ↔ m = n ∧ l = r := by
  simp only [wordKey, List.append_assoc, bigEndian32_append_inj, List.append_cancel_left_eq]

theorem wordKey_inj {m n : UInt32} : wordKey m = wordKey n ↔ m = n := by
  have h := wordKey_append_inj (m := m) (n := n) (l := []) (r := [])
  simpa using h

/-- A signed number is the word with the same bits. -/
theorem toUInt32_inj {m n : Int32} : m.toUInt32 = n.toUInt32 ↔ m = n := by
  cases m
  cases n
  simp

/-! ## Separators -/

/-- **The cuts of a list at a separator**: two cuts agree, or one of them is made further to the right
than the other. -/
theorem append_sep_eq_iff {α : Type} {a : α} {l₁ l₂ r₁ r₂ : List α} :
    l₁ ++ a :: r₁ = l₂ ++ a :: r₂ ↔
      (l₁ = l₂ ∧ r₁ = r₂) ∨ (∃ m, l₂ = l₁ ++ a :: m ∧ r₁ = m ++ a :: r₂) ∨
        ∃ m, l₁ = l₂ ++ a :: m ∧ r₂ = m ++ a :: r₁ := by
  constructor
  · intro h
    rcases List.append_eq_append_iff.mp h with ⟨m, rfl, hm⟩ | ⟨m, rfl, hm⟩
    · cases m with
      | nil => exact Or.inl (by simpa using hm)
      | cons b m =>
        obtain ⟨rfl, rfl⟩ := List.cons.inj hm
        exact Or.inr (Or.inl ⟨m, rfl, rfl⟩)
    · cases m with
      | nil => exact Or.inl (by simpa [eq_comm] using hm)
      | cons b m =>
        obtain ⟨rfl, rfl⟩ := List.cons.inj hm
        exact Or.inr (Or.inr ⟨m, rfl, rfl⟩)
  · rintro (⟨rfl, rfl⟩ | ⟨m, rfl, rfl⟩ | ⟨m, rfl, rfl⟩)
    · rfl
    · simp
    · simp

/-- A list is cut at a separator in one way only, if the separator does not occur behind the
cut. -/
theorem append_sep_inj {α : Type} {a : α} {l₁ l₂ r₁ r₂ : List α}
    (h : l₁ ++ a :: r₁ = l₂ ++ a :: r₂) (h₁ : a ∉ r₁) (h₂ : a ∉ r₂) : l₁ = l₂ ∧ r₁ = r₂ := by
  rcases append_sep_eq_iff.mp h with h | ⟨m, -, rfl⟩ | ⟨m, -, rfl⟩
  · exact h
  · exact absurd (List.mem_append_right m List.mem_cons_self) h₁
  · exact absurd (List.mem_append_right m List.mem_cons_self) h₂

end Machine
