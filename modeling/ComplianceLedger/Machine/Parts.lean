import ComplianceLedger.Machine.Encoding
import Mathlib.Algebra.Order.BigOperators.Group.List
import Mathlib.Algebra.Order.Group.Nat
import Mathlib.Data.List.Infix

/-!
# Lists in parts

A list is cut at a separator, its parts are changed one by one, and they are joined again. A list that
was itself joined from others is changed piece by piece, since the cuts do not go across the separators
it was joined with; but there are more cuts than these, if the pieces have separators of their own.

A key that a part begins with is at the beginning of the list or behind a separator. A text can be cut
in its bytes or in its characters: the bytes of a character above seven bits are none of the characters
below.

## Main definitions

* `mapParts c f l`: the list with its parts between `c` changed
* `HasKey c key l`: some part begins with the key

## Main results

* `mapParts_intercalate`: a joined list is changed piece by piece
* `exists_part_iff`: a part begins with a key where the key follows a separator
* `eq_of_intercalate_eq`: pieces that do not grow, and joined give the same, have their lengths
* `hasKey_utf8`: keys are found in the bytes of a text as in its characters
-/

namespace Machine

section Parts

variable {α : Type} {c : α} {key a b : List α}

/-! ## Joined lists -/

theorem intercalate_append {ps qs : List (List α)} (hps : ps ≠ []) (hqs : qs ≠ []) :
    [c].intercalate (ps ++ qs) = [c].intercalate ps ++ c :: [c].intercalate qs := by
  induction ps with
  | nil => exact absurd rfl hps
  | cons p ps ih =>
    by_cases hempty : ps = []
    · subst hempty
      simp [intercalate_cons, hqs]
    · rw [List.cons_append, intercalate_cons, ih hempty, intercalate_cons]
      simp [hempty]

theorem length_intercalate (ls : List (List α)) :
    ([c].intercalate ls).length = (ls.map List.length).sum + (ls.length - 1) := by
  induction ls with
  | nil => rfl
  | cons l ls ih =>
    cases ls with
    | nil => simp
    | cons r ls =>
      rw [List.intercalate_cons_cons, List.length_append, List.length_append, ih]
      simp only [List.map_cons, List.sum_cons, List.length_cons, List.length_nil]
      omega

section Pieces

variable {β : Type} {l : List β} {p q : β → List α}

/-- Pieces that do not grow give a list that does not grow. -/
theorem length_intercalate_le (h : ∀ a ∈ l, (p a).length ≤ (q a).length) :
    ([c].intercalate (l.map p)).length ≤ ([c].intercalate (l.map q)).length := by
  have hsum : (l.map fun a => (p a).length).sum ≤ (l.map fun a => (q a).length).sum :=
    List.sum_le_sum h
  simp only [length_intercalate, List.map_map, List.length_map]
  exact Nat.add_le_add_right hsum _

/-- If a piece gets shorter and none of them grows, the list gets shorter. -/
theorem length_intercalate_lt (h : ∀ a ∈ l, (p a).length ≤ (q a).length)
    (hlt : ∃ a ∈ l, (p a).length < (q a).length) :
    ([c].intercalate (l.map p)).length < ([c].intercalate (l.map q)).length := by
  have hsum : (l.map fun a => (p a).length).sum < (l.map fun a => (q a).length).sum :=
    List.sum_lt_sum _ _ h hlt
  simp only [length_intercalate, List.map_map, List.length_map]
  exact Nat.add_lt_add_right hsum _

/-- **Pieces that do not grow, and joined give the same list, keep their lengths.** -/
theorem eq_of_intercalate_eq (h : ∀ a ∈ l, (p a).length ≤ (q a).length)
    (heq : [c].intercalate (l.map p) = [c].intercalate (l.map q)) :
    ∀ a ∈ l, (p a).length = (q a).length := by
  by_contra hne
  push Not at hne
  obtain ⟨a, ha, hlength⟩ := hne
  have hlt := length_intercalate_lt (c := c) h ⟨a, ha, lt_of_le_of_ne (h a ha) hlength⟩
  rw [heq] at hlt
  exact lt_irrefl _ hlt

end Pieces

/-! ## Beginnings -/

/-- A key without `c` at the beginning of a list ends before the first `c`. -/
theorem prefix_append_cons_iff (hkey : c ∉ key) : key <+: a ++ c :: b ↔ key <+: a := by
  constructor
  · intro h
    rcases List.prefix_or_prefix_of_prefix h (List.prefix_append a (c :: b)) with h' | ⟨m, rfl⟩
    · exact h'
    · -- what the key has beyond `a` begins with `c`
      have hm : m <+: c :: b := (List.prefix_append_right_inj a).mp h
      cases m with
      | nil => simp
      | cons d m =>
        obtain ⟨rfl, -⟩ := List.cons_prefix_cons.mp hm
        exact absurd (List.mem_append_right a List.mem_cons_self) hkey
  · intro h
    exact h.trans (List.prefix_append a (c :: b))

/-- Something that begins with `c` does not begin in a list without `c`. -/
theorem infix_append_iff (ha : c ∉ a) : c :: key <:+: a ++ b ↔ c :: key <:+: b := by
  induction a with
  | nil => rfl
  | cons d a ih =>
    obtain ⟨hd, ha⟩ := not_or.mp (mt List.mem_cons.mpr ha)
    rw [List.cons_append, List.infix_cons_iff, ih ha]
    refine or_iff_right ?_
    intro hbegin
    exact hd (List.cons_prefix_cons.mp hbegin).1

variable [DecidableEq α] {f : List α → List α}

/-! ## Changes -/

/-- The list with its parts changed. -/
def mapParts (c : α) (f : List α → List α) (l : List α) : List α :=
  [c].intercalate ((l.splitOn c).map f)

theorem mapParts_append (l r : List α) :
    mapParts c f (l ++ c :: r) = mapParts c f l ++ c :: mapParts c f r := by
  unfold mapParts
  rw [List.splitOn_append_cons_self, List.map_append, intercalate_append]
  · simp [List.splitOn_ne_nil]
  · simp [List.splitOn_ne_nil]

/-- **A joined list is changed piece by piece.** -/
theorem mapParts_intercalate {ls : List (List α)} (hls : ls ≠ []) :
    mapParts c f ([c].intercalate ls) = [c].intercalate (ls.map (mapParts c f)) := by
  induction ls with
  | nil => exact absurd rfl hls
  | cons l ls ih =>
    cases ls with
    | nil => simp
    | cons r ls =>
      have hjoined : [c].intercalate (l :: r :: ls) = l ++ c :: [c].intercalate (r :: ls) := by
        simp [List.intercalate_cons_cons]
      rw [hjoined, mapParts_append, ih (List.cons_ne_nil r ls)]
      simp [List.intercalate_cons_cons]

theorem mapParts_eq_self {l : List α} (h : ∀ part ∈ l.splitOn c, f part = part) :
    mapParts c f l = l := by
  have hmap : (l.splitOn c).map f = l.splitOn c := (List.map_congr_left h).trans (List.map_id _)
  rw [mapParts, hmap, List.intercalate_splitOn]

theorem mapParts_of_notMem {l : List α} (h : c ∉ l) : mapParts c f l = f l := by
  rw [mapParts, List.splitOn_eq_singleton h, List.map_singleton, List.intercalate_singleton]

theorem length_mapParts_le {l : List α} (h : ∀ part ∈ l.splitOn c, (f part).length ≤ part.length) :
    (mapParts c f l).length ≤ l.length := by
  have hle := length_intercalate_le (c := c) (p := f) (q := fun part => part) h
  rwa [List.map_id', List.intercalate_splitOn] at hle

theorem length_mapParts_lt {l : List α} (h : ∀ part ∈ l.splitOn c, (f part).length ≤ part.length)
    (hlt : ∃ part ∈ l.splitOn c, (f part).length < part.length) :
    (mapParts c f l).length < l.length := by
  have hlt' := length_intercalate_lt (c := c) (p := f) (q := fun part => part) h hlt
  rwa [List.map_id', List.intercalate_splitOn] at hlt'

/-! ## Keys -/

/-- Some part of the list begins with the key. -/
def HasKey (c : α) (key l : List α) : Prop := key <+: l ∨ c :: key <:+: l

/-- Lists are read part by part: the part in front of the first `c` is taken off, until there is no
`c` left. -/
theorem parts_induction {motive : List α → Prop} (single : ∀ l, c ∉ l → motive l)
    (more : ∀ a b, c ∉ a → motive b → motive (a ++ c :: b)) (l : List α) : motive l := by
  induction hn : l.length using Nat.strong_induction_on generalizing l with
  | _ n ih =>
    by_cases hmem : c ∈ l
    · obtain ⟨a, b, rfl, ha⟩ := List.eq_append_cons_of_mem hmem
      refine more a b ha (ih b.length ?_ b rfl)
      rw [← hn]
      simp only [List.length_append, List.length_cons]
      omega
    · exact single l hmem

/-- **Some part begins with the key**: the key stands at the beginning, or behind a separator. -/
theorem exists_part_iff (hkey : c ∉ key) (l : List α) :
    (∃ part ∈ l.splitOn c, key <+: part) ↔ HasKey c key l := by
  induction l using parts_induction (c := c) with
  | single l hmem =>
    rw [List.splitOn_eq_singleton hmem]
    have hnot : ¬ c :: key <:+: l := fun h => hmem (h.subset List.mem_cons_self)
    simp [HasKey, hnot]
  | more a b ha ih =>
    rw [HasKey, List.splitOn_append_cons_self_of_not_mem ha, prefix_append_cons_iff hkey,
      infix_append_iff ha, List.infix_cons_iff, List.cons_prefix_cons]
    simp only [List.mem_cons, exists_eq_or_imp, true_and]
    rw [ih, HasKey]

end Parts

/-! ## Texts -/

/-- The byte that texts are cut at. -/
def comma : UInt8 := 44

theorem utf8_comma : utf8 "," = [comma] := by decide

/-- The bytes of characters. -/
def encode (l : List Char) : Bytes := l.flatMap String.utf8EncodeChar

theorem encode_append (l r : List Char) : encode (l ++ r) = encode l ++ encode r :=
  List.flatMap_append

theorem encode_cons (c : Char) (l : List Char) :
    encode (c :: l) = String.utf8EncodeChar c ++ encode l :=
  List.flatMap_cons

theorem utf8_eq_encode (s : String) : utf8 s = encode s.toList := by
  rw [encode, ← utf8_ofList, String.ofList_toList]

/-- The bytes of a character end where they do, whatever follows. -/
theorem encodeChar_append_inj {c d : Char} {l r : Bytes}
    (h : String.utf8EncodeChar c ++ l = String.utf8EncodeChar d ++ r) : c = d ∧ l = r := by
  have hbytes := congrArg List.toByteArray h
  rw [List.toByteArray_append, List.toByteArray_append] at hbytes
  have hdecode := congrArg (fun bytes => ByteArray.utf8DecodeChar? bytes 0) hbytes
  simp only [ByteArray.utf8DecodeChar?_utf8EncodeChar_append, Option.some.injEq] at hdecode
  subst hdecode
  exact ⟨rfl, List.append_cancel_left h⟩

/-- Bytes begin with the bytes of some characters if the characters do, and only then. -/
theorem encode_prefix_iff {k l : List Char} : encode k <+: encode l ↔ k <+: l := by
  constructor
  · intro h
    induction k generalizing l with
    | nil => exact List.nil_prefix
    | cons c k ih =>
      obtain ⟨rest, hrest⟩ := h
      rw [encode_cons, List.append_assoc] at hrest
      cases l with
      | nil =>
        have hlength := congrArg List.length hrest
        have hpos := Char.utf8Size_pos c
        simp only [List.length_append, String.length_utf8EncodeChar, encode, List.flatMap_nil,
          List.length_nil] at hlength
        omega
      | cons d l =>
        rw [encode_cons] at hrest
        obtain ⟨rfl, htail⟩ := encodeChar_append_inj hrest
        exact List.cons_prefix_cons.mpr ⟨rfl, ih ⟨rest, htail⟩⟩
  · rintro ⟨rest, rfl⟩
    exact ⟨encode rest, (encode_append k rest).symm⟩

/-- A byte of seven bits is a character of its own. -/
theorem toNat_eq_of_mem_encodeChar {b : UInt8} {c : Char} (h : b ∈ String.utf8EncodeChar c)
    (hb : b.toNat < 128) : c.val.toNat = b.toNat := by
  -- the other bytes are 128 and something below 128
  have hhigh (n : ℕ) (hn : n < 128) : b ≠ UInt8.ofNat (n + 128) := by
    rintro rfl
    rw [UInt8.toNat_ofNat', Nat.mod_eq_of_lt (by omega)] at hb
    omega
  unfold String.utf8EncodeChar at h
  dsimp only at h
  split at h
  · next hsmall =>
    rw [List.mem_singleton] at h
    rw [h, UInt8.toNat_ofNat', Nat.mod_eq_of_lt (by omega)]
  · exfalso
    split at h
    · simp only [List.mem_cons, List.not_mem_nil, or_false] at h
      rcases h with h | h
      · exact hhigh (c.val.toNat / 64 % 32 + 64) (by omega) h
      · exact hhigh _ (by omega) h
    · split at h
      · simp only [List.mem_cons, List.not_mem_nil, or_false] at h
        rcases h with h | h | h
        · exact hhigh (c.val.toNat / 4096 % 16 + 96) (by omega) h
        · exact hhigh _ (by omega) h
        · exact hhigh _ (by omega) h
      · simp only [List.mem_cons, List.not_mem_nil, or_false] at h
        rcases h with h | h | h | h
        · exact hhigh (c.val.toNat / 262144 % 8 + 112) (by omega) h
        · exact hhigh _ (by omega) h
        · exact hhigh _ (by omega) h
        · exact hhigh _ (by omega) h

theorem comma_mem_encode_iff {l : List Char} : comma ∈ encode l ↔ ',' ∈ l := by
  rw [encode, List.mem_flatMap]
  constructor
  · rintro ⟨c, hc, hmem⟩
    have hval : c.val.toNat = comma.toNat := toNat_eq_of_mem_encodeChar hmem (by decide)
    have heq : c = ',' := Char.ext (UInt32.toNat_inj.mp hval)
    exact heq ▸ hc
  · intro h
    exact ⟨',', h, by decide⟩

/-- **A text is cut in its bytes as in its characters.** -/
theorem splitOn_encode (l : List Char) :
    (encode l).splitOn comma = (l.splitOn ',').map encode := by
  induction l using parts_induction (c := ',') with
  | single l hmem =>
    rw [List.splitOn_eq_singleton hmem, List.splitOn_eq_singleton (mt comma_mem_encode_iff.mp hmem),
      List.map_singleton]
  | more a b ha ih =>
    have hcut : encode (a ++ ',' :: b) = encode a ++ comma :: encode b := by
      rw [encode_append, encode_cons]
      rfl
    rw [hcut, List.splitOn_append_cons_self_of_not_mem (mt comma_mem_encode_iff.mp ha), ih,
      List.splitOn_append_cons_self_of_not_mem ha, List.map_cons]

/-- **Keys are found in the bytes of a text as in its characters.** -/
theorem hasKey_utf8 {key s : String} (hkey : ',' ∉ key.toList) :
    HasKey comma (utf8 key) (utf8 s) ↔ HasKey ',' key.toList s.toList := by
  rw [utf8_eq_encode, utf8_eq_encode, ← exists_part_iff (mt comma_mem_encode_iff.mp hkey),
    ← exists_part_iff hkey, splitOn_encode]
  simp only [List.mem_map, exists_exists_and_eq_and, encode_prefix_iff]

/-- The bytes of a joined text are the joined bytes. -/
theorem utf8_intercalate (l : List String) :
    utf8 (",".intercalate l) = [comma].intercalate (l.map utf8) := by
  induction l with
  | nil => rfl
  | cons s l ih =>
    cases l with
    | nil => simp
    | cons t l =>
      rw [String.intercalate_cons_cons, utf8_append, utf8_append, ih, utf8_comma, List.map_cons,
        List.map_cons, List.map_cons, List.intercalate_cons_cons]

end Machine
