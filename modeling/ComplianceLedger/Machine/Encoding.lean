import ComplianceLedger.Machine.Bytes
import Mathlib.Data.List.GetD
import Mathlib.Data.List.Nodup
import Mathlib.Data.Nat.Digits.Lemmas
import Mathlib.Tactic.IntervalCases

/-!
# Texts of binary data

The texts that binary data is stored under: standard base64, hexadecimal bytes joined by colons,
and decimal integers. Each kind of text has one reading. Keys are cut at slashes, so it also matters
whether a text is free of them; hexadecimal and decimal texts are, base64 texts need not be.

## Main definitions

* `SlashFree s`: the bytes of `s` contain no slash
* `base64`, `hexColon`, `IsDecimal`: the three kinds of texts

## Main results

* `slashFree_hexColon`, `IsDecimal.slashFree`: hexadecimal and decimal texts are free of slashes
* `base64Bytes_base64Digits`: base64 digits are read back
* `base64_inj`, `hexColon_inj`, `decimal_inj`: different data has different texts
-/

namespace Machine

/-! ## Slashes -/

/-- The byte that keys are cut at. -/
def slash : UInt8 := 47

theorem utf8_slash : utf8 "/" = [slash] := by decide

/-- The bytes of the text contain no slash. -/
def SlashFree (s : String) : Prop := slash ∉ utf8 s

instance (s : String) : Decidable (SlashFree s) := inferInstanceAs (Decidable (¬ _))

theorem utf8_ofList (l : List Char) : utf8 (String.ofList l) = l.flatMap String.utf8EncodeChar := by
  simp [utf8, String.toUTF8, List.utf8Encode]

theorem slashFree_ofList {l : List Char} (h : ∀ c ∈ l, slash ∉ String.utf8EncodeChar c) :
    SlashFree (String.ofList l) := by
  intro hmem
  rw [utf8_ofList, List.mem_flatMap] at hmem
  obtain ⟨c, hc, hslash⟩ := hmem
  exact h c hc hslash

/-- An alphabet without the slash, checked digit by digit. -/
theorem slash_notMem_of_all (cs : List Char)
    (h : (cs.all fun c => decide (slash ∉ String.utf8EncodeChar c)) = true) :
    ∀ c ∈ cs, slash ∉ String.utf8EncodeChar c := by
  intro c hc
  exact of_decide_eq_true (List.all_eq_true.mp h c hc)

/-- Different places of an alphabet hold different digits. -/
theorem getD_inj_of_nodup {α : Type} {l : List α} (h : l.Nodup) {m n : ℕ} (hm : m < l.length)
    (hn : n < l.length) {d : α} (heq : l.getD m d = l.getD n d) : m = n := by
  rw [List.getD_eq_getElem l d hm, List.getD_eq_getElem l d hn] at heq
  exact (h.getElem_inj_iff).mp heq

theorem getD_mem {α : Type} {l : List α} {d : α} (hd : d ∈ l) (n : ℕ) : l.getD n d ∈ l := by
  rw [List.getD_eq_getElem?_getD]
  cases h : l[n]? with
  | none => exact hd
  | some c => exact List.mem_of_getElem? h

/-! ## Base64 -/

/-- A digit of the standard base64 alphabet. -/
def base64Digit (n : ℕ) : Char :=
  "ABCDEFGHIJKLMNOPQRSTUVWXYZabcdefghijklmnopqrstuvwxyz0123456789+/".toList.getD n '='

/-- The base64 digits of a byte string, four for every three bytes and padded at the end. -/
def base64Digits : Bytes → List Char
  | [] => []
  | [a] => [base64Digit (a.toNat / 4), base64Digit (a.toNat % 4 * 16), '=', '=']
  | [a, b] =>
    [base64Digit (a.toNat / 4), base64Digit (a.toNat % 4 * 16 + b.toNat / 16),
      base64Digit (b.toNat % 16 * 4), '=']
  | a :: b :: c :: rest =>
    base64Digit (a.toNat / 4) :: base64Digit (a.toNat % 4 * 16 + b.toNat / 16) ::
      base64Digit (b.toNat % 16 * 4 + c.toNat / 64) :: base64Digit (c.toNat % 64) ::
      base64Digits rest

/-- The standard base64 text of a byte string. -/
def base64 (bytes : Bytes) : String := String.ofList (base64Digits bytes)

example : base64 [0x4D, 0x61] = "TWE=" := by decide

/-- The sixty-four digits. -/
theorem length_base64Alphabet :
    "ABCDEFGHIJKLMNOPQRSTUVWXYZabcdefghijklmnopqrstuvwxyz0123456789+/".toList.length = 64 := by
  decide

theorem base64Digit_ne_pad {n : ℕ} (hn : n < 64) : base64Digit n ≠ '=' := by
  have hmem : base64Digit n ∈
      "ABCDEFGHIJKLMNOPQRSTUVWXYZabcdefghijklmnopqrstuvwxyz0123456789+/".toList := by
    rw [base64Digit, List.getD_eq_getElem _ _ (length_base64Alphabet ▸ hn)]
    exact List.getElem_mem _
  intro hpad
  rw [hpad] at hmem
  exact absurd hmem (by decide)

/-- The number that a digit stands for. -/
def base64Value (c : Char) : ℕ :=
  "ABCDEFGHIJKLMNOPQRSTUVWXYZabcdefghijklmnopqrstuvwxyz0123456789+/".toList.idxOf c

theorem base64Value_base64Digit {n : ℕ} (hn : n < 64) : base64Value (base64Digit n) = n := by
  have hn' := length_base64Alphabet.symm ▸ hn
  rw [base64Digit, List.getD_eq_getElem _ _ hn']
  exact List.get_idxOf (by decide +kernel) ⟨n, hn'⟩

/-- The bytes that base64 digits stand for. A digit has six bits: the first byte ends in the second
digit, and the second byte in the third. -/
def base64Bytes : List Char → Bytes
  | w :: x :: y :: z :: rest =>
    let a := UInt8.ofNat (base64Value w * 4 + base64Value x / 16)
    let b := UInt8.ofNat (base64Value x % 16 * 16 + base64Value y / 4)
    let c := UInt8.ofNat (base64Value y % 4 * 64 + base64Value z)
    if y = '=' then [a] else if z = '=' then [a, b] else a :: b :: c :: base64Bytes rest
  | _ => []

theorem ofNat_eq_of_toNat {b : UInt8} {n : ℕ} (h : n = b.toNat) : UInt8.ofNat n = b := by
  rw [h, UInt8.ofNat_toNat]

/-- **Base64 digits are read back.** -/
theorem base64Bytes_base64Digits (bytes : Bytes) : base64Bytes (base64Digits bytes) = bytes := by
  induction bytes using base64Digits.induct with
  | case1 => rfl
  | case2 a =>
    have ha := a.toNat_lt
    simp only [base64Digits, base64Bytes, if_true, List.cons.injEq, and_true]
    apply ofNat_eq_of_toNat
    rw [base64Value_base64Digit (by omega), base64Value_base64Digit (by omega)]
    omega
  | case3 a b =>
    have ha := a.toNat_lt
    have hb := b.toNat_lt
    have hy := base64Digit_ne_pad (n := b.toNat % 16 * 4) (by omega)
    simp only [base64Digits, base64Bytes, if_neg hy, if_true, List.cons.injEq, and_true]
    rw [base64Value_base64Digit (by omega), base64Value_base64Digit (by omega),
      base64Value_base64Digit (by omega)]
    exact ⟨ofNat_eq_of_toNat (by omega), ofNat_eq_of_toNat (by omega)⟩
  | case4 a b c rest ih =>
    have ha := a.toNat_lt
    have hb := b.toNat_lt
    have hc := c.toNat_lt
    have hy := base64Digit_ne_pad (n := b.toNat % 16 * 4 + c.toNat / 64) (by omega)
    have hz := base64Digit_ne_pad (n := c.toNat % 64) (by omega)
    simp only [base64Digits, base64Bytes, if_neg hy, if_neg hz, ih, List.cons.injEq, and_true]
    rw [base64Value_base64Digit (by omega), base64Value_base64Digit (by omega),
      base64Value_base64Digit (by omega), base64Value_base64Digit (by omega)]
    exact ⟨ofNat_eq_of_toNat (by omega), ofNat_eq_of_toNat (by omega), ofNat_eq_of_toNat (by omega)⟩

/-- **A base64 text has one reading.** -/
theorem base64Digits_injective : Function.Injective base64Digits :=
  Function.LeftInverse.injective base64Bytes_base64Digits

theorem base64_inj {bytes bytes' : Bytes} : base64 bytes = base64 bytes' ↔ bytes = bytes' := by
  refine ⟨fun h => base64Digits_injective (String.ofList_injective h), fun h => h ▸ rfl⟩

/-! ## Hexadecimal -/

def hexDigits : List Char := "0123456789ABCDEF".toList

/-- The two hexadecimal digits of a byte. -/
def hexByte (b : UInt8) : List Char :=
  [hexDigits.getD (b.toNat / 16) '0', hexDigits.getD (b.toNat % 16) '0']

/-- The bytes in hexadecimal, joined by colons. -/
def hexColon (bytes : Bytes) : String :=
  String.ofList ([':'].intercalate (bytes.map hexByte))

example : hexColon [0x5A, 0x00, 0xFF] = "5A:00:FF" := by decide

theorem getD_hexDigits_mem (n : ℕ) : hexDigits.getD n '0' ∈ hexDigits := getD_mem (by decide) n

/-- What follows the first part: nothing, or a separator and the rest. -/
theorem intercalate_cons {α : Type} (sep l : List α) (ls : List (List α)) :
    sep.intercalate (l :: ls) = l ++ if ls = [] then [] else sep ++ sep.intercalate ls := by
  cases ls with
  | nil => simp [List.intercalate]
  | cons l' ls => simp [List.intercalate]

theorem mem_intercalate {α : Type} {sep : List α} {c : α} {ls : List (List α)}
    (h : c ∈ sep.intercalate ls) : c ∈ sep ∨ ∃ l ∈ ls, c ∈ l := by
  induction ls with
  | nil => cases h
  | cons l ls ih =>
    rw [intercalate_cons, List.mem_append] at h
    rcases h with h | h
    · exact Or.inr ⟨l, List.mem_cons_self, h⟩
    · split at h
      · cases h
      · rcases List.mem_append.mp h with h | h
        · exact Or.inl h
        · obtain hsep | ⟨m, hm, hc⟩ := ih h
          · exact Or.inl hsep
          · exact Or.inr ⟨m, List.mem_cons_of_mem l hm, hc⟩

theorem slashFree_hexColon (bytes : Bytes) : SlashFree (hexColon bytes) := by
  have hdigits := slash_notMem_of_all (':' :: hexDigits) (by decide)
  apply slashFree_ofList
  intro c hc
  apply hdigits
  rcases mem_intercalate hc with hc | ⟨l, hl, hc⟩
  · rw [List.mem_singleton] at hc
    exact hc ▸ List.mem_cons_self
  · obtain ⟨b, -, rfl⟩ := List.mem_map.mp hl
    -- both digits of a byte are hexadecimal digits
    apply List.mem_cons_of_mem
    simp only [hexByte, List.mem_cons, List.not_mem_nil, or_false] at hc
    rcases hc with rfl | rfl
    · exact getD_hexDigits_mem _
    · exact getD_hexDigits_mem _

theorem hexByte_injective : Function.Injective hexByte := by
  intro a b h
  have ha := a.toNat_lt
  have hb := b.toNat_lt
  simp only [hexByte, List.cons.injEq, and_true] at h
  have hhigh := getD_inj_of_nodup (l := hexDigits) (by decide) (m := a.toNat / 16)
    (n := b.toNat / 16) (by change _ < 16; omega) (by change _ < 16; omega) h.1
  have hlow := getD_inj_of_nodup (l := hexDigits) (by decide) (m := a.toNat % 16)
    (n := b.toNat % 16) (by change _ < 16; omega) (by change _ < 16; omega) h.2
  apply UInt8.toNat_inj.mp
  omega

/-- **A hexadecimal text has one reading**: every byte has two digits. -/
theorem hexColon_inj {bytes bytes' : Bytes} : hexColon bytes = hexColon bytes' ↔ bytes = bytes' := by
  refine ⟨fun h => ?_, fun h => h ▸ rfl⟩
  replace h := String.ofList_injective h
  induction bytes generalizing bytes' with
  | nil =>
    cases bytes' with
    | nil => rfl
    | cons b' bytes' =>
      rw [List.map_cons, intercalate_cons] at h
      cases h
  | cons b bytes ih =>
    cases bytes' with
    | nil =>
      rw [List.map_cons, intercalate_cons] at h
      cases h
    | cons b' bytes' =>
      rw [List.map_cons, List.map_cons, intercalate_cons, intercalate_cons] at h
      obtain ⟨hbyte, hrest⟩ := List.append_inj h rfl
      obtain rfl := hexByte_injective hbyte
      simp only [List.map_eq_nil_iff] at hrest
      split at hrest <;> split at hrest
      · next hnil hnil' => rw [hnil, hnil']
      · cases hrest
      · cases hrest
      · rw [ih (List.append_cancel_left hrest)]

/-! ## Decimal -/

/-- The text is a decimal integer. -/
def IsDecimal (s : String) : Prop := ∃ z : ℤ, s = toString z

theorem slash_notMem_of_isDigit {c : Char} (h : c.isDigit = true) :
    slash ∉ String.utf8EncodeChar c := by
  have hdigits := slash_notMem_of_all "0123456789".toList (by decide)
  apply hdigits
  simp only [Char.isDigit, Bool.and_eq_true, decide_eq_true_eq] at h
  obtain ⟨hlow, hhigh⟩ := h
  have hc : c = Char.ofNat c.toNat := (Char.ofNat_toNat c).symm
  have hlow' : 48 ≤ c.toNat := hlow
  have hhigh' : c.toNat ≤ 57 := hhigh
  rw [hc]
  generalize c.toNat = n at hlow' hhigh'
  interval_cases n <;> decide

theorem slashFree_natRepr (n : ℕ) : SlashFree (Nat.repr n) := by
  apply slashFree_ofList
  intro c hc
  exact slash_notMem_of_isDigit (Nat.isDigit_of_mem_toDigits (by decide) (by decide) hc)

theorem IsDecimal.slashFree {s : String} (h : IsDecimal s) : SlashFree s := by
  obtain ⟨z, rfl⟩ := h
  cases z with
  | ofNat n => exact slashFree_natRepr n
  | negSucc n =>
    -- the text of a negative number is a minus sign before that of a positive one
    intro hmem
    change slash ∈ utf8 ("-" ++ Nat.repr (n + 1)) at hmem
    rw [utf8_append, List.mem_append] at hmem
    rcases hmem with hmem | hmem
    · exact absurd hmem (by decide)
    · exact slashFree_natRepr _ hmem

theorem natRepr_injective : Function.Injective Nat.repr := by
  intro m n h
  have hdigits : Nat.toDigits 10 m = Nat.toDigits 10 n := String.ofList_injective h
  rw [← Nat.ofDigitChars_ten_toDigits (n := m), hdigits, Nat.ofDigitChars_ten_toDigits]

/-- The text of a natural number does not begin with a minus sign. -/
theorem natRepr_ne_neg (m n : ℕ) : Nat.repr m ≠ "-" ++ Nat.repr n := by
  intro h
  have hmem : '-' ∈ Nat.toDigits 10 m := by
    have hlist : Nat.toDigits 10 m = ("-" ++ Nat.repr n).toList := by
      rw [← h, Nat.repr, String.toList_ofList]
    rw [hlist, String.toList_append]
    exact List.mem_append_left _ (by decide)
  have hdigit := Nat.isDigit_of_mem_toDigits (by decide) (by decide) hmem
  exact absurd hdigit (by decide)

/-- **A decimal text has one reading.** -/
theorem decimal_inj {m n : ℤ} : toString m = toString n ↔ m = n := by
  refine ⟨fun h => ?_, fun h => h ▸ rfl⟩
  cases m with
  | ofNat m =>
    cases n with
    | ofNat n => exact congrArg Int.ofNat (natRepr_injective h)
    | negSucc n => exact absurd h (natRepr_ne_neg m (n + 1))
  | negSucc m =>
    cases n with
    | ofNat n => exact absurd h.symm (natRepr_ne_neg n (m + 1))
    | negSucc n =>
      have hdigits : "-" ++ Nat.repr (m + 1) = "-" ++ Nat.repr (n + 1) := h
      have hmn : m + 1 = n + 1 := natRepr_injective (String.append_right_inj _ |>.mp hdigits)
      exact congrArg Int.negSucc (Nat.succ.inj hmn)

end Machine
