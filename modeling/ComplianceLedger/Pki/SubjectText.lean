import ComplianceLedger.Machine.Parts
import ComplianceLedger.Pki.X509

/-!
# Subjects as texts

A subject is a list of attributes. The standard library renders it attribute by attribute, and
`toSubjectAsText` is to show the vendor and the product identifier among them in a readable form. It
works on the bytes of the rendering: it cuts them at every comma and looks for the two keys at the
beginning of each part.

This is right for a subject if no other attribute brings a key to the beginning of a part. A comma in a
value has a backslash before it, which does not keep the text from being cut behind the comma; and a
longer object identifier may begin with a key.

## Main definitions

* `Attribute`, `Attribute.render`, `renderName`: names as `pkix.Name.String` renders them
* `Attribute.renderReadable`: the same with the two identifiers in readable form
* `Attribute.Harmless`: no key where it would be taken for an identifier
* `toSubjectAsTextChecked`: the conversion with the bounds of its slice checked

## Main results

* `toSubjectAsText_renderName_iff`: the slice is always within its bounds, and the right attributes
  are replaced just if all of them are harmless
-/

open Machine

namespace ComplianceLedger.Pki

/-! ## Names -/

/-- An attribute of a name: its type, its value as a text and the encoding of its value. -/
structure Attribute where
  type : List ℕ
  text : String
  der : Bytes
deriving DecidableEq, Repr

/-- The text of an object identifier. -/
def oidText (oid : List ℕ) : String := ".".intercalate (oid.map Nat.repr)

/-- The types with a name. -/
def attributeTypeNames : List (String × String) :=
  [("2.5.4.6", "C"), ("2.5.4.10", "O"), ("2.5.4.11", "OU"), ("2.5.4.3", "CN"),
    ("2.5.4.5", "SERIALNUMBER"), ("2.5.4.7", "L"), ("2.5.4.8", "ST"), ("2.5.4.9", "STREET"),
    ("2.5.4.17", "POSTALCODE")]

/-- Does a character get a backslash? A space does at the ends of a value, and a number sign at its
beginning. -/
def escapes (first last : Bool) (c : Char) : Bool :=
  ",+\"\\<>;".toList.contains c || (c == ' ' && (first || last)) || (c == '#' && first)

/-- The characters of a value, with backslashes. -/
def escape (first : Bool) : List Char → List Char
  | [] => []
  | c :: rest =>
    if escapes first rest.isEmpty c then '\\' :: c :: escape false rest else c :: escape false rest

/-- A hexadecimal digit in lower case. -/
def lowerHexDigit (n : ℕ) : Char := "0123456789abcdef".toList.getD n '0'

/-- `hex.EncodeToString` -/
def hexEncode (bytes : Bytes) : String :=
  String.ofList (bytes.flatMap fun b =>
    [lowerHexDigit (b.toNat / 16), lowerHexDigit (b.toNat % 16)])

def Attribute.render (a : Attribute) : String :=
  match attributeTypeNames.lookup (oidText a.type) with
  | some name => name ++ "=" ++ String.ofList (escape true a.text.toList)
  | none => oidText a.type ++ "=#" ++ hexEncode a.der

/-- A name of attributes with one value each. -/
def renderName (attributes : List Attribute) : String :=
  ",".intercalate (attributes.map Attribute.render)

example : renderName [⟨[2, 5, 4, 3], "A, B", []⟩, ⟨[2, 5, 4, 97], "", [0x13, 0x00]⟩] =
    "CN=A\\, B,2.5.4.97=#1300" := by
  decide

/-! ## The two identifiers -/

def vidOID : List ℕ := [1, 3, 6, 1, 4, 1, 37244, 2, 1]

def pidOID : List ℕ := [1, 3, 6, 1, 4, 1, 37244, 2, 2]

def vidKey : String := "1.3.6.1.4.1.37244.2.1"

def pidKey : String := "1.3.6.1.4.1.37244.2.2"

/-- The attribute, readable if it is one of the two identifiers. -/
def Attribute.renderReadable (a : Attribute) : String :=
  if a.type = vidOID then "vid=0x" ++ a.text
  else if a.type = pidOID then "pid=0x" ++ a.text
  else a.render

/-- The value is a string of four characters, encoded in six bytes: a tag, the length and the
characters. -/
structure Attribute.FourCharacters (a : Attribute) : Prop where
  length : a.text.toList.length = 4
  der : ∃ tag, a.der = tag :: 4 :: utf8 a.text
  size : a.der.length = 6

/-- The attribute brings no key to the beginning of a part: neither behind a comma of its value, nor by
an object identifier that begins with a key. -/
def Attribute.Harmless (a : Attribute) : Prop :=
  if attributeTypeNames.lookup (oidText a.type) = none then
    a.type = vidOID ∨ a.type = pidOID ∨
      ∀ key ∈ [vidKey, pidKey], ¬ key.toList <+: (oidText a.type).toList
  else ∀ key ∈ [vidKey, pidKey], ¬ ',' :: key.toList <:+: a.text.toList

/-! ## The conversion -/

/-- The last bytes, which are out of range if there are not so many. -/
def lastBytes (n : ℕ) (bytes : Bytes) : Option Bytes :=
  if n ≤ bytes.length then some (bytes.drop (bytes.length - n)) else none

/-- `formatPart` with the slice checked. -/
def formatPartChecked (oldKey newKey : String) (part : Bytes) : Option Bytes :=
  if (utf8 oldKey).isPrefixOf part then
    (lastBytes 8 part).map fun value => utf8 (newKey ++ "=0x") ++ hexDecode value
  else some part

/-- `formatOID` with its slices checked. -/
def formatOIDChecked (header : Bytes) (oldKey newKey : String) : Option Bytes :=
  ((header.splitOn comma).mapM (formatPartChecked oldKey newKey)).map [comma].intercalate

/-- `toSubjectAsText` with its slices checked. -/
def toSubjectAsTextChecked (subject : Bytes) : Option Bytes := do
  let text ← formatOIDChecked subject vidKey "vid"
  formatOIDChecked text pidKey "pid"

variable {key new : String}

/-- A part with a key of eight bytes has eight bytes. -/
theorem formatPartChecked_eq (hkey : 8 ≤ (utf8 key).length) (part : Bytes) :
    formatPartChecked key new part = some (formatPart key new part) := by
  unfold formatPartChecked formatPart
  split
  · next hbegin =>
    have hlength : 8 ≤ part.length :=
      le_trans hkey (List.isPrefixOf_iff_prefix.mp hbegin).length_le
    rw [lastBytes, if_pos hlength, Option.map_some]
  · rfl

theorem formatOIDChecked_eq (hkey : 8 ≤ (utf8 key).length) (header : Bytes) :
    formatOIDChecked header key new = some (formatOID header key new) := by
  have hparts : formatPartChecked key new = fun part => pure (formatPart key new part) :=
    funext (formatPartChecked_eq hkey)
  rw [formatOIDChecked, hparts, List.mapM_pure]
  rfl

/-- **No slice is out of range**, on any text. -/
theorem toSubjectAsTextChecked_eq (subject : Bytes) :
    toSubjectAsTextChecked subject = some (toSubjectAsText subject) := by
  unfold toSubjectAsTextChecked
  rw [formatOIDChecked_eq (by decide), Option.bind_eq_bind, Option.bind_some,
    formatOIDChecked_eq (by decide)]
  rfl

/-! ### Lengths -/

theorem length_hexDecode_le (bytes : Bytes) : 2 * (hexDecode bytes).length ≤ bytes.length := by
  induction bytes using hexDecode.induct with
  | case1 a b rest x y hy hx ih =>
    simp only [hexDecode, hx, hy, List.length_cons]
    omega
  | case2 a b rest h =>
    simp [hexDecode]
  | case3 bytes h =>
    simp [hexDecode]

/-- What is put in the place of a part is short. -/
theorem length_formatPart_of_begins {part : Bytes} (h : utf8 key <+: part) :
    (formatPart key new part).length ≤ (utf8 new).length + 7 := by
  rw [formatPart, if_pos (List.isPrefixOf_iff_prefix.mpr h), utf8_append, List.length_append,
    List.length_append]
  have hequals : (utf8 "=0x").length = 3 := by decide
  have hdecode := length_hexDecode_le (part.drop (part.length - 8))
  rw [List.length_drop] at hdecode
  omega

theorem formatPart_of_not_begins {part : Bytes} (h : ¬ utf8 key <+: part) :
    formatPart key new part = part :=
  if_neg (mt List.isPrefixOf_iff_prefix.mp h)

section Passes

variable (hcomma : comma ∉ utf8 key) (hlength : (utf8 new).length + 7 < (utf8 key).length)
include hlength

theorem length_formatPart_lt {part : Bytes} (h : utf8 key <+: part) :
    (formatPart key new part).length < part.length :=
  lt_of_le_of_lt (length_formatPart_of_begins h) (lt_of_lt_of_le hlength h.length_le)

theorem length_formatPart_le (part : Bytes) : (formatPart key new part).length ≤ part.length := by
  by_cases hbegin : utf8 key <+: part
  · exact (length_formatPart_lt hlength hbegin).le
  · rw [formatPart_of_not_begins hbegin]

theorem length_formatOID_le (header : Bytes) :
    (formatOID header key new).length ≤ header.length :=
  length_mapParts_le fun part _ => length_formatPart_le hlength part

include hcomma

/-- A text with a key gets shorter. -/
theorem length_formatOID_lt {header : Bytes} (h : HasKey comma (utf8 key) header) :
    (formatOID header key new).length < header.length := by
  obtain ⟨part, hpart, hbegin⟩ := (exists_part_iff hcomma header).mpr h
  exact length_mapParts_lt (fun part _ => length_formatPart_le hlength part)
    ⟨part, hpart, length_formatPart_lt hlength hbegin⟩

end Passes

/-- A text without a key stays as it is. -/
theorem formatOID_eq_self (hcomma : comma ∉ utf8 key) {header : Bytes}
    (h : ¬ HasKey comma (utf8 key) header) : formatOID header key new = header := by
  apply mapParts_eq_self
  intro part hpart
  exact formatPart_of_not_begins fun hbegin =>
    h ((exists_part_iff hcomma header).mp ⟨part, hpart, hbegin⟩)

theorem toSubjectAsText_eq (subject : Bytes) :
    toSubjectAsText subject = formatOID (formatOID subject vidKey "vid") pidKey "pid" :=
  rfl

theorem length_toSubjectAsText_lt {subject : Bytes}
    (h : ∃ key ∈ [vidKey, pidKey], HasKey comma (utf8 key) subject) :
    (toSubjectAsText subject).length < subject.length := by
  by_cases hvid : HasKey comma (utf8 vidKey) subject
  · exact lt_of_le_of_lt (length_formatOID_le (by decide) _)
      (length_formatOID_lt (by decide) (by decide) hvid)
  · -- the first pass changes nothing, so that the second one sees the key
    have hpid : HasKey comma (utf8 pidKey) subject := by
      simpa [hvid] using h
    have hfirst : formatOID subject vidKey "vid" = subject := formatOID_eq_self (by decide) hvid
    rw [toSubjectAsText_eq, hfirst]
    exact length_formatOID_lt (by decide) (by decide) hpid

theorem toSubjectAsText_eq_self {subject : Bytes}
    (h : ∀ key ∈ [vidKey, pidKey], ¬ HasKey comma (utf8 key) subject) :
    toSubjectAsText subject = subject := by
  have hvid : formatOID subject vidKey "vid" = subject :=
    formatOID_eq_self (by decide) (h vidKey (by decide))
  have hpid : formatOID subject pidKey "pid" = subject :=
    formatOID_eq_self (by decide) (h pidKey (by decide))
  rw [toSubjectAsText_eq, hvid, hpid]

/-- **A name is converted attribute by attribute.** -/
theorem toSubjectAsText_renderName (attributes : List Attribute) :
    toSubjectAsText (utf8 (renderName attributes)) =
      [comma].intercalate (attributes.map fun a => toSubjectAsText (utf8 a.render)) := by
  cases attributes with
  | nil => decide
  | cons a attributes =>
    simp only [toSubjectAsText_eq, formatOID, renderName, utf8_intercalate]
    rw [mapParts_intercalate (by simp), mapParts_intercalate (by simp)]
    simp only [List.map_map, Function.comp_def]

/-! ## Characters -/

/-- A character that is left alone at both ends of a value is left alone everywhere. -/
theorem escapes_eq_false {c : Char} (h : escapes true true c = false) (first last : Bool) :
    escapes first last c = false := by
  simp only [escapes, Bool.or_eq_false_iff, Bool.and_eq_false_iff] at h ⊢
  obtain ⟨⟨hspecial, hspace⟩, hnumber⟩ := h
  exact ⟨⟨hspecial, Or.inl (hspace.resolve_right (by decide))⟩,
    Or.inl (hnumber.resolve_right (by decide))⟩

theorem escapes_backslash (first last : Bool) : escapes first last '\\' = true := by
  cases first <;> cases last <;> decide

section Plain

variable {key : List Char} (hkey : ∀ c ∈ key, ∀ first last, escapes first last c = false)
include hkey

theorem prefix_escape_iff (l : List Char) : key <+: escape false l ↔ key <+: l := by
  induction key generalizing l with
  | nil => simp
  | cons k key ih =>
    have hk := hkey k List.mem_cons_self
    cases l with
    | nil => simp [escape]
    | cons c rest =>
      rw [escape]
      split
      · next hc =>
        -- neither the backslash nor what it stands before is in the key
        have hne : k ≠ '\\' := by
          rintro rfl
          exact absurd (escapes_backslash false false) (by simp [hk])
        have hne' : k ≠ c := by
          rintro rfl
          exact absurd hc (by simp [hk])
        simp [List.cons_prefix_cons, hne, hne']
      · rw [List.cons_prefix_cons, List.cons_prefix_cons,
          ih (fun c hc => hkey c (List.mem_cons_of_mem k hc))]

/-- **The backslash before a comma does not part the comma from what follows it.** -/
theorem infix_escape_iff (first : Bool) (l : List Char) :
    ',' :: key <:+: escape first l ↔ ',' :: key <:+: l := by
  induction l generalizing first with
  | nil => simp [escape]
  | cons c rest ih =>
    rw [escape]
    split
    · have hne : ',' ≠ '\\' := by decide
      rw [List.infix_cons_iff, List.infix_cons_iff, ih, List.infix_cons_iff]
      simp [List.cons_prefix_cons, hne, prefix_escape_iff hkey]
    · rw [List.infix_cons_iff, ih, List.infix_cons_iff]
      simp [List.cons_prefix_cons, prefix_escape_iff hkey]

end Plain

theorem comma_notMem_oidText (oid : List ℕ) : ',' ∉ (oidText oid).toList := by
  intro h
  rw [oidText, String.toList_intercalate] at h
  rcases mem_intercalate h with h | ⟨l, hl, h⟩
  · exact absurd h (by decide)
  · simp only [List.mem_map, exists_exists_and_eq_and] at hl
    obtain ⟨n, -, rfl⟩ := hl
    rw [Nat.repr, String.toList_ofList] at h
    exact absurd (Nat.isDigit_of_mem_toDigits (by decide) (by decide) h) (by decide)

theorem comma_notMem_hexEncode (bytes : Bytes) : ',' ∉ (hexEncode bytes).toList := by
  intro h
  have hdigit (n : ℕ) : ',' ≠ lowerHexDigit n := by
    intro heq
    have hmem : lowerHexDigit n ∈ "0123456789abcdef".toList := getD_mem (by decide) n
    rw [← heq] at hmem
    exact absurd hmem (by decide)
  simp only [hexEncode, String.toList_ofList, List.mem_flatMap, List.mem_cons, List.not_mem_nil,
    hdigit, or_self, and_false, exists_false] at h

theorem hexEncode_append (l r : Bytes) : hexEncode (l ++ r) = hexEncode l ++ hexEncode r := by
  rw [hexEncode, List.flatMap_append, String.ofList_append]
  rfl

theorem utf8_hexEncode_cons (b : UInt8) (bytes : Bytes) :
    ∃ x y, utf8 (hexEncode (b :: bytes)) = x :: y :: utf8 (hexEncode bytes) ∧
      hexValue x = some (b.toNat / 16) ∧ hexValue y = some (b.toNat % 16) := by
  have hdigit : ∀ n < 16, (String.utf8EncodeChar (lowerHexDigit n)).map hexValue = [some n] := by
    decide
  have hb := b.toNat_lt
  obtain ⟨x, hx, hxvalue⟩ := List.map_eq_singleton_iff.mp (hdigit (b.toNat / 16) (by omega))
  obtain ⟨y, hy, hyvalue⟩ := List.map_eq_singleton_iff.mp (hdigit (b.toNat % 16) (by omega))
  refine ⟨x, y, ?_, hxvalue, hyvalue⟩
  rw [hexEncode, hexEncode, utf8_ofList, utf8_ofList, List.flatMap_cons, List.flatMap_append]
  simp only [List.flatMap_cons, List.flatMap_nil, hx, hy]
  rfl

theorem length_hexEncode (bytes : Bytes) : (utf8 (hexEncode bytes)).length = 2 * bytes.length := by
  induction bytes with
  | nil => rfl
  | cons b bytes ih =>
    obtain ⟨x, y, heq, -, -⟩ := utf8_hexEncode_cons b bytes
    rw [heq, List.length_cons, List.length_cons, List.length_cons]
    omega

theorem hexDecode_hexEncode (bytes : Bytes) : hexDecode (utf8 (hexEncode bytes)) = bytes := by
  induction bytes with
  | nil => rfl
  | cons b bytes ih =>
    obtain ⟨x, y, heq, hx, hy⟩ := utf8_hexEncode_cons b bytes
    rw [heq, hexDecode]
    simp only [hx, hy, ih]
    have hb : 16 * (b.toNat / 16) + b.toNat % 16 = b.toNat := Nat.div_add_mod _ _
    rw [hb, UInt8.ofNat_toNat]

/-! ## Attributes -/

namespace Attribute

variable {a : Attribute} {key n : String}

/-- The keys are made of digits and dots. -/
theorem key_chars (hkey : key ∈ [vidKey, pidKey]) : ∀ c ∈ key.toList, c ∈ "0123456789.".toList := by
  -- a check of the list: the instance for quantifiers over characters would try all of them
  have hall : key.toList.all (fun c => "0123456789.".toList.contains c) = true := by
    rw [List.mem_pair] at hkey
    rcases hkey with rfl | rfl <;> decide
  intro c hc
  exact List.contains_iff_mem.mp (List.all_eq_true.mp hall c hc)

theorem key_plain (hkey : key ∈ [vidKey, pidKey]) :
    ',' ∉ key.toList ∧ '=' ∉ key.toList ∧ key.toList.head? = some '1' ∧
      ∀ c ∈ key.toList, ∀ first last, escapes first last c = false := by
  have hall : "0123456789.".toList.all (fun c => !escapes true true c) = true := by decide
  refine ⟨fun hc => ?_, fun hc => ?_, ?_, ?_⟩
  · exact absurd (key_chars hkey _ hc) (by decide)
  · exact absurd (key_chars hkey _ hc) (by decide)
  · rw [List.mem_pair] at hkey
    rcases hkey with rfl | rfl <;> rfl
  · intro c hc first last
    have hplain := List.all_eq_true.mp hall c (key_chars hkey c hc)
    rw [Bool.not_eq_true'] at hplain
    exact escapes_eq_false hplain first last

theorem not_prefix_of_head {l r : List Char} {c d : Char} (hl : l.head? = some c)
    (hr : r.head? = some d) (hne : c ≠ d) : ¬ l <+: r := by
  obtain ⟨l', rfl⟩ := List.head?_eq_some_iff.mp hl
  obtain ⟨r', rfl⟩ := List.head?_eq_some_iff.mp hr
  simp [List.cons_prefix_cons, hne]

theorem name_plain {name : String} (hname : name ∈ attributeTypeNames.map Prod.snd) :
    ',' ∉ name.toList ∧ ∃ c, name.toList.head? = some c ∧ '1' ≠ c := by
  simp only [attributeTypeNames, List.map_cons, List.map_nil, List.mem_cons, List.not_mem_nil,
    or_false] at hname
  rcases hname with rfl | rfl | rfl | rfl | rfl | rfl | rfl | rfl | rfl <;>
    exact ⟨by decide, _, rfl, by decide⟩

/-- A key in an attribute with a name stands behind a comma of its value. -/
theorem hasKey_named {name : String} (hkey : key ∈ [vidKey, pidKey])
    (hlookup : attributeTypeNames.lookup (oidText a.type) = some name) :
    HasKey comma (utf8 key) (utf8 a.render) ↔ ',' :: key.toList <:+: a.text.toList := by
  obtain ⟨hkeyComma, -, hhead, hplain⟩ := key_plain hkey
  have hname : name ∈ attributeTypeNames.map Prod.snd := by
    obtain ⟨l, r, heq, -⟩ := List.lookup_eq_some_iff.mp hlookup
    rw [heq]
    simp
  obtain ⟨hcomma, c, hc, hne⟩ := name_plain hname
  have hrender : a.render.toList = (name.toList ++ ['=']) ++ escape true a.text.toList := by
    simp [render, hlookup]
  have hcomma' : ',' ∉ name.toList ++ ['='] := by simp [hcomma]
  have hbegin : ¬ key.toList <+: (name.toList ++ ['=']) ++ escape true a.text.toList := by
    apply not_prefix_of_head hhead _ hne
    simp [hc]
  rw [hasKey_utf8 hkeyComma, HasKey, hrender, infix_append_iff hcomma', infix_escape_iff hplain]
  exact or_iff_right hbegin

/-- A key in another attribute is the beginning of its object identifier. -/
theorem hasKey_other (hkey : key ∈ [vidKey, pidKey])
    (hlookup : attributeTypeNames.lookup (oidText a.type) = none) :
    HasKey comma (utf8 key) (utf8 a.render) ↔ key.toList <+: (oidText a.type).toList := by
  obtain ⟨hkeyComma, hequals, -, -⟩ := key_plain hkey
  have hrender : a.render.toList =
      (oidText a.type).toList ++ '=' :: '#' :: (hexEncode a.der).toList := by
    simp [render, hlookup]
  have hcomma : ',' ∉ a.render.toList := by
    rw [hrender]
    simp [comma_notMem_oidText, comma_notMem_hexEncode]
  have hinfix : ¬ ',' :: key.toList <:+: a.render.toList :=
    fun h => hcomma (h.subset List.mem_cons_self)
  rw [hasKey_utf8 hkeyComma, HasKey, or_iff_left hinfix, hrender, prefix_append_cons_iff hequals]

theorem lookup_vidOID : attributeTypeNames.lookup (oidText vidOID) = none := by decide

theorem lookup_pidOID : attributeTypeNames.lookup (oidText pidOID) = none := by decide

/-- An attribute other than the two identifiers is harmless if it has no key. -/
theorem harmless_iff (hvid : a.type ≠ vidOID) (hpid : a.type ≠ pidOID) :
    a.Harmless ↔ ∀ key ∈ [vidKey, pidKey], ¬ HasKey comma (utf8 key) (utf8 a.render) := by
  unfold Harmless
  split
  · next hlookup =>
    simp only [hvid, hpid, false_or]
    exact forall₂_congr fun key hkey => not_congr (hasKey_other hkey hlookup).symm
  · next hlookup =>
    obtain ⟨name, hname⟩ := Option.ne_none_iff_exists'.mp hlookup
    exact forall₂_congr fun key hkey => not_congr (hasKey_named hkey hname).symm

theorem drop_append_length (l r : Bytes) : (l ++ r).drop ((l ++ r).length - r.length) = r := by
  rw [List.length_append, Nat.add_sub_cancel, List.drop_left]

theorem FourCharacters.length_text (ha : a.FourCharacters) : (utf8 a.text).length = 4 := by
  obtain ⟨tag, hder⟩ := ha.der
  have hlength := ha.size
  rw [hder] at hlength
  simpa using hlength

/-- The eight last digits of an identifier are those of its characters. -/
theorem formatOID_render (hlookup : attributeTypeNames.lookup (oidText a.type) = none)
    (ha : a.FourCharacters) :
    formatOID (utf8 a.render) (oidText a.type) n = utf8 (n ++ "=0x" ++ a.text) := by
  obtain ⟨tag, hder⟩ := ha.der
  have hcomma : comma ∉ utf8 a.render := by
    rw [utf8_eq_encode, comma_mem_encode_iff]
    simp [render, hlookup, comma_notMem_oidText, comma_notMem_hexEncode]
  have hrender : utf8 a.render =
      (utf8 (oidText a.type ++ "=#") ++ utf8 (hexEncode [tag, 4])) ++ utf8 (hexEncode (utf8 a.text)) := by
    have hhex : hexEncode a.der = hexEncode [tag, 4] ++ hexEncode (utf8 a.text) := by
      rw [hder, ← hexEncode_append]
      rfl
    simp [render, hlookup, hhex]
  have hlast : (utf8 (hexEncode (utf8 a.text))).length = 8 := by
    rw [length_hexEncode, ha.length_text]
  have hbegin : utf8 (oidText a.type) <+: utf8 a.render := by
    rw [hrender, utf8_append, List.append_assoc, List.append_assoc]
    exact List.prefix_append _ _
  have hdrop : (utf8 a.render).drop ((utf8 a.render).length - 8) = utf8 (hexEncode (utf8 a.text)) := by
    rw [hrender, ← hlast, drop_append_length]
  rw [formatOID, mapParts_of_notMem hcomma, formatPart,
    if_pos (List.isPrefixOf_iff_prefix.mpr hbegin), hdrop, hexDecode_hexEncode, ← utf8_append]

theorem toSubjectAsText_vid (ha : a.FourCharacters) (htype : a.type = vidOID) :
    toSubjectAsText (utf8 a.render) = utf8 ("vid=0x" ++ a.text) := by
  have hfirst : formatOID (utf8 a.render) vidKey "vid" = utf8 ("vid=0x" ++ a.text) := by
    have hformat := formatOID_render (n := "vid") (htype ▸ lookup_vidOID) ha
    rw [htype] at hformat
    exact hformat
  -- what the first pass has put there is too short for the other key
  have hsecond : ¬ HasKey comma (utf8 pidKey) (utf8 ("vid=0x" ++ a.text)) := by
    intro hkey
    have hlength : (utf8 pidKey).length ≤ (utf8 ("vid=0x" ++ a.text)).length := by
      rcases hkey with hbegin | hbehind
      · exact hbegin.length_le
      · exact (Nat.le_succ _).trans hbehind.length_le
    rw [utf8_append, List.length_append, ha.length_text] at hlength
    exact absurd hlength (by decide)
  rw [toSubjectAsText_eq, hfirst, formatOID_eq_self (by decide) hsecond]

theorem toSubjectAsText_pid (ha : a.FourCharacters) (htype : a.type = pidOID) :
    toSubjectAsText (utf8 a.render) = utf8 ("pid=0x" ++ a.text) := by
  have hlookup : attributeTypeNames.lookup (oidText a.type) = none := htype ▸ lookup_pidOID
  have hfirst : ¬ HasKey comma (utf8 vidKey) (utf8 a.render) := by
    rw [hasKey_other (by decide) hlookup, htype]
    decide
  have hformat := formatOID_render (n := "pid") hlookup ha
  rw [htype] at hformat
  rw [toSubjectAsText_eq, formatOID_eq_self (by decide) hfirst]
  exact hformat

section Attributes

variable (hids : a.type = vidOID ∨ a.type = pidOID → a.FourCharacters)
include hids

/-- An attribute is converted as it should be, or it gets shorter than that. -/
theorem toSubjectAsText_render :
    (a.Harmless ∧ toSubjectAsText (utf8 a.render) = utf8 a.renderReadable) ∨
      (¬ a.Harmless ∧ (toSubjectAsText (utf8 a.render)).length < (utf8 a.renderReadable).length) := by
  by_cases hvid : a.type = vidOID
  · left
    refine ⟨?_, ?_⟩
    · rw [Harmless, if_pos (hvid ▸ lookup_vidOID)]
      exact Or.inl hvid
    · rw [toSubjectAsText_vid (hids (Or.inl hvid)) hvid, renderReadable, if_pos hvid]
  · by_cases hpid : a.type = pidOID
    · left
      refine ⟨?_, ?_⟩
      · rw [Harmless, if_pos (hpid ▸ lookup_pidOID)]
        exact Or.inr (Or.inl hpid)
      · rw [toSubjectAsText_pid (hids (Or.inr hpid)) hpid, renderReadable, if_neg hvid, if_pos hpid]
    · have hreadable : a.renderReadable = a.render := by
        rw [renderReadable, if_neg hvid, if_neg hpid]
      rw [harmless_iff hvid hpid, hreadable]
      by_cases hkeys : ∀ key ∈ [vidKey, pidKey], ¬ HasKey comma (utf8 key) (utf8 a.render)
      · exact Or.inl ⟨hkeys, toSubjectAsText_eq_self hkeys⟩
      · right
        refine ⟨hkeys, length_toSubjectAsText_lt ?_⟩
        push Not at hkeys
        exact hkeys

end Attributes

end Attribute

/-- **The subject as a text.** No slice is out of range. The two identifiers, and they only, are put in
readable form just if no other attribute brings one of their keys to the beginning of a part. -/
theorem toSubjectAsText_renderName_iff (attributes : List Attribute)
    (hids : ∀ a ∈ attributes, a.type = vidOID ∨ a.type = pidOID → a.FourCharacters) :
    toSubjectAsTextChecked (utf8 (renderName attributes)) =
        some (toSubjectAsText (utf8 (renderName attributes))) ∧
      (toSubjectAsText (utf8 (renderName attributes)) =
          utf8 (",".intercalate (attributes.map Attribute.renderReadable)) ↔
        ∀ a ∈ attributes, a.Harmless) := by
  refine ⟨toSubjectAsTextChecked_eq _, ?_⟩
  rw [toSubjectAsText_renderName, utf8_intercalate, List.map_map]
  constructor
  · intro heq
    -- no attribute gets longer than it should be, so that all of them are as long
    have hle : ∀ a ∈ attributes,
        (toSubjectAsText (utf8 a.render)).length ≤ (utf8 a.renderReadable).length := by
      intro a ha
      rcases a.toSubjectAsText_render (hids a ha) with ⟨-, h⟩ | ⟨-, h⟩
      · rw [h]
      · exact h.le
    intro a ha
    rcases a.toSubjectAsText_render (hids a ha) with ⟨h, -⟩ | ⟨-, h⟩
    · exact h
    · exact absurd (eq_of_intercalate_eq hle heq a ha) h.ne
  · intro hharmless
    refine congrArg [comma].intercalate (List.map_congr_left ?_)
    intro a ha
    rcases a.toSubjectAsText_render (hids a ha) with ⟨-, h⟩ | ⟨h, -⟩
    · exact h
    · exact absurd (hharmless a ha) h

/-- A subject with a common name and both identifiers. -/
def exampleSubject : List Attribute :=
  [⟨[2, 5, 4, 3], "Matter, PAI", []⟩, ⟨vidOID, "FFF1", [0x0C, 4, 0x46, 0x46, 0x46, 0x31]⟩,
    ⟨pidOID, "8000", [0x0C, 4, 0x38, 0x30, 0x30, 0x30]⟩]

theorem example_subject :
    toSubjectAsText (utf8 (renderName exampleSubject)) =
        utf8 "CN=Matter\\, PAI,vid=0xFFF1,pid=0x8000" ∧
      ∀ a ∈ exampleSubject, a.Harmless := by
  have htext : toSubjectAsText (utf8 (renderName exampleSubject)) =
      utf8 "CN=Matter\\, PAI,vid=0xFFF1,pid=0x8000" := by
    decide +kernel
  have hids : ∀ a ∈ exampleSubject, a.type = vidOID ∨ a.type = pidOID → a.FourCharacters := by
    intro a ha htype
    simp only [exampleSubject, List.mem_cons, List.not_mem_nil, or_false] at ha
    rcases ha with rfl | rfl | rfl
    · exact absurd htype (by decide)
    · exact ⟨by decide, ⟨0x0C, by decide⟩, by decide⟩
    · exact ⟨by decide, ⟨0x0C, by decide⟩, by decide⟩
  refine ⟨htext, (toSubjectAsText_renderName_iff exampleSubject hids).2.mp ?_⟩
  rw [htext]
  decide +kernel

/-- A common name with a comma and the key of the vendor identifier behind it. -/
def forgedCommonName : Attribute := ⟨[2, 5, 4, 3], "x,1.3.6.1.4.1.37244.2.1=#130446464631", []⟩

/-- An attribute whose object identifier begins with the digits of that of the vendor identifier. -/
def longerType : Attribute := ⟨vidOID.dropLast ++ [10], "FFF1", [0x13, 4, 0x46, 0x46, 0x46, 0x31]⟩

/-- Both are shown as a vendor identifier, which neither of them is. -/
theorem example_forged_vid :
    (toSubjectAsText (utf8 (renderName [forgedCommonName])) = utf8 "CN=x\\,vid=0xFFF1" ∧
      ",".intercalate ([forgedCommonName].map Attribute.renderReadable) =
        "CN=x\\,1.3.6.1.4.1.37244.2.1=#130446464631") ∧
      toSubjectAsText (utf8 (renderName [longerType])) = utf8 "vid=0xFFF1" ∧
      ",".intercalate ([longerType].map Attribute.renderReadable) =
        "1.3.6.1.4.1.37244.2.10=#130446464631" := by
  decide +kernel

end ComplianceLedger.Pki
