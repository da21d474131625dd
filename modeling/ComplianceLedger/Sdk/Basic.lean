import ComplianceLedger.Machine.Bytes

/-!
# What the ledger uses of its SDK

Errors, addresses and votes, as the modules of the ledger share them. The address codec is a
parameter: `Bech32` states what is documented of `AccAddressFromBech32` and `AccAddress.String`.

## Main definitions

* `SdkError`: a registered error with the text it was wrapped with
* `Bech32`: the two spellings of an address and its decoding; `Bech32.ofTexts` is one
* `Grant`: a vote of an account, by the text of its address
* `roundPercent`: the number of votes that make up a percentage of the electorate
-/

open Machine

namespace ComplianceLedger

/-! ## Errors -/

/-- An error registered by a module under a codespace and a code. -/
structure RegisteredError where
  codespace : String
  code : ℕ
  description : String
deriving DecidableEq, Repr

def errUnauthorized : RegisteredError := ⟨"sdk", 4, "unauthorized"⟩

def errInvalidAddress : RegisteredError := ⟨"sdk", 7, "invalid address"⟩

/-- What the recovery of a run-time panic returns. -/
def errPanic : RegisteredError := ⟨"undefined", 111222, "panic"⟩

/-- An error with the text it was wrapped with. -/
structure SdkError where
  registered : RegisteredError
  text : String
deriving DecidableEq, Repr

namespace SdkError

/-- The printed form of an error. -/
def error (e : SdkError) : String := e.text ++ ": " ++ e.registered.description

/-- The error of an index out of range. -/
def indexOutOfRange : SdkError := ⟨errPanic, "runtime error: index out of range"⟩

end SdkError

/-! ## Addresses -/

/-- The bytes of an account address. -/
abbrev AccAddress := Bytes

/-- The lowercase spelling of a text. -/
def lowercase (t : String) : String := String.ofList (t.toList.map Char.toLower)

/-- The uppercase spelling of a text. -/
def uppercase (t : String) : String := String.ofList (t.toList.map Char.toUpper)

/-- The address codec. An address has a lowercase spelling, which `AccAddress.String` returns, and an
uppercase one; both decode to it. -/
structure Bech32 where
  accAddressFromBech32 : String → Except String AccAddress
  string : AccAddress → String
  string_lower : ∀ {t a}, accAddressFromBech32 t = .ok a → lowercase (string a) = string a
  decode_string : ∀ {t a}, accAddressFromBech32 t = .ok a → accAddressFromBech32 (string a) = .ok a
  decode_upper : ∀ {t a}, accAddressFromBech32 t = .ok a →
    accAddressFromBech32 (uppercase (string a)) = .ok a

/-- The signer of a message, as every handler decodes it. -/
def Bech32.signer (bech32 : Bech32) (text : String) : Except SdkError AccAddress :=
  match bech32.accAddressFromBech32 text with
  | .ok a => .ok a
  | .error e => .error ⟨errInvalidAddress, "Invalid Address: (" ++ e ++ ")"⟩

theorem Bech32.signer_eq_ok_iff {bech32 : Bech32} {text : String} {a : AccAddress} :
    bech32.signer text = .ok a ↔ bech32.accAddressFromBech32 text = .ok a := by
  unfold signer
  cases bech32.accAddressFromBech32 text <;> simp

/-- The text, of those given, that has the bytes `a`. -/
def textOf (texts : List String) (a : AccAddress) : String :=
  (texts.find? fun l => utf8 l = a).getD ""

theorem textOf_utf8 {texts : List String} {l : String} (hl : l ∈ texts) :
    textOf texts (utf8 l) = l := by
  -- texts with the same bytes are equal, so the first text found is `l` itself
  have hsome : (texts.find? fun l' => utf8 l' = utf8 l).isSome :=
    List.find?_isSome.mpr ⟨l, hl, by simp⟩
  obtain ⟨l', hfind⟩ := Option.isSome_iff_exists.mp hsome
  have heq : utf8 l' = utf8 l := by simpa using List.find?_some hfind
  rw [textOf, hfind, Option.getD_some, utf8_injective heq]

/-- A codec for the accounts with the given lowercase texts; the address of an account is the bytes
of its text. -/
def Bech32.ofTexts (texts : List String)
    (htexts : ∀ l ∈ texts, lowercase l = l ∧ lowercase (uppercase l) = l) : Bech32 where
  accAddressFromBech32 t :=
    if lowercase t ∈ texts ∧ (t = lowercase t ∨ t = uppercase (lowercase t)) then
      .ok (utf8 (lowercase t))
    else .error "decoding bech32 failed"
  string := textOf texts
  string_lower {t a} h := by
    split at h
    · next hmem =>
      obtain rfl := Except.ok.inj h
      simp [textOf_utf8 hmem.1, (htexts _ hmem.1).1]
    · cases h
  decode_string {t a} h := by
    split at h
    · next hmem =>
      obtain rfl := Except.ok.inj h
      simp [textOf_utf8 hmem.1, (htexts _ hmem.1).1, hmem.1]
    · cases h
  decode_upper {t a} h := by
    split at h
    · next hmem =>
      obtain rfl := Except.ok.inj h
      simp [textOf_utf8 hmem.1, (htexts _ hmem.1).2, hmem.1]
    · cases h

/-! ## Updates -/

/-- The new value of a field, which stays as it is when the message leaves it empty. -/
def orKeep (new old : String) : String := if new ≠ "" then new else old

/-! ## Votes -/

/-- A vote: the text of the voter's address, the time and the note of the message. -/
structure Grant where
  address : String
  time : ℤ
  info : String
deriving DecidableEq, Repr

/-- Is there a vote under this text of an address? -/
def hasGrantFrom (grants : List Grant) (address : String) : Bool :=
  grants.any fun grant => grant.address = address

theorem hasGrantFrom_eq_false_iff {grants : List Grant} {address : String} :
    hasGrantFrom grants address = false ↔ ∀ grant ∈ grants, grant.address ≠ address := by
  simp [hasGrantFrom]

/-- `percent` per cent of `n`, rounded half up: `math.Round` of the product. -/
def roundPercent (percent n : ℕ) : ℕ := (percent * n + 50) / 100

end ComplianceLedger
