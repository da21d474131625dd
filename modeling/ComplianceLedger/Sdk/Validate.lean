import ComplianceLedger.Sdk.Basic

/-!
# The rules of message fields

The fields of a message have rules, which are checked before the message is executed. The rules are
tried in the order of the fields, and within a field in the order they are written in; the first one
that is broken makes the error. Lengths are those of texts in characters. Whether a text is a URL is
left open.

## Main definitions

* `Rule`: a rule of a field, and whether the message keeps it
* `atLeastField`, `requiredWith`, `requiredIf`, `omitEmpty`: rules that read other fields
* `validate rules`, `Kept rules`: the check of a message, and that it is passed

## Main results

* `validate_eq_ok_iff`: a message is valid when it keeps its rules
* `required_orKeep`, `maxLength_orKeep`, `optionalURL_orKeep`: the rules of a field that an update may
  leave empty
* `bind_eq_ok_iff`: a sequence of checks is passed when each check is
-/

namespace ComplianceLedger

/-! ## Errors -/

def errRequiredFieldMissing : RegisteredError := ⟨"validation", 900, "required field missing"⟩

def errFieldMaxLengthExceeded : RegisteredError :=
  ⟨"validation", 901, "field max length exceeded"⟩

def errFieldNotValid : RegisteredError := ⟨"validation", 902, "field not valid"⟩

def errFieldLowerBoundViolated : RegisteredError :=
  ⟨"validation", 903, "field lower bound violated"⟩

def errFieldUpperBoundViolated : RegisteredError :=
  ⟨"validation", 904, "field upper bound violated"⟩

/-! ## Rules -/

/-- A rule of a field: whether the message keeps it, and the error if it does not. -/
structure Rule where
  kept : Bool
  error : SdkError

/-- The field is not empty. -/
def required (field value : String) : Rule :=
  ⟨value ≠ "", errRequiredFieldMissing, field ++ " is a required field"⟩

/-- The field has at most so many characters. -/
def maxLength (field value : String) (limit : ℕ) : Rule :=
  ⟨value.length ≤ limit, errFieldMaxLengthExceeded,
    "maximum length for " ++ field ++ " allowed is " ++ toString limit⟩

/-- The field is not below the bound. -/
def atLeast (field : String) (value bound : ℤ) : Rule :=
  ⟨bound ≤ value, errFieldLowerBoundViolated,
    field ++ " must not be less than " ++ toString bound⟩

/-- The field is not above the bound. -/
def atMost (field : String) (value bound : ℤ) : Rule :=
  ⟨value ≤ bound, errFieldUpperBoundViolated,
    field ++ " must not be greater than " ++ toString bound⟩

/-- The field is between the bounds. -/
def within (field : String) (value lower upper : ℤ) : List Rule :=
  [atLeast field value lower, atMost field value upper]

/-- The field is not below another field of the message. -/
def atLeastField (field other : String) (value bound : ℕ) : Rule :=
  ⟨bound ≤ value, errFieldNotValid, field ++ " must not be less than " ++ other⟩

/-- The field is given if another field of the message is. -/
def requiredWith (field other : String) (given otherGiven : Bool) : Rule :=
  ⟨!otherGiven || given, errRequiredFieldMissing, field ++ " is required if " ++ other ++ " is set"⟩

/-- The field is given if a condition on the message holds. -/
def requiredIf (field condition : String) (given holds : Bool) : Rule :=
  ⟨!holds || given, errRequiredFieldMissing, field ++ " is required if " ++ condition⟩

/-- The rules apply to a field that is given only. -/
def omitEmpty (given : Bool) (rules : List Rule) : List Rule := if given then rules else []

/-- The field is a URL, of at most 256 characters, that does not begin with `http:`. -/
def urlRules (isURL : String → Bool) (field value : String) : List Rule :=
  let notValid : SdkError :=
    ⟨errFieldNotValid, "Field " ++ field ++ " : " ++ value ++ " is not a valid url"⟩
  [⟨isURL value, notValid⟩, ⟨!"http:".toList.isPrefixOf value.toList, notValid⟩,
    maxLength field value 256]

/-- The field is empty or such a URL. -/
def optionalURL (isURL : String → Bool) (field value : String) : List Rule :=
  omitEmpty (value ≠ "") (urlRules isURL field value)

/-- The error of the first rule that is broken. -/
def validate (rules : List Rule) : Except SdkError Unit :=
  match rules.find? fun rule => !rule.kept with
  | none => .ok ()
  | some rule => .error rule.error

theorem validate_eq_ok_iff {rules : List Rule} {u : Unit} :
    validate rules = .ok u ↔ ∀ rule ∈ rules, rule.kept = true := by
  unfold validate
  cases hfind : rules.find? fun rule => !rule.kept with
  | none => simpa using hfind
  | some rule =>
    have hbroken := List.find?_some hfind
    have hmem := List.mem_of_find?_eq_some hfind
    simp only [Bool.not_eq_true'] at hbroken
    constructor
    · exact fun h => nomatch h
    · intro h
      rw [h rule hmem] at hbroken
      cases hbroken

/-- All rules are kept. -/
def Kept (rules : List Rule) : Prop := ∀ rule ∈ rules, rule.kept = true

theorem kept_append {rules rules' : List Rule} : Kept (rules ++ rules') ↔ Kept rules ∧ Kept rules' :=
  List.forall_mem_append

theorem kept_cons {rule : Rule} {rules : List Rule} :
    Kept (rule :: rules) ↔ rule.kept = true ∧ Kept rules :=
  List.forall_mem_cons

theorem kept_nil : Kept [] := List.forall_mem_nil _

/-! ## Fields that an update may keep

An update leaves a field empty to keep what is stored. The field then keeps the rules that both values
keep. -/

section OrKeep

variable {field new old : String}

theorem orKeep_ne_empty (hold : old ≠ "") : orKeep new old ≠ "" := by
  unfold orKeep
  split
  · next hgiven => exact hgiven
  · exact hold

theorem required_orKeep (hold : (required field old).kept = true) :
    (required field (orKeep new old)).kept = true :=
  decide_eq_true (orKeep_ne_empty (of_decide_eq_true hold))

theorem maxLength_orKeep {limit : ℕ} (hnew : (maxLength field new limit).kept = true)
    (hold : (maxLength field old limit).kept = true) :
    (maxLength field (orKeep new old) limit).kept = true := by
  unfold orKeep
  split
  · exact hnew
  · exact hold

theorem optionalURL_orKeep {isURL : String → Bool} (hnew : Kept (optionalURL isURL field new))
    (hold : Kept (optionalURL isURL field old)) :
    Kept (optionalURL isURL field (orKeep new old)) := by
  unfold orKeep
  split
  · exact hnew
  · exact hold

end OrKeep

/-- A field that is given where it was stays given where it has to be. -/
theorem requiredIf_mono {field condition : String} {given given' holds : Bool}
    (h : (requiredIf field condition given holds).kept = true) (himp : given = true → given' = true) :
    (requiredIf field condition given' holds).kept = true := by
  unfold requiredIf at h ⊢
  cases holds with
  | false => rfl
  | true => exact himp h

/-- A field that has to be given with another one does not have to be given with less. -/
theorem requiredWith_anti {field other : String} {given otherGiven otherGiven' : Bool}
    (h : (requiredWith field other given otherGiven).kept = true)
    (himp : otherGiven' = true → otherGiven = true) :
    (requiredWith field other given otherGiven').kept = true := by
  unfold requiredWith at h ⊢
  cases otherGiven' with
  | false => rfl
  | true =>
    rw [himp rfl] at h
    exact h

/-- A sequence of checks is passed when each check is. -/
theorem bind_eq_ok_iff {ε α β : Type} {x : Except ε α} {f : α → Except ε β} {b : β} :
    (x >>= f) = .ok b ↔ ∃ a, x = .ok a ∧ f a = .ok b := by
  cases x with
  | error e => simp [bind, Except.bind]
  | ok a => simp [bind, Except.bind]

end ComplianceLedger
