import ComplianceLedger.Models.Rules

/-!
# The bounds of model versions

A version applies to a range of software versions, and may have an image that is loaded over the air.
An update gives a bound as zero to keep it. With both bounds given the rules of the message compare
them; with one of them given the handler compares it with the stored one. A URL of an image is changed
only where there was one, since the size and the checksum of the image stay as they were created.

## Main definitions

* `ModelVersion.InOrder`: the bounds are in order, and an image has its size and its checksum
* `ModelVersion.Remains v v'`: what stays of a version when it is updated

## Main results

* `ModelVersion.InOrder.update`: an update keeps a version in order, whatever it leaves out
* `versions_in_order`: in every run versions are in order, and remain
-/

open Machine Machine.TransitionSystem

namespace ComplianceLedger.Models

/-- The bounds are in order, and with the URL of an image there are its size and its checksum. -/
structure ModelVersion.InOrder (version : ModelVersion) : Prop where
  bounds : version.minApplicableSoftwareVersion ≤ version.maxApplicableSoftwareVersion
  image : version.otaUrl ≠ "" →
    version.otaFileSize ≠ 0 ∧ version.otaChecksum ≠ "" ∧ version.otaChecksumType ≠ 0

/-- What stays of a version when it is updated: the fields that are fixed with its creation, and whether
there is an image. -/
structure ModelVersion.Remains (v v' : ModelVersion) : Prop where
  softwareVersionString : v'.softwareVersionString = v.softwareVersionString
  cdVersionNumber : v'.cdVersionNumber = v.cdVersionNumber
  firmwareInformation : v'.firmwareInformation = v.firmwareInformation
  otaFileSize : v'.otaFileSize = v.otaFileSize
  otaChecksum : v'.otaChecksum = v.otaChecksum
  otaChecksumType : v'.otaChecksumType = v.otaChecksumType
  otaUrl : v'.otaUrl = "" ↔ v.otaUrl = ""

variable {bech32 : Bech32} {isURL : String → Bool} {s s' : Store}
  {a : Dclauth.AccountStore × Msg} {u : Unit}

theorem ModelVersion.Remains.refl (v : ModelVersion) : v.Remains v :=
  ⟨rfl, rfl, rfl, rfl, rfl, rfl, Iff.rfl⟩

theorem ModelVersion.Remains.trans {v v' v'' : ModelVersion} (h : v.Remains v')
    (h' : v'.Remains v'') : v.Remains v'' where
  softwareVersionString := h'.softwareVersionString.trans h.softwareVersionString
  cdVersionNumber := h'.cdVersionNumber.trans h.cdVersionNumber
  firmwareInformation := h'.firmwareInformation.trans h.firmwareInformation
  otaFileSize := h'.otaFileSize.trans h.otaFileSize
  otaChecksum := h'.otaChecksum.trans h.otaChecksum
  otaChecksumType := h'.otaChecksumType.trans h.otaChecksumType
  otaUrl := h'.otaUrl.trans h.otaUrl

/-! ## Updates -/

section Updates

variable {msg : MsgUpdateModelVersion} {found : ModelVersion}

/-- The URL of an image after an update that sets none where there was none. -/
theorem otaUrl_eq_empty_iff (hurl : msg.otaUrl ≠ "" → found.otaUrl ≠ "") :
    (msg.modelVersion found).otaUrl = "" ↔ found.otaUrl = "" := by
  show orKeep msg.otaUrl found.otaUrl = "" ↔ found.otaUrl = ""
  unfold orKeep
  split
  · next hgiven => simp [hgiven, hurl hgiven]
  · rfl

/-- The bounds after an update, for each choice of bounds that are given. -/
theorem bounds_update
    (hfound : found.minApplicableSoftwareVersion ≤ found.maxApplicableSoftwareVersion)
    (hboth : msg.maxApplicableSoftwareVersion ≠ 0 →
      msg.minApplicableSoftwareVersion ≤ msg.maxApplicableSoftwareVersion)
    (hmin : msg.minApplicableSoftwareVersion ≠ 0 → msg.maxApplicableSoftwareVersion = 0 →
      msg.minApplicableSoftwareVersion ≤ found.maxApplicableSoftwareVersion)
    (hmax : msg.minApplicableSoftwareVersion = 0 → msg.maxApplicableSoftwareVersion ≠ 0 →
      found.minApplicableSoftwareVersion ≤ msg.maxApplicableSoftwareVersion) :
    (msg.modelVersion found).minApplicableSoftwareVersion ≤
      (msg.modelVersion found).maxApplicableSoftwareVersion := by
  show boundOrKeep msg.minApplicableSoftwareVersion found.minApplicableSoftwareVersion ≤
    boundOrKeep msg.maxApplicableSoftwareVersion found.maxApplicableSoftwareVersion
  unfold boundOrKeep
  by_cases hgivenMin : msg.minApplicableSoftwareVersion = 0
  · rw [if_neg (not_not_intro hgivenMin)]
    by_cases hgivenMax : msg.maxApplicableSoftwareVersion = 0
    · rw [if_neg (not_not_intro hgivenMax)]
      exact hfound
    · rw [if_pos hgivenMax]
      exact hmax hgivenMin hgivenMax
  · rw [if_pos hgivenMin]
    by_cases hgivenMax : msg.maxApplicableSoftwareVersion = 0
    · rw [if_neg (not_not_intro hgivenMax)]
      exact hmin hgivenMin hgivenMax
    · rw [if_pos hgivenMax]
      exact hboth hgivenMax

/-- **An update keeps a version in order.** -/
theorem ModelVersion.InOrder.update (h : found.InOrder)
    (hrules : (Msg.updateModelVersion msg).validateBasic bech32 isURL = .ok u)
    (hurl : msg.otaUrl ≠ "" → found.otaUrl ≠ "")
    (hmin : msg.minApplicableSoftwareVersion ≠ 0 → msg.maxApplicableSoftwareVersion = 0 →
      msg.minApplicableSoftwareVersion ≤ found.maxApplicableSoftwareVersion)
    (hmax : msg.minApplicableSoftwareVersion = 0 → msg.maxApplicableSoftwareVersion ≠ 0 →
      found.minApplicableSoftwareVersion ≤ msg.maxApplicableSoftwareVersion) :
    (msg.modelVersion found).InOrder where
  bounds := bounds_update h.bounds (MsgUpdateModelVersion.of_validateBasic hrules) hmin hmax
  image hset := h.image fun hnone => hset ((otaUrl_eq_empty_iff hurl).mpr hnone)

theorem ModelVersion.remains_update (hurl : msg.otaUrl ≠ "" → found.otaUrl ≠ "") :
    found.Remains (msg.modelVersion found) :=
  ⟨rfl, rfl, rfl, rfl, rfl, rfl, otaUrl_eq_empty_iff hurl⟩

end Updates

/-! ## Runs -/

/-- The runs in which the messages about versions keep their rules. -/
abbrev versionsChecked (bech32 : Bech32) (isURL : String → Bool) :
    TransitionSystem Store (Dclauth.AccountStore × Msg) :=
  (models bech32).restrict fun _ a => KeepsVersionRules bech32 isURL a.2

/-- The stored versions are in order. -/
def VersionsInOrder (s : Store) : Prop :=
  ∀ vid pid sv version, s.getModelVersion vid pid sv = some version → version.InOrder

/-- The versions of `s` are still in `s'`, and remain. -/
def VersionsRemain (s s' : Store) : Prop :=
  ∀ vid pid sv v, s.getModelVersion vid pid sv = some v →
    ∃ v', s'.getModelVersion vid pid sv = some v' ∧ v.Remains v'

theorem versionsInOrder_step (hkeyed : Keyed s) (h : VersionsInOrder s)
    (hstep : (versionsChecked bech32 isURL).step s a s') : VersionsInOrder s' := by
  obtain ⟨hstep, hrules⟩ := hstep
  intro vid pid sv version hget
  rcases getModelVersion_of_step hkeyed hstep vid pid sv with hsame | ⟨msg, hmsg, -, hnew⟩ |
    ⟨msg, found, hmsg, hfound, hurl, hmin, hmax, hnew⟩
  · exact h vid pid sv version (hsame ▸ hget)
  · obtain rfl := Option.some.inj (hnew.symm.trans hget)
    rw [hmsg] at hrules
    exact ⟨(MsgCreateModelVersion.of_validateBasic hrules).1,
      (MsgCreateModelVersion.of_validateBasic hrules).2⟩
  · obtain rfl := Option.some.inj (hnew.symm.trans hget)
    rw [hmsg] at hrules
    exact (h vid pid sv found hfound).update hrules hurl hmin hmax

theorem versionsRemain_step (hkeyed : Keyed s) (hstep : (models bech32).step s a s') :
    VersionsRemain s s' := by
  intro vid pid sv v hget
  rcases getModelVersion_of_step hkeyed hstep vid pid sv with hsame | ⟨msg, -, hnone, -⟩ |
    ⟨msg, found, -, hfound, hurl, -, -, hnew⟩
  · exact ⟨v, hsame.trans hget, .refl v⟩
  · -- a version that is there is not created again
    cases hnone.symm.trans hget
  · obtain rfl := Option.some.inj (hfound.symm.trans hget)
    exact ⟨msg.modelVersion found, hnew, ModelVersion.remains_update hurl⟩

/-- **Versions are in order, and remain.** In every run in which the messages about versions keep
their rules, the minimum of a version is not above its maximum, and a version with the URL of an image
has the size, the checksum and the type of the checksum. A version is never removed; its image stays
present or absent, and the fields that are fixed with its creation stay as they are. -/
theorem versions_in_order (h : Reachable (versionsChecked bech32 isURL) s) :
    VersionsInOrder s ∧ ∀ s', (versionsChecked bech32 isURL).Reaches s s' → VersionsRemain s s' := by
  constructor
  · refine h.induction (P := VersionsInOrder) ?_ ?_
    · intro vid pid sv version hget
      cases hget
    · intro s a s' hr hs hstep
      exact versionsInOrder_step (keyed_of_reachable hr.of_restrict) hs hstep
  · intro s' hs
    apply Reaches.rel (R := VersionsRemain) _ _ _ h hs
    · exact fun s vid pid sv v hget => ⟨v, hget, .refl v⟩
    · intro s₁ s₂ s₃ h₁ h₂ vid pid sv v hget
      obtain ⟨v', hget', hv'⟩ := h₁ vid pid sv v hget
      obtain ⟨v'', hget'', hv''⟩ := h₂ vid pid sv v' hget'
      exact ⟨v'', hget'', hv'.trans hv''⟩
    · exact fun hs hstep => versionsRemain_step (keyed_of_reachable hs.of_restrict) hstep.1

instance (msg : Msg) : Decidable (KeepsVersionRules bech32 isURL msg) :=
  match msg with
  | .createModelVersion _ => inferInstanceAs (Decidable (_ = _))
  | .updateModelVersion _ => inferInstanceAs (Decidable (_ = _))
  | .createModel _ | .updateModel _ | .deleteModel _ => inferInstanceAs (Decidable True)

/-- A version with an image, for the versions 10 to 20, and an update of its minimum and its URL. -/
def exampleImage : List (Dclauth.AccountStore × Msg) :=
  [(exampleAccounts, exampleCreate 1 "lamp" "L1"),
    (exampleAccounts, .createModelVersion ⟨"cosmos1vendor", 10, 1, 3, "3.0", 1, "", true,
      "https://ota", 4096, "c0ffee", 1, 10, 20, ""⟩),
    (exampleAccounts, .updateModelVersion ⟨"cosmos1vendor", 10, 1, 3, true, "https://new", 15, 0, ""⟩)]

/-- The version of the example is updated, and is in order. -/
theorem example_image_in_order :
    ∃ s version, Reachable (versionsChecked exampleCodec fun _ => true) s ∧
      s.getModelVersion 10 1 3 = some version ∧
      (version.otaUrl = "https://new" ∧ version.minApplicableSoftwareVersion = 15) ∧
      version.InOrder := by
  obtain ⟨s, hs, hp⟩ := exists_reachable_of_foldlM
    (T := versionsChecked exampleCodec fun _ => true)
    (p := fun s => (s.getModelVersion 10 1 3).any fun version =>
      version.otaUrl = "https://new" ∧ version.minApplicableSoftwareVersion = 15)
    (guarded (fun _ a => KeepsVersionRules exampleCodec (fun _ => true) a.2) (next exampleCodec))
    (step_of_guarded step_of_next) exampleImage (by decide +kernel)
  obtain ⟨version, hget, hversion⟩ := (Option.any_eq_true _ _).mp hp
  exact ⟨s, version, hs, hget, of_decide_eq_true hversion,
    (versions_in_order hs).1 10 1 3 version hget⟩

end ComplianceLedger.Models
