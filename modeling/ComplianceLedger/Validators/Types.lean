import ComplianceLedger.Dclauth.Keeper

/-!
# The validators of the ledger: addresses, keys and records

A validator has an owner, whose address is that of an account in another spelling, and a consensus
key. The address codecs are parameters: `Addresses` states what is documented of
`ValAddressFromBech32` beside what holds for accounts, namely that empty texts and empty addresses
are refused.

## Main definitions

* `Addresses`: the codecs of accounts and validators, and the addresses of consensus keys
* `PubKey`, `TmPublicKey`: the keys of the SDK and those of Tendermint
* `Validator`, `LastValidatorPower`, `DisabledValidator`, `ProposedDisableValidator`: the records
* `Description.validate`: the limits of a description
* `Bech32.ofPrefix`: the codec of the texts with a prefix, for examples
-/

open Machine

namespace ComplianceLedger

namespace Validators

/-! ## Addresses and keys -/

/-- The bytes of a validator's address, which are those of its owner's account. -/
abbrev ValAddress := Bytes

/-- The bytes of the address of a consensus key. -/
abbrev ConsAddress := Bytes

/-- The public keys of the SDK. -/
inductive PubKey
  | ed25519 (key : Bytes)
  | secp256k1 (key : Bytes)
  | secp256r1 (key : Bytes)
  | multisig (key : Bytes)
deriving DecidableEq, Repr

/-- The name of the type of a key. -/
def PubKey.type : PubKey → String
  | .ed25519 _ => "ed25519"
  | .secp256k1 _ => "secp256k1"
  | .secp256r1 _ => "secp256r1"
  | .multisig _ => "PubKeyMultisigThreshold"

/-- The public keys of Tendermint. -/
inductive TmPublicKey
  | ed25519 (key : Bytes)
  | secp256k1 (key : Bytes)
deriving DecidableEq, Repr

/-- The key as Tendermint has it, if it has it. -/
def PubKey.toTmProtoPublicKey : PubKey → Option TmPublicKey
  | .ed25519 key => some (.ed25519 key)
  | .secp256k1 key => some (.secp256k1 key)
  | .secp256r1 _ | .multisig _ => none

theorem PubKey.toTmProtoPublicKey_injective {pk pk' : PubKey} {tm : TmPublicKey}
    (h : pk.toTmProtoPublicKey = some tm) (h' : pk'.toTmProtoPublicKey = some tm) : pk = pk' := by
  cases pk <;> cases h <;> cases pk' <;> cases h' <;> rfl

/-- The codecs of addresses. `val` is that of validators; it refuses empty texts, and no text stands
for the empty address. -/
structure Addresses where
  acc : Bech32
  val : Bech32
  val_empty : ∀ {a}, val.accAddressFromBech32 "" ≠ .ok a
  val_ne_nil : ∀ {t a}, val.accAddressFromBech32 t = .ok a → a ≠ []
  /-- The address of a consensus key. -/
  address : PubKey → ConsAddress
  /-- The text of the address of a consensus key. -/
  consString : ConsAddress → String

namespace Addresses

def valAddressFromBech32 (addr : Addresses) (text : String) : Except String ValAddress :=
  addr.val.accAddressFromBech32 text

def valString (addr : Addresses) (a : ValAddress) : String := addr.val.string a

theorem decode_valString {addr : Addresses} {text : String} {a : ValAddress}
    (h : addr.valAddressFromBech32 text = .ok a) :
    addr.valAddressFromBech32 (addr.valString a) = .ok a :=
  addr.val.decode_string h

theorem valString_ne_empty {addr : Addresses} {text : String} {a : ValAddress}
    (h : addr.valAddressFromBech32 text = .ok a) : addr.valString a ≠ "" := by
  intro hempty
  have hdecode := addr.decode_valString h
  rw [hempty] at hdecode
  exact addr.val_empty hdecode

end Addresses

/-! ## Records -/

/-- What a validator says about itself. -/
structure Description where
  moniker : String
  identity : String
  website : String
  details : String
deriving DecidableEq, Repr

/-- The power of a validator, unless it is jailed. -/
def power : ℕ := 10

/-- The power of a jailed validator. -/
def zeroPower : ℕ := 0

/-- The limit on the number of active nodes. -/
def maxNodes : ℕ := 100

/-- A validator. The description and the key are absent in the zero value only. -/
structure Validator where
  owner : String
  description : Option Description
  pubKey : Option PubKey
  power : ℕ
  jailed : Bool
  jailedReason : String
deriving DecidableEq, Repr

/-- The zero value, which a lookup that finds nothing returns. -/
def Validator.zero : Validator := ⟨"", none, none, 0, false, ""⟩

def newValidator (addr : Addresses) (owner : ValAddress) (pubKey : PubKey)
    (description : Description) : Validator :=
  ⟨addr.valString owner, some description, some pubKey, power, false, ""⟩

/-- The address of the owner. The zero value has the empty address; a text that does not decode makes
the source panic, with the error of the decoder. -/
def Validator.getOwner (addr : Addresses) (v : Validator) : Except String ValAddress :=
  if v.owner = "" then .ok [] else addr.valAddressFromBech32 v.owner

theorem Validator.getOwner_eq {addr : Addresses} {v : Validator} {text : String} {a : ValAddress}
    (hdecode : addr.valAddressFromBech32 text = .ok a) (hv : v.owner = addr.valString a) :
    v.getOwner addr = .ok a := by
  rw [getOwner, hv, if_neg (addr.valString_ne_empty hdecode), addr.decode_valString hdecode]

/-- The power a validator had at the end of the last block. -/
structure LastValidatorPower where
  owner : String
  power : ℕ
deriving DecidableEq, Repr

def newLastValidatorPower (addr : Addresses) (owner : ValAddress) : LastValidatorPower :=
  ⟨addr.valString owner, power⟩

/-- A validator that was disabled, by its owner or by votes. -/
structure DisabledValidator where
  address : String
  creator : String
  approvals : List Grant
  disabledByNodeAdmin : Bool
  rejects : List Grant
deriving DecidableEq, Repr

/-- The votes to disable a validator. -/
structure ProposedDisableValidator where
  address : String
  creator : String
  approvals : List Grant
  rejects : List Grant
deriving DecidableEq, Repr

/-- A rejected proposal has the fields of a proposal. -/
abbrev RejectedDisableValidator := ProposedDisableValidator

namespace ProposedDisableValidator

/-- Has the address approved the proposal? -/
def hasApprovalFrom (proposed : ProposedDisableValidator) (address : String) : Bool :=
  hasGrantFrom proposed.approvals address

/-- Has the address rejected the proposal? -/
def hasRejectDisableFrom (proposed : ProposedDisableValidator) (address : String) : Bool :=
  hasGrantFrom proposed.rejects address

end ProposedDisableValidator

/-- A change of the validator set that is sent to Tendermint. -/
structure ValidatorUpdate where
  pubKey : TmPublicKey
  power : ℕ
deriving DecidableEq, Repr

/-! ## Keys of the stores -/

def validatorKey (owner : ValAddress) : Bytes := owner ++ utf8 "/"

def validatorByConsAddrKey (addr : ConsAddress) : Bytes := addr ++ utf8 "/"

def lastValidatorPowerKey (owner : ValAddress) : Bytes := owner ++ utf8 "/"

/-- Disabled validators, and those proposed to be, are stored under the text of their address. -/
def disabledValidatorKey (address : String) : Bytes := utf8 address ++ utf8 "/"

def proposedDisableValidatorKey (address : String) : Bytes := utf8 address ++ utf8 "/"

def rejectedNodeKey (owner : ValAddress) : Bytes := owner ++ utf8 "/"

theorem validatorKey_injective : Function.Injective validatorKey :=
  fun _ _ h => List.append_cancel_right h

theorem validatorByConsAddrKey_injective : Function.Injective validatorByConsAddrKey :=
  fun _ _ h => List.append_cancel_right h

theorem disabledValidatorKey_injective : Function.Injective disabledValidatorKey :=
  fun _ _ h => utf8_injective (List.append_cancel_right h)

/-! ## Errors -/

def errUnknownRequest : RegisteredError := ⟨"sdk", 6, "unknown request"⟩

/-- What an error that no module has registered is reported as. -/
def errInternal : RegisteredError := ⟨"undefined", 1, "internal"⟩

def noValidatorFound : RegisteredError := ⟨"staking", 3, "validator does not exist"⟩

def validatorOwnerExists : RegisteredError :=
  ⟨"staking", 4,
    "validator already exist for this operator address; must use new validator operator address"⟩

def validatorPubKeyExists : RegisteredError :=
  ⟨"staking", 5, "validator already exist for this pubkey; must use new validator pubkey"⟩

def validatorPubKeyTypeNotSupported : RegisteredError :=
  ⟨"staking", 6, "validator pubkey type is not supported"⟩

def poolIsFull : RegisteredError := ⟨"validator", 601, "maximum number of active nodes reached"⟩

def proposedDisableValidatorAlreadyExists : RegisteredError :=
  ⟨"validator", 602, "disable validator proposal already exists"⟩

def proposedDisableValidatorDoesNotExist : RegisteredError :=
  ⟨"validator", 603, "disable validator proposal does not exist"⟩

def disabledValidatorAlreadyExists : RegisteredError :=
  ⟨"validator", 604, "disabled validator already exist"⟩

def disabledValidatorDoesNotExist : RegisteredError :=
  ⟨"validator", 605, "disabled validator does not exist"⟩

def errPoolIsFull : SdkError :=
  ⟨poolIsFull, "Pool ledger already contains maximum number of active nodes: \"" ++
    toString maxNodes ++ "\""⟩

def newErrProposedDisableValidatorAlreadyExists (name : String) : SdkError :=
  ⟨proposedDisableValidatorAlreadyExists,
    "Disable proposal with validator address=" ++ name ++ " already exists on the ledger"⟩

def newErrProposedDisableValidatorDoesNotExist (name : String) : SdkError :=
  ⟨proposedDisableValidatorDoesNotExist,
    "Disable proposal with validator address=" ++ name ++ " does not exist on the ledger"⟩

def newErrDisabledValidatorAlreadyExists (name : String) : SdkError :=
  ⟨disabledValidatorAlreadyExists,
    "Disabled validator with address=" ++ name ++ " already exists on the ledger"⟩

def newErrDisabledValidatorDoesNotExist (name : String) : SdkError :=
  ⟨disabledValidatorDoesNotExist,
    "Disabled validator with address=" ++ name ++ " does not exist on the ledger"⟩

/-! ## Descriptions -/

def maxNameLength : ℕ := 70

def maxIdentityLength : ℕ := 3000

def maxWebsiteLength : ℕ := 140

def maxDetailsLength : ℕ := 280

/-- A field of a description has at most `max` bytes. -/
def checkLength (field text : String) (max : ℕ) : Except SdkError Unit :=
  if max < (utf8 text).length then
    .error ⟨errUnknownRequest, "Invalid Description " ++ field ++ ": received string of length " ++
      toString (utf8 text).length ++ ", max is " ++ toString max⟩
  else .ok ()

/-- Ensure the lengths of a description. -/
def Description.validate (d : Description) : Except SdkError Unit := do
  if (utf8 d.moniker).length = 0 then
    .error ⟨errUnknownRequest, "Invalid Description Moniker: it cannot be empty"⟩
  checkLength "Moniker" d.moniker maxNameLength
  checkLength "Identity" d.identity maxIdentityLength
  checkLength "Website" d.website maxWebsiteLength
  checkLength "Details" d.details maxDetailsLength

end Validators

/-! ## Texts with a prefix

A codec for examples: the text of an address is a prefix, of which accounts and validators have their
own, followed by the characters of the address. -/

/-- The characters of an address: small letters and digits. -/
def isAddressChar (c : Char) : Bool := ('a' ≤ c && c ≤ 'z') || ('0' ≤ c && c ≤ '9')

def charByte (c : Char) : UInt8 := c.toNat.toUInt8

def byteChar (b : UInt8) : Char := Char.ofNat b.toNat

theorem isAddressChar_spec {c : Char} (h : isAddressChar c = true) :
    byteChar (charByte c) = c ∧ c.toLower = c ∧ c.toUpper.toLower = c := by
  have hsmall : c.toNat < 128 := by
    simp only [isAddressChar, Bool.or_eq_true, Bool.and_eq_true, decide_eq_true_eq] at h
    rcases h with h | h
    · exact Nat.lt_of_le_of_lt h.2 (by decide)
    · exact Nat.lt_of_le_of_lt h.2 (by decide)
  have hall : ∀ n < 128, isAddressChar (Char.ofNat n) = true →
      byteChar (charByte (Char.ofNat n)) = Char.ofNat n ∧ (Char.ofNat n).toLower = Char.ofNat n ∧
        (Char.ofNat n).toUpper.toLower = Char.ofNat n := by decide
  have hc := hall c.toNat hsmall
  rw [Char.ofNat_toNat] at hc
  exact hc h

/-- The text of an address in these characters. -/
def spelled (hrp : String) (data : List Char) : String := String.ofList (hrp.toList ++ data)

section Spelled

variable {hrp : String} {data : List Char}

theorem map_eq_self {f : Char → Char} (h : ∀ c ∈ data, f c = c) : data.map f = data := by
  rw [List.map_congr_left h, List.map_id']

/-- A text in these characters is kept by what keeps its prefix and each of the characters. -/
theorem map_spelled {f : Char → Char} (hhrp : String.ofList (hrp.toList.map f) = hrp)
    (hdata : ∀ c ∈ data, f c = c) :
    String.ofList ((spelled hrp data).toList.map f) = spelled hrp data := by
  have hprefix : hrp.toList.map f = hrp.toList := by
    simpa using congrArg String.toList hhrp
  rw [spelled, String.toList_ofList, List.map_append, hprefix, map_eq_self hdata]

theorem lowercase_uppercase (text : String) :
    lowercase (uppercase text) = String.ofList (text.toList.map fun c => c.toUpper.toLower) := by
  rw [lowercase, uppercase, String.toList_ofList, List.map_map]
  rfl

/-- The characters after the prefix. -/
def dataPart (hrp t : String) : List Char := (lowercase t).toList.drop hrp.toList.length

/-- The address of a text with the prefix, in small or in capital letters. -/
def decodePrefixed (hrp t : String) : Except String AccAddress :=
  if lowercase t = spelled hrp (dataPart hrp t) ∧ dataPart hrp t ≠ [] ∧
      (dataPart hrp t).all isAddressChar = true ∧
      (t = lowercase t ∨ t = uppercase (lowercase t)) then
    .ok ((dataPart hrp t).map charByte)
  else .error "decoding bech32 failed"

theorem exists_data_of_decodePrefixed {t : String} {a : AccAddress}
    (h : decodePrefixed hrp t = .ok a) :
    ∃ data, data ≠ [] ∧ (∀ c ∈ data, isAddressChar c = true) ∧ a = data.map charByte ∧
      spelled hrp (a.map byteChar) = spelled hrp data := by
  unfold decodePrefixed at h
  split at h
  · next hdata =>
    obtain ⟨-, hne, hall, -⟩ := hdata
    have hchars := List.all_eq_true.mp hall
    obtain rfl := Except.ok.inj h
    refine ⟨_, hne, hchars, rfl, ?_⟩
    rw [List.map_map]
    exact congrArg _ (map_eq_self fun c hc => (isAddressChar_spec (hchars c hc)).1)
  · cases h

theorem decodePrefixed_eq {t : String} (hne : data ≠ [])
    (hchars : ∀ c ∈ data, isAddressChar c = true) (hlower : lowercase t = spelled hrp data)
    (hcase : t = lowercase t ∨ t = uppercase (lowercase t)) :
    decodePrefixed hrp t = .ok (data.map charByte) := by
  have hdata : dataPart hrp t = data := by
    rw [dataPart, hlower, spelled, String.toList_ofList, List.drop_left]
  rw [decodePrefixed, hdata]
  exact if_pos ⟨hlower, hne, List.all_eq_true.mpr hchars, hcase⟩

theorem decodePrefixed_spelled (hlower : lowercase hrp = hrp) (hne : data ≠ [])
    (hchars : ∀ c ∈ data, isAddressChar c = true) :
    decodePrefixed hrp (spelled hrp data) = .ok (data.map charByte) := by
  have hkept : lowercase (spelled hrp data) = spelled hrp data :=
    map_spelled hlower fun c hc => (isAddressChar_spec (hchars c hc)).2.1
  exact decodePrefixed_eq hne hchars hkept (Or.inl hkept.symm)

end Spelled

/-- The codec of the texts with the given prefix. -/
def Bech32.ofPrefix (hrp : String) (hlower : lowercase hrp = hrp)
    (hupper : lowercase (uppercase hrp) = hrp) : Bech32 where
  accAddressFromBech32 := decodePrefixed hrp
  string a := spelled hrp (a.map byteChar)
  string_lower h := by
    obtain ⟨data, -, hchars, -, hspelled⟩ := exists_data_of_decodePrefixed h
    rw [hspelled]
    exact map_spelled hlower fun c hc => (isAddressChar_spec (hchars c hc)).2.1
  decode_string h := by
    obtain ⟨data, hne, hchars, rfl, hspelled⟩ := exists_data_of_decodePrefixed h
    rw [hspelled]
    exact decodePrefixed_spelled hlower hne hchars
  decode_upper h := by
    obtain ⟨data, hne, hchars, rfl, hspelled⟩ := exists_data_of_decodePrefixed h
    rw [hspelled]
    have hkept : lowercase (uppercase (spelled hrp data)) = spelled hrp data := by
      rw [lowercase_uppercase] at hupper ⊢
      exact map_spelled hupper fun c hc => (isAddressChar_spec (hchars c hc)).2.2
    exact decodePrefixed_eq hne hchars hkept (Or.inr (by rw [hkept]))

section OfPrefix

variable {hrp : String} {hlower : lowercase hrp = hrp} {hupper : lowercase (uppercase hrp) = hrp}
  {a : AccAddress}

theorem Bech32.ofPrefix_empty :
    (Bech32.ofPrefix hrp hlower hupper).accAddressFromBech32 "" ≠ .ok a := by
  have hdata : dataPart hrp "" = [] := by simp [dataPart, lowercase]
  have herror : decodePrefixed hrp "" = .error "decoding bech32 failed" :=
    if_neg fun hd => hd.2.1 hdata
  intro h
  cases herror.symm.trans h

theorem Bech32.ofPrefix_ne_nil {t : String}
    (h : (Bech32.ofPrefix hrp hlower hupper).accAddressFromBech32 t = .ok a) : a ≠ [] := by
  obtain ⟨data, hne, -, rfl, -⟩ := exists_data_of_decodePrefixed h
  exact mt List.map_eq_nil_iff.mp hne

theorem Bech32.ofPrefix_spelled {data : List Char} (hne : data ≠ [])
    (hchars : ∀ c ∈ data, isAddressChar c = true) :
    (Bech32.ofPrefix hrp hlower hupper).accAddressFromBech32 (spelled hrp data) =
      .ok (data.map charByte) := by
  unfold Bech32.ofPrefix
  dsimp only
  exact decodePrefixed_spelled hlower hne hchars

end OfPrefix

/-- The codecs of the examples; the address of a consensus key is the key itself. -/
def Validators.exampleAddresses : Validators.Addresses where
  acc := Bech32.ofPrefix "cosmos1" (by decide +kernel) (by decide +kernel)
  val := Bech32.ofPrefix "cosmosvaloper1" (by decide +kernel) (by decide +kernel)
  val_empty := Bech32.ofPrefix_empty
  val_ne_nil := Bech32.ofPrefix_ne_nil
  address
    | .ed25519 key | .secp256k1 key | .secp256r1 key | .multisig key => key
  consString key := spelled "cosmosvalcons1" (key.map byteChar)

end ComplianceLedger
