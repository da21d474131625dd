import ComplianceLedger.Machine.Encoding
import ComplianceLedger.Sdk.Basic

/-!
# The certificates of the ledger: records, errors, keys and messages

The data of `pki`. A certificate is stored under its subject and its subject key identifier; the
key of a record joins the two by slashes, so that two identifiers can have one key
(`pairKey_eq_iff` says when they cannot).

## Main definitions

* `Certificate`, `ProposedCertificate`, `ApprovedCertificates`, ...: the records
* `pairKey` and the key functions of the record kinds
* `Msg`, `validateBasic`: the seven messages and their stateless checks

## Main results

* `pairKey_eq_iff`: identifiers free of slashes have different keys
-/

open Machine

namespace ComplianceLedger.Pki

/-! ## Records -/

/-- A subject and a subject key identifier. -/
structure CertificateIdentifier where
  subject : String
  subjectKeyId : String
deriving DecidableEq, Repr

/-- A certificate of the ledger, with what was read off its text. -/
structure Certificate where
  pemCert : String
  serialNumber : String
  issuer : String
  authorityKeyId : String
  rootSubject : String
  rootSubjectKeyId : String
  isRoot : Bool
  owner : String
  subject : String
  subjectKeyId : String
  approvals : List Grant
  /-- A text in which decoded bytes stand as they are. -/
  subjectAsText : Bytes
  rejects : List Grant
deriving DecidableEq, Repr

def newRootCertificate (pemCert subject : String) (subjectAsText : Bytes)
    (subjectKeyID serialNumber owner : String) (approvals rejects : List Grant) : Certificate where
  pemCert := pemCert
  serialNumber := serialNumber
  issuer := ""
  authorityKeyId := ""
  rootSubject := ""
  rootSubjectKeyId := ""
  isRoot := true
  owner := owner
  subject := subject
  subjectKeyId := subjectKeyID
  approvals := approvals
  subjectAsText := subjectAsText
  rejects := rejects

def newNonRootCertificate (pemCert subject : String) (subjectAsText : Bytes)
    (subjectKeyID serialNumber issuer authorityKeyID rootSubject rootSubjectKeyID owner : String) :
    Certificate where
  pemCert := pemCert
  serialNumber := serialNumber
  issuer := issuer
  authorityKeyId := authorityKeyID
  rootSubject := rootSubject
  rootSubjectKeyId := rootSubjectKeyID
  isRoot := false
  owner := owner
  subject := subject
  subjectKeyId := subjectKeyID
  approvals := []
  subjectAsText := subjectAsText
  rejects := []

/-- A root certificate on which the trustees are voting. -/
structure ProposedCertificate where
  subject : String
  subjectKeyId : String
  pemCert : String
  serialNumber : String
  owner : String
  approvals : List Grant
  subjectAsText : Bytes
  rejects : List Grant
deriving DecidableEq, Repr

/-- The certificates of one identifier. -/
structure ApprovedCertificates where
  subject : String
  subjectKeyId : String
  certs : List Certificate
deriving DecidableEq, Repr

/-- Revoked certificates have the fields of approved ones. -/
abbrev RevokedCertificates := ApprovedCertificates

/-- A rejected certificate has the fields of approved ones. -/
abbrev RejectedCertificate := ApprovedCertificates

/-- The record a lookup returns when nothing is found. -/
def ApprovedCertificates.zero : ApprovedCertificates := ⟨"", "", []⟩

/-- The identifiers issued under one issuer and authority key. -/
structure ChildCertificates where
  issuer : String
  authorityKeyId : String
  certIds : List CertificateIdentifier
deriving DecidableEq, Repr

/-- The subject key identifiers approved for one subject. -/
structure ApprovedCertificatesBySubject where
  subject : String
  subjectKeyIds : List String
deriving DecidableEq, Repr

/-- An issuer and a serial number that are taken. -/
structure UniqueCertificate where
  issuer : String
  serialNumber : String
  present : Bool
deriving DecidableEq, Repr

/-- A revocation of root certificates on which the trustees are voting. -/
structure ProposedCertificateRevocation where
  subject : String
  subjectKeyId : String
  approvals : List Grant
deriving DecidableEq, Repr

namespace ProposedCertificate

def hasApprovalFrom (cert : ProposedCertificate) (address : String) : Bool :=
  hasGrantFrom cert.approvals address

def hasRejectFrom (cert : ProposedCertificate) (address : String) : Bool :=
  hasGrantFrom cert.rejects address

end ProposedCertificate

def ProposedCertificateRevocation.hasApprovalFrom (revocation : ProposedCertificateRevocation)
    (address : String) : Bool :=
  hasGrantFrom revocation.approvals address

/-! ## Errors -/

def errProposedCertificateAlreadyExists : RegisteredError :=
  ⟨"pki", 401, "proposed certificate already exists"⟩

def errProposedCertificateDoesNotExist : RegisteredError :=
  ⟨"pki", 402, "proposed certificate does not exist"⟩

def errCertificateAlreadyExists : RegisteredError := ⟨"pki", 403, "certificate already exists"⟩

def errCertificateDoesNotExist : RegisteredError := ⟨"pki", 404, "certificate does not exist"⟩

def errProposedCertificateRevocationAlreadyExists : RegisteredError :=
  ⟨"pki", 405, "proposed certificate revocation already exists"⟩

def errProposedCertificateRevocationDoesNotExist : RegisteredError :=
  ⟨"pki", 406, "proposed certificate revocation does not exist"⟩

def errInappropriateCertificateType : RegisteredError :=
  ⟨"pki", 408, "inappropriate certificate type"⟩

def errInvalidCertificate : RegisteredError := ⟨"pki", 409, "invalid certificate"⟩

/-- How an error text names an identifier. -/
def identifierText (subject subjectKeyID : String) : String :=
  "subject=" ++ subject ++ " and subjectKeyID=" ++ subjectKeyID

def newErrProposedCertificateAlreadyExists (subject subjectKeyID : String) : SdkError :=
  ⟨errProposedCertificateAlreadyExists,
    "Proposed X509 root certificate associated with the combination of " ++
      identifierText subject subjectKeyID ++ " already exists on the ledger"⟩

def newErrProposedCertificateDoesNotExist (subject subjectKeyID : String) : SdkError :=
  ⟨errProposedCertificateDoesNotExist,
    "No proposed X509 root certificate associated with the combination of " ++
      identifierText subject subjectKeyID ++
      " on the ledger. The cerificate either does not exists or already approved."⟩

def newErrCertificateAlreadyExists (issuer serialNumber : String) : SdkError :=
  ⟨errCertificateAlreadyExists,
    "X509 certificate associated with the combination of issuer=" ++ issuer ++
      " and serialNumber=" ++ serialNumber ++ " already exists on the ledger"⟩

def newErrCertificateDoesNotExist (subject subjectKeyID : String) : SdkError :=
  ⟨errCertificateDoesNotExist,
    "No X509 certificate associated with the combination of " ++
      identifierText subject subjectKeyID ++ " on the ledger"⟩

def newErrProposedCertificateRevocationAlreadyExists (subject subjectKeyID : String) : SdkError :=
  ⟨errProposedCertificateRevocationAlreadyExists,
    "Proposed X509 root certificate revocation associated with the combination of " ++
      identifierText subject subjectKeyID ++ " already exists on the ledger"⟩

def newErrProposedCertificateRevocationDoesNotExist (subject subjectKeyID : String) : SdkError :=
  ⟨errProposedCertificateRevocationDoesNotExist,
    "No proposed X509 root certificate revocation associated with the combination of " ++
      identifierText subject subjectKeyID ++ " on the ledger."⟩

def newErrInappropriateCertificateType (e : String) : SdkError :=
  ⟨errInappropriateCertificateType, e⟩

def newErrInvalidCertificate (e : String) : SdkError := ⟨errInvalidCertificate, e⟩

/-! ## Keys -/

/-- Two texts, each followed by a slash. -/
def pairKey (a b : String) : Bytes := utf8 a ++ utf8 "/" ++ utf8 b ++ utf8 "/"

theorem pairKey_eq_iff {a b a' b' : String} (hb : SlashFree b) (hb' : SlashFree b') :
    pairKey a b = pairKey a' b' ↔ a = a' ∧ b = b' := by
  constructor
  · intro h
    have hcut : utf8 a ++ slash :: utf8 b = utf8 a' ++ slash :: utf8 b' := by
      have hjoin := List.append_cancel_right h
      rw [utf8_slash] at hjoin
      simpa using hjoin
    -- the slash in front of the second text is the last one
    obtain ⟨ha, hb⟩ := append_sep_inj hcut hb hb'
    exact ⟨utf8_injective ha, utf8_injective hb⟩
  · rintro ⟨rfl, rfl⟩
    rfl

abbrev approvedCertificatesKey (subject subjectKeyID : String) : Bytes := pairKey subject subjectKeyID

abbrev proposedCertificateKey (subject subjectKeyID : String) : Bytes := pairKey subject subjectKeyID

abbrev proposedCertificateRevocationKey (subject subjectKeyID : String) : Bytes :=
  pairKey subject subjectKeyID

abbrev rejectedCertificateKey (subject subjectKeyID : String) : Bytes := pairKey subject subjectKeyID

abbrev revokedCertificatesKey (subject subjectKeyID : String) : Bytes := pairKey subject subjectKeyID

abbrev childCertificatesKey (issuer authorityKeyID : String) : Bytes := pairKey issuer authorityKeyID

abbrev uniqueCertificateKey (issuer serialNumber : String) : Bytes := pairKey issuer serialNumber

def approvedCertificatesBySubjectKey (subject : String) : Bytes := utf8 subject ++ utf8 "/"

theorem approvedCertificatesBySubjectKey_inj {subject subject' : String} :
    approvedCertificatesBySubjectKey subject = approvedCertificatesBySubjectKey subject' ↔
      subject = subject' := by
  rw [approvedCertificatesBySubjectKey, approvedCertificatesBySubjectKey, List.append_left_inj,
    utf8_inj]

/-- The key that the records of an identifier have in every kind. -/
def CertificateIdentifier.key (certID : CertificateIdentifier) : Bytes :=
  pairKey certID.subject certID.subjectKeyId

theorem CertificateIdentifier.key_inj {a b : CertificateIdentifier} (ha : SlashFree a.subjectKeyId)
    (hb : SlashFree b.subjectKeyId) (h : a.key = b.key) : a = b := by
  obtain ⟨hs, hk⟩ := (pairKey_eq_iff ha hb).mp h
  cases a
  cases b
  exact CertificateIdentifier.mk.injEq .. ▸ ⟨hs, hk⟩

/-- The identifier of a certificate. -/
def Certificate.certID (cert : Certificate) : CertificateIdentifier :=
  ⟨cert.subject, cert.subjectKeyId⟩

/-- The identifier of a record. -/
def ApprovedCertificates.certID (record : ApprovedCertificates) : CertificateIdentifier :=
  ⟨record.subject, record.subjectKeyId⟩

/-! ## Messages -/

/-- The fields of `MsgProposeAddX509RootCert` and of `MsgAddX509Cert`. -/
structure MsgCert where
  signer : String
  cert : String
  info : String
  time : ℤ
deriving DecidableEq, Repr

/-- The fields of the messages about a stored certificate. -/
structure MsgIdentifier where
  signer : String
  subject : String
  subjectKeyId : String
  info : String
  time : ℤ
deriving DecidableEq, Repr

/-- The identifier a message names. -/
def MsgIdentifier.certID (msg : MsgIdentifier) : CertificateIdentifier :=
  ⟨msg.subject, msg.subjectKeyId⟩

/-- The messages of the module. -/
inductive Msg
  | proposeAddX509RootCert (msg : MsgCert)
  | approveAddX509RootCert (msg : MsgIdentifier)
  | rejectAddX509RootCert (msg : MsgIdentifier)
  | addX509Cert (msg : MsgCert)
  | proposeRevokeX509RootCert (msg : MsgIdentifier)
  | approveRevokeX509RootCert (msg : MsgIdentifier)
  | revokeX509Cert (msg : MsgIdentifier)
deriving DecidableEq, Repr

/-- The text of the signer of a message. -/
def Msg.signer : Msg → String
  | .proposeAddX509RootCert msg | .addX509Cert msg => msg.signer
  | .approveAddX509RootCert msg | .rejectAddX509RootCert msg | .proposeRevokeX509RootCert msg
  | .approveRevokeX509RootCert msg | .revokeX509Cert msg => msg.signer

/-! ## Stateless checks -/

def errRequiredFieldMissing : RegisteredError := ⟨"validation", 900, "required field missing"⟩

def errFieldMaxLengthExceeded : RegisteredError :=
  ⟨"validation", 901, "field max length exceeded"⟩

/-- The validation tag of a string field. -/
structure FieldRule where
  name : String
  required : Bool
  max : Option ℕ

/-- Check a field against its tag. Lengths are counted in characters. -/
def FieldRule.check (rule : FieldRule) (value : String) : Except SdkError Unit :=
  if rule.required ∧ value = "" then
    .error ⟨errRequiredFieldMissing, rule.name ++ " is a required field"⟩
  else match rule.max with
    | none => .ok ()
    | some n =>
      if n < value.length then
        .error ⟨errFieldMaxLengthExceeded,
          "maximum length for " ++ rule.name ++ " allowed is " ++ toString n⟩
      else .ok ()

def signerRule : FieldRule := ⟨"Signer", true, none⟩

def certRule : FieldRule := ⟨"Cert", true, some 10485760⟩

def subjectRule : FieldRule := ⟨"Subject", true, some 1024⟩

def subjectKeyIdRule : FieldRule := ⟨"SubjectKeyId", true, some 256⟩

def infoRule : FieldRule := ⟨"Info", false, some 4096⟩

/-- The signer must be an address; the fields are then checked in order. -/
def validateFields (bech32 : Bech32) (signer : String) (fields : List (FieldRule × String)) :
    Except SdkError Unit :=
  match bech32.accAddressFromBech32 signer with
  | .error e => .error ⟨errInvalidAddress, "invalid signer address (" ++ e ++ ")"⟩
  | .ok _ => fields.forM fun f => f.1.check f.2

def MsgCert.validateBasic (bech32 : Bech32) (msg : MsgCert) : Except SdkError Unit :=
  validateFields bech32 msg.signer
    [(signerRule, msg.signer), (certRule, msg.cert), (infoRule, msg.info)]

def MsgIdentifier.validateBasic (bech32 : Bech32) (msg : MsgIdentifier) : Except SdkError Unit :=
  validateFields bech32 msg.signer
    [(signerRule, msg.signer), (subjectRule, msg.subject), (subjectKeyIdRule, msg.subjectKeyId),
      (infoRule, msg.info)]

/-- The stateless check of a rejection: its fields have tags, but the validator is not called. -/
def MsgIdentifier.validateReject (bech32 : Bech32) (msg : MsgIdentifier) : Except SdkError Unit :=
  match bech32.accAddressFromBech32 msg.signer with
  | .error e => .error ⟨errInvalidAddress, "invalid signer address (" ++ e ++ ")"⟩
  | .ok _ => .ok ()

/-- The stateless checks of a message. -/
def Msg.validateBasic (bech32 : Bech32) : Msg → Except SdkError Unit
  | .proposeAddX509RootCert msg => msg.validateBasic bech32
  | .approveAddX509RootCert msg => msg.validateBasic bech32
  | .rejectAddX509RootCert msg => msg.validateReject bech32
  | .addX509Cert msg => msg.validateBasic bech32
  | .proposeRevokeX509RootCert msg => msg.validateBasic bech32
  | .approveRevokeX509RootCert msg => msg.validateBasic bech32
  | .revokeX509Cert msg => msg.validateBasic bech32

section Signers

variable {bech32 : Bech32} {u : Unit}

theorem signer_of_validateFields {signer : String} {fields : List (FieldRule × String)}
    (h : validateFields bech32 signer fields = .ok u) :
    ∃ a, bech32.accAddressFromBech32 signer = .ok a := by
  unfold validateFields at h
  cases hsigner : bech32.accAddressFromBech32 signer with
  | ok a => exact ⟨a, rfl⟩
  | error e =>
    rw [hsigner] at h
    cases h

/-- A rejection of anything passes, with any information: only its signer counts. -/
theorem validateReject_eq_ok_iff {msg : MsgIdentifier} :
    msg.validateReject bech32 = .ok u ↔ ∃ a, bech32.accAddressFromBech32 msg.signer = .ok a := by
  unfold MsgIdentifier.validateReject
  cases bech32.accAddressFromBech32 msg.signer <;> simp

/-- A message that passes its check has a signer. -/
theorem Msg.signer_of_validateBasic {msg : Msg} (h : msg.validateBasic bech32 = .ok u) :
    ∃ a, bech32.accAddressFromBech32 msg.signer = .ok a := by
  cases msg with
  | rejectAddX509RootCert msg => exact validateReject_eq_ok_iff.mp h
  | proposeAddX509RootCert | approveAddX509RootCert | addX509Cert | proposeRevokeX509RootCert
  | approveRevokeX509RootCert | revokeX509Cert => exact signer_of_validateFields h

end Signers

end ComplianceLedger.Pki
