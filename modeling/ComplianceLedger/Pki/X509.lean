import ComplianceLedger.Machine.Parts
import ComplianceLedger.Pki.Types

/-!
# Decoding and verification of certificates

The package `x509` of the ledger. Parsing and signatures are those of the standard library, which
is a parameter, `CryptoX509`. `CryptoX509.ChecksValidity` states what is documented of its clock: a
certificate verifies only within the validity of both certificates.

## Main definitions

* `CryptoX509`: the standard library; `CryptoX509.ofTable` is one
* `X509Certificate`, `decodeX509Certificate`: a certificate with the texts read off it
* `isSelfSigned`, `verify`: the two questions the ledger asks of it

## Main results

* `decode_spec`: the key identifiers of a decoded certificate are free of slashes, and its serial
  number is decimal
-/

open Machine

namespace ComplianceLedger.Pki

/-- What the standard library reads off a certificate. -/
structure ParsedCertificate where
  raw : Bytes
  rawIssuer : Bytes
  rawSubject : Bytes
  serialNumber : ℤ
  /-- The subject as `pkix.Name.String` renders it. -/
  subject : Bytes
  subjectKeyId : Bytes
  authorityKeyId : Bytes
  notBefore : ℤ
  notAfter : ℤ
deriving DecidableEq, Repr

/-- The standard library. `verify now c root` is `c.Verify` with `root` as the only root and no time
given, on a node whose clock shows `now`. -/
structure CryptoX509 where
  decodePem : String → Option Bytes
  parseCertificate : Bytes → Except String ParsedCertificate
  verify : ℤ → ParsedCertificate → ParsedCertificate → Except String Unit

/-- The certificate is valid at the time `now`. -/
def ParsedCertificate.ValidAt (c : ParsedCertificate) (now : ℤ) : Prop :=
  c.notBefore ≤ now ∧ now ≤ c.notAfter

/-- The clock is read for the validity of both certificates only. -/
def CryptoX509.ReadsClockForValidity (lib : CryptoX509) : Prop :=
  ∀ now now' c root, (c.ValidAt now ↔ c.ValidAt now') → (root.ValidAt now ↔ root.ValidAt now') →
    (lib.verify now c root = .ok () ↔ lib.verify now' c root = .ok ())

/-- The validity of both certificates is checked, at the time the clock shows. -/
def CryptoX509.ChecksValidity (lib : CryptoX509) : Prop :=
  ∀ now c root, lib.verify now c root = .ok () →
    (c.notBefore ≤ now ∧ now ≤ c.notAfter) ∧ root.notBefore ≤ now ∧ now ≤ root.notAfter

/-- A library for the certificates with the given texts, in which a certificate verifies against
another of the name and the key it gives as its issuer's. -/
def CryptoX509.ofTable (table : List (String × ParsedCertificate)) : CryptoX509 where
  decodePem pem := some (utf8 pem)
  parseCertificate bytes :=
    match table.find? fun entry => utf8 entry.1 = bytes with
    | some entry => .ok entry.2
    | none => .error "x509: malformed certificate"
  verify now c root :=
    if ((c.notBefore ≤ now ∧ now ≤ c.notAfter) ∧ root.notBefore ≤ now ∧ now ≤ root.notAfter) ∧
        c.rawIssuer = root.rawSubject ∧ c.authorityKeyId = root.subjectKeyId then .ok ()
    else .error "x509: certificate signed by unknown authority"

theorem CryptoX509.checksValidity_ofTable (table : List (String × ParsedCertificate)) :
    (CryptoX509.ofTable table).ChecksValidity := by
  intro now c root h
  unfold CryptoX509.ofTable at h
  dsimp only at h
  split at h
  · next hvalid => exact hvalid.1
  · cases h

/-- A certificate with the texts read off it. -/
structure X509Certificate where
  issuer : String
  serialNumber : String
  subject : String
  subjectAsText : Bytes
  subjectKeyID : String
  authorityKeyID : String
  certificate : ParsedCertificate
deriving DecidableEq, Repr

/-! ## Texts -/

/-- The value of a hexadecimal digit. -/
def hexValue (b : UInt8) : Option ℕ :=
  if 48 ≤ b ∧ b ≤ 57 then some (b.toNat - 48)
  else if 97 ≤ b ∧ b ≤ 102 then some (b.toNat - 87)
  else if 65 ≤ b ∧ b ≤ 70 then some (b.toNat - 55)
  else none

/-- `hex.DecodeString` without its error: the bytes up to the first pair that is not
hexadecimal. -/
def hexDecode : Bytes → Bytes
  | a :: b :: rest =>
    match hexValue a, hexValue b with
    | some x, some y => UInt8.ofNat (16 * x + y) :: hexDecode rest
    | _, _ => []
  | _ => []

/-- The last bytes of a part that begins with the old key, decoded, behind the new key. The decoded
bytes stand in the text as they are, whether or not they are characters. -/
def formatPart (oldKey newKey : String) (part : Bytes) : Bytes :=
  if (utf8 oldKey).isPrefixOf part then
    utf8 (newKey ++ "=0x") ++ hexDecode (part.drop (part.length - 8))
  else part

def formatOID (header : Bytes) (oldKey newKey : String) : Bytes :=
  mapParts comma (formatPart oldKey newKey) header

def toSubjectAsText (subject : Bytes) : Bytes :=
  formatOID (formatOID subject "1.3.6.1.4.1.37244.2.1" "vid") "1.3.6.1.4.1.37244.2.2" "pid"

example : toSubjectAsText (utf8 "CN=PAA,1.3.6.1.4.1.37244.2.1=#130446464631") =
    utf8 "CN=PAA,vid=0xFFF1" := by
  decide

def toBase64String (subject : Bytes) : String := base64 subject

def bytesToHex (bytes : Bytes) : String := hexColon bytes

/-! ## Certificates -/

variable (lib : CryptoX509)

/-- The certificate of a PEM text. -/
def decodeX509Certificate (pemCertificate : String) : Except SdkError X509Certificate :=
  match lib.decodePem pemCertificate with
  | none => .error (newErrInvalidCertificate "Could not decode pem certificate")
  | some block =>
    match lib.parseCertificate block with
    | .error err => .error (newErrInvalidCertificate ("Could not parse certificate: " ++ err))
    | .ok cert => .ok {
        issuer := toBase64String cert.rawIssuer
        serialNumber := toString cert.serialNumber
        subject := toBase64String cert.rawSubject
        subjectAsText := toSubjectAsText cert.subject
        subjectKeyID := bytesToHex cert.subjectKeyId
        authorityKeyID := bytesToHex cert.authorityKeyId
        certificate := cert }

namespace X509Certificate

/-- Does the certificate verify against the parent, at the time of the local clock? -/
def verify (now : ℤ) (c parent : X509Certificate) : Except SdkError Unit :=
  match lib.verify now c.certificate parent.certificate with
  | .error err => .error (newErrInvalidCertificate
      ("Certificate verification failed. Error: " ++ err))
  | .ok _ => .ok ()

/-- A certificate is self-signed when it names itself as its issuer. -/
def isSelfSigned (c : X509Certificate) : Bool :=
  if 0 < c.authorityKeyID.length then
    c.issuer = c.subject ∧ c.authorityKeyID = c.subjectKeyID
  else c.issuer = c.subject

/-- The identifier of a certificate. -/
def certID (c : X509Certificate) : CertificateIdentifier := ⟨c.subject, c.subjectKeyID⟩

/-- The identifier a certificate names as its issuer. -/
def issuerID (c : X509Certificate) : CertificateIdentifier := ⟨c.issuer, c.authorityKeyID⟩

variable {lib} {now : ℤ} {c parent : X509Certificate}

theorem verify_ok_iff :
    verify lib now c parent = .ok () ↔ lib.verify now c.certificate parent.certificate = .ok () := by
  unfold verify
  cases lib.verify now c.certificate parent.certificate <;> simp

/-- A certificate does not verify before the start of its validity. -/
theorem notBefore_le_of_verify (hlib : lib.ChecksValidity)
    (h : verify lib now c parent = .ok ()) : c.certificate.notBefore ≤ now :=
  (hlib now _ _ (verify_ok_iff.mp h)).1.1

/-- A certificate that is not self-signed names another identifier as its issuer. -/
theorem issuerID_ne_certID (h : c.isSelfSigned = false) : c.issuerID ≠ c.certID := by
  intro heq
  obtain ⟨hsubject, hkey⟩ := CertificateIdentifier.mk.inj heq
  simp [isSelfSigned, hsubject, hkey] at h

end X509Certificate

/-- What the texts of a certificate are like. -/
structure X509Certificate.Spec (c : X509Certificate) : Prop where
  subjectKeyID : SlashFree c.subjectKeyID
  authorityKeyID : SlashFree c.authorityKeyID
  serialNumber : IsDecimal c.serialNumber

/-- **The texts of a decoded certificate.** -/
theorem decode_spec {lib : CryptoX509} {pem : String} {c : X509Certificate}
    (h : decodeX509Certificate lib pem = .ok c) : c.Spec := by
  unfold decodeX509Certificate at h
  split at h
  · cases h
  · split at h
    · cases h
    · next cert _ =>
      obtain rfl := Except.ok.inj h
      exact ⟨slashFree_hexColon _, slashFree_hexColon _, cert.serialNumber, rfl⟩

end ComplianceLedger.Pki
