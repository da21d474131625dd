import ComplianceLedger.Machine.Layout
import ComplianceLedger.Pki.Keeper

/-!
# The certificates of the ledger: one store for all kinds

The module keeps ten kinds of records in one key-value store. The key of a record is the text of its
kind followed by the key that the record has among its kind. Texts of certificates are base64, which
may contain the slash that ends each part of a key; the key identifier or the serial number behind
it may not, so the part in front of it can be told.

## Main definitions

* `Kind`, `Kind.Record`, `Kind.keyText`: the kinds, their records, and the texts that full keys
  begin with
* `layout`: the records of `Store`, kind by kind, in one store

## Main results

* `pairKey_hex_inj`, `pairKey_decimal_inj`: keys of decoded certificates determine the data they are
  made from
* `fullKey_decoded_inj`: full keys of decoded certificates differ, within a kind and across kinds
-/

open Machine

namespace ComplianceLedger.Pki

/-- The kinds of records. -/
inductive Kind
  | approvedCertificates
  | proposedCertificate
  | childCertificates
  | proposedCertificateRevocation
  | revokedCertificates
  | uniqueCertificate
  | approvedRootCertificates
  | revokedRootCertificates
  | approvedCertificatesBySubject
  | rejectedCertificate
deriving DecidableEq, Repr

namespace Kind

/-- The kinds, in the order in which a genesis state is read. -/
def all : List Kind :=
  [approvedCertificates, proposedCertificate, childCertificates, proposedCertificateRevocation,
    revokedCertificates, uniqueCertificate, approvedRootCertificates, revokedRootCertificates,
    approvedCertificatesBySubject, rejectedCertificate]

theorem mem_all (kind : Kind) : kind ∈ all := by
  cases kind <;> decide

/-- The records of a kind. -/
abbrev Record : Kind → Type
  | approvedCertificates => ApprovedCertificates
  | proposedCertificate => ProposedCertificate
  | childCertificates => ChildCertificates
  | proposedCertificateRevocation => ProposedCertificateRevocation
  | revokedCertificates => RevokedCertificates
  | uniqueCertificate => UniqueCertificate
  | approvedRootCertificates => List CertificateIdentifier
  | revokedRootCertificates => List CertificateIdentifier
  | approvedCertificatesBySubject => ApprovedCertificatesBySubject
  | rejectedCertificate => RejectedCertificate

/-- `ApprovedCertificatesKeyPrefix` and its likes. -/
def keyText : Kind → String
  | approvedCertificates => "ApprovedCertificates/value/"
  | proposedCertificate => "ProposedCertificate/value/"
  | childCertificates => "ChildCertificates/value/"
  | proposedCertificateRevocation => "ProposedCertificateRevocation/value/"
  | revokedCertificates => "RevokedCertificates/value/"
  | uniqueCertificate => "UniqueCertificate/value/"
  | approvedRootCertificates => "ApprovedRootCertificates/value/"
  | revokedRootCertificates => "RevokedRootCertificates/value/"
  | approvedCertificatesBySubject => "ApprovedCertificatesBySubject/value/"
  | rejectedCertificate => "RejectedCertificate/value/"

/-- None of the texts begins with another one. -/
theorem prefixFree_keyText : PrefixFree fun kind => utf8 (keyText kind) :=
  prefixFree_of_forall_mem mem_all (by decide +kernel)

/-- `ApprovedRootCertificatesKey` and `RevokedRootCertificatesKey`: the lists of roots are single
records, under a fixed key. -/
def rootCertificatesKey : Bytes := [0]

/-- The keys of a kind. -/
def IsKey : Kind → Bytes → Prop
  | approvedRootCertificates, k => k = rootCertificatesKey
  | revokedRootCertificates, k => k = rootCertificatesKey
  | _, _ => True

/-- The key of a record, computed from its own fields. -/
def key : (kind : Kind) → kind.Record → Bytes
  | approvedCertificates, elem => approvedCertificatesKey elem.subject elem.subjectKeyId
  | proposedCertificate, elem => proposedCertificateKey elem.subject elem.subjectKeyId
  | childCertificates, elem => childCertificatesKey elem.issuer elem.authorityKeyId
  | proposedCertificateRevocation, elem =>
    proposedCertificateRevocationKey elem.subject elem.subjectKeyId
  | revokedCertificates, elem => revokedCertificatesKey elem.subject elem.subjectKeyId
  | uniqueCertificate, elem => uniqueCertificateKey elem.issuer elem.serialNumber
  | approvedRootCertificates, _ => rootCertificatesKey
  | revokedRootCertificates, _ => rootCertificatesKey
  | approvedCertificatesBySubject, elem => approvedCertificatesBySubjectKey elem.subject
  | rejectedCertificate, elem => rejectedCertificateKey elem.subject elem.subjectKeyId

end Kind

/-! ## The one store -/

namespace Store

/-- The records of a kind. -/
def records (s : Store) : (kind : Kind) → KVStore Bytes kind.Record
  | .approvedCertificates => s.approvedCertificates
  | .proposedCertificate => s.proposedCertificate
  | .childCertificates => s.childCertificates
  | .proposedCertificateRevocation => s.proposedCertificateRevocation
  | .revokedCertificates => s.revokedCertificates
  | .uniqueCertificate => s.uniqueCertificate
  | .approvedRootCertificates => .slot Kind.rootCertificatesKey s.approvedRootCertificates
  | .revokedRootCertificates => .slot Kind.rootCertificatesKey s.revokedRootCertificates
  | .approvedCertificatesBySubject => s.approvedCertificatesBySubject
  | .rejectedCertificate => s.rejectedCertificate

/-- The store with other records of a kind. -/
def putRecords (s : Store) : (kind : Kind) → KVStore Bytes kind.Record → Store
  | .approvedCertificates, t => { s with approvedCertificates := t }
  | .proposedCertificate, t => { s with proposedCertificate := t }
  | .childCertificates, t => { s with childCertificates := t }
  | .proposedCertificateRevocation, t => { s with proposedCertificateRevocation := t }
  | .revokedCertificates, t => { s with revokedCertificates := t }
  | .uniqueCertificate, t => { s with uniqueCertificate := t }
  | .approvedRootCertificates, t =>
    { s with approvedRootCertificates := t.get Kind.rootCertificatesKey }
  | .revokedRootCertificates, t =>
    { s with revokedRootCertificates := t.get Kind.rootCertificatesKey }
  | .approvedCertificatesBySubject, t => { s with approvedCertificatesBySubject := t }
  | .rejectedCertificate, t => { s with rejectedCertificate := t }

theorem all_isKey (s : Store) (kind : Kind) : (s.records kind).All fun k _ => kind.IsKey k := by
  cases kind
  case approvedRootCertificates => exact KVStore.all_slot _ _
  case revokedRootCertificates => exact KVStore.all_slot _ _
  all_goals exact fun _ _ _ => trivial

theorem records_putRecords_self (s : Store) (kind : Kind) (t : KVStore Bytes kind.Record)
    (ht : t.All fun k _ => kind.IsKey k) : (s.putRecords kind t).records kind = t := by
  cases kind
  case approvedRootCertificates => exact KVStore.slot_get ht
  case revokedRootCertificates => exact KVStore.slot_get ht
  all_goals rfl

theorem records_putRecords_of_ne (s : Store) (kind : Kind) (t : KVStore Bytes kind.Record)
    (kind' : Kind) (h : kind' ≠ kind) : (s.putRecords kind t).records kind' = s.records kind' := by
  cases kind <;> cases kind' <;> first | rfl | exact absurd rfl h

end Store

/-- **The records of the module in one store.** -/
def layout : Layout Store Kind Kind.Record where
  kinds := Kind.all
  pre kind := utf8 kind.keyText
  IsKey := Kind.IsKey
  records := Store.records
  put := Store.putRecords
  mem_kinds := Kind.mem_all
  prefixFree := Kind.prefixFree_keyText
  isKey := Store.all_isKey
  records_put_self := Store.records_putRecords_self
  records_put_of_ne := Store.records_putRecords_of_ne

/-! ## Keys of decoded certificates -/

/-- A base64 text and a text of hexadecimal bytes in a key determine the data. -/
theorem pairKey_hex_inj {raw raw' id id' : Bytes} :
    pairKey (toBase64String raw) (bytesToHex id) = pairKey (toBase64String raw') (bytesToHex id') ↔
      raw = raw' ∧ id = id' := by
  -- the base64 text may contain slashes, the hexadecimal one behind it does not
  have hid : SlashFree (bytesToHex id) := slashFree_hexColon id
  have hid' : SlashFree (bytesToHex id') := slashFree_hexColon id'
  rw [pairKey_eq_iff hid hid']
  exact and_congr base64_inj hexColon_inj

/-- A base64 text and a decimal number in a key determine the data. -/
theorem pairKey_decimal_inj {raw raw' : Bytes} {serial serial' : ℤ} :
    pairKey (toBase64String raw) (toString serial) =
        pairKey (toBase64String raw') (toString serial') ↔
      raw = raw' ∧ serial = serial' := by
  have hserial : SlashFree (toString serial) := IsDecimal.slashFree ⟨serial, rfl⟩
  have hserial' : SlashFree (toString serial') := IsDecimal.slashFree ⟨serial', rfl⟩
  rw [pairKey_eq_iff hserial hserial']
  exact and_congr base64_inj decimal_inj

/-- **Full keys of decoded certificates differ**: two certificates share a key of approved
certificates only if they have the same subject and the same key identifier, and a key of unique
certificates only if they have the same issuer and the same serial number; a full key of one kind
is never a full key of another. -/
theorem fullKey_decoded_inj :
    (∀ subject subject' subjectKeyId subjectKeyId' : Bytes,
      layout.fullKey .approvedCertificates
          (approvedCertificatesKey (toBase64String subject) (bytesToHex subjectKeyId)) =
        layout.fullKey .approvedCertificates
          (approvedCertificatesKey (toBase64String subject') (bytesToHex subjectKeyId')) ↔
        subject = subject' ∧ subjectKeyId = subjectKeyId') ∧
    (∀ (issuer issuer' : Bytes) (serialNumber serialNumber' : ℤ),
      layout.fullKey .uniqueCertificate
          (uniqueCertificateKey (toBase64String issuer) (toString serialNumber)) =
        layout.fullKey .uniqueCertificate
          (uniqueCertificateKey (toBase64String issuer') (toString serialNumber')) ↔
        issuer = issuer' ∧ serialNumber = serialNumber') ∧
    ∀ (kind kind' : Kind) (k k' : Bytes),
      layout.fullKey kind k = layout.fullKey kind' k' ↔ kind = kind' ∧ k = k' := by
  refine ⟨?_, ?_, ?_⟩
  · intro subject subject' subjectKeyId subjectKeyId'
    rw [layout.fullKey_inj, pairKey_hex_inj]
    exact and_iff_right rfl
  · intro issuer issuer' serialNumber serialNumber'
    rw [layout.fullKey_inj, pairKey_decimal_inj]
    exact and_iff_right rfl
  · intro kind kind' k k'
    exact layout.fullKey_inj

end ComplianceLedger.Pki
