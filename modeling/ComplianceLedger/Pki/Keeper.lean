import ComplianceLedger.Dclauth.Account
import ComplianceLedger.Machine.Cascade
import ComplianceLedger.Pki.X509
import Mathlib.Tactic.Simps.Basic

/-!
# The certificates of the ledger: store and keeper

The store of `pki` and the functions of its keeper, under the names of the source. The store of the
source is one key-value store in which every kind of record has a prefix of its own; here each kind
is a store of its own. `verifyCertificate` and `revokeChildCertificates` recurse through the store
without a bound: the model gives them fuel, and `none` says that the fuel did not suffice.

## Main definitions

* `Store`: the records of the module
* `addApprovedCertificate`, `addRevokedCertificates`, `addChildCertificate`, ...: the updates
* `verifyCertificate`: the search for a chain of certificates up to a root
* `revokeChildCertificates`: the revocation of everything issued under a certificate

## Main results

* `revokeChildCertificates_eq_cascade`: the revocation is a cascade
-/

open Machine

namespace ComplianceLedger.Pki

/-- The records of the module, kind by kind. -/
structure Store where
  approvedCertificates : KVStore Bytes ApprovedCertificates
  approvedCertificatesBySubject : KVStore Bytes ApprovedCertificatesBySubject
  approvedRootCertificates : Option (List CertificateIdentifier)
  childCertificates : KVStore Bytes ChildCertificates
  proposedCertificate : KVStore Bytes ProposedCertificate
  proposedCertificateRevocation : KVStore Bytes ProposedCertificateRevocation
  rejectedCertificate : KVStore Bytes RejectedCertificate
  revokedCertificates : KVStore Bytes RevokedCertificates
  revokedRootCertificates : Option (List CertificateIdentifier)
  uniqueCertificate : KVStore Bytes UniqueCertificate

namespace Store

/-- The store without records. -/
def empty : Store :=
  ⟨.empty, .empty, none, .empty, .empty, .empty, .empty, .empty, none, .empty⟩

/-! ## Proposed and rejected certificates -/

def getProposedCertificate (s : Store) (subject subjectKeyID : String) :
    Option ProposedCertificate :=
  s.proposedCertificate.get (proposedCertificateKey subject subjectKeyID)

def isProposedCertificatePresent (s : Store) (subject subjectKeyID : String) : Bool :=
  s.proposedCertificate.has (proposedCertificateKey subject subjectKeyID)

@[simps] def setProposedCertificate (cert : ProposedCertificate) (s : Store) : Store :=
  { s with
    proposedCertificate :=
      s.proposedCertificate.set (proposedCertificateKey cert.subject cert.subjectKeyId) cert }

@[simps] def removeProposedCertificate (subject subjectKeyID : String) (s : Store) : Store :=
  { s with
    proposedCertificate :=
      s.proposedCertificate.delete (proposedCertificateKey subject subjectKeyID) }

@[simps] def setRejectedCertificate (cert : RejectedCertificate) (s : Store) : Store :=
  { s with
    rejectedCertificate :=
      s.rejectedCertificate.set (rejectedCertificateKey cert.subject cert.subjectKeyId) cert }

@[simps] def removeRejectedCertificate (subject subjectKeyID : String) (s : Store) : Store :=
  { s with
    rejectedCertificate :=
      s.rejectedCertificate.delete (rejectedCertificateKey subject subjectKeyID) }

/-! ## Approved certificates -/

def getApprovedCertificates (s : Store) (subject subjectKeyID : String) :
    Option ApprovedCertificates :=
  s.approvedCertificates.get (approvedCertificatesKey subject subjectKeyID)

/-- The record that a certificate is appended to: the one found, or a new one. -/
def approvedFor (s : Store) (subject subjectKeyID : String) : ApprovedCertificates :=
  (s.getApprovedCertificates subject subjectKeyID).getD ⟨subject, subjectKeyID, []⟩

/-- Append a certificate to the record of its identifier, which is stored under its own fields. -/
@[simps] def addApprovedCertificate (cert : Certificate) (s : Store) : Store :=
  { s with
    approvedCertificates :=
      let found := s.approvedFor cert.subject cert.subjectKeyId
      s.approvedCertificates.set (approvedCertificatesKey found.subject found.subjectKeyId)
        { found with certs := found.certs ++ [cert] } }

@[simps] def removeApprovedCertificates (subject subjectKeyID : String) (s : Store) : Store :=
  { s with
    approvedCertificates :=
      s.approvedCertificates.delete (approvedCertificatesKey subject subjectKeyID) }

/-! ## Revoked certificates -/

/-- The record that revoked certificates are appended to: the one found, or a new one. -/
def revokedFor (s : Store) (subject subjectKeyID : String) : RevokedCertificates :=
  (s.revokedCertificates.get (revokedCertificatesKey subject subjectKeyID)).getD
    ⟨subject, subjectKeyID, []⟩

/-- Append the certificates of a record to the revoked ones of its own identifier. -/
@[simps] def addRevokedCertificates (approved : ApprovedCertificates) (s : Store) : Store :=
  { s with
    revokedCertificates :=
      let found := s.revokedFor approved.subject approved.subjectKeyId
      s.revokedCertificates.set (revokedCertificatesKey found.subject found.subjectKeyId)
        { found with certs := found.certs ++ approved.certs } }

/-! ## Root certificates -/

/-- Append an identifier to a list, unless it is there. -/
def addIdentifier (certID : CertificateIdentifier) (root : Option (List CertificateIdentifier)) :
    Option (List CertificateIdentifier) :=
  if certID ∈ root.getD [] then root else some (root.getD [] ++ [certID])

/-- Take the first occurrence of an identifier off a list. -/
def removeIdentifier (certID : CertificateIdentifier) (root : Option (List CertificateIdentifier)) :
    Option (List CertificateIdentifier) :=
  if certID ∈ root.getD [] then some ((root.getD []).erase certID) else root

@[simps] def addApprovedRootCertificate (certID : CertificateIdentifier) (s : Store) : Store :=
  { s with approvedRootCertificates := addIdentifier certID s.approvedRootCertificates }

@[simps] def removeApprovedRootCertificate (certID : CertificateIdentifier) (s : Store) : Store :=
  { s with approvedRootCertificates := removeIdentifier certID s.approvedRootCertificates }

@[simps] def addRevokedRootCertificate (certID : CertificateIdentifier) (s : Store) : Store :=
  { s with revokedRootCertificates := addIdentifier certID s.revokedRootCertificates }

/-! ## Subjects -/

def getApprovedCertificatesBySubject (s : Store) (subject : String) :
    Option ApprovedCertificatesBySubject :=
  s.approvedCertificatesBySubject.get (approvedCertificatesBySubjectKey subject)

@[simps] def addApprovedCertificateBySubject (subject subjectKeyID : String) (s : Store) : Store :=
  { s with
    approvedCertificatesBySubject :=
      let found := (s.getApprovedCertificatesBySubject subject).getD ⟨"", []⟩
      if subjectKeyID ∈ found.subjectKeyIds then s.approvedCertificatesBySubject
      else s.approvedCertificatesBySubject.set (approvedCertificatesBySubjectKey subject)
        ⟨subject, found.subjectKeyIds ++ [subjectKeyID]⟩ }

@[simps] def removeApprovedCertificateBySubject (subject subjectKeyID : String) (s : Store) :
    Store :=
  { s with
    approvedCertificatesBySubject :=
      let found := (s.getApprovedCertificatesBySubject subject).getD ⟨"", []⟩
      -- the source cuts out the first occurrence
      let remaining := found.subjectKeyIds.erase subjectKeyID
      if subjectKeyID ∉ found.subjectKeyIds then s.approvedCertificatesBySubject
      else if 0 < remaining.length then
        s.approvedCertificatesBySubject.set (approvedCertificatesBySubjectKey found.subject)
          { found with subjectKeyIds := remaining }
      else s.approvedCertificatesBySubject.delete (approvedCertificatesBySubjectKey subject) }

/-! ## Children -/

def getChildCertificates (s : Store) (issuer authorityKeyID : String) : Option ChildCertificates :=
  s.childCertificates.get (childCertificatesKey issuer authorityKeyID)

@[simps] def removeChildCertificates (issuer authorityKeyID : String) (s : Store) : Store :=
  { s with
    childCertificates := s.childCertificates.delete (childCertificatesKey issuer authorityKeyID) }

@[simps] def addChildCertificate (issuer authorityKeyID : String) (certID : CertificateIdentifier)
    (s : Store) : Store :=
  { s with
    childCertificates :=
      let found := (s.getChildCertificates issuer authorityKeyID).getD ⟨issuer, authorityKeyID, []⟩
      if certID ∈ found.certIds then s.childCertificates
      else s.childCertificates.set (childCertificatesKey issuer authorityKeyID)
        { found with certIds := found.certIds ++ [certID] } }

@[simps] def removeChildCertificate (issuer authorityKeyID : String)
    (certID : CertificateIdentifier) (s : Store) : Store :=
  { s with
    childCertificates :=
      let found := (s.getChildCertificates issuer authorityKeyID).getD ⟨"", "", []⟩
      let remaining := found.certIds.erase certID
      if certID ∉ found.certIds then s.childCertificates
      else if 0 < remaining.length then
        -- written back under the fields of the record found, not under the arguments
        s.childCertificates.set (childCertificatesKey found.issuer found.authorityKeyId)
          { found with certIds := remaining }
      else s.childCertificates.delete (childCertificatesKey issuer authorityKeyID) }

/-! ## Unique certificates -/

@[simps] def setUniqueCertificate (unique : UniqueCertificate) (s : Store) : Store :=
  { s with
    uniqueCertificate :=
      s.uniqueCertificate.set (uniqueCertificateKey unique.issuer unique.serialNumber) unique }

@[simps] def removeUniqueCertificate (issuer serialNumber : String) (s : Store) : Store :=
  { s with
    uniqueCertificate := s.uniqueCertificate.delete (uniqueCertificateKey issuer serialNumber) }

def isUniqueCertificatePresent (s : Store) (issuer serialNumber : String) : Bool :=
  s.uniqueCertificate.has (uniqueCertificateKey issuer serialNumber)

/-! ## Revocation proposals -/

def getProposedCertificateRevocation (s : Store) (subject subjectKeyID : String) :
    Option ProposedCertificateRevocation :=
  s.proposedCertificateRevocation.get (proposedCertificateRevocationKey subject subjectKeyID)

def isProposedCertificateRevocationPresent (s : Store) (subject subjectKeyID : String) : Bool :=
  s.proposedCertificateRevocation.has (proposedCertificateRevocationKey subject subjectKeyID)

@[simps] def setProposedCertificateRevocation (revocation : ProposedCertificateRevocation)
    (s : Store) : Store :=
  { s with
    proposedCertificateRevocation :=
      s.proposedCertificateRevocation.set
        (proposedCertificateRevocationKey revocation.subject revocation.subjectKeyId) revocation }

@[simps] def removeProposedCertificateRevocation (subject subjectKeyID : String) (s : Store) :
    Store :=
  { s with
    proposedCertificateRevocation :=
      s.proposedCertificateRevocation.delete
        (proposedCertificateRevocationKey subject subjectKeyID) }

end Store

/-! ## Thresholds -/

/-- The role that votes on root certificates. -/
def rootCertificateApprovalRole : Dclauth.AccountRole := .trustee

/-- `RootCertificateApprovalsPercent`, in per cent. -/
def rootCertificateApprovalsPercent : ℕ := 66

def certificateApprovalsCount (accounts : Dclauth.AccountStore) : ℕ :=
  roundPercent rootCertificateApprovalsPercent
    (accounts.countAccountsWithRole rootCertificateApprovalRole)

def certificateRejectApprovalsCount (accounts : Dclauth.AccountStore) : ℕ :=
  accounts.countAccountsWithRole rootCertificateApprovalRole -
    certificateApprovalsCount accounts + 1

/-! ## The search for a chain -/

section Verification

variable (lib : CryptoX509) (now : ℤ) (s : Store)

def verificationFailed (x509Certificate : X509Certificate) : SdkError :=
  newErrInvalidCertificate ("Certificate verification failed for certificate with " ++
    identifierText x509Certificate.subject x509Certificate.subjectKeyID)

/-- The loop over the certificates that may have signed `x509Certificate`, where `verifyParent` is
the recursive call. -/
def verifyAgainst (x509Certificate : X509Certificate)
    (verifyParent : X509Certificate → Option (Except SdkError (String × String))) :
    List Certificate → Option (Except SdkError (String × String))
  | [] => some (.error (verificationFailed x509Certificate))
  | cert :: certs =>
    match decodeX509Certificate lib cert.pemCert with
    -- a stored certificate that does not decode is passed over, as is one that has not signed
    | .error _ => verifyAgainst x509Certificate verifyParent certs
    | .ok parentX509Certificate =>
      match x509Certificate.verify lib now parentX509Certificate with
      | .error _ => verifyAgainst x509Certificate verifyParent certs
      | .ok _ =>
        match verifyParent parentX509Certificate with
        | none => none
        | some (.ok root) => some (.ok root)
        -- no chain through this one: the error is dropped, and the loop goes on
        | some (.error _) => verifyAgainst x509Certificate verifyParent certs

/-- Try to build a chain of certificates up to a root, and return the identifier of the root. -/
def verifyCertificate : ℕ → X509Certificate → Option (Except SdkError (String × String))
  | 0, _ => none
  | fuel + 1, x509Certificate =>
    if x509Certificate.isSelfSigned then
      match x509Certificate.verify lib now x509Certificate with
      | .ok _ => some (.ok (x509Certificate.subject, x509Certificate.subjectKeyID))
      | .error _ => some (.error (verificationFailed x509Certificate))
    else
      match s.getApprovedCertificates x509Certificate.issuer x509Certificate.authorityKeyID with
      | none => some (.error (verificationFailed x509Certificate))
      | some parentCertificates =>
        verifyAgainst lib now x509Certificate (verifyCertificate fuel) parentCertificates.certs

end Verification

/-! ## The revocation of children -/

/-- Revoke everything issued under an issuer and an authority key. An identifier without approved
certificates is revoked as the empty record. -/
def revokeChildCertificates : ℕ → String → String → Store → Option Store
  | 0, _, _, _ => none
  | fuel + 1, issuer, authorityKeyID, s => do
    let childCertificates := (s.getChildCertificates issuer authorityKeyID).getD ⟨"", "", []⟩
    let s ← childCertificates.certIds.foldlM (fun s certID =>
      let certificates := (s.getApprovedCertificates certID.subject certID.subjectKeyId).getD
        ApprovedCertificates.zero
      let s := s.addRevokedCertificates certificates
      let s := s.removeApprovedCertificates certID.subject certID.subjectKeyId
      let s := s.removeApprovedCertificateBySubject certID.subject certID.subjectKeyId
      revokeChildCertificates fuel certID.subject certID.subjectKeyId s) s
    pure (s.removeChildCertificates issuer authorityKeyID)

/-- The identifiers in the child record under a key. -/
def Store.children (s : Store) (k : Bytes) : List CertificateIdentifier :=
  ((s.childCertificates.get k).map ChildCertificates.certIds).getD []

/-- The approved record under a key, or the empty one. -/
def Store.approvedAt (s : Store) (k : Bytes) : ApprovedCertificates :=
  (s.approvedCertificates.get k).getD ApprovedCertificates.zero

/-- The revocation of one child, before that of its own children. -/
def Store.revokeChild (certID : CertificateIdentifier) (s : Store) : Store :=
  Store.removeApprovedCertificateBySubject certID.subject certID.subjectKeyId
    (Store.removeApprovedCertificates certID.subject certID.subjectKeyId
      (s.addRevokedCertificates (s.approvedAt certID.key)))

/-- The removal of the child record under a key. -/
def Store.dropChildren (k : Bytes) (s : Store) : Store :=
  { s with childCertificates := s.childCertificates.delete k }

/-- **The revocation of children is a cascade.** -/
theorem revokeChildCertificates_eq_cascade (fuel : ℕ) (issuer authorityKeyID : String) (s : Store) :
    revokeChildCertificates fuel issuer authorityKeyID s =
      cascade CertificateIdentifier.key Store.children Store.revokeChild Store.dropChildren fuel
        (childCertificatesKey issuer authorityKeyID) s := by
  induction fuel generalizing issuer authorityKeyID s with
  | zero => rfl
  | succ fuel ih =>
    -- the record that stands in for a missing one has no children either
    have hids : ((s.getChildCertificates issuer authorityKeyID).getD ⟨"", "", []⟩).certIds =
        s.children (childCertificatesKey issuer authorityKeyID) := by
      unfold Store.getChildCertificates Store.children
      cases s.childCertificates.get (childCertificatesKey issuer authorityKeyID) <;> rfl
    rw [revokeChildCertificates, cascade, hids, Option.map_eq_bind]
    simp only [ih]
    rfl

end ComplianceLedger.Pki
