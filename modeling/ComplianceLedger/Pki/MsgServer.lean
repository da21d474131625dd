import ComplianceLedger.Machine.Handler
import ComplianceLedger.Machine.TransitionSystem
import ComplianceLedger.Pki.Keeper

/-!
# The certificates of the ledger: message handlers

The seven handlers of `pki`, and the runs of the module as the deliveries of its messages. A
handler that indexes the first certificate of an empty record panics, which the delivery reports
as an error.

## Main definitions

* `Context`: what a handler reads beside the store
* `proposeAddX509RootCert`, ..., `revokeX509Cert`: the handlers
* `handle`, `certificates`: the handler of a message, and the runs of the module
* `exampleLib`, `exampleRoot`, `exampleLeaf`: a small ledger
-/

open Machine Machine.Handler

namespace ComplianceLedger.Pki

/-- What a handler reads beside the store: the accounts of the ledger, and the clock of the node it
runs on. -/
structure Context where
  accounts : Dclauth.AccountStore
  now : ℤ

/-! ## Checks that handlers share -/

section Checks

variable (lib : CryptoX509) (bech32 : Bech32) (ctx : Context)

/-- The account of the signer, which must have the role that votes on root certificates. -/
def trusteeSigner (message signer : String) : Handler SdkError Store AccAddress := do
  let signerAddr ← ofExcept (bech32.signer signer)
  failIf (ctx.accounts.hasRole signerAddr rootCertificateApprovalRole = false)
    ⟨errUnauthorized, message ++ " transaction should be signed by an account with the \"" ++
      rootCertificateApprovalRole.name ++ "\" role"⟩
  pure signerAddr

/-- The certificate of a message. -/
def decodeCert (msg : MsgCert) : Except SdkError X509Certificate :=
  match decodeX509Certificate lib msg.cert with
  | .ok x509Certificate => .ok x509Certificate
  | .error err => .error (newErrInvalidCertificate err.error)

/-- The vote of a message. -/
def grantOf (msg : MsgIdentifier) (signerAddr : AccAddress) : Grant :=
  ⟨bech32.string signerAddr, msg.time, msg.info⟩

/-- The first certificate of a record. -/
def firstCert (certificates : ApprovedCertificates) : Except SdkError Certificate :=
  match certificates.certs with
  | [] => .error .indexOutOfRange
  | first :: _ => .ok first

/-- Compare a new certificate with the first of those stored under its identifier, if any. -/
def checkExisting (existing : Option ApprovedCertificates) (x509Certificate : X509Certificate)
    (signer : String) (differs : Certificate → Bool) : Except SdkError Unit :=
  match existing with
  | none => .ok ()
  | some certificates =>
    match firstCert certificates with
    | .error err => .error err
    | .ok first =>
      if differs first then
        .error ⟨errUnauthorized, "Issuer and authorityKeyID of new certificate with " ++
          identifierText x509Certificate.subject x509Certificate.subjectKeyID ++
          " must be the same as ones of existing certificates with the same subject and " ++
          "subjectKeyID"⟩
      else if signer ≠ first.owner then
        .error ⟨errUnauthorized, "Only owner of existing certificates with " ++
          identifierText x509Certificate.subject x509Certificate.subjectKeyID ++
          " can add new certificate with the same subject and subjectKeyID"⟩
      else .ok ()

/-- The text of a second vote, with the `kind` of the first. -/
def alreadyVoted (subject : String) (msg : MsgIdentifier) (kind : String) : SdkError :=
  ⟨errUnauthorized, subject ++ " associated with " ++ identifierText msg.subject msg.subjectKeyId ++
    " combination already has " ++ kind ++ " from=" ++ msg.signer⟩

/-- What approving and rejecting a root certificate check before the vote is counted. Both report
a missing role under the name of the approving message. -/
def findProposedCertificate (msg : MsgIdentifier) :
    Handler SdkError Store (AccAddress × ProposedCertificate) := do
  let signerAddr ← trusteeSigner bech32 ctx "MsgApproveAddX509RootCert" msg.signer
  let proposedCertificate ← readSome
    (fun s => s.getProposedCertificate msg.subject msg.subjectKeyId)
    (newErrProposedCertificateDoesNotExist msg.subject msg.subjectKeyId)
  failIf (proposedCertificate.hasRejectFrom (bech32.string signerAddr))
    (alreadyVoted "Certificate" msg "reject approval")
  failIf (proposedCertificate.hasApprovalFrom (bech32.string signerAddr))
    (alreadyVoted "Certificate" msg "approval")
  pure (signerAddr, proposedCertificate)

end Checks

/-! ## The handlers -/

section Handlers

variable (lib : CryptoX509) (bech32 : Bech32) (fuel : ℕ) (ctx : Context)

/-- Propose a root certificate; a trustee approves it by proposing it. -/
def proposeAddX509RootCert (msg : MsgCert) : Handler SdkError Store Unit := do
  let x509Certificate ← ofExcept (decodeCert lib msg)
  failIf (x509Certificate.isSelfSigned = false) (newErrInappropriateCertificateType
    ("Inappropriate Certificate Type: Passed certificate is not self-signed, " ++
      "so it cannot be used as a root certificate."))
  let proposed ← read fun s =>
    s.isProposedCertificatePresent x509Certificate.subject x509Certificate.subjectKeyID
  failIf proposed
    (newErrProposedCertificateAlreadyExists x509Certificate.subject x509Certificate.subjectKeyID)
  let unique ← read fun s =>
    s.isUniqueCertificatePresent x509Certificate.issuer x509Certificate.serialNumber
  failIf unique
    (newErrCertificateAlreadyExists x509Certificate.issuer x509Certificate.serialNumber)
  -- the certificate is self-signed here, so that it is verified against itself
  let s ← read id
  let _ ← ofOption (verifyCertificate lib ctx.now s fuel x509Certificate)
  let existing ← read fun s =>
    s.getApprovedCertificates x509Certificate.subject x509Certificate.subjectKeyID
  ofExcept (checkExisting existing x509Certificate msg.signer fun first => !first.isRoot)
  let signerAddr ← ofExcept (bech32.signer msg.signer)
  let approvals : List Grant :=
    if ctx.accounts.hasRole signerAddr rootCertificateApprovalRole then
      [⟨bech32.string signerAddr, msg.time, msg.info⟩]
    else []
  write (Store.setProposedCertificate {
    subject := x509Certificate.subject
    subjectKeyId := x509Certificate.subjectKeyID
    pemCert := msg.cert
    serialNumber := x509Certificate.serialNumber
    owner := msg.signer
    approvals := approvals
    subjectAsText := x509Certificate.subjectAsText
    rejects := [] })
  write (Store.removeRejectedCertificate x509Certificate.subject x509Certificate.subjectKeyID)
  write (Store.setUniqueCertificate ⟨x509Certificate.issuer, x509Certificate.serialNumber, true⟩)

/-- The root certificate of a proposal. -/
def rootCertificateOf (proposed : ProposedCertificate) : Certificate :=
  newRootCertificate proposed.pemCert proposed.subject proposed.subjectAsText proposed.subjectKeyId
    proposed.serialNumber proposed.owner proposed.approvals proposed.rejects

/-- Approve a proposed root certificate. With enough approvals it is added to the certificates of
its identifier, without a look at what is stored there. -/
def approveAddX509RootCert (msg : MsgIdentifier) : Handler SdkError Store Unit := do
  let (signerAddr, found) ← findProposedCertificate bech32 ctx msg
  let proposed := { found with approvals := found.approvals ++ [grantOf bech32 msg signerAddr] }
  if certificateApprovalsCount ctx.accounts ≤ proposed.approvals.length then
    let rootCertificate := rootCertificateOf proposed
    write (Store.addApprovedCertificate rootCertificate)
    write (Store.removeProposedCertificate msg.subject msg.subjectKeyId)
    write (Store.addApprovedRootCertificate
      ⟨rootCertificate.subject, rootCertificate.subjectKeyId⟩)
    write (Store.addApprovedCertificateBySubject rootCertificate.subject
      rootCertificate.subjectKeyId)
  else
    write (Store.setProposedCertificate proposed)

/-- Reject a proposed root certificate. -/
def rejectAddX509RootCert (msg : MsgIdentifier) : Handler SdkError Store Unit := do
  let (signerAddr, found) ← findProposedCertificate bech32 ctx msg
  let proposed := { found with rejects := found.rejects ++ [grantOf bech32 msg signerAddr] }
  if certificateRejectApprovalsCount ctx.accounts ≤ proposed.rejects.length then
    -- the rejected certificate is kept with its flag for a root unset
    write (Store.setRejectedCertificate ⟨proposed.subject, proposed.subjectKeyId,
      [{ rootCertificateOf proposed with isRoot := false }]⟩)
    write (Store.removeProposedCertificate msg.subject msg.subjectKeyId)
    -- the issuer of a self-signed certificate is its subject
    write (Store.removeUniqueCertificate proposed.subject proposed.serialNumber)
  else
    write (Store.setProposedCertificate proposed)

/-- Add a certificate that is not self-signed, under a chain up to a root. -/
def addX509Cert (msg : MsgCert) : Handler SdkError Store Unit := do
  let x509Certificate ← ofExcept (decodeCert lib msg)
  failIf x509Certificate.isSelfSigned (newErrInappropriateCertificateType
    ("Inappropriate Certificate Type: Passed certificate is self-signed, " ++
      "so it cannot be added to the system as a non-root certificate. " ++
      "To propose adding a root certificate please use `PROPOSE_ADD_X509_ROOT_CERT` transaction."))
  let unique ← read fun s =>
    s.isUniqueCertificatePresent x509Certificate.issuer x509Certificate.serialNumber
  failIf unique
    (newErrCertificateAlreadyExists x509Certificate.issuer x509Certificate.serialNumber)
  let existing ← read fun s =>
    s.getApprovedCertificates x509Certificate.subject x509Certificate.subjectKeyID
  ofExcept (checkExisting existing x509Certificate msg.signer fun first =>
    first.isRoot || x509Certificate.issuer != first.issuer ||
      x509Certificate.authorityKeyID != first.authorityKeyId)
  let s ← read id
  let root ← ofOption (verifyCertificate lib ctx.now s fuel x509Certificate)
  let certificate := newNonRootCertificate msg.cert x509Certificate.subject
    x509Certificate.subjectAsText x509Certificate.subjectKeyID x509Certificate.serialNumber
    x509Certificate.issuer x509Certificate.authorityKeyID root.1 root.2 msg.signer
  write (Store.addApprovedCertificate certificate)
  write (Store.addChildCertificate certificate.issuer certificate.authorityKeyId
    ⟨certificate.subject, certificate.subjectKeyId⟩)
  write (Store.setUniqueCertificate ⟨x509Certificate.issuer, x509Certificate.serialNumber, true⟩)
  write (Store.addApprovedCertificateBySubject certificate.subject certificate.subjectKeyId)

/-- Propose the revocation of root certificates. The vote is recorded under the text of the signer
as it stands in the message. -/
def proposeRevokeX509RootCert (msg : MsgIdentifier) : Handler SdkError Store Unit := do
  let _ ← trusteeSigner bech32 ctx "MsgProposeRevokeX509RootCert" msg.signer
  let present ← read fun s =>
    s.isProposedCertificateRevocationPresent msg.subject msg.subjectKeyId
  failIf present (newErrProposedCertificateRevocationAlreadyExists msg.subject msg.subjectKeyId)
  let certificates ← readSome (fun s => s.getApprovedCertificates msg.subject msg.subjectKeyId)
    (newErrCertificateDoesNotExist msg.subject msg.subjectKeyId)
  let first ← ofExcept (firstCert certificates)
  failIf (first.isRoot = false) (newErrInappropriateCertificateType
    ("Inappropriate Certificate Type: Certificate with " ++
      identifierText msg.subject msg.subjectKeyId ++ " is not a root certificate."))
  write (Store.setProposedCertificateRevocation
    ⟨msg.subject, msg.subjectKeyId, [⟨msg.signer, msg.time, msg.info⟩]⟩)

/-- The certificates with the approvals of their revocation assigned to the roots among them. -/
def assignApprovals (approvals : List Grant) (certificates : ApprovedCertificates) :
    ApprovedCertificates :=
  { certificates with
    certs := certificates.certs.map fun cert =>
      if cert.isRoot then { cert with approvals := approvals } else cert }

/-- Approve the revocation of root certificates. With enough approvals the certificates of the
identifier and everything issued under it are revoked. -/
def approveRevokeX509RootCert (msg : MsgIdentifier) : Handler SdkError Store Unit := do
  let signerAddr ← trusteeSigner bech32 ctx "MsgApproveRevokeX509RootCert" msg.signer
  let found ← readSome
    (fun s => s.getProposedCertificateRevocation msg.subject msg.subjectKeyId)
    (newErrProposedCertificateRevocationDoesNotExist msg.subject msg.subjectKeyId)
  failIf (found.hasApprovalFrom (bech32.string signerAddr))
    (alreadyVoted "Certificate revocation" msg "approval")
  let revocation := { found with approvals := found.approvals ++ [grantOf bech32 msg signerAddr] }
  if certificateApprovalsCount ctx.accounts ≤ revocation.approvals.length then
    let certificates ← readSome (fun s => s.getApprovedCertificates msg.subject msg.subjectKeyId)
      (newErrCertificateDoesNotExist msg.subject msg.subjectKeyId)
    write (Store.addRevokedCertificates (assignApprovals revocation.approvals certificates))
    write (Store.removeApprovedCertificates msg.subject msg.subjectKeyId)
    -- the children go after their parent has left the approved certificates
    transform (revokeChildCertificates fuel msg.subject msg.subjectKeyId)
    write (Store.removeProposedCertificateRevocation msg.subject msg.subjectKeyId)
    write (Store.removeApprovedRootCertificate ⟨msg.subject, msg.subjectKeyId⟩)
    write (Store.addRevokedRootCertificate ⟨msg.subject, msg.subjectKeyId⟩)
    write (Store.removeApprovedCertificateBySubject msg.subject msg.subjectKeyId)
  else
    write (Store.setProposedCertificateRevocation revocation)

/-- Revoke the certificates of an identifier, and everything issued under it. -/
def revokeX509Cert (msg : MsgIdentifier) : Handler SdkError Store Unit := do
  let certificates ← readSome (fun s => s.getApprovedCertificates msg.subject msg.subjectKeyId)
    (newErrCertificateDoesNotExist msg.subject msg.subjectKeyId)
  let first ← ofExcept (firstCert certificates)
  failIf first.isRoot (newErrInappropriateCertificateType
    ("Inappropriate Certificate Type: Certificate with " ++
      identifierText msg.subject msg.subjectKeyId ++ " is a root certificate. To propose " ++
      "revocation of a root certificate please use `PROPOSE_REVOKE_X509_ROOT_CERT` transaction."))
  failIf (msg.signer ≠ first.owner)
    ⟨errUnauthorized, "Only owner can revoke certificate using `REVOKE_X509_CERT`"⟩
  write (Store.addRevokedCertificates certificates)
  write (Store.removeApprovedCertificates msg.subject msg.subjectKeyId)
  -- the issuer and the authority key are those of the first certificate, for all of them
  write (Store.removeChildCertificate first.issuer first.authorityKeyId
    ⟨msg.subject, msg.subjectKeyId⟩)
  transform (revokeChildCertificates fuel msg.subject msg.subjectKeyId)
  write (Store.removeApprovedCertificateBySubject msg.subject msg.subjectKeyId)

/-- The handler of a message. -/
def handle : Msg → Handler SdkError Store Unit
  | .proposeAddX509RootCert msg => proposeAddX509RootCert lib bech32 fuel ctx msg
  | .approveAddX509RootCert msg => approveAddX509RootCert bech32 ctx msg
  | .rejectAddX509RootCert msg => rejectAddX509RootCert bech32 ctx msg
  | .addX509Cert msg => addX509Cert lib fuel ctx msg
  | .proposeRevokeX509RootCert msg => proposeRevokeX509RootCert bech32 ctx msg
  | .approveRevokeX509RootCert msg => approveRevokeX509RootCert bech32 fuel ctx msg
  | .revokeX509Cert msg => revokeX509Cert fuel msg

end Handlers

/-- The runs of the module: any messages, delivered with any accounts on the ledger and any time on
the clock. -/
def certificates (lib : CryptoX509) (bech32 : Bech32) : TransitionSystem Store (Context × Msg) where
  init := Store.empty
  step s a s' := ∃ fuel r, (handle lib bech32 fuel a.1 a.2).deliver s = some (r, s')

/-- Deliver a message, if its handler returns with the fuel. -/
def deliverMsg (lib : CryptoX509) (bech32 : Bech32) (fuel : ℕ) (s : Store) (a : Context × Msg) :
    Option Store :=
  ((handle lib bech32 fuel a.1 a.2).deliver s).map Prod.snd

theorem step_of_deliverMsg {lib : CryptoX509} {bech32 : Bech32} {fuel : ℕ} {s s' : Store}
    {a : Context × Msg} (h : deliverMsg lib bech32 fuel s a = some s') :
    (certificates lib bech32).step s a s' := by
  obtain ⟨⟨r, t⟩, hd, rfl⟩ := Option.map_eq_some_iff.mp h
  exact ⟨fuel, r, hd⟩

/-! ## A small ledger

The certificates and messages of the concrete runs in the later modules: a root, a certificate
issued under it, and a root of the same subject and key as that certificate. -/

/-- A certificate, by the bytes of its names and keys, valid from 0 to 100. -/
def exampleCert (issuer authorityKey subject subjectKey : Bytes) (serialNumber : ℤ) :
    ParsedCertificate :=
  ⟨[], issuer, subject, serialNumber, utf8 "CN=Example", subjectKey, authorityKey, 0, 100⟩

def exampleLib : CryptoX509 := .ofTable
  [("root", exampleCert [82] [1] [82] [1] 1), ("leaf", exampleCert [82] [1] [83] [2] 2),
    ("twin", exampleCert [83] [2] [83] [2] 3)]

def exampleContext : Context := ⟨Dclauth.exampleAccounts, 50⟩

def examplePropose (signer cert : String) : Context × Msg :=
  (exampleContext, .proposeAddX509RootCert ⟨signer, cert, "", 1⟩)

def exampleAdd (signer cert : String) : Context × Msg :=
  (exampleContext, .addX509Cert ⟨signer, cert, "", 1⟩)

/-- The message about the root (`"Ug=="`, `"01"`) or the other identifier (`"Uw=="`, `"02"`). -/
def exampleMsg (signer subject subjectKeyID : String) : MsgIdentifier :=
  ⟨signer, subject, subjectKeyID, "", 2⟩

def exampleApprove (signer subject subjectKeyID : String) : Context × Msg :=
  (exampleContext, .approveAddX509RootCert (exampleMsg signer subject subjectKeyID))

def exampleProposeRevoke (signer subject subjectKeyID : String) : Context × Msg :=
  (exampleContext, .proposeRevokeX509RootCert (exampleMsg signer subject subjectKeyID))

def exampleApproveRevoke (signer subject subjectKeyID : String) : Context × Msg :=
  (exampleContext, .approveRevokeX509RootCert (exampleMsg signer subject subjectKeyID))

def exampleRevoke (signer subject subjectKeyID : String) : Context × Msg :=
  (exampleContext, .revokeX509Cert (exampleMsg signer subject subjectKeyID))

/-- The root is proposed by one trustee and approved by another. -/
def exampleRoot : List (Context × Msg) :=
  [examplePropose "cosmos1one" "root", exampleApprove "cosmos1two" "Ug==" "01"]

/-- The root, and the certificate issued under it. -/
def exampleLeaf : List (Context × Msg) := exampleRoot ++ [exampleAdd "cosmos1vendor" "leaf"]

end ComplianceLedger.Pki
