import ComplianceLedger.Dclauth.Genesis
import ComplianceLedger.Pki.Effect
import ComplianceLedger.Pki.Kinds

/-!
# Export and import of the certificates

The ten kinds of records are exported as eight lists and two records that may be absent, and are set
again under keys computed from their own fields. Some updates write a record under a key that was
computed from a message and not from the record: a child is added under the issuer it names, to
whatever record is found there. What is found under a key has this key itself, so that the record goes
back to where it was, also if the message used another name with the same key.

## Main definitions

* `GenesisState`, `GenesisState.validate`: a genesis state and its check
* `initGenesis`, `exportGenesis`: import and export
* `imported lib bech32 gs`: the runs of a chain that starts from a genesis state

## Main results

* `own_effect`, `own_of_imported`: in every run all records lie under their own keys
* `validate_exportGenesis`, `initGenesis_exportGenesis`: an exported state passes its check, and comes
  back
-/

open Machine Machine.TransitionSystem

namespace ComplianceLedger.Pki

open Dclauth (checkIndexes checkIndexes_values)

/-! ## Records as they are -/

namespace Store

def setApprovedCertificates (approvedCertificates : ApprovedCertificates) (s : Store) : Store :=
  { s with
    approvedCertificates := s.approvedCertificates.set
      (approvedCertificatesKey approvedCertificates.subject approvedCertificates.subjectKeyId)
      approvedCertificates }

def setChildCertificates (childCertificates : ChildCertificates) (s : Store) : Store :=
  { s with
    childCertificates := s.childCertificates.set
      (childCertificatesKey childCertificates.issuer childCertificates.authorityKeyId)
      childCertificates }

def setRevokedCertificates (revokedCertificates : RevokedCertificates) (s : Store) : Store :=
  { s with
    revokedCertificates := s.revokedCertificates.set
      (revokedCertificatesKey revokedCertificates.subject revokedCertificates.subjectKeyId)
      revokedCertificates }

def setApprovedCertificatesBySubject (approved : ApprovedCertificatesBySubject) (s : Store) :
    Store :=
  { s with
    approvedCertificatesBySubject := s.approvedCertificatesBySubject.set
      (approvedCertificatesBySubjectKey approved.subject) approved }

def setApprovedRootCertificates (certs : List CertificateIdentifier) (s : Store) : Store :=
  { s with approvedRootCertificates := some certs }

def setRevokedRootCertificates (certs : List CertificateIdentifier) (s : Store) : Store :=
  { s with revokedRootCertificates := some certs }

theorem ext_records {s s' : Store} (h : ∀ kind, s.records kind = s'.records kind) : s = s' := by
  have hslot {o o' : Option (List CertificateIdentifier)}
      (ho : KVStore.slot Kind.rootCertificatesKey o = KVStore.slot Kind.rootCertificatesKey o') :
      o = o' := by
    have hget := congrArg (fun t => t.get Kind.rootCertificatesKey) ho
    simpa [KVStore.get_slot] using hget
  cases s
  cases s'
  rw [Store.mk.injEq]
  exact ⟨h .approvedCertificates, h .approvedCertificatesBySubject,
    hslot (h .approvedRootCertificates), h .childCertificates, h .proposedCertificate,
    h .proposedCertificateRevocation, h .rejectedCertificate, h .revokedCertificates,
    hslot (h .revokedRootCertificates), h .uniqueCertificate⟩

end Store

/-! ## Genesis states -/

/-- What a chain starts with. -/
structure GenesisState where
  approvedCertificatesList : List ApprovedCertificates
  proposedCertificateList : List ProposedCertificate
  childCertificatesList : List ChildCertificates
  proposedCertificateRevocationList : List ProposedCertificateRevocation
  revokedCertificatesList : List RevokedCertificates
  uniqueCertificateList : List UniqueCertificate
  approvedRootCertificates : Option (List CertificateIdentifier)
  revokedRootCertificates : Option (List CertificateIdentifier)
  approvedCertificatesBySubjectList : List ApprovedCertificatesBySubject
  rejectedCertificateList : List RejectedCertificate
deriving DecidableEq, Repr

namespace GenesisState

/-- The check of a genesis state: no two records of a kind have the same key. -/
def validate (gs : GenesisState) : Except String Unit := do
  checkIndexes (fun elem => .ok (Kind.key .approvedCertificates elem)) "approvedCertificates" []
    gs.approvedCertificatesList
  checkIndexes (fun elem => .ok (Kind.key .proposedCertificate elem)) "proposedCertificate" []
    gs.proposedCertificateList
  checkIndexes (fun elem => .ok (Kind.key .childCertificates elem)) "childCertificates" []
    gs.childCertificatesList
  checkIndexes (fun elem => .ok (Kind.key .proposedCertificateRevocation elem))
    "proposedCertificateRevocation" [] gs.proposedCertificateRevocationList
  checkIndexes (fun elem => .ok (Kind.key .revokedCertificates elem)) "revokedCertificates" []
    gs.revokedCertificatesList
  checkIndexes (fun elem => .ok (Kind.key .uniqueCertificate elem)) "uniqueCertificate" []
    gs.uniqueCertificateList
  checkIndexes (fun elem => .ok (Kind.key .approvedCertificatesBySubject elem))
    "approvedCertificatesBySubject" [] gs.approvedCertificatesBySubjectList
  checkIndexes (fun elem => .ok (Kind.key .rejectedCertificate elem)) "rejectedCertificate" []
    gs.rejectedCertificateList

/-- The list of a kind. -/
def records (gs : GenesisState) : (kind : Kind) → List kind.Record
  | .approvedCertificates => gs.approvedCertificatesList
  | .proposedCertificate => gs.proposedCertificateList
  | .childCertificates => gs.childCertificatesList
  | .proposedCertificateRevocation => gs.proposedCertificateRevocationList
  | .revokedCertificates => gs.revokedCertificatesList
  | .uniqueCertificate => gs.uniqueCertificateList
  | .approvedRootCertificates => gs.approvedRootCertificates.toList
  | .revokedRootCertificates => gs.revokedRootCertificates.toList
  | .approvedCertificatesBySubject => gs.approvedCertificatesBySubjectList
  | .rejectedCertificate => gs.rejectedCertificateList

end GenesisState

/-- The genesis state without records. -/
def defaultGenesis : GenesisState := ⟨[], [], [], [], [], [], none, none, [], []⟩

/-- Set what is defined. -/
def setIfDefined {α : Type} (set : α → Store → Store) (o : Option α) (s : Store) : Store :=
  match o with
  | some value => set value s
  | none => s

/-- Import a genesis state. -/
def initGenesis (gs : GenesisState) (s : Store) : Store :=
  let s := gs.approvedCertificatesList.foldl (fun s elem => s.setApprovedCertificates elem) s
  let s := gs.proposedCertificateList.foldl (fun s elem => s.setProposedCertificate elem) s
  let s := gs.childCertificatesList.foldl (fun s elem => s.setChildCertificates elem) s
  let s := gs.proposedCertificateRevocationList.foldl
    (fun s elem => s.setProposedCertificateRevocation elem) s
  let s := gs.revokedCertificatesList.foldl (fun s elem => s.setRevokedCertificates elem) s
  let s := gs.uniqueCertificateList.foldl (fun s elem => s.setUniqueCertificate elem) s
  let s := setIfDefined Store.setApprovedRootCertificates gs.approvedRootCertificates s
  let s := setIfDefined Store.setRevokedRootCertificates gs.revokedRootCertificates s
  let s := gs.approvedCertificatesBySubjectList.foldl
    (fun s elem => s.setApprovedCertificatesBySubject elem) s
  gs.rejectedCertificateList.foldl (fun s elem => s.setRejectedCertificate elem) s

/-- Export the store. -/
def exportGenesis (s : Store) : GenesisState where
  approvedCertificatesList := s.approvedCertificates.values
  proposedCertificateList := s.proposedCertificate.values
  childCertificatesList := s.childCertificates.values
  proposedCertificateRevocationList := s.proposedCertificateRevocation.values
  revokedCertificatesList := s.revokedCertificates.values
  uniqueCertificateList := s.uniqueCertificate.values
  approvedRootCertificates := s.approvedRootCertificates
  revokedRootCertificates := s.revokedRootCertificates
  approvedCertificatesBySubjectList := s.approvedCertificatesBySubject.values
  rejectedCertificateList := s.rejectedCertificate.values

/-- The runs of a chain that starts from a genesis state. -/
def imported (lib : CryptoX509) (bech32 : Bech32) (gs : GenesisState) :
    TransitionSystem Store (Context × Msg) where
  init := initGenesis gs Store.empty
  step := (certificates lib bech32).step

theorem isKey_key (kind : Kind) (elem : kind.Record) : kind.IsKey (kind.key elem) := by
  cases kind <;> trivial

/-- To set what is defined is to set the records of a list. -/
theorem setIfDefined_eq_foldl (kind : Kind) {set : kind.Record → Store → Store}
    (hset : ∀ elem s, set elem s = layout.setRecord Kind.key kind s elem) (o : Option kind.Record)
    (s : Store) : setIfDefined set o s = o.toList.foldl (layout.setRecord Kind.key kind) s := by
  cases o with
  | none => rfl
  | some elem => exact hset elem s

theorem setApprovedRootCertificates_eq (certs : List CertificateIdentifier) (s : Store) :
    s.setApprovedRootCertificates certs =
      layout.setRecord Kind.key .approvedRootCertificates s certs :=
  congrArg (fun o => ({ s with approvedRootCertificates := o } : Store))
    (KVStore.get_set_self (s.records .approvedRootCertificates) Kind.rootCertificatesKey certs).symm

theorem setRevokedRootCertificates_eq (certs : List CertificateIdentifier) (s : Store) :
    s.setRevokedRootCertificates certs =
      layout.setRecord Kind.key .revokedRootCertificates s certs :=
  congrArg (fun o => ({ s with revokedRootCertificates := o } : Store))
    (KVStore.get_set_self (s.records .revokedRootCertificates) Kind.rootCertificatesKey certs).symm

theorem initGenesis_eq_load (gs : GenesisState) (s : Store) :
    initGenesis gs s = layout.load Kind.key gs.records s := by
  have happroved := setIfDefined_eq_foldl .approvedRootCertificates setApprovedRootCertificates_eq
  have hrevoked := setIfDefined_eq_foldl .revokedRootCertificates setRevokedRootCertificates_eq
  unfold initGenesis
  dsimp only
  rw [happroved, hrevoked]
  rfl

theorem records_exportGenesis (s : Store) :
    (exportGenesis s).records = fun kind => (layout.records s kind).values := by
  funext kind
  cases kind
  case approvedRootCertificates => exact (KVStore.values_slot _ _).symm
  case revokedRootCertificates => exact (KVStore.values_slot _ _).symm
  all_goals rfl

/-! ## Own keys -/

section Own

variable {lib : CryptoX509} {bech32 : Bech32} {ctx : Context} {s s' : Store} {msg : Msg}

theorem own_empty : layout.Own Kind.key Store.empty := by
  intro kind
  cases kind <;> exact KVStore.All.empty

section Updates

variable (h : layout.Own Kind.key s)
include h

theorem own_setRecord (kind : Kind) (elem : kind.Record) :
    layout.Own Kind.key (s.putRecords kind ((s.records kind).set (kind.key elem) elem)) :=
  h.set isKey_key kind elem

theorem own_delete (kind : Kind) (k : Bytes) :
    layout.Own Kind.key (s.putRecords kind ((s.records kind).delete k)) :=
  h.delete isKey_key kind k

/-- The lists of roots have a key of their own. -/
theorem own_roots (approved revoked : Option (List CertificateIdentifier)) :
    layout.Own Kind.key
      { s with approvedRootCertificates := approved, revokedRootCertificates := revoked } := by
  intro kind
  cases kind
  case approvedRootCertificates => exact KVStore.all_slot _ _
  case revokedRootCertificates => exact KVStore.all_slot _ _
  all_goals exact h _

theorem own_addApprovedCertificate (cert : Certificate) :
    layout.Own Kind.key (s.addApprovedCertificate cert) :=
  let found := s.approvedFor cert.subject cert.subjectKeyId
  own_setRecord h .approvedCertificates { found with certs := found.certs ++ [cert] }

theorem own_addRevokedCertificates (approved : ApprovedCertificates) :
    layout.Own Kind.key (s.addRevokedCertificates approved) :=
  let found := s.revokedFor approved.subject approved.subjectKeyId
  own_setRecord h .revokedCertificates { found with certs := found.certs ++ approved.certs }

/-- The record that a child is added to is found under the key it is written to. -/
theorem own_addChildCertificate (issuer authorityKeyID : String) (certID : CertificateIdentifier) :
    layout.Own Kind.key (s.addChildCertificate issuer authorityKeyID certID) := by
  refine h.put (i := Kind.childCertificates) ?_ (isKey_key _)
  dsimp only
  split
  · exact h .childCertificates
  · refine (h .childCertificates).set ?_
    unfold Store.getChildCertificates
    cases hget : s.childCertificates.get (childCertificatesKey issuer authorityKeyID) with
    | none => rfl
    | some found =>
      have hfound := h .childCertificates _ _ hget
      exact hfound

theorem own_removeChildCertificate (issuer authorityKeyID : String)
    (certID : CertificateIdentifier) :
    layout.Own Kind.key (s.removeChildCertificate issuer authorityKeyID certID) := by
  refine h.put (i := Kind.childCertificates) ?_ (isKey_key _)
  dsimp only
  split
  · exact h .childCertificates
  · split
    · exact (h .childCertificates).set rfl
    · exact (h .childCertificates).delete _

theorem own_addApprovedCertificateBySubject (subject subjectKeyID : String) :
    layout.Own Kind.key (s.addApprovedCertificateBySubject subject subjectKeyID) := by
  refine h.put (i := Kind.approvedCertificatesBySubject) ?_ (isKey_key _)
  dsimp only
  split
  · exact h .approvedCertificatesBySubject
  · exact (h .approvedCertificatesBySubject).set rfl

theorem own_removeApprovedCertificateBySubject (subject subjectKeyID : String) :
    layout.Own Kind.key (s.removeApprovedCertificateBySubject subject subjectKeyID) := by
  refine h.put (i := Kind.approvedCertificatesBySubject) ?_ (isKey_key _)
  dsimp only
  split
  · exact h .approvedCertificatesBySubject
  · split
    · exact (h .approvedCertificatesBySubject).set rfl
    · exact (h .approvedCertificatesBySubject).delete _

theorem own_removeApprovedCertificates (subject subjectKeyID : String) :
    layout.Own Kind.key (s.removeApprovedCertificates subject subjectKeyID) :=
  own_delete h .approvedCertificates _

theorem own_revokeChild (certID : CertificateIdentifier) :
    layout.Own Kind.key (s.revokeChild certID) :=
  own_removeApprovedCertificateBySubject
    (own_removeApprovedCertificates (own_addRevokedCertificates h _) _ _) _ _

end Updates

theorem own_revokeChildCertificates {fuel : ℕ} {issuer authorityKeyID : String}
    (h : layout.Own Kind.key s)
    (ht : revokeChildCertificates fuel issuer authorityKeyID s = some s') :
    layout.Own Kind.key s' := by
  rw [revokeChildCertificates_eq_cascade] at ht
  refine cascade_rel (R := fun s t => layout.Own Kind.key s → layout.Own Kind.key t) ?_ ?_ ?_ ?_ ht h
  · exact fun _ h => h
  · exact fun h₁ h₂ h => h₂ (h₁ h)
  · exact fun certID s h => own_revokeChild h certID
  · exact fun k s h => own_delete h .childCertificates k

/-- **A message leaves every record under its own key**, whatever identifiers it names. -/
theorem own_effect (h : layout.Own Kind.key s) (he : Effect lib bech32 ctx s msg s') :
    layout.Own Kind.key s' := by
  cases he with
  | refused => exact h
  | proposed =>
    exact own_setRecord (own_delete (own_setRecord h .proposedCertificate _) .rejectedCertificate _)
      .uniqueCertificate ⟨_, _, true⟩
  | approved => exact own_setRecord h .proposedCertificate _
  | activated cert =>
    have hadded := own_delete (own_addApprovedCertificate h cert) .proposedCertificate
    exact own_addApprovedCertificateBySubject (own_roots (hadded _) _ _) _ _
  | rejected => exact own_setRecord h .proposedCertificate _
  | discarded record =>
    exact own_delete (own_delete (own_setRecord h .rejectedCertificate record)
      .proposedCertificate _) .uniqueCertificate _
  | added cert =>
    have hadded := own_addChildCertificate (own_addApprovedCertificate h cert) cert.issuer
      cert.authorityKeyId cert.certID
    exact own_addApprovedCertificateBySubject
      (own_setRecord hadded .uniqueCertificate ⟨_, _, true⟩) _ _
  | revocationProposed => exact own_setRecord h .proposedCertificateRevocation ⟨_, _, _⟩
  | revocationApproved => exact own_setRecord h .proposedCertificateRevocation _
  | rootRevoked approvals t vote happrovals count certs ht =>
    have hcascaded := own_revokeChildCertificates
      (own_removeApprovedCertificates (own_addRevokedCertificates h _) _ _) ht
    exact own_removeApprovedCertificateBySubject
      (own_roots (own_delete hcascaded .proposedCertificateRevocation _) _ _) _ _
  | revoked t found certs hnot owner ht =>
    have hcascaded := own_revokeChildCertificates (own_removeChildCertificate
      (own_removeApprovedCertificates (own_addRevokedCertificates h _) _ _) _ _ _) ht
    exact own_removeApprovedCertificateBySubject hcascaded _ _

theorem own_of_imported {gs : GenesisState} (h : (imported lib bech32 gs).Reachable s) :
    layout.Own Kind.key s := by
  refine h.invariant ?_ fun {s a s'} hs hstep => ?_
  · change layout.Own Kind.key (initGenesis gs Store.empty)
    rw [initGenesis_eq_load]
    exact layout.own_load isKey_key (by decide) gs.records own_empty
  · have hstep' : (certificates lib bech32).step s a s' := hstep
    exact own_effect hs (step_effect hstep')

end Own

/-! ## The round trip -/

section RoundTrip

variable {s : Store} (h : layout.Own Kind.key s)
include h

/-- An exported state passes its check. -/
theorem validate_exportGenesis : (exportGenesis s).validate = .ok () := by
  have hkind (kind : Kind) (name : String) :
      checkIndexes (fun elem => .ok (kind.key elem)) name [] (s.records kind).values = .ok () :=
    checkIndexes_values name (h kind) fun _ _ _ => rfl
  have happroved := hkind .approvedCertificates "approvedCertificates"
  have hproposed := hkind .proposedCertificate "proposedCertificate"
  have hchild := hkind .childCertificates "childCertificates"
  have hrevocation := hkind .proposedCertificateRevocation "proposedCertificateRevocation"
  have hrevoked := hkind .revokedCertificates "revokedCertificates"
  have hunique := hkind .uniqueCertificate "uniqueCertificate"
  have hsubject := hkind .approvedCertificatesBySubject "approvedCertificatesBySubject"
  have hrejected := hkind .rejectedCertificate "rejectedCertificate"
  simp only [Store.records] at happroved hproposed hchild hrevocation hrevoked hunique hsubject hrejected
  simp only [GenesisState.validate, exportGenesis, happroved, hproposed, hchild, hrevocation, hrevoked,
    hunique, hsubject, hrejected]
  rfl

/-- **An exported state comes back.** -/
theorem initGenesis_exportGenesis : initGenesis (exportGenesis s) Store.empty = s := by
  rw [initGenesis_eq_load, records_exportGenesis]
  apply Store.ext_records
  refine layout.records_load_values isKey_key (by decide) h ?_
  intro kind
  cases kind <;> rfl

end RoundTrip

end ComplianceLedger.Pki
