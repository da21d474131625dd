import ComplianceLedger.Catalog.Effect
import ComplianceLedger.Machine.Concurrence
import ComplianceLedger.Pki.Clocks

/-!
# Replicas agree

The nodes of the ledger execute the same steps in the same order. They have to reach the same state, and
to answer every message alike, since the hash of the next block depends on both. Each node executes a
step at a time of its own, and the handlers that verify certificates read the clock of the node. The
clock counts only by the certificates that are valid at its time, and only those that some message has
brought: so nodes agree whose clocks are on the same side of the beginnings and the ends of their
validity.

## Main definitions

* `Pki.SameTime lib certs now now'`: the same certificates are valid at both times
* `Pki.Known known s`: the certificates of the store are known
* `SameStep clocks act act'`: the same step, at two readings that `clocks` relates

## Main results

* `Pki.concur_handle`: two nodes concur on a message about certificates
* `concur_handle`: two nodes concur on a step
* `replicas_agree`: nodes that execute the same steps reach the same state, and answer alike
-/

open Machine Machine.Handler Machine.TransitionSystem

/-! ## Certificates -/

namespace ComplianceLedger.Pki

/-- The certificate that a message brings. -/
def Msg.certificate : Msg → Option String
  | .proposeAddX509RootCert msg | .addX509Cert msg => some msg.cert
  | _ => none

/-- The same of these certificates are valid at both times. -/
def SameTime (lib : CryptoX509) (certs : List String) (now now' : ℤ) : Prop :=
  ∀ pemCert ∈ certs, ∀ x, decodeX509Certificate lib pemCert = .ok x →
    (x.certificate.ValidAt now ↔ x.certificate.ValidAt now')

/-- The proposed and the approved certificates are known. -/
structure Known (known : String → Prop) (s : Store) : Prop where
  proposed : s.proposedCertificate.All fun _ proposed => known proposed.pemCert
  approved : ∀ k, ∀ cert ∈ s.approvedCerts k, known cert.pemCert

/-- The library of a table reads the clock for validity only. -/
theorem readsClockForValidity_ofTable (table : List (String × ParsedCertificate)) :
    (CryptoX509.ofTable table).ReadsClockForValidity := by
  intro now now' c root hc hroot
  unfold ParsedCertificate.ValidAt at hc hroot
  simp only [CryptoX509.ofTable, hc, hroot]

section Known

variable {lib : CryptoX509} {bech32 : Bech32} {ctx : Context} {s s' : Store} {msg : Msg}
  {known : String → Prop}

theorem Known.empty : Known known Store.empty := ⟨.empty, fun _ _ h => nomatch h⟩

theorem Known.revocation (h : Known known s) {k : Bytes} {f : Certificate → Certificate}
    (hrev : Revocation k f s s') : Known known s' :=
  ⟨hrev.proposed ▸ h.proposed, fun k' cert hcert => h.approved k' cert (hrev.mem_approvedCerts hcert)⟩

/-- **Certificates come with messages**: a message leaves no certificates but those that were known and
its own. -/
theorem Known.step (h : Known known s) (hrecords : Records lib s)
    (he : Effect lib bech32 ctx s msg s') (hmsg : ∀ pemCert ∈ msg.certificate, known pemCert) :
    Known known s' := by
  cases he with
  | refused => exact h
  | proposed => exact { h with proposed := h.proposed.set (hmsg _ rfl) }
  | approved hvote | rejected hvote =>
    have hfound := h.proposed _ _ hvote.proposal
    exact { h with proposed := h.proposed.set hfound }
  | discarded => exact { h with proposed := h.proposed.delete _ }
  | activated cert hvote _ hcert =>
    have hfound := h.proposed _ _ hvote.proposal
    obtain ⟨⟨x, hreads⟩, -, -⟩ := hvote.reads_cert hrecords hcert
    refine { h with proposed := h.proposed.delete _, approved := fun k c hc => ?_ }
    rcases (hrecords.mem_addApprovedCertificate hreads).mp hc with hold | ⟨rfl, rfl⟩
    · exact h.approved k c hold
    · rw [hcert]
      exact hfound
  | @added m x fuel root cert hdecode hnot _ _ _ hcert =>
    subst hcert
    refine { h with approved := fun k c hc => ?_ }
    rcases (hrecords.mem_addApprovedCertificate (reads_certificateOf root hdecode hnot)).mp hc with
      hold | ⟨rfl, rfl⟩
    · exact h.approved k c hold
    · exact hmsg _ rfl
  | revocationProposed | revocationApproved => exact { h with }
  | rootRevoked approvals t _ _ _ hget ht =>
    obtain ⟨-, hrev, -⟩ := revocation_of_rootRevoked hrecords hget ht
    exact { h.revocation hrev with }
  | revoked t hget _ _ _ ht =>
    obtain ⟨-, hrev, -⟩ := revocation_of_revoked hrecords hget ht
    exact { h.revocation hrev with }

end Known

section Concur

variable {lib : CryptoX509} {bech32 : Bech32} {accounts : Dclauth.AccountStore} {s : Store} {msg : Msg}
  {now now' : ℤ} {fuel fuel' : ℕ}

/-- Two searches that return, return the same. -/
theorem verifyCertificate_unique (hlib : lib.ReadsClockForValidity) (hsame : SameValidity lib s now now')
    {x : X509Certificate} (hx : x.certificate.ValidAt now ↔ x.certificate.ValidAt now')
    {r r' : Except SdkError (String × String)} (h : verifyCertificate lib now s fuel x = some r)
    (h' : verifyCertificate lib now' s fuel' x = some r') : r = r' := by
  rw [verifyCertificate_congr hlib hsame hx] at h
  exact eq_of_fuel (fun m n r hle => verifyCertificate_mono hle) h h'

/-- Two revocations of children that return, return the same. -/
theorem concur_revokeChildCertificates (issuer authorityKeyID : String) (s : Store) :
    Concur (transform (revokeChildCertificates fuel issuer authorityKeyID) : Handler SdkError Store Unit)
      (transform (revokeChildCertificates fuel' issuer authorityKeyID)) s := by
  have hmono : ∀ m n t, m ≤ n → revokeChildCertificates m issuer authorityKeyID s = some t →
      revokeChildCertificates n issuer authorityKeyID s = some t := by
    intro m n t hle ht
    rw [revokeChildCertificates_eq_cascade] at ht ⊢
    exact cascade_mono hle ht
  exact concur_transform fun t t' => eq_of_fuel hmono

/-- **Two nodes concur on a message about certificates**, if the approved certificates and that of the
message are valid for both or for neither. -/
theorem concur_handle (hlib : lib.ReadsClockForValidity) (hsame : SameValidity lib s now now')
    (hmsg : SameTime lib msg.certificate.toList now now') :
    Concur (handle lib bech32 fuel ⟨accounts, now⟩ msg) (handle lib bech32 fuel' ⟨accounts, now'⟩ msg)
      s := by
  cases msg with
  | proposeAddX509RootCert msg =>
    refine (readOnly_ofExcept _).concur_bind fun x hdecode => ?_
    have hx := hmsg msg.cert (by simp [Msg.certificate]) x
      (decodeCert_eq_ok_iff.mp (ofExcept_ok_iff.mp hdecode).1)
    -- the checks in front of the verification read no clock, and leave the store as it is
    refine (readOnly_failIf _ _).concur_bind fun _ _ => concur_read_bind ?_
    refine (readOnly_failIf _ _).concur_bind fun _ _ => concur_read_bind ?_
    refine (readOnly_failIf _ _).concur_bind fun _ _ => concur_read_bind ?_
    refine Concur.bind (concur_ofOption fun r r' h h' => ?_) fun _ t _ => .refl _ t
    exact verifyCertificate_unique hlib hsame hx h h'
  | addX509Cert msg =>
    refine (readOnly_ofExcept _).concur_bind fun x hdecode => ?_
    have hx := hmsg msg.cert (by simp [Msg.certificate]) x
      (decodeCert_eq_ok_iff.mp (ofExcept_ok_iff.mp hdecode).1)
    refine (readOnly_failIf _ _).concur_bind fun _ _ => concur_read_bind ?_
    refine (readOnly_failIf _ _).concur_bind fun _ _ => concur_read_bind ?_
    refine (readOnly_ofExcept _).concur_bind fun _ _ => concur_read_bind ?_
    refine Concur.bind (concur_ofOption fun r r' h h' => ?_) fun _ t _ => .refl _ t
    exact verifyCertificate_unique hlib hsame hx h h'
  | approveRevokeX509RootCert msg =>
    refine concur_bind fun _ _ => concur_bind fun _ _ => concur_bind fun _ _ => ?_
    dsimp only
    split
    · -- of a revocation only the walk through the children depends on the fuel
      refine concur_bind fun _ _ => concur_bind fun _ _ => concur_bind fun _ t => ?_
      exact (concur_revokeChildCertificates _ _ t).bind fun _ t _ => .refl _ t
    · exact .refl _ _
  | revokeX509Cert msg =>
    refine concur_bind fun _ _ => concur_bind fun _ _ => concur_bind fun _ _ => concur_bind fun _ _ => ?_
    refine concur_bind fun _ _ => concur_bind fun _ _ => concur_bind fun _ t => ?_
    exact (concur_revokeChildCertificates _ _ t).bind fun _ t _ => .refl _ t
  | approveAddX509RootCert | rejectAddX509RootCert | proposeRevokeX509RootCert => exact .refl _ s

end Concur

end ComplianceLedger.Pki

/-! ## Steps -/

namespace ComplianceLedger.Catalog

/-- The certificate that a step brings. -/
def Act.certificate : Act → Option String
  | .chain (.pki _ msg) => msg.certificate
  | _ => none

/-- The same step on two nodes: only the clock that a message about certificates is executed at may be
another, of a related reading. -/
inductive SameStep (clocks : ℤ → ℤ → Prop) : Act → Act → Prop
  | pki {now now' : ℤ} (msg : Pki.Msg) (h : clocks now now') :
      SameStep clocks (.chain (.pki now msg)) (.chain (.pki now' msg))
  | refl (act : Act) : SameStep clocks act act

section Steps

variable {env : Env} {genesis : List Dclauth.Account} {st st' : State} {act act' : Act}
  {acts acts' : List Act} {certs : List String} {clocks : ℤ → ℤ → Prop} {fuel fuel' : ℕ}

theorem SameStep.certificate_eq (h : SameStep clocks act act') : act'.certificate = act.certificate := by
  cases h <;> rfl

theorem certificates_of_sameStep (h : List.Forall₂ (SameStep clocks) acts acts') :
    acts'.filterMap Act.certificate = acts.filterMap Act.certificate := by
  induction h with
  | nil => rfl
  | cons hfirst _ ih => rw [List.filterMap_cons, List.filterMap_cons, hfirst.certificate_eq, ih]

/-- The certificates of a run are those that its steps have brought. -/
theorem known_of_reachable (h : ((env.runs genesis).restrict fun _ act =>
      ∀ pemCert ∈ act.certificate, pemCert ∈ certs).Reachable st) :
    Pki.Known (· ∈ certs) st.chain.pki := by
  refine h.induction (P := fun st => Pki.Known (· ∈ certs) st.chain.pki) .empty ?_
  rintro st act st' hr hst ⟨hstep, hcerts⟩
  have hconsistent := consistent_of_reachable hr.of_restrict
  cases effect_of_step hr.of_restrict hstep with
  | pki heffect => exact hst.step hconsistent.pki.records heffect hcerts
  | auth | writeBack | validator | upgrade | evidence | endBlock => exact hst
  | other hchain => exact hchain ▸ hst

/-- **Two nodes concur on a step**: the certificates are the only records that depend on the clock. -/
theorem concur_handle (hlib : env.lib.ReadsClockForValidity)
    (hknown : Pki.Known (· ∈ certs) st.chain.pki)
    (hsame : SameStep (Pki.SameTime env.lib certs) act act')
    (hcerts : ∀ pemCert ∈ act.certificate, pemCert ∈ certs) :
    Concur (handle env fuel act) (handle env fuel' act') st := by
  have hpki : ∀ {now now' msg}, Pki.SameTime env.lib certs now now' →
      (∀ pemCert ∈ (Act.chain (.pki now msg)).certificate, pemCert ∈ certs) →
      Concur (handle env fuel (.chain (.pki now msg))) (handle env fuel' (.chain (.pki now' msg)))
        st := by
    intro now now' msg hclocks hcerts
    have hvalid : Pki.SameValidity env.lib st.chain.pki now now' := fun k cert hcert =>
      hclocks cert.pemCert (hknown.approved k cert hcert)
    have hown : Pki.SameTime env.lib msg.certificate.toList now now' := fun pemCert hpem =>
      hclocks pemCert (hcerts pemCert (Option.mem_toList.mp hpem))
    have hconcur : Concur (Pki.handle env.lib env.addr.acc fuel ⟨st.accounts, now⟩ msg)
        (Pki.handle env.lib env.addr.acc fuel' ⟨st.accounts, now'⟩ msg) st.chain.pki :=
      Pki.concur_handle hlib hvalid hown
    intro r r' hr hr'
    rw [handle] at hr hr'
    exact Concur.focus (s := st) hconcur r r' hr hr'
  cases hsame with
  | pki msg hclocks => exact hpki hclocks hcerts
  | refl =>
    rcases act with act | msg | msg | msg
    · cases act with
      | pki now msg => exact hpki (fun _ _ _ _ => Iff.rfl) hcerts
      -- the other steps read neither the clock nor the fuel
      | auth | writeBack | validator | upgrade | evidence | endBlock => exact concur_of_eq rfl
    · exact concur_of_eq rfl
    · exact concur_of_eq rfl
    · exact concur_of_eq rfl

/-- **Replicas agree.** Two nodes start from a genesis of the same accounts and execute the same steps,
each at the times that its own clock shows. If every certificate that the steps bring is valid for both
clocks or for neither, whenever a step is executed, then the nodes reach the same state, and there they
answer the next step alike, with the same stores, however much fuel each of them needs. -/
theorem replicas_agree (hlib : env.lib.ReadsClockForValidity) (h : (env.runs genesis).Run acts st)
    (h' : (env.runs genesis).Run acts' st')
    (hsame : List.Forall₂ (SameStep (Pki.SameTime env.lib (acts.filterMap Act.certificate)))
      acts acts') :
    st = st' ∧ ∀ act act' fuel fuel' answer answer',
      SameStep (Pki.SameTime env.lib ((acts ++ [act]).filterMap Act.certificate)) act act' →
      (handle env fuel act).deliver st = some answer →
      (handle env fuel' act').deliver st' = some answer' → answer = answer' := by
  have hcerts : ∀ act ∈ acts, ∀ pemCert ∈ act.certificate,
      pemCert ∈ acts.filterMap Act.certificate :=
    fun act hact pemCert hcert => List.mem_filterMap.mpr ⟨act, hact, hcert⟩
  -- both nodes see the same certificates, so both runs stay within those of the first
  have hcerts' : ∀ act ∈ acts', ∀ pemCert ∈ act.certificate,
      pemCert ∈ acts.filterMap Act.certificate := by
    intro act hact pemCert hcert
    rw [← certificates_of_sameStep hsame]
    exact List.mem_filterMap.mpr ⟨act, hact, hcert⟩
  have hstates : st = st' := by
    refine Run.lockstep ?_ (h.restrict_of_forall hcerts) (h'.restrict_of_forall hcerts') hsame
    rintro s act act' s₁ s₂ hreachable hsame ⟨hstep, hact⟩ ⟨hstep', -⟩
    obtain ⟨fuel, r, hd⟩ := step_iff.mp hstep
    obtain ⟨fuel', r', hd'⟩ := step_iff.mp hstep'
    have hconcur : Concur (handle env fuel act) (handle env fuel' act') s :=
      concur_handle hlib (known_of_reachable hreachable) hsame hact
    exact (Prod.mk.inj (hconcur.deliver hd hd')).2
  subst hstates
  refine ⟨rfl, fun act act' fuel fuel' answer answer' hnext hd hd' => ?_⟩
  have hmem : ∀ {a}, a ∈ acts ++ [act] → ∀ pemCert ∈ a.certificate,
      pemCert ∈ (acts ++ [act]).filterMap Act.certificate :=
    fun ha pemCert hcert => List.mem_filterMap.mpr ⟨_, ha, hcert⟩
  have hknown : Pki.Known (· ∈ (acts ++ [act]).filterMap Act.certificate) st.chain.pki :=
    known_of_reachable ⟨acts, h.restrict_of_forall fun a ha => hmem (List.mem_append_left _ ha)⟩
  exact (concur_handle hlib hknown hnext (hmem (by simp))).deliver hd hd'

end Steps

/-- Two trustees approve a root, and the vendor adds a certificate of it, all at one time of a clock. -/
def exampleCertificates (now : ℤ) : List Act :=
  [.chain (.pki now (.proposeAddX509RootCert ⟨"cosmos1one", "root", "", 1⟩)),
    .chain (.pki now (.approveAddX509RootCert (Pki.exampleMsg "cosmos1two" "Ug==" "01"))),
    .chain (.pki now (.addX509Cert ⟨"cosmos1vendor", "leaf", "", 1⟩))]

/-- The certificates of the example are valid from 0 to 100, so clocks that show 50 and 60 agree. -/
theorem example_replicas : ∃ st st', (exampleEnv.runs exampleAccounts).Run (exampleCertificates 50) st ∧
    (exampleEnv.runs exampleAccounts).Run (exampleCertificates 60) st' ∧
    (st'.chain.pki.getApprovedCertificates "Uw==" "02").isSome ∧ st = st' := by
  obtain ⟨st, hrun, -⟩ := exists_run_of_foldlM (T := exampleEnv.runs exampleAccounts)
    (p := fun _ => true) exampleNext (fun h => (step_of_exampleNext h).1) (exampleCertificates 50)
    (by decide +kernel)
  obtain ⟨st', hrun', hp⟩ := exists_run_of_foldlM (T := exampleEnv.runs exampleAccounts)
    (p := fun st => (st.chain.pki.getApprovedCertificates "Uw==" "02").isSome)
    exampleNext (fun h => (step_of_exampleNext h).1) (exampleCertificates 60) (by decide +kernel)
  have hlib : exampleEnv.lib.ReadsClockForValidity := Pki.readsClockForValidity_ofTable _
  refine ⟨st, st', hrun, hrun', hp, (replicas_agree hlib hrun hrun' ?_).1⟩
  have hvalid : ∀ pemCert ∈ (exampleCertificates 50).filterMap Act.certificate,
      (Pki.decodeX509Certificate Pki.exampleLib pemCert).toOption.all (fun x =>
        x.certificate.notBefore = 0 ∧ x.certificate.notAfter = 100) = true := by
    decide +kernel
  have hclocks : Pki.SameTime exampleEnv.lib ((exampleCertificates 50).filterMap Act.certificate)
      50 60 := by
    intro pemCert hcert x hx
    have hspan := hvalid pemCert hcert
    rw [show Pki.decodeX509Certificate Pki.exampleLib pemCert = .ok x from hx] at hspan
    obtain ⟨hbefore, hafter⟩ := of_decide_eq_true hspan
    simp [Pki.ParsedCertificate.ValidAt, hbefore, hafter]
  exact .cons (.pki _ hclocks) (.cons (.pki _ hclocks) (.cons (.pki _ hclocks) .nil))

end ComplianceLedger.Catalog
