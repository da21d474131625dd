import ComplianceLedger.Machine.Replica
import ComplianceLedger.Pki.Termination

/-!
# Clocks

The handlers that verify a chain read the clock of the node they run on: the standard library checks
the validity of certificates at the local time. Two nodes can then obtain different results from one
message on one store. They do so exactly for the messages that can succeed: no certificate verifies
before the start of its validity, so that a message with a chain at some time has none at another.

## Main definitions

* `node lib bech32 accounts msg`: the handler of a message on a node, by the reading of its clock
* `Examined lib s msg x`: the checks in front of the verification accept the certificate `x`
* `Cleared bech32 s msg x`: the checks behind the verification accept it

## Main results

* `clocks_agree_iff`: when all clocks give one outcome
* `outcome_of_same_validity`: the clock counts only by the certificates that are valid
-/

open Machine Machine.Handler Machine.TransitionSystem

namespace ComplianceLedger.Pki

section Definitions

variable (lib : CryptoX509) (bech32 : Bech32) (accounts : Dclauth.AccountStore) (s : Store)

/-- The handler of a message on a node whose clock shows `now`. -/
def node (msg : Msg) (now : ℤ) (fuel : ℕ) : Handler SdkError Store Unit :=
  handle lib bech32 fuel ⟨accounts, now⟩ msg

/-- The checks in front of the verification accept the certificate of the message. -/
def Examined : Msg → X509Certificate → Prop
  | .proposeAddX509RootCert m, x => decodeX509Certificate lib m.cert = .ok x ∧
      x.isSelfSigned = true ∧ s.isProposedCertificatePresent x.subject x.subjectKeyID = false ∧
      s.isUniqueCertificatePresent x.issuer x.serialNumber = false
  | .addX509Cert m, x => decodeX509Certificate lib m.cert = .ok x ∧ x.isSelfSigned = false ∧
      s.isUniqueCertificatePresent x.issuer x.serialNumber = false ∧
      FirstApproved s x.subject x.subjectKeyID fun first =>
        (first.isRoot = false ∧ x.issuer = first.issuer ∧ x.authorityKeyID = first.authorityKeyId) ∧
          m.signer = first.owner
  | _, _ => False

/-- The checks behind the verification accept the certificate of the message. -/
def Cleared : Msg → X509Certificate → Prop
  | .proposeAddX509RootCert m, x => (FirstApproved s x.subject x.subjectKeyID fun first =>
      first.isRoot = true ∧ m.signer = first.owner) ∧
      ∃ addr, bech32.accAddressFromBech32 m.signer = .ok addr
  | .addX509Cert _, _ => True
  | _, _ => False

/-- Both outcomes are successes or both are errors, with the same store. -/
def SameKind (o o' : Except SdkError Unit × Store) : Prop :=
  o.1.isOk = o'.1.isOk ∧ o.2 = o'.2

/-- A message is refused in front of the verification, whatever the clock shows. -/
def Refused (msg : Msg) : Prop :=
  (∀ x, ¬ Examined lib s msg x) ∧ Refuses (node lib bech32 accounts msg) s

/-- A message is decided by the verification of the certificate `x`: the handler then succeeds, or
returns an error of another kind than that of the verification. -/
def Decided (msg : Msg) (x : X509Certificate) : Prop :=
  Examined lib s msg x ∧ ∃ go : String × String → Except SdkError Unit × Store,
    Consults (node lib bech32 accounts msg) s
        (fun now fuel => verifyCertificate lib now s fuel x) go ∧
      ((Cleared bech32 s msg x ∧ ∀ root, (go root).1 = .ok ()) ∨
        (¬ Cleared bech32 s msg x ∧ ∃ e, e.registered ≠ errInvalidCertificate ∧
          ∀ root, go root = (.error e, s)))

end Definitions

variable {lib : CryptoX509} {bech32 : Bech32} {accounts : Dclauth.AccountStore} {s : Store}
  {msg : Msg} {m : MsgCert} {x : X509Certificate}

/-! ## The handlers -/

theorem examined_unique {x' : X509Certificate} (h : Examined lib s msg x)
    (h' : Examined lib s msg x') : x = x' := by
  cases msg with
  | proposeAddX509RootCert m => exact Except.ok.inj (h.1.symm.trans h'.1)
  | addX509Cert m => exact Except.ok.inj (h.1.symm.trans h'.1)
  | _ => exact h.elim

theorem registered_of_checkExisting {existing : Option ApprovedCertificates} {signer : String}
    {differs : Certificate → Bool} {e : SdkError}
    (h : checkExisting existing x signer differs = .error e) :
    e.registered ≠ errInvalidCertificate := by
  unfold checkExisting firstCert at h
  rcases existing with - | ⟨subject, subjectKeyId, - | ⟨first, rest⟩⟩
  · cases h
  · obtain rfl := Except.error.inj h
    decide
  · dsimp only at h
    split at h
    · obtain rfl := Except.error.inj h
      change errUnauthorized ≠ errInvalidCertificate
      decide
    · split at h
      · obtain rfl := Except.error.inj h
        change errUnauthorized ≠ errInvalidCertificate
        decide
      · cases h

theorem registered_of_signer {signer : String} {e : SdkError}
    (h : bech32.signer signer = .error e) : e.registered ≠ errInvalidCertificate := by
  unfold Bech32.signer at h
  split at h
  · cases h
  · obtain rfl := Except.error.inj h
    change errInvalidAddress ≠ errInvalidCertificate
    decide

/-- A message whose certificate was decoded and is then refused by a check is refused. -/
theorem refused_of_refuses (hx : decodeX509Certificate lib m.cert = .ok x)
    (hmsg : msg = .proposeAddX509RootCert m ∨ msg = .addX509Cert m)
    (href : Refuses (node lib bech32 accounts msg) s) (hnot : ¬ Examined lib s msg x) :
    Refused lib bech32 accounts s msg := by
  refine ⟨fun x' hx' => hnot ?_, href⟩
  -- there is no other certificate that could be examined
  rcases hmsg with rfl | rfl
  · obtain rfl := Except.ok.inj (hx'.1.symm.trans hx)
    exact hx'
  · obtain rfl := Except.ok.inj (hx'.1.symm.trans hx)
    exact hx'

/-- A message to add a certificate is refused by its checks, or decided by the verification. -/
theorem refused_or_decided_addX509Cert (m : MsgCert) :
    Refused lib bech32 accounts s (.addX509Cert m) ∨
      ∃ x, Decided lib bech32 accounts s (.addX509Cert m) x := by
  rcases refuses_or_of_ofExcept (h := node lib bech32 accounts (.addX509Cert m)) (s := s)
      fun _ _ => rfl with ⟨⟨e, hdecode⟩, href⟩ | ⟨x, hdecode, heq⟩
  · refine Or.inl ⟨fun x hx => ?_, href⟩
    rw [decodeCert_eq_ok_iff.mpr hx.1] at hdecode
    cases hdecode
  have hx := decodeCert_eq_ok_iff.mp hdecode
  rcases refuses_or_of_failIf heq with ⟨hself, href⟩ | ⟨hself, heq⟩
  · refine Or.inl (refused_of_refuses hx (Or.inr rfl) href ?_)
    rintro ⟨-, hnot, -⟩
    simp [hself] at hnot
  rcases refuses_or_of_failIf fun n fuel => (heq n fuel).trans deliver_read_bind with
    ⟨hunique, href⟩ | ⟨hunique, heq⟩
  · refine Or.inl (refused_of_refuses hx (Or.inr rfl) href ?_)
    rintro ⟨-, -, hfree, -⟩
    simp [hunique] at hfree
  rcases refuses_or_of_ofExcept fun n fuel => (heq n fuel).trans deliver_read_bind with
    ⟨⟨e, hexisting⟩, href⟩ | ⟨u, hexisting, heq⟩
  · refine Or.inl (refused_of_refuses hx (Or.inr rfl) href ?_)
    rintro ⟨-, -, -, hfirst⟩
    rw [(checkExisting_cert_iff (u := ())).mpr hfirst] at hexisting
    cases hexisting
  refine Or.inr ⟨x, ⟨hx, by simpa using hself, by simpa using hunique,
    checkExisting_cert_iff.mp hexisting⟩, ?_⟩
  obtain ⟨go, hgo, hok⟩ := exists_consults (P := fun o => o.1 = .ok ())
    (fun n fuel => (heq n fuel).trans deliver_read_bind) fun root => ⟨_, rfl, rfl⟩
  exact ⟨go, hgo, Or.inl ⟨trivial, hok⟩⟩

/-- A message to propose a root is refused by its checks, or decided by the verification. -/
theorem refused_or_decided_proposeAddX509RootCert (m : MsgCert) :
    Refused lib bech32 accounts s (.proposeAddX509RootCert m) ∨
      ∃ x, Decided lib bech32 accounts s (.proposeAddX509RootCert m) x := by
  rcases refuses_or_of_ofExcept (h := node lib bech32 accounts (.proposeAddX509RootCert m)) (s := s)
      fun _ _ => rfl with ⟨⟨e, hdecode⟩, href⟩ | ⟨x, hdecode, heq⟩
  · refine Or.inl ⟨fun x hx => ?_, href⟩
    rw [decodeCert_eq_ok_iff.mpr hx.1] at hdecode
    cases hdecode
  have hx := decodeCert_eq_ok_iff.mp hdecode
  rcases refuses_or_of_failIf heq with ⟨hself, href⟩ | ⟨hself, heq⟩
  · refine Or.inl (refused_of_refuses hx (Or.inl rfl) href ?_)
    rintro ⟨-, hroot, -⟩
    simp [hself] at hroot
  rcases refuses_or_of_failIf fun n fuel => (heq n fuel).trans deliver_read_bind with
    ⟨hproposed, href⟩ | ⟨hproposed, heq⟩
  · refine Or.inl (refused_of_refuses hx (Or.inl rfl) href ?_)
    rintro ⟨-, -, hfree, -⟩
    simp [hproposed] at hfree
  rcases refuses_or_of_failIf fun n fuel => (heq n fuel).trans deliver_read_bind with
    ⟨hunique, href⟩ | ⟨hunique, heq⟩
  · refine Or.inl (refused_of_refuses hx (Or.inl rfl) href ?_)
    rintro ⟨-, -, -, hfree⟩
    simp [hunique] at hfree
  refine Or.inr ⟨x, ⟨hx, by simpa using hself, by simpa using hproposed, by simpa using hunique⟩, ?_⟩
  have hask := fun n fuel => (heq n fuel).trans deliver_read_bind
  -- what follows the verification reads the accounts of the context, and not its clock
  dsimp +instances only [id_eq] at hask
  cases hexisting : checkExisting (s.getApprovedCertificates x.subject x.subjectKeyID) x m.signer
      fun first => !first.isRoot with
  | error e =>
    obtain ⟨go, hgo, herror⟩ := exists_consults (P := fun o => o = (.error e, s)) hask fun root => by
      rw [deliver_read_bind, deliver_ofExcept_bind, hexisting]
      exact ⟨_, rfl, rfl⟩
    refine ⟨go, hgo, Or.inr ⟨?_, e, registered_of_checkExisting hexisting, herror⟩⟩
    rintro ⟨hfirst, -⟩
    rw [(checkExisting_root_iff (u := ())).mpr hfirst] at hexisting
    cases hexisting
  | ok u =>
    cases hsigner : bech32.signer m.signer with
    | error e =>
      obtain ⟨go, hgo, herror⟩ := exists_consults (P := fun o => o = (.error e, s)) hask
        fun root => by
          rw [deliver_read_bind, deliver_ofExcept_bind, hexisting]
          dsimp only
          rw [deliver_ofExcept_bind, hsigner]
          exact ⟨_, rfl, rfl⟩
      refine ⟨go, hgo, Or.inr ⟨?_, e, registered_of_signer hsigner, herror⟩⟩
      rintro ⟨-, addr, haddr⟩
      rw [Bech32.signer_eq_ok_iff.mpr haddr] at hsigner
      cases hsigner
    | ok addr =>
      obtain ⟨go, hgo, hok⟩ := exists_consults (P := fun o => o.1 = .ok ()) hask fun root => by
        rw [deliver_read_bind, deliver_ofExcept_bind, hexisting]
        dsimp only
        rw [deliver_ofExcept_bind, hsigner]
        exact ⟨_, rfl, rfl⟩
      exact ⟨go, hgo, Or.inl ⟨⟨checkExisting_root_iff.mp hexisting, addr,
        Bech32.signer_eq_ok_iff.mp hsigner⟩, hok⟩⟩

/-- The messages with a certificate are refused by their checks, or decided by the verification. -/
theorem refused_or_decided (hmsg : msg = .proposeAddX509RootCert m ∨ msg = .addX509Cert m) :
    Refused lib bech32 accounts s msg ∨ ∃ x, Decided lib bech32 accounts s msg x := by
  rcases hmsg with rfl | rfl
  · exact refused_or_decided_proposeAddX509RootCert m
  · exact refused_or_decided_addX509Cert m

/-! ## All clocks -/

/-- A chain from a certificate does not exist before the start of its validity. -/
theorem notBefore_le_of_chain (hlib : lib.ChecksValidity) {now : ℤ} {root : String × String}
    (h : Chain lib now s x root) : x.certificate.notBefore ≤ now := by
  cases h with
  | root _ hverify => exact X509Certificate.notBefore_le_of_verify hlib hverify
  | link _ _ _ _ hverify => exact X509Certificate.notBefore_le_of_verify hlib hverify

/-- The search finds nothing at any time exactly when there is no chain at any time. -/
theorem forall_not_chain_iff (h : WellFormed lib s) :
    (∀ now fuel root, verifyCertificate lib now s fuel x ≠ some (.ok root)) ↔
      ∀ now root, ¬ Chain lib now s x root := by
  constructor
  · intro hnone now root hchain
    obtain ⟨fuel, r, hr⟩ := exists_verifyCertificate ((wellFounded_issuedBy h).apply x) now
    cases r with
    | ok root' => exact hnone now fuel root' hr
    | error e => exact (not_chain_of_verifyCertificate hr).2 root hchain
  · exact fun hno now fuel root hr => hno now root (chain_of_verifyCertificate hr)

/-- The clocks agree on a message that is decided by its verification exactly when there is no chain
at any time, if the error of the verification is told apart from what follows it. -/
theorem agree_iff_of_consults (hlib : lib.ChecksValidity) (h : WellFormed lib s)
    {go : String × String → Except SdkError Unit × Store}
    {E : Except SdkError Unit × Store → Except SdkError Unit × Store → Prop} (hE : ∀ o, E o o)
    (hc : Consults (node lib bech32 accounts msg) s
      (fun now fuel => verifyCertificate lib now s fuel x) go)
    (hgo : ∀ root, ¬ E (go root) (.error (verificationFailed x), s)) :
    Agree E (node lib bech32 accounts msg) s ↔ ∀ now root, ¬ Chain lib now s x root := by
  rw [← forall_not_chain_iff h]
  refine hc.agree_iff hE ?_ ?_ (x.certificate.notBefore - 1) ?_ hgo
  · exact exists_verifyCertificate ((wellFounded_issuedBy h).apply x)
  · exact fun now fuel e' hr => (not_chain_of_verifyCertificate hr).1
  · intro fuel root hr
    have hle := notBefore_le_of_chain hlib (chain_of_verifyCertificate hr)
    omega

/-- **When the clocks agree.** A message to propose a root or to add a certificate has an outcome
whatever the clock of a node shows. All nodes obtain the same result and the same store exactly if
the message is refused in front of the verification, or its certificate has no chain at any time. All
of them succeed, or all of them fail, exactly if the certificate of a message that passes every other
check has no chain at any time. -/
theorem clocks_agree_iff (hlib : lib.ChecksValidity) (h : Reachable (certificates lib bech32) s)
    (hmsg : msg = .proposeAddX509RootCert m ∨ msg = .addX509Cert m)
    (accounts : Dclauth.AccountStore) :
    (∀ now, ∃ o, Outcome (node lib bech32 accounts msg) s now o) ∧
    (Agree Eq (node lib bech32 accounts msg) s ↔
      ∀ x, Examined lib s msg x → ∀ now root, ¬ Chain lib now s x root) ∧
    (Agree SameKind (node lib bech32 accounts msg) s ↔
      ∀ x, Examined lib s msg x → Cleared bech32 s msg x → ∀ now root, ¬ Chain lib now s x root) := by
  have hwf := wellFormed_of_reachable h
  have hkind : ∀ o, SameKind o o := fun _ => ⟨rfl, rfl⟩
  have hcases : Refused lib bech32 accounts s msg ∨ ∃ x, Decided lib bech32 accounts s msg x :=
    refused_or_decided hmsg
  rcases hcases with ⟨hnot, e, href⟩ | ⟨x, hexamined, go, hc, hgo⟩
  · have hall : ∀ now o, Outcome (node lib bech32 accounts msg) s now o → o = (.error e, s) := by
      rintro now o ⟨fuel, ho⟩
      exact Option.some.inj (ho.symm.trans (href now fuel))
    refine ⟨fun now => ⟨_, 0, href now 0⟩, ?_, ?_⟩
    · exact iff_of_true (agree_of_forall rfl hall) fun x hx => absurd hx (hnot x)
    · exact iff_of_true (agree_of_forall (hkind _) hall) fun x hx => absurd hx (hnot x)
  · -- no other certificate is examined
    have honly : ∀ {p : X509Certificate → Prop}, (∀ x', Examined lib s msg x' → p x') ↔ p x :=
      ⟨fun hp => hp x hexamined, fun hp x' hx' => examined_unique hexamined hx' ▸ hp⟩
    rw [honly, honly]
    refine ⟨fun now => ?_, ?_, ?_⟩
    · obtain ⟨fuel, r, hr⟩ := exists_verifyCertificate ((wellFounded_issuedBy hwf).apply x) now
      exact ⟨_, hc.outcome_iff.mpr ⟨fuel, r, hr, rfl⟩⟩
    · refine agree_iff_of_consults hlib hwf (fun _ => rfl) hc fun root heq => ?_
      rcases hgo with ⟨-, hok⟩ | ⟨-, e, he, herror⟩
      · have hfirst := hok root
        rw [heq] at hfirst
        cases hfirst
      · rw [herror root] at heq
        obtain rfl := Except.error.inj (Prod.mk.inj heq).1
        exact he rfl
    · rcases hgo with ⟨hcleared, hok⟩ | ⟨hnot, e, -, herror⟩
      · rw [imp_iff_right hcleared]
        refine agree_iff_of_consults hlib hwf hkind hc fun root hsame => ?_
        have hfirst := hsame.1
        rw [hok root] at hfirst
        cases hfirst
      · -- every node fails, here or there
        refine iff_of_true ?_ fun hcleared => absurd hcleared hnot
        have hfails : ∀ now o, Outcome (node lib bech32 accounts msg) s now o →
            o.1.isOk = false ∧ o.2 = s := by
          intro now o ho
          obtain ⟨fuel, r, -, rfl⟩ := hc.outcome_iff.mp ho
          cases r with
          | error e' => exact ⟨rfl, rfl⟩
          | ok root =>
            rw [answered, herror root]
            exact ⟨rfl, rfl⟩
        intro now now' o o' ho ho'
        obtain ⟨hok, hs⟩ := hfails now o ho
        obtain ⟨hok', hs'⟩ := hfails now' o' ho'
        exact ⟨hok.trans hok'.symm, hs.trans hs'.symm⟩

/-- The message that adds the leaf of the example. -/
def exampleAddLeaf : Msg := .addX509Cert ⟨"cosmos1vendor", "leaf", "", 1⟩

/-- The certificates of the example, but the leaf becomes valid when the root no longer is. -/
def lateLib : CryptoX509 := .ofTable
  [("root", exampleCert [82] [1] [82] [1] 1),
    ("leaf", { exampleCert [82] [1] [83] [2] 2 with notBefore := 200, notAfter := 300 })]

/-- The issuer of the leaf is approved, but no clock shows a time at which both are valid: every node
refuses the leaf. -/
theorem example_leaf_refused_by_all : lateLib.ChecksValidity ∧
    ∃ s, Reachable (certificates lateLib Dclauth.exampleCodec) s ∧
      (∃ x parent, Examined lateLib s exampleAddLeaf x ∧ IssuedBy lateLib s parent x) ∧
      Agree Eq (node lateLib Dclauth.exampleCodec Dclauth.exampleAccounts exampleAddLeaf) s := by
  have hlib : lateLib.ChecksValidity := CryptoX509.checksValidity_ofTable _
  let leaf : X509Certificate := ⟨"Ug==", "2", "Uw==", utf8 "CN=Example", "02", "01",
    { exampleCert [82] [1] [83] [2] 2 with notBefore := 200, notAfter := 300 }⟩
  let issuer : X509Certificate :=
    ⟨"Ug==", "1", "Ug==", utf8 "CN=Example", "01", "01", exampleCert [82] [1] [82] [1] 1⟩
  have hleaf : decodeX509Certificate lateLib "leaf" = .ok leaf := by decide +kernel
  have hissuer : decodeX509Certificate lateLib "root" = .ok issuer := by decide +kernel
  obtain ⟨s, hs, hp⟩ := exists_reachable_of_foldlM
    (T := certificates lateLib Dclauth.exampleCodec)
    (p := fun s => !s.isUniqueCertificatePresent "Ug==" "2" &&
      (s.getApprovedCertificates "Uw==" "02").isNone &&
      (s.getApprovedCertificates "Ug==" "01").any fun record =>
        record.certs.map (·.pemCert) == ["root"])
    (deliverMsg lateLib Dclauth.exampleCodec 3) step_of_deliverMsg exampleRoot
    (by decide +kernel)
  rw [Bool.and_eq_true, Bool.and_eq_true, Option.any_eq_true, Bool.not_eq_true'] at hp
  obtain ⟨⟨hunique, hnone⟩, record, hrecord, hpem⟩ := hp
  have hpem : record.certs.map (·.pemCert) = ["root"] := eq_of_beq hpem
  refine ⟨hlib, s, hs, ⟨leaf, issuer, ⟨hleaf, by decide, hunique, ?_⟩, ?_⟩,
    (clocks_agree_iff hlib hs (Or.inr rfl) Dclauth.exampleAccounts).2.1.mpr ?_⟩
  · intro other hother
    cases hother.symm.trans (Option.isNone_iff_eq_none.mp hnone)
  · obtain ⟨cert, hcerts, hcert⟩ := List.map_eq_singleton_iff.mp hpem
    exact ⟨by decide, record, hrecord, cert, by simp [hcerts], hcert ▸ hissuer⟩
  · rintro x ⟨hdecode, hnot, -⟩ now root hchain
    obtain rfl := Except.ok.inj (hleaf.symm.trans hdecode)
    cases hchain with
    | root hself =>
      rw [hself] at hnot
      cases hnot
    | link _ hget hmem hparent hverify _ =>
      obtain rfl := Option.some.inj (hrecord.symm.trans hget)
      have hroot := List.mem_map_of_mem (f := (·.pemCert)) hmem
      rw [hpem, List.mem_singleton] at hroot
      rw [hroot] at hparent
      obtain rfl := Except.ok.inj (hissuer.symm.trans hparent)
      -- the leaf is valid from 200 on, its issuer until 100
      obtain ⟨⟨hstart, -⟩, -, hend⟩ := hlib now _ _ (X509Certificate.verify_ok_iff.mp hverify)
      have hstart : (200 : ℤ) ≤ now := hstart
      have hend : now ≤ (100 : ℤ) := hend
      omega

/-- **Two clocks disagree**: the root of the example is approved, and the leaf under it is added by a
node on which both are valid, and refused by a node whose clock shows a later time. -/
theorem clocks_disagree : exampleLib.ChecksValidity ∧
    ∃ s, Reachable (certificates exampleLib Dclauth.exampleCodec) s ∧
      s.getApprovedCertificates "Uw==" "02" = none ∧
      ∃ s' e, s'.getApprovedCertificates "Uw==" "02" ≠ none ∧
        Outcome (node exampleLib Dclauth.exampleCodec Dclauth.exampleAccounts exampleAddLeaf) s 50
          (.ok (), s') ∧
        Outcome (node exampleLib Dclauth.exampleCodec Dclauth.exampleAccounts exampleAddLeaf) s 200
          (.error e, s) := by
  refine ⟨CryptoX509.checksValidity_ofTable _, ?_⟩
  obtain ⟨s, hs, hp⟩ := exists_reachable_of_foldlM
    (T := certificates exampleLib Dclauth.exampleCodec)
    (p := fun s => (s.getApprovedCertificates "Uw==" "02").isNone &&
      (((node exampleLib Dclauth.exampleCodec Dclauth.exampleAccounts exampleAddLeaf 50 3).deliver
        s).any fun o => o.1.isOk && (o.2.getApprovedCertificates "Uw==" "02").isSome) &&
      ((node exampleLib Dclauth.exampleCodec Dclauth.exampleAccounts exampleAddLeaf 200 3).deliver
        s).any fun o => !o.1.isOk)
    (deliverMsg exampleLib Dclauth.exampleCodec 3) step_of_deliverMsg exampleRoot
    (by decide +kernel)
  rw [Bool.and_eq_true, Bool.and_eq_true, Option.any_eq_true, Option.any_eq_true] at hp
  obtain ⟨⟨hnone, ⟨r, s'⟩, hearly, hok⟩, ⟨r', s''⟩, hlate, hfail⟩ := hp
  rw [Bool.and_eq_true] at hok
  refine ⟨s, hs, Option.isNone_iff_eq_none.mp hnone, s', ?_⟩
  rcases r with e | u
  · cases hok.1
  rcases deliver_cases hlate with ⟨a, rfl, -⟩ | ⟨⟨e, rfl⟩, rfl⟩
  · cases hfail
  · exact ⟨e, Option.isSome_iff_ne_none.mp hok.2, ⟨3, hearly⟩, ⟨3, hlate⟩⟩

/-! ## Two clocks -/

section TwoClocks

variable {now now' : ℤ}

/-- The same approved certificates are valid at both times. -/
def SameValidity (lib : CryptoX509) (s : Store) (now now' : ℤ) : Prop :=
  ∀ k, ∀ cert ∈ s.approvedCerts k, ∀ x, decodeX509Certificate lib cert.pemCert = .ok x →
    (x.certificate.ValidAt now ↔ x.certificate.ValidAt now')

/-- Two tests that pass together pass both or fail both. -/
theorem both_ok_or_both_error {r r' : Except SdkError Unit} (h : r = .ok () ↔ r' = .ok ()) :
    (r = .ok () ∧ r' = .ok ()) ∨ ∃ e e', r = .error e ∧ r' = .error e' := by
  cases r with
  | ok u => exact Or.inl ⟨rfl, h.mp rfl⟩
  | error e =>
    cases r' with
    | ok u => cases h.mpr rfl
    | error e' => exact Or.inr ⟨e, e', rfl, rfl⟩

/-- The loop returns the same at two times at which the same of its tests pass. -/
theorem verifyAgainst_congr {f g : X509Certificate → Option (Except SdkError (String × String))}
    {certs : List Certificate}
    (h : ∀ cert ∈ certs, ∀ parent, decodeX509Certificate lib cert.pemCert = .ok parent →
      (x.verify lib now parent = .ok () ↔ x.verify lib now' parent = .ok ()) ∧
        f parent = g parent) :
    verifyAgainst lib now x f certs = verifyAgainst lib now' x g certs := by
  induction certs with
  | nil => rfl
  | cons cert certs ih =>
    have hlater := ih fun c hc => h c (List.mem_cons_of_mem _ hc)
    rw [verifyAgainst, verifyAgainst]
    cases hdecode : decodeX509Certificate lib cert.pemCert with
    | error e => exact hlater
    | ok parent =>
      obtain ⟨hverify, hfg⟩ := h cert List.mem_cons_self parent hdecode
      rcases both_ok_or_both_error hverify with ⟨hok, hok'⟩ | ⟨e, e', herr, herr'⟩
      · simp only [hok, hok', hfg, hlater]
      · simp only [herr, herr', hlater]

/-- The search returns the same at two times at which the same certificates are valid. -/
theorem verifyCertificate_congr (hlib : lib.ReadsClockForValidity)
    (hsame : SameValidity lib s now now') {fuel : ℕ}
    (hx : x.certificate.ValidAt now ↔ x.certificate.ValidAt now') :
    verifyCertificate lib now s fuel x = verifyCertificate lib now' s fuel x := by
  induction fuel generalizing x with
  | zero => rfl
  | succ fuel ih =>
    have hverify : ∀ parent : X509Certificate,
        (parent.certificate.ValidAt now ↔ parent.certificate.ValidAt now') →
          (x.verify lib now parent = .ok () ↔ x.verify lib now' parent = .ok ()) := by
      intro parent hparent
      rw [X509Certificate.verify_ok_iff, X509Certificate.verify_ok_iff]
      exact hlib now now' _ _ hx hparent
    rw [verifyCertificate, verifyCertificate]
    by_cases hself : x.isSelfSigned = true
    · rw [if_pos hself, if_pos hself]
      rcases both_ok_or_both_error (hverify x hx) with ⟨hok, hok'⟩ | ⟨e, e', herr, herr'⟩
      · rw [hok, hok']
      · rw [herr, herr']
    · rw [if_neg hself, if_neg hself]
      cases hget : s.getApprovedCertificates x.issuer x.authorityKeyID with
      | none => rfl
      | some record =>
        -- the parents are approved, so that the same of them are valid at both times
        refine verifyAgainst_congr fun cert hcert parent hdecode => ?_
        have hmem : cert ∈ s.approvedCerts (pairKey x.issuer x.authorityKeyID) := by
          rw [approvedCerts_of_get hget]
          exact hcert
        have hparent := hsame _ cert hmem parent hdecode
        exact ⟨hverify parent hparent, ih hparent⟩

/-- **The clock counts only by the certificates that are valid**: two nodes obtain the same outcome
if the certificate of the message and the approved ones are valid on both or on neither. -/
theorem outcome_of_same_validity (hlib : lib.ReadsClockForValidity)
    (hmsg : msg = .proposeAddX509RootCert m ∨ msg = .addX509Cert m)
    (hsame : SameValidity lib s now now')
    (hown : ∀ x, Examined lib s msg x → (x.certificate.ValidAt now ↔ x.certificate.ValidAt now'))
    (o : Except SdkError Unit × Store) :
    Outcome (node lib bech32 accounts msg) s now o ↔
      Outcome (node lib bech32 accounts msg) s now' o := by
  have hcases : Refused lib bech32 accounts s msg ∨ ∃ x, Decided lib bech32 accounts s msg x :=
    refused_or_decided hmsg
  rcases hcases with ⟨-, e, href⟩ | ⟨x, hexamined, go, hc, -⟩
  · unfold Outcome
    simp only [href]
  · rw [hc.outcome_iff, hc.outcome_iff]
    simp only [verifyCertificate_congr hlib hsame (hown x hexamined)]

end TwoClocks

end ComplianceLedger.Pki
