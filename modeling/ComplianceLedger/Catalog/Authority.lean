import ComplianceLedger.Catalog.Effect
import ComplianceLedger.Pki.Revocation

/-!
# Who may do what

The handler of a message looks up the account of the signer and asks for a role. The accounts are those
that the steps before have left, so that what an account may do can change in a run, and only by what
the rules say: whoever has a role was given it by trustees, and every store of the ledger changes by the
hands of those whom it is for. That a signer is who it claims to be is seen to by the SDK.

## Main definitions

* `Msg.role`: the role that the signer of a message needs
* `SignedAs env t role`: the step is a message of an account with the role
* `Permitted env t`: what the step changes, it may change
* `Recorded s a account`: the account is recorded under the address

## Main results

* `hasRole_of_handle`: no message is handled unless its signer has the role
* `changes_permitted`: every step of a run is permitted
* `accounts_valid`: the accounts pass their check, and their keys are of their addresses
-/

open Machine Machine.Handler Machine.TransitionSystem

namespace ComplianceLedger.Catalog

/-! ## Roles -/

/-- The role that the signer of a message needs. Anybody with an account may propose a root
certificate and add a certificate; who may revoke it is asked of the certificate. -/
def Msg.role : Msg → Option Dclauth.AccountRole
  | .auth _ | .upgrade _ => some .trustee
  | .pki (.proposeAddX509RootCert _) | .pki (.addX509Cert _) | .pki (.revokeX509Cert _) => none
  | .pki (.approveAddX509RootCert _) | .pki (.rejectAddX509RootCert _)
  | .pki (.proposeRevokeX509RootCert _) | .pki (.approveRevokeX509RootCert _) => some .trustee
  | .validator (.createValidator _) | .validator (.disableValidator _)
  | .validator (.enableValidator _) => some .nodeAdmin
  | .validator (.proposeDisableValidator _) | .validator (.approveDisableValidator _)
  | .validator (.rejectDisableValidator _) => some .trustee
  | .model _ | .vendorInfo _ => some .vendor
  | .compliance _ => some .certificationCenter

section Roles

variable {bech32 : Bech32} {accounts : Dclauth.AccountStore} {u : Unit}

theorem trustee_of_auth {msg : Dclauth.Msg} {s s' : Dclauth.Store}
    (h : Dclauth.handle bech32 msg s = some (.ok u, s')) :
    ∃ a, bech32.accAddressFromBech32 msg.signer = .ok a ∧ s.account.hasRole a .trustee = true := by
  -- the signer is what every handler looks at first
  have hfirst : ∀ {message signer : String} {a : AccAddress} {s₁ : Dclauth.Store},
      Dclauth.trusteeSigner bech32 message signer s = some (.ok a, s₁) →
      ∃ a, bech32.accAddressFromBech32 signer = .ok a ∧ s.account.hasRole a .trustee = true := by
    intro message signer a s₁ hsigner
    obtain ⟨hdecode, hrole, -⟩ := Dclauth.trusteeSigner_ok hsigner
    exact ⟨a, hdecode, hrole⟩
  cases msg with
  | proposeAddAccount msg | proposeRevokeAccount msg | approveRevokeAccount msg =>
    obtain ⟨a, s₁, hsigner, -⟩ := bind_ok_iff.mp h
    exact hfirst hsigner
  | approveAddAccount msg | rejectAddAccount msg =>
    obtain ⟨found, s₁, hfind, -⟩ := bind_ok_iff.mp h
    obtain ⟨a, s₂, hsigner, -⟩ := bind_ok_iff.mp hfind
    exact hfirst hsigner

theorem role_of_pki {lib : Pki.CryptoX509} {fuel : ℕ} {now : ℤ} {msg : Pki.Msg} {s s' : Pki.Store}
    {role : Dclauth.AccountRole} (hrole : (Msg.pki msg).role = some role)
    (h : Pki.handle lib bech32 fuel ⟨accounts, now⟩ msg s = some (.ok u, s')) :
    ∃ a, bech32.accAddressFromBech32 msg.signer = .ok a ∧ accounts.hasRole a role = true := by
  have hfirst : ∀ {message signer : String} {a : AccAddress} {s₁ : Pki.Store},
      Pki.trusteeSigner bech32 ⟨accounts, now⟩ message signer s = some (.ok a, s₁) →
      ∃ a, bech32.accAddressFromBech32 signer = .ok a ∧ accounts.hasRole a .trustee = true := by
    intro message signer a s₁ hsigner
    obtain ⟨hdecode, hrole, -⟩ := Pki.trusteeSigner_ok hsigner
    exact ⟨a, hdecode, hrole⟩
  cases msg with
  | proposeAddX509RootCert | addX509Cert | revokeX509Cert => cases hrole
  | approveAddX509RootCert msg | rejectAddX509RootCert msg =>
    cases hrole
    obtain ⟨found, s₁, hfind, -⟩ := bind_ok_iff.mp h
    obtain ⟨a, s₂, hsigner, -⟩ := bind_ok_iff.mp hfind
    exact hfirst hsigner
  | proposeRevokeX509RootCert msg | approveRevokeX509RootCert msg =>
    cases hrole
    obtain ⟨a, s₁, hsigner, -⟩ := bind_ok_iff.mp h
    exact hfirst hsigner

theorem role_of_validator {addr : Validators.Addresses} {ctx : Validators.Context}
    {msg : Validators.Msg} {s s' : Validators.Store} {role : Dclauth.AccountRole}
    (hrole : (Msg.validator msg).role = some role)
    (h : Validators.handle addr ctx msg s = some (.ok u, s')) :
    ∃ a, msg.getSigner addr = .ok a ∧ ctx.accounts.hasRole a role = true := by
  cases msg with
  | createValidator msg =>
    cases hrole
    simp only [Validators.handle, Validators.createValidator, ofExcept_bind_ok_iff,
      failIf_bind_ok_iff, Validators.decodeWith_eq_ok_iff] at h
    obtain ⟨a, hdecode, hrole, -⟩ := h
    exact ⟨a, hdecode, by simpa using hrole⟩
  | disableValidator creator | enableValidator creator =>
    cases hrole
    obtain ⟨a, s₁, hadmin, -⟩ := bind_ok_iff.mp h
    obtain ⟨hdecode, hrole, -⟩ := Validators.nodeAdmin_ok hadmin
    exact ⟨a, hdecode, hrole⟩
  | proposeDisableValidator msg =>
    cases hrole
    obtain ⟨⟨a, val⟩, s₁, htrustee, -⟩ := bind_ok_iff.mp h
    obtain ⟨hdecode, -, hrole, -⟩ := Validators.trusteeAndValidator_ok htrustee
    exact ⟨a, hdecode, hrole⟩
  | approveDisableValidator msg | rejectDisableValidator msg =>
    cases hrole
    obtain ⟨found, s₁, hfind, -⟩ := bind_ok_iff.mp h
    obtain ⟨⟨a, val⟩, s₂, htrustee, -⟩ := bind_ok_iff.mp hfind
    obtain ⟨hdecode, -, hrole, -⟩ := Validators.trusteeAndValidator_ok htrustee
    exact ⟨a, hdecode, hrole⟩

theorem trustee_of_upgrade {ctx : Dclupgrade.Context} {msg : Dclupgrade.Msg} {s s' : Dclupgrade.Store}
    (h : Dclupgrade.handle bech32 ctx msg s = some (.ok u, s')) :
    ∃ a, bech32.accAddressFromBech32 msg.creator = .ok a ∧ ctx.accounts.hasRole a .trustee = true := by
  cases msg with
  | proposeUpgrade msg =>
    obtain ⟨a, hdecode, hrole, -⟩ := Dclupgrade.proposeUpgrade_ok h
    exact ⟨a, hdecode, hrole⟩
  | approveUpgrade msg | rejectUpgrade msg =>
    obtain ⟨found, s₁, hfind, -⟩ := bind_ok_iff.mp h
    obtain ⟨hdecode, hrole, -⟩ := Dclupgrade.findProposal_ok hfind
    exact ⟨found.1, hdecode, hrole⟩

theorem center_of_compliance {parse : String → Option ℤ} {ctx : Compliance.Context}
    {msg : Compliance.Msg} {s s' : Compliance.Store}
    (h : Compliance.handle bech32 parse ctx msg s = some (.ok u, s')) :
    ∃ a, bech32.accAddressFromBech32 msg.signer = .ok a ∧
      ctx.accounts.hasRole a .certificationCenter = true := by
  have hfirst : ∀ {signer : String} {s₁ : Compliance.Store},
      Compliance.checkSigner bech32 ctx signer s = some (.ok (), s₁) →
      ∃ a, bech32.accAddressFromBech32 signer = .ok a ∧
        ctx.accounts.hasRole a .certificationCenter = true := by
    intro signer s₁ hcheck
    simp only [Compliance.checkSigner, ofExcept_bind_ok_iff, failIf_ok_iff,
      Bech32.signer_eq_ok_iff] at hcheck
    obtain ⟨a, hdecode, hrole, -⟩ := hcheck
    exact ⟨a, hdecode, by simpa using hrole⟩
  cases msg with
  | provisionModel msg | certifyModel msg | revokeModel msg =>
    obtain ⟨⟨⟩, s₁, hcheck, -⟩ := bind_ok_iff.mp h
    exact hfirst hcheck

theorem vendor_of_signed {creator : String} {vid : ℤ}
    (h : accounts.SignedByVendor bech32 creator vid) :
    ∃ a, bech32.accAddressFromBech32 creator = .ok a ∧ accounts.hasRole a .vendor = true := by
  obtain ⟨a, hdecode, hrole, -⟩ := Dclauth.AccountStore.signedByVendor_iff.mp h
  exact ⟨a, hdecode, hrole⟩

/-- **No message is handled unless its signer has the role.** -/
theorem hasRole_of_handle {env : Env} {fuel : ℕ} {act : Act} {msg : Msg} {st st' : State}
    {role : Dclauth.AccountRole} (hmsg : act.msg = some msg) (hrole : msg.role = some role)
    (h : handle env fuel act st = some (.ok u, st')) :
    ∃ a, msg.getSigner env = .ok a ∧ st.accounts.hasRole a role = true := by
  rcases act with act | model | vendorInfo | compliance
  · cases act with
    | auth msg =>
      cases hmsg
      cases hrole
      rw [handle, focus_ok_iff] at h
      obtain ⟨store, hstore, -⟩ := h
      exact trustee_of_auth hstore
    | pki now msg =>
      cases hmsg
      rw [handle, focus_ok_iff] at h
      obtain ⟨store, hstore, -⟩ := h
      exact role_of_pki hrole hstore
    | validator ctx msg =>
      cases hmsg
      rw [handle, focus_ok_iff] at h
      obtain ⟨store, hstore, -⟩ := h
      exact role_of_validator hrole hstore
    | upgrade ctx msg =>
      cases hmsg
      cases hrole
      rw [handle, focus_ok_iff] at h
      obtain ⟨store, hstore, -⟩ := h
      exact trustee_of_upgrade hstore
    | writeBack | evidence | endBlock => cases hmsg
  · cases hmsg
    cases hrole
    rw [handle, focus_ok_iff] at h
    obtain ⟨store, hstore, -⟩ := h
    exact vendor_of_signed (Models.handle_ok hstore).1
  · cases hmsg
    cases hrole
    rw [handle, focus_ok_iff] at h
    obtain ⟨store, hstore, -⟩ := h
    exact vendor_of_signed (VendorInfos.handle_ok hstore).1
  · cases hmsg
    cases hrole
    rw [handle, focus_ok_iff] at h
    obtain ⟨store, hstore, -⟩ := h
    exact center_of_compliance hstore

end Roles

/-! ## Changes -/

/-- What an account entitles to: its roles and its vendor ID. -/
def rights (accounts : Dclauth.AccountStore) (a : AccAddress) :
    Option (List Dclauth.AccountRole × ℤ) :=
  (accounts.get (Dclauth.accountKey a)).map fun account => (account.roles, account.vendorID)

/-- The lists of the approved and of the revoked roots. -/
def rootLists (s : Pki.Store) :
    Option (List Pki.CertificateIdentifier) × Option (List Pki.CertificateIdentifier) :=
  (s.approvedRootCertificates, s.revokedRootCertificates)

/-- The step is a message of an account that has the role before the step. -/
def SignedAs (env : Env) (t : Transition State Act) (role : Dclauth.AccountRole) : Prop :=
  ∃ msg a, t.label.msg = some msg ∧ msg.getSigner env = .ok a ∧
    t.before.accounts.hasRole a role = true

/-- **What the step changes, it may change.** -/
structure Permitted (env : Env) (t : Transition State Act) : Prop where
  /-- Rights are given and taken by trustees, and by evidence of a double signature. -/
  rights : ∀ a, rights t.after.accounts a ≠ rights t.before.accounts a → SignedAs env t .trustee ∨
    ∃ ctx evidence, t.label = .chain (.evidence ctx evidence) ∧
      Ledger.doubleSigner env.addr t.before.chain ctx evidence ≠ none
  /-- So is what trustees have voted on. -/
  pendingAccount : t.after.chain.auth.pendingAccount ≠ t.before.chain.auth.pendingAccount →
    SignedAs env t .trustee
  pendingAccountRevocation : t.after.chain.auth.pendingAccountRevocation ≠
    t.before.chain.auth.pendingAccountRevocation → SignedAs env t .trustee
  roots : rootLists t.after.chain.pki ≠ rootLists t.before.chain.pki → SignedAs env t .trustee
  /-- Validators are changed by their owners and by trustees; without a message, by evidence and by the
  end of a block. -/
  validators : t.after.chain.validators ≠ t.before.chain.validators →
    SignedAs env t .nodeAdmin ∨ SignedAs env t .trustee ∨ t.label.msg = none
  upgrade : t.after.chain.upgrade ≠ t.before.chain.upgrade → SignedAs env t .trustee
  models : t.after.models ≠ t.before.models → SignedAs env t .vendor
  vendorInfos : t.after.vendorInfos ≠ t.before.vendorInfos → SignedAs env t .vendor
  compliance : t.after.compliance ≠ t.before.compliance → SignedAs env t .certificationCenter

section Changes

variable {env : Env} {genesis : List Dclauth.Account} {fuel : ℕ} {act : Act} {st st' : State}

theorem signedAs_of_handle {msg : Msg} {role : Dclauth.AccountRole} {u : Unit}
    (hmsg : act.msg = some msg) (hrole : msg.role = some role)
    (h : handle env fuel act st = some (.ok u, st')) : SignedAs env ⟨st, act, st'⟩ role := by
  obtain ⟨a, hsigner, hhas⟩ := hasRole_of_handle hmsg hrole h
  exact ⟨msg, a, hmsg, hsigner, hhas⟩

theorem permitted_refl (st : State) (act : Act) : Permitted env ⟨st, act, st⟩ := by
  constructor
  case rights => exact fun a hne => absurd rfl hne
  all_goals exact fun hne => absurd rfl hne

/-- Writing an account back changes no rights. -/
theorem rights_writtenBack {s s' : Dclauth.Store} {signer : String} {pubKey : Bytes} {sequence : ℕ}
    (he : Dclauth.Effect env.addr.acc s (.writeBack signer pubKey sequence) s') :
    (∀ a, rights s'.account a = rights s.account a) ∧ s'.pendingAccount = s.pendingAccount ∧
      s'.pendingAccountRevocation = s.pendingAccountRevocation := by
  cases he with
  | refused => exact ⟨fun _ => rfl, rfl, rfl⟩
  | writtenBack pubKey sequence signed active =>
    refine ⟨fun a => ?_, rfl, rfl⟩
    unfold rights
    rw [KVStore.get_set]
    split
    · next hkey => rw [hkey, active]; rfl
    · rfl

/-- The lists of roots change by messages of trustees only. -/
theorem rootLists_of_effect {ctx : Pki.Context} {s s' : Pki.Store} {msg : Pki.Msg}
    (hrecords : Pki.Records env.lib s) (he : Pki.Effect env.lib env.addr.acc ctx s msg s')
    (hrole : (Msg.pki msg).role = none) : rootLists s' = rootLists s := by
  cases he with
  | refused | proposed | added => rfl
  | revoked t hget _ _ _ ht =>
    obtain ⟨-, hrev, -⟩ := Pki.revocation_of_revoked hrecords hget ht
    exact Prod.ext hrev.approvedRoot hrev.revokedRoot
  | approved | activated | rejected | discarded | revocationProposed | revocationApproved
  | rootRevoked => cases hrole

theorem Msg.role_pki (msg : Pki.Msg) :
    (Msg.pki msg).role = none ∨ (Msg.pki msg).role = some .trustee := by
  cases msg <;> simp [Msg.role]

theorem Msg.role_validator (msg : Validators.Msg) :
    (Msg.validator msg).role = some .nodeAdmin ∨ (Msg.validator msg).role = some .trustee := by
  cases msg <;> simp [Msg.role]

/-- A step of the chain whose handler succeeds is permitted. -/
theorem permitted_of_chain {act : Ledger.Act} (hst : Consistent env st)
    (h : handle env fuel (.chain act) st = some (.ok (), st')) :
    Permitted env ⟨st, .chain act, st'⟩ := by
  have hsame : Permitted env ⟨st, .chain act, st⟩ := permitted_refl st _
  have hdeliver := deliver_of_ok h
  cases act with
  | auth msg =>
    have hsigned := signedAs_of_handle rfl rfl h
    obtain ⟨auth, -, rfl⟩ := deliver_auth_iff.mp hdeliver
    exact { hsame with
      rights := fun _ _ => .inl hsigned
      pendingAccount := fun _ => hsigned
      pendingAccountRevocation := fun _ => hsigned }
  | writeBack signer pubKey sequence =>
    -- the SDK writes a key and a sequence number, which are no rights
    obtain rfl := Option.some.inj (deliver_transform_iff.mp hdeliver).2
    obtain ⟨hrights, hpending, hrevocation⟩ :=
      rights_writtenBack (Dclauth.effect_writeBack hst.auth signer pubKey sequence)
    exact { hsame with
      rights := fun a hne => absurd (hrights a) hne
      pendingAccount := fun hne => absurd hpending hne
      pendingAccountRevocation := fun hne => absurd hrevocation hne }
  | pki now msg =>
    obtain ⟨pki, hpki, rfl⟩ := deliver_pki_iff.mp hdeliver
    refine { hsame with roots := fun hne => ?_ }
    rcases Msg.role_pki msg with hrole | hrole
    · -- what anybody may send leaves the lists of roots
      have hstep : (Pki.certificates env.lib env.addr.acc).step st.chain.pki
          (⟨st.accounts, now⟩, msg) pki := ⟨fuel, _, hpki⟩
      exact absurd (rootLists_of_effect hst.pki.records (Pki.step_effect hstep) hrole) hne
    · exact signedAs_of_handle rfl hrole h
  | validator ctx msg =>
    have hsigned : SignedAs env ⟨st, .chain (.validator ctx msg), st'⟩ .nodeAdmin ∨
        SignedAs env ⟨st, .chain (.validator ctx msg), st'⟩ .trustee :=
      (Msg.role_validator msg).imp (signedAs_of_handle rfl · h) (signedAs_of_handle rfl · h)
    obtain ⟨validators, -, rfl⟩ := deliver_validator_iff.mp hdeliver
    exact { hsame with validators := fun _ => hsigned.imp_right .inl }
  | upgrade ctx msg =>
    have hsigned := signedAs_of_handle rfl rfl h
    obtain ⟨upgrade, -, rfl⟩ := deliver_upgrade_iff.mp hdeliver
    exact { hsame with upgrade := fun _ => hsigned }
  | evidence ctx evidence =>
    obtain ⟨chain, hchain, rfl⟩ := Option.map_eq_some_iff.mp (deliver_transform_iff.mp hdeliver).2
    obtain ⟨⟨validators, address⟩, hprocess, rfl⟩ := Option.map_eq_some_iff.mp hchain
    have hsigner := Ledger.processEvidence_eq_doubleSigner hprocess
    cases address with
    | none => exact { hsame with validators := fun _ => .inr (.inr rfl) }
    | some address =>
      -- the account of the double signer goes, but no vote that is under way
      have hpending : (Dclauth.revokeMalicious env.addr.acc address st.chain.auth).pendingAccount =
          st.chain.auth.pendingAccount ∧
        (Dclauth.revokeMalicious env.addr.acc address st.chain.auth).pendingAccountRevocation =
          st.chain.auth.pendingAccountRevocation := by
        have heffect := Dclauth.effect_revokeMalicious hst.auth address
        generalize Dclauth.revokeMalicious env.addr.acc address st.chain.auth = auth at heffect
        cases heffect <;> exact ⟨rfl, rfl⟩
      exact { hsame with
        rights := fun _ _ => .inr ⟨ctx, evidence, rfl, by rw [← hsigner]; exact Option.some_ne_none _⟩
        pendingAccount := fun hne => absurd hpending.1 hne
        pendingAccountRevocation := fun hne => absurd hpending.2 hne
        validators := fun _ => .inr (.inr rfl) }
  | endBlock =>
    obtain ⟨chain, hchain, rfl⟩ := Option.map_eq_some_iff.mp (deliver_transform_iff.mp hdeliver).2
    obtain ⟨validators, -, rfl⟩ := Option.map_eq_some_iff.mp hchain
    exact { hsame with validators := fun _ => .inr (.inr rfl) }

/-- A step whose handler succeeds is permitted. -/
theorem permitted_of_handle (hst : Consistent env st)
    (h : handle env fuel act st = some (.ok (), st')) : Permitted env ⟨st, act, st'⟩ := by
  have hsame : Permitted env ⟨st, act, st⟩ := permitted_refl st act
  cases act with
  | chain act => exact permitted_of_chain hst h
  | model msg =>
    have hsigned := signedAs_of_handle rfl rfl h
    obtain ⟨models, -, rfl⟩ := deliver_model_iff.mp (deliver_of_ok h)
    exact { hsame with models := fun _ => hsigned }
  | vendorInfo msg =>
    have hsigned := signedAs_of_handle rfl rfl h
    obtain ⟨vendorInfos, -, rfl⟩ := deliver_vendorInfo_iff.mp (deliver_of_ok h)
    exact { hsame with vendorInfos := fun _ => hsigned }
  | compliance msg =>
    have hsigned := signedAs_of_handle rfl rfl h
    obtain ⟨compliance, -, rfl⟩ := deliver_compliance_iff.mp (deliver_of_ok h)
    exact { hsame with compliance := fun _ => hsigned }

/-- Every step is permitted in the state that it starts from. -/
theorem permitted_of_step (hr : (env.runs genesis).Reachable st)
    (h : (env.runs genesis).step st act st') : Permitted env ⟨st, act, st'⟩ := by
  rcases step_cases h with rfl | ⟨fuel, hhandle⟩
  · exact permitted_refl st' act
  · exact permitted_of_handle (consistent_of_reachable hr) hhandle

/-- **Every change is permitted.** Take any step of any run from a genesis of accounts, with any
messages, and compare the states before and after. If the roles or the vendor ID of an account have
changed, then the step is a message whose signer had the role of a trustee, or evidence of a double
signature. If the accounts that are voted on, the lists of root certificates or the records of upgrades
have changed, it is a message of a trustee; if models or vendor infos have, one of a vendor; if
compliance records have, one of a certification center; and if validators have, one of a node admin or
of a trustee, or no message at all. -/
theorem changes_permitted {history : List (Transition State Act)}
    (h : (env.runs genesis).Trace history st) : ∀ t ∈ history, Permitted env t := by
  intro t ht
  obtain ⟨hr, hstep⟩ := h.of_mem ht
  exact permitted_of_step hr hstep

end Changes

/-- A trustee adds the account of another vendor, and the first one creates a model. -/
def exampleHistory : List Act :=
  [.chain (.auth (.proposeAddAccount
      ⟨"cosmos1one", "cosmos1new", some (utf8 "new"), [.vendor], 11, "", 1⟩)),
    .model (Models.exampleCreate 1 "Lamp" "p1")]

/-- Of the two steps of the example, the one that changes the models is signed by a vendor. -/
theorem example_model_permitted : ∃ history st t,
    (exampleEnv.runs exampleAccounts).Trace history st ∧ t ∈ history ∧
    t.after.models ≠ t.before.models ∧ SignedAs exampleEnv t .vendor := by
  obtain ⟨history, st, htrace, hp⟩ := exists_trace_of_foldlM (T := exampleEnv.runs exampleAccounts)
    (p := fun history _ => history.any fun t =>
      t.after.models.getVendorProducts 10 ≠ t.before.models.getVendorProducts 10)
    exampleNext (fun h => (step_of_exampleNext h).1) exampleHistory (by decide +kernel)
  obtain ⟨t, ht, hne⟩ := List.any_eq_true.mp hp
  have hchanged : t.after.models ≠ t.before.models := fun heq =>
    of_decide_eq_true hne (congrArg (Models.Store.getVendorProducts · 10) heq)
  exact ⟨history, st, t, htrace, ht, hchanged, (changes_permitted htrace t ht).models hchanged⟩

/-! ## Accounts -/

section Accounts

variable {env : Env} {genesis : List Dclauth.Account} {st : State}

/-- **Lawful steps keep the accounts well-formed.** -/
theorem wellFormed_of_reachable
    (hgenesis : ∀ account ∈ genesis, account.WellFormed env.addr.acc env.keys.keyAddress)
    (h : (env.catalog genesis).Reachable st) :
    Dclauth.WellFormed env.addr.acc env.keys.keyAddress st.chain.auth := by
  refine h.induction (P := fun st => Dclauth.WellFormed env.addr.acc env.keys.keyAddress st.chain.auth)
    (Dclauth.wellFormed_initGenesis hgenesis) ?_
  rintro st act st' hr hst ⟨hstep, hlawful⟩
  have hkeyed := (consistent_of_reachable hr.of_restrict).auth
  cases effect_of_step hr.of_restrict hstep with
  | @auth msg auth heffect =>
    exact Dclauth.wellFormed_effect (a := .deliver msg) hst hkeyed hlawful heffect
  | @writeBack signer pubKey sequence auth heffect =>
    exact Dclauth.wellFormed_effect (a := .writeBack signer pubKey sequence) hst hkeyed hlawful heffect
  | evidence _ hrevoked =>
    rcases hrevoked with rfl | ⟨a, -, heffect⟩
    · exact hst
    · exact Dclauth.wellFormed_effect (a := .revokeMalicious a) hst hkeyed trivial heffect
  | pki | validator | upgrade | endBlock => exact hst
  | other hchain => exact hchain ▸ hst

/-- The account is recorded under the address: it is active, pending, revoked or rejected. -/
def Recorded (s : Dclauth.Store) (a : AccAddress) (account : Dclauth.Account) : Prop :=
  s.getAccountO a = some account ∨ s.getPendingAccount a = some account ∨
    (s.getRevokedAccount a).map Dclauth.RevokedAccount.account = some account ∨
    s.getRejectedAccount a = some account

theorem Recorded.wellFormed {bech32 : Bech32} {keyAddress : Bytes → AccAddress} {s : Dclauth.Store}
    {a : AccAddress} {account : Dclauth.Account} (h : Recorded s a account)
    (hkeyed : Dclauth.Keyed bech32 s) (hs : Dclauth.WellFormed bech32 keyAddress s) :
    account.WellFormed bech32 keyAddress ∧ bech32.getAddress account.address = a := by
  rcases h with h | h | h | h
  · exact ⟨hs.account _ _ h, Dclauth.accountKey_injective (hkeyed.account _ _ h).symm⟩
  · exact ⟨hs.pendingAccount _ _ h, Dclauth.accountKey_injective (hkeyed.pendingAccount _ _ h).symm⟩
  · obtain ⟨revoked, hget, rfl⟩ := Option.map_eq_some_iff.mp h
    exact ⟨hs.revokedAccount _ _ hget,
      Dclauth.accountKey_injective (hkeyed.revokedAccount _ _ hget).symm⟩
  · exact ⟨hs.rejectedAccount _ _ h,
      Dclauth.accountKey_injective (hkeyed.rejectedAccount _ _ h).symm⟩

/-- **The accounts are valid.** Start from a genesis of well-formed accounts, let messages pass their
checks, and let the SDK write no key to an account but one of its address. Then every account, active,
pending, revoked or rejected, passes the check of its type, has a role, and only roles that there are;
it lies under its own address, and its vendor ID is in the range. An account that has a key has one of
that address. -/
theorem accounts_valid
    (hgenesis : ∀ account ∈ genesis, account.WellFormed env.addr.acc env.keys.keyAddress)
    (h : (env.catalog genesis).Reachable st) (a : AccAddress) (account : Dclauth.Account)
    (hrecorded : Recorded st.chain.auth a account) :
    account.validate env.addr.acc env.keys = .ok () ∧
      (account.roles ≠ [] ∧ ∀ role ∈ account.roles, role ∈ Dclauth.accountRoles) ∧
      (0 ≤ account.vendorID ∧ account.vendorID ≤ 65535) ∧
      env.addr.acc.getAddress account.address = a ∧
      (account.pubKey ≠ [] → env.keys.keyAddress account.pubKey = a) := by
  obtain ⟨hwf, haddress⟩ := hrecorded.wellFormed (consistent_of_reachable h.of_restrict).auth
    (wellFormed_of_reachable hgenesis h)
  refine ⟨hwf.validate_eq_ok, ⟨hwf.roles, hwf.known⟩, hwf.vendorID, haddress, fun hkey => ?_⟩
  rw [← haddress]
  exact hwf.key.resolve_left hkey

end Accounts

theorem wellFormed_exampleAccounts : ∀ account ∈ exampleAccounts,
    account.WellFormed exampleEnv.addr.acc exampleEnv.keys.keyAddress := by
  intro account haccount
  simp only [exampleAccounts, List.mem_cons, List.not_mem_nil, or_false] at haccount
  rcases haccount with rfl | rfl | rfl | rfl | rfl <;>
    exact ⟨⟨_, rfl⟩, .inl rfl, by decide, by decide, by decide, by decide⟩

/-- A trustee has added the account of a vendor. -/
theorem example_account_valid : ∃ st account, (exampleEnv.catalog exampleAccounts).Reachable st ∧
    st.chain.auth.getAccountO (utf8 "new") = some account ∧ account.pubKey ≠ [] ∧
    account.validate exampleEnv.addr.acc exampleEnv.keys = .ok () ∧
    exampleEnv.keys.keyAddress account.pubKey = utf8 "new" := by
  obtain ⟨st, hr, hp⟩ := exists_reachable_of_foldlM (T := exampleEnv.catalog exampleAccounts)
    (p := fun st => (st.chain.auth.getAccountO (utf8 "new")).any fun acc => acc.pubKey ≠ [])
    exampleNext step_of_exampleNext exampleHistory (by decide +kernel)
  obtain ⟨account, hget, hkey⟩ := (Option.any_eq_true ..).mp hp
  replace hkey := of_decide_eq_true hkey
  obtain ⟨hvalid, -, -, -, haddress⟩ :=
    accounts_valid wellFormed_exampleAccounts hr (utf8 "new") account (.inl hget)
  exact ⟨st, account, hr, hget, hkey, hvalid, haddress hkey⟩

end ComplianceLedger.Catalog
