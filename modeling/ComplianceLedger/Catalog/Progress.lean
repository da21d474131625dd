import ComplianceLedger.Catalog.Effect
import ComplianceLedger.Machine.Settling
import ComplianceLedger.Pki.Termination
import ComplianceLedger.Validators.Updates

/-!
# The ledger does not stop

A node stops where a message has no signer, where a handler does not return, or where the start or the
end of a block panics. A message without a signer does not pass its check. The handlers of most modules
return from every store, by their shape. Those of `pki` contain two recursions, which return in every
store of a run. The end of a block panics only on a validator whose key Tendermint does not know.

## Main definitions

* `Act.TendermintKeys`: validators are created under parameters that admit keys of Tendermint only

## Main results

* `Pki.settles_handle`: the handlers of `pki` return in every well-formed store
* `settles_handle`: the handlers of all steps return in the states of a run
* `never_stops`: from every state of a run every step can be taken
-/

open Machine Machine.Handler Machine.TransitionSystem

set_option synthInstance.maxSize 512

/-! ## Handlers that always return -/

namespace ComplianceLedger.Dclauth

variable (bech32 : Bech32)

instance total_trusteeSigner (message signer : String) :
    Total (trusteeSigner bech32 message signer) := by
  unfold trusteeSigner
  infer_instance

instance total_getNextAccountNumber : Total getNextAccountNumber := ⟨fun _ => ⟨_, rfl⟩⟩

instance total_addAccountToRevokedAccount (a : AccAddress) (approvals : List Grant)
    (reason : RevokedAccountReason) :
    Total (addAccountToRevokedAccount bech32 a approvals reason) := by
  unfold addAccountToRevokedAccount
  infer_instance

instance total_storeProposal (account : Account) (grant : Grant) :
    Total (storeProposal bech32 account grant) := by
  unfold storeProposal
  infer_instance

instance total_findPendingAccount (message rejectKind : String) (msg : MsgAccount) :
    Total (findPendingAccount bech32 message rejectKind msg) := by
  unfold findPendingAccount
  infer_instance

instance total_handle (msg : Msg) : Total (handle bech32 msg) := by
  cases msg with
  | proposeAddAccount msg =>
    unfold handle proposeAddAccount
    infer_instance
  | approveAddAccount msg =>
    unfold handle approveAddAccount
    exact Total.bind inferInstance fun ⟨_, _, _⟩ => inferInstance
  | rejectAddAccount msg =>
    unfold handle rejectAddAccount
    exact Total.bind inferInstance fun ⟨_, _, _⟩ => inferInstance
  | proposeRevokeAccount msg =>
    unfold handle proposeRevokeAccount
    infer_instance
  | approveRevokeAccount msg =>
    unfold handle approveRevokeAccount
    infer_instance

end ComplianceLedger.Dclauth

namespace ComplianceLedger.Validators

variable (addr : Addresses) (ctx : Context)

instance total_setting (f : Store → Except String Store) : Total (setting f) := by
  unfold setting
  infer_instance

instance total_trusteeAndValidator (message : String) (msg : MsgVoteDisableValidator) :
    Total (trusteeAndValidator addr ctx message msg) := by
  unfold trusteeAndValidator
  infer_instance

instance total_storeProposal (proposed : ProposedDisableValidator) (validatorAddr : ValAddress)
    (info : String) : Total (storeProposal addr ctx proposed validatorAddr info) := by
  unfold storeProposal
  infer_instance

instance total_findProposal (message : String) (msg : MsgVoteDisableValidator) :
    Total (findProposal addr ctx message msg) := by
  unfold findProposal
  exact Total.bind inferInstance fun ⟨_, _⟩ => inferInstance

instance total_handle (msg : Msg) : Total (handle addr ctx msg) := by
  cases msg with
  | createValidator msg =>
    unfold handle createValidator
    infer_instance
  | disableValidator creator =>
    unfold handle disableValidator nodeAdmin
    infer_instance
  | enableValidator creator =>
    unfold handle enableValidator nodeAdmin
    infer_instance
  | proposeDisableValidator msg =>
    unfold handle proposeDisableValidator
    exact Total.bind inferInstance fun ⟨_, _⟩ => inferInstance
  | approveDisableValidator msg =>
    unfold handle approveDisableValidator
    exact Total.bind inferInstance fun ⟨_, _, _⟩ => inferInstance
  | rejectDisableValidator msg =>
    unfold handle rejectDisableValidator
    exact Total.bind inferInstance fun ⟨_, _, _⟩ => inferInstance

end ComplianceLedger.Validators

namespace ComplianceLedger.Dclupgrade

variable (bech32 : Bech32) (ctx : Context)

instance total_scheduleUpgrade (plan : Plan) : Total (scheduleUpgrade ctx plan) where
  returns s := by
    unfold scheduleUpgrade
    split <;> exact ⟨_, rfl⟩

instance total_dropExpired (name : String) : Total (dropExpired ctx name) := by
  unfold dropExpired
  refine Total.bind inferInstance fun found => ?_
  split <;> infer_instance

instance total_storeProposal (cache : Store) (upgrade : ProposedUpgrade) :
    Total (storeProposal ctx cache upgrade) := by
  unfold storeProposal
  infer_instance

instance total_findProposal (message : String) (msg : MsgVoteUpgrade) :
    Total (findProposal bech32 ctx message msg) := by
  unfold findProposal
  infer_instance

instance total_handle (msg : Msg) : Total (handle bech32 ctx msg) := by
  cases msg with
  | proposeUpgrade msg =>
    unfold handle proposeUpgrade
    infer_instance
  | approveUpgrade msg =>
    unfold handle approveUpgrade
    exact Total.bind inferInstance fun ⟨_, _⟩ => inferInstance
  | rejectUpgrade msg =>
    unfold handle rejectUpgrade
    exact Total.bind inferInstance fun ⟨_, _⟩ => inferInstance

end ComplianceLedger.Dclupgrade

namespace ComplianceLedger.Models

variable (bech32 : Bech32) (accounts : Dclauth.AccountStore)

instance total_checkSigner (creator : String) (vid : Int32) (message : String) :
    Total (checkSigner bech32 accounts creator vid message) := by
  unfold checkSigner
  infer_instance

instance total_handle (msg : Msg) : Total (handle bech32 accounts msg) := by
  cases msg with
  | createModel msg =>
    unfold handle createModel
    infer_instance
  | updateModel msg =>
    unfold handle updateModel
    infer_instance
  | deleteModel msg =>
    unfold handle deleteModel
    infer_instance
  | createModelVersion msg =>
    unfold handle createModelVersion
    infer_instance
  | updateModelVersion msg =>
    unfold handle updateModelVersion
    infer_instance

end ComplianceLedger.Models

namespace ComplianceLedger.VendorInfos

instance total_handle (bech32 : Bech32) (accounts : Dclauth.AccountStore) (msg : Msg) :
    Total (handle bech32 accounts msg) := by
  cases msg with
  | createVendorInfo msg =>
    unfold handle createVendorInfo
    infer_instance
  | updateVendorInfo msg =>
    unfold handle updateVendorInfo
    infer_instance

end ComplianceLedger.VendorInfos

namespace ComplianceLedger.Compliance

variable (bech32 : Bech32) (parse : String → Option ℤ) (ctx : Context)

instance total_checkSigner (signer : String) : Total (checkSigner bech32 ctx signer) := by
  unfold checkSigner
  infer_instance

instance total_checkModelVersion (x : Subject) (softwareVersionString : String) :
    Total (checkModelVersion ctx x softwareVersionString) := by
  unfold checkModelVersion
  infer_instance

instance total_handle (msg : Msg) : Total (handle bech32 parse ctx msg) := by
  cases msg with
  | provisionModel msg =>
    unfold handle provisionModel
    refine Total.bind inferInstance fun _ => Total.bind inferInstance fun found => ?_
    cases found <;> infer_instance
  | certifyModel msg =>
    unfold handle certifyModel
    infer_instance
  | revokeModel msg =>
    unfold handle revokeModel
    refine Total.bind inferInstance fun _ => Total.bind inferInstance fun _ => ?_
    refine Total.bind inferInstance fun found => ?_
    cases found <;> infer_instance

end ComplianceLedger.Compliance

/-! ## The handlers of `pki` -/

namespace ComplianceLedger.Pki

variable {lib : CryptoX509} {bech32 : Bech32} {ctx : Context} {s : Store}

instance total_trusteeSigner (message signer : String) :
    Total (trusteeSigner bech32 ctx message signer) := by
  unfold trusteeSigner
  infer_instance

instance total_findProposedCertificate (msg : MsgIdentifier) :
    Total (findProposedCertificate bech32 ctx msg) := by
  unfold findProposedCertificate
  infer_instance

theorem readOnly_trusteeSigner (message signer : String) :
    (trusteeSigner bech32 ctx message signer).ReadOnly :=
  (readOnly_ofExcept _).bind fun _ => (readOnly_failIf _ _).bind fun _ => readOnly_pure _

/-- The search for a chain settles. -/
theorem settles_verifyCertificate (h : WellFormed lib s) (now : ℤ) (x : X509Certificate) (t : Store) :
    Settles (fun n => (ofOption (verifyCertificate lib now s n x) :
      Handler SdkError Store (String × String))) t := by
  obtain ⟨fuel, r, hr⟩ := exists_verifyCertificate ((wellFounded_issuedBy h).apply x) now
  exact settles_ofOption fun n hn => verifyCertificate_mono hn hr

/-- The revocation of children settles where the lists of children have no cycles. -/
theorem settles_revokeChildCertificates (h : Acyclic s.Edge) (issuer authorityKeyID : String) :
    Settles (fun n => (transform (revokeChildCertificates n issuer authorityKeyID) :
      Handler SdkError Store Unit)) s := by
  obtain ⟨fuel, t, ht⟩ := exists_revokeChildCertificates h issuer authorityKeyID
  have hsettled : ∀ n, fuel ≤ n → revokeChildCertificates n issuer authorityKeyID s = some t := by
    intro n hn
    rw [revokeChildCertificates_eq_cascade] at ht ⊢
    exact cascade_mono hn ht
  exact settles_transform hsettled

theorem settles_proposeAddX509RootCert (h : WellFormed lib s) (msg : MsgCert) :
    Settles (fun n => proposeAddX509RootCert lib bech32 n ctx msg) s := by
  unfold proposeAddX509RootCert
  refine settles_ofExcept_bind fun x _ => settles_failIf_bind fun _ => ?_
  refine settles_read_bind (settles_failIf_bind fun _ => ?_)
  refine settles_read_bind (settles_failIf_bind fun _ => settles_read_bind ?_)
  refine (settles_verifyCertificate h ctx.now x s).bind fun n root s₁ _ => ?_
  exact Total.settles inferInstance s₁

theorem settles_addX509Cert (h : WellFormed lib s) (msg : MsgCert) :
    Settles (fun n => addX509Cert lib n ctx msg) s := by
  unfold addX509Cert
  refine settles_ofExcept_bind fun x _ => settles_failIf_bind fun _ => ?_
  refine settles_read_bind (settles_failIf_bind fun _ => ?_)
  refine settles_read_bind (settles_ofExcept_bind fun _ _ => settles_read_bind ?_)
  refine (settles_verifyCertificate h ctx.now x s).bind fun n root s₁ _ => ?_
  exact Total.settles inferInstance s₁

theorem settles_approveRevokeX509RootCert (h : WellFormed lib s) (msg : MsgIdentifier) :
    Settles (fun n => approveRevokeX509RootCert bech32 n ctx msg) s := by
  unfold approveRevokeX509RootCert
  refine (readOnly_trusteeSigner _ _).settles_bind inferInstance fun signerAddr _ => ?_
  refine settles_readSome_bind fun found _ => settles_failIf_bind fun _ => ?_
  dsimp only
  split
  · refine settles_readSome_bind fun certificates _ => settles_write_bind (settles_write_bind ?_)
    refine Settles.bind (settles_revokeChildCertificates ?_ _ _) fun n _ s₁ _ => ?_
    · -- neither write touches the lists of children
      exact h.index.acyclic
    · exact Total.settles inferInstance s₁
  · exact Total.settles inferInstance s

theorem settles_revokeX509Cert (h : WellFormed lib s) (msg : MsgIdentifier) :
    Settles (fun n => revokeX509Cert n msg) s := by
  unfold revokeX509Cert
  refine settles_readSome_bind fun record hget => settles_ofExcept_bind fun first _ => ?_
  refine settles_failIf_bind fun _ => settles_failIf_bind fun _ => ?_
  refine settles_write_bind (settles_write_bind (settles_write_bind ?_))
  have hrecords := (records_retire h.records record hget (f := id) rfl
    (h.records.approved _ _ hget).2.1 (List.map_id _).symm).1
  refine (settles_revokeChildCertificates (h.index.acyclic.mono ?_) _ _).bind fun n _ s₁ _ => ?_
  · -- an identifier is taken off one of the lists
    rintro c p ⟨certID, hmem, hkey⟩
    refine ⟨certID, ?_, hkey⟩
    rw [hrecords.children_removeChildCertificate] at hmem
    split at hmem
    · exact List.mem_of_mem_erase hmem
    · exact hmem
  · exact Total.settles inferInstance s₁

/-- **The handlers of `pki` return in every well-formed store.** -/
theorem settles_handle (h : WellFormed lib s) (msg : Msg) :
    Settles (fun n => handle lib bech32 n ctx msg) s := by
  cases msg with
  | proposeAddX509RootCert msg => exact settles_proposeAddX509RootCert h msg
  | approveAddX509RootCert msg =>
    have htotal : Total (approveAddX509RootCert bech32 ctx msg) := by
      unfold approveAddX509RootCert
      exact Total.bind inferInstance fun ⟨_, _⟩ => inferInstance
    exact htotal.settles s
  | rejectAddX509RootCert msg =>
    have htotal : Total (rejectAddX509RootCert bech32 ctx msg) := by
      unfold rejectAddX509RootCert
      exact Total.bind inferInstance fun ⟨_, _⟩ => inferInstance
    exact htotal.settles s
  | addX509Cert msg => exact settles_addX509Cert h msg
  | proposeRevokeX509RootCert msg =>
    have htotal : Total (proposeRevokeX509RootCert bech32 ctx msg) := by
      unfold proposeRevokeX509RootCert
      infer_instance
    exact htotal.settles s
  | approveRevokeX509RootCert msg => exact settles_approveRevokeX509RootCert h msg
  | revokeX509Cert msg => exact settles_revokeX509Cert h msg

end ComplianceLedger.Pki

/-! ## The validators -/

namespace ComplianceLedger.Validators

variable {addr : Addresses} {s : Store}

/-- Evidence is handled without a panic. -/
theorem exists_processEvidence (hs : Consistent addr s) (ctx : Context) (evidence : Evidence) :
    ∃ r, processEvidence addr ctx evidence s = some r := by
  have hdouble : ∃ r, handleDoubleSign addr ctx evidence s = some r := by
    unfold handleDoubleSign
    split
    · exact ⟨_, rfl⟩
    · next v hv =>
      -- a validator that is found is stored under the address of its owner, so it can be jailed
      obtain ⟨a, -, hfound⟩ := getValidatorByConsAddr_eq_some_iff.mp hv
      rw [(hs.owned hfound).jail_eq]
      split
      · exact ⟨_, rfl⟩
      · split
        · exact ⟨_, rfl⟩
        · exact ⟨_, rfl⟩
  unfold processEvidence
  split
  · exact hdouble
  · exact hdouble
  · exact ⟨_, rfl⟩

end ComplianceLedger.Validators

/-! ## The ledger -/

namespace ComplianceLedger.Validators

instance : DecidablePred TendermintKeys
  | .deliver ctx (.createValidator _) => inferInstanceAs (Decidable (∃ types ∈ ctx.pubKeyTypes,
      ∀ type ∈ types, type = "ed25519" ∨ type = "secp256k1"))
  | .deliver _ (.disableValidator _) | .deliver _ (.enableValidator _)
  | .deliver _ (.proposeDisableValidator _) | .deliver _ (.approveDisableValidator _)
  | .deliver _ (.rejectDisableValidator _) | .evidence _ _ | .endBlock => isTrue trivial

end ComplianceLedger.Validators

namespace ComplianceLedger.Catalog

/-- The parameters of the consensus admit keys of Tendermint only, where a validator is created. -/
def Act.TendermintKeys : Act → Prop
  | .chain (.validator ctx msg) => Validators.TendermintKeys (.deliver ctx msg)
  | _ => True

instance : DecidablePred Act.TendermintKeys
  | .chain (.validator ctx msg) =>
    inferInstanceAs (Decidable (Validators.TendermintKeys (.deliver ctx msg)))
  | .chain (.auth _) | .chain (.writeBack _ _ _) | .chain (.pki _ _) | .chain (.upgrade _ _)
  | .chain (.evidence _ _) | .chain .endBlock | .model _ | .vendorInfo _ | .compliance _ =>
    isTrue trivial

variable {env : Env} {genesis : List Dclauth.Account} {st st' : State} {act : Act}

/-- The keys of the validators are keys of Tendermint, if the parameters of the consensus admit no
others. -/
theorem allKeyed_of_reachable
    (h : ((env.runs genesis).restrict fun _ act => act.TendermintKeys).Reachable st) :
    Validators.AllKeyed st.chain.validators := by
  refine h.induction (P := fun st => Validators.AllKeyed st.chain.validators) ?_ ?_
  · exact fun a v hget => nomatch (show none = some v from hget)
  rintro st act st' hr hst ⟨hstep, hkeys⟩
  have hs := (consistent_of_reachable hr.of_restrict).validators
  cases effect_of_step hr.of_restrict hstep with
  | @validator ctx msg validators heffect =>
    refine Validators.allKeyed_change hst (Validators.change_of_effect hs heffect) ?_
    cases msg with
    | createValidator msg => exact hkeys
    | disableValidator | enableValidator | proposeDisableValidator | approveDisableValidator
    | rejectDisableValidator => trivial
  | @evidence ctx evidence validators auth hjailed _ =>
    have hkeys : Validators.TendermintKeys (.evidence { ctx with accounts := st.accounts } evidence) :=
      trivial
    exact Validators.allKeyed_change hst (Validators.change_of_effect hs hjailed) hkeys
  | endBlock heffect =>
    have hkeys : Validators.TendermintKeys .endBlock := trivial
    exact Validators.allKeyed_change hst (Validators.change_of_effect hs heffect) hkeys
  | auth | writeBack | pki | upgrade => exact hst
  | other hchain => exact hchain ▸ hst

/-- The handlers of the steps of the chain return. -/
theorem settles_chain (h : Consistent env st) (hkeyed : Validators.AllKeyed st.chain.validators)
    (act : Ledger.Act) : Settles (fun n => handle env n (.chain act)) st := by
  cases act with
  | pki now msg =>
    obtain ⟨m, r, hm⟩ : Settles
      (fun n => Pki.handle env.lib env.addr.acc n ⟨st.accounts, now⟩ msg) st.chain.pki :=
      Pki.settles_handle h.pki msg
    refine ⟨m, (r.1, st.withPki r.2), fun n hn => ?_⟩
    simp only [handle, focus, hm n hn, Option.map_some]
  -- the other messages need no fuel
  | auth msg | validator ctx msg | upgrade ctx msg =>
    refine settles_of_const ?_ fun _ => rfl
    simp only [handle]
    exact Total.returns st
  | writeBack signer pubKey sequence => exact settles_of_const ⟨_, rfl⟩ fun _ => rfl
  | evidence ctx evidence =>
    obtain ⟨r, hr⟩ := Validators.exists_processEvidence h.validators
      { ctx with accounts := st.chain.auth.account } evidence
    have hstep : ∀ n, 0 ≤ n → next env.lib env.addr env.parse n st
        (.chain (.evidence ctx evidence)) = some ((st.withValidators r.1).withAuth
          (Ledger.revokeDoubleSigner env.addr r.2 st.chain.auth)) := fun _ _ =>
      Option.map_eq_some_iff.mpr ⟨_, Option.map_eq_some_iff.mpr ⟨r, hr, rfl⟩, rfl⟩
    exact settles_transform hstep
  | endBlock =>
    obtain ⟨updates, validators, hend⟩ := Validators.exists_endBlock h.validators hkeyed
    have hnext : Validators.next env.addr st.chain.validators .endBlock = some validators :=
      Option.map_eq_some_iff.mpr ⟨_, hend, rfl⟩
    have hstep : ∀ n, 0 ≤ n → next env.lib env.addr env.parse n st (.chain .endBlock) =
        some (st.withValidators validators) := fun _ _ =>
      Option.map_eq_some_iff.mpr ⟨_, Option.map_eq_some_iff.mpr ⟨_, hnext, rfl⟩, rfl⟩
    exact settles_transform hstep

/-- **The handlers of all steps return**, with one outcome however much fuel there is. -/
theorem settles_handle (h : Consistent env st) (hkeyed : Validators.AllKeyed st.chain.validators)
    (act : Act) : Settles (fun n => handle env n act) st := by
  cases act with
  | chain act => exact settles_chain h hkeyed act
  | model msg | vendorInfo msg | compliance msg =>
    refine settles_of_const ?_ fun _ => rfl
    simp only [handle]
    exact Total.returns st

/-- **The ledger does not stop.** Start from a genesis of accounts only, and let the parameters of the
consensus admit keys of Tendermint only, whenever a validator is created. Then from every state that is
reached every step can be taken, whatever has happened before: any message, an account that is written
back, any evidence, and the end of a block. The handler returns from some amount of fuel on, always with
the same answer and the same stores. And a message that passes its check has a signer. -/
theorem never_stops (h : ((env.runs genesis).restrict fun _ act => act.TendermintKeys).Reachable st)
    (act : Act) :
    (∀ msg, act.msg = some msg → msg.validateBasic env = .ok () → ∃ a, msg.getSigner env = .ok a) ∧
    ∃ fuel r st', (∀ n, fuel ≤ n → (handle env n act).deliver st = some (r, st')) ∧
      (env.runs genesis).step st act st' := by
  refine ⟨fun msg _ hcheck => Msg.signer_of_validateBasic hcheck, ?_⟩
  have hsettles := settles_handle (consistent_of_reachable h.of_restrict) (allKeyed_of_reachable h) act
  -- a handler that settles is delivered with one outcome, and that is a step
  obtain ⟨fuel, ⟨r, st'⟩, hreturns⟩ := hsettles.deliver
  exact ⟨fuel, r, st', hreturns, step_of_deliver (hreturns fuel le_rfl)⟩

/-- The node admin creates a validator, under the parameters of the default genesis. -/
def exampleValidator : List Act :=
  [.chain (.validator (Validators.exampleContext .empty) (Validators.exampleCreate "node"))]

/-- The block in which the validator of the example is created ends. -/
theorem example_block_ends : ∃ st st',
    ((exampleEnv.runs exampleAccounts).restrict fun _ act => act.TendermintKeys).Reachable st ∧
    st.chain.validators.validator.values.length = 1 ∧
    (exampleEnv.runs exampleAccounts).step st (.chain .endBlock) st' := by
  obtain ⟨st, hreachable, hp⟩ := exists_reachable_of_foldlM
    (T := (exampleEnv.runs exampleAccounts).restrict fun _ act => act.TendermintKeys)
    (p := fun st => st.chain.validators.validator.values.length = 1)
    (guarded (fun _ act => act.TendermintKeys) exampleNext)
    (step_of_guarded fun h => (step_of_exampleNext h).1) exampleValidator (by decide +kernel)
  obtain ⟨-, fuel, r, st', -, hstep⟩ := never_stops hreachable (.chain .endBlock)
  exact ⟨st, st', hreachable, of_decide_eq_true hp, hstep⟩

end ComplianceLedger.Catalog
