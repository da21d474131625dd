import ComplianceLedger.Validators.MsgServer

/-!
# What happens to the validators

Every validator lies under the address of its own owner, and every record about a validator names one
that is stored. The handlers rely on this without checking it: they look validators up and go on with
the zero value if there is none. Where it holds, a step leaves the store as it is, ends a block, or
does one of ten things to the records of one validator; `Effect` lists them with what was found
before and with the store that is left.

## Main definitions

* `Addresses.IsAddress`: the addresses that some text stands for
* `Consistent addr s`: every record lies under its own address and names a stored validator
* `Effect addr s a s'`: what happens to the records of one validator
* `Change addr s a s'`: what happens to the validators themselves

## Main results

* `step_effect`: every step is an effect
* `change_of_effect`: every effect is a change
* `consistent_effect`, `consistent_of_reachable`: the records are consistent in every run
-/

open Machine Machine.Handler Machine.TransitionSystem

namespace ComplianceLedger.Validators

/-- Some text stands for the address. -/
def Addresses.IsAddress (addr : Addresses) (a : ValAddress) : Prop :=
  ∃ text, addr.valAddressFromBech32 text = .ok a

section Definitions

variable (addr : Addresses)

/-- A validator is that of an address: it has a key, and is either jailed without power or not jailed
with the power that all have. -/
structure Validator.Owned (v : Validator) (a : ValAddress) : Prop where
  isAddress : addr.IsAddress a
  owner : v.owner = addr.valString a
  pubKey : v.pubKey.isSome
  power : v.jailed = true ∧ v.power = 0 ∨ v.jailed = false ∧ v.power = Validators.power

/-- Every record lies under its own address and names a stored validator, which is jailed if it is
disabled. -/
structure Consistent (s : Store) : Prop where
  validator : s.validator.All fun k v => ∃ a, k = validatorKey a ∧ v.Owned addr a
  disabled : s.disabledValidator.All fun k record => ∃ a v, addr.IsAddress a ∧
    k = disabledValidatorKey (addr.valString a) ∧ record.address = addr.valString a ∧
    s.getValidator a = some v ∧ v.jailed = true
  proposed : s.proposedDisableValidator.All fun k record => ∃ a v, addr.IsAddress a ∧
    k = proposedDisableValidatorKey (addr.valString a) ∧ record.address = addr.valString a ∧
    s.getValidator a = some v

variable (s : Store)

/-- A validator that is found, and whose owner signs. -/
structure FoundByOwner (ctx : Context) (creator : String) (a : ValAddress) (v : Validator) :
    Prop where
  creator : addr.valAddressFromBech32 creator = .ok a
  role : ctx.accounts.hasRole a enableDisableValidatorRole = true
  found : s.getValidator a = some v

/-- A trustee signs a message about a validator that is found. -/
structure SignedByTrustee (ctx : Context) (msg : MsgVoteDisableValidator) (t : AccAddress)
    (a : ValAddress) (v : Validator) : Prop where
  creator : addr.acc.accAddressFromBech32 msg.creator = .ok t
  address : addr.valAddressFromBech32 msg.address = .ok a
  role : ctx.accounts.hasRole t voteForDisableValidatorRole = true
  found : s.getValidator a = some v

/-- A vote on a proposal that is counted: it comes from a trustee who has neither approved nor
rejected it. -/
structure ProposalVote (ctx : Context) (msg : MsgVoteDisableValidator) (t : AccAddress)
    (a : ValAddress) (v : Validator) (proposed : ProposedDisableValidator) : Prop extends
    SignedByTrustee addr s ctx msg t a v where
  pending : s.getProposedDisableValidator (addr.valString a) = some proposed
  names : proposed.address = addr.valString a
  no_reject : proposed.hasRejectDisableFrom (addr.acc.string t) = false
  no_approval : proposed.hasApprovalFrom (addr.acc.string t) = false

/-- A proposal that is accepted: the validator is neither disabled nor proposed to be. -/
structure Proposal (ctx : Context) (msg : MsgVoteDisableValidator) (t : AccAddress) (a : ValAddress)
    (v : Validator) : Prop extends SignedByTrustee addr s ctx msg t a v where
  not_disabled : s.getDisabledValidator (addr.valString a) = none
  not_pending : s.getProposedDisableValidator (addr.valString a) = none

/-- **What happens to the records of one validator**: nothing, the end of a block, or one of ten
things. -/
inductive Effect : Act → Store → Prop
  | refused (a : Act) : Effect a s
  | created {ctx : Context} {msg : MsgCreateValidator} {a : ValAddress} {pk : PubKey}
      (signer : addr.valAddressFromBech32 msg.signer = .ok a)
      (role : ctx.accounts.hasRole a .nodeAdmin = true)
      (room : s.countLastValidators ≠ maxNodes)
      (free : s.getValidator a = none)
      (pubKey : msg.pubKey = some pk)
      (unknown : s.getValidatorByConsAddr (addr.address pk) = none)
      (type : checkPubKeyType ctx pk = .ok ()) :
      Effect (.deliver ctx (.createValidator msg))
        { s with
          validator := s.validator.set (validatorKey a) (newValidator addr a pk msg.description)
          validatorByConsAddr :=
            s.validatorByConsAddr.set (validatorByConsAddrKey (addr.address pk)) a }
  | disabled {ctx : Context} {creator : String} {a : ValAddress} {v : Validator}
      (found : FoundByOwner addr s ctx creator a v)
      (free : s.getDisabledValidator creator = none) :
      Effect (.deliver ctx (.disableValidator creator))
        { s with
          validator := s.validator.set (validatorKey a) (v.jail "disabled by a node admin")
          disabledValidator := s.disabledValidator.set (disabledValidatorKey (addr.valString a))
            ⟨addr.valString a, addr.acc.string a, [], true, []⟩ }
  | enabled {ctx : Context} {creator : String} {a : ValAddress} {v : Validator}
      {record : DisabledValidator}
      (found : FoundByOwner addr s ctx creator a v)
      (spelled : creator = addr.valString a)
      (disabled : s.getDisabledValidator (addr.valString a) = some record) :
      Effect (.deliver ctx (.enableValidator creator))
        { s with
          validator := s.validator.set (validatorKey a) v.unjail
          disabledValidator :=
            s.disabledValidator.delete (disabledValidatorKey (addr.valString a)) }
  | proposed {ctx : Context} {msg : MsgVoteDisableValidator} {t : AccAddress} {a : ValAddress}
      {v : Validator} (proposal : Proposal addr s ctx msg t a v)
      (count : 1 < disableValidatorApprovalsCount ctx) :
      Effect (.deliver ctx (.proposeDisableValidator msg))
        { s with
          proposedDisableValidator :=
            s.proposedDisableValidator.set (proposedDisableValidatorKey (addr.valString a))
              ⟨addr.valString a, addr.acc.string t, [grantOf addr msg t], []⟩
          rejectedNode := s.rejectedNode.delete (rejectedNodeKey a) }
  | disabledAtOnce {ctx : Context} {msg : MsgVoteDisableValidator} {t : AccAddress}
      {a : ValAddress} {v : Validator} (proposal : Proposal addr s ctx msg t a v)
      (count : disableValidatorApprovalsCount ctx ≤ 1) :
      Effect (.deliver ctx (.proposeDisableValidator msg))
        { s with
          validator := s.validator.set (validatorKey a) (v.jail msg.info)
          disabledValidator := s.disabledValidator.set (disabledValidatorKey (addr.valString a))
            ⟨addr.valString a, addr.acc.string t, [grantOf addr msg t], false, []⟩
          rejectedNode := s.rejectedNode.delete (rejectedNodeKey a) }
  | approved {ctx : Context} {msg : MsgVoteDisableValidator} {t : AccAddress} {a : ValAddress}
      {v : Validator} {found : ProposedDisableValidator}
      (vote : ProposalVote addr s ctx msg t a v found)
      (count : found.approvals.length + 1 < disableValidatorApprovalsCount ctx) :
      Effect (.deliver ctx (.approveDisableValidator msg))
        { s with
          proposedDisableValidator :=
            s.proposedDisableValidator.set (proposedDisableValidatorKey (addr.valString a))
              { found with approvals := found.approvals ++ [grantOf addr msg t] } }
  | disabledByVotes {ctx : Context} {msg : MsgVoteDisableValidator} {t : AccAddress}
      {a : ValAddress} {v : Validator} {found : ProposedDisableValidator}
      (vote : ProposalVote addr s ctx msg t a v found)
      (count : disableValidatorApprovalsCount ctx ≤ found.approvals.length + 1) :
      Effect (.deliver ctx (.approveDisableValidator msg))
        { s with
          proposedDisableValidator :=
            s.proposedDisableValidator.delete (proposedDisableValidatorKey (addr.valString a))
          validator := s.validator.set (validatorKey a)
            (v.jail (found.approvals.headD (grantOf addr msg t)).info)
          disabledValidator := s.disabledValidator.set (disabledValidatorKey (addr.valString a))
            ⟨found.address, found.creator, found.approvals ++ [grantOf addr msg t], false,
              found.rejects⟩ }
  | rejected {ctx : Context} {msg : MsgVoteDisableValidator} {t : AccAddress} {a : ValAddress}
      {v : Validator} {found : ProposedDisableValidator}
      (vote : ProposalVote addr s ctx msg t a v found)
      (count : found.rejects.length + 1 < disableValidatorRejectApprovalsCount ctx) :
      Effect (.deliver ctx (.rejectDisableValidator msg))
        { s with
          proposedDisableValidator :=
            s.proposedDisableValidator.set (proposedDisableValidatorKey (addr.valString a))
              { found with rejects := found.rejects ++ [grantOf addr msg t] } }
  | discarded {ctx : Context} {msg : MsgVoteDisableValidator} {t : AccAddress} {a : ValAddress}
      {v : Validator} {found : ProposedDisableValidator}
      (vote : ProposalVote addr s ctx msg t a v found)
      (count : disableValidatorRejectApprovalsCount ctx ≤ found.rejects.length + 1) :
      Effect (.deliver ctx (.rejectDisableValidator msg))
        { s with
          proposedDisableValidator :=
            s.proposedDisableValidator.delete (proposedDisableValidatorKey (addr.valString a))
          rejectedNode := s.rejectedNode.set (rejectedNodeKey a)
            { found with rejects := found.rejects ++ [grantOf addr msg t] } }
  | jailed {ctx : Context} {evidence : Evidence} {a : ValAddress} {v : Validator}
      (isAddress : addr.IsAddress a)
      (owner : v.owner = addr.valString a)
      (found : s.getValidator a = some v)
      (byKey : s.getValidatorByConsAddr evidence.consensusAddress = some v)
      (free : v.jailed = false) :
      Effect (.evidence ctx evidence)
        { s with
          validator := s.validator.set (validatorKey a) (v.jail (evidence.reason addr ctx)) }
  | ended {s' : Store} {updates : List ValidatorUpdate}
      (ends : applyAndReturnValidatorSetUpdates addr s = some (updates, s')) :
      Effect .endBlock s'

end Definitions

/-! ## The handlers -/

section Inversion

variable {addr : Addresses} {ctx : Context} {s s' : Store} {u : Unit}

theorem Consistent.owned (h : Consistent addr s) {a : ValAddress} {v : Validator}
    (hget : s.getValidator a = some v) : v.Owned addr a := by
  obtain ⟨b, hkey, howned⟩ := h.validator _ _ hget
  rwa [validatorKey_injective hkey]

theorem IsAddress.eq {a b : ValAddress} (ha : addr.IsAddress a) (hb : addr.IsAddress b)
    (h : addr.valString a = addr.valString b) : a = b := by
  obtain ⟨text, ha⟩ := ha
  obtain ⟨text', hb⟩ := hb
  have hdecode := addr.decode_valString ha
  rw [h, addr.decode_valString hb] at hdecode
  exact (Except.ok.inj hdecode).symm

/-- A disabled validator is found under the text that the codec has for its address only. -/
theorem Consistent.of_disabled (h : Consistent addr s) {text : String} {a : ValAddress}
    {record : DisabledValidator} (hdecode : addr.valAddressFromBech32 text = .ok a)
    (hget : s.getDisabledValidator text = some record) :
    text = addr.valString a ∧ ∃ v, s.getValidator a = some v ∧ v.jailed = true := by
  obtain ⟨b, v, ⟨text', hb⟩, hkey, -, hfound⟩ := h.disabled _ _ hget
  obtain rfl := disabledValidatorKey_injective hkey
  obtain rfl := Except.ok.inj ((addr.decode_valString hb).symm.trans hdecode)
  exact ⟨rfl, v, hfound⟩

/-- A proposal is about the address that it is found under. -/
theorem Consistent.of_proposed (h : Consistent addr s) {a : ValAddress}
    {record : ProposedDisableValidator} (ha : addr.IsAddress a)
    (hget : s.getProposedDisableValidator (addr.valString a) = some record) :
    record.address = addr.valString a ∧ ∃ v, s.getValidator a = some v := by
  obtain ⟨b, v, hb, hkey, haddress, hfound⟩ := h.proposed _ _ hget
  obtain rfl := IsAddress.eq ha hb (disabledValidatorKey_injective hkey)
  exact ⟨haddress, v, hfound⟩

/-- Setting a validator that keeps the owner it was found with. -/
theorem setValidator_eq {a : ValAddress} {v : Validator} (ha : addr.IsAddress a)
    (hv : v.owner = addr.valString a) :
    s.setValidator addr v = .ok { s with validator := s.validator.set (validatorKey a) v } := by
  obtain ⟨text, hdecode⟩ := ha
  rw [Store.setValidator, Validator.getOwner_eq hdecode hv]

theorem setValidatorByConsAddr_newValidator {text : String} {a : ValAddress} {pk : PubKey}
    {description : Description} (hdecode : addr.valAddressFromBech32 text = .ok a) :
    s.setValidatorByConsAddr addr (newValidator addr a pk description) =
      .ok { s with
        validatorByConsAddr :=
          s.validatorByConsAddr.set (validatorByConsAddrKey (addr.address pk)) a } := by
  have howner : (newValidator addr a pk description).getOwner addr = .ok a :=
    Validator.getOwner_eq hdecode rfl
  simp only [Store.setValidatorByConsAddr, howner]
  rfl

theorem setting_bind_ok_iff {β : Type} {g : Store → Except String Store}
    {f : Unit → Handler SdkError Store β} {b : β} :
    (setting g >>= f) s = some (.ok b, s') ↔ ∃ t, g s = .ok t ∧ f () t = some (.ok b, s') := by
  simp only [setting, attempt_bind_ok_iff, decodeWith_eq_ok_iff]

theorem nodeAdmin_ok {message creator : String} {a : ValAddress}
    (h : nodeAdmin addr ctx message creator s = some (.ok a, s')) :
    addr.valAddressFromBech32 creator = .ok a ∧
      ctx.accounts.hasRole a enableDisableValidatorRole = true ∧ s = s' := by
  simp only [nodeAdmin, ofExcept_bind_ok_iff, failIf_bind_ok_iff, pure_ok_iff,
    decodeWith_eq_ok_iff] at h
  obtain ⟨a', hcreator, hrole, rfl, rfl⟩ := h
  exact ⟨hcreator, by simpa using hrole, rfl⟩

theorem trusteeAndValidator_ok {message : String} {msg : MsgVoteDisableValidator}
    {t : AccAddress} {a : ValAddress}
    (h : trusteeAndValidator addr ctx message msg s = some (.ok (t, a), s')) :
    addr.acc.accAddressFromBech32 msg.creator = .ok t ∧
      addr.valAddressFromBech32 msg.address = .ok a ∧
      ctx.accounts.hasRole t voteForDisableValidatorRole = true ∧ s = s' := by
  simp only [trusteeAndValidator, ofExcept_bind_ok_iff, failIf_bind_ok_iff, pure_ok_iff,
    decodeWith_eq_ok_iff, Prod.mk.injEq] at h
  obtain ⟨t, hcreator, a, haddress, hrole, ⟨rfl, rfl⟩, rfl⟩ := h
  exact ⟨hcreator, haddress, by simpa using hrole, rfl⟩

theorem findProposal_ok (hs : Consistent addr s) {message : String} {msg : MsgVoteDisableValidator}
    {t : AccAddress} {a : ValAddress} {found : ProposedDisableValidator}
    (h : findProposal addr ctx message msg s = some (.ok (t, a, found), s')) :
    ∃ v, ProposalVote addr s ctx msg t a v found ∧ s = s' := by
  obtain ⟨⟨t, a⟩, s₁, h₁, h⟩ := bind_ok_iff.mp h
  obtain ⟨hcreator, haddress, hrole, rfl⟩ := trusteeAndValidator_ok h₁
  simp only [readSome_bind_ok_iff, failIf_bind_ok_iff, pure_ok_iff, Prod.mk.injEq] at h
  obtain ⟨proposed, hpending, hreject, happroval, ⟨rfl, rfl, rfl⟩, rfl⟩ := h
  obtain ⟨hnames, v, hfound⟩ := hs.of_proposed ⟨_, haddress⟩ hpending
  exact ⟨v, ⟨⟨hcreator, haddress, hrole, hfound⟩, hpending, hnames, by simpa using hreject,
    by simpa using happroval⟩, rfl⟩

/-- Jailing a validator that is found. -/
theorem Validator.Owned.jail_eq {a : ValAddress} {v : Validator} {reason : String}
    (h : v.Owned addr a) :
    s.jail addr v reason =
      .ok { s with validator := s.validator.set (validatorKey a) (v.jail reason) } :=
  setValidator_eq h.isAddress h.owner

theorem Validator.Owned.unjail_eq {a : ValAddress} {v : Validator} (h : v.Owned addr a) :
    s.unjail addr v = .ok { s with validator := s.validator.set (validatorKey a) v.unjail } :=
  setValidator_eq h.isAddress h.owner

theorem createValidator_ok {msg : MsgCreateValidator}
    (h : createValidator addr ctx msg s = some (.ok u, s')) :
    Effect addr s (.deliver ctx (.createValidator msg)) s' := by
  simp only [createValidator, ofExcept_bind_ok_iff, failIf_bind_ok_iff, read_bind_ok_iff,
    setting_bind_ok_iff, attempt_ok_iff, decodeWith_eq_ok_iff, decodePubKey_eq_ok_iff] at h
  obtain ⟨a, hsigner, hrole, hroom, hfree, pk, hpk, hunknown, -, -, ⟨⟩, htype, s₁, hset, h⟩ := h
  rw [setValidator_eq ⟨_, hsigner⟩ rfl] at hset
  obtain rfl := Except.ok.inj hset
  rw [setValidatorByConsAddr_newValidator hsigner] at h
  obtain rfl := Except.ok.inj h
  exact Effect.created hsigner (by simpa using hrole) hroom (by simpa using hfree) hpk
    (by simpa using hunknown) htype

theorem disableValidator_ok (hs : Consistent addr s) {creator : String}
    (h : disableValidator addr ctx creator s = some (.ok u, s')) :
    Effect addr s (.deliver ctx (.disableValidator creator)) s' := by
  obtain ⟨a, s₁, h₁, h⟩ := bind_ok_iff.mp h
  obtain ⟨hcreator, hrole, rfl⟩ := nodeAdmin_ok h₁
  simp only [failIf_bind_ok_iff, read_bind_ok_iff, setting_bind_ok_iff, write_ok_iff] at h
  obtain ⟨hpresent, hfree, s₁, hset, rfl⟩ := h
  obtain ⟨v, hfound⟩ := KVStore.has_iff.mp (Bool.of_not_eq_false hpresent)
  replace hfound : s.getValidator a = some v := hfound
  rw [hfound, Option.getD_some, (hs.owned hfound).jail_eq] at hset
  obtain rfl := Except.ok.inj hset
  exact Effect.disabled ⟨hcreator, hrole, hfound⟩ (by simpa using hfree)

theorem enableValidator_ok (hs : Consistent addr s) {creator : String}
    (h : enableValidator addr ctx creator s = some (.ok u, s')) :
    Effect addr s (.deliver ctx (.enableValidator creator)) s' := by
  obtain ⟨a, s₁, h₁, h⟩ := bind_ok_iff.mp h
  obtain ⟨hcreator, hrole, rfl⟩ := nodeAdmin_ok h₁
  simp only [failIf_bind_ok_iff, read_bind_ok_iff, setting_bind_ok_iff, write_ok_iff] at h
  obtain ⟨hdisabled, s₁, hset, rfl⟩ := h
  obtain ⟨record, hrecord⟩ := Option.ne_none_iff_exists'.mp hdisabled
  obtain ⟨rfl, v, hfound, -⟩ := hs.of_disabled hcreator hrecord
  rw [hfound, Option.getD_some, (hs.owned hfound).unjail_eq] at hset
  obtain rfl := Except.ok.inj hset
  exact Effect.enabled ⟨hcreator, hrole, hfound⟩ rfl hrecord

theorem proposeDisableValidator_ok (hs : Consistent addr s) {msg : MsgVoteDisableValidator}
    (h : proposeDisableValidator addr ctx msg s = some (.ok u, s')) :
    Effect addr s (.deliver ctx (.proposeDisableValidator msg)) s' := by
  obtain ⟨⟨t, a⟩, s₁, h₁, h⟩ := bind_ok_iff.mp h
  obtain ⟨hcreator, haddress, hrole, rfl⟩ := trusteeAndValidator_ok h₁
  simp only [failIf_bind_ok_iff, read_bind_ok_iff] at h
  obtain ⟨hpresent, hdisabled, hpending, h⟩ := h
  obtain ⟨v, hfound⟩ := KVStore.has_iff.mp (Bool.of_not_eq_false hpresent)
  have hproposal : Proposal addr s ctx msg t a v :=
    ⟨⟨hcreator, haddress, hrole, hfound⟩, by simpa using hdisabled, by simpa using hpending⟩
  have hbytes : addr.val.getAddress (addr.valString a) = a := Bech32.getAddress_string haddress
  obtain ⟨⟨⟩, s₂, h₂, h⟩ := bind_ok_iff.mp h
  obtain rfl := write_ok_iff.mp h
  unfold storeProposal at h₂
  split at h₂
  · next hcount =>
    obtain rfl := write_ok_iff.mp h₂
    simp only [Store.setProposedDisableValidator, Store.removeRejectedNode, hbytes]
    exact Effect.proposed hproposal hcount
  · next hcount =>
    simp only [read_bind_ok_iff, setting_bind_ok_iff, write_ok_iff] at h₂
    obtain ⟨s₃, hset, rfl⟩ := h₂
    rw [hproposal.found, Option.getD_some, (hs.owned hproposal.found).jail_eq] at hset
    obtain rfl := Except.ok.inj hset
    simp only [Store.setDisabledValidator, Store.removeRejectedNode, hbytes]
    exact Effect.disabledAtOnce hproposal (not_lt.mp hcount)

theorem approveDisableValidator_ok (hs : Consistent addr s) {msg : MsgVoteDisableValidator}
    (h : approveDisableValidator addr ctx msg s = some (.ok u, s')) :
    Effect addr s (.deliver ctx (.approveDisableValidator msg)) s' := by
  obtain ⟨⟨t, a, found⟩, s₁, h₁, h⟩ := bind_ok_iff.mp h
  obtain ⟨v, hvote, rfl⟩ := findProposal_ok hs h₁
  obtain ⟨address, creator, approvals, rejects⟩ := found
  obtain rfl : address = addr.valString a := hvote.names
  simp only [List.length_append, List.length_singleton] at h
  split at h
  · next hcount =>
    simp only [write_bind_ok_iff, read_bind_ok_iff, setting_bind_ok_iff, write_ok_iff] at h
    obtain ⟨s₂, hset, rfl⟩ := h
    have hfound : (s.removeProposedDisableValidator (addr.valString a)).getValidator a = some v :=
      hvote.found
    rw [hfound, Option.getD_some, (hs.owned hvote.found).jail_eq] at hset
    obtain rfl := Except.ok.inj hset
    exact Effect.disabledByVotes hvote hcount
  · next hcount =>
    obtain rfl := write_ok_iff.mp h
    exact Effect.approved hvote (not_le.mp hcount)

theorem rejectDisableValidator_ok (hs : Consistent addr s) {msg : MsgVoteDisableValidator}
    (h : rejectDisableValidator addr ctx msg s = some (.ok u, s')) :
    Effect addr s (.deliver ctx (.rejectDisableValidator msg)) s' := by
  obtain ⟨⟨t, a, found⟩, s₁, h₁, h⟩ := bind_ok_iff.mp h
  obtain ⟨v, hvote, rfl⟩ := findProposal_ok hs h₁
  obtain ⟨address, creator, approvals, rejects⟩ := found
  obtain rfl : address = addr.valString a := hvote.names
  simp only [List.length_append, List.length_singleton] at h
  split at h
  · next hcount =>
    simp only [write_bind_ok_iff, write_ok_iff] at h
    obtain rfl := h
    have hbytes : addr.val.getAddress (addr.valString a) = a :=
      Bech32.getAddress_string hvote.address
    simp only [Store.removeProposedDisableValidator, Store.setRejectedNode, hbytes]
    exact Effect.discarded hvote hcount
  · next hcount =>
    obtain rfl := write_ok_iff.mp h
    exact Effect.rejected hvote (not_le.mp hcount)

theorem handle_ok (hs : Consistent addr s) {msg : Msg}
    (h : handle addr ctx msg s = some (.ok u, s')) : Effect addr s (.deliver ctx msg) s' := by
  cases msg with
  | createValidator msg => exact createValidator_ok h
  | disableValidator creator => exact disableValidator_ok hs h
  | enableValidator creator => exact enableValidator_ok hs h
  | proposeDisableValidator msg => exact proposeDisableValidator_ok hs h
  | approveDisableValidator msg => exact approveDisableValidator_ok hs h
  | rejectDisableValidator msg => exact rejectDisableValidator_ok hs h

theorem getValidatorByConsAddr_eq_some_iff {consAddr : ConsAddress} {v : Validator} :
    s.getValidatorByConsAddr consAddr = some v ↔
      ∃ a, s.validatorByConsAddr.get (validatorByConsAddrKey consAddr) = some a ∧
        s.getValidator a = some v := by
  unfold Store.getValidatorByConsAddr
  cases s.validatorByConsAddr.get (validatorByConsAddrKey consAddr) <;> simp

theorem handleDoubleSign_some (hs : Consistent addr s) {evidence : Evidence}
    {account : Option AccAddress}
    (h : handleDoubleSign addr ctx evidence s = some (s', account)) :
    Effect addr s (.evidence ctx evidence) s' := by
  unfold handleDoubleSign at h
  split at h
  · obtain ⟨rfl, -⟩ := Prod.mk.inj (Option.some.inj h)
    exact Effect.refused _
  · next v hv =>
    obtain ⟨a, -, hfound⟩ := getValidatorByConsAddr_eq_some_iff.mp hv
    have howned := hs.owned hfound
    split at h
    · obtain ⟨rfl, -⟩ := Prod.mk.inj (Option.some.inj h)
      exact Effect.refused _
    · obtain ⟨t, ht, hpair⟩ := Option.map_eq_some_iff.mp h
      obtain ⟨rfl, -⟩ := Prod.mk.inj hpair
      split at ht
      · obtain rfl := Option.some.inj ht
        exact Effect.refused _
      · next hjailed =>
        rw [howned.jail_eq] at ht
        obtain rfl := Option.some.inj ht
        exact Effect.jailed howned.isAddress howned.owner hfound hv (Bool.eq_false_iff.mpr hjailed)

theorem processEvidence_some (hs : Consistent addr s) {evidence : Evidence}
    {account : Option AccAddress}
    (h : processEvidence addr ctx evidence s = some (s', account)) :
    Effect addr s (.evidence ctx evidence) s' := by
  unfold processEvidence at h
  split at h
  · exact handleDoubleSign_some hs h
  · exact handleDoubleSign_some hs h
  · obtain ⟨rfl, -⟩ := Prod.mk.inj (Option.some.inj h)
    exact Effect.refused _

/-- **Every step is an effect.** -/
theorem step_effect {a : Act} (hs : Consistent addr s) (h : (validators addr).step s a s') :
    Effect addr s a s' := by
  obtain ⟨updates, h⟩ := h
  cases a with
  | deliver ctx msg =>
    obtain ⟨⟨r, t⟩, hd, hpair⟩ := Option.map_eq_some_iff.mp h
    obtain ⟨-, rfl⟩ := Prod.mk.inj hpair
    rcases deliver_cases hd with ⟨u, -, hok⟩ | ⟨-, heq⟩
    · exact handle_ok hs hok
    · obtain rfl : t = s := heq
      exact Effect.refused _
  | evidence ctx evidence =>
    obtain ⟨⟨t, account⟩, ht, hpair⟩ := Option.map_eq_some_iff.mp h
    obtain ⟨-, rfl⟩ := Prod.mk.inj hpair
    exact processEvidence_some hs ht
  | endBlock => exact Effect.ended h

end Inversion

/-! ## The end of a block -/

section EndBlock

variable {addr : Addresses} {s s' : Store} {updates : List ValidatorUpdate}

/-- The key of a validator as Tendermint has it. -/
def Validator.tmKey (v : Validator) : Option TmPublicKey := v.pubKey.bind PubKey.toTmProtoPublicKey

/-- The store with the power of a validator noted as that of the last block. -/
def Store.noteActive (addr : Addresses) (a : ValAddress) (s : Store) : Store :=
  { s with
    lastValidatorPower :=
      s.lastValidatorPower.set (lastValidatorPowerKey a) (newLastValidatorPower addr a) }

/-- What the end of a block does about one validator: it is removed, it is added, or it was active as
it is now. -/
inductive Applied (addr : Addresses) (a : ValAddress) (v : Validator)
    (p : List ValidatorUpdate × Store) : List ValidatorUpdate × Store → Prop
  | removed {tm : TmPublicKey} (key : v.tmKey = some tm) (was : 0 < p.2.lastPower a)
      (now : v.power = 0) :
      Applied addr a v p (p.1 ++ [⟨tm, 0⟩], p.2.removeLastValidatorPower a)
  | added {tm : TmPublicKey} (key : v.tmKey = some tm) (was : p.2.lastPower a = 0)
      (now : 0 < v.power) :
      Applied addr a v p (p.1 ++ [⟨tm, v.power⟩], p.2.noteActive addr a)
  | kept (same : 0 < p.2.lastPower a ↔ 0 < v.power) : Applied addr a v p p

theorem applyValidator_eq {a : ValAddress} {v : Validator} (howned : v.Owned addr a)
    (p : List ValidatorUpdate × Store) :
    applyValidator addr p v =
      if 0 < p.2.lastPower a ∧ v.power = 0 then
        v.tmKey.map fun tm => (p.1 ++ [⟨tm, 0⟩], p.2.removeLastValidatorPower a)
      else if p.2.lastPower a = 0 ∧ 0 < v.power then
        v.tmKey.map fun tm => (p.1 ++ [⟨tm, v.power⟩], p.2.noteActive addr a)
      else some p := by
  obtain ⟨text, hdecode⟩ := howned.isAddress
  have howner := Validator.getOwner_eq hdecode howned.owner
  have hset : p.2.setLastValidatorPower addr (newLastValidatorPower addr a) =
      .ok (p.2.noteActive addr a) := by
    simp only [Store.setLastValidatorPower, newLastValidatorPower, addr.decode_valString hdecode]
    rfl
  simp only [applyValidator, Validator.abciValidatorUpdateZero, Validator.abciValidatorUpdate,
    howner, Except.toOption, Option.bind_eq_bind, Option.bind_some, hset, Validator.tmKey]
  -- the two branches that send a change need the key
  cases v.pubKey.bind PubKey.toTmProtoPublicKey with
  | none => rfl
  | some tm => rfl

theorem applied_of_applyValidator {a : ValAddress} {v : Validator} (howned : v.Owned addr a)
    {p q : List ValidatorUpdate × Store} (h : applyValidator addr p v = some q) :
    Applied addr a v p q := by
  rw [applyValidator_eq howned] at h
  split at h
  · next hleaves =>
    obtain ⟨tm, hkey, rfl⟩ := Option.map_eq_some_iff.mp h
    exact .removed hkey hleaves.1 hleaves.2
  · next hstays =>
    split at h
    · next henters =>
      obtain ⟨tm, hkey, rfl⟩ := Option.map_eq_some_iff.mp h
      exact .added hkey henters.1 henters.2
    · next hsame =>
      obtain rfl := Option.some.inj h
      exact .kept (by omega)

theorem Applied.frame {a : ValAddress} {v : Validator} {p q : List ValidatorUpdate × Store}
    (h : Applied addr a v p q) :
    q.2 = { p.2 with lastValidatorPower := q.2.lastValidatorPower } := by
  cases h <;> rfl

/-- Every stored validator has an owner. -/
theorem Consistent.owned_of_mem (hs : Consistent addr s) {v : Validator}
    (hv : v ∈ s.validator.values) : ∃ a, v.Owned addr a := by
  obtain ⟨k, hget⟩ := KVStore.mem_values_iff.mp hv
  obtain ⟨a, -, howned⟩ := hs.validator k v hget
  exact ⟨a, howned⟩

theorem foldlM_frame {vs : List Validator} (hvs : ∀ v ∈ vs, ∃ a, v.Owned addr a)
    {p q : List ValidatorUpdate × Store} (h : vs.foldlM (applyValidator addr) p = some q) :
    q.2 = { p.2 with lastValidatorPower := q.2.lastValidatorPower } := by
  induction vs generalizing p with
  | nil =>
    obtain rfl := Option.some.inj h
    rfl
  | cons v vs ih =>
    rw [List.foldlM_cons, Option.bind_eq_bind, Option.bind_eq_some_iff] at h
    obtain ⟨p', happly, h⟩ := h
    obtain ⟨a, howned⟩ := hvs v List.mem_cons_self
    have hframe := (applied_of_applyValidator howned happly).frame
    rw [ih (fun w hw => hvs w (List.mem_cons_of_mem v hw)) h, hframe]

/-- The end of a block writes to the powers only. -/
theorem endBlock_frame (hs : Consistent addr s)
    (h : applyAndReturnValidatorSetUpdates addr s = some (updates, s')) :
    s' = { s with lastValidatorPower := s'.lastValidatorPower } :=
  foldlM_frame (fun _ hv => hs.owned_of_mem hv) h

end EndBlock

/-! ## Consistency -/

section Consistency

variable {addr : Addresses} {s s' : Store} {a : ValAddress} {v : Validator}

/-- Setting a validator changes the lookup at its own address only. -/
theorem getValidator_of_set (h : s'.validator = s.validator.set (validatorKey a) v)
    (b : ValAddress) : s'.getValidator b = if b = a then some v else s.getValidator b := by
  have hkey : validatorKey b = validatorKey a ↔ b = a := validatorKey_injective.eq_iff
  simp only [Store.getValidator, h, KVStore.get_set, hkey]

/-- A validator whose lookup changes is the one that was set. -/
theorem eq_of_getValidator_ne (h : s'.validator = s.validator.set (validatorKey a) v)
    {b : ValAddress} (hne : s'.getValidator b ≠ s.getValidator b) :
    b = a ∧ s'.getValidator b = some v := by
  have hlookup := getValidator_of_set h b
  by_cases hba : b = a
  · exact ⟨hba, hlookup.trans (if_pos hba)⟩
  · exact absurd (hlookup.trans (if_neg hba)) hne

theorem getDisabledValidator_delete (s : Store) (text : String) :
    ({ s with
        disabledValidator := s.disabledValidator.delete (disabledValidatorKey text) } :
      Store).getDisabledValidator text = none := by
  simp [Store.getDisabledValidator, KVStore.get_delete]

/-- A validator may be set that is jailed, or not disabled. -/
theorem Consistent.set_validator (hs : Consistent addr s) (howned : v.Owned addr a)
    (hjailed : v.jailed = true ∨ s.getDisabledValidator (addr.valString a) = none) :
    Consistent addr { s with validator := s.validator.set (validatorKey a) v } := by
  refine ⟨hs.validator.set ⟨a, rfl, howned⟩, fun k record hget => ?_, fun k record hget => ?_⟩
  · obtain ⟨b, w, hb, hkey, haddress, hfound, hw⟩ := hs.disabled k record hget
    by_cases hba : b = a
    · subst hba
      have hv : v.jailed = true := by
        refine hjailed.resolve_right fun hnone => ?_
        rw [hkey] at hget
        cases hnone.symm.trans hget
      exact ⟨b, v, hb, hkey, haddress, by rw [getValidator_of_set rfl, if_pos rfl], hv⟩
    · exact ⟨b, w, hb, hkey, haddress, by rw [getValidator_of_set rfl, if_neg hba, hfound], hw⟩
  · obtain ⟨b, w, hb, hkey, haddress, hfound⟩ := hs.proposed k record hget
    by_cases hba : b = a
    · exact ⟨b, v, hb, hkey, haddress, by rw [getValidator_of_set rfl, if_pos hba]⟩
    · exact ⟨b, w, hb, hkey, haddress, by rw [getValidator_of_set rfl, if_neg hba, hfound]⟩

theorem Consistent.set_disabled (hs : Consistent addr s) (ha : addr.IsAddress a)
    (hfound : s.getValidator a = some v) (hjailed : v.jailed = true) {record : DisabledValidator}
    (haddress : record.address = addr.valString a) :
    Consistent addr { s with
      disabledValidator :=
        s.disabledValidator.set (disabledValidatorKey (addr.valString a)) record } :=
  ⟨hs.validator, hs.disabled.set ⟨a, v, ha, rfl, haddress, hfound, hjailed⟩, hs.proposed⟩

theorem Consistent.delete_disabled (hs : Consistent addr s) (k : Bytes) :
    Consistent addr { s with disabledValidator := s.disabledValidator.delete k } :=
  ⟨hs.validator, hs.disabled.delete k, hs.proposed⟩

theorem Consistent.set_proposed (hs : Consistent addr s) (ha : addr.IsAddress a)
    (hfound : s.getValidator a = some v) {record : ProposedDisableValidator}
    (haddress : record.address = addr.valString a) :
    Consistent addr { s with
      proposedDisableValidator :=
        s.proposedDisableValidator.set (proposedDisableValidatorKey (addr.valString a)) record } :=
  ⟨hs.validator, hs.disabled, hs.proposed.set ⟨a, v, ha, rfl, haddress, hfound⟩⟩

theorem Consistent.delete_proposed (hs : Consistent addr s) (k : Bytes) :
    Consistent addr { s with proposedDisableValidator := s.proposedDisableValidator.delete k } :=
  ⟨hs.validator, hs.disabled, hs.proposed.delete k⟩

theorem Consistent.with_rejectedNode (hs : Consistent addr s)
    (rejectedNode : KVStore Bytes RejectedDisableValidator) :
    Consistent addr { s with rejectedNode := rejectedNode } :=
  ⟨hs.validator, hs.disabled, hs.proposed⟩

theorem Validator.Owned.jail (h : v.Owned addr a) (reason : String) :
    (v.jail reason).Owned addr a :=
  ⟨h.isAddress, h.owner, h.pubKey, Or.inl ⟨rfl, rfl⟩⟩

theorem Validator.Owned.unjail (h : v.Owned addr a) : v.unjail.Owned addr a :=
  ⟨h.isAddress, h.owner, h.pubKey, Or.inr ⟨rfl, rfl⟩⟩

/-- Jail a validator and note that it is disabled. -/
theorem Consistent.disable (hs : Consistent addr s) (hfound : s.getValidator a = some v)
    (reason : String) {record : DisabledValidator} (haddress : record.address = addr.valString a) :
    Consistent addr { s with
      validator := s.validator.set (validatorKey a) (v.jail reason)
      disabledValidator :=
        s.disabledValidator.set (disabledValidatorKey (addr.valString a)) record } :=
  (hs.set_validator ((hs.owned hfound).jail reason) (Or.inl rfl)).set_disabled
    (hs.owned hfound).isAddress (by rw [getValidator_of_set rfl, if_pos rfl]) rfl haddress

/-- A step leaves the records consistent. -/
theorem consistent_effect {act : Act} (hs : Consistent addr s) (he : Effect addr s act s') :
    Consistent addr s' := by
  cases he with
  | refused => exact hs
  | @created ctx msg a pk signer role room free =>
    have hnew : (newValidator addr a pk msg.description).Owned addr a :=
      ⟨⟨_, signer⟩, rfl, rfl, Or.inr ⟨rfl, rfl⟩⟩
    have hnone : s.getDisabledValidator (addr.valString a) = none := by
      by_contra hsome
      obtain ⟨record, hrecord⟩ := Option.ne_none_iff_exists'.mp hsome
      obtain ⟨-, v, hfound, -⟩ := hs.of_disabled (addr.decode_valString signer) hrecord
      cases free.symm.trans hfound
    have hset := hs.set_validator hnew (Or.inr hnone)
    exact ⟨hset.validator, hset.disabled, hset.proposed⟩
  | disabled found => exact hs.disable found.found _ rfl
  | enabled found =>
    exact (hs.delete_disabled _).set_validator (hs.owned found.found).unjail
      (Or.inr (getDisabledValidator_delete s _))
  | proposed proposal =>
    refine (hs.set_proposed ⟨_, proposal.address⟩ proposal.found ?_).with_rejectedNode _
    rfl
  | disabledAtOnce proposal =>
    refine (hs.disable proposal.found _ ?_).with_rejectedNode _
    rfl
  | approved vote => exact hs.set_proposed ⟨_, vote.address⟩ vote.found vote.names
  | disabledByVotes vote => exact (hs.delete_proposed _).disable vote.found _ vote.names
  | rejected vote => exact hs.set_proposed ⟨_, vote.address⟩ vote.found vote.names
  | discarded => exact (hs.delete_proposed _).with_rejectedNode _
  | jailed isAddress owner found => exact hs.set_validator ((hs.owned found).jail _) (Or.inl rfl)
  | ended ends =>
    rw [endBlock_frame hs ends]
    exact ⟨hs.validator, hs.disabled, hs.proposed⟩

theorem consistent_empty : Consistent addr Store.empty := ⟨.empty, .empty, .empty⟩

/-- **The records are consistent in every run.** -/
theorem consistent_of_reachable (h : (validators addr).Reachable s) : Consistent addr s :=
  h.invariant consistent_empty fun hs hstep => consistent_effect hs (step_effect hs hstep)

/-- Every step of a run is an effect. -/
theorem effect_of_reachable {act : Act} (h : (validators addr).Reachable s)
    (hstep : (validators addr).step s act s') : Effect addr s act s' :=
  step_effect (consistent_of_reachable h) hstep

end Consistency

/-! ## Changes of validators -/

/-- What a step does to the validators themselves: they stay as they are, or one of them is created,
disabled, enabled, or jailed for a double signature. -/
inductive Change (addr : Addresses) (s : Store) : Act → Store → Prop
  | kept {act : Act} {s' : Store} (validator : s'.validator = s.validator)
      (index : s'.validatorByConsAddr = s.validatorByConsAddr)
      (disabled : s'.disabledValidator = s.disabledValidator) : Change addr s act s'
  | created {ctx : Context} {msg : MsgCreateValidator} {s' : Store} {a : ValAddress} {pk : PubKey}
      (isAddress : addr.IsAddress a) (free : s.getValidator a = none)
      (unknown : s.getValidatorByConsAddr (addr.address pk) = none)
      (type : checkPubKeyType ctx pk = .ok ())
      (validator : s'.validator =
        s.validator.set (validatorKey a) (newValidator addr a pk msg.description))
      (index : s'.validatorByConsAddr =
        s.validatorByConsAddr.set (validatorByConsAddrKey (addr.address pk)) a)
      (disabled : s'.disabledValidator = s.disabledValidator) :
      Change addr s (.deliver ctx (.createValidator msg)) s'
  | disabled {ctx : Context} {msg : Msg} {s' : Store} {a : ValAddress} {v : Validator}
      {reason : String} {record : DisabledValidator} (found : s.getValidator a = some v)
      (validator : s'.validator = s.validator.set (validatorKey a) (v.jail reason))
      (index : s'.validatorByConsAddr = s.validatorByConsAddr)
      (disabled : s'.disabledValidator =
        s.disabledValidator.set (disabledValidatorKey (addr.valString a)) record) :
      Change addr s (.deliver ctx msg) s'
  | enabled {ctx : Context} {creator : String} {s' : Store} {a : ValAddress} {v : Validator}
      (creator_eq : addr.valAddressFromBech32 creator = .ok a)
      (found : s.getValidator a = some v)
      (validator : s'.validator = s.validator.set (validatorKey a) v.unjail)
      (index : s'.validatorByConsAddr = s.validatorByConsAddr)
      (disabled : s'.disabledValidator =
        s.disabledValidator.delete (disabledValidatorKey (addr.valString a))) :
      Change addr s (.deliver ctx (.enableValidator creator)) s'
  | jailed {ctx : Context} {evidence : Evidence} {s' : Store} {a : ValAddress} {v : Validator}
      {reason : String} (found : s.getValidator a = some v) (free : v.jailed = false)
      (validator : s'.validator = s.validator.set (validatorKey a) (v.jail reason))
      (index : s'.validatorByConsAddr = s.validatorByConsAddr)
      (disabled : s'.disabledValidator = s.disabledValidator) :
      Change addr s (.evidence ctx evidence) s'

theorem change_of_effect {addr : Addresses} {s s' : Store} {act : Act} (hs : Consistent addr s)
    (he : Effect addr s act s') : Change addr s act s' := by
  cases he with
  | refused | proposed | approved | rejected | discarded => exact .kept rfl rfl rfl
  | created signer _ _ free _ unknown type =>
    exact .created ⟨_, signer⟩ free unknown type rfl rfl rfl
  | disabled found => exact .disabled found.found rfl rfl rfl
  | disabledAtOnce proposal => exact .disabled proposal.found rfl rfl rfl
  | disabledByVotes vote => exact .disabled vote.found rfl rfl rfl
  | enabled found => exact .enabled found.creator found.found rfl rfl rfl
  | jailed _ _ found _ free => exact .jailed found free rfl rfl rfl
  | ended ends =>
    rw [endBlock_frame hs ends]
    exact .kept rfl rfl rfl

/-- Only the end of a block changes the powers of the last one. -/
theorem lastValidatorPower_of_effect {addr : Addresses} {s s' : Store} {act : Act}
    (he : Effect addr s act s') (hact : act ≠ .endBlock) :
    s'.lastValidatorPower = s.lastValidatorPower := by
  cases he with
  | ended => exact absurd rfl hact
  | _ => rfl

end ComplianceLedger.Validators
