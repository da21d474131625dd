import ComplianceLedger.Dclauth.Account
import ComplianceLedger.Machine.Handler

/-!
# The upgrade proposals of the ledger: records and store

`dclupgrade` collects the votes of the trustees on upgrade plans. Its store keeps the proposed, the
approved and the rejected upgrades under their names; beside it stands the one slot of the SDK's
upgrade keeper, the plan the chain is scheduled to run.

## Main definitions

* `Plan`, `ProposedUpgrade`: the plans and the records of their votes
* `Store`: the three kinds of records and the plan held by the upgrade keeper
* `Context`: what a handler reads of its block
* `scheduleUpgrade`: the upgrade keeper
* `upgradeApprovalsCount`, `upgradeRejectsCount`: the thresholds
-/

open Machine

namespace ComplianceLedger.Dclupgrade

/-- An upgrade plan. -/
structure Plan where
  name : String
  height : ℤ
  info : String
deriving DecidableEq, Repr

/-- A plan with the votes on it. -/
structure ProposedUpgrade where
  plan : Plan
  creator : String
  approvals : List Grant
  rejects : List Grant
deriving DecidableEq, Repr

/-- An approved upgrade has the fields of a proposed one. -/
abbrev ApprovedUpgrade := ProposedUpgrade

/-- A rejected upgrade has the fields of a proposed one. -/
abbrev RejectedUpgrade := ProposedUpgrade

namespace ProposedUpgrade

/-- Has the account approved? -/
def hasApprovalFrom (upgrade : ProposedUpgrade) (address : String) : Bool :=
  hasGrantFrom upgrade.approvals address

/-- Has the account rejected? -/
def hasRejectFrom (upgrade : ProposedUpgrade) (address : String) : Bool :=
  hasGrantFrom upgrade.rejects address

end ProposedUpgrade

/-! ## Errors -/

def errProposedUpgradeAlreadyExists : RegisteredError :=
  ⟨"dclupgrade", 801, "proposed upgrade already exists"⟩

def errProposedUpgradeDoesNotExist : RegisteredError :=
  ⟨"dclupgrade", 802, "proposed upgrade does not exist"⟩

def errApprovedUpgradeAlreadyExists : RegisteredError :=
  ⟨"dclupgrade", 803, "approved upgrade already exists"⟩

def newErrProposedUpgradeAlreadyExists (name : String) : SdkError :=
  ⟨errProposedUpgradeAlreadyExists,
    "Proposed upgrade with name=" ++ name ++ " already exists on the ledger"⟩

def newErrProposedUpgradeDoesNotExist (name : String) : SdkError :=
  ⟨errProposedUpgradeDoesNotExist,
    "Proposed upgrade with name=" ++ name ++ " does not exist on the ledger"⟩

def newErrApprovedUpgradeAlreadyExists (name : String) : SdkError :=
  ⟨errApprovedUpgradeAlreadyExists,
    "Approved upgrade with name=" ++ name ++ " already exists on the ledger"⟩

/-! ## The store -/

/-- The key of an upgrade within the records of its kind. -/
def upgradeKey (name : String) : Bytes := utf8 name ++ utf8 "/"

/-- The records of the module, and the plan held by the upgrade keeper. -/
structure Store where
  proposedUpgrade : KVStore Bytes ProposedUpgrade
  approvedUpgrade : KVStore Bytes ApprovedUpgrade
  rejectedUpgrade : KVStore Bytes RejectedUpgrade
  plan : Option Plan

namespace Store

/-- The store without records, and no plan scheduled. -/
def empty : Store := ⟨.empty, .empty, .empty, none⟩

def getProposedUpgrade (s : Store) (name : String) : Option ProposedUpgrade :=
  s.proposedUpgrade.get (upgradeKey name)

def setProposedUpgrade (upgrade : ProposedUpgrade) (s : Store) : Store :=
  { s with proposedUpgrade := s.proposedUpgrade.set (upgradeKey upgrade.plan.name) upgrade }

def removeProposedUpgrade (name : String) (s : Store) : Store :=
  { s with proposedUpgrade := s.proposedUpgrade.delete (upgradeKey name) }

def getApprovedUpgrade (s : Store) (name : String) : Option ApprovedUpgrade :=
  s.approvedUpgrade.get (upgradeKey name)

def setApprovedUpgrade (upgrade : ApprovedUpgrade) (s : Store) : Store :=
  { s with approvedUpgrade := s.approvedUpgrade.set (upgradeKey upgrade.plan.name) upgrade }

def getRejectedUpgrade (s : Store) (name : String) : Option RejectedUpgrade :=
  s.rejectedUpgrade.get (upgradeKey name)

def setRejectedUpgrade (upgrade : RejectedUpgrade) (s : Store) : Store :=
  { s with rejectedUpgrade := s.rejectedUpgrade.set (upgradeKey upgrade.plan.name) upgrade }

def removeRejectedUpgrade (name : String) (s : Store) : Store :=
  { s with rejectedUpgrade := s.rejectedUpgrade.delete (upgradeKey name) }

end Store

/-! ## The context of a message -/

/-- What a handler reads of the block it runs in: the height, the accounts, and whether the upgrade
keeper refuses to replace the plan it holds by another. -/
structure Context where
  blockHeight : ℤ
  accounts : Dclauth.AccountStore
  scheduleError : Option Plan → Plan → Option SdkError

/-- The role that votes on upgrades. -/
def upgradeApprovalRole : Dclauth.AccountRole := .trustee

/-- `UpgradeApprovalsPercent`, in per cent. -/
def upgradeApprovalsPercent : ℕ := 66

def upgradeApprovalsCount (ctx : Context) : ℕ :=
  roundPercent upgradeApprovalsPercent (ctx.accounts.countAccountsWithRole upgradeApprovalRole)

def upgradeRejectsCount (ctx : Context) : ℕ :=
  ctx.accounts.countAccountsWithRole upgradeApprovalRole - upgradeApprovalsCount ctx + 1

/-- The upgrade keeper: it fails and changes nothing, or replaces the plan it holds. -/
def scheduleUpgrade (ctx : Context) (plan : Plan) : Handler SdkError Store Unit := fun s =>
  match ctx.scheduleError s.plan plan with
  | some e => some (.error e, s)
  | none => some (.ok (), { s with plan := some plan })

@[simp] theorem scheduleUpgrade_ok_iff {ctx : Context} {plan : Plan} {u : Unit} {s s' : Store} :
    scheduleUpgrade ctx plan s = some (.ok u, s') ↔
      ctx.scheduleError s.plan plan = none ∧ { s with plan := some plan } = s' := by
  unfold scheduleUpgrade
  cases ctx.scheduleError s.plan plan <;> simp

end ComplianceLedger.Dclupgrade
