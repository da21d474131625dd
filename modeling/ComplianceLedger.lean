import ComplianceLedger.Machine.Acyclic
import ComplianceLedger.Machine.Bytes
import ComplianceLedger.Machine.Cascade
import ComplianceLedger.Machine.Delta
import ComplianceLedger.Machine.Encoding
import ComplianceLedger.Machine.Handler
import ComplianceLedger.Machine.KVStore
import ComplianceLedger.Machine.Poll
import ComplianceLedger.Machine.Registry
import ComplianceLedger.Machine.Replica
import ComplianceLedger.Machine.TransitionSystem
import ComplianceLedger.Sdk.Basic
import ComplianceLedger.Dclauth.Account
import ComplianceLedger.Dclauth.Electorate
import ComplianceLedger.Dclauth.Keeper
import ComplianceLedger.Dclauth.MsgServer
import ComplianceLedger.Dclauth.Effect
import ComplianceLedger.Dclauth.LifeCycle
import ComplianceLedger.Dclauth.Numbers
import ComplianceLedger.Dclauth.Polls
import ComplianceLedger.Dclupgrade.Keeper
import ComplianceLedger.Dclupgrade.MsgServer
import ComplianceLedger.Dclupgrade.Scheduling
import ComplianceLedger.Dclupgrade.Polls
import ComplianceLedger.Pki.Types
import ComplianceLedger.Pki.X509
import ComplianceLedger.Pki.Keeper
import ComplianceLedger.Pki.MsgServer
import ComplianceLedger.Pki.Effect
import ComplianceLedger.Pki.Chain
import ComplianceLedger.Pki.Records
import ComplianceLedger.Pki.Revocation
import ComplianceLedger.Pki.Index
import ComplianceLedger.Pki.Unique
import ComplianceLedger.Pki.Termination
import ComplianceLedger.Pki.Trust
import ComplianceLedger.Pki.Uniform
import ComplianceLedger.Pki.Listed
import ComplianceLedger.Pki.Aliases
import ComplianceLedger.Pki.Exact
import ComplianceLedger.Pki.Roots
import ComplianceLedger.Pki.Votes
import ComplianceLedger.Pki.Clocks
import ComplianceLedger.Pki.Indexes
import ComplianceLedger.Pki.Thresholds
import ComplianceLedger.Validators.Types
import ComplianceLedger.Validators.Keeper
import ComplianceLedger.Validators.MsgServer
import ComplianceLedger.Validators.Effect
import ComplianceLedger.Validators.Jail
import ComplianceLedger.Validators.Updates
import ComplianceLedger.Validators.Limit
import ComplianceLedger.Validators.Polls
import ComplianceLedger.Ledger.System
import ComplianceLedger.Ledger.Revocations
import ComplianceLedger.Ledger.CurrentVotes
import ComplianceLedger.Ledger.Polls
import ComplianceLedger.Machine.Listing
import ComplianceLedger.Models.Keeper
import ComplianceLedger.Models.MsgServer
import ComplianceLedger.Models.Indexes
import ComplianceLedger.Models.Versions
import ComplianceLedger.VendorInfos.MsgServer
import ComplianceLedger.Compliance.Keeper
import ComplianceLedger.Compliance.MsgServer
import ComplianceLedger.Compliance.Records
import ComplianceLedger.Compliance.Flags
import ComplianceLedger.Compliance.History
import ComplianceLedger.Catalog.References
import ComplianceLedger.Compliance.Certificates
import ComplianceLedger.Catalog.Vendors
import ComplianceLedger.Ledger.DoubleSign
import ComplianceLedger.Dclauth.Genesis
import ComplianceLedger.Validators.Genesis
import ComplianceLedger.Machine.Layout
import ComplianceLedger.Pki.Kinds
import ComplianceLedger.Pki.Search
import ComplianceLedger.Dclupgrade.Stages
import ComplianceLedger.Models.Rules
import ComplianceLedger.Models.Bounds
import ComplianceLedger.Compliance.VersionNumbers
import ComplianceLedger.Models.Revisions
import ComplianceLedger.Machine.Parts
import ComplianceLedger.Pki.SubjectText
import ComplianceLedger.Pki.Trees
import ComplianceLedger.Compliance.Genesis
import ComplianceLedger.Dclupgrade.Genesis
import ComplianceLedger.Models.Genesis
import ComplianceLedger.Ledger.Genesis
import ComplianceLedger.Dclauth.Sequences
import ComplianceLedger.Dclupgrade.Plans
import ComplianceLedger.Catalog.Authority
import ComplianceLedger.Catalog.Minority
import ComplianceLedger.Catalog.Progress
import ComplianceLedger.Catalog.Votes
import ComplianceLedger.Catalog.Records
import ComplianceLedger.Catalog.Replicas
import ComplianceLedger.Catalog.Interference
