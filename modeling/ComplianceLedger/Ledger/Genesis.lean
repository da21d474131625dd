import ComplianceLedger.Compliance.Genesis
import ComplianceLedger.Dclupgrade.Genesis
import ComplianceLedger.Models.Genesis
import ComplianceLedger.Pki.Aliases
import ComplianceLedger.Pki.Genesis

/-!
# Export and import of four modules

The modules `pki`, `compliance`, `model` and `dclupgrade` export their stores as lists of records, and
start again from such lists. Each of them keeps all its records in one key-value store. This module
puts together what the modules say of themselves: every store that they can get to, from any genesis
state and by any messages, is exported to a state that passes the check and that comes back as the
same store.

## Main results

* `modules_round_trip`: the round trips of the four modules
* `example_round_trips`: among them, one of `pki` after a message that used a slash in an identifier
-/

open Machine Machine.TransitionSystem

namespace ComplianceLedger.Ledger

/-- **Exported stores come back.** In every run from any genesis state, the exported state passes its
check, and its import into an empty store gives the store back. Every record lies under the key of its
own fields, and in the one store of the module a record of one kind is never found as one of another:
lookups, iterators and writes of a kind are those of a store of its own. For `dclupgrade` the plan that
the upgrade keeper holds is not part of the module's store. -/
theorem modules_round_trip :
    (∀ lib bech32 gs s, (Pki.imported lib bech32 gs).Reachable s →
      (Pki.exportGenesis s).validate = .ok () ∧
        Pki.initGenesis (Pki.exportGenesis s) Pki.Store.empty = s ∧
        Pki.layout.RoundTrips Pki.Kind.key s) ∧
    (∀ bech32 parse gs s, (Compliance.imported bech32 parse gs).Reachable s →
      (Compliance.exportGenesis s).validate = .ok () ∧
        Compliance.initGenesis (Compliance.exportGenesis s) Compliance.Store.empty = s ∧
        Compliance.layout.RoundTrips Compliance.Kind.key s) ∧
    (∀ bech32 gs s, (Models.imported bech32 gs).Reachable s →
      (Models.exportGenesis s).validate = .ok () ∧
        Models.initGenesis (Models.exportGenesis s) Models.Store.empty = s ∧
        Models.layout.RoundTrips Models.Kind.key s) ∧
    ∀ bech32 gs plan s, (Dclupgrade.imported bech32 gs plan).Reachable s →
      (Dclupgrade.exportGenesis s).validate = .ok () ∧
        (∀ plan, Dclupgrade.initGenesis (Dclupgrade.exportGenesis s)
          (Dclupgrade.Store.emptyWith plan) = { s with plan := plan }) ∧
        Dclupgrade.layout.RoundTrips Dclupgrade.Kind.key s := by
  refine ⟨?_, ?_, ?_, ?_⟩
  · intro lib bech32 gs s h
    have hown := Pki.own_of_imported h
    exact ⟨Pki.validate_exportGenesis hown, Pki.initGenesis_exportGenesis hown, hown.roundTrips⟩
  · intro bech32 parse gs s h
    have hown := Compliance.own_of_imported h
    exact ⟨Compliance.validate_exportGenesis hown, Compliance.initGenesis_exportGenesis hown,
      hown.roundTrips⟩
  · intro bech32 gs s h
    have hown := Models.own_of_imported h
    exact ⟨Models.validate_exportGenesis hown, Models.initGenesis_exportGenesis hown,
      hown.roundTrips⟩
  · intro bech32 gs plan s h
    have hown := Dclupgrade.own_of_imported h
    exact ⟨Dclupgrade.validate_exportGenesis hown, Dclupgrade.initGenesis_exportGenesis hown,
      hown.roundTrips⟩

/-- A store of each module. The certificate of `pki` has been revoked under another name with the same
key, which leaves a child record behind. -/
theorem example_round_trips :
    (∃ s : Pki.Store, (s.getChildCertificates "Ug==" "01").isSome = true ∧
      s.getApprovedCertificates Pki.exampleAlias.subject Pki.exampleAlias.subjectKeyId = none ∧
      Pki.initGenesis (Pki.exportGenesis s) Pki.Store.empty = s) ∧
    (∃ s : Compliance.Store, s.deviceSoftwareCompliance.values.length = 1 ∧
      Compliance.initGenesis (Compliance.exportGenesis s) Compliance.Store.empty = s) ∧
    (∃ s : Models.Store, s.modelVersion.values.length = 1 ∧
      Models.initGenesis (Models.exportGenesis s) Models.Store.empty = s) ∧
    ∃ s : Dclupgrade.Store, s.rejectedUpgrade.values.length = 1 ∧
      Dclupgrade.initGenesis (Dclupgrade.exportGenesis s) (Dclupgrade.Store.emptyWith s.plan) = s := by
  refine ⟨?_, ?_, ?_, ?_⟩
  · obtain ⟨s, hs, hp⟩ := exists_reachable_of_foldlM
      (T := Pki.imported Pki.exampleSlashLib Dclauth.exampleCodec Pki.defaultGenesis)
      (p := fun s => (s.getChildCertificates "Ug==" "01").isSome &&
        (s.getApprovedCertificates Pki.exampleAlias.subject Pki.exampleAlias.subjectKeyId).isNone)
      (Pki.deliverMsg Pki.exampleSlashLib Dclauth.exampleCodec 3)
      (fun h => Pki.step_of_deliverMsg h)
      (Pki.exampleSlashed ++ [(Pki.exampleContext, .revokeX509Cert
        (Pki.exampleRevokeBy Pki.exampleAlias))]) (by decide +kernel)
    rw [Bool.and_eq_true, Option.isNone_iff_eq_none] at hp
    exact ⟨s, hp.1, hp.2, (modules_round_trip.1 _ _ _ s hs).2.1⟩
  · obtain ⟨s, hs, hp⟩ := exists_reachable_of_foldlM
      (T := Compliance.imported Models.exampleCodec Compliance.exampleParse
        Compliance.defaultGenesis)
      (p := fun s => s.deviceSoftwareCompliance.values.length = 1)
      (Compliance.next Models.exampleCodec Compliance.exampleParse)
      (fun h => Compliance.step_of_next h)
      [Compliance.exampleCertify (Compliance.exampleSubject 7 "zigbee") "7.0"
        "2020-01-01T00:00:00Z"] (by decide +kernel)
    exact ⟨s, of_decide_eq_true hp, (modules_round_trip.2.1 _ _ _ s hs).2.1⟩
  · obtain ⟨s, hs, hp⟩ := exists_reachable_of_foldlM
      (T := Models.imported Models.exampleCodec Models.defaultGenesis)
      (p := fun s => s.modelVersion.values.length = 1)
      (Models.next Models.exampleCodec) (fun h => Models.step_of_next h)
      ([Models.exampleCreate 1 "Lamp" "p1", Models.exampleVersion 1 7 "7.0"].map
        (Prod.mk Models.exampleAccounts)) (by decide +kernel)
    exact ⟨s, of_decide_eq_true hp, (modules_round_trip.2.2.1 _ _ s hs).2.1⟩
  · obtain ⟨s, hs, hp⟩ := exists_reachable_of_foldlM
      (T := Dclupgrade.imported Dclauth.exampleCodec Dclupgrade.defaultGenesis none)
      (p := fun s => s.rejectedUpgrade.values.length = 1)
      (Dclupgrade.deliverMsg Dclauth.exampleCodec) (fun h => Dclupgrade.step_of_deliverMsg h)
      [Dclupgrade.exampleProposal,
        (Dclupgrade.exampleContext, .rejectUpgrade (Dclupgrade.exampleVote "cosmos1two")),
        (Dclupgrade.exampleContext, .rejectUpgrade (Dclupgrade.exampleVote "cosmos1three"))]
      (by decide +kernel)
    exact ⟨s, of_decide_eq_true hp, (modules_round_trip.2.2.2 _ _ _ s hs).2.1 s.plan⟩

end ComplianceLedger.Ledger
