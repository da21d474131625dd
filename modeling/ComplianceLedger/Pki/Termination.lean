import ComplianceLedger.Pki.Index

/-!
# Both recursions end

`verifyCertificate` climbs from a certificate to those that may have issued it, and
`revokeChildCertificates` descends through the lists of children. Neither has a bound on its depth
or remembers where it has been. In every reachable store both follow the edges of one graph without
cycles, against them and along them, so that both return.

## Main results

* `wellFounded_issuedBy`: climbing to issuers is well founded
* `recursions_end`: both recursions return in every reachable store
-/

open Machine Machine.TransitionSystem

namespace ComplianceLedger.Pki

variable {lib : CryptoX509} {bech32 : Bech32} {s : Store}

/-- The certificates that may have issued an approved one lie under a key with an edge to its
own. -/
theorem edge_of_issuedBy (h : WellFormed lib s) {k : Bytes} {cert : Certificate}
    {x parent : X509Certificate} (hcert : cert ∈ s.approvedCerts k)
    (hdecode : decodeX509Certificate lib cert.pemCert = .ok x)
    (hparent : IssuedBy lib s parent x) :
    ∃ k', s.Edge k k' ∧ ∃ cert' ∈ s.approvedCerts k',
      decodeX509Certificate lib cert'.pemCert = .ok parent := by
  obtain ⟨hnot, record, hget, cert', hcert', hdecode'⟩ := hparent
  obtain ⟨hk, x', hreads⟩ := h.records.of_mem_approvedCerts hcert
  obtain rfl : x' = x := Except.ok.inj (hreads.decode.symm.trans hdecode)
  have hroot : cert.isRoot = false := hreads.isRoot.trans hnot
  obtain ⟨hissuer, hauthority⟩ := hreads.issuer hroot
  refine ⟨pairKey x'.issuer x'.authorityKeyID, ⟨cert.certID, ?_, hk.symm⟩, cert', ?_, hdecode'⟩
  · rw [← hissuer, ← hauthority]
    exact h.index.linked k cert hcert hroot
  · rw [approvedCerts_of_get hget]
    exact hcert'

/-- **Climbing to issuers is well founded.** -/
theorem wellFounded_issuedBy (h : WellFormed lib s) : WellFounded (IssuedBy lib s) := by
  -- approved certificates first, by induction against the edges of the children
  have happroved : ∀ k, ∀ cert ∈ s.approvedCerts k, ∀ x,
      decodeX509Certificate lib cert.pemCert = .ok x → Acc (IssuedBy lib s) x := by
    intro k
    induction k using h.index.acyclic.against.induction with
    | _ k ih =>
      intro cert hcert x hdecode
      constructor
      intro parent hparent
      obtain ⟨k', hedge, cert', hcert', hdecode'⟩ := edge_of_issuedBy h hcert hdecode hparent
      exact ih k' hedge cert' hcert' parent hdecode'
  -- the first step from any other certificate leads to an approved one
  constructor
  intro x
  constructor
  rintro parent ⟨-, record, hget, cert, hcert, hdecode⟩
  apply happroved (pairKey x.issuer x.authorityKeyID) cert _ parent hdecode
  rw [approvedCerts_of_get hget]
  exact hcert

/-- The revocation of children returns in a well-formed store. -/
theorem exists_revokeChildCertificates (h : Acyclic s.Edge) (issuer authorityKeyID : String) :
    ∃ fuel t, revokeChildCertificates fuel issuer authorityKeyID s = some t := by
  obtain ⟨fuel, t, ht⟩ := exists_cascade lawful h.along
    (childCertificatesKey issuer authorityKeyID) fun _ => Or.inl rfl
  exact ⟨fuel, t, by rw [revokeChildCertificates_eq_cascade, ht]⟩

/-- **Both recursions end.** In every reachable store the search for a chain returns on every
decoded certificate, the revocation of children returns on every issuer and authority key, and the
graphs they follow have no cycles. -/
theorem recursions_end (h : Reachable (certificates lib bech32) s) :
    (∀ pem x, decodeX509Certificate lib pem = .ok x → ∀ now,
        ∃ fuel r, verifyCertificate lib now s fuel x = some r) ∧
      (∀ issuer authorityKeyID,
        ∃ fuel t, revokeChildCertificates fuel issuer authorityKeyID s = some t) ∧
      (∀ x, ¬ Relation.TransGen (IssuedBy lib s) x x) ∧
      ∀ k, ¬ Relation.TransGen s.Edge k k := by
  have hwf := wellFormed_of_reachable h
  have hissued := wellFounded_issuedBy hwf
  refine ⟨?_, ?_, ?_, ?_⟩
  · intro pem x _ now
    exact exists_verifyCertificate (hissued.apply x) now
  · exact exists_revokeChildCertificates hwf.index.acyclic
  · intro x hcycle
    exact hissued.transGen.irrefl.irrefl x hcycle
  · exact hwf.index.acyclic.not_transGen_self

/-- A root with a certificate under it can be revoked with all its children. -/
theorem example_root_revocable :
    ∃ s, Reachable (certificates exampleLib Dclauth.exampleCodec) s ∧
      s.children (pairKey "Ug==" "01") = [⟨"Uw==", "02"⟩] ∧
      ∃ fuel t, revokeChildCertificates fuel "Ug==" "01" s = some t := by
  obtain ⟨s, hs, hp⟩ := exists_reachable_of_foldlM
    (T := certificates exampleLib Dclauth.exampleCodec)
    (p := fun s => s.children (pairKey "Ug==" "01") = [⟨"Uw==", "02"⟩])
    (deliverMsg exampleLib Dclauth.exampleCodec 3) step_of_deliverMsg exampleLeaf
    (by decide +kernel)
  exact ⟨s, hs, of_decide_eq_true hp, (recursions_end hs).2.1 "Ug==" "01"⟩

end ComplianceLedger.Pki
