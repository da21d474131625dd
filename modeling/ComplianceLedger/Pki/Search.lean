import ComplianceLedger.Pki.Termination
import Mathlib.Data.List.Chain

/-!
# The search for a chain, against lists of certificates

A chain of certificates written out: a list of certificates, none of which is self-signed except the
last one, each verified by the next, which is decoded from an approved certificate of the identifier
that it names as its issuer. In every reachable store the search returns, it succeeds exactly if
there is such a list, and it returns the identifier at the end of one.

## Main definitions

* `Link lib now s x parent`: one step of a chain
* `IsChainFrom lib now s x cs`: the certificates `cs` are a chain from `x` up to a root
* `Returns lib now s x r`: the search returns `r`, with enough fuel

## Main results

* `chain_iff_exists_list`: chains as lists are those of the inductive definition
* `search_iff_chain`: the search returns, and finds a chain exactly if there is one
-/

open Machine Machine.TransitionSystem

namespace ComplianceLedger.Pki

section Definitions

variable (lib : CryptoX509) (now : ℤ) (s : Store)

/-- One step of a chain: `x` is not self-signed, and `parent` is decoded from a certificate of the
record that `x` names as its issuer's and verifies `x`. -/
structure Link (x parent : X509Certificate) : Prop where
  not_self_signed : x.isSelfSigned = false
  verify : x.verify lib now parent = .ok ()
  approved : ∃ record, s.getApprovedCertificates x.issuer x.authorityKeyID = some record ∧
    ∃ cert ∈ record.certs, decodeX509Certificate lib cert.pemCert = .ok parent

/-- The certificate at the end of a list that begins with `x`. -/
def chainEnd (x : X509Certificate) (cs : List X509Certificate) : X509Certificate :=
  (x :: cs).getLast (List.cons_ne_nil x cs)

/-- The certificates `cs` are a chain from `x` up to a self-signed certificate that verifies
itself. -/
structure IsChainFrom (x : X509Certificate) (cs : List X509Certificate) : Prop where
  links : (x :: cs).IsChain (Link lib now s)
  self_signed : (chainEnd x cs).isSelfSigned = true
  verify : (chainEnd x cs).verify lib now (chainEnd x cs) = .ok ()

/-- The search returns `r`: it does with some fuel, and then with more. -/
def Returns (x : X509Certificate) (r : Except SdkError (String × String)) : Prop :=
  ∃ fuel, ∀ n, fuel ≤ n → verifyCertificate lib now s n x = some r

end Definitions

variable {lib : CryptoX509} {bech32 : Bech32} {now : ℤ} {s : Store} {x : X509Certificate}
  {root : String × String}

/-! ## Chains as lists -/

@[simp] theorem chainEnd_nil (x : X509Certificate) : chainEnd x [] = x := rfl

@[simp] theorem chainEnd_cons (x c : X509Certificate) (cs : List X509Certificate) :
    chainEnd x (c :: cs) = chainEnd c cs := rfl

theorem IsChainFrom.cons {c : X509Certificate} {cs : List X509Certificate} (hlink : Link lib now s x c)
    (h : IsChainFrom lib now s c cs) : IsChainFrom lib now s x (c :: cs) where
  links := List.isChain_cons_cons.mpr ⟨hlink, h.links⟩
  self_signed := h.self_signed
  verify := h.verify

/-- A chain, as a list of certificates. -/
theorem Chain.exists_list (h : Chain lib now s x root) :
    ∃ cs, IsChainFrom lib now s x cs ∧
      root = ((chainEnd x cs).subject, (chainEnd x cs).subjectKeyID) := by
  induction h with
  | root hself hverify => exact ⟨[], ⟨List.isChain_singleton _, hself, hverify⟩, rfl⟩
  | link hnot hfound hmem hdecode hverify _ ih =>
    obtain ⟨cs, hcs, hroot⟩ := ih
    exact ⟨_ :: cs, hcs.cons ⟨hnot, hverify, _, hfound, _, hmem, hdecode⟩, hroot⟩

/-- A list of certificates, as a chain. -/
theorem IsChainFrom.chain {cs : List X509Certificate} (h : IsChainFrom lib now s x cs) :
    Chain lib now s x ((chainEnd x cs).subject, (chainEnd x cs).subjectKeyID) := by
  induction cs generalizing x with
  | nil => exact Chain.root h.self_signed h.verify
  | cons c cs ih =>
    obtain ⟨hlink, hrest⟩ := List.isChain_cons_cons.mp h.links
    obtain ⟨record, hfound, cert, hmem, hdecode⟩ := hlink.approved
    have hchain := ih ⟨hrest, h.self_signed, h.verify⟩
    exact Chain.link hlink.not_self_signed hfound hmem hdecode hlink.verify hchain

/-- **Chains as lists** are those of the inductive definition. -/
theorem chain_iff_exists_list :
    Chain lib now s x root ↔ ∃ cs, IsChainFrom lib now s x cs ∧
      root = ((chainEnd x cs).subject, (chainEnd x cs).subjectKeyID) := by
  refine ⟨Chain.exists_list, ?_⟩
  rintro ⟨cs, hcs, rfl⟩
  exact hcs.chain

/-! ## The search -/

theorem returns_of_verifyCertificate {fuel : ℕ} {r : Except SdkError (String × String)}
    (h : verifyCertificate lib now s fuel x = some r) : Returns lib now s x r :=
  ⟨fuel, fun _ hn => verifyCertificate_mono hn h⟩

/-- The search returns at most one result. -/
theorem Returns.unique {r r' : Except SdkError (String × String)} (h : Returns lib now s x r)
    (h' : Returns lib now s x r') : r = r' := by
  obtain ⟨m, hm⟩ := h
  obtain ⟨n, hn⟩ := h'
  have hr := hm (max m n) (le_max_left m n)
  have hr' := hn (max m n) (le_max_right m n)
  exact Option.some.inj (hr.symm.trans hr')

/-- What a search that succeeds returns is the end of a chain. -/
theorem Returns.chain (h : Returns lib now s x (.ok root)) : Chain lib now s x root := by
  obtain ⟨fuel, hfuel⟩ := h
  exact chain_of_verifyCertificate (hfuel fuel le_rfl)

/-- A search that returns finds a chain, if there is one. -/
theorem Returns.exists_ok {r : Except SdkError (String × String)} (h : Returns lib now s x r)
    (hchain : Chain lib now s x root) : ∃ root', r = .ok root' := by
  obtain ⟨fuel, hfuel⟩ := h
  cases r with
  | ok root' => exact ⟨root', rfl⟩
  | error e =>
    -- an error says that there is no chain at all
    exact absurd hchain ((not_chain_of_verifyCertificate (hfuel fuel le_rfl)).2 root)

theorem exists_returns (h : WellFormed lib s) (now : ℤ) (x : X509Certificate) :
    ∃ r, Returns lib now s x r := by
  obtain ⟨fuel, r, hr⟩ := exists_verifyCertificate ((wellFounded_issuedBy h).apply x) now
  exact ⟨r, returns_of_verifyCertificate hr⟩

/-- **The search is a decision**: in every reachable store it returns one result on every certificate,
it succeeds exactly if there is a chain of certificates, and what it returns is the identifier at the
end of one. -/
theorem search_iff_chain (h : Reachable (certificates lib bech32) s) (now : ℤ)
    (x : X509Certificate) :
    (∃! r, Returns lib now s x r) ∧
      ((∃ root, Returns lib now s x (.ok root)) ↔ ∃ cs, IsChainFrom lib now s x cs) ∧
      ∀ root, Returns lib now s x (.ok root) → ∃ cs, IsChainFrom lib now s x cs ∧
        root = ((chainEnd x cs).subject, (chainEnd x cs).subjectKeyID) := by
  obtain ⟨r, hr⟩ := exists_returns (wellFormed_of_reachable h) now x
  have hsound : ∀ root, Returns lib now s x (.ok root) → ∃ cs, IsChainFrom lib now s x cs ∧
      root = ((chainEnd x cs).subject, (chainEnd x cs).subjectKeyID) :=
    fun root hroot => chain_iff_exists_list.mp hroot.chain
  refine ⟨⟨r, hr, fun _ hr' => hr'.unique hr⟩, ⟨?_, ?_⟩, hsound⟩
  · rintro ⟨root, hroot⟩
    obtain ⟨cs, hcs, -⟩ := hsound root hroot
    exact ⟨cs, hcs⟩
  · rintro ⟨cs, hcs⟩
    obtain ⟨root, rfl⟩ := hr.exists_ok hcs.chain
    exact ⟨root, hr⟩

/-- The leaf of the small ledger has a chain, since the search finds one. -/
theorem example_leaf_chain :
    ∃ s x, Reachable (certificates exampleLib Dclauth.exampleCodec) s ∧
      decodeX509Certificate exampleLib "leaf" = .ok x ∧ x.isSelfSigned = false ∧
      ∃ cs, IsChainFrom exampleLib 50 s x cs ∧
        ("Ug==", "01") = ((chainEnd x cs).subject, (chainEnd x cs).subjectKeyID) := by
  let x : X509Certificate :=
    ⟨"Ug==", "2", "Uw==", utf8 "CN=Example", "02", "01", exampleCert [82] [1] [83] [2] 2⟩
  obtain ⟨s, hs, hp⟩ := exists_reachable_of_foldlM
    (T := certificates exampleLib Dclauth.exampleCodec)
    (p := fun s => verifyCertificate exampleLib 50 s 2 x = some (.ok ("Ug==", "01")))
    (deliverMsg exampleLib Dclauth.exampleCodec 3) step_of_deliverMsg exampleLeaf
    (by decide +kernel)
  have hreturns := returns_of_verifyCertificate (of_decide_eq_true hp)
  exact ⟨s, x, hs, by decide +kernel, by decide, (search_iff_chain hs 50 x).2.2 _ hreturns⟩

end ComplianceLedger.Pki
