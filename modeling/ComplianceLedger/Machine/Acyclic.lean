import Mathlib.Logic.Relation
import Mathlib.Order.WellFounded

/-!
# Acyclic graphs that grow at their leaves

`E c p` reads: there is an edge from `p` to `c`. A search from a node along the edges ends when
`E` is well founded, and a search against them when its converse is. Both survive the deletion of
edges and the addition of edges into a node that has none leaving it, other than from that node
itself.

## Main results

* `Acyclic.mono`, `Acyclic.graft`: deletion of edges, and new edges into a leaf
* `Acyclic.not_transGen_self`: no node lies on a cycle
-/

namespace Machine

variable {N : Type} {E E' : N → N → Prop}

/-- Searches along the edges and against them are well founded. -/
structure Acyclic (E : N → N → Prop) : Prop where
  along : WellFounded E
  against : WellFounded fun p c => E c p

theorem Acyclic.of_no_edges (h : ∀ c p, ¬ E c p) : Acyclic E where
  along := ⟨fun p => ⟨p, fun c hc => absurd hc (h c p)⟩⟩
  against := ⟨fun c => ⟨c, fun p hp => absurd hp (h c p)⟩⟩

theorem Acyclic.mono (hE : Acyclic E) (h : ∀ c p, E' c p → E c p) : Acyclic E' where
  along := Subrelation.wf (h _ _) hE.along
  against := Subrelation.wf (h _ _) hE.against

/-- New edges into a node `n` without edges leaving it, from nodes other than `n`. -/
theorem Acyclic.graft (hE : Acyclic E) {n : N} (hleaf : ∀ c, ¬ E c n)
    (hnew : ∀ c p, E' c p → E c p ∨ (c = n ∧ p ≠ n)) : Acyclic E' := by
  have hleaf' : ∀ c, ¬ E' c n := fun c hc =>
    (hnew c n hc).elim (hleaf c) fun h => h.2 rfl
  refine ⟨⟨fun p => ?_⟩, ⟨fun c => ?_⟩⟩
  · -- along the edges a search ends at `n`, and goes elsewhere by old edges only
    have hn : Acc E' n := ⟨n, fun c hc => absurd hc (hleaf' c)⟩
    induction p using hE.along.induction with
    | _ p ih =>
      refine ⟨p, fun c hc => ?_⟩
      rcases hnew c p hc with hc | ⟨rfl, -⟩
      · exact ih c hc
      · exact hn
  · -- a node other than `n` is reached from its old parents only, and these are not `n`
    have hne : ∀ a, a ≠ n → Acc (fun p c => E' c p) a := by
      intro a
      induction a using hE.against.induction with
      | _ a ih =>
        intro ha
        refine ⟨a, fun p hp => ?_⟩
        rcases hnew a p hp with hp' | ⟨rfl, -⟩
        · exact ih p hp' fun hpn => hleaf a (hpn ▸ hp')
        · exact absurd rfl ha
    by_cases hc : c = n
    · refine ⟨c, fun p hp => hne p fun hpn => hleaf' c (hpn ▸ hp)⟩
    · exact hne c hc

theorem Acyclic.not_transGen_self (hE : Acyclic E) (a : N) : ¬ Relation.TransGen E a a :=
  fun h => hE.along.transGen.irrefl.irrefl a h

end Machine
