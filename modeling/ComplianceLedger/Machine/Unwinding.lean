import ComplianceLedger.Machine.TransitionSystem

/-!
# Unwinding

An observer sees some of the labels of a system and a part of its states. The labels that are not seen
do not interfere with what is seen if every run can be purged of them: the labels that are seen, alone,
are a run, and it ends in a state that the observer cannot tell from that of the whole run. This follows
from two conditions on single steps. A step that is not seen leaves what is seen; and a step that is
seen can be taken from every state that looks the same, with results that look the same.

## Main definitions

* `Unwinds T same seen`: the conditions on single steps

## Main results

* `Unwinds.purge`: every run can be purged
-/

namespace Machine.TransitionSystem

variable {S A : Type} {T : TransitionSystem S A} {same : S → S → Prop} {seen : A → Bool}

/-- The unwinding conditions, for steps from reachable states. -/
structure Unwinds (T : TransitionSystem S A) (same : S → S → Prop) (seen : A → Bool) : Prop where
  init : same T.init T.init
  unseen : ∀ {s t a s'}, Reachable T s → same s t → seen a = false → T.step s a s' → same s' t
  seen : ∀ {s t a s'}, Reachable T s → Reachable T t → same s t → seen a = true → T.step s a s' →
    ∃ t', T.step t a t' ∧ same s' t'

/-- **Every run can be purged** of the labels that are not seen. -/
theorem Unwinds.purge (h : Unwinds T same seen) {as : List A} {s : S} (hrun : Run T as s) :
    ∃ t, Run T (as.filter seen) t ∧ same s t := by
  induction hrun with
  | init => exact ⟨T.init, .init, h.init⟩
  | @step as s s' a hrun hstep ih =>
    obtain ⟨t, ht, hsame⟩ := ih
    rw [List.filter_append]
    cases ha : seen a with
    | false =>
      -- the purged run stays where it is
      refine ⟨t, ?_, h.unseen ⟨as, hrun⟩ hsame ha hstep⟩
      rwa [List.filter_cons_of_neg (by simp [ha]), List.filter_nil, List.append_nil]
    | true =>
      obtain ⟨t', hstep', hsame'⟩ := h.seen ⟨as, hrun⟩ ⟨_, ht⟩ hsame ha hstep
      refine ⟨t', ?_, hsame'⟩
      rw [List.filter_cons_of_pos ha, List.filter_nil]
      exact ht.step hstep'

end Machine.TransitionSystem
