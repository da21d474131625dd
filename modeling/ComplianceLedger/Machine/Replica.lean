import ComplianceLedger.Machine.Handler
import Mathlib.Data.Nat.Notation
import Mathlib.Tactic.Choose

/-!
# Replicas

The nodes of a replicated machine run one handler on one store. What differs from node to node, such
as the reading of a clock, is a parameter of the handler. A handler that consults it once asks a
question: it returns the error it is answered with, or goes on with the answer. The nodes agree on
such a message exactly when none of them is answered, as soon as one of them is not.

## Main definitions

* `Outcome h s n o`: the node `n` may obtain `o` from the handler `h` on the store `s`
* `Refuses h s`: every node obtains one error
* `Agree E h s`: any two nodes obtain outcomes that `E` relates
* `Consults h s ask go`: on `s` the handler asks one question

## Main results

* `refuses_or_of_ofExcept`, `refuses_or_of_failIf`: a check refuses, or the handler goes on
* `exists_consults`: a handler that asks its question consults
* `Consults.agree_iff`: when the nodes agree
-/

namespace Machine.Handler

variable {ε S α β γ ν : Type}

/-- The node `n` obtains `o`, with enough fuel. -/
def Outcome (h : ν → ℕ → Handler ε S α) (s : S) (n : ν) (o : Except ε α × S) : Prop :=
  ∃ fuel, (h n fuel).deliver s = some o

/-- Any two nodes obtain outcomes that `E` relates. -/
def Agree (E : Except ε α × S → Except ε α × S → Prop) (h : ν → ℕ → Handler ε S α) (s : S) : Prop :=
  ∀ n n' o o', Outcome h s n o → Outcome h s n' o' → E o o'

/-- What follows an answer: the error it is, or what the handler goes on to. -/
def answered (s : S) (go : γ → Except ε α × S) : Except ε γ → Except ε α × S
  | .error e => (.error e, s)
  | .ok a => go a

/-- On the store `s` the handler asks one question, and returns what follows its answer. -/
def Consults (h : ν → ℕ → Handler ε S α) (s : S) (ask : ν → ℕ → Option (Except ε γ))
    (go : γ → Except ε α × S) : Prop :=
  ∀ n fuel, (h n fuel).deliver s = (ask n fuel).map (answered s go)

/-- The handler returns one error on `s`, whatever the node. -/
def Refuses (h : ν → ℕ → Handler ε S α) (s : S) : Prop :=
  ∃ e, ∀ n fuel, (h n fuel).deliver s = some (.error e, s)

variable {h : ν → ℕ → Handler ε S α} {s : S} {ask : ν → ℕ → Option (Except ε γ)}
  {go : γ → Except ε α × S} {E : Except ε α × S → Except ε α × S → Prop} {e : ε}

/-! ## Checks in front of the question -/

theorem refuses_or_of_ofExcept {r : Except ε β} {f : ν → ℕ → β → Handler ε S α}
    (hh : ∀ n fuel, (h n fuel).deliver s = (ofExcept r >>= f n fuel).deliver s) :
    ((∃ e, r = .error e) ∧ Refuses h s) ∨
      ∃ a, r = .ok a ∧ ∀ n fuel, (h n fuel).deliver s = (f n fuel a).deliver s := by
  cases r with
  | error e => exact Or.inl ⟨⟨e, rfl⟩, e, hh⟩
  | ok a => exact Or.inr ⟨a, rfl, hh⟩

theorem refuses_or_of_failIf {c : Prop} [Decidable c] {f : ν → ℕ → Unit → Handler ε S α}
    (hh : ∀ n fuel, (h n fuel).deliver s = (failIf c e >>= f n fuel).deliver s) :
    (c ∧ Refuses h s) ∨ (¬ c ∧ ∀ n fuel, (h n fuel).deliver s = (f n fuel ()).deliver s) := by
  by_cases hc : c
  · refine Or.inl ⟨hc, e, fun n fuel => ?_⟩
    rw [hh, deliver_failIf_bind, if_pos hc]
  · refine Or.inr ⟨hc, fun n fuel => ?_⟩
    rw [hh, deliver_failIf_bind, if_neg hc]

/-- A handler that asks its question, and of which every continuation has an outcome such that `P`,
consults. -/
theorem exists_consults {P : Except ε α × S → Prop} {f : γ → Handler ε S α}
    (hh : ∀ n fuel, (h n fuel).deliver s = (ofOption (ask n fuel) >>= f).deliver s)
    (hf : ∀ a, ∃ o, (f a).deliver s = some o ∧ P o) :
    ∃ go, Consults h s ask go ∧ ∀ a, P (go a) := by
  choose go hgo hP using hf
  refine ⟨go, fun n fuel => ?_, hP⟩
  rw [hh]
  rcases ask n fuel with - | e | a
  · rfl
  · rfl
  · exact hgo a

/-! ## Agreement -/

/-- Nodes that all obtain one outcome agree. -/
theorem agree_of_forall {o : Except ε α × S} (hE : E o o)
    (hall : ∀ n o', Outcome h s n o' → o' = o) : Agree E h s := by
  intro n n' o₁ o₂ h₁ h₂
  rw [hall n o₁ h₁, hall n' o₂ h₂]
  exact hE

namespace Consults

/-- A node obtains what follows the answer it is given. -/
theorem outcome_iff (hc : Consults h s ask go) {n : ν} {o : Except ε α × S} :
    Outcome h s n o ↔ ∃ fuel r, ask n fuel = some r ∧ answered s go r = o := by
  refine exists_congr fun fuel => ?_
  rw [hc n fuel, Option.map_eq_some_iff]

/-- **When the nodes agree.** Every node is answered, and one of them with an error; all errors are
one, and it is told apart from what the handler goes on to. Then the nodes agree exactly when all of
them are answered with that error. -/
theorem agree_iff (hc : Consults h s ask go) (hE : ∀ o, E o o)
    (hanswer : ∀ n, ∃ fuel r, ask n fuel = some r)
    (herror : ∀ n fuel e', ask n fuel = some (.error e') → e' = e) (n₀ : ν)
    (hn₀ : ∀ fuel a, ask n₀ fuel ≠ some (.ok a)) (hgo : ∀ a, ¬ E (go a) (.error e, s)) :
    Agree E h s ↔ ∀ n fuel a, ask n fuel ≠ some (.ok a) := by
  constructor
  · intro hagree n fuel a ha
    obtain ⟨fuel₀, r, hr⟩ := hanswer n₀
    cases r with
    | ok a₀ => exact hn₀ fuel₀ a₀ hr
    | error e' =>
      -- the node with the error and the node with the answer obtain outcomes that differ
      obtain rfl := herror _ _ _ hr
      exact hgo a (hagree n n₀ _ _ (hc.outcome_iff.mpr ⟨fuel, _, ha, rfl⟩)
        (hc.outcome_iff.mpr ⟨fuel₀, _, hr, rfl⟩))
  · intro hnone
    refine agree_of_forall (o := (.error e, s)) (hE _) fun n o ho => ?_
    obtain ⟨fuel, r, hr, rfl⟩ := hc.outcome_iff.mp ho
    cases r with
    | ok a => exact absurd hr (hnone n fuel a)
    | error e' => rw [herror _ _ _ hr]; rfl

end Consults

end Machine.Handler
