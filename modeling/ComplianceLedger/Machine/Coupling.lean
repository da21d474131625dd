import ComplianceLedger.Machine.Handler

/-!
# Couplings of handlers

Two handlers run side by side, each on a store of its own. They are coupled when, started from related
stores, they go the same way: neither returns, or both fail with the same error, or both succeed with
related values and related stores. What they have written by the time they fail does not matter, since
the delivery of a message drops it.

A coupling says that a handler does not see what its stores differ in. It is proved as the handler is
written, one action at a time.

## Main definitions

* `Matches R r r'`: the outcomes go the same way, with values and stores related by `R`
* `Coupled P x y R`: from stores related by `P` the handlers have matching outcomes

## Main results

* `Coupled.bind`, and one such rule for each atomic handler: couplings, one action at a time
* `Coupled.deliver`, `Coupled.answer`: coupled handlers have coupled deliveries, with the same answers
-/

namespace Machine.Handler

variable {ε S T α β γ δ : Type}

/-- Two outcomes go the same way, and on success the values and the stores are related. -/
inductive Matches (R : α → β → S → T → Prop) :
    Option (Except ε α × S) → Option (Except ε β × T) → Prop
  | none : Matches R none none
  | error (e : ε) (s : S) (t : T) : Matches R (some (.error e, s)) (some (.error e, t))
  | ok {a : α} {b : β} {s : S} {t : T} (h : R a b s t) :
    Matches R (some (.ok a, s)) (some (.ok b, t))

/-- From stores related by `P` the handlers have outcomes that match. -/
def Coupled (P : S → T → Prop) (x : Handler ε S α) (y : Handler ε T β)
    (R : α → β → S → T → Prop) : Prop :=
  ∀ s t, P s t → Matches R (x s) (y t)

section Rules

variable {P : S → T → Prop} {R : α → β → S → T → Prop} {R' : γ → δ → S → T → Prop}

theorem Coupled.bind {x : Handler ε S α} {y : Handler ε T β} {f : α → Handler ε S γ}
    {g : β → Handler ε T δ} (hxy : Coupled P x y R)
    (hfg : ∀ a b, Coupled (R a b) (f a) (g b) R') : Coupled P (x >>= f) (y >>= g) R' := by
  intro s t hst
  have hfirst := hxy s t hst
  simp only [Bind.bind]
  generalize x s = r at hfirst ⊢
  generalize y t = r' at hfirst ⊢
  cases hfirst with
  | none => exact .none
  | error e s₁ t₁ => exact .error e s₁ t₁
  | ok h => exact hfg _ _ _ _ h

theorem Coupled.of_imp {P' : S → T → Prop} {x : Handler ε S α} {y : Handler ε T β}
    (h : Coupled P x y R) (himp : ∀ s t, P' s t → P s t) : Coupled P' x y R :=
  fun s t hst => h s t (himp s t hst)

theorem coupled_pure {a : α} {b : β} (h : ∀ s t, P s t → R a b s t) :
    Coupled P (pure a : Handler ε S α) (pure b : Handler ε T β) R :=
  fun s t hst => .ok (h s t hst)

theorem coupled_fail (e : ε) : Coupled P (fail e : Handler ε S α) (fail e : Handler ε T β) R :=
  fun s t _ => .error e s t

theorem coupled_write {f : S → S} {g : T → T} {R : Unit → Unit → S → T → Prop}
    (h : ∀ s t, P s t → R () () (f s) (g t)) : Coupled P (write f : Handler ε S Unit) (write g) R :=
  fun s t hst => .ok (h s t hst)

/-- Both handlers read the same value. -/
theorem coupled_read_bind {f : S → α} {g : T → α} {x : α → Handler ε S γ} {y : α → Handler ε T δ}
    (hfg : ∀ s t, P s t → f s = g t) (hxy : ∀ a, Coupled P (x a) (y a) R') :
    Coupled P (read f >>= x) (read g >>= y) R' := by
  intro s t hst
  change Matches R' (x (f s) s) (y (g t) t)
  rw [hfg s t hst]
  exact hxy (g t) s t hst

/-- Both handlers find the same value, or none. -/
theorem coupled_readSome_bind {f : S → Option α} {g : T → Option α} {e : ε} {x : α → Handler ε S γ}
    {y : α → Handler ε T δ} (hfg : ∀ s t, P s t → f s = g t) (hxy : ∀ a, Coupled P (x a) (y a) R') :
    Coupled P (readSome f e >>= x) (readSome g e >>= y) R' := by
  refine Coupled.bind (R := fun a b s t => a = b ∧ P s t) (fun s t hst => ?_) ?_
  · unfold readSome
    rw [hfg s t hst]
    cases g t with
    | none => exact .error e s t
    | some a => exact .ok ⟨rfl, hst⟩
  · rintro a b s t ⟨rfl, hst⟩
    exact hxy a s t hst

theorem coupled_failIf {c : Prop} [Decidable c] {e : ε} :
    Coupled P (failIf c e : Handler ε S Unit) (failIf c e : Handler ε T Unit) fun _ _ => P := by
  unfold failIf
  split
  · exact coupled_fail e
  · exact coupled_pure fun _ _ hst => hst

theorem coupled_failIf_bind {c c' : Prop} [Decidable c] [Decidable c'] {e : ε}
    {x : Unit → Handler ε S γ} {y : Unit → Handler ε T δ} (hcc : c ↔ c')
    (hxy : Coupled P (x ()) (y ()) R') : Coupled P (failIf c e >>= x) (failIf c' e >>= y) R' := by
  intro s t hst
  by_cases hc : c
  · rw [failIf, failIf, if_pos hc, if_pos (hcc.mp hc)]
    exact .error e s t
  · rw [failIf, failIf, if_neg hc, if_neg (mt hcc.mpr hc)]
    exact hxy s t hst

theorem coupled_ofExcept {r : Except ε α} :
    Coupled P (ofExcept r : Handler ε S α) (ofExcept r : Handler ε T α) fun _ _ => P := by
  cases r with
  | error e => exact fun s t _ => .error e s t
  | ok a => exact fun s t hst => .ok hst

theorem coupled_ofExcept_bind {r : Except ε α} {x : α → Handler ε S γ} {y : α → Handler ε T δ}
    (hxy : ∀ a, r = .ok a → Coupled P (x a) (y a) R') :
    Coupled P (ofExcept r >>= x) (ofExcept r >>= y) R' := by
  cases r with
  | error e => exact fun s t _ => .error e s t
  | ok a => exact fun s t hst => hxy a rfl s t hst

theorem coupled_write_bind {P' : S → T → Prop} {f : S → S} {g : T → T} {x : Unit → Handler ε S γ}
    {y : Unit → Handler ε T δ} (hfg : ∀ s t, P s t → P' (f s) (g t))
    (hxy : Coupled P' (x ()) (y ()) R') : Coupled P (write f >>= x) (write g >>= y) R' :=
  fun s t hst => hxy (f s) (g t) (hfg s t hst)

/-- Branches of related stores. -/
theorem Coupled.branch {x : Handler ε S α} {y : Handler ε T β} (hxy : Coupled P x y R) :
    Coupled P (branch x) (branch y) fun s' t' s t => (∃ a b, R a b s' t') ∧ P s t := by
  intro s t hst
  unfold Handler.branch
  have hfirst := hxy s t hst
  generalize x s = r at hfirst
  generalize y t = r' at hfirst
  cases hfirst with
  | none => exact .none
  | error e s₁ t₁ => exact .error e s t
  | ok h => exact .ok ⟨⟨_, _, h⟩, hst⟩

/-- **The deliveries of coupled handlers** return the same, and leave related stores. -/
theorem Coupled.deliver {Q : S → T → Prop} {x : Handler ε S Unit} {y : Handler ε T Unit} {s s' : S}
    {t : T} {r : Except ε Unit} (hxy : Coupled P x y fun _ _ => Q) (hst : P s t) (hkept : Q s t)
    (hd : x.deliver s = some (r, s')) : ∃ t', y.deliver t = some (r, t') ∧ Q s' t' := by
  have hfirst := hxy s t hst
  unfold Handler.deliver at hd ⊢
  generalize x s = o at hfirst hd
  generalize y t = o' at hfirst
  cases hfirst with
  | none => cases hd
  | error e s₁ t₁ =>
    obtain ⟨rfl, rfl⟩ := Prod.mk.inj (Option.some.inj hd)
    exact ⟨t, rfl, hkept⟩
  | ok h =>
    obtain ⟨rfl, rfl⟩ := Prod.mk.inj (Option.some.inj hd)
    exact ⟨_, rfl, h⟩

/-- The deliveries of coupled handlers are answered alike. -/
theorem Coupled.answer {x : Handler ε S Unit} {y : Handler ε T Unit}
    {R : Unit → Unit → S → T → Prop} {s : S} {t : T} (hxy : Coupled P x y R) (hst : P s t) :
    (x.deliver s).map Prod.fst = (y.deliver t).map Prod.fst := by
  have hfirst := hxy s t hst
  unfold Handler.deliver
  generalize x s = o at hfirst
  generalize y t = o' at hfirst
  cases hfirst <;> rfl

end Rules

end Machine.Handler
