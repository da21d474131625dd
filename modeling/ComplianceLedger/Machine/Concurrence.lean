import ComplianceLedger.Machine.Handler
import ComplianceLedger.Machine.TransitionSystem

/-!
# Concurrence

The nodes of a replicated machine run one handler, each with readings and with fuel of its own. Two such
handlers concur on a store if they return the same there, as soon as both return. Concurrence is
proved as the handler is written: actions that are the same on all nodes concur, and so does what
follows them, if it concurs on the stores that they leave.

Runs of a system whose steps concur stay together.

## Main definitions

* `Concur x y s`: from the store `s` the handlers return the same, if both return

## Main results

* `eq_of_fuel`: two results at different fuel are the same
* `Concur.bind`, `concur_bind`, `ReadOnly.concur_bind`: concurrence, one action at a time
* `Concur.deliver`: handlers that concur have one delivery
* `TransitionSystem.Run.lockstep`: runs with related labels end in one state
-/

namespace Machine

/-- Two results of a computation whose results more fuel does not change are the same. -/
theorem eq_of_fuel {α : Type} {f : ℕ → Option α} {m n : ℕ} {a b : α}
    (hmono : ∀ m n a, m ≤ n → f m = some a → f n = some a) (ha : f m = some a) (hb : f n = some b) :
    a = b := by
  have hmore := hmono m _ a (Nat.le_max_left m n) ha
  have hmore' := hmono n _ b (Nat.le_max_right m n) hb
  exact Option.some.inj (hmore.symm.trans hmore')

end Machine

namespace Machine.Handler

variable {ε S T α β : Type}

/-- Both handlers return the same from the store, if both return. -/
def Concur (x y : Handler ε S α) (s : S) : Prop := ∀ r r', x s = some r → y s = some r' → r = r'

section Rules

variable {x y : Handler ε S α} {f g : α → Handler ε S β} {s : S}

theorem concur_of_eq (h : x s = y s) : Concur x y s := fun _ _ hx hy =>
  Option.some.inj (hx.symm.trans (h.trans hy))

theorem Concur.refl (x : Handler ε S α) (s : S) : Concur x x s := concur_of_eq rfl

theorem Concur.bind (hxy : Concur x y s)
    (hfg : ∀ a s₁, x s = some (.ok a, s₁) → Concur (f a) (g a) s₁) :
    Concur (x >>= f) (y >>= g) s := by
  intro r r' hr hr'
  simp only [Bind.bind] at hr hr'
  rcases hx : x s with - | ⟨e | a, s₁⟩ <;> rcases hy : y s with - | ⟨e' | a', s₂⟩ <;>
    simp only [hx, hy, reduceCtorEq] at hr hr'
  -- in the cases that are left both actions return, and so return the same
  all_goals obtain ⟨hra, rfl⟩ := Prod.mk.inj (hxy _ _ hx hy)
  · exact Option.some.inj (hr.symm.trans (by rw [← hr', Except.error.inj hra]))
  · cases hra
  · cases hra
  · obtain rfl := Except.ok.inj hra
    exact hfg a s₁ hx r r' hr hr'

/-- After an action that is the same on both nodes the rest has to concur on every store. -/
theorem concur_bind (hfg : ∀ a t, Concur (f a) (g a) t) : Concur (x >>= f) (x >>= g) s :=
  (Concur.refl x s).bind fun a t _ => hfg a t

/-- After a check that writes nothing the rest starts from the same store. -/
theorem ReadOnly.concur_bind (hro : x.ReadOnly)
    (hfg : ∀ a, x s = some (.ok a, s) → Concur (f a) (g a) s) : Concur (x >>= f) (x >>= g) s := by
  refine (Concur.refl x s).bind fun a s₁ h => ?_
  obtain rfl := hro s _ s₁ h
  exact hfg a h

theorem concur_read_bind {h : S → α} (hfg : Concur (f (h s)) (g (h s)) s) :
    Concur (read h >>= f) (read h >>= g) s := hfg

theorem concur_ofOption {o o' : Option (Except ε α)} (h : ∀ r r', o = some r → o' = some r' → r = r') :
    Concur (ofOption o : Handler ε S α) (ofOption o') s := by
  intro r r' hr hr'
  cases o with
  | none => cases hr
  | some a =>
    cases o' with
    | none => cases hr'
    | some a' =>
      obtain rfl := h a a' rfl rfl
      exact Option.some.inj (hr.symm.trans hr')

theorem concur_transform {h h' : S → Option S} (hh : ∀ t t', h s = some t → h' s = some t' → t = t') :
    Concur (transform h : Handler ε S Unit) (transform h') s := by
  intro r r' hr hr'
  obtain ⟨t, ht, rfl⟩ := Option.map_eq_some_iff.mp hr
  obtain ⟨t', ht', rfl⟩ := Option.map_eq_some_iff.mp hr'
  rw [hh t t' ht ht']

theorem Concur.focus {get : S → T} {set : T → S → S} {x y : Handler ε T α}
    (h : Concur x y (get s)) : Concur (focus get set x) (focus get set y) s := by
  intro r r' hr hr'
  obtain ⟨p, hp, rfl⟩ := Option.map_eq_some_iff.mp hr
  obtain ⟨p', hp', rfl⟩ := Option.map_eq_some_iff.mp hr'
  rw [h p p' hp hp']

/-- Handlers that concur have one delivery. -/
theorem Concur.deliver (h : Concur x y s) {o o' : Except ε α × S} (ho : x.deliver s = some o)
    (ho' : y.deliver s = some o') : o = o' := by
  unfold Handler.deliver at ho ho'
  rcases hx : x s with - | r
  · rw [hx] at ho
    cases ho
  · rcases hy : y s with - | r'
    · rw [hy] at ho'
      cases ho'
    · obtain rfl := h r r' hx hy
      rw [hx] at ho
      rw [hy] at ho'
      exact Option.some.inj (ho.symm.trans ho')

end Rules

end Machine.Handler

namespace Machine.TransitionSystem

variable {S A : Type} {T : TransitionSystem S A} {as as' : List A} {s s' : S}

theorem Run.path_init (h : Run T as s) : Path T T.init as s := by
  induction h with
  | init => exact .nil
  | step _ hs ih => exact ih.append (.cons hs .nil)

/-- Labels that are all good are a run of the restricted system. -/
theorem Run.restrict_of_forall {good : A → Prop} (h : Run T as s) (hgood : ∀ a ∈ as, good a) :
    Run (T.restrict fun _ a => good a) as s := by
  induction h with
  | init => exact Run.init
  | step _ hs ih =>
    exact (ih fun a ha => hgood a (List.mem_append_left _ ha)).step ⟨hs, hgood _ (by simp)⟩

/-- **Runs in lockstep.** If related labels lead from a reachable state to one state only, then runs with
related labels end in one state. -/
theorem Run.lockstep {R : A → A → Prop}
    (hstep : ∀ {s a a' s₁ s₂}, Reachable T s → R a a' → T.step s a s₁ → T.step s a' s₂ → s₁ = s₂)
    (h : Run T as s) (h' : Run T as' s') (hR : List.Forall₂ R as as') : s = s' := by
  -- the induction takes the labels from the front, so both runs start from any reachable state
  suffices hpaths : ∀ s₀, Reachable T s₀ → Path T s₀ as s → Path T s₀ as' s' → s = s' from
    hpaths T.init .init h.path_init h'.path_init
  clear h h'
  induction hR with
  | nil =>
    rintro s₀ - ⟨⟩ ⟨⟩
    rfl
  | cons hfirst _ ih =>
    rintro s₀ hs₀ (_ | ⟨hs, hrest⟩) (_ | ⟨hs', hrest'⟩)
    obtain rfl := hstep hs₀ hfirst hs hs'
    exact ih _ (hs₀.step hs) hrest hrest'

end Machine.TransitionSystem
