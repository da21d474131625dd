import ComplianceLedger.Machine.Handler
import Mathlib.Data.Nat.Basic

/-!
# Handlers that return

Most handlers return from every store. Some contain a recursion, which is given fuel and returns only
if it has enough; such a handler is a family of handlers, one for each amount of fuel. It settles in a
store if they return there from some amount of fuel on, all with the same outcome. The rules below
follow the shape of a handler, one action at a time, up to the recursion.

## Main definitions

* `Total x`: the handler returns from every store
* `Settles x s`: the handlers `x n` return from the store `s` with one outcome, for every large `n`

## Main results

* `total_bind`, and one instance for each atomic handler: what returns from every store
* `Settles.bind`, `settles_write_bind`, …: what settles, one action at a time
* `Settles.deliver`: a delivery settles with its handler
-/

namespace Machine.Handler

variable {ε S T α β : Type}

/-- The handler returns from every store. -/
class Total (x : Handler ε S α) : Prop where
  returns : ∀ s, ∃ r, x s = some r

/-- The handlers return from the store with one outcome, from some amount of fuel on. -/
def Settles (x : ℕ → Handler ε S α) (s : S) : Prop := ∃ m r, ∀ n, m ≤ n → x n s = some r

/-! ## Total handlers

The handlers that return from every store are found by their shape, as instances. -/

section Total

variable {x y : Handler ε S α}

instance total_pure (a : α) : Total (pure a : Handler ε S α) := ⟨fun s => ⟨(.ok a, s), rfl⟩⟩

instance total_fail (e : ε) : Total (fail e : Handler ε S α) := ⟨fun s => ⟨(.error e, s), rfl⟩⟩

instance total_read (g : S → α) : Total (read g : Handler ε S α) := ⟨fun s => ⟨(.ok (g s), s), rfl⟩⟩

instance total_write (g : S → S) : Total (write g : Handler ε S Unit) := ⟨fun s => ⟨(.ok (), g s), rfl⟩⟩

instance total_readSome (g : S → Option α) (e : ε) : Total (readSome g e) where
  returns s := by
    unfold readSome
    cases g s with
    | none => exact ⟨_, rfl⟩
    | some a => exact ⟨_, rfl⟩

instance total_ite (c : Prop) [Decidable c] [Total x] [Total y] : Total (if c then x else y) := by
  split <;> assumption

instance total_failIf (c : Prop) [Decidable c] (e : ε) : Total (failIf c e : Handler ε S Unit) :=
  total_ite c

instance total_ofExcept (r : Except ε α) : Total (ofExcept r : Handler ε S α) := by
  cases r with
  | error e => exact total_fail e
  | ok a => exact total_pure a

instance total_attempt (g : S → Except ε S) : Total (attempt g) where
  returns s := by
    unfold attempt
    cases g s with
    | error e => exact ⟨_, rfl⟩
    | ok s' => exact ⟨_, rfl⟩

theorem Total.bind {f : α → Handler ε S β} (hx : Total x) (hf : ∀ a, Total (f a)) :
    Total (x >>= f) where
  returns s := by
    obtain ⟨⟨e | a, s₁⟩, h₁⟩ := hx.returns s
    · exact ⟨(.error e, s₁), by simp only [Bind.bind, h₁]⟩
    · obtain ⟨r, hr⟩ := (hf a).returns s₁
      exact ⟨r, by simp only [Bind.bind, h₁, hr]⟩

instance total_bind {f : α → Handler ε S β} [hx : Total x] [hf : ∀ a, Total (f a)] :
    Total (x >>= f) := hx.bind hf

instance total_branch [hx : Total x] : Total (branch x) where
  returns s := by
    obtain ⟨⟨e | a, s₁⟩, h₁⟩ := hx.returns s
    · exact ⟨_, by rw [branch, h₁]⟩
    · exact ⟨_, by rw [branch, h₁]⟩

instance total_focus {get : S → T} {set : T → S → S} {z : Handler ε T α} [hz : Total z] :
    Total (focus get set z) where
  returns s := by
    obtain ⟨r, hr⟩ := hz.returns (get s)
    exact ⟨_, by rw [focus, hr, Option.map_some]⟩

end Total

/-! ## Handlers with fuel -/

section Settles

variable {s : S}

theorem Total.settles {x : Handler ε S α} (hx : Total x) (s : S) : Settles (fun _ => x) s := by
  obtain ⟨r, hr⟩ := hx.returns s
  exact ⟨0, r, fun _ _ => hr⟩

/-- What needs no fuel in a store settles there if it returns. -/
theorem settles_of_const {x : ℕ → Handler ε S α} (h : ∃ r, x 0 s = some r)
    (hconst : ∀ n, x n s = x 0 s) : Settles x s := by
  obtain ⟨r, hr⟩ := h
  exact ⟨0, r, fun n _ => (hconst n).trans hr⟩

theorem Settles.bind {x : ℕ → Handler ε S α} {f : ℕ → α → Handler ε S β} (hx : Settles x s)
    (hf : ∀ n a s₁, x n s = some (.ok a, s₁) → Settles (fun n => f n a) s₁) :
    Settles (fun n => x n >>= f n) s := by
  obtain ⟨m, ⟨e | a, s₁⟩, hm⟩ := hx
  · exact ⟨m, (.error e, s₁), fun n hn => by simp only [Bind.bind, hm n hn]⟩
  · obtain ⟨m', r, hm'⟩ := hf m a s₁ (hm m (Nat.le_refl m))
    refine ⟨max m m', r, fun n hn => ?_⟩
    simp only [Bind.bind, hm n (Nat.le_trans (Nat.le_max_left m m') hn),
      hm' n (Nat.le_trans (Nat.le_max_right m m') hn)]

/-- After a total action it is the rest that matters. -/
theorem Total.settles_bind {x : Handler ε S α} {f : ℕ → α → Handler ε S β} (hx : Total x)
    (hf : ∀ a s₁, x s = some (.ok a, s₁) → Settles (fun n => f n a) s₁) :
    Settles (fun n => x >>= f n) s :=
  (hx.settles s).bind fun _ a s₁ h => hf a s₁ h

theorem settles_read_bind {g : S → α} {f : ℕ → α → Handler ε S β}
    (hf : Settles (fun n => f n (g s)) s) : Settles (fun n => read g >>= f n) s := by
  refine (total_read g).settles_bind fun a s₁ h => ?_
  obtain ⟨ha, rfl⟩ := Prod.mk.inj (Option.some.inj h)
  obtain rfl := Except.ok.inj ha
  exact hf

theorem settles_write_bind {g : S → S} {f : ℕ → Unit → Handler ε S β}
    (hf : Settles (fun n => f n ()) (g s)) : Settles (fun n => write g >>= f n) s := by
  refine (total_write g).settles_bind fun a s₁ h => ?_
  obtain ⟨-, rfl⟩ := Prod.mk.inj (Option.some.inj h)
  exact hf

/-- After a check that writes nothing the rest starts from the same store. -/
theorem ReadOnly.settles_bind {x : Handler ε S α} {f : ℕ → α → Handler ε S β} (hro : x.ReadOnly)
    (hx : Total x) (hf : ∀ a, x s = some (.ok a, s) → Settles (fun n => f n a) s) :
    Settles (fun n => x >>= f n) s := by
  refine hx.settles_bind fun a s₁ h => ?_
  obtain rfl := hro s _ s₁ h
  exact hf a h

theorem settles_readSome_bind {g : S → Option α} {e : ε} {f : ℕ → α → Handler ε S β}
    (hf : ∀ a, g s = some a → Settles (fun n => f n a) s) :
    Settles (fun n => readSome g e >>= f n) s := by
  refine (readOnly_readSome g e).settles_bind (total_readSome g e) fun a h => hf a ?_
  unfold readSome at h
  cases hg : g s with
  | none =>
    rw [hg] at h
    cases h
  | some a' =>
    rw [hg] at h
    cases h
    rfl

theorem settles_failIf_bind {c : Prop} [Decidable c] {e : ε} {f : ℕ → Unit → Handler ε S β}
    (hf : ¬c → Settles (fun n => f n ()) s) : Settles (fun n => failIf c e >>= f n) s := by
  refine (readOnly_failIf c e).settles_bind (total_failIf c e) fun _ h => hf fun hc => ?_
  rw [failIf, if_pos hc] at h
  cases h

theorem settles_ofExcept_bind {r : Except ε α} {f : ℕ → α → Handler ε S β}
    (hf : ∀ a, r = .ok a → Settles (fun n => f n a) s) :
    Settles (fun n => ofExcept r >>= f n) s := by
  refine (readOnly_ofExcept r).settles_bind (total_ofExcept r) fun a h => hf a ?_
  cases r with
  | error e => cases h
  | ok a' =>
    cases h
    rfl

theorem settles_ofOption {g : ℕ → Option (Except ε α)} {m : ℕ} {r : Except ε α}
    (h : ∀ n, m ≤ n → g n = some r) : Settles (fun n => (ofOption (g n) : Handler ε S α)) s := by
  obtain ⟨r', hr'⟩ := (total_ofExcept (S := S) r).returns s
  refine ⟨m, r', fun n hn => ?_⟩
  simp only [h n hn, ofOption, hr']

theorem settles_transform {g : ℕ → S → Option S} {m : ℕ} {s' : S}
    (h : ∀ n, m ≤ n → g n s = some s') :
    Settles (fun n => (transform (g n) : Handler ε S Unit)) s := by
  refine ⟨m, (.ok (), s'), fun n hn => ?_⟩
  simp only [transform, h n hn, Option.map_some]

theorem Settles.deliver {x : ℕ → Handler ε S α} (h : Settles x s) :
    ∃ m r, ∀ n, m ≤ n → (x n).deliver s = some r := by
  obtain ⟨m, ⟨e | a, s₁⟩, hm⟩ := h
  · exact ⟨m, (.error e, s), fun n hn => by rw [Handler.deliver, hm n hn]⟩
  · exact ⟨m, (.ok a, s₁), fun n hn => by rw [Handler.deliver, hm n hn]⟩

end Settles

end Machine.Handler
