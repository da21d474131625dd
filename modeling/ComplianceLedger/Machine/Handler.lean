import Mathlib.Logic.Basic

/-!
# Message handlers

A handler reads and writes a store and returns a value or an error. What it has written by the
time it returns an error stays in the store it leaves: it is the delivery of a message
(`Handler.deliver`) that drops the writes of a failed handler. A handler that never returns has no
outcome.

## Main definitions

* `Handler ε S α`: handlers with errors `ε` over the store `S`
* `read`, `readSome`, `write`, `fail`, `failIf`, `ofExcept`, `ofOption`, `transform`,
  `attempt`: the atomic handlers
* `branch`: a handler run on a branch of the store
* `focus`: a handler run on a part of the store
* `deliver`: a handler run as a transaction
* `ReadOnly h`, `FailsIn s h t`: the handler writes nothing; it fails in the store `s` only

## Main results

* `bind_ok_iff`, and one such lemma for each atomic handler: the successful runs of a handler, one
  action at a time
* `FailsIn.bind`, `ReadOnly.failsIn_bind`: the store that an error leaves, one action at a time
* `deliver_eq_of_failsIn`: handlers that do without the rollback
* `deliver_read_bind`, `deliver_failIf_bind`, `deliver_ofExcept_bind`: a delivery, one check at a time
* `deliver_cases`: a delivery succeeds with the handler's store or keeps the old one
-/

namespace Machine

/-- A handler: the value or the error it returns with the store it leaves, or `none` if it never
returns. -/
def Handler (ε S α : Type) := S → Option (Except ε α × S)

namespace Handler

variable {ε S α β : Type}

instance : Monad (Handler ε S) where
  pure a := fun s => some (.ok a, s)
  bind x f := fun s =>
    match x s with
    | none => none
    | some (.error e, s') => some (.error e, s')
    | some (.ok a, s') => f a s'

/-- Read a value off the store. -/
def read (f : S → α) : Handler ε S α := fun s => some (.ok (f s), s)

/-- Read a value off the store, or return the error `e` if it is not there. -/
def readSome (f : S → Option α) (e : ε) : Handler ε S α := fun s =>
  match f s with
  | some a => some (.ok a, s)
  | none => some (.error e, s)

/-- Update the store. -/
def write (f : S → S) : Handler ε S Unit := fun s => some (.ok (), f s)

/-- Return an error. -/
def fail (e : ε) : Handler ε S α := fun s => some (.error e, s)

/-- Return the error `e` if `c` holds. -/
def failIf (c : Prop) [Decidable c] (e : ε) : Handler ε S Unit :=
  if c then fail e else pure ()

/-- Return a value, or the error it was computed with. -/
def ofExcept : Except ε α → Handler ε S α
  | .ok a => pure a
  | .error e => fail e

/-- Return what a computation returns, if it returns. -/
def ofOption : Option (Except ε α) → Handler ε S α
  | none => fun _ => none
  | some r => ofExcept r

/-- Update the store by a computation that may not return. -/
def transform (f : S → Option S) : Handler ε S Unit := fun s => (f s).map fun s' => (.ok (), s')

/-- Update the store by a computation that may fail. -/
def attempt (f : S → Except ε S) : Handler ε S Unit := fun s =>
  match f s with
  | .ok s' => some (.ok (), s')
  | .error e => some (.error e, s)

/-- Run a handler on a branch of the store and return the branch. The store itself does not
change, whatever the handler writes. -/
def branch (h : Handler ε S α) : Handler ε S S := fun s =>
  match h s with
  | none => none
  | some (.error e, _) => some (.error e, s)
  | some (.ok _, t) => some (.ok t, s)

/-- Run a handler on a part of the store, and put back the part that it leaves. -/
def focus {T : Type} (get : S → T) (set : T → S → S) (h : Handler ε T α) : Handler ε S α := fun s =>
  (h (get s)).map fun r => (r.1, set r.2 s)

/-- Run a handler as a transaction: the writes of a failed handler are dropped. -/
def deliver (h : Handler ε S α) (s : S) : Option (Except ε α × S) :=
  match h s with
  | none => none
  | some (.error e, _) => some (.error e, s)
  | some (.ok a, s') => some (.ok a, s')

/-! ## Successful runs -/

@[simp] theorem pure_ok_iff {a b : α} {s s' : S} :
    (pure a : Handler ε S α) s = some (.ok b, s') ↔ a = b ∧ s = s' := by
  change some (Except.ok a, s) = some (Except.ok b, s') ↔ _
  simp

theorem bind_ok_iff {x : Handler ε S α} {f : α → Handler ε S β} {b : β} {s s' : S} :
    (x >>= f) s = some (.ok b, s') ↔
      ∃ a s₁, x s = some (.ok a, s₁) ∧ f a s₁ = some (.ok b, s') := by
  change (match x s with
    | none => none
    | some (Except.error e, s₁) => some (Except.error e, s₁)
    | some (Except.ok a, s₁) => f a s₁) = some (Except.ok b, s') ↔ _
  rcases x s with - | ⟨e | a, s₁⟩ <;> simp [and_assoc]

theorem exists_unit {p : Unit → Prop} : (∃ u, p u) ↔ p () :=
  ⟨fun ⟨_, h⟩ => h, fun h => ⟨(), h⟩⟩

@[simp] theorem read_bind_ok_iff {g : S → α} {f : α → Handler ε S β} {b : β} {s s' : S} :
    (read g >>= f) s = some (.ok b, s') ↔ f (g s) s = some (.ok b, s') := by
  simp [bind_ok_iff, read, and_assoc]

@[simp] theorem readSome_bind_ok_iff {g : S → Option α} {e : ε} {f : α → Handler ε S β} {b : β}
    {s s' : S} :
    (readSome g e >>= f) s = some (.ok b, s') ↔ ∃ a, g s = some a ∧ f a s = some (.ok b, s') := by
  rw [bind_ok_iff]
  unfold readSome
  cases g s <;> simp [and_assoc]

@[simp] theorem write_ok_iff {g : S → S} {u : Unit} {s s' : S} :
    (write g : Handler ε S Unit) s = some (.ok u, s') ↔ s' = g s := by
  simp [write, eq_comm]

@[simp] theorem write_bind_ok_iff {g : S → S} {f : Unit → Handler ε S β} {b : β} {s s' : S} :
    (write g >>= f) s = some (.ok b, s') ↔ f () (g s) = some (.ok b, s') := by
  simp [bind_ok_iff, write, exists_unit]

@[simp] theorem fail_ok_iff {e : ε} {a : α} {s s' : S} :
    (fail e : Handler ε S α) s = some (.ok a, s') ↔ False := by
  simp [fail]

@[simp] theorem failIf_ok_iff {c : Prop} [Decidable c] {e : ε} {u : Unit} {s s' : S} :
    (failIf c e : Handler ε S Unit) s = some (.ok u, s') ↔ ¬ c ∧ s = s' := by
  by_cases hc : c <;> simp [failIf, hc]

@[simp] theorem failIf_bind_ok_iff {c : Prop} [Decidable c] {e : ε} {f : Unit → Handler ε S β}
    {b : β} {s s' : S} :
    (failIf c e >>= f) s = some (.ok b, s') ↔ ¬ c ∧ f () s = some (.ok b, s') := by
  simp [bind_ok_iff, and_assoc, exists_unit]

@[simp] theorem ofExcept_ok_iff {r : Except ε α} {a : α} {s s' : S} :
    (ofExcept r : Handler ε S α) s = some (.ok a, s') ↔ r = .ok a ∧ s = s' := by
  cases r <;> simp [ofExcept]

@[simp] theorem ofExcept_bind_ok_iff {r : Except ε α} {f : α → Handler ε S β} {b : β} {s s' : S} :
    (ofExcept r >>= f) s = some (.ok b, s') ↔ ∃ a, r = .ok a ∧ f a s = some (.ok b, s') := by
  simp [bind_ok_iff, and_assoc]

@[simp] theorem ofOption_bind_ok_iff {r : Option (Except ε α)} {f : α → Handler ε S β} {b : β}
    {s s' : S} :
    (ofOption r >>= f) s = some (.ok b, s') ↔
      ∃ a, r = some (.ok a) ∧ f a s = some (.ok b, s') := by
  cases r <;> simp [bind_ok_iff, ofOption, and_assoc]

@[simp] theorem transform_bind_ok_iff {g : S → Option S} {f : Unit → Handler ε S β} {b : β}
    {s s' : S} :
    (transform g >>= f) s = some (.ok b, s') ↔ ∃ t, g s = some t ∧ f () t = some (.ok b, s') := by
  cases hg : g s <;> simp [bind_ok_iff, transform, hg, exists_unit]

@[simp] theorem attempt_ok_iff {g : S → Except ε S} {u : Unit} {s s' : S} :
    attempt g s = some (.ok u, s') ↔ g s = .ok s' := by
  cases hg : g s <;> simp [attempt, hg]

@[simp] theorem attempt_bind_ok_iff {g : S → Except ε S} {f : Unit → Handler ε S β} {b : β}
    {s s' : S} :
    (attempt g >>= f) s = some (.ok b, s') ↔ ∃ t, g s = .ok t ∧ f () t = some (.ok b, s') := by
  cases hg : g s <;> simp [bind_ok_iff, attempt, hg, exists_unit]

@[simp] theorem branch_bind_ok_iff {h : Handler ε S α} {f : S → Handler ε S β} {b : β}
    {s s' : S} :
    (branch h >>= f) s = some (.ok b, s') ↔
      ∃ a t, h s = some (.ok a, t) ∧ f t s = some (.ok b, s') := by
  rw [bind_ok_iff]
  unfold branch
  rcases h s with - | ⟨e | a, s₁⟩ <;> simp [and_assoc]

@[simp] theorem focus_ok_iff {T : Type} {get : S → T} {set : T → S → S} {h : Handler ε T α} {a : α}
    {s s' : S} :
    focus get set h s = some (.ok a, s') ↔ ∃ t, h (get s) = some (.ok a, t) ∧ set t s = s' := by
  unfold focus
  rcases h (get s) with - | ⟨e | b, t⟩ <;> simp [and_assoc]

/-! ## Failing runs -/

/-- The handler writes nothing. -/
def ReadOnly (h : Handler ε S α) : Prop := ∀ s r s', h s = some (r, s') → s' = s

/-- Run from `t`, the handler fails in `s` only: an error leaves the store `s`, whatever has been
written on the way to `t` or since. -/
def FailsIn (s : S) (h : Handler ε S α) (t : S) : Prop := ∀ e t', h t = some (.error e, t') → t' = s

section Failing

variable {s t : S} {x : Handler ε S α} {f : α → Handler ε S β}

/-- The runs of a sequence: the first part fails, or returns a value to the rest. -/
theorem bind_cases {r : Except ε β} {s' : S} (h : (x >>= f) s = some (r, s')) :
    (∃ e, x s = some (.error e, s') ∧ r = .error e) ∨
      ∃ a s₁, x s = some (.ok a, s₁) ∧ f a s₁ = some (r, s') := by
  change (match x s with
    | none => none
    | some (Except.error e, s₁) => some (Except.error e, s₁)
    | some (Except.ok a, s₁) => f a s₁) = some (r, s') at h
  rcases hx : x s with - | ⟨e | a, s₁⟩ <;> rw [hx] at h
  · cases h
  · obtain ⟨rfl, rfl⟩ := Prod.mk.inj (Option.some.inj h)
    exact Or.inl ⟨e, rfl, rfl⟩
  · exact Or.inr ⟨a, s₁, rfl, h⟩

theorem readOnly_pure (a : α) : ReadOnly (pure a : Handler ε S α) := by
  rintro s r s' h
  cases h
  rfl

theorem readOnly_fail (e : ε) : ReadOnly (fail e : Handler ε S α) := by
  rintro s r s' h
  cases h
  rfl

theorem readOnly_failIf (c : Prop) [Decidable c] (e : ε) : ReadOnly (failIf c e : Handler ε S Unit) := by
  unfold failIf
  split
  · exact readOnly_fail e
  · exact readOnly_pure ()

theorem readOnly_ofExcept (r : Except ε α) : ReadOnly (ofExcept r : Handler ε S α) := by
  cases r with
  | error e => exact readOnly_fail e
  | ok a => exact readOnly_pure a

theorem readOnly_readSome (g : S → Option α) (e : ε) : ReadOnly (readSome g e) := by
  rintro s r s' h
  unfold readSome at h
  split at h
  · cases h
    rfl
  · cases h
    rfl

theorem readOnly_branch (h : Handler ε S α) : ReadOnly (branch h) := by
  intro s r s' hrun
  unfold branch at hrun
  split at hrun
  · cases hrun
  · cases hrun
    rfl
  · cases hrun
    rfl

theorem ReadOnly.bind (hx : x.ReadOnly) (hf : ∀ a, (f a).ReadOnly) : (x >>= f).ReadOnly := by
  intro s r s' h
  rcases bind_cases h with ⟨e, h, -⟩ | ⟨a, s₁, h₁, h₂⟩
  · exact hx s _ s' h
  · rw [hf a s₁ r s' h₂, hx s _ s₁ h₁]

theorem ReadOnly.failsIn (hx : x.ReadOnly) : x.FailsIn s s := fun e t' h => hx s (.error e) t' h

theorem failsIn_write (g : S → S) : (write g : Handler ε S Unit).FailsIn s t := by
  intro e t' h
  cases h

theorem failsIn_read_bind {g : S → α} :
    (read g >>= f).FailsIn s t ↔ (f (g t)).FailsIn s t := Iff.rfl

theorem failsIn_write_bind {g : S → S} {f : Unit → Handler ε S β} :
    (write g >>= f).FailsIn s t ↔ (f ()).FailsIn s (g t) := Iff.rfl

/-- A sequence fails where its first part fails, or where the rest does. -/
theorem FailsIn.bind (hx : x.FailsIn s t)
    (hf : ∀ a t', x t = some (.ok a, t') → (f a).FailsIn s t') : (x >>= f).FailsIn s t := by
  intro e t' h
  rcases bind_cases h with ⟨e', h, -⟩ | ⟨a, t₁, h₁, h₂⟩
  · exact hx e' t' h
  · exact hf a t₁ h₁ e t' h₂

/-- After checks that write nothing it is the rest that matters. -/
theorem ReadOnly.failsIn_bind (hx : x.ReadOnly)
    (hf : ∀ a, x s = some (.ok a, s) → (f a).FailsIn s s) : (x >>= f).FailsIn s s := by
  apply hx.failsIn.bind
  intro a t h
  obtain rfl := hx s _ t h
  exact hf a h

/-- A handler that fails only in the store it starts from does without the rollback. -/
theorem deliver_eq_of_failsIn (hx : x.FailsIn s s) : x.deliver s = x s := by
  unfold deliver
  rcases hh : x s with - | ⟨e | a, t⟩
  · rfl
  · rw [hx e t hh]
  · rfl

end Failing

/-! ## Delivery -/

/-- The delivery of a handler that reads the store first. -/
theorem deliver_read_bind {g : S → α} {f : α → Handler ε S β} {s : S} :
    (read g >>= f).deliver s = (f (g s)).deliver s := rfl

/-- The delivery of a handler that may fail first. -/
theorem deliver_failIf_bind {c : Prop} [Decidable c] {e : ε} {f : Unit → Handler ε S β} {s : S} :
    (failIf c e >>= f).deliver s = if c then some (.error e, s) else (f ()).deliver s := by
  by_cases hc : c
  · rw [if_pos hc, failIf, if_pos hc]
    rfl
  · rw [if_neg hc, failIf, if_neg hc]
    rfl

/-- The delivery of a handler that computes a value first. -/
theorem deliver_ofExcept_bind {r : Except ε α} {f : α → Handler ε S β} {s : S} :
    (ofExcept r >>= f).deliver s =
      match r with
      | .error e => some (.error e, s)
      | .ok a => (f a).deliver s := by
  cases r <;> rfl

theorem deliver_of_ok {h : Handler ε S α} {a : α} {s s' : S} (hok : h s = some (.ok a, s')) :
    h.deliver s = some (.ok a, s') := by
  rw [deliver, hok]

/-- The delivery of what runs on a part of the store, where the part fits in its place. -/
theorem deliver_iff_of_focus {T : Type} {x : Handler ε S α} (get : S → T) (set : T → S → S)
    {h : Handler ε T α} {s s' : S} {r : Except ε α} (hx : x s = focus get set h s)
    (hset : set (get s) s = s) :
    x.deliver s = some (r, s') ↔ ∃ t, h.deliver (get s) = some (r, t) ∧ s' = set t s := by
  have hmap : x.deliver s = (h.deliver (get s)).map fun r => (r.1, set r.2 s) := by
    unfold deliver
    rw [hx, focus]
    rcases h (get s) with - | ⟨e | a, t⟩
    · rfl
    · simp [hset]
    · rfl
  rw [hmap, Option.map_eq_some_iff]
  constructor
  · rintro ⟨⟨r', t⟩, hd, heq⟩
    obtain ⟨rfl, rfl⟩ := Prod.mk.inj heq
    exact ⟨t, hd, rfl⟩
  · rintro ⟨t, hd, rfl⟩
    exact ⟨(r, t), hd, rfl⟩

theorem deliver_transform_iff {f : S → Option S} {s s' : S} {r : Except ε Unit} :
    (transform f).deliver s = some (r, s') ↔ r = .ok () ∧ f s = some s' := by
  unfold deliver transform
  cases f s with
  | none => simp
  | some t => simp [eq_comm]

/-- A delivery succeeds with the store the handler leaves, or keeps the store. -/
theorem deliver_cases {h : Handler ε S α} {r : Except ε α} {s s' : S}
    (hd : h.deliver s = some (r, s')) :
    (∃ a, r = .ok a ∧ h s = some (.ok a, s')) ∨ ((∃ e, r = .error e) ∧ s' = s) := by
  unfold deliver at hd
  rcases hh : h s with - | ⟨e | a, s₁⟩ <;> rw [hh] at hd
  · cases hd
  · obtain ⟨rfl, rfl⟩ := Prod.mk.inj (Option.some.inj hd)
    exact Or.inr ⟨⟨e, rfl⟩, rfl⟩
  · obtain ⟨rfl, rfl⟩ := Prod.mk.inj (Option.some.inj hd)
    exact Or.inl ⟨a, rfl, rfl⟩

end Handler

end Machine
