import Mathlib.Data.List.Nodup
import Mathlib.Data.Nat.Basic
import Mathlib.Logic.Function.Basic
import Mathlib.Order.Basic

/-!
# Tickets

Holders draw tickets with the numbers of a counter, and use their tickets again and again: each use
is counted on the ticket, so that it is told from the others by the number of the ticket and the
count. Holders may lose their tickets and draw new ones. A log of the uses then holds no use twice,
although neither the tickets nor their counts are kept once they are lost.

## Main definitions

* `Tickets K`: the counter and the tickets of the holders
* `Tickets.Step t uses t'`: tickets are lost, one is drawn, or one is used
* `Tickets.Spent log t`: the invariant of the uses in a log

## Main results

* `Tickets.Spent.step`: every step keeps the invariant, with its uses added to the log
-/

namespace Machine

/-- The counter, and the ticket of each holder: its number and the count of its uses. -/
structure Tickets (K : Type) where
  next : ℕ
  held : K → Option (ℕ × ℕ)

namespace Tickets

variable {K : Type} [DecidableEq K] {t t' : Tickets K} {log uses : List (ℕ × ℕ)}

/-- What a step does, with the uses that it makes. -/
inductive Step (t : Tickets K) : List (ℕ × ℕ) → Tickets K → Prop
  /-- Tickets are lost, and the counter may move on. -/
  | lose {t' : Tickets K} (next : t.next ≤ t'.next)
      (held : ∀ k ticket, t'.held k = some ticket → t.held k = some ticket) : Step t [] t'
  /-- A holder draws the next number, for whatever ticket it has. -/
  | draw {t' : Tickets K} {k : K} {count : ℕ} (next : t'.next = t.next + 1)
      (held : t'.held = Function.update t.held k (some (t.next, count))) : Step t [] t'
  /-- A holder uses its ticket. -/
  | use {t' : Tickets K} {k : K} {ticket : ℕ × ℕ} (holder : t.held k = some ticket)
      (next : t'.next = t.next)
      (held : t'.held = Function.update t.held k (some (ticket.1, ticket.2 + 1))) :
      Step t [ticket] t'

/-- The uses in the log differ. They were made of tickets that have been drawn, and a ticket that is
held is ahead of its uses. -/
structure Spent (log : List (ℕ × ℕ)) (t : Tickets K) : Prop where
  drawn : ∀ use ∈ log, use.1 < t.next
  below : ∀ k ticket, t.held k = some ticket → ticket.1 < t.next
  distinct : ∀ k k' ticket ticket', t.held k = some ticket → t.held k' = some ticket' →
    ticket.1 = ticket'.1 → k = k'
  ahead : ∀ k ticket, t.held k = some ticket → ∀ use ∈ log, use.1 = ticket.1 → use.2 < ticket.2
  nodup : log.Nodup

omit [DecidableEq K] in
/-- Nothing is spent before the first ticket is drawn. -/
theorem Spent.nil (h : ∀ k, t.held k = none) : Spent [] t where
  drawn _ huse := (List.not_mem_nil huse).elim
  below k ticket hk := (Option.some_ne_none ticket (hk.symm.trans (h k))).elim
  distinct k _ ticket _ hk := (Option.some_ne_none ticket (hk.symm.trans (h k))).elim
  ahead k ticket hk := (Option.some_ne_none ticket (hk.symm.trans (h k))).elim
  nodup := List.nodup_nil

omit [DecidableEq K] in
theorem Spent.lose (h : Spent log t) (hnext : t.next ≤ t'.next)
    (hheld : ∀ k ticket, t'.held k = some ticket → t.held k = some ticket) : Spent log t' where
  drawn use huse := (h.drawn use huse).trans_le hnext
  below k ticket hk := (h.below k ticket (hheld k ticket hk)).trans_le hnext
  distinct k k' ticket ticket' hk hk' :=
    h.distinct k k' ticket ticket' (hheld k ticket hk) (hheld k' ticket' hk')
  ahead k ticket hk := h.ahead k ticket (hheld k ticket hk)
  nodup := h.nodup

/-- A ticket that is held after one holder got another is the new one, or was held before. -/
theorem held_update {k k' : K} {new ticket : ℕ × ℕ}
    (hheld : t'.held = Function.update t.held k (some new)) (hk' : t'.held k' = some ticket) :
    (k' = k ∧ ticket = new) ∨ (k' ≠ k ∧ t.held k' = some ticket) := by
  rw [hheld, Function.update_apply] at hk'
  split at hk'
  · next hk => exact .inl ⟨hk, (Option.some.inj hk').symm⟩
  · next hk => exact .inr ⟨hk, hk'⟩

theorem Spent.draw (h : Spent log t) {k : K} {count : ℕ} (hnext : t'.next = t.next + 1)
    (hheld : t'.held = Function.update t.held k (some (t.next, count))) : Spent log t' := by
  refine ⟨fun use huse => ?_, fun k' ticket hk' => ?_, ?_, fun k' ticket hk' use huse heq => ?_,
    h.nodup⟩
  · rw [hnext]
    exact Nat.lt_succ_of_lt (h.drawn use huse)
  · rw [hnext]
    rcases held_update hheld hk' with ⟨-, rfl⟩ | ⟨-, hk'⟩
    · exact Nat.lt_succ_self t.next
    · exact Nat.lt_succ_of_lt (h.below k' ticket hk')
  · intro k₁ k₂ ticket₁ ticket₂ hk₁ hk₂ heq
    rcases held_update hheld hk₁ with ⟨rfl, rfl⟩ | ⟨-, hk₁⟩ <;>
      rcases held_update hheld hk₂ with ⟨rfl, rfl⟩ | ⟨-, hk₂⟩
    · rfl
    · exact absurd heq.symm (h.below k₂ ticket₂ hk₂).ne
    · exact absurd heq (h.below k₁ ticket₁ hk₁).ne
    · exact h.distinct k₁ k₂ ticket₁ ticket₂ hk₁ hk₂ heq
  · rcases held_update hheld hk' with ⟨-, rfl⟩ | ⟨-, hk'⟩
    · exact absurd heq (h.drawn use huse).ne
    · exact h.ahead k' ticket hk' use huse heq

theorem Spent.use (h : Spent log t) {k : K} {ticket : ℕ × ℕ} (hk : t.held k = some ticket)
    (hnext : t'.next = t.next)
    (hheld : t'.held = Function.update t.held k (some (ticket.1, ticket.2 + 1))) :
    Spent (log ++ [ticket]) t' := by
  -- the holder keeps its number, and nobody else has it
  have hbefore : ∀ k' ticket', t'.held k' = some ticket' →
      ∃ ticket₀, t.held k' = some ticket₀ ∧ ticket₀.1 = ticket'.1 ∧ ticket₀.2 ≤ ticket'.2 ∧
        (k' = k → ticket'.2 = ticket.2 + 1) := by
    intro k' ticket' hk'
    rcases held_update hheld hk' with ⟨rfl, rfl⟩ | ⟨hne, hk'⟩
    · exact ⟨ticket, hk, rfl, Nat.le_succ _, fun _ => rfl⟩
    · exact ⟨ticket', hk', rfl, Nat.le_refl _, fun heq => absurd heq hne⟩
  refine ⟨fun use huse => ?_, fun k' ticket' hk' => ?_, fun k₁ k₂ ticket₁ ticket₂ hk₁ hk₂ heq => ?_,
    fun k' ticket' hk' use huse heq => ?_, ?_⟩
  · rw [hnext]
    rcases List.mem_append.mp huse with huse | huse
    · exact h.drawn use huse
    · obtain rfl := List.mem_singleton.mp huse
      exact h.below k use hk
  · obtain ⟨ticket₀, hk₀, hnumber, -, -⟩ := hbefore k' ticket' hk'
    rw [hnext, ← hnumber]
    exact h.below k' ticket₀ hk₀
  · obtain ⟨ticket₁', hk₁', hnumber₁, -, -⟩ := hbefore k₁ ticket₁ hk₁
    obtain ⟨ticket₂', hk₂', hnumber₂, -, -⟩ := hbefore k₂ ticket₂ hk₂
    exact h.distinct k₁ k₂ ticket₁' ticket₂' hk₁' hk₂' (hnumber₁.trans (heq.trans hnumber₂.symm))
  · obtain ⟨ticket₀, hk₀, hnumber, hcount, hown⟩ := hbefore k' ticket' hk'
    rcases List.mem_append.mp huse with huse | huse
    · exact (h.ahead k' ticket₀ hk₀ use huse (heq.trans hnumber.symm)).trans_le hcount
    · obtain rfl := List.mem_singleton.mp huse
      obtain rfl := h.distinct k k' use ticket₀ hk hk₀ (heq.trans hnumber.symm)
      rw [hown rfl]
      exact Nat.lt_succ_self use.2
  · refine List.nodup_append.mpr ⟨h.nodup, List.nodup_singleton ticket, ?_⟩
    rintro use huse use' huse' rfl
    obtain rfl := List.mem_singleton.mp huse'
    exact (h.ahead k use hk use huse rfl).false

/-- **No use is made twice.** Every step keeps the invariant, with its uses added to the log. -/
theorem Spent.step (h : Spent log t) (hs : Step t uses t') : Spent (log ++ uses) t' := by
  cases hs with
  | lose hnext hheld =>
    rw [List.append_nil]
    exact h.lose hnext hheld
  | draw hnext hheld =>
    rw [List.append_nil]
    exact h.draw hnext hheld
  | use hk hnext hheld => exact h.use hk hnext hheld

end Tickets

end Machine
