import Mathlib.Order.Lattice
import Mathlib.Order.Defs.LinearOrder
import Mathlib.Tactic.Common

/-!
Spans of days with an open end: the overlap test on their end points, and the days they have in
common.
-/

namespace SchoolOs

/-- From `start` to `stop`, both included; without a `stop`, from `start` on. -/
structure Span (α : Type*) where
  start : α
  stop : Option α
  deriving DecidableEq

namespace Span

variable {α : Type*} [LinearOrder α] {a b : Span α} {d : α}

/-- The overlap test: each starts no later than the other ends. -/
def Meets (a b : Span α) : Prop := (∀ e ∈ b.stop, a.start ≤ e) ∧ ∀ e ∈ a.stop, b.start ≤ e

instance : DecidableRel (Meets (α := α)) := fun a b =>
  inferInstanceAs (Decidable ((∀ e ∈ b.stop, a.start ≤ e) ∧ ∀ e ∈ a.stop, b.start ≤ e))

lemma Meets.symm (h : a.Meets b) : b.Meets a := ⟨h.2, h.1⟩

/-- The day lies in the span. -/
def Has (a : Span α) (d : α) : Prop := a.start ≤ d ∧ ∀ e ∈ a.stop, d ≤ e

instance : Decidable (a.Has d) :=
  inferInstanceAs (Decidable (a.start ≤ d ∧ ∀ e ∈ a.stop, d ≤ e))

/-- The span does not end before it starts. -/
def Proper (a : Span α) : Prop := ∀ e ∈ a.stop, a.start ≤ e

instance : Decidable a.Proper := inferInstanceAs (Decidable (∀ e ∈ a.stop, a.start ≤ e))

/-- A day in common passes the test. -/
lemma Has.meets (ha : a.Has d) (hb : b.Has d) : a.Meets b :=
  ⟨fun e he => ha.1.trans (hb.2 e he), fun e he => hb.1.trans (ha.2 e he)⟩

/-- **What the test decides**: spans that do not end before they start pass it exactly when they
have a day in common, the later of their first days. -/
theorem meets_iff_common (ha : a.Proper) (hb : b.Proper) :
    a.Meets b ↔ ∃ d, a.Has d ∧ b.Has d := by
  constructor
  · intro h
    refine ⟨max a.start b.start, ⟨le_max_left _ _, fun e he => ?_⟩, le_max_right _ _,
      fun e he => ?_⟩
    · exact max_le (ha e he) (h.2 e he)
    · exact max_le (h.1 e he) (hb e he)
  · rintro ⟨d, had, hbd⟩
    exact had.meets hbd

lemma Has.proper (h : a.Has d) : a.Proper := fun e he => h.1.trans (h.2 e he)

/-- **Days in common**, for any two spans. -/
theorem common_iff : (∃ d, a.Has d ∧ b.Has d) ↔ a.Proper ∧ b.Proper ∧ a.Meets b := by
  constructor
  · rintro ⟨d, ha, hb⟩
    exact ⟨ha.proper, hb.proper, ha.meets hb⟩
  · rintro ⟨ha, hb, hm⟩
    exact (meets_iff_common ha hb).mp hm

/-- Spans with one start meet exactly when neither ends before it. -/
lemma meets_of_start_eq (h : a.start = b.start) : a.Meets b ↔ a.Proper ∧ b.Proper := by
  unfold Meets Proper
  rw [h]
  exact and_comm

/-! ### One after another -/

/-- The span is over before the other starts. -/
def Before (a b : Span α) : Prop := ∃ e ∈ a.stop, e < b.start

instance : DecidableRel (Before (α := α)) := fun a b =>
  inferInstanceAs (Decidable (∃ e ∈ a.stop, e < b.start))

/-- The span is over before the other starts, or ends on that day, which is then handed over. -/
def Follows (handed : α → Prop) (a b : Span α) : Prop :=
  a.Before b ∨ a.stop = some b.start ∧ handed b.start

lemma Before.no_common (h : a.Before b) (ha : a.Has d) : ¬ b.Has d := by
  obtain ⟨e, he, hlt⟩ := h
  intro hb
  have hde : d ≤ e := ha.2 e he
  exact absurd (hde.trans_lt hlt) (not_lt.mpr hb.1)

variable {handed handed' : α → Prop}

/-- **What follows shares at most a day that is handed over.** -/
theorem Follows.common (h : a.Follows handed b) (ha : a.Has d) (hb : b.Has d) :
    d = b.start ∧ handed d := by
  rcases h with hbefore | ⟨hstop, hhanded⟩
  · exact absurd hb (hbefore.no_common ha)
  · have hle : d ≤ b.start := ha.2 b.start hstop
    obtain rfl : d = b.start := le_antisymm hle hb.1
    exact ⟨rfl, hhanded⟩

lemma Follows.mono (hmono : ∀ d, handed d → handed' d) (h : a.Follows handed b) :
    a.Follows handed' b := h.imp_right fun hstop => ⟨hstop.1, hmono _ hstop.2⟩

/-- What starts no later, and hands no day over, does not come first. -/
lemma Follows.start_lt (h : a.Follows handed b) (ha : a.Proper) (hnone : ¬ handed b.start) :
    a.start < b.start := by
  rcases h with ⟨e, he, hlt⟩ | ⟨_, hhanded⟩
  · exact (ha e he).trans_lt hlt
  · exact absurd hhanded hnone

end Span

end SchoolOs
