import Mathlib.Data.List.Count
import Mathlib.Tactic.Common
import SchoolOs.Runs

/-!
Counters that trip: hits are counted, a clear starts the count again, and so does the hit that
reaches the threshold.
-/

namespace SchoolOs.Tally

open Runs

/-- What one event means to the counter. -/
inductive Event
  | hit | clear | other
  deriving DecidableEq

/-- The hit with which the count reaches the threshold. -/
def Trips (max n : ℕ) (e : Event) : Prop := e = .hit ∧ max ≤ n + 1

instance (max n : ℕ) (e : Event) : Decidable (Trips max n e) := inferInstanceAs (Decidable (_ ∧ _))

/-- The hits since the last clear or trip, after one more event. -/
def tally (max n : ℕ) : Event → ℕ
  | .hit => if max ≤ n + 1 then 0 else n + 1
  | .clear => 0
  | .other => n

variable {max n : ℕ}

lemma tally_lt (hmax : 0 < max) (hn : n < max) (e : Event) : tally max n e < max := by
  cases e with
  | hit =>
    simp only [tally]
    split <;> omega
  | clear => exact hmax
  | other => exact hn

lemma run_tally {l : List Event} (hc : ∀ e ∈ l, e ≠ .clear) (hl : n + l.count .hit < max) :
    run (tally max) n l = n + l.count .hit := by
  induction l generalizing n with
  | nil => rfl
  | cons e l ih =>
    have hc' : ∀ e ∈ l, e ≠ .clear := fun e he => hc e (List.mem_cons_of_mem _ he)
    cases e with
    | hit =>
      rw [List.count_cons_self] at hl ⊢
      have hstep : tally max n .hit = n + 1 := by
        simp only [tally]
        rw [if_neg (by omega)]
      rw [run_cons, hstep, ih hc' (by omega)]
      omega
    | clear => exact absurd rfl (hc .clear List.mem_cons_self)
    | other =>
      rw [List.count_cons_of_ne (by decide)] at hl ⊢
      rw [run_cons]
      exact ih hc' hl

/-- **The threshold**: counted from zero, the hit after `k` others trips when it is the one that
makes `max`, and no event before it does. -/
theorem trips_after {l : List Event} (hc : ∀ e ∈ l, e ≠ .clear) (hl : l.count .hit < max) :
    Trips max (run (tally max) 0 l) .hit ↔ l.count .hit + 1 = max := by
  have hrun : run (tally max) 0 l = l.count .hit := by
    rw [run_tally hc (by omega), Nat.zero_add]
  rw [hrun]
  refine ⟨fun h => ?_, fun h => ⟨rfl, by omega⟩⟩
  have := h.2
  omega

end SchoolOs.Tally
