import Mathlib.Data.List.Basic
import Mathlib.Data.List.Nodup
import Mathlib.Tactic.Common

/-!
Bringing a list up to date by two set differences: what is no longer wanted goes, what is wanted and
not there is added. Any list becomes the wanted one, as a set, and stays as it is the next time.
-/

namespace SchoolOs.Reconciling

variable {α : Type*} [DecidableEq α] {current desired : List α} {a : α}

/-- The current elements that are wanted, and the wanted ones that are not there. -/
def reconciled (current desired : List α) : List α :=
  current.filter (· ∈ desired) ++ desired.filter (· ∉ current)

@[simp] lemma mem_reconciled : a ∈ reconciled current desired ↔ a ∈ desired := by
  simp only [reconciled, List.mem_append, List.mem_filter, decide_eq_true_eq]
  by_cases h : a ∈ current <;> simp [h]

lemma reconciled_of_same (h : ∀ a, a ∈ current ↔ a ∈ desired) :
    reconciled current desired = current := by
  have hkept : current.filter (· ∈ desired) = current :=
    List.filter_eq_self.mpr fun a ha => decide_eq_true ((h a).mp ha)
  have hnone : desired.filter (· ∉ current) = [] :=
    List.filter_eq_nil_iff.mpr fun a ha hnot => of_decide_eq_true hnot ((h a).mpr ha)
  rw [reconciled, hkept, hnone, List.append_nil]

/-- **The second time changes nothing.** -/
theorem reconciled_twice : reconciled (reconciled current desired) desired =
    reconciled current desired :=
  reconciled_of_same fun _ => mem_reconciled

end SchoolOs.Reconciling
