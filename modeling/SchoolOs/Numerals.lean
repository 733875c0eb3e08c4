import Mathlib.Data.List.Lex
import Mathlib.Data.Nat.Basic
import Mathlib.Order.Monotone.Defs
import Mathlib.Order.Interval.Set.Defs
import Mathlib.Tactic.Ring

/-!
Numerals of a fixed width, written in the symbols of an ordered alphabet: Horner's rule reads them
back, and they are ordered as the numbers are.
-/

namespace SchoolOs.Numerals

variable {α : Type*} (base : ℕ) (digit : ℕ → α)

/-- The `n` lowest digits of a number, the least significant first. -/
def lowDigits : ℕ → ℕ → List α
  | 0, _ => []
  | n + 1, v => digit (v % base) :: lowDigits n (v / base)

/-- The `n` lowest digits as they are written, the most significant first. -/
def numeral (n v : ℕ) : List α := (lowDigits base digit n v).reverse

/-- Horner's rule. -/
def horner (value : α → ℕ) (symbols : List α) : ℕ :=
  symbols.foldl (fun acc c => acc * base + value c) 0

variable {base digit}

@[simp] lemma numeral_zero (v : ℕ) : numeral base digit 0 v = [] := rfl
lemma numeral_succ (n v : ℕ) :
    numeral base digit (n + 1) v = numeral base digit n (v / base) ++ [digit (v % base)] := by
  simp [numeral, lowDigits]

@[simp] lemma length_numeral (n v : ℕ) : (numeral base digit n v).length = n := by
  induction n generalizing v with
  | zero => rfl
  | succ n ih => simp [numeral_succ, ih]

lemma horner_snoc (value : α → ℕ) (l : List α) (c : α) :
    horner base value (l ++ [c]) = horner base value l * base + value c := by
  simp [horner, List.foldl_append]

/-- **A numeral stands for its number**, up to what its width cuts off. -/
theorem horner_numeral (hbase : 0 < base) {value : α → ℕ} (hvalue : ∀ d < base, value (digit d) = d)
    (n v : ℕ) : horner base value (numeral base digit n v) = v % base ^ n := by
  induction n generalizing v with
  | zero => simp [horner, Nat.mod_one]
  | succ n ih =>
    rw [numeral_succ, horner_snoc, ih, hvalue _ (Nat.mod_lt _ hbase), pow_succ', Nat.mod_mul]
    ring

/-! ### Order -/

section Order

variable [LinearOrder α]

lemma append_lt_append {x y : List α} (hlen : x.length = y.length) (h : x < y) (u v : List α) :
    x ++ u < y ++ v := by
  induction x generalizing y with
  | nil =>
    have hy : y = [] := List.length_eq_zero_iff.mp hlen.symm
    exact absurd (hy ▸ h) (List.not_lt_nil _)
  | cons a x ih =>
    cases y with
    | nil => exact absurd h (List.not_lt_nil _)
    | cons b y =>
      rw [List.cons_append, List.cons_append]
      rcases List.cons_lt_cons_iff.mp h with hab | ⟨rfl, hxy⟩
      · exact List.cons_lt_cons_iff.mpr (.inl hab)
      · exact List.cons_lt_cons_iff.mpr (.inr ⟨rfl, ih (Nat.succ.inj hlen) hxy⟩)

/-- **The order of numerals is the order of numbers**, in an alphabet listed in order. -/
theorem numeral_strictMonoOn (hbase : 0 < base) (hdigit : StrictMonoOn digit (Set.Iio base))
    (n : ℕ) : StrictMonoOn (numeral base digit n) (Set.Iio (base ^ n)) := by
  induction n with
  | zero =>
    intro v hv w hw h
    simp only [pow_zero, Set.mem_Iio] at hv hw
    omega
  | succ n ih =>
    intro v hv w hw h
    rw [Set.mem_Iio, pow_succ'] at hv hw
    rw [numeral_succ, numeral_succ]
    rcases (Nat.div_le_div_right h.le : v / base ≤ w / base).lt_or_eq with hlt | heq
    · have hv' : v / base < base ^ n := Nat.div_lt_of_lt_mul hv
      have hw' : w / base < base ^ n := Nat.div_lt_of_lt_mul hw
      exact append_lt_append (by simp) (ih hv' hw' hlt) _ _
    · -- the same digits before the last one
      have hmod : v % base < w % base := by
        have hv' := Nat.div_add_mod v base
        have hw' := Nat.div_add_mod w base
        rw [← heq] at hw'
        omega
      have hlast : digit (v % base) < digit (w % base) :=
        hdigit (Nat.mod_lt _ hbase) (Nat.mod_lt _ hbase) hmod
      rw [heq]
      exact List.append_left_lt (List.cons_lt_cons_iff.mpr (.inl hlast))

end Order

end SchoolOs.Numerals
