import Mathlib.Algebra.GroupWithZero.Nat
import Mathlib.Data.List.Induction
import Mathlib.Data.List.Nodup
import Mathlib.Tactic.Common

/-!
Rows put into groups by a key, as a dictionary of lists does it: a key stands where it was first
met, and its group holds the rows with that key in their order.
-/

namespace SchoolOs.Grouping

variable {α κ : Type*} [DecidableEq κ]

/-- `groups.setdefault(k, []).append(a)`. -/
def add (k : κ) (a : α) : List (κ × List α) → List (κ × List α)
  | [] => [(k, [a])]
  | (k', g) :: rest => if k' = k then (k', g ++ [a]) :: rest else (k', g) :: add k a rest

/-- The dictionary after the loop over `l`. -/
def groups (key : α → κ) (l : List α) : List (κ × List α) :=
  l.foldl (fun d a => add (key a) a d) []

/-- The dictionary holds the groups of the rows read so far. -/
structure Groups (key : α → κ) (l : List α) (d : List (κ × List α)) : Prop where
  nodup : (d.map Prod.fst).Nodup
  mem_iff : ∀ k g, (k, g) ∈ d ↔ g = l.filter (key · = k) ∧ g ≠ []

lemma map_fst_add (k : κ) (a : α) (d : List (κ × List α)) :
    (add k a d).map Prod.fst =
      if k ∈ d.map Prod.fst then d.map Prod.fst else d.map Prod.fst ++ [k] := by
  induction d with
  | nil => simp [add]
  | cons p d ih =>
    obtain ⟨k', g⟩ := p
    by_cases hk : k' = k
    · simp [add, hk]
    · have hne : ¬ k = k' := fun h => hk h.symm
      simp only [add, if_neg hk, List.map_cons, ih, List.mem_cons, hne, false_or]
      split <;> simp

lemma mem_add {k : κ} {a : α} {d : List (κ × List α)} (hd : (d.map Prod.fst).Nodup) {k' : κ}
    {g : List α} : (k', g) ∈ add k a d ↔
      (k' ≠ k ∧ (k', g) ∈ d) ∨
        (k' = k ∧ ((∃ g0, (k, g0) ∈ d ∧ g = g0 ++ [a]) ∨ (k ∉ d.map Prod.fst ∧ g = [a]))) := by
  induction d with
  | nil =>
    by_cases hk : k' = k <;> simp [add, hk]
  | cons p d ih =>
    obtain ⟨k0, g0⟩ := p
    obtain ⟨hnot, hd'⟩ := List.nodup_cons.mp hd
    by_cases hk0 : k0 = k
    · subst hk0
      have hfree : ∀ g', (k0, g') ∉ d := fun g' h => hnot (List.mem_map.mpr ⟨(k0, g'), h, rfl⟩)
      by_cases hk : k' = k0
      · subst hk
        simp [add, hfree]
      · simp [add, hk]
    · have hne : ¬ k = k0 := fun h => hk0 h.symm
      by_cases hk : k' = k
      · subst hk
        simp [add, hk0, ih hd', hne]
      · simp [add, hk0, ih hd', hk]

/-- **One more row.** -/
lemma Groups.add {key : α → κ} {l : List α} {d : List (κ × List α)} (h : Groups key l d) (a : α) :
    Groups key (l ++ [a]) (add (key a) a d) where
  nodup := by
    rw [map_fst_add]
    split
    · exact h.nodup
    · next hk =>
      rw [List.nodup_append_comm]
      exact List.nodup_cons.mpr ⟨hk, h.nodup⟩
  mem_iff := by
    intro k g
    have hkeys : key a ∈ d.map Prod.fst ↔ l.filter (key · = key a) ≠ [] := by
      rw [List.mem_map]
      constructor
      · rintro ⟨⟨k', g'⟩, hmem, rfl⟩
        obtain ⟨hg, hne⟩ := (h.mem_iff _ _).mp hmem
        exact hg ▸ hne
      · exact fun hne => ⟨_, (h.mem_iff _ _).mpr ⟨rfl, hne⟩, rfl⟩
    rw [mem_add h.nodup]
    by_cases hk : k = key a
    · -- The group of the new row.
      subst hk
      have hlast : (l ++ [a]).filter (key · = key a) = l.filter (key · = key a) ++ [a] := by
        simp [List.filter_append]
      rw [hlast, hkeys]
      constructor
      · rintro (⟨hne, _⟩ | ⟨_, ⟨g0, hg0, rfl⟩ | ⟨hnone, rfl⟩⟩)
        · exact absurd rfl hne
        · obtain ⟨rfl, _⟩ := (h.mem_iff _ _).mp hg0
          exact ⟨rfl, by simp⟩
        · rw [not_ne_iff.mp hnone]
          simp
      · rintro ⟨rfl, _⟩
        by_cases hnone : l.filter (key · = key a) = []
        · exact .inr ⟨rfl, .inr ⟨not_ne_iff.mpr hnone, by rw [hnone]; rfl⟩⟩
        · exact .inr ⟨rfl, .inl ⟨_, (h.mem_iff _ _).mpr ⟨rfl, hnone⟩, rfl⟩⟩
    · -- Another group stays as it is.
      have hne : ¬ key a = k := fun he => hk he.symm
      have hsame : (l ++ [a]).filter (key · = k) = l.filter (key · = k) := by
        simp [List.filter_append, hne]
      rw [hsame, ← h.mem_iff]
      simp [hk]

/-- **The groups of a list**: one for each key met, with the rows that have it. -/
theorem groups_spec (key : α → κ) (l : List α) : Groups key l (groups key l) := by
  have hall : ∀ (m pre : List α) (d : List (κ × List α)), Groups key pre d →
      Groups key (pre ++ m) (m.foldl (fun d a => Grouping.add (key a) a d) d) := by
    intro m
    induction m with
    | nil =>
      intro pre d h
      simpa using h
    | cons a m ih =>
      intro pre d h
      have hnext := ih (pre ++ [a]) _ (h.add a)
      simpa using hnext
  have hnil : Groups key ([] : List α) [] := ⟨List.nodup_nil, by simp⟩
  exact hall l [] [] hnil

variable {key : α → κ} {l : List α} {k : κ} {g : List α}

lemma nodup_groups : ((groups key l).map Prod.fst).Nodup := (groups_spec key l).nodup

lemma mem_groups : (k, g) ∈ groups key l ↔ g = l.filter (key · = k) ∧ g ≠ [] :=
  (groups_spec key l).mem_iff k g

lemma mem_map_fst_groups : k ∈ (groups key l).map Prod.fst ↔ ∃ a ∈ l, key a = k := by
  rw [List.mem_map]
  constructor
  · rintro ⟨⟨k', g⟩, hmem, rfl⟩
    obtain ⟨rfl, hne⟩ := mem_groups.mp hmem
    obtain ⟨a, ha⟩ := List.exists_mem_of_ne_nil _ hne
    obtain ⟨hal, hak⟩ := List.mem_filter.mp ha
    exact ⟨a, hal, of_decide_eq_true hak⟩
  · rintro ⟨a, ha, rfl⟩
    exact ⟨(key a, l.filter (key · = key a)), mem_groups.mpr
      ⟨rfl, List.ne_nil_of_mem (List.mem_filter.mpr ⟨ha, decide_eq_true rfl⟩)⟩, rfl⟩

/-! ### Counting -/

lemma sum_add {f : List α → ℕ} (hf : ∀ g a, f (g ++ [a]) = f g + f [a]) (k : κ) (a : α)
    (d : List (κ × List α)) :
    ((add k a d).map fun g => f g.2).sum = (d.map fun g => f g.2).sum + f [a] := by
  induction d with
  | nil => simp [add]
  | cons p d ih =>
    obtain ⟨k', g⟩ := p
    by_cases hk : k' = k
    · simp only [add, if_pos hk, List.map_cons, List.sum_cons, hf]
      omega
    · simp only [add, if_neg hk, List.map_cons, List.sum_cons, ih]
      omega

/-- **Nothing is lost or counted twice**: what counts row by row comes to the same over the groups
as over the list. -/
theorem sum_groups {f : List α → ℕ} (hnil : f [] = 0) (hf : ∀ g a, f (g ++ [a]) = f g + f [a])
    (key : α → κ) (l : List α) : ((groups key l).map fun g => f g.2).sum = f l := by
  induction l using List.reverseRecOn with
  | nil => exact hnil.symm
  | append_singleton l a ih =>
    have hlast : groups key (l ++ [a]) = add (key a) a (groups key l) := by
      simp [groups, List.foldl_append]
    rw [hlast, sum_add hf, ih, hf]

end SchoolOs.Grouping
