import SchoolOs.Keyed

/-!
A flag that at most one row of a group carries: the statements that keep it so when a row takes
the flag and the other rows of its group lose it, before or after the row is written.
-/

namespace SchoolOs.Table

variable {ρ κ γ : Type*} {key : ρ → κ}

/-- Two rows of one group that carry the flag. -/
def Rivals (group : ρ → γ) (flag : ρ → Bool) (a b : ρ) : Prop :=
  group a = group b ∧ flag a = true ∧ flag b = true

instance {group : ρ → γ} {flag : ρ → Bool} [DecidableEq γ] : DecidableRel (Rivals group flag) :=
  fun a b => inferInstanceAs (Decidable (group a = group b ∧ flag a = true ∧ flag b = true))

lemma Rivals.symm {group : ρ → γ} {flag : ρ → Bool} {a b : ρ} (h : Rivals group flag a b) :
    Rivals group flag b a := ⟨h.1.symm, h.2.2, h.2.1⟩

/-- At most one row of a group carries the flag. -/
abbrev OneFlagged (t : Table key) (group : ρ → γ) (flag : ρ → Bool) : Prop :=
  t.Excludes (Rivals group flag)

variable {group : ρ → γ} {flag : ρ → Bool} {t t' : Table key} {row : ρ}

/-- Beside the row that carries the flag, no row of its group does. -/
lemma OneFlagged.eq (h : t.OneFlagged group flag) (hrow : row ∈ t) (hflag : flag row = true)
    {a : ρ} (ha : a ∈ t) (hgroup : group a = group row) (hfa : flag a = true) : a = row := by
  by_contra hne
  have hkey : key a ≠ key row := fun hk => hne (eq_of_key ha hrow hk)
  exact h a ha row hrow hkey ⟨hgroup, hfa, hflag⟩

variable [DecidableEq κ] {p : ρ → Bool} {f : ρ → ρ} {hf : ∀ r, key (f r) = key r}

omit [DecidableEq κ] in
/-- A row that carries the flag after an update that takes it away was left alone. -/
lemma mem_lowered (hlow : ∀ r, flag (f r) = false) {a : ρ} (ha : a ∈ t.setWhere p f hf)
    (hfa : flag a = true) : a ∈ t ∧ p a = false := by
  obtain ⟨r, hr, he⟩ := Tables.mem_setWhere.mp ha
  split at he
  · rw [← he, hlow] at hfa
    cases hfa
  · next hp => exact he ▸ ⟨hr, Bool.eq_false_iff.mpr hp⟩

omit [DecidableEq κ] in
lemma OneFlagged.lower (h : t.OneFlagged group flag) (hlow : ∀ r, flag (f r) = false) :
    (t.setWhere p f hf).OneFlagged group flag := by
  intro a ha b hb hne hr
  have hat := (mem_lowered hlow ha hr.2.1).1
  have hbt := (mem_lowered hlow hb hr.2.2).1
  exact h a hat b hbt hne hr

variable (hf) in
/-- **The row first**: a row is added, then the others of its group lose the flag. -/
theorem OneFlagged.insert_lower (h : t.OneFlagged group flag) (hi : t.insert row = some t')
    (hlow : ∀ r, flag (f r) = false)
    (hp : ∀ a ∈ t, group a = group row → flag a = true → p a = true) :
    (t'.setWhere p f hf).OneFlagged group flag := by
  intro a ha b hb hne hr
  obtain ⟨hat, hpa⟩ := mem_lowered hlow ha hr.2.1
  obtain ⟨hbt, hpb⟩ := mem_lowered hlow hb hr.2.2
  rcases (mem_of_insert hi).mp hat with hat | rfl
  · rcases (mem_of_insert hi).mp hbt with hbt | rfl
    · exact h a hat b hbt hne hr
    · exact Bool.false_ne_true (hpa.symm.trans (hp a hat hr.1 hr.2.1))
  · rcases (mem_of_insert hi).mp hbt with hbt | rfl
    · exact Bool.false_ne_true (hpb.symm.trans (hp b hbt hr.1.symm hr.2.2))
    · exact hne rfl

variable (hf) in
/-- **The others first**: the other rows of a group lose the flag, then the row is written. -/
theorem OneFlagged.lower_put (h : t.OneFlagged group flag) (hlow : ∀ r, flag (f r) = false)
    (hp : ∀ a ∈ t, key a ≠ key row → group a = group row → flag a = true → p a = true) :
    ((t.setWhere p f hf).put row).OneFlagged group flag := by
  refine Excludes.put (fun _ _ => Rivals.symm) (h.lower hlow) fun a ha hne hr => ?_
  obtain ⟨hat, hpa⟩ := mem_lowered hlow ha hr.2.1
  exact Bool.false_ne_true (hpa.symm.trans (hp a hat hne hr.1 hr.2.1))

lemma OneFlagged.insert (h : t.OneFlagged group flag) (hi : t.insert row = some t')
    (hrow : flag row = false) : t'.OneFlagged group flag := by
  refine (excludes_insert (fun _ _ => Rivals.symm) hi).mpr ⟨h, fun a _ hr => ?_⟩
  exact Bool.false_ne_true (hrow.symm.trans hr.2.2)

lemma OneFlagged.put (h : t.OneFlagged group flag) {old : ρ} (hold : old ∈ t)
    (hk : key row = key old) (hgroup : group row = group old)
    (hrow : flag row = true → flag old = true) : (t.put row).OneFlagged group flag := by
  refine Excludes.put (fun _ _ => Rivals.symm) h fun a ha hne hr => ?_
  exact h a ha old hold (hk ▸ hne) ⟨hr.1.trans hgroup, hr.2.1, hrow hr.2.2⟩

end SchoolOs.Table
