import SchoolOs.SchoolModels

/-!
Checks before a flush. The checks of a request end in the row it writes; the flush then fails when
the row clashes with another one of the table. Both sides, step by step.
-/

namespace SchoolOs

variable {α β γ ρ κ : Type} {key : ρ → κ} {t : Table key} {clash : ρ → ρ → Prop}

/-! ### Flushes -/

/-- The statement writes `row`: it fails beside a row that clashes, and otherwise leaves a table
without clashes. -/
structure Flushes (t : Table key) (clash : ρ → ρ → Prop) (row : ρ) (build : Table key → γ)
    (w : Fallible γ) : Prop where
  clashes : ¬ t.Apart clash row → w = .error internalError
  writes : ∀ s, w = .ok s → ∃ t' : Table key, t'.Excludes clash ∧ build t' = s

section Flush

variable [DecidableEq κ] {row : ρ} {build : Table key → γ}

lemma flushes_insert (hsymm : ∀ a b, clash a b → clash b a) (hex : t.Excludes clash)
    {rest : Prop} [Decidable ((∀ a ∈ t, ¬ clash a row) ∧ rest)] :
    Flushes t clash row build (do
      let t' ← found (t.insert row) internalError
      ensure ((∀ a ∈ t, ¬ clash a row) ∧ rest) internalError
      return build t') where
  clashes := by
    intro hclash
    have hnot : ¬ ((∀ a ∈ t, ¬ clash a row) ∧ rest) :=
      fun h => hclash fun a ha _ => h.1 a ha
    cases t.insert row with
    | none => rfl
    | some t' => simp [found, ensure, hnot]
  writes := by
    intro s h
    simp only [bind_ok, found_ok, ensure_ok, pure_ok, exists_const] at h
    obtain ⟨t', hinsert, ⟨hfree, _⟩, rfl⟩ := h
    exact ⟨t', (Table.excludes_insert hsymm hinsert).mpr ⟨hex, hfree⟩, rfl⟩

variable [DecidableEq ρ] {old new : ρ} (touch : ρ → ρ)

lemma flushes_save (hsymm : ∀ a b, clash a b → clash b a) (hex : t.Excludes clash) (hold : old ∈ t)
    (hkey : ∀ r, key (touch r) = key r) (htouch : ∀ a r, clash a (touch r) → clash a r)
    {rest : Prop} [Decidable ((∀ a ∈ t, key a ≠ key new → ¬ clash a new) ∧ rest)] :
    Flushes t clash new build (if new = old then return build t else do
      ensure ((∀ a ∈ t, key a ≠ key new → ¬ clash a new) ∧ rest) internalError
      return build (t.put (touch new))) where
  clashes := by
    intro hclash
    have hne : new ≠ old := by
      rintro rfl
      exact hclash (hex.apart_of_clash hold rfl fun _ h => h)
    have hnot : ¬ ((∀ a ∈ t, key a ≠ key new → ¬ clash a new) ∧ rest) := fun h => hclash h.1
    simp [ensure, hne, hnot]
  writes := by
    intro s h
    split at h
    · exact ⟨t, hex, pure_ok.mp h⟩
    · simp only [bind_ok, ensure_ok, pure_ok, exists_const] at h
      obtain ⟨⟨hfree, _⟩, rfl⟩ := h
      refine ⟨_, hex.put hsymm fun a ha hne hc => ?_, rfl⟩
      rw [hkey] at hne
      exact hfree a ha hne (htouch a new hc)

/-- A row that keeps the columns of the constraints is written without a check of them. -/
lemma flushes_put (hsymm : ∀ a b, clash a b → clash b a) (hex : t.Excludes clash) (hold : old ∈ t)
    (hk : key new = key old) (hclash : ∀ a, clash a new → clash a old)
    (hkey : ∀ r, key (touch r) = key r) (htouch : ∀ a r, clash a (touch r) → clash a r)
    {rest : Prop} [Decidable rest] :
    Flushes t clash new build (do
      ensure rest internalError
      return build (t.put (flushed touch old new))) where
  clashes := fun h => absurd (hex.apart_of_clash hold hk hclash) h
  writes := by
    intro s h
    simp only [bind_ok, ensure_ok, pure_ok, exists_const] at h
    obtain ⟨_, rfl⟩ := h
    refine ⟨_, hex.put hsymm ?_, rfl⟩
    have hflushed : t.Apart clash (flushed touch old new) := by
      unfold flushed
      split
      · exact hex.apart_of_clash hold rfl fun _ h => h
      · refine hex.apart_of_clash hold ((hkey new).trans hk) fun a ha => ?_
        exact hclash a (htouch a new ha)
    exact hflushed

omit [DecidableEq κ] [DecidableEq ρ] in
lemma Flushes.after_ensure {w : Fallible γ} (h : Flushes t clash row build w) {c : Prop}
    [Decidable c] : Flushes t clash row build (do ensure c internalError; w) where
  clashes := by
    intro hclash
    by_cases hc : c
    · simpa [ensure, hc] using h.clashes hclash
    · simp [ensure, hc]
  writes := by
    intro s hs
    obtain ⟨_, _, hw⟩ := bind_ok.mp hs
    exact h.writes s hw

end Flush

/-! ### Checks and requests -/

/-- The request `x` makes the checks `p` and flushes their row: refused checks are its answer, a
clash is answered by the last handler, and what goes through ends in `P`. -/
def Prechecks (t : Table key) (clash : ρ → ρ → Prop) (p : Fallible ρ) (x : Fallible α)
    (P : α → Prop) : Prop :=
  match p with
  | .error e => x = .error e
  | .ok row => (¬ t.Apart clash row → x = .error internalError) ∧
      ∀ a, x = .ok a → t.Apart clash row ∧ P a

section Rules

variable {p : Fallible ρ} {P : α → Prop} {row : ρ}

lemma prechecks_bind {m : Fallible β} {q : β → Fallible ρ} {x : β → Fallible α}
    (h : ∀ b, m = .ok b → Prechecks t clash (q b) (x b) P) :
    Prechecks t clash (m >>= q) (m >>= x) P := by
  cases m with
  | error e => rfl
  | ok b => exact h b rfl

lemma prechecks_map {x : Fallible β} {g : β → α} (h : Prechecks t clash p x fun b => P (g b)) :
    Prechecks t clash p (g <$> x) P := by
  unfold Prechecks at h ⊢
  cases p with
  | error e => simp [h, Functor.map, Except.map]
  | ok row =>
    refine ⟨fun hclash => by simp [h.1 hclash, Functor.map, Except.map], fun a ha => ?_⟩
    obtain ⟨b, hb, rfl⟩ := map_ok.mp ha
    exact h.2 b hb

lemma prechecks_flush {build : Table key → γ} {w : Fallible γ}
    {k : γ → Fallible α} (hw : Flushes t clash row build w)
    (hk : ∀ t' : Table key, t'.Excludes clash → ∀ a, k (build t') = .ok a → P a) :
    Prechecks t clash (pure row) (w >>= k) P := by
  refine ⟨fun hclash => by rw [hw.clashes hclash]; rfl, fun a ha => ?_⟩
  obtain ⟨s, hs, hka⟩ := bind_ok.mp ha
  obtain ⟨t', hex, rfl⟩ := hw.writes s hs
  refine ⟨?_, hk t' hex a hka⟩
  by_contra hclash
  rw [hw.clashes hclash] at hs
  cases hs

variable {x : Fallible α}

lemma Prechecks.refused (h : Prechecks t clash p x P) {e : ApiError} (hp : p = .error e) :
    x = .error e := by
  subst hp
  exact h

lemma Prechecks.clashes (h : Prechecks t clash p x P) (hp : p = .ok row)
    (hclash : ¬ t.Apart clash row) : x = .error internalError := by
  subst hp
  exact h.1 hclash

lemma Prechecks.ok (h : Prechecks t clash p x P) {a : α} (hx : x = .ok a) : P a := by
  cases p with
  | error e =>
    have hrefused : x = .error e := h
    rw [hrefused] at hx
    cases hx
  | ok row => exact (h.2 a hx).2

end Rules

end SchoolOs
