import Mathlib.Tactic.Common

/-!
Savepoints: a block of statements that raises takes back what it wrote. A loop that runs a block for
each item and goes on after the ones that raise leaves what the blocks of the other items alone
leave.
-/

namespace SchoolOs.Savepoints

variable {ε σ α ι : Type}

/-- A block in a savepoint: when it raises, the state at its start comes back. -/
def nested (block : EStateM ε σ α) : EStateM ε σ α := fun s =>
  match block s with
  | .ok a s' => .ok a s'
  | .error e _ => .error e s

lemma nested_ok {block : EStateM ε σ α} {s s' : σ} {a : α} :
    nested block s = .ok a s' ↔ block s = .ok a s' := by
  unfold nested
  cases block s <;> simp

lemma nested_error {block : EStateM ε σ α} {s s' : σ} {e : ε} :
    nested block s = .error e s' ↔ (∃ dirty, block s = .error e dirty) ∧ s' = s := by
  unfold nested
  cases block s <;> simp [eq_comm]

/-- The block raises. -/
def Raises (block : EStateM ε σ α) (s : σ) : Prop := ∃ e dirty, block s = .error e dirty

lemma bind_through {β : Type} {x : EStateM ε σ α} {f : α → EStateM ε σ β} {s s' : σ} {b : β} :
    (x >>= f) s = .ok b s' ↔ ∃ a s₁, x s = .ok a s₁ ∧ f a s₁ = .ok b s' := by
  change (match x s with
    | .ok a s => f a s
    | .error e s => .error e s) = _ ↔ _
  cases x s <;> simp

/-! ### The loop -/

variable (f : ι → EStateM ε σ Unit)

/-- The block of each item in a savepoint of its own: what came of each, and the state after
them. -/
def attempts : List ι → σ → List (ι × Option ε) × σ
  | [], s => ([], s)
  | i :: l, s =>
    match nested (f i) s with
    | .ok _ s' => ((i, none) :: (attempts l s').1, (attempts l s').2)
    | .error e s' => ((i, some e) :: (attempts l s').1, (attempts l s').2)

/-- The items whose blocks went through. -/
def succeeded (outcomes : List (ι × Option ε)) : List ι :=
  (outcomes.filter (·.2.isNone)).map Prod.fst

/-- The items whose blocks raised. -/
def failed (outcomes : List (ι × Option ε)) : List ι :=
  (outcomes.filter (·.2.isSome)).map Prod.fst

/-- What came of an item: its block goes through, or it raises and nothing changes. -/
inductive Outcome : ι × Option ε → σ → σ → Prop
  | success {i : ι} {s s' : σ} (through : f i s = .ok () s') : Outcome (i, none) s s'
  | failure {i : ι} {e : ε} {s dirty : σ} (raises : f i s = .error e dirty) :
      Outcome (i, some e) s s

/-- A step for each item. -/
inductive Steps (R : ι → σ → σ → Prop) : List ι → σ → σ → Prop
  | nil (s : σ) : Steps R [] s s
  | cons {i : ι} {l : List ι} {s s₁ s' : σ} (step : R i s s₁) (rest : Steps R l s₁ s') :
      Steps R (i :: l) s s'

section Laws

variable {f} {l : List ι} {i : ι} {s s' : σ} {e : ε}

lemma attempts_through (h : f i s = .ok () s') : attempts f (i :: l) s =
    ((i, none) :: (attempts f l s').1, (attempts f l s').2) := by
  have hnested : nested (f i) s = .ok () s' := nested_ok.mpr h
  rw [attempts, hnested]

lemma attempts_raises {dirty : σ} (h : f i s = .error e dirty) : attempts f (i :: l) s =
    ((i, some e) :: (attempts f l s).1, (attempts f l s).2) := by
  have hnested : nested (f i) s = .error e s := nested_error.mpr ⟨⟨dirty, h⟩, rfl⟩
  rw [attempts, hnested]

@[simp] lemma succeeded_cons_none {outcomes : List (ι × Option ε)} :
    succeeded ((i, none) :: outcomes) = i :: succeeded outcomes := by
  simp [succeeded]

@[simp] lemma succeeded_cons_some {outcomes : List (ι × Option ε)} :
    succeeded ((i, some e) :: outcomes) = succeeded outcomes := by
  simp [succeeded]

@[simp] lemma failed_cons_none {outcomes : List (ι × Option ε)} :
    failed ((i, none) :: outcomes) = failed outcomes := by
  simp [failed]

@[simp] lemma failed_cons_some {outcomes : List (ι × Option ε)} :
    failed ((i, some e) :: outcomes) = i :: failed outcomes := by
  simp [failed]

lemma attempts_items : (attempts f l s).1.map Prod.fst = l := by
  induction l generalizing s with
  | nil => rfl
  | cons i l ih =>
    cases h : f i s with
    | ok a s' => rw [attempts_through h, List.map_cons, ih]
    | error e dirty => rw [attempts_raises h, List.map_cons, ih]

lemma failed_sublist : (failed (attempts f l s).1).Sublist l := by
  have h := (List.filter_sublist (p := fun o => o.2.isSome)
    (l := (attempts f l s).1)).map Prod.fst
  rwa [attempts_items] at h

lemma succeeded_add_failed : (succeeded (attempts f l s).1).length +
    (failed (attempts f l s).1).length = l.length := by
  induction l generalizing s with
  | nil => rfl
  | cons i l ih =>
    cases h : f i s with
    | ok a s' =>
      rw [attempts_through h, succeeded_cons_none, failed_cons_none, List.length_cons,
        List.length_cons, Nat.add_right_comm, ih]
    | error e dirty =>
      rw [attempts_raises h, succeeded_cons_some, failed_cons_some, List.length_cons,
        List.length_cons, ← Nat.add_assoc, ih]

/-- **Only what succeeds is left**: the blocks of the items that succeed, one after another and
with no savepoints, go through to the state that the loop leaves. -/
theorem attempts_replay :
    Steps (fun i s s' => f i s = .ok () s') (succeeded (attempts f l s).1) s
      (attempts f l s).2 := by
  induction l generalizing s with
  | nil => exact .nil s
  | cons i l ih =>
    cases h : f i s with
    | ok a s' =>
      rw [attempts_through h, succeeded_cons_none]
      exact .cons h ih
    | error e dirty =>
      rw [attempts_raises h, succeeded_cons_some]
      exact ih

/-- The loop goes by the outcomes that it gives. -/
theorem attempts_outcomes : Steps (Outcome f) (attempts f l s).1 s (attempts f l s).2 := by
  induction l generalizing s with
  | nil => exact .nil s
  | cons i l ih =>
    cases h : f i s with
    | ok a s' =>
      rw [attempts_through h]
      exact .cons (.success h) ih
    | error e dirty =>
      rw [attempts_raises h]
      exact .cons (.failure h) ih

lemma Steps.mono {R R' : ι → σ → σ → Prop} (hR : ∀ i s s', R i s s' → R' i s s')
    (h : Steps R l s s') : Steps R' l s s' := by
  induction h with
  | nil s => exact .nil s
  | cons step _ ih => exact .cons (hR _ _ _ step) ih

/-- Nothing succeeds exactly if the block of every item raises at the start. -/
theorem succeeded_eq_nil : succeeded (attempts f l s).1 = [] ↔ ∀ i ∈ l, Raises (f i) s := by
  induction l with
  | nil => simp [attempts, succeeded]
  | cons i l ih =>
    cases h : f i s with
    | ok a s' =>
      rw [attempts_through h, succeeded_cons_none]
      simp [Raises, h]
    | error e dirty =>
      rw [attempts_raises h, succeeded_cons_some, ih]
      simp [Raises, h]

end Laws

end SchoolOs.Savepoints
