import SchoolOs.SchoolModels

/-!
What holds of every result of a fallible computation, and of every failure: the weakest condition
for it, step by step.
-/

namespace SchoolOs

/-- Every result is in `P`. Nothing is said of a failure. -/
def Yields {ε α : Type} (x : Except ε α) (P : α → Prop) : Prop := ∀ a, x = .ok a → P a

section Rules

variable {ε α β : Type} {P P' : α → Prop} {Q : β → Prop} {R : Unit → Prop}

lemma Yields.imp {x : Except ε α} (h : Yields x P) (himp : ∀ a, P a → P' a) : Yields x P' :=
  fun a ha => himp a (h a ha)

lemma Yields.of_forall {x : Except ε α} (h : ∀ a, P a) : Yields x P := fun a _ => h a

@[simp] lemma yields_true {x : Except ε α} : Yields x (fun _ => True) ↔ True := by
  simp [Yields]

@[simp] lemma yields_ok {a : α} : Yields (.ok a : Except ε α) P ↔ P a := by
  simp [Yields]

@[simp] lemma yields_error {e : ε} : Yields (.error e : Except ε α) P ↔ True := by
  simp [Yields]

@[simp] lemma yields_pure {a : α} : Yields (pure a : Except ε α) P ↔ P a := yields_ok

@[simp] lemma yields_bind {x : Except ε α} {f : α → Except ε β} :
    Yields (x >>= f) Q ↔ Yields x fun a => Yields (f a) Q := by
  cases x with
  | error e => simp
  | ok a => simp

@[simp] lemma yields_map {x : Except ε α} {f : α → β} :
    Yields (f <$> x) Q ↔ Yields x fun a => Q (f a) := by
  cases x <;> simp [Functor.map, Except.map]

lemma yields_ite {c : Prop} [Decidable c] {x y : Except ε α} :
    Yields (if c then x else y) P ↔ (c → Yields x P) ∧ (¬ c → Yields y P) := by
  by_cases h : c <;> simp [h]

@[simp] lemma yields_ensure {c : Prop} [Decidable c] {e : ApiError} :
    Yields (ensure c e) R ↔ (c → R ()) := by
  by_cases h : c <;> simp [ensure, h]

@[simp] lemma yields_found {x : Option α} {e : ApiError} :
    Yields (found x e) P ↔ ∀ a, x = some a → P a := by
  cases x <;> simp [found]

@[simp] lemma yields_ensureAbsent {x : Option α} {e : α → ApiError} :
    Yields (ensureAbsent x e) R ↔ (x = none → R ()) := by
  cases x <;> simp [ensureAbsent]

@[simp] lemma yields_audit {env : SchoolEnv} {ctx : RequestContext} {entry : AuditEntry}
    {db : SchoolDB} {S : SchoolDB → Prop} : Yields (db.audit env ctx entry) S ↔
      (env.Admits (auditRow ctx entry) → S (db.log (auditRow ctx entry))) := by
  simp [SchoolDB.audit]

end Rules

/-- Every failure is in `E`. Nothing is said of a result. -/
def Fails {ε α : Type} (x : Except ε α) (E : ε → Prop) : Prop := ∀ e, x = .error e → E e

section Failures

variable {ε α β : Type} {E : ε → Prop} {D : ApiError → Prop}

@[simp] lemma fails_ok {a : α} : Fails (.ok a : Except ε α) E ↔ True := by
  simp [Fails]

@[simp] lemma fails_error {e : ε} : Fails (.error e : Except ε α) E ↔ E e := by
  simp [Fails]

@[simp] lemma fails_pure {a : α} : Fails (pure a : Except ε α) E ↔ True := fails_ok

@[simp] lemma fails_bind {x : Except ε α} {f : α → Except ε β} :
    Fails (x >>= f) E ↔ Fails x E ∧ Yields x fun a => Fails (f a) E := by
  cases x with
  | error e => simp
  | ok a => simp

@[simp] lemma fails_map {x : Except ε α} {f : α → β} : Fails (f <$> x) E ↔ Fails x E := by
  cases x <;> simp [Functor.map, Except.map]

lemma fails_ensure {c : Prop} [Decidable c] {e : ApiError} (he : D e) : Fails (ensure c e) D := by
  by_cases h : c <;> simp [ensure, h, he]

lemma fails_found {x : Option α} {e : ApiError} (he : D e) : Fails (found x e) D := by
  cases x <;> simp [found, he]

end Failures

end SchoolOs
