import SchoolOs.SchoolModels

/-!
What a request is answered with: a result, or an error of the API, never the answer of the last
handler. The weakest condition for it, step by step.
-/

namespace SchoolOs

/-- The request goes through with a result in `P`, or is refused with an error of its own. -/
def Handled {α : Type} (x : Fallible α) (P : α → Prop) : Prop :=
  (∃ a, x = .ok a ∧ P a) ∨ ∃ e, x = .error e ∧ e ≠ internalError

section Rules

variable {α β : Type} {P : α → Prop} {Q : β → Prop}

@[simp] lemma handled_ok {a : α} : Handled (.ok a) P ↔ P a := by
  simp [Handled]

@[simp] lemma handled_error {e : ApiError} : Handled (.error e) P ↔ e ≠ internalError := by
  simp [Handled]

@[simp] lemma handled_pure {a : α} : Handled (pure a) P ↔ P a := handled_ok

@[simp] lemma handled_bind {x : Fallible α} {f : α → Fallible β} :
    Handled (x >>= f) Q ↔ Handled x fun a => Handled (f a) Q := by
  cases x <;> simp

@[simp] lemma handled_map {x : Fallible α} {f : α → β} :
    Handled (f <$> x) Q ↔ Handled x fun a => Q (f a) := by
  cases x <;> simp [Functor.map, Except.map]

/-- A check with an error of its own is a hypothesis of what follows. -/
lemma handled_ensure {c : Prop} [Decidable c] {e : ApiError} {R : Unit → Prop}
    (he : e ≠ internalError) : Handled (ensure c e) R ↔ (c → R ()) := by
  by_cases h : c <;> simp [ensure, h, he]

@[simp] lemma handled_ensure_internal {c : Prop} [Decidable c] {R : Unit → Prop} :
    Handled (ensure c internalError) R ↔ c ∧ R () := by
  by_cases h : c <;> simp [ensure, h]

lemma handled_found {x : Option α} {e : ApiError} (he : e ≠ internalError) :
    Handled (found x e) P ↔ ∀ a, x = some a → P a := by
  cases x <;> simp [found, he]

@[simp] lemma handled_found_internal {x : Option α} :
    Handled (found x internalError) P ↔ ∃ a, x = some a ∧ P a := by
  cases x <;> simp [found]

@[simp] lemma handled_ensureAbsent_internal {x : Option α} {R : Unit → Prop} :
    Handled (ensureAbsent x fun _ => internalError) R ↔ x = none ∧ R () := by
  cases x <;> simp [ensureAbsent]

@[simp] lemma handled_audit {env : SchoolEnv} {ctx : RequestContext} {entry : AuditEntry}
    {db : SchoolDB} {R : SchoolDB → Prop} : Handled (db.audit env ctx entry) R ↔
      env.Admits (auditRow ctx entry) ∧ R (db.log (auditRow ctx entry)) := by
  simp [SchoolDB.audit]

end Rules

/-! ### Errors of the API -/

/-- No error with another status is the answer of the last handler. -/
lemma ne_internalError {e : ApiError} (h : e.statusCode ≠ 500) : e ≠ internalError :=
  fun he => h (congrArg ApiError.statusCode he)

@[simp] lemma conflictError_ne {message code : String} {details : List (String × Value)} :
    conflictError message code details ≠ internalError := ne_internalError (by simp [conflictError])

@[simp] lemma notFoundError_ne {message code : String} :
    notFoundError message code ≠ internalError := ne_internalError (by simp [notFoundError])

@[simp] lemma forbiddenError_ne {message : String} : forbiddenError message ≠ internalError :=
  ne_internalError (by simp [forbiddenError])

@[simp] lemma invalidRequestError_ne {message : String} :
    invalidRequestError message ≠ internalError := ne_internalError (by simp [invalidRequestError])

@[simp] lemma staleResourceError_ne : staleResourceError ≠ internalError :=
  ne_internalError (by simp [staleResourceError])

end SchoolOs
