import SchoolOs.Ulid

/-!
What a request can fail with: the error classes of the API with their status, code and
message, and the rules of fallible code.
-/

namespace SchoolOs

/-- A value an error's details or an audit snapshot can carry. -/
inductive Value
  | null
  | bool (b : Bool)
  | num (n : ℤ)
  | text (s : String)
  | texts (l : List String)
  | id (u : Ulid)
  | date (d : ℕ)
  | time (t : ℕ)
  deriving DecidableEq

/-- `None` or the value. -/
def Value.opt {α : Type} (f : α → Value) : Option α → Value
  | none => .null
  | some a => f a

structure ApiError where
  statusCode : ℕ
  code : String
  message : String
  details : List (String × Value)
  deriving DecidableEq

/-! ### The classes -/

def authenticationErrorWith (message : String) : ApiError := ⟨401, "UNAUTHORIZED", message, []⟩
def authenticationError : ApiError := authenticationErrorWith "Invalid credentials."
def accountInactiveError : ApiError :=
  ⟨403, "ACCOUNT_INACTIVE", "This account cannot be used right now.", []⟩
def forbiddenError (message : String) : ApiError := ⟨403, "FORBIDDEN", message, []⟩
def tenantContextError : ApiError :=
  ⟨403, "TENANT_CONTEXT", "You do not have access to this school.", []⟩
def notFoundError (message code : String) : ApiError := ⟨404, code, message, []⟩
def invalidRequestError (message : String) : ApiError := ⟨400, "VALIDATION_ERROR", message, []⟩
def invalidRequestErrorWith (message code : String) (details : List (String × Value)) : ApiError :=
  ⟨400, code, message, details⟩
def conflictError (message code : String) (details : List (String × Value)) : ApiError :=
  ⟨409, code, message, details⟩
def staleResourceError : ApiError :=
  ⟨409, "STALE_RESOURCE", "Someone else updated this record while you were editing it. " ++
    "Refresh to see the latest version, then reapply your changes.", []⟩

/-- Anything else that is raised, database errors included, as the last handler answers it. -/
def internalError : ApiError := ⟨500, "INTERNAL_ERROR", "An unexpected error occurred.", []⟩

/-! ### Fallible code -/

abbrev Fallible (α : Type) := Except ApiError α

/-- `if not c: raise e`. -/
def ensure (c : Prop) [Decidable c] (e : ApiError) : Fallible Unit :=
  if c then .ok () else .error e

/-- `if x is None: raise e`. -/
def found {α : Type} (x : Option α) (e : ApiError) : Fallible α :=
  match x with
  | some a => .ok a
  | none => .error e

/-- `if x: raise …`, the error naming what is there. -/
def ensureAbsent {α : Type} (x : Option α) (e : α → ApiError) : Fallible Unit :=
  match x with
  | some a => .error (e a)
  | none => .ok ()

lemma bind_ok {ε α β : Type} {x : Except ε α} {f : α → Except ε β} {b : β} :
    (x >>= f) = .ok b ↔ ∃ a, x = .ok a ∧ f a = .ok b := by
  cases x <;> simp [bind, Except.bind]

lemma exists_of_isOk {ε α : Type} {x : Except ε α} (h : x.isOk = true) : ∃ a, x = .ok a := by
  cases x with
  | error e => cases h
  | ok a => exact ⟨a, rfl⟩

@[simp] lemma ok_bind {ε α β : Type} (a : α) (f : α → Except ε β) :
    (Except.ok a >>= f) = f a := rfl

@[simp] lemma error_bind {ε α β : Type} (e : ε) (f : α → Except ε β) :
    (Except.error e >>= f) = .error e := rfl

/-- Two computations that go on from the same one agree when they agree on what it can return. -/
lemma bind_congr_ok {ε α β : Type} {x : Except ε α} {f g : α → Except ε β}
    (h : ∀ a, x = .ok a → f a = g a) : x >>= f = x >>= g := by
  cases x with
  | error e => rfl
  | ok a => exact h a rfl

lemma map_ok {ε α β : Type} {x : Except ε α} {f : α → β} {b : β} :
    f <$> x = .ok b ↔ ∃ a, x = .ok a ∧ f a = b := by
  cases x <;> simp [Functor.map, Except.map]

@[simp] lemma ensure_ok {c : Prop} [Decidable c] {e : ApiError} {u : Unit} :
    ensure c e = .ok u ↔ c := by
  unfold ensure; split <;> simp_all

@[simp] lemma found_ok {α : Type} {x : Option α} {e : ApiError} {a : α} :
    found x e = .ok a ↔ x = some a := by
  cases x <;> simp [found]

@[simp] lemma ensureAbsent_ok {α : Type} {x : Option α} {e : α → ApiError} {u : Unit} :
    ensureAbsent x e = .ok u ↔ x = none := by
  cases x <;> simp [ensureAbsent]

@[simp] lemma pure_ok {ε α : Type} {a b : α} :
    (pure a : Except ε α) = .ok b ↔ a = b := by
  simp [pure, Except.pure]

/-! ### Loops -/

section Loops

variable {α β ε σ : Type}

lemma mapM_error {f : α → Except ε β} {l : List α} {e : ε}
    (h : l.mapM f = .error e) : ∃ a ∈ l, f a = .error e := by
  induction l with
  | nil => cases h
  | cons a rest ih =>
    rw [List.mapM_cons] at h
    cases ha : f a with
    | error e' =>
      rw [ha] at h
      cases h
      exact ⟨a, List.mem_cons_self .., ha⟩
    | ok b =>
      rw [ha, ok_bind] at h
      cases hrest : rest.mapM f with
      | error e' =>
        rw [hrest] at h
        cases h
        obtain ⟨a', hmem, ha'⟩ := ih hrest
        exact ⟨a', List.mem_cons_of_mem a hmem, ha'⟩
      | ok bs =>
        rw [hrest] at h
        cases h

lemma mapM_ok {f : α → Except ε β} {l : List α} {bs : List β} (h : l.mapM f = .ok bs) :
    ∀ a ∈ l, ∃ b ∈ bs, f a = .ok b := by
  induction l generalizing bs with
  | nil => exact fun a ha => absurd ha List.not_mem_nil
  | cons a rest ih =>
    rw [List.mapM_cons] at h
    obtain ⟨b, hb, h⟩ := bind_ok.mp h
    obtain ⟨bs', hbs, h⟩ := bind_ok.mp h
    obtain rfl := pure_ok.mp h
    intro a' ha'
    rcases List.mem_cons.mp ha' with rfl | hrest
    · exact ⟨b, List.mem_cons_self .., hb⟩
    · obtain ⟨b', hmem, hb'⟩ := ih hbs a' hrest
      exact ⟨b', List.mem_cons_of_mem b hmem, hb'⟩

lemma mapM_of_ok {f : α → Except ε β} {g : α → β} {l : List α} (h : ∀ a ∈ l, f a = .ok (g a)) :
    l.mapM f = .ok (l.map g) := by
  induction l with
  | nil => rfl
  | cons a rest ih =>
    rw [List.mapM_cons, h a (List.mem_cons_self ..),
      ih fun a' ha' => h a' (List.mem_cons_of_mem a ha')]
    rfl

lemma foldlM_ok {f : σ → α → Except ε σ} {l : List α} {s s' : σ} (h : l.foldlM f s = .ok s') :
    ∀ a ∈ l, ∃ t t', f t a = .ok t' := by
  induction l generalizing s with
  | nil => exact fun a ha => absurd ha List.not_mem_nil
  | cons a rest ih =>
    rw [List.foldlM_cons] at h
    obtain ⟨t, ht, h⟩ := bind_ok.mp h
    intro a' ha'
    rcases List.mem_cons.mp ha' with rfl | hrest
    · exact ⟨s, t, ht⟩
    · exact ih h a' hrest

lemma forM_ok {f : α → Except ε Unit} {l : List α} :
    l.forM f = .ok () ↔ ∀ a ∈ l, f a = .ok () := by
  induction l with
  | nil => exact ⟨fun _ a ha => absurd ha List.not_mem_nil, fun _ => rfl⟩
  | cons a rest ih =>
    have hcons : (a :: rest).forM f = f a >>= fun _ => rest.forM f := rfl
    rw [hcons, bind_ok, List.forall_mem_cons, ← ih]
    exact ⟨fun ⟨_, ha, hrest⟩ => ⟨ha, hrest⟩, fun ⟨ha, hrest⟩ => ⟨(), ha, hrest⟩⟩

end Loops

/-! ### Code with one error -/

/-- Whatever goes wrong is answered with `e`. -/
def FailsOnly {ε α : Type} (e : ε) (x : Except ε α) : Prop := ∀ e', x = .error e' → e' = e

section FailsOnly

variable {ε α β γ : Type} {e : ε}

lemma failsOnly_ok (a : α) : FailsOnly e (.ok a) := nofun

lemma failsOnly_ensure {c : Prop} [Decidable c] {e : ApiError} : FailsOnly e (ensure c e) := by
  unfold ensure
  split
  · exact failsOnly_ok ()
  · exact fun _ h => (Except.error.inj h).symm

lemma failsOnly_found {x : Option α} {e : ApiError} : FailsOnly e (found x e) := by
  cases x with
  | none => exact fun _ h => (Except.error.inj h).symm
  | some a => exact failsOnly_ok a

lemma failsOnly_ensureAbsent {x : Option α} {e : ApiError} :
    FailsOnly e (ensureAbsent x fun _ => e) := by
  cases x with
  | none => exact failsOnly_ok ()
  | some a => exact fun _ h => (Except.error.inj h).symm

lemma FailsOnly.bind {x : Except ε α} {f : α → Except ε β} (hx : FailsOnly e x)
    (hf : ∀ a, FailsOnly e (f a)) : FailsOnly e (x >>= f) := by
  cases x with
  | ok a => exact hf a
  | error e' => exact fun _ h => Except.error.inj h ▸ hx e' rfl

lemma FailsOnly.eq (h : FailsOnly e (.error (α := α) e')) : e' = e := h e' rfl

/-- Two steps that do not need each other, and fail alike, may be taken in either order. -/
lemma FailsOnly.swap {x : Except ε α} {y : Except ε β} (hx : FailsOnly e x) (hy : FailsOnly e y)
    (f : α → β → Except ε γ) :
    (x >>= fun a => y >>= f a) = y >>= fun b => x >>= fun a => f a b := by
  cases x with
  | ok a => rfl
  | error e' =>
    cases y with
    | ok b => rfl
    | error e'' =>
      rw [hx.eq, hy.eq]
      rfl

end FailsOnly

/-- What holds of a result, if there is one. -/
instance decidableForallOk {ε α : Type} {P : α → Prop} [DecidablePred P] :
    (x : Except ε α) → Decidable (∀ a, x = .ok a → P a)
  | .ok a => decidable_of_iff (P a) ⟨fun h _ he => Except.ok.inj he ▸ h, fun h => h a rfl⟩
  | .error _ => .isTrue fun _ he => nomatch he

end SchoolOs
