import SchoolOs.Lockout

/-!
What a refused login tells its caller: whether the answer depends on the account it was for.
-/

namespace SchoolOs

/-- A login with everything it meets: the clock, the database, the client. -/
structure Attempt where
  clk : Clock
  db : DB
  data : LoginRequest
  clientIp : Option String
  userAgent : Option String
  familyId : Ulid
  draw : TokenDraw

namespace Attempt

variable (env : Env) (a : Attempt)

/-- The answer: tokens, or an error with its status, code and message. -/
def response : Fallible TokenPair :=
  (login env a.clk a.db a.data a.clientIp a.userAgent a.familyId a.draw).response

/-- The identifier and the password are no credentials of an account that may sign in now. -/
def Unauthenticated : Prop :=
  bindable a.data.identifier = true → ∀ user,
    verification env a.clk a.db a.data ≠ some (user, true)

/-- The identifier reaches the database, and the attempt log takes the client address. -/
def Recordable : Prop := bindable a.data.identifier = true ∧ varchar 45 a.clientIp = true

instance : Decidable a.Recordable := inferInstanceAs (Decidable (_ ∧ _))

/-- The identifier is that of an account that is neither deleted nor locked nor active. -/
def findsInactive : Bool :=
  match (findUser env a.db a.data.identifier).filter (·.deletedAt = none) with
  | none => false
  | some user => !isLocked a.clk user && user.status != .active

/-- The error of a refused login. -/
def refusal : ApiError :=
  if a.Recordable then
    if a.findsInactive env then accountInactiveError else authenticationError
  else internalError

end Attempt

variable {env : Env} {clk : Clock} {db : DB} {a b : Attempt}

/-- A refusal that is recorded first: the error, or a server error when the log takes no row. -/
lemma response_after_recordAttempt {userId : Option Ulid} {data : LoginRequest}
    {ip : Option String} {e : ApiError} (hb : bindable data.identifier = true) :
    (Outcome.after db (recordAttempt clk db userId data.identifier ip false)
      fun db => (⟨db, .error e⟩ : Outcome TokenPair)).response =
        .error (if varchar 45 ip = true then e else internalError) := by
  by_cases hip : varchar 45 ip = true
  · rw [recordAttempt_eq hb hip, if_pos hip]
    rfl
  · have hnot : ¬ (varchar 255 (some data.identifier) = true ∧ varchar 45 ip = true) :=
      fun h => hip h.2
    rw [recordAttempt_refused hnot, if_neg hip]
    rfl

/-- **What a refused login answers**: one error for an unknown, deleted or locked account and for
a wrong password, another one for an account that is not active. -/
theorem response_of_unauthenticated (h : a.Unauthenticated env) :
    a.response env = .error (a.refusal env) := by
  by_cases hb : bindable a.data.identifier = true
  · have hrefusal : a.refusal env = if varchar 45 a.clientIp = true then
        (if a.findsInactive env then accountInactiveError else authenticationError)
        else internalError := by
      simp only [Attempt.refusal, Attempt.Recordable, hb, true_and]
    have hnot : ¬ bindable a.data.identifier = false := by simp [hb]
    have hv := h hb
    rw [hrefusal]
    simp only [Attempt.response, login, if_neg hnot, Attempt.findsInactive]
    unfold verification at hv
    rcases Option.eq_none_or_eq_some
      ((findUser env a.db a.data.identifier).filter (·.deletedAt = none)) with hf | ⟨user, hf⟩
    · -- Nobody is found.
      simp only [hf, Bool.false_eq_true, if_false]
      exact response_after_recordAttempt hb
    simp only [hf] at hv ⊢
    -- The account is locked.
    by_cases hl : isLocked a.clk user = true
    · simp only [hl, if_true, Bool.not_true, Bool.false_and, Bool.false_eq_true, if_false]
      exact response_after_recordAttempt hb
    -- It is not active, which is answered before the password is looked at.
    by_cases hs : user.status ≠ .active
    · have hs' : (!isLocked a.clk user && user.status != .active) = true := by simp [hl, hs]
      simp only [if_neg hl, if_pos hs, hs', if_true]
      exact response_after_recordAttempt hb
    have hs' : (!isLocked a.clk user && user.status != .active) = false := by
      simpa [hl] using hs
    -- The password is wrong.
    have hp : passwordOk env user a.data.password = false := by
      simp only [if_neg hl, if_neg hs] at hv
      simpa using hv user
    simp only [if_neg hl, if_neg hs, hs', hp, if_true, Bool.false_eq_true, if_false]
    exact response_after_recordAttempt hb
  · have hno : ¬ a.Recordable := fun hr => hb hr.1
    have hb' : bindable a.data.identifier = false := by simpa using hb
    simp only [Attempt.response, login, if_pos hb', Attempt.refusal, if_neg hno]

/-- **No enumeration, exactly when**: two refused logins answer the same if and only if both or
neither can be recorded, and in the first case both or neither are for an account that is neither
deleted nor locked nor active. -/
theorem responses_eq_iff (ha : a.Unauthenticated env) (hb : b.Unauthenticated env) :
    a.response env = b.response env ↔ (a.Recordable ↔ b.Recordable) ∧
      (a.Recordable → a.findsInactive env = b.findsInactive env) := by
  rw [response_of_unauthenticated ha, response_of_unauthenticated hb, Except.error.injEq]
  have h1 : accountInactiveError ≠ authenticationError := by decide
  have h2 : accountInactiveError ≠ internalError := by decide
  have h3 : authenticationError ≠ internalError := by decide
  simp only [Attempt.refusal]
  by_cases hra : a.Recordable <;> by_cases hrb : b.Recordable <;>
    cases a.findsInactive env <;> cases b.findsInactive env <;>
    simp [hra, hrb, h1, h2, h3, h1.symm, h2.symm, h3.symm]

/-! ### An unknown identifier and a suspended account -/

lemma attempted_length : 1 ≤ "a@b.c".length ∧ "a@b.c".length ≤ 255 := by decide

/-- A login with no account in sight, or for the suspended account. -/
def attemptOn (users : List User) : Attempt where
  clk := ⟨1, 0⟩
  db := { DB.empty with users := users }
  data := ⟨"a@b.c", "incorrect", attempted_length, by decide⟩
  clientIp := some "127.0.0.1"
  userAgent := some "agent"
  familyId := 51
  draw := ⟨61, "first"⟩

def suspendedUser : User := User.new 1 (some "a@b.c") none (some "$correct1") .suspended none

/-- A wrong password and an unknown account answer the same. -/
theorem attemptOn_active :
    (attemptOn []).response .plain = (attemptOn [{ suspendedUser with status := .active }]).response
      .plain := by
  refine (responses_eq_iff (fun _ user h => ?_) (fun _ user h => ?_)).mpr
    ⟨by decide, fun _ => by decide⟩
  · cases h
  · have hwrong : verification .plain ⟨1, 0⟩
        { DB.empty with users := [{ suspendedUser with status := .active }] }
        ⟨"a@b.c", "incorrect", by decide, by decide⟩ =
          some ({ suspendedUser with status := .active }, false) := rfl
    cases hwrong.symm.trans h

/-- The suspended account answers otherwise, whatever the password. -/
theorem attemptOn_suspended : ¬ ∀ (env : Env) (a b : Attempt), a.Unauthenticated env →
    b.Unauthenticated env → a.response env = b.response env := by
  intro h
  have heq := h .plain (attemptOn []) (attemptOn [suspendedUser])
    (fun _ _ hv => by cases hv) (fun _ _ hv => by cases hv)
  cases heq

end SchoolOs
