import SchoolOs.Tally
import SchoolOs.TokenFamilies

/-!
The lockout of accounts: how the failed-login counter and the lock of a user follow the login
attempts, and what the attempt log says about them.
-/

namespace SchoolOs

open Tally

variable {env : Env} {clk : Clock} {db : DB}

/-! ### The paths of a login -/

/-- The password verification a login comes to, with its result: for a user who is found, not
deleted, not locked and active. -/
def verification (env : Env) (clk : Clock) (db : DB) (data : LoginRequest) :
    Option (User × Bool) :=
  match (findUser env db data.identifier).filter (·.deletedAt = none) with
  | none => none
  | some user =>
    if isLocked clk user then none
    else if user.status ≠ .active then none
    else some (user, passwordOk env user data.password)

/-- What a login does, by the verification it comes to. -/
inductive LoginPath (env : Env) (clk : Clock) (db : DB) (data : LoginRequest)
    (ip ua : Option String) (familyId : Ulid) (draw : TokenDraw) : Outcome TokenPair → Prop
  | unbindable : bindable data.identifier = false →
      LoginPath env clk db data ip ua familyId draw ⟨db, .error internalError⟩
  | refused {userId : Option Ulid} {e : ApiError} : bindable data.identifier = true →
      verification env clk db data = none →
      LoginPath env clk db data ip ua familyId draw
        (.after db (recordAttempt clk db userId data.identifier ip false) fun db => ⟨db, .error e⟩)
  | failed {user : User} {e : ApiError} : bindable data.identifier = true →
      verification env clk db data = some (user, false) →
      LoginPath env clk db data ip ua familyId draw
        (.after (registerFailure env clk db user.id)
          (recordAttempt clk (registerFailure env clk db user.id) (some user.id)
            data.identifier ip false) fun db => ⟨db, .error e⟩)
  | verified {user : User} : bindable data.identifier = true →
      verification env clk db data = some (user, true) →
      LoginPath env clk db data ip ua familyId draw
        (.after db (recordAttempt clk db (some user.id) data.identifier ip true) fun db =>
          .transaction db (completeLogin env clk db user ip ua familyId draw))

theorem login_path (env : Env) (clk : Clock) (db : DB) (data : LoginRequest)
    (ip ua : Option String) (familyId : Ulid) (draw : TokenDraw) :
    LoginPath env clk db data ip ua familyId draw (login env clk db data ip ua familyId draw) := by
  unfold login
  split
  · next hb => exact .unbindable hb
  next hb =>
  have hb : bindable data.identifier = true := by simpa using hb
  split
  · next hf => exact .refused hb (by simp only [verification, hf])
  next user hf =>
  split
  · next hl => exact .refused hb (by simp only [verification, hf, if_pos hl])
  next hl =>
  split
  · next hs => exact .refused hb (by simp only [verification, hf, if_neg hl, if_pos hs])
  next hs =>
  have hv : verification env clk db data = some (user, passwordOk env user data.password) := by
    simp only [verification, hf, if_neg hl, if_neg hs]
  split
  · next hp => exact .failed hb (hp ▸ hv)
  · next hp =>
    have hp : passwordOk env user data.password = true := by simpa using hp
    exact .verified hb (hp ▸ hv)

lemma verification_found {data : LoginRequest} {user : User} {ok : Bool}
    (h : verification env clk db data = some (user, ok)) :
    findUser env db data.identifier = some user ∧ isLocked clk user = false := by
  unfold verification at h
  split at h
  · cases h
  next u hf =>
  split at h
  · cases h
  next hl =>
  split at h
  · cases h
  · obtain ⟨rfl, -⟩ := Prod.mk.inj (Option.some.inj h)
    exact ⟨(Option.filter_eq_some_iff.mp hf).1, by simpa using hl⟩

/-! ### What each request means to the account -/

/-- The user whose password the request failed to give. -/
def failedVerification (env : Env) (db : DB) (call : AuthCall) : Option Ulid :=
  match call.op with
  | .login data _ _ =>
    if bindable data.identifier then
      match verification env call.clk db data with
      | some (user, false) => some user.id
      | _ => none
    else none
  | _ => none

/-- The user who logged in, or got a new password. -/
def cleared (env : Env) (db : DB) (call : AuthCall) : Option Ulid :=
  match call.op, (call.handle env db).response with
  | .login .., .ok (some pair) => some pair.userId
  | .changePassword .., .ok _ => call.http.identity
  | .confirmPasswordReset data _, .ok _ =>
    (Tables.get PasswordResetToken.tokenHash (env.hashRefreshToken data.token)
      db.passwordResetTokens).map PasswordResetToken.userId
  | _, _ => none

def lockoutEvent (env : Env) (u : Ulid) (db : DB) (call : AuthCall) : Event :=
  if failedVerification env db call = some u then .hit
  else if cleared env db call = some u then .clear
  else .other

/-- Until when an account locked now stays locked. -/
def lockEnd (env : Env) (clk : Clock) : Instant := clk.now + seconds (env.loginLockoutMinutes * 60)

/-- **The lockout machine**, one request: the counter of the user is the tally of failed
verifications, it stays below the threshold, the lock is set by the request that trips and by
no other, and a login of a locked user issues no tokens. -/
structure LockoutStep (env : Env) (u : Ulid) (db : DB) (call : AuthCall) : Prop where
  row : ∀ user, getUser db u = some user → ∃ user', getUser (call.step env db) u = some user' ∧
    user'.failedLoginCount =
      tally env.loginMaxFailedAttempts user.failedLoginCount (lockoutEvent env u db call) ∧
    user.failedLoginCount < env.loginMaxFailedAttempts ∧
    user'.failedLoginCount < env.loginMaxFailedAttempts ∧
    user'.lockedUntil =
      if Trips env.loginMaxFailedAttempts user.failedLoginCount (lockoutEvent env u db call) then
        some (lockEnd env call.clk)
      else if lockoutEvent env u db call = .clear then none else user.lockedUntil
  locked : ∀ user t data familyId draw, getUser db u = some user → user.lockedUntil = some t →
    call.clk.now < t → call.op = .login data familyId draw →
    findUser env db data.identifier = some user → NoPair (call.handle env db).response

/-- A login appends one row to the attempt log, whose flag says whether tokens were issued. -/
def AttemptLogged (env : Env) (db : DB) (call : AuthCall) : Prop :=
  ∀ data familyId draw, call.op = .login data familyId draw → ∃ row,
    (call.step env db).loginAttempts = db.loginAttempts ++ [row] ∧
      (row.success = true ↔ ∃ pair, (call.handle env db).response = .ok (some pair))

/-! ### The attempt log -/

/-- The identifier and the client address fit the attempt log, and when the password is right the
user agent fits the token table and what is drawn for the token is fresh. -/
def Loggable (env : Env) (db : DB) (call : AuthCall) : Prop :=
  ∀ data familyId draw, call.op = .login data familyId draw →
    bindable data.identifier = true ∧ varchar 45 call.http.clientIp = true ∧
      ∀ user, verification env call.clk db data = some (user, true) →
        varchar 400 call.http.userAgent = true ∧
          ∀ t ∈ db.refreshTokens, t.id ≠ draw.id ∧ t.tokenDigest ≠ env.hashRefreshToken draw.raw

/-- The attempt, as recorded. -/
def DB.attempted (db : DB) (row : LoginAttempt) : DB :=
  { db with loginAttempts := db.loginAttempts ++ [row] }

lemma recordAttempt_eq {userId : Option Ulid} {data : LoginRequest} {ip : Option String}
    {success : Bool} (hb : bindable data.identifier = true) (hip : varchar 45 ip = true) :
    recordAttempt clk db userId data.identifier ip success =
      .ok (db.attempted ⟨userId, data.identifier, ip, success, clk.now⟩) := by
  refine recordAttempt_ok.mpr ⟨⟨?_, hip⟩, rfl⟩
  simp [varchar, hb, data.identifier_length.2]

lemma recordAttempt_unfit (clk : Clock) (db : DB) (userId : Option Ulid) (identifier : String)
    {ip : Option String} (success : Bool) (hip : ¬ varchar 45 ip = true) :
    ∃ e, recordAttempt clk db userId identifier ip success = .error e := by
  cases h : recordAttempt clk db userId identifier ip success with
  | error e => exact ⟨e, rfl⟩
  | ok db' => exact absurd (recordAttempt_ok.mp h).1.2 hip

/-- The rest of a login goes through when the token table takes the token. -/
lemma completeLogin_iff {user : User} {ip ua : Option String} {familyId : Ulid}
    {draw : TokenDraw} (hip : varchar 45 ip = true) :
    (∃ r, completeLogin env clk db user ip ua familyId draw = .ok r) ↔
      TokenStorable db.refreshTokens (buildRefreshToken env clk user.id familyId ip ua draw) := by
  have haudit : Auditable env (auditRow (systemCtx ip)
      { action := "LOGIN_SUCCESS", entityType := "user", entityId := some user.id }) :=
    ⟨show "LOGIN_SUCCESS" ∈ auditActions by decide, rfl, hip, rfl, by simp [auditRow],
      by simp [auditRow]⟩
  refine ⟨?_, ?_⟩
  · rintro ⟨r, h⟩
    simp only [completeLogin, bind_ok, audit_ok, ensure_ok] at h
    obtain ⟨_, ⟨_, rfl⟩, _, hst, _⟩ := h
    exact hst
  · intro hst
    exact ⟨_, bind_ok.mpr ⟨_, audit_ok.mpr ⟨haudit, rfl⟩,
      bind_ok.mpr ⟨(), ensure_ok.mpr hst, rfl⟩⟩⟩

/-- A transaction that touches no attempt leaves the log it found, committed or not. -/
lemma transaction_loginAttempts {body : Fallible (TokenPair × DB)} {log : List LoginAttempt}
    (hlog : db.loginAttempts = log)
    (h : ∀ r, body = .ok r → r.2.loginAttempts = db.loginAttempts) :
    (Outcome.transaction db body).db.loginAttempts = log := by
  unfold Outcome.transaction
  split
  · exact (h _ rfl).trans hlog
  · exact hlog

lemma transaction_pair {body : Fallible (TokenPair × DB)} :
    (∃ pair, (Outcome.transaction db body).response.map some = .ok (some pair)) ↔
      ∃ r, body = .ok r := by
  cases body with
  | error e => simp [Outcome.transaction, Except.map]
  | ok r => simp [Outcome.transaction, Except.map]

lemma tokenStorable_iff {tokens : List RefreshToken} {userId familyId : Ulid}
    {ip ua : Option String} {draw : TokenDraw} (hip : varchar 45 ip = true) :
    TokenStorable tokens (buildRefreshToken env clk userId familyId ip ua draw) ↔
      varchar 400 ua = true ∧
        ∀ t ∈ tokens, t.id ≠ draw.id ∧ t.tokenDigest ≠ env.hashRefreshToken draw.raw := by
  simp only [TokenStorable, Tables.Inserts, buildRefreshToken, hip, and_true]
  simp only [List.map_cons, List.map_nil, List.nodup_singleton, true_and, List.mem_singleton,
    forall_eq]
  refine ⟨fun ⟨h1, h2, h3⟩ => ⟨h3, fun t ht => ⟨h1 t ht, h2 t ht⟩⟩,
    fun ⟨h3, h⟩ => ⟨fun t ht => (h t ht).1, fun t ht => (h t ht).2, h3⟩⟩

/-- One row was added, and its flag says whether tokens were issued. -/
def Logged (db : DB) (o : Outcome TokenPair) : Prop :=
  ∃ row, o.db.loginAttempts = db.loginAttempts ++ [row] ∧
    (row.success = true ↔ ∃ pair, o.response.map some = .ok (some pair))

lemma not_logged {o : Outcome TokenPair} (h : o.db.loginAttempts = db.loginAttempts) :
    ¬ Logged db o := by
  rintro ⟨row, hrow, _⟩
  rw [h] at hrow
  simpa using congrArg List.length hrow

lemma logged_iff {o : Outcome TokenPair} (row : LoginAttempt)
    (h : o.db.loginAttempts = db.loginAttempts ++ [row]) :
    Logged db o ↔ (row.success = true ↔ ∃ pair, o.response.map some = .ok (some pair)) := by
  refine ⟨?_, fun hr => ⟨row, h, hr⟩⟩
  rintro ⟨row', hrow, hiff⟩
  rw [h, List.append_cancel_left_eq, List.singleton_inj] at hrow
  rwa [hrow]

/-- An attempt that comes to nothing is logged as long as the log takes its row. -/
lemma logged_refusal {db1 : DB} {userId : Option Ulid} {data : LoginRequest}
    {ip : Option String} {e : ApiError} (hb : bindable data.identifier = true)
    (h1 : db1.loginAttempts = db.loginAttempts) :
    Logged db (.after db1 (recordAttempt clk db1 userId data.identifier ip false)
      fun db => ⟨db, .error e⟩) ↔ varchar 45 ip = true := by
  by_cases hip : varchar 45 ip = true
  · rw [recordAttempt_eq hb hip]
    refine iff_of_true ((logged_iff ⟨userId, data.identifier, ip, false, clk.now⟩ ?_).mpr ?_) hip
    · simp only [Outcome.after, DB.attempted, h1]
    · refine ⟨nofun, ?_⟩
      rintro ⟨pair, hpair⟩
      cases hpair
  · obtain ⟨e', he'⟩ := recordAttempt_unfit clk db1 userId data.identifier false hip
    rw [he']
    exact iff_of_false (not_logged h1) hip

/-- **The attempt log** says what it should exactly when the request is loggable. -/
theorem attemptLogged_iff (env : Env) (db : DB) (call : AuthCall) :
    AttemptLogged env db call ↔ Loggable env db call := by
  obtain ⟨clk, ord, http, op⟩ := call
  refine forall_congr' fun data => forall_congr' fun familyId => forall_congr' fun draw =>
    forall_congr' fun hop => ?_
  simp only at hop
  subst hop
  simp only
  have hpath := login_path env clk db data http.clientIp http.userAgent familyId draw
  change Logged db (login env clk db data http.clientIp http.userAgent familyId draw) ↔ _
  generalize login env clk db data http.clientIp http.userAgent familyId draw = o at hpath ⊢
  cases hpath with
  | unbindable hb =>
    -- The identifier cannot be bound, so nothing is logged.
    refine iff_of_false (not_logged rfl) fun h => ?_
    rw [h.1] at hb
    cases hb
  | refused hb hv =>
    -- The attempt is logged if the address fits.
    rw [logged_refusal hb rfl]
    refine ⟨fun hip => ⟨hb, hip, fun user hu => ?_⟩, fun h => h.2.1⟩
    rw [hv] at hu
    cases hu
  | @failed user _ hb hv =>
    have hlog : (registerFailure env clk db user.id).loginAttempts = db.loginAttempts := rfl
    rw [logged_refusal hb hlog]
    refine ⟨fun hip => ⟨hb, hip, fun user hu => ?_⟩, fun h => h.2.1⟩
    rw [hv] at hu
    cases hu
  | @verified user hb hv =>
    -- A login that goes through is logged if its token is stored.
    by_cases hip : varchar 45 http.clientIp = true
    · rw [recordAttempt_eq hb hip]
      simp only [Outcome.after]
      rw [logged_iff ⟨some user.id, data.identifier, http.clientIp, true, clk.now⟩
        (transaction_loginAttempts rfl fun r hr => (completeLogin_ok hr).2.2.2),
        transaction_pair, completeLogin_iff hip, tokenStorable_iff hip, iff_true_left rfl]
      refine ⟨fun h => ⟨hb, hip, fun _ _ => h⟩, fun h => h.2.2 user hv⟩
    · obtain ⟨e, he⟩ := recordAttempt_unfit clk db (some user.id) data.identifier true hip
      rw [he]
      exact iff_of_false (not_logged rfl) fun h => hip h.2.1

/-! ### The counter -/

/-- What an event does to the counter and the lock of a row. -/
def Follows (env : Env) (clk : Clock) (user user' : User) : Event → Prop
  | .hit => user'.failedLoginCount = (countFailure env clk user).failedLoginCount ∧
      user'.lockedUntil = (countFailure env clk user).lockedUntil
  | .clear => user'.failedLoginCount = 0 ∧ user'.lockedUntil = none
  | .other => user'.failedLoginCount = user.failedLoginCount ∧
      user'.lockedUntil = user.lockedUntil

/-- The row of the user after a request follows the event. -/
def RowFollows (env : Env) (clk : Clock) (u : Ulid) (db db' : DB) (e : Event) : Prop :=
  ∀ user, getUser db u = some user → ∃ user', getUser db' u = some user' ∧
    Follows env clk user user' e

variable {u : Ulid}

lemma rowFollows_same {db' : DB} (h : db'.users = db.users) :
    RowFollows env clk u db db' .other := by
  refine fun user hu => ⟨user, ?_, rfl, rfl⟩
  rwa [getUser, h]

lemma rowFollows_row {db' : DB} {v : Ulid} {row : User} (hid : row.id = v)
    (hrow : row.failedLoginCount = 0 ∧ row.lockedUntil = none)
    (h : db'.users = Tables.set User.id v (fun _ => row) db.users) :
    RowFollows env clk u db db' (if v = u then .clear else .other) := by
  intro user hu
  rw [getUser, h, Tables.get_set_row hid]
  by_cases hvu : v = u
  · subst hvu
    rw [if_pos rfl, if_pos rfl, show Tables.get User.id v db.users = some user from hu]
    exact ⟨row, rfl, hrow⟩
  · rw [if_neg (Ne.symm hvu), if_neg hvu]
    exact ⟨user, hu, rfl, rfl⟩

lemma rowFollows_failure {db' : DB} {v : Ulid}
    (h : db'.users = (registerFailure env clk db v).users) :
    RowFollows env clk u db db' (if v = u then .hit else .other) := by
  intro user hu
  have hkey : ∀ fresh : User,
      (flushed User.touch fresh (countFailure env clk fresh)).id = fresh.id := by
    intro fresh
    rw [flushed_col User.touch User.id (fun _ => rfl)]
    unfold countFailure
    split <;> rfl
  rw [getUser, h, registerFailure, Tables.get_set hkey,
    show Tables.get User.id u db.users = some user from hu]
  have hid := (Tables.get_mem hu).2
  by_cases hvu : v = u
  · subst hvu
    refine ⟨_, by rw [Option.map_some, if_pos hid], ?_⟩
    rw [if_pos rfl]
    exact ⟨flushed_col User.touch User.failedLoginCount (fun _ => rfl) _ _,
      flushed_col User.touch User.lockedUntil (fun _ => rfl) _ _⟩
  · refine ⟨user, by rw [Option.map_some, if_neg fun h => hvu (h.symm.trans hid)], ?_⟩
    rw [if_neg hvu]
    exact ⟨rfl, rfl⟩

/-- The user of the pair a login answers with. -/
def pairUser : Fallible TokenPair → Option Ulid
  | .ok pair => some pair.userId
  | .error _ => none

lemma pairUser_of_noPair {r : Fallible TokenPair} (h : NoPair (r.map some)) :
    pairUser r = none := by
  cases r with
  | error e => rfl
  | ok pair => exact absurd rfl (h pair)

lemma cleared_login (env : Env) (db : DB) (clk : Clock) (ord : RowOrder) (http : HttpRequest)
    (data : LoginRequest) (familyId : Ulid) (draw : TokenDraw) :
    cleared env db ⟨clk, ord, http, .login data familyId draw⟩ =
      pairUser (login env clk db data http.clientIp http.userAgent familyId draw).response := by
  simp only [cleared, AuthCall.handle]
  cases (login env clk db data http.clientIp http.userAgent familyId draw).response <;> rfl

lemma verified_follows {user : User} {identifier : String} {ip ua : Option String}
    {familyId : Ulid} {draw : TokenDraw} {o : Outcome TokenPair}
    (ho : (Outcome.after db (recordAttempt clk db (some user.id) identifier ip true) fun db =>
      .transaction db (completeLogin env clk db user ip ua familyId draw)) = o) :
    RowFollows env clk u db o.db (if pairUser o.response = some u then .clear else .other) := by
  unfold Outcome.after at ho
  cases hrec : recordAttempt clk db (some user.id) identifier ip true with
  | error e =>
    rw [hrec] at ho
    subst ho
    exact rowFollows_same rfl
  | ok db1 =>
    -- The attempt is recorded, and the rest of the login follows.
    rw [hrec] at ho
    obtain ⟨_, rfl⟩ := recordAttempt_ok.mp hrec
    simp only [Outcome.transaction] at ho
    split at ho
    · next pair db' hdone =>
      obtain ⟨husers, _, hpair, _⟩ := completeLogin_ok hdone
      have hid : (loggedIn clk user).id = user.id :=
        flushed_col User.touch User.id (fun _ => rfl) _ _
      have hcount : (loggedIn clk user).failedLoginCount = 0 :=
        flushed_col User.touch User.failedLoginCount (fun _ => rfl) _ _
      have hlock : (loggedIn clk user).lockedUntil = none :=
        flushed_col User.touch User.lockedUntil (fun _ => rfl) _ _
      have hpair : pair.userId = user.id := hpair
      subst ho
      simp only [pairUser, hpair, Option.some.injEq]
      exact rowFollows_row hid ⟨hcount, hlock⟩ husers
    · subst ho
      exact rowFollows_same rfl

lemma login_follows (env : Env) (u : Ulid) (db : DB) (clk : Clock) (ord : RowOrder)
    (http : HttpRequest) (data : LoginRequest) (familyId : Ulid) (draw : TokenDraw) :
    RowFollows env clk u db (AuthCall.step env db ⟨clk, ord, http, .login data familyId draw⟩)
      (lockoutEvent env u db ⟨clk, ord, http, .login data familyId draw⟩) := by
  have hpath := login_path env clk db data http.clientIp http.userAgent familyId draw
  rw [lockoutEvent, cleared_login]
  simp only [failedVerification, AuthCall.handle, AuthCall.step]
  generalize ho : login env clk db data http.clientIp http.userAgent familyId draw = o
    at hpath ⊢
  clear ho
  cases hpath with
  | unbindable hb =>
    simp only [hb, pairUser, reduceCtorEq, if_false, Bool.false_eq_true]
    exact rowFollows_same rfl
  | refused hb hv =>
    obtain ⟨husers, _, hn⟩ := refused rfl
    rw [pairUser_of_noPair hn]
    simp only [hb, hv, if_true, reduceCtorEq, if_false]
    exact rowFollows_same husers
  | @failed user _ hb hv =>
    obtain ⟨husers, _, hn⟩ := refused rfl
    rw [pairUser_of_noPair hn]
    simp only [hb, hv, if_true, reduceCtorEq, if_false, Option.some.injEq]
    exact rowFollows_failure husers
  | verified hb hv =>
    simp only [hb, hv, if_true, reduceCtorEq, if_false]
    exact verified_follows rfl

/-- A request that sets a password clears the counter and the lock of its user. -/
lemma setPassword_follows {call : AuthCall} {db' : DB} (h : SetPassword env db call db')
    (hresp : call.handle env db = ⟨db', .ok none⟩) :
    RowFollows env call.clk u db db' (lockoutEvent env u db call) := by
  obtain ⟨user, row, hsets, _, hrow, husers, _⟩ := h
  have hevent : lockoutEvent env u db call = if user.id = u then .clear else .other := by
    rcases hsets with ⟨data, salt, hop, hident⟩ | ⟨data, salt, stored, hop, hst, huser⟩
    · simp only [lockoutEvent, failedVerification, cleared, hop, hresp, hident, reduceCtorEq,
        if_false, Option.some.injEq]
    · simp only [lockoutEvent, failedVerification, cleared, hop, hresp, hst, huser, reduceCtorEq,
        if_false, Option.map_some, Option.some.injEq]
  rw [hevent]
  exact rowFollows_row hrow.id ⟨hrow.failedLoginCount, hrow.lockedUntil⟩ husers

lemma noContent_follows {call : AuthCall} {body : Fallible DB}
    (hop : ∀ data familyId draw, call.op ≠ .login data familyId draw)
    (hresp : call.handle env db = .noContent db body)
    (h : ∀ db', body = .ok db' → SetPassword env db call db') :
    RowFollows env call.clk u db (call.step env db) (lockoutEvent env u db call) := by
  cases hbody : body with
  | error e =>
    rw [hbody] at hresp
    have hevent : lockoutEvent env u db call = .other := by
      obtain ⟨clk, ord, http, op⟩ := call
      cases op with
      | login data familyId draw => exact absurd rfl (hop data familyId draw)
      | _ =>
        simp only [lockoutEvent, failedVerification, cleared, hresp, Outcome.noContent,
          Outcome.transaction, Except.map, reduceCtorEq, if_false]
    rw [hevent]
    refine rowFollows_same ?_
    rw [AuthCall.step, hresp]
    rfl
  | ok db' =>
    rw [hbody] at hresp
    have hstep : call.step env db = db' := by
      rw [AuthCall.step, hresp]
      rfl
    rw [hstep]
    exact setPassword_follows (h db' hbody) hresp

lemma step_users_other {call : AuthCall}
    (hop : ∀ data familyId draw, call.op ≠ .login data familyId draw)
    (hset : ∀ user, ¬ SetsPassword env db call user) :
    (call.step env db).users = db.users := by
  cases handle_effect env db call with
  | idle h _ _ | revokedFamily _ _ h _ _ | expired _ _ _ _ h _ _ | rotated _ _ _ _ h _
  | loggedOut _ _ h _ _ => exact h
  | counted h _ _ _ _ | loggedIn h _ _ _ => exact absurd h (hop _ _ _)
  | passwordSet h _ _ _ _ _ => exact absurd h (hset _)

/-- **One request**: the counter and the lock of every user follow its event. -/
theorem row_follows (env : Env) (u : Ulid) (db : DB) (call : AuthCall) :
    RowFollows env call.clk u db (call.step env db) (lockoutEvent env u db call) := by
  obtain ⟨clk, ord, http, op⟩ := call
  cases op with
  | login data familyId draw => exact login_follows env u db clk ord http data familyId draw
  | confirmPasswordReset data salt =>
    exact noContent_follows nofun rfl fun db' h => confirmPasswordReset_sets rfl h
  | changePassword data salt =>
    refine noContent_follows nofun rfl fun db' h => ?_
    obtain ⟨ctx, hctx, h⟩ := bind_ok.mp h
    exact changePassword_sets rfl hctx h
  | refresh _ _ | logout _ | requestPasswordReset _ _ =>
    refine rowFollows_same (step_users_other nofun ?_)
    rintro user (⟨_, _, h, _⟩ | ⟨_, _, _, h, _⟩) <;> cases h

/-! ### The machine -/

/-- The counter of the user is below the threshold. -/
def CounterBelow (env : Env) (u : Ulid) (db : DB) : Prop :=
  ∀ user, getUser db u = some user → user.failedLoginCount < env.loginMaxFailedAttempts

lemma follows_count {user user' : User} {e : Event} (h : Follows env clk user user' e) :
    user'.failedLoginCount = tally env.loginMaxFailedAttempts user.failedLoginCount e := by
  cases e with
  | hit =>
    rw [h.1, countFailure, tally]
    split <;> rfl
  | clear | other => exact h.1

lemma follows_lock {user user' : User} {e : Event} (h : Follows env clk user user' e) :
    user'.lockedUntil =
      if Trips env.loginMaxFailedAttempts user.failedLoginCount e then some (lockEnd env clk)
      else if e = .clear then none else user.lockedUntil := by
  cases e with
  | hit =>
    rw [h.2, countFailure]
    by_cases hmax : env.loginMaxFailedAttempts ≤ user.failedLoginCount + 1
    · rw [if_pos hmax, if_pos ⟨rfl, hmax⟩]
      rfl
    · rw [if_neg hmax, if_neg fun h => hmax h.2, if_neg (by decide)]
  | clear => rw [h.2, if_neg (by simp [Trips]), if_pos rfl]
  | other => rw [h.2, if_neg (by simp [Trips]), if_neg (by decide)]

lemma locked_noPair {call : AuthCall} {data : LoginRequest} {familyId : Ulid} {draw : TokenDraw}
    {user : User} {t : Instant} (hop : call.op = .login data familyId draw)
    (hfind : findUser env db data.identifier = some user) (ht : user.lockedUntil = some t)
    (hlt : call.clk.now < t) : NoPair (call.handle env db).response := by
  have hpath := login_path env call.clk db data call.http.clientIp call.http.userAgent familyId
    draw
  simp only [AuthCall.handle, hop]
  generalize login env call.clk db data call.http.clientIp call.http.userAgent familyId draw = o
    at hpath ⊢
  cases hpath with
  | unbindable hb => exact noPair_error _
  | refused hb hv | failed hb hv => exact (refused rfl).2.2
  | verified hb hv =>
    obtain ⟨hfound, hl⟩ := verification_found hv
    obtain rfl := Option.some.inj (hfound.symm.trans hfind)
    simp [isLocked, ht, hlt] at hl

lemma lockoutStep (call : AuthCall) (hmax : 1 ≤ env.loginMaxFailedAttempts)
    (hcount : CounterBelow env u db) : LockoutStep env u db call where
  row := by
    intro user hu
    obtain ⟨user', hu', hf⟩ := row_follows env u db call user hu
    have hlt : user.failedLoginCount < env.loginMaxFailedAttempts := hcount user hu
    have hlt' : user'.failedLoginCount < env.loginMaxFailedAttempts := by
      rw [follows_count hf]
      exact tally_lt hmax hlt _
    exact ⟨user', hu', follows_count hf, hlt, hlt', follows_lock hf⟩
  locked := fun _ _ _ _ _ _ ht hlt hop hfind => locked_noPair hop hfind ht hlt

lemma step_userIds (env : Env) (db : DB) (call : AuthCall) :
    (call.step env db).users.map User.id = db.users.map User.id := by
  have hflush : ∀ old new : User, (flushed User.touch old new).id = new.id :=
    flushed_col User.touch User.id fun _ => rfl
  cases handle_effect env db call with
  | idle h _ _ | revokedFamily _ _ h _ _ | expired _ _ _ _ h _ _ | rotated _ _ _ _ h _
  | loggedOut _ _ h _ _ => exact congrArg _ h
  | counted _ _ h _ _ =>
    refine (congrArg _ h).trans (Tables.map_set User.id (fun fresh => ?_) _)
    rw [hflush, countFailure]
    split <;> rfl
  | @loggedIn _ _ _ user _ _ _ _ h _ =>
    have hid : (loggedIn call.clk user).id = user.id := hflush _ _
    exact (congrArg _ h).trans (Tables.map_key_set_row hid _)
  | passwordSet _ _ hrow h _ _ => exact (congrArg _ h).trans (Tables.map_key_set_row hrow.id _)

lemma counterBelow_step {call : AuthCall} (hmax : 1 ≤ env.loginMaxFailedAttempts)
    (hcount : CounterBelow env u db) : CounterBelow env u (call.step env db) := by
  intro user' hu'
  have hids : ∀ db : DB, (getUser db u).isSome ↔ u ∈ db.users.map User.id := by
    intro db
    simp only [getUser, Tables.get_isSome, List.mem_map]
  have hold : (getUser db u).isSome := by
    rw [hids, ← step_userIds env db call, ← hids, hu']
    rfl
  obtain ⟨user, hu⟩ := Option.isSome_iff_exists.mp hold
  obtain ⟨row, hrow, _, _, hlt, _⟩ := (lockoutStep call hmax hcount).row user hu
  rw [hu'] at hrow
  rwa [Option.some.inj hrow]

/-- The events of a run. -/
def lockoutEvents (env : Env) (u : Ulid) : DB → List AuthCall → List Event
  | _, [] => []
  | db, call :: l => lockoutEvent env u db call :: lockoutEvents env u (call.step env db) l

/-- Over a run the counter is the tally of its events. -/
theorem run_row (env : Env) (l : List AuthCall) {user : User} (hu : getUser db u = some user) :
    ∃ user', getUser (Runs.run (AuthCall.step env) db l) u = some user' ∧
      user'.failedLoginCount = Runs.run (tally env.loginMaxFailedAttempts) user.failedLoginCount
        (lockoutEvents env u db l) := by
  induction l generalizing db user with
  | nil => exact ⟨user, hu, rfl⟩
  | cons call l ih =>
    obtain ⟨user1, hu1, hf⟩ := row_follows env u db call user hu
    obtain ⟨user', hu', hrun⟩ := ih hu1
    refine ⟨user', hu', ?_⟩
    rw [hrun, follows_count hf]
    rfl

/-- **The lockout machine** over a run: every request does its step, every attempt is logged, and
from a state in which the count starts, the lock is set by the failed verification that makes
the threshold and by no request before it. -/
structure LockoutRun (env : Env) (u : Ulid) (db : DB) (l : List AuthCall) : Prop where
  step : Runs.Along (AuthCall.step env) (LockoutStep env u) db l
  logged : Runs.Along (AuthCall.step env) (AttemptLogged env) db l
  locks : ∀ before since call after start, l = before ++ (since ++ call :: after) →
    getUser (Runs.run (AuthCall.step env) db before) u = some start →
    start.failedLoginCount = 0 →
    (∀ e ∈ lockoutEvents env u (Runs.run (AuthCall.step env) db before) since, e ≠ .clear) →
    (lockoutEvents env u (Runs.run (AuthCall.step env) db before) since).count .hit <
      env.loginMaxFailedAttempts →
    ∃ user, getUser (Runs.run (AuthCall.step env) db (before ++ since)) u = some user ∧
      (Trips env.loginMaxFailedAttempts user.failedLoginCount
          (lockoutEvent env u (Runs.run (AuthCall.step env) db (before ++ since)) call) ↔
        lockoutEvent env u (Runs.run (AuthCall.step env) db (before ++ since)) call = .hit ∧
        (lockoutEvents env u (Runs.run (AuthCall.step env) db before) since).count .hit + 1 =
          env.loginMaxFailedAttempts)

/-- **Account lockout**: the machine runs as stated, with the attempt log, exactly in the runs
whose logins are all loggable. -/
theorem lockout {l : List AuthCall} (hmax : 1 ≤ env.loginMaxFailedAttempts)
    (hcount : CounterBelow env u db) :
    LockoutRun env u db l ↔ Runs.Along (AuthCall.step env) (Loggable env) db l := by
  refine ⟨fun h => h.logged.imp fun db call => (attemptLogged_iff env db call).mp,
    fun h => ⟨?_, h.imp fun db call => (attemptLogged_iff env db call).mpr, ?_⟩⟩
  · exact Runs.along_of_invariant (I := CounterBelow env u)
      (fun _ _ _ hi => counterBelow_step hmax hi) (fun _ call _ hi => lockoutStep call hmax hi) h
      hcount
  · intro before since call after start _ hstart hzero hc hl
    rw [Runs.run_append]
    obtain ⟨user, hu, hrun⟩ := run_row env since hstart
    rw [hzero] at hrun
    refine ⟨user, hu, ?_⟩
    rw [hrun]
    refine ⟨fun ht => ⟨ht.1, ?_⟩, fun ⟨he, hn⟩ => ⟨he, ?_⟩⟩
    · exact (trips_after hc hl).mp ⟨rfl, ht.2⟩
    · exact ((trips_after hc hl).mpr hn).2

/-! ### Two logins -/

/-- The login with a user agent of 401 characters. -/
def longAgentCall : AuthCall :=
  { loginCall with
    http := ⟨some 1, none, "r", some "127.0.0.1", some (String.ofList (.replicate 401 'x'))⟩ }

/-- The login of one account. -/
theorem oneAccount_lockout : LockoutRun .plain 1 oneAccount [loginCall] := by
  refine (lockout (by decide) fun user hu => ?_).mpr ⟨fun data familyId draw hop => ?_, trivial⟩
  · obtain rfl := Option.some.inj ((show getUser oneAccount 1 = some _ from rfl).symm.trans hu)
    decide
  · obtain ⟨rfl, rfl, rfl⟩ := AuthOp.login.inj hop
    exact ⟨by decide, by decide, fun _ _ => ⟨by decide, nofun⟩⟩

/-- The attempt is logged as a success, and no tokens are issued. -/
theorem oneAccount_longAgent : ¬ ∀ (env : Env) (u : Ulid) (db : DB) (l : List AuthCall),
    1 ≤ env.loginMaxFailedAttempts → CounterBelow env u db → LockoutRun env u db l := by
  intro h
  have hrun : LockoutRun .plain 1 oneAccount [longAgentCall] := by
    refine h _ _ _ _ (by decide) fun user hu => ?_
    obtain rfl := Option.some.inj ((show getUser oneAccount 1 = some _ from rfl).symm.trans hu)
    decide
  have hlog : Loggable .plain oneAccount longAgentCall :=
    (attemptLogged_iff _ _ _).mp hrun.logged.1
  have hverified : verification .plain longAgentCall.clk oneAccount
      ⟨"a@b.c", "correct1", by decide, by decide⟩ =
        some (User.new 1 (some "a@b.c") none (some "$correct1") .active none, true) := rfl
  have hlen : (String.ofList (.replicate 401 'x')).length = 401 := by
    rw [String.length_ofList, List.length_replicate]
  have hfit : varchar 400 (some (String.ofList (.replicate 401 'x'))) = true :=
    ((hlog _ _ _ rfl).2.2 _ hverified).1
  rw [varchar, hlen, Bool.and_eq_true, decide_eq_true_eq] at hfit
  omega

end SchoolOs
