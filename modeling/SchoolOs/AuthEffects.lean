import SchoolOs.Auth

/-!
What an authentication request can do to users and refresh tokens: eight effects, from which
the results about sessions and accounts are derived without looking at the code again.
-/

namespace SchoolOs

variable {env : Env} {clk : Clock} {db : DB}

/-- The request issued no tokens. -/
def NoPair (r : Fallible (Option TokenPair)) : Prop := ∀ pair, r ≠ .ok (some pair)

/-- A token that is neither rotated nor revoked. -/
def RefreshToken.Live (t : RefreshToken) : Prop := t.rotatedAt = none ∧ t.revokedAt = none

instance (t : RefreshToken) : Decidable t.Live := inferInstanceAs (Decidable (_ ∧ _))

/-- The row of a user who set a new password: the same account, its counter and lock cleared. -/
structure NewPassword (user row : User) : Prop where
  id : row.id = user.id
  isPlatformAdmin : row.isPlatformAdmin = user.isPlatformAdmin
  failedLoginCount : row.failedLoginCount = 0
  lockedUntil : row.lockedUntil = none

/-- The request sets a new password for the user: a change by the user, or a reset with a token
of the user. -/
def SetsPassword (env : Env) (db : DB) (call : AuthCall) (user : User) : Prop :=
  (∃ data salt, call.op = .changePassword data salt ∧ call.http.identity = some user.id) ∨
    ∃ data salt stored, call.op = .confirmPasswordReset data salt ∧
      Tables.get PasswordResetToken.tokenHash (env.hashRefreshToken data.token)
        db.passwordResetTokens = some stored ∧ stored.userId = user.id

/-- The effects of a request on the users and the refresh tokens, with the answer. -/
inductive AuthEffect (env : Env) (db : DB) (call : AuthCall) :
    DB → Fallible (Option TokenPair) → Prop
  /-- Refused, or successful without a trace in the two tables. -/
  | idle {db' : DB} {r : Fallible (Option TokenPair)} : db'.users = db.users →
      db'.refreshTokens = db.refreshTokens → NoPair r → AuthEffect env db call db' r
  /-- A failed password verification. -/
  | counted {data : LoginRequest} {familyId : Ulid} {draw : TokenDraw} {user : User} {db' : DB}
      {r : Fallible (Option TokenPair)} : call.op = .login data familyId draw →
      user ∈ db.users → db'.users = (registerFailure env call.clk db user.id).users →
      db'.refreshTokens = db.refreshTokens → NoPair r → AuthEffect env db call db' r
  /-- A login. -/
  | loggedIn {data : LoginRequest} {familyId : Ulid} {draw : TokenDraw} {user : User} {db' : DB}
      {r : Fallible (Option TokenPair)} : call.op = .login data familyId draw → user ∈ db.users →
      db'.users =
        Tables.set User.id user.id (fun _ => SchoolOs.loggedIn call.clk user) db.users →
      db'.refreshTokens = db.refreshTokens ++ [buildRefreshToken env call.clk user.id familyId
        call.http.clientIp call.http.userAgent draw] →
      AuthEffect env db call db' r
  /-- A refused refresh that takes its family along: the token is spent, or its user is gone. -/
  | revokedFamily {data : RefreshRequest} {draw : TokenDraw} {stored : RefreshToken} {db' : DB}
      {r : Fallible (Option TokenPair)} : call.op = .refresh data draw →
      findToken env db data.refreshToken = some stored → db'.users = db.users →
      db'.refreshTokens =
        (revokeFamilyDurable call.clk db stored.sessionFamilyId).refreshTokens →
      NoPair r → AuthEffect env db call db' r
  /-- A refresh with an expired token. -/
  | expired {data : RefreshRequest} {draw : TokenDraw} {stored : RefreshToken} {db' : DB}
      {r : Fallible (Option TokenPair)} : call.op = .refresh data draw →
      findToken env db data.refreshToken = some stored → stored.Live →
      stored.expiresAt ≤ call.clk.now → db'.users = db.users →
      db'.refreshTokens = (revokeTokenDurable call.clk db stored.id).refreshTokens → NoPair r →
      AuthEffect env db call db' r
  /-- An exchange. -/
  | rotated {data : RefreshRequest} {draw : TokenDraw} {stored : RefreshToken} {db' : DB}
      {r : Fallible (Option TokenPair)} : call.op = .refresh data draw →
      findToken env db data.refreshToken = some stored → stored.Live →
      call.clk.now < stored.expiresAt → db'.users = db.users →
      db'.refreshTokens =
        Tables.set RefreshToken.id stored.id (RefreshToken.rotate call.clk) db.refreshTokens ++
          [buildRefreshToken env call.clk stored.userId stored.sessionFamilyId
            call.http.clientIp call.http.userAgent draw] →
      AuthEffect env db call db' r
  /-- A logout with a token that is known. -/
  | loggedOut {data : LogoutRequest} {stored : RefreshToken} {db' : DB}
      {r : Fallible (Option TokenPair)} : call.op = .logout data →
      findToken env db data.refreshToken = some stored → db'.users = db.users →
      db'.refreshTokens = (revokeTokenDurable call.clk db stored.id).refreshTokens → NoPair r →
      AuthEffect env db call db' r
  /-- A new password, by change or by reset. -/
  | passwordSet {user row : User} {db' : DB} {r : Fallible (Option TokenPair)} :
      SetsPassword env db call user → getUser db user.id = some user → NewPassword user row →
      db'.users = Tables.set User.id user.id (fun _ => row) db.users →
      db'.refreshTokens = (revokeAllUserSessions call.clk db user.id).refreshTokens →
      r = .ok none → AuthEffect env db call db' r

/-! ### Answers without tokens -/

lemma noPair_error (e : ApiError) : NoPair (.error e) := fun _ h => by cases h

lemma noPair_none : NoPair (.ok none) := fun _ h => by cases h

/-! ### The effects of the services -/

lemma recordAttempt_ok {userId : Option Ulid} {identifier : String} {ip : Option String}
    {success : Bool} {db' : DB} : recordAttempt clk db userId identifier ip success = .ok db' ↔
      (varchar 255 (some identifier) = true ∧ varchar 45 ip = true) ∧
        { db with loginAttempts := db.loginAttempts ++
          [⟨userId, identifier, ip, success, clk.now⟩] } = db' := by
  simp only [recordAttempt, bind_ok, ensure_ok, pure_ok]
  refine ⟨?_, ?_⟩
  · rintro ⟨_, h1, _, h2, h3⟩
    exact ⟨⟨h1, h2⟩, h3⟩
  · rintro ⟨⟨h1, h2⟩, h3⟩
    exact ⟨(), h1, (), h2, h3⟩

lemma recordAttempt_refused {userId : Option Ulid} {identifier : String} {ip : Option String}
    {success : Bool} (h : ¬ (varchar 255 (some identifier) = true ∧ varchar 45 ip = true)) :
    recordAttempt clk db userId identifier ip success = .error internalError := by
  by_cases hid : varchar 255 (some identifier) = true
  · have hip : ¬ varchar 45 ip = true := fun hip => h ⟨hid, hip⟩
    simp only [recordAttempt, ensure, if_pos hid, if_neg hip]
    rfl
  · simp only [recordAttempt, ensure, if_neg hid]
    rfl

/-- A refused login, its attempt recorded or not, leaves users and tokens as they were. -/
lemma refused {userId : Option Ulid} {identifier : String} {ip : Option String} {success : Bool}
    {e : ApiError} {o : Outcome TokenPair}
    (ho : (Outcome.after db (recordAttempt clk db userId identifier ip success)
      fun db => ⟨db, .error e⟩) = o) :
    o.db.users = db.users ∧ o.db.refreshTokens = db.refreshTokens ∧
      NoPair (o.response.map some) := by
  unfold Outcome.after at ho
  cases h : recordAttempt clk db userId identifier ip success with
  | error e' =>
    rw [h] at ho
    subst ho
    exact ⟨rfl, rfl, noPair_error e'⟩
  | ok db' =>
    rw [h] at ho
    obtain ⟨_, rfl⟩ := recordAttempt_ok.mp h
    subst ho
    exact ⟨rfl, rfl, noPair_error e⟩

lemma completeLogin_ok {user : User} {ip ua : Option String} {familyId : Ulid}
    {draw : TokenDraw} {r : TokenPair × DB}
    (h : completeLogin env clk db user ip ua familyId draw = .ok r) :
    r.2.users = Tables.set User.id user.id (fun _ => loggedIn clk user) db.users ∧
      r.2.refreshTokens = db.refreshTokens ++
        [buildRefreshToken env clk user.id familyId ip ua draw] ∧
      r.1.userId = user.id ∧ r.2.loginAttempts = db.loginAttempts := by
  simp only [completeLogin, bind_ok, audit_ok, pure_ok] at h
  obtain ⟨_, ⟨_, rfl⟩, _, _, rfl⟩ := h
  exact ⟨rfl, rfl, rfl, rfl⟩

lemma findUser_mem {identifier : String} {user : User}
    (h : findUser env db identifier = some user) : user ∈ db.users := by
  unfold findUser at h
  split at h <;> exact List.mem_of_find?_eq_some h

lemma login_effect {call : AuthCall} {data : LoginRequest} {familyId : Ulid} {draw : TokenDraw}
    {o : Outcome TokenPair} (hop : call.op = .login data familyId draw)
    (ho : login env call.clk db data call.http.clientIp call.http.userAgent familyId draw = o) :
    AuthEffect env db call o.db (o.response.map some) := by
  unfold login at ho
  split at ho
  · subst ho
    exact .idle rfl rfl (noPair_error _)
  split at ho
  · obtain ⟨hu, ht, hn⟩ := refused ho
    exact .idle hu ht hn
  next user hfind =>
  have hmem : user ∈ db.users := findUser_mem (Option.filter_eq_some_iff.mp hfind).1
  split at ho
  · obtain ⟨hu, ht, hn⟩ := refused ho
    exact .idle hu ht hn
  split at ho
  · obtain ⟨hu, ht, hn⟩ := refused ho
    exact .idle hu ht hn
  split at ho
  · obtain ⟨hu, ht, hn⟩ := refused ho
    exact .counted hop hmem hu ht hn
  -- The right password: the attempt is committed first, then the request transaction runs.
  unfold Outcome.after at ho
  cases hrec : recordAttempt call.clk db (some user.id) data.identifier call.http.clientIp
      true with
  | error e =>
    rw [hrec] at ho
    subst ho
    exact .idle rfl rfl (noPair_error e)
  | ok db1 =>
    rw [hrec] at ho
    obtain ⟨_, hdb1⟩ := recordAttempt_ok.mp hrec
    simp only [Outcome.transaction] at ho
    cases hdone : completeLogin env call.clk db1 user call.http.clientIp call.http.userAgent
        familyId draw with
    | error e =>
      rw [hdone] at ho
      subst ho hdb1
      exact .idle rfl rfl (noPair_error e)
    | ok r =>
      rw [hdone] at ho
      obtain ⟨hu, ht, _, _⟩ := completeLogin_ok hdone
      subst ho hdb1
      exact .loggedIn hop hmem hu ht

lemma rotate_ok {stored : RefreshToken} {ip ua : Option String} {draw : TokenDraw}
    {r : TokenPair × DB} (h : rotate env clk db stored ip ua draw = .ok r) :
    r.2.users = db.users ∧ r.2.refreshTokens =
      Tables.set RefreshToken.id stored.id (RefreshToken.rotate clk) db.refreshTokens ++
        [buildRefreshToken env clk stored.userId stored.sessionFamilyId ip ua draw] := by
  simp only [rotate, bind_ok, pure_ok] at h
  obtain ⟨_, _, rfl⟩ := h
  exact ⟨rfl, rfl⟩

lemma refresh_effect {call : AuthCall} {data : RefreshRequest} {draw : TokenDraw}
    {o : Outcome TokenPair} (hop : call.op = .refresh data draw)
    (ho : refresh env call.clk db data call.http.clientIp call.http.userAgent draw = o) :
    AuthEffect env db call o.db (o.response.map some) := by
  unfold refresh at ho
  split at ho
  · -- No such token.
    subst ho
    exact .idle rfl rfl (noPair_error _)
  next stored hfind =>
  split at ho
  · -- It was rotated or revoked before: the family ends.
    subst ho
    exact .revokedFamily hop hfind rfl rfl (noPair_error _)
  next hlive =>
  have hlive : stored.Live := by
    rw [not_or, not_not, not_not] at hlive
    exact ⟨hlive.2, hlive.1⟩
  split at ho
  · -- It is too old.
    next hexp =>
    subst ho
    exact .expired hop hfind hlive hexp rfl rfl (noPair_error _)
  next hexp =>
  split at ho
  · subst ho
    exact .revokedFamily hop hfind rfl rfl (noPair_error _)
  split at ho
  · subst ho
    exact .idle rfl rfl (noPair_error _)
  simp only [Outcome.transaction] at ho
  cases hdone : rotate env call.clk db stored call.http.clientIp call.http.userAgent draw with
  | error e =>
    -- The exchange is rolled back.
    rw [hdone] at ho
    subst ho
    exact .idle rfl rfl (noPair_error e)
  | ok r =>
    rw [hdone] at ho
    obtain ⟨hu, ht⟩ := rotate_ok hdone
    subst ho
    exact .rotated hop hfind hlive (not_le.mp hexp) hu ht

lemma noContent_effect {call : AuthCall} {body : Fallible DB}
    (h : ∀ db', body = .ok db' → AuthEffect env db call db' (.ok none)) :
    AuthEffect env db call (Outcome.noContent db body : Outcome (Option TokenPair)).db
      (Outcome.noContent db body).response := by
  cases hbody : body with
  | error e => exact .idle rfl rfl (noPair_error e)
  | ok db' => exact h db' hbody

lemma logout_effect {call : AuthCall} {ctx : RequestContext} {data : LogoutRequest} {db' : DB}
    (hop : call.op = .logout data) (h : logout env call.clk ctx db data = .ok db') :
    AuthEffect env db call db' (.ok none) := by
  unfold logout at h
  split at h
  · obtain rfl := pure_ok.mp h
    exact .idle rfl rfl noPair_none
  · next stored hfind =>
    obtain ⟨_, rfl⟩ := audit_ok.mp h
    exact .loggedOut hop hfind rfl rfl noPair_none

lemma requestPasswordReset_effect {call : AuthCall} {data : PasswordResetRequest}
    {ip : Option String} {draw : TokenDraw} {db' : DB}
    (h : requestPasswordReset env clk db data ip draw = .ok db') :
    AuthEffect env db call db' (.ok none) := by
  obtain ⟨_, _, h⟩ := bind_ok.mp h
  split at h
  · obtain rfl := pure_ok.mp h
    exact .idle rfl rfl noPair_none
  · obtain ⟨_, _, h⟩ := bind_ok.mp h
    obtain ⟨_, rfl⟩ := audit_ok.mp h
    exact .idle rfl rfl noPair_none

lemma newPassword (env : Env) (clk : Clock) (user : User) (new : String) (salt : ℕ)
    (status : UserStatus) : NewPassword user (flushed User.touch user
      { withPassword env clk user new salt with status := status }) where
  id := flushed_col User.touch User.id (fun _ => rfl) _ _
  isPlatformAdmin := flushed_col User.touch User.isPlatformAdmin (fun _ => rfl) _ _
  failedLoginCount := flushed_col User.touch User.failedLoginCount (fun _ => rfl) _ _
  lockedUntil := flushed_col User.touch User.lockedUntil (fun _ => rfl) _ _

lemma getUser_self {u : Ulid} {user : User} (h : getUser db u = some user) :
    user.id = u ∧ getUser db user.id = some user := by
  have hid := (Tables.get_mem h).2
  exact ⟨hid, hid.symm ▸ h⟩

/-- What a request that sets a password leaves. -/
def SetPassword (env : Env) (db : DB) (call : AuthCall) (db' : DB) : Prop :=
  ∃ user row, SetsPassword env db call user ∧ getUser db user.id = some user ∧
    NewPassword user row ∧ db'.users = Tables.set User.id user.id (fun _ => row) db.users ∧
    db'.refreshTokens = (revokeAllUserSessions call.clk db user.id).refreshTokens

lemma SetPassword.effect {call : AuthCall} {db' : DB} (h : SetPassword env db call db') :
    AuthEffect env db call db' (.ok none) := by
  obtain ⟨user, row, hsets, hu, hrow, husers, htok⟩ := h
  exact .passwordSet hsets hu hrow husers htok rfl

lemma confirmPasswordReset_sets {call : AuthCall} {data : PasswordResetConfirm} {salt : ℕ}
    {ip : Option String} {db' : DB} (hop : call.op = .confirmPasswordReset data salt)
    (h : confirmPasswordReset env call.clk db data ip salt = .ok db') :
    SetPassword env db call db' := by
  simp only [confirmPasswordReset, bind_ok, found_ok, audit_ok] at h
  obtain ⟨stored, hst, _, _, user, hu, _, _, _, rfl⟩ := h
  obtain ⟨hid, hu⟩ := getUser_self hu
  exact ⟨user, _, .inr ⟨data, salt, stored, hop, hst, hid.symm⟩, hu,
    newPassword env call.clk user data.newPassword salt .active, rfl, rfl⟩

lemma changePassword_sets {call : AuthCall} {ctx : RequestContext} {data : PasswordChange}
    {salt : ℕ} {db' : DB} (hop : call.op = .changePassword data salt)
    (hctx : requireAuthenticated db call.ord call.clk call.http = .ok ctx)
    (h : changePassword env call.clk ctx db data salt = .ok db') :
    SetPassword env db call db' := by
  obtain ⟨u, p, hident, hres, rfl⟩ := requireAuthenticated_ok.mp hctx
  simp only [changePassword, bind_ok, found_ok, audit_ok] at h
  obtain ⟨user, hu, _, _, _, rfl⟩ := h
  obtain ⟨hid, hu⟩ := getUser_self (show getUser db p.userId = some user from hu)
  refine ⟨user, _, .inl ⟨data, salt, hop, ?_⟩, hu,
    newPassword env call.clk user data.newPassword salt user.status, rfl, rfl⟩
  rw [hident, hid, resolvePrincipal_userId hres]

/-- **Eight effects**: what every request of the authentication routes does to users and refresh
tokens, and when it answers with a pair. -/
theorem handle_effect (env : Env) (db : DB) (call : AuthCall) :
    AuthEffect env db call (call.handle env db).db (call.handle env db).response := by
  obtain ⟨clk, ord, http, op⟩ := call
  cases op with
  | login data familyId draw => exact login_effect rfl rfl
  | refresh data draw => exact refresh_effect rfl rfl
  | logout data =>
    refine noContent_effect fun db' h => ?_
    obtain ⟨ctx, _, h⟩ := bind_ok.mp h
    exact logout_effect rfl h
  | requestPasswordReset data draw =>
    exact noContent_effect fun db' h => requestPasswordReset_effect h
  | confirmPasswordReset data salt =>
    exact noContent_effect fun db' h => (confirmPasswordReset_sets rfl h).effect
  | changePassword data salt =>
    refine noContent_effect fun db' h => ?_
    obtain ⟨ctx, hctx, h⟩ := bind_ok.mp h
    exact (changePassword_sets rfl hctx h).effect

end SchoolOs
