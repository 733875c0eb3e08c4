import SchoolOs.Users

/-!
Authentication: login, refresh rotation, logout and password resets, each request atomic.

The request transaction is rolled back when the request fails; the failed-login counter, the
attempt log and the revocations of a refused refresh are committed independently of it.
-/

namespace SchoolOs

/-! ### Payloads and answers -/

structure LoginRequest where
  identifier : String
  password : String
  identifier_length : 1 ≤ identifier.length ∧ identifier.length ≤ 255
  password_length : 1 ≤ password.length ∧ password.length ≤ 128

structure RefreshRequest where
  refreshToken : String
  refreshToken_length : 1 ≤ refreshToken.length

structure LogoutRequest where
  refreshToken : String
  refreshToken_length : 1 ≤ refreshToken.length

structure PasswordResetRequest where
  identifier : String
  identifier_length : 1 ≤ identifier.length ∧ identifier.length ≤ 255

structure PasswordResetConfirm where
  token : String
  newPassword : String
  token_length : 1 ≤ token.length
  newPassword_length : 8 ≤ newPassword.length ∧ newPassword.length ≤ 128

structure PasswordChange where
  currentPassword : String
  newPassword : String
  currentPassword_length : 1 ≤ currentPassword.length ∧ currentPassword.length ≤ 128
  newPassword_length : 8 ≤ newPassword.length ∧ newPassword.length ≤ 128

/-- The access token carries identity only. -/
structure AccessToken where
  sub : Ulid
  iat : Instant
  exp : Instant
  deriving DecidableEq

structure TokenPair where
  accessToken : AccessToken
  refreshToken : String
  expiresIn : ℕ
  userId : Ulid
  email : Option String
  phone : Option String
  deriving DecidableEq

/-- What an issued refresh token draws: its row id and the raw token. -/
structure TokenDraw where
  id : Ulid
  raw : String

/-- What a request leaves committed, and what it answers. -/
structure Outcome (α : Type) where
  db : DB
  response : Fallible α

/-- A request transaction over `db`: committed when it goes through, else rolled back. -/
def Outcome.transaction {α : Type} (db : DB) (body : Fallible (α × DB)) : Outcome α :=
  match body with
  | .ok (a, db') => ⟨db', .ok a⟩
  | .error e => ⟨db, .error e⟩

/-- A request transaction that answers with an empty success. -/
def Outcome.noContent {α : Type} (db : DB) (body : Fallible DB) : Outcome (Option α) :=
  .transaction db (body.map fun db' => (none, db'))

/-- Durable bookkeeping, after which the request goes on. -/
def Outcome.after {α : Type} (db : DB) (bookkeeping : Fallible DB) (rest : DB → Outcome α) :
    Outcome α :=
  match bookkeeping with
  | .ok db' => rest db'
  | .error e => ⟨db, .error e⟩

section Service

variable (env : Env) (clk : Clock)

/-! ### Refresh tokens -/

def createAccessToken (userId : Ulid) : AccessToken :=
  ⟨userId, clk.now, clk.now + seconds env.accessTokenExpireSeconds⟩

def buildRefreshToken (userId familyId : Ulid) (ipAddress userAgent : Option String)
    (draw : TokenDraw) : RefreshToken where
  id := draw.id
  userId := userId
  tokenDigest := env.hashRefreshToken draw.raw
  sessionFamilyId := familyId
  expiresAt := clk.now + seconds env.refreshTokenExpireSeconds
  rotatedAt := none
  revokedAt := none
  userAgent := userAgent
  ipAddress := ipAddress

/-- The table takes the token: fresh keys, and texts that fit. -/
def TokenStorable (tokens : List RefreshToken) (token : RefreshToken) : Prop :=
  Tables.Inserts RefreshToken.id [token] tokens ∧
    Tables.Inserts RefreshToken.tokenDigest [token] tokens ∧
    varchar 400 token.userAgent = true ∧ varchar 45 token.ipAddress = true

instance (tokens : List RefreshToken) (token : RefreshToken) :
    Decidable (TokenStorable tokens token) := inferInstanceAs (Decidable (_ ∧ _ ∧ _ ∧ _))

def findToken (db : DB) (refreshToken : String) : Option RefreshToken :=
  Tables.get RefreshToken.tokenDigest (env.hashRefreshToken refreshToken) db.refreshTokens

def RefreshToken.revoke (t : RefreshToken) : RefreshToken := { t with revokedAt := some clk.now }
def RefreshToken.rotate (t : RefreshToken) : RefreshToken := { t with rotatedAt := some clk.now }

def revokeTokenDurable (db : DB) (tokenId : Ulid) : DB :=
  { db with
    refreshTokens := Tables.set RefreshToken.id tokenId (RefreshToken.revoke clk)
      db.refreshTokens }

def revokeFamilyDurable (db : DB) (familyId : Ulid) : DB :=
  { db with
    refreshTokens := Tables.setWhere (·.sessionFamilyId = familyId) (RefreshToken.revoke clk)
      db.refreshTokens }

def revokeAllUserSessions (db : DB) (userId : Ulid) : DB :=
  { db with
    refreshTokens := Tables.setWhere (fun t => t.userId = userId ∧ t.revokedAt = none)
      (RefreshToken.revoke clk) db.refreshTokens }

/-! ### Login -/

def findUser (db : DB) (identifier : String) : Option User :=
  if '@' ∈ identifier.toList then getByEmail env db identifier else getByPhone db identifier

def isLocked (user : User) : Bool := user.lockedUntil.any (clk.now < ·)

def passwordOk (user : User) (password : String) : Bool :=
  truthy user.passwordHash && user.passwordHash.any (env.verifyPassword · password)

def recordAttempt (db : DB) (userId : Option Ulid) (identifier : String)
    (ipAddress : Option String) (success : Bool) : Fallible DB := do
  ensure (varchar 255 (some identifier) = true) internalError
  ensure (varchar 45 ipAddress = true) internalError
  return { db with
    loginAttempts := db.loginAttempts ++ [⟨userId, identifier, ipAddress, success, clk.now⟩] }

/-- The counter and the lock after one more failure. -/
def countFailure (user : User) : User :=
  if env.loginMaxFailedAttempts ≤ user.failedLoginCount + 1 then
    { user with
      lockedUntil := some (clk.now + seconds (env.loginLockoutMinutes * 60))
      failedLoginCount := 0 }
  else { user with failedLoginCount := user.failedLoginCount + 1 }

/-- The transaction of `_register_failure` on the user row. -/
def registerFailure (db : DB) (userId : Ulid) : DB :=
  { db with
    users := Tables.set User.id userId
      (fun fresh => flushed User.touch fresh (countFailure env clk fresh)) db.users }

/-- The user row a successful login flushes. -/
def loggedIn (user : User) : User :=
  flushed User.touch user
    { user with failedLoginCount := 0, lockedUntil := none, lastLoginAt := some clk.now }

def tokenPair (user : User) (draw : TokenDraw) : TokenPair where
  accessToken := createAccessToken env clk user.id
  refreshToken := draw.raw
  expiresIn := env.accessTokenExpireSeconds
  userId := user.id
  email := user.email
  phone := user.phone

/-- The rest of a login with the right password, in the request transaction: the user row, the
audit row, and the token of a new session family. -/
def completeLogin (db : DB) (user : User) (ipAddress userAgent : Option String)
    (familyId : Ulid) (draw : TokenDraw) : Fallible (TokenPair × DB) := do
  let db' ← audit env (systemCtx ipAddress)
    { action := "LOGIN_SUCCESS", entityType := "user", entityId := some user.id }
    { db with users := Tables.set User.id user.id (fun _ => loggedIn clk user) db.users }
  let token := buildRefreshToken env clk user.id familyId ipAddress userAgent draw
  ensure (TokenStorable db'.refreshTokens token) internalError
  return (tokenPair env clk user draw, { db' with refreshTokens := db'.refreshTokens ++ [token] })

def login (db : DB) (data : LoginRequest) (ipAddress userAgent : Option String)
    (familyId : Ulid) (draw : TokenDraw) : Outcome TokenPair :=
  if bindable data.identifier = false then ⟨db, .error internalError⟩
  else match (findUser env db data.identifier).filter (·.deletedAt = none) with
    | none =>
      .after db (recordAttempt clk db none data.identifier ipAddress false) fun db =>
        ⟨db, .error authenticationError⟩
    | some user =>
      if isLocked clk user then
        .after db (recordAttempt clk db (some user.id) data.identifier ipAddress false) fun db =>
          ⟨db, .error authenticationError⟩
      else if user.status ≠ .active then
        .after db (recordAttempt clk db (some user.id) data.identifier ipAddress false) fun db =>
          ⟨db, .error accountInactiveError⟩
      else if passwordOk env user data.password = false then
        let db := registerFailure env clk db user.id
        .after db (recordAttempt clk db (some user.id) data.identifier ipAddress false) fun db =>
          ⟨db, .error authenticationError⟩
      else
        .after db (recordAttempt clk db (some user.id) data.identifier ipAddress true) fun db =>
          .transaction db (completeLogin env clk db user ipAddress userAgent familyId draw)

/-! ### Refresh and logout -/

/-- The exchange of a live token: mark it rotated, issue the next one of its family. -/
def rotate (db : DB) (stored : RefreshToken) (ipAddress userAgent : Option String)
    (draw : TokenDraw) : Fallible (TokenPair × DB) := do
  let rotated := Tables.set RefreshToken.id stored.id (RefreshToken.rotate clk) db.refreshTokens
  let token := buildRefreshToken env clk stored.userId stored.sessionFamilyId ipAddress userAgent
    draw
  ensure (TokenStorable rotated token) internalError
  return (⟨createAccessToken env clk stored.userId, draw.raw, env.accessTokenExpireSeconds,
    stored.userId, none, none⟩, { db with refreshTokens := rotated ++ [token] })

def refresh (db : DB) (data : RefreshRequest) (ipAddress userAgent : Option String)
    (draw : TokenDraw) : Outcome TokenPair :=
  match findToken env db data.refreshToken with
  | none => ⟨db, .error authenticationError⟩
  | some stored =>
    if stored.revokedAt ≠ none ∨ stored.rotatedAt ≠ none then
      ⟨revokeFamilyDurable clk db stored.sessionFamilyId, .error authenticationError⟩
    else if stored.expiresAt ≤ clk.now then
      ⟨revokeTokenDurable clk db stored.id, .error authenticationError⟩
    else match (getUser db stored.userId).filter (·.deletedAt = none) with
      | none => ⟨revokeFamilyDurable clk db stored.sessionFamilyId, .error authenticationError⟩
      | some user =>
        if user.status ≠ .active then ⟨db, .error accountInactiveError⟩
        else .transaction db (rotate env clk db stored ipAddress userAgent draw)

def logout (ctx : RequestContext) (db : DB) (data : LogoutRequest) : Fallible DB :=
  match findToken env db data.refreshToken with
  | none => return db
  | some stored => audit env ctx
    { action := "LOGOUT", entityType := "user", entityId := some stored.userId }
    (revokeTokenDurable clk db stored.id)

/-! ### Passwords -/

def passwordResetTtlMinutes : ℕ := 30

/-- The table takes the reset token. -/
def ResetTokenStorable (tokens : List PasswordResetToken) (token : PasswordResetToken) : Prop :=
  Tables.Inserts PasswordResetToken.id [token] tokens ∧
    Tables.Inserts PasswordResetToken.tokenHash [token] tokens ∧
    varchar 45 token.requestedIp = true

instance (tokens : List PasswordResetToken) (token : PasswordResetToken) :
    Decidable (ResetTokenStorable tokens token) := inferInstanceAs (Decidable (_ ∧ _ ∧ _))

def requestPasswordReset (db : DB) (data : PasswordResetRequest) (ipAddress : Option String)
    (draw : TokenDraw) : Fallible DB := do
  ensure (bindable data.identifier = true) internalError
  match (findUser env db data.identifier).filter (·.status = .active) with
  | none => return db
  | some user =>
    let token : PasswordResetToken := ⟨draw.id, user.id, env.hashRefreshToken draw.raw,
      clk.now + seconds (passwordResetTtlMinutes * 60), none, ipAddress⟩
    ensure (ResetTokenStorable db.passwordResetTokens token) internalError
    audit env (systemCtx ipAddress)
      { action := "PASSWORD_RESET_REQUESTED", entityType := "user", entityId := some user.id }
      { db with passwordResetTokens := db.passwordResetTokens ++ [token] }

def resetInvalid : ApiError :=
  authenticationErrorWith "This reset link is invalid or has expired."

/-- The row of a user who set a new password. -/
def withPassword (user : User) (newPassword : String) (salt : ℕ) : User :=
  { user with
    passwordHash := some (env.hashPassword salt newPassword)
    passwordChangedAt := some clk.now
    mustChangePassword := false
    failedLoginCount := 0
    lockedUntil := none }

/-- The presented reset token and every other open one of the user. -/
def consumeResetTokens (db : DB) (stored : PasswordResetToken) (userId : Ulid) :
    List PasswordResetToken :=
  Tables.setWhere (fun t => t.id = stored.id ∨ t.userId = userId ∧ t.consumedAt = none)
    (fun t => { t with consumedAt := some clk.now }) db.passwordResetTokens

def confirmPasswordReset (db : DB) (data : PasswordResetConfirm) (ipAddress : Option String)
    (salt : ℕ) : Fallible DB := do
  let stored ← found
    (Tables.get PasswordResetToken.tokenHash (env.hashRefreshToken data.token)
      db.passwordResetTokens) resetInvalid
  ensure (stored.consumedAt = none ∧ clk.now < stored.expiresAt) resetInvalid
  let user ← found (getUser db stored.userId) resetInvalid
  ensure (user.deletedAt = none) resetInvalid
  let row := flushed User.touch user
    { withPassword env clk user data.newPassword salt with status := .active }
  audit env (systemCtx ipAddress)
    { action := "PASSWORD_RESET_CONFIRMED", entityType := "user", entityId := some user.id }
    { revokeAllUserSessions clk db user.id with
      users := Tables.set User.id user.id (fun _ => row) db.users
      passwordResetTokens := consumeResetTokens clk db stored user.id }

def changePassword (ctx : RequestContext) (db : DB) (data : PasswordChange) (salt : ℕ) :
    Fallible DB := do
  let wrong := authenticationErrorWith "The current password is incorrect."
  let user ← found (ctx.userId.bind (getUser db)) wrong
  ensure (passwordOk env user data.currentPassword = true) wrong
  let row := flushed User.touch user (withPassword env clk user data.newPassword salt)
  audit env ctx
    { action := "PASSWORD_CHANGED", entityType := "user", entityId := some user.id }
    { revokeAllUserSessions clk db user.id with
      users := Tables.set User.id user.id (fun _ => row) db.users }

end Service

/-! ### Requests -/

/-- A request of the authentication routes, with what it draws. -/
inductive AuthOp
  | login (data : LoginRequest) (familyId : Ulid) (draw : TokenDraw)
  | refresh (data : RefreshRequest) (draw : TokenDraw)
  | logout (data : LogoutRequest)
  | requestPasswordReset (data : PasswordResetRequest) (draw : TokenDraw)
  | confirmPasswordReset (data : PasswordResetConfirm) (salt : ℕ)
  | changePassword (data : PasswordChange) (salt : ℕ)

/-- A request as it arrives. -/
structure AuthCall where
  clk : Clock
  ord : RowOrder
  http : HttpRequest
  op : AuthOp

/-- What the request leaves and answers: a token pair, or an empty success. -/
def AuthCall.handle (env : Env) (db : DB) (call : AuthCall) : Outcome (Option TokenPair) :=
  match call.op with
  | .login data familyId draw =>
    let o := login env call.clk db data call.http.clientIp call.http.userAgent familyId draw
    ⟨o.db, o.response.map some⟩
  | .refresh data draw =>
    let o := refresh env call.clk db data call.http.clientIp call.http.userAgent draw
    ⟨o.db, o.response.map some⟩
  | .logout data => .noContent db do
    let ctx ← requireAuthenticated db call.ord call.clk call.http
    logout env call.clk ctx db data
  | .requestPasswordReset data draw =>
    .noContent db (requestPasswordReset env call.clk db data call.http.clientIp draw)
  | .confirmPasswordReset data salt =>
    .noContent db (confirmPasswordReset env call.clk db data call.http.clientIp salt)
  | .changePassword data salt => .noContent db do
    let ctx ← requireAuthenticated db call.ord call.clk call.http
    changePassword env call.clk ctx db data salt

def AuthCall.step (env : Env) (db : DB) (call : AuthCall) : DB := (call.handle env db).db

end SchoolOs
