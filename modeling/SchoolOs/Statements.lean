import Mathlib.Data.List.Sort
import SchoolOs.Auth
import SchoolOs.ReadCommitted

/-!
The requests on refresh tokens, one SQL statement at a time: any number of them share the
database, and their statements interleave.
-/

namespace SchoolOs

open ReadCommitted

/-- What a statement locks: a row, or a value of a unique column. -/
inductive Key
  | token (id : Ulid)
  | digest (digest : String)
  | user (id : Ulid)
  | resetToken (id : Ulid)
  deriving DecidableEq

/-! ### Requests and where they stand -/

/-- A request, with what it draws. -/
inductive Request
  | refresh (data : RefreshRequest) (http : HttpRequest) (draw : TokenDraw)
  | changePassword (data : PasswordChange) (ord : RowOrder) (http : HttpRequest) (salt : ℕ)
  | confirmPasswordReset (data : PasswordResetConfirm) (http : HttpRequest) (salt : ℕ)

/-- The request as one step. -/
def Request.call (clk : Clock) : Request → AuthCall
  | .refresh data http draw => ⟨clk, .heap, http, .refresh data draw⟩
  | .changePassword data ord http salt => ⟨clk, ord, http, .changePassword data salt⟩
  | .confirmPasswordReset data http salt => ⟨clk, .heap, http, .confirmPasswordReset data salt⟩

/-- What a request that sets a password is going to write besides the revocations: the user as
read and as flushed, the reset tokens it consumes, its audit row. -/
structure NewPasswordRows where
  user : User
  row : User
  consumed : List Ulid
  consumedAt : Instant
  ctx : RequestContext
  entry : AuditEntry

/-- The tokens a revocation selects. -/
inductive Scope
  | token (id : Ulid)
  | family (familyId : Ulid)
  | sessions (userId : Ulid)

def Scope.selects : Scope → RefreshToken → Bool
  | .token id, t => t.id = id
  | .family familyId, t => t.sessionFamilyId = familyId
  | .sessions userId, t => t.userId = userId ∧ t.revokedAt = none

/-- Where a request stands. -/
inductive Pc
  | start
  /-- The token is live; its user is read next. -/
  | found (stored : RefreshToken)
  /-- The user may sign in; `rotated_at` is updated next. -/
  | checked (stored : RefreshToken)
  /-- The successor is inserted next. -/
  | rotated (stored : RefreshToken)
  /-- The commit is next. -/
  | issued (stored : RefreshToken) (pair : TokenPair)
  /-- A durable revocation selects its rows next. -/
  | refused (scope : Scope)
  /-- The sessions of the user are selected next. -/
  | authorized (rows : NewPasswordRows)
  /-- The user row is updated next. -/
  | selected (clk : Clock) (ids : List Ulid) (rows : NewPasswordRows)
  /-- Selected tokens still to be revoked, then the audit row if there is one to write. -/
  | revoking (clk : Clock) (ids : List Ulid) (rows : Option NewPasswordRows)
  /-- The commit is next. -/
  | written (rows : Option NewPasswordRows)
  | exchanged (stored : RefreshToken) (pair : TokenPair)
  | passwordSet (userId : Ulid)
  | failed (e : ApiError)

/-- What a finished request answered. -/
def Pc.answer : Pc → Option (Fallible (Option TokenPair))
  | .exchanged _ pair => some (.ok (some pair))
  | .passwordSet _ => some (.ok none)
  | .failed e => some (.error e)
  | _ => none

/-! ### Statements -/

section Statements

variable (env : Env) (clk : Clock)

def rotateToken (stored : RefreshToken) : Write DB Key where
  locks := [.token stored.id]
  run db := { db with
    refreshTokens := Tables.set RefreshToken.id stored.id (RefreshToken.rotate clk)
      db.refreshTokens }

def insertToken (token : RefreshToken) : Write DB Key where
  locks := [.token token.id, .digest token.tokenDigest]
  run db := { db with refreshTokens := db.refreshTokens ++ [token] }

def revokeToken (id : Ulid) : Write DB Key where
  locks := [.token id]
  run db := revokeTokenDurable clk db id

/-- The updates of the user row and of the consumed reset tokens. -/
def updateUser (rows : NewPasswordRows) : Write DB Key where
  locks := .user rows.user.id :: rows.consumed.map .resetToken
  run db := { db with
    users := Tables.set User.id rows.user.id (fun _ => rows.row) db.users
    passwordResetTokens := Tables.setWhere (·.id ∈ rows.consumed)
      (fun t => { t with consumedAt := some rows.consumedAt }) db.passwordResetTokens }

def insertAudit (row : AuditLog) : Write DB Key where
  locks := []
  run db := db.log row

/-- The rows a revocation will write, in the order of the flush. -/
def selectTokens (db : DB) (scope : Scope) : List Ulid :=
  ((db.refreshTokens.filter fun t => scope.selects t && t.revokedAt ≠ some clk.now).map
    RefreshToken.id).insertionSort fun a b => a.value ≤ b.value

/-- The reads of `change_password` up to the sessions of the user. -/
def readChange (db : DB) (data : PasswordChange) (ord : RowOrder) (http : HttpRequest)
    (salt : ℕ) : Fallible NewPasswordRows := do
  let ctx ← requireAuthenticated db ord clk http
  let wrong := authenticationErrorWith "The current password is incorrect."
  let user ← found (ctx.userId.bind (getUser db)) wrong
  ensure (passwordOk env user data.currentPassword = true) wrong
  return {
    user := user
    row := flushed User.touch user (withPassword env clk user data.newPassword salt)
    consumed := []
    consumedAt := clk.now
    ctx := ctx
    entry :=
      { action := "PASSWORD_CHANGED", entityType := "user", entityId := some user.id } }

/-- The reads of `confirm_password_reset` up to the sessions of the user. -/
def readReset (db : DB) (data : PasswordResetConfirm) (http : HttpRequest) (salt : ℕ) :
    Fallible NewPasswordRows := do
  let stored ← found
    (Tables.get PasswordResetToken.tokenHash (env.hashRefreshToken data.token)
      db.passwordResetTokens) resetInvalid
  ensure (stored.consumedAt = none ∧ clk.now < stored.expiresAt) resetInvalid
  let user ← found (getUser db stored.userId) resetInvalid
  ensure (user.deletedAt = none) resetInvalid
  return {
    user := user
    row := flushed User.touch user
      { withPassword env clk user data.newPassword salt with status := .active }
    consumed := (db.passwordResetTokens.filter fun t =>
      t.id = stored.id ∨ t.userId = user.id ∧ t.consumedAt = none).map PasswordResetToken.id
    consumedAt := clk.now
    ctx := systemCtx http.clientIp
    entry :=
      { action := "PASSWORD_RESET_CONFIRMED", entityType := "user",
        entityId := some user.id } }

/-- The first statement of a request. -/
def Request.begin (db : DB) : Request → Pc
  | .refresh data _ _ =>
    match findToken env db data.refreshToken with
    | none => .failed authenticationError
    | some stored =>
      if stored.revokedAt ≠ none ∨ stored.rotatedAt ≠ none then
        .refused (.family stored.sessionFamilyId)
      else if stored.expiresAt ≤ clk.now then .refused (.token stored.id)
      else .found stored
  | .changePassword data ord http salt =>
    match readChange env clk db data ord http salt with
    | .ok rows => .authorized rows
    | .error e => .failed e
  | .confirmPasswordReset data http salt =>
    match readReset env clk db data http salt with
    | .ok rows => .authorized rows
    | .error e => .failed e

/-- The user of a live token. -/
def readUser (db : DB) (stored : RefreshToken) : Pc :=
  match (getUser db stored.userId).filter (·.deletedAt = none) with
  | none => .refused (.family stored.sessionFamilyId)
  | some user => if user.status ≠ .active then .failed accountInactiveError else .checked stored

/-- The answer to an exchange. -/
def exchangePair (stored : RefreshToken) (draw : TokenDraw) : TokenPair where
  accessToken := createAccessToken env clk stored.userId
  refreshToken := draw.raw
  expiresIn := env.accessTokenExpireSeconds
  userId := stored.userId
  email := none
  phone := none

/-- What a commit after revocations comes to: a refused refresh, or a new password. -/
def afterRevocations : Option NewPasswordRows → Pc
  | none => .failed authenticationError
  | some rows => .passwordSet rows.user.id

end Statements

/-! ### The system -/

/-- The database and where every request stands. -/
structure Sys (ι : Type*) where
  store : Store ι DB Key
  pc : ι → Pc

/-- A request runs its next statement, or its transaction is aborted (a lost connection, a
deadlock). -/
inductive Turn (ι : Type*)
  | run (i : ι) (clk : Clock)
  | abort (i : ι)

namespace Sys

variable {ι : Type*} [DecidableEq ι] (s : Sys ι) (i : ι)

def goto (pc : Pc) : Sys ι := { s with pc := Function.update s.pc i pc }

/-- A write statement goes through, or the request waits. -/
def write (w : Write DB Key) (pc : Pc) : Sys ι :=
  match s.store.write i w with
  | none => s
  | some store => ⟨store, Function.update s.pc i pc⟩

def commit (pc : Pc) : Sys ι := ⟨s.store.commit i, Function.update s.pc i pc⟩

def fail (e : ApiError) : Sys ι := ⟨s.store.abort i, Function.update s.pc i (.failed e)⟩

/-- The next statement of a request. -/
def next (env : Env) (req : ι → Request) (clk : Clock) : Sys ι :=
  let db := s.store.view i
  match s.pc i with
  | .start => s.goto i ((req i).begin env clk db)
  | .found stored => s.goto i (readUser db stored)
  | .checked stored => s.write i (rotateToken clk stored) (.rotated stored)
  | .rotated stored =>
    match req i with
    | .refresh _ http draw =>
      let token := buildRefreshToken env clk stored.userId stored.sessionFamilyId http.clientIp
        http.userAgent draw
      if TokenStorable db.refreshTokens token then
        s.write i (insertToken token) (.issued stored (exchangePair env clk stored draw))
      else s.fail i internalError
    | _ => s
  | .issued stored pair => s.commit i (.exchanged stored pair)
  | .refused scope => s.goto i (.revoking clk (selectTokens clk db scope) none)
  | .authorized rows =>
    s.goto i (.selected clk (selectTokens clk db (.sessions rows.user.id)) rows)
  | .selected now ids rows =>
    -- The version counter: the row must still be the one that was read.
    if (getUser db rows.user.id).map User.version = some rows.user.version then
      s.write i (updateUser rows) (.revoking now ids (some rows))
    else s.fail i internalError
  | .revoking now (id :: ids) rows => s.write i (revokeToken now id) (.revoking now ids rows)
  | .revoking _ [] none => s.goto i (.written none)
  | .revoking _ [] (some rows) =>
    if Auditable env (auditRow rows.ctx rows.entry) then
      s.write i (insertAudit (auditRow rows.ctx rows.entry)) (.written (some rows))
    else s.fail i internalError
  | .written rows => s.commit i (afterRevocations rows)
  | .exchanged .. | .passwordSet _ | .failed _ => s

def step (env : Env) (req : ι → Request) : Sys ι → Turn ι → Sys ι
  | s, .run i clk => s.next i env req clk
  | s, .abort i => if (s.pc i).answer = none then s.fail i internalError else s

end Sys

end SchoolOs
