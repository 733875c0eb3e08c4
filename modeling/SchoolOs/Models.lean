import SchoolOs.Errors
import SchoolOs.Permissions
import SchoolOs.Tables

/-!
The tables of access control, authentication and audit, with the columns the services read
or that decide whether a statement goes through, and the deployment the services run in.
-/

namespace SchoolOs

/-- A `timestamptz`, in microseconds. -/
abbrev Instant := ℕ
/-- A `date`, as its ordinal. -/
abbrev Date := ℕ

/-- What a request reads off the clock. -/
structure Clock where
  now : Instant
  today : Date

/-! ### Vocabularies -/

inductive SchoolStatus
  | setup | active | suspended | closed
  deriving DecidableEq

inductive UserStatus
  | invited | active | suspended | disabled
  deriving DecidableEq

def UserStatus.value : UserStatus → String
  | .invited => "INVITED"
  | .active => "ACTIVE"
  | .suspended => "SUSPENDED"
  | .disabled => "DISABLED"

inductive MembershipStatus
  | active | inactive | ended
  deriving DecidableEq

def MembershipStatus.value : MembershipStatus → String
  | .active => "ACTIVE"
  | .inactive => "INACTIVE"
  | .ended => "ENDED"

/-- Where a role may be granted. -/
inductive RoleScopeLevel
  | platform | organization | school
  deriving DecidableEq

def RoleScopeLevel.value : RoleScopeLevel → String
  | .platform => "PLATFORM"
  | .organization => "ORGANIZATION"
  | .school => "SCHOOL"

/-! ### Access control -/

structure School where
  id : Ulid
  organizationId : Ulid
  status : SchoolStatus
  deletedAt : Option Instant
  deriving DecidableEq

/-- A login credential holder, not scoped to a tenant. -/
structure User where
  id : Ulid
  personId : Option Ulid
  email : Option String
  phone : Option String
  passwordHash : Option String
  passwordChangedAt : Option Instant
  mustChangePassword : Bool
  status : UserStatus
  isPlatformAdmin : Bool
  failedLoginCount : ℕ
  lockedUntil : Option Instant
  lastLoginAt : Option Instant
  deletedAt : Option Instant
  updatedById : Option Ulid
  version : ℕ
  deriving DecidableEq

/-- A user's access to one school, or with no school to a whole organization. -/
structure Membership where
  id : Ulid
  userId : Ulid
  organizationId : Ulid
  schoolId : Option Ulid
  status : MembershipStatus
  startDate : Option Date
  endDate : Option Date
  isDefault : Bool
  notes : Option String
  createdById : Option Ulid
  updatedById : Option Ulid
  version : ℕ
  deriving DecidableEq

/-- A row of the `permissions` mirror of the code-declared registry. -/
structure PermissionRow where
  id : Ulid
  code : String
  deriving DecidableEq

structure Role where
  id : Ulid
  organizationId : Option Ulid
  code : String
  name : String
  description : Option String
  scopeLevel : RoleScopeLevel
  dataScope : DataScope
  isSystem : Bool
  isDefault : Bool
  archivedAt : Option Instant
  createdById : Option Ulid
  updatedById : Option Ulid
  version : ℕ
  deriving DecidableEq

structure RolePermission where
  id : Ulid
  roleId : Ulid
  permissionId : Ulid
  dataScope : Option DataScope
  deriving DecidableEq

/-- Grants a role within one membership. -/
structure MembershipRole where
  id : Ulid
  membershipId : Ulid
  roleId : Ulid
  expiresAt : Option Instant
  dataScope : Option DataScope
  createdById : Option Ulid
  deriving DecidableEq

/-! ### New rows, with the defaults of the mapper -/

def User.new (id : Ulid) (email phone passwordHash : Option String) (status : UserStatus)
    (passwordChangedAt : Option Instant) : User where
  id := id
  personId := none
  email := email
  phone := phone
  passwordHash := passwordHash
  passwordChangedAt := passwordChangedAt
  mustChangePassword := false
  status := status
  isPlatformAdmin := false
  failedLoginCount := 0
  lockedUntil := none
  lastLoginAt := none
  deletedAt := none
  updatedById := none
  version := 1

def Membership.new (id userId organizationId : Ulid) (schoolId : Option Ulid)
    (startDate endDate : Option Date) (isDefault : Bool) (createdById : Option Ulid) :
    Membership where
  id := id
  userId := userId
  organizationId := organizationId
  schoolId := schoolId
  status := .active
  startDate := startDate
  endDate := endDate
  isDefault := isDefault
  notes := none
  createdById := createdById
  updatedById := none
  version := 1

def Role.new (id : Ulid) (organizationId : Option Ulid) (code name : String)
    (description : Option String) (scopeLevel : RoleScopeLevel) (dataScope : DataScope)
    (createdById : Option Ulid) : Role where
  id := id
  organizationId := organizationId
  code := code
  name := name
  description := description
  scopeLevel := scopeLevel
  dataScope := dataScope
  isSystem := false
  isDefault := false
  archivedAt := none
  createdById := createdById
  updatedById := none
  version := 1

/-! ### Authentication -/

/-- One issued refresh token within a session family. -/
structure RefreshToken where
  id : Ulid
  userId : Ulid
  tokenDigest : String
  sessionFamilyId : Ulid
  expiresAt : Instant
  rotatedAt : Option Instant
  revokedAt : Option Instant
  userAgent : Option String
  ipAddress : Option String
  deriving DecidableEq

structure LoginAttempt where
  userId : Option Ulid
  emailAttempted : String
  ipAddress : Option String
  success : Bool
  attemptedAt : Instant
  deriving DecidableEq

structure PasswordResetToken where
  id : Ulid
  userId : Ulid
  tokenHash : String
  expiresAt : Instant
  consumedAt : Option Instant
  requestedIp : Option String
  deriving DecidableEq

/-! ### Audit -/

abbrev Snapshot := List (String × Value)

structure AuditLog where
  organizationId : Option Ulid
  schoolId : Option Ulid
  actorUserId : Option Ulid
  action : String
  entityType : String
  entityId : Option Ulid
  summary : Option String
  beforeSnapshot : Option Snapshot
  afterSnapshot : Option Snapshot
  requestId : Option String
  ipAddress : Option String
  deriving DecidableEq

/-- A committed state of the database. -/
structure DB where
  schools : List School
  users : List User
  memberships : List Membership
  permissions : List PermissionRow
  roles : List Role
  rolePermissions : List RolePermission
  membershipRoles : List MembershipRole
  refreshTokens : List RefreshToken
  loginAttempts : List LoginAttempt
  passwordResetTokens : List PasswordResetToken
  auditLogs : List AuditLog
  deriving DecidableEq

def DB.empty : DB := ⟨[], [], [], [], [], [], [], [], [], [], []⟩

/-! ### Column types and row versions -/

/-- What PostgreSQL can bind as text: anything without a NUL character. -/
def bindable (s : String) : Bool := !s.toList.contains '\x00'

lemma bindable_append {s t : String} (hs : bindable s = true) (ht : bindable t = true) :
    bindable (s ++ t) = true := by
  simp_all [bindable]

/-- What a nullable `VARCHAR(n)` column stores; anything else raises. -/
def varchar (n : ℕ) : Option String → Bool
  | none => true
  | some s => s.length ≤ n && bindable s

@[simp] lemma varchar_none {n : ℕ} : varchar n none = true := rfl

lemma varchar_mono {m n : ℕ} (hmn : m ≤ n) {x : Option String} (h : varchar m x = true) :
    varchar n x = true := by
  cases x with
  | none => rfl
  | some s =>
    simp only [varchar, Bool.and_eq_true, decide_eq_true_eq] at h ⊢
    exact ⟨h.1.trans hmn, h.2⟩

/-- What an `INTEGER` column stores; anything else raises. -/
def int4 (n : ℤ) : Bool := -2147483648 ≤ n && n < 2147483648

/-- Python's truth value of an optional string. -/
def truthy : Option String → Bool
  | none => false
  | some s => s != ""

/-- The flush of a changed row: no statement when nothing changed, else one that also
`touch`es it (the version counter). -/
def flushed {ρ : Type} [DecidableEq ρ] (touch : ρ → ρ) (old new : ρ) : ρ :=
  if new = old then old else touch new

/-- Rows start with version 1, which a payload may name. -/
lemma one_le_first : 1 ≤ 1 := Nat.le_refl 1

def User.touch (u : User) : User := { u with version := u.version + 1 }
def Membership.touch (m : Membership) : Membership := { m with version := m.version + 1 }
def Role.touch (r : Role) : Role := { r with version := r.version + 1 }

/-- A column the flush does not count reads off the new row. -/
lemma flushed_col {ρ γ : Type} [DecidableEq ρ] (touch : ρ → ρ) (col : ρ → γ)
    (h : ∀ r, col (touch r) = col r) (old new : ρ) : col (flushed touch old new) = col new := by
  unfold flushed
  split <;> simp_all

/-! ### The deployment -/

/-- Settings, and the code the services call that is not theirs: hashing, functions on texts, and
what the columns of the audit table take. -/
structure Env where
  loginMaxFailedAttempts : ℕ
  loginLockoutMinutes : ℕ
  refreshTokenExpireDays : ℕ
  accessTokenExpireMinutes : ℕ
  /-- `hash_refresh_token`: SHA-256 in hexadecimal. -/
  hashRefreshToken : String → String
  /-- `hash_password`, with the salt it draws. -/
  hashPassword : ℕ → String → String
  verifyPassword : String → String → Bool
  /-- `str.lower`. -/
  lower : String → String
  /-- `lower` in SQL. -/
  sqlLower : String → String
  /-- `repr` of a string. -/
  repr : String → String
  /-- Whether the serializer of the JSONB columns encodes a value. -/
  encodes : Value → Bool
  /-- The width of the column `summary` of `audit_logs`: 400 in the migrations, or more. -/
  summaryWidth : ℕ
  summaryWidth_ge : 400 ≤ summaryWidth

/-- `json.dumps` without a default hook: dates and times are not serializable. -/
def jsonDumps : Value → Bool
  | .date _ | .time _ => false
  | _ => true

/-- A deployment with the default settings whose stored secrets can be read. -/
def Env.plain : Env where
  loginMaxFailedAttempts := 5
  loginLockoutMinutes := 15
  refreshTokenExpireDays := 30
  accessTokenExpireMinutes := 15
  hashRefreshToken := id
  hashPassword salt password := (String.ofList (List.replicate salt '$')) ++ password
  verifyPassword hash password := (hash.toList.dropWhile (· = '$')) = password.toList
  lower s := String.ofList (s.toList.map Char.toLower)
  sqlLower s := String.ofList (s.toList.map Char.toLower)
  repr s := "'" ++ s ++ "'"
  encodes := jsonDumps
  summaryWidth := 400
  summaryWidth_ge := le_rfl

def seconds (n : ℕ) : ℕ := n * 1000000
def Env.refreshTokenExpireSeconds (env : Env) : ℕ := env.refreshTokenExpireDays * 24 * 3600
def Env.accessTokenExpireSeconds (env : Env) : ℕ := env.accessTokenExpireMinutes * 60

end SchoolOs
