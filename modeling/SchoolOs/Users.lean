import SchoolOs.Memberships

/-!
User account business logic.
-/

namespace SchoolOs

/-! ### Payloads -/

structure UserCreate where
  email : Option String
  phone : Option String
  password : Option String
  schoolId : Option Ulid
  email_length : ∀ e ∈ email, e.length ≤ 255
  phone_length : ∀ p ∈ phone, p.length ≤ 24
  password_length : ∀ p ∈ password, 8 ≤ p.length ∧ p.length ≤ 128
  identified : truthy email = true ∨ truthy phone = true

structure UserUpdate where
  email : Option String
  phone : Option String
  status : Option UserStatus
  mustChangePassword : Option Bool
  version : ℕ
  email_length : ∀ e ∈ email, e.length ≤ 255
  phone_length : ∀ p ∈ phone, p.length ≤ 24
  one_le_version : 1 ≤ version

lemma no_email : ∀ e ∈ (none : Option String), e.length ≤ 255 := by simp
lemma no_phone : ∀ p ∈ (none : Option String), p.length ≤ 24 := by simp

structure PlatformAdminToggle where
  isPlatformAdmin : Bool
  version : ℕ
  one_le_version : 1 ≤ version

def userSnapshot (u : User) : Snapshot :=
  [("email", .opt .text u.email), ("phone", .opt .text u.phone), ("status", .text u.status.value),
    ("must_change_password", .bool u.mustChangePassword),
    ("is_platform_admin", .bool u.isPlatformAdmin)]

/-! ### Data access -/

section Repository

variable (env : Env) (db : DB)

def getByEmail (email : String) : Option User :=
  db.users.find? fun u => u.email.any (env.sqlLower · = env.lower email) ∧ u.deletedAt = none

def getByPhone (phone : String) : Option User :=
  db.users.find? fun u => u.phone = some phone ∧ u.deletedAt = none

def belongsToOrg (userId organizationId : Ulid) : Bool :=
  db.memberships.any fun m => m.userId = userId ∧ m.organizationId = organizationId

/-- The partial unique indexes on the login identifiers. -/
def IdentifiersFree (u : User) : Prop :=
  ∀ u' ∈ db.users, u'.id ≠ u.id → u'.deletedAt = none →
    (∀ e ∈ u.email, ∀ e' ∈ u'.email, env.sqlLower e' ≠ env.sqlLower e) ∧
      ∀ p ∈ u.phone, u'.phone ≠ some p

instance (u : User) : Decidable (IdentifiersFree env db u) :=
  inferInstanceAs (Decidable (∀ u' ∈ db.users, u'.id ≠ u.id → u'.deletedAt = none →
    (∀ e ∈ u.email, ∀ e' ∈ u'.email, env.sqlLower e' ≠ env.sqlLower e) ∧
      ∀ p ∈ u.phone, u'.phone ≠ some p))

/-- The columns of a user row can be bound, and no live user has its identifiers. -/
def UserStorable (u : User) : Prop :=
  (∀ e ∈ u.email, bindable e = true) ∧ (∀ p ∈ u.phone, bindable p = true) ∧
    (u.deletedAt = none → IdentifiersFree env db u)

instance (u : User) : Decidable (UserStorable env db u) :=
  inferInstanceAs (Decidable (_ ∧ _ ∧ _))

end Repository

namespace Users

/-! ### The service -/

section Service

variable (env : Env) (clk : Clock) (ctx : RequestContext)

def emailTaken (email : String) : ApiError :=
  conflictError "A user with this email already exists." "USER_EMAIL_TAKEN"
    [("email", .text email)]

def phoneTaken (phone : String) : ApiError :=
  conflictError "A user with this phone number already exists." "USER_PHONE_TAKEN"
    [("phone", .text phone)]

/-- `if x and not changed: …` on an optional identifier: a lookup nobody may answer. -/
def ensureFree (look : String → Option User) (taken : String → ApiError) (current : Option String) :
    Option String → Fallible Unit
  | none => return ()
  | some x => if x = "" ∨ current = some x then return () else
      ensureAbsent (look x) fun _ => taken x

/-- The user, in a summary. -/
def label (u : User) : String := (if truthy u.email then u.email else u.phone).getD "None"

/-- The row `create` adds, under the id and the salt drawn. -/
def newUser (data : UserCreate) (userId : Ulid) (salt : ℕ) : User :=
  User.new userId data.email data.phone (data.password.map (env.hashPassword salt))
    (if data.password.isSome then .active else .invited)
    (if data.password.isSome then some clk.now else none)

def create (db : DB) (data : UserCreate) (userId membershipId : Ulid) (salt : ℕ) :
    Fallible (User × DB) := do
  let organizationId ← found ctx.organizationId
    (invalidRequestError "No organization context is set for this request.")
  ensureFree (getByEmail env db) emailTaken none data.email
  ensureFree (getByPhone db) phoneTaken none data.phone
  ensure (∀ s ∈ data.schoolId, (getSchool db organizationId s).isSome)
    (notFoundError "The school was not found." "SCHOOL_NOT_FOUND")
  let user := newUser env clk data userId salt
  ensure (Tables.Inserts User.id [user] db.users ∧ UserStorable env db user) internalError
  let membership := Membership.new membershipId user.id organizationId data.schoolId none none
    true ctx.userId
  ensure (Tables.Inserts Membership.id [membership] db.memberships) internalError
  let db' ← audit env ctx
    { action := "USER_CREATED", entityType := "user", entityId := some user.id,
      summary := some ("User " ++ label user ++ " created"), after := some (userSnapshot user) }
    { db with
      users := db.users ++ [user]
      memberships := db.memberships ++ [membership] }
  return (user, db')

/-- Write the changed row and audit the change. -/
def save (db : DB) (entry : AuditEntry) (before user : User) : Fallible (User × DB) := do
  let row := flushed User.touch before user
  ensure (UserStorable env db row) internalError
  let db' ← audit env ctx entry
    { db with users := Tables.set User.id row.id (fun _ => row) db.users }
  return (row, db')

/-- The fields of the payload that are given. -/
def applyUpdate (data : UserUpdate) (u : User) : User :=
  { u with
    email := data.email.or u.email
    phone := data.phone.or u.phone
    status := data.status.getD u.status
    mustChangePassword := data.mustChangePassword.getD u.mustChangePassword }

def update (db : DB) (user : User) (data : UserUpdate) : Fallible (User × DB) := do
  ensure (user.version = data.version) staleResourceError
  ensureFree (getByEmail env db) emailTaken user.email data.email
  ensureFree (getByPhone db) phoneTaken user.phone data.phone
  let updated := { applyUpdate data user with updatedById := ctx.userId }
  save env ctx db
    { action := "USER_UPDATED", entityType := "user", entityId := some user.id,
      summary := some ("User " ++ label updated ++ " updated"),
      before := some (userSnapshot user), after := some (userSnapshot updated) }
    user updated

def delete (db : DB) (user : User) (version : ℕ) : Fallible (User × DB) := do
  ensure (user.version = version) staleResourceError
  save env ctx db
    { action := "USER_DELETED", entityType := "user", entityId := some user.id,
      summary := some ("User " ++ label user ++ " deleted"),
      before := some (userSnapshot user) }
    user { user with deletedAt := some clk.now }

def toggleAction (isPlatformAdmin : Bool) : String :=
  if isPlatformAdmin then "USER_GRANTED_PLATFORM_ADMIN" else "USER_REVOKED_PLATFORM_ADMIN"

def togglePlatformAdmin (db : DB) (user : User) (data : PlatformAdminToggle) :
    Fallible (User × DB) := do
  ensure (user.version = data.version) staleResourceError
  ensure (some user.id ≠ ctx.userId)
    (invalidRequestError "You cannot change your own platform admin flag.")
  let toggled := { user with isPlatformAdmin := data.isPlatformAdmin, updatedById := ctx.userId }
  save env ctx db
    { action := toggleAction data.isPlatformAdmin, entityType := "user", entityId := some user.id,
      summary := some ("Platform admin " ++
        (if data.isPlatformAdmin then "granted to" else "revoked from") ++ " " ++ label user),
      before := some (userSnapshot user), after := some (userSnapshot toggled) }
    user toggled

def userNotFound : ApiError := notFoundError "The user was not found." "USER_NOT_FOUND"

def getOwned (db : DB) (userId : Ulid) : Fallible User := do
  let user ← found (getUser db userId) userNotFound
  ensure (user.deletedAt = none) userNotFound
  ensure (ctx.isPlatformAdmin = false → ∀ o ∈ ctx.organizationId, belongsToOrg db userId o = true)
    userNotFound
  return user

end Service

/-! ### What each operation does when it goes through -/

variable {env : Env} {clk : Clock} {ctx : RequestContext} {db : DB}

lemma ensureFree_ok {look : String → Option User} {taken : String → ApiError}
    {current x : Option String} {u : Unit} : ensureFree look taken current x = .ok u ↔
      ∀ y ∈ x, y ≠ "" → current ≠ some y → look y = none := by
  cases x with
  | none => simp [ensureFree]
  | some x =>
    simp only [ensureFree, Option.mem_def, Option.some.injEq, forall_eq']
    by_cases h : x = "" ∨ current = some x
    · rw [if_pos h]
      rcases h with h | h <;> simp [h]
    · obtain ⟨h1, h2⟩ := not_or.mp h
      rw [if_neg h, ensureAbsent_ok]
      exact ⟨fun hl _ _ => hl, fun hl => hl h1 h2⟩

def newMembership (ctx : RequestContext) (data : UserCreate) (userId membershipId o : Ulid) :
    Membership :=
  Membership.new membershipId userId o data.schoolId none none true ctx.userId

def createEntry (user : User) : AuditEntry :=
  { action := "USER_CREATED", entityType := "user", entityId := some user.id,
    summary := some ("User " ++ label user ++ " created"), after := some (userSnapshot user) }

/-- The checks of `create`, and the constraints its statements meet. -/
structure Creatable (env : Env) (clk : Clock) (ctx : RequestContext) (db : DB) (data : UserCreate)
    (userId membershipId : Ulid) (salt : ℕ) (o : Ulid) : Prop where
  organization : ctx.organizationId = some o
  email : ∀ e ∈ data.email, e ≠ "" → getByEmail env db e = none
  phone : ∀ p ∈ data.phone, p ≠ "" → getByPhone db p = none
  school : ∀ s ∈ data.schoolId, (getSchool db o s).isSome
  freshUser : Tables.Inserts User.id [newUser env clk data userId salt] db.users
  storable : UserStorable env db (newUser env clk data userId salt)
  freshMembership : Tables.Inserts Membership.id [newMembership ctx data userId membershipId o]
    db.memberships
  auditable : Auditable env (auditRow ctx (createEntry (newUser env clk data userId salt)))

/-- The state `create` leaves. -/
def created (env : Env) (clk : Clock) (ctx : RequestContext) (db : DB) (data : UserCreate)
    (userId membershipId : Ulid) (salt : ℕ) (o : Ulid) : DB :=
  { db with
    users := db.users ++ [newUser env clk data userId salt]
    memberships := db.memberships ++ [newMembership ctx data userId membershipId o] }.log
      (auditRow ctx (createEntry (newUser env clk data userId salt)))

theorem create_ok {data : UserCreate} {userId membershipId : Ulid} {salt : ℕ} {r : User × DB} :
    create env clk ctx db data userId membershipId salt = .ok r ↔
      ∃ o, Creatable env clk ctx db data userId membershipId salt o ∧
        r = (newUser env clk data userId salt,
          created env clk ctx db data userId membershipId salt o) := by
  simp only [create, bind_ok, found_ok, ensure_ok, ensureFree_ok, audit_ok, pure_ok]
  refine ⟨?_, ?_⟩
  · rintro ⟨o, ho, _, he, _, hp, _, hs, _, ⟨hu, hst⟩, _, hm, _, ⟨ha, rfl⟩, rfl⟩
    exact ⟨o, ⟨ho, fun e h1 h2 => he e h1 h2 (by simp), fun p h1 h2 => hp p h1 h2 (by simp), hs,
      hu, hst, hm, ha⟩, rfl⟩
  · rintro ⟨o, ⟨ho, he, hp, hs, hu, hst, hm, ha⟩, rfl⟩
    exact ⟨o, ho, (), fun e h1 h2 _ => he e h1 h2, (), fun p h1 h2 _ => hp p h1 h2, (), hs, (),
      ⟨hu, hst⟩, (), hm, _, ⟨ha, rfl⟩, rfl⟩

/-- The row after the flush of `save`. -/
def savedRow (before user : User) : User := flushed User.touch before user

lemma save_ok {entry : AuditEntry} {before user : User} {r : User × DB} :
    save env ctx db entry before user = .ok r ↔
      UserStorable env db (savedRow before user) ∧ Auditable env (auditRow ctx entry) ∧
        r = (savedRow before user, { db with
          users := Tables.set User.id (savedRow before user).id
            (fun _ => savedRow before user) db.users }.log (auditRow ctx entry)) := by
  simp only [save, bind_ok, ensure_ok, audit_ok, pure_ok]
  refine ⟨?_, ?_⟩
  · rintro ⟨_, hs, _, ⟨ha, rfl⟩, rfl⟩
    exact ⟨hs, ha, rfl⟩
  · rintro ⟨hs, ha, rfl⟩
    exact ⟨(), hs, _, ⟨ha, rfl⟩, rfl⟩

/-- Saving a user row touches no membership, and no user loses its row. -/
lemma save_keeps {entry : AuditEntry} {before user : User} {r : User × DB}
    (h : save env ctx db entry before user = .ok r) :
    r.2.memberships = db.memberships ∧ ∀ u ∈ db.users, ∃ u' ∈ r.2.users, u'.id = u.id := by
  obtain ⟨_, _, rfl⟩ := save_ok.mp h
  refine ⟨rfl, fun u hu => ⟨_, Tables.mem_set.mpr ⟨u, hu, rfl⟩, ?_⟩⟩
  split
  · next heq => exact heq.symm
  · rfl

lemma getOwned_ok {userId : Ulid} {u : User} (h : getOwned ctx db userId = .ok u) :
    getUser db userId = some u ∧ u.deletedAt = none := by
  simp only [getOwned, bind_ok, found_ok, ensure_ok, pure_ok] at h
  obtain ⟨_, hu, _, hd, _, _, rfl⟩ := h
  exact ⟨hu, hd⟩

end Users

end SchoolOs
