import SchoolOs.Audit

/-!
Role business logic: tenant roles, and the system roles that no tenant may edit.
-/

namespace SchoolOs

/-! ### Payloads -/

structure RoleCreate where
  code : String
  name : String
  description : Option String
  scopeLevel : RoleScopeLevel
  dataScope : DataScope
  permissionCodes : List String
  code_length : 1 ≤ code.length ∧ code.length ≤ 60
  name_length : 1 ≤ name.length ∧ name.length ≤ 120
  description_length : ∀ d ∈ description, d.length ≤ 400
  permissionCodes_length : permissionCodes.length ≤ 200

structure RoleUpdate where
  name : Option String
  description : Option String
  dataScope : Option DataScope
  permissionCodes : Option (List String)
  version : ℕ
  name_length : ∀ n ∈ name, 1 ≤ n.length ∧ n.length ≤ 120
  description_length : ∀ d ∈ description, d.length ≤ 400
  permissionCodes_length : ∀ l ∈ permissionCodes, l.length ≤ 200
  one_le_version : 1 ≤ version

def roleSnapshot (r : Role) : Snapshot :=
  [("code", .text r.code), ("name", .text r.name), ("description", .opt .text r.description),
    ("scope_level", .text r.scopeLevel.value), ("data_scope", .text r.dataScope.value),
    ("is_system", .bool r.isSystem), ("is_default", .bool r.isDefault)]

def roleNotFound : ApiError := notFoundError "The role was not found." "ROLE_NOT_FOUND"

/-! ### Data access -/

section Repository

variable (env : Env) (db : DB)

/-- A role the organization owns, or a system role. -/
def getOrgRole (organizationId roleId : Ulid) : Option Role :=
  db.roles.find? fun r => r.id = roleId ∧ r.archivedAt = none ∧
    (r.organizationId = some organizationId ∨ r.organizationId = none)

def getByCode (organizationId : Ulid) (code : String) : Option Role :=
  db.roles.find? fun r => env.sqlLower r.code = env.lower code ∧ r.archivedAt = none ∧
    (r.organizationId = some organizationId ∨ r.organizationId = none)

/-- The permissions behind the codes, each row once; a code nobody has is an error. -/
def fetchPermissions (codes : List String) : Fallible (List PermissionRow) := do
  ensure (∀ c ∈ codes, bindable c = true) internalError
  let rows := db.permissions.filter (·.code ∈ codes)
  let missing := (codes.filter fun c => c ∉ rows.map PermissionRow.code).dedup
  ensure (missing = []) (invalidRequestErrorWith "One or more permission codes are unknown."
    "UNKNOWN_PERMISSION_CODES" [("codes", .texts (missing.mergeSort (· ≤ ·)))])
  return rows

/-- The links of a role whose permission is known, with the permission's code. -/
def linkCodes (roleId : Ulid) : List (RolePermission × String) :=
  (db.rolePermissions.filter (·.roleId = roleId)).filterMap fun link =>
    (Tables.get PermissionRow.id link.permissionId db.permissions).map fun p => (link, p.code)

/-- The columns of a role row can be bound. -/
def RoleStorable (r : Role) : Prop :=
  bindable r.code = true ∧ bindable r.name = true ∧ ∀ d ∈ r.description, bindable d = true

instance (r : Role) : Decidable (RoleStorable r) := inferInstanceAs (Decidable (_ ∧ _ ∧ _))

/-- One link of the role for each permission, under the ids drawn. -/
def linksTo (roleId : Ulid) (draw : ℕ → Ulid) (rows : List PermissionRow) : List RolePermission :=
  rows.zipIdx.map fun (p, n) => ⟨draw n, roleId, p.id, none⟩

/-- The primary key and the unique constraint of `role_permissions`. -/
def PermissionLinksInsert (links old : List RolePermission) : Prop :=
  Tables.Inserts RolePermission.id links old ∧
    Tables.Inserts (fun l : RolePermission => (l.roleId, l.permissionId)) links old

instance (links old : List RolePermission) : Decidable (PermissionLinksInsert links old) :=
  inferInstanceAs (Decidable (_ ∧ _))

end Repository

namespace Roles

/-! ### The service -/

section Service

variable (env : Env) (clk : Clock) (ctx : RequestContext)

def create (db : DB) (data : RoleCreate) (roleId : Ulid) (draw : ℕ → Ulid) :
    Fallible (Role × DB) := do
  let organizationId ← found ctx.organizationId
    (invalidRequestError "No organization context is set for this request.")
  ensureAbsent (getByCode env db organizationId data.code) fun _ =>
    conflictError ("A role with code " ++ env.repr data.code ++ " already exists.")
      "ROLE_CODE_TAKEN" [("code", .text data.code)]
  let permissions ← fetchPermissions db data.permissionCodes
  let role := Role.new roleId (some organizationId) data.code data.name data.description
    data.scopeLevel data.dataScope ctx.userId
  ensure (RoleStorable role ∧ Tables.Inserts Role.id [role] db.roles ∧
    Tables.Inserts (fun r : Role => (r.organizationId, r.code)) [role] db.roles) internalError
  let links := linksTo role.id draw permissions
  ensure (PermissionLinksInsert links db.rolePermissions) internalError
  let db' ← audit env ctx
    { action := "ROLE_CREATED", entityType := "role", entityId := some role.id,
      summary := some ("Role " ++ env.repr role.code ++ " created"),
      after := some (roleSnapshot role ++ [("permissions", .texts data.permissionCodes)]) }
    { db with
      roles := db.roles ++ [role]
      rolePermissions := db.rolePermissions ++ links }
  return (role, db')

def assertEditable (role : Role) : Fallible Unit :=
  ensure (¬ (role.isSystem = true ∧ role.organizationId = none))
    (forbiddenError "System roles cannot be modified.")

/-- The fields of the payload that are given. -/
def applyUpdate (data : RoleUpdate) (r : Role) : Role :=
  { r with
    name := data.name.getD r.name
    description := data.description.or r.description
    dataScope := data.dataScope.getD r.dataScope }

/-- The links of the role once its codes are replaced by those given, if any are. -/
def relink (db : DB) (role : Role) (draw : ℕ → Ulid) :
    Option (List String) → Fallible (List RolePermission)
  | none => return db.rolePermissions
  | some codes => do
    let desired ← fetchPermissions db codes
    let current := linkCodes db role.id
    let stale := (current.filter fun lc => lc.2 ∉ desired.map PermissionRow.code).map Prod.fst
    let kept := db.rolePermissions.filter (· ∉ stale)
    let links := linksTo role.id draw
      (desired.filter fun p => p.code ∉ current.map Prod.snd)
    ensure (PermissionLinksInsert links kept) internalError
    return kept ++ links

/-- The audit row lists the links as they were loaded. -/
def update (db : DB) (role : Role) (data : RoleUpdate) (draw : ℕ → Ulid) :
    Fallible (Role × DB) := do
  ensure (role.version = data.version) staleResourceError
  assertEditable role
  let links ← relink db role draw data.permissionCodes
  let row := flushed Role.touch role { applyUpdate data role with updatedById := ctx.userId }
  ensure (RoleStorable row) internalError
  let db' ← audit env ctx
    { action := "ROLE_UPDATED", entityType := "role", entityId := some row.id,
      summary := some ("Role " ++ env.repr row.code ++ " updated"),
      before := some (roleSnapshot role),
      after := some (roleSnapshot row ++
        [("permissions", .texts ((linkCodes db role.id).map Prod.snd))]) }
    { db with
      roles := Tables.set Role.id row.id (fun _ => row) db.roles
      rolePermissions := links }
  return (row, db')

def delete (db : DB) (role : Role) (version : ℕ) : Fallible (Role × DB) := do
  ensure (role.version = version) staleResourceError
  assertEditable role
  let row := flushed Role.touch role
    { role with archivedAt := some clk.now, updatedById := ctx.userId }
  let db' ← audit env ctx
    { action := "ROLE_DELETED", entityType := "role", entityId := some row.id,
      summary := some ("Role " ++ env.repr row.code ++ " deleted"),
      before := some (roleSnapshot role) }
    { db with roles := Tables.set Role.id row.id (fun _ => row) db.roles }
  return (row, db')

def getOwned (db : DB) (roleId : Ulid) : Fallible Role :=
  match ctx.organizationId with
  | none => do
    let role ← found (Tables.get Role.id roleId db.roles) roleNotFound
    ensure (role.archivedAt = none) roleNotFound
    return role
  | some organizationId => found (getOrgRole db organizationId roleId) roleNotFound

end Service

/-! ### What an operation on roles leaves alone -/

variable {env : Env} {clk : Clock} {ctx : RequestContext} {db : DB}

/-- Only roles, their permission links and the audit log change. -/
def Frame (db db' : DB) : Prop :=
  ∃ roles rolePermissions auditLogs, db' =
    { db with roles := roles, rolePermissions := rolePermissions, auditLogs := auditLogs }

lemma create_frame {data : RoleCreate} {roleId : Ulid} {draw : ℕ → Ulid} {r : Role × DB}
    (h : create env ctx db data roleId draw = .ok r) : Frame db r.2 := by
  simp only [create, bind_ok, audit_ok, pure_ok] at h
  obtain ⟨_, _, _, _, _, _, _, _, _, _, _, ⟨_, rfl⟩, rfl⟩ := h
  exact ⟨_, _, _, rfl⟩

lemma update_frame {role : Role} {data : RoleUpdate} {draw : ℕ → Ulid} {r : Role × DB}
    (h : update env ctx db role data draw = .ok r) : Frame db r.2 := by
  simp only [update, bind_ok, audit_ok, pure_ok] at h
  obtain ⟨_, _, _, _, _, _, _, _, _, ⟨_, rfl⟩, rfl⟩ := h
  exact ⟨_, _, _, rfl⟩

lemma delete_frame {role : Role} {version : ℕ} {r : Role × DB}
    (h : delete env clk ctx db role version = .ok r) : Frame db r.2 := by
  simp only [delete, bind_ok, audit_ok, pure_ok] at h
  obtain ⟨_, _, _, _, _, ⟨_, rfl⟩, rfl⟩ := h
  exact ⟨_, _, _, rfl⟩

end Roles

end SchoolOs
