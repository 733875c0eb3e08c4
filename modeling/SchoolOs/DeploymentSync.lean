import SchoolOs.PermissionRegistry
import SchoolOs.RoleGrants

/-!
The two deployment scripts: `sync_permissions` writes the registry into the permission table,
`sync_roles` the catalogue into the system roles and their links.
-/

namespace SchoolOs

/-! ### The tables -/

/-- A row of `permissions`. -/
structure StoredPermission where
  id : Ulid
  code : String
  module : String
  resource : String
  action : String
  description : String
  deriving DecidableEq

/-- A row of `roles`, with the column of the soft delete. -/
structure StoredRole extends Role where
  deletedAt : Option Instant
  deriving DecidableEq

def StoredRole.touch (r : StoredRole) : StoredRole := { r with toRole := r.toRole.touch }

/-- What the scripts read and write. -/
structure CatalogDB where
  permissions : List StoredPermission
  roles : List StoredRole
  rolePermissions : List RolePermission
  deriving DecidableEq

/-- The tables as the services read them. -/
def CatalogDB.toDB (db : CatalogDB) : DB := { DB.empty with
  permissions := db.permissions.map fun p => ⟨p.id, p.code⟩
  roles := db.roles.map StoredRole.toRole
  rolePermissions := db.rolePermissions }

/-- How a script ends early. -/
inductive SyncError
  | valueError
  | notRegistered (code : String)
  | keyError (code : String)
  | integrityError
  deriving DecidableEq

/-- A check of a script. -/
def demand (c : Prop) [Decidable c] (e : SyncError) : Except SyncError Unit :=
  if c then .ok () else .error e

@[simp] lemma demand_ok {c : Prop} [Decidable c] {e : SyncError} {u : Unit} :
    demand c e = .ok u ↔ c := by
  unfold demand; split <;> simp_all

/-- A look-up of a script. -/
def fetched {α : Type} (x : Option α) (e : SyncError) : Except SyncError α :=
  match x with
  | some a => .ok a
  | none => .error e

@[simp] lemma fetched_ok {α : Type} {x : Option α} {e : SyncError} {a : α} :
    fetched x e = .ok a ↔ x = some a := by
  cases x <;> simp [fetched]

/-! ### `sync_permissions` -/

/-- What the row says of its permission. -/
def StoredPermission.declaration (row : StoredPermission) : DeclaredPermission :=
  ⟨⟨row.module, row.resource, row.action⟩, row.description⟩

/-- The columns hold the values. -/
def StoredPermission.Fits (row : StoredPermission) : Prop :=
  varchar 100 (some row.code) = true ∧ varchar 40 (some row.module) = true ∧
    varchar 60 (some row.resource) = true ∧ varchar 30 (some row.action) = true ∧
    varchar 255 (some row.description) = true

instance StoredPermission.decidableFits (row : StoredPermission) : Decidable row.Fits :=
  inferInstanceAs (Decidable (_ ∧ _ ∧ _ ∧ _ ∧ _))

namespace SyncPermissions

/-- The row of a new permission. -/
def newRow (p : DeclaredPermission) (id : Ulid) : StoredPermission :=
  ⟨id, p.code, p.module, p.resource, p.action, p.description⟩

/-- The row with the values of the declaration. -/
def applyDeclaration (p : DeclaredPermission) (row : StoredPermission) : StoredPermission :=
  { row with
    module := p.module
    resource := p.resource
    action := p.action
    description := p.description }

/-- One turn of the loop: the row of the code is added, or brought up to date. -/
def declare (existing rows : List StoredPermission) (p : DeclaredPermission) (id : Ulid) :
    List StoredPermission :=
  match Tables.get StoredPermission.code p.code existing with
  | none => rows ++ [newRow p id]
  | some row =>
    if row.declaration = p then rows
    else Tables.set StoredPermission.id row.id (applyDeclaration p) rows

/-- The ids of the rows that are not declared. -/
def stale (existing : List StoredPermission) (declared : List DeclaredPermission) : List Ulid :=
  (existing.filter fun row => row.code ∉ declared.map (·.code)).map StoredPermission.id

/-- `main`, once the registry is there. -/
def run (declared : List DeclaredPermission) (draw : ℕ → Ulid) (db : CatalogDB) :
    Except SyncError CatalogDB := do
  let existing := db.permissions
  let rows := declared.zipIdx.foldl (fun rows pn => declare existing rows pn.1 (draw pn.2)) existing
  demand ((rows.map StoredPermission.id).Nodup ∧ (rows.map StoredPermission.code).Nodup ∧
    ∀ row ∈ rows, row.Fits) .integrityError
  return { db with
    permissions := rows.filter (·.id ∉ stale existing declared)
    rolePermissions := db.rolePermissions.filter (·.permissionId ∉ stale existing declared) }

/-- `python -m scripts.sync_permissions`. -/
def main (draw : ℕ → Ulid) (db : CatalogDB) : Except SyncError CatalogDB := do
  let registry ← fetched (registryOf syncPermissionsImports) .valueError
  run registry draw db

end SyncPermissions

/-! ### `sync_roles` -/

namespace SyncRoles

/-- The role of an entry. -/
def systemRole (db : CatalogDB) (code : String) : Option StoredRole :=
  db.roles.find? fun r => r.code = code ∧ r.organizationId = none ∧ r.deletedAt = none

/-- A role that is added. -/
def newRole (d : RoleDefinition) (id : Ulid) : StoredRole where
  toRole := { Role.new id none d.code d.name (some d.description) d.scopeLevel d.dataScope none with
    isSystem := true }
  deletedAt := none

/-- The row of the role with the values of the entry. -/
def applyDefinition (d : RoleDefinition) (r : StoredRole) : StoredRole :=
  { r with
    name := d.name
    description := some d.description
    scopeLevel := d.scopeLevel
    dataScope := d.dataScope }

/-- The role is added or brought up to date. -/
def writeRole (db : CatalogDB) (d : RoleDefinition) (id : Ulid) :
    Except SyncError (StoredRole × List StoredRole) :=
  match systemRole db d.code with
  | none => do
    let role := newRole d id
    demand (Tables.Inserts (fun r : StoredRole => r.id) [role] db.roles ∧
      Tables.Inserts (fun r : StoredRole => (r.organizationId, r.code)) [role] db.roles)
      .integrityError
    return (role, db.roles ++ [role])
  | some role =>
    let row := flushed StoredRole.touch role (applyDefinition d role)
    return (row, Tables.set (fun r : StoredRole => r.id) role.id (fun _ => row) db.roles)

/-- The codes of the entry that the role is not linked to, in the order of the links to add. -/
def missing (permissionRows : List StoredPermission) (linked : List (RolePermission × String))
    (d : RoleDefinition) : List String :=
  let current := (linked.map Prod.snd).filter (· ∈ permissionRows.map StoredPermission.code)
  (d.permissions.dedup.filter (· ∉ current)).mergeSort (· ≤ ·)

/-- One turn of the loop: the role of an entry, and its links. -/
def syncRole (permissionRows : List StoredPermission) (draw : ℕ → Ulid) (db : CatalogDB)
    (d : RoleDefinition) : Except SyncError CatalogDB := do
  let (role, roles) ← writeRole db d (draw 0)
  let linked := linkCodes db.toDB role.id
  let stale := (linked.filter fun lc => lc.2 ∉ d.permissions).map Prod.fst
  let links ← (missing permissionRows linked d).zipIdx.mapM fun cn => do
    let p ← fetched (Tables.get StoredPermission.code cn.1 permissionRows) (.keyError cn.1)
    return (⟨draw (cn.2 + 1), role.id, p.id, none⟩ : RolePermission)
  -- the unit of work inserts before it deletes
  demand (PermissionLinksInsert links db.rolePermissions) .integrityError
  return { db with
    roles := roles
    rolePermissions := db.rolePermissions.filter (· ∉ stale) ++ links }

/-- `main`, once registry and catalogue are there. -/
def run (registry : List DeclaredPermission) (catalog : List RoleDefinition)
    (draws : ℕ → ℕ → Ulid) (db : CatalogDB) : Except SyncError CatalogDB := do
  catalog.forM fun d => d.permissions.forM fun code =>
    demand (code ∈ registry.map (·.code)) (.notRegistered code)
  catalog.zipIdx.foldlM (fun db' dn => syncRole db.permissions (draws dn.2) db' dn.1) db

/-- `python -m scripts.sync_roles`. -/
def main (draws : ℕ → ℕ → Ulid) (db : CatalogDB) : Except SyncError CatalogDB := do
  let registry ← fetched (registryOf syncRolesImports) .valueError
  run registry (roleCatalog registry) draws db

end SyncRoles

/-! ### What a run that completes has seen -/

section Completed

variable {declared : List DeclaredPermission} {catalog : List RoleDefinition} {draw : ℕ → Ulid}
  {draws : ℕ → ℕ → Ulid} {db db' : CatalogDB} {d : RoleDefinition}

namespace SyncPermissions

/-- The columns of a row that the script does not write again. -/
def key (row : StoredPermission) : Ulid × String := (row.id, row.code)

/-- The declarations whose code is new, with the ids they get. -/
def added (existing : List StoredPermission) (draw : ℕ → Ulid)
    (declared : List (DeclaredPermission × ℕ)) : List (Ulid × String) :=
  (declared.filter fun pn => pn.1.code ∉ existing.map StoredPermission.code).map fun pn =>
    (draw pn.2, pn.1.code)

/-- The loop of `run` over the declarations that are left. -/
def declareAll (existing : List StoredPermission) (draw : ℕ → Ulid) (rows : List StoredPermission)
    (declared : List (DeclaredPermission × ℕ)) : List StoredPermission :=
  declared.foldl (fun rows pn => declare existing rows pn.1 (draw pn.2)) rows

lemma declare_none {existing rows : List StoredPermission} {p : DeclaredPermission} {id : Ulid}
    (h : Tables.get StoredPermission.code p.code existing = none) :
    declare existing rows p id = rows ++ [newRow p id] := by
  rw [declare, h]

lemma declare_some {existing rows : List StoredPermission} {p : DeclaredPermission} {id : Ulid}
    {row : StoredPermission} (h : Tables.get StoredPermission.code p.code existing = some row) :
    declare existing rows p id = if row.declaration = p then rows
      else Tables.set StoredPermission.id row.id (applyDeclaration p) rows := by
  rw [declare, h]

lemma key_declare {existing rows : List StoredPermission} (p : DeclaredPermission) (n : ℕ) :
    (declare existing rows p (draw n)).map key = rows.map key ++ added existing draw [(p, n)] := by
  cases hfind : Tables.get StoredPermission.code p.code existing with
  | none =>
    -- The code is new: one more row.
    have hnew : p.code ∉ existing.map StoredPermission.code := by
      intro hmem
      obtain ⟨row, hrow, hcode⟩ := List.mem_map.mp hmem
      have hsome := Tables.get_isSome.mpr ⟨row, hrow, hcode⟩
      rw [hfind] at hsome
      cases hsome
    have hadded : added existing draw [(p, n)] = [(draw n, p.code)] := by
      rw [added, List.filter_eq_self.mpr fun pn hpn => ?_]
      · rfl
      · exact decide_eq_true (List.mem_singleton.mp hpn ▸ hnew)
    rw [declare_none hfind, hadded, List.map_append]
    rfl
  | some row =>
    -- It has a row, which keeps its key.
    have hold : p.code ∈ existing.map StoredPermission.code :=
      List.mem_map.mpr ⟨row, Tables.get_mem hfind⟩
    have hadded : added existing draw [(p, n)] = [] := by
      rw [added, List.filter_eq_nil_iff.mpr fun pn hpn hnot => ?_]
      · rfl
      · rw [List.mem_singleton.mp hpn] at hnot
        exact of_decide_eq_true hnot hold
    have hwritten : (Tables.set StoredPermission.id row.id (applyDeclaration p) rows).map key =
        rows.map key := by
      refine Tables.map_set key (fun r => ?_) rows
      rfl
    rw [declare_some hfind, hadded, List.append_nil]
    by_cases hsame : row.declaration = p
    · rw [if_pos hsame]
    · rw [if_neg hsame, hwritten]

/-- The rows after the loop: the old ones, and one for each code that is new. -/
lemma key_declareAll (existing rows : List StoredPermission)
    (declared : List (DeclaredPermission × ℕ)) :
    (declareAll existing draw rows declared).map key =
      rows.map key ++ added existing draw declared := by
  induction declared generalizing rows with
  | nil => exact (List.append_nil _).symm
  | cons pn declared ih =>
    have hcons : added existing draw (pn :: declared) =
        added existing draw [pn] ++ added existing draw declared := by
      rw [added, added, added, ← List.map_append, ← List.filter_append]
      rfl
    rw [declareAll, List.foldl_cons, ← declareAll, ih, key_declare, hcons, List.append_assoc]

@[simp] lemma map_fst_key (rows : List StoredPermission) :
    (rows.map key).map Prod.fst = rows.map StoredPermission.id := List.map_map

@[simp] lemma map_snd_key (rows : List StoredPermission) :
    (rows.map key).map Prod.snd = rows.map StoredPermission.code := List.map_map

lemma ids_declareAll (existing rows : List StoredPermission)
    (declared : List (DeclaredPermission × ℕ)) :
    (declareAll existing draw rows declared).map StoredPermission.id =
      rows.map StoredPermission.id ++ (added existing draw declared).map Prod.fst := by
  rw [← map_fst_key, key_declareAll, List.map_append, map_fst_key]

lemma codes_declareAll (existing rows : List StoredPermission)
    (declared : List (DeclaredPermission × ℕ)) :
    (declareAll existing draw rows declared).map StoredPermission.code =
      rows.map StoredPermission.code ++ (added existing draw declared).map Prod.snd := by
  rw [← map_snd_key, key_declareAll, List.map_append, map_snd_key]

lemma run_ok : run declared draw db = .ok db' ↔
    let rows := declareAll db.permissions draw db.permissions declared.zipIdx
    ((rows.map StoredPermission.id).Nodup ∧ (rows.map StoredPermission.code).Nodup ∧
      ∀ row ∈ rows, row.Fits) ∧
    { db with
      permissions := rows.filter (·.id ∉ stale db.permissions declared)
      rolePermissions :=
        db.rolePermissions.filter (·.permissionId ∉ stale db.permissions declared) } = db' := by
  rw [run, bind_ok]
  simp only [demand_ok, pure_ok, exists_const]
  rfl

/-- After `sync_permissions` no other code has a row. -/
theorem run_declared (h : run declared draw db = .ok db') :
    ∀ row ∈ db'.permissions, row.code ∈ declared.map (·.code) := by
  obtain ⟨-, rfl⟩ := run_ok.mp h
  intro row hrow
  obtain ⟨hmem, hkept⟩ := List.mem_filter.mp hrow
  have hkey : key row ∈ (declareAll db.permissions draw db.permissions declared.zipIdx).map key :=
    List.mem_map_of_mem hmem
  rw [key_declareAll] at hkey
  rcases List.mem_append.mp hkey with hold | hnew
  · obtain ⟨old, hin, he⟩ := List.mem_map.mp hold
    obtain ⟨hid, hcode⟩ := Prod.mk.inj he
    by_contra hnot
    refine of_decide_eq_true hkept (hid ▸ List.mem_map_of_mem (List.mem_filter.mpr ⟨hin, ?_⟩))
    exact decide_eq_true (hcode ▸ hnot)
  · obtain ⟨⟨p, n⟩, hp, he⟩ := List.mem_map.mp hnew
    have hdeclared : p ∈ declared := List.fst_mem_of_mem_zipIdx (List.mem_filter.mp hp).1
    exact (Prod.mk.inj he).2 ▸ List.mem_map_of_mem hdeclared

end SyncPermissions

namespace SyncRoles

lemma exists_zipIdx {α : Type} {l : List α} {a : α} (h : a ∈ l) : ∃ n, (a, n) ∈ l.zipIdx := by
  rw [← List.zipIdx_map_fst 0 l] at h
  obtain ⟨⟨a, n⟩, hmem, rfl⟩ := List.mem_map.mp h
  exact ⟨n, hmem⟩

lemma links_known {permissionRows : List StoredPermission}
    {linked : List (RolePermission × String)} {roleId : Ulid} {links : List RolePermission}
    (h : ((missing permissionRows linked d).zipIdx.mapM fun cn => do
      let p ← fetched (Tables.get StoredPermission.code cn.1 permissionRows) (.keyError cn.1)
      return (⟨draw (cn.2 + 1), roleId, p.id, none⟩ : RolePermission)) = .ok links) :
    ∀ c ∈ d.permissions, c ∈ permissionRows.map StoredPermission.code := by
  intro c hc
  by_contra hnot
  have hmissing : c ∈ missing permissionRows linked d := by
    refine List.mem_mergeSort.mpr (List.mem_filter.mpr ⟨List.mem_dedup.mpr hc, ?_⟩)
    exact decide_eq_true fun hcurrent => hnot (of_decide_eq_true (List.mem_filter.mp hcurrent).2)
  obtain ⟨n, hzip⟩ := exists_zipIdx hmissing
  obtain ⟨link, -, hlink⟩ := mapM_ok h (c, n) hzip
  obtain ⟨p, hp, -⟩ := bind_ok.mp hlink
  exact hnot (List.mem_map.mpr ⟨p, Tables.get_mem (fetched_ok.mp hp)⟩)

lemma syncRole_ok {permissionRows : List StoredPermission}
    (h : syncRole permissionRows draw db d = .ok db') :
    ∀ c ∈ d.permissions, c ∈ permissionRows.map StoredPermission.code := by
  obtain ⟨⟨role, roles⟩, -, h⟩ := bind_ok.mp h
  obtain ⟨links, hlinks, -⟩ := bind_ok.mp h
  exact links_known hlinks

/-- The dictionary of the rows has no entry for a code without a row. -/
lemma syncRole_keyError {permissionRows : List StoredPermission} {role : StoredRole}
    {roles : List StoredRole} {c : String} (hwrite : writeRole db d (draw 0) = .ok (role, roles))
    (hc : c ∈ d.permissions) (hunknown : c ∉ permissionRows.map StoredPermission.code) :
    ∃ code, syncRole permissionRows draw db d = .error (.keyError code) := by
  rw [syncRole, hwrite, ok_bind]
  dsimp only
  cases hlinks : (missing permissionRows (linkCodes db.toDB role.id) d).zipIdx.mapM fun cn => do
      let p ← fetched (Tables.get StoredPermission.code cn.1 permissionRows) (.keyError cn.1)
      return (⟨draw (cn.2 + 1), role.id, p.id, none⟩ : RolePermission) with
  | ok links => exact absurd (links_known hlinks c hc) hunknown
  | error e =>
    obtain ⟨cn, -, he⟩ := mapM_error hlinks
    refine ⟨cn.1, ?_⟩
    cases hget : Tables.get StoredPermission.code cn.1 permissionRows with
    | none =>
      rw [hget] at he
      cases he
      rfl
    | some p =>
      rw [hget] at he
      cases he

/-- Where the loop over the catalogue goes through, every code of it has a row. -/
theorem run_known {registry : List DeclaredPermission}
    (h : run registry catalog draws db = .ok db') :
    ∀ d ∈ catalog, ∀ c ∈ d.permissions, c ∈ db.permissions.map StoredPermission.code := by
  obtain ⟨-, -, h⟩ := bind_ok.mp h
  intro d hd
  obtain ⟨n, hzip⟩ := exists_zipIdx hd
  obtain ⟨t, t', hturn⟩ := foldlM_ok h (d, n) hzip
  exact syncRole_ok hturn

end SyncRoles

end Completed

end SchoolOs
