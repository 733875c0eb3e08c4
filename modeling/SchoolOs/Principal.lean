import Mathlib.Data.Finmap
import SchoolOs.Models
import SchoolOs.Runs

/-!
Who is acting and what they may touch: the resolution of an authenticated user into a
principal for one request.

The active school is the one the `X-School-ID` header names, provided the user can reach it;
without a header the default membership's; otherwise the only one the user can reach;
otherwise none.
-/

namespace SchoolOs

/-- The order in which the database returns the rows of the queries without `ORDER BY`: some
permutation of the rows selected, for each of the three collections that are loaded. -/
structure RowOrder where
  memberships : List Membership → List Membership
  roleLinks : List MembershipRole → List MembershipRole
  permissionLinks : List RolePermission → List RolePermission
  memberships_perm : ∀ l, (memberships l).Perm l
  roleLinks_perm : ∀ l, (roleLinks l).Perm l
  permissionLinks_perm : ∀ l, (permissionLinks l).Perm l

/-- Rows as the heap holds them. -/
def RowOrder.heap : RowOrder where
  memberships := id
  roleLinks := id
  permissionLinks := id
  memberships_perm := List.Perm.refl
  roleLinks_perm := List.Perm.refl
  permissionLinks_perm := List.Perm.refl

abbrev Scopes := Finmap fun _ : String => DataScope

structure Principal where
  userId : Ulid
  personId : Option Ulid
  email : Option String
  organizationId : Option Ulid
  schoolId : Option Ulid
  accessibleSchoolIds : Finset Ulid
  permissions : Finset String
  permissionScopes : Scopes
  roleCodes : Finset String
  scope : Option DataScope
  isPlatformAdmin : Bool

section Resolve

variable (db : DB) (ord : RowOrder) (clk : Clock)

def loadUser (userId : Ulid) : Fallible User := do
  let user ← found (Tables.get User.id userId db.users) authenticationError
  ensure (user.deletedAt = none) authenticationError
  ensure (user.status = .active) accountInactiveError
  return user

def withinDates (membership : Membership) (today : Date) : Bool :=
  !(membership.startDate.any (· > today)) && !(membership.endDate.any (· < today))

def loadActiveMemberships (userId : Ulid) : List Membership :=
  (ord.memberships (db.memberships.filter fun m => m.userId = userId ∧ m.status = .active)).filter
    (withinDates · clk.today)

/-- The schools of an organization an organization-wide membership reaches. -/
def openSchoolIds (organizationId : Ulid) : List Ulid :=
  (db.schools.filter fun s => s.organizationId = organizationId ∧ s.deletedAt = none ∧
    (s.status = .active ∨ s.status = .setup)).map School.id

/-- A Python set, as a list without repetitions. -/
def accessibleSchoolIds (memberships : List Membership) (organizationId : Ulid) : List Ulid :=
  let explicit := memberships.filterMap Membership.schoolId
  let hasOrgLevel := memberships.any (·.schoolId = none)
  (explicit ++ if hasOrgLevel then openSchoolIds db organizationId else []).dedup

/-- The school of the first default membership that has one. -/
def defaultSchool (memberships : List Membership) : Option Ulid :=
  memberships.findSome? fun m => if m.isDefault then m.schoolId else none

/-- `next(iter(s)) if len(s) == 1 else None`. -/
def onlyOne : List Ulid → Option Ulid
  | [s] => some s
  | _ => none

def selectActiveSchool (memberships : List Membership) (accessible : List Ulid) :
    Option String → Fallible (Option Ulid)
  | some requested => do
    let s ← found (accessible.find? (·.text = requested)) tenantContextError
    return some s
  | none =>
    match (defaultSchool memberships).filter (· ∈ accessible) with
    | some s => return some s
    | none => return onlyOne accessible

/-- `membership.role_links`. -/
def roleLinks (membership : Membership) : List MembershipRole :=
  ord.roleLinks (db.membershipRoles.filter (·.membershipId = membership.id))

/-- `role.permission_links`. -/
def permissionLinks (role : Role) : List RolePermission :=
  ord.permissionLinks (db.rolePermissions.filter (·.roleId = role.id))

/-- The body of the innermost loop of `_collect_grants`. -/
def addPermission (grantScope : DataScope) (scopes : Scopes) (permLink : RolePermission) :
    Scopes :=
  match Tables.get PermissionRow.id permLink.permissionId db.permissions with
  | none => scopes
  | some permission =>
    let permScope := permLink.dataScope.getD grantScope
    match scopes.lookup permission.code with
    | none => scopes.insert permission.code permScope
    | some existing =>
      if permScope.strength > existing.strength then scopes.insert permission.code permScope
      else scopes

/-- The body of the loop over the role links of a membership. -/
def addLink (acc : Scopes × Finset String) (link : MembershipRole) : Scopes × Finset String :=
  if link.expiresAt.any (· ≤ clk.now) then acc
  else match Tables.get Role.id link.roleId db.roles with
    | none => acc
    | some role =>
      if role.archivedAt ≠ none then acc
      else
        let grantScope := link.dataScope.getD role.dataScope
        ((permissionLinks db ord role).foldl (addPermission db grantScope) acc.1,
          insert role.code acc.2)

def collectGrants (memberships : List Membership) : Scopes × Finset String :=
  memberships.foldl (fun acc m => (roleLinks db ord m).foldl (addLink db ord clk) acc) (∅, ∅)

/-- `set(scopes.values())`. -/
def Scopes.values (scopes : Scopes) : Finset DataScope :=
  ({.own, .assigned, .school, .organization, .platform} : Finset DataScope).filter fun s =>
    ∃ c ∈ scopes.keys, scopes.lookup c = some s

/-- The school platform staff select. The column type of ids reads any letter case and raises
on another length. -/
def platformSchool : Option String → Fallible (Option School)
  | none => return none
  | some requested => do
    ensure (requested.length = 26) internalError
    let school ← found (db.schools.find? (·.id.text = requested.toUpper)) tenantContextError
    ensure (school.deletedAt = none) tenantContextError
    return some school

/-- Platform staff bypass tenancy but still get a concrete school when they select one. -/
def platformPrincipal (user : User) (requestedSchoolId : Option String) : Fallible Principal := do
  let school ← platformSchool db requestedSchoolId
  return {
    userId := user.id, personId := user.personId, email := user.email,
    organizationId := school.map School.organizationId, schoolId := school.map School.id,
    accessibleSchoolIds := ∅, permissions := ∅, permissionScopes := ∅,
    roleCodes := {"SUPER_ADMIN"}, scope := some .platform, isPlatformAdmin := true }

/-- The principal of a user attached to nothing: every tenant route denies. -/
def unattachedPrincipal (user : User) : Principal where
  userId := user.id
  personId := user.personId
  email := user.email
  organizationId := none
  schoolId := none
  accessibleSchoolIds := ∅
  permissions := ∅
  permissionScopes := ∅
  roleCodes := ∅
  scope := none
  isPlatformAdmin := false

/-- The principal of a tenant user, once the active school is chosen. -/
def tenantPrincipal (user : User) (memberships : List Membership) (organizationId : Ulid)
    (accessible : List Ulid) (activeSchoolId : Option Ulid) : Principal :=
  let applicable := memberships.filter fun m => m.schoolId = none ∨ m.schoolId = activeSchoolId
  let grants := collectGrants db ord clk applicable
  { userId := user.id
    personId := user.personId
    email := user.email
    organizationId := some organizationId
    schoolId := activeSchoolId
    accessibleSchoolIds := accessible.toFinset
    permissions := grants.1.keys
    permissionScopes := grants.1
    roleCodes := grants.2
    scope := DataScope.strongest grants.1.values
    isPlatformAdmin := false }

def resolvePrincipal (userId : Ulid) (requestedSchoolId : Option String) : Fallible Principal := do
  let user ← loadUser db userId
  if user.isPlatformAdmin then
    platformPrincipal db user requestedSchoolId
  else
    let memberships := loadActiveMemberships db ord clk userId
    match memberships.head? with
    | none => return unattachedPrincipal user
    | some first =>
      let accessible := accessibleSchoolIds db memberships first.organizationId
      let activeSchoolId ← selectActiveSchool memberships accessible requestedSchoolId
      return tenantPrincipal db ord clk user memberships first.organizationId accessible
        activeSchoolId

end Resolve

/-! ### Which rows are loaded -/

lemma mem_loadActiveMemberships {db : DB} {ord : RowOrder} {clk : Clock} {userId : Ulid}
    {m : Membership} : m ∈ loadActiveMemberships db ord clk userId ↔
      m ∈ db.memberships ∧ m.userId = userId ∧ m.status = .active ∧
        withinDates m clk.today = true := by
  simp [loadActiveMemberships, (ord.memberships_perm _).mem_iff, and_assoc]

lemma mem_openSchoolIds {db : DB} {o s : Ulid} : s ∈ openSchoolIds db o ↔
    ∃ school ∈ db.schools, school.id = s ∧ school.organizationId = o ∧
      school.deletedAt = none ∧ (school.status = .active ∨ school.status = .setup) := by
  simp only [openSchoolIds, List.mem_map, List.mem_filter, decide_eq_true_eq]
  exact ⟨fun ⟨x, ⟨hx, h⟩, he⟩ => ⟨x, hx, he, h⟩, fun ⟨x, hx, he, h⟩ => ⟨x, ⟨hx, h⟩, he⟩⟩

lemma mem_accessibleSchoolIds {db : DB} {ms : List Membership} {o s : Ulid} :
    s ∈ accessibleSchoolIds db ms o ↔
      (∃ m ∈ ms, m.schoolId = some s) ∨
        (∃ m ∈ ms, m.schoolId = none) ∧ s ∈ openSchoolIds db o := by
  unfold accessibleSchoolIds
  by_cases h : ∃ m ∈ ms, m.schoolId = none <;> simp [h]

/-! ### Which school is active -/

/-- The rule of the module: the header, else the default membership, else the only school. -/
inductive Picks (memberships : List Membership) (accessible : List Ulid) :
    Option String → Ulid → Prop
  | header {s : Ulid} : s ∈ accessible → Picks memberships accessible (some s.text) s
  | default {s : Ulid} : defaultSchool memberships = some s → s ∈ accessible →
      Picks memberships accessible none s
  | only {s : Ulid} : (∀ d, defaultSchool memberships = some d → d ∉ accessible) →
      accessible = [s] → Picks memberships accessible none s

lemma Picks.mem {ms : List Membership} {acc : List Ulid} {req : Option String} {s : Ulid}
    (h : Picks ms acc req s) : s ∈ acc := by
  cases h with
  | header h => exact h
  | default _ h => exact h
  | only _ h => simp [h]

lemma onlyOne_eq_some {l : List Ulid} {s : Ulid} : onlyOne l = some s ↔ l = [s] := by
  unfold onlyOne
  split <;> simp_all

/-- `_select_active_school` follows the rule. -/
theorem selectActiveSchool_some {ms : List Membership} {acc : List Ulid} {req : Option String}
    {s : Ulid} : selectActiveSchool ms acc req = .ok (some s) ↔ Picks ms acc req s := by
  refine ⟨?_, ?_⟩
  · intro h
    cases req with
    | some r =>
      -- The header names a school within reach.
      simp only [selectActiveSchool, bind_ok, found_ok, pure_ok, Option.some.injEq] at h
      obtain ⟨t, hr, rfl⟩ := h
      obtain rfl : t.text = r := by simpa using List.find?_some hr
      exact .header (List.mem_of_find?_eq_some hr)
    | none =>
      -- Without a header the default school comes first, and then the only one.
      simp only [selectActiveSchool] at h
      split at h
      · next d hd =>
        obtain ⟨hd, hacc⟩ := Option.filter_eq_some_iff.mp hd
        obtain rfl : d = s := by simpa using h
        exact .default hd (by simpa using hacc)
      · next hd =>
        refine .only (fun d hdef hacc => ?_) (onlyOne_eq_some.mp (by simpa using h))
        simp [hdef, hacc] at hd
  · intro h
    cases h with
    | header h =>
      have hfind : acc.find? (·.text = s.text) = some s := by
        have hsome : (acc.find? (·.text = s.text)).isSome := by simpa using h
        obtain ⟨t, ht⟩ := Option.isSome_iff_exists.mp hsome
        obtain rfl : t = s := by simpa using List.find?_some ht
        exact ht
      simp only [selectActiveSchool, hfind, bind_ok, found_ok, pure_ok]
      exact ⟨s, rfl, rfl⟩
    | default hd hacc =>
      have hsome : (defaultSchool ms).filter (· ∈ acc) = some s := by simp [hd, hacc]
      simp only [selectActiveSchool, hsome, pure_ok]
    | only hd hacc =>
      have hnone : (defaultSchool ms).filter (· ∈ acc) = none := by
        cases hdef : defaultSchool ms with
        | none => rfl
        | some d => simp [hd d hdef]
      simp only [selectActiveSchool, hnone]
      simp [onlyOne_eq_some.mpr hacc]

/-! ### Which permissions are granted -/

/-- A live role link of the membership carries the code: it has not expired, its role is not
archived, and a permission link of the role names the code. -/
def Carries (db : DB) (clk : Clock) (m : Membership) (code : String) : Prop :=
  ∃ link ∈ db.membershipRoles, link.membershipId = m.id ∧
    (∀ e, link.expiresAt = some e → clk.now < e) ∧
    ∃ role, Tables.get Role.id link.roleId db.roles = some role ∧ role.archivedAt = none ∧
      ∃ permLink ∈ db.rolePermissions, permLink.roleId = role.id ∧
        ∃ p, Tables.get PermissionRow.id permLink.permissionId db.permissions = some p ∧
          p.code = code

variable {db : DB} {ord : RowOrder} {clk : Clock}

lemma mem_addPermission (db : DB) (c : String) (g : DataScope) (scopes : Scopes)
    (pl : RolePermission) :
    c ∈ (addPermission db g scopes pl).keys ↔ c ∈ scopes.keys ∨
      ∃ p, Tables.get PermissionRow.id pl.permissionId db.permissions = some p ∧ p.code = c := by
  unfold addPermission
  split
  · next h => simp [h]
  · next p h =>
    simp only [h, Option.some.injEq, exists_eq_left', Finmap.mem_keys]
    split
    · simp [Finmap.mem_insert, or_comm, eq_comm]
    · next e he =>
      have hp : p.code ∈ scopes := Finmap.mem_of_lookup_eq_some he
      split
      · simp [Finmap.mem_insert, or_comm, eq_comm]
      · exact ⟨Or.inl, fun h => h.elim id fun h => h ▸ hp⟩

lemma mem_addLink (db : DB) (ord : RowOrder) (clk : Clock) (c : String)
    (acc : Scopes × Finset String) (link : MembershipRole) :
    c ∈ (addLink db ord clk acc link).1.keys ↔ c ∈ acc.1.keys ∨
      (∀ e, link.expiresAt = some e → clk.now < e) ∧
      ∃ role, Tables.get Role.id link.roleId db.roles = some role ∧ role.archivedAt = none ∧
        ∃ pl ∈ db.rolePermissions, pl.roleId = role.id ∧
          ∃ p, Tables.get PermissionRow.id pl.permissionId db.permissions = some p ∧
            p.code = c := by
  have hexp : link.expiresAt.any (· ≤ clk.now) = false ↔
      ∀ e, link.expiresAt = some e → clk.now < e := by
    cases link.expiresAt <;> simp
  unfold addLink
  split
  · -- The link has expired.
    next h => simp [← hexp, h]
  · next h =>
    simp only [Bool.not_eq_true] at h
    simp only [← hexp, h, true_and]
    split
    · next hr => simp [hr]
    · next role hr =>
      simp only [hr, Option.some.injEq, exists_eq_left']
      split
      · -- The role is archived.
        next ha => simp [ha]
      · next ha =>
        have hgather := Runs.gathers (M := fun scopes : Scopes => c ∈ scopes.keys)
          (mem_addPermission db c (link.dataScope.getD role.dataScope))
          (permissionLinks db ord role) acc.1
        simp only [Runs.run] at hgather
        simp only [not_not] at ha
        rw [hgather]
        simp [ha, permissionLinks, (ord.permissionLinks_perm _).mem_iff, and_assoc]

/-- **The codes `_collect_grants` returns** are those a membership of the list carries. -/
theorem mem_collectGrants {ms : List Membership} {c : String} :
    c ∈ (collectGrants db ord clk ms).1.keys ↔ ∃ m ∈ ms, Carries db clk m c := by
  have hlinks : ∀ (acc : Scopes × Finset String) (m : Membership),
      c ∈ ((roleLinks db ord m).foldl (addLink db ord clk) acc).1.keys ↔
        c ∈ acc.1.keys ∨ Carries db clk m c := by
    intro acc m
    have hgather := Runs.gathers (M := fun acc : Scopes × Finset String => c ∈ acc.1.keys)
      (mem_addLink db ord clk c) (roleLinks db ord m) acc
    simp only [Runs.run] at hgather
    rw [hgather]
    simp [Carries, roleLinks, (ord.roleLinks_perm _).mem_iff, and_assoc]
  have hgather := Runs.gathers (M := fun acc : Scopes × Finset String => c ∈ acc.1.keys)
    hlinks ms (∅, ∅)
  simpa [Runs.run, collectGrants] using hgather

/-! ### What is resolved -/

lemma loadUser_ok {userId : Ulid} {user : User} : loadUser db userId = .ok user ↔
    Tables.get User.id userId db.users = some user ∧ user.deletedAt = none ∧
      user.status = .active := by
  simp only [loadUser, bind_ok, found_ok, ensure_ok, pure_ok]
  refine ⟨?_, ?_⟩
  · rintro ⟨u, hu, _, hd, _, hs, rfl⟩
    exact ⟨hu, hd, hs⟩
  · rintro ⟨hu, hd, hs⟩
    exact ⟨user, hu, (), hd, (), hs, rfl⟩

lemma resolvePrincipal_unattached {userId : Ulid} {user : User} {req : Option String}
    (hu : loadUser db userId = .ok user) (ha : user.isPlatformAdmin = false)
    (hm : (loadActiveMemberships db ord clk userId).head? = none) :
    resolvePrincipal db ord clk userId req = .ok (unattachedPrincipal user) := by
  simp only [resolvePrincipal, hu, ok_bind, ha, hm]
  rfl

/-- A tenant user with live memberships resolves to the principal of the school that is
chosen. -/
lemma resolvePrincipal_tenant {userId : Ulid} {user : User} {first : Membership}
    {req : Option String} {p : Principal} (hu : loadUser db userId = .ok user)
    (ha : user.isPlatformAdmin = false)
    (hm : (loadActiveMemberships db ord clk userId).head? = some first) :
    resolvePrincipal db ord clk userId req = .ok p ↔
      ∃ s, selectActiveSchool (loadActiveMemberships db ord clk userId)
          (accessibleSchoolIds db (loadActiveMemberships db ord clk userId) first.organizationId)
          req = .ok s ∧
        tenantPrincipal db ord clk user (loadActiveMemberships db ord clk userId)
          first.organizationId
          (accessibleSchoolIds db (loadActiveMemberships db ord clk userId) first.organizationId)
          s = p := by
  simp [resolvePrincipal, map_ok, hu, ha, hm]

/-- What a resolved principal is: platform staff, attached to nothing, or a tenant user. -/
inductive Resolves (db : DB) (ord : RowOrder) (clk : Clock) (userId : Ulid)
    (req : Option String) : Principal → Prop
  | platform {user : User} {p : Principal} : loadUser db userId = .ok user →
      user.isPlatformAdmin = true → platformPrincipal db user req = .ok p →
      Resolves db ord clk userId req p
  | unattached {user : User} : loadUser db userId = .ok user → user.isPlatformAdmin = false →
      loadActiveMemberships db ord clk userId = [] →
      Resolves db ord clk userId req (unattachedPrincipal user)
  | tenant {user : User} {first : Membership} {s : Option Ulid} :
      loadUser db userId = .ok user → user.isPlatformAdmin = false →
      (loadActiveMemberships db ord clk userId).head? = some first →
      selectActiveSchool (loadActiveMemberships db ord clk userId)
        (accessibleSchoolIds db (loadActiveMemberships db ord clk userId) first.organizationId)
        req = .ok s →
      Resolves db ord clk userId req
        (tenantPrincipal db ord clk user (loadActiveMemberships db ord clk userId)
          first.organizationId
          (accessibleSchoolIds db (loadActiveMemberships db ord clk userId) first.organizationId)
          s)

theorem resolvePrincipal_ok {userId : Ulid} {req : Option String} {p : Principal} :
    resolvePrincipal db ord clk userId req = .ok p ↔ Resolves db ord clk userId req p := by
  refine ⟨?_, ?_⟩
  · intro h
    cases hu : loadUser db userId with
    | error e => simp [resolvePrincipal, hu] at h
    | ok user =>
      by_cases ha : user.isPlatformAdmin = true
      · refine .platform hu ha ?_
        simpa [resolvePrincipal, hu, ha] using h
      · simp only [Bool.not_eq_true] at ha
        cases hm : (loadActiveMemberships db ord clk userId).head? with
        | none =>
          rw [resolvePrincipal_unattached hu ha hm] at h
          obtain rfl : unattachedPrincipal user = p := by simpa using h
          exact .unattached hu ha (List.head?_eq_none_iff.mp hm)
        | some first =>
          obtain ⟨s, hs, rfl⟩ := (resolvePrincipal_tenant hu ha hm).mp h
          exact .tenant hu ha hm hs
  · intro h
    cases h with
    | platform hu ha hp => simpa [resolvePrincipal, hu, ha] using hp
    | unattached hu ha hm => exact resolvePrincipal_unattached hu ha (by simp [hm])
    | tenant hu ha hm hs => exact (resolvePrincipal_tenant hu ha hm).mpr ⟨_, hs, rfl⟩

lemma platformPrincipal_isPlatformAdmin {user : User} {req : Option String} {p : Principal}
    (h : platformPrincipal db user req = .ok p) : p.isPlatformAdmin = true := by
  simp only [platformPrincipal, bind_ok, pure_ok] at h
  obtain ⟨_, _, rfl⟩ := h
  rfl

/-- The principal is the user's. -/
theorem resolvePrincipal_userId {userId : Ulid} {req : Option String} {p : Principal}
    (h : resolvePrincipal db ord clk userId req = .ok p) : p.userId = userId := by
  cases resolvePrincipal_ok.mp h with
  | platform hu _ hp =>
    simp only [platformPrincipal, bind_ok, pure_ok] at hp
    obtain ⟨_, _, rfl⟩ := hp
    exact (Tables.get_mem (loadUser_ok.mp hu).1).2
  | unattached hu _ _ => exact (Tables.get_mem (loadUser_ok.mp hu).1).2
  | tenant hu _ _ _ => exact (Tables.get_mem (loadUser_ok.mp hu).1).2

/-- The active school of a tenant user is one the user can reach. -/
theorem schoolId_mem_accessible {userId s : Ulid} {req : Option String} {p : Principal}
    (h : resolvePrincipal db ord clk userId req = .ok p) (ha : p.isPlatformAdmin = false)
    (hs : p.schoolId = some s) : s ∈ p.accessibleSchoolIds := by
  cases resolvePrincipal_ok.mp h with
  | platform hu _ hp => simp [platformPrincipal_isPlatformAdmin hp] at ha
  | unattached => simp [unattachedPrincipal] at hs
  | tenant hu _ hm hsel =>
    obtain rfl : _ = some s := hs
    exact List.mem_toFinset.mpr (selectActiveSchool_some.mp hsel).mem

end SchoolOs
