import SchoolOs.Roles

/-!
Membership business logic: user, school, roles.
-/

namespace SchoolOs

/-! ### Payloads -/

structure MembershipCreate where
  userId : Ulid
  schoolId : Option Ulid
  startDate : Option Date
  endDate : Option Date
  isDefault : Bool
  roleIds : List Ulid
  roleIds_length : roleIds.length ≤ 50
  datesOrdered : ∀ e ∈ endDate, ∀ s ∈ startDate, s ≤ e

/-- A request for a membership without dates. -/
def MembershipCreate.undated (userId : Ulid) (schoolId : Option Ulid) (roleIds : List Ulid)
    (h : roleIds.length ≤ 50) : MembershipCreate :=
  ⟨userId, schoolId, none, none, false, roleIds, h, by simp⟩

structure MembershipUpdate where
  status : Option MembershipStatus
  startDate : Option Date
  endDate : Option Date
  isDefault : Option Bool
  notes : Option String
  version : ℕ
  notes_length : ∀ n ∈ notes, n.length ≤ 2000
  one_le_version : 1 ≤ version

structure RoleGrantCreate where
  roleId : Ulid
  expiresAt : Option Instant
  dataScope : Option DataScope

def membershipSnapshot (m : Membership) : Snapshot :=
  [("user_id", .id m.userId), ("organization_id", .id m.organizationId),
    ("school_id", .opt .id m.schoolId), ("status", .text m.status.value),
    ("start_date", .opt .date m.startDate), ("end_date", .opt .date m.endDate),
    ("is_default", .bool m.isDefault)]

/-- The check constraint `date_order`. -/
def DateOrder (m : Membership) : Prop := ∀ e ∈ m.endDate, ∀ s ∈ m.startDate, s ≤ e

instance (m : Membership) : Decidable (DateOrder m) :=
  inferInstanceAs (Decidable (∀ e ∈ m.endDate, ∀ s ∈ m.startDate, s ≤ e))

/-! ### Data access -/

section Repository

variable (db : DB)

/-- `users.repository.get_by_id`. -/
def getUser (userId : Ulid) : Option User := Tables.get User.id userId db.users

/-- `schools.repository.get_by_id`. -/
def getSchool (organizationId schoolId : Ulid) : Option School :=
  db.schools.find? fun s =>
    s.id = schoolId ∧ s.organizationId = organizationId ∧ s.deletedAt = none

/-- `memberships.repository.get_by_id`. -/
def getMembership (organizationId membershipId : Ulid) : Option Membership :=
  db.memberships.find? fun m => m.id = membershipId ∧ m.organizationId = organizationId

def getActiveForUserSchool (userId organizationId : Ulid) (schoolId : Option Ulid) :
    Option Membership :=
  db.memberships.find? fun m =>
    m.userId = userId ∧ m.organizationId = organizationId ∧ m.schoolId = schoolId

/-- The link of a membership to a role. -/
def getRoleLink (membershipId roleId : Ulid) : Option MembershipRole :=
  db.membershipRoles.find? fun l => l.membershipId = membershipId ∧ l.roleId = roleId

end Repository

/-! ### The service -/

section Service

variable (env : Env) (clk : Clock) (ctx : RequestContext)

/-- A role that can be reached and is not archived, or the error. -/
def requireRole (db : DB) (organizationId roleId : Ulid) (e : ApiError) : Fallible Role := do
  let role ← found (getOrgRole db organizationId roleId) e
  ensure (role.archivedAt = none) e
  return role

/-- The loop over `role_ids`: one link for each, under the ids drawn. -/
def roleLinksFor (db : DB) (organizationId membershipId : Ulid) (draw : ℕ → Ulid) :
    ℕ → List Ulid → Fallible (List MembershipRole)
  | _, [] => return []
  | n, roleId :: rest => do
    let role ← requireRole db organizationId roleId
      (notFoundError "A requested role was not found." "ROLE_NOT_FOUND")
    let links ← roleLinksFor db organizationId membershipId draw (n + 1) rest
    return ⟨draw n, membershipId, role.id, none, none, ctx.userId⟩ :: links

/-- The primary key and the unique constraint of `membership_roles`. -/
def LinksInsert (db : DB) (links : List MembershipRole) : Prop :=
  Tables.Inserts MembershipRole.id links db.membershipRoles ∧
    Tables.Inserts (fun l : MembershipRole => (l.membershipId, l.roleId)) links db.membershipRoles

instance (db : DB) (links : List MembershipRole) : Decidable (LinksInsert db links) :=
  inferInstanceAs (Decidable (_ ∧ _))

namespace Memberships

/-- The membership takes the first id drawn, its role links the following ones. -/
def create (db : DB) (data : MembershipCreate) (draw : ℕ → Ulid) :
    Fallible (Membership × DB) := do
  let organizationId ← found ctx.organizationId
    (invalidRequestError "No organization context is set for this request.")
  let user ← found (getUser db data.userId)
    (notFoundError "The user was not found." "USER_NOT_FOUND")
  ensure (user.deletedAt = none) (notFoundError "The user was not found." "USER_NOT_FOUND")
  ensure (∀ s ∈ data.schoolId, (getSchool db organizationId s).isSome)
    (notFoundError "The school was not found." "SCHOOL_NOT_FOUND")
  ensureAbsent (getActiveForUserSchool db data.userId organizationId data.schoolId) fun existing =>
    conflictError "The user already has a membership for this school." "MEMBERSHIP_EXISTS"
      [("membership_id", .id existing.id)]
  let membership := Membership.new (draw 0) data.userId organizationId data.schoolId
    data.startDate data.endDate data.isDefault ctx.userId
  ensure (Tables.Inserts Membership.id [membership] db.memberships) internalError
  let links ← roleLinksFor ctx db organizationId membership.id draw 1 data.roleIds
  ensure (LinksInsert db links) internalError
  let db' ← audit env ctx
    { action := "MEMBERSHIP_CREATED", entityType := "membership", entityId := some membership.id,
      summary := some ("Membership created for user " ++ data.userId.text),
      after := some (membershipSnapshot membership) }
    { db with
      memberships := db.memberships ++ [membership]
      membershipRoles := db.membershipRoles ++ links }
  return (membership, db')

/-- The fields of the payload that are given. -/
def applyUpdate (data : MembershipUpdate) (m : Membership) : Membership :=
  { m with
    status := data.status.getD m.status
    startDate := data.startDate.or m.startDate
    endDate := data.endDate.or m.endDate
    isDefault := data.isDefault.getD m.isDefault
    notes := data.notes.or m.notes }

def saveSummary (action : String) : String :=
  if action = "MEMBERSHIP_ENDED" then "Membership ended" else "Membership updated"

/-- Write the changed row and audit the change. -/
def save (db : DB) (action : String) (before membership : Membership) :
    Fallible (Membership × DB) := do
  let row := flushed Membership.touch before membership
  ensure (DateOrder row) internalError
  ensure (∀ n ∈ row.notes, bindable n = true) internalError
  let db' ← audit env ctx
    { action := action, entityType := "membership", entityId := some row.id,
      summary := some (saveSummary action),
      before := some (membershipSnapshot before), after := some (membershipSnapshot row) }
    { db with memberships := Tables.set Membership.id row.id (fun _ => row) db.memberships }
  return (row, db')

def update (db : DB) (membership : Membership) (data : MembershipUpdate) :
    Fallible (Membership × DB) := do
  ensure (membership.version = data.version) staleResourceError
  save env ctx db "MEMBERSHIP_UPDATED" membership
    { applyUpdate data membership with updatedById := ctx.userId }

/-- End a membership today. -/
def endMembership (db : DB) (membership : Membership) (version : ℕ) :
    Fallible (Membership × DB) := do
  ensure (membership.version = version) staleResourceError
  save env ctx db "MEMBERSHIP_ENDED" membership
    { membership with status := .ended, endDate := some clk.today, updatedById := ctx.userId }

/-- A system role of the platform level. -/
def PlatformRole (role : Role) : Prop :=
  role.isSystem = true ∧ role.organizationId = none ∧ role.scopeLevel = .platform

instance (role : Role) : Decidable (PlatformRole role) := inferInstanceAs (Decidable (_ ∧ _ ∧ _))

def grantRole (db : DB) (membership : Membership) (data : RoleGrantCreate) (linkId : Ulid) :
    Fallible (MembershipRole × DB) := do
  let role ← requireRole db membership.organizationId data.roleId roleNotFound
  ensure (¬ PlatformRole role) (forbiddenError "This role cannot be granted.")
  ensureAbsent (getRoleLink db membership.id role.id) fun _ =>
    conflictError "The role is already granted on this membership." "ROLE_ALREADY_GRANTED"
      [("role_id", .id role.id)]
  let link : MembershipRole :=
    ⟨linkId, membership.id, role.id, data.expiresAt, data.dataScope, ctx.userId⟩
  ensure (LinksInsert db [link]) internalError
  let db' ← audit env ctx
    { action := "ROLE_GRANTED", entityType := "membership_role", entityId := some link.id,
      summary := some ("Role " ++ env.repr role.code ++ " granted") }
    { db with membershipRoles := db.membershipRoles ++ [link] }
  return (link, db')

def revokeRole (db : DB) (membership : Membership) (roleId : Ulid) :
    Fallible (MembershipRole × DB) := do
  let link ← found (getRoleLink db membership.id roleId)
    (notFoundError "The role grant was not found." "ROLE_GRANT_NOT_FOUND")
  let db' ← audit env ctx
    { action := "ROLE_REVOKED", entityType := "membership_role", entityId := some link.id,
      summary := some ("Role " ++ roleId.text ++ " revoked") }
    { db with membershipRoles := db.membershipRoles.filter (·.id ≠ link.id) }
  return (link, db')

def getOwned (db : DB) (membershipId : Ulid) : Fallible Membership := do
  let organizationId ← found ctx.organizationId
    (notFoundError "The membership was not found." "MEMBERSHIP_NOT_FOUND")
  found (getMembership db organizationId membershipId)
    (notFoundError "The membership was not found." "MEMBERSHIP_NOT_FOUND")

end Memberships

end Service

/-! ### What each operation does when it goes through -/

variable {env : Env} {clk : Clock} {ctx : RequestContext} {db : DB}

lemma getOrgRole_some {o r : Ulid} {role : Role} (h : getOrgRole db o r = some role) :
    role ∈ db.roles ∧ role.id = r ∧ role.archivedAt = none := by
  have hp := List.find?_some h
  simp only [decide_eq_true_eq] at hp
  exact ⟨List.mem_of_find?_eq_some h, hp.1, hp.2.1⟩

lemma requireRole_ok {o r : Ulid} {e : ApiError} {role : Role} :
    requireRole db o r e = .ok role ↔ getOrgRole db o r = some role := by
  simp only [requireRole, bind_ok, found_ok, ensure_ok, pure_ok]
  refine ⟨?_, ?_⟩
  · rintro ⟨_, h, _, _, rfl⟩
    exact h
  · intro h
    exact ⟨role, h, (), (getOrgRole_some h).2.2, rfl⟩

/-- The links the loop over `role_ids` adds. -/
def newLinks (ctx : RequestContext) (membershipId : Ulid) (draw : ℕ → Ulid) :
    ℕ → List Ulid → List MembershipRole
  | _, [] => []
  | n, roleId :: rest =>
    ⟨draw n, membershipId, roleId, none, none, ctx.userId⟩ ::
      newLinks ctx membershipId draw (n + 1) rest

lemma mem_newLinks {mid : Ulid} {draw : ℕ → Ulid} {l : MembershipRole} {ids : List Ulid}
    {n : ℕ} (h : l ∈ newLinks ctx mid draw n ids) : l.membershipId = mid ∧ l.roleId ∈ ids := by
  induction ids generalizing n with
  | nil => simp [newLinks] at h
  | cons r rest ih =>
    rcases List.mem_cons.mp h with rfl | h
    · exact ⟨rfl, List.mem_cons_self⟩
    · exact ⟨(ih h).1, List.mem_cons_of_mem _ (ih h).2⟩

lemma roleLinksFor_ok {o mid : Ulid} {draw : ℕ → Ulid} {n : ℕ} {ids : List Ulid}
    {links : List MembershipRole} : roleLinksFor ctx db o mid draw n ids = .ok links ↔
      (∀ r ∈ ids, (getOrgRole db o r).isSome) ∧ links = newLinks ctx mid draw n ids := by
  induction ids generalizing n links with
  | nil =>
    simp only [roleLinksFor, newLinks, pure_ok, List.not_mem_nil, false_implies, implies_true,
      true_and]
    exact eq_comm
  | cons r rest ih =>
    simp only [roleLinksFor, bind_ok, requireRole_ok, ih, pure_ok, newLinks,
      List.forall_mem_cons, Option.isSome_iff_exists]
    refine ⟨?_, ?_⟩
    · rintro ⟨role, hr, _, ⟨hrest, rfl⟩, rfl⟩
      refine ⟨⟨⟨role, hr⟩, hrest⟩, ?_⟩
      rw [(getOrgRole_some hr).2.1]
    · rintro ⟨⟨⟨role, hr⟩, hrest⟩, rfl⟩
      refine ⟨role, hr, _, ⟨hrest, rfl⟩, ?_⟩
      rw [(getOrgRole_some hr).2.1]

namespace Memberships

/-- The row `create` adds. -/
def newMembership (ctx : RequestContext) (data : MembershipCreate) (draw : ℕ → Ulid) (o : Ulid) :
    Membership :=
  Membership.new (draw 0) data.userId o data.schoolId data.startDate data.endDate data.isDefault
    ctx.userId

def createEntry (m : Membership) : AuditEntry :=
  { action := "MEMBERSHIP_CREATED", entityType := "membership", entityId := some m.id,
    summary := some ("Membership created for user " ++ m.userId.text),
    after := some (membershipSnapshot m) }

/-- The checks of `create`, and the constraints its statements meet. -/
structure Creatable (env : Env) (ctx : RequestContext) (db : DB) (data : MembershipCreate)
    (draw : ℕ → Ulid) (o : Ulid) : Prop where
  organization : ctx.organizationId = some o
  user : ∃ user, getUser db data.userId = some user ∧ user.deletedAt = none
  school : ∀ s ∈ data.schoolId, (getSchool db o s).isSome
  absent : getActiveForUserSchool db data.userId o data.schoolId = none
  fresh : Tables.Inserts Membership.id [newMembership ctx data draw o] db.memberships
  roles : ∀ r ∈ data.roleIds, (getOrgRole db o r).isSome
  links : LinksInsert db (newLinks ctx (draw 0) draw 1 data.roleIds)
  auditable : Auditable env (auditRow ctx (createEntry (newMembership ctx data draw o)))

/-- The state `create` leaves. -/
def created (ctx : RequestContext) (db : DB) (data : MembershipCreate) (draw : ℕ → Ulid)
    (o : Ulid) : DB :=
  { db with
    memberships := db.memberships ++ [newMembership ctx data draw o]
    membershipRoles := db.membershipRoles ++ newLinks ctx (draw 0) draw 1 data.roleIds }.log
      (auditRow ctx (createEntry (newMembership ctx data draw o)))

theorem create_ok {data : MembershipCreate} {draw : ℕ → Ulid} {r : Membership × DB} :
    create env ctx db data draw = .ok r ↔ ∃ o, Creatable env ctx db data draw o ∧
      r = (newMembership ctx data draw o, created ctx db data draw o) := by
  simp only [create, bind_ok, found_ok, ensure_ok, ensureAbsent_ok, roleLinksFor_ok, audit_ok,
    pure_ok]
  refine ⟨?_, ?_⟩
  · rintro ⟨o, ho, user, hu, _, hd, _, hs, _, habs, _, hf, _, ⟨hr, rfl⟩, _, hl, _, ⟨ha, rfl⟩, rfl⟩
    exact ⟨o, ⟨ho, ⟨user, hu, hd⟩, hs, habs, hf, hr, hl, ha⟩, rfl⟩
  · rintro ⟨o, ⟨ho, ⟨user, hu, hd⟩, hs, habs, hf, hr, hl, ha⟩, rfl⟩
    exact ⟨o, ho, user, hu, (), hd, (), hs, (), habs, (), hf, _, ⟨hr, rfl⟩, (), hl, _, ⟨ha, rfl⟩,
      rfl⟩

/-- The row after the flush of `save`. -/
def savedRow (before membership : Membership) : Membership :=
  flushed Membership.touch before membership

def saveEntry (action : String) (before membership : Membership) : AuditEntry :=
  { action := action, entityType := "membership", entityId := some (savedRow before membership).id,
    summary := some (saveSummary action),
    before := some (membershipSnapshot before),
    after := some (membershipSnapshot (savedRow before membership)) }

/-- The constraints the flush of `save` and its audit row meet. -/
structure Savable (env : Env) (ctx : RequestContext) (action : String)
    (before membership : Membership) : Prop where
  dateOrder : DateOrder (savedRow before membership)
  notes : ∀ n ∈ (savedRow before membership).notes, bindable n = true
  auditable : Auditable env (auditRow ctx (saveEntry action before membership))

/-- The state `save` leaves. -/
def saved (ctx : RequestContext) (db : DB) (action : String) (before membership : Membership) :
    DB :=
  { db with
    memberships := Tables.set Membership.id (savedRow before membership).id
      (fun _ => savedRow before membership) db.memberships }.log
        (auditRow ctx (saveEntry action before membership))

lemma save_ok {action : String} {before m : Membership} {r : Membership × DB} :
    save env ctx db action before m = .ok r ↔ Savable env ctx action before m ∧
      r = (savedRow before m, saved ctx db action before m) := by
  simp only [save, bind_ok, ensure_ok, audit_ok, pure_ok]
  refine ⟨?_, ?_⟩
  · rintro ⟨_, hd, _, hn, _, ⟨ha, rfl⟩, rfl⟩
    exact ⟨⟨hd, hn, ha⟩, rfl⟩
  · rintro ⟨⟨hd, hn, ha⟩, rfl⟩
    exact ⟨(), hd, (), hn, _, ⟨ha, rfl⟩, rfl⟩

lemma getOwned_ok {id : Ulid} {m : Membership} : getOwned ctx db id = .ok m ↔
    ∃ o, ctx.organizationId = some o ∧ getMembership db o id = some m := by
  simp only [getOwned, bind_ok, found_ok]

lemma getMembership_some {o id : Ulid} {m : Membership} (h : getMembership db o id = some m) :
    m ∈ db.memberships ∧ m.id = id ∧ m.organizationId = o := by
  have hp := List.find?_some h
  simp only [decide_eq_true_eq] at hp
  exact ⟨List.mem_of_find?_eq_some h, hp⟩

lemma getOwned_mem {id : Ulid} {m : Membership} (h : getOwned ctx db id = .ok m) :
    m ∈ db.memberships := by
  obtain ⟨o, _, hget⟩ := getOwned_ok.mp h
  exact (getMembership_some hget).1

/-- A grant that goes through adds one link, to a role that is not a platform one. -/
lemma grantRole_ok {m : Membership} {data : RoleGrantCreate} {linkId : Ulid}
    {r : MembershipRole × DB} (h : grantRole env ctx db m data linkId = .ok r) :
    ∃ role row, getOrgRole db m.organizationId data.roleId = some role ∧ ¬ PlatformRole role ∧
      r.1.roleId = role.id ∧
      r.2 = { db with membershipRoles := db.membershipRoles ++ [r.1] }.log row := by
  simp only [grantRole, bind_ok, ensure_ok, ensureAbsent_ok, requireRole_ok, audit_ok,
    pure_ok] at h
  obtain ⟨role, hr, _, hp, _, _, _, _, _, ⟨_, rfl⟩, rfl⟩ := h
  exact ⟨role, _, hr, hp, rfl, rfl⟩

lemma revokeRole_ok {m : Membership} {roleId : Ulid} {r : MembershipRole × DB}
    (h : revokeRole env ctx db m roleId = .ok r) : ∃ row,
      r.2 = { db with
        membershipRoles := db.membershipRoles.filter (·.id ≠ r.1.id) }.log row := by
  simp only [revokeRole, bind_ok, found_ok, audit_ok, pure_ok] at h
  obtain ⟨link, _, _, ⟨_, rfl⟩, rfl⟩ := h
  exact ⟨_, rfl⟩

end Memberships

end SchoolOs
