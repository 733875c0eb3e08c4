import SchoolOs.Attendance

/-!
Announcement business logic: drafts that are addressed to targets, published with an event,
archived, or deleted before they are published.
-/

namespace SchoolOs

/-! ### Models -/

inductive AnnouncementPriority
  | normal | high | urgent
  deriving DecidableEq

def AnnouncementPriority.value : AnnouncementPriority → String
  | .normal => "NORMAL"
  | .high => "HIGH"
  | .urgent => "URGENT"

inductive AnnouncementStatus
  | draft | published | expired | archived
  deriving DecidableEq

def AnnouncementStatus.value : AnnouncementStatus → String
  | .draft => "DRAFT"
  | .published => "PUBLISHED"
  | .expired => "EXPIRED"
  | .archived => "ARCHIVED"

inductive AnnouncementPublishMode
  | immediate | scheduled
  deriving DecidableEq

def AnnouncementPublishMode.value : AnnouncementPublishMode → String
  | .immediate => "IMMEDIATE"
  | .scheduled => "SCHEDULED"

inductive AnnouncementTargetType
  | school | «class» | cohort | role
  deriving DecidableEq

def AnnouncementTargetType.value : AnnouncementTargetType → String
  | .school => "SCHOOL"
  | .class => "CLASS"
  | .cohort => "COHORT"
  | .role => "ROLE"

/-- A school-wide or targeted announcement. -/
structure Announcement where
  id : Ulid
  schoolId : Ulid
  organizationId : Ulid
  title : String
  body : String
  priority : AnnouncementPriority
  publishMode : AnnouncementPublishMode
  publishedAt : Option Instant
  expiresAt : Option Instant
  status : AnnouncementStatus
  deletedAt : Option Instant
  createdById : Option Ulid
  updatedById : Option Ulid
  version : ℕ
  deriving DecidableEq

/-- A targeting rule for an announcement. -/
structure AnnouncementTarget where
  id : Ulid
  announcementId : Ulid
  targetType : AnnouncementTargetType
  targetId : Option Ulid
  schoolId : Ulid
  organizationId : Ulid
  deriving DecidableEq

/-- The database with the announcements of the schools. -/
structure BoardDB extends SchoolDB where
  announcements : Table Announcement.id
  announcementTargets : Table AnnouncementTarget.id
  deriving DecidableEq

/-- A school that has announced nothing yet. -/
def SchoolDB.withoutAnnouncements (db : SchoolDB) : BoardDB :=
  { db with announcements := .empty _, announcementTargets := .empty _ }

def BoardDB.log (db : BoardDB) (row : AuditLog) : BoardDB :=
  { db with toSchoolDB := db.toSchoolDB.log row }

/-- `audit`, in the transaction of the announcement service. -/
def BoardDB.audit (db : BoardDB) (env : SchoolEnv) (ctx : RequestContext) (entry : AuditEntry) :
    Fallible BoardDB := do
  ensure (env.Admits (auditRow ctx entry)) internalError
  return db.log (auditRow ctx entry)

lemma boardAudit_ok {env : SchoolEnv} {ctx : RequestContext} {entry : AuditEntry}
    {db db' : BoardDB} : db.audit env ctx entry = .ok db' ↔
      env.Admits (auditRow ctx entry) ∧ db.log (auditRow ctx entry) = db' := by
  simp [BoardDB.audit, map_ok]

@[simp] lemma boardLog_announcements (db : BoardDB) (row : AuditLog) :
    (db.log row).announcements = db.announcements := rfl
@[simp] lemma boardLog_announcementTargets (db : BoardDB) (row : AuditLog) :
    (db.log row).announcementTargets = db.announcementTargets := rfl
@[simp] lemma boardLog_outboxEvents (db : BoardDB) (row : AuditLog) :
    (db.log row).outboxEvents = db.outboxEvents := rfl

/-! ### Payloads -/

structure AnnouncementTargetCreate where
  targetType : AnnouncementTargetType
  targetId : Option Ulid

structure AnnouncementCreate where
  title : String
  body : String
  priority : AnnouncementPriority
  publishMode : AnnouncementPublishMode
  targets : List AnnouncementTargetCreate
  expiresAt : Option Instant
  title_length : 1 ≤ title.length ∧ title.length ≤ 500
  body_length : 1 ≤ body.length

/-- Fields that are not given, or given as `None`, are not written. -/
structure AnnouncementUpdate where
  title : Option String
  body : Option String
  priority : Option AnnouncementPriority
  targets : Option (List AnnouncementTargetCreate)
  expiresAt : Option Instant
  version : ℕ
  title_length : ∀ t ∈ title, 1 ≤ t.length ∧ t.length ≤ 500
  body_length : ∀ b ∈ body, 1 ≤ b.length
  one_le_version : 1 ≤ version

structure AnnouncementPublish where
  publishedAt : Option Instant
  version : ℕ
  one_le_version : 1 ≤ version

/-- The times go into the snapshot as they are. -/
def announcementSnapshot (a : Announcement) : Snapshot :=
  [("title", .text a.title), ("priority", .text a.priority.value),
    ("publish_mode", .text a.publishMode.value), ("status", .text a.status.value),
    ("published_at", .opt .time a.publishedAt), ("expires_at", .opt .time a.expiresAt)]

def Announcement.touch (a : Announcement) : Announcement := { a with version := a.version + 1 }

/-! ### Data access -/

def getAnnouncement (db : BoardDB) (schoolId announcementId : Ulid) : Option Announcement :=
  (db.announcements.get announcementId).filter fun a => a.schoolId = schoolId ∧ a.deletedAt = none

/-- The targets of an announcement that its school sees. -/
def targetRows (db : BoardDB) (schoolId announcementId : Ulid) : List AnnouncementTarget :=
  db.announcementTargets.rows.filter fun t =>
    t.announcementId = announcementId ∧ t.schoolId = schoolId

/-- The row of a target. -/
def AnnouncementTargetCreate.row (t : AnnouncementTargetCreate)
    (announcementId schoolId organizationId id : Ulid) : AnnouncementTarget where
  id := id
  announcementId := announcementId
  targetType := t.targetType
  targetId := t.targetId
  schoolId := schoolId
  organizationId := organizationId

/-- Rows, one after another. -/
def insertTargets (targets : Table AnnouncementTarget.id) :
    List AnnouncementTarget → Fallible (Table AnnouncementTarget.id)
  | [] => return targets
  | t :: ts => do
    let targets ← found (targets.insert t) internalError
    insertTargets targets ts

/-- Delete all existing targets for an announcement and insert the new ones, under the ids
drawn. -/
def replaceTargets (db : BoardDB) (announcementId schoolId organizationId : Ulid)
    (targets : List AnnouncementTargetCreate) (draw : ℕ → Ulid) : Fallible BoardDB := do
  let kept := db.announcementTargets.deleteWhere fun t =>
    t.announcementId = announcementId ∧ t.schoolId = schoolId
  let rows ← insertTargets kept
    (targets.zipIdx.map fun p => p.1.row announcementId schoolId organizationId (draw p.2))
  return { db with announcementTargets := rows }

/-! ### Services -/

namespace Announcements

section Service

variable (env : SchoolEnv) (clk : Clock) (ctx : RequestContext) (db : BoardDB)

def notFound : ApiError :=
  notFoundError "The announcement was not found." "ANNOUNCEMENT_NOT_FOUND"
def notPublishable : ApiError :=
  invalidRequestErrorWith "Only DRAFT announcements can be published." "ANNOUNCEMENT_NOT_DRAFT" []
def alreadyArchived : ApiError :=
  invalidRequestErrorWith "This announcement is already archived." "ALREADY_ARCHIVED" []
def notDeletable : ApiError :=
  invalidRequestErrorWith "Only DRAFT announcements can be deleted." "ANNOUNCEMENT_NOT_DRAFT" []

def getOwned (announcementId : Ulid) : Fallible Announcement := do
  let schoolId ← found ctx.schoolId notFound
  found (getAnnouncement db schoolId announcementId) notFound

/-- The columns of a row can be bound. -/
def Storable (a : Announcement) : Prop := bindable a.title = true ∧ bindable a.body = true

instance (a : Announcement) : Decidable (Storable a) :=
  inferInstanceAs (Decidable (bindable a.title = true ∧ bindable a.body = true))

/-- The insert, with its constraints. -/
def insertRow (a : Announcement) : Fallible BoardDB := do
  let announcements ← found (db.announcements.insert a) internalError
  ensure (db.HasSchool a.schoolId ∧ Storable a) internalError
  return { db with announcements := announcements }

/-- The row of a new announcement. -/
def created (schoolId organizationId : Ulid) (data : AnnouncementCreate) (id : Ulid) :
    Announcement where
  id := id
  schoolId := schoolId
  organizationId := organizationId
  title := data.title
  body := data.body
  priority := data.priority
  publishMode := data.publishMode
  publishedAt := none
  expiresAt := data.expiresAt
  status := .draft
  deletedAt := none
  createdById := ctx.userId
  updatedById := none
  version := 1

def create (data : AnnouncementCreate) (id : Ulid) (draw : ℕ → Ulid) :
    Fallible (Announcement × BoardDB) := do
  let schoolId ← found ctx.schoolId noSchool
  let organizationId ← found ctx.organizationId internalError
  let a := created ctx schoolId organizationId data id
  let db ← insertRow db a
  let db ← replaceTargets db a.id schoolId organizationId data.targets draw
  let db ← db.audit env ctx
    { action := "ANNOUNCEMENT_CREATED", entityType := "announcement", entityId := some a.id,
      summary := some ("Announcement " ++ env.repr a.title ++ " created"),
      after := some (announcementSnapshot a) }
  return (a, db)

/-- The flush of a changed row. -/
def save (old new : Announcement) : Fallible BoardDB :=
  if new = old then return db
  else do
    ensure (Storable new) internalError
    return { db with announcements := db.announcements.put new.touch }

/-- The row with the fields of the payload that are given. -/
def applied (a : Announcement) (data : AnnouncementUpdate) : Announcement :=
  { a with
    title := data.title.getD a.title
    body := data.body.getD a.body
    priority := data.priority.getD a.priority
    expiresAt := data.expiresAt.or a.expiresAt
    updatedById := ctx.userId }

/-- The targets that are given, if any are, replace those there are. -/
def retarget (a : Announcement) (draw : ℕ → Ulid) :
    Option (List AnnouncementTargetCreate) → Fallible BoardDB
  | none => return db
  | some targets => replaceTargets db a.id a.schoolId a.organizationId targets draw

def changedEntry (action verb : String) (old new : Announcement) : AuditEntry :=
  { action := action, entityType := "announcement", entityId := some old.id,
    summary := some ("Announcement " ++ env.repr new.title ++ " " ++ verb),
    before := some (announcementSnapshot old), after := some (announcementSnapshot new) }

def update (a : Announcement) (data : AnnouncementUpdate) (draw : ℕ → Ulid) :
    Fallible (Announcement × BoardDB) := do
  ensure (a.version = data.version) staleResourceError
  let new := applied ctx a data
  let db ← save db a new
  let db ← retarget db a draw data.targets
  let db ← db.audit env ctx (changedEntry env "ANNOUNCEMENT_UPDATED" "updated" a new)
  return (flushed Announcement.touch a new, db)

/-- The row of a published announcement. -/
def published (a : Announcement) (data : AnnouncementPublish) : Announcement :=
  { a with
    publishedAt := some (data.publishedAt.getD clk.now)
    status := .published
    updatedById := ctx.userId }

/-- The fan-out event. -/
def publishedEvent (a : Announcement) (targets : List AnnouncementTarget) (eventId : Ulid) :
    NewEvent where
  id := eventId
  eventName := "ANNOUNCEMENT_PUBLISHED"
  payload := [("announcement_id", .str a.id.text), ("title", .str a.title),
    ("priority", .str a.priority.value),
    ("targets", .arr (targets.map fun t => .obj [("target_type", .str t.targetType.value),
      ("target_id", match t.targetId with
        | none => .null
        | some targetId => .str targetId.text)]))]
  organizationId := ctx.organizationId
  schoolId := ctx.schoolId
  entityType := some "announcement"
  entityId := some a.id
  createdAt := clk.now

/-- `publish` of the outbox. -/
def enqueue (e : NewEvent) : Fallible BoardDB :=
  (fun school => { db with toSchoolDB := school }) <$> db.toSchoolDB.publish ctx e

def publish (a : Announcement) (data : AnnouncementPublish) (eventId : Ulid) :
    Fallible (Announcement × BoardDB) := do
  ensure (a.version = data.version) staleResourceError
  ensure (a.status = .draft) notPublishable
  let new := published clk ctx a data
  let db ← save db a new
  let db ← enqueue ctx db (publishedEvent clk ctx a (targetRows db a.schoolId a.id) eventId)
  let db ← db.audit env ctx (changedEntry env "ANNOUNCEMENT_PUBLISHED" "published" a new)
  return (flushed Announcement.touch a new, db)

/-- The row of an archived announcement. -/
def archived (a : Announcement) : Announcement :=
  { a with status := .archived, updatedById := ctx.userId }

/-- The status is looked at before the version. -/
def archive (a : Announcement) (version : ℕ) : Fallible (Announcement × BoardDB) := do
  ensure (a.status ≠ .archived) alreadyArchived
  ensure (a.version = version) staleResourceError
  let new := archived ctx a
  let db ← save db a new
  let db ← db.audit env ctx (changedEntry env "ANNOUNCEMENT_ARCHIVED" "archived" a new)
  return (flushed Announcement.touch a new, db)

/-- Rows of announcements are not removed. -/
def deleted (a : Announcement) : Announcement :=
  { a with deletedAt := some clk.now, updatedById := ctx.userId }

def deletedEntry (a : Announcement) : AuditEntry :=
  { action := "ANNOUNCEMENT_DELETED", entityType := "announcement", entityId := some a.id,
    summary := some ("Announcement " ++ env.repr a.title ++ " deleted"),
    before := some (announcementSnapshot a) }

def delete (a : Announcement) (version : ℕ) : Fallible BoardDB := do
  ensure (a.status = .draft) notDeletable
  ensure (a.version = version) staleResourceError
  let db ← save db a (deleted clk ctx a)
  db.audit env ctx (deletedEntry env a)

end Service

end Announcements

/-! ### Requests -/

inductive AnnouncementOp
  | create (data : AnnouncementCreate) (id : Ulid) (draw : ℕ → Ulid)
  | update (announcementId : Ulid) (data : AnnouncementUpdate) (draw : ℕ → Ulid)
  | publish (announcementId : Ulid) (data : AnnouncementPublish) (eventId : Ulid)
  | archive (announcementId : Ulid) (version : ℕ)
  | delete (announcementId : Ulid) (version : ℕ)

/-- A request on announcements, with its context and time. -/
structure AnnouncementCall where
  ctx : RequestContext
  clk : Clock
  op : AnnouncementOp

def AnnouncementCall.handle (env : SchoolEnv) (db : BoardDB) (c : AnnouncementCall) :
    Fallible BoardDB :=
  match c.op with
  | .create data id draw => Prod.snd <$> Announcements.create env c.ctx db data id draw
  | .update announcementId data draw => do
    let a ← Announcements.getOwned c.ctx db announcementId
    Prod.snd <$> Announcements.update env c.ctx db a data draw
  | .publish announcementId data eventId => do
    let a ← Announcements.getOwned c.ctx db announcementId
    Prod.snd <$> Announcements.publish env c.clk c.ctx db a data eventId
  | .archive announcementId version => do
    let a ← Announcements.getOwned c.ctx db announcementId
    Prod.snd <$> Announcements.archive env c.ctx db a version
  | .delete announcementId version => do
    let a ← Announcements.getOwned c.ctx db announcementId
    Announcements.delete env c.clk c.ctx db a version

/-- A failed request leaves no trace. -/
def AnnouncementCall.step (env : SchoolEnv) (db : BoardDB) (c : AnnouncementCall) : BoardDB :=
  match c.handle env db with
  | .ok db' => db'
  | .error _ => db

end SchoolOs
