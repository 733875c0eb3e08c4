import SchoolOs.Enrollments
import SchoolOs.Parents

/-!
Parent links: which parents a student has.
-/

namespace SchoolOs

inductive ParentRelationship
  | father | mother | guardian | grandparent | sibling | other
  deriving DecidableEq

def ParentRelationship.value : ParentRelationship → String
  | .father => "FATHER"
  | .mother => "MOTHER"
  | .guardian => "GUARDIAN"
  | .grandparent => "GRANDPARENT"
  | .sibling => "SIBLING"
  | .other => "OTHER"

/-- A parent-to-student relationship record, a row of `student_parents`. -/
structure ParentLink where
  id : Ulid
  schoolId : Ulid
  organizationId : Ulid
  studentId : Ulid
  parentId : Ulid
  relationship : ParentRelationship
  isPrimary : Bool
  isEmergencyContact : Bool
  canPickup : Bool
  createdById : Option Ulid
  deriving DecidableEq

/-- The database with the parents of the students. -/
structure ParentsDB extends SchoolDB where
  studentParents : Table ParentLink.id
  deriving DecidableEq

/-- A school that has linked no parents yet. -/
def SchoolDB.withoutParents (db : SchoolDB) : ParentsDB := { db with studentParents := .empty _ }

/-- `audit`, in the transaction of the parent service. -/
def ParentsDB.audit (db : ParentsDB) (env : SchoolEnv) (ctx : RequestContext) (entry : AuditEntry) :
    Fallible ParentsDB :=
  (fun school => { db with toSchoolDB := school }) <$> db.toSchoolDB.audit env ctx entry

lemma parentsAudit_ok {env : SchoolEnv} {ctx : RequestContext} {entry : AuditEntry}
    {db db' : ParentsDB} : db.audit env ctx entry = .ok db' ↔ env.Admits (auditRow ctx entry) ∧
      { db with toSchoolDB := db.toSchoolDB.log (auditRow ctx entry) } = db' := by
  simp only [ParentsDB.audit, map_ok, schoolAudit_ok]
  constructor
  · rintro ⟨_, ⟨h, rfl⟩, rfl⟩
    exact ⟨h, rfl⟩
  · rintro ⟨h, rfl⟩
    exact ⟨_, ⟨h, rfl⟩, rfl⟩

structure StudentParentCreate where
  parentId : Ulid
  relationship : ParentRelationship
  isPrimary : Bool
  isEmergencyContact : Bool
  canPickup : Bool

/-- The link of a pair, in whatever school. -/
def getStudentParentByPair (db : ParentsDB) (studentId parentId : Ulid) : Option ParentLink :=
  db.studentParents.rows.find? fun l => l.studentId = studentId ∧ l.parentId = parentId

namespace ParentLinks

section Service

variable (env : SchoolEnv) (ctx : RequestContext) (db : ParentsDB)

def studentMissing : ApiError := notFoundError "The student was not found." "STUDENT_NOT_FOUND"

def alreadyLinked (studentId parentId : Ulid) : ApiError :=
  conflictError "This parent is already linked to this student." "PARENT_ALREADY_LINKED"
    [("student_id", .id studentId), ("parent_id", .id parentId)]

/-- The insert, with its constraints. -/
def insertRow (link : ParentLink) : Fallible ParentsDB := do
  let links ← found (db.studentParents.insert link) internalError
  ensure ((∀ l ∈ db.studentParents,
      ¬ (l.studentId = link.studentId ∧ l.parentId = link.parentId)) ∧
    db.HasSchool link.schoolId ∧ (db.students.get link.studentId).isSome ∧
    (db.parents.get link.parentId).isSome) internalError
  return { db with studentParents := links }

/-- The row of a new link. -/
def linked (schoolId organizationId studentId : Ulid) (data : StudentParentCreate) (id : Ulid) :
    ParentLink where
  id := id
  schoolId := schoolId
  organizationId := organizationId
  studentId := studentId
  parentId := data.parentId
  relationship := data.relationship
  isPrimary := data.isPrimary
  isEmergencyContact := data.isEmergencyContact
  canPickup := data.canPickup
  createdById := ctx.userId

def linkedEntry (link : ParentLink) : AuditEntry :=
  { action := "STUDENT_PARENT_LINKED", entityType := "student_parent", entityId := some link.id,
    summary := some ("Parent " ++ link.parentId.repr ++ " linked to student " ++
      link.studentId.repr),
    after := some [("student_id", .id link.studentId), ("parent_id", .id link.parentId),
      ("relationship", .text link.relationship.value)] }

def linkToStudent (studentId : Ulid) (data : StudentParentCreate) (id : Ulid) :
    Fallible (ParentLink × ParentsDB) := do
  let schoolId ← found ctx.schoolId noSchool
  let _ ← found (getParent db.toSchoolDB schoolId data.parentId) Parents.notFound
  let _ ← found (getStudent db.toSchoolDB schoolId studentId) studentMissing
  ensureAbsent (getStudentParentByPair db studentId data.parentId) fun _ =>
    alreadyLinked studentId data.parentId
  let organizationId ← found ctx.organizationId internalError
  let link := linked ctx schoolId organizationId studentId data id
  let db ← insertRow db link
  let db ← db.audit env ctx (linkedEntry link)
  return (link, db)

/-! ### Lists, and the end of a link -/

/-- `get_student_parent`, of a parent who is not deleted. -/
def getStudentParent (schoolId linkId : Ulid) : Option ParentLink :=
  (shown ParentLink.schoolId ctx db.studentParents.rows).find? fun l =>
    l.id = linkId ∧ (getParent db.toSchoolDB schoolId l.parentId).isSome

def linkNotFound : ApiError := notFoundError "Link not found." "STUDENT_PARENT_NOT_FOUND"

def unlinkedEntry (link : ParentLink) : AuditEntry :=
  { action := "STUDENT_PARENT_UNLINKED", entityType := "student_parent", entityId := some link.id,
    summary := some ("Parent " ++ link.parentId.repr ++ " unlinked from student " ++
      link.studentId.repr),
    before := some [("student_id", .id link.studentId), ("parent_id", .id link.parentId),
      ("relationship", .text link.relationship.value)] }

def unlinkFromStudent (linkId : Ulid) : Fallible ParentsDB := do
  let schoolId ← found ctx.schoolId linkNotFound
  let link ← found (getStudentParent ctx db schoolId linkId) linkNotFound
  ParentsDB.audit { db with studentParents := db.studentParents.delete link.id } env ctx
    (unlinkedEntry link)

/-- The links of a parent, to students who are not deleted. -/
def listChildren (parentId : Ulid) : Fallible (List ParentLink) :=
  match ctx.schoolId with
  | none => return []
  | some schoolId => do
    let _ ← Parents.get ctx db.toSchoolDB parentId
    return (shown ParentLink.schoolId ctx db.studentParents.rows).filter fun l =>
      l.parentId = parentId ∧ (getStudent db.toSchoolDB schoolId l.studentId).isSome

/-- The links of a student, to parents who are not deleted. Whose student it is is not asked. -/
def listParentsForStudent (studentId : Ulid) : List ParentLink :=
  match ctx.schoolId with
  | none => []
  | some schoolId => (shown ParentLink.schoolId ctx db.studentParents.rows).filter fun l =>
      l.studentId = studentId ∧ (getParent db.toSchoolDB schoolId l.parentId).isSome

end Service

end ParentLinks

/-! ### Requests -/

inductive ParentLinkOp
  | link (studentId : Ulid) (data : StudentParentCreate) (id : Ulid)
  | unlink (linkId : Ulid)

structure ParentLinkCall where
  ctx : RequestContext
  op : ParentLinkOp

def ParentLinkCall.handle (env : SchoolEnv) (db : ParentsDB) (c : ParentLinkCall) :
    Fallible ParentsDB :=
  match c.op with
  | .link studentId data id =>
    Prod.snd <$> ParentLinks.linkToStudent env c.ctx db studentId data id
  | .unlink linkId => ParentLinks.unlinkFromStudent env c.ctx db linkId

end SchoolOs
