import SchoolOs.Enrollments
import SchoolOs.Flags
import SchoolOs.Parents
import SchoolOs.Runs

/-!
Guardian business logic: the persons who look after a student, one of whom may be the primary one.
-/

namespace SchoolOs

inductive GuardianRelationship
  | father | mother | guardian | grandparent | sibling | other
  deriving DecidableEq

def GuardianRelationship.value : GuardianRelationship → String
  | .father => "FATHER"
  | .mother => "MOTHER"
  | .guardian => "GUARDIAN"
  | .grandparent => "GRANDPARENT"
  | .sibling => "SIBLING"
  | .other => "OTHER"

/-- A guardian-to-student relationship record. -/
structure StudentGuardian where
  id : Ulid
  schoolId : Ulid
  organizationId : Ulid
  studentId : Ulid
  guardianPersonId : Ulid
  relationship : GuardianRelationship
  isPrimary : Bool
  isEmergencyContact : Bool
  canPickup : Bool
  createdById : Option Ulid
  updatedById : Option Ulid
  deriving DecidableEq

/-- The database with the guardians of the students. -/
structure FamilyDB extends SchoolDB where
  guardians : Table StudentGuardian.id
  deriving DecidableEq

/-- A school that has registered no guardians yet. -/
def SchoolDB.withoutGuardians (db : SchoolDB) : FamilyDB := { db with guardians := .empty _ }

/-- `audit`, in the transaction of the guardian service. -/
def FamilyDB.audit (db : FamilyDB) (env : SchoolEnv) (ctx : RequestContext) (entry : AuditEntry) :
    Fallible FamilyDB :=
  (fun school => { db with toSchoolDB := school }) <$> db.toSchoolDB.audit env ctx entry

/-! ### Payloads -/

structure GuardianCreate where
  studentId : Ulid
  guardianPersonId : Ulid
  relationship : GuardianRelationship
  isPrimary : Bool
  isEmergencyContact : Bool
  canPickup : Bool

/-- Fields that are not given, or given as `None`, are not written. -/
structure GuardianUpdate where
  relationship : Option GuardianRelationship
  isPrimary : Option Bool
  isEmergencyContact : Option Bool
  canPickup : Option Bool

def guardianSnapshot (guardian : StudentGuardian) : Snapshot :=
  [("student_id", .id guardian.studentId), ("guardian_person_id", .id guardian.guardianPersonId),
    ("relationship", .text guardian.relationship.value), ("is_primary", .bool guardian.isPrimary),
    ("is_emergency_contact", .bool guardian.isEmergencyContact),
    ("can_pickup", .bool guardian.canPickup)]

/-! ### Data access -/

def getGuardian (db : FamilyDB) (guardianId schoolId : Ulid) : Option StudentGuardian :=
  (db.guardians.get guardianId).filter fun g => g.schoolId = schoolId

def getByStudentAndPerson (db : FamilyDB) (studentId guardianPersonId schoolId : Ulid) :
    Option StudentGuardian :=
  db.guardians.rows.find? fun g =>
    g.studentId = studentId ∧ g.guardianPersonId = guardianPersonId ∧ g.schoolId = schoolId

/-! ### Services -/

namespace Guardians

section Service

variable (env : SchoolEnv) (ctx : RequestContext) (db : FamilyDB)

def notFound : ApiError := notFoundError "The guardian link was not found." "GUARDIAN_NOT_FOUND"

/-- The unique constraint of `student_guardians`. -/
def SamePair (a b : StudentGuardian) : Prop :=
  a.studentId = b.studentId ∧ a.guardianPersonId = b.guardianPersonId

instance : DecidableRel SamePair := fun a b =>
  inferInstanceAs (Decidable (a.studentId = b.studentId ∧
    a.guardianPersonId = b.guardianPersonId))

/-- The insert, with its constraints. -/
def insertRow (guardian : StudentGuardian) : Fallible FamilyDB := do
  let guardians ← found (db.guardians.insert guardian) internalError
  ensure ((∀ g ∈ db.guardians, ¬ SamePair g guardian) ∧ db.HasSchool guardian.schoolId ∧
    (db.students.get guardian.studentId).isSome ∧
    (db.persons.get guardian.guardianPersonId).isSome) internalError
  return { db with guardians := guardians }

/-- No other link of the student in the school is the primary one. -/
def unsetOthers (studentId schoolId guardianId : Ulid) : FamilyDB :=
  { db with
    guardians := db.guardians.setWhere
      (fun g => g.studentId = studentId ∧ g.schoolId = schoolId ∧ g.id ≠ guardianId)
      (fun g => { g with isPrimary := false }) fun _ => rfl }

/-- The row of a new link. -/
def created (schoolId organizationId : Ulid) (data : GuardianCreate) (id : Ulid) :
    StudentGuardian where
  id := id
  schoolId := schoolId
  organizationId := organizationId
  studentId := data.studentId
  guardianPersonId := data.guardianPersonId
  relationship := data.relationship
  isPrimary := data.isPrimary
  isEmergencyContact := data.isEmergencyContact
  canPickup := data.canPickup
  createdById := ctx.userId
  updatedById := none

/-- The other links are unset after the flush of the new one. -/
def addGuardian (data : GuardianCreate) (id : Ulid) : Fallible (StudentGuardian × FamilyDB) := do
  let schoolId ← found ctx.schoolId noSchool
  let _ ← found (getStudent db.toSchoolDB schoolId data.studentId)
    (notFoundError "The specified student was not found." "STUDENT_NOT_FOUND")
  let _ ← found (getPerson db.toSchoolDB ctx.organizationId data.guardianPersonId)
    (notFoundError "The specified person does not exist in this organization." "PERSON_NOT_FOUND")
  ensureAbsent (getByStudentAndPerson db data.studentId data.guardianPersonId schoolId) fun _ =>
    conflictError "This person is already linked as a guardian for this student."
      "GUARDIAN_ALREADY_LINKED" [("student_id", .id data.studentId),
        ("guardian_person_id", .id data.guardianPersonId)]
  let organizationId ← found ctx.organizationId internalError
  let guardian := created ctx schoolId organizationId data id
  let db ← insertRow db guardian
  let db := if data.isPrimary then unsetOthers db data.studentId schoolId guardian.id else db
  let db ← db.audit env ctx
    { action := "STUDENT_GUARDIAN_CREATED", entityType := "student_guardian",
      entityId := some guardian.id,
      summary := some ("Guardian linked to student " ++ data.studentId.repr),
      after := some (guardianSnapshot guardian) }
  return (guardian, db)

/-- The row with the fields of the payload that are given. -/
def applied (guardian : StudentGuardian) (data : GuardianUpdate) : StudentGuardian :=
  { guardian with
    relationship := data.relationship.getD guardian.relationship
    isPrimary := data.isPrimary.getD guardian.isPrimary
    isEmergencyContact := data.isEmergencyContact.getD guardian.isEmergencyContact
    canPickup := data.canPickup.getD guardian.canPickup
    updatedById := ctx.userId }

/-- The other links are unset before the link itself is written. -/
def updateGuardian (guardianId : Ulid) (data : GuardianUpdate) :
    Fallible (StudentGuardian × FamilyDB) := do
  let schoolId ← found ctx.schoolId noSchool
  let guardian ← found (getGuardian db guardianId schoolId) notFound
  let db :=
    if data.isPrimary = some true then unsetOthers db guardian.studentId schoolId guardian.id
    else db
  let new := applied ctx guardian data
  let db := { db with guardians := db.guardians.put new }
  let db ← db.audit env ctx
    { action := "STUDENT_GUARDIAN_UPDATED", entityType := "student_guardian",
      entityId := some guardian.id,
      summary := some ("Guardian link " ++ guardian.id.repr ++ " updated"),
      before := some (guardianSnapshot guardian),
      after := some (guardianSnapshot new) }
  return (new, db)

def removeGuardian (guardianId : Ulid) : Fallible FamilyDB := do
  let schoolId ← found ctx.schoolId noSchool
  let guardian ← found (getGuardian db guardianId schoolId) notFound
  let db := { db with guardians := db.guardians.delete guardian.id }
  db.audit env ctx
    { action := "STUDENT_GUARDIAN_DELETED", entityType := "student_guardian",
      entityId := some guardianId,
      summary := some ("Guardian link " ++ guardianId.repr ++ " removed"),
      before := some (guardianSnapshot guardian) }

end Service

end Guardians

/-! ### Requests -/

inductive GuardianOp
  | add (data : GuardianCreate) (id : Ulid)
  | update (guardianId : Ulid) (data : GuardianUpdate)
  | remove (guardianId : Ulid)

/-- A request on guardians, with its context. -/
structure GuardianCall where
  ctx : RequestContext
  op : GuardianOp

def GuardianCall.handle (env : SchoolEnv) (db : FamilyDB) (c : GuardianCall) : Fallible FamilyDB :=
  match c.op with
  | .add data id => Prod.snd <$> Guardians.addGuardian env c.ctx db data id
  | .update guardianId data => Prod.snd <$> Guardians.updateGuardian env c.ctx db guardianId data
  | .remove guardianId => Guardians.removeGuardian env c.ctx db guardianId

/-- A failed request leaves no trace. -/
def GuardianCall.step (env : SchoolEnv) (db : FamilyDB) (c : GuardianCall) : FamilyDB :=
  match c.handle env db with
  | .ok db' => db'
  | .error _ => db

end SchoolOs
