import SchoolOs.AttendanceSummary
import SchoolOs.OwnedRows
import SchoolOs.PeopleEffects
import SchoolOs.PublishGate
import SchoolOs.References

/-!
All requests on the tables of the schools, and what one school has in them.
-/

namespace SchoolOs

/-! ### Periods and class subjects -/

/-- Fields that are not given, or given as `None`, are not written. -/
structure PeriodDefinitionUpdate where
  name : Option String
  periodType : Option PeriodType
  startTime : Option Time
  endTime : Option Time
  sortOrder : Option ℤ
  name_length : ∀ n ∈ name, n.length ≤ 50

section Service

variable (env : SchoolEnv) (ctx : RequestContext) (db : SchoolDB)

namespace Periods

/-- The row with the fields of the payload that are given. -/
def applied (period : PeriodDefinition) (data : PeriodDefinitionUpdate) : PeriodDefinition :=
  { period with
    name := data.name.getD period.name
    periodType := data.periodType.getD period.periodType
    startTime := data.startTime.getD period.startTime
    endTime := data.endTime.getD period.endTime
    sortOrder := data.sortOrder.getD period.sortOrder }

/-- The flush of a changed row. -/
def save (old new : PeriodDefinition) : Fallible SchoolDB :=
  if new = old then return db
  else do
    ensure ((∀ q ∈ db.periodDefinitions, q.id ≠ new.id → ¬ SameName q new) ∧
      bindable new.name = true ∧ int4 new.sortOrder = true) internalError
    return { db with periodDefinitions := db.periodDefinitions.put new }

/-- A changed name is not looked up. -/
def update (period : PeriodDefinition) (data : PeriodDefinitionUpdate) :
    Fallible (PeriodDefinition × SchoolDB) := do
  let new := applied period data
  let db ← save db period new
  let db ← db.audit env ctx
    { action := "PERIOD_DEFINITION_UPDATED", entityType := "period_definition",
      entityId := some period.id,
      summary := some ("Period definition " ++ env.repr new.name ++ " updated"),
      before := some (periodSnapshot period), after := some (periodSnapshot new) }
  return (new, db)

end Periods

namespace ClassSubjects

def notFound : ApiError :=
  notFoundError "The class subject was not found." "CLASS_SUBJECT_NOT_FOUND"

def getOwned (classSubjectId : Ulid) : Fallible ClassSubject := do
  let schoolId ← found ctx.schoolId notFound
  found ((db.classSubjects.get classSubjectId).filter (·.schoolId = schoolId)) notFound

/-- The row is removed: nothing refers to it. -/
def delete (cs : ClassSubject) : Fallible SchoolDB := do
  let db := { db with classSubjects := db.classSubjects.delete cs.id }
  db.audit env ctx
    { action := "CLASS_SUBJECT_DELETED", entityType := "class_subject", entityId := some cs.id,
      summary := some "Class subject link deleted", before := some (classSubjectSnapshot cs) }

end ClassSubjects

end Service

/-! ### Requests -/

inductive PeriodOp
  | create (data : PeriodDefinitionCreate) (id : Ulid)
  | update (periodId : Ulid) (data : PeriodDefinitionUpdate)
  | delete (periodId : Ulid)

structure PeriodCall where
  ctx : RequestContext
  op : PeriodOp

def PeriodCall.handle (env : SchoolEnv) (db : SchoolDB) (c : PeriodCall) : Fallible SchoolDB :=
  match c.op with
  | .create data id => Prod.snd <$> Periods.create env c.ctx db data id
  | .update periodId data => do
    let period ← Periods.getOwned c.ctx db periodId
    Prod.snd <$> Periods.update env c.ctx db period data
  | .delete periodId => do
    let period ← Periods.getOwned c.ctx db periodId
    Periods.delete env c.ctx db period

inductive ClassSubjectOp
  | create (data : ClassSubjectCreate) (id : Ulid)
  | delete (classSubjectId : Ulid)

structure ClassSubjectCall where
  ctx : RequestContext
  op : ClassSubjectOp

def ClassSubjectCall.handle (env : SchoolEnv) (db : SchoolDB) (c : ClassSubjectCall) :
    Fallible SchoolDB :=
  match c.op with
  | .create data id => Prod.snd <$> ClassSubjects.create env c.ctx db data id
  | .delete classSubjectId => do
    let cs ← ClassSubjects.getOwned c.ctx db classSubjectId
    ClassSubjects.delete env c.ctx db cs

/-- A request on the tables of the schools. -/
inductive SchoolCall
  | key (c : KeyCall)
  | person (c : PersonCall)
  | assignment (c : AssignmentRequest)
  | classSubject (c : ClassSubjectCall)
  | enrollment (c : EnrollmentCall)
  | timetable (c : TimetableCall)
  | period (c : PeriodCall)
  | slot (c : SlotCall)
  | attendance (c : AttendanceCall)

def SchoolCall.ctx : SchoolCall → RequestContext
  | .key c => c.ctx
  | .person c => c.ctx
  | .assignment c => c.ctx
  | .classSubject c => c.ctx
  | .enrollment c => c.ctx
  | .timetable c => c.ctx
  | .period c => c.ctx
  | .slot c => c.ctx
  | .attendance c => c.ctx

def SchoolCall.handle (env : SchoolEnv) (db : SchoolDB) : SchoolCall → Fallible SchoolDB
  | .key c => c.handle env db
  | .person c => c.handle env db
  | .assignment c => Prod.snd <$> c.handle env db
  | .classSubject c => c.handle env db
  | .enrollment c => c.handle env db
  | .timetable c => c.handle env db
  | .period c => c.handle env db
  | .slot c => c.handle env db
  | .attendance c => c.handle env db

/-- A failed request leaves no trace. -/
def SchoolCall.step (env : SchoolEnv) (db : SchoolDB) (c : SchoolCall) : SchoolDB :=
  match c.handle env db with
  | .ok db' => db'
  | .error _ => db

/-! ### What a school has -/

/-- The rows of one school in each table, and its audit log and events. -/
structure SchoolRows where
  academicYears : List AcademicYear
  academicTerms : List AcademicTerm
  academicClasses : List AcademicClass
  subjects : List Subject
  classSubjects : List ClassSubject
  cohorts : List Cohort
  students : List Student
  parents : List Parent
  enrollments : List StudentEnrollment
  teachers : List Teacher
  teacherAssignments : List TeacherAssignment
  timetables : List Timetable
  periodDefinitions : List PeriodDefinition
  timetableSlots : List TimetableSlot
  attendanceSessions : List AttendanceSession
  attendanceRecords : List AttendanceMark
  outboxEvents : List OutboxEvent
  auditLogs : List AuditLog
  deriving DecidableEq

def SchoolDB.rowsOf (db : SchoolDB) (s : Ulid) : SchoolRows where
  academicYears := db.academicYears.rowsOf AcademicYear.schoolId s
  academicTerms := db.academicTerms.rowsOf AcademicTerm.schoolId s
  academicClasses := db.academicClasses.rowsOf AcademicClass.schoolId s
  subjects := db.subjects.rowsOf Subject.schoolId s
  classSubjects := db.classSubjects.rowsOf ClassSubject.schoolId s
  cohorts := db.cohorts.rowsOf Cohort.schoolId s
  students := db.students.rowsOf Student.schoolId s
  parents := db.parents.rowsOf Parent.schoolId s
  enrollments := db.enrollments.rowsOf StudentEnrollment.schoolId s
  teachers := db.teachers.rowsOf Teacher.schoolId s
  teacherAssignments := db.teacherAssignments.rowsOf TeacherAssignment.schoolId s
  timetables := db.timetables.rowsOf Timetable.schoolId s
  periodDefinitions := db.periodDefinitions.rowsOf PeriodDefinition.schoolId s
  timetableSlots := db.timetableSlots.rowsOf TimetableSlot.schoolId s
  attendanceSessions := db.attendanceSessions.rowsOf AttendanceSession.schoolId s
  attendanceRecords := db.attendanceRecords.rowsOf AttendanceMark.schoolId s
  outboxEvents := db.outboxEvents.rowsOf OutboxEvent.schoolId (some s)
  auditLogs := db.core.auditLogs.filter fun row => row.schoolId = some s

end SchoolOs
