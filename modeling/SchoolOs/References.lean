import SchoolOs.Attendance
import SchoolOs.Ownership
import SchoolOs.SchoolPeople

/-!
What the rows of a school refer to, and the requests that write them: which of the ids of a
request its service looks up in the school, and which it copies.
-/

namespace SchoolOs

open Ownership

/-- The tables of the schools. -/
inductive SchoolTable
  | academicYears | academicClasses | subjects | classSubjects | cohorts | students | enrollments
  | teachers | teacherAssignments | timetables | periodDefinitions | timetableSlots
  | attendanceSessions | attendanceRecords
  deriving DecidableEq

instance : Fintype SchoolTable :=
  .ofList [.academicYears, .academicClasses, .subjects, .classSubjects, .cohorts, .students,
    .enrollments, .teachers, .teacherAssignments, .timetables, .periodDefinitions, .timetableSlots,
    .attendanceSessions, .attendanceRecords] fun t => by cases t <;> simp

/-- A row of a school, as others refer to it: its id, its school, and what it refers to. -/
abbrev SchoolEntry := Entry SchoolTable Ulid Ulid

/-- A reference that may be `NULL`. -/
def optionalRef (table : SchoolTable) (id : Option Ulid) : List (SchoolTable × Ulid) :=
  (id.map fun k => (table, k)).toList

@[simp] lemma mem_optionalRef {table : SchoolTable} {id : Option Ulid} {r : SchoolTable × Ulid} :
    r ∈ optionalRef table id ↔ ∃ k ∈ id, (table, k) = r := by
  simp [optionalRef]

/-! ### The references of a row -/

def AcademicYear.entry (y : AcademicYear) : SchoolEntry := ⟨y.id, y.schoolId, []⟩
def AcademicClass.entry (c : AcademicClass) : SchoolEntry := ⟨c.id, c.schoolId, []⟩
def Subject.entry (s : Subject) : SchoolEntry := ⟨s.id, s.schoolId, []⟩

def ClassSubject.entry (cs : ClassSubject) : SchoolEntry :=
  ⟨cs.id, cs.schoolId, [(.academicClasses, cs.academicClassId), (.subjects, cs.subjectId),
    (.academicYears, cs.effectiveFromYearId)] ++ optionalRef .academicYears cs.effectiveToYearId⟩

def Cohort.entry (c : Cohort) : SchoolEntry :=
  ⟨c.id, c.schoolId, [(.academicYears, c.academicYearId), (.academicClasses, c.academicClassId)]⟩

/-- Persons belong to the organization. -/
def Student.entry (s : Student) : SchoolEntry := ⟨s.id, s.schoolId, []⟩

def StudentEnrollment.entry (e : StudentEnrollment) : SchoolEntry :=
  ⟨e.id, e.schoolId, [(.students, e.studentId), (.academicYears, e.academicYearId),
    (.academicClasses, e.academicClassId), (.cohorts, e.cohortId)]⟩

def Teacher.entry (t : Teacher) : SchoolEntry := ⟨t.id, t.schoolId, []⟩

def TeacherAssignment.entry (a : TeacherAssignment) : SchoolEntry :=
  ⟨a.id, a.schoolId, [(.teachers, a.teacherId), (.cohorts, a.cohortId),
    (.academicYears, a.academicYearId)] ++ optionalRef .subjects a.subjectId⟩

def Timetable.entry (tt : Timetable) : SchoolEntry :=
  ⟨tt.id, tt.schoolId, [(.academicYears, tt.academicYearId)]⟩

def PeriodDefinition.entry (p : PeriodDefinition) : SchoolEntry :=
  ⟨p.id, p.schoolId, [(.academicYears, p.academicYearId)]⟩

def TimetableSlot.entry (s : TimetableSlot) : SchoolEntry :=
  ⟨s.id, s.schoolId, [(.academicYears, s.academicYearId), (.cohorts, s.cohortId),
    (.periodDefinitions, s.periodDefinitionId), (.teachers, s.teacherId),
    (.subjects, s.subjectId)] ++ optionalRef .timetables s.timetableId⟩

def AttendanceSession.entry (s : AttendanceSession) : SchoolEntry :=
  ⟨s.id, s.schoolId, [(.cohorts, s.cohortId), (.academicYears, s.academicYearId)]⟩

def AttendanceMark.entry (r : AttendanceMark) : SchoolEntry :=
  ⟨r.id, r.schoolId, [(.attendanceSessions, r.sessionId), (.enrollments, r.enrollmentId),
    (.students, r.studentId)]⟩

/-- The tables, as their rows refer to one another. -/
def SchoolDB.entries (db : SchoolDB) : Store SchoolTable Ulid Ulid
  | .academicYears => db.academicYears.view AcademicYear.entry fun _ => rfl
  | .academicClasses => db.academicClasses.view AcademicClass.entry fun _ => rfl
  | .subjects => db.subjects.view Subject.entry fun _ => rfl
  | .classSubjects => db.classSubjects.view ClassSubject.entry fun _ => rfl
  | .cohorts => db.cohorts.view Cohort.entry fun _ => rfl
  | .students => db.students.view Student.entry fun _ => rfl
  | .enrollments => db.enrollments.view StudentEnrollment.entry fun _ => rfl
  | .teachers => db.teachers.view Teacher.entry fun _ => rfl
  | .teacherAssignments => db.teacherAssignments.view TeacherAssignment.entry fun _ => rfl
  | .timetables => db.timetables.view Timetable.entry fun _ => rfl
  | .periodDefinitions => db.periodDefinitions.view PeriodDefinition.entry fun _ => rfl
  | .timetableSlots => db.timetableSlots.view TimetableSlot.entry fun _ => rfl
  | .attendanceSessions => db.attendanceSessions.view AttendanceSession.entry fun _ => rfl
  | .attendanceRecords => db.attendanceRecords.view AttendanceMark.entry fun _ => rfl

/-- The school of the row that a reference names. -/
def SchoolDB.schoolOf (db : SchoolDB) (r : SchoolTable × Ulid) : Option Ulid := ownerOf db.entries r

/-- Every row of a school refers only to rows of that school. -/
def TenantClosed (db : SchoolDB) : Prop := Closed db.entries

instance (db : SchoolDB) : Decidable (TenantClosed db) :=
  inferInstanceAs (Decidable (Closed db.entries))

@[simp] lemma log_entries (db : SchoolDB) (row : AuditLog) : (db.log row).entries = db.entries := by
  funext i
  cases i <;> rfl

/-! ### Requests -/

inductive TenantOp
  | createYear (data : AcademicYearCreate) (id : Ulid)
  | createClass (data : AcademicClassCreate) (id : Ulid)
  | createSubject (data : SubjectCreate) (id : Ulid)
  | createClassSubject (data : ClassSubjectCreate) (id : Ulid)
  | createCohort (data : CohortCreate) (id : Ulid)
  | createStudent (data : StudentCreate) (id : Ulid)
  | createTeacher (data : TeacherCreate) (id : Ulid)
  | createAssignment (data : AssignmentCreate) (id : Ulid)
  | createEnrollment (data : EnrollmentCreate) (id : Ulid)
  | transferEnrollment (enrollmentId : Ulid) (data : EnrollmentTransfer) (id : Ulid)
  | createTimetable (data : TimetableCreate) (id : Ulid)
  | createPeriod (data : PeriodDefinitionCreate) (id : Ulid)
  | createSlot (data : TimetableSlotCreate) (id : Ulid)
  | updateSlot (slotId : Ulid) (data : TimetableSlotUpdate)
  | createSession (data : AttendanceSessionCreate) (id : Ulid) (recordIds : ℕ → Ulid)
  | bulkUpdateRecords (sessionId : Ulid) (records : List BulkRecordItem) (recordIds : ℕ → Ulid)

/-- A request of a user of any school, with its context. -/
structure TenantCall where
  ctx : RequestContext
  op : TenantOp

def TenantCall.handle (env : SchoolEnv) (db : SchoolDB) (c : TenantCall) : Fallible SchoolDB :=
  match c.op with
  | .createYear data id => Prod.snd <$> AcademicYears.create env c.ctx db data id
  | .createClass data id => Prod.snd <$> AcademicClasses.create env c.ctx db data id
  | .createSubject data id => Prod.snd <$> Subjects.create env c.ctx db data id
  | .createClassSubject data id => Prod.snd <$> ClassSubjects.create env c.ctx db data id
  | .createCohort data id => Prod.snd <$> Cohorts.create env c.ctx db data id
  | .createStudent data id => Prod.snd <$> Students.create env c.ctx db data id
  | .createTeacher data id => Prod.snd <$> Teachers.create env c.ctx db data id
  | .createAssignment data id => Prod.snd <$> Assignments.create env c.ctx db data id
  | .createEnrollment data id => Prod.snd <$> Enrollments.create env c.ctx db data id
  | .transferEnrollment enrollmentId data id =>
    Prod.snd <$> Enrollments.transfer env c.ctx db enrollmentId data id
  | .createTimetable data id => Prod.snd <$> Timetables.create env c.ctx db data id
  | .createPeriod data id => Prod.snd <$> Periods.create env c.ctx db data id
  | .createSlot data id => Prod.snd <$> Slots.create env c.ctx db data id
  | .updateSlot slotId data => do
    let slot ← Slots.getOwned c.ctx db slotId
    Prod.snd <$> Slots.update env c.ctx db slot data
  | .createSession data id recordIds =>
    Prod.snd <$> Attendance.createSession env c.ctx db data id recordIds
  | .bulkUpdateRecords sessionId records recordIds =>
    Attendance.bulkUpdateRecords env c.ctx db sessionId records recordIds

/-- A failed request leaves no trace. -/
def TenantCall.step (env : SchoolEnv) (db : SchoolDB) (c : TenantCall) : SchoolDB :=
  match c.handle env db with
  | .ok db' => db'
  | .error _ => db

/-- The ids of a payload that the service copies without looking them up in the school. -/
def TenantOp.unchecked : TenantOp → List (SchoolTable × Ulid)
  | .createClassSubject data _ => optionalRef .academicYears data.effectiveToYearId
  | .createAssignment data _ => optionalRef .subjects data.subjectId
  | .createEnrollment data _ => [(.academicClasses, data.academicClassId)]
  | .transferEnrollment _ data _ => [(.academicClasses, data.newAcademicClassId)]
  | .createTimetable data _ => [(.academicYears, data.academicYearId)]
  | .createPeriod data _ => [(.academicYears, data.academicYearId)]
  | .createSlot data _ => [(.cohorts, data.cohortId)]
  | .updateSlot _ data =>
    optionalRef .teachers data.teacherId ++ optionalRef .subjects data.subjectId
  | .createSession data _ _ =>
    [(.cohorts, data.cohortId), (.academicYears, data.academicYearId)]
  | _ => []

/-- The unchecked ids of the request name rows of its school. -/
def NamesOwn (db : SchoolDB) (c : TenantCall) : Prop :=
  ∀ r ∈ c.op.unchecked, db.schoolOf r = c.ctx.schoolId

instance (db : SchoolDB) (c : TenantCall) : Decidable (NamesOwn db c) :=
  inferInstanceAs (Decidable (∀ r ∈ c.op.unchecked, db.schoolOf r = c.ctx.schoolId))

/-- The request fails. -/
def Refused (env : SchoolEnv) (db : SchoolDB) (c : TenantCall) : Prop :=
  ∀ db', c.handle env db ≠ .ok db'

instance (env : SchoolEnv) (db : SchoolDB) (c : TenantCall) : Decidable (Refused env db c) :=
  inferInstanceAs (Decidable (∀ db', c.handle env db = .ok db' → False))

/-- The schools and the persons, and nothing else. -/
def SchoolDB.founded (core : DB) (persons : Table Person.id) : SchoolDB :=
  { SchoolDB.empty core with persons := persons }

end SchoolOs
