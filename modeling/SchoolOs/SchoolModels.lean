import SchoolOs.Audit
import SchoolOs.Handlers
import SchoolOs.Keyed
import SchoolOs.Spans

/-!
The school-scoped tables: academics, people of a school, enrollments, timetables, attendance.
Each with the columns the services read or that decide whether a statement goes through.
-/

namespace SchoolOs

/-- A `time`, in microseconds. -/
abbrev Time := ℕ

/-! ### Vocabularies -/

inductive AcademicYearStatus
  | draft | active | closed
  deriving DecidableEq

def AcademicYearStatus.value : AcademicYearStatus → String
  | .draft => "DRAFT"
  | .active => "ACTIVE"
  | .closed => "CLOSED"

inductive AcademicTermStatus
  | active | closed
  deriving DecidableEq

def AcademicTermStatus.value : AcademicTermStatus → String
  | .active => "ACTIVE"
  | .closed => "CLOSED"

/-- The status of classes, subjects and cohorts. -/
inductive ShelfStatus
  | active | archived
  deriving DecidableEq

def ShelfStatus.value : ShelfStatus → String
  | .active => "ACTIVE"
  | .archived => "ARCHIVED"

inductive SubjectType
  | core | optional | elective | practical | coCurricular | activity
  deriving DecidableEq

def SubjectType.value : SubjectType → String
  | .core => "CORE"
  | .optional => "OPTIONAL"
  | .elective => "ELECTIVE"
  | .practical => "PRACTICAL"
  | .coCurricular => "CO_CURRICULAR"
  | .activity => "ACTIVITY"

inductive PersonStatus
  | active | inactive | deceased | merged
  deriving DecidableEq

def PersonStatus.value : PersonStatus → String
  | .active => "ACTIVE"
  | .inactive => "INACTIVE"
  | .deceased => "DECEASED"
  | .merged => "MERGED"

inductive StudentStatus
  | active | withdrawn | graduated | transferred | inactive | deceased
  deriving DecidableEq

def StudentStatus.value : StudentStatus → String
  | .active => "ACTIVE"
  | .withdrawn => "WITHDRAWN"
  | .graduated => "GRADUATED"
  | .transferred => "TRANSFERRED"
  | .inactive => "INACTIVE"
  | .deceased => "DECEASED"

inductive EnrollmentStatus
  | active | transferred | withdrawn | completed
  deriving DecidableEq

def EnrollmentStatus.value : EnrollmentStatus → String
  | .active => "ACTIVE"
  | .transferred => "TRANSFERRED"
  | .withdrawn => "WITHDRAWN"
  | .completed => "COMPLETED"

inductive EnrollmentType
  | regular | transferIn | repeat | promotion | temporary
  deriving DecidableEq

def EnrollmentType.value : EnrollmentType → String
  | .regular => "REGULAR"
  | .transferIn => "TRANSFER_IN"
  | .repeat => "REPEAT"
  | .promotion => "PROMOTION"
  | .temporary => "TEMPORARY"

inductive TeacherStatus
  | active | onLeave | resigned | terminated | inactive
  deriving DecidableEq

def TeacherStatus.value : TeacherStatus → String
  | .active => "ACTIVE"
  | .onLeave => "ON_LEAVE"
  | .resigned => "RESIGNED"
  | .terminated => "TERMINATED"
  | .inactive => "INACTIVE"

inductive AssignmentRole
  | subjectTeacher | classTeacher | substitute | coordinator
  deriving DecidableEq

def AssignmentRole.value : AssignmentRole → String
  | .subjectTeacher => "SUBJECT_TEACHER"
  | .classTeacher => "CLASS_TEACHER"
  | .substitute => "SUBSTITUTE"
  | .coordinator => "COORDINATOR"

inductive AssignmentStatus
  | active | ended
  deriving DecidableEq

def AssignmentStatus.value : AssignmentStatus → String
  | .active => "ACTIVE"
  | .ended => "ENDED"

inductive DayOfWeek
  | monday | tuesday | wednesday | thursday | friday | saturday | sunday
  deriving DecidableEq

def DayOfWeek.value : DayOfWeek → String
  | .monday => "MONDAY"
  | .tuesday => "TUESDAY"
  | .wednesday => "WEDNESDAY"
  | .thursday => "THURSDAY"
  | .friday => "FRIDAY"
  | .saturday => "SATURDAY"
  | .sunday => "SUNDAY"

inductive PeriodType
  | lesson | recess | lunch | assembly | free | exam
  deriving DecidableEq

def PeriodType.value : PeriodType → String
  | .lesson => "LESSON"
  | .recess => "BREAK"
  | .lunch => "LUNCH"
  | .assembly => "ASSEMBLY"
  | .free => "FREE"
  | .exam => "EXAM"

inductive TimetableSlotStatus
  | active | cancelled | substituted
  deriving DecidableEq

def TimetableSlotStatus.value : TimetableSlotStatus → String
  | .active => "ACTIVE"
  | .cancelled => "CANCELLED"
  | .substituted => "SUBSTITUTED"

inductive TimetableStatus
  | draft | published | archived
  deriving DecidableEq

def TimetableStatus.value : TimetableStatus → String
  | .draft => "DRAFT"
  | .published => "PUBLISHED"
  | .archived => "ARCHIVED"

inductive AttendanceSessionStatus
  | draft | submitted | amended
  deriving DecidableEq

def AttendanceSessionStatus.value : AttendanceSessionStatus → String
  | .draft => "DRAFT"
  | .submitted => "SUBMITTED"
  | .amended => "AMENDED"

inductive AttendanceStatus
  | present | absent | late | excused | holiday
  deriving DecidableEq

def AttendanceStatus.value : AttendanceStatus → String
  | .present => "PRESENT"
  | .absent => "ABSENT"
  | .late => "LATE"
  | .excused => "EXCUSED"
  | .holiday => "HOLIDAY"

/-! ### Academics -/

structure AcademicYear where
  id : Ulid
  schoolId : Ulid
  organizationId : Ulid
  code : String
  name : String
  startDate : Date
  endDate : Date
  isCurrent : Bool
  status : AcademicYearStatus
  deletedAt : Option Instant
  createdById : Option Ulid
  updatedById : Option Ulid
  version : ℕ
  deriving DecidableEq

/-- A term or semester of a year. -/
structure AcademicTerm where
  id : Ulid
  schoolId : Ulid
  organizationId : Ulid
  academicYearId : Ulid
  code : String
  name : String
  startDate : Date
  endDate : Date
  status : AcademicTermStatus
  deletedAt : Option Instant
  createdById : Option Ulid
  updatedById : Option Ulid
  version : ℕ
  deriving DecidableEq

/-- A class or grade level. -/
structure AcademicClass where
  id : Ulid
  schoolId : Ulid
  organizationId : Ulid
  code : String
  name : String
  description : Option String
  sortOrder : ℤ
  status : ShelfStatus
  deletedAt : Option Instant
  createdById : Option Ulid
  updatedById : Option Ulid
  version : ℕ
  deriving DecidableEq

structure Subject where
  id : Ulid
  schoolId : Ulid
  organizationId : Ulid
  code : String
  name : String
  description : Option String
  subjectType : SubjectType
  status : ShelfStatus
  deletedAt : Option Instant
  createdById : Option Ulid
  updatedById : Option Ulid
  version : ℕ
  deriving DecidableEq

/-- A subject of a class, for a range of years. -/
structure ClassSubject where
  id : Ulid
  schoolId : Ulid
  organizationId : Ulid
  academicClassId : Ulid
  subjectId : Ulid
  effectiveFromYearId : Ulid
  effectiveToYearId : Option Ulid
  createdById : Option Ulid
  deriving DecidableEq

/-- A section of a class within a year. -/
structure Cohort where
  id : Ulid
  schoolId : Ulid
  organizationId : Ulid
  academicYearId : Ulid
  academicClassId : Ulid
  code : String
  name : String
  capacity : Option ℕ
  status : ShelfStatus
  deletedAt : Option Instant
  createdById : Option Ulid
  updatedById : Option Ulid
  version : ℕ
  deriving DecidableEq

/-! ### People of a school -/

/-- An address of an organization. -/
structure Address where
  id : Ulid
  organizationId : Ulid
  deriving DecidableEq

/-- A person, known to an organization. The custom fields are listed by name. -/
structure Person where
  id : Ulid
  organizationId : Ulid
  firstName : String
  middleName : Option String
  lastName : Option String
  preferredName : Option String
  dateOfBirth : Option Date
  gender : Option String
  bloodGroup : Option String
  nationality : Option String
  primaryPhone : Option String
  primaryEmail : Option String
  addressId : Option Ulid
  status : PersonStatus
  mergedIntoPersonId : Option Ulid
  customFields : Payload
  deletedAt : Option Instant
  createdById : Option Ulid
  updatedById : Option Ulid
  version : ℕ
  deriving DecidableEq

structure Student where
  id : Ulid
  schoolId : Ulid
  organizationId : Ulid
  personId : Ulid
  admissionNumber : String
  admissionDate : Date
  status : StudentStatus
  withdrawalDate : Option Date
  withdrawalReason : Option String
  deletedAt : Option Instant
  createdById : Option Ulid
  updatedById : Option Ulid
  version : ℕ
  deriving DecidableEq

/-- An enrollment of a student in a cohort for an academic year. -/
structure StudentEnrollment where
  id : Ulid
  schoolId : Ulid
  organizationId : Ulid
  studentId : Ulid
  academicYearId : Ulid
  academicClassId : Ulid
  cohortId : Ulid
  rollNumber : Option String
  startDate : Date
  endDate : Option Date
  enrollmentType : EnrollmentType
  status : EnrollmentStatus
  createdById : Option Ulid
  updatedById : Option Ulid
  version : ℕ
  deriving DecidableEq

structure Teacher where
  id : Ulid
  schoolId : Ulid
  organizationId : Ulid
  personId : Ulid
  employeeNumber : Option String
  designation : Option String
  joiningDate : Option Date
  leavingDate : Option Date
  status : TeacherStatus
  deletedAt : Option Instant
  createdById : Option Ulid
  updatedById : Option Ulid
  version : ℕ
  deriving DecidableEq

structure TeacherAssignment where
  id : Ulid
  schoolId : Ulid
  organizationId : Ulid
  teacherId : Ulid
  cohortId : Ulid
  subjectId : Option Ulid
  academicYearId : Ulid
  role : AssignmentRole
  startDate : Date
  endDate : Option Date
  status : AssignmentStatus
  createdById : Option Ulid
  updatedById : Option Ulid
  version : ℕ
  deriving DecidableEq

/-! ### Timetables -/

/-- A named timetable, from draft to published to archived. -/
structure Timetable where
  id : Ulid
  schoolId : Ulid
  organizationId : Ulid
  academicYearId : Ulid
  name : String
  status : TimetableStatus
  publishedAt : Option Instant
  archivedAt : Option Instant
  createdById : Option Ulid
  updatedById : Option Ulid
  version : ℕ
  deriving DecidableEq

/-- A period of a school's day, in an academic year. -/
structure PeriodDefinition where
  id : Ulid
  schoolId : Ulid
  organizationId : Ulid
  academicYearId : Ulid
  name : String
  periodType : PeriodType
  startTime : Time
  endTime : Time
  sortOrder : ℤ
  createdById : Option Ulid
  deriving DecidableEq

/-- A teacher and a subject for a cohort, in a period on a day. -/
structure TimetableSlot where
  id : Ulid
  schoolId : Ulid
  organizationId : Ulid
  academicYearId : Ulid
  timetableId : Option Ulid
  cohortId : Ulid
  periodDefinitionId : Ulid
  teacherId : Ulid
  subjectId : Ulid
  dayOfWeek : DayOfWeek
  effectiveFrom : Date
  effectiveTo : Option Date
  status : TimetableSlotStatus
  notes : Option String
  createdById : Option Ulid
  updatedById : Option Ulid
  version : ℕ
  deriving DecidableEq

/-! ### Attendance -/

/-- One roll call of a cohort on a date. -/
structure AttendanceSession where
  id : Ulid
  schoolId : Ulid
  organizationId : Ulid
  cohortId : Ulid
  academicYearId : Ulid
  sessionDate : Date
  status : AttendanceSessionStatus
  submittedAt : Option Instant
  submittedById : Option Ulid
  notes : Option String
  createdById : Option Ulid
  updatedById : Option Ulid
  version : ℕ
  deriving DecidableEq

/-- One mark of a student in a session. -/
structure AttendanceMark where
  id : Ulid
  schoolId : Ulid
  organizationId : Ulid
  sessionId : Ulid
  enrollmentId : Ulid
  studentId : Ulid
  status : AttendanceStatus
  arrivedAt : Option Time
  notes : Option String
  createdById : Option Ulid
  updatedById : Option Ulid
  deriving DecidableEq

/-! ### The database -/

/-- A committed state of the database: access control and audit, and the tables of the schools. -/
structure SchoolDB where
  core : DB
  academicYears : Table AcademicYear.id
  academicTerms : Table AcademicTerm.id
  academicClasses : Table AcademicClass.id
  subjects : Table Subject.id
  classSubjects : Table ClassSubject.id
  cohorts : Table Cohort.id
  addresses : Table Address.id
  persons : Table Person.id
  students : Table Student.id
  parents : Table Parent.id
  enrollments : Table StudentEnrollment.id
  teachers : Table Teacher.id
  teacherAssignments : Table TeacherAssignment.id
  timetables : Table Timetable.id
  periodDefinitions : Table PeriodDefinition.id
  timetableSlots : Table TimetableSlot.id
  attendanceSessions : Table AttendanceSession.id
  attendanceRecords : Table AttendanceMark.id
  outboxEvents : Table OutboxEvent.id
  deriving DecidableEq

def SchoolDB.empty (core : DB) : SchoolDB where
  core := core
  academicYears := .empty _
  academicTerms := .empty _
  academicClasses := .empty _
  subjects := .empty _
  classSubjects := .empty _
  cohorts := .empty _
  addresses := .empty _
  persons := .empty _
  students := .empty _
  parents := .empty _
  enrollments := .empty _
  teachers := .empty _
  teacherAssignments := .empty _
  timetables := .empty _
  periodDefinitions := .empty _
  timetableSlots := .empty _
  attendanceSessions := .empty _
  attendanceRecords := .empty _
  outboxEvents := .empty _

/-- The foreign key to `schools`. -/
def SchoolDB.HasSchool (db : SchoolDB) (schoolId : Ulid) : Prop :=
  ∃ s ∈ db.core.schools, s.id = schoolId

instance (db : SchoolDB) (schoolId : Ulid) : Decidable (db.HasSchool schoolId) :=
  inferInstanceAs (Decidable (∃ s ∈ db.core.schools, s.id = schoolId))

/-- The row security of a school-scoped table: a transaction with an active school sees the rows
of that school. -/
def shown {ρ : Type} (school : ρ → Ulid) (ctx : RequestContext) (rows : List ρ) : List ρ :=
  match ctx.schoolId with
  | none => rows
  | some s => rows.filter (school · = s)

/-- It is the policy of the tables, under the settings of the request. -/
lemma shown_eq {ρ : Type} (school : ρ → Ulid) (ctx : RequestContext) (rows : List ρ) :
    shown school ctx rows = rows.filter fun r =>
      schoolScopedPolicy (setTenantContext Gucs.unset ctx.schoolId ctx.organizationId)
        (school r) := by
  unfold shown
  cases ctx.schoolId with
  | none =>
    have hall : ∀ r, schoolScopedPolicy (setTenantContext Gucs.unset none ctx.organizationId)
        (school r) = true := fun r => schoolScopedPolicy_none _ _ _
    simp [hall]
  | some s =>
    refine List.filter_congr fun r _ => ?_
    rw [Bool.eq_iff_iff, decide_eq_true_eq]
    exact (schoolScopedPolicy_some _ _ _ _).symm

lemma mem_shown {ρ : Type} {school : ρ → Ulid} {ctx : RequestContext} {rows : List ρ} {r : ρ}
    {s : Ulid} (h : ctx.schoolId = some s) :
    r ∈ shown school ctx rows ↔ r ∈ rows ∧ school r = s := by
  simp [shown, h]

/-! ### Dates as text -/

/-- The days before a month of a year that is not a leap year. -/
def daysBeforeMonth : ℕ → ℕ
  | 1 => 0
  | 2 => 31
  | 3 => 59
  | 4 => 90
  | 5 => 120
  | 6 => 151
  | 7 => 181
  | 8 => 212
  | 9 => 243
  | 10 => 273
  | 11 => 304
  | _ => 334

/-- Month and day, by the days before it in the year. -/
def monthDay (leap : Bool) (n : ℕ) : ℕ × ℕ :=
  let before (m : ℕ) := daysBeforeMonth m + if 2 < m ∧ leap then 1 else 0
  match (List.range 12).reverse.find? fun m => before (m + 1) ≤ n with
  | some m => (m + 1, n - before (m + 1) + 1)
  | none => (1, n + 1)

/-- `date.fromordinal`: year, month and day. -/
def Date.ymd (d : Date) : ℕ × ℕ × ℕ :=
  let n := d - 1
  let n400 := n / 146097
  let n100 := n % 146097 / 36524
  let n4 := n % 146097 % 36524 / 1461
  let n1 := n % 146097 % 36524 % 1461 / 365
  let rest := n % 146097 % 36524 % 1461 % 365
  let year := n400 * 400 + n100 * 100 + n4 * 4 + n1 + 1
  if n1 = 4 ∨ n100 = 4 then (year - 1, 12, 31)
  else (year, monthDay (n1 = 3 ∧ (n4 ≠ 24 ∨ n100 = 3)) rest)

/-- A number with leading zeros. -/
def padded (width n : ℕ) : String :=
  String.ofList (List.replicate (width - (toString n).length) '0') ++ toString n

/-- `str(date)`. -/
def Date.iso (d : Date) : String :=
  padded 4 d.ymd.1 ++ "-" ++ padded 2 d.ymd.2.1 ++ "-" ++ padded 2 d.ymd.2.2

/-- `str(time)`. -/
def Time.iso (t : Time) : String :=
  let s := t / 1000000
  let whole := padded 2 (s / 3600) ++ ":" ++ padded 2 (s / 60 % 60) ++ ":" ++ padded 2 (s % 60)
  if t % 1000000 = 0 then whole else whole ++ "." ++ padded 6 (t % 1000000)

/-- A date in a snapshot. -/
def dateText : Option Date → Value := .opt fun d => .text d.iso

/-! ### The deployment -/

/-- A deployment of the school services: the settings, the check constraint of `audit_logs`, and
what the services take from their libraries. -/
structure SchoolEnv extends Env where
  /-- The actions the check constraint admits. -/
  auditVocabulary : List String
  /-- Whether the query builder takes an order comparison of a column with `None`. -/
  comparesNone : Bool
  /-- `str.strip`. -/
  strip : String → String

/-- The deployment with the schema as migrated. -/
def SchoolEnv.migrated (env : SchoolEnv) : SchoolEnv := { env with auditVocabulary := auditActions }

def SchoolEnv.plain : SchoolEnv where
  toEnv := .plain
  auditVocabulary := auditActions
  comparesNone := false
  strip s := String.ofList
    ((s.toList.dropWhile Char.isWhitespace).reverse.dropWhile Char.isWhitespace).reverse

/-- The audit table takes the row. -/
def SchoolEnv.Admits (env : SchoolEnv) (row : AuditLog) : Prop :=
  row.action ∈ env.auditVocabulary ∧ varchar 64 row.requestId = true ∧
    varchar 45 row.ipAddress = true ∧ varchar env.summaryWidth row.summary = true ∧
    (∀ s ∈ row.beforeSnapshot, ∀ f ∈ s, env.encodes f.2 = true) ∧
    ∀ s ∈ row.afterSnapshot, ∀ f ∈ s, env.encodes f.2 = true

instance (env : SchoolEnv) (row : AuditLog) : Decidable (env.Admits row) :=
  inferInstanceAs (Decidable (_ ∧ _ ∧ _ ∧ _ ∧ (∀ s ∈ row.beforeSnapshot, ∀ f ∈ s, _) ∧
    ∀ s ∈ row.afterSnapshot, ∀ f ∈ s, _))

lemma admits_migrated {env : SchoolEnv} {row : AuditLog} :
    env.migrated.Admits row ↔ Auditable env.toEnv row := Iff.rfl

/-- Append a row to the audit log. -/
def SchoolDB.log (db : SchoolDB) (row : AuditLog) : SchoolDB := { db with core := db.core.log row }

/-- `audit`, in the transaction of a school service. -/
def SchoolDB.audit (db : SchoolDB) (env : SchoolEnv) (ctx : RequestContext) (entry : AuditEntry) :
    Fallible SchoolDB := do
  ensure (env.Admits (auditRow ctx entry)) internalError
  return db.log (auditRow ctx entry)

lemma schoolAudit_ok {env : SchoolEnv} {ctx : RequestContext} {entry : AuditEntry}
    {db db' : SchoolDB} : db.audit env ctx entry = .ok db' ↔
      env.Admits (auditRow ctx entry) ∧ db.log (auditRow ctx entry) = db' := by
  simp [SchoolDB.audit, map_ok]

lemma schoolAudit_migrated {env : SchoolEnv} {ctx : RequestContext} {entry : AuditEntry}
    {db : SchoolDB} : db.audit env.migrated ctx entry =
      (fun core => { db with core := core }) <$> audit env.toEnv ctx entry db.core := by
  unfold SchoolDB.audit audit
  by_cases h : Auditable env.toEnv (auditRow ctx entry)
  · simp [ensure, admits_migrated, h, SchoolDB.log]
  · simp [ensure, admits_migrated, h]

section Log

variable (db : SchoolDB) (row : AuditLog)

@[simp] lemma schoolLog_academicYears : (db.log row).academicYears = db.academicYears := rfl
@[simp] lemma schoolLog_academicTerms : (db.log row).academicTerms = db.academicTerms := rfl
@[simp] lemma schoolLog_academicClasses : (db.log row).academicClasses = db.academicClasses := rfl
@[simp] lemma schoolLog_subjects : (db.log row).subjects = db.subjects := rfl
@[simp] lemma schoolLog_classSubjects : (db.log row).classSubjects = db.classSubjects := rfl
@[simp] lemma schoolLog_cohorts : (db.log row).cohorts = db.cohorts := rfl
@[simp] lemma schoolLog_addresses : (db.log row).addresses = db.addresses := rfl
@[simp] lemma schoolLog_persons : (db.log row).persons = db.persons := rfl
@[simp] lemma schoolLog_students : (db.log row).students = db.students := rfl
@[simp] lemma schoolLog_parents : (db.log row).parents = db.parents := rfl
@[simp] lemma schoolLog_enrollments : (db.log row).enrollments = db.enrollments := rfl
@[simp] lemma schoolLog_teachers : (db.log row).teachers = db.teachers := rfl
@[simp] lemma schoolLog_teacherAssignments :
    (db.log row).teacherAssignments = db.teacherAssignments := rfl
@[simp] lemma schoolLog_timetables : (db.log row).timetables = db.timetables := rfl
@[simp] lemma schoolLog_periodDefinitions :
    (db.log row).periodDefinitions = db.periodDefinitions := rfl
@[simp] lemma schoolLog_timetableSlots : (db.log row).timetableSlots = db.timetableSlots := rfl
@[simp] lemma schoolLog_attendanceSessions :
    (db.log row).attendanceSessions = db.attendanceSessions := rfl
@[simp] lemma schoolLog_attendanceRecords :
    (db.log row).attendanceRecords = db.attendanceRecords := rfl
@[simp] lemma schoolLog_outboxEvents : (db.log row).outboxEvents = db.outboxEvents := rfl
@[simp] lemma schoolLog_core : (db.log row).core = db.core.log row := rfl

end Log

/-! ### A small school -/

/-- A member of the staff of school 11, as the services see the request. -/
def staff : RequestContext where
  userId := some 1
  personId := none
  email := none
  organizationId := some 101
  schoolId := some 11
  accessibleSchoolIds := {11}
  permissions := ∅
  permissionScopes := ∅
  roleCodes := ∅
  scope := none
  requestId := "r"
  ipAddress := none
  isPlatformAdmin := false

lemma staff_user : staff.userId.isSome := rfl

/-- A person of whom no more than the name is known. -/
def named (id organizationId : Ulid) (firstName : String) (lastName : Option String) : Person where
  id := id
  organizationId := organizationId
  firstName := firstName
  middleName := none
  lastName := lastName
  preferredName := none
  dateOfBirth := none
  gender := none
  bloodGroup := none
  nationality := none
  primaryPhone := none
  primaryEmail := none
  addressId := none
  status := .active
  mergedIntoPersonId := none
  customFields := []
  deletedAt := none
  createdById := none
  updatedById := none
  version := 1

/-- School 11: a year, a class with two cohorts, a subject, two students, a teacher, a period. -/
def smallSchool : SchoolDB where
  core := { DB.empty with schools := [⟨11, 101, .active, none⟩] }
  academicYears := .ofRows _
    [⟨21, 11, 101, "Y1", "Year 1", 738000, 738364, true, .active, none, none, none, 1⟩]
  academicTerms := .empty _
  academicClasses := .ofRows _
    [⟨31, 11, 101, "C1", "Class 1", none, 0, .active, none, none, none, 1⟩]
  subjects := .ofRows _
    [⟨41, 11, 101, "S1", "Subject 1", none, .core, .active, none, none, none, 1⟩]
  classSubjects := .empty _
  cohorts := .ofRows _ [⟨51, 11, 101, 21, 31, "A", "Section A", none, .active, none, none, none, 1⟩,
    ⟨52, 11, 101, 21, 31, "B", "Section B", none, .active, none, none, none, 1⟩]
  addresses := .empty _
  persons := .ofRows _ [named 61 101 "Ann" none, named 62 101 "Ben" none,
    named 63 101 "Cem" (some "Doe")]
  students := .ofRows _
    [⟨71, 11, 101, 61, "N1", 738000, .active, none, none, none, none, none, 1⟩,
      ⟨72, 11, 101, 62, "N2", 738000, .active, none, none, none, none, none, 1⟩]
  parents := .empty _
  enrollments := .empty _
  teachers := .ofRows _
    [⟨81, 11, 101, 63, none, none, none, none, .active, none, none, none, 1⟩]
  teacherAssignments := .empty _
  timetables := .empty _
  periodDefinitions := .ofRows _
    [⟨91, 11, 101, 21, "P1", .lesson, 28800000000, 31200000000, 0, none⟩]
  timetableSlots := .empty _
  attendanceSessions := .empty _
  attendanceRecords := .empty _
  outboxEvents := .empty _

end SchoolOs
