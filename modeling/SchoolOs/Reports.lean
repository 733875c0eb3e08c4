import SchoolOs.Exports
import SchoolOs.Grouping
import SchoolOs.Handlers

/-!
Report / CSV export business logic: the four reports of a school, the jobs that record them, and
their downloads, for which a report is generated again.
-/

namespace SchoolOs

open Grouping Runs

inductive ExportJobStatus
  | pending | processing | completed | failed
  deriving DecidableEq

def ExportJobStatus.value : ExportJobStatus → String
  | .pending => "PENDING"
  | .processing => "PROCESSING"
  | .completed => "COMPLETED"
  | .failed => "FAILED"

inductive ReportType
  | students | teachers | attendanceSummary | enrollments
  deriving DecidableEq

def ReportType.value : ReportType → String
  | .students => "STUDENTS"
  | .teachers => "TEACHERS"
  | .attendanceSummary => "ATTENDANCE_SUMMARY"
  | .enrollments => "ENROLLMENTS"

/-- The member of the enumeration with the name, which is its value. -/
def ReportType.ofValue (s : String) : Option ReportType :=
  [.students, .teachers, .attendanceSummary, .enrollments].find? (ReportType.value · = s)

/-- A CSV export job record. -/
structure ExportJob where
  id : Ulid
  schoolId : Ulid
  organizationId : Ulid
  reportType : ReportType
  status : ExportJobStatus
  filters : Option Payload
  rowCount : Option ℕ
  errorMessage : Option String
  startedAt : Option Instant
  completedAt : Option Instant
  createdById : Option Ulid

/-- The database with the export jobs of the schools. -/
structure ReportDB extends SchoolDB where
  exportJobs : Table ExportJob.id

/-- Schools that have exported nothing yet. -/
def SchoolDB.withoutReports (db : SchoolDB) : ReportDB := { db with exportJobs := .empty _ }

/-- `audit`, in the transaction of the report service. -/
def ReportDB.audit (db : ReportDB) (env : SchoolEnv) (ctx : RequestContext) (entry : AuditEntry) :
    Fallible ReportDB :=
  (fun school => { db with toSchoolDB := school }) <$> db.toSchoolDB.audit env ctx entry

lemma reportAudit_ok {env : SchoolEnv} {ctx : RequestContext} {entry : AuditEntry}
    {db db' : ReportDB} : db.audit env ctx entry = .ok db' ↔ env.Admits (auditRow ctx entry) ∧
      { db with toSchoolDB := db.toSchoolDB.log (auditRow ctx entry) } = db' := by
  simp only [ReportDB.audit, map_ok, schoolAudit_ok]
  constructor
  · rintro ⟨_, ⟨h, rfl⟩, rfl⟩
    exact ⟨h, rfl⟩
  · rintro ⟨h, rfl⟩
    exact ⟨_, ⟨h, rfl⟩, rfl⟩

structure ExportRequest where
  reportType : String
  filters : Option Payload

namespace Reports

/-! ### Generators -/

/-- A header and rows as bytes, with the number of rows. -/
def generateCsv (headers : List String) (rows : List (List String)) : ByteArray × ℕ :=
  ((Csv.write (headers :: rows)).toUTF8, rows.length)

section Generators

variable (db : SchoolDB) (ctx : RequestContext) (schoolId : Ulid)

/-- The person of a student or a teacher. The policy of the table may hide the row. -/
def personOf (personId : Ulid) : Option Person :=
  (db.persons.get personId).filter fun p =>
    orgScopedPolicy (setTenantContext Gucs.unset ctx.schoolId ctx.organizationId)
      (some p.organizationId) false

/-- The names and the contacts of a person, empty where there is none. -/
def personCells (p : Option Person) : List String :=
  [(p.map Person.firstName).getD "", (p.bind Person.lastName).getD "",
    (p.bind Person.primaryEmail).getD "", (p.bind Person.primaryPhone).getD ""]

def studentHeaders : List String :=
  ["id", "admission_number", "status", "admission_date", "first_name", "last_name",
    "primary_email", "primary_phone"]

def studentLine (s : Student) : List String :=
  [s.id.text, s.admissionNumber, s.status.value, s.admissionDate.iso] ++
    personCells (personOf db ctx s.personId)

def reportedStudents : List Student :=
  db.students.rows.filter fun s => s.schoolId = schoolId ∧ s.deletedAt = none

def teacherHeaders : List String :=
  ["id", "employee_number", "designation", "status", "joining_date", "first_name", "last_name",
    "primary_email", "primary_phone"]

def teacherLine (t : Teacher) : List String :=
  [t.id.text, t.employeeNumber.getD "", t.designation.getD "", t.status.value,
    (t.joiningDate.map Date.iso).getD ""] ++ personCells (personOf db ctx t.personId)

def reportedTeachers : List Teacher :=
  db.teachers.rows.filter fun t => t.schoolId = schoolId ∧ t.deletedAt = none

def attendanceHeaders : List String := ["student_id", "total_records", "present", "absent", "late"]

/-- The records that are joined with a session of the school. -/
def summarizedRecords : List AttendanceMark :=
  (shown AttendanceMark.schoolId ctx db.attendanceRecords.rows).filter fun r =>
    (db.attendanceSessions.get r.sessionId).any fun session => session.schoolId = schoolId

/-- The records of a student with a status. -/
def tally (status : AttendanceStatus) (records : List AttendanceMark) : ℕ :=
  records.countP fun r => r.status = status

/-- A student with the records: how many there are, and how many of three kinds. -/
def attendanceLine (group : Ulid × List AttendanceMark) : List String :=
  [group.1.text, toString group.2.length, toString (tally .present group.2),
    toString (tally .absent group.2), toString (tally .late group.2)]

def summaries : List (Ulid × List AttendanceMark) :=
  groups AttendanceMark.studentId (summarizedRecords db ctx schoolId)

def enrollmentHeaders : List String :=
  ["id", "student_id", "academic_year_id", "cohort_id", "roll_number", "start_date", "end_date",
    "enrollment_type", "status"]

def enrollmentLine (e : StudentEnrollment) : List String :=
  [e.id.text, e.studentId.text, e.academicYearId.text, e.cohortId.text, e.rollNumber.getD "",
    e.startDate.iso, (e.endDate.map Date.iso).getD "", e.enrollmentType.value, e.status.value]

def reportedEnrollments : List StudentEnrollment :=
  db.enrollments.rows.filter fun e => e.schoolId = schoolId

def headersOf : ReportType → List String
  | .students => studentHeaders
  | .teachers => teacherHeaders
  | .attendanceSummary => attendanceHeaders
  | .enrollments => enrollmentHeaders

def linesOf : ReportType → List (List String)
  | .students => (reportedStudents db schoolId).map (studentLine db ctx)
  | .teachers => (reportedTeachers db schoolId).map (teacherLine db ctx)
  | .attendanceSummary => (summaries db ctx schoolId).map attendanceLine
  | .enrollments => (reportedEnrollments db schoolId).map enrollmentLine

/-- The generator of a report. It is handed the filters of the job, and none of them reads them. -/
def generate (reportType : ReportType) (_filters : Option Payload) : ByteArray × ℕ :=
  generateCsv (headersOf reportType) (linesOf db ctx schoolId reportType)

end Generators

/-! ### Services -/

section Services

variable (env : SchoolEnv) (clk : Clock) (ctx : RequestContext) (db : ReportDB)

def unsupported (reportType : String) : ApiError :=
  invalidRequestError ("Unsupported report type: " ++ reportType)

def jobNotFound : ApiError := notFoundError "Export job not found." "EXPORT_JOB_NOT_FOUND"

def notCompleted : ApiError := invalidRequestError "Export job is not yet completed."

/-- The insert, with its constraints. -/
def createJob (job : ExportJob) : Fallible ReportDB := do
  let jobs ← found (db.exportJobs.insert job) internalError
  ensure (db.HasSchool job.schoolId) internalError
  return { db with exportJobs := jobs }

/-- The row of a new job. -/
def pendingJob (schoolId organizationId : Ulid) (reportType : ReportType)
    (filters : Option Payload) (id : Ulid) : ExportJob where
  id := id
  schoolId := schoolId
  organizationId := organizationId
  reportType := reportType
  status := .pending
  filters := filters
  rowCount := none
  errorMessage := none
  startedAt := none
  completedAt := none
  createdById := ctx.userId

/-- The job of a report that was generated. -/
def completedJob (job : ExportJob) (rowCount : ℕ) : ExportJob :=
  { job with
    status := .completed, rowCount := some rowCount, startedAt := some clk.now,
    completedAt := some clk.now }

/-- The job of a generator that raised. -/
def failedJob (job : ExportJob) (raised : String) : ExportJob :=
  { job with
    status := .failed, errorMessage := some (String.ofList (raised.toList.take 2000)),
    startedAt := some clk.now, completedAt := some clk.now }

/-- The columns store the job. -/
def Storable (job : ExportJob) : Prop :=
  (∀ n ∈ job.rowCount, int4 n = true) ∧ ∀ s ∈ job.errorMessage, bindable s = true

instance (job : ExportJob) : Decidable (Storable job) :=
  inferInstanceAs (Decidable ((∀ n ∈ job.rowCount, int4 n = true) ∧
    ∀ s ∈ job.errorMessage, bindable s = true))

def saveJob (job : ExportJob) : Fallible ReportDB := do
  ensure (Storable job) internalError
  return { db with exportJobs := db.exportJobs.put job }

def exportedEntry (job : ExportJob) : AuditEntry :=
  { action := "REPORT_EXPORTED", entityType := "export_job", entityId := some job.id,
    summary := some ("Export " ++ job.reportType.value ++ " requested (status=" ++
      job.status.value ++ ")") }

/-- The job after the generator, and the report. What a generator may raise, beside what its
tables hold, is given. -/
def attempt (schoolId : Ulid) (job : ExportJob) : Option String → ExportJob × Option ByteArray
  | none =>
    let (content, rowCount) := generate db.toSchoolDB ctx schoolId job.reportType job.filters
    (completedJob clk job rowCount, some content)
  | some raised => (failedJob clk job raised, none)

def requestExport (payload : ExportRequest) (id : Ulid) (raised : Option String) :
    Fallible ((ExportJob × Option ByteArray) × ReportDB) := do
  let schoolId ← found ctx.schoolId noSchool
  let reportType ← found (ReportType.ofValue payload.reportType) (unsupported payload.reportType)
  let organizationId ← found ctx.organizationId internalError
  let job := pendingJob ctx schoolId organizationId reportType payload.filters id
  let db ← createJob db job
  let (job, content) := attempt clk ctx db schoolId job raised
  let db ← saveJob db job
  let db ← db.audit env ctx (exportedEntry job)
  return ((job, content), db)

def getJob (jobId : Ulid) : Fallible ExportJob := do
  let schoolId ← found ctx.schoolId jobNotFound
  found ((db.exportJobs.get jobId).filter fun job => job.schoolId = schoolId) jobNotFound

/-- Re-generate CSV for a completed job. -/
def getDownload (jobId : Ulid) : Fallible (ExportJob × ByteArray) := do
  let job ← getJob ctx db jobId
  ensure (job.status = .completed) notCompleted
  return (job, (generate db.toSchoolDB ctx job.schoolId job.reportType job.filters).1)

end Services

end Reports

end SchoolOs
