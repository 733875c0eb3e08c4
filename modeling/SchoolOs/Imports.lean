import SchoolOs.CsvHelpers
import SchoolOs.Savepoints

/-!
Bulk import business logic: the rows of a file become persons, and students or teachers of the
school, and a job keeps the account of them.
-/

namespace SchoolOs

open Savepoints

/-! ### Models -/

inductive ImportResourceType
  | students | teachers
  deriving DecidableEq

def ImportResourceType.value : ImportResourceType → String
  | .students => "students"
  | .teachers => "teachers"

/-- Some rows of a `partialImport` failed. -/
inductive ImportJobStatus
  | pending | processing | completed | failed | partialImport
  deriving DecidableEq

/-- Tracks a bulk CSV import operation. -/
structure ImportJob where
  id : Ulid
  schoolId : Ulid
  organizationId : Ulid
  resourceType : ImportResourceType
  status : ImportJobStatus
  totalRows : Option ℕ
  processedRows : ℕ
  successRows : ℕ
  failedRows : ℕ
  errorSummary : Option (List ImportError)
  originalFilename : Option String
  startedAt : Option Instant
  completedAt : Option Instant
  createdById : Option Ulid
  deriving DecidableEq

/-- The database with the import jobs of the schools. -/
structure ImportDB extends SchoolDB where
  importJobs : Table ImportJob.id
  deriving DecidableEq

/-- Schools that have imported nothing yet. -/
def SchoolDB.withoutImports (db : SchoolDB) : ImportDB := { db with importJobs := .empty _ }

/-- The columns store the job. -/
def ImportJob.Fits (job : ImportJob) : Prop :=
  varchar 255 job.originalFilename = true ∧ (∀ n ∈ job.totalRows, int4 n = true) ∧
    int4 job.processedRows = true ∧ int4 job.successRows = true ∧ int4 job.failedRows = true ∧
    ∀ errors ∈ job.errorSummary, ∀ e ∈ errors, bindable e.message = true

instance (job : ImportJob) : Decidable job.Fits :=
  inferInstanceAs (Decidable (_ ∧ (∀ n ∈ job.totalRows, _) ∧ _ ∧ _ ∧ _ ∧
    ∀ errors ∈ job.errorSummary, ∀ e ∈ errors, _))

/-! ### Payloads of a row -/

/-- The value of an enumeration that a text names. -/
def StudentStatus.ofValue (s : String) : Option StudentStatus :=
  [.active, .withdrawn, .graduated, .transferred, .inactive, .deceased].find? (·.value = s)

def TeacherStatus.ofValue (s : String) : Option TeacherStatus :=
  [.active, .onLeave, .resigned, .terminated, .inactive].find? (·.value = s)

section Payloads

variable (env : ImportEnv) (row : CsvRow)

/-- `PersonCreate` of a row, if its schema takes the texts. -/
def personCreate : Option PersonCreate :=
  let firstName := ((row.lookup "first_name").join).getD ""
  if h : (1 ≤ firstName.length ∧ firstName.length ≤ 100) ∧
      (∀ s ∈ given row "last_name", s.length ≤ 100) ∧
      (∀ s ∈ given row "primary_phone", s.length ≤ 24) ∧
      ∀ s ∈ given row "primary_email", s.length ≤ 255 then
    some
      { PersonTexts.none with
        firstName := firstName
        lastName := given row "last_name"
        primaryPhone := given row "primary_phone"
        primaryEmail := given row "primary_email"
        dateOfBirth := none
        addressId := none
        customFields := []
        firstName_length := h.1
        lastName_length := h.2.1
        primaryPhone_length := h.2.2.1
        primaryEmail_length := h.2.2.2 }
  else none

/-- A cell without the white space around it, if there is a text. -/
def textOf (name : String) : Option String := (row.lookup name).join.map env.strip

/-- `row.get("status", "").strip() or "ACTIVE"`. -/
def statusOf : Option String :=
  (stripped env row "status").toOption.map fun s => if s = "" then "ACTIVE" else s

/-- `StudentCreate` of a row, if its texts parse and its schema takes them. -/
def studentCreate (personId : Ulid) : Option StudentCreate := do
  let admissionNumber ← textOf env row "admission_number"
  let admissionDate ← (textOf env row "admission_date").bind Date.fromIsoFormat
  let status ← (statusOf env row).bind StudentStatus.ofValue
  if h : 1 ≤ admissionNumber.length ∧ admissionNumber.length ≤ 50 then
    some
      { personId := personId
        admissionNumber := admissionNumber
        admissionDate := admissionDate
        status := status
        admissionNumber_length := h }
  else none

/-- A date that may be left out. -/
def optionalDate (s : String) : Option (Option Date) :=
  if s = "" then some none else (Date.fromIsoFormat s).map some

/-- `TeacherCreate` of a row, if its texts parse and its schema takes them. -/
def teacherCreate (personId : Ulid) : Option TeacherCreate := do
  let joiningDate ← (stripped env row "joining_date").toOption.bind optionalDate
  let status ← (statusOf env row).bind TeacherStatus.ofValue
  if h : (∀ s ∈ given row "employee_number", s.length ≤ 50) ∧
      ∀ s ∈ given row "designation", s.length ≤ 100 then
    some
      { personId := personId
        employeeNumber := given row "employee_number"
        designation := given row "designation"
        joiningDate := joiningDate
        status := status
        employeeNumber_length := h.1
        designation_length := h.2 }
  else none

end Payloads

/-! ### Services -/

namespace Imports

/-- The savepoint of a row. -/
abbrev RowBlock := EStateM RowFailure SchoolDB

/-- A value that is there, or the failure. -/
def orRaise {α : Type} (failure : RowFailure) : Option α → RowBlock α
  | some a => return a
  | none => throw failure

/-- A write, or the failure. -/
def write (failure : RowFailure) (f : SchoolDB → Fallible SchoolDB) : RowBlock Unit := fun db =>
  match f db with
  | .ok db' => .ok () db'
  | .error _ => .error failure db

section Row

variable (env : ImportEnv) (ctx : RequestContext) (resourceType : ImportResourceType)
  (schoolId organizationId : Ulid)

/-- The person of the organization with the text given in the column. -/
def findPerson (column : Person → Option String) :
    Option String → RowBlock (Option Person)
  | none => return none
  | some s => do
    if bindable s then
      return (← get).persons.rows.find? fun p =>
        p.organizationId = organizationId ∧ column p = some s ∧ p.deletedAt = none
    else throw .personLookup

/-- Check for an existing person by email or phone to avoid duplicates. -/
def existingPerson (data : PersonCreate) : RowBlock (Option Person) := do
  match ← findPerson organizationId Person.primaryEmail data.primaryEmail with
  | some p => return some p
  | none => findPerson organizationId Person.primaryPhone data.primaryPhone

/-- The person of a row, who is created if there is none. -/
def importPerson (row : CsvRow) (id : Ulid) : RowBlock Ulid := do
  let data ← orRaise .personSchema (personCreate row)
  match ← existingPerson organizationId data with
  | some p => return p.id
  | none => do
    write .personInsert fun db =>
      Persons.insertRow db (Persons.created ctx organizationId data id)
    return id

/-- The row of a student that is imported. -/
def importedStudent (data : StudentCreate) (id : Ulid) : Student where
  id := id
  schoolId := schoolId
  organizationId := organizationId
  personId := data.personId
  admissionNumber := data.admissionNumber
  admissionDate := data.admissionDate
  status := data.status
  withdrawalDate := none
  withdrawalReason := none
  deletedAt := none
  createdById := ctx.userId
  updatedById := none
  version := 1

/-- The row of a teacher that is imported. -/
def importedTeacher (data : TeacherCreate) (id : Ulid) : Teacher where
  id := id
  schoolId := schoolId
  organizationId := organizationId
  personId := data.personId
  employeeNumber := data.employeeNumber
  designation := data.designation
  joiningDate := data.joiningDate
  leavingDate := none
  status := data.status
  deletedAt := none
  createdById := ctx.userId
  updatedById := none
  version := 1

/-- The student or the teacher of a row. Nothing here is logged. -/
def importRecord (row : CsvRow) (personId id : Ulid) : RowBlock Unit :=
  match resourceType with
  | .students => do
    let data ← orRaise .recordSchema (studentCreate env row personId)
    write .recordInsert fun db =>
      Students.insertRow db (importedStudent ctx schoolId organizationId data id)
  | .teachers => do
    let data ← orRaise .recordSchema (teacherCreate env row personId)
    write .recordInsert fun db =>
      Teachers.insertRow db (importedTeacher ctx schoolId organizationId data id)

/-- What is done for a row that passed its checks. The ids are drawn by the number of the row. -/
def importRow (draw : ℕ → Ulid × Ulid) (row : CsvRow × ℕ) : RowBlock Unit := do
  let personId ← importPerson ctx organizationId row.1 (draw row.2).1
  importRecord env ctx resourceType schoolId organizationId row.1 personId (draw row.2).2

def validateRow (row : CsvRow × ℕ) : Fallible (List ImportError) :=
  match resourceType with
  | .students => validateStudentRow env row.1 row.2
  | .teachers => validateTeacherRow env row.1 row.2

/-- Validate all rows upfront. -/
def validateRows : List (CsvRow × ℕ) → Fallible (List ImportError)
  | [] => return []
  | row :: rest => do
    let errors ← validateRow env resourceType row
    let others ← validateRows rest
    return errors ++ others

/-- Where the loop over the rows stands. -/
structure Progress where
  db : SchoolDB
  successRows : ℕ
  failedRows : ℕ
  rowErrors : List ImportError

/-- A row is checked again, and imported in a savepoint of its own. -/
def processRow (draw : ℕ → Ulid × Ulid) (row : CsvRow × ℕ) (p : Progress) : Fallible Progress := do
  let errors ← validateRow env resourceType row
  if errors ≠ [] then return { p with failedRows := p.failedRows + 1 }
  else match nested (importRow env ctx resourceType schoolId organizationId draw row) p.db with
    | .ok _ db => return { p with db := db, successRows := p.successRows + 1 }
    | .error failure db =>
      return { p with
        db := db
        failedRows := p.failedRows + 1
        rowErrors := p.rowErrors ++
          [⟨row.2, "row", env.failureText p.db row.2 row.1 failure⟩] }

def processRows (draw : ℕ → Ulid × Ulid) : List (CsvRow × ℕ) → Progress → Fallible Progress
  | [], p => return p
  | row :: rest, p => do
    let p ← processRow env ctx resourceType schoolId organizationId draw row p
    processRows draw rest p

end Row

section Jobs

variable (env : ImportEnv) (clk : Clock) (ctx : RequestContext) (resourceType : ImportResourceType)

/-- The insert of a job, with its constraints. -/
def createJob (db : ImportDB) (job : ImportJob) : Fallible ImportDB := do
  ensure job.Fits internalError
  let importJobs ← found (db.importJobs.insert job) internalError
  ensure (db.HasSchool job.schoolId) internalError
  return { db with importJobs := importJobs }

/-- The flush of a job that has changed. -/
def updateJob (db : ImportDB) (job : ImportJob) : Fallible ImportDB := do
  ensure job.Fits internalError
  return { db with importJobs := db.importJobs.put job }

variable (schoolId organizationId : Ulid) (filename : String) (id : Ulid)

/-- The job of a file without rows. -/
def failedJob (message : String) : ImportJob where
  id := id
  schoolId := schoolId
  organizationId := organizationId
  resourceType := resourceType
  status := .failed
  totalRows := some 0
  processedRows := 0
  successRows := 0
  failedRows := 0
  errorSummary := some [⟨0, "file", message⟩]
  originalFilename := some filename
  startedAt := some clk.now
  completedAt := some clk.now
  createdById := ctx.userId

/-- An error summary, if there are errors. -/
def summary (errors : List ImportError) : Option (List ImportError) :=
  if errors = [] then none else some errors

/-- The job of a file with rows, before they are processed. For the time being it counts the
errors of the checks. -/
def startedJob (totalRows : ℕ) (errors : List ImportError) : ImportJob where
  id := id
  schoolId := schoolId
  organizationId := organizationId
  resourceType := resourceType
  status := .processing
  totalRows := some totalRows
  processedRows := 0
  successRows := 0
  failedRows := errors.length
  errorSummary := summary errors
  originalFilename := some filename
  startedAt := some clk.now
  completedAt := none
  createdById := ctx.userId

def finalStatus (successRows failedRows : ℕ) : ImportJobStatus :=
  if failedRows = 0 then .completed else if 0 < successRows then .partialImport else .failed

/-- The job when all rows are processed. -/
def finishedJob (job : ImportJob) (p : Progress) : ImportJob :=
  { job with
    status := finalStatus p.successRows p.failedRows
    processedRows := p.successRows + p.failedRows
    successRows := p.successRows
    failedRows := p.failedRows
    errorSummary := summary p.rowErrors
    completedAt := some clk.now }

/-- The job of a file with rows: all are checked, and then one after another is imported. -/
def importRows (draw : ℕ → Ulid × Ulid) (rows : List CsvRow) (db : ImportDB) :
    Fallible (ImportJob × ImportDB) := do
  let errors ← validateRows env resourceType (rows.zipIdx 2)
  let job := startedJob clk ctx resourceType schoolId organizationId filename id rows.length errors
  let db ← createJob db job
  let p ← processRows env ctx resourceType schoolId organizationId draw (rows.zipIdx 2)
    ⟨db.toSchoolDB, 0, 0, errors⟩
  let job := finishedJob clk job p
  let db ← updateJob { db with toSchoolDB := p.db } job
  return (job, db)

end Jobs

/-- Import a file into the school. A column does not take the `None` of an organization that is not
set. -/
def startImport (env : ImportEnv) (clk : Clock) (ctx : RequestContext)
    (resourceType : ImportResourceType) (content : ByteArray) (filename : String) (id : Ulid)
    (draw : ℕ → Ulid × Ulid) (db : ImportDB) : Fallible (ImportJob × ImportDB) := do
  let schoolId ← found ctx.schoolId noSchool
  let organizationId ← found ctx.organizationId internalError
  let fail (message : String) : Fallible (ImportJob × ImportDB) := do
    let job := failedJob clk ctx resourceType schoolId organizationId filename id message
    let db ← createJob db job
    return (job, db)
  match parseCsv env content with
  | .error exc => fail exc
  | .ok [] => fail "CSV file is empty or has no data rows"
  | .ok rows => importRows env clk ctx resourceType schoolId organizationId filename id draw rows db

end Imports

end SchoolOs
