import SchoolOs.Enrollments
import SchoolOs.Persons

/-!
People of a school: students, teachers, and the assignments of teachers to cohorts.
-/

namespace SchoolOs

/-! ### Payloads -/

structure StudentCreate where
  personId : Ulid
  admissionNumber : String
  admissionDate : Date
  status : StudentStatus
  admissionNumber_length : 1 ≤ admissionNumber.length ∧ admissionNumber.length ≤ 50

/-- Fields that are not given, or given as `None`, are not written. -/
structure StudentUpdate where
  admissionNumber : Option String
  admissionDate : Option Date
  status : Option StudentStatus
  withdrawalDate : Option Date
  withdrawalReason : Option String
  version : ℕ
  admissionNumber_length : ∀ n ∈ admissionNumber, 1 ≤ n.length ∧ n.length ≤ 50
  withdrawalReason_length : ∀ r ∈ withdrawalReason, r.length ≤ 500
  one_le_version : 1 ≤ version

lemma no_admissionNumber : ∀ n ∈ (none : Option String), 1 ≤ n.length ∧ n.length ≤ 50 := by simp
lemma no_withdrawalReason : ∀ r ∈ (none : Option String), r.length ≤ 500 := by simp

structure TeacherCreate where
  personId : Ulid
  employeeNumber : Option String
  designation : Option String
  joiningDate : Option Date
  status : TeacherStatus
  employeeNumber_length : ∀ n ∈ employeeNumber, n.length ≤ 50
  designation_length : ∀ d ∈ designation, d.length ≤ 100

structure TeacherUpdate where
  employeeNumber : Option String
  designation : Option String
  joiningDate : Option Date
  leavingDate : Option Date
  status : Option TeacherStatus
  version : ℕ
  employeeNumber_length : ∀ n ∈ employeeNumber, n.length ≤ 50
  designation_length : ∀ d ∈ designation, d.length ≤ 100
  one_le_version : 1 ≤ version

structure AssignmentCreate where
  teacherId : Ulid
  cohortId : Ulid
  subjectId : Option Ulid
  academicYearId : Ulid
  role : AssignmentRole
  startDate : Date

structure AssignmentUpdate where
  endDate : Option Date
  status : Option AssignmentStatus
  version : ℕ
  one_le_version : 1 ≤ version

/-! ### Snapshots -/

def studentSnapshot (student : Student) : Snapshot :=
  [("admission_number", .text student.admissionNumber), ("status", .text student.status.value),
    ("admission_date", dateText (some student.admissionDate))]

def teacherSnapshot (teacher : Teacher) : Snapshot :=
  [("employee_number", .opt .text teacher.employeeNumber),
    ("designation", .opt .text teacher.designation), ("status", .text teacher.status.value),
    ("joining_date", dateText teacher.joiningDate),
    ("leaving_date", dateText teacher.leavingDate)]

def assignmentSnapshot (assignment : TeacherAssignment) : Snapshot :=
  [("role", .text assignment.role.value), ("status", .text assignment.status.value),
    ("start_date", dateText (some assignment.startDate)),
    ("end_date", dateText assignment.endDate)]

/-! ### Rows -/

def Student.touch (s : Student) : Student := { s with version := s.version + 1 }
def Teacher.touch (t : Teacher) : Teacher := { t with version := t.version + 1 }

def TeacherAssignment.touch (a : TeacherAssignment) : TeacherAssignment :=
  { a with version := a.version + 1 }

/-! ### Data access -/

section Repository

variable (db : SchoolDB) (schoolId : Ulid)

def getByAdmissionNumber (admissionNumber : String) : Option Student :=
  db.students.rows.find? fun s =>
    s.schoolId = schoolId ∧ s.admissionNumber = admissionNumber ∧ s.deletedAt = none

def getStudentByPersonId (personId : Ulid) : Option Student :=
  db.students.rows.find? fun s =>
    s.schoolId = schoolId ∧ s.personId = personId ∧ s.deletedAt = none

def getTeacher (teacherId : Ulid) : Option Teacher :=
  (db.teachers.get teacherId).filter fun t => t.schoolId = schoolId ∧ t.deletedAt = none

def getTeacherByPersonId (personId : Ulid) : Option Teacher :=
  db.teachers.rows.find? fun t =>
    t.schoolId = schoolId ∧ t.personId = personId ∧ t.deletedAt = none

def getByEmployeeNumber (employeeNumber : String) : Option Teacher :=
  db.teachers.rows.find? fun t =>
    t.schoolId = schoolId ∧ t.employeeNumber = some employeeNumber ∧ t.deletedAt = none

def getAssignment (assignmentId : Ulid) : Option TeacherAssignment :=
  (db.teacherAssignments.get assignmentId).filter fun a => a.schoolId = schoolId

/-- Whether a conflicting ACTIVE assignment exists. -/
def checkAssignmentConflict (cohortId : Ulid) (subjectId : Option Ulid) (academicYearId : Ulid) :
    AssignmentRole → Bool
  | .subjectTeacher => db.teacherAssignments.rows.any fun a =>
      a.schoolId = schoolId ∧ a.cohortId = cohortId ∧ a.subjectId = subjectId ∧
        a.academicYearId = academicYearId ∧ a.role = .subjectTeacher ∧ a.status = .active
  | .classTeacher => db.teacherAssignments.rows.any fun a =>
      a.schoolId = schoolId ∧ a.cohortId = cohortId ∧ a.academicYearId = academicYearId ∧
        a.role = .classTeacher ∧ a.status = .active
  | _ => false

end Repository

/-! ### Services -/

section Service

variable (env : SchoolEnv) (clk : Clock) (ctx : RequestContext) (db : SchoolDB)

namespace Students

def notFound : ApiError := notFoundError "The student was not found." "STUDENT_NOT_FOUND"

/-- The unique constraints of `students`, deleted rows included. -/
def Collides (a b : Student) : Prop :=
  a.schoolId = b.schoolId ∧ (a.admissionNumber = b.admissionNumber ∨ a.personId = b.personId)

instance : DecidableRel Collides := fun a b =>
  inferInstanceAs (Decidable (a.schoolId = b.schoolId ∧
    (a.admissionNumber = b.admissionNumber ∨ a.personId = b.personId)))

/-- The insert, with its constraints. -/
def insertRow (student : Student) : Fallible SchoolDB := do
  let students ← found (db.students.insert student) internalError
  ensure ((∀ s ∈ db.students, ¬ Collides s student) ∧ db.HasSchool student.schoolId ∧
    (db.persons.get student.personId).isSome ∧ bindable student.admissionNumber = true)
    internalError
  return { db with students := students }

def create (data : StudentCreate) (id : Ulid) : Fallible (Student × SchoolDB) := do
  let schoolId ← found ctx.schoolId noSchool
  let _ ← found (getPerson db ctx.organizationId data.personId)
    (notFoundError "The specified person does not exist in this organization." "PERSON_NOT_FOUND")
  ensureAbsent (getByAdmissionNumber db schoolId data.admissionNumber) fun _ =>
    conflictError ("A student with admission number " ++ env.repr data.admissionNumber ++
      " already exists.") "ADMISSION_NUMBER_TAKEN"
      [("admission_number", .text data.admissionNumber)]
  ensureAbsent (getStudentByPersonId db schoolId data.personId) fun _ =>
    conflictError "This person is already enrolled as a student at this school."
      "PERSON_ALREADY_ENROLLED" [("person_id", .id data.personId)]
  let organizationId ← found ctx.organizationId internalError
  let student : Student :=
    { id := id, schoolId := schoolId, organizationId := organizationId, personId := data.personId,
      admissionNumber := data.admissionNumber, admissionDate := data.admissionDate,
      status := data.status, withdrawalDate := none, withdrawalReason := none, deletedAt := none,
      createdById := ctx.userId, updatedById := none, version := 1 }
  let db ← insertRow db student
  let db ← db.audit env ctx
    { action := "STUDENT_CREATED", entityType := "student", entityId := some student.id,
      summary := some ("Student " ++ env.repr student.admissionNumber ++ " created"),
      after := some (studentSnapshot student) }
  return (student, db)

/-- The row with the fields of the payload that are given. -/
def applied (student : Student) (data : StudentUpdate) : Student :=
  { student with
    admissionNumber := data.admissionNumber.getD student.admissionNumber
    admissionDate := data.admissionDate.getD student.admissionDate
    status := data.status.getD student.status
    withdrawalDate := data.withdrawalDate.or student.withdrawalDate
    withdrawalReason := data.withdrawalReason.or student.withdrawalReason
    updatedById := ctx.userId }

/-- The flush of a changed row. -/
def save (old new : Student) : Fallible SchoolDB :=
  if new = old then return db
  else do
    ensure ((∀ s ∈ db.students, s.id ≠ new.id → ¬ Collides s new) ∧
      bindable new.admissionNumber = true ∧ varchar 500 new.withdrawalReason = true) internalError
    return { db with students := db.students.put new.touch }

/-- A changed admission number is not looked up. -/
def update (student : Student) (data : StudentUpdate) : Fallible (Student × SchoolDB) := do
  ensure (student.version = data.version) staleResourceError
  let new := applied ctx student data
  let db ← save db student new
  let db ← db.audit env ctx
    { action := "STUDENT_UPDATED", entityType := "student", entityId := some student.id,
      summary := some ("Student " ++ env.repr new.admissionNumber ++ " updated"),
      before := some (studentSnapshot student), after := some (studentSnapshot new) }
  return (flushed Student.touch student new, db)

/-- Rows of students are not removed. -/
def delete (student : Student) (version : ℕ) : Fallible SchoolDB := do
  ensure (student.version = version) staleResourceError
  let db ← save db student { student with deletedAt := some clk.now, updatedById := ctx.userId }
  db.audit env ctx
    { action := "STUDENT_DELETED", entityType := "student", entityId := some student.id,
      summary := some ("Student " ++ env.repr student.admissionNumber ++ " deleted"),
      before := some (studentSnapshot student) }

def getOwned (studentId : Ulid) : Fallible Student := do
  let schoolId ← found ctx.schoolId notFound
  found (getStudent db schoolId studentId) notFound

end Students

namespace Teachers

def notFound : ApiError := notFoundError "The teacher was not found." "TEACHER_NOT_FOUND"

/-- The unique constraint and the partial unique index of `teachers`. -/
def Collides (a b : Teacher) : Prop :=
  a.schoolId = b.schoolId ∧ (a.personId = b.personId ∨
    (a.employeeNumber = b.employeeNumber ∧ b.employeeNumber ≠ none ∧ a.deletedAt = none ∧
      b.deletedAt = none))

instance : DecidableRel Collides := fun a b =>
  inferInstanceAs (Decidable (a.schoolId = b.schoolId ∧ (a.personId = b.personId ∨
    (a.employeeNumber = b.employeeNumber ∧ b.employeeNumber ≠ none ∧ a.deletedAt = none ∧
      b.deletedAt = none))))

/-- The insert, with its constraints. -/
def insertRow (teacher : Teacher) : Fallible SchoolDB := do
  ensure (varchar 50 teacher.employeeNumber = true ∧ varchar 100 teacher.designation = true)
    internalError
  let teachers ← found (db.teachers.insert teacher) internalError
  ensure ((∀ t ∈ db.teachers, ¬ Collides t teacher) ∧ db.HasSchool teacher.schoolId ∧
    (db.persons.get teacher.personId).isSome) internalError
  return { db with teachers := teachers }

/-- An employee number that is given is looked up; the empty one is not. -/
def checkEmployeeNumber (schoolId : Ulid) (data : TeacherCreate) : Fallible Unit :=
  match data.employeeNumber with
  | none => return
  | some employeeNumber =>
    if employeeNumber = "" then return
    else ensureAbsent (getByEmployeeNumber db schoolId employeeNumber) fun _ =>
      conflictError ("Employee number " ++ env.repr employeeNumber ++ " is already in use.")
        "EMPLOYEE_NUMBER_TAKEN" [("employee_number", .text employeeNumber)]

def create (data : TeacherCreate) (id : Ulid) : Fallible (Teacher × SchoolDB) := do
  let schoolId ← found ctx.schoolId noSchool
  let person ← found (getPerson db ctx.organizationId data.personId)
    (notFoundError "The person was not found." "PERSON_NOT_FOUND")
  ensureAbsent (getTeacherByPersonId db schoolId data.personId) fun _ =>
    conflictError "This person is already a teacher at this school." "TEACHER_PERSON_TAKEN"
      [("person_id", .id data.personId)]
  checkEmployeeNumber env db schoolId data
  let organizationId ← found ctx.organizationId internalError
  let teacher : Teacher :=
    { id := id, schoolId := schoolId, organizationId := organizationId, personId := data.personId,
      employeeNumber := data.employeeNumber, designation := data.designation,
      joiningDate := data.joiningDate, leavingDate := none, status := data.status,
      deletedAt := none, createdById := ctx.userId, updatedById := none, version := 1 }
  let db ← insertRow db teacher
  let db ← db.audit env ctx
    { action := "TEACHER_CREATED", entityType := "teacher", entityId := some teacher.id,
      summary := some (env.strip ("Teacher " ++ person.firstName ++ " " ++
        person.lastName.getD "" ++ " created")),
      after := some (teacherSnapshot teacher) }
  return (teacher, db)

/-- The row with the fields of the payload that are given. -/
def applied (teacher : Teacher) (data : TeacherUpdate) : Teacher :=
  { teacher with
    employeeNumber := data.employeeNumber.or teacher.employeeNumber
    designation := data.designation.or teacher.designation
    joiningDate := data.joiningDate.or teacher.joiningDate
    leavingDate := data.leavingDate.or teacher.leavingDate
    status := data.status.getD teacher.status
    updatedById := ctx.userId }

/-- The flush of a changed row. -/
def save (old new : Teacher) : Fallible SchoolDB :=
  if new = old then return db
  else do
    ensure ((∀ t ∈ db.teachers, t.id ≠ new.id → ¬ Collides t new) ∧
      varchar 50 new.employeeNumber = true ∧ varchar 100 new.designation = true) internalError
    return { db with teachers := db.teachers.put new.touch }

/-- An employee number that is given and changes is looked up, the empty one too. -/
def checkNewNumber (teacher : Teacher) (data : TeacherUpdate) : Fallible Unit :=
  match data.employeeNumber with
  | none => return
  | some employeeNumber =>
    if teacher.employeeNumber = some employeeNumber then return
    else ensureAbsent
      (db.teachers.rows.find? fun t => t.schoolId = teacher.schoolId ∧
        t.employeeNumber = some employeeNumber ∧ t.deletedAt = none ∧ t.id ≠ teacher.id) fun _ =>
      conflictError ("Employee number " ++ env.repr employeeNumber ++ " is already in use.")
        "EMPLOYEE_NUMBER_TAKEN" [("employee_number", .text employeeNumber)]

def update (teacher : Teacher) (data : TeacherUpdate) : Fallible (Teacher × SchoolDB) := do
  ensure (teacher.version = data.version) staleResourceError
  checkNewNumber env db teacher data
  let new := applied ctx teacher data
  let db ← save db teacher new
  let db ← db.audit env ctx
    { action := "TEACHER_UPDATED", entityType := "teacher", entityId := some teacher.id,
      summary := some "Teacher updated",
      before := some (teacherSnapshot teacher), after := some (teacherSnapshot new) }
  return (flushed Teacher.touch teacher new, db)

/-- Rows of teachers are not removed. -/
def delete (teacher : Teacher) (version : ℕ) : Fallible SchoolDB := do
  ensure (teacher.version = version) staleResourceError
  let db ← save db teacher { teacher with deletedAt := some clk.now, updatedById := ctx.userId }
  db.audit env ctx
    { action := "TEACHER_DELETED", entityType := "teacher", entityId := some teacher.id,
      summary := some "Teacher deleted", before := some (teacherSnapshot teacher) }

def getOwned (teacherId : Ulid) : Fallible Teacher := do
  let schoolId ← found ctx.schoolId notFound
  found (getTeacher db schoolId teacherId) notFound

end Teachers

namespace Assignments

def teacherNotFound : ApiError := notFoundError "The teacher was not found." "TEACHER_NOT_FOUND"

def conflict : ApiError :=
  conflictError "An active assignment already exists for this cohort, subject, and year."
    "ASSIGNMENT_CONFLICT" []

/-- The partial unique indexes of `teacher_assignments`. Rows without a subject have no entry in
the second one. -/
def Collides (a b : TeacherAssignment) : Prop :=
  a.schoolId = b.schoolId ∧ a.cohortId = b.cohortId ∧ a.academicYearId = b.academicYearId ∧
    a.status = .active ∧ b.status = .active ∧ a.role = b.role ∧
    (b.role = .classTeacher ∨
      (b.role = .subjectTeacher ∧ a.subjectId = b.subjectId ∧ b.subjectId ≠ none))

instance : DecidableRel Collides := fun a b =>
  inferInstanceAs (Decidable (a.schoolId = b.schoolId ∧ a.cohortId = b.cohortId ∧
    a.academicYearId = b.academicYearId ∧ a.status = .active ∧ b.status = .active ∧
    a.role = b.role ∧ (b.role = .classTeacher ∨
      (b.role = .subjectTeacher ∧ a.subjectId = b.subjectId ∧ b.subjectId ≠ none))))

/-- The insert, with its constraints: a violated index is answered as a conflict. -/
def insertRow (a : TeacherAssignment) : Fallible SchoolDB := do
  let assignments ← found (db.teacherAssignments.insert a) internalError
  ensure (∀ a' ∈ db.teacherAssignments, ¬ Collides a' a) conflict
  ensure (db.HasSchool a.schoolId ∧ (db.teachers.get a.teacherId).isSome ∧
    (db.cohorts.get a.cohortId).isSome ∧ (∀ s ∈ a.subjectId, (db.subjects.get s).isSome) ∧
    (db.academicYears.get a.academicYearId).isSome) internalError
  return { db with teacherAssignments := assignments }

/-- The subject of the payload is taken as it is. -/
def create (data : AssignmentCreate) (id : Ulid) : Fallible (TeacherAssignment × SchoolDB) := do
  let schoolId ← found ctx.schoolId noSchool
  let _ ← found (getTeacher db schoolId data.teacherId) teacherNotFound
  let cohort ← found (getCohort db schoolId data.cohortId) cohortNotFound
  let _ ← found (getYear db schoolId data.academicYearId) yearNotFound
  ensure (checkAssignmentConflict db schoolId data.cohortId data.subjectId data.academicYearId
    data.role = false) conflict
  let organizationId ← found ctx.organizationId internalError
  let assignment : TeacherAssignment :=
    { id := id, schoolId := schoolId, organizationId := organizationId,
      teacherId := data.teacherId, cohortId := data.cohortId, subjectId := data.subjectId,
      academicYearId := data.academicYearId, role := data.role, startDate := data.startDate,
      endDate := none, status := .active, createdById := ctx.userId, updatedById := none,
      version := 1 }
  let db ← insertRow db assignment
  let db ← db.audit env ctx
    { action := "TEACHER_ASSIGNED", entityType := "teacher_assignment",
      entityId := some assignment.id,
      summary := some ("Teacher assigned to cohort " ++ cohort.name),
      after := some (assignmentSnapshot assignment) }
  return (assignment, db)

def notFound : ApiError := notFoundError "The assignment was not found." "ASSIGNMENT_NOT_FOUND"

/-- The flush of a changed row: nothing answers a violated index. -/
def save (old new : TeacherAssignment) : Fallible SchoolDB :=
  if new = old then return db
  else do
    ensure (∀ a ∈ db.teacherAssignments, a.id ≠ new.id → ¬ Collides a new) internalError
    return { db with teacherAssignments := db.teacherAssignments.put new.touch }

/-- The row with the fields of the payload that are given. -/
def applied (assignment : TeacherAssignment) (data : AssignmentUpdate) : TeacherAssignment :=
  { assignment with
    endDate := data.endDate.or assignment.endDate
    status := data.status.getD assignment.status
    updatedById := ctx.userId }

/-- An assignment that becomes ACTIVE again is not checked for conflicts. -/
def update (assignment : TeacherAssignment) (data : AssignmentUpdate) :
    Fallible (TeacherAssignment × SchoolDB) := do
  ensure (assignment.version = data.version) staleResourceError
  let new := applied ctx assignment data
  let db ← save db assignment new
  let db ← db.audit env ctx
    { action := "TEACHER_ASSIGNMENT_UPDATED", entityType := "teacher_assignment",
      entityId := some assignment.id, summary := some "Teacher assignment updated",
      before := some (assignmentSnapshot assignment), after := some (assignmentSnapshot new) }
  return (flushed TeacherAssignment.touch assignment new, db)

/-- The row of an assignment that ends today. -/
def ended (assignment : TeacherAssignment) : TeacherAssignment :=
  { assignment with status := .ended, endDate := some clk.today, updatedById := ctx.userId }

def endAssignment (assignment : TeacherAssignment) (version : ℕ) :
    Fallible (TeacherAssignment × SchoolDB) := do
  ensure (assignment.version = version) staleResourceError
  let new := ended clk ctx assignment
  let db ← save db assignment new
  let db ← db.audit env ctx
    { action := "TEACHER_ASSIGNMENT_ENDED", entityType := "teacher_assignment",
      entityId := some assignment.id, summary := some "Teacher assignment ended",
      before := some (assignmentSnapshot assignment), after := some (assignmentSnapshot new) }
  return (flushed TeacherAssignment.touch assignment new, db)

def getOwned (assignmentId : Ulid) : Fallible TeacherAssignment := do
  let schoolId ← found ctx.schoolId notFound
  found (getAssignment db schoolId assignmentId) notFound

end Assignments

end Service

/-! ### Inserts -/

section Inserts

variable {db db' : SchoolDB}

lemma Persons.insertRow_ok {p : Person} (h : Persons.insertRow db p = .ok db') :
    ∃ persons, db.persons.insert p = some persons ∧ db' = { db with persons := persons } := by
  simp only [Persons.insertRow, bind_ok, found_ok, ensure_ok, pure_ok] at h
  obtain ⟨-, -, persons, hinsert, -, -, rfl⟩ := h
  exact ⟨persons, hinsert, rfl⟩

lemma Students.insertRow_ok {student : Student} (h : Students.insertRow db student = .ok db') :
    ∃ students, db.students.insert student = some students ∧
      db' = { db with students := students } := by
  simp only [Students.insertRow, bind_ok, found_ok, ensure_ok, pure_ok] at h
  obtain ⟨students, hinsert, -, -, rfl⟩ := h
  exact ⟨students, hinsert, rfl⟩

lemma Teachers.insertRow_ok {teacher : Teacher} (h : Teachers.insertRow db teacher = .ok db') :
    ∃ teachers, db.teachers.insert teacher = some teachers ∧
      db' = { db with teachers := teachers } := by
  simp only [Teachers.insertRow, bind_ok, found_ok, ensure_ok, pure_ok] at h
  obtain ⟨-, -, teachers, hinsert, -, -, rfl⟩ := h
  exact ⟨teachers, hinsert, rfl⟩

end Inserts

end SchoolOs
