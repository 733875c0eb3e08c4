import SchoolOs.AcademicCalendar
import SchoolOs.Parents
import SchoolOs.Prechecks
import SchoolOs.SchoolPeople
import SchoolOs.Yields

/-!
Requests on the rows that carry keys: years, terms, classes, subjects, cohorts, students, teachers,
parents. What their checks let through, and that the tables keep their unique constraints.
-/

namespace SchoolOs

open Runs

/-! ### Requests -/

inductive RowOp (C U : Type)
  | create (data : C) (id : Ulid)
  | update (rowId : Ulid) (data : U)
  | delete (rowId : Ulid) (version : ℕ)

inductive KeyOp
  | year (op : RowOp AcademicYearCreate AcademicYearUpdate)
  | term (op : RowOp AcademicTermCreate AcademicTermUpdate)
  | academicClass (op : RowOp AcademicClassCreate AcademicClassUpdate)
  | subject (op : RowOp SubjectCreate SubjectUpdate)
  | cohort (op : RowOp CohortCreate CohortUpdate)
  | student (op : RowOp StudentCreate StudentUpdate)
  | teacher (op : RowOp TeacherCreate TeacherUpdate)
  | parent (op : RowOp ParentCreate ParentUpdate)

/-- A request on rows that carry keys, with its context and time. -/
structure KeyCall where
  ctx : RequestContext
  clk : Clock
  op : KeyOp

/-- The services of an entity, one for each kind of request. -/
def RowOp.handle {C U ρ : Type} (create : C → Ulid → Fallible (ρ × SchoolDB))
    (owned : Ulid → Fallible ρ) (update : ρ → U → Fallible (ρ × SchoolDB))
    (delete : ρ → ℕ → Fallible SchoolDB) : RowOp C U → Fallible SchoolDB
  | .create data id => Prod.snd <$> create data id
  | .update rowId data => do
    let row ← owned rowId
    Prod.snd <$> update row data
  | .delete rowId version => do
    let row ← owned rowId
    delete row version

/-- What holds of the results of each service of an entity holds of a request's. -/
lemma RowOp.yields {C U ρ : Type} {create : C → Ulid → Fallible (ρ × SchoolDB)}
    {owned : Ulid → Fallible ρ} {update : ρ → U → Fallible (ρ × SchoolDB)}
    {delete : ρ → ℕ → Fallible SchoolDB} {op : RowOp C U} {P : SchoolDB → Prop}
    (hcreate : ∀ data id, Yields (create data id) fun r => P r.2)
    (hupdate : ∀ rowId row, owned rowId = .ok row → ∀ data,
      Yields (update row data) fun r => P r.2)
    (hdelete : ∀ rowId row, owned rowId = .ok row → ∀ version, Yields (delete row version) P) :
    Yields (op.handle create owned update delete) P := by
  cases op with
  | create data id => exact yields_map.mpr (hcreate data id)
  | update rowId data =>
    exact yields_bind.mpr fun row hrow => yields_map.mpr (hupdate rowId row hrow data)
  | delete rowId version => exact yields_bind.mpr fun row hrow => hdelete rowId row hrow version

def KeyCall.handle (env : SchoolEnv) (db : SchoolDB) (c : KeyCall) : Fallible SchoolDB :=
  match c.op with
  | .year op => op.handle (AcademicYears.create env c.ctx db) (AcademicYears.getOwned c.ctx db)
      (AcademicYears.update env c.ctx db) (AcademicYears.delete env c.clk c.ctx db)
  | .term op => op.handle (AcademicTerms.create env c.ctx db) (AcademicTerms.getOwned c.ctx db)
      (AcademicTerms.update env c.ctx db) (AcademicTerms.delete env c.clk c.ctx db)
  | .academicClass op => op.handle (AcademicClasses.create env c.ctx db)
      (AcademicClasses.getOwned c.ctx db) (AcademicClasses.update env c.ctx db)
      (AcademicClasses.delete env c.clk c.ctx db)
  | .subject op => op.handle (Subjects.create env c.ctx db) (Subjects.getOwned c.ctx db)
      (Subjects.update env c.ctx db) (Subjects.delete env c.clk c.ctx db)
  | .cohort op => op.handle (Cohorts.create env c.ctx db) (Cohorts.getOwned c.ctx db)
      (Cohorts.update env c.ctx db) (Cohorts.delete env c.clk c.ctx db)
  | .student op => op.handle (Students.create env c.ctx db) (Students.getOwned c.ctx db)
      (Students.update env c.ctx db) (Students.delete env c.clk c.ctx db)
  | .teacher op => op.handle (Teachers.create env c.ctx db) (Teachers.getOwned c.ctx db)
      (Teachers.update env c.ctx db) (Teachers.delete env c.clk c.ctx db)
  | .parent op => op.handle (Parents.create env c.ctx db) (Parents.get c.ctx db)
      (Parents.update env c.ctx db) (Parents.delete env c.clk c.ctx db)

/-- A failed request leaves no trace. -/
def KeyCall.step (env : SchoolEnv) (db : SchoolDB) (c : KeyCall) : SchoolDB :=
  match c.handle env db with
  | .ok db' => db'
  | .error _ => db

/-! ### Unique constraints -/

/-- The unique constraint of `academic_classes`. -/
def AcademicClasses.SameCode (a b : AcademicClass) : Prop :=
  a.schoolId = b.schoolId ∧ a.code = b.code

/-- The unique constraint of `subjects`. -/
def Subjects.SameCode (a b : Subject) : Prop := a.schoolId = b.schoolId ∧ a.code = b.code

instance : DecidableRel AcademicClasses.SameCode := fun a b =>
  inferInstanceAs (Decidable (a.schoolId = b.schoolId ∧ a.code = b.code))

instance : DecidableRel Subjects.SameCode := fun a b =>
  inferInstanceAs (Decidable (a.schoolId = b.schoolId ∧ a.code = b.code))

/-- The tables satisfy their unique constraints. -/
structure KeysApart (db : SchoolDB) : Prop where
  years : db.academicYears.Excludes AcademicYears.Collides
  terms : db.academicTerms.Excludes AcademicTerms.SameCode
  classes : db.academicClasses.Excludes AcademicClasses.SameCode
  subjects : db.subjects.Excludes Subjects.SameCode
  cohorts : db.cohorts.Excludes Cohorts.SameCode
  students : db.students.Excludes Students.Collides
  teachers : db.teachers.Excludes Teachers.Collides
  parents : db.parents.Excludes Parents.SamePerson

lemma KeysApart.log {db : SchoolDB} (h : KeysApart db) (row : AuditLog) : KeysApart (db.log row) :=
  ⟨h.years, h.terms, h.classes, h.subjects, h.cohorts, h.students, h.teachers, h.parents⟩

/-- A row that a request hands to the flush. -/
inductive KeyRow
  | year (row : AcademicYear)
  | term (row : AcademicTerm)
  | academicClass (row : AcademicClass)
  | subject (row : Subject)
  | cohort (row : Cohort)
  | student (row : Student)
  | teacher (row : Teacher)
  | parent (row : Parent)

/-- The flush of the row violates no unique constraint: no other row of its table clashes. -/
def KeyRow.Apart (db : SchoolDB) : KeyRow → Prop
  | .year row => db.academicYears.Apart AcademicYears.Collides row
  | .term row => db.academicTerms.Apart AcademicTerms.SameCode row
  | .academicClass row => db.academicClasses.Apart AcademicClasses.SameCode row
  | .subject row => db.subjects.Apart Subjects.SameCode row
  | .cohort row => db.cohorts.Apart Cohorts.SameCode row
  | .student row => db.students.Apart Students.Collides row
  | .teacher row => db.teachers.Apart Teachers.Collides row
  | .parent row => db.parents.Apart Parents.SamePerson row

instance (db : SchoolDB) : (row : KeyRow) → Decidable (row.Apart db)
  | .year row => inferInstanceAs (Decidable (db.academicYears.Apart AcademicYears.Collides row))
  | .term row => inferInstanceAs (Decidable (db.academicTerms.Apart AcademicTerms.SameCode row))
  | .academicClass row =>
    inferInstanceAs (Decidable (db.academicClasses.Apart AcademicClasses.SameCode row))
  | .subject row => inferInstanceAs (Decidable (db.subjects.Apart Subjects.SameCode row))
  | .cohort row => inferInstanceAs (Decidable (db.cohorts.Apart Cohorts.SameCode row))
  | .student row => inferInstanceAs (Decidable (db.students.Apart Students.Collides row))
  | .teacher row => inferInstanceAs (Decidable (db.teachers.Apart Teachers.Collides row))
  | .parent row => inferInstanceAs (Decidable (db.parents.Apart Parents.SamePerson row))

/-! ### The checks of a request -/

section Checks

variable (env : SchoolEnv) (clk : Clock) (ctx : RequestContext) (db : SchoolDB)

/-- The check of the version, and the row that is flushed then. -/
def checkVersion {ρ : Type} (stored given : ℕ) (row : ρ) : Fallible ρ := do
  ensure (stored = given) staleResourceError
  return row

/-- `create` of years, up to the flush. -/
def AcademicYears.checkCreate (data : AcademicYearCreate) (id : Ulid) : Fallible AcademicYear := do
  let schoolId ← found ctx.schoolId noSchool
  ensureAbsent (getYearByCode env db schoolId data.code) fun _ =>
    codeTaken env "An academic year" "ACADEMIC_YEAR_CODE_TAKEN" data.code
  let organizationId ← found ctx.organizationId internalError
  return created ctx schoolId organizationId data id

/-- `create` of terms, up to the flush. -/
def AcademicTerms.checkCreate (data : AcademicTermCreate) (id : Ulid) : Fallible AcademicTerm := do
  let schoolId ← found ctx.schoolId noSchool
  let year ← found (getYear db schoolId data.academicYearId) yearNotFound
  validateTermDates data.startDate data.endDate year.startDate year.endDate
  ensureAbsent (getTermByCode env db schoolId data.academicYearId data.code) fun _ =>
    conflictError ("A term with code " ++ env.repr data.code ++
      " already exists in this academic year.") "ACADEMIC_TERM_CODE_TAKEN"
      [("code", .text data.code)]
  let organizationId ← found ctx.organizationId internalError
  return created ctx schoolId organizationId data id

/-- `update` of terms, up to the flush. -/
def AcademicTerms.checkUpdate (term : AcademicTerm) (data : AcademicTermUpdate) :
    Fallible AcademicTerm := do
  ensure (term.version = data.version) staleResourceError
  let new := applied ctx term data
  let schoolId ← found ctx.schoolId yearNotFound
  let year ← found (getYear db schoolId term.academicYearId) yearNotFound
  validateTermDates new.startDate new.endDate year.startDate year.endDate
  return new

/-- `create` of classes, up to the flush. -/
def AcademicClasses.checkCreate (data : AcademicClassCreate) (id : Ulid) :
    Fallible AcademicClass := do
  let schoolId ← found ctx.schoolId noSchool
  ensureAbsent (getClassByCode env db schoolId data.code) fun _ =>
    codeTaken env "An academic class" "ACADEMIC_CLASS_CODE_TAKEN" data.code
  let organizationId ← found ctx.organizationId internalError
  return { id := id, schoolId := schoolId, organizationId := organizationId, code := data.code,
           name := data.name, description := data.description, sortOrder := data.sortOrder,
           status := data.status, deletedAt := none, createdById := ctx.userId,
           updatedById := none, version := 1 }

/-- `create` of subjects, up to the flush. -/
def Subjects.checkCreate (data : SubjectCreate) (id : Ulid) : Fallible Subject := do
  let schoolId ← found ctx.schoolId noSchool
  ensureAbsent (getSubjectByCode env db schoolId data.code) fun _ =>
    codeTaken env "A subject" "SUBJECT_CODE_TAKEN" data.code
  let organizationId ← found ctx.organizationId internalError
  return { id := id, schoolId := schoolId, organizationId := organizationId, code := data.code,
           name := data.name, description := data.description, subjectType := data.subjectType,
           status := data.status, deletedAt := none, createdById := ctx.userId,
           updatedById := none, version := 1 }

/-- `create` of cohorts, up to the flush. -/
def Cohorts.checkCreate (data : CohortCreate) (id : Ulid) : Fallible Cohort := do
  let schoolId ← found ctx.schoolId noSchool
  let _ ← found (getYear db schoolId data.academicYearId) yearNotFound
  let _ ← found (getClass db schoolId data.academicClassId) classNotFound
  ensureAbsent (getCohortByCode env db schoolId data.academicYearId data.academicClassId data.code)
    fun _ => conflictError ("A cohort with code " ++ env.repr data.code ++
      " already exists for this class and year.") "COHORT_CODE_TAKEN" [("code", .text data.code)]
  let organizationId ← found ctx.organizationId internalError
  return { id := id, schoolId := schoolId, organizationId := organizationId,
           academicYearId := data.academicYearId, academicClassId := data.academicClassId,
           code := data.code, name := data.name, capacity := data.capacity, status := data.status,
           deletedAt := none, createdById := ctx.userId, updatedById := none, version := 1 }

/-- `create` of students, up to the flush. -/
def Students.checkCreate (data : StudentCreate) (id : Ulid) : Fallible Student := do
  let schoolId ← found ctx.schoolId noSchool
  let _ ← found (getPerson db ctx.organizationId data.personId)
    (notFoundError "The specified person does not exist in this organization." "PERSON_NOT_FOUND")
  ensureAbsent (getByAdmissionNumber db schoolId data.admissionNumber) fun _ =>
    conflictError ("A student with admission number " ++ env.repr data.admissionNumber ++
      " already exists.") "ADMISSION_NUMBER_TAKEN"
      [("admission_number", .text data.admissionNumber)]
  ensureAbsent (getStudentByPersonId db schoolId data.personId) fun _ =>
    conflictError "This person is already enrolled as a student at this school."
      "PERSON_ALREADY_ENROLLED" [("person_id", .id data.personId)]
  let organizationId ← found ctx.organizationId internalError
  return { id := id, schoolId := schoolId, organizationId := organizationId,
           personId := data.personId, admissionNumber := data.admissionNumber,
           admissionDate := data.admissionDate, status := data.status, withdrawalDate := none,
           withdrawalReason := none, deletedAt := none, createdById := ctx.userId,
           updatedById := none, version := 1 }

/-- `create` of teachers, up to the flush. -/
def Teachers.checkCreate (data : TeacherCreate) (id : Ulid) : Fallible Teacher := do
  let schoolId ← found ctx.schoolId noSchool
  let _ ← found (getPerson db ctx.organizationId data.personId)
    (notFoundError "The person was not found." "PERSON_NOT_FOUND")
  ensureAbsent (getTeacherByPersonId db schoolId data.personId) fun _ =>
    conflictError "This person is already a teacher at this school." "TEACHER_PERSON_TAKEN"
      [("person_id", .id data.personId)]
  checkEmployeeNumber env db schoolId data
  let organizationId ← found ctx.organizationId internalError
  return { id := id, schoolId := schoolId, organizationId := organizationId,
           personId := data.personId, employeeNumber := data.employeeNumber,
           designation := data.designation, joiningDate := data.joiningDate, leavingDate := none,
           status := data.status, deletedAt := none, createdById := ctx.userId,
           updatedById := none, version := 1 }

/-- `update` of teachers, up to the flush. -/
def Teachers.checkUpdate (teacher : Teacher) (data : TeacherUpdate) : Fallible Teacher := do
  ensure (teacher.version = data.version) staleResourceError
  checkNewNumber env db teacher data
  return applied ctx teacher data

/-- `create` of parents, up to the flush. -/
def Parents.checkCreate (data : ParentCreate) (id : Ulid) : Fallible Parent := do
  let schoolId ← found ctx.schoolId noSchool
  let _ ← found (getPerson db ctx.organizationId data.personId)
    (notFoundError "The specified person does not exist in this organization." "PERSON_NOT_FOUND")
  ensureAbsent (getParentByPersonId db schoolId data.personId) fun _ =>
    conflictError "This person is already registered as a parent at this school."
      "PERSON_ALREADY_PARENT" [("person_id", .id data.personId)]
  let organizationId ← found ctx.organizationId internalError
  return created ctx schoolId organizationId data id

end Checks

/-- The checks of an entity's services, and the row they end in. -/
def RowOp.checks {C U ρ : Type} (create : C → Ulid → Fallible ρ) (owned : Ulid → Fallible ρ)
    (update : ρ → U → Fallible ρ) (delete : ρ → ℕ → Fallible ρ) : RowOp C U → Fallible ρ
  | .create data id => create data id
  | .update rowId data => do
    let row ← owned rowId
    update row data
  | .delete rowId version => do
    let row ← owned rowId
    delete row version

/-- What a request checks before the flush, and the row it hands to it. -/
def KeyCall.checks (env : SchoolEnv) (db : SchoolDB) (c : KeyCall) : Fallible KeyRow :=
  match c.op with
  | .year op => .year <$> op.checks (AcademicYears.checkCreate env c.ctx db)
      (AcademicYears.getOwned c.ctx db)
      (fun y data => checkVersion y.version data.version (AcademicYears.applied c.ctx y data))
      fun y version => checkVersion y.version version
        { y with deletedAt := some c.clk.now, updatedById := c.ctx.userId }
  | .term op => .term <$> op.checks (AcademicTerms.checkCreate env c.ctx db)
      (AcademicTerms.getOwned c.ctx db) (AcademicTerms.checkUpdate c.ctx db)
      fun t version => checkVersion t.version version
        { t with deletedAt := some c.clk.now, updatedById := c.ctx.userId }
  | .academicClass op => .academicClass <$> op.checks (AcademicClasses.checkCreate env c.ctx db)
      (AcademicClasses.getOwned c.ctx db)
      (fun k data => checkVersion k.version data.version (AcademicClasses.applied c.ctx k data))
      fun k version => checkVersion k.version version
        { k with deletedAt := some c.clk.now, updatedById := c.ctx.userId }
  | .subject op => .subject <$> op.checks (Subjects.checkCreate env c.ctx db)
      (Subjects.getOwned c.ctx db)
      (fun s data => checkVersion s.version data.version (Subjects.applied c.ctx s data))
      fun s version => checkVersion s.version version
        { s with deletedAt := some c.clk.now, updatedById := c.ctx.userId }
  | .cohort op => .cohort <$> op.checks (Cohorts.checkCreate env c.ctx db)
      (Cohorts.getOwned c.ctx db)
      (fun k data => checkVersion k.version data.version (Cohorts.applied c.ctx k data))
      fun k version => checkVersion k.version version
        { k with deletedAt := some c.clk.now, updatedById := c.ctx.userId }
  | .student op => .student <$> op.checks (Students.checkCreate env c.ctx db)
      (Students.getOwned c.ctx db)
      (fun s data => checkVersion s.version data.version (Students.applied c.ctx s data))
      fun s version => checkVersion s.version version
        { s with deletedAt := some c.clk.now, updatedById := c.ctx.userId }
  | .teacher op => .teacher <$> op.checks (Teachers.checkCreate env c.ctx db)
      (Teachers.getOwned c.ctx db) (Teachers.checkUpdate env c.ctx db)
      fun t version => checkVersion t.version version
        { t with deletedAt := some c.clk.now, updatedById := c.ctx.userId }
  | .parent op => .parent <$> op.checks (Parents.checkCreate c.ctx db)
      (Parents.get c.ctx db)
      (fun p data => checkVersion p.version data.version (Parents.applied c.ctx p data))
      fun p version => checkVersion p.version version
        { p with deletedAt := some c.clk.now, updatedById := c.ctx.userId }

/-! ### What the requests do -/

section Requests

variable {env : SchoolEnv} {clk : Clock} {ctx : RequestContext} {db : SchoolDB}
  {ρ σ : Type} {key : ρ → Ulid} {t : Table key} {clash : ρ → ρ → Prop} {row : ρ} {result : σ}
  {build : Table key → SchoolDB} {w : Fallible SchoolDB} {entry : AuditEntry}

lemma keysApart_audit {db' : SchoolDB} (h : KeysApart db)
    (haudit : db.audit env ctx entry = .ok db') : KeysApart db' := by
  obtain ⟨_, rfl⟩ := schoolAudit_ok.mp haudit
  exact h.log _

lemma prechecks_audit (hw : Flushes t clash row build w)
    (hbuild : ∀ t' : Table key, t'.Excludes clash → KeysApart (build t')) :
    Prechecks t clash (pure row) (w >>= fun db => db.audit env ctx entry) KeysApart :=
  prechecks_flush hw fun t' hex _ haudit => keysApart_audit (hbuild t' hex) haudit

lemma prechecks_result (hw : Flushes t clash row build w)
    (hbuild : ∀ t' : Table key, t'.Excludes clash → KeysApart (build t')) :
    Prechecks t clash (pure row) (w >>= fun db => do
      let db ← db.audit env ctx entry
      return (result, db)) fun r => KeysApart r.2 := by
  refine prechecks_flush hw fun t' hex a ha => ?_
  obtain ⟨db', haudit, hpure⟩ := bind_ok.mp ha
  obtain rfl := pure_ok.mp hpure
  exact keysApart_audit (hbuild t' hex) haudit

lemma rowOp_prechecks {C U : Type} {create : C → Ulid → Fallible (ρ × SchoolDB)}
    {owned : Ulid → Fallible ρ} {update : ρ → U → Fallible (ρ × SchoolDB)}
    {delete : ρ → ℕ → Fallible SchoolDB} {checkCreate : C → Ulid → Fallible ρ}
    {checkUpdate : ρ → U → Fallible ρ} {checkDelete : ρ → ℕ → Fallible ρ}
    (hcreate : ∀ data id,
      Prechecks t clash (checkCreate data id) (create data id) fun r => KeysApart r.2)
    (hupdate : ∀ rowId row data, owned rowId = .ok row →
      Prechecks t clash (checkUpdate row data) (update row data) fun r => KeysApart r.2)
    (hdelete : ∀ rowId row version, owned rowId = .ok row →
      Prechecks t clash (checkDelete row version) (delete row version) KeysApart)
    (op : RowOp C U) : Prechecks t clash (op.checks checkCreate owned checkUpdate checkDelete)
      (op.handle create owned update delete) KeysApart := by
  cases op with
  | create data id => exact prechecks_map (hcreate data id)
  | update rowId data =>
    exact prechecks_bind fun row hrow => prechecks_map (hupdate rowId row data hrow)
  | delete rowId version =>
    exact prechecks_bind fun row hrow => hdelete rowId row version hrow

/-- A lookup by key among the rows of a school that are not deleted. -/
lemma owned_mem {deletedAt : ρ → Option Instant} {school : ρ → Ulid} {e e' : ApiError} {k : Ulid}
    (h : (found ctx.schoolId e >>= fun schoolId => found ((t.get k).filter fun r =>
      school r = schoolId ∧ deletedAt r = none) e') = .ok row) :
    row ∈ t ∧ key row = k ∧ ctx.schoolId = some (school row) ∧ deletedAt row = none := by
  obtain ⟨schoolId, hctx, hrow⟩ := bind_ok.mp h
  obtain ⟨hget, hkept⟩ := Option.filter_eq_some_iff.mp (found_ok.mp hrow)
  obtain ⟨rfl, hlive⟩ : school row = schoolId ∧ deletedAt row = none := by simpa using hkept
  obtain ⟨hmem, hk⟩ := Table.get_eq_some.mp hget
  exact ⟨hmem, hk, found_ok.mp hctx, hlive⟩

lemma sameTerm_symm (a b : AcademicTerm) (h : AcademicTerms.SameCode a b) :
    AcademicTerms.SameCode b a := ⟨h.1.symm, h.2.1.symm, h.2.2.symm⟩

lemma sameClass_symm (a b : AcademicClass) (h : AcademicClasses.SameCode a b) :
    AcademicClasses.SameCode b a := ⟨h.1.symm, h.2.symm⟩

lemma sameSubject_symm (a b : Subject) (h : Subjects.SameCode a b) : Subjects.SameCode b a :=
  ⟨h.1.symm, h.2.symm⟩

lemma sameCohort_symm (a b : Cohort) (h : Cohorts.SameCode a b) : Cohorts.SameCode b a :=
  ⟨h.1.symm, h.2.1.symm, h.2.2.1.symm, h.2.2.2.symm⟩

lemma studentCollides_symm (a b : Student) (h : Students.Collides a b) : Students.Collides b a :=
  ⟨h.1.symm, h.2.imp Eq.symm Eq.symm⟩

lemma teacherCollides_symm (a b : Teacher) (h : Teachers.Collides a b) :
    Teachers.Collides b a := by
  refine ⟨h.1.symm, h.2.imp Eq.symm ?_⟩
  rintro ⟨hnumber, hsome, ha, hb⟩
  exact ⟨hnumber.symm, hnumber ▸ hsome, hb, ha⟩

lemma samePerson_symm (a b : Parent) (h : Parents.SamePerson a b) : Parents.SamePerson b a :=
  ⟨h.1.symm, h.2.symm⟩

/-- **Students**: what their services check, and what they flush. -/
lemma student_prechecks (h : KeysApart db) (op : RowOp StudentCreate StudentUpdate) :
    Prechecks db.students Students.Collides
      (op.checks (Students.checkCreate env ctx db) (Students.getOwned ctx db)
        (fun s data => checkVersion s.version data.version (Students.applied ctx s data))
        fun s version => checkVersion s.version version
          { s with deletedAt := some clk.now, updatedById := ctx.userId })
      (op.handle (Students.create env ctx db) (Students.getOwned ctx db)
        (Students.update env ctx db) (Students.delete env clk ctx db)) KeysApart := by
  have hbuild : ∀ students : Table Student.id, students.Excludes Students.Collides →
      KeysApart { db with students := students } :=
    fun students hex => { h with students := hex }
  have hsave : ∀ {old new : Student}, old ∈ db.students →
      Flushes db.students Students.Collides new (fun students => { db with students := students })
        (Students.save db old new) := fun hold =>
    flushes_save Student.touch studentCollides_symm h.students hold (fun _ => rfl)
      fun _ _ hc => hc
  refine rowOp_prechecks (fun data id => ?_) (fun _ s data howned => ?_)
    (fun _ s version howned => ?_) op
  · refine prechecks_bind fun _ _ => prechecks_bind fun _ _ => prechecks_bind fun _ _ =>
      prechecks_bind fun _ _ => prechecks_bind fun _ _ => ?_
    exact prechecks_result (flushes_insert studentCollides_symm h.students) hbuild
  · exact prechecks_bind fun _ _ => prechecks_result (hsave (owned_mem howned).1) hbuild
  · exact prechecks_bind fun _ _ => prechecks_audit (hsave (owned_mem howned).1) hbuild

lemma unsetCurrent_keysApart (h : KeysApart db) (schoolId yearId : Ulid) :
    KeysApart (unsetCurrent db schoolId yearId) := by
  refine { h with years := ?_ }
  have hcols : ∀ y ∈ (unsetCurrent db schoolId yearId).academicYears, ∃ y' ∈ db.academicYears,
      y.id = y'.id ∧ ∀ z, AcademicYears.Collides z y → AcademicYears.Collides z y' := by
    intro y hy
    obtain ⟨y', hy', rfl⟩ := Tables.mem_setWhere.mp hy
    refine ⟨y', hy', ?_⟩
    split
    · refine ⟨rfl, fun z hz => ⟨hz.1, .inl ?_⟩⟩
      obtain hcode | ⟨_, _, hcur, _⟩ := hz.2
      · exact hcode
      · cases hcur
    · exact ⟨rfl, fun _ hz => hz⟩
  intro a ha b hb hne hclash
  obtain ⟨a', ha', hka, hfroma⟩ := hcols a ha
  obtain ⟨b', hb', hkb, hfromb⟩ := hcols b hb
  refine h.years a' ha' b' hb' (hka ▸ hkb ▸ hne) ?_
  exact hfromb a' (yearCollides_symm _ _ (hfroma b (yearCollides_symm _ _ hclash)))

/-- **Years**: what their services check, and what they flush. -/
lemma year_prechecks (h : KeysApart db) (op : RowOp AcademicYearCreate AcademicYearUpdate) :
    Prechecks db.academicYears AcademicYears.Collides
      (op.checks (AcademicYears.checkCreate env ctx db) (AcademicYears.getOwned ctx db)
        (fun y data => checkVersion y.version data.version (AcademicYears.applied ctx y data))
        fun y version => checkVersion y.version version
          { y with deletedAt := some clk.now, updatedById := ctx.userId })
      (op.handle (AcademicYears.create env ctx db) (AcademicYears.getOwned ctx db)
        (AcademicYears.update env ctx db) (AcademicYears.delete env clk ctx db)) KeysApart := by
  have hbuild : ∀ years : Table AcademicYear.id, years.Excludes AcademicYears.Collides →
      KeysApart { db with academicYears := years } :=
    fun years hex => { h with years := hex }
  have hsave : ∀ {old new : AcademicYear}, old ∈ db.academicYears →
      Flushes db.academicYears AcademicYears.Collides new
        (fun years => { db with academicYears := years }) (AcademicYears.save db old new) :=
    fun hold => flushes_save AcademicYear.touch yearCollides_symm h.years hold (fun _ => rfl)
      fun _ _ hc => hc
  -- the other years are cleared after the flush
  have hcleared : ∀ {asked : Prop} [Decidable asked] {db1 : SchoolDB} {schoolId yearId : Ulid},
      KeysApart db1 → KeysApart (if asked then unsetCurrent db1 schoolId yearId else db1) := by
    intro asked _ db1 schoolId yearId hdb1
    split
    · exact unsetCurrent_keysApart hdb1 _ _
    · exact hdb1
  refine rowOp_prechecks (fun data id => ?_) (fun _ y data howned => ?_)
    (fun _ y version howned => ?_) op
  · refine prechecks_bind fun _ _ => prechecks_bind fun _ _ => prechecks_bind fun _ _ => ?_
    refine prechecks_flush (flushes_insert yearCollides_symm h.years) fun years hex a ha => ?_
    obtain ⟨db', haudit, hpure⟩ := bind_ok.mp ha
    obtain rfl := pure_ok.mp hpure
    exact keysApart_audit (hcleared (hbuild years hex)) haudit
  · refine prechecks_bind fun _ _ => ?_
    refine prechecks_flush (hsave (owned_mem howned).1) fun years hex a ha => ?_
    obtain ⟨schoolId, _, ha⟩ := bind_ok.mp ha
    obtain ⟨db', haudit, hpure⟩ := bind_ok.mp ha
    obtain rfl := pure_ok.mp hpure
    exact keysApart_audit (hcleared (hbuild years hex)) haudit
  · exact prechecks_bind fun _ _ => prechecks_audit (hsave (owned_mem howned).1) hbuild

/-- **Terms**: what their services check, and what they flush. -/
lemma term_prechecks (h : KeysApart db) (op : RowOp AcademicTermCreate AcademicTermUpdate) :
    Prechecks db.academicTerms AcademicTerms.SameCode
      (op.checks (AcademicTerms.checkCreate env ctx db) (AcademicTerms.getOwned ctx db)
        (AcademicTerms.checkUpdate ctx db)
        fun t version => checkVersion t.version version
          { t with deletedAt := some clk.now, updatedById := ctx.userId })
      (op.handle (AcademicTerms.create env ctx db) (AcademicTerms.getOwned ctx db)
        (AcademicTerms.update env ctx db) (AcademicTerms.delete env clk ctx db)) KeysApart := by
  have hbuild : ∀ terms : Table AcademicTerm.id, terms.Excludes AcademicTerms.SameCode →
      KeysApart { db with academicTerms := terms } :=
    fun terms hex => { h with terms := hex }
  have hsave : ∀ {old new : AcademicTerm}, old ∈ db.academicTerms →
      Flushes db.academicTerms AcademicTerms.SameCode new
        (fun terms => { db with academicTerms := terms }) (AcademicTerms.save db old new) :=
    fun hold => flushes_save AcademicTerm.touch sameTerm_symm h.terms hold (fun _ => rfl)
      fun _ _ hc => hc
  refine rowOp_prechecks (fun data id => ?_) (fun _ t data howned => ?_)
    (fun _ t version howned => ?_) op
  · refine prechecks_bind fun _ _ => prechecks_bind fun _ _ => prechecks_bind fun _ _ =>
      prechecks_bind fun _ _ => prechecks_bind fun _ _ => ?_
    exact prechecks_result (flushes_insert sameTerm_symm h.terms) hbuild
  · refine prechecks_bind fun _ _ => prechecks_bind fun _ _ => prechecks_bind fun _ _ =>
      prechecks_bind fun _ _ => ?_
    exact prechecks_result (hsave (owned_mem howned).1) hbuild
  · exact prechecks_bind fun _ _ => prechecks_audit (hsave (owned_mem howned).1) hbuild

/-- **Classes**: what their services check, and what they flush. -/
lemma class_prechecks (h : KeysApart db) (op : RowOp AcademicClassCreate AcademicClassUpdate) :
    Prechecks db.academicClasses AcademicClasses.SameCode
      (op.checks (AcademicClasses.checkCreate env ctx db) (AcademicClasses.getOwned ctx db)
        (fun k data => checkVersion k.version data.version (AcademicClasses.applied ctx k data))
        fun k version => checkVersion k.version version
          { k with deletedAt := some clk.now, updatedById := ctx.userId })
      (op.handle (AcademicClasses.create env ctx db) (AcademicClasses.getOwned ctx db)
        (AcademicClasses.update env ctx db) (AcademicClasses.delete env clk ctx db))
      KeysApart := by
  have hbuild : ∀ classes : Table AcademicClass.id, classes.Excludes AcademicClasses.SameCode →
      KeysApart { db with academicClasses := classes } :=
    fun classes hex => { h with classes := hex }
  have hsave : ∀ {old new : AcademicClass}, old ∈ db.academicClasses →
      Flushes db.academicClasses AcademicClasses.SameCode new
        (fun classes => { db with academicClasses := classes })
        (AcademicClasses.save db old new) :=
    fun hold => flushes_save AcademicClass.touch sameClass_symm h.classes hold (fun _ => rfl)
      fun _ _ hc => hc
  refine rowOp_prechecks (fun data id => ?_) (fun _ k data howned => ?_)
    (fun _ k version howned => ?_) op
  · refine prechecks_bind fun _ _ => prechecks_bind fun _ _ => prechecks_bind fun _ _ => ?_
    exact prechecks_result (flushes_insert sameClass_symm h.classes) hbuild
  · exact prechecks_bind fun _ _ => prechecks_result (hsave (owned_mem howned).1) hbuild
  · exact prechecks_bind fun _ _ => prechecks_audit (hsave (owned_mem howned).1) hbuild

/-- **Subjects**: what their services check, and what they flush. -/
lemma subject_prechecks (h : KeysApart db) (op : RowOp SubjectCreate SubjectUpdate) :
    Prechecks db.subjects Subjects.SameCode
      (op.checks (Subjects.checkCreate env ctx db) (Subjects.getOwned ctx db)
        (fun s data => checkVersion s.version data.version (Subjects.applied ctx s data))
        fun s version => checkVersion s.version version
          { s with deletedAt := some clk.now, updatedById := ctx.userId })
      (op.handle (Subjects.create env ctx db) (Subjects.getOwned ctx db)
        (Subjects.update env ctx db) (Subjects.delete env clk ctx db)) KeysApart := by
  have hbuild : ∀ subjects : Table Subject.id, subjects.Excludes Subjects.SameCode →
      KeysApart { db with subjects := subjects } :=
    fun subjects hex => { h with subjects := hex }
  have hsave : ∀ {old new : Subject}, old ∈ db.subjects →
      Flushes db.subjects Subjects.SameCode new (fun subjects => { db with subjects := subjects })
        (Subjects.save db old new) :=
    fun hold => flushes_save Subject.touch sameSubject_symm h.subjects hold (fun _ => rfl)
      fun _ _ hc => hc
  refine rowOp_prechecks (fun data id => ?_) (fun _ s data howned => ?_)
    (fun _ s version howned => ?_) op
  · refine prechecks_bind fun _ _ => prechecks_bind fun _ _ => prechecks_bind fun _ _ => ?_
    exact prechecks_result (flushes_insert sameSubject_symm h.subjects) hbuild
  · exact prechecks_bind fun _ _ => prechecks_result (hsave (owned_mem howned).1) hbuild
  · exact prechecks_bind fun _ _ => prechecks_audit (hsave (owned_mem howned).1) hbuild

/-- **Cohorts**: what their services check, and what they flush. -/
lemma cohort_prechecks (h : KeysApart db) (op : RowOp CohortCreate CohortUpdate) :
    Prechecks db.cohorts Cohorts.SameCode
      (op.checks (Cohorts.checkCreate env ctx db) (Cohorts.getOwned ctx db)
        (fun k data => checkVersion k.version data.version (Cohorts.applied ctx k data))
        fun k version => checkVersion k.version version
          { k with deletedAt := some clk.now, updatedById := ctx.userId })
      (op.handle (Cohorts.create env ctx db) (Cohorts.getOwned ctx db)
        (Cohorts.update env ctx db) (Cohorts.delete env clk ctx db)) KeysApart := by
  have hbuild : ∀ cohorts : Table Cohort.id, cohorts.Excludes Cohorts.SameCode →
      KeysApart { db with cohorts := cohorts } :=
    fun cohorts hex => { h with cohorts := hex }
  -- no payload changes a column of the constraint
  have hsave : ∀ {old new : Cohort}, old ∈ db.cohorts → new.id = old.id →
      (∀ a, Cohorts.SameCode a new → Cohorts.SameCode a old) →
      Flushes db.cohorts Cohorts.SameCode new (fun cohorts => { db with cohorts := cohorts })
        (Cohorts.save db old new) :=
    fun hold hid hsame => flushes_put Cohort.touch sameCohort_symm h.cohorts hold hid hsame
      (fun _ => rfl) fun _ _ hc => hc
  refine rowOp_prechecks (fun data id => ?_) (fun _ k data howned => ?_)
    (fun _ k version howned => ?_) op
  · refine prechecks_bind fun _ _ => prechecks_bind fun _ _ => prechecks_bind fun _ _ =>
      prechecks_bind fun _ _ => prechecks_bind fun _ _ => ?_
    exact prechecks_result (flushes_insert sameCohort_symm h.cohorts) hbuild
  · refine prechecks_bind fun _ _ => ?_
    exact prechecks_result (hsave (owned_mem howned).1 rfl fun _ hc => hc) hbuild
  · refine prechecks_bind fun _ _ => ?_
    exact prechecks_audit (hsave (owned_mem howned).1 rfl fun _ hc => hc) hbuild

/-- **Teachers**: what their services check, and what they flush. -/
lemma teacher_prechecks (h : KeysApart db) (op : RowOp TeacherCreate TeacherUpdate) :
    Prechecks db.teachers Teachers.Collides
      (op.checks (Teachers.checkCreate env ctx db) (Teachers.getOwned ctx db)
        (Teachers.checkUpdate env ctx db)
        fun t version => checkVersion t.version version
          { t with deletedAt := some clk.now, updatedById := ctx.userId })
      (op.handle (Teachers.create env ctx db) (Teachers.getOwned ctx db)
        (Teachers.update env ctx db) (Teachers.delete env clk ctx db)) KeysApart := by
  have hbuild : ∀ teachers : Table Teacher.id, teachers.Excludes Teachers.Collides →
      KeysApart { db with teachers := teachers } :=
    fun teachers hex => { h with teachers := hex }
  have hsave : ∀ {old new : Teacher}, old ∈ db.teachers →
      Flushes db.teachers Teachers.Collides new (fun teachers => { db with teachers := teachers })
        (Teachers.save db old new) :=
    fun hold => flushes_save Teacher.touch teacherCollides_symm h.teachers hold (fun _ => rfl)
      fun _ _ hc => hc
  refine rowOp_prechecks (fun data id => ?_) (fun _ t data howned => ?_)
    (fun _ t version howned => ?_) op
  · refine prechecks_bind fun _ _ => prechecks_bind fun _ _ => prechecks_bind fun _ _ =>
      prechecks_bind fun _ _ => prechecks_bind fun _ _ => ?_
    exact prechecks_result (flushes_insert teacherCollides_symm h.teachers).after_ensure hbuild
  · refine prechecks_bind fun _ _ => prechecks_bind fun _ _ => ?_
    exact prechecks_result (hsave (owned_mem howned).1) hbuild
  · exact prechecks_bind fun _ _ => prechecks_audit (hsave (owned_mem howned).1) hbuild

/-- **Parents**: what their services check, and what they flush. -/
lemma parent_prechecks (h : KeysApart db) (op : RowOp ParentCreate ParentUpdate) :
    Prechecks db.parents Parents.SamePerson
      (op.checks (Parents.checkCreate ctx db) (Parents.get ctx db)
        (fun p data => checkVersion p.version data.version (Parents.applied ctx p data))
        fun p version => checkVersion p.version version
          { p with deletedAt := some clk.now, updatedById := ctx.userId })
      (op.handle (Parents.create env ctx db) (Parents.get ctx db)
        (Parents.update env ctx db) (Parents.delete env clk ctx db)) KeysApart := by
  have hbuild : ∀ parents : Table Parent.id, parents.Excludes Parents.SamePerson →
      KeysApart { db with parents := parents } :=
    fun parents hex => { h with parents := hex }
  have hsave : ∀ {old new : Parent}, old ∈ db.parents →
      Flushes db.parents Parents.SamePerson new (fun parents => { db with parents := parents })
        (Parents.save db old new) :=
    fun hold => flushes_save Parent.touch samePerson_symm h.parents hold (fun _ => rfl)
      fun _ _ hc => hc
  refine rowOp_prechecks (fun data id => ?_) (fun _ p data howned => ?_)
    (fun _ p version howned => ?_) op
  · refine prechecks_bind fun _ _ => prechecks_bind fun _ _ => prechecks_bind fun _ _ =>
      prechecks_bind fun _ _ => ?_
    exact prechecks_result (flushes_insert samePerson_symm h.parents) hbuild
  · exact prechecks_bind fun _ _ => prechecks_result (hsave (owned_mem howned).1) hbuild
  · exact prechecks_bind fun _ _ => prechecks_audit (hsave (owned_mem howned).1) hbuild

end Requests

end SchoolOs
