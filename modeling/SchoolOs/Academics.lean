import SchoolOs.Timetables

/-!
Academic business logic: years, classes, subjects, the subjects of a class, cohorts.
-/

namespace SchoolOs

/-! ### Payloads -/

structure AcademicYearCreate where
  code : String
  name : String
  startDate : Date
  endDate : Date
  isCurrent : Bool
  status : AcademicYearStatus
  code_length : 1 ≤ code.length ∧ code.length ≤ 40
  name_length : 1 ≤ name.length ∧ name.length ≤ 200

structure AcademicYearUpdate where
  name : Option String
  startDate : Option Date
  endDate : Option Date
  isCurrent : Option Bool
  status : Option AcademicYearStatus
  version : ℕ
  name_length : ∀ n ∈ name, 1 ≤ n.length ∧ n.length ≤ 200
  one_le_version : 1 ≤ version

lemma no_name : ∀ n ∈ (none : Option String), 1 ≤ n.length ∧ n.length ≤ 200 := by simp

structure AcademicTermCreate where
  academicYearId : Ulid
  code : String
  name : String
  startDate : Date
  endDate : Date
  status : AcademicTermStatus
  code_length : 1 ≤ code.length ∧ code.length ≤ 40
  name_length : 1 ≤ name.length ∧ name.length ≤ 200

structure AcademicTermUpdate where
  name : Option String
  startDate : Option Date
  endDate : Option Date
  status : Option AcademicTermStatus
  version : ℕ
  name_length : ∀ n ∈ name, 1 ≤ n.length ∧ n.length ≤ 200
  one_le_version : 1 ≤ version

structure AcademicClassCreate where
  code : String
  name : String
  description : Option String
  sortOrder : ℤ
  status : ShelfStatus
  code_length : 1 ≤ code.length ∧ code.length ≤ 40
  name_length : 1 ≤ name.length ∧ name.length ≤ 200
  description_length : ∀ d ∈ description, d.length ≤ 500

structure AcademicClassUpdate where
  name : Option String
  description : Option String
  sortOrder : Option ℤ
  status : Option ShelfStatus
  version : ℕ
  name_length : ∀ n ∈ name, 1 ≤ n.length ∧ n.length ≤ 200
  description_length : ∀ d ∈ description, d.length ≤ 500
  one_le_version : 1 ≤ version

structure SubjectCreate where
  code : String
  name : String
  description : Option String
  subjectType : SubjectType
  status : ShelfStatus
  code_length : 1 ≤ code.length ∧ code.length ≤ 40
  name_length : 1 ≤ name.length ∧ name.length ≤ 200
  description_length : ∀ d ∈ description, d.length ≤ 500

structure SubjectUpdate where
  name : Option String
  description : Option String
  subjectType : Option SubjectType
  status : Option ShelfStatus
  version : ℕ
  name_length : ∀ n ∈ name, 1 ≤ n.length ∧ n.length ≤ 200
  description_length : ∀ d ∈ description, d.length ≤ 500
  one_le_version : 1 ≤ version

structure ClassSubjectCreate where
  academicClassId : Ulid
  subjectId : Ulid
  effectiveFromYearId : Ulid
  effectiveToYearId : Option Ulid

structure CohortCreate where
  academicYearId : Ulid
  academicClassId : Ulid
  code : String
  name : String
  capacity : Option ℕ
  status : ShelfStatus
  code_length : 1 ≤ code.length ∧ code.length ≤ 40
  name_length : 1 ≤ name.length ∧ name.length ≤ 200
  one_le_capacity : ∀ n ∈ capacity, 1 ≤ n

lemma no_capacity : ∀ n ∈ (none : Option ℕ), 1 ≤ n := nofun

structure CohortUpdate where
  name : Option String
  capacity : Option ℕ
  status : Option ShelfStatus
  version : ℕ
  name_length : ∀ n ∈ name, 1 ≤ n.length ∧ n.length ≤ 200
  one_le_capacity : ∀ n ∈ capacity, 1 ≤ n
  one_le_version : 1 ≤ version

/-! ### Snapshots -/

def yearSnapshot (year : AcademicYear) : Snapshot :=
  [("code", .text year.code), ("name", .text year.name), ("is_current", .bool year.isCurrent),
    ("status", .text year.status.value), ("start_date", dateText (some year.startDate)),
    ("end_date", dateText (some year.endDate))]

def termSnapshot (term : AcademicTerm) : Snapshot :=
  [("code", .text term.code), ("name", .text term.name), ("status", .text term.status.value),
    ("academic_year_id", .id term.academicYearId),
    ("start_date", dateText (some term.startDate)), ("end_date", dateText (some term.endDate))]

def classSnapshot (c : AcademicClass) : Snapshot :=
  [("code", .text c.code), ("name", .text c.name), ("description", .opt .text c.description),
    ("sort_order", .num c.sortOrder), ("status", .text c.status.value)]

def subjectSnapshot (subject : Subject) : Snapshot :=
  [("code", .text subject.code), ("name", .text subject.name),
    ("description", .opt .text subject.description),
    ("subject_type", .text subject.subjectType.value), ("status", .text subject.status.value)]

def classSubjectSnapshot (cs : ClassSubject) : Snapshot :=
  [("academic_class_id", .id cs.academicClassId), ("subject_id", .id cs.subjectId),
    ("effective_from_year_id", .id cs.effectiveFromYearId),
    ("effective_to_year_id", .opt .id cs.effectiveToYearId)]

def cohortSnapshot (cohort : Cohort) : Snapshot :=
  [("code", .text cohort.code), ("name", .text cohort.name),
    ("capacity", .opt (fun n => .num n) cohort.capacity), ("status", .text cohort.status.value),
    ("academic_year_id", .id cohort.academicYearId),
    ("academic_class_id", .id cohort.academicClassId)]

/-! ### Rows -/

def AcademicYear.touch (y : AcademicYear) : AcademicYear := { y with version := y.version + 1 }
def AcademicTerm.touch (t : AcademicTerm) : AcademicTerm := { t with version := t.version + 1 }
def AcademicClass.touch (c : AcademicClass) : AcademicClass := { c with version := c.version + 1 }
def Subject.touch (s : Subject) : Subject := { s with version := s.version + 1 }
def Cohort.touch (c : Cohort) : Cohort := { c with version := c.version + 1 }

/-! ### Data access -/

section Repository

variable (env : SchoolEnv) (db : SchoolDB) (schoolId : Ulid)

def getYear (yearId : Ulid) : Option AcademicYear :=
  (db.academicYears.get yearId).filter fun y => y.schoolId = schoolId ∧ y.deletedAt = none

def getYearByCode (code : String) : Option AcademicYear :=
  db.academicYears.rows.find? fun y =>
    y.schoolId = schoolId ∧ env.sqlLower y.code = env.lower code ∧ y.deletedAt = none

/-- Clear `is_current` on the other years of the school. -/
def unsetCurrent (excludeId : Ulid) : SchoolDB :=
  { db with
    academicYears := db.academicYears.setWhere
      (fun y => y.schoolId = schoolId ∧ y.id ≠ excludeId ∧ y.isCurrent = true ∧ y.deletedAt = none)
      (fun y => { y with isCurrent := false }) (fun _ => rfl) }

def getTerm (termId : Ulid) : Option AcademicTerm :=
  (db.academicTerms.get termId).filter fun t => t.schoolId = schoolId ∧ t.deletedAt = none

def getTermByCode (yearId : Ulid) (code : String) : Option AcademicTerm :=
  db.academicTerms.rows.find? fun t =>
    t.schoolId = schoolId ∧ t.academicYearId = yearId ∧ env.sqlLower t.code = env.lower code ∧
      t.deletedAt = none

def getClass (classId : Ulid) : Option AcademicClass :=
  (db.academicClasses.get classId).filter fun c => c.schoolId = schoolId ∧ c.deletedAt = none

def getClassByCode (code : String) : Option AcademicClass :=
  db.academicClasses.rows.find? fun c =>
    c.schoolId = schoolId ∧ env.sqlLower c.code = env.lower code ∧ c.deletedAt = none

def getSubject (subjectId : Ulid) : Option Subject :=
  (db.subjects.get subjectId).filter fun s => s.schoolId = schoolId ∧ s.deletedAt = none

def getSubjectByCode (code : String) : Option Subject :=
  db.subjects.rows.find? fun s =>
    s.schoolId = schoolId ∧ env.sqlLower s.code = env.lower code ∧ s.deletedAt = none

def getClassSubject (classId subjectId : Ulid) : Option ClassSubject :=
  db.classSubjects.rows.find? fun cs =>
    cs.schoolId = schoolId ∧ cs.academicClassId = classId ∧ cs.subjectId = subjectId

def getCohort (cohortId : Ulid) : Option Cohort :=
  (db.cohorts.get cohortId).filter fun c => c.schoolId = schoolId ∧ c.deletedAt = none

def getCohortByCode (yearId classId : Ulid) (code : String) : Option Cohort :=
  db.cohorts.rows.find? fun c =>
    c.schoolId = schoolId ∧ c.academicYearId = yearId ∧ c.academicClassId = classId ∧
      env.sqlLower c.code = env.lower code ∧ c.deletedAt = none

end Repository

/-! ### Services -/

section Service

variable (env : SchoolEnv) (clk : Clock) (ctx : RequestContext) (db : SchoolDB)

def yearNotFound : ApiError :=
  notFoundError "The academic year was not found." "ACADEMIC_YEAR_NOT_FOUND"
def termNotFound : ApiError :=
  notFoundError "The academic term was not found." "ACADEMIC_TERM_NOT_FOUND"
def classNotFound : ApiError :=
  notFoundError "The academic class was not found." "ACADEMIC_CLASS_NOT_FOUND"
def subjectNotFound : ApiError := notFoundError "The subject was not found." "SUBJECT_NOT_FOUND"
def cohortNotFound : ApiError := notFoundError "The cohort was not found." "COHORT_NOT_FOUND"

/-- What the services of codes answer when a code is in use. -/
def codeTaken (what code taken : String) : ApiError :=
  conflictError (what ++ " with code " ++ env.repr taken ++ " already exists.") code
    [("code", .text taken)]

namespace AcademicYears

/-- The unique constraints of `academic_years`. -/
def Collides (a b : AcademicYear) : Prop :=
  a.schoolId = b.schoolId ∧ (a.code = b.code ∨
    (a.isCurrent = true ∧ a.deletedAt = none ∧ b.isCurrent = true ∧ b.deletedAt = none))

instance : DecidableRel Collides := fun a b =>
  inferInstanceAs (Decidable (a.schoolId = b.schoolId ∧ (a.code = b.code ∨
    (a.isCurrent = true ∧ a.deletedAt = none ∧ b.isCurrent = true ∧ b.deletedAt = none))))

/-- The insert, with its constraints. -/
def insertRow (year : AcademicYear) : Fallible SchoolDB := do
  let years ← found (db.academicYears.insert year) internalError
  ensure ((∀ y ∈ db.academicYears, ¬ Collides y year) ∧ db.HasSchool year.schoolId ∧
    bindable year.code = true ∧ bindable year.name = true) internalError
  return { db with academicYears := years }

/-- The row of a new year. -/
def created (schoolId organizationId : Ulid) (data : AcademicYearCreate) (id : Ulid) :
    AcademicYear where
  id := id
  schoolId := schoolId
  organizationId := organizationId
  code := data.code
  name := data.name
  startDate := data.startDate
  endDate := data.endDate
  isCurrent := data.isCurrent
  status := data.status
  deletedAt := none
  createdById := ctx.userId
  updatedById := none
  version := 1

def createdEntry (year : AcademicYear) : AuditEntry :=
  { action := "ACADEMIC_YEAR_CREATED", entityType := "academic_year", entityId := some year.id,
    summary := some ("Academic year " ++ env.repr year.code ++ " created"),
    after := some (yearSnapshot year) }

def updatedEntry (old new : AcademicYear) : AuditEntry :=
  { action := "ACADEMIC_YEAR_UPDATED", entityType := "academic_year", entityId := some old.id,
    summary := some ("Academic year " ++ env.repr new.code ++ " updated"),
    before := some (yearSnapshot old), after := some (yearSnapshot new) }

def create (data : AcademicYearCreate) (id : Ulid) : Fallible (AcademicYear × SchoolDB) := do
  let schoolId ← found ctx.schoolId noSchool
  ensureAbsent (getYearByCode env db schoolId data.code) fun _ =>
    codeTaken env "An academic year" "ACADEMIC_YEAR_CODE_TAKEN" data.code
  let organizationId ← found ctx.organizationId internalError
  let year := created ctx schoolId organizationId data id
  let db ← insertRow db year
  let db := if year.isCurrent then unsetCurrent db schoolId year.id else db
  let db ← db.audit env ctx (createdEntry env year)
  return (year, db)

/-- The row with the fields of the payload that are given. -/
def applied (year : AcademicYear) (data : AcademicYearUpdate) : AcademicYear :=
  { year with
    name := data.name.getD year.name
    startDate := data.startDate.getD year.startDate
    endDate := data.endDate.getD year.endDate
    isCurrent := data.isCurrent.getD year.isCurrent
    status := data.status.getD year.status
    updatedById := ctx.userId }

/-- The flush of a changed row. -/
def save (old new : AcademicYear) : Fallible SchoolDB :=
  if new = old then return db
  else do
    ensure ((∀ y ∈ db.academicYears, y.id ≠ new.id → ¬ Collides y new) ∧
      bindable new.name = true) internalError
    return { db with academicYears := db.academicYears.put new.touch }

def update (year : AcademicYear) (data : AcademicYearUpdate) :
    Fallible (AcademicYear × SchoolDB) := do
  ensure (year.version = data.version) staleResourceError
  let new := applied ctx year data
  let db ← save db year new
  let schoolId ← found ctx.schoolId yearNotFound
  let db := if data.isCurrent = some true then unsetCurrent db schoolId year.id else db
  let db ← db.audit env ctx (updatedEntry env year new)
  return (flushed AcademicYear.touch year new, db)

/-- Rows of years are not removed. -/
def delete (year : AcademicYear) (version : ℕ) : Fallible SchoolDB := do
  ensure (year.version = version) staleResourceError
  let db ← save db year { year with deletedAt := some clk.now, updatedById := ctx.userId }
  db.audit env ctx
    { action := "ACADEMIC_YEAR_DELETED", entityType := "academic_year", entityId := some year.id,
      summary := some ("Academic year " ++ env.repr year.code ++ " deleted"),
      before := some (yearSnapshot year) }

def getOwned (yearId : Ulid) : Fallible AcademicYear := do
  let schoolId ← found ctx.schoolId yearNotFound
  found (getYear db schoolId yearId) yearNotFound

end AcademicYears

namespace AcademicTerms

/-- The unique constraint of `academic_terms`. -/
def SameCode (a b : AcademicTerm) : Prop :=
  a.schoolId = b.schoolId ∧ a.academicYearId = b.academicYearId ∧ a.code = b.code

instance : DecidableRel SameCode := fun a b =>
  inferInstanceAs (Decidable (a.schoolId = b.schoolId ∧ a.academicYearId = b.academicYearId ∧
    a.code = b.code))

/-- The insert, with its constraints. -/
def insertRow (term : AcademicTerm) : Fallible SchoolDB := do
  let terms ← found (db.academicTerms.insert term) internalError
  ensure ((∀ t ∈ db.academicTerms, ¬ SameCode t term) ∧ db.HasSchool term.schoolId ∧
    (db.academicYears.get term.academicYearId).isSome ∧ bindable term.code = true ∧
    bindable term.name = true) internalError
  return { db with academicTerms := terms }

/-- The flush of a changed row. -/
def save (old new : AcademicTerm) : Fallible SchoolDB :=
  if new = old then return db
  else do
    ensure ((∀ t ∈ db.academicTerms, t.id ≠ new.id → ¬ SameCode t new) ∧
      bindable new.name = true) internalError
    return { db with academicTerms := db.academicTerms.put new.touch }

def validateTermDates (termStart termEnd yearStart yearEnd : Date) : Fallible Unit := do
  ensure (¬ (termStart < yearStart ∨ yearEnd < termEnd))
    (invalidRequestError "Term dates must fall within the academic year date range.")
  ensure (¬ termEnd < termStart)
    (invalidRequestError "Term end date must be on or after the start date.")

/-- The row of a new term. -/
def created (schoolId organizationId : Ulid) (data : AcademicTermCreate) (id : Ulid) :
    AcademicTerm where
  id := id
  schoolId := schoolId
  organizationId := organizationId
  academicYearId := data.academicYearId
  code := data.code
  name := data.name
  startDate := data.startDate
  endDate := data.endDate
  status := data.status
  deletedAt := none
  createdById := ctx.userId
  updatedById := none
  version := 1

def create (data : AcademicTermCreate) (id : Ulid) : Fallible (AcademicTerm × SchoolDB) := do
  let schoolId ← found ctx.schoolId noSchool
  let year ← found (getYear db schoolId data.academicYearId) yearNotFound
  validateTermDates data.startDate data.endDate year.startDate year.endDate
  ensureAbsent (getTermByCode env db schoolId data.academicYearId data.code) fun _ =>
    conflictError ("A term with code " ++ env.repr data.code ++
      " already exists in this academic year.") "ACADEMIC_TERM_CODE_TAKEN"
      [("code", .text data.code)]
  let organizationId ← found ctx.organizationId internalError
  let term := created ctx schoolId organizationId data id
  let db ← insertRow db term
  let db ← db.audit env ctx
    { action := "ACADEMIC_TERM_CREATED", entityType := "academic_term", entityId := some term.id,
      summary := some ("Academic term " ++ env.repr term.code ++ " created"),
      after := some (termSnapshot term) }
  return (term, db)

/-- The row with the fields of the payload that are given. -/
def applied (term : AcademicTerm) (data : AcademicTermUpdate) : AcademicTerm :=
  { term with
    name := data.name.getD term.name
    startDate := data.startDate.getD term.startDate
    endDate := data.endDate.getD term.endDate
    status := data.status.getD term.status
    updatedById := ctx.userId }

/-- The dates are checked against the year, also when they do not change. -/
def update (term : AcademicTerm) (data : AcademicTermUpdate) :
    Fallible (AcademicTerm × SchoolDB) := do
  ensure (term.version = data.version) staleResourceError
  let new := applied ctx term data
  let schoolId ← found ctx.schoolId yearNotFound
  let year ← found (getYear db schoolId term.academicYearId) yearNotFound
  validateTermDates new.startDate new.endDate year.startDate year.endDate
  let db ← save db term new
  let db ← db.audit env ctx
    { action := "ACADEMIC_TERM_UPDATED", entityType := "academic_term", entityId := some term.id,
      summary := some ("Academic term " ++ env.repr new.code ++ " updated"),
      before := some (termSnapshot term), after := some (termSnapshot new) }
  return (flushed AcademicTerm.touch term new, db)

/-- Rows of terms are not removed. -/
def delete (term : AcademicTerm) (version : ℕ) : Fallible SchoolDB := do
  ensure (term.version = version) staleResourceError
  let db ← save db term { term with deletedAt := some clk.now, updatedById := ctx.userId }
  db.audit env ctx
    { action := "ACADEMIC_TERM_DELETED", entityType := "academic_term", entityId := some term.id,
      summary := some ("Academic term " ++ env.repr term.code ++ " deleted"),
      before := some (termSnapshot term) }

def getOwned (termId : Ulid) : Fallible AcademicTerm := do
  let schoolId ← found ctx.schoolId termNotFound
  found (getTerm db schoolId termId) termNotFound

end AcademicTerms

namespace AcademicClasses

/-- The insert, with its constraints. -/
def insertRow (c : AcademicClass) : Fallible SchoolDB := do
  let classes ← found (db.academicClasses.insert c) internalError
  ensure ((∀ c' ∈ db.academicClasses, ¬ (c'.schoolId = c.schoolId ∧ c'.code = c.code)) ∧
    db.HasSchool c.schoolId ∧ bindable c.code = true ∧ bindable c.name = true ∧
    varchar 500 c.description = true ∧ int4 c.sortOrder = true) internalError
  return { db with academicClasses := classes }

def create (data : AcademicClassCreate) (id : Ulid) : Fallible (AcademicClass × SchoolDB) := do
  let schoolId ← found ctx.schoolId noSchool
  ensureAbsent (getClassByCode env db schoolId data.code) fun _ =>
    codeTaken env "An academic class" "ACADEMIC_CLASS_CODE_TAKEN" data.code
  let organizationId ← found ctx.organizationId internalError
  let c : AcademicClass :=
    { id := id, schoolId := schoolId, organizationId := organizationId, code := data.code,
      name := data.name, description := data.description, sortOrder := data.sortOrder,
      status := data.status, deletedAt := none, createdById := ctx.userId, updatedById := none,
      version := 1 }
  let db ← insertRow db c
  let db ← db.audit env ctx
    { action := "ACADEMIC_CLASS_CREATED", entityType := "academic_class", entityId := some c.id,
      summary := some ("Academic class " ++ env.repr c.code ++ " created"),
      after := some (classSnapshot c) }
  return (c, db)

/-- The row with the fields of the payload that are given. -/
def applied (c : AcademicClass) (data : AcademicClassUpdate) : AcademicClass :=
  { c with
    name := data.name.getD c.name
    description := data.description.or c.description
    sortOrder := data.sortOrder.getD c.sortOrder
    status := data.status.getD c.status
    updatedById := ctx.userId }

/-- The flush of a changed row. -/
def save (old new : AcademicClass) : Fallible SchoolDB :=
  if new = old then return db
  else do
    ensure ((∀ c ∈ db.academicClasses, c.id ≠ new.id →
        ¬ (c.schoolId = new.schoolId ∧ c.code = new.code)) ∧ bindable new.name = true ∧
      varchar 500 new.description = true ∧ int4 new.sortOrder = true) internalError
    return { db with academicClasses := db.academicClasses.put new.touch }

def update (c : AcademicClass) (data : AcademicClassUpdate) :
    Fallible (AcademicClass × SchoolDB) := do
  ensure (c.version = data.version) staleResourceError
  let new := applied ctx c data
  let db ← save db c new
  let db ← db.audit env ctx
    { action := "ACADEMIC_CLASS_UPDATED", entityType := "academic_class", entityId := some c.id,
      summary := some ("Academic class " ++ env.repr new.code ++ " updated"),
      before := some (classSnapshot c), after := some (classSnapshot new) }
  return (flushed AcademicClass.touch c new, db)

/-- Rows of classes are not removed. -/
def delete (c : AcademicClass) (version : ℕ) : Fallible SchoolDB := do
  ensure (c.version = version) staleResourceError
  let db ← save db c { c with deletedAt := some clk.now, updatedById := ctx.userId }
  db.audit env ctx
    { action := "ACADEMIC_CLASS_DELETED", entityType := "academic_class", entityId := some c.id,
      summary := some ("Academic class " ++ env.repr c.code ++ " deleted"),
      before := some (classSnapshot c) }

def getOwned (classId : Ulid) : Fallible AcademicClass := do
  let schoolId ← found ctx.schoolId classNotFound
  found (getClass db schoolId classId) classNotFound

end AcademicClasses

namespace Subjects

/-- The insert, with its constraints. -/
def insertRow (s : Subject) : Fallible SchoolDB := do
  let subjects ← found (db.subjects.insert s) internalError
  ensure ((∀ s' ∈ db.subjects, ¬ (s'.schoolId = s.schoolId ∧ s'.code = s.code)) ∧
    db.HasSchool s.schoolId ∧ bindable s.code = true ∧ bindable s.name = true ∧
    varchar 500 s.description = true) internalError
  return { db with subjects := subjects }

def create (data : SubjectCreate) (id : Ulid) : Fallible (Subject × SchoolDB) := do
  let schoolId ← found ctx.schoolId noSchool
  ensureAbsent (getSubjectByCode env db schoolId data.code) fun _ =>
    codeTaken env "A subject" "SUBJECT_CODE_TAKEN" data.code
  let organizationId ← found ctx.organizationId internalError
  let subject : Subject :=
    { id := id, schoolId := schoolId, organizationId := organizationId, code := data.code,
      name := data.name, description := data.description, subjectType := data.subjectType,
      status := data.status, deletedAt := none, createdById := ctx.userId, updatedById := none,
      version := 1 }
  let db ← insertRow db subject
  let db ← db.audit env ctx
    { action := "SUBJECT_CREATED", entityType := "subject", entityId := some subject.id,
      summary := some ("Subject " ++ env.repr subject.code ++ " created"),
      after := some (subjectSnapshot subject) }
  return (subject, db)

/-- The row with the fields of the payload that are given. -/
def applied (s : Subject) (data : SubjectUpdate) : Subject :=
  { s with
    name := data.name.getD s.name
    description := data.description.or s.description
    subjectType := data.subjectType.getD s.subjectType
    status := data.status.getD s.status
    updatedById := ctx.userId }

/-- The flush of a changed row. -/
def save (old new : Subject) : Fallible SchoolDB :=
  if new = old then return db
  else do
    ensure ((∀ s ∈ db.subjects, s.id ≠ new.id →
        ¬ (s.schoolId = new.schoolId ∧ s.code = new.code)) ∧ bindable new.name = true ∧
      varchar 500 new.description = true) internalError
    return { db with subjects := db.subjects.put new.touch }

def update (s : Subject) (data : SubjectUpdate) : Fallible (Subject × SchoolDB) := do
  ensure (s.version = data.version) staleResourceError
  let new := applied ctx s data
  let db ← save db s new
  let db ← db.audit env ctx
    { action := "SUBJECT_UPDATED", entityType := "subject", entityId := some s.id,
      summary := some ("Subject " ++ env.repr new.code ++ " updated"),
      before := some (subjectSnapshot s), after := some (subjectSnapshot new) }
  return (flushed Subject.touch s new, db)

/-- Rows of subjects are not removed. -/
def delete (s : Subject) (version : ℕ) : Fallible SchoolDB := do
  ensure (s.version = version) staleResourceError
  let db ← save db s { s with deletedAt := some clk.now, updatedById := ctx.userId }
  db.audit env ctx
    { action := "SUBJECT_DELETED", entityType := "subject", entityId := some s.id,
      summary := some ("Subject " ++ env.repr s.code ++ " deleted"),
      before := some (subjectSnapshot s) }

def getOwned (subjectId : Ulid) : Fallible Subject := do
  let schoolId ← found ctx.schoolId subjectNotFound
  found (getSubject db schoolId subjectId) subjectNotFound

end Subjects

namespace ClassSubjects

/-- The insert, with its constraints. -/
def insertRow (cs : ClassSubject) : Fallible SchoolDB := do
  let classSubjects ← found (db.classSubjects.insert cs) internalError
  ensure ((∀ cs' ∈ db.classSubjects, ¬ (cs'.schoolId = cs.schoolId ∧
      cs'.academicClassId = cs.academicClassId ∧ cs'.subjectId = cs.subjectId)) ∧
    db.HasSchool cs.schoolId ∧ (db.academicClasses.get cs.academicClassId).isSome ∧
    (db.subjects.get cs.subjectId).isSome ∧ (db.academicYears.get cs.effectiveFromYearId).isSome ∧
    ∀ y ∈ cs.effectiveToYearId, (db.academicYears.get y).isSome) internalError
  return { db with classSubjects := classSubjects }

def create (data : ClassSubjectCreate) (id : Ulid) : Fallible (ClassSubject × SchoolDB) := do
  let schoolId ← found ctx.schoolId noSchool
  let _ ← found (getClass db schoolId data.academicClassId) classNotFound
  let _ ← found (getSubject db schoolId data.subjectId) subjectNotFound
  let _ ← found (getYear db schoolId data.effectiveFromYearId) yearNotFound
  ensureAbsent (getClassSubject db schoolId data.academicClassId data.subjectId) fun _ =>
    conflictError "This subject is already assigned to the academic class."
      "CLASS_SUBJECT_ALREADY_EXISTS" []
  let organizationId ← found ctx.organizationId internalError
  let cs : ClassSubject :=
    { id := id, schoolId := schoolId, organizationId := organizationId,
      academicClassId := data.academicClassId, subjectId := data.subjectId,
      effectiveFromYearId := data.effectiveFromYearId,
      effectiveToYearId := data.effectiveToYearId, createdById := ctx.userId }
  let db ← insertRow db cs
  let db ← db.audit env ctx
    { action := "CLASS_SUBJECT_CREATED", entityType := "class_subject", entityId := some cs.id,
      summary := some "Class subject link created", after := some (classSubjectSnapshot cs) }
  return (cs, db)

end ClassSubjects

namespace Cohorts

/-- The unique constraint of `cohorts`. -/
def SameCode (a b : Cohort) : Prop :=
  a.schoolId = b.schoolId ∧ a.academicYearId = b.academicYearId ∧
    a.academicClassId = b.academicClassId ∧ a.code = b.code

instance : DecidableRel SameCode := fun a b =>
  inferInstanceAs (Decidable (a.schoolId = b.schoolId ∧ a.academicYearId = b.academicYearId ∧
    a.academicClassId = b.academicClassId ∧ a.code = b.code))

/-- The insert, with its constraints. -/
def insertRow (c : Cohort) : Fallible SchoolDB := do
  let cohorts ← found (db.cohorts.insert c) internalError
  ensure ((∀ c' ∈ db.cohorts, ¬ SameCode c' c) ∧ db.HasSchool c.schoolId ∧
    (db.academicYears.get c.academicYearId).isSome ∧
    (db.academicClasses.get c.academicClassId).isSome ∧ bindable c.code = true ∧
    bindable c.name = true ∧ ∀ n ∈ c.capacity, int4 n = true) internalError
  return { db with cohorts := cohorts }

def create (data : CohortCreate) (id : Ulid) : Fallible (Cohort × SchoolDB) := do
  let schoolId ← found ctx.schoolId noSchool
  let _ ← found (getYear db schoolId data.academicYearId) yearNotFound
  let _ ← found (getClass db schoolId data.academicClassId) classNotFound
  ensureAbsent (getCohortByCode env db schoolId data.academicYearId data.academicClassId data.code)
    fun _ => conflictError ("A cohort with code " ++ env.repr data.code ++
      " already exists for this class and year.") "COHORT_CODE_TAKEN" [("code", .text data.code)]
  let organizationId ← found ctx.organizationId internalError
  let cohort : Cohort :=
    { id := id, schoolId := schoolId, organizationId := organizationId,
      academicYearId := data.academicYearId, academicClassId := data.academicClassId,
      code := data.code, name := data.name, capacity := data.capacity, status := data.status,
      deletedAt := none, createdById := ctx.userId, updatedById := none, version := 1 }
  let db ← insertRow db cohort
  let db ← db.audit env ctx
    { action := "COHORT_CREATED", entityType := "cohort", entityId := some cohort.id,
      summary := some ("Cohort " ++ env.repr cohort.code ++ " created"),
      after := some (cohortSnapshot cohort) }
  return (cohort, db)

def getOwned (cohortId : Ulid) : Fallible Cohort := do
  let schoolId ← found ctx.schoolId cohortNotFound
  found (getCohort db schoolId cohortId) cohortNotFound

/-- The row with the fields of the payload that are given. -/
def applied (cohort : Cohort) (data : CohortUpdate) : Cohort :=
  { cohort with
    name := data.name.getD cohort.name
    capacity := data.capacity.or cohort.capacity
    status := data.status.getD cohort.status
    updatedById := ctx.userId }

/-- The flush of a changed row. -/
def save (old new : Cohort) : Fallible SchoolDB := do
  ensure (bindable new.name = true ∧ ∀ n ∈ new.capacity, int4 n = true) internalError
  return { db with cohorts := db.cohorts.put (flushed Cohort.touch old new) }

def update (cohort : Cohort) (data : CohortUpdate) : Fallible (Cohort × SchoolDB) := do
  ensure (cohort.version = data.version) staleResourceError
  let new := applied ctx cohort data
  let db ← save db cohort new
  let db ← db.audit env ctx
    { action := "COHORT_UPDATED", entityType := "cohort", entityId := some cohort.id,
      summary := some ("Cohort " ++ env.repr new.code ++ " updated"),
      before := some (cohortSnapshot cohort), after := some (cohortSnapshot new) }
  return (flushed Cohort.touch cohort new, db)

/-- Rows of cohorts are not removed. -/
def delete (cohort : Cohort) (version : ℕ) : Fallible SchoolDB := do
  ensure (cohort.version = version) staleResourceError
  let db ← save db cohort { cohort with deletedAt := some clk.now, updatedById := ctx.userId }
  db.audit env ctx
    { action := "COHORT_DELETED", entityType := "cohort", entityId := some cohort.id,
      summary := some ("Cohort " ++ env.repr cohort.code ++ " deleted"),
      before := some (cohortSnapshot cohort) }

end Cohorts

end Service

end SchoolOs
