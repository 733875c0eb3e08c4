import SchoolOs.Academics
import SchoolOs.Runs

/-!
Enrollment business logic: enroll, change, transfer, delete; and the two partial unique indexes
that decide which enrollments may be ACTIVE together.
-/

namespace SchoolOs

/-! ### Payloads -/

structure EnrollmentCreate where
  studentId : Ulid
  academicYearId : Ulid
  academicClassId : Ulid
  cohortId : Ulid
  rollNumber : Option String
  startDate : Date
  enrollmentType : EnrollmentType
  rollNumber_length : ∀ r ∈ rollNumber, r.length ≤ 20

lemma no_rollNumber : ∀ r ∈ (none : Option String), r.length ≤ 20 := by simp

/-- Fields that are not given are not written; a given `None` is. -/
structure EnrollmentUpdate where
  rollNumber : Option (Option String)
  endDate : Option (Option Date)
  status : Option (Option EnrollmentStatus)
  version : ℕ
  rollNumber_length : ∀ o ∈ rollNumber, ∀ r ∈ o, r.length ≤ 20
  one_le_version : 1 ≤ version

lemma no_new_rollNumber : ∀ o ∈ (none : Option (Option String)), ∀ r ∈ o, r.length ≤ 20 := by simp

structure EnrollmentTransfer where
  newCohortId : Ulid
  newAcademicClassId : Ulid
  effectiveDate : Date

def enrollmentSnapshot (e : StudentEnrollment) : Snapshot :=
  [("student_id", .id e.studentId), ("academic_year_id", .id e.academicYearId),
    ("cohort_id", .id e.cohortId), ("roll_number", .opt .text e.rollNumber),
    ("status", .text e.status.value), ("enrollment_type", .text e.enrollmentType.value),
    ("start_date", dateText (some e.startDate)), ("end_date", dateText e.endDate)]

def StudentEnrollment.touch (e : StudentEnrollment) : StudentEnrollment :=
  { e with version := e.version + 1 }

/-! ### The partial unique indexes -/

/-- `uq_enrollment_student_year_active` and `uq_enrollment_cohort_roll`. -/
inductive EnrollmentIndex
  | studentYear | cohortRoll
  deriving DecidableEq

/-- The entries of a row in the indexes. -/
inductive EnrollmentKey
  | studentYear (studentId academicYearId : Ulid)
  | cohortRoll (cohortId : Ulid) (rollNumber : String)
  deriving DecidableEq

def EnrollmentKey.index : EnrollmentKey → EnrollmentIndex
  | .studentYear _ _ => .studentYear
  | .cohortRoll _ _ => .cohortRoll

/-- An ACTIVE row has an entry for its student and year, and one for its roll number if it has
one, in the order in which the indexes are checked. -/
def StudentEnrollment.keys (e : StudentEnrollment) : List EnrollmentKey :=
  if e.status = .active then
    .studentYear e.studentId e.academicYearId ::
      (e.rollNumber.map (EnrollmentKey.cohortRoll e.cohortId)).toList
  else []

/-- Another row has the entry. -/
def KeyTaken (db : SchoolDB) (row : StudentEnrollment) (k : EnrollmentKey) : Prop :=
  ∃ e ∈ db.enrollments, e.id ≠ row.id ∧ k ∈ e.keys

instance (db : SchoolDB) (row : StudentEnrollment) (k : EnrollmentKey) :
    Decidable (KeyTaken db row k) :=
  inferInstanceAs (Decidable (∃ e ∈ db.enrollments, e.id ≠ row.id ∧ k ∈ e.keys))

/-- The index that a row violates, the first one if both. -/
def violated (db : SchoolDB) (row : StudentEnrollment) : Option EnrollmentIndex :=
  (row.keys.find? fun k => KeyTaken db row k).map EnrollmentKey.index

/-! ### Data access -/

section Repository

variable (db : SchoolDB) (ctx : RequestContext)

def getStudent (schoolId studentId : Ulid) : Option Student :=
  (db.students.get studentId).filter fun s => s.schoolId = schoolId ∧ s.deletedAt = none

def getEnrollment (enrollmentId schoolId : Ulid) : Option StudentEnrollment :=
  (db.enrollments.get enrollmentId).filter (·.schoolId = schoolId)

def getActiveForStudentYear (studentId academicYearId : Ulid) : Option StudentEnrollment :=
  (shown StudentEnrollment.schoolId ctx db.enrollments.rows).find? fun e =>
    e.studentId = studentId ∧ e.academicYearId = academicYearId ∧ e.status = .active

def getActiveRollInCohort (cohortId : Ulid) (rollNumber : String) : Option StudentEnrollment :=
  (shown StudentEnrollment.schoolId ctx db.enrollments.rows).find? fun e =>
    e.cohortId = cohortId ∧ e.rollNumber = some rollNumber ∧ e.status = .active

end Repository

/-! ### Services -/

namespace Enrollments

section Service

variable (env : SchoolEnv) (ctx : RequestContext) (db : SchoolDB)

def notFound : ApiError := notFoundError "The enrollment was not found." "ENROLLMENT_NOT_FOUND"
def studentNotFound : ApiError :=
  notFoundError "The specified student does not exist in this school." "STUDENT_NOT_FOUND"
def cohortMissing : ApiError :=
  notFoundError "The specified cohort does not exist in this school." "COHORT_NOT_FOUND"
def yearMissing : ApiError :=
  notFoundError "The specified academic year does not exist in this school."
    "ACADEMIC_YEAR_NOT_FOUND"

def alreadyEnrolled (studentId academicYearId : Ulid) : ApiError :=
  conflictError "This student already has an active enrollment for the specified academic year."
    "ALREADY_ENROLLED" [("student_id", .id studentId), ("academic_year_id", .id academicYearId)]

def rollNumberTaken (cohortId : Ulid) (rollNumber : String) : ApiError :=
  conflictError ("Roll number " ++ env.repr rollNumber ++ " is already taken in this cohort.")
    "ROLL_NUMBER_TAKEN" [("roll_number", .text rollNumber), ("cohort_id", .id cohortId)]

def notActive (what : String) : ApiError :=
  conflictError ("Only ACTIVE enrollments can be " ++ what ++ ".") "ENROLLMENT_NOT_ACTIVE" []

/-- The foreign keys of a row. -/
def References (e : StudentEnrollment) : Prop :=
  db.HasSchool e.schoolId ∧ (db.students.get e.studentId).isSome ∧
    (db.academicYears.get e.academicYearId).isSome ∧
    (db.academicClasses.get e.academicClassId).isSome ∧ (db.cohorts.get e.cohortId).isSome

instance (e : StudentEnrollment) : Decidable (References db e) :=
  inferInstanceAs (Decidable (db.HasSchool e.schoolId ∧ _ ∧ _ ∧ _ ∧ _))

/-- The insert, with its constraints; what a violated index is answered with. -/
def insertRow (mapped : EnrollmentIndex → ApiError) (e : StudentEnrollment) :
    Fallible SchoolDB := do
  ensure (varchar 20 e.rollNumber = true) internalError
  let enrollments ← found (db.enrollments.insert e) internalError
  ensureAbsent (violated db e) mapped
  ensure (References db e) internalError
  return { db with enrollments := enrollments }

/-- The flush of a changed row. -/
def save (old new : StudentEnrollment) : Fallible SchoolDB :=
  if new = old then return db
  else do
    ensure (varchar 20 new.rollNumber = true) internalError
    ensureAbsent (violated db new) fun _ => internalError
    return { db with enrollments := db.enrollments.put new.touch }

/-- A roll number that is given is looked up; the empty one is not. -/
def checkRoll (data : EnrollmentCreate) : Fallible Unit :=
  match data.rollNumber with
  | none => return
  | some rollNumber =>
    if rollNumber = "" then return
    else ensureAbsent (getActiveRollInCohort db ctx data.cohortId rollNumber) fun _ =>
      rollNumberTaken env data.cohortId rollNumber

/-- The checks of a new enrollment, and its school. -/
def check (data : EnrollmentCreate) : Fallible Ulid := do
  let schoolId ← found ctx.schoolId noSchool
  let _ ← found (getStudent db schoolId data.studentId) studentNotFound
  let _ ← found (getCohort db schoolId data.cohortId) cohortMissing
  let _ ← found (getYear db schoolId data.academicYearId) yearMissing
  ensureAbsent (getActiveForStudentYear db ctx data.studentId data.academicYearId) fun _ =>
    alreadyEnrolled data.studentId data.academicYearId
  checkRoll env ctx db data
  return schoolId

/-- The row of a new enrollment. -/
def enrolled (schoolId organizationId : Ulid) (data : EnrollmentCreate) (id : Ulid) :
    StudentEnrollment where
  id := id
  schoolId := schoolId
  organizationId := organizationId
  studentId := data.studentId
  academicYearId := data.academicYearId
  academicClassId := data.academicClassId
  cohortId := data.cohortId
  rollNumber := data.rollNumber
  startDate := data.startDate
  endDate := none
  enrollmentType := data.enrollmentType
  status := .active
  createdById := ctx.userId
  updatedById := none
  version := 1

def createdEntry (e : StudentEnrollment) : AuditEntry :=
  { action := "ENROLLMENT_CREATED", entityType := "student_enrollment", entityId := some e.id,
    summary := some ("Enrollment created for student " ++ e.studentId.repr),
    after := some (enrollmentSnapshot e) }

/-- The entry of the enrollment that a transfer begins. -/
def transferredEntry (e : StudentEnrollment) : AuditEntry :=
  { createdEntry e with
    summary := some ("Enrollment created via transfer for student " ++ e.studentId.repr) }

def updatedEntry (old new : StudentEnrollment) : AuditEntry :=
  { action := "ENROLLMENT_UPDATED", entityType := "student_enrollment", entityId := some old.id,
    summary := some ("Enrollment " ++ old.id.repr ++ " updated"),
    before := some (enrollmentSnapshot old), after := some (enrollmentSnapshot new) }

/-- The entry of the enrollment that a transfer ends. -/
def endedEntry (old new : StudentEnrollment) : AuditEntry :=
  { updatedEntry old new with
    summary := some ("Enrollment " ++ old.id.repr ++ " ended by transfer") }

/-- Whichever index is violated, the answer is that the student is enrolled. -/
def create (data : EnrollmentCreate) (id : Ulid) : Fallible (StudentEnrollment × SchoolDB) := do
  let schoolId ← check env ctx db data
  let organizationId ← found ctx.organizationId internalError
  let e := enrolled ctx schoolId organizationId data id
  let db ← insertRow db (fun _ => alreadyEnrolled data.studentId data.academicYearId) e
  let db ← db.audit env ctx (createdEntry e)
  return (e, db)

def getOwned (enrollmentId : Ulid) : Fallible StudentEnrollment := do
  let schoolId ← found ctx.schoolId noSchool
  found (getEnrollment db enrollmentId schoolId) notFound

/-- The row with the fields of the payload that are given. -/
def applied (e : StudentEnrollment) (data : EnrollmentUpdate) : StudentEnrollment :=
  { e with
    rollNumber := data.rollNumber.getD e.rollNumber
    endDate := data.endDate.getD e.endDate
    status := (data.status.getD none).getD e.status
    updatedById := ctx.userId }

def update (enrollmentId : Ulid) (data : EnrollmentUpdate) :
    Fallible (StudentEnrollment × SchoolDB) := do
  let e ← getOwned ctx db enrollmentId
  ensure (e.version = data.version) staleResourceError
  -- A status that is given as `None` does not fit its column.
  ensure (data.status ≠ some none) internalError
  let new := applied ctx e data
  let db ← save db e new
  let db ← db.audit env ctx (updatedEntry e new)
  return (flushed StudentEnrollment.touch e new, db)

/-- The enrollment that a transfer ends. -/
def ended (e : StudentEnrollment) (data : EnrollmentTransfer) : StudentEnrollment :=
  { e with
    endDate := some data.effectiveDate
    status := .transferred
    updatedById := ctx.userId }

/-- The enrollment that a transfer begins. -/
def successor (schoolId organizationId : Ulid) (old : StudentEnrollment)
    (data : EnrollmentTransfer) (id : Ulid) : StudentEnrollment where
  id := id
  schoolId := schoolId
  organizationId := organizationId
  studentId := old.studentId
  academicYearId := old.academicYearId
  academicClassId := data.newAcademicClassId
  cohortId := data.newCohortId
  rollNumber := none
  startDate := data.effectiveDate
  endDate := none
  enrollmentType := .transferIn
  status := .active
  createdById := ctx.userId
  updatedById := none
  version := 1

/-- The checks of a transfer. -/
def transferable (enrollmentId : Ulid) (data : EnrollmentTransfer) :
    Fallible StudentEnrollment := do
  let old ← getOwned ctx db enrollmentId
  ensure (old.status = .active) (notActive "transferred")
  let _ ← found (getCohort db old.schoolId data.newCohortId) cohortMissing
  return old

def transfer (enrollmentId : Ulid) (data : EnrollmentTransfer) (id : Ulid) :
    Fallible (StudentEnrollment × SchoolDB) := do
  let old ← transferable ctx db enrollmentId data
  let db ← save db old (ended ctx old data)
  let db ← db.audit env ctx (endedEntry old (ended ctx old data))
  let organizationId ← found ctx.organizationId internalError
  let e := successor ctx old.schoolId organizationId old data id
  let db ← insertRow db (fun _ => internalError) e
  let db ← db.audit env ctx (transferredEntry e)
  return (e, db)

/-- Attendance records keep an enrollment from being deleted. -/
def delete (enrollmentId : Ulid) (version : ℕ) : Fallible SchoolDB := do
  let e ← getOwned ctx db enrollmentId
  ensure (e.version = version) staleResourceError
  ensure (e.status = .active) (notActive "deleted")
  ensure (∀ r ∈ db.attendanceRecords, r.enrollmentId ≠ e.id) internalError
  let db := { db with enrollments := db.enrollments.delete e.id }
  db.audit env ctx
    { action := "ENROLLMENT_DELETED", entityType := "student_enrollment", entityId := some e.id,
      summary := some ("Enrollment " ++ enrollmentId.repr ++ " deleted"),
      before := some (enrollmentSnapshot e) }

end Service

end Enrollments

/-! ### Requests -/

inductive EnrollmentOp
  | create (data : EnrollmentCreate) (id : Ulid)
  | update (enrollmentId : Ulid) (data : EnrollmentUpdate)
  | transfer (enrollmentId : Ulid) (data : EnrollmentTransfer) (id : Ulid)
  | delete (enrollmentId : Ulid) (version : ℕ)

def EnrollmentOp.Deletes : EnrollmentOp → Prop
  | .delete _ _ => True
  | _ => False

/-- A request on enrollments, with its context. -/
structure EnrollmentCall where
  ctx : RequestContext
  op : EnrollmentOp

def EnrollmentCall.handle (env : SchoolEnv) (db : SchoolDB) (c : EnrollmentCall) :
    Fallible SchoolDB :=
  match c.op with
  | .create data id => Prod.snd <$> Enrollments.create env c.ctx db data id
  | .update enrollmentId data => Prod.snd <$> Enrollments.update env c.ctx db enrollmentId data
  | .transfer enrollmentId data id =>
    Prod.snd <$> Enrollments.transfer env c.ctx db enrollmentId data id
  | .delete enrollmentId version => Enrollments.delete env c.ctx db enrollmentId version

/-- A failed request leaves no trace. -/
def EnrollmentCall.step (env : SchoolEnv) (db : SchoolDB) (c : EnrollmentCall) : SchoolDB :=
  match c.handle env db with
  | .ok db' => db'
  | .error _ => db

/-! ### What a request does -/

/-- The enrollments after a request that goes through. -/
inductive EnrollmentEffect (env : SchoolEnv) (ctx : RequestContext) (db : SchoolDB) :
    EnrollmentOp → Table StudentEnrollment.id → Prop
  | create {schoolId organizationId : Ulid} {data : EnrollmentCreate} {id : Ulid}
      {enrollments : Table StudentEnrollment.id}
      (check : Enrollments.check env ctx db data = .ok schoolId)
      (references : Enrollments.References db
        (Enrollments.enrolled ctx schoolId organizationId data id))
      (insert : db.enrollments.insert (Enrollments.enrolled ctx schoolId organizationId data id) =
        some enrollments) :
      EnrollmentEffect env ctx db (.create data id) enrollments
  | update {enrollmentId : Ulid} {data : EnrollmentUpdate} {e : StudentEnrollment}
      (owned : Enrollments.getOwned ctx db enrollmentId = .ok e)
      (version : e.version = data.version) (status : data.status ≠ some none) :
      EnrollmentEffect env ctx db (.update enrollmentId data) (db.enrollments.put
        (flushed StudentEnrollment.touch e (Enrollments.applied ctx e data)))
  | transfer {organizationId enrollmentId : Ulid} {data : EnrollmentTransfer} {id : Ulid}
      {old : StudentEnrollment} {enrollments : Table StudentEnrollment.id}
      (transferable : Enrollments.transferable ctx db enrollmentId data = .ok old)
      (references : Enrollments.References db
        (Enrollments.successor ctx old.schoolId organizationId old data id))
      (insert : (db.enrollments.put (Enrollments.ended ctx old data).touch).insert
        (Enrollments.successor ctx old.schoolId organizationId old data id) = some enrollments) :
      EnrollmentEffect env ctx db (.transfer enrollmentId data id) enrollments
  | delete {enrollmentId : Ulid} {version : ℕ} {e : StudentEnrollment}
      (owned : Enrollments.getOwned ctx db enrollmentId = .ok e) :
      EnrollmentEffect env ctx db (.delete enrollmentId version) (db.enrollments.delete e.id)

/-- The enrollments are all that an enrollment request changes, beside the audit log. -/
def EnrollmentFrame (db db' : SchoolDB) : Prop :=
  ∃ core, db' = { db with core := core, enrollments := db'.enrollments }

section Effects

variable {env : SchoolEnv} {ctx : RequestContext} {db db' : SchoolDB}

lemma enrollmentOwned_ok {enrollmentId : Ulid} {e : StudentEnrollment}
    (h : Enrollments.getOwned ctx db enrollmentId = .ok e) :
    ctx.schoolId = some e.schoolId ∧ e ∈ db.enrollments ∧ e.id = enrollmentId := by
  obtain ⟨schoolId, hctx, h⟩ := bind_ok.mp h
  obtain ⟨hget, hschool⟩ := Option.filter_eq_some_iff.mp (found_ok.mp h)
  obtain rfl : e.schoolId = schoolId := by simpa using hschool
  exact ⟨found_ok.mp hctx, Table.get_eq_some.mp hget⟩

lemma transferable_ok {enrollmentId : Ulid} {data : EnrollmentTransfer} {old : StudentEnrollment}
    (h : Enrollments.transferable ctx db enrollmentId data = .ok old) :
    Enrollments.getOwned ctx db enrollmentId = .ok old ∧ old.status = .active ∧
      ∃ cohort, getCohort db old.schoolId data.newCohortId = some cohort := by
  obtain ⟨old', howned, h⟩ := bind_ok.mp h
  obtain ⟨_, hactive, h⟩ := bind_ok.mp h
  obtain ⟨cohort, hcohort, h⟩ := bind_ok.mp h
  obtain rfl := pure_ok.mp h
  exact ⟨howned, ensure_ok.mp hactive, cohort, found_ok.mp hcohort⟩

lemma enrollmentCheck_ok {data : EnrollmentCreate} {schoolId : Ulid}
    (h : Enrollments.check env ctx db data = .ok schoolId) :
    ctx.schoolId = some schoolId ∧ (∃ s, getStudent db schoolId data.studentId = some s) ∧
      (∃ c, getCohort db schoolId data.cohortId = some c) ∧
      (∃ y, getYear db schoolId data.academicYearId = some y) ∧
      getActiveForStudentYear db ctx data.studentId data.academicYearId = none := by
  obtain ⟨schoolId', hctx, h⟩ := bind_ok.mp h
  obtain ⟨student, hstudent, h⟩ := bind_ok.mp h
  obtain ⟨cohort, hcohort, h⟩ := bind_ok.mp h
  obtain ⟨year, hyear, h⟩ := bind_ok.mp h
  obtain ⟨_, hactive, h⟩ := bind_ok.mp h
  obtain ⟨_, _, h⟩ := bind_ok.mp h
  obtain rfl := pure_ok.mp h
  exact ⟨found_ok.mp hctx, ⟨student, found_ok.mp hstudent⟩, ⟨cohort, found_ok.mp hcohort⟩,
    ⟨year, found_ok.mp hyear⟩, ensureAbsent_ok.mp hactive⟩

lemma enrollmentInsert_ok {mapped : EnrollmentIndex → ApiError} {e : StudentEnrollment}
    (h : Enrollments.insertRow db mapped e = .ok db') :
    ∃ enrollments, db.enrollments.insert e = some enrollments ∧ violated db e = none ∧
      Enrollments.References db e ∧ db' = { db with enrollments := enrollments } := by
  obtain ⟨_, _, h⟩ := bind_ok.mp h
  obtain ⟨enrollments, hinsert, h⟩ := bind_ok.mp h
  obtain ⟨_, hviolated, h⟩ := bind_ok.mp h
  obtain ⟨_, hreferences, h⟩ := bind_ok.mp h
  exact ⟨enrollments, found_ok.mp hinsert, ensureAbsent_ok.mp hviolated,
    ensure_ok.mp hreferences, (pure_ok.mp h).symm⟩

lemma enrollmentSave_ok {old new : StudentEnrollment} (hold : old ∈ db.enrollments)
    (h : Enrollments.save db old new = .ok db') :
    db' = { db with
      enrollments := db.enrollments.put (flushed StudentEnrollment.touch old new) } := by
  unfold Enrollments.save at h
  split at h
  · next hsame =>
    obtain rfl := pure_ok.mp h
    rw [flushed, if_pos hsame, Table.put_self hold]
  · next hne =>
    obtain ⟨_, _, h⟩ := bind_ok.mp h
    obtain ⟨_, _, h⟩ := bind_ok.mp h
    rw [flushed, if_neg hne]
    exact (pure_ok.mp h).symm

lemma enrollmentCreate_ok {data : EnrollmentCreate} {id : Ulid} {e : StudentEnrollment}
    (h : Enrollments.create env ctx db data id = .ok (e, db')) :
    EnrollmentEffect env ctx db (.create data id) db'.enrollments ∧ EnrollmentFrame db db' := by
  obtain ⟨schoolId, hcheck, h⟩ := bind_ok.mp h
  obtain ⟨organizationId, _, h⟩ := bind_ok.mp h
  obtain ⟨db1, hinsert, h⟩ := bind_ok.mp h
  obtain ⟨db2, haudit, h⟩ := bind_ok.mp h
  obtain ⟨_, rfl⟩ := Prod.mk.inj (pure_ok.mp h)
  obtain ⟨enrollments, hrow, _, hreferences, rfl⟩ := enrollmentInsert_ok hinsert
  obtain ⟨_, rfl⟩ := schoolAudit_ok.mp haudit
  exact ⟨.create hcheck hreferences hrow, _, rfl⟩

lemma enrollmentUpdate_ok {enrollmentId : Ulid} {data : EnrollmentUpdate} {e : StudentEnrollment}
    (h : Enrollments.update env ctx db enrollmentId data = .ok (e, db')) :
    EnrollmentEffect env ctx db (.update enrollmentId data) db'.enrollments ∧
      EnrollmentFrame db db' := by
  obtain ⟨old, howned, h⟩ := bind_ok.mp h
  obtain ⟨_, hversion, h⟩ := bind_ok.mp h
  obtain ⟨_, hstatus, h⟩ := bind_ok.mp h
  obtain ⟨db1, hsave, h⟩ := bind_ok.mp h
  obtain ⟨db2, haudit, h⟩ := bind_ok.mp h
  obtain ⟨_, rfl⟩ := Prod.mk.inj (pure_ok.mp h)
  obtain rfl := enrollmentSave_ok (enrollmentOwned_ok howned).2.1 hsave
  obtain ⟨_, rfl⟩ := schoolAudit_ok.mp haudit
  exact ⟨.update howned (ensure_ok.mp hversion) (ensure_ok.mp hstatus), _, rfl⟩

lemma enrollmentTransfer_ok {enrollmentId : Ulid} {data : EnrollmentTransfer} {id : Ulid}
    {e : StudentEnrollment}
    (h : Enrollments.transfer env ctx db enrollmentId data id = .ok (e, db')) :
    EnrollmentEffect env ctx db (.transfer enrollmentId data id) db'.enrollments ∧
      EnrollmentFrame db db' := by
  obtain ⟨old, htransferable, h⟩ := bind_ok.mp h
  obtain ⟨db1, hsave, h⟩ := bind_ok.mp h
  obtain ⟨db2, haudit, h⟩ := bind_ok.mp h
  obtain ⟨organizationId, _, h⟩ := bind_ok.mp h
  obtain ⟨db3, hinsert, h⟩ := bind_ok.mp h
  obtain ⟨db4, haudit', h⟩ := bind_ok.mp h
  obtain ⟨_, rfl⟩ := Prod.mk.inj (pure_ok.mp h)
  obtain ⟨howned, hactive, _⟩ := transferable_ok htransferable
  obtain rfl := enrollmentSave_ok (enrollmentOwned_ok howned).2.1 hsave
  obtain ⟨_, rfl⟩ := schoolAudit_ok.mp haudit
  obtain ⟨enrollments, hrow, _, hreferences, rfl⟩ := enrollmentInsert_ok hinsert
  obtain ⟨_, rfl⟩ := schoolAudit_ok.mp haudit'
  have hne : Enrollments.ended ctx old data ≠ old := by
    intro heq
    have hstatus : EnrollmentStatus.transferred = old.status :=
      congrArg StudentEnrollment.status heq
    rw [hactive] at hstatus
    cases hstatus
  simp only [flushed, if_neg hne, schoolLog_enrollments] at hrow
  exact ⟨.transfer htransferable hreferences hrow, _, rfl⟩

lemma enrollmentDelete_ok {enrollmentId : Ulid} {version : ℕ}
    (h : Enrollments.delete env ctx db enrollmentId version = .ok db') :
    EnrollmentEffect env ctx db (.delete enrollmentId version) db'.enrollments ∧
      EnrollmentFrame db db' := by
  obtain ⟨e, howned, h⟩ := bind_ok.mp h
  obtain ⟨_, _, h⟩ := bind_ok.mp h
  obtain ⟨_, _, h⟩ := bind_ok.mp h
  obtain ⟨_, _, h⟩ := bind_ok.mp h
  obtain ⟨_, rfl⟩ := schoolAudit_ok.mp h
  exact ⟨.delete howned, _, rfl⟩

/-- **What an enrollment request that goes through does**: one of the four effects. -/
theorem enrollmentHandle_ok {c : EnrollmentCall} (h : c.handle env db = .ok db') :
    EnrollmentEffect env c.ctx db c.op db'.enrollments ∧ EnrollmentFrame db db' := by
  obtain ⟨ctx, op⟩ := c
  cases op with
  | create data id =>
    obtain ⟨⟨e, _⟩, hcreate, rfl⟩ := map_ok.mp h
    exact enrollmentCreate_ok hcreate
  | update enrollmentId data =>
    obtain ⟨⟨e, _⟩, hupdate, rfl⟩ := map_ok.mp h
    exact enrollmentUpdate_ok hupdate
  | transfer enrollmentId data id =>
    obtain ⟨⟨e, _⟩, htransfer, rfl⟩ := map_ok.mp h
    exact enrollmentTransfer_ok htransfer
  | delete enrollmentId version => exact enrollmentDelete_ok h

end Effects

end SchoolOs
