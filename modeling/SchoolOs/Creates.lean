import SchoolOs.AssignmentStatements
import SchoolOs.AttendanceLifecycle
import SchoolOs.CreateScripts
import SchoolOs.ParentLinks
import SchoolOs.PrimaryGuardians

/-!
The creates that look for a row with their unique key before they insert one: students, guardians,
parent links, attendance sessions, enrollments and assignments.
-/

namespace SchoolOs

open ReadCommitted

/-- A payload, with the id that is drawn for the row. -/
structure Draft (C : Type) where
  data : C
  id : Ulid

section Queries

lemma ensureAbsent_map {α : Type} (x : Option α) (f : α → ApiError) :
    ensureAbsent (x.map f) id = ensureAbsent x f := by
  cases x <;> rfl

/-- What is found is not looked at. -/
def lookFor {σ α : Type} (f : σ → Option α) (e : ApiError) (c : σ) : Fallible Unit :=
  (fun _ => ()) <$> found (f c) e

lemma lookFor_bind {σ α β : Type} (f : σ → Option α) (e : ApiError) (c : σ)
    (k : Unit → Fallible β) : (lookFor f e c >>= k) = found (f c) e >>= fun _ => k () := by
  unfold lookFor
  cases f c <;> rfl

/-- The insert of an audit row, at the commit. -/
def auditing {κ : Type} (env : SchoolEnv) (ctx : RequestContext) (entry : AuditEntry) :
    Script ApiError SchoolDB κ Unit :=
  .exec (flushing [] fun db => db.audit env ctx entry)

lemma run_auditing {κ : Type} {env : SchoolEnv} {ctx : RequestContext} {entry : AuditEntry}
    {db db' : SchoolDB} (h : (auditing env ctx entry : Script ApiError SchoolDB κ Unit).run db =
      .ok ((), db')) : db' = db.log (auditRow ctx entry) := by
  rw [auditing, run_flushing] at h
  obtain ⟨_, haudit, heq⟩ := map_ok.mp h
  cases heq
  exact (schoolAudit_ok.mp haudit).2.symm

end Queries

/-! ### Students -/

/-- An entry of the unique constraints of `students`. -/
inductive StudentKey
  | admissionNumber (schoolId : Ulid) (admissionNumber : String)
  | person (schoolId personId : Ulid)
  deriving DecidableEq

namespace Students

def personMissing : ApiError :=
  notFoundError "The specified person does not exist in this organization." "PERSON_NOT_FOUND"

def admissionNumberTaken (env : SchoolEnv) (admissionNumber : String) : ApiError :=
  conflictError ("A student with admission number " ++ env.repr admissionNumber ++
    " already exists.") "ADMISSION_NUMBER_TAKEN" [("admission_number", .text admissionNumber)]

def personTaken (personId : Ulid) : ApiError :=
  conflictError "This person is already enrolled as a student at this school."
    "PERSON_ALREADY_ENROLLED" [("person_id", .id personId)]

/-- The row of a new student. -/
def created (ctx : RequestContext) (schoolId organizationId : Ulid) (d : Draft StudentCreate) :
    Student where
  id := d.id
  schoolId := schoolId
  organizationId := organizationId
  personId := d.data.personId
  admissionNumber := d.data.admissionNumber
  admissionDate := d.data.admissionDate
  status := d.data.status
  withdrawalDate := none
  withdrawalReason := none
  deletedAt := none
  createdById := ctx.userId
  updatedById := none
  version := 1

abbrev createService : CreateService where
  State := SchoolDB
  Key := StudentKey
  Data := Draft StudentCreate
  decEq := inferInstance
  noSchool := noSchool
  checks ctx _ d :=
    [lookFor (fun db => getPerson db ctx.organizationId d.data.personId) personMissing]
  prechecks env _ schoolId d :=
    [⟨some (.admissionNumber schoolId d.data.admissionNumber), fun db =>
        (getByAdmissionNumber db schoolId d.data.admissionNumber).map fun _ =>
          admissionNumberTaken env d.data.admissionNumber⟩,
      ⟨some (.person schoolId d.data.personId), fun db =>
        (getStudentByPersonId db schoolId d.data.personId).map fun _ =>
          personTaken d.data.personId⟩]
  id d := d.id
  keys schoolId d :=
    [.admissionNumber schoolId d.data.admissionNumber, .person schoolId d.data.personId]
  insert ctx schoolId organizationId d db := insertRow db (created ctx schoolId organizationId d)
  rest env ctx schoolId organizationId d := auditing env ctx
    { action := "STUDENT_CREATED", entityType := "student", entityId := some d.id,
      summary := some ("Student " ++ env.repr d.data.admissionNumber ++ " created"),
      after := some (studentSnapshot (created ctx schoolId organizationId d)) }
  mapped _ := false

variable {env : SchoolEnv} {ctx : RequestContext}

lemma run_create (d : Draft StudentCreate) (db : SchoolDB) :
    (createService.script env ctx d).run db =
      (fun r => ((), r.2)) <$> create env ctx db d.data d.id := by
  rw [CreateService.run_script, create]
  simp only [List.forM_cons, List.forM_nil, bind_assoc, pure_bind]
  simp only [lookFor_bind, Precheck.query, ensureAbsent_map, auditing, run_flushing, map_bind,
    bind_pure_comp, Functor.map_map, personMissing, admissionNumberTaken, personTaken, created]

lemma createService_lawful : createService.Lawful where
  keeps := by
    intro env ctx ctx' s s' o d d' db db₁ db₂ hinsert hrest
    obtain ⟨students, -, rfl⟩ := insertRow_ok hinsert
    rw [run_auditing hrest]
    simp only [List.forall_mem_singleton]
    rfl
  shows := by
    intro env ctx ctx' s o d d' db db₁ db₂ k hs hinsert hrest hk
    obtain ⟨students, hstudents, rfl⟩ := insertRow_ok hinsert
    rw [run_auditing hrest]
    have hmem : created ctx s o d ∈ students := (Table.mem_of_insert hstudents).mpr (.inr rfl)
    simp only [List.forall_mem_cons, Option.some.injEq, Option.isSome_map]
    refine ⟨?_, ?_, nofun⟩
    · rintro rfl
      have hsame : d'.data.admissionNumber = d.data.admissionNumber := by simpa using hk
      exact List.find?_isSome.mpr ⟨_, hmem, by simp [created, hsame]⟩
    · rintro rfl
      have hsame : d'.data.personId = d.data.personId := by simpa using hk
      exact List.find?_isSome.mpr ⟨_, hmem, by simp [created, hsame]⟩
  tells := nofun

end Students

/-! ### Guardians and parents -/

/-- An entry of a unique constraint of two columns: a student and a guardian or parent. -/
structure PairKey where
  studentId : Ulid
  relativeId : Ulid
  deriving DecidableEq

namespace Guardians

def studentMissing : ApiError :=
  notFoundError "The specified student was not found." "STUDENT_NOT_FOUND"

def alreadyLinked (studentId guardianPersonId : Ulid) : ApiError :=
  conflictError "This person is already linked as a guardian for this student."
    "GUARDIAN_ALREADY_LINKED" [("student_id", .id studentId),
      ("guardian_person_id", .id guardianPersonId)]

/-- The update of the other links of the student, which locks those that it finds. -/
def unsetting (studentId schoolId guardianId : Ulid) :
    Script ApiError FamilyDB (EntryLock PairKey) Unit :=
  .read fun db => .exec (flushing
    (db.guardians.rows.filterMap fun g =>
      if g.studentId = studentId ∧ g.schoolId = schoolId ∧ g.id ≠ guardianId then
        some (.row g.id)
      else none)
    fun db => return unsetOthers db studentId schoolId guardianId)

abbrev createService : CreateService where
  State := FamilyDB
  Key := PairKey
  Data := Draft GuardianCreate
  decEq := inferInstance
  noSchool := noSchool
  checks ctx schoolId d :=
    [lookFor (fun db => getStudent db.toSchoolDB schoolId d.data.studentId) studentMissing,
      lookFor (fun db => getPerson db.toSchoolDB ctx.organizationId d.data.guardianPersonId)
        Students.personMissing]
  prechecks _ _ schoolId d :=
    [⟨some ⟨d.data.studentId, d.data.guardianPersonId⟩, fun db =>
      (getByStudentAndPerson db d.data.studentId d.data.guardianPersonId schoolId).map fun _ =>
        alreadyLinked d.data.studentId d.data.guardianPersonId⟩]
  id d := d.id
  keys _ d := [⟨d.data.studentId, d.data.guardianPersonId⟩]
  insert ctx schoolId organizationId d db :=
    insertRow db (created ctx schoolId organizationId d.data d.id)
  rest env ctx schoolId organizationId d := do
    if d.data.isPrimary then unsetting d.data.studentId schoolId d.id
    .exec (flushing [] fun db => db.audit env ctx
      { action := "STUDENT_GUARDIAN_CREATED", entityType := "student_guardian",
        entityId := some d.id,
        summary := some ("Guardian linked to student " ++ d.data.studentId.repr),
        after := some (guardianSnapshot (created ctx schoolId organizationId d.data d.id)) })
  mapped _ := false

variable {env : SchoolEnv} {ctx : RequestContext}

lemma run_unsetting {studentId schoolId guardianId : Ulid} {db : FamilyDB} :
    (unsetting studentId schoolId guardianId).run db =
      .ok ((), unsetOthers db studentId schoolId guardianId) := by
  change (Script.exec (flushing _ _)).run db = _
  rw [run_flushing]
  rfl

lemma run_create (d : Draft GuardianCreate) (db : FamilyDB) :
    (createService.script env ctx d).run db =
      (fun r => ((), r.2)) <$> addGuardian env ctx db d.data d.id := by
  rw [CreateService.run_script, addGuardian]
  simp only [List.forM_cons, List.forM_nil, bind_assoc, pure_bind]
  simp only [lookFor_bind, Precheck.query, ensureAbsent_map, map_bind, studentMissing,
    Students.personMissing, alreadyLinked]
  cases d.data.isPrimary with
  | true =>
    simp only [if_true, Script.run_bind, run_unsetting, ok_bind, run_flushing]
    rfl
  | false =>
    simp only [Bool.false_eq_true, if_false, run_flushing]
    rfl

/-- What follows the insert leaves the new link, and what a guardian refers to. -/
lemma rest_ok {schoolId organizationId : Ulid} {d : Draft GuardianCreate} {db db' : FamilyDB}
    (h : (createService.rest env ctx schoolId organizationId d).run db = .ok ((), db')) :
    db'.students = db.students ∧ db'.persons = db.persons ∧
      ∀ g ∈ db.guardians, g.id = d.id → g ∈ db'.guardians := by
  have hlog : ∀ {db₁ : FamilyDB} {entry : AuditEntry},
      (Script.exec (flushing ([] : List (EntryLock PairKey)) fun db => db.audit env ctx entry)).run
        db₁ = .ok ((), db') → db'.students = db₁.students ∧ db'.persons = db₁.persons ∧
          db'.guardians = db₁.guardians := by
    intro db₁ entry h
    rw [run_flushing] at h
    obtain ⟨_, haudit, heq⟩ := map_ok.mp h
    cases heq
    obtain ⟨school, hschool, rfl⟩ := map_ok.mp haudit
    obtain ⟨-, rfl⟩ := schoolAudit_ok.mp hschool
    exact ⟨rfl, rfl, rfl⟩
  cases hprimary : d.data.isPrimary with
  | true =>
    simp only [createService, hprimary, if_true, Script.run_bind, run_unsetting, ok_bind] at h
    obtain ⟨hstudents, hpersons, hguardians⟩ := hlog h
    refine ⟨hstudents, hpersons, fun g hg hid => ?_⟩
    rw [hguardians]
    exact mem_unsetOthers_self hg hid
  | false =>
    simp only [createService, hprimary, Bool.false_eq_true, if_false] at h
    obtain ⟨hstudents, hpersons, hguardians⟩ := hlog h
    refine ⟨hstudents, hpersons, fun g hg _ => ?_⟩
    rw [hguardians]
    exact hg

lemma createService_lawful : createService.Lawful where
  keeps := by
    intro env ctx ctx' s s' o d d' db db₁ db₂ hinsert hrest
    obtain ⟨guardians, -, rfl⟩ := insertRow_ok hinsert
    obtain ⟨hstudents, hpersons, -⟩ := rest_ok hrest
    simp only [List.forall_mem_cons, lookFor, getStudent, getPerson, hstudents, hpersons]
    exact ⟨trivial, trivial, fun _ h => absurd h List.not_mem_nil⟩
  shows := by
    intro env ctx ctx' s o d d' db db₁ db₂ k hs hinsert hrest hk
    obtain ⟨guardians, hguardians, rfl⟩ := insertRow_ok hinsert
    have hmem := (rest_ok hrest).2.2 (created ctx s o d.data d.id)
      ((Table.mem_of_insert hguardians).mpr (.inr rfl)) rfl
    simp only [List.forall_mem_singleton, Option.some.injEq, Option.isSome_map]
    rintro rfl
    obtain ⟨hstudent, hperson⟩ : d'.data.studentId = d.data.studentId ∧
        d'.data.guardianPersonId = d.data.guardianPersonId := by simpa using hk
    exact List.find?_isSome.mpr ⟨_, hmem, by simp [created, hstudent, hperson]⟩
  tells := by simp

end Guardians

namespace ParentLinks

/-- A payload for a student, with the id that is drawn for the row. -/
structure LinkDraft extends Draft StudentParentCreate where
  studentId : Ulid

abbrev createService : CreateService where
  State := ParentsDB
  Key := PairKey
  Data := LinkDraft
  decEq := inferInstance
  noSchool := noSchool
  checks _ schoolId d :=
    [lookFor (fun db => getParent db.toSchoolDB schoolId d.data.parentId) Parents.notFound,
      lookFor (fun db => getStudent db.toSchoolDB schoolId d.studentId) studentMissing]
  prechecks _ _ _ d :=
    [⟨some ⟨d.studentId, d.data.parentId⟩, fun db =>
      (getStudentParentByPair db d.studentId d.data.parentId).map fun _ =>
        alreadyLinked d.studentId d.data.parentId⟩]
  id d := d.id
  keys _ d := [⟨d.studentId, d.data.parentId⟩]
  insert ctx schoolId organizationId d db :=
    insertRow db (linked ctx schoolId organizationId d.studentId d.data d.id)
  rest env ctx schoolId organizationId d := .exec (flushing [] fun db => db.audit env ctx
    (linkedEntry (linked ctx schoolId organizationId d.studentId d.data d.id)))
  mapped _ := false

variable {env : SchoolEnv} {ctx : RequestContext}

lemma run_create (d : LinkDraft) (db : ParentsDB) :
    (createService.script env ctx d).run db =
      (fun r => ((), r.2)) <$> linkToStudent env ctx db d.studentId d.data d.id := by
  rw [CreateService.run_script, linkToStudent]
  simp only [List.forM_cons, List.forM_nil, bind_assoc, pure_bind]
  simp only [lookFor_bind, Precheck.query, ensureAbsent_map, run_flushing, map_bind,
    bind_pure_comp, Functor.map_map]

lemma insertRow_ok {db db' : ParentsDB} {link : ParentLink} (h : insertRow db link = .ok db') :
    ∃ links, db.studentParents.insert link = some links ∧
      db' = { db with studentParents := links } := by
  simp only [insertRow, bind_ok, found_ok, ensure_ok, pure_ok] at h
  obtain ⟨links, hinsert, -, -, rfl⟩ := h
  exact ⟨links, hinsert, rfl⟩

lemma rest_ok {schoolId organizationId : Ulid} {d : LinkDraft} {db db' : ParentsDB}
    (h : (createService.rest env ctx schoolId organizationId d).run db = .ok ((), db')) :
    ∃ row, db' = { db with toSchoolDB := db.toSchoolDB.log row } := by
  rw [run_flushing] at h
  obtain ⟨_, haudit, heq⟩ := map_ok.mp h
  cases heq
  exact ⟨_, (parentsAudit_ok.mp haudit).2.symm⟩

lemma createService_lawful : createService.Lawful where
  keeps := by
    intro env ctx ctx' s s' o d d' db db₁ db₂ hinsert hrest
    obtain ⟨links, -, rfl⟩ := insertRow_ok hinsert
    obtain ⟨row, rfl⟩ := rest_ok hrest
    simp only [List.forall_mem_cons]
    exact ⟨rfl, rfl, nofun⟩
  shows := by
    intro env ctx ctx' s o d d' db db₁ db₂ k hs hinsert hrest hk
    obtain ⟨links, hlinks, rfl⟩ := insertRow_ok hinsert
    obtain ⟨row, rfl⟩ := rest_ok hrest
    have hmem : linked ctx s o d.studentId d.data d.id ∈ links :=
      (Table.mem_of_insert hlinks).mpr (.inr rfl)
    simp only [List.forall_mem_singleton, Option.some.injEq, Option.isSome_map]
    rintro rfl
    obtain ⟨hstudent, hparent⟩ : d'.studentId = d.studentId ∧
        d'.data.parentId = d.data.parentId := by simpa using hk
    exact List.find?_isSome.mpr ⟨_, hmem, by simp [linked, hstudent, hparent]⟩
  tells := nofun

end ParentLinks

/-! ### Attendance sessions -/

/-- An entry of a unique constraint of the attendance tables. -/
inductive AttendanceKey
  | cohortDate (cohortId : Ulid) (sessionDate : Date)
  | sessionEnrollment (sessionId enrollmentId : Ulid)
  deriving DecidableEq

namespace Attendance

/-- A payload, with the ids that are drawn for the session and its records. -/
structure SessionDraft extends Draft AttendanceSessionCreate where
  recordIds : ℕ → Ulid

def sessionExists (cohortId : Ulid) (sessionDate : Date) : ApiError :=
  conflictError "An attendance session already exists for this cohort on this date."
    "SESSION_ALREADY_EXISTS" [("cohort_id", .id cohortId), ("session_date", .text sessionDate.iso)]

/-- The insert of the records, one statement for all of them; without any there is none. -/
def inserting (records : List AttendanceMark) :
    Script ApiError SchoolDB (EntryLock AttendanceKey) Unit :=
  if records = [] then pure ()
  else .exec (flushing
    (records.flatMap fun r => [.row r.id, .key (.sessionEnrollment r.sessionId r.enrollmentId)])
    fun db => eachRecord insertRecord db records)

/-- The records of the enrollments that the session lists. -/
def listing (session : AttendanceSession) (recordIds : ℕ → Ulid) (ctx : RequestContext)
    (db : SchoolDB) : List AttendanceMark :=
  (getActiveEnrollmentsForCohort db session.schoolId session.cohortId
    session.sessionDate).zipIdx.map fun p => listed ctx session (recordIds p.2) p.1

abbrev createService : CreateService where
  State := SchoolDB
  Key := AttendanceKey
  Data := SessionDraft
  decEq := inferInstance
  noSchool := noSchoolSet
  checks _ _ _ := []
  prechecks _ _ schoolId d :=
    [⟨some (.cohortDate d.data.cohortId d.data.sessionDate), fun db =>
      (getSessionForCohortDate db schoolId d.data.cohortId d.data.sessionDate).map fun _ =>
        sessionExists d.data.cohortId d.data.sessionDate⟩]
  id d := d.id
  keys _ d := [.cohortDate d.data.cohortId d.data.sessionDate]
  insert ctx schoolId organizationId d db :=
    insertSession db (opened ctx schoolId organizationId d.data d.id)
  rest env ctx schoolId organizationId d := do
    let session := opened ctx schoolId organizationId d.data d.id
    .read fun db => inserting (listing session d.recordIds ctx db)
    auditing env ctx
      { action := "ATTENDANCE_SESSION_CREATED", entityType := "attendance_session",
        entityId := some d.id,
        summary := some ("Attendance session created for cohort " ++ d.data.cohortId.text ++
          " on " ++ d.data.sessionDate.iso),
        after := some (sessionSnapshot session) }
  mapped _ := false

variable {env : SchoolEnv} {ctx : RequestContext}

lemma run_inserting {records : List AttendanceMark} {db : SchoolDB} :
    (inserting records).run db = (fun db' => ((), db')) <$> eachRecord insertRecord db records := by
  unfold inserting
  split
  · next h =>
    rw [h]
    rfl
  · exact run_flushing

lemma run_create (d : SessionDraft) (db : SchoolDB) :
    (createService.script env ctx d).run db =
      (fun r => ((), r.2)) <$> createSession env ctx db d.data d.id d.recordIds := by
  rw [CreateService.run_script, createSession]
  simp only [List.forM_cons, List.forM_nil, bind_assoc, pure_bind]
  simp only [Precheck.query, ensureAbsent_map, Script.run_bind, Script.run, run_inserting,
    auditing, run_flushing, map_bind, bind_map_left, bind_pure_comp, Functor.map_map]
  rfl

lemma createService_lawful : createService.Lawful where
  keeps _ _ := nofun
  shows := by
    intro env ctx ctx' s o d d' db db₁ db₂ k hs hinsert hrest hk
    obtain ⟨sessions, hsessions, rfl⟩ := insertSession_ok hinsert
    rw [Script.run_bind] at hrest
    obtain ⟨⟨⟨⟩, db₃⟩, hrecords, haudit⟩ := bind_ok.mp hrest
    obtain ⟨_, hrecords, heq⟩ := map_ok.mp (run_inserting.symm.trans hrecords)
    cases heq
    rw [run_auditing haudit, eachRecord_frame (fun _ _ _ => insertRecord_frame) hrecords]
    have hmem : opened ctx s o d.data d.id ∈ sessions :=
      (Table.mem_of_insert hsessions).mpr (.inr rfl)
    simp only [List.forall_mem_singleton, Option.some.injEq, Option.isSome_map]
    rintro rfl
    obtain ⟨hcohort, hdate⟩ : d'.data.cohortId = d.data.cohortId ∧
        d'.data.sessionDate = d.data.sessionDate := by simpa using hk
    exact List.find?_isSome.mpr ⟨_, hmem, by simp [opened, hcohort, hdate]⟩
  tells := nofun

end Attendance

/-! ### Enrollments -/

namespace Enrollments

/-- The search for a roll number that is given; the empty one is not looked for. -/
def rollPrechecks (env : SchoolEnv) (ctx : RequestContext) (data : EnrollmentCreate) :
    List (Precheck SchoolDB EnrollmentKey) :=
  match data.rollNumber with
  | none => []
  | some rollNumber =>
    if rollNumber = "" then []
    else [⟨some (.cohortRoll data.cohortId rollNumber), fun db =>
      (getActiveRollInCohort db ctx data.cohortId rollNumber).map fun _ =>
        rollNumberTaken env data.cohortId rollNumber⟩]

abbrev createService : CreateService where
  State := SchoolDB
  Key := EnrollmentKey
  Data := Draft EnrollmentCreate
  decEq := inferInstance
  noSchool := noSchool
  checks _ schoolId d :=
    [lookFor (fun db => getStudent db schoolId d.data.studentId) studentNotFound,
      lookFor (fun db => getCohort db schoolId d.data.cohortId) cohortMissing,
      lookFor (fun db => getYear db schoolId d.data.academicYearId) yearMissing]
  prechecks env ctx _ d :=
    ⟨some (.studentYear d.data.studentId d.data.academicYearId), fun db =>
      (getActiveForStudentYear db ctx d.data.studentId d.data.academicYearId).map fun _ =>
        alreadyEnrolled d.data.studentId d.data.academicYearId⟩ ::
      rollPrechecks env ctx d.data
  id d := d.id
  keys _ d := .studentYear d.data.studentId d.data.academicYearId ::
    (d.data.rollNumber.map (EnrollmentKey.cohortRoll d.data.cohortId)).toList
  insert ctx schoolId organizationId d db :=
    insertRow db (fun _ => alreadyEnrolled d.data.studentId d.data.academicYearId)
      (enrolled ctx schoolId organizationId d.data d.id)
  rest env ctx schoolId organizationId d :=
    auditing env ctx (createdEntry (enrolled ctx schoolId organizationId d.data d.id))
  mapped k := k.index = .studentYear

variable {env : SchoolEnv} {ctx : RequestContext}

lemma forM_rollPrechecks (data : EnrollmentCreate) (db : SchoolDB) :
    (forM (rollPrechecks env ctx data) fun p => p.query db) = checkRoll env ctx db data := by
  unfold rollPrechecks checkRoll
  cases data.rollNumber with
  | none => rfl
  | some rollNumber =>
    by_cases hempty : rollNumber = ""
    · simp only [if_pos hempty, List.forM_nil]
    · simp only [if_neg hempty, List.forM_cons, List.forM_nil, Precheck.query, ensureAbsent_map]
      exact bind_pure _

lemma run_create (d : Draft EnrollmentCreate) (db : SchoolDB) :
    (createService.script env ctx d).run db =
      (fun r => ((), r.2)) <$> create env ctx db d.data d.id := by
  rw [CreateService.run_script, create, check]
  simp only [List.forM_cons, List.forM_nil, forM_rollPrechecks, bind_assoc, pure_bind]
  simp only [lookFor_bind, Precheck.query, ensureAbsent_map, auditing, run_flushing, map_bind,
    bind_pure_comp, Functor.map_map]

lemma insertRow_ok {mapped : EnrollmentIndex → ApiError} {db db' : SchoolDB}
    {e : StudentEnrollment} (h : insertRow db mapped e = .ok db') :
    varchar 20 e.rollNumber = true ∧ ∃ enrollments, db.enrollments.insert e = some enrollments ∧
      db' = { db with enrollments := enrollments } := by
  simp only [insertRow, bind_ok, found_ok, ensure_ok, pure_ok] at h
  obtain ⟨-, hroll, enrollments, hinsert, -, -, -, -, rfl⟩ := h
  exact ⟨hroll, enrollments, hinsert, rfl⟩

/-- A row with an entry that another row has is refused as an index says. -/
lemma insertRow_taken (mapped : EnrollmentIndex → ApiError) {db : SchoolDB}
    {e row : StudentEnrollment} {k : EnrollmentKey} (hroll : varchar 20 e.rollNumber = true)
    (hfresh : ∀ r ∈ db.enrollments, r.id ≠ e.id) (hrow : row ∈ db.enrollments)
    (hk : k ∈ row.keys) (hk' : k ∈ e.keys) :
    ∃ index, insertRow db mapped e = .error (mapped index) := by
  obtain ⟨enrollments, hinsert⟩ := Table.insert_of_fresh hfresh
  have hsome : (e.keys.find? fun k => KeyTaken db e k).isSome :=
    List.find?_isSome.mpr ⟨k, hk', decide_eq_true ⟨row, hrow, hfresh row hrow, hk⟩⟩
  obtain ⟨taken, htaken⟩ := Option.isSome_iff_exists.mp hsome
  refine ⟨taken.index, ?_⟩
  simp only [insertRow, ensure, hroll, if_true, hinsert, found, violated, htaken, Option.map_some,
    ensureAbsent, ok_bind, error_bind]

lemma mem_keys_enrolled {s o : Ulid} {d : Draft EnrollmentCreate} {k : EnrollmentKey} :
    k ∈ (enrolled ctx s o d.data d.id).keys ↔ k ∈ createService.keys s d := by
  simp [StudentEnrollment.keys, enrolled]

/-- The search for an ACTIVE enrollment of the student in the year finds the new row. -/
lemma getActiveForStudentYear_enrolled {ctx' : RequestContext} {s o : Ulid}
    {d d' : Draft EnrollmentCreate} {db : SchoolDB} (hs : ctx'.schoolId = some s)
    (hmem : enrolled ctx s o d.data d.id ∈ db.enrollments)
    (hstudent : d'.data.studentId = d.data.studentId)
    (hyear : d'.data.academicYearId = d.data.academicYearId) :
    (getActiveForStudentYear db ctx' d'.data.studentId d'.data.academicYearId).isSome :=
  List.find?_isSome.mpr ⟨_, (mem_shown hs).mpr ⟨hmem, rfl⟩, by simp [enrolled, hstudent, hyear]⟩

lemma createService_lawful : createService.Lawful where
  keeps := by
    intro env ctx ctx' s s' o d d' db db₁ db₂ hinsert hrest
    obtain ⟨-, enrollments, -, rfl⟩ := insertRow_ok hinsert
    rw [run_auditing hrest]
    simp only [List.forall_mem_cons]
    exact ⟨rfl, rfl, rfl, nofun⟩
  shows := by
    intro env ctx ctx' s o d d' db db₁ db₂ k hs hinsert hrest hk
    obtain ⟨-, enrollments, henrollments, rfl⟩ := insertRow_ok hinsert
    rw [run_auditing hrest]
    have hmem : enrolled ctx s o d.data d.id ∈ enrollments :=
      (Table.mem_of_insert henrollments).mpr (.inr rfl)
    rw [List.forall_mem_cons]
    refine ⟨?_, fun p hp => ?_⟩
    · -- The search for an ACTIVE enrollment of the year.
      simp only [Option.some.injEq, Option.isSome_map]
      rintro rfl
      obtain ⟨hstudent, hyear⟩ : d'.data.studentId = d.data.studentId ∧
          d'.data.academicYearId = d.data.academicYearId := by simpa using hk
      exact getActiveForStudentYear_enrolled hs hmem hstudent hyear
    · -- The search for the roll number.
      unfold rollPrechecks at hp
      split at hp
      · exact absurd hp List.not_mem_nil
      split at hp
      · exact absurd hp List.not_mem_nil
      · next rollNumber _ _ =>
        obtain rfl := List.mem_singleton.mp hp
        simp only [Option.some.injEq, Option.isSome_map]
        rintro rfl
        obtain ⟨hroll, hcohort⟩ : d.data.rollNumber = some rollNumber ∧
            d.data.cohortId = d'.data.cohortId := by simpa using hk
        exact List.find?_isSome.mpr ⟨_, (mem_shown hs).mpr ⟨hmem, rfl⟩, by
          simp [enrolled, hroll, hcohort]⟩
  tells := by
    intro env ctx ctx' s o o' d d' db db₁ db₂ db' k hs hinsert hrest hk hk' hmapped hid hinsert'
    obtain ⟨-, enrollments, henrollments, rfl⟩ := insertRow_ok hinsert
    obtain ⟨hroll, _, henrollments', -⟩ := insertRow_ok hinsert'
    have hdb := run_auditing hrest
    have hmem : enrolled ctx s o d.data d.id ∈ db₂.enrollments := by
      rw [hdb]
      exact (Table.mem_of_insert henrollments).mpr (.inr rfl)
    have hfresh : ∀ r ∈ db₂.enrollments, r.id ≠ (enrolled ctx' s o' d'.data d'.id).id := by
      intro r hr
      rw [hdb] at hr
      rcases (Table.mem_of_insert henrollments).mp hr with hr | rfl
      · exact (Table.insert_eq_some.mp henrollments').1 r hr
      · exact hid
    refine ⟨alreadyEnrolled d'.data.studentId d'.data.academicYearId, ?_, ?_⟩
    · -- Only the index of the year is mapped.
      cases k with
      | cohortRoll cohortId rollNumber => cases hmapped
      | studentYear studentId academicYearId =>
        obtain ⟨rfl, rfl⟩ : studentId = d.data.studentId ∧ academicYearId = d.data.academicYearId :=
          by simpa using hk
        obtain ⟨hstudent, hyear⟩ : d.data.studentId = d'.data.studentId ∧
            d.data.academicYearId = d'.data.academicYearId := by simpa using hk'
        obtain ⟨e, he⟩ := Option.isSome_iff_exists.mp
          (getActiveForStudentYear_enrolled hs hmem hstudent.symm hyear.symm)
        refine List.mem_filterMap.mpr ⟨_, List.mem_cons_self, ?_⟩
        simp only [he, Option.map_some]
    · -- The insert runs into the index.
      obtain ⟨_, htaken⟩ := insertRow_taken
        (fun _ => alreadyEnrolled d'.data.studentId d'.data.academicYearId) hroll hfresh
        hmem (mem_keys_enrolled.mpr hk) (mem_keys_enrolled.mpr hk')
      exact htaken

end Enrollments

/-! ### Assignments -/

namespace Assignments

/-- The entry of a new row in the indexes; a subject teacher without a subject has none. -/
def entryOf (schoolId : Ulid) (data : AssignmentCreate) : Option AssignmentKey :=
  match data.role with
  | .classTeacher => some (.classTeacher schoolId data.cohortId data.academicYearId)
  | .subjectTeacher => data.subjectId.map fun subjectId =>
      .subjectTeacher schoolId data.cohortId subjectId data.academicYearId
  | _ => none

/-- There is a search for class teachers and for subject teachers. -/
def conflictPrechecks (schoolId : Ulid) (data : AssignmentCreate) :
    List (Precheck SchoolDB AssignmentKey) :=
  if data.role = .classTeacher ∨ data.role = .subjectTeacher then
    [⟨entryOf schoolId data, fun db =>
      if checkAssignmentConflict db schoolId data.cohortId data.subjectId data.academicYearId
        data.role then some conflict else none⟩]
  else []

/-- The audit row of an assignment. It names the cohort that was looked up, which no create
writes. -/
def assigned (env : SchoolEnv) (ctx : RequestContext) (cohortId : Ulid) (a : TeacherAssignment)
    (db : SchoolDB) : Fallible SchoolDB := do
  let cohort ← found (getCohort db a.schoolId cohortId) cohortNotFound
  db.audit env ctx (createdEntry cohort a)

abbrev createService : CreateService where
  State := SchoolDB
  Key := AssignmentKey
  Data := Draft AssignmentCreate
  decEq := inferInstance
  noSchool := noSchool
  checks _ schoolId d :=
    [lookFor (fun db => getTeacher db schoolId d.data.teacherId) teacherNotFound,
      lookFor (fun db => getCohort db schoolId d.data.cohortId) cohortNotFound,
      lookFor (fun db => getYear db schoolId d.data.academicYearId) yearNotFound]
  prechecks _ _ schoolId d := conflictPrechecks schoolId d.data
  id d := d.id
  keys schoolId d := (entryOf schoolId d.data).toList
  insert ctx schoolId organizationId d db :=
    insertRow db (created ctx schoolId organizationId d.data d.id)
  rest env ctx schoolId organizationId d :=
    .exec (flushing [] (assigned env ctx d.data.cohortId
      (created ctx schoolId organizationId d.data d.id)))
  mapped _ := true

variable {env : SchoolEnv} {ctx : RequestContext}

lemma forM_conflictPrechecks (schoolId : Ulid) (data : AssignmentCreate) (db : SchoolDB) :
    (forM (conflictPrechecks schoolId data) fun p => p.query db) =
      ensure (checkAssignmentConflict db schoolId data.cohortId data.subjectId data.academicYearId
        data.role = false) conflict := by
  unfold conflictPrechecks
  by_cases hrole : data.role = .classTeacher ∨ data.role = .subjectTeacher
  · simp only [if_pos hrole, List.forM_cons, List.forM_nil, Precheck.query]
    cases checkAssignmentConflict db schoolId data.cohortId data.subjectId data.academicYearId
      data.role <;> rfl
  · have hnone : checkAssignmentConflict db schoolId data.cohortId data.subjectId
        data.academicYearId data.role = false := by
      unfold checkAssignmentConflict
      split
      · next h => exact absurd (.inr h) hrole
      · next h => exact absurd (.inl h) hrole
      · rfl
    simp only [if_neg hrole, List.forM_nil, hnone, ensure, if_true]
    rfl

lemma insertRow_ok {db db' : SchoolDB} {a : TeacherAssignment} (h : insertRow db a = .ok db') :
    ∃ assignments, db.teacherAssignments.insert a = some assignments ∧
      db' = { db with teacherAssignments := assignments } := by
  simp only [insertRow, bind_ok, found_ok, ensure_ok, pure_ok] at h
  obtain ⟨assignments, hinsert, -, -, -, -, rfl⟩ := h
  exact ⟨assignments, hinsert, rfl⟩

lemma run_assigned {κ : Type} {cohortId : Ulid} {a : TeacherAssignment} {db db' : SchoolDB}
    (h : (Script.exec (flushing [] (assigned env ctx cohortId a)) :
      Script ApiError SchoolDB κ Unit).run db = .ok ((), db')) :
    ∃ row, db' = db.log row := by
  rw [run_flushing] at h
  obtain ⟨_, hassigned, heq⟩ := map_ok.mp h
  cases heq
  obtain ⟨_, _, haudit⟩ := bind_ok.mp hassigned
  exact ⟨_, (schoolAudit_ok.mp haudit).2.symm⟩

lemma run_create (d : Draft AssignmentCreate) (db : SchoolDB) :
    (createService.script env ctx d).run db =
      (fun r => ((), r.2)) <$> create env ctx db d.data d.id := by
  rw [CreateService.run_script, create]
  simp only [List.forM_cons, List.forM_nil, forM_conflictPrechecks, bind_assoc, pure_bind]
  simp only [lookFor_bind, run_flushing, map_bind, bind_pure_comp, Functor.map_map]
  refine bind_congr fun schoolId => bind_congr fun _ => ?_
  cases hcohort : getCohort db schoolId d.data.cohortId with
  | none => rfl
  | some cohort =>
    simp only [found, ok_bind]
    refine bind_congr fun _ => bind_congr fun _ => bind_congr fun organizationId => ?_
    change insertRow db (created ctx schoolId organizationId d.data d.id) >>= _ =
      insertRow db (created ctx schoolId organizationId d.data d.id) >>= _
    cases hinsert : insertRow db (created ctx schoolId organizationId d.data d.id) with
    | error e => rfl
    | ok db₁ =>
      obtain ⟨assignments, -, rfl⟩ := insertRow_ok hinsert
      have hnamed : getCohort { db with teacherAssignments := assignments } schoolId
        d.data.cohortId = some cohort := hcohort
      simp only [ok_bind, assigned, created, hnamed, found, createdEntry]

lemma entryOf_eq_some {schoolId : Ulid} {data : AssignmentCreate} {k : AssignmentKey} :
    entryOf schoolId data = some k ↔
      (data.role = .classTeacher ∧
        .classTeacher schoolId data.cohortId data.academicYearId = k) ∨
      (data.role = .subjectTeacher ∧ ∃ subjectId, data.subjectId = some subjectId ∧
        .subjectTeacher schoolId data.cohortId subjectId data.academicYearId = k) := by
  unfold entryOf
  cases data.role <;> simp

/-- The search for a conflict finds a row with the entry, and a second row collides with it. -/
lemma entry_taken (ctx' : RequestContext) {s o : Ulid} (o' : Ulid) {d d' : Draft AssignmentCreate}
    {db : SchoolDB} {k : AssignmentKey} (hmem : created ctx s o d.data d.id ∈ db.teacherAssignments)
    (hk : entryOf s d.data = some k) (hk' : entryOf s d'.data = some k) :
    checkAssignmentConflict db s d'.data.cohortId d'.data.subjectId d'.data.academicYearId
      d'.data.role = true ∧
    Collides (created ctx s o d.data d.id) (created ctx' s o' d'.data d'.id) := by
  rcases entryOf_eq_some.mp hk with ⟨hrole, rfl⟩ | ⟨hrole, subjectId, hsubject, rfl⟩
  · rcases entryOf_eq_some.mp hk' with ⟨hrole', heq⟩ | ⟨hrole', _, -, heq⟩
    · obtain ⟨-, hcohort, hyear⟩ := AssignmentKey.classTeacher.inj heq
      rw [hrole']
      refine ⟨List.any_eq_true.mpr ⟨_, hmem, ?_⟩, ?_⟩
      · simp [created, hcohort, hyear, hrole]
      · simp [Collides, created, hcohort, hyear, hrole, hrole']
    · cases heq
  · rcases entryOf_eq_some.mp hk' with ⟨hrole', heq⟩ | ⟨hrole', _, hsubject', heq⟩
    · cases heq
    · obtain ⟨-, hcohort, rfl, hyear⟩ := AssignmentKey.subjectTeacher.inj heq
      rw [hrole']
      refine ⟨List.any_eq_true.mpr ⟨_, hmem, ?_⟩, ?_⟩
      · simp [created, hcohort, hyear, hrole, hsubject, hsubject']
      · simp [Collides, created, hcohort, hyear, hrole, hrole', hsubject, hsubject']

lemma conflictPrechecks_of_entry {schoolId : Ulid} {data : AssignmentCreate} {k : AssignmentKey}
    (h : entryOf schoolId data = some k) : conflictPrechecks schoolId data =
      [⟨some k, fun db => if checkAssignmentConflict db schoolId data.cohortId data.subjectId
        data.academicYearId data.role then some conflict else none⟩] := by
  unfold conflictPrechecks
  rw [if_pos ((entryOf_eq_some.mp h).imp (·.1) (·.1)), h]

lemma createService_lawful : createService.Lawful where
  keeps := by
    intro env ctx ctx' s s' o d d' db db₁ db₂ hinsert hrest
    obtain ⟨assignments, -, rfl⟩ := insertRow_ok hinsert
    obtain ⟨_, rfl⟩ := run_assigned hrest
    simp only [List.forall_mem_cons]
    exact ⟨rfl, rfl, rfl, nofun⟩
  shows := by
    intro env ctx ctx' s o d d' db db₁ db₂ k hs hinsert hrest hk p hp hpk
    obtain ⟨assignments, hassignments, rfl⟩ := insertRow_ok hinsert
    have hmem : created ctx s o d.data d.id ∈ db₂.teacherAssignments := by
      obtain ⟨_, rfl⟩ := run_assigned hrest
      exact (Table.mem_of_insert hassignments).mpr (.inr rfl)
    change p ∈ conflictPrechecks s d'.data at hp
    have hk' : entryOf s d'.data = some k := by
      unfold conflictPrechecks at hp
      split at hp
      · obtain rfl := List.mem_singleton.mp hp
        exact hpk
      · exact absurd hp List.not_mem_nil
    rw [conflictPrechecks_of_entry hk'] at hp
    obtain rfl := List.mem_singleton.mp hp
    simp [(entry_taken ctx' o hmem (Option.mem_toList.mp hk) hk').1]
  tells := by
    intro env ctx ctx' s o o' d d' db db₁ db₂ db' k hs hinsert hrest hk hk' hmapped hid hinsert'
    obtain ⟨assignments, hassignments, rfl⟩ := insertRow_ok hinsert
    obtain ⟨_, hassignments', -⟩ := insertRow_ok hinsert'
    obtain ⟨_, hdb⟩ := run_assigned hrest
    have hmem : created ctx s o d.data d.id ∈ db₂.teacherAssignments := by
      rw [hdb]
      exact (Table.mem_of_insert hassignments).mpr (.inr rfl)
    have hfresh : ∀ r ∈ db₂.teacherAssignments, r.id ≠ (created ctx' s o' d'.data d'.id).id := by
      intro r hr
      rw [hdb] at hr
      rcases (Table.mem_of_insert hassignments).mp hr with hr | rfl
      · exact (Table.insert_eq_some.mp hassignments').1 r hr
      · exact hid
    obtain ⟨hfound, hcollides⟩ := entry_taken ctx' o' hmem
      (Option.mem_toList.mp hk) (Option.mem_toList.mp hk')
    refine ⟨conflict, ?_, ?_⟩
    · -- The search of the second request finds the row.
      change conflict ∈ (conflictPrechecks s d'.data).filterMap (·.conflict db₂)
      rw [conflictPrechecks_of_entry (Option.mem_toList.mp hk')]
      simp [hfound]
    · -- So does the index.
      obtain ⟨_, hinsert₂⟩ := Table.insert_of_fresh hfresh
      have hnot : ¬ ∀ a' ∈ db₂.teacherAssignments,
          ¬ Collides a' (created ctx' s o' d'.data d'.id) := fun hall => hall _ hmem hcollides
      simp only [insertRow, hinsert₂, found, ok_bind, ensure, if_neg hnot, error_bind]

end Assignments

end SchoolOs
