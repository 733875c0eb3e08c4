import SchoolOs.Enrollments

/-!
Attendance business logic: open the session of a cohort on a date, change, submit, amend and delete
it, and mark its records, one by one or in bulk.
-/

namespace SchoolOs

/-! ### Payloads -/

structure AttendanceSessionCreate where
  cohortId : Ulid
  academicYearId : Ulid
  sessionDate : Date
  notes : Option String

/-- Fields that are not given, or given as `None`, are not written. -/
structure AttendanceSessionUpdate where
  notes : Option String
  status : Option AttendanceSessionStatus
  version : ℕ
  one_le_version : 1 ≤ version

structure AttendanceRecordUpdate where
  status : AttendanceStatus
  arrivedAt : Option Time
  notes : Option String

structure BulkRecordItem where
  enrollmentId : Ulid
  status : AttendanceStatus
  arrivedAt : Option Time
  notes : Option String

def sessionSnapshot (session : AttendanceSession) : Snapshot :=
  [("cohort_id", .id session.cohortId), ("academic_year_id", .id session.academicYearId),
    ("session_date", dateText (some session.sessionDate)), ("status", .text session.status.value),
    ("notes", .opt .text session.notes)]

def recordSnapshot (record : AttendanceMark) : Snapshot :=
  [("status", .text record.status.value), ("arrived_at", .opt .time record.arrivedAt),
    ("notes", .opt .text record.notes)]

def AttendanceSession.touch (session : AttendanceSession) : AttendanceSession :=
  { session with version := session.version + 1 }

/-! ### Data access -/

section Repository

variable (db : SchoolDB) (schoolId : Ulid)

def getSessionById (sessionId : Ulid) : Option AttendanceSession :=
  (db.attendanceSessions.get sessionId).filter (·.schoolId = schoolId)

def getSessionForCohortDate (cohortId : Ulid) (sessionDate : Date) : Option AttendanceSession :=
  db.attendanceSessions.rows.find? fun s =>
    s.cohortId = cohortId ∧ s.sessionDate = sessionDate ∧ s.schoolId = schoolId

/-- The enrollments that a session on the date lists. -/
def getActiveEnrollmentsForCohort (cohortId : Ulid) (sessionDate : Date) :
    List StudentEnrollment :=
  db.enrollments.rows.filter fun e =>
    e.cohortId = cohortId ∧ e.schoolId = schoolId ∧ e.status = .active ∧
      e.startDate ≤ sessionDate ∧ ∀ d ∈ e.endDate, sessionDate ≤ d

/-- The insert of a session, with its constraints. -/
def insertSession (session : AttendanceSession) : Fallible SchoolDB := do
  ensure (Slots.notesBindable session.notes = true) internalError
  let sessions ← found (db.attendanceSessions.insert session) internalError
  ensure ((∀ s ∈ db.attendanceSessions,
      ¬ (s.cohortId = session.cohortId ∧ s.sessionDate = session.sessionDate)) ∧
    db.HasSchool session.schoolId ∧ (db.cohorts.get session.cohortId).isSome ∧
    (db.academicYears.get session.academicYearId).isSome) internalError
  return { db with attendanceSessions := sessions }

/-- The flush of a changed session. -/
def saveSession (old new : AttendanceSession) : Fallible SchoolDB :=
  if new = old then return db
  else do
    ensure (Slots.notesBindable new.notes = true ∧
      ∀ u ∈ new.submittedById, ∃ user ∈ db.core.users, user.id = u) internalError
    return { db with attendanceSessions := db.attendanceSessions.put new.touch }

/-- The removal of a session. The records that came with it are first to lose their session, which
their column does not allow; those that row security hides go with the session. -/
def removeSession (ctx : RequestContext) (session : AttendanceSession) : Fallible SchoolDB := do
  ensure (∀ r ∈ shown AttendanceMark.schoolId ctx db.attendanceRecords.rows,
    r.sessionId ≠ session.id) internalError
  return { db with
    attendanceSessions := db.attendanceSessions.delete session.id
    attendanceRecords := db.attendanceRecords.deleteWhere (·.sessionId = session.id) }

def getRecord (recordId : Ulid) : Option AttendanceMark :=
  (db.attendanceRecords.get recordId).filter (·.schoolId = schoolId)

/-- The flush of a changed record. -/
def saveRecord (old new : AttendanceMark) : Fallible SchoolDB :=
  if new = old then return db
  else do
    ensure (Slots.notesBindable new.notes = true) internalError
    return { db with attendanceRecords := db.attendanceRecords.put new }

/-- `publish`: the row of the outbox, in the transaction of the service. -/
def SchoolDB.publish (ctx : RequestContext) (e : NewEvent) : Fallible SchoolDB := do
  ensure (varchar 64 (some ctx.requestId) = true) internalError
  let outboxEvents ← found (db.outboxEvents.insert e.row) internalError
  return { db with outboxEvents := outboxEvents }

/-- The record of an enrollment in a session. -/
def getRecordFor (sessionId enrollmentId : Ulid) : Option AttendanceMark :=
  db.attendanceRecords.rows.find? fun r => r.sessionId = sessionId ∧ r.enrollmentId = enrollmentId

/-- The insert of a record, with its constraints. -/
def insertRecord (record : AttendanceMark) : Fallible SchoolDB := do
  ensure (Slots.notesBindable record.notes = true) internalError
  let records ← found (db.attendanceRecords.insert record) internalError
  ensureAbsent (getRecordFor db record.sessionId record.enrollmentId) fun _ => internalError
  ensure (db.HasSchool record.schoolId ∧ (db.attendanceSessions.get record.sessionId).isSome ∧
    (db.enrollments.get record.enrollmentId).isSome ∧ (db.students.get record.studentId).isSome)
    internalError
  return { db with attendanceRecords := records }

/-- `INSERT … ON CONFLICT (session_id, enrollment_id) DO UPDATE`: the row that is there keeps what
it refers to. Row security hides a row of another school, and refuses to update it. -/
def upsertRecord (record : AttendanceMark) : Fallible SchoolDB :=
  match getRecordFor db record.sessionId record.enrollmentId with
  | none => insertRecord db record
  | some old => do
    ensure (Slots.notesBindable record.notes = true ∧ old.schoolId = record.schoolId) internalError
    return { db with
      attendanceRecords := db.attendanceRecords.put
        { old with
          status := record.status
          arrivedAt := record.arrivedAt
          notes := record.notes
          updatedById := record.updatedById } }

end Repository

/-- A statement for each row. -/
def eachRecord (write : SchoolDB → AttendanceMark → Fallible SchoolDB) :
    SchoolDB → List AttendanceMark → Fallible SchoolDB
  | db, [] => return db
  | db, record :: records => do
    let db ← write db record
    eachRecord write db records

/-! ### Services -/

namespace Attendance

section Service

variable (env : SchoolEnv) (ctx : RequestContext) (db : SchoolDB)

def noSchoolSet : ApiError := forbiddenError "No school context set."
def sessionNotFound : ApiError :=
  notFoundError "The attendance session was not found." "ATTENDANCE_SESSION_NOT_FOUND"
def sessionSubmitted : ApiError :=
  { forbiddenError ("Records cannot be modified while the session is SUBMITTED. " ++
      "Amend the session first.") with code := "SESSION_SUBMITTED" }

/-- The row of a new session. -/
def opened (schoolId organizationId : Ulid) (data : AttendanceSessionCreate) (id : Ulid) :
    AttendanceSession where
  id := id
  schoolId := schoolId
  organizationId := organizationId
  cohortId := data.cohortId
  academicYearId := data.academicYearId
  sessionDate := data.sessionDate
  status := .draft
  submittedAt := none
  submittedById := none
  notes := data.notes
  createdById := ctx.userId
  updatedById := ctx.userId
  version := 1

/-- The record of an enrollment that a new session lists. -/
def listed (session : AttendanceSession) (id : Ulid) (e : StudentEnrollment) : AttendanceMark where
  id := id
  schoolId := session.schoolId
  organizationId := session.organizationId
  sessionId := session.id
  enrollmentId := e.id
  studentId := e.studentId
  status := .present
  arrivedAt := none
  notes := none
  createdById := ctx.userId
  updatedById := ctx.userId

/-- Open a session, with a record for each enrollment of the cohort. The ids of the records are
drawn one after another. -/
def createSession (data : AttendanceSessionCreate) (id : Ulid) (recordIds : ℕ → Ulid) :
    Fallible (AttendanceSession × SchoolDB) := do
  let schoolId ← found ctx.schoolId noSchoolSet
  ensureAbsent (getSessionForCohortDate db schoolId data.cohortId data.sessionDate) fun _ =>
    conflictError "An attendance session already exists for this cohort on this date."
      "SESSION_ALREADY_EXISTS"
      [("cohort_id", .id data.cohortId), ("session_date", .text data.sessionDate.iso)]
  let organizationId ← found ctx.organizationId internalError
  let session := opened ctx schoolId organizationId data id
  let db ← insertSession db session
  let enrollments := getActiveEnrollmentsForCohort db schoolId data.cohortId data.sessionDate
  let db ← eachRecord insertRecord db
    (enrollments.zipIdx.map fun p => listed ctx session (recordIds p.2) p.1)
  let db ← db.audit env ctx
    { action := "ATTENDANCE_SESSION_CREATED", entityType := "attendance_session",
      entityId := some session.id,
      summary := some ("Attendance session created for cohort " ++ data.cohortId.text ++ " on " ++
        data.sessionDate.iso),
      after := some (sessionSnapshot session) }
  return (session, db)

def getOwned (sessionId : Ulid) : Fallible AttendanceSession := do
  let schoolId ← found ctx.schoolId sessionNotFound
  found (getSessionById db schoolId sessionId) sessionNotFound

/-- The student of an enrollment of the school. -/
def resolveStudentId (schoolId enrollmentId : Ulid) : Option Ulid :=
  ((db.enrollments.get enrollmentId).filter (·.schoolId = schoolId)).map
    StudentEnrollment.studentId

/-- The row of an item. -/
def marked (schoolId organizationId sessionId : Ulid) (id studentId : Ulid)
    (item : BulkRecordItem) : AttendanceMark where
  id := id
  schoolId := schoolId
  organizationId := organizationId
  sessionId := sessionId
  enrollmentId := item.enrollmentId
  studentId := studentId
  status := item.status
  arrivedAt := item.arrivedAt
  notes := item.notes
  createdById := ctx.userId
  updatedById := ctx.userId

/-- The rows of the items, numbered from `n`. The empty id of a student that is not found, and the
`None` of an organization that is not set, fit no column. -/
def markedRows (schoolId sessionId : Ulid) (recordIds : ℕ → Ulid) :
    ℕ → List BulkRecordItem → Fallible (List AttendanceMark)
  | _, [] => return []
  | n, item :: items => do
    let studentId ← found (resolveStudentId db schoolId item.enrollmentId) internalError
    let organizationId ← found ctx.organizationId internalError
    let rows ← markedRows schoolId sessionId recordIds (n + 1) items
    return marked ctx schoolId organizationId sessionId (recordIds n) studentId item :: rows

def bulkUpdateRecords (sessionId : Ulid) (records : List BulkRecordItem) (recordIds : ℕ → Ulid) :
    Fallible SchoolDB := do
  let schoolId ← found ctx.schoolId noSchoolSet
  let session ← getOwned ctx db sessionId
  ensure (session.status ≠ .submitted) sessionSubmitted
  let rows ← markedRows ctx db schoolId sessionId recordIds 0 records
  let db ← eachRecord upsertRecord db rows
  db.audit env ctx
    { action := "ATTENDANCE_SESSION_BULK_UPDATED", entityType := "attendance_session",
      entityId := some sessionId,
      summary := some ("Bulk update of " ++ toString records.length ++
        " attendance records for session " ++ sessionId.text) }

/-- A session in one of the states an operation takes, at the version of the request. -/
def expect (sessionId : Ulid) (states : List AttendanceSessionStatus) (refusal : ApiError)
    (version : ℕ) : Fallible AttendanceSession := do
  let session ← getOwned ctx db sessionId
  ensure (session.status ∈ states) refusal
  ensure (session.version = version) staleResourceError
  return session

def notEditable : ApiError :=
  { forbiddenError "Only DRAFT sessions can be updated." with code := "SESSION_NOT_EDITABLE" }
def notDeletable : ApiError :=
  { forbiddenError "Only DRAFT sessions can be deleted." with code := "SESSION_NOT_DELETABLE" }
def notSubmittable : ApiError :=
  { forbiddenError "Only DRAFT sessions can be submitted." with code := "SESSION_NOT_SUBMITTABLE" }
def notAmendable : ApiError :=
  { forbiddenError "Only SUBMITTED or AMENDED sessions can be amended." with
    code := "SESSION_NOT_AMENDABLE" }
def recordNotFound : ApiError :=
  notFoundError "The attendance record was not found." "ATTENDANCE_RECORD_NOT_FOUND"

def changedEntry (action verb : String) (old new : AttendanceSession) : AuditEntry :=
  { action := action, entityType := "attendance_session", entityId := some old.id,
    summary := some ("Attendance session " ++ old.id.text ++ " " ++ verb),
    before := some (sessionSnapshot old), after := some (sessionSnapshot new) }

/-- The row with the fields of the payload that are given. -/
def applied (session : AttendanceSession) (data : AttendanceSessionUpdate) : AttendanceSession :=
  { session with
    notes := data.notes.or session.notes
    status := data.status.getD session.status
    updatedById := ctx.userId }

def updateSession (sessionId : Ulid) (data : AttendanceSessionUpdate) :
    Fallible (AttendanceSession × SchoolDB) := do
  let session ← expect ctx db sessionId [.draft] notEditable data.version
  let new := applied ctx session data
  let db ← saveSession db session new
  let db ← db.audit env ctx (changedEntry "ATTENDANCE_SESSION_UPDATED" "updated" session new)
  return (flushed AttendanceSession.touch session new, db)

def deleteSession (sessionId : Ulid) (version : ℕ) : Fallible SchoolDB := do
  let session ← expect ctx db sessionId [.draft] notDeletable version
  let db ← removeSession db ctx session
  db.audit env ctx
    { action := "ATTENDANCE_SESSION_DELETED", entityType := "attendance_session",
      entityId := some sessionId,
      summary := some ("Attendance session " ++ sessionId.text ++ " deleted"),
      before := some (sessionSnapshot session) }

/-- The row of a submitted session. -/
def submitted (clk : Clock) (session : AttendanceSession) : AttendanceSession :=
  { session with
    status := .submitted
    submittedAt := some clk.now
    submittedById := ctx.userId
    updatedById := ctx.userId }

/-- The event that notifies the parents. -/
def submittedEvent (clk : Clock) (session : AttendanceSession) (eventId : Ulid) : NewEvent where
  id := eventId
  eventName := "ATTENDANCE_SUBMITTED"
  payload := [("session_id", .str session.id.text), ("cohort_id", .str session.cohortId.text),
    ("session_date", .str session.sessionDate.iso)]
  organizationId := ctx.organizationId
  schoolId := ctx.schoolId
  entityType := some "attendance_session"
  entityId := some session.id
  createdAt := clk.now

def submitSession (clk : Clock) (sessionId : Ulid) (version : ℕ) (eventId : Ulid) :
    Fallible (AttendanceSession × SchoolDB) := do
  let session ← expect ctx db sessionId [.draft] notSubmittable version
  let new := submitted ctx clk session
  let db ← saveSession db session new
  let db ← db.publish ctx (submittedEvent ctx clk session eventId)
  let db ← db.audit env ctx (changedEntry "ATTENDANCE_SESSION_SUBMITTED" "submitted" session new)
  return (flushed AttendanceSession.touch session new, db)

/-- The row of an amended session. -/
def amended (session : AttendanceSession) : AttendanceSession :=
  { session with status := .amended, updatedById := ctx.userId }

def amendSession (sessionId : Ulid) (version : ℕ) : Fallible (AttendanceSession × SchoolDB) := do
  let session ← expect ctx db sessionId [.submitted, .amended] notAmendable version
  let new := amended ctx session
  let db ← saveSession db session new
  let db ← db.audit env ctx (changedEntry "ATTENDANCE_SESSION_AMENDED" "amended" session new)
  return (flushed AttendanceSession.touch session new, db)

/-- The record with the values of the payload. -/
def remarked (record : AttendanceMark) (data : AttendanceRecordUpdate) : AttendanceMark :=
  { record with
    status := data.status
    arrivedAt := data.arrivedAt
    notes := data.notes
    updatedById := ctx.userId }

def updateRecord (recordId : Ulid) (data : AttendanceRecordUpdate) :
    Fallible (AttendanceMark × SchoolDB) := do
  let schoolId ← found ctx.schoolId noSchoolSet
  let record ← found (getRecord db schoolId recordId) recordNotFound
  let session ← found (getSessionById db schoolId record.sessionId) sessionNotFound
  ensure (session.status ≠ .submitted) sessionSubmitted
  let new := remarked ctx record data
  let db ← saveRecord db record new
  let db ← db.audit env ctx
    { action := "ATTENDANCE_RECORD_UPDATED", entityType := "attendance_record",
      entityId := some record.id,
      summary := some ("Attendance record " ++ recordId.text ++ " updated"),
      before := some (recordSnapshot record), after := some (recordSnapshot new) }
  return (new, db)

end Service

end Attendance

/-! ### Requests -/

inductive AttendanceOp
  | createSession (data : AttendanceSessionCreate) (id : Ulid) (recordIds : ℕ → Ulid)
  | updateSession (sessionId : Ulid) (data : AttendanceSessionUpdate)
  | deleteSession (sessionId : Ulid) (version : ℕ)
  | submitSession (sessionId : Ulid) (version : ℕ) (eventId : Ulid)
  | amendSession (sessionId : Ulid) (version : ℕ)
  | updateRecord (recordId : Ulid) (data : AttendanceRecordUpdate)
  | bulkUpdateRecords (sessionId : Ulid) (records : List BulkRecordItem) (recordIds : ℕ → Ulid)

/-- A request on attendance, by a user who is logged in. -/
structure AttendanceCall where
  ctx : RequestContext
  clk : Clock
  op : AttendanceOp
  user : ctx.userId.isSome

def AttendanceCall.handle (env : SchoolEnv) (db : SchoolDB) (c : AttendanceCall) :
    Fallible SchoolDB :=
  match c.op with
  | .createSession data id recordIds =>
    Prod.snd <$> Attendance.createSession env c.ctx db data id recordIds
  | .updateSession sessionId data =>
    Prod.snd <$> Attendance.updateSession env c.ctx db sessionId data
  | .deleteSession sessionId version => Attendance.deleteSession env c.ctx db sessionId version
  | .submitSession sessionId version eventId =>
    Prod.snd <$> Attendance.submitSession env c.ctx db c.clk sessionId version eventId
  | .amendSession sessionId version =>
    Prod.snd <$> Attendance.amendSession env c.ctx db sessionId version
  | .updateRecord recordId data => Prod.snd <$> Attendance.updateRecord env c.ctx db recordId data
  | .bulkUpdateRecords sessionId records recordIds =>
    Attendance.bulkUpdateRecords env c.ctx db sessionId records recordIds

/-- A failed request leaves no trace. -/
def AttendanceCall.step (env : SchoolEnv) (db : SchoolDB) (c : AttendanceCall) : SchoolDB :=
  match c.handle env db with
  | .ok db' => db'
  | .error _ => db

/-! ### What a request does -/

/-- The database after a request that goes through, but for the audit log. -/
inductive AttendanceEffect (ctx : RequestContext) (clk : Clock) (db : SchoolDB) :
    AttendanceOp → SchoolDB → Prop
  | createSession {schoolId organizationId : Ulid} {data : AttendanceSessionCreate} {id : Ulid}
      {recordIds : ℕ → Ulid} {db1 db2 : SchoolDB} (school : ctx.schoolId = some schoolId)
      (insert : insertSession db (Attendance.opened ctx schoolId organizationId data id) = .ok db1)
      (records : eachRecord insertRecord db1
        ((getActiveEnrollmentsForCohort db1 schoolId data.cohortId data.sessionDate).zipIdx.map
          fun p => Attendance.listed ctx (Attendance.opened ctx schoolId organizationId data id)
            (recordIds p.2) p.1) = .ok db2) :
      AttendanceEffect ctx clk db (.createSession data id recordIds) db2
  | updateSession {sessionId : Ulid} {data : AttendanceSessionUpdate} {session : AttendanceSession}
      (owned : Attendance.getOwned ctx db sessionId = .ok session)
      (status : session.status = .draft) :
      AttendanceEffect ctx clk db (.updateSession sessionId data) { db with
        attendanceSessions := db.attendanceSessions.put
          (flushed AttendanceSession.touch session (Attendance.applied ctx session data)) }
  | deleteSession {sessionId : Ulid} {version : ℕ} {session : AttendanceSession}
      (owned : Attendance.getOwned ctx db sessionId = .ok session)
      (status : session.status = .draft) :
      AttendanceEffect ctx clk db (.deleteSession sessionId version) { db with
        attendanceSessions := db.attendanceSessions.delete session.id
        attendanceRecords := db.attendanceRecords.deleteWhere (·.sessionId = session.id) }
  | submitSession {sessionId : Ulid} {version : ℕ} {eventId : Ulid} {session : AttendanceSession}
      {outboxEvents : Table OutboxEvent.id}
      (owned : Attendance.getOwned ctx db sessionId = .ok session)
      (status : session.status = .draft)
      (insert : db.outboxEvents.insert (Attendance.submittedEvent ctx clk session eventId).row =
        some outboxEvents) :
      AttendanceEffect ctx clk db (.submitSession sessionId version eventId) { db with
        attendanceSessions :=
          db.attendanceSessions.put (Attendance.submitted ctx clk session).touch
        outboxEvents := outboxEvents }
  | amendSession {sessionId : Ulid} {version : ℕ} {session : AttendanceSession}
      (owned : Attendance.getOwned ctx db sessionId = .ok session)
      (status : session.status ≠ .draft) :
      AttendanceEffect ctx clk db (.amendSession sessionId version) { db with
        attendanceSessions := db.attendanceSessions.put
          (flushed AttendanceSession.touch session (Attendance.amended ctx session)) }
  | updateRecord {schoolId recordId : Ulid} {data : AttendanceRecordUpdate}
      {record : AttendanceMark} (school : ctx.schoolId = some schoolId)
      (record_found : getRecord db schoolId recordId = some record) :
      AttendanceEffect ctx clk db (.updateRecord recordId data) { db with
        attendanceRecords := db.attendanceRecords.put (Attendance.remarked ctx record data) }
  | bulkUpdateRecords {schoolId sessionId : Ulid} {items : List BulkRecordItem}
      {recordIds : ℕ → Ulid} {session : AttendanceSession} {rows : List AttendanceMark}
      {db1 : SchoolDB} (school : ctx.schoolId = some schoolId)
      (owned : Attendance.getOwned ctx db sessionId = .ok session)
      (rows_of : Attendance.markedRows ctx db schoolId sessionId recordIds 0 items = .ok rows)
      (records : eachRecord upsertRecord db rows = .ok db1) :
      AttendanceEffect ctx clk db (.bulkUpdateRecords sessionId items recordIds) db1

section Effects

variable {env : SchoolEnv} {clk : Clock} {ctx : RequestContext} {db db' : SchoolDB}

lemma sessionOwned_iff {sessionId : Ulid} {session : AttendanceSession} :
    Attendance.getOwned ctx db sessionId = .ok session ↔ ctx.schoolId = some session.schoolId ∧
      session ∈ db.attendanceSessions ∧ session.id = sessionId := by
  rw [Attendance.getOwned, bind_ok]
  simp only [found_ok, getSessionById, Option.filter_eq_some_iff, decide_eq_true_eq]
  constructor
  · rintro ⟨schoolId, hctx, hget, rfl⟩
    exact ⟨hctx, Table.get_eq_some.mp hget⟩
  · rintro ⟨hctx, hmem⟩
    exact ⟨_, hctx, Table.get_eq_some.mpr hmem, rfl⟩

lemma sessionOwned_ok {sessionId : Ulid} {session : AttendanceSession}
    (h : Attendance.getOwned ctx db sessionId = .ok session) :
    ctx.schoolId = some session.schoolId ∧ session ∈ db.attendanceSessions ∧
      session.id = sessionId :=
  sessionOwned_iff.mp h

lemma expect_ok {sessionId : Ulid} {states : List AttendanceSessionStatus} {refusal : ApiError}
    {version : ℕ} {session : AttendanceSession} :
    Attendance.expect ctx db sessionId states refusal version = .ok session ↔
      Attendance.getOwned ctx db sessionId = .ok session ∧ session.status ∈ states ∧
        session.version = version := by
  simp only [Attendance.expect, bind_ok, ensure_ok, pure_ok, exists_const]
  constructor
  · rintro ⟨session', howned, hstatus, hversion, rfl⟩
    exact ⟨howned, hstatus, hversion⟩
  · rintro ⟨howned, hstatus, hversion⟩
    exact ⟨session, howned, hstatus, hversion, rfl⟩

lemma saveSession_ok {old new : AttendanceSession} (hold : old ∈ db.attendanceSessions)
    (h : saveSession db old new = .ok db') :
    db' = { db with attendanceSessions :=
      db.attendanceSessions.put (flushed AttendanceSession.touch old new) } := by
  unfold saveSession at h
  split at h
  · next hsame =>
    obtain rfl := pure_ok.mp h
    rw [flushed, if_pos hsame, Table.put_self hold]
  · next hne =>
    obtain ⟨_, _, h⟩ := bind_ok.mp h
    rw [flushed, if_neg hne]
    exact (pure_ok.mp h).symm

lemma saveRecord_ok {old new : AttendanceMark} (hold : old ∈ db.attendanceRecords)
    (h : saveRecord db old new = .ok db') :
    db' = { db with attendanceRecords := db.attendanceRecords.put new } := by
  unfold saveRecord at h
  split at h
  · next hsame =>
    obtain rfl := pure_ok.mp h
    rw [hsame, Table.put_self hold]
  · obtain ⟨_, _, h⟩ := bind_ok.mp h
    exact (pure_ok.mp h).symm

lemma flushed_submitted {session : AttendanceSession} (hdraft : session.status = .draft) :
    flushed AttendanceSession.touch session (Attendance.submitted ctx clk session) =
      (Attendance.submitted ctx clk session).touch := by
  refine if_neg fun hsame => ?_
  have hstatus : AttendanceSessionStatus.submitted = session.status :=
    congrArg AttendanceSession.status hsame
  rw [hdraft] at hstatus
  cases hstatus

lemma createSession_ok {data : AttendanceSessionCreate} {id : Ulid} {recordIds : ℕ → Ulid}
    {session : AttendanceSession}
    (h : Attendance.createSession env ctx db data id recordIds = .ok (session, db')) :
    ∃ db1 row, AttendanceEffect ctx clk db (.createSession data id recordIds) db1 ∧
      db' = db1.log row := by
  obtain ⟨schoolId, hschool, h⟩ := bind_ok.mp h
  obtain ⟨_, _, h⟩ := bind_ok.mp h
  obtain ⟨organizationId, _, h⟩ := bind_ok.mp h
  obtain ⟨db1, hinsert, h⟩ := bind_ok.mp h
  obtain ⟨db2, hrecords, h⟩ := bind_ok.mp h
  obtain ⟨db3, haudit, h⟩ := bind_ok.mp h
  obtain ⟨_, rfl⟩ := Prod.mk.inj (pure_ok.mp h)
  obtain ⟨_, rfl⟩ := schoolAudit_ok.mp haudit
  exact ⟨db2, _, .createSession (found_ok.mp hschool) hinsert hrecords, rfl⟩

lemma updateSession_ok {sessionId : Ulid} {data : AttendanceSessionUpdate}
    {session : AttendanceSession}
    (h : Attendance.updateSession env ctx db sessionId data = .ok (session, db')) :
    ∃ db1 row, AttendanceEffect ctx clk db (.updateSession sessionId data) db1 ∧
      db' = db1.log row := by
  obtain ⟨session', hexpect, h⟩ := bind_ok.mp h
  obtain ⟨db1, hsave, h⟩ := bind_ok.mp h
  obtain ⟨db2, haudit, h⟩ := bind_ok.mp h
  obtain ⟨_, rfl⟩ := Prod.mk.inj (pure_ok.mp h)
  obtain ⟨_, rfl⟩ := schoolAudit_ok.mp haudit
  obtain ⟨howned, hstatus, _⟩ := expect_ok.mp hexpect
  obtain rfl := saveSession_ok (sessionOwned_ok howned).2.1 hsave
  exact ⟨_, _, .updateSession howned (List.mem_singleton.mp hstatus), rfl⟩

lemma deleteSession_ok {sessionId : Ulid} {version : ℕ}
    (h : Attendance.deleteSession env ctx db sessionId version = .ok db') :
    ∃ db1 row, AttendanceEffect ctx clk db (.deleteSession sessionId version) db1 ∧
      db' = db1.log row := by
  obtain ⟨session, hexpect, h⟩ := bind_ok.mp h
  obtain ⟨db1, hremove, h⟩ := bind_ok.mp h
  obtain ⟨_, rfl⟩ := schoolAudit_ok.mp h
  obtain ⟨howned, hstatus, _⟩ := expect_ok.mp hexpect
  obtain ⟨_, _, hremove⟩ := bind_ok.mp hremove
  obtain rfl := pure_ok.mp hremove
  exact ⟨_, _, .deleteSession howned (List.mem_singleton.mp hstatus), rfl⟩

lemma submitSession_ok {sessionId : Ulid} {version : ℕ} {eventId : Ulid}
    {session : AttendanceSession}
    (h : Attendance.submitSession env ctx db clk sessionId version eventId = .ok (session, db')) :
    ∃ db1 row, AttendanceEffect ctx clk db (.submitSession sessionId version eventId) db1 ∧
      db' = db1.log row := by
  obtain ⟨session', hexpect, h⟩ := bind_ok.mp h
  obtain ⟨db1, hsave, h⟩ := bind_ok.mp h
  obtain ⟨db2, hpublish, h⟩ := bind_ok.mp h
  obtain ⟨db3, haudit, h⟩ := bind_ok.mp h
  obtain ⟨_, rfl⟩ := Prod.mk.inj (pure_ok.mp h)
  obtain ⟨_, rfl⟩ := schoolAudit_ok.mp haudit
  obtain ⟨howned, hstatus, _⟩ := expect_ok.mp hexpect
  have hdraft := List.mem_singleton.mp hstatus
  obtain rfl := saveSession_ok (sessionOwned_ok howned).2.1 hsave
  obtain ⟨_, _, hpublish⟩ := bind_ok.mp hpublish
  obtain ⟨outboxEvents, hinsert, hpublish⟩ := bind_ok.mp hpublish
  obtain rfl := pure_ok.mp hpublish
  refine ⟨_, _, ?_, rfl⟩
  rw [flushed_submitted hdraft]
  exact .submitSession howned hdraft (found_ok.mp hinsert)

lemma amendSession_ok {sessionId : Ulid} {version : ℕ} {session : AttendanceSession}
    (h : Attendance.amendSession env ctx db sessionId version = .ok (session, db')) :
    ∃ db1 row, AttendanceEffect ctx clk db (.amendSession sessionId version) db1 ∧
      db' = db1.log row := by
  obtain ⟨session', hexpect, h⟩ := bind_ok.mp h
  obtain ⟨db1, hsave, h⟩ := bind_ok.mp h
  obtain ⟨db2, haudit, h⟩ := bind_ok.mp h
  obtain ⟨_, rfl⟩ := Prod.mk.inj (pure_ok.mp h)
  obtain ⟨_, rfl⟩ := schoolAudit_ok.mp haudit
  obtain ⟨howned, hstatus, _⟩ := expect_ok.mp hexpect
  obtain rfl := saveSession_ok (sessionOwned_ok howned).2.1 hsave
  refine ⟨_, _, .amendSession howned fun hdraft => ?_, rfl⟩
  rw [hdraft] at hstatus
  exact absurd hstatus (by decide)

lemma updateRecord_ok {recordId : Ulid} {data : AttendanceRecordUpdate} {record : AttendanceMark}
    (h : Attendance.updateRecord env ctx db recordId data = .ok (record, db')) :
    ∃ db1 row, AttendanceEffect ctx clk db (.updateRecord recordId data) db1 ∧
      db' = db1.log row := by
  obtain ⟨schoolId, hschool, h⟩ := bind_ok.mp h
  obtain ⟨record', hrecord, h⟩ := bind_ok.mp h
  obtain ⟨session, _, h⟩ := bind_ok.mp h
  obtain ⟨_, _, h⟩ := bind_ok.mp h
  obtain ⟨db1, hsave, h⟩ := bind_ok.mp h
  obtain ⟨db2, haudit, h⟩ := bind_ok.mp h
  obtain ⟨_, rfl⟩ := Prod.mk.inj (pure_ok.mp h)
  obtain ⟨_, rfl⟩ := schoolAudit_ok.mp haudit
  have hget := (Option.filter_eq_some_iff.mp (found_ok.mp hrecord)).1
  obtain rfl := saveRecord_ok (Table.get_eq_some.mp hget).1 hsave
  exact ⟨_, _, .updateRecord (found_ok.mp hschool) (found_ok.mp hrecord), rfl⟩

lemma bulkUpdateRecords_ok {sessionId : Ulid} {items : List BulkRecordItem} {recordIds : ℕ → Ulid}
    (h : Attendance.bulkUpdateRecords env ctx db sessionId items recordIds = .ok db') :
    ∃ db1 row, AttendanceEffect ctx clk db (.bulkUpdateRecords sessionId items recordIds) db1 ∧
      db' = db1.log row := by
  obtain ⟨schoolId, hschool, h⟩ := bind_ok.mp h
  obtain ⟨session, howned, h⟩ := bind_ok.mp h
  obtain ⟨_, _, h⟩ := bind_ok.mp h
  obtain ⟨rows, hrows, h⟩ := bind_ok.mp h
  obtain ⟨db1, hrecords, h⟩ := bind_ok.mp h
  obtain ⟨_, rfl⟩ := schoolAudit_ok.mp h
  exact ⟨_, _, .bulkUpdateRecords (found_ok.mp hschool) howned hrows hrecords, rfl⟩

/-- **What a request on attendance that goes through does**: one of the seven effects, beside the
audit log. -/
theorem attendanceHandle_ok {c : AttendanceCall} (h : c.handle env db = .ok db') :
    ∃ db1 row, AttendanceEffect c.ctx c.clk db c.op db1 ∧ db' = db1.log row := by
  obtain ⟨ctx, clk, op, user⟩ := c
  cases op with
  | createSession data id recordIds =>
    obtain ⟨⟨_, _⟩, hcreate, rfl⟩ := map_ok.mp h
    exact createSession_ok hcreate
  | updateSession sessionId data =>
    obtain ⟨⟨_, _⟩, hupdate, rfl⟩ := map_ok.mp h
    exact updateSession_ok hupdate
  | deleteSession sessionId version => exact deleteSession_ok h
  | submitSession sessionId version eventId =>
    obtain ⟨⟨_, _⟩, hsubmit, rfl⟩ := map_ok.mp h
    exact submitSession_ok hsubmit
  | amendSession sessionId version =>
    obtain ⟨⟨_, _⟩, hamend, rfl⟩ := map_ok.mp h
    exact amendSession_ok hamend
  | updateRecord recordId data =>
    obtain ⟨⟨_, _⟩, hupdate, rfl⟩ := map_ok.mp h
    exact updateRecord_ok hupdate
  | bulkUpdateRecords sessionId items recordIds => exact bulkUpdateRecords_ok h

lemma eachRecord_frame {write : SchoolDB → AttendanceMark → Fallible SchoolDB}
    (hwrite : ∀ d record d', write d record = .ok d' →
      d' = { d with attendanceRecords := d'.attendanceRecords })
    {records : List AttendanceMark} (h : eachRecord write db records = .ok db') :
    db' = { db with attendanceRecords := db'.attendanceRecords } := by
  induction records generalizing db with
  | nil =>
    obtain rfl := pure_ok.mp h
    rfl
  | cons record records ih =>
    obtain ⟨db1, hone, h⟩ := bind_ok.mp h
    have hrest := ih h
    rw [hwrite db record db1 hone] at hrest
    exact hrest

lemma insertRecord_frame {record : AttendanceMark} (h : insertRecord db record = .ok db') :
    db' = { db with attendanceRecords := db'.attendanceRecords } := by
  obtain ⟨_, _, h⟩ := bind_ok.mp h
  obtain ⟨records, _, h⟩ := bind_ok.mp h
  obtain ⟨_, _, h⟩ := bind_ok.mp h
  obtain ⟨_, _, h⟩ := bind_ok.mp h
  obtain rfl := pure_ok.mp h
  rfl

lemma upsertRecord_frame {record : AttendanceMark} (h : upsertRecord db record = .ok db') :
    db' = { db with attendanceRecords := db'.attendanceRecords } := by
  unfold upsertRecord at h
  split at h
  · exact insertRecord_frame h
  · obtain ⟨_, _, h⟩ := bind_ok.mp h
    obtain rfl := pure_ok.mp h
    rfl

lemma markedRows_ok {schoolId sessionId : Ulid} {recordIds : ℕ → Ulid} {n : ℕ}
    {items : List BulkRecordItem} {rows : List AttendanceMark}
    (h : Attendance.markedRows ctx db schoolId sessionId recordIds n items = .ok rows) :
    ∀ row ∈ rows, row.schoolId = schoolId ∧ row.sessionId = sessionId ∧
      Attendance.resolveStudentId db schoolId row.enrollmentId = some row.studentId := by
  induction items generalizing n rows with
  | nil =>
    obtain rfl := pure_ok.mp h
    simp
  | cons item items ih =>
    obtain ⟨studentId, hstudent, h⟩ := bind_ok.mp h
    obtain ⟨organizationId, _, h⟩ := bind_ok.mp h
    obtain ⟨rest, hrest, h⟩ := bind_ok.mp h
    obtain rfl := pure_ok.mp h
    intro row hrow
    rcases List.mem_cons.mp hrow with rfl | hrow
    · exact ⟨rfl, rfl, found_ok.mp hstudent⟩
    · exact ih hrest row hrow

lemma markedRows_enrollments {schoolId sessionId : Ulid} {recordIds : ℕ → Ulid} {n : ℕ}
    {items : List BulkRecordItem} {rows : List AttendanceMark}
    (h : Attendance.markedRows ctx db schoolId sessionId recordIds n items = .ok rows) :
    rows.map AttendanceMark.enrollmentId = items.map BulkRecordItem.enrollmentId := by
  induction items generalizing n rows with
  | nil =>
    obtain rfl := pure_ok.mp h
    rfl
  | cons item items ih =>
    obtain ⟨studentId, _, h⟩ := bind_ok.mp h
    obtain ⟨organizationId, _, h⟩ := bind_ok.mp h
    obtain ⟨rest, hrest, h⟩ := bind_ok.mp h
    obtain rfl := pure_ok.mp h
    exact congrArg (item.enrollmentId :: ·) (ih hrest)

end Effects

end SchoolOs
