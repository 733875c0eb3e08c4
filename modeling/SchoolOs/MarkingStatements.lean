import SchoolOs.Attendance
import SchoolOs.Transactions

/-!
Requests that submit and amend attendance and mark its records, one SQL statement at a time. The
statement that writes a session waits for other writers of the session and fails when the version
has moved; the statements that write records lock the records alone. The foreign key of a record
is no obstacle to a change of its session's status.
-/

namespace SchoolOs

open ReadCommitted Procs

/-! ### Requests and where they stand -/

inductive MarkingOp
  | submitSession (sessionId : Ulid) (version : ℕ) (eventId : Ulid)
  | amendSession (sessionId : Ulid) (version : ℕ)
  | updateRecord (recordId : Ulid) (data : AttendanceRecordUpdate)
  | bulkUpdateRecords (sessionId : Ulid) (records : List BulkRecordItem) (recordIds : ℕ → Ulid)

def MarkingOp.whole : MarkingOp → AttendanceOp
  | .submitSession sessionId version eventId => .submitSession sessionId version eventId
  | .amendSession sessionId version => .amendSession sessionId version
  | .updateRecord recordId data => .updateRecord recordId data
  | .bulkUpdateRecords sessionId records recordIds =>
    .bulkUpdateRecords sessionId records recordIds

/-- A request, by a user who is logged in. -/
structure MarkingRequest where
  ctx : RequestContext
  clk : Clock
  op : MarkingOp
  user : ctx.userId.isSome

/-- The request as one step. -/
def MarkingRequest.call (q : MarkingRequest) : AttendanceCall := ⟨q.ctx, q.clk, q.op.whole, q.user⟩

/-- Where a request stands. -/
inductive MarkingPc
  | start
  /-- The session is read; its update is next. -/
  | selected (old : AttendanceSession)
  /-- The session is submitted; the event is next. -/
  | saved (old : AttendanceSession)
  /-- The record is read; its session is next. -/
  | located (schoolId : Ulid) (old : AttendanceMark)
  /-- The session is not SUBMITTED; the update of the record is next. -/
  | unlocked (old : AttendanceMark)
  /-- The session is not SUBMITTED; the students of the items that are left are next. -/
  | resolving (schoolId : Ulid) (resolved : List (BulkRecordItem × Option Ulid))
      (left : List BulkRecordItem)
  /-- The students are looked up; the records that are left, numbered from `n`, are next. -/
  | upserting (schoolId : Ulid) (n : ℕ) (left : List (BulkRecordItem × Option Ulid))
  /-- The audit row is next. -/
  | written (entry : AuditEntry)
  /-- The commit is next. -/
  | logged
  | answered (r : Fallible Unit)

def MarkingPc.failed (e : ApiError) : MarkingPc := .answered (.error e)

/-! ### Statements -/

/-- What a statement locks: a row, or the value of the unique constraint of the records. -/
inductive MarkingLock
  | session (id : Ulid)
  | event (id : Ulid)
  | row (id : Ulid)
  | mark (sessionId enrollmentId : Ulid)
  deriving DecidableEq

abbrev MarkingStatement := Statement ApiError SchoolDB MarkingLock
abbrev MarkingWrite := Write SchoolDB MarkingLock

/-- `UPDATE attendance_sessions … WHERE id = … AND version = …`. -/
def updateSession (old new : AttendanceSession) : MarkingStatement where
  locks := [.session old.id]
  run db := do
    ensure ((db.attendanceSessions.get old.id).map AttendanceSession.version = some old.version)
      internalError
    saveSession db old new

def insertEvent (ctx : RequestContext) (e : NewEvent) : MarkingStatement where
  locks := [.event e.row.id]
  run db := db.publish ctx e

/-- The row with the columns that changed. -/
def AttendanceMark.setChanged (row old new : AttendanceMark) : AttendanceMark :=
  { row with
    status := if new.status = old.status then row.status else new.status
    arrivedAt := if new.arrivedAt = old.arrivedAt then row.arrivedAt else new.arrivedAt
    notes := if new.notes = old.notes then row.notes else new.notes
    updatedById := if new.updatedById = old.updatedById then row.updatedById else new.updatedById }

/-- `UPDATE attendance_records … WHERE id = …`. -/
def updateMark (old new : AttendanceMark) : MarkingStatement where
  locks := [.row old.id, .mark old.sessionId old.enrollmentId]
  run db := do
    let row ← found (db.attendanceRecords.get old.id) internalError
    return { db with attendanceRecords := db.attendanceRecords.put (row.setChanged old new) }

/-- `INSERT … ON CONFLICT (session_id, enrollment_id) DO UPDATE`. -/
def upsertMark (row : AttendanceMark) : MarkingStatement where
  locks := [.row row.id, .mark row.sessionId row.enrollmentId]
  run db := upsertRecord db row

def insertMarkingAudit (env : SchoolEnv) (ctx : RequestContext) (entry : AuditEntry) :
    MarkingStatement where
  locks := []
  run db := db.audit env ctx entry

/-! ### What is read -/

namespace Attendance

section Reads

variable (ctx : RequestContext) (db : SchoolDB)

/-- The record, and the school in which its session is looked up. -/
def locate (recordId : Ulid) : Fallible (Ulid × AttendanceMark) := do
  let schoolId ← found ctx.schoolId noSchoolSet
  let record ← found (getRecord db schoolId recordId) recordNotFound
  return (schoolId, record)

/-- The session of the record is there and not SUBMITTED. -/
def unlock (schoolId : Ulid) (record : AttendanceMark) : Fallible Unit := do
  let session ← found (getSessionById db schoolId record.sessionId) sessionNotFound
  ensure (session.status ≠ .submitted) sessionSubmitted

/-- The session is there and not SUBMITTED: the school in which the students are looked up. -/
def openSession (sessionId : Ulid) : Fallible Ulid := do
  let schoolId ← found ctx.schoolId noSchoolSet
  let session ← getOwned ctx db sessionId
  ensure (session.status ≠ .submitted) sessionSubmitted
  return schoolId

/-- The row of an item, when its values fit their columns. -/
def markedRow (schoolId sessionId id : Ulid) (item : BulkRecordItem) (studentId : Option Ulid) :
    Fallible AttendanceMark := do
  let studentId ← found studentId internalError
  let organizationId ← found ctx.organizationId internalError
  ensure (Slots.notesBindable item.notes = true) internalError
  return marked ctx schoolId organizationId sessionId id studentId item

end Reads

def recordEntry (recordId : Ulid) (old new : AttendanceMark) : AuditEntry :=
  { action := "ATTENDANCE_RECORD_UPDATED", entityType := "attendance_record",
    entityId := some old.id, summary := some ("Attendance record " ++ recordId.text ++ " updated"),
    before := some (recordSnapshot old), after := some (recordSnapshot new) }

def bulkEntry (sessionId : Ulid) (records : List BulkRecordItem) : AuditEntry :=
  { action := "ATTENDANCE_SESSION_BULK_UPDATED", entityType := "attendance_session",
    entityId := some sessionId,
    summary := some ("Bulk update of " ++ toString records.length ++
      " attendance records for session " ++ sessionId.text) }

end Attendance

/-! ### The system -/

/-- The database and where every request stands. -/
abbrev MarkingSys (ι : Type*) := Procs ι SchoolDB MarkingLock MarkingPc

namespace MarkingSys

variable {ι : Type*} [DecidableEq ι] (env : SchoolEnv) (req : ι → MarkingRequest)
  (s : MarkingSys ι) (i : ι)

/-- The flush of a session that was read. A row that did not change is not written. -/
def flushSession (old new : AttendanceSession) (pc : MarkingPc) : MarkingSys ι :=
  if new = old then s.goto i pc else s.exec i (updateSession old new) pc .failed

/-- The flush of a record that was read. -/
def flushMark (old new : AttendanceMark) (pc : MarkingPc) : MarkingSys ι :=
  if new = old then s.goto i pc
  else if Slots.notesBindable new.notes = true then s.exec i (updateMark old new) pc .failed
  else s.abort i (.failed internalError)

/-- The next statement of a request to submit a session. -/
def nextSubmit (sessionId : Ulid) (version : ℕ) (eventId : Ulid) : MarkingSys ι :=
  match s.pc i with
  | .start =>
    s.ask i (Attendance.expect (req i).ctx (s.view i) sessionId [.draft]
      Attendance.notSubmittable version) .selected .failed
  | .selected old =>
    s.flushSession i old (Attendance.submitted (req i).ctx (req i).clk old) (.saved old)
  | .saved old =>
    s.exec i
      (insertEvent (req i).ctx (Attendance.submittedEvent (req i).ctx (req i).clk old eventId))
      (.written (Attendance.changedEntry "ATTENDANCE_SESSION_SUBMITTED" "submitted" old
        (Attendance.submitted (req i).ctx (req i).clk old))) .failed
  | _ => s

/-- The next statement of a request to amend a session. -/
def nextAmend (sessionId : Ulid) (version : ℕ) : MarkingSys ι :=
  match s.pc i with
  | .start =>
    s.ask i (Attendance.expect (req i).ctx (s.view i) sessionId [.submitted, .amended]
      Attendance.notAmendable version) .selected .failed
  | .selected old =>
    s.flushSession i old (Attendance.amended (req i).ctx old)
      (.written (Attendance.changedEntry "ATTENDANCE_SESSION_AMENDED" "amended" old
        (Attendance.amended (req i).ctx old)))
  | _ => s

/-- The next statement of a request to change a record. -/
def nextUpdate (recordId : Ulid) (data : AttendanceRecordUpdate) : MarkingSys ι :=
  match s.pc i with
  | .start =>
    s.ask i (Attendance.locate (req i).ctx (s.view i) recordId) (fun p => .located p.1 p.2) .failed
  | .located schoolId old =>
    s.ask i (Attendance.unlock (s.view i) schoolId old) (fun _ => .unlocked old) .failed
  | .unlocked old =>
    let new := Attendance.remarked (req i).ctx old data
    s.flushMark i old new (.written (Attendance.recordEntry recordId old new))
  | _ => s

/-- The next statement of a request to mark records in bulk. -/
def nextBulk (sessionId : Ulid) (records : List BulkRecordItem) (recordIds : ℕ → Ulid) :
    MarkingSys ι :=
  match s.pc i with
  | .start =>
    s.ask i (Attendance.openSession (req i).ctx (s.view i) sessionId)
      (fun schoolId => .resolving schoolId [] records) .failed
  | .resolving schoolId resolved [] => s.goto i (.upserting schoolId 0 resolved)
  | .resolving schoolId resolved (item :: left) =>
    let studentId := Attendance.resolveStudentId (s.view i) schoolId item.enrollmentId
    s.goto i (.resolving schoolId (resolved ++ [(item, studentId)]) left)
  | .upserting _ _ [] => s.goto i (.written (Attendance.bulkEntry sessionId records))
  | .upserting schoolId n ((item, studentId) :: left) =>
    match Attendance.markedRow (req i).ctx schoolId sessionId (recordIds n) item studentId with
    | .ok row => s.exec i (upsertMark row) (.upserting schoolId (n + 1) left) .failed
    | .error e => s.abort i (.failed e)
  | _ => s

/-- The next statement of a request. -/
def step (s : MarkingSys ι) (i : ι) : MarkingSys ι :=
  match s.pc i with
  | .written entry => s.exec i (insertMarkingAudit env (req i).ctx entry) .logged .failed
  | .logged => s.commit i (.answered (.ok ()))
  | .answered _ => s
  | _ =>
    match (req i).op with
    | .submitSession sessionId version eventId => s.nextSubmit req i sessionId version eventId
    | .amendSession sessionId version => s.nextAmend req i sessionId version
    | .updateRecord recordId data => s.nextUpdate req i recordId data
    | .bulkUpdateRecords sessionId records recordIds =>
      s.nextBulk req i sessionId records recordIds

/-- No request has begun. -/
def init (db : SchoolDB) : MarkingSys ι := ⟨⟨db, []⟩, fun _ => .start⟩

end MarkingSys

/-! ### A request that runs alone -/

section Alone

variable {ι : Type*} [DecidableEq ι] {env : SchoolEnv} {req : ι → MarkingRequest} {i : ι}
  {pcs : ι → MarkingPc} {db : SchoolDB} {ws : List MarkingWrite} {pc pc' : MarkingPc}

variable (env req i pcs) in
/-- The request comes to what `r` says. -/
abbrev MarkingAnswers (s : MarkingSys ι) (db : SchoolDB) (r : Fallible SchoolDB) : Prop :=
  Answers (MarkingSys.step env req) i pcs (.answered (.ok ())) .failed s db r

lemma answers_written {entry : AuditEntry} :
    MarkingAnswers env req i pcs (solo pcs i db ws (.written entry)) db
      ((after ws db).audit env (req i).ctx entry) := by
  refine .next ?_
  simp only [MarkingSys.step, solo_pc]
  rw [← bind_pure ((after ws db).audit env (req i).ctx entry)]
  refine answers_exec (t := insertMarkingAudit env (req i).ctx entry) ?_
  rintro ws' _ rfl _
  refine .next ?_
  simp only [MarkingSys.step, solo_pc]
  exact answers_commit

lemma answers_flushSession {old new : AttendanceSession} {k : SchoolDB → Fallible SchoolDB}
    (hold : (after ws db).attendanceSessions.get old.id = some old)
    (h : ∀ ws' db', after ws' db = db' →
      MarkingAnswers env req i pcs (solo pcs i db ws' pc') db (k db')) :
    MarkingAnswers env req i pcs (MarkingSys.flushSession (solo pcs i db ws pc) i old new pc') db
      (saveSession (after ws db) old new >>= k) := by
  unfold MarkingSys.flushSession
  split
  · next hsame =>
    simp only [saveSession, if_pos hsame, pure_bind, solo_goto]
    exact h ws _ rfl
  · have hrun : (updateSession old new).run (after ws db) = saveSession (after ws db) old new := by
      simp only [updateSession, hold, Option.map_some, ensure, if_true, ok_bind]
    rw [← hrun]
    exact answers_exec fun ws' db' hws' _ => h ws' db' hws'

lemma changed_column {α : Type} (a b : α) [Decidable (a = b)] : (if a = b then b else a) = a :=
  ite_eq_right_iff.mpr Eq.symm

/-- The columns that changed make the whole difference to the row that was read. -/
lemma setChanged_self {ctx : RequestContext} {old : AttendanceMark}
    {data : AttendanceRecordUpdate} :
    old.setChanged old (Attendance.remarked ctx old data) = Attendance.remarked ctx old data := by
  unfold AttendanceMark.setChanged Attendance.remarked
  simp only [changed_column]

lemma answers_flushMark {old : AttendanceMark} {data : AttendanceRecordUpdate}
    {k : SchoolDB → Fallible SchoolDB}
    (hold : (after ws db).attendanceRecords.get old.id = some old)
    (h : ∀ ws' db', after ws' db = db' →
      MarkingAnswers env req i pcs (solo pcs i db ws' pc') db (k db')) :
    MarkingAnswers env req i pcs (MarkingSys.flushMark (solo pcs i db ws pc) i old
        (Attendance.remarked (req i).ctx old data) pc') db
      (saveRecord (after ws db) old (Attendance.remarked (req i).ctx old data) >>= k) := by
  unfold MarkingSys.flushMark
  split
  · next hsame =>
    simp only [saveRecord, if_pos hsame, pure_bind, solo_goto]
    exact h ws _ rfl
  next hne =>
  split
  · next hnotes =>
    have hrun : (updateMark old (Attendance.remarked (req i).ctx old data)).run (after ws db) =
        saveRecord (after ws db) old (Attendance.remarked (req i).ctx old data) := by
      simp only [updateMark, saveRecord, hold, found, ok_bind, if_neg hne, ensure, if_pos hnotes,
        setChanged_self]
    rw [← hrun]
    exact answers_exec fun ws' db' hws' _ => h ws' db' hws'
  · next hnotes =>
    simp only [saveRecord, if_neg hne, ensure, if_neg hnotes, error_bind]
    exact answers_fail _

/-! ### Marking in bulk, alone -/

section Bulk

variable {ctx : RequestContext} {schoolId sessionId : Ulid} {recordIds : ℕ → Ulid}

lemma markedRows_fails (items : List BulkRecordItem) (n : ℕ) :
    FailsOnly internalError
      (Attendance.markedRows ctx db schoolId sessionId recordIds n items) := by
  induction items generalizing n with
  | nil => exact failsOnly_ok _
  | cons item items ih =>
    refine failsOnly_found.bind fun _ => failsOnly_found.bind fun _ => ?_
    exact (ih (n + 1)).bind fun _ => failsOnly_ok _

lemma insertRecord_fails {row : AttendanceMark} :
    FailsOnly internalError (insertRecord db row) := by
  refine failsOnly_ensure.bind fun _ => failsOnly_found.bind fun _ => ?_
  exact failsOnly_ensureAbsent.bind fun _ => failsOnly_ensure.bind fun _ => failsOnly_ok _

lemma upsertRecord_fails {row : AttendanceMark} :
    FailsOnly internalError (upsertRecord db row) := by
  unfold upsertRecord
  split
  · exact insertRecord_fails
  · exact failsOnly_ensure.bind fun _ => failsOnly_ok _

lemma upsertRecord_unbindable (db : SchoolDB) {row : AttendanceMark}
    (h : ¬ Slots.notesBindable row.notes = true) : upsertRecord db row = .error internalError := by
  unfold upsertRecord
  split
  · simp only [insertRecord, ensure, if_neg h, error_bind]
  · next old _ =>
    have hnot : ¬ (Slots.notesBindable row.notes = true ∧ old.schoolId = row.schoolId) :=
      fun hboth => h hboth.1
    simp only [ensure, if_neg hnot, error_bind]

lemma markedRows_each {item : BulkRecordItem} {items : List BulkRecordItem} {n : ℕ} (db' : SchoolDB)
    (k : SchoolDB → Fallible SchoolDB) :
    (Attendance.markedRows ctx db schoolId sessionId recordIds n (item :: items) >>= fun rows =>
        eachRecord upsertRecord db' rows >>= k) =
      Attendance.markedRow ctx schoolId sessionId (recordIds n) item
          (Attendance.resolveStudentId db schoolId item.enrollmentId) >>= fun row =>
        upsertRecord db' row >>= fun db' =>
          Attendance.markedRows ctx db schoolId sessionId recordIds (n + 1) items >>= fun rows =>
            eachRecord upsertRecord db' rows >>= k := by
  unfold Attendance.markedRow
  rw [Attendance.markedRows]
  cases Attendance.resolveStudentId db schoolId item.enrollmentId with
  | none => rfl
  | some studentId =>
    cases ctx.organizationId with
    | none => rfl
    | some organizationId =>
      simp only [found, ok_bind, bind_assoc, pure_bind, eachRecord]
      rw [(markedRows_fails items (n + 1)).swap upsertRecord_fails]
      by_cases hnotes : Slots.notesBindable item.notes = true
      · simp only [ensure, if_pos hnotes, ok_bind]
      · have hrow : upsertRecord db' (Attendance.marked ctx schoolId organizationId sessionId
            (recordIds n) studentId item) = .error internalError :=
          upsertRecord_unbindable db' hnotes
        simp only [ensure, if_neg hnotes, error_bind, hrow]

lemma answers_resolving {records left : List BulkRecordItem}
    {resolved : List (BulkRecordItem × Option Ulid)} {r : Fallible SchoolDB}
    (hop : (req i).op = .bulkUpdateRecords sessionId records recordIds)
    (h : MarkingAnswers env req i pcs (solo pcs i db [] (.upserting schoolId 0 (resolved ++
      left.map fun item => (item, Attendance.resolveStudentId db schoolId item.enrollmentId)))) db
      r) :
    MarkingAnswers env req i pcs (solo pcs i db [] (.resolving schoolId resolved left)) db r := by
  induction left generalizing resolved with
  | nil =>
    rw [List.map_nil, List.append_nil] at h
    refine .next ?_
    simpa only [MarkingSys.step, solo_pc, hop, MarkingSys.nextBulk, solo_goto] using h
  | cons item left ih =>
    refine .next ?_
    simp only [MarkingSys.step, solo_pc, hop, MarkingSys.nextBulk, solo_goto, solo_view, after_nil]
    refine ih ?_
    rw [List.append_assoc]
    exact h

lemma answers_upserting {records items : List BulkRecordItem} {n : ℕ}
    (hop : (req i).op = .bulkUpdateRecords sessionId records recordIds) :
    MarkingAnswers env req i pcs (solo pcs i db ws (.upserting schoolId n (items.map fun item =>
        (item, Attendance.resolveStudentId db schoolId item.enrollmentId)))) db
      (Attendance.markedRows (req i).ctx db schoolId sessionId recordIds n items >>= fun rows =>
        eachRecord upsertRecord (after ws db) rows >>= fun db' =>
          db'.audit env (req i).ctx (Attendance.bulkEntry sessionId records)) := by
  induction items generalizing n ws with
  | nil =>
    refine .next ?_
    simp only [MarkingSys.step, solo_pc, hop, MarkingSys.nextBulk, solo_goto, List.map_nil,
      Attendance.markedRows, eachRecord, pure_bind]
    exact answers_written
  | cons item items ih =>
    rw [markedRows_each]
    refine .next ?_
    simp only [MarkingSys.step, solo_pc, hop, MarkingSys.nextBulk, List.map_cons]
    cases Attendance.markedRow (req i).ctx schoolId sessionId (recordIds n) item
        (Attendance.resolveStudentId db schoolId item.enrollmentId) with
    | error e => exact answers_fail e
    | ok row =>
      simp only [ok_bind]
      refine answers_exec (t := upsertMark row) ?_
      rintro ws' _ rfl _
      exact ih

end Bulk

lemma get_of_expect {ctx : RequestContext} {sessionId : Ulid}
    {states : List AttendanceSessionStatus} {refusal : ApiError} {version : ℕ}
    {old : AttendanceSession}
    (h : Attendance.expect ctx db sessionId states refusal version = .ok old) :
    db.attendanceSessions.get old.id = some old :=
  Table.get_eq_some.mpr ⟨(sessionOwned_ok (expect_ok.mp h).1).2.1, rfl⟩

lemma get_of_locate {ctx : RequestContext} {recordId : Ulid} {p : Ulid × AttendanceMark}
    (h : Attendance.locate ctx db recordId = .ok p) :
    db.attendanceRecords.get p.2.id = some p.2 ∧ p.2.id = recordId := by
  obtain ⟨schoolId, _, h⟩ := bind_ok.mp h
  obtain ⟨record, hrecord, h⟩ := bind_ok.mp h
  obtain rfl := pure_ok.mp h
  obtain ⟨hmem, hid⟩ := Table.get_eq_some.mp (Option.filter_eq_some_iff.mp (found_ok.mp hrecord)).1
  exact ⟨Table.get_eq_some.mpr ⟨hmem, rfl⟩, hid⟩

/-- **The two levels agree**: a request whose statements run alone leaves and answers what it does
when it is taken as one step. -/
theorem marking_alone (env : SchoolEnv) (req : ι → MarkingRequest) (i : ι) (pcs : ι → MarkingPc)
    (db : SchoolDB) :
    MarkingAnswers env req i pcs (solo pcs i db [] .start) db ((req i).call.handle env db) := by
  refine .next ?_
  unfold AttendanceCall.handle MarkingRequest.call
  cases h : (req i).op with
  | submitSession sessionId version eventId =>
    -- The session, its flush, the event, and the audit row.
    simp only [MarkingSys.step, solo_pc, h, MarkingSys.nextSubmit, MarkingOp.whole, solo_view,
      after_nil, Attendance.submitSession, map_bind, map_pure, bind_pure]
    refine answers_ask fun old hexpect => .next ?_
    simp only [MarkingSys.step, solo_pc, h, MarkingSys.nextSubmit]
    refine answers_flushSession (get_of_expect hexpect) fun ws _ hws => .next ?_
    subst hws
    simp only [MarkingSys.step, solo_pc, h, MarkingSys.nextSubmit]
    refine answers_exec (t := insertEvent _ _) fun ws' _ hws' _ => ?_
    subst hws'
    exact answers_written
  | amendSession sessionId version =>
    simp only [MarkingSys.step, solo_pc, h, MarkingSys.nextAmend, MarkingOp.whole, solo_view,
      after_nil, Attendance.amendSession, map_bind, map_pure, bind_pure]
    refine answers_ask fun old hexpect => .next ?_
    simp only [MarkingSys.step, solo_pc, h, MarkingSys.nextAmend]
    refine answers_flushSession (get_of_expect hexpect) fun ws _ hws => ?_
    subst hws
    exact answers_written
  | updateRecord recordId data =>
    -- The record, the check of its session, the flush, and the audit row.
    have hreads : Attendance.updateRecord env (req i).ctx db recordId data =
        Attendance.locate (req i).ctx db recordId >>= fun p =>
          Attendance.unlock db p.1 p.2 >>= fun _ =>
            saveRecord db p.2 (Attendance.remarked (req i).ctx p.2 data) >>= fun db' =>
              db'.audit env (req i).ctx (Attendance.recordEntry recordId p.2
                (Attendance.remarked (req i).ctx p.2 data)) >>= fun db' =>
                  pure (Attendance.remarked (req i).ctx p.2 data, db') := by
      simp only [Attendance.updateRecord, Attendance.locate, Attendance.unlock, bind_assoc,
        pure_bind, Attendance.recordEntry]
    simp only [MarkingSys.step, solo_pc, h, MarkingSys.nextUpdate, MarkingOp.whole, solo_view,
      after_nil, hreads, map_bind, map_pure, bind_pure]
    refine answers_ask fun p hlocate => .next ?_
    simp only [MarkingSys.step, solo_pc, h, MarkingSys.nextUpdate, solo_view, after_nil]
    refine answers_ask fun _ _ => .next ?_
    simp only [MarkingSys.step, solo_pc, h, MarkingSys.nextUpdate]
    refine answers_flushMark (get_of_locate hlocate).1 fun ws _ hws => ?_
    subst hws
    exact answers_written
  | bulkUpdateRecords sessionId records recordIds =>
    -- The check of the session, a student for each item, a row for each, and the audit row.
    have hreads : Attendance.bulkUpdateRecords env (req i).ctx db sessionId records recordIds =
        Attendance.openSession (req i).ctx db sessionId >>= fun schoolId =>
          Attendance.markedRows (req i).ctx db schoolId sessionId recordIds 0 records >>=
            fun rows => eachRecord upsertRecord db rows >>= fun db' =>
              db'.audit env (req i).ctx (Attendance.bulkEntry sessionId records) := by
      simp only [Attendance.bulkUpdateRecords, Attendance.openSession, bind_assoc, pure_bind,
        Attendance.bulkEntry]
    simp only [MarkingSys.step, solo_pc, h, MarkingSys.nextBulk, MarkingOp.whole, solo_view,
      after_nil, hreads]
    exact answers_ask fun schoolId _ => answers_resolving h (answers_upserting h)

end Alone

end SchoolOs
