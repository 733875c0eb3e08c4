import SchoolOs.VersionedScripts

/-!
Versioned requests on the records of a school, one SQL statement at a time: enrollments and
attendance sessions, which are removed for good, and timetables, which are published.
-/

namespace SchoolOs

open ReadCommitted

/-! ### Enrollments -/

def enrollments : Shelf SchoolDB StudentEnrollment where
  id := StudentEnrollment.id
  version := StudentEnrollment.version
  touch := StudentEnrollment.touch
  rows := SchoolDB.enrollments
  place db rows := { db with enrollments := rows }
  log := SchoolDB.log
  rows_place _ _ := rfl
  rows_log _ _ := rfl
  id_touch _ := rfl
  version_touch _ := rfl

/-- What a request that carries a version may do to an enrollment. -/
inductive EnrollmentEdit
  | update (data : EnrollmentUpdate)
  | delete (version : ℕ)

/-- The row is removed. -/
def Enrollments.removed (e : StudentEnrollment) (db : SchoolDB) : SchoolDB :=
  { db with enrollments := db.enrollments.delete e.id }

/-- The `DELETE`, with the foreign key of the attendance records. -/
def Enrollments.remove (e : StudentEnrollment) (db : SchoolDB) : Fallible SchoolDB := do
  ensure (∀ r ∈ db.attendanceRecords, r.enrollmentId ≠ e.id) internalError
  return removed e db

namespace EnrollmentEdit

def version : EnrollmentEdit → ℕ
  | .update data => data.version
  | .delete version => version

def checks : EnrollmentEdit → StudentEnrollment → Fallible Unit
  | .update data, _ => ensure (data.status ≠ some none) internalError
  | .delete _, e => ensure (e.status = .active) (Enrollments.notActive "deleted")

def deletedEntry (e : StudentEnrollment) : AuditEntry :=
  { action := "ENROLLMENT_DELETED", entityType := "student_enrollment", entityId := some e.id,
    summary := some ("Enrollment " ++ e.id.repr ++ " deleted"),
    before := some (enrollmentSnapshot e) }

def rest (env : SchoolEnv) (ctx : RequestContext) (e : StudentEnrollment) :
    EnrollmentEdit → Script ApiError SchoolDB Ulid Unit
  | .update data =>
    let new := Enrollments.applied ctx e data
    enrollments.rewrite env ctx (Enrollments.updatedEntry e new) (Enrollments.save · e new) e new
  | .delete _ => do
    .exec (enrollments.guarded (Enrollments.remove e) (Enrollments.removed e) e)
    enrollments.logged env ctx (deletedEntry e)

def outcome (ctx : RequestContext) (e : StudentEnrollment) :
    EnrollmentEdit → Option StudentEnrollment
  | .update data => some (Enrollments.applied ctx e data).touch
  | .delete _ => none

/-- The service, as one function. -/
def serve (env : SchoolEnv) (ctx : RequestContext) (enrollmentId : Ulid) (db : SchoolDB) :
    EnrollmentEdit → Fallible SchoolDB
  | .update data => Prod.snd <$> Enrollments.update env ctx db enrollmentId data
  | .delete version => Enrollments.delete env ctx db enrollmentId version

end EnrollmentEdit

lemma Enrollments.save_ok {db db' : SchoolDB} {old new : StudentEnrollment}
    (h : save db old new = .ok db') (hne : new ≠ old) : db' = enrollments.written new db := by
  simp only [save, if_neg hne, bind_ok, pure_ok] at h
  obtain ⟨_, -, _, -, h⟩ := h
  exact h.symm

lemma Enrollments.remove_ok {db db' : SchoolDB} {e : StudentEnrollment}
    (h : remove e db = .ok db') : db' = removed e db := by
  simp only [remove, bind_ok, pure_ok] at h
  obtain ⟨_, -, h⟩ := h
  exact h.symm

abbrev enrollmentEntity : VersionedEntity where
  State := SchoolDB
  Row := StudentEnrollment
  Edit := EnrollmentEdit
  decEq := inferInstance
  shelf := enrollments
  carried := EnrollmentEdit.version
  reads ctx enrollmentId _ db := Enrollments.getOwned ctx db enrollmentId
  checks := EnrollmentEdit.checks
  rest env _ ctx edit e := edit.rest env ctx e
  outcome _ ctx edit e := edit.outcome ctx e
  get_of_reads h := get_of_owned h
  counts {_ _ edit _ _} h := by
    cases edit with
    | update data =>
      obtain rfl := Option.some.inj h
      rfl
    | delete version => cases h
  rest_ensures {_ _ _ _ edit _ e} hreads _ := by
    obtain rfl := (Table.get_eq_some.mp (get_of_owned hreads)).2
    cases edit with
    | update data => exact Shelf.ensures_rewrite rfl rfl
    | delete version => exact Shelf.ensures_removal rfl fun c _ => Table.get_delete_self

lemma run_enrollmentEntity (env : SchoolEnv) (clk : Clock) (ctx : RequestContext) (k : Ulid)
    (edit : EnrollmentEdit) (db : SchoolDB) :
    ((enrollmentEntity.request env clk ctx k edit).script staleResourceError).run db =
      (fun db' => ((), db')) <$> edit.serve env ctx k db := by
  cases edit with
  | update data =>
    refine (enrollmentEntity.run_script env clk ctx k (.update data) db (fun e =>
      Enrollments.save db e (Enrollments.applied ctx e data) >>= enrollments.audit env ctx
        (Enrollments.updatedEntry e (Enrollments.applied ctx e data)))
      fun e hget _ => Shelf.run_rewrite hget (fun heq => ?_) fun _ => Enrollments.save_ok).trans ?_
    · rw [heq]
      exact if_pos rfl
    · simp only [EnrollmentEdit.serve, Enrollments.update, map_bind, map_pure, bind_pure]
      rfl
  | delete version =>
    refine (enrollmentEntity.run_script env clk ctx k (.delete version) db (fun e =>
      Enrollments.remove e db >>= enrollments.audit env ctx (EnrollmentEdit.deletedEntry e))
      fun e hget _ =>
        Shelf.run_then_logged (Shelf.run_guarded hget fun _ => Enrollments.remove_ok)).trans ?_
    simp only [EnrollmentEdit.serve, Enrollments.delete, Enrollments.remove, bind_assoc, map_bind]
    refine bind_congr_ok fun e howned => ?_
    obtain rfl := (Table.get_eq_some.mp (get_of_owned howned)).2
    rfl

/-! ### Attendance sessions -/

def sessions : Shelf SchoolDB AttendanceSession where
  id := AttendanceSession.id
  version := AttendanceSession.version
  touch := AttendanceSession.touch
  rows := SchoolDB.attendanceSessions
  place db rows := { db with attendanceSessions := rows }
  log := SchoolDB.log
  rows_place _ _ := rfl
  rows_log _ _ := rfl
  id_touch _ := rfl
  version_touch _ := rfl

/-- What a request that carries a version may do to an attendance session. -/
inductive SessionEdit
  | update (data : AttendanceSessionUpdate)
  | delete (version : ℕ)
  | submit (version : ℕ) (eventId : Ulid)
  | amend (version : ℕ)

/-- The session is removed, and its records with it. -/
def Attendance.removed (session : AttendanceSession) (db : SchoolDB) : SchoolDB :=
  { db with
    attendanceSessions := db.attendanceSessions.delete session.id
    attendanceRecords := db.attendanceRecords.deleteWhere (·.sessionId = session.id) }

/-- A row of the outbox. -/
def SchoolDB.enqueued (e : NewEvent) (db : SchoolDB) : SchoolDB :=
  { db with outboxEvents := (db.outboxEvents.insert e.row).getD db.outboxEvents }

/-- The insert of a row of the outbox, at the commit. -/
def enqueuing (ctx : RequestContext) (e : NewEvent) : Script ApiError SchoolDB Ulid Unit :=
  .exec {
    locks := [e.id]
    finds _ := return
    admits db := (fun _ => ()) <$> db.publish ctx e
    effect := SchoolDB.enqueued e }

lemma run_enqueuing (ctx : RequestContext) (e : NewEvent) (db : SchoolDB) :
    (enqueuing ctx e).run db = (fun db' => ((), db')) <$> db.publish ctx e := by
  rw [enqueuing, Script.run_exec]
  simp only [Dml.run, pure_bind]
  cases h : db.publish ctx e with
  | error e => rfl
  | ok db' =>
    simp only [SchoolDB.publish, bind_ok, found_ok, pure_ok] at h
    obtain ⟨_, -, rows, hrows, rfl⟩ := h
    simp [SchoolDB.enqueued, hrows, bind, Except.bind, pure, Except.pure]

namespace SessionEdit

def version : SessionEdit → ℕ
  | .update data => data.version
  | .delete version => version
  | .submit version _ => version
  | .amend version => version

/-- The states that the operation takes, and the answer to others. -/
def takes : SessionEdit → List AttendanceSessionStatus × ApiError
  | .update _ => ([.draft], Attendance.notEditable)
  | .delete _ => ([.draft], Attendance.notDeletable)
  | .submit _ _ => ([.draft], Attendance.notSubmittable)
  | .amend _ => ([.submitted, .amended], Attendance.notAmendable)

/-- The status is looked at before the version. -/
def reads (ctx : RequestContext) (sessionId : Ulid) (edit : SessionEdit) (db : SchoolDB) :
    Fallible AttendanceSession := do
  let session ← Attendance.getOwned ctx db sessionId
  ensure (session.status ∈ edit.takes.1) edit.takes.2
  return session

/-- The row as the request leaves it, unless it removes it. -/
def changed (clk : Clock) (ctx : RequestContext) (session : AttendanceSession) :
    SessionEdit → AttendanceSession
  | .update data => Attendance.applied ctx session data
  | .delete _ => session
  | .submit _ _ => Attendance.submitted ctx clk session
  | .amend _ => Attendance.amended ctx session

def rest (env : SchoolEnv) (clk : Clock) (ctx : RequestContext) (edit : SessionEdit)
    (session : AttendanceSession) : Script ApiError SchoolDB Ulid Unit :=
  let new := edit.changed clk ctx session
  let save := fun db => saveSession db session new
  match edit with
  | .update _ => sessions.rewrite env ctx
      (Attendance.changedEntry "ATTENDANCE_SESSION_UPDATED" "updated" session new) save session new
  | .delete _ => do
    .exec (sessions.guarded (removeSession · ctx session) (Attendance.removed session) session)
    sessions.logged env ctx
      { action := "ATTENDANCE_SESSION_DELETED", entityType := "attendance_session",
        entityId := some session.id,
        summary := some ("Attendance session " ++ session.id.text ++ " deleted"),
        before := some (sessionSnapshot session) }
  | .submit _ eventId => do
    sessions.flush save session new
    enqueuing ctx (Attendance.submittedEvent ctx clk session eventId)
    sessions.logged env ctx
      (Attendance.changedEntry "ATTENDANCE_SESSION_SUBMITTED" "submitted" session new)
  | .amend _ => sessions.rewrite env ctx
      (Attendance.changedEntry "ATTENDANCE_SESSION_AMENDED" "amended" session new) save session new

def outcome (clk : Clock) (ctx : RequestContext) (edit : SessionEdit)
    (session : AttendanceSession) : Option AttendanceSession :=
  match edit with
  | .delete _ => none
  | edit => some (edit.changed clk ctx session).touch

/-- The service, as one function. -/
def serve (env : SchoolEnv) (clk : Clock) (ctx : RequestContext) (sessionId : Ulid)
    (db : SchoolDB) : SessionEdit → Fallible SchoolDB
  | .update data => Prod.snd <$> Attendance.updateSession env ctx db sessionId data
  | .delete version => Attendance.deleteSession env ctx db sessionId version
  | .submit version eventId =>
    Prod.snd <$> Attendance.submitSession env ctx db clk sessionId version eventId
  | .amend version => Prod.snd <$> Attendance.amendSession env ctx db sessionId version

end SessionEdit

lemma saveSession_written {db db' : SchoolDB} {old new : AttendanceSession}
    (h : saveSession db old new = .ok db') (hne : new ≠ old) : db' = sessions.written new db := by
  simp only [saveSession, if_neg hne, bind_ok, pure_ok] at h
  obtain ⟨_, -, h⟩ := h
  exact h.symm

lemma removeSession_removed {ctx : RequestContext} {db db' : SchoolDB}
    {session : AttendanceSession} (h : removeSession db ctx session = .ok db') :
    db' = Attendance.removed session db := by
  simp only [removeSession, bind_ok, pure_ok] at h
  obtain ⟨_, -, h⟩ := h
  exact h.symm

lemma SessionEdit.get_of_reads {ctx : RequestContext} {sessionId : Ulid} {edit : SessionEdit}
    {db : SchoolDB} {session : AttendanceSession}
    (h : edit.reads ctx sessionId db = .ok session) :
    db.attendanceSessions.get sessionId = some session := by
  obtain ⟨_, howned, h⟩ := bind_ok.mp h
  obtain ⟨_, -, h⟩ := bind_ok.mp h
  obtain rfl := pure_ok.mp h
  exact get_of_owned howned

abbrev sessionEntity : VersionedEntity where
  State := SchoolDB
  Row := AttendanceSession
  Edit := SessionEdit
  decEq := inferInstance
  shelf := sessions
  carried := SessionEdit.version
  reads ctx sessionId edit db := edit.reads ctx sessionId db
  checks _ _ := return
  rest := SessionEdit.rest
  outcome := SessionEdit.outcome
  get_of_reads := SessionEdit.get_of_reads
  counts {_ _ edit _ _} h := by
    cases edit with
    | delete version => cases h
    | _ =>
      obtain rfl := Option.some.inj h
      rfl
  rest_ensures {_ clk ctx _ edit _ session} hreads _ := by
    obtain rfl := (Table.get_eq_some.mp (SessionEdit.get_of_reads hreads)).2
    cases edit with
    | update data => exact Shelf.ensures_rewrite rfl rfl
    | delete version => exact Shelf.ensures_removal rfl fun c _ => Table.get_delete_self
    | submit version eventId =>
      refine Script.ensures_bind VersionedRow.tolerant_rely
        (Q := fun _ => (sessions.row session.id).Leaves session
          (· = some (Attendance.submitted ctx clk session).touch))
        (Shelf.ensures_flush rfl rfl) fun _ => ?_
      refine Script.ensures_bind VersionedRow.tolerant_rely
        (VersionedRow.ensures_frame_leaves fun _ => rfl) fun _ => Shelf.ensures_logged
    | amend version => exact Shelf.ensures_rewrite rfl rfl

lemma saveSession_self (db : SchoolDB) (session : AttendanceSession) :
    saveSession db session session = .ok db := if_pos rfl

lemma run_flush_session {db : SchoolDB} {session new : AttendanceSession}
    (hget : db.attendanceSessions.get session.id = some session) :
    (sessions.flush (saveSession · session new) session new).run db =
      (fun db' => ((), db')) <$> saveSession db session new :=
  Shelf.run_flush hget (fun heq => by rw [heq, saveSession_self]) fun _ => saveSession_written

lemma run_sessionEntity (env : SchoolEnv) (clk : Clock) (ctx : RequestContext) (k : Ulid)
    (edit : SessionEdit) (db : SchoolDB) :
    ((sessionEntity.request env clk ctx k edit).script staleResourceError).run db =
      (fun db' => ((), db')) <$> edit.serve env clk ctx k db := by
  cases edit with
  | update data =>
    refine (sessionEntity.run_script env clk ctx k (.update data) db _ fun session hget _ =>
      Shelf.run_then_logged (run_flush_session hget)).trans ?_
    simp only [SessionEdit.serve, SessionEdit.reads, Attendance.updateSession, Attendance.expect,
      map_bind, map_pure, bind_pure, bind_assoc, pure_bind]
    rfl
  | delete version =>
    refine (sessionEntity.run_script env clk ctx k (.delete version) db _ fun session hget _ =>
      Shelf.run_then_logged (Shelf.run_guarded hget fun _ => removeSession_removed)).trans ?_
    simp only [SessionEdit.serve, SessionEdit.reads, Attendance.deleteSession, Attendance.expect,
      map_bind, bind_assoc, pure_bind]
    refine bind_congr_ok fun session howned => ?_
    obtain rfl := (Table.get_eq_some.mp (get_of_owned howned)).2
    rfl
  | submit version eventId =>
    refine (sessionEntity.run_script env clk ctx k (.submit version eventId) db _
      fun session hget _ => run_then (run_flush_session hget) fun db' =>
        Shelf.run_then_logged (run_enqueuing ctx _ db')).trans ?_
    simp only [SessionEdit.serve, SessionEdit.reads, Attendance.submitSession, Attendance.expect,
      map_bind, map_pure, bind_pure, bind_assoc, pure_bind]
    rfl
  | amend version =>
    refine (sessionEntity.run_script env clk ctx k (.amend version) db _ fun session hget _ =>
      Shelf.run_then_logged (run_flush_session hget)).trans ?_
    simp only [SessionEdit.serve, SessionEdit.reads, Attendance.amendSession, Attendance.expect,
      map_bind, map_pure, bind_pure, bind_assoc, pure_bind]
    rfl

/-! ### Timetables -/

def timetables : Shelf SchoolDB Timetable where
  id := Timetable.id
  version := Timetable.version
  touch := Timetable.touch
  rows := SchoolDB.timetables
  place db rows := { db with timetables := rows }
  log := SchoolDB.log
  rows_place _ _ := rfl
  rows_log _ _ := rfl
  id_touch _ := rfl
  version_touch _ := rfl

/-- What a request that carries a version may do to a timetable. -/
inductive TimetableEdit
  | update (data : TimetableUpdate)
  | publish (version : ℕ)
  | archive (version : ℕ)

namespace TimetableEdit

def version : TimetableEdit → ℕ
  | .update data => data.version
  | .publish version => version
  | .archive version => version

/-- The status is looked at before the version. -/
def checkStatus (tt : Timetable) : TimetableEdit → Fallible Unit
  | .update _ => ensure (tt.status = .draft) (invalidRequestErrorWith
      "Only DRAFT timetables can be updated." "TIMETABLE_NOT_DRAFT" [])
  | .publish _ => ensure (tt.status = .draft) (invalidRequestErrorWith
      "Only DRAFT timetables can be published." "TIMETABLE_NOT_DRAFT" [])
  | .archive _ => ensure (tt.status ≠ .archived) (invalidRequestErrorWith
      "This timetable is already archived." "TIMETABLE_ALREADY_ARCHIVED" [])

def reads (ctx : RequestContext) (timetableId : Ulid) (edit : TimetableEdit) (db : SchoolDB) :
    Fallible Timetable := do
  let tt ← Timetables.getOwned ctx db timetableId
  edit.checkStatus tt
  return tt

/-- The row as the request leaves it. -/
def changed (clk : Clock) (ctx : RequestContext) (tt : Timetable) : TimetableEdit → Timetable
  | .update data => { tt with name := data.name.getD tt.name, updatedById := ctx.userId }
  | .publish _ => Timetables.published clk ctx tt
  | .archive _ => Timetables.archived clk ctx tt

def action : TimetableEdit → String
  | .update _ => "TIMETABLE_UPDATED"
  | .publish _ => "TIMETABLE_PUBLISHED"
  | .archive _ => "TIMETABLE_ARCHIVED"

def verb : TimetableEdit → String
  | .update _ => "updated"
  | .publish _ => "published"
  | .archive _ => "archived"

/-- The row and its audit row. -/
def rewriting (env : SchoolEnv) (clk : Clock) (ctx : RequestContext) (edit : TimetableEdit)
    (tt : Timetable) : Script ApiError SchoolDB Ulid Unit :=
  let new := edit.changed clk ctx tt
  timetables.rewrite env ctx (Timetables.changedEntry env edit.action edit.verb tt new)
    (Timetables.save · tt new) tt new

/-- Archive the timetable published so far, if there is one. -/
def replacing (env : SchoolEnv) (clk : Clock) (ctx : RequestContext) (tt : Timetable) :
    Option Timetable → Script ApiError SchoolDB Ulid Unit
  | none => pure ()
  | some old =>
    let new := Timetables.archived clk ctx old
    timetables.rewrite env ctx (Timetables.replacedEntry env tt old new)
      (Timetables.save · old new) old new

def rest (env : SchoolEnv) (clk : Clock) (ctx : RequestContext) (edit : TimetableEdit)
    (tt : Timetable) : Script ApiError SchoolDB Ulid Unit :=
  match edit with
  | .publish _ => do
    let conflicts ← .look fun db => .ok (findConflicts env db tt.id tt.schoolId)
    if conflicts ≠ [] then pure ()
    else do
      let existing ← .look fun db =>
        .ok (getPublishedTimetableForYear db tt.schoolId tt.academicYearId tt.id)
      replacing env clk ctx tt existing
      edit.rewriting env clk ctx tt
  | _ => edit.rewriting env clk ctx tt

/-- The service, as one function. -/
def serve (env : SchoolEnv) (clk : Clock) (ctx : RequestContext) (timetableId : Ulid)
    (db : SchoolDB) : TimetableEdit → Fallible SchoolDB
  | .update data => Prod.snd <$> Timetables.update env ctx db timetableId data
  | .publish version => Prod.snd <$> Timetables.publish env clk ctx db timetableId version
  | .archive version => Prod.snd <$> Timetables.archive env clk ctx db timetableId version

lemma get_of_reads {ctx : RequestContext} {timetableId : Ulid} {edit : TimetableEdit}
    {db : SchoolDB} {tt : Timetable} (h : edit.reads ctx timetableId db = .ok tt) :
    db.timetables.get timetableId = some tt := by
  obtain ⟨_, howned, h⟩ := bind_ok.mp h
  obtain ⟨_, -, h⟩ := bind_ok.mp h
  obtain rfl := pure_ok.mp h
  exact get_of_owned howned

/-- What is published in the place of another timetable is not that timetable. -/
lemma ensures_publish {env : SchoolEnv} {clk : Clock} {ctx : RequestContext} {tt : Timetable}
    (version : ℕ) : ((publish version).rest env clk ctx tt).Ensures (timetables.row tt.id).Rely
      ((timetables.row tt.id).Before tt) (fun _ => (timetables.row tt.id).Leaves tt
        (· = some (Timetables.published clk ctx tt).touch)) VersionedRow.Any := by
  refine Script.ensures_bind VersionedRow.tolerant_rely VersionedRow.ensures_query
    fun conflicts => ?_
  split
  · exact VersionedRow.ensures_done
  refine Script.ensures_bind VersionedRow.tolerant_rely VersionedRow.ensures_look
    fun existing => ?_
  rintro ws c ⟨⟨db, hexisting⟩, hbefore⟩
  refine Script.ensures_bind VersionedRow.tolerant_rely
    (Q := fun _ => (timetables.row tt.id).Before tt) ?_ (fun _ => ?_) ws c hbefore
  · cases existing with
    | none => exact VersionedRow.ensures_skip
    | some old =>
      obtain ⟨-, -, -, -, hne⟩ := published_mem (Except.ok.inj hexisting)
      exact Shelf.ensures_rewrite_other hne rfl
  · exact Shelf.ensures_rewrite rfl rfl

end TimetableEdit

abbrev timetableEntity : VersionedEntity where
  State := SchoolDB
  Row := Timetable
  Edit := TimetableEdit
  decEq := inferInstance
  shelf := timetables
  carried := TimetableEdit.version
  reads ctx timetableId edit db := edit.reads ctx timetableId db
  checks _ _ := return
  rest := TimetableEdit.rest
  outcome clk ctx edit tt := some (edit.changed clk ctx tt).touch
  get_of_reads := TimetableEdit.get_of_reads
  counts {_ _ edit _ _} h := by
    obtain rfl := Option.some.inj h
    cases edit <;> rfl
  rest_ensures {_ _ _ _ edit _ _} hreads _ := by
    obtain rfl := (Table.get_eq_some.mp (TimetableEdit.get_of_reads hreads)).2
    cases edit with
    | update data => exact Shelf.ensures_rewrite rfl rfl
    | publish version => exact TimetableEdit.ensures_publish version
    | archive version => exact Shelf.ensures_rewrite rfl rfl

lemma Timetables.save_ok {db db' : SchoolDB} {old new : Timetable}
    (h : save db old new = .ok db') (hne : new ≠ old) : db' = timetables.written new db := by
  simp only [save, bind_ok, pure_ok, flushed, if_neg hne] at h
  obtain ⟨_, -, h⟩ := h
  exact h.symm

lemma Timetables.save_self {db : SchoolDB} {tt : Timetable}
    (hget : db.timetables.get tt.id = some tt) (hname : bindable tt.name = true) :
    save db tt tt = .ok db := by
  simp only [save, flushed, if_true, ensure, hname, Table.put_self (Table.get_eq_some.mp hget).1]
  rfl

/-- The names of the timetables that are stored can be bound. -/
def TimetablesStored (db : SchoolDB) : Prop := ∀ tt ∈ db.timetables, bindable tt.name = true

lemma run_rewriting {env : SchoolEnv} {ctx : RequestContext} {entry : AuditEntry} {db : SchoolDB}
    {tt new : Timetable} (hget : db.timetables.get tt.id = some tt)
    (hname : bindable tt.name = true) :
    (timetables.rewrite env ctx entry (Timetables.save · tt new) tt new).run db =
      (fun db' => ((), db')) <$> (Timetables.save db tt new >>= fun db' =>
        db'.audit env ctx entry) :=
  Shelf.run_rewrite hget (fun heq => by rw [heq, Timetables.save_self hget hname])
    fun _ => Timetables.save_ok

/-- A publish after its comparison, as one function. -/
def TimetableEdit.publishRow (env : SchoolEnv) (clk : Clock) (ctx : RequestContext)
    (db : SchoolDB) (tt : Timetable) : Fallible SchoolDB :=
  if findConflicts env db tt.id tt.schoolId ≠ [] then .ok db
  else do
    let db ← Timetables.replacePublished env clk ctx db tt
      (getPublishedTimetableForYear db tt.schoolId tt.academicYearId tt.id)
    let db ← Timetables.save db tt (Timetables.published clk ctx tt)
    db.audit env ctx (Timetables.changedEntry env "TIMETABLE_PUBLISHED" "published" tt
      (Timetables.published clk ctx tt))

lemma TimetableEdit.run_placing {env : SchoolEnv} {clk : Clock} {ctx : RequestContext}
    {db : SchoolDB} (hdb : TimetablesStored db) {tt : Timetable}
    (hget : db.timetables.get tt.id = some tt) (version : ℕ) {existing : Option Timetable}
    (hexisting : getPublishedTimetableForYear db tt.schoolId tt.academicYearId tt.id = existing) :
    (replacing env clk ctx tt existing >>= fun _ =>
      (publish version).rewriting env clk ctx tt).run db = (fun db' => ((), db')) <$> (do
        let db ← Timetables.replacePublished env clk ctx db tt existing
        let db ← Timetables.save db tt (Timetables.published clk ctx tt)
        db.audit env ctx (Timetables.changedEntry env "TIMETABLE_PUBLISHED" "published" tt
          (Timetables.published clk ctx tt))) := by
  have hname := hdb tt (Table.get_eq_some.mp hget).1
  cases existing with
  | none => exact run_rewriting hget hname
  | some old =>
    obtain ⟨hold, -, -, -, hne⟩ := published_mem hexisting
    have hreplace : (replacing env clk ctx tt (some old)).run db =
        (fun db' => ((), db')) <$> Timetables.replacePublished env clk ctx db tt (some old) :=
      run_rewriting (Table.get_eq_some.mpr ⟨hold, rfl⟩) (hdb old hold)
    rw [Script.run_bind, hreplace]
    cases h : Timetables.replacePublished env clk ctx db tt (some old) with
    | error e => rfl
    | ok db' =>
      obtain ⟨db'', hsave, haudit⟩ := bind_ok.mp h
      obtain ⟨-, rfl⟩ := schoolAudit_ok.mp haudit
      have hget' : db''.timetables.get tt.id = some tt :=
        save_get (show (Timetables.archived clk ctx old).id = old.id from rfl) hne.symm hget hsave
      exact run_rewriting hget' hname

lemma TimetableEdit.run_publish {env : SchoolEnv} {clk : Clock} {ctx : RequestContext}
    {db : SchoolDB} (hdb : TimetablesStored db) {tt : Timetable}
    (hget : db.timetables.get tt.id = some tt) (version : ℕ) :
    ((publish version).rest env clk ctx tt).run db =
      (fun db' => ((), db')) <$> publishRow env clk ctx db tt := by
  change (Script.look _ >>= fun _ => _).run db = _
  rw [Script.run_bind, Script.run_look, publishRow]
  simp only [Except.map_ok, ok_bind]
  split
  · rfl
  · exact run_placing hdb hget version rfl

lemma run_timetableEntity (env : SchoolEnv) (clk : Clock) (ctx : RequestContext) (k : Ulid)
    (edit : TimetableEdit) {db : SchoolDB} (hdb : TimetablesStored db) :
    ((timetableEntity.request env clk ctx k edit).script staleResourceError).run db =
      (fun db' => ((), db')) <$> edit.serve env clk ctx k db := by
  have hname := fun tt (hget : db.timetables.get tt.id = some tt) =>
    hdb tt (Table.get_eq_some.mp hget).1
  cases edit with
  | update data =>
    refine (timetableEntity.run_script env clk ctx k (.update data) db _ fun tt hget _ =>
      run_rewriting hget (hname tt hget)).trans ?_
    simp only [TimetableEdit.serve, TimetableEdit.reads, Timetables.update, map_bind, map_pure,
      bind_pure, bind_assoc, pure_bind]
    rfl
  | archive version =>
    refine (timetableEntity.run_script env clk ctx k (.archive version) db _ fun tt hget _ =>
      run_rewriting hget (hname tt hget)).trans ?_
    simp only [TimetableEdit.serve, TimetableEdit.reads, Timetables.archive, map_bind, map_pure,
      bind_pure, bind_assoc, pure_bind]
    rfl
  | publish version =>
    refine (timetableEntity.run_script env clk ctx k (.publish version) db _ fun tt hget _ =>
      TimetableEdit.run_publish hdb hget version).trans ?_
    simp only [TimetableEdit.serve, TimetableEdit.reads, Timetables.publish_eq, map_bind,
      bind_assoc, pure_bind, TimetableEdit.publishRow]
    refine bind_congr_ok fun tt howned => ?_
    obtain rfl := (Table.get_eq_some.mp (get_of_owned howned)).2
    refine bind_congr fun _ => bind_congr fun _ => ?_
    split
    · -- The conflicts are answered.
      rfl
    · -- The timetable is published.
      simp only [map_bind, map_pure]
      rfl

end SchoolOs
