import SchoolOs.Within

/-!
Tenant isolation of writes: over every run, requests of other schools leave the rows of a school as
they are.
-/

namespace SchoolOs

open Runs

variable {env : SchoolEnv} {ctx : RequestContext} {clk : Clock} {s : Ulid} {db db' : SchoolDB}

/-! ### Registers -/

lemma untouched_sessions {t : Table AttendanceSession.id}
    (h : Spares s ctx AttendanceSession.schoolId db.attendanceSessions t) :
    Untouched s ctx db { db with attendanceSessions := t } :=
  fun hs => by simp [SchoolDB.rowsOf, h hs]

lemma untouched_records {t : Table AttendanceMark.id}
    (h : Spares s ctx AttendanceMark.schoolId db.attendanceRecords t) :
    Untouched s ctx db { db with attendanceRecords := t } :=
  fun hs => by simp [SchoolDB.rowsOf, h hs]

lemma insertSession_untouched {session : AttendanceSession}
    (hctx : ctx.schoolId = some session.schoolId) :
    Yields (insertSession db session) (Untouched s ctx db) := by
  simp only [insertSession, yields_bind, yields_found, yields_ensure, yields_pure]
  exact fun _ _ hinsert _ => untouched_sessions (spares_insert hinsert hctx)

lemma saveSession_untouched {old new : AttendanceSession} (hold : old ∈ db.attendanceSessions)
    (hid : old.id = new.id) (hschool : new.schoolId = old.schoolId)
    (hctx : ctx.schoolId = some old.schoolId) :
    Yields (saveSession db old new) (Untouched s ctx db) := by
  simp only [saveSession, yields_ite, yields_bind, yields_ensure, yields_pure]
  exact ⟨fun _ => .refl db, fun _ _ => untouched_sessions (spares_put hold hid hschool hctx)⟩

/-- No record of another school goes with the session, for records are of the school of theirs. -/
lemma removeSession_untouched (h : RecordsKept db) {session : AttendanceSession}
    (hmem : session ∈ db.attendanceSessions) (hctx : ctx.schoolId = some session.schoolId) :
    Yields (removeSession db ctx session) (Untouched s ctx db) := by
  simp only [removeSession, yields_bind, yields_ensure, yields_pure]
  have hsessions := untouched_sessions (s := s) (spares_delete hmem hctx)
  refine fun _ => hsessions.trans (untouched_records fun hs => ?_)
  refine Table.rowsOf_deleteWhere fun r hr hsession => ?_
  obtain ⟨session', hmem', hid, hschool⟩ := h.inSession r hr
  obtain rfl := Table.eq_of_key hmem' hmem (hid.trans (of_decide_eq_true hsession))
  exact hschool ▸ ne_of_school hctx hs

lemma insertRecord_untouched {record : AttendanceMark}
    (hctx : ctx.schoolId = some record.schoolId) :
    Yields (insertRecord db record) (Untouched s ctx db) := by
  simp only [insertRecord, yields_bind, yields_found, yields_ensure, yields_ensureAbsent,
    yields_pure]
  exact fun _ _ hinsert _ _ => untouched_records (spares_insert hinsert hctx)

/-- The row that is there is of the school too, or row security refuses. -/
lemma upsertRecord_untouched {record : AttendanceMark}
    (hctx : ctx.schoolId = some record.schoolId) :
    Yields (upsertRecord db record) (Untouched s ctx db) := by
  unfold upsertRecord
  split
  · exact insertRecord_untouched hctx
  · next old hold =>
    simp only [yields_bind, yields_ensure, yields_pure]
    intro hsame
    have hmem : old ∈ db.attendanceRecords := List.mem_of_find?_eq_some hold
    exact untouched_records (spares_put hmem rfl rfl (hsame.2 ▸ hctx))

lemma saveRecord_untouched {old new : AttendanceMark} (hold : old ∈ db.attendanceRecords)
    (hid : old.id = new.id) (hschool : new.schoolId = old.schoolId)
    (hctx : ctx.schoolId = some old.schoolId) :
    Yields (saveRecord db old new) (Untouched s ctx db) := by
  simp only [saveRecord, yields_ite, yields_bind, yields_ensure, yields_pure]
  exact ⟨fun _ => .refl db, fun _ _ => untouched_records (spares_put hold hid hschool hctx)⟩

lemma eachRecord_untouched {write : SchoolDB → AttendanceMark → Fallible SchoolDB}
    (hwrite : ∀ d row, ctx.schoolId = some row.schoolId → Yields (write d row) (Untouched s ctx d))
    {rows : List AttendanceMark} (hrows : ∀ row ∈ rows, ctx.schoolId = some row.schoolId) :
    Yields (eachRecord write db rows) (Untouched s ctx db) := by
  induction rows generalizing db with
  | nil => exact yields_pure.mpr (.refl db)
  | cons row rows ih =>
    obtain ⟨hrow, hrest⟩ := List.forall_mem_cons.mp hrows
    simp only [eachRecord, yields_bind]
    refine Yields.imp (hwrite db row hrow) fun db1 hone => ?_
    exact Yields.imp (ih hrest) fun _ h => hone.trans h

lemma publish_untouched {e : NewEvent} (he : e.schoolId = ctx.schoolId) :
    Yields (db.publish ctx e) (Untouched s ctx db) := by
  simp only [SchoolDB.publish, yields_bind, yields_found, yields_ensure, yields_pure]
  intro _ _ hinsert hs
  have hrow : e.row.schoolId ≠ some s := fun h => hs (he.symm.trans h)
  simp [SchoolDB.rowsOf, Table.rowsOf_insert hinsert hrow]

/-- **Requests on attendance** leave other schools alone, while records are in sessions of their
school. -/
lemma attendance_untouched (h : RecordsKept db) (c : AttendanceCall) :
    Yields (c.handle env db) (Untouched s c.ctx db) := by
  obtain ⟨ctx, clk, op, user⟩ := c
  cases op with
  | createSession data id recordIds =>
    simp only [AttendanceCall.handle, Attendance.createSession, yields_map, yields_bind,
      yields_found, yields_ensureAbsent, yields_audit, yields_pure]
    intro schoolId hctx _ organizationId _
    refine Yields.imp (insertSession_untouched (s := s) hctx) fun db1 hsession => ?_
    have hlisted : ∀ row ∈ (getActiveEnrollmentsForCohort db1 schoolId data.cohortId
        data.sessionDate).zipIdx.map fun p => Attendance.listed ctx
          (Attendance.opened ctx schoolId organizationId data id) (recordIds p.2) p.1,
        ctx.schoolId = some row.schoolId := by
      -- The rows of a new session are of the school of the request.
      intro row hrow
      obtain ⟨p, _, rfl⟩ := List.mem_map.mp hrow
      exact hctx
    exact Yields.imp (eachRecord_untouched (fun _ _ => insertRecord_untouched) hlisted)
      fun _ hrecords _ => (hsession.trans hrecords).log _
  | updateSession sessionId data =>
    simp only [AttendanceCall.handle, Attendance.updateSession, yields_map, yields_bind,
      yields_audit, yields_pure]
    intro session hexpected
    obtain ⟨hctx, hmem, _⟩ := sessionOwned_ok (expect_ok.mp hexpected).1
    exact Yields.imp (saveSession_untouched hmem rfl rfl hctx) fun _ h _ => h.log _
  | deleteSession sessionId version =>
    simp only [AttendanceCall.handle, Attendance.deleteSession, yields_bind, yields_audit]
    intro session hexpected
    obtain ⟨hctx, hmem, _⟩ := sessionOwned_ok (expect_ok.mp hexpected).1
    exact Yields.imp (removeSession_untouched h hmem hctx) fun _ h _ => h.log _
  | submitSession sessionId version eventId =>
    simp only [AttendanceCall.handle, Attendance.submitSession, yields_map, yields_bind,
      yields_audit, yields_pure]
    intro session hexpected
    obtain ⟨hctx, hmem, _⟩ := sessionOwned_ok (expect_ok.mp hexpected).1
    refine Yields.imp (saveSession_untouched (s := s) hmem rfl rfl hctx) fun db1 hsaved => ?_
    exact Yields.imp (publish_untouched rfl) fun _ h _ => (hsaved.trans h).log _
  | amendSession sessionId version =>
    simp only [AttendanceCall.handle, Attendance.amendSession, yields_map, yields_bind,
      yields_audit, yields_pure]
    intro session hexpected
    obtain ⟨hctx, hmem, _⟩ := sessionOwned_ok (expect_ok.mp hexpected).1
    exact Yields.imp (saveSession_untouched hmem rfl rfl hctx) fun _ h _ => h.log _
  | updateRecord recordId data =>
    simp only [AttendanceCall.handle, Attendance.updateRecord, yields_map, yields_bind,
      yields_found, yields_ensure, yields_audit, yields_pure]
    intro schoolId hctx record hrecord _ _ _
    obtain ⟨hget, hschool⟩ := Option.filter_eq_some_iff.mp hrecord
    obtain rfl := of_decide_eq_true hschool
    have hmem := (Table.get_eq_some.mp hget).1
    exact Yields.imp (saveRecord_untouched hmem rfl rfl hctx) fun _ h _ => h.log _
  | bulkUpdateRecords sessionId items recordIds =>
    simp only [AttendanceCall.handle, Attendance.bulkUpdateRecords, yields_bind, yields_found,
      yields_ensure, yields_audit]
    intro schoolId hctx _ _ _ rows hrows
    -- So are those of a bulk update.
    have hmarked : ∀ row ∈ rows, ctx.schoolId = some row.schoolId := fun row hrow =>
      (markedRows_ok hrows row hrow).1 ▸ hctx
    exact Yields.imp (eachRecord_untouched (fun _ _ => upsertRecord_untouched) hmarked)
      fun _ h _ => h.log _

/-! ### Runs -/

/-- What a request is not of the attendance, it does within its school. -/
lemma school_cases (c : SchoolCall) :
    (∃ a, c = .attendance a) ∨ ∀ s db, Yields (c.handle env db) (Within s c.ctx db) := by
  cases c with
  | key c => exact .inr fun _ _ => key_within c
  | person c => exact .inr fun _ _ => person_within c
  | assignment c => exact .inr fun _ _ => assignment_within c
  | classSubject c => exact .inr fun _ _ => classSubject_within c
  | enrollment c => exact .inr fun _ _ => enrollment_within c
  | timetable c => exact .inr fun _ _ => timetable_within c
  | period c => exact .inr fun _ _ => period_within c
  | slot c => exact .inr fun _ _ => slot_within c
  | attendance c => exact .inl ⟨c, rfl⟩

lemma school_kept (db : SchoolDB) (c : SchoolCall) (h : RecordsKept db) :
    RecordsKept (c.step env db) := by
  rcases @school_cases env c with ⟨a, rfl⟩ | hwithin
  · exact registerStep_kept env db (.attendance a) h
  · unfold SchoolCall.step
    split
    · next db' hok =>
      -- The registers stay, whichever school is looked at.
      have hdb := hwithin 0 db db' hok
      exact h.of_sessions hdb.records fun r hr => ⟨r, hdb.sessions ▸ hr, rfl, rfl⟩
    · exact h

lemma school_untouched (h : RecordsKept db) (c : SchoolCall) :
    Untouched s c.ctx db (c.step env db) := by
  unfold SchoolCall.step
  split
  · next db' hok =>
    rcases @school_cases env c with ⟨a, rfl⟩ | hwithin
    · exact attendance_untouched h a db' hok
    · exact (hwithin s db db' hok).others
  · exact .refl db

/-- **Schools are apart**: whatever requests of other schools and of no school do after a run, the
rows of a school are those that the run left. -/
theorem schools_apart (env : SchoolEnv) (start : SchoolDB) (before after : List SchoolCall)
    (s : Ulid) (hothers : ∀ c ∈ after, c.ctx.schoolId ≠ some s) :
    (run (SchoolCall.step env) start.withoutAttendance (before ++ after)).rowsOf s =
      (run (SchoolCall.step env) start.withoutAttendance before).rowsOf s := by
  have hstart : RecordsKept start.withoutAttendance :=
    ⟨fun _ hr => absurd hr Table.not_mem_empty, Table.excludes_empty⟩
  have hkept : RecordsKept (run (SchoolCall.step env) start.withoutAttendance before) :=
    invariant_all school_kept hstart before
  have hpart : ∀ (db : SchoolDB) (c : SchoolCall), c.ctx.schoolId ≠ some s → RecordsKept db →
      (c.step env db).rowsOf s = db.rowsOf s :=
    fun _ c hc h => school_untouched h c hc
  rw [run_append]
  exact relates (R := fun db db' : SchoolDB => db'.rowsOf s = db.rowsOf s) (fun _ => rfl)
    (fun h h' => h'.trans h) (fun db c _ => school_kept db c) hpart (along_of_mem hothers _) hkept

/-- A small school, and another one beside it. -/
def oneBeside : SchoolDB :=
  { smallSchool with
    core := { DB.empty with schools := [⟨11, 101, .active, none⟩, ⟨12, 101, .active, none⟩] } }

/-- A request on subjects. -/
def onSubject (schoolId : Ulid) (op : RowOp SubjectCreate SubjectUpdate) : SchoolCall :=
  .key { ctx := { staff with schoolId := some schoolId }, clk := ⟨0, 0⟩, op := .subject op }

def chemistry : SubjectCreate where
  code := "S2"
  name := "Chemistry"
  description := none
  subjectType := .core
  status := .active
  code_length := by decide
  name_length := by decide
  description_length := fun _ h => absurd h (Option.not_mem_none _)

/-- One school adds a subject, then the other one adds its own and goes for that of the first. -/
theorem schools_apart_oneBeside :
    (run (SchoolCall.step .plain) oneBeside.withoutAttendance
      ([onSubject 11 (.create chemistry 42)] ++
        [onSubject 12 (.create chemistry 43), onSubject 12 (.delete 42 1)])).rowsOf 11 =
    (run (SchoolCall.step .plain) oneBeside.withoutAttendance
      [onSubject 11 (.create chemistry 42)]).rowsOf 11 :=
  schools_apart .plain oneBeside _ _ 11 (by decide)

end SchoolOs
