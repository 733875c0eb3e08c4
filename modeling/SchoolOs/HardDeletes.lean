import SchoolOs.Handled
import SchoolOs.AttendanceMarks
import SchoolOs.Timetables

/-!
Requests that remove a row: sessions in draft, ACTIVE enrollments, period definitions. When each
commits, or is refused with an error of its own.
-/

namespace SchoolOs

open Runs

/-! ### Requests -/

inductive DeleteOp
  | session (sessionId : Ulid) (version : ℕ)
  | enrollment (enrollmentId : Ulid) (version : ℕ)
  | period (periodId : Ulid)

/-- A request that removes a row, with its context. -/
structure DeleteCall where
  ctx : RequestContext
  op : DeleteOp

def DeleteCall.handle (env : SchoolEnv) (db : SchoolDB) (c : DeleteCall) : Fallible SchoolDB :=
  match c.op with
  | .session sessionId version => Attendance.deleteSession env c.ctx db sessionId version
  | .enrollment enrollmentId version => Enrollments.delete env c.ctx db enrollmentId version
  | .period periodId => do
    let period ← Periods.getOwned c.ctx db periodId
    Periods.delete env c.ctx db period

/-- A failed request leaves no trace. -/
def DeleteCall.step (env : SchoolEnv) (db : SchoolDB) (c : DeleteCall) : SchoolDB :=
  match c.handle env db with
  | .ok db' => db'
  | .error _ => db

/-! ### The law -/

/-- The database without the row and its own dependent rows: the records of a session. -/
def DeleteOp.removed (db : SchoolDB) : DeleteOp → SchoolDB
  | .session sessionId _ => { db with
      attendanceSessions := db.attendanceSessions.delete sessionId
      attendanceRecords := db.attendanceRecords.deleteWhere (·.sessionId = sessionId) }
  | .enrollment enrollmentId _ => { db with enrollments := db.enrollments.delete enrollmentId }
  | .period periodId => { db with periodDefinitions := db.periodDefinitions.delete periodId }

/-- **The request respects references**: it commits the removal, beside the audit log, or it is
refused with an error of its own and leaves the database as it was. -/
def DeleteCall.Respects (env : SchoolEnv) (db : SchoolDB) (c : DeleteCall) : Prop :=
  (∃ row, c.handle env db = .ok ((c.op.removed db).log row)) ∨
    ∃ e, c.handle env db = .error e ∧ e ≠ internalError ∧ c.step env db = db

/-- The row of the request has no dependents that stop the removal without an error of its own, and
the audit log takes its row: no record of the session, of the school of the request; no record of
the enrollment; a slot in the period that the request sees, or none. -/
def DeleteCall.Free (env : SchoolEnv) (db : SchoolDB) (c : DeleteCall) : Prop :=
  match c.op with
  | .session sessionId version => ∀ s ∈ db.attendanceSessions, s.id = sessionId →
      c.ctx.schoolId = some s.schoolId → s.status = .draft → s.version = version →
      (∀ r ∈ db.attendanceRecords, r.schoolId = s.schoolId → r.sessionId ≠ sessionId) ∧
        env.Admits (auditRow c.ctx
          { action := "ATTENDANCE_SESSION_DELETED", entityType := "attendance_session",
            entityId := some sessionId,
            summary := some ("Attendance session " ++ sessionId.text ++ " deleted"),
            before := some (sessionSnapshot s) })
  | .enrollment enrollmentId version => ∀ e ∈ db.enrollments, e.id = enrollmentId →
      c.ctx.schoolId = some e.schoolId → e.status = .active → e.version = version →
      (∀ r ∈ db.attendanceRecords, r.enrollmentId ≠ enrollmentId) ∧
        env.Admits (auditRow c.ctx
          { action := "ENROLLMENT_DELETED", entityType := "student_enrollment",
            entityId := some enrollmentId,
            summary := some ("Enrollment " ++ enrollmentId.repr ++ " deleted"),
            before := some (enrollmentSnapshot e) })
  | .period periodId => ∀ p ∈ db.periodDefinitions, p.id = periodId →
      c.ctx.schoolId = some p.schoolId →
      (∀ s ∈ db.timetableSlots, s.schoolId = p.schoolId → s.periodDefinitionId ≠ periodId) →
      (∀ s ∈ db.timetableSlots, s.periodDefinitionId ≠ periodId) ∧
        env.Admits (auditRow c.ctx
          { action := "PERIOD_DEFINITION_DELETED", entityType := "period_definition",
            entityId := some periodId,
            summary := some ("Period definition " ++ env.repr p.name ++ " deleted"),
            before := some (periodSnapshot p) })

section Law

variable {env : SchoolEnv} {ctx : RequestContext} {db : SchoolDB}

lemma respects_iff_handled {c : DeleteCall} : c.Respects env db ↔
    Handled (c.handle env db) fun db' => ∃ row, db' = (c.op.removed db).log row := by
  unfold DeleteCall.Respects DeleteCall.step Handled
  cases c.handle env db with
  | ok db' => simp
  | error e => simp

/-- The rows of a table that a request sees are those of its school. -/
lemma forall_shown {ρ : Type} {school : ρ → Ulid} {rows : List ρ} {s : Ulid} {P : ρ → Prop}
    (h : ctx.schoolId = some s) :
    (∀ r ∈ shown school ctx rows, P r) ↔ ∀ r ∈ rows, school r = s → P r := by
  simp only [mem_shown h, and_imp]

lemma handled_owned {ρ : Type} {key : ρ → Ulid} (school : ρ → Ulid) {t : Table key} {k : Ulid}
    {e e' : ApiError} {P : ρ → Prop} (he : e ≠ internalError) (he' : e' ≠ internalError) :
    Handled (found ctx.schoolId e >>= fun schoolId =>
        found ((t.get k).filter fun r => school r = schoolId) e') P ↔
      ∀ r ∈ t, key r = k → ctx.schoolId = some (school r) → P r := by
  simp only [handled_bind, handled_found he, handled_found he', Option.filter_eq_some_iff,
    Table.get_eq_some, decide_eq_true_eq]
  constructor
  · intro h r hr hk hschool
    exact h _ hschool r ⟨⟨hr, hk⟩, rfl⟩
  · rintro h s hs r ⟨⟨hr, hk⟩, rfl⟩
    exact h r hr hk hs

/-- **Sessions**: the records that come with a session stop its removal. -/
lemma sessionDelete_respects_iff {sessionId : Ulid} {version : ℕ} :
    DeleteCall.Respects env db ⟨ctx, .session sessionId version⟩ ↔
      DeleteCall.Free env db ⟨ctx, .session sessionId version⟩ := by
  rw [respects_iff_handled]
  unfold DeleteCall.Free
  have hnotFound : Attendance.sessionNotFound ≠ internalError := notFoundError_ne
  have hrefusal : Attendance.notDeletable ≠ internalError :=
    ne_internalError (by simp [Attendance.notDeletable, forbiddenError])
  simp only [DeleteCall.handle, Attendance.deleteSession, Attendance.expect, handled_bind,
    handled_ensure hrefusal, handled_ensure staleResourceError_ne, handled_pure]
  refine (handled_owned AttendanceSession.schoolId hnotFound hnotFound).trans ?_
  refine forall₄_congr fun s hs hid hschool => ?_
  subst hid
  simp only [removeSession, handled_bind, handled_ensure_internal, handled_pure, handled_audit,
    forall_shown hschool, List.mem_singleton]
  refine forall₂_congr fun _ _ => and_congr_right fun _ => and_iff_left ⟨_, rfl⟩

/-- **Enrollments**: the records of an enrollment stop its removal. -/
lemma enrollmentDelete_respects_iff {enrollmentId : Ulid} {version : ℕ} :
    DeleteCall.Respects env db ⟨ctx, .enrollment enrollmentId version⟩ ↔
      DeleteCall.Free env db ⟨ctx, .enrollment enrollmentId version⟩ := by
  rw [respects_iff_handled]
  unfold DeleteCall.Free
  have hnotFound : Enrollments.notFound ≠ internalError := notFoundError_ne
  have hnoSchool : noSchool ≠ internalError := invalidRequestError_ne
  have hrefusal : Enrollments.notActive "deleted" ≠ internalError := conflictError_ne
  simp only [DeleteCall.handle, Enrollments.delete, handled_bind, handled_ensure hrefusal,
    handled_ensure staleResourceError_ne, handled_ensure_internal, handled_audit]
  refine (handled_owned StudentEnrollment.schoolId hnoSchool hnotFound).trans ?_
  refine forall₄_congr fun e he hid hschool => ?_
  subst hid
  rw [imp.swap]
  refine forall₂_congr fun _ _ => and_congr_right fun _ => and_iff_left ⟨_, rfl⟩

/-- **Period definitions**: slots stop the removal, those of the school with an error of its
own. -/
lemma periodDelete_respects_iff {periodId : Ulid} :
    DeleteCall.Respects env db ⟨ctx, .period periodId⟩ ↔
      DeleteCall.Free env db ⟨ctx, .period periodId⟩ := by
  rw [respects_iff_handled]
  unfold DeleteCall.Free
  have hnotFound : periodNotFound ≠ internalError := notFoundError_ne
  simp only [DeleteCall.handle, Periods.delete, handled_bind, handled_ensure conflictError_ne,
    handled_ensure_internal, handled_audit]
  refine (handled_owned PeriodDefinition.schoolId hnotFound hnotFound).trans ?_
  refine forall₄_congr fun p hp hid hschool => ?_
  subst hid
  rw [forall_shown hschool]
  refine forall_congr' fun _ => and_congr_right fun _ => and_iff_left ⟨_, rfl⟩

/-- **Hard deletes respect references exactly when no dependent row is in their way**, in every
state. -/
theorem deletes_respect_iff (env : SchoolEnv) (db : SchoolDB) (c : DeleteCall) :
    c.Respects env db ↔ c.Free env db := by
  obtain ⟨ctx, op⟩ := c
  cases op with
  | session sessionId version => exact sessionDelete_respects_iff
  | enrollment enrollmentId version => exact enrollmentDelete_respects_iff
  | period periodId => exact periodDelete_respects_iff

end Law

/-- Open the session of a cohort with a student in it. -/
def openWithStudent : List RegisterCall :=
  [.enrollment ⟨staff, .create ⟨71, 21, 31, 51, none, 738000, .regular, no_rollNumber⟩ 101⟩,
    .attendance ⟨staff, ⟨0, 0⟩, .createSession ⟨51, 21, 738100, none⟩ 111 fun _ => 121, staff_user⟩]

/-- The session in draft, and the enrollment, cannot be deleted: the database refuses. -/
theorem openWithStudent_stuck : ¬ ∀ (env : SchoolEnv) (db : SchoolDB) (l : List RegisterCall)
    (c : DeleteCall), c.Respects env (run (RegisterCall.step env) db.withoutAttendance l) := by
  intro h
  have hrespects := h .plain smallSchool openWithStudent ⟨staff, .session 111 1⟩
  have herror : DeleteCall.handle .plain (run (RegisterCall.step .plain)
      smallSchool.withoutAttendance openWithStudent) ⟨staff, .session 111 1⟩ =
        .error internalError := by decide +kernel
  rw [DeleteCall.Respects, herror] at hrespects
  rcases hrespects with ⟨row, hok⟩ | ⟨e, he, hne, _⟩
  · cases hok
  · exact hne (Except.error.inj he).symm

end SchoolOs
