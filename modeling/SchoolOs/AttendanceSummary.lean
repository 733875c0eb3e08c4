import SchoolOs.AttendanceMarks
import SchoolOs.Reports

/-!
The attendance summary over runs of requests on enrollments and attendance: every record of the
school is counted in one line, the line of its student.
-/

namespace SchoolOs

open Grouping Runs

/-! ### Records and their sessions -/

/-- The session is there, and is of the school. -/
def SessionOf (sessions : Table AttendanceSession.id) (sessionId schoolId : Ulid) : Prop :=
  ∃ s ∈ sessions, s.id = sessionId ∧ s.schoolId = schoolId

/-- Every record is in a session of its school, and no enrollment has two in a session. -/
structure RecordsKept (db : SchoolDB) : Prop where
  inSession : ∀ r ∈ db.attendanceRecords, SessionOf db.attendanceSessions r.sessionId r.schoolId
  apart : db.attendanceRecords.Excludes SameEntry

section Rows

variable {env : SchoolEnv} {ctx : RequestContext} {clk : Clock} {db db' : SchoolDB}
  {row : AttendanceMark} {rows : List AttendanceMark} {Q : Ulid → Ulid → Prop}

/-- What records say of their session and school, when it holds of the rows that are written. -/
lemma insertRecord_columns (h : insertRecord db row = .ok db')
    (hdb : ∀ r ∈ db.attendanceRecords, Q r.sessionId r.schoolId)
    (hrow : Q row.sessionId row.schoolId) :
    ∀ r ∈ db'.attendanceRecords, Q r.sessionId r.schoolId := by
  obtain ⟨_, _, h⟩ := bind_ok.mp h
  obtain ⟨records, hinsert, h⟩ := bind_ok.mp h
  obtain ⟨_, _, h⟩ := bind_ok.mp h
  obtain ⟨_, _, h⟩ := bind_ok.mp h
  obtain rfl := pure_ok.mp h
  intro r hr
  rcases (Table.mem_of_insert (found_ok.mp hinsert)).mp hr with hold | rfl
  · exact hdb r hold
  · exact hrow

lemma upsertRecord_columns (h : upsertRecord db row = .ok db')
    (hdb : ∀ r ∈ db.attendanceRecords, Q r.sessionId r.schoolId)
    (hrow : Q row.sessionId row.schoolId) :
    ∀ r ∈ db'.attendanceRecords, Q r.sessionId r.schoolId := by
  unfold upsertRecord at h
  split at h
  · exact insertRecord_columns h hdb hrow
  · next old hold =>
    obtain ⟨_, _, h⟩ := bind_ok.mp h
    obtain rfl := pure_ok.mp h
    intro r hr
    rcases Table.mem_put.mp hr with ⟨hkept, _⟩ | ⟨rfl, _⟩
    · exact hdb r hkept
    · exact hdb old (List.mem_of_find?_eq_some hold)

lemma eachRecord_columns {write : SchoolDB → AttendanceMark → Fallible SchoolDB}
    (hwrite : ∀ d row d', write d row = .ok d' →
      (∀ r ∈ d.attendanceRecords, Q r.sessionId r.schoolId) → Q row.sessionId row.schoolId →
      ∀ r ∈ d'.attendanceRecords, Q r.sessionId r.schoolId)
    (h : eachRecord write db rows = .ok db')
    (hdb : ∀ r ∈ db.attendanceRecords, Q r.sessionId r.schoolId)
    (hrows : ∀ row ∈ rows, Q row.sessionId row.schoolId) :
    ∀ r ∈ db'.attendanceRecords, Q r.sessionId r.schoolId := by
  induction rows generalizing db with
  | nil =>
    obtain rfl := pure_ok.mp h
    exact hdb
  | cons row rows ih =>
    obtain ⟨hrow, hrest⟩ := List.forall_mem_cons.mp hrows
    obtain ⟨db1, hone, h⟩ := bind_ok.mp h
    exact ih h (hwrite db row db1 hone hdb hrow) hrest

lemma RecordsKept.of_sessions (h : RecordsKept db)
    (hrecords : db'.attendanceRecords = db.attendanceRecords)
    (hsessions : ∀ s ∈ db.attendanceSessions, ∃ s' ∈ db'.attendanceSessions,
      s'.id = s.id ∧ s'.schoolId = s.schoolId) : RecordsKept db' := by
  refine ⟨?_, hrecords ▸ h.apart⟩
  rw [hrecords]
  intro r hr
  obtain ⟨s, hs, hid, hschool⟩ := h.inSession r hr
  obtain ⟨s', hs', hid', hschool'⟩ := hsessions s hs
  exact ⟨s', hs', hid'.trans hid, hschool'.trans hschool⟩

lemma RecordsKept.put_session (h : RecordsKept db) {old new : AttendanceSession}
    (hold : old ∈ db.attendanceSessions) (hid : old.id = new.id)
    (hschool : new.schoolId = old.schoolId) :
    RecordsKept { db with attendanceSessions := db.attendanceSessions.put new } :=
  h.of_sessions rfl (kept_put AttendanceSession.schoolId hold hid hschool)

lemma RecordsKept.flush_session (h : RecordsKept db) {old new : AttendanceSession}
    (hold : old ∈ db.attendanceSessions) (hid : old.id = new.id)
    (hschool : new.schoolId = old.schoolId) :
    RecordsKept { db with
      attendanceSessions := db.attendanceSessions.put (flushed .touch old new) } := by
  have hid' : (flushed AttendanceSession.touch old new).id = new.id :=
    flushed_col AttendanceSession.touch AttendanceSession.id (fun _ => rfl) old new
  have hschool' : (flushed AttendanceSession.touch old new).schoolId = new.schoolId :=
    flushed_col AttendanceSession.touch AttendanceSession.schoolId (fun _ => rfl) old new
  exact h.put_session hold (hid.trans hid'.symm) (hschool'.trans hschool)

end Rows

/-! ### What requests keep -/

section Requests

variable {env : SchoolEnv} {ctx : RequestContext} {clk : Clock} {db db' : SchoolDB}
  {op : AttendanceOp}

lemma attendanceEffect_kept (h : RecordsKept db) (heffect : AttendanceEffect ctx clk db op db') :
    RecordsKept db' := by
  cases heffect with
  | @createSession schoolId organizationId data id recordIds db1 _ hschool hinsert hrecords =>
    obtain ⟨sessions, hrow, rfl⟩ := insertSession_ok hinsert
    have hmem := fun s => Table.mem_of_insert hrow (x := s)
    have hframe := eachRecord_frame (fun _ _ _ => insertRecord_frame) hrecords
    have hwritten := eachRecord_written (fun _ _ _ => insertRecord_written) hrecords
    have hstart : RecordsKept { db with attendanceSessions := sessions } :=
      h.of_sessions rfl fun s hs => ⟨s, (hmem s).mpr (.inl hs), rfl, rfl⟩
    -- Each record is of the new session or was there.
    have hcolumns : ∀ r ∈ db'.attendanceRecords, SessionOf sessions r.sessionId r.schoolId := by
      refine eachRecord_columns (fun _ _ _ => insertRecord_columns) hrecords hstart.inSession ?_
      intro row hlisted
      obtain ⟨p, _, rfl⟩ := List.mem_map.mp hlisted
      exact ⟨_, (hmem _).mpr (.inr rfl), rfl, rfl⟩
    rw [hframe]
    exact ⟨hcolumns, hwritten.apart hstart.apart⟩
  | updateSession howned hstatus =>
    obtain ⟨_, hmem, _⟩ := sessionOwned_ok howned
    exact h.flush_session hmem rfl rfl
  | deleteSession howned hstatus =>
    refine ⟨fun r hr => ?_, ?_⟩
    · -- A record that is left is in a session that is left.
      obtain ⟨hold, hother⟩ := Table.mem_deleteWhere.mp hr
      obtain ⟨s, hs, hid, hschool⟩ := h.inSession r hold
      refine ⟨s, Table.mem_delete.mpr ⟨hs, ?_⟩, hid, hschool⟩
      rw [hid]
      exact of_decide_eq_false hother
    · intro a ha b hb
      exact h.apart a (Table.mem_deleteWhere.mp ha).1 b (Table.mem_deleteWhere.mp hb).1
  | submitSession howned hstatus hinsert =>
    obtain ⟨_, hmem, _⟩ := sessionOwned_ok howned
    have hput := @RecordsKept.put_session _ h _ (Attendance.submitted ctx clk _).touch hmem rfl rfl
    exact ⟨hput.inSession, hput.apart⟩
  | amendSession howned hstatus =>
    obtain ⟨_, hmem, _⟩ := sessionOwned_ok howned
    exact h.flush_session hmem rfl rfl
  | @updateRecord _ _ _ record hschool hrecord =>
    obtain ⟨hget, _⟩ := Option.filter_eq_some_iff.mp hrecord
    obtain ⟨hold, rfl⟩ := Table.get_eq_some.mp hget
    refine ⟨fun r hr => ?_, h.apart.put sameEntry_symm fun a ha hne => ?_⟩
    · rcases Table.mem_put.mp hr with ⟨hkept, _⟩ | ⟨rfl, _⟩
      · exact h.inSession r hkept
      · exact h.inSession record hold
    · exact h.apart a ha record hold hne
  | @bulkUpdateRecords schoolId _ _ _ session rows _ hschool howned hrows hrecords =>
    obtain ⟨hctx, hmem, hid⟩ := sessionOwned_ok howned
    obtain rfl : schoolId = session.schoolId := Option.some.inj (hschool.symm.trans hctx)
    have hframe := eachRecord_frame (fun _ _ _ => upsertRecord_frame) hrecords
    have hwritten := eachRecord_written (fun _ _ _ => upsertRecord_written) hrecords
    have hcolumns : ∀ r ∈ db'.attendanceRecords,
        SessionOf db.attendanceSessions r.sessionId r.schoolId := by
      refine eachRecord_columns (fun _ _ _ => upsertRecord_columns) hrecords h.inSession ?_
      intro row hrow
      obtain ⟨hrowSchool, hrowSession, _⟩ := markedRows_ok hrows row hrow
      exact ⟨session, hmem, hid.trans hrowSession.symm, hrowSchool.symm⟩
    rw [hframe]
    exact ⟨hcolumns, hwritten.apart h.apart⟩

lemma registerStep_kept (env : SchoolEnv) (db : SchoolDB) (c : RegisterCall) (h : RecordsKept db) :
    RecordsKept (c.step env db) := by
  cases c with
  | enrollment c =>
    simp only [RegisterCall.step, EnrollmentCall.step]
    cases hok : c.handle env db with
    | error e => exact h
    | ok db' =>
      obtain ⟨_, core, hframe⟩ := enrollmentHandle_ok hok
      rw [hframe]
      exact ⟨h.inSession, h.apart⟩
  | attendance c =>
    simp only [RegisterCall.step, AttendanceCall.step]
    cases hok : c.handle env db with
    | error e => exact h
    | ok db' =>
      obtain ⟨db1, row, heffect, rfl⟩ := attendanceHandle_ok hok
      have hkept := attendanceEffect_kept h heffect
      exact ⟨hkept.inSession, hkept.apart⟩

/-- Over every run the records stay in sessions of their school, each enrollment once. -/
lemma recordsKept_run (env : SchoolEnv) (start : SchoolDB) (calls : List RegisterCall) :
    RecordsKept (run (RegisterCall.step env) start.withoutAttendance calls) := by
  have hstart : RecordsKept start.withoutAttendance :=
    ⟨fun _ hr => absurd hr Table.not_mem_empty, Table.excludes_empty⟩
  exact invariant_all (registerStep_kept env) hstart calls

end Requests

/-! ### The summary -/

namespace Reports

section Summary

variable {db : SchoolDB} {ctx : RequestContext} {schoolId : Ulid}

/-- The records of the school. -/
def recordsOf (db : SchoolDB) (schoolId : Ulid) : List AttendanceMark :=
  db.attendanceRecords.rows.filter fun r => r.schoolId = schoolId

/-- The join with the sessions neither loses a record of the school nor adds one. -/
lemma summarizedRecords_eq (h : RecordsKept db) (hctx : ctx.schoolId = some schoolId) :
    summarizedRecords db ctx schoolId = recordsOf db schoolId := by
  have hshown : shown AttendanceMark.schoolId ctx db.attendanceRecords.rows =
      recordsOf db schoolId := by
    rw [shown, hctx]
    rfl
  rw [summarizedRecords, hshown]
  refine List.filter_eq_self.mpr fun r hr => ?_
  obtain ⟨hmem, hschool⟩ := List.mem_filter.mp hr
  obtain ⟨s, hs, hid, hsschool⟩ := h.inSession r hmem
  rw [Table.get_eq_some.mpr ⟨hs, hid⟩, Option.any_some, hsschool]
  exact hschool

/-- What is counted record by record is counted once over the lines. -/
lemma sum_tally (status : AttendanceStatus) :
    ((summaries db ctx schoolId).map fun line => tally status line.2).sum =
      tally status (summarizedRecords db ctx schoolId) :=
  sum_groups rfl (fun _ _ => List.countP_append) _ _

lemma sum_length : ((summaries db ctx schoolId).map fun line => line.2.length).sum =
    (summarizedRecords db ctx schoolId).length :=
  sum_groups rfl (fun _ _ => List.length_append) _ _

lemma length_eq_tallies (records : List AttendanceMark) : records.length =
    tally .present records + tally .absent records + tally .late records +
      tally .excused records + tally .holiday records := by
  induction records with
  | nil => rfl
  | cons r records ih =>
    simp only [tally, List.length_cons, List.countP_cons] at ih ⊢
    cases r.status <;> simp <;> omega

end Summary

/-- **The attendance summary over runs**: one line for each student with a record in the school,
which counts the marks of the student's enrollments in sessions of the school, each once; a student
without two marks in a session has as many as there are sessions with one. Over all lines every
record of the school is counted. -/
theorem attendance_summary (env : SchoolEnv) (start : SchoolDB) (calls : List RegisterCall)
    (ctx : RequestContext) (schoolId : Ulid) (hctx : ctx.schoolId = some schoolId) :
    let db := run (RegisterCall.step env) start.withoutAttendance calls
    let lines := summaries db ctx schoolId
    (lines.map Prod.fst).Nodup ∧
    (∀ k, k ∈ lines.map Prod.fst ↔ ∃ r ∈ recordsOf db schoolId, r.studentId = k) ∧
    (∀ k records, (k, records) ∈ lines →
      records = (recordsOf db schoolId).filter (fun r => r.studentId = k) ∧
      (records.map fun r => (r.sessionId, r.enrollmentId)).Nodup ∧
      (db.attendanceRecords.Excludes SameMark →
        (records.map AttendanceMark.sessionId).Nodup) ∧
      records.length = tally .present records + tally .absent records + tally .late records +
        tally .excused records + tally .holiday records) ∧
    (lines.map fun line => line.2.length).sum = (recordsOf db schoolId).length ∧
    ∀ status, (lines.map fun line => tally status line.2).sum =
      tally status (recordsOf db schoolId) := by
  intro db lines
  have hkept : RecordsKept db := recordsKept_run env start calls
  have hjoin := summarizedRecords_eq hkept hctx
  refine ⟨nodup_groups, fun k => ?_, fun k records hline => ?_, ?_, fun status => ?_⟩
  · rw [← hjoin]
    exact mem_map_fst_groups
  · obtain ⟨hrecords, _⟩ := mem_groups.mp hline
    rw [hjoin, recordsOf, List.filter_filter] at hrecords
    refine ⟨?_, ?_, fun hmarks => ?_, length_eq_tallies records⟩
    · rw [hrecords, recordsOf, List.filter_filter]
    · rw [hrecords]
      exact hkept.apart.nodup_map (fun a b hsame => Prod.mk.inj hsame) _
    · -- The records are all of the student, so that the session tells them apart.
      have hstudent : ∀ r ∈ records, r.studentId = k := by
        intro r hr
        rw [hrecords] at hr
        exact of_decide_eq_true (Bool.and_eq_true_iff.mp (List.mem_filter.mp hr).2).1
      have hpairs : (records.map fun r => (r.sessionId, r.studentId)).Nodup := by
        rw [hrecords]
        exact hmarks.nodup_map (fun a b hsame => Prod.mk.inj hsame) _
      have hsame : records.map (fun r => (r.sessionId, r.studentId)) =
          (records.map AttendanceMark.sessionId).map fun s => (s, k) := by
        rw [List.map_map]
        exact List.map_congr_left fun r hr => by rw [hstudent r hr]; rfl
      rw [hsame] at hpairs
      exact List.Nodup.of_map _ hpairs
  · rw [← hjoin]
    exact sum_length
  · rw [← hjoin]
    exact sum_tally status

/-- The register of cohort 51 on one day. Its two students are enrolled, and one of them is late. -/
def lateCohort : List RegisterCall :=
  [.enrollment ⟨staff, .create ⟨71, 21, 31, 51, none, 738000, .regular, no_rollNumber⟩ 101⟩,
    .enrollment ⟨staff, .create ⟨72, 21, 31, 51, none, 738000, .regular, no_rollNumber⟩ 102⟩,
    .attendance ⟨staff, ⟨0, 0⟩, .createSession ⟨51, 21, 738100, none⟩ 111
      fun n => if n = 0 then 121 else 122, staff_user⟩,
    .attendance ⟨staff, ⟨0, 0⟩, .bulkUpdateRecords 111 [⟨102, .late, none, none⟩] fun _ => 123,
      staff_user⟩]

theorem attendance_summary_lateCohort :
    let db := run (RegisterCall.step .plain) smallSchool.withoutAttendance lateCohort
    (recordsOf db 11).length = 2 ∧
      ((summaries db staff 11).map fun line => line.2.length).sum = 2 ∧
      ((summaries db staff 11).map fun line => tally .late line.2).sum = 1 := by
  have hsums := (attendance_summary .plain smallSchool lateCohort staff 11 rfl).2.2.2
  have htwo : (recordsOf (run (RegisterCall.step .plain) smallSchool.withoutAttendance lateCohort)
      11).length = 2 := by decide +kernel
  have hlate : tally .late (recordsOf (run (RegisterCall.step .plain)
      smallSchool.withoutAttendance lateCohort) 11) = 1 := by decide +kernel
  exact ⟨htwo, hsums.1.trans htwo, (hsums.2 .late).trans hlate⟩

end Reports

end SchoolOs
