import SchoolOs.AttendanceLifecycle

/-!
One mark for each student of the cohort: which requests on enrollments and attendance keep the
records of a session to enrollments of its cohort, and each student to one of them.
-/

namespace SchoolOs

open Runs

/-! ### Marks -/

/-- The record belongs to an enrollment of the cohort of its session, and to its student. -/
def AttendanceMark.OfCohort (db : SchoolDB) (r : AttendanceMark) : Prop :=
  ∃ s ∈ db.attendanceSessions, s.id = r.sessionId ∧ ∃ e ∈ db.enrollments,
    e.id = r.enrollmentId ∧ e.cohortId = s.cohortId ∧ e.studentId = r.studentId

instance (db : SchoolDB) (r : AttendanceMark) : Decidable (r.OfCohort db) :=
  inferInstanceAs (Decidable (∃ s ∈ db.attendanceSessions, _ ∧ ∃ e ∈ db.enrollments, _ ∧ _ ∧ _))

/-- Two records of a student in a session. -/
def SameMark (a b : AttendanceMark) : Prop :=
  a.sessionId = b.sessionId ∧ a.studentId = b.studentId

instance : DecidableRel SameMark := fun a b =>
  inferInstanceAs (Decidable (a.sessionId = b.sessionId ∧ a.studentId = b.studentId))

/-- Every record is of its cohort, and no student has two in a session. -/
def MarksInOrder (db : SchoolDB) : Prop :=
  (∀ r ∈ db.attendanceRecords, r.OfCohort db) ∧ db.attendanceRecords.Excludes SameMark

instance (db : SchoolDB) : Decidable (MarksInOrder db) :=
  inferInstanceAs (Decidable ((∀ r ∈ db.attendanceRecords, _) ∧ _))

/-- What a record refers to. -/
def AttendanceMark.refs (r : AttendanceMark) : Ulid × Ulid × Ulid × Ulid :=
  (r.id, r.sessionId, r.enrollmentId, r.studentId)

lemma refs_eq {r r' : AttendanceMark} : r.refs = r'.refs ↔ r.id = r'.id ∧
    r.sessionId = r'.sessionId ∧ r.enrollmentId = r'.enrollmentId ∧
    r.studentId = r'.studentId := by
  simp [AttendanceMark.refs]

section Kept

variable {db db' : SchoolDB}

/-- Records that keep what they refer to, and that keep their sessions and enrollments, stay in
order. -/
lemma MarksInOrder.of_kept (h : MarksInOrder db)
    (hrecords : ∀ r ∈ db'.attendanceRecords, ∃ old ∈ db.attendanceRecords, old.refs = r.refs)
    (hsessions : ∀ s ∈ db.attendanceSessions, ∀ r ∈ db'.attendanceRecords, r.sessionId = s.id →
      ∃ s' ∈ db'.attendanceSessions, s'.id = s.id ∧ s'.cohortId = s.cohortId)
    (henrollments : ∀ e ∈ db.enrollments, ∀ r ∈ db'.attendanceRecords, r.enrollmentId = e.id →
      ∃ e' ∈ db'.enrollments, e'.id = e.id ∧ e'.cohortId = e.cohortId ∧
        e'.studentId = e.studentId) : MarksInOrder db' := by
  constructor
  · intro r hr
    obtain ⟨old, hold, hrefs⟩ := hrecords r hr
    obtain ⟨_, hsession, henrollment, hstudent⟩ := refs_eq.mp hrefs
    obtain ⟨s, hs, hsid, e, he, heid, hcohort, hestudent⟩ := h.1 old hold
    obtain ⟨s', hs', hsid', hcohort'⟩ := hsessions s hs r hr (hsession.symm.trans hsid.symm)
    obtain ⟨e', he', heid', hecohort, hestudent'⟩ :=
      henrollments e he r hr (henrollment.symm.trans heid.symm)
    exact ⟨s', hs', hsid'.trans (hsid.trans hsession), e', he',
      heid'.trans (heid.trans henrollment), (hecohort.trans hcohort).trans hcohort'.symm,
      (hestudent'.trans hestudent).trans hstudent⟩
  · intro a ha b hb hne hsame
    obtain ⟨a', ha', harefs⟩ := hrecords a ha
    obtain ⟨b', hb', hbrefs⟩ := hrecords b hb
    obtain ⟨haid, hasession, _, hastudent⟩ := refs_eq.mp harefs
    obtain ⟨hbid, hbsession, _, hbstudent⟩ := refs_eq.mp hbrefs
    refine h.2 a' ha' b' hb' ?_ ⟨?_, ?_⟩
    · rwa [haid, hbid]
    · rw [hasession, hbsession, hsame.1]
    · rw [hastudent, hbstudent, hsame.2]

/-- Records as they were, and sessions and enrollments that keep their cohorts and students. -/
lemma MarksInOrder.of_rows (h : MarksInOrder db)
    (hrecords : db'.attendanceRecords = db.attendanceRecords)
    (hsessions : ∀ s ∈ db.attendanceSessions, ∃ s' ∈ db'.attendanceSessions,
      s'.id = s.id ∧ s'.cohortId = s.cohortId)
    (henrollments : ∀ e ∈ db.enrollments, ∀ r ∈ db.attendanceRecords, r.enrollmentId = e.id →
      ∃ e' ∈ db'.enrollments, e'.id = e.id ∧ e'.cohortId = e.cohortId ∧
        e'.studentId = e.studentId) : MarksInOrder db' := by
  refine h.of_kept ?_ (fun s hs _ _ _ => hsessions s hs) ?_
  · rw [hrecords]
    exact fun r hr => ⟨r, hr, rfl⟩
  · rw [hrecords]
    exact henrollments

lemma kept_put {ρ γ : Type} {key : ρ → Ulid} {t : Table key} {old row : ρ} (col : ρ → γ)
    (hold : old ∈ t) (hid : key old = key row) (hcol : col row = col old) :
    ∀ r ∈ t, ∃ r' ∈ t.put row, key r' = key r ∧ col r' = col r := by
  intro r hr
  by_cases hsame : key r = key row
  · obtain rfl := Table.eq_of_key hr hold (hsame.trans hid.symm)
    exact ⟨row, Table.mem_put.mpr (.inr ⟨rfl, r, hr, hsame⟩), hsame.symm, hcol⟩
  · exact ⟨r, Table.mem_put.mpr (.inl ⟨hr, hsame⟩), rfl, rfl⟩

end Kept

/-! ### Rows written one after another -/

/-- Two records of an enrollment in a session. -/
def SameEntry (a b : AttendanceMark) : Prop :=
  a.sessionId = b.sessionId ∧ a.enrollmentId = b.enrollmentId

lemma sameEntry_symm (a b : AttendanceMark) (h : SameEntry a b) : SameEntry b a :=
  ⟨h.1.symm, h.2.symm⟩

/-- The records after the rows were written: those that were there keep what they refer to, the
others refer to what one of the rows does, and each row has its record. -/
structure RecordsWritten (t t' : Table AttendanceMark.id) (rows : List AttendanceMark) : Prop where
  kept : ∀ r ∈ t, ∃ r' ∈ t', r'.refs = r.refs
  origin : ∀ r' ∈ t', (∃ r ∈ t, r'.refs = r.refs) ∨ ∃ row ∈ rows, r'.refs = row.refs
  there : ∀ row ∈ rows, ∃ r' ∈ t', SameEntry r' row
  apart : t.Excludes SameEntry → t'.Excludes SameEntry

section Written

variable {t t1 t2 : Table AttendanceMark.id} {row : AttendanceMark} {rows : List AttendanceMark}
  {db db' : SchoolDB}

lemma RecordsWritten.refl (t : Table AttendanceMark.id) : RecordsWritten t t [] where
  kept := fun r hr => ⟨r, hr, rfl⟩
  origin := fun r hr => .inl ⟨r, hr, rfl⟩
  there := fun _ hrow => absurd hrow List.not_mem_nil
  apart := fun h => h

lemma RecordsWritten.cons (h : RecordsWritten t t1 [row]) (h' : RecordsWritten t1 t2 rows) :
    RecordsWritten t t2 (row :: rows) where
  kept := by
    intro r hr
    obtain ⟨r1, hr1, hrefs⟩ := h.kept r hr
    obtain ⟨r2, hr2, hrefs'⟩ := h'.kept r1 hr1
    exact ⟨r2, hr2, hrefs'.trans hrefs⟩
  origin := by
    intro r2 hr2
    rcases h'.origin r2 hr2 with ⟨r1, hr1, hrefs⟩ | ⟨row', hrow', hrefs⟩
    · rcases h.origin r1 hr1 with ⟨r, hr, hrefs'⟩ | ⟨row', hrow', hrefs'⟩
      · exact .inl ⟨r, hr, hrefs.trans hrefs'⟩
      · exact .inr ⟨row', List.mem_cons.mpr (.inl (List.mem_singleton.mp hrow')),
          hrefs.trans hrefs'⟩
    · exact .inr ⟨row', List.mem_cons_of_mem _ hrow', hrefs⟩
  there := by
    intro row' hrow'
    rcases List.mem_cons.mp hrow' with rfl | hrow'
    · obtain ⟨r1, hr1, hsession, henrollment⟩ := h.there row' (List.mem_singleton.mpr rfl)
      obtain ⟨r2, hr2, hrefs⟩ := h'.kept r1 hr1
      obtain ⟨_, hsession', henrollment', _⟩ := refs_eq.mp hrefs
      exact ⟨r2, hr2, hsession'.trans hsession, henrollment'.trans henrollment⟩
    · exact h'.there row' hrow'
  apart := fun hapart => h'.apart (h.apart hapart)

lemma insertRecord_written (h : insertRecord db row = .ok db') :
    RecordsWritten db.attendanceRecords db'.attendanceRecords [row] := by
  obtain ⟨_, _, h⟩ := bind_ok.mp h
  obtain ⟨records, hinsert, h⟩ := bind_ok.mp h
  obtain ⟨_, habsent, h⟩ := bind_ok.mp h
  obtain ⟨_, _, h⟩ := bind_ok.mp h
  obtain rfl := pure_ok.mp h
  have hmem := fun r => Table.mem_of_insert (found_ok.mp hinsert) (x := r)
  have hrow : row ∈ records := (hmem row).mpr (.inr rfl)
  refine ⟨fun r hr => ⟨r, (hmem r).mpr (.inl hr), rfl⟩, fun r hr => ?_, fun row' hrow' => ?_,
    fun hapart => ?_⟩
  · rcases (hmem r).mp hr with hr | rfl
    · exact .inl ⟨r, hr, rfl⟩
    · exact .inr ⟨r, List.mem_singleton.mpr rfl, rfl⟩
  · obtain rfl := List.mem_singleton.mp hrow'
    exact ⟨row', hrow, rfl, rfl⟩
  · refine (Table.excludes_insert sameEntry_symm (found_ok.mp hinsert)).mpr ⟨hapart, ?_⟩
    intro r hr hsame
    have hnone := List.find?_eq_none.mp (ensureAbsent_ok.mp habsent) r hr
    exact hnone (decide_eq_true hsame)

lemma upsertRecord_written (h : upsertRecord db row = .ok db') :
    RecordsWritten db.attendanceRecords db'.attendanceRecords [row] := by
  unfold upsertRecord at h
  split at h
  · exact insertRecord_written h
  · next old hold =>
    obtain ⟨_, _, h⟩ := bind_ok.mp h
    obtain rfl := pure_ok.mp h
    have hmem : old ∈ db.attendanceRecords := List.mem_of_find?_eq_some hold
    have hentry : SameEntry old row := by simpa [SameEntry] using List.find?_some hold
    have hkept : ∀ new : AttendanceMark, new.refs = old.refs → ∀ r ∈ db.attendanceRecords,
        ∃ r' ∈ db.attendanceRecords.put new, r'.refs = r.refs := by
      intro new hrefs r hr
      have hid := (refs_eq.mp hrefs).1
      obtain ⟨r', hr', _, hrefs'⟩ := kept_put AttendanceMark.refs hmem hid.symm hrefs r hr
      exact ⟨r', hr', hrefs'⟩
    refine ⟨hkept _ rfl, fun r hr => ?_, fun row' hrow' => ?_, fun hapart => ?_⟩
    · rcases Table.mem_put.mp hr with ⟨hr, _⟩ | ⟨rfl, _⟩
      · exact .inl ⟨r, hr, rfl⟩
      · exact .inl ⟨old, hmem, rfl⟩
    · obtain rfl := List.mem_singleton.mp hrow'
      exact ⟨_, Table.mem_put.mpr (.inr ⟨rfl, old, hmem, rfl⟩), hentry⟩
    · exact hapart.put sameEntry_symm fun a ha hne => hapart a ha old hmem hne

lemma eachRecord_written {write : SchoolDB → AttendanceMark → Fallible SchoolDB}
    (hwrite : ∀ d row d', write d row = .ok d' →
      RecordsWritten d.attendanceRecords d'.attendanceRecords [row])
    (h : eachRecord write db rows = .ok db') :
    RecordsWritten db.attendanceRecords db'.attendanceRecords rows := by
  induction rows generalizing db with
  | nil =>
    obtain rfl := pure_ok.mp h
    exact .refl _
  | cons row rows ih =>
    obtain ⟨db1, hone, h⟩ := bind_ok.mp h
    exact .cons (hwrite db row db1 hone) (ih h)

/-- The rows are of the cohort of the session, and give no student a second mark. -/
def RowsFit (db : SchoolDB) (session : AttendanceSession) (rows : List AttendanceMark) : Prop :=
  ∀ row ∈ rows, (∀ e ∈ db.enrollments, e.id = row.enrollmentId → e.cohortId = session.cohortId) ∧
    ∀ r, r ∈ rows ∨ r ∈ db.attendanceRecords → SameMark r row → r.enrollmentId = row.enrollmentId

/-- Each row names an enrollment, and its student. -/
def RowsOf (db : SchoolDB) (rows : List AttendanceMark) : Prop :=
  ∀ row ∈ rows, ∃ e ∈ db.enrollments, e.id = row.enrollmentId ∧ e.studentId = row.studentId

variable {records : Table AttendanceMark.id} {session : AttendanceSession}

lemma RecordsWritten.from (h : RecordsWritten db.attendanceRecords records rows)
    {r : AttendanceMark} (hr : r ∈ records) :
    ∃ r0, (r0 ∈ rows ∨ r0 ∈ db.attendanceRecords) ∧ r.refs = r0.refs := by
  rcases h.origin r hr with ⟨old, hold, hrefs⟩ | ⟨row, hrow, hrefs⟩
  · exact ⟨old, .inr hold, hrefs⟩
  · exact ⟨row, .inl hrow, hrefs⟩

/-- The student of a record is the one of its enrollment, whichever way it came there. -/
lemma student_of_row (horder : MarksInOrder db) (hof : RowsOf db rows) {r : AttendanceMark}
    (hr : r ∈ rows ∨ r ∈ db.attendanceRecords) :
    ∃ e ∈ db.enrollments, e.id = r.enrollmentId ∧ e.studentId = r.studentId := by
  rcases hr with hr | hr
  · exact hof r hr
  · obtain ⟨_, _, _, e, he, heid, _, hestudent⟩ := horder.1 r hr
    exact ⟨e, he, heid, hestudent⟩

lemma student_eq (horder : MarksInOrder db) (hof : RowsOf db rows) {a b : AttendanceMark}
    (ha : a ∈ rows ∨ a ∈ db.attendanceRecords) (hb : b ∈ rows ∨ b ∈ db.attendanceRecords)
    (h : a.enrollmentId = b.enrollmentId) : a.studentId = b.studentId := by
  obtain ⟨e, he, heid, hestudent⟩ := student_of_row horder hof ha
  obtain ⟨e', he', heid', hestudent'⟩ := student_of_row horder hof hb
  obtain rfl := Table.eq_of_key he he' (heid.trans (h.trans heid'.symm))
  exact hestudent.symm.trans hestudent'

lemma sameMark_congr {a a' b b' : AttendanceMark} (ha : a.refs = a'.refs) (hb : b.refs = b'.refs) :
    SameMark a b ↔ SameMark a' b' := by
  obtain ⟨_, has, _, hast⟩ := refs_eq.mp ha
  obtain ⟨_, hbs, _, hbst⟩ := refs_eq.mp hb
  unfold SameMark
  rw [has, hast, hbs, hbst]

lemma RecordsWritten.inOrder (h : RecordsWritten db.attendanceRecords records rows)
    (horder : MarksInOrder db) (hsession : session ∈ db.attendanceSessions)
    (hin : ∀ row ∈ rows, row.sessionId = session.id) (hof : RowsOf db rows)
    (hfit : RowsFit db session rows) : MarksInOrder { db with attendanceRecords := records } := by
  constructor
  · intro r hr
    rcases h.origin r hr with ⟨old, hold, hrefs⟩ | ⟨row, hrow, hrefs⟩
    · obtain ⟨_, hs, he, hst⟩ := refs_eq.mp hrefs
      obtain ⟨s, hsmem, hsid, e, hemem, heid, hcohort, hestudent⟩ := horder.1 old hold
      exact ⟨s, hsmem, hsid.trans hs.symm, e, hemem, heid.trans he.symm, hcohort,
        hestudent.trans hst.symm⟩
    · obtain ⟨_, hs, he, hst⟩ := refs_eq.mp hrefs
      obtain ⟨e, hemem, heid, hestudent⟩ := hof row hrow
      exact ⟨session, hsession, (hs.trans (hin row hrow)).symm, e, hemem, heid.trans he.symm,
        (hfit row hrow).1 e hemem heid, hestudent.trans hst.symm⟩
  · -- Two marks of a student in the session would be of one enrollment, which has one record.
    have hapart : records.Excludes SameEntry := by
      refine h.apart fun a ha b hb hne hentry => horder.2 a ha b hb hne ⟨hentry.1, ?_⟩
      exact student_eq horder hof (.inr ha) (.inr hb) hentry.2
    intro a ha b hb hne hmark
    refine hapart a ha b hb hne ⟨hmark.1, ?_⟩
    obtain ⟨a0, ha0, harefs⟩ := h.from ha
    obtain ⟨b0, hb0, hbrefs⟩ := h.from hb
    have hmark0 := (sameMark_congr harefs hbrefs).mp hmark
    obtain ⟨haid, _, hae, _⟩ := refs_eq.mp harefs
    obtain ⟨hbid, _, hbe, _⟩ := refs_eq.mp hbrefs
    rw [hae, hbe]
    rcases hb0 with hb0 | hb0
    · exact (hfit b0 hb0).2 a0 ha0 hmark0
    · rcases ha0 with ha0 | ha0
      · exact ((hfit a0 ha0).2 b0 (.inr hb0) ⟨hmark0.1.symm, hmark0.2.symm⟩).symm
      · refine absurd hmark0 (horder.2 a0 ha0 b0 hb0 ?_)
        rwa [← haid, ← hbid]

lemma RecordsWritten.fit (h : RecordsWritten db.attendanceRecords records rows)
    (horder : MarksInOrder db) (hsession : session ∈ db.attendanceSessions)
    (hin : ∀ row ∈ rows, row.sessionId = session.id) (hof : RowsOf db rows)
    (horder' : MarksInOrder { db with attendanceRecords := records }) :
    RowsFit db session rows := by
  -- The record of a row or of a record that was there.
  have hrecord : ∀ r0, r0 ∈ rows ∨ r0 ∈ db.attendanceRecords → ∃ r ∈ records,
      r.sessionId = r0.sessionId ∧ r.enrollmentId = r0.enrollmentId ∧
        r.studentId = r0.studentId := by
    rintro r0 (hr0 | hr0)
    · obtain ⟨r, hr, hs, he⟩ := h.there r0 hr0
      obtain ⟨r1, hr1, hrefs⟩ := h.from hr
      obtain ⟨_, _, he1, hst⟩ := refs_eq.mp hrefs
      have hstudent := student_eq horder hof hr1 (.inl hr0) (he1.symm.trans he)
      exact ⟨r, hr, hs, he, hst.trans hstudent⟩
    · obtain ⟨r, hr, hrefs⟩ := h.kept r0 hr0
      exact ⟨r, hr, (refs_eq.mp hrefs).2⟩
  intro row hrow
  obtain ⟨r, hr, hrs, hre, hrst⟩ := hrecord row (.inl hrow)
  refine ⟨fun e he heid => ?_, fun other hother hmark => ?_⟩
  · obtain ⟨s, hs, hsid, e', he', heid', hcohort, _⟩ := horder'.1 r hr
    obtain rfl := Table.eq_of_key he he' (heid.trans (hre.symm.trans heid'.symm))
    obtain rfl := Table.eq_of_key hs hsession (hsid.trans (hrs.trans (hin row hrow)))
    exact hcohort
  · obtain ⟨r', hr', hrs', hre', hrst'⟩ := hrecord other hother
    have hid : r'.id = r.id := by
      by_contra hne
      refine horder'.2 r' hr' r hr hne ⟨?_, ?_⟩
      · rw [hrs', hrs, hmark.1]
      · rw [hrst', hrst, hmark.2]
    obtain rfl := Table.eq_of_key hr' hr hid
    exact hre'.symm.trans hre

/-- **Rows written to a session** among marks in order leave them in order exactly when they fit. -/
lemma RecordsWritten.inOrder_iff (h : RecordsWritten db.attendanceRecords records rows)
    (horder : MarksInOrder db) (hsession : session ∈ db.attendanceSessions)
    (hin : ∀ row ∈ rows, row.sessionId = session.id) (hof : RowsOf db rows) :
    MarksInOrder { db with attendanceRecords := records } ↔ RowsFit db session rows :=
  ⟨h.fit horder hsession hin hof, h.inOrder horder hsession hin hof⟩

end Written

/-! ### Requests -/

/-- A request on enrollments or on attendance. -/
inductive RegisterCall
  | enrollment (c : EnrollmentCall)
  | attendance (c : AttendanceCall)

def RegisterCall.handle (env : SchoolEnv) (db : SchoolDB) : RegisterCall → Fallible SchoolDB
  | .enrollment c => c.handle env db
  | .attendance c => c.handle env db

def RegisterCall.step (env : SchoolEnv) (db : SchoolDB) : RegisterCall → SchoolDB
  | .enrollment c => c.step env db
  | .attendance c => c.step env db

def RegisterRefused (env : SchoolEnv) (db : SchoolDB) (c : RegisterCall) : Prop :=
  ∀ db', c.handle env db ≠ .ok db'

/-- The request marks enrollments of the cohort of the session only, and each student once: no two
enrollments that a new session lists are of one student, and beside an enrollment that a bulk update
names no other of its student is named or has a record in the session. -/
def AttendanceCall.MarksOnce (db : SchoolDB) (c : AttendanceCall) : Prop :=
  match c.op with
  | .createSession data _ _ => ∀ schoolId ∈ c.ctx.schoolId,
      ∀ a ∈ getActiveEnrollmentsForCohort db schoolId data.cohortId data.sessionDate,
      ∀ b ∈ getActiveEnrollmentsForCohort db schoolId data.cohortId data.sessionDate,
        a.studentId = b.studentId → a.id = b.id
  | .bulkUpdateRecords sessionId items _ => ∀ session ∈ db.attendanceSessions,
      session.id = sessionId → ∀ item ∈ items, ∀ e ∈ db.enrollments, e.id = item.enrollmentId →
        e.cohortId = session.cohortId ∧ ∀ e' ∈ db.enrollments, e'.studentId = e.studentId →
          ((∃ item' ∈ items, item'.enrollmentId = e'.id) ∨
            ∃ r ∈ db.attendanceRecords, r.sessionId = sessionId ∧ r.enrollmentId = e'.id) →
          e'.id = e.id
  | _ => True

def RegisterCall.MarksOnce (db : SchoolDB) : RegisterCall → Prop
  | .enrollment _ => True
  | .attendance c => c.MarksOnce db

section Requests

variable {env : SchoolEnv} {clk : Clock} {ctx : RequestContext} {db db' : SchoolDB}

lemma enrollmentDelete_unmarked {enrollmentId : Ulid} {version : ℕ}
    (h : Enrollments.delete env ctx db enrollmentId version = .ok db') :
    ∀ r ∈ db.attendanceRecords, r.enrollmentId ≠ enrollmentId := by
  obtain ⟨e, howned, h⟩ := bind_ok.mp h
  obtain ⟨_, _, h⟩ := bind_ok.mp h
  obtain ⟨_, _, h⟩ := bind_ok.mp h
  obtain ⟨_, hunmarked, _⟩ := bind_ok.mp h
  obtain ⟨_, _, rfl⟩ := enrollmentOwned_ok howned
  exact ensure_ok.mp hunmarked

/-- What the marks read of an enrollment. -/
def StudentEnrollment.seat (e : StudentEnrollment) : Ulid × Ulid := (e.cohortId, e.studentId)

/-- **Requests on enrollments** keep the cohort and the student of every enrollment with records. -/
lemma enrollmentHandle_marks (h : MarksInOrder db) {c : EnrollmentCall}
    (hok : c.handle env db = .ok db') : MarksInOrder db' := by
  obtain ⟨heffect, core, hframe⟩ := enrollmentHandle_ok hok
  have hsessions : ∀ s ∈ db.attendanceSessions, ∃ s' ∈ db'.attendanceSessions,
      s'.id = s.id ∧ s'.cohortId = s.cohortId := by
    rw [hframe]
    exact fun s hs => ⟨s, hs, rfl, rfl⟩
  have hrecords : db'.attendanceRecords = db.attendanceRecords := by rw [hframe]
  have hput : ∀ old ∈ db.enrollments, ∀ row : StudentEnrollment, old.id = row.id →
      row.seat = old.seat → ∀ e ∈ db.enrollments, ∃ e' ∈ db.enrollments.put row,
        e'.id = e.id ∧ e'.cohortId = e.cohortId ∧ e'.studentId = e.studentId := by
    intro old hold row hid hplace e he
    obtain ⟨e', he', hid', hplace'⟩ := kept_put StudentEnrollment.seat hold hid hplace e he
    exact ⟨e', he', hid', Prod.mk.inj hplace'⟩
  refine h.of_rows hrecords hsessions fun e he r hr hre => ?_
  obtain ⟨ctx, op⟩ := c
  dsimp only at heffect
  generalize henrollments : db'.enrollments = enrollments at heffect
  cases heffect with
  | create check references insert =>
    exact ⟨e, (Table.mem_of_insert insert).mpr (.inl he), rfl, rfl, rfl⟩
  | @update _ data old owned version status =>
    have hid := flushed_col StudentEnrollment.touch StudentEnrollment.id (fun _ => rfl) old
      (Enrollments.applied ctx old data)
    have hplace := flushed_col StudentEnrollment.touch StudentEnrollment.seat (fun _ => rfl) old
      (Enrollments.applied ctx old data)
    exact hput old (enrollmentOwned_ok owned).2.1 _ hid.symm hplace e he
  | @transfer _ _ data _ old _ transferable references insert =>
    -- The old enrollment is ended in its place, and one more is inserted.
    have hold := (enrollmentOwned_ok (transferable_ok transferable).1).2.1
    obtain ⟨e', he', hsame⟩ := hput old hold (Enrollments.ended ctx old data).touch rfl rfl e he
    exact ⟨e', (Table.mem_of_insert insert).mpr (.inl he'), hsame⟩
  | @delete enrollmentId _ old owned =>
    -- An enrollment with records stays.
    have hunmarked := enrollmentDelete_unmarked hok r hr
    obtain ⟨_, _, rfl⟩ := enrollmentOwned_ok owned
    refine ⟨e, Table.mem_delete.mpr ⟨he, fun hid => hunmarked ?_⟩, rfl, rfl, rfl⟩
    exact hre.trans hid

/-- The rows of a new session. -/
def listing (ctx : RequestContext) (session : AttendanceSession) (recordIds : ℕ → Ulid)
    (enrollments : List StudentEnrollment) : List AttendanceMark :=
  enrollments.zipIdx.map fun p => Attendance.listed ctx session (recordIds p.2) p.1

lemma mem_listing {session : AttendanceSession} {recordIds : ℕ → Ulid}
    {enrollments : List StudentEnrollment} {row : AttendanceMark} :
    row ∈ listing ctx session recordIds enrollments ↔
      ∃ i e, enrollments[i]? = some e ∧ Attendance.listed ctx session (recordIds i) e = row := by
  rw [listing, List.mem_map]
  constructor
  · rintro ⟨⟨e, i⟩, hmem, rfl⟩
    exact ⟨i, e, List.mk_mem_zipIdx_iff_getElem?.mp hmem, rfl⟩
  · rintro ⟨i, e, hget, rfl⟩
    exact ⟨(e, i), List.mk_mem_zipIdx_iff_getElem?.mpr hget, rfl⟩

/-- The rows of a new session fit exactly when no two are of one student. -/
lemma listing_fit_iff (h : MarksInOrder db) {data : AttendanceSessionCreate}
    {session : AttendanceSession} {recordIds : ℕ → Ulid} {sessions : Table AttendanceSession.id}
    {schoolId : Ulid} (hfresh : ∀ s ∈ db.attendanceSessions, s.id ≠ session.id)
    (hcohort : session.cohortId = data.cohortId) :
    RowsFit { db with attendanceSessions := sessions } session (listing ctx session recordIds
        (getActiveEnrollmentsForCohort db schoolId data.cohortId data.sessionDate)) ↔
      ∀ a ∈ getActiveEnrollmentsForCohort db schoolId data.cohortId data.sessionDate,
      ∀ b ∈ getActiveEnrollmentsForCohort db schoolId data.cohortId data.sessionDate,
        a.studentId = b.studentId → a.id = b.id := by
  constructor
  · intro hfit a ha b hb hstudent
    obtain ⟨i, hi⟩ := List.mem_iff_getElem?.mp ha
    obtain ⟨j, hj⟩ := List.mem_iff_getElem?.mp hb
    have hmark := (hfit _ (mem_listing.mpr ⟨j, b, hj, rfl⟩)).2 _
      (.inl (mem_listing.mpr ⟨i, a, hi, rfl⟩))
    exact hmark ⟨rfl, hstudent⟩
  · intro honce row hrow
    obtain ⟨j, b, hj, rfl⟩ := mem_listing.mp hrow
    have hb := List.mem_of_getElem? hj
    have hlisted := List.mem_filter.mp hb
    refine ⟨fun e he heid => ?_, fun r hr hmark => ?_⟩
    · obtain rfl := Table.eq_of_key he hlisted.1 heid
      exact (of_decide_eq_true hlisted.2).1.trans hcohort.symm
    · rcases hr with hr | hr
      · obtain ⟨i, a, hi, rfl⟩ := mem_listing.mp hr
        exact honce a (List.mem_of_getElem? hi) b hb hmark.2
      · -- The session is new, so that no record is of it.
        obtain ⟨s, hs, hsid, _⟩ := h.1 r hr
        exact absurd (hsid.trans hmark.1) (hfresh s hs)

/-- **A new session** leaves the marks in order exactly when no two enrollments that it lists are
of one student. -/
lemma createSession_marks_iff (h : MarksInOrder db) {schoolId organizationId : Ulid}
    {data : AttendanceSessionCreate} {id : Ulid} {recordIds : ℕ → Ulid} {db1 : SchoolDB}
    (hinsert : insertSession db (Attendance.opened ctx schoolId organizationId data id) = .ok db1)
    (hrecords : eachRecord insertRecord db1
      (listing ctx (Attendance.opened ctx schoolId organizationId data id) recordIds
        (getActiveEnrollmentsForCohort db1 schoolId data.cohortId data.sessionDate)) = .ok db') :
    MarksInOrder db' ↔
      ∀ a ∈ getActiveEnrollmentsForCohort db schoolId data.cohortId data.sessionDate,
      ∀ b ∈ getActiveEnrollmentsForCohort db schoolId data.cohortId data.sessionDate,
        a.studentId = b.studentId → a.id = b.id := by
  obtain ⟨sessions, hrow, rfl⟩ := insertSession_ok hinsert
  have hfresh := (Table.insert_eq_some.mp hrow).1
  have hmem := (Table.mem_of_insert hrow).mpr (.inr rfl)
  have horder1 : MarksInOrder { db with attendanceSessions := sessions } :=
    h.of_rows rfl (fun s hs => ⟨s, (Table.mem_of_insert hrow).mpr (.inl hs), rfl, rfl⟩)
      fun e he _ _ _ => ⟨e, he, rfl, rfl, rfl⟩
  have hwritten := eachRecord_written (fun _ _ _ => insertRecord_written) hrecords
  have hin : ∀ row ∈ listing ctx (Attendance.opened ctx schoolId organizationId data id) recordIds
      (getActiveEnrollmentsForCohort db schoolId data.cohortId data.sessionDate),
      row.sessionId = id := by
    intro row hlisted
    obtain ⟨_, _, _, rfl⟩ := mem_listing.mp hlisted
    rfl
  have hof : RowsOf { db with attendanceSessions := sessions } (listing ctx
      (Attendance.opened ctx schoolId organizationId data id) recordIds
        (getActiveEnrollmentsForCohort db schoolId data.cohortId data.sessionDate)) := by
    intro row hlisted
    obtain ⟨i, e, hi, rfl⟩ := mem_listing.mp hlisted
    exact ⟨e, (List.mem_filter.mp (List.mem_of_getElem? hi)).1, rfl, rfl⟩
  rw [eachRecord_frame (fun _ _ _ => insertRecord_frame) hrecords]
  exact (hwritten.inOrder_iff horder1 hmem hin hof).trans (listing_fit_iff h hfresh rfl)

/-- The rows of a bulk update name enrollments, and their students. -/
lemma marked_rowsOf {schoolId sessionId : Ulid} {recordIds : ℕ → Ulid}
    {items : List BulkRecordItem} {rows : List AttendanceMark}
    (hrows : Attendance.markedRows ctx db schoolId sessionId recordIds 0 items = .ok rows) :
    RowsOf db rows := by
  intro row hrow
  obtain ⟨_, _, hresolve⟩ := markedRows_ok hrows row hrow
  obtain ⟨e, he, hstudent⟩ := Option.map_eq_some_iff.mp hresolve
  obtain ⟨hmem, hid⟩ := Table.get_eq_some.mp (Option.filter_eq_some_iff.mp he).1
  exact ⟨e, hmem, hid, hstudent⟩

/-- The rows of a bulk update fit exactly when the request marks each student once. -/
lemma marked_fit_iff (h : MarksInOrder db) {clk : Clock} {user : ctx.userId.isSome}
    {schoolId sessionId : Ulid} {recordIds : ℕ → Ulid} {items : List BulkRecordItem}
    {rows : List AttendanceMark} {session : AttendanceSession}
    (hsession : session ∈ db.attendanceSessions) (hid : session.id = sessionId)
    (hrows : Attendance.markedRows ctx db schoolId sessionId recordIds 0 items = .ok rows) :
    RowsFit db session rows ↔ AttendanceCall.MarksOnce db
      ⟨ctx, clk, .bulkUpdateRecords sessionId items recordIds, user⟩ := by
  have hof := marked_rowsOf hrows
  have hmap := markedRows_enrollments hrows
  have hnamed : ∀ k, (∃ item ∈ items, item.enrollmentId = k) ↔
      ∃ row ∈ rows, row.enrollmentId = k := by
    intro k
    rw [← List.mem_map, ← hmap, List.mem_map]
  have hin : ∀ row ∈ rows, row.sessionId = sessionId := fun row hrow =>
    (markedRows_ok hrows row hrow).2.1
  -- A mark that an enrollment has or gets is of its student.
  have hstudent : ∀ r, r ∈ rows ∨ r ∈ db.attendanceRecords → ∀ e ∈ db.enrollments,
      r.enrollmentId = e.id → r.studentId = e.studentId := by
    intro r hr e he hre
    obtain ⟨e', he', heid', hestudent'⟩ := student_of_row h hof hr
    obtain rfl := Table.eq_of_key he he' (hre.symm.trans heid'.symm)
    exact hestudent'.symm
  constructor
  · rintro hfit session' hsession' hid' item hitem e he heid
    obtain rfl := Table.eq_of_key hsession' hsession (hid'.trans hid.symm)
    obtain ⟨row, hrow, hre⟩ := (hnamed e.id).mp ⟨item, hitem, heid.symm⟩
    obtain ⟨hcohort, honce⟩ := hfit row hrow
    refine ⟨hcohort e he hre.symm, fun e' he' hsame hother => ?_⟩
    have hrstudent := hstudent row (.inl hrow) e he hre
    obtain ⟨r, hr, hrs, hre'⟩ : ∃ r, (r ∈ rows ∨ r ∈ db.attendanceRecords) ∧
        r.sessionId = sessionId ∧ r.enrollmentId = e'.id := by
      rcases hother with hother | ⟨r, hr, hrs, hre'⟩
      · obtain ⟨row', hrow', hre'⟩ := (hnamed e'.id).mp hother
        exact ⟨row', .inl hrow', hin row' hrow', hre'⟩
      · exact ⟨r, .inr hr, hrs, hre'⟩
    have hmark : SameMark r row := by
      refine ⟨hrs.trans (hin row hrow).symm, ?_⟩
      rw [hstudent r hr e' he' hre', hrstudent, hsame]
    exact hre'.symm.trans ((honce r hr hmark).trans hre)
  · intro honce row hrow
    obtain ⟨item, hitem, hire⟩ := (hnamed row.enrollmentId).mpr ⟨row, hrow, rfl⟩
    obtain ⟨e, he, heid, hestudent⟩ := hof row hrow
    obtain ⟨hcohort, hothers⟩ := honce session hsession hid item hitem e he (heid.trans hire.symm)
    refine ⟨fun e' he' heid' => ?_, fun r hr hmark => ?_⟩
    · obtain rfl := Table.eq_of_key he he' (heid.trans heid'.symm)
      exact hcohort
    · obtain ⟨e', he', heid', hestudent'⟩ := student_of_row h hof hr
      have hsame : e'.studentId = e.studentId := by rw [hestudent', hestudent, hmark.2]
      rw [← heid, ← heid']
      refine hothers e' he' hsame ?_
      rcases hr with hr | hr
      · exact .inl ((hnamed e'.id).mpr ⟨r, hr, heid'.symm⟩)
      · exact .inr ⟨r, hr, hmark.1.trans (hin row hrow), heid'.symm⟩

lemma marks_put_session (h : MarksInOrder db) {old : AttendanceSession}
    (hold : old ∈ db.attendanceSessions) (row : AttendanceSession) (hid : old.id = row.id)
    (hcohort : row.cohortId = old.cohortId) (events : Table OutboxEvent.id) :
    MarksInOrder { db with
      attendanceSessions := db.attendanceSessions.put row
      outboxEvents := events } :=
  h.of_rows rfl (kept_put AttendanceSession.cohortId hold hid hcohort)
    fun e he _ _ _ => ⟨e, he, rfl, rfl, rfl⟩

/-- **What a request on attendance that goes through does to the marks**: it leaves them in order
exactly when it marks each student once. -/
lemma attendanceHandle_marks_iff (h : MarksInOrder db) {c : AttendanceCall}
    (hok : c.handle env db = .ok db') : MarksInOrder db' ↔ c.MarksOnce db := by
  obtain ⟨db1, row, heffect, rfl⟩ := attendanceHandle_ok hok
  obtain ⟨ctx, clk, op, user⟩ := c
  have hkeeps {d : SchoolDB} (h : MarksInOrder d) : MarksInOrder d ↔ True := iff_true_intro h
  change MarksInOrder db1 ↔ _
  dsimp only at heffect
  cases heffect with
  | createSession school insert records =>
    rw [createSession_marks_iff h insert records]
    simp [AttendanceCall.MarksOnce, school]
  | @updateSession _ data session owned status =>
    -- The session keeps its cohort.
    have hid := flushed_col AttendanceSession.touch AttendanceSession.id (fun _ => rfl) session
      (Attendance.applied ctx session data)
    have hcohort := flushed_col AttendanceSession.touch AttendanceSession.cohortId (fun _ => rfl)
      session (Attendance.applied ctx session data)
    exact hkeeps (marks_put_session h (sessionOwned_ok owned).2.1 _ hid.symm hcohort _)
  | @deleteSession _ _ session owned status =>
    -- Its records go with it.
    refine hkeeps (h.of_kept ?_ ?_ fun e he _ _ _ => ⟨e, he, rfl, rfl, rfl⟩)
    · exact fun r hr => ⟨r, (Table.mem_deleteWhere.mp hr).1, rfl⟩
    · intro s hs r hr hrs
      have hleft := of_decide_eq_false (Table.mem_deleteWhere.mp hr).2
      exact ⟨s, Table.mem_delete.mpr ⟨hs, fun hid => hleft (hrs.trans hid)⟩, rfl, rfl⟩
  | @submitSession _ _ _ session _ owned status insert =>
    exact hkeeps (marks_put_session h (sessionOwned_ok owned).2.1
      (Attendance.submitted ctx clk session).touch rfl rfl _)
  | @amendSession _ _ session owned status =>
    have hid := flushed_col AttendanceSession.touch AttendanceSession.id (fun _ => rfl) session
      (Attendance.amended ctx session)
    have hcohort := flushed_col AttendanceSession.touch AttendanceSession.cohortId (fun _ => rfl)
      session (Attendance.amended ctx session)
    exact hkeeps (marks_put_session h (sessionOwned_ok owned).2.1 _ hid.symm hcohort _)
  | @updateRecord _ _ data record school record_found =>
    have hmem := (Table.get_eq_some.mp (Option.filter_eq_some_iff.mp record_found).1).1
    refine hkeeps (h.of_kept (fun r hr => ?_) (fun s hs _ _ _ => ⟨s, hs, rfl, rfl⟩)
      fun e he _ _ _ => ⟨e, he, rfl, rfl, rfl⟩)
    rcases Table.mem_put.mp hr with ⟨hr, _⟩ | ⟨rfl, _⟩
    · exact ⟨r, hr, rfl⟩
    · exact ⟨record, hmem, rfl⟩
  -- The rows that are written decide.
  | @bulkUpdateRecords schoolId sessionId items recordIds session rows _ school owned rows_of
      records =>
    obtain ⟨_, hmem, hid⟩ := sessionOwned_ok owned
    have hwritten := eachRecord_written (fun _ _ _ => upsertRecord_written) records
    have hin : ∀ row ∈ rows, row.sessionId = session.id := fun row hrow =>
      (markedRows_ok rows_of row hrow).2.1.trans hid.symm
    have hof := marked_rowsOf rows_of
    rw [eachRecord_frame (fun _ _ _ => upsertRecord_frame) records]
    exact (hwritten.inOrder_iff h hmem hin hof).trans (marked_fit_iff h hmem hid rows_of)

end Requests

/-! ### Runs -/

lemma marks_step_iff (env : SchoolEnv) (db : SchoolDB) (c : RegisterCall) (h : MarksInOrder db) :
    MarksInOrder (c.step env db) ↔ RegisterRefused env db c ∨ c.MarksOnce db := by
  cases c with
  | enrollment c =>
    refine iff_of_true ?_ (.inr trivial)
    rw [RegisterCall.step, EnrollmentCall.step]
    split
    · next db' hok => exact enrollmentHandle_marks h hok
    · exact h
  | attendance c =>
    rw [RegisterCall.step, AttendanceCall.step]
    cases hok : c.handle env db with
    | error e =>
      have hrefused : RegisterRefused env db (.attendance c) := fun db' hok' =>
        nomatch hok.symm.trans hok'
      exact iff_of_true h (.inl hrefused)
    | ok db' =>
      have hgoes : ¬ RegisterRefused env db (.attendance c) := fun hrefused => hrefused db' hok
      rw [or_iff_right hgoes]
      exact attendanceHandle_marks_iff h hok

/-- **One mark for each student of the cohort**: over every run of requests on enrollments and
attendance, the marks are in order in all states exactly when each request is refused or marks each
student of the cohort once. -/
theorem marks_inOrder_iff (env : SchoolEnv) (db : SchoolDB) (l : List RegisterCall) :
    Along (RegisterCall.step env) (fun db c => MarksInOrder (c.step env db))
        db.withoutAttendance l ↔
      Along (RegisterCall.step env) (fun db c => RegisterRefused env db c ∨ c.MarksOnce db)
        db.withoutAttendance l := by
  have hstart : MarksInOrder db.withoutAttendance :=
    ⟨fun _ hr => absurd hr Table.not_mem_empty, Table.excludes_empty⟩
  exact along_iff (marks_step_iff env) l hstart

/-- A student leaves a cohort and comes back, and the cohort's session marks the enrollment that is
there, and in bulk the enrollments `marked`. -/
def backAndMark (marked : List Ulid) : List RegisterCall :=
  [.enrollment ⟨staff, .create ⟨71, 21, 31, 51, none, 738000, .regular, no_rollNumber⟩ 101⟩,
    .enrollment ⟨staff, .transfer 101 ⟨52, 31, 738030⟩ 102⟩,
    .enrollment ⟨staff, .transfer 102 ⟨51, 31, 738060⟩ 103⟩,
    .attendance ⟨staff, ⟨0, 0⟩, .createSession ⟨51, 21, 738100, none⟩ 111 fun _ => 121, staff_user⟩,
    .attendance ⟨staff, ⟨0, 0⟩, .bulkUpdateRecords 111
      (marked.map fun enrollmentId => ⟨enrollmentId, .absent, none, none⟩) fun _ => 122,
      staff_user⟩]

example : Along (RegisterCall.step .plain) (fun db c => MarksInOrder (c.step .plain db))
    smallSchool.withoutAttendance (backAndMark [103]) := by decide +kernel

/-- The enrollment that the student had before takes a second mark. -/
theorem backAndMark_twice : ¬ ∀ (env : SchoolEnv) (db : SchoolDB) (l : List RegisterCall),
    Along (RegisterCall.step env) (fun db c => MarksInOrder (c.step env db))
      db.withoutAttendance l := by
  intro h
  have hrun := h .plain smallSchool (backAndMark [101])
  exact absurd hrun (by decide +kernel)

end SchoolOs
