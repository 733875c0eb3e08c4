import SchoolOs.AttendanceMarks
import SchoolOs.EnrollmentTimeline

/-!
The roll of a day: whether the session of a cohort on a date gets the same records before and after
a request that ends an enrollment on a later date.
-/

namespace SchoolOs

/-! ### The roll and the enrollments of a day -/

/-- The session that was opened between the states has a record of the student. -/
def OnRoll (db db' : SchoolDB) (studentId : Ulid) : Prop :=
  ∃ r ∈ db'.attendanceRecords, r ∉ db.attendanceRecords ∧ r.studentId = studentId

/-- An enrollment of the school in the cohort, whose interval contains the day. -/
def StudentEnrollment.Covers (schoolId cohortId : Ulid) (d : Date) (e : StudentEnrollment) : Prop :=
  e.schoolId = schoolId ∧ e.cohortId = cohortId ∧ e.span.Has d

instance (schoolId cohortId : Ulid) (d : Date) (e : StudentEnrollment) :
    Decidable (e.Covers schoolId cohortId d) := inferInstanceAs (Decidable (_ ∧ _ ∧ e.span.Has d))

/-- The student has an enrollment that covers the day. -/
def Enrolled (db : SchoolDB) (schoolId cohortId : Ulid) (d : Date) (studentId : Ulid) : Prop :=
  ∃ e ∈ db.enrollments, e.Covers schoolId cohortId d ∧ e.studentId = studentId

/-- The student has an ACTIVE one. -/
def Listed (db : SchoolDB) (schoolId cohortId : Ulid) (d : Date) (studentId : Ulid) : Prop :=
  ∃ e ∈ db.enrollments, e.Covers schoolId cohortId d ∧ e.status = .active ∧
    e.studentId = studentId

instance (db : SchoolDB) (schoolId cohortId : Ulid) (d : Date) (studentId : Ulid) :
    Decidable (Listed db schoolId cohortId d studentId) :=
  inferInstanceAs (Decidable (∃ e ∈ db.enrollments, _ ∧ _ ∧ _))

section Roll

variable {env : SchoolEnv} {ctx : RequestContext} {db db' : SchoolDB} {s : Ulid}

/-- Rows that are inserted one after another were not there before. -/
lemma eachRecord_inserts {rows : List AttendanceMark}
    (h : eachRecord insertRecord db rows = .ok db') :
    (∀ r, r ∈ db'.attendanceRecords ↔ r ∈ db.attendanceRecords ∨ r ∈ rows) ∧
      ∀ row ∈ rows, row ∉ db.attendanceRecords := by
  induction rows generalizing db with
  | nil =>
    obtain rfl := pure_ok.mp h
    simp
  | cons row rows ih =>
    obtain ⟨db1, hone, h⟩ := bind_ok.mp h
    obtain ⟨_, _, hone⟩ := bind_ok.mp hone
    obtain ⟨records, hinsert, hone⟩ := bind_ok.mp hone
    obtain ⟨_, _, hone⟩ := bind_ok.mp hone
    obtain ⟨_, _, hone⟩ := bind_ok.mp hone
    obtain rfl := pure_ok.mp hone
    obtain ⟨hmem, hnew⟩ := ih h
    have hrow := fun r => Table.mem_of_insert (found_ok.mp hinsert) (x := r)
    have hfresh := (Table.insert_eq_some.mp (found_ok.mp hinsert)).1
    refine ⟨fun r => ?_, fun r hr hold => ?_⟩
    · rw [hmem r, List.mem_cons, ← or_assoc]
      exact or_congr_left (hrow r)
    · rcases List.mem_cons.mp hr with rfl | hr
      · exact hfresh r hold rfl
      · exact hnew r hr ((hrow r).mpr (.inl hold))

lemma mem_getActiveEnrollments {schoolId cohortId : Ulid} {d : Date} {e : StudentEnrollment} :
    e ∈ getActiveEnrollmentsForCohort db schoolId cohortId d ↔
      e ∈ db.enrollments ∧ e.Covers schoolId cohortId d ∧ e.status = .active := by
  rw [getActiveEnrollmentsForCohort, List.mem_filter, decide_eq_true_eq]
  unfold StudentEnrollment.Covers Span.Has StudentEnrollment.span
  constructor
  · rintro ⟨hmem, hcohort, hschool, hactive, hspan⟩
    exact ⟨hmem, ⟨hschool, hcohort, hspan⟩, hactive⟩
  · rintro ⟨hmem, ⟨hschool, hcohort, hspan⟩, hactive⟩
    exact ⟨hmem, hcohort, hschool, hactive, hspan⟩

lemma onRoll_listing {session : AttendanceSession} {recordIds : ℕ → Ulid}
    {enrollments : List StudentEnrollment}
    (h : eachRecord insertRecord db (listing ctx session recordIds enrollments) = .ok db') :
    OnRoll db db' s ↔ ∃ e ∈ enrollments, e.studentId = s := by
  obtain ⟨hmem, hnew⟩ := eachRecord_inserts h
  constructor
  · rintro ⟨r, hr, hold, rfl⟩
    obtain ⟨i, e, hi, rfl⟩ := mem_listing.mp (((hmem r).mp hr).resolve_left hold)
    exact ⟨e, List.mem_of_getElem? hi, rfl⟩
  · rintro ⟨e, he, rfl⟩
    obtain ⟨i, hi⟩ := List.mem_iff_getElem?.mp he
    have hrow : Attendance.listed ctx session (recordIds i) e ∈
        listing ctx session recordIds enrollments := mem_listing.mpr ⟨i, e, hi, rfl⟩
    exact ⟨_, (hmem _).mpr (.inr hrow), hnew _ hrow, rfl⟩

/-- **Who is on the roll**: the students with an ACTIVE enrollment that covers the day. -/
lemma onRoll_iff {schoolId : Ulid} {data : AttendanceSessionCreate} {id : Ulid}
    {recordIds : ℕ → Ulid} {session : AttendanceSession} (hschool : ctx.schoolId = some schoolId)
    (h : Attendance.createSession env ctx db data id recordIds = .ok (session, db')) :
    OnRoll db db' s ↔ Listed db schoolId data.cohortId data.sessionDate s := by
  obtain ⟨schoolId', hschool', h⟩ := bind_ok.mp h
  obtain rfl : schoolId = schoolId' := Option.some.inj (hschool.symm.trans (found_ok.mp hschool'))
  obtain ⟨_, _, h⟩ := bind_ok.mp h
  obtain ⟨organizationId, _, h⟩ := bind_ok.mp h
  obtain ⟨db1, hinsert, h⟩ := bind_ok.mp h
  obtain ⟨db2, hrecords, h⟩ := bind_ok.mp h
  obtain ⟨db3, haudit, h⟩ := bind_ok.mp h
  obtain ⟨_, rfl⟩ := Prod.mk.inj (pure_ok.mp h)
  obtain ⟨_, rfl⟩ := schoolAudit_ok.mp haudit
  obtain ⟨sessions, _, rfl⟩ := insertSession_ok hinsert
  refine (onRoll_listing hrecords).trans ?_
  simp only [mem_getActiveEnrollments, Listed, and_assoc]

end Roll

/-! ### Requests that end an enrollment -/

/-- The request ends an enrollment after the day: a transfer with a later effective date, or an
update that gives a later end date. -/
inductive EnrollmentOp.EndsAfter (d : Date) : EnrollmentOp → Ulid → Prop
  | transfer {enrollmentId : Ulid} {data : EnrollmentTransfer} {id : Ulid}
      (later : d < data.effectiveDate) : EndsAfter d (.transfer enrollmentId data id) enrollmentId
  | update {enrollmentId : Ulid} {data : EnrollmentUpdate} {stop : Date}
      (ends : data.endDate = some (some stop)) (later : d < stop) :
      EndsAfter d (.update enrollmentId data) enrollmentId

/-- The request leaves the status of an ACTIVE enrollment that it ends. -/
def EnrollmentOp.LeavesActive : EnrollmentOp → Prop
  | .update _ data => (data.status.getD none).getD .active = .active
  | _ => False

/-- An enrollment, and what the request leaves of it: all but the end, which is later than the
day, and the status. Other enrollments that cover the day are as they were. -/
structure EndsLater (db db' : SchoolDB) (op : EnrollmentOp) (d : Date) (x x' : StudentEnrollment) :
    Prop where
  mem : x ∈ db.enrollments
  mem' : x' ∈ db'.enrollments
  id : x'.id = x.id
  school : x'.schoolId = x.schoolId
  cohort : x'.cohortId = x.cohortId
  student : x'.studentId = x.studentId
  start : x'.startDate = x.startDate
  stop : ∃ stop, x'.endDate = some stop ∧ d < stop
  status : x.status = .active → (x'.status = .active ↔ op.LeavesActive)
  others : ∀ e, e.id ≠ x.id → e.span.Has d → (e ∈ db'.enrollments ↔ e ∈ db.enrollments)

section Requests

variable {env : SchoolEnv} {db db' : SchoolDB} {d : Date}

/-- **What a request that ends an enrollment after the day does.** -/
lemma endsAfter_ok {c : EnrollmentCall} {enrollmentId : Ulid}
    (hends : c.op.EndsAfter d enrollmentId) (hok : c.handle env db = .ok db') :
    ∃ x x', x.id = enrollmentId ∧ EndsLater db db' c.op d x x' := by
  obtain ⟨heffect, _⟩ := enrollmentHandle_ok hok
  obtain ⟨ctx, op⟩ := c
  dsimp only at heffect hends ⊢
  generalize henrollments : db'.enrollments = enrollments at heffect
  cases hends with
  | @transfer _ data id later =>
    -- The successor starts after the day, so it is not of that day.
    cases heffect with
    | @transfer organizationId _ _ _ old _ transferable references insert =>
      obtain ⟨_, hmem, rfl⟩ := enrollmentOwned_ok (transferable_ok transferable).1
      have hin := fun e => Table.mem_of_insert insert (x := e)
      refine ⟨old, (Enrollments.ended ctx old data).touch, rfl, hmem, ?_, rfl, rfl, rfl, rfl, rfl,
        ⟨_, rfl, later⟩, fun _ => iff_of_false nofun not_false, fun e hne hhas => ?_⟩
      · rw [henrollments]
        exact (hin _).mpr (.inl (Table.mem_put.mpr (.inr ⟨rfl, old, hmem, rfl⟩)))
      · rw [henrollments, hin e, Table.mem_put]
        constructor
        · rintro ((⟨he, _⟩ | ⟨rfl, _⟩) | rfl)
          · exact he
          · exact absurd rfl hne
          · exact absurd hhas.1 (not_le.mpr later)
        · exact fun he => .inl (.inl ⟨he, hne⟩)
  | @update _ data stop ends later =>
    -- The update touches only the row that it ends.
    cases heffect with
    | @update _ _ old owned version status =>
      obtain ⟨_, hmem, rfl⟩ := enrollmentOwned_ok owned
      have hcols := flushed_col StudentEnrollment.touch (fun e => (e.id, e.schoolId, e.cohortId,
        e.studentId, e.startDate, e.endDate, e.status)) (fun _ => rfl) old
        (Enrollments.applied ctx old data)
      obtain ⟨hid, hschool, hcohort, hstudent, hstart, hstop, hstatus⟩ :
          _ ∧ _ ∧ _ ∧ _ ∧ _ ∧ _ ∧ _ := by simpa using hcols
      have hstop' : (Enrollments.applied ctx old data).endDate = some stop := by
        rw [Enrollments.applied, ends, Option.getD_some]
      refine ⟨old, _, rfl, hmem, ?_, hid, hschool, hcohort, hstudent, hstart,
        ⟨stop, hstop.trans hstop', later⟩, fun hactive => ?_, fun e hne _ => ?_⟩
      · rw [henrollments]
        exact Table.mem_put.mpr (.inr ⟨rfl, old, hmem, hid.symm⟩)
      · rw [hstatus, Enrollments.applied, hactive, EnrollmentOp.LeavesActive]
      · rw [henrollments, Table.mem_put]
        constructor
        · rintro (⟨he, _⟩ | ⟨rfl, _⟩)
          · exact he
          · exact absurd hid hne
        · exact fun he => .inl ⟨he, fun heid => hne (heid.trans hid)⟩

end Requests

/-! ### When the roll stays -/

/-- Every student with an enrollment that covers the day, the one that the request ends counted with
its new end, has an ACTIVE one that covers it and that the request leaves ACTIVE. -/
def RollCertain (db : SchoolDB) (op : EnrollmentOp) (enrollmentId schoolId cohortId : Ulid)
    (d : Date) : Prop :=
  ∀ e ∈ db.enrollments, e.schoolId = schoolId → e.cohortId = cohortId → e.startDate ≤ d →
    (e.span.Has d ∨ e.id = enrollmentId) →
    ∃ a ∈ db.enrollments, a.Covers schoolId cohortId d ∧ a.status = .active ∧
      a.studentId = e.studentId ∧ (a.id = enrollmentId → op.LeavesActive)

section Stays

variable {db db' : SchoolDB} {op : EnrollmentOp} {schoolId cohortId : Ulid} {d : Date}
  {x x' : StudentEnrollment}

lemma EndsLater.covers_iff (h : EndsLater db db' op d x x') : x'.Covers schoolId cohortId d ↔
    x.schoolId = schoolId ∧ x.cohortId = cohortId ∧ x.startDate ≤ d := by
  obtain ⟨stop, hstop, hlater⟩ := h.stop
  have hhas : ∀ y ∈ x'.endDate, d ≤ y := by
    intro y hy
    obtain rfl : stop = y := Option.some.inj (hstop.symm.trans hy)
    exact hlater.le
  unfold StudentEnrollment.Covers Span.Has StudentEnrollment.span
  rw [h.school, h.cohort, h.start]
  exact and_congr_right fun _ => and_congr_right fun _ => and_iff_left hhas

lemma EndsLater.enrolled (h : EndsLater db db' op d x x') {s : Ulid}
    (hs : Enrolled db schoolId cohortId d s) : Enrolled db' schoolId cohortId d s := by
  obtain ⟨e, he, hcovers, rfl⟩ := hs
  by_cases hid : e.id = x.id
  · obtain rfl := Table.eq_of_key he h.mem hid
    exact ⟨x', h.mem', h.covers_iff.mpr ⟨hcovers.1, hcovers.2.1, hcovers.2.2.1⟩, h.student⟩
  · exact ⟨e, (h.others e hid hcovers.2.2).mpr he, hcovers, rfl⟩

lemma EndsLater.enrolled_iff (h : EndsLater db db' op d x x') {s : Ulid} :
    Enrolled db' schoolId cohortId d s ↔ ∃ e ∈ db.enrollments, e.schoolId = schoolId ∧
      e.cohortId = cohortId ∧ e.startDate ≤ d ∧ (e.span.Has d ∨ e.id = x.id) ∧
        e.studentId = s := by
  constructor
  · rintro ⟨e, he, hcovers, rfl⟩
    by_cases hid : e.id = x.id
    · obtain rfl := Table.eq_of_key he h.mem' (hid.trans h.id.symm)
      obtain ⟨hschool, hcohort, hstart⟩ := h.covers_iff.mp hcovers
      exact ⟨x, h.mem, hschool, hcohort, hstart, .inr rfl, h.student.symm⟩
    · exact ⟨e, (h.others e hid hcovers.2.2).mp he, hcovers.1, hcovers.2.1, hcovers.2.2.1,
        .inl hcovers.2.2, rfl⟩
  · rintro ⟨e, he, hschool, hcohort, hstart, hhas, rfl⟩
    by_cases hid : e.id = x.id
    · obtain rfl := Table.eq_of_key he h.mem hid
      exact ⟨x', h.mem', h.covers_iff.mpr ⟨hschool, hcohort, hstart⟩, h.student⟩
    · have hhas := hhas.resolve_right hid
      exact ⟨e, (h.others e hid hhas).mpr he, ⟨hschool, hcohort, hhas⟩, rfl⟩

lemma Listed.enrolled {s : Ulid} (h : Listed db schoolId cohortId d s) :
    Enrolled db schoolId cohortId d s := by
  obtain ⟨e, he, hcovers, _, hstudent⟩ := h
  exact ⟨e, he, hcovers, hstudent⟩

/-- The roll and the enrollments of the day agree, and are the same in both states. -/
def RollStays (db db' : SchoolDB) (schoolId cohortId : Ulid) (d : Date) (s : Ulid) : Prop :=
  (Listed db schoolId cohortId d s ↔ Enrolled db schoolId cohortId d s) ∧
    (Listed db' schoolId cohortId d s ↔ Enrolled db' schoolId cohortId d s) ∧
    (Enrolled db schoolId cohortId d s ↔ Enrolled db' schoolId cohortId d s)

/-- **The roll stays exactly when it is certain.** -/
lemma EndsLater.rollStays_iff (h : EndsLater db db' op d x x') :
    (∀ s, RollStays db db' schoolId cohortId d s) ↔
      RollCertain db op x.id schoolId cohortId d := by
  constructor
  · intro hstays e he hschool hcohort hstart hhas
    have henrolled' : Enrolled db' schoolId cohortId d e.studentId :=
      h.enrolled_iff.mpr ⟨e, he, hschool, hcohort, hstart, hhas, rfl⟩
    obtain ⟨hlisted, hlisted', hsame⟩ := hstays e.studentId
    obtain ⟨a, ha, hacovers, haactive, hastudent⟩ := hlisted.mpr (hsame.mpr henrolled')
    by_cases haid : a.id = x.id
    · obtain rfl := Table.eq_of_key ha h.mem haid
      -- The enrollment that ends is listed: what is listed after decides whether it goes on.
      obtain ⟨b, hb, hbcovers, hbactive, hbstudent⟩ := hlisted'.mpr henrolled'
      by_cases hbid : b.id = a.id
      · obtain rfl := Table.eq_of_key hb h.mem' (hbid.trans h.id.symm)
        exact ⟨a, ha, hacovers, haactive, hastudent, fun _ => (h.status haactive).mp hbactive⟩
      · exact ⟨b, (h.others b hbid hbcovers.2.2).mp hb, hbcovers, hbactive, hbstudent,
          fun hid => absurd hid hbid⟩
    · exact ⟨a, ha, hacovers, haactive, hastudent, fun hid => absurd hid haid⟩
  · intro hcertain s
    have hboth : Enrolled db' schoolId cohortId d s →
        Listed db schoolId cohortId d s ∧ Listed db' schoolId cohortId d s := by
      intro henrolled
      obtain ⟨e, he, hschool, hcohort, hstart, hhas, rfl⟩ := h.enrolled_iff.mp henrolled
      obtain ⟨a, ha, hcovers, hactive, hstudent, hleaves⟩ :=
        hcertain e he hschool hcohort hstart hhas
      refine ⟨⟨a, ha, hcovers, hactive, hstudent⟩, ?_⟩
      by_cases hid : a.id = x.id
      · obtain rfl := Table.eq_of_key ha h.mem hid
        exact ⟨x', h.mem', h.covers_iff.mpr ⟨hcovers.1, hcovers.2.1, hcovers.2.2.1⟩,
          (h.status hactive).mpr (hleaves rfl), h.student.trans hstudent⟩
      · exact ⟨a, (h.others a hid hcovers.2.2).mpr ha, hcovers, hactive, hstudent⟩
    refine ⟨⟨Listed.enrolled, fun hs => (hboth (h.enrolled hs)).1⟩,
      ⟨Listed.enrolled, fun hs => (hboth hs).2⟩, ⟨h.enrolled, fun hs => (hboth hs).1.enrolled⟩⟩

end Stays

/-- **The roll of a day is the same whether it is opened before or after an enrollment ends later**,
and is of the students enrolled on that day, exactly when each of them has an ACTIVE enrollment that
covers the day and that the request leaves ACTIVE. -/
theorem rollOfDay_iff (env : SchoolEnv) (ctx : RequestContext) {db db' db1 db1' : SchoolDB}
    (c : EnrollmentCall) (schoolId enrollmentId : Ulid) (data : AttendanceSessionCreate)
    (id id' : Ulid) (recordIds recordIds' : ℕ → Ulid) {session session' : AttendanceSession}
    (hends : c.op.EndsAfter data.sessionDate enrollmentId) (hop : c.handle env db = .ok db')
    (hschool : ctx.schoolId = some schoolId)
    (hbefore : Attendance.createSession env ctx db data id recordIds = .ok (session, db1))
    (hafter : Attendance.createSession env ctx db' data id' recordIds' = .ok (session', db1')) :
    (∀ s, (OnRoll db db1 s ↔ Enrolled db schoolId data.cohortId data.sessionDate s) ∧
        (OnRoll db' db1' s ↔ Enrolled db' schoolId data.cohortId data.sessionDate s) ∧
        (OnRoll db db1 s ↔ OnRoll db' db1' s)) ↔
      RollCertain db c.op enrollmentId schoolId data.cohortId data.sessionDate := by
  obtain ⟨x, x', rfl, heffect⟩ := endsAfter_ok hends hop
  rw [← heffect.rollStays_iff]
  refine forall_congr' fun s => ?_
  rw [onRoll_iff hschool hbefore, onRoll_iff hschool hafter, RollStays]
  constructor
  · rintro ⟨hlisted, hlisted', hsame⟩
    exact ⟨hlisted, hlisted', hlisted.symm.trans (hsame.trans hlisted')⟩
  · rintro ⟨hlisted, hlisted', hsame⟩
    exact ⟨hlisted, hlisted', hlisted.trans (hsame.trans hlisted'.symm)⟩

/-- Student 71 in cohort 51. -/
def enrolledSchool : SchoolDB :=
  { smallSchool with
    enrollments := .ofRows _ [⟨101, 11, 101, 71, 21, 31, 51, none, 738000, none, .regular, .active,
      none, none, 1⟩] }

/-- The enrollment ends later, and stays ACTIVE. -/
def endLater : EnrollmentCall :=
  ⟨staff, .update 101 ⟨none, some (some 738200), none, 1, no_new_rollNumber, one_le_first⟩⟩

/-- The student moves to cohort 52 later. -/
def moveLater : EnrollmentCall := ⟨staff, .transfer 101 ⟨52, 31, 738200⟩ 102⟩

/-- Cohort 51 on day 738100. -/
def rollData : AttendanceSessionCreate := ⟨51, 21, 738100, none⟩

/-- The state after the session was opened. -/
def rolled (db : SchoolDB) : SchoolDB :=
  match Attendance.createSession .plain staff db rollData 111 fun _ => 121 with
  | .ok (_, db') => db'
  | .error _ => db

lemma createSession_rolled : ∀ db ∈ [enrolledSchool, endLater.step .plain enrolledSchool,
    moveLater.step .plain enrolledSchool],
    Attendance.createSession .plain staff db rollData 111 (fun _ => 121) =
      .ok (Attendance.opened staff 11 101 rollData 111, rolled db) := by
  decide +kernel

theorem rollOfDay_endLater :
    (∀ s, (OnRoll enrolledSchool (rolled enrolledSchool) s ↔
          Enrolled enrolledSchool 11 51 738100 s) ∧
        (OnRoll (endLater.step .plain enrolledSchool)
            (rolled (endLater.step .plain enrolledSchool)) s ↔
          Enrolled (endLater.step .plain enrolledSchool) 11 51 738100 s) ∧
        (OnRoll enrolledSchool (rolled enrolledSchool) s ↔
          OnRoll (endLater.step .plain enrolledSchool)
            (rolled (endLater.step .plain enrolledSchool)) s)) ↔
      RollCertain enrolledSchool endLater.op 101 11 51 738100 :=
  rollOfDay_iff .plain staff endLater 11 101 rollData 111 111 (fun _ => 121) (fun _ => 121)
    (.update rfl (by decide)) (by decide +kernel) rfl (createSession_rolled _ (by simp))
    (createSession_rolled _ (by simp))

/-- A transfer with a later effective date takes the student off the roll of the day. -/
theorem rollOfDay_moveLater : ¬ ∀ (env : SchoolEnv) (ctx : RequestContext)
    (db db' db1 db1' : SchoolDB) (c : EnrollmentCall) (schoolId enrollmentId : Ulid)
    (data : AttendanceSessionCreate) (id id' : Ulid) (recordIds recordIds' : ℕ → Ulid)
    (session session' : AttendanceSession), c.op.EndsAfter data.sessionDate enrollmentId →
    c.handle env db = .ok db' → ctx.schoolId = some schoolId →
    Attendance.createSession env ctx db data id recordIds = .ok (session, db1) →
    Attendance.createSession env ctx db' data id' recordIds' = .ok (session', db1') →
    ∀ s, (OnRoll db db1 s ↔ Enrolled db schoolId data.cohortId data.sessionDate s) ∧
      (OnRoll db' db1' s ↔ Enrolled db' schoolId data.cohortId data.sessionDate s) ∧
      (OnRoll db db1 s ↔ OnRoll db' db1' s) := by
  intro h
  have hop : moveLater.handle .plain enrolledSchool =
    .ok (moveLater.step .plain enrolledSchool) := by decide +kernel
  have hbefore := createSession_rolled enrolledSchool (by simp)
  have hafter := createSession_rolled (moveLater.step .plain enrolledSchool) (by simp)
  obtain ⟨_, _, hsame⟩ := h .plain staff enrolledSchool _ _ _ moveLater 11 101 rollData 111 111 _ _
    _ _ (.transfer (by decide)) hop rfl hbefore hafter 71
  rw [onRoll_iff rfl hbefore, onRoll_iff rfl hafter] at hsame
  exact absurd hsame (by decide +kernel)

end SchoolOs
