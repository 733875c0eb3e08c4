import SchoolOs.Reimports
import SchoolOs.Reports

/-!
The files of the reports, read back: a reader of comma-separated text gets the rows of the report as
they were generated, one for each entity that the report is about.
-/

namespace SchoolOs

/-! ### What is stored -/

def StudentEnrollment.Stored (e : StudentEnrollment) : Prop :=
  varchar 20 e.rollNumber = true ∧ e.startDate.Valid ∧ ∀ d ∈ e.endDate, d.Valid

instance (e : StudentEnrollment) : Decidable e.Stored :=
  inferInstanceAs (Decidable (_ ∧ _ ∧ ∀ d ∈ e.endDate, d.Valid))

instance (p : Person) : Decidable p.Stored :=
  inferInstanceAs (Decidable (p.firstName.length ≤ 100 ∧ p.Fits))

instance (s : Student) : Decidable s.Stored :=
  inferInstanceAs (Decidable (s.admissionNumber.length ≤ 50 ∧ s.admissionDate.Valid))

instance (t : Teacher) : Decidable t.Stored :=
  inferInstanceAs (Decidable (_ ∧ _ ∧ ∀ d ∈ t.joiningDate, d.Valid))

/-- The rows that reports read fit their columns, and can be counted in one. -/
structure ReportsStored (db : SchoolDB) : Prop extends PeopleStored db where
  enrollments : ∀ e ∈ db.enrollments, e.Stored
  records : db.attendanceRecords.rows.length < 2 ^ 63

namespace Reports

section Lines

variable {db : SchoolDB} {ctx : RequestContext} {schoolId : Ulid}

lemma values_short : (∀ s : StudentStatus, s.value.length ≤ 24) ∧
    (∀ s : TeacherStatus, s.value.length ≤ 24) ∧ (∀ k : EnrollmentType, k.value.length ≤ 24) ∧
    ∀ s : EnrollmentStatus, s.value.length ≤ 24 := by
  refine ⟨?_, ?_, ?_, ?_⟩ <;> intro v <;> cases v <;> decide +kernel

lemma length_count {n : ℕ} (h : n < 2 ^ 63) : (toString n).length ≤ 19 := by
  have hdigits : (Nat.toDigits 10 n).length ≤ 19 :=
    (Nat.length_toDigits_le_iff (by decide) (by decide)).mpr (by omega)
  rwa [Nat.toString_eq_ofList_toDigits, String.length_ofList]

lemma length_optionalDate {d : Option Date} (h : ∀ x ∈ d, x.Valid) :
    ((d.map Date.iso).getD "").length ≤ 10 := by
  cases d with
  | none => exact Nat.zero_le _
  | some x => exact (length_iso (h x rfl)).le

lemma personOf_mem {personId : Ulid} {p : Person} (h : personOf db ctx personId = some p) :
    p ∈ db.persons :=
  (Table.get_eq_some.mp (Option.filter_eq_some_iff.mp h).1).1

lemma personCells_short (hdb : PeopleStored db) (personId : Ulid) :
    ∀ text ∈ personCells (personOf db ctx personId), text.length ≤ 255 := by
  cases hp : personOf db ctx personId with
  | none => simp [personCells]
  | some p =>
    obtain ⟨hfirst, -, -, hlast, -, -, -, -, hphone, hemail, -⟩ := hdb.persons p (personOf_mem hp)
    have hlast := length_of_varchar hlast
    have hphone := length_of_varchar hphone
    have hemail := length_of_varchar hemail
    simp only [personCells, Option.map_some, Option.getD_some, Option.bind_some,
      List.forall_mem_cons]
    refine ⟨by omega, by omega, by omega, by omega, List.forall_mem_nil _⟩

lemma studentLine_short (hdb : PeopleStored db) {s : Student} (hs : s ∈ db.students) :
    ∀ text ∈ studentLine db ctx s, text.length ≤ 255 := by
  have hid := s.id.length_text
  have hdate := length_iso (hdb.students s hs).2
  have hnumber := (hdb.students s hs).1
  have hstatus := values_short.1 s.status
  refine List.forall_mem_append.mpr ⟨?_, personCells_short hdb s.personId⟩
  simp only [List.forall_mem_cons]
  exact ⟨by omega, by omega, by omega, by omega, List.forall_mem_nil _⟩

lemma teacherLine_short (hdb : PeopleStored db) {t : Teacher} (ht : t ∈ db.teachers) :
    ∀ text ∈ teacherLine db ctx t, text.length ≤ 255 := by
  obtain ⟨hnumber, hdesignation, hjoining⟩ := hdb.teachers t ht
  have hid := t.id.length_text
  have hnumber := length_of_varchar hnumber
  have hdesignation := length_of_varchar hdesignation
  have hjoining := length_optionalDate hjoining
  have hstatus := values_short.2.1 t.status
  refine List.forall_mem_append.mpr ⟨?_, personCells_short hdb t.personId⟩
  simp only [List.forall_mem_cons]
  exact ⟨by omega, by omega, by omega, by omega, by omega, List.forall_mem_nil _⟩

lemma attendanceLine_short {group : Ulid × List AttendanceMark}
    (hmany : group.2.length < 2 ^ 63) : ∀ text ∈ attendanceLine group, text.length ≤ 255 := by
  have hid := group.1.length_text
  have htally : ∀ status, (toString (tally status group.2)).length ≤ 19 := fun status =>
    length_count (List.countP_le_length.trans_lt hmany)
  have htotal := length_count hmany
  have hpresent := htally .present
  have habsent := htally .absent
  have hlate := htally .late
  simp only [attendanceLine, List.forall_mem_cons]
  exact ⟨by omega, by omega, by omega, by omega, by omega, List.forall_mem_nil _⟩

lemma enrollmentLine_short {e : StudentEnrollment} (he : e.Stored) :
    ∀ text ∈ enrollmentLine e, text.length ≤ 255 := by
  obtain ⟨hroll, hstart, hend⟩ := he
  have hroll := length_of_varchar hroll
  have hstart := length_iso hstart
  have hend := length_optionalDate hend
  obtain ⟨_, _, htypes, hstatuses⟩ := values_short
  have htype := htypes e.enrollmentType
  have hstatus := hstatuses e.status
  simp only [enrollmentLine, List.forall_mem_cons, Ulid.length_text]
  exact ⟨by omega, by omega, by omega, by omega, by omega, by omega, by omega, by omega, by omega,
    List.forall_mem_nil _⟩

lemma linesOf_short (hdb : ReportsStored db) (reportType : ReportType) :
    ∀ line ∈ linesOf db ctx schoolId reportType, ∀ text ∈ line, text.length ≤ 255 := by
  intro line hline
  cases reportType with
  | students =>
    obtain ⟨s, hs, rfl⟩ := List.mem_map.mp hline
    exact studentLine_short hdb.toPeopleStored (List.mem_of_mem_filter hs)
  | teachers =>
    obtain ⟨t, ht, rfl⟩ := List.mem_map.mp hline
    exact teacherLine_short hdb.toPeopleStored (List.mem_of_mem_filter ht)
  | attendanceSummary =>
    obtain ⟨group, hgroup, rfl⟩ := List.mem_map.mp hline
    obtain ⟨hrows, _⟩ := Grouping.mem_groups.mp hgroup
    refine attendanceLine_short (lt_of_le_of_lt ?_ hdb.records)
    have hsub : (summarizedRecords db ctx schoolId).length ≤ db.attendanceRecords.rows.length := by
      refine (List.length_filter_le _ _).trans ?_
      unfold shown
      split
      · exact le_rfl
      · exact List.length_filter_le _ _
    rw [hrows]
    exact (List.length_filter_le _ _).trans hsub
  | enrollments =>
    obtain ⟨e, he, rfl⟩ := List.mem_map.mp hline
    exact enrollmentLine_short (hdb.enrollments e (List.mem_of_mem_filter he))

lemma linesOf_length (reportType : ReportType) :
    ∀ line ∈ linesOf db ctx schoolId reportType, line.length = (headersOf reportType).length := by
  intro line hline
  cases reportType with
  | students =>
    obtain ⟨s, _, rfl⟩ := List.mem_map.mp hline
    simp [studentLine, personCells, headersOf, studentHeaders]
  | teachers =>
    obtain ⟨t, _, rfl⟩ := List.mem_map.mp hline
    simp [teacherLine, personCells, headersOf, teacherHeaders]
  | attendanceSummary =>
    obtain ⟨group, _, rfl⟩ := List.mem_map.mp hline
    simp [attendanceLine, headersOf, attendanceHeaders]
  | enrollments =>
    obtain ⟨e, _, rfl⟩ := List.mem_map.mp hline
    simp [enrollmentLine, headersOf, enrollmentHeaders]

lemma headersOf_spec (reportType : ReportType) : (headersOf reportType).Nodup ∧
    (∀ name ∈ headersOf reportType, name.length ≤ Csv.fieldLimit) ∧ headersOf reportType ≠ [] := by
  cases reportType <;> decide +kernel

/-! ### Whom a report is about -/

/-- The key of a line, its first cell. -/
def keysOf (db : SchoolDB) (ctx : RequestContext) (schoolId : Ulid) : ReportType → List Ulid
  | .students => (reportedStudents db schoolId).map Student.id
  | .teachers => (reportedTeachers db schoolId).map Teacher.id
  | .attendanceSummary => (summaries db ctx schoolId).map Prod.fst
  | .enrollments => (reportedEnrollments db schoolId).map StudentEnrollment.id

/-- The entities of the school that a report has a line for. -/
def Reported (db : SchoolDB) (schoolId k : Ulid) : ReportType → Prop
  | .students => ∃ s ∈ db.students, s.id = k ∧ s.schoolId = schoolId ∧ s.deletedAt = none
  | .teachers => ∃ t ∈ db.teachers, t.id = k ∧ t.schoolId = schoolId ∧ t.deletedAt = none
  | .attendanceSummary => ∃ r ∈ db.attendanceRecords, r.studentId = k ∧ r.schoolId = schoolId ∧
      ∃ s ∈ db.attendanceSessions, s.id = r.sessionId ∧ s.schoolId = schoolId
  | .enrollments => ∃ e ∈ db.enrollments, e.id = k ∧ e.schoolId = schoolId

lemma nodup_keys {ρ : Type} {key : ρ → Ulid} (t : Table key) (p : ρ → Bool) :
    ((t.rows.filter p).map key).Nodup :=
  (List.filter_sublist.map key).nodup t.keys

lemma keysOf_nodup (reportType : ReportType) : (keysOf db ctx schoolId reportType).Nodup := by
  cases reportType with
  | students => exact nodup_keys db.students _
  | teachers => exact nodup_keys db.teachers _
  | attendanceSummary => exact Grouping.nodup_groups
  | enrollments => exact nodup_keys db.enrollments _

lemma mem_keysOf (hctx : ctx.schoolId = some schoolId) (reportType : ReportType) (k : Ulid) :
    k ∈ keysOf db ctx schoolId reportType ↔ Reported db schoolId k reportType := by
  cases reportType with
  | students =>
    simp only [keysOf, reportedStudents, List.mem_map, List.mem_filter, decide_eq_true_eq]
    refine exists_congr fun s => ⟨?_, ?_⟩
    · rintro ⟨⟨hs, hrow⟩, hid⟩
      exact ⟨hs, hid, hrow⟩
    · rintro ⟨hs, hid, hrow⟩
      exact ⟨⟨hs, hrow⟩, hid⟩
  | teachers =>
    simp only [keysOf, reportedTeachers, List.mem_map, List.mem_filter, decide_eq_true_eq]
    refine exists_congr fun t => ⟨?_, ?_⟩
    · rintro ⟨⟨ht, hrow⟩, hid⟩
      exact ⟨ht, hid, hrow⟩
    · rintro ⟨ht, hid, hrow⟩
      exact ⟨⟨ht, hrow⟩, hid⟩
  | attendanceSummary =>
    simp only [keysOf, summaries, Grouping.mem_map_fst_groups, summarizedRecords, List.mem_filter,
      mem_shown hctx, Option.any_eq_true, decide_eq_true_eq, Table.get_eq_some]
    constructor
    · rintro ⟨r, ⟨⟨hr, hschool⟩, s, ⟨hs, hid⟩, hsschool⟩, hk⟩
      exact ⟨r, hr, hk, hschool, s, hs, hid, hsschool⟩
    · rintro ⟨r, hr, hk, hschool, s, hs, hid, hsschool⟩
      exact ⟨r, ⟨⟨hr, hschool⟩, s, ⟨hs, hid⟩, hsschool⟩, hk⟩
  | enrollments =>
    simp only [keysOf, reportedEnrollments, List.mem_map, List.mem_filter, decide_eq_true_eq]
    refine exists_congr fun e => ⟨?_, ?_⟩
    · rintro ⟨⟨he, hrow⟩, hid⟩
      exact ⟨he, hid, hrow⟩
    · rintro ⟨he, hid, hrow⟩
      exact ⟨⟨he, hrow⟩, hid⟩

lemma linesOf_keys (reportType : ReportType) : (linesOf db ctx schoolId reportType).map List.head? =
    (keysOf db ctx schoolId reportType).map fun k => some k.text := by
  cases reportType <;> simp only [linesOf, keysOf, List.map_map] <;> rfl

end Lines

/-- What a reader gets of a line: a cell for each column. -/
def readLine (reportType : ReportType) (line : List String) : List (Option String × Csv.Cell) :=
  ((headersOf reportType).zip line).map fun p => (some p.1, .text p.2)

/-- **Reports read back**: the file of a report is a text, and a reader gets its lines from it as
they were generated, as many as the job counts, one for each entity of the school that the report
is about. -/
theorem report_read (db : SchoolDB) (hdb : ReportsStored db) (ctx : RequestContext)
    (schoolId : Ulid) (hctx : ctx.schoolId = some schoolId) (reportType : ReportType)
    (filters : Option Payload) :
    ∃ text, String.fromUTF8? (generate db ctx schoolId reportType filters).1 = some text ∧
      Csv.rows text =
        ((linesOf db ctx schoolId reportType).map (readLine reportType), none) ∧
      (generate db ctx schoolId reportType filters).2 = (Csv.rows text).1.length ∧
      ∃ keys : List Ulid, keys.Nodup ∧
        (∀ k, k ∈ keys ↔ Reported db schoolId k reportType) ∧
        (linesOf db ctx schoolId reportType).map List.head? = keys.map fun k => some k.text := by
  obtain ⟨hnodup, hnames, hne⟩ := headersOf_spec reportType
  have hlimit : ∀ line ∈ linesOf db ctx schoolId reportType, ∀ text ∈ line,
      text.length ≤ Csv.fieldLimit := by
    intro line hline text htext
    exact (linesOf_short hdb reportType line hline text htext).trans (by decide)
  have hrows := Csv.rows_write hnodup hnames hne (linesOf_length reportType) hlimit
  have hdecode : String.fromUTF8? (generate db ctx schoolId reportType filters).1 =
      some (Csv.write (headersOf reportType :: linesOf db ctx schoolId reportType)) :=
    dif_pos (String.isValidUTF8 _)
  refine ⟨_, hdecode, hrows, ?_, keysOf db ctx schoolId reportType, keysOf_nodup reportType,
    mem_keysOf hctx reportType, linesOf_keys reportType⟩
  rw [hrows, List.length_map]
  rfl

lemma smallSchool_reportsStored : ReportsStored smallSchool where
  persons := by decide +kernel
  students := by decide +kernel
  teachers := by decide +kernel
  enrollments := by decide +kernel
  records := by decide

theorem report_read_smallSchool : ∃ text,
    String.fromUTF8? (generate smallSchool staff 11 .students none).1 = some text ∧
      (Csv.rows text).1.length = 2 ∧
      ∃ keys : List Ulid, keys.Nodup ∧ ∀ k, k ∈ keys ↔ Reported smallSchool 11 k .students := by
  obtain ⟨text, htext, _, hcount, keys, hnodup, hkeys, _⟩ :=
    report_read smallSchool smallSchool_reportsStored staff 11 rfl .students none
  have htwo : (generate smallSchool staff 11 .students none).2 = 2 := by decide +kernel
  exact ⟨text, htext, hcount.symm.trans htwo, keys, hnodup, hkeys⟩

end Reports

end SchoolOs
