import SchoolOs.AuditEncodings
import SchoolOs.Exports

/-!
Exports read back by the import. The parser strips what it reads, so that a row has the texts of its
entity without the white space around them.
-/

namespace SchoolOs

open Runs

/-! ### Entities and rows -/

/-- An optional text as a row has it, when `view` is what becomes of texts. The empty text is
absent. -/
def readText (view : String → String) (x : Option String) : Option String :=
  (x.map view).filter (· ≠ "")

/-- The row has the data of the person. -/
structure PersonRead (view : String → String) (person : Person) (row : CsvRow) : Prop where
  firstName : given row "first_name" = readText view (some person.firstName)
  lastName : given row "last_name" = readText view person.lastName
  primaryEmail : given row "primary_email" = readText view person.primaryEmail
  primaryPhone : given row "primary_phone" = readText view person.primaryPhone

/-- The row has the data of the student. -/
structure StudentRead (view : String → String) (line : Student × Person) (row : CsvRow) : Prop where
  person : PersonRead view line.2 row
  admissionNumber : given row "admission_number" = readText view (some line.1.admissionNumber)
  admissionDate : (given row "admission_date").bind Date.fromIsoFormat = some line.1.admissionDate
  status : (given row "status").bind StudentStatus.ofValue = some line.1.status

/-- The row has the data of the teacher. -/
structure TeacherRead (view : String → String) (line : Teacher × Person) (row : CsvRow) : Prop where
  person : PersonRead view line.2 row
  employeeNumber : given row "employee_number" = readText view line.1.employeeNumber
  designation : given row "designation" = readText view line.1.designation
  joiningDate : (given row "joining_date").map Date.fromIsoFormat = line.1.joiningDate.map some
  status : (given row "status").bind TeacherStatus.ofValue = some line.1.status

/-! ### Cells -/

section Cells

variable {env : ImportEnv} {columns : List String} {row : List (String × String)} {name : String}

lemma lookup_strippedRow (h : name ∈ columns) :
    (strippedRow columns row).lookup name = some (some (strip (cellOf row name))) := by
  unfold strippedRow
  induction columns with
  | nil => exact absurd h List.not_mem_nil
  | cons first columns ih =>
    rw [List.map_cons, List.lookup_cons]
    by_cases hname : name = first
    · rw [hname, beq_self_eq_true]
    · rw [beq_false_of_ne hname]
      exact ih ((List.mem_cons.mp h).resolve_left hname)

lemma given_strippedRow (h : name ∈ columns) :
    given (strippedRow columns row) name = readText strip (some (cellOf row name)) := by
  rw [given, lookup_strippedRow h]
  rfl

lemma stripped_strippedRow (hstrip : env.strip = strip) (h : name ∈ columns)
    (hplain : strip (cellOf row name) = cellOf row name) :
    stripped env (strippedRow columns row) name = .ok (cellOf row name) := by
  rw [stripped, lookup_strippedRow h, hstrip, hplain]
  exact congrArg Except.ok hplain

/-- An optional text is written as the empty one when it is missing, and that one is absent. -/
lemma readText_getD (x : Option String) :
    readText strip (some (x.getD "")) = readText strip x := by
  cases x with
  | none => simp [readText]
  | some s => rfl

lemma readText_plain {s : String} (hplain : strip s = s) (hne : s ≠ "") :
    readText strip (some s) = some s := by
  simp [readText, hplain, hne]

/-- A text comes back as it is when there is no white space around it. -/
lemma readText_text_iff {s : String} :
    readText strip (some s) = readText id (some s) ↔ strip s = s := by
  by_cases hs : s = ""
  · rw [hs]
    exact iff_of_true (by simp [readText]) strip_empty
  · have hid : readText id (some s) = some s := by simp [readText, hs]
    constructor
    · intro h
      obtain ⟨hstripped, -⟩ := Option.filter_eq_some_iff.mp (h.trans hid)
      exact Option.some.inj hstripped
    · exact fun h => (readText_plain h hs).trans hid.symm

lemma readText_id_iff {x : Option String} :
    readText strip x = readText id x ↔ ∀ s ∈ x, strip s = s := by
  cases x with
  | none => simp [readText]
  | some s => simpa using readText_text_iff (s := s)

lemma required_eq_nil {row : CsvRow} {i : ℕ} {name text : String}
    (h : given row name = readText strip (some text)) (hne : ¬ Blank text) :
    required row i name = [] := by
  have hgiven : given row name = some (strip text) := by
    rw [h]
    simp [readText, strip_eq_empty, hne]
  rw [required, hgiven]
  rfl

lemma isSpace_digit {c : Char} (h : c.isDigit = true) : isSpace c = false := by
  have hrange : 48 ≤ c.toNat ∧ c.toNat ≤ 57 := by
    simpa [Char.isDigit, UInt32.le_iff_toNat_le, ← Char.toNat_val] using h
  have hnot : ¬ isSpace c = true := by
    simp only [isSpace, Bool.or_eq_true, Bool.and_eq_true, decide_eq_true_eq]
    omega
  simpa using hnot

lemma strip_iso (d : Date) : strip d.iso = d.iso := by
  refine strip_eq_self fun c hc => ?_
  rcases mem_date_iso hc with hdigit | rfl
  · exact isSpace_digit hdigit
  · decide

/-- The years of a `date` are 1 to 9999. -/
def Date.Valid (d : Date) : Prop := 1 ≤ d ∧ d ≤ Date.max

instance Date.decidableValid (d : Date) : Decidable d.Valid :=
  inferInstanceAs (Decidable (@LE.le ℕ _ 1 d ∧ @LE.le ℕ _ d Date.max))

lemma iso_ne_empty {d : Date} (h : d.Valid) : d.iso ≠ "" := by
  intro hempty
  have hread := dateOf_iso h.1 h.2
  have hnone : Date.fromIsoFormat "" = none := by decide +kernel
  rw [hempty, hnone] at hread
  cases hread

lemma studentStatus_read (s : StudentStatus) :
    strip s.value = s.value ∧ s.value ≠ "" ∧ s.value ∈ validStudentStatuses ∧
      StudentStatus.ofValue s.value = some s := by
  cases s <;> decide +kernel

lemma teacherStatus_read (s : TeacherStatus) :
    strip s.value = s.value ∧ s.value ≠ "" ∧ s.value ∈ validTeacherStatuses ∧
      TeacherStatus.ofValue s.value = some s := by
  cases s <;> decide +kernel

end Cells

/-! ### What is stored -/

/-- The columns hold the texts of the person. -/
def Person.Stored (p : Person) : Prop := p.firstName.length ≤ 100 ∧ p.Fits

def Student.Stored (s : Student) : Prop := s.admissionNumber.length ≤ 50 ∧ s.admissionDate.Valid

def Teacher.Stored (t : Teacher) : Prop :=
  varchar 50 t.employeeNumber = true ∧ varchar 100 t.designation = true ∧
    ∀ d ∈ t.joiningDate, d.Valid

lemma length_of_varchar {n : ℕ} {x : Option String} (h : varchar n x = true) :
    (x.getD "").length ≤ n := by
  cases x with
  | none => exact Nat.zero_le n
  | some s =>
    simp only [varchar, Bool.and_eq_true, decide_eq_true_eq] at h
    exact h.1

lemma length_iso {d : Date} (h : d.Valid) : d.iso.length = 10 := by
  obtain ⟨hy, hm, hd⟩ := Date.ymd_lt h.1 h.2
  rw [← String.length_toList, toList_date_iso, List.length_append, List.length_cons,
    List.length_append, List.length_cons, length_padded (by decide) hy,
    length_padded (by decide) hm, length_padded (by decide) hd]

/-! ### Persons -/

/-- There is no white space around the texts of the person that are exported. -/
def Person.Trimmed (p : Person) : Prop :=
  strip p.firstName = p.firstName ∧ (∀ s ∈ p.lastName, strip s = s) ∧
    (∀ s ∈ p.primaryEmail, strip s = s) ∧ ∀ s ∈ p.primaryPhone, strip s = s

lemma personRead_id_iff {p : Person} {row : CsvRow} (h : PersonRead strip p row) :
    PersonRead id p row ↔ p.Trimmed := by
  constructor
  · intro hid
    exact ⟨readText_text_iff.mp (h.firstName.symm.trans hid.firstName),
      readText_id_iff.mp (h.lastName.symm.trans hid.lastName),
      readText_id_iff.mp (h.primaryEmail.symm.trans hid.primaryEmail),
      readText_id_iff.mp (h.primaryPhone.symm.trans hid.primaryPhone)⟩
  · rintro ⟨hfirst, hlast, hemail, hphone⟩
    exact ⟨h.firstName.trans (readText_text_iff.mpr hfirst),
      h.lastName.trans (readText_id_iff.mpr hlast),
      h.primaryEmail.trans (readText_id_iff.mpr hemail),
      h.primaryPhone.trans (readText_id_iff.mpr hphone)⟩

/-! ### Students -/

section Students

variable {env : ImportEnv} {line : Student × Person}

lemma studentCells_short (hs : line.1.Stored) (hp : line.2.Stored) :
    ∀ name ∈ studentColumns, (cellOf (studentCells line) name).length ≤ Csv.fieldLimit := by
  obtain ⟨hfirst, -, -, hlast, -, -, -, -, hphone, hemail, -⟩ := hp
  have hlast := length_of_varchar hlast
  have hphone := length_of_varchar hphone
  have hemail := length_of_varchar hemail
  have hdate := length_iso hs.2
  have hnumber := hs.1
  have hstatus : line.1.status.value.length ≤ 24 := by
    cases line.1.status <;> decide +kernel
  simp only [studentColumns, List.forall_mem_cons, Csv.fieldLimit]
  simp only [cellOf, studentCells, List.lookup_cons, String.reduceBEq, Option.getD_some]
  refine ⟨by omega, by omega, by omega, by omega, by omega, by omega, by omega, ?_⟩
  exact List.forall_mem_nil _

lemma given_admissionDate (hs : line.1.Stored) :
    given (strippedRow studentColumns (studentCells line)) "admission_date" =
      some line.1.admissionDate.iso :=
  (given_strippedRow (by decide)).trans (readText_plain (strip_iso _) (iso_ne_empty hs.2))

lemma given_studentStatus :
    given (strippedRow studentColumns (studentCells line)) "status" = some line.1.status.value := by
  obtain ⟨hplain, hne, -, -⟩ := studentStatus_read line.1.status
  exact (given_strippedRow (by decide)).trans (readText_plain hplain hne)

/-- **A student is read as exported**, without the white space around the texts. -/
lemma studentRead (hs : line.1.Stored) :
    StudentRead strip line (strippedRow studentColumns (studentCells line)) where
  person := {
    firstName := given_strippedRow (by decide)
    lastName := (given_strippedRow (by decide)).trans (readText_getD line.2.lastName)
    primaryEmail := (given_strippedRow (by decide)).trans (readText_getD line.2.primaryEmail)
    primaryPhone := (given_strippedRow (by decide)).trans (readText_getD line.2.primaryPhone) }
  admissionNumber := given_strippedRow (by decide)
  admissionDate := by rw [given_admissionDate hs, Option.bind_some, dateOf_iso hs.2.1 hs.2.2]
  status := by rw [given_studentStatus, Option.bind_some, (studentStatus_read _).2.2.2]

/-- It is read as it was stored exactly when there is no white space around its texts. -/
theorem studentRead_id_iff (hs : line.1.Stored) :
    StudentRead id line (strippedRow studentColumns (studentCells line)) ↔
      line.2.Trimmed ∧ strip line.1.admissionNumber = line.1.admissionNumber := by
  have hread := studentRead hs
  constructor
  · intro h
    exact ⟨(personRead_id_iff hread.person).mp h.person,
      readText_text_iff.mp (hread.admissionNumber.symm.trans h.admissionNumber)⟩
  · rintro ⟨hperson, hnumber⟩
    exact {
      person := (personRead_id_iff hread.person).mpr hperson
      admissionNumber := hread.admissionNumber.trans (readText_text_iff.mpr hnumber)
      admissionDate := hread.admissionDate
      status := hread.status }

/-- **An exported student passes the checks**, unless the name or the number is blank. -/
lemma validateStudentRow_eq (hstrip : env.strip = strip) (hs : line.1.Stored)
    (hfirst : ¬ Blank line.2.firstName) (hnumber : ¬ Blank line.1.admissionNumber) (i : ℕ) :
    validateStudentRow env (strippedRow studentColumns (studentCells line)) i = .ok [] := by
  have hread := studentRead hs
  have hdate : Date.fromIsoFormat line.1.admissionDate.iso = some line.1.admissionDate :=
    dateOf_iso hs.2.1 hs.2.2
  obtain ⟨hplain, -, hvalid, -⟩ := studentStatus_read line.1.status
  have hstatus : stripped env (strippedRow studentColumns (studentCells line)) "status" =
      .ok line.1.status.value := stripped_strippedRow hstrip (by decide) hplain
  rw [validateStudentRow, hstatus, ok_bind, given_admissionDate hs,
    required_eq_nil hread.person.firstName hfirst, required_eq_nil hread.admissionNumber hnumber]
  simp only [dateCheck, statusCheck, hdate, hvalid, or_true, if_true, Option.isSome_some]
  rfl

end Students

/-! ### Teachers -/

section Teachers

variable {env : ImportEnv} {line : Teacher × Person}

lemma teacherCells_short (ht : line.1.Stored) (hp : line.2.Stored) :
    ∀ name ∈ teacherColumns, (cellOf (teacherCells line) name).length ≤ Csv.fieldLimit := by
  obtain ⟨hfirst, -, -, hlast, -, -, -, -, hphone, hemail, -⟩ := hp
  obtain ⟨hnumber, hdesignation, hjoining⟩ := ht
  have hlast := length_of_varchar hlast
  have hphone := length_of_varchar hphone
  have hemail := length_of_varchar hemail
  have hnumber := length_of_varchar hnumber
  have hdesignation := length_of_varchar hdesignation
  have hdate : ((line.1.joiningDate.map Date.iso).getD "").length ≤ 10 := by
    cases hjoined : line.1.joiningDate with
    | none => exact Nat.zero_le 10
    | some d => exact (length_iso (hjoining d hjoined)).le
  have hstatus : line.1.status.value.length ≤ 24 := by
    cases line.1.status <;> decide +kernel
  simp only [teacherColumns, List.forall_mem_cons, Csv.fieldLimit]
  simp only [cellOf, teacherCells, List.lookup_cons, String.reduceBEq, Option.getD_some]
  refine ⟨by omega, by omega, by omega, by omega, by omega, by omega, by omega, by omega, ?_⟩
  exact List.forall_mem_nil _

lemma joiningDate_read (ht : line.1.Stored) :
    (line.1.joiningDate = none ∧ cellOf (teacherCells line) "joining_date" = "") ∨
      ∃ d : Date, d.Valid ∧ line.1.joiningDate = some d ∧
        cellOf (teacherCells line) "joining_date" = d.iso := by
  have hcell : cellOf (teacherCells line) "joining_date" =
      (line.1.joiningDate.map Date.iso).getD "" := rfl
  cases hjoined : line.1.joiningDate with
  | none => exact .inl ⟨rfl, by rw [hcell, hjoined]; rfl⟩
  | some d => exact .inr ⟨d, ht.2.2 d hjoined, rfl, by rw [hcell, hjoined]; rfl⟩

lemma given_teacherStatus :
    given (strippedRow teacherColumns (teacherCells line)) "status" = some line.1.status.value := by
  obtain ⟨hplain, hne, -, -⟩ := teacherStatus_read line.1.status
  exact (given_strippedRow (by decide)).trans (readText_plain hplain hne)

/-- **A teacher is read as exported**, without the white space around the texts. -/
lemma teacherRead (ht : line.1.Stored) :
    TeacherRead strip line (strippedRow teacherColumns (teacherCells line)) where
  person := {
    firstName := given_strippedRow (by decide)
    lastName := (given_strippedRow (by decide)).trans (readText_getD line.2.lastName)
    primaryEmail := (given_strippedRow (by decide)).trans (readText_getD line.2.primaryEmail)
    primaryPhone := (given_strippedRow (by decide)).trans (readText_getD line.2.primaryPhone) }
  employeeNumber := (given_strippedRow (by decide)).trans (readText_getD line.1.employeeNumber)
  designation := (given_strippedRow (by decide)).trans (readText_getD line.1.designation)
  joiningDate := by
    rw [given_strippedRow (by decide)]
    rcases joiningDate_read ht with ⟨hnone, hcell⟩ | ⟨d, hd, hsome, hcell⟩
    · rw [hcell, hnone]
      simp [readText]
    · rw [hcell, hsome, readText_plain (strip_iso d) (iso_ne_empty hd), Option.map_some,
        dateOf_iso hd.1 hd.2]
      rfl
  status := by rw [given_teacherStatus, Option.bind_some, (teacherStatus_read _).2.2.2]

/-- The same for a teacher, the number and the designation included. -/
theorem teacherRead_id_iff (ht : line.1.Stored) :
    TeacherRead id line (strippedRow teacherColumns (teacherCells line)) ↔
      line.2.Trimmed ∧ (∀ s ∈ line.1.employeeNumber, strip s = s) ∧
        ∀ s ∈ line.1.designation, strip s = s := by
  have hread := teacherRead ht
  constructor
  · intro h
    exact ⟨(personRead_id_iff hread.person).mp h.person,
      readText_id_iff.mp (hread.employeeNumber.symm.trans h.employeeNumber),
      readText_id_iff.mp (hread.designation.symm.trans h.designation)⟩
  · rintro ⟨hperson, hnumber, hdesignation⟩
    exact {
      person := (personRead_id_iff hread.person).mpr hperson
      employeeNumber := hread.employeeNumber.trans (readText_id_iff.mpr hnumber)
      designation := hread.designation.trans (readText_id_iff.mpr hdesignation)
      joiningDate := hread.joiningDate
      status := hread.status }

/-- **An exported teacher passes the checks**, unless the name is blank. -/
lemma validateTeacherRow_eq (hstrip : env.strip = strip) (ht : line.1.Stored)
    (hfirst : ¬ Blank line.2.firstName) (i : ℕ) :
    validateTeacherRow env (strippedRow teacherColumns (teacherCells line)) i = .ok [] := by
  obtain ⟨hplain, -, hvalid, -⟩ := teacherStatus_read line.1.status
  have hstatus : stripped env (strippedRow teacherColumns (teacherCells line)) "status" =
      .ok line.1.status.value := stripped_strippedRow hstrip (by decide) hplain
  have hplainDate : strip (cellOf (teacherCells line) "joining_date") =
      cellOf (teacherCells line) "joining_date" := by
    rcases joiningDate_read ht with ⟨-, hcell⟩ | ⟨d, -, -, hcell⟩
    · rw [hcell, strip_empty]
    · rw [hcell, strip_iso]
  have hdates : (if cellOf (teacherCells line) "joining_date" = "" then []
      else dateCheck i "joining_date" (cellOf (teacherCells line) "joining_date")) = [] := by
    rcases joiningDate_read ht with ⟨-, hcell⟩ | ⟨d, hd, -, hcell⟩
    · rw [if_pos hcell]
    · rw [hcell, if_neg (iso_ne_empty hd), dateCheck, dateOf_iso hd.1 hd.2]
      rfl
  rw [validateTeacherRow, stripped_strippedRow hstrip (by decide) hplainDate, ok_bind, hstatus,
    ok_bind, required_eq_nil (teacherRead ht).person.firstName hfirst]
  simp only [hdates, statusCheck, hvalid, or_true, if_true]
  rfl

end Teachers

end SchoolOs
