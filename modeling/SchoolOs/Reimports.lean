import SchoolOs.ExportRoundTrip
import SchoolOs.PersonMerges

/-!
Schools as the services of persons, students and teachers leave them: what they store is short
enough and dated well enough to be exported and read back.
-/

namespace SchoolOs

open Runs

/-! ### Requests -/

/-- A request on persons, students, teachers or the assignments of teachers. -/
inductive PeopleCall
  | person (c : PersonCall)
  | student (c : StudentCall)
  | teacher (c : TeacherCall)
  | assignment (c : AssignmentRequest)

def PeopleCall.handle (env : SchoolEnv) (db : SchoolDB) : PeopleCall → Fallible SchoolDB
  | .person c => c.handle env db
  | .student c => c.handle env db
  | .teacher c => c.handle env db
  | .assignment c => Prod.snd <$> c.handle env db

/-- A failed request leaves no trace. -/
def PeopleCall.step (env : SchoolEnv) (db : SchoolDB) (c : PeopleCall) : SchoolDB :=
  match c.handle env db with
  | .ok db' => db'
  | .error _ => db

/-- The dates that become dates of a student. -/
def StudentCall.dates (c : StudentCall) : List Date :=
  match c.op with
  | .create data _ => [data.admissionDate]
  | .update _ data => data.admissionDate.toList ++ data.withdrawalDate.toList
  | .delete _ _ => []

/-- The dates that become dates of a teacher. -/
def TeacherCall.dates (c : TeacherCall) : List Date :=
  match c.op with
  | .create data _ => data.joiningDate.toList
  | .update _ data => data.joiningDate.toList ++ data.leavingDate.toList
  | .delete _ _ => []

/-- The dates of a payload that the exports show. -/
def PeopleCall.dates : PeopleCall → List Date
  | .student c => c.dates
  | .teacher c => c.dates
  | .person _ | .assignment _ => []

/-- A database in which nobody is entered yet. -/
structure SchoolDB.Unpeopled (db : SchoolDB) : Prop where
  persons : db.persons.rows = []
  students : db.students.rows = []
  teachers : db.teachers.rows = []

/-! ### What is stored -/

/-- The persons, the students and the teachers fit their columns. -/
structure PeopleStored (db : SchoolDB) : Prop where
  persons : ∀ p ∈ db.persons, p.Stored
  students : ∀ s ∈ db.students, s.Stored
  teachers : ∀ t ∈ db.teachers, t.Stored

section Tables

variable {ρ κ : Type} [DecidableEq κ] {key : ρ → κ} {t t' : Table key} {row : ρ} {P : ρ → Prop}

lemma Table.forall_insert (h : t.insert row = some t') (ht : ∀ r ∈ t, P r) (hrow : P row) :
    ∀ r ∈ t', P r := by
  intro r hr
  rcases (Table.mem_of_insert h).mp hr with hold | rfl
  · exact ht r hold
  · exact hrow

lemma Table.forall_put (ht : ∀ r ∈ t, P r) (hrow : P row) : ∀ r ∈ t.put row, P r := by
  intro r hr
  rcases Table.mem_put.mp hr with ⟨hold, -⟩ | ⟨rfl, -⟩
  · exact ht r hold
  · exact hrow

end Tables

section Services

variable {env : SchoolEnv} {clk : Clock} {ctx : RequestContext} {db db' : SchoolDB}

lemma SchoolDB.Unpeopled.stored (h : db.Unpeopled) : PeopleStored db where
  persons p hp := by rw [Table.mem_def, h.persons] at hp; exact absurd hp List.not_mem_nil
  students s hs := by rw [Table.mem_def, h.students] at hs; exact absurd hs List.not_mem_nil
  teachers t ht := by rw [Table.mem_def, h.teachers] at ht; exact absurd ht List.not_mem_nil

lemma PeopleStored.log (h : PeopleStored db) (row : AuditLog) : PeopleStored (db.log row) :=
  ⟨h.persons, h.students, h.teachers⟩

/-! ### Persons -/

lemma stored_savePerson (hdb : PeopleStored db) {old new : Person}
    (hfirst : new.firstName.length ≤ 100) : Yields (Persons.save db old new) PeopleStored := by
  simp only [Persons.save, yields_bind, yields_ensure, yields_pure]
  rintro ⟨hfits, -⟩
  have hrow : (flushed Person.touch old new).Stored := by
    unfold flushed
    split
    · next he => exact he ▸ ⟨hfirst, hfits⟩
    · exact ⟨hfirst, hfits⟩
  exact { hdb with persons := Table.forall_put hdb.persons hrow }

/-- A first name that is given is short, and so is the one it replaces. -/
lemma length_getD {x : Option String} {s : String} {n : ℕ} (hx : ∀ t ∈ x, t.length ≤ n)
    (hs : s.length ≤ n) : (x.getD s).length ≤ n := by
  cases x with
  | none => exact hs
  | some t => exact hx t rfl

lemma person_stored (hdb : PeopleStored db) (c : PersonCall) :
    Yields (c.handle env db) PeopleStored := by
  obtain ⟨ctx, clk, op⟩ := c
  cases op with
  | create data id =>
    simp only [PersonCall.handle, Persons.create, Persons.insertRow, yields_map, yields_bind,
      yields_found, yields_ensure, yields_audit, yields_pure]
    intro organizationId _
    refine .of_forall fun _ hfits persons hinsert _ _ => ?_
    have hrow := Table.forall_insert hinsert hdb.persons ⟨data.firstName_length.2, hfits⟩
    refine PeopleStored.log ?_ _
    exact { hdb with persons := hrow }
  | update personId data =>
    simp only [PersonCall.handle, Persons.update, yields_map, yields_bind, yields_ensure,
      yields_audit, yields_pure]
    intro old howned _
    refine .of_forall fun _ => Yields.imp (stored_savePerson hdb ?_) fun _ h _ => h.log _
    exact length_getD (fun t ht => (data.firstName_length t ht).2)
      (hdb.persons old (personOwned_ok howned).1).1
  | delete personId version =>
    simp only [PersonCall.handle, Persons.delete, yields_bind, yields_ensure, yields_audit]
    intro old howned _
    refine Yields.imp (stored_savePerson hdb ?_) fun _ h _ => h.log _
    exact (hdb.persons old (personOwned_ok howned).1).1
  | merge personId data =>
    simp only [PersonCall.handle, Persons.merge, yields_map, yields_bind, yields_found,
      yields_ensure, yields_audit, yields_pure]
    intro old howned _ _ target _
    refine Yields.imp (stored_savePerson hdb ?_) fun _ h _ => h.log _
    exact (hdb.persons old (personOwned_ok howned).1).1

/-! ### Students -/

lemma stored_saveStudent (hdb : PeopleStored db) {old new : Student} (hnew : new.Stored) :
    Yields (Students.save db old new) PeopleStored := by
  simp only [Students.save, yields_ite, yields_bind, yields_ensure, yields_pure]
  exact ⟨fun _ => hdb, fun _ _ => { hdb with students := Table.forall_put hdb.students hnew }⟩

lemma student_stored (hdb : PeopleStored db) {c : StudentCall} (hdates : ∀ d ∈ c.dates, d.Valid) :
    Yields (c.handle env db) PeopleStored := by
  obtain ⟨ctx, clk, op⟩ := c
  cases op with
  | create data id =>
    refine yields_map.mpr ?_
    simp only [Students.create, Students.insertRow, yields_bind, yields_found,
      yields_ensureAbsent, yields_ensure, yields_audit, yields_pure]
    intro schoolId _ _ _ _ _ organizationId _ students hinsert _ _
    have hdate : data.admissionDate.Valid := hdates _ List.mem_cons_self
    have hrow := Table.forall_insert hinsert hdb.students ⟨data.admissionNumber_length.2, hdate⟩
    refine PeopleStored.log ?_ _
    exact { hdb with students := hrow }
  | update studentId data =>
    refine yields_bind.mpr fun old howned => yields_map.mpr ?_
    simp only [Students.update, yields_bind, yields_ensure, yields_audit, yields_pure]
    obtain ⟨hlength, hdate⟩ := hdb.students old (owned_mem howned).1
    refine fun _ => Yields.imp (stored_saveStudent hdb ?_) fun _ h _ => h.log _
    refine ⟨length_getD (fun n hn => (data.admissionNumber_length n hn).2) hlength, ?_⟩
    cases hgiven : data.admissionDate with
    | none => simpa [Students.applied, hgiven] using hdate
    | some d =>
      have hvalid : d.Valid := hdates d (by simp [StudentCall.dates, hgiven])
      simpa [Students.applied, hgiven] using hvalid
  | delete studentId version =>
    refine yields_bind.mpr fun old howned => ?_
    simp only [Students.delete, yields_bind, yields_ensure, yields_audit]
    refine fun _ => Yields.imp (stored_saveStudent hdb ?_) fun _ h _ => h.log _
    exact hdb.students old (owned_mem howned).1

/-! ### Teachers -/

lemma stored_saveTeacher (hdb : PeopleStored db) {old new : Teacher}
    (hdate : ∀ d ∈ new.joiningDate, d.Valid) : Yields (Teachers.save db old new) PeopleStored := by
  simp only [Teachers.save, yields_ite, yields_bind, yields_ensure, yields_pure]
  refine ⟨fun _ => hdb, fun _ hfits => ?_⟩
  exact { hdb with
    teachers := Table.forall_put hdb.teachers ⟨hfits.2.1, hfits.2.2, hdate⟩ }

lemma teacher_stored (hdb : PeopleStored db) {c : TeacherCall} (hdates : ∀ d ∈ c.dates, d.Valid) :
    Yields (c.handle env db) PeopleStored := by
  obtain ⟨ctx, clk, op⟩ := c
  cases op with
  | create data id =>
    refine yields_map.mpr ?_
    simp only [Teachers.create, Teachers.insertRow, yields_bind, yields_found,
      yields_ensureAbsent, yields_ensure, yields_audit, yields_pure]
    intro schoolId _ _ _ _
    refine .of_forall fun _ organizationId _ hfits teachers hinsert _ _ => ?_
    have hdate : ∀ d ∈ data.joiningDate, d.Valid := fun d hd => hdates d (Option.mem_toList.mpr hd)
    have hrow := Table.forall_insert hinsert hdb.teachers ⟨hfits.1, hfits.2, hdate⟩
    refine PeopleStored.log ?_ _
    exact { hdb with teachers := hrow }
  | update teacherId data =>
    refine yields_bind.mpr fun old howned => yields_map.mpr ?_
    simp only [Teachers.update, yields_bind, yields_ensure, yields_audit, yields_pure]
    refine fun _ => .of_forall fun _ => Yields.imp (stored_saveTeacher hdb ?_) fun _ h _ => h.log _
    intro d hd
    rcases Option.or_eq_some_iff.mp hd with hgiven | ⟨-, hkept⟩
    · exact hdates d (List.mem_append_left _ (Option.mem_toList.mpr hgiven))
    · exact (hdb.teachers old (owned_mem howned).1).2.2 d hkept
  | delete teacherId version =>
    refine yields_bind.mpr fun old howned => ?_
    simp only [Teachers.delete, yields_bind, yields_ensure, yields_audit]
    refine fun _ => Yields.imp (stored_saveTeacher hdb ?_) fun _ h _ => h.log _
    exact (hdb.teachers old (owned_mem howned).1).2.2

/-! ### Assignments -/

/-- The people stay as they are. -/
structure PeopleSame (db db' : SchoolDB) : Prop where
  persons : db'.persons = db.persons
  students : db'.students = db.students
  teachers : db'.teachers = db.teachers

lemma PeopleSame.stored (h : PeopleSame db db') (hdb : PeopleStored db) : PeopleStored db' where
  persons := h.persons ▸ hdb.persons
  students := h.students ▸ hdb.students
  teachers := h.teachers ▸ hdb.teachers

lemma saveAssignment_same {old new : TeacherAssignment} :
    Yields (Assignments.save db old new) (PeopleSame db) := by
  simp only [Assignments.save, yields_ite, yields_bind, yields_ensure, yields_pure]
  exact ⟨fun _ => ⟨rfl, rfl, rfl⟩, fun _ _ => ⟨rfl, rfl, rfl⟩⟩

/-- **Requests on assignments** leave the people alone. -/
lemma assignment_same (c : AssignmentRequest) :
    Yields (Prod.snd <$> c.handle env db) (PeopleSame db) := by
  obtain ⟨ctx, clk, op⟩ := c
  cases op with
  | create data id =>
    simp only [AssignmentRequest.handle, Assignments.create, Assignments.insertRow, yields_map,
      yields_bind, yields_found, yields_ensure, yields_audit, yields_pure]
    intros
    exact ⟨rfl, rfl, rfl⟩
  | update assignmentId data =>
    simp only [AssignmentRequest.handle, Assignments.update, yields_map, yields_bind,
      yields_ensure, yields_audit, yields_pure]
    exact .of_forall fun _ _ => Yields.imp saveAssignment_same fun _ h _ =>
      ⟨h.persons, h.students, h.teachers⟩
  | finish assignmentId version =>
    simp only [AssignmentRequest.handle, Assignments.endAssignment, yields_map, yields_bind,
      yields_ensure, yields_audit, yields_pure]
    exact .of_forall fun _ _ => Yields.imp saveAssignment_same fun _ h _ =>
      ⟨h.persons, h.students, h.teachers⟩

/-! ### Runs -/

/-- **The step**: a request with dates that exist leaves what is stored in order. -/
lemma peopleStep_stored (hdb : PeopleStored db) {c : PeopleCall} (hdates : ∀ d ∈ c.dates, d.Valid) :
    PeopleStored (c.step env db) := by
  unfold PeopleCall.step
  cases h : c.handle env db with
  | error e => exact hdb
  | ok db' =>
    cases c with
    | person c => exact person_stored hdb c db' h
    | student c => exact student_stored hdb hdates db' h
    | teacher c => exact teacher_stored hdb hdates db' h
    | assignment c => exact (assignment_same c db' h).stored hdb

theorem peopleRun_stored (hdb : db.Unpeopled) {calls : List PeopleCall}
    (hdates : ∀ c ∈ calls, ∀ d ∈ c.dates, d.Valid) :
    PeopleStored (run (PeopleCall.step env) db calls) := by
  have hstep : ∀ s : SchoolDB, ∀ c : PeopleCall, (∀ d ∈ c.dates, d.Valid) → PeopleStored s →
      PeopleStored (c.step env s) := fun _ _ hc hs => peopleStep_stored hs hc
  exact invariant hstep (along_of_mem hdates db) hdb.stored

end Services

/-! ### Exports -/

section Exports

variable {env : ImportEnv} {db : SchoolDB}

lemma exportedStudents_stored (h : PeopleStored db) (schoolId : Ulid) :
    ∀ line ∈ exportedStudents db schoolId, line.1.Stored ∧ line.2.Stored := by
  intro line hline
  obtain ⟨s, hs, hjoin⟩ := List.mem_filterMap.mp hline
  obtain ⟨p, hp, rfl⟩ := Option.map_eq_some_iff.mp hjoin
  exact ⟨h.students s (List.mem_filter.mp hs).1, h.persons p (Table.get_eq_some.mp hp).1⟩

lemma exportedTeachers_stored (h : PeopleStored db) (schoolId : Ulid) :
    ∀ line ∈ exportedTeachers db schoolId, line.1.Stored ∧ line.2.Stored := by
  intro line hline
  obtain ⟨t, ht, hjoin⟩ := List.mem_filterMap.mp hline
  obtain ⟨p, hp, rfl⟩ := Option.map_eq_some_iff.mp hjoin
  exact ⟨h.teachers t (List.mem_filter.mp ht).1, h.persons p (Table.get_eq_some.mp hp).1⟩

lemma parseCsv_students (hstrip : env.strip = strip) (h : PeopleStored db) (schoolId : Ulid) :
    parseCsv env (generateStudentCsv ((exportedStudents db schoolId).map studentCells)) =
      .ok ((exportedStudents db schoolId).map fun line =>
        strippedRow studentColumns (studentCells line)) := by
  have hcells : ∀ row ∈ (exportedStudents db schoolId).map studentCells,
      ∀ name ∈ studentColumns, (cellOf row name).length ≤ Csv.fieldLimit := by
    refine List.forall_mem_map.mpr fun line hline => ?_
    obtain ⟨hs, hp⟩ := exportedStudents_stored h schoolId line hline
    exact studentCells_short hs hp
  refine (parseCsv_generateCsv hstrip rfl (by decide) (by decide +kernel) (by decide +kernel)
    hcells).trans ?_
  rw [List.map_map]
  rfl

lemma parseCsv_teachers (hstrip : env.strip = strip) (h : PeopleStored db) (schoolId : Ulid) :
    parseCsv env (generateTeacherCsv ((exportedTeachers db schoolId).map teacherCells)) =
      .ok ((exportedTeachers db schoolId).map fun line =>
        strippedRow teacherColumns (teacherCells line)) := by
  have hcells : ∀ row ∈ (exportedTeachers db schoolId).map teacherCells,
      ∀ name ∈ teacherColumns, (cellOf row name).length ≤ Csv.fieldLimit := by
    refine List.forall_mem_map.mpr fun line hline => ?_
    obtain ⟨ht, hp⟩ := exportedTeachers_stored h schoolId line hline
    exact teacherCells_short ht hp
  refine (parseCsv_generateCsv hstrip rfl (by decide) (by decide +kernel) (by decide +kernel)
    hcells).trans ?_
  rw [List.map_map]
  rfl

end Exports

/-- What the import makes of an exported student: the data, without the white space around the
texts, and no complaint unless the name or the number is blank. -/
structure StudentBack (env : ImportEnv) (line : Student × Person) (row : CsvRow) : Prop where
  read : StudentRead strip line row
  valid : ¬ Blank line.2.firstName → ¬ Blank line.1.admissionNumber →
    ∀ i, validateStudentRow env row i = .ok []

/-- What the import makes of an exported teacher. -/
structure TeacherBack (env : ImportEnv) (line : Teacher × Person) (row : CsvRow) : Prop where
  read : TeacherRead strip line row
  valid : ¬ Blank line.2.firstName → ∀ i, validateTeacherRow env row i = .ok []

/-- **Exports are read back.** In whatever state requests leave a school, the import reads its
exports row by row, with the data of the students and of the teachers. -/
theorem exports_read_back (env : ImportEnv) (hstrip : env.strip = strip) (db : SchoolDB)
    (hdb : db.Unpeopled) (calls : List PeopleCall) (hdates : ∀ c ∈ calls, ∀ d ∈ c.dates, d.Valid)
    (ctx : RequestContext) (schoolId : Ulid) (hctx : ctx.schoolId = some schoolId) :
    (∃ content rows,
      getExport (run (PeopleCall.step env.toSchoolEnv) db calls) ctx .students = .ok content ∧
      parseCsv env content = .ok rows ∧
      List.Forall₂ (StudentBack env)
        (exportedStudents (run (PeopleCall.step env.toSchoolEnv) db calls) schoolId) rows) ∧
    ∃ content rows,
      getExport (run (PeopleCall.step env.toSchoolEnv) db calls) ctx .teachers = .ok content ∧
      parseCsv env content = .ok rows ∧
      List.Forall₂ (TeacherBack env)
        (exportedTeachers (run (PeopleCall.step env.toSchoolEnv) db calls) schoolId) rows := by
  have hstored : PeopleStored (run (PeopleCall.step env.toSchoolEnv) db calls) :=
    peopleRun_stored hdb hdates
  constructor
  · refine ⟨_, _, by rw [getExport, hctx]; rfl, parseCsv_students hstrip hstored schoolId, ?_⟩
    refine List.forall₂_map_right_iff.mpr (List.forall₂_same.mpr fun line hline => ?_)
    obtain ⟨hs, -⟩ := exportedStudents_stored hstored schoolId line hline
    exact ⟨studentRead hs, fun hfirst hnumber i => validateStudentRow_eq hstrip hs hfirst hnumber i⟩
  · refine ⟨_, _, by rw [getExport, hctx]; rfl, parseCsv_teachers hstrip hstored schoolId, ?_⟩
    refine List.forall₂_map_right_iff.mpr (List.forall₂_same.mpr fun line hline => ?_)
    obtain ⟨ht, -⟩ := exportedTeachers_stored hstored schoolId line hline
    exact ⟨teacherRead ht, fun hfirst i => validateTeacherRow_eq hstrip ht hfirst i⟩

/-- A deployment that strips as Python does. -/
def ImportEnv.stripping : ImportEnv := { ImportEnv.plain with strip := strip }

/-- School 11, with nobody in it. -/
def newSchool : SchoolDB := .empty { DB.empty with schools := [⟨11, 101, .active, none⟩] }

lemma newSchool_unpeopled : newSchool.Unpeopled := ⟨rfl, rfl, rfl⟩

/-- A request that enters a person of whom no more than the name is known. -/
def enterPerson (firstName : String)
    (h : 1 ≤ firstName.length ∧ firstName.length ≤ 100) (id : Ulid) : PeopleCall :=
  .person
    { ctx := staff
      clk := ⟨0, 0⟩
      op := .create
        { PersonTexts.none with
          firstName := firstName
          dateOfBirth := none
          addressId := none
          customFields := []
          firstName_length := h } id }

/-- A request that admits the person as a student. -/
def admitPerson (personId : Ulid) (admissionNumber : String)
    (h : 1 ≤ admissionNumber.length ∧ admissionNumber.length ≤ 50) (id : Ulid) : PeopleCall :=
  .student
    { ctx := staff
      clk := ⟨0, 0⟩
      op := .create
        { personId := personId
          admissionNumber := admissionNumber
          admissionDate := 738000
          status := .active
          admissionNumber_length := h } id }

lemma ada_length : 1 ≤ " Ada".length ∧ " Ada".length ≤ 100 := by decide
lemma blank_length : 1 ≤ " ".length ∧ " ".length ≤ 100 := by decide
lemma n1_length : 1 ≤ "N1".length ∧ "N1".length ≤ 50 := by decide
lemma n2_length : 1 ≤ "N2".length ∧ "N2".length ≤ 50 := by decide

/-- Two students: before the name of one stands a space, and the other has a space for a name. -/
def enterSpaced : List PeopleCall :=
  [enterPerson " Ada" ada_length 61, admitPerson 61 "N1" n1_length 71,
    enterPerson " " blank_length 62, admitPerson 62 "N2" n2_length 72]

def spacedSchool : SchoolDB :=
  run (PeopleCall.step ImportEnv.stripping.toSchoolEnv) newSchool enterSpaced

lemma spacedSchool_stored : PeopleStored spacedSchool :=
  peopleRun_stored newSchool_unpeopled (by decide +kernel)

lemma given_of_valid {env : ImportEnv} {row : CsvRow} {i : ℕ}
    (h : validateStudentRow env row i = .ok []) : given row "first_name" ≠ none := by
  intro hnone
  obtain ⟨status, -, h⟩ := bind_ok.mp h
  have hrequired : required row i "first_name" = [] := by
    have hall := pure_ok.mp h
    simp only [List.append_eq_nil_iff] at hall
    exact hall.1.1.1
  rw [required, hnone] at hrequired
  cases hrequired

theorem exports_read_back_spaced :
    (exportedStudents spacedSchool 11).length = 2 ∧ ∃ content rows,
      getExport spacedSchool staff .students = .ok content ∧
        parseCsv .stripping content = .ok rows ∧
        List.Forall₂ (StudentBack .stripping) (exportedStudents spacedSchool 11) rows :=
  ⟨by decide +kernel, (exports_read_back .stripping rfl newSchool newSchool_unpeopled enterSpaced
    (by decide +kernel) staff 11 rfl).1⟩

/-- The name with the space in front comes back without it, and the row of the blank name does not
pass the checks. -/
theorem spaced_not_read_back : ¬ ∃ content rows,
    getExport spacedSchool staff .students = .ok content ∧
      parseCsv .stripping content = .ok rows ∧
      (List.Forall₂ (StudentRead id) (exportedStudents spacedSchool 11) rows ∨
        ∀ row ∈ rows, ∀ i, validateStudentRow .stripping row i = .ok []) := by
  rintro ⟨content, rows, hexport, hparse, h⟩
  have hcontent : getExport spacedSchool staff .students =
      .ok (generateStudentCsv ((exportedStudents spacedSchool 11).map studentCells)) := rfl
  obtain rfl := Except.ok.inj (hcontent.symm.trans hexport)
  have hstrip : ImportEnv.stripping.strip = strip := rfl
  have hrows := parseCsv_students hstrip spacedSchool_stored 11
  obtain rfl := Except.ok.inj (hrows.symm.trans hparse)
  have htwo : (exportedStudents spacedSchool 11).length = 2 := by decide +kernel
  obtain ⟨ada, nobody, hlines⟩ := List.length_eq_two.mp htwo
  have hnames : (exportedStudents spacedSchool 11).map (fun line => line.2.firstName) =
      [" Ada", " "] := by decide +kernel
  have hstored := exportedStudents_stored spacedSchool_stored 11
  rw [hlines] at h hnames hstored
  obtain ⟨hada, hnobody⟩ : ada.2.firstName = " Ada" ∧ nobody.2.firstName = " " := by
    simpa using hnames
  rcases h with hread | hvalid
  · obtain ⟨hfirst, -⟩ := List.forall₂_cons.mp hread
    have htrimmed := ((studentRead_id_iff (hstored ada List.mem_cons_self).1).mp hfirst).1.1
    rw [hada] at htrimmed
    exact absurd htrimmed (by decide +kernel)
  · have hsecond := hvalid (strippedRow studentColumns (studentCells nobody)) (by simp) 0
    refine given_of_valid hsecond ((given_strippedRow (by decide)).trans ?_)
    have hcell : cellOf (studentCells nobody) "first_name" = " " := hnobody
    rw [hcell]
    decide +kernel

end SchoolOs
