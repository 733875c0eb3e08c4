import SchoolOs.Transfers

/-!
The file of a register of students, imported into a school of another organization, and into the
school that exported it.
-/

namespace SchoolOs

open Runs Savepoints

/-! ### Numbers as columns store them -/

section Numbers

variable {env : SchoolEnv} {ctx : RequestContext} {db db' : SchoolDB}

/-- The column stores the admission numbers. -/
def NumbersBound (db : SchoolDB) : Prop := ∀ s ∈ db.students, bindable s.admissionNumber = true

lemma NumbersBound.log (h : NumbersBound db) (row : AuditLog) : NumbersBound (db.log row) := h

lemma numbers_saveStudent (hdb : NumbersBound db) {old new : Student} :
    Yields (Students.save db old new) NumbersBound := by
  simp only [Students.save, yields_ite, yields_bind, yields_ensure, yields_pure]
  exact ⟨fun _ => hdb, fun _ hchecks => Table.forall_put hdb hchecks.2.1⟩

lemma student_numbers (hdb : NumbersBound db) (c : StudentCall) :
    Yields (c.handle env db) NumbersBound := by
  refine RowOp.yields (fun data id => ?_) (fun _ student _ data => ?_)
    fun _ student _ version => ?_
  · simp only [Students.create, Students.insertRow, yields_bind, yields_found,
      yields_ensureAbsent, yields_ensure, yields_audit, yields_pure]
    intro schoolId _ _ _ _ _ organizationId _ students hinsert hchecks _
    exact NumbersBound.log (Table.forall_insert hinsert hdb hchecks.2.2.2) _
  · simp only [Students.update, yields_bind, yields_ensure, yields_audit, yields_pure]
    exact fun _ => Yields.imp (numbers_saveStudent hdb) fun _ h _ => h.log _
  · simp only [Students.delete, yields_bind, yields_ensure, yields_audit]
    exact fun _ => Yields.imp (numbers_saveStudent hdb) fun _ h _ => h.log _

/-! The other requests leave the students alone. -/

lemma person_students (c : PersonCall) :
    Yields (c.handle env db) fun db' => db'.students = db.students := by
  obtain ⟨ctx, clk, op⟩ := c
  cases op <;>
    simp [PersonCall.handle, Persons.create, Persons.insertRow, Persons.update, Persons.delete,
      Persons.merge, Persons.save]

lemma teacher_students (c : TeacherCall) :
    Yields (c.handle env db) fun db' => db'.students = db.students := by
  refine RowOp.yields (fun data id => ?_) (fun _ teacher _ data => ?_)
    fun _ teacher _ version => ?_
  · simp [Teachers.create, Teachers.insertRow]
  · simp [Teachers.update, Teachers.save, yields_ite]
  · simp [Teachers.delete, Teachers.save, yields_ite]

lemma peopleStep_numbers (hdb : NumbersBound db) (c : PeopleCall) :
    NumbersBound (c.step env db) := by
  unfold PeopleCall.step
  cases h : c.handle env db with
  | error e => exact hdb
  | ok db' =>
    have hkeep : db'.students = db.students → NumbersBound db' := fun hsame => by
      unfold NumbersBound
      rw [hsame]
      exact hdb
    cases c with
    | person c => exact hkeep (person_students c db' h)
    | student c => exact student_numbers hdb c db' h
    | teacher c => exact hkeep (teacher_students c db' h)
    | assignment c => exact hkeep (assignment_same c db' h).students

lemma peopleRun_numbers (hdb : db.Unpeopled) (calls : List PeopleCall) :
    NumbersBound (run (PeopleCall.step env) db calls) := by
  have hstep : ∀ s : SchoolDB, ∀ c : PeopleCall, NumbersBound s → NumbersBound (c.step env s) :=
    fun _ c hs => peopleStep_numbers hs c
  refine invariant_all hstep (fun s hs => ?_) calls
  rw [Table.mem_def, hdb.students] at hs
  exact absurd hs List.not_mem_nil

end Numbers

/-! ### The move -/

/-- A school whose organization knows nobody. -/
structure NewTenant (school : School) (db : SchoolDB) : Prop where
  students : ∀ s ∈ db.students, s.schoolId ≠ school.id
  persons : ∀ p ∈ db.persons, p.organizationId ≠ school.organizationId

lemma NewTenant.settled {school : School} {db : SchoolDB} (h : NewTenant school db)
    (hthere : db.HasSchool school.id) : MovedIn school db [] [] where
  moved := .nil
  students := List.filter_eq_nil_iff.mpr fun s hs => by simpa using h.students s hs
  persons := List.filter_eq_nil_iff.mpr fun p hp => by simpa using h.persons p hp
  live := List.forall_mem_nil _
  there := hthere

namespace Imports

variable {env : ImportEnv} {clk : Clock} {ctx : RequestContext}
  {resourceType : ImportResourceType} {school : School} {content : ByteArray} {filename : String}
  {id : Ulid} {draw : ℕ → Ulid × Ulid} {db : ImportDB} {rows : List CsvRow}

/-- A file that parses, with cells to check and columns for the counts, is imported. -/
lemma startImport_accounts (hctx : InSchool ctx db.toSchoolDB school)
    (hid : ∀ j ∈ db.importJobs, j.id ≠ id) (hparse : parseCsv env content = .ok rows)
    (hfilename : varchar 255 (some filename) = true)
    (hcells : ∀ row ∈ rows.zipIdx 2, CellsPresent resourceType row.1)
    (hrows : int4 rows.length = true)
    (herrors : int4 ((rows.zipIdx 2).flatMap (problems env resourceType)).length = true) :
    ∃ job db', startImport env clk ctx resourceType content filename id draw db = .ok (job, db') ∧
      job.Accounts (rows.zipIdx 2) (failed (attempts
        (attemptRow env ctx resourceType school.id school.organizationId draw) (rows.zipIdx 2)
        db.toSchoolDB).1) := by
  unfold startImport
  simp only [hctx.schoolId, hctx.organizationId, found, ok_bind, hparse]
  cases rows with
  | nil => exact (recordFailure_iff hctx hid (by decide)).mpr hfilename
  | cons row rest =>
    exact (importRows_iff hctx hid (List.cons_ne_nil row rest)).mpr
      ⟨hfilename, hcells, hrows, herrors⟩

lemma startImport_school (hctx : InSchool ctx db.toSchoolDB school)
    (hparse : parseCsv env content = .ok rows) {job : ImportJob} {db' : ImportDB}
    (h : startImport env clk ctx resourceType content filename id draw db = .ok (job, db')) :
    db'.toSchoolDB = (attempts
      (attemptRow env ctx resourceType school.id school.organizationId draw) (rows.zipIdx 2)
      db.toSchoolDB).2 := by
  have hhandle : ImportCall.handle env db ⟨ctx, clk, resourceType, content, filename, id, draw⟩ =
      .ok db' := map_ok.mpr ⟨_, h, rfl⟩
  obtain ⟨schoolId, organizationId, hschool, horganization, hleft⟩ := import_school hhandle
  obtain rfl := Option.some.inj (hschool.symm.trans hctx.schoolId)
  obtain rfl := Option.some.inj (horganization.symm.trans hctx.organizationId)
  rw [hleft, dataRows, hparse]
  rfl

lemma length_problems_le (env : ImportEnv) (row : CsvRow × ℕ) :
    (problems env .students row).length ≤ 4 := by
  have hrequired : ∀ name, (required row.1 row.2 name).length ≤ 1 := by
    intro name
    unfold required
    split <;> simp
  have hdate : ∀ name s, (dateCheck row.2 name s).length ≤ 1 := by
    intro name s
    unfold dateCheck
    split <;> simp
  have hstatus : ∀ status, (statusCheck row.2 validStudentStatuses status).length ≤ 1 := by
    intro status
    unfold statusCheck
    split <;> simp
  unfold problems
  cases h : validateRow env .students row with
  | error e => exact Nat.zero_le 4
  | ok errors =>
    obtain ⟨status, -, h⟩ := bind_ok.mp h
    obtain rfl := pure_ok.mp h
    simp only [Except.toOption, Option.getD_some, List.length_append]
    have hbound : ∀ a b c d : ℕ, a ≤ 1 → b ≤ 1 → c ≤ 1 → d ≤ 1 → a + b + c + d ≤ 4 := by
      intro a b c d
      omega
    refine hbound _ _ _ _ (hrequired _) (hrequired _) ?_ (hstatus status)
    split
    · exact hrequired _
    · exact hdate _ _

lemma int4_of_lt {n : ℕ} (h : n < 2 ^ 31) : int4 n = true := by
  simp only [int4, Bool.and_eq_true, decide_eq_true_eq]
  omega

lemma length_flatMap_problems_le (env : ImportEnv) (rows : List (CsvRow × ℕ)) :
    (rows.flatMap (problems env .students)).length ≤ 4 * rows.length := by
  induction rows with
  | nil => exact Nat.zero_le _
  | cons row rest ih =>
    have hrow := length_problems_le env row
    rw [List.flatMap_cons, List.length_append, List.length_cons]
    omega

/-- The file of a register of students is imported, whatever comes of its rows. -/
lemma startImport_lines (env : ImportEnv) (clk : Clock) (draw : ℕ → Ulid × Ulid)
    (hctx : InSchool ctx db.toSchoolDB school) (hid : ∀ j ∈ db.importJobs, j.id ≠ id)
    {lines : List (Student × Person)} (hparse : parseCsv env content = .ok (lines.map rowOf))
    (hfilename : varchar 255 (some filename) = true) (hmany : lines.length < 2 ^ 29) :
    ∃ job db', startImport env clk ctx .students content filename id draw db = .ok (job, db') ∧
      job.Accounts ((lines.map rowOf).zipIdx 2) (failed (attempts
        (attemptRow env ctx .students school.id school.organizationId draw)
        ((lines.map rowOf).zipIdx 2) db.toSchoolDB).1) := by
  have hcells : ∀ row ∈ (lines.map rowOf).zipIdx 2, CellsPresent .students row.1 := by
    intro row hrow
    obtain ⟨line, -, heq⟩ := List.mem_map.mp (List.fst_mem_of_mem_zipIdx hrow)
    exact heq ▸ cellsPresent_row line
  have herrors := length_flatMap_problems_le env ((lines.map rowOf).zipIdx 2)
  rw [List.length_zipIdx, List.length_map] at herrors
  have hcount : int4 (lines.map rowOf).length = true :=
    int4_of_lt (by rw [List.length_map]; omega)
  exact startImport_accounts hctx hid hparse hfilename hcells hcount (int4_of_lt (by omega))

end Imports

section Exported

variable {env : ImportEnv} {db : SchoolDB} {ctx : RequestContext} {schoolId : Ulid}

lemma exported_stored (hstored : PeopleStored db) (hbound : NumbersBound db) :
    ∀ line ∈ exportedStudents db schoolId,
      LineStored line ∧ line.1 ∈ db.students ∧ line.1.schoolId = schoolId := by
  intro line hline
  obtain ⟨hs, hp⟩ := exportedStudents_stored hstored schoolId line hline
  obtain ⟨s, hstudent, hjoin⟩ := List.mem_filterMap.mp hline
  obtain ⟨p, -, rfl⟩ := Option.map_eq_some_iff.mp hjoin
  obtain ⟨hs', hschool⟩ := List.mem_filter.mp hstudent
  exact ⟨⟨hs, hp, hbound s hs'⟩, hs', (of_decide_eq_true hschool).1⟩

/-- The file that a school exports, and what the import reads of it. -/
lemma export_parsed (hstrip : env.strip = strip) (hstored : PeopleStored db)
    (hctx : ctx.schoolId = some schoolId) : ∃ content,
      getExport db ctx .students = .ok content ∧
      parseCsv env content = .ok ((exportedStudents db schoolId).map rowOf) := by
  refine ⟨_, ?_, parseCsv_students hstrip hstored schoolId⟩
  rw [getExport, hctx]
  rfl

end Exported

open Imports in
/-- **A register moves**: the students that a school exports, in whatever state requests left it,
are imported into a school whose organization knows nobody. Those who have a name and a number, and
do not share the number, the mail address or the phone with a student who arrived before them, are
exported again with the same data; the others stay behind, and the job counts them. -/
theorem register_moves (env : ImportEnv) (hstrip : env.strip = strip) (db : SchoolDB)
    (hdb : db.Unpeopled) (calls : List PeopleCall) (hdates : ∀ c ∈ calls, ∀ d ∈ c.dates, d.Valid)
    (ctx : RequestContext) (schoolId : Ulid) (hctx : ctx.schoolId = some schoolId)
    (lines : List (Student × Person))
    (hlines : exportedStudents (run (PeopleCall.step env.toSchoolEnv) db calls) schoolId = lines)
    (hmany : lines.length < 2 ^ 29) (target : ImportDB) (school : School) (ctx' : RequestContext)
    (hctx' : InSchool ctx' target.toSchoolDB school) (hnew : NewTenant school target.toSchoolDB)
    (clk : Clock) (filename : String) (hfilename : varchar 255 (some filename) = true) (id : Ulid)
    (hid : ∀ j ∈ target.importJobs, j.id ≠ id) (draw : ℕ → Ulid × Ulid)
    (hdistinct : Distinct draw (2 + lines.length))
    (hdraw : Undrawn draw (2 + lines.length) 2 target.toSchoolDB) :
    ∃ content job target' records,
      getExport (run (PeopleCall.step env.toSchoolEnv) db calls) ctx .students = .ok content ∧
      startImport env clk ctx' .students content filename id draw target = .ok (job, target') ∧
      getExport target'.toSchoolDB ctx' .students = .ok (generateStudentCsv records) ∧
      records.Perm ((arrivals lines).map strippedCells) ∧
      job.totalRows = some lines.length ∧ job.successRows = (arrivals lines).length ∧
      job.failedRows + job.successRows = lines.length ∧
      (job.status = .completed ↔ lines ≠ [] ∧ (arrivals lines).length = lines.length) := by
  have hstored : PeopleStored (run (PeopleCall.step env.toSchoolEnv) db calls) :=
    peopleRun_stored hdb hdates
  have hnumbers : NumbersBound (run (PeopleCall.step env.toSchoolEnv) db calls) :=
    peopleRun_numbers hdb calls
  have hall : ∀ line ∈ lines, LineStored line := fun line hline =>
    (exported_stored hstored hnumbers line (hlines ▸ hline)).1
  obtain ⟨content, hexport, hrows⟩ := export_parsed hstrip hstored hctx
  rw [hlines] at hrows
  obtain ⟨entries, hsettled, hcount⟩ := attempts_rows hstrip hdistinct le_rfl hall
    (hnew.settled hctx'.hasSchool) hdraw
  obtain ⟨job, target', hstart, haccounts⟩ :=
    startImport_lines env clk draw hctx' hid hrows hfilename hmany
  have hschool := startImport_school hctx' hrows hstart
  rw [← hschool] at hsettled
  have htotal : ((lines.map rowOf).zipIdx 2).length = lines.length := by
    rw [List.length_zipIdx, List.length_map]
  have hfailed := haccounts.failedRows
  have hprocessed := haccounts.processedRows.symm.trans (haccounts.allProcessed.trans htotal)
  rw [List.length_nil, Nat.add_zero] at hcount
  have hsuccess : job.successRows = (arrivals lines).length := by
    unfold arrivals
    omega
  refine ⟨content, job, target', entries.map studentCells, hexport, hstart, ?_, ?_,
    haccounts.totalRows.trans (congrArg some htotal), hsuccess, by omega, ?_⟩
  · -- What the new school exports is what was entered.
    rw [getExport, hctx'.schoolId, found]
    rw [← hsettled.exported]
    rfl
  · -- Each student who arrives is exported with the cells that were read.
    have hcellsEq : entries.map studentCells = (arrivals lines).map strippedCells := by
      have hpairs := hsettled.moved
      exact (List.forall₂_eq_eq_eq ▸ List.forall₂_map_left_iff.mpr
        (List.forall₂_map_right_iff.mpr (hpairs.flip.imp fun _ _ hm => hm.cells)))
    rw [hcellsEq]
  · -- The import is completed when nobody stayed behind.
    rw [haccounts.completed, htotal, List.length_pos_iff]
    refine and_congr_right fun _ => ?_
    omega

/-! ### Once more -/

section Raising

variable {ε σ ι : Type} {f : ι → EStateM ε σ Unit} {l : List ι} {s : σ}

lemma attempts_of_raises (h : ∀ i ∈ l, Raises (f i) s) :
    (attempts f l s).2 = s ∧ (failed (attempts f l s).1).length = l.length := by
  induction l with
  | nil => exact ⟨rfl, rfl⟩
  | cons i l ih =>
    obtain ⟨⟨e, dirty, hraises⟩, htail⟩ := List.forall_mem_cons.mp h
    obtain ⟨hstate, hcount⟩ := ih htail
    rw [attempts_raises hraises]
    refine ⟨hstate, ?_⟩
    rw [failed_cons_some, List.length_cons, List.length_cons, hcount]

end Raising

open Imports in
/-- **Nobody is entered twice**: the file that a school exports changes nothing when the school
imports it, if there is no white space around the admission numbers. Every row fails. -/
theorem reimport_changes_nothing (env : ImportEnv) (hstrip : env.strip = strip) (start : SchoolDB)
    (hstart : start.Unpeopled) (calls : List PeopleCall)
    (hdates : ∀ c ∈ calls, ∀ d ∈ c.dates, d.Valid) (db : ImportDB)
    (hdb : db.toSchoolDB = run (PeopleCall.step env.toSchoolEnv) start calls)
    (ctx : RequestContext) (school : School) (hctx : InSchool ctx db.toSchoolDB school)
    (lines : List (Student × Person)) (hlines : exportedStudents db.toSchoolDB school.id = lines)
    (hnumbers : ∀ line ∈ lines, strip line.1.admissionNumber = line.1.admissionNumber)
    (hmany : lines.length < 2 ^ 29) (clk : Clock) (filename : String)
    (hfilename : varchar 255 (some filename) = true) (id : Ulid)
    (hid : ∀ j ∈ db.importJobs, j.id ≠ id) (draw : ℕ → Ulid × Ulid) :
    ∃ content job db', getExport db.toSchoolDB ctx .students = .ok content ∧
      startImport env clk ctx .students content filename id draw db = .ok (job, db') ∧
      db'.toSchoolDB = db.toSchoolDB ∧ job.status = .failed ∧ job.successRows = 0 ∧
      job.failedRows = lines.length := by
  have hstored : PeopleStored db.toSchoolDB := hdb ▸ peopleRun_stored hstart hdates
  have hbound : NumbersBound db.toSchoolDB := hdb ▸ peopleRun_numbers hstart calls
  obtain ⟨content, hexport, hrows⟩ := export_parsed hstrip hstored hctx.schoolId
  rw [hlines] at hrows
  have hraises : ∀ row ∈ (lines.map rowOf).zipIdx 2, Raises
      (Imports.attemptRow env ctx .students school.id school.organizationId draw row)
        db.toSchoolDB := by
    rintro ⟨row, i⟩ hrow
    obtain ⟨line, hline, rfl⟩ := List.mem_map.mp (List.fst_mem_of_mem_zipIdx hrow)
    obtain ⟨hline', hold, hschool⟩ := exported_stored hstored hbound line (hlines ▸ hline)
    cases hattempt : Imports.attemptRow env ctx .students school.id school.organizationId draw
        (rowOf line, i) db.toSchoolDB with
    | error cause dirty => exact ⟨cause, dirty, hattempt⟩
    | ok u db₁ =>
      -- The number is in use.
      obtain ⟨hproblems, himport⟩ := Imports.attemptRow_ok.mp hattempt
      have hnumber := ((problems_row hstrip hline').mp hproblems).2
      have hrecord := importRecord_row hstrip ctx school hline' hnumber
      obtain ⟨personId, db₂, hperson, himport⟩ := bind_through.mp himport
      rw [hrecord] at himport
      obtain ⟨_, -, hinsert⟩ := bind_ok.mp (write_ok.mp himport)
      obtain ⟨_, hchecks, -⟩ := bind_ok.mp hinsert
      have hsame : db₂.students = db.students := by
        obtain rfl | ⟨q, persons, -, -, rfl⟩ := importPerson_ok hperson
        · rfl
        · rfl
      refine absurd ⟨hschool, .inl (hnumbers line hline).symm⟩
        ((ensure_ok.mp hchecks).1 line.1 (hsame ▸ hold))
  obtain ⟨job, db', hstart, haccounts⟩ :=
    startImport_lines env clk draw hctx hid hrows hfilename hmany
  obtain ⟨hstate, hcount⟩ := attempts_of_raises hraises
  have htotal : ((lines.map rowOf).zipIdx 2).length = lines.length := by
    rw [List.length_zipIdx, List.length_map]
  have hfailed := haccounts.failedRows
  have hprocessed := haccounts.processedRows.symm.trans haccounts.allProcessed
  have hnone : job.successRows = 0 := by omega
  exact ⟨content, job, db', hexport, hstart, (startImport_school hctx hrows hstart).trans hstate,
    haccounts.failed.mpr hnone, hnone, by omega⟩

/-! ### Two sisters -/

/-- The phone of the family. -/
def familyPhone : Option String := some "555"

lemma familyPhone_length : ∀ s ∈ familyPhone, s.length ≤ 24 := by decide

/-- A request that enters a person with the phone of the family. -/
def enterSister (firstName : String)
    (h : 1 ≤ firstName.length ∧ firstName.length ≤ 100) (id : Ulid) : PeopleCall :=
  .person
    { ctx := staff
      clk := ⟨0, 0⟩
      op := .create
        { PersonTexts.none with
          firstName := firstName
          primaryPhone := familyPhone
          dateOfBirth := none
          addressId := none
          customFields := []
          firstName_length := h
          primaryPhone_length := familyPhone_length } id }

lemma eda_length : 1 ≤ "Eda".length ∧ "Eda".length ≤ 100 := by decide
lemma n3_length : 1 ≤ "N3".length ∧ "N3".length ≤ 50 := by decide

/-- Two students with one phone, and a third. -/
def enterSisters : List PeopleCall :=
  [enterSister " Ada" ada_length 61, admitPerson 61 "N1" n1_length 71,
    enterSister "Eda" eda_length 62, admitPerson 62 "N2" n2_length 72,
    enterPerson "Eda" eda_length 63, admitPerson 63 "N3" n3_length 73]

def sistersSchool : SchoolDB :=
  run (PeopleCall.step ImportEnv.stripping.toSchoolEnv) newSchool enterSisters

/-- A student of the school, with the person. -/
def sister (firstName number : String) (phone : Option String) (id personId : Ulid) :
    Student × Person :=
  (⟨id, 11, 101, personId, number, 738000, .active, none, none, none, staff.userId, none, 1⟩,
    ⟨personId, 101, firstName, none, none, none, none, none, none, none, phone, none, none, .active,
      none, [], none, staff.userId, none, 1⟩)

lemma sistersSchool_exported : exportedStudents sistersSchool 11 =
    [sister " Ada" "N1" familyPhone 71 61, sister "Eda" "N2" familyPhone 72 62,
      sister "Eda" "N3" none 73 63] := by
  decide +kernel

/-- A school of another organization, with nobody in it. -/
def otherSchool : School := ⟨12, 102, .active, none⟩

def otherDB : ImportDB :=
  (SchoolDB.empty { DB.empty with schools := [otherSchool] }).withoutImports

/-- A member of the staff of the other school. -/
def movedStaff : RequestContext :=
  { staff with organizationId := some 102, schoolId := some 12, accessibleSchoolIds := {12} }

def drawn (n : ℕ) : Ulid × Ulid := (.ofNat (900 + n), .ofNat (950 + n))

lemma otherDB_new : NewTenant otherSchool otherDB.toSchoolDB :=
  ⟨fun _ hs => absurd hs Table.not_mem_empty, fun _ hp => absurd hp Table.not_mem_empty⟩

lemma otherDB_undrawn (n : ℕ) : Undrawn drawn n 2 otherDB.toSchoolDB :=
  ⟨fun _ _ _ _ hp => absurd hp Table.not_mem_empty, fun _ _ _ _ hs => absurd hs Table.not_mem_empty⟩

open Imports in
theorem register_moves_sisters : (exportedStudents sistersSchool 11).length = 3 ∧
    (arrivals (exportedStudents sistersSchool 11)).length = 2 ∧ ∃ content job target' records,
      getExport sistersSchool staff .students = .ok content ∧
      startImport .stripping ⟨0, 0⟩ movedStaff .students content "s.csv" 901 drawn otherDB =
        .ok (job, target') ∧
      getExport target'.toSchoolDB movedStaff .students = .ok (generateStudentCsv records) ∧
      records.Perm ((arrivals (exportedStudents sistersSchool 11)).map strippedCells) ∧
      job.totalRows = some (exportedStudents sistersSchool 11).length ∧
      job.successRows = (arrivals (exportedStudents sistersSchool 11)).length ∧
      job.failedRows + job.successRows = (exportedStudents sistersSchool 11).length ∧
      (job.status = .completed ↔ exportedStudents sistersSchool 11 ≠ [] ∧
        (arrivals (exportedStudents sistersSchool 11)).length =
          (exportedStudents sistersSchool 11).length) := by
  have hthree : (exportedStudents sistersSchool 11).length = 3 := by
    rw [sistersSchool_exported]
    rfl
  have hmany : (exportedStudents sistersSchool 11).length < 2 ^ 29 := by
    rw [hthree]
    decide
  have hdistinct : Distinct drawn (2 + (exportedStudents sistersSchool 11).length) := by
    rw [hthree]
    unfold Distinct
    decide +kernel
  have htwo : (arrivals (exportedStudents sistersSchool 11)).length = 2 := by
    rw [sistersSchool_exported]
    decide +kernel
  exact ⟨hthree, htwo, register_moves .stripping rfl newSchool newSchool_unpeopled enterSisters
    (by decide +kernel) staff 11 rfl (exportedStudents sistersSchool 11) rfl hmany otherDB
    otherSchool movedStaff ⟨rfl, rfl, List.mem_singleton_self _⟩ otherDB_new ⟨0, 0⟩ "s.csv"
    (by decide +kernel) 901 nofun drawn hdistinct (otherDB_undrawn _)⟩

/-- School 11 takes its own file back. -/
theorem reimport_changes_nothing_sisters : (exportedStudents sistersSchool 11).length = 3 ∧
    ∃ content job db', getExport sistersSchool staff .students = .ok content ∧
      Imports.startImport .stripping ⟨0, 0⟩ staff .students content "s.csv" 901 drawn
        sistersSchool.withoutImports = .ok (job, db') ∧
      db'.toSchoolDB = sistersSchool ∧ job.status = .failed ∧ job.successRows = 0 ∧
      job.failedRows = (exportedStudents sistersSchool 11).length := by
  have hthree : (exportedStudents sistersSchool 11).length = 3 := by
    rw [sistersSchool_exported]
    rfl
  have hmany : (exportedStudents sistersSchool 11).length < 2 ^ 29 := by
    rw [hthree]
    decide
  have hthere : (⟨11, 101, .active, none⟩ : School) ∈ sistersSchool.core.schools := by
    decide +kernel
  have hstripped : ∀ line ∈ exportedStudents sistersSchool 11,
      strip line.1.admissionNumber = line.1.admissionNumber := by
    rw [sistersSchool_exported]
    decide +kernel
  exact ⟨hthree, reimport_changes_nothing .stripping rfl newSchool newSchool_unpeopled enterSisters
    (by decide +kernel) sistersSchool.withoutImports rfl staff ⟨11, 101, .active, none⟩
    ⟨rfl, rfl, hthere⟩ (exportedStudents sistersSchool 11) rfl hstripped hmany ⟨0, 0⟩
    "s.csv" (by decide +kernel) 901 (fun _ hj => absurd hj Table.not_mem_empty) drawn⟩

end SchoolOs
