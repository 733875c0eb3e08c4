import SchoolOs.Imports

/-!
What the rows of a file come to. A row is imported as a whole, with its person, or it leaves nothing
behind; and what is left of a file is what its good rows alone would leave.
-/

namespace SchoolOs

open Savepoints

namespace Imports

/-! ### Checks -/

/-- The row has the cells that the checks strip. A file may do without the columns, but a row that
stops short of one has `None` in it. -/
def CellsPresent : ImportResourceType → CsvRow → Prop
  | .students, row => row.lookup "status" ≠ some none
  | .teachers, row => row.lookup "joining_date" ≠ some none ∧ row.lookup "status" ≠ some none

instance decidableCellsPresent : (resourceType : ImportResourceType) → (row : CsvRow) →
    Decidable (CellsPresent resourceType row)
  | .students, row => inferInstanceAs (Decidable (row.lookup "status" ≠ some none))
  | .teachers, row => inferInstanceAs (Decidable (row.lookup "joining_date" ≠ some none ∧
      row.lookup "status" ≠ some none))

section Checks

variable {env : ImportEnv} {resourceType : ImportResourceType} {row : CsvRow × ℕ}
  {rows : List (CsvRow × ℕ)} {errors : List ImportError} {e : ImportError}

lemma stripped_ok (env : ImportEnv) {cells : CsvRow} {name : String} :
    (∃ s, stripped env cells name = .ok s) ↔ cells.lookup name ≠ some none := by
  unfold stripped
  cases cells.lookup name with
  | none => exact iff_of_true ⟨_, rfl⟩ nofun
  | some cell =>
    cases cell with
    | none => exact iff_of_false nofun fun h => h rfl
    | some s => exact iff_of_true ⟨_, rfl⟩ nofun

lemma validateRow_ok (env : ImportEnv) : (∃ errors, validateRow env resourceType row = .ok errors) ↔
    CellsPresent resourceType row.1 := by
  cases resourceType with
  | students =>
    refine Iff.trans ?_ (stripped_ok env)
    simp [validateRow, validateStudentRow, map_ok]
  | teachers =>
    refine Iff.trans ?_ (and_congr (stripped_ok env) (stripped_ok env))
    simp [validateRow, validateTeacherRow, bind_ok, map_ok]

/-- The errors of a row. -/
def problems (env : ImportEnv) (resourceType : ImportResourceType) (row : CsvRow × ℕ) :
    List ImportError :=
  (validateRow env resourceType row).toOption.getD []

lemma validateRow_eq (h : CellsPresent resourceType row.1) :
    validateRow env resourceType row = .ok (problems env resourceType row) := by
  obtain ⟨errors, herrors⟩ := (validateRow_ok env).mpr h
  rw [problems, herrors]
  rfl

lemma validateRows_eq (h : ∀ row ∈ rows, CellsPresent resourceType row.1) :
    validateRows env resourceType rows = .ok (rows.flatMap (problems env resourceType)) := by
  induction rows with
  | nil => rfl
  | cons row rest ih =>
    obtain ⟨hrow, hrest⟩ := List.forall_mem_cons.mp h
    simp only [validateRows, validateRow_eq hrow, ih hrest, ok_bind, List.flatMap_cons]
    rfl

lemma cellsPresent_of_validateRows (h : validateRows env resourceType rows = .ok errors) :
    ∀ row ∈ rows, CellsPresent resourceType row.1 := by
  induction rows generalizing errors with
  | nil => exact List.forall_mem_nil _
  | cons row rest ih =>
    obtain ⟨rowErrors, hrow, h⟩ := bind_ok.mp h
    obtain ⟨others, hrest, _⟩ := bind_ok.mp h
    exact List.forall_mem_cons.mpr ⟨(validateRow_ok env).mp ⟨rowErrors, hrow⟩, ih hrest⟩

/-- An entry of a check is about its row, and a column stores its text. -/
def Reports (i : ℕ) (e : ImportError) : Prop := e.row = i ∧ bindable e.message = true

lemma required_reports {cells : CsvRow} {i : ℕ} {name : String}
    (hname : bindable (name ++ " is required") = true) :
    ∀ e ∈ required cells i name, Reports i e := by
  unfold required
  split
  · exact List.forall_mem_nil _
  · exact List.forall_mem_singleton.mpr ⟨rfl, hname⟩

lemma dateCheck_reports {i : ℕ} {name s : String}
    (hname : bindable (name ++ " must be YYYY-MM-DD format") = true) :
    ∀ e ∈ dateCheck i name s, Reports i e := by
  unfold dateCheck
  split
  · exact List.forall_mem_nil _
  · exact List.forall_mem_singleton.mpr ⟨rfl, hname⟩

lemma statusCheck_reports {i : ℕ} {values : List String} {status : String}
    (hvalues : bindable ("status must be one of [" ++
      ", ".intercalate (values.map fun s => "'" ++ s ++ "'") ++ "]") = true) :
    ∀ e ∈ statusCheck i values status, Reports i e := by
  unfold statusCheck
  split
  · exact List.forall_mem_nil _
  · exact List.forall_mem_singleton.mpr ⟨rfl, hvalues⟩

lemma validateRow_reports (h : validateRow env resourceType row = .ok errors) :
    ∀ e ∈ errors, Reports row.2 e := by
  cases resourceType with
  | students =>
    obtain ⟨status, _, h⟩ := bind_ok.mp h
    obtain rfl := pure_ok.mp h
    simp only [List.forall_mem_append]
    refine ⟨⟨⟨required_reports (by decide), required_reports (by decide)⟩, ?_⟩,
      statusCheck_reports (by decide)⟩
    split
    · exact required_reports (by decide)
    · exact dateCheck_reports (by decide)
  | teachers =>
    obtain ⟨joiningDate, _, h⟩ := bind_ok.mp h
    obtain ⟨status, _, h⟩ := bind_ok.mp h
    obtain rfl := pure_ok.mp h
    simp only [List.forall_mem_append]
    refine ⟨⟨required_reports (by decide), ?_⟩, statusCheck_reports (by decide)⟩
    split
    · exact List.forall_mem_nil _
    · exact dateCheck_reports (by decide)

lemma problems_reports : ∀ e ∈ problems env resourceType row, Reports row.2 e := by
  unfold problems
  cases h : validateRow env resourceType row with
  | error e => exact List.forall_mem_nil _
  | ok errors => exact validateRow_reports h

end Checks

/-! ### The block of a row -/

section Blocks

variable {α : Type} {failure : RowFailure} {db db' : SchoolDB}

lemma orRaise_ok {x : Option α} {a : α} :
    orRaise failure x db = .ok a db' ↔ x = some a ∧ db = db' := by
  cases x with
  | none => exact iff_of_false nofun nofun
  | some b =>
    change EStateM.Result.ok b db = .ok a db' ↔ _
    simp

lemma write_ok {f : SchoolDB → Fallible SchoolDB} {u : Unit} :
    write failure f db = .ok u db' ↔ f db = .ok db' := by
  unfold write
  cases f db <;> simp

lemma pure_through {a b : α} : (pure a : RowBlock α) db = .ok b db' ↔ a = b ∧ db = db' := by
  change EStateM.Result.ok a db = .ok b db' ↔ _
  simp

end Blocks

/-- What a row adds to the school: a student or a teacher, and at most a person. -/
structure RowAdded (resourceType : ImportResourceType) (schoolId organizationId : Ulid)
    (db db' : SchoolDB) : Prop where
  person : db'.persons = db.persons ∨
    ∃ p, db.persons.insert p = some db'.persons ∧ p.organizationId = organizationId
  student : if resourceType = .students then
      ∃ s, db.students.insert s = some db'.students ∧ s.schoolId = schoolId
    else db'.students = db.students
  teacher : if resourceType = .teachers then
      ∃ t, db.teachers.insert t = some db'.teachers ∧ t.schoolId = schoolId
    else db'.teachers = db.teachers
  rest : db' = { db with
    persons := db'.persons, students := db'.students, teachers := db'.teachers }

section Rows

variable {env : ImportEnv} {ctx : RequestContext} {resourceType : ImportResourceType}
  {schoolId organizationId : Ulid} {draw : ℕ → Ulid × Ulid} {row : CsvRow × ℕ}
  {db db' : SchoolDB}

lemma findPerson_ok {column : Person → Option String} {value : Option String}
    {found : Option Person} (h : findPerson organizationId column value db = .ok found db') :
    db = db' := by
  cases value with
  | none => exact (pure_through.mp h).2
  | some s =>
    rw [findPerson] at h
    split at h
    · obtain ⟨_, db₁, hget, h⟩ := bind_through.mp h
      cases hget
      exact (pure_through.mp h).2
    · cases h

lemma existingPerson_ok {data : PersonCreate} {existing : Option Person}
    (h : existingPerson organizationId data db = .ok existing db') : db = db' := by
  obtain ⟨byEmail, db₁, hemail, h⟩ := bind_through.mp h
  obtain rfl := findPerson_ok hemail
  cases byEmail with
  | some p => exact (pure_through.mp h).2
  | none => exact findPerson_ok h

lemma importPerson_ok {cells : CsvRow} {id personId : Ulid}
    (h : importPerson ctx organizationId cells id db = .ok personId db') :
    db = db' ∨ ∃ p persons, p.organizationId = organizationId ∧
      db.persons.insert p = some persons ∧ db' = { db with persons := persons } := by
  obtain ⟨data, db₁, hdata, h⟩ := bind_through.mp h
  obtain ⟨-, rfl⟩ := orRaise_ok.mp hdata
  obtain ⟨existing, db₂, hexisting, h⟩ := bind_through.mp h
  obtain rfl := existingPerson_ok hexisting
  cases existing with
  | some p => exact .inl (pure_through.mp h).2
  | none =>
    obtain ⟨_, db₃, hwrite, h⟩ := bind_through.mp h
    obtain ⟨-, rfl⟩ := pure_through.mp h
    obtain ⟨persons, hinsert, rfl⟩ := Persons.insertRow_ok (write_ok.mp hwrite)
    exact .inr ⟨_, persons, rfl, hinsert, rfl⟩

lemma importRecord_ok {cells : CsvRow} {personId id : Ulid} {u : Unit}
    (h : importRecord env ctx resourceType schoolId organizationId cells personId id db =
      .ok u db') :
    (resourceType = .students ∧ ∃ s students, s.schoolId = schoolId ∧
        db.students.insert s = some students ∧ db' = { db with students := students }) ∨
      resourceType = .teachers ∧ ∃ t teachers, t.schoolId = schoolId ∧
        db.teachers.insert t = some teachers ∧ db' = { db with teachers := teachers } := by
  cases resourceType with
  | students =>
    obtain ⟨data, db₁, hdata, h⟩ := bind_through.mp h
    obtain ⟨-, rfl⟩ := orRaise_ok.mp hdata
    obtain ⟨students, hinsert, rfl⟩ := Students.insertRow_ok (write_ok.mp h)
    exact .inl ⟨rfl, _, students, rfl, hinsert, rfl⟩
  | teachers =>
    obtain ⟨data, db₁, hdata, h⟩ := bind_through.mp h
    obtain ⟨-, rfl⟩ := orRaise_ok.mp hdata
    obtain ⟨teachers, hinsert, rfl⟩ := Teachers.insertRow_ok (write_ok.mp h)
    exact .inr ⟨rfl, _, teachers, rfl, hinsert, rfl⟩

lemma importRow_ok {u : Unit}
    (h : importRow env ctx resourceType schoolId organizationId draw row db = .ok u db') :
    RowAdded resourceType schoolId organizationId db db' := by
  obtain ⟨personId, db₁, hperson, h⟩ := bind_through.mp h
  obtain ⟨rfl, s, students, hschool, hinsert, rfl⟩ | ⟨rfl, t, teachers, hschool, hinsert, rfl⟩ :=
    importRecord_ok h
  · obtain rfl | ⟨p, persons, horganization, hnew, rfl⟩ := importPerson_ok hperson
    · exact ⟨.inl rfl, ⟨s, hinsert, hschool⟩, rfl, rfl⟩
    · exact ⟨.inr ⟨p, hnew, horganization⟩, ⟨s, hinsert, hschool⟩, rfl, rfl⟩
  · obtain rfl | ⟨p, persons, horganization, hnew, rfl⟩ := importPerson_ok hperson
    · exact ⟨.inl rfl, rfl, ⟨t, hinsert, hschool⟩, rfl⟩
    · exact ⟨.inr ⟨p, hnew, horganization⟩, rfl, ⟨t, hinsert, hschool⟩, rfl⟩

/-! ### The loop over the rows -/

/-- A row of the loop: it raises if a check finds errors in it, or if its block does. -/
def attemptRow (env : ImportEnv) (ctx : RequestContext) (resourceType : ImportResourceType)
    (schoolId organizationId : Ulid) (draw : ℕ → Ulid × Ulid) (row : CsvRow × ℕ) :
    EStateM (Option RowFailure) SchoolDB Unit := fun db =>
  if problems env resourceType row ≠ [] then .error none db
  else match importRow env ctx resourceType schoolId organizationId draw row db with
    | .ok u db' => .ok u db'
    | .error failure dirty => .error (some failure) dirty

lemma attemptRow_ok :
    attemptRow env ctx resourceType schoolId organizationId draw row db = .ok () db' ↔
      problems env resourceType row = [] ∧
        importRow env ctx resourceType schoolId organizationId draw row db = .ok () db' := by
  unfold attemptRow
  by_cases hproblems : problems env resourceType row = []
  · rw [if_neg (not_not.mpr hproblems)]
    cases importRow env ctx resourceType schoolId organizationId draw row db <;>
      simp [hproblems]
  · rw [if_pos hproblems]
    simp [hproblems]

variable {p : Progress} {rows : List (CsvRow × ℕ)}

lemma processRow_through (hcells : CellsPresent resourceType row.1)
    (h : attemptRow env ctx resourceType schoolId organizationId draw row p.db = .ok () db') :
    processRow env ctx resourceType schoolId organizationId draw row p =
      .ok { p with db := db', successRows := p.successRows + 1 } := by
  obtain ⟨hproblems, himport⟩ := attemptRow_ok.mp h
  rw [processRow, validateRow_eq hcells, ok_bind, if_neg (not_not.mpr hproblems),
    nested_ok.mpr himport]
  rfl

/-- A row that fails leaves the database as it was, and an entry in the summary: one of the checks,
or a new one. -/
lemma processRow_raises (hcells : CellsPresent resourceType row.1) {cause : Option RowFailure}
    {dirty : SchoolDB}
    (h : attemptRow env ctx resourceType schoolId organizationId draw row p.db =
      .error cause dirty) :
    ∃ entries, processRow env ctx resourceType schoolId organizationId draw row p =
        .ok { p with failedRows := p.failedRows + 1, rowErrors := p.rowErrors ++ entries } ∧
      (∀ e ∈ entries, bindable e.message = true) ∧
      (problems env resourceType row ≠ [] ∨ ∃ e ∈ entries, e.row = row.2) := by
  rw [processRow, validateRow_eq hcells, ok_bind]
  unfold attemptRow at h
  by_cases hproblems : problems env resourceType row = []
  · rw [if_neg (not_not.mpr hproblems)] at h ⊢
    cases himport : importRow env ctx resourceType schoolId organizationId draw row p.db with
    | ok u db' => rw [himport] at h; cases h
    | error failure dirty =>
      rw [nested_error.mpr ⟨⟨dirty, himport⟩, rfl⟩]
      refine ⟨[⟨row.2, "row", env.failureText p.db row.2 row.1 failure⟩], rfl, ?_, .inr ?_⟩
      · exact List.forall_mem_singleton.mpr (env.failureText_bindable ..)
      · exact ⟨_, List.mem_singleton_self _, rfl⟩
  · rw [if_pos hproblems]
    refine ⟨[], ?_, List.forall_mem_nil _, .inl hproblems⟩
    rw [List.append_nil]
    rfl

/-- **The loop**: it leaves what the rows come to, counts them, and has an entry for each that
fails. -/
theorem processRows_eq (env : ImportEnv) (ctx : RequestContext) (schoolId organizationId : Ulid)
    (draw : ℕ → Ulid × Ulid) (p : Progress)
    (hcells : ∀ row ∈ rows, CellsPresent resourceType row.1) :
    ∃ entries, processRows env ctx resourceType schoolId organizationId draw rows p = .ok
        ⟨(attempts (attemptRow env ctx resourceType schoolId organizationId draw) rows p.db).2,
          p.successRows + (succeeded (attempts
            (attemptRow env ctx resourceType schoolId organizationId draw) rows p.db).1).length,
          p.failedRows + (failed (attempts
            (attemptRow env ctx resourceType schoolId organizationId draw) rows p.db).1).length,
          p.rowErrors ++ entries⟩ ∧
      (∀ e ∈ entries, bindable e.message = true) ∧
      ∀ row ∈ failed (attempts
          (attemptRow env ctx resourceType schoolId organizationId draw) rows p.db).1,
        problems env resourceType row ≠ [] ∨ ∃ e ∈ entries, e.row = row.2 := by
  induction rows generalizing p with
  | nil =>
    refine ⟨[], ?_, List.forall_mem_nil _, nofun⟩
    rw [List.append_nil]
    rfl
  | cons row rest ih =>
    obtain ⟨hrow, hrest⟩ := List.forall_mem_cons.mp hcells
    cases h : attemptRow env ctx resourceType schoolId organizationId draw row p.db with
    | ok u db' =>
      -- The row goes through.
      obtain ⟨entries, hrun, htexts, hentries⟩ :=
        ih { p with db := db', successRows := p.successRows + 1 } hrest
      refine ⟨entries, ?_, htexts, ?_⟩
      · rw [processRows, processRow_through hrow h, ok_bind, hrun, attempts_through h,
          succeeded_cons_none, failed_cons_none, List.length_cons]
        simp only [Nat.add_assoc, Nat.add_comm 1]
      · rw [attempts_through h, failed_cons_none]
        exact hentries
    | error cause dirty =>
      -- Its block raises, and the savepoint is left.
      obtain ⟨own, hstep, hown, hreports⟩ := processRow_raises hrow h
      obtain ⟨entries, hrun, htexts, hentries⟩ :=
        ih { p with failedRows := p.failedRows + 1, rowErrors := p.rowErrors ++ own } hrest
      refine ⟨own ++ entries, ?_, List.forall_mem_append.mpr ⟨hown, htexts⟩, ?_⟩
      · rw [processRows, hstep, ok_bind, hrun, attempts_raises h, succeeded_cons_some,
          failed_cons_some, List.length_cons, List.append_assoc]
        simp only [Nat.add_assoc, Nat.add_comm 1]
      · rw [attempts_raises h, failed_cons_some]
        refine List.forall_mem_cons.mpr ⟨?_, fun row hrow => ?_⟩
        · exact hreports.imp_right fun ⟨e, he, hnumber⟩ => ⟨e, List.mem_append_left _ he, hnumber⟩
        · exact (hentries row hrow).imp_right fun ⟨e, he, hnumber⟩ =>
            ⟨e, List.mem_append_right _ he, hnumber⟩

end Rows

/-! ### Atomicity -/

/-- What came of a row: it is added as a whole, or it fails and nothing changes. -/
inductive RowOutcome (env : ImportEnv) (ctx : RequestContext) (resourceType : ImportResourceType)
    (school : School) (draw : ℕ → Ulid × Ulid) :
    (CsvRow × ℕ) × Option (Option RowFailure) → SchoolDB → SchoolDB → Prop
  | added {row : CsvRow × ℕ} {db db' : SchoolDB}
      (imported : importRow env ctx resourceType school.id school.organizationId draw row db =
        .ok () db')
      (added : RowAdded resourceType school.id school.organizationId db db') :
      RowOutcome env ctx resourceType school draw (row, none) db db'
  | failed {row : CsvRow × ℕ} {cause : Option RowFailure} {db : SchoolDB}
      (raises : Raises (attemptRow env ctx resourceType school.id school.organizationId draw row)
        db) :
      RowOutcome env ctx resourceType school draw (row, some cause) db db

lemma rowOutcome_of_attempt {env : ImportEnv} {ctx : RequestContext}
    {resourceType : ImportResourceType} {school : School} {draw : ℕ → Ulid × Ulid}
    (o : (CsvRow × ℕ) × Option (Option RowFailure)) (db db' : SchoolDB)
    (h : Outcome (attemptRow env ctx resourceType school.id school.organizationId draw) o db db') :
    RowOutcome env ctx resourceType school draw o db db' := by
  cases h with
  | success through =>
    have himport := (attemptRow_ok.mp through).2
    exact .added himport (importRow_ok himport)
  | failure raises => exact .failed ⟨_, _, raises⟩

lemma cellsPresent_of_complete {row : CsvRow} (h : ∀ cell ∈ row, cell.2 ≠ none)
    (resourceType : ImportResourceType) : CellsPresent resourceType row := by
  have hlookup : ∀ name, row.lookup name ≠ some none := fun name hname =>
    match List.lookup_eq_some_iff.mp hname with
    | ⟨before, after, hrow, _⟩ => h (name, none) (hrow ▸ List.mem_append_right before
        (List.mem_cons_self ..)) rfl
  cases resourceType with
  | students => exact hlookup _
  | teachers => exact ⟨hlookup _, hlookup _⟩

/-- **Rows are atomic**: the loop takes each row as a whole or not at all, and leaves what the rows
that succeed leave when they alone are imported, with no savepoints. -/
theorem import_rows_atomic (env : ImportEnv) (ctx : RequestContext)
    (resourceType : ImportResourceType) (school : School) (draw : ℕ → Ulid × Ulid)
    (rows : List (CsvRow × ℕ)) (p : Progress)
    (hcells : ∀ row ∈ rows, ∀ cell ∈ row.1, cell.2 ≠ none) :
    ∃ p' outcomes,
      processRows env ctx resourceType school.id school.organizationId draw rows p = .ok p' ∧
      outcomes.map Prod.fst = rows ∧
      p'.successRows = p.successRows + (succeeded outcomes).length ∧
      p'.failedRows = p.failedRows + (failed outcomes).length ∧
      Steps (RowOutcome env ctx resourceType school draw) outcomes p.db p'.db ∧
      Steps (fun row db db' => importRow env ctx resourceType school.id school.organizationId draw
        row db = .ok () db') (succeeded outcomes) p.db p'.db := by
  obtain ⟨entries, hrun, _, _⟩ := processRows_eq env ctx school.id school.organizationId draw p
    fun row hrow => cellsPresent_of_complete (hcells row hrow) resourceType
  refine ⟨_, _, hrun, attempts_items, rfl, rfl, ?_, ?_⟩
  · exact attempts_outcomes.mono rowOutcome_of_attempt
  · exact attempts_replay.mono fun row db db' h => (attemptRow_ok.mp h).2

/-- A student, a row that lacks a date, and the same student again. -/
def threeRows : List (CsvRow × ℕ) :=
  [([("first_name", some "Dana"), ("admission_number", some "N9"),
      ("admission_date", some "2024-01-15")], 2),
    ([("first_name", some "Eda"), ("admission_number", some "N10"), ("admission_date", some "")],
      3),
    ([("first_name", some "Dana"), ("admission_number", some "N9"),
      ("admission_date", some "2024-01-15")], 4)]

theorem import_rows_atomic_three : ∃ p' outcomes,
    processRows .plain staff .students 11 101 (fun n => (.ofNat (900 + n), .ofNat (950 + n)))
      threeRows ⟨smallSchool, 0, 0, []⟩ = .ok p' ∧
    outcomes.map Prod.fst = threeRows ∧ p'.successRows = 0 + (succeeded outcomes).length ∧
    p'.failedRows = 0 + (failed outcomes).length ∧
    Steps (RowOutcome .plain staff .students ⟨11, 101, .active, none⟩
      fun n => (.ofNat (900 + n), .ofNat (950 + n))) outcomes smallSchool p'.db ∧
    Steps (fun row db db' => importRow .plain staff .students 11 101
      (fun n => (.ofNat (900 + n), .ofNat (950 + n))) row db = .ok () db') (succeeded outcomes)
      smallSchool p'.db :=
  import_rows_atomic .plain staff .students ⟨11, 101, .active, none⟩
    (fun n => (.ofNat (900 + n), .ofNat (950 + n))) threeRows ⟨smallSchool, 0, 0, []⟩
    (by decide)

end Imports

end SchoolOs
