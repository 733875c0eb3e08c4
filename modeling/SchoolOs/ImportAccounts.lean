import SchoolOs.ImportRows

/-!
The account that an import job keeps of a file: how many rows there were, how many went in, how many
failed and where.
-/

namespace SchoolOs

open Savepoints

/-- The job accounts for the rows of a file, of which some failed. -/
structure ImportJob.Accounts (job : ImportJob) (rows fails : List (CsvRow × ℕ)) : Prop where
  totalRows : job.totalRows = some rows.length
  processedRows : job.processedRows = job.successRows + job.failedRows
  allProcessed : job.processedRows = rows.length
  failedRows : job.failedRows = fails.length
  completed : job.status = .completed ↔ 0 < rows.length ∧ job.failedRows = 0
  failed : job.status = .failed ↔ job.successRows = 0
  partialImport : job.status = .partialImport ↔
    ¬ (0 < rows.length ∧ job.failedRows = 0) ∧ job.successRows ≠ 0
  reported : ∀ row ∈ fails, ∃ errors ∈ job.errorSummary, ∃ e ∈ errors, e.row = row.2

namespace Imports

/-- The school context of a request. -/
structure InSchool (ctx : RequestContext) (db : SchoolDB) (school : School) : Prop where
  schoolId : ctx.schoolId = some school.id
  organizationId : ctx.organizationId = some school.organizationId
  there : school ∈ db.core.schools

/-- The data rows of a file, with their numbers: the header is row 1. A file that does not parse has
none. -/
def dataRows (env : ImportEnv) (content : ByteArray) : List (CsvRow × ℕ) :=
  ((parseCsv env content).toOption.getD []).zipIdx 2

/-- The data rows that fail, each in the state that the rows before it leave. -/
def failedRows (env : ImportEnv) (ctx : RequestContext) (resourceType : ImportResourceType)
    (school : School) (draw : ℕ → Ulid × Ulid) (content : ByteArray) (db : SchoolDB) :
    List (CsvRow × ℕ) :=
  failed (attempts (attemptRow env ctx resourceType school.id school.organizationId draw)
    (dataRows env content) db).1

/-- What keeps an import from raising: the name of the file fits its column, no data row stops short
of a cell that the checks strip, and the numbers of rows and of errors in them fit their columns. -/
structure Accountable (env : ImportEnv) (resourceType : ImportResourceType) (content : ByteArray)
    (filename : String) : Prop where
  filename : varchar 255 (some filename) = true
  cells : ∀ row ∈ dataRows env content, CellsPresent resourceType row.1
  rows : int4 (dataRows env content).length = true
  errors : int4 ((dataRows env content).flatMap (problems env resourceType)).length = true

section Texts

variable {env : ImportEnv} {exc : String}

lemma stripCell_bindable {cell : Csv.Cell} (h : stripCell env cell = .error exc) :
    bindable exc = true := by
  cases cell with
  | text s => cases h
  | missing => cases h
  | surplus fields =>
    cases h
    decide

lemma stripRow_bindable {cells : List (Option String × Csv.Cell)} {row : CsvRow}
    (h : stripRow env cells row = .error exc) : bindable exc = true := by
  induction cells generalizing row with
  | nil => cases h
  | cons cell rest ih =>
    obtain ⟨name, value⟩ := cell
    cases name with
    | none =>
      cases h
      decide
    | some name =>
      rw [stripRow] at h
      cases hcell : stripCell env value with
      | error e =>
        rw [hcell] at h
        cases h
        exact stripCell_bindable hcell
      | ok text =>
        rw [hcell] at h
        exact ih h

lemma readRows_bindable {text : String} (h : readRows env text = .error exc) :
    bindable exc = true := by
  unfold readRows at h
  cases hread : (Csv.rows text).1.mapM fun row => stripRow env row [] with
  | error e =>
    rw [hread] at h
    cases h
    obtain ⟨row, _, hrow⟩ := mapM_error hread
    exact stripRow_bindable hrow
  | ok rows =>
    rw [hread, ok_bind] at h
    split at h
    · next e _ =>
      cases h
      cases e <;> decide
    · cases h

lemma parseCsv_bindable {content : ByteArray} (h : parseCsv env content = .error exc) :
    bindable exc = true := by
  unfold parseCsv at h
  cases htext : decodeUtf8Sig content with
  | none =>
    rw [htext] at h
    cases h
    exact bindable_append (by decide) (env.decodeText_bindable content)
  | some text =>
    rw [htext] at h
    cases hread : readRows env text with
    | error e =>
      simp only [hread] at h
      cases h
      exact bindable_append (by decide) (readRows_bindable hread)
    | ok rows =>
      simp only [hread] at h
      cases h

end Texts

section Jobs

variable {env : ImportEnv} {clk : Clock} {ctx : RequestContext}
  {resourceType : ImportResourceType} {school : School} {content : ByteArray} {filename : String}
  {id : Ulid} {draw : ℕ → Ulid × Ulid} {db db' : ImportDB} {job : ImportJob}

lemma fits_of_createJob (h : createJob db job = .ok db') : job.Fits := by
  obtain ⟨_, hfits, _⟩ := bind_ok.mp h
  exact ensure_ok.mp hfits

lemma createJob_eq (hfits : job.Fits) (hid : ∀ j ∈ db.importJobs, j.id ≠ job.id)
    (hschool : db.HasSchool job.schoolId) :
    ∃ importJobs, createJob db job = .ok { db with importJobs := importJobs } := by
  obtain ⟨importJobs, hinsert⟩ := Table.insert_of_fresh hid
  exact ⟨importJobs, bind_ok.mpr ⟨(), ensure_ok.mpr hfits, bind_ok.mpr
    ⟨importJobs, found_ok.mpr hinsert, bind_ok.mpr ⟨(), ensure_ok.mpr hschool, rfl⟩⟩⟩⟩

lemma InSchool.hasSchool (h : InSchool ctx db.toSchoolDB school) : db.HasSchool school.id :=
  ⟨school, h.there, rfl⟩

/-! ### A file without rows -/

lemma failedJob_fits (clk : Clock) {message : String} (hmessage : bindable message = true) :
    (failedJob clk ctx resourceType school.id school.organizationId filename id message).Fits ↔
      varchar 255 (some filename) = true := by
  simp [ImportJob.Fits, failedJob, hmessage, int4]

lemma failedJob_accounts {message : String} :
    (failedJob clk ctx resourceType school.id school.organizationId filename id message).Accounts
      [] [] where
  totalRows := rfl
  processedRows := rfl
  allProcessed := rfl
  failedRows := rfl
  completed := by simp [failedJob]
  failed := by simp [failedJob]
  partialImport := by simp [failedJob]
  reported := nofun

lemma recordFailure_iff (hctx : InSchool ctx db.toSchoolDB school)
    (hid : ∀ j ∈ db.importJobs, j.id ≠ id) {message : String} (hmessage : bindable message = true) :
    (∃ job db', (do
        let db ← createJob db
          (failedJob clk ctx resourceType school.id school.organizationId filename id message)
        return (failedJob clk ctx resourceType school.id school.organizationId filename id message,
          db)) = (.ok (job, db') : Fallible (ImportJob × ImportDB)) ∧ job.Accounts [] []) ↔
      varchar 255 (some filename) = true := by
  constructor
  · rintro ⟨job, db', h, -⟩
    obtain ⟨db₁, hcreate, -⟩ := bind_ok.mp h
    exact (failedJob_fits clk hmessage).mp (fits_of_createJob hcreate)
  · intro hfilename
    obtain ⟨importJobs, hcreate⟩ := createJob_eq
      ((failedJob_fits clk hmessage).mpr hfilename) hid hctx.hasSchool
    exact ⟨_, _, bind_ok.mpr ⟨_, hcreate, rfl⟩, failedJob_accounts⟩

/-! ### A file with rows -/

section Finished

variable {p : Progress} {rows : List (CsvRow × ℕ)} {errors entries : List ImportError}

lemma finalStatus_completed {s f : ℕ} : finalStatus s f = .completed ↔ f = 0 := by
  unfold finalStatus
  split_ifs <;> simp_all

lemma finalStatus_failed {s f : ℕ} (h : 0 < s + f) : finalStatus s f = .failed ↔ s = 0 := by
  unfold finalStatus
  split_ifs
  · exact iff_of_false nofun (by omega)
  · exact iff_of_false nofun (by omega)
  · exact iff_of_true rfl (by omega)

lemma finalStatus_partialImport {s f : ℕ} :
    finalStatus s f = .partialImport ↔ f ≠ 0 ∧ s ≠ 0 := by
  unfold finalStatus
  split_ifs
  · exact iff_of_false nofun (by omega)
  · exact iff_of_true rfl (by omega)
  · exact iff_of_false nofun (by omega)

lemma summary_reports {l : List ImportError} {i : ℕ} (h : ∃ e ∈ l, e.row = i) :
    ∃ errors ∈ summary l, ∃ e ∈ errors, e.row = i := by
  obtain ⟨e, he, hrow⟩ := h
  have hne : l ≠ [] := List.ne_nil_of_mem he
  exact ⟨l, by simp [summary, hne], e, he, hrow⟩

lemma summary_texts {l : List ImportError} (h : ∀ e ∈ l, bindable e.message = true) :
    ∀ errors ∈ summary l, ∀ e ∈ errors, bindable e.message = true := by
  intro errors herrors
  unfold summary at herrors
  split at herrors
  · cases herrors
  · obtain rfl : l = errors := by simpa using herrors
    exact h

lemma problems_texts : ∀ e ∈ rows.flatMap (problems env resourceType),
    bindable e.message = true := by
  intro e he
  obtain ⟨row, _, he⟩ := List.mem_flatMap.mp he
  exact (problems_reports e he).2

lemma startedJob_fits {n : ℕ} :
    (startedJob clk ctx resourceType school.id school.organizationId filename id n
      (rows.flatMap (problems env resourceType))).Fits ↔
      varchar 255 (some filename) = true ∧ int4 n = true ∧
        int4 (rows.flatMap (problems env resourceType)).length = true := by
  have htexts := summary_texts (@problems_texts env resourceType rows)
  simp only [ImportJob.Fits, startedJob]
  constructor
  · rintro ⟨hfilename, hrows, -, -, herrors, -⟩
    exact ⟨hfilename, hrows n rfl, herrors⟩
  · rintro ⟨hfilename, hrows, herrors⟩
    refine ⟨hfilename, ?_, rfl, rfl, herrors, htexts⟩
    rintro _ ⟨⟩
    exact hrows

lemma int4_le {m n : ℕ} (hn : int4 n = true) (h : m ≤ n) : int4 m = true := by
  simp only [int4, Bool.and_eq_true, decide_eq_true_eq] at hn ⊢
  omega

lemma finishedJob_accounts {fails : List (CsvRow × ℕ)} (hrows : rows ≠ [])
    (htotal : job.totalRows = some rows.length)
    (hcount : p.successRows + p.failedRows = rows.length) (hfails : p.failedRows = fails.length)
    (hreports : ∀ row ∈ fails, ∃ e ∈ p.rowErrors, e.row = row.2) :
    (finishedJob clk job p).Accounts rows fails := by
  have hpos : 0 < rows.length := List.length_pos_of_ne_nil hrows
  exact {
    totalRows := htotal
    processedRows := rfl
    allProcessed := hcount
    failedRows := hfails
    completed := finalStatus_completed.trans (and_iff_right hpos).symm
    failed := finalStatus_failed (hcount ▸ hpos)
    partialImport := by
      refine finalStatus_partialImport.trans (and_congr_left' ?_)
      simp [finishedJob, hpos]
    reported := fun row hrow => summary_reports (hreports row hrow) }

lemma finishedJob_fits {n : ℕ} (hjob : job.Fits) (hn : int4 n = true)
    (hcount : p.successRows + p.failedRows = n)
    (htexts : ∀ e ∈ p.rowErrors, bindable e.message = true) : (finishedJob clk job p).Fits := by
  obtain ⟨hfilename, htotal, -⟩ := hjob
  exact ⟨hfilename, htotal, int4_le hn hcount.le,
    int4_le hn ((Nat.le_add_right ..).trans hcount.le),
    int4_le hn ((Nat.le_add_left ..).trans hcount.le), summary_texts htexts⟩

end Finished

lemma importRows_iff (hctx : InSchool ctx db.toSchoolDB school)
    (hid : ∀ j ∈ db.importJobs, j.id ≠ id) {rows : List CsvRow} (hrows : rows ≠ []) :
    (∃ job db', importRows env clk ctx resourceType school.id school.organizationId filename id
        draw rows db = .ok (job, db') ∧ job.Accounts (rows.zipIdx 2) (failed (attempts
          (attemptRow env ctx resourceType school.id school.organizationId draw)
          (rows.zipIdx 2) db.toSchoolDB).1)) ↔
      varchar 255 (some filename) = true ∧
        (∀ row ∈ rows.zipIdx 2, CellsPresent resourceType row.1) ∧ int4 rows.length = true ∧
        int4 ((rows.zipIdx 2).flatMap (problems env resourceType)).length = true := by
  constructor
  · -- The job was stored, so its columns take the counts.
    rintro ⟨job, db', h, -⟩
    obtain ⟨errors, hvalidate, h⟩ := bind_ok.mp h
    obtain ⟨db₁, hcreate, -⟩ := bind_ok.mp h
    have hcells := cellsPresent_of_validateRows hvalidate
    obtain rfl : _ = errors := Except.ok.inj ((validateRows_eq hcells).symm.trans hvalidate)
    obtain ⟨hfilename, hcount, herrors⟩ := startedJob_fits.mp (fits_of_createJob hcreate)
    exact ⟨hfilename, hcells, hcount, herrors⟩
  · -- Each failed row is in the summary: by a check, or by what its block raised.
    rintro ⟨hfilename, hcells, hcount, herrors⟩
    have hfits : (startedJob clk ctx resourceType school.id school.organizationId filename id
        rows.length ((rows.zipIdx 2).flatMap (problems env resourceType))).Fits :=
      startedJob_fits.mpr ⟨hfilename, hcount, herrors⟩
    obtain ⟨importJobs, hcreate⟩ := createJob_eq hfits hid hctx.hasSchool
    obtain ⟨entries, hrun, htexts, hentries⟩ := processRows_eq env ctx school.id
      school.organizationId draw
      ⟨db.toSchoolDB, 0, 0, (rows.zipIdx 2).flatMap (problems env resourceType)⟩ hcells
    simp only [Nat.zero_add] at hrun
    have htotal : (rows.zipIdx 2).length = rows.length := List.length_zipIdx
    refine ⟨_, _, bind_ok.mpr ⟨_, validateRows_eq hcells, bind_ok.mpr ⟨_, hcreate, bind_ok.mpr
      ⟨_, hrun, bind_ok.mpr ⟨_, bind_ok.mpr ⟨(), ensure_ok.mpr ?_, rfl⟩, rfl⟩⟩⟩⟩, ?_⟩
    · exact finishedJob_fits hfits hcount (succeeded_add_failed.trans htotal)
        (List.forall_mem_append.mpr ⟨problems_texts, htexts⟩)
    · refine finishedJob_accounts (by simpa using hrows) (congrArg some htotal.symm)
        succeeded_add_failed rfl fun row hrow => ?_
      obtain hproblems | ⟨e, he, hnumber⟩ := hentries row hrow
      · obtain ⟨e, he⟩ := List.exists_mem_of_ne_nil _ hproblems
        refine ⟨e, List.mem_append_left _ (List.mem_flatMap.mpr ⟨row, ?_, he⟩),
          (problems_reports e he).1⟩
        exact failed_sublist.subset hrow
      · exact ⟨e, List.mem_append_right _ he, hnumber⟩

end Jobs

/-! ### Every file -/

lemma accountable_iff {env : ImportEnv} {resourceType : ImportResourceType} {content : ByteArray}
    {filename : String} : Accountable env resourceType content filename ↔
      varchar 255 (some filename) = true ∧
        (∀ row ∈ dataRows env content, CellsPresent resourceType row.1) ∧
        int4 (dataRows env content).length = true ∧
        int4 ((dataRows env content).flatMap (problems env resourceType)).length = true :=
  ⟨fun ⟨hfilename, hcells, hrows, herrors⟩ => ⟨hfilename, hcells, hrows, herrors⟩,
    fun ⟨hfilename, hcells, hrows, herrors⟩ => ⟨hfilename, hcells, hrows, herrors⟩⟩

/-- **The account of an import**: a file is accounted for exactly when its name fits its column, no
data row stops short of a cell that the checks strip, and the numbers of its rows and of the errors
in them fit theirs. Otherwise the import raises. -/
theorem import_accounted_iff (env : ImportEnv) (clk : Clock) (ctx : RequestContext)
    (resourceType : ImportResourceType) (school : School) (content : ByteArray)
    (filename : String) (id : Ulid) (draw : ℕ → Ulid × Ulid) (db : ImportDB)
    (hctx : InSchool ctx db.toSchoolDB school) (hid : ∀ j ∈ db.importJobs, j.id ≠ id) :
    (∃ job db', startImport env clk ctx resourceType content filename id draw db =
        .ok (job, db') ∧ job.Accounts (dataRows env content)
          (failedRows env ctx resourceType school draw content db.toSchoolDB)) ↔
      Accountable env resourceType content filename := by
  rw [accountable_iff]
  unfold startImport failedRows dataRows
  simp only [hctx.schoolId, hctx.organizationId, found, ok_bind]
  cases hparse : parseCsv env content with
  | error exc =>
    refine (recordFailure_iff hctx hid (parseCsv_bindable hparse)).trans ?_
    simp [Except.toOption, int4]
  | ok rows =>
    cases rows with
    | nil =>
      refine (recordFailure_iff hctx hid (by decide)).trans ?_
      simp [Except.toOption, int4]
    | cons row rest =>
      refine (importRows_iff hctx hid (List.cons_ne_nil row rest)).trans ?_
      simp [Except.toOption]

/-- A file with a student for whom the status is left out, after a header with or without its
column. -/
def oneStudent (header : String) : ByteArray :=
  (header ++ "\nDana,N9,2024-01-15\n").toUTF8

theorem import_accounted_one : ∃ job db',
    startImport .plain ⟨0, 0⟩ staff .students
      (oneStudent "first_name,admission_number,admission_date") "students.csv" 901
      (fun n => (.ofNat (910 + n), .ofNat (950 + n))) smallSchool.withoutImports =
      .ok (job, db') ∧ job.Accounts
        (dataRows .plain (oneStudent "first_name,admission_number,admission_date"))
        (failedRows .plain staff .students ⟨11, 101, .active, none⟩
          (fun n => (.ofNat (910 + n), .ofNat (950 + n)))
          (oneStudent "first_name,admission_number,admission_date") smallSchool) := by
  refine (import_accounted_iff .plain ⟨0, 0⟩ staff .students ⟨11, 101, .active, none⟩ _ _ 901 _
    smallSchool.withoutImports ⟨rfl, rfl, ?_⟩ nofun).mpr (accountable_iff.mpr ?_)
  · decide
  · have hrows : dataRows .plain (oneStudent "first_name,admission_number,admission_date") =
        [([("first_name", some "Dana"), ("admission_number", some "N9"),
          ("admission_date", some "2024-01-15")], 2)] := by
      decide +kernel
    rw [hrows]
    decide +kernel

/-- The row stops before the column of the status: the check has no text to strip. -/
theorem short_row_raises : ¬ ∀ (env : ImportEnv) (clk : Clock) (ctx : RequestContext)
    (resourceType : ImportResourceType) (school : School) (content : ByteArray)
    (filename : String) (id : Ulid) (draw : ℕ → Ulid × Ulid) (db : ImportDB),
    InSchool ctx db.toSchoolDB school → (∀ j ∈ db.importJobs, j.id ≠ id) →
      ∃ job db', startImport env clk ctx resourceType content filename id draw db =
        .ok (job, db') ∧ job.Accounts (dataRows env content)
          (failedRows env ctx resourceType school draw content db.toSchoolDB) := by
  intro claim
  obtain ⟨job, db', h, -⟩ := claim .plain ⟨0, 0⟩ staff .students ⟨11, 101, .active, none⟩
    (oneStudent "first_name,admission_number,admission_date,status") "students.csv" 901
    (fun n => (.ofNat (910 + n), .ofNat (950 + n))) smallSchool.withoutImports
    ⟨rfl, rfl, by decide⟩ nofun
  have herror : (startImport .plain ⟨0, 0⟩ staff .students
      (oneStudent "first_name,admission_number,admission_date,status") "students.csv" 901
      (fun n => (.ofNat (910 + n), .ofNat (950 + n))) smallSchool.withoutImports).isOk = false := by
    decide +kernel
  rw [h] at herror
  cases herror

end Imports

end SchoolOs
