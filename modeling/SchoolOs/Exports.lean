import SchoolOs.CsvWriter
import SchoolOs.Imports
import SchoolOs.IsoTexts
import SchoolOs.WhiteSpace

/-!
Exports: the students and the teachers of a school as comma-separated text, and what the import
reads of it.
-/

namespace SchoolOs

/-! ### Columns -/

def studentColumns : List String :=
  ["first_name", "last_name", "primary_email", "primary_phone", "admission_number",
    "admission_date", "status"]

def teacherColumns : List String :=
  ["first_name", "last_name", "primary_email", "primary_phone", "employee_number", "designation",
    "joining_date", "status"]

/-- The text that a row has in a column, or none. -/
def cellOf (row : List (String × String)) (name : String) : String := (row.lookup name).getD ""

/-- The text of a header and of rows, as bytes. -/
def generateCsv (columns : List String) (rows : List (List (String × String))) : ByteArray :=
  (Csv.write (columns :: rows.map fun row => columns.map (cellOf row))).toUTF8

def generateStudentCsv : List (List (String × String)) → ByteArray := generateCsv studentColumns
def generateTeacherCsv : List (List (String × String)) → ByteArray := generateCsv teacherColumns

/-! ### Services -/

/-- A student, with the person, as a row. -/
def studentCells (line : Student × Person) : List (String × String) :=
  [("first_name", line.2.firstName), ("last_name", line.2.lastName.getD ""),
    ("primary_email", line.2.primaryEmail.getD ""), ("primary_phone", line.2.primaryPhone.getD ""),
    ("admission_number", line.1.admissionNumber), ("admission_date", line.1.admissionDate.iso),
    ("status", line.1.status.value)]

/-- A teacher, with the person, as a row. -/
def teacherCells (line : Teacher × Person) : List (String × String) :=
  [("first_name", line.2.firstName), ("last_name", line.2.lastName.getD ""),
    ("primary_email", line.2.primaryEmail.getD ""), ("primary_phone", line.2.primaryPhone.getD ""),
    ("employee_number", line.1.employeeNumber.getD ""),
    ("designation", line.1.designation.getD ""),
    ("joining_date", (line.1.joiningDate.map Date.iso).getD ""), ("status", line.1.status.value)]

section Services

variable (db : SchoolDB) (schoolId : Ulid)

/-- The students of the school, each with the person. -/
def exportedStudents : List (Student × Person) :=
  (db.students.rows.filter fun s => s.schoolId = schoolId ∧ s.deletedAt = none).filterMap fun s =>
    (db.persons.get s.personId).map fun p => (s, p)

/-- The teachers of the school, each with the person. -/
def exportedTeachers : List (Teacher × Person) :=
  (db.teachers.rows.filter fun t => t.schoolId = schoolId ∧ t.deletedAt = none).filterMap fun t =>
    (db.persons.get t.personId).map fun p => (t, p)

def getExport (ctx : RequestContext) (resourceType : ImportResourceType) : Fallible ByteArray := do
  let schoolId ← found ctx.schoolId noSchool
  match resourceType with
  | .students => return generateStudentCsv ((exportedStudents db schoolId).map studentCells)
  | .teachers => return generateTeacherCsv ((exportedTeachers db schoolId).map teacherCells)

end Services

/-! ### Bytes -/

/-- A text that begins with three characters of one byte each is read as it was encoded. -/
lemma decodeUtf8Sig_toUTF8 {first : String} (rest : String) (hsize : first.toUTF8.size = 3)
    (hmark : first.toUTF8.data ≠ #[0xEF, 0xBB, 0xBF]) :
    decodeUtf8Sig (first ++ rest).toUTF8 = some (first ++ rest) := by
  have hstart : (first ++ rest).toUTF8.extract 0 3 = first.toUTF8 := by
    rw [String.toUTF8, String.toByteArray_append, ← hsize]
    exact ByteArray.extract_append_eq_left rfl
  rw [decodeUtf8Sig, hstart, if_neg hmark, String.fromUTF8?]
  exact dif_pos (String.isValidUTF8 _)

lemma write_eq {next : String} {more : List String} {rows : List (List String)} :
    ∃ rest, Csv.write (("first_name" :: next :: more) :: rows) = "fir" ++ rest := by
  refine ⟨String.ofList ("st_name,".toList ++ Csv.joinFields (next :: more) ++ ['\r', '\n'] ++
    rows.flatMap Csv.writeRecord), ?_⟩
  have hfield : Csv.writeField "first_name" = "first_name".toList := by decide +kernel
  have hheader : Csv.writeRecord ("first_name" :: next :: more) =
      "first_name".toList ++ ',' :: Csv.joinFields (next :: more) ++ ['\r', '\n'] := by
    rw [Csv.writeRecord, if_neg (by simp), Csv.joinFields, hfield]
  rw [Csv.write, List.flatMap_cons, hheader]
  apply String.toList_injective
  simp

/-! ### Rows -/

/-- What is read of a row: its cells, without the white space around them. -/
def strippedRow (columns : List String) (row : List (String × String)) : CsvRow :=
  columns.map fun name => (name, some (strip (cellOf row name)))

section Parsing

variable {env : ImportEnv}

lemma stripRow_eq (hstrip : env.strip = strip) {cells : List (String × String)} {row : CsvRow}
    (hnames : ∀ cell ∈ cells, strip cell.1 = cell.1) (hnodup : (cells.map Prod.fst).Nodup)
    (hfresh : ∀ entry ∈ row, ∀ cell ∈ cells, entry.1 ≠ cell.1) :
    stripRow env (cells.map fun cell => (some cell.1, Csv.Cell.text cell.2)) row =
      .ok (row ++ cells.map fun cell => (cell.1, some (strip cell.2))) := by
  induction cells generalizing row with
  | nil => simp [stripRow]
  | cons cell cells ih =>
    obtain ⟨hname, hnames⟩ := List.forall_mem_cons.mp hnames
    obtain ⟨hcell, hnodup⟩ := List.nodup_cons.mp hnodup
    have hvalue : stripCell env (.text cell.2) = .ok (some (strip cell.2)) := by
      rw [stripCell, hstrip]
      split
      · next hempty => rw [hempty, strip_empty]
      · rfl
    have hset : Csv.setItem cell.1 (some (strip cell.2)) row =
        row ++ [(cell.1, some (strip cell.2))] :=
      Csv.setItem_of_fresh fun entry hentry => hfresh entry hentry cell List.mem_cons_self
    have htail : ∀ entry ∈ row ++ [(cell.1, some (strip cell.2))], ∀ other ∈ cells,
        entry.1 ≠ other.1 := by
      intro entry hentry other hother
      rcases List.mem_append.mp hentry with hold | hnew
      · exact hfresh entry hold other (List.mem_cons_of_mem _ hother)
      · rw [List.mem_singleton.mp hnew]
        exact fun he => hcell (List.mem_map.mpr ⟨other, hother, he.symm⟩)
    rw [List.map_cons, stripRow, hvalue, ok_bind, hstrip, hname, hset, ih hnames hnodup htail]
    simp

/-- **Generated rows are read as they were given, stripped.** -/
theorem parseCsv_generateCsv (hstrip : env.strip = strip) {columns next : List String}
    {second : String} (hcolumns : columns = "first_name" :: second :: next)
    (hnodup : columns.Nodup) (hnames : ∀ name ∈ columns, strip name = name)
    (hshort : ∀ name ∈ columns, name.length ≤ Csv.fieldLimit)
    {rows : List (List (String × String))}
    (hcells : ∀ row ∈ rows, ∀ name ∈ columns, (cellOf row name).length ≤ Csv.fieldLimit) :
    parseCsv env (generateCsv columns rows) = .ok (rows.map (strippedRow columns)) := by
  have hlength : ∀ record ∈ rows.map fun row => columns.map (cellOf row),
      record.length = columns.length := by
    simp
  have hlimit : ∀ record ∈ rows.map fun row => columns.map (cellOf row), ∀ text ∈ record,
      text.length ≤ Csv.fieldLimit := by
    simpa using hcells
  have hrecords := Csv.rows_write hnodup hshort (hcolumns ▸ List.cons_ne_nil _ _) hlength hlimit
  obtain ⟨rest, htext⟩ : ∃ rest,
      Csv.write (columns :: rows.map fun row => columns.map (cellOf row)) = "fir" ++ rest := by
    rw [hcolumns]
    exact write_eq
  have hdecode : decodeUtf8Sig (generateCsv columns rows) =
      some (Csv.write (columns :: rows.map fun row => columns.map (cellOf row))) := by
    rw [generateCsv, htext]
    exact decodeUtf8Sig_toUTF8 rest (by decide +kernel) (by decide +kernel)
  have hread : readRows env (Csv.write (columns :: rows.map fun row => columns.map (cellOf row))) =
      .ok (rows.map (strippedRow columns)) := by
    have hrow : ∀ row, stripRow env ((columns.zip (columns.map (cellOf row))).map fun p =>
        (some p.1, Csv.Cell.text p.2)) [] = .ok (strippedRow columns row) := by
      intro row
      have hzip : columns.zip (columns.map (cellOf row)) =
          columns.map fun name => (name, cellOf row name) := by
        have hpairs := List.zip_map' (f := id) (g := cellOf row) (l := columns)
        rwa [List.map_id] at hpairs
      have hkeys : ((columns.map fun name => (name, cellOf row name)).map Prod.fst).Nodup := by
        rw [List.map_map]
        exact (List.map_id columns).symm ▸ hnodup
      rw [hzip, stripRow_eq hstrip (by simpa using hnames) hkeys (List.forall_mem_nil _),
        List.map_map]
      rfl
    have hall : (rows.map fun row => (columns.zip (columns.map (cellOf row))).map fun p =>
        (some p.1, Csv.Cell.text p.2)).mapM (fun cells => stripRow env cells []) =
          .ok (rows.map (strippedRow columns)) := by
      rw [List.mapM_map]
      exact mapM_of_ok fun row _ => hrow row
    rw [readRows, hrecords, List.map_map]
    simp only [Function.comp_def, hall]
    rfl
  rw [parseCsv, hdecode]
  simp only [hread]
  rfl

end Parsing

end SchoolOs
