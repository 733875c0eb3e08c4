import SchoolOs.CsvReader
import SchoolOs.SchoolPeople

/-!
Pure CSV utility functions of the import: the rows of a file, and the checks that a row passes
before anything is written.
-/

namespace SchoolOs

/-! ### Dates -/

def isLeap (year : ℕ) : Bool := year % 4 = 0 && (year % 100 ≠ 0 || year % 400 = 0)

def daysInMonth (year : ℕ) : ℕ → ℕ
  | 2 => if isLeap year then 29 else 28
  | 4 | 6 | 9 | 11 => 30
  | _ => 31

/-- `date.toordinal`. -/
def ordinal (year month day : ℕ) : Date :=
  let y := year - 1
  y * 365 + y / 4 - y / 100 + y / 400 + daysBeforeMonth month +
    (if 2 < month ∧ isLeap year then 1 else 0) + day

def Date.ofYmd (year month day : ℕ) : Option Date :=
  if 1 ≤ year ∧ 1 ≤ month ∧ month ≤ 12 ∧ 1 ≤ day ∧ day ≤ daysInMonth year month then
    some (ordinal year month day)
  else none

/-- The day of the week, Monday first. -/
def Date.weekday (d : Date) : ℕ := (d + 6) % 7

/-- Years that begin on a Thursday, and leap years that begin on a Wednesday, have 53 weeks. -/
def isoWeeks (year : ℕ) : ℕ :=
  let first := (ordinal year 1 1).weekday
  if first = 3 ∨ (first = 2 ∧ isLeap year) then 53 else 52

/-- The Monday of the week with the first Thursday of the year. -/
def firstMonday (year : ℕ) : Date :=
  let day := ordinal year 1 1
  if 3 < day.weekday then day - day.weekday + 7 else day - day.weekday

/-- The day of a week of a year; the last of them end after the last year there is. -/
def Date.ofIsoWeek (year week day : ℕ) : Option Date :=
  let d := firstMonday year + (week - 1) * 7 + (day - 1)
  if 1 ≤ year ∧ 1 ≤ week ∧ week ≤ isoWeeks year ∧ 1 ≤ day ∧ day ≤ 7 ∧ d ≤ ordinal 9999 12 31 then
    some d
  else none

def digits (cs : List Char) : Option ℕ :=
  if cs.all Char.isDigit then some (cs.foldl (fun n c => 10 * n + (c.toNat - '0'.toNat)) 0)
  else none

/-- `date.fromisoformat`: days of months and days of weeks, with dashes or without. A week without
a day begins on its Monday. -/
def Date.fromIsoFormat (s : String) : Option Date := do
  let year ← digits (s.toList.take 4)
  match s.toList.drop 4 with
  | ['-', 'W', a, b, '-', c] => Date.ofIsoWeek year (← digits [a, b]) (← digits [c])
  | ['-', 'W', a, b] => Date.ofIsoWeek year (← digits [a, b]) 1
  | ['W', a, b, c] => Date.ofIsoWeek year (← digits [a, b]) (← digits [c])
  | ['W', a, b] => Date.ofIsoWeek year (← digits [a, b]) 1
  | ['-', a, b, '-', c, d] => Date.ofYmd year (← digits [a, b]) (← digits [c, d])
  | [a, b, c, d] => Date.ofYmd year (← digits [a, b]) (← digits [c, d])
  | _ => none

example : (["2024-02-29", "20240229", "2024-W09-4", "2024W094", "2024-W10"].map
    Date.fromIsoFormat) = [738945, 738945, 738945, 738945, 738949].map some := by decide +kernel

example : ["", "2023-02-29", "2024-2-09", "2024-02-3x", "0000-01-01", "9999-W53-1"].map
    Date.fromIsoFormat = List.replicate 6 none := by decide +kernel

/-! ### Rows -/

/-- A row of a file, by the names of its columns. A cell that the file does not have is `None`. -/
abbrev CsvRow := List (String × Option String)

/-- An entry of an error summary. -/
structure ImportError where
  row : ℕ
  field : String
  message : String
  deriving DecidableEq

/-- Where a row fails that passed its checks. -/
inductive RowFailure
  | personSchema
  | personLookup
  | personInsert
  | recordSchema
  | recordInsert
  deriving DecidableEq

/-- What the import takes from its libraries, beside the rest: the texts of the exceptions, which
quote what they are about as literals. -/
structure ImportEnv extends SchoolEnv where
  decodeText : ByteArray → String
  failureText : SchoolDB → ℕ → CsvRow → RowFailure → String
  decodeText_bindable : ∀ content, bindable (decodeText content) = true
  failureText_bindable : ∀ db i row failure, bindable (failureText db i row failure) = true

/-- A deployment with short texts. -/
def ImportEnv.plain : ImportEnv where
  toSchoolEnv := .plain
  decodeText _ := "invalid start byte"
  failureText _ _ _ _ := "IntegrityError"
  decodeText_bindable _ := by decide
  failureText_bindable _ _ _ _ := by decide

section Parsing

variable (env : ImportEnv)

/-- `bytes.decode` of `utf-8-sig`: a mark at the beginning is dropped. -/
def decodeUtf8Sig (content : ByteArray) : Option String :=
  if (content.extract 0 3).data = #[0xEF, 0xBB, 0xBF] then
    String.fromUTF8? (content.extract 3 content.size)
  else String.fromUTF8? content

def csvErrorText : Csv.Error → String
  | .newlineInField =>
    "new-line character seen in unquoted field - do you need to open the file " ++
      "with newline=''?"
  | .fieldTooLarge => "field larger than field limit (131072)"

/-- The text of the error for a key or a value that has no `strip`. -/
def noStrip (type : String) : String := "'" ++ type ++ "' object has no attribute 'strip'"

/-- A cell without the white space around it. -/
def stripCell : Csv.Cell → Except String (Option String)
  | .text s => .ok (some (if s = "" then s else env.strip s))
  | .missing => .ok none
  | .surplus _ => .error (noStrip "list")

/-- The names and the cells without the white space around them. Fields that are left over have no
name to strip. -/
def stripRow : List (Option String × Csv.Cell) → CsvRow → Except String CsvRow
  | [], row => .ok row
  | (none, _) :: _, _ => .error (noStrip "NoneType")
  | (some name, cell) :: rest, row => do
    let value ← stripCell env cell
    stripRow rest (Csv.setItem (env.strip name) value row)

/-- The rows of a text, or what the reader or the first row that does not strip raises. -/
def readRows (text : String) : Except String (List CsvRow) := do
  let rows ← (Csv.rows text).1.mapM fun row => stripRow env row []
  match (Csv.rows text).2 with
  | some e => throw (csvErrorText e)
  | none => return rows

/-- Parse CSV bytes into a list of rows. -/
def parseCsv (content : ByteArray) : Except String (List CsvRow) :=
  let read : Except String (List CsvRow) := match decodeUtf8Sig content with
    | none => .error (env.decodeText content)
    | some text => readRows env text
  read.mapError fun exc => "Failed to parse CSV: " ++ exc

end Parsing

/-! ### Checks -/

section Checks

variable (env : ImportEnv) (row : CsvRow) (i : ℕ)

/-- `row.get(name) or None`. -/
def given (name : String) : Option String := (row.lookup name).join.filter (· ≠ "")

/-- `row.get(name, "").strip()`, which `None` does not have. -/
def stripped (name : String) : Fallible String :=
  match row.lookup name with
  | none => return env.strip ""
  | some (some s) => return env.strip s
  | some none => throw internalError

/-- A cell that must be there, and must not be empty. -/
def required (name : String) : List ImportError :=
  if (given row name).isSome then [] else [⟨i, name, name ++ " is required"⟩]

/-- A text that must be a date. -/
def dateCheck (name s : String) : List ImportError :=
  if (Date.fromIsoFormat s).isSome then []
  else [⟨i, name, name ++ " must be YYYY-MM-DD format"⟩]

/-- A status that is given must be one of the values. -/
def statusCheck (values : List String) (status : String) : List ImportError :=
  if status = "" ∨ status ∈ values then []
  else [⟨i, "status", "status must be one of [" ++
    ", ".intercalate (values.map fun s => "'" ++ s ++ "'") ++ "]"⟩]

def validStudentStatuses : List String :=
  ["ACTIVE", "DECEASED", "GRADUATED", "INACTIVE", "TRANSFERRED", "WITHDRAWN"]

def validTeacherStatuses : List String :=
  ["ACTIVE", "INACTIVE", "ON_LEAVE", "RESIGNED", "TERMINATED"]

/-- Validate a student row: the row is valid when there are no errors. -/
def validateStudentRow : Fallible (List ImportError) := do
  let dates := match given row "admission_date" with
    | none => required row i "admission_date"
    | some s => dateCheck i "admission_date" s
  let status ← stripped env row "status"
  return required row i "first_name" ++ required row i "admission_number" ++ dates ++
    statusCheck i validStudentStatuses status

/-- Validate a teacher row. -/
def validateTeacherRow : Fallible (List ImportError) := do
  let joiningDate ← stripped env row "joining_date"
  let dates := if joiningDate = "" then [] else dateCheck i "joining_date" joiningDate
  let status ← stripped env row "status"
  return required row i "first_name" ++ dates ++ statusCheck i validTeacherStatuses status

end Checks

end SchoolOs
