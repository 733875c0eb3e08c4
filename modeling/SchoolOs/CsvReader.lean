import Mathlib.Tactic.Common

/-!
Reading comma-separated text. A scan of the characters, a line at a time, finds the fields and the
records; the first record names the columns of the ones that follow.
-/

namespace SchoolOs.Csv

/-! ### Lines -/

/-- The lines of a text, each with the newline that ends it. -/
def lines : List Char → List (List Char)
  | [] => []
  | c :: cs =>
    if c = '\n' then [c] :: lines cs
    else match lines cs with
      | [] => [[c]]
      | line :: rest => (c :: line) :: rest

/-! ### The scan -/

/-- Where the scan stands. -/
inductive Phase
  | startRecord
  | startField
  | inField
  | inQuotedField
  /-- After a quote in a quoted field: it ends the field, or another one follows. -/
  | quoteInQuotedField
  /-- After the end of a record, before the end of its line. -/
  | eatCrnl
  deriving DecidableEq

inductive Error
  | newlineInField
  | fieldTooLarge
  deriving DecidableEq

/-- The record that is read: the characters of its last field, the latest one first, and the fields
before it. -/
structure Scan where
  phase : Phase
  field : List Char
  fields : List String

/-- The characters that a field may have. -/
def fieldLimit : ℕ := 131072

def isNewline (c : Char) : Bool := c = '\n' || c = '\r'

namespace Scan

def start : Scan := ⟨.startRecord, [], []⟩

variable (s : Scan) (c : Char)

def goto (phase : Phase) : Scan := { s with phase := phase }

def addChar (phase : Phase) : Except Error Scan :=
  if s.field.length < fieldLimit then .ok { s with phase := phase, field := c :: s.field }
  else .error .fieldTooLarge

def saveField (phase : Phase) : Scan := ⟨phase, [], s.fields ++ [String.ofList s.field.reverse]⟩

/-- The first character of a field. -/
def beginField : Except Error Scan :=
  if isNewline c then .ok (s.saveField .eatCrnl)
  else if c = '"' then .ok (s.goto .inQuotedField)
  else if c = ',' then .ok (s.saveField .startField)
  else s.addChar c .inField

def feed : Except Error Scan :=
  match s.phase with
  | .startRecord => if isNewline c then .ok (s.goto .eatCrnl) else s.beginField c
  | .startField => s.beginField c
  | .inField =>
    if isNewline c then .ok (s.saveField .eatCrnl)
    else if c = ',' then .ok (s.saveField .startField)
    else s.addChar c .inField
  | .inQuotedField =>
    if c = '"' then .ok (s.goto .quoteInQuotedField) else s.addChar c .inQuotedField
  | .quoteInQuotedField =>
    if c = '"' then s.addChar c .inQuotedField
    else if c = ',' then .ok (s.saveField .startField)
    else if isNewline c then .ok (s.saveField .eatCrnl)
    else s.addChar c .inField
  | .eatCrnl => if isNewline c then .ok s else .error .newlineInField

/-- The end of a line. A quoted field goes on in the next one. -/
def endLine : Scan :=
  match s.phase with
  | .startRecord | .eatCrnl => s.goto .startRecord
  | .startField | .inField | .quoteInQuotedField => s.saveField .startRecord
  | .inQuotedField => s

def feedLine : Scan → List Char → Except Error Scan
  | s, [] => .ok s.endLine
  | s, c :: cs => do
    let s ← s.feed c
    feedLine s cs

end Scan

/-- The records of the lines up to an error, and the error. A quoted field that the text does not
close ends with the text. -/
def records : Scan → List (List Char) → List (List String) × Option Error
  | s, [] =>
    if s.field ≠ [] ∨ s.phase = .inQuotedField then ([(s.saveField .startRecord).fields], none)
    else ([], none)
  | s, line :: rest =>
    match s.feedLine line with
    | .error e => ([], some e)
    | .ok s =>
      if s.phase = .startRecord then
        let read := records .start rest
        (s.fields :: read.1, read.2)
      else records s rest

/-! ### Rows -/

/-- What a row has in a column. -/
inductive Cell
  | text (s : String)
  | missing
  /-- The fields for which there are no columns. -/
  | surplus (fields : List String)
  deriving DecidableEq

/-- Assignment to a key of a dictionary, which keeps the place of a key it has. -/
def setItem {κ α : Type} [DecidableEq κ] (k : κ) (a : α) : List (κ × α) → List (κ × α)
  | [] => [(k, a)]
  | entry :: rest => if entry.1 = k then (k, a) :: rest else entry :: setItem k a rest

/-- A row by its columns. The fields that are left over have no name. -/
def readRow (columns record : List String) : List (Option String × Cell) :=
  let named := (columns.zip record).foldl (fun d p => setItem (some p.1) (.text p.2) d) []
  if columns.length < record.length then
    setItem none (.surplus (record.drop columns.length)) named
  else (columns.drop record.length).foldl (fun d k => setItem (some k) .missing d) named

/-- The rows of a text up to an error, and the error. Blank lines are no rows. -/
def rows (text : String) : List (List (Option String × Cell)) × Option Error :=
  match records .start (lines text.toList) with
  | ([], e) => ([], e)
  | (columns :: rest, e) => ((rest.filter (· ≠ [])).map (readRow columns), e)

example : rows "a,b\r\n1\r\n\r\n\"x\"\"y\n\",2\r\n" =
    ([[(some "a", .text "1"), (some "b", .missing)],
      [(some "a", .text "x\"y\n"), (some "b", .text "2")]], none) := by decide +kernel

example : rows "a\n1,2\n3\r4" = ([[(some "a", .text "1"), (none, .surplus ["2"])]],
    some .newlineInField) := by decide +kernel

end SchoolOs.Csv
