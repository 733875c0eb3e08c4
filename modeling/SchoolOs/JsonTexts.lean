import Mathlib.Data.Int.Notation
import Mathlib.Tactic.Common

/-!
JSON texts: a reader that takes one character at a time, with what is open on a stack, and the
writer of strings. What the reader does with the strings that the writer wrote.
-/

namespace SchoolOs.JsonTexts

/-- A text as its code points, since an escape may name half of a surrogate pair. -/
abbrev CodePoints := List ℕ

def codes (cs : List Char) : CodePoints := cs.map Char.toNat

inductive JsonValue
  | null
  | bool (b : Bool)
  | int (n : ℤ)
  /-- A number with a fraction or an exponent, or one that is not finite, as it is written. -/
  | float (literal : List Char)
  | str (s : CodePoints)
  | arr (items : List JsonValue)
  | obj (members : List (CodePoints × JsonValue))

/-! ### The reader -/

/-- An array or an object that is open, with what was read of it. -/
inductive Frame
  | array (items : List JsonValue)
  | object (members : List (CodePoints × JsonValue)) (key : CodePoints)

/-- Where in a string. -/
inductive Part
  | plain
  | escape
  | hex (left code : ℕ)

/-- Where in a number. -/
inductive Phase
  | minus | zero | int | point | fraction | exponent | expSign | expDigits

inductive Mode
  | value
  /-- A value, or the end of an array. -/
  | first
  /-- A key, or with `first` the end of an object. -/
  | key (first : Bool)
  | colon
  /-- A comma, or the end of what is open. -/
  | next
  | text (isKey : Bool) (acc : CodePoints) (part : Part)
  | literal (rest : List Char) (v : JsonValue)
  | number (phase : Phase) (acc : List Char)
  | ended (v : JsonValue)
  | failed
  | tooDeep

structure Scan where
  stack : List Frame
  mode : Mode

def Scan.start : Scan := ⟨[], .value⟩

def fail : Scan := ⟨[], .failed⟩

def isSpace (c : Char) : Bool := c = ' ' ∨ c = '\t' ∨ c = '\n' ∨ c = '\r'

/-- A value is read. -/
def complete (stack : List Frame) (v : JsonValue) : Scan :=
  match stack with
  | [] => ⟨[], .ended v⟩
  | .array items :: stack => ⟨.array (items ++ [v]) :: stack, .next⟩
  | .object members key :: stack => ⟨.object (members ++ [(key, v)]) [] :: stack, .next⟩

/-- The beginning of a value. -/
def beginValue (limit : ℕ) (stack : List Frame) (c : Char) : Scan :=
  if c = '"' then ⟨stack, .text false [] .plain⟩
  else if c = '[' then
    if stack.length < limit then ⟨.array [] :: stack, .first⟩ else ⟨[], .tooDeep⟩
  else if c = '\x7b' then
    if stack.length < limit then ⟨.object [] [] :: stack, .key true⟩ else ⟨[], .tooDeep⟩
  else if c = 'n' then ⟨stack, .literal "ull".toList .null⟩
  else if c = 't' then ⟨stack, .literal "rue".toList (.bool true)⟩
  else if c = 'f' then ⟨stack, .literal "alse".toList (.bool false)⟩
  else if c = 'N' then ⟨stack, .literal "aN".toList (.float "NaN".toList)⟩
  else if c = 'I' then ⟨stack, .literal "nfinity".toList (.float "Infinity".toList)⟩
  else if c = '-' then ⟨stack, .number .minus [c]⟩
  else if c = '0' then ⟨stack, .number .zero [c]⟩
  else if c.isDigit then ⟨stack, .number .int [c]⟩
  else fail

/-- What may follow a value. -/
def delimit (s : Scan) (c : Char) : Scan :=
  if isSpace c then s
  else
    match s.mode, s.stack with
    | .next, .array items :: stack =>
      if c = ',' then ⟨s.stack, .value⟩
      else if c = ']' then complete stack (.arr items) else fail
    | .next, .object members _ :: stack =>
      if c = ',' then ⟨s.stack, .key false⟩
      else if c = '\x7d' then complete stack (.obj members) else fail
    | _, _ => fail

def hexDigit (c : Char) : Option ℕ :=
  if c.isDigit then some (c.toNat - '0'.toNat)
  else if 'a' ≤ c ∧ c ≤ 'f' then some (c.toNat - 'a'.toNat + 10)
  else if 'A' ≤ c ∧ c ≤ 'F' then some (c.toNat - 'A'.toNat + 10)
  else none

/-- Both halves of a surrogate pair are one code point. -/
def join (acc : CodePoints) (code : ℕ) : CodePoints :=
  match acc.getLast? with
  | some high =>
    if 0xD800 ≤ high ∧ high < 0xDC00 ∧ 0xDC00 ≤ code ∧ code < 0xE000 then
      acc.dropLast ++ [0x10000 + (high - 0xD800) * 0x400 + (code - 0xDC00)]
    else acc ++ [code]
  | none => acc ++ [code]

/-- The character that an escape of one letter stands for. -/
def unescape (c : Char) : Option Char :=
  if c = '"' ∨ c = '\\' ∨ c = '/' then some c
  else if c = 'b' then some '\x08'
  else if c = 'f' then some '\x0c'
  else if c = 'n' then some '\n'
  else if c = 'r' then some '\r'
  else if c = 't' then some '\t'
  else none

/-- The end of a string. -/
def endText (stack : List Frame) (acc : CodePoints) : Bool → Scan
  | false => complete stack (.str acc)
  | true =>
    match stack with
    | .object members _ :: stack => ⟨.object members acc :: stack, .colon⟩
    | _ => fail

def stepText (stack : List Frame) (isKey : Bool) (acc : CodePoints) (c : Char) : Part → Scan
  | .plain =>
    if c = '"' then endText stack acc isKey
    else if c = '\\' then ⟨stack, .text isKey acc .escape⟩
    else if c.toNat < 32 then fail
    else ⟨stack, .text isKey (acc ++ [c.toNat]) .plain⟩
  | .escape =>
    if c = 'u' then ⟨stack, .text isKey acc (.hex 4 0)⟩
    else
      match unescape c with
      | some e => ⟨stack, .text isKey (acc ++ [e.toNat]) .plain⟩
      | none => fail
  | .hex left code =>
    match hexDigit c with
    | none => fail
    | some d =>
      if left = 1 then ⟨stack, .text isKey (join acc (code * 16 + d)) .plain⟩
      else ⟨stack, .text isKey acc (.hex (left - 1) (code * 16 + d))⟩

def digitsValue (cs : List Char) : ℕ :=
  cs.foldl (fun n c => 10 * n + (c.toNat - '0'.toNat)) 0

/-- The longest numeral that is made a number. -/
def maxDigits : ℕ := 4300

/-- The end of a number, where it may end. -/
def endNumber (stack : List Frame) (acc : List Char) : Phase → Scan
  | .zero | .int =>
    let numeral := acc.filter Char.isDigit
    if maxDigits < numeral.length then fail
    else complete stack
      (.int (if acc.head? = some '-' then -digitsValue numeral else digitsValue numeral))
  | .fraction | .expDigits => complete stack (.float acc)
  | _ => fail

/-- The phase after one more character, if it is of the number. -/
def Phase.step (c : Char) : Phase → Option Phase
  | .minus => if c = '0' then some .zero else if c.isDigit then some .int else none
  | .zero => if c = '.' then some .point else if c = 'e' ∨ c = 'E' then some .exponent else none
  | .int =>
    if c.isDigit then some .int
    else if c = '.' then some .point
    else if c = 'e' ∨ c = 'E' then some .exponent else none
  | .point => if c.isDigit then some .fraction else none
  | .fraction =>
    if c.isDigit then some .fraction
    else if c = 'e' ∨ c = 'E' then some .exponent else none
  | .exponent =>
    if c = '+' ∨ c = '-' then some .expSign
    else if c.isDigit then some .expDigits else none
  | .expSign | .expDigits => if c.isDigit then some .expDigits else none

/-- One character. -/
def step (limit : ℕ) (s : Scan) (c : Char) : Scan :=
  match s.mode with
  | .value => if isSpace c then s else beginValue limit s.stack c
  | .first =>
    if isSpace c then s
    else
      match s.stack with
      | .array [] :: stack =>
        if c = ']' then complete stack (.arr []) else beginValue limit s.stack c
      | _ => fail
  | .key first =>
    if isSpace c then s
    else if c = '"' then ⟨s.stack, .text true [] .plain⟩
    else
      match first, s.stack with
      | true, .object _ _ :: stack => if c = '\x7d' then complete stack (.obj []) else fail
      | _, _ => fail
  | .colon => if isSpace c then s else if c = ':' then ⟨s.stack, .value⟩ else fail
  | .next | .ended _ => delimit s c
  | .text isKey acc part => stepText s.stack isKey acc c part
  | .literal [] _ => fail
  | .literal (d :: rest) v =>
    if c ≠ d then fail
    else if rest = [] then complete s.stack v else ⟨s.stack, .literal rest v⟩
  | .number phase acc =>
    match phase.step c with
    | some phase => ⟨s.stack, .number phase (acc ++ [c])⟩
    | none =>
      match phase, c with
      | .minus, 'I' => ⟨s.stack, .literal "nfinity".toList (.float "-Infinity".toList)⟩
      | _, _ => delimit (endNumber s.stack acc phase) c
  | .failed | .tooDeep => s

/-- Why a text is not read. -/
inductive Failure
  | malformed
  /-- More is open than the interpreter can hold. -/
  | tooDeep
  deriving DecidableEq

def outcome (s : Scan) : Except Failure JsonValue :=
  match s.mode with
  | .ended v => .ok v
  | .tooDeep => .error .tooDeep
  | .number phase acc =>
    match (endNumber s.stack acc phase).mode with
    | .ended v => .ok v
    | _ => .error .malformed
  | _ => .error .malformed

/-- `json.loads`, where `limit` arrays and objects may be open at once. -/
def loads (limit : ℕ) (text : List Char) : Except Failure JsonValue :=
  outcome (text.foldl (step limit) .start)

/-! ### The writer -/

def hexChar (d : ℕ) : Char := "0123456789abcdef".toList.getD d '0'

def escapeCode (n : ℕ) : List Char :=
  ['\\', 'u', hexChar (n / 4096 % 16), hexChar (n / 256 % 16), hexChar (n / 16 % 16),
    hexChar (n % 16)]

/-- A character of a string, in ASCII. -/
def dumpsChar (c : Char) : List Char :=
  if c = '"' ∨ c = '\\' then ['\\', c]
  else if c = '\n' then ['\\', 'n']
  else if c = '\r' then ['\\', 'r']
  else if c = '\t' then ['\\', 't']
  else if c = '\x0c' then ['\\', 'f']
  else if c = '\x08' then ['\\', 'b']
  else if 32 ≤ c.toNat ∧ c.toNat < 127 then [c]
  else if c.toNat < 0x10000 then escapeCode c.toNat
  else escapeCode (0xD800 + (c.toNat - 0x10000) / 0x400) ++
    escapeCode (0xDC00 + (c.toNat - 0x10000) % 0x400)

def dumpsString (s : String) : List Char := ['"'] ++ s.toList.flatMap dumpsChar ++ ['"']

/-- `json.dumps` of a list of two strings. -/
def dumpsPair (a b : String) : List Char :=
  ['['] ++ dumpsString a ++ [',', ' '] ++ dumpsString b ++ [']']

/-! ### Plain strings -/

/-- A character that is written as it is. -/
def Plain (c : Char) : Prop := 32 ≤ c.toNat ∧ c.toNat < 127 ∧ c ≠ '"' ∧ c ≠ '\\'

instance : DecidablePred Plain := fun _ => inferInstanceAs (Decidable (_ ∧ _ ∧ _ ∧ _))

lemma dumpsChar_plain {c : Char} (h : Plain c) : dumpsChar c = [c] := by
  obtain ⟨hlow, hhigh, hquote, hslash⟩ := h
  have hne : ∀ d : Char, d.toNat < 32 → c ≠ d := by
    rintro d hd rfl
    omega
  rw [dumpsChar, if_neg (not_or.mpr ⟨hquote, hslash⟩), if_neg (hne '\n' (by decide)),
    if_neg (hne '\r' (by decide)), if_neg (hne '\t' (by decide)), if_neg (hne '\x0c' (by decide)),
    if_neg (hne '\x08' (by decide)), if_pos ⟨hlow, hhigh⟩]

lemma dumpsString_plain {s : String} (h : ∀ c ∈ s.toList, Plain c) :
    dumpsString s = ['"'] ++ s.toList ++ ['"'] := by
  have hall : s.toList.flatMap dumpsChar = s.toList := by
    rw [List.flatMap_def, List.map_congr_left fun c hc => dumpsChar_plain (h c hc),
      ← List.flatMap_def, List.flatMap_singleton']
  rw [dumpsString, hall]

lemma foldl_plain (limit : ℕ) (stack : List Frame) (isKey : Bool) {cs : List Char}
    (h : ∀ c ∈ cs, Plain c) (acc : CodePoints) :
    cs.foldl (step limit) ⟨stack, .text isKey acc .plain⟩ =
      ⟨stack, .text isKey (acc ++ codes cs) .plain⟩ := by
  induction cs generalizing acc with
  | nil => simp [codes]
  | cons c cs ih =>
    obtain ⟨hlow, _, hquote, hslash⟩ := h c List.mem_cons_self
    have hstep : step limit ⟨stack, .text isKey acc .plain⟩ c =
        ⟨stack, .text isKey (acc ++ [c.toNat]) .plain⟩ := by
      simp only [step, stepText]
      rw [if_neg hquote, if_neg hslash, if_neg (by omega)]
    rw [List.foldl_cons, hstep, ih fun d hd => h d (List.mem_cons_of_mem _ hd)]
    simp [codes]

/-- **A pair of plain strings is read back.** -/
theorem loads_dumpsPair {limit : ℕ} (hlimit : 1 ≤ limit) {a b : String}
    (ha : ∀ c ∈ a.toList, Plain c) (hb : ∀ c ∈ b.toList, Plain c) :
    loads limit (dumpsPair a b) = .ok (.arr [.str (codes a.toList), .str (codes b.toList)]) := by
  have hopen : step limit .start '[' = ⟨[.array []], .first⟩ := by
    simp [step, Scan.start, isSpace, beginValue, Nat.lt_of_lt_of_le Nat.zero_lt_one hlimit]
  have hfirst : step limit ⟨[.array []], .first⟩ '"' = ⟨[.array []], .text false [] .plain⟩ := by
    simp [step, isSpace, beginValue]
  have hclose : ∀ items acc, step limit ⟨[.array items], .text false acc .plain⟩ '"' =
      ⟨[.array (items ++ [.str acc])], .next⟩ := by
    simp [step, stepText, endText, complete]
  have hcomma : ∀ items, step limit (step limit (step limit ⟨[.array items], .next⟩ ',') ' ') '"' =
      ⟨[.array items], .text false [] .plain⟩ := by
    simp [step, delimit, isSpace, beginValue]
  have hend : ∀ items, step limit ⟨[.array items], .next⟩ ']' = ⟨[], .ended (.arr items)⟩ := by
    simp [step, delimit, isSpace, complete]
  rw [loads, dumpsPair, dumpsString_plain ha, dumpsString_plain hb]
  simp only [List.foldl_append, List.foldl_cons, List.foldl_nil, hopen, hfirst, hclose, hcomma,
    hend, foldl_plain limit _ _ ha, foldl_plain limit _ _ hb, List.nil_append,
    List.singleton_append]
  rfl

end SchoolOs.JsonTexts
