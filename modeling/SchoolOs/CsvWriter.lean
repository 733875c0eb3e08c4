import SchoolOs.CsvReader

/-!
Writing comma-separated text. A field is quoted when the reader would take one of its characters
for something else, and what is written is read back.
-/

namespace SchoolOs.Csv

/-! ### The writer -/

/-- The characters on account of which a field is quoted. -/
def isSpecial (c : Char) : Bool := c = ',' || c = '"' || isNewline c

/-- The quotes in a quoted field are doubled. -/
def escape (cs : List Char) : List Char :=
  cs.flatMap fun c => if c = '"' then ['"', '"'] else [c]

def quote (cs : List Char) : List Char := '"' :: (escape cs ++ ['"'])

/-- `QUOTE_MINIMAL`. -/
def writeField (s : String) : List Char :=
  if s.toList.any isSpecial then quote s.toList else s.toList

/-- The fields of a record, with commas between them. -/
def joinFields : List String → List Char
  | [] => []
  | [s] => writeField s
  | s :: next :: rest => writeField s ++ ',' :: joinFields (next :: rest)

/-- A record, with the end of its line. One empty field is quoted, lest the line be blank. -/
def writeRecord (record : List String) : List Char :=
  (if record = [""] then quote [] else joinFields record) ++ ['\r', '\n']

def write (rows : List (List String)) : String := String.ofList (rows.flatMap writeRecord)

example : write [["a", "b"], ["x\"y\n", " "], [""]] = "a,b\r\n\"x\"\"y\n\", \r\n\"\"\r\n" := by
  decide +kernel

/-! ### Reading on -/

lemma lines_newline (cs : List Char) : lines ('\n' :: cs) = ['\n'] :: lines cs := by
  simp [lines]

/-- A character that ends no line belongs to the line of what follows. -/
lemma lines_cons {c : Char} (hc : c ≠ '\n') {cs : List Char} (hcs : cs ≠ []) :
    ∃ line rest, lines cs = line :: rest ∧ lines (c :: cs) = (c :: line) :: rest := by
  obtain ⟨line, rest, hlines⟩ : ∃ line rest, lines cs = line :: rest := by
    cases cs with
    | nil => exact absurd rfl hcs
    | cons d ds =>
      rw [lines]
      split
      · exact ⟨_, _, rfl⟩
      · split
        · exact ⟨_, _, rfl⟩
        · exact ⟨_, _, rfl⟩
  refine ⟨line, rest, hlines, ?_⟩
  rw [lines, if_neg hc, hlines]

/-- Reading `cs` takes the scan from `s` to `s'`, whatever follows. -/
def Reads (s : Scan) (cs : List Char) (s' : Scan) : Prop :=
  ∀ rest, rest ≠ [] → records s (lines (cs ++ rest)) = records s' (lines rest)

section Reads

variable {s s' s'' : Scan} {c : Char} {cs ds : List Char}

lemma Reads.nil : Reads s [] s := fun _ _ => rfl

lemma Reads.append (h : Reads s cs s') (h' : Reads s' ds s'') : Reads s (cs ++ ds) s'' := by
  intro rest hrest
  have hne : ds ++ rest ≠ [] := fun he => hrest (List.append_eq_nil_iff.mp he).2
  rw [List.append_assoc, h _ hne, h' rest hrest]

lemma Reads.cons (h : Reads s [c] s') (h' : Reads s' cs s'') : Reads s (c :: cs) s'' :=
  h.append h'

lemma reads_char (hc : c ≠ '\n') (h : s.feed c = .ok s') : Reads s [c] s' := by
  intro rest hrest
  obtain ⟨line, more, hrest, hcons⟩ := lines_cons hc hrest
  have hline : s.feedLine (c :: line) = s'.feedLine line := by
    rw [Scan.feedLine, h]
    rfl
  rw [List.singleton_append, hcons, hrest, records, records, hline]

variable {fields : List String} {field : List Char} {phase : Phase}

/-- A quoted field takes every character but the quote, and goes on after a newline. -/
lemma reads_quotedChar (hc : c ≠ '"') (hlength : field.length < fieldLimit) :
    Reads ⟨.inQuotedField, field, fields⟩ [c] ⟨.inQuotedField, c :: field, fields⟩ := by
  have hfeed : Scan.feed ⟨.inQuotedField, field, fields⟩ c =
      .ok ⟨.inQuotedField, c :: field, fields⟩ := by
    simp [Scan.feed, Scan.addChar, hc, hlength]
  by_cases hnewline : c = '\n'
  · subst hnewline
    intro rest _
    have hline : Scan.feedLine ⟨.inQuotedField, field, fields⟩ ['\n'] =
        .ok ⟨.inQuotedField, '\n' :: field, fields⟩ := by
      rw [Scan.feedLine, hfeed]
      rfl
    rw [List.singleton_append, lines_newline, records, hline]
    exact if_neg nofun
  · exact reads_char hnewline hfeed

/-! ### Fields -/

lemma reads_escape (hlength : field.length + cs.length ≤ fieldLimit) :
    Reads ⟨.inQuotedField, field, fields⟩ (escape cs)
      ⟨.inQuotedField, cs.reverse ++ field, fields⟩ := by
  induction cs generalizing field with
  | nil => exact .nil
  | cons c cs ih =>
    rw [List.length_cons] at hlength
    have hhead : Reads ⟨.inQuotedField, field, fields⟩ (if c = '"' then ['"', '"'] else [c])
        ⟨.inQuotedField, c :: field, fields⟩ := by
      split
      · next hc =>
        subst hc
        have hfirst : Reads ⟨.inQuotedField, field, fields⟩ ['"']
            ⟨.quoteInQuotedField, field, fields⟩ := reads_char (by decide) rfl
        refine hfirst.cons (reads_char (by decide) ?_)
        have hroom : field.length < fieldLimit := by omega
        simp [Scan.feed, Scan.addChar, hroom]
      · next hc => exact reads_quotedChar hc (by omega)
    have htail : Reads ⟨.inQuotedField, c :: field, fields⟩ (escape cs)
        ⟨.inQuotedField, cs.reverse ++ c :: field, fields⟩ :=
      ih (by rw [List.length_cons]; omega)
    simpa [escape] using hhead.append htail

lemma not_special (hc : isSpecial c = false) : c ≠ ',' ∧ c ≠ '"' ∧ isNewline c = false := by
  simpa [isSpecial, and_assoc] using hc

lemma ne_newline (hc : isNewline c = false) : c ≠ '\n' := by
  rintro rfl
  exact absurd hc (by decide)

lemma reads_plain (hcs : ∀ c ∈ cs, isSpecial c = false)
    (hlength : field.length + cs.length ≤ fieldLimit) :
    Reads ⟨.inField, field, fields⟩ cs ⟨.inField, cs.reverse ++ field, fields⟩ := by
  induction cs generalizing field with
  | nil => exact .nil
  | cons c cs ih =>
    rw [List.length_cons] at hlength
    obtain ⟨hcomma, -, hnewline⟩ := not_special (hcs c List.mem_cons_self)
    have hroom : field.length < fieldLimit := by omega
    have hhead : Reads ⟨.inField, field, fields⟩ [c] ⟨.inField, c :: field, fields⟩ :=
      reads_char (ne_newline hnewline) (by simp [Scan.feed, Scan.addChar, hcomma, hnewline, hroom])
    have htail : Reads ⟨.inField, c :: field, fields⟩ cs
        ⟨.inField, cs.reverse ++ c :: field, fields⟩ :=
      ih (fun d hd => hcs d (List.mem_cons_of_mem _ hd)) (by rw [List.length_cons]; omega)
    simpa using hhead.cons htail

/-- Where the next character ends the field, if it is a comma or a newline. -/
def Phase.Ends : Phase → Prop
  | .startField | .inField | .quoteInQuotedField => True
  | _ => False

lemma reads_comma (hphase : phase.Ends) :
    Reads ⟨phase, field, fields⟩ [',']
      ⟨.startField, [], fields ++ [String.ofList field.reverse]⟩ := by
  refine reads_char (by decide) ?_
  cases phase with
  | startField | inField | quoteInQuotedField => rfl
  | startRecord | inQuotedField | eatCrnl => exact hphase.elim

lemma reads_return (hphase : phase.Ends) :
    Reads ⟨phase, field, fields⟩ ['\r']
      ⟨.eatCrnl, [], fields ++ [String.ofList field.reverse]⟩ := by
  refine reads_char (by decide) ?_
  cases phase with
  | startField | inField | quoteInQuotedField => rfl
  | startRecord | inQuotedField | eatCrnl => exact hphase.elim

/-- Where a field may begin. -/
def Phase.Begins (phase : Phase) : Prop := phase = .startRecord ∨ phase = .startField

lemma reads_quote (hphase : phase.Begins) (hlength : cs.length ≤ fieldLimit) :
    Reads ⟨phase, [], fields⟩ (quote cs) ⟨.quoteInQuotedField, cs.reverse, fields⟩ := by
  have hopen : Reads ⟨phase, [], fields⟩ ['"'] ⟨.inQuotedField, [], fields⟩ := by
    refine reads_char (by decide) ?_
    obtain rfl | rfl := hphase <;> rfl
  have hroom : ([] : List Char).length + cs.length ≤ fieldLimit := by
    rwa [List.length_nil, Nat.zero_add]
  have hbody : Reads ⟨.inQuotedField, [], fields⟩ (escape cs)
      ⟨.inQuotedField, cs.reverse ++ [], fields⟩ := reads_escape hroom
  rw [List.append_nil] at hbody
  have hclose : Reads ⟨.inQuotedField, cs.reverse, fields⟩ ['"']
      ⟨.quoteInQuotedField, cs.reverse, fields⟩ := reads_char (by decide) rfl
  exact hopen.cons (hbody.append hclose)

/-- A field that has characters, or is not the first of its record. -/
lemma reads_field {text : String} (fields : List String) (hphase : phase.Begins)
    (hfield : phase = .startField ∨ text ≠ "") (hlength : text.length ≤ fieldLimit) :
    ∃ last : Phase, last.Ends ∧
      Reads ⟨phase, [], fields⟩ (writeField text) ⟨last, text.toList.reverse, fields⟩ := by
  rw [← String.length_toList] at hlength
  unfold writeField
  split
  · exact ⟨.quoteInQuotedField, trivial, reads_quote hphase hlength⟩
  · next hplain =>
    have hcs : ∀ c ∈ text.toList, isSpecial c = false := by simpa using hplain
    cases htext : text.toList with
    | nil =>
      have hempty : text = "" := String.toList_eq_nil_iff.mp htext
      rw [hfield.resolve_right (fun hne => hne hempty)]
      exact ⟨.startField, trivial, .nil⟩
    | cons c cs =>
      rw [htext] at hcs hlength
      rw [List.length_cons] at hlength
      obtain ⟨hcomma, hquote, hnewline⟩ := not_special (hcs c List.mem_cons_self)
      have hroom : 0 < fieldLimit := by decide
      have hhead : Reads ⟨phase, [], fields⟩ [c] ⟨.inField, [c], fields⟩ := by
        refine reads_char (ne_newline hnewline) ?_
        obtain rfl | rfl := hphase <;>
          simp [Scan.feed, Scan.beginField, Scan.addChar, hcomma, hquote, hnewline, hroom]
      have htail : Reads ⟨.inField, [c], fields⟩ cs ⟨.inField, cs.reverse ++ [c], fields⟩ :=
        reads_plain (fun d hd => hcs d (List.mem_cons_of_mem _ hd))
          (by rw [List.length_singleton]; omega)
      exact ⟨.inField, trivial, by simpa using hhead.cons htail⟩

/-! ### Records -/

lemma reads_next {text : String} (fields : List String) (hphase : phase.Begins)
    (hlength : text.length ≤ fieldLimit) :
    Reads ⟨phase, [], fields⟩ (writeField text ++ [','])
      ⟨.startField, [], fields ++ [text]⟩ := by
  by_cases hempty : text = "" ∧ phase = .startRecord
  · obtain ⟨rfl, rfl⟩ := hempty
    exact reads_char (by decide) rfl
  · have hfield : phase = .startField ∨ text ≠ "" := by
      obtain rfl | rfl := hphase
      · exact .inr fun he => hempty ⟨he, rfl⟩
      · exact .inl rfl
    obtain ⟨last, hends, hread⟩ := reads_field fields hphase hfield hlength
    simpa using hread.append (reads_comma hends)

/-- The last field of a record, which is not the only one if it is empty. -/
lemma reads_last {text : String} (hphase : phase.Begins)
    (hfield : phase = .startField ∨ text ≠ "") (hlength : text.length ≤ fieldLimit) :
    Reads ⟨phase, [], fields⟩ (writeField text ++ ['\r']) ⟨.eatCrnl, [], fields ++ [text]⟩ := by
  obtain ⟨last, hends, hread⟩ := reads_field fields hphase hfield hlength
  simpa using hread.append (reads_return hends)

lemma reads_fields {record : List String} (hphase : phase.Begins) (hne : record ≠ [])
    (hfields : phase = .startField ∨ record ≠ [""])
    (hlength : ∀ text ∈ record, text.length ≤ fieldLimit) :
    Reads ⟨phase, [], fields⟩ (joinFields record ++ ['\r']) ⟨.eatCrnl, [], fields ++ record⟩ := by
  induction record generalizing phase fields with
  | nil => exact absurd rfl hne
  | cons text rest ih =>
    obtain ⟨htext, hrest⟩ := List.forall_mem_cons.mp hlength
    cases rest with
    | nil =>
      have hfield : phase = .startField ∨ text ≠ "" := hfields.imp_right fun h he => h (he ▸ rfl)
      exact reads_last hphase hfield htext
    | cons next rest =>
      have hhead := reads_next fields hphase htext
      have htail : Reads ⟨.startField, [], fields ++ [text]⟩ (joinFields (next :: rest) ++ ['\r'])
          ⟨.eatCrnl, [], fields ++ [text] ++ next :: rest⟩ :=
        ih (.inr rfl) (List.cons_ne_nil _ _) (.inl rfl) hrest
      simpa [joinFields] using hhead.append htail

lemma reads_record {record : List String} (hlength : ∀ text ∈ record, text.length ≤ fieldLimit) :
    Reads .start ((if record = [""] then quote [] else joinFields record) ++ ['\r'])
      ⟨.eatCrnl, [], record⟩ := by
  split
  · next hempty =>
    subst hempty
    have hquote : Reads .start (quote []) ⟨.quoteInQuotedField, [], []⟩ :=
      reads_quote (.inl rfl) (Nat.zero_le _)
    exact hquote.append (reads_return trivial)
  · next hrecord =>
    by_cases hne : record = []
    · subst hne
      exact reads_char (by decide) rfl
    · have hread : Reads .start (joinFields record ++ ['\r']) ⟨.eatCrnl, [], [] ++ record⟩ :=
        reads_fields (.inl rfl) hne (.inr hrecord) hlength
      exact hread

end Reads

lemma records_newline (record : List String) (cs : List Char) :
    records ⟨.eatCrnl, [], record⟩ (lines ('\n' :: cs)) =
      (record :: (records .start (lines cs)).1, (records .start (lines cs)).2) := by
  rw [lines_newline, records]
  rfl

/-- **Records are read as they were written.** -/
theorem records_write {rows : List (List String)}
    (hlength : ∀ record ∈ rows, ∀ text ∈ record, text.length ≤ fieldLimit) :
    records .start (lines (write rows).toList) = (rows, none) := by
  rw [write, String.toList_ofList]
  induction rows with
  | nil => rfl
  | cons record rows ih =>
    obtain ⟨hrecord, hrows⟩ := List.forall_mem_cons.mp hlength
    have hread := reads_record hrecord ('\n' :: rows.flatMap writeRecord) (List.cons_ne_nil _ _)
    rw [List.flatMap_cons, writeRecord, List.append_assoc]
    rw [List.append_assoc] at hread
    exact hread.trans (by rw [records_newline, ih hrows])

/-! ### Rows -/

lemma setItem_of_fresh {κ α : Type} [DecidableEq κ] {k : κ} {a : α} {d : List (κ × α)}
    (h : ∀ entry ∈ d, entry.1 ≠ k) : setItem k a d = d ++ [(k, a)] := by
  induction d with
  | nil => rfl
  | cons entry d ih =>
    obtain ⟨hentry, hd⟩ := List.forall_mem_cons.mp h
    rw [setItem, if_neg hentry, ih hd, List.cons_append]

lemma foldl_setItem {κ α β : Type} [DecidableEq κ] {key : β → κ} {value : β → α} {items : List β}
    {d : List (κ × α)} (hnodup : (items.map key).Nodup)
    (hfresh : ∀ entry ∈ d, ∀ item ∈ items, entry.1 ≠ key item) :
    items.foldl (fun d item => setItem (key item) (value item) d) d =
      d ++ items.map fun item => (key item, value item) := by
  induction items generalizing d with
  | nil => simp
  | cons item items ih =>
    obtain ⟨hitem, hitems⟩ := List.nodup_cons.mp hnodup
    have hset : setItem (key item) (value item) d = d ++ [(key item, value item)] :=
      setItem_of_fresh fun entry hentry => hfresh entry hentry item List.mem_cons_self
    have htail : ∀ entry ∈ d ++ [(key item, value item)], ∀ other ∈ items,
        entry.1 ≠ key other := by
      intro entry hentry other hother
      rcases List.mem_append.mp hentry with hold | hnew
      · exact hfresh entry hold other (List.mem_cons_of_mem _ hother)
      · rw [List.mem_singleton.mp hnew]
        exact fun he => hitem (List.mem_map.mpr ⟨other, hother, he.symm⟩)
    rw [List.foldl_cons, hset, ih hitems htail]
    simp

lemma readRow_eq {columns record : List String} (hnodup : columns.Nodup)
    (hlength : record.length = columns.length) : readRow columns record =
      (columns.zip record).map fun p => (some p.1, Cell.text p.2) := by
  have hle : columns.length ≤ record.length := Nat.le_of_eq hlength.symm
  have hge : record.length ≤ columns.length := Nat.le_of_eq hlength
  have hkeys : ((columns.zip record).map fun p => some p.1).Nodup := by
    have hfst : (columns.zip record).map Prod.fst = columns := List.map_fst_zip hle
    have hsome : ((columns.zip record).map fun p => some p.1) = columns.map some := by
      conv_rhs => rw [← hfst, List.map_map]
      rfl
    rw [hsome]
    exact List.Pairwise.map some (fun a b hne he => hne (Option.some.inj he)) hnodup
  have hnamed : (columns.zip record).foldl (fun d p => setItem (some p.1) (Cell.text p.2) d) [] =
      [] ++ (columns.zip record).map fun p => (some p.1, Cell.text p.2) :=
    foldl_setItem hkeys (List.forall_mem_nil _)
  rw [readRow, if_neg (Nat.not_lt.mpr hge), List.drop_of_length_le hle]
  exact hnamed

/-- **Rows are read as they were written**, by the names of their columns. -/
theorem rows_write {columns : List String} {rows : List (List String)} (hnodup : columns.Nodup)
    (hcolumns : ∀ name ∈ columns, name.length ≤ fieldLimit) (hne : columns ≠ [])
    (hlength : ∀ record ∈ rows, record.length = columns.length)
    (hlimit : ∀ record ∈ rows, ∀ text ∈ record, text.length ≤ fieldLimit) :
    Csv.rows (write (columns :: rows)) =
      (rows.map fun record => (columns.zip record).map fun p => (some p.1, Cell.text p.2),
        none) := by
  have hread : records .start (lines (write (columns :: rows)).toList) = (columns :: rows, none) :=
    records_write (List.forall_mem_cons.mpr ⟨hcolumns, hlimit⟩)
  have hblank : rows.filter (· ≠ []) = rows := by
    refine List.filter_eq_self.mpr fun record hrecord => decide_eq_true ?_
    rintro rfl
    exact hne (List.length_eq_zero_iff.mp (hlength [] hrecord).symm)
  rw [Csv.rows, hread]
  dsimp only
  rw [hblank]
  congr 1
  exact List.map_congr_left fun record hrecord => readRow_eq hnodup (hlength record hrecord)

end SchoolOs.Csv
