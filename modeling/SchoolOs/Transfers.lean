import SchoolOs.Registers
import SchoolOs.Reimports

/-!
A register that moves: the students of a school are exported, and the file is imported into a school
of an organization that knows nobody yet. The import looks for persons by mail address and phone, so
that of the students who share one only the first arrives.
-/

namespace SchoolOs

open Runs Savepoints

/-! ### Texts -/

section Texts

variable {s : String}

lemma mem_strip {c : Char} (h : c ∈ (strip s).toList) : c ∈ s.toList := by
  rw [strip, String.toList_ofList] at h
  exact (List.dropWhile_sublist _).mem ((List.rdropWhile_prefix isSpace _).sublist.mem h)

lemma length_strip_le (s : String) : (strip s).length ≤ s.length := by
  rw [← String.length_toList, ← String.length_toList, strip, String.toList_ofList]
  exact (List.rdropWhile_prefix isSpace _).length_le.trans (List.dropWhile_sublist _).length_le

lemma strip_strip (s : String) : strip (strip s) = strip s := by
  have hleft : ((s.toList.dropWhile isSpace).rdropWhile isSpace).dropWhile isSpace =
      (s.toList.dropWhile isSpace).rdropWhile isSpace := by
    refine List.dropWhile_eq_self_iff.mpr fun hpos => ?_
    have hstart := List.rdropWhile_prefix isSpace (s.toList.dropWhile isSpace)
    have hlength : 0 < (s.toList.dropWhile isSpace).length := hpos.trans_le hstart.length_le
    rw [hstart.getElem hpos]
    exact List.dropWhile_get_zero_not isSpace _ hlength
  conv_lhs => rw [strip, strip, String.toList_ofList, hleft, List.rdropWhile_idempotent]
  rfl

lemma bindable_strip (h : bindable s = true) : bindable (strip s) = true := by
  simp only [bindable, Bool.not_eq_true', List.contains_eq_mem, decide_eq_false_iff_not] at h ⊢
  exact fun hmem => h (mem_strip hmem)

lemma varchar_readText {n : ℕ} {x : Option String} (h : varchar n x = true) :
    varchar n (readText strip x) = true := by
  cases hread : readText strip x with
  | none => rfl
  | some t =>
    obtain ⟨hmap, -⟩ := Option.filter_eq_some_iff.mp hread
    obtain ⟨s, rfl, rfl⟩ := Option.map_eq_some_iff.mp hmap
    simp only [varchar, Bool.and_eq_true, decide_eq_true_eq] at h ⊢
    exact ⟨(length_strip_le s).trans h.1, bindable_strip h.2⟩

lemma length_of_mem_varchar {n : ℕ} {x : Option String} (h : varchar n x = true) :
    ∀ s ∈ x, s.length ≤ n ∧ bindable s = true := by
  rintro s rfl
  simpa [varchar] using h

lemma one_le_length_strip (h : ¬ Blank s) : 1 ≤ (strip s).length := by
  refine Nat.one_le_iff_ne_zero.mpr fun hzero => h (strip_eq_empty.mp ?_)
  rw [← String.length_toList, List.length_eq_zero_iff] at hzero
  exact String.toList_eq_nil_iff.mp hzero

end Texts

instance Blank.decidable (s : String) : Decidable (Blank s) :=
  List.decidableBAll (fun c => isSpace c = true) s.toList

/-! ### Who arrives -/

/-- Both texts are there and read the same. -/
def SameText (x y : Option String) : Prop :=
  readText strip x ≠ none ∧ readText strip x = readText strip y

instance SameText.decidable (x y : Option String) : Decidable (SameText x y) :=
  inferInstanceAs (Decidable (_ ∧ _))

/-- The admission number is in use, or the import takes the person for the other one. -/
def Clashes (there line : Student × Person) : Prop :=
  strip there.1.admissionNumber = strip line.1.admissionNumber ∨
    SameText there.2.primaryEmail line.2.primaryEmail ∨
    SameText there.2.primaryPhone line.2.primaryPhone

instance Clashes.decidable (there line : Student × Person) : Decidable (Clashes there line) :=
  inferInstanceAs (Decidable (_ ∨ _ ∨ _))

/-- A student arrives, after the ones who did. -/
def Arrives (before : List (Student × Person)) (line : Student × Person) : Prop :=
  (¬ Blank line.2.firstName ∧ ¬ Blank line.1.admissionNumber) ∧
    ∀ there ∈ before, ¬ Clashes there line

instance Arrives.decidable (before : List (Student × Person)) (line : Student × Person) :
    Decidable (Arrives before line) :=
  inferInstanceAs (Decidable ((_ ∧ _) ∧ ∀ there ∈ before, _))

def arrive (before : List (Student × Person)) (line : Student × Person) :
    List (Student × Person) :=
  if Arrives before line then before ++ [line] else before

/-- The students who arrive, of those in a file. -/
def arrivals (lines : List (Student × Person)) : List (Student × Person) := lines.foldl arrive []

/-- The student and the person have the data of the line, without the white space around texts. -/
structure Moved (line new : Student × Person) : Prop where
  firstName : new.2.firstName = strip line.2.firstName
  lastName : new.2.lastName = readText strip line.2.lastName
  primaryEmail : new.2.primaryEmail = readText strip line.2.primaryEmail
  primaryPhone : new.2.primaryPhone = readText strip line.2.primaryPhone
  admissionNumber : new.1.admissionNumber = strip line.1.admissionNumber
  admissionDate : new.1.admissionDate = line.1.admissionDate
  status : new.1.status = line.1.status

/-- The cells of a student, without the white space around them. -/
def strippedCells (line : Student × Person) : List (String × String) :=
  (studentCells line).map fun cell => (cell.1, strip cell.2)

lemma getD_readText (x : Option String) : (readText strip x).getD "" = strip (x.getD "") := by
  cases x with
  | none => exact strip_empty.symm
  | some s =>
    by_cases hs : strip s = ""
    · simp [readText, hs, Option.filter_some]
    · simp [readText, hs, Option.filter_some]

lemma Moved.cells {line new : Student × Person} (h : Moved line new) :
    studentCells new = strippedCells line := by
  have hstatus : strip line.1.status.value = line.1.status.value :=
    (studentStatus_read line.1.status).1
  simp [studentCells, strippedCells, h.firstName, h.lastName, h.primaryEmail, h.primaryPhone,
    h.admissionNumber, h.admissionDate, h.status, getD_readText, strip_iso, hstatus]

/-! ### A row of the file -/

/-- The texts of the line are as columns store them. -/
structure LineStored (line : Student × Person) : Prop where
  student : line.1.Stored
  person : line.2.Stored
  number : bindable line.1.admissionNumber = true

section Payloads

variable {env : ImportEnv} {ctx : RequestContext} {organizationId id : Ulid} {row : CsvRow}
  {line : Student × Person}

/-- The person that a row makes. -/
def personOf (ctx : RequestContext) (organizationId id : Ulid) (row : CsvRow) : Person :=
  { named id organizationId (((row.lookup "first_name").join).getD "") (given row "last_name") with
    primaryPhone := given row "primary_phone"
    primaryEmail := given row "primary_email"
    createdById := ctx.userId }

/-- The schema of persons takes a row with texts of the right lengths. -/
lemma personCreate_eq (ctx : RequestContext) (organizationId id : Ulid)
    (hfirst : 1 ≤ (((row.lookup "first_name").join).getD "").length ∧
      (((row.lookup "first_name").join).getD "").length ≤ 100)
    (hlast : ∀ s ∈ given row "last_name", s.length ≤ 100)
    (hphone : ∀ s ∈ given row "primary_phone", s.length ≤ 24)
    (hemail : ∀ s ∈ given row "primary_email", s.length ≤ 255) :
    ∃ data, personCreate row = some data ∧
      Persons.created ctx organizationId data id = personOf ctx organizationId id row ∧
      data.primaryEmail = given row "primary_email" ∧
      data.primaryPhone = given row "primary_phone" := by
  unfold personCreate
  exact ⟨_, dif_pos ⟨hfirst, hlast, hphone, hemail⟩, rfl, rfl, rfl⟩

/-- The columns store the person of a row when they store the texts. -/
lemma personOf_fits (hfirst : bindable (((row.lookup "first_name").join).getD "") = true)
    (hlast : varchar 100 (given row "last_name") = true)
    (hphone : varchar 24 (given row "primary_phone") = true)
    (hemail : varchar 255 (given row "primary_email") = true) :
    (personOf ctx organizationId id row).Fits :=
  ⟨hfirst, rfl, hlast, rfl, rfl, rfl, rfl, hphone, hemail, rfl⟩

/-- The row of the file that the line becomes. -/
def rowOf (line : Student × Person) : CsvRow := strippedRow studentColumns (studentCells line)

lemma rowOf_firstName (line : Student × Person) :
    ((rowOf line).lookup "first_name").join = some (strip line.2.firstName) := by
  rw [rowOf, lookup_strippedRow (by decide)]
  rfl

lemma rowOf_read (h : LineStored line) : PersonRead strip line.2 (rowOf line) :=
  (studentRead h.student).person

lemma rowOf_number (h : LineStored line) :
    given (rowOf line) "admission_number" = readText strip (some line.1.admissionNumber) :=
  (studentRead h.student).admissionNumber

lemma personOf_line (h : LineStored line) (hfirst : ¬ Blank line.2.firstName)
    (ctx : RequestContext) (organizationId id : Ulid) :
    ∃ data, personCreate (rowOf line) = some data ∧
      Persons.created ctx organizationId data id = personOf ctx organizationId id (rowOf line) ∧
      data.primaryEmail = readText strip line.2.primaryEmail ∧
      data.primaryPhone = readText strip line.2.primaryPhone ∧
      (personOf ctx organizationId id (rowOf line)).Fits := by
  obtain ⟨hlength, hbind, -, hlast, -, -, -, -, hphone, hemail, -⟩ := h.person
  have hname : (((rowOf line).lookup "first_name").join).getD "" = strip line.2.firstName := by
    rw [rowOf_firstName, Option.getD_some]
  have hread := rowOf_read h
  generalize rowOf line = row at hname hread ⊢
  have hlast' : varchar 100 (given row "last_name") = true :=
    hread.lastName ▸ varchar_readText hlast
  have hphone' : varchar 24 (given row "primary_phone") = true :=
    hread.primaryPhone ▸ varchar_readText hphone
  have hemail' : varchar 255 (given row "primary_email") = true :=
    hread.primaryEmail ▸ varchar_readText hemail
  have hnameLength : 1 ≤ (((row.lookup "first_name").join).getD "").length ∧
      (((row.lookup "first_name").join).getD "").length ≤ 100 := by
    rw [hname]
    exact ⟨one_le_length_strip hfirst, (length_strip_le _).trans hlength⟩
  obtain ⟨data, hdata, hcreated, hmail, htel⟩ := personCreate_eq ctx organizationId id hnameLength
    (fun s hs => (length_of_mem_varchar hlast' s hs).1)
    (fun s hs => (length_of_mem_varchar hphone' s hs).1)
    (fun s hs => (length_of_mem_varchar hemail' s hs).1)
  exact ⟨data, hdata, hcreated, hmail.trans hread.primaryEmail, htel.trans hread.primaryPhone,
    personOf_fits (hname ▸ bindable_strip hbind) hlast' hphone' hemail'⟩

lemma studentCreate_line (hstrip : env.strip = strip) (h : LineStored line)
    (hnumber : ¬ Blank line.1.admissionNumber) (personId : Ulid) :
    ∃ data, studentCreate env (rowOf line) personId = some data ∧ data.personId = personId ∧
      data.admissionNumber = strip line.1.admissionNumber ∧
      data.admissionDate = line.1.admissionDate ∧ data.status = line.1.status := by
  have htext : ∀ name ∈ studentColumns, textOf env (rowOf line) name =
      some (strip (cellOf (studentCells line) name)) := by
    intro name hname
    rw [textOf, rowOf, lookup_strippedRow hname, Option.join_some, Option.map_some, hstrip,
      strip_strip]
  have hadmission : textOf env (rowOf line) "admission_number" =
      some (strip line.1.admissionNumber) := htext _ (by decide)
  have hdate : textOf env (rowOf line) "admission_date" = some line.1.admissionDate.iso :=
    (htext _ (by decide)).trans (congrArg some (strip_iso _))
  obtain ⟨hplain, hne, -, hvalue⟩ := studentStatus_read line.1.status
  have hstatus : stripped env (rowOf line) "status" = .ok line.1.status.value :=
    stripped_strippedRow hstrip (by decide) hplain
  have hlength : 1 ≤ (strip line.1.admissionNumber).length ∧
      (strip line.1.admissionNumber).length ≤ 50 :=
    ⟨one_le_length_strip hnumber, (length_strip_le _).trans h.student.1⟩
  have hdateRead := dateOf_iso h.student.2.1 h.student.2.2
  refine ⟨⟨personId, strip line.1.admissionNumber, line.1.admissionDate, line.1.status, hlength⟩,
    ?_, rfl, rfl, rfl, rfl⟩
  simp only [studentCreate, statusOf, hadmission, hdate, hstatus, Option.bind_some, hdateRead,
    Except.toOption, Option.map_some, if_neg hne, hvalue, Option.bind_eq_bind, dif_pos hlength]

end Payloads

/-! ### The school that takes them in -/

section Pairs

variable {α β : Type} {R : α → β → Prop} {as : List α} {bs : List β}

lemma exists_of_forall₂ (h : List.Forall₂ R as bs) : ∀ a ∈ as, ∃ b ∈ bs, R a b := by
  induction h with
  | nil => exact List.forall_mem_nil _
  | cons hab _ ih =>
    refine List.forall_mem_cons.mpr ⟨⟨_, List.mem_cons_self, hab⟩, fun a ha => ?_⟩
    obtain ⟨b, hb, hr⟩ := ih a ha
    exact ⟨b, List.mem_cons_of_mem _ hb, hr⟩

end Pairs

/-- The school has the students who arrived, and its organization no other persons. -/
structure MovedIn (school : School) (db : SchoolDB) (lines entries : List (Student × Person)) :
    Prop where
  moved : List.Forall₂ Moved lines entries
  students : db.students.rows.filter (fun s => s.schoolId = school.id) = entries.map Prod.fst
  persons : db.persons.rows.filter (fun p => p.organizationId = school.organizationId) =
    entries.map Prod.snd
  live : ∀ e ∈ entries, e.1.deletedAt = none ∧ e.2.deletedAt = none ∧ e.1.personId = e.2.id
  there : db.HasSchool school.id

/-- The ids for a row, and for those after it, are new. -/
structure Undrawn (draw : ℕ → Ulid × Ulid) (n i : ℕ) (db : SchoolDB) : Prop where
  persons : ∀ j < n, i ≤ j → ∀ p ∈ db.persons, p.id ≠ (draw j).1
  students : ∀ j < n, i ≤ j → ∀ s ∈ db.students, s.id ≠ (draw j).2

section MovedIn

variable {school : School} {db : SchoolDB} {lines entries : List (Student × Person)}
  {line : Student × Person}

lemma MovedIn.mem_persons (h : MovedIn school db lines entries) {p : Person} :
    p ∈ db.persons ∧ p.organizationId = school.organizationId ↔ p ∈ entries.map Prod.snd := by
  rw [← h.persons, List.mem_filter, decide_eq_true_eq]
  exact Iff.rfl

lemma MovedIn.mem_students (h : MovedIn school db lines entries) {s : Student} :
    s ∈ db.students ∧ s.schoolId = school.id ↔ s ∈ entries.map Prod.fst := by
  rw [← h.students, List.mem_filter, decide_eq_true_eq]
  exact Iff.rfl

lemma MovedIn.exported (h : MovedIn school db lines entries) :
    exportedStudents db school.id = entries := by
  have hrows : (db.students.rows.filter fun s => s.schoolId = school.id ∧ s.deletedAt = none) =
      entries.map Prod.fst := by
    have hsplit : (db.students.rows.filter fun s => s.schoolId = school.id ∧ s.deletedAt = none) =
        (db.students.rows.filter fun s => s.schoolId = school.id).filter fun s =>
          s.deletedAt = none := by
      rw [List.filter_filter]
      refine List.filter_congr fun s _ => ?_
      rw [Bool.decide_and, Bool.and_comm]
    rw [hsplit, h.students, List.filter_eq_self]
    intro s hs
    obtain ⟨e, he, rfl⟩ := List.mem_map.mp hs
    exact decide_eq_true (h.live e he).1
  have hjoin : ∀ e ∈ entries, (db.persons.get e.1.personId).map (fun p => (e.1, p)) = some e := by
    intro e he
    have hperson := (h.mem_persons.mpr (List.mem_map_of_mem he)).1
    rw [(h.live e he).2.2, Table.get_eq_some.mpr ⟨hperson, rfl⟩]
    rfl
  rw [exportedStudents, hrows, List.filterMap_map]
  exact (List.filterMap_congr hjoin).trans (List.filterMap_some ..)

lemma MovedIn.add (h : MovedIn school db lines entries) {db' : SchoolDB} {entry : Student × Person}
    (hmoved : Moved line entry) (hperson : db.persons.insert entry.2 = some db'.persons)
    (hstudent : db.students.insert entry.1 = some db'.students)
    (hschool : entry.1.schoolId = school.id)
    (horganization : entry.2.organizationId = school.organizationId)
    (hlive : entry.1.deletedAt = none ∧ entry.2.deletedAt = none ∧ entry.1.personId = entry.2.id)
    (hcore : db'.core = db.core) : MovedIn school db' (lines ++ [line]) (entries ++ [entry]) where
  moved := List.rel_append h.moved (.cons hmoved .nil)
  students := by
    rw [← (Table.insert_eq_some.mp hstudent).2, List.filter_append, h.students, List.map_append,
      List.map_singleton, List.filter_singleton, decide_eq_true hschool]
    rfl
  persons := by
    rw [← (Table.insert_eq_some.mp hperson).2, List.filter_append, h.persons, List.map_append,
      List.map_singleton, List.filter_singleton, decide_eq_true horganization]
    rfl
  live := List.forall_mem_append.mpr ⟨h.live, List.forall_mem_singleton.mpr hlive⟩
  there := by
    unfold SchoolDB.HasSchool
    rw [hcore]
    exact h.there

namespace Imports

/-! ### Looking for the person -/

lemma findPerson_eq (db : SchoolDB) (organizationId : Ulid) (column : Person → Option String)
    {x : Option String} (hx : ∀ s ∈ x, bindable s = true) : findPerson organizationId column x db =
      .ok (x.bind fun s => db.persons.rows.find? fun p =>
        p.organizationId = organizationId ∧ column p = some s ∧ p.deletedAt = none) db := by
  cases x with
  | none => rfl
  | some s =>
    rw [findPerson, if_pos (hx s rfl)]
    rfl

/-- A lookup by a text finds the person of a student who arrived with it, or nobody has it. -/
lemma lookup_movedIn (h : MovedIn school db lines entries) (column : Person → Option String)
    (hcolumn : ∀ k e, Moved k e → column e.2 = readText strip (column k.2))
    (line : Student × Person) (found : Option Person)
    (hfound : ((readText strip (column line.2)).bind fun s => db.persons.rows.find? fun p =>
      p.organizationId = school.organizationId ∧ column p = some s ∧ p.deletedAt = none) = found) :
    (∃ p ∈ entries.map Prod.snd, found = some p) ∧
        (∃ k ∈ lines, SameText (column k.2) (column line.2)) ∨
      found = none ∧ ∀ k ∈ lines, ¬ SameText (column k.2) (column line.2) := by
  cases hx : readText strip (column line.2) with
  | none =>
    -- Nothing was written in the column, so nobody shares it.
    rw [hx, Option.bind_none] at hfound
    exact .inr ⟨hfound.symm, fun k _ hshared => hshared.1 (hshared.2.trans hx)⟩
  | some s =>
    rw [hx, Option.bind_some] at hfound
    cases found with
    | none =>
      -- Whoever shared the text would have been found.
      refine .inr ⟨rfl, fun k hk hshared => ?_⟩
      obtain ⟨e, he, hmoved⟩ := exists_of_forall₂ h.moved k hk
      obtain ⟨hperson, horganization⟩ := h.mem_persons.mpr (List.mem_map_of_mem he)
      have hother := List.find?_eq_none.mp hfound e.2 hperson
      have hsame : column e.2 = some s := (hcolumn k e hmoved).trans (hshared.2.trans hx)
      exact hother (decide_eq_true ⟨horganization, hsame, (h.live e he).2.1⟩)
    | some p =>
      -- The person who is found came with a line that has the text.
      obtain ⟨horganization, hsame, -⟩ :
          p.organizationId = school.organizationId ∧ column p = some s ∧ p.deletedAt = none := by
        simpa only [decide_eq_true_eq] using List.find?_some hfound
      have hmem : p ∈ entries.map Prod.snd :=
        h.mem_persons.mp ⟨List.mem_of_find?_eq_some hfound, horganization⟩
      refine .inl ⟨⟨p, hmem, rfl⟩, ?_⟩
      obtain ⟨e, he, rfl⟩ := List.mem_map.mp hmem
      obtain ⟨k, hk, hmoved⟩ := exists_of_forall₂ h.moved.flip e he
      have hread : readText strip (column k.2) = some s := (hcolumn k e hmoved).symm.trans hsame
      exact ⟨k, hk, by rw [hread]; exact Option.some_ne_none s, hread.trans hx.symm⟩

/-- The person of a student who arrived is found by mail address or phone, or nobody is. -/
lemma existingPerson_movedIn (h : MovedIn school db lines entries) (hstored : LineStored line)
    {data : PersonCreate} (hemail : data.primaryEmail = readText strip line.2.primaryEmail)
    (hphone : data.primaryPhone = readText strip line.2.primaryPhone) :
    (∃ p ∈ entries.map Prod.snd, existingPerson school.organizationId data db = .ok (some p) db) ∧
        (∃ k ∈ lines, Clashes k line) ∨
      existingPerson school.organizationId data db = .ok none db ∧
        ∀ k ∈ lines, ¬ SameText k.2.primaryEmail line.2.primaryEmail ∧
          ¬ SameText k.2.primaryPhone line.2.primaryPhone := by
  obtain ⟨-, -, -, -, -, -, -, -, hphoneStored, hemailStored, -⟩ := hstored.person
  have hemailBind := length_of_mem_varchar (varchar_readText hemailStored)
  have hphoneBind := length_of_mem_varchar (varchar_readText hphoneStored)
  rw [← hemail] at hemailBind
  rw [← hphone] at hphoneBind
  have hbyEmail := findPerson_eq db school.organizationId Person.primaryEmail
    fun s hs => (hemailBind s hs).2
  have hbyPhone := findPerson_eq db school.organizationId Person.primaryPhone
    fun s hs => (hphoneBind s hs).2
  rcases lookup_movedIn h Person.primaryEmail (fun _ _ hm => hm.primaryEmail) line _
      (by rw [← hemail]) with ⟨⟨p, hp, hfound⟩, k, hk, hshared⟩ | ⟨hnone, hemails⟩
  · -- Found by the mail address.
    refine .inl ⟨⟨p, hp, ?_⟩, k, hk, .inr (.inl hshared)⟩
    rw [hfound] at hbyEmail
    exact bind_through.mpr ⟨some p, db, hbyEmail, pure_through.mpr ⟨rfl, rfl⟩⟩
  · rw [hnone] at hbyEmail
    rcases lookup_movedIn h Person.primaryPhone (fun _ _ hm => hm.primaryPhone) line _
        (by rw [← hphone]) with ⟨⟨p, hp, hfound⟩, k, hk, hshared⟩ | ⟨hnone, hphones⟩
    · -- Found by the phone number.
      refine .inl ⟨⟨p, hp, ?_⟩, k, hk, .inr (.inr hshared)⟩
      rw [hfound] at hbyPhone
      exact bind_through.mpr ⟨none, db, hbyEmail, hbyPhone⟩
    · rw [hnone] at hbyPhone
      exact .inr ⟨bind_through.mpr ⟨none, db, hbyEmail, hbyPhone⟩,
        fun k hk => ⟨hemails k hk, hphones k hk⟩⟩

/-! ### A row goes through, or raises -/

variable {env : ImportEnv} {ctx : RequestContext} {draw : ℕ → Ulid × Ulid} {n i : ℕ}

lemma cellsPresent_row (line : Student × Person) : CellsPresent .students (rowOf line) := by
  have hstatus : (rowOf line).lookup "status" =
      some (some (strip (cellOf (studentCells line) "status"))) :=
    lookup_strippedRow (by decide)
  intro hnone
  cases hstatus.symm.trans hnone

lemma validateStudentRow_problems {row : CsvRow} (h : CellsPresent .students row) :
    validateStudentRow env row i = .ok (problems env .students (row, i)) :=
  @validateRow_eq env .students (row, i) h

lemma required_of_valid {row : CsvRow} (h : validateStudentRow env row i = .ok []) :
    required row i "first_name" = [] ∧ required row i "admission_number" = [] := by
  obtain ⟨status, -, h⟩ := bind_ok.mp h
  have hall := pure_ok.mp h
  simp only [List.append_eq_nil_iff] at hall
  exact ⟨hall.1.1.1, hall.1.1.2⟩

lemma not_blank_of_required {row : CsvRow} {name text : String} (h : required row i name = [])
    (hread : given row name = readText strip (some text)) : ¬ Blank text := by
  intro hblank
  have hnone : given row name = none := by
    rw [hread]
    simp [readText, strip_eq_empty.mpr hblank]
  rw [required, hnone] at h
  cases h

lemma problems_row (hstrip : env.strip = strip) (h : LineStored line) :
    problems env .students (rowOf line, i) = [] ↔
      ¬ Blank line.2.firstName ∧ ¬ Blank line.1.admissionNumber := by
  have hvalid : ¬ Blank line.2.firstName → ¬ Blank line.1.admissionNumber →
      validateStudentRow env (rowOf line) i = .ok [] := fun hfirst hnumber =>
    validateStudentRow_eq hstrip h.student hfirst hnumber i
  have hread := rowOf_read h
  have hnumber := rowOf_number h
  have hcells := cellsPresent_row line
  generalize rowOf line = row at hvalid hread hnumber hcells ⊢
  have hvalidate := @validateStudentRow_problems env i row hcells
  constructor
  · intro hnone
    rw [hnone] at hvalidate
    obtain ⟨hfirst, hrequired⟩ := required_of_valid hvalidate
    exact ⟨not_blank_of_required hfirst hread.firstName, not_blank_of_required hrequired hnumber⟩
  · rintro ⟨hfirst, hblank⟩
    exact Except.ok.inj (hvalidate.symm.trans (hvalid hfirst hblank))

/-- The student of a line, when the import enters them. -/
def studentOf (ctx : RequestContext) (school : School) (line : Student × Person)
    (personId id : Ulid) : Student :=
  { line.1 with
    id := id
    schoolId := school.id
    organizationId := school.organizationId
    personId := personId
    admissionNumber := strip line.1.admissionNumber
    withdrawalDate := none
    withdrawalReason := none
    deletedAt := none
    createdById := ctx.userId
    updatedById := none
    version := 1 }

lemma importRecord_row (hstrip : env.strip = strip) (ctx : RequestContext) (school : School)
    (h : LineStored line) (hnumber : ¬ Blank line.1.admissionNumber) (personId id : Ulid) :
    importRecord env ctx .students school.id school.organizationId (rowOf line) personId id =
      write .recordInsert fun db =>
        Students.insertRow db (studentOf ctx school line personId id) := by
  obtain ⟨data, hdata, hpersonId, hdataNumber, hdate, hstatus⟩ :=
    studentCreate_line hstrip h hnumber personId
  have hstudent : importedStudent ctx school.id school.organizationId data id =
      studentOf ctx school line personId id := by
    simp only [importedStudent, studentOf, hpersonId, hdataNumber, hdate, hstatus]
  rw [importRecord, hdata, ← hstudent]
  rfl

/-- The new ids differ from one another. -/
def Distinct (draw : ℕ → Ulid × Ulid) (n : ℕ) : Prop :=
  ∀ i < n, ∀ j < n, i ≠ j → (draw i).1 ≠ (draw j).1 ∧ (draw i).2 ≠ (draw j).2

lemma import_arrives (hstrip : env.strip = strip) (hdistinct : Distinct draw n)
    (hi : i < n) (h : MovedIn school db lines entries) (hdraw : Undrawn draw n i db)
    (hstored : LineStored line) (harrives : Arrives lines line) : ∃ db' entry,
      importRow env ctx .students school.id school.organizationId draw (rowOf line, i) db =
        .ok () db' ∧
      MovedIn school db' (lines ++ [line]) (entries ++ [entry]) ∧ Undrawn draw n (i + 1) db' := by
  obtain ⟨⟨hfirst, hnumber⟩, hapart⟩ := harrives
  obtain ⟨data, hdata, hcreated, hemail, hphone, hfits⟩ :=
    personOf_line hstored hfirst ctx school.organizationId (draw i).1
  have hread := rowOf_read hstored
  have hname := rowOf_firstName line
  have hrecord := importRecord_row hstrip ctx school hstored hnumber
  generalize rowOf line = row at hdata hcreated hfits hread hname hrecord ⊢
  -- Nobody is found.
  have hnone : existingPerson school.organizationId data db = .ok none db := by
    rcases existingPerson_movedIn h hstored hemail hphone with ⟨-, k, hk, hclash⟩ | ⟨hnone, -⟩
    · exact absurd hclash (hapart k hk)
    · exact hnone
  -- The person goes in.
  obtain ⟨persons, hpersons⟩ : ∃ persons, db.persons.insert
      (personOf ctx school.organizationId (draw i).1 row) = some persons :=
    Table.insert_of_fresh fun p hp => hdraw.persons i hi le_rfl p hp
  have hinsertPerson : Persons.insertRow db (Persons.created ctx school.organizationId data
      (draw i).1) = .ok { db with persons := persons } := by
    rw [hcreated]
    exact bind_ok.mpr ⟨(), ensure_ok.mpr hfits, bind_ok.mpr ⟨persons, found_ok.mpr hpersons,
      bind_ok.mpr ⟨(), ensure_ok.mpr ⟨nofun, nofun, nofun⟩, rfl⟩⟩⟩
  have hperson : importPerson ctx school.organizationId row (draw i).1 db =
      .ok (draw i).1 { db with persons := persons } :=
    bind_through.mpr ⟨data, db, orRaise_ok.mpr ⟨hdata, rfl⟩, bind_through.mpr ⟨none, db, hnone,
      bind_through.mpr ⟨(), _, write_ok.mpr hinsertPerson, pure_through.mpr ⟨rfl, rfl⟩⟩⟩⟩
  -- And so does the student.
  have hstudentFresh : ∀ s ∈ db.students, ¬ Students.Collides s
      (studentOf ctx school line (draw i).1 (draw i).2) := by
    rintro s hs ⟨hschool, hcollides⟩
    obtain ⟨e, he, rfl⟩ := List.mem_map.mp (h.mem_students.mp ⟨hs, hschool⟩)
    obtain ⟨k, hk, hmoved⟩ := exists_of_forall₂ h.moved.flip e he
    rcases hcollides with hsame | hsame
    · exact hapart k hk (.inl (hmoved.admissionNumber.symm.trans hsame))
    · have hmem := (h.mem_persons.mpr (List.mem_map_of_mem he)).1
      exact hdraw.persons i hi le_rfl _ hmem ((h.live e he).2.2.symm.trans hsame)
  obtain ⟨students, hstudents⟩ : ∃ students, db.students.insert
      (studentOf ctx school line (draw i).1 (draw i).2) = some students :=
    Table.insert_of_fresh fun s hs => hdraw.students i hi le_rfl s hs
  have hthere : (persons.get (draw i).1).isSome := by
    rw [Table.get_insert hpersons]
    exact (congrArg Option.isSome (if_pos rfl)).trans rfl
  have hinsertStudent : Students.insertRow { db with persons := persons }
      (studentOf ctx school line (draw i).1 (draw i).2) =
        .ok { db with persons := persons, students := students } :=
    bind_ok.mpr ⟨students, found_ok.mpr hstudents, bind_ok.mpr ⟨(), ensure_ok.mpr
      ⟨hstudentFresh, h.there, hthere, bindable_strip hstored.number⟩, rfl⟩⟩
  refine ⟨{ db with persons := persons, students := students },
    (studentOf ctx school line (draw i).1 (draw i).2,
      personOf ctx school.organizationId (draw i).1 row), ?_, ?_, ?_⟩
  · refine bind_through.mpr ⟨(draw i).1, { db with persons := persons }, hperson, ?_⟩
    rw [hrecord]
    exact write_ok.mpr hinsertStudent
  · refine h.add ?_ hpersons hstudents rfl rfl ⟨rfl, rfl, rfl⟩ rfl
    have hnamed : (personOf ctx school.organizationId (draw i).1 row).firstName =
        strip line.2.firstName := by
      have hfield : (personOf ctx school.organizationId (draw i).1 row).firstName =
        ((row.lookup "first_name").join).getD "" := rfl
      rw [hfield, hname, Option.getD_some]
    exact ⟨hnamed, hread.lastName, hread.primaryEmail, hread.primaryPhone, rfl, rfl, rfl⟩
  · constructor
    · intro j hj hlater p hp
      rcases (Table.mem_of_insert hpersons).mp hp with hold | rfl
      · exact hdraw.persons j hj (by omega) p hold
      · exact (hdistinct i hi j hj (by omega)).1
    · intro j hj hlater s hs
      rcases (Table.mem_of_insert hstudents).mp hs with hold | rfl
      · exact hdraw.students j hj (by omega) s hold
      · exact (hdistinct i hi j hj (by omega)).2

lemma arrives_of_import (hstrip : env.strip = strip) (h : MovedIn school db lines entries)
    (hstored : LineStored line) (hfirst : ¬ Blank line.2.firstName)
    (hnumber : ¬ Blank line.1.admissionNumber) {db' : SchoolDB}
    (himport : importRow env ctx .students school.id school.organizationId draw (rowOf line, i) db =
      .ok () db') : Arrives lines line := by
  refine ⟨⟨hfirst, hnumber⟩, ?_⟩
  obtain ⟨data, hdata, -, hemail, hphone, -⟩ :=
    personOf_line hstored hfirst ctx school.organizationId (draw i).1
  have hrecord := importRecord_row hstrip ctx school hstored hnumber
  generalize rowOf line = row at himport hdata hrecord
  obtain ⟨personId, db₁, hperson, himport⟩ := bind_through.mp himport
  rw [hrecord] at himport
  obtain ⟨_, -, hinsert⟩ := bind_ok.mp (write_ok.mp himport)
  obtain ⟨_, hchecks, -⟩ := bind_ok.mp hinsert
  have hapart := (ensure_ok.mp hchecks).1
  obtain ⟨data', db₂, hdata', hperson⟩ := bind_through.mp hperson
  obtain ⟨hsame, rfl⟩ := orRaise_ok.mp hdata'
  obtain rfl := Option.some.inj (hdata.symm.trans hsame)
  obtain ⟨existing, db₃, hexisting, hperson⟩ := bind_through.mp hperson
  rcases existingPerson_movedIn h hstored hemail hphone with
    ⟨⟨p, hp, hfound⟩, -⟩ | ⟨hnone, hshared⟩
  · -- The person is a student of the school, who is not entered twice.
    rw [hfound] at hexisting
    cases hexisting
    obtain ⟨rfl, rfl⟩ := pure_through.mp hperson
    obtain ⟨e, he, rfl⟩ := List.mem_map.mp hp
    obtain ⟨hstudent, hschool⟩ := h.mem_students.mpr (List.mem_map_of_mem he)
    exact absurd ⟨hschool, .inr (h.live e he).2.2⟩ (hapart e.1 hstudent)
  · rw [hnone] at hexisting
    cases hexisting
    obtain ⟨_, db₄, hwrite, hperson⟩ := bind_through.mp hperson
    obtain ⟨-, rfl⟩ := pure_through.mp hperson
    obtain ⟨persons, -, rfl⟩ := Persons.insertRow_ok (write_ok.mp hwrite)
    intro k hk hclash
    rcases hclash with hnumbers | hemails | hphones
    · obtain ⟨e, he, hmoved⟩ := exists_of_forall₂ h.moved k hk
      obtain ⟨hstudent, hschool⟩ := h.mem_students.mpr (List.mem_map_of_mem he)
      exact hapart e.1 hstudent ⟨hschool, .inl (hmoved.admissionNumber.trans hnumbers)⟩
    · exact (hshared k hk).1 hemails
    · exact (hshared k hk).2 hphones

/-- **The step**: a row goes through exactly if the student arrives. -/
lemma attempt_row (hstrip : env.strip = strip) (ctx : RequestContext)
    (hdistinct : Distinct draw n) (hi : i < n) (h : MovedIn school db lines entries)
    (hdraw : Undrawn draw n i db) (hstored : LineStored line) :
    (Arrives lines line ∧ ∃ db' entry, attemptRow env ctx .students school.id
        school.organizationId draw (rowOf line, i) db = .ok () db' ∧
      MovedIn school db' (lines ++ [line]) (entries ++ [entry]) ∧ Undrawn draw n (i + 1) db') ∨
    ¬ Arrives lines line ∧ ∃ cause dirty, attemptRow env ctx .students school.id
      school.organizationId draw (rowOf line, i) db = .error cause dirty := by
  by_cases harrives : Arrives lines line
  · refine .inl ⟨harrives, ?_⟩
    obtain ⟨db', entry, himport, hsettled, hnext⟩ :=
      import_arrives hstrip hdistinct hi h hdraw hstored harrives
    have hproblems := (problems_row (i := i) hstrip hstored).mpr harrives.1
    exact ⟨db', entry, attemptRow_ok.mpr ⟨hproblems, himport⟩, hsettled, hnext⟩
  · refine .inr ⟨harrives, ?_⟩
    cases hattempt : attemptRow env ctx .students school.id school.organizationId draw
        (rowOf line, i) db with
    | error cause dirty => exact ⟨cause, dirty, rfl⟩
    | ok u db' =>
      obtain ⟨hproblems, himport⟩ := attemptRow_ok.mp hattempt
      obtain ⟨hfirst, hnumber⟩ := (problems_row hstrip hstored).mp hproblems
      exact absurd (arrives_of_import hstrip h hstored hfirst hnumber himport) harrives

lemma undrawn_next (h : Undrawn draw n i db) : Undrawn draw n (i + 1) db :=
  ⟨fun j hj hlater => h.persons j hj (by omega), fun j hj hlater => h.students j hj (by omega)⟩

/-- **The file**: the school has the students who arrive, after those who did. -/
lemma attempts_rows (hstrip : env.strip = strip) (hdistinct : Distinct draw n)
    {rest : List (Student × Person)} (hi : i + rest.length ≤ n)
    (hstored : ∀ line ∈ rest, LineStored line) (h : MovedIn school db lines entries)
    (hdraw : Undrawn draw n i db) :
    ∃ entries', MovedIn school (attempts (attemptRow env ctx .students school.id
        school.organizationId draw) ((rest.map rowOf).zipIdx i) db).2 (rest.foldl arrive lines)
        entries' ∧
      (failed (attempts (attemptRow env ctx .students school.id school.organizationId draw)
        ((rest.map rowOf).zipIdx i) db).1).length + (rest.foldl arrive lines).length =
          rest.length + lines.length := by
  induction rest generalizing db lines entries i with
  | nil => exact ⟨entries, h, rfl⟩
  | cons line rest ih =>
    obtain ⟨hline, hrest⟩ := List.forall_mem_cons.mp hstored
    rw [List.length_cons] at hi
    rw [List.map_cons, List.zipIdx_cons, List.foldl_cons]
    rcases attempt_row hstrip ctx hdistinct (by omega) h hdraw hline with
      ⟨harrives, db', entry, hattempt, hsettled, hnext⟩ | ⟨hrefused, cause, dirty, hattempt⟩
    · obtain ⟨entries', hdone, hcount⟩ := ih (by omega) hrest hsettled hnext
      rw [attempts_through hattempt, arrive, if_pos harrives]
      refine ⟨entries', hdone, ?_⟩
      rw [failed_cons_none, hcount]
      simp only [List.length_append, List.length_cons, List.length_nil]
      omega
    · obtain ⟨entries', hdone, hcount⟩ := ih (by omega) hrest h (undrawn_next hdraw)
      rw [attempts_raises hattempt, arrive, if_neg hrefused]
      refine ⟨entries', hdone, ?_⟩
      rw [failed_cons_some, List.length_cons, List.length_cons]
      omega

end Imports

end MovedIn

end SchoolOs
