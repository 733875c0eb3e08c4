import SchoolOs.AcademicCalendar

/-!
Terms within their years, over runs of requests on both: the services of terms look at the year,
those of years do not look at the terms.
-/

namespace SchoolOs

open Runs

/-! ### The calendar -/

inductive CalendarCall
  | year (c : YearCall)
  | term (c : TermCall)

def CalendarCall.handle (env : SchoolEnv) (db : SchoolDB) : CalendarCall → Fallible SchoolDB
  | .year c => c.handle env db
  | .term c => c.handle env db

/-- A failed request leaves no trace. -/
def CalendarCall.step (env : SchoolEnv) (db : SchoolDB) (c : CalendarCall) : SchoolDB :=
  match c.handle env db with
  | .ok db' => db'
  | .error _ => db

def SchoolDB.withoutCalendar (db : SchoolDB) : SchoolDB :=
  { db with academicYears := .empty _, academicTerms := .empty _ }

/-- **Terms stay inside their year**: every term that is not deleted, of a year that is not. -/
def TermsWithin (db : SchoolDB) : Prop :=
  ∀ t ∈ db.academicTerms, t.deletedAt = none → ∀ y ∈ db.academicYears, y.deletedAt = none →
    y.id = t.academicYearId → y.Encloses t.startDate t.endDate

instance (year : AcademicYear) (start stop : Date) : Decidable (year.Encloses start stop) :=
  inferInstanceAs (Decidable (year.startDate ≤ start ∧ start ≤ stop ∧ stop ≤ year.endDate))

instance (db : SchoolDB) : Decidable (TermsWithin db) :=
  inferInstanceAs (Decidable (∀ t ∈ db.academicTerms, t.deletedAt = none →
    ∀ y ∈ db.academicYears, y.deletedAt = none → y.id = t.academicYearId → _))

/-- What every request keeps: the years are apart, and every term has its year. -/
structure CalendarStored (db : SchoolDB) : Prop where
  apart : YearsApart db
  known : ∀ t ∈ db.academicTerms, ∃ y ∈ db.academicYears, y.id = t.academicYearId

/-! ### One request -/

section Requests

variable {env : SchoolEnv} {ctx : RequestContext} {db db' : SchoolDB}

lemma getYear_some {schoolId yearId : Ulid} {year : AcademicYear}
    (h : getYear db schoolId yearId = some year) :
    year ∈ db.academicYears ∧ year.id = yearId ∧ year.deletedAt = none := by
  obtain ⟨hget, hrow⟩ := Option.filter_eq_some_iff.mp h
  obtain ⟨_, hlive⟩ : year.schoolId = schoolId ∧ year.deletedAt = none := by simpa using hrow
  obtain ⟨hmem, hid⟩ := Table.get_eq_some.mp hget
  exact ⟨hmem, hid, hlive⟩

lemma getYear_only {schoolId yearId : Ulid} {year y : AcademicYear}
    (h : getYear db schoolId yearId = some year) (hy : y ∈ db.academicYears) (hid : y.id = yearId) :
    y = year := by
  obtain ⟨hmem, hyear, _⟩ := getYear_some h
  exact Table.eq_of_key hy hmem (hid.trans hyear.symm)

lemma known_of_years (hknown : ∀ t ∈ db.academicTerms, ∃ y ∈ db.academicYears,
      y.id = t.academicYearId) (hterms : db'.academicTerms = db.academicTerms)
    (hyears : ∀ y ∈ db.academicYears, ∃ y' ∈ db'.academicYears, y'.id = y.id) :
    ∀ t ∈ db'.academicTerms, ∃ y ∈ db'.academicYears, y.id = t.academicYearId := by
  intro t ht
  rw [hterms] at ht
  obtain ⟨y, hy, hid⟩ := hknown t ht
  obtain ⟨y', hy', hid'⟩ := hyears y hy
  exact ⟨y', hy', hid'.trans hid⟩

lemma mem_put_year {old new : AcademicYear} (hold : old ∈ db.academicYears)
    (hid : new.id = old.id) : ∀ y ∈ db.academicYears,
      ∃ y' ∈ db.academicYears.put new, y'.id = y.id := by
  intro y hy
  by_cases hk : y.id = new.id
  · exact ⟨new, Table.mem_put.mpr (.inr ⟨rfl, old, hold, hid.symm⟩), hk.symm⟩
  · exact ⟨y, Table.mem_put.mpr (.inl ⟨hy, hk⟩), rfl⟩

lemma yearStep_stored {c : YearCall} (h : c.handle env db = .ok db') (hs : CalendarStored db) :
    CalendarStored db' := by
  obtain ⟨heffect, hapart, core, hframe⟩ := yearHandle_ok hs.apart h
  have hterms : db'.academicTerms = db.academicTerms := by rw [hframe]
  refine ⟨hapart, known_of_years hs.known hterms ?_⟩
  generalize c.op = op at heffect
  generalize db'.academicYears = years at heffect
  cases heffect with
  | create name insert => exact fun y hy => ⟨y, (Table.mem_of_insert insert).mpr (.inl hy), rfl⟩
  | update owned version name =>
    exact mem_put_year (yearOwned_ok owned).2.1
      (flushed_col AcademicYear.touch AcademicYear.id (fun _ => rfl) _ _)
  | delete owned =>
    exact mem_put_year (yearOwned_ok owned).2.1
      (flushed_col AcademicYear.touch AcademicYear.id (fun _ => rfl) _ _)

lemma known_put {old new : AcademicTerm} (hs : CalendarStored db) (hold : old ∈ db.academicTerms)
    (hterms : db'.academicTerms = db.academicTerms.put (flushed AcademicTerm.touch old new))
    (hyear : new.academicYearId = old.academicYearId)
    (hyears : db'.academicYears = db.academicYears) :
    ∀ t ∈ db'.academicTerms, ∃ y ∈ db'.academicYears, y.id = t.academicYearId := by
  intro t ht
  rw [hterms] at ht
  rw [hyears]
  rcases Table.mem_put.mp ht with ⟨ht, _⟩ | ⟨rfl, _⟩
  · exact hs.known t ht
  · rw [flushed_col AcademicTerm.touch AcademicTerm.academicYearId (fun _ => rfl), hyear]
    exact hs.known old hold

lemma termStep_stored {c : TermCall} (h : c.handle env db = .ok db') (hs : CalendarStored db) :
    CalendarStored db' := by
  obtain ⟨heffect, core, hframe⟩ := termHandle_ok h
  have hyears : db'.academicYears = db.academicYears := by rw [hframe]
  have hapart : YearsApart db' := by
    unfold YearsApart
    rw [hyears]
    exact hs.apart
  refine ⟨hapart, ?_⟩
  generalize hop : c.op = op at heffect
  generalize hterms : db'.academicTerms = terms at heffect
  cases heffect with
  | create year_found within insert =>
    intro t ht
    rw [hyears]
    rcases (Table.mem_of_insert insert).mp ht with ht | rfl
    · exact hs.known t ht
    · exact ⟨_, (getYear_some year_found).1, (getYear_some year_found).2.1⟩
  | update owned year_found within =>
    rw [← hterms]
    exact known_put hs (termOwned_ok owned).1 hterms rfl hyears
  | delete owned =>
    rw [← hterms]
    exact known_put hs (termOwned_ok owned).1 hterms rfl hyears

lemma calendarStored_step (env : SchoolEnv) (db : SchoolDB) (c : CalendarCall)
    (hs : CalendarStored db) : CalendarStored (c.step env db) := by
  unfold CalendarCall.step
  split
  · next db' hok =>
    cases c with
    | year c => exact yearStep_stored hok hs
    | term c => exact termStep_stored hok hs
  · exact hs

lemma within_put {old new : AcademicTerm} (hwithin : TermsWithin db)
    (hnew : new.deletedAt = none → ∀ y ∈ db.academicYears, y.deletedAt = none →
      y.id = new.academicYearId → y.Encloses new.startDate new.endDate)
    (hterms : db'.academicTerms = db.academicTerms.put (flushed AcademicTerm.touch old new))
    (hyears : db'.academicYears = db.academicYears) : TermsWithin db' := by
  intro t ht hlive y hy hylive hid
  rw [hterms] at ht
  rw [hyears] at hy
  rcases Table.mem_put.mp ht with ⟨ht, _⟩ | ⟨rfl, _⟩
  · exact hwithin t ht hlive y hy hylive hid
  · have hcols := flushed_col AcademicTerm.touch
      (fun t => (t.deletedAt, t.academicYearId, t.startDate, t.endDate)) (fun _ => rfl) old new
    obtain ⟨hdel, hyear, hstart, hstop⟩ : _ ∧ _ ∧ _ ∧ _ := by simpa using hcols
    rw [hstart, hstop]
    exact hnew (hdel ▸ hlive) y hy hylive (hid.trans hyear)

/-- **The services of terms keep them within their years.** -/
lemma termStep_within {c : TermCall} (h : c.handle env db = .ok db') (hwithin : TermsWithin db) :
    TermsWithin db' := by
  obtain ⟨heffect, core, hframe⟩ := termHandle_ok h
  have hyears : db'.academicYears = db.academicYears := by rw [hframe]
  generalize c.op = op at heffect
  generalize hterms : db'.academicTerms = terms at heffect
  cases heffect with
  | create year_found within insert =>
    intro t ht hlive y hy hylive hid
    rw [hterms] at ht
    rw [hyears] at hy
    rcases (Table.mem_of_insert insert).mp ht with ht | rfl
    · exact hwithin t ht hlive y hy hylive hid
    · rw [getYear_only year_found hy hid]
      exact within
  | update owned year_found within =>
    refine within_put hwithin (fun _ y hy _ hid => ?_) hterms hyears
    rw [getYear_only year_found hy hid]
    exact within
  | delete owned =>
    exact within_put hwithin (fun hlive => absurd hlive (Option.some_ne_none _)) hterms hyears

end Requests

/-! ### Runs -/

/-- The request is refused. -/
def CalendarRefused (env : SchoolEnv) (db : SchoolDB) (c : CalendarCall) : Prop :=
  ∀ db', c.handle env db ≠ .ok db'

/-- The bounds that a request gives a year leave no term of the year out that is not deleted. -/
def LeavesNoTermOut (db : SchoolDB) (c : CalendarCall) : Prop :=
  match c with
  | .year ⟨_, _, .update yearId data⟩ => ∀ t ∈ db.academicTerms, t.deletedAt = none →
      t.academicYearId = yearId →
        (∀ d ∈ data.startDate, d ≤ t.startDate) ∧ ∀ d ∈ data.endDate, t.endDate ≤ d
  | _ => True

section Step

variable {env : SchoolEnv} {db db' : SchoolDB}

/-- A year written over another keeps its terms within when it encloses them. -/
lemma within_year {ctx : RequestContext} {yearId : Ulid} {data : AcademicYearUpdate}
    {year : AcademicYear} (howned : AcademicYears.getOwned ctx db yearId = .ok year)
    (hwithin : TermsWithin db) (hterms : db'.academicTerms = db.academicTerms)
    (hyears : db'.academicYears = db.academicYears.put
      (flushed AcademicYear.touch year (AcademicYears.applied ctx year data))) :
    TermsWithin db' ↔ ∀ t ∈ db.academicTerms, t.deletedAt = none → t.academicYearId = yearId →
      (∀ d ∈ data.startDate, d ≤ t.startDate) ∧ ∀ d ∈ data.endDate, t.endDate ≤ d := by
  obtain ⟨_, hmem, rfl, hlive⟩ := yearOwned_ok howned
  have hcols := flushed_col AcademicYear.touch
    (fun y => (y.id, y.deletedAt, y.startDate, y.endDate)) (fun _ => rfl) year
    (AcademicYears.applied ctx year data)
  obtain ⟨hid, hdel, hstart, hstop⟩ : _ ∧ _ ∧ _ ∧ _ := by simpa using hcols
  have hput : flushed AcademicYear.touch year (AcademicYears.applied ctx year data) ∈
      db'.academicYears := by
    rw [hyears]
    exact Table.mem_put.mpr (.inr ⟨rfl, year, hmem, hid.symm⟩)
  -- Of the bounds, those that are not given are the old ones.
  have hbounds : ∀ t : AcademicTerm, year.Encloses t.startDate t.endDate →
      ((flushed AcademicYear.touch year (AcademicYears.applied ctx year data)).Encloses
          t.startDate t.endDate ↔
        (∀ d ∈ data.startDate, d ≤ t.startDate) ∧ ∀ d ∈ data.endDate, t.endDate ≤ d) := by
    intro t hold
    unfold AcademicYear.Encloses at hold ⊢
    rw [hstart, hstop, AcademicYears.applied]
    cases data.startDate <;> cases data.endDate <;> simp [hold]
  constructor
  · intro hafter t ht htlive htyear
    have hold := hwithin t ht htlive year hmem hlive htyear.symm
    rw [← hbounds t hold]
    exact hafter t (hterms ▸ ht) htlive _ hput (hdel.trans hlive) (hid.trans htyear.symm)
  · intro hleaves t ht htlive y hy hylive hyid
    rw [hterms] at ht
    rw [hyears] at hy
    rcases Table.mem_put.mp hy with ⟨hy, _⟩ | ⟨rfl, _⟩
    · exact hwithin t ht htlive y hy hylive hyid
    · have htyear : t.academicYearId = year.id := hyid.symm.trans hid
      exact (hbounds t (hwithin t ht htlive year hmem hlive htyear.symm)).mpr
        (hleaves t ht htlive htyear)

/-- **One request**: terms are within their years afterwards exactly when it is refused or leaves
no term out. -/
lemma calendarStep_iff (env : SchoolEnv) (db : SchoolDB) (c : CalendarCall)
    (hs : CalendarStored db) (hwithin : TermsWithin db) :
    TermsWithin (c.step env db) ↔ CalendarRefused env db c ∨ LeavesNoTermOut db c := by
  unfold CalendarCall.step
  split
  · next db' hok =>
    rw [or_iff_right fun href => href db' hok]
    cases c with
    | term c => exact iff_of_true (termStep_within hok hwithin) trivial
    | year c =>
      obtain ⟨ctx, clk, op⟩ := c
      obtain ⟨heffect, _, core, hframe⟩ := yearHandle_ok hs.apart hok
      have hterms : db'.academicTerms = db.academicTerms := by rw [hframe]
      generalize hyears : db'.academicYears = years at heffect
      cases heffect with
      | create name insert =>
        refine iff_of_true (fun t ht htlive y hy hylive hyid => ?_) trivial
        rw [hterms] at ht
        rw [hyears] at hy
        rcases (Table.mem_of_insert insert).mp hy with hy | rfl
        · exact hwithin t ht htlive y hy hylive hyid
        · -- The id of the new year is not the year of a term.
          obtain ⟨y', hy', hid'⟩ := hs.known t ht
          exact absurd (hid'.trans hyid.symm) ((Table.insert_eq_some.mp insert).1 y' hy')
      | update owned version name => exact within_year owned hwithin hterms hyears
      | delete owned =>
        refine iff_of_true (fun t ht htlive y hy hylive hyid => ?_) trivial
        rw [hterms] at ht
        rw [hyears] at hy
        rcases Table.mem_put.mp hy with ⟨hy, _⟩ | ⟨rfl, _⟩
        · exact hwithin t ht htlive y hy hylive hyid
        · rw [flushed_col AcademicYear.touch AcademicYear.deletedAt (fun _ => rfl)] at hylive
          cases hylive
  · next e herr =>
    refine iff_of_true hwithin (.inl fun db' hok => ?_)
    rw [herr] at hok
    cases hok

end Step

/-- **Terms are within their years in every state of a run exactly when no update of a year that
goes through leaves a term out.** -/
theorem terms_within_iff (env : SchoolEnv) (db : SchoolDB) (l : List CalendarCall) :
    Along (CalendarCall.step env) (fun d c => TermsWithin (c.step env d)) db.withoutCalendar l ↔
      Along (CalendarCall.step env) (fun d c => CalendarRefused env d c ∨ LeavesNoTermOut d c)
        db.withoutCalendar l := by
  have hstored : CalendarStored db.withoutCalendar :=
    ⟨Table.excludes_empty, fun _ ht => absurd ht Table.not_mem_empty⟩
  have hwithin : TermsWithin db.withoutCalendar := fun _ ht => absurd ht Table.not_mem_empty
  exact along_iff_of (calendarStored_step env) (calendarStep_iff env) l hstored hwithin

def firstTerm : AcademicTermCreate where
  academicYearId := 21
  code := "T1"
  name := "Autumn"
  startDate := 738977
  endDate := 739100
  status := .active
  code_length := by decide
  name_length := by decide

/-- A year with a term, and then the year starts on another day. -/
def moveStart (startDate : Date) : List CalendarCall :=
  [.year ⟨staff, ⟨0, 0⟩, .create firstYear 21⟩,
    .term ⟨staff, ⟨0, 0⟩, .create firstTerm 24⟩,
    .year ⟨staff, ⟨0, 0⟩,
      .update 21 ⟨none, some startDate, none, none, none, 1, no_name, one_le_first⟩⟩]

example : TermsWithin (run (CalendarCall.step .plain) smallSchool.withoutCalendar
    (moveStart 738970)) := by decide

/-- The term starts before its year. -/
theorem moveStart_out : ¬ ∀ (env : SchoolEnv) (db : SchoolDB) (l : List CalendarCall),
    Along (CalendarCall.step env) (fun d c => TermsWithin (c.step env d)) db.withoutCalendar l := by
  intro h
  obtain ⟨_, _, hlast, _⟩ := h .plain smallSchool (moveStart 738980)
  exact absurd hlast (by decide)

end SchoolOs
