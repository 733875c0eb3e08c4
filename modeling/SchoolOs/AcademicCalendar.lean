import SchoolOs.Academics
import SchoolOs.Runs

/-!
The academic calendar: requests on years and on terms, and what those that go through do.
-/

namespace SchoolOs

open Runs

/-! ### Requests -/

inductive YearOp
  | create (data : AcademicYearCreate) (id : Ulid)
  | update (yearId : Ulid) (data : AcademicYearUpdate)
  | delete (yearId : Ulid) (version : ℕ)

/-- A request on academic years, with its context and time. -/
structure YearCall where
  ctx : RequestContext
  clk : Clock
  op : YearOp

def YearCall.handle (env : SchoolEnv) (db : SchoolDB) (c : YearCall) : Fallible SchoolDB :=
  match c.op with
  | .create data id => Prod.snd <$> AcademicYears.create env c.ctx db data id
  | .update yearId data => do
    let year ← AcademicYears.getOwned c.ctx db yearId
    Prod.snd <$> AcademicYears.update env c.ctx db year data
  | .delete yearId version => do
    let year ← AcademicYears.getOwned c.ctx db yearId
    AcademicYears.delete env c.clk c.ctx db year version

/-- A failed request leaves no trace. -/
def YearCall.step (env : SchoolEnv) (db : SchoolDB) (c : YearCall) : SchoolDB :=
  match c.handle env db with
  | .ok db' => db'
  | .error _ => db

inductive TermOp
  | create (data : AcademicTermCreate) (id : Ulid)
  | update (termId : Ulid) (data : AcademicTermUpdate)
  | delete (termId : Ulid) (version : ℕ)

/-- A request on academic terms, with its context and time. -/
structure TermCall where
  ctx : RequestContext
  clk : Clock
  op : TermOp

def TermCall.handle (env : SchoolEnv) (db : SchoolDB) (c : TermCall) : Fallible SchoolDB :=
  match c.op with
  | .create data id => Prod.snd <$> AcademicTerms.create env c.ctx db data id
  | .update termId data => do
    let term ← AcademicTerms.getOwned c.ctx db termId
    Prod.snd <$> AcademicTerms.update env c.ctx db term data
  | .delete termId version => do
    let term ← AcademicTerms.getOwned c.ctx db termId
    AcademicTerms.delete env c.clk c.ctx db term version

/-! ### Two years -/

def firstYear : AcademicYearCreate where
  code := "2024"
  name := "2024-25"
  startDate := 738977
  endDate := 739341
  isCurrent := true
  status := .active
  code_length := by decide
  name_length := by decide

def secondYear : AcademicYearCreate where
  code := "2025"
  name := "2025-26"
  startDate := 739342
  endDate := 739706
  isCurrent := false
  status := .draft
  code_length := by decide
  name_length := by decide

/-! ### What a request on years does -/

section Years

variable {env : SchoolEnv} {clk : Clock} {ctx : RequestContext} {db db' : SchoolDB}

/-- The rows of a school's years are apart: in their codes, and at most one is current. -/
def YearsApart (db : SchoolDB) : Prop := db.academicYears.Excludes AcademicYears.Collides

lemma yearCollides_symm (a b : AcademicYear) (h : AcademicYears.Collides a b) :
    AcademicYears.Collides b a :=
  ⟨h.1.symm, h.2.imp Eq.symm fun ⟨ha, ha', hb, hb'⟩ => ⟨hb, hb', ha, ha'⟩⟩

/-- No other year of the school is current. -/
def NoneCurrent (db : SchoolDB) (schoolId yearId : Ulid) : Prop :=
  ∀ y ∈ db.academicYears, y.schoolId = schoolId → y.isCurrent = true → y.deletedAt = none →
    y.id = yearId

instance (db : SchoolDB) (schoolId yearId : Ulid) : Decidable (NoneCurrent db schoolId yearId) :=
  inferInstanceAs (Decidable (∀ y ∈ db.academicYears, y.schoolId = schoolId → _))

lemma YearsApart.noneCurrent (hex : YearsApart db) {year : AcademicYear}
    (hyear : year ∈ db.academicYears) (hcurrent : year.isCurrent = true)
    (hlive : year.deletedAt = none) : NoneCurrent db year.schoolId year.id := by
  intro y hy hschool hcur hdel
  by_contra hne
  exact hex y hy year hyear hne ⟨hschool, .inr ⟨hcur, hdel, hcurrent, hlive⟩⟩

lemma unsetCurrent_of_noneCurrent {schoolId yearId : Ulid} (h : NoneCurrent db schoolId yearId) :
    unsetCurrent db schoolId yearId = db := by
  have hrows : ∀ y ∈ db.academicYears.rows, decide (y.schoolId = schoolId ∧ y.id ≠ yearId ∧
      y.isCurrent = true ∧ y.deletedAt = none) = false := by
    intro y hy
    rw [decide_eq_false_iff_not]
    rintro ⟨hschool, hne, hcur, hdel⟩
    exact hne (h y hy hschool hcur hdel)
  have htable : db.academicYears.setWhere
      (fun y => y.schoolId = schoolId ∧ y.id ≠ yearId ∧ y.isCurrent = true ∧ y.deletedAt = none)
      (fun y => { y with isCurrent := false }) (fun _ => rfl) = db.academicYears :=
    Table.ext (Tables.setWhere_of_not hrows)
  unfold unsetCurrent
  rw [htable]

/-- The years after a request that goes through. -/
inductive YearEffect (ctx : RequestContext) (db : SchoolDB) :
    YearOp → Table AcademicYear.id → Prop
  | create {schoolId organizationId : Ulid} {data : AcademicYearCreate} {id : Ulid}
      {years : Table AcademicYear.id} (name : bindable data.name = true)
      (insert : db.academicYears.insert
        (AcademicYears.created ctx schoolId organizationId data id) = some years) :
      YearEffect ctx db (.create data id) years
  | update {yearId : Ulid} {data : AcademicYearUpdate} {year : AcademicYear}
      (owned : AcademicYears.getOwned ctx db yearId = .ok year)
      (version : year.version = data.version)
      (name : AcademicYears.applied ctx year data = year ∨
        bindable (AcademicYears.applied ctx year data).name = true) :
      YearEffect ctx db (.update yearId data) (db.academicYears.put
        (flushed AcademicYear.touch year (AcademicYears.applied ctx year data)))
  | delete {yearId : Ulid} {version : ℕ} {year : AcademicYear} {deletedAt : Instant}
      (owned : AcademicYears.getOwned ctx db yearId = .ok year) :
      YearEffect ctx db (.delete yearId version) (db.academicYears.put
        (flushed AcademicYear.touch year
          { year with deletedAt := some deletedAt, updatedById := ctx.userId }))

/-- The years are all that a request on years changes, beside the audit log. -/
def YearFrame (db db' : SchoolDB) : Prop :=
  ∃ core, db' = { db with core := core, academicYears := db'.academicYears }

lemma yearOwned_ok {yearId : Ulid} {year : AcademicYear}
    (h : AcademicYears.getOwned ctx db yearId = .ok year) :
    ctx.schoolId = some year.schoolId ∧ year ∈ db.academicYears ∧ year.id = yearId ∧
      year.deletedAt = none := by
  obtain ⟨schoolId, hctx, h⟩ := bind_ok.mp h
  obtain ⟨hget, hrow⟩ := Option.filter_eq_some_iff.mp (found_ok.mp h)
  obtain ⟨rfl, hlive⟩ : year.schoolId = schoolId ∧ year.deletedAt = none := by simpa using hrow
  obtain ⟨hmem, hid⟩ := Table.get_eq_some.mp hget
  exact ⟨found_ok.mp hctx, hmem, hid, hlive⟩

lemma yearSave_iff {old new : AcademicYear} (hold : old ∈ db.academicYears) :
    AcademicYears.save db old new = .ok db' ↔
      (new = old ∨ (∀ y ∈ db.academicYears, y.id ≠ new.id → ¬ AcademicYears.Collides y new) ∧
        bindable new.name = true) ∧
      { db with
        academicYears := db.academicYears.put (flushed AcademicYear.touch old new) } = db' := by
  unfold AcademicYears.save flushed
  by_cases hsame : new = old
  · subst hsame
    simp only [if_pos, Table.put_self hold, pure_ok, true_or, true_and]
  · simp only [hsame, if_false, bind_ok, ensure_ok, pure_ok, false_or, exists_const]

lemma yearSave_apart {old new : AcademicYear} (hex : YearsApart db)
    (hold : old ∈ db.academicYears) (h : AcademicYears.save db old new = .ok db') :
    YearsApart db' := by
  obtain ⟨hnew, rfl⟩ := (yearSave_iff hold).mp h
  refine Table.Excludes.put yearCollides_symm hex fun a ha hne hcollides => ?_
  have hkey : (flushed AcademicYear.touch old new).id = new.id :=
    flushed_col AcademicYear.touch AcademicYear.id (fun _ => rfl) old new
  rw [hkey] at hne
  have hcols := flushed_col AcademicYear.touch
    (fun y => (y.schoolId, y.code, y.isCurrent, y.deletedAt)) (fun _ => rfl) old new
  obtain ⟨hschool, hcode, hcur, hdel⟩ : _ ∧ _ ∧ _ ∧ _ := by simpa using hcols
  have hclash : AcademicYears.Collides a new := by
    unfold AcademicYears.Collides at hcollides ⊢
    rwa [hschool, hcode, hcur, hdel] at hcollides
  rcases hnew with rfl | ⟨hfree, _⟩
  · exact hex a ha new hold hne hclash
  · exact hfree a ha hne hclash

lemma yearInsert_iff {year : AcademicYear} :
    AcademicYears.insertRow db year = .ok db' ↔
      ∃ years, db.academicYears.insert year = some years ∧
        ((∀ y ∈ db.academicYears, ¬ AcademicYears.Collides y year) ∧ db.HasSchool year.schoolId ∧
          bindable year.code = true ∧ bindable year.name = true) ∧
        { db with academicYears := years } = db' := by
  simp only [AcademicYears.insertRow, bind_ok, found_ok, ensure_ok, pure_ok, exists_const]

lemma yearInsert_apart {year : AcademicYear} (hex : YearsApart db)
    (h : AcademicYears.insertRow db year = .ok db') : YearsApart db' := by
  obtain ⟨years, hinsert, ⟨hfree, _⟩, rfl⟩ := yearInsert_iff.mp h
  exact (Table.excludes_insert yearCollides_symm hinsert).mpr ⟨hex, hfree⟩

/-- Clearing the others, after a year was written that is current and not deleted, changes
nothing. -/
lemma unsetCurrent_written {year : AcademicYear} {schoolId yearId : Ulid} {asked : Prop}
    [Decidable asked] (hex : YearsApart db) (hyear : year ∈ db.academicYears)
    (hschool : year.schoolId = schoolId) (hid : year.id = yearId) (hlive : year.deletedAt = none)
    (hasked : asked → year.isCurrent = true) :
    (if asked then unsetCurrent db schoolId yearId else db) = db := by
  split
  · next ha =>
    subst hschool hid
    exact unsetCurrent_of_noneCurrent (hex.noneCurrent hyear (hasked ha) hlive)
  · rfl

/-- **A new year.** -/
lemma yearCreate_iff (hex : YearsApart db) {data : AcademicYearCreate} {id : Ulid}
    {year : AcademicYear} : AcademicYears.create env ctx db data id = .ok (year, db') ↔
      ∃ schoolId organizationId, ctx.schoolId = some schoolId ∧
        getYearByCode env db schoolId data.code = none ∧
        ctx.organizationId = some organizationId ∧
        year = AcademicYears.created ctx schoolId organizationId data id ∧
        env.Admits (auditRow ctx (AcademicYears.createdEntry env year)) ∧
        ∃ db1, AcademicYears.insertRow db year = .ok db1 ∧
          db' = db1.log (auditRow ctx (AcademicYears.createdEntry env year)) := by
  have hunset : ∀ schoolId organizationId db1, AcademicYears.insertRow db
      -- The years are apart once the row is written, so there is nothing left to clear.
      (AcademicYears.created ctx schoolId organizationId data id) = .ok db1 →
      (if data.isCurrent then unsetCurrent db1 schoolId id else db1) = db1 := by
    intro schoolId organizationId db1 hinsert
    have hapart := yearInsert_apart hex hinsert
    obtain ⟨years, hrow, _, rfl⟩ := yearInsert_iff.mp hinsert
    exact unsetCurrent_written hapart ((Table.mem_of_insert hrow).mpr (.inr rfl)) rfl rfl rfl
      fun h => h
  simp only [AcademicYears.create, bind_ok, found_ok, ensureAbsent_ok, pure_ok, schoolAudit_ok,
    Prod.mk.injEq]
  constructor
  · rintro ⟨schoolId, hschool, _, hcode, organizationId, horganization, db1, hinsert, db2,
      ⟨hadmits, hlog⟩, rfl, rfl⟩
    have hnone := hunset schoolId organizationId db1 hinsert
    refine ⟨schoolId, organizationId, hschool, hcode, horganization, rfl, hadmits, db1, hinsert, ?_⟩
    rw [← hlog]
    exact congrArg (SchoolDB.log · _) hnone
  · rintro ⟨schoolId, organizationId, hschool, hcode, horganization, rfl, hadmits, db1, hinsert,
      rfl⟩
    have hnone := hunset schoolId organizationId db1 hinsert
    refine ⟨schoolId, hschool, (), hcode, organizationId, horganization, db1, hinsert, _,
      ⟨hadmits, rfl⟩, rfl, ?_⟩
    exact congrArg (SchoolDB.log · _) hnone

/-- **A changed year.** -/
lemma yearUpdate_iff (hex : YearsApart db) {yearId : Ulid} {data : AcademicYearUpdate}
    {year row : AcademicYear} (howned : AcademicYears.getOwned ctx db yearId = .ok year) :
    AcademicYears.update env ctx db year data = .ok (row, db') ↔
      year.version = data.version ∧
        row = flushed AcademicYear.touch year (AcademicYears.applied ctx year data) ∧
        env.Admits (auditRow ctx
          (AcademicYears.updatedEntry env year (AcademicYears.applied ctx year data))) ∧
        ∃ db1, AcademicYears.save db year (AcademicYears.applied ctx year data) = .ok db1 ∧
          db' = db1.log (auditRow ctx
            (AcademicYears.updatedEntry env year (AcademicYears.applied ctx year data))) := by
  obtain ⟨hschool, hmem, _, hlive⟩ := yearOwned_ok howned
  -- A current year that is written is the only one of its school, so nothing is cleared.
  have hunset : ∀ db1, AcademicYears.save db year (AcademicYears.applied ctx year data) = .ok db1 →
      (if data.isCurrent = some true then unsetCurrent db1 year.schoolId year.id else db1) =
        db1 := by
    intro db1 hsave
    have hapart := yearSave_apart hex hmem hsave
    obtain ⟨_, rfl⟩ := (yearSave_iff hmem).mp hsave
    have hcols := flushed_col AcademicYear.touch
      (fun y => (y.id, y.schoolId, y.isCurrent, y.deletedAt)) (fun _ => rfl) year
      (AcademicYears.applied ctx year data)
    obtain ⟨hid, hrow, hcur, hdel⟩ : _ ∧ _ ∧ _ ∧ _ := by simpa using hcols
    have hput : flushed AcademicYear.touch year (AcademicYears.applied ctx year data) ∈
        db.academicYears.put
          (flushed AcademicYear.touch year (AcademicYears.applied ctx year data)) :=
      Table.mem_put.mpr (.inr ⟨rfl, year, hmem, hid.symm⟩)
    refine unsetCurrent_written hapart hput hrow hid (hdel.trans hlive) fun hasked => ?_
    rw [hcur, AcademicYears.applied, hasked, Option.getD_some]
  simp only [AcademicYears.update, bind_ok, found_ok, ensure_ok, pure_ok, schoolAudit_ok, hschool,
    Option.some.injEq, Prod.mk.injEq]
  constructor
  · rintro ⟨_, hversion, db1, hsave, _, rfl, db2, ⟨hadmits, hlog⟩, rfl, rfl⟩
    refine ⟨hversion, rfl, hadmits, db1, hsave, ?_⟩
    rw [← hlog, hunset db1 hsave]
  · rintro ⟨hversion, rfl, hadmits, db1, hsave, rfl⟩
    refine ⟨(), hversion, db1, hsave, _, rfl, _, ⟨hadmits, rfl⟩, rfl, ?_⟩
    rw [hunset db1 hsave]

lemma yearDelete_ok {version : ℕ} {year : AcademicYear}
    (h : AcademicYears.delete env clk ctx db year version = .ok db') :
    ∃ db1, AcademicYears.save db year
        { year with deletedAt := some clk.now, updatedById := ctx.userId } = .ok db1 ∧
      ∃ row, db' = db1.log row := by
  obtain ⟨_, _, h⟩ := bind_ok.mp h
  obtain ⟨db1, hsave, h⟩ := bind_ok.mp h
  obtain ⟨_, rfl⟩ := schoolAudit_ok.mp h
  exact ⟨db1, hsave, _, rfl⟩

/-- **What a request on years that goes through does**: one of the three effects, and the years
stay apart. -/
theorem yearHandle_ok (hex : YearsApart db) {c : YearCall} (h : c.handle env db = .ok db') :
    YearEffect c.ctx db c.op db'.academicYears ∧ YearsApart db' ∧ YearFrame db db' := by
  obtain ⟨ctx, clk, op⟩ := c
  cases op with
  | create data id =>
    obtain ⟨⟨year, _⟩, hcreate, rfl⟩ := map_ok.mp h
    obtain ⟨schoolId, organizationId, _, _, _, rfl, _, db1, hinsert, rfl⟩ :=
      (yearCreate_iff hex).mp hcreate
    have hapart := yearInsert_apart hex hinsert
    obtain ⟨years, hrow, ⟨_, _, _, hname⟩, rfl⟩ := yearInsert_iff.mp hinsert
    exact ⟨.create hname hrow, hapart, _, rfl⟩
  | update yearId data =>
    obtain ⟨year, howned, h⟩ := bind_ok.mp h
    obtain ⟨⟨row, _⟩, hupdate, rfl⟩ := map_ok.mp h
    obtain ⟨hversion, rfl, _, db1, hsave, rfl⟩ := (yearUpdate_iff hex howned).mp hupdate
    have hmem := (yearOwned_ok howned).2.1
    have hapart := yearSave_apart hex hmem hsave
    obtain ⟨hnew, rfl⟩ := (yearSave_iff hmem).mp hsave
    exact ⟨.update howned hversion (hnew.imp_right And.right), hapart, _, rfl⟩
  | delete yearId version =>
    obtain ⟨year, howned, h⟩ := bind_ok.mp h
    have hmem := (yearOwned_ok howned).2.1
    obtain ⟨db1, hsave, row, rfl⟩ := yearDelete_ok h
    have hapart := yearSave_apart hex hmem hsave
    obtain ⟨_, rfl⟩ := (yearSave_iff hmem).mp hsave
    exact ⟨.delete howned, hapart, _, rfl⟩

end Years

/-! ### What a request on terms does -/

section Terms

variable {env : SchoolEnv} {clk : Clock} {ctx : RequestContext} {db db' : SchoolDB}

/-- The term lies within the year. -/
def AcademicYear.Encloses (year : AcademicYear) (start stop : Date) : Prop :=
  year.startDate ≤ start ∧ start ≤ stop ∧ stop ≤ year.endDate

/-- The terms after a request that goes through. -/
inductive TermEffect (ctx : RequestContext) (db : SchoolDB) :
    TermOp → Table AcademicTerm.id → Prop
  | create {schoolId organizationId : Ulid} {data : AcademicTermCreate} {id : Ulid}
      {year : AcademicYear} {terms : Table AcademicTerm.id}
      (year_found : getYear db schoolId data.academicYearId = some year)
      (within : year.Encloses data.startDate data.endDate)
      (insert : db.academicTerms.insert
        (AcademicTerms.created ctx schoolId organizationId data id) = some terms) :
      TermEffect ctx db (.create data id) terms
  | update {termId schoolId : Ulid} {data : AcademicTermUpdate} {term : AcademicTerm}
      {year : AcademicYear} (owned : AcademicTerms.getOwned ctx db termId = .ok term)
      (year_found : getYear db schoolId term.academicYearId = some year)
      (within : year.Encloses (AcademicTerms.applied ctx term data).startDate
        (AcademicTerms.applied ctx term data).endDate) :
      TermEffect ctx db (.update termId data) (db.academicTerms.put
        (flushed AcademicTerm.touch term (AcademicTerms.applied ctx term data)))
  | delete {termId : Ulid} {version : ℕ} {term : AcademicTerm} {deletedAt : Instant}
      (owned : AcademicTerms.getOwned ctx db termId = .ok term) :
      TermEffect ctx db (.delete termId version) (db.academicTerms.put
        (flushed AcademicTerm.touch term
          { term with deletedAt := some deletedAt, updatedById := ctx.userId }))

/-- The terms are all that a request on terms changes, beside the audit log. -/
def TermFrame (db db' : SchoolDB) : Prop :=
  ∃ core, db' = { db with core := core, academicTerms := db'.academicTerms }

lemma termOwned_ok {termId : Ulid} {term : AcademicTerm}
    (h : AcademicTerms.getOwned ctx db termId = .ok term) :
    term ∈ db.academicTerms ∧ term.id = termId := by
  obtain ⟨schoolId, _, h⟩ := bind_ok.mp h
  exact Table.get_eq_some.mp (Option.filter_eq_some_iff.mp (found_ok.mp h)).1

lemma validateTermDates_ok {year : AcademicYear} {start stop : Date}
    (h : AcademicTerms.validateTermDates start stop year.startDate year.endDate = .ok ()) :
    year.Encloses start stop := by
  obtain ⟨_, hyear, h⟩ := bind_ok.mp h
  obtain ⟨hstart, hstop⟩ := not_or.mp (ensure_ok.mp hyear)
  exact ⟨not_lt.mp hstart, not_lt.mp (ensure_ok.mp h), not_lt.mp hstop⟩

lemma termSave_ok {old new : AcademicTerm} (hold : old ∈ db.academicTerms)
    (h : AcademicTerms.save db old new = .ok db') :
    db' = { db with
      academicTerms := db.academicTerms.put (flushed AcademicTerm.touch old new) } := by
  unfold AcademicTerms.save at h
  split at h
  · next hsame =>
    obtain rfl := pure_ok.mp h
    rw [flushed, if_pos hsame, Table.put_self hold]
  · next hne =>
    obtain ⟨_, _, h⟩ := bind_ok.mp h
    rw [flushed, if_neg hne]
    exact (pure_ok.mp h).symm

lemma termCreate_ok {data : AcademicTermCreate} {id : Ulid} {term : AcademicTerm}
    (h : AcademicTerms.create env ctx db data id = .ok (term, db')) :
    TermEffect ctx db (.create data id) db'.academicTerms ∧ TermFrame db db' := by
  obtain ⟨schoolId, _, h⟩ := bind_ok.mp h
  obtain ⟨year, hyear, h⟩ := bind_ok.mp h
  obtain ⟨_, hdates, h⟩ := bind_ok.mp h
  obtain ⟨_, _, h⟩ := bind_ok.mp h
  obtain ⟨organizationId, _, h⟩ := bind_ok.mp h
  obtain ⟨db1, hinsert, h⟩ := bind_ok.mp h
  obtain ⟨db2, haudit, h⟩ := bind_ok.mp h
  obtain ⟨_, rfl⟩ := Prod.mk.inj (pure_ok.mp h)
  obtain ⟨_, rfl⟩ := schoolAudit_ok.mp haudit
  obtain ⟨terms, hrow, hinsert⟩ := bind_ok.mp hinsert
  obtain ⟨_, _, hinsert⟩ := bind_ok.mp hinsert
  obtain rfl := pure_ok.mp hinsert
  exact ⟨.create (found_ok.mp hyear) (validateTermDates_ok hdates) (found_ok.mp hrow), _, rfl⟩

lemma termUpdate_ok {termId : Ulid} {data : AcademicTermUpdate} {term row : AcademicTerm}
    (howned : AcademicTerms.getOwned ctx db termId = .ok term)
    (h : AcademicTerms.update env ctx db term data = .ok (row, db')) :
    TermEffect ctx db (.update termId data) db'.academicTerms ∧ TermFrame db db' := by
  obtain ⟨_, _, h⟩ := bind_ok.mp h
  obtain ⟨schoolId, _, h⟩ := bind_ok.mp h
  obtain ⟨year, hyear, h⟩ := bind_ok.mp h
  obtain ⟨_, hdates, h⟩ := bind_ok.mp h
  obtain ⟨db1, hsave, h⟩ := bind_ok.mp h
  obtain ⟨db2, haudit, h⟩ := bind_ok.mp h
  obtain ⟨_, rfl⟩ := Prod.mk.inj (pure_ok.mp h)
  obtain ⟨_, rfl⟩ := schoolAudit_ok.mp haudit
  obtain rfl := termSave_ok (termOwned_ok howned).1 hsave
  exact ⟨.update howned (found_ok.mp hyear) (validateTermDates_ok hdates), _, rfl⟩

lemma termDelete_ok {termId : Ulid} {version : ℕ} {term : AcademicTerm}
    (howned : AcademicTerms.getOwned ctx db termId = .ok term)
    (h : AcademicTerms.delete env clk ctx db term version = .ok db') :
    TermEffect ctx db (.delete termId version) db'.academicTerms ∧ TermFrame db db' := by
  obtain ⟨_, _, h⟩ := bind_ok.mp h
  obtain ⟨db1, hsave, h⟩ := bind_ok.mp h
  obtain ⟨_, rfl⟩ := schoolAudit_ok.mp h
  obtain rfl := termSave_ok (termOwned_ok howned).1 hsave
  exact ⟨.delete howned, _, rfl⟩

/-- **What a request on terms that goes through does**: one of the three effects. -/
theorem termHandle_ok {c : TermCall} (h : c.handle env db = .ok db') :
    TermEffect c.ctx db c.op db'.academicTerms ∧ TermFrame db db' := by
  obtain ⟨ctx, clk, op⟩ := c
  cases op with
  | create data id =>
    obtain ⟨⟨term, _⟩, hcreate, rfl⟩ := map_ok.mp h
    exact termCreate_ok hcreate
  | update termId data =>
    obtain ⟨term, howned, h⟩ := bind_ok.mp h
    obtain ⟨⟨row, _⟩, hupdate, rfl⟩ := map_ok.mp h
    exact termUpdate_ok howned hupdate
  | delete termId version =>
    obtain ⟨term, howned, h⟩ := bind_ok.mp h
    exact termDelete_ok howned h

end Terms

end SchoolOs
