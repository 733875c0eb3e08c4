import SchoolOs.AcademicCalendar

/-!
Switching the current academic year: when a request that asks for a year to be current goes
through and leaves it the only current one.
-/

namespace SchoolOs

open Runs

/-! ### The switch -/

/-- A year, as if it were not current. -/
def AcademicYear.uncurrent (year : AcademicYear) : AcademicYear := { year with isCurrent := false }

/-- **Switched**: the year is the current year of the school, and beside `is_current` nothing of
another year changed. -/
structure Switched (db db' : SchoolDB) (schoolId yearId : Ulid) : Prop where
  present : ∃ y ∈ db'.academicYears, y.id = yearId ∧ y.schoolId = schoolId
  current : ∀ y ∈ db'.academicYears, y.schoolId = schoolId →
    (y.isCurrent = true ∧ y.deletedAt = none ↔ y.id = yearId)
  others : ∀ k, k ≠ yearId → (db'.academicYears.get k).map AcademicYear.uncurrent =
    (db.academicYears.get k).map AcademicYear.uncurrent

/-- The request asks for a year of the school to be current, and passes the checks of codes and
versions. -/
inductive YearCall.Selects (env : SchoolEnv) (db : SchoolDB) : YearCall → Ulid → Ulid → Prop
  | create {ctx : RequestContext} {clk : Clock} {data : AcademicYearCreate} {id schoolId : Ulid}
      (school : ctx.schoolId = some schoolId)
      (code : getYearByCode env db schoolId data.code = none) (asks : data.isCurrent = true) :
      Selects env db ⟨ctx, clk, .create data id⟩ schoolId id
  | update {ctx : RequestContext} {clk : Clock} {yearId : Ulid} {data : AcademicYearUpdate}
      {year : AcademicYear} (owned : AcademicYears.getOwned ctx db yearId = .ok year)
      (version : year.version = data.version) (asks : data.isCurrent = some true) :
      Selects env db ⟨ctx, clk, .update yearId data⟩ year.schoolId yearId

/-- What else the database has to take: the row, with a code that no year of the school has or
had, and the row of the audit log. -/
def YearCall.Fits (env : SchoolEnv) (db : SchoolDB) (c : YearCall) : Prop :=
  match c.op with
  | .create data id => ∃ schoolId ∈ c.ctx.schoolId, ∃ organizationId ∈ c.ctx.organizationId,
      db.HasSchool schoolId ∧ (∀ y ∈ db.academicYears, y.id ≠ id) ∧
        (∀ y ∈ db.academicYears, y.schoolId = schoolId → y.code ≠ data.code) ∧
        bindable data.code = true ∧ bindable data.name = true ∧
        env.Admits (auditRow c.ctx (AcademicYears.createdEntry env
          (AcademicYears.created c.ctx schoolId organizationId data id)))
  | .update yearId data => ∀ year ∈ db.academicYears.get yearId,
      (∀ n ∈ data.name, bindable n = true) ∧ env.Admits (auditRow c.ctx
        (AcademicYears.updatedEntry env year (AcademicYears.applied c.ctx year data)))
  | .delete _ _ => True

/-! ### Stored years -/

def SchoolDB.withoutYears (db : SchoolDB) : SchoolDB := { db with academicYears := .empty _ }

/-- The years are apart, and their names are texts the database stores. -/
structure YearsStored (db : SchoolDB) : Prop where
  apart : YearsApart db
  names : ∀ y ∈ db.academicYears, bindable y.name = true

section Stored

variable {env : SchoolEnv} {db db' : SchoolDB}

lemma withoutYears_stored : YearsStored db.withoutYears where
  apart := Table.excludes_empty
  names := fun _ hy => absurd hy Table.not_mem_empty

lemma yearsStored_step (env : SchoolEnv) (db : SchoolDB) (c : YearCall) (hstored : YearsStored db) :
    YearsStored (c.step env db) := by
  unfold YearCall.step
  split
  · next db' hok =>
    obtain ⟨heffect, hapart, _⟩ := yearHandle_ok hstored.apart hok
    refine ⟨hapart, ?_⟩
    -- A rewritten year has the name it had, or one that can be bound.
    have hput : ∀ {old new : AcademicYear}, old ∈ db.academicYears →
        (new = old ∨ bindable new.name = true) → ∀ y ∈ db.academicYears.put
          (flushed AcademicYear.touch old new), bindable y.name = true := by
      intro old new hold hnew y hy
      rcases Table.mem_put.mp hy with ⟨hy, _⟩ | ⟨rfl, _⟩
      · exact hstored.names y hy
      · have hname := flushed_col AcademicYear.touch AcademicYear.name (fun _ => rfl) old new
        rw [hname]
        rcases hnew with rfl | hnew
        · exact hstored.names new hold
        · exact hnew
    generalize c.op = op at heffect
    generalize db'.academicYears = years at heffect
    cases heffect with
    | create name insert =>
      intro y hy
      rcases (Table.mem_of_insert insert).mp hy with hy | rfl
      · exact hstored.names y hy
      · exact name
    | update owned version name => exact hput (yearOwned_ok owned).2.1 name
    | delete owned =>
      have hmem := (yearOwned_ok owned).2.1
      have hname := hstored.names _ hmem
      exact hput hmem (.inr hname)
  · exact hstored

end Stored

/-! ### When the switch works -/

section Switch

variable {env : SchoolEnv} {db db' : SchoolDB}

/-- After a year was written that is current, in years that are apart. -/
lemma switched_of_apart (hapart : YearsApart db') {year : AcademicYear}
    (hmem : year ∈ db'.academicYears) (hcur : year.isCurrent = true)
    (hlive : year.deletedAt = none)
    (hothers : ∀ k, k ≠ year.id → db'.academicYears.get k = db.academicYears.get k) :
    Switched db db' year.schoolId year.id where
  present := ⟨year, hmem, rfl, rfl⟩
  current := by
    intro y hy hschool
    constructor
    · rintro ⟨hycur, hylive⟩
      exact hapart.noneCurrent hmem hcur hlive y hy hschool hycur hylive
    · intro hid
      obtain rfl := Table.eq_of_key hy hmem hid
      exact ⟨hcur, hlive⟩
  others := fun k hk => by rw [hothers k hk]

lemma Switched.log {schoolId yearId : Ulid} (h : Switched db db' schoolId yearId)
    (row : AuditLog) : Switched db (db'.log row) schoolId yearId :=
  ⟨h.present, h.current, h.others⟩

/-- **A new current year.** -/
lemma createSwitch_iff (hstored : YearsStored db) {ctx : RequestContext} {clk : Clock}
    {data : AcademicYearCreate} {id schoolId : Ulid} (hschool : ctx.schoolId = some schoolId)
    (hcode : getYearByCode env db schoolId data.code = none) (hasks : data.isCurrent = true) :
    (∃ db', YearCall.handle env db ⟨ctx, clk, .create data id⟩ = .ok db' ∧
        Switched db db' schoolId id) ↔
      NoneCurrent db schoolId id ∧ YearCall.Fits env db ⟨ctx, clk, .create data id⟩ := by
  constructor
  · -- The insert went through, so no current year was in the way.
    rintro ⟨db', hok, _⟩
    obtain ⟨⟨year, _⟩, hcreate, rfl⟩ := map_ok.mp hok
    obtain ⟨schoolId', organizationId, hctx, _, horganization, rfl, hadmits, db1, hinsert, rfl⟩ :=
      (yearCreate_iff hstored.apart).mp hcreate
    obtain rfl : schoolId = schoolId' := Option.some.inj (hschool.symm.trans hctx)
    obtain ⟨years, hrow, ⟨hfree, hhas, hbcode, hbname⟩, _⟩ := yearInsert_iff.mp hinsert
    have hfresh := (Table.insert_eq_some.mp hrow).1
    refine ⟨fun y hy hyschool hycur hylive => ?_, schoolId, hschool, organizationId, horganization,
      hhas, hfresh, fun y hy hyschool hycode => ?_, hbcode, hbname, hadmits⟩
    · exact absurd ⟨hyschool, .inr ⟨hycur, hylive, hasks, rfl⟩⟩ (hfree y hy)
    · exact hfree y hy ⟨hyschool, .inl hycode⟩
  · -- Without one the insert goes through, and there is nothing to unset.
    rintro ⟨hnone, schoolId', hctx, organizationId, horganization, hhas, hfresh, hcodes, hbcode,
      hbname, hadmits⟩
    obtain rfl : schoolId = schoolId' := Option.some.inj (hschool.symm.trans hctx)
    obtain ⟨years, hinsert⟩ : ∃ years, db.academicYears.insert
        (AcademicYears.created ctx schoolId organizationId data id) = some years :=
      Table.insert_of_fresh hfresh
    have hfree : ∀ y ∈ db.academicYears, ¬ AcademicYears.Collides y
        (AcademicYears.created ctx schoolId organizationId data id) := by
      rintro y hy ⟨hyschool, hycode | ⟨hycur, hylive, _⟩⟩
      · exact hcodes y hy hyschool hycode
      · exact hfresh y hy (hnone y hy hyschool hycur hylive)
    have hsaved := yearInsert_iff.mpr ⟨years, hinsert, ⟨hfree, hhas, hbcode, hbname⟩, rfl⟩
    have hcreate := (yearCreate_iff hstored.apart).mpr
      ⟨schoolId, organizationId, hschool, hcode, horganization, rfl, hadmits, _, hsaved, rfl⟩
    refine ⟨_, map_ok.mpr ⟨_, hcreate, rfl⟩, ?_⟩
    have hmem : AcademicYears.created ctx schoolId organizationId data id ∈ years :=
      (Table.mem_of_insert hinsert).mpr (.inr rfl)
    have hswitched : Switched db { db with academicYears := years } schoolId id :=
      switched_of_apart (yearInsert_apart hstored.apart hsaved) hmem hasks rfl fun k hk =>
        (Table.get_insert hinsert k).trans (if_neg hk)
    exact hswitched.log _

/-- **A year made current.** -/
lemma updateSwitch_iff (hstored : YearsStored db) {ctx : RequestContext} {clk : Clock}
    {yearId : Ulid} {data : AcademicYearUpdate} {year : AcademicYear}
    (howned : AcademicYears.getOwned ctx db yearId = .ok year)
    (hversion : year.version = data.version) (hasks : data.isCurrent = some true) :
    (∃ db', YearCall.handle env db ⟨ctx, clk, .update yearId data⟩ = .ok db' ∧
        Switched db db' year.schoolId yearId) ↔
      NoneCurrent db year.schoolId yearId ∧
        YearCall.Fits env db ⟨ctx, clk, .update yearId data⟩ := by
  obtain ⟨_, hmem, rfl, hlive⟩ := yearOwned_ok howned
  have hget : db.academicYears.get year.id = some year := Table.get_eq_some.mpr ⟨hmem, rfl⟩
  have hcur : (AcademicYears.applied ctx year data).isCurrent = true := by
    rw [AcademicYears.applied, hasks, Option.getD_some]
  have hfits : YearCall.Fits env db ⟨ctx, clk, .update year.id data⟩ ↔
      (∀ n ∈ data.name, bindable n = true) ∧ env.Admits (auditRow ctx
        (AcademicYears.updatedEntry env year (AcademicYears.applied ctx year data))) := by
    simp [YearCall.Fits, hget]
  rw [hfits]
  constructor
  · -- The flush went through, so no other year was current.
    rintro ⟨db', hok, _⟩
    obtain ⟨year', howned', hok⟩ := bind_ok.mp hok
    obtain rfl : year = year' := Except.ok.inj (howned.symm.trans howned')
    obtain ⟨⟨row, _⟩, hupdate, rfl⟩ := map_ok.mp hok
    obtain ⟨_, _, hadmits, db1, hsave, _⟩ := (yearUpdate_iff hstored.apart howned).mp hupdate
    obtain ⟨hnew, _⟩ := (yearSave_iff hmem).mp hsave
    refine ⟨fun y hy hschool hycur hylive => ?_, fun n hn => ?_, hadmits⟩
    · rcases hnew with hsame | ⟨hfree, _⟩
      · rw [hsame] at hcur
        exact hstored.apart.noneCurrent hmem hcur hlive y hy hschool hycur hylive
      · by_contra hne
        exact hfree y hy hne ⟨hschool, .inr ⟨hycur, hylive, hcur, hlive⟩⟩
    · -- The name was bound, or is the one that is stored.
      have hname : (AcademicYears.applied ctx year data).name = n := by
        rw [AcademicYears.applied, Option.mem_def.mp hn, Option.getD_some]
      rcases hnew with hsame | ⟨_, hbind⟩
      · rw [← hname, hsame]
        exact hstored.names year hmem
      · exact hname ▸ hbind
  · -- Without another current year the flush goes through.
    rintro ⟨hnone, hnames, hadmits⟩
    have hbind : bindable (AcademicYears.applied ctx year data).name = true := by
      rw [AcademicYears.applied]
      cases hn : data.name with
      | none => exact hstored.names year hmem
      | some n => exact hnames n hn
    have hfree : ∀ y ∈ db.academicYears, y.id ≠ year.id →
        ¬ AcademicYears.Collides y (AcademicYears.applied ctx year data) := by
      rintro y hy hne ⟨hschool, hcode | ⟨hycur, hylive, _⟩⟩
      · exact hstored.apart y hy year hmem hne ⟨hschool, .inl hcode⟩
      · exact hne (hnone y hy hschool hycur hylive)
    have hsave := (yearSave_iff hmem).mpr ⟨.inr ⟨hfree, hbind⟩, rfl⟩
    have hupdate := (yearUpdate_iff hstored.apart howned).mpr
      ⟨hversion, rfl, hadmits, _, hsave, rfl⟩
    have hhandle : YearCall.handle env db ⟨ctx, clk, .update year.id data⟩ = .ok _ :=
      bind_ok.mpr ⟨year, howned, map_ok.mpr ⟨_, hupdate, rfl⟩⟩
    refine ⟨_, hhandle, ?_⟩
    have hcols := flushed_col AcademicYear.touch
      (fun y => (y.id, y.schoolId, y.isCurrent, y.deletedAt)) (fun _ => rfl) year
      (AcademicYears.applied ctx year data)
    obtain ⟨hid, hschool, hrowcur, hdel⟩ : _ ∧ _ ∧ _ ∧ _ := by simpa using hcols
    have hput : flushed AcademicYear.touch year (AcademicYears.applied ctx year data) ∈
        db.academicYears.put
          (flushed AcademicYear.touch year (AcademicYears.applied ctx year data)) :=
      Table.mem_put.mpr (.inr ⟨rfl, year, hmem, hid.symm⟩)
    have hapart := yearSave_apart hstored.apart hmem hsave
    have hothers : ∀ k, k ≠ (flushed AcademicYear.touch year
        (AcademicYears.applied ctx year data)).id → (db.academicYears.put (flushed
          AcademicYear.touch year (AcademicYears.applied ctx year data))).get k =
            db.academicYears.get k :=
      fun k hk => (Table.get_put k).trans (if_neg hk)
    have hswitched := switched_of_apart hapart hput (hrowcur.trans hcur) (hdel.trans hlive) hothers
    rw [hid, hschool] at hswitched
    exact hswitched.log _

end Switch

/-- **Switching the current year works exactly when no other year of the school is current**, and
what the request writes fits the database otherwise. -/
theorem switchCurrent_iff (env : SchoolEnv) (db : SchoolDB) (l : List YearCall) (c : YearCall)
    (schoolId yearId : Ulid)
    (h : c.Selects env (run (YearCall.step env) db.withoutYears l) schoolId yearId) :
    (∃ db', c.handle env (run (YearCall.step env) db.withoutYears l) = .ok db' ∧
        Switched (run (YearCall.step env) db.withoutYears l) db' schoolId yearId) ↔
      NoneCurrent (run (YearCall.step env) db.withoutYears l) schoolId yearId ∧
        c.Fits env (run (YearCall.step env) db.withoutYears l) := by
  have hstored : YearsStored (run (YearCall.step env) db.withoutYears l) :=
    invariant_all (yearsStored_step env) withoutYears_stored l
  cases h with
  | create school code asks => exact createSwitch_iff hstored school code asks
  | update owned version asks => exact updateSwitch_iff hstored owned version asks

/-- Make a year current that was created otherwise. -/
def makeCurrent (yearId : Ulid) : YearCall :=
  ⟨staff, ⟨0, 0⟩, .update yearId ⟨none, none, none, some true, none, 1, nofun, one_le_first⟩⟩

/-- Two years, the first one current or not. -/
def twoYears (isCurrent : Bool) : List YearCall :=
  [⟨staff, ⟨0, 0⟩, .create { firstYear with isCurrent := isCurrent } 21⟩,
    ⟨staff, ⟨0, 0⟩, .create secondYear 22⟩]

lemma secondYear_selected (isCurrent : Bool) : (makeCurrent 22).Selects .plain
    (run (YearCall.step .plain) smallSchool.withoutYears (twoYears isCurrent)) 11 22 := by
  have howned : AcademicYears.getOwned staff
      (run (YearCall.step .plain) smallSchool.withoutYears (twoYears isCurrent)) 22 =
        .ok (AcademicYears.created staff 11 101 secondYear 22) := by
    cases isCurrent <;> rfl
  exact .update howned rfl rfl

theorem switchCurrent_second : (∃ db', (makeCurrent 22).handle .plain
      (run (YearCall.step .plain) smallSchool.withoutYears (twoYears false)) = .ok db' ∧
        Switched (run (YearCall.step .plain) smallSchool.withoutYears (twoYears false)) db' 11 22) ↔
      NoneCurrent (run (YearCall.step .plain) smallSchool.withoutYears (twoYears false)) 11 22 ∧
        (makeCurrent 22).Fits .plain
          (run (YearCall.step .plain) smallSchool.withoutYears (twoYears false)) :=
  switchCurrent_iff .plain smallSchool (twoYears false) (makeCurrent 22) 11 22
    (secondYear_selected false)

/-- While the first year is current, the second cannot be made so. -/
theorem switchCurrent_refused : ¬ ∀ (env : SchoolEnv) (db : SchoolDB) (l : List YearCall)
    (c : YearCall) (schoolId yearId : Ulid),
    c.Selects env (run (YearCall.step env) db.withoutYears l) schoolId yearId →
      ∃ db', c.handle env (run (YearCall.step env) db.withoutYears l) = .ok db' ∧
        Switched (run (YearCall.step env) db.withoutYears l) db' schoolId yearId := by
  intro h
  obtain ⟨db', hok, _⟩ :=
    h .plain smallSchool (twoYears true) (makeCurrent 22) 11 22 (secondYear_selected true)
  have herror : (makeCurrent 22).handle .plain (run (YearCall.step .plain)
      smallSchool.withoutYears (twoYears true)) = .error internalError := by rfl
  rw [herror] at hok
  cases hok

end SchoolOs
