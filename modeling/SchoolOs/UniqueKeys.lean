import SchoolOs.KeyRequests

/-!
The uniqueness checks of the services against the unique constraints of the tables: when a request
that passes its checks is also taken by the database.
-/

namespace SchoolOs

open Runs

/-! ### Requests that pass their checks -/

/-- What a request makes of its checks: it answers as they do, with the last handler when the row
clashes, and keeps the tables apart. -/
structure KeyOutcome (db : SchoolDB) (checks : Fallible KeyRow) (x : Fallible SchoolDB) : Prop where
  refused : ∀ e, checks = .error e → x = .error e
  clashes : ∀ row, checks = .ok row → ¬ row.Apart db → x = .error internalError
  kept : ∀ db', x = .ok db' → KeysApart db'

section Outcome

variable {env : SchoolEnv} {db : SchoolDB}

lemma Prechecks.outcome {ρ : Type} {key : ρ → Ulid} {t : Table key} {clash : ρ → ρ → Prop}
    {p : Fallible ρ} {x : Fallible SchoolDB} (h : Prechecks t clash p x KeysApart)
    {wrap : ρ → KeyRow} (hwrap : ∀ row, (wrap row).Apart db ↔ t.Apart clash row) :
    KeyOutcome db (wrap <$> p) x where
  refused := by
    intro e he
    cases p with
    | error e' =>
      cases he
      exact h.refused rfl
    | ok row => cases he
  clashes := by
    intro row hrow hclash
    obtain ⟨r, hp, rfl⟩ := map_ok.mp hrow
    exact h.clashes hp fun hapart => hclash ((hwrap r).mpr hapart)
  kept := fun _ hx => h.ok hx

/-- **What a request does with its checks**, for every entity and kind of request. -/
theorem keyHandle_outcome (h : KeysApart db) (c : KeyCall) :
    KeyOutcome db (c.checks env db) (c.handle env db) := by
  obtain ⟨ctx, clk, op⟩ := c
  cases op with
  | year op => exact (year_prechecks h op).outcome fun _ => Iff.rfl
  | term op => exact (term_prechecks h op).outcome fun _ => Iff.rfl
  | academicClass op => exact (class_prechecks h op).outcome fun _ => Iff.rfl
  | subject op => exact (subject_prechecks h op).outcome fun _ => Iff.rfl
  | cohort op => exact (cohort_prechecks h op).outcome fun _ => Iff.rfl
  | student op => exact (student_prechecks h op).outcome fun _ => Iff.rfl
  | teacher op => exact (teacher_prechecks h op).outcome fun _ => Iff.rfl
  | parent op => exact (parent_prechecks h op).outcome fun _ => Iff.rfl

end Outcome

/-! ### Runs -/

/-- Whatever else becomes of the database, with the rows that carry keys. -/
def SchoolDB.withKeysOf (rest db : SchoolDB) : SchoolDB :=
  { rest with
    academicYears := db.academicYears
    academicTerms := db.academicTerms
    academicClasses := db.academicClasses
    subjects := db.subjects
    cohorts := db.cohorts
    students := db.students
    teachers := db.teachers
    parents := db.parents }

def SchoolDB.withoutKeys (db : SchoolDB) : SchoolDB := db.withKeysOf (.empty db.core)

/-- A request on rows that carry keys, or another one, which leaves them. -/
inductive KeyStep
  | call (c : KeyCall)
  | other (rest : SchoolDB)

def KeyStep.step (env : SchoolEnv) (db : SchoolDB) : KeyStep → SchoolDB
  | .call c => c.step env db
  | .other rest => rest.withKeysOf db

section Reached

variable {env : SchoolEnv} {db rest : SchoolDB}

lemma KeysApart.withKeysOf (h : KeysApart db) : KeysApart (rest.withKeysOf db) :=
  ⟨h.years, h.terms, h.classes, h.subjects, h.cohorts, h.students, h.teachers, h.parents⟩

lemma withoutKeys_apart (db : SchoolDB) : KeysApart db.withoutKeys where
  years := Table.excludes_empty
  terms := Table.excludes_empty
  classes := Table.excludes_empty
  subjects := Table.excludes_empty
  cohorts := Table.excludes_empty
  students := Table.excludes_empty
  teachers := Table.excludes_empty
  parents := Table.excludes_empty

lemma keysApart_step (env : SchoolEnv) (db : SchoolDB) (s : KeyStep) (h : KeysApart db) :
    KeysApart (s.step env db) := by
  cases s with
  | call c =>
    change KeysApart (KeyCall.step env db c)
    unfold KeyCall.step
    split
    · next db' hok => exact (keyHandle_outcome h c).kept db' hok
    · exact h
  | other rest => exact h.withKeysOf

/-- **The tables satisfy their unique constraints** in every state reached. -/
theorem reached_keysApart (env : SchoolEnv) (db : SchoolDB) (l : List KeyStep) :
    KeysApart (run (KeyStep.step env) db.withoutKeys l) :=
  invariant_all (keysApart_step env) (withoutKeys_apart db) l

end Reached

/-! ### What the checks leave out -/

/-- The lookup of codes misses a row with its own code: a deleted one, or one whose code the
database lowers otherwise than the service. -/
def SchoolEnv.Misses (env : SchoolEnv) (code : String) (deletedAt : Option Instant) : Prop :=
  deletedAt ≠ none ∨ env.sqlLower code ≠ env.lower code

/-- No other row of the school has the key and is left out by the checks: a row with the code that
the lookup of codes misses, a deleted student, teacher or parent with the number or the person,
another current year, any student with a changed admission number, a teacher with the empty
employee number. -/
def KeyCall.Free (env : SchoolEnv) (db : SchoolDB) (c : KeyCall) : Prop :=
  match c.op with
  | .year (.create data id) =>
    (∀ y ∈ db.academicYears, y.id ≠ id → c.ctx.schoolId = some y.schoolId →
      env.Misses y.code y.deletedAt → y.code ≠ data.code) ∧
    (data.isCurrent = true → ∀ s ∈ c.ctx.schoolId, NoneCurrent db s id)
  | .year (.update yearId data) =>
    data.isCurrent = some true → ∀ s ∈ c.ctx.schoolId, NoneCurrent db s yearId
  | .term (.create data id) => ∀ t ∈ db.academicTerms, t.id ≠ id →
      c.ctx.schoolId = some t.schoolId ∧ t.academicYearId = data.academicYearId →
      env.Misses t.code t.deletedAt → t.code ≠ data.code
  | .academicClass (.create data id) => ∀ k ∈ db.academicClasses, k.id ≠ id →
      c.ctx.schoolId = some k.schoolId → env.Misses k.code k.deletedAt → k.code ≠ data.code
  | .subject (.create data id) => ∀ s ∈ db.subjects, s.id ≠ id →
      c.ctx.schoolId = some s.schoolId → env.Misses s.code s.deletedAt → s.code ≠ data.code
  | .cohort (.create data id) => ∀ k ∈ db.cohorts, k.id ≠ id →
      c.ctx.schoolId = some k.schoolId ∧ k.academicYearId = data.academicYearId ∧
        k.academicClassId = data.academicClassId →
      env.Misses k.code k.deletedAt → k.code ≠ data.code
  | .student (.create data id) => ∀ s ∈ db.students, s.id ≠ id →
      c.ctx.schoolId = some s.schoolId → s.deletedAt ≠ none →
      s.admissionNumber ≠ data.admissionNumber ∧ s.personId ≠ data.personId
  | .student (.update studentId data) => ∀ n ∈ data.admissionNumber, ∀ s ∈ db.students,
      s.id ≠ studentId → c.ctx.schoolId = some s.schoolId → s.admissionNumber ≠ n
  | .teacher (.create data id) => ∀ t ∈ db.teachers, t.id ≠ id →
      c.ctx.schoolId = some t.schoolId →
      (t.deletedAt ≠ none → t.personId ≠ data.personId) ∧
        (t.deletedAt = none → data.employeeNumber = some "" → t.employeeNumber ≠ some "")
  | .parent (.create data id) => ∀ p ∈ db.parents, p.id ≠ id →
      c.ctx.schoolId = some p.schoolId → p.deletedAt ≠ none → p.personId ≠ data.personId
  | _ => True

/-! ### When the checks agree with the constraints -/

section Law

variable {env : SchoolEnv} {clk : Clock} {ctx : RequestContext} {db : SchoolDB} {schoolId : Ulid}

lemma ofSchool_iff (h : ctx.schoolId = some schoolId) (s : Ulid) :
    ctx.schoolId = some s ↔ s = schoolId := by
  rw [h, Option.some.injEq]
  exact eq_comm

section Lookups

variable {ρ : Type} {key : ρ → Ulid} {t : Table key} {clash : ρ → ρ → Prop} {row : ρ}
  {sibling : ρ → Prop} {taken : String}

lemma find_none {p : ρ → Prop} [DecidablePred p] (h : t.rows.find? (fun r => p r) = none) :
    ∀ r ∈ t, ¬ p r := fun r hr hp =>
  List.find?_eq_none.mp h r hr (decide_eq_true hp)

/-- Codes that are looked up among the siblings that are not deleted: those the lookup misses
decide. -/
lemma code_apart_iff (code : ρ → String) (deletedAt : ρ → Option Instant)
    (hclash : ∀ a, clash a row ↔ sibling a ∧ code a = taken)
    (hlookup : ∀ a ∈ t, ¬ (sibling a ∧ env.sqlLower (code a) = env.lower taken ∧
      deletedAt a = none)) :
    t.Apart clash row ↔ ∀ a ∈ t, key a ≠ key row → sibling a →
      env.Misses (code a) (deletedAt a) → code a ≠ taken := by
  have hseen : ∀ a ∈ t, ¬ env.Misses (code a) (deletedAt a) → ¬ clash a row := by
    intro a ha hseen hc
    obtain ⟨hsibling, rfl⟩ := (hclash a).mp hc
    obtain ⟨hlive, hlower⟩ : deletedAt a = none ∧ env.sqlLower (code a) = env.lower (code a) := by
      simpa [SchoolEnv.Misses] using hseen
    exact hlookup a ha ⟨hsibling, hlower, hlive⟩
  refine (Table.apart_iff_missed _ hseen).trans (forall₃_congr fun a _ _ => ?_)
  rw [not_not, hclash]
  tauto

/-- A constraint that is one of two has no clashes when neither has. -/
lemma apart_or (clash' clash'' : ρ → ρ → Prop)
    (hclash : ∀ a, clash a row ↔ clash' a row ∨ clash'' a row) :
    t.Apart clash row ↔ t.Apart clash' row ∧ t.Apart clash'' row := by
  unfold Table.Apart
  rw [← forall₂_and]
  refine forall₂_congr fun a _ => ?_
  rw [hclash, not_or, ← imp_and]

end Lookups

/-- **A new year.** -/
lemma yearCreate_apart_iff {data : AcademicYearCreate} {id : Ulid} {year : AcademicYear}
    (h : AcademicYears.checkCreate env ctx db data id = .ok year) :
    db.academicYears.Apart AcademicYears.Collides year ↔
      KeyCall.Free env db ⟨ctx, clk, .year (.create data id)⟩ := by
  simp only [AcademicYears.checkCreate, bind_ok, found_ok, ensureAbsent_ok, pure_ok,
    exists_const] at h
  obtain ⟨schoolId, hctx, hnone, organizationId, _, rfl⟩ := h
  refine Iff.trans (apart_or
    (fun a b : AcademicYear => a.schoolId = b.schoolId ∧ a.code = b.code)
    (fun a b : AcademicYear => a.schoolId = b.schoolId ∧ a.isCurrent = true ∧ a.deletedAt = none ∧
      b.isCurrent = true ∧ b.deletedAt = none) fun _ => and_or_left) (and_congr ?_ ?_)
  · simp only [ofSchool_iff hctx]
    exact code_apart_iff AcademicYear.code AcademicYear.deletedAt (fun _ => Iff.rfl)
      (find_none hnone)
  · constructor
    · intro hapart hcurrent s hs y hy hschool hcur hlive
      obtain rfl := (ofSchool_iff hctx s).mp hs
      by_contra hne
      exact hapart y hy hne ⟨hschool, hcur, hlive, hcurrent, rfl⟩
    · rintro hnone y hy hne ⟨hschool, hcur, hlive, hcurrent, _⟩
      exact hne (hnone hcurrent schoolId hctx y hy hschool hcur hlive)

/-- **A year made current.** -/
lemma yearUpdate_apart_iff (hex : KeysApart db) {yearId : Ulid} {data : AcademicYearUpdate}
    {year : AcademicYear} (howned : AcademicYears.getOwned ctx db yearId = .ok year) :
    db.academicYears.Apart AcademicYears.Collides (AcademicYears.applied ctx year data) ↔
      KeyCall.Free env db ⟨ctx, clk, .year (.update yearId data)⟩ := by
  obtain ⟨hmem, rfl, hctx, hlive⟩ := owned_mem howned
  constructor
  · intro hapart hasks s hs y hy hschool hcur hylive
    obtain rfl := (ofSchool_iff hctx s).mp hs
    by_contra hne
    have hcurrent : (AcademicYears.applied ctx year data).isCurrent = true := by
      rw [AcademicYears.applied, hasks, Option.getD_some]
    exact hapart y hy hne ⟨hschool, .inr ⟨hcur, hylive, hcurrent, hlive⟩⟩
  · rintro hnone y hy hne ⟨hschool, hcode | ⟨hcur, hylive, hcurrent, _⟩⟩
    · exact hex.years y hy year hmem hne ⟨hschool, .inl hcode⟩
    · cases hasks : data.isCurrent with
      | none =>
        -- the flag stays, and with it the one current year
        rw [AcademicYears.applied, hasks, Option.getD_none] at hcurrent
        exact hex.years y hy year hmem hne ⟨hschool, .inr ⟨hcur, hylive, hcurrent, hlive⟩⟩
      | some b =>
        rw [AcademicYears.applied, hasks, Option.getD_some] at hcurrent
        obtain rfl : b = true := hcurrent
        exact hne (hnone hasks year.schoolId hctx y hy hschool hcur hylive)

/-- **A new term.** -/
lemma termCreate_apart_iff {data : AcademicTermCreate} {id : Ulid} {term : AcademicTerm}
    (h : AcademicTerms.checkCreate env ctx db data id = .ok term) :
    db.academicTerms.Apart AcademicTerms.SameCode term ↔
      KeyCall.Free env db ⟨ctx, clk, .term (.create data id)⟩ := by
  simp only [AcademicTerms.checkCreate, bind_ok, found_ok, ensureAbsent_ok, pure_ok,
    exists_const] at h
  obtain ⟨schoolId, hctx, _, _, _, _, hnone, organizationId, _, rfl⟩ := h
  unfold KeyCall.Free
  simp only [ofSchool_iff hctx]
  refine code_apart_iff AcademicTerm.code AcademicTerm.deletedAt (fun _ => and_assoc.symm) ?_
  rintro t ht ⟨⟨hschool, hyear⟩, hcode⟩
  exact find_none hnone t ht ⟨hschool, hyear, hcode⟩

/-- **A new class.** -/
lemma classCreate_apart_iff {data : AcademicClassCreate} {id : Ulid} {k : AcademicClass}
    (h : AcademicClasses.checkCreate env ctx db data id = .ok k) :
    db.academicClasses.Apart AcademicClasses.SameCode k ↔
      KeyCall.Free env db ⟨ctx, clk, .academicClass (.create data id)⟩ := by
  simp only [AcademicClasses.checkCreate, bind_ok, found_ok, ensureAbsent_ok, pure_ok,
    exists_const] at h
  obtain ⟨schoolId, hctx, hnone, organizationId, _, rfl⟩ := h
  unfold KeyCall.Free
  simp only [ofSchool_iff hctx]
  exact code_apart_iff AcademicClass.code AcademicClass.deletedAt (fun _ => Iff.rfl)
    (find_none hnone)

/-- **A new subject.** -/
lemma subjectCreate_apart_iff {data : SubjectCreate} {id : Ulid} {s : Subject}
    (h : Subjects.checkCreate env ctx db data id = .ok s) :
    db.subjects.Apart Subjects.SameCode s ↔
      KeyCall.Free env db ⟨ctx, clk, .subject (.create data id)⟩ := by
  simp only [Subjects.checkCreate, bind_ok, found_ok, ensureAbsent_ok, pure_ok, exists_const] at h
  obtain ⟨schoolId, hctx, hnone, organizationId, _, rfl⟩ := h
  unfold KeyCall.Free
  simp only [ofSchool_iff hctx]
  exact code_apart_iff Subject.code Subject.deletedAt (fun _ => Iff.rfl) (find_none hnone)

/-- **A new cohort.** -/
lemma cohortCreate_apart_iff {data : CohortCreate} {id : Ulid} {k : Cohort}
    (h : Cohorts.checkCreate env ctx db data id = .ok k) :
    db.cohorts.Apart Cohorts.SameCode k ↔
      KeyCall.Free env db ⟨ctx, clk, .cohort (.create data id)⟩ := by
  simp only [Cohorts.checkCreate, bind_ok, found_ok, ensureAbsent_ok, pure_ok, exists_const] at h
  obtain ⟨schoolId, hctx, _, _, _, _, hnone, organizationId, _, rfl⟩ := h
  unfold KeyCall.Free
  simp only [ofSchool_iff hctx]
  refine code_apart_iff Cohort.code Cohort.deletedAt (fun a => ?_) ?_
  · simp only [Cohorts.SameCode, and_assoc]
  · rintro k hk ⟨⟨hschool, hyear, hclass⟩, hcode⟩
    exact find_none hnone k hk ⟨hschool, hyear, hclass, hcode⟩

/-- **A new student.** -/
lemma studentCreate_apart_iff {data : StudentCreate} {id : Ulid} {s : Student}
    (h : Students.checkCreate env ctx db data id = .ok s) :
    db.students.Apart Students.Collides s ↔
      KeyCall.Free env db ⟨ctx, clk, .student (.create data id)⟩ := by
  simp only [Students.checkCreate, bind_ok, found_ok, ensureAbsent_ok, pure_ok, exists_const] at h
  obtain ⟨schoolId, hctx, _, _, hnumber, hperson, organizationId, _, rfl⟩ := h
  unfold KeyCall.Free
  simp only [ofSchool_iff hctx]
  refine (Table.apart_iff_missed (·.deletedAt = none) fun a ha hlive => ?_).trans ?_
  · rintro ⟨hschool, hn | hp⟩
    · exact find_none hnumber a ha ⟨hschool, hn, hlive⟩
    · exact find_none hperson a ha ⟨hschool, hp, hlive⟩
  · refine forall₃_congr fun a _ _ => ?_
    simp only [Students.Collides, not_and, not_or]
    exact imp.swap

/-- **A changed admission number** is not looked up at all. -/
lemma studentUpdate_apart_iff (hex : KeysApart db) {studentId : Ulid} {data : StudentUpdate}
    {student : Student} (howned : Students.getOwned ctx db studentId = .ok student) :
    db.students.Apart Students.Collides (Students.applied ctx student data) ↔
      KeyCall.Free env db ⟨ctx, clk, .student (.update studentId data)⟩ := by
  obtain ⟨hmem, rfl, hctx, _⟩ := owned_mem howned
  constructor
  · intro hapart n hn s hs hne hschool hnumber
    refine hapart s hs hne ⟨(ofSchool_iff hctx _).mp hschool, .inl ?_⟩
    rw [hnumber, Students.applied, Option.mem_def.mp hn, Option.getD_some]
  · rintro hfree s hs hne ⟨hschool, hnumber | hperson⟩
    · cases hn : data.admissionNumber with
      | none =>
        rw [Students.applied, hn, Option.getD_none] at hnumber
        exact hex.students s hs student hmem hne ⟨hschool, .inl hnumber⟩
      | some n =>
        rw [Students.applied, hn, Option.getD_some] at hnumber
        exact hfree n hn s hs hne ((ofSchool_iff hctx _).mpr hschool) hnumber
    · exact hex.students s hs student hmem hne ⟨hschool, .inr hperson⟩

/-- **A new parent.** -/
lemma parentCreate_apart_iff {data : ParentCreate} {id : Ulid} {p : Parent}
    (h : Parents.checkCreate ctx db data id = .ok p) :
    db.parents.Apart Parents.SamePerson p ↔
      KeyCall.Free env db ⟨ctx, clk, .parent (.create data id)⟩ := by
  simp only [Parents.checkCreate, bind_ok, found_ok, ensureAbsent_ok, pure_ok, exists_const] at h
  obtain ⟨schoolId, hctx, _, _, hperson, organizationId, _, rfl⟩ := h
  unfold KeyCall.Free
  simp only [ofSchool_iff hctx]
  refine (Table.apart_iff_missed (·.deletedAt = none) fun a ha hlive => ?_).trans ?_
  · rintro ⟨hschool, hp⟩
    exact find_none hperson a ha ⟨hschool, hp, hlive⟩
  · refine forall₃_congr fun a _ _ => ?_
    simp only [Parents.SamePerson, not_and]
    exact imp.swap

lemma checkEmployeeNumber_ok {data : TeacherCreate} {u : Unit}
    (h : Teachers.checkEmployeeNumber env db schoolId data = .ok u) :
    ∀ n ∈ data.employeeNumber, n ≠ "" → ∀ t ∈ db.teachers, ¬ (t.schoolId = schoolId ∧
      t.employeeNumber = some n ∧ t.deletedAt = none) := by
  intro n hn hne
  unfold Teachers.checkEmployeeNumber at h
  rw [Option.mem_def.mp hn] at h
  simp only [hne, if_false] at h
  exact find_none (ensureAbsent_ok.mp h)

/-- **A new teacher.** -/
lemma teacherCreate_apart_iff {data : TeacherCreate} {id : Ulid} {t : Teacher}
    (h : Teachers.checkCreate env ctx db data id = .ok t) :
    db.teachers.Apart Teachers.Collides t ↔
      KeyCall.Free env db ⟨ctx, clk, .teacher (.create data id)⟩ := by
  simp only [Teachers.checkCreate, bind_ok, found_ok, ensureAbsent_ok, pure_ok, exists_const] at h
  obtain ⟨schoolId, hctx, _, _, hperson, _, hnumber, organizationId, _, rfl⟩ := h
  unfold KeyCall.Free
  simp only [ofSchool_iff hctx]
  constructor
  · intro hapart t ht hne hschool
    refine ⟨fun _ hp => hapart t ht hne ⟨hschool, .inl hp⟩, fun hlive hempty hn => ?_⟩
    have hsome : data.employeeNumber ≠ none := by simp [hempty]
    exact hapart t ht hne ⟨hschool, .inr ⟨hn.trans hempty.symm, hsome, hlive, rfl⟩⟩
  · rintro hfree t ht hne ⟨hschool, hp | ⟨hn, hsome, hlive, _⟩⟩
    · by_cases hlive : t.deletedAt = none
      · exact find_none hperson t ht ⟨hschool, hp, hlive⟩
      · exact (hfree t ht hne hschool).1 hlive hp
    · obtain ⟨n, hdata⟩ := Option.ne_none_iff_exists'.mp hsome
      by_cases hempty : n = ""
      · subst hempty
        exact (hfree t ht hne hschool).2 hlive hdata (hn.trans hdata)
      · exact checkEmployeeNumber_ok hnumber n hdata hempty t ht ⟨hschool, hn.trans hdata, hlive⟩

lemma checkNewNumber_ok {teacher : Teacher} {data : TeacherUpdate} {u : Unit}
    (h : Teachers.checkNewNumber env db teacher data = .ok u) :
    ∀ n ∈ data.employeeNumber, teacher.employeeNumber ≠ some n → ∀ t ∈ db.teachers,
      ¬ (t.schoolId = teacher.schoolId ∧ t.employeeNumber = some n ∧ t.deletedAt = none ∧
        t.id ≠ teacher.id) := by
  intro n hn hne
  unfold Teachers.checkNewNumber at h
  rw [Option.mem_def.mp hn] at h
  simp only [hne, if_false] at h
  exact find_none (ensureAbsent_ok.mp h)

/-- **A changed employee number** is looked up as in the partial index. -/
lemma teacherUpdate_apart (hex : KeysApart db) {teacherId : Ulid} {data : TeacherUpdate}
    {teacher row : Teacher} (howned : Teachers.getOwned ctx db teacherId = .ok teacher)
    (h : Teachers.checkUpdate env ctx db teacher data = .ok row) :
    db.teachers.Apart Teachers.Collides row := by
  obtain ⟨hmem, rfl, _, hlive⟩ := owned_mem howned
  simp only [Teachers.checkUpdate, bind_ok, ensure_ok, pure_ok, exists_const] at h
  obtain ⟨_, _, hnumber, rfl⟩ := h
  rintro t ht hne ⟨hschool, hperson | ⟨hn, hsome, htlive, _⟩⟩
  · exact hex.teachers t ht teacher hmem hne ⟨hschool, .inl hperson⟩
  · have hold : t.employeeNumber = teacher.employeeNumber → False := fun he =>
      hex.teachers t ht teacher hmem hne ⟨hschool, .inr ⟨he, he ▸ hn ▸ hsome, htlive, hlive⟩⟩
    cases hdata : data.employeeNumber with
    | none =>
      rw [Teachers.applied, hdata, Option.none_or] at hn
      exact hold hn
    | some n =>
      rw [Teachers.applied, hdata, Option.some_or] at hn
      by_cases hsame : teacher.employeeNumber = some n
      · exact hold (hn.trans hsame.symm)
      · exact checkNewNumber_ok hnumber n hdata hsame t ht ⟨hschool, hn, htlive, hne⟩

lemma checkVersion_ok {ρ : Type} {stored given : ℕ} {row row' : ρ} :
    checkVersion stored given row = .ok row' ↔ stored = given ∧ row = row' := by
  simp only [checkVersion, bind_ok, ensure_ok, pure_ok, exists_const]

lemma yearDelete_apart (hex : KeysApart db) {year : AcademicYear} (hmem : year ∈ db.academicYears)
    (now : Instant) : db.academicYears.Apart AcademicYears.Collides
      { year with deletedAt := some now, updatedById := ctx.userId } := by
  refine hex.years.apart_of_clash hmem rfl fun a ha => ⟨ha.1, .inl ?_⟩
  obtain hcode | ⟨_, _, _, hdeleted⟩ := ha.2
  · exact hcode
  · cases hdeleted

lemma teacherDelete_apart (hex : KeysApart db) {teacher : Teacher} (hmem : teacher ∈ db.teachers)
    (now : Instant) : db.teachers.Apart Teachers.Collides
      { teacher with deletedAt := some now, updatedById := ctx.userId } := by
  refine hex.teachers.apart_of_clash hmem rfl fun a ha => ⟨ha.1, .inl ?_⟩
  obtain hperson | ⟨_, _, _, hdeleted⟩ := ha.2
  · exact hperson
  · cases hdeleted

/-- **In tables that satisfy their constraints**, a request that passes its checks violates none
exactly when it is free of the rows they leave out. -/
theorem checked_apart_iff (hex : KeysApart db) {c : KeyCall} {row : KeyRow}
    (h : c.checks env db = .ok row) : row.Apart db ↔ c.Free env db := by
  obtain ⟨ctx, clk, op⟩ := c
  cases op with
  | year op =>
    obtain ⟨year, hchecks, rfl⟩ := map_ok.mp h
    cases op with
    | create data id => exact yearCreate_apart_iff hchecks
    | update yearId data =>
      obtain ⟨old, howned, hchecks⟩ := bind_ok.mp hchecks
      obtain ⟨_, rfl⟩ := checkVersion_ok.mp hchecks
      exact yearUpdate_apart_iff hex howned
    | delete yearId version =>
      obtain ⟨old, howned, hchecks⟩ := bind_ok.mp hchecks
      obtain ⟨_, rfl⟩ := checkVersion_ok.mp hchecks
      exact iff_of_true (yearDelete_apart hex (owned_mem howned).1 _) trivial
  | term op =>
    obtain ⟨term, hchecks, rfl⟩ := map_ok.mp h
    cases op with
    | create data id => exact termCreate_apart_iff hchecks
    | update termId data =>
      -- An update writes no column of the constraint.
      obtain ⟨old, howned, hchecks⟩ := bind_ok.mp hchecks
      simp only [AcademicTerms.checkUpdate, bind_ok, ensure_ok, found_ok, pure_ok,
        exists_const] at hchecks
      obtain ⟨_, _, _, _, _, _, _, rfl⟩ := hchecks
      exact iff_of_true (hex.terms.apart_of_clash (owned_mem howned).1 rfl fun _ hc => hc) trivial
    | delete termId version =>
      obtain ⟨old, howned, hchecks⟩ := bind_ok.mp hchecks
      obtain ⟨_, rfl⟩ := checkVersion_ok.mp hchecks
      exact iff_of_true (hex.terms.apart_of_clash (owned_mem howned).1 rfl fun _ hc => hc) trivial
  | academicClass op =>
    obtain ⟨k, hchecks, rfl⟩ := map_ok.mp h
    cases op with
    | create data id => exact classCreate_apart_iff hchecks
    | update classId data | delete classId version =>
      obtain ⟨old, howned, hchecks⟩ := bind_ok.mp hchecks
      obtain ⟨_, rfl⟩ := checkVersion_ok.mp hchecks
      exact iff_of_true (hex.classes.apart_of_clash (owned_mem howned).1 rfl fun _ hc => hc) trivial
  | subject op =>
    obtain ⟨s, hchecks, rfl⟩ := map_ok.mp h
    cases op with
    | create data id => exact subjectCreate_apart_iff hchecks
    | update subjectId data | delete subjectId version =>
      obtain ⟨old, howned, hchecks⟩ := bind_ok.mp hchecks
      obtain ⟨_, rfl⟩ := checkVersion_ok.mp hchecks
      exact iff_of_true (hex.subjects.apart_of_clash (owned_mem howned).1 rfl fun _ hc => hc)
        trivial
  | cohort op =>
    obtain ⟨k, hchecks, rfl⟩ := map_ok.mp h
    cases op with
    | create data id => exact cohortCreate_apart_iff hchecks
    | update cohortId data | delete cohortId version =>
      obtain ⟨old, howned, hchecks⟩ := bind_ok.mp hchecks
      obtain ⟨_, rfl⟩ := checkVersion_ok.mp hchecks
      exact iff_of_true (hex.cohorts.apart_of_clash (owned_mem howned).1 rfl fun _ hc => hc) trivial
  | student op =>
    obtain ⟨s, hchecks, rfl⟩ := map_ok.mp h
    cases op with
    | create data id => exact studentCreate_apart_iff hchecks
    | update studentId data =>
      obtain ⟨old, howned, hchecks⟩ := bind_ok.mp hchecks
      obtain ⟨_, rfl⟩ := checkVersion_ok.mp hchecks
      exact studentUpdate_apart_iff hex howned
    | delete studentId version =>
      obtain ⟨old, howned, hchecks⟩ := bind_ok.mp hchecks
      obtain ⟨_, rfl⟩ := checkVersion_ok.mp hchecks
      exact iff_of_true (hex.students.apart_of_clash (owned_mem howned).1 rfl fun _ hc => hc)
        trivial
  | teacher op =>
    obtain ⟨t, hchecks, rfl⟩ := map_ok.mp h
    cases op with
    | create data id => exact teacherCreate_apart_iff hchecks
    | update teacherId data =>
      obtain ⟨old, howned, hchecks⟩ := bind_ok.mp hchecks
      exact iff_of_true (teacherUpdate_apart hex howned hchecks) trivial
    | delete teacherId version =>
      obtain ⟨old, howned, hchecks⟩ := bind_ok.mp hchecks
      obtain ⟨_, rfl⟩ := checkVersion_ok.mp hchecks
      exact iff_of_true (teacherDelete_apart hex (owned_mem howned).1 _) trivial
  | parent op =>
    obtain ⟨p, hchecks, rfl⟩ := map_ok.mp h
    cases op with
    | create data id => exact parentCreate_apart_iff hchecks
    | update parentId data | delete parentId version =>
      obtain ⟨old, howned, hchecks⟩ := bind_ok.mp hchecks
      obtain ⟨_, rfl⟩ := checkVersion_ok.mp hchecks
      exact iff_of_true (hex.parents.apart_of_clash (owned_mem howned).1 rfl fun _ hc => hc) trivial

end Law

/-- **The checks agree with the unique constraints exactly when no row they leave out has the
key**: a deleted row, one whose code is lowered otherwise, another current year, another student of
a changed admission number, a teacher with the empty employee number. In every state reached. -/
theorem keys_agree_iff (env : SchoolEnv) (db : SchoolDB) (l : List KeyStep) (c : KeyCall)
    (row : KeyRow) (h : c.checks env (run (KeyStep.step env) db.withoutKeys l) = .ok row) :
    row.Apart (run (KeyStep.step env) db.withoutKeys l) ↔
      c.Free env (run (KeyStep.step env) db.withoutKeys l) :=
  checked_apart_iff (reached_keysApart env db l) h

/-- Otherwise the request, its checks passed, ends with the last handler. -/
theorem unfree_unanswered (env : SchoolEnv) (db : SchoolDB) (l : List KeyStep) (c : KeyCall)
    (row : KeyRow) (h : c.checks env (run (KeyStep.step env) db.withoutKeys l) = .ok row)
    (hfree : ¬ c.Free env (run (KeyStep.step env) db.withoutKeys l)) :
    c.handle env (run (KeyStep.step env) db.withoutKeys l) = .error internalError := by
  have hapart := reached_keysApart env db l
  refine (keyHandle_outcome hapart c).clashes row h fun hrow => ?_
  exact hfree ((checked_apart_iff hapart h).mp hrow)

/-- A student of school 11. -/
def admitted (admissionNumber : String)
    (h : 1 ≤ admissionNumber.length ∧ admissionNumber.length ≤ 50) : StudentCreate :=
  ⟨61, admissionNumber, 738000, .active, h⟩

/-- Admit a student, and delete the record. -/
def admitAndDelete : List KeyStep :=
  [.call ⟨staff, ⟨0, 0⟩, .student (.create (admitted "N1" (by decide)) 71)⟩,
    .call ⟨staff, ⟨0, 0⟩, .student (.delete 71 1)⟩]

/-- The row of the student, admitted again. -/
def readmitted : Student :=
  ⟨73, 11, 101, 61, "N1", 738000, .active, none, none, none, some 1, none, 1⟩

def readmit : KeyCall := ⟨staff, ⟨0, 0⟩, .student (.create (admitted "N1" (by decide)) 73)⟩

lemma readmit_checked : readmit.checks .plain
    (run (KeyStep.step .plain) smallSchool.withoutKeys admitAndDelete) =
      .ok (.student readmitted) := by rfl

theorem keys_agree_readmit :
    (KeyRow.student readmitted).Apart
        (run (KeyStep.step .plain) smallSchool.withoutKeys admitAndDelete) ↔
      readmit.Free .plain (run (KeyStep.step .plain) smallSchool.withoutKeys admitAndDelete) :=
  keys_agree_iff .plain smallSchool admitAndDelete readmit (.student readmitted) readmit_checked

/-- The number and the person of a deleted student cannot be used again. -/
theorem readmit_clashes : ¬ ∀ (env : SchoolEnv) (db : SchoolDB) (l : List KeyStep) (c : KeyCall)
    (row : KeyRow), c.checks env (run (KeyStep.step env) db.withoutKeys l) = .ok row →
      row.Apart (run (KeyStep.step env) db.withoutKeys l) := by
  intro h
  have hapart := h .plain smallSchool admitAndDelete readmit _ readmit_checked
  have hclash : ¬ (KeyRow.student readmitted).Apart
      (run (KeyStep.step .plain) smallSchool.withoutKeys admitAndDelete) := by decide
  exact hclash hapart

end SchoolOs
