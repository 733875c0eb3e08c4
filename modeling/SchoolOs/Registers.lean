import SchoolOs.AuditEncodings
import SchoolOs.ImportAccounts
import SchoolOs.PersonMerges
import SchoolOs.Yields

/-!
The register of the persons, students and teachers against the audit log: whether what enters the
one is in the other, by the transaction that enters it.
-/

namespace SchoolOs

open Runs Savepoints

/-! ### What is entered -/

inductive RegisterKind
  | person | student | teacher
  deriving DecidableEq

namespace RegisterKind

def action : RegisterKind → String
  | .person => "PERSON_CREATED"
  | .student => "STUDENT_CREATED"
  | .teacher => "TEACHER_CREATED"

def entityType : RegisterKind → String
  | .person => "person"
  | .student => "student"
  | .teacher => "teacher"

/-- The entity is in its table. -/
def Has : RegisterKind → SchoolDB → Ulid → Prop
  | .person, db, id => (db.persons.get id).isSome
  | .student, db, id => (db.students.get id).isSome
  | .teacher, db, id => (db.teachers.get id).isSome

/-- The audit row says that the entity was created. -/
def Created (k : RegisterKind) (id : Ulid) (row : AuditLog) : Prop :=
  row.action = k.action ∧ row.entityType = k.entityType ∧ row.entityId = some id

end RegisterKind

/-- A transaction that logs what it enters, and nothing else, as created. -/
def Journaled (db db' : SchoolDB) : Prop :=
  ∃ added, db'.core.auditLogs = db.core.auditLogs ++ added ∧ ∀ (k : RegisterKind) (id : Ulid),
    ((∃ row ∈ added, k.Created id row) ↔ k.Has db' id ∧ ¬ k.Has db id) ∧
      (k.Has db id → k.Has db' id)

/-- Every entity was logged as created, and no other was. -/
def Matched (db : SchoolDB) : Prop := ∀ (k : RegisterKind) (id : Ulid),
  k.Has db id ↔ ∃ row ∈ db.core.auditLogs, k.Created id row

section Journaled

variable {db db' : SchoolDB} {k : RegisterKind} {id : Ulid} {row : AuditLog}

lemma action_injective {k k' : RegisterKind} (h : k.action = k'.action) : k = k' := by
  cases k <;> cases k' <;> first | rfl | exact absurd h (by decide)

lemma Journaled.refl (db : SchoolDB) : Journaled db db :=
  ⟨[], (List.append_nil _).symm, fun _ _ => ⟨by simp, id⟩⟩

/-- What is logged with what is entered matches what was logged before. -/
lemma Journaled.matched (h : Journaled db db') (hdb : Matched db) : Matched db' := by
  obtain ⟨added, hlogs, hadded⟩ := h
  intro k id
  obtain ⟨hnew, hkeep⟩ := hadded k id
  have hsplit : (∃ row ∈ db'.core.auditLogs, k.Created id row) ↔
      k.Has db id ∨ ∃ row ∈ added, k.Created id row := by
    rw [hlogs, hdb k id]
    simp only [List.mem_append, or_and_right, exists_or]
  rw [hsplit, hnew]
  tauto

lemma logged_of_created (hlogs : db'.core.auditLogs = db.core.auditLogs ++ [row])
    (hrow : k.Created id row) (hnew : ¬ k.Has db id)
    (hk : ∀ id', k.Has db' id' ↔ k.Has db id' ∨ id' = id)
    (hother : ∀ k', k' ≠ k → ∀ id', k'.Has db' id' ↔ k'.Has db id') : Journaled db db' := by
  refine ⟨[row], hlogs, fun k' id' => ?_⟩
  have hlisted : (∃ r ∈ [row], k'.Created id' r) ↔ k' = k ∧ id' = id := by
    simp only [List.mem_singleton, exists_eq_left]
    constructor
    · intro h
      exact ⟨action_injective (h.1.symm.trans hrow.1), Option.some.inj (h.2.2.symm.trans hrow.2.2)⟩
    · rintro ⟨rfl, rfl⟩
      exact hrow
  rw [hlisted]
  by_cases hkind : k' = k
  · subst hkind
    rw [hk]
    refine ⟨⟨?_, ?_⟩, Or.inl⟩
    · rintro ⟨-, rfl⟩
      exact ⟨.inr rfl, hnew⟩
    · rintro ⟨hhas | rfl, hnot⟩
      · exact absurd hhas hnot
      · exact ⟨rfl, rfl⟩
  · rw [hother k' hkind]
    exact ⟨⟨fun h => absurd h.1 hkind, fun h => absurd h.1 h.2⟩, fun h => h⟩

/-- A transaction that enters nothing, and logs nothing as created. -/
lemma logged_of_kept (hlogs : db'.core.auditLogs = db.core.auditLogs ++ [row])
    (hrow : ∀ k : RegisterKind, row.action ≠ k.action)
    (hkeep : ∀ (k : RegisterKind) id, k.Has db' id ↔ k.Has db id) : Journaled db db' := by
  refine ⟨[row], hlogs, fun k id => ⟨?_, (hkeep k id).mpr⟩⟩
  simp only [hkeep, List.mem_singleton, exists_eq_left]
  exact ⟨fun h => absurd h.1 (hrow k), fun h => absurd h.1 h.2⟩

/-- A transaction that logs nothing is logged exactly if it enters nothing. -/
lemma logged_of_silent (hlogs : db'.core.auditLogs = db.core.auditLogs)
    (hnew : k.Has db' id) (hold : ¬ k.Has db id) : ¬ Journaled db db' := by
  rintro ⟨added, hadded, h⟩
  obtain rfl : added = [] := by simpa [hlogs] using hadded
  obtain ⟨row, hrow, _⟩ := ((h k id).1).mpr ⟨hnew, hold⟩
  cases hrow

end Journaled

/-! ### Requests -/

/-- A request that imports a file. -/
structure ImportCall where
  ctx : RequestContext
  clk : Clock
  resourceType : ImportResourceType
  content : ByteArray
  filename : String
  id : Ulid
  draw : ℕ → Ulid × Ulid

def ImportCall.handle (env : ImportEnv) (db : ImportDB) (c : ImportCall) : Fallible ImportDB :=
  Prod.snd <$>
    Imports.startImport env c.clk c.ctx c.resourceType c.content c.filename c.id c.draw db

inductive IntakeCall
  | person (c : PersonCall)
  | student (c : StudentCall)
  | teacher (c : TeacherCall)
  | startImport (c : ImportCall)

/-- A request on the entities of a school, beside the jobs. -/
def ImportDB.lift (db : ImportDB) (r : Fallible SchoolDB) : Fallible ImportDB :=
  (fun school => { db with toSchoolDB := school }) <$> r

namespace IntakeCall

variable (env : ImportEnv)

def handle (db : ImportDB) : IntakeCall → Fallible ImportDB
  | .person c => db.lift (c.handle env.toSchoolEnv db.toSchoolDB)
  | .student c => db.lift (c.handle env.toSchoolEnv db.toSchoolDB)
  | .teacher c => db.lift (c.handle env.toSchoolEnv db.toSchoolDB)
  | .startImport c => c.handle env db

/-- A failed request leaves no trace. -/
def step (db : ImportDB) (c : IntakeCall) : ImportDB :=
  match c.handle env db with
  | .ok db' => db'
  | .error _ => db

/-- An import that goes through finds no row that it can import. -/
def Quiet (db : ImportDB) : IntakeCall → Prop
  | .startImport c => (∃ db', c.handle env db = .ok db') →
      ∀ schoolId ∈ c.ctx.schoolId, ∀ organizationId ∈ c.ctx.organizationId,
        ∀ row ∈ Imports.dataRows env c.content, Raises (Imports.attemptRow env c.ctx
          c.resourceType schoolId organizationId c.draw row) db.toSchoolDB
  | _ => True

end IntakeCall

section Entities

variable {env : SchoolEnv} {db db' : SchoolDB} {clk : Clock} {ctx : RequestContext}

lemma isSome_insert {ρ : Type} {key : ρ → Ulid} {t t' : Table key} {r : ρ}
    (h : t.insert r = some t') (k : Ulid) :
    (t'.get k).isSome ↔ (t.get k).isSome ∨ k = key r := by
  rw [Table.get_insert h]
  split
  · next hk => simp [hk]
  · next hk => simp [hk]

lemma not_isSome_of_insert {ρ : Type} {key : ρ → Ulid} {t t' : Table key} {r : ρ}
    (h : t.insert r = some t') : ¬ (t.get (key r)).isSome := by
  rw [Option.not_isSome_iff_eq_none, Table.get_eq_none]
  exact (Table.insert_eq_some.mp h).1

lemma isSome_put {ρ : Type} {key : ρ → Ulid} {t : Table key} {r : ρ} (k : Ulid) :
    ((t.put r).get k).isSome ↔ (t.get k).isSome := by
  rw [Table.get_put]
  split
  · rw [Option.isSome_map]
  · rfl

lemma has_log {row : AuditLog} (k : RegisterKind) (id : Ulid) :
    k.Has (db.log row) id ↔ k.Has db id := by
  cases k <;> exact Iff.rfl

lemma logged_insert_person {p : Person} {persons : Table Person.id} {row : AuditLog}
    (h : db.persons.insert p = some persons) (hrow : RegisterKind.person.Created p.id row) :
    Journaled db (SchoolDB.log { db with persons := persons } row) := by
  refine logged_of_created rfl hrow (not_isSome_of_insert h) (isSome_insert h) ?_
  intro k hk id
  cases k with
  | person => exact absurd rfl hk
  | student | teacher => exact Iff.rfl

lemma logged_insert_student {s : Student} {students : Table Student.id} {row : AuditLog}
    (h : db.students.insert s = some students) (hrow : RegisterKind.student.Created s.id row) :
    Journaled db (SchoolDB.log { db with students := students } row) := by
  refine logged_of_created rfl hrow (not_isSome_of_insert h) (isSome_insert h) ?_
  intro k hk id
  cases k with
  | student => exact absurd rfl hk
  | person | teacher => exact Iff.rfl

lemma logged_insert_teacher {t : Teacher} {teachers : Table Teacher.id} {row : AuditLog}
    (h : db.teachers.insert t = some teachers) (hrow : RegisterKind.teacher.Created t.id row) :
    Journaled db (SchoolDB.log { db with teachers := teachers } row) := by
  refine logged_of_created rfl hrow (not_isSome_of_insert h) (isSome_insert h) ?_
  intro k hk id
  cases k with
  | teacher => exact absurd rfl hk
  | person | student => exact Iff.rfl

/-- The action of an audit row that says nothing of a creation. -/
def OtherAction (action : String) : Prop := ∀ k : RegisterKind, action ≠ k.action

instance (action : String) : Decidable (OtherAction action) :=
  decidable_of_iff (∀ k ∈ [RegisterKind.person, .student, .teacher], action ≠ k.action)
    ⟨fun h k => h k (by cases k <;> decide), fun h k _ => h k⟩

lemma personSave_logged {old new : Person} {row : AuditLog} (hrow : OtherAction row.action) :
    Yields (Persons.save db old new) fun db' => Journaled db (db'.log row) := by
  simp only [Persons.save, yields_bind, yields_ensure, yields_pure]
  refine fun _ => logged_of_kept rfl hrow fun k id => ?_
  cases k with
  | person => exact isSome_put id
  | student | teacher => exact Iff.rfl

lemma studentSave_logged {old new : Student} {row : AuditLog} (hrow : OtherAction row.action) :
    Yields (Students.save db old new) fun db' => Journaled db (db'.log row) := by
  simp only [Students.save, yields_ite, yields_bind, yields_ensure, yields_pure]
  refine ⟨fun _ => logged_of_kept rfl hrow has_log, fun _ _ => ?_⟩
  refine logged_of_kept rfl hrow fun k id => ?_
  cases k with
  | student => exact isSome_put id
  | person | teacher => exact Iff.rfl

lemma teacherSave_logged {old new : Teacher} {row : AuditLog} (hrow : OtherAction row.action) :
    Yields (Teachers.save db old new) fun db' => Journaled db (db'.log row) := by
  simp only [Teachers.save, yields_ite, yields_bind, yields_ensure, yields_pure]
  refine ⟨fun _ => logged_of_kept rfl hrow has_log, fun _ _ => ?_⟩
  refine logged_of_kept rfl hrow fun k id => ?_
  cases k with
  | teacher => exact isSome_put id
  | person | student => exact Iff.rfl

/-- A request on persons logs who it enters. -/
theorem person_logged (c : PersonCall) : Yields (c.handle env db) (Journaled db) := by
  obtain ⟨ctx, clk, op⟩ := c
  cases op with
  | create data id =>
    simp only [PersonCall.handle, Persons.create, Persons.insertRow, yields_map, yields_bind,
      yields_found, yields_ensure, yields_audit, yields_pure]
    intro organizationId _
    refine .of_forall fun _ _ persons hinsert _ _ => ?_
    exact logged_insert_person hinsert ⟨rfl, rfl, rfl⟩
  | update personId data =>
    simp only [PersonCall.handle, Persons.update, yields_map, yields_bind, yields_ensure,
      yields_audit, yields_pure]
    refine .of_forall fun old _ => .of_forall fun _ => ?_
    exact Yields.imp (personSave_logged (show OtherAction "PERSON_UPDATED" by decide))
      fun _ h _ => h
  | delete personId version =>
    simp only [PersonCall.handle, Persons.delete, yields_bind, yields_ensure, yields_audit]
    refine .of_forall fun old _ => ?_
    exact Yields.imp (personSave_logged (show OtherAction "PERSON_DELETED" by decide))
      fun _ h _ => h
  | merge personId data =>
    simp only [PersonCall.handle, Persons.merge, yields_map, yields_bind, yields_found,
      yields_ensure, yields_audit, yields_pure]
    refine .of_forall fun old _ _ target _ => ?_
    exact Yields.imp (personSave_logged (show OtherAction "PERSON_MERGED" by decide))
      fun _ h _ => h

theorem student_logged (c : StudentCall) : Yields (c.handle env db) (Journaled db) := by
  obtain ⟨ctx, clk, op⟩ := c
  refine RowOp.yields (fun data id => ?_) (fun _ old _ data => ?_) fun _ old _ version => ?_
  · simp only [Students.create, Students.insertRow, yields_bind, yields_found,
      yields_ensureAbsent, yields_ensure, yields_audit, yields_pure]
    intro schoolId _ _ _ _ _ organizationId _ students hinsert _ _
    exact logged_insert_student hinsert ⟨rfl, rfl, rfl⟩
  · simp only [Students.update, yields_bind, yields_ensure, yields_audit, yields_pure]
    exact fun _ => Yields.imp (studentSave_logged (show OtherAction "STUDENT_UPDATED" by decide))
      fun _ h _ => h
  · simp only [Students.delete, yields_bind, yields_ensure, yields_audit]
    exact fun _ => Yields.imp (studentSave_logged (show OtherAction "STUDENT_DELETED" by decide))
      fun _ h _ => h

theorem teacher_logged (c : TeacherCall) : Yields (c.handle env db) (Journaled db) := by
  obtain ⟨ctx, clk, op⟩ := c
  refine RowOp.yields (fun data id => ?_) (fun _ old _ data => ?_) fun _ old _ version => ?_
  · simp only [Teachers.create, Teachers.insertRow, yields_bind, yields_found,
      yields_ensureAbsent, yields_ensure, yields_audit, yields_pure]
    intro schoolId _ _ _ _
    refine .of_forall fun _ organizationId _ _ teachers hinsert _ _ => ?_
    exact logged_insert_teacher hinsert ⟨rfl, rfl, rfl⟩
  · simp only [Teachers.update, yields_bind, yields_ensure, yields_audit, yields_pure]
    refine fun _ => .of_forall fun _ => ?_
    exact Yields.imp (teacherSave_logged (show OtherAction "TEACHER_UPDATED" by decide))
      fun _ h _ => h
  · simp only [Teachers.delete, yields_bind, yields_ensure, yields_audit]
    exact fun _ => Yields.imp (teacherSave_logged (show OtherAction "TEACHER_DELETED" by decide))
      fun _ h _ => h

end Entities

/-! ### Imports -/

section Imports

variable {env : ImportEnv} {db db' : ImportDB} {school₁ school₂ : SchoolDB}

/-- What an import that goes through leaves of the school: what its rows come to. -/
lemma import_school {c : ImportCall} (h : c.handle env db = .ok db') :
    ∃ schoolId organizationId, c.ctx.schoolId = some schoolId ∧
      c.ctx.organizationId = some organizationId ∧
      db'.toSchoolDB = (attempts (Imports.attemptRow env c.ctx c.resourceType schoolId
        organizationId c.draw) (Imports.dataRows env c.content) db.toSchoolDB).2 := by
  obtain ⟨⟨job, _⟩, hstart, rfl⟩ := map_ok.mp h
  obtain ⟨schoolId, hschool, hstart⟩ := bind_ok.mp hstart
  obtain ⟨organizationId, horganization, hstart⟩ := bind_ok.mp hstart
  refine ⟨schoolId, organizationId, found_ok.mp hschool, found_ok.mp horganization, ?_⟩
  -- A job that is stored leaves the school as it was.
  -- A job that is stored leaves the school as it was.
  have hfail : ∀ {job : ImportJob} {db₁ : ImportDB}, Imports.createJob db job = .ok db₁ →
      db₁.toSchoolDB = db.toSchoolDB := by
    intro job db₁ hcreate
    obtain ⟨_, _, hcreate⟩ := bind_ok.mp hcreate
    obtain ⟨importJobs, _, hcreate⟩ := bind_ok.mp hcreate
    obtain ⟨_, _, hcreate⟩ := bind_ok.mp hcreate
    obtain rfl := pure_ok.mp hcreate
    rfl
  unfold Imports.dataRows
  split at hstart
  · -- The file cannot be read.
    next exc hparse =>
    rw [hparse]
    obtain ⟨db₁, hcreate, hstart⟩ := bind_ok.mp hstart
    obtain ⟨_, rfl⟩ := Prod.mk.inj (pure_ok.mp hstart)
    exact hfail hcreate
  · -- It has no rows.
    next hparse =>
    rw [hparse]
    obtain ⟨db₁, hcreate, hstart⟩ := bind_ok.mp hstart
    obtain ⟨_, rfl⟩ := Prod.mk.inj (pure_ok.mp hstart)
    exact hfail hcreate
  · -- Its rows are attempted one by one.
    next rows _ hparse =>
    rw [hparse]
    obtain ⟨errors, hvalidate, hstart⟩ := bind_ok.mp hstart
    obtain ⟨db₁, hcreate, hstart⟩ := bind_ok.mp hstart
    obtain ⟨p, hprocess, hstart⟩ := bind_ok.mp hstart
    obtain ⟨db₂, hupdate, hstart⟩ := bind_ok.mp hstart
    obtain ⟨_, rfl⟩ := Prod.mk.inj (pure_ok.mp hstart)
    obtain ⟨_, _, hupdate⟩ := bind_ok.mp hupdate
    obtain rfl := pure_ok.mp hupdate
    obtain ⟨entries, hrun, _⟩ := Imports.processRows_eq env c.ctx schoolId organizationId c.draw
      ⟨db₁.toSchoolDB, 0, 0, errors⟩ (Imports.cellsPresent_of_validateRows hvalidate)
    obtain rfl := Except.ok.inj (hrun.symm.trans hprocess)
    rw [hfail hcreate]
    rfl

/-- A row that is imported enters an entity, keeps what there is, and logs nothing. -/
lemma rowAdded_register {resourceType : ImportResourceType} {schoolId organizationId : Ulid}
    (h : Imports.RowAdded resourceType schoolId organizationId school₁ school₂) :
    school₂.core.auditLogs = school₁.core.auditLogs ∧
      (∀ (k : RegisterKind) id, k.Has school₁ id → k.Has school₂ id) ∧
      ∃ (k : RegisterKind) (id : Ulid), k.Has school₂ id ∧ ¬ k.Has school₁ id := by
  obtain ⟨hperson, hstudent, hteacher, hrest⟩ := h
  have hpersons : ∀ id, (school₁.persons.get id).isSome → (school₂.persons.get id).isSome := by
    intro id hid
    obtain hsame | ⟨p, hinsert, _⟩ := hperson
    · rwa [hsame]
    · exact (isSome_insert hinsert id).mpr (.inl hid)
  refine ⟨by rw [hrest], ?_⟩
  cases resourceType with
  | students =>
    obtain ⟨s, hinsert, _⟩ := hstudent
    refine ⟨fun k id hid => ?_, .student, s.id, ?_, not_isSome_of_insert hinsert⟩
    · cases k with
      | person => exact hpersons id hid
      | student => exact (isSome_insert hinsert id).mpr (.inl hid)
      | teacher =>
        have hsame : school₂.teachers = school₁.teachers := hteacher
        change (school₂.teachers.get id).isSome
        rwa [hsame]
    · exact (isSome_insert hinsert s.id).mpr (.inr rfl)
  | teachers =>
    obtain ⟨t, hinsert, _⟩ := hteacher
    refine ⟨fun k id hid => ?_, .teacher, t.id, ?_, not_isSome_of_insert hinsert⟩
    · cases k with
      | person => exact hpersons id hid
      | student =>
        have hsame : school₂.students = school₁.students := hstudent
        change (school₂.students.get id).isSome
        rwa [hsame]
      | teacher => exact (isSome_insert hinsert id).mpr (.inl hid)
    · exact (isSome_insert hinsert t.id).mpr (.inr rfl)

/-- What rows that are imported one after another do to the register. -/
lemma steps_register {resourceType : ImportResourceType} {schoolId organizationId : Ulid}
    {rows : List (CsvRow × ℕ)}
    (h : Steps (fun _ => Imports.RowAdded resourceType schoolId organizationId) rows
      school₁ school₂) :
    school₂.core.auditLogs = school₁.core.auditLogs ∧
      (∀ (k : RegisterKind) id, k.Has school₁ id → k.Has school₂ id) ∧
      (rows ≠ [] → ∃ (k : RegisterKind) (id : Ulid), k.Has school₂ id ∧ ¬ k.Has school₁ id) := by
  induction h with
  | nil s => exact ⟨rfl, fun _ _ hid => hid, fun hne => absurd rfl hne⟩
  | cons step rest ih =>
    obtain ⟨hlogs, hkeep, k, id, hnew, hold⟩ := rowAdded_register step
    obtain ⟨hlogs', hkeep', -⟩ := ih
    exact ⟨hlogs'.trans hlogs, fun k id hid => hkeep' k id (hkeep k id hid),
      fun _ => ⟨k, id, hkeep' k id hnew, hold⟩⟩

/-- **An import and the log**: what an import that goes through does is logged exactly if it finds
no row that it can import. -/
lemma import_logged_iff {c : ImportCall} (h : c.handle env db = .ok db') :
    Journaled db.toSchoolDB db'.toSchoolDB ↔ (IntakeCall.startImport c).Quiet env db := by
  obtain ⟨schoolId, organizationId, hschool, horganization, hdb⟩ := import_school h
  have hquiet : (IntakeCall.startImport c).Quiet env db ↔ succeeded (attempts
      (Imports.attemptRow env c.ctx c.resourceType schoolId organizationId c.draw)
      (Imports.dataRows env c.content) db.toSchoolDB).1 = [] := by
    rw [succeeded_eq_nil]
    simp [IntakeCall.Quiet, h, hschool, horganization]
  have hreplay := attempts_replay (f := Imports.attemptRow env c.ctx c.resourceType schoolId
    organizationId c.draw) (l := Imports.dataRows env c.content) (s := db.toSchoolDB)
  rw [hquiet, hdb]
  constructor
  · intro hlogged
    by_contra hne
    have hsteps := hreplay.mono fun row db₁ db₂ hrow =>
      Imports.importRow_ok (Imports.attemptRow_ok.mp hrow).2
    obtain ⟨hlogs, -, hnew⟩ := steps_register hsteps
    obtain ⟨k, id, hhas, hnot⟩ := hnew hne
    exact logged_of_silent hlogs hhas hnot hlogged
  · intro hnil
    rw [hnil] at hreplay
    generalize (attempts _ _ db.toSchoolDB).2 = left at hreplay
    cases hreplay
    exact .refl _

end Imports

/-! ### Runs -/

section Steps

variable {env : ImportEnv}

/-- A request logs what it enters, unless it is an import that finds a row it can import. -/
lemma step_logged_iff (db : ImportDB) (c : IntakeCall) :
    Journaled db.toSchoolDB (c.step env db).toSchoolDB ↔ c.Quiet env db := by
  unfold IntakeCall.step
  cases h : c.handle env db with
  | error e =>
    refine iff_of_true (.refl _) ?_
    cases c with
    | person | student | teacher => trivial
    | startImport c =>
      rintro ⟨db', hok⟩
      cases h.symm.trans hok
  | ok db' =>
    cases c with
    | person c =>
      obtain ⟨school, hschool, rfl⟩ := map_ok.mp h
      exact iff_of_true (person_logged _ _ hschool) trivial
    | student c =>
      obtain ⟨school, hschool, rfl⟩ := map_ok.mp h
      exact iff_of_true (student_logged _ _ hschool) trivial
    | teacher c =>
      obtain ⟨school, hschool, rfl⟩ := map_ok.mp h
      exact iff_of_true (teacher_logged _ _ hschool) trivial
    | startImport c => exact import_logged_iff h

/-- **Nothing enters the register unlogged**, in the runs of which no import finds a row that it can
import, and in no others: every transaction logs what it enters, and in every state each entity was
logged as created, and no other. -/
theorem register_logged_iff (env : ImportEnv) (db : ImportDB) (l : List IntakeCall)
    (hdb : Matched db.toSchoolDB) :
    (Along (IntakeCall.step env)
        (fun db c => Journaled db.toSchoolDB (c.step env db).toSchoolDB) db l ∧
      ∀ m, m <+: l → Matched (run (IntakeCall.step env) db m).toSchoolDB) ↔
      Along (IntakeCall.step env) (IntakeCall.Quiet env) db l := by
  constructor
  · rintro ⟨hlogged, -⟩
    exact hlogged.imp fun db c => (step_logged_iff db c).mp
  · intro hquiet
    refine ⟨hquiet.imp fun db c => (step_logged_iff db c).mpr, ?_⟩
    rintro m ⟨rest, rfl⟩
    refine invariant (I := fun db => Matched db.toSchoolDB)
      (fun db c hc => ((step_logged_iff db c).mpr hc).matched) ?_ hdb
    exact hquiet.of_append

end Steps

/-- A school whose register is empty. -/
def unregistered : ImportDB :=
  { smallSchool.withoutImports with
    persons := .empty _, students := .empty _, teachers := .empty _ }

lemma unregistered_matched : Matched unregistered.toSchoolDB := by
  intro k id
  refine iff_of_false ?_ ?_
  · cases k <;> exact Bool.false_ne_true
  · rintro ⟨row, hrow, _⟩
    cases hrow

/-- The request that imports a student, the status left out with its column. -/
def importOne : ImportCall where
  ctx := staff
  clk := ⟨0, 0⟩
  resourceType := .students
  content := Imports.oneStudent "first_name,admission_number,admission_date"
  filename := "students.csv"
  id := 901
  draw n := (.ofNat (910 + n), .ofNat (950 + n))

theorem register_logged_dana :
    Along (IntakeCall.step .plain)
        (fun db c => Journaled db.toSchoolDB (c.step .plain db).toSchoolDB) unregistered
        [.person (enterDana none)] ∧
      ∀ m, m <+: [.person (enterDana none)] →
        Matched (run (IntakeCall.step .plain) unregistered m).toSchoolDB :=
  (register_logged_iff .plain unregistered [.person (enterDana none)] unregistered_matched).mpr
    ⟨trivial, trivial⟩

/-- The student of a file enters the register, and the log is as empty as before. -/
theorem import_unlogged : ¬ ∀ (env : ImportEnv) (db : ImportDB) (l : List IntakeCall),
    Matched db.toSchoolDB → Along (IntakeCall.step env)
        (fun db c => Journaled db.toSchoolDB (c.step env db).toSchoolDB) db l ∧
      ∀ m, m <+: l → Matched (run (IntakeCall.step env) db m).toSchoolDB := by
  intro claim
  obtain ⟨⟨hlogged, -⟩, -⟩ :=
    claim .plain unregistered [.startImport importOne] unregistered_matched
  have hlogs : ((IntakeCall.startImport importOne).step .plain unregistered).core.auditLogs =
      unregistered.core.auditLogs := by
    decide +kernel
  have hnew : (((IntakeCall.startImport importOne).step .plain unregistered).students.get
      952).isSome := by
    decide +kernel
  exact logged_of_silent (k := .student) hlogs hnew Bool.false_ne_true hlogged

end SchoolOs
