import SchoolOs.SchoolRequests

/-!
What requests leave alone: the rows of every school but the one they are of.
-/

namespace SchoolOs

variable {env : SchoolEnv} {ctx : RequestContext} {clk : Clock} {s : Ulid} {db db' : SchoolDB}

/-- A request of another school leaves the rows of the school. -/
def Untouched (s : Ulid) (ctx : RequestContext) (db db' : SchoolDB) : Prop :=
  ctx.schoolId ≠ some s → db'.rowsOf s = db.rowsOf s

lemma Untouched.refl (db : SchoolDB) : Untouched s ctx db db := fun _ => rfl

lemma Untouched.trans {db'' : SchoolDB} (h : Untouched s ctx db db')
    (h' : Untouched s ctx db' db'') : Untouched s ctx db db'' :=
  fun hs => (h' hs).trans (h hs)

/-- The audit row of a request is of its school. -/
lemma rowsOf_log (hs : ctx.schoolId ≠ some s) (entry : AuditEntry) :
    (db.log (auditRow ctx entry)).rowsOf s = db.rowsOf s := by
  have hrow : decide ((auditRow ctx entry).schoolId = some s) = false := decide_eq_false hs
  simp [SchoolDB.rowsOf, SchoolDB.log, DB.log, List.filter_append, hrow]

lemma Untouched.log (h : Untouched s ctx db db') (entry : AuditEntry) :
    Untouched s ctx db (db'.log (auditRow ctx entry)) :=
  fun hs => (rowsOf_log hs entry).trans (h hs)

/-- What a request that is none of the attendance does: it also leaves the registers. -/
structure Within (s : Ulid) (ctx : RequestContext) (db db' : SchoolDB) : Prop where
  others : Untouched s ctx db db'
  sessions : db'.attendanceSessions = db.attendanceSessions
  records : db'.attendanceRecords = db.attendanceRecords

lemma Within.refl (db : SchoolDB) : Within s ctx db db := ⟨.refl db, rfl, rfl⟩

lemma Within.trans {db'' : SchoolDB} (h : Within s ctx db db') (h' : Within s ctx db' db'') :
    Within s ctx db db'' :=
  ⟨h.others.trans h'.others, h'.sessions.trans h.sessions, h'.records.trans h.records⟩

lemma Within.log (h : Within s ctx db db') (entry : AuditEntry) :
    Within s ctx db (db'.log (auditRow ctx entry)) :=
  ⟨h.others.log entry, h.sessions, h.records⟩

/-! ### Tables -/

section Tables

variable {ρ : Type} {key : ρ → Ulid} {t t' : Table key} {owner : ρ → Ulid} {r row old : ρ}

/-- A table shows the school the same rows. -/
def Spares (s : Ulid) (ctx : RequestContext) (owner : ρ → Ulid) (t t' : Table key) : Prop :=
  ctx.schoolId ≠ some s → t'.rowsOf owner s = t.rowsOf owner s

lemma ne_of_school {o : Ulid} (hctx : ctx.schoolId = some o) (hs : ctx.schoolId ≠ some s) : o ≠ s :=
  fun h => hs (h ▸ hctx)

lemma spares_insert (h : t.insert r = some t') (hctx : ctx.schoolId = some (owner r)) :
    Spares s ctx owner t t' :=
  fun hs => Table.rowsOf_insert h (ne_of_school hctx hs)

lemma spares_put (hold : old ∈ t) (hk : key old = key row) (howner : owner row = owner old)
    (hctx : ctx.schoolId = some (owner old)) : Spares s ctx owner t (t.put row) :=
  fun hs => Table.rowsOf_put hold hk howner (ne_of_school hctx hs)

lemma spares_delete (hold : old ∈ t) (hctx : ctx.schoolId = some (owner old)) :
    Spares s ctx owner t (t.delete (key old)) :=
  fun hs => Table.rowsOf_delete hold (ne_of_school hctx hs)

end Tables

/-- A table whose rows are of schools: where it stands in the database. What is written to it shows
in the rows of a school only as far as it is of the school, and the registers stay. -/
structure OwnedTable (ρ : Type) where
  id : ρ → Ulid
  school : ρ → Ulid
  rows : SchoolDB → Table id
  place : SchoolDB → Table id → SchoolDB
  rowsOf_place : ∀ {db t s}, t.rowsOf school s = (rows db).rowsOf school s →
    (place db t).rowsOf s = db.rowsOf s := by
      intro db t s h
      simp [SchoolDB.rowsOf, h]
  registers_place : ∀ db t, (place db t).attendanceSessions = db.attendanceSessions ∧
    (place db t).attendanceRecords = db.attendanceRecords := by
      exact fun _ _ => ⟨rfl, rfl⟩

namespace OwnedTable

variable {ρ : Type} (k : OwnedTable ρ) {t : Table k.id} {old new r : ρ}

/-- **One statement on one table.** -/
lemma within_place (h : Spares s ctx k.school (k.rows db) t) : Within s ctx db (k.place db t) :=
  ⟨fun hs => k.rowsOf_place (h hs), (k.registers_place db t).1, (k.registers_place db t).2⟩

lemma within_insert (h : (k.rows db).insert r = some t) (hctx : ctx.schoolId = some (k.school r)) :
    Within s ctx db (k.place db t) :=
  k.within_place (spares_insert h hctx)

lemma within_delete (hold : old ∈ k.rows db) (hctx : ctx.schoolId = some (k.school old)) :
    Within s ctx db (k.place db ((k.rows db).delete (k.id old))) :=
  k.within_place (spares_delete hold hctx)

/-- What the flush of a changed row does: nothing, or it writes a row with the key and the school
of the changed one. -/
def Saves (save : SchoolDB → ρ → ρ → Fallible SchoolDB) : Prop :=
  ∀ db old new, Yields (save db old new) fun db' => db' = db ∨
    ∃ row, k.id row = k.id new ∧ k.school row = k.school new ∧
      db' = k.place db ((k.rows db).put row)

variable {k} {save : SchoolDB → ρ → ρ → Fallible SchoolDB}

/-- **One flush**: a row that keeps its key and its school. -/
lemma Saves.within (h : k.Saves save) (hold : old ∈ k.rows db) (hid : k.id old = k.id new)
    (hschool : k.school new = k.school old) (hctx : ctx.schoolId = some (k.school old)) :
    Yields (save db old new) (Within s ctx db) := by
  intro db' hsave
  rcases h db old new db' hsave with rfl | ⟨row, hrow, howner, rfl⟩
  · exact .refl _
  · exact k.within_place (spares_put hold (hid.trans hrow.symm) (howner.trans hschool) hctx)

variable [DecidableEq ρ] (touch : ρ → ρ) (check : SchoolDB → ρ → ρ → Fallible Unit)

lemma saves_guarded (hid : ∀ r, k.id (touch r) = k.id r)
    (hschool : ∀ r, k.school (touch r) = k.school r) : k.Saves fun db old new =>
      if new = old then return db
      else do
        check db old new
        return k.place db ((k.rows db).put (touch new)) := by
  intro db old new
  simp only [yields_ite, yields_bind, yields_pure]
  exact ⟨fun _ => .inl trivial, fun _ => .of_forall fun _ =>
    .inr ⟨touch new, hid new, hschool new, rfl⟩⟩

lemma saves_flushed (hid : ∀ r, k.id (touch r) = k.id r)
    (hschool : ∀ r, k.school (touch r) = k.school r) : k.Saves fun db old new => do
      check db old new
      return k.place db ((k.rows db).put (flushed touch old new)) := by
  intro db old new
  simp only [yields_bind, yields_pure]
  exact .of_forall fun _ => .inr ⟨flushed touch old new, flushed_col touch k.id hid old new,
    flushed_col touch k.school hschool old new, rfl⟩

end OwnedTable

lemma within_persons (t : Table Person.id) : Within s ctx db { db with persons := t } :=
  ⟨fun _ => rfl, rfl, rfl⟩

/-! The tables of a school. -/

namespace OwnedTable

abbrev academicYears : OwnedTable AcademicYear where
  id := AcademicYear.id
  school := AcademicYear.schoolId
  rows := SchoolDB.academicYears
  place db t := { db with academicYears := t }

abbrev academicTerms : OwnedTable AcademicTerm where
  id := AcademicTerm.id
  school := AcademicTerm.schoolId
  rows := SchoolDB.academicTerms
  place db t := { db with academicTerms := t }

abbrev academicClasses : OwnedTable AcademicClass where
  id := AcademicClass.id
  school := AcademicClass.schoolId
  rows := SchoolDB.academicClasses
  place db t := { db with academicClasses := t }

abbrev subjects : OwnedTable Subject where
  id := Subject.id
  school := Subject.schoolId
  rows := SchoolDB.subjects
  place db t := { db with subjects := t }

abbrev classSubjects : OwnedTable ClassSubject where
  id := ClassSubject.id
  school := ClassSubject.schoolId
  rows := SchoolDB.classSubjects
  place db t := { db with classSubjects := t }

abbrev cohorts : OwnedTable Cohort where
  id := Cohort.id
  school := Cohort.schoolId
  rows := SchoolDB.cohorts
  place db t := { db with cohorts := t }

abbrev students : OwnedTable Student where
  id := Student.id
  school := Student.schoolId
  rows := SchoolDB.students
  place db t := { db with students := t }

abbrev parents : OwnedTable Parent where
  id := Parent.id
  school := Parent.schoolId
  rows := SchoolDB.parents
  place db t := { db with parents := t }

abbrev enrollments : OwnedTable StudentEnrollment where
  id := StudentEnrollment.id
  school := StudentEnrollment.schoolId
  rows := SchoolDB.enrollments
  place db t := { db with enrollments := t }

abbrev teachers : OwnedTable Teacher where
  id := Teacher.id
  school := Teacher.schoolId
  rows := SchoolDB.teachers
  place db t := { db with teachers := t }

abbrev teacherAssignments : OwnedTable TeacherAssignment where
  id := TeacherAssignment.id
  school := TeacherAssignment.schoolId
  rows := SchoolDB.teacherAssignments
  place db t := { db with teacherAssignments := t }

abbrev timetables : OwnedTable Timetable where
  id := Timetable.id
  school := Timetable.schoolId
  rows := SchoolDB.timetables
  place db t := { db with timetables := t }

abbrev periodDefinitions : OwnedTable PeriodDefinition where
  id := PeriodDefinition.id
  school := PeriodDefinition.schoolId
  rows := SchoolDB.periodDefinitions
  place db t := { db with periodDefinitions := t }

abbrev timetableSlots : OwnedTable TimetableSlot where
  id := TimetableSlot.id
  school := TimetableSlot.schoolId
  rows := SchoolDB.timetableSlots
  place db t := { db with timetableSlots := t }

end OwnedTable

lemma academicYears_saves : OwnedTable.academicYears.Saves AcademicYears.save :=
  OwnedTable.saves_guarded AcademicYear.touch _ (fun _ => rfl) (fun _ => rfl)

lemma academicTerms_saves : OwnedTable.academicTerms.Saves AcademicTerms.save :=
  OwnedTable.saves_guarded AcademicTerm.touch _ (fun _ => rfl) (fun _ => rfl)

lemma academicClasses_saves : OwnedTable.academicClasses.Saves AcademicClasses.save :=
  OwnedTable.saves_guarded AcademicClass.touch _ (fun _ => rfl) (fun _ => rfl)

lemma subjects_saves : OwnedTable.subjects.Saves Subjects.save :=
  OwnedTable.saves_guarded Subject.touch _ (fun _ => rfl) (fun _ => rfl)

lemma cohorts_saves : OwnedTable.cohorts.Saves Cohorts.save :=
  OwnedTable.saves_flushed Cohort.touch _ (fun _ => rfl) (fun _ => rfl)

lemma students_saves : OwnedTable.students.Saves Students.save :=
  OwnedTable.saves_guarded Student.touch _ (fun _ => rfl) (fun _ => rfl)

lemma parents_saves : OwnedTable.parents.Saves Parents.save :=
  OwnedTable.saves_guarded Parent.touch _ (fun _ => rfl) (fun _ => rfl)

lemma enrollments_saves : OwnedTable.enrollments.Saves Enrollments.save := by
  intro db old new
  simp only [Enrollments.save, yields_ite, yields_bind, yields_ensure, yields_ensureAbsent,
    yields_pure]
  exact ⟨fun _ => .inl trivial, fun _ _ _ => .inr ⟨new.touch, rfl, rfl, rfl⟩⟩

lemma teachers_saves : OwnedTable.teachers.Saves Teachers.save :=
  OwnedTable.saves_guarded Teacher.touch _ (fun _ => rfl) (fun _ => rfl)

lemma assignments_saves : OwnedTable.teacherAssignments.Saves Assignments.save :=
  OwnedTable.saves_guarded TeacherAssignment.touch _ (fun _ => rfl) (fun _ => rfl)

lemma timetables_saves : OwnedTable.timetables.Saves Timetables.save :=
  OwnedTable.saves_flushed Timetable.touch _ (fun _ => rfl) (fun _ => rfl)

lemma periods_saves : OwnedTable.periodDefinitions.Saves Periods.save :=
  OwnedTable.saves_guarded id _ (fun _ => rfl) (fun _ => rfl)

lemma slots_saves : OwnedTable.timetableSlots.Saves Slots.save :=
  OwnedTable.saves_flushed TimetableSlot.touch _ (fun _ => rfl) (fun _ => rfl)

/-! ### Years and terms -/

lemma yearInsert_within {year : AcademicYear} (hctx : ctx.schoolId = some year.schoolId) :
    Yields (AcademicYears.insertRow db year) (Within s ctx db) := by
  simp only [AcademicYears.insertRow, yields_bind, yields_found, yields_ensure, yields_pure]
  exact fun _ hinsert _ => OwnedTable.academicYears.within_insert hinsert hctx

lemma unsetCurrent_within {schoolId : Ulid} (hctx : ctx.schoolId = some schoolId) (yearId : Ulid) :
    Within s ctx db (unsetCurrent db schoolId yearId) := by
  refine OwnedTable.academicYears.within_place fun hs =>
    Table.rowsOf_setWhere (fun _ => rfl) fun y _ hy => ?_
  obtain rfl := (of_decide_eq_true hy).1
  exact ne_of_school hctx hs

lemma selected_within {schoolId : Ulid} (hctx : ctx.schoolId = some schoolId) (c : Prop)
    [Decidable c] (yearId : Ulid) :
    Within s ctx db (if c then unsetCurrent db schoolId yearId else db) := by
  split
  · exact unsetCurrent_within hctx yearId
  · exact .refl db

lemma year_within {op : RowOp AcademicYearCreate AcademicYearUpdate} : Yields
    (op.handle (AcademicYears.create env ctx db) (AcademicYears.getOwned ctx db)
      (AcademicYears.update env ctx db) (AcademicYears.delete env clk ctx db))
    (Within s ctx db) := by
  refine RowOp.yields (fun data id => ?_) (fun _ year howned data => ?_)
    fun _ year howned version => ?_
  · simp only [AcademicYears.create, yields_bind, yields_found, yields_ensureAbsent, yields_audit,
      yields_pure]
    intro schoolId hctx _ organizationId _
    exact Yields.imp (yearInsert_within hctx) fun _ h _ =>
      (h.trans (selected_within hctx _ id)).log _
  · obtain ⟨hctx, hmem, _⟩ := yearOwned_ok howned
    simp only [AcademicYears.update, yields_bind, yields_found, yields_ensure, yields_audit,
      yields_pure]
    intro _
    refine Yields.imp (academicYears_saves.within (s := s) hmem rfl rfl hctx) ?_
    exact fun _ h schoolId hschool _ => (h.trans (selected_within hschool _ year.id)).log _
  · obtain ⟨hctx, hmem, _⟩ := yearOwned_ok howned
    simp only [AcademicYears.delete, yields_bind, yields_ensure, yields_audit]
    exact fun _ => Yields.imp (academicYears_saves.within hmem rfl rfl hctx) fun _ h _ => h.log _

lemma term_within {op : RowOp AcademicTermCreate AcademicTermUpdate} : Yields
    (op.handle (AcademicTerms.create env ctx db) (AcademicTerms.getOwned ctx db)
      (AcademicTerms.update env ctx db) (AcademicTerms.delete env clk ctx db))
    (Within s ctx db) := by
  refine RowOp.yields (fun data id => ?_) (fun _ term howned data => ?_)
    fun _ term howned version => ?_
  · simp only [AcademicTerms.create, AcademicTerms.insertRow, yields_bind, yields_found,
      yields_ensureAbsent, yields_ensure, yields_audit, yields_pure]
    intro schoolId hctx _ _
    refine .of_forall fun _ _ organizationId _ _ hinsert _ _ => ?_
    exact (OwnedTable.academicTerms.within_insert hinsert hctx).log _
  · obtain ⟨hmem, _, hctx, _⟩ := owned_mem howned
    simp only [AcademicTerms.update, yields_bind, yields_found, yields_ensure, yields_audit,
      yields_pure]
    intro _ _ _ _ _
    refine .of_forall fun _ => ?_
    exact Yields.imp (academicTerms_saves.within hmem rfl rfl hctx) fun _ h _ => h.log _
  · obtain ⟨hmem, _, hctx, _⟩ := owned_mem howned
    simp only [AcademicTerms.delete, yields_bind, yields_ensure, yields_audit]
    exact fun _ => Yields.imp (academicTerms_saves.within hmem rfl rfl hctx) fun _ h _ => h.log _

/-! ### Classes, subjects, cohorts -/

lemma class_within {op : RowOp AcademicClassCreate AcademicClassUpdate} : Yields
    (op.handle (AcademicClasses.create env ctx db) (AcademicClasses.getOwned ctx db)
      (AcademicClasses.update env ctx db) (AcademicClasses.delete env clk ctx db))
    (Within s ctx db) := by
  refine RowOp.yields (fun data id => ?_) (fun _ row howned data => ?_)
    fun _ row howned version => ?_
  · simp only [AcademicClasses.create, AcademicClasses.insertRow, yields_bind, yields_found,
      yields_ensureAbsent, yields_ensure, yields_audit, yields_pure]
    intro schoolId hctx
    intros
    exact (OwnedTable.academicClasses.within_insert ‹_› hctx).log _
  · obtain ⟨hmem, _, hctx, _⟩ := owned_mem howned
    simp only [AcademicClasses.update, yields_bind, yields_ensure, yields_audit, yields_pure]
    exact fun _ => Yields.imp (academicClasses_saves.within hmem rfl rfl hctx) fun _ h _ => h.log _
  · obtain ⟨hmem, _, hctx, _⟩ := owned_mem howned
    simp only [AcademicClasses.delete, yields_bind, yields_ensure, yields_audit]
    exact fun _ => Yields.imp (academicClasses_saves.within hmem rfl rfl hctx) fun _ h _ => h.log _

lemma subject_within {op : RowOp SubjectCreate SubjectUpdate} : Yields
    (op.handle (Subjects.create env ctx db) (Subjects.getOwned ctx db)
      (Subjects.update env ctx db) (Subjects.delete env clk ctx db))
    (Within s ctx db) := by
  refine RowOp.yields (fun data id => ?_) (fun _ row howned data => ?_)
    fun _ row howned version => ?_
  · simp only [Subjects.create, Subjects.insertRow, yields_bind, yields_found,
      yields_ensureAbsent, yields_ensure, yields_audit, yields_pure]
    intro schoolId hctx
    intros
    exact (OwnedTable.subjects.within_insert ‹_› hctx).log _
  · obtain ⟨hmem, _, hctx, _⟩ := owned_mem howned
    simp only [Subjects.update, yields_bind, yields_ensure, yields_audit, yields_pure]
    exact fun _ => Yields.imp (subjects_saves.within hmem rfl rfl hctx) fun _ h _ => h.log _
  · obtain ⟨hmem, _, hctx, _⟩ := owned_mem howned
    simp only [Subjects.delete, yields_bind, yields_ensure, yields_audit]
    exact fun _ => Yields.imp (subjects_saves.within hmem rfl rfl hctx) fun _ h _ => h.log _

lemma cohort_within {op : RowOp CohortCreate CohortUpdate} : Yields
    (op.handle (Cohorts.create env ctx db) (Cohorts.getOwned ctx db)
      (Cohorts.update env ctx db) (Cohorts.delete env clk ctx db))
    (Within s ctx db) := by
  refine RowOp.yields (fun data id => ?_) (fun _ row howned data => ?_)
    fun _ row howned version => ?_
  · simp only [Cohorts.create, Cohorts.insertRow, yields_bind, yields_found,
      yields_ensureAbsent, yields_ensure, yields_audit, yields_pure]
    intro schoolId hctx
    intros
    exact (OwnedTable.cohorts.within_insert ‹_› hctx).log _
  · obtain ⟨hmem, _, hctx, _⟩ := owned_mem howned
    simp only [Cohorts.update, yields_bind, yields_ensure, yields_audit, yields_pure]
    exact fun _ => Yields.imp (cohorts_saves.within hmem rfl rfl hctx) fun _ h _ => h.log _
  · obtain ⟨hmem, _, hctx, _⟩ := owned_mem howned
    simp only [Cohorts.delete, yields_bind, yields_ensure, yields_audit]
    exact fun _ => Yields.imp (cohorts_saves.within hmem rfl rfl hctx) fun _ h _ => h.log _

/-! ### People -/

lemma student_within {op : RowOp StudentCreate StudentUpdate} : Yields
    (op.handle (Students.create env ctx db) (Students.getOwned ctx db)
      (Students.update env ctx db) (Students.delete env clk ctx db))
    (Within s ctx db) := by
  refine RowOp.yields (fun data id => ?_) (fun _ row howned data => ?_)
    fun _ row howned version => ?_
  · simp only [Students.create, Students.insertRow, yields_bind, yields_found,
      yields_ensureAbsent, yields_ensure, yields_audit, yields_pure]
    intro schoolId hctx
    intros
    exact (OwnedTable.students.within_insert ‹_› hctx).log _
  · obtain ⟨hmem, _, hctx, _⟩ := owned_mem howned
    simp only [Students.update, yields_bind, yields_ensure, yields_audit, yields_pure]
    exact fun _ => Yields.imp (students_saves.within hmem rfl rfl hctx) fun _ h _ => h.log _
  · obtain ⟨hmem, _, hctx, _⟩ := owned_mem howned
    simp only [Students.delete, yields_bind, yields_ensure, yields_audit]
    exact fun _ => Yields.imp (students_saves.within hmem rfl rfl hctx) fun _ h _ => h.log _

lemma teacher_within {op : RowOp TeacherCreate TeacherUpdate} : Yields
    (op.handle (Teachers.create env ctx db) (Teachers.getOwned ctx db)
      (Teachers.update env ctx db) (Teachers.delete env clk ctx db))
    (Within s ctx db) := by
  refine RowOp.yields (fun data id => ?_) (fun _ row howned data => ?_)
    fun _ row howned version => ?_
  · simp only [Teachers.create, Teachers.insertRow, yields_bind, yields_found,
      yields_ensureAbsent, yields_ensure, yields_audit, yields_pure]
    intro schoolId hctx _ _ _
    refine .of_forall fun _ => ?_
    intros
    exact (OwnedTable.teachers.within_insert ‹_› hctx).log _
  · obtain ⟨hmem, _, hctx, _⟩ := owned_mem howned
    simp only [Teachers.update, yields_bind, yields_ensure, yields_audit, yields_pure]
    refine fun _ => .of_forall fun _ => ?_
    exact Yields.imp (teachers_saves.within hmem rfl rfl hctx) fun _ h _ => h.log _
  · obtain ⟨hmem, _, hctx, _⟩ := owned_mem howned
    simp only [Teachers.delete, yields_bind, yields_ensure, yields_audit]
    exact fun _ => Yields.imp (teachers_saves.within hmem rfl rfl hctx) fun _ h _ => h.log _

lemma parent_within {op : RowOp ParentCreate ParentUpdate} : Yields
    (op.handle (Parents.create env ctx db) (Parents.get ctx db)
      (Parents.update env ctx db) (Parents.delete env clk ctx db))
    (Within s ctx db) := by
  refine RowOp.yields (fun data id => ?_) (fun _ row howned data => ?_)
    fun _ row howned version => ?_
  · simp only [Parents.create, Parents.insertRow, yields_bind, yields_found,
      yields_ensureAbsent, yields_ensure, yields_audit, yields_pure]
    intro schoolId hctx
    intros
    exact (OwnedTable.parents.within_insert ‹_› hctx).log _
  · obtain ⟨hmem, _, hctx, _⟩ := owned_mem howned
    simp only [Parents.update, yields_bind, yields_ensure, yields_audit, yields_pure]
    exact fun _ => Yields.imp (parents_saves.within hmem rfl rfl hctx) fun _ h _ => h.log _
  · obtain ⟨hmem, _, hctx, _⟩ := owned_mem howned
    simp only [Parents.delete, yields_bind, yields_ensure, yields_audit]
    exact fun _ => Yields.imp (parents_saves.within hmem rfl rfl hctx) fun _ h _ => h.log _

/-- **Requests on rows that carry keys** leave other schools alone. -/
lemma key_within (c : KeyCall) : Yields (c.handle env db) (Within s c.ctx db) := by
  obtain ⟨ctx, clk, op⟩ := c
  cases op with
  | year op => exact year_within
  | term op => exact term_within
  | academicClass op => exact class_within
  | subject op => exact subject_within
  | cohort op => exact cohort_within
  | student op => exact student_within
  | teacher op => exact teacher_within
  | parent op => exact parent_within

lemma personSave_within {old new : Person} :
    Yields (Persons.save db old new) (Within s ctx db) := by
  intro db' h
  obtain rfl := personSave_ok h
  exact within_persons _

lemma person_within (c : PersonCall) : Yields (c.handle env db) (Within s c.ctx db) := by
  obtain ⟨ctx, clk, op⟩ := c
  cases op with
  | create data id =>
    simp only [PersonCall.handle, Persons.create, Persons.insertRow, yields_map, yields_bind,
      yields_found, yields_ensure, yields_audit, yields_pure]
    intro _ _
    refine .of_forall fun _ => ?_
    intros
    exact (within_persons _).log _
  | update personId data =>
    simp only [PersonCall.handle, Persons.update, yields_map, yields_bind, yields_ensure,
      yields_audit, yields_pure]
    exact .of_forall fun _ _ => .of_forall fun _ =>
      Yields.imp personSave_within fun _ h _ => h.log _
  | delete personId version =>
    simp only [PersonCall.handle, Persons.delete, yields_bind, yields_ensure, yields_audit]
    exact .of_forall fun _ _ => Yields.imp personSave_within fun _ h _ => h.log _
  | merge personId data =>
    simp only [PersonCall.handle, Persons.merge, yields_map, yields_bind, yields_found,
      yields_ensure, yields_audit, yields_pure]
    intro _ _ _ _ _ _
    exact Yields.imp personSave_within fun _ h _ => h.log _

lemma schoolOwned_mem {ρ : Type} {key : ρ → Ulid} {t : Table key} {school : ρ → Ulid}
    {e e' : ApiError} {k : Ulid} {row : ρ}
    (h : (found ctx.schoolId e >>= fun schoolId => found ((t.get k).filter fun r =>
      school r = schoolId) e') = .ok row) : row ∈ t ∧ ctx.schoolId = some (school row) := by
  obtain ⟨schoolId, hctx, hrow⟩ := bind_ok.mp h
  obtain ⟨hget, hschool⟩ := Option.filter_eq_some_iff.mp (found_ok.mp hrow)
  obtain rfl := of_decide_eq_true hschool
  exact ⟨(Table.get_eq_some.mp hget).1, found_ok.mp hctx⟩

lemma assignment_within (c : AssignmentRequest) :
    Yields (Prod.snd <$> c.handle env db) (Within s c.ctx db) := by
  obtain ⟨ctx, clk, op⟩ := c
  cases op with
  | create data id =>
    simp only [AssignmentRequest.handle, Assignments.create, Assignments.insertRow, yields_map,
      yields_bind, yields_found, yields_ensure, yields_audit, yields_pure]
    intro schoolId hctx
    intros
    exact (OwnedTable.teacherAssignments.within_insert ‹_› hctx).log _
  | update assignmentId data =>
    simp only [AssignmentRequest.handle, Assignments.update, yields_map, yields_bind,
      yields_ensure, yields_audit, yields_pure]
    intro a howned _
    obtain ⟨hmem, hctx⟩ := schoolOwned_mem howned
    exact Yields.imp (assignments_saves.within hmem rfl rfl hctx) fun _ h _ => h.log _
  | finish assignmentId version =>
    simp only [AssignmentRequest.handle, Assignments.endAssignment, yields_map, yields_bind,
      yields_ensure, yields_audit, yields_pure]
    intro a howned _
    obtain ⟨hmem, hctx⟩ := schoolOwned_mem howned
    exact Yields.imp (assignments_saves.within hmem rfl rfl hctx) fun _ h _ => h.log _

/-! ### Class subjects and enrollments -/

lemma classSubject_within (c : ClassSubjectCall) :
    Yields (c.handle env db) (Within s c.ctx db) := by
  obtain ⟨ctx, op⟩ := c
  cases op with
  | create data id =>
    simp only [ClassSubjectCall.handle, ClassSubjects.create, ClassSubjects.insertRow, yields_map,
      yields_bind, yields_found, yields_ensure, yields_ensureAbsent, yields_audit, yields_pure]
    intro schoolId hctx
    intros
    exact (OwnedTable.classSubjects.within_insert ‹_› hctx).log _
  | delete classSubjectId =>
    simp only [ClassSubjectCall.handle, ClassSubjects.delete, yields_bind, yields_audit]
    intro cs howned _
    obtain ⟨hmem, hctx⟩ := schoolOwned_mem howned
    exact (OwnedTable.classSubjects.within_delete hmem hctx).log _

lemma enrollmentInsert_within {mapped : EnrollmentIndex → ApiError} {e : StudentEnrollment}
    (hctx : ctx.schoolId = some e.schoolId) :
    Yields (Enrollments.insertRow db mapped e) (Within s ctx db) := by
  simp only [Enrollments.insertRow, yields_bind, yields_found, yields_ensure, yields_ensureAbsent,
    yields_pure]
  exact fun _ _ hinsert _ _ => OwnedTable.enrollments.within_insert hinsert hctx

lemma enrollment_within (c : EnrollmentCall) :
    Yields (c.handle env db) (Within s c.ctx db) := by
  obtain ⟨ctx, op⟩ := c
  cases op with
  | create data id =>
    simp only [EnrollmentCall.handle, Enrollments.create, yields_map, yields_bind, yields_found,
      yields_audit, yields_pure]
    intro schoolId hcheck _ _
    exact Yields.imp (enrollmentInsert_within (enrollmentCheck_ok hcheck).1) fun _ h _ => h.log _
  | update enrollmentId data =>
    simp only [EnrollmentCall.handle, Enrollments.update, yields_map, yields_bind, yields_ensure,
      yields_audit, yields_pure]
    intro e howned _ _
    obtain ⟨hctx, hmem, _⟩ := enrollmentOwned_ok howned
    exact Yields.imp (enrollments_saves.within hmem rfl rfl hctx) fun _ h _ => h.log _
  | transfer enrollmentId data id =>
    simp only [EnrollmentCall.handle, Enrollments.transfer, yields_map, yields_bind, yields_found,
      yields_audit, yields_pure]
    intro old htransferable
    obtain ⟨hctx, hmem, _⟩ := enrollmentOwned_ok (transferable_ok htransferable).1
    refine Yields.imp (enrollments_saves.within (s := s) hmem rfl rfl hctx) fun _ h _ _ _ => ?_
    exact Yields.imp (enrollmentInsert_within hctx) fun _ h' _ => ((h.log _).trans h').log _
  | delete enrollmentId version =>
    simp only [EnrollmentCall.handle, Enrollments.delete, yields_bind, yields_ensure, yields_audit]
    intro e howned _ _ _ _
    obtain ⟨hctx, hmem, _⟩ := enrollmentOwned_ok howned
    exact (OwnedTable.enrollments.within_delete hmem hctx).log _

/-! ### Timetables, periods, slots -/

/-- The timetable that is replaced is of the school of the one that replaces it, which stays. -/
lemma replace_within {tt : Timetable} (hmem : tt ∈ db.timetables)
    (hctx : ctx.schoolId = some tt.schoolId) :
    Yields (Timetables.replacePublished env clk ctx db tt
      (getPublishedTimetableForYear db tt.schoolId tt.academicYearId tt.id))
      fun db' => Within s ctx db db' ∧ tt ∈ db'.timetables := by
  cases hexisting : getPublishedTimetableForYear db tt.schoolId tt.academicYearId tt.id with
  | none => exact yields_pure.mpr ⟨.refl db, hmem⟩
  | some old =>
    unfold getPublishedTimetableForYear at hexisting
    have hfound := List.find?_some hexisting
    rw [decide_eq_true_eq] at hfound
    obtain ⟨hschool, _, _, hother⟩ := hfound
    have hold : old ∈ db.timetables := List.mem_of_find?_eq_some hexisting
    simp only [Timetables.replacePublished, yields_bind, yields_audit]
    intro db1 hsave _
    have hid := flushed_col Timetable.touch Timetable.id (fun _ => rfl) old
      (Timetables.archived clk ctx old)
    have hctx' : ctx.schoolId = some old.schoolId := hctx.trans (congrArg some hschool.symm)
    have hwithin : Yields (Timetables.save db old (Timetables.archived clk ctx old))
        (Within s ctx db) := timetables_saves.within hold rfl rfl hctx'
    have hsaved := hwithin db1 hsave
    obtain ⟨_, _, hsave⟩ := bind_ok.mp hsave
    obtain rfl := pure_ok.mp hsave
    refine ⟨hsaved.log _, Table.mem_put.mpr (.inl ⟨hmem, fun h => hother ?_⟩)⟩
    exact (h.trans hid).symm

lemma timetable_within (c : TimetableCall) : Yields (c.handle env db) (Within s c.ctx db) := by
  obtain ⟨ctx, clk, op⟩ := c
  cases op with
  | create data id =>
    simp only [TimetableCall.handle, Timetables.create, Timetables.insertRow, yields_map,
      yields_bind, yields_found, yields_ensure, yields_audit, yields_pure]
    intro schoolId hctx _ _ _ hinsert _ _
    exact (OwnedTable.timetables.within_insert hinsert hctx).log _
  | update timetableId data =>
    simp only [TimetableCall.handle, Timetables.update, yields_map, yields_bind, yields_ensure,
      yields_audit, yields_pure]
    intro tt howned _ _
    obtain ⟨hmem, hctx⟩ := schoolOwned_mem howned
    exact Yields.imp (timetables_saves.within hmem rfl rfl hctx) fun _ h _ => h.log _
  | publish timetableId version =>
    simp only [TimetableCall.handle, Timetables.publish_eq, yields_map, yields_bind, yields_ensure,
      yields_ite, yields_audit, yields_pure]
    intro tt howned _ _
    obtain ⟨hmem, hctx⟩ := schoolOwned_mem howned
    refine ⟨fun _ => .refl db, fun _ => Yields.imp (replace_within (s := s) hmem hctx) ?_⟩
    rintro db1 ⟨hreplaced, hmem1⟩
    exact Yields.imp (timetables_saves.within hmem1 rfl rfl hctx) fun _ h _ =>
      (hreplaced.trans h).log _
  | archive timetableId version =>
    simp only [TimetableCall.handle, Timetables.archive, yields_map, yields_bind, yields_ensure,
      yields_audit, yields_pure]
    intro tt howned _ _
    obtain ⟨hmem, hctx⟩ := schoolOwned_mem howned
    exact Yields.imp (timetables_saves.within hmem rfl rfl hctx) fun _ h _ => h.log _

lemma period_within (c : PeriodCall) : Yields (c.handle env db) (Within s c.ctx db) := by
  obtain ⟨ctx, op⟩ := c
  cases op with
  | create data id =>
    simp only [PeriodCall.handle, Periods.create, Periods.insertRow, yields_map, yields_bind,
      yields_found, yields_ensure, yields_ensureAbsent, yields_audit, yields_pure]
    intro schoolId hctx _ _ _ _ hinsert _ _
    exact (OwnedTable.periodDefinitions.within_insert hinsert hctx).log _
  | update periodId data =>
    simp only [PeriodCall.handle, Periods.update, yields_map, yields_bind, yields_audit,
      yields_pure]
    intro period howned
    obtain ⟨hmem, hctx⟩ := schoolOwned_mem howned
    exact Yields.imp (periods_saves.within hmem rfl rfl hctx) fun _ h _ => h.log _
  | delete periodId =>
    simp only [PeriodCall.handle, Periods.delete, yields_bind, yields_ensure, yields_audit]
    intro period howned _ _ _
    obtain ⟨hmem, hctx⟩ := schoolOwned_mem howned
    exact (OwnedTable.periodDefinitions.within_delete hmem hctx).log _

lemma slot_within (c : SlotCall) : Yields (c.handle env db) (Within s c.ctx db) := by
  obtain ⟨ctx, clk, op⟩ := c
  cases op with
  | create data id =>
    simp only [SlotCall.handle, Slots.create, Slots.insertRow, yields_map, yields_bind,
      yields_found, yields_ensure, yields_audit, yields_pure]
    intro schoolId hctx
    refine .of_forall fun _ _ => .of_forall fun _ => ?_
    intros
    exact (OwnedTable.timetableSlots.within_insert ‹_› hctx).log _
  | update slotId data =>
    simp only [SlotCall.handle, Slots.update, yields_map, yields_bind, yields_ensure,
      yields_audit, yields_pure]
    intro slot howned _ _ _ _ _ _ _
    obtain ⟨hctx, hmem, _⟩ := slotOwned_ok howned
    exact Yields.imp (slots_saves.within hmem rfl rfl hctx) fun _ h _ => h.log _
  | delete slotId =>
    simp only [SlotCall.handle, Slots.delete, yields_map, yields_bind, yields_audit, yields_pure]
    intro slot howned
    obtain ⟨hctx, hmem, _⟩ := slotOwned_ok howned
    exact Yields.imp (slots_saves.within hmem rfl rfl hctx) fun _ h _ => h.log _

end SchoolOs
