import SchoolOs.References
import SchoolOs.SlotBookings

/-!
Tenant closure of references over runs: which requests keep every row of a school referring only
to rows of that school.
-/

namespace SchoolOs

open Ownership Runs

variable {env : SchoolEnv} {ctx : RequestContext} {db db' : SchoolDB}

/-! ### The school of a reference -/

section SchoolOf

variable (db) (k : Ulid)

lemma schoolOf_academicYears :
    db.schoolOf (.academicYears, k) = (db.academicYears.get k).map AcademicYear.schoolId :=
  ownerOf_view AcademicYear.entry (fun _ => rfl) k rfl

lemma schoolOf_academicClasses :
    db.schoolOf (.academicClasses, k) = (db.academicClasses.get k).map AcademicClass.schoolId :=
  ownerOf_view AcademicClass.entry (fun _ => rfl) k rfl

lemma schoolOf_subjects :
    db.schoolOf (.subjects, k) = (db.subjects.get k).map Subject.schoolId :=
  ownerOf_view Subject.entry (fun _ => rfl) k rfl

lemma schoolOf_cohorts :
    db.schoolOf (.cohorts, k) = (db.cohorts.get k).map Cohort.schoolId :=
  ownerOf_view Cohort.entry (fun _ => rfl) k rfl

lemma schoolOf_students :
    db.schoolOf (.students, k) = (db.students.get k).map Student.schoolId :=
  ownerOf_view Student.entry (fun _ => rfl) k rfl

lemma schoolOf_enrollments :
    db.schoolOf (.enrollments, k) = (db.enrollments.get k).map StudentEnrollment.schoolId :=
  ownerOf_view StudentEnrollment.entry (fun _ => rfl) k rfl

lemma schoolOf_teachers :
    db.schoolOf (.teachers, k) = (db.teachers.get k).map Teacher.schoolId :=
  ownerOf_view Teacher.entry (fun _ => rfl) k rfl

lemma schoolOf_periodDefinitions :
    db.schoolOf (.periodDefinitions, k) =
      (db.periodDefinitions.get k).map PeriodDefinition.schoolId :=
  ownerOf_view PeriodDefinition.entry (fun _ => rfl) k rfl

lemma schoolOf_attendanceSessions :
    db.schoolOf (.attendanceSessions, k) =
      (db.attendanceSessions.get k).map AttendanceSession.schoolId :=
  ownerOf_view AttendanceSession.entry (fun _ => rfl) k rfl

end SchoolOf

lemma there_of_get {ρ : Type} {key : ρ → Ulid} {t : Table key} {col : ρ → Ulid}
    {r : SchoolTable × Ulid} (hcol : db.schoolOf r = (t.get r.2).map col)
    (h : (t.get r.2).isSome) : (db.schoolOf r).isSome := by
  rwa [hcol, Option.isSome_map]

lemma map_of_filter {ρ : Type} {x : Option ρ} {p : ρ → Prop} [DecidablePred p] {r : ρ}
    {col : ρ → Ulid} {schoolId : Ulid} (h : x.filter (fun r => p r) = some r)
    (hp : ∀ r, p r → col r = schoolId) : x.map col = some schoolId := by
  obtain ⟨rfl, hr⟩ := Option.filter_eq_some_iff.mp h
  rw [Option.map_some, hp r (by simpa using hr)]

lemma schoolOf_getYear {schoolId k : Ulid} {y : AcademicYear}
    (h : getYear db schoolId k = some y) : db.schoolOf (.academicYears, k) = some schoolId := by
  rw [schoolOf_academicYears]
  exact map_of_filter h fun _ hp => hp.1

lemma schoolOf_getClass {schoolId k : Ulid} {c : AcademicClass}
    (h : getClass db schoolId k = some c) :
    db.schoolOf (.academicClasses, k) = some schoolId := by
  rw [schoolOf_academicClasses]
  exact map_of_filter h fun _ hp => hp.1

lemma schoolOf_getSubject {schoolId k : Ulid} {s : Subject}
    (h : getSubject db schoolId k = some s) : db.schoolOf (.subjects, k) = some schoolId := by
  rw [schoolOf_subjects]
  exact map_of_filter h fun _ hp => hp.1

lemma schoolOf_getCohort {schoolId k : Ulid} {c : Cohort}
    (h : getCohort db schoolId k = some c) : db.schoolOf (.cohorts, k) = some schoolId := by
  rw [schoolOf_cohorts]
  exact map_of_filter h fun _ hp => hp.1

lemma schoolOf_getStudent {schoolId k : Ulid} {s : Student}
    (h : getStudent db schoolId k = some s) : db.schoolOf (.students, k) = some schoolId := by
  rw [schoolOf_students]
  exact map_of_filter h fun _ hp => hp.1

lemma schoolOf_getTeacher {schoolId k : Ulid} {t : Teacher}
    (h : getTeacher db schoolId k = some t) : db.schoolOf (.teachers, k) = some schoolId := by
  rw [schoolOf_teachers]
  exact map_of_filter h fun _ hp => hp.1

/-! ### Requests that write one row -/

/-- One row more, of the school of the request, all of whose references but those of `left` are
known to be the school's. -/
def Creates (ctx : RequestContext) (db : SchoolDB) (left : List (SchoolTable × Ulid))
    (db' : SchoolDB) : Prop :=
  ∃ i e, ctx.schoolId = some e.owner ∧ Inserts db.entries i e db'.entries ∧
    Checked db.entries e left

lemma Creates.closed_iff {left : List (SchoolTable × Ulid)} (h : Creates ctx db left db')
    (hs : TenantClosed db) : TenantClosed db' ↔ ∀ r ∈ left, db.schoolOf r = ctx.schoolId := by
  obtain ⟨i, e, hctx, hinserts, hchecked⟩ := h
  rw [hctx]
  exact hinserts.closed_of_checked hchecked hs

lemma Creates.of_insert {ρ : Type} {key : ρ → Ulid} {t t' : Table key} (i : SchoolTable)
    (entry : ρ → SchoolEntry) (hf : ∀ r, (entry r).key = key r) {r : ρ}
    {left : List (SchoolTable × Ulid)} (hs : db.entries i = t.view entry hf)
    (hs' : db'.entries i = t'.view entry hf) (hrow : t.insert r = some t')
    (hframe : ∀ j, j ≠ i → db'.entries j = db.entries j)
    (hctx : ctx.schoolId = some (entry r).owner) (hchecked : Checked db.entries (entry r) left) :
    Creates ctx db left db' :=
  ⟨i, entry r, hctx, .of_view entry hf hs hs' hrow hframe, hchecked⟩

lemma unsetCurrent_entries (db : SchoolDB) (schoolId yearId : Ulid) :
    (unsetCurrent db schoolId yearId).entries = db.entries := by
  funext i
  cases i with
  | academicYears =>
    refine Table.ext (Tables.map_setWhere AcademicYear.entry ?_ _)
    exact fun _ => rfl
  | _ => rfl

lemma yearCreate_creates {data : AcademicYearCreate} {id : Ulid} {y : AcademicYear}
    (h : AcademicYears.create env ctx db data id = .ok (y, db')) : Creates ctx db [] db' := by
  obtain ⟨schoolId, hctx, h⟩ := bind_ok.mp h
  obtain ⟨_, _, h⟩ := bind_ok.mp h
  obtain ⟨organizationId, _, h⟩ := bind_ok.mp h
  obtain ⟨db1, hinsert, h⟩ := bind_ok.mp h
  obtain ⟨db2, haudit, h⟩ := bind_ok.mp h
  obtain ⟨years, hrow, hinsert⟩ := bind_ok.mp hinsert
  obtain ⟨_, _, hinsert⟩ := bind_ok.mp hinsert
  obtain rfl := pure_ok.mp hinsert
  obtain ⟨_, rfl⟩ := schoolAudit_ok.mp haudit
  obtain ⟨rfl, rfl⟩ := Prod.mk.inj (pure_ok.mp h)
  refine .of_insert .academicYears AcademicYear.entry (fun _ => rfl) rfl ?_ (found_ok.mp hrow) ?_
    (found_ok.mp hctx) (Owns.checked (by simp [Owns, AcademicYear.entry]))
  · rw [log_entries]
    split
    · exact congrFun (unsetCurrent_entries _ _ _) _
    · rfl
  · intro j hj
    rw [log_entries]
    split
    · rw [unsetCurrent_entries]
      cases j <;> first | rfl | exact absurd rfl hj
    · cases j <;> first | rfl | exact absurd rfl hj

lemma classCreate_creates {data : AcademicClassCreate} {id : Ulid} {c : AcademicClass}
    (h : AcademicClasses.create env ctx db data id = .ok (c, db')) : Creates ctx db [] db' := by
  obtain ⟨schoolId, hctx, h⟩ := bind_ok.mp h
  obtain ⟨_, _, h⟩ := bind_ok.mp h
  obtain ⟨organizationId, _, h⟩ := bind_ok.mp h
  obtain ⟨db1, hinsert, h⟩ := bind_ok.mp h
  obtain ⟨db2, haudit, h⟩ := bind_ok.mp h
  obtain ⟨classes, hrow, hinsert⟩ := bind_ok.mp hinsert
  obtain ⟨_, _, hinsert⟩ := bind_ok.mp hinsert
  obtain rfl := pure_ok.mp hinsert
  obtain ⟨_, rfl⟩ := schoolAudit_ok.mp haudit
  obtain ⟨rfl, rfl⟩ := Prod.mk.inj (pure_ok.mp h)
  refine .of_insert .academicClasses AcademicClass.entry (fun _ => rfl) rfl rfl (found_ok.mp hrow)
    ?_ (found_ok.mp hctx) (Owns.checked (by simp [Owns, AcademicClass.entry]))
  intro j hj
  cases j <;> first | rfl | exact absurd rfl hj

lemma subjectCreate_creates {data : SubjectCreate} {id : Ulid} {s : Subject}
    (h : Subjects.create env ctx db data id = .ok (s, db')) : Creates ctx db [] db' := by
  obtain ⟨schoolId, hctx, h⟩ := bind_ok.mp h
  obtain ⟨_, _, h⟩ := bind_ok.mp h
  obtain ⟨organizationId, _, h⟩ := bind_ok.mp h
  obtain ⟨db1, hinsert, h⟩ := bind_ok.mp h
  obtain ⟨db2, haudit, h⟩ := bind_ok.mp h
  obtain ⟨subjects, hrow, hinsert⟩ := bind_ok.mp hinsert
  obtain ⟨_, _, hinsert⟩ := bind_ok.mp hinsert
  obtain rfl := pure_ok.mp hinsert
  obtain ⟨_, rfl⟩ := schoolAudit_ok.mp haudit
  obtain ⟨rfl, rfl⟩ := Prod.mk.inj (pure_ok.mp h)
  refine .of_insert .subjects Subject.entry (fun _ => rfl) rfl rfl (found_ok.mp hrow) ?_
    (found_ok.mp hctx) (Owns.checked (by simp [Owns, Subject.entry]))
  intro j hj
  cases j <;> first | rfl | exact absurd rfl hj

lemma classSubjectCreate_creates {data : ClassSubjectCreate} {id : Ulid} {cs : ClassSubject}
    (h : ClassSubjects.create env ctx db data id = .ok (cs, db')) :
    Creates ctx db (TenantOp.createClassSubject data id).unchecked db' := by
  obtain ⟨schoolId, hctx, h⟩ := bind_ok.mp h
  obtain ⟨_, hclass, h⟩ := bind_ok.mp h
  obtain ⟨_, hsubject, h⟩ := bind_ok.mp h
  obtain ⟨_, hyear, h⟩ := bind_ok.mp h
  obtain ⟨_, _, h⟩ := bind_ok.mp h
  obtain ⟨organizationId, _, h⟩ := bind_ok.mp h
  obtain ⟨db1, hinsert, h⟩ := bind_ok.mp h
  obtain ⟨db2, haudit, h⟩ := bind_ok.mp h
  obtain ⟨classSubjects, hrow, hinsert⟩ := bind_ok.mp hinsert
  obtain ⟨_, hforeign, hinsert⟩ := bind_ok.mp hinsert
  obtain rfl := pure_ok.mp hinsert
  obtain ⟨_, rfl⟩ := schoolAudit_ok.mp haudit
  obtain ⟨rfl, rfl⟩ := Prod.mk.inj (pure_ok.mp h)
  obtain ⟨_, _, _, _, _, hto⟩ := ensure_ok.mp hforeign
  have hclass := schoolOf_getClass (found_ok.mp hclass)
  have hsubject := schoolOf_getSubject (found_ok.mp hsubject)
  have hyear := schoolOf_getYear (found_ok.mp hyear)
  refine .of_insert .classSubjects ClassSubject.entry (fun _ => rfl) rfl rfl (found_ok.mp hrow) ?_
    (found_ok.mp hctx) ⟨?_, ?_, ?_⟩
  · intro j hj
    cases j <;> first | rfl | exact absurd rfl hj
  · intro r hr
    -- The class, the subject and the year were looked up in the school.
    rcases List.mem_append.mp hr with hr | hr
    · rw [List.mem_cons, List.mem_cons, List.mem_singleton] at hr
      rcases hr with rfl | rfl | rfl
      · exact .inr hclass
      · exact .inr hsubject
      · exact .inr hyear
    · exact .inl hr
  · -- The year of the end was not, but it is there.
    intro r hr
    obtain ⟨y, hy, rfl⟩ := mem_optionalRef.mp hr
    have hthere := hto y hy
    exact there_of_get (schoolOf_academicYears _ _) hthere
  · intro r hr
    exact List.mem_append.mpr (.inr hr)

lemma cohortCreate_creates {data : CohortCreate} {id : Ulid} {c : Cohort}
    (h : Cohorts.create env ctx db data id = .ok (c, db')) : Creates ctx db [] db' := by
  obtain ⟨schoolId, hctx, h⟩ := bind_ok.mp h
  obtain ⟨_, hyear, h⟩ := bind_ok.mp h
  obtain ⟨_, hclass, h⟩ := bind_ok.mp h
  obtain ⟨_, _, h⟩ := bind_ok.mp h
  obtain ⟨organizationId, _, h⟩ := bind_ok.mp h
  obtain ⟨db1, hinsert, h⟩ := bind_ok.mp h
  obtain ⟨db2, haudit, h⟩ := bind_ok.mp h
  obtain ⟨cohorts, hrow, hinsert⟩ := bind_ok.mp hinsert
  obtain ⟨_, _, hinsert⟩ := bind_ok.mp hinsert
  obtain rfl := pure_ok.mp hinsert
  obtain ⟨_, rfl⟩ := schoolAudit_ok.mp haudit
  obtain ⟨rfl, rfl⟩ := Prod.mk.inj (pure_ok.mp h)
  have hyear := schoolOf_getYear (found_ok.mp hyear)
  have hclass := schoolOf_getClass (found_ok.mp hclass)
  refine .of_insert .cohorts Cohort.entry (fun _ => rfl) rfl rfl (found_ok.mp hrow) ?_
    (found_ok.mp hctx) (Owns.checked fun r hr => ?_)
  · intro j hj
    cases j <;> first | rfl | exact absurd rfl hj
  · rcases List.mem_pair.mp hr with rfl | rfl
    · exact hyear
    · exact hclass

lemma studentCreate_creates {data : StudentCreate} {id : Ulid} {s : Student}
    (h : Students.create env ctx db data id = .ok (s, db')) : Creates ctx db [] db' := by
  obtain ⟨schoolId, hctx, h⟩ := bind_ok.mp h
  obtain ⟨_, _, h⟩ := bind_ok.mp h
  obtain ⟨_, _, h⟩ := bind_ok.mp h
  obtain ⟨_, _, h⟩ := bind_ok.mp h
  obtain ⟨organizationId, _, h⟩ := bind_ok.mp h
  obtain ⟨db1, hinsert, h⟩ := bind_ok.mp h
  obtain ⟨db2, haudit, h⟩ := bind_ok.mp h
  obtain ⟨students, hrow, hinsert⟩ := bind_ok.mp hinsert
  obtain ⟨_, _, hinsert⟩ := bind_ok.mp hinsert
  obtain rfl := pure_ok.mp hinsert
  obtain ⟨_, rfl⟩ := schoolAudit_ok.mp haudit
  obtain ⟨rfl, rfl⟩ := Prod.mk.inj (pure_ok.mp h)
  refine .of_insert .students Student.entry (fun _ => rfl) rfl rfl (found_ok.mp hrow) ?_
    (found_ok.mp hctx) (Owns.checked (by simp [Owns, Student.entry]))
  intro j hj
  cases j <;> first | rfl | exact absurd rfl hj

lemma teacherCreate_creates {data : TeacherCreate} {id : Ulid} {t : Teacher}
    (h : Teachers.create env ctx db data id = .ok (t, db')) : Creates ctx db [] db' := by
  obtain ⟨schoolId, hctx, h⟩ := bind_ok.mp h
  obtain ⟨_, _, h⟩ := bind_ok.mp h
  obtain ⟨_, _, h⟩ := bind_ok.mp h
  obtain ⟨_, _, h⟩ := bind_ok.mp h
  obtain ⟨organizationId, _, h⟩ := bind_ok.mp h
  obtain ⟨db1, hinsert, h⟩ := bind_ok.mp h
  obtain ⟨db2, haudit, h⟩ := bind_ok.mp h
  obtain ⟨_, _, hinsert⟩ := bind_ok.mp hinsert
  obtain ⟨teachers, hrow, hinsert⟩ := bind_ok.mp hinsert
  obtain ⟨_, _, hinsert⟩ := bind_ok.mp hinsert
  obtain rfl := pure_ok.mp hinsert
  obtain ⟨_, rfl⟩ := schoolAudit_ok.mp haudit
  obtain ⟨rfl, rfl⟩ := Prod.mk.inj (pure_ok.mp h)
  refine .of_insert .teachers Teacher.entry (fun _ => rfl) rfl rfl (found_ok.mp hrow) ?_
    (found_ok.mp hctx) (Owns.checked (by simp [Owns, Teacher.entry]))
  intro j hj
  cases j <;> first | rfl | exact absurd rfl hj

lemma assignmentCreate_creates {data : AssignmentCreate} {id : Ulid} {a : TeacherAssignment}
    (h : Assignments.create env ctx db data id = .ok (a, db')) :
    Creates ctx db (TenantOp.createAssignment data id).unchecked db' := by
  obtain ⟨schoolId, hctx, h⟩ := bind_ok.mp h
  obtain ⟨_, hteacher, h⟩ := bind_ok.mp h
  obtain ⟨_, hcohort, h⟩ := bind_ok.mp h
  obtain ⟨_, hyear, h⟩ := bind_ok.mp h
  obtain ⟨_, _, h⟩ := bind_ok.mp h
  obtain ⟨organizationId, _, h⟩ := bind_ok.mp h
  obtain ⟨db1, hinsert, h⟩ := bind_ok.mp h
  obtain ⟨db2, haudit, h⟩ := bind_ok.mp h
  obtain ⟨assignments, hrow, hinsert⟩ := bind_ok.mp hinsert
  obtain ⟨_, _, hinsert⟩ := bind_ok.mp hinsert
  obtain ⟨_, hforeign, hinsert⟩ := bind_ok.mp hinsert
  obtain rfl := pure_ok.mp hinsert
  obtain ⟨_, rfl⟩ := schoolAudit_ok.mp haudit
  obtain ⟨rfl, rfl⟩ := Prod.mk.inj (pure_ok.mp h)
  obtain ⟨_, _, _, hsubject, _⟩ := ensure_ok.mp hforeign
  have hteacher := schoolOf_getTeacher (found_ok.mp hteacher)
  have hcohort := schoolOf_getCohort (found_ok.mp hcohort)
  have hyear := schoolOf_getYear (found_ok.mp hyear)
  refine .of_insert .teacherAssignments TeacherAssignment.entry (fun _ => rfl) rfl rfl
    (found_ok.mp hrow) ?_ (found_ok.mp hctx) ⟨?_, ?_, ?_⟩
  · intro j hj
    cases j <;> first | rfl | exact absurd rfl hj
  · intro r hr
    -- The teacher, the cohort and the year were looked up in the school.
    rcases List.mem_append.mp hr with hr | hr
    · rw [List.mem_cons, List.mem_cons, List.mem_singleton] at hr
      rcases hr with rfl | rfl | rfl
      · exact .inr hteacher
      · exact .inr hcohort
      · exact .inr hyear
    · exact .inl hr
  · -- The subject was not, but it is there.
    intro r hr
    obtain ⟨s, hs, rfl⟩ := mem_optionalRef.mp hr
    have hthere := hsubject s hs
    exact there_of_get (schoolOf_subjects _ _) hthere
  · intro r hr
    exact List.mem_append.mpr (.inr hr)

lemma timetableCreate_creates {data : TimetableCreate} {id : Ulid} {tt : Timetable}
    (h : Timetables.create env ctx db data id = .ok (tt, db')) :
    Creates ctx db (TenantOp.createTimetable data id).unchecked db' := by
  obtain ⟨schoolId, hctx, h⟩ := bind_ok.mp h
  obtain ⟨organizationId, _, h⟩ := bind_ok.mp h
  obtain ⟨db1, hinsert, h⟩ := bind_ok.mp h
  obtain ⟨db2, haudit, h⟩ := bind_ok.mp h
  obtain ⟨timetables, hrow, hinsert⟩ := bind_ok.mp hinsert
  obtain ⟨_, hforeign, hinsert⟩ := bind_ok.mp hinsert
  obtain rfl := pure_ok.mp hinsert
  obtain ⟨_, rfl⟩ := schoolAudit_ok.mp haudit
  obtain ⟨rfl, rfl⟩ := Prod.mk.inj (pure_ok.mp h)
  obtain ⟨_, hyear, _⟩ := ensure_ok.mp hforeign
  refine .of_insert .timetables Timetable.entry (fun _ => rfl) rfl rfl (found_ok.mp hrow) ?_
    (found_ok.mp hctx) ⟨fun r hr => .inl hr, ?_, fun r hr => hr⟩
  · intro j hj
    cases j <;> first | rfl | exact absurd rfl hj
  · intro r hr
    obtain rfl := List.mem_singleton.mp hr
    exact there_of_get (schoolOf_academicYears _ _) hyear

lemma periodCreate_creates {data : PeriodDefinitionCreate} {id : Ulid} {p : PeriodDefinition}
    (h : Periods.create env ctx db data id = .ok (p, db')) :
    Creates ctx db (TenantOp.createPeriod data id).unchecked db' := by
  obtain ⟨schoolId, hctx, h⟩ := bind_ok.mp h
  obtain ⟨_, _, h⟩ := bind_ok.mp h
  obtain ⟨organizationId, _, h⟩ := bind_ok.mp h
  obtain ⟨db1, hinsert, h⟩ := bind_ok.mp h
  obtain ⟨db2, haudit, h⟩ := bind_ok.mp h
  obtain ⟨periods, hrow, hinsert⟩ := bind_ok.mp hinsert
  obtain ⟨_, hforeign, hinsert⟩ := bind_ok.mp hinsert
  obtain rfl := pure_ok.mp hinsert
  obtain ⟨_, rfl⟩ := schoolAudit_ok.mp haudit
  obtain ⟨rfl, rfl⟩ := Prod.mk.inj (pure_ok.mp h)
  obtain ⟨_, _, hyear, _⟩ := ensure_ok.mp hforeign
  refine .of_insert .periodDefinitions PeriodDefinition.entry (fun _ => rfl) rfl rfl
    (found_ok.mp hrow) ?_ (found_ok.mp hctx) ⟨fun r hr => .inl hr, ?_, fun r hr => hr⟩
  · intro j hj
    cases j <;> first | rfl | exact absurd rfl hj
  · intro r hr
    obtain rfl := List.mem_singleton.mp hr
    exact there_of_get (schoolOf_academicYears _ _) hyear

lemma enrollmentCreate_creates {data : EnrollmentCreate} {id : Ulid} {e : StudentEnrollment}
    (h : Enrollments.create env ctx db data id = .ok (e, db')) :
    Creates ctx db (TenantOp.createEnrollment data id).unchecked db' := by
  obtain ⟨schoolId, hcheck, h⟩ := bind_ok.mp h
  obtain ⟨organizationId, _, h⟩ := bind_ok.mp h
  obtain ⟨db1, hinsert, h⟩ := bind_ok.mp h
  obtain ⟨db2, haudit, h⟩ := bind_ok.mp h
  obtain ⟨_, rfl⟩ := Prod.mk.inj (pure_ok.mp h)
  obtain ⟨enrollments, hrow, _, hforeign, rfl⟩ := enrollmentInsert_ok hinsert
  obtain ⟨_, rfl⟩ := schoolAudit_ok.mp haudit
  obtain ⟨hctx, ⟨_, hstudent⟩, ⟨_, hcohort⟩, ⟨_, hyear⟩, _⟩ := enrollmentCheck_ok hcheck
  obtain ⟨_, _, _, hclass, _⟩ := hforeign
  refine .of_insert .enrollments StudentEnrollment.entry (fun _ => rfl) rfl rfl hrow ?_ hctx
    ⟨?_, ?_, ?_⟩
  · intro j hj
    cases j <;> first | rfl | exact absurd rfl hj
  · intro r hr
    have hr : r ∈ [_, _, _, _] := hr
    rw [List.mem_cons, List.mem_cons, List.mem_pair] at hr
    -- The class is the reference that is not looked up.
    rcases hr with rfl | rfl | rfl | rfl
    · exact .inr (schoolOf_getStudent hstudent)
    · exact .inr (schoolOf_getYear hyear)
    · exact .inl (List.mem_singleton.mpr rfl)
    · exact .inr (schoolOf_getCohort hcohort)
  · intro r hr
    obtain rfl := List.mem_singleton.mp hr
    exact there_of_get (schoolOf_academicClasses _ _) hclass
  · intro r hr
    obtain rfl := List.mem_singleton.mp hr
    exact .tail _ (.tail _ (.head _))

/-- The enrollment that a transfer ends keeps what it refers to; the one that it begins takes the
student and the year over. -/
lemma enrollmentTransfer_creates (hs : TenantClosed db) {enrollmentId : Ulid}
    {data : EnrollmentTransfer} {id : Ulid} {e : StudentEnrollment}
    (h : Enrollments.transfer env ctx db enrollmentId data id = .ok (e, db')) :
    Creates ctx db (TenantOp.transferEnrollment enrollmentId data id).unchecked db' := by
  obtain ⟨heffect, core, hframe⟩ := enrollmentTransfer_ok h
  generalize henrollments : db'.enrollments = enrollments at heffect
  cases heffect with
  | @transfer organizationId _ _ _ old _ transferable references insert =>
    obtain ⟨howned, _, cohort, hcohort⟩ := transferable_ok transferable
    obtain ⟨hctx, hold, _⟩ := enrollmentOwned_ok howned
    obtain ⟨_, _, _, hclass, _⟩ := references
    have hid : ∀ e : StudentEnrollment, e.entry.key = e.id := fun _ => rfl
    have hclosed : Owns db.entries old.entry := owns_of_view .enrollments _ hid hs rfl hold
    have hsame : db.entries .enrollments =
        (db.enrollments.put (Enrollments.ended ctx old data).touch).view
          StudentEnrollment.entry hid := by
      rw [Table.put_view]
      exact (Table.put_self (Table.mem_view.mpr ⟨old, hold, rfl⟩)).symm
    refine .of_insert .enrollments StudentEnrollment.entry hid hsame ?_ insert ?_ hctx
      ⟨?_, ?_, ?_⟩
    · rw [← henrollments]
      rfl
    · intro j hj
      rw [hframe]
      cases j <;> first | rfl | exact absurd rfl hj
    · intro r hr
      have hr : r ∈ [_, _, _, _] := hr
      rw [List.mem_cons, List.mem_cons, List.mem_pair] at hr
      -- The student and the year are those of the old enrollment, the cohort was looked up.
      rcases hr with rfl | rfl | rfl | rfl
      · exact .inr (hclosed _ (.head _))
      · exact .inr (hclosed _ (.tail _ (.head _)))
      · exact .inl (List.mem_singleton.mpr rfl)
      · exact .inr (schoolOf_getCohort hcohort)
    · intro r hr
      obtain rfl := List.mem_singleton.mp hr
      exact there_of_get (schoolOf_academicClasses _ _) hclass
    · intro r hr
      obtain rfl := List.mem_singleton.mp hr
      exact .tail _ (.tail _ (.head _))

lemma slotCreate_creates (hs : TenantClosed db) {data : TimetableSlotCreate} {id : Ulid}
    {slot : TimetableSlot} (h : Slots.create env ctx db data id = .ok (slot, db')) :
    Creates ctx db (TenantOp.createSlot data id).unchecked db' := by
  obtain ⟨schoolId, hctx, h⟩ := bind_ok.mp h
  obtain ⟨_, _, h⟩ := bind_ok.mp h
  obtain ⟨_, _, h⟩ := bind_ok.mp h
  obtain ⟨_, _, h⟩ := bind_ok.mp h
  obtain ⟨_, _, h⟩ := bind_ok.mp h
  obtain ⟨period, hperiod, h⟩ := bind_ok.mp h
  obtain ⟨_, hteacher, h⟩ := bind_ok.mp h
  obtain ⟨_, hsubject, h⟩ := bind_ok.mp h
  obtain ⟨organizationId, _, h⟩ := bind_ok.mp h
  obtain ⟨db1, hinsert, h⟩ := bind_ok.mp h
  obtain ⟨db2, haudit, h⟩ := bind_ok.mp h
  obtain ⟨slots, hrow, hinsert⟩ := bind_ok.mp hinsert
  obtain ⟨_, hforeign, hinsert⟩ := bind_ok.mp hinsert
  obtain rfl := pure_ok.mp hinsert
  obtain ⟨_, rfl⟩ := schoolAudit_ok.mp haudit
  obtain ⟨rfl, rfl⟩ := Prod.mk.inj (pure_ok.mp h)
  obtain ⟨_, _, _, hcohort, _⟩ := ensure_ok.mp hforeign
  obtain ⟨hget, hschool⟩ := Option.filter_eq_some_iff.mp (found_ok.mp hperiod)
  obtain rfl : period.schoolId = schoolId := by simpa using hschool
  have hperiod : Owns db.entries period.entry :=
    owns_of_view .periodDefinitions PeriodDefinition.entry (fun _ => rfl) hs rfl
      (Table.get_eq_some.mp hget).1
  have hyear := hperiod _ (.head _)
  obtain ⟨teacher, hteacher⟩ := Option.isSome_iff_exists.mp (ensure_ok.mp hteacher)
  obtain ⟨subject, hsubject⟩ := Option.isSome_iff_exists.mp (ensure_ok.mp hsubject)
  refine .of_insert .timetableSlots TimetableSlot.entry (fun _ => rfl) rfl rfl (found_ok.mp hrow)
    ?_ (found_ok.mp hctx) ⟨?_, ?_, ?_⟩
  · intro j hj
    cases j <;> first | rfl | exact absurd rfl hj
  · intro r hr
    have hr : r ∈ [_, _, _, _, _] := hr
    rw [List.mem_cons, List.mem_cons, List.mem_cons, List.mem_pair] at hr
    -- The year is that of the period; the cohort is not looked up.
    rcases hr with rfl | rfl | rfl | rfl | rfl
    · exact .inr hyear
    · exact .inl (List.mem_singleton.mpr rfl)
    · refine .inr ?_
      rw [← SchoolDB.schoolOf, schoolOf_periodDefinitions, hget, Option.map_some]
      rfl
    · refine .inr ?_
      rw [← SchoolDB.schoolOf, schoolOf_teachers]
      exact map_of_filter hteacher fun _ hp => hp
    · refine .inr ?_
      rw [← SchoolDB.schoolOf, schoolOf_subjects]
      exact map_of_filter hsubject fun _ hp => hp
  · intro r hr
    obtain rfl := List.mem_singleton.mp hr
    exact there_of_get (schoolOf_cohorts _ _) hcohort
  · intro r hr
    obtain rfl := List.mem_singleton.mp hr
    exact .tail _ (.head _)

/-! ### Requests that rewrite a row -/

/-- An update of a slot keeps all references but the teacher and the subject. -/
lemma slotUpdate_closed_iff (hs : TenantClosed db) {slotId : Ulid} {slot slot' : TimetableSlot}
    {data : TimetableSlotUpdate} (howned : Slots.getOwned ctx db slotId = .ok slot)
    (h : Slots.update env ctx db slot data = .ok (slot', db')) :
    TenantClosed db' ↔
      ∀ r ∈ (TenantOp.updateSlot slotId data).unchecked, db.schoolOf r = ctx.schoolId := by
  obtain ⟨_, _, h⟩ := bind_ok.mp h
  obtain ⟨_, _, h⟩ := bind_ok.mp h
  obtain ⟨_, _, h⟩ := bind_ok.mp h
  obtain ⟨_, _, h⟩ := bind_ok.mp h
  obtain ⟨_, _, h⟩ := bind_ok.mp h
  obtain ⟨db1, hsave, h⟩ := bind_ok.mp h
  obtain ⟨db2, haudit, h⟩ := bind_ok.mp h
  obtain ⟨_, rfl⟩ := Prod.mk.inj (pure_ok.mp h)
  obtain ⟨_, hforeign, _⟩ := bind_ok.mp hsave
  obtain rfl := slotSave_ok hsave
  obtain ⟨_, hlog⟩ := schoolAudit_ok.mp haudit
  obtain ⟨hteacher, hsubject, _⟩ := ensure_ok.mp hforeign
  obtain ⟨hctx, hslot, _⟩ := slotOwned_ok howned
  have hid : ∀ s : TimetableSlot, s.entry.key = s.id := fun _ => rfl
  have hclosed : Owns db.entries slot.entry := owns_of_view .timetableSlots _ hid hs rfl hslot
  -- The flush writes what the update makes of the row.
  have hentry : (flushed TimetableSlot.touch slot (Slots.applied ctx slot data)).entry =
      (Slots.applied ctx slot data).entry :=
    flushed_col TimetableSlot.touch TimetableSlot.entry (fun _ => rfl) slot _
  have hrewrites : Rewrites db.entries .timetableSlots (Slots.applied ctx slot data).entry
      db2.entries := by
    rw [← hlog, log_entries, ← hentry]
    refine .of_view TimetableSlot.entry hid rfl rfl (fun j hj => ?_) hslot
      (congrArg Entry.key hentry).symm (congrArg Entry.owner hentry).symm
    cases j <;> first | rfl | exact absurd rfl hj
  have hchecked : Checked db.entries (Slots.applied ctx slot data).entry
      (TenantOp.updateSlot slotId data).unchecked := by
    refine ⟨fun r hr => ?_, fun r hr => ?_, fun r hr => ?_⟩
    · rcases List.mem_append.mp hr with hr | hr
      · have hr : r ∈ [_, _, _, _, _] := hr
        rw [List.mem_cons, List.mem_cons, List.mem_cons, List.mem_pair] at hr
        rcases hr with rfl | rfl | rfl | rfl | rfl
        · exact .inr (hclosed _ (.head _))
        · exact .inr (hclosed _ (.tail _ (.head _)))
        · exact .inr (hclosed _ (.tail _ (.tail _ (.head _))))
        · cases hgiven : data.teacherId with
          | none =>
            refine .inr (hclosed _ ?_)
            simp [TimetableSlot.entry, Slots.applied, hgiven]
          | some teacherId =>
            refine .inl (List.mem_append.mpr (.inl ?_))
            simp [Slots.applied, hgiven]
        · cases hgiven : data.subjectId with
          | none =>
            refine .inr (hclosed _ ?_)
            simp [TimetableSlot.entry, Slots.applied, hgiven]
          | some subjectId =>
            refine .inl (List.mem_append.mpr (.inr ?_))
            simp [Slots.applied, hgiven]
      · exact .inr (hclosed r (List.mem_append.mpr (.inr hr)))
    · rcases List.mem_append.mp hr with hr | hr
      · obtain ⟨teacherId, hgiven, rfl⟩ := mem_optionalRef.mp hr
        rw [Slots.applied, Option.mem_def.mp hgiven, Option.getD_some] at hteacher
        exact there_of_get (schoolOf_teachers _ _) hteacher
      · obtain ⟨subjectId, hgiven, rfl⟩ := mem_optionalRef.mp hr
        rw [Slots.applied, Option.mem_def.mp hgiven, Option.getD_some] at hsubject
        exact there_of_get (schoolOf_subjects _ _) hsubject
    · rcases List.mem_append.mp hr with hr | hr
      · obtain ⟨teacherId, hgiven, rfl⟩ := mem_optionalRef.mp hr
        simp [TimetableSlot.entry, Slots.applied, Option.mem_def.mp hgiven]
      · obtain ⟨subjectId, hgiven, rfl⟩ := mem_optionalRef.mp hr
        simp [TimetableSlot.entry, Slots.applied, Option.mem_def.mp hgiven]
  rw [hctx]
  exact hrewrites.closed_of_checked hchecked hs

/-! ### Requests that write records -/

lemma insertRecord_inserts {record : AttendanceMark} (h : insertRecord db record = .ok db') :
    Inserts db.entries .attendanceRecords record.entry db'.entries := by
  obtain ⟨_, _, h⟩ := bind_ok.mp h
  obtain ⟨records, hrow, h⟩ := bind_ok.mp h
  obtain ⟨_, _, h⟩ := bind_ok.mp h
  obtain ⟨_, _, h⟩ := bind_ok.mp h
  obtain rfl := pure_ok.mp h
  refine .of_view AttendanceMark.entry (fun _ => rfl) rfl rfl (found_ok.mp hrow) fun j hj => ?_
  cases j <;> first | rfl | exact absurd rfl hj

lemma upsertRecord_inserts {record : AttendanceMark} (h : upsertRecord db record = .ok db') :
    db'.entries = db.entries ∨
      Inserts db.entries .attendanceRecords record.entry db'.entries := by
  unfold upsertRecord at h
  split at h
  · exact .inr (insertRecord_inserts h)
  · next old hold =>
    obtain ⟨_, _, h⟩ := bind_ok.mp h
    obtain rfl := pure_ok.mp h
    have hmem : old ∈ db.attendanceRecords := List.mem_of_find?_eq_some hold
    have hid : ∀ r : AttendanceMark, r.entry.key = r.id := fun _ => rfl
    refine .inl (funext fun j => ?_)
    cases j with
    | attendanceRecords =>
      refine (Table.put_view hid).trans ?_
      exact Table.put_self (Table.mem_view.mpr ⟨old, hmem, rfl⟩)
    | _ => rfl

/-- Statements that each write a record at most, when the records own what they refer to. -/
lemma eachRecord_closed {write : SchoolDB → AttendanceMark → Fallible SchoolDB}
    (hwrite : ∀ d record d', write d record = .ok d' → d'.entries = d.entries ∨
      Inserts d.entries .attendanceRecords record.entry d'.entries)
    {records : List AttendanceMark} (h : eachRecord write db records = .ok db') :
    Grows db.entries db'.entries ∧
      (TenantClosed db → (∀ r ∈ records, Owns db.entries r.entry) → TenantClosed db') := by
  induction records generalizing db with
  | nil =>
    obtain rfl := pure_ok.mp h
    exact ⟨Grows.refl _, fun hs _ => hs⟩
  | cons record records ih =>
    obtain ⟨db1, hone, h⟩ := bind_ok.mp h
    obtain ⟨hgrows, hclosed⟩ := ih h
    have hstep : Grows db.entries db1.entries := by
      rcases hwrite db record db1 hone with heq | hinserts
      · rw [heq]
        exact Grows.refl _
      · exact hinserts.grows
    refine ⟨hstep.trans hgrows, fun hs howns => hclosed ?_ fun r hr => ?_⟩
    · rcases hwrite db record db1 hone with heq | hinserts
      · unfold TenantClosed
        rw [heq]
        exact hs
      · exact (hinserts.closed_iff hs).mpr
          (owns_grows hstep (howns record List.mem_cons_self))
    · exact owns_grows hstep (howns r (List.mem_cons_of_mem _ hr))

/-- A record of a session and an enrollment of one school, with the student of the enrollment. -/
lemma owns_record (hs : TenantClosed db) {record : AttendanceMark} {e : StudentEnrollment}
    (hsession : db.schoolOf (.attendanceSessions, record.sessionId) = some record.schoolId)
    (he : e ∈ db.enrollments) (hschool : e.schoolId = record.schoolId)
    (hid : record.enrollmentId = e.id) (hstudent : record.studentId = e.studentId) :
    Owns db.entries record.entry := by
  have hkey : ∀ e : StudentEnrollment, e.entry.key = e.id := fun _ => rfl
  have hclosed : Owns db.entries e.entry := owns_of_view .enrollments _ hkey hs rfl he
  intro r hr
  have hr : r ∈ [_, _, _] := hr
  rw [List.mem_cons, List.mem_pair] at hr
  rcases hr with rfl | rfl | rfl
  · exact hsession
  · rw [← SchoolDB.schoolOf, schoolOf_enrollments, hid, Table.get_eq_some.mpr ⟨he, rfl⟩,
      Option.map_some, hschool]
    rfl
  · have hown := hclosed (.students, e.studentId) (.head _)
    rw [hstudent]
    exact hown.trans (congrArg some hschool)

/-- A new session takes its cohort and its year as they are; its records are in order when it is. -/
lemma sessionCreate_closed_iff (hs : TenantClosed db) {data : AttendanceSessionCreate} {id : Ulid}
    {recordIds : ℕ → Ulid} {session : AttendanceSession}
    (h : Attendance.createSession env ctx db data id recordIds = .ok (session, db')) :
    TenantClosed db' ↔ ∀ r ∈ (TenantOp.createSession data id recordIds).unchecked,
      db.schoolOf r = ctx.schoolId := by
  obtain ⟨schoolId, hctx, h⟩ := bind_ok.mp h
  obtain ⟨_, _, h⟩ := bind_ok.mp h
  obtain ⟨organizationId, _, h⟩ := bind_ok.mp h
  obtain ⟨db1, hinsert, h⟩ := bind_ok.mp h
  obtain ⟨db2, hrecords, h⟩ := bind_ok.mp h
  obtain ⟨db3, haudit, h⟩ := bind_ok.mp h
  obtain ⟨_, hlog⟩ := schoolAudit_ok.mp haudit
  obtain ⟨rfl, rfl⟩ := Prod.mk.inj (pure_ok.mp h)
  obtain ⟨_, _, hinsert⟩ := bind_ok.mp hinsert
  obtain ⟨sessions, hrow, hinsert⟩ := bind_ok.mp hinsert
  obtain ⟨_, hforeign, hinsert⟩ := bind_ok.mp hinsert
  obtain ⟨_, _, hcohort, hyear⟩ := ensure_ok.mp hforeign
  have hdb1 := (pure_ok.mp hinsert).symm
  have hctx := found_ok.mp hctx
  have hinserts : Inserts db.entries .attendanceSessions
      (Attendance.opened ctx schoolId organizationId data id).entry db1.entries := by
    rw [hdb1]
    refine .of_view AttendanceSession.entry (fun _ => rfl) rfl rfl (found_ok.mp hrow) fun j hj => ?_
    cases j <;> first | rfl | exact absurd rfl hj
  have hchecked : Checked db.entries (Attendance.opened ctx schoolId organizationId data id).entry
      (TenantOp.createSession data id recordIds).unchecked := by
    refine ⟨fun r hr => .inl hr, fun r hr => ?_, fun r hr => hr⟩
    rcases List.mem_pair.mp hr with rfl | rfl
    · exact there_of_get (schoolOf_cohorts _ _) hcohort
    · exact there_of_get (schoolOf_academicYears _ _) hyear
  obtain ⟨hgrows, hclosed⟩ := eachRecord_closed (fun _ _ _ h => .inr (insertRecord_inserts h))
    hrecords
  have hentries : db3.entries = db2.entries := by rw [← hlog, log_entries]
  have hfinal : TenantClosed db3 ↔ TenantClosed db2 := by rw [TenantClosed, hentries, TenantClosed]
  have hstep := hinserts.closed_of_checked hchecked hs
  have howner : ctx.schoolId =
      some (Attendance.opened ctx schoolId organizationId data id).entry.owner := hctx
  rw [hfinal, howner]
  constructor
  · -- The session names its cohort and its year.
    intro hs2
    have hmem := hgrows _ _ hinserts.mem
    have howns := hs2 .attendanceSessions _ hmem
    have hold := (owns_grows_iff (hinserts.grows.trans hgrows) hchecked.isSome).mp howns
    exact hchecked.owns_iff.mp hold
  · -- Its records are of enrollments of the cohort in the school.
    intro hnames
    have hs1 : TenantClosed db1 := hstep.mpr hnames
    refine hclosed hs1 fun record hrecord => ?_
    obtain ⟨⟨e, n⟩, hlisted, rfl⟩ := List.mem_map.mp hrecord
    have hfilter := List.mem_filter.mp (List.fst_mem_of_mem_zipIdx hlisted)
    have hactive : e.cohortId = data.cohortId ∧ e.schoolId = schoolId ∧ _ :=
      of_decide_eq_true hfilter.2
    refine owns_record hs1 (e := e) ?_ hfilter.1 hactive.2.1 rfl rfl
    have hget : (db1.entries .attendanceSessions).get id = some
        (Attendance.opened ctx schoolId organizationId data id).entry :=
      Table.get_eq_some.mpr ⟨hinserts.mem, rfl⟩
    exact congrArg (Option.map Entry.owner) hget

lemma bulkUpdate_closed (hs : TenantClosed db) {sessionId : Ulid} {records : List BulkRecordItem}
    {recordIds : ℕ → Ulid}
    (h : Attendance.bulkUpdateRecords env ctx db sessionId records recordIds = .ok db') :
    TenantClosed db' := by
  obtain ⟨schoolId, hctx, h⟩ := bind_ok.mp h
  obtain ⟨session, howned, h⟩ := bind_ok.mp h
  obtain ⟨_, _, h⟩ := bind_ok.mp h
  obtain ⟨rows, hrows, h⟩ := bind_ok.mp h
  obtain ⟨db1, hwrite, h⟩ := bind_ok.mp h
  obtain ⟨_, rfl⟩ := schoolAudit_ok.mp h
  obtain ⟨schoolId', hctx', howned⟩ := bind_ok.mp howned
  obtain rfl : schoolId' = schoolId :=
    Option.some.inj ((found_ok.mp hctx').symm.trans (found_ok.mp hctx))
  have hsession : db.schoolOf (.attendanceSessions, sessionId) = some schoolId' := by
    rw [schoolOf_attendanceSessions]
    exact map_of_filter (found_ok.mp howned) fun _ hp => hp
  obtain ⟨_, hclosed⟩ := eachRecord_closed (fun _ _ _ h => upsertRecord_inserts h) hwrite
  have hfinal : TenantClosed db1 := by
    refine hclosed hs fun row hrow => ?_
    obtain ⟨hschool, hin, hresolve⟩ := markedRows_ok hrows row hrow
    obtain ⟨e, he, hstudent⟩ := Option.map_eq_some_iff.mp hresolve
    obtain ⟨hget, hown⟩ := Option.filter_eq_some_iff.mp he
    obtain ⟨hmem, hid⟩ := Table.get_eq_some.mp hget
    have hown : e.schoolId = schoolId' := by simpa using hown
    refine owns_record hs ?_ hmem (hown.trans hschool.symm) hid.symm hstudent.symm
    rw [hin, hschool]
    exact hsession
  unfold TenantClosed
  rw [log_entries]
  exact hfinal

/-! ### Runs -/

/-- **What a request that goes through does to closure**: it keeps it exactly when the ids that it
copies name rows of its school. -/
theorem tenantHandle_closed_iff (hs : TenantClosed db) {c : TenantCall}
    (h : c.handle env db = .ok db') : TenantClosed db' ↔ NamesOwn db c := by
  obtain ⟨ctx, op⟩ := c
  cases op with
  | createYear data id =>
    obtain ⟨⟨_, _⟩, hcreate, rfl⟩ := map_ok.mp h
    exact (yearCreate_creates hcreate).closed_iff hs
  | createClass data id =>
    obtain ⟨⟨_, _⟩, hcreate, rfl⟩ := map_ok.mp h
    exact (classCreate_creates hcreate).closed_iff hs
  | createSubject data id =>
    obtain ⟨⟨_, _⟩, hcreate, rfl⟩ := map_ok.mp h
    exact (subjectCreate_creates hcreate).closed_iff hs
  | createClassSubject data id =>
    obtain ⟨⟨_, _⟩, hcreate, rfl⟩ := map_ok.mp h
    exact (classSubjectCreate_creates hcreate).closed_iff hs
  | createCohort data id =>
    obtain ⟨⟨_, _⟩, hcreate, rfl⟩ := map_ok.mp h
    exact (cohortCreate_creates hcreate).closed_iff hs
  | createStudent data id =>
    obtain ⟨⟨_, _⟩, hcreate, rfl⟩ := map_ok.mp h
    exact (studentCreate_creates hcreate).closed_iff hs
  | createTeacher data id =>
    obtain ⟨⟨_, _⟩, hcreate, rfl⟩ := map_ok.mp h
    exact (teacherCreate_creates hcreate).closed_iff hs
  | createAssignment data id =>
    obtain ⟨⟨_, _⟩, hcreate, rfl⟩ := map_ok.mp h
    exact (assignmentCreate_creates hcreate).closed_iff hs
  | createEnrollment data id =>
    obtain ⟨⟨_, _⟩, hcreate, rfl⟩ := map_ok.mp h
    exact (enrollmentCreate_creates hcreate).closed_iff hs
  | transferEnrollment enrollmentId data id =>
    obtain ⟨⟨_, _⟩, htransfer, rfl⟩ := map_ok.mp h
    exact (enrollmentTransfer_creates hs htransfer).closed_iff hs
  | createTimetable data id =>
    obtain ⟨⟨_, _⟩, hcreate, rfl⟩ := map_ok.mp h
    exact (timetableCreate_creates hcreate).closed_iff hs
  | createPeriod data id =>
    obtain ⟨⟨_, _⟩, hcreate, rfl⟩ := map_ok.mp h
    exact (periodCreate_creates hcreate).closed_iff hs
  | createSlot data id =>
    obtain ⟨⟨_, _⟩, hcreate, rfl⟩ := map_ok.mp h
    exact (slotCreate_creates hs hcreate).closed_iff hs
  | updateSlot slotId data =>
    obtain ⟨slot, howned, h⟩ := bind_ok.mp h
    obtain ⟨⟨_, _⟩, hupdate, rfl⟩ := map_ok.mp h
    exact slotUpdate_closed_iff hs howned hupdate
  | createSession data id recordIds =>
    obtain ⟨⟨_, _⟩, hcreate, rfl⟩ := map_ok.mp h
    exact sessionCreate_closed_iff hs hcreate
  | bulkUpdateRecords sessionId records recordIds =>
    have hclosed := bulkUpdate_closed hs h
    exact ⟨fun _ r hr => absurd hr List.not_mem_nil, fun _ => hclosed⟩

/-- A request keeps closure exactly when it is refused or names rows of its school. -/
lemma tenantStep_closed_iff (env : SchoolEnv) (db : SchoolDB) (c : TenantCall)
    (hs : TenantClosed db) :
    TenantClosed (c.step env db) ↔ Refused env db c ∨ NamesOwn db c := by
  unfold TenantCall.step
  cases h : c.handle env db with
  | error e =>
    have hrefused : Refused env db c := by
      intro db' hok
      rw [h] at hok
      cases hok
    exact ⟨fun _ => .inl hrefused, fun _ => hs⟩
  | ok db' =>
    have hgoes : ¬ Refused env db c := fun hrefused => hrefused db' h
    rw [or_iff_right hgoes]
    exact tenantHandle_closed_iff hs h

lemma founded_closed (core : DB) (persons : Table Person.id) :
    TenantClosed (SchoolDB.founded core persons) := by
  intro i e he
  cases i <;> exact absurd he List.not_mem_nil

/-- **Tenant closure**: over every run of requests by users of any schools, the rows of a school
refer only to rows of that school in all states exactly when each request is refused or names, by
the ids that its service does not look up, rows of its own school. -/
theorem tenant_closure (env : SchoolEnv) (core : DB) (persons : Table Person.id)
    (l : List TenantCall) :
    Along (TenantCall.step env) (fun db c => TenantClosed (c.step env db))
        (SchoolDB.founded core persons) l ↔
      Along (TenantCall.step env) (fun db c => Refused env db c ∨ NamesOwn db c)
        (SchoolDB.founded core persons) l :=
  along_iff (tenantStep_closed_iff env) l (founded_closed core persons)

/-- Two schools of an organization. -/
def twinSchools : DB :=
  { DB.empty with schools := [⟨11, 101, .active, none⟩, ⟨12, 101, .active, none⟩] }

/-- A member of the staff of school 12. -/
def otherStaff : RequestContext :=
  { staff with schoolId := some 12, accessibleSchoolIds := {12} }

/-- Each school has a year, and school 11 defines a period in the year of one of them. -/
def periodIn (yearId : Ulid) : List TenantCall :=
  [⟨staff, .createYear ⟨"Y1", "Year 1", 738000, 738364, true, .active, by decide, by decide⟩ 21⟩,
    ⟨otherStaff,
      .createYear ⟨"Y1", "Year 1", 738000, 738364, true, .active, by decide, by decide⟩ 22⟩,
    ⟨staff, .createPeriod ⟨yearId, "P1", .lesson, 28800000000, 31200000000, 0, by decide⟩ 91⟩]

example : Along (TenantCall.step .plain) (fun db c => ¬ Refused .plain db c ∧ NamesOwn db c)
    (SchoolDB.founded twinSchools (.empty _)) (periodIn 21) := by decide

/-- The year of another school passes the foreign key. -/
theorem periodIn_leaks : ¬ ∀ (env : SchoolEnv) (core : DB) (persons : Table Person.id)
    (l : List TenantCall), Along (TenantCall.step env) (fun db c => TenantClosed (c.step env db))
      (SchoolDB.founded core persons) l := by
  intro h
  have hrun := h .plain twinSchools (.empty _) (periodIn 22)
  exact absurd hrun (by decide)

end SchoolOs
