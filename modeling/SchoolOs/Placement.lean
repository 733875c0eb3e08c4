import SchoolOs.Enrollments

/-!
Where an enrollment places a student: the year and the class beside the cohort. A cohort keeps
its year and its class; an enrollment takes all three from its payload.
-/

namespace SchoolOs

open Runs

/-- The year and the class of a cohort. -/
def Cohort.place (c : Cohort) : Ulid × Ulid := (c.academicYearId, c.academicClassId)

/-- The year and the class of an enrollment. -/
def StudentEnrollment.place (e : StudentEnrollment) : Ulid × Ulid :=
  (e.academicYearId, e.academicClassId)

/-- The year and the class of the cohort with an id. -/
def SchoolDB.placeOf (db : SchoolDB) (cohortId : Ulid) : Option (Ulid × Ulid) :=
  (db.cohorts.get cohortId).map Cohort.place

/-- Every enrollment is in the year and the class of its cohort. -/
def Placed (db : SchoolDB) : Prop := ∀ e ∈ db.enrollments, db.placeOf e.cohortId = some e.place

instance (db : SchoolDB) : Decidable (Placed db) :=
  inferInstanceAs (Decidable (∀ e ∈ db.enrollments, db.placeOf e.cohortId = some e.place))

/-! ### Requests on cohorts -/

inductive CohortOp
  | create (data : CohortCreate) (id : Ulid)
  | update (cohortId : Ulid) (data : CohortUpdate)

/-- A request on cohorts, with its context. -/
structure CohortCall where
  ctx : RequestContext
  op : CohortOp

def CohortCall.handle (env : SchoolEnv) (db : SchoolDB) (c : CohortCall) : Fallible SchoolDB :=
  match c.op with
  | .create data id => Prod.snd <$> Cohorts.create env c.ctx db data id
  | .update cohortId data => do
    let cohort ← Cohorts.getOwned c.ctx db cohortId
    Prod.snd <$> Cohorts.update env c.ctx db cohort data

/-- A request on enrollments or on cohorts. -/
inductive PlacementCall
  | enrollment (c : EnrollmentCall)
  | cohort (c : CohortCall)

def PlacementCall.handle (env : SchoolEnv) (db : SchoolDB) : PlacementCall → Fallible SchoolDB
  | .enrollment c => c.handle env db
  | .cohort c => c.handle env db

/-- A failed request leaves no trace. -/
def PlacementCall.step (env : SchoolEnv) (db : SchoolDB) (c : PlacementCall) : SchoolDB :=
  match c.handle env db with
  | .ok db' => db'
  | .error _ => db

/-! ### What a request does to places -/

variable {env : SchoolEnv} {ctx : RequestContext} {db db' : SchoolDB}

lemma cohortOwned_ok {cohortId : Ulid} {cohort : Cohort}
    (h : Cohorts.getOwned ctx db cohortId = .ok cohort) : cohort ∈ db.cohorts := by
  obtain ⟨schoolId, _, h⟩ := bind_ok.mp h
  obtain ⟨hget, _⟩ := Option.filter_eq_some_iff.mp (found_ok.mp h)
  exact (Table.get_eq_some.mp hget).1

lemma cohortCreate_ok {data : CohortCreate} {id : Ulid} {cohort : Cohort}
    (h : Cohorts.create env ctx db data id = .ok (cohort, db')) :
    db.cohorts.insert cohort = some db'.cohorts ∧ db'.enrollments = db.enrollments := by
  obtain ⟨_, _, h⟩ := bind_ok.mp h
  obtain ⟨_, _, h⟩ := bind_ok.mp h
  obtain ⟨_, _, h⟩ := bind_ok.mp h
  obtain ⟨_, _, h⟩ := bind_ok.mp h
  obtain ⟨_, _, h⟩ := bind_ok.mp h
  obtain ⟨db1, hinsert, h⟩ := bind_ok.mp h
  obtain ⟨db2, haudit, h⟩ := bind_ok.mp h
  obtain ⟨rfl, rfl⟩ := Prod.mk.inj (pure_ok.mp h)
  obtain ⟨cohorts, hrow, hinsert⟩ := bind_ok.mp hinsert
  obtain ⟨_, _, hinsert⟩ := bind_ok.mp hinsert
  obtain rfl := pure_ok.mp hinsert
  obtain ⟨_, rfl⟩ := schoolAudit_ok.mp haudit
  exact ⟨found_ok.mp hrow, rfl⟩

lemma cohortUpdate_ok {cohort c : Cohort} {data : CohortUpdate}
    (h : Cohorts.update env ctx db cohort data = .ok (c, db')) :
    db'.cohorts = db.cohorts.put (flushed Cohort.touch cohort (Cohorts.applied ctx cohort data)) ∧
      db'.enrollments = db.enrollments := by
  obtain ⟨_, _, h⟩ := bind_ok.mp h
  obtain ⟨db1, hsave, h⟩ := bind_ok.mp h
  obtain ⟨db2, haudit, h⟩ := bind_ok.mp h
  obtain ⟨_, rfl⟩ := Prod.mk.inj (pure_ok.mp h)
  obtain ⟨_, _, hsave⟩ := bind_ok.mp hsave
  obtain rfl := pure_ok.mp hsave
  obtain ⟨_, rfl⟩ := schoolAudit_ok.mp haudit
  exact ⟨rfl, rfl⟩

/-- A request on cohorts leaves the enrollments, and no cohort moves. -/
lemma cohortHandle_ok {c : CohortCall} (h : c.handle env db = .ok db') :
    db'.enrollments = db.enrollments ∧
      ∀ k p, db.placeOf k = some p → db'.placeOf k = some p := by
  obtain ⟨ctx, op⟩ := c
  cases op with
  | create data id =>
    obtain ⟨⟨cohort, _⟩, hcreate, rfl⟩ := map_ok.mp h
    obtain ⟨hinsert, henrollments⟩ := cohortCreate_ok hcreate
    refine ⟨henrollments, fun k p hp => ?_⟩
    obtain ⟨old, hold, rfl⟩ := Option.map_eq_some_iff.mp hp
    unfold SchoolDB.placeOf
    rw [Table.get_insert_of_get hinsert hold, Option.map_some]
  | update cohortId data =>
    obtain ⟨cohort, howned, h⟩ := bind_ok.mp h
    obtain ⟨⟨_, _⟩, hupdate, rfl⟩ := map_ok.mp h
    obtain ⟨hcohorts, henrollments⟩ := cohortUpdate_ok hupdate
    refine ⟨henrollments, fun k p hp => ?_⟩
    have hplace : (flushed Cohort.touch cohort (Cohorts.applied ctx cohort data)).place =
        cohort.place := by
      have hcol := flushed_col Cohort.touch Cohort.place (fun _ => rfl) cohort
        (Cohorts.applied ctx cohort data)
      exact hcol
    have hid : (flushed Cohort.touch cohort (Cohorts.applied ctx cohort data)).id = cohort.id := by
      have hcol := flushed_col Cohort.touch Cohort.id (fun _ => rfl) cohort
        (Cohorts.applied ctx cohort data)
      exact hcol
    have hsame : ((db.cohorts.put (flushed Cohort.touch cohort
        (Cohorts.applied ctx cohort data))).get k).map Cohort.place = db.placeOf k := by
      refine Table.map_get_put Cohort.place (fun old hold => ?_) k
      obtain ⟨hmem, hkey⟩ := Table.get_eq_some.mp hold
      obtain rfl := Table.eq_of_key hmem (cohortOwned_ok howned) (hkey.trans hid)
      exact hplace
    rw [SchoolDB.placeOf, hcohorts, hsame]
    exact hp

/-- A new enrollment names a cohort of its year and its class. -/
def NamesPlace (env : SchoolEnv) (db : SchoolDB) : PlacementCall → Prop
  | .enrollment ⟨ctx, .create data _⟩ => ∀ schoolId,
      Enrollments.check env ctx db data = .ok schoolId →
        db.placeOf data.cohortId = some (data.academicYearId, data.academicClassId)
  | .enrollment ⟨ctx, .transfer enrollmentId data _⟩ => ∀ old,
      Enrollments.transferable ctx db enrollmentId data = .ok old →
        db.placeOf data.newCohortId = some (old.academicYearId, data.newAcademicClassId)
  | _ => True

instance (env : SchoolEnv) (db : SchoolDB) (c : PlacementCall) : Decidable (NamesPlace env db c) :=
  match c with
  | .enrollment ⟨ctx, .create data _⟩ =>
    inferInstanceAs (Decidable (∀ schoolId, Enrollments.check env ctx db data = .ok schoolId → _))
  | .enrollment ⟨ctx, .transfer enrollmentId data _⟩ =>
    inferInstanceAs (Decidable (∀ old,
      Enrollments.transferable ctx db enrollmentId data = .ok old → _))
  | .enrollment ⟨_, .update _ _⟩ => .isTrue trivial
  | .enrollment ⟨_, .delete _ _⟩ => .isTrue trivial
  | .cohort _ => .isTrue trivial

lemma placed_put {e new : StudentEnrollment} (he : e ∈ db.enrollments)
    (hcohort : new.cohortId = e.cohortId) (hplace : new.place = e.place) (h : Placed db) :
    ∀ x ∈ db.enrollments.put new, db.placeOf x.cohortId = some x.place := by
  intro x hx
  rcases Table.mem_put.mp hx with ⟨hmem, _⟩ | ⟨rfl, _⟩
  · exact h x hmem
  · rw [hcohort, hplace]
    exact h e he

/-- **The places, one enrollment request.** -/
lemma EnrollmentEffect.placed {op : EnrollmentOp} {enrollments : Table StudentEnrollment.id}
    (heffect : EnrollmentEffect env ctx db op enrollments)
    (hnames : NamesPlace env db (.enrollment ⟨ctx, op⟩)) (h : Placed db) :
    ∀ x ∈ enrollments, db.placeOf x.cohortId = some x.place := by
  cases heffect with
  | create check references insert =>
    intro x hx
    rcases (Table.mem_of_insert insert).mp hx with hmem | rfl
    · exact h x hmem
    · exact hnames _ check
  | @update enrollmentId data e owned version status =>
    have hcohort := flushed_col StudentEnrollment.touch StudentEnrollment.cohortId (fun _ => rfl)
      e (Enrollments.applied ctx e data)
    have hplace := flushed_col StudentEnrollment.touch StudentEnrollment.place (fun _ => rfl)
      e (Enrollments.applied ctx e data)
    exact placed_put (enrollmentOwned_ok owned).2.1 hcohort hplace h
  | @transfer organizationId enrollmentId data id old enrollments transferable references insert =>
    intro x hx
    rcases (Table.mem_of_insert insert).mp hx with hmem | rfl
    · have hold := (enrollmentOwned_ok (transferable_ok transferable).1).2.1
      have hcohort : (Enrollments.ended ctx old data).touch.cohortId = old.cohortId := rfl
      exact placed_put hold hcohort rfl h x hmem
    · exact hnames old transferable
  | delete owned => exact fun x hx => h x (Table.mem_delete.mp hx).1

lemma placed_handle {c : PlacementCall} (hok : c.handle env db = .ok db')
    (hnames : NamesPlace env db c) (h : Placed db) : Placed db' := by
  cases c with
  | enrollment c =>
    obtain ⟨heffect, core, hframe⟩ := enrollmentHandle_ok hok
    intro x hx
    rw [hframe]
    exact heffect.placed hnames h x hx
  | cohort c =>
    obtain ⟨henrollments, hplace⟩ := cohortHandle_ok hok
    intro x hx
    rw [henrollments] at hx
    exact hplace _ _ (h x hx)

/-- The condition is no stronger than it must be: a request that goes through without it leaves an
enrollment out of place. -/
lemma placed_breaks {c : PlacementCall} (h : ¬ NamesPlace env db c)
    (hok : c.handle env db = .ok db') : ¬ Placed db' := by
  intro hplaced
  cases c with
  | cohort c => exact h trivial
  | enrollment c =>
    obtain ⟨ctx, op⟩ := c
    obtain ⟨heffect, core, hframe⟩ := enrollmentHandle_ok hok
    have hplaceOf : db'.placeOf = db.placeOf := by rw [hframe]; rfl
    unfold Placed at hplaced
    rw [hplaceOf] at hplaced
    dsimp only at heffect
    generalize db'.enrollments = enrollments at heffect hplaced
    cases heffect with
    | create check references insert =>
      refine h fun _ _ => ?_
      exact hplaced _ ((Table.mem_of_insert insert).mpr (.inr rfl))
    | @transfer organizationId enrollmentId data id old enrollments transferable references
        insert =>
      refine h fun old' hold' => ?_
      obtain rfl := Except.ok.inj (transferable.symm.trans hold')
      exact hplaced _ ((Table.mem_of_insert insert).mpr (.inr rfl))
    | update => exact h trivial
    | delete => exact h trivial

/-! ### Runs -/

/-- The database before any enrollment. -/
def SchoolDB.withoutEnrollments (db : SchoolDB) : SchoolDB := { db with enrollments := .empty _ }

/-- **Enrollments are placed with their cohorts**, as long as each new one names a cohort of its
year and its class. -/
theorem enrollments_placed (env : SchoolEnv) (db : SchoolDB) (l : List PlacementCall)
    (h : Along (PlacementCall.step env) (NamesPlace env) db.withoutEnrollments l) :
    Placed (run (PlacementCall.step env) db.withoutEnrollments l) := by
  have hstep : ∀ (d : SchoolDB) (c : PlacementCall), NamesPlace env d c → Placed d →
      Placed (c.step env d) := by
    intro d c hnames hplaced
    unfold PlacementCall.step
    split
    · next hok => exact placed_handle hok hnames hplaced
    · exact hplaced
  have hinit : Placed db.withoutEnrollments := fun _ he => absurd he Table.not_mem_empty
  exact invariant hstep h hinit

/-- A student of the small school is enrolled in a class, and then transferred to another cohort. -/
def enrollAndMove (enrolledClass : Ulid) : List PlacementCall :=
  [.cohort ⟨staff, .update 52
      ⟨some "Section C", none, none, 1, by decide, no_capacity, one_le_first⟩⟩,
    .enrollment ⟨staff,
      .create ⟨71, 21, enrolledClass, 51, none, 738010, .regular, no_rollNumber⟩ 401⟩,
    .enrollment ⟨staff, .transfer 401 ⟨52, 31, 738050⟩ 402⟩]

/-- The small school with a second class, which has no cohort. -/
def secondClass : SchoolDB :=
  { smallSchool with
    academicClasses := .ofRows _
      [⟨31, 11, 101, "C1", "Class 1", none, 0, .active, none, none, none, 1⟩,
      ⟨32, 11, 101, "C2", "Class 2", none, 0, .active, none, none, none, 1⟩] }

theorem enrollAndMove_placed : Placed (run (PlacementCall.step .plain)
    secondClass.withoutEnrollments (enrollAndMove 31)) :=
  enrollments_placed .plain secondClass _ (by decide)

/-- The class of the payload is not the class of the cohort. -/
theorem enrollAndMove_misplaced : ¬ ∀ (env : SchoolEnv) (db : SchoolDB) (l : List PlacementCall),
    Placed (run (PlacementCall.step env) db.withoutEnrollments l) := by
  intro h
  have hrun := h .plain secondClass (enrollAndMove 32)
  exact absurd hrun (by decide)

end SchoolOs
