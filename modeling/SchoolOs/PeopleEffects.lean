import SchoolOs.AttendanceMarks
import SchoolOs.Persons
import SchoolOs.Reimports

/-!
What requests on people do to the tables: which rows stay what they are, and of whom.
-/

namespace SchoolOs

/-- The address of a person, if there is one, is of the organization of the person. -/
def Addressed (addresses : Table Address.id) (p : Person) : Prop :=
  ∀ a ∈ p.addressId, ∃ row ∈ addresses, row.id = a ∧ row.organizationId = p.organizationId

/-- Schools and persons stay what they are, of whom they are. -/
structure Onward (db db' : SchoolDB) : Prop where
  schools : db'.core.schools = db.core.schools
  persons : ∀ p ∈ db.persons, ∃ p' ∈ db'.persons,
    p'.id = p.id ∧ p'.organizationId = p.organizationId

lemma Onward.refl (db : SchoolDB) : Onward db db where
  schools := rfl
  persons := fun p hp => ⟨p, hp, rfl, rfl⟩

section People

variable {env : SchoolEnv} {ctx : RequestContext} {clk : Clock} {db db' : SchoolDB}

/-- Students stay in their schools. -/
def StudentsOnward (db db' : SchoolDB) : Prop :=
  ∀ s ∈ db.students, ∃ s' ∈ db'.students, s'.id = s.id ∧ s'.schoolId = s.schoolId

/-- What requests on people do to the tables of the people. -/
structure PeopleOnward (db db' : SchoolDB) : Prop extends Onward db db' where
  addresses : db'.addresses = db.addresses
  addressed : (∀ p ∈ db.persons, Addressed db.addresses p) →
    ∀ p ∈ db'.persons, Addressed db.addresses p
  parents : db'.parents = db.parents
  students : StudentsOnward db db'

lemma StudentsOnward.refl (db : SchoolDB) : StudentsOnward db db := fun s hs => ⟨s, hs, rfl, rfl⟩

/-- Requests on students, teachers and assignments leave the persons as they are. -/
lemma peopleOnward_same (hschools : db'.core.schools = db.core.schools)
    (hpersons : db'.persons = db.persons) (haddresses : db'.addresses = db.addresses)
    (hparents : db'.parents = db.parents) (hstudents : StudentsOnward db db') :
    PeopleOnward db db' where
  schools := hschools
  persons := fun p hp => ⟨p, hpersons ▸ hp, rfl, rfl⟩
  addresses := haddresses
  addressed := fun h => hpersons ▸ h
  parents := hparents
  students := hstudents

lemma PeopleOnward.log (h : PeopleOnward db db') (row : AuditLog) :
    PeopleOnward db (db'.log row) :=
  { h with }

lemma peopleOnward_insert {p : Person} {persons : Table Person.id}
    (h : db.persons.insert p = some persons) (hp : Addressed db.addresses p) :
    PeopleOnward db { db with persons := persons } where
  schools := rfl
  persons := fun q hq => ⟨q, (Table.mem_of_insert h).mpr (.inl hq), rfl, rfl⟩
  addresses := rfl
  addressed := by
    intro hall q hq
    rcases (Table.mem_of_insert h).mp hq with hold | rfl
    · exact hall q hold
    · exact hp
  parents := rfl
  students := .refl db

lemma peopleOnward_save {old new : Person} (hold : old ∈ db.persons) (hid : new.id = old.id)
    (horganization : new.organizationId = old.organizationId)
    (hnew : Addressed db.addresses old → Addressed db.addresses new) :
    PeopleOnward db { db with persons := db.persons.put (flushed Person.touch old new) } := by
  have hcol := fun {γ : Type} (col : Person → γ) (hc : ∀ r : Person, col r.touch = col r) =>
    flushed_col Person.touch col hc old new
  have hfid : (flushed Person.touch old new).id = old.id := (hcol Person.id fun _ => rfl).trans hid
  have hforganization : (flushed Person.touch old new).organizationId = old.organizationId :=
    (hcol Person.organizationId fun _ => rfl).trans horganization
  refine ⟨⟨rfl, kept_put Person.organizationId hold hfid.symm hforganization⟩, rfl,
    fun hall p hp => ?_, rfl, .refl db⟩
  rcases Table.mem_put.mp hp with ⟨hkept, _⟩ | ⟨rfl, _⟩
  · exact hall p hkept
  · have haddressed := hnew (hall old hold)
    intro a ha
    rw [hcol Person.addressId fun _ => rfl] at ha
    obtain ⟨row, hrow, hrid, hrorganization⟩ := haddressed a ha
    exact ⟨row, hrow, hrid, hrorganization.trans (hcol Person.organizationId fun _ => rfl).symm⟩

/-! ### Persons -/

/-- An address that is checked is of the organization of the request. -/
lemma yields_assertAddressOwned {addressId : Option Ulid} {R : Unit → Prop} :
    Yields (Persons.assertAddressOwned ctx db addressId) R ↔
      ((∀ a ∈ addressId, ∃ row ∈ db.addresses, row.id = a ∧
        some row.organizationId = ctx.organizationId) → R ()) := by
  cases addressId with
  | none => simp [Persons.assertAddressOwned]
  | some a =>
    simp only [Persons.assertAddressOwned, yields_bind, yields_found, yields_pure, getAddress,
      Option.filter_eq_some_iff, Table.get_eq_some, decide_eq_true_eq, Option.mem_some_iff,
      forall_eq']
    constructor
    · rintro h ⟨row, hrow, hid, horganization⟩
      exact h row ⟨⟨hrow, hid⟩, horganization⟩
    · rintro h row ⟨⟨hrow, hid⟩, horganization⟩
      exact h ⟨row, hrow, hid, horganization⟩

lemma personOwned_organization {personId : Ulid} {p : Person}
    (h : Persons.getOwned ctx db personId = .ok p) :
    p ∈ db.persons ∧ ctx.organizationId = some p.organizationId := by
  obtain ⟨organizationId, hctx, h⟩ := bind_ok.mp h
  obtain ⟨hget, hp⟩ := Option.filter_eq_some_iff.mp (found_ok.mp h)
  exact ⟨(Table.get_eq_some.mp hget).1,
    (found_ok.mp hctx).trans (of_decide_eq_true hp).1.symm⟩

lemma personSave_onward {old new : Person} (hold : old ∈ db.persons) (hid : new.id = old.id)
    (horganization : new.organizationId = old.organizationId)
    (hnew : Addressed db.addresses old → Addressed db.addresses new) :
    Yields (Persons.save db old new) (PeopleOnward db) := by
  intro db' h
  obtain rfl := personSave_ok h
  exact peopleOnward_save hold hid horganization hnew

lemma person_onward {c : PersonCall} : Yields (c.handle env db) (PeopleOnward db) := by
  obtain ⟨ctx, clk, op⟩ := c
  cases op with
  | create data id =>
    simp only [PersonCall.handle, Persons.create, Persons.insertRow, yields_map, yields_bind,
      yields_found, yields_assertAddressOwned, yields_ensure, yields_audit, yields_pure]
    intro organizationId hctx haddress hfits persons hinsert _ _
    refine (peopleOnward_insert hinsert fun a ha => ?_).log _
    obtain ⟨row, hrow, hid, horganization⟩ := haddress a ha
    exact ⟨row, hrow, hid, Option.some.inj (horganization.trans hctx)⟩
  | update personId data =>
    simp only [PersonCall.handle, Persons.update, yields_map, yields_bind,
      yields_assertAddressOwned, yields_ensure, yields_audit, yields_pure]
    intro p howned _ haddress
    obtain ⟨hmem, hctx⟩ := personOwned_organization howned
    refine Yields.imp (personSave_onward hmem rfl rfl fun hold a ha => ?_) fun _ h _ => h.log _
    -- A new address is checked, and the one that was there is kept.
    rcases Option.or_eq_some_iff.mp (Option.mem_def.mp ha) with hgiven | ⟨_, hkept⟩
    · obtain ⟨row, hrow, hid, horganization⟩ := haddress a hgiven
      exact ⟨row, hrow, hid, Option.some.inj (horganization.trans hctx)⟩
    · exact hold a hkept
  | delete personId version =>
    simp only [PersonCall.handle, Persons.delete, yields_bind, yields_ensure, yields_audit]
    intro p howned _
    exact Yields.imp (personSave_onward (personOwned_organization howned).1 rfl rfl id)
      fun _ h _ => h.log _
  | merge personId data =>
    simp only [PersonCall.handle, Persons.merge, yields_map, yields_bind, yields_found,
      yields_ensure, yields_audit, yields_pure]
    intro p howned _ _ target _
    exact Yields.imp (personSave_onward (personOwned_organization howned).1 rfl rfl id)
      fun _ h _ => h.log _

/-! ### Students, teachers, assignments -/

lemma studentSave_onward {old new : Student} (hold : old ∈ db.students) (hid : new.id = old.id)
    (hschool : new.schoolId = old.schoolId) :
    Yields (Students.save db old new) (PeopleOnward db) := by
  simp only [Students.save, yields_ite, yields_bind, yields_ensure, yields_pure]
  refine ⟨fun _ => peopleOnward_same rfl rfl rfl rfl (.refl db), fun _ _ => ?_⟩
  exact peopleOnward_same rfl rfl rfl rfl (kept_put Student.schoolId hold hid.symm hschool)

lemma studentOwned_mem {studentId : Ulid} {student : Student}
    (h : Students.getOwned ctx db studentId = .ok student) : student ∈ db.students := by
  obtain ⟨schoolId, _, h⟩ := bind_ok.mp h
  exact (Table.get_eq_some.mp (Option.filter_eq_some_iff.mp (found_ok.mp h)).1).1

lemma student_onward {c : StudentCall} : Yields (c.handle env db) (PeopleOnward db) := by
  refine RowOp.yields (fun data id => ?_) (fun _ student howned data => ?_)
    fun _ student howned version => ?_
  · simp only [Students.create, Students.insertRow, yields_bind, yields_found, yields_ensureAbsent,
      yields_ensure, yields_audit, yields_pure]
    intro _ _ _ _ _ _ _ _ students hinsert _ _
    refine peopleOnward_same rfl rfl rfl rfl fun s hs => ?_
    exact ⟨s, (Table.mem_of_insert hinsert).mpr (.inl hs), rfl, rfl⟩
  · simp only [Students.update, yields_bind, yields_ensure, yields_audit, yields_pure]
    exact fun _ => Yields.imp (studentSave_onward (studentOwned_mem howned) rfl rfl)
      fun _ h _ => h.log _
  · simp only [Students.delete, yields_bind, yields_ensure, yields_audit]
    exact fun _ => Yields.imp (studentSave_onward (studentOwned_mem howned) rfl rfl)
      fun _ h _ => h.log _

lemma teacherSave_onward {old new : Teacher} :
    Yields (Teachers.save db old new) (PeopleOnward db) := by
  simp only [Teachers.save, yields_ite, yields_bind, yields_ensure, yields_pure]
  exact ⟨fun _ => peopleOnward_same rfl rfl rfl rfl (.refl db),
    fun _ _ => peopleOnward_same rfl rfl rfl rfl (.refl db)⟩

lemma teacher_onward {c : TeacherCall} : Yields (c.handle env db) (PeopleOnward db) := by
  refine RowOp.yields (fun data id => ?_) (fun _ teacher _ data => ?_) fun _ teacher _ version => ?_
  · simp only [Teachers.create, Teachers.insertRow, yields_bind, yields_found, yields_ensureAbsent,
      yields_ensure, yields_audit, yields_pure]
    intro _ _ _ _ _
    refine .of_forall fun _ => ?_
    intros
    exact peopleOnward_same rfl rfl rfl rfl (.refl db)
  · simp only [Teachers.update, yields_bind, yields_ensure, yields_audit, yields_pure]
    exact fun _ => .of_forall fun _ => Yields.imp teacherSave_onward fun _ h _ => h.log _
  · simp only [Teachers.delete, yields_bind, yields_ensure, yields_audit]
    exact fun _ => Yields.imp teacherSave_onward fun _ h _ => h.log _

lemma assignmentSave_onward {old new : TeacherAssignment} :
    Yields (Assignments.save db old new) (PeopleOnward db) := by
  simp only [Assignments.save, yields_ite, yields_bind, yields_ensure, yields_pure]
  exact ⟨fun _ => peopleOnward_same rfl rfl rfl rfl (.refl db),
    fun _ _ => peopleOnward_same rfl rfl rfl rfl (.refl db)⟩

lemma assignment_onward {c : AssignmentRequest} :
    Yields (Prod.snd <$> c.handle env db) (PeopleOnward db) := by
  obtain ⟨ctx, clk, op⟩ := c
  cases op with
  | create data id =>
    simp only [AssignmentRequest.handle, Assignments.create, Assignments.insertRow, yields_map,
      yields_bind, yields_found, yields_ensure, yields_audit, yields_pure]
    intros
    exact peopleOnward_same rfl rfl rfl rfl (.refl db)
  | update assignmentId data =>
    simp only [AssignmentRequest.handle, Assignments.update, yields_map, yields_bind,
      yields_ensure, yields_audit, yields_pure]
    exact .of_forall fun _ _ => Yields.imp assignmentSave_onward fun _ h _ => h.log _
  | finish assignmentId version =>
    simp only [AssignmentRequest.handle, Assignments.endAssignment, yields_map, yields_bind,
      yields_ensure, yields_audit, yields_pure]
    exact .of_forall fun _ _ => Yields.imp assignmentSave_onward fun _ h _ => h.log _

/-- **Requests on people** take the directory onward. -/
lemma people_onward (c : PeopleCall) : Yields (c.handle env db) (PeopleOnward db) := by
  cases c with
  | person c => exact person_onward
  | student c => exact student_onward
  | teacher c => exact teacher_onward
  | assignment c => exact assignment_onward

end People

end SchoolOs
