import SchoolOs.Persons

/-!
Parent business logic: the parents of a school, each a person of its organization.
-/

namespace SchoolOs

/-! ### Payloads -/

structure ParentCreate where
  personId : Ulid
  occupation : Option String
  workplace : Option String
  occupation_length : ∀ o ∈ occupation, o.length ≤ 200
  workplace_length : ∀ w ∈ workplace, w.length ≤ 200

/-- Fields that are not given, or given as `None`, are not written. -/
structure ParentUpdate where
  occupation : Option String
  workplace : Option String
  status : Option ParentStatus
  version : ℕ
  occupation_length : ∀ o ∈ occupation, o.length ≤ 200
  workplace_length : ∀ w ∈ workplace, w.length ≤ 200
  one_le_version : 1 ≤ version

def parentSnapshot (parent : Parent) : Snapshot :=
  [("occupation", .opt .text parent.occupation), ("workplace", .opt .text parent.workplace),
    ("status", .text parent.status.value)]

def Parent.touch (p : Parent) : Parent := { p with version := p.version + 1 }

/-! ### Data access -/

section Repository

variable (db : SchoolDB) (schoolId : Ulid)

def getParent (parentId : Ulid) : Option Parent :=
  (db.parents.get parentId).filter fun p => p.schoolId = schoolId ∧ p.deletedAt = none

def getParentByPersonId (personId : Ulid) : Option Parent :=
  db.parents.rows.find? fun p =>
    p.schoolId = schoolId ∧ p.personId = personId ∧ p.deletedAt = none

end Repository

/-! ### Services -/

namespace Parents

section Service

variable (env : SchoolEnv) (clk : Clock) (ctx : RequestContext) (db : SchoolDB)

def notFound : ApiError := notFoundError "The parent was not found." "PARENT_NOT_FOUND"

/-- The unique constraint of `parents`, deleted rows included. -/
def SamePerson (a b : Parent) : Prop := a.schoolId = b.schoolId ∧ a.personId = b.personId

instance : DecidableRel SamePerson := fun a b =>
  inferInstanceAs (Decidable (a.schoolId = b.schoolId ∧ a.personId = b.personId))

/-- The insert, with its constraints. -/
def insertRow (parent : Parent) : Fallible SchoolDB := do
  let parents ← found (db.parents.insert parent) internalError
  ensure ((∀ p ∈ db.parents, ¬ SamePerson p parent) ∧ db.HasSchool parent.schoolId ∧
    (db.persons.get parent.personId).isSome ∧ varchar 200 parent.occupation = true ∧
    varchar 200 parent.workplace = true) internalError
  return { db with parents := parents }

/-- The row of a new parent. -/
def created (schoolId organizationId : Ulid) (data : ParentCreate) (id : Ulid) : Parent where
  id := id
  schoolId := schoolId
  organizationId := organizationId
  personId := data.personId
  occupation := data.occupation
  workplace := data.workplace
  status := .active
  deletedAt := none
  createdById := ctx.userId
  updatedById := none
  version := 1

def create (data : ParentCreate) (id : Ulid) : Fallible (Parent × SchoolDB) := do
  let schoolId ← found ctx.schoolId noSchool
  let _ ← found (getPerson db ctx.organizationId data.personId)
    (notFoundError "The specified person does not exist in this organization." "PERSON_NOT_FOUND")
  ensureAbsent (getParentByPersonId db schoolId data.personId) fun _ =>
    conflictError "This person is already registered as a parent at this school."
      "PERSON_ALREADY_PARENT" [("person_id", .id data.personId)]
  let organizationId ← found ctx.organizationId internalError
  let parent := created ctx schoolId organizationId data id
  let db ← insertRow db parent
  let db ← db.audit env ctx
    { action := "PARENT_CREATED", entityType := "parent", entityId := some parent.id,
      summary := some ("Parent record created for person " ++ data.personId.repr),
      after := some (parentSnapshot parent) }
  return (parent, db)

/-- The row with the fields of the payload that are given. -/
def applied (parent : Parent) (data : ParentUpdate) : Parent :=
  { parent with
    occupation := data.occupation.or parent.occupation
    workplace := data.workplace.or parent.workplace
    status := data.status.getD parent.status
    updatedById := ctx.userId }

/-- The flush of a changed row. -/
def save (old new : Parent) : Fallible SchoolDB :=
  if new = old then return db
  else do
    ensure ((∀ p ∈ db.parents, p.id ≠ new.id → ¬ SamePerson p new) ∧
      varchar 200 new.occupation = true ∧ varchar 200 new.workplace = true) internalError
    return { db with parents := db.parents.put new.touch }

def update (parent : Parent) (data : ParentUpdate) : Fallible (Parent × SchoolDB) := do
  ensure (parent.version = data.version) staleResourceError
  let new := applied ctx parent data
  let db ← save db parent new
  let db ← db.audit env ctx
    { action := "PARENT_UPDATED", entityType := "parent", entityId := some parent.id,
      summary := some ("Parent " ++ parent.id.repr ++ " updated"),
      before := some (parentSnapshot parent), after := some (parentSnapshot new) }
  return (flushed Parent.touch parent new, db)

/-- Rows of parents are not removed. -/
def delete (parent : Parent) (version : ℕ) : Fallible SchoolDB := do
  ensure (parent.version = version) staleResourceError
  let db ← save db parent { parent with deletedAt := some clk.now, updatedById := ctx.userId }
  db.audit env ctx
    { action := "PARENT_DELETED", entityType := "parent", entityId := some parent.id,
      summary := some ("Parent " ++ parent.id.repr ++ " deleted"),
      before := some (parentSnapshot parent) }

/-- The parent, in the school of the request. -/
def get (parentId : Ulid) : Fallible Parent := do
  let schoolId ← found ctx.schoolId notFound
  found (getParent db schoolId parentId) notFound

end Service

end Parents

end SchoolOs
