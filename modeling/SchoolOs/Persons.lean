import SchoolOs.Timetables

/-!
Person business logic: the identities of an organization, and merging one into another.
-/

namespace SchoolOs

/-! ### Payloads -/

/-- The fields of a person that are text and may be missing. -/
structure PersonTexts where
  middleName : Option String
  lastName : Option String
  preferredName : Option String
  gender : Option String
  bloodGroup : Option String
  nationality : Option String
  primaryPhone : Option String
  primaryEmail : Option String
  middleName_length : ∀ s ∈ middleName, s.length ≤ 100
  lastName_length : ∀ s ∈ lastName, s.length ≤ 100
  preferredName_length : ∀ s ∈ preferredName, s.length ≤ 100
  gender_length : ∀ s ∈ gender, s.length ≤ 24
  bloodGroup_length : ∀ s ∈ bloodGroup, s.length ≤ 8
  nationality_length : ∀ s ∈ nationality, s.length ≤ 60
  primaryPhone_length : ∀ s ∈ primaryPhone, s.length ≤ 24
  primaryEmail_length : ∀ s ∈ primaryEmail, s.length ≤ 255

structure PersonCreate extends PersonTexts where
  firstName : String
  dateOfBirth : Option Date
  addressId : Option Ulid
  customFields : Payload
  firstName_length : 1 ≤ firstName.length ∧ firstName.length ≤ 100

/-- Fields that are not given, or given as `None`, are not written. -/
structure PersonUpdate extends PersonTexts where
  firstName : Option String
  dateOfBirth : Option Date
  addressId : Option Ulid
  customFields : Option Payload
  version : ℕ
  firstName_length : ∀ s ∈ firstName, 1 ≤ s.length ∧ s.length ≤ 100
  one_le_version : 1 ≤ version

structure PersonMerge where
  targetPersonId : Ulid
  version : ℕ
  one_le_version : 1 ≤ version

/-- No text is given. -/
def PersonTexts.none : PersonTexts where
  middleName := .none
  lastName := .none
  preferredName := .none
  gender := .none
  bloodGroup := .none
  nationality := .none
  primaryPhone := .none
  primaryEmail := .none
  middleName_length := nofun
  lastName_length := nofun
  preferredName_length := nofun
  gender_length := nofun
  bloodGroup_length := nofun
  nationality_length := nofun
  primaryPhone_length := nofun
  primaryEmail_length := nofun

/-- The date of birth goes into the snapshot as it is. -/
def personSnapshot (p : Person) : Snapshot :=
  [("first_name", .text p.firstName), ("middle_name", .opt .text p.middleName),
    ("last_name", .opt .text p.lastName), ("preferred_name", .opt .text p.preferredName),
    ("date_of_birth", .opt .date p.dateOfBirth), ("gender", .opt .text p.gender),
    ("blood_group", .opt .text p.bloodGroup), ("nationality", .opt .text p.nationality),
    ("primary_phone", .opt .text p.primaryPhone), ("primary_email", .opt .text p.primaryEmail),
    ("address_id", .opt .id p.addressId), ("status", .text p.status.value)]

def Person.touch (p : Person) : Person := { p with version := p.version + 1 }

/-! ### Columns -/

mutual

/-- What a JSONB column stores: texts without NUL characters. -/
def Json.storable : Json → Bool
  | .str s => bindable s
  | .arr items => Json.storableItems items
  | .obj fields => Json.storableFields fields
  | .null | .bool _ | .num _ => true

def Json.storableItems : List Json → Bool
  | [] => true
  | j :: items => j.storable && Json.storableItems items

def Json.storableFields : List (String × Json) → Bool
  | [] => true
  | (k, j) :: fields => bindable k && j.storable && Json.storableFields fields

end

/-- The columns store the row. -/
def Person.Fits (p : Person) : Prop :=
  bindable p.firstName = true ∧ varchar 100 p.middleName = true ∧ varchar 100 p.lastName = true ∧
    varchar 100 p.preferredName = true ∧ varchar 24 p.gender = true ∧
    varchar 8 p.bloodGroup = true ∧ varchar 60 p.nationality = true ∧
    varchar 24 p.primaryPhone = true ∧ varchar 255 p.primaryEmail = true ∧
    Json.storableFields p.customFields = true

instance (p : Person) : Decidable p.Fits :=
  inferInstanceAs (Decidable (_ ∧ _ ∧ _ ∧ _ ∧ _ ∧ _ ∧ _ ∧ _ ∧ _ ∧ _))

/-! ### Data access -/

section Repository

variable (db : SchoolDB)

/-- The person, if the organization of the request has them. -/
def getPerson (organizationId : Option Ulid) (personId : Ulid) : Option Person :=
  (db.persons.get personId).filter fun p =>
    some p.organizationId = organizationId ∧ p.deletedAt = none

def getAddress (organizationId : Option Ulid) (addressId : Ulid) : Option Address :=
  (db.addresses.get addressId).filter fun a => some a.organizationId = organizationId

end Repository

/-! ### Services -/

namespace Persons

section Service

variable (env : SchoolEnv) (clk : Clock) (ctx : RequestContext) (db : SchoolDB)

def notFound : ApiError := notFoundError "The person was not found." "PERSON_NOT_FOUND"
def targetNotFound : ApiError :=
  notFoundError "The target person was not found." "PERSON_NOT_FOUND"

/-- The foreign keys of a row, and the check that it is not merged into itself. -/
def References (p : Person) : Prop :=
  (∀ a ∈ p.addressId, (db.addresses.get a).isSome) ∧
    (∀ q ∈ p.mergedIntoPersonId, (db.persons.get q).isSome) ∧ p.mergedIntoPersonId ≠ some p.id

instance (p : Person) : Decidable (References db p) :=
  inferInstanceAs (Decidable ((∀ a ∈ p.addressId, (db.addresses.get a).isSome) ∧
    (∀ q ∈ p.mergedIntoPersonId, (db.persons.get q).isSome) ∧ p.mergedIntoPersonId ≠ some p.id))

/-- The insert, with its constraints. -/
def insertRow (p : Person) : Fallible SchoolDB := do
  ensure p.Fits internalError
  let persons ← found (db.persons.insert p) internalError
  ensure (References db p) internalError
  return { db with persons := persons }

/-- The flush of a changed row. -/
def save (old new : Person) : Fallible SchoolDB := do
  ensure (new.Fits ∧ References db new) internalError
  return { db with persons := db.persons.put (flushed Person.touch old new) }

/-- An address that is given belongs to the organization. -/
def assertAddressOwned : Option Ulid → Fallible Unit
  | none => return
  | some addressId => do
    let _ ← found (getAddress db ctx.organizationId addressId)
      (notFoundError "The address was not found." "ADDRESS_NOT_FOUND")

/-- The row of a new person. -/
def created (organizationId : Ulid) (data : PersonCreate) (id : Ulid) : Person where
  id := id
  organizationId := organizationId
  firstName := data.firstName
  middleName := data.middleName
  lastName := data.lastName
  preferredName := data.preferredName
  dateOfBirth := data.dateOfBirth
  gender := data.gender
  bloodGroup := data.bloodGroup
  nationality := data.nationality
  primaryPhone := data.primaryPhone
  primaryEmail := data.primaryEmail
  addressId := data.addressId
  status := .active
  mergedIntoPersonId := none
  customFields := data.customFields
  deletedAt := none
  createdById := ctx.userId
  updatedById := none
  version := 1

def create (data : PersonCreate) (id : Ulid) : Fallible (Person × SchoolDB) := do
  let organizationId ← found ctx.organizationId
    (invalidRequestError "No organization context is set for this request.")
  assertAddressOwned ctx db data.addressId
  let p := created ctx organizationId data id
  let db ← insertRow db p
  let db ← db.audit env ctx
    { action := "PERSON_CREATED", entityType := "person", entityId := some p.id,
      -- The text begins with a letter, so that stripping it is stripping its end.
      summary := some (env.strip ("Person " ++ p.firstName ++ " " ++ p.lastName.getD "")),
      after := some (personSnapshot p) }
  return (p, db)

/-- The row with the fields of the payload that are given. -/
def applied (p : Person) (data : PersonUpdate) : Person :=
  { p with
    firstName := data.firstName.getD p.firstName
    middleName := data.middleName.or p.middleName
    lastName := data.lastName.or p.lastName
    preferredName := data.preferredName.or p.preferredName
    dateOfBirth := data.dateOfBirth.or p.dateOfBirth
    gender := data.gender.or p.gender
    bloodGroup := data.bloodGroup.or p.bloodGroup
    nationality := data.nationality.or p.nationality
    primaryPhone := data.primaryPhone.or p.primaryPhone
    primaryEmail := data.primaryEmail.or p.primaryEmail
    addressId := data.addressId.or p.addressId
    customFields := data.customFields.getD p.customFields
    updatedById := ctx.userId }

def update (p : Person) (data : PersonUpdate) : Fallible (Person × SchoolDB) := do
  ensure (p.version = data.version) staleResourceError
  assertAddressOwned ctx db data.addressId
  let new := applied ctx p data
  let db ← save db p new
  let db ← db.audit env ctx
    { action := "PERSON_UPDATED", entityType := "person", entityId := some p.id,
      summary := some "Person updated",
      before := some (personSnapshot p), after := some (personSnapshot new) }
  return (flushed Person.touch p new, db)

/-- Rows of persons are not removed. -/
def delete (p : Person) (version : ℕ) : Fallible SchoolDB := do
  ensure (p.version = version) staleResourceError
  let db ← save db p { p with deletedAt := some clk.now, updatedById := ctx.userId }
  db.audit env ctx
    { action := "PERSON_DELETED", entityType := "person", entityId := some p.id,
      summary := some "Person deleted", before := some (personSnapshot p) }

/-- The row of a person merged into another. -/
def merged (p : Person) (targetId : Ulid) : Person :=
  { p with status := .merged, mergedIntoPersonId := some targetId, updatedById := ctx.userId }

/-- Merge a person into the target: mark it, and point at the target. -/
def merge (p : Person) (data : PersonMerge) : Fallible (Person × SchoolDB) := do
  ensure (p.version = data.version) staleResourceError
  ensure (p.id ≠ data.targetPersonId)
    (conflictError "A person cannot be merged into itself." "PERSON_MERGE_SELF" [])
  let target ← found (getPerson db ctx.organizationId data.targetPersonId) targetNotFound
  let new := merged ctx p target.id
  let db ← save db p new
  let db ← db.audit env ctx
    { action := "PERSON_MERGED", entityType := "person", entityId := some p.id,
      summary := some ("Person merged into " ++ target.id.text),
      before := some (personSnapshot p), after := some (personSnapshot new) }
  return (flushed Person.touch p new, db)

def getOwned (personId : Ulid) : Fallible Person := do
  let organizationId ← found ctx.organizationId notFound
  found (getPerson db (some organizationId) personId) notFound

end Service

end Persons

/-! ### Requests -/

inductive PersonOp
  | create (data : PersonCreate) (id : Ulid)
  | update (personId : Ulid) (data : PersonUpdate)
  | delete (personId : Ulid) (version : ℕ)
  | merge (personId : Ulid) (data : PersonMerge)

/-- A request on persons, with its context and time. -/
structure PersonCall where
  ctx : RequestContext
  clk : Clock
  op : PersonOp

def PersonCall.handle (env : SchoolEnv) (db : SchoolDB) (c : PersonCall) : Fallible SchoolDB :=
  match c.op with
  | .create data id => Prod.snd <$> Persons.create env c.ctx db data id
  | .update personId data => do
    let p ← Persons.getOwned c.ctx db personId
    Prod.snd <$> Persons.update env c.ctx db p data
  | .delete personId version => do
    let p ← Persons.getOwned c.ctx db personId
    Persons.delete env c.clk c.ctx db p version
  | .merge personId data => do
    let p ← Persons.getOwned c.ctx db personId
    Prod.snd <$> Persons.merge env c.ctx db p data

/-- A failed request leaves no trace. -/
def PersonCall.step (env : SchoolEnv) (db : SchoolDB) (c : PersonCall) : SchoolDB :=
  match c.handle env db with
  | .ok db' => db'
  | .error _ => db

end SchoolOs
