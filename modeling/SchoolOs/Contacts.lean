import SchoolOs.Memberships
import SchoolOs.Persons

/-!
Contact and address business logic. The owner of a contact or an address is a person or a school,
named by its kind and its id.
-/

namespace SchoolOs

/-! ### Rows -/

inductive ContactType
  | phone | email | whatsapp
  deriving DecidableEq

def ContactType.value : ContactType → String
  | .phone => "PHONE"
  | .email => "EMAIL"
  | .whatsapp => "WHATSAPP"

inductive AddressType
  | residential | permanent | correspondence | campus | other
  deriving DecidableEq

def AddressType.value : AddressType → String
  | .residential => "RESIDENTIAL"
  | .permanent => "PERMANENT"
  | .correspondence => "CORRESPONDENCE"
  | .campus => "CAMPUS"
  | .other => "OTHER"

structure Contact where
  id : Ulid
  organizationId : Ulid
  entityType : String
  entityId : Ulid
  contactType : ContactType
  value : String
  label : Option String
  isPrimary : Bool
  isEmergency : Bool
  deriving DecidableEq

/-- The lines of an address, which may be missing. -/
structure AddressLines where
  line1 : Option String
  line2 : Option String
  landmark : Option String
  city : Option String
  district : Option String
  state : Option String
  postalCode : Option String
  deriving DecidableEq

/-- The columns of an address beside its organization. -/
structure AddressEntry extends AddressLines where
  id : Ulid
  entityType : String
  entityId : Ulid
  addressType : AddressType
  countryCode : String
  isPrimary : Bool
  version : ℕ
  deriving DecidableEq

def AddressEntry.touch (a : AddressEntry) : AddressEntry := { a with version := a.version + 1 }

/-- The tables of a school database, with the contacts, and what `addresses` has beside them. -/
structure ContactDB extends SchoolDB where
  contacts : Table Contact.id
  addressEntries : Table AddressEntry.id

def SchoolDB.withoutContacts (db : SchoolDB) : ContactDB where
  toSchoolDB := { db with addresses := .empty _, persons := .empty _ }
  contacts := .empty _
  addressEntries := .empty _

/-! ### Payloads -/

structure ContactCreate where
  entityType : String
  entityId : Ulid
  contactType : ContactType
  value : String
  label : Option String
  isPrimary : Bool
  isEmergency : Bool
  entityType_length : 1 ≤ entityType.length ∧ entityType.length ≤ 24
  value_length : 1 ≤ value.length ∧ value.length ≤ 255
  label_length : ∀ s ∈ label, s.length ≤ 60

/-- Fields that are not given, or given as `None`, are not written. -/
structure ContactUpdate where
  contactType : Option ContactType
  value : Option String
  label : Option String
  isPrimary : Option Bool
  isEmergency : Option Bool
  value_length : ∀ s ∈ value, 1 ≤ s.length ∧ s.length ≤ 255
  label_length : ∀ s ∈ label, s.length ≤ 60

/-- The lengths that the schemas admit. -/
structure AddressLines.Short (lines : AddressLines) : Prop where
  line1 : ∀ s ∈ lines.line1, s.length ≤ 200
  line2 : ∀ s ∈ lines.line2, s.length ≤ 200
  landmark : ∀ s ∈ lines.landmark, s.length ≤ 160
  city : ∀ s ∈ lines.city, s.length ≤ 120
  district : ∀ s ∈ lines.district, s.length ≤ 120
  state : ∀ s ∈ lines.state, s.length ≤ 120
  postalCode : ∀ s ∈ lines.postalCode, s.length ≤ 16

structure AddressCreate where
  entityType : String
  entityId : Ulid
  addressType : AddressType
  lines : AddressLines
  countryCode : String
  isPrimary : Bool
  entityType_length : 1 ≤ entityType.length ∧ entityType.length ≤ 24
  lines_short : lines.Short
  countryCode_length : countryCode.length = 2

structure AddressUpdate where
  addressType : Option AddressType
  lines : AddressLines
  countryCode : Option String
  isPrimary : Option Bool
  version : ℕ
  lines_short : lines.Short
  countryCode_length : ∀ s ∈ countryCode, s.length = 2
  one_le_version : 1 ≤ version

/-! ### Snapshots and columns -/

def contactSnapshot (c : Contact) : Snapshot :=
  [("entity_type", .text c.entityType), ("entity_id", .id c.entityId),
    ("contact_type", .text c.contactType.value), ("value", .text c.value),
    ("label", .opt .text c.label), ("is_primary", .bool c.isPrimary),
    ("is_emergency", .bool c.isEmergency)]

def addressSnapshot (a : AddressEntry) : Snapshot :=
  [("entity_type", .text a.entityType), ("entity_id", .id a.entityId),
    ("address_type", .text a.addressType.value), ("line1", .opt .text a.line1),
    ("line2", .opt .text a.line2), ("landmark", .opt .text a.landmark),
    ("city", .opt .text a.city), ("district", .opt .text a.district),
    ("state", .opt .text a.state), ("postal_code", .opt .text a.postalCode),
    ("country_code", .text a.countryCode), ("is_primary", .bool a.isPrimary)]

/-- The columns store the row. -/
def Contact.Fits (c : Contact) : Prop := bindable c.value = true ∧ varchar 60 c.label = true

instance Contact.decidableFits (c : Contact) : Decidable c.Fits :=
  inferInstanceAs (Decidable (_ ∧ _))

def AddressEntry.Fits (a : AddressEntry) : Prop :=
  varchar 200 a.line1 = true ∧ varchar 200 a.line2 = true ∧ varchar 160 a.landmark = true ∧
    varchar 120 a.city = true ∧ varchar 120 a.district = true ∧ varchar 120 a.state = true ∧
    varchar 16 a.postalCode = true ∧ bindable a.countryCode = true

instance AddressEntry.decidableFits (a : AddressEntry) : Decidable a.Fits :=
  inferInstanceAs (Decidable (_ ∧ _ ∧ _ ∧ _ ∧ _ ∧ _ ∧ _ ∧ _))

/-- The unique constraint of `contacts`, which knows no organization. -/
def SameContact (a b : Contact) : Prop :=
  a.entityType = b.entityType ∧ a.entityId = b.entityId ∧ a.contactType = b.contactType ∧
    a.value = b.value

instance SameContact.decidable : DecidableRel SameContact := fun _ _ =>
  inferInstanceAs (Decidable (_ ∧ _ ∧ _ ∧ _))

/-! ### Owners -/

section Owners

variable (env : SchoolEnv) (ctx : RequestContext) (db : SchoolDB)

def unsupportedEntityType (entityType : String) (allowed : List String) : ApiError :=
  invalidRequestErrorWith ("Unsupported entity_type " ++ env.repr entityType ++ ". Allowed: " ++
    ", ".intercalate allowed ++ ".") "UNSUPPORTED_ENTITY_TYPE" []

/-- `_assert_entity_owned`, of the contacts as of the addresses. -/
def assertEntityOwned (organizationId : Ulid) (entityType : String) (entityId : Ulid) :
    Fallible Unit :=
  if entityType = "SCHOOL" then do
    let _ ← found (getSchool db.core organizationId entityId)
      (notFoundError "The owning school was not found." "SCHOOL_NOT_FOUND")
  else if entityType = "PERSON" then do
    let _ ← found (getPerson db (some organizationId) entityId)
      (notFoundError "The owning person was not found." "PERSON_NOT_FOUND")
  else return

def noOrganizationContext : ApiError :=
  invalidRequestError "No organization context is set for this request."

/-- `audit`, in the transaction of a service on contacts. -/
def ContactDB.audit (db : ContactDB) (entry : AuditEntry) : Fallible ContactDB := do
  let school ← db.toSchoolDB.audit env ctx entry
  return { db with toSchoolDB := school }

end Owners

/-! ### Contacts -/

namespace Contacts

section Service

variable (env : SchoolEnv) (ctx : RequestContext) (db : ContactDB)

def allowedEntityTypes : List String := ["PERSON", "SCHOOL"]

def notFound : ApiError := notFoundError "The contact was not found." "CONTACT_NOT_FOUND"

def contactExists (data : ContactCreate) : ApiError :=
  conflictError "This contact already exists for the entity." "CONTACT_EXISTS"
    [("value", .text data.value), ("contact_type", .text data.contactType.value)]

/-- `get_by_id`. -/
def getById (organizationId contactId : Ulid) : Option Contact :=
  (db.contacts.get contactId).filter fun c => c.organizationId = organizationId

/-- The row of a new contact. -/
def created (organizationId : Ulid) (data : ContactCreate) (id : Ulid) : Contact where
  id := id
  organizationId := organizationId
  entityType := data.entityType
  entityId := data.entityId
  contactType := data.contactType
  value := data.value
  label := data.label
  isPrimary := data.isPrimary
  isEmergency := data.isEmergency

/-- `_exists`, in the organization of the request. -/
def existing (organizationId : Ulid) (data : ContactCreate) : Option Contact :=
  db.contacts.rows.find? fun c =>
    c.organizationId = organizationId ∧ c.entityType = data.entityType ∧
      c.entityId = data.entityId ∧ c.contactType = data.contactType ∧ c.value = data.value

def createdEntry (c : Contact) : AuditEntry :=
  { action := "CONTACT_CREATED", entityType := "contact", entityId := some c.id,
    summary := some ("Contact created for " ++ c.entityType ++ " " ++ c.entityId.text),
    after := some (contactSnapshot c) }

/-- The insert, with its constraints. -/
def insertRow (c : Contact) : Fallible ContactDB := do
  let contacts ← found (db.contacts.insert c) internalError
  ensure ((∀ r ∈ db.contacts, ¬ SameContact r c) ∧ c.Fits) internalError
  return { db with contacts := contacts }

def create (data : ContactCreate) (id : Ulid) : Fallible (Contact × ContactDB) := do
  let organizationId ← found ctx.organizationId noOrganizationContext
  ensure (data.entityType ∈ allowedEntityTypes)
    (unsupportedEntityType env data.entityType allowedEntityTypes)
  assertEntityOwned db.toSchoolDB organizationId data.entityType data.entityId
  ensureAbsent (existing db organizationId data) fun _ => contactExists data
  let c := created organizationId data id
  let db ← insertRow db c
  let db ← db.audit env ctx (createdEntry c)
  return (c, db)

/-- The row with the fields of the payload that are given. -/
def applied (c : Contact) (data : ContactUpdate) : Contact :=
  { c with
    contactType := data.contactType.getD c.contactType
    value := data.value.getD c.value
    label := data.label.or c.label
    isPrimary := data.isPrimary.getD c.isPrimary
    isEmergency := data.isEmergency.getD c.isEmergency }

def updatedEntry (old new : Contact) : AuditEntry :=
  { action := "CONTACT_UPDATED", entityType := "contact", entityId := some old.id,
    summary := some "Contact updated",
    before := some (contactSnapshot old), after := some (contactSnapshot new) }

/-- The flush of a changed row. -/
def save (old new : Contact) : Fallible ContactDB :=
  if new = old then return db
  else do
    ensure ((∀ r ∈ db.contacts, r.id ≠ new.id → ¬ SameContact r new) ∧ new.Fits) internalError
    return { db with contacts := db.contacts.put new }

def update (c : Contact) (data : ContactUpdate) : Fallible (Contact × ContactDB) := do
  let new := applied c data
  let db ← save db c new
  let db ← db.audit env ctx (updatedEntry c new)
  return (new, db)

def delete (c : Contact) : Fallible ContactDB := do
  let contacts := db.contacts.deleteWhere fun r =>
    r.id = c.id ∧ some r.organizationId = ctx.organizationId
  ContactDB.audit env ctx { db with contacts := contacts }
    { action := "CONTACT_DELETED", entityType := "contact", entityId := some c.id,
      summary := some "Contact deleted", before := some (contactSnapshot c) }

def getOwned (contactId : Ulid) : Fallible Contact := do
  let organizationId ← found ctx.organizationId notFound
  found (getById db organizationId contactId) notFound

end Service

end Contacts

/-! ### Addresses -/

namespace Addresses

section Service

variable (env : SchoolEnv) (ctx : RequestContext) (db : ContactDB)

def allowedEntityTypes : List String := ["SCHOOL", "PERSON"]

def notFound : ApiError := notFoundError "The address was not found." "ADDRESS_NOT_FOUND"

/-- `get_by_id`, with the columns of the row. -/
def getById (organizationId addressId : Ulid) : Option AddressEntry := do
  let _ ← getAddress db.toSchoolDB (some organizationId) addressId
  db.addressEntries.get addressId

/-- The columns of a new address. -/
def created (data : AddressCreate) (id : Ulid) : AddressEntry where
  toAddressLines := data.lines
  id := id
  entityType := data.entityType
  entityId := data.entityId
  addressType := data.addressType
  countryCode := data.countryCode
  isPrimary := data.isPrimary
  version := 1

/-- The insert, with its constraints. -/
def insertRow (organizationId : Ulid) (a : AddressEntry) : Fallible ContactDB := do
  let addresses ← found (db.addresses.insert ⟨a.id, organizationId⟩) internalError
  let entries ← found (db.addressEntries.insert a) internalError
  ensure a.Fits internalError
  return { db with addresses := addresses, addressEntries := entries }

def create (data : AddressCreate) (id : Ulid) : Fallible (AddressEntry × ContactDB) := do
  let organizationId ← found ctx.organizationId noOrganizationContext
  ensure (data.entityType ∈ allowedEntityTypes)
    (unsupportedEntityType env data.entityType allowedEntityTypes)
  assertEntityOwned db.toSchoolDB organizationId data.entityType data.entityId
  let a := created data id
  let db ← insertRow db organizationId a
  let db ← db.audit env ctx
    { action := "ADDRESS_CREATED", entityType := "address", entityId := some a.id,
      summary := some ("Address created for " ++ data.entityType ++ " " ++ data.entityId.text),
      after := some (addressSnapshot a) }
  return (a, db)

/-- The lines with those that are given. -/
def appliedLines (old given : AddressLines) : AddressLines where
  line1 := given.line1.or old.line1
  line2 := given.line2.or old.line2
  landmark := given.landmark.or old.landmark
  city := given.city.or old.city
  district := given.district.or old.district
  state := given.state.or old.state
  postalCode := given.postalCode.or old.postalCode

/-- The row with the fields of the payload that are given. -/
def applied (a : AddressEntry) (data : AddressUpdate) : AddressEntry :=
  { a with
    toAddressLines := appliedLines a.toAddressLines data.lines
    addressType := data.addressType.getD a.addressType
    countryCode := data.countryCode.getD a.countryCode
    isPrimary := data.isPrimary.getD a.isPrimary }

def update (a : AddressEntry) (data : AddressUpdate) : Fallible (AddressEntry × ContactDB) := do
  ensure (a.version = data.version) staleResourceError
  let new := applied a data
  ensure new.Fits internalError
  let db := { db with addressEntries := db.addressEntries.put (flushed AddressEntry.touch a new) }
  let db ← db.audit env ctx
    { action := "ADDRESS_UPDATED", entityType := "address", entityId := some a.id,
      summary := some "Address updated",
      before := some (addressSnapshot a), after := some (addressSnapshot new) }
  return (flushed AddressEntry.touch a new, db)

/-- A person without the address: what the foreign key does to those who have it. -/
def unaddressed (p : Person) : Person := { p with addressId := none }

lemma unaddressed_id (p : Person) : (unaddressed p).id = p.id := rfl

/-- The row is removed, and nobody has the address any more. -/
def delete (a : AddressEntry) (version : ℕ) : Fallible ContactDB := do
  ensure (a.version = version) staleResourceError
  let persons := db.persons.setWhere (fun p => p.addressId = some a.id) unaddressed unaddressed_id
  let addresses := db.addresses.delete a.id
  ContactDB.audit env ctx { db with
      persons := persons, addresses := addresses, addressEntries := db.addressEntries.delete a.id }
    { action := "ADDRESS_DELETED", entityType := "address", entityId := some a.id,
      summary := some "Address deleted", before := some (addressSnapshot a) }

def getOwned (addressId : Ulid) : Fallible AddressEntry := do
  let organizationId ← found ctx.organizationId notFound
  found (getById db organizationId addressId) notFound

end Service

end Addresses

/-! ### Requests -/

inductive ContactOp
  | create (data : ContactCreate) (id : Ulid)
  | update (contactId : Ulid) (data : ContactUpdate)
  | delete (contactId : Ulid)

structure ContactCall where
  ctx : RequestContext
  op : ContactOp

def ContactCall.handle (env : SchoolEnv) (db : ContactDB) (c : ContactCall) :
    Fallible ContactDB :=
  match c.op with
  | .create data id => Prod.snd <$> Contacts.create env c.ctx db data id
  | .update contactId data => do
    let contact ← Contacts.getOwned c.ctx db contactId
    Prod.snd <$> Contacts.update env c.ctx db contact data
  | .delete contactId => do
    let contact ← Contacts.getOwned c.ctx db contactId
    Contacts.delete env c.ctx db contact

inductive AddressOp
  | create (data : AddressCreate) (id : Ulid)
  | update (addressId : Ulid) (data : AddressUpdate)
  | delete (addressId : Ulid) (version : ℕ)

structure AddressCall where
  ctx : RequestContext
  op : AddressOp

def AddressCall.handle (env : SchoolEnv) (db : ContactDB) (c : AddressCall) :
    Fallible ContactDB :=
  match c.op with
  | .create data id => Prod.snd <$> Addresses.create env c.ctx db data id
  | .update addressId data => do
    let a ← Addresses.getOwned c.ctx db addressId
    Prod.snd <$> Addresses.update env c.ctx db a data
  | .delete addressId version => do
    let a ← Addresses.getOwned c.ctx db addressId
    Addresses.delete env c.ctx db a version

end SchoolOs
