import SchoolOs.Contacts
import SchoolOs.PeopleEffects

/-!
Who owns the contacts and the addresses over runs of requests on people, contacts and addresses,
and what follows for the answers to requests on contacts.
-/

namespace SchoolOs

open Runs

/-! ### Runs -/

inductive DirectoryCall
  | contact (c : ContactCall)
  | address (c : AddressCall)
  | people (c : PeopleCall)

def DirectoryCall.handle (env : SchoolEnv) (db : ContactDB) : DirectoryCall → Fallible ContactDB
  | .contact c => c.handle env db
  | .address c => c.handle env db
  | .people c => do
    let school ← c.handle env db.toSchoolDB
    return { db with toSchoolDB := school }

/-- A failed request leaves no trace. -/
def DirectoryCall.step (env : SchoolEnv) (db : ContactDB) (c : DirectoryCall) : ContactDB :=
  match c.handle env db with
  | .ok db' => db'
  | .error _ => db

/-! ### What is kept -/

/-- The entity is a school or a person of the organization. -/
def EntityOf (db : SchoolDB) (entityType : String) (entityId organizationId : Ulid) : Prop :=
  (entityType = "SCHOOL" ∧
      ∃ s ∈ db.core.schools, s.id = entityId ∧ s.organizationId = organizationId) ∨
    (entityType = "PERSON" ∧ ∃ p ∈ db.persons, p.id = entityId ∧ p.organizationId = organizationId)

/-- **The directory is kept**: a contact and an address belong to a school or a person of their
organization, no two contacts are the same, and the address of a person is one of the
organization. -/
structure DirectoryKept (db : ContactDB) : Prop where
  contacts : ∀ c ∈ db.contacts,
    EntityOf db.toSchoolDB c.entityType c.entityId c.organizationId
  apart : db.contacts.Excludes SameContact
  addresses : ∀ a ∈ db.addresses, ∃ e ∈ db.addressEntries, e.id = a.id ∧
    EntityOf db.toSchoolDB e.entityType e.entityId a.organizationId
  entries : ∀ e ∈ db.addressEntries, ∃ a ∈ db.addresses, a.id = e.id
  persons : ∀ p ∈ db.persons, Addressed db.addresses p

section Kept

variable {env : SchoolEnv} {ctx : RequestContext} {clk : Clock} {db db' : SchoolDB}
  {entityType : String} {entityId organizationId : Ulid}

lemma EntityOf.onward (h : EntityOf db entityType entityId organizationId) (hdb : Onward db db') :
    EntityOf db' entityType entityId organizationId := by
  rcases h with ⟨htype, hschool⟩ | ⟨htype, p, hp, rfl, rfl⟩
  · exact .inl ⟨htype, hdb.schools ▸ hschool⟩
  · exact .inr ⟨htype, hdb.persons p hp⟩

lemma assertEntityOwned_ok {u : Unit}
    (h : assertEntityOwned db organizationId entityType entityId = .ok u)
    (htype : entityType = "PERSON" ∨ entityType = "SCHOOL") :
    EntityOf db entityType entityId organizationId := by
  unfold assertEntityOwned at h
  split at h
  · next hschool =>
    obtain ⟨s, hs, _⟩ := bind_ok.mp h
    have hfind := found_ok.mp hs
    have hmem : s ∈ db.core.schools := List.mem_of_find?_eq_some hfind
    have hkey := List.find?_some hfind
    obtain ⟨hid, horganization, _⟩ := of_decide_eq_true hkey
    exact .inl ⟨hschool, s, hmem, hid, horganization⟩
  · next hschool =>
    have hperson := htype.resolve_right hschool
    rw [if_pos hperson] at h
    obtain ⟨p, hp, _⟩ := bind_ok.mp h
    obtain ⟨hget, hp⟩ := Option.filter_eq_some_iff.mp (found_ok.mp hp)
    obtain ⟨hmem, hid⟩ := Table.get_eq_some.mp hget
    exact .inr ⟨hperson, p, hmem, hid, Option.some.inj (of_decide_eq_true hp).1⟩

end Kept

/-! ### Contacts and addresses -/

section Directory

variable {env : SchoolEnv} {ctx : RequestContext} {db : ContactDB}

lemma sameContact_symm (a b : Contact) (h : SameContact a b) : SameContact b a :=
  ⟨h.1.symm, h.2.1.symm, h.2.2.1.symm, h.2.2.2.symm⟩

@[simp] lemma yields_contactAudit {entry : AuditEntry} {S : ContactDB → Prop} :
    Yields (db.audit env ctx entry) S ↔ (env.Admits (auditRow ctx entry) →
      S { db with toSchoolDB := db.toSchoolDB.log (auditRow ctx entry) }) := by
  simp [ContactDB.audit]

lemma DirectoryKept.onward (h : DirectoryKept db) {school : SchoolDB}
    (hpeople : PeopleOnward db.toSchoolDB school) :
    DirectoryKept { db with toSchoolDB := school } where
  contacts := fun c hc => (h.contacts c hc).onward hpeople.toOnward
  apart := h.apart
  addresses := by
    intro a ha
    obtain ⟨e, he, hid, howner⟩ := h.addresses a (hpeople.addresses ▸ ha)
    exact ⟨e, he, hid, howner.onward hpeople.toOnward⟩
  entries := by
    intro e he
    obtain ⟨a, ha, hid⟩ := h.entries e he
    exact ⟨a, hpeople.addresses.symm ▸ ha, hid⟩
  persons := fun p hp => hpeople.addresses.symm ▸ hpeople.addressed h.persons p hp

lemma DirectoryKept.log (h : DirectoryKept db) (row : AuditLog) :
    DirectoryKept { db with toSchoolDB := db.toSchoolDB.log row } :=
  h.onward (peopleOnward_same rfl rfl rfl rfl (.refl db.toSchoolDB))

lemma contactOwned_ok {contactId : Ulid} {c : Contact}
    (h : Contacts.getOwned ctx db contactId = .ok c) :
    c ∈ db.contacts ∧ c.id = contactId ∧ ctx.organizationId = some c.organizationId := by
  obtain ⟨organizationId, hctx, h⟩ := bind_ok.mp h
  obtain ⟨hget, horganization⟩ := Option.filter_eq_some_iff.mp (found_ok.mp h)
  obtain ⟨hmem, hid⟩ := Table.get_eq_some.mp hget
  exact ⟨hmem, hid, (found_ok.mp hctx).trans (congrArg some (of_decide_eq_true horganization).symm)⟩

lemma contactInsert_kept (h : DirectoryKept db) {c : Contact}
    (howner : EntityOf db.toSchoolDB c.entityType c.entityId c.organizationId) :
    Yields (Contacts.insertRow db c) DirectoryKept := by
  simp only [Contacts.insertRow, yields_bind, yields_found, yields_ensure, yields_pure]
  intro contacts hinsert hfree
  exact { h with
    contacts := Table.forall_insert hinsert h.contacts howner
    apart := (Table.excludes_insert sameContact_symm hinsert).mpr ⟨h.apart, hfree.1⟩ }

lemma contactSave_kept (h : DirectoryKept db) {old new : Contact} (hold : old ∈ db.contacts)
    (hentity : new.entityType = old.entityType ∧ new.entityId = old.entityId)
    (horganization : new.organizationId = old.organizationId) :
    Yields (Contacts.save db old new) DirectoryKept := by
  have howner : EntityOf db.toSchoolDB new.entityType new.entityId new.organizationId := by
    rw [hentity.1, hentity.2, horganization]
    exact h.contacts old hold
  simp only [Contacts.save, yields_ite, yields_bind, yields_ensure, yields_pure]
  refine ⟨fun _ => h, fun _ hfree => ?_⟩
  exact { h with
    contacts := Table.forall_put h.contacts howner
    apart := h.apart.put sameContact_symm hfree.1 }

lemma contactDelete_kept (h : DirectoryKept db) (p : Contact → Bool) :
    DirectoryKept { db with contacts := db.contacts.deleteWhere p } :=
  { h with
    contacts := fun c hc => h.contacts c (Table.mem_deleteWhere.mp hc).1
    apart := fun a ha b hb =>
      h.apart a (Table.mem_deleteWhere.mp ha).1 b (Table.mem_deleteWhere.mp hb).1 }

lemma contact_kept (h : DirectoryKept db) (c : ContactCall) :
    Yields (c.handle env db) DirectoryKept := by
  obtain ⟨ctx, op⟩ := c
  cases op with
  | create data id =>
    simp only [ContactCall.handle, Contacts.create, yields_map, yields_bind, yields_found,
      yields_ensure, yields_ensureAbsent, yields_contactAudit, yields_pure]
    intro organizationId _ hallowed _ howned _
    have htype : data.entityType = "PERSON" ∨ data.entityType = "SCHOOL" := by
      simpa [Contacts.allowedEntityTypes] using hallowed
    exact Yields.imp (contactInsert_kept h (assertEntityOwned_ok howned htype))
      fun _ hkept _ => hkept.log _
  | update contactId data =>
    simp only [ContactCall.handle, Contacts.update, yields_map, yields_bind, yields_contactAudit,
      yields_pure]
    intro c howned
    exact Yields.imp (contactSave_kept h (contactOwned_ok howned).1 ⟨rfl, rfl⟩ rfl)
      fun _ hkept _ => hkept.log _
  | delete contactId =>
    simp only [ContactCall.handle, Contacts.delete, yields_bind, yields_contactAudit]
    intro c _ _
    exact (contactDelete_kept h _).log _

lemma addressOwned_ok {addressId : Ulid} {a : AddressEntry}
    (h : Addresses.getOwned ctx db addressId = .ok a) :
    a ∈ db.addressEntries ∧ a.id = addressId ∧
      ∃ row ∈ db.addresses, row.id = addressId ∧ ctx.organizationId = some row.organizationId := by
  obtain ⟨organizationId, hctx, h⟩ := bind_ok.mp h
  obtain ⟨row, hrow, hentry⟩ := Option.bind_eq_some_iff.mp (found_ok.mp h)
  obtain ⟨hget, horganization⟩ := Option.filter_eq_some_iff.mp hrow
  obtain ⟨hmem, hid⟩ := Table.get_eq_some.mp hget
  obtain ⟨hemem, heid⟩ := Table.get_eq_some.mp hentry
  exact ⟨hemem, heid, row, hmem, hid,
    (found_ok.mp hctx).trans (of_decide_eq_true horganization).symm⟩

lemma addressInsert_kept (h : DirectoryKept db) {organizationId : Ulid} {a : AddressEntry}
    (howner : EntityOf db.toSchoolDB a.entityType a.entityId organizationId) :
    Yields (Addresses.insertRow db organizationId a) DirectoryKept := by
  simp only [Addresses.insertRow, yields_bind, yields_found, yields_ensure, yields_pure]
  intro addresses hrow entries hentry _
  have hold := fun r hr => (Table.mem_of_insert hrow (x := r)).mpr (.inl hr)
  refine ⟨h.contacts, h.apart, ?_, ?_, fun p hp x hx => ?_⟩
  · refine Table.forall_insert hrow (fun r hr => ?_)
      ⟨a, (Table.mem_of_insert hentry).mpr (.inr rfl), rfl, howner⟩
    obtain ⟨e, he, hid, hentity⟩ := h.addresses r hr
    exact ⟨e, (Table.mem_of_insert hentry).mpr (.inl he), hid, hentity⟩
  · refine Table.forall_insert hentry (fun e he => ?_)
      ⟨_, (Table.mem_of_insert hrow).mpr (.inr rfl), rfl⟩
    obtain ⟨r, hr, hid⟩ := h.entries e he
    exact ⟨r, hold r hr, hid⟩
  · obtain ⟨r, hr, hid, horganization⟩ := h.persons p hp x hx
    exact ⟨r, hold r hr, hid, horganization⟩

lemma addressPut_kept (h : DirectoryKept db) {old new : AddressEntry}
    (hold : old ∈ db.addressEntries) (hid : new.id = old.id)
    (hentity : new.entityType = old.entityType ∧ new.entityId = old.entityId) :
    DirectoryKept { db with addressEntries := db.addressEntries.put new } := by
  refine ⟨h.contacts, h.apart, fun r hr => ?_, fun e he => ?_, h.persons⟩
  · obtain ⟨e, he, heid, howner⟩ := h.addresses r hr
    by_cases hsame : e.id = new.id
    · obtain rfl := Table.eq_of_key he hold (hsame.trans hid)
      refine ⟨new, Table.mem_put.mpr (.inr ⟨rfl, e, he, hsame⟩), hid.trans heid, ?_⟩
      rw [hentity.1, hentity.2]
      exact howner
    · exact ⟨e, Table.mem_put.mpr (.inl ⟨he, hsame⟩), heid, howner⟩
  · rcases Table.mem_put.mp he with ⟨hkept, _⟩ | ⟨rfl, _⟩
    · exact h.entries e hkept
    · obtain ⟨r, hr, hrid⟩ := h.entries old hold
      exact ⟨r, hr, hrid.trans hid.symm⟩

lemma addressDelete_kept (h : DirectoryKept db) (addressId : Ulid) :
    DirectoryKept { db with
      persons := db.persons.setWhere (fun p => p.addressId = some addressId)
        Addresses.unaddressed Addresses.unaddressed_id
      addresses := db.addresses.delete addressId
      addressEntries := db.addressEntries.delete addressId } := by
  have honward : Onward db.toSchoolDB { db.toSchoolDB with
      persons := db.persons.setWhere (fun p => p.addressId = some addressId)
        Addresses.unaddressed Addresses.unaddressed_id } := by
    refine ⟨rfl, fun p hp => ⟨_, Tables.mem_setWhere.mpr ⟨p, hp, rfl⟩, ?_⟩⟩
    split
    · exact ⟨rfl, rfl⟩
    · exact ⟨rfl, rfl⟩
  refine ⟨fun c hc => (h.contacts c hc).onward ⟨honward.schools, honward.persons⟩, h.apart, ?_, ?_,
    ?_⟩
  · -- The addresses left keep their entries.
    intro a ha
    obtain ⟨hmem, hne⟩ := Table.mem_delete.mp ha
    obtain ⟨e, he, hid, howner⟩ := h.addresses a hmem
    exact ⟨e, Table.mem_delete.mpr ⟨he, fun heq => hne (hid.symm.trans heq)⟩, hid,
      howner.onward ⟨honward.schools, honward.persons⟩⟩
  · -- And the entries their addresses.
    intro e he
    obtain ⟨hmem, hne⟩ := Table.mem_delete.mp he
    obtain ⟨a, ha, hid⟩ := h.entries e hmem
    exact ⟨a, Table.mem_delete.mpr ⟨ha, fun heq => hne (hid.symm.trans heq)⟩, hid⟩
  · -- Who had the address has none now.
    intro p hp
    obtain ⟨p₀, hp₀, rfl⟩ := Tables.mem_setWhere.mp hp
    split
    · exact fun a ha => absurd (Option.mem_def.mp ha) (Option.some_ne_none a).symm
    · next hother =>
      intro a ha
      obtain ⟨row, hrow, hid, horganization⟩ := h.persons p₀ hp₀ a ha
      refine ⟨row, Table.mem_delete.mpr ⟨hrow, fun heq => hother ?_⟩, hid, horganization⟩
      exact decide_eq_true (ha.trans (congrArg some (hid.symm.trans heq)))

lemma address_kept (h : DirectoryKept db) (c : AddressCall) :
    Yields (c.handle env db) DirectoryKept := by
  obtain ⟨ctx, op⟩ := c
  cases op with
  | create data id =>
    simp only [AddressCall.handle, Addresses.create, yields_map, yields_bind, yields_found,
      yields_ensure, yields_contactAudit, yields_pure]
    intro organizationId _ hallowed _ howned
    have htype : data.entityType = "PERSON" ∨ data.entityType = "SCHOOL" := by
      simpa [Addresses.allowedEntityTypes, or_comm] using hallowed
    exact Yields.imp (addressInsert_kept h (assertEntityOwned_ok howned htype))
      fun _ hkept _ => hkept.log _
  | update addressId data =>
    simp only [AddressCall.handle, Addresses.update, yields_map, yields_bind, yields_ensure,
      yields_contactAudit, yields_pure]
    intro a howned _ _ _
    have hcol := fun {γ : Type} (col : AddressEntry → γ)
        (hc : ∀ r : AddressEntry, col r.touch = col r) =>
      flushed_col AddressEntry.touch col hc a (Addresses.applied a data)
    exact (addressPut_kept h (addressOwned_ok howned).1 (hcol AddressEntry.id fun _ => rfl)
      ⟨hcol AddressEntry.entityType fun _ => rfl, hcol AddressEntry.entityId fun _ => rfl⟩).log _
  | delete addressId version =>
    simp only [AddressCall.handle, Addresses.delete, yields_bind, yields_ensure,
      yields_contactAudit]
    intro a _ _ _
    exact (addressDelete_kept h a.id).log _

/-- **One request** keeps the directory. -/
lemma directory_kept (h : DirectoryKept db) (c : DirectoryCall) :
    Yields (c.handle env db) DirectoryKept := by
  cases c with
  | contact c => exact contact_kept h c
  | address c => exact address_kept h c
  | people c =>
    simp only [DirectoryCall.handle, yields_bind, yields_pure]
    exact Yields.imp (people_onward c) fun _ hpeople => h.onward hpeople

lemma directory_step_kept (h : DirectoryKept db) (c : DirectoryCall) :
    DirectoryKept (c.step env db) := by
  unfold DirectoryCall.step
  split
  · next db' hok => exact directory_kept h c db' hok
  · exact h

lemma directoryKept_start (db : SchoolDB) : DirectoryKept db.withoutContacts where
  contacts := fun _ h => absurd h Table.not_mem_empty
  apart := Table.excludes_empty
  addresses := fun _ h => absurd h Table.not_mem_empty
  entries := fun _ h => absurd h Table.not_mem_empty
  persons := fun _ h => absurd h Table.not_mem_empty

/-- **The directory is kept** over every run of requests on people, contacts and addresses: whoever
deletes an address takes it from the persons who have it, and nobody writes across organizations. -/
theorem directory_run_kept (env : SchoolEnv) (start : SchoolDB) (calls : List DirectoryCall) :
    DirectoryKept (run (DirectoryCall.step env) start.withoutContacts calls) :=
  invariant_all (I := DirectoryKept) (fun _ c h => directory_step_kept h c)
    (directoryKept_start start) calls

/-! ### Schools -/

lemma contact_schools (c : ContactCall) :
    Yields (c.handle env db) fun db' => db'.core.schools = db.core.schools := by
  obtain ⟨ctx, op⟩ := c
  cases op with
  | create data id =>
    simp only [ContactCall.handle, Contacts.create, Contacts.insertRow, yields_map, yields_bind,
      yields_found, yields_ensure, yields_ensureAbsent, yields_contactAudit, yields_pure]
    intro organizationId _ _
    refine .of_forall fun _ => ?_
    intros
    rfl
  | update contactId data =>
    simp only [ContactCall.handle, Contacts.update, Contacts.save, yields_map, yields_bind,
      yields_ite, yields_ensure, yields_contactAudit, yields_pure]
    exact .of_forall fun _ => ⟨fun _ _ => rfl, fun _ _ _ => rfl⟩
  | delete contactId =>
    simp only [ContactCall.handle, Contacts.delete, yields_bind, yields_contactAudit]
    exact .of_forall fun _ _ => rfl

lemma address_schools (c : AddressCall) :
    Yields (c.handle env db) fun db' => db'.core.schools = db.core.schools := by
  obtain ⟨ctx, op⟩ := c
  cases op with
  | create data id =>
    simp only [AddressCall.handle, Addresses.create, Addresses.insertRow, yields_map, yields_bind,
      yields_found, yields_ensure, yields_contactAudit, yields_pure]
    intro organizationId _ _
    refine .of_forall fun _ => ?_
    intros
    rfl
  | update addressId data =>
    simp only [AddressCall.handle, Addresses.update, yields_map, yields_bind, yields_ensure,
      yields_contactAudit, yields_pure]
    exact .of_forall fun _ _ _ _ => rfl
  | delete addressId version =>
    simp only [AddressCall.handle, Addresses.delete, yields_bind, yields_ensure,
      yields_contactAudit]
    exact .of_forall fun _ _ _ => rfl

lemma directory_schools (c : DirectoryCall) :
    (c.step env db).core.schools = db.core.schools := by
  have hhandle : Yields (c.handle env db) fun db' => db'.core.schools = db.core.schools := by
    cases c with
    | contact c => exact contact_schools c
    | address c => exact address_schools c
    | people c =>
      simp only [DirectoryCall.handle, yields_bind, yields_pure]
      exact Yields.imp (people_onward c) fun _ hpeople => hpeople.schools
  unfold DirectoryCall.step
  split
  · next db' hok => exact hhandle db' hok
  · rfl

lemma directory_run_schools (start : SchoolDB) (calls : List DirectoryCall) :
    (run (DirectoryCall.step env) start.withoutContacts calls).core.schools = start.core.schools :=
  invariant_all (I := fun db : ContactDB => db.core.schools = start.core.schools)
    (fun _ c h => (directory_schools c).trans h) rfl calls

/-! ### Answers -/

lemma EntityOf.organization {school : SchoolDB} (hkey : (school.core.schools.map School.id).Nodup)
    {entityType : String} {entityId o o' : Ulid} (h : EntityOf school entityType entityId o)
    (h' : EntityOf school entityType entityId o') : o = o' := by
  rcases h with ⟨rfl, s, hs, rfl, rfl⟩ | ⟨rfl, p, hp, rfl, rfl⟩
  · rcases h' with ⟨_, s', hs', hid, rfl⟩ | ⟨htype, _⟩
    · rw [List.inj_on_of_nodup_map hkey hs hs' hid.symm]
    · exact absurd htype (by decide)
  · rcases h' with ⟨htype, _⟩ | ⟨_, p', hp', hid, rfl⟩
    · exact absurd htype (by decide)
    · rw [Table.eq_of_key hp hp' hid.symm]

/-- **The check sees the whole constraint**: a contact that stands in the way of a new one of an
entity of the organization is one of the organization. -/
lemma existing_iff (h : DirectoryKept db) (hkey : (db.core.schools.map School.id).Nodup)
    {organizationId : Ulid} {data : ContactCreate} (id : Ulid)
    (howner : EntityOf db.toSchoolDB data.entityType data.entityId organizationId) :
    Contacts.existing db organizationId data = none ↔
      ∀ r ∈ db.contacts, ¬ SameContact r (Contacts.created organizationId data id) := by
  unfold Contacts.existing
  rw [List.find?_eq_none]
  constructor
  · intro hnone r hr hsame
    have hrow := h.contacts r hr
    rw [hsame.1, hsame.2.1] at hrow
    exact hnone r hr (decide_eq_true ⟨hrow.organization hkey howner, hsame.1, hsame.2.1,
      hsame.2.2.1, hsame.2.2.2⟩)
  · intro hfree r hr hfound
    exact hfree r hr (of_decide_eq_true hfound).2

lemma ok_ne_error {α : Type} (a : α) (e : ApiError) : (.ok a : Fallible α) ≠ .error e := by
  simp

section Answers

variable {organizationId id : Ulid} {data : ContactCreate}

/-- What `create` does when it is given what the database can store. -/
lemma contactCreate_eq (h : DirectoryKept db) (hkey : (db.core.schools.map School.id).Nodup)
    (hctx : ctx.organizationId = some organizationId) (hfresh : db.contacts.get id = none)
    (hfits : (Contacts.created organizationId data id).Fits)
    (hadmits : env.Admits
      (auditRow ctx (Contacts.createdEntry (Contacts.created organizationId data id))))
    (hallowed : data.entityType ∈ Contacts.allowedEntityTypes)
    (howned : assertEntityOwned db.toSchoolDB organizationId data.entityType data.entityId
      = .ok ()) :
    ((∃ r ∈ db.contacts, SameContact r (Contacts.created organizationId data id)) ∧
      Contacts.create env ctx db data id = .error (Contacts.contactExists data)) ∨
    ((∀ r ∈ db.contacts, ¬ SameContact r (Contacts.created organizationId data id)) ∧
      ∃ db', Contacts.create env ctx db data id =
        .ok (Contacts.created organizationId data id, db')) := by
  have htype : data.entityType = "PERSON" ∨ data.entityType = "SCHOOL" := by
    simpa [Contacts.allowedEntityTypes] using hallowed
  have hseen := existing_iff h hkey id (assertEntityOwned_ok howned htype)
  have hstart : Contacts.create env ctx db data id =
      (do
        ensureAbsent (Contacts.existing db organizationId data) fun _ => Contacts.contactExists data
        let db ← Contacts.insertRow db (Contacts.created organizationId data id)
        let db ← db.audit env ctx
          (Contacts.createdEntry (Contacts.created organizationId data id))
        return (Contacts.created organizationId data id, db)) := by
    simp [Contacts.create, found, hctx, ensure, hallowed, howned]
  rw [hstart]
  -- The search finds what the constraint would refuse.
  cases hexisting : Contacts.existing db organizationId data with
  | some r =>
    have hclash : ∃ r ∈ db.contacts, SameContact r (Contacts.created organizationId data id) := by
      by_contra hnone
      simp [hseen.mpr fun r hr hsame => hnone ⟨r, hr, hsame⟩] at hexisting
    exact .inl ⟨hclash, rfl⟩
  | none =>
    -- Nothing is found, and nothing is in the way of the insert.
    have hfree := hseen.mp hexisting
    obtain ⟨contacts, hinsert⟩ := Table.insert_of_fresh
      (r := Contacts.created organizationId data id) (Table.get_eq_none.mp hfresh)
    have hrow : Contacts.insertRow db (Contacts.created organizationId data id) =
        .ok { db with contacts := contacts } := by
      simp only [Contacts.insertRow, hinsert, found, ensure, if_pos (And.intro hfree hfits)]
      rfl
    refine .inr ⟨hfree, { toSchoolDB := db.toSchoolDB.log (auditRow ctx
        (Contacts.createdEntry (Contacts.created organizationId data id)))
                          contacts := contacts, addressEntries := db.addressEntries }, ?_⟩
    rw [hrow]
    simp only [ensureAbsent, ContactDB.audit, SchoolDB.audit, ensure, if_pos hadmits]
    rfl

lemma assertEntityOwned_error {school : SchoolDB} {entityType : String} {entityId : Ulid}
    (h : assertEntityOwned school organizationId entityType entityId ≠ .ok ()) :
    ∃ e, assertEntityOwned school organizationId entityType entityId = .error e ∧
      e.statusCode = 404 := by
  unfold assertEntityOwned at h ⊢
  split
  · next hschool =>
    rw [if_pos hschool] at h
    cases hget : getSchool school.core organizationId entityId with
    | none => exact ⟨_, rfl, rfl⟩
    | some s => exact absurd (by rw [hget]; rfl) h
  · next hschool =>
    rw [if_neg hschool] at h
    split
    · next hperson =>
      rw [if_pos hperson] at h
      cases hget : getPerson school (some organizationId) entityId with
      | none => exact ⟨_, rfl, rfl⟩
      | some p => exact absurd (by rw [hget]; rfl) h
    · next hother =>
      rw [if_neg hother] at h
      exact absurd rfl h

/-- What the checks before the insert refuse is neither a conflict nor an internal error. -/
lemma contactCreate_refused (env : SchoolEnv) (id : Ulid)
    (hctx : ctx.organizationId = some organizationId)
    (hnot : ¬ (data.entityType ∈ Contacts.allowedEntityTypes ∧
      assertEntityOwned db.toSchoolDB organizationId data.entityType data.entityId = .ok ())) :
    ∃ e, Contacts.create env ctx db data id = .error e ∧
      e.statusCode ≠ 409 ∧ e.statusCode ≠ 500 := by
  unfold Contacts.create
  rw [hctx]
  by_cases hallowed : data.entityType ∈ Contacts.allowedEntityTypes
  · obtain ⟨e, he, hstatus⟩ := assertEntityOwned_error fun howned => hnot ⟨hallowed, howned⟩
    refine ⟨e, ?_, by omega, by omega⟩
    simp only [found, ensure, if_pos hallowed, ok_bind, he, error_bind]
  · refine ⟨unsupportedEntityType env data.entityType Contacts.allowedEntityTypes, ?_, ?_, ?_⟩
    · simp only [found, ensure, if_neg hallowed, ok_bind, error_bind]
    · exact fun hstatus => absurd (a := 400 = 409) hstatus (by decide)
    · exact fun hstatus => absurd (a := 400 = 500) hstatus (by decide)

/-- A create is refused as a conflict exactly when the constraint would refuse it, and goes through
exactly when all the checks do. -/
lemma contactCreate_answer (h : DirectoryKept db) (hkey : (db.core.schools.map School.id).Nodup)
    (hctx : ctx.organizationId = some organizationId) (hfresh : db.contacts.get id = none)
    (hfits : (Contacts.created organizationId data id).Fits)
    (hadmits : env.Admits
      (auditRow ctx (Contacts.createdEntry (Contacts.created organizationId data id)))) :
    (Contacts.create env ctx db data id = .error (Contacts.contactExists data) ↔
      data.entityType ∈ Contacts.allowedEntityTypes ∧
      assertEntityOwned db.toSchoolDB organizationId data.entityType data.entityId = .ok () ∧
      ∃ r ∈ db.contacts, SameContact r (Contacts.created organizationId data id)) ∧
    ((∃ db', Contacts.create env ctx db data id =
        .ok (Contacts.created organizationId data id, db')) ↔
      data.entityType ∈ Contacts.allowedEntityTypes ∧
      assertEntityOwned db.toSchoolDB organizationId data.entityType data.entityId = .ok () ∧
      ∀ r ∈ db.contacts, ¬ SameContact r (Contacts.created organizationId data id)) ∧
    Contacts.create env ctx db data id ≠ .error internalError := by
  by_cases hchecked : data.entityType ∈ Contacts.allowedEntityTypes ∧
      assertEntityOwned db.toSchoolDB organizationId data.entityType data.entityId = .ok ()
  · obtain ⟨hallowed, howned⟩ := hchecked
    rcases contactCreate_eq h hkey hctx hfresh hfits hadmits hallowed howned with
      ⟨⟨r, hr, hsame⟩, hcreate⟩ | ⟨hfree, db', hcreate⟩
    · rw [hcreate]
      refine ⟨iff_of_true rfl ⟨hallowed, howned, r, hr, hsame⟩, iff_of_false ?_ ?_, ?_⟩
      · rintro ⟨_, hok⟩
        exact ok_ne_error _ _ hok.symm
      · exact fun hall => hall.2.2 r hr hsame
      · exact fun he => absurd (a := 409 = 500)
          (congrArg ApiError.statusCode (Except.error.inj he)) (by decide)
    · rw [hcreate]
      refine ⟨iff_of_false (ok_ne_error _ _) ?_, iff_of_true ⟨db', rfl⟩ ⟨hallowed, howned, hfree⟩,
        ok_ne_error _ _⟩
      rintro ⟨_, _, r, hr, hsame⟩
      exact hfree r hr hsame
  · obtain ⟨e, hcreate, hconflict, hinternal⟩ :=
      contactCreate_refused env id hctx hchecked
    rw [hcreate]
    refine ⟨iff_of_false ?_ fun hall => hchecked ⟨hall.1, hall.2.1⟩,
      iff_of_false ?_ fun hall => hchecked ⟨hall.1, hall.2.1⟩, ?_⟩
    · exact fun he => hconflict (congrArg ApiError.statusCode (Except.error.inj he))
    · rintro ⟨_, hok⟩
      exact ok_ne_error _ _ hok.symm
    · exact fun he => hinternal (congrArg ApiError.statusCode (Except.error.inj he))

lemma contactSave_error (h : DirectoryKept db) {old new : Contact} (hold : old ∈ db.contacts)
    (hid : new.id = old.id) (hfits : new.Fits) :
    Contacts.save db old new = .error internalError ↔
      ∃ r ∈ db.contacts, r.id ≠ old.id ∧ SameContact r new := by
  unfold Contacts.save
  split
  · next hsame =>
    subst hsame
    refine iff_of_false (ok_ne_error _ _) ?_
    rintro ⟨r, hr, hne, hclash⟩
    exact h.apart r hr new hold hne hclash
  · by_cases hfree : ∀ r ∈ db.contacts, r.id ≠ new.id → ¬ SameContact r new
    · simp only [ensure, if_pos (And.intro hfree hfits), ok_bind]
      refine iff_of_false (ok_ne_error _ _) ?_
      rintro ⟨r, hr, hne, hclash⟩
      exact hfree r hr (hid ▸ hne) hclash
    · simp only [ensure, if_neg (fun hall : _ ∧ new.Fits => hfree hall.1), error_bind, true_iff]
      by_contra hnone
      exact hfree fun r hr hne hclash => hnone ⟨r, hr, hid ▸ hne, hclash⟩

/-- Nothing is checked before a contact is written over: a contact in the way is an internal
error. -/
lemma contactUpdate_answer (h : DirectoryKept db) {contactId : Ulid} {c : Contact}
    {given : ContactUpdate} (howned : Contacts.getOwned ctx db contactId = .ok c)
    (hfits : (Contacts.applied c given).Fits)
    (hadmits : env.Admits
      (auditRow ctx (Contacts.updatedEntry c (Contacts.applied c given)))) :
    Contacts.update env ctx db c given = .error internalError ↔
      ∃ r ∈ db.contacts, r.id ≠ c.id ∧ SameContact r (Contacts.applied c given) := by
  have hid : (Contacts.applied c given).id = c.id := rfl
  rw [← contactSave_error h (contactOwned_ok howned).1 hid hfits]
  unfold Contacts.update
  cases hsave : Contacts.save db c (Contacts.applied c given) with
  | error e => simp only [hsave, error_bind, Except.error.injEq]
  | ok db' =>
    simp only [hsave, ok_bind, ContactDB.audit, SchoolDB.audit, ensure, if_pos hadmits]
    exact iff_of_false (ok_ne_error _ _) (ok_ne_error _ _)

end Answers

end Directory

/-- **The answers to requests on contacts**, after any run of requests: a new contact is refused as
a conflict exactly when its entity, which has to be one of the organization of the request, has it
already, in whatever organization, goes through exactly when nobody has it, and is never an internal
error. A contact that is changed into another one of its entity is one. -/
theorem contact_answers (env : SchoolEnv) (start : SchoolDB) (calls : List DirectoryCall)
    (hkey : (start.core.schools.map School.id).Nodup) (ctx : RequestContext) (organizationId : Ulid)
    (hctx : ctx.organizationId = some organizationId) :
    let db := run (DirectoryCall.step env) start.withoutContacts calls
    (∀ data id, db.contacts.get id = none → (Contacts.created organizationId data id).Fits →
      env.Admits (auditRow ctx
        (Contacts.createdEntry (Contacts.created organizationId data id))) →
      (Contacts.create env ctx db data id = .error (Contacts.contactExists data) ↔
        data.entityType ∈ Contacts.allowedEntityTypes ∧
        assertEntityOwned db.toSchoolDB organizationId data.entityType data.entityId = .ok () ∧
        ∃ r ∈ db.contacts, SameContact r (Contacts.created organizationId data id)) ∧
      ((∃ db', Contacts.create env ctx db data id =
          .ok (Contacts.created organizationId data id, db')) ↔
        data.entityType ∈ Contacts.allowedEntityTypes ∧
        assertEntityOwned db.toSchoolDB organizationId data.entityType data.entityId = .ok () ∧
        ∀ r ∈ db.contacts, ¬ SameContact r (Contacts.created organizationId data id)) ∧
      Contacts.create env ctx db data id ≠ .error internalError) ∧
    ∀ contactId c data, Contacts.getOwned ctx db contactId = .ok c →
      (Contacts.applied c data).Fits →
      env.Admits (auditRow ctx (Contacts.updatedEntry c (Contacts.applied c data))) →
      (Contacts.update env ctx db c data = .error internalError ↔
        ∃ r ∈ db.contacts, r.id ≠ c.id ∧ SameContact r (Contacts.applied c data)) := by
  intro db
  have hkept : DirectoryKept db := invariant_all (I := DirectoryKept)
    (fun _ c h => directory_step_kept h c) (directoryKept_start start) calls
  have hschools : (db.core.schools.map School.id).Nodup := by
    rw [directory_run_schools start calls]
    exact hkey
  refine ⟨fun data id hfresh hfits hadmits => ?_, fun contactId c data howned hfits hadmits => ?_⟩
  · exact contactCreate_answer hkept hschools hctx hfresh hfits hadmits
  · exact contactUpdate_answer hkept howned hfits hadmits

lemma school_length : 1 ≤ "SCHOOL".length ∧ "SCHOOL".length ≤ 24 := by decide

lemma noLabel_length : ∀ s ∈ (none : Option String), s.length ≤ 60 := by simp

/-- A phone number of school 11. -/
def officePhone (value : String) (h : 1 ≤ value.length ∧ value.length ≤ 255) : ContactCreate where
  entityType := "SCHOOL"
  entityId := 11
  contactType := .phone
  value := value
  label := none
  isPrimary := false
  isEmergency := false
  entityType_length := school_length
  value_length := h
  label_length := noLabel_length

/-- The second number becomes the first. -/
def samePhone (h : ∀ s ∈ some "5550001", 1 ≤ s.length ∧ s.length ≤ 255) : ContactUpdate where
  contactType := none
  value := some "5550001"
  label := none
  isPrimary := none
  isEmergency := none
  value_length := h
  label_length := noLabel_length

lemma phone_length : 1 ≤ "5550001".length ∧ "5550001".length ≤ 255 := by decide
lemma givenPhone_length : ∀ s ∈ some "5550001", 1 ≤ s.length ∧ s.length ≤ 255 := by decide
lemma otherPhone_length : 1 ≤ "5550002".length ∧ "5550002".length ≤ 255 := by decide

/-- Two numbers of the office. -/
def twoPhones : List DirectoryCall :=
  [.contact ⟨staff, .create (officePhone "5550001" phone_length) 901⟩,
    .contact ⟨staff, .create (officePhone "5550002" otherPhone_length) 902⟩]

theorem contact_answers_twoPhones :
    let db := run (DirectoryCall.step .plain) smallSchool.withoutContacts twoPhones
    Contacts.create .plain staff db (officePhone "5550001" phone_length) 903 =
        .error (Contacts.contactExists (officePhone "5550001" phone_length)) ∧
      ∃ c, Contacts.getOwned staff db 902 = .ok c ∧
        Contacts.update .plain staff db c (samePhone givenPhone_length) = .error internalError := by
  obtain ⟨hcreate, hupdate⟩ := contact_answers .plain smallSchool twoPhones
    (List.nodup_singleton _) staff 101 rfl
  have hfirst : ∃ r ∈ (run (DirectoryCall.step .plain) smallSchool.withoutContacts
      twoPhones).contacts, SameContact r
        (Contacts.created 101 (officePhone "5550001" phone_length) 903) := by decide +kernel
  refine ⟨((hcreate (officePhone "5550001" phone_length) 903 (by decide +kernel)
    (by decide +kernel) (by decide +kernel)).1).mpr ⟨by decide +kernel, rfl, hfirst⟩,
    Contacts.created 101 (officePhone "5550002" otherPhone_length) 902, rfl, ?_⟩
  have hclash : ∃ r ∈ (run (DirectoryCall.step .plain) smallSchool.withoutContacts
      twoPhones).contacts, r.id ≠ 902 ∧ SameContact r (Contacts.applied
        (Contacts.created 101 (officePhone "5550002" otherPhone_length) 902)
        (samePhone givenPhone_length)) := by decide +kernel
  exact (hupdate 902 _ (samePhone givenPhone_length) rfl (by decide +kernel)
    (by decide +kernel)).mpr hclash

end SchoolOs
