import SchoolOs.Runs
import SchoolOs.Timetables

/-!
Slots over runs of the slot requests: what a request does to the table, and which of the two
double-booking rules it keeps.
-/

namespace SchoolOs

/-! ### Requests -/

inductive SlotOp
  | create (data : TimetableSlotCreate) (id : Ulid)
  | update (slotId : Ulid) (data : TimetableSlotUpdate)
  | delete (slotId : Ulid)

/-- A request on slots, with its context and the clock. -/
structure SlotCall where
  ctx : RequestContext
  clk : Clock
  op : SlotOp

/-- The route: the service, on the slot the caller owns. -/
def SlotCall.handle (env : SchoolEnv) (db : SchoolDB) (c : SlotCall) : Fallible SchoolDB :=
  match c.op with
  | .create data id => Prod.snd <$> Slots.create env c.ctx db data id
  | .update slotId data => do
    let slot ← Slots.getOwned c.ctx db slotId
    Prod.snd <$> Slots.update env c.ctx db slot data
  | .delete slotId => do
    let slot ← Slots.getOwned c.ctx db slotId
    Prod.snd <$> Slots.delete env c.clk c.ctx db slot

/-- A failed request leaves no trace. -/
def SlotCall.step (env : SchoolEnv) (db : SchoolDB) (c : SlotCall) : SchoolDB :=
  match c.handle env db with
  | .ok db' => db'
  | .error _ => db

/-! ### Double bookings -/

/-- Two ACTIVE slots put one entity into one period and day, on overlapping dates. -/
def Clash (entity : TimetableSlot → Ulid) (a b : TimetableSlot) : Prop :=
  a.status = .active ∧ b.status = .active ∧ entity a = entity b ∧
    a.periodDefinitionId = b.periodDefinitionId ∧ a.dayOfWeek = b.dayOfWeek ∧ a.span.Meets b.span

instance (entity : TimetableSlot → Ulid) : DecidableRel (Clash entity) := fun a b =>
  inferInstanceAs (Decidable (a.status = .active ∧ b.status = .active ∧ entity a = entity b ∧
    a.periodDefinitionId = b.periodDefinitionId ∧ a.dayOfWeek = b.dayOfWeek ∧
    a.span.Meets b.span))

lemma Clash.symm {entity : TimetableSlot → Ulid} (a b : TimetableSlot) (h : Clash entity a b) :
    Clash entity b a := by
  obtain ⟨ha, hb, he, hp, hd, hm⟩ := h
  exact ⟨hb, ha, he.symm, hp.symm, hd.symm, hm.symm⟩

/-- **What a clash is**, for slots that do not end before they start: both are effective on some
day. -/
theorem clash_iff_common {entity : TimetableSlot → Ulid} {a b : TimetableSlot} (ha : a.span.Proper)
    (hb : b.span.Proper) : Clash entity a b ↔
      a.status = .active ∧ b.status = .active ∧ entity a = entity b ∧
        a.periodDefinitionId = b.periodDefinitionId ∧ a.dayOfWeek = b.dayOfWeek ∧
        ∃ d, a.span.Has d ∧ b.span.Has d := by
  rw [Clash, Span.meets_iff_common ha hb]

/-- No two slots double-book a teacher. -/
def TeacherFree (db : SchoolDB) : Prop := db.timetableSlots.Excludes (Clash TimetableSlot.teacherId)

/-- No two slots double-book a cohort. -/
def CohortFree (db : SchoolDB) : Prop := db.timetableSlots.Excludes (Clash TimetableSlot.cohortId)

instance (db : SchoolDB) : Decidable (TeacherFree db) :=
  inferInstanceAs (Decidable (db.timetableSlots.Excludes _))

instance (db : SchoolDB) : Decidable (CohortFree db) :=
  inferInstanceAs (Decidable (db.timetableSlots.Excludes _))

/-- The date conditions of the queries are the overlap test. -/
lemma overlapping_iff {slot : TimetableSlot} {effectiveFrom : Date} {effectiveTo : Option Date} :
    overlapping slot effectiveFrom effectiveTo = true ↔
      slot.span.Meets ⟨effectiveFrom, effectiveTo⟩ := by
  have hsome : ∀ (x : Date) (o : Option Date), (o = none ∨ ∃ e ∈ o, x ≤ e) ↔ ∀ e ∈ o, x ≤ e := by
    intro x o
    cases o <;> simp
  simp only [overlapping, decide_eq_true_eq, hsome]
  rfl

variable {env : SchoolEnv} {ctx : RequestContext} {clk : Clock} {db db' : SchoolDB}

/-! ### The conflict checks -/

/-- The arguments of a conflict check. -/
structure SlotQuery where
  entityId : Ulid
  periodDefinitionId : Ulid
  dayOfWeek : DayOfWeek
  effectiveFrom : Date
  effectiveTo : Option Date
  excludeId : Option Ulid

def SlotQuery.span (q : SlotQuery) : Span Date := ⟨q.effectiveFrom, q.effectiveTo⟩

/-- Another ACTIVE slot of the entity, period and day, among those that the session sees. -/
def SlotQuery.Rival (entity : TimetableSlot → Ulid) (ctx : RequestContext) (db : SchoolDB)
    (q : SlotQuery) (s : TimetableSlot) : Prop :=
  s ∈ shown TimetableSlot.schoolId ctx db.timetableSlots.rows ∧ entity s = q.entityId ∧
    s.periodDefinitionId = q.periodDefinitionId ∧ s.dayOfWeek = q.dayOfWeek ∧
    s.status = .active ∧ q.excludeId ≠ some s.id

/-- The check, on its arguments. -/
def SlotQuery.check (entity : TimetableSlot → Ulid) (env : SchoolEnv) (ctx : RequestContext)
    (db : SchoolDB) (q : SlotQuery) : Fallible Bool :=
  checkSlotConflict db entity env ctx q.entityId q.periodDefinitionId q.dayOfWeek q.effectiveFrom
    q.effectiveTo q.excludeId

/-- What a check answers when it does: whether the bounds of a rival cross those of the
candidate. -/
lemma slotQuery_check (entity : TimetableSlot → Ulid) (env : SchoolEnv) (ctx : RequestContext)
    (db : SchoolDB) (q : SlotQuery) (b : Bool) : q.check entity env ctx db = .ok b ↔
    (q.effectiveTo = none → env.comparesNone = true) ∧
      (b = true ↔ ∃ s, q.Rival entity ctx db s ∧ s.span.Meets q.span) := by
  have hany : ((shown TimetableSlot.schoolId ctx db.timetableSlots.rows).any fun s =>
      entity s = q.entityId ∧ s.periodDefinitionId = q.periodDefinitionId ∧
        s.dayOfWeek = q.dayOfWeek ∧ s.status = .active ∧
        overlapping s q.effectiveFrom q.effectiveTo = true ∧ q.excludeId ≠ some s.id) = true ↔
      ∃ s, q.Rival entity ctx db s ∧ s.span.Meets q.span := by
    simp only [List.any_eq_true, decide_eq_true_eq, overlapping_iff]
    constructor
    · rintro ⟨s, hs, he, hp, hd, hactive, hm, hid⟩
      exact ⟨s, ⟨hs, he, hp, hd, hactive, hid⟩, hm⟩
    · rintro ⟨s, ⟨hs, he, hp, hd, hactive, hid⟩, hm⟩
      exact ⟨s, hs, he, hp, hd, hactive, hm, hid⟩
  simp only [SlotQuery.check, checkSlotConflict, bind_ok, ensure_ok, pure_ok, ← hany]
  constructor
  · rintro ⟨_, hcompares, rfl⟩
    exact ⟨hcompares, Iff.rfl⟩
  · rintro ⟨hcompares, hb⟩
    exact ⟨(), hcompares, (Bool.eq_iff_iff.mpr hb).symm⟩

/-- **What a conflict check answers**: whether another slot of the school would clash with a row
that has these values and is ACTIVE. -/
lemma checkSlotConflict_ok (env : SchoolEnv) (db : SchoolDB) (entity : TimetableSlot → Ulid)
    (row : TimetableSlot) (excludeId : Option Ulid) (b : Bool)
    (hctx : ctx.schoolId = some row.schoolId) (hrow : row.status = .active) :
    checkSlotConflict db entity env ctx (entity row) row.periodDefinitionId row.dayOfWeek
        row.effectiveFrom row.effectiveTo excludeId = .ok b ↔
      (row.effectiveTo = none → env.comparesNone = true) ∧
        (b = true ↔ ∃ s ∈ db.timetableSlots, s.schoolId = row.schoolId ∧ excludeId ≠ some s.id ∧
          Clash entity s row) := by
  have hrival : (∃ s, SlotQuery.Rival entity ctx db ⟨entity row, row.periodDefinitionId,
      row.dayOfWeek, row.effectiveFrom, row.effectiveTo, excludeId⟩ s ∧ s.span.Meets row.span) ↔
      ∃ s ∈ db.timetableSlots, s.schoolId = row.schoolId ∧ excludeId ≠ some s.id ∧
        Clash entity s row := by
    simp only [SlotQuery.Rival, mem_shown hctx]
    constructor
    · rintro ⟨s, ⟨⟨hs, hschool⟩, he, hp, hd, hactive, hid⟩, hm⟩
      exact ⟨s, hs, hschool, hid, hactive, hrow, he, hp, hd, hm⟩
    · rintro ⟨s, hs, hschool, hid, hactive, _, he, hp, hd, hm⟩
      exact ⟨s, ⟨⟨hs, hschool⟩, he, hp, hd, hactive, hid⟩, hm⟩
  have hcheck := slotQuery_check entity env ctx db
    ⟨entity row, row.periodDefinitionId, row.dayOfWeek, row.effectiveFrom, row.effectiveTo,
      excludeId⟩ b
  rw [← hrival]
  exact hcheck

lemma no_clash_of_check (env : SchoolEnv) {entity : TimetableSlot → Ulid} {row : TimetableSlot}
    {excludeId : Option Ulid} (hctx : ctx.schoolId = some row.schoolId)
    (h : checkSlotConflict db entity env ctx (entity row) row.periodDefinitionId row.dayOfWeek
      row.effectiveFrom row.effectiveTo excludeId = .ok false) {s : TimetableSlot}
    (hs : s ∈ db.timetableSlots) (hschool : s.schoolId = row.schoolId)
    (hid : excludeId ≠ some s.id) : ¬ Clash entity s row := by
  intro hclash
  have hnone := ((checkSlotConflict_ok env db entity row _ _ hctx hclash.2.1).mp h).2
  exact Bool.false_ne_true (hnone.mpr ⟨s, hs, hschool, hid, hclash⟩)

/-! ### What a request does -/

/-- The slots after a request that goes through. -/
inductive SlotEffect (env : SchoolEnv) (ctx : RequestContext) (clk : Clock) (db : SchoolDB) :
    SlotOp → Table TimetableSlot.id → Prop
  | create {data : TimetableSlotCreate} {id : Ulid} {slot : TimetableSlot}
      {slots : Table TimetableSlot.id} (school : ctx.schoolId = some slot.schoolId)
      (period : (db.periodDefinitions.get slot.periodDefinitionId).map PeriodDefinition.schoolId =
        some slot.schoolId)
      (unlinked : slot.timetableId = none)
      (teacher : ∀ s ∈ db.timetableSlots, s.schoolId = slot.schoolId →
        ¬ Clash TimetableSlot.teacherId s slot)
      (cohort : ∀ s ∈ db.timetableSlots, s.schoolId = slot.schoolId →
        ¬ Clash TimetableSlot.cohortId s slot)
      (insert : db.timetableSlots.insert slot = some slots) :
      SlotEffect env ctx clk db (.create data id) slots
  | update {slotId : Ulid} {data : TimetableSlotUpdate} {slot : TimetableSlot}
      (owned : Slots.getOwned ctx db slotId = .ok slot) (version : slot.version = data.version)
      (compares : data.effectiveTo.or slot.effectiveTo = none → env.comparesNone = true)
      (teacher : data.teacherId ≠ none → ∀ s ∈ db.timetableSlots, s.schoolId = slot.schoolId →
        s.id ≠ slot.id → ¬ Clash TimetableSlot.teacherId s (Slots.applied ctx slot data))
      (cohort : ∀ s ∈ db.timetableSlots, s.schoolId = slot.schoolId → s.id ≠ slot.id →
        ¬ Clash TimetableSlot.cohortId s (Slots.applied ctx slot data)) :
      SlotEffect env ctx clk db (.update slotId data) (db.timetableSlots.put
        (flushed TimetableSlot.touch slot (Slots.applied ctx slot data)))
  | delete {slotId : Ulid} {slot : TimetableSlot}
      (owned : Slots.getOwned ctx db slotId = .ok slot) :
      SlotEffect env ctx clk db (.delete slotId) (db.timetableSlots.put
        (flushed TimetableSlot.touch slot (Slots.cancelled clk ctx slot)))

lemma slotOwned_ok {slotId : Ulid} {slot : TimetableSlot}
    (h : Slots.getOwned ctx db slotId = .ok slot) :
    ctx.schoolId = some slot.schoolId ∧ slot ∈ db.timetableSlots ∧ slot.id = slotId := by
  obtain ⟨schoolId, hctx, h⟩ := bind_ok.mp h
  obtain ⟨hget, hschool⟩ := Option.filter_eq_some_iff.mp (found_ok.mp h)
  obtain rfl : slot.schoolId = schoolId := by simpa using hschool
  exact ⟨found_ok.mp hctx, Table.get_eq_some.mp hget⟩

/-- What a save leaves: another slot table, and otherwise the database as it was. -/
lemma slotSave_ok {old new : TimetableSlot} (h : Slots.save db old new = .ok db') :
    db' = { db with
      timetableSlots := db.timetableSlots.put (flushed TimetableSlot.touch old new) } := by
  obtain ⟨_, _, h⟩ := bind_ok.mp h
  exact (pure_ok.mp h).symm

lemma periodById_ok {schoolId periodId : Ulid} {period : PeriodDefinition}
    (h : getPeriodById db schoolId periodId = some period) :
    (db.periodDefinitions.get periodId).map PeriodDefinition.schoolId = some schoolId := by
  obtain ⟨hget, hschool⟩ := Option.filter_eq_some_iff.mp h
  rw [hget, Option.map_some]
  simpa using hschool

/-- The slot table is all that a slot request changes, beside the audit log. -/
structure SlotFrame (db db' : SchoolDB) : Prop where
  periods : db'.periodDefinitions = db.periodDefinitions
  timetables : db'.timetables = db.timetables

lemma slotCreate_ok {data : TimetableSlotCreate} {id : Ulid} {slot : TimetableSlot}
    (h : Slots.create env ctx db data id = .ok (slot, db')) :
    SlotEffect env ctx clk db (.create data id) db'.timetableSlots ∧ SlotFrame db db' := by
  obtain ⟨schoolId, hctx, h⟩ := bind_ok.mp h
  obtain ⟨_, hteacher, h⟩ := bind_ok.mp h
  obtain ⟨_, hfreeT, h⟩ := bind_ok.mp h
  obtain ⟨_, hcohort, h⟩ := bind_ok.mp h
  obtain ⟨_, hfreeC, h⟩ := bind_ok.mp h
  obtain ⟨period, hperiod, h⟩ := bind_ok.mp h
  obtain ⟨_, _, h⟩ := bind_ok.mp h
  obtain ⟨_, _, h⟩ := bind_ok.mp h
  obtain ⟨organizationId, _, h⟩ := bind_ok.mp h
  obtain ⟨db1, hinsert, h⟩ := bind_ok.mp h
  obtain ⟨slots, hslots, hinsert⟩ := bind_ok.mp hinsert
  obtain ⟨_, _, hinsert⟩ := bind_ok.mp hinsert
  obtain ⟨db2, haudit, h⟩ := bind_ok.mp h
  obtain rfl := pure_ok.mp hinsert
  obtain ⟨_, rfl⟩ := schoolAudit_ok.mp haudit
  obtain ⟨rfl, rfl⟩ := Prod.mk.inj (pure_ok.mp h)
  rw [ensure_ok.mp hfreeT] at hteacher
  rw [ensure_ok.mp hfreeC] at hcohort
  refine ⟨.create (found_ok.mp hctx) (periodById_ok (found_ok.mp hperiod)) rfl ?_ ?_
    (found_ok.mp hslots), rfl, rfl⟩
  · intro s hs hschool
    refine no_clash_of_check env (found_ok.mp hctx) ?_ hs hschool (Option.some_ne_none s.id).symm
    exact hteacher
  · intro s hs hschool
    refine no_clash_of_check env (found_ok.mp hctx) ?_ hs hschool (Option.some_ne_none s.id).symm
    exact hcohort

lemma slotUpdate_slots {slot slot' : TimetableSlot} {data : TimetableSlotUpdate}
    (h : Slots.update env ctx db slot data = .ok (slot', db')) :
    db'.timetableSlots = db.timetableSlots.put
      (flushed TimetableSlot.touch slot (Slots.applied ctx slot data)) := by
  obtain ⟨_, _, h⟩ := bind_ok.mp h
  obtain ⟨_, _, h⟩ := bind_ok.mp h
  obtain ⟨_, _, h⟩ := bind_ok.mp h
  obtain ⟨_, _, h⟩ := bind_ok.mp h
  obtain ⟨_, _, h⟩ := bind_ok.mp h
  obtain ⟨db1, hsave, h⟩ := bind_ok.mp h
  obtain ⟨db2, haudit, h⟩ := bind_ok.mp h
  obtain rfl := slotSave_ok hsave
  obtain ⟨_, rfl⟩ := schoolAudit_ok.mp haudit
  obtain ⟨_, rfl⟩ := Prod.mk.inj (pure_ok.mp h)
  rfl

lemma slotUpdate_ok {slotId : Ulid} {slot slot' : TimetableSlot} {data : TimetableSlotUpdate}
    (howned : Slots.getOwned ctx db slotId = .ok slot)
    (h : Slots.update env ctx db slot data = .ok (slot', db')) :
    SlotEffect env ctx clk db (.update slotId data) db'.timetableSlots ∧ SlotFrame db db' := by
  obtain ⟨_, hversion, h⟩ := bind_ok.mp h
  obtain ⟨_, hteacher, h⟩ := bind_ok.mp h
  obtain ⟨_, hfreeT, h⟩ := bind_ok.mp h
  obtain ⟨_, hcohort, h⟩ := bind_ok.mp h
  obtain ⟨_, hfreeC, h⟩ := bind_ok.mp h
  obtain ⟨db1, hsave, h⟩ := bind_ok.mp h
  obtain ⟨db2, haudit, h⟩ := bind_ok.mp h
  obtain rfl := slotSave_ok hsave
  obtain ⟨_, rfl⟩ := schoolAudit_ok.mp haudit
  obtain ⟨_, rfl⟩ := Prod.mk.inj (pure_ok.mp h)
  have hrowctx : ctx.schoolId = some (Slots.applied ctx slot data).schoolId :=
    (slotOwned_ok howned).1
  rw [ensure_ok.mp hfreeT] at hteacher
  rw [ensure_ok.mp hfreeC] at hcohort
  obtain ⟨_, hcompares, _⟩ := bind_ok.mp hcohort
  refine ⟨.update howned (ensure_ok.mp hversion) (ensure_ok.mp hcompares)
    (fun hgiven s hs hschool hid => ?_) (fun s hs hschool hid => ?_), rfl, rfl⟩
  · -- The teacher is the one of the payload.
    obtain ⟨teacherId, hsome⟩ := Option.ne_none_iff_exists'.mp hgiven
    rw [Slots.teacherTaken, hsome] at hteacher
    have hrow : (Slots.applied ctx slot data).teacherId = teacherId := by
      simp [Slots.applied, hsome]
    rw [← hrow] at hteacher
    exact no_clash_of_check env hrowctx hteacher hs hschool fun he => hid (Option.some.inj he).symm
  · exact no_clash_of_check env hrowctx hcohort hs hschool fun he => hid (Option.some.inj he).symm

lemma slotDelete_ok {slotId : Ulid} {slot slot' : TimetableSlot}
    (howned : Slots.getOwned ctx db slotId = .ok slot)
    (h : Slots.delete env clk ctx db slot = .ok (slot', db')) :
    SlotEffect env ctx clk db (.delete slotId) db'.timetableSlots ∧ SlotFrame db db' := by
  obtain ⟨db1, hsave, h⟩ := bind_ok.mp h
  obtain ⟨db2, haudit, h⟩ := bind_ok.mp h
  obtain rfl := slotSave_ok hsave
  obtain ⟨_, rfl⟩ := schoolAudit_ok.mp haudit
  obtain ⟨_, rfl⟩ := Prod.mk.inj (pure_ok.mp h)
  exact ⟨.delete howned, rfl, rfl⟩

/-- **What a slot request does**: nothing, or one of the three effects. -/
theorem slotStep_cases (env : SchoolEnv) (db : SchoolDB) (c : SlotCall) :
    c.step env db = db ∨ SlotEffect env c.ctx c.clk db c.op (c.step env db).timetableSlots ∧
      SlotFrame db (c.step env db) := by
  unfold SlotCall.step
  cases h : c.handle env db with
  | error e => exact .inl rfl
  | ok db' =>
    refine .inr ?_
    obtain ⟨ctx, clk, op⟩ := c
    cases op with
    | create data id =>
      obtain ⟨⟨slot, _⟩, hcreate, rfl⟩ := map_ok.mp h
      exact slotCreate_ok hcreate
    | update slotId data =>
      obtain ⟨slot, howned, h⟩ := bind_ok.mp h
      obtain ⟨⟨slot', _⟩, hupdate, rfl⟩ := map_ok.mp h
      exact slotUpdate_ok howned hupdate
    | delete slotId =>
      obtain ⟨slot, howned, h⟩ := bind_ok.mp h
      obtain ⟨⟨slot', _⟩, hdelete, rfl⟩ := map_ok.mp h
      exact slotDelete_ok howned hdelete

end SchoolOs
