import SchoolOs.SlotBookings

/-!
Double bookings over runs. The cohort rule holds after every request; the teacher rule is
checked only by the updates that name a teacher, and holds as long as the others do not bring a
clash about.
-/

namespace SchoolOs

open Runs

variable {env : SchoolEnv} {ctx : RequestContext} {clk : Clock} {db db' : SchoolDB}

/-! ### Slots and the school of their period -/

/-- A slot belongs to the school of its period, and to no timetable. -/
structure SlotSound (db : SchoolDB) : Prop where
  school : ∀ s ∈ db.timetableSlots,
    (db.periodDefinitions.get s.periodDefinitionId).map PeriodDefinition.schoolId =
      some s.schoolId
  unlinked : ∀ s ∈ db.timetableSlots, s.timetableId = none

lemma SlotSound.empty (h : db.timetableSlots = .empty _) : SlotSound db where
  school := by
    intro s hs
    rw [h] at hs
    exact absurd hs Table.not_mem_empty
  unlinked := by
    intro s hs
    rw [h] at hs
    exact absurd hs Table.not_mem_empty

lemma SlotSound.sameSchool (h : SlotSound db) {s : TimetableSlot} (hs : s ∈ db.timetableSlots)
    {row : TimetableSlot}
    (hrow : (db.periodDefinitions.get row.periodDefinitionId).map PeriodDefinition.schoolId =
      some row.schoolId) (hp : s.periodDefinitionId = row.periodDefinitionId) :
    s.schoolId = row.schoolId := by
  have hschool := h.school s hs
  rw [hp, hrow] at hschool
  exact (Option.some.inj hschool).symm

lemma SlotSound.put (h : SlotSound db) {slot row : TimetableSlot} (hslot : slot ∈ db.timetableSlots)
    (hschool : row.schoolId = slot.schoolId)
    (hperiod : row.periodDefinitionId = slot.periodDefinitionId)
    (hlink : row.timetableId = slot.timetableId) {s : TimetableSlot}
    (hs : s ∈ db.timetableSlots.put row) :
    (db.periodDefinitions.get s.periodDefinitionId).map PeriodDefinition.schoolId =
        some s.schoolId ∧ s.timetableId = none := by
  rcases Table.mem_put.mp hs with ⟨hs, _⟩ | ⟨rfl, _⟩
  · exact ⟨h.school s hs, h.unlinked s hs⟩
  · rw [hschool, hperiod, hlink]
    exact ⟨h.school slot hslot, h.unlinked slot hslot⟩

lemma flushed_slot (old new : TimetableSlot) :
    let row := flushed TimetableSlot.touch old new
    row.id = new.id ∧ row.schoolId = new.schoolId ∧ row.timetableId = new.timetableId ∧
      row.periodDefinitionId = new.periodDefinitionId ∧ row.cohortId = new.cohortId ∧
      row.teacherId = new.teacherId ∧ row.dayOfWeek = new.dayOfWeek ∧ row.status = new.status ∧
      row.span = new.span := by
  unfold flushed
  split
  · next h => simp [h]
  · simp [TimetableSlot.touch, TimetableSlot.span]

lemma SlotEffect.sound {op : SlotOp} {slots : Table TimetableSlot.id}
    (h : SlotEffect env ctx clk db op slots) (hs : SlotSound db) :
    ∀ s ∈ slots, (db.periodDefinitions.get s.periodDefinitionId).map PeriodDefinition.schoolId =
      some s.schoolId ∧ s.timetableId = none := by
  cases h with
  | create school period unlinked teacher cohort insert =>
    intro s hmem
    rcases (Table.mem_of_insert insert).mp hmem with hold | rfl
    · exact ⟨hs.school s hold, hs.unlinked s hold⟩
    · exact ⟨period, unlinked⟩
  | @update slotId data slot owned version compares teacher cohort =>
    obtain ⟨_, hschool, hlink, hperiod, _⟩ := flushed_slot slot (Slots.applied ctx slot data)
    exact fun s => hs.put (slotOwned_ok owned).2.1 hschool hperiod hlink
  | @delete slotId slot owned =>
    obtain ⟨_, hschool, hlink, hperiod, _⟩ := flushed_slot slot (Slots.cancelled clk ctx slot)
    exact fun s => hs.put (slotOwned_ok owned).2.1 hschool hperiod hlink

lemma slotSound_step (hs : SlotSound db) (c : SlotCall) : SlotSound (c.step env db) := by
  rcases slotStep_cases env db c with heq | ⟨heffect, hframe⟩
  · rwa [heq]
  · constructor
    · intro s hmem
      rw [hframe.periods]
      exact (heffect.sound hs s hmem).1
    · exact fun s hmem => (heffect.sound hs s hmem).2

/-! ### One request -/

section Step

variable {entity : TimetableSlot → Ulid} {slot new : TimetableSlot}

lemma free_insert {slots : Table TimetableSlot.id} (hs : SlotSound db)
    (hperiod : (db.periodDefinitions.get slot.periodDefinitionId).map PeriodDefinition.schoolId =
      some slot.schoolId)
    (hfree : ∀ s ∈ db.timetableSlots, s.schoolId = slot.schoolId → ¬ Clash entity s slot)
    (hinsert : db.timetableSlots.insert slot = some slots)
    (h : db.timetableSlots.Excludes (Clash entity)) : slots.Excludes (Clash entity) := by
  refine (Table.excludes_insert Clash.symm hinsert).mpr ⟨h, fun s hmem hclash => ?_⟩
  have hsame : s.schoolId = slot.schoolId := hs.sameSchool hmem hperiod hclash.2.2.2.1
  exact hfree s hmem hsame hclash

lemma free_put (hs : SlotSound db) (hslot : slot ∈ db.timetableSlots) (hid : new.id = slot.id)
    (hperiod : new.periodDefinitionId = slot.periodDefinitionId)
    (hentity : entity (flushed TimetableSlot.touch slot new) = entity new)
    (hfree : ∀ s ∈ db.timetableSlots, s.schoolId = slot.schoolId → s.id ≠ slot.id →
      ¬ Clash entity s new)
    (h : db.timetableSlots.Excludes (Clash entity)) :
    (db.timetableSlots.put (flushed TimetableSlot.touch slot new)).Excludes (Clash entity) := by
  obtain ⟨hrid, _, _, hrperiod, _, _, hday, hstatus, hspan⟩ := flushed_slot slot new
  refine h.put Clash.symm fun s hmem hne hclash => ?_
  have hclash' : Clash entity s new := by
    unfold Clash at hclash ⊢
    rwa [hstatus, hentity, hrperiod, hday, hspan] at hclash
  have hsame : s.schoolId = slot.schoolId :=
    hs.sameSchool hmem (hs.school slot hslot) (hclash'.2.2.2.1.trans hperiod)
  exact hfree s hmem hsame (fun he => hne (by rw [hrid, hid, he])) hclash'

lemma not_clash_cancelled (s : TimetableSlot) :
    ¬ Clash entity s (Slots.cancelled clk ctx slot) := by
  rintro ⟨_, hactive, _⟩
  cases hactive

end Step

/-- **The cohort rule, one request.** -/
lemma SlotEffect.cohortFree {op : SlotOp} {slots : Table TimetableSlot.id}
    (h : SlotEffect env ctx clk db op slots) (hs : SlotSound db) (hfree : CohortFree db) :
    slots.Excludes (Clash TimetableSlot.cohortId) := by
  cases h with
  | create school period unlinked teacher cohort insert =>
    exact free_insert hs period cohort insert hfree
  | @update slotId data slot owned version compares teacher cohort =>
    have hentity := (flushed_slot slot (Slots.applied ctx slot data)).2.2.2.2.1
    exact free_put hs (slotOwned_ok owned).2.1 rfl rfl hentity cohort hfree
  | @delete slotId slot owned =>
    have hentity := (flushed_slot slot (Slots.cancelled clk ctx slot)).2.2.2.2.1
    exact free_put hs (slotOwned_ok owned).2.1 rfl rfl hentity
      (fun s _ _ _ => not_clash_cancelled s) hfree

/-- An update that leaves the teacher out and the slot ACTIVE would pass the teacher check, had it
named the teacher of the slot. -/
def TeacherStaysFree (env : SchoolEnv) (db : SchoolDB) (c : SlotCall) : Prop :=
  match c.op with
  | .update slotId data => ∀ slot, Slots.getOwned c.ctx db slotId = .ok slot →
      slot.version = data.version → data.teacherId = none →
        data.status.getD slot.status = .active →
          checkTeacherConflict db env c.ctx slot.teacherId slot.periodDefinitionId slot.dayOfWeek
            slot.effectiveFrom (data.effectiveTo.or slot.effectiveTo) (some slot.id) ≠ .ok true
  | _ => True

lemma checkTeacher_applied {slot : TimetableSlot} {data : TimetableSlotUpdate}
    (hctx : ctx.schoolId = some slot.schoolId) (hnone : data.teacherId = none)
    (hactive : data.status.getD slot.status = .active)
    (hcompares : data.effectiveTo.or slot.effectiveTo = none → env.comparesNone = true) :
    checkTeacherConflict db env ctx slot.teacherId slot.periodDefinitionId slot.dayOfWeek
        slot.effectiveFrom (data.effectiveTo.or slot.effectiveTo) (some slot.id) = .ok true ↔
      ∃ s ∈ db.timetableSlots, s.schoolId = slot.schoolId ∧ s.id ≠ slot.id ∧
        Clash TimetableSlot.teacherId s (Slots.applied ctx slot data) := by
  have hteacher : slot.teacherId = (Slots.applied ctx slot data).teacherId := by
    simp [Slots.applied, hnone]
  have hcheck := checkSlotConflict_ok env db TimetableSlot.teacherId (Slots.applied ctx slot data)
    (some slot.id) true hctx hactive
  rw [← hteacher] at hcheck
  have hid : ∀ s : TimetableSlot, some slot.id ≠ some s.id ↔ s.id ≠ slot.id := by
    intro s
    rw [ne_eq, Option.some.injEq, eq_comm]
  simp only [true_iff, hid] at hcheck
  exact hcheck.trans (and_iff_right hcompares)

/-- **The teacher rule, one request.** -/
lemma SlotEffect.teacherFree {op : SlotOp} {slots : Table TimetableSlot.id}
    (h : SlotEffect env ctx clk db op slots) (hstays : TeacherStaysFree env db ⟨ctx, clk, op⟩)
    (hs : SlotSound db) (hfree : TeacherFree db) :
    slots.Excludes (Clash TimetableSlot.teacherId) := by
  cases h with
  | create school period unlinked teacher cohort insert =>
    exact free_insert hs period teacher insert hfree
  | @update slotId data slot owned version compares teacher cohort =>
    have hentity := (flushed_slot slot (Slots.applied ctx slot data)).2.2.2.2.2.1
    refine free_put hs (slotOwned_ok owned).2.1 rfl rfl hentity ?_ hfree
    intro s hmem hschool hid
    by_cases hgiven : data.teacherId = none
    · intro hclash
      refine hstays slot owned version hgiven hclash.2.1 ?_
      exact (checkTeacher_applied (slotOwned_ok owned).1 hgiven hclash.2.1 compares).mpr
        ⟨s, hmem, hschool, hid, hclash⟩
    · exact teacher hgiven s hmem hschool hid
  | @delete slotId slot owned =>
    have hentity := (flushed_slot slot (Slots.cancelled clk ctx slot)).2.2.2.2.2.1
    exact free_put hs (slotOwned_ok owned).2.1 rfl rfl hentity
      (fun s _ _ _ => not_clash_cancelled s) hfree

/-- The condition is no stronger than it must be: an update that goes through without it
double-books the teacher. -/
lemma teacherFree_breaks {c : SlotCall} (h : ¬ TeacherStaysFree env db c)
    (hok : c.handle env db = .ok db') : ¬ TeacherFree db' := by
  obtain ⟨ctx, clk, op⟩ := c
  cases op with
  | create data id => exact absurd trivial h
  | delete slotId => exact absurd trivial h
  | update slotId data =>
    simp only [TeacherStaysFree, not_forall, not_not] at h
    obtain ⟨slot, howned, hversion, hnone, hactive, htaken⟩ := h
    obtain ⟨_, hcompares, _⟩ := bind_ok.mp htaken
    obtain ⟨s, hmem, _, hid, hclash⟩ := (checkTeacher_applied (slotOwned_ok howned).1 hnone hactive
      (ensure_ok.mp hcompares)).mp htaken
    obtain ⟨slot', howned', hok⟩ := bind_ok.mp hok
    obtain rfl := Except.ok.inj (howned.symm.trans howned')
    obtain ⟨⟨_, _⟩, hupdate, rfl⟩ := map_ok.mp hok
    have hslots := slotUpdate_slots hupdate
    obtain ⟨hrid, _, _, hperiod, _, hteacher, hday, hstatus, hspan⟩ :=
      flushed_slot slot (Slots.applied ctx slot data)
    have hclash' : Clash TimetableSlot.teacherId s
        (flushed TimetableSlot.touch slot (Slots.applied ctx slot data)) := by
      unfold Clash
      rw [hstatus, hteacher, hperiod, hday, hspan]
      exact hclash
    have hold := (slotOwned_ok howned).2.1
    unfold TeacherFree
    rw [hslots]
    exact Table.not_excludes_put hold hrid.symm hmem (by rw [hrid]; exact hid) hclash'

/-! ### Runs -/

/-- The database before any slot. -/
def SchoolDB.withoutSlots (db : SchoolDB) : SchoolDB := { db with timetableSlots := .empty _ }

/-- **No cohort is double-booked**, whatever slot requests come one after another. -/
theorem cohort_never_doubleBooked (env : SchoolEnv) (db : SchoolDB) (l : List SlotCall) :
    CohortFree (run (SlotCall.step env) db.withoutSlots l) := by
  have hstep : ∀ (d : SchoolDB) (c : SlotCall), SlotSound d ∧ CohortFree d →
      SlotSound (c.step env d) ∧ CohortFree (c.step env d) := by
    rintro d c ⟨hsound, hfree⟩
    refine ⟨slotSound_step hsound c, ?_⟩
    rcases slotStep_cases env d c with heq | ⟨heffect, _⟩
    · rwa [heq]
    · exact heffect.cohortFree hsound hfree
  have hinit : SlotSound db.withoutSlots ∧ CohortFree db.withoutSlots :=
    ⟨.empty rfl, Table.excludes_empty⟩
  exact (invariant_all hstep hinit l).2

/-- **No teacher is double-booked**, as long as the updates that leave the teacher out bring no
clash about. -/
theorem teacher_not_doubleBooked (env : SchoolEnv) (db : SchoolDB) (l : List SlotCall)
    (h : Along (SlotCall.step env) (TeacherStaysFree env) db.withoutSlots l) :
    TeacherFree (run (SlotCall.step env) db.withoutSlots l) := by
  have hstep : ∀ (d : SchoolDB) (c : SlotCall), TeacherStaysFree env d c →
      SlotSound d ∧ TeacherFree d → SlotSound (c.step env d) ∧ TeacherFree (c.step env d) := by
    rintro d c hstays ⟨hsound, hfree⟩
    refine ⟨slotSound_step hsound c, ?_⟩
    rcases slotStep_cases env d c with heq | ⟨heffect, _⟩
    · rwa [heq]
    · exact heffect.teacherFree hstays hsound hfree
  have hinit : SlotSound db.withoutSlots ∧ TeacherFree db.withoutSlots :=
    ⟨.empty rfl, Table.excludes_empty⟩
  exact (invariant hstep h hinit).2

instance (env : SchoolEnv) (db : SchoolDB) (c : SlotCall) : Decidable (TeacherStaysFree env db c) :=
  match c with
  | ⟨_, _, .create _ _⟩ => .isTrue trivial
  | ⟨_, _, .delete _⟩ => .isTrue trivial
  | ⟨ctx, _, .update slotId data⟩ =>
    match h : Slots.getOwned ctx db slotId with
    | .error _ => .isTrue fun _ hok => nomatch h.symm.trans hok
    | .ok slot => decidable_of_iff (slot.version = data.version → data.teacherId = none →
        data.status.getD slot.status = .active →
          checkTeacherConflict db env ctx slot.teacherId slot.periodDefinitionId slot.dayOfWeek
            slot.effectiveFrom (data.effectiveTo.or slot.effectiveTo) (some slot.id) ≠ .ok true)
      ⟨fun hs _ hok => Except.ok.inj (h.symm.trans hok) ▸ hs, fun hs => hs slot h⟩

/-- One teacher, two cohorts, one period: Mondays in a first and in a later span of days. -/
def bookInTurn : List SlotCall :=
  [⟨staff, ⟨0, 0⟩, .create ⟨51, 91, 81, 41, .monday, 738010, some 738020, none⟩ 201⟩,
    ⟨staff, ⟨0, 0⟩, .create ⟨52, 91, 81, 41, .monday, 738030, some 738040, none⟩ 202⟩]

/-- The first booking gets a new end. -/
def extendTo (d : Date) : SlotCall :=
  ⟨staff, ⟨0, 0⟩, .update 201 ⟨none, none, some d, none, none, 1, one_le_first⟩⟩

/-- A new end before the second booking. -/
theorem extendTo_notDoubleBooked : TeacherFree
    (run (SlotCall.step .plain) smallSchool.withoutSlots (bookInTurn ++ [extendTo 738025])) :=
  teacher_not_doubleBooked .plain smallSchool _ (by decide)

/-- A new end within the second booking. -/
theorem extendTo_doubleBooked : ¬ ∀ (env : SchoolEnv) (db : SchoolDB) (l : List SlotCall),
    TeacherFree (run (SlotCall.step env) db.withoutSlots l) := by
  intro h
  have hrun := h .plain smallSchool (bookInTurn ++ [extendTo 738035])
  exact absurd hrun (by decide)

end SchoolOs
