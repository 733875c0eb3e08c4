import SchoolOs.DoubleBookings

/-!
The conflict checks of the slots against the days that two slots share, and what a new slot is
refused for once both checks find nothing.
-/

namespace SchoolOs

open Runs

/-! ### The overlap test -/

/-- The check answers, with True exactly when a rival shares a day with the candidate. -/
def SlotQuery.AnsweredBy (entity : TimetableSlot → Ulid) (ctx : RequestContext) (db : SchoolDB)
    (q : SlotQuery) (r : Fallible Bool) : Prop :=
  ∃ b, r = .ok b ∧ (b = true ↔ ∃ s, q.Rival entity ctx db s ∧ ∃ d, s.span.Has d ∧ q.span.Has d)

/-- The candidate has an end date; and where the bounds of a rival cross its own, it does not end
before it starts, nor does one of these rivals. -/
def SlotQuery.Bounded (entity : TimetableSlot → Ulid) (ctx : RequestContext) (db : SchoolDB)
    (q : SlotQuery) : Prop :=
  q.effectiveTo ≠ none ∧ ((∃ s, q.Rival entity ctx db s ∧ s.span.Meets q.span) →
    q.span.Proper ∧ ∃ s, q.Rival entity ctx db s ∧ s.span.Meets q.span ∧ s.span.Proper)

variable {env : SchoolEnv} {ctx : RequestContext} {db : SchoolDB}

section Checks

variable {entity : TimetableSlot → Ulid}

/-- **When a check is exact**, where the query builder refuses to compare with `None`. -/
lemma check_answered_iff (hcompares : env.comparesNone = false) (q : SlotQuery) :
    q.AnsweredBy entity ctx db (q.check entity env ctx db) ↔ q.Bounded entity ctx db := by
  have hcommon : (∃ s, q.Rival entity ctx db s ∧ ∃ d, s.span.Has d ∧ q.span.Has d) ↔
      q.span.Proper ∧ ∃ s, q.Rival entity ctx db s ∧ s.span.Meets q.span ∧ s.span.Proper := by
    simp only [Span.common_iff]
    constructor
    · rintro ⟨s, hs, hproper, hq, hm⟩
      exact ⟨hq, s, hs, hm, hproper⟩
    · rintro ⟨hq, s, hs, hm, hproper⟩
      exact ⟨s, hs, hproper, hq, hm⟩
  simp only [SlotQuery.AnsweredBy, slotQuery_check, hcommon, hcompares, Bool.false_eq_true,
    imp_false]
  constructor
  · rintro ⟨b, ⟨hto, hmeets⟩, hb⟩
    exact ⟨hto, fun h => hb.mp (hmeets.mpr h)⟩
  · rintro ⟨hto, h⟩
    classical
    refine ⟨decide (∃ s, q.Rival entity ctx db s ∧ s.span.Meets q.span),
      ⟨hto, decide_eq_true_iff⟩, decide_eq_true_iff.trans ⟨h, ?_⟩⟩
    rintro ⟨_, s, hs, hm, _⟩
    exact ⟨s, hs, hm⟩

end Checks

/-- **When the conflict checks are exact**: with an end date for the candidate, and ranges that do
not end before they start. -/
theorem conflictChecks_exact_iff (env : SchoolEnv) (hcompares : env.comparesNone = false)
    (ctx : RequestContext) (db : SchoolDB) (q : SlotQuery) :
    (q.AnsweredBy TimetableSlot.teacherId ctx db (checkTeacherConflict db env ctx q.entityId
        q.periodDefinitionId q.dayOfWeek q.effectiveFrom q.effectiveTo q.excludeId) ↔
      q.Bounded TimetableSlot.teacherId ctx db) ∧
    (q.AnsweredBy TimetableSlot.cohortId ctx db (checkCohortConflict db env ctx q.entityId
        q.periodDefinitionId q.dayOfWeek q.effectiveFrom q.effectiveTo q.excludeId) ↔
      q.Bounded TimetableSlot.cohortId ctx db) :=
  ⟨check_answered_iff hcompares q, check_answered_iff hcompares q⟩

/-- A Monday of the teacher, from a day on. -/
def mondayFrom (effectiveTo : Option Date) : SlotQuery :=
  ⟨81, 91, .monday, 738010, effectiveTo, none⟩

/-- A Monday of the teacher, from a day within the candidate's on. -/
def laterMonday : TimetableSlot :=
  ⟨201, 11, 101, 21, none, 51, 91, 81, 41, .monday, 738015, some 738030, .active, none, none, none,
    1⟩

def bookedMonday : SchoolDB := { smallSchool with timetableSlots := .ofRows _ [laterMonday] }

theorem conflictChecks_exact_bounded :
    (mondayFrom (some 738020)).AnsweredBy TimetableSlot.teacherId staff bookedMonday
      (checkTeacherConflict bookedMonday .plain staff 81 91 .monday 738010 (some 738020) none) := by
  refine (conflictChecks_exact_iff .plain rfl staff bookedMonday (mondayFrom (some 738020))).1.mpr
    ⟨nofun, fun _ => ⟨by decide, laterMonday, ?_, by decide, by decide⟩⟩
  have hshown : laterMonday ∈ shown TimetableSlot.schoolId staff bookedMonday.timetableSlots.rows :=
    by decide
  exact ⟨hshown, rfl, rfl, rfl, rfl, nofun⟩

/-- The check finds it. -/
example : checkTeacherConflict bookedMonday .plain staff 81 91 .monday 738010 (some 738020) none =
    .ok true := by decide

/-- An open end is refused, on a table without slots. -/
theorem openEnd_unanswered : ¬ ∀ (env : SchoolEnv) (ctx : RequestContext) (db : SchoolDB)
    (q : SlotQuery), env.comparesNone = false →
      q.AnsweredBy TimetableSlot.teacherId ctx db (checkTeacherConflict db env ctx q.entityId
        q.periodDefinitionId q.dayOfWeek q.effectiveFrom q.effectiveTo q.excludeId) := by
  intro h
  obtain ⟨b, hb, _⟩ := h .plain staff smallSchool (mondayFrom none) rfl
  have herror : checkTeacherConflict smallSchool .plain staff 81 91 .monday 738010 none none =
      .error internalError := by decide
  exact absurd (herror.symm.trans hb) nofun

/-! ### Places -/

/-- The checks of a new slot: no conflict, and the period, the teacher and the subject of the
school. -/
structure SlotChecked (env : SchoolEnv) (ctx : RequestContext) (db : SchoolDB)
    (data : TimetableSlotCreate) (schoolId : Ulid) (period : PeriodDefinition) : Prop where
  school : ctx.schoolId = some schoolId
  teacherFree : checkTeacherConflict db env ctx data.teacherId data.periodDefinitionId
    data.dayOfWeek data.effectiveFrom data.effectiveTo none = .ok false
  cohortFree : checkCohortConflict db env ctx data.cohortId data.periodDefinitionId
    data.dayOfWeek data.effectiveFrom data.effectiveTo none = .ok false
  period : getPeriodById db schoolId data.periodDefinitionId = some period
  teacher : ((db.teachers.get data.teacherId).filter (·.schoolId = schoolId)).isSome
  subject : ((db.subjects.get data.subjectId).filter (·.schoolId = schoolId)).isSome

/-- The row of a new slot. -/
def newSlot (ctx : RequestContext) (data : TimetableSlotCreate) (id schoolId organizationId : Ulid)
    (period : PeriodDefinition) : TimetableSlot where
  id := id
  schoolId := schoolId
  organizationId := organizationId
  academicYearId := period.academicYearId
  timetableId := none
  cohortId := data.cohortId
  periodDefinitionId := data.periodDefinitionId
  teacherId := data.teacherId
  subjectId := data.subjectId
  dayOfWeek := data.dayOfWeek
  effectiveFrom := data.effectiveFrom
  effectiveTo := data.effectiveTo
  status := .active
  notes := data.notes
  createdById := ctx.userId
  updatedById := none
  version := 1

def slotCreated (slot : TimetableSlot) : AuditEntry where
  action := "TIMETABLE_SLOT_CREATED"
  entityType := "timetable_slot"
  entityId := some slot.id
  summary := some "Timetable slot created"
  after := some (slotSnapshot slot)

/-- The request commits, and the slot is there. -/
def CommitsSlot (env : SchoolEnv) (ctx : RequestContext) (db : SchoolDB)
    (data : TimetableSlotCreate) (id : Ulid) : Prop :=
  ∃ slot db', Slots.create env ctx db data id = .ok (slot, db') ∧ slot.id = id ∧
    slot ∈ db'.timetableSlots

/-- What the database asks of a row beside its place. -/
structure SlotStorable (env : SchoolEnv) (ctx : RequestContext) (db : SchoolDB)
    (slot : TimetableSlot) : Prop where
  fresh : ∀ s ∈ db.timetableSlots, s.id ≠ slot.id
  school : db.HasSchool slot.schoolId
  year : (db.academicYears.get slot.academicYearId).isSome
  cohort : (db.cohorts.get slot.cohortId).isSome
  notes : Slots.notesBindable slot.notes = true
  audit : env.Admits (auditRow ctx (slotCreated slot))

/-- The slots of a cohort, period and day that start on one date are ACTIVE, and neither they nor
the new one end before that date. -/
def PlaceKept (db : SchoolDB) (slot : TimetableSlot) : Prop :=
  ∀ s ∈ db.timetableSlots, Slots.SameStart s slot →
    s.status = .active ∧ s.span.Proper ∧ slot.span.Proper

instance (db : SchoolDB) (slot : TimetableSlot) : Decidable (PlaceKept db slot) :=
  inferInstanceAs (Decidable (∀ s ∈ db.timetableSlots, Slots.SameStart s slot →
    s.status = .active ∧ s.span.Proper ∧ slot.span.Proper))

section Places

variable {data : TimetableSlotCreate} {id schoolId : Ulid} {period : PeriodDefinition}

/-- **What is left of a request whose checks pass**: the constraints of the row, and the audit. -/
lemma commitsSlot_iff (h : SlotChecked env ctx db data schoolId period) :
    CommitsSlot env ctx db data id ↔ ∃ organizationId, ctx.organizationId = some organizationId ∧
      (∀ s ∈ db.timetableSlots,
        ¬ Slots.SameStart s (newSlot ctx data id schoolId organizationId period)) ∧
      SlotStorable env ctx db (newSlot ctx data id schoolId organizationId period) := by
  have hperiod := (Option.filter_eq_some_iff.mp h.period).1
  have hteacher : (db.teachers.get data.teacherId).isSome := by
    obtain ⟨t, ht⟩ := Option.isSome_iff_exists.mp h.teacher
    exact Option.isSome_iff_exists.mpr ⟨t, (Option.filter_eq_some_iff.mp ht).1⟩
  have hsubject : (db.subjects.get data.subjectId).isSome := by
    obtain ⟨t, ht⟩ := Option.isSome_iff_exists.mp h.subject
    exact Option.isSome_iff_exists.mpr ⟨t, (Option.filter_eq_some_iff.mp ht).1⟩
  constructor
  · rintro ⟨slot, db', hcreate, -, -⟩
    obtain ⟨schoolId', hctx, hcreate⟩ := bind_ok.mp hcreate
    obtain rfl : schoolId' = schoolId :=
      Option.some.inj ((found_ok.mp hctx).symm.trans h.school)
    obtain ⟨_, -, hcreate⟩ := bind_ok.mp hcreate
    obtain ⟨_, -, hcreate⟩ := bind_ok.mp hcreate
    obtain ⟨_, -, hcreate⟩ := bind_ok.mp hcreate
    obtain ⟨_, -, hcreate⟩ := bind_ok.mp hcreate
    obtain ⟨period', hperiod', hcreate⟩ := bind_ok.mp hcreate
    obtain rfl : period' = period := Option.some.inj ((found_ok.mp hperiod').symm.trans h.period)
    obtain ⟨_, -, hcreate⟩ := bind_ok.mp hcreate
    obtain ⟨_, -, hcreate⟩ := bind_ok.mp hcreate
    obtain ⟨organizationId, horganization, hcreate⟩ := bind_ok.mp hcreate
    obtain ⟨db1, hinsert, hcreate⟩ := bind_ok.mp hcreate
    obtain ⟨slots, hslots, hinsert⟩ := bind_ok.mp hinsert
    obtain ⟨_, hconstraints, -⟩ := bind_ok.mp hinsert
    obtain ⟨hplace, hschool, hyear, hcohort, -, -, -, hnotes⟩ := ensure_ok.mp hconstraints
    obtain ⟨db2, haudit, -⟩ := bind_ok.mp hcreate
    refine ⟨organizationId, found_ok.mp horganization, hplace, ?_⟩
    exact ⟨(Table.insert_eq_some.mp (found_ok.mp hslots)).1, hschool, hyear, hcohort, hnotes,
      (schoolAudit_ok.mp haudit).1⟩
  · rintro ⟨organizationId, horganization, hplace, hstorable⟩
    obtain ⟨slots, hslots⟩ := Table.insert_of_fresh hstorable.fresh
    have hmem := (Table.mem_of_insert hslots).mpr (.inr rfl)
    refine ⟨newSlot ctx data id schoolId organizationId period,
      SchoolDB.log { db with timetableSlots := slots } (auditRow ctx (slotCreated
        (newSlot ctx data id schoolId organizationId period))), ?_, rfl, hmem⟩
    refine bind_ok.mpr ⟨schoolId, found_ok.mpr h.school, ?_⟩
    refine bind_ok.mpr ⟨false, h.teacherFree, bind_ok.mpr ⟨(), ensure_ok.mpr rfl, ?_⟩⟩
    refine bind_ok.mpr ⟨false, h.cohortFree, bind_ok.mpr ⟨(), ensure_ok.mpr rfl, ?_⟩⟩
    refine bind_ok.mpr ⟨period, found_ok.mpr h.period, ?_⟩
    refine bind_ok.mpr ⟨(), ensure_ok.mpr h.teacher, bind_ok.mpr ⟨(), ensure_ok.mpr h.subject, ?_⟩⟩
    refine bind_ok.mpr ⟨organizationId, found_ok.mpr horganization, ?_⟩
    refine bind_ok.mpr ⟨{ db with timetableSlots := slots }, ?_, ?_⟩
    · refine bind_ok.mpr ⟨slots, found_ok.mpr hslots, bind_ok.mpr ⟨(), ensure_ok.mpr ?_, rfl⟩⟩
      exact ⟨hplace, hstorable.school, hstorable.year, hstorable.cohort,
        Option.isSome_iff_exists.mpr ⟨period, hperiod⟩, hteacher, hsubject, hstorable.notes⟩
    · exact bind_ok.mpr ⟨_, schoolAudit_ok.mpr ⟨hstorable.audit, rfl⟩, rfl⟩

/-- **The two rules compared**: with the cohort check passed, what the unique constraint refuses
is exactly what the check overlooks. -/
lemma place_iff {organizationId : Ulid} (hs : SlotSound db)
    (h : SlotChecked env ctx db data schoolId period) :
    (∀ s ∈ db.timetableSlots,
        ¬ Slots.SameStart s (newSlot ctx data id schoolId organizationId period)) ↔
      PlaceKept db (newSlot ctx data id schoolId organizationId period) := by
  constructor
  · exact fun hnone s hmem hsame => absurd hsame (hnone s hmem)
  · intro hkept s hmem hsame
    obtain ⟨hactive, hproper, hnew⟩ := hkept s hmem hsame
    obtain ⟨hcohort, hperiod, hday, hstart⟩ := hsame
    have hschool : s.schoolId = (newSlot ctx data id schoolId organizationId period).schoolId :=
      hs.sameSchool hmem (periodById_ok h.period) hperiod
    obtain ⟨_, hnone⟩ := (checkSlotConflict_ok env db TimetableSlot.cohortId
      (newSlot ctx data id schoolId organizationId period) none false h.school rfl).mp h.cohortFree
    refine Bool.false_ne_true (hnone.mpr ⟨s, hmem, hschool, (Option.some_ne_none s.id).symm, ?_⟩)
    exact ⟨hactive, rfl, hcohort, hperiod, hday,
      (Span.meets_of_start_eq hstart).mpr ⟨hproper, hnew⟩⟩

end Places

lemma slotSound_run (env : SchoolEnv) (db : SchoolDB) (l : List SlotCall) :
    SlotSound (run (SlotCall.step env) db.withoutSlots l) := by
  have hstep : ∀ (d : SchoolDB) (c : SlotCall), SlotSound d → SlotSound (c.step env d) :=
    fun d c h => slotSound_step h c
  have hinit : SlotSound db.withoutSlots := .empty rfl
  exact invariant_all hstep hinit l

/-- **When a slot that passes its checks commits**, after any slot requests: when the slots that
hold its place are ACTIVE and span at least a day, as it does, and the row can be stored. -/
theorem slotCreate_commits_iff (env : SchoolEnv) (db : SchoolDB) (l : List SlotCall)
    (ctx : RequestContext) (data : TimetableSlotCreate) (id schoolId : Ulid)
    (period : PeriodDefinition) (h : SlotChecked env ctx
      (run (SlotCall.step env) db.withoutSlots l) data schoolId period) :
    CommitsSlot env ctx (run (SlotCall.step env) db.withoutSlots l) data id ↔
      ∃ organizationId, ctx.organizationId = some organizationId ∧
        PlaceKept (run (SlotCall.step env) db.withoutSlots l)
          (newSlot ctx data id schoolId organizationId period) ∧
        SlotStorable env ctx (run (SlotCall.step env) db.withoutSlots l)
          (newSlot ctx data id schoolId organizationId period) := by
  simp only [commitsSlot_iff h, place_iff (slotSound_run env db l) h]

/-- Mondays of cohort 51, up to a day. -/
def mondays (effectiveFrom : Date) : TimetableSlotCreate :=
  ⟨51, 91, 81, 41, .monday, effectiveFrom, some 738020, none⟩

/-- The Mondays are booked from a day on, and cancelled. -/
def bookAndCancel : List SlotCall :=
  [⟨staff, ⟨0, 0⟩, .create (mondays 738010) 201⟩, ⟨staff, ⟨0, 0⟩, .delete 201⟩]

lemma mondays_checked (effectiveFrom : Date) (h : effectiveFrom = 738010 ∨ effectiveFrom = 738011) :
    SlotChecked .plain staff (run (SlotCall.step .plain) smallSchool.withoutSlots bookAndCancel)
      (mondays effectiveFrom) 11 (smallSchool.periodDefinitions.rows.head (by decide)) := by
  rcases h with rfl | rfl
  · exact ⟨rfl, by decide, by decide, by decide, by decide, by decide⟩
  · exact ⟨rfl, by decide, by decide, by decide, by decide, by decide⟩

theorem bookAndCancel_nextDay : CommitsSlot .plain staff
    (run (SlotCall.step .plain) smallSchool.withoutSlots bookAndCancel) (mondays 738011) 202 := by
  refine (slotCreate_commits_iff .plain smallSchool bookAndCancel staff (mondays 738011) 202 11 _
    (mondays_checked _ (.inr rfl))).mpr ⟨101, rfl, by decide, ?_⟩
  exact ⟨by decide, by decide, by decide, by decide, by decide, by decide⟩

/-- The same Mondays again: the cancelled slot still holds its start date. -/
theorem bookAndCancel_again : ¬ ∀ (env : SchoolEnv) (db : SchoolDB) (l : List SlotCall)
    (ctx : RequestContext) (data : TimetableSlotCreate) (id schoolId : Ulid)
    (period : PeriodDefinition), SlotChecked env ctx
      (run (SlotCall.step env) db.withoutSlots l) data schoolId period →
        CommitsSlot env ctx (run (SlotCall.step env) db.withoutSlots l) data id := by
  intro h
  obtain ⟨slot, db', hcreate, _⟩ := h .plain smallSchool bookAndCancel staff (mondays 738010) 202 11
    _ (mondays_checked _ (.inl rfl))
  have herror : (Slots.create .plain staff (run (SlotCall.step .plain) smallSchool.withoutSlots
      bookAndCancel) (mondays 738010) 202).map (fun _ => ()) = .error internalError := by
    decide +kernel
  rw [hcreate] at herror
  exact absurd herror nofun

end SchoolOs
