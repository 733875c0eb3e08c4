import SchoolOs.Grouping
import SchoolOs.SchoolModels

/-!
Timetable business logic: headers, period definitions, slots.
-/

namespace SchoolOs

/-! ### Payloads -/

structure TimetableCreate where
  academicYearId : Ulid
  name : String
  name_length : name.length ≤ 200

structure TimetableUpdate where
  name : Option String
  version : ℕ
  name_length : ∀ n ∈ name, n.length ≤ 200

structure PeriodDefinitionCreate where
  academicYearId : Ulid
  name : String
  periodType : PeriodType
  startTime : Time
  endTime : Time
  sortOrder : ℤ
  name_length : name.length ≤ 50

structure TimetableSlotCreate where
  cohortId : Ulid
  periodDefinitionId : Ulid
  teacherId : Ulid
  subjectId : Ulid
  dayOfWeek : DayOfWeek
  effectiveFrom : Date
  effectiveTo : Option Date
  notes : Option String

structure TimetableSlotUpdate where
  teacherId : Option Ulid
  subjectId : Option Ulid
  effectiveTo : Option Date
  status : Option TimetableSlotStatus
  notes : Option String
  version : ℕ
  one_le_version : 1 ≤ version

/-- One conflict of a timetable, as the publish request reports it. -/
structure ConflictItem where
  conflictType : String
  dayOfWeek : String
  period : String
  entityName : String
  details : String
  deriving DecidableEq

structure PublishResult where
  success : Bool
  conflicts : List ConflictItem
  deriving DecidableEq

/-! ### Snapshots -/

/-- The day of a timestamp, in UTC. -/
def Instant.utcDate (t : Instant) : Date := 719163 + t / 86400000000

/-- `str(datetime)`, in UTC. -/
def Instant.iso (t : Instant) : String :=
  Date.iso (Instant.utcDate t) ++ " " ++ Time.iso (t % 86400000000) ++ "+00:00"

def timetableSnapshot (tt : Timetable) : Snapshot :=
  [("name", .text tt.name), ("status", .text tt.status.value),
    ("published_at", .opt (fun t => .text (Instant.iso t)) tt.publishedAt),
    ("archived_at", .opt (fun t => .text (Instant.iso t)) tt.archivedAt)]

def periodSnapshot (period : PeriodDefinition) : Snapshot :=
  [("name", .text period.name), ("period_type", .text period.periodType.value),
    ("sort_order", .num period.sortOrder), ("start_time", .text (Time.iso period.startTime)),
    ("end_time", .text (Time.iso period.endTime))]

def slotSnapshot (slot : TimetableSlot) : Snapshot :=
  [("teacher_id", .id slot.teacherId), ("subject_id", .id slot.subjectId),
    ("day_of_week", .text slot.dayOfWeek.value),
    ("effective_from", dateText (some slot.effectiveFrom)),
    ("effective_to", dateText slot.effectiveTo), ("status", .text slot.status.value)]

/-! ### Rows -/

def Timetable.touch (tt : Timetable) : Timetable := { tt with version := tt.version + 1 }
def TimetableSlot.touch (s : TimetableSlot) : TimetableSlot := { s with version := s.version + 1 }

/-- The dates a slot is effective on. -/
def TimetableSlot.span (slot : TimetableSlot) : Span Date := ⟨slot.effectiveFrom, slot.effectiveTo⟩

/-! ### Data access -/

section Repository

variable (db : SchoolDB)

def getTimetable (timetableId schoolId : Ulid) : Option Timetable :=
  (db.timetables.get timetableId).filter (·.schoolId = schoolId)

/-- The published timetable of a school and year, other than one. -/
def getPublishedTimetableForYear (schoolId academicYearId excludeId : Ulid) : Option Timetable :=
  db.timetables.rows.find? fun tt => tt.schoolId = schoolId ∧
    tt.academicYearId = academicYearId ∧ tt.status = .published ∧ tt.id ≠ excludeId

def getPeriodById (schoolId periodId : Ulid) : Option PeriodDefinition :=
  (db.periodDefinitions.get periodId).filter (·.schoolId = schoolId)

def getPeriodByName (schoolId academicYearId : Ulid) (name : String) : Option PeriodDefinition :=
  db.periodDefinitions.rows.find? fun p =>
    p.schoolId = schoolId ∧ p.academicYearId = academicYearId ∧ p.name = name

def getSlotById (schoolId slotId : Ulid) : Option TimetableSlot :=
  (db.timetableSlots.get slotId).filter (·.schoolId = schoolId)

/-- The date conditions of the conflict queries. -/
def overlapping (slot : TimetableSlot) (effectiveFrom : Date) (effectiveTo : Option Date) : Bool :=
  (effectiveTo = none ∨ ∃ e ∈ effectiveTo, slot.effectiveFrom ≤ e) ∧
    (slot.effectiveTo = none ∨ ∃ e ∈ slot.effectiveTo, effectiveFrom ≤ e)

/-- Whether an entity has an ACTIVE slot in a period and day, on overlapping dates. The query
compares the start of the slots with the end of the dates, also when there is none. -/
def checkSlotConflict (entity : TimetableSlot → Ulid) (env : SchoolEnv) (ctx : RequestContext)
    (entityId periodDefinitionId : Ulid) (dayOfWeek : DayOfWeek) (effectiveFrom : Date)
    (effectiveTo : Option Date) (excludeId : Option Ulid) : Fallible Bool := do
  ensure (effectiveTo = none → env.comparesNone = true) internalError
  return (shown TimetableSlot.schoolId ctx db.timetableSlots.rows).any fun s =>
    entity s = entityId ∧ s.periodDefinitionId = periodDefinitionId ∧ s.dayOfWeek = dayOfWeek ∧
      s.status = .active ∧ overlapping s effectiveFrom effectiveTo = true ∧ excludeId ≠ some s.id

def checkTeacherConflict := checkSlotConflict db TimetableSlot.teacherId

def checkCohortConflict := checkSlotConflict db TimetableSlot.cohortId

end Repository

/-! ### Conflicts of a timetable -/

section Conflicts

variable (env : SchoolEnv) (db : SchoolDB)

/-- What slots are grouped by: an entity, a day, a period. -/
abbrev SlotKey := Ulid × DayOfWeek × Ulid

def slotKey (entity : TimetableSlot → Ulid) (slot : TimetableSlot) : SlotKey :=
  (entity slot, slot.dayOfWeek, slot.periodDefinitionId)

/-- The period's name, or its id. -/
def periodName (slot : TimetableSlot) : String :=
  match db.periodDefinitions.get slot.periodDefinitionId with
  | some p => p.name
  | none => slot.periodDefinitionId.text

/-- The cohort's name, or its id. -/
def cohortName (slot : TimetableSlot) : String :=
  match db.cohorts.get slot.cohortId with
  | some c => c.name
  | none => slot.cohortId.text

/-- The name of the teacher's person. -/
def teacherName (slot : TimetableSlot) : String :=
  match (db.teachers.get slot.teacherId).bind fun t => db.persons.get t.personId with
  | some p => env.strip (p.firstName ++ " " ++ p.lastName.getD "")
  | none => ""

def teacherConflict (group : List TimetableSlot) (slot : TimetableSlot) : ConflictItem where
  conflictType := "TEACHER"
  dayOfWeek := slot.dayOfWeek.value
  period := periodName db slot
  entityName := teacherName env db slot
  details := "Teacher " ++ teacherName env db slot ++ " is assigned to multiple sections (" ++
    ", ".intercalate (group.map (cohortName db)) ++ ") at " ++ periodName db slot ++ " on " ++
    slot.dayOfWeek.value ++ "."

def cohortConflict (slot : TimetableSlot) : ConflictItem where
  conflictType := "COHORT"
  dayOfWeek := slot.dayOfWeek.value
  period := periodName db slot
  entityName := cohortName db slot
  details := "Section " ++ cohortName db slot ++ " has multiple slots at " ++ periodName db slot ++
    " on " ++ slot.dayOfWeek.value ++ "."

/-- The loop over the groups: those with more than one slot. -/
def crowded (entity : TimetableSlot → Ulid) (slots : List TimetableSlot) :
    List (SlotKey × List TimetableSlot) :=
  (Grouping.groups (slotKey entity) slots).filter (1 < ·.2.length)

/-- The conflicts of the slots, in the order in which the query returns them. -/
def conflictsOf (slots : List TimetableSlot) : List ConflictItem :=
  (crowded TimetableSlot.teacherId slots).flatMap (fun g =>
      (g.2.head?.map (teacherConflict env db g.2)).toList) ++
    (crowded TimetableSlot.cohortId slots).flatMap (fun g =>
      (g.2.head?.map (cohortConflict db)).toList)

/-- The ACTIVE slots of a timetable. -/
def slotsOf (timetableId schoolId : Ulid) : List TimetableSlot :=
  db.timetableSlots.rows.filter fun s =>
    s.timetableId = some timetableId ∧ s.schoolId = schoolId ∧ s.status = .active

def findConflicts (timetableId schoolId : Ulid) : List ConflictItem :=
  conflictsOf env db (slotsOf db timetableId schoolId)

end Conflicts

/-! ### Services -/

section Service

variable (env : SchoolEnv) (clk : Clock) (ctx : RequestContext) (db : SchoolDB)

def noSchool : ApiError := invalidRequestError "No school context is set for this request."
def timetableNotFound : ApiError :=
  notFoundError "The timetable was not found." "TIMETABLE_NOT_FOUND"
def periodNotFound : ApiError :=
  notFoundError "The period definition was not found." "PERIOD_NOT_FOUND"
def slotNotFound : ApiError :=
  notFoundError "The timetable slot was not found." "SLOT_NOT_FOUND"

namespace Timetables

/-- The insert, with its foreign keys. -/
def insertRow (tt : Timetable) : Fallible SchoolDB := do
  let timetables ← found (db.timetables.insert tt) internalError
  ensure (db.HasSchool tt.schoolId ∧ (db.academicYears.get tt.academicYearId).isSome ∧
    bindable tt.name = true) internalError
  return { db with timetables := timetables }

/-- The flush of a changed row. -/
def save (old new : Timetable) : Fallible SchoolDB := do
  ensure (bindable new.name = true) internalError
  return { db with timetables := db.timetables.put (flushed Timetable.touch old new) }

def create (data : TimetableCreate) (id : Ulid) : Fallible (Timetable × SchoolDB) := do
  let schoolId ← found ctx.schoolId noSchool
  let organizationId ← found ctx.organizationId internalError
  let tt : Timetable :=
    { id := id, schoolId := schoolId, organizationId := organizationId,
      academicYearId := data.academicYearId, name := data.name, status := .draft,
      publishedAt := none, archivedAt := none, createdById := ctx.userId, updatedById := none,
      version := 1 }
  let db ← insertRow db tt
  let db ← db.audit env ctx
    { action := "TIMETABLE_CREATED", entityType := "timetable", entityId := some tt.id,
      summary := some ("Timetable " ++ env.repr tt.name ++ " created"),
      after := some (timetableSnapshot tt) }
  return (tt, db)

def getOwned (timetableId : Ulid) : Fallible Timetable := do
  let schoolId ← found ctx.schoolId timetableNotFound
  found (getTimetable db timetableId schoolId) timetableNotFound

def changedEntry (action verb : String) (old new : Timetable) : AuditEntry :=
  { action := action, entityType := "timetable", entityId := some old.id,
    summary := some ("Timetable " ++ env.repr new.name ++ " " ++ verb),
    before := some (timetableSnapshot old), after := some (timetableSnapshot new) }

def update (timetableId : Ulid) (data : TimetableUpdate) : Fallible (Timetable × SchoolDB) := do
  let tt ← getOwned ctx db timetableId
  ensure (tt.status = .draft) (invalidRequestErrorWith "Only DRAFT timetables can be updated."
    "TIMETABLE_NOT_DRAFT" [])
  ensure (tt.version = data.version) staleResourceError
  let new := { tt with name := data.name.getD tt.name, updatedById := ctx.userId }
  let db ← save db tt new
  let db ← db.audit env ctx (changedEntry env "TIMETABLE_UPDATED" "updated" tt new)
  return (flushed Timetable.touch tt new, db)

/-- A row that leaves publication or the drafts. -/
def archived (tt : Timetable) : Timetable :=
  { tt with status := .archived, archivedAt := some clk.now, updatedById := ctx.userId }

def archive (timetableId : Ulid) (version : ℕ) : Fallible (Timetable × SchoolDB) := do
  let tt ← getOwned ctx db timetableId
  ensure (tt.status ≠ .archived) (invalidRequestErrorWith "This timetable is already archived."
    "TIMETABLE_ALREADY_ARCHIVED" [])
  ensure (tt.version = version) staleResourceError
  let new := archived clk ctx tt
  let db ← save db tt new
  let db ← db.audit env ctx (changedEntry env "TIMETABLE_ARCHIVED" "archived" tt new)
  return (flushed Timetable.touch tt new, db)

/-- The entry of a timetable that gives way to the published one. -/
def replacedEntry (tt old new : Timetable) : AuditEntry :=
  { action := "TIMETABLE_ARCHIVED", entityType := "timetable", entityId := some old.id,
    summary := some ("Timetable " ++ env.repr old.name ++ " auto-archived (replaced by " ++
      env.repr tt.name ++ ")"),
    before := some (timetableSnapshot old), after := some (timetableSnapshot new) }

/-- Archive the timetable published so far, if there is one. Its audit row is written by the next
flush. -/
def replacePublished (tt : Timetable) (existing : Option Timetable) : Fallible SchoolDB :=
  match existing with
  | none => return db
  | some old => do
    let new := archived clk ctx old
    let db ← save db old new
    db.audit env ctx (replacedEntry env tt old new)

/-- The row of a published timetable. -/
def published (tt : Timetable) : Timetable :=
  { tt with
    status := .published
    publishedAt := some clk.now
    updatedById := ctx.userId }

/-- The service function. It returns before the audit row of the publication is written. -/
def publishTimetable (timetableId : Ulid) (version : ℕ) :
    Fallible (Returned SchoolDB PublishResult) := do
  let tt ← getOwned ctx db timetableId
  ensure (tt.status = .draft) (invalidRequestErrorWith "Only DRAFT timetables can be published."
    "TIMETABLE_NOT_DRAFT" [])
  ensure (tt.version = version) staleResourceError
  let conflicts := findConflicts env db timetableId tt.schoolId
  if conflicts ≠ [] then
    return ⟨⟨false, conflicts⟩, db, none⟩
  else
    let existing := getPublishedTimetableForYear db tt.schoolId tt.academicYearId tt.id
    let db ← replacePublished env clk ctx db tt existing
    let new := published clk ctx tt
    let db ← save db tt new
    return ⟨⟨true, []⟩, db, some (changedEntry env "TIMETABLE_PUBLISHED" "published" tt new)⟩

/-- The request: the service function, and the commit. -/
def publish (timetableId : Ulid) (version : ℕ) : Fallible (PublishResult × SchoolDB) := do
  let returned ← publishTimetable env clk ctx db timetableId version
  returned.commit (·.audit env ctx)

/-- The request, as one chain of steps. -/
lemma publish_eq (timetableId : Ulid) (version : ℕ) :
    publish env clk ctx db timetableId version = (do
      let tt ← getOwned ctx db timetableId
      ensure (tt.status = .draft) (invalidRequestErrorWith
        "Only DRAFT timetables can be published." "TIMETABLE_NOT_DRAFT" [])
      ensure (tt.version = version) staleResourceError
      if findConflicts env db timetableId tt.schoolId ≠ [] then
        return (⟨false, findConflicts env db timetableId tt.schoolId⟩, db)
      else
        let db ← replacePublished env clk ctx db tt
          (getPublishedTimetableForYear db tt.schoolId tt.academicYearId tt.id)
        let db ← save db tt (published clk ctx tt)
        let db ← db.audit env ctx
          (changedEntry env "TIMETABLE_PUBLISHED" "published" tt (published clk ctx tt))
        return (⟨true, []⟩, db)) := by
  simp only [publish, publishTimetable, bind_assoc]
  refine bind_congr fun tt => bind_congr fun _ => bind_congr fun _ => ?_
  split
  · rfl
  · simp only [bind_assoc, pure_bind]
    rfl

end Timetables

namespace Periods

/-- The unique constraint of `period_definitions`. -/
def SameName (p q : PeriodDefinition) : Prop :=
  p.schoolId = q.schoolId ∧ p.academicYearId = q.academicYearId ∧ p.name = q.name

instance : DecidableRel SameName := fun p q =>
  inferInstanceAs (Decidable (p.schoolId = q.schoolId ∧ p.academicYearId = q.academicYearId ∧
    p.name = q.name))

/-- The insert, with its constraints. -/
def insertRow (p : PeriodDefinition) : Fallible SchoolDB := do
  let periods ← found (db.periodDefinitions.insert p) internalError
  ensure ((∀ q ∈ db.periodDefinitions, ¬ SameName q p) ∧ db.HasSchool p.schoolId ∧
    (db.academicYears.get p.academicYearId).isSome ∧ bindable p.name = true ∧
    int4 p.sortOrder = true) internalError
  return { db with periodDefinitions := periods }

def create (data : PeriodDefinitionCreate) (id : Ulid) :
    Fallible (PeriodDefinition × SchoolDB) := do
  let schoolId ← found ctx.schoolId noSchool
  ensureAbsent (getPeriodByName db schoolId data.academicYearId data.name) fun _ =>
    conflictError ("A period definition named " ++ env.repr data.name ++
      " already exists for this academic year.") "PERIOD_NAME_TAKEN" [("name", .text data.name)]
  let organizationId ← found ctx.organizationId internalError
  let period : PeriodDefinition :=
    { id := id, schoolId := schoolId, organizationId := organizationId,
      academicYearId := data.academicYearId, name := data.name, periodType := data.periodType,
      startTime := data.startTime, endTime := data.endTime, sortOrder := data.sortOrder,
      createdById := ctx.userId }
  let db ← insertRow db period
  let db ← db.audit env ctx
    { action := "PERIOD_DEFINITION_CREATED", entityType := "period_definition",
      entityId := some period.id,
      summary := some ("Period definition " ++ env.repr period.name ++ " created"),
      after := some (periodSnapshot period) }
  return (period, db)

def getOwned (periodId : Ulid) : Fallible PeriodDefinition := do
  let schoolId ← found ctx.schoolId periodNotFound
  found (getPeriodById db schoolId periodId) periodNotFound

/-- Slots keep a period from being deleted: those that the request sees by a check, others by the
foreign key. -/
def delete (period : PeriodDefinition) : Fallible SchoolDB := do
  ensure (∀ s ∈ shown TimetableSlot.schoolId ctx db.timetableSlots.rows,
      s.periodDefinitionId ≠ period.id)
    (conflictError "Cannot delete a period definition that has timetable slots referencing it."
      "PERIOD_HAS_SLOTS" [("period_definition_id", .id period.id)])
  ensure (∀ s ∈ db.timetableSlots, s.periodDefinitionId ≠ period.id) internalError
  let db := { db with periodDefinitions := db.periodDefinitions.delete period.id }
  db.audit env ctx
    { action := "PERIOD_DEFINITION_DELETED", entityType := "period_definition",
      entityId := some period.id,
      summary := some ("Period definition " ++ env.repr period.name ++ " deleted"),
      before := some (periodSnapshot period) }

end Periods

namespace Slots

def teacherConflictMessage : String :=
  "This teacher already has an active slot at this period and day."
def cohortConflictMessage : String :=
  "This cohort already has an active slot at this period and day."

/-- What the conflict errors of a new slot tell. -/
def createDetails (entity : String) (entityId : Ulid) (data : TimetableSlotCreate) :
    List (String × Value) :=
  [(entity, .id entityId), ("period_definition_id", .id data.periodDefinitionId),
    ("day_of_week", .text data.dayOfWeek.value)]

/-- The unique constraint of `timetable_slots`. -/
def SameStart (a b : TimetableSlot) : Prop :=
  a.cohortId = b.cohortId ∧ a.periodDefinitionId = b.periodDefinitionId ∧
    a.dayOfWeek = b.dayOfWeek ∧ a.effectiveFrom = b.effectiveFrom

instance : DecidableRel SameStart := fun a b =>
  inferInstanceAs (Decidable (a.cohortId = b.cohortId ∧
    a.periodDefinitionId = b.periodDefinitionId ∧ a.dayOfWeek = b.dayOfWeek ∧
    a.effectiveFrom = b.effectiveFrom))

/-- The text of a nullable column can be bound. -/
def notesBindable (notes : Option String) : Bool := ∀ n ∈ notes, bindable n = true

/-- The insert, with its constraints. -/
def insertRow (slot : TimetableSlot) : Fallible SchoolDB := do
  let slots ← found (db.timetableSlots.insert slot) internalError
  ensure ((∀ s ∈ db.timetableSlots, ¬ SameStart s slot) ∧ db.HasSchool slot.schoolId ∧
    (db.academicYears.get slot.academicYearId).isSome ∧ (db.cohorts.get slot.cohortId).isSome ∧
    (db.periodDefinitions.get slot.periodDefinitionId).isSome ∧
    (db.teachers.get slot.teacherId).isSome ∧ (db.subjects.get slot.subjectId).isSome ∧
    notesBindable slot.notes = true) internalError
  return { db with timetableSlots := slots }

/-- The flush of a changed row, with the foreign keys that may have changed. -/
def save (old new : TimetableSlot) : Fallible SchoolDB := do
  ensure ((db.teachers.get new.teacherId).isSome ∧ (db.subjects.get new.subjectId).isSome ∧
    notesBindable new.notes = true) internalError
  return { db with timetableSlots := db.timetableSlots.put (flushed TimetableSlot.touch old new) }

def create (data : TimetableSlotCreate) (id : Ulid) : Fallible (TimetableSlot × SchoolDB) := do
  let schoolId ← found ctx.schoolId noSchool
  let teacherTaken ← checkTeacherConflict db env ctx data.teacherId data.periodDefinitionId
    data.dayOfWeek data.effectiveFrom data.effectiveTo none
  ensure (teacherTaken = false) (conflictError teacherConflictMessage "TEACHER_CONFLICT"
    (createDetails "teacher_id" data.teacherId data))
  let cohortTaken ← checkCohortConflict db env ctx data.cohortId data.periodDefinitionId
    data.dayOfWeek data.effectiveFrom data.effectiveTo none
  ensure (cohortTaken = false) (conflictError cohortConflictMessage "COHORT_CONFLICT"
    (createDetails "cohort_id" data.cohortId data))
  let period ← found (getPeriodById db schoolId data.periodDefinitionId) periodNotFound
  ensure (((db.teachers.get data.teacherId).filter (·.schoolId = schoolId)).isSome)
    (invalidRequestErrorWith "The teacher does not belong to this school."
      "TEACHER_SCHOOL_MISMATCH" [])
  ensure (((db.subjects.get data.subjectId).filter (·.schoolId = schoolId)).isSome)
    (invalidRequestErrorWith "The subject does not belong to this school."
      "SUBJECT_SCHOOL_MISMATCH" [])
  let organizationId ← found ctx.organizationId internalError
  let slot : TimetableSlot :=
    { id := id, schoolId := schoolId, organizationId := organizationId,
      academicYearId := period.academicYearId, timetableId := none, cohortId := data.cohortId,
      periodDefinitionId := data.periodDefinitionId, teacherId := data.teacherId,
      subjectId := data.subjectId, dayOfWeek := data.dayOfWeek,
      effectiveFrom := data.effectiveFrom, effectiveTo := data.effectiveTo, status := .active,
      notes := data.notes, createdById := ctx.userId, updatedById := none, version := 1 }
  let db ← insertRow db slot
  let db ← db.audit env ctx
    { action := "TIMETABLE_SLOT_CREATED", entityType := "timetable_slot",
      entityId := some slot.id, summary := some "Timetable slot created",
      after := some (slotSnapshot slot) }
  return (slot, db)

def getOwned (slotId : Ulid) : Fallible TimetableSlot := do
  let schoolId ← found ctx.schoolId slotNotFound
  found (getSlotById db schoolId slotId) slotNotFound

/-- The row with the fields of the payload that are given. -/
def applied (slot : TimetableSlot) (data : TimetableSlotUpdate) : TimetableSlot :=
  { slot with
    teacherId := data.teacherId.getD slot.teacherId
    subjectId := data.subjectId.getD slot.subjectId
    effectiveTo := data.effectiveTo.or slot.effectiveTo
    status := data.status.getD slot.status
    notes := data.notes.or slot.notes
    updatedById := ctx.userId }

/-- The teacher is checked when the payload names one. -/
def teacherTaken (slot : TimetableSlot) (data : TimetableSlotUpdate) : Fallible Bool :=
  match data.teacherId with
  | none => return false
  | some teacherId => checkTeacherConflict db env ctx teacherId slot.periodDefinitionId
      slot.dayOfWeek slot.effectiveFrom (data.effectiveTo.or slot.effectiveTo) (some slot.id)

def update (slot : TimetableSlot) (data : TimetableSlotUpdate) :
    Fallible (TimetableSlot × SchoolDB) := do
  ensure (slot.version = data.version) staleResourceError
  let taken ← teacherTaken env ctx db slot data
  ensure (taken = false) (conflictError teacherConflictMessage "TEACHER_CONFLICT"
    [("teacher_id", .id (data.teacherId.getD slot.teacherId))])
  let cohortTaken ← checkCohortConflict db env ctx slot.cohortId slot.periodDefinitionId
    slot.dayOfWeek slot.effectiveFrom (data.effectiveTo.or slot.effectiveTo) (some slot.id)
  ensure (cohortTaken = false) (conflictError cohortConflictMessage "COHORT_CONFLICT"
    [("cohort_id", .id slot.cohortId)])
  let new := applied ctx slot data
  let db ← save db slot new
  let db ← db.audit env ctx
    { action := "TIMETABLE_SLOT_UPDATED", entityType := "timetable_slot",
      entityId := some slot.id, summary := some "Timetable slot updated",
      before := some (slotSnapshot slot), after := some (slotSnapshot new) }
  return (flushed TimetableSlot.touch slot new, db)

/-- Soft-cancel: the row stays, CANCELLED and ending today. -/
def cancelled (slot : TimetableSlot) : TimetableSlot :=
  { slot with
    status := .cancelled
    effectiveTo := some (Instant.utcDate clk.now)
    updatedById := ctx.userId }

def delete (slot : TimetableSlot) : Fallible (TimetableSlot × SchoolDB) := do
  let new := cancelled clk ctx slot
  let db ← save db slot new
  let db ← db.audit env ctx
    { action := "TIMETABLE_SLOT_CANCELLED", entityType := "timetable_slot",
      entityId := some slot.id, summary := some "Timetable slot cancelled",
      before := some (slotSnapshot slot), after := some (slotSnapshot new) }
  return (flushed TimetableSlot.touch slot new, db)

end Slots

end Service

end SchoolOs
