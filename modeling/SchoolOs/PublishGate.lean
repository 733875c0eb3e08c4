import SchoolOs.ConflictReports
import SchoolOs.DoubleBookings
import SchoolOs.Yields

/-!
The publish gate over runs of the slot and timetable requests. It judges the slots that belong to
the timetable, and no request makes a slot belong to one; and with the schema as migrated no
timetable request commits.
-/

namespace SchoolOs

open Runs

/-! ### Requests -/

inductive TimetableOp
  | create (data : TimetableCreate) (id : Ulid)
  | update (timetableId : Ulid) (data : TimetableUpdate)
  | publish (timetableId : Ulid) (version : ℕ)
  | archive (timetableId : Ulid) (version : ℕ)

/-- A request on timetables, with its context and the clock. -/
structure TimetableCall where
  ctx : RequestContext
  clk : Clock
  op : TimetableOp

def TimetableCall.handle (env : SchoolEnv) (db : SchoolDB) (c : TimetableCall) :
    Fallible SchoolDB :=
  match c.op with
  | .create data id => Prod.snd <$> Timetables.create env c.ctx db data id
  | .update timetableId data => Prod.snd <$> Timetables.update env c.ctx db timetableId data
  | .publish timetableId version =>
    Prod.snd <$> Timetables.publish env c.clk c.ctx db timetableId version
  | .archive timetableId version =>
    Prod.snd <$> Timetables.archive env c.clk c.ctx db timetableId version

/-- A failed request leaves no trace. -/
def TimetableCall.step (env : SchoolEnv) (db : SchoolDB) (c : TimetableCall) : SchoolDB :=
  match c.handle env db with
  | .ok db' => db'
  | .error _ => db

/-- A request on slots or on timetables. -/
inductive ScheduleCall
  | slot (c : SlotCall)
  | timetable (c : TimetableCall)

def ScheduleCall.step (env : SchoolEnv) (db : SchoolDB) : ScheduleCall → SchoolDB
  | .slot c => c.step env db
  | .timetable c => c.step env db

variable {env : SchoolEnv} {ctx : RequestContext} {clk : Clock} {db db' : SchoolDB}
  {timetableId : Ulid} {version : ℕ}

/-! ### What a timetable request leaves -/

/-- The tables that the timetable requests do not write. -/
structure TimetableFrame (db db' : SchoolDB) : Prop where
  slots : db'.timetableSlots = db.timetableSlots
  periods : db'.periodDefinitions = db.periodDefinitions

lemma TimetableFrame.refl (db : SchoolDB) : TimetableFrame db db := ⟨rfl, rfl⟩

lemma TimetableFrame.trans {db'' : SchoolDB} (h : TimetableFrame db db')
    (h' : TimetableFrame db' db'') : TimetableFrame db db'' :=
  ⟨h'.slots.trans h.slots, h'.periods.trans h.periods⟩

lemma TimetableFrame.log (h : TimetableFrame db db') (row : AuditLog) :
    TimetableFrame db (db'.log row) := ⟨h.slots, h.periods⟩

lemma timetableSave_frame {old new : Timetable} :
    Yields (Timetables.save db old new) (TimetableFrame db) := by
  simp only [Timetables.save, yields_bind, yields_ensure, yields_pure]
  exact fun _ => ⟨rfl, rfl⟩

lemma replacePublished_frame {tt : Timetable} {existing : Option Timetable} :
    Yields (Timetables.replacePublished env clk ctx db tt existing) (TimetableFrame db) := by
  cases existing with
  | none => exact yields_pure.mpr (.refl db)
  | some old =>
    simp only [Timetables.replacePublished, yields_bind, yields_audit]
    exact timetableSave_frame.imp fun _ h _ => h.log _

lemma timetableHandle_frame (c : TimetableCall) : Yields (c.handle env db) (TimetableFrame db) := by
  obtain ⟨ctx, clk, op⟩ := c
  cases op with
  | create data id =>
    simp only [TimetableCall.handle, Timetables.create, Timetables.insertRow, yields_map,
      yields_bind, yields_found, yields_ensure, yields_audit, yields_pure]
    exact fun _ _ _ _ _ _ _ _ => ⟨rfl, rfl⟩
  | update timetableId data =>
    simp only [TimetableCall.handle, Timetables.update, yields_map, yields_bind, yields_ensure,
      yields_audit, yields_pure]
    exact .of_forall fun _ _ _ => timetableSave_frame.imp fun _ h _ => h.log _
  | publish timetableId version =>
    simp only [TimetableCall.handle, Timetables.publish_eq, yields_map, yields_bind, yields_ensure,
      yields_ite, yields_audit, yields_pure]
    refine .of_forall fun tt _ _ => ⟨fun _ => .refl db, fun _ => ?_⟩
    exact replacePublished_frame.imp fun _ h =>
      timetableSave_frame.imp fun _ h' _ => (h.trans h').log _
  | archive timetableId version =>
    simp only [TimetableCall.handle, Timetables.archive, yields_map, yields_bind, yields_ensure,
      yields_audit, yields_pure]
    exact .of_forall fun _ _ _ => timetableSave_frame.imp fun _ h _ => h.log _

lemma timetableStep_frame (c : TimetableCall) : TimetableFrame db (c.step env db) := by
  unfold TimetableCall.step
  split
  · next hok => exact timetableHandle_frame c _ hok
  · exact .refl db

/-! ### Slots over runs of both kinds of requests -/

/-- Slots are sound, and no cohort is double-booked. -/
structure Booked (db : SchoolDB) : Prop where
  sound : SlotSound db
  cohort : CohortFree db

lemma Booked.frame (h : Booked db) (hframe : TimetableFrame db db') : Booked db' where
  sound := by
    constructor
    · rw [hframe.slots, hframe.periods]
      exact h.sound.school
    · rw [hframe.slots]
      exact h.sound.unlinked
  cohort := by
    unfold CohortFree
    rw [hframe.slots]
    exact h.cohort

lemma booked_step (h : Booked db) (c : ScheduleCall) : Booked (c.step env db) := by
  cases c with
  | slot c =>
    refine ⟨slotSound_step h.sound c, ?_⟩
    rcases slotStep_cases env db c with heq | ⟨heffect, _⟩
    · show CohortFree (c.step env db)
      rw [heq]
      exact h.cohort
    · exact heffect.cohortFree h.sound h.cohort
  | timetable c => exact h.frame (timetableStep_frame c)

lemma booked_run (env : SchoolEnv) (db : SchoolDB) (l : List ScheduleCall) :
    Booked (run (ScheduleCall.step env) db.withoutSlots l) := by
  have hinit : Booked db.withoutSlots := ⟨.empty rfl, Table.excludes_empty⟩
  have hstep : ∀ (d : SchoolDB) (c : ScheduleCall), Booked d → Booked (c.step env d) :=
    fun _ c h => booked_step h c
  exact invariant_all hstep hinit l

/-- **The gate sees no slot**: in every reachable state no timetable has a conflict to report,
whatever is double-booked. -/
theorem findConflicts_reachable (env : SchoolEnv) (db : SchoolDB) (l : List ScheduleCall)
    (timetableId schoolId : Ulid) :
    findConflicts env (run (ScheduleCall.step env) db.withoutSlots l) timetableId schoolId =
      [] := by
  have hbooked := booked_run env db l
  have hslots : slotsOf (run (ScheduleCall.step env) db.withoutSlots l) timetableId schoolId =
      [] := by
    rw [slotsOf, List.filter_eq_nil_iff]
    intro s hs hlinked
    have hunlinked := hbooked.sound.unlinked s hs
    simp [hunlinked] at hlinked
  rw [findConflicts, hslots]
  rfl

/-! ### The gate -/

/-- No two slots of the timetable's school and year double-book a teacher or a cohort. -/
def NoDoubleBooking (db : SchoolDB) (tt : Timetable) : Prop :=
  ∀ a ∈ db.timetableSlots, ∀ b ∈ db.timetableSlots, a.id ≠ b.id →
    (a.schoolId = tt.schoolId ∧ a.academicYearId = tt.academicYearId) →
    (b.schoolId = tt.schoolId ∧ b.academicYearId = tt.academicYearId) →
      ¬ Clash TimetableSlot.teacherId a b ∧ ¬ Clash TimetableSlot.cohortId a b

instance (db : SchoolDB) (tt : Timetable) : Decidable (NoDoubleBooking db tt) :=
  inferInstanceAs (Decidable (∀ a ∈ db.timetableSlots.rows, ∀ b ∈ db.timetableSlots.rows, _))

/-- The service function returns success. The audit row of the publication is not written yet. -/
def Succeeds : Fallible (Returned SchoolDB PublishResult) → Prop
  | .ok r => r.answer.success = true
  | .error _ => False

instance : DecidablePred Succeeds
  | .ok r => inferInstanceAs (Decidable (r.answer.success = true))
  | .error _ => .isFalse id

/-- A publish that succeeds finds no double booking. -/
def PublishGate (env : SchoolEnv) (db : SchoolDB) (clk : Clock) (ctx : RequestContext)
    (timetableId : Ulid) (version : ℕ) : Prop :=
  Succeeds (Timetables.publishTimetable env clk ctx db timetableId version) →
    ∀ tt, db.timetables.get timetableId = some tt → NoDoubleBooking db tt

/-- No two ACTIVE slots that belong to the timetable share a period and day, with one teacher or
one cohort. -/
def LinkedApart (db : SchoolDB) (tt : Timetable) : Prop :=
  (∀ k, ¬ Shared db tt.id tt.schoolId TimetableSlot.teacherId k) ∧
    ∀ k, ¬ Shared db tt.id tt.schoolId TimetableSlot.cohortId k

/-- A slot request keeps the teachers free. -/
def ScheduleCall.TeacherStaysFree (env : SchoolEnv) (db : SchoolDB) : ScheduleCall → Prop
  | .slot c => SchoolOs.TeacherStaysFree env db c
  | .timetable _ => True

instance (env : SchoolEnv) (db : SchoolDB) (c : ScheduleCall) :
    Decidable (c.TeacherStaysFree env db) :=
  match c with
  | .slot c => inferInstanceAs (Decidable (SchoolOs.TeacherStaysFree env db c))
  | .timetable _ => .isTrue trivial

/-- What a publish that succeeds has found: its timetable, and no conflict to report. -/
lemma publish_found
    (h : Succeeds (Timetables.publishTimetable env clk ctx db timetableId version)) :
    ∃ tt, db.timetables.get timetableId = some tt ∧
      findConflicts env db timetableId tt.schoolId = [] := by
  cases hok : Timetables.publishTimetable env clk ctx db timetableId version with
  | error e =>
    rw [hok] at h
    exact h.elim
  | ok r =>
    rw [hok] at h
    obtain ⟨tt, howned, hok⟩ := bind_ok.mp hok
    obtain ⟨_, _, hok⟩ := bind_ok.mp hok
    obtain ⟨_, _, hok⟩ := bind_ok.mp hok
    obtain ⟨_, _, hget⟩ := bind_ok.mp howned
    refine ⟨tt, (Option.filter_eq_some_iff.mp (found_ok.mp hget)).1, ?_⟩
    by_contra hconflicts
    rw [if_pos hconflicts] at hok
    obtain rfl := pure_ok.mp hok
    cases h

lemma findConflicts_nil {schoolId : Ulid} (h : findConflicts env db timetableId schoolId = []) :
    (∀ k, ¬ Shared db timetableId schoolId TimetableSlot.teacherId k) ∧
      ∀ k, ¬ Shared db timetableId schoolId TimetableSlot.cohortId k := by
  rw [findConflicts_eq, List.map_eq_nil_iff, List.append_eq_nil_iff] at h
  obtain ⟨hteacher, hcohort⟩ := h
  refine ⟨fun k hshared => ?_, fun k hshared => ?_⟩
  · have hk := crowded_iff_shared.mpr hshared
    rw [← teacherReports_keys env, hteacher] at hk
    cases hk
  · have hk := crowded_iff_shared.mpr hshared
    rw [← cohortReports_keys, hcohort] at hk
    cases hk

/-- **What the gate checks**: the slots that belong to the timetable, in every state. -/
theorem publish_linkedApart
    (h : Succeeds (Timetables.publishTimetable env clk ctx db timetableId version)) :
    ∀ tt, db.timetables.get timetableId = some tt → LinkedApart db tt := by
  intro tt hget
  obtain ⟨tt', hget', hnone⟩ := publish_found h
  obtain rfl := Option.some.inj (hget'.symm.trans hget)
  obtain rfl := (Table.get_eq_some.mp hget).2
  exact findConflicts_nil hnone

/-- **What the slot requests keep**: what is published is free of double bookings as long as the
updates keep the teachers free; no slot belongs to a timetable, so the check adds nothing. -/
theorem publishGate_of_teacherFree (env : SchoolEnv) (db : SchoolDB) (l : List ScheduleCall)
    (h : Along (ScheduleCall.step env) (ScheduleCall.TeacherStaysFree env) db.withoutSlots l)
    (clk : Clock) (ctx : RequestContext) (timetableId : Ulid) (version : ℕ) :
    PublishGate env (run (ScheduleCall.step env) db.withoutSlots l) clk ctx timetableId
      version := by
  have hstep : ∀ (d : SchoolDB) (c : ScheduleCall), c.TeacherStaysFree env d →
      Booked d ∧ TeacherFree d → Booked (c.step env d) ∧ TeacherFree (c.step env d) := by
    rintro d c hstays ⟨hbooked, hfree⟩
    refine ⟨booked_step hbooked c, ?_⟩
    cases c with
    | slot c =>
      rcases slotStep_cases env d c with heq | ⟨heffect, _⟩
      · show TeacherFree (c.step env d)
        rwa [heq]
      · exact heffect.teacherFree hstays hbooked.sound hfree
    | timetable c =>
      have hslots : (ScheduleCall.step env d (.timetable c)).timetableSlots = d.timetableSlots :=
        (timetableStep_frame c).slots
      unfold TeacherFree
      rw [hslots]
      exact hfree
  have hinit : Booked db.withoutSlots ∧ TeacherFree db.withoutSlots :=
    ⟨booked_run env db [], Table.excludes_empty⟩
  obtain ⟨hbooked, hfree⟩ := invariant hstep h hinit
  intro _ tt _ a ha b hb hid _ _
  exact ⟨hfree a ha b hb hid, hbooked.cohort a ha b hb hid⟩

/-! ### The schema as migrated -/

lemma timetableActions_refused : ∀ action ∈ ["TIMETABLE_CREATED", "TIMETABLE_UPDATED",
    "TIMETABLE_PUBLISHED", "TIMETABLE_ARCHIVED"], action ∉ auditActions := by decide

lemma yields_refused {entry : AuditEntry} {S : SchoolDB → Prop} (h : entry.action ∉ auditActions) :
    Yields (db.audit env.migrated ctx entry) S :=
  yields_audit.mpr fun hadmits => absurd hadmits.1 h

/-- No action on timetables is admitted: what a request leaves is what it found. -/
lemma timetableHandle_migrated (c : TimetableCall) :
    Yields (c.handle env.migrated db) (· = db) := by
  obtain ⟨ctx, clk, op⟩ := c
  cases op with
  | create data id =>
    simp only [TimetableCall.handle, Timetables.create, yields_map, yields_bind]
    exact .of_forall fun _ => .of_forall fun _ => .of_forall fun _ =>
      yields_refused (timetableActions_refused _ (by simp))
  | update timetableId data =>
    simp only [TimetableCall.handle, Timetables.update, yields_map, yields_bind]
    exact .of_forall fun _ => .of_forall fun _ => .of_forall fun _ => .of_forall fun _ =>
      yields_refused (timetableActions_refused _ (by simp [Timetables.changedEntry]))
  | publish timetableId version =>
    simp only [TimetableCall.handle, Timetables.publish_eq, yields_map, yields_bind, yields_ite]
    refine .of_forall fun _ => .of_forall fun _ => .of_forall fun _ => ⟨fun _ => ?_, fun _ => ?_⟩
    · exact yields_pure.mpr rfl
    · exact .of_forall fun _ => .of_forall fun _ =>
        yields_refused (timetableActions_refused _ (by simp [Timetables.changedEntry]))
  | archive timetableId version =>
    simp only [TimetableCall.handle, Timetables.archive, yields_map, yields_bind]
    exact .of_forall fun _ => .of_forall fun _ => .of_forall fun _ => .of_forall fun _ =>
      yields_refused (timetableActions_refused _ (by simp [Timetables.changedEntry]))

lemma timetableStep_migrated (c : TimetableCall) : c.step env.migrated db = db := by
  unfold TimetableCall.step
  split
  · next hok => exact timetableHandle_migrated c _ hok
  · rfl

/-- **Timetables are never written**: a run leaves those there were. -/
theorem timetables_unwritten (env : SchoolEnv) (db : SchoolDB) (l : List ScheduleCall) :
    (run (ScheduleCall.step env.migrated) db l).timetables = db.timetables := by
  refine invariant_all (I := fun d : SchoolDB => d.timetables = db.timetables) ?_ rfl l
  intro d c h
  cases c with
  | slot c =>
    rcases slotStep_cases env.migrated d c with heq | ⟨_, hframe⟩
    · show (c.step env.migrated d).timetables = db.timetables
      rwa [heq]
    · exact hframe.timetables.trans h
  | timetable c =>
    show (c.step env.migrated d).timetables = db.timetables
    rwa [timetableStep_migrated]

/-- The database before any slot or timetable. -/
def SchoolDB.unscheduled (db : SchoolDB) : SchoolDB :=
  { db.withoutSlots with timetables := .empty _ }

/-- **The publish gate**: in every reachable state, a publish that succeeds finds no double booking.
With the schema as migrated no timetable is ever there to be published. Whatever the audit log
admits, and whatever timetables there are, the gate holds as long as the slot updates keep the
teachers free; and in every state at all, the slots that belong to a timetable that gets published
share no period and day. -/
theorem publish_gate (env : SchoolEnv) (db : SchoolDB) (l : List ScheduleCall) (clk : Clock)
    (ctx : RequestContext) (timetableId : Ulid) (version : ℕ) :
    PublishGate env.migrated (run (ScheduleCall.step env.migrated) db.unscheduled l) clk ctx
        timetableId version ∧
      (Along (ScheduleCall.step env) (ScheduleCall.TeacherStaysFree env) db.withoutSlots l →
        PublishGate env (run (ScheduleCall.step env) db.withoutSlots l) clk ctx timetableId
          version) ∧
      (Succeeds (Timetables.publishTimetable env clk ctx db timetableId version) →
        ∀ tt, db.timetables.get timetableId = some tt → LinkedApart db tt) := by
  refine ⟨?_, fun h => publishGate_of_teacherFree env db l h clk ctx timetableId version,
    publish_linkedApart⟩
  intro hsucceeds
  obtain ⟨tt, hget, _⟩ := publish_found hsucceeds
  rw [timetables_unwritten] at hget
  cases hget

/-- A deployment whose audit log admits the actions on timetables. -/
def admitting : SchoolEnv :=
  { SchoolEnv.plain with
    auditVocabulary := "TIMETABLE_CREATED" :: "TIMETABLE_PUBLISHED" :: auditActions }

/-- Two bookings of one teacher, and a timetable. -/
def bookAndDraft : List ScheduleCall :=
  bookInTurn.map .slot ++ [.timetable ⟨staff, ⟨0, 0⟩, .create ⟨21, "T1", by decide⟩ 301⟩]

/-- A slot of timetable 301. -/
def linkedSlot (id cohortId : Ulid) (day : DayOfWeek) : TimetableSlot :=
  ⟨id, 11, 101, 21, some 301, cohortId, 91, 81, 41, day, 738010, none, .active, none, none, none, 1⟩

/-- A timetable with two slots of one teacher, one on Monday and one on the day given. -/
def drafted (day : DayOfWeek) : SchoolDB :=
  { smallSchool with
    timetables := .ofRows _ [⟨301, 11, 101, 21, "T1", .draft, none, none, none, none, 1⟩]
    timetableSlots := .ofRows _ [linkedSlot 201 51 .monday, linkedSlot 202 52 day] }

/-- A timetable that was created is published after the slots were booked, and one is whose slots
are apart. -/
theorem publish_gate_drafted :
    (Succeeds (Timetables.publishTimetable admitting ⟨0, 0⟩ staff
        (run (ScheduleCall.step admitting) smallSchool.withoutSlots bookAndDraft) 301 1) ∧
      ∀ tt, (run (ScheduleCall.step admitting) smallSchool.withoutSlots
          bookAndDraft).timetables.get 301 = some tt →
        NoDoubleBooking (run (ScheduleCall.step admitting) smallSchool.withoutSlots bookAndDraft)
          tt) ∧
    (Succeeds (Timetables.publishTimetable .plain ⟨0, 0⟩ staff (drafted .tuesday) 301 1) ∧
      ∀ tt, (drafted .tuesday).timetables.get 301 = some tt →
        LinkedApart (drafted .tuesday) tt) := by
  have hbooked : Succeeds (Timetables.publishTimetable admitting ⟨0, 0⟩ staff
      (run (ScheduleCall.step admitting) smallSchool.withoutSlots bookAndDraft) 301 1) := by
    decide +kernel
  have hdrafted : Succeeds (Timetables.publishTimetable .plain ⟨0, 0⟩ staff (drafted .tuesday) 301
      1) := by decide +kernel
  have hgate := (publish_gate admitting smallSchool bookAndDraft ⟨0, 0⟩ staff 301 1).2.1
    (by decide +kernel)
  exact ⟨⟨hbooked, hgate hbooked⟩, hdrafted,
    (publish_gate .plain (drafted .tuesday) [] ⟨0, 0⟩ staff 301 1).2.2 hdrafted⟩

example : ¬ Succeeds (Timetables.publishTimetable .plain ⟨0, 0⟩ staff (drafted .monday) 301 1) := by
  decide +kernel

end SchoolOs
