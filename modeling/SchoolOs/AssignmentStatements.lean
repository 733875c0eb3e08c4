import SchoolOs.Processes
import SchoolOs.SchoolPeople

/-!
Requests on the assignments of teachers, one SQL statement at a time. The statement that writes a
row enters the partial unique indexes: it waits while another transaction holds the row or its
entry, and fails when another row has the entry. A subject teacher without a subject has none.
-/

namespace SchoolOs

open ReadCommitted Procs

/-! ### Requests and where they stand -/

inductive AssignmentOp
  | create (data : AssignmentCreate) (id : Ulid)
  | update (assignmentId : Ulid) (data : AssignmentUpdate)
  | finish (assignmentId : Ulid) (version : ℕ)

/-- A request on assignments, with its context and time. -/
structure AssignmentRequest where
  ctx : RequestContext
  clk : Clock
  op : AssignmentOp

/-- Where a request stands. -/
inductive AssignmentPc
  | start
  /-- The teacher is there; the cohort is next. -/
  | teacher (schoolId : Ulid)
  /-- The cohort is there; the academic year is next. -/
  | cohort (schoolId : Ulid) (cohort : Cohort)
  /-- The year is there; the search for a conflict is next. -/
  | year (schoolId : Ulid) (cohort : Cohort)
  /-- No conflict is seen; the insert is next. -/
  | checked (schoolId : Ulid) (cohort : Cohort)
  /-- The assignment is read; its update is next. -/
  | selected (old : TeacherAssignment)
  /-- The audit row is next. -/
  | written (entry : AuditEntry) (answer : TeacherAssignment)
  /-- The commit is next. -/
  | logged (answer : TeacherAssignment)
  | answered (r : Fallible TeacherAssignment)

/-- An entry of one of the two indexes. -/
inductive AssignmentKey
  | classTeacher (schoolId cohortId academicYearId : Ulid)
  | subjectTeacher (schoolId cohortId subjectId academicYearId : Ulid)
  deriving DecidableEq

/-- The entry of a row, if it has one. -/
def TeacherAssignment.indexKey (a : TeacherAssignment) : Option AssignmentKey :=
  if a.status = .active then
    match a.role with
    | .classTeacher => some (.classTeacher a.schoolId a.cohortId a.academicYearId)
    | .subjectTeacher =>
      a.subjectId.map fun s => .subjectTeacher a.schoolId a.cohortId s a.academicYearId
    | _ => none
  else none

/-- What a statement locks. -/
inductive AssignmentLock
  | row (id : Ulid)
  | key (k : AssignmentKey)
  deriving DecidableEq

abbrev AssignmentWrite := Write SchoolDB AssignmentLock

def insertAssignment (a : TeacherAssignment) : AssignmentWrite where
  locks := .row a.id :: a.indexKey.toList.map .key
  run db := { db with
    teacherAssignments := (db.teacherAssignments.insert a).getD db.teacherAssignments }

def updateAssignment (old new : TeacherAssignment) : AssignmentWrite where
  locks := .row old.id :: (old.indexKey.toList ++ new.indexKey.toList).map .key
  run db := { db with teacherAssignments := db.teacherAssignments.put new.touch }

def insertAssignmentAudit (row : AuditLog) : AssignmentWrite where
  locks := []
  run db := db.log row

/-- Another row has the entry of the row. -/
def EntryTaken (db : SchoolDB) (row : TeacherAssignment) : Prop :=
  ∃ a ∈ db.teacherAssignments, a.id ≠ row.id ∧ Assignments.Collides a row

instance (db : SchoolDB) (row : TeacherAssignment) : Decidable (EntryTaken db row) :=
  inferInstanceAs (Decidable (∃ a ∈ db.teacherAssignments.rows, a.id ≠ row.id ∧ _))

namespace Assignments

/-- The row of a new assignment. -/
def created (ctx : RequestContext) (schoolId organizationId : Ulid) (data : AssignmentCreate)
    (id : Ulid) : TeacherAssignment where
  id := id
  schoolId := schoolId
  organizationId := organizationId
  teacherId := data.teacherId
  cohortId := data.cohortId
  subjectId := data.subjectId
  academicYearId := data.academicYearId
  role := data.role
  startDate := data.startDate
  endDate := none
  status := .active
  createdById := ctx.userId
  updatedById := none
  version := 1

def createdEntry (cohort : Cohort) (a : TeacherAssignment) : AuditEntry :=
  { action := "TEACHER_ASSIGNED", entityType := "teacher_assignment", entityId := some a.id,
    summary := some ("Teacher assigned to cohort " ++ cohort.name),
    after := some (assignmentSnapshot a) }

def updatedEntry (old new : TeacherAssignment) : AuditEntry :=
  { action := "TEACHER_ASSIGNMENT_UPDATED", entityType := "teacher_assignment",
    entityId := some old.id, summary := some "Teacher assignment updated",
    before := some (assignmentSnapshot old), after := some (assignmentSnapshot new) }

def endedEntry (old new : TeacherAssignment) : AuditEntry :=
  { action := "TEACHER_ASSIGNMENT_ENDED", entityType := "teacher_assignment",
    entityId := some old.id, summary := some "Teacher assignment ended",
    before := some (assignmentSnapshot old), after := some (assignmentSnapshot new) }

end Assignments

/-! ### The system -/

/-- The database and where every request stands. -/
abbrev AssignmentSys (ι : Type*) := Procs ι SchoolDB AssignmentLock AssignmentPc

namespace AssignmentSys

variable {ι : Type*} [DecidableEq ι] (env : SchoolEnv) (req : ι → AssignmentRequest)
  (s : AssignmentSys ι) (i : ι)

def fail (e : ApiError) : AssignmentSys ι := s.abort i (.answered (.error e))

/-- Another open transaction holds the lock. -/
def Held (l : AssignmentLock) : Prop := s.store.Waits i ⟨[l], id⟩

instance (l : AssignmentLock) : Decidable (s.Held i l) :=
  inferInstanceAs (Decidable (s.store.Waits i ⟨[l], id⟩))

/-- The write of a row fails on its index: the row and its entry are free of other open
transactions, and another row has the entry. -/
def Violates (row : TeacherAssignment) : Prop :=
  ¬ s.Held i (.row row.id) ∧ (∀ k ∈ row.indexKey, ¬ s.Held i (.key k)) ∧ EntryTaken (s.view i) row

instance (row : TeacherAssignment) : Decidable (s.Violates i row) :=
  inferInstanceAs (Decidable (_ ∧ (∀ k ∈ row.indexKey, ¬ s.Held i (.key k)) ∧ _))

/-- The flush of a row that was read. A row that did not change is not written; the row must
still have the version that was read. -/
def flush (old new : TeacherAssignment) (pc : AssignmentPc) : AssignmentSys ι :=
  if new = old then s.goto i pc
  else if ((s.view i).teacherAssignments.get old.id).map TeacherAssignment.version ≠
      some old.version then s.fail i internalError
  else if s.Violates i new then s.fail i internalError
  else s.write i (updateAssignment old new) pc

/-- The insert of a row: a violated index is answered as a conflict. -/
def insert (a : TeacherAssignment) (pc : AssignmentPc) : AssignmentSys ι :=
  if (s.view i).teacherAssignments.insert a = none then s.fail i internalError
  else if s.Violates i a then s.fail i Assignments.conflict
  -- The foreign keys are looked at once the row is in.
  else if s.store.Waits i (insertAssignment a) ∨ ((s.view i).HasSchool a.schoolId ∧
      ((s.view i).teachers.get a.teacherId).isSome ∧ ((s.view i).cohorts.get a.cohortId).isSome ∧
      (∀ x ∈ a.subjectId, ((s.view i).subjects.get x).isSome) ∧
      ((s.view i).academicYears.get a.academicYearId).isSome) then
    s.write i (insertAssignment a) pc
  else s.fail i internalError

/-- The insert of the audit row. -/
def log (entry : AuditEntry) (pc : AssignmentPc) : AssignmentSys ι :=
  if env.Admits (auditRow (req i).ctx entry) then
    s.write i (insertAssignmentAudit (auditRow (req i).ctx entry)) pc
  else s.fail i internalError

/-- A row that was looked up. -/
def lookup {α : Type} (x : Option α) (e : ApiError) (pc : α → AssignmentPc) : AssignmentSys ι :=
  match x with
  | some a => s.goto i (pc a)
  | none => s.fail i e

/-- The next statement of a request to assign a teacher. -/
def nextCreate (ctx : RequestContext) (data : AssignmentCreate) (id : Ulid) : AssignmentSys ι :=
  match s.pc i with
  | .start =>
    match ctx.schoolId with
    | none => s.fail i noSchool
    | some schoolId =>
      s.lookup i (getTeacher (s.view i) schoolId data.teacherId) Assignments.teacherNotFound
        fun _ => .teacher schoolId
  | .teacher schoolId =>
    s.lookup i (getCohort (s.view i) schoolId data.cohortId) cohortNotFound (.cohort schoolId)
  | .cohort schoolId cohort =>
    s.lookup i (getYear (s.view i) schoolId data.academicYearId) yearNotFound
      fun _ => .year schoolId cohort
  | .year schoolId cohort =>
    if checkAssignmentConflict (s.view i) schoolId data.cohortId data.subjectId
        data.academicYearId data.role = false then s.goto i (.checked schoolId cohort)
    else s.fail i Assignments.conflict
  | .checked schoolId cohort =>
    match ctx.organizationId with
    | none => s.fail i internalError
    | some organizationId =>
      let a := Assignments.created ctx schoolId organizationId data id
      s.insert i a (.written (Assignments.createdEntry cohort a) a)
  | _ => s

/-- The read of an assignment that is to be changed. -/
def select (assignmentId : Ulid) (version : ℕ) : AssignmentSys ι :=
  match Assignments.getOwned (req i).ctx (s.view i) assignmentId with
  | .error e => s.fail i e
  | .ok old =>
    if old.version = version then s.goto i (.selected old) else s.fail i staleResourceError

/-- The next statement of a request to change an assignment. -/
def nextUpdate (assignmentId : Ulid) (data : AssignmentUpdate) : AssignmentSys ι :=
  match s.pc i with
  | .start => s.select req i assignmentId data.version
  | .selected old =>
    let new := Assignments.applied (req i).ctx old data
    s.flush i old new
      (.written (Assignments.updatedEntry old new) (flushed TeacherAssignment.touch old new))
  | _ => s

/-- The next statement of a request to end an assignment. -/
def nextEnd (assignmentId : Ulid) (version : ℕ) : AssignmentSys ι :=
  match s.pc i with
  | .start => s.select req i assignmentId version
  | .selected old =>
    let new := Assignments.ended (req i).clk (req i).ctx old
    s.flush i old new
      (.written (Assignments.endedEntry old new) (flushed TeacherAssignment.touch old new))
  | _ => s

/-- The next statement of a request. -/
def step (s : AssignmentSys ι) (i : ι) : AssignmentSys ι :=
  match s.pc i with
  | .written entry answer => s.log env req i entry (.logged answer)
  | .logged answer => s.commit i (.answered (.ok answer))
  | .answered _ => s
  | _ =>
    match (req i).op with
    | .create data id => s.nextCreate i (req i).ctx data id
    | .update assignmentId data => s.nextUpdate req i assignmentId data
    | .finish assignmentId version => s.nextEnd req i assignmentId version

/-- No request has begun. -/
def init (db : SchoolDB) : AssignmentSys ι := ⟨⟨db, []⟩, fun _ => .start⟩

end AssignmentSys

/-! ### A request that runs alone -/

/-- The request taken as one step. -/
def AssignmentRequest.handle (env : SchoolEnv) (db : SchoolDB) (q : AssignmentRequest) :
    Fallible (TeacherAssignment × SchoolDB) :=
  match q.op with
  | .create data id => Assignments.create env q.ctx db data id
  | .update assignmentId data => do
    let a ← Assignments.getOwned q.ctx db assignmentId
    Assignments.update env q.ctx db a data
  | .finish assignmentId version => do
    let a ← Assignments.getOwned q.ctx db assignmentId
    Assignments.endAssignment env q.clk q.ctx db a version

section Alone

open Runs

variable {ι : Type*} [DecidableEq ι] {env : SchoolEnv} {req : ι → AssignmentRequest} {i : ι}
  {pcs : ι → AssignmentPc} {db : SchoolDB} {ws : List AssignmentWrite} {pc pc' : AssignmentPc}

/-- Statements of the one request lead to the state in which the request has come to what it comes
to as one step. -/
def AssignmentFinishes (env : SchoolEnv) (req : ι → AssignmentRequest) (i : ι)
    (pcs : ι → AssignmentPc) (s : AssignmentSys ι) (db : SchoolDB)
    (r : Fallible (TeacherAssignment × SchoolDB)) : Prop :=
  match r with
  | .ok (answer, db') =>
    Repeats (AssignmentSys.step env req) i s (solo pcs i db' [] (.answered (.ok answer)))
  | .error e => Repeats (AssignmentSys.step env req) i s (solo pcs i db [] (.answered (.error e)))

lemma AssignmentFinishes.next {s : AssignmentSys ι} {r : Fallible (TeacherAssignment × SchoolDB)}
    (h : AssignmentFinishes env req i pcs (s.step env req i) db r) :
    AssignmentFinishes env req i pcs s db r := by
  unfold AssignmentFinishes at h ⊢
  split at h <;> exact .next h

lemma assignmentFinishes_fail (e : ApiError) : AssignmentFinishes env req i pcs
    (AssignmentSys.fail (solo pcs i db ws pc) i e) db (.error e) := by
  rw [AssignmentSys.fail, solo_abort]
  exact Repeats.refl _

lemma finishes_assignmentLookup {α : Type} {x : Option α} {e : ApiError}
    {k : α → Fallible (TeacherAssignment × SchoolDB)}
    {next : α → AssignmentPc}
    (h : ∀ a, x = some a → AssignmentFinishes env req i pcs (solo pcs i db ws (next a)) db (k a)) :
    AssignmentFinishes env req i pcs
      (AssignmentSys.lookup (solo pcs i db ws pc) i x e next) db (found x e >>= k) := by
  cases x with
  | none => exact assignmentFinishes_fail e
  | some a =>
    simp only [AssignmentSys.lookup, solo_goto, found, ok_bind]
    exact h a rfl

lemma solo_violates {row : TeacherAssignment} :
    AssignmentSys.Violates (solo pcs i db ws pc) i row ↔ EntryTaken (after ws db) row := by
  unfold AssignmentSys.Violates
  rw [solo_view]
  constructor
  · exact fun h => h.2.2
  · exact fun h => ⟨solo_not_waits _, fun _ _ => solo_not_waits _, h⟩

lemma finishes_assignmentWritten {entry : AuditEntry} {answer : TeacherAssignment} :
    AssignmentFinishes env req i pcs (solo pcs i db ws (.written entry answer)) db
      ((after ws db).audit env (req i).ctx entry >>= fun db' => .ok (answer, db')) := by
  refine .next ?_
  simp only [AssignmentSys.step, solo_pc, AssignmentSys.log]
  by_cases hadmits : env.Admits (auditRow (req i).ctx entry)
  · have haudit : (after ws db).audit env (req i).ctx entry =
        .ok ((after ws db).log (auditRow (req i).ctx entry)) := schoolAudit_ok.mpr ⟨hadmits, rfl⟩
    rw [if_pos hadmits, solo_write, haudit, ok_bind]
    refine .next ?_
    simp only [AssignmentSys.step, solo_pc, solo_commit, after_snoc]
    exact Repeats.refl _
  · have haudit : (after ws db).audit env (req i).ctx entry = .error internalError := by
      simp [SchoolDB.audit, ensure, hadmits]
    rw [if_neg hadmits, haudit, error_bind]
    exact assignmentFinishes_fail _

/-- The flush of a row that was read, its audit row and the commit. -/
lemma finishes_assignmentFlush {old new answer : TeacherAssignment} {entry : AuditEntry}
    (hold : (after ws db).teacherAssignments.get old.id = some old) :
    AssignmentFinishes env req i pcs
      (AssignmentSys.flush (solo pcs i db ws pc) i old new (.written entry answer)) db
      (Assignments.save (after ws db) old new >>= fun db' =>
        db'.audit env (req i).ctx entry >>= fun db' => .ok (answer, db')) := by
  unfold AssignmentSys.flush Assignments.save
  by_cases hsame : new = old
  · rw [if_pos hsame, if_pos hsame, solo_goto, pure_bind]
    exact finishes_assignmentWritten
  have hversion : ¬ (((solo pcs i db ws pc).view i).teacherAssignments.get old.id).map
      TeacherAssignment.version ≠ some old.version := by
    rw [solo_view, hold]
    exact fun hne => hne rfl
  rw [if_neg hsame, if_neg hsame, if_neg hversion]
  by_cases htaken : EntryTaken (after ws db) new
  · have hnot : ¬ ∀ a ∈ (after ws db).teacherAssignments, a.id ≠ new.id →
        ¬ Assignments.Collides a new := by
      obtain ⟨a, ha, hne, hc⟩ := htaken
      exact fun h => h a ha hne hc
    rw [if_pos (solo_violates.mpr htaken)]
    simp only [ensure, if_neg hnot, error_bind]
    exact assignmentFinishes_fail _
  · have hfree : ∀ a ∈ (after ws db).teacherAssignments, a.id ≠ new.id →
        ¬ Assignments.Collides a new := fun a ha hne hc => htaken ⟨a, ha, hne, hc⟩
    rw [if_neg fun hv => htaken (solo_violates.mp hv), solo_write]
    simp only [ensure, if_pos hfree, ok_bind, pure_bind]
    have hafter : after (ws ++ [updateAssignment old new]) db = { after ws db with
        teacherAssignments := (after ws db).teacherAssignments.put new.touch } := after_snoc
    rw [← hafter]
    exact finishes_assignmentWritten

lemma finishes_assignmentInsert {a : TeacherAssignment} {entry : AuditEntry} :
    AssignmentFinishes env req i pcs
      (AssignmentSys.insert (solo pcs i db ws pc) i a (.written entry a)) db
      (Assignments.insertRow (after ws db) a >>= fun db' =>
        db'.audit env (req i).ctx entry >>= fun db' => .ok (a, db')) := by
  unfold AssignmentSys.insert Assignments.insertRow
  rw [solo_view]
  cases hrow : (after ws db).teacherAssignments.insert a with
  | none =>
    simp only [if_true, found, error_bind]
    exact assignmentFinishes_fail _
  | some assignments =>
    have hfresh := (Table.insert_eq_some.mp hrow).1
    rw [if_neg (Option.some_ne_none assignments)]
    by_cases htaken : EntryTaken (after ws db) a
    · have hnot : ¬ ∀ a' ∈ (after ws db).teacherAssignments, ¬ Assignments.Collides a' a := by
        obtain ⟨a', ha', _, hc⟩ := htaken
        exact fun h => h a' ha' hc
      rw [if_pos (solo_violates.mpr htaken)]
      simp only [found, ensure, ok_bind, if_neg hnot, error_bind]
      exact assignmentFinishes_fail _
    · have hfree : ∀ a' ∈ (after ws db).teacherAssignments, ¬ Assignments.Collides a' a :=
        fun a' ha' hc => htaken ⟨a', ha', hfresh a' ha', hc⟩
      rw [if_neg fun hv => htaken (solo_violates.mp hv)]
      simp only [found, ensure, ok_bind, if_pos hfree, solo_not_waits, false_or]
      split
      · have hafter : after (ws ++ [insertAssignment a]) db =
            { after ws db with teacherAssignments := assignments } := by
          rw [after_snoc, insertAssignment]
          simp only [hrow, Option.getD_some]
        rw [solo_write, ok_bind, pure_bind, ← hafter]
        exact finishes_assignmentWritten
      · rw [error_bind]
        exact assignmentFinishes_fail _

lemma finishes_assignmentSelect {assignmentId : Ulid} {version : ℕ}
    {k : TeacherAssignment → Fallible (TeacherAssignment × SchoolDB)}
    (h : ∀ old, db.teacherAssignments.get old.id = some old →
      AssignmentFinishes env req i pcs (solo pcs i db [] (.selected old)) db (k old)) :
    AssignmentFinishes env req i pcs
      (AssignmentSys.select req (solo pcs i db [] pc) i assignmentId version) db
      (Assignments.getOwned (req i).ctx db assignmentId >>= fun old =>
        ensure (old.version = version) staleResourceError >>= fun _ => k old) := by
  unfold AssignmentSys.select
  rw [solo_view, after_nil]
  cases howned : Assignments.getOwned (req i).ctx db assignmentId with
  | error e => exact assignmentFinishes_fail e
  | ok old =>
    have hget : db.teacherAssignments.get old.id = some old := by
      obtain ⟨_, _, hrow⟩ := bind_ok.mp howned
      obtain ⟨hget, _⟩ := Option.filter_eq_some_iff.mp (found_ok.mp hrow)
      exact Table.get_eq_some.mpr ⟨(Table.get_eq_some.mp hget).1, rfl⟩
    by_cases hversion : old.version = version
    · simp only [if_pos hversion, ensure, ok_bind, solo_goto]
      exact h old hget
    · simp only [if_neg hversion, ensure, ok_bind, error_bind]
      exact assignmentFinishes_fail _

/-- **The two levels agree**: a request whose statements run alone leaves and answers what it does
when it is taken as one step. -/
theorem assignment_alone (env : SchoolEnv) (req : ι → AssignmentRequest) (i : ι)
    (pcs : ι → AssignmentPc) (db : SchoolDB) :
    AssignmentFinishes env req i pcs (solo pcs i db [] .start) db ((req i).handle env db) := by
  refine .next ?_
  unfold AssignmentRequest.handle
  cases h : (req i).op with
  | create data id =>
    simp only [AssignmentSys.step, solo_pc, h, AssignmentSys.nextCreate, Assignments.create]
    cases (req i).ctx.schoolId with
    | none => exact assignmentFinishes_fail _
    | some schoolId =>
      simp only [found, ok_bind, solo_view, after_nil]
      refine finishes_assignmentLookup fun _ _ => .next ?_
      simp only [AssignmentSys.step, solo_pc, h, AssignmentSys.nextCreate, solo_view, after_nil]
      refine finishes_assignmentLookup fun _ _ => .next ?_
      simp only [AssignmentSys.step, solo_pc, h, AssignmentSys.nextCreate, solo_view, after_nil]
      refine finishes_assignmentLookup fun _ _ => .next ?_
      simp only [AssignmentSys.step, solo_pc, h, AssignmentSys.nextCreate, solo_view, after_nil]
      by_cases hfree : checkAssignmentConflict db schoolId data.cohortId data.subjectId
          data.academicYearId data.role = false
      · simp only [if_pos hfree, ensure, ok_bind, solo_goto]
        refine .next ?_
        simp only [AssignmentSys.step, solo_pc, h, AssignmentSys.nextCreate]
        cases (req i).ctx.organizationId with
        | none => exact assignmentFinishes_fail _
        | some organizationId =>
          simp only [ok_bind]
          exact finishes_assignmentInsert
      · simp only [if_neg hfree, ensure, error_bind]
        exact assignmentFinishes_fail _
  | update assignmentId data =>
    simp only [AssignmentSys.step, solo_pc, h, AssignmentSys.nextUpdate, Assignments.update]
    refine finishes_assignmentSelect fun old hget => .next ?_
    simp only [AssignmentSys.step, solo_pc, h, AssignmentSys.nextUpdate]
    exact finishes_assignmentFlush hget
  | finish assignmentId version =>
    simp only [AssignmentSys.step, solo_pc, h, AssignmentSys.nextEnd, Assignments.endAssignment]
    refine finishes_assignmentSelect fun old hget => .next ?_
    simp only [AssignmentSys.step, solo_pc, h, AssignmentSys.nextEnd]
    exact finishes_assignmentFlush hget

end Alone

end SchoolOs
