import SchoolOs.Processes
import SchoolOs.Enrollments

/-!
Enrollment requests, one SQL statement at a time. The two partial unique indexes are entered by
the statement that writes a row: it waits while another transaction holds the row or an entry, and
fails when another row has the entry.
-/

namespace SchoolOs

open ReadCommitted Procs

/-! ### Requests and where they stand -/

/-- A request that enrolls, changes or transfers. -/
structure EnrollmentRequest where
  ctx : RequestContext
  op : EnrollmentOp
  keeps : ¬ op.Deletes

/-- Where a request stands. The answer comes with the rule that ended the request, if one did. -/
inductive EnrollmentPc
  | start
  /-- The student is there; the cohort is next. -/
  | student (schoolId : Ulid)
  /-- The cohort is there; the academic year is next. -/
  | cohort (schoolId : Ulid)
  /-- The year is there; the search for an ACTIVE enrollment is next. -/
  | year (schoolId : Ulid)
  /-- The student is not enrolled; the search for the roll number is next. -/
  | unenrolled (schoolId : Ulid)
  /-- The insert of a new enrollment is next. -/
  | checked (schoolId : Ulid)
  /-- The enrollment is read; its update is next, or the new cohort of a transfer. -/
  | selected (old : StudentEnrollment)
  /-- The new cohort is there; the end of the old enrollment is next. -/
  | placed (old : StudentEnrollment)
  /-- The audit row of that end is next. -/
  | ended (old : StudentEnrollment)
  /-- The insert of the successor is next. -/
  | moved (old : StudentEnrollment)
  /-- The last audit row is next. -/
  | written (entry : AuditEntry) (answer : StudentEnrollment)
  /-- The commit is next. -/
  | logged (answer : StudentEnrollment)
  | answered (cause : Option EnrollmentIndex) (r : Fallible StudentEnrollment)

/-- What a statement locks. -/
inductive EnrollmentLock
  | row (id : Ulid)
  | key (k : EnrollmentKey)
  deriving DecidableEq

abbrev EnrollmentWrite := Write SchoolDB EnrollmentLock

def insertEnrollment (e : StudentEnrollment) : EnrollmentWrite where
  locks := .row e.id :: e.keys.map .key
  run db := { db with enrollments := (db.enrollments.insert e).getD db.enrollments }

def updateEnrollment (old new : StudentEnrollment) : EnrollmentWrite where
  locks := .row old.id :: (old.keys ++ new.keys).map .key
  run db := { db with enrollments := db.enrollments.put new.touch }

def insertEnrollmentAudit (row : AuditLog) : EnrollmentWrite where
  locks := []
  run db := db.log row

/-! ### The system -/

/-- The database and where every request stands. -/
abbrev EnrollmentSys (ι : Type*) := Procs ι SchoolDB EnrollmentLock EnrollmentPc

namespace EnrollmentSys

variable {ι : Type*} [DecidableEq ι] (env : SchoolEnv) (req : ι → EnrollmentRequest)
  (s : EnrollmentSys ι) (i : ι)

def fail (e : ApiError) : EnrollmentSys ι := s.abort i (.answered none (.error e))

/-- A rule ends the request. -/
def refuse (k : EnrollmentIndex) (e : ApiError) : EnrollmentSys ι :=
  s.abort i (.answered (some k) (.error e))

/-- Another open transaction holds the lock. -/
def Held (l : EnrollmentLock) : Prop := s.store.Waits i ⟨[l], id⟩

instance (l : EnrollmentLock) : Decidable (s.Held i l) :=
  inferInstanceAs (Decidable (s.store.Waits i ⟨[l], id⟩))

/-- The index that the write of a row fails on: the row is free, and so is the first of its entries
that another row has, with those before it. -/
def runsInto (row : StudentEnrollment) : Option EnrollmentIndex :=
  if s.Held i (.row row.id) then none
  else
    match row.keys.find? fun k => s.Held i (.key k) ∨ KeyTaken (s.view i) row k with
    | none => none
    | some k => if s.Held i (.key k) then none else some k.index

/-- The flush of a row that was read. A row that did not change is not written; the row must
still have the version that was read. -/
def flush (old new : StudentEnrollment) (pc : EnrollmentPc) : EnrollmentSys ι :=
  if new = old then s.goto i pc
  else if varchar 20 new.rollNumber = false then s.fail i internalError
  else if ((s.view i).enrollments.get old.id).map StudentEnrollment.version ≠ some old.version then
    s.fail i internalError
  else
    match s.runsInto i new with
    | some k => s.refuse i k internalError
    | none => s.write i (updateEnrollment old new) pc

/-- The insert of a row, and what a violated index is answered with. -/
def insert (mapped : EnrollmentIndex → ApiError) (e : StudentEnrollment) (pc : EnrollmentPc) :
    EnrollmentSys ι :=
  if varchar 20 e.rollNumber = false then s.fail i internalError
  else if (s.view i).enrollments.insert e = none then s.fail i internalError
  else
    match s.runsInto i e with
    | some k => s.refuse i k (mapped k)
    | none =>
      -- The foreign keys are looked at once the row is in.
      if s.store.Waits i (insertEnrollment e) ∨ Enrollments.References (s.view i) e then
        s.write i (insertEnrollment e) pc
      else s.fail i internalError

/-- The insert of an audit row. -/
def log (entry : AuditEntry) (pc : EnrollmentPc) : EnrollmentSys ι :=
  if env.Admits (auditRow (req i).ctx entry) then
    s.write i (insertEnrollmentAudit (auditRow (req i).ctx entry)) pc
  else s.fail i internalError

/-- A row that was looked up. -/
def lookup {α : Type} (x : Option α) (e : ApiError) (pc : α → EnrollmentPc) : EnrollmentSys ι :=
  match x with
  | some a => s.goto i (pc a)
  | none => s.fail i e

/-- A row that must not be there. -/
def search (x : Option StudentEnrollment) (k : EnrollmentIndex) (e : ApiError)
    (pc : EnrollmentPc) : EnrollmentSys ι :=
  match x with
  | some _ => s.refuse i k e
  | none => s.goto i pc

/-- The next statement of a request to enroll a student. -/
def nextCreate (ctx : RequestContext) (data : EnrollmentCreate) (id : Ulid) : EnrollmentSys ι :=
  match s.pc i with
  | .start =>
    match ctx.schoolId with
    | none => s.fail i noSchool
    | some schoolId =>
      s.lookup i (getStudent (s.view i) schoolId data.studentId) Enrollments.studentNotFound
        fun _ => .student schoolId
  | .student schoolId =>
    s.lookup i (getCohort (s.view i) schoolId data.cohortId) Enrollments.cohortMissing
      fun _ => .cohort schoolId
  | .cohort schoolId =>
    s.lookup i (getYear (s.view i) schoolId data.academicYearId) Enrollments.yearMissing
      fun _ => .year schoolId
  | .year schoolId =>
    s.search i (getActiveForStudentYear (s.view i) ctx data.studentId data.academicYearId)
      .studentYear (Enrollments.alreadyEnrolled data.studentId data.academicYearId)
      (.unenrolled schoolId)
  | .unenrolled schoolId =>
    match data.rollNumber with
    | none => s.goto i (.checked schoolId)
    | some rollNumber =>
      if rollNumber = "" then s.goto i (.checked schoolId)
      else s.search i (getActiveRollInCohort (s.view i) ctx data.cohortId rollNumber) .cohortRoll
        (Enrollments.rollNumberTaken env data.cohortId rollNumber) (.checked schoolId)
  | .checked schoolId =>
    match ctx.organizationId with
    | none => s.fail i internalError
    | some organizationId =>
      let e := Enrollments.enrolled ctx schoolId organizationId data id
      s.insert i (fun _ => Enrollments.alreadyEnrolled data.studentId data.academicYearId) e
        (.written (Enrollments.createdEntry e) e)
  | _ => s

/-- The next statement of a request to change an enrollment. -/
def nextUpdate (ctx : RequestContext) (enrollmentId : Ulid) (data : EnrollmentUpdate) :
    EnrollmentSys ι :=
  match s.pc i with
  | .start =>
    match Enrollments.getOwned ctx (s.view i) enrollmentId with
    | .error e => s.fail i e
    | .ok old =>
      if old.version = data.version then s.goto i (.selected old) else s.fail i staleResourceError
  | .selected old =>
    if data.status = some none then s.fail i internalError
    else
      let new := Enrollments.applied ctx old data
      s.flush i old new
        (.written (Enrollments.updatedEntry old new) (flushed StudentEnrollment.touch old new))
  | _ => s

/-- The next statement of a request to transfer a student. -/
def nextTransfer (ctx : RequestContext) (enrollmentId : Ulid) (data : EnrollmentTransfer)
    (id : Ulid) : EnrollmentSys ι :=
  match s.pc i with
  | .start =>
    match Enrollments.getOwned ctx (s.view i) enrollmentId with
    | .error e => s.fail i e
    | .ok old =>
      if old.status = .active then s.goto i (.selected old)
      else s.fail i (Enrollments.notActive "transferred")
  | .selected old =>
    s.lookup i (getCohort (s.view i) old.schoolId data.newCohortId) Enrollments.cohortMissing
      fun _ => .placed old
  | .placed old => s.flush i old (Enrollments.ended ctx old data) (.ended old)
  | .ended old =>
    s.log env req i (Enrollments.endedEntry old (Enrollments.ended ctx old data)) (.moved old)
  | .moved old =>
    match ctx.organizationId with
    | none => s.fail i internalError
    | some organizationId =>
      let e := Enrollments.successor ctx old.schoolId organizationId old data id
      s.insert i (fun _ => internalError) e (.written (Enrollments.transferredEntry e) e)
  | _ => s

/-- The next statement of a request. -/
def step (s : EnrollmentSys ι) (i : ι) : EnrollmentSys ι :=
  match s.pc i with
  | .written entry answer => s.log env req i entry (.logged answer)
  | .logged answer => s.commit i (.answered none (.ok answer))
  | .answered _ _ => s
  | _ =>
    match (req i).op with
    | .create data id => s.nextCreate env i (req i).ctx data id
    | .update enrollmentId data => s.nextUpdate i (req i).ctx enrollmentId data
    | .transfer enrollmentId data id => s.nextTransfer env req i (req i).ctx enrollmentId data id
    | .delete _ _ => s

/-- No request has begun. -/
def init (db : SchoolDB) : EnrollmentSys ι := ⟨⟨db, []⟩, fun _ => .start⟩

end EnrollmentSys

/-! ### A request that runs alone -/

/-- The request taken as one step. -/
def EnrollmentRequest.handle (env : SchoolEnv) (db : SchoolDB) (q : EnrollmentRequest) :
    Fallible (StudentEnrollment × SchoolDB) :=
  match q.op with
  | .create data id => Enrollments.create env q.ctx db data id
  | .update enrollmentId data => Enrollments.update env q.ctx db enrollmentId data
  | .transfer enrollmentId data id => Enrollments.transfer env q.ctx db enrollmentId data id
  | .delete _ _ => .error internalError

section Alone

open Runs

variable {ι : Type*} [DecidableEq ι] {env : SchoolEnv} {req : ι → EnrollmentRequest} {i : ι}
  {pcs : ι → EnrollmentPc} {db : SchoolDB} {ws : List EnrollmentWrite} {pc pc' : EnrollmentPc}

/-- Statements of the one request lead to the state in which the request has come to what it comes
to as one step. -/
def EnrollmentFinishes (env : SchoolEnv) (req : ι → EnrollmentRequest) (i : ι)
    (pcs : ι → EnrollmentPc) (s : EnrollmentSys ι) (db : SchoolDB)
    (r : Fallible (StudentEnrollment × SchoolDB)) : Prop :=
  match r with
  | .ok (answer, db') => Repeats (EnrollmentSys.step env req) i s
      (solo pcs i db' [] (.answered none (.ok answer)))
  | .error e => ∃ cause, Repeats (EnrollmentSys.step env req) i s
      (solo pcs i db [] (.answered cause (.error e)))

lemma EnrollmentFinishes.next {s : EnrollmentSys ι} {r : Fallible (StudentEnrollment × SchoolDB)}
    (h : EnrollmentFinishes env req i pcs (s.step env req i) db r) :
    EnrollmentFinishes env req i pcs s db r := by
  unfold EnrollmentFinishes at h ⊢
  split at h
  · exact .next h
  · obtain ⟨cause, h⟩ := h
    exact ⟨cause, .next h⟩

lemma enrollmentFinishes_failed (cause : Option EnrollmentIndex) (e : ApiError) :
    EnrollmentFinishes env req i pcs (solo pcs i db [] (.answered cause (.error e))) db
      (.error e) := ⟨cause, Repeats.refl _⟩

variable {k : SchoolDB → Fallible (StudentEnrollment × SchoolDB)}

lemma finishes_lookup {α : Type} {x : Option α} {e : ApiError} {next : α → EnrollmentPc}
    {k : α → Fallible (StudentEnrollment × SchoolDB)}
    (h : ∀ a, x = some a → EnrollmentFinishes env req i pcs (solo pcs i db ws (next a)) db (k a)) :
    EnrollmentFinishes env req i pcs
      (EnrollmentSys.lookup (solo pcs i db ws pc) i x e next) db (found x e >>= k) := by
  cases x with
  | none =>
    simp only [EnrollmentSys.lookup, EnrollmentSys.fail, solo_abort, found, error_bind]
    exact enrollmentFinishes_failed _ _
  | some a =>
    simp only [EnrollmentSys.lookup, solo_goto, found, ok_bind]
    exact h a rfl

lemma finishes_search {x : Option StudentEnrollment} {rule : EnrollmentIndex} {e : ApiError}
    {k : Unit → Fallible (StudentEnrollment × SchoolDB)}
    (h : EnrollmentFinishes env req i pcs (solo pcs i db ws pc') db (k ())) :
    EnrollmentFinishes env req i pcs
      (EnrollmentSys.search (solo pcs i db ws pc) i x rule e pc') db
      (ensureAbsent x (fun _ => e) >>= k) := by
  cases x with
  | none =>
    simp only [EnrollmentSys.search, solo_goto, ensureAbsent, ok_bind]
    exact h
  | some a =>
    simp only [EnrollmentSys.search, EnrollmentSys.refuse, solo_abort, ensureAbsent, error_bind]
    exact enrollmentFinishes_failed _ _

lemma solo_runsInto (row : StudentEnrollment) :
    EnrollmentSys.runsInto (solo pcs i db ws pc) i row = violated (after ws db) row := by
  have hheld : ∀ l, ¬ EnrollmentSys.Held (solo pcs i db ws pc) i l := fun l => solo_not_waits _
  unfold EnrollmentSys.runsInto violated
  simp only [hheld, if_false, false_or, solo_view]
  cases row.keys.find? fun k => KeyTaken (after ws db) row k <;> rfl

lemma finishes_enrollmentFlush {old new : StudentEnrollment}
    (hold : (after ws db).enrollments.get old.id = some old)
    (h : ∀ ws' db', after ws' db = db' → Enrollments.save (after ws db) old new = .ok db' →
      EnrollmentFinishes env req i pcs (solo pcs i db ws' pc) db (k db')) :
    EnrollmentFinishes env req i pcs
      (EnrollmentSys.flush (solo pcs i db ws pc') i old new pc) db
      (Enrollments.save (after ws db) old new >>= k) := by
  unfold EnrollmentSys.flush
  by_cases hsame : new = old
  · have hsave : Enrollments.save (after ws db) old new = .ok (after ws db) := by
      simp [Enrollments.save, hsame, pure, Except.pure]
    rw [if_pos hsame, solo_goto, hsave, ok_bind]
    exact h ws _ rfl hsave
  rw [if_neg hsame]
  by_cases hlong : varchar 20 new.rollNumber = false
  · have hsave : Enrollments.save (after ws db) old new = .error internalError := by
      simp [Enrollments.save, hsame, ensure, hlong]
    rw [if_pos hlong, EnrollmentSys.fail, solo_abort, hsave, error_bind]
    exact enrollmentFinishes_failed _ _
  have hversion : ¬ (((solo pcs i db ws pc').view i).enrollments.get old.id).map
      StudentEnrollment.version ≠ some old.version := by
    rw [solo_view, hold]
    exact fun hne => hne rfl
  rw [if_neg hlong, if_neg hversion, solo_runsInto]
  cases hviolated : violated (after ws db) new with
  | some rule =>
    have hsave : Enrollments.save (after ws db) old new = .error internalError := by
      simp [Enrollments.save, hsame, ensure, hlong, hviolated, ensureAbsent]
    simp only [EnrollmentSys.refuse, solo_abort, hsave, error_bind]
    exact enrollmentFinishes_failed _ _
  | none =>
    have hsave : Enrollments.save (after ws db) old new = .ok { after ws db with
        enrollments := (after ws db).enrollments.put new.touch } := by
      simp [Enrollments.save, hsame, ensure, hlong, hviolated, ensureAbsent, pure, Except.pure]
    simp only [solo_write, hsave, ok_bind]
    exact h _ _ after_snoc hsave

lemma finishes_insert {mapped : EnrollmentIndex → ApiError} {e : StudentEnrollment}
    (h : ∀ ws' db', after ws' db = db' → Enrollments.insertRow (after ws db) mapped e = .ok db' →
      EnrollmentFinishes env req i pcs (solo pcs i db ws' pc) db (k db')) :
    EnrollmentFinishes env req i pcs
      (EnrollmentSys.insert (solo pcs i db ws pc') i mapped e pc) db
      (Enrollments.insertRow (after ws db) mapped e >>= k) := by
  unfold EnrollmentSys.insert
  by_cases hlong : varchar 20 e.rollNumber = false
  · have hinsert : Enrollments.insertRow (after ws db) mapped e = .error internalError := by
      simp [Enrollments.insertRow, ensure, hlong]
    rw [if_pos hlong, EnrollmentSys.fail, solo_abort, hinsert, error_bind]
    exact enrollmentFinishes_failed _ _
  rw [if_neg hlong, solo_view]
  cases hrow : (after ws db).enrollments.insert e with
  | none =>
    have hinsert : Enrollments.insertRow (after ws db) mapped e = .error internalError := by
      simp [Enrollments.insertRow, ensure, hlong, found, hrow]
    simp only [if_true, EnrollmentSys.fail, solo_abort, hinsert, error_bind]
    exact enrollmentFinishes_failed _ _
  | some enrollments =>
    rw [if_neg (Option.some_ne_none enrollments), solo_runsInto]
    cases hviolated : violated (after ws db) e with
    | some rule =>
      have hinsert : Enrollments.insertRow (after ws db) mapped e = .error (mapped rule) := by
        simp [Enrollments.insertRow, ensure, hlong, found, hrow, hviolated, ensureAbsent]
      simp only [EnrollmentSys.refuse, solo_abort, hinsert, error_bind]
      exact enrollmentFinishes_failed _ _
    | none =>
      have hnot : ¬ (solo pcs i db ws pc').store.Waits i (insertEnrollment e) := solo_not_waits _
      by_cases hreferences : Enrollments.References (after ws db) e
      · have hinsert : Enrollments.insertRow (after ws db) mapped e = .ok { after ws db with
            enrollments := enrollments } := by
          simp [Enrollments.insertRow, ensure, hlong, found, hrow, hviolated, ensureAbsent,
            hreferences, pure, Except.pure]
        simp only [hreferences, or_true, if_true, solo_write, hinsert, ok_bind]
        refine h _ _ ?_ hinsert
        rw [after_snoc, insertEnrollment]
        simp only [hrow, Option.getD_some]
      · have hinsert : Enrollments.insertRow (after ws db) mapped e = .error internalError := by
          simp [Enrollments.insertRow, ensure, hlong, found, hrow, hviolated, ensureAbsent,
            hreferences]
        simp only [hnot, hreferences, or_false, if_false, EnrollmentSys.fail, solo_abort, hinsert,
          error_bind]
        exact enrollmentFinishes_failed _ _

lemma finishes_enrollmentLog {entry : AuditEntry}
    (h : ∀ ws' db', after ws' db = db' → (after ws db).audit env (req i).ctx entry = .ok db' →
      EnrollmentFinishes env req i pcs (solo pcs i db ws' pc) db (k db')) :
    EnrollmentFinishes env req i pcs
      (EnrollmentSys.log env req (solo pcs i db ws pc') i entry pc) db
      ((after ws db).audit env (req i).ctx entry >>= k) := by
  unfold EnrollmentSys.log
  by_cases hadmits : env.Admits (auditRow (req i).ctx entry)
  · have haudit : (after ws db).audit env (req i).ctx entry =
        .ok ((after ws db).log (auditRow (req i).ctx entry)) := schoolAudit_ok.mpr ⟨hadmits, rfl⟩
    rw [if_pos hadmits, solo_write, haudit, ok_bind]
    exact h _ _ after_snoc haudit
  · have haudit : (after ws db).audit env (req i).ctx entry = .error internalError := by
      simp [SchoolDB.audit, ensure, hadmits]
    rw [if_neg hadmits, EnrollmentSys.fail, solo_abort, haudit, error_bind]
    exact enrollmentFinishes_failed _ _

lemma finishes_enrollmentWritten {entry : AuditEntry} {answer : StudentEnrollment} :
    EnrollmentFinishes env req i pcs (solo pcs i db ws (.written entry answer)) db
      ((after ws db).audit env (req i).ctx entry >>= fun db' => .ok (answer, db')) := by
  refine .next ?_
  simp only [EnrollmentSys.step, solo_pc]
  refine finishes_enrollmentLog fun ws' db' hafter _ => .next ?_
  simp only [EnrollmentSys.step, solo_pc, solo_commit]
  rw [hafter]
  exact Repeats.refl _

lemma finishes_inserted {mapped : EnrollmentIndex → ApiError} {e : StudentEnrollment}
    {entry : AuditEntry} : EnrollmentFinishes env req i pcs
      (EnrollmentSys.insert (solo pcs i db ws pc') i mapped e (.written entry e)) db
      (Enrollments.insertRow (after ws db) mapped e >>= fun db' =>
        db'.audit env (req i).ctx entry >>= fun db' => .ok (e, db')) := by
  refine finishes_insert fun ws' db' hafter _ => ?_
  subst hafter
  exact finishes_enrollmentWritten

lemma finishes_roll {ctx : RequestContext} {data : EnrollmentCreate} {schoolId : Ulid}
    {k : Unit → Fallible (StudentEnrollment × SchoolDB)}
    (h : EnrollmentFinishes env req i pcs (solo pcs i db ws (.checked schoolId)) db (k ())) :
    EnrollmentFinishes env req i pcs
      (match data.rollNumber with
        | none => (solo pcs i db ws pc).goto i (.checked schoolId)
        | some rollNumber =>
          if rollNumber = "" then (solo pcs i db ws pc).goto i (.checked schoolId)
          else EnrollmentSys.search (solo pcs i db ws pc) i
            (getActiveRollInCohort (after ws db) ctx data.cohortId rollNumber) .cohortRoll
            (Enrollments.rollNumberTaken env data.cohortId rollNumber) (.checked schoolId)) db
      (Enrollments.checkRoll env ctx (after ws db) data >>= k) := by
  unfold Enrollments.checkRoll
  cases data.rollNumber with
  | none =>
    simp only [solo_goto, pure_bind]
    exact h
  | some rollNumber =>
    by_cases hempty : rollNumber = ""
    · simp only [hempty, if_true, solo_goto, pure_bind]
      exact h
    · simp only [hempty, if_false]
      exact finishes_search h

lemma create_finishes (data : EnrollmentCreate) (id : Ulid) (h : (req i).op = .create data id) :
    EnrollmentFinishes env req i pcs (solo pcs i db [] .start) db
      (Enrollments.create env (req i).ctx db data id) := by
  simp only [Enrollments.create, Enrollments.check, bind_assoc, pure_bind]
  refine .next ?_
  simp only [EnrollmentSys.step, solo_pc, h, EnrollmentSys.nextCreate]
  cases (req i).ctx.schoolId with
  | none =>
    simp only [EnrollmentSys.fail, solo_abort, found, error_bind]
    exact enrollmentFinishes_failed _ _
  | some schoolId =>
    simp only [found, ok_bind, solo_view, after_nil]
    refine finishes_lookup fun _ _ => .next ?_
    simp only [EnrollmentSys.step, solo_pc, h, EnrollmentSys.nextCreate, solo_view, after_nil]
    refine finishes_lookup fun _ _ => .next ?_
    simp only [EnrollmentSys.step, solo_pc, h, EnrollmentSys.nextCreate, solo_view, after_nil]
    refine finishes_lookup fun _ _ => .next ?_
    simp only [EnrollmentSys.step, solo_pc, h, EnrollmentSys.nextCreate, solo_view, after_nil]
    refine finishes_search (.next ?_)
    simp only [EnrollmentSys.step, solo_pc, h, EnrollmentSys.nextCreate, solo_view, after_nil]
    refine finishes_roll (.next ?_)
    simp only [EnrollmentSys.step, solo_pc, h, EnrollmentSys.nextCreate]
    cases (req i).ctx.organizationId with
    | none =>
      simp only [EnrollmentSys.fail, solo_abort, error_bind]
      exact enrollmentFinishes_failed _ _
    | some organizationId =>
      simp only [ok_bind]
      exact finishes_inserted

lemma update_finishes (enrollmentId : Ulid) (data : EnrollmentUpdate)
    (h : (req i).op = .update enrollmentId data) :
    EnrollmentFinishes env req i pcs (solo pcs i db [] .start) db
      (Enrollments.update env (req i).ctx db enrollmentId data) := by
  simp only [Enrollments.update]
  refine .next ?_
  simp only [EnrollmentSys.step, solo_pc, h, EnrollmentSys.nextUpdate, solo_view, after_nil]
  cases howned : Enrollments.getOwned (req i).ctx db enrollmentId with
  | error e =>
    simp only [EnrollmentSys.fail, solo_abort, error_bind]
    exact enrollmentFinishes_failed _ _
  | ok old =>
    have hget : (after ([] : List EnrollmentWrite) db).enrollments.get old.id = some old :=
      Table.get_eq_some.mpr ⟨(enrollmentOwned_ok howned).2.1, rfl⟩
    simp only [ok_bind]
    by_cases hversion : old.version = data.version
    · simp only [hversion, if_true, ensure, ok_bind, solo_goto]
      refine .next ?_
      simp only [EnrollmentSys.step, solo_pc, h, EnrollmentSys.nextUpdate]
      by_cases hstatus : data.status = some none
      · simp only [hstatus, if_true, ne_eq, not_true_eq_false, if_false, EnrollmentSys.fail,
          solo_abort, error_bind]
        exact enrollmentFinishes_failed _ _
      · simp only [hstatus, if_false, ne_eq, not_false_eq_true, if_true, ok_bind]
        refine finishes_enrollmentFlush hget fun ws' db' hafter _ => ?_
        subst hafter
        exact finishes_enrollmentWritten
    · simp only [hversion, if_false, ensure, error_bind, EnrollmentSys.fail, solo_abort]
      exact enrollmentFinishes_failed _ _

lemma transfer_finishes (enrollmentId : Ulid) (data : EnrollmentTransfer) (id : Ulid)
    (h : (req i).op = .transfer enrollmentId data id) :
    EnrollmentFinishes env req i pcs (solo pcs i db [] .start) db
      (Enrollments.transfer env (req i).ctx db enrollmentId data id) := by
  simp only [Enrollments.transfer, Enrollments.transferable, bind_assoc, pure_bind]
  refine .next ?_
  simp only [EnrollmentSys.step, solo_pc, h, EnrollmentSys.nextTransfer, solo_view, after_nil]
  cases howned : Enrollments.getOwned (req i).ctx db enrollmentId with
  | error e =>
    simp only [EnrollmentSys.fail, solo_abort, error_bind]
    exact enrollmentFinishes_failed _ _
  | ok old =>
    have hget : (after ([] : List EnrollmentWrite) db).enrollments.get old.id = some old :=
      Table.get_eq_some.mpr ⟨(enrollmentOwned_ok howned).2.1, rfl⟩
    simp only [ok_bind]
    by_cases hactive : old.status = .active
    · simp only [hactive, if_true, ensure, ok_bind, solo_goto]
      refine .next ?_
      simp only [EnrollmentSys.step, solo_pc, h, EnrollmentSys.nextTransfer, solo_view, after_nil]
      refine finishes_lookup fun _ _ => .next ?_
      simp only [EnrollmentSys.step, solo_pc, h, EnrollmentSys.nextTransfer]
      refine finishes_enrollmentFlush hget fun ws' db' hafter _ => .next ?_
      subst hafter
      simp only [EnrollmentSys.step, solo_pc, h, EnrollmentSys.nextTransfer]
      refine finishes_enrollmentLog fun ws'' db'' hafter _ => .next ?_
      subst hafter
      simp only [EnrollmentSys.step, solo_pc, h, EnrollmentSys.nextTransfer]
      cases (req i).ctx.organizationId with
      | none =>
        simp only [EnrollmentSys.fail, solo_abort, found, error_bind]
        exact enrollmentFinishes_failed _ _
      | some organizationId =>
        simp only [found, ok_bind]
        exact finishes_inserted
    · simp only [hactive, if_false, ensure, error_bind, EnrollmentSys.fail, solo_abort]
      exact enrollmentFinishes_failed _ _

/-- **The two levels agree**: a request whose statements run alone leaves and answers what it does
when it is taken as one step. -/
theorem enrollment_alone (env : SchoolEnv) (req : ι → EnrollmentRequest) (i : ι)
    (pcs : ι → EnrollmentPc) (db : SchoolDB) :
    EnrollmentFinishes env req i pcs (solo pcs i db [] .start) db ((req i).handle env db) := by
  unfold EnrollmentRequest.handle
  cases h : (req i).op with
  | create data id => exact create_finishes data id h
  | update enrollmentId data => exact update_finishes enrollmentId data h
  | transfer enrollmentId data id => exact transfer_finishes enrollmentId data id h
  | delete enrollmentId version =>
    have hkeeps := (req i).keeps
    rw [h] at hkeeps
    exact absurd trivial hkeeps

end Alone

end SchoolOs
