import SchoolOs.Processes
import SchoolOs.PublishGate

/-!
Timetable requests, one SQL statement at a time: the row is read and checked, written under its
version, and its audit row goes with the commit.
-/

namespace SchoolOs

open ReadCommitted Procs

/-! ### Requests and where they stand -/

structure TimetableRequest where
  ctx : RequestContext
  op : TimetableOp

inductive TimetableAnswer
  | timetable (tt : Timetable)
  | publication (r : PublishResult)
  deriving DecidableEq

/-- Where a timetable request stands. A publish request remembers the timetable it replaces. -/
inductive TimetablePc
  | start
  /-- The draft is read; its conflicts are next. -/
  | selected (tt : Timetable)
  /-- There are conflicts; the end of the transaction is next. -/
  | opposed (r : PublishResult)
  /-- The search for the timetable published so far is next. -/
  | unopposed (tt : Timetable)
  /-- The update of the timetable published so far is next. -/
  | replacing (tt old : Timetable)
  /-- The audit row of that update is next. -/
  | replaced (tt old : Timetable) (entry : AuditEntry)
  /-- The update of the draft is next. -/
  | publishing (tt : Timetable) (old : Option Timetable)
  /-- Another update is next. -/
  | updating (tt : Timetable)
  /-- The last audit row is next. -/
  | written (publishes : Option (Timetable × Option Timetable)) (entry : AuditEntry)
      (answer : TimetableAnswer)
  /-- The commit is next. -/
  | logged (publishes : Option (Timetable × Option Timetable)) (answer : TimetableAnswer)
  | answered (r : Fallible TimetableAnswer)

/-! ### Statements -/

section Statements

variable (clk : Clock) (ctx : RequestContext) (db : SchoolDB)

/-- The checks on the row that the request names. -/
def TimetableOp.select : TimetableOp → Fallible Timetable
  | .create _ _ => .error internalError
  | .update timetableId data => do
    let tt ← Timetables.getOwned ctx db timetableId
    ensure (tt.status = .draft) (invalidRequestErrorWith "Only DRAFT timetables can be updated."
      "TIMETABLE_NOT_DRAFT" [])
    ensure (tt.version = data.version) staleResourceError
    return tt
  | .publish timetableId version => do
    let tt ← Timetables.getOwned ctx db timetableId
    ensure (tt.status = .draft) (invalidRequestErrorWith
      "Only DRAFT timetables can be published." "TIMETABLE_NOT_DRAFT" [])
    ensure (tt.version = version) staleResourceError
    return tt
  | .archive timetableId version => do
    let tt ← Timetables.getOwned ctx db timetableId
    ensure (tt.status ≠ .archived) (invalidRequestErrorWith
      "This timetable is already archived." "TIMETABLE_ALREADY_ARCHIVED" [])
    ensure (tt.version = version) staleResourceError
    return tt

/-- The row as a request of another kind than publish leaves it. -/
def TimetableOp.changed (tt : Timetable) : TimetableOp → Timetable
  | .update _ data => { tt with name := data.name.getD tt.name, updatedById := ctx.userId }
  | _ => Timetables.archived clk ctx tt

def TimetableOp.action : TimetableOp → String
  | .create _ _ => "TIMETABLE_CREATED"
  | .update _ _ => "TIMETABLE_UPDATED"
  | .publish _ _ => "TIMETABLE_PUBLISHED"
  | .archive _ _ => "TIMETABLE_ARCHIVED"

def TimetableOp.verb : TimetableOp → String
  | .create _ _ => "created"
  | .update _ _ => "updated"
  | .publish _ _ => "published"
  | .archive _ _ => "archived"

/-- The draft of a create request. -/
def draft (data : TimetableCreate) (id : Ulid) : Fallible Timetable := do
  let schoolId ← found ctx.schoolId noSchool
  let organizationId ← found ctx.organizationId internalError
  let tt : Timetable :=
    { id := id, schoolId := schoolId, organizationId := organizationId,
      academicYearId := data.academicYearId, name := data.name, status := .draft,
      publishedAt := none, archivedAt := none, createdById := ctx.userId, updatedById := none,
      version := 1 }
  return tt

def createEntry (env : SchoolEnv) (tt : Timetable) : AuditEntry :=
  { action := "TIMETABLE_CREATED", entityType := "timetable", entityId := some tt.id,
    summary := some ("Timetable " ++ env.repr tt.name ++ " created"),
    after := some (timetableSnapshot tt) }

def insertTimetable (tt : Timetable) : Write SchoolDB Ulid where
  locks := [tt.id]
  run db := { db with timetables := (db.timetables.insert tt).getD db.timetables }

def updateTimetable (old new : Timetable) : Write SchoolDB Ulid where
  locks := [old.id]
  run db := { db with timetables := db.timetables.put (flushed Timetable.touch old new) }

def insertSchoolAudit (row : AuditLog) : Write SchoolDB Ulid where
  locks := []
  run db := db.log row

end Statements

/-! ### The system -/

/-- The database and where every request stands. -/
abbrev TimetableSys (ι : Type*) := Procs ι SchoolDB Ulid TimetablePc

/-- A request runs its next statement. -/
structure TimetableTurn (ι : Type*) where
  request : ι
  clk : Clock

namespace TimetableSys

variable {ι : Type*} [DecidableEq ι] (env : SchoolEnv) (req : ι → TimetableRequest)
  (s : TimetableSys ι) (i : ι)

def fail (e : ApiError) : TimetableSys ι := s.abort i (.answered (.error e))

/-- The flush of a row that was read. A row that did not change is not written; the row must
still have the version that was read. -/
def flush (old new : Timetable) (pc : TimetablePc) : TimetableSys ι :=
  if bindable new.name = false then s.fail i internalError
  else if new = old then s.goto i pc
  else if ((s.view i).timetables.get old.id).map Timetable.version ≠ some old.version then
    s.fail i internalError
  else s.write i (updateTimetable old new) pc

/-- The insert of an audit row. -/
def log (entry : AuditEntry) (pc : TimetablePc) : TimetableSys ι :=
  if env.Admits (auditRow (req i).ctx entry) then
    s.write i (insertSchoolAudit (auditRow (req i).ctx entry)) pc
  else s.fail i internalError

/-- The insert of a new timetable. -/
def insertDraft (data : TimetableCreate) (id : Ulid) : TimetableSys ι :=
  match draft (req i).ctx data id with
  | .error e => s.fail i e
  | .ok tt =>
    match Timetables.insertRow (s.view i) tt with
    | .error e => s.fail i e
    | .ok _ => s.write i (insertTimetable tt) (.written none (createEntry env tt) (.timetable tt))

/-- The next statement of a request. -/
def next (clk : Clock) : TimetableSys ι :=
  match s.pc i with
  | .start =>
    match (req i).op with
    | .create data id => s.insertDraft env req i data id
    | .publish timetableId version =>
      match (TimetableOp.publish timetableId version).select (req i).ctx (s.view i) with
      | .error e => s.fail i e
      | .ok tt => s.goto i (.selected tt)
    | op =>
      match op.select (req i).ctx (s.view i) with
      | .error e => s.fail i e
      | .ok tt => s.goto i (.updating tt)
  | .selected tt =>
    match findConflicts env (s.view i) tt.id tt.schoolId with
    | [] => s.goto i (.unopposed tt)
    | conflicts => s.goto i (.opposed ⟨false, conflicts⟩)
  | .opposed r => s.commit i (.answered (.ok (.publication r)))
  | .unopposed tt =>
    match getPublishedTimetableForYear (s.view i) tt.schoolId tt.academicYearId tt.id with
    | none => s.goto i (.publishing tt none)
    | some old => s.goto i (.replacing tt old)
  | .replacing tt old =>
    let new := Timetables.archived clk (req i).ctx old
    s.flush i old new (.replaced tt old (Timetables.replacedEntry env tt old new))
  | .replaced tt old entry => s.log env req i entry (.publishing tt (some old))
  | .publishing tt old =>
    let new := Timetables.published clk (req i).ctx tt
    s.flush i tt new (.written (some (tt, old))
      (Timetables.changedEntry env "TIMETABLE_PUBLISHED" "published" tt new)
      (.publication ⟨true, []⟩))
  | .updating tt =>
    let new := (req i).op.changed clk (req i).ctx tt
    s.flush i tt new (.written none
      (Timetables.changedEntry env (req i).op.action (req i).op.verb tt new)
      (.timetable (flushed Timetable.touch tt new)))
  | .written publishes entry answer => s.log env req i entry (.logged publishes answer)
  | .logged _ answer => s.commit i (.answered (.ok answer))
  | .answered _ => s

def step (s : TimetableSys ι) (t : TimetableTurn ι) : TimetableSys ι :=
  s.next env req t.request t.clk

/-- No request has begun. -/
def init (db : SchoolDB) : TimetableSys ι := ⟨⟨db, []⟩, fun _ => .start⟩

end TimetableSys

/-! ### A request that runs alone -/

section Alone

open Runs

variable {ι : Type*} [DecidableEq ι] {env : SchoolEnv} {req : ι → TimetableRequest} {i : ι}
  {clk : Clock} {pcs : ι → TimetablePc} {db : SchoolDB} {ws : List (Write SchoolDB Ulid)}

/-- Statements of the one request, all at one time, lead to the state in which the request has
come to what it comes to as one step. -/
def TimetableFinishes (env : SchoolEnv) (req : ι → TimetableRequest) (i : ι) (clk : Clock)
    (pcs : ι → TimetablePc) (s : TimetableSys ι) (db : SchoolDB)
    (r : Fallible (TimetableAnswer × SchoolDB)) : Prop :=
  match r with
  | .ok (answer, db') => Repeats (TimetableSys.step env req) ⟨i, clk⟩ s
      (solo pcs i db' [] (.answered (.ok answer)))
  | .error e => Repeats (TimetableSys.step env req) ⟨i, clk⟩ s
      (solo pcs i db [] (.answered (.error e)))

lemma TimetableFinishes.next {s : TimetableSys ι} {r : Fallible (TimetableAnswer × SchoolDB)}
    (h : TimetableFinishes env req i clk pcs (s.next env req i clk) db r) :
    TimetableFinishes env req i clk pcs s db r := by
  unfold TimetableFinishes at h ⊢
  split at h
  · exact .next h
  · exact .next h

lemma timetableFinishes_failed (e : ApiError) : TimetableFinishes env req i clk pcs
    (solo pcs i db [] (.answered (.error e))) db (.error e) := Repeats.refl _

lemma finishes_flush {old new : Timetable} {pc pc' : TimetablePc}
    {k : SchoolDB → Fallible (TimetableAnswer × SchoolDB)}
    (hold : (after ws db).timetables.get old.id = some old)
    (h : ∀ ws' db', after ws' db = db' → Timetables.save (after ws db) old new = .ok db' →
      TimetableFinishes env req i clk pcs (solo pcs i db ws' pc) db (k db')) :
    TimetableFinishes env req i clk pcs
      (TimetableSys.flush (solo pcs i db ws pc') i old new pc) db
      (Timetables.save (after ws db) old new >>= k) := by
  unfold TimetableSys.flush
  by_cases hbind : bindable new.name = false
  · -- A name that cannot be bound fails the flush.
    have hsave : Timetables.save (after ws db) old new = .error internalError := by
      simp [Timetables.save, ensure, hbind]
    rw [if_pos hbind, TimetableSys.fail, solo_abort, hsave, error_bind]
    exact timetableFinishes_failed _
  have hsave : Timetables.save (after ws db) old new = .ok { after ws db with
      timetables := (after ws db).timetables.put (flushed Timetable.touch old new) } := by
    simp [Timetables.save, ensure, hbind, pure, Except.pure]
  rw [if_neg hbind, hsave, ok_bind]
  by_cases hsame : new = old
  · -- Nothing has changed, so nothing is written.
    rw [if_pos hsame, solo_goto]
    refine h ws _ ?_ hsave
    have hput : (after ws db).timetables.put old = (after ws db).timetables :=
      Table.put_self (Table.get_eq_some.mp hold).1
    rw [flushed, if_pos hsame, hput]
  · have hversion : ¬ (((solo pcs i db ws pc').view i).timetables.get old.id).map
        Timetable.version ≠ some old.version := by
      rw [solo_view, hold]
      exact fun hne => hne rfl
    rw [if_neg hsame, if_neg hversion, solo_write]
    exact h _ _ after_snoc hsave

lemma finishes_log {entry : AuditEntry} {pc pc' : TimetablePc}
    {k : SchoolDB → Fallible (TimetableAnswer × SchoolDB)}
    (h : ∀ ws' db', after ws' db = db' → (after ws db).audit env (req i).ctx entry = .ok db' →
      TimetableFinishes env req i clk pcs (solo pcs i db ws' pc) db (k db')) :
    TimetableFinishes env req i clk pcs
      (TimetableSys.log env req (solo pcs i db ws pc') i entry pc) db
      ((after ws db).audit env (req i).ctx entry >>= k) := by
  unfold TimetableSys.log
  by_cases hadmits : env.Admits (auditRow (req i).ctx entry)
  · have haudit : (after ws db).audit env (req i).ctx entry =
        .ok ((after ws db).log (auditRow (req i).ctx entry)) := schoolAudit_ok.mpr ⟨hadmits, rfl⟩
    rw [if_pos hadmits, solo_write, haudit, ok_bind]
    exact h _ _ after_snoc haudit
  · have haudit : (after ws db).audit env (req i).ctx entry = .error internalError := by
      simp [SchoolDB.audit, ensure, hadmits]
    rw [if_neg hadmits, TimetableSys.fail, solo_abort, haudit, error_bind]
    exact timetableFinishes_failed _

lemma finishes_written {publishes : Option (Timetable × Option Timetable)} {entry : AuditEntry}
    {answer : TimetableAnswer} :
    TimetableFinishes env req i clk pcs (solo pcs i db ws (.written publishes entry answer)) db
      ((after ws db).audit env (req i).ctx entry >>= fun db' => .ok (answer, db')) := by
  refine .next ?_
  simp only [TimetableSys.next, solo_pc]
  refine finishes_log fun ws' db' hafter _ => .next ?_
  simp only [TimetableSys.next, solo_pc, solo_commit]
  rw [hafter]
  exact Repeats.refl _

/-- The request taken as one step. -/
def TimetableRequest.handle (env : SchoolEnv) (clk : Clock) (db : SchoolDB) (q : TimetableRequest) :
    Fallible (TimetableAnswer × SchoolDB) :=
  match q.op with
  | .create data id => do
    let (tt, db) ← Timetables.create env q.ctx db data id
    return (.timetable tt, db)
  | .update timetableId data => do
    let (tt, db) ← Timetables.update env q.ctx db timetableId data
    return (.timetable tt, db)
  | .publish timetableId version => do
    let (r, db) ← Timetables.publish env clk q.ctx db timetableId version
    return (.publication r, db)
  | .archive timetableId version => do
    let (tt, db) ← Timetables.archive env clk q.ctx db timetableId version
    return (.timetable tt, db)

lemma timetableOwned_ok {ctx : RequestContext} {timetableId : Ulid} {tt : Timetable}
    (h : Timetables.getOwned ctx db timetableId = .ok tt) :
    db.timetables.get tt.id = some tt ∧ tt.id = timetableId := by
  obtain ⟨_, _, hget⟩ := bind_ok.mp h
  have hrow := (Option.filter_eq_some_iff.mp (found_ok.mp hget)).1
  have hid := (Table.get_eq_some.mp hrow).2
  exact ⟨hid.symm ▸ hrow, hid⟩

lemma select_ok {ctx : RequestContext} {op : TimetableOp} {tt : Timetable}
    (h : op.select ctx db = .ok tt) : db.timetables.get tt.id = some tt ∧
      ∀ timetableId version, op = .publish timetableId version → tt.id = timetableId := by
  cases op with
  | create data id => cases h
  | update timetableId data | archive timetableId version =>
    obtain ⟨tt', htt, h⟩ := bind_ok.mp h
    obtain ⟨_, _, h⟩ := bind_ok.mp h
    obtain ⟨_, _, h⟩ := bind_ok.mp h
    obtain rfl := pure_ok.mp h
    exact ⟨(timetableOwned_ok htt).1, nofun⟩
  | publish timetableId version =>
    obtain ⟨tt', htt, h⟩ := bind_ok.mp h
    obtain ⟨_, _, h⟩ := bind_ok.mp h
    obtain ⟨_, _, h⟩ := bind_ok.mp h
    obtain rfl := pure_ok.mp h
    refine ⟨(timetableOwned_ok htt).1, fun timetableId' version' heq => ?_⟩
    obtain ⟨rfl, _⟩ := TimetableOp.publish.inj heq
    exact (timetableOwned_ok htt).2

/-! The services, cut at their statements. -/

lemma create_eq {ctx : RequestContext} (data : TimetableCreate) (id : Ulid) :
    Timetables.create env ctx db data id = draft ctx data id >>= fun tt =>
      Timetables.insertRow db tt >>= fun db =>
        db.audit env ctx (createEntry env tt) >>= fun db => .ok (tt, db) := by
  unfold Timetables.create draft
  cases ctx.schoolId with
  | none => rfl
  | some schoolId => cases ctx.organizationId <;> rfl

lemma update_eq {ctx : RequestContext} (clk : Clock) (timetableId : Ulid) (data : TimetableUpdate) :
    Timetables.update env ctx db timetableId data =
      (TimetableOp.update timetableId data).select ctx db >>= fun tt =>
        let new := (TimetableOp.update timetableId data).changed clk ctx tt
        Timetables.save db tt new >>= fun db =>
          db.audit env ctx (Timetables.changedEntry env "TIMETABLE_UPDATED" "updated" tt new) >>=
            fun db =>
            .ok (flushed Timetable.touch tt new, db) := by
  simp only [Timetables.update, TimetableOp.select, bind_assoc, pure_bind]
  rfl

lemma archive_eq {ctx : RequestContext} (timetableId : Ulid) (version : ℕ) :
    Timetables.archive env clk ctx db timetableId version =
      (TimetableOp.archive timetableId version).select ctx db >>= fun tt =>
        let new := (TimetableOp.archive timetableId version).changed clk ctx tt
        Timetables.save db tt new >>= fun db =>
          db.audit env ctx (Timetables.changedEntry env "TIMETABLE_ARCHIVED" "archived" tt new) >>=
            fun db =>
            .ok (flushed Timetable.touch tt new, db) := by
  simp only [Timetables.archive, TimetableOp.select, bind_assoc, pure_bind]
  rfl

lemma publish_eq {ctx : RequestContext} (timetableId : Ulid) (version : ℕ) :
    Timetables.publish env clk ctx db timetableId version =
      (TimetableOp.publish timetableId version).select ctx db >>= fun tt =>
        if findConflicts env db timetableId tt.schoolId ≠ [] then
          .ok (⟨false, findConflicts env db timetableId tt.schoolId⟩, db)
        else Timetables.replacePublished env clk ctx db tt
            (getPublishedTimetableForYear db tt.schoolId tt.academicYearId tt.id) >>= fun db =>
          Timetables.save db tt (Timetables.published clk ctx tt) >>= fun db =>
            db.audit env ctx (Timetables.changedEntry env "TIMETABLE_PUBLISHED" "published" tt
              (Timetables.published clk ctx tt)) >>= fun db => .ok (⟨true, []⟩, db) := by
  simp only [Timetables.publish_eq, TimetableOp.select, bind_assoc, pure_bind]
  rfl

lemma finishes_create (data : TimetableCreate) (id : Ulid) (h : (req i).op = .create data id) :
    TimetableFinishes env req i clk pcs (solo pcs i db [] .start) db
      ((req i).handle env clk db) := by
  refine .next ?_
  simp only [TimetableSys.next, solo_pc, h, TimetableSys.insertDraft, solo_view, after_nil,
    TimetableRequest.handle, create_eq, bind_assoc]
  cases draft (req i).ctx data id with
  | error e =>
    simp only [TimetableSys.fail, solo_abort, error_bind]
    exact timetableFinishes_failed _
  | ok tt =>
    simp only [ok_bind]
    cases hinsert : Timetables.insertRow db tt with
    | error e =>
      simp only [TimetableSys.fail, solo_abort, error_bind]
      exact timetableFinishes_failed _
    | ok db' =>
      have hrun : after [insertTimetable tt] db = db' := by
        obtain ⟨timetables, hfound, hinsert⟩ := bind_ok.mp hinsert
        obtain ⟨_, _, hinsert⟩ := bind_ok.mp hinsert
        obtain rfl := pure_ok.mp hinsert
        simp [after, insertTimetable, found_ok.mp hfound]
      simp only [ok_bind, solo_write, List.nil_append]
      rw [← hrun]
      exact finishes_written

lemma finishes_updating (env : SchoolEnv) (req : ι → TimetableRequest) (i : ι) (clk : Clock)
    (pcs : ι → TimetablePc) {tt : Timetable} (hget : db.timetables.get tt.id = some tt) :
    TimetableFinishes env req i clk pcs (solo pcs i db [] (.updating tt)) db
      (Timetables.save db tt ((req i).op.changed clk (req i).ctx tt) >>= fun db =>
        db.audit env (req i).ctx (Timetables.changedEntry env (req i).op.action (req i).op.verb tt
          ((req i).op.changed clk (req i).ctx tt)) >>= fun db =>
            .ok (.timetable (flushed Timetable.touch tt ((req i).op.changed clk (req i).ctx tt)),
              db)) := by
  refine .next ?_
  simp only [TimetableSys.next, solo_pc]
  have hnow : (after ([] : List (Write SchoolDB Ulid)) db).timetables.get tt.id = some tt := hget
  refine finishes_flush hnow ?_
  rintro ws' db' rfl _
  exact finishes_written

lemma finishes_publishing {tt : Timetable} {old : Option Timetable}
    (hget : (after ws db).timetables.get tt.id = some tt) :
    TimetableFinishes env req i clk pcs (solo pcs i db ws (.publishing tt old)) db
      (Timetables.save (after ws db) tt (Timetables.published clk (req i).ctx tt) >>= fun db =>
        db.audit env (req i).ctx (Timetables.changedEntry env "TIMETABLE_PUBLISHED" "published" tt
          (Timetables.published clk (req i).ctx tt)) >>= fun db =>
            .ok (.publication ⟨true, []⟩, db)) := by
  refine .next ?_
  simp only [TimetableSys.next, solo_pc]
  refine finishes_flush hget ?_
  rintro ws' db' rfl _
  exact finishes_written

lemma save_get {old new tt : Timetable} {db' : SchoolDB} (hid : new.id = old.id)
    (hne : tt.id ≠ old.id) (hget : db.timetables.get tt.id = some tt)
    (h : Timetables.save db old new = .ok db') : db'.timetables.get tt.id = some tt := by
  obtain ⟨_, _, h⟩ := bind_ok.mp h
  obtain rfl := pure_ok.mp h
  have hkey : (flushed Timetable.touch old new).id = old.id := by
    unfold flushed
    split
    · rfl
    · exact hid
  rw [Table.get_put, hkey, if_neg hne, hget]

lemma published_mem {schoolId academicYearId excludeId : Ulid} {old : Timetable}
    (h : getPublishedTimetableForYear db schoolId academicYearId excludeId = some old) :
    old ∈ db.timetables ∧ old.schoolId = schoolId ∧ old.academicYearId = academicYearId ∧
      old.status = .published ∧ old.id ≠ excludeId := by
  have hmem := List.mem_of_find?_eq_some h
  have hrow := List.find?_some h
  exact ⟨hmem, by simpa using hrow⟩

/-- The timetable published so far is archived, and then the draft published. -/
lemma finishes_unopposed {tt : Timetable} (hget : db.timetables.get tt.id = some tt) :
    TimetableFinishes env req i clk pcs (solo pcs i db [] (.unopposed tt)) db
      (Timetables.replacePublished env clk (req i).ctx db tt
          (getPublishedTimetableForYear db tt.schoolId tt.academicYearId tt.id) >>= fun db =>
        Timetables.save db tt (Timetables.published clk (req i).ctx tt) >>= fun db =>
          db.audit env (req i).ctx (Timetables.changedEntry env "TIMETABLE_PUBLISHED" "published" tt
            (Timetables.published clk (req i).ctx tt)) >>= fun db =>
              .ok (.publication ⟨true, []⟩, db)) := by
  refine .next ?_
  simp only [TimetableSys.next, solo_pc, solo_view, after_nil]
  cases hexisting : getPublishedTimetableForYear db tt.schoolId tt.academicYearId tt.id with
  | none =>
    -- No timetable of the year is published.
    simp only [solo_goto, Timetables.replacePublished, pure_bind]
    have hnow : (after ([] : List (Write SchoolDB Ulid)) db).timetables.get tt.id = some tt := hget
    exact finishes_publishing hnow
  | some old =>
    -- One is: it is archived and logged, and the draft is still what was read.
    obtain ⟨hmem, _, _, _, hne⟩ := published_mem hexisting
    have hold : db.timetables.get old.id = some old := Table.get_eq_some.mpr ⟨hmem, rfl⟩
    simp only [solo_goto, Timetables.replacePublished, bind_assoc]
    refine .next ?_
    simp only [TimetableSys.next, solo_pc]
    have hnow : (after ([] : List (Write SchoolDB Ulid)) db).timetables.get old.id = some old :=
      hold
    refine finishes_flush hnow fun ws' db' hafter hsave => .next ?_
    simp only [TimetableSys.next, solo_pc]
    subst hafter
    refine finishes_log fun ws'' db'' hafter' haudit => ?_
    subst hafter'
    refine finishes_publishing ?_
    have hid : (Timetables.archived clk (req i).ctx old).id = old.id := rfl
    have hsaved := save_get hid hne.symm hget hsave
    obtain ⟨_, hlog⟩ := schoolAudit_ok.mp haudit
    rw [← hlog]
    exact hsaved

/-- **The two levels agree**: a request whose statements run alone leaves and answers what it does
when it is taken as one step. -/
theorem timetable_alone (env : SchoolEnv) (req : ι → TimetableRequest) (i : ι) (clk : Clock)
    (pcs : ι → TimetablePc) (db : SchoolDB) :
    TimetableFinishes env req i clk pcs (solo pcs i db [] .start) db
      ((req i).handle env clk db) := by
  cases hop : (req i).op with
  | create data id => exact finishes_create data id hop
  | update timetableId data =>
    refine .next ?_
    simp only [TimetableSys.next, solo_pc, hop, solo_view, after_nil, TimetableRequest.handle,
      update_eq clk, bind_assoc]
    cases hselect : (TimetableOp.update timetableId data).select (req i).ctx db with
    | error e =>
      simp only [TimetableSys.fail, solo_abort, error_bind]
      exact timetableFinishes_failed _
    | ok tt =>
      have hfinish := finishes_updating env req i clk pcs (select_ok hselect).1
      rw [hop] at hfinish
      simp only [solo_goto, ok_bind]
      exact hfinish
  | archive timetableId version =>
    refine .next ?_
    simp only [TimetableSys.next, solo_pc, hop, solo_view, after_nil, TimetableRequest.handle,
      archive_eq, bind_assoc]
    cases hselect : (TimetableOp.archive timetableId version).select (req i).ctx db with
    | error e =>
      simp only [TimetableSys.fail, solo_abort, error_bind]
      exact timetableFinishes_failed _
    | ok tt =>
      have hfinish := finishes_updating env req i clk pcs (select_ok hselect).1
      rw [hop] at hfinish
      simp only [solo_goto, ok_bind]
      exact hfinish
  | publish timetableId version =>
    refine .next ?_
    simp only [TimetableSys.next, solo_pc, hop, solo_view, after_nil, TimetableRequest.handle,
      publish_eq, bind_assoc]
    cases hselect : (TimetableOp.publish timetableId version).select (req i).ctx db with
    | error e =>
      simp only [TimetableSys.fail, solo_abort, error_bind]
      exact timetableFinishes_failed _
    | ok tt =>
      simp only [solo_goto, ok_bind]
      refine .next ?_
      simp only [TimetableSys.next, solo_pc, solo_view, after_nil]
      obtain rfl := (select_ok hselect).2 _ _ rfl
      cases hconflicts : findConflicts env db tt.id tt.schoolId with
      | nil =>
        -- No conflict: the publication.
        simp only [ne_eq, not_true_eq_false, if_false, solo_goto, bind_assoc, ok_bind]
        exact finishes_unopposed (select_ok hselect).1
      | cons conflict conflicts =>
        -- Conflicts are answered, and nothing is written.
        simp only [ne_eq, reduceCtorEq, not_false_eq_true, if_true, ok_bind, solo_goto]
        refine .next ?_
        simp only [TimetableSys.next, solo_pc, solo_commit, after_nil]
        exact Repeats.refl _

end Alone

end SchoolOs
