import Mathlib.Data.Fintype.Basic
import SchoolOs.MarkingStatements

/-!
The records of a SUBMITTED session. A request that marks records reads the status of the session in
one statement and writes the records in later ones, and never touches the session: it changes the
records of a submitted session when the submit commits in between, and only then.
-/

namespace SchoolOs

open ReadCommitted Procs Runs

variable {ι : Type*} [DecidableEq ι] {env : SchoolEnv} {req : ι → MarkingRequest}

/-! ### Frozen records -/

/-- The records of a session. -/
def recordsOf (db : SchoolDB) (sessionId : Ulid) : List AttendanceMark :=
  db.attendanceRecords.rows.filter (·.sessionId = sessionId)

/-- The records of the SUBMITTED sessions are the same in both states. -/
def Frozen (db db' : SchoolDB) : Prop :=
  ∀ session ∈ db.attendanceSessions, session.status = .submitted →
    recordsOf db' session.id = recordsOf db session.id

instance (db db' : SchoolDB) : Decidable (Frozen db db') :=
  inferInstanceAs (Decidable (∀ session ∈ db.attendanceSessions, _ → _ = _))

lemma frozen_refl (db : SchoolDB) : Frozen db db := fun _ _ _ => rfl

/-- The session is not SUBMITTED. -/
def SessionOpen (db : SchoolDB) (sessionId : Ulid) : Prop :=
  ∀ session ∈ db.attendanceSessions, session.id = sessionId → session.status ≠ .submitted

/-- The session of a record. -/
def sessionOf (db : SchoolDB) (recordId : Ulid) : Option Ulid :=
  (db.attendanceRecords.get recordId).map AttendanceMark.sessionId

/-! ### What a request writes -/

namespace MarkingOp

/-- The session that a request submits. -/
def submits : MarkingOp → Option Ulid
  | .submitSession sessionId _ _ => some sessionId
  | _ => none

/-- The session that a request submits or amends. -/
def changes : MarkingOp → Option Ulid
  | .submitSession sessionId _ _ | .amendSession sessionId _ => some sessionId
  | _ => none

/-- The session whose records a request marks. -/
def marks (db : SchoolDB) : MarkingOp → Option Ulid
  | .updateRecord recordId _ => sessionOf db recordId
  | .bulkUpdateRecords sessionId _ _ => some sessionId
  | _ => none

/-- The session whose records a request marks is not SUBMITTED. -/
def Cleared (db : SchoolDB) (op : MarkingOp) : Prop :=
  op.changes = none → ∃ sessionId ∈ op.marks db, SessionOpen db sessionId

/-- The statements of a request that write. -/
inductive Writes : MarkingOp → MarkingStatement → Prop
  | submit {old new : AttendanceSession} {version : ℕ} {eventId : Ulid} (same : new.id = old.id) :
      Writes (.submitSession old.id version eventId) (updateSession old new)
  | event {sessionId : Ulid} {version : ℕ} {eventId : Ulid} {ctx : RequestContext} {e : NewEvent} :
      Writes (.submitSession sessionId version eventId) (insertEvent ctx e)
  | amend {old new : AttendanceSession} {version : ℕ} (same : new.id = old.id)
      (status : new.status = .amended) :
      Writes (.amendSession old.id version) (updateSession old new)
  | mark {old new : AttendanceMark} {data : AttendanceRecordUpdate} :
      Writes (.updateRecord old.id data) (updateMark old new)
  | upsert {row : AttendanceMark} {records : List BulkRecordItem} {recordIds : ℕ → Ulid} :
      Writes (.bulkUpdateRecords row.sessionId records recordIds) (upsertMark row)
  | audit {op : MarkingOp} {env : SchoolEnv} {ctx : RequestContext} {entry : AuditEntry} :
      Writes op (insertMarkingAudit env ctx entry)

/-- What the writes of a request do to the records: those that are there stay in their session, and
only the session that the request marks has other ones. -/
structure Moves (op : MarkingOp) (db db' : SchoolDB) : Prop where
  stays : ∀ recordId sessionId, sessionOf db recordId = some sessionId →
    sessionOf db' recordId = some sessionId
  marks : op.marks db' = op.marks db
  others : ∀ sessionId, op.marks db ≠ some sessionId →
    recordsOf db' sessionId = recordsOf db sessionId

section Moves

variable {op : MarkingOp} {db db' db'' : SchoolDB}

lemma moves_of_records (h : db'.attendanceRecords = db.attendanceRecords) : op.Moves db db' where
  stays := by
    intro recordId sessionId hof
    rwa [sessionOf, h]
  marks := by
    cases op with
    | updateRecord recordId data => simp only [marks, sessionOf, h]
    | submitSession | amendSession | bulkUpdateRecords => rfl
  others := by
    intro sessionId _
    rw [recordsOf, h, recordsOf]

lemma Moves.trans (h : op.Moves db db') (h' : op.Moves db' db'') : op.Moves db db'' where
  stays recordId sessionId hof := h'.stays recordId sessionId (h.stays recordId sessionId hof)
  marks := h'.marks.trans h.marks
  others sessionId hne := by
    rw [h'.others sessionId (h.marks ▸ hne), h.others sessionId hne]

lemma sessionOf_put {old row : AttendanceMark} (hold : db.attendanceRecords.get row.id = some old)
    (hsession : row.sessionId = old.sessionId) (recordId : Ulid) :
    sessionOf { db with attendanceRecords := db.attendanceRecords.put row } recordId =
      sessionOf db recordId := by
  refine Table.map_get_put AttendanceMark.sessionId (fun old' hold' => ?_) recordId
  obtain rfl := Option.some.inj (hold.symm.trans hold')
  exact hsession

lemma moves_put {old row : AttendanceMark} (hold : db.attendanceRecords.get row.id = some old)
    (hsession : row.sessionId = old.sessionId) (hmarks : op.marks db = some old.sessionId) :
    op.Moves db { db with attendanceRecords := db.attendanceRecords.put row } where
  stays recordId sessionId hof := (sessionOf_put hold hsession recordId).trans hof
  marks := by
    cases op with
    | updateRecord recordId data => exact sessionOf_put hold hsession recordId
    | submitSession | amendSession | bulkUpdateRecords => rfl
  others := by
    intro sessionId hne
    have hother : old.sessionId ≠ sessionId := fun heq => hne (heq ▸ hmarks)
    refine Table.filter_put (fun old' hold' => ?_) (decide_eq_false (hsession ▸ hother))
    obtain rfl := Option.some.inj (hold.symm.trans hold')
    exact decide_eq_false hother

lemma upsert_moves {row : AttendanceMark} (h : upsertRecord db row = .ok db')
    (hmarks : op.marks db = some row.sessionId) : op.Moves db db' := by
  unfold upsertRecord at h
  split at h
  · obtain ⟨_, _, h⟩ := bind_ok.mp h
    obtain ⟨records, hinsert, h⟩ := bind_ok.mp h
    obtain ⟨_, _, h⟩ := bind_ok.mp h
    obtain ⟨_, _, h⟩ := bind_ok.mp h
    obtain rfl := pure_ok.mp h
    have hkept : ∀ recordId sessionId, sessionOf db recordId = some sessionId →
        sessionOf { db with attendanceRecords := records } recordId = some sessionId := by
      intro recordId sessionId hof
      obtain ⟨r, hr, rfl⟩ := Option.map_eq_some_iff.mp hof
      simp only [sessionOf, Table.get_insert_of_get (found_ok.mp hinsert) hr, Option.map_some]
    refine ⟨hkept, ?_, fun sessionId hne => ?_⟩
    · cases op with
      | updateRecord recordId data => exact (hkept recordId _ hmarks).trans hmarks.symm
      | submitSession | amendSession | bulkUpdateRecords => rfl
    · exact Table.filter_insert (found_ok.mp hinsert)
        (decide_eq_false fun heq => hne (heq ▸ hmarks))
  · next old hfind =>
    obtain ⟨_, _, h⟩ := bind_ok.mp h
    obtain rfl := pure_ok.mp h
    unfold getRecordFor at hfind
    have hpick := List.find?_some hfind
    have hsession := (of_decide_eq_true hpick).1
    have hold := Table.get_eq_some.mpr ⟨List.mem_of_find?_eq_some hfind, rfl⟩
    exact moves_put hold rfl (hsession ▸ hmarks)

end Moves

section Writes

variable {op : MarkingOp} {t : MarkingStatement} {ws : List MarkingWrite} {db : SchoolDB}

lemma saveSession_records {db' : SchoolDB} {old new : AttendanceSession}
    (h : saveSession db old new = .ok db') :
    db' = db ∨ db' = { db with attendanceSessions := db.attendanceSessions.put new.touch } := by
  unfold saveSession at h
  split at h
  · exact .inl (pure_ok.mp h).symm
  · obtain ⟨_, _, h⟩ := bind_ok.mp h
    exact .inr (pure_ok.mp h).symm

lemma updateSession_run {db' : SchoolDB} {old new : AttendanceSession}
    (h : (updateSession old new).run db = .ok db') :
    db' = db ∨ db' = { db with attendanceSessions := db.attendanceSessions.put new.touch } := by
  obtain ⟨_, _, h⟩ := bind_ok.mp h
  exact saveSession_records h

lemma insertEvent_run {db' : SchoolDB} {ctx : RequestContext} {e : NewEvent}
    (h : (insertEvent ctx e).run db = .ok db') :
    ∃ outboxEvents, db' = { db with outboxEvents := outboxEvents } := by
  obtain ⟨_, _, h⟩ := bind_ok.mp h
  obtain ⟨outboxEvents, _, h⟩ := bind_ok.mp h
  exact ⟨outboxEvents, (pure_ok.mp h).symm⟩

/-- **What a statement does to the records.** -/
lemma Writes.moves (h : op.Writes t) (db : SchoolDB) : op.Moves db (t.write.run db) := by
  refine t.write_cases db (moves_of_records rfl) fun db' hrun => ?_
  cases h with
  | submit | amend =>
    rcases updateSession_run hrun with rfl | rfl <;> exact moves_of_records rfl
  | event =>
    obtain ⟨_, rfl⟩ := insertEvent_run hrun
    exact moves_of_records rfl
  | @mark old new data =>
    obtain ⟨row, hrow, hrun⟩ := bind_ok.mp hrun
    obtain rfl := pure_ok.mp hrun
    have hget := found_ok.mp hrow
    have hid := (Table.get_eq_some.mp hget).2
    refine moves_put ((congrArg db.attendanceRecords.get hid).trans hget) rfl ?_
    · simp only [marks, sessionOf, hget, Option.map_some]
  | upsert => exact upsert_moves hrun rfl
  | audit =>
    obtain ⟨_, rfl⟩ := schoolAudit_ok.mp hrun
    exact moves_of_records rfl

/-- A statement makes a session SUBMITTED only in the request that submits it. -/
lemma Writes.leaves_open (h : op.Writes t) {sessionId : Ulid}
    (hnot : op.submits ≠ some sessionId) {db : SchoolDB} (hopen : SessionOpen db sessionId) :
    SessionOpen (t.write.run db) sessionId := by
  have hput : ∀ {new : AttendanceSession}, (new.id = sessionId → new.status ≠ .submitted) →
      SessionOpen { db with attendanceSessions := db.attendanceSessions.put new.touch }
        sessionId := by
    intro new hnew session hmem hid
    rcases Table.mem_put.mp hmem with ⟨hmem, _⟩ | ⟨rfl, _⟩
    · exact hopen session hmem hid
    · exact hnew hid
  refine t.write_cases (R := fun _ db' => SessionOpen db' sessionId) db hopen fun db' hrun => ?_
  cases h with
  | submit same =>
    rcases updateSession_run hrun with rfl | rfl
    · -- The flush of a session that is as it was.
      exact hopen
    · -- Only the submit submits, and this one submits another session.
      exact hput fun hid => absurd (congrArg some (same.symm.trans hid)) hnot
  | amend same status =>
    rcases updateSession_run hrun with rfl | rfl
    · exact hopen
    · -- An amended session is not submitted.
      refine hput fun _ => ?_
      rw [status]
      exact AttendanceSessionStatus.noConfusion
  | event =>
    obtain ⟨_, rfl⟩ := insertEvent_run hrun
    exact hopen
  | mark =>
    obtain ⟨_, _, hrun⟩ := bind_ok.mp hrun
    obtain rfl := pure_ok.mp hrun
    exact hopen
  | upsert =>
    rw [upsertRecord_frame hrun]
    exact hopen
  | audit =>
    obtain ⟨_, rfl⟩ := schoolAudit_ok.mp hrun
    exact hopen

/-- The writes are those of the request. -/
def WritesAll (op : MarkingOp) (ws : List MarkingWrite) : Prop :=
  ∀ w ∈ ws, ∃ t, op.Writes t ∧ w = t.write

lemma WritesAll.moves (h : op.WritesAll ws) (db : SchoolDB) : op.Moves db (after ws db) := by
  refine Store.foldl_keeps (I := op.Moves db) (fun w hw db' hmoves => ?_) (moves_of_records rfl)
  obtain ⟨t, ht, rfl⟩ := h w hw
  exact hmoves.trans (ht.moves db')

lemma WritesAll.leaves_open (h : op.WritesAll ws) {sessionId : Ulid}
    (hnot : op.submits ≠ some sessionId) (hopen : SessionOpen db sessionId) :
    SessionOpen (after ws db) sessionId := by
  refine Store.foldl_keeps (I := fun db => SessionOpen db sessionId) (fun w hw db' hdb' => ?_) hopen
  obtain ⟨t, ht, rfl⟩ := h w hw
  exact ht.leaves_open hnot hdb'

lemma WritesAll.snoc (h : op.WritesAll ws) (ht : op.Writes t) : op.WritesAll (ws ++ [t.write]) := by
  intro w hw
  rcases List.mem_append.mp hw with hw | hw
  · exact h w hw
  · exact ⟨t, ht, List.mem_singleton.mp hw⟩

lemma writesAll_nil : op.WritesAll [] := nofun

end Writes

end MarkingOp

/-! ### The assertions -/

/-- The request is past its check of the session, and its commit is to come. -/
def MarkingPc.Checked : MarkingPc → Prop
  | .unlocked _ | .resolving _ _ _ | .upserting _ _ _ | .written _ | .logged => True
  | _ => False

instance : (pc : MarkingPc) → Decidable pc.Checked
  | .unlocked _ | .resolving _ _ _ | .upserting _ _ _ | .written _ | .logged => .isTrue trivial
  | .start | .selected _ | .saved _ | .located _ _ | .answered _ => .isFalse id

def MarkingPc.Committing : MarkingPc → Prop
  | .logged => True
  | _ => False

instance : (pc : MarkingPc) → Decidable pc.Committing
  | .logged => .isTrue trivial
  | .unlocked _ | .resolving _ _ _ | .upserting _ _ _ | .written _ | .start | .selected _
  | .saved _ | .located _ _ | .answered _ => .isFalse id

/-- What holds where a request stands. -/
def MarkingPc.At (op : MarkingOp) (ws : List MarkingWrite) (db : SchoolDB) : MarkingPc → Prop
  | .start | .answered _ => ws = []
  | .selected old => op.changes = some old.id
  | .saved _ => True
  | .located _ old => ws = [] ∧ (∃ data, op = .updateRecord old.id data) ∧
      sessionOf db old.id = some old.sessionId
  | .unlocked old => (∃ data, op = .updateRecord old.id data) ∧ op.Cleared db
  | .resolving _ _ _ | .upserting _ _ _ | .written _ | .logged => op.Cleared db

/-- The assertion about a request. -/
def MarkingAt (req : ι → MarkingRequest) (i : ι) (pc : MarkingPc) (ws : List MarkingWrite)
    (db : SchoolDB) : Prop :=
  pc.At (req i).op ws db ∧ (req i).op.WritesAll ws

/-- When a submit commits, no request that is past its check of the session is still to commit. -/
def SubmitsAlone (req : ι → MarkingRequest) (s : MarkingSys ι) (i : ι) : Prop :=
  (s.pc i).Committing → ∀ sessionId ∈ (req i).op.submits, ∀ j, (s.pc j).Checked →
    (req j).op.marks s.store.committed ≠ some sessionId

instance [Fintype ι] (s : MarkingSys ι) (i : ι) : Decidable (SubmitsAlone req s i) :=
  inferInstanceAs (Decidable ((s.pc i).Committing → ∀ sessionId ∈ (req i).op.submits, ∀ j,
    (s.pc j).Checked → (req j).op.marks s.store.committed ≠ some sessionId))

section Assertions

variable {op op' : MarkingOp} {pc : MarkingPc} {ws : List MarkingWrite} {db db' : SchoolDB}

lemma MarkingOp.Moves.keeps_marks (h : op'.Moves db db') {sessionId : Ulid}
    (hmarks : op.marks db = some sessionId) : op.marks db' = some sessionId := by
  cases op with
  | updateRecord recordId data => exact h.stays recordId sessionId hmarks
  | submitSession | amendSession | bulkUpdateRecords => exact hmarks

/-- What holds where a request stands is not disturbed by the writes of another one, unless they
submit the session that it is past its check of. -/
lemma MarkingPc.At.mono (h : pc.At op ws db) (hmoves : op'.Moves db db')
    (hopen : pc.Checked → ∀ sessionId, op.marks db = some sessionId → SessionOpen db sessionId →
      SessionOpen db' sessionId) : pc.At op ws db' := by
  have hcleared : pc.Checked → op.Cleared db → op.Cleared db' := by
    intro hpc h hchanges
    obtain ⟨sessionId, hmarks, hsession⟩ := h hchanges
    exact ⟨sessionId, hmoves.keeps_marks hmarks, hopen hpc sessionId hmarks hsession⟩
  cases pc with
  | start | answered | selected | saved => exact h
  | located schoolId old => exact ⟨h.1, h.2.1, hmoves.stays _ _ h.2.2⟩
  | unlocked old => exact ⟨h.1, hcleared trivial h.2⟩
  | resolving | upserting | written | logged => exact hcleared trivial h

lemma MarkingOp.cleared_of_changes {sessionId : Ulid} (h : op.changes = some sessionId) :
    op.Cleared db := fun hnone => absurd (hnone.symm.trans h) (Option.some_ne_none sessionId).symm

/-- **A commit leaves the records of submitted sessions as they are.** -/
lemma frozen_after (hcleared : op.Cleared db) (hws : op.WritesAll ws) :
    Frozen db (after ws db) := by
  intro session hmem hsubmitted
  refine (hws.moves db).others session.id fun hmarks => ?_
  have hchanges : op.changes = none := by
    cases op with
    | updateRecord | bulkUpdateRecords => rfl
    | submitSession | amendSession => cases hmarks
  obtain ⟨sessionId, hmem', hopen⟩ := hcleared hchanges
  obtain rfl := Option.some.inj (hmarks.symm.trans hmem')
  exact hopen session hmem rfl hsubmitted

end Assertions

/-! ### One turn -/

section Turn

variable {s : MarkingSys ι} {i : ι} {pc : MarkingPc}

/-- The assertions hold, and the records of submitted sessions are as they were. -/
def Advances (req : ι → MarkingRequest) (s s' : MarkingSys ι) : Prop :=
  Holds (MarkingAt req) s' ∧ Frozen s.store.committed s'.store.committed

lemma advances_goto (h : Holds (MarkingAt req) s)
    (hat : pc.At (req i).op (s.store.own i) s.store.committed) :
    Advances req s (s.goto i pc) :=
  ⟨h.goto ⟨hat, (h i).2⟩, frozen_refl _⟩

lemma advances_fail (h : Holds (MarkingAt req) s) (e : ApiError) :
    Advances req s (s.abort i (.failed e)) :=
  ⟨h.abort ⟨rfl, MarkingOp.writesAll_nil⟩, frozen_refl _⟩

lemma advances_ask (h : Holds (MarkingAt req) s) {α : Type} {x : Fallible α} {next : α → MarkingPc}
    (hat : ∀ a, x = .ok a → (next a).At (req i).op (s.store.own i) s.store.committed) :
    Advances req s (s.ask i x next .failed) :=
  ask_keeps (fun a ha => advances_goto h (hat a ha)) (advances_fail h)

lemma advances_exec (h : Holds (MarkingAt req) s) {t : MarkingStatement}
    (ht : (req i).op.Writes t)
    (hat : pc.At (req i).op (s.store.own i ++ [t.write]) s.store.committed) :
    Advances req s (s.exec i t pc .failed) := by
  refine exec_keeps ⟨h, frozen_refl _⟩ (fun store hstore => ⟨?_, ?_⟩) (advances_fail h)
  · exact h.write hstore ⟨hat, (h i).2.snoc ht⟩
  · rw [Store.write_committed hstore]
    exact frozen_refl _

lemma view_of_at (h : s.store.own i = []) : s.view i = s.store.committed :=
  Store.view_of_own_nil h

lemma advances_commit (h : Holds (MarkingAt req) s) (halone : SubmitsAlone req s i)
    (hpc : s.pc i = .logged) : Advances req s (s.commit i (.answered (.ok ()))) := by
  have hi := h i
  rw [MarkingAt, hpc] at hi
  refine ⟨h.commit ⟨rfl, MarkingOp.writesAll_nil⟩ fun j _ hj => ⟨?_, hj.2⟩, ?_⟩
  · refine hj.1.mono (hi.2.moves _) fun hchecked sessionId hmarks hopen => ?_
    refine hi.2.leaves_open (fun hsubmits => ?_) hopen
    have hcommitting : (s.pc i).Committing := by
      rw [hpc]
      trivial
    exact halone hcommitting sessionId hsubmits j hchecked hmarks
  · exact frozen_after hi.1 hi.2

lemma advances_flushSession (h : Holds (MarkingAt req) s) {old new : AttendanceSession}
    (ht : (req i).op.Writes (updateSession old new)) (hat : ∀ ws db, pc.At (req i).op ws db) :
    Advances req s (s.flushSession i old new pc) := by
  unfold MarkingSys.flushSession
  split
  · exact advances_goto h (hat _ _)
  · exact advances_exec h ht (hat _ _)

lemma submit_advances (h : Holds (MarkingAt req) s) {sessionId : Ulid} {version : ℕ}
    {eventId : Ulid} (hop : (req i).op = .submitSession sessionId version eventId) :
    Advances req s (s.nextSubmit req i sessionId version eventId) := by
  have hat := (h i).1
  unfold MarkingSys.nextSubmit
  split
  · refine advances_ask h fun old hexpect => ?_
    rw [MarkingPc.At, hop, ← (sessionOwned_ok (expect_ok.mp hexpect).1).2.2]
    rfl
  · next old hpc =>
    rw [hpc, MarkingPc.At, hop] at hat
    obtain rfl := Option.some.inj hat
    exact advances_flushSession h (hop ▸ .submit rfl) fun _ _ => trivial
  · refine advances_exec h (hop ▸ .event) ?_
    exact MarkingOp.cleared_of_changes (congrArg MarkingOp.changes hop)
  · exact ⟨h, frozen_refl _⟩

lemma amend_advances (h : Holds (MarkingAt req) s) {sessionId : Ulid} {version : ℕ}
    (hop : (req i).op = .amendSession sessionId version) :
    Advances req s (s.nextAmend req i sessionId version) := by
  have hat := (h i).1
  unfold MarkingSys.nextAmend
  split
  · refine advances_ask h fun old hexpect => ?_
    rw [MarkingPc.At, hop, ← (sessionOwned_ok (expect_ok.mp hexpect).1).2.2]
    rfl
  · next old hpc =>
    rw [hpc, MarkingPc.At, hop] at hat
    obtain rfl := Option.some.inj hat
    refine advances_flushSession h (hop ▸ .amend rfl rfl) fun _ _ => ?_
    exact MarkingOp.cleared_of_changes (congrArg MarkingOp.changes hop)
  · exact ⟨h, frozen_refl _⟩

lemma open_of_unlock {db : SchoolDB} {schoolId : Ulid} {old : AttendanceMark} {u : Unit}
    (h : Attendance.unlock db schoolId old = .ok u) : SessionOpen db old.sessionId := by
  obtain ⟨session, hsession, h⟩ := bind_ok.mp h
  have hget := (Option.filter_eq_some_iff.mp (found_ok.mp hsession)).1
  intro session' hmem hid
  obtain rfl := Option.some.inj (hget.symm.trans (Table.get_eq_some.mpr ⟨hmem, hid⟩))
  exact ensure_ok.mp h

lemma open_of_openSession {db : SchoolDB} {ctx : RequestContext} {sessionId schoolId : Ulid}
    (h : Attendance.openSession ctx db sessionId = .ok schoolId) : SessionOpen db sessionId := by
  obtain ⟨_, _, h⟩ := bind_ok.mp h
  obtain ⟨session, howned, h⟩ := bind_ok.mp h
  obtain ⟨_, hstatus, _⟩ := bind_ok.mp h
  obtain ⟨_, hmem, hid⟩ := sessionOwned_ok howned
  intro session' hmem' hid'
  obtain rfl := Table.eq_of_key hmem hmem' (hid.trans hid'.symm)
  exact ensure_ok.mp hstatus

lemma update_advances (h : Holds (MarkingAt req) s) {recordId : Ulid}
    {data : AttendanceRecordUpdate} (hop : (req i).op = .updateRecord recordId data) :
    Advances req s (s.nextUpdate req i recordId data) := by
  have hat := (h i).1
  unfold MarkingSys.nextUpdate
  split
  · -- The record is looked up, and with it the session.
    next hpc =>
    rw [hpc] at hat
    refine advances_ask h fun p hlocate => ?_
    rw [view_of_at hat] at hlocate
    obtain ⟨hget, rfl⟩ := get_of_locate hlocate
    exact ⟨hat, ⟨data, hop⟩, by rw [sessionOf, hget, Option.map_some]⟩
  · -- The session is checked.
    next schoolId old hpc =>
    rw [hpc] at hat
    obtain ⟨hown, ⟨data', hold⟩, hsession⟩ := hat
    refine advances_ask h fun u hunlock => ⟨⟨data', hold⟩, fun _ => ⟨old.sessionId, ?_, ?_⟩⟩
    · rw [hold]
      exact hsession
    · rw [view_of_at hown] at hunlock
      exact open_of_unlock hunlock
  · -- The record is flushed.
    next old hpc =>
    rw [hpc] at hat
    obtain ⟨⟨data', hold⟩, hcleared⟩ := hat
    change Advances req s (s.flushMark i old (Attendance.remarked (req i).ctx old data) _)
    unfold MarkingSys.flushMark
    split
    · exact advances_goto h hcleared
    split
    · exact advances_exec h (hold ▸ .mark) hcleared
    · exact advances_fail h _
  · exact ⟨h, frozen_refl _⟩

lemma bulk_advances (h : Holds (MarkingAt req) s) {sessionId : Ulid}
    {records : List BulkRecordItem} {recordIds : ℕ → Ulid}
    (hop : (req i).op = .bulkUpdateRecords sessionId records recordIds) :
    Advances req s (s.nextBulk req i sessionId records recordIds) := by
  have hat := (h i).1
  unfold MarkingSys.nextBulk
  split
  · next hpc =>
    rw [hpc] at hat
    refine advances_ask h fun schoolId hopen _ => ⟨sessionId, ?_, ?_⟩
    · rw [hop]
      rfl
    · rw [view_of_at hat] at hopen
      exact open_of_openSession hopen
  · next hpc =>
    rw [hpc] at hat
    exact advances_goto h hat
  · next hpc =>
    rw [hpc] at hat
    exact advances_goto h hat
  · next hpc =>
    rw [hpc] at hat
    exact advances_goto h hat
  · next schoolId n item studentId left hpc =>
    rw [hpc] at hat
    split
    · next row hrow =>
      have hsession : row.sessionId = sessionId := by
        obtain ⟨_, _, hrow⟩ := bind_ok.mp hrow
        obtain ⟨_, _, hrow⟩ := bind_ok.mp hrow
        obtain ⟨_, _, hrow⟩ := bind_ok.mp hrow
        obtain rfl := pure_ok.mp hrow
        rfl
      subst hsession
      exact advances_exec h (hop ▸ .upsert) hat
    · exact advances_fail h _
  · exact ⟨h, frozen_refl _⟩

/-- **One turn keeps the assertions and the records of submitted sessions.** -/
theorem marking_advances (env : SchoolEnv) (s : MarkingSys ι) (i : ι)
    (halone : SubmitsAlone req s i) (h : Holds (MarkingAt req) s) :
    Advances req s (s.step env req i) := by
  have hat := (h i).1
  unfold MarkingSys.step
  split
  · next hpc =>
    rw [hpc] at hat
    exact advances_exec h .audit hat
  · next hpc => exact advances_commit h halone hpc
  · exact ⟨h, frozen_refl _⟩
  · split
    · next hop => exact submit_advances h hop
    · next hop => exact amend_advances h hop
    · next hop => exact update_advances h hop
    · next hop => exact bulk_advances h hop

end Turn

/-- **The records of submitted sessions are frozen**, after any turns of any requests in any order,
when no submit commits while a request that is past its check of the session is still to commit. -/
theorem records_frozen (env : SchoolEnv) (req : ι → MarkingRequest) (db : SchoolDB)
    (turns : List ι) (h : Along (MarkingSys.step env req) (SubmitsAlone req) (.init db) turns) :
    Along (MarkingSys.step env req)
      (fun s i => Frozen s.store.committed (s.step env req i).store.committed) (.init db) turns :=
  along_of_invariant (fun s i halone hs => (marking_advances env s i halone hs).1)
    (fun s i halone hs => (marking_advances env s i halone hs).2) h
    (holds_of_closed rfl fun _ => ⟨rfl, MarkingOp.writesAll_nil⟩)

/-- Session 801, with one record. -/
def smallRegister : SchoolDB :=
  { smallSchool with
    core := { smallSchool.core with
      users :=
        [⟨1, none, none, none, none, none, false, .active, false, 0, none, none, none, none, 1⟩] }
    attendanceSessions := .ofRows _
      [⟨801, 11, 101, 51, 21, 738030, .draft, none, none, none, some 1, some 1, 1⟩]
    attendanceRecords := .ofRows _
      [⟨901, 11, 101, 801, 501, 71, .present, none, none, some 1, some 1⟩] }

lemma three_ne : 3 ≠ 0 := by decide

local instance three_neZero : @NeZero ℕ Zero.ofOfNat0 3 := @NeZero.mk ℕ Zero.ofOfNat0 3 three_ne

/-- The record is marked, the session is submitted, and the record is marked again. -/
def markAndSubmit : Fin 3 → MarkingRequest
  | 0 => ⟨staff, ⟨0, 738030⟩, .updateRecord 901 ⟨.absent, none, none⟩, staff_user⟩
  | 1 => ⟨staff, ⟨0, 738030⟩, .submitSession 801 1 701, staff_user⟩
  | 2 => ⟨staff, ⟨0, 738030⟩, .updateRecord 901 ⟨.late, none, none⟩, staff_user⟩

/-- One request after the other. -/
def inOrderTurns : List (Fin 3) := .replicate 5 0 ++ .replicate 5 1 ++ .replicate 5 2

theorem markAndSubmit_frozen : Along (MarkingSys.step .plain markAndSubmit)
    (fun s i => Frozen s.store.committed (s.step .plain markAndSubmit i).store.committed)
    (.init smallRegister) inOrderTurns :=
  records_frozen .plain markAndSubmit smallRegister inOrderTurns (by decide)

/-- The session is submitted between the check of the first request and its update. -/
def submitBetween : List (Fin 3) := .replicate 2 0 ++ .replicate 5 1 ++ .replicate 3 0

/-- The record of the SUBMITTED session changes then. -/
theorem submitBetween_thaws : ¬ ∀ (env : SchoolEnv) (req : Fin 3 → MarkingRequest) (db : SchoolDB)
    (turns : List (Fin 3)), Along (MarkingSys.step env req)
      (fun s i => Frozen s.store.committed (s.step env req i).store.committed) (.init db)
      turns := by
  intro h
  have hrun := h .plain markAndSubmit smallRegister submitBetween
  exact absurd hrun (by decide)

end SchoolOs
