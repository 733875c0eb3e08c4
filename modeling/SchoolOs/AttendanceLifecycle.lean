import SchoolOs.Attendance

/-!
The lifecycle of attendance sessions: which requests keep what a session says about its submission
in step with the event that was published for it.
-/

namespace SchoolOs

open Runs

/-! ### Sessions and their submission -/

/-- The event tells of the submission of the session. -/
def OutboxEvent.Tells (e : OutboxEvent) (sessionId : Ulid) : Prop :=
  e.eventName = "ATTENDANCE_SUBMITTED" ∧ e.entityId = some sessionId

instance (e : OutboxEvent) (sessionId : Ulid) : Decidable (e.Tells sessionId) :=
  inferInstanceAs (Decidable (_ ∧ _))

/-- The events that the session was submitted. -/
def submissions (events : Table OutboxEvent.id) (sessionId : Ulid) : List OutboxEvent :=
  events.rows.filter (·.Tells sessionId)

/-- A session that is submitted or amended says when and by whom, and one event tells of it; one in
draft says neither, and no event tells of it. -/
def AttendanceSession.Accounted (events : Table OutboxEvent.id) (s : AttendanceSession) : Prop :=
  (s.status ≠ .draft → s.submittedAt.isSome ∧ s.submittedById.isSome ∧
    (submissions events s.id).length = 1) ∧
  (s.status = .draft → s.submittedAt = none ∧ s.submittedById = none ∧
    submissions events s.id = [])

instance (events : Table OutboxEvent.id) (s : AttendanceSession) :
    Decidable (s.Accounted events) :=
  inferInstanceAs (Decidable ((_ → _ ∧ _ ∧ _) ∧ (_ → _ ∧ _ ∧ _)))

def SessionsAccounted (db : SchoolDB) : Prop :=
  ∀ s ∈ db.attendanceSessions, s.Accounted db.outboxEvents

instance (db : SchoolDB) : Decidable (SessionsAccounted db) :=
  inferInstanceAs (Decidable (∀ s ∈ db.attendanceSessions, s.Accounted db.outboxEvents))

/-- The events of submissions are about sessions that are there, and that left the draft. -/
def SubmissionsPlaced (db : SchoolDB) : Prop :=
  ∀ e ∈ db.outboxEvents, e.eventName = "ATTENDANCE_SUBMITTED" →
    ∃ s ∈ db.attendanceSessions, e.entityId = some s.id ∧ s.status ≠ .draft

section Sessions

variable {db db' : SchoolDB} {events events' : Table OutboxEvent.id} {s s' : AttendanceSession}
  {old row : AttendanceSession}

lemma submissions_eq_nil (hplaced : SubmissionsPlaced db) {sessionId : Ulid}
    (h : ∀ s ∈ db.attendanceSessions, s.id = sessionId → s.status = .draft) :
    submissions db.outboxEvents sessionId = [] := by
  refine List.filter_eq_nil_iff.mpr fun e he htells => ?_
  obtain ⟨hname, hentity⟩ := of_decide_eq_true htells
  obtain ⟨s, hs, hs', hleft⟩ := hplaced e he hname
  have hid : s.id = sessionId := Option.some.inj (hs'.symm.trans hentity)
  exact hleft (h s hs hid)

lemma submissions_insert {e : OutboxEvent} (h : events.insert e = some events')
    (sessionId : Ulid) : submissions events' sessionId =
      submissions events sessionId ++ if e.Tells sessionId then [e] else [] := by
  have hrows := (Table.insert_eq_some.mp h).2
  rw [submissions, ← hrows, List.filter_append, submissions, List.filter_singleton]
  by_cases htells : e.Tells sessionId <;> simp [htells]

lemma accounted_congr (hid : s.id = s'.id) (hstatus : s.status = s'.status)
    (hat : s.submittedAt = s'.submittedAt) (hby : s.submittedById = s'.submittedById) :
    s.Accounted events ↔ s'.Accounted events := by
  unfold AttendanceSession.Accounted
  rw [hid, hstatus, hat, hby]

lemma accounted_flushed :
    (flushed AttendanceSession.touch s s').Accounted events ↔ s'.Accounted events := by
  have hcols := flushed_col AttendanceSession.touch
    (fun s => (s.id, s.status, s.submittedAt, s.submittedById)) (fun _ => rfl) s s'
  obtain ⟨hid, hstatus, hat, hby⟩ : _ ∧ _ ∧ _ ∧ _ := by simpa using hcols
  exact accounted_congr hid hstatus hat hby

lemma accounted_put_iff {t : Table AttendanceSession.id} (h : ∀ s ∈ t, s.Accounted events)
    (hold : old ∈ t) (hid : old.id = row.id)
    (hevents : ∀ k, k ≠ row.id → submissions events' k = submissions events k) :
    (∀ s ∈ t.put row, s.Accounted events') ↔ row.Accounted events' := by
  have hmem : row ∈ t.put row := Table.mem_put.mpr (.inr ⟨rfl, old, hold, hid⟩)
  constructor
  · exact fun hall => hall row hmem
  · intro hrow s hs
    rcases Table.mem_put.mp hs with ⟨hs, hne⟩ | ⟨rfl, _⟩
    · have hkept := h s hs
      unfold AttendanceSession.Accounted at hkept ⊢
      rwa [hevents s.id hne]
    · exact hrow

lemma submissionsPlaced_put (row : AttendanceSession) (h : SubmissionsPlaced db)
    (hold : old ∈ db.attendanceSessions) (hid : old.id = row.id)
    (hleft : old.status ≠ .draft → row.status ≠ .draft) {e : OutboxEvent}
    (he : e ∈ db.outboxEvents) (hname : e.eventName = "ATTENDANCE_SUBMITTED") :
    ∃ s ∈ db.attendanceSessions.put row, e.entityId = some s.id ∧ s.status ≠ .draft := by
  obtain ⟨s, hs, hentity, hs'⟩ := h e he hname
  by_cases hsame : s.id = row.id
  · obtain rfl := Table.eq_of_key hs hold (hsame.trans hid.symm)
    exact ⟨row, Table.mem_put.mpr (.inr ⟨rfl, s, hs, hid⟩), hsame ▸ hentity, hleft hs'⟩
  · exact ⟨s, Table.mem_put.mpr (.inl ⟨hs, hsame⟩), hentity, hs'⟩

lemma insertSession_ok {session : AttendanceSession} (h : insertSession db session = .ok db') :
    ∃ sessions, db.attendanceSessions.insert session = some sessions ∧
      db' = { db with attendanceSessions := sessions } := by
  obtain ⟨_, _, h⟩ := bind_ok.mp h
  obtain ⟨sessions, hinsert, h⟩ := bind_ok.mp h
  obtain ⟨_, _, h⟩ := bind_ok.mp h
  exact ⟨sessions, found_ok.mp hinsert, (pure_ok.mp h).symm⟩

end Sessions

/-! ### What a request does to the account -/

/-- The payload gives a status other than the draft. -/
def AttendanceSessionUpdate.SetsStatus (data : AttendanceSessionUpdate) : Prop :=
  ∃ status ∈ data.status, status ≠ .draft

/-- The request sets the status of a session in draft past `submit_session`: an update at the
version of the session, with values that the database takes. -/
def AttendanceCall.SkipsSubmit (env : SchoolEnv) (db : SchoolDB) (c : AttendanceCall) : Prop :=
  match c.op with
  | .updateSession sessionId data => data.SetsStatus ∧ ∃ session ∈ db.attendanceSessions,
      session.id = sessionId ∧ c.ctx.schoolId = some session.schoolId ∧ session.status = .draft ∧
        session.version = data.version ∧ Slots.notesBindable (data.notes.or session.notes) = true ∧
        (∀ u ∈ session.submittedById, ∃ user ∈ db.core.users, user.id = u) ∧
        env.Admits (auditRow c.ctx (Attendance.changedEntry "ATTENDANCE_SESSION_UPDATED" "updated"
          session (Attendance.applied c.ctx session data)))
  | _ => False

section Effects

variable {env : SchoolEnv} {db db' : SchoolDB} {c : AttendanceCall}

lemma AttendanceEffect.placed (h : AttendanceEffect c.ctx c.clk db c.op db')
    (hplaced : SubmissionsPlaced db) : SubmissionsPlaced db' := by
  obtain ⟨ctx, clk, op, user⟩ := c
  dsimp only at h
  cases h with
  | createSession school insert records =>
    obtain ⟨sessions, hinsert, rfl⟩ := insertSession_ok insert
    rw [eachRecord_frame (fun _ _ _ => insertRecord_frame) records]
    intro e he hname
    obtain ⟨s, hs, hentity⟩ := hplaced e he hname
    exact ⟨s, (Table.mem_of_insert hinsert).mpr (.inl hs), hentity⟩
  | @updateSession _ data session owned status =>
    -- An update that changes the status is the way around the submit.
    have hid := flushed_col AttendanceSession.touch AttendanceSession.id (fun _ => rfl) session
      (Attendance.applied ctx session data)
    intro e he hname
    exact submissionsPlaced_put _ hplaced (sessionOwned_ok owned).2.1 hid.symm
      (fun hne => absurd status hne) he hname
  | @deleteSession _ _ session owned status =>
    -- Only a draft is deleted, and of a draft nothing was told.
    intro e he hname
    obtain ⟨s, hs, hentity, hleft⟩ := hplaced e he hname
    have hne : s.id ≠ session.id := by
      intro hid
      obtain rfl := Table.eq_of_key hs (sessionOwned_ok owned).2.1 hid
      exact hleft status
    exact ⟨s, Table.mem_delete.mpr ⟨hs, hne⟩, hentity, hleft⟩
  | @submitSession _ _ eventId session _ owned status insert =>
    have hmem := (sessionOwned_ok owned).2.1
    intro e he hname
    -- What was told before.
    rcases (Table.mem_of_insert insert).mp he with he | rfl
    · exact submissionsPlaced_put (Attendance.submitted ctx clk session).touch hplaced hmem rfl
        (fun _ => nofun) he hname
    · -- The event of this submit.
      exact ⟨_, Table.mem_put.mpr (.inr ⟨rfl, session, hmem, rfl⟩), rfl, nofun⟩
  | @amendSession _ _ session owned status =>
    have hcols := flushed_col AttendanceSession.touch (fun s => (s.id, s.status)) (fun _ => rfl)
      session (Attendance.amended ctx session)
    obtain ⟨hid, hstatus⟩ := Prod.mk.inj hcols
    have hleft : (flushed AttendanceSession.touch session
        (Attendance.amended ctx session)).status ≠ .draft := by
      rw [hstatus]
      exact nofun
    intro e he hname
    exact submissionsPlaced_put _ hplaced (sessionOwned_ok owned).2.1 hid.symm (fun _ => hleft)
      he hname
  | updateRecord => exact hplaced
  | bulkUpdateRecords school owned rows_of records =>
    rw [eachRecord_frame (fun _ _ _ => upsertRecord_frame) records]
    exact hplaced

lemma accounted_create (hplaced : SubmissionsPlaced db) (h : SessionsAccounted db)
    {session : AttendanceSession} {sessions : Table AttendanceSession.id}
    (hinsert : db.attendanceSessions.insert session = some sessions)
    (hdraft : session.status = .draft) (hat : session.submittedAt = none)
    (hby : session.submittedById = none) :
    SessionsAccounted { db with attendanceSessions := sessions } := by
  intro s hs
  rcases (Table.mem_of_insert hinsert).mp hs with hs | rfl
  · exact h s hs
  · have hfresh := (Table.insert_eq_some.mp hinsert).1
    have hnone : submissions db.outboxEvents s.id = [] :=
      submissions_eq_nil hplaced fun s' hs' hid => absurd hid (hfresh s' hs')
    exact ⟨fun hleft => absurd hdraft hleft, fun _ => ⟨hat, hby, hnone⟩⟩

/-- **Submit**: the session says so, and the event is the first one about it. -/
lemma accounted_submit (hplaced : SubmissionsPlaced db) (h : SessionsAccounted db)
    {ctx : RequestContext} {clk : Clock} (huser : ctx.userId.isSome) {eventId : Ulid}
    {session : AttendanceSession} {outboxEvents : Table OutboxEvent.id}
    (hmem : session ∈ db.attendanceSessions) (hdraft : session.status = .draft)
    (hinsert : db.outboxEvents.insert (Attendance.submittedEvent ctx clk session eventId).row =
      some outboxEvents) :
    SessionsAccounted { db with
      attendanceSessions := db.attendanceSessions.put (Attendance.submitted ctx clk session).touch
      outboxEvents := outboxEvents } := by
  have htells : ∀ k, (Attendance.submittedEvent ctx clk session eventId).row.Tells k ↔
      session.id = k := by
    intro k
    simp [OutboxEvent.Tells, NewEvent.row, Attendance.submittedEvent]
  have hnone : submissions db.outboxEvents session.id = [] := by
    refine submissions_eq_nil hplaced fun s hs hid => ?_
    obtain rfl := Table.eq_of_key hs hmem hid
    exact hdraft
  have hid : session.id = (Attendance.submitted ctx clk session).touch.id := rfl
  refine (accounted_put_iff h hmem hid fun k hk => ?_).mpr ⟨fun _ => ⟨rfl, huser, ?_⟩, nofun⟩
  · rw [submissions_insert hinsert, if_neg fun ht => hk ((htells k).mp ht).symm, List.append_nil]
  · rw [← hid, submissions_insert hinsert, hnone, if_pos ((htells _).mpr rfl)]
    rfl

/-- **Update**: the session stays accounted for exactly when it stays in draft. -/
lemma accounted_update_iff (h : SessionsAccounted db) {ctx : RequestContext}
    {data : AttendanceSessionUpdate} {session : AttendanceSession}
    (hmem : session ∈ db.attendanceSessions) (hdraft : session.status = .draft) :
    SessionsAccounted { db with
      attendanceSessions := db.attendanceSessions.put
        (flushed AttendanceSession.touch session (Attendance.applied ctx session data)) } ↔
      ¬ data.SetsStatus := by
  have hid := flushed_col AttendanceSession.touch AttendanceSession.id (fun _ => rfl) session
    (Attendance.applied ctx session data)
  obtain ⟨hat, hby, hnone⟩ := (h session hmem).2 hdraft
  have hput := accounted_put_iff h hmem hid.symm fun k _ => rfl
  refine (hput.trans accounted_flushed).trans ?_
  constructor
  · rintro haccounted ⟨status, hgiven, hleft⟩
    have hstatus : (Attendance.applied ctx session data).status ≠ .draft := by
      rw [Attendance.applied, Option.mem_def.mp hgiven]
      exact hleft
    have hsome := (haccounted.1 hstatus).1
    rw [show (Attendance.applied ctx session data).submittedAt = none from hat] at hsome
    cases hsome
  · intro hstays
    have hstatus : (Attendance.applied ctx session data).status = .draft := by
      rw [Attendance.applied]
      cases hgiven : data.status with
      | none => exact hdraft
      | some status => exact not_not.mp fun hne => hstays ⟨status, hgiven, hne⟩
    exact ⟨fun hleft => absurd hstatus hleft, fun _ => ⟨hat, hby, hnone⟩⟩

/-- An update that sets a status goes through exactly when it skips the submit. -/
lemma updateSession_sets_iff {ctx : RequestContext} {clk : Clock} {sessionId : Ulid}
    {data : AttendanceSessionUpdate} {user : ctx.userId.isSome} (hsets : data.SetsStatus) :
    (∃ r, Attendance.updateSession env ctx db sessionId data = .ok r) ↔
      AttendanceCall.SkipsSubmit env db ⟨ctx, clk, .updateSession sessionId data, user⟩ := by
  have hchanges : ∀ session : AttendanceSession, session.status = .draft →
      Attendance.applied ctx session data ≠ session := by
    intro session hdraft hsame
    obtain ⟨status, hgiven, hleft⟩ := hsets
    have hstatus : data.status.getD session.status = session.status :=
      congrArg AttendanceSession.status hsame
    rw [Option.mem_def.mp hgiven, Option.getD_some, hdraft] at hstatus
    exact hleft hstatus
  simp only [Attendance.updateSession, bind_ok, expect_ok, sessionOwned_iff, schoolAudit_ok,
    List.mem_singleton, pure_ok]
  constructor
  · rintro ⟨r, session, ⟨⟨hctx, hmem, hid⟩, hdraft, hversion⟩, db1, hsave, db2, ⟨hadmits, _⟩, _⟩
    rw [saveSession, if_neg (hchanges session hdraft)] at hsave
    obtain ⟨_, hfits, _⟩ := bind_ok.mp hsave
    obtain ⟨hnotes, huser⟩ := ensure_ok.mp hfits
    exact ⟨hsets, session, hmem, hid, hctx, hdraft, hversion, hnotes, huser, hadmits⟩
  · rintro ⟨_, session, hmem, hid, hctx, hdraft, hversion, hnotes, huser, hadmits⟩
    have hsave : saveSession db session (Attendance.applied ctx session data) = .ok { db with
        attendanceSessions := db.attendanceSessions.put
          (Attendance.applied ctx session data).touch } := by
      rw [saveSession, if_neg (hchanges session hdraft)]
      exact bind_ok.mpr ⟨(), ensure_ok.mpr ⟨hnotes, huser⟩, rfl⟩
    exact ⟨_, session, ⟨⟨hctx, hmem, hid⟩, hdraft, hversion⟩, _, hsave, _, ⟨hadmits, rfl⟩, rfl⟩

lemma skipsSubmit_ok (h : c.SkipsSubmit env db) : ∃ db', c.handle env db = .ok db' := by
  obtain ⟨ctx, clk, op, user⟩ := c
  cases op with
  | updateSession sessionId data =>
    obtain ⟨⟨_, db'⟩, hok⟩ := (updateSession_sets_iff h.1).mpr h
    exact ⟨db', map_ok.mpr ⟨_, hok, rfl⟩⟩
  | _ => exact h.elim

/-- **What a request that goes through does to the account**: it keeps it exactly when it does not
skip the submit. -/
lemma accounted_handle_iff (hplaced : SubmissionsPlaced db) (haccounted : SessionsAccounted db)
    (hok : c.handle env db = .ok db') : SessionsAccounted db' ↔ ¬ c.SkipsSubmit env db := by
  obtain ⟨db1, row, heffect, rfl⟩ := attendanceHandle_ok hok
  obtain ⟨ctx, clk, op, user⟩ := c
  have hkeeps {d : SchoolDB} (h : SessionsAccounted d) : SessionsAccounted d ↔ ¬ False :=
    iff_of_true h not_false
  change SessionsAccounted db1 ↔ _
  dsimp only at heffect
  cases heffect with
  | createSession school insert records =>
    obtain ⟨sessions, hinsert, rfl⟩ := insertSession_ok insert
    rw [eachRecord_frame (fun _ _ _ => insertRecord_frame) records]
    exact hkeeps (accounted_create hplaced haccounted hinsert rfl rfl rfl)
  | @updateSession sessionId data session owned status =>
    -- Nothing but the update can break the account.
    rw [accounted_update_iff haccounted (sessionOwned_ok owned).2.1 status, not_iff_not]
    obtain ⟨r, hupdate, _⟩ := map_ok.mp hok
    exact ⟨fun hsets => (updateSession_sets_iff hsets).mp ⟨r, hupdate⟩, And.left⟩
  | deleteSession owned status =>
    exact hkeeps fun s hs => haccounted s (Table.mem_delete.mp hs).1
  | submitSession owned status insert =>
    exact hkeeps (accounted_submit hplaced haccounted user (sessionOwned_ok owned).2.1 status
      insert)
  | @amendSession _ _ session owned status =>
    have hmem := (sessionOwned_ok owned).2.1
    have hid := flushed_col AttendanceSession.touch AttendanceSession.id (fun _ => rfl) session
      (Attendance.amended ctx session)
    have hput := accounted_put_iff haccounted hmem hid.symm fun k _ => rfl
    have hsubmitted := (haccounted session hmem).1 status
    exact hkeeps ((hput.trans accounted_flushed).mpr ⟨fun _ => hsubmitted, nofun⟩)
  | updateRecord => exact hkeeps haccounted
  | bulkUpdateRecords school owned rows_of records =>
    rw [eachRecord_frame (fun _ _ _ => upsertRecord_frame) records]
    exact hkeeps haccounted

end Effects

/-! ### Runs -/

/-- No session was opened yet, and no event published. -/
def SchoolDB.withoutAttendance (db : SchoolDB) : SchoolDB :=
  { db with
    attendanceSessions := .empty _
    attendanceRecords := .empty _
    outboxEvents := .empty _ }

lemma submissionsPlaced_step (env : SchoolEnv) (db : SchoolDB) (c : AttendanceCall)
    (h : SubmissionsPlaced db) : SubmissionsPlaced (c.step env db) := by
  unfold AttendanceCall.step
  split
  · next db' hok =>
    obtain ⟨db1, row, heffect, rfl⟩ := attendanceHandle_ok hok
    exact heffect.placed h
  · exact h

lemma accounted_step_iff (env : SchoolEnv) (db : SchoolDB) (c : AttendanceCall)
    (hplaced : SubmissionsPlaced db) (h : SessionsAccounted db) :
    SessionsAccounted (c.step env db) ↔ ¬ c.SkipsSubmit env db := by
  unfold AttendanceCall.step
  cases hok : c.handle env db with
  | error e =>
    refine iff_of_true h fun hskips => ?_
    obtain ⟨db', hok'⟩ := skipsSubmit_ok hskips
    exact nomatch hok.symm.trans hok'
  | ok db' => exact accounted_handle_iff hplaced h hok

/-- **The lifecycle of sessions**: over every run of requests on attendance, every session is
accounted for in all states exactly when no update sets the status of a session in draft past
`submit_session`. -/
theorem sessions_accounted_iff (env : SchoolEnv) (db : SchoolDB) (l : List AttendanceCall) :
    Along (AttendanceCall.step env) (fun db c => SessionsAccounted (c.step env db))
        db.withoutAttendance l ↔
      Along (AttendanceCall.step env) (fun db c => ¬ c.SkipsSubmit env db)
        db.withoutAttendance l := by
  have hplaced : SubmissionsPlaced db.withoutAttendance :=
    fun _ he => absurd he Table.not_mem_empty
  have haccounted : SessionsAccounted db.withoutAttendance :=
    fun _ hs => absurd hs Table.not_mem_empty
  exact along_iff_of (submissionsPlaced_step env) (accounted_step_iff env) l hplaced haccounted

/-- Open a session, and update it to `status`. -/
def openAndSet (status : Option AttendanceSessionStatus) : List AttendanceCall :=
  [⟨staff, ⟨0, 0⟩, .createSession ⟨51, 21, 738100, none⟩ 101 fun n => .ofNat (201 + n),
      rfl⟩,
    ⟨staff, ⟨0, 0⟩, .updateSession 101 ⟨some "late bus", status, 1, one_le_first⟩, rfl⟩]

example : SessionsAccounted
    (run (AttendanceCall.step .plain) smallSchool.withoutAttendance (openAndSet none)) := by
  decide +kernel

/-- An update submits a session without a word. -/
theorem openAndSet_untold : ¬ ∀ (env : SchoolEnv) (db : SchoolDB) (l : List AttendanceCall),
    Along (AttendanceCall.step env) (fun db c => SessionsAccounted (c.step env db))
      db.withoutAttendance l := by
  intro h
  have hrun := h .plain smallSchool (openAndSet (some .submitted))
  exact absurd hrun (by decide +kernel)

end SchoolOs
