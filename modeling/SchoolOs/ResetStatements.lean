import SchoolOs.Processes
import SchoolOs.Serial

/-!
Password resets, one SQL statement at a time: the token is read before the user, and only the row
of the user has a version counter.
-/

namespace SchoolOs

open ReadCommitted Procs

/-! ### Requests and where they stand -/

/-- The updates of a flush. -/
inductive Flush
  | user | resetTokens | refreshTokens
  deriving DecidableEq

/-- `confirm_password_reset`, with the salt it draws and the order its updates are flushed in. -/
structure ResetRequest where
  data : PasswordResetConfirm
  http : HttpRequest
  salt : ℕ
  flushes : List Flush
  perm : flushes.Perm [.user, .resetTokens, .refreshTokens]

/-- The reset token and the user as read, the row the user becomes, and when the token is used. -/
structure Reset where
  stored : PasswordResetToken
  user : User
  row : User
  consumedAt : Instant

/-- The reset with the rows selected beside: the other tokens that expire, and the sessions. -/
structure ResetRows extends Reset where
  others : List Ulid
  othersAt : Instant
  sessions : List Ulid
  sessionsClk : Clock

/-- Where a request stands. -/
inductive ResetPc
  | start
  /-- The token may be used; its user is read next. -/
  | found (stored : PasswordResetToken)
  /-- The other tokens of the user are selected next. -/
  | loaded (r : Reset)
  /-- The sessions of the user are selected next. -/
  | selected (r : Reset) (others : List Ulid) (othersAt : Instant)
  /-- Updates still to be flushed, then the audit row. -/
  | flushing (rows : ResetRows) (todo : List Flush)
  /-- The commit is next. -/
  | written (rows : ResetRows)
  | passwordSet (stored : PasswordResetToken)
  | failed (e : ApiError)

/-- What a finished request answered. -/
def ResetPc.answer : ResetPc → Option (Fallible (Option TokenPair))
  | .passwordSet _ => some (.ok none)
  | .failed e => some (.error e)
  | _ => none

/-! ### Statements -/

section Statements

variable (env : Env) (clk : Clock) (db : DB)

/-- The token, if it may be used. -/
def readResetToken (data : PasswordResetConfirm) : Fallible PasswordResetToken := do
  let stored ← found
    (Tables.get PasswordResetToken.tokenHash (env.hashRefreshToken data.token)
      db.passwordResetTokens) resetInvalid
  ensure (stored.consumedAt = none ∧ clk.now < stored.expiresAt) resetInvalid
  return stored

/-- The user of the token, and what becomes of both. -/
def readResetUser (q : ResetRequest) (stored : PasswordResetToken) : Fallible Reset := do
  let user ← found (getUser db stored.userId) resetInvalid
  ensure (user.deletedAt = none) resetInvalid
  return {
    stored := stored
    user := user
    row := flushed User.touch user
      { withPassword env clk user q.data.newPassword q.salt with status := .active }
    consumedAt := clk.now }

/-- The other open tokens of the user. -/
def selectOthers (r : Reset) : List Ulid :=
  (db.passwordResetTokens.filter fun t =>
    t.userId = r.user.id ∧ t.consumedAt = none ∧ t.id ≠ r.stored.id).map PasswordResetToken.id

def updateUserRow (r : Reset) : Write DB Key where
  locks := [.user r.user.id]
  run db := { db with users := Tables.set User.id r.user.id (fun _ => r.row) db.users }

def consumeTokens (rows : ResetRows) : Write DB Key where
  locks := (rows.stored.id :: rows.others).map .resetToken
  run db := { db with
    passwordResetTokens := Tables.setWhere (·.id ∈ rows.others)
      (fun t => { t with consumedAt := some rows.othersAt })
      (Tables.set PasswordResetToken.id rows.stored.id
        (fun t => { t with consumedAt := some rows.consumedAt }) db.passwordResetTokens) }

def revokeSessions (rows : ResetRows) : Write DB Key where
  locks := rows.sessions.map .token
  run db := { db with
    refreshTokens := Tables.setWhere (·.id ∈ rows.sessions)
      (RefreshToken.revoke rows.sessionsClk) db.refreshTokens }

def Flush.write (rows : ResetRows) : Flush → Write DB Key
  | .user => updateUserRow rows.toReset
  | .resetTokens => consumeTokens rows
  | .refreshTokens => revokeSessions rows

def resetAudit (q : ResetRequest) (rows : ResetRows) : AuditLog :=
  auditRow (systemCtx q.http.clientIp)
    { action := "PASSWORD_RESET_CONFIRMED", entityType := "user", entityId := some rows.user.id }

end Statements

/-! ### The system -/

/-- The database and where every request stands. -/
abbrev ResetSys (ι : Type*) := Procs ι DB Key ResetPc

/-- A request runs its next statement, or its transaction is aborted (a lost connection, a
deadlock). -/
inductive ResetTurn (ι : Type*)
  | run (i : ι) (clk : Clock)
  | abort (i : ι)

namespace ResetSys

variable {ι : Type*} [DecidableEq ι] (env : Env) (req : ι → ResetRequest) (s : ResetSys ι) (i : ι)

/-- An update of the flush. A row that did not change is not written; the row of the user must
still have the version that was read. -/
def flush (rows : ResetRows) (f : Flush) (todo : List Flush) : ResetSys ι :=
  if f = .user ∧ rows.row = rows.user then s.goto i (.flushing rows todo)
  else if f = .user ∧
      (getUser (s.view i) rows.user.id).map User.version ≠ some rows.user.version then
    s.abort i (.failed internalError)
  else s.write i (f.write rows) (.flushing rows todo)

/-- The next statement of a request. -/
def next (clk : Clock) : ResetSys ι :=
  match s.pc i with
  | .start =>
    match readResetToken env clk (s.view i) (req i).data with
    | .ok stored => s.goto i (.found stored)
    | .error e => s.abort i (.failed e)
  | .found stored =>
    match readResetUser env clk (s.view i) (req i) stored with
    | .ok r => s.goto i (.loaded r)
    | .error e => s.abort i (.failed e)
  | .loaded r => s.goto i (.selected r (selectOthers (s.view i) r) clk.now)
  | .selected r others othersAt =>
    let sessions := selectTokens clk (s.view i) (.sessions r.user.id)
    s.goto i (.flushing ⟨r, others, othersAt, sessions, clk⟩ (req i).flushes)
  | .flushing rows (f :: todo) => s.flush i rows f todo
  | .flushing rows [] =>
    if Auditable env (resetAudit (req i) rows) then
      s.write i (insertAudit (resetAudit (req i) rows)) (.written rows)
    else s.abort i (.failed internalError)
  | .written rows => s.commit i (.passwordSet rows.stored)
  | .passwordSet _ | .failed _ => s

def step : ResetSys ι → ResetTurn ι → ResetSys ι
  | s, .run i clk => s.next env req i clk
  | s, .abort i => if (s.pc i).answer = none then s.abort i (.failed internalError) else s

end ResetSys

/-! ### A reset that runs alone -/

section Alone

open Runs

variable {ι : Type*} [DecidableEq ι] {env : Env} {req : ι → ResetRequest} {i : ι} {clk : Clock}
  {pcs : ι → ResetPc} {db : DB} {ws : List (Write DB Key)} {rows : ResetRows} {r : Reset}

/-- Statements of the one request, all at one time, lead from one state to the other. -/
abbrev ResetLeads (env : Env) (req : ι → ResetRequest) (i : ι) (clk : Clock)
    (s s' : ResetSys ι) : Prop :=
  Repeats (ResetSys.step env req) (.run i clk) s s'

/-- An update of the flush, which is left out when the row of the user did not change. -/
def ResetRows.effect (rows : ResetRows) (db : DB) (f : Flush) : DB :=
  if f = .user ∧ rows.row = rows.user then db else (f.write rows).run db

lemma effect_comm (rows : ResetRows) (db : DB) (f g : Flush) :
    rows.effect (rows.effect db f) g = rows.effect (rows.effect db g) f := by
  by_cases hsame : rows.row = rows.user <;> cases f <;> cases g <;>
    simp [ResetRows.effect, hsame, Flush.write, updateUserRow, consumeTokens, revokeSessions]

lemma leads_flush {todo : List Flush} (honce : todo.Nodup)
    (huser : .user ∈ todo → getUser (after ws db) rows.user.id = some rows.user) :
    ∃ ws', after ws' db = todo.foldl rows.effect (after ws db) ∧
      ResetLeads env req i clk (solo pcs i db ws (.flushing rows todo))
        (solo pcs i db ws' (.flushing rows [])) := by
  induction todo generalizing ws with
  | nil => exact ⟨ws, rfl, .refl _⟩
  | cons f todo ih =>
    obtain ⟨hnot, honce⟩ := List.nodup_cons.mp honce
    by_cases hskip : f = .user ∧ rows.row = rows.user
    · obtain ⟨ws', hws', hleads⟩ := @ih ws honce fun h => absurd (hskip.1 ▸ h) hnot
      refine ⟨ws', ?_, .next ?_⟩
      · rw [hws', List.foldl_cons, ResetRows.effect, if_pos hskip]
      · simp only [ResetSys.step, ResetSys.next, solo_pc, ResetSys.flush, if_pos hskip, solo_goto]
        exact hleads
    · have hwrite : after (ws ++ [f.write rows]) db = (f.write rows).run (after ws db) := after_snoc
      have hrest : .user ∈ todo →
          getUser (after (ws ++ [f.write rows]) db) rows.user.id = some rows.user := by
        intro hmem
        rw [hwrite, ← huser (List.mem_cons_of_mem _ hmem)]
        cases f with
        | user => exact absurd hmem hnot
        | resetTokens | refreshTokens => rfl
      have hversion : ¬ (f = .user ∧
          (getUser (after ws db) rows.user.id).map User.version ≠ some rows.user.version) := by
        rintro ⟨rfl, hne⟩
        rw [huser List.mem_cons_self] at hne
        exact hne rfl
      obtain ⟨ws', hws', hleads⟩ := ih honce hrest
      refine ⟨ws', ?_, .next ?_⟩
      · rw [hws', hwrite, List.foldl_cons, ResetRows.effect, if_neg hskip]
      · simp only [ResetSys.step, ResetSys.next, solo_pc, ResetSys.flush, if_neg hskip, solo_view,
          if_neg hversion, solo_write]
        exact hleads

/-- What the reset writes but the audit row. -/
def resetResult (clk : Clock) (db : DB) (r : Reset) : DB :=
  { revokeAllUserSessions clk db r.user.id with
    users := Tables.set User.id r.user.id (fun _ => r.row) db.users
    passwordResetTokens := consumeResetTokens clk db r.stored r.user.id }

lemma confirmPasswordReset_reads (env : Env) (clk : Clock) (db : DB) (q : ResetRequest) :
    confirmPasswordReset env clk db q.data q.http.clientIp q.salt = (do
      let stored ← readResetToken env clk db q.data
      let r ← readResetUser env clk db q stored
      audit env (systemCtx q.http.clientIp)
        { action := "PASSWORD_RESET_CONFIRMED", entityType := "user", entityId := some r.user.id }
        (resetResult clk db r)) := by
  simp only [readResetToken, readResetUser, confirmPasswordReset, bind_assoc, pure_bind]
  rfl

/-- The open tokens of the user, the presented one among them or not. -/
lemma consumeTokens_run (hkeys : (db.passwordResetTokens.map PasswordResetToken.id).Nodup)
    (hrows : rows.others = selectOthers db rows.toReset) (hat : rows.consumedAt = clk.now)
    (hothers : rows.othersAt = clk.now) :
    (consumeTokens rows).run db =
      { db with passwordResetTokens := consumeResetTokens clk db rows.stored rows.user.id } := by
  have hmem : ∀ t ∈ db.passwordResetTokens, t.id ∈ rows.others ↔
      t.userId = rows.user.id ∧ t.consumedAt = none ∧ t.id ≠ rows.stored.id := by
    intro t ht
    rw [hrows]
    simp only [selectOthers, List.mem_map, List.mem_filter, decide_eq_true_eq]
    refine ⟨?_, fun h => ⟨t, ⟨ht, h⟩, rfl⟩⟩
    rintro ⟨t0, ⟨ht0, h0⟩, hid⟩
    rwa [List.inj_on_of_nodup_map hkeys ht0 ht hid] at h0
  simp only [consumeTokens, consumeResetTokens, Tables.set, Tables.setWhere, List.map_map, hat,
    hothers]
  congr 1
  refine List.map_congr_left fun t ht => ?_
  have hm := hmem t ht
  by_cases hid : t.id = rows.stored.id
  · simp [hid]
  · by_cases hopen : t.userId = rows.user.id ∧ t.consumedAt = none
    · simp [hid, hm, hopen]
    · simp [hid, hm, hopen]

lemma effect_user (hkeys : (db.users.map User.id).Nodup)
    (huser : getUser db rows.user.id = some rows.user) :
    rows.effect db .user = (updateUserRow rows.toReset).run db := by
  by_cases hsame : rows.row = rows.user
  · have hset : Tables.set User.id rows.user.id (fun _ => rows.user) db.users = db.users :=
      Tables.set_self hkeys (Tables.get_mem huser).1
    simp only [ResetRows.effect, hsame, and_self, if_true, updateUserRow, hset]
  · simp only [ResetRows.effect, hsame, and_false, if_false]
    rfl

lemma foldl_effect (hkeys : (db.users.map User.id).Nodup)
    (hrefresh : (db.refreshTokens.map RefreshToken.id).Nodup)
    (hresets : (db.passwordResetTokens.map PasswordResetToken.id).Nodup)
    (huser : getUser db r.user.id = some r.user) (hat : r.consumedAt = clk.now)
    {flushes : List Flush} (hperm : flushes.Perm [.user, .resetTokens, .refreshTokens]) :
    flushes.foldl (ResetRows.effect ⟨r, selectOthers db r, clk.now,
      selectTokens clk db (.sessions r.user.id), clk⟩) db = resetResult clk db r := by
  rw [hperm.foldl_eq' fun f _ g _ z => effect_comm _ z f g]
  simp only [List.foldl_cons, List.foldl_nil]
  rw [effect_user hkeys huser]
  have hrevoke : Tables.setWhere (·.id ∈ selectTokens clk db (.sessions r.user.id))
      (RefreshToken.revoke clk) db.refreshTokens =
        (revokeAllUserSessions clk db r.user.id).refreshTokens :=
    setWhere_selectTokens hrefresh _
  have hconsume : ((consumeTokens ⟨r, selectOthers db r, clk.now,
      selectTokens clk db (.sessions r.user.id), clk⟩).run db).passwordResetTokens =
        consumeResetTokens clk db r.stored r.user.id := by
    rw [consumeTokens_run hresets rfl hat rfl]
  have hfields : ∀ db' : DB, db'.users = Tables.set User.id r.user.id (fun _ => r.row) db.users →
      db'.passwordResetTokens = consumeResetTokens clk db r.stored r.user.id →
      db'.refreshTokens = (revokeAllUserSessions clk db r.user.id).refreshTokens →
      { db with
        users := db'.users
        passwordResetTokens := db'.passwordResetTokens
        refreshTokens := db'.refreshTokens } = resetResult clk db r := by
    intro db' h1 h2 h3
    rw [h1, h2, h3]
    rfl
  exact hfields ((revokeSessions ⟨r, selectOthers db r, clk.now,
    selectTokens clk db (.sessions r.user.id), clk⟩).run ((consumeTokens ⟨r, selectOthers db r,
      clk.now, selectTokens clk db (.sessions r.user.id), clk⟩).run ((updateUserRow r).run db)))
    rfl hconsume hrevoke

lemma readResetUser_ok {q : ResetRequest} {stored : PasswordResetToken}
    (h : readResetUser env clk db q stored = .ok r) :
    getUser db r.user.id = some r.user ∧ r.consumedAt = clk.now := by
  obtain ⟨user, huser, h⟩ := bind_ok.mp h
  obtain ⟨_, _, h⟩ := bind_ok.mp h
  obtain rfl := Except.ok.inj h
  exact ⟨(getUser_self (found_ok.mp huser)).2, rfl⟩

/-- What a reset that runs alone selects beside its token and its user. -/
def soloRows (clk : Clock) (db : DB) (r : Reset) : ResetRows :=
  ⟨r, selectOthers db r, clk.now, selectTokens clk db (.sessions r.user.id), clk⟩

lemma leads_rows (hkeys : (db.users.map User.id).Nodup)
    (hrefresh : (db.refreshTokens.map RefreshToken.id).Nodup)
    (hresets : (db.passwordResetTokens.map PasswordResetToken.id).Nodup)
    {stored : PasswordResetToken} (hr : readResetUser env clk db (req i) stored = .ok r) :
    ∃ ws, after ws db = resetResult clk db r ∧
      ResetLeads env req i clk (solo pcs i db [] (.loaded r))
        (solo pcs i db ws (.flushing (soloRows clk db r) [])) := by
  obtain ⟨huser, hat⟩ := readResetUser_ok hr
  have honce : (req i).flushes.Nodup := (req i).perm.nodup_iff.mpr (by decide)
  have hversion : .user ∈ (req i).flushes →
      getUser (after ([] : List (Write DB Key)) db) (soloRows clk db r).user.id =
        some (soloRows clk db r).user := fun _ => huser
  obtain ⟨ws, hws, hleads⟩ : ∃ ws, after ws db =
        (req i).flushes.foldl (soloRows clk db r).effect db ∧
      ResetLeads env req i clk (solo pcs i db [] (.flushing (soloRows clk db r) (req i).flushes))
        (solo pcs i db ws (.flushing (soloRows clk db r) [])) := leads_flush honce hversion
  refine ⟨ws, hws.trans (foldl_effect hkeys hrefresh hresets huser hat (req i).perm), ?_⟩
  refine .next (.next ?_)
  simp only [ResetSys.step, ResetSys.next, solo_pc, solo_view, after_nil, solo_goto]
  exact hleads

/-- The reset has come to what it comes to as one step. -/
def ResetFinishes (env : Env) (req : ι → ResetRequest) (i : ι) (clk : Clock) (pcs : ι → ResetPc)
    (s : ResetSys ι) (o : Outcome (Option TokenPair)) : Prop :=
  ∃ pc, ResetLeads env req i clk s (solo pcs i o.db [] pc) ∧ pc.answer = some o.response

lemma ResetFinishes.of_leads {s s' : ResetSys ι} {o : Outcome (Option TokenPair)}
    (h : ResetLeads env req i clk s s') (h' : ResetFinishes env req i clk pcs s' o) :
    ResetFinishes env req i clk pcs s o := by
  obtain ⟨pc, hleads, hanswer⟩ := h'
  exact ⟨pc, h.trans hleads, hanswer⟩

lemma finishes_audit (ws : List (Write DB Key)) (rows : ResetRows) :
    ResetFinishes env req i clk pcs (solo pcs i db ws (.flushing rows []))
      (.noContent db (audit env (systemCtx (req i).http.clientIp)
        { action := "PASSWORD_RESET_CONFIRMED", entityType := "user"
          entityId := some rows.user.id } (after ws db))) := by
  by_cases haud : Auditable env (resetAudit (req i) rows)
  · rw [audit_ok.mpr ⟨haud, rfl⟩]
    refine ⟨.passwordSet rows.stored, .next (.next ?_), rfl⟩
    simp only [ResetSys.step, ResetSys.next, solo_pc, if_pos haud, solo_write, solo_commit,
      after_snoc]
    exact .refl _
  · rw [audit_refused haud]
    refine ⟨.failed internalError, .next ?_, rfl⟩
    simp only [ResetSys.step, ResetSys.next, solo_pc, if_neg haud, solo_abort]
    exact .refl _

/-- **The two levels agree**: a reset whose statements run alone leaves and answers what it does
when it is taken as one step. -/
theorem reset_alone (env : Env) (req : ι → ResetRequest) (i : ι) (clk : Clock) (pcs : ι → ResetPc)
    (db : DB) (hkeys : (db.users.map User.id).Nodup)
    (hrefresh : (db.refreshTokens.map RefreshToken.id).Nodup)
    (hresets : (db.passwordResetTokens.map PasswordResetToken.id).Nodup) :
    ∃ pc, ResetLeads env req i clk (solo pcs i db [] .start)
        (solo pcs i (((Request.confirmPasswordReset (req i).data (req i).http (req i).salt).call
          clk).handle env db).db [] pc) ∧
      pc.answer = some (((Request.confirmPasswordReset (req i).data (req i).http
        (req i).salt).call clk).handle env db).response := by
  simp only [Request.call, AuthCall.handle, confirmPasswordReset_reads]
  cases hstored : readResetToken env clk db (req i).data with
  | error e =>
    refine ⟨.failed e, .next ?_, rfl⟩
    simp only [ResetSys.step, ResetSys.next, solo_pc, solo_view, after_nil, hstored, solo_abort]
    exact .refl _
  | ok stored =>
    have hfound : ResetLeads env req i clk (solo pcs i db [] .start)
        (solo pcs i db [] (.found stored)) := by
      refine .next ?_
      simp only [ResetSys.step, ResetSys.next, solo_pc, solo_view, after_nil, hstored, solo_goto]
      exact .refl _
    rw [ok_bind]
    cases hr : readResetUser env clk db (req i) stored with
    | error e =>
      refine ⟨.failed e, hfound.trans (.next ?_), rfl⟩
      simp only [ResetSys.step, ResetSys.next, solo_pc, solo_view, after_nil, hr, solo_abort]
      exact .refl _
    | ok r =>
      have hloaded : ResetLeads env req i clk (solo pcs i db [] (.found stored))
          (solo pcs i db [] (.loaded r)) := by
        refine .next ?_
        simp only [ResetSys.step, ResetSys.next, solo_pc, solo_view, after_nil, hr, solo_goto]
        exact .refl _
      obtain ⟨ws, hws, hrows⟩ := leads_rows hkeys hrefresh hresets hr
      rw [ok_bind, ← hws]
      exact ResetFinishes.of_leads (hfound.trans (hloaded.trans hrows)) (finishes_audit ws _)

end Alone

end SchoolOs
