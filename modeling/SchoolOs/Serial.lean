import SchoolOs.AuthEffects
import SchoolOs.Interleavings

/-!
The two levels agree: a request whose statements run alone leaves and answers what it does when
it is taken as one step.
-/

namespace SchoolOs

open ReadCommitted

variable {ι : Type*} [DecidableEq ι] {env : Env} {req : ι → Request}
  {i : ι} {clk : Clock} {pcs : ι → Pc} {db : DB} {ws : List (Write DB Key)}

/-! ### A request that runs alone -/

/-- Only the request `i` has an open transaction; it wrote `ws` and stands at `pc`. -/
def alone (pcs : ι → Pc) (i : ι) (db : DB) (ws : List (Write DB Key)) (pc : Pc) : Sys ι :=
  ⟨⟨db, ws.map (Prod.mk i)⟩, Function.update pcs i pc⟩

/-- Statements of the one request, all at one time, lead from one state to the other. -/
def Leads (env : Env) (req : ι → Request) (i : ι) (clk : Clock) (s s' : Sys ι) : Prop :=
  ∃ n, Runs.run (Sys.step env req) s (.replicate n (.run i clk)) = s'

lemma Leads.refl (s : Sys ι) : Leads env req i clk s s := ⟨0, rfl⟩

lemma Leads.trans {s s' s'' : Sys ι} (h : Leads env req i clk s s')
    (h' : Leads env req i clk s' s'') : Leads env req i clk s s'' := by
  obtain ⟨n, rfl⟩ := h
  obtain ⟨m, rfl⟩ := h'
  refine ⟨n + m, ?_⟩
  rw [List.replicate_add, Runs.run_append]

lemma Leads.next {s s' : Sys ι} (h : Leads env req i clk (s.next i env req clk) s') :
    Leads env req i clk s s' :=
  Leads.trans ⟨1, rfl⟩ h

section Alone

variable {pc : Pc}

@[simp] lemma alone_pc : (alone pcs i db ws pc).pc i = pc := Function.update_self _ _ _

@[simp] lemma alone_own : (alone pcs i db ws pc).store.own i = ws := by
  rw [alone, Store.own, List.filter_eq_self.mpr, List.map_map]
  · exact List.map_id ws
  · intro p hp
    obtain ⟨w, _, rfl⟩ := List.mem_map.mp hp
    exact decide_eq_true rfl

@[simp] lemma alone_view :
    (alone pcs i db ws pc).store.view i = ws.foldl (fun db w => w.run db) db := by
  rw [Store.view, alone_own]
  rfl

@[simp] lemma alone_write (w : Write DB Key) (pc' : Pc) :
    (alone pcs i db ws pc).write i w pc' = alone pcs i db (ws ++ [w]) pc' := by
  have hfree : ¬ (alone pcs i db ws pc).store.Waits i w := by
    rintro ⟨p, hp, hne, _⟩
    obtain ⟨v, _, rfl⟩ := List.mem_map.mp hp
    exact hne rfl
  rw [Sys.write, Store.write, if_neg hfree]
  simp only [alone, Function.update_idem, List.map_append, List.map_cons, List.map_nil]

@[simp] lemma alone_goto (pc' : Pc) :
    (alone pcs i db ws pc).goto i pc' = alone pcs i db ws pc' := by
  simp only [alone, Sys.goto, Function.update_idem]

lemma alone_pending :
    (alone pcs i db ws pc).store.pending.filter (·.1 ≠ i) = [] := by
  rw [List.filter_eq_nil_iff]
  intro p hp
  obtain ⟨w, _, rfl⟩ := List.mem_map.mp hp
  simp

@[simp] lemma alone_commit (pc' : Pc) : (alone pcs i db ws pc).commit i pc' =
    alone pcs i (ws.foldl (fun db w => w.run db) db) [] pc' := by
  rw [Sys.commit, Store.commit, alone_pending, alone_view]
  simp only [alone, Function.update_idem, List.map_nil]

@[simp] lemma alone_fail (e : ApiError) :
    (alone pcs i db ws pc).fail i e = alone pcs i db [] (.failed e) := by
  rw [Sys.fail, Store.abort, alone_pending]
  simp only [alone, Function.update_idem, List.map_nil]

end Alone

/-! ### Revocations -/

lemma leads_revoking (ws : List (Write DB Key)) (now : Clock) (ids : List Ulid)
    (rows : Option NewPasswordRows) :
    Leads env req i clk (alone pcs i db ws (.revoking now ids rows))
      (alone pcs i db (ws ++ ids.map (revokeToken now)) (.revoking now [] rows)) := by
  induction ids generalizing ws with
  | nil =>
    rw [List.map_nil, List.append_nil]
    exact .refl _
  | cons id ids ih =>
    refine .next ?_
    simp only [Sys.next, alone_pc, alone_write]
    have hrest := ih (ws ++ [revokeToken now id])
    rwa [List.append_assoc] at hrest

lemma foldl_revokeToken (now : Clock) (ids : List Ulid) (db : DB) :
    (ids.map (revokeToken now)).foldl (fun db w => w.run db) db =
      { db with
        refreshTokens := Tables.setWhere (·.id ∈ ids) (RefreshToken.revoke now)
          db.refreshTokens } := by
  induction ids generalizing db with
  | nil =>
    have hnone : Tables.setWhere (·.id ∈ []) (RefreshToken.revoke now) db.refreshTokens =
        db.refreshTokens := Tables.setWhere_of_not fun t _ => by simp
    rw [hnone]
    rfl
  | cons id ids ih =>
    rw [List.map_cons, List.foldl_cons, ih]
    simp only [revokeToken, revokeTokenDurable, Tables.set, Tables.setWhere, List.map_map]
    congr 1
    refine List.map_congr_left fun t _ => ?_
    by_cases hid : t.id = id
    · by_cases hids : t.id ∈ ids <;> simp [RefreshToken.revoke, hid]
    · simp [hid]

/-- The selected ids are those of the rows in scope, but for rows that read so already. -/
lemma setWhere_selectTokens (hkeys : (db.refreshTokens.map RefreshToken.id).Nodup)
    (scope : Scope) :
    Tables.setWhere (·.id ∈ selectTokens clk db scope) (RefreshToken.revoke clk)
      db.refreshTokens = Tables.setWhere scope.selects (RefreshToken.revoke clk)
        db.refreshTokens := by
  have hsome : Tables.setWhere (fun t => scope.selects t && t.revokedAt ≠ some clk.now)
      (RefreshToken.revoke clk) db.refreshTokens =
        Tables.setWhere scope.selects (RefreshToken.revoke clk) db.refreshTokens := by
    refine List.map_congr_left fun t _ => ?_
    by_cases hrev : t.revokedAt = some clk.now
    · have hsame : t.revoke clk = t := by rw [RefreshToken.revoke, ← hrev]
      simp [hsame]
    · simp [hrev]
  rw [← hsome]
  refine Tables.setWhere_mem_keys hkeys fun id => ?_
  simp only [selectTokens, List.mem_insertionSort, List.mem_map, List.mem_filter, and_assoc]

lemma leads_refused (hkeys : (db.refreshTokens.map RefreshToken.id).Nodup) (scope : Scope) :
    Leads env req i clk (alone pcs i db [] (.refused scope))
      (alone pcs i { db with
        refreshTokens := Tables.setWhere scope.selects (RefreshToken.revoke clk)
          db.refreshTokens } [] (.failed authenticationError)) := by
  refine .next ?_
  simp only [Sys.next, alone_pc, alone_goto, alone_view, List.foldl_nil]
  refine (leads_revoking [] clk _ none).trans (.next ?_)
  simp only [Sys.next, alone_pc, alone_goto]
  refine .next ?_
  simp only [Sys.next, alone_pc, alone_commit, afterRevocations, List.nil_append]
  rw [foldl_revokeToken, setWhere_selectTokens hkeys]
  exact .refl _

/-! ### The requests -/

/-- The request has come to what it comes to as one step. -/
def Finishes (env : Env) (req : ι → Request) (i : ι) (clk : Clock) (pcs : ι → Pc) (s : Sys ι)
    (o : Outcome (Option TokenPair)) : Prop :=
  ∃ pc, Leads env req i clk s (alone pcs i o.db [] pc) ∧ pc.answer = some o.response

lemma Finishes.next {s : Sys ι} {o : Outcome (Option TokenPair)}
    (h : Finishes env req i clk pcs (s.next i env req clk) o) : Finishes env req i clk pcs s o := by
  obtain ⟨pc, hleads, hanswer⟩ := h
  exact ⟨pc, hleads.next, hanswer⟩

lemma finishes_failed (e : ApiError) :
    Finishes env req i clk pcs (alone pcs i db [] (.failed e)) ⟨db, .error e⟩ :=
  ⟨_, .refl _, rfl⟩

lemma finishes_refused (hkeys : (db.refreshTokens.map RefreshToken.id).Nodup) (scope : Scope)
    {db' : DB} (hdb : { db with
      refreshTokens := Tables.setWhere scope.selects (RefreshToken.revoke clk)
        db.refreshTokens } = db') :
    Finishes env req i clk pcs (alone pcs i db [] (.refused scope))
      ⟨db', .error authenticationError⟩ := by
  subst hdb
  exact ⟨_, leads_refused hkeys scope, rfl⟩

lemma rotate_of_storable {stored : RefreshToken} {ip ua : Option String} {draw : TokenDraw}
    (h : TokenStorable (Tables.set RefreshToken.id stored.id (RefreshToken.rotate clk)
      db.refreshTokens)
      (buildRefreshToken env clk stored.userId stored.sessionFamilyId ip ua draw)) :
    rotate env clk db stored ip ua draw = .ok (exchangePair env clk stored draw,
      (insertToken (buildRefreshToken env clk stored.userId stored.sessionFamilyId ip ua
        draw)).run ((rotateToken clk stored).run db)) :=
  bind_ok.mpr ⟨(), ensure_ok.mpr h, rfl⟩

lemma rotate_of_not_storable {stored : RefreshToken} {ip ua : Option String} {draw : TokenDraw}
    (h : ¬ TokenStorable (Tables.set RefreshToken.id stored.id (RefreshToken.rotate clk)
      db.refreshTokens)
      (buildRefreshToken env clk stored.userId stored.sessionFamilyId ip ua draw)) :
    rotate env clk db stored ip ua draw = .error internalError := by
  simp only [rotate, ensure, if_neg h]
  rfl

lemma finishes_checked {data : RefreshRequest} {http : HttpRequest} {draw : TokenDraw}
    (hreq : req i = .refresh data http draw) (stored : RefreshToken) {o : Outcome TokenPair}
    (ho : Outcome.transaction db
      (rotate env clk db stored http.clientIp http.userAgent draw) = o) :
    Finishes env req i clk pcs (alone pcs i db [] (.checked stored))
      ⟨o.db, o.response.map some⟩ := by
  refine .next ?_
  simp only [Sys.next, alone_pc, alone_write, List.nil_append]
  refine .next ?_
  simp only [Sys.next, alone_pc, alone_view, hreq, List.foldl_cons, List.foldl_nil]
  split
  · next hst =>
    rw [rotate_of_storable hst] at ho
    subst ho
    rw [alone_write]
    refine .next ?_
    simp only [Sys.next, alone_pc, alone_commit]
    exact ⟨_, .refl _, rfl⟩
  · next hst =>
    rw [rotate_of_not_storable hst] at ho
    subst ho
    rw [alone_fail]
    exact finishes_failed _

lemma finishes_refresh {data : RefreshRequest} {http : HttpRequest} {draw : TokenDraw}
    (hreq : req i = .refresh data http draw)
    (hkeys : (db.refreshTokens.map RefreshToken.id).Nodup) :
    Finishes env req i clk pcs (alone pcs i db [] .start)
      (((req i).call clk).handle env db) := by
  refine .next ?_
  simp only [Sys.next, alone_pc, alone_view, alone_goto, List.foldl_nil, hreq, Request.begin,
    Request.call, AuthCall.handle, refresh]
  cases hfind : findToken env db data.refreshToken with
  | none => exact finishes_failed _
  | some stored =>
    by_cases hspent : stored.revokedAt ≠ none ∨ stored.rotatedAt ≠ none
    · simp only [if_pos hspent]
      exact finishes_refused hkeys (.family stored.sessionFamilyId) rfl
    by_cases hexp : stored.expiresAt ≤ clk.now
    · simp only [if_neg hspent, if_pos hexp]
      exact finishes_refused hkeys (.token stored.id) rfl
    simp only [if_neg hspent, if_neg hexp]
    refine .next ?_
    simp only [Sys.next, alone_pc, alone_view, alone_goto, List.foldl_nil, readUser]
    cases huser : (getUser db stored.userId).filter (·.deletedAt = none) with
    | none => exact finishes_refused hkeys (.family stored.sessionFamilyId) rfl
    | some user =>
      by_cases hactive : user.status ≠ .active
      · simp only [if_pos hactive]
        exact finishes_failed _
      · simp only [if_neg hactive]
        exact finishes_checked hreq stored rfl

/-! ### New passwords -/

/-- The database with everything a new password writes but the audit row. -/
def withNewPassword (clk : Clock) (db : DB) (rows : NewPasswordRows) : DB :=
  { revokeAllUserSessions clk db rows.user.id with
    users := Tables.set User.id rows.user.id (fun _ => rows.row) db.users
    passwordResetTokens := Tables.setWhere (·.id ∈ rows.consumed)
      (fun t => { t with consumedAt := some rows.consumedAt }) db.passwordResetTokens }

lemma foldl_newPassword (hkeys : (db.refreshTokens.map RefreshToken.id).Nodup)
    (rows : NewPasswordRows) :
    (([updateUser rows] ++ (selectTokens clk db (.sessions rows.user.id)).map
      (revokeToken clk)).foldl (fun db w => w.run db) db) = withNewPassword clk db rows := by
  have htok : Tables.setWhere (·.id ∈ selectTokens clk db (.sessions rows.user.id))
      (RefreshToken.revoke clk) db.refreshTokens =
        (revokeAllUserSessions clk db rows.user.id).refreshTokens :=
    setWhere_selectTokens hkeys _
  rw [List.foldl_append, foldl_revokeToken]
  change { (updateUser rows).run db with
    refreshTokens := Tables.setWhere (·.id ∈ selectTokens clk db (.sessions rows.user.id))
      (RefreshToken.revoke clk) db.refreshTokens } = _
  rw [htok]
  rfl

lemma finishes_authorized (hkeys : (db.refreshTokens.map RefreshToken.id).Nodup)
    {rows : NewPasswordRows} (huser : getUser db rows.user.id = some rows.user) :
    Finishes env req i clk pcs (alone pcs i db [] (.authorized rows))
      (.noContent db (audit env rows.ctx rows.entry (withNewPassword clk db rows))) := by
  refine .next ?_
  simp only [Sys.next, alone_pc, alone_view, alone_goto, List.foldl_nil]
  refine .next ?_
  simp only [Sys.next, alone_pc, alone_view, List.foldl_nil, huser, Option.map_some, if_true,
    alone_write, List.nil_append]
  obtain ⟨pc, hleads, hanswer⟩ : Finishes env req i clk pcs
      (alone pcs i db ([updateUser rows] ++
        (selectTokens clk db (.sessions rows.user.id)).map (revokeToken clk))
        (.revoking clk [] (some rows)))
      (.noContent db (audit env rows.ctx rows.entry (withNewPassword clk db rows))) := by
    refine .next ?_
    simp only [Sys.next, alone_pc]
    by_cases haud : Auditable env (auditRow rows.ctx rows.entry)
    · rw [if_pos haud, alone_write]
      refine .next ?_
      simp only [Sys.next, alone_pc, alone_commit, afterRevocations]
      rw [List.foldl_append, foldl_newPassword hkeys, audit_ok.mpr ⟨haud, rfl⟩]
      exact ⟨_, .refl _, rfl⟩
    · rw [if_neg haud, alone_fail]
      rw [audit_refused haud]
      exact finishes_failed _
  exact ⟨pc, (leads_revoking _ clk _ (some rows)).trans hleads, hanswer⟩

lemma changePassword_eq (env : Env) (clk : Clock) (db : DB) (data : PasswordChange)
    (ord : RowOrder) (http : HttpRequest) (salt : ℕ) :
    (do
      let ctx ← requireAuthenticated db ord clk http
      changePassword env clk ctx db data salt) =
    (do
      let rows ← readChange env clk db data ord http salt
      audit env rows.ctx rows.entry (withNewPassword clk db rows)) := by
  have hnone : Tables.setWhere (·.id ∈ []) (fun t : PasswordResetToken =>
      { t with consumedAt := some clk.now }) db.passwordResetTokens = db.passwordResetTokens :=
    Tables.setWhere_of_not fun t _ => by simp
  simp only [readChange, changePassword, bind_assoc, pure_bind, withNewPassword, hnone]
  rfl

lemma confirmPasswordReset_eq (env : Env) (clk : Clock) (db : DB) (data : PasswordResetConfirm)
    (http : HttpRequest) (salt : ℕ)
    (hkeys : (db.passwordResetTokens.map PasswordResetToken.id).Nodup) :
    confirmPasswordReset env clk db data http.clientIp salt =
    (do
      let rows ← readReset env clk db data http salt
      audit env rows.ctx rows.entry (withNewPassword clk db rows)) := by
  have hconsumed : ∀ (stored : PasswordResetToken) (userId : Ulid),
      Tables.setWhere (·.id ∈ (db.passwordResetTokens.filter fun t =>
        t.id = stored.id ∨ t.userId = userId ∧ t.consumedAt = none).map PasswordResetToken.id)
        (fun t : PasswordResetToken => { t with consumedAt := some clk.now })
        db.passwordResetTokens = consumeResetTokens clk db stored userId := by
    intro stored userId
    refine Tables.setWhere_mem_keys hkeys fun id => ?_
    simp only [List.mem_map, List.mem_filter, and_assoc]
  simp only [readReset, confirmPasswordReset, bind_assoc, pure_bind, withNewPassword, hconsumed]

lemma readChange_user {data : PasswordChange} {ord : RowOrder} {http : HttpRequest} {salt : ℕ}
    {rows : NewPasswordRows} (h : readChange env clk db data ord http salt = .ok rows) :
    getUser db rows.user.id = some rows.user := by
  simp only [readChange, bind_ok, found_ok, pure_ok] at h
  obtain ⟨ctx, _, user, hu, _, _, rfl⟩ := h
  cases hid : ctx.userId with
  | none =>
    rw [hid] at hu
    cases hu
  | some id =>
    rw [hid] at hu
    exact (getUser_self hu).2

lemma readReset_user {data : PasswordResetConfirm} {http : HttpRequest} {salt : ℕ}
    {rows : NewPasswordRows} (h : readReset env clk db data http salt = .ok rows) :
    getUser db rows.user.id = some rows.user := by
  simp only [readReset, bind_ok, found_ok, pure_ok] at h
  obtain ⟨stored, _, _, _, user, hu, _, _, rfl⟩ := h
  exact (getUser_self hu).2

/-- **The levels agree**: run alone, the statements of a request lead to the state and the
answer of the request taken as one step. -/
theorem alone_finishes (env : Env) (req : ι → Request) (i : ι) (clk : Clock) (pcs : ι → Pc)
    (db : DB) (hkeys : (db.refreshTokens.map RefreshToken.id).Nodup)
    (hresets : (db.passwordResetTokens.map PasswordResetToken.id).Nodup) :
    Finishes env req i clk pcs (alone pcs i db [] .start) (((req i).call clk).handle env db) := by
  cases hreq : req i with
  | refresh data http draw =>
    rw [← hreq]
    exact finishes_refresh hreq hkeys
  | changePassword data ord http salt =>
    refine .next ?_
    simp only [Sys.next, alone_pc, alone_view, alone_goto, List.foldl_nil, hreq, Request.begin,
      Request.call, AuthCall.handle, changePassword_eq]
    cases hread : readChange env clk db data ord http salt with
    | error e => exact finishes_failed e
    | ok rows => exact finishes_authorized hkeys (readChange_user hread)
  | confirmPasswordReset data http salt =>
    refine .next ?_
    simp only [Sys.next, alone_pc, alone_view, alone_goto, List.foldl_nil, hreq, Request.begin,
      Request.call, AuthCall.handle, confirmPasswordReset_eq env clk db data http salt hresets]
    cases hread : readReset env clk db data http salt with
    | error e => exact finishes_failed e
    | ok rows => exact finishes_authorized hkeys (readReset_user hread)

end SchoolOs
