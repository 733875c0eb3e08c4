import SchoolOs.Escalation
import SchoolOs.Lockout

/-!
Suspended accounts: what brings an account back that an administrator took out of service.
-/

namespace SchoolOs

variable {env : Env} {clk : Clock} {ctx : RequestContext} {db : DB} {u : Ulid}

/-- The user exists and is not active. -/
def Suspended (u : Ulid) (db : DB) : Prop :=
  (∃ r ∈ db.users, r.id = u) ∧ ∀ r ∈ db.users, r.id = u → r.status ≠ .active

instance (u : Ulid) (db : DB) : Decidable (Suspended u db) := inferInstanceAs (Decidable (_ ∧ _))

/-- The request is an update of the user to `ACTIVE`, and goes through. -/
def Reinstates (env : Env) (u : Ulid) (db : DB) (call : ApiCall) : Prop :=
  ∃ c data, call = .iam c ∧ c.op = .updateUser u data ∧ data.status = some .active ∧
    ∃ db', c.handle env db = .ok db'

/-- The request answers with tokens of the user. -/
def TokensFor (env : Env) (u : Ulid) (db : DB) (call : ApiCall) : Prop :=
  ∃ c pair, call = .auth c ∧ (c.handle env db).response = .ok (some pair) ∧ pair.userId = u

/-- The request confirms a password reset with an open token of the user. -/
def ResetsBack (env : Env) (u : Ulid) (db : DB) (call : ApiCall) : Prop :=
  ∃ c data salt stored user, call = .auth c ∧ c.op = .confirmPasswordReset data salt ∧
    Tables.get PasswordResetToken.tokenHash (env.hashRefreshToken data.token)
      db.passwordResetTokens = some stored ∧
    stored.consumedAt = none ∧ c.clk.now < stored.expiresAt ∧ stored.userId = u ∧
    getUser db u = some user ∧ user.deletedAt = none ∧ varchar 45 c.http.clientIp = true

/-- The suspension holds over a run: from its start and after every request the user is not
active, and no request answers with tokens of the user. -/
def Sticks (env : Env) (u : Ulid) (db : DB) (l : List ApiCall) : Prop :=
  Suspended u db ∧ Runs.Along (ApiCall.step env)
    (fun db call => Suspended u (call.step env db) ∧ ¬ TokensFor env u db call) db l

/-! ### Changes that leave the suspension -/

/-- No row of the user becomes active, and no user goes. -/
structure KeepsSuspended (u : Ulid) (db db' : DB) : Prop where
  noNew : Tables.NoNew User.id (fun r => r.id = u ∧ r.status = .active) db.users db'.users
  kept : ∀ r ∈ db.users, ∃ r' ∈ db'.users, r'.id = r.id

lemma KeepsSuspended.suspended {db' : DB} (h : KeepsSuspended u db db') (hs : Suspended u db) :
    Suspended u db' := by
  obtain ⟨⟨r, hr, hid⟩, hnot⟩ := hs
  refine ⟨?_, fun r' hr' hid' hact => ?_⟩
  · obtain ⟨r', hr', hid'⟩ := h.kept r hr
    exact ⟨r', hr', hid'.trans hid⟩
  · obtain ⟨r0, hr0, _, h0, hact0⟩ := h.noNew r' hr' ⟨hid', hact⟩
    exact hnot r0 hr0 h0 hact0

lemma keepsSuspended_of_users {db' : DB} (h : db'.users = db.users) : KeepsSuspended u db db' where
  noNew := h ▸ Tables.NoNew.refl _ _
  kept := fun r hr => ⟨r, h ▸ hr, rfl⟩

/-- A row written over another with its id, active only when that one is. -/
lemma keepsSuspended_set {db' : DB} {user row : User} (hu : user ∈ db.users)
    (hid : row.id = user.id) (hact : user.id = u → row.status = .active → user.status = .active)
    (h : db'.users = Tables.set User.id user.id (fun _ => row) db.users) :
    KeepsSuspended u db db' where
  noNew := by
    rw [h]
    exact Tables.NoNew.set hu hid fun hrow =>
      ⟨hid ▸ hrow.1, hact (hid ▸ hrow.1) hrow.2⟩
  kept := by
    intro r hr
    have hmem : r.id ∈ db'.users.map User.id := by
      rw [h, Tables.map_key_set_row hid]
      exact List.mem_map_of_mem hr
    exact List.mem_map.mp hmem

lemma savedUser_status (before user : User) :
    (flushed User.touch before user).status = user.status :=
  savedUser_col User.status (fun _ => rfl) before user

lemma savedUser_id (before user : User) : (flushed User.touch before user).id = user.id :=
  savedUser_col User.id (fun _ => rfl) before user

/-- A user row flushed with a status that is active only when the one before is. -/
lemma keepsSuspended_flush {db' : DB} {before user : User} (hb : before ∈ db.users)
    (hid : user.id = before.id)
    (hact : before.id = u → user.status = .active → before.status = .active)
    (h : db'.users = Tables.set User.id before.id (fun _ => flushed User.touch before user)
      db.users) : KeepsSuspended u db db' := by
  refine keepsSuspended_set hb ((savedUser_id before user).trans hid) (fun hu hs => ?_) h
  rw [savedUser_status] at hs
  exact hact hu hs

lemma keepsSuspended_save {entry : AuditEntry} {before user : User} {r : User × DB}
    (h : Users.save env ctx db entry before user = .ok r) (hb : before ∈ db.users)
    (hid : user.id = before.id)
    (hact : before.id = u → user.status = .active → before.status = .active) :
    KeepsSuspended u db r.2 := by
  obtain ⟨_, _, rfl⟩ := Users.save_ok.mp h
  have hrow : (Users.savedRow before user).id = before.id := (savedUser_id _ _).trans hid
  refine keepsSuspended_flush hb hid hact ?_
  simp only [log_users, hrow]
  rfl

/-! ### Administration -/

/-- Nothing an administrator does short of reinstating the user lifts the suspension. -/
theorem suspended_iam {call : IamCall} (hn : ¬ Reinstates env u db (.iam call))
    (hs : Suspended u db) : Suspended u (call.step env db) := by
  rcases IamCall.step_cases env db call with he | ⟨ctx, db', hctx, hserve, he⟩
  · rwa [he]
  rw [he]
  have hgo : call.handle env db = .ok db' := bind_ok.mpr ⟨ctx, hctx, hserve⟩
  obtain ⟨clk, ord, http, op⟩ := call
  suffices KeepsSuspended u db db' from this.suspended hs
  cases serve_effect hserve with
  | membershipCreated _ _ | membershipUpdated _ _ _ _ | membershipEnded _ _ _ _
  | roleGranted _ _ _ _ _ _ _ _ | roleRevoked _ _ _ _ => exact keepsSuspended_of_users rfl
  | @userCreated data userId membershipId salt o hc =>
    obtain ⟨r, hr, hid⟩ := hs.1
    refine ⟨Tables.NoNew.append fun hnew => ?_, fun r hr => ⟨r, List.mem_append_left _ hr, rfl⟩⟩
    exact hc.freshUser.2 _ (List.mem_singleton_self _) r hr (hid.trans hnew.1.symm)
  | @userUpdated id data user entry r hu _ hsave =>
    have hget : getUser db id = some user := (Users.getOwned_ok hu).1
    refine keepsSuspended_save hsave (getUser_some hget).1 rfl fun huser hact => ?_
    rcases hd : data.status with _ | status
    · simpa [Users.applyUpdate, hd] using hact
    · have hactive : status = .active := by simpa [Users.applyUpdate, hd] using hact
      obtain rfl : id = u := (getUser_some hget).2.symm.trans huser
      exact absurd ⟨_, data, rfl, rfl, hd.trans (congrArg _ hactive), _, hgo⟩ hn
  | userDeleted user entry r hu _ hsave =>
    exact keepsSuspended_save hsave (getUser_some (Users.getOwned_ok hu).1).1 rfl fun _ h => h
  | platformAdminToggled user r _ ht => exact absurd ht (togglePlatformAdmin_error user _ r)
  | roleCreated hf | roleUpdated hf | roleDeleted hf =>
    obtain ⟨_, _, _, rfl⟩ := hf
    exact keepsSuspended_of_users rfl

/-! ### Authentication -/

lemma countFailure_status (env : Env) (clk : Clock) (user : User) :
    (countFailure env clk user).status = user.status := by
  unfold countFailure
  split <;> rfl

lemma countFailure_id (env : Env) (clk : Clock) (user : User) :
    (countFailure env clk user).id = user.id := by
  unfold countFailure
  split <;> rfl

lemma keepsSuspended_registerFailure {db' : DB} {v : Ulid}
    (h : db'.users = (registerFailure env clk db v).users) : KeepsSuspended u db db' := by
  have hid : ∀ r, (flushed User.touch r (countFailure env clk r)).id = r.id := fun r =>
    (savedUser_id r _).trans (countFailure_id env clk r)
  have hst : ∀ r, (flushed User.touch r (countFailure env clk r)).status = r.status := fun r =>
    (savedUser_status r _).trans (countFailure_status env clk r)
  refine ⟨?_, fun r hr => ?_⟩
  · rw [h]
    refine Tables.NoNew.setWhere hid fun r hr => ?_
    rwa [hid, hst] at hr
  · have hmem : r.id ∈ db'.users.map User.id := by
      rw [h]
      exact (Tables.map_setWhere User.id hid db.users).symm ▸ List.mem_map_of_mem hr
    exact List.mem_map.mp hmem

lemma confirmPasswordReset_users {data : PasswordResetConfirm} {ip : Option String} {salt : ℕ}
    {db' : DB} (h : confirmPasswordReset env clk db data ip salt = .ok db') :
    ∃ stored user row, Tables.get PasswordResetToken.tokenHash (env.hashRefreshToken data.token)
        db.passwordResetTokens = some stored ∧
      stored.consumedAt = none ∧ clk.now < stored.expiresAt ∧
      getUser db stored.userId = some user ∧ user.deletedAt = none ∧ varchar 45 ip = true ∧
      row.id = user.id ∧ row.status = .active ∧
      db'.users = Tables.set User.id user.id (fun _ => row) db.users := by
  simp only [confirmPasswordReset, bind_ok, found_ok, ensure_ok, audit_ok] at h
  obtain ⟨stored, hst, _, ⟨hopen, hexp⟩, user, hu, _, hdel, haudit, rfl⟩ := h
  have hid := savedUser_id user
    { withPassword env clk user data.newPassword salt with status := .active }
  have hstatus := savedUser_status user
    { withPassword env clk user data.newPassword salt with status := .active }
  exact ⟨stored, user, _, hst, hopen, hexp, hu, hdel, haudit.2.2.1, hid, hstatus, rfl⟩

lemma ResetsBack.goes {call : ApiCall} (h : ResetsBack env u db call) :
    ∃ row, row.id = u ∧ row.status = .active ∧
      (call.step env db).users = Tables.set User.id u (fun _ => row) db.users ∧
      ∃ r ∈ db.users, r.id = u := by
  obtain ⟨⟨clk, ord, http, op⟩, data, salt, stored, user, rfl, hop, hst, hopen, hexp, hid, hu, hdel,
    hip⟩ := h
  obtain ⟨huser, huid⟩ := getUser_some hu
  simp only at hop hexp hip
  subst hop
  have hgo : ∃ db', confirmPasswordReset env clk db data http.clientIp salt = .ok db' := by
    simp only [confirmPasswordReset, bind_ok, found_ok, ensure_ok, audit_ok]
    refine ⟨_, stored, hst, (), ⟨hopen, hexp⟩, user, hid ▸ hu, (), hdel, ?_, rfl⟩
    exact ⟨show "PASSWORD_RESET_CONFIRMED" ∈ auditActions by decide, rfl, hip,
      by simp [auditRow], by simp [auditRow]⟩
  obtain ⟨db', hdb'⟩ := hgo
  obtain ⟨stored', user', row, hst', _, _, hu', _, _, hrow, hact, husers⟩ :=
    confirmPasswordReset_users hdb'
  obtain rfl := Option.some.inj (hst.symm.trans hst')
  rw [hid, hu] at hu'
  obtain rfl := Option.some.inj hu'
  refine ⟨row, hrow.trans huid, hact, ?_, user, huser, huid⟩
  have hstep :
      (ApiCall.auth ⟨clk, ord, http, .confirmPasswordReset data salt⟩).step env db = db' := by
    simp only [ApiCall.step, AuthCall.step, AuthCall.handle, Outcome.noContent, hdb']
    rfl
  rw [hstep, husers, huid]

/-- A reset with an open token of the user ends the suspension. -/
theorem not_suspended_of_resetsBack {call : ApiCall} (h : ResetsBack env u db call) :
    ¬ Suspended u (call.step env db) := by
  obtain ⟨row, hid, hact, husers, r, hr, hru⟩ := h.goes
  intro hs
  refine hs.2 row ?_ hid hact
  rw [husers]
  exact Tables.mem_set.mpr ⟨r, hr, if_pos hru⟩

lemma keepsSuspended_confirm {call : AuthCall} {data : PasswordResetConfirm} {salt : ℕ} {db' : DB}
    (hop : call.op = .confirmPasswordReset data salt)
    (hn : ¬ ResetsBack env u db (.auth call))
    (h : confirmPasswordReset env call.clk db data call.http.clientIp salt = .ok db') :
    KeepsSuspended u db db' := by
  obtain ⟨stored, user, row, hst, hopen, hexp, hu, hdel, hip, hrow, _, husers⟩ :=
    confirmPasswordReset_users h
  refine keepsSuspended_set (getUser_some hu).1 hrow (fun huser => ?_) husers
  have hid : stored.userId = u := (getUser_some hu).2.symm.trans huser
  exact absurd ⟨call, data, salt, stored, user, rfl, hop, hst, hopen, hexp, hid, hid ▸ hu, hdel,
    hip⟩ hn

lemma keepsSuspended_change {data : PasswordChange} {salt : ℕ} {db' : DB}
    (h : changePassword env clk ctx db data salt = .ok db') : KeepsSuspended u db db' := by
  simp only [changePassword, bind_ok, found_ok, ensure_ok, audit_ok, Option.bind_eq_some_iff] at h
  obtain ⟨user, ⟨v, _, hu⟩, _, _, _, rfl⟩ := h
  have husers : (Tables.set User.id user.id (fun _ => flushed User.touch user
      (withPassword env clk user data.newPassword salt)) db.users) = _ := rfl
  refine keepsSuspended_flush (getUser_some hu).1 ?_ ?_ husers
  · rfl
  · exact fun _ hact => hact

lemma keepsSuspended_noContent {body : Fallible DB}
    (h : ∀ db', body = .ok db' → KeepsSuspended u db db') :
    KeepsSuspended u db (Outcome.noContent db body : Outcome (Option TokenPair)).db := by
  cases hbody : body with
  | error e => exact keepsSuspended_of_users rfl
  | ok db' => exact h db' hbody

/-- No authentication request short of such a reset lifts the suspension. -/
theorem keepsSuspended_auth {call : AuthCall} (hn : ¬ ResetsBack env u db (.auth call)) :
    KeepsSuspended u db (call.step env db) := by
  cases hop : call.op with
  | confirmPasswordReset data salt =>
    simp only [AuthCall.step, AuthCall.handle, hop]
    exact keepsSuspended_noContent fun db' h => keepsSuspended_confirm hop hn h
  | changePassword data salt =>
    simp only [AuthCall.step, AuthCall.handle, hop]
    refine keepsSuspended_noContent fun db' h => ?_
    obtain ⟨ctx, _, h⟩ := bind_ok.mp h
    exact keepsSuspended_change h
  | login _ _ _ | refresh _ _ | logout _ | requestPasswordReset _ _ =>
    cases handle_effect env db call with
    | idle h _ _ | revokedFamily _ _ h _ _ | expired _ _ _ _ h _ _ | rotated _ _ _ _ h _
    | loggedOut _ _ h _ _ => exact keepsSuspended_of_users h
    | counted _ _ h _ _ => exact keepsSuspended_registerFailure h
    | @loggedIn _ _ _ user _ _ _ hm h _ =>
      refine keepsSuspended_flush hm ?_ ?_ h
      · rfl
      · exact fun _ hact => hact
    | passwordSet hsets _ _ _ _ _ =>
      rcases hsets with ⟨_, _, he, _⟩ | ⟨_, _, _, he, _⟩ <;> rw [hop] at he <;> cases he

/-! ### Tokens -/

lemma verification_active {data : LoginRequest} {user : User} {ok : Bool}
    (h : verification env clk db data = some (user, ok)) : user.status = .active := by
  unfold verification at h
  split at h
  · cases h
  next v hf =>
  split at h
  · cases h
  split at h
  · cases h
  next hs =>
  obtain ⟨rfl, -⟩ := Prod.mk.inj (Option.some.inj h)
  simpa using hs

lemma login_tokens {data : LoginRequest} {ip ua : Option String} {familyId : Ulid}
    {draw : TokenDraw} {pair : TokenPair}
    (h : (login env clk db data ip ua familyId draw).response = .ok pair) :
    ∃ user ∈ db.users, user.id = pair.userId ∧ user.status = .active := by
  have hpath := login_path env clk db data ip ua familyId draw
  generalize login env clk db data ip ua familyId draw = o at hpath h
  cases hpath with
  | unbindable _ => cases h
  | refused _ _ | failed _ _ =>
    unfold Outcome.after at h
    split at h <;> cases h
  | @verified user _ hv =>
    refine ⟨user, findUser_mem (verification_found hv).1, ?_, verification_active hv⟩
    unfold Outcome.after at h
    split at h
    next db1 _ =>
      simp only [Outcome.transaction] at h
      split at h
      next p db2 hdone =>
        obtain rfl := Except.ok.inj h
        exact (completeLogin_ok hdone).2.2.1.symm
      next => cases h
    next => cases h

lemma refresh_tokens {data : RefreshRequest} {ip ua : Option String} {draw : TokenDraw}
    {pair : TokenPair} (h : (refresh env clk db data ip ua draw).response = .ok pair) :
    ∃ user ∈ db.users, user.id = pair.userId ∧ user.status = .active := by
  unfold refresh at h
  split at h
  · cases h
  next stored _ =>
  split at h
  · cases h
  split at h
  · cases h
  split at h
  · cases h
  next user hu =>
  split at h
  · cases h
  next hs =>
  obtain ⟨hmem, hid⟩ := getUser_some (Option.filter_eq_some_iff.mp hu).1
  refine ⟨user, hmem, ?_, by simpa using hs⟩
  unfold Outcome.transaction at h
  split at h
  next p db' hdone =>
    obtain rfl := Except.ok.inj h
    simp only [rotate, bind_ok, pure_ok] at hdone
    obtain ⟨_, _, he⟩ := hdone
    rw [hid, (Prod.mk.inj he).1.symm]
  next => cases h

/-- A suspended user gets no tokens. -/
theorem no_tokens (hs : Suspended u db) (call : ApiCall) : ¬ TokensFor env u db call := by
  rintro ⟨⟨clk, ord, http, op⟩, pair, rfl, hresp, rfl⟩
  have hnone : ∀ body : Fallible DB,
      (Outcome.noContent db body : Outcome (Option TokenPair)).response ≠ .ok (some pair) := by
    intro body h
    cases body <;> cases h
  suffices ∃ user ∈ db.users, user.id = pair.userId ∧ user.status = .active by
    obtain ⟨user, hmem, hid, hact⟩ := this
    exact hs.2 user hmem hid hact
  cases op with
  | login data familyId draw =>
    obtain ⟨p, hp, he⟩ := map_ok.mp hresp
    obtain rfl := Option.some.inj he
    exact login_tokens hp
  | refresh data draw =>
    obtain ⟨p, hp, he⟩ := map_ok.mp hresp
    obtain rfl := Option.some.inj he
    exact refresh_tokens hp
  | logout _ | requestPasswordReset _ _ | confirmPasswordReset _ _ | changePassword _ _ =>
    exact absurd hresp (hnone _)

/-! ### Runs -/

/-- **One step**: a request that neither reinstates the user nor resets its password leaves it
suspended. -/
theorem suspended_step {call : ApiCall} (hr : ¬ Reinstates env u db call)
    (hb : ¬ ResetsBack env u db call) (hs : Suspended u db) : Suspended u (call.step env db) := by
  cases call with
  | iam call => exact suspended_iam hr hs
  | auth call => exact (keepsSuspended_auth hb).suspended hs

/-- The update that suspends: the user is suspended once it has gone through. -/
lemma suspended_update {call : IamCall} {data : UserUpdate} {user : User} {db' : DB}
    (hop : call.op = .updateUser u data) (hu : getUser db u = some user)
    (hs : data.status.getD user.status ≠ .active) (h : call.handle env db = .ok db') :
    Suspended u db' := by
  obtain ⟨ctx, _, hserve⟩ := bind_ok.mp h
  rw [hop] at hserve
  cases serve_effect hserve with
  | userUpdated loaded entry r hl _ hsave =>
    obtain rfl := Option.some.inj (hu.symm.trans (Users.getOwned_ok hl).1)
    obtain ⟨hmem, hid⟩ := getUser_some hu
    obtain ⟨_, _, rfl⟩ := Users.save_ok.mp hsave
    generalize hup : { Users.applyUpdate data user with updatedById := ctx.userId } = updated
    have hrow : (Users.savedRow user updated).id = u :=
      (savedUser_id user updated).trans (hup ▸ hid)
    have hst : (Users.savedRow user updated).status ≠ .active := by
      rw [Users.savedRow, savedUser_status, ← hup]
      exact hs
    refine ⟨⟨_, Tables.mem_set.mpr ⟨user, hmem, if_pos (hid.trans hrow.symm)⟩, hrow⟩,
      fun r hr hru => ?_⟩
    obtain ⟨r0, _, he⟩ := Tables.mem_set.mp hr
    rw [hrow] at he
    split at he
    · exact he ▸ hst
    · next hne => exact absurd (he ▸ hru) hne

/-- **Suspension sticks, exactly when**: from an administrator's update to a status other than
`ACTIVE`, and until one to `ACTIVE`, the user stays out of service if and only if nobody confirms a
password reset with an open token of the user. -/
theorem suspension_sticks_iff {call : IamCall} {data : UserUpdate} {user : User} {db' : DB}
    {l : List ApiCall} (hop : call.op = .updateUser u data) (hu : getUser db u = some user)
    (hs : data.status.getD user.status ≠ .active) (h : call.handle env db = .ok db')
    (hl : Runs.Along (ApiCall.step env) (fun db c => ¬ Reinstates env u db c) db' l) :
    Sticks env u db' l ↔
      Runs.Along (ApiCall.step env) (fun db c => ¬ ResetsBack env u db c) db' l := by
  have hstart : Suspended u db' := suspended_update hop hu hs h
  refine ⟨fun hsticks => ?_, fun hb => ⟨hstart, ?_⟩⟩
  · refine hsticks.2.imp fun db c hc hback => ?_
    exact not_suspended_of_resetsBack hback hc.1
  · have hstep : ∀ db c, ¬ Reinstates env u db c ∧ ¬ ResetsBack env u db c → Suspended u db →
        Suspended u (ApiCall.step env db c) := fun db c hc => suspended_step hc.1 hc.2
    exact Runs.along_of_invariant hstep (fun db c hc hsus => ⟨hstep db c hc hsus, no_tokens hsus c⟩)
      (hl.and hb) hstart

/-! ### A reset link from before the suspension -/

/-- A platform admin and a user. -/
def adminAndUser : DB := { DB.empty with
  users := [{ User.new 1 (some "a@b.c") none none .active none with isPlatformAdmin := true },
    User.new 2 (some "d@e.f") none (some "$correct1") .active none] }

def requestReset : ApiCall := .auth (sessionCall 1
  (.requestPasswordReset ⟨"d@e.f", by decide⟩ ⟨71, "reset"⟩))

def suspendCall : IamCall where
  clk := ⟨2, 0⟩
  ord := .heap
  http := ⟨some 1, none, "r", some "127.0.0.1", some "agent"⟩
  op := .updateUser 2 ⟨none, none, some .suspended, none, 1, no_email, no_phone, one_le_first⟩

def confirmReset : ApiCall := .auth (sessionCall 3
  (.confirmPasswordReset ⟨"reset", "password2", by decide, by decide⟩ 1))

/-- The reset was asked for, and the user suspended. -/
def suspendedAfterRequest : DB := Runs.run (ApiCall.step .plain) adminAndUser
  [requestReset, .iam suspendCall]

/-- A login does not bring the user back. -/
theorem suspendedAfterRequest_sticks :
    Sticks .plain 2 suspendedAfterRequest [.auth loginCall] := by
  have hgo : suspendCall.handle .plain (requestReset.step .plain adminAndUser) =
      .ok suspendedAfterRequest := rfl
  have hno : ¬ Reinstates .plain 2 suspendedAfterRequest (.auth loginCall) := by
    rintro ⟨_, _, he, _⟩
    cases he
  have hreset : ¬ ResetsBack .plain 2 suspendedAfterRequest (.auth loginCall) := by
    rintro ⟨_, _, _, _, _, he, hop, _⟩
    obtain rfl := ApiCall.auth.inj he
    cases hop
  have hl : Runs.Along (ApiCall.step .plain) (fun db c => ¬ Reinstates .plain 2 db c)
      suspendedAfterRequest [.auth loginCall] := ⟨hno, trivial⟩
  have hu : getUser (requestReset.step .plain adminAndUser) 2 =
      some (User.new 2 (some "d@e.f") none (some "$correct1") .active none) := rfl
  exact (suspension_sticks_iff rfl hu (by decide) hgo hl).mpr ⟨hreset, trivial⟩

/-- The link does. -/
theorem suspendedAfterRequest_reset : ¬ ∀ (env : Env) (u : Ulid) (db db' : DB) (call : IamCall)
    (data : UserUpdate) (user : User) (l : List ApiCall), call.op = .updateUser u data →
    getUser db u = some user → data.status.getD user.status ≠ .active →
    call.handle env db = .ok db' →
    Runs.Along (ApiCall.step env) (fun db c => ¬ Reinstates env u db c) db' l →
    Sticks env u db' l := by
  intro h
  have hno : ¬ Reinstates .plain 2 suspendedAfterRequest confirmReset := by
    rintro ⟨_, _, he, _⟩
    cases he
  have hsticks := h .plain 2 (requestReset.step .plain adminAndUser) suspendedAfterRequest
    suspendCall _ _ [confirmReset] rfl rfl (by decide) rfl ⟨hno, trivial⟩
  have hsus : Suspended 2 (confirmReset.step .plain suspendedAfterRequest) := hsticks.2.1.1
  revert hsus
  decide

end SchoolOs
