import SchoolOs.AuthEffects
import SchoolOs.Iam

/-!
Who can become platform staff: what every request of the administration and authentication
routes does to the flag `is_platform_admin`.
-/

namespace SchoolOs

variable {env : Env} {clk : Clock} {ctx : RequestContext} {db : DB}

/-- A request of the API. -/
inductive ApiCall
  | iam (call : IamCall)
  | auth (call : AuthCall)

def ApiCall.step (env : Env) (db : DB) : ApiCall → DB
  | .iam call => call.step env db
  | .auth call => call.step env db

/-- Every platform admin of the later state was one in the earlier state. -/
def NoNewAdmins (db db' : DB) : Prop :=
  ∀ u' ∈ db'.users, u'.isPlatformAdmin = true →
    ∃ u ∈ db.users, u.id = u'.id ∧ u.isPlatformAdmin = true

lemma NoNewAdmins.refl (db : DB) : NoNewAdmins db db := Tables.NoNew.refl _ db.users

lemma NoNewAdmins.trans {a b c : DB} (hab : NoNewAdmins a b) (hbc : NoNewAdmins b c) :
    NoNewAdmins a c :=
  Tables.NoNew.trans hab hbc

lemma noNewAdmins_of_users {db' : DB} (h : db'.users = db.users) : NoNewAdmins db db' := by
  intro u hu ha
  exact ⟨u, h ▸ hu, rfl, ha⟩

lemma noNewAdmins_append {db' : DB} {u : User} (h : db'.users = db.users ++ [u])
    (ha : u.isPlatformAdmin = false) : NoNewAdmins db db' := by
  unfold NoNewAdmins
  rw [h]
  exact Tables.NoNew.append (by simp [ha])

/-- A row written over a user, with the user's id and flag, makes nobody platform staff. -/
lemma noNewAdmins_set {db' : DB} {u row : User} (hu : u ∈ db.users) (hid : row.id = u.id)
    (ha : row.isPlatformAdmin = u.isPlatformAdmin)
    (h : db'.users = Tables.set User.id u.id (fun _ => row) db.users) : NoNewAdmins db db' := by
  unfold NoNewAdmins
  rw [h]
  exact Tables.NoNew.set hu hid fun hrow => ha ▸ hrow

/-- A change of the rows that keeps ids and flags makes nobody platform staff. -/
lemma noNewAdmins_setWhere {db' : DB} {p : User → Bool} {f : User → User}
    (hf : ∀ u, (f u).id = u.id ∧ (f u).isPlatformAdmin = u.isPlatformAdmin)
    (h : db'.users = Tables.setWhere p f db.users) : NoNewAdmins db db' := by
  unfold NoNewAdmins
  rw [h]
  exact Tables.NoNew.setWhere (fun u => (hf u).1) fun u hfu => (hf u).2 ▸ hfu

lemma savedUser_col {γ : Type} (col : User → γ) (h : ∀ r, col r.touch = col r) (before u : User) :
    col (flushed User.touch before u) = col u :=
  flushed_col User.touch col h before u

lemma getUser_some {userId : Ulid} {u : User} (h : getUser db userId = some u) :
    u ∈ db.users ∧ u.id = userId :=
  Tables.get_mem h

/-! ### Administration -/

lemma noNewAdmins_save {entry : AuditEntry} {before u : User} {r : User × DB}
    (h : Users.save env ctx db entry before u = .ok r) (hb : before ∈ db.users)
    (hid : u.id = before.id) (ha : u.isPlatformAdmin = before.isPlatformAdmin) :
    NoNewAdmins db r.2 := by
  obtain ⟨_, _, rfl⟩ := Users.save_ok.mp h
  have hrow := savedUser_col (fun u => (u.id, u.isPlatformAdmin)) (fun _ => rfl) before u
  simp only [Prod.mk.injEq] at hrow
  refine noNewAdmins_set hb (hrow.1.trans hid) (hrow.2.trans ha) ?_
  have hid' : (Users.savedRow before u).id = before.id := hrow.1.trans hid
  simp only [log_users, hid']
  rfl

/-- **The toggle never goes through**: the audit table admits neither of its actions, so the
transaction that changed the flag is rolled back. -/
theorem togglePlatformAdmin_error (user : User) (data : PlatformAdminToggle) :
    ∀ r, Users.togglePlatformAdmin env ctx db user data ≠ .ok r := by
  intro r h
  simp only [Users.togglePlatformAdmin, bind_ok, Users.save_ok] at h
  obtain ⟨_, _, _, _, _, haudit, _⟩ := h
  have hact : Users.toggleAction data.isPlatformAdmin ∈ auditActions := haudit.1
  revert hact
  cases data.isPlatformAdmin <;> decide

/-- Past the checks of the version and of the actor's own account nothing else stops it. -/
lemma togglePlatformAdmin_internalError {user : User} {data : PlatformAdminToggle}
    (hv : user.version = data.version) (hself : some user.id ≠ ctx.userId) :
    Users.togglePlatformAdmin env ctx db user data = .error internalError := by
  have hact : ∀ b, Users.toggleAction b ∉ auditActions := by decide
  simp only [Users.togglePlatformAdmin, ensure, if_pos hv, if_pos hself, ok_bind, Users.save]
  rw [audit_error (hact data.isPlatformAdmin)]
  split <;> rfl

/-- What a body of the administration routes does to the flags. -/
theorem noNewAdmins_serve {op : IamOp} {db' : DB} (h : op.serve env clk ctx db = .ok db') :
    NoNewAdmins db db' := by
  cases serve_effect h with
  | membershipCreated _ _ | membershipUpdated _ _ _ _ | membershipEnded _ _ _ _
  | roleGranted _ _ _ _ _ _ _ _ | roleRevoked _ _ _ _ => exact noNewAdmins_of_users rfl
  | userCreated o _ => exact noNewAdmins_append rfl rfl
  | userUpdated u entry r hu _ hsave | userDeleted u entry r hu _ hsave =>
    have hmem : u ∈ db.users := (getUser_some (Users.getOwned_ok hu).1).1
    exact noNewAdmins_save hsave hmem rfl rfl
  | platformAdminToggled u r _ ht => exact absurd ht (togglePlatformAdmin_error u _ r)
  | roleCreated hf | roleUpdated hf | roleDeleted hf =>
    obtain ⟨_, _, _, rfl⟩ := hf
    exact noNewAdmins_of_users rfl

/-! ### Authentication -/

/-- No effect of an authentication request makes anyone platform staff. -/
theorem noNewAdmins_auth {call : AuthCall} {db' : DB} {r : Fallible (Option TokenPair)}
    (h : AuthEffect env db call db' r) : NoNewAdmins db db' := by
  cases h with
  | counted _ _ hu _ _ =>
    refine noNewAdmins_setWhere (fun u => ?_) hu
    have hcount : (countFailure env call.clk u).id = u.id ∧
        (countFailure env call.clk u).isPlatformAdmin = u.isPlatformAdmin := by
      unfold countFailure
      split <;> exact ⟨rfl, rfl⟩
    exact ⟨(savedUser_col User.id (fun _ => rfl) _ _).trans hcount.1,
      (savedUser_col User.isPlatformAdmin (fun _ => rfl) _ _).trans hcount.2⟩
  | @loggedIn _ _ _ user _ _ _ hm hu _ =>
    have hid : (loggedIn call.clk user).id = user.id := savedUser_col User.id (fun _ => rfl) _ _
    have ha : (loggedIn call.clk user).isPlatformAdmin = user.isPlatformAdmin :=
      savedUser_col User.isPlatformAdmin (fun _ => rfl) _ _
    exact noNewAdmins_set hm hid ha hu
  | passwordSet _ hm hrow hu _ _ =>
    exact noNewAdmins_set (Tables.get_mem hm).1 hrow.id hrow.isPlatformAdmin hu
  | idle hu _ _ | revokedFamily _ _ hu _ _ | expired _ _ _ _ hu _ _ | rotated _ _ _ _ hu _
  | loggedOut _ _ hu _ _ => exact noNewAdmins_of_users hu

/-! ### Runs -/

/-- **One step**: no request of the API makes anyone platform staff. -/
theorem noNewAdmins_step (env : Env) (db : DB) (call : ApiCall) :
    NoNewAdmins db (call.step env db) := by
  cases call with
  | iam call =>
    rcases IamCall.step_cases env db call with he | ⟨ctx, db', _, hs, he⟩
    · simp only [ApiCall.step, he]
      exact .refl db
    · simp only [ApiCall.step, he]
      exact noNewAdmins_serve hs
  | auth call => exact noNewAdmins_auth (handle_effect env db call)

/-- **No escalation**: whoever is platform staff after a run of requests was so before it. -/
theorem no_escalation (env : Env) (db : DB) (l : List ApiCall) :
    NoNewAdmins db (Runs.run (ApiCall.step env) db l) := by
  induction l generalizing db with
  | nil => exact .refl db
  | cons call l ih => exact (noNewAdmins_step env db call).trans (ih _)

end SchoolOs
