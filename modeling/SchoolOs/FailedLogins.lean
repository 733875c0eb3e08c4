import SchoolOs.LoginStatements

/-!
Races between failed logins of one account: the row is read before it is written, so a failure is
counted when the version that was read is still there, and lost otherwise.
-/

namespace SchoolOs

open ReadCommitted Procs

variable {ι : Type*} [DecidableEq ι] {env : Env} {req : ι → LoginCall}

/-! ### What one turn can do -/

/-- The update of a counter finds the version that its login has read. -/
def FindsVersion (env : Env) (s : LoginSys ι) (t : LoginTurn ι) : Prop :=
  ∀ fresh now, s.pc t.login = .read fresh now → countFailure env now fresh ≠ fresh →
    (getUser (s.view t.login) fresh.id).map User.version = some fresh.version

section Program

variable (env) (races : Prop) (q : LoginCall) (c : DB)

inductive LoginReads : LoginPc → LoginPc → Prop
  | lookup (clk : Clock) : LoginReads .start (lookup env clk c q.data)
  | gone {user : User} (clk : Clock) : getUser c user.id = none →
      LoginReads (.counting user) (.answered authenticationError (some clk) none)
  | get {user fresh : User} (clk : Clock) : getUser c user.id = some fresh →
      LoginReads (.counting user) (.read fresh clk)
  | unchanged {fresh : User} {now : Clock} : countFailure env now fresh = fresh →
      LoginReads (.read fresh now) (.updated fresh now)

inductive LoginWrites : LoginPc → Write DB Key → LoginPc → Prop
  | count {fresh : User} (now : Clock) :
      (getUser c fresh.id).map User.version = some fresh.version →
      LoginWrites (.read fresh now) (updateCounter env now fresh) (.updated fresh now)
  | attempt {userId : Option Ulid} {e : ApiError} {failedAt : Option Clock} (clk : Clock) :
      q.Recordable → LoginWrites (.recording userId e failedAt)
        (insertAttempt (attemptRow clk q userId)) (.recorded (attemptRow clk q userId) e failedAt)

inductive LoginCommits : LoginPc → LoginPc → Prop
  | count (fresh : User) (now : Clock) : LoginCommits (.updated fresh now)
      (.recording (some fresh.id) authenticationError (some now))
  | attempt (row : LoginAttempt) (e : ApiError) (failedAt : Option Clock) :
      LoginCommits (.recorded row e failedAt) (.answered e failedAt (some row))

/-- The update of a counter fails only when there are races. -/
inductive LoginAborts : LoginPc → LoginPc → Prop
  | unbindable : bindable q.data.identifier = false →
      LoginAborts .start (.answered internalError none none)
  | stale (fresh : User) (now : Clock) : races → LoginAborts (.read fresh now) (.stale now)
  | refused {userId : Option Ulid} {e : ApiError} {failedAt : Option Clock} : ¬ q.Recordable →
      LoginAborts (.recording userId e failedAt) (.answered internalError failedAt none)

end Program

def loginProgram (env : Env) (races : Prop) (req : ι → LoginCall) : Program ι DB Key LoginPc where
  reads i := LoginReads env (req i)
  writes i := LoginWrites env (req i)
  commits _ := LoginCommits
  aborts i := LoginAborts races (req i)
  outside _ _ := False

/-- **One turn**: nothing, a read, a write that did not wait, a commit, or a failure. -/
theorem login_steps {races : Prop} {s : LoginSys ι} {t : LoginTurn ι}
    (h : races ∨ FindsVersion env s t) :
    s.Steps (loginProgram env races req) (s.step env req t) := by
  unfold LoginSys.step LoginSys.next
  split
  · -- The lookup.
    next hpc =>
    split
    · next hbind => exact .abort (hpc ▸ .unbindable hbind)
    · exact .read (hpc ▸ .lookup t.clk)
  · next user hpc =>
    split
    · next hget => exact .read (hpc ▸ .gone t.clk hget)
    · next fresh hget => exact .read (hpc ▸ .get t.clk hget)
  · -- The counter, under the version that was read.
    next fresh now hpc =>
    unfold LoginSys.flush
    split
    · next hsame => exact .read (hpc ▸ .unchanged hsame)
    · next hsame =>
      split
      · next hversion =>
        refine .abort (hpc ▸ .stale fresh now ?_)
        exact h.resolve_right fun hfinds => hversion (hfinds fresh now hpc hsame)
      · next hversion => exact steps_write (hpc ▸ .count now (not_not.mp hversion))
  · next fresh now hpc => exact .commit (hpc ▸ .count fresh now)
  · -- The attempt that is recorded.
    next userId e failedAt hpc =>
    split
    · next hfit => exact steps_write (hpc ▸ .attempt t.clk hfit)
    · next hfit => exact .abort (hpc ▸ .refused hfit)
  · next row e failedAt hpc => exact .commit (hpc ▸ .attempt row e failedAt)
  all_goals exact .idle

lemma pc_of_answered {s : LoginSys ι} {t : LoginTurn ι} {i : ι} (h : (s.pc i).answer.isSome) :
    (s.step env req t).pc i = s.pc i := by
  have hsteps : s.Steps (loginProgram env True req) (s.step env req t) :=
    login_steps (.inl trivial)
  generalize hpc : s.pc i = pc at h
  refine (hsteps.pc_of_halted ?_ ?_ ?_ ?_).trans hpc
  all_goals
    rw [hpc]
    intros
    intro hmove
    cases hmove <;> cases h

/-- An update that does not find the version is the end of its login. -/
lemma stale_of_not_finds {s : LoginSys ι} {t : LoginTurn ι} (h : ¬ FindsVersion env s t) :
    ∃ now, (s.step env req t).pc t.login = .stale now := by
  unfold FindsVersion at h
  push Not at h
  obtain ⟨fresh, now, hpc, hchanged, hversion⟩ := h
  refine ⟨now, ?_⟩
  simp only [LoginSys.step, LoginSys.next, hpc, LoginSys.flush, if_neg hchanged, if_pos hversion]
  exact Function.update_self _ _ _

/-! ### Counting failures -/

/-- The counter and the lock. -/
def User.counters (u : User) : ℕ × Option Instant := (u.failedLoginCount, u.lockedUntil)

/-- The account after the failures, one after the other. -/
def countFailures (env : Env) (user : User) (order : List (ι × Clock)) : User :=
  order.foldl (fun u p => countFailure env p.2 u) user

section Counting

variable {now : Clock} {u u' fresh : User} {order : List (ι × Clock)}

lemma counters_countFailure (h : u.counters = u'.counters) (now : Clock) :
    (countFailure env now u).counters = (countFailure env now u').counters := by
  obtain ⟨hcount, hlock⟩ := Prod.mk.inj h
  unfold countFailure
  rw [hcount]
  split
  · rfl
  · exact Prod.ext rfl hlock

omit [DecidableEq ι] in
lemma counters_countFailures (h : u.counters = u'.counters) (order : List (ι × Clock)) :
    (countFailures env u order).counters = (countFailures env u' order).counters := by
  induction order generalizing u u' with
  | nil => exact h
  | cons p order ih => exact ih (counters_countFailure h p.2)

omit [DecidableEq ι] in
lemma countFailures_snoc (user : User) (order : List (ι × Clock)) (p : ι × Clock) :
    countFailures env user (order ++ [p]) =
      countFailure env p.2 (countFailures env user order) := by
  rw [countFailures, List.foldl_append]
  rfl

/-- Only where every failure locks the account can a failure leave the row as it is. -/
lemma max_le_one_of_unchanged (h : countFailure env now fresh = fresh) :
    env.loginMaxFailedAttempts ≤ 1 := by
  unfold countFailure at h
  split at h
  · next hmax =>
    have hcount : 0 = fresh.failedLoginCount := congrArg User.failedLoginCount h
    omega
  · have hcount : fresh.failedLoginCount + 1 = fresh.failedLoginCount :=
      congrArg User.failedLoginCount h
    omega

/-- There the last failure alone decides. -/
lemma counters_of_max_le_one (hmax : env.loginMaxFailedAttempts ≤ 1) (now : Clock) (u u' : User) :
    (countFailure env now u).counters = (countFailure env now u').counters := by
  have hlocks : ∀ u : User, countFailure env now u = { u with
      lockedUntil := some (now.now + seconds (env.loginLockoutMinutes * 60))
      failedLoginCount := 0 } := by
    intro u
    rw [countFailure, if_pos (by omega)]
  rw [hlocks u, hlocks u']
  rfl

omit [DecidableEq ι] in
/-- A failure that left the row as it was may be counted before all the others. -/
lemma countFailures_cons (hsame : countFailure env now fresh = fresh)
    (hfirst : order = [] → countFailure env now u = u) (p : ι) :
    (countFailures env u ((p, now) :: order)).counters = (countFailures env u order).counters := by
  have hmax := max_le_one_of_unchanged hsame
  cases order with
  | nil =>
    have hcons : countFailures env u [(p, now)] = u := hfirst rfl
    rw [hcons]
    rfl
  | cons p' order =>
    have hnext := counters_of_max_le_one hmax p'.2 (countFailure env now u) u
    exact counters_countFailures hnext order

end Counting

/-! ### The account -/

/-- The same account, but for what failed logins write. -/
def SameAccount (user row : User) : Prop :=
  ∃ n t v, row = { user with failedLoginCount := n, lockedUntil := t, version := v }

lemma SameAccount.refl (user : User) : SameAccount user user := ⟨_, _, _, rfl⟩

lemma SameAccount.counted {user row : User} (h : SameAccount user row) (now : Clock) :
    SameAccount user (countedRow env now row) := by
  obtain ⟨n, t, v, rfl⟩ := h
  unfold countedRow countFailure
  split <;> exact ⟨_, _, _, rfl⟩

lemma SameAccount.id_eq {user row : User} (h : SameAccount user row) : row.id = user.id := by
  obtain ⟨n, t, v, rfl⟩ := h
  rfl

@[simp] lemma countedRow_id (now : Clock) (fresh : User) :
    (countedRow env now fresh).id = fresh.id := by
  unfold countedRow countFailure
  split <;> rfl

@[simp] lemma countedRow_version (now : Clock) (fresh : User) :
    (countedRow env now fresh).version = fresh.version + 1 := by
  unfold countedRow countFailure
  split <;> rfl

lemma countedRow_counters (now : Clock) (fresh : User) :
    (countedRow env now fresh).counters = (countFailure env now fresh).counters := rfl

/-- Every login is one of the account, which is active, and gives a wrong password. -/
structure WrongPasswords (env : Env) (req : ι → LoginCall) (db : DB) (user : User) : Prop where
  keys : (db.users.map User.id).Nodup
  present : user ∈ db.users
  active : user.status = .active
  bindable : ∀ i, bindable (req i).data.identifier = true
  found : ∀ i, findUser env db (req i).data.identifier = some user
  wrong : ∀ i, passwordOk env user (req i).data.password = false

/-- The committed row of the account. -/
structure Current (db : DB) (user row : User) (c : DB) : Prop where
  users : c.users = Tables.set User.id user.id (fun _ => row) db.users
  same : SameAccount user row
  le : user.version ≤ row.version

section Account

variable {db c : DB} {user row : User}

lemma Current.init (hkeys : (db.users.map User.id).Nodup) (h : user ∈ db.users) :
    Current db user user db where
  users := (Tables.set_self hkeys h).symm
  same := .refl user
  le := le_rfl

lemma Current.get (h : Current db user row c) (huser : user ∈ db.users) :
    getUser c user.id = some row := by
  have hsome : (Tables.get User.id user.id db.users).isSome :=
    Tables.get_isSome.mpr ⟨user, huser, rfl⟩
  obtain ⟨u, hu⟩ := Option.isSome_iff_exists.mp hsome
  rw [getUser, h.users, Tables.get_set_row h.same.id_eq, if_pos rfl, hu]
  rfl

lemma Current.count (h : Current db user row c) (now : Clock) :
    Current db user (countedRow env now row) ((updateCounter env now row).run c) where
  users := by
    have hid := h.same.id_eq
    simp only [updateCounter, hid, h.users]
    exact Tables.set_set_row hid _
  same := h.same.counted now
  le := by
    have hle := h.le
    rw [countedRow_version]
    omega

lemma Current.find (h : Current db user row c) {identifier : String}
    (hfind : findUser env db identifier = some user) : findUser env c identifier = some row := by
  obtain ⟨n, t, v, hrow⟩ := h.same
  unfold findUser getByEmail getByPhone at hfind ⊢
  rw [h.users]
  split at hfind
  · next hat =>
    have hp := List.find?_some hfind
    rw [if_pos hat]
    refine Tables.find?_set_row hfind ?_
    rw [hrow]
    exact hp
  · next hat =>
    have hp := List.find?_some hfind
    rw [if_neg hat]
    refine Tables.find?_set_row hfind ?_
    rw [hrow]
    exact hp

lemma notDeleted_of_find {identifier : String} (h : findUser env db identifier = some user) :
    user.deletedAt = none := by
  unfold findUser getByEmail getByPhone at h
  split at h
  · have hp := List.find?_some h
    simp only [decide_eq_true_eq] at hp
    exact hp.2
  · have hp := List.find?_some h
    simp only [decide_eq_true_eq] at hp
    exact hp.2

/-- The lookup refuses a login when it finds the lock, else the failure is counted. -/
lemma lookup_eq {q : LoginCall} {clk : Clock} (h : Current db user row c)
    (hfind : findUser env db q.data.identifier = some user) (hactive : user.status = .active)
    (hwrong : passwordOk env user q.data.password = false) :
    lookup env clk c q.data = if isLocked clk row
      then .recording (some user.id) authenticationError none else .counting row := by
  have hdeleted := notDeleted_of_find hfind
  have hid := h.same.id_eq
  obtain ⟨hstatus, hpassword, hlive⟩ : row.status = .active ∧
      passwordOk env row q.data.password = false ∧ row.deletedAt = none := by
    obtain ⟨n, t, v, rfl⟩ := h.same
    exact ⟨hactive, hwrong, hdeleted⟩
  have hfound : (findUser env c q.data.identifier).filter (·.deletedAt = none) = some row := by
    rw [h.find hfind]
    exact Option.filter_eq_some_iff.mpr ⟨rfl, decide_eq_true hlive⟩
  unfold lookup
  rw [hfound]
  by_cases hlocked : isLocked clk row = true
  · simp only [if_pos hlocked, hid]
  · simp only [if_neg hlocked, if_neg (not_not.mpr hstatus), if_pos hpassword]

end Account

/-! ### The assertions -/

/-- The row that a login has read: while its version is there, so is the row. -/
structure Fetched (user fresh : User) (c : DB) : Prop where
  same : SameAccount user fresh
  le : user.version ≤ fresh.version
  past : ∀ row, getUser c user.id = some row →
    fresh.version ≤ row.version ∧ (row.version = fresh.version → row = fresh)

/-- The failure may be committed: nothing is to be written, or the row is locked and is the one
that was read. -/
inductive Flushed (env : Env) (user fresh : User) (now : Clock) (c : DB) :
    List (Write DB Key) → Prop
  | unchanged : countFailure env now fresh = fresh → Fetched user fresh c →
      Flushed env user fresh now c []
  | locked : getUser c user.id = some fresh → fresh.id = user.id →
      Flushed env user fresh now c [updateCounter env now fresh]

/-- The row of an attempt of the login. -/
def AttemptOf (user : User) (q : LoginCall) (row : LoginAttempt) : Prop :=
  ∃ at', row = ⟨some user.id, q.data.identifier, q.http.clientIp, false, at'⟩

/-- What a login answers whose failure was not lost. -/
inductive Answers (user : User) (q : LoginCall) : ApiError → Option LoginAttempt → Prop
  | recorded {row : LoginAttempt} : q.Recordable → AttemptOf user q row →
      Answers user q authenticationError (some row)
  | refused : ¬ q.Recordable → Answers user q internalError none

/-- What holds where a login stands. -/
def LoginPc.Holds (env : Env) (races : Prop) (q : LoginCall) (user : User)
    (ws : List (Write DB Key)) (c : DB) : LoginPc → Prop
  | .start => ws = []
  | .counting u => ws = [] ∧ u.id = user.id
  | .read fresh _ => ws = [] ∧ Fetched user fresh c
  | .updated fresh now => Flushed env user fresh now c ws
  | .recording userId e _ => ws = [] ∧ userId = some user.id ∧ e = authenticationError
  | .recorded row e _ =>
    ws = [insertAttempt row] ∧ q.Recordable ∧ AttemptOf user q row ∧ e = authenticationError
  | .answered e _ attempt => ws = [] ∧ Answers user q e attempt
  | .stale _ => ws = [] ∧ races
  | .verified _ => False

section Holds

variable {races : Prop} {q : LoginCall} {db c c' : DB} {user row fresh : User} {now : Clock}
  {ws : List (Write DB Key)} {pc pc' : LoginPc}

lemma Fetched.of_get (h : Fetched user fresh c) (hget : getUser c' user.id = getUser c user.id) :
    Fetched user fresh c' :=
  ⟨h.same, h.le, fun row hrow => h.past row (hget ▸ hrow)⟩

/-- Another failure was counted, so the version that was read is past. -/
lemma Fetched.count (h : Fetched user fresh c) (huser : user ∈ db.users)
    (hcur : Current db user row c) (now : Clock) :
    Fetched user fresh ((updateCounter env now row).run c) where
  same := h.same
  le := h.le
  past := by
    intro row' hrow'
    have hget : getUser ((updateCounter env now row).run c) user.id =
        some (countedRow env now row) := (hcur.count now).get huser
    obtain rfl := Option.some.inj (hget.symm.trans hrow')
    have hle := (h.past row (hcur.get huser)).1
    rw [countedRow_version]
    exact ⟨by omega, fun heq => by omega⟩

lemma LoginPc.Holds.of_get (h : pc.Holds env races q user ws c)
    (hget : getUser c' user.id = getUser c user.id) : pc.Holds env races q user ws c' := by
  cases pc with
  | read fresh now => exact ⟨h.1, h.2.of_get hget⟩
  | updated fresh now =>
    have hflushed : Flushed env user fresh now c ws := h
    cases hflushed with
    | unchanged hsame hfetched => exact .unchanged hsame (hfetched.of_get hget)
    | locked hrow hid => exact .locked (hget.trans hrow) hid
  | _ => exact h

/-- A counted failure leaves the other logins what they have: the one that waits for the row has
not locked it. -/
lemma LoginPc.Holds.count (h : pc.Holds env races q user ws c) (huser : user ∈ db.users)
    (hcur : Current db user row c) (now : Clock)
    (hapart : Apart [updateCounter env now row] ws) :
    pc.Holds env races q user ws ((updateCounter env now row).run c) := by
  cases pc with
  | read fresh now' => exact ⟨h.1, h.2.count huser hcur now⟩
  | updated fresh now' =>
    have hflushed : Flushed env user fresh now' c ws := h
    cases hflushed with
    | unchanged hsame hfetched => exact .unchanged hsame (hfetched.count huser hcur now)
    | locked hrow hid =>
      have hlock : Key.user row.id ∈ (updateCounter env now' fresh).locks := by
        rw [hcur.same.id_eq, ← hid]
        exact List.mem_cons_self
      exact absurd hlock (hapart _ List.mem_cons_self _ List.mem_cons_self _ List.mem_cons_self)
  | _ => exact h

lemma get_of_counting {u : User} (huser : user ∈ db.users) (hcur : Current db user row c)
    (hp : (LoginPc.counting u).Holds env races q user ws c) :
    getUser (after ws c) u.id = some row := by
  obtain ⟨rfl, hid⟩ := hp
  rw [after_nil, hid]
  exact hcur.get huser

lemma holds_loginReads (huser : user ∈ db.users) (hactive : user.status = .active)
    (hfind : findUser env db q.data.identifier = some user)
    (hwrong : passwordOk env user q.data.password = false) (hcur : Current db user row c)
    (h : LoginReads env q (after ws c) pc pc') (hp : pc.Holds env races q user ws c) :
    pc'.Holds env races q user ws c := by
  have hget := hcur.get huser
  cases h with
  | lookup clk =>
    have hws : ws = [] := hp
    subst hws
    rw [after_nil, lookup_eq hcur hfind hactive hwrong]
    split
    · exact ⟨rfl, rfl, rfl⟩
    · exact ⟨rfl, hcur.same.id_eq⟩
  | gone clk hnone =>
    rw [get_of_counting huser hcur hp] at hnone
    cases hnone
  | get clk hsome =>
    rw [get_of_counting huser hcur hp] at hsome
    obtain rfl := Option.some.inj hsome
    refine ⟨hp.1, hcur.same, hcur.le, fun row' hrow' => ?_⟩
    obtain rfl := Option.some.inj (hget.symm.trans hrow')
    exact ⟨le_rfl, fun _ => rfl⟩
  | unchanged hsame =>
    obtain ⟨rfl, hfetched⟩ := hp
    exact .unchanged hsame hfetched

/-- Writes keep them: the row whose version is there is the one that was read. -/
lemma holds_loginWrites {w : Write DB Key} (huser : user ∈ db.users) (hcur : Current db user row c)
    (h : LoginWrites env q (after ws c) pc w pc') (hp : pc.Holds env races q user ws c) :
    pc'.Holds env races q user (ws ++ [w]) c := by
  have hget := hcur.get huser
  cases h with
  | @count fresh now hversion =>
    obtain ⟨rfl, hfetched⟩ := hp
    have hid := hfetched.same.id_eq
    rw [after_nil, hid, hget] at hversion
    have hrow : row = fresh := (hfetched.past row hget).2 (Option.some.inj hversion)
    exact .locked (hrow ▸ hget) hid
  | attempt clk hfit =>
    obtain ⟨rfl, rfl, he⟩ := hp
    exact ⟨rfl, hfit, ⟨clk.now, rfl⟩, he⟩

end Holds

omit [DecidableEq ι] in
/-- **The proof outline of the failed logins.** -/
theorem login_outline {db : DB} {user : User} (races : Prop) (hw : WrongPasswords env req db user) :
    Outline (loginProgram env races req) (fun c => ∃ row, Current db user row c)
      fun i pc ws c => pc.Holds env races (req i) user ws c where
  read := by
    rintro i pc pc' ws c hr ⟨row, hcur⟩ hp
    exact holds_loginReads hw.present hw.active (hw.found i) (hw.wrong i) hcur hr hp
  write := by
    rintro i pc w pc' ws c hwrite ⟨row, hcur⟩ hp
    exact holds_loginWrites hw.present hcur hwrite hp
  commit := by
    rintro i pc pc' ws c hc ⟨row, hcur⟩ hp
    cases hc with
    | count fresh now =>
      have hflushed : Flushed env user fresh now c ws := hp
      cases hflushed with
      | unchanged hsame hfetched =>
        exact ⟨⟨row, hcur⟩, rfl, congrArg some hfetched.same.id_eq, rfl⟩
      | locked hget hid =>
        -- The counter is committed, so the row is another one.
        obtain rfl := Option.some.inj ((hcur.get hw.present).symm.trans hget)
        exact ⟨⟨_, hcur.count now⟩, rfl, congrArg some hid, rfl⟩
    | attempt row' e failedAt =>
      obtain ⟨rfl, hfit, hattempt, rfl⟩ := hp
      exact ⟨⟨row, hcur.users, hcur.same, hcur.le⟩, rfl, .recorded hfit hattempt⟩
  abort := by
    rintro i pc pc' ws c ha _ hp
    cases ha with
    | unbindable hbind =>
      rw [hw.bindable i] at hbind
      cases hbind
    | stale fresh now hraces => exact ⟨rfl, hraces⟩
    | refused hfit => exact ⟨rfl, .refused hfit⟩
  interfere := by
    rintro i j pc pc' qc ws ws' c _ hapart hc ⟨row, hcur⟩ hp hq
    cases hc with
    | count fresh now =>
      have hflushed : Flushed env user fresh now c ws := hp
      cases hflushed with
      | unchanged => exact hq
      | locked hget hid =>
        -- The others find a row with a later version.
        obtain rfl := Option.some.inj ((hcur.get hw.present).symm.trans hget)
        exact hq.count hw.present hcur now hapart
    | attempt row' e failedAt =>
      obtain ⟨rfl, _⟩ := hp
      exact hq.of_get rfl
  outside := fun ho => ho.elim

/-! ### What is counted and what is recorded -/

/-- When a login counted its failure, once that is committed. -/
def LoginPc.countedAt : LoginPc → Option Clock
  | .recording _ _ t | .recorded _ _ t | .answered _ t _ => t
  | _ => none

/-- The row of the account counts the failures, in the order in which they were committed. -/
def Tallied (env : Env) (db : DB) (user : User) (s : LoginSys ι) : Prop :=
  ∃ order row, Recorded (LoginPc.countedAt ∘ s.pc) order ∧
    Current db user row s.store.committed ∧
    row.counters = (countFailures env user order).counters ∧ (order = [] → row = user)

/-- The attempts are there, in the order in which they were committed. -/
def AttemptsLogged (db : DB) (s : LoginSys ι) : Prop :=
  ∃ order, Recorded (LoginPc.attempt ∘ s.pc) order ∧
    s.store.committed.loginAttempts = db.loginAttempts ++ order.map Prod.snd

/-- The assertions hold of the system. -/
abbrev LoginValid (env : Env) (races : Prop) (req : ι → LoginCall) (db : DB) (user : User)
    (s : LoginSys ι) : Prop :=
  Valid (fun c => ∃ row, Current db user row c)
    (fun i pc ws c => pc.Holds env races (req i) user ws c) s

section Steps

variable {races : Prop} {db : DB} {user : User} {s s' : LoginSys ι}

lemma lookup_quiet (env : Env) (clk : Clock) (db : DB) (data : LoginRequest) :
    (lookup env clk db data).countedAt = none ∧ (lookup env clk db data).attempt = none := by
  unfold lookup
  split
  · exact ⟨rfl, rfl⟩
  · split
    · exact ⟨rfl, rfl⟩
    · split
      · exact ⟨rfl, rfl⟩
      · split <;> exact ⟨rfl, rfl⟩

/-- Nothing is committed. -/
structure NoCommit (s s' : LoginSys ι) : Prop where
  committed : s'.store.committed = s.store.committed
  countedAt : LoginPc.countedAt ∘ s'.pc = LoginPc.countedAt ∘ s.pc
  attempt : LoginPc.attempt ∘ s'.pc = LoginPc.attempt ∘ s.pc

lemma noCommit_update {i : ι} {pc : LoginPc} {store : Store ι DB Key}
    (hstore : store.committed = s.store.committed)
    (hpc : pc.countedAt = (s.pc i).countedAt ∧ pc.attempt = (s.pc i).attempt) :
    NoCommit s ⟨store, Function.update s.pc i pc⟩ where
  committed := hstore
  countedAt := by
    rw [Function.comp_update, hpc.1]
    exact Function.update_eq_self _ _
  attempt := by
    rw [Function.comp_update, hpc.2]
    exact Function.update_eq_self _ _

lemma noCommit_or_commits (hw : WrongPasswords env req db user)
    (hv : LoginValid env races req db user s)
    (hstep : s.Steps (loginProgram env races req) s') :
    NoCommit s s' ∨ ∃ i pc, LoginCommits (s.pc i) pc ∧ s' = s.commit i pc := by
  cases hstep with
  | idle => exact .inl ⟨rfl, rfl, rfl⟩
  | @read i pc hr =>
    refine .inl (noCommit_update rfl ?_)
    have hp := hv.local_ i
    obtain ⟨row, hcur⟩ := hv.global
    have hread : LoginReads env (req i) (after (s.store.own i) s.store.committed) (s.pc i) pc := hr
    generalize s.pc i = pc0 at hread hp
    cases hread with
    | lookup clk => exact lookup_quiet _ _ _ _
    | gone clk hnone =>
      rw [get_of_counting hw.present hcur hp] at hnone
      cases hnone
    | get | unchanged => exact ⟨rfl, rfl⟩
  | @write i w pc store hwrite hstore =>
    refine .inl (noCommit_update (Store.write_committed hstore) ?_)
    generalize s.pc i = pc0 at hwrite
    cases hwrite <;> exact ⟨rfl, rfl⟩
  | @commit i pc hc => exact .inr ⟨i, pc, hc, rfl⟩
  | @abort i pc ha =>
    refine .inl (noCommit_update rfl ?_)
    generalize s.pc i = pc0 at ha
    cases ha <;> exact ⟨rfl, rfl⟩
  | outside ho => exact ho.elim

lemma tallied_count (hw : WrongPasswords env req db user) {i : ι} {fresh : User} {now : Clock}
    (hpc : s.pc i = .updated fresh now)
    (hflushed : Flushed env user fresh now s.store.committed (s.store.own i))
    (h : Tallied env db user s) :
    Tallied env db user
      (s.commit i (.recording (some fresh.id) authenticationError (some now))) := by
  obtain ⟨order, row, hrec, hcur, hcounters, hfirst⟩ := h
  have hget := hcur.get hw.present
  have hnone : (LoginPc.countedAt ∘ s.pc) i = none := congrArg LoginPc.countedAt hpc
  have hcommitted : (s.commit i (.recording (some fresh.id) authenticationError
      (some now))).store.committed = after (s.store.own i) s.store.committed := rfl
  have hcounted : LoginPc.countedAt ∘ (s.commit i (.recording (some fresh.id) authenticationError
      (some now))).pc = Function.update (LoginPc.countedAt ∘ s.pc) i (some now) :=
    Function.comp_update _ _ _ _
  unfold Tallied
  rw [hcommitted, hcounted]
  generalize s.store.own i = ws at hflushed
  cases hflushed with
  | unchanged hsame hfetched =>
    refine ⟨(i, now) :: order, row, hrec.cons hnone, hcur, ?_, fun hnil => absurd hnil (by simp)⟩
    rw [hcounters]
    refine (countFailures_cons hsame (fun hnil => ?_) i).symm
    -- Nothing was counted yet, so the row that was read is the one at the start.
    obtain rfl := hfirst hnil
    obtain ⟨hle, heq⟩ := hfetched.past row hget
    rw [heq (le_antisymm hfetched.le hle)]
    exact hsame
  | locked hrow hid =>
    obtain rfl := Option.some.inj (hget.symm.trans hrow)
    refine ⟨order ++ [(i, now)], countedRow env now row, hrec.snoc hnone, hcur.count now, ?_,
      fun hnil => absurd hnil (by simp)⟩
    rw [countedRow_counters, countFailures_snoc]
    exact counters_countFailure hcounters now

/-- **The counter, one step.** -/
lemma tallied_step (hw : WrongPasswords env req db user)
    (hv : LoginValid env races req db user s) (hstep : s.Steps (loginProgram env races req) s')
    (h : Tallied env db user s) : Tallied env db user s' := by
  rcases noCommit_or_commits hw hv hstep with hkept | ⟨i, pc, hc, rfl⟩
  · unfold Tallied
    rw [hkept.committed, hkept.countedAt]
    exact h
  · have hp := hv.local_ i
    generalize hpc : s.pc i = pc0 at hc hp
    cases hc with
    | count fresh now => exact tallied_count hw hpc hp h
    | attempt row e failedAt =>
      obtain ⟨hown, _⟩ := hp
      obtain ⟨order, user', hrec, hcur, hcounters, hfirst⟩ := h
      have hsame : (LoginPc.countedAt ∘ s.pc) i = failedAt := congrArg LoginPc.countedAt hpc
      refine ⟨order, user', ?_, ?_, hcounters, hfirst⟩
      · rw [Procs.commit, Function.comp_update]
        exact hrec.update hsame
      · rw [Procs.commit_committed, hown]
        exact ⟨hcur.users, hcur.same, hcur.le⟩

/-- **The attempts, one step.** -/
lemma logged_step (hw : WrongPasswords env req db user)
    (hv : LoginValid env races req db user s) (hstep : s.Steps (loginProgram env races req) s')
    (h : AttemptsLogged db s) : AttemptsLogged db s' := by
  rcases noCommit_or_commits hw hv hstep with hkept | ⟨i, pc, hc, rfl⟩
  · unfold AttemptsLogged
    rw [hkept.committed, hkept.attempt]
    exact h
  · have hp := hv.local_ i
    obtain ⟨order, hrec, hrows⟩ := h
    generalize hpc : s.pc i = pc0 at hc hp
    have hnone : (LoginPc.attempt ∘ s.pc) i = none := by
      cases hc <;> exact congrArg LoginPc.attempt hpc
    cases hc with
    | count fresh now =>
      have hflushed : Flushed env user fresh now s.store.committed (s.store.own i) := hp
      refine ⟨order, ?_, ?_⟩
      · rw [Procs.commit, Function.comp_update]
        exact hrec.update hnone
      · rw [Procs.commit_committed, ← hrows]
        generalize s.store.own i = ws at hflushed
        cases hflushed <;> rfl
    | attempt row e failedAt =>
      obtain ⟨hown, _⟩ := hp
      refine ⟨order ++ [(i, row)], ?_, ?_⟩
      · rw [Procs.commit, Function.comp_update]
        exact hrec.snoc hnone
      · rw [Procs.commit_committed, hown, List.map_append, ← List.append_assoc, ← hrows]
        rfl

end Steps

/-! ### No failure is lost -/

/-- Every login ends in the same refusal and records its attempt, and the account is left as by
the failures of the logins that passed the lock check, one after the other. -/
structure NoFailureLost (env : Env) (req : ι → LoginCall) (db : DB) (user : User)
    (s : LoginSys ι) : Prop where
  uniform : ∀ i, (s.pc i).answer = some (.error authenticationError)
  recorded : ∃ order, Recorded (LoginPc.attempt ∘ s.pc) order ∧
    s.store.committed.loginAttempts = db.loginAttempts ++ order.map Prod.snd ∧
    ∀ i, ∃ row, (s.pc i).attempt = some row ∧ AttemptOf user (req i) row
  counted : ∃ order row, Recorded (LoginPc.failedAt ∘ s.pc) order ∧
    getUser s.store.committed user.id = some row ∧
    row.counters = (countFailures env user order).counters

/-- No login has begun, and all of them give a wrong password for the account. -/
structure LoginsStarted (env : Env) (req : ι → LoginCall) (user : User) (s : LoginSys ι) :
    Prop where
  pending : s.store.pending = []
  pc : ∀ i, s.pc i = .start
  wrong : WrongPasswords env req s.store.committed user

/-- What holds all along a run. -/
structure LoginInv (env : Env) (races : Prop) (req : ι → LoginCall) (db : DB) (user : User)
    (s : LoginSys ι) : Prop where
  valid : LoginValid env races req db user s
  tallied : Tallied env db user s
  logged : AttemptsLogged db s

section Runs

variable {races : Prop} {user : User} {s : LoginSys ι} {l : List (LoginTurn ι)}

lemma LoginsStarted.inv (hs : LoginsStarted env req user s) (races : Prop) :
    LoginInv env races req s.store.committed user s := by
  have hcur := Current.init hs.wrong.keys hs.wrong.present
  have hcounted : ∀ i, (LoginPc.countedAt ∘ s.pc) i = none :=
    fun i => congrArg LoginPc.countedAt (hs.pc i)
  have hattempt : ∀ i, (LoginPc.attempt ∘ s.pc) i = none :=
    fun i => congrArg LoginPc.attempt (hs.pc i)
  refine ⟨valid_of_closed hs.pending ⟨user, hcur⟩ fun i => ?_, ?_, ?_⟩
  · rw [hs.pc i]
    rfl
  · exact ⟨[], user, .nil hcounted, hcur, rfl, fun _ => rfl⟩
  · exact ⟨[], .nil hattempt, (List.append_nil _).symm⟩

/-- **The run**: the assertions, the counter and the attempts. -/
lemma LoginsStarted.run (hs : LoginsStarted env req user s)
    (hl : Runs.Along (LoginSys.step env req) (fun s t => races ∨ FindsVersion env s t) s l) :
    LoginInv env races req s.store.committed user (Runs.run (LoginSys.step env req) s l) := by
  refine Runs.invariant (I := LoginInv env races req s.store.committed user) ?_ hl (hs.inv races)
  intro s' t ht h
  have hstep : s'.Steps (loginProgram env races req) (s'.step env req t) := login_steps ht
  exact ⟨(login_outline races hs.wrong).step hstep h.valid,
    tallied_step hs.wrong h.valid hstep h.tallied, logged_step hs.wrong h.valid hstep h.logged⟩

omit [DecidableEq ι] in
lemma recordable_iff {db : DB} (hw : WrongPasswords env req db user) (i : ι) :
    (req i).Recordable ↔ varchar 45 (req i).http.clientIp = true := by
  refine ⟨fun h => h.2, fun hip => ⟨?_, hip⟩⟩
  have hlength := (req i).data.identifier_length.2
  simp only [varchar, hlength, hw.bindable i, decide_true, Bool.and_self]

lemma internalError_ne : internalError ≠ authenticationError := by decide

lemma answered_of_holds {pc : LoginPc} {q : LoginCall} {ws : List (Write DB Key)} {c : DB}
    (h : pc.Holds env races q user ws c) (hdone : pc.answer.isSome) :
    (∃ e t a, pc = .answered e t a ∧ Answers user q e a) ∨ ∃ now, pc = .stale now ∧ races := by
  cases pc with
  | answered e t a => exact .inl ⟨e, t, a, rfl, h.2⟩
  | stale now => exact .inr ⟨now, rfl, h.2⟩
  | _ => cases hdone

/-- Without races, logins whose attempts can be recorded lose no failure. -/
lemma LoginInv.noFailureLost {db : DB} (hw : WrongPasswords env req db user)
    (h : LoginInv env False req db user s) (hfit : ∀ i, (req i).Recordable)
    (hdone : ∀ i, (s.pc i).answer.isSome) : NoFailureLost env req db user s := by
  have hend : ∀ i, ∃ t row, s.pc i = .answered authenticationError t (some row) ∧
      AttemptOf user (req i) row := by
    intro i
    obtain ⟨e, t, a, hpc, ha⟩ | ⟨_, _, hraces⟩ := answered_of_holds (h.valid.local_ i) (hdone i)
    · cases ha with
      | recorded _ hattempt => exact ⟨t, _, hpc, hattempt⟩
      | refused hnot => exact absurd (hfit i) hnot
    · exact hraces.elim
  obtain ⟨order, row, hrec, hcur, hcounters, _⟩ := h.tallied
  obtain ⟨attempts, hattempts, hrows⟩ := h.logged
  refine ⟨fun i => ?_, ⟨attempts, hattempts, hrows, fun i => ?_⟩,
    ⟨order, row, ?_, hcur.get hw.present, hcounters⟩⟩
  · obtain ⟨t, row, hpc, _⟩ := hend i
    rw [hpc]
    rfl
  · obtain ⟨t, row, hpc, hattempt⟩ := hend i
    exact ⟨row, congrArg LoginPc.attempt hpc, hattempt⟩
  · have hsame : LoginPc.failedAt ∘ s.pc = LoginPc.countedAt ∘ s.pc := by
      funext i
      obtain ⟨t, row, hpc, _⟩ := hend i
      simp only [Function.comp, hpc, LoginPc.failedAt, LoginPc.countedAt]
    rwa [hsame]

/-- **No failed login is lost** in a run in which all of them end, if and only if every client
address fits its column and every update of the counter finds the version that was read. -/
theorem logins_noFailureLost (hs : LoginsStarted env req user s)
    (hdone : ∀ i, ((Runs.run (LoginSys.step env req) s l).pc i).answer.isSome) :
    NoFailureLost env req s.store.committed user (Runs.run (LoginSys.step env req) s l) ↔
      (∀ i, varchar 45 (req i).http.clientIp = true) ∧
        Runs.Along (LoginSys.step env req) (FindsVersion env) s l := by
  constructor
  · intro h
    refine ⟨fun i => ?_, ?_⟩
    · have hall : Runs.Along (LoginSys.step env req)
          (fun s t => True ∨ FindsVersion env s t) s l :=
        Runs.along_of_forall (fun _ _ => .inl trivial) l s
      have hi := h.uniform i
      obtain ⟨e, t, a, hpc, ha⟩ | ⟨now, hpc, _⟩ :=
        answered_of_holds ((hs.run hall).valid.local_ i) (hdone i)
      · rw [hpc] at hi
        cases ha with
        | recorded hfit _ => exact ((recordable_iff hs.wrong i).mp hfit)
        | refused => exact absurd (Except.error.inj (Option.some.inj hi)) internalError_ne
      · rw [hpc] at hi
        exact absurd (Except.error.inj (Option.some.inj hi)) internalError_ne
    · -- An update that finds another version ends its login in an internal error.
      refine Runs.along_of_unmarked (I := fun s : LoginSys ι => ∃ i now, s.pc i = .stale now)
        (fun s t hnot => ⟨t.login, stale_of_not_finds hnot⟩) ?_ ?_
      · rintro s t ⟨i, now, hpc⟩
        have hanswered : (s.pc i).answer.isSome := by
          rw [hpc]
          rfl
        exact ⟨i, now, (pc_of_answered hanswered).trans hpc⟩
      · rintro ⟨i, now, hpc⟩
        have hi := h.uniform i
        rw [hpc] at hi
        exact absurd (Except.error.inj (Option.some.inj hi)) internalError_ne
  · rintro ⟨hfit, hfinds⟩
    have hinv : LoginInv env False req s.store.committed user
        (Runs.run (LoginSys.step env req) s l) := hs.run (hfinds.imp fun _ _ ht => .inr ht)
    exact hinv.noFailureLost hs.wrong (fun i => (recordable_iff hs.wrong i).mpr (hfit i)) hdone

end Runs

/-! ### Two failed logins -/

/-- A user who may sign in. -/
def signsIn : User := User.new 1 (some "a@b.c") none (some "$correct1") .active none

def loginsBegin : LoginSys Bool := ⟨⟨{ DB.empty with users := [signsIn] }, []⟩, fun _ => .start⟩

lemma address_length : 1 ≤ "a@b.c".length ∧ "a@b.c".length ≤ 255 := by decide

lemma wrong_length : 1 ≤ "wrong".length ∧ "wrong".length ≤ 128 := by decide

/-- Two logins that give a wrong password. -/
def twoLogins (_ : Bool) : LoginCall where
  data := ⟨"a@b.c", "wrong", address_length, wrong_length⟩
  http := ⟨none, none, "r", none, none⟩

lemma loginsBegin_started : LoginsStarted .plain twoLogins signsIn loginsBegin where
  pending := rfl
  pc := fun _ => rfl
  wrong := ⟨by decide, by decide, rfl, by decide, by decide, by decide⟩

/-- The next `n` statements of one login. -/
def loginTurns (i : Bool) (n : ℕ) : List (LoginTurn Bool) := .replicate n ⟨i, ⟨2, 0⟩⟩

/-- The version that a login has read is there. -/
def LoginPc.finds (c : DB) : LoginPc → Bool
  | .read fresh _ => (getUser c fresh.id).map User.version = some fresh.version
  | _ => true

lemma findsVersion_of_finds {s : LoginSys ι} {t : LoginTurn ι}
    (h : (s.pc t.login).finds (s.view t.login) = true) : FindsVersion env s t := by
  intro fresh now hpc _
  rw [hpc] at h
  exact of_decide_eq_true h

/-- One login after the other: both failures are counted. -/
theorem twoLogins_serial : NoFailureLost .plain twoLogins loginsBegin.store.committed signsIn
    (Runs.run (LoginSys.step .plain twoLogins) loginsBegin
      (loginTurns false 6 ++ loginTurns true 6)) := by
  have hfinds : Runs.Along (LoginSys.step .plain twoLogins)
      (fun s t => (s.pc t.login).finds (s.view t.login) = true) loginsBegin
      (loginTurns false 6 ++ loginTurns true 6) := by decide
  exact (logins_noFailureLost loginsBegin_started (by decide)).mpr
    ⟨fun _ => rfl, hfinds.imp fun _ _ ht => findsVersion_of_finds ht⟩

/-- Both logins read the row before either of them writes it. The second one does not find the
version it has read: it ends in an internal error, with its failure and its attempt lost. -/
theorem twoLogins_raced : ¬ ∀ (env : Env) (req : Bool → LoginCall) (user : User)
    (s : LoginSys Bool) (l : List (LoginTurn Bool)), LoginsStarted env req user s →
      (∀ i, ((Runs.run (LoginSys.step env req) s l).pc i).answer.isSome) →
      (∀ i, ((Runs.run (LoginSys.step env req) s l).pc i).failedAt.isSome) →
      NoFailureLost env req s.store.committed user (Runs.run (LoginSys.step env req) s l) := by
  intro h
  have hlost := h .plain twoLogins signsIn loginsBegin
    (loginTurns true 2 ++ loginTurns false 6 ++ loginTurns true 1) loginsBegin_started
    (by decide) (by decide)
  exact internalError_ne (Except.error.inj (Option.some.inj (hlost.uniform true)))

end SchoolOs
