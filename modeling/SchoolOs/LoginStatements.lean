import SchoolOs.AuthEffects
import SchoolOs.Processes
import SchoolOs.Statements

/-!
Logins with a wrong password, one SQL statement at a time: the lookup of the request, the
transaction that counts the failure, and the one that records the attempt.
-/

namespace SchoolOs

open ReadCommitted Procs

/-! ### Requests and where they stand -/

structure LoginCall where
  data : LoginRequest
  http : HttpRequest

/-- Where a login stands. A login that passes the lock check and fails reads the clock to count
its failure; it keeps that reading, and the attempt it recorded. -/
inductive LoginPc
  | start
  /-- The password was wrong; `bookkeeping.get` is next. -/
  | counting (user : User)
  /-- The update of the counter is next. -/
  | read (fresh : User) (now : Clock)
  /-- The commit of the counter is next. -/
  | updated (fresh : User) (now : Clock)
  /-- The insert of the attempt is next. -/
  | recording (userId : Option Ulid) (e : ApiError) (failedAt : Option Clock)
  /-- The commit of the attempt is next. -/
  | recorded (row : LoginAttempt) (e : ApiError) (failedAt : Option Clock)
  | answered (e : ApiError) (failedAt : Option Clock) (attempt : Option LoginAttempt)
  /-- The update of the counter did not find the version that was read. -/
  | stale (now : Clock)
  /-- The password was right; what follows is not followed. -/
  | verified (user : User)

/-- What a finished login answered. -/
def LoginPc.answer : LoginPc → Option (Fallible TokenPair)
  | .answered e _ _ => some (.error e)
  | .stale _ => some (.error internalError)
  | _ => none

/-- When a login that passed the lock check went to count its failure. -/
def LoginPc.failedAt : LoginPc → Option Clock
  | .read _ now | .updated _ now | .stale now => some now
  | .recording _ _ t | .recorded _ _ t | .answered _ t _ => t
  | _ => none

/-- The attempt that the login has recorded. -/
def LoginPc.attempt : LoginPc → Option LoginAttempt
  | .answered _ _ attempt => attempt
  | _ => none

/-! ### Statements -/

section Statements

variable (env : Env) (clk : Clock) (db : DB)

/-- What the lookup of the account comes to. -/
def lookup (data : LoginRequest) : LoginPc :=
  match (findUser env db data.identifier).filter (·.deletedAt = none) with
  | none => .recording none authenticationError none
  | some user =>
    if isLocked clk user then .recording (some user.id) authenticationError none
    else if user.status ≠ .active then .recording (some user.id) accountInactiveError none
    else if passwordOk env user data.password = false then .counting user
    else .verified user

/-- The row after the failure is counted. -/
def countedRow (now : Clock) (fresh : User) : User := User.touch (countFailure env now fresh)

def updateCounter (now : Clock) (fresh : User) : Write DB Key where
  locks := [.user fresh.id]
  run db := { db with
    users := Tables.set User.id fresh.id (fun _ => countedRow env now fresh) db.users }

def attemptRow (q : LoginCall) (userId : Option Ulid) : LoginAttempt :=
  ⟨userId, q.data.identifier, q.http.clientIp, false, clk.now⟩

def insertAttempt (row : LoginAttempt) : Write DB Key where
  locks := []
  run db := { db with loginAttempts := db.loginAttempts ++ [row] }

/-- The table takes the attempt. -/
def LoginCall.Recordable (q : LoginCall) : Prop :=
  varchar 255 (some q.data.identifier) = true ∧ varchar 45 q.http.clientIp = true

instance (q : LoginCall) : Decidable q.Recordable := inferInstanceAs (Decidable (_ ∧ _))

end Statements

/-! ### The system -/

/-- The database and where every login stands. -/
abbrev LoginSys (ι : Type*) := Procs ι DB Key LoginPc

/-- A login runs its next statement. -/
structure LoginTurn (ι : Type*) where
  login : ι
  clk : Clock

namespace LoginSys

variable {ι : Type*} [DecidableEq ι] (env : Env) (req : ι → LoginCall) (s : LoginSys ι) (i : ι)

/-- The flush of the counter. A row that did not change is not written; the row must still have
the version that was read. -/
def flush (fresh : User) (now : Clock) : LoginSys ι :=
  if countFailure env now fresh = fresh then s.goto i (.updated fresh now)
  else if (getUser (s.view i) fresh.id).map User.version ≠ some fresh.version then
    s.abort i (.stale now)
  else s.write i (updateCounter env now fresh) (.updated fresh now)

/-- The next statement of a login. -/
def next (clk : Clock) : LoginSys ι :=
  match s.pc i with
  | .start =>
    if bindable (req i).data.identifier = false then s.abort i (.answered internalError none none)
    else s.goto i (lookup env clk (s.view i) (req i).data)
  | .counting user =>
    match getUser (s.view i) user.id with
    -- `_register_failure` returns before it records the attempt.
    | none => s.goto i (.answered authenticationError (some clk) none)
    | some fresh => s.goto i (.read fresh clk)
  | .read fresh now => s.flush env i fresh now
  | .updated fresh now => s.commit i (.recording (some fresh.id) authenticationError (some now))
  | .recording userId e failedAt =>
    if (req i).Recordable then
      let row := attemptRow clk (req i) userId
      s.write i (insertAttempt row) (.recorded row e failedAt)
    else s.abort i (.answered internalError failedAt none)
  | .recorded row e failedAt => s.commit i (.answered e failedAt (some row))
  | .answered .. | .stale _ | .verified _ => s

def step (s : LoginSys ι) (t : LoginTurn ι) : LoginSys ι := s.next env req t.login t.clk

end LoginSys

/-! ### A login that runs alone -/

section Alone

open Runs

variable {ι : Type*} [DecidableEq ι] {env : Env} {req : ι → LoginCall} {i : ι} {clk : Clock}
  {pcs : ι → LoginPc} {db : DB}

/-- Statements of the one login, all at one time, lead from one state to the other. -/
abbrev LoginLeads (env : Env) (req : ι → LoginCall) (i : ι) (clk : Clock)
    (s s' : LoginSys ι) : Prop :=
  Repeats (LoginSys.step env req) ⟨i, clk⟩ s s'

/-- The login has come to what it comes to as one step. -/
def LoginFinishes (env : Env) (req : ι → LoginCall) (i : ι) (clk : Clock) (pcs : ι → LoginPc)
    (s : LoginSys ι) (o : Outcome TokenPair) : Prop :=
  ∃ pc, LoginLeads env req i clk s (solo pcs i o.db [] pc) ∧ pc.answer = some o.response

lemma LoginFinishes.next {s : LoginSys ι} {o : Outcome TokenPair}
    (h : LoginFinishes env req i clk pcs (s.next env req i clk) o) :
    LoginFinishes env req i clk pcs s o := by
  obtain ⟨pc, hleads, hanswer⟩ := h
  exact ⟨pc, .next hleads, hanswer⟩

lemma finishes_recording (userId : Option Ulid) (e : ApiError) (failedAt : Option Clock) :
    LoginFinishes env req i clk pcs (solo pcs i db [] (.recording userId e failedAt))
      (.after db (recordAttempt clk db userId (req i).data.identifier (req i).http.clientIp false)
        fun db => ⟨db, .error e⟩) := by
  refine .next ?_
  simp only [LoginSys.next, solo_pc]
  by_cases hfit : (req i).Recordable
  · have hrecord : recordAttempt clk db userId (req i).data.identifier (req i).http.clientIp false =
        .ok ((insertAttempt (attemptRow clk (req i) userId)).run db) :=
      recordAttempt_ok.mpr ⟨hfit, rfl⟩
    rw [if_pos hfit, hrecord, solo_write]
    refine .next ?_
    simp only [LoginSys.next, solo_pc, solo_commit]
    exact ⟨_, .refl _, rfl⟩
  · have hrecord : recordAttempt clk db userId (req i).data.identifier (req i).http.clientIp false =
        .error internalError := recordAttempt_refused hfit
    rw [if_neg hfit, hrecord, solo_abort]
    exact ⟨_, .refl _, rfl⟩

lemma registerFailure_eq (hkeys : (db.users.map User.id).Nodup) {user : User}
    (huser : user ∈ db.users) :
    registerFailure env clk db user.id = { db with
      users := Tables.set User.id user.id
        (fun _ => flushed User.touch user (countFailure env clk user)) db.users } := by
  have hrows : ∀ u ∈ db.users,
      (if u.id = user.id then flushed User.touch u (countFailure env clk u) else u) =
        if u.id = user.id then flushed User.touch user (countFailure env clk user) else u := by
    intro u hu
    by_cases hid : u.id = user.id
    · obtain rfl := List.inj_on_of_nodup_map hkeys hu huser hid
      rfl
    · rw [if_neg hid, if_neg hid]
  have husers : Tables.set User.id user.id
      (fun fresh => flushed User.touch fresh (countFailure env clk fresh)) db.users =
        Tables.set User.id user.id
          (fun _ => flushed User.touch user (countFailure env clk user)) db.users := by
    refine List.map_congr_left fun u hu => ?_
    simpa using hrows u hu
  rw [registerFailure, husers]

lemma finishes_counting (hkeys : (db.users.map User.id).Nodup) {user : User}
    (huser : user ∈ db.users) :
    LoginFinishes env req i clk pcs (solo pcs i db [] (.counting user))
      (.after (registerFailure env clk db user.id)
        (recordAttempt clk (registerFailure env clk db user.id) (some user.id)
          (req i).data.identifier (req i).http.clientIp false)
        fun db => ⟨db, .error authenticationError⟩) := by
  have hget : getUser db user.id = some user := Tables.get_of_mem hkeys huser
  rw [registerFailure_eq hkeys huser]
  refine .next ?_
  simp only [LoginSys.next, solo_pc, solo_view, after_nil, hget, solo_goto]
  refine .next ?_
  simp only [LoginSys.next, solo_pc, LoginSys.flush, solo_view, after_nil]
  by_cases hsame : countFailure env clk user = user
  · have hrow : Tables.set User.id user.id
        (fun _ => flushed User.touch user (countFailure env clk user)) db.users = db.users := by
      rw [flushed, if_pos hsame]
      exact Tables.set_self hkeys huser
    rw [if_pos hsame, solo_goto, hrow]
    refine .next ?_
    simp only [LoginSys.next, solo_pc, solo_commit]
    exact finishes_recording _ _ _
  · have hversion : ¬ (getUser db user.id).map User.version ≠ some user.version := by
      rw [hget]
      exact fun hne => hne rfl
    rw [if_neg hsame, if_neg hversion, solo_write, flushed, if_neg hsame]
    refine .next ?_
    simp only [LoginSys.next, solo_pc, solo_commit]
    exact finishes_recording _ _ _

/-- **The two levels agree**: a login with a wrong password whose statements run alone leaves and
answers what it does when it is taken as one step. -/
theorem login_alone (env : Env) (req : ι → LoginCall) (i : ι) (clk : Clock) (pcs : ι → LoginPc)
    (db : DB) (familyId : Ulid) (draw : TokenDraw) (hkeys : (db.users.map User.id).Nodup)
    (hwrong : ∀ user, findUser env db (req i).data.identifier = some user →
      passwordOk env user (req i).data.password = false) :
    LoginFinishes env req i clk pcs (solo pcs i db [] .start)
      (login env clk db (req i).data (req i).http.clientIp (req i).http.userAgent familyId
        draw) := by
  refine .next ?_
  simp only [LoginSys.next, solo_pc, solo_view, after_nil]
  by_cases hbind : bindable (req i).data.identifier = false
  · rw [if_pos hbind, login, if_pos hbind, solo_abort]
    exact ⟨_, .refl _, rfl⟩
  rw [if_neg hbind, login, if_neg hbind, solo_goto, lookup]
  cases hfind : (findUser env db (req i).data.identifier).filter (·.deletedAt = none) with
  | none => exact finishes_recording _ _ _
  | some user =>
    have hfound := (Option.filter_eq_some_iff.mp hfind).1
    by_cases hlocked : isLocked clk user = true
    · simp only [if_pos hlocked]
      exact finishes_recording _ _ _
    by_cases hstatus : user.status ≠ .active
    · simp only [if_neg hlocked, if_pos hstatus]
      exact finishes_recording _ _ _
    simp only [if_neg hlocked, if_neg hstatus, if_pos (hwrong user hfound)]
    exact finishes_counting hkeys (findUser_mem hfound)

end Alone

end SchoolOs
