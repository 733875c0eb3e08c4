import SchoolOs.Announcements
import SchoolOs.AssignmentStatements
import SchoolOs.Attendance
import SchoolOs.Iam
import SchoolOs.KeyRequests

/-!
What the columns of the audit table take. A snapshot goes into its row as it was taken, and the
encoder has no answer to a date or a time; a summary is made of what the request names, and may be
longer than its column. A request whose audit row does not fit fails as a whole.
-/

namespace SchoolOs

/-! ### Encoders -/

/-- The deployment as migrated, whose JSONB columns are serialised by `json.dumps`. -/
def Env.json (env : Env) : Env :=
  { env with encodes := jsonDumps, summaryWidth := 400, summaryWidth_ge := Nat.le_refl 400 }

/-- The deployment with an encoder that takes everything, and summaries of any width. -/
def Env.lenient (env : Env) {width : ℕ} (hwidth : 400 ≤ width) : Env :=
  { env with encodes := fun _ => true, summaryWidth := width, summaryWidth_ge := hwidth }

def SchoolEnv.json (env : SchoolEnv) : SchoolEnv := { env with toEnv := env.toEnv.json }
def SchoolEnv.lenient (env : SchoolEnv) {width : ℕ} (hwidth : 400 ≤ width) : SchoolEnv :=
  { env with toEnv := env.toEnv.lenient hwidth }

@[simp] lemma Env.json_repr (env : Env) : env.json.repr = env.repr := rfl
@[simp] lemma SchoolEnv.json_repr (env : SchoolEnv) : env.json.repr = env.repr := rfl
@[simp] lemma SchoolEnv.json_strip (env : SchoolEnv) : env.json.strip = env.strip := rfl

/-- The snapshot consists of values that `json.dumps` takes. -/
def Snapshot.Encodable (s : Snapshot) : Prop := ∀ f ∈ s, jsonDumps f.2 = true

/-- The text fits the column of the summary. -/
def Brief (s : String) : Prop := s.length ≤ 400

instance (s : String) : Decidable (Brief s) := inferInstanceAs (Decidable (s.length ≤ 400))

/-- The audit table takes the snapshots and the summary of the entry. -/
structure AuditEntry.Fits (entry : AuditEntry) : Prop where
  before : ∀ s ∈ entry.before, s.Encodable
  after : ∀ s ∈ entry.after, s.Encodable
  summary : ∀ s ∈ entry.summary, Brief s

lemma fits_iff {entry : AuditEntry} : entry.Fits ↔ (∀ s ∈ entry.before, s.Encodable) ∧
    (∀ s ∈ entry.after, s.Encodable) ∧ ∀ s ∈ entry.summary, Brief s :=
  ⟨fun h => ⟨h.before, h.after, h.summary⟩, fun h => ⟨h.1, h.2.1, h.2.2⟩⟩

/-! Texts around a key. -/

section Texts

variable {u : Ulid} {s t t' : String}

@[simp] lemma brief_id : Brief (s ++ u.text) ↔ s.length ≤ 374 := by
  simp [Brief, u.length_text]

@[simp] lemma brief_id_append : Brief (s ++ u.text ++ t) ↔ s.length + t.length ≤ 374 := by
  simp only [Brief, String.length_append, u.length_text]
  omega

@[simp] lemma brief_id_append_append :
    Brief (s ++ u.text ++ t ++ t') ↔ s.length + t.length + t'.length ≤ 374 := by
  simp only [Brief, String.length_append, u.length_text]
  omega

@[simp] lemma brief_repr : Brief (s ++ u.repr) ↔ s.length ≤ 372 := by
  simp only [Brief, String.length_append, u.length_repr]
  omega

@[simp] lemma brief_repr_append : Brief (s ++ u.repr ++ t) ↔ s.length + t.length ≤ 372 := by
  simp only [Brief, String.length_append, u.length_repr]
  omega

end Texts

section Snapshots

@[simp] lemma dumps_text {s : String} : jsonDumps (.text s) = true := rfl
@[simp] lemma dumps_id {u : Ulid} : jsonDumps (.id u) = true := rfl
@[simp] lemma dumps_bool {b : Bool} : jsonDumps (.bool b) = true := rfl

@[simp] lemma dumps_optText {x : Option String} : jsonDumps (.opt .text x) = true := by
  cases x <;> rfl

@[simp] lemma dumps_optId {x : Option Ulid} : jsonDumps (.opt .id x) = true := by
  cases x <;> rfl

@[simp] lemma dumps_dateText {x : Option Date} : jsonDumps (dateText x) = true := by
  cases x <;> rfl

@[simp] lemma dumps_optDate {x : Option Date} : jsonDumps (.opt .date x) = true ↔ x = none := by
  cases x <;> simp [Value.opt, jsonDumps]

@[simp] lemma dumps_optTime {x : Option Instant} : jsonDumps (.opt .time x) = true ↔ x = none := by
  cases x <;> simp [Value.opt, jsonDumps]

@[simp] lemma membershipSnapshot_encodable {m : Membership} :
    (membershipSnapshot m).Encodable ↔ m.startDate = none ∧ m.endDate = none := by
  simp [Snapshot.Encodable, membershipSnapshot]

@[simp] lemma personSnapshot_encodable {p : Person} :
    (personSnapshot p).Encodable ↔ p.dateOfBirth = none := by
  simp [Snapshot.Encodable, personSnapshot]

@[simp] lemma announcementSnapshot_encodable {a : Announcement} :
    (announcementSnapshot a).Encodable ↔ a.publishedAt = none ∧ a.expiresAt = none := by
  simp [Snapshot.Encodable, announcementSnapshot]

@[simp] lemma recordSnapshot_encodable {r : AttendanceMark} :
    (recordSnapshot r).Encodable ↔ r.arrivedAt = none := by
  simp [Snapshot.Encodable, recordSnapshot]

@[simp] lemma sessionSnapshot_encodable {s : AttendanceSession} :
    (sessionSnapshot s).Encodable := by
  simp [Snapshot.Encodable, sessionSnapshot]

@[simp] lemma studentSnapshot_encodable {s : Student} : (studentSnapshot s).Encodable := by
  simp [Snapshot.Encodable, studentSnapshot]

@[simp] lemma teacherSnapshot_encodable {t : Teacher} : (teacherSnapshot t).Encodable := by
  simp [Snapshot.Encodable, teacherSnapshot]

@[simp] lemma assignmentSnapshot_encodable {a : TeacherAssignment} :
    (assignmentSnapshot a).Encodable := by
  simp [Snapshot.Encodable, assignmentSnapshot]

@[simp] lemma enrollmentSnapshot_encodable {e : StudentEnrollment} :
    (enrollmentSnapshot e).Encodable := by
  simp [Snapshot.Encodable, enrollmentSnapshot]

end Snapshots

/-! ### Two runs of a request -/

/-- What becomes of a transaction whose audit row can be written when `U` holds: the second run is
the one under an encoder that takes everything. -/
inductive Audited {α : Type} (U : Prop) : Fallible α → Fallible α → Prop
  | refused (e : ApiError) : Audited U (.error e) (.error e)
  | written (a : α) : U → Audited U (.ok a) (.ok a)
  | unwritten (a : α) : ¬ U → Audited U (.error internalError) (.ok a)

section Rules

variable {α β : Type} {U V : Prop} {x y : Fallible α}

/-- The two runs agree unless the second one goes through and `U` fails. -/
lemma Audited.eq_iff (h : Audited U x y) : x = y ↔ (y.isOk = true → U) := by
  cases h with
  | refused e => simp [Except.isOk, Except.toBool]
  | written a hU => simp [hU]
  | unwritten a hU => simp [hU, Except.isOk, Except.toBool]

lemma Audited.agree (h : Audited U x y) (hU : U) : x = y := h.eq_iff.mpr fun _ => hU

lemma Audited.congr (h : Audited U x y) (hUV : U ↔ V) : Audited V x y := by
  rwa [propext hUV] at h

lemma audited_bind {m : Fallible β} {f g : β → Fallible α}
    (h : ∀ b, m = .ok b → Audited U (f b) (g b)) : Audited U (m >>= f) (m >>= g) := by
  cases m with
  | error e => exact .refused e
  | ok b => exact h b rfl

lemma Audited.result {f : α → β} (h : Audited U x y) :
    Audited U (x >>= fun a => pure (f a)) (y >>= fun a => pure (f a)) := by
  cases h with
  | refused e => exact .refused e
  | written a hU => exact .written (f a) hU
  | unwritten a hU => exact .unwritten (f a) hU

lemma Audited.map {f : α → β} (h : Audited U x y) : Audited U (f <$> x) (f <$> y) := by
  cases h with
  | refused e => exact .refused e
  | written a hU => exact .written (f a) hU
  | unwritten a hU => exact .unwritten (f a) hU

lemma audited_ensure {c d : Prop} [Decidable c] [Decidable d] (h : c ↔ d ∧ U) (a : α) :
    Audited U (do ensure c internalError; return a) (do ensure d internalError; return a) := by
  by_cases hd : d
  · by_cases hU : U
    · simp only [ensure, if_pos (h.mpr ⟨hd, hU⟩), if_pos hd]
      exact .written a hU
    · simp only [ensure, if_neg fun hc => hU (h.mp hc).2, if_pos hd]
      exact .unwritten a hU
  · simp only [ensure, if_neg fun hc => hd (h.mp hc).1, if_neg hd]
    exact .refused internalError

end Rules

section Tables

variable {ctx : RequestContext} {entry : AuditEntry} {width : ℕ} {hwidth : 400 ≤ width}

/-- A summary that a wide column takes is one that the column as migrated takes if it is brief. -/
lemma varchar_iff_brief (hwidth : 400 ≤ width) {x : Option String} :
    varchar 400 x = true ↔ varchar width x = true ∧ ∀ s ∈ x, Brief s := by
  refine ⟨fun h => ⟨varchar_mono hwidth h, ?_⟩, ?_⟩
  · rintro s rfl
    simp only [varchar, Bool.and_eq_true, decide_eq_true_eq] at h
    exact h.1
  · rintro ⟨h, hbrief⟩
    cases x with
    | none => rfl
    | some s =>
      simp only [varchar, Bool.and_eq_true, decide_eq_true_eq] at h ⊢
      exact ⟨hbrief s rfl, h.2⟩

lemma auditable_json {env : Env} : Auditable env.json (auditRow ctx entry) ↔
    Auditable (env.lenient hwidth) (auditRow ctx entry) ∧ entry.Fits := by
  simp only [Auditable, Env.json, Env.lenient, auditRow, fits_iff, Snapshot.Encodable,
    varchar_iff_brief hwidth, implies_true, and_true]
  tauto

lemma admits_json {env : SchoolEnv} : env.json.Admits (auditRow ctx entry) ↔
    (env.lenient hwidth).Admits (auditRow ctx entry) ∧ entry.Fits := by
  simp only [SchoolEnv.Admits, SchoolEnv.json, SchoolEnv.lenient, Env.json, Env.lenient, auditRow,
    fits_iff, Snapshot.Encodable, varchar_iff_brief hwidth, implies_true, and_true]
  tauto

/-- **The audit rule**: the row is refused for what else is in it, or it is written when its
snapshots and its summary fit. -/
lemma audited_core {env : Env} {db : DB} :
    Audited entry.Fits (audit env.json ctx entry db) (audit (env.lenient hwidth) ctx entry db) :=
  audited_ensure auditable_json _

lemma audited_school {env : SchoolEnv} {db : SchoolDB} :
    Audited entry.Fits (db.audit env.json ctx entry) (db.audit (env.lenient hwidth) ctx entry) :=
  audited_ensure admits_json _

lemma audited_board {env : SchoolEnv} {db : BoardDB} :
    Audited entry.Fits (db.audit env.json ctx entry) (db.audit (env.lenient hwidth) ctx entry) :=
  audited_ensure admits_json _

end Tables

/-! ### Memberships -/

/-- A request on memberships. -/
inductive MembershipOp
  | create (data : MembershipCreate) (draw : ℕ → Ulid)
  | update (membershipId : Ulid) (data : MembershipUpdate)
  | finish (membershipId : Ulid) (version : ℕ)
  | grantRole (membershipId : Ulid) (data : RoleGrantCreate) (linkId : Ulid)
  | revokeRole (membershipId roleId : Ulid)

def MembershipOp.iam : MembershipOp → IamOp
  | .create data draw => .createMembership data draw
  | .update membershipId data => .updateMembership membershipId data
  | .finish membershipId version => .endMembership membershipId version
  | .grantRole membershipId data linkId => .grantRole membershipId data linkId
  | .revokeRole membershipId roleId => .revokeRole membershipId roleId

structure MembershipCall where
  ctx : RequestContext
  clk : Clock
  op : MembershipOp

def MembershipCall.handle (env : Env) (db : DB) (c : MembershipCall) : Fallible DB :=
  c.op.iam.serve env c.clk c.ctx db

/-- Neither the membership nor the payload has a date. The end of a membership is a date. -/
def MembershipCall.Undated (db : DB) (c : MembershipCall) : Prop :=
  match c.op with
  | .create data _ => data.startDate = none ∧ data.endDate = none
  | .update membershipId data => data.startDate = none ∧ data.endDate = none ∧
      ∀ m, Memberships.getOwned c.ctx db membershipId = .ok m →
        m.startDate = none ∧ m.endDate = none
  | .finish _ _ => False
  | .grantRole _ _ _ | .revokeRole _ _ => True

/-- The summary of a grant, which names the code of the role, is brief. The others are. -/
def MembershipCall.Short (env : Env) (db : DB) (c : MembershipCall) : Prop :=
  match c.op with
  | .grantRole membershipId data _ => ∀ m, Memberships.getOwned c.ctx db membershipId = .ok m →
      ∀ role, requireRole db m.organizationId data.roleId roleNotFound = .ok role →
        Brief ("Role " ++ env.repr role.code ++ " granted")
  | _ => True

section Memberships

variable {env : Env} {clk : Clock} {ctx : RequestContext} {db : DB} {width : ℕ}
  {hwidth : 400 ≤ width}

lemma brief_saveSummary {action : String} : Brief (Memberships.saveSummary action) := by
  unfold Memberships.saveSummary
  split <;> decide

lemma audited_saveMembership {action : String} {old new : Membership} :
    Audited ((old.startDate = none ∧ old.endDate = none) ∧ new.startDate = none ∧
        new.endDate = none)
      (Memberships.save env.json ctx db action old new)
      (Memberships.save (env.lenient hwidth) ctx db action old new) := by
  unfold Memberships.save
  refine audited_bind fun _ _ => audited_bind fun _ _ => Audited.result (audited_core.congr ?_)
  unfold flushed
  split
  · next h => simp [fits_iff, brief_saveSummary, h]
  · simp [fits_iff, brief_saveSummary, Membership.touch]

theorem membership_audited (c : MembershipCall) : Audited (c.Undated db ∧ c.Short env db)
    (c.handle env.json db) (c.handle (env.lenient hwidth) db) := by
  obtain ⟨ctx, clk, op⟩ := c
  cases op with
  | create data draw =>
    -- The summary is fixed, so the dates decide.
    refine Audited.result ?_
    unfold Memberships.create
    iterate 8 refine audited_bind fun _ _ => ?_
    refine Audited.result (audited_core.congr ?_)
    simp [fits_iff, Membership.new, MembershipCall.Undated, MembershipCall.Short]
    exact fun _ _ => by decide
  | update membershipId data =>
    -- The dates of the row that was found count, too.
    refine audited_bind fun m hm => Audited.result ?_
    unfold Memberships.update
    refine audited_bind fun _ _ => audited_saveMembership.congr ?_
    simp [MembershipCall.Undated, MembershipCall.Short, Memberships.applyUpdate, hm]
    tauto
  | finish membershipId version =>
    refine audited_bind fun m hm => Audited.result ?_
    unfold Memberships.endMembership
    refine audited_bind fun _ _ => audited_saveMembership.congr ?_
    simp [MembershipCall.Undated, MembershipCall.Short]
  | grantRole membershipId data linkId =>
    -- The summary names the role that was looked up.
    refine audited_bind fun m hm => Audited.result ?_
    unfold Memberships.grantRole
    refine audited_bind fun role hrole => ?_
    iterate 3 refine audited_bind fun _ _ => ?_
    refine Audited.result (audited_core.congr ?_)
    simp [fits_iff, MembershipCall.Undated, MembershipCall.Short, hm, hrole]
  | revokeRole membershipId roleId =>
    refine audited_bind fun m hm => Audited.result ?_
    unfold Memberships.revokeRole
    refine audited_bind fun _ _ => Audited.result (audited_core.congr ?_)
    simp [fits_iff, MembershipCall.Undated, MembershipCall.Short]
    decide

end Memberships

/-! ### Persons -/

/-- Neither the person nor the payload has a date of birth. -/
def PersonCall.Undated (db : SchoolDB) (c : PersonCall) : Prop :=
  match c.op with
  | .create data _ => data.dateOfBirth = none
  | .update personId data => data.dateOfBirth = none ∧
      ∀ p, Persons.getOwned c.ctx db personId = .ok p → p.dateOfBirth = none
  | .delete personId _ | .merge personId _ =>
      ∀ p, Persons.getOwned c.ctx db personId = .ok p → p.dateOfBirth = none

/-- The summary of a create, which names the person, is brief. The others are. -/
def PersonCall.Short (env : SchoolEnv) (c : PersonCall) : Prop :=
  match c.op with
  | .create data _ =>
      Brief (env.strip ("Person " ++ data.firstName ++ " " ++ data.lastName.getD ""))
  | _ => True

theorem person_audited {env : SchoolEnv} {db : SchoolDB} {width : ℕ} {hwidth : 400 ≤ width}
    (c : PersonCall) : Audited (c.Undated db ∧ c.Short env) (c.handle env.json db)
      (c.handle (env.lenient hwidth) db) := by
  obtain ⟨ctx, clk, op⟩ := c
  cases op with
  | create data id =>
    -- The summary names the person.
    refine Audited.map ?_
    unfold Persons.create
    iterate 3 refine audited_bind fun _ _ => ?_
    refine Audited.result (audited_school.congr ?_)
    simp [fits_iff, Persons.created, PersonCall.Undated, PersonCall.Short]
  | update personId data =>
    refine audited_bind fun p hp => Audited.map ?_
    unfold Persons.update
    iterate 3 refine audited_bind fun _ _ => ?_
    refine Audited.result (audited_school.congr ?_)
    have hbrief : Brief "Person updated" := by decide
    simp [fits_iff, Persons.applied, PersonCall.Undated, PersonCall.Short, hp, hbrief]
  | delete personId version =>
    refine audited_bind fun p hp => ?_
    unfold Persons.delete
    iterate 2 refine audited_bind fun _ _ => ?_
    refine audited_school.congr ?_
    simp [fits_iff, PersonCall.Undated, PersonCall.Short, hp]
    exact fun _ => by decide
  | merge personId data =>
    refine audited_bind fun p hp => Audited.map ?_
    unfold Persons.merge
    iterate 4 refine audited_bind fun _ _ => ?_
    refine Audited.result (audited_school.congr ?_)
    simp [fits_iff, Persons.merged, PersonCall.Undated, PersonCall.Short, hp]
    exact fun _ => by decide

/-! ### Announcements -/

/-- Neither the announcement nor the payload has a time. Publishing sets one. -/
def AnnouncementCall.Undated (db : BoardDB) (c : AnnouncementCall) : Prop :=
  match c.op with
  | .create data _ _ => data.expiresAt = none
  | .update announcementId data _ => data.expiresAt = none ∧
      ∀ a, Announcements.getOwned c.ctx db announcementId = .ok a →
        a.publishedAt = none ∧ a.expiresAt = none
  | .publish _ _ _ => False
  | .archive announcementId _ | .delete announcementId _ =>
      ∀ a, Announcements.getOwned c.ctx db announcementId = .ok a →
        a.publishedAt = none ∧ a.expiresAt = none

/-- The summary, which names the title, is brief. -/
def AnnouncementCall.Short (env : SchoolEnv) (db : BoardDB) (c : AnnouncementCall) : Prop :=
  match c.op with
  | .create data _ _ => Brief ("Announcement " ++ env.repr data.title ++ " created")
  | .update announcementId data _ =>
      ∀ a, Announcements.getOwned c.ctx db announcementId = .ok a →
        Brief ("Announcement " ++ env.repr (data.title.getD a.title) ++ " " ++ "updated")
  | .publish announcementId _ _ =>
      ∀ a, Announcements.getOwned c.ctx db announcementId = .ok a →
        Brief ("Announcement " ++ env.repr a.title ++ " " ++ "published")
  | .archive announcementId _ =>
      ∀ a, Announcements.getOwned c.ctx db announcementId = .ok a →
        Brief ("Announcement " ++ env.repr a.title ++ " " ++ "archived")
  | .delete announcementId _ =>
      ∀ a, Announcements.getOwned c.ctx db announcementId = .ok a →
        Brief ("Announcement " ++ env.repr a.title ++ " deleted")

theorem announcement_audited {env : SchoolEnv} {db : BoardDB} {width : ℕ} {hwidth : 400 ≤ width}
    (c : AnnouncementCall) : Audited (c.Undated db ∧ c.Short env db) (c.handle env.json db)
      (c.handle (env.lenient hwidth) db) := by
  obtain ⟨ctx, clk, op⟩ := c
  cases op with
  | create data id draw =>
    refine Audited.map ?_
    unfold Announcements.create
    iterate 4 refine audited_bind fun _ _ => ?_
    refine Audited.result (audited_board.congr ?_)
    simp [fits_iff, Announcements.created, AnnouncementCall.Undated, AnnouncementCall.Short]
  | update announcementId data draw =>
    refine audited_bind fun a ha => Audited.map ?_
    unfold Announcements.update
    iterate 3 refine audited_bind fun _ _ => ?_
    refine Audited.result (audited_board.congr ?_)
    simp [fits_iff, Announcements.changedEntry, Announcements.applied,
      AnnouncementCall.Undated, AnnouncementCall.Short, ha]
    tauto
  | publish announcementId data eventId =>
    refine audited_bind fun a ha => Audited.map ?_
    unfold Announcements.publish
    iterate 4 refine audited_bind fun _ _ => ?_
    refine Audited.result (audited_board.congr ?_)
    simp [fits_iff, Announcements.changedEntry, Announcements.published,
      AnnouncementCall.Undated, AnnouncementCall.Short]
  | archive announcementId version =>
    refine audited_bind fun a ha => Audited.map ?_
    unfold Announcements.archive
    iterate 3 refine audited_bind fun _ _ => ?_
    refine Audited.result (audited_board.congr ?_)
    simp [fits_iff, Announcements.changedEntry, Announcements.archived,
      AnnouncementCall.Undated, AnnouncementCall.Short, ha]
  | delete announcementId version =>
    refine audited_bind fun a ha => ?_
    unfold Announcements.delete
    iterate 3 refine audited_bind fun _ _ => ?_
    refine audited_board.congr ?_
    simp [fits_iff, Announcements.deletedEntry, AnnouncementCall.Undated,
      AnnouncementCall.Short, ha]

/-! ### Attendance -/

/-- An updated record has no arrival time, nor does its payload. The rows of sessions have no
times that are logged, and an update in bulk logs no row. -/
def AttendanceCall.Undated (db : SchoolDB) (c : AttendanceCall) : Prop :=
  match c.op with
  | .updateRecord recordId data => data.arrivedAt = none ∧
      ∀ schoolId ∈ c.ctx.schoolId, ∀ r ∈ getRecord db schoolId recordId, r.arrivedAt = none
  | _ => True

/-- The summaries that name a date or the number of the records are brief. The others are. -/
def AttendanceCall.Short (c : AttendanceCall) : Prop :=
  match c.op with
  | .createSession data _ _ => Brief ("Attendance session created for cohort " ++
      data.cohortId.text ++ " on " ++ data.sessionDate.iso)
  | .bulkUpdateRecords sessionId records _ => Brief ("Bulk update of " ++
      toString records.length ++ " attendance records for session " ++ sessionId.text)
  | _ => True

theorem attendance_audited {env : SchoolEnv} {db : SchoolDB} {width : ℕ} {hwidth : 400 ≤ width}
    (c : AttendanceCall) : Audited (c.Undated db ∧ c.Short) (c.handle env.json db)
      (c.handle (env.lenient hwidth) db) := by
  obtain ⟨ctx, clk, op, user⟩ := c
  cases op with
  | createSession data id recordIds =>
    refine Audited.map ?_
    unfold Attendance.createSession
    iterate 5 refine audited_bind fun _ _ => ?_
    refine Audited.result (audited_school.congr ?_)
    simp [fits_iff, AttendanceCall.Undated, AttendanceCall.Short]
  | updateSession sessionId data =>
    refine Audited.map ?_
    unfold Attendance.updateSession
    iterate 2 refine audited_bind fun _ _ => ?_
    refine Audited.result (audited_school.congr ?_)
    simp [fits_iff, Attendance.changedEntry, AttendanceCall.Undated, AttendanceCall.Short]
    decide
  | deleteSession sessionId version =>
    unfold AttendanceCall.handle Attendance.deleteSession
    iterate 2 refine audited_bind fun _ _ => ?_
    refine audited_school.congr ?_
    simp [fits_iff, AttendanceCall.Undated, AttendanceCall.Short]
    decide
  | submitSession sessionId version eventId =>
    refine Audited.map ?_
    unfold Attendance.submitSession
    iterate 3 refine audited_bind fun _ _ => ?_
    refine Audited.result (audited_school.congr ?_)
    simp [fits_iff, Attendance.changedEntry, AttendanceCall.Undated, AttendanceCall.Short]
    decide
  | amendSession sessionId version =>
    refine Audited.map ?_
    unfold Attendance.amendSession
    iterate 2 refine audited_bind fun _ _ => ?_
    refine Audited.result (audited_school.congr ?_)
    simp [fits_iff, Attendance.changedEntry, AttendanceCall.Undated, AttendanceCall.Short]
    decide
  | updateRecord recordId data =>
    -- The rows before and after say when the student arrived.
    refine Audited.map ?_
    unfold Attendance.updateRecord
    refine audited_bind fun schoolId hctx => audited_bind fun record hrecord => ?_
    have hschool : ctx.schoolId = some schoolId := found_ok.mp hctx
    have hget : getRecord db schoolId recordId = some record := found_ok.mp hrecord
    iterate 3 refine audited_bind fun _ _ => ?_
    refine Audited.result (audited_school.congr ?_)
    have hbrief : "Attendance record ".length + " updated".length ≤ 374 := by decide
    simp [fits_iff, Attendance.remarked, AttendanceCall.Undated, AttendanceCall.Short, hschool,
      hget, hbrief]
    tauto
  | bulkUpdateRecords sessionId records recordIds =>
    unfold AttendanceCall.handle Attendance.bulkUpdateRecords
    iterate 5 refine audited_bind fun _ _ => ?_
    refine audited_school.congr ?_
    simp [fits_iff, AttendanceCall.Undated, AttendanceCall.Short]

/-! ### Rows whose dates are logged as texts -/

section Texts

variable {env : SchoolEnv} {ctx : RequestContext} {clk : Clock} {db : SchoolDB} {width : ℕ}
  {hwidth : 400 ≤ width}

/-- A request on the students of a school, with its context and time. -/
structure StudentCall where
  ctx : RequestContext
  clk : Clock
  op : RowOp StudentCreate StudentUpdate

/-- A request on the teachers of a school, with its context and time. -/
structure TeacherCall where
  ctx : RequestContext
  clk : Clock
  op : RowOp TeacherCreate TeacherUpdate

def StudentCall.handle (env : SchoolEnv) (db : SchoolDB) (c : StudentCall) : Fallible SchoolDB :=
  KeyCall.handle env db ⟨c.ctx, c.clk, .student c.op⟩

def TeacherCall.handle (env : SchoolEnv) (db : SchoolDB) (c : TeacherCall) : Fallible SchoolDB :=
  KeyCall.handle env db ⟨c.ctx, c.clk, .teacher c.op⟩

/-- The summary, which names the admission number, is brief. -/
def StudentCall.Short (env : SchoolEnv) (db : SchoolDB) (c : StudentCall) : Prop :=
  match c.op with
  | .create data _ => Brief ("Student " ++ env.repr data.admissionNumber ++ " created")
  | .update studentId data => ∀ student, Students.getOwned c.ctx db studentId = .ok student →
      Brief ("Student " ++ env.repr (data.admissionNumber.getD student.admissionNumber) ++
        " updated")
  | .delete studentId _ => ∀ student, Students.getOwned c.ctx db studentId = .ok student →
      Brief ("Student " ++ env.repr student.admissionNumber ++ " deleted")

/-- The summary of a create, which names the person, is brief. The others are. -/
def TeacherCall.Short (env : SchoolEnv) (db : SchoolDB) (c : TeacherCall) : Prop :=
  match c.op with
  | .create data _ => ∀ person ∈ getPerson db c.ctx.organizationId data.personId,
      Brief (env.strip ("Teacher " ++ person.firstName ++ " " ++ person.lastName.getD "" ++
        " created"))
  | _ => True

/-- The summary of a create, which names the cohort, is brief. The others are. -/
def AssignmentRequest.Short (db : SchoolDB) (c : AssignmentRequest) : Prop :=
  match c.op with
  | .create data _ => ∀ schoolId ∈ c.ctx.schoolId, ∀ cohort ∈ getCohort db schoolId data.cohortId,
      Brief ("Teacher assigned to cohort " ++ cohort.name)
  | _ => True

theorem student_audited (c : StudentCall) : Audited (c.Short env db) (c.handle env.json db)
    (c.handle (env.lenient hwidth) db) := by
  obtain ⟨ctx, clk, op⟩ := c
  cases op with
  | create data id =>
    refine Audited.map ?_
    unfold Students.create
    iterate 6 refine audited_bind fun _ _ => ?_
    refine Audited.result (audited_school.congr ?_)
    simp [fits_iff, StudentCall.Short]
  | update studentId data =>
    refine audited_bind fun student hstudent => Audited.map ?_
    unfold Students.update
    iterate 2 refine audited_bind fun _ _ => ?_
    refine Audited.result (audited_school.congr ?_)
    simp [fits_iff, Students.applied, StudentCall.Short, hstudent]
  | delete studentId version =>
    refine audited_bind fun student hstudent => ?_
    unfold Students.delete
    iterate 2 refine audited_bind fun _ _ => ?_
    refine audited_school.congr ?_
    simp [fits_iff, StudentCall.Short, hstudent]

theorem teacher_audited (c : TeacherCall) : Audited (c.Short env db) (c.handle env.json db)
    (c.handle (env.lenient hwidth) db) := by
  obtain ⟨ctx, clk, op⟩ := c
  cases op with
  | create data id =>
    refine Audited.map ?_
    unfold Teachers.create
    refine audited_bind fun schoolId _ => audited_bind fun person hperson => ?_
    have hget : getPerson db ctx.organizationId data.personId = some person := found_ok.mp hperson
    iterate 4 refine audited_bind fun _ _ => ?_
    refine Audited.result (audited_school.congr ?_)
    simp [fits_iff, TeacherCall.Short, hget]
  | update teacherId data =>
    refine audited_bind fun teacher _ => Audited.map ?_
    unfold Teachers.update
    iterate 3 refine audited_bind fun _ _ => ?_
    refine Audited.result (audited_school.congr ?_)
    simp [fits_iff, TeacherCall.Short]
    decide
  | delete teacherId version =>
    refine audited_bind fun teacher _ => ?_
    unfold Teachers.delete
    iterate 2 refine audited_bind fun _ _ => ?_
    refine audited_school.congr ?_
    simp [fits_iff, TeacherCall.Short]
    decide

theorem assignment_audited (c : AssignmentRequest) : Audited (c.Short db) (c.handle env.json db)
    (c.handle (env.lenient hwidth) db) := by
  obtain ⟨ctx, clk, op⟩ := c
  cases op with
  | create data id =>
    unfold AssignmentRequest.handle Assignments.create
    refine audited_bind fun schoolId hctx => audited_bind fun _ _ =>
      audited_bind fun cohort hcohort => ?_
    have hschool : ctx.schoolId = some schoolId := found_ok.mp hctx
    have hget : getCohort db schoolId data.cohortId = some cohort := found_ok.mp hcohort
    iterate 4 refine audited_bind fun _ _ => ?_
    refine Audited.result (audited_school.congr ?_)
    simp [fits_iff, AssignmentRequest.Short, hschool, hget]
  | update assignmentId data =>
    refine audited_bind fun a _ => ?_
    unfold Assignments.update
    iterate 2 refine audited_bind fun _ _ => ?_
    refine Audited.result (audited_school.congr ?_)
    simp [fits_iff, AssignmentRequest.Short]
    decide
  | finish assignmentId version =>
    refine audited_bind fun a _ => ?_
    unfold Assignments.endAssignment
    iterate 2 refine audited_bind fun _ _ => ?_
    refine Audited.result (audited_school.congr ?_)
    simp [fits_iff, AssignmentRequest.Short]
    decide

theorem enrollment_audited (c : EnrollmentCall) : Audited True (c.handle env.json db)
    (c.handle (env.lenient hwidth) db) := by
  obtain ⟨ctx, op⟩ := c
  cases op with
  | create data id =>
    refine Audited.map ?_
    unfold Enrollments.create
    iterate 3 refine audited_bind fun _ _ => ?_
    refine Audited.result (audited_school.congr ?_)
    simp [fits_iff, Enrollments.createdEntry]
    decide
  | update enrollmentId data =>
    refine Audited.map ?_
    unfold Enrollments.update
    iterate 4 refine audited_bind fun _ _ => ?_
    refine Audited.result (audited_school.congr ?_)
    simp [fits_iff, Enrollments.updatedEntry]
    decide
  | transfer enrollmentId data id =>
    refine Audited.map ?_
    unfold Enrollments.transfer
    refine audited_bind fun old _ => audited_bind fun _ _ => ?_
    -- The row of the enrollment that ends is the first of two.
    have hfits : (Enrollments.endedEntry old (Enrollments.ended ctx old data)).Fits := by
      simp [fits_iff, Enrollments.endedEntry, Enrollments.updatedEntry]
      decide
    rw [audited_school.agree hfits]
    iterate 3 refine audited_bind fun _ _ => ?_
    refine Audited.result (audited_school.congr ?_)
    simp [fits_iff, Enrollments.transferredEntry, Enrollments.createdEntry]
    decide
  | delete enrollmentId version =>
    unfold EnrollmentCall.handle Enrollments.delete
    iterate 4 refine audited_bind fun _ _ => ?_
    refine audited_school.congr ?_
    simp [fits_iff]
    decide

end Texts

/-! ### Audited services -/

/-- What the requests of a service work on, what they do, which of them meet no date or time that
their audit row would have to hold, and which of them have a summary that fits its column. -/
structure AuditedService where
  State : Type
  Call : Type
  handle : SchoolEnv → State → Call → Fallible State
  Undated : State → Call → Prop
  Short : SchoolEnv → State → Call → Prop

inductive AuditedKind
  | memberships | persons | announcements | attendance
  | students | teachers | assignments | enrollments

abbrev AuditedKind.service : AuditedKind → AuditedService
  | .memberships => ⟨DB, MembershipCall, fun env => MembershipCall.handle env.toEnv,
      fun db c => c.Undated db, fun env db c => c.Short env.toEnv db⟩
  | .persons => ⟨SchoolDB, PersonCall, PersonCall.handle, fun db c => c.Undated db,
      fun env _ c => c.Short env⟩
  | .announcements => ⟨BoardDB, AnnouncementCall, AnnouncementCall.handle,
      fun db c => c.Undated db, fun env db c => c.Short env db⟩
  | .attendance => ⟨SchoolDB, AttendanceCall, AttendanceCall.handle, fun db c => c.Undated db,
      fun _ _ c => c.Short⟩
  | .students => ⟨SchoolDB, StudentCall, StudentCall.handle, fun _ _ => True,
      fun env db c => c.Short env db⟩
  | .teachers => ⟨SchoolDB, TeacherCall, TeacherCall.handle, fun _ _ => True,
      fun env db c => c.Short env db⟩
  | .assignments => ⟨SchoolDB, AssignmentRequest,
      fun env db q => Prod.snd <$> AssignmentRequest.handle env db q, fun _ _ => True,
      fun _ db q => q.Short db⟩
  | .enrollments => ⟨SchoolDB, EnrollmentCall, EnrollmentCall.handle, fun _ _ => True,
      fun _ _ _ => True⟩

/-- Whatever the service, its audit rows are written when the request is undated and short. -/
lemma service_audited (k : AuditedKind) (env : SchoolEnv) {width : ℕ} (hwidth : 400 ≤ width)
    (db : k.service.State) (c : k.service.Call) :
    Audited (k.service.Undated db c ∧ k.service.Short env db c) (k.service.handle env.json db c)
      (k.service.handle (env.lenient hwidth) db c) := by
  cases k with
  | memberships => exact membership_audited c
  | persons => exact person_audited c
  | announcements => exact announcement_audited c
  | attendance => exact attendance_audited c
  | students => exact (student_audited c).congr (iff_of_eq (true_and _)).symm
  | teachers => exact (teacher_audited c).congr (iff_of_eq (true_and _)).symm
  | assignments => exact (assignment_audited c).map.congr (iff_of_eq (true_and _)).symm
  | enrollments => exact (enrollment_audited c).congr (iff_of_eq (true_and _)).symm

/-- **Audit rows**: a request that would go through if the columns of the audit table took any
snapshot, and summaries of a greater width, goes through under `json.dumps` and `VARCHAR(400)`
exactly if its snapshots hold no date and no time and its summary is brief. -/
theorem audit_rows_written (k : AuditedKind) (env : SchoolEnv) {width : ℕ} (hwidth : 400 ≤ width)
    (db db' : k.service.State) (c : k.service.Call)
    (h : k.service.handle (env.lenient hwidth) db c = .ok db') :
    k.service.handle env.json db c = .ok db' ↔
      k.service.Undated db c ∧ k.service.Short env db c := by
  have hruns := (service_audited k env hwidth db c).eq_iff
  simpa [h, Except.isOk, Except.toBool] using hruns

/-- The request that enters a person with the date of birth given. -/
def enterDana (dateOfBirth : Option Date) : PersonCall where
  ctx := staff
  clk := ⟨0, 0⟩
  op := .create
    { PersonTexts.none with
      firstName := "Dana"
      dateOfBirth := dateOfBirth
      addressId := none
      customFields := []
      firstName_length := by decide } 64

theorem audit_rows_written_dana :
    ∃ db', (enterDana none).handle SchoolEnv.plain.json smallSchool = .ok db' := by
  have hok : ((enterDana none).handle (SchoolEnv.plain.lenient (Nat.le_add_right 400 100))
      smallSchool).isOk = true := by
    decide +kernel
  obtain ⟨db', h⟩ := exists_of_isOk hok
  have hshort : (enterDana none).Short .plain := by
    show Brief _
    decide +kernel
  exact ⟨db', (audit_rows_written .persons .plain _ smallSchool db' (enterDana none) h).mpr
    ⟨rfl, hshort⟩⟩

/-- Who is entered with a date of birth is not entered. -/
theorem dated_row_unwritten : ¬ ∀ (k : AuditedKind) (env : SchoolEnv) (width : ℕ)
    (hwidth : 400 ≤ width) (db db' : k.service.State) (c : k.service.Call),
    k.service.handle (env.lenient hwidth) db c = .ok db' →
      k.service.handle env.json db c = .ok db' := by
  intro claim
  have hok : ((enterDana (some 730000)).handle (SchoolEnv.plain.lenient (le_refl 400))
      smallSchool).isOk = true := by decide +kernel
  obtain ⟨db', h⟩ := exists_of_isOk hok
  have hjson := claim .persons .plain _ (le_refl 400) smallSchool db' (enterDana (some 730000)) h
  have hdated : (enterDana (some 730000)).Undated smallSchool :=
    ((person_audited (enterDana (some 730000))).eq_iff.mp (hjson.trans h.symm) hok).1
  cases hdated

end SchoolOs
