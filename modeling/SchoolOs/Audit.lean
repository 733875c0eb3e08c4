import SchoolOs.Context

/-!
The audit helper: one row in the caller's transaction. The row is written with the domain
change or not at all, so what the audit table refuses undoes the change.
-/

namespace SchoolOs

/-- The actions the check constraint of `audit_logs` admits. -/
def auditActions : List String :=
  ["ORGANIZATION_CREATED", "ORGANIZATION_UPDATED", "ORGANIZATION_DELETED", "SCHOOL_CREATED",
    "SCHOOL_UPDATED", "SCHOOL_DELETED", "USER_CREATED", "USER_UPDATED", "USER_DELETED",
    "MEMBERSHIP_CREATED", "MEMBERSHIP_UPDATED", "MEMBERSHIP_ENDED", "ROLE_CREATED",
    "ROLE_UPDATED", "ROLE_DELETED", "ROLE_GRANTED", "ROLE_REVOKED", "PERSON_CREATED",
    "PERSON_UPDATED", "PERSON_DELETED", "PERSON_MERGED", "ADDRESS_CREATED", "ADDRESS_UPDATED",
    "ADDRESS_DELETED", "CONTACT_CREATED", "CONTACT_UPDATED", "CONTACT_DELETED", "LOGIN_SUCCESS",
    "LOGOUT", "PASSWORD_CHANGED", "PASSWORD_RESET_REQUESTED", "PASSWORD_RESET_CONFIRMED",
    "ACADEMIC_YEAR_CREATED", "ACADEMIC_YEAR_UPDATED", "ACADEMIC_YEAR_DELETED",
    "ACADEMIC_TERM_CREATED", "ACADEMIC_TERM_UPDATED", "ACADEMIC_TERM_DELETED",
    "ACADEMIC_CLASS_CREATED", "ACADEMIC_CLASS_UPDATED", "ACADEMIC_CLASS_DELETED",
    "SUBJECT_CREATED", "SUBJECT_UPDATED", "SUBJECT_DELETED", "CLASS_SUBJECT_CREATED",
    "CLASS_SUBJECT_DELETED", "COHORT_CREATED", "COHORT_UPDATED", "COHORT_DELETED",
    "STUDENT_CREATED", "STUDENT_UPDATED", "STUDENT_DELETED", "STUDENT_GUARDIAN_CREATED",
    "STUDENT_GUARDIAN_UPDATED", "STUDENT_GUARDIAN_DELETED", "TEACHER_CREATED", "TEACHER_UPDATED",
    "TEACHER_DELETED", "TEACHER_ASSIGNED", "TEACHER_ASSIGNMENT_UPDATED",
    "TEACHER_ASSIGNMENT_ENDED", "PERIOD_DEFINITION_CREATED", "PERIOD_DEFINITION_UPDATED",
    "PERIOD_DEFINITION_DELETED", "TIMETABLE_SLOT_CREATED", "TIMETABLE_SLOT_UPDATED",
    "TIMETABLE_SLOT_CANCELLED", "ANNOUNCEMENT_CREATED", "ANNOUNCEMENT_UPDATED",
    "ANNOUNCEMENT_DELETED", "ANNOUNCEMENT_PUBLISHED", "ANNOUNCEMENT_ARCHIVED",
    "ATTENDANCE_SESSION_CREATED", "ATTENDANCE_SESSION_UPDATED", "ATTENDANCE_SESSION_DELETED",
    "ATTENDANCE_SESSION_SUBMITTED", "ATTENDANCE_SESSION_AMENDED",
    "ATTENDANCE_SESSION_BULK_UPDATED", "ATTENDANCE_RECORD_UPDATED", "ENROLLMENT_CREATED",
    "ENROLLMENT_UPDATED", "ENROLLMENT_DELETED", "IMPORT_JOB_CREATED", "IMPORT_JOB_COMPLETED",
    "IMPORT_JOB_FAILED", "REPORT_EXPORTED", "PARENT_CREATED", "PARENT_UPDATED", "PARENT_DELETED",
    "STUDENT_PARENT_LINKED", "STUDENT_PARENT_UNLINKED"]

/-- Append a row to the audit log. -/
def DB.log (db : DB) (row : AuditLog) : DB := { db with auditLogs := db.auditLogs ++ [row] }

section Log

variable (db : DB) (row : AuditLog)

@[simp] lemma log_schools : (db.log row).schools = db.schools := rfl
@[simp] lemma log_users : (db.log row).users = db.users := rfl
@[simp] lemma log_memberships : (db.log row).memberships = db.memberships := rfl
@[simp] lemma log_permissions : (db.log row).permissions = db.permissions := rfl
@[simp] lemma log_roles : (db.log row).roles = db.roles := rfl
@[simp] lemma log_rolePermissions : (db.log row).rolePermissions = db.rolePermissions := rfl
@[simp] lemma log_membershipRoles : (db.log row).membershipRoles = db.membershipRoles := rfl
@[simp] lemma log_refreshTokens : (db.log row).refreshTokens = db.refreshTokens := rfl
@[simp] lemma log_loginAttempts : (db.log row).loginAttempts = db.loginAttempts := rfl
@[simp] lemma log_passwordResetTokens :
    (db.log row).passwordResetTokens = db.passwordResetTokens := rfl

end Log

/-- `repr` of a key, whose characters are letters and digits. -/
def Ulid.repr (u : Ulid) : String := "'" ++ u.text ++ "'"

lemma Ulid.length_repr (u : Ulid) : u.repr.length = 28 := by
  simp only [Ulid.repr, String.length_append, u.length_text]
  decide

/-- What a service hands to `audit`; the tenant columns come from the context. -/
structure AuditEntry where
  action : String
  entityType : String
  entityId : Option Ulid
  summary : Option String := none
  before : Option Snapshot := none
  after : Option Snapshot := none

def auditRow (ctx : RequestContext) (entry : AuditEntry) : AuditLog where
  organizationId := ctx.organizationId
  schoolId := ctx.schoolId
  actorUserId := ctx.userId
  action := entry.action
  entityType := entry.entityType
  entityId := entry.entityId
  summary := entry.summary
  beforeSnapshot := entry.before
  afterSnapshot := entry.after
  requestId := if ctx.requestId = "" then none else some ctx.requestId
  ipAddress := ctx.ipAddress

/-- The table takes the row: its action is admitted, its texts fit, its snapshots encode. -/
def Auditable (env : Env) (row : AuditLog) : Prop :=
  row.action ∈ auditActions ∧ varchar 64 row.requestId = true ∧ varchar 45 row.ipAddress = true ∧
    varchar env.summaryWidth row.summary = true ∧
    (∀ s ∈ row.beforeSnapshot, ∀ f ∈ s, env.encodes f.2 = true) ∧
    ∀ s ∈ row.afterSnapshot, ∀ f ∈ s, env.encodes f.2 = true

instance (env : Env) (row : AuditLog) : Decidable (Auditable env row) :=
  inferInstanceAs (Decidable (_ ∧ _ ∧ _ ∧ _ ∧ (∀ s ∈ row.beforeSnapshot, ∀ f ∈ s, _) ∧
    ∀ s ∈ row.afterSnapshot, ∀ f ∈ s, _))

def audit (env : Env) (ctx : RequestContext) (entry : AuditEntry) (db : DB) : Fallible DB := do
  ensure (Auditable env (auditRow ctx entry)) internalError
  return db.log (auditRow ctx entry)

lemma audit_ok {env : Env} {ctx : RequestContext} {entry : AuditEntry} {db db' : DB} :
    audit env ctx entry db = .ok db' ↔
      Auditable env (auditRow ctx entry) ∧ db.log (auditRow ctx entry) = db' := by
  simp [audit, map_ok]

lemma audit_refused {env : Env} {ctx : RequestContext} {entry : AuditEntry} {db : DB}
    (h : ¬ Auditable env (auditRow ctx entry)) : audit env ctx entry db = .error internalError := by
  simp [audit, ensure, h]

lemma audit_error {env : Env} {ctx : RequestContext} {entry : AuditEntry} {db : DB}
    (h : entry.action ∉ auditActions) : audit env ctx entry db = .error internalError :=
  audit_refused fun ha => h ha.1

/-! ### Before the commit -/

/-- What a service function has come to when it returns: its answer, the tables as they are flushed,
and the audit row that was added since and is not written yet. -/
structure Returned (σ α : Type) where
  answer : α
  db : σ
  added : Option AuditEntry

/-- The commit writes the row that was added. -/
def Returned.commit {σ α : Type} (audit : σ → AuditEntry → Fallible σ) (r : Returned σ α) :
    Fallible (α × σ) :=
  match r.added with
  | none => return (r.answer, r.db)
  | some entry => do
    let db ← audit r.db entry
    return (r.answer, db)

end SchoolOs
