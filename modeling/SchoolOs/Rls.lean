import SchoolOs.Models

/-!
Row-level security: the two transaction-local settings a request binds, and the predicates
of the tenant policies that read them.
-/

namespace SchoolOs

def gucSchoolId : String := "app.current_school_id"
def gucOrgId : String := "app.current_organization_id"

/-- The custom settings of a transaction; an unset one reads as NULL. -/
abbrev Gucs := String → Option String

def Gucs.unset : Gucs := fun _ => none

/-- `set_config(guc, value, true)`. -/
def setConfig (g : Gucs) (guc value : String) : Gucs :=
  fun k => if k = guc then some value else g k

/-- `str(x) if x else ""`. -/
def gucText : Option Ulid → String
  | none => ""
  | some u => u.text

def setTenantContext (g : Gucs) (schoolId organizationId : Option Ulid) : Gucs :=
  setConfig (setConfig g gucSchoolId (gucText schoolId)) gucOrgId (gucText organizationId)

/-- `coalesce(current_setting('app.current_school_id', true), '')`. -/
def schoolCtx (g : Gucs) : String := (g gucSchoolId).getD ""

/-- `coalesce(current_setting('app.current_organization_id', true), '')`. -/
def orgCtx (g : Gucs) : String := (g gucOrgId).getD ""

/-- The predicate of `school_scoped_policy_sql`, on the row's `school_id`. -/
def schoolScopedPolicy (g : Gucs) (schoolId : Ulid) : Bool :=
  schoolId.text == schoolCtx g || schoolCtx g == ""

/-- The predicate of `org_scoped_policy_sql`, on the row's `organization_id`. -/
def orgScopedPolicy (g : Gucs) (organizationId : Option Ulid) (allowNullOrg : Bool) : Bool :=
  match organizationId with
  | none => allowNullOrg || orgCtx g == ""
  | some o => o.text == orgCtx g || orgCtx g == ""

/-- Tables protected by school-level row security; their `school_id` is not nullable. -/
def schoolScopedTables : List String :=
  ["academic_years", "academic_terms", "academic_classes", "subjects", "class_subjects",
    "cohorts", "students", "student_enrollments", "teachers", "teacher_assignments",
    "announcements", "announcement_targets", "period_definitions", "timetables",
    "timetable_slots", "student_guardians", "attendance_sessions", "attendance_records",
    "import_jobs", "documents", "export_jobs", "parents", "student_parents"]

/-- What the policy sees of a row of such a table. -/
structure SchoolScopedRow where
  table : String
  mem : table ∈ schoolScopedTables
  schoolId : Ulid

/-- Whether a query that filters by nothing returns the row. -/
def visible (g : Gucs) (row : SchoolScopedRow) : Bool := schoolScopedPolicy g row.schoolId

@[simp] lemma schoolCtx_setTenantContext (g : Gucs) (s o : Option Ulid) :
    schoolCtx (setTenantContext g s o) = gucText s := by
  simp [schoolCtx, setTenantContext, setConfig, gucSchoolId, gucOrgId]

@[simp] lemma orgCtx_setTenantContext (g : Gucs) (s o : Option Ulid) :
    orgCtx (setTenantContext g s o) = gucText o := by
  simp [orgCtx, setTenantContext, setConfig]

lemma schoolScopedPolicy_some (g : Gucs) (s r : Ulid) (o : Option Ulid) :
    schoolScopedPolicy (setTenantContext g (some s) o) r = true ↔ r = s := by
  simp [schoolScopedPolicy, gucText, Ulid.text_ne_empty]

lemma schoolScopedPolicy_none (g : Gucs) (r : Ulid) (o : Option Ulid) :
    schoolScopedPolicy (setTenantContext g none o) r = true := by
  simp [schoolScopedPolicy, gucText]

end SchoolOs
