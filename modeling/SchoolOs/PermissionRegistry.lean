import SchoolOs.Models

/-!
The permission registry and the role catalogue. Every module declares its permissions, and a script
knows those of the modules it imports; the catalogue lists the codes of the system roles.
-/

namespace SchoolOs

/-! ### The registry -/

/-- A permission as a module declares it. -/
structure DeclaredPermission extends Permission where
  description : String
  deriving DecidableEq

/-- One word of a code. -/
def codeWord (w : List Char) : Bool :=
  !w.isEmpty && w.all fun c => ('a' ≤ c && c ≤ 'z') || ('0' ≤ c && c ≤ '9') || c == '_'

/-- `_CODE_RE`: three words with dots between them; `$` lets one newline follow. -/
def codeFormat (code : String) : Bool :=
  let chars := if code.toList.getLast? = some '\n' then code.toList.dropLast else code.toList
  match chars.splitOn '.' with
  | [module, resource, action] => codeWord module && codeWord resource && codeWord action
  | _ => false

/-- Registers a permission; a malformed code, or one that is there, is a `ValueError`. -/
def register (registry : List DeclaredPermission) (p : DeclaredPermission) :
    Option (List DeclaredPermission) :=
  if codeFormat p.code = true ∧ p.code ∉ registry.map (·.code) then some (registry ++ [p]) else none

/-- The registry once the modules are imported, in this order. -/
def registryOf (modules : List (List DeclaredPermission)) : Option (List DeclaredPermission) :=
  modules.flatten.foldlM register []

/-- The calls of `registry.register` for one resource, with actions and descriptions. -/
def registered (module resource : String) (actions : List (String × String)) :
    List DeclaredPermission :=
  actions.map fun a => ⟨⟨module, resource, a.1⟩, a.2⟩

/-! ### What the modules declare -/

def academicClassesPermissions : List DeclaredPermission :=
  registered "academic" "academic_class" [("list", "List academic classes"),
    ("read", "View an academic class"), ("create", "Create an academic class"),
    ("update", "Update an academic class"), ("delete", "Delete an academic class")]

def academicTermsPermissions : List DeclaredPermission :=
  registered "academic" "academic_term" [("list", "List academic terms"),
    ("read", "View an academic term"), ("create", "Create an academic term"),
    ("update", "Update an academic term"), ("delete", "Delete an academic term")]

def academicYearsPermissions : List DeclaredPermission :=
  registered "academic" "academic_year" [("list", "List academic years"),
    ("read", "View an academic year"), ("create", "Create an academic year"),
    ("update", "Update an academic year"), ("delete", "Delete an academic year")]

def classSubjectsPermissions : List DeclaredPermission :=
  registered "academic" "class_subject" [("list", "List class subjects"),
    ("read", "View a class subject"), ("create", "Create a class subject"),
    ("delete", "Delete a class subject")]

def cohortsPermissions : List DeclaredPermission :=
  registered "academic" "cohort" [("list", "List cohorts"), ("read", "View a cohort"),
    ("create", "Create a cohort"), ("update", "Update a cohort"), ("delete", "Delete a cohort")]

def subjectsPermissions : List DeclaredPermission :=
  registered "academic" "subject" [("list", "List subjects"), ("read", "View a subject"),
    ("create", "Create a subject"), ("update", "Update a subject"),
    ("delete", "Delete a subject")]

def membershipsPermissions : List DeclaredPermission :=
  registered "iam" "membership" [("list", "List memberships"), ("read", "View a membership"),
    ("create", "Create a membership"), ("update", "Update a membership"),
    ("delete", "End a membership"), ("grant_role", "Grant a role to a membership"),
    ("revoke_role", "Revoke a role from a membership")]

def organizationsPermissions : List DeclaredPermission :=
  registered "iam" "organization" [("list", "List organizations"), ("read", "View an organization"),
    ("create", "Create an organization"), ("update", "Update an organization"),
    ("delete", "Delete an organization")]

def rolesPermissions : List DeclaredPermission :=
  registered "iam" "role" [("list", "List roles"), ("read", "View a role"),
    ("create", "Create a role"), ("update", "Update a role"), ("delete", "Delete a role")]

def schoolsPermissions : List DeclaredPermission :=
  registered "iam" "school" [("list", "List schools"), ("read", "View a school"),
    ("create", "Create a school"), ("update", "Update a school"), ("delete", "Delete a school")]

def usersPermissions : List DeclaredPermission :=
  registered "iam" "user" [("list", "List users in an organization"), ("read", "View a user"),
    ("create", "Create a user account"), ("update", "Update a user account"),
    ("delete", "Delete a user account"), ("invite", "Invite a user to an organization"),
    ("toggle_platform_admin", "Grant or revoke platform admin flag")]

def addressesPermissions : List DeclaredPermission :=
  registered "people" "address" [("list", "List addresses"), ("read", "View an address"),
    ("create", "Create an address"), ("update", "Update an address"),
    ("delete", "Delete an address")]

def contactsPermissions : List DeclaredPermission :=
  registered "people" "contact" [("list", "List contacts"), ("read", "View a contact"),
    ("create", "Create a contact"), ("update", "Update a contact"),
    ("delete", "Delete a contact")]

def personsPermissions : List DeclaredPermission :=
  registered "people" "person" [("list", "List persons"), ("read", "View a person"),
    ("create", "Create a person"), ("update", "Update a person"), ("delete", "Delete a person"),
    ("merge", "Merge duplicate persons")]

def auditPermissions : List DeclaredPermission :=
  registered "platform" "audit_log" [("list", "List audit logs"), ("read", "View an audit log")]

def enrollmentsPermissions : List DeclaredPermission :=
  registered "students" "enrollment" [("list", "List enrollments"), ("read", "View enrollment"),
    ("create", "Create enrollment"), ("update", "Update enrollment"),
    ("delete", "Delete enrollment"), ("transfer", "Transfer student")]

def guardiansPermissions : List DeclaredPermission :=
  registered "students" "guardian" [("list", "List guardians"), ("read", "View guardian"),
    ("create", "Add guardian"), ("update", "Update guardian"), ("delete", "Remove guardian")]

def teachersPermissions : List DeclaredPermission :=
  registered "teachers" "teacher" [("list", "List teachers"), ("read", "View a teacher"),
    ("create", "Create a teacher"), ("update", "Update a teacher"),
    ("delete", "Delete a teacher")] ++
  registered "teachers" "assignment" [("list", "List teacher assignments"),
    ("read", "View a teacher assignment"), ("create", "Create a teacher assignment"),
    ("update", "Update a teacher assignment"), ("delete", "End a teacher assignment")]

def timetablesPermissions : List DeclaredPermission :=
  registered "timetables" "period" [("list", "List period definitions"),
    ("read", "View a period definition"), ("create", "Create a period definition"),
    ("update", "Update a period definition"), ("delete", "Delete a period definition")] ++
  registered "timetables" "timetable" [("list", "List timetables"), ("read", "View timetable"),
    ("create", "Create timetable"), ("update", "Update timetable"),
    ("delete", "Delete timetable")] ++
  registered "timetables" "slot" [("list", "List timetable slots"),
    ("read", "View a timetable slot"), ("create", "Create a timetable slot"),
    ("update", "Update a timetable slot"), ("delete", "Cancel a timetable slot")]

def announcementsPermissions : List DeclaredPermission :=
  registered "announcements" "announcement" [("list", "List announcements"),
    ("read", "View an announcement"), ("create", "Create an announcement"),
    ("update", "Update an announcement"), ("delete", "Delete an announcement"),
    ("publish", "Publish an announcement"), ("archive", "Archive an announcement")]

def attendancePermissions : List DeclaredPermission :=
  registered "attendance" "session" [("list", "List attendance sessions"),
    ("read", "View an attendance session"), ("create", "Create an attendance session"),
    ("update", "Update an attendance session"), ("delete", "Delete an attendance session"),
    ("submit", "Submit attendance"), ("amend", "Amend submitted attendance")] ++
  registered "attendance" "record" [("list", "List attendance records"),
    ("update", "Update an attendance record")]

def bulkImportPermissions : List DeclaredPermission :=
  registered "bulk_import" "import" [("list", "List import jobs"),
    ("read", "Read import job details"), ("create", "Upload CSV for bulk import")] ++
  registered "bulk_import" "export" [("create", "Export records as CSV")]

/-! ### The imports of the two scripts -/

def syncPermissionsImports : List (List DeclaredPermission) :=
  [membershipsPermissions, organizationsPermissions, rolesPermissions, schoolsPermissions,
    usersPermissions, addressesPermissions, contactsPermissions, personsPermissions,
    auditPermissions]

def syncRolesImports : List (List DeclaredPermission) :=
  [academicClassesPermissions, academicTermsPermissions, academicYearsPermissions,
    classSubjectsPermissions, cohortsPermissions, subjectsPermissions, membershipsPermissions,
    organizationsPermissions, rolesPermissions, schoolsPermissions, usersPermissions,
    addressesPermissions, contactsPermissions, personsPermissions, auditPermissions,
    enrollmentsPermissions, guardiansPermissions, teachersPermissions, timetablesPermissions,
    announcementsPermissions, attendancePermissions, bulkImportPermissions]

/-! ### The role catalogue -/

/-- An entry of `ROLE_CATALOG`. -/
structure RoleDefinition where
  code : String
  name : String
  description : String
  scopeLevel : RoleScopeLevel
  dataScope : DataScope
  permissions : List String
  deriving DecidableEq

section Catalog

variable (registry : List DeclaredPermission)

def allInModule (module : String) : List String :=
  ((registry.filter (·.module = module)).map (·.code)).mergeSort (· ≤ ·)

def allPermissions : List String := (registry.map (·.code)).mergeSort (· ≤ ·)

/-- The codes that read people. -/
def peopleReads : List String :=
  (allInModule registry "people").filter fun c => c.endsWith ".read" || c.endsWith ".list"

def roleCatalog : List RoleDefinition :=
  [{  code := "SUPER_ADMIN"
      name := "Platform Super Admin"
      description := "Platform staff. Full access across all tenants."
      scopeLevel := .platform
      dataScope := .platform
      permissions := allPermissions registry },
    { code := "ORG_ADMIN"
      name := "Organization Administrator"
      description := "Runs the whole organization: schools, users, roles."
      scopeLevel := .organization
      dataScope := .organization
      permissions := allInModule registry "iam" ++ allInModule registry "people" ++
        allInModule registry "academic" ++ allInModule registry "students" ++
        allInModule registry "platform" ++ allInModule registry "attendance" },
    { code := "SCHOOL_ADMIN"
      name := "School Administrator"
      description := "Operates one school: people and contacts."
      scopeLevel := .school
      dataScope := .school
      permissions := allInModule registry "people" ++ allInModule registry "academic" ++
        allInModule registry "students" ++ allInModule registry "teachers" ++
        allInModule registry "timetables" ++ allInModule registry "announcements" ++
        allInModule registry "attendance" ++ allInModule registry "bulk_import" ++
        ((allInModule registry "iam").filter fun c =>
          c.startsWith "iam.membership." || c.startsWith "iam.user." ||
            c.startsWith "iam.school." || c.startsWith "iam.role.") ++
        allInModule registry "platform" },
    { code := "PRINCIPAL"
      name := "Principal"
      description := "Reads all school data, manages people."
      scopeLevel := .school
      dataScope := .school
      permissions := peopleReads registry ++ (allInModule registry "people").filter fun c =>
        c.endsWith ".create" || c.endsWith ".update" },
    { code := "TEACHER"
      name := "Teacher"
      description := "Sees assigned students (Phase 1: reads people)."
      scopeLevel := .school
      dataScope := .assigned
      permissions := peopleReads registry },
    { code := "STAFF"
      name := "Staff"
      description := "Non-teaching staff. Read-only people access."
      scopeLevel := .school
      dataScope := .school
      permissions := peopleReads registry },
    { code := "PARENT"
      name := "Parent / Guardian"
      description := "Reads only their own children (Phase 1: own person record)."
      scopeLevel := .school
      dataScope := .own
      permissions := peopleReads registry },
    { code := "STUDENT"
      name := "Student"
      description := "Reads only their own record."
      scopeLevel := .school
      dataScope := .own
      permissions := (allInModule registry "people").filter fun c => c.endsWith ".read" }]

end Catalog

/-! ### What is registered -/

lemma register_some {registry registry' : List DeclaredPermission} {p : DeclaredPermission}
    (h : register registry p = some registry') :
    p.code ∉ registry.map (·.code) ∧ registry' = registry ++ [p] := by
  unfold register at h
  split at h
  · next hp => exact ⟨hp.2, (Option.some.inj h).symm⟩
  · cases h

lemma foldlM_register {l registry registry' : List DeclaredPermission}
    (h : l.foldlM register registry = some registry')
    (hnodup : (registry.map (·.code)).Nodup) :
    registry' = registry ++ l ∧ (registry'.map (·.code)).Nodup := by
  induction l generalizing registry with
  | nil =>
    obtain rfl := Option.some.inj h
    exact ⟨(List.append_nil _).symm, hnodup⟩
  | cons p l ih =>
    obtain ⟨r, hr, h⟩ := Option.bind_eq_some_iff.mp h
    obtain ⟨hfresh, rfl⟩ := register_some hr
    have hadded : ((registry ++ [p]).map (·.code)).Nodup := by
      rw [List.map_append, List.nodup_append_comm]
      exact List.nodup_cons.mpr ⟨hfresh, hnodup⟩
    obtain ⟨hl, hn⟩ := ih h hadded
    exact ⟨by rw [hl, List.append_assoc]; rfl, hn⟩

/-- Where the imports go through, all that the modules declare is registered, each code once. -/
theorem registryOf_some {modules : List (List DeclaredPermission)}
    {registry : List DeclaredPermission} (h : registryOf modules = some registry) :
    registry = modules.flatten ∧ (registry.map (·.code)).Nodup :=
  foldlM_register h List.nodup_nil

/-- The three words a code is made of. -/
structure Permission.Words (p : Permission) : Prop where
  module : codeWord p.module.toList = true
  resource : codeWord p.resource.toList = true
  action : codeWord p.action.toList = true

instance (p : Permission) : Decidable p.Words :=
  decidable_of_iff (codeWord p.module.toList = true ∧ codeWord p.resource.toList = true ∧
    codeWord p.action.toList = true) ⟨fun ⟨m, r, a⟩ => ⟨m, r, a⟩, fun ⟨m, r, a⟩ => ⟨m, r, a⟩⟩

lemma codeWord_chars {w : List Char} (h : codeWord w = true) : w ≠ [] ∧ '.' ∉ w ∧ '\n' ∉ w := by
  rw [codeWord, Bool.and_eq_true, List.all_eq_true] at h
  refine ⟨fun hw => by rw [hw] at h; exact absurd h.1 (by decide), fun hdot => ?_, fun hline => ?_⟩
  · exact absurd (h.2 '.' hdot) (by decide)
  · exact absurd (h.2 '\n' hline) (by decide)

lemma bindable_word {s : String} (h : codeWord s.toList = true) : bindable s = true := by
  rw [codeWord, Bool.and_eq_true, List.all_eq_true] at h
  rw [bindable, Bool.not_eq_true', List.contains_eq_any_beq, List.any_eq_false]
  intro c hc hnul
  obtain rfl : '\x00' = c := beq_iff_eq.mp hnul
  exact absurd (h.2 _ hc) (by decide)

lemma varchar_word {s : String} {m n : ℕ} (h : codeWord s.toList = true) (hm : s.length ≤ m)
    (hn : m ≤ n) : varchar n (some s) = true := by
  rw [varchar, bindable_word h, Bool.and_true, decide_eq_true_eq]
  exact hm.trans hn

lemma Permission.Words.bindable_code {p : Permission} (h : p.Words) : bindable p.code = true := by
  have hdot : bindable "." = true := by decide
  exact bindable_append (bindable_append (bindable_append (bindable_append (bindable_word h.module)
    hdot) (bindable_word h.resource)) hdot) (bindable_word h.action)

lemma Permission.code_length (p : Permission) :
    p.code.length = p.module.length + p.resource.length + p.action.length + 2 := by
  have hdot : ".".length = 1 := by decide
  simp only [Permission.code, String.length_append, hdot]
  omega

lemma Permission.code_toList (p : Permission) : p.code.toList =
    List.intercalate ['.'] [p.module.toList, p.resource.toList, p.action.toList] := by
  simp [Permission.code, List.intercalate]

lemma Permission.Words.splitOn {p : Permission} (h : p.Words) :
    p.code.toList.splitOn '.' = [p.module.toList, p.resource.toList, p.action.toList] := by
  rw [p.code_toList]
  refine List.splitOn_intercalate '.' (fun w hw => ?_) (List.cons_ne_nil _ _)
  simp only [List.mem_cons, List.not_mem_nil, or_false] at hw
  rcases hw with rfl | rfl | rfl
  · exact (codeWord_chars h.module).2.1
  · exact (codeWord_chars h.resource).2.1
  · exact (codeWord_chars h.action).2.1

lemma Permission.Words.codeFormat {p : Permission} (h : p.Words) : codeFormat p.code = true := by
  have hlast : p.code.toList.getLast? ≠ some '\n' := by
    intro hline
    have hmem := List.mem_of_getLast? hline
    simp only [p.code_toList, List.intercalate] at hmem
    simp [(codeWord_chars h.module).2.2, (codeWord_chars h.resource).2.2,
      (codeWord_chars h.action).2.2] at hmem
  rw [SchoolOs.codeFormat, if_neg hlast, h.splitOn]
  simp [h.module, h.resource, h.action]

lemma Permission.Words.inj {p q : Permission} (hp : p.Words) (hq : q.Words)
    (h : p.code = q.code) : p = q := by
  have hsplit := hp.splitOn
  rw [h, hq.splitOn] at hsplit
  obtain ⟨hm, hsplit⟩ := List.cons.inj hsplit
  obtain ⟨hr, hsplit⟩ := List.cons.inj hsplit
  obtain ⟨ha, -⟩ := List.cons.inj hsplit
  cases p
  cases q
  exact Permission.mk.injEq .. ▸ ⟨(String.toList_injective hm).symm,
    (String.toList_injective hr).symm, (String.toList_injective ha).symm⟩

lemma foldlM_register_words {l registry : List DeclaredPermission}
    (hwords : ∀ p ∈ l, p.Words) (hnodup : ((registry ++ l).map (·.code)).Nodup) :
    l.foldlM register registry = some (registry ++ l) := by
  induction l generalizing registry with
  | nil => rw [List.append_nil]; rfl
  | cons p l ih =>
    have hfresh : p.code ∉ registry.map (·.code) := by
      rw [List.map_append, List.nodup_append] at hnodup
      exact fun hmem => hnodup.2.2 _ hmem _ (List.mem_cons_self ..) rfl
    have hadd : register registry p = some (registry ++ [p]) :=
      if_pos ⟨(hwords p (List.mem_cons_self ..)).codeFormat, hfresh⟩
    rw [List.append_cons] at hnodup ⊢
    rw [List.foldlM_cons, hadd]
    exact ih (fun q hq => hwords q (List.mem_cons_of_mem _ hq)) hnodup

/-- Modules that declare different permissions, in words, are imported without an error. -/
theorem registryOf_words {modules : List (List DeclaredPermission)}
    (hwords : ∀ p ∈ modules.flatten, p.Words)
    (hnodup : (modules.flatten.map DeclaredPermission.toPermission).Nodup) :
    registryOf modules = some modules.flatten := by
  have hcodes : (modules.flatten.map (·.code)).Nodup := by
    have hinj : ∀ p ∈ modules.flatten.map DeclaredPermission.toPermission,
        ∀ q ∈ modules.flatten.map DeclaredPermission.toPermission, p.code = q.code → p = q := by
      intro p hp q hq h
      obtain ⟨p, hp', rfl⟩ := List.mem_map.mp hp
      obtain ⟨q, hq', rfl⟩ := List.mem_map.mp hq
      exact (hwords p hp').inj (hwords q hq') h
    have hmap := List.Nodup.map_on hinj hnodup
    rwa [List.map_map] at hmap
  rw [registryOf, foldlM_register_words hwords (by rwa [List.nil_append])]
  rfl

/-! ### The codes of the catalogue -/

lemma mem_allPermissions {registry : List DeclaredPermission} {c : String} :
    c ∈ allPermissions registry ↔ c ∈ registry.map (·.code) :=
  List.mem_mergeSort

lemma mem_allInModule {registry : List DeclaredPermission} {module c : String}
    (h : c ∈ allInModule registry module) : c ∈ registry.map (·.code) :=
  (List.filter_sublist.map _).subset (List.mem_mergeSort.mp h)

/-- The catalogue lists registered codes only. -/
theorem roleCatalog_registered (registry : List DeclaredPermission) :
    ∀ d ∈ roleCatalog registry, ∀ c ∈ d.permissions, c ∈ registry.map (·.code) := by
  have hreads : ∀ c ∈ peopleReads registry, c ∈ registry.map (·.code) := fun c hc =>
    mem_allInModule (List.mem_filter.mp hc).1
  intro d hd c hc
  simp only [roleCatalog, List.mem_cons, List.not_mem_nil, or_false] at hd
  rcases hd with rfl | rfl | rfl | rfl | rfl | rfl | rfl | rfl
  · exact mem_allPermissions.mp hc
  · simp only [List.mem_append] at hc
    rcases hc with ((((hc | hc) | hc) | hc) | hc) | hc <;> exact mem_allInModule hc
  · simp only [List.mem_append] at hc
    rcases hc with ((((((((hc | hc) | hc) | hc) | hc) | hc) | hc) | hc) | hc) | hc
    all_goals first | exact mem_allInModule hc | exact mem_allInModule (List.mem_filter.mp hc).1
  · rcases List.mem_append.mp hc with hc | hc
    · exact hreads c hc
    · exact mem_allInModule (List.mem_filter.mp hc).1
  · exact hreads c hc
  · exact hreads c hc
  · exact hreads c hc
  · exact mem_allInModule (List.mem_filter.mp hc).1

/-! ### The two registries -/

/-- A word of at most 30 characters, and a text of at most 255. -/
def shortWord (w : List Char) : Bool := codeWord w && w.length ≤ 30

def shortText (t : List Char) : Bool := t.length ≤ 255 && !t.contains '\x00'

lemma syncRolesImports_short : ∀ p ∈ syncRolesImports.flatten,
    (shortWord p.module.toList && shortWord p.resource.toList && shortWord p.action.toList &&
      shortText p.description.toList) = true := by
  decide +kernel

lemma shortWord_iff {w : List Char} :
    shortWord w = true ↔ codeWord w = true ∧ w.length ≤ 30 := by
  rw [shortWord, Bool.and_eq_true, decide_eq_true_eq]

/-- What the modules declare is short. -/
theorem syncRolesImports_fit {p : DeclaredPermission} (h : p ∈ syncRolesImports.flatten) :
    p.Words ∧ p.module.length ≤ 30 ∧ p.resource.length ≤ 30 ∧ p.action.length ≤ 30 ∧
      varchar 255 (some p.description) = true := by
  have hshort := syncRolesImports_short p h
  simp only [Bool.and_eq_true, shortWord_iff, String.length_toList] at hshort
  obtain ⟨⟨⟨hmodule, hresource⟩, haction⟩, htext⟩ := hshort
  refine ⟨⟨hmodule.1, hresource.1, haction.1⟩, hmodule.2, hresource.2, haction.2, ?_⟩
  rw [shortText, String.length_toList] at htext
  exact htext

lemma syncRolesImports_words : ∀ p ∈ syncRolesImports.flatten, p.Words :=
  fun _ hp => (syncRolesImports_fit hp).1

lemma syncRolesImports_distinct :
    (syncRolesImports.flatten.map DeclaredPermission.toPermission).Nodup := by decide +kernel

/-- `sync_permissions` imports some of the modules that `sync_roles` imports. -/
lemma syncPermissionsImports_sublist :
    syncPermissionsImports.flatten.Sublist syncRolesImports.flatten := by
  have hmiddle : syncRolesImports.flatten = (syncRolesImports.take 6).flatten ++
      (syncPermissionsImports.flatten ++ (syncRolesImports.drop 15).flatten) := by
    rw [← List.flatten_append, ← List.flatten_append]
    rfl
  rw [hmiddle]
  exact (List.sublist_append_left _ _).trans (List.sublist_append_right _ _)

theorem syncRolesImports_registered :
    registryOf syncRolesImports = some syncRolesImports.flatten :=
  registryOf_words syncRolesImports_words syncRolesImports_distinct

theorem syncPermissionsImports_registered :
    registryOf syncPermissionsImports = some syncPermissionsImports.flatten :=
  registryOf_words (fun p hp => syncRolesImports_words p (syncPermissionsImports_sublist.subset hp))
    (syncRolesImports_distinct.sublist (syncPermissionsImports_sublist.map _))

lemma syncPermissionsImports_modules : ∀ p ∈ syncPermissionsImports.flatten,
    p.module ∈ ["iam", "people", "platform"] := by
  decide

lemma teachers_registered : "teachers.teacher.list" ∈ syncRolesImports.flatten.map (·.code) := by
  refine List.mem_map.mpr ⟨⟨⟨"teachers", "teacher", "list"⟩, "List teachers"⟩, ?_, by decide⟩
  refine List.mem_flatten.mpr ⟨teachersPermissions, ?_, ?_⟩
  · simp [syncRolesImports]
  · simp [teachersPermissions, registered]

lemma teachers_unregistered :
    "teachers.teacher.list" ∉ syncPermissionsImports.flatten.map (·.code) := by
  intro h
  obtain ⟨p, hp, hcode⟩ := List.mem_map.mp h
  have hhead : (p.module ++ "." ++ p.resource ++ "." ++ p.action).toList.head? = some 't' := by
    rw [← Permission.code, hcode]
    decide
  have hmodule := syncPermissionsImports_modules p hp
  simp only [List.mem_cons, List.not_mem_nil, or_false] at hmodule
  rcases hmodule with hm | hm | hm <;> rw [hm] at hhead <;> simp at hhead

end SchoolOs
