import SchoolOs.Audit
import SchoolOs.Pagination

/-!
The list of the audit log. The permission is checked for the active school; which rows are read
is decided by the query.
-/

namespace SchoolOs

def pAuditLogList : Permission := ⟨"platform", "audit_log", "list"⟩

/-- A row of `audit_logs`, with its id and its time. -/
structure AuditLogRow where
  id : Ulid
  createdAt : Instant
  log : AuditLog
  deriving DecidableEq

/-- The query parameters. -/
structure AuditQuery where
  schoolId : Option String
  organizationId : Option String
  entityType : Option String
  entityId : Option String
  actorUserId : Option String
  action : Option String
  createdFrom : Option Instant
  createdTo : Option Instant

/-! ### Data access -/

section Repository

variable (pg : Paging)

/-- `if value: stmt.where(col == value)`, for a column of ids. -/
def whereId (col : AuditLogRow → Option Ulid) (value : Option String) (rows : List AuditLogRow) :
    Fallible (List AuditLogRow) :=
  if truthy value then do
    let bound ← bindUlid pg (value.getD "")
    return rows.filter fun r => (col r).map Ulid.text = some bound
  else return rows

/-- `if value: stmt.where(col == value)`, for a column of text. -/
def whereText (col : AuditLogRow → String) (value : Option String) (rows : List AuditLogRow) :
    Fallible (List AuditLogRow) :=
  if truthy value then do
    ensure (bindable (value.getD "") = true) internalError
    return rows.filter fun r => some (col r) = value
  else return rows

/-- The rows of a school, falling back to those of an organization. -/
def whereTenant (schoolId organizationId : Option String) (rows : List AuditLogRow) :
    Fallible (List AuditLogRow) :=
  if truthy schoolId then whereId pg (·.log.schoolId) schoolId rows
  else whereId pg (·.log.organizationId) organizationId rows

def listRows (rows : List AuditLogRow) (params : CursorParams)
    (schoolId organizationId : Option String) (query : AuditQuery) :
    Fallible (CursorPage AuditLogRow) := do
  let rows ← whereTenant pg schoolId organizationId rows
  let rows ← whereText (·.log.entityType) query.entityType rows
  let rows ← whereId pg (·.log.entityId) query.entityId rows
  let rows ← whereId pg (·.log.actorUserId) query.actorUserId rows
  let rows ← whereText (·.log.action) query.action rows
  let rows := rows.filter fun r =>
    (∀ t ∈ query.createdFrom, t ≤ r.createdAt) ∧ ∀ t ∈ query.createdTo, r.createdAt ≤ t
  paginateCursor pg AuditLogRow.createdAt AuditLogRow.id rows params

end Repository

/-! ### Routes -/

/-- The school that a query selects. -/
def effectiveSchool (ctx : RequestContext) (query : AuditQuery) : Option String :=
  query.schoolId.or (ctx.schoolId.map Ulid.text)

def effectiveOrganization (ctx : RequestContext) (query : AuditQuery) : Option String :=
  if truthy (effectiveSchool ctx query) then none
  else if ctx.isPlatformAdmin = true ∧ query.organizationId ≠ none then query.organizationId
  else ctx.organizationId.map Ulid.text

/-- The query names a school outside the principal's reach. -/
def OutOfReach (ctx : RequestContext) (query : AuditQuery) : Prop :=
  ∃ raw ∈ query.schoolId, ∀ s ∈ ctx.accessibleSchoolIds, s.text ≠ raw

instance (ctx : RequestContext) (query : AuditQuery) : Decidable (OutOfReach ctx query) :=
  inferInstanceAs (Decidable (∃ raw ∈ query.schoolId, ∀ s ∈ ctx.accessibleSchoolIds, s.text ≠ raw))

/-- A school out of reach is indistinguishable from an empty result. -/
def listAuditLogs (pg : Paging) (rows : List AuditLogRow) (ctx : RequestContext)
    (query : AuditQuery) (params : CursorParams) : Fallible (CursorPage AuditLogRow) :=
  if OutOfReach ctx query then return .empty
  else listRows pg rows params (effectiveSchool ctx query) (effectiveOrganization ctx query) query

/-- The route, behind its guard. -/
def auditLogsRoute (pg : Paging) (rows : List AuditLogRow) (db : DB) (ord : RowOrder) (clk : Clock)
    (request : HttpRequest) (query : AuditQuery) (params : CursorParams) :
    Fallible (CursorPage AuditLogRow) := do
  let ctx ← require db ord clk pAuditLogList none request
  listAuditLogs pg rows ctx query params

/-! ### Whom the permission covers -/

section Covered

variable (db : DB) (clk : Clock) (userId : Ulid)

/-- A live membership of the user carries the permission. -/
def Lists (m : Membership) : Prop :=
  (m ∈ db.memberships ∧ m.userId = userId ∧ m.status = .active ∧
    withinDates m clk.today = true) ∧ Carries db clk m pAuditLogList.code

/-- A membership covers its school; one of an organization, the schools of the organization. -/
def Membership.CoversSchool (m : Membership) (schoolId : Ulid) : Prop :=
  m.schoolId = some schoolId ∨ (m.schoolId = none ∧
    ∃ school ∈ db.schools, school.id = schoolId ∧ school.organizationId = m.organizationId)

/-- The user holds the permission for the school. -/
def SchoolListed (schoolId : Ulid) : Prop :=
  ∃ m, Lists db clk userId m ∧ m.CoversSchool db schoolId

/-- The user holds the permission for the organization. -/
def OrganizationListed (organizationId : Ulid) : Prop :=
  ∃ m, Lists db clk userId m ∧ m.schoolId = none ∧ m.organizationId = organizationId

/-- The row belongs to a school or to an organization for which the user holds the permission. -/
def RowListed (r : AuditLogRow) : Prop :=
  (∃ s ∈ r.log.schoolId, SchoolListed db clk userId s) ∨
    ∃ o ∈ r.log.organizationId, OrganizationListed db clk userId o

end Covered

/-- The user holds the permission for what the query selects: the school that it names, if the
principal reaches it; else the active school; else the organization. -/
def SelectionListed (db : DB) (clk : Clock) (p : Principal) (schoolId : Option String) : Prop :=
  match schoolId with
  | some raw => ∀ s ∈ p.accessibleSchoolIds, s.text = raw → SchoolListed db clk p.userId s
  | none =>
    match p.schoolId with
    | some s => SchoolListed db clk p.userId s
    | none => ∀ o ∈ p.organizationId, OrganizationListed db clk p.userId o

/-! ### What a page shows -/

section Page

variable {pg : Paging} {rows kept : List AuditLogRow} {r : AuditLogRow}

lemma truthy_text (u : Ulid) : truthy (some u.text) = true := by
  simpa [truthy] using u.text_ne_empty

lemma whereId_text (col : AuditLogRow → Option Ulid) (u : Ulid) :
    whereId pg col (some u.text) rows = .ok (rows.filter fun r => col r = some u) := by
  have hsame : ∀ r, ((col r).map Ulid.text = some u.text) = (col r = some u) := by
    intro r
    cases col r <;> simp
  simp only [whereId, truthy_text, if_true, Option.getD_some, bindUlid_text, ok_bind, hsame]
  rfl

lemma mem_whereId {col : AuditLogRow → Option Ulid} {value : Option String}
    (h : whereId pg col value rows = .ok kept) (hr : r ∈ kept) : r ∈ rows := by
  unfold whereId at h
  split at h
  · obtain ⟨_, _, h⟩ := bind_ok.mp h
    obtain rfl := pure_ok.mp h
    exact List.mem_of_mem_filter hr
  · obtain rfl := pure_ok.mp h
    exact hr

lemma mem_whereText {col : AuditLogRow → String} {value : Option String}
    (h : whereText col value rows = .ok kept) (hr : r ∈ kept) : r ∈ rows := by
  unfold whereText at h
  split at h
  · obtain ⟨_, _, h⟩ := bind_ok.mp h
    obtain rfl := pure_ok.mp h
    exact List.mem_of_mem_filter hr
  · obtain rfl := pure_ok.mp h
    exact hr

lemma mem_listRows {params : CursorParams} {schoolId organizationId : Option String}
    {query : AuditQuery} {page : CursorPage AuditLogRow}
    (h : listRows pg rows params schoolId organizationId query = .ok page) (hr : r ∈ page.items) :
    ∃ tenant, whereTenant pg schoolId organizationId rows = .ok tenant ∧ r ∈ tenant := by
  obtain ⟨tenant, htenant, h⟩ := bind_ok.mp h
  obtain ⟨_, htype, h⟩ := bind_ok.mp h
  obtain ⟨_, hentity, h⟩ := bind_ok.mp h
  obtain ⟨_, hactor, h⟩ := bind_ok.mp h
  obtain ⟨_, haction, h⟩ := bind_ok.mp h
  have hfiltered := List.mem_of_mem_filter (mem_of_mem_page h hr)
  have hmem := mem_whereId hentity (mem_whereId hactor (mem_whereText haction hfiltered))
  exact ⟨tenant, htenant, mem_whereText htype hmem⟩

lemma whereTenant_organization (o : Ulid) : whereTenant pg none (some o.text) rows =
    .ok (rows.filter fun r => r.log.organizationId = some o) := by
  simp only [whereTenant, truthy, Bool.false_eq_true, if_false]
  exact whereId_text _ o

lemma whereTenant_school (s : Ulid) (organizationId : Option String) :
    whereTenant pg (some s.text) organizationId rows =
      .ok (rows.filter fun r => r.log.schoolId = some s) := by
  simp only [whereTenant, truthy_text, if_true]
  exact whereId_text _ s

/-- A query that filters by nothing but the school. -/
def AuditQuery.ofSchool (schoolId : Option String) : AuditQuery :=
  ⟨schoolId, none, none, none, none, none, none, none⟩

/-- The first page, of one row. -/
def CursorParams.first : CursorParams := ⟨1, none, le_rfl, by decide⟩

/-- A row that the tenant selects is on the page of the query that filters by nothing else. -/
lemma listRows_single {schoolId organizationId raw : Option String}
    (h : whereTenant pg schoolId organizationId [r] = .ok [r]) :
    listRows pg [r] .first schoolId organizationId (.ofSchool raw) = .ok ⟨[r], none, false⟩ := by
  simp only [listRows, h, ok_bind, AuditQuery.ofSchool, whereText, whereId, truthy,
    Bool.false_eq_true, if_false]
  exact paginateCursor_single r .first rfl

end Page

/-! ### Who passes the guard -/

section Guarded

variable {db : DB} {ord : RowOrder} {clk : Clock} {u : Ulid} {req : Option String} {p : Principal}

lemma permissions_eq_keys (hp : resolvePrincipal db ord clk u req = .ok p) :
    p.permissions = p.permissionScopes.keys := by
  cases resolvePrincipal_ok.mp hp with
  | platform _ _ hplatform =>
    obtain ⟨_, _, hplatform⟩ := bind_ok.mp hplatform
    obtain rfl := pure_ok.mp hplatform
    rfl
  | unattached => rfl
  | tenant => rfl

lemma organization_of_permission (hp : resolvePrincipal db ord clk u req = .ok p)
    (hadmin : p.isPlatformAdmin = false) {code : String} (hcode : code ∈ p.permissions) :
    ∃ o, p.organizationId = some o := by
  cases resolvePrincipal_ok.mp hp with
  | platform _ _ hplatform =>
    rw [platformPrincipal_isPlatformAdmin hplatform] at hadmin
    cases hadmin
  | unattached => exact absurd hcode (Finset.notMem_empty _)
  | tenant => exact ⟨_, rfl⟩

/-- A route without a minimal scope lets a principal pass that holds its permission. -/
lemma require_iff {request : HttpRequest} {permission : Permission} {ctx : RequestContext}
    (hu : request.identity = some u)
    (hp : resolvePrincipal db ord clk u request.schoolIdHeader = .ok p)
    (hadmin : p.isPlatformAdmin = false) : require db ord clk permission none request = .ok ctx ↔
      permission.code ∈ p.permissions ∧ contextOf p request = ctx := by
  have hcontext : getContext db ord clk request =
      .ok (contextOf p request, setTenantContext Gucs.unset p.schoolId p.organizationId) :=
    getContext_ok.mpr ⟨u, p, hu, hp, rfl⟩
  have hscope : (contextOf p request).effectiveScopeFor permission.code =
      p.permissionScopes.lookup permission.code := by
    simp [RequestContext.effectiveScopeFor, contextOf, hadmin]
  rw [permissions_eq_keys hp, Finmap.mem_keys, ← Finmap.lookup_isSome, Option.isSome_iff_exists]
  simp only [require, hcontext, ok_bind, guard, hscope, bind_ok, found_ok, ensure_ok, pure_ok]
  constructor
  · rintro ⟨_, ⟨scope, hheld, _⟩, rfl⟩
    exact ⟨⟨scope, hheld⟩, rfl⟩
  · rintro ⟨⟨scope, hheld⟩, rfl⟩
    exact ⟨(), ⟨scope, hheld, by simp⟩, rfl⟩

end Guarded

/-! ### Visibility -/

section Visibility

variable {db : DB} {ord : RowOrder} {clk : Clock} {u : Ulid} {p : Principal}
  {request : HttpRequest}

lemma rowListed_of_school {pg : Paging} {rows tenant : List AuditLogRow} {r : AuditLogRow}
    {s : Ulid} {organizationId : Option String} (hs : SchoolListed db clk u s)
    (htenant : whereTenant pg (some s.text) organizationId rows = .ok tenant) (hr : r ∈ tenant) :
    RowListed db clk u r := by
  rw [whereTenant_school] at htenant
  obtain rfl := Except.ok.inj htenant
  have hschool : r.log.schoolId = some s := by simpa using (List.mem_filter.mp hr).2
  exact .inl ⟨s, hschool, hs⟩

lemma rowListed_of_page {pg : Paging} {rows : List AuditLogRow} {query : AuditQuery}
    {params : CursorParams} {page : CursorPage AuditLogRow} {r : AuditLogRow}
    (hp : resolvePrincipal db ord clk u request.schoolIdHeader = .ok p)
    (hadmin : p.isPlatformAdmin = false) (hcode : pAuditLogList.code ∈ p.permissions)
    (hselection : SelectionListed db clk p query.schoolId)
    (h : listAuditLogs pg rows (contextOf p request) query params = .ok page)
    (hr : r ∈ page.items) : RowListed db clk p.userId r := by
  unfold listAuditLogs at h
  -- A school outside the principal's reach was asked for, and the page is empty.
  split at h
  · obtain rfl := pure_ok.mp h
    cases hr
  · next hreach =>
    obtain ⟨tenant, htenant, hmem⟩ := mem_listRows h hr
    unfold SelectionListed at hselection
    cases hraw : query.schoolId with
    | some raw =>
      -- A school was asked for by its id.
      have hfound : ∃ s ∈ p.accessibleSchoolIds, s.text = raw := by
        by_contra hnone
        exact hreach ⟨raw, hraw, fun s hs he => hnone ⟨s, hs, he⟩⟩
      obtain ⟨s, hs, rfl⟩ := hfound
      have heffective : effectiveSchool (contextOf p request) query = some s.text := by
        rw [effectiveSchool, hraw, Option.some_or]
      rw [hraw] at hselection
      rw [heffective] at htenant
      exact rowListed_of_school (hselection s hs rfl) htenant hmem
    | none =>
      rw [hraw] at hselection
      have heffective : effectiveSchool (contextOf p request) query =
          p.schoolId.map Ulid.text := by
        rw [effectiveSchool, hraw, Option.none_or]
        rfl
      cases hactive : p.schoolId with
      | some s =>
        -- The active school selects.
        rw [hactive] at hselection heffective
        rw [heffective, Option.map_some] at htenant
        exact rowListed_of_school hselection htenant hmem
      | none =>
        -- Without any school the organization selects.
        obtain ⟨o, ho⟩ := organization_of_permission hp hadmin hcode
        have horganization : effectiveOrganization (contextOf p request) query = some o.text := by
          rw [effectiveOrganization, heffective, hactive]
          simp [truthy, contextOf, hadmin, ho]
        rw [hactive] at hselection heffective
        rw [heffective, horganization, Option.map_none, whereTenant_organization] at htenant
        obtain rfl := Except.ok.inj htenant
        have hrow : r.log.organizationId = some o := by simpa using (List.mem_filter.mp hmem).2
        exact .inr ⟨o, hrow, hselection o ho⟩

/-- A row of a tenant, otherwise empty. -/
def tenantRow (organizationId schoolId : Option Ulid) : AuditLogRow :=
  ⟨0, 0, ⟨organizationId, schoolId, none, "LOGIN_SUCCESS", "user", none, none, none, none, none,
    none⟩⟩

lemma listAuditLogs_school {pg : Paging} {ctx : RequestContext} {raw : Option String} {s : Ulid}
    {o : Option Ulid} (hreach : ¬ OutOfReach ctx (.ofSchool raw))
    (heffective : effectiveSchool ctx (.ofSchool raw) = some s.text) :
    listAuditLogs pg [tenantRow o (some s)] ctx (.ofSchool raw) .first =
      .ok ⟨[tenantRow o (some s)], none, false⟩ := by
  rw [listAuditLogs, if_neg hreach, heffective]
  refine listRows_single ?_
  rw [whereTenant_school]
  simp [tenantRow]

lemma schoolListed_of_row {s : Ulid} (h : RowListed db clk u (tenantRow none (some s))) :
    SchoolListed db clk u s := by
  rcases h with ⟨s', hs', hlisted⟩ | ⟨o, ho, _⟩
  · obtain rfl : s = s' := Option.some.inj hs'
    exact hlisted
  · cases ho

/-- **Visibility of the audit log**: for a principal that is not platform staff, the pages of a
query show only rows of schools and organizations for which the user holds the permission to list,
whatever the table and the other parameters, exactly when the guard refuses the principal or the
user holds the permission for what the query selects. -/
theorem auditLogs_visible (pg : Paging) (db : DB) (ord : RowOrder) (clk : Clock)
    (request : HttpRequest) (u : Ulid) (p : Principal) (hu : request.identity = some u)
    (hp : resolvePrincipal db ord clk u request.schoolIdHeader = .ok p)
    (hadmin : p.isPlatformAdmin = false) (schoolId : Option String) :
    (∀ rows query params page, query.schoolId = schoolId →
        auditLogsRoute pg rows db ord clk request query params = .ok page →
        ∀ r ∈ page.items, RowListed db clk p.userId r) ↔
      (pAuditLogList.code ∈ p.permissions → SelectionListed db clk p schoolId) := by
  constructor
  · intro hpages hcode
    -- One row is enough to tell what a query selects.
    have hshown : ∀ r, listAuditLogs pg [r] (contextOf p request) (.ofSchool schoolId) .first =
        .ok ⟨[r], none, false⟩ → RowListed db clk p.userId r := by
      intro r hlist
      have hroute : auditLogsRoute pg [r] db ord clk request (.ofSchool schoolId) .first =
          .ok ⟨[r], none, false⟩ :=
        bind_ok.mpr ⟨_, (require_iff hu hp hadmin).mpr ⟨hcode, rfl⟩, hlist⟩
      exact hpages _ _ _ _ rfl hroute r List.mem_cons_self
    cases schoolId with
    | some raw =>
      rintro s hs rfl
      refine schoolListed_of_row (hshown _ (listAuditLogs_school ?_ rfl))
      rintro ⟨raw, hraw, hnone⟩
      exact hnone s hs (Option.some.inj hraw)
    | none =>
      have hreach : ¬ OutOfReach (contextOf p request) (.ofSchool none) := by
        rintro ⟨_, hraw, _⟩
        cases hraw
      cases hactive : p.schoolId with
      | some s =>
        have heffective : effectiveSchool (contextOf p request) (.ofSchool none) = some s.text :=
          congrArg (Option.map Ulid.text) hactive
        simp only [SelectionListed, hactive]
        exact schoolListed_of_row (hshown _ (listAuditLogs_school hreach heffective))
      | none =>
        simp only [SelectionListed, hactive]
        intro o ho
        have heffective : effectiveSchool (contextOf p request) (.ofSchool none) = none :=
          congrArg (Option.map Ulid.text) hactive
        have horganization : effectiveOrganization (contextOf p request) (.ofSchool none) =
            some o.text := by
          rw [effectiveOrganization, heffective]
          simp [truthy, contextOf, hadmin, Option.mem_def.mp ho]
        have hlist : listAuditLogs pg [tenantRow (some o) none] (contextOf p request)
            (.ofSchool none) .first = .ok ⟨[tenantRow (some o) none], none, false⟩ := by
          rw [listAuditLogs, if_neg hreach, heffective, horganization]
          refine listRows_single ?_
          rw [whereTenant_organization]
          simp [tenantRow]
        rcases hshown _ hlist with ⟨s, hs, _⟩ | ⟨o', ho', hlisted⟩
        · cases hs
        · obtain rfl : o = o' := Option.some.inj ho'
          exact hlisted
  · rintro hselection rows query params page rfl hroute r hr
    obtain ⟨ctx, hrequire, hlist⟩ := bind_ok.mp hroute
    obtain ⟨hcode, rfl⟩ := (require_iff hu hp hadmin).mp hrequire
    exact rowListed_of_page hp hadmin hcode (hselection hcode) hlist hr

/-- Among the rows of one organization, what a query selects that names no school is covered: only
the parameter leads elsewhere. -/
theorem selectionListed_active (hp : resolvePrincipal db ord clk u request.schoolIdHeader = .ok p)
    (hadmin : p.isPlatformAdmin = false) (hcode : pAuditLogList.code ∈ p.permissions)
    (hone : ∀ m ∈ loadActiveMemberships db ord clk u, some m.organizationId = p.organizationId)
    (hschool : ∀ m ∈ loadActiveMemberships db ord clk u, ∀ s ∈ m.schoolId,
      ∃ school ∈ db.schools, school.id = s ∧ school.organizationId = m.organizationId) :
    SelectionListed db clk p none := by
  have huser := resolvePrincipal_userId hp
  cases resolvePrincipal_ok.mp hp with
  | platform _ _ hplatform =>
    rw [platformPrincipal_isPlatformAdmin hplatform] at hadmin
    cases hadmin
  | unattached => exact absurd hcode (Finset.notMem_empty _)
  | @tenant user first active _ _ _ hselect =>
    obtain ⟨m, hm, hcarries⟩ := mem_collectGrants.mp hcode
    obtain ⟨hload, happlicable⟩ := List.mem_filter.mp hm
    have happlicable : m.schoolId = none ∨ m.schoolId = active := by simpa using happlicable
    have hlists : Lists db clk _ m := ⟨mem_loadActiveMemberships.mp hload, hcarries⟩
    rw [← huser] at hlists
    have horganization : m.organizationId = first.organizationId :=
      Option.some.inj (hone m hload)
    cases active with
    | none =>
      intro o ho
      obtain rfl : first.organizationId = o := Option.some.inj ho
      exact ⟨m, hlists, by simpa using happlicable, horganization⟩
    | some s =>
      refine ⟨m, hlists, ?_⟩
      rcases happlicable with hwide | hown
      · -- An active school is one of the organization.
        refine .inr ⟨hwide, ?_⟩
        rw [horganization]
        rcases mem_accessibleSchoolIds.mp (selectActiveSchool_some.mp hselect).mem with
          ⟨m', hm', hs⟩ | ⟨_, hopen⟩
        · obtain ⟨school, hmem, hid, ho⟩ := hschool m' hm' s hs
          exact ⟨school, hmem, hid, ho.trans (Option.some.inj (hone m' hm'))⟩
        · obtain ⟨school, hmem, hid, ho, _⟩ := mem_openSchoolIds.mp hopen
          exact ⟨school, hmem, hid, ho⟩
      · exact .inl hown

end Visibility

/-! ### Two roles in two schools -/

/-- A user who lists the audit log of school 11 and teaches at school 12. -/
def listsOneSchool : DB := { DB.empty with
  schools := [⟨11, 101, .active, none⟩, ⟨12, 101, .active, none⟩]
  users := [User.new 1 (some "a@b.c") none none .active none]
  memberships := [Membership.new 31 1 101 (some 11) none none true none,
    Membership.new 32 1 101 (some 12) none none false none]
  permissions := [⟨61, pAuditLogList.code⟩]
  roles := [Role.new 6 none "SCHOOL_ADMIN" "School Administrator" none .school .school none,
    Role.new 7 none "TEACHER" "Teacher" none .school .assigned none]
  rolePermissions := [⟨71, 6, 61, none⟩]
  membershipRoles := [⟨81, 31, 6, none, none, none⟩, ⟨82, 32, 7, none, none, none⟩] }

/-- A request of the user, in the default school. -/
def byDefault : HttpRequest := ⟨some 1, none, "r", none, none⟩

lemma byDefault_resolves : resolvePrincipal listsOneSchool .heap ⟨0, 0⟩ 1 none = .ok
    (tenantPrincipal listsOneSchool .heap ⟨0, 0⟩ (User.new 1 (some "a@b.c") none none .active none)
      listsOneSchool.memberships 101 [11, 12] (some 11)) :=
  (resolvePrincipal_tenant (by rfl) (by rfl) (by rfl)).mpr
    ⟨some 11, selectActiveSchool_some.mpr (.default (by decide) (by decide)), rfl⟩

/-- A query that names no school shows what the user may list. -/
theorem byDefault_visible :
    RowListed listsOneSchool ⟨0, 0⟩ 1 (tenantRow (some 101) (some 11)) := by
  have hroute : auditLogsRoute .plain [tenantRow (some 101) (some 11)] listsOneSchool .heap ⟨0, 0⟩
      byDefault (.ofSchool none) .first =
        .ok ⟨[tenantRow (some 101) (some 11)], none, false⟩ := by
    refine bind_ok.mpr ⟨_, (require_iff rfl byDefault_resolves rfl).mpr ⟨by decide, rfl⟩, ?_⟩
    exact listAuditLogs_school (by decide) rfl
  refine (auditLogs_visible .plain listsOneSchool .heap ⟨0, 0⟩ byDefault 1 _ rfl
    byDefault_resolves rfl none).mpr (fun _ => ?_) _ _ _ _ rfl hroute _ (.head _)
  have hcode : pAuditLogList.code ∈ (collectGrants listsOneSchool .heap ⟨0, 0⟩
      [Membership.new 31 1 101 (some 11) none none true none]).1.keys := by decide
  obtain ⟨m, hm, hcarries⟩ := mem_collectGrants.mp hcode
  obtain rfl := List.mem_singleton.mp hm
  exact ⟨_, ⟨⟨.head _, rfl, rfl, rfl⟩, hcarries⟩, .inl rfl⟩

/-- A query that names the other school shows its rows. -/
theorem byDefault_exposed : ¬ ∀ (pg : Paging) (db : DB) (ord : RowOrder) (clk : Clock)
    (request : HttpRequest) (u : Ulid) (p : Principal) (rows : List AuditLogRow)
    (query : AuditQuery) (params : CursorParams) (page : CursorPage AuditLogRow),
    request.identity = some u →
      resolvePrincipal db ord clk u request.schoolIdHeader = .ok p → p.isPlatformAdmin = false →
      auditLogsRoute pg rows db ord clk request query params = .ok page →
      ∀ r ∈ page.items, RowListed db clk u r := by
  intro h
  have hroute : auditLogsRoute .plain [tenantRow (some 101) (some 12)] listsOneSchool .heap ⟨0, 0⟩
      byDefault (.ofSchool (some (12 : Ulid).text)) .first =
        .ok ⟨[tenantRow (some 101) (some 12)], none, false⟩ := by
    refine bind_ok.mpr ⟨_, (require_iff rfl byDefault_resolves rfl).mpr ⟨by decide, rfl⟩, ?_⟩
    exact listAuditLogs_school (by decide) rfl
  have hrow := h _ _ _ _ _ 1 _ _ _ _ _ rfl byDefault_resolves rfl hroute _ (.head _)
  have hschools : ∀ m ∈ listsOneSchool.memberships, m.schoolId ≠ none := by decide
  have hnone : pAuditLogList.code ∉ (collectGrants listsOneSchool .heap ⟨0, 0⟩
      [Membership.new 32 1 101 (some 12) none none false none]).1.keys := by decide
  rcases hrow with ⟨s, hs, m, ⟨⟨hm, _⟩, hcarries⟩, hcovers⟩ | ⟨o, _, m, ⟨⟨hm, _⟩, _⟩, hwide, _⟩
  · obtain rfl : 12 = s := Option.some.inj hs
    rcases hcovers with hown | ⟨hwide, _⟩
    · rcases List.mem_pair.mp hm with rfl | rfl
      · exact absurd hown (by decide)
      · exact hnone (mem_collectGrants.mpr ⟨_, List.mem_singleton_self _, hcarries⟩)
    · exact hschools m hm hwide
  · exact hschools m hm hwide

end SchoolOs
