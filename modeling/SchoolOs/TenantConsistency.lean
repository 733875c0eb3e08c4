import SchoolOs.Principal

/-!
Whether the principal of a tenant user stays inside one organization: the active school, the
organization and the permissions, against the rows they were computed from.
-/

namespace SchoolOs

variable {db : DB} {ord : RowOrder} {clk : Clock} {userId : Ulid} {req : Option String}

/-- The membership counts for the user today. -/
def Live (db : DB) (clk : Clock) (userId : Ulid) (m : Membership) : Prop :=
  m ∈ db.memberships ∧ m.userId = userId ∧ m.status = .active ∧ withinDates m clk.today = true

/-- The membership is for the school, or for the whole of its organization. -/
def Membership.AppliesTo (m : Membership) (s : Ulid) : Prop :=
  m.schoolId = none ∨ m.schoolId = some s

/-- The school is one of the organization's that are not deleted. -/
def OpenIn (db : DB) (organizationId s : Ulid) : Prop :=
  ∃ school ∈ db.schools, school.id = s ∧ school.deletedAt = none ∧
    school.organizationId = organizationId

/-- A principal with an active school acts in the organization of that school, with codes that
the user's live memberships of that organization carry for that school. -/
structure TenantConsistent (db : DB) (clk : Clock) (userId : Ulid) (p : Principal) : Prop where
  school : ∀ s, p.schoolId = some s → ∃ o, p.organizationId = some o ∧ OpenIn db o s
  permissions : ∀ s, p.schoolId = some s → ∀ c ∈ p.permissions, ∃ m, Live db clk userId m ∧
    p.organizationId = some m.organizationId ∧ m.AppliesTo s ∧ Carries db clk m c

/-- For the school `s` the rule picks, with `o` the organization of the row that came first:
memberships for `s` are for a school of `o`, and a membership of another organization brings
no code that none of `o` brings. -/
structure OneTenant (db : DB) (clk : Clock) (userId o s : Ulid) : Prop where
  school : ∀ m, Live db clk userId m → m.schoolId = some s → OpenIn db o s
  codes : ∀ m, Live db clk userId m → m.organizationId ≠ o → m.AppliesTo s →
    ∀ c, Carries db clk m c → ∃ m', Live db clk userId m' ∧ m'.organizationId = o ∧
      m'.AppliesTo s ∧ Carries db clk m' c

lemma mem_loadActiveMemberships_iff {m : Membership} :
    m ∈ loadActiveMemberships db ord clk userId ↔ Live db clk userId m :=
  mem_loadActiveMemberships

lemma mem_tenantPrincipal_permissions {user : User} {o s : Ulid} {acc : List Ulid} {c : String} :
    c ∈ (tenantPrincipal db ord clk user (loadActiveMemberships db ord clk userId) o acc
        (some s)).permissions ↔
      ∃ m, Live db clk userId m ∧ m.AppliesTo s ∧ Carries db clk m c := by
  simp only [tenantPrincipal, mem_collectGrants, List.mem_filter, mem_loadActiveMemberships_iff,
    decide_eq_true_eq, and_assoc]
  rfl

lemma openIn_of_mem_accessible {o s : Ulid}
    (hs : s ∈ accessibleSchoolIds db (loadActiveMemberships db ord clk userId) o)
    (hm : ∀ m, Live db clk userId m → m.schoolId = some s → OpenIn db o s) : OpenIn db o s := by
  rcases mem_accessibleSchoolIds.mp hs with ⟨m, hl, he⟩ | ⟨_, ho⟩
  · exact hm m (mem_loadActiveMemberships_iff.mp hl) he
  · obtain ⟨school, hsch, hid, horg, hdel, _⟩ := mem_openSchoolIds.mp ho
    exact ⟨school, hsch, hid, hdel, horg⟩

/-- **One tenant per principal**: every principal a tenant user resolves to is consistent
exactly when the rows the rule selects keep to the organization of the row that came first. -/
theorem resolvePrincipal_tenantConsistent_iff {user : User} (hu : loadUser db userId = .ok user)
    (ha : user.isPlatformAdmin = false) :
    (∀ p, resolvePrincipal db ord clk userId req = .ok p → TenantConsistent db clk userId p) ↔
      ∀ first, (loadActiveMemberships db ord clk userId).head? = some first → ∀ s,
        Picks (loadActiveMemberships db ord clk userId)
          (accessibleSchoolIds db (loadActiveMemberships db ord clk userId)
            first.organizationId) req s →
        OneTenant db clk userId first.organizationId s := by
  refine ⟨?_, ?_⟩
  · -- A school that a header or a default picks is the active one of a principal.
    intro h first hfirst s hpick
    have hres : resolvePrincipal db ord clk userId req = .ok _ :=
      (resolvePrincipal_tenant hu ha hfirst).mpr
        ⟨some s, selectActiveSchool_some.mpr hpick, rfl⟩
    obtain ⟨hschool, hperm⟩ := h _ hres
    refine ⟨?_, ?_⟩
    · intro m _ _
      obtain ⟨o, ho, hopen⟩ := hschool s rfl
      obtain rfl : first.organizationId = o := by simpa [tenantPrincipal] using ho
      exact hopen
    · intro m hl _ happ c hc
      obtain ⟨m', hl', ho, happ', hc'⟩ :=
        hperm s rfl c (mem_tenantPrincipal_permissions.mpr ⟨m, hl, happ, hc⟩)
      have ho : first.organizationId = m'.organizationId := by
        simpa [tenantPrincipal] using ho
      exact ⟨m', hl', ho.symm, happ', hc'⟩
  · intro h p hp
    -- Without memberships there is no active school.
    cases hm : (loadActiveMemberships db ord clk userId).head? with
    | none =>
      rw [resolvePrincipal_unattached hu ha hm] at hp
      obtain rfl : unattachedPrincipal user = p := by simpa using hp
      exact ⟨fun s hs => by simp [unattachedPrincipal] at hs,
        fun s hs => by simp [unattachedPrincipal] at hs⟩
    | some first =>
      obtain ⟨active, hsel, rfl⟩ := (resolvePrincipal_tenant hu ha hm).mp hp
      refine ⟨?_, ?_⟩
      · intro s hs
        obtain rfl : active = some s := hs
        have hpick := selectActiveSchool_some.mp hsel
        exact ⟨first.organizationId, rfl,
          openIn_of_mem_accessible hpick.mem (h first hm s hpick).school⟩
      · intro s hs c hc
        obtain rfl : active = some s := hs
        obtain ⟨m, hl, happ, hcar⟩ := mem_tenantPrincipal_permissions.mp hc
        -- A code of another organization is held in the school's, too.
        by_cases ho : m.organizationId = first.organizationId
        · exact ⟨m, hl, by simp [tenantPrincipal, ho], happ, hcar⟩
        · obtain ⟨m', hl', ho', happ', hc'⟩ :=
            (h first hm s (selectActiveSchool_some.mp hsel)).codes m hl ho happ c hcar
          exact ⟨m', hl', by simp [tenantPrincipal, ho'], happ', hc'⟩

/-! ### A user of two organizations -/

/-- One user with a membership for a school of each of two organizations. -/
def twoOrganizations : DB := { DB.empty with
  schools := [⟨11, 101, .active, none⟩, ⟨22, 202, .active, none⟩]
  users := [User.new 1 (some "a@b.c") none none .active none]
  memberships := [Membership.new 31 1 101 (some 11) none none false none,
    Membership.new 32 1 202 (some 22) none none false none] }

/-- At the school of the organization that came first the condition holds. -/
theorem twoOrganizations_consistent : ∃ p,
    resolvePrincipal twoOrganizations .heap ⟨0, 0⟩ 1 (some (Ulid.text 11)) = .ok p ∧
      TenantConsistent twoOrganizations ⟨0, 0⟩ 1 p := by
  have hfirst : (loadActiveMemberships twoOrganizations .heap ⟨0, 0⟩ 1).head? =
      some (Membership.new 31 1 101 (some 11) none none false none) := by decide
  have hpick : selectActiveSchool (loadActiveMemberships twoOrganizations .heap ⟨0, 0⟩ 1)
      (accessibleSchoolIds twoOrganizations
        (loadActiveMemberships twoOrganizations .heap ⟨0, 0⟩ 1) 101) (some (Ulid.text 11)) =
      .ok (some 11) := selectActiveSchool_some.mpr (.header (by decide))
  have hres : resolvePrincipal twoOrganizations .heap ⟨0, 0⟩ 1 (some (Ulid.text 11)) = .ok _ :=
    (resolvePrincipal_tenant (by rfl) (by rfl) hfirst).mpr ⟨_, hpick, rfl⟩
  refine ⟨_, hres, (resolvePrincipal_tenantConsistent_iff (by rfl) (by rfl)).mpr ?_ _ hres⟩
  intro first hf s hp
  obtain rfl : Membership.new 31 1 101 (some 11) none none false none = first := by
    simpa [hfirst] using hf
  have hs : Except.ok (some 11) = Except.ok (some s) :=
    hpick.symm.trans (selectActiveSchool_some.mpr hp)
  obtain rfl : 11 = s := by simpa using hs
  refine ⟨fun m _ _ => ⟨⟨11, 101, .active, none⟩, by decide, rfl, rfl, rfl⟩, ?_⟩
  rintro m _ _ _ c ⟨link, hlink, _⟩
  simp [twoOrganizations, DB.empty] at hlink

/-- The header names the school of the second organization, and the principal acts there in
the name of the first. -/
theorem twoOrganizations_inconsistent : ¬ ∀ (db : DB) (ord : RowOrder) (clk : Clock)
    (userId : Ulid) (req : Option String) (user : User), loadUser db userId = .ok user →
    user.isPlatformAdmin = false → ∀ p, resolvePrincipal db ord clk userId req = .ok p →
    TenantConsistent db clk userId p := by
  intro h
  have hfirst : (loadActiveMemberships twoOrganizations .heap ⟨0, 0⟩ 1).head? =
      some (Membership.new 31 1 101 (some 11) none none false none) := by decide
  have hpick : selectActiveSchool (loadActiveMemberships twoOrganizations .heap ⟨0, 0⟩ 1)
      (accessibleSchoolIds twoOrganizations
        (loadActiveMemberships twoOrganizations .heap ⟨0, 0⟩ 1) 101) (some (Ulid.text 22)) =
      .ok (some 22) := selectActiveSchool_some.mpr (.header (by decide))
  have hres : resolvePrincipal twoOrganizations .heap ⟨0, 0⟩ 1 (some (Ulid.text 22)) = .ok _ :=
    (resolvePrincipal_tenant (by rfl) (by rfl) hfirst).mpr ⟨_, hpick, rfl⟩
  obtain ⟨o, ho, school, hs, hid, _, horg⟩ := (h _ _ _ _ _ _ (by rfl) (by rfl) _ hres).school 22 rfl
  obtain rfl : 101 = o := by simpa [tenantPrincipal, Membership.new] using ho
  revert school
  decide

end SchoolOs
