import SchoolOs.TenantConsistency

/-!
Which schools a user can reach on a day, read off the rows: the effect of an operation on
access is judged by what a later `resolve_principal` can return.
-/

namespace SchoolOs

/-- Some resolution of the user on that day makes the school accessible. -/
def Accessible (db : DB) (day : Date) (u t : Ulid) : Prop :=
  ∃ ord now req p, resolvePrincipal db ord ⟨now, day⟩ u req = .ok p ∧
    t ∈ p.accessibleSchoolIds

/-- The user can sign in and is no platform staff. -/
def SignsIn (db : DB) (u : Ulid) : Prop :=
  ∃ user, loadUser db u = .ok user ∧ user.isPlatformAdmin = false

/-- The membership counts on the day. -/
def Membership.Counts (m : Membership) (day : Date) : Prop :=
  m.status = .active ∧ withinDates m day = true

/-- A membership for the school counts, or one for a whole organization together with one whose
organization has the school among its open ones. -/
def Opens (db : DB) (day : Date) (u t : Ulid) : Prop :=
  ∃ m ∈ db.memberships, m.userId = u ∧ m.Counts day ∧ (m.schoolId = some t ∨
    m.schoolId = none ∧ ∃ m' ∈ db.memberships, m'.userId = u ∧ m'.Counts day ∧
      t ∈ openSchoolIds db m'.organizationId)

/-- The order that hands out one row first. -/
def RowOrder.first (m : Membership) : RowOrder where
  memberships l := if m ∈ l then m :: l.erase m else l
  roleLinks := id
  permissionLinks := id
  memberships_perm l := by
    by_cases h : m ∈ l
    · rw [if_pos h]
      exact (List.perm_cons_erase h).symm
    · rw [if_neg h]
  roleLinks_perm := List.Perm.refl
  permissionLinks_perm := List.Perm.refl

variable {db : DB} {day : Date} {u t : Ulid}

lemma mem_load {ord : RowOrder} {now : Instant} {m : Membership} :
    m ∈ loadActiveMemberships db ord ⟨now, day⟩ u ↔
      m ∈ db.memberships ∧ m.userId = u ∧ m.Counts day :=
  mem_loadActiveMemberships

lemma loadActiveMemberships_first {m : Membership} (hm : m ∈ db.memberships) (hu : m.userId = u)
    (hc : m.Counts day) :
    (loadActiveMemberships db (.first m) ⟨0, day⟩ u).head? = some m := by
  have hmem : m ∈ db.memberships.filter fun m => m.userId = u ∧ m.status = .active := by
    simp [hm, hu, hc.1]
  simp only [loadActiveMemberships, RowOrder.first]
  rw [if_pos hmem, List.filter_cons, if_pos hc.2]
  rfl

lemma mem_accessible_of_resolves {ord : RowOrder} {clk : Clock} {req : Option String}
    {p : Principal} (h : Resolves db ord clk u req p) (ht : t ∈ p.accessibleSchoolIds) :
    SignsIn db u ∧ ∃ first ∈ loadActiveMemberships db ord clk u,
      t ∈ accessibleSchoolIds db (loadActiveMemberships db ord clk u) first.organizationId := by
  cases h with
  | platform hu ha hp =>
    simp only [platformPrincipal, bind_ok, pure_ok] at hp
    obtain ⟨_, _, rfl⟩ := hp
    simp at ht
  | unattached => simp [unattachedPrincipal] at ht
  | tenant hu ha hm _ =>
    exact ⟨⟨_, hu, ha⟩, _, List.mem_of_mem_head? hm, List.mem_toFinset.mp ht⟩

/-- **Access, row by row**: what some order of the rows can make accessible. -/
theorem accessible_iff : Accessible db day u t ↔ SignsIn db u ∧ Opens db day u t := by
  refine ⟨?_, ?_⟩
  · rintro ⟨ord, now, req, p, hp, ht⟩
    obtain ⟨hs, first, hf, hacc⟩ := mem_accessible_of_resolves (resolvePrincipal_ok.mp hp) ht
    obtain ⟨hf1, hf2, hf3⟩ := mem_load.mp hf
    refine ⟨hs, ?_⟩
    rcases mem_accessibleSchoolIds.mp hacc with ⟨m, hm, he⟩ | ⟨⟨m, hm, he⟩, ho⟩
    · obtain ⟨h1, h2, h3⟩ := mem_load.mp hm
      exact ⟨m, h1, h2, h3, .inl he⟩
    · obtain ⟨h1, h2, h3⟩ := mem_load.mp hm
      exact ⟨m, h1, h2, h3, .inr ⟨he, first, hf1, hf2, hf3, ho⟩⟩
  · rintro ⟨⟨user, hu, ha⟩, m, hm, hmu, hmc, hopen⟩
    have hreach : ∃ m' ∈ db.memberships, m'.userId = u ∧ m'.Counts day ∧
        t ∈ accessibleSchoolIds db (loadActiveMemberships db (.first m') ⟨0, day⟩ u)
          m'.organizationId := by
      rcases hopen with he | ⟨he, m', hm', hmu', hmc', ho⟩
      · exact ⟨m, hm, hmu, hmc,
          mem_accessibleSchoolIds.mpr (.inl ⟨m, mem_load.mpr ⟨hm, hmu, hmc⟩, he⟩)⟩
      · exact ⟨m', hm', hmu', hmc',
          mem_accessibleSchoolIds.mpr (.inr ⟨⟨m, mem_load.mpr ⟨hm, hmu, hmc⟩, he⟩, ho⟩)⟩
    obtain ⟨m', hm', hmu', hmc', hacc⟩ := hreach
    have hpick : selectActiveSchool (loadActiveMemberships db (.first m') ⟨0, day⟩ u) _
        (some t.text) = .ok (some t) := selectActiveSchool_some.mpr (.header hacc)
    have hres := (resolvePrincipal_tenant hu ha (loadActiveMemberships_first hm' hmu' hmc')).mpr
      ⟨_, hpick, rfl⟩
    exact ⟨_, _, _, _, hres, List.mem_toFinset.mpr hacc⟩

/-- **Access does not spread** when the signing in users, the schools and the memberships do
not, except for memberships of one school whose holders have no other organization open. -/
theorem accessible_of_extends {db' : DB} {s : Ulid} (hst : t ≠ s)
    (hs : SignsIn db' u → SignsIn db u) (hschools : db'.schools = db.schools)
    (hm : SignsIn db' u → ∀ m ∈ db'.memberships, m.userId = u → m.Counts day →
      m ∈ db.memberships ∨ m.schoolId = some s ∧ ∀ m' ∈ db'.memberships, m'.userId = u →
        m'.status = .active → m'.schoolId = none → m'.organizationId = m.organizationId)
    (h : Accessible db' day u t) : Accessible db day u t := by
  obtain ⟨hsign, m, hmem, hmu, hmc, hopen⟩ := accessible_iff.mp h
  have hold : ∀ m ∈ db'.memberships, m.userId = u → m.Counts day → m.schoolId ≠ some s →
      m ∈ db.memberships := by
    intro m h1 h2 h3 h4
    rcases hm hsign m h1 h2 h3 with h | ⟨h, _⟩
    · exact h
    · exact absurd h h4
  refine accessible_iff.mpr ⟨hs hsign, m, ?_, hmu, hmc, ?_⟩
  · -- What opens `t` is for `t` or for the organization, so it is no row for `s`.
    refine hold m hmem hmu hmc ?_
    rcases hopen with he | ⟨he, _⟩
    · rw [he]
      exact fun h => hst (Option.some.inj h)
    · simp [he]
  · -- The organization of the first row is seen from every row that is for the organization.
    rcases hopen with he | ⟨he, m', hm', hmu', hmc', ho⟩
    · exact .inl he
    · refine .inr ⟨he, ?_⟩
      have hopen' : openSchoolIds db' = openSchoolIds db := by
        unfold openSchoolIds
        rw [hschools]
      rw [hopen'] at ho
      rcases hm hsign m' hm' hmu' hmc' with h' | ⟨_, horg⟩
      · exact ⟨m', h', hmu', hmc', ho⟩
      · refine ⟨m, hold m hmem hmu hmc (by simp [he]), hmu, hmc, ?_⟩
        rwa [horg m hmem hmu hmc.1 he]

end SchoolOs
