import SchoolOs.Access
import SchoolOs.Grants

/-!
Whom an event reaches: the queries of the worker for the users of a school and for the holders of
a role, and how the second compares with what the holders may do.
-/

namespace SchoolOs

/-! ### The queries -/

section Queries

variable (db : DB) (organizationId schoolId : Ulid)

/-- The join with `users`: the account is active and not deleted. -/
def userActive (userId : Ulid) : Bool :=
  (Tables.get User.id userId db.users).any fun u => u.status = .active ∧ u.deletedAt = none

/-- An active membership of the organization for the school, or for all of its schools. -/
def Membership.covers (m : Membership) : Bool :=
  m.organizationId = organizationId ∧ m.status = .active ∧
    (m.schoolId = some schoolId ∨ m.schoolId = none)

def activeUserIdsInSchool : List Ulid :=
  ((db.memberships.filter fun m =>
    m.covers organizationId schoolId ∧ userActive db m.userId).map Membership.userId).dedup

/-- The join with `membership_roles` and `roles`. -/
def joinedRoleCodes (m : Membership) : List String :=
  (db.membershipRoles.filter (·.membershipId = m.id)).filterMap fun link =>
    (Tables.get Role.id link.roleId db.roles).map Role.code

def userIdsWithRoleCodes (roleCodes : Finset String) : List Ulid :=
  ((db.memberships.filter fun m => m.covers organizationId schoolId ∧ userActive db m.userId ∧
    (joinedRoleCodes db m).any (· ∈ roleCodes)).map Membership.userId).dedup

end Queries

variable {db : DB} {ord : RowOrder} {clk : Clock} {o s u : Ulid} {r : String}

lemma mem_joinedRoleCodes {m : Membership} : r ∈ joinedRoleCodes db m ↔
    ∃ link ∈ db.membershipRoles, link.membershipId = m.id ∧
      ∃ role, Tables.get Role.id link.roleId db.roles = some role ∧ role.code = r := by
  simp [joinedRoleCodes, and_assoc]

lemma mem_activeUserIdsInSchool : u ∈ activeUserIdsInSchool db o s ↔
    userActive db u = true ∧ ∃ m ∈ db.memberships, m.userId = u ∧ m.covers o s = true := by
  simp only [activeUserIdsInSchool, List.mem_dedup, List.mem_map, List.mem_filter,
    decide_eq_true_eq]
  refine ⟨?_, ?_⟩
  · rintro ⟨m, ⟨hm, hcov, hact⟩, rfl⟩
    exact ⟨hact, m, hm, rfl, hcov⟩
  · rintro ⟨hact, m, hm, rfl, hcov⟩
    exact ⟨m, ⟨hm, hcov, hact⟩, rfl⟩

/-- **Whom the role codes reach**: the holders of one of them. -/
lemma mem_userIdsWithRoleCodes_codes {codes : Finset String} :
    u ∈ userIdsWithRoleCodes db o s codes ↔ ∃ r ∈ codes, userActive db u = true ∧
      ∃ m ∈ db.memberships, m.userId = u ∧ m.covers o s = true ∧ r ∈ joinedRoleCodes db m := by
  simp only [userIdsWithRoleCodes, List.mem_dedup, List.mem_map, List.mem_filter,
    List.any_eq_true, decide_eq_true_eq]
  refine ⟨?_, ?_⟩
  · rintro ⟨m, ⟨hm, hcov, hact, r, hcode, hr⟩, rfl⟩
    exact ⟨r, hr, hact, m, hm, rfl, hcov, hcode⟩
  · rintro ⟨r, hr, hact, m, hm, rfl, hcov, hcode⟩
    exact ⟨m, ⟨hm, hcov, hact, r, hcode, hr⟩, rfl⟩

lemma mem_userIdsWithRoleCodes : u ∈ userIdsWithRoleCodes db o s {r} ↔
    userActive db u = true ∧ ∃ m ∈ db.memberships, m.userId = u ∧ m.covers o s = true ∧
      r ∈ joinedRoleCodes db m := by
  simp only [mem_userIdsWithRoleCodes_codes, Finset.mem_singleton, exists_eq_left]

/-! ### What the holders may do -/

/-- The live memberships of the organization that are for the school or for all of its schools. -/
def schoolMemberships (db : DB) (ord : RowOrder) (clk : Clock) (o s u : Ulid) : List Membership :=
  (loadActiveMemberships db ord clk u).filter fun m =>
    m.organizationId = o ∧ (m.schoolId = some s ∨ m.schoolId = none)

/-- The user has an active account, and acts in the school with the role. -/
def ActsWithRole (db : DB) (ord : RowOrder) (clk : Clock) (o s : Ulid) (r : String) (u : Ulid) :
    Prop :=
  userActive db u = true ∧
    r ∈ (collectGrants db ord clk (schoolMemberships db ord clk o s u)).2

/-- The user holds the role in the school through a membership and a link that are live. -/
def LiveHolder (db : DB) (clk : Clock) (o s : Ulid) (r : String) (u : Ulid) : Prop :=
  ∃ m ∈ db.memberships, m.userId = u ∧ m.covers o s = true ∧ withinDates m clk.today = true ∧
    HoldsRole db clk m r

/-- An active user has the role in the school from a membership out of its dates, from a link
that has expired, or as a role that is archived. -/
def StaleHolder (db : DB) (clk : Clock) (o s : Ulid) (r : String) (u : Ulid) : Prop :=
  userActive db u = true ∧ ∃ m ∈ db.memberships, m.userId = u ∧ m.covers o s = true ∧
    ∃ link ∈ db.membershipRoles, link.membershipId = m.id ∧
      ∃ role, Tables.get Role.id link.roleId db.roles = some role ∧ role.code = r ∧
        (withinDates m clk.today = false ∨ link.expiresAt.any (· ≤ clk.now) = true ∨
          role.archivedAt ≠ none)

lemma actsWithRole_iff : ActsWithRole db ord clk o s r u ↔
    userActive db u = true ∧ LiveHolder db clk o s r u := by
  refine and_congr_right fun _ => mem_roleCodes.trans ?_
  simp only [schoolMemberships, List.mem_filter, mem_loadActiveMemberships, decide_eq_true_eq]
  refine ⟨?_, ?_⟩
  · rintro ⟨m, ⟨⟨hm, hu, hst, hd⟩, ho, hs⟩, hrole⟩
    exact ⟨m, hm, hu, by simp [Membership.covers, ho, hst, hs], hd, hrole⟩
  · rintro ⟨m, hm, hu, hcov, hd, hrole⟩
    obtain ⟨ho, hst, hs⟩ := of_decide_eq_true hcov
    exact ⟨m, ⟨⟨hm, hu, hst, hd⟩, ho, hs⟩, hrole⟩

lemma mem_userIdsWithRoleCodes_iff (clk : Clock) : u ∈ userIdsWithRoleCodes db o s {r} ↔
    StaleHolder db clk o s r u ∨ userActive db u = true ∧ LiveHolder db clk o s r u := by
  rw [mem_userIdsWithRoleCodes]
  refine ⟨?_, ?_⟩
  · rintro ⟨hact, m, hm, hu, hcov, hcode⟩
    obtain ⟨link, hl, hlm, role, hrole, hc⟩ := mem_joinedRoleCodes.mp hcode
    by_cases hlive : withinDates m clk.today = true ∧ Grants db clk link role
    · exact .inr ⟨hact, m, hm, hu, hcov, hlive.1, link, hl, hlm, role, hlive.2, hc⟩
    · refine .inl ⟨hact, m, hm, hu, hcov, link, hl, hlm, role, hrole, hc, ?_⟩
      by_contra hno
      simp only [not_or, Bool.not_eq_false, Bool.not_eq_true, not_not] at hno
      exact hlive ⟨hno.1, expired_iff.mp hno.2.1, hrole, hno.2.2⟩
  · rintro (⟨hact, m, hm, hu, hcov, link, hl, hlm, role, hrole, hc, _⟩ |
      ⟨hact, m, hm, hu, hcov, _, link, hl, hlm, role, ⟨_, hrole, _⟩, hc⟩)
    · exact ⟨hact, m, hm, hu, hcov, mem_joinedRoleCodes.mpr ⟨link, hl, hlm, role, hrole, hc⟩⟩
    · exact ⟨hact, m, hm, hu, hcov, mem_joinedRoleCodes.mpr ⟨link, hl, hlm, role, hrole, hc⟩⟩

/-- **Role fan-out agrees with authorization, exactly when** whoever has the role in the school
through something out of date also holds it through something live. -/
theorem userIdsWithRoleCodes_iff (db : DB) (ord : RowOrder) (clk : Clock) (o s : Ulid)
    (r : String) :
    (∀ u, u ∈ userIdsWithRoleCodes db o s {r} ↔ ActsWithRole db ord clk o s r u) ↔
      ∀ u, StaleHolder db clk o s r u → LiveHolder db clk o s r u := by
  refine forall_congr' fun u => ?_
  rw [mem_userIdsWithRoleCodes_iff clk, actsWithRole_iff]
  refine ⟨fun h hstale => (h.mp (.inl hstale)).2, fun h => ⟨?_, .inr⟩⟩
  rintro (hstale | hlive)
  · exact ⟨hstale.1, h hstale⟩
  · exact hlive

/-! ### A membership that has run out -/

/-- A teacher whose membership ended the day before. -/
def formerTeacher : DB := { DB.empty with
  users := [User.new 2 (some "d@e.f") none none .active none]
  memberships := [Membership.new 301 2 101 (some 201) none (some 9) true none]
  roles := [Role.new 6 (some 101) "TEACHER" "Teacher" none .school .school none]
  membershipRoles := [⟨401, 301, 6, none, none, none⟩] }

/-- Announcements for teachers still go there. -/
theorem formerTeacher_notified : ¬ ∀ (db : DB) (ord : RowOrder) (clk : Clock) (o s : Ulid)
    (r : String) (u : Ulid),
    u ∈ userIdsWithRoleCodes db o s {r} ↔ ActsWithRole db ord clk o s r u := by
  intro h
  have hiff := h formerTeacher .heap ⟨0, 10⟩ 101 201 "TEACHER" 2
  have hin : (2 : Ulid) ∈ userIdsWithRoleCodes formerTeacher 101 201 {"TEACHER"} := by decide
  obtain ⟨_, hrole⟩ := hiff.mp hin
  revert hrole
  decide

end SchoolOs
