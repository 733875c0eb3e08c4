import SchoolOs.Access
import SchoolOs.Iam

/-!
How far the administration of memberships and users reaches: whether the operations of those
who administer one school can open another school to anyone.
-/

namespace SchoolOs

variable {env : Env} {clk : Clock} {ctx : RequestContext} {db : DB} {s : Ulid}

/-- Every organization-wide membership the user holds is of the organization. -/
def NoOtherOrganization (db : DB) (u o : Ulid) : Prop :=
  ∀ m ∈ db.memberships, m.userId = u → m.status = .active → m.schoolId = none →
    m.organizationId = o

/-- What an operation on memberships and users may do without reaching past the school `s`: a
membership it adds, or makes count on a day it did not, is for `s`, and its holder has no other
organization open; or its holder cannot sign in. -/
inductive KeepsTo (env : Env) (clk : Clock) (ctx : RequestContext) (s : Ulid) (db : DB) :
    IamOp → Prop
  | createMembership {data : MembershipCreate} {draw : ℕ → Ulid} :
      (∀ o, Memberships.Creatable env ctx db data draw o → SignsIn db data.userId →
        data.schoolId = some s ∧ NoOtherOrganization db data.userId o) →
      KeepsTo env clk ctx s db (.createMembership data draw)
  | updateMembership {id : Ulid} {data : MembershipUpdate} :
      (∀ m, Memberships.getOwned ctx db id = .ok m → m.version = data.version →
        Memberships.Savable env ctx "MEMBERSHIP_UPDATED" m
          { Memberships.applyUpdate data m with updatedById := ctx.userId } →
        SignsIn db m.userId →
        (m.schoolId = some s ∧ NoOtherOrganization db m.userId m.organizationId) ∨
          ∀ day, (Memberships.applyUpdate data m).Counts day → m.Counts day) →
      KeepsTo env clk ctx s db (.updateMembership id data)
  | endMembership (id : Ulid) (version : ℕ) : KeepsTo env clk ctx s db (.endMembership id version)
  | grantRole (id : Ulid) (data : RoleGrantCreate) (linkId : Ulid) :
      KeepsTo env clk ctx s db (.grantRole id data linkId)
  | revokeRole (id roleId : Ulid) : KeepsTo env clk ctx s db (.revokeRole id roleId)
  | createUser {data : UserCreate} {userId membershipId : Ulid} {salt : ℕ} :
      (∀ o, Users.Creatable env clk ctx db data userId membershipId salt o →
        data.password.isSome → data.schoolId = some s) →
      KeepsTo env clk ctx s db (.createUser data userId membershipId salt)

/-- The foreign key of `memberships.user_id`. -/
def UsersExist (db : DB) : Prop := ∀ m ∈ db.memberships, ∃ u ∈ db.users, u.id = m.userId

/-- No pair of a user and a school other than `s` is added. -/
def NotWider (s : Ulid) (db db' : DB) : Prop :=
  ∀ day u t, t ≠ s → Accessible db' day u t → Accessible db day u t

lemma signsIn_congr {db db' : DB} (h : db'.users = db.users) {u : Ulid} :
    SignsIn db' u ↔ SignsIn db u := by
  unfold SignsIn loadUser
  rw [h]

/-- Without a change to users, schools or memberships nothing is added. -/
lemma notWider_of_same {db' : DB} (hu : db'.users = db.users)
    (hsch : db'.schools = db.schools) (hm : db'.memberships = db.memberships) :
    NotWider s db db' := by
  intro day u t hts
  refine accessible_of_extends hts (signsIn_congr hu).mp hsch ?_
  intro _ m hmem _ _
  exact .inl (hm ▸ hmem)

/-! ### A new membership -/

lemma notWider_createMembership {data : MembershipCreate} {draw : ℕ → Ulid} {o : Ulid}
    (h : SignsIn db data.userId → data.schoolId = some s ∧ NoOtherOrganization db data.userId o) :
    NotWider s db (Memberships.created ctx db data draw o) := by
  intro day u t hts
  refine accessible_of_extends hts (signsIn_congr rfl).mp rfl ?_
  intro hsign m hm hmu _
  rcases List.mem_append.mp hm with hold | hnew
  · exact .inl hold
  · obtain rfl := List.mem_singleton.mp hnew
    obtain rfl : data.userId = u := hmu
    obtain ⟨hsch, hno⟩ := h ((signsIn_congr rfl).mp hsign)
    refine .inr ⟨hsch, fun m' hm' hu' ha' hn' => ?_⟩
    rcases List.mem_append.mp hm' with hold' | hnew'
    · exact hno m' hold' hu' ha' hn'
    · obtain rfl := List.mem_singleton.mp hnew'
      rfl

/-! ### A changed membership -/

lemma savedRow_col {γ : Type} (col : Membership → γ) (h : ∀ r, col r.touch = col r)
    (before m : Membership) : col (Memberships.savedRow before m) = col m :=
  flushed_col Membership.touch col h before m

lemma counts_savedRow {before m : Membership} {day : Date} :
    (Memberships.savedRow before m).Counts day ↔ m.Counts day := by
  have h := savedRow_col (fun r => (r.status, r.startDate, r.endDate)) (fun _ => rfl) before m
  simp only [Prod.mk.injEq] at h
  unfold Membership.Counts withinDates
  rw [h.1, h.2.1, h.2.2]

lemma mem_saved {action : String} {before m r : Membership}
    (hr : r ∈ (Memberships.saved ctx db action before m).memberships) :
    r = Memberships.savedRow before m ∨ r ∈ db.memberships := by
  obtain ⟨r0, hr0, he⟩ := Tables.mem_set.mp hr
  split at he
  · exact .inl he.symm
  · exact .inr (he ▸ hr0)

section Save

variable {action : String} {before m : Membership}

/-- A saved row that counts on no further day opens nothing: what it opens, the row it replaces
opened already. -/
lemma notWider_save_of_days (hb : before ∈ db.memberships) (hu : m.userId = before.userId)
    (ho : m.organizationId = before.organizationId) (hsch : m.schoolId = before.schoolId)
    (hdays : ∀ day, m.Counts day → before.Counts day) :
    NotWider s db (Memberships.saved ctx db action before m) := by
  have hcols := savedRow_col (fun r => (r.userId, r.organizationId, r.schoolId)) (fun _ => rfl)
    before m
  simp only [Prod.mk.injEq] at hcols
  obtain ⟨hru, hro, hrs⟩ := hcols
  intro day u t _ hacc
  have hback : ∀ r ∈ (Memberships.saved ctx db action before m).memberships, r.userId = u →
      r.Counts day → ∃ r0 ∈ db.memberships, r0.userId = u ∧ r0.Counts day ∧
        r0.schoolId = r.schoolId ∧ r0.organizationId = r.organizationId := by
    intro r hr h1 h2
    rcases mem_saved hr with rfl | hold
    · exact ⟨before, hb, by rw [← hu, ← hru, h1], hdays day (counts_savedRow.mp h2),
        by rw [hrs, hsch], by rw [hro, ho]⟩
    · exact ⟨r, hold, h1, h2, rfl, rfl⟩
  obtain ⟨hsign, r, hr, hrmu, hrc, hopen⟩ := accessible_iff.mp hacc
  obtain ⟨r0, h1, h2, h3, h4, h5⟩ := hback r hr hrmu hrc
  refine accessible_iff.mpr ⟨(signsIn_congr rfl).mp hsign, r0, h1, h2, h3, ?_⟩
  rw [h4]
  rcases hopen with he | ⟨he, r', hr', hru', hrc', ho'⟩
  · exact .inl he
  · obtain ⟨r0', h1', h2', h3', _, h5'⟩ := hback r' hr' hru' hrc'
    exact .inr ⟨he, r0', h1', h2', h3', by rw [h5']; exact ho'⟩

/-- A saved row for `s` opens no other school to a holder without another organization. -/
lemma notWider_save_for (hu : m.userId = before.userId)
    (ho : m.organizationId = before.organizationId) (hsch : m.schoolId = before.schoolId)
    (h : SignsIn db before.userId →
      before.schoolId = some s ∧ NoOtherOrganization db before.userId before.organizationId) :
    NotWider s db (Memberships.saved ctx db action before m) := by
  have hcols := savedRow_col (fun r => (r.userId, r.organizationId, r.schoolId)) (fun _ => rfl)
    before m
  simp only [Prod.mk.injEq] at hcols
  obtain ⟨hru, hro, hrs⟩ := hcols
  intro day u t hts
  refine accessible_of_extends hts (signsIn_congr rfl).mp rfl ?_
  intro hsign r hr hru' _
  rcases mem_saved hr with rfl | hold
  · obtain rfl : before.userId = u := by rw [← hu, ← hru, hru']
    obtain ⟨hfor, hno⟩ := h ((signsIn_congr rfl).mp hsign)
    refine .inr ⟨by rw [hrs, hsch, hfor], fun m' hm' hmu' ha' hn' => ?_⟩
    rw [hro, ho]
    rcases mem_saved hm' with rfl | hold'
    · rw [hrs, hsch, hfor] at hn'
      cases hn'
    · exact hno m' hold' hmu' ha' hn'
  · exact .inl hold

/-- A saved row of the same holder, school and organization adds nothing when it is for `s`, or
when it counts on no further day. -/
lemma notWider_save (hb : before ∈ db.memberships) (hu : m.userId = before.userId)
    (ho : m.organizationId = before.organizationId) (hsch : m.schoolId = before.schoolId)
    (h : SignsIn db before.userId →
      (before.schoolId = some s ∧ NoOtherOrganization db before.userId before.organizationId) ∨
        ∀ day, m.Counts day → before.Counts day) :
    NotWider s db (Memberships.saved ctx db action before m) := by
  by_cases hdays : ∀ day, m.Counts day → before.Counts day
  · exact notWider_save_of_days hb hu ho hsch hdays
  · exact notWider_save_for hu ho hsch fun hsign => (h hsign).resolve_right hdays

end Save

/-! ### A new user -/

lemma signsIn_of_created {data : UserCreate} {userId membershipId u o : Ulid} {salt : ℕ}
    (hu : u ≠ userId)
    (h : SignsIn (Users.created env clk ctx db data userId membershipId salt o) u) :
    SignsIn db u := by
  obtain ⟨user, hload, ha⟩ := h
  obtain ⟨hget, hd, hst⟩ := loadUser_ok.mp hload
  refine ⟨user, loadUser_ok.mpr ⟨?_, hd, hst⟩, ha⟩
  have hget' : Tables.get User.id u
      (db.users ++ [Users.newUser env clk data userId salt]) = some user := hget
  rw [Tables.get_append] at hget'
  have hnone : Tables.get User.id u [Users.newUser env clk data userId salt] = none := by
    refine Tables.get_eq_none.mpr fun r hr => ?_
    obtain rfl := List.mem_singleton.mp hr
    exact Ne.symm hu
  simpa [hnone] using hget'

lemma notWider_createUser {data : UserCreate} {userId membershipId : Ulid} {salt : ℕ} {o : Ulid}
    (hfk : UsersExist db) (hc : Users.Creatable env clk ctx db data userId membershipId salt o)
    (h : data.password.isSome → data.schoolId = some s) :
    NotWider s db (Users.created env clk ctx db data userId membershipId salt o) := by
  have hfresh : ∀ u ∈ db.users, u.id ≠ userId := fun u hu =>
    hc.freshUser.2 (Users.newUser env clk data userId salt) List.mem_cons_self u hu
  intro day u t hts hacc
  by_cases hu : u = userId
  · -- The new user's one membership is for `s`, or the new user is invited only.
    subst hu
    obtain ⟨⟨user, hload, _⟩, m, hm, hmu, _, hopen⟩ := accessible_iff.mp hacc
    have hnew : m = Users.newMembership ctx data u membershipId o := by
      rcases List.mem_append.mp hm with hold | hnew
      · obtain ⟨u', hu', hid⟩ := hfk m hold
        exact absurd (hid.trans hmu) (hfresh u' hu')
      · exact List.mem_singleton.mp hnew
    have hactive : data.password.isSome := by
      obtain ⟨hget, _, hst⟩ := loadUser_ok.mp hload
      obtain ⟨hin, hid⟩ := Tables.get_mem hget
      rcases List.mem_append.mp hin with hold | hnewu
      · exact absurd hid (hfresh user hold)
      · obtain rfl := List.mem_singleton.mp hnewu
        by_contra hp
        simp [Users.newUser, User.new, hp] at hst
    have hms : m.schoolId = some s := hnew ▸ h hactive
    rcases hopen with he | ⟨he, _⟩
    · exact absurd (Option.some.inj (he.symm.trans hms)) hts
    · rw [hms] at he
      cases he
  · refine accessible_of_extends hts ?_ ?_ ?_ hacc
    · exact signsIn_of_created hu
    · rfl
    · intro _ m hm hmu _
      rcases List.mem_append.mp hm with hold | hnew
      · exact .inl hold
      · obtain rfl := List.mem_singleton.mp hnew
        exact absurd hmu.symm hu

/-! ### The foreign key -/

lemma UsersExist.saved (h : UsersExist db) {action : String} {before m : Membership}
    (hb : before ∈ db.memberships) (hu : m.userId = before.userId) :
    UsersExist (Memberships.saved ctx db action before m) := by
  intro r hr
  rcases mem_saved hr with rfl | hold
  · obtain ⟨u, hmem, hid⟩ := h before hb
    exact ⟨u, hmem, by rw [hid, ← hu, savedRow_col (·.userId) (fun _ => rfl)]⟩
  · exact h r hold

lemma UsersExist.userSaved (h : UsersExist db) {entry : AuditEntry} {before user : User}
    {r : User × DB} (hs : Users.save env ctx db entry before user = .ok r) : UsersExist r.2 := by
  obtain ⟨hm, hu⟩ := Users.save_keeps hs
  intro m hmem
  rw [hm] at hmem
  obtain ⟨u, hin, hid⟩ := h m hmem
  obtain ⟨u', hin', hid'⟩ := hu u hin
  exact ⟨u', hin', hid'.trans hid⟩

/-- Every request of the administration routes keeps the foreign key: no user row goes away, and
a new membership is for a user that was found. -/
lemma UsersExist.effect (h : UsersExist db) {op : IamOp} {db' : DB}
    (he : IamEffect env clk ctx db op db') : UsersExist db' := by
  cases he with
  | membershipCreated o hc =>
    intro m hm
    rcases List.mem_append.mp hm with hold | hnew
    · exact h m hold
    · obtain rfl := List.mem_singleton.mp hnew
      obtain ⟨user, hu, _⟩ := hc.user
      exact ⟨user, Tables.get_mem hu⟩
  | membershipUpdated m hm _ _ | membershipEnded m hm _ _ =>
    exact h.saved (Memberships.getOwned_mem hm) rfl
  | userCreated o hc =>
    intro m hm
    rcases List.mem_append.mp hm with hold | hnew
    · obtain ⟨u, hu, hid⟩ := h m hold
      exact ⟨u, List.mem_append_left _ hu, hid⟩
    · obtain rfl := List.mem_singleton.mp hnew
      exact ⟨_, List.mem_append_right _ (List.mem_singleton_self _), rfl⟩
  | userUpdated u entry r _ _ hs | userDeleted u entry r _ _ hs => exact h.userSaved hs
  | platformAdminToggled u r _ ht =>
    simp only [Users.togglePlatformAdmin, bind_ok] at ht
    obtain ⟨_, _, _, _, hs⟩ := ht
    exact h.userSaved hs
  | roleGranted _ _ _ _ _ _ _ _ | roleRevoked _ _ _ _ => exact h
  | roleCreated hf | roleUpdated hf | roleDeleted hf =>
    obtain ⟨_, _, _, rfl⟩ := hf
    exact h

/-! ### Runs -/

/-- The request, under whatever context its guard resolves, keeps to the school. -/
def Confined (env : Env) (s : Ulid) (db : DB) (call : IamCall) : Prop :=
  ∀ ctx, require db call.ord call.clk call.op.permission none call.http = .ok ctx →
    KeepsTo env call.clk ctx s db call.op

/-- **One step**: an operation that keeps to the school adds no pair. -/
theorem notWider_serve {op : IamOp} {db' : DB} (hfk : UsersExist db)
    (h : KeepsTo env clk ctx s db op) (hs : op.serve env clk ctx db = .ok db') :
    NotWider s db db' := by
  cases h with
  | createMembership h =>
    cases serve_effect hs with
    | membershipCreated o hc => exact notWider_createMembership (h o hc)
  | updateMembership h =>
    cases serve_effect hs with
    | membershipUpdated m hm hv hsavable =>
      have hmem : m ∈ db.memberships := Memberships.getOwned_mem hm
      exact notWider_save hmem rfl rfl rfl fun hsign => h m hm hv hsavable hsign
  | endMembership id version =>
    cases serve_effect hs with
    | membershipEnded m hm _ _ =>
      have hmem : m ∈ db.memberships := Memberships.getOwned_mem hm
      refine notWider_save_of_days hmem rfl rfl rfl ?_
      rintro day ⟨hactive, _⟩
      cases hactive
  | grantRole id data linkId =>
    cases serve_effect hs with
    | roleGranted m role link row _ _ _ _ => exact notWider_of_same rfl rfl rfl
  | revokeRole id roleId =>
    cases serve_effect hs with
    | roleRevoked m link row _ => exact notWider_of_same rfl rfl rfl
  | createUser h =>
    cases serve_effect hs with
    | userCreated o hc => exact notWider_createUser hfk hc (h o hc)

lemma confined_step {call : IamCall} (hfk : UsersExist db) (h : Confined env s db call) :
    UsersExist (call.step env db) ∧ NotWider s db (call.step env db) := by
  rcases IamCall.step_cases env db call with he | ⟨ctx, db', hctx, hs, he⟩
  · rw [he]
    exact ⟨hfk, notWider_of_same rfl rfl rfl⟩
  · rw [he]
    exact ⟨hfk.effect (serve_effect hs), notWider_serve hfk (h ctx hctx) hs⟩

/-- **School confinement**: along every run of requests that keep to the school `s`, no user
gains access to another school. -/
theorem confinement {l : List IamCall} (hfk : UsersExist db)
    (hl : Runs.Along (fun db call => IamCall.step env db call) (Confined env s) db l) :
    NotWider s db (Runs.run (fun db call => IamCall.step env db call) db l) :=
  Runs.relates (R := NotWider s) (I := UsersExist) (fun _ _ _ _ _ h => h)
    (fun hab hbc day u t hts h => hab day u t hts (hbc day u t hts h))
    (fun _ _ hc hi => (confined_step hi hc).1) (fun _ _ hc hi => (confined_step hi hc).2) hl hfk

/-! ### The administrator of one school who leaves the school out -/

/-- The operations of membership and user administration. -/
def IamOp.administers : IamOp → Bool
  | .createMembership .. | .updateMembership .. | .endMembership .. | .grantRole ..
  | .revokeRole .. | .createUser .. => true
  | _ => false

/-- A tenant user whose live memberships are all for the school, with at most the school scope
for the permission used. -/
def ActsWithin (s : Ulid) (db : DB) (call : IamCall) : Prop :=
  call.op.administers = true ∧ ∃ u p, call.http.identity = some u ∧
    resolvePrincipal db call.ord call.clk u call.http.schoolIdHeader = .ok p ∧
    p.isPlatformAdmin = false ∧ (∀ m, Live db call.clk u m → m.schoolId = some s) ∧
    ∀ scope, (contextOf p call.http).effectiveScopeFor call.op.permission.code = some scope →
      scope.strength ≤ DataScope.school.strength

/-- An organization of two schools, the administrator of one of them, and a user of none. -/
def schoolAdministration : DB := { DB.empty with
  schools := [⟨11, 101, .active, none⟩, ⟨12, 101, .active, none⟩]
  users := [User.new 1 (some "a@b.c") none none .active none,
    User.new 2 (some "d@e.f") none none .active none]
  memberships := [Membership.new 31 1 101 (some 11) none none true none]
  permissions := [⟨61, pMembershipCreate.code⟩]
  roles := [{ Role.new 6 none "SCHOOL_ADMIN" "School Administrator" none .school .school none with
      isSystem := true }]
  rolePermissions := [⟨71, 6, 61, none⟩]
  membershipRoles := [⟨81, 31, 6, none, none, none⟩] }

/-- The administrator creates a membership for the other user. -/
def createFor (schoolId : Option Ulid) : IamCall where
  clk := ⟨0, 0⟩
  ord := .heap
  http := ⟨some 1, none, "r", some "127.0.0.1", none⟩
  op := .createMembership (.undated 2 schoolId [] (by decide)) fun n => Ulid.ofNat (n + 40)

/-- For the own school the run keeps to it. -/
theorem createFor_own : NotWider 11 schoolAdministration
    (Runs.run (fun db call => IamCall.step .plain db call) schoolAdministration
      [createFor (some 11)]) := by
  refine confinement (by unfold UsersExist; decide) ⟨fun ctx _ => .createMembership ?_, trivial⟩
  refine fun o _ _ => ⟨rfl, fun m hm hu _ _ => ?_⟩
  obtain rfl := List.mem_singleton.mp hm
  exact absurd hu (by decide)

lemma createFor_actsWithin (schoolId : Option Ulid) :
    ActsWithin 11 schoolAdministration (createFor schoolId) := by
  have hres : resolvePrincipal schoolAdministration .heap ⟨0, 0⟩ 1 none = .ok _ :=
    (resolvePrincipal_tenant (by rfl) (by rfl) (by rfl)).mpr
      ⟨some 11, selectActiveSchool_some.mpr (.default (by decide) (by decide)), rfl⟩
  refine ⟨rfl, 1, _, rfl, hres, rfl, fun m hm => ?_, fun scope hscope => ?_⟩
  · obtain rfl := List.mem_singleton.mp hm.1
    rfl
  · have hschool : scope = .school := (Option.some.inj hscope).symm
    rw [hschool]

/-- Without a school the other user reaches every school of the organization. -/
theorem createFor_everywhere : ¬ ∀ (env : Env) (s : Ulid) (db : DB) (l : List IamCall),
    UsersExist db → Runs.Along (fun db call => IamCall.step env db call) (ActsWithin s) db l →
    NotWider s db (Runs.run (fun db call => IamCall.step env db call) db l) := by
  intro h
  have hrun := h .plain 11 schoolAdministration [createFor none] (by unfold UsersExist; decide)
    ⟨createFor_actsWithin none, trivial⟩
  have hafter : Accessible (Runs.run (fun db call => IamCall.step .plain db call)
      schoolAdministration [createFor none]) 0 2 12 := by
    refine accessible_iff.mpr ⟨⟨User.new 2 (some "d@e.f") none none .active none, by rfl, rfl⟩,
      Membership.new 40 2 101 none none none false (some 1), by decide, rfl, ⟨rfl, rfl⟩,
      .inr ⟨rfl, Membership.new 40 2 101 none none none false (some 1), by decide, rfl,
        ⟨rfl, rfl⟩, by decide⟩⟩
  obtain ⟨_, m, hm, hu, _⟩ := accessible_iff.mp (hrun 0 2 12 (by decide) hafter)
  obtain rfl := List.mem_singleton.mp hm
  exact absurd hu (by decide)

end SchoolOs
