import SchoolOs.Iam

/-!
Who can link a platform role to a membership: the ban of `grant_role`, and the loop over
`role_ids` that lacks it.
-/

namespace SchoolOs

variable {env : Env}

/-- No link points to a system role of the platform level. -/
def NoPlatformLinks (db : DB) : Prop :=
  ∀ l ∈ db.membershipRoles, ∀ role ∈ db.roles, role.id = l.roleId → ¬ Memberships.PlatformRole role

instance (db : DB) : Decidable (NoPlatformLinks db) :=
  inferInstanceAs (Decidable (∀ l ∈ db.membershipRoles, ∀ role ∈ db.roles, role.id = l.roleId →
    ¬ Memberships.PlatformRole role))

/-- A body run under some context. -/
structure Served where
  clk : Clock
  ctx : RequestContext
  op : IamOp

def Served.step (env : Env) (db : DB) (c : Served) : DB := c.op.step env c.clk c.ctx db

/-- The operations that create or change memberships and their role links. -/
inductive EditsMembership : IamOp → Prop
  | create (data : MembershipCreate) (draw : ℕ → Ulid) :
    EditsMembership (.createMembership data draw)
  | update (id : Ulid) (data : MembershipUpdate) : EditsMembership (.updateMembership id data)
  | grant (id : Ulid) (data : RoleGrantCreate) (linkId : Ulid) :
      EditsMembership (.grantRole id data linkId)
  | revoke (id roleId : Ulid) : EditsMembership (.revokeRole id roleId)

/-- A creation that passes every check of the service while its `role_ids` list a platform role
the organization can reach. -/
def ListsPlatformRole (env : Env) (db : DB) (c : Served) : Prop :=
  ∃ data draw o, c.op = .createMembership data draw ∧
    Memberships.Creatable env c.ctx db data draw o ∧
    ∃ r ∈ data.roleIds, ∃ role, getOrgRole db o r = some role ∧ Memberships.PlatformRole role

/-- A tenant's step that does not ask for a platform role on creation. -/
structure Unprivileged (env : Env) (db : DB) (c : Served) : Prop where
  tenant : c.ctx.isPlatformAdmin = false
  edits : EditsMembership c.op
  creation : ¬ ListsPlatformRole env db c

/-- The roles are keyed by id. -/
def RoleKeys (db : DB) : Prop := (db.roles.map Role.id).Nodup

/-- Under the key of `roles`, the role found under an id is the only one with that id. -/
lemma eq_of_getOrgRole {db : DB} (hk : RoleKeys db) {o r : Ulid} {role role' : Role}
    (h : getOrgRole db o r = some role) (hr : role' ∈ db.roles) (hid : role'.id = r) :
    role' = role := by
  obtain ⟨hm, hid', _⟩ := getOrgRole_some h
  exact List.inj_on_of_nodup_map hk hr hm (hid.trans hid'.symm)

/-- A new link to a role found in the organization that is no platform role keeps the
invariant. -/
lemma NoPlatformLinks.append {db db' : DB} (hk : RoleKeys db) (h : NoPlatformLinks db)
    (links : List MembershipRole) (hr : db'.roles = db.roles)
    (hl : db'.membershipRoles = db.membershipRoles ++ links)
    (hnew : ∀ l ∈ links, ∃ o role, getOrgRole db o l.roleId = some role ∧
      ¬ Memberships.PlatformRole role) : NoPlatformLinks db' := by
  intro l hmem role hrole hid
  rw [hl] at hmem
  rw [hr] at hrole
  rcases List.mem_append.mp hmem with hold | hin
  · exact h l hold role hrole hid
  · obtain ⟨o, role', hg, hp⟩ := hnew l hin
    rwa [eq_of_getOrgRole hk hg hrole hid]

/-- **One step**: a tenant's operation that lists no platform role keeps the invariant. -/
theorem noPlatformLinks_step {db : DB} {c : Served} (hc : Unprivileged env db c)
    (hk : RoleKeys db) (h : NoPlatformLinks db) :
    RoleKeys (c.step env db) ∧ NoPlatformLinks (c.step env db) := by
  unfold Served.step IamOp.step
  cases hs : c.op.serve env c.clk c.ctx db with
  | error e => exact ⟨hk, h⟩
  | ok db' =>
    obtain ⟨clk, ctx, op⟩ := c
    obtain ⟨-, hop, hno⟩ := hc
    simp only at hs hop
    cases hop with
    | create data draw =>
      cases serve_effect hs with
      | membershipCreated o hcre =>
        -- The links of a new membership point to roles that were found.
        refine ⟨hk, h.append hk (newLinks ctx (draw 0) draw 1 data.roleIds) rfl rfl ?_⟩
        intro l hl
        have hin := (mem_newLinks hl).2
        obtain ⟨role, hg⟩ := Option.isSome_iff_exists.mp (hcre.roles _ hin)
        exact ⟨o, role, hg, fun hp => hno ⟨data, draw, o, rfl, hcre, _, hin, role, hg, hp⟩⟩
    | update id data =>
      cases serve_effect hs with
      | membershipUpdated m _ _ _ => exact ⟨hk, h⟩
    | grant id data linkId =>
      cases serve_effect hs with
      | roleGranted m role link row _ hg hp hid =>
        refine ⟨hk, h.append hk [link] rfl rfl ?_⟩
        intro l hl
        obtain rfl := List.mem_singleton.mp hl
        exact ⟨m.organizationId, role, by rw [hid, (getOrgRole_some hg).2.1, hg], hp⟩
    | revoke id roleId =>
      cases serve_effect hs with
      | roleRevoked m link row _ =>
        exact ⟨hk, fun l hl => h l (List.mem_of_mem_filter hl)⟩

/-- **Platform roles stay unlinked**: along every run of tenants' operations none of which
creates a membership with a platform role, no link to a platform role appears. -/
theorem platformRoles_unlinked {db : DB} {l : List Served} (hk : RoleKeys db)
    (h : NoPlatformLinks db) (hl : Runs.Along (Served.step env) (Unprivileged env) db l) :
    NoPlatformLinks (Runs.run (Served.step env) db l) :=
  (Runs.invariant (I := fun db => RoleKeys db ∧ NoPlatformLinks db)
    (fun _ _ hc hi => noPlatformLinks_step hc hi.1 hi.2) hl ⟨hk, h⟩).2

/-! ### An administrator of one organization who asks for the platform role -/

/-- The system role of the platform level, a tenant role, and two users. -/
def platformRoleInReach : DB := { DB.empty with
  users := [User.new 1 (some "a@b.c") none none .active none,
    User.new 2 (some "d@e.f") none none .active none]
  roles := [{ Role.new 5 none "SUPER_ADMIN" "Super Administrator" none .platform .platform none with
      isSystem := true },
    Role.new 6 (some 101) "CLERK" "Clerk" none .school .school none] }

/-- The context of user 1 in organization 101. -/
def tenantCtx : RequestContext :=
  { systemCtx (some "127.0.0.1") with userId := some 1, organizationId := some 101 }

def createWithRole (roleId : Ulid) : Served where
  clk := ⟨0, 0⟩
  ctx := tenantCtx
  op := .createMembership (.undated 2 none [roleId] (by simp)) fun n => Ulid.ofNat (n + 40)

/-- With the tenant's own role the run keeps clear of the platform role. -/
theorem createWithRole_unlinked :
    NoPlatformLinks (Runs.run (Served.step .plain) platformRoleInReach [createWithRole 6]) := by
  refine platformRoles_unlinked (by unfold RoleKeys; decide) (by decide)
    ⟨⟨rfl, .create _ _, ?_⟩, trivial⟩
  rintro ⟨data, draw, o, hop, hcre, r, hr, role, hg, hp⟩
  obtain ⟨rfl, rfl⟩ := IamOp.createMembership.inj hop
  obtain rfl : 6 = r := by simpa [MembershipCreate.undated, eq_comm] using hr
  obtain rfl : 101 = o := by simpa [createWithRole, tenantCtx] using hcre.organization
  have hclerk : getOrgRole platformRoleInReach 101 6 =
      some (Role.new 6 (some 101) "CLERK" "Clerk" none .school .school none) := by decide
  obtain rfl := Option.some.inj (hclerk.symm.trans hg)
  exact absurd hp (by decide)

/-- With the platform role the creation goes through. -/
theorem createWithRole_linked : ¬ ∀ (env : Env) (db : DB) (l : List Served), RoleKeys db →
    NoPlatformLinks db → (∀ c ∈ l, c.ctx.isPlatformAdmin = false ∧ EditsMembership c.op) →
    NoPlatformLinks (Runs.run (Served.step env) db l) := by
  intro h
  have hlinks := h .plain platformRoleInReach [createWithRole 5] (by unfold RoleKeys; decide)
    (by decide) (by
      intro c hc
      obtain rfl := List.mem_singleton.mp hc
      exact ⟨rfl, .create _ _⟩)
  revert hlinks
  decide

end SchoolOs
