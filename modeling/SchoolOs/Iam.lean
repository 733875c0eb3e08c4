import SchoolOs.Users

/-!
The administration routes: each checks one permission, loads the row it acts on under the
caller's tenant, and runs one service in one transaction.
-/

namespace SchoolOs

/-- A mutating request of the membership, user or role routes, with the ids and the salt it
draws. -/
inductive IamOp
  | createMembership (data : MembershipCreate) (draw : ℕ → Ulid)
  | updateMembership (membershipId : Ulid) (data : MembershipUpdate)
  | endMembership (membershipId : Ulid) (version : ℕ)
  | grantRole (membershipId : Ulid) (data : RoleGrantCreate) (linkId : Ulid)
  | revokeRole (membershipId roleId : Ulid)
  | createUser (data : UserCreate) (userId membershipId : Ulid) (salt : ℕ)
  | updateUser (userId : Ulid) (data : UserUpdate)
  | deleteUser (userId : Ulid) (version : ℕ)
  | togglePlatformAdmin (userId : Ulid) (data : PlatformAdminToggle)
  | createRole (data : RoleCreate) (roleId : Ulid) (draw : ℕ → Ulid)
  | updateRole (roleId : Ulid) (data : RoleUpdate) (draw : ℕ → Ulid)
  | deleteRole (roleId : Ulid) (version : ℕ)

/-- The permission the route of the request is guarded with. -/
def IamOp.permission : IamOp → Permission
  | .createMembership .. => pMembershipCreate
  | .updateMembership .. => pMembershipUpdate
  | .endMembership .. => pMembershipDelete
  | .grantRole .. => pMembershipGrantRole
  | .revokeRole .. => pMembershipRevokeRole
  | .createUser .. => pUserCreate
  | .updateUser .. => pUserUpdate
  | .deleteUser .. => pUserDelete
  | .togglePlatformAdmin .. => pUserTogglePlatformAdmin
  | .createRole .. => pRoleCreate
  | .updateRole .. => pRoleUpdate
  | .deleteRole .. => pRoleDelete

section Routes

variable (env : Env) (clk : Clock) (ctx : RequestContext) (db : DB)

/-- The body of the route, under the context its guard returned. -/
def IamOp.serve : IamOp → Fallible DB
  | .createMembership data draw => do
    let r ← Memberships.create env ctx db data draw
    return r.2
  | .updateMembership membershipId data => do
    let membership ← Memberships.getOwned ctx db membershipId
    let r ← Memberships.update env ctx db membership data
    return r.2
  | .endMembership membershipId version => do
    let membership ← Memberships.getOwned ctx db membershipId
    let r ← Memberships.endMembership env clk ctx db membership version
    return r.2
  | .grantRole membershipId data linkId => do
    let membership ← Memberships.getOwned ctx db membershipId
    let r ← Memberships.grantRole env ctx db membership data linkId
    return r.2
  | .revokeRole membershipId roleId => do
    let membership ← Memberships.getOwned ctx db membershipId
    let r ← Memberships.revokeRole env ctx db membership roleId
    return r.2
  | .createUser data userId membershipId salt => do
    let r ← Users.create env clk ctx db data userId membershipId salt
    return r.2
  | .updateUser userId data => do
    let user ← Users.getOwned ctx db userId
    let r ← Users.update env ctx db user data
    return r.2
  | .deleteUser userId version => do
    let user ← Users.getOwned ctx db userId
    let r ← Users.delete env clk ctx db user version
    return r.2
  | .togglePlatformAdmin userId data => do
    let user ← Users.getOwned ctx db userId
    let r ← Users.togglePlatformAdmin env ctx db user data
    return r.2
  | .createRole data roleId draw => do
    let r ← Roles.create env ctx db data roleId draw
    return r.2
  | .updateRole roleId data draw => do
    let role ← Roles.getOwned ctx db roleId
    let r ← Roles.update env ctx db role data draw
    return r.2
  | .deleteRole roleId version => do
    let role ← Roles.getOwned ctx db roleId
    let r ← Roles.delete env clk ctx db role version
    return r.2

end Routes

/-- A request as it arrives: when, with which row order, with which headers. -/
structure IamCall where
  clk : Clock
  ord : RowOrder
  http : HttpRequest
  op : IamOp

/-- The request, guard first. -/
def IamCall.handle (env : Env) (db : DB) (call : IamCall) : Fallible DB := do
  let ctx ← require db call.ord call.clk call.op.permission none call.http
  call.op.serve env call.clk ctx db

/-- The committed state after the request: a request that fails is rolled back. -/
def IamCall.step (env : Env) (db : DB) (call : IamCall) : DB :=
  match call.handle env db with
  | .ok db' => db'
  | .error _ => db

/-- The state after a body run under a context, rolled back when it fails. -/
def IamOp.step (env : Env) (clk : Clock) (ctx : RequestContext) (db : DB) (op : IamOp) : DB :=
  match op.serve env clk ctx db with
  | .ok db' => db'
  | .error _ => db

/-- A request changes nothing, or does what its body does under the context of its actor. -/
lemma IamCall.step_cases (env : Env) (db : DB) (call : IamCall) :
    call.step env db = db ∨ ∃ ctx db',
      require db call.ord call.clk call.op.permission none call.http = .ok ctx ∧
        call.op.serve env call.clk ctx db = .ok db' ∧ call.step env db = db' := by
  unfold IamCall.step
  cases h : call.handle env db with
  | error e => exact .inl rfl
  | ok db' =>
    obtain ⟨ctx, hctx, hs⟩ := bind_ok.mp h
    exact .inr ⟨ctx, db', hctx, hs, rfl⟩

/-! ### What a request does when it goes through -/

section Effects

variable {env : Env} {clk : Clock} {ctx : RequestContext} {db : DB}

/-- What the body of a route does: the row it loaded, the checks it passed, the state it
leaves. -/
inductive IamEffect (env : Env) (clk : Clock) (ctx : RequestContext) (db : DB) :
    IamOp → DB → Prop
  | membershipCreated {data : MembershipCreate} {draw : ℕ → Ulid} (o : Ulid) :
      Memberships.Creatable env ctx db data draw o →
      IamEffect env clk ctx db (.createMembership data draw)
        (Memberships.created ctx db data draw o)
  | membershipUpdated {id : Ulid} {data : MembershipUpdate} (m : Membership) :
      Memberships.getOwned ctx db id = .ok m → m.version = data.version →
      Memberships.Savable env ctx "MEMBERSHIP_UPDATED" m
        { Memberships.applyUpdate data m with updatedById := ctx.userId } →
      IamEffect env clk ctx db (.updateMembership id data)
        (Memberships.saved ctx db "MEMBERSHIP_UPDATED" m
          { Memberships.applyUpdate data m with updatedById := ctx.userId })
  | membershipEnded {id : Ulid} {version : ℕ} (m : Membership) :
      Memberships.getOwned ctx db id = .ok m → m.version = version →
      Memberships.Savable env ctx "MEMBERSHIP_ENDED" m
        { m with status := .ended, endDate := some clk.today, updatedById := ctx.userId } →
      IamEffect env clk ctx db (.endMembership id version)
        (Memberships.saved ctx db "MEMBERSHIP_ENDED" m
          { m with status := .ended, endDate := some clk.today, updatedById := ctx.userId })
  | roleGranted {id : Ulid} {data : RoleGrantCreate} {linkId : Ulid} (m : Membership)
      (role : Role) (link : MembershipRole) (row : AuditLog) :
      Memberships.getOwned ctx db id = .ok m →
      getOrgRole db m.organizationId data.roleId = some role → ¬ Memberships.PlatformRole role →
      link.roleId = role.id →
      IamEffect env clk ctx db (.grantRole id data linkId)
        ({ db with membershipRoles := db.membershipRoles ++ [link] }.log row)
  | roleRevoked {id roleId : Ulid} (m : Membership) (link : MembershipRole) (row : AuditLog) :
      Memberships.getOwned ctx db id = .ok m →
      IamEffect env clk ctx db (.revokeRole id roleId)
        ({ db with membershipRoles := db.membershipRoles.filter (·.id ≠ link.id) }.log row)
  | userCreated {data : UserCreate} {userId membershipId : Ulid} {salt : ℕ} (o : Ulid) :
      Users.Creatable env clk ctx db data userId membershipId salt o →
      IamEffect env clk ctx db (.createUser data userId membershipId salt)
        (Users.created env clk ctx db data userId membershipId salt o)
  | userUpdated {id : Ulid} {data : UserUpdate} (u : User) (entry : AuditEntry) (r : User × DB) :
      Users.getOwned ctx db id = .ok u → u.version = data.version →
      Users.save env ctx db entry u
        { Users.applyUpdate data u with updatedById := ctx.userId } = .ok r →
      IamEffect env clk ctx db (.updateUser id data) r.2
  | userDeleted {id : Ulid} {version : ℕ} (u : User) (entry : AuditEntry) (r : User × DB) :
      Users.getOwned ctx db id = .ok u → u.version = version →
      Users.save env ctx db entry u { u with deletedAt := some clk.now } = .ok r →
      IamEffect env clk ctx db (.deleteUser id version) r.2
  | platformAdminToggled {id : Ulid} {data : PlatformAdminToggle} (u : User) (r : User × DB) :
      Users.getOwned ctx db id = .ok u → Users.togglePlatformAdmin env ctx db u data = .ok r →
      IamEffect env clk ctx db (.togglePlatformAdmin id data) r.2
  | roleCreated {data : RoleCreate} {roleId : Ulid} {draw : ℕ → Ulid} {db' : DB} :
      Roles.Frame db db' → IamEffect env clk ctx db (.createRole data roleId draw) db'
  | roleUpdated {id : Ulid} {data : RoleUpdate} {draw : ℕ → Ulid} {db' : DB} :
      Roles.Frame db db' → IamEffect env clk ctx db (.updateRole id data draw) db'
  | roleDeleted {id : Ulid} {version : ℕ} {db' : DB} :
      Roles.Frame db db' → IamEffect env clk ctx db (.deleteRole id version) db'

lemma ok_of_service {α : Type} {service : Fallible (α × DB)} {db' : DB}
    (h : (do let r ← service; return r.2 : Fallible DB) = .ok db') :
    ∃ r, service = .ok r ∧ r.2 = db' := by
  obtain ⟨r, hr, he⟩ := bind_ok.mp h
  exact ⟨r, hr, pure_ok.mp he⟩

theorem serve_effect {op : IamOp} {db' : DB} (h : op.serve env clk ctx db = .ok db') :
    IamEffect env clk ctx db op db' := by
  cases op with
  | createMembership data draw =>
    obtain ⟨r, hr, rfl⟩ := ok_of_service h
    obtain ⟨o, hc, rfl⟩ := Memberships.create_ok.mp hr
    exact .membershipCreated o hc
  | updateMembership id data =>
    obtain ⟨m, hm, h⟩ := bind_ok.mp h
    obtain ⟨r, hr, rfl⟩ := ok_of_service h
    obtain ⟨_, hv, hsave⟩ := bind_ok.mp hr
    obtain ⟨hs, rfl⟩ := Memberships.save_ok.mp hsave
    exact .membershipUpdated m hm (ensure_ok.mp hv) hs
  | endMembership id version =>
    obtain ⟨m, hm, h⟩ := bind_ok.mp h
    obtain ⟨r, hr, rfl⟩ := ok_of_service h
    obtain ⟨_, hv, hsave⟩ := bind_ok.mp hr
    obtain ⟨hs, rfl⟩ := Memberships.save_ok.mp hsave
    exact .membershipEnded m hm (ensure_ok.mp hv) hs
  | grantRole id data linkId =>
    -- A grant is of a role that is found, and not a platform one.
    obtain ⟨m, hm, h⟩ := bind_ok.mp h
    obtain ⟨r, hr, rfl⟩ := ok_of_service h
    obtain ⟨role, row, hg, hp, hid, hdb⟩ := Memberships.grantRole_ok hr
    rw [hdb]
    exact .roleGranted m role r.1 row hm hg hp hid
  | revokeRole id roleId =>
    obtain ⟨m, hm, h⟩ := bind_ok.mp h
    obtain ⟨r, hr, rfl⟩ := ok_of_service h
    obtain ⟨row, hdb⟩ := Memberships.revokeRole_ok hr
    rw [hdb]
    exact .roleRevoked m r.1 row hm
  | createUser data userId membershipId salt =>
    obtain ⟨r, hr, rfl⟩ := ok_of_service h
    obtain ⟨o, hc, rfl⟩ := Users.create_ok.mp hr
    exact .userCreated o hc
  | updateUser id data =>
    obtain ⟨u, hu, h⟩ := bind_ok.mp h
    obtain ⟨r, hr, rfl⟩ := ok_of_service h
    simp only [Users.update, bind_ok, ensure_ok] at hr
    obtain ⟨_, hv, _, _, _, _, hsave⟩ := hr
    exact .userUpdated u _ r hu hv hsave
  | deleteUser id version =>
    obtain ⟨u, hu, h⟩ := bind_ok.mp h
    obtain ⟨r, hr, rfl⟩ := ok_of_service h
    simp only [Users.delete, bind_ok, ensure_ok] at hr
    obtain ⟨_, hv, hsave⟩ := hr
    exact .userDeleted u _ r hu hv hsave
  | togglePlatformAdmin id data =>
    obtain ⟨u, hu, h⟩ := bind_ok.mp h
    obtain ⟨r, hr, rfl⟩ := ok_of_service h
    exact .platformAdminToggled u r hu hr
  | createRole data roleId draw =>
    obtain ⟨r, hr, rfl⟩ := ok_of_service h
    exact .roleCreated (Roles.create_frame hr)
  | updateRole id data draw =>
    obtain ⟨role, _, h⟩ := bind_ok.mp h
    obtain ⟨r, hr, rfl⟩ := ok_of_service h
    exact .roleUpdated (Roles.update_frame hr)
  | deleteRole id version =>
    obtain ⟨role, _, h⟩ := bind_ok.mp h
    obtain ⟨r, hr, rfl⟩ := ok_of_service h
    exact .roleDeleted (Roles.delete_frame hr)

end Effects

end SchoolOs
