import SchoolOs.AggregateVersions
import SchoolOs.Reconciling

/-!
The permissions of a role, as a request lists them. Creating a role links it to the listed codes;
an update reconciles its links with the list; what is refused leaves role and links alone.
-/

namespace SchoolOs

open Reconciling

variable {env : Env} {clk : Clock} {ctx : RequestContext} {db db' : DB} {roleId : Ulid}
  {rows : List PermissionRow} {codes : List String} {draw : ℕ → Ulid}

/-! ### Stored roles and their links -/

/-- The keys of the tables: ids of roles, ids and codes of permissions, one link for a role and a
permission, and links between rows that are there. -/
structure RolesStored (db : DB) : Prop where
  roles : RoleKeys db
  ids : (db.permissions.map PermissionRow.id).Nodup
  codes : (db.permissions.map PermissionRow.code).Nodup
  pairs : (db.rolePermissions.map fun l => (l.roleId, l.permissionId)).Nodup
  owned : ∀ l ∈ db.rolePermissions, l.roleId ∈ db.roles.map Role.id
  known : ∀ l ∈ db.rolePermissions, l.permissionId ∈ db.permissions.map PermissionRow.id

/-- The codes the role is linked to. -/
def linkedCodes (db : DB) (roleId : Ulid) : List String := (linkCodes db roleId).map Prod.snd

/-- The role is linked to exactly the codes, to each of them once, and to nothing else. -/
structure LinkedTo (db : DB) (roleId : Ulid) (codes : List String) : Prop where
  exact : ∀ c, c ∈ linkedCodes db roleId ↔ c ∈ codes
  once : (linkedCodes db roleId).Nodup
  all : (linkedCodes db roleId).length = (db.linksOf roleId).length

/-- The links of the other roles are as they were. -/
def OthersKept (db db' : DB) (roleId : Ulid) : Prop :=
  db'.rolePermissions.filter (·.roleId ≠ roleId) = db.rolePermissions.filter (·.roleId ≠ roleId)

/-- The code of the permission of a link. -/
def codeOf (permissions : List PermissionRow) (l : RolePermission) : Option String :=
  (Tables.get PermissionRow.id l.permissionId permissions).map PermissionRow.code

lemma linkedCodes_eq (db : DB) (roleId : Ulid) :
    linkedCodes db roleId = (db.linksOf roleId).filterMap (codeOf db.permissions) := by
  rw [linkedCodes, linkCodes, List.map_filterMap]
  refine List.filterMap_congr fun l _ => ?_
  rw [codeOf, Option.map_map]
  rfl

lemma codeOf_some {permissions : List PermissionRow} {l : RolePermission} {c : String} :
    codeOf permissions l = some c ↔
      ∃ p, Tables.get PermissionRow.id l.permissionId permissions = some p ∧ p.code = c :=
  Option.map_eq_some_iff

lemma RolesStored.link_inj (h : RolesStored db) {l l' : RolePermission} {c : String}
    (hl : l ∈ db.linksOf roleId) (hl' : l' ∈ db.linksOf roleId)
    (hc : codeOf db.permissions l = some c) (hc' : codeOf db.permissions l' = some c) : l = l' := by
  obtain ⟨hmem, hrole⟩ := List.mem_filter.mp hl
  obtain ⟨hmem', hrole'⟩ := List.mem_filter.mp hl'
  obtain ⟨p, hp, hcode⟩ := codeOf_some.mp hc
  obtain ⟨p', hp', hcode'⟩ := codeOf_some.mp hc'
  obtain rfl : p = p' := List.inj_on_of_nodup_map h.codes (Tables.get_mem hp).1
    (Tables.get_mem hp').1 (hcode.trans hcode'.symm)
  have hid : l.permissionId = l'.permissionId :=
    (Tables.get_mem hp).2.symm.trans (Tables.get_mem hp').2
  have hroles : l.roleId = l'.roleId :=
    (of_decide_eq_true hrole).trans (of_decide_eq_true hrole').symm
  exact List.inj_on_of_nodup_map h.pairs hmem hmem' (Prod.ext hroles hid)

lemma RolesStored.nodup_linkedCodes (h : RolesStored db) (roleId : Ulid) :
    (linkedCodes db roleId).Nodup := by
  rw [linkedCodes_eq]
  have hlinks : (db.linksOf roleId).Nodup := (List.Nodup.of_map _ h.pairs).filter _
  refine List.pairwise_filterMap.mpr (hlinks.imp_of_mem fun hl hl' hne c hc c' hc' he => ?_)
  exact hne (h.link_inj hl hl' hc (he ▸ hc'))

lemma length_linkedCodes (h : RolesStored db) (roleId : Ulid) :
    (linkedCodes db roleId).length = (db.linksOf roleId).length := by
  rw [linkedCodes_eq, List.length_filterMap_eq_countP, List.countP_eq_length]
  intro l hl
  obtain ⟨p, hp, hid⟩ := List.mem_map.mp (h.known l (List.mem_filter.mp hl).1)
  have hget : Tables.get PermissionRow.id l.permissionId db.permissions = some p :=
    hid ▸ Tables.get_of_mem h.ids hp
  rw [codeOf, hget]
  rfl

/-- What a role is linked to does not change with the links of another role. -/
lemma LinkedTo.of_others {k : Ulid} (h : LinkedTo db k codes) (hne : k ≠ roleId)
    (hpermissions : db'.permissions = db.permissions) (hothers : OthersKept db db' roleId) :
    LinkedTo db' k codes := by
  have hown : ∀ db : DB, db.linksOf k = (db.rolePermissions.filter (·.roleId ≠ roleId)).filter
      (·.roleId = k) := by
    intro db
    rw [DB.linksOf, List.filter_filter]
    refine List.filter_congr fun l _ => ?_
    by_cases hk : l.roleId = k
    · simp [hk, hne]
    · simp [hk]
  have hlinks : db'.linksOf k = db.linksOf k := by
    rw [hown, hown, hothers]
  have hlinked : linkedCodes db' k = linkedCodes db k := by
    rw [linkedCodes_eq, linkedCodes_eq, hlinks, hpermissions]
  exact ⟨hlinked ▸ h.exact, hlinked ▸ h.once, hlinked ▸ hlinks ▸ h.all⟩

/-! ### New links -/

lemma mem_linksTo {l : RolePermission} (h : l ∈ linksTo roleId draw rows) :
    l.roleId = roleId ∧ ∃ p ∈ rows, l.permissionId = p.id := by
  obtain ⟨⟨p, n⟩, hp, rfl⟩ := List.mem_map.mp h
  exact ⟨rfl, p, List.fst_mem_of_mem_zipIdx hp, rfl⟩

lemma codes_linksTo (hids : (db.permissions.map PermissionRow.id).Nodup)
    (hrows : ∀ p ∈ rows, p ∈ db.permissions) :
    (linksTo roleId draw rows).filterMap (codeOf db.permissions) =
      rows.map PermissionRow.code := by
  have hcode : ∀ pn ∈ rows.zipIdx, codeOf db.permissions ⟨draw pn.2, roleId, pn.1.id, none⟩ =
      some pn.1.code := by
    intro pn hpn
    rw [codeOf, Tables.get_of_mem hids (hrows _ (List.fst_mem_of_mem_zipIdx hpn))]
    rfl
  calc (linksTo roleId draw rows).filterMap (codeOf db.permissions)
      = rows.zipIdx.filterMap fun pn => some pn.1.code := by
        rw [linksTo, List.filterMap_map]
        exact List.filterMap_congr hcode
    _ = (rows.zipIdx.map Prod.fst).map PermissionRow.code := by
        rw [List.map_map, ← List.filterMap_eq_map]
        rfl
    _ = rows.map PermissionRow.code := by rw [List.zipIdx_map_fst]

lemma fetchPermissions_rows (h : fetchPermissions db codes = .ok rows) :
    rows = db.permissions.filter (·.code ∈ codes) := by
  obtain ⟨-, -, h⟩ := bind_ok.mp h
  obtain ⟨_, -, h⟩ := bind_ok.mp h
  exact (pure_ok.mp h).symm

lemma fetchPermissions_unknown {c : String} (hc : c ∈ codes)
    (hunknown : c ∉ db.permissions.map PermissionRow.code) :
    ∃ e, fetchPermissions db codes = .error e := by
  cases h : fetchPermissions db codes with
  | error e => exact ⟨e, rfl⟩
  | ok rows =>
    have hmem := (Roles.fetchPermissions_ok h c).mpr hc
    rw [fetchPermissions_rows h] at hmem
    exact absurd (List.Sublist.subset (List.filter_sublist.map _) hmem) hunknown

/-! ### What an operation leaves -/

lemma RolesStored.relinked (h : RolesStored db) {kept : List RolePermission}
    (hkept : kept.Sublist db.rolePermissions) (hrows : ∀ p ∈ rows, p ∈ db.permissions)
    (hinsert : PermissionLinksInsert (linksTo roleId draw rows) kept)
    (hpermissions : db'.permissions = db.permissions) (hkeys : RoleKeys db')
    (hroles : ∀ k ∈ db.roles.map Role.id, k ∈ db'.roles.map Role.id)
    (hrole : roleId ∈ db'.roles.map Role.id)
    (hlinks : db'.rolePermissions = kept ++ linksTo roleId draw rows) : RolesStored db' where
  roles := hkeys
  ids := hpermissions ▸ h.ids
  codes := hpermissions ▸ h.codes
  pairs := by
    rw [hlinks, List.map_append]
    refine (h.pairs.sublist (hkept.map _)).append hinsert.2.1 ?_
    -- A new link has a pair that no link had.
    intro pair hold hnew
    obtain ⟨l, hl, rfl⟩ := List.mem_map.mp hold
    obtain ⟨l', hl', he⟩ := List.mem_map.mp hnew
    exact hinsert.2.2 l' hl' l hl he.symm
  owned := by
    intro l hl
    rw [hlinks] at hl
    rcases List.mem_append.mp hl with hold | hnew
    · exact hroles _ (h.owned l (hkept.subset hold))
    · exact (mem_linksTo hnew).1 ▸ hrole
  known := by
    intro l hl
    rw [hlinks] at hl
    rw [hpermissions]
    rcases List.mem_append.mp hl with hold | hnew
    · exact h.known l (hkept.subset hold)
    · obtain ⟨p, hp, hid⟩ := (mem_linksTo hnew).2
      exact hid ▸ List.mem_map_of_mem (hrows p hp)

lemma othersKept_relinked {kept : List RolePermission}
    (hkept : kept.filter (·.roleId ≠ roleId) = db.rolePermissions.filter (·.roleId ≠ roleId))
    (hlinks : db'.rolePermissions = kept ++ linksTo roleId draw rows) :
    OthersKept db db' roleId := by
  have hnone : (linksTo roleId draw rows).filter (·.roleId ≠ roleId) = [] := by
    refine List.filter_eq_nil_iff.mpr fun l hl hne => ?_
    exact of_decide_eq_true hne (mem_linksTo hl).1
  rw [OthersKept, hlinks, List.filter_append, hnone, List.append_nil, hkept]

/-- The codes of the role afterwards: those of the links that are kept, and the new ones. -/
lemma linkedCodes_relinked (hids : (db.permissions.map PermissionRow.id).Nodup)
    {kept : List RolePermission} (hrows : ∀ p ∈ rows, p ∈ db.permissions)
    (hpermissions : db'.permissions = db.permissions)
    (hlinks : db'.rolePermissions = kept ++ linksTo roleId draw rows) :
    linkedCodes db' roleId =
      (kept.filter (·.roleId = roleId)).filterMap (codeOf db.permissions) ++
        rows.map PermissionRow.code := by
  have hown : (linksTo roleId draw rows).filter (·.roleId = roleId) = linksTo roleId draw rows :=
    List.filter_eq_self.mpr fun l hl => decide_eq_true (mem_linksTo hl).1
  rw [linkedCodes_eq, DB.linksOf, hlinks, hpermissions, List.filter_append, hown,
    List.filterMap_append, codes_linksTo hids hrows]

lemma RolesStored.linkedTo (h : RolesStored db)
    (hcodes : ∀ c, c ∈ linkedCodes db roleId ↔ c ∈ codes) : LinkedTo db roleId codes :=
  ⟨hcodes, h.nodup_linkedCodes roleId, length_linkedCodes h roleId⟩

namespace Roles

lemma create_ok {data : RoleCreate} {role : Role}
    (h : create env ctx db data roleId draw = .ok (role, db')) :
    ∃ rows, fetchPermissions db data.permissionCodes = .ok rows ∧
      Tables.Inserts Role.id [role] db.roles ∧ role.id = roleId ∧
      PermissionLinksInsert (linksTo roleId draw rows) db.rolePermissions ∧
      db'.roles = db.roles ++ [role] ∧ db'.permissions = db.permissions ∧
      db'.rolePermissions = db.rolePermissions ++ linksTo roleId draw rows := by
  simp only [create, bind_ok, ensure_ok, audit_ok, pure_ok, Prod.mk.injEq] at h
  obtain ⟨_, -, _, -, rows, hfetch, _, ⟨-, hrow, -⟩, _, hlinks, _, ⟨-, rfl⟩, rfl, rfl⟩ := h
  exact ⟨rows, hfetch, hrow, rfl, hlinks, rfl, rfl, rfl⟩

/-- **A role that is created** is linked to the codes of the request. -/
theorem create_linked {data : RoleCreate} {role : Role} (h : RolesStored db)
    (hok : create env ctx db data roleId draw = .ok (role, db')) :
    role.id = roleId ∧ RolesStored db' ∧ LinkedTo db' roleId data.permissionCodes ∧
      OthersKept db db' roleId := by
  obtain ⟨rows, hfetch, ⟨-, hfresh⟩, hid, hinsert, hroles, hpermissions, hlinks⟩ := create_ok hok
  have hrows : ∀ p ∈ rows, p ∈ db.permissions := by
    rw [fetchPermissions_rows hfetch]
    exact fun p hp => (List.mem_filter.mp hp).1
  have hnew : role.id ∉ db.roles.map Role.id := by
    intro hmem
    obtain ⟨r, hr, hk⟩ := List.mem_map.mp hmem
    exact hfresh role (List.mem_singleton_self role) r hr hk
  have hids : db'.roles.map Role.id = db.roles.map Role.id ++ [role.id] := by
    rw [hroles, List.map_append]
    rfl
  have hkeys : RoleKeys db' := by
    rw [RoleKeys, hids, List.nodup_append_comm]
    exact List.nodup_cons.mpr ⟨hnew, h.roles⟩
  have hstored : RolesStored db' := by
    refine h.relinked (List.Sublist.refl _) hrows hinsert hpermissions hkeys (fun k hk => ?_) ?_
      hlinks
    · exact hids ▸ List.mem_append_left _ hk
    · exact hids ▸ List.mem_append_right _ (hid ▸ List.mem_singleton_self role.id)
  refine ⟨hid, hstored, hstored.linkedTo fun c => ?_, othersKept_relinked rfl hlinks⟩
  have hnone : db.rolePermissions.filter (·.roleId = roleId) = [] := by
    refine List.filter_eq_nil_iff.mpr fun l hl hl' => hnew ?_
    rw [hid, ← of_decide_eq_true hl']
    exact h.owned l hl
  rw [linkedCodes_relinked h.ids hrows hpermissions hlinks, hnone]
  exact fetchPermissions_ok hfetch c

lemma mem_linkCodes {l : RolePermission} {c : String} : (l, c) ∈ linkCodes db roleId ↔
    l ∈ db.linksOf roleId ∧ codeOf db.permissions l = some c := by
  rw [linkCodes, List.mem_filterMap]
  constructor
  · rintro ⟨l', hl', he⟩
    obtain ⟨p, hp, hpair⟩ := Option.map_eq_some_iff.mp he
    obtain ⟨rfl, rfl⟩ := Prod.mk.inj hpair
    exact ⟨hl', codeOf_some.mpr ⟨p, hp, rfl⟩⟩
  · rintro ⟨hl, hc⟩
    obtain ⟨p, hp, rfl⟩ := codeOf_some.mp hc
    exact ⟨l, hl, Option.map_eq_some_iff.mpr ⟨p, hp, rfl⟩⟩

/-- The links of a role to codes that are not wanted. -/
def staleLinks (db : DB) (roleId : Ulid) (wanted : List String) : List RolePermission :=
  ((linkCodes db roleId).filter fun lc => lc.2 ∉ wanted).map Prod.fst

lemma mem_staleLinks {wanted : List String} {l : RolePermission} : l ∈ staleLinks db roleId wanted ↔
    l ∈ db.linksOf roleId ∧ ∃ c, codeOf db.permissions l = some c ∧ c ∉ wanted := by
  constructor
  · intro h
    obtain ⟨⟨l', c⟩, hlc, rfl⟩ := List.mem_map.mp h
    obtain ⟨hmem, hnot⟩ := List.mem_filter.mp hlc
    obtain ⟨hl, hc⟩ := mem_linkCodes.mp hmem
    exact ⟨hl, c, hc, of_decide_eq_true hnot⟩
  · rintro ⟨hl, c, hc, hnot⟩
    exact List.mem_map.mpr ⟨(l, c), List.mem_filter.mpr
      ⟨mem_linkCodes.mpr ⟨hl, hc⟩, decide_eq_true hnot⟩, rfl⟩

lemma keptCodes (wanted : List String) :
    ((db.rolePermissions.filter (· ∉ staleLinks db roleId wanted)).filter
        (·.roleId = roleId)).filterMap (codeOf db.permissions) =
      (linkedCodes db roleId).filter (· ∈ wanted) := by
  rw [linkedCodes_eq, DB.linksOf, List.filter_filterMap, List.filter_filter, List.filterMap_filter,
    List.filterMap_filter]
  refine List.filterMap_congr fun l hl => ?_
  by_cases hrole : l.roleId = roleId
  · have hmem : l ∈ db.linksOf roleId := List.mem_filter.mpr ⟨hl, decide_eq_true hrole⟩
    cases hc : codeOf db.permissions l with
    | none => simp
    | some c => simp [hrole, mem_staleLinks, hmem, hc, Option.filter_some]
  · simp [hrole]

lemma othersKept_stale (wanted : List String) :
    (db.rolePermissions.filter (· ∉ staleLinks db roleId wanted)).filter (·.roleId ≠ roleId) =
      db.rolePermissions.filter (·.roleId ≠ roleId) := by
  rw [List.filter_filter]
  refine List.filter_congr fun l _ => ?_
  by_cases hrole : l.roleId = roleId
  · simp [hrole]
  · have hnot : l ∉ staleLinks db roleId wanted := fun hl =>
      hrole (of_decide_eq_true (List.mem_filter.mp (mem_staleLinks.mp hl).1).2)
    simp [hrole, hnot]

lemma update_permissions {role r : Role} {data : RoleUpdate}
    (h : update env ctx db role data draw = .ok (r, db')) : db'.permissions = db.permissions := by
  obtain ⟨_, _, _, rfl⟩ := update_frame h
  rfl

/-- **An update reconciles** the links of the role with the codes of the request. -/
theorem update_reconciles {role r : Role} {data : RoleUpdate} (h : RolesStored db)
    (hrole : role ∈ db.roles) (hok : update env ctx db role data draw = .ok (r, db')) :
    RolesStored db' ∧ OthersKept db db' role.id ∧
      (data.permissionCodes = none → db'.rolePermissions = db.rolePermissions) ∧
      ∀ codes ∈ data.permissionCodes, ∃ rows, fetchPermissions db codes = .ok rows ∧
        linkedCodes db' role.id =
          reconciled (linkedCodes db role.id) (rows.map PermissionRow.code) := by
  have hpermissions := update_permissions hok
  obtain ⟨-, hrelink, hroles⟩ := update_ok hok
  have hids : db'.roles.map Role.id = db.roles.map Role.id := by
    rw [hroles]
    exact Tables.map_key_set_row (flushed_col Role.touch Role.id (fun _ => rfl) role
      (edited ctx role data)) db.roles
  have hkeys : RoleKeys db' := by
    rw [RoleKeys, hids]
    exact h.roles
  cases hcodes : data.permissionCodes with
  | none =>
    -- Without codes the links stay.
    rw [hcodes] at hrelink
    have hsame : db'.rolePermissions = db.rolePermissions := (pure_ok.mp hrelink).symm
    refine ⟨⟨hkeys, hpermissions ▸ h.ids, hpermissions ▸ h.codes, hsame ▸ h.pairs, ?_, ?_⟩, ?_,
      fun _ => hsame, fun _ hno => absurd hno (Option.not_mem_none _)⟩
    · rw [hsame, hids]
      exact h.owned
    · rw [hsame, hpermissions]
      exact h.known
    · rw [OthersKept, hsame]
  | some codes =>
    -- With codes the stale links are dropped, and new ones added for the codes without one.
    rw [hcodes] at hrelink
    obtain ⟨rows, hfetch, hrelink⟩ := bind_ok.mp hrelink
    obtain ⟨_, hinsert, hrelink⟩ := bind_ok.mp hrelink
    have hlinks := (pure_ok.mp hrelink).symm
    have hrows : ∀ p ∈ rows.filter (fun p => p.code ∉ (linkCodes db role.id).map Prod.snd),
        p ∈ db.permissions := by
      rw [fetchPermissions_rows hfetch]
      exact fun p hp => (List.mem_filter.mp (List.mem_filter.mp hp).1).1
    refine ⟨h.relinked List.filter_sublist hrows (ensure_ok.mp hinsert) hpermissions hkeys
      (fun k hk => hids ▸ hk) (hids ▸ List.mem_map_of_mem hrole) hlinks,
      othersKept_relinked (othersKept_stale _) hlinks,
      fun hno => absurd hno (Option.some_ne_none _), ?_⟩
    rintro _ ⟨⟩
    refine ⟨rows, hfetch, ?_⟩
    have hnew : (rows.filter fun p => p.code ∉ (linkCodes db role.id).map Prod.snd).map
        PermissionRow.code = (rows.map PermissionRow.code).filter (· ∉ linkedCodes db role.id) := by
      rw [List.filter_map]
      rfl
    rw [linkedCodes_relinked h.ids hrows hpermissions hlinks, hnew]
    exact congrArg (· ++ _) (keptCodes (rows.map PermissionRow.code))

/-! ### What is refused -/

/-- No permission has one of the codes. -/
def UnknownCode (db : DB) (codes : List String) : Prop :=
  ∃ c ∈ codes, c ∉ db.permissions.map PermissionRow.code

/-- The version is another one, the role is a system role, or a code is unknown. -/
def Refused (db : DB) (role : Role) (data : RoleUpdate) : Prop :=
  role.version ≠ data.version ∨ (role.isSystem = true ∧ role.organizationId = none) ∨
    ∃ codes ∈ data.permissionCodes, UnknownCode db codes

lemma fetchPermissions_known (h : fetchPermissions db codes = .ok rows) :
    ¬ UnknownCode db codes := by
  rintro ⟨c, hc, hunknown⟩
  obtain ⟨e, he⟩ := fetchPermissions_unknown hc hunknown
  rw [he] at h
  cases h

lemma create_refused {data : RoleCreate} (h : UnknownCode db data.permissionCodes) :
    ∃ e, create env ctx db data roleId draw = .error e := by
  cases hok : create env ctx db data roleId draw with
  | error e => exact ⟨e, rfl⟩
  | ok r =>
    obtain ⟨rows, hfetch, -⟩ := create_ok hok
    exact absurd h (fetchPermissions_known hfetch)

lemma update_refused {role : Role} {data : RoleUpdate} (h : Refused db role data) :
    ∃ e, update env ctx db role data draw = .error e := by
  cases hok : update env ctx db role data draw with
  | error e => exact ⟨e, rfl⟩
  | ok r =>
    exfalso
    obtain ⟨hversion, hrelink, -⟩ := update_ok hok
    obtain ⟨_, -, hok⟩ := bind_ok.mp hok
    obtain ⟨_, heditable, -⟩ := bind_ok.mp hok
    rcases h with hne | hsystem | ⟨codes, hcodes, hunknown⟩
    · exact hne hversion
    · exact ensure_ok.mp heditable hsystem
    · rw [Option.mem_def.mp hcodes] at hrelink
      obtain ⟨rows, hfetch, -⟩ := bind_ok.mp hrelink
      exact fetchPermissions_known hfetch hunknown

end Roles

/-- The request names an unknown permission, another version than the role's, or a system role. -/
def IamCall.RoleRefused (db : DB) (c : IamCall) : Prop :=
  (∃ data roleId draw, c.op = .createRole data roleId draw ∧
    Roles.UnknownCode db data.permissionCodes) ∨
  ∃ role data draw, role ∈ db.roles ∧ c.op = .updateRole role.id data draw ∧
    Roles.Refused db role data

/-- **What is refused** is answered with an error, and nothing changes. -/
theorem IamCall.refused {c : IamCall} (hkeys : RoleKeys db) (h : c.RoleRefused db) :
    (∃ e, c.handle env db = .error e) ∧ c.step env db = db := by
  have herror : ∃ e, c.handle env db = .error e := by
    cases hok : c.handle env db with
    | error e => exact ⟨e, rfl⟩
    | ok db' =>
      exfalso
      obtain ⟨ctx, -, hserve⟩ := bind_ok.mp hok
      rcases h with ⟨data, roleId, draw, hop, hunknown⟩ | ⟨role, data, draw, hrole, hop, hrefused⟩
      · rw [hop] at hserve
        obtain ⟨r, hcreate, -⟩ := ok_of_service hserve
        obtain ⟨e, he⟩ : ∃ e, Roles.create env ctx db data roleId draw = .error e :=
          Roles.create_refused hunknown
        rw [he] at hcreate
        cases hcreate
      · rw [hop] at hserve
        obtain ⟨owned, howned, hbody⟩ := bind_ok.mp hserve
        obtain ⟨hmem, hid⟩ := Roles.getOwned_ok howned
        obtain rfl : owned = role := List.inj_on_of_nodup_map hkeys hmem hrole hid
        obtain ⟨r, hupdate, -⟩ := ok_of_service hbody
        obtain ⟨e, he⟩ : ∃ e, Roles.update env ctx db owned data draw = .error e :=
          Roles.update_refused hrefused
        rw [he] at hupdate
        cases hupdate
  obtain ⟨e, he⟩ := herror
  exact ⟨⟨e, he⟩, by rw [IamCall.step, he]⟩

/-! ### Any request -/

/-- No request but those on roles touches roles, permissions and links. -/
lemma RolesStored.of_same (h : RolesStored db)
    (hroles : db'.roles.map Role.id = db.roles.map Role.id)
    (hpermissions : db'.permissions = db.permissions)
    (hlinks : db'.rolePermissions = db.rolePermissions) : RolesStored db' where
  roles := by
    rw [RoleKeys, hroles]
    exact h.roles
  ids := hpermissions ▸ h.ids
  codes := hpermissions ▸ h.codes
  pairs := hlinks ▸ h.pairs
  owned := by
    rw [hlinks, hroles]
    exact h.owned
  known := by
    rw [hlinks, hpermissions]
    exact h.known

lemma rolesStored_serve {op : IamOp} (h : RolesStored db)
    (hok : op.serve env clk ctx db = .ok db') : RolesStored db' := by
  cases op with
  | createRole data roleId draw =>
    obtain ⟨⟨role, _⟩, hcreate, rfl⟩ := ok_of_service hok
    exact (Roles.create_linked h hcreate).2.1
  | updateRole k data draw =>
    obtain ⟨role, howned, hok⟩ := bind_ok.mp hok
    obtain ⟨⟨r, _⟩, hupdate, rfl⟩ := ok_of_service hok
    exact (Roles.update_reconciles h (Roles.getOwned_ok howned).1 hupdate).1
  | deleteRole k version =>
    obtain ⟨role, -, hok⟩ := bind_ok.mp hok
    obtain ⟨⟨r, db1⟩, hdelete, rfl⟩ := ok_of_service hok
    obtain ⟨-, -, hdelete⟩ := bind_ok.mp hdelete
    obtain ⟨-, -, hdelete⟩ := bind_ok.mp hdelete
    obtain ⟨db2, haudit, hdelete⟩ := bind_ok.mp hdelete
    obtain rfl : db2 = db1 := (Prod.mk.inj (pure_ok.mp hdelete)).2
    obtain ⟨-, rfl⟩ := audit_ok.mp haudit
    exact h.of_same (Tables.map_key_set_row rfl db.roles) rfl rfl
  | createMembership | updateMembership | endMembership | grantRole | revokeRole | createUser =>
    -- None of these writes roles or links.
    cases serve_effect hok
    exact h.of_same rfl rfl rfl
  | updateUser =>
    cases serve_effect hok with
    | userUpdated u entry r _ _ hsave =>
      obtain ⟨-, -, rfl⟩ := Users.save_ok.mp hsave
      exact h.of_same rfl rfl rfl
  | deleteUser =>
    cases serve_effect hok with
    | userDeleted u entry r _ _ hsave =>
      obtain ⟨-, -, rfl⟩ := Users.save_ok.mp hsave
      exact h.of_same rfl rfl rfl
  | togglePlatformAdmin =>
    cases serve_effect hok with
    | platformAdminToggled u r _ htoggle =>
      obtain ⟨-, -, htoggle⟩ := bind_ok.mp htoggle
      obtain ⟨-, -, htoggle⟩ := bind_ok.mp htoggle
      obtain ⟨-, -, rfl⟩ := Users.save_ok.mp htoggle
      exact h.of_same rfl rfl rfl

lemma rolesStored_step (env : Env) (db : DB) (c : IamCall) (h : RolesStored db) :
    RolesStored (c.step env db) := by
  rcases IamCall.step_cases env db c with he | ⟨ctx, db', -, hserve, he⟩
  · rwa [he]
  · rw [he]
    exact rolesStored_serve h hserve

/-- **Role permissions are set exactly.** A role that is created, or updated with codes, is linked
to the codes and to nothing else, each once; an update without codes leaves all links; the other
roles keep theirs, and a request that is refused leaves everything. -/
theorem role_permissions_exact (env : Env) (db : DB) (h : RolesStored db) :
    (∀ ctx data roleId draw role db',
      Roles.create env ctx db data roleId draw = .ok (role, db') →
      role.id = roleId ∧ LinkedTo db' role.id data.permissionCodes ∧ OthersKept db db' role.id) ∧
    (∀ ctx role data draw r db', role ∈ db.roles →
      Roles.update env ctx db role data draw = .ok (r, db') →
      (∀ codes ∈ data.permissionCodes, LinkedTo db' role.id codes) ∧
      (data.permissionCodes = none → db'.rolePermissions = db.rolePermissions) ∧
      OthersKept db db' role.id) ∧
    (∀ ctx data roleId draw, Roles.UnknownCode db data.permissionCodes →
      ∃ e, Roles.create env ctx db data roleId draw = .error e) ∧
    (∀ ctx role data draw, Roles.Refused db role data →
      ∃ e, Roles.update env ctx db role data draw = .error e) ∧
    (∀ c : IamCall, c.RoleRefused db → (∃ e, c.handle env db = .error e) ∧ c.step env db = db) ∧
    ∀ c : IamCall, RolesStored (c.step env db) := by
  refine ⟨?_, ?_, fun _ _ _ _ => Roles.create_refused, fun _ _ _ _ => Roles.update_refused,
    fun c => IamCall.refused h.roles, fun c => rolesStored_step env db c h⟩
  · intro ctx data roleId draw role db' hok
    obtain ⟨rfl, -, hlinked, hothers⟩ := Roles.create_linked h hok
    exact ⟨rfl, hlinked, hothers⟩
  · intro ctx role data draw r db' hrole hok
    obtain ⟨hstored, hothers, hnone, hcodes⟩ := Roles.update_reconciles h hrole hok
    refine ⟨fun codes hmem => hstored.linkedTo fun c => ?_, hnone, hothers⟩
    obtain ⟨rows, hfetch, hreconciled⟩ := hcodes codes hmem
    rw [hreconciled, mem_reconciled]
    exact Roles.fetchPermissions_ok hfetch c

/-- The clerks may edit roles. -/
def editingClerks : DB := { clerks with
  rolePermissions := clerks.rolePermissions ++ [⟨72, 7, 61, none⟩] }

lemma memberships_length : ∀ l ∈ some [pMembershipCreate.code, pMembershipCreate.code],
    l.length ≤ 200 := by decide

lemma no_role_name : ∀ n ∈ (none : Option String), 1 ≤ n.length ∧ n.length ≤ 120 := by simp

lemma no_role_description : ∀ d ∈ (none : Option String), d.length ≤ 400 := by simp

/-- They are to create memberships instead, the permission being listed twice. -/
def membershipsOnly : RoleUpdate where
  name := none
  description := none
  dataScope := none
  permissionCodes := some [pMembershipCreate.code, pMembershipCreate.code]
  version := 1
  name_length := no_role_name
  description_length := no_role_description
  permissionCodes_length := memberships_length
  one_le_version := one_le_first

lemma editingClerks_stored : RolesStored editingClerks where
  roles := by unfold RoleKeys; decide
  ids := by decide
  codes := by decide
  pairs := by decide
  owned := by decide
  known := by decide

/-- They are linked to the one permission then. -/
theorem role_permissions_exact_clerks :
    (Roles.update .plain staff editingClerks (Role.new 7 (some 101) "CLERK" "Clerk" none .school
      .school none) membershipsOnly fun n => .ofNat (73 + n)).toBool = true ∧
    ∀ r db', Roles.update .plain staff editingClerks (Role.new 7 (some 101) "CLERK" "Clerk" none
      .school .school none) membershipsOnly (fun n => .ofNat (73 + n)) = .ok (r, db') →
      LinkedTo db' 7 [pMembershipCreate.code, pMembershipCreate.code] := by
  refine ⟨by decide +kernel, fun r db' hok => ?_⟩
  exact ((role_permissions_exact .plain editingClerks editingClerks_stored).2.1 staff _ _ _ r db'
    (by decide) hok).1 _ rfl

end SchoolOs
