import SchoolOs.PermissionSync

/-!
`sync_roles` on its own: where every code of the catalogue has a row, each entry gets its role with
exactly its links, what belongs to tenants is left alone, and a second run does nothing.
-/

namespace SchoolOs

variable {d : RoleDefinition} {catalog : List RoleDefinition} {draw : ℕ → Ulid}
  {draws : ℕ → ℕ → Ulid} {db db' : CatalogDB} {role : StoredRole} {roles : List StoredRole}

namespace SyncRoles

/-! ### The role of an entry -/

/-- The columns of a role that the script does not write again. -/
def columns (r : StoredRole) : Ulid × Option Ulid × String × Option Instant :=
  (r.id, r.organizationId, r.code, r.deletedAt)

/-- The role of the code, as the scripts look for it. -/
def IsSystem (r : StoredRole) (code : String) : Prop :=
  r.code = code ∧ r.organizationId = none ∧ r.deletedAt = none

/-- No role of the entry is deleted softly: its key would still be taken. -/
def Undeleted (db : CatalogDB) (d : RoleDefinition) : Prop :=
  ∀ r ∈ db.roles, r.organizationId = none → r.code = d.code → r.deletedAt = none

/-- The role and the roles after the entry is written. -/
structure Written (db : CatalogDB) (d : RoleDefinition) (k : Ulid) (role : StoredRole)
    (roles : List StoredRole) : Prop where
  mem : role ∈ roles
  system : IsSystem role d.code
  applied : applyDefinition d role = role
  same : roles.map columns = db.roles.map columns ∨
    (role.id = k ∧ (∀ r ∈ db.roles, ¬ (r.organizationId = none ∧ r.code = d.code)) ∧
      roles.map columns = db.roles.map columns ++ [columns role])
  kept : ∀ r ∈ db.roles, r.code ≠ d.code → r ∈ roles

lemma systemRole_some {code : String} (h : systemRole db code = some role) :
    role ∈ db.roles ∧ IsSystem role code :=
  ⟨List.mem_of_find?_eq_some h, by simpa [IsSystem] using List.find?_some h⟩

lemma systemRole_of_mem (hkeys : (db.roles.map fun r => (r.organizationId, r.code)).Nodup)
    (hrole : role ∈ db.roles) {code : String} (h : IsSystem role code) :
    systemRole db code = some role := by
  have hsome : (systemRole db code).isSome :=
    List.find?_isSome.mpr ⟨role, hrole, by simpa [IsSystem] using h⟩
  obtain ⟨found, hfound⟩ := Option.isSome_iff_exists.mp hsome
  obtain ⟨hmem, hcode, horg, -⟩ := systemRole_some hfound
  have hsame : found = role := List.inj_on_of_nodup_map hkeys hmem hrole
    (Prod.ext (horg.trans h.2.1.symm) (hcode.trans h.1.symm))
  rw [hfound, hsame]

lemma applyDefinition_twice (d : RoleDefinition) (r : StoredRole) :
    applyDefinition d (flushed StoredRole.touch r (applyDefinition d r)) =
      flushed StoredRole.touch r (applyDefinition d r) := by
  unfold flushed
  split
  · next h => exact h
  · rfl

lemma columns_flushed (d : RoleDefinition) (r : StoredRole) :
    columns (flushed StoredRole.touch r (applyDefinition d r)) = columns r :=
  flushed_col StoredRole.touch columns (fun _ => rfl) r (applyDefinition d r)

lemma writeRole_ok {k : Ulid} (hkeys : (db.roles.map fun r => r.id).Nodup)
    (hundeleted : Undeleted db d) (hk : k ∉ db.roles.map fun r => r.id) :
    ∃ role roles, writeRole db d k = .ok (role, roles) ∧ Written db d k role roles := by
  unfold writeRole
  cases hfind : systemRole db d.code with
  | none =>
    -- The role is inserted.
    have hnone : ∀ r ∈ db.roles, ¬ (r.organizationId = none ∧ r.code = d.code) := by
      rintro r hr ⟨horg, hcode⟩
      have hnot := List.find?_eq_none.mp hfind r hr
      exact hnot (decide_eq_true ⟨hcode, horg, hundeleted r hr horg hcode⟩)
    have hinserts : Tables.Inserts (fun r : StoredRole => r.id) [newRole d k] db.roles ∧
        Tables.Inserts (fun r : StoredRole => (r.organizationId, r.code)) [newRole d k]
          db.roles := by
      refine ⟨⟨List.nodup_singleton _, ?_⟩, List.nodup_singleton _, ?_⟩
      · intro new hnew r hr he
        obtain rfl := List.mem_singleton.mp hnew
        exact hk (List.mem_map.mpr ⟨r, hr, he⟩)
      · intro new hnew r hr he
        obtain rfl := List.mem_singleton.mp hnew
        exact hnone r hr (Prod.mk.inj he)
    refine ⟨newRole d k, db.roles ++ [newRole d k], ?_, ?_⟩
    · exact bind_ok.mpr ⟨(), demand_ok.mpr hinserts, rfl⟩
    · exact ⟨List.mem_append_right _ (List.mem_singleton_self _), ⟨rfl, rfl, rfl⟩, rfl,
        .inr ⟨rfl, hnone, List.map_append⟩, fun r hr _ => List.mem_append_left _ hr⟩
  | some old =>
    -- The role is rewritten, and keeps its code.
    obtain ⟨hold, hsystem⟩ := systemRole_some hfind
    have hcolumns := columns_flushed d old
    refine ⟨_, _, rfl, ?_, ?_, applyDefinition_twice d old, .inl ?_, ?_⟩
    · exact Tables.mem_set.mpr ⟨old, hold, if_pos rfl⟩
    · obtain ⟨-, horg, hcode, hdeleted⟩ : _ ∧ _ ∧ _ ∧ _ := by
        simpa [columns] using hcolumns
      exact ⟨hcode.trans hsystem.1, horg.trans hsystem.2.1, hdeleted.trans hsystem.2.2⟩
    · rw [Tables.set, Tables.setWhere, List.map_map]
      refine List.map_congr_left fun r hr => ?_
      by_cases hid : r.id = old.id
      · obtain rfl : r = old := List.inj_on_of_nodup_map hkeys hr hold hid
        simpa using hcolumns
      · simp [hid]
    · intro r hr hne
      refine Tables.mem_set.mpr ⟨r, hr, if_neg fun hid => hne ?_⟩
      obtain rfl : r = old := List.inj_on_of_nodup_map hkeys hr hold hid
      exact hsystem.1

section Written

variable {k : Ulid}

lemma ids_columns (l : List StoredRole) :
    l.map (fun r => r.id) = (l.map columns).map Prod.fst := by
  rw [List.map_map]
  rfl

lemma codes_columns (l : List StoredRole) : l.map (fun r => (r.organizationId, r.code)) =
    (l.map columns).map fun c => (c.2.1, c.2.2.1) := by
  rw [List.map_map]
  rfl

lemma Written.ids (h : Written db d k role roles) :
    roles.map (fun r => r.id) = db.roles.map (fun r => r.id) ∨
      (role.id = k ∧ roles.map (fun r => r.id) = db.roles.map (fun r => r.id) ++ [k]) := by
  rcases h.same with hc | ⟨rfl, -, hc⟩
  · exact .inl (by rw [ids_columns, hc, ← ids_columns])
  · refine .inr ⟨rfl, ?_⟩
    rw [ids_columns, hc, List.map_append, ← ids_columns]
    rfl

lemma Written.nodup_ids (h : Written db d k role roles)
    (hkeys : (db.roles.map fun r => r.id).Nodup) (hk : k ∉ db.roles.map fun r => r.id) :
    (roles.map fun r => r.id).Nodup := by
  rcases h.ids with hc | ⟨-, hc⟩
  · rwa [hc]
  · rw [hc, List.nodup_append_comm]
    exact List.nodup_cons.mpr ⟨hk, hkeys⟩

lemma Written.nodup_codes (h : Written db d k role roles)
    (hkeys : (db.roles.map fun r => (r.organizationId, r.code)).Nodup) :
    (roles.map fun r => (r.organizationId, r.code)).Nodup := by
  rcases h.same with hc | ⟨-, hnone, hc⟩
  · rwa [codes_columns, hc, ← codes_columns]
  · rw [codes_columns, hc, List.map_append, ← codes_columns, List.nodup_append_comm]
    refine List.nodup_cons.mpr ⟨fun hmem => ?_, hkeys⟩
    obtain ⟨r, hr, he⟩ := List.mem_map.mp hmem
    obtain ⟨horg, hcode⟩ := Prod.mk.inj he
    exact hnone r hr ⟨horg.trans h.system.2.1, hcode.trans h.system.1⟩

lemma Written.undeleted (h : Written db d k role roles) {e : RoleDefinition}
    (he : Undeleted db e) :
    ∀ r ∈ roles, r.organizationId = none → r.code = e.code → r.deletedAt = none := by
  have hold : ∀ r : StoredRole, columns r ∈ db.roles.map columns → r.organizationId = none →
      r.code = e.code → r.deletedAt = none := by
    intro r hmem horg hcode
    obtain ⟨old, hin, hsame⟩ := List.mem_map.mp hmem
    obtain ⟨-, horg', hcode', hdeleted⟩ : _ ∧ _ ∧ _ ∧ _ := by simpa [columns] using hsame
    exact hdeleted.symm.trans (he old hin (horg'.trans horg) (hcode'.trans hcode))
  intro r hr
  have hmem : columns r ∈ roles.map columns := List.mem_map_of_mem hr
  rcases h.same with hc | ⟨-, -, hc⟩
  · exact hold r (hc ▸ hmem)
  · rw [hc] at hmem
    rcases List.mem_append.mp hmem with hmem | hnew
    · exact hold r hmem
    · obtain ⟨-, -, -, hdeleted⟩ : _ ∧ _ ∧ _ ∧ _ := by
        simpa [columns] using List.mem_singleton.mp hnew
      exact fun _ _ => hdeleted.trans h.system.2.2

/-- The roles of the tenants. -/
def tenantRoles (roles : List StoredRole) : List Ulid :=
  (roles.filter (·.organizationId ≠ none)).map fun r => r.id

lemma tenantRoles_eq (l : List StoredRole) :
    tenantRoles l = ((l.map columns).filter (·.2.1 ≠ none)).map Prod.fst := by
  rw [List.filter_map, List.map_map]
  rfl

lemma Written.tenants (h : Written db d k role roles) :
    tenantRoles roles = tenantRoles db.roles := by
  rw [tenantRoles_eq, tenantRoles_eq]
  rcases h.same with hc | ⟨-, -, hc⟩
  · rw [hc]
  · have hnone : [columns role].filter (·.2.1 ≠ none) = [] := by
      simp [columns, h.system.2.1]
    rw [hc, List.filter_append, hnone, List.append_nil]

end Written

/-! ### The links of an entry -/

/-- The permission that a code names. -/
def permissionOf (db : CatalogDB) (c : String) : PermissionRow :=
  ⟨((Tables.get StoredPermission.code c db.permissions).map StoredPermission.id).getD (.ofNat 0), c⟩

lemma get_permission {c : String} (h : c ∈ db.permissions.map StoredPermission.code) :
    ∃ p, Tables.get StoredPermission.code c db.permissions = some p ∧
      (permissionOf db c).id = p.id := by
  obtain ⟨row, hrow, hcode⟩ := List.mem_map.mp h
  obtain ⟨p, hp⟩ := Option.isSome_iff_exists.mp (Tables.get_isSome.mpr ⟨row, hrow, hcode⟩)
  exact ⟨p, hp, by rw [permissionOf, hp]; rfl⟩

lemma permissionOf_mem {c : String} (h : c ∈ db.permissions.map StoredPermission.code) :
    permissionOf db c ∈ db.toDB.permissions := by
  obtain ⟨p, hp, hid⟩ := get_permission h
  obtain ⟨hmem, hcode⟩ := Tables.get_mem hp
  refine List.mem_map.mpr ⟨p, hmem, ?_⟩
  rw [← hid, hcode]
  rfl

/-- The links that are added, where every code has a row. -/
def newLinks (db : CatalogDB) (draw : ℕ → Ulid) (roleId : Ulid) (codes : List String) :
    List RolePermission :=
  linksTo roleId (fun n => draw (n + 1)) (codes.map (permissionOf db))

lemma links_ok {codes : List String} {roleId : Ulid}
    (h : ∀ c ∈ codes, c ∈ db.permissions.map StoredPermission.code) :
    (codes.zipIdx.mapM fun cn => do
      let p ← fetched (Tables.get StoredPermission.code cn.1 db.permissions) (.keyError cn.1)
      return (⟨draw (cn.2 + 1), roleId, p.id, none⟩ : RolePermission)) =
    .ok (newLinks db draw roleId codes) := by
  have hall : newLinks db draw roleId codes = codes.zipIdx.map fun cn =>
      (⟨draw (cn.2 + 1), roleId, (permissionOf db cn.1).id, none⟩ : RolePermission) := by
    rw [newLinks, linksTo, List.zipIdx_map, List.map_map]
    rfl
  rw [hall]
  refine mapM_of_ok fun cn hcn => ?_
  obtain ⟨p, hp, hid⟩ := get_permission (h cn.1 (List.fst_mem_of_mem_zipIdx hcn))
  rw [hp, hid]
  rfl

lemma mem_newLinks {roleId : Ulid} {codes : List String} {l : RolePermission}
    (h : l ∈ newLinks db draw roleId codes) :
    l.roleId = roleId ∧ (∃ c ∈ codes, l.permissionId = (permissionOf db c).id) ∧
      ∃ n < codes.length, l.id = draw (n + 1) := by
  obtain ⟨⟨p, n⟩, hp, rfl⟩ := List.mem_map.mp h
  obtain ⟨c, hc, rfl⟩ := List.mem_map.mp (List.fst_mem_of_mem_zipIdx hp)
  have hn := (List.mem_zipIdx' hp).1
  rw [List.length_map] at hn
  exact ⟨rfl, ⟨c, hc, rfl⟩, n, hn, rfl⟩

lemma newLinks_ids (roleId : Ulid) (codes : List String) :
    (newLinks db draw roleId codes).map RolePermission.id =
      (List.range codes.length).map fun n => draw (n + 1) := by
  have hnumbers : (codes.map (permissionOf db)).zipIdx.map Prod.snd = List.range codes.length := by
    rw [List.zipIdx_map_snd, List.length_map, List.range_eq_range']
  rw [← hnumbers, newLinks, linksTo, List.map_map, List.map_map]
  rfl

lemma newLinks_pairs (roleId : Ulid) (codes : List String) :
    (newLinks db draw roleId codes).map (fun l => (l.roleId, l.permissionId)) =
      codes.map fun c => (roleId, (permissionOf db c).id) := by
  have hrows : (codes.map (permissionOf db)).zipIdx.map Prod.fst = codes.map (permissionOf db) :=
    List.zipIdx_map_fst 0 _
  have hpairs : codes.map (fun c => (roleId, (permissionOf db c).id)) =
      ((codes.map (permissionOf db)).zipIdx.map Prod.fst).map fun p => (roleId, p.id) := by
    rw [hrows, List.map_map]
    rfl
  rw [hpairs, newLinks, linksTo, List.map_map, List.map_map]
  rfl

lemma permissionOf_inj (hstored : CatalogStored db) {c c' : String}
    (hc : c ∈ db.permissions.map StoredPermission.code)
    (hc' : c' ∈ db.permissions.map StoredPermission.code)
    (h : (permissionOf db c).id = (permissionOf db c').id) : c = c' :=
  congrArg PermissionRow.code (List.inj_on_of_nodup_map hstored.tables.ids (permissionOf_mem hc)
    (permissionOf_mem hc') h)

lemma newLinks_insert (hstored : CatalogStored db) {roleId : Ulid} {codes : List String}
    (hcodes : codes.Nodup) (hknown : ∀ c ∈ codes, c ∈ db.permissions.map StoredPermission.code)
    (hnot : ∀ c ∈ codes, c ∉ linkedCodes db.toDB roleId)
    (hdraw : SyncPermissions.Draws draw (codes.length + 1)
      (db.rolePermissions.map RolePermission.id)) :
    PermissionLinksInsert (newLinks db draw roleId codes) db.rolePermissions := by
  refine ⟨⟨?_, ?_⟩, ?_, ?_⟩
  · -- The ids are drawn in turn.
    rw [newLinks_ids]
    refine List.Nodup.map_on (fun n hn m hm he => ?_) List.nodup_range
    have hlt := List.mem_range.mp hn
    have hlt' := List.mem_range.mp hm
    exact Nat.succ_injective (hdraw.inj (Nat.succ_lt_succ hlt) (Nat.succ_lt_succ hlt') he)
  · intro new hnew old hold he
    obtain ⟨-, -, n, hn, hid⟩ := mem_newLinks hnew
    exact hdraw.fresh (n + 1) (Nat.succ_lt_succ hn)
      (List.mem_map.mpr ⟨old, hold, he.trans hid⟩)
  · rw [newLinks_pairs]
    exact hcodes.map_on fun c hc c' hc' he =>
      permissionOf_inj hstored (hknown c hc) (hknown c' hc') (Prod.mk.inj he).2
  · -- A link that is there has another code.
    intro new hnew old hold he
    obtain ⟨hrole, ⟨c, hc, hpermission⟩, -⟩ := mem_newLinks hnew
    obtain ⟨holdRole, holdPermission⟩ := Prod.mk.inj he
    refine hnot c hc ?_
    have hcode : codeOf db.toDB.permissions old = some c := by
      rw [codeOf, holdPermission, hpermission,
        Tables.get_of_mem hstored.tables.ids (permissionOf_mem (hknown c hc))]
      rfl
    rw [linkedCodes_eq]
    exact List.mem_filterMap.mpr ⟨old, List.mem_filter.mpr
      ⟨hold, decide_eq_true (holdRole.trans hrole)⟩, hcode⟩

/-! ### One turn of the loop -/

/-- The entry has its role, with its values and exactly its links. -/
def RoleSynced (db : CatalogDB) (d : RoleDefinition) : Prop :=
  ∃ role ∈ db.roles, IsSystem role d.code ∧ applyDefinition d role = role ∧
    LinkedTo db.toDB role.id d.permissions

/-- The links of the roles of the tenants. -/
def tenantLinks (db : CatalogDB) : List RolePermission :=
  db.rolePermissions.filter (·.roleId ∈ tenantRoles db.roles)

/-- The ids of roles and links. -/
def usedIds (db : CatalogDB) : List Ulid :=
  (db.roles.map fun r => r.id) ++ db.rolePermissions.map RolePermission.id

/-- What a turn leaves. -/
structure Turn (db : CatalogDB) (d : RoleDefinition) (draw : ℕ → Ulid) (bound : ℕ)
    (db' : CatalogDB) : Prop where
  permissions : db'.permissions = db.permissions
  stored : CatalogStored db'
  synced : RoleSynced db' d
  others : ∀ e : RoleDefinition, e.code ≠ d.code → RoleSynced db e → RoleSynced db' e
  undeleted : ∀ e, Undeleted db e → Undeleted db' e
  tenants : tenantLinks db' = tenantLinks db
  ids : ∀ k ∈ usedIds db', k ∈ usedIds db ∨ ∃ m < bound, k = draw m

section Missing

variable {linked : List (RolePermission × String)} {known : List StoredPermission} {c : String}

lemma mem_missing (hlinked : ∀ lc ∈ linked, lc.2 ∈ known.map StoredPermission.code) :
    c ∈ missing known linked d ↔ c ∈ d.permissions ∧ c ∉ linked.map Prod.snd := by
  have hcurrent : (linked.map Prod.snd).filter (· ∈ known.map StoredPermission.code) =
      linked.map Prod.snd := by
    refine List.filter_eq_self.mpr fun code hcode => ?_
    obtain ⟨lc, hlc, rfl⟩ := List.mem_map.mp hcode
    exact decide_eq_true (hlinked lc hlc)
  rw [missing, hcurrent, List.mem_mergeSort, List.mem_filter, List.mem_dedup, decide_eq_true_eq]

lemma nodup_missing : (missing known linked d).Nodup := by
  rw [missing, (List.mergeSort_perm _ _).nodup_iff]
  exact (List.nodup_dedup d.permissions).filter _

end Missing

lemma linkCodes_known (db : CatalogDB) (roleId : Ulid) :
    ∀ lc ∈ linkCodes db.toDB roleId, lc.2 ∈ db.permissions.map StoredPermission.code := by
  rintro ⟨l, c⟩ hlc
  obtain ⟨p, hp, hcode⟩ := codeOf_some.mp (Roles.mem_linkCodes.mp hlc).2
  rw [← toDB_permissionCodes, ← hcode]
  exact List.mem_map_of_mem (Tables.get_mem hp).1

/-- The tables after the entry is written. -/
def afterTurn (db : CatalogDB) (d : RoleDefinition) (draw : ℕ → Ulid) (role : StoredRole)
    (roles : List StoredRole) : CatalogDB :=
  { db with
    roles := roles
    rolePermissions :=
      db.rolePermissions.filter (· ∉ Roles.staleLinks db.toDB role.id d.permissions) ++
        newLinks db draw role.id (missing db.permissions (linkCodes db.toDB role.id) d) }

lemma syncRole_eq (hwrite : writeRole db d (draw 0) = .ok (role, roles))
    (hknown : ∀ c ∈ d.permissions, c ∈ db.permissions.map StoredPermission.code)
    (hinsert : PermissionLinksInsert (newLinks db draw role.id
      (missing db.permissions (linkCodes db.toDB role.id) d)) db.rolePermissions) :
    syncRole db.permissions draw db d = .ok (afterTurn db d draw role roles) := by
  rw [syncRole, hwrite, ok_bind]
  refine bind_ok.mpr ⟨_, links_ok fun c hc => ?_, bind_ok.mpr ⟨(), demand_ok.mpr hinsert, rfl⟩⟩
  exact hknown c ((mem_missing (linkCodes_known db role.id)).mp hc).1

lemma permissions_afterTurn (db : CatalogDB) (d : RoleDefinition) (draw : ℕ → Ulid)
    (role : StoredRole) (roles : List StoredRole) :
    (afterTurn db d draw role roles).toDB.permissions = db.toDB.permissions := rfl

lemma links_afterTurn (db : CatalogDB) (d : RoleDefinition) (draw : ℕ → Ulid)
    (role : StoredRole) (roles : List StoredRole) :
    (afterTurn db d draw role roles).toDB.rolePermissions =
      db.toDB.rolePermissions.filter (· ∉ Roles.staleLinks db.toDB role.id d.permissions) ++
        linksTo role.id (fun n => draw (n + 1))
          ((missing db.permissions (linkCodes db.toDB role.id) d).map (permissionOf db)) := rfl

lemma mem_missing_linked {c : String} :
    c ∈ missing db.permissions (linkCodes db.toDB role.id) d ↔
      c ∈ d.permissions ∧ c ∉ linkedCodes db.toDB role.id :=
  mem_missing (linkCodes_known db role.id)

lemma missing_rows
    (hknown : ∀ c ∈ d.permissions, c ∈ db.permissions.map StoredPermission.code) :
    ∀ p ∈ (missing db.permissions (linkCodes db.toDB role.id) d).map (permissionOf db),
      p ∈ db.toDB.permissions := by
  intro p hp
  obtain ⟨c, hc, rfl⟩ := List.mem_map.mp hp
  exact permissionOf_mem (hknown c (mem_missing_linked.mp hc).1)

lemma linkedCodes_afterTurn (hstored : CatalogStored db)
    (hknown : ∀ c ∈ d.permissions, c ∈ db.permissions.map StoredPermission.code) :
    linkedCodes (afterTurn db d draw role roles).toDB role.id =
      (linkedCodes db.toDB role.id).filter (· ∈ d.permissions) ++
        missing db.permissions (linkCodes db.toDB role.id) d := by
  have hcodes : ∀ codes : List String,
      (codes.map (permissionOf db)).map PermissionRow.code = codes := fun codes => by
    rw [List.map_map]
    exact List.map_id codes
  rw [linkedCodes_relinked hstored.tables.ids (missing_rows hknown)
    (permissions_afterTurn db d draw role roles) (links_afterTurn db d draw role roles), hcodes]
  exact congrArg (· ++ _) (Roles.keptCodes d.permissions)

lemma othersKept_afterTurn (db : CatalogDB) (d : RoleDefinition) (draw : ℕ → Ulid)
    (role : StoredRole) (roles : List StoredRole) :
    OthersKept db.toDB (afterTurn db d draw role roles).toDB role.id :=
  othersKept_relinked (Roles.othersKept_stale d.permissions)
    (links_afterTurn db d draw role roles)

lemma stored_afterTurn {k : Ulid} (hstored : CatalogStored db)
    (hknown : ∀ c ∈ d.permissions, c ∈ db.permissions.map StoredPermission.code)
    (hk : k ∉ db.roles.map fun r => r.id) (hwritten : Written db d k role roles)
    (hinsert : PermissionLinksInsert (newLinks db draw role.id
      (missing db.permissions (linkCodes db.toDB role.id) d)) db.rolePermissions) :
    CatalogStored (afterTurn db d draw role roles) := by
  have hroleIds : (db.roles.map fun r => r.id).Nodup := toDB_roleIds db ▸ hstored.tables.roles
  have hkept : (db.rolePermissions.filter
      (· ∉ Roles.staleLinks db.toDB role.id d.permissions)).Sublist db.rolePermissions :=
    List.filter_sublist
  have hids : ∀ i ∈ db.roles.map (fun r => r.id), i ∈ roles.map fun r => r.id := by
    intro i hi
    rcases hwritten.ids with hsame | ⟨-, hadded⟩
    · rwa [hsame]
    · rw [hadded]
      exact List.mem_append_left _ hi
  constructor
  · refine hstored.tables.relinked hkept (missing_rows hknown) ⟨⟨hinsert.1.1, ?_⟩, hinsert.2.1, ?_⟩
      (permissions_afterTurn db d draw role roles) ?_ ?_ ?_ (links_afterTurn db d draw role roles)
    · exact fun new hnew old hold => hinsert.1.2 new hnew old (hkept.subset hold)
    · exact fun new hnew old hold => hinsert.2.2 new hnew old (hkept.subset hold)
    · rw [RoleKeys, toDB_roleIds]
      exact hwritten.nodup_ids hroleIds hk
    · rw [toDB_roleIds, toDB_roleIds]
      exact hids
    · rw [toDB_roleIds]
      exact List.mem_map_of_mem hwritten.mem
  · exact hwritten.nodup_codes hstored.roleCodes
  · -- The ids of the links that are kept are not drawn again.
    refine List.map_append ▸ (hstored.linkIds.sublist (hkept.map _)).append hinsert.1.1 ?_
    intro i hold hnew
    obtain ⟨old, hmem, rfl⟩ := List.mem_map.mp hold
    obtain ⟨new, hmem', he⟩ := List.mem_map.mp hnew
    exact hinsert.1.2 new hmem' old (hkept.subset hmem) he.symm
  · exact hstored.fits

lemma usedIds_afterTurn {bound : ℕ} (hwritten : Written db d (draw 0) role roles)
    (hzero : 0 < bound)
    (hbound : ∀ n < (missing db.permissions (linkCodes db.toDB role.id) d).length, n + 1 < bound) :
    ∀ k ∈ usedIds (afterTurn db d draw role roles),
      k ∈ usedIds db ∨ ∃ m < bound, k = draw m := by
  intro k hk
  rcases List.mem_append.mp hk with hrole | hlink
  · have hids : k ∈ roles.map fun r => r.id := hrole
    rcases hwritten.ids with hsame | ⟨-, hadded⟩
    · exact .inl (List.mem_append_left _ (hsame ▸ hids))
    · rw [hadded] at hids
      rcases List.mem_append.mp hids with hold | hnew
      · exact .inl (List.mem_append_left _ hold)
      · exact .inr ⟨0, hzero, List.mem_singleton.mp hnew⟩
  · obtain ⟨l, hl, rfl⟩ := List.mem_map.mp hlink
    rcases List.mem_append.mp hl with hold | hnew
    · exact .inl (List.mem_append_right _ (List.mem_map_of_mem (List.mem_filter.mp hold).1))
    · obtain ⟨-, -, n, hn, hid⟩ := mem_newLinks hnew
      exact .inr ⟨n + 1, hbound n hn, hid⟩

lemma tenantLinks_afterTurn {k : Ulid} (hwritten : Written db d k role roles)
    (hids : (roles.map fun r => r.id).Nodup) :
    tenantLinks (afterTurn db d draw role roles) = tenantLinks db := by
  have hnot : role.id ∉ tenantRoles roles := by
    intro hmem
    obtain ⟨r, hr, hid⟩ := List.mem_map.mp hmem
    obtain ⟨hin, horg⟩ := List.mem_filter.mp hr
    obtain rfl : r = role := List.inj_on_of_nodup_map hids hin hwritten.mem hid
    exact of_decide_eq_true horg hwritten.system.2.1
  have hothers : ∀ links : List RolePermission, links.filter (·.roleId ∈ tenantRoles roles) =
      (links.filter (·.roleId ≠ role.id)).filter (·.roleId ∈ tenantRoles roles) := by
    intro links
    rw [List.filter_filter]
    refine List.filter_congr fun l _ => ?_
    by_cases hl : l.roleId = role.id
    · simp [hl, hnot]
    · simp [hl]
  have hkept := othersKept_afterTurn db d draw role roles
  calc tenantLinks (afterTurn db d draw role roles)
      = ((afterTurn db d draw role roles).rolePermissions.filter (·.roleId ≠ role.id)).filter
          (·.roleId ∈ tenantRoles roles) := hothers _
    _ = (db.rolePermissions.filter (·.roleId ≠ role.id)).filter
          (·.roleId ∈ tenantRoles roles) := congrArg _ hkept
    _ = db.rolePermissions.filter (·.roleId ∈ tenantRoles roles) := (hothers _).symm
    _ = tenantLinks db := by rw [hwritten.tenants, tenantLinks]

lemma turn_afterTurn {bound : ℕ} (hstored : CatalogStored db)
    (hknown : ∀ c ∈ d.permissions, c ∈ db.permissions.map StoredPermission.code)
    (hk : draw 0 ∉ db.roles.map fun r => r.id) (hwritten : Written db d (draw 0) role roles)
    (hinsert : PermissionLinksInsert (newLinks db draw role.id
      (missing db.permissions (linkCodes db.toDB role.id) d)) db.rolePermissions)
    (hzero : 0 < bound)
    (hbound : ∀ n < (missing db.permissions (linkCodes db.toDB role.id) d).length, n + 1 < bound) :
    Turn db d draw bound (afterTurn db d draw role roles) := by
  have hstored' := stored_afterTurn hstored hknown hk hwritten hinsert
  have hids : (roles.map fun r => r.id).Nodup :=
    hwritten.nodup_ids (toDB_roleIds db ▸ hstored.tables.roles) hk
  refine ⟨rfl, hstored', ⟨role, hwritten.mem, hwritten.system, hwritten.applied, ?_⟩, ?_, ?_,
    tenantLinks_afterTurn hwritten hids, usedIds_afterTurn hwritten hzero hbound⟩
  · refine hstored'.tables.linkedTo fun c => ?_
    rw [linkedCodes_afterTurn hstored hknown, List.mem_append, List.mem_filter, mem_missing_linked,
      decide_eq_true_eq]
    by_cases hc : c ∈ linkedCodes db.toDB role.id <;> simp [hc]
  · rintro e hne ⟨other, hother, hsystem, happlied, hlinked⟩
    have hmem : other ∈ roles := hwritten.kept other hother fun he => hne (hsystem.1.symm.trans he)
    refine ⟨other, hmem, hsystem, happlied, hlinked.of_others (fun hid => ?_)
      (permissions_afterTurn db d draw role roles) (othersKept_afterTurn db d draw role roles)⟩
    obtain rfl : other = role := List.inj_on_of_nodup_map hids hmem hwritten.mem hid
    exact hne (hsystem.1.symm.trans hwritten.system.1)
  · exact fun e he => hwritten.undeleted he

/-- **A turn**: where the codes of the entry have rows and its key is free, its role is written and
linked. -/
theorem syncRole_turn (hstored : CatalogStored db) (hundeleted : Undeleted db d)
    (hknown : ∀ c ∈ d.permissions, c ∈ db.permissions.map StoredPermission.code)
    (hdraw : SyncPermissions.Draws draw (db.permissions.length + 1) (usedIds db)) :
    ∃ db', syncRole db.permissions draw db d = .ok db' ∧
      Turn db d draw (db.permissions.length + 1) db' := by
  have hroleIds : (db.roles.map fun r => r.id).Nodup := toDB_roleIds db ▸ hstored.tables.roles
  have hk : draw 0 ∉ db.roles.map fun r => r.id := fun hmem =>
    hdraw.fresh 0 (Nat.succ_pos _) (List.mem_append_left _ hmem)
  obtain ⟨role, roles, hwrite, hwritten⟩ := writeRole_ok hroleIds hundeleted hk
  set codes := missing db.permissions (linkCodes db.toDB role.id) d with hcodes
  have hmem : ∀ c, c ∈ codes ↔ c ∈ d.permissions ∧ c ∉ linkedCodes db.toDB role.id := fun c =>
    mem_missing (linkCodes_known db role.id)
  have hlength : codes.length ≤ db.permissions.length := by
    have hsub : codes ⊆ db.permissions.map StoredPermission.code := fun c hc =>
      hknown c ((hmem c).mp hc).1
    exact (nodup_missing.subperm hsub).length_le.trans_eq (List.length_map _)
  have hinsert : PermissionLinksInsert (newLinks db draw role.id codes) db.rolePermissions := by
    refine newLinks_insert hstored nodup_missing (fun c hc => hknown c ((hmem c).mp hc).1)
      (fun c hc => ((hmem c).mp hc).2) ⟨fun n hn m hm he => ?_, fun n hn => ?_⟩
    · exact hdraw.inj (lt_of_lt_of_le hn (Nat.succ_le_succ hlength))
        (lt_of_lt_of_le hm (Nat.succ_le_succ hlength)) he
    · exact fun hused => hdraw.fresh n (lt_of_lt_of_le hn (Nat.succ_le_succ hlength))
        (List.mem_append_right _ hused)
  have hbound : ∀ n < codes.length, n + 1 < db.permissions.length + 1 := fun n hn =>
    Nat.succ_lt_succ (lt_of_lt_of_le hn hlength)
  exact ⟨_, syncRole_eq hwrite hknown hinsert,
    turn_afterTurn hstored hknown hk hwritten hinsert (Nat.succ_pos _) hbound⟩

/-! ### The loop -/

/-- The ids drawn for the entries are new, and differ. -/
structure EntryDraws (draws : ℕ → ℕ → Ulid) (entries : List ℕ) (bound : ℕ) (used : List Ulid) :
    Prop where
  inj : ∀ n ∈ entries, ∀ n' ∈ entries, ∀ m < bound, ∀ m' < bound,
    draws n m = draws n' m' → n = n' ∧ m = m'
  fresh : ∀ n ∈ entries, ∀ m < bound, draws n m ∉ used

lemma EntryDraws.next {n bound : ℕ} {entries : List ℕ}
    (h : EntryDraws draws (n :: entries) bound (usedIds db)) (hn : n ∉ entries)
    (hids : ∀ k ∈ usedIds db', k ∈ usedIds db ∨ ∃ m < bound, k = draws n m) :
    EntryDraws draws entries bound (usedIds db') := by
  refine ⟨fun i hi j hj => h.inj i (List.mem_cons_of_mem n hi) j (List.mem_cons_of_mem n hj), ?_⟩
  intro i hi m hm hused
  rcases hids _ hused with hold | ⟨m', hm', he⟩
  · exact h.fresh i (List.mem_cons_of_mem n hi) m hm hold
  · have hsame := h.inj i (List.mem_cons_of_mem n hi) n (List.mem_cons_self ..) m hm m' hm' he
    exact hn (hsame.1 ▸ hi)

/-- **The loop over the catalogue** writes and links every entry, one after the other. -/
theorem loop_completes {left : List (RoleDefinition × ℕ)} {done : List RoleDefinition}
    (hstored : CatalogStored db) (hundeleted : ∀ dn ∈ left, Undeleted db dn.1)
    (hknown : ∀ dn ∈ left, ∀ c ∈ dn.1.permissions, c ∈ db.permissions.map StoredPermission.code)
    (hdone : ∀ e ∈ done, RoleSynced db e)
    (hcodes : ((done ++ left.map Prod.fst).map (·.code)).Nodup)
    (hentries : (left.map Prod.snd).Nodup)
    (hdraws : EntryDraws draws (left.map Prod.snd) (db.permissions.length + 1) (usedIds db)) :
    ∃ db', left.foldlM (fun db' dn => syncRole db.permissions (draws dn.2) db' dn.1) db = .ok db' ∧
      CatalogStored db' ∧ db'.permissions = db.permissions ∧ tenantLinks db' = tenantLinks db ∧
      ∀ e ∈ done ++ left.map Prod.fst, RoleSynced db' e := by
  induction left generalizing db done with
  | nil => exact ⟨db, rfl, hstored, rfl, rfl, fun e he => hdone e (List.append_nil done ▸ he)⟩
  | cons dn left ih =>
    obtain ⟨d, n⟩ := dn
    obtain ⟨hn, hentries'⟩ := List.nodup_cons.mp hentries
    have hdraw : SyncPermissions.Draws (draws n) (db.permissions.length + 1) (usedIds db) :=
      ⟨fun m hm m' hm' he => (hdraws.inj n (List.mem_cons_self ..) n (List.mem_cons_self ..) m hm
        m' hm' he).2, fun m hm => hdraws.fresh n (List.mem_cons_self ..) m hm⟩
    obtain ⟨mid, hmid, hturn⟩ := syncRole_turn hstored
      (hundeleted (d, n) (List.mem_cons_self ..)) (hknown (d, n) (List.mem_cons_self ..)) hdraw
    -- The entries that were written before have other codes.
    have hdone' : ∀ e ∈ done ++ [d], RoleSynced mid e := by
      intro e he
      rcases List.mem_append.mp he with he | he
      · refine hturn.others e (fun hc => ?_) (hdone e he)
        rw [List.map_append, List.nodup_append] at hcodes
        exact hcodes.2.2 e.code (List.mem_map_of_mem he) d.code (List.mem_cons_self ..) hc
      · obtain rfl := List.mem_singleton.mp he
        exact hturn.synced
    rw [← hturn.permissions] at hknown hdraws
    rw [List.map_cons, List.append_cons] at hcodes ⊢
    obtain ⟨db', hloop, hstored', hpermissions, htenants, hsynced⟩ := ih hturn.stored
      (fun e he => hturn.undeleted e.1 (hundeleted e (List.mem_cons_of_mem _ he)))
      (fun e he => hknown e (List.mem_cons_of_mem _ he)) hdone' hcodes hentries'
      (hdraws.next hn (hturn.permissions ▸ hturn.ids))
    rw [hturn.permissions] at hloop hpermissions
    refine ⟨db', ?_, hstored', hpermissions, htenants.trans hturn.tenants, hsynced⟩
    exact bind_ok.mpr ⟨mid, hmid, hloop⟩

/-- **An entry that is there as it should be** is left alone. -/
theorem syncRole_again (hstored : CatalogStored db) (h : RoleSynced db d) :
    syncRole db.permissions draw db d = .ok db := by
  obtain ⟨role, hrole, hsystem, happlied, hlinked⟩ := h
  have hfind := systemRole_of_mem hstored.roleCodes hrole hsystem
  have hwrite : writeRole db d (draw 0) = .ok (role, db.roles) := by
    have hsame : flushed StoredRole.touch role (applyDefinition d role) = role := by
      rw [flushed, if_pos happlied]
    have hset : Tables.set (fun r : StoredRole => r.id) role.id (fun _ => role) db.roles =
        db.roles := Tables.set_self (toDB_roleIds db ▸ hstored.tables.roles) hrole
    rw [writeRole, hfind]
    exact congrArg Except.ok (Prod.ext hsame (by rw [hsame, hset]))
  have hmissing : missing db.permissions (linkCodes db.toDB role.id) d = [] := by
    refine List.eq_nil_iff_forall_not_mem.mpr fun c hc => ?_
    obtain ⟨hwanted, hnot⟩ := mem_missing_linked.mp hc
    exact hnot ((hlinked.exact c).mpr hwanted)
  have hstale : Roles.staleLinks db.toDB role.id d.permissions = [] := by
    refine List.map_eq_nil_iff.mpr (List.filter_eq_nil_iff.mpr fun lc hlc hnot => ?_)
    exact of_decide_eq_true hnot ((hlinked.exact lc.2).mp (List.mem_map_of_mem hlc))
  have hkept : db.rolePermissions.filter (· ∉ ([] : List RolePermission)) = db.rolePermissions :=
    List.filter_eq_self.mpr fun _ _ => decide_eq_true List.not_mem_nil
  have hafter : afterTurn db d draw role db.roles = db := by
    rw [afterTurn, hstale, hmissing, hkept]
    exact congrArg (fun links => { db with rolePermissions := links }) (List.append_nil _)
  have hknown : ∀ c ∈ d.permissions, c ∈ db.permissions.map StoredPermission.code := by
    intro c hc
    obtain ⟨lc, hlc, rfl⟩ := List.mem_map.mp ((hlinked.exact c).mpr hc)
    exact linkCodes_known db role.id lc hlc
  have hinsert : PermissionLinksInsert (newLinks db draw role.id
      (missing db.permissions (linkCodes db.toDB role.id) d)) db.rolePermissions := by
    rw [hmissing]
    exact ⟨⟨List.nodup_nil, fun _ h => absurd h List.not_mem_nil⟩, List.nodup_nil,
      fun _ h => absurd h List.not_mem_nil⟩
  rw [syncRole_eq hwrite hknown hinsert, hafter]

lemma loop_again {left : List (RoleDefinition × ℕ)} (hstored : CatalogStored db)
    (h : ∀ dn ∈ left, RoleSynced db dn.1) :
    left.foldlM (fun db' dn => syncRole db.permissions (draws dn.2) db' dn.1) db = .ok db := by
  induction left with
  | nil => rfl
  | cons dn left ih =>
    exact bind_ok.mpr ⟨db, syncRole_again hstored (h dn (List.mem_cons_self ..)),
      ih fun e he => h e (List.mem_cons_of_mem _ he)⟩

lemma run_eq {registry : List DeclaredPermission}
    (h : ∀ d ∈ catalog, ∀ c ∈ d.permissions, c ∈ registry.map (·.code)) :
    run registry catalog draws db = catalog.zipIdx.foldlM
      (fun db' dn => syncRole db.permissions (draws dn.2) db' dn.1) db := by
  have hcheck : (catalog.forM fun d => d.permissions.forM fun code =>
      demand (code ∈ registry.map (·.code)) (.notRegistered code)) = .ok () :=
    forM_ok.mpr fun d hd => forM_ok.mpr fun c hc => demand_ok.mpr (h d hd c hc)
  rw [run, hcheck, ok_bind]

end SyncRoles

end SchoolOs
