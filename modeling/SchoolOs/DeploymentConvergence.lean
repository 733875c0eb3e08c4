import SchoolOs.RoleSync

/-!
Convergence of a deployment. With one registry for both scripts it converges; but the script that
writes the permissions does not import all the modules whose codes the role catalogue lists.
-/

namespace SchoolOs

open SyncRoles

variable {declared registry : List DeclaredPermission} {catalog : List RoleDefinition}
  {draw : ℕ → Ulid} {draws : ℕ → ℕ → Ulid} {db db₁ db₂ : CatalogDB} {d : RoleDefinition}

/-- The tables are what registry and catalogue declare, and the tenants keep their links to the
permissions that are left. -/
structure Synced (registry : List DeclaredPermission) (catalog : List RoleDefinition)
    (db db' : CatalogDB) : Prop where
  table : SyncPermissions.Registered registry db'
  linked : ∀ d ∈ catalog, RoleSynced db' d
  tenants : tenantLinks db' =
    (tenantLinks db).filter (·.permissionId ∈ db'.permissions.map StoredPermission.id)

/-! ### One registry for both -/

/-- What a deployment starts from: the tables keep to their constraints, and no system role of the
catalogue is deleted softly. -/
structure Deployable (catalog : List RoleDefinition) (db : CatalogDB) : Prop where
  stored : CatalogStored db
  undeleted : ∀ d ∈ catalog, Undeleted db d

/-- A registry and a catalogue whose codes are registered. -/
structure Declared (registry : List DeclaredPermission) (catalog : List RoleDefinition) : Prop where
  codes : (registry.map (·.code)).Nodup
  fits : ∀ p ∈ registry, SyncPermissions.Fits p
  roles : (catalog.map RoleDefinition.code).Nodup
  known : ∀ d ∈ catalog, ∀ c ∈ d.permissions, c ∈ registry.map (·.code)

/-- **Where both scripts know one registry, they converge**: permissions, system roles and links
come to be what is declared, and a second run changes nothing. -/
theorem sync_converges (hdeclared : Declared registry catalog) (hdb : Deployable catalog db)
    (hdraw : SyncPermissions.Draws draw registry.length
      (db.permissions.map StoredPermission.id))
    (hdraws : EntryDraws draws (List.range catalog.length) (registry.length + 1) (usedIds db)) :
    ∃ db₁ db₂, SyncPermissions.run registry draw db = .ok db₁ ∧
      SyncRoles.run registry catalog draws db₁ = .ok db₂ ∧ Synced registry catalog db db₂ ∧
      ∀ draw' draws', SyncPermissions.run registry draw' db₂ = .ok db₂ ∧
        SyncRoles.run registry catalog draws' db₂ = .ok db₂ := by
  obtain ⟨db₁, hpermissions⟩ :=
    SyncPermissions.run_completes hdb.stored hdeclared.codes hdeclared.fits hdraw
  have hstored₁ := SyncPermissions.run_stored hdb.stored hpermissions
  have hregistered₁ := SyncPermissions.run_registered hdeclared.codes hpermissions
  have hlinks₁ := SyncPermissions.run_links hdb.stored hpermissions
  have hroles₁ : db₁.roles = db.roles := by
    obtain ⟨-, rfl⟩ := SyncPermissions.run_ok.mp hpermissions
    rfl
  have hlength : db₁.permissions.length = registry.length := by
    simpa using hregistered₁.length_eq
  -- Every code that the catalogue lists has a row now.
  have hknown : ∀ d ∈ catalog, ∀ c ∈ d.permissions,
      c ∈ db₁.permissions.map StoredPermission.code := by
    intro d hd c hc
    obtain ⟨p, hp, rfl⟩ := List.mem_map.mp (hdeclared.known d hd c hc)
    obtain ⟨row, hrow, he⟩ := List.mem_map.mp
      (hregistered₁.mem_iff.mpr (List.mem_map_of_mem hp))
    exact List.mem_map.mpr ⟨row, hrow, (Prod.mk.inj he).1⟩
  have hfst : catalog.zipIdx.map Prod.fst = catalog := List.zipIdx_map_fst 0 catalog
  have hsnd : catalog.zipIdx.map Prod.snd = List.range catalog.length := by
    rw [List.zipIdx_map_snd, List.range_eq_range']
  have hmem : ∀ dn ∈ catalog.zipIdx, dn.1 ∈ catalog := fun dn => List.fst_mem_of_mem_zipIdx
  -- The first script draws no id that the second one draws.
  have hused : ∀ k ∈ usedIds db₁, k ∈ usedIds db := by
    intro k hk
    rw [usedIds, hroles₁, hlinks₁] at hk
    rcases List.mem_append.mp hk with hrole | hlink
    · exact List.mem_append_left _ hrole
    · exact List.mem_append_right _ ((List.filter_sublist.map _).subset hlink)
  have hdraws₁ : EntryDraws draws (catalog.zipIdx.map Prod.snd) (db₁.permissions.length + 1)
      (usedIds db₁) := by
    rw [hsnd, hlength]
    exact ⟨hdraws.inj, fun n hn m hm hin => hdraws.fresh n hn m hm (hused _ hin)⟩
  have hundeleted : ∀ dn ∈ catalog.zipIdx, Undeleted db₁ dn.1 := by
    intro dn hdn
    unfold Undeleted
    rw [hroles₁]
    exact hdb.undeleted dn.1 (hmem dn hdn)
  have hnone : ∀ e ∈ ([] : List RoleDefinition), RoleSynced db₁ e := fun _ he =>
    absurd he List.not_mem_nil
  obtain ⟨db₂, hloop, hstored₂, hsame, htenants, hsynced⟩ := loop_completes hstored₁ hundeleted
    (fun dn hdn => hknown dn.1 (hmem dn hdn)) hnone
    (by rw [List.nil_append, hfst]; exact hdeclared.roles)
    (by rw [hsnd]; exact List.nodup_range) hdraws₁
  rw [List.nil_append, hfst] at hsynced
  have hregistered₂ : SyncPermissions.Registered registry db₂ := by
    rw [SyncPermissions.Registered, hsame]
    exact hregistered₁
  refine ⟨db₁, db₂, hpermissions, ?_, ⟨hregistered₂, hsynced, ?_⟩, fun draw' draws' => ⟨?_, ?_⟩⟩
  · rw [run_eq hdeclared.known]
    exact hloop
  · rw [htenants, tenantLinks, tenantLinks, hroles₁, hlinks₁, hsame, List.filter_filter,
      List.filter_filter]
    exact List.filter_congr fun l _ => Bool.and_comm _ _
  · -- Once more, there is nothing to write.
    exact SyncPermissions.run_again hstored₂ hregistered₂
  · rw [run_eq hdeclared.known]
    exact loop_again hstored₂ fun dn hdn => hsynced dn.1 (hmem dn hdn)

/-! ### The registries of the two scripts -/

lemma syncPermissions_main (draw : ℕ → Ulid) (db : CatalogDB) : SyncPermissions.main draw db =
    SyncPermissions.run syncPermissionsImports.flatten draw db := by
  rw [SyncPermissions.main, syncPermissionsImports_registered]
  rfl

lemma syncRoles_main (draws : ℕ → ℕ → Ulid) (db : CatalogDB) : SyncRoles.main draws db =
    SyncRoles.run syncRolesImports.flatten (roleCatalog syncRolesImports.flatten) draws db := by
  rw [SyncRoles.main, syncRolesImports_registered]
  rfl

lemma syncRolesImports_fits {p : DeclaredPermission} (h : p ∈ syncRolesImports.flatten) :
    SyncPermissions.Fits p := by
  obtain ⟨hwords, hmodule, hresource, haction, hdescription⟩ := syncRolesImports_fit h
  have hcode : varchar 100 (some p.code) = true := by
    rw [varchar, hwords.bindable_code, Bool.and_true, decide_eq_true_eq, p.code_length]
    omega
  exact fun _ => ⟨hcode, varchar_word hwords.module hmodule (by decide),
    varchar_word hwords.resource hresource (by decide),
    varchar_word hwords.action haction (by decide), hdescription⟩

/-- **With the imports of `sync_roles` in both scripts** every deployment converges. -/
theorem sync_converges_shared
    (hdb : Deployable (roleCatalog syncRolesImports.flatten) db)
    (hdraw : SyncPermissions.Draws draw syncRolesImports.flatten.length
      (db.permissions.map StoredPermission.id))
    (hdraws : EntryDraws draws (List.range (roleCatalog syncRolesImports.flatten).length)
      (syncRolesImports.flatten.length + 1) (usedIds db)) :
    ∃ db₁ db₂, SyncPermissions.run syncRolesImports.flatten draw db = .ok db₁ ∧
      SyncRoles.main draws db₁ = .ok db₂ ∧
      Synced syncRolesImports.flatten (roleCatalog syncRolesImports.flatten) db db₂ ∧
      ∀ draw' draws', SyncPermissions.run syncRolesImports.flatten draw' db₂ = .ok db₂ ∧
        SyncRoles.main draws' db₂ = .ok db₂ := by
  have hroles : ((roleCatalog syncRolesImports.flatten).map RoleDefinition.code).Nodup := by
    simp [roleCatalog]
  simp only [syncRoles_main]
  exact sync_converges ⟨(registryOf_some syncRolesImports_registered).2,
    fun p hp => syncRolesImports_fits hp, hroles, roleCatalog_registered _⟩ hdb hdraw hdraws

/-- What both scripts do, and a second run of them. -/
def Converges (draw : ℕ → Ulid) (draws : ℕ → ℕ → Ulid) (db : CatalogDB) : Prop :=
  ∃ db₁ db₂, SyncPermissions.main draw db = .ok db₁ ∧ SyncRoles.main draws db₁ = .ok db₂ ∧
    Synced syncRolesImports.flatten (roleCatalog syncRolesImports.flatten) db db₂ ∧
    ∀ draw' draws', SyncPermissions.main draw' db₂ = .ok db₂ ∧ SyncRoles.main draws' db₂ = .ok db₂

/-- The first entry of the catalogue lists every code that is registered. -/
lemma superAdmin_known {c : String} (hc : c ∈ registry.map (·.code)) :
    ∃ d ∈ roleCatalog registry, c ∈ d.permissions :=
  ⟨_, List.mem_cons_self .., mem_allPermissions.mpr hc⟩

/-- Once the permissions are synced, a code of the teachers has no row. -/
lemma teachers_without_row (h : SyncPermissions.main draw db = .ok db₁) :
    "teachers.teacher.list" ∉ db₁.permissions.map StoredPermission.code := by
  rw [syncPermissions_main] at h
  intro hmem
  obtain ⟨row, hrow, hcode⟩ := List.mem_map.mp hmem
  exact teachers_unregistered (hcode ▸ SyncPermissions.run_declared h row hrow)

/-- Without roles the first entry is written, and its links have no row to name. -/
lemma superAdmin_keyError (hroles : db.roles = [])
    (h : "teachers.teacher.list" ∉ db.permissions.map StoredPermission.code) :
    ∃ code, SyncRoles.main draws db = .error (.keyError code) := by
  obtain ⟨d, rest, hcatalog, hall⟩ : ∃ d rest, roleCatalog syncRolesImports.flatten = d :: rest ∧
      d.permissions = allPermissions syncRolesImports.flatten := ⟨_, _, rfl, rfl⟩
  have hwritable : ∃ role roles, writeRole db d (draws 0 0) = .ok (role, roles) := by
    have hids : (db.roles.map fun r => r.id) = [] := by rw [hroles, List.map_nil]
    have hfree : Undeleted db d := fun r hr => absurd (hroles ▸ hr) List.not_mem_nil
    have hnew : draws 0 0 ∉ db.roles.map fun r => r.id := hids ▸ List.not_mem_nil
    obtain ⟨role, roles, hwrite, -⟩ := writeRole_ok (hids ▸ List.nodup_nil) hfree hnew
    exact ⟨role, roles, hwrite⟩
  obtain ⟨role, roles, hwrite⟩ := hwritable
  have hlisted : "teachers.teacher.list" ∈ d.permissions :=
    hall ▸ mem_allPermissions.mpr teachers_registered
  obtain ⟨code, hfirst⟩ := syncRole_keyError hwrite hlisted h
  refine ⟨code, ?_⟩
  rw [syncRoles_main, run_eq (roleCatalog_registered _), hcatalog, List.zipIdx_cons,
    List.foldlM_cons, hfirst]
  rfl

/-- **No deployment converges**: whatever is stored, the permissions that the first script leaves
make the second one fail. -/
theorem sync_never_converges (draw : ℕ → Ulid) (draws : ℕ → ℕ → Ulid) (db : CatalogDB) :
    (∀ db₁, SyncPermissions.main draw db = .ok db₁ → ∃ e, SyncRoles.main draws db₁ = .error e) ∧
      ¬ Converges draw draws db := by
  have hfails : ∀ db₁, SyncPermissions.main draw db = .ok db₁ →
      ∃ e, SyncRoles.main draws db₁ = .error e := by
    intro db₁ hfirst
    cases hsecond : SyncRoles.main draws db₁ with
    | error e => exact ⟨e, rfl⟩
    | ok db₂ =>
      rw [syncRoles_main] at hsecond
      obtain ⟨d, hd, hc⟩ := superAdmin_known teachers_registered
      exact absurd (SyncRoles.run_known hsecond d hd _ hc) (teachers_without_row hfirst)
  refine ⟨hfails, ?_⟩
  rintro ⟨db₁, db₂, hfirst, hsecond, -⟩
  obtain ⟨e, he⟩ := hfails db₁ hfirst
  rw [he] at hsecond
  cases hsecond

/-! ### A deployment on empty tables -/

def emptyCatalog : CatalogDB := ⟨[], [], []⟩

lemma emptyCatalog_stored : CatalogStored emptyCatalog :=
  ⟨⟨List.nodup_nil, List.nodup_nil, List.nodup_nil, List.nodup_nil,
    fun _ h => absurd h List.not_mem_nil, fun _ h => absurd h List.not_mem_nil⟩,
    List.nodup_nil, List.nodup_nil, fun _ h => absurd h List.not_mem_nil⟩

lemma ofNat_draws {bound : ℕ} (h : bound ≤ 2 ^ 128) :
    SyncPermissions.Draws Ulid.ofNat bound [] := by
  refine ⟨fun n hn m hm he => ?_, fun _ _ => List.not_mem_nil⟩
  have hvalue : n % 2 ^ 128 = m % 2 ^ 128 := congrArg Ulid.value he
  rwa [Nat.mod_eq_of_lt (lt_of_lt_of_le hn h), Nat.mod_eq_of_lt (lt_of_lt_of_le hm h)] at hvalue

/-- The ids of roles and links, apart from one another. -/
def tableDraws (n m : ℕ) : Ulid := .ofNat (1000 * (n + 1) + m)

/-- On empty tables the first script goes through, and the second one has a `KeyError`. -/
theorem emptyCatalog_fails : CatalogStored emptyCatalog ∧
    (∃ db₁ code, SyncPermissions.main .ofNat emptyCatalog = .ok db₁ ∧
      SyncRoles.main tableDraws db₁ = .error (.keyError code)) ∧
    ¬ Converges .ofNat tableDraws emptyCatalog := by
  have hcodes := (registryOf_some syncPermissionsImports_registered).2
  have hbound : syncPermissionsImports.flatten.length ≤ 2 ^ 128 :=
    le_trans (show syncPermissionsImports.flatten.length ≤ 100 by decide) (by decide)
  obtain ⟨db₁, hfirst⟩ := SyncPermissions.run_completes emptyCatalog_stored hcodes
    (fun p hp => syncRolesImports_fits (syncPermissionsImports_sublist.subset hp))
    (ofNat_draws hbound)
  rw [← syncPermissions_main] at hfirst
  have hnone : db₁.roles = [] := by
    rw [syncPermissions_main] at hfirst
    obtain ⟨-, rfl⟩ := SyncPermissions.run_ok.mp hfirst
    rfl
  obtain ⟨code, hsecond⟩ := superAdmin_keyError hnone (teachers_without_row hfirst)
  refine ⟨emptyCatalog_stored, ⟨db₁, code, hfirst, hsecond⟩, ?_⟩
  rintro ⟨db, db₂, hdb, hdb₂, -⟩
  obtain rfl := Except.ok.inj (hfirst.symm.trans hdb)
  rw [hsecond] at hdb₂
  cases hdb₂

end SchoolOs
