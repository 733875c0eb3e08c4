import SchoolOs.DeploymentSync

/-!
`sync_permissions` on its own: the permission table becomes the registry, links to permissions that
stay are kept, and a second run does nothing.
-/

namespace SchoolOs

variable {declared done : List DeclaredPermission} {draw : ℕ → Ulid} {db db' : CatalogDB}
  {existing rows : List StoredPermission} {p : DeclaredPermission}

/-! ### The tables before a deployment -/

@[simp] lemma toDB_permissionIds (db : CatalogDB) :
    db.toDB.permissions.map PermissionRow.id = db.permissions.map StoredPermission.id :=
  List.map_map

@[simp] lemma toDB_permissionCodes (db : CatalogDB) :
    db.toDB.permissions.map PermissionRow.code = db.permissions.map StoredPermission.code :=
  List.map_map

@[simp] lemma toDB_roleIds (db : CatalogDB) :
    db.toDB.roles.map Role.id = db.roles.map fun r => r.id :=
  List.map_map

/-- The keys of the tables, their references, and the widths of the columns. -/
structure CatalogStored (db : CatalogDB) : Prop where
  tables : RolesStored db.toDB
  roleCodes : (db.roles.map fun r => (r.organizationId, r.code)).Nodup
  linkIds : (db.rolePermissions.map RolePermission.id).Nodup
  fits : ∀ row ∈ db.permissions, row.Fits

/-! ### `sync_permissions` -/

namespace SyncPermissions

/-- A turn leaves the rows of other codes, and the row of its own says what is declared. -/
lemma mem_declare {id : Ulid} {row : StoredPermission}
    (hold : ∀ row ∈ rows, row.code = p.code → row ∈ existing)
    (hcodes : (existing.map StoredPermission.code).Nodup)
    (hkeys : ∀ old ∈ existing, ∀ row ∈ rows, row.id = old.id ↔ row.code = old.code)
    (h : row ∈ declare existing rows p id) :
    (row ∈ rows ∧ row.code ≠ p.code) ∨ (row.code = p.code ∧ row.declaration = p) := by
  cases hfind : Tables.get StoredPermission.code p.code existing with
  | none =>
    -- A code without a row gets one.
    rw [declare_none hfind] at h
    rcases List.mem_append.mp h with hrow | hnew
    · refine .inl ⟨hrow, fun hcode => ?_⟩
      have hsome := Tables.get_isSome.mpr ⟨row, hold row hrow hcode, hcode⟩
      rw [hfind] at hsome
      cases hsome
    · obtain rfl := List.mem_singleton.mp hnew
      exact .inr ⟨rfl, rfl⟩
  | some found =>
    obtain ⟨hfound, hcode⟩ := Tables.get_mem hfind
    rw [declare_some hfind] at h
    -- The row says what is declared already.
    by_cases hsame : found.declaration = p
    · rw [if_pos hsame] at h
      by_cases hrow : row.code = p.code
      · obtain rfl : row = found := List.inj_on_of_nodup_map hcodes (hold row h hrow) hfound
          (hrow.trans hcode.symm)
        exact .inr ⟨hrow, hsame⟩
      · exact .inl ⟨h, hrow⟩
    · -- The row is rewritten.
      rw [if_neg hsame] at h
      obtain ⟨old, hmem, rfl⟩ := Tables.mem_set.mp h
      by_cases hid : old.id = found.id
      · rw [if_pos hid]
        exact .inr ⟨((hkeys found hfound old hmem).mp hid).trans hcode, rfl⟩
      · rw [if_neg hid]
        exact .inl ⟨hmem, fun he => hid ((hkeys found hfound old hmem).mpr (he.trans hcode.symm))⟩

/-- Rows whose code is done say what is declared; the others are as they were. -/
structure UpToDate (existing : List StoredPermission) (done : List DeclaredPermission)
    (rows : List StoredPermission) : Prop where
  written : ∀ row ∈ rows, ∀ p ∈ done, row.code = p.code → row.declaration = p
  kept : ∀ row ∈ rows, row.code ∉ done.map (·.code) → row ∈ existing

lemma UpToDate.declare {id : Ulid} (h : UpToDate existing done rows)
    (hfresh : p.code ∉ done.map (·.code)) (hcodes : (existing.map StoredPermission.code).Nodup)
    (hkeys : ∀ old ∈ existing, ∀ row ∈ rows, row.id = old.id ↔ row.code = old.code) :
    UpToDate existing (done ++ [p]) (declare existing rows p id) := by
  have hold : ∀ row ∈ rows, row.code = p.code → row ∈ existing := fun row hrow hcode =>
    h.kept row hrow (hcode ▸ hfresh)
  constructor
  · intro row hrow q hq he
    rcases List.mem_append.mp hq with hq | hq
    · rcases mem_declare hold hcodes hkeys hrow with ⟨hmem, -⟩ | ⟨hcode, -⟩
      · exact h.written row hmem q hq he
      · exact absurd (hcode ▸ he ▸ List.mem_map_of_mem hq) hfresh
    · obtain rfl := List.mem_singleton.mp hq
      rcases mem_declare hold hcodes hkeys hrow with ⟨-, hne⟩ | ⟨-, hrow⟩
      · exact absurd he hne
      · exact hrow
  · intro row hrow hc
    rw [List.map_append, List.mem_append, not_or] at hc
    rcases mem_declare hold hcodes hkeys hrow with ⟨hmem, -⟩ | ⟨hcode, -⟩
    · exact h.kept row hmem hc.1
    · exact absurd (List.mem_singleton.mpr hcode) hc.2

/-- Ids and codes occur once. -/
structure Distinct (rows : List StoredPermission) : Prop where
  ids : (rows.map StoredPermission.id).Nodup
  codes : (rows.map StoredPermission.code).Nodup

lemma key_iff (h : Distinct rows) (hold : ∀ old ∈ existing, key old ∈ rows.map key) :
    ∀ old ∈ existing, ∀ row ∈ rows, row.id = old.id ↔ row.code = old.code := by
  intro old hmem row hrow
  obtain ⟨row', hrow', he⟩ := List.mem_map.mp (hold old hmem)
  obtain ⟨hid, hcode⟩ := Prod.mk.inj he
  rw [← hid, ← hcode]
  constructor
  · exact fun he => congrArg _ (List.inj_on_of_nodup_map h.ids hrow hrow' he)
  · exact fun he => congrArg _ (List.inj_on_of_nodup_map h.codes hrow hrow' he)

lemma upToDate_declareAll (hexisting : (existing.map StoredPermission.code).Nodup)
    {left : List (DeclaredPermission × ℕ)} (h : UpToDate existing done rows)
    (hdone : ((done ++ left.map Prod.fst).map (·.code)).Nodup)
    (hold : ∀ old ∈ existing, key old ∈ rows.map key)
    (hall : Distinct (declareAll existing draw rows left)) :
    UpToDate existing (done ++ left.map Prod.fst) (declareAll existing draw rows left) := by
  induction left generalizing done rows with
  | nil =>
    rw [List.map_nil, List.append_nil]
    exact h
  | cons pn left ih =>
    obtain ⟨p, n⟩ := pn
    have hkeys : ∀ old ∈ existing, ∀ row ∈ rows, row.id = old.id ↔ row.code = old.code := by
      have hids := hall.ids
      have hcodes := hall.codes
      rw [ids_declareAll] at hids
      rw [codes_declareAll] at hcodes
      exact key_iff ⟨hids.of_append_left, hcodes.of_append_left⟩ hold
    have hfresh : p.code ∉ done.map (·.code) := by
      rw [List.map_append, List.nodup_append] at hdone
      exact fun hmem => hdone.2.2 _ hmem _ (List.mem_cons_self ..) rfl
    have hnext : UpToDate existing (done ++ [p])
        (SyncPermissions.declare existing rows p (draw n)) :=
      h.declare hfresh hexisting hkeys
    rw [List.map_cons, List.append_cons] at hdone ⊢
    refine ih hnext hdone (fun old hmem => ?_) hall
    rw [key_declare]
    exact List.mem_append_left _ (hold old hmem)

/-- The columns hold what is declared. -/
def Fits (p : DeclaredPermission) : Prop := ∀ k, (newRow p k).Fits

lemma fits_declare {k : Ulid} (hp : Fits p) (h : ∀ row ∈ rows, row.Fits) :
    ∀ row ∈ declare existing rows p k, row.Fits := by
  intro row hrow
  unfold declare at hrow
  split at hrow
  · rcases List.mem_append.mp hrow with hrow | hrow
    · exact h row hrow
    · obtain rfl := List.mem_singleton.mp hrow
      exact hp k
  · split at hrow
    · exact h row hrow
    · obtain ⟨old, hmem, rfl⟩ := Tables.mem_set.mp hrow
      split
      · exact ⟨(h old hmem).1, (hp k).2⟩
      · exact h old hmem

lemma fits_declareAll {left : List (DeclaredPermission × ℕ)} (hp : ∀ pn ∈ left, Fits pn.1)
    (h : ∀ row ∈ rows, row.Fits) : ∀ row ∈ declareAll existing draw rows left, row.Fits := by
  induction left generalizing rows with
  | nil => exact h
  | cons pn left ih =>
    exact ih (fun q hq => hp q (List.mem_cons_of_mem _ hq))
      (fits_declare (hp pn (List.mem_cons_self ..)) h)

/-- The ids that a run draws are new, and differ. -/
structure Draws (draw : ℕ → Ulid) (bound : ℕ) (used : List Ulid) : Prop where
  inj : Set.InjOn draw (Set.Iio bound)
  fresh : ∀ n < bound, draw n ∉ used

lemma nodup_added_ids (hdraw : Set.InjOn draw (Set.Iio declared.length)) :
    ((added existing draw declared.zipIdx).map Prod.fst).Nodup := by
  have hnumbers : ((declared.zipIdx.filter fun pn =>
      pn.1.code ∉ existing.map StoredPermission.code).map Prod.snd).Sublist
      (List.range declared.length) := by
    have hall : declared.zipIdx.map Prod.snd = List.range declared.length := by
      rw [List.zipIdx_map_snd, List.range_eq_range']
    exact hall ▸ List.filter_sublist.map _
  have hids : (added existing draw declared.zipIdx).map Prod.fst =
      ((declared.zipIdx.filter fun pn =>
        pn.1.code ∉ existing.map StoredPermission.code).map Prod.snd).map draw := by
    rw [added, List.map_map, List.map_map]
    rfl
  rw [hids]
  refine List.Nodup.map_on (fun n hn m hm => ?_) (List.nodup_range.sublist hnumbers)
  exact hdraw (List.mem_range.mp (hnumbers.subset hn)) (List.mem_range.mp (hnumbers.subset hm))

lemma added_codes_sublist : ((added existing draw declared.zipIdx).map Prod.snd).Sublist
    (declared.map (·.code)) := by
  have hcodes : (added existing draw declared.zipIdx).map Prod.snd =
      ((declared.zipIdx.filter fun pn =>
        pn.1.code ∉ existing.map StoredPermission.code).map Prod.fst).map (·.code) := by
    rw [added, List.map_map, List.map_map]
    rfl
  have hsome := (List.filter_sublist (p := fun pn : DeclaredPermission × ℕ =>
    pn.1.code ∉ existing.map StoredPermission.code) (l := declared.zipIdx)).map Prod.fst
  rw [List.zipIdx_map_fst] at hsome
  rw [hcodes]
  exact hsome.map _

lemma mem_added {k : Ulid} {c : String} (h : (k, c) ∈ added existing draw declared.zipIdx) :
    (∃ n < declared.length, draw n = k) ∧ c ∉ existing.map StoredPermission.code := by
  obtain ⟨⟨p, n⟩, hp, he⟩ := List.mem_map.mp h
  obtain ⟨hzip, hnew⟩ := List.mem_filter.mp hp
  obtain ⟨rfl, rfl⟩ := Prod.mk.inj he
  exact ⟨⟨n, (List.mem_zipIdx' hzip).1, rfl⟩, of_decide_eq_true hnew⟩

lemma distinct_declareAll (h : Distinct existing) (hdeclared : (declared.map (·.code)).Nodup)
    (hdraw : Draws draw declared.length (existing.map StoredPermission.id)) :
    Distinct (declareAll existing draw existing declared.zipIdx) := by
  constructor
  · rw [ids_declareAll]
    refine h.ids.append (nodup_added_ids hdraw.inj) fun k hold hnew => ?_
    obtain ⟨⟨k', c⟩, hmem, rfl⟩ := List.mem_map.mp hnew
    obtain ⟨⟨n, hn, rfl⟩, -⟩ := mem_added hmem
    exact hdraw.fresh n hn hold
  · rw [codes_declareAll]
    refine h.codes.append (hdeclared.sublist added_codes_sublist) fun c hold hnew => ?_
    obtain ⟨⟨k, c'⟩, hmem, rfl⟩ := List.mem_map.mp hnew
    exact (mem_added hmem).2 hold

lemma declareAll_kept (h : Distinct (declareAll existing draw existing declared.zipIdx)) :
    ∀ old ∈ existing, ∀ row ∈ declareAll existing draw existing declared.zipIdx,
      row.id = old.id ↔ row.code = old.code := by
  refine key_iff h fun old hold => ?_
  rw [key_declareAll]
  exact List.mem_append_left _ (List.mem_map_of_mem hold)

lemma declareAll_upToDate (h : Distinct (declareAll existing draw existing declared.zipIdx))
    (hdeclared : (declared.map (·.code)).Nodup) :
    UpToDate existing declared (declareAll existing draw existing declared.zipIdx) := by
  have hall : declared.zipIdx.map Prod.fst = declared := List.zipIdx_map_fst 0 declared
  have hexisting : (existing.map StoredPermission.code).Nodup := by
    have hcodes := h.codes
    rw [codes_declareAll] at hcodes
    exact hcodes.of_append_left
  have hnone : UpToDate existing [] existing :=
    ⟨fun _ _ _ hp => absurd hp List.not_mem_nil, fun _ hrow _ => hrow⟩
  have hrun := upToDate_declareAll hexisting hnone (by rwa [hall, List.nil_append])
    (fun old hold => List.mem_map_of_mem hold) h
  rwa [hall, List.nil_append] at hrun

lemma mem_stale (h : Distinct (declareAll existing draw existing declared.zipIdx))
    (hdeclared : (declared.map (·.code)).Nodup) :
    ∀ row ∈ declareAll existing draw existing declared.zipIdx,
      row.id ∈ stale existing declared ↔ row.code ∉ declared.map (·.code) := by
  intro row hrow
  constructor
  · intro hin
    obtain ⟨old, hold, he⟩ := List.mem_map.mp hin
    obtain ⟨hmem, hnot⟩ := List.mem_filter.mp hold
    have hcode := (declareAll_kept h old hmem row hrow).mp he.symm
    exact hcode ▸ of_decide_eq_true hnot
  · intro hnot
    have hold := (declareAll_upToDate h hdeclared).kept row hrow hnot
    exact List.mem_map_of_mem (List.mem_filter.mpr ⟨hold, decide_eq_true hnot⟩)

lemma mem_codes_declareAll {c : String} (h : c ∈ declared.map (·.code)) :
    c ∈ (declareAll existing draw existing declared.zipIdx).map StoredPermission.code := by
  rw [codes_declareAll, List.mem_append]
  by_cases hold : c ∈ existing.map StoredPermission.code
  · exact .inl hold
  · obtain ⟨p, hp, rfl⟩ := List.mem_map.mp h
    obtain ⟨n, hzip⟩ := SyncRoles.exists_zipIdx hp
    refine .inr (List.mem_map.mpr ⟨(draw n, p.code), List.mem_map.mpr ⟨(p, n), ?_, rfl⟩, rfl⟩)
    exact List.mem_filter.mpr ⟨hzip, decide_eq_true hold⟩

/-- The permission table is the registry. -/
def Registered (declared : List DeclaredPermission) (db : CatalogDB) : Prop :=
  (db.permissions.map fun row => (row.code, row.declaration)).Perm
    (declared.map fun p => (p.code, p))

/-- **The permission table becomes the registry.** -/
theorem run_registered (hdeclared : (declared.map (·.code)).Nodup)
    (h : run declared draw db = .ok db') : Registered declared db' := by
  obtain ⟨⟨hids, hcodes, -⟩, rfl⟩ := run_ok.mp h
  have hstale := mem_stale ⟨hids, hcodes⟩ hdeclared
  have hwritten := (declareAll_upToDate ⟨hids, hcodes⟩ hdeclared).written
  refine (List.perm_ext_iff_of_nodup ?_ ?_).mpr fun ⟨c, q⟩ => ?_
  · refine List.Nodup.of_map Prod.fst ?_
    rw [List.map_map]
    exact hcodes.sublist (List.filter_sublist.map _)
  · refine List.Nodup.of_map Prod.fst ?_
    rwa [List.map_map]
  · simp only [List.mem_map, List.mem_filter, Prod.mk.injEq, decide_eq_true_eq]
    constructor
    · rintro ⟨row, ⟨hrow, hkept⟩, rfl, rfl⟩
      obtain ⟨p, hp, he⟩ := List.mem_map.mp (not_not.mp fun hn => hkept ((hstale row hrow).mpr hn))
      exact ⟨p, hp, he, (hwritten row hrow p hp he.symm).symm⟩
    · rintro ⟨p, hp, rfl, rfl⟩
      have hcode := List.mem_map_of_mem (f := (·.code)) hp
      obtain ⟨row, hrow, he⟩ := List.mem_map.mp (mem_codes_declareAll hcode)
      refine ⟨row, ⟨hrow, fun hin => ?_⟩, he, hwritten row hrow p hp he⟩
      exact (hstale row hrow).mp hin (he ▸ hcode)

lemma run_completes (hstored : CatalogStored db) (hdeclared : (declared.map (·.code)).Nodup)
    (hfits : ∀ p ∈ declared, Fits p)
    (hdraw : Draws draw declared.length (db.permissions.map StoredPermission.id)) :
    ∃ db', run declared draw db = .ok db' := by
  have hdistinct : Distinct db.permissions :=
    ⟨toDB_permissionIds db ▸ hstored.tables.ids, toDB_permissionCodes db ▸ hstored.tables.codes⟩
  obtain ⟨hids, hcodes⟩ := distinct_declareAll hdistinct hdeclared hdraw
  refine ⟨_, run_ok.mpr ⟨⟨hids, hcodes, fits_declareAll (fun pn hpn => ?_) hstored.fits⟩, rfl⟩⟩
  exact hfits pn.1 (List.fst_mem_of_mem_zipIdx hpn)

lemma run_links (hstored : CatalogStored db) (h : run declared draw db = .ok db') :
    db'.rolePermissions = db.rolePermissions.filter
      (·.permissionId ∈ db'.permissions.map StoredPermission.id) := by
  obtain ⟨-, rfl⟩ := run_ok.mp h
  refine List.filter_congr fun l hl => decide_eq_decide.mpr ?_
  constructor
  · intro hkept
    obtain ⟨old, hold, hid⟩ := List.mem_map.mp (toDB_permissionIds db ▸ hstored.tables.known l hl)
    have hkey : key old ∈
        (declareAll db.permissions draw db.permissions declared.zipIdx).map key := by
      rw [key_declareAll]
      exact List.mem_append_left _ (List.mem_map_of_mem hold)
    obtain ⟨row, hrow, he⟩ := List.mem_map.mp hkey
    have hsame : row.id = l.permissionId := (Prod.mk.inj he).1.trans hid
    exact hsame ▸ List.mem_map_of_mem (List.mem_filter.mpr ⟨hrow, decide_eq_true (hsame ▸ hkept)⟩)
  · intro hin
    obtain ⟨row, hrow, hid⟩ := List.mem_map.mp hin
    exact hid ▸ of_decide_eq_true (List.mem_filter.mp hrow).2

lemma run_stored (hstored : CatalogStored db) (h : run declared draw db = .ok db') :
    CatalogStored db' := by
  have hlinks := run_links hstored h
  obtain ⟨⟨hids, hcodes, hfits⟩, rfl⟩ := run_ok.mp h
  have hsub : (db.rolePermissions.filter
      (·.permissionId ∉ stale db.permissions declared)).Sublist db.rolePermissions :=
    List.filter_sublist
  have hknown : ∀ l ∈ db.rolePermissions.filter
      (·.permissionId ∉ stale db.permissions declared), l.permissionId ∈
        ((declareAll db.permissions draw db.permissions declared.zipIdx).filter
          (·.id ∉ stale db.permissions declared)).map StoredPermission.id := by
    intro l hl
    rw [show db.rolePermissions.filter _ = _ from hlinks] at hl
    exact of_decide_eq_true (List.mem_filter.mp hl).2
  refine ⟨⟨hstored.tables.roles, ?_, ?_, hstored.tables.pairs.sublist (hsub.map _),
    fun l hl => hstored.tables.owned l (hsub.subset hl), fun l hl => ?_⟩, hstored.roleCodes,
    hstored.linkIds.sublist (hsub.map _), fun row hrow => hfits row (List.mem_filter.mp hrow).1⟩
  · rw [toDB_permissionIds]
    exact hids.sublist (List.filter_sublist.map _)
  · rw [toDB_permissionCodes]
    exact hcodes.sublist (List.filter_sublist.map _)
  · rw [toDB_permissionIds]
    exact hknown l hl

lemma declareAll_same {left : List (DeclaredPermission × ℕ)}
    (h : ∀ pn ∈ left, ∃ row, Tables.get StoredPermission.code pn.1.code existing = some row ∧
      row.declaration = pn.1) : declareAll existing draw rows left = rows := by
  induction left generalizing rows with
  | nil => rfl
  | cons pn left ih =>
    obtain ⟨row, hget, hsame⟩ := h pn (List.mem_cons_self ..)
    have hturn : declare existing rows pn.1 (draw pn.2) = rows := by
      rw [declare_some hget, if_pos hsame]
    calc declareAll existing draw rows (pn :: left)
        = declareAll existing draw (declare existing rows pn.1 (draw pn.2)) left := rfl
      _ = declareAll existing draw rows left := by rw [hturn]
      _ = rows := ih fun q hq => h q (List.mem_cons_of_mem _ hq)

/-- **Where the table is the registry, nothing is done.** -/
theorem run_again (hstored : CatalogStored db) (h : Registered declared db) :
    run declared draw db = .ok db := by
  have hids := toDB_permissionIds db ▸ hstored.tables.ids
  have hcodes := toDB_permissionCodes db ▸ hstored.tables.codes
  have hrow : ∀ p ∈ declared, ∃ row,
      Tables.get StoredPermission.code p.code db.permissions = some row ∧ row.declaration = p := by
    intro p hp
    obtain ⟨row, hrow, he⟩ := List.mem_map.mp (h.mem_iff.mpr (List.mem_map_of_mem hp))
    obtain ⟨hcode, hdeclaration⟩ := Prod.mk.inj he
    exact ⟨row, hcode ▸ Tables.get_of_mem hcodes hrow, hdeclaration⟩
  have hsame : declareAll db.permissions draw db.permissions declared.zipIdx = db.permissions :=
    declareAll_same fun pn hpn => hrow pn.1 (List.fst_mem_of_mem_zipIdx hpn)
  have hstale : stale db.permissions declared = [] := by
    refine List.map_eq_nil_iff.mpr (List.filter_eq_nil_iff.mpr fun row hrow hnot => ?_)
    obtain ⟨p, hp, he⟩ := List.mem_map.mp (h.mem_iff.mp (List.mem_map_of_mem hrow))
    exact of_decide_eq_true hnot ((Prod.mk.inj he).1 ▸ List.mem_map_of_mem hp)
  refine run_ok.mpr ⟨by rw [hsame]; exact ⟨hids, hcodes, hstored.fits⟩, ?_⟩
  have hrows : db.permissions.filter (·.id ∉ ([] : List Ulid)) = db.permissions :=
    List.filter_eq_self.mpr fun _ _ => decide_eq_true List.not_mem_nil
  have hlinks : db.rolePermissions.filter (·.permissionId ∉ ([] : List Ulid)) =
      db.rolePermissions := List.filter_eq_self.mpr fun _ _ => decide_eq_true List.not_mem_nil
  rw [hsame, hstale, hrows, hlinks]

end SyncPermissions

end SchoolOs
