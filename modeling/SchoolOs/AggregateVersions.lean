import Mathlib.Data.Multiset.Basic
import SchoolOs.Announcements
import SchoolOs.Confinement
import SchoolOs.PlatformRoles

/-!
Versions and what belongs to a row: the targets of an announcement and the permission links of a
role live in tables of their own, and their edits show in the version of the row only when a
column of the row changes with them.
-/

namespace SchoolOs

/-! ### Versions that never fall -/

section NeverFalls

variable {σ ι : Type*} (version : σ → Option ℕ)

/-- The version, where there is one, is there later and no smaller. -/
def NeverFalls (s s' : σ) : Prop := ∀ v, version s = some v → ∃ v', version s' = some v' ∧ v ≤ v'

variable {version} {s s' s'' : σ}

lemma NeverFalls.refl (s : σ) : NeverFalls version s s := fun v hv => ⟨v, hv, le_refl v⟩

lemma NeverFalls.trans (h : NeverFalls version s s') (h' : NeverFalls version s' s'') :
    NeverFalls version s s'' := by
  intro v hv
  obtain ⟨v', hv', hle⟩ := h v hv
  obtain ⟨v'', hv'', hle'⟩ := h' v' hv'
  exact ⟨v'', hv'', hle.trans hle'⟩

lemma neverFalls_of_eq (h : version s' = version s) : NeverFalls version s s' :=
  fun v hv => ⟨v, h.trans hv, le_refl v⟩

/-- **Outdated for good**: a version that was overtaken is never met again. -/
theorem overtaken {step : σ → ι → σ} {I : σ → Prop} (hI : ∀ s i, I s → I (step s i))
    (hstep : ∀ s i, I s → NeverFalls version s (step s i)) {v w : ℕ} (hs : I s)
    (hw : version s = some w) (hlt : v < w) (l : List ι) :
    version (Runs.run step s l) ≠ some v := by
  have hrel : NeverFalls version s (Runs.run step s l) :=
    Runs.relates (P := fun _ _ => True) NeverFalls.refl NeverFalls.trans (fun s i _ => hI s i)
      (fun s i _ => hstep s i) (Runs.along_of_forall (fun _ _ => trivial) l s) hs
  obtain ⟨v', hv', hle⟩ := hrel w hw
  rw [hv']
  intro he
  exact absurd (Option.some.inj he ▸ hle) (Nat.not_le.mpr hlt)

end NeverFalls

/-! ### Announcements -/

/-- Whom a target addresses. -/
def AnnouncementTarget.addressee (t : AnnouncementTarget) :
    AnnouncementTargetType × Option Ulid := (t.targetType, t.targetId)

def AnnouncementTargetCreate.addressee (t : AnnouncementTargetCreate) :
    AnnouncementTargetType × Option Ulid := (t.targetType, t.targetId)

/-- Whom an announcement is addressed to. -/
def BoardDB.audience (db : BoardDB) (a : Announcement) :
    Multiset (AnnouncementTargetType × Option Ulid) :=
  ((targetRows db a.schoolId a.id).map AnnouncementTarget.addressee : List _)

section Targets

variable {db db' : BoardDB}

lemma insertTargets_ok {targets targets' : Table AnnouncementTarget.id}
    {rows : List AnnouncementTarget} (h : insertTargets targets rows = .ok targets') :
    targets'.rows = targets.rows ++ rows := by
  induction rows generalizing targets with
  | nil =>
    obtain rfl := pure_ok.mp h
    exact (List.append_nil _).symm
  | cons t ts ih =>
    obtain ⟨next, hinsert, h⟩ := bind_ok.mp h
    obtain ⟨-, hrows⟩ := Table.insert_eq_some.mp (found_ok.mp hinsert)
    rw [ih h, ← hrows, List.append_assoc, List.singleton_append]

lemma map_addressee_row {announcementId schoolId organizationId : Ulid} {draw : ℕ → Ulid}
    (targets : List AnnouncementTargetCreate) :
    (targets.zipIdx.map fun p => p.1.row announcementId schoolId organizationId (draw p.2)).map
      AnnouncementTarget.addressee = targets.map AnnouncementTargetCreate.addressee := by
  calc (targets.zipIdx.map fun p => p.1.row announcementId schoolId organizationId (draw p.2)).map
        AnnouncementTarget.addressee
      = (targets.zipIdx.map Prod.fst).map AnnouncementTargetCreate.addressee := by
        rw [List.map_map, List.map_map]
        rfl
    _ = targets.map AnnouncementTargetCreate.addressee := by rw [List.zipIdx_map_fst]

lemma replaceTargets_ok {announcementId schoolId organizationId : Ulid}
    {targets : List AnnouncementTargetCreate} {draw : ℕ → Ulid}
    (h : replaceTargets db announcementId schoolId organizationId targets draw = .ok db') :
    db'.announcements = db.announcements ∧
      (targetRows db' schoolId announcementId).map AnnouncementTarget.addressee =
        targets.map AnnouncementTargetCreate.addressee := by
  obtain ⟨rows, hinsert, h⟩ := bind_ok.mp h
  obtain rfl := pure_ok.mp h
  refine ⟨rfl, ?_⟩
  have hgone : (db.announcementTargets.rows.filter fun t =>
      !decide (t.announcementId = announcementId ∧ t.schoolId = schoolId)).filter (fun t =>
        decide (t.announcementId = announcementId ∧ t.schoolId = schoolId)) = [] := by
    rw [List.filter_filter, List.filter_eq_nil_iff]
    intro t _
    simp
  have hnew : ∀ t ∈ targets.zipIdx.map fun p =>
      p.1.row announcementId schoolId organizationId (draw p.2),
      decide (t.announcementId = announcementId ∧ t.schoolId = schoolId) = true := by
    intro t ht
    obtain ⟨p, -, rfl⟩ := List.mem_map.mp ht
    exact decide_eq_true ⟨rfl, rfl⟩
  rw [targetRows, insertTargets_ok hinsert, List.filter_append, Table.deleteWhere, hgone,
    List.nil_append, List.filter_eq_self.mpr hnew, map_addressee_row]

end Targets

namespace Announcements

/-- A column of the row changes: another was the last to edit it, or a field that is given
differs. -/
def RowTouched (ctx : RequestContext) (a : Announcement) (data : AnnouncementUpdate) : Prop :=
  a.updatedById ≠ ctx.userId ∨ (∃ t ∈ data.title, t ≠ a.title) ∨ (∃ b ∈ data.body, b ≠ a.body) ∨
    (∃ p ∈ data.priority, p ≠ a.priority) ∨ ∃ e ∈ data.expiresAt, a.expiresAt ≠ some e

variable {env : SchoolEnv} {clk : Clock} {ctx : RequestContext} {db db' : BoardDB}
  {a r : Announcement}

lemma applied_ne {data : AnnouncementUpdate} (h : RowTouched ctx a data) :
    applied ctx a data ≠ a := by
  intro he
  rcases h with h | ⟨t, ht, h⟩ | ⟨b, hb, h⟩ | ⟨p, hp, h⟩ | ⟨e, hx, h⟩
  · exact h (congrArg Announcement.updatedById he).symm
  · have htitle := congrArg Announcement.title he
    rw [applied, Option.mem_def.mp ht] at htitle
    exact h htitle
  · have hbody := congrArg Announcement.body he
    rw [applied, Option.mem_def.mp hb] at hbody
    exact h hbody
  · have hpriority := congrArg Announcement.priority he
    rw [applied, Option.mem_def.mp hp] at hpriority
    exact h hpriority
  · have hexpires := congrArg Announcement.expiresAt he
    rw [applied, Option.mem_def.mp hx] at hexpires
    exact h hexpires.symm

lemma getOwned_ok {k : Ulid} (h : getOwned ctx db k = .ok a) :
    a ∈ db.announcements ∧ a.id = k := by
  obtain ⟨schoolId, -, h⟩ := bind_ok.mp h
  obtain ⟨hget, -⟩ := Option.filter_eq_some_iff.mp (found_ok.mp h)
  exact Table.get_eq_some.mp hget

lemma save_ok {new : Announcement} (ha : a ∈ db.announcements) (h : save db a new = .ok db') :
    db' = { db with announcements := db.announcements.put (flushed Announcement.touch a new) } := by
  unfold save at h
  split at h
  · next hsame =>
    obtain rfl := pure_ok.mp h
    rw [flushed, if_pos hsame, Table.put_self ha]
  · next hne =>
    obtain ⟨-, -, h⟩ := bind_ok.mp h
    rw [flushed, if_neg hne]
    exact (pure_ok.mp h).symm

lemma retarget_announcements {draw : ℕ → Ulid} {targets : Option (List AnnouncementTargetCreate)}
    (h : retarget db a draw targets = .ok db') : db'.announcements = db.announcements := by
  cases targets with
  | none =>
    obtain rfl := pure_ok.mp h
    rfl
  | some targets => exact (replaceTargets_ok h).1

lemma audience_retarget {draw : ℕ → Ulid} {targets : Option (List AnnouncementTargetCreate)}
    (h : retarget db a draw targets = .ok db') :
    db'.audience a = targets.elim (db.audience a) fun targets =>
      (targets.map AnnouncementTargetCreate.addressee : List _) := by
  cases targets with
  | none =>
    obtain rfl := pure_ok.mp h
    rfl
  | some targets => exact congrArg _ (replaceTargets_ok h).2

lemma update_ok {data : AnnouncementUpdate} {draw : ℕ → Ulid} (ha : a ∈ db.announcements)
    (h : update env ctx db a data draw = .ok (r, db')) :
    a.version = data.version ∧ db'.announcements =
      db.announcements.put (flushed Announcement.touch a (applied ctx a data)) ∧
      db'.audience a = data.targets.elim (db.audience a) fun targets =>
        (targets.map AnnouncementTargetCreate.addressee : List _) := by
  obtain ⟨_, hversion, h⟩ := bind_ok.mp h
  obtain ⟨db1, hsave, h⟩ := bind_ok.mp h
  obtain ⟨db2, hretarget, h⟩ := bind_ok.mp h
  obtain ⟨db3, haudit, h⟩ := bind_ok.mp h
  obtain rfl : db3 = db' := (Prod.mk.inj (pure_ok.mp h)).2
  obtain ⟨-, rfl⟩ := boardAudit_ok.mp haudit
  obtain rfl := save_ok ha hsave
  have haudience := audience_retarget hretarget
  refine ⟨ensure_ok.mp hversion, ?_, haudience⟩
  rw [boardLog_announcements, retarget_announcements hretarget]

/-- What a request that goes through does to the announcements: one is added, or one is written. -/
lemma handle_announcements {c : AnnouncementCall} (h : c.handle env db = .ok db') :
    (∃ new, db.announcements.insert new = some db'.announcements) ∨
      ∃ old new, old ∈ db.announcements ∧ new.id = old.id ∧ new.version = old.version ∧
        db'.announcements = db.announcements.put (flushed Announcement.touch old new) := by
  obtain ⟨ctx, clk, op⟩ := c
  cases op with
  | create data id draw =>
    -- A create adds a row; each of the others writes over the one that it looked up.
    obtain ⟨⟨a, db4⟩, hcreate, hdb⟩ := map_ok.mp h
    obtain rfl : db4 = db' := hdb
    obtain ⟨schoolId, -, h⟩ := bind_ok.mp hcreate
    obtain ⟨organizationId, -, h⟩ := bind_ok.mp h
    obtain ⟨db1, hinsert, h⟩ := bind_ok.mp h
    obtain ⟨db2, hreplace, h⟩ := bind_ok.mp h
    obtain ⟨db3, haudit, h⟩ := bind_ok.mp h
    obtain rfl : db3 = db4 := (Prod.mk.inj (pure_ok.mp h)).2
    obtain ⟨-, rfl⟩ := boardAudit_ok.mp haudit
    obtain ⟨announcements, hrow, hinsert⟩ := bind_ok.mp hinsert
    obtain ⟨-, -, hinsert⟩ := bind_ok.mp hinsert
    obtain rfl := pure_ok.mp hinsert
    refine .inl ⟨created ctx schoolId organizationId data id, ?_⟩
    rw [boardLog_announcements, (replaceTargets_ok hreplace).1]
    exact found_ok.mp hrow
  | update k data draw =>
    obtain ⟨a, howned, h⟩ := bind_ok.mp h
    obtain ⟨⟨r, db1⟩, hupdate, hdb⟩ := map_ok.mp h
    obtain rfl : db1 = db' := hdb
    obtain ⟨ha, -⟩ := getOwned_ok howned
    exact .inr ⟨a, applied ctx a data, ha, rfl, rfl, (update_ok ha hupdate).2.1⟩
  | publish k data eventId =>
    obtain ⟨a, howned, h⟩ := bind_ok.mp h
    obtain ⟨⟨r, db4⟩, hserved, hdb⟩ := map_ok.mp h
    obtain rfl : db4 = db' := hdb
    obtain ⟨-, -, h⟩ := bind_ok.mp hserved
    obtain ⟨-, -, h⟩ := bind_ok.mp h
    obtain ⟨db1, hsave, h⟩ := bind_ok.mp h
    obtain ⟨db2, henqueue, h⟩ := bind_ok.mp h
    obtain ⟨db3, haudit, h⟩ := bind_ok.mp h
    obtain rfl : db3 = db4 := (Prod.mk.inj (pure_ok.mp h)).2
    obtain ⟨-, rfl⟩ := boardAudit_ok.mp haudit
    obtain ⟨school, -, rfl⟩ := map_ok.mp henqueue
    obtain ⟨ha, -⟩ := getOwned_ok howned
    obtain rfl := save_ok ha hsave
    exact .inr ⟨a, published clk ctx a data, ha, rfl, rfl, rfl⟩
  | archive k version =>
    obtain ⟨a, howned, h⟩ := bind_ok.mp h
    obtain ⟨⟨r, db4⟩, hserved, hdb⟩ := map_ok.mp h
    obtain rfl : db4 = db' := hdb
    obtain ⟨-, -, h⟩ := bind_ok.mp hserved
    obtain ⟨-, -, h⟩ := bind_ok.mp h
    obtain ⟨db1, hsave, h⟩ := bind_ok.mp h
    obtain ⟨db3, haudit, h⟩ := bind_ok.mp h
    obtain rfl : db3 = db4 := (Prod.mk.inj (pure_ok.mp h)).2
    obtain ⟨-, rfl⟩ := boardAudit_ok.mp haudit
    obtain ⟨ha, -⟩ := getOwned_ok howned
    obtain rfl := save_ok ha hsave
    exact .inr ⟨a, archived ctx a, ha, rfl, rfl, rfl⟩
  | delete k version =>
    obtain ⟨a, howned, h⟩ := bind_ok.mp h
    obtain ⟨-, -, h⟩ := bind_ok.mp h
    obtain ⟨-, -, h⟩ := bind_ok.mp h
    obtain ⟨db1, hsave, haudit⟩ := bind_ok.mp h
    obtain ⟨-, rfl⟩ := boardAudit_ok.mp haudit
    obtain ⟨ha, -⟩ := getOwned_ok howned
    obtain rfl := save_ok ha hsave
    exact .inr ⟨a, deleted clk ctx a, ha, rfl, rfl, rfl⟩

end Announcements

/-- The version of an announcement. -/
def BoardDB.announcementVersion (k : Ulid) (db : BoardDB) : Option ℕ :=
  (db.announcements.get k).map Announcement.version

lemma version_flushed {ρ : Type} [DecidableEq ρ] (touch : ρ → ρ) (version : ρ → ℕ)
    (htouch : ∀ r, version (touch r) = version r + 1) {old new : ρ}
    (hnew : version new = version old) : version old ≤ version (flushed touch old new) := by
  unfold flushed
  split
  · exact le_refl _
  · rw [htouch, hnew]
    exact Nat.le_succ _

lemma announcementVersion_step (env : SchoolEnv) (k : Ulid) (db : BoardDB) (c : AnnouncementCall) :
    NeverFalls (BoardDB.announcementVersion k) db (c.step env db) := by
  unfold AnnouncementCall.step
  split
  · next db' hc =>
    intro v hv
    obtain ⟨a, hget, rfl⟩ := Option.map_eq_some_iff.mp hv
    rcases Announcements.handle_announcements hc with ⟨new, hinsert⟩ |
      ⟨old, new, hold, hid, hversion, hput⟩
    · refine ⟨a.version, ?_, le_refl _⟩
      rw [BoardDB.announcementVersion, Table.get_insert_of_get hinsert hget, Option.map_some]
    · have hkey : (flushed Announcement.touch old new).id = old.id :=
        (flushed_col Announcement.touch Announcement.id (fun _ => rfl) old new).trans hid
      rw [BoardDB.announcementVersion, hput, Table.get_put, hget, hkey]
      split
      · next hk =>
        obtain ⟨hmem, hak⟩ := Table.get_eq_some.mp hget
        obtain rfl : a = old := Table.eq_of_key hmem hold (hak.trans hk)
        exact ⟨_, rfl,
          version_flushed Announcement.touch Announcement.version (fun _ => rfl) hversion⟩
      · exact ⟨a.version, rfl, le_refl _⟩
  · exact NeverFalls.refl db

/-- The update changes the announcement: its row, or whom it is addressed to. -/
def ChangesAnnouncement (db db' : BoardDB) (a : Announcement) : Prop :=
  db'.announcements.get a.id ≠ some a ∨ db'.audience a ≠ db.audience a

/-- An update that changes an announcement raises its version, and no later update is taken with
the version it carried. -/
def AnnouncementCall.CoversVersion (env : SchoolEnv) (db : BoardDB) (c : AnnouncementCall) : Prop :=
  ∀ k data draw a db', c.op = .update k data draw → Announcements.getOwned c.ctx db k = .ok a →
    c.handle env db = .ok db' → ChangesAnnouncement db db' a →
    (∃ a', db'.announcements.get k = some a' ∧ a.version < a'.version) ∧
    ∀ (mid : List AnnouncementCall) (c' : AnnouncementCall) (data' : AnnouncementUpdate)
      (draw' : ℕ → Ulid), c'.op = .update k data' draw' → data'.version = data.version →
      let later := Runs.run (AnnouncementCall.step env) db' mid
      (∀ db'', c'.handle env later ≠ .ok db'') ∧
      ∀ a'', Announcements.getOwned c'.ctx later k = .ok a'' →
        c'.handle env later = .error staleResourceError

/-- An update touches the row, or addresses the announcement to the same as before. -/
def AnnouncementCall.Touches (db : BoardDB) (c : AnnouncementCall) : Prop :=
  ∀ k data draw a, c.op = .update k data draw → Announcements.getOwned c.ctx db k = .ok a →
    Announcements.RowTouched c.ctx a data ∨ ∀ targets ∈ data.targets,
      (targets.map AnnouncementTargetCreate.addressee : List _) = db.audience a

/-- An update with another version than the row's is answered as stale. -/
lemma announcementUpdate_stale {env : SchoolEnv} {db : BoardDB} {c : AnnouncementCall} {k : Ulid}
    {data : AnnouncementUpdate} {draw : ℕ → Ulid} (hop : c.op = .update k data draw)
    (hversion : db.announcementVersion k ≠ some data.version) :
    (∀ db', c.handle env db ≠ .ok db') ∧ ∀ a, Announcements.getOwned c.ctx db k = .ok a →
      c.handle env db = .error staleResourceError := by
  obtain ⟨ctx, clk, op⟩ := c
  obtain rfl : op = _ := hop
  have hstale : ∀ a, Announcements.getOwned ctx db k = .ok a →
      AnnouncementCall.handle env db ⟨ctx, clk, .update k data draw⟩ =
        .error staleResourceError := by
    intro a howned
    obtain ⟨ha, hid⟩ := Announcements.getOwned_ok howned
    have hne : a.version ≠ data.version := by
      intro he
      refine hversion ?_
      rw [BoardDB.announcementVersion, Table.get_eq_some.mpr ⟨ha, hid⟩, Option.map_some, he]
    simp only [AnnouncementCall.handle, howned, ok_bind, Announcements.update, ensure, if_neg hne,
      error_bind]
    rfl
  refine ⟨fun db' hok => ?_, hstale⟩
  obtain ⟨a, howned, -⟩ := bind_ok.mp hok
  rw [hstale a howned] at hok
  cases hok

theorem announcement_covers {env : SchoolEnv} {db : BoardDB} {c : AnnouncementCall}
    (h : c.Touches db) : c.CoversVersion env db := by
  intro k data draw a db' hop howned hc hchanges
  obtain ⟨ha, rfl⟩ := Announcements.getOwned_ok howned
  have hupdate : ∃ r, Announcements.update env c.ctx db a data draw = .ok (r, db') := by
    simp only [AnnouncementCall.handle, hop, howned, ok_bind] at hc
    obtain ⟨⟨r, _⟩, hupdate, rfl⟩ := map_ok.mp hc
    exact ⟨r, hupdate⟩
  obtain ⟨r, hupdate⟩ := hupdate
  obtain ⟨hversion, hput, haudience⟩ := Announcements.update_ok ha hupdate
  have hne : Announcements.applied c.ctx a data ≠ a := by
    rcases h a.id data draw a hop howned with htouched | hsame
    · exact Announcements.applied_ne htouched
    · -- A flush of the row as it was changes neither the row nor whom it is for.
      intro he
      rw [flushed, if_pos he, Table.put_self ha] at hput
      rcases hchanges with hrow | hwhom
      · exact hrow (hput ▸ Table.get_eq_some.mpr ⟨ha, rfl⟩)
      · refine hwhom (haudience.trans ?_)
        cases htargets : data.targets with
        | none => rfl
        | some targets => exact hsame targets htargets
  have hget : db'.announcements.get a.id = some (Announcements.applied c.ctx a data).touch := by
    have hid : (Announcements.applied c.ctx a data).touch.id = a.id := rfl
    rw [hput, flushed, if_neg hne, Table.get_put, hid, if_pos rfl,
      Table.get_eq_some.mpr ⟨ha, rfl⟩, Option.map_some]
  refine ⟨⟨_, hget, Nat.lt_succ_self _⟩, fun mid c' data' draw' hop' hsame => ?_⟩
  have hnow : db'.announcementVersion a.id = some (a.version + 1) := by
    rw [BoardDB.announcementVersion, hget]
    rfl
  refine announcementUpdate_stale hop' ?_
  rw [hsame, ← hversion]
  exact overtaken (I := fun _ => True) (fun _ _ _ => trivial)
    (fun db c _ => announcementVersion_step env a.id db c) trivial hnow (Nat.lt_succ_self _) mid

/-! ### Roles -/

/-- The version of a role. -/
def DB.roleVersion (k : Ulid) (db : DB) : Option ℕ :=
  (Tables.get Role.id k db.roles).map Role.version

/-- The permission links of a role. -/
def DB.linksOf (db : DB) (k : Ulid) : List RolePermission :=
  db.rolePermissions.filter (·.roleId = k)

namespace Roles

/-- A column of the row changes: another was the last to edit it, or a field that is given
differs. -/
def RowTouched (ctx : RequestContext) (role : Role) (data : RoleUpdate) : Prop :=
  role.updatedById ≠ ctx.userId ∨ (∃ n ∈ data.name, n ≠ role.name) ∨
    (∃ d ∈ data.description, role.description ≠ some d) ∨ ∃ s ∈ data.dataScope, s ≠ role.dataScope

variable {env : Env} {clk : Clock} {ctx : RequestContext} {db db' : DB} {role r : Role}

/-- The row with the fields of the payload that are given. -/
def edited (ctx : RequestContext) (role : Role) (data : RoleUpdate) : Role :=
  { applyUpdate data role with updatedById := ctx.userId }

lemma edited_ne {data : RoleUpdate} (h : RowTouched ctx role data) :
    edited ctx role data ≠ role := by
  intro he
  rcases h with h | ⟨n, hn, h⟩ | ⟨d, hd, h⟩ | ⟨s, hs, h⟩
  · exact h (congrArg Role.updatedById he).symm
  · have hname := congrArg Role.name he
    rw [edited, applyUpdate, Option.mem_def.mp hn] at hname
    exact h hname
  · have hdescription := congrArg Role.description he
    rw [edited, applyUpdate, Option.mem_def.mp hd] at hdescription
    exact h hdescription.symm
  · have hscope := congrArg Role.dataScope he
    rw [edited, applyUpdate, Option.mem_def.mp hs] at hscope
    exact h hscope

lemma getOwned_ok {k : Ulid} (h : getOwned ctx db k = .ok role) :
    role ∈ db.roles ∧ role.id = k := by
  unfold getOwned at h
  split at h
  · obtain ⟨role', hfound, h⟩ := bind_ok.mp h
    obtain ⟨-, -, h⟩ := bind_ok.mp h
    obtain rfl := pure_ok.mp h
    exact Tables.get_mem (found_ok.mp hfound)
  · obtain ⟨hmem, hid, -⟩ := getOrgRole_some (found_ok.mp h)
    exact ⟨hmem, hid⟩

lemma fetchPermissions_ok {codes : List String} {rows : List PermissionRow}
    (h : fetchPermissions db codes = .ok rows) :
    ∀ code, code ∈ rows.map PermissionRow.code ↔ code ∈ codes := by
  obtain ⟨-, -, h⟩ := bind_ok.mp h
  obtain ⟨_, hmissing, h⟩ := bind_ok.mp h
  obtain rfl := pure_ok.mp h
  have hnone := List.filter_eq_nil_iff.mp ((List.dedup_eq_nil _).mp (ensure_ok.mp hmissing))
  intro code
  constructor
  · intro hmem
    obtain ⟨p, hp, rfl⟩ := List.mem_map.mp hmem
    exact of_decide_eq_true (List.mem_filter.mp hp).2
  · intro hmem
    by_contra hnot
    exact hnone code hmem (decide_eq_true hnot)

lemma relink_same {draw : ℕ → Ulid} {codes : Option (List String)} {links : List RolePermission}
    (h : relink db role draw codes = .ok links)
    (hsame : ∀ l ∈ codes, ∀ code, code ∈ l ↔ code ∈ (linkCodes db role.id).map Prod.snd) :
    links = db.rolePermissions := by
  cases codes with
  | none => exact (pure_ok.mp h).symm
  | some codes =>
    obtain ⟨desired, hfetch, h⟩ := bind_ok.mp h
    obtain ⟨-, -, h⟩ := bind_ok.mp h
    obtain rfl := pure_ok.mp h
    have hcodes : ∀ code, code ∈ desired.map PermissionRow.code ↔
        code ∈ (linkCodes db role.id).map Prod.snd :=
      fun code => (fetchPermissions_ok hfetch code).trans (hsame codes rfl code)
    have hstale : (linkCodes db role.id).filter
        (fun lc => lc.2 ∉ desired.map PermissionRow.code) = [] := by
      refine List.filter_eq_nil_iff.mpr fun lc hlc hnot => ?_
      exact of_decide_eq_true hnot ((hcodes lc.2).mpr (List.mem_map_of_mem hlc))
    have hnew : desired.filter (fun p => p.code ∉ (linkCodes db role.id).map Prod.snd) = [] := by
      refine List.filter_eq_nil_iff.mpr fun p hp hnot => ?_
      exact of_decide_eq_true hnot ((hcodes p.code).mp (List.mem_map_of_mem hp))
    have hkept : db.rolePermissions.filter (· ∉ ([] : List RolePermission)) =
        db.rolePermissions := List.filter_eq_self.mpr fun l _ => decide_eq_true List.not_mem_nil
    rw [hstale, hnew, List.map_nil, hkept]
    exact List.append_nil _

lemma update_ok {data : RoleUpdate} {draw : ℕ → Ulid}
    (h : update env ctx db role data draw = .ok (r, db')) :
    role.version = data.version ∧
      relink db role draw data.permissionCodes = .ok db'.rolePermissions ∧
      db'.roles = Tables.set Role.id role.id
        (fun _ => flushed Role.touch role (edited ctx role data)) db.roles := by
  obtain ⟨_, hversion, h⟩ := bind_ok.mp h
  obtain ⟨-, -, h⟩ := bind_ok.mp h
  obtain ⟨links, hlinks, h⟩ := bind_ok.mp h
  obtain ⟨-, -, h⟩ := bind_ok.mp h
  obtain ⟨db1, haudit, h⟩ := bind_ok.mp h
  obtain rfl : db1 = db' := (Prod.mk.inj (pure_ok.mp h)).2
  obtain ⟨-, rfl⟩ := audit_ok.mp haudit
  have hkey : (flushed Role.touch role (edited ctx role data)).id = role.id :=
    flushed_col Role.touch Role.id (fun _ => rfl) role (edited ctx role data)
  refine ⟨ensure_ok.mp hversion, hlinks, ?_⟩
  exact congrArg (fun k => Tables.set Role.id k
    (fun _ => flushed Role.touch role (edited ctx role data)) db.roles) hkey

end Roles

/-- What a request does to the roles: nothing, or one is added, or one is written. -/
lemma serve_roles {env : Env} {clk : Clock} {ctx : RequestContext} {db db' : DB} {op : IamOp}
    (h : op.serve env clk ctx db = .ok db') : db'.roles = db.roles ∨
      (∃ new, (∀ r ∈ db.roles, r.id ≠ new.id) ∧ db'.roles = db.roles ++ [new]) ∨
      ∃ old new, old ∈ db.roles ∧ new.id = old.id ∧ new.version = old.version ∧
        db'.roles = Tables.set Role.id old.id (fun _ => flushed Role.touch old new) db.roles := by
  cases op with
  | createRole data roleId draw =>
    obtain ⟨⟨role, db1⟩, hcreate, rfl⟩ := ok_of_service h
    obtain ⟨organizationId, -, hcreate⟩ := bind_ok.mp hcreate
    obtain ⟨-, -, hcreate⟩ := bind_ok.mp hcreate
    obtain ⟨permissions, -, hcreate⟩ := bind_ok.mp hcreate
    obtain ⟨_, hrow, hcreate⟩ := bind_ok.mp hcreate
    obtain ⟨-, -, hcreate⟩ := bind_ok.mp hcreate
    obtain ⟨db2, haudit, hcreate⟩ := bind_ok.mp hcreate
    obtain rfl : db2 = db1 := (Prod.mk.inj (pure_ok.mp hcreate)).2
    obtain ⟨-, rfl⟩ := audit_ok.mp haudit
    refine .inr (.inl ⟨_, fun r hr => ?_, rfl⟩)
    exact (ensure_ok.mp hrow).2.1.2 _ (List.mem_singleton.mpr rfl) r hr
  | updateRole k data draw =>
    obtain ⟨role, howned, h⟩ := bind_ok.mp h
    obtain ⟨⟨r, db1⟩, hupdate, rfl⟩ := ok_of_service h
    obtain ⟨hrole, -⟩ := Roles.getOwned_ok howned
    exact .inr (.inr ⟨role, Roles.edited ctx role data, hrole, rfl, rfl,
      (Roles.update_ok hupdate).2.2⟩)
  | deleteRole k version =>
    obtain ⟨role, howned, h⟩ := bind_ok.mp h
    obtain ⟨⟨r, db1⟩, hdelete, rfl⟩ := ok_of_service h
    obtain ⟨hrole, -⟩ := Roles.getOwned_ok howned
    obtain ⟨-, -, hdelete⟩ := bind_ok.mp hdelete
    obtain ⟨-, -, hdelete⟩ := bind_ok.mp hdelete
    obtain ⟨db2, haudit, hdelete⟩ := bind_ok.mp hdelete
    obtain rfl : db2 = db1 := (Prod.mk.inj (pure_ok.mp hdelete)).2
    obtain ⟨-, rfl⟩ := audit_ok.mp haudit
    let new := { role with archivedAt := some clk.now, updatedById := ctx.userId }
    have hkey : (flushed Role.touch role new).id = role.id :=
      flushed_col Role.touch Role.id (fun _ => rfl) role new
    refine .inr (.inr ⟨role, new, hrole, rfl, rfl, ?_⟩)
    exact congrArg (fun k => Tables.set Role.id k (fun _ => flushed Role.touch role new) db.roles)
      hkey
  | createMembership | updateMembership | endMembership | grantRole | revokeRole | createUser =>
    -- None of these writes roles.
    cases serve_effect h
    exact .inl rfl
  | updateUser =>
    cases serve_effect h with
    | userUpdated u entry r _ _ hsave =>
      obtain ⟨-, -, rfl⟩ := Users.save_ok.mp hsave
      exact .inl rfl
  | deleteUser =>
    cases serve_effect h with
    | userDeleted u entry r _ _ hsave =>
      obtain ⟨-, -, rfl⟩ := Users.save_ok.mp hsave
      exact .inl rfl
  | togglePlatformAdmin =>
    cases serve_effect h with
    | platformAdminToggled u r _ htoggle =>
      obtain ⟨-, -, htoggle⟩ := bind_ok.mp htoggle
      obtain ⟨-, -, htoggle⟩ := bind_ok.mp htoggle
      obtain ⟨-, -, rfl⟩ := Users.save_ok.mp htoggle
      exact .inl rfl

lemma roleKeys_step (env : Env) (db : DB) (c : IamCall) (h : RoleKeys db) :
    RoleKeys (c.step env db) := by
  rcases IamCall.step_cases env db c with he | ⟨ctx, db', -, hserve, he⟩
  · rwa [he]
  · rw [he, RoleKeys]
    rcases serve_roles hserve with hsame | ⟨new, hfresh, hadd⟩ | ⟨old, new, -, hid, -, hset⟩
    · rwa [hsame]
    · rw [hadd, List.map_append, List.nodup_append_comm]
      refine List.nodup_cons.mpr ⟨fun hmem => ?_, h⟩
      obtain ⟨r, hr, hk⟩ := List.mem_map.mp hmem
      exact hfresh r hr hk
    · have hkey : (flushed Role.touch old new).id = old.id :=
        (flushed_col Role.touch Role.id (fun _ => rfl) old new).trans hid
      rwa [hset, Tables.map_key_set_row hkey]

lemma roleVersion_step (env : Env) (k : Ulid) (db : DB) (c : IamCall) (h : RoleKeys db) :
    NeverFalls (DB.roleVersion k) db (c.step env db) := by
  rcases IamCall.step_cases env db c with he | ⟨ctx, db', -, hserve, he⟩
  · rw [he]
    exact NeverFalls.refl db
  · rw [he]
    rcases serve_roles hserve with hsame | ⟨new, hfresh, hadd⟩ |
      ⟨old, new, hold, hid, hversion, hset⟩
    · exact neverFalls_of_eq (by rw [DB.roleVersion, DB.roleVersion, hsame])
    · intro v hv
      obtain ⟨r, hget, rfl⟩ := Option.map_eq_some_iff.mp hv
      refine ⟨r.version, ?_, le_refl _⟩
      rw [DB.roleVersion, hadd, Tables.get_append, hget]
      rfl
    · intro v hv
      obtain ⟨r, hget, rfl⟩ := Option.map_eq_some_iff.mp hv
      have hkey : (flushed Role.touch old new).id = old.id :=
        (flushed_col Role.touch Role.id (fun _ => rfl) old new).trans hid
      rw [DB.roleVersion, hset, Tables.get_set_row hkey]
      split
      · next hk =>
        subst hk
        obtain ⟨hmem, hrk⟩ := Tables.get_mem hget
        obtain rfl : r = old := List.inj_on_of_nodup_map h hmem hold hrk
        rw [hget]
        exact ⟨_, rfl, version_flushed Role.touch Role.version (fun _ => rfl) hversion⟩
      · rw [hget]
        exact ⟨r.version, rfl, le_refl _⟩

/-- The update changes the role: its row, or its permission links. -/
def ChangesRole (db db' : DB) (role : Role) : Prop :=
  Tables.get Role.id role.id db'.roles ≠ some role ∨ db'.linksOf role.id ≠ db.linksOf role.id

/-- The request edits the role that it finds. -/
def IamCall.Edits (db : DB) (c : IamCall) (ctx : RequestContext) (role : Role) (data : RoleUpdate) :
    Prop :=
  ∃ draw, c.op = .updateRole role.id data draw ∧
    require db c.ord c.clk c.op.permission none c.http = .ok ctx ∧
    Roles.getOwned ctx db role.id = .ok role

/-- An update that changes a role raises its version, and no later update is taken with the version
it carried. -/
def IamCall.CoversVersion (env : Env) (db : DB) (c : IamCall) : Prop :=
  ∀ ctx role data db', c.Edits db ctx role data → c.handle env db = .ok db' →
    ChangesRole db db' role →
    (∃ role', Tables.get Role.id role.id db'.roles = some role' ∧ role.version < role'.version) ∧
    ∀ (mid : List IamCall) (c' : IamCall) (data' : RoleUpdate) (draw' : ℕ → Ulid),
      c'.op = .updateRole role.id data' draw' → data'.version = data.version →
      let later := Runs.run (IamCall.step env) db' mid
      (∀ db'', c'.handle env later ≠ .ok db'') ∧
      ∀ ctx'' role'', c'.Edits later ctx'' role'' data' →
        c'.handle env later = .error staleResourceError

/-- An update touches the row, or lists the permissions that the role has anyway. -/
def IamCall.Touches (db : DB) (c : IamCall) : Prop :=
  ∀ ctx role data, c.Edits db ctx role data → Roles.RowTouched ctx role data ∨
    ∀ codes ∈ data.permissionCodes, ∀ code, code ∈ codes ↔
      code ∈ (linkCodes db role.id).map Prod.snd

/-- An update with another version than the row's is answered as stale. -/
lemma roleUpdate_stale {env : Env} {db : DB} {c : IamCall} {k : Ulid} {data : RoleUpdate}
    {draw : ℕ → Ulid} (hkeys : RoleKeys db) (hop : c.op = .updateRole k data draw)
    (hversion : db.roleVersion k ≠ some data.version) :
    (∀ db', c.handle env db ≠ .ok db') ∧
      ∀ ctx role, c.Edits db ctx role data → c.handle env db = .error staleResourceError := by
  have hstale : ∀ ctx role, require db c.ord c.clk c.op.permission none c.http = .ok ctx →
      Roles.getOwned ctx db k = .ok role → c.handle env db = .error staleResourceError := by
    intro ctx role hctx howned
    obtain ⟨hrole, hid⟩ := Roles.getOwned_ok howned
    have hget : Tables.get Role.id k db.roles = some role := hid ▸ Tables.get_of_mem hkeys hrole
    have hne : role.version ≠ data.version := by
      intro he
      exact hversion (by rw [DB.roleVersion, hget, Option.map_some, he])
    rw [IamCall.handle, hctx, ok_bind, hop, IamOp.serve, howned, ok_bind, Roles.update, ensure,
      if_neg hne]
    rfl
  refine ⟨fun db' hok => ?_, ?_⟩
  · obtain ⟨ctx, hctx, hserve⟩ := bind_ok.mp hok
    have hserve' := hserve
    rw [hop] at hserve'
    obtain ⟨role, howned, -⟩ := bind_ok.mp hserve'
    rw [hstale ctx role hctx howned] at hok
    cases hok
  · rintro ctx role ⟨draw', hop', hctx, howned⟩
    obtain rfl : k = role.id := by
      rw [hop] at hop'
      cases hop'
      rfl
    exact hstale ctx role hctx howned

theorem role_covers {env : Env} {db : DB} {c : IamCall} (hkeys : RoleKeys db) (h : c.Touches db) :
    c.CoversVersion env db := by
  intro ctx role data db' hedits hc hchanges
  obtain ⟨draw, hop, hctx, howned⟩ := hedits
  obtain ⟨hrole, -⟩ := Roles.getOwned_ok howned
  have hupdate : ∃ r, Roles.update env ctx db role data draw = .ok (r, db') := by
    rw [IamCall.handle, hctx, ok_bind, hop, IamOp.serve, howned, ok_bind] at hc
    obtain ⟨⟨r, _⟩, hupdate, rfl⟩ := ok_of_service hc
    exact ⟨r, hupdate⟩
  obtain ⟨r, hupdate⟩ := hupdate
  obtain ⟨hversion, hlinks, hroles⟩ := Roles.update_ok hupdate
  have hget : Tables.get Role.id role.id db.roles = some role := Tables.get_of_mem hkeys hrole
  have hkey : (flushed Role.touch role (Roles.edited ctx role data)).id = role.id :=
    flushed_col Role.touch Role.id (fun _ => rfl) role (Roles.edited ctx role data)
  have hnew : Tables.get Role.id role.id db'.roles =
      some (flushed Role.touch role (Roles.edited ctx role data)) := by
    rw [hroles, Tables.get_set_row hkey, if_pos rfl, hget, Option.map_some]
  have hne : Roles.edited ctx role data ≠ role := by
    rcases h ctx role data ⟨draw, hop, hctx, howned⟩ with htouched | hsame
    · exact Roles.edited_ne htouched
    · -- The flush of the role as it was changes neither the role nor its links.
      intro he
      rw [flushed, if_pos he] at hnew
      rcases hchanges with hrow | hlinked
      · exact hrow hnew
      · exact hlinked (by rw [DB.linksOf, DB.linksOf, Roles.relink_same hlinks hsame])
  rw [flushed, if_neg hne] at hnew
  refine ⟨⟨_, hnew, Nat.lt_succ_self _⟩, fun mid c' data' draw' hop' hsame => ?_⟩
  have hstep : c.step env db = db' := by rw [IamCall.step, hc]
  have hkeys' : RoleKeys db' := hstep ▸ roleKeys_step env db c hkeys
  have hnow : db'.roleVersion role.id = some (role.version + 1) := by
    rw [DB.roleVersion, hnew]
    rfl
  refine roleUpdate_stale (Runs.invariant_all (roleKeys_step env) hkeys' mid) hop' ?_
  rw [hsame, ← hversion]
  exact overtaken (roleKeys_step env) (fun db c => roleVersion_step env role.id db c) hkeys' hnow
    (Nat.lt_succ_self _) mid

/-- **Versions cover the whole aggregate** as long as every edit of targets or permissions comes
with a change of the row: then an update that is taken raises the version, and of two updates with
one version the later one is answered as stale. -/
theorem aggregate_versions (env : SchoolEnv) :
    (∀ (school : SchoolDB) (calls : List AnnouncementCall),
      Runs.Along (AnnouncementCall.step env) (fun db c => c.Touches db)
        school.withoutAnnouncements calls →
      Runs.Along (AnnouncementCall.step env) (fun db c => c.CoversVersion env db)
        school.withoutAnnouncements calls) ∧
    ∀ (db : DB) (calls : List IamCall), RoleKeys db →
      Runs.Along (IamCall.step env.toEnv) (fun db c => c.Touches db) db calls →
      Runs.Along (IamCall.step env.toEnv) (fun db c => c.CoversVersion env.toEnv db) db calls := by
  refine ⟨fun school calls h => h.imp fun db c => announcement_covers, fun db calls hkeys h => ?_⟩
  exact Runs.along_of_invariant (I := RoleKeys) (fun db c _ => roleKeys_step env.toEnv db c)
    (fun db c htouches hkeys => role_covers hkeys htouches) h hkeys

/-! ### An announcement addressed twice by one user -/

/-- A member of the staff drafts an announcement. -/
def draftNotice : AnnouncementCall where
  ctx := staff
  clk := ⟨0, 0⟩
  op := .create ⟨"Sports day", "On Friday.", .normal, .immediate, [], none, by decide, by decide⟩
    901 fun n => .ofNat (911 + n)

/-- The same member addresses it. -/
def addressNotice (target : AnnouncementTargetType) (version : ℕ) (h : 1 ≤ version) :
    AnnouncementCall where
  ctx := staff
  clk := ⟨0, 0⟩
  op := .update 901 ⟨none, none, none, some [⟨target, none⟩], none, version, nofun, nofun, h⟩
    fun n => .ofNat (921 + n)

/-- Of two edits of the targets with one version both are taken, and the version stays. -/
theorem addressed_twice : ¬ ∀ (env : SchoolEnv) (school : SchoolDB) (calls : List AnnouncementCall),
    Runs.Along (AnnouncementCall.step env) (fun db c => c.CoversVersion env db)
      school.withoutAnnouncements calls := by
  intro h
  let first := addressNotice .school 1 (by decide)
  let second := addressNotice .role 2 (by decide)
  let third := addressNotice .cohort 2 (by decide)
  let start := Runs.run (AnnouncementCall.step .plain) smallSchool.withoutAnnouncements
    [draftNotice, first]
  have hcovers : second.CoversVersion .plain start :=
    (h .plain smallSchool [draftNotice, first, second]).2.2.1
  have hread : (fun a => (a.id, a.schoolId)) <$> Announcements.getOwned staff start 901 =
      .ok (901, 11) := by decide +kernel
  have hedits : (fun db' : BoardDB => ((targetRows db' 11 901).map AnnouncementTarget.addressee,
      (third.handle .plain db').toBool)) <$> second.handle .plain start =
        .ok ([(.role, none)], true) := by decide +kernel
  have htargets : (targetRows start 11 901).map AnnouncementTarget.addressee =
      [(.school, none)] := by decide +kernel
  obtain ⟨a, howned, ha⟩ := map_ok.mp hread
  obtain ⟨hid, hschool⟩ := Prod.mk.inj ha
  obtain ⟨db', hsecond, hdb'⟩ := map_ok.mp hedits
  obtain ⟨htargets', hthird⟩ := Prod.mk.inj hdb'
  -- The school was addressed before the edit, a role after it.
  have hchanges : ChangesAnnouncement start db' a := by
    refine .inr ?_
    rw [BoardDB.audience, BoardDB.audience, hid, hschool, htargets, htargets']
    decide
  obtain ⟨-, hlast⟩ := hcovers 901 _ _ a db' rfl howned hsecond hchanges
  have hrefused := (hlast [] third _ _ rfl rfl).1
  rw [Runs.run_nil] at hrefused
  cases hc : third.handle .plain db' with
  | ok db'' => exact hrefused db'' hc
  | error e =>
    rw [hc] at hthird
    cases hthird

/-- The administrator of a school, and a role that is the organization's own. -/
def clerks : DB := { schoolAdministration with
  permissions := [⟨61, pRoleUpdate.code⟩, ⟨62, pMembershipCreate.code⟩]
  roles := schoolAdministration.roles ++
    [Role.new 7 (some 101) "CLERK" "Clerk" none .school .school none] }

/-- The administrator names the role, and lists its one permission. -/
def nameClerks (name : String) (h : ∀ n ∈ some name, 1 ≤ n.length ∧ n.length ≤ 120) : IamCall where
  clk := ⟨0, 0⟩
  ord := .heap
  http := ⟨some 1, none, "r", some "127.0.0.1", none⟩
  op := .updateRole 7 ⟨some name, none, none, some [pMembershipCreate.code], 1, h, nofun,
    by decide, by decide⟩ fun n => .ofNat (72 + n)

/-- The member who drafted the announcement addresses it, with a new title. -/
def retitleNotice : AnnouncementCall where
  ctx := staff
  clk := ⟨0, 0⟩
  op := .update 901 ⟨some "Games day", none, none, some [⟨.role, none⟩], none, 1, by decide, nofun,
    by decide⟩ fun n => .ofNat (921 + n)

lemma retitleNotice_touches {db : BoardDB} (h : (fun a => a.title) <$>
    Announcements.getOwned staff db 901 = .ok "Sports day") : retitleNotice.Touches db := by
  rintro k data draw a hop howned
  cases hop
  obtain ⟨a', howned', htitle⟩ := map_ok.mp h
  obtain rfl := Except.ok.inj (howned'.symm.trans howned)
  refine .inl (.inr (.inl ⟨"Games day", rfl, fun he => ?_⟩))
  rw [htitle] at he
  exact absurd he (by decide)

lemma nameClerks_touches : (nameClerks "Office" (by decide)).Touches clerks := by
  rintro ctx role data ⟨draw, hop, -, howned⟩
  obtain ⟨hrole, -⟩ := Roles.getOwned_ok howned
  obtain ⟨-, rfl, rfl⟩ := IamOp.updateRole.inj hop
  refine .inl (.inr (.inl ⟨"Office", rfl, fun he => ?_⟩))
  have hnames : ∀ r ∈ clerks.roles, "Office" ≠ r.name := by decide
  exact hnames role hrole he

/-- With a new title for each edit of the targets the versions keep up, and so they do with a new
name for the role. -/
theorem aggregate_versions_named :
    ((nameClerks "Office" (by decide)).handle .plain clerks).toBool = true ∧
    Runs.Along (AnnouncementCall.step .plain) (fun db c => c.CoversVersion .plain db)
      smallSchool.withoutAnnouncements [draftNotice, retitleNotice] ∧
    Runs.Along (IamCall.step .plain) (fun db c => c.CoversVersion .plain db) clerks
      [nameClerks "Office" (by decide)] := by
  have hdraft : ∀ db, draftNotice.Touches db := fun _ _ _ _ _ hop => nomatch hop
  have hread : (fun a => a.title) <$> Announcements.getOwned staff
      (draftNotice.step .plain smallSchool.withoutAnnouncements) 901 = .ok "Sports day" := by
    decide +kernel
  refine ⟨by decide +kernel, (aggregate_versions .plain).1 smallSchool _ ?_,
    (aggregate_versions .plain).2 clerks _ (by unfold RoleKeys; decide) ?_⟩
  · exact (Runs.along_cons _ _ _).mpr ⟨hdraft _, (Runs.along_cons _ _ _).mpr
      ⟨retitleNotice_touches hread, Runs.along_nil _⟩⟩
  · exact (Runs.along_cons _ _ _).mpr ⟨nameClerks_touches, Runs.along_nil _⟩

end SchoolOs
