import SchoolOs.VersionedRecords

/-!
Versioned requests on announcements, one SQL statement at a time. A publish reads the targets after
it has written the announcement, and its event goes with the commit.
-/

namespace SchoolOs

open ReadCommitted

/-! ### Announcements -/

def announcements : Shelf BoardDB Announcement where
  id := Announcement.id
  version := Announcement.version
  touch := Announcement.touch
  rows := BoardDB.announcements
  place db rows := { db with announcements := rows }
  log := BoardDB.log
  rows_place _ _ := rfl
  rows_log _ _ := rfl
  id_touch _ := rfl
  version_touch _ := rfl

/-- What a request that carries a version may do to an announcement. -/
inductive AnnouncementEdit
  | update (data : AnnouncementUpdate) (draw : ℕ → Ulid)
  | publish (data : AnnouncementPublish) (eventId : Ulid)
  | archive (version : ℕ)
  | delete (version : ℕ)

namespace AnnouncementEdit

open Announcements

def version : AnnouncementEdit → ℕ
  | .update data _ => data.version
  | .publish data _ => data.version
  | .archive version => version
  | .delete version => version

/-- What is looked at before the version. -/
def checkStatus (a : Announcement) : AnnouncementEdit → Fallible Unit
  | .archive _ => ensure (a.status ≠ .archived) alreadyArchived
  | .delete _ => ensure (a.status = .draft) notDeletable
  | _ => return

/-- What is looked at after the version. -/
def checks (a : Announcement) : AnnouncementEdit → Fallible Unit
  | .publish _ _ => ensure (a.status = .draft) notPublishable
  | _ => return

def reads (ctx : RequestContext) (announcementId : Ulid) (edit : AnnouncementEdit)
    (db : BoardDB) : Fallible Announcement := do
  let a ← getOwned ctx db announcementId
  edit.checkStatus a
  return a

/-- The row as the request leaves it. -/
def changed (clk : Clock) (ctx : RequestContext) (a : Announcement) :
    AnnouncementEdit → Announcement
  | .update data _ => applied ctx a data
  | .publish data _ => Announcements.published clk ctx a data
  | .archive _ => archived ctx a
  | .delete _ => deleted clk ctx a

/-- The rows of the targets that go. -/
def dropTargets (ids : List Ulid) : Script ApiError BoardDB Ulid Unit :=
  .exec {
    locks := ids
    finds _ := return
    admits _ := return
    effect db := { db with
      announcementTargets := db.announcementTargets.deleteWhere (·.id ∈ ids) } }

/-- The rows of the targets that come, at the commit. -/
def addTargets (rows : List AnnouncementTarget) : Script ApiError BoardDB Ulid Unit :=
  .exec {
    locks := rows.map (·.id)
    finds _ := return
    admits db := (fun _ => ()) <$> insertTargets db.announcementTargets rows
    effect db := { db with
      announcementTargets :=
        (insertTargets db.announcementTargets rows).toOption.getD db.announcementTargets } }

/-- The targets that are given, if any are, replace those there are. -/
def retargeting (a : Announcement) (draw : ℕ → Ulid) :
    Option (List AnnouncementTargetCreate) → Script ApiError BoardDB Ulid Unit
  | none => pure ()
  | some targets => do
    let old ← .look fun db => .ok ((targetRows db a.schoolId a.id).map (·.id))
    dropTargets old
    addTargets (targets.zipIdx.map fun p => p.1.row a.id a.schoolId a.organizationId (draw p.2))

/-- The row of the outbox, at the commit. -/
def enqueuing (ctx : RequestContext) (e : NewEvent) : Script ApiError BoardDB Ulid Unit :=
  .exec {
    locks := [e.id]
    finds _ := return
    admits db := (fun _ => ()) <$> enqueue ctx db e
    effect db := { db with toSchoolDB := db.toSchoolDB.enqueued e } }

def rest (env : SchoolEnv) (clk : Clock) (ctx : RequestContext) (edit : AnnouncementEdit)
    (a : Announcement) : Script ApiError BoardDB Ulid Unit :=
  let new := edit.changed clk ctx a
  let save := fun db => save db a new
  match edit with
  | .update data draw => do
    announcements.flush save a new
    retargeting a draw data.targets
    announcements.logged env ctx (changedEntry env "ANNOUNCEMENT_UPDATED" "updated" a new)
  | .publish _ eventId => do
    announcements.flush save a new
    let targets ← .look fun db => .ok (targetRows db a.schoolId a.id)
    enqueuing ctx (publishedEvent clk ctx a targets eventId)
    announcements.logged env ctx (changedEntry env "ANNOUNCEMENT_PUBLISHED" "published" a new)
  | .archive _ =>
    announcements.rewrite env ctx (changedEntry env "ANNOUNCEMENT_ARCHIVED" "archived" a new) save a
      new
  | .delete _ => announcements.rewrite env ctx (deletedEntry env a) save a new

/-- The service, as one function. -/
def serve (env : SchoolEnv) (clk : Clock) (ctx : RequestContext) (announcementId : Ulid)
    (db : BoardDB) (edit : AnnouncementEdit) : Fallible BoardDB := do
  let a ← getOwned ctx db announcementId
  match edit with
  | .update data draw => Prod.snd <$> Announcements.update env ctx db a data draw
  | .publish data eventId => Prod.snd <$> Announcements.publish env clk ctx db a data eventId
  | .archive version => Prod.snd <$> Announcements.archive env ctx db a version
  | .delete version => Announcements.delete env clk ctx db a version

lemma get_of_reads {ctx : RequestContext} {announcementId : Ulid} {edit : AnnouncementEdit}
    {db : BoardDB} {a : Announcement} (h : edit.reads ctx announcementId db = .ok a) :
    db.announcements.get announcementId = some a := by
  obtain ⟨_, howned, h⟩ := bind_ok.mp h
  obtain ⟨_, -, h⟩ := bind_ok.mp h
  obtain rfl := pure_ok.mp h
  exact get_of_owned howned

lemma reads_ok {ctx : RequestContext} {announcementId : Ulid} {edit : AnnouncementEdit}
    {db : BoardDB} {a : Announcement} (h : edit.reads ctx announcementId db = .ok a) :
    a.deletedAt = none ∧ edit.checkStatus a = .ok () := by
  obtain ⟨_, howned, h⟩ := bind_ok.mp h
  obtain ⟨_, hstatus, h⟩ := bind_ok.mp h
  obtain rfl := pure_ok.mp h
  obtain ⟨_, -, howned⟩ := bind_ok.mp howned
  have hp := (Option.filter_eq_some_iff.mp (found_ok.mp howned)).2
  exact ⟨(of_decide_eq_true hp).2, hstatus⟩

end AnnouncementEdit

lemma Announcements.save_written {db db' : BoardDB} {old new : Announcement}
    (h : save db old new = .ok db') (hne : new ≠ old) : db' = announcements.written new db := by
  simp only [save, if_neg hne, bind_ok, pure_ok] at h
  obtain ⟨_, -, h⟩ := h
  exact h.symm

lemma AnnouncementEdit.ensures_retargeting {Row : Type} {V : VersionedRow BoardDB Ulid Row}
    {r : Row} {P : Option Row → Prop} (hV : ∀ (db : BoardDB) targets,
      V.cell { db with announcementTargets := targets } = V.cell db)
    (a : Announcement) (draw : ℕ → Ulid) (targets : Option (List AnnouncementTargetCreate)) :
    (retargeting a draw targets).Ensures V.Rely (V.Leaves r P) (fun _ => V.Leaves r P)
      VersionedRow.Any := by
  cases targets with
  | none => exact VersionedRow.ensures_skip_leaves
  | some targets =>
    refine Script.ensures_bind VersionedRow.tolerant_rely VersionedRow.ensures_query_leaves
      fun old => ?_
    exact Script.ensures_bind VersionedRow.tolerant_rely
      (VersionedRow.ensures_frame_leaves fun db => hV db _)
      fun _ => VersionedRow.ensures_frame_leaves fun db => hV db _

abbrev announcementEntity : VersionedEntity where
  State := BoardDB
  Row := Announcement
  Edit := AnnouncementEdit
  decEq := inferInstance
  shelf := announcements
  carried := AnnouncementEdit.version
  reads ctx announcementId edit db := edit.reads ctx announcementId db
  checks edit a := edit.checks a
  rest := AnnouncementEdit.rest
  outcome clk ctx edit a := some (edit.changed clk ctx a).touch
  get_of_reads := AnnouncementEdit.get_of_reads
  counts {_ _ edit _ _} h := by
    obtain rfl := Option.some.inj h
    cases edit <;> rfl
  rest_ensures {_ clk ctx _ edit _ a} hreads _ := by
    obtain rfl := (Table.get_eq_some.mp (AnnouncementEdit.get_of_reads hreads)).2
    have hflush : (announcements.flush (Announcements.save · a (edit.changed clk ctx a)) a
        (edit.changed clk ctx a)).Ensures (announcements.row a.id).Rely
          ((announcements.row a.id).Before a) (fun _ => (announcements.row a.id).Leaves a
            (· = some (edit.changed clk ctx a).touch)) VersionedRow.Any :=
      Shelf.ensures_flush (by cases edit <;> rfl) rfl
    cases edit with
    | update data draw =>
      refine Script.ensures_bind VersionedRow.tolerant_rely hflush fun _ => ?_
      exact Script.ensures_bind VersionedRow.tolerant_rely
        (AnnouncementEdit.ensures_retargeting (fun _ _ => rfl) a draw data.targets)
        fun _ => Shelf.ensures_logged
    | publish data eventId =>
      refine Script.ensures_bind VersionedRow.tolerant_rely hflush fun _ => ?_
      refine Script.ensures_bind VersionedRow.tolerant_rely VersionedRow.ensures_query_leaves
        fun targets => ?_
      exact Script.ensures_bind VersionedRow.tolerant_rely
        (VersionedRow.ensures_frame_leaves fun _ => rfl) fun _ => Shelf.ensures_logged
    | archive version => exact Shelf.ensures_rewrite rfl rfl
    | delete version => exact Shelf.ensures_rewrite rfl rfl

/-! ### Alone -/

namespace AnnouncementEdit

open Announcements

lemma drop_eq (db : BoardDB) (schoolId announcementId : Ulid) :
    db.announcementTargets.deleteWhere
        (·.id ∈ (targetRows db schoolId announcementId).map (·.id)) =
      db.announcementTargets.deleteWhere fun t =>
        t.announcementId = announcementId ∧ t.schoolId = schoolId := by
  refine Table.ext (List.filter_congr fun t ht => congrArg not (decide_eq_decide.mpr ?_))
  constructor
  · intro h
    obtain ⟨t', ht', hid⟩ := List.mem_map.mp h
    obtain ⟨hmem, hp⟩ := List.mem_filter.mp ht'
    obtain rfl := Table.eq_of_key (t := db.announcementTargets) hmem ht hid
    exact of_decide_eq_true hp
  · intro h
    exact List.mem_map_of_mem (List.mem_filter.mpr ⟨ht, decide_eq_true h⟩)

lemma run_addTargets (rows : List AnnouncementTarget) (db : BoardDB) :
    (addTargets rows).run db = (fun db' => ((), db')) <$> (do
      let targets ← insertTargets db.announcementTargets rows
      return { db with announcementTargets := targets }) := by
  rw [addTargets, Script.run_exec]
  simp only [Dml.run, pure_bind]
  cases insertTargets db.announcementTargets rows <;> rfl

lemma run_retargeting (a : Announcement) (draw : ℕ → Ulid)
    (targets : Option (List AnnouncementTargetCreate)) (db : BoardDB) :
    (retargeting a draw targets).run db =
      (fun db' => ((), db')) <$> retarget db a draw targets := by
  cases targets with
  | none => rfl
  | some targets =>
    have hdrop : (dropTargets ((targetRows db a.schoolId a.id).map (·.id))).run db =
        .ok ((), { db with announcementTargets := db.announcementTargets.deleteWhere fun t =>
          t.announcementId = a.id ∧ t.schoolId = a.schoolId }) := by
      rw [← drop_eq]
      rfl
    change (dropTargets _ >>= fun _ => addTargets _).run db = _
    rw [Script.run_bind, hdrop]
    exact run_addTargets _ _

lemma run_enqueuing (ctx : RequestContext) (e : NewEvent) (db : BoardDB) :
    (enqueuing ctx e).run db = (fun db' => ((), db')) <$> enqueue ctx db e := by
  rw [enqueuing, Script.run_exec]
  simp only [Dml.run, pure_bind, enqueue]
  cases h : db.toSchoolDB.publish ctx e with
  | error e => rfl
  | ok db' =>
    simp only [SchoolDB.publish, bind_ok, found_ok, pure_ok] at h
    obtain ⟨_, -, rows, hrows, rfl⟩ := h
    simp [SchoolDB.enqueued, hrows, bind, Except.bind, pure, Except.pure]

lemma run_flush {db : BoardDB} {a new : Announcement}
    (hget : db.announcements.get a.id = some a) :
    (announcements.flush (save · a new) a new).run db = (fun db' => ((), db')) <$> save db a new :=
  Shelf.run_flush hget (fun heq => by rw [heq]; exact if_pos rfl) fun _ => save_written

end AnnouncementEdit

lemma run_announcementEntity (env : SchoolEnv) (clk : Clock) (ctx : RequestContext) (k : Ulid)
    (edit : AnnouncementEdit) (db : BoardDB) :
    ((announcementEntity.request env clk ctx k edit).script staleResourceError).run db =
      (fun db' => ((), db')) <$> edit.serve env clk ctx k db := by
  cases edit with
  | update data draw =>
    refine (announcementEntity.run_script env clk ctx k (.update data draw) db _ fun a hget _ =>
      run_then (AnnouncementEdit.run_flush hget) fun db' =>
        Shelf.run_then_logged (AnnouncementEdit.run_retargeting a draw data.targets db')).trans ?_
    simp only [AnnouncementEdit.serve, AnnouncementEdit.reads, Announcements.update, map_bind,
      map_pure, bind_pure, bind_assoc, pure_bind]
    rfl
  | publish data eventId =>
    refine (announcementEntity.run_script env clk ctx k (.publish data eventId) db (fun a =>
      Announcements.save db a (Announcements.published clk ctx a data) >>= fun db =>
        Announcements.enqueue ctx db (Announcements.publishedEvent clk ctx a
          (targetRows db a.schoolId a.id) eventId) >>= announcements.audit env ctx
            (Announcements.changedEntry env "ANNOUNCEMENT_PUBLISHED" "published" a
              (Announcements.published clk ctx a data))) fun a hget _ =>
      run_then (AnnouncementEdit.run_flush hget) fun db' =>
        Shelf.run_then_logged (AnnouncementEdit.run_enqueuing ctx _ db')).trans ?_
    simp only [AnnouncementEdit.serve, AnnouncementEdit.reads, Announcements.publish, map_bind,
      map_pure, bind_pure, bind_assoc, pure_bind]
    rfl
  | archive version =>
    refine (announcementEntity.run_script env clk ctx k (.archive version) db _ fun a hget _ =>
      Shelf.run_then_logged (AnnouncementEdit.run_flush hget)).trans ?_
    simp only [AnnouncementEdit.serve, AnnouncementEdit.reads, Announcements.archive, map_bind,
      map_pure, bind_pure, bind_assoc, pure_bind]
    rfl
  | delete version =>
    refine (announcementEntity.run_script env clk ctx k (.delete version) db _ fun a hget _ =>
      Shelf.run_then_logged (AnnouncementEdit.run_flush hget)).trans ?_
    simp only [AnnouncementEdit.serve, AnnouncementEdit.reads, Announcements.delete,
      bind_assoc, pure_bind]
    rfl

end SchoolOs
