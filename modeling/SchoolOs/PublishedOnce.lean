import SchoolOs.LostUpdates

/-!
An announcement is published at most once: its version, its status and its event in the outbox
change together, whatever the order of the statements of its requests.
-/

namespace SchoolOs

open ReadCommitted

/-! ### The announcement and the outbox as one row -/

/-- The announcement, with the outbox beside it. -/
abbrev noticeRow (k : Ulid) : VersionedRow BoardDB Ulid (Announcement × Table OutboxEvent.id) where
  cell db := (db.announcements.get k).map fun a => (a, db.outboxEvents)
  version row := row.1.version
  key := k

/-- What a request makes of the announcement and the outbox. -/
structure Notices (clk : Clock) (ctx : RequestContext) (edit : AnnouncementEdit)
    (row : Announcement × Table OutboxEvent.id)
    (result : Option (Announcement × Table OutboxEvent.id)) : Prop where
  live : row.1.deletedAt = none
  checkStatus : edit.checkStatus row.1 = .ok ()
  checks : edit.checks row.1 = .ok ()
  result : ∃ outbox, result = some ((edit.changed clk ctx row.1).touch, outbox) ∧
    match edit with
    | .publish _ eventId => ∃ targets, row.2.insert
        (Announcements.publishedEvent clk ctx row.1 targets eventId).row = some outbox
    | _ => outbox = row.2

section Rules

variable {env : SchoolEnv} {clk : Clock} {ctx : RequestContext} {a new : Announcement}
  {outbox : Table OutboxEvent.id} {entry : AuditEntry} {save : BoardDB → Fallible BoardDB}

lemma notice_get {k : Ulid} {db : BoardDB} (h : (noticeRow k).cell db = some (a, outbox)) :
    db.announcements.get k = some a ∧ db.outboxEvents = outbox := by
  obtain ⟨a', ha', heq⟩ := Option.map_eq_some_iff.mp h
  obtain ⟨rfl, rfl⟩ := Prod.mk.inj heq
  exact ⟨ha', rfl⟩

lemma ensures_notice_written (hid : new.id = a.id) :
    (Script.exec (announcements.guarded save (announcements.written new) a)).Ensures
      (noticeRow a.id).Rely ((noticeRow a.id).Before (a, outbox))
      (fun _ => (noticeRow a.id).After (a, outbox) (some (new.touch, outbox)))
      VersionedRow.Any := by
  refine VersionedRow.ensures_flush (by simp [Shelf.guarded, announcements]) (fun db hfinds => ?_)
    fun db hdb => ?_
  · obtain ⟨a', ha', hv⟩ := Option.map_eq_some_iff.mp (ensure_ok.mp hfinds)
    exact ⟨(a', db.outboxEvents), Option.map_eq_some_iff.mpr ⟨a', ha', rfl⟩, hv⟩
  · obtain ⟨hget, hbox⟩ := notice_get hdb
    exact Option.map_eq_some_iff.mpr ⟨new.touch, Shelf.get_written hid hget, by rw [← hbox]; rfl⟩

lemma ensures_notice_flush {result : Option (Announcement × Table OutboxEvent.id) → Prop}
    (hid : new.id = a.id) (hnew : result (some (new.touch, outbox))) :
    (announcements.flush save a new).Ensures (noticeRow a.id).Rely
      ((noticeRow a.id).Before (a, outbox))
      (fun _ => (noticeRow a.id).Leaves (a, outbox) result) VersionedRow.Any := by
  unfold Shelf.flush
  split
  · exact VersionedRow.ensures_done
  · intro ws db h
    exact (ensures_notice_written hid ws db h).imp fun _ ws db hafter => .inr ⟨_, hnew, hafter⟩

lemma ensures_notice_logged {result : Option (Announcement × Table OutboxEvent.id) → Prop}
    {k : Ulid} {row : Announcement × Table OutboxEvent.id} :
    (announcements.logged env ctx entry).Ensures (noticeRow k).Rely
      ((noticeRow k).Leaves row result) (fun _ => (noticeRow k).Leaves row result)
      VersionedRow.Any := Shelf.ensures_logged_of fun _ _ => rfl

/-- The event goes into the outbox that the write of the announcement has locked. -/
lemma ensures_notice_enqueuing {e : NewEvent}
    {result : Option (Announcement × Table OutboxEvent.id) → Prop}
    (h : ∀ outbox', outbox.insert e.row = some outbox' → result (some (new, outbox'))) :
    (AnnouncementEdit.enqueuing ctx e).Ensures (noticeRow a.id).Rely
      ((noticeRow a.id).After (a, outbox) (some (new, outbox)))
      (fun _ => (noticeRow a.id).Leaves (a, outbox) result) VersionedRow.Any := by
  refine Script.ensures_exec VersionedRow.stable_after VersionedRow.stable_leaves
    (fun ws db hafter _ hadmits => ?_) fun _ _ _ _ _ => trivial
  have hcell := hafter.2.2 db hafter.2.1
  obtain ⟨_, hbox⟩ := notice_get hcell
  obtain ⟨db', hdb', -⟩ := map_ok.mp hadmits
  obtain ⟨school, hpublish, -⟩ := map_ok.mp hdb'
  obtain ⟨_, -, hpublish⟩ := bind_ok.mp hpublish
  obtain ⟨outbox', hinsert, -⟩ := bind_ok.mp hpublish
  have hinsert' : outbox.insert e.row = some outbox' := by
    rw [← hbox]
    exact found_ok.mp hinsert
  refine .inr ⟨_, h outbox' hinsert', hafter.snoc fun db hdb => ?_⟩
  obtain ⟨hget, hbox⟩ := notice_get hdb
  refine Option.map_eq_some_iff.mpr ⟨new, hget, ?_⟩
  change (new, (db.outboxEvents.insert e.row).getD db.outboxEvents) = _
  rw [hbox, hinsert']
  rfl

/-- The statements after the comparison do to the announcement and the outbox what the request
makes of them. -/
lemma ensures_notices {edit : AnnouncementEdit} (hlive : a.deletedAt = none)
    (hstatus : edit.checkStatus a = .ok ()) (hchecks : edit.checks a = .ok ()) :
    (edit.rest env clk ctx a).Ensures (noticeRow a.id).Rely ((noticeRow a.id).Before (a, outbox))
      (fun _ => (noticeRow a.id).Leaves (a, outbox) (Notices clk ctx edit (a, outbox)))
      VersionedRow.Any := by
  cases edit with
  | update data draw =>
    refine Script.ensures_bind VersionedRow.tolerant_rely (Q := fun _ =>
      (noticeRow a.id).Leaves (a, outbox) (Notices clk ctx (.update data draw) (a, outbox)))
      (ensures_notice_flush rfl ⟨hlive, hstatus, hchecks, outbox, rfl, rfl⟩) fun _ => ?_
    exact Script.ensures_bind VersionedRow.tolerant_rely
      (AnnouncementEdit.ensures_retargeting (fun _ _ => rfl) a draw data.targets)
      fun _ => ensures_notice_logged
  | publish data eventId =>
    have hne : Announcements.published clk ctx a data ≠ a := by
      intro heq
      have hdraft : a.status = .draft := ensure_ok.mp hchecks
      rw [← heq] at hdraft
      cases hdraft
    change (announcements.flush _ _ _ >>= fun _ => _).Ensures _ _ _ _
    rw [AnnouncementEdit.changed, Shelf.flush, if_neg hne]
    refine Script.ensures_bind VersionedRow.tolerant_rely (ensures_notice_written rfl) fun _ => ?_
    refine Script.ensures_bind VersionedRow.tolerant_rely VersionedRow.ensures_query_after
      fun targets => ?_
    exact Script.ensures_bind VersionedRow.tolerant_rely
      (ensures_notice_enqueuing fun outbox' hinsert =>
        ⟨hlive, hstatus, hchecks, outbox', rfl, targets, hinsert⟩)
      fun _ => ensures_notice_logged
  | archive version =>
    exact Script.ensures_bind VersionedRow.tolerant_rely
      (ensures_notice_flush rfl ⟨hlive, hstatus, hchecks, outbox, rfl, rfl⟩)
      fun _ => ensures_notice_logged
  | delete version =>
    exact Script.ensures_bind VersionedRow.tolerant_rely
      (ensures_notice_flush rfl ⟨hlive, hstatus, hchecks, outbox, rfl, rfl⟩)
      fun _ => ensures_notice_logged

end Rules

/-! ### Requests -/

section Requests

variable (env : SchoolEnv) (k : Ulid) (c : VersionedCall .announcements)

/-- A request, seen on the announcement and the outbox. -/
def noticeRequest : ReadCommitted.Request (noticeRow k) ApiError Unit where
  carried := c.carried
  reads db := (fun a => (a, db.outboxEvents)) <$> c.edit.reads c.ctx k db
  checks row := c.edit.checks row.1
  rest row := c.edit.rest env c.clk c.ctx row.1
  result := Notices c.clk c.ctx c.edit
  cell_of_reads h := by
    obtain ⟨a, hreads, rfl⟩ := map_ok.mp h
    exact Option.map_eq_some_iff.mpr ⟨a, AnnouncementEdit.get_of_reads hreads, rfl⟩
  counts h := by
    obtain ⟨outbox, heq, -⟩ := h.result
    obtain rfl := Option.some.inj heq
    cases c.edit <;> rfl
  rest_ensures {db row} hreads hchecks := by
    obtain ⟨a, hread, rfl⟩ := map_ok.mp hreads
    obtain rfl := (Table.get_eq_some.mp (AnnouncementEdit.get_of_reads hread)).2
    obtain ⟨hlive, hstatus⟩ := AnnouncementEdit.reads_ok hread
    exact ensures_notices hlive hstatus hchecks

lemma noticeRequest_script : (noticeRequest env k c).script staleResourceError =
    (c.request env k).script staleResourceError := by
  refine ReadCommitted.Request.script_congr Prod.fst rfl (fun db => ?_) (fun _ => rfl)
    (fun _ => rfl) fun _ => rfl
  simp only [noticeRequest, VersionedCall.request, VersionedEntity.request]
  change c.edit.reads c.ctx k db = Prod.fst <$> (fun a => (a, db.outboxEvents)) <$> _
  cases c.edit.reads c.ctx k db <;> rfl

end Requests

/-! ### The invariant -/

/-- The event of a publication of the announcement. -/
def TellsOf (k : Ulid) (e : OutboxEvent) : Prop :=
  e.eventName = "ANNOUNCEMENT_PUBLISHED" ∧ e.entityId = some k

instance (k : Ulid) : DecidablePred (TellsOf k) := fun e =>
  inferInstanceAs (Decidable (e.eventName = "ANNOUNCEMENT_PUBLISHED" ∧ e.entityId = some k))

/-- The events of its publications. -/
def publications (k : Ulid) (outbox : Table OutboxEvent.id) : List OutboxEvent :=
  outbox.rows.filter fun e => TellsOf k e

/-- How far an announcement has come. -/
def AnnouncementStatus.stage : AnnouncementStatus → ℕ
  | .draft => 0
  | .published => 1
  | .expired => 2
  | .archived => 3

/-- The events tell of the publication, and only a draft is deleted. -/
structure Noticed (a : Announcement) (outbox : Table OutboxEvent.id) : Prop where
  published : (publications a.id outbox).length = if a.publishedAt.isSome then 1 else 0
  draft : a.status = .draft → a.publishedAt = none
  deleted : a.deletedAt ≠ none → a.status = .draft
  not_expired : a.status ≠ .expired

lemma publications_insert {k : Ulid} {outbox outbox' : Table OutboxEvent.id} {e : OutboxEvent}
    (h : outbox.insert e = some outbox') (he : TellsOf k e) :
    publications k outbox' = publications k outbox ++ [e] := by
  obtain ⟨-, hrows⟩ := Table.insert_eq_some.mp h
  simp [publications, ← hrows, List.filter_append, he]

/-- **A request keeps them together**, and takes the status forward. -/
theorem Noticed.step {clk : Clock} {ctx : RequestContext} {edit : AnnouncementEdit}
    {a a' : Announcement} {outbox outbox' : Table OutboxEvent.id} (h : Noticed a outbox)
    (hstep : Notices clk ctx edit (a, outbox) (some (a', outbox'))) :
    Noticed a' outbox' ∧ a.status.stage ≤ a'.status.stage ∧ a'.id = a.id := by
  obtain ⟨hlive, hstatus, hchecks, box, heq, hbox⟩ := hstep
  obtain ⟨rfl, rfl⟩ := Prod.mk.inj (Option.some.inj heq)
  cases edit with
  | update data draw =>
    obtain rfl := hbox
    exact ⟨⟨h.published, h.draft, h.deleted, h.not_expired⟩, le_rfl, rfl⟩
  | publish data eventId =>
    obtain ⟨targets, hinsert⟩ := hbox
    have hdraft : a.status = .draft := ensure_ok.mp hchecks
    refine ⟨⟨?_, nofun, fun hd => absurd hlive hd, nofun⟩, ?_, rfl⟩
    · have hnone := h.published
      rw [h.draft hdraft] at hnone
      change (publications a.id outbox').length = 1
      rw [publications_insert hinsert ⟨rfl, rfl⟩, List.length_append, hnone]
      rfl
    · rw [hdraft]
      exact Nat.zero_le _
  | archive version =>
    obtain rfl := hbox
    refine ⟨⟨h.published, nofun, fun hd => absurd hlive hd, nofun⟩, ?_, rfl⟩
    change a.status.stage ≤ 3
    cases a.status <;> decide
  | delete version =>
    obtain rfl := hbox
    have hdraft : a.status = .draft := ensure_ok.mp hstatus
    exact ⟨⟨h.published, h.draft, fun _ => hdraft, h.not_expired⟩, le_rfl, rfl⟩

/-! ### Runs -/

/-- **Published at most once**: the announcement has one event of its publication when it is
published, and else none; its status is one that the services set; and it is not published when it
is deleted. -/
structure PublishedOnce (k : Ulid) (db : BoardDB) : Prop where
  at_most_one : (publications k db.outboxEvents).length ≤ 1
  one_iff : ∀ a, db.announcements.get k = some a →
    ((publications k db.outboxEvents).length = 1 ↔ a.publishedAt.isSome)
  status : ∀ a, db.announcements.get k = some a →
    a.status = .draft ∨ a.status = .published ∨ a.status = .archived
  deleted : ∀ a, db.announcements.get k = some a → a.deletedAt.isSome →
    publications k db.outboxEvents = [] ∧ a.publishedAt = none

lemma Noticed.publishedOnce {k : Ulid} {a : Announcement} {db : BoardDB}
    (hget : db.announcements.get k = some a) (h : Noticed a db.outboxEvents) :
    PublishedOnce k db := by
  obtain rfl := (Table.get_eq_some.mp hget).2
  have hone := h.published
  refine ⟨?_, fun b hb => ?_, fun b hb => ?_, fun b hb hdeleted => ?_⟩
  · rw [hone]
    split <;> decide
  · obtain rfl := Option.some.inj (hget.symm.trans hb)
    rw [hone]
    cases a.publishedAt <;> simp
  · obtain rfl := Option.some.inj (hget.symm.trans hb)
    have hne := h.not_expired
    cases hs : a.status with
    | expired => exact absurd hs hne
    | draft => exact .inl rfl
    | published => exact .inr (.inl rfl)
    | archived => exact .inr (.inr rfl)
  · obtain rfl := Option.some.inj (hget.symm.trans hb)
    have hnone := h.draft (h.deleted (Option.isSome_iff_ne_none.mp hdeleted))
    rw [hnone] at hone
    exact ⟨List.eq_nil_of_length_eq_zero hone, hnone⟩

section System

variable {ι : Type} [DecidableEq ι] (env : SchoolEnv) (k : Ulid)
  (calls : ι → VersionedCall .announcements)

/-- A step takes the status of the announcement forward, or leaves it. -/
def MovesForward (s s' : VersionedSys .announcements ι) : Prop :=
  ∀ a, s.row k = some a → ∀ a', s'.row k = some a' → a.status.stage ≤ a'.status.stage

/-- The announcement is there and its events tell of it. -/
def NoticeSound (s : VersionedSys .announcements ι) : Prop :=
  ReadCommitted.Guarded (fun i => noticeRequest env k (calls i)) staleResourceError s ∧
    ∃ a, s.row k = some a ∧ Noticed a s.store.committed.outboxEvents

lemma turn_eq : VersionedSys.turn env k calls =
    ReadCommitted.Request.turn (fun i => noticeRequest env k (calls i)) staleResourceError := by
  funext s i
  simp only [VersionedSys.turn, ReadCommitted.Request.turn, noticeRequest_script]
  rfl

variable {env k calls}

omit [DecidableEq ι] in
lemma noticed_of_cell {s : VersionedSys .announcements ι} {row}
    (h : (noticeRow k).cell s.store.committed = some row) :
    s.row k = some row.1 ∧ s.store.committed.outboxEvents = row.2 := notice_get h

/-- **The step**: what a turn commits keeps the announcement and its events together. -/
theorem NoticeSound.turn {s : VersionedSys .announcements ι} (h : NoticeSound env k calls s)
    (i : ι) : NoticeSound env k calls (VersionedSys.turn env k calls s i) ∧
      MovesForward k s (VersionedSys.turn env k calls s i) := by
  obtain ⟨hs, a, hget, hnoticed⟩ := h
  have hcell : (noticeRow k).cell s.store.committed = some (a, s.store.committed.outboxEvents) :=
    Option.map_eq_some_iff.mpr ⟨a, hget, rfl⟩
  rw [turn_eq]
  obtain ⟨row, hrow, hkept, hforward⟩ : ∃ row,
      (noticeRow k).cell (ReadCommitted.Request.turn (fun i => noticeRequest env k (calls i))
        staleResourceError s i).store.committed = some row ∧ Noticed row.1 row.2 ∧
          a.status.stage ≤ row.1.status.stage := by
    rcases hs.cell i with hsame | ⟨r, hr, -, hresult⟩
    · exact ⟨_, hsame.trans hcell, hnoticed, le_rfl⟩
    · obtain rfl := Option.some.inj (hcell.symm.trans hr)
      obtain ⟨outbox, hx, -⟩ := hresult.result
      rw [hx] at hresult ⊢
      obtain ⟨hkept, hforward, -⟩ := hnoticed.step hresult
      exact ⟨_, rfl, hkept, hforward⟩
  obtain ⟨hget', hbox⟩ := noticed_of_cell hrow
  refine ⟨⟨hs.turn (agreed_requests _) i, row.1, hget', ?_⟩, fun b hb b' hb' => ?_⟩
  · rwa [hbox]
  · obtain rfl := Option.some.inj (hget.symm.trans hb)
    obtain rfl := Option.some.inj (hget'.symm.trans hb')
    exact hforward

lemma noticed_created {env : SchoolEnv} {ctx : RequestContext} {db start : BoardDB}
    {data : AnnouncementCreate} {id : Ulid} {draw : ℕ → Ulid} {a : Announcement}
    (h : Announcements.create env ctx db data id draw = .ok (a, start))
    (hnew : ∀ e ∈ db.outboxEvents, e.entityId ≠ some id) :
    start.announcements.get id = some a ∧ Noticed a start.outboxEvents := by
  obtain ⟨schoolId, -, h⟩ := bind_ok.mp h
  obtain ⟨organizationId, -, h⟩ := bind_ok.mp h
  obtain ⟨db1, hinsert, h⟩ := bind_ok.mp h
  obtain ⟨db2, htargets, h⟩ := bind_ok.mp h
  obtain ⟨db3, haudit, h⟩ := bind_ok.mp h
  obtain ⟨rfl, rfl⟩ := Prod.mk.inj (pure_ok.mp h)
  obtain ⟨-, rfl⟩ := boardAudit_ok.mp haudit
  obtain ⟨targets, -, htargets⟩ := bind_ok.mp htargets
  obtain rfl := pure_ok.mp htargets
  obtain ⟨rows, hrows, hinsert⟩ := bind_ok.mp hinsert
  obtain ⟨_, -, hinsert⟩ := bind_ok.mp hinsert
  obtain rfl := pure_ok.mp hinsert
  have hnone : publications id db.outboxEvents = [] :=
    List.filter_eq_nil_iff.mpr fun e he hp => hnew e he (of_decide_eq_true hp).2
  refine ⟨?_, ?_, fun _ => rfl, nofun, nofun⟩
  · change rows.get id = _
    rw [Table.get_insert (found_ok.mp hrows)]
    exact if_pos rfl
  · change (publications id db.outboxEvents).length = 0
    rw [hnone]
    rfl

/-- **Announcements are published at most once**: from the creation of an announcement on, whatever
the order of the statements of its requests, what is committed has one event of its publication
when it is published and else none, and its status only moves forward. -/
theorem published_once (env : SchoolEnv) (k : Ulid) (calls : ι → VersionedCall .announcements)
    {ctx : RequestContext} {db start : BoardDB} {data : AnnouncementCreate} {draw : ℕ → Ulid}
    {a : Announcement} (hcreate : Announcements.create env ctx db data k draw = .ok (a, start))
    (hnew : ∀ e ∈ db.outboxEvents, e.entityId ≠ some k) (schedule : List ι) :
    PublishedOnce k
        (Runs.run (VersionedSys.turn env k calls) (.init start) schedule).store.committed ∧
      Runs.Along (VersionedSys.turn env k calls)
        (fun s i => MovesForward k s (VersionedSys.turn env k calls s i)) (.init start)
        schedule := by
  obtain ⟨hget, hnoticed⟩ := noticed_created hcreate hnew
  have hstart : NoticeSound env k calls (.init start) := ⟨guarded_init start, a, hget, hnoticed⟩
  have hturn : ∀ s i, NoticeSound env k calls s →
      NoticeSound env k calls (VersionedSys.turn env k calls s i) := fun s i h => (h.turn i).1
  obtain ⟨-, b, hb, hkept⟩ := Runs.invariant_all hturn hstart schedule
  refine ⟨hkept.publishedOnce hb, ?_⟩
  exact Runs.along_of_invariant (P := fun _ _ => True) (fun s i _ => hturn s i)
    (fun s i _ h => (h.turn i).2) (Runs.along_of_forall (fun _ _ => trivial) schedule _) hstart

end System

/-- Two members of the staff publish a notice at once. -/
def publishTwice : Bool → VersionedCall .announcements
  | true => ⟨staff, ⟨0, 0⟩, .publish ⟨none, 1, one_le_first⟩ 951⟩
  | false => ⟨staff, ⟨0, 0⟩, .publish ⟨none, 1, one_le_first⟩ 952⟩

lemma sportsDay_title : 1 ≤ "Sports day".length ∧ "Sports day".length ≤ 500 := by decide
lemma sportsDay_body : 1 ≤ "On Friday.".length := by decide

/-- The notice. -/
def sportsDay : AnnouncementCreate :=
  ⟨"Sports day", "On Friday.", .normal, .immediate, [], none, sportsDay_title, sportsDay_body⟩

theorem published_once_of_two : ∃ start : BoardDB, PublishedOnce 901
    (Runs.run (VersionedSys.turn .plain 901 publishTwice) (.init start)
      [true, false, true, false, true, true, true, true, false]).store.committed := by
  have hok : (Announcements.create .plain staff smallSchool.withoutAnnouncements sportsDay 901
      fun n => .ofNat (911 + n)).isOk = true := by decide +kernel
  have hnew : ∀ e ∈ smallSchool.withoutAnnouncements.outboxEvents, e.entityId ≠ some 901 := by
    decide
  generalize hcreate : Announcements.create .plain staff smallSchool.withoutAnnouncements
    sportsDay 901 (fun n => .ofNat (911 + n)) = r at hok
  cases r with
  | error e => cases hok
  | ok r => exact ⟨r.2, (published_once .plain 901 publishTwice hcreate hnew _).1⟩

end SchoolOs
