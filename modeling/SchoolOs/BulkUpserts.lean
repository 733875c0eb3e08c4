import SchoolOs.AttendanceMarks

/-!
The bulk update of a session as an upsert: which record an entry has after the rows were written
one after another, and that a second time changes nothing.
-/

namespace SchoolOs

open Runs

/-! ### The row of an entry -/

/-- What an upsert leaves of the row that is there. -/
def restamped (old row : AttendanceMark) : AttendanceMark :=
  { old with
    status := row.status
    arrivedAt := row.arrivedAt
    notes := row.notes
    updatedById := row.updatedById }

@[simp] lemma restamped_restamped (old a b : AttendanceMark) :
    restamped (restamped old a) b = restamped old b := rfl

@[simp] lemma restamped_self (row : AttendanceMark) : restamped row row = row := rfl

/-- What a record says of its enrollment. -/
def AttendanceMark.item (r : AttendanceMark) : BulkRecordItem :=
  ⟨r.enrollmentId, r.status, r.arrivedAt, r.notes⟩

lemma restamped_congr {old a b : AttendanceMark} (hitem : a.item = b.item)
    (huser : a.updatedById = b.updatedById) : restamped old a = restamped old b := by
  obtain ⟨_, hstatus, hat, hnotes⟩ := BulkRecordItem.mk.inj hitem
  unfold restamped
  rw [hstatus, hat, hnotes, huser]

lemma restamped_item {old a : AttendanceMark} (h : old.enrollmentId = a.enrollmentId) :
    (restamped old a).item = a.item := by
  unfold AttendanceMark.item restamped
  rw [h]

/-- An upsert, on what an entry has. -/
def upserted (o : Option AttendanceMark) (row : AttendanceMark) : Option AttendanceMark :=
  some (restamped (o.getD row) row)

/-- The rows of an entry, in the order in which they are written. -/
def rowsAt (s e : Ulid) (rows : List AttendanceMark) : List AttendanceMark :=
  rows.filter fun r => r.sessionId = s ∧ r.enrollmentId = e

/-- **Only the last row counts** where there is a record. -/
lemma foldl_upserted (rows : List AttendanceMark) (old : AttendanceMark) :
    rows.foldl upserted (some old) = some (rows.getLast?.elim old (restamped old)) := by
  induction rows generalizing old with
  | nil => rfl
  | cons row rows ih =>
    rw [List.foldl_cons, upserted, Option.getD_some, ih, List.getLast?_cons]
    cases rows.getLast? <;> rfl

lemma foldl_upserted_none (row : AttendanceMark) (rows : List AttendanceMark) :
    (row :: rows).foldl upserted none = some (rows.getLast?.elim row (restamped row)) := by
  rw [List.foldl_cons, upserted, Option.getD_none, restamped_self, foldl_upserted]

/-! ### Statements -/

section Statements

variable {db db' : SchoolDB} {row : AttendanceMark} {rows : List AttendanceMark} {s e : Ulid}

lemma getRecordFor_eq_some (hunique : db.attendanceRecords.Excludes SameEntry)
    {r : AttendanceMark} : getRecordFor db s e = some r ↔
      r ∈ db.attendanceRecords ∧ r.sessionId = s ∧ r.enrollmentId = e := by
  constructor
  · intro h
    exact ⟨List.mem_of_find?_eq_some h, by simpa using List.find?_some h⟩
  · rintro ⟨hr, hentry⟩
    have hsome : (getRecordFor db s e).isSome :=
      List.find?_isSome.mpr ⟨r, hr, decide_eq_true hentry⟩
    obtain ⟨r', hr'⟩ := Option.isSome_iff_exists.mp hsome
    have hmem : r' ∈ db.attendanceRecords := List.mem_of_find?_eq_some hr'
    have hentry' : r'.sessionId = s ∧ r'.enrollmentId = e := by simpa using List.find?_some hr'
    have hid : r'.id = r.id := by
      by_contra hne
      exact hunique r' hmem r hr hne ⟨hentry'.1.trans hentry.1.symm, hentry'.2.trans hentry.2.symm⟩
    rw [hr', Table.eq_of_key hmem hr hid]

/-- **One upsert, entry by entry**: it writes the entry of its row. -/
lemma upsertRecord_entry (hunique : db.attendanceRecords.Excludes SameEntry)
    (h : upsertRecord db row = .ok db') (s e : Ulid) : getRecordFor db' s e =
      if row.sessionId = s ∧ row.enrollmentId = e then upserted (getRecordFor db s e) row
      else getRecordFor db s e := by
  have hunique' := (upsertRecord_written h).apart hunique
  unfold upsertRecord at h
  split at h
  · -- The entry has no record: the row is inserted.
    next hnone =>
    obtain ⟨_, _, h⟩ := bind_ok.mp h
    obtain ⟨records, hinsert, h⟩ := bind_ok.mp h
    obtain ⟨_, _, h⟩ := bind_ok.mp h
    obtain ⟨_, _, h⟩ := bind_ok.mp h
    obtain rfl := pure_ok.mp h
    have hmem := fun r => Table.mem_of_insert (found_ok.mp hinsert) (x := r)
    split
    · next hrow =>
      obtain ⟨rfl, rfl⟩ := hrow
      rw [hnone, upserted, Option.getD_none, restamped_self]
      exact (getRecordFor_eq_some hunique').mpr ⟨(hmem row).mpr (.inr rfl), rfl, rfl⟩
    · next hrow =>
      ext r
      rw [getRecordFor_eq_some hunique', getRecordFor_eq_some hunique]
      refine and_congr_left fun hentry => (hmem r).trans (or_iff_left ?_)
      rintro rfl
      exact hrow hentry
  · -- It has one: the record is written over.
    next old hold =>
    obtain ⟨_, _, h⟩ := bind_ok.mp h
    obtain rfl := pure_ok.mp h
    obtain ⟨hmem, hentry⟩ := (getRecordFor_eq_some hunique).mp hold
    split
    · next hrow =>
      obtain ⟨rfl, rfl⟩ := hrow
      rw [hold]
      exact (getRecordFor_eq_some hunique').mpr
        ⟨Table.mem_put.mpr (.inr ⟨rfl, old, hmem, rfl⟩), hentry⟩
    · next hrow =>
      ext r
      rw [getRecordFor_eq_some hunique', getRecordFor_eq_some hunique]
      refine and_congr_left fun hr => ?_
      rw [Table.mem_put]
      constructor
      · rintro (⟨hr', _⟩ | ⟨rfl, _⟩)
        · exact hr'
        · exact absurd ⟨hentry.1.symm.trans hr.1, hentry.2.symm.trans hr.2⟩ hrow
      · intro hr'
        refine .inl ⟨hr', fun hid => ?_⟩
        obtain rfl := Table.eq_of_key hr' hmem hid
        exact hrow ⟨hentry.1.symm.trans hr.1, hentry.2.symm.trans hr.2⟩

/-- **All upserts, entry by entry**, by induction on the rows. -/
lemma eachRecord_entry (hunique : db.attendanceRecords.Excludes SameEntry)
    (h : eachRecord upsertRecord db rows = .ok db') (s e : Ulid) :
    getRecordFor db' s e = (rowsAt s e rows).foldl upserted (getRecordFor db s e) := by
  induction rows generalizing db with
  | nil =>
    obtain rfl := pure_ok.mp h
    rfl
  | cons row rows ih =>
    obtain ⟨db1, hone, h⟩ := bind_ok.mp h
    rw [ih ((upsertRecord_written hone).apart hunique) h, upsertRecord_entry hunique hone s e]
    by_cases hrow : row.sessionId = s ∧ row.enrollmentId = e
    · have hrows : rowsAt s e (row :: rows) = row :: rowsAt s e rows := by simp [rowsAt, hrow]
      rw [if_pos hrow, hrows, List.foldl_cons]
    · have hrows : rowsAt s e (row :: rows) = rowsAt s e rows := by simp [rowsAt, hrow]
      rw [if_neg hrow, hrows]

lemma eachRecord_other (hunique : db.attendanceRecords.Excludes SameEntry)
    (h : eachRecord upsertRecord db rows = .ok db')
    (hnone : ∀ row ∈ rows, ¬ (row.sessionId = s ∧ row.enrollmentId = e)) :
    getRecordFor db' s e = getRecordFor db s e := by
  have hrows : rowsAt s e rows = [] :=
    List.filter_eq_nil_iff.mpr fun row hrow => by simpa using hnone row hrow
  rw [eachRecord_entry hunique h, hrows, List.foldl_nil]

/-- An entry with rows has the record it had, or else its first row, as its last row leaves it. -/
lemma eachRecord_last (hunique : db.attendanceRecords.Excludes SameEntry)
    (h : eachRecord upsertRecord db rows = .ok db') {last : AttendanceMark}
    (hlast : (rowsAt s e rows).getLast? = some last) :
    ∃ base, getRecordFor db' s e = some (restamped base last) ∧
      (getRecordFor db s e = some base ∨ getRecordFor db s e = none ∧ base ∈ rowsAt s e rows) := by
  rw [eachRecord_entry hunique h]
  cases hold : getRecordFor db s e with
  | some old =>
    refine ⟨old, ?_, .inl rfl⟩
    rw [foldl_upserted, hlast, Option.elim_some]
  | none =>
    cases hrows : rowsAt s e rows with
    | nil =>
      rw [hrows] at hlast
      exact absurd hlast nofun
    | cons row rest =>
      refine ⟨row, ?_, .inr ⟨rfl, List.mem_cons_self⟩⟩
      rw [hrows, List.getLast?_cons, Option.some.injEq] at hlast
      rw [foldl_upserted_none, ← hlast]
      cases rest.getLast? <;> rfl

lemma upsertRecord_school (h : upsertRecord db row = .ok db') :
    Slots.notesBindable row.notes = true ∧
      ∀ old, getRecordFor db row.sessionId row.enrollmentId = some old →
        old.schoolId = row.schoolId := by
  unfold upsertRecord at h
  split at h
  · next hnone =>
    obtain ⟨_, hnotes, _⟩ := bind_ok.mp h
    refine ⟨ensure_ok.mp hnotes, fun old hold => ?_⟩
    rw [hnone] at hold
    exact absurd hold nofun
  · next old hold =>
    obtain ⟨_, hensure, _⟩ := bind_ok.mp h
    obtain ⟨hnotes, hschool⟩ := ensure_ok.mp hensure
    refine ⟨hnotes, fun old' hold' => ?_⟩
    rw [hold] at hold'
    rwa [← Option.some.inj hold']

/-- The entry has a record of the school. -/
def HasEntry (db : SchoolDB) (schoolId s e : Ulid) : Prop :=
  ∃ r, getRecordFor db s e = some r ∧ r.schoolId = schoolId

variable {schoolId : Ulid}

lemma HasEntry.upsert (hunique : db.attendanceRecords.Excludes SameEntry)
    (h : upsertRecord db row = .ok db') (hentry : HasEntry db schoolId s e) :
    HasEntry db' schoolId s e := by
  obtain ⟨r, hr, hschool⟩ := hentry
  unfold HasEntry
  rw [upsertRecord_entry hunique h, hr]
  split
  · exact ⟨restamped r row, rfl, hschool⟩
  · exact ⟨r, rfl, hschool⟩

lemma HasEntry.eachRecord (hunique : db.attendanceRecords.Excludes SameEntry)
    (h : eachRecord upsertRecord db rows = .ok db') (hentry : HasEntry db schoolId s e) :
    HasEntry db' schoolId s e := by
  induction rows generalizing db with
  | nil =>
    obtain rfl := pure_ok.mp h
    exact hentry
  | cons row rows ih =>
    obtain ⟨db1, hone, h⟩ := bind_ok.mp h
    exact ih ((upsertRecord_written hone).apart hunique) h (hentry.upsert hunique hone)

lemma eachRecord_hasEntry (hunique : db.attendanceRecords.Excludes SameEntry)
    (h : eachRecord upsertRecord db rows = .ok db') : ∀ row ∈ rows,
      Slots.notesBindable row.notes = true ∧
        HasEntry db' row.schoolId row.sessionId row.enrollmentId := by
  induction rows generalizing db with
  | nil => simp
  | cons row rows ih =>
    obtain ⟨db1, hone, hrest⟩ := bind_ok.mp h
    have hunique1 := (upsertRecord_written hone).apart hunique
    intro row' hrow'
    rcases List.mem_cons.mp hrow' with rfl | hrow'
    · obtain ⟨hnotes, hschool⟩ := upsertRecord_school hone
      refine ⟨hnotes, HasEntry.eachRecord hunique1 hrest ?_⟩
      refine ⟨_, (upsertRecord_entry hunique hone _ _).trans (if_pos ⟨rfl, rfl⟩), ?_⟩
      cases hold : getRecordFor db row'.sessionId row'.enrollmentId with
      | none => rfl
      | some old => exact hschool old hold
    · exact ih hunique1 hrest row' hrow'

lemma eachRecord_again (hunique : db.attendanceRecords.Excludes SameEntry)
    (hrows : ∀ row ∈ rows, Slots.notesBindable row.notes = true ∧
      HasEntry db row.schoolId row.sessionId row.enrollmentId) :
    ∃ db', eachRecord upsertRecord db rows = .ok db' := by
  induction rows generalizing db with
  | nil => exact ⟨db, rfl⟩
  | cons row rows ih =>
    obtain ⟨hnotes, old, hold, hschool⟩ := hrows row List.mem_cons_self
    obtain ⟨db1, hone⟩ : ∃ db1, upsertRecord db row = .ok db1 := by
      refine ⟨{ db with attendanceRecords := db.attendanceRecords.put (restamped old row) }, ?_⟩
      rw [upsertRecord, hold]
      exact bind_ok.mpr ⟨(), ensure_ok.mpr ⟨hnotes, hschool⟩, rfl⟩
    obtain ⟨db', h⟩ := ih ((upsertRecord_written hone).apart hunique) fun row' hrow' =>
      ⟨(hrows row' (List.mem_cons_of_mem _ hrow')).1,
        (hrows row' (List.mem_cons_of_mem _ hrow')).2.upsert hunique hone⟩
    exact ⟨db', bind_ok.mpr ⟨db1, hone, h⟩⟩

end Statements

/-! ### The request -/

/-- The item of an enrollment that comes last. -/
def lastFor (items : List BulkRecordItem) (enrollmentId : Ulid) : Option BulkRecordItem :=
  (items.filter fun item => item.enrollmentId = enrollmentId).getLast?

/-- Each listed enrollment has one record in the session, as its last item has it; the records that
were there keep what they refer to and who made them; the other records are untouched. -/
structure BulkUpserted (before after : Table AttendanceMark.id) (sessionId : Ulid)
    (items : List BulkRecordItem) : Prop where
  listed : ∀ item ∈ items, ∃ last, lastFor items item.enrollmentId = some last ∧
    ∃ r ∈ after, r.sessionId = sessionId ∧ r.item = last ∧ ∀ r' ∈ after,
      r'.sessionId = sessionId → r'.enrollmentId = item.enrollmentId → r' = r
  kept : ∀ old ∈ before, ∃ r ∈ after, r.id = old.id ∧ r.studentId = old.studentId ∧
    r.createdById = old.createdById ∧ r.sessionId = old.sessionId ∧
      r.enrollmentId = old.enrollmentId
  others : ∀ r, (r.sessionId = sessionId → ∀ item ∈ items, item.enrollmentId ≠ r.enrollmentId) →
    (r ∈ after ↔ r ∈ before)

section Request

variable {env : SchoolEnv} {ctx : RequestContext} {db db' : SchoolDB} {sessionId schoolId : Ulid}
  {items : List BulkRecordItem} {rows : List AttendanceMark} {recordIds : ℕ → Ulid} {n : ℕ}

lemma markedRows_items
    (h : Attendance.markedRows ctx db schoolId sessionId recordIds n items = .ok rows) :
    rows.map AttendanceMark.item = items ∧ ∀ row ∈ rows, row.updatedById = ctx.userId := by
  induction items generalizing n rows with
  | nil =>
    obtain rfl := pure_ok.mp h
    simp
  | cons item items ih =>
    obtain ⟨studentId, _, h⟩ := bind_ok.mp h
    obtain ⟨organizationId, _, h⟩ := bind_ok.mp h
    obtain ⟨rest, hrest, h⟩ := bind_ok.mp h
    obtain rfl := pure_ok.mp h
    obtain ⟨hitems, husers⟩ := ih hrest
    refine ⟨congrArg (item :: ·) hitems, fun row hrow => ?_⟩
    rcases List.mem_cons.mp hrow with rfl | hrow
    · rfl
    · exact husers row hrow

lemma markedRows_again {db1 : SchoolDB} (henrollments : db1.enrollments = db.enrollments)
    (h : Attendance.markedRows ctx db schoolId sessionId recordIds n items = .ok rows)
    (recordIds' : ℕ → Ulid) (m : ℕ) :
    ∃ rows', Attendance.markedRows ctx db1 schoolId sessionId recordIds' m items = .ok rows' := by
  induction items generalizing n m rows with
  | nil => exact ⟨[], rfl⟩
  | cons item items ih =>
    obtain ⟨studentId, hstudent, h⟩ := bind_ok.mp h
    obtain ⟨organizationId, horganization, h⟩ := bind_ok.mp h
    obtain ⟨rest, hrest, h⟩ := bind_ok.mp h
    obtain ⟨rest', hrest'⟩ := ih hrest (m + 1)
    refine ⟨_, bind_ok.mpr ⟨studentId, ?_, bind_ok.mpr ⟨organizationId, horganization,
      bind_ok.mpr ⟨rest', hrest', rfl⟩⟩⟩⟩
    rw [Attendance.resolveStudentId, henrollments]
    exact hstudent

/-- The last row of an entry of the session is that of the last item. -/
lemma rowsAt_getLast (hitems : rows.map AttendanceMark.item = items)
    (hsession : ∀ row ∈ rows, row.sessionId = sessionId) (e : Ulid) :
    (rowsAt sessionId e rows).getLast?.map AttendanceMark.item = lastFor items e := by
  have hrows : rowsAt sessionId e rows = rows.filter fun r => r.enrollmentId = e := by
    refine List.filter_congr fun r hr => ?_
    simp [hsession r hr]
  rw [hrows, lastFor, ← hitems, List.filter_map, List.getLast?_map]
  rfl

def bulkUpdated (sessionId : Ulid) (items : List BulkRecordItem) : AuditEntry where
  action := "ATTENDANCE_SESSION_BULK_UPDATED"
  entityType := "attendance_session"
  entityId := some sessionId
  summary := some ("Bulk update of " ++ toString items.length ++
    " attendance records for session " ++ sessionId.text)

lemma bulkUpdate_ok : Attendance.bulkUpdateRecords env ctx db sessionId items recordIds = .ok db' ↔
    ∃ schoolId session rows db1, ctx.schoolId = some schoolId ∧
      Attendance.getOwned ctx db sessionId = .ok session ∧ session.status ≠ .submitted ∧
      Attendance.markedRows ctx db schoolId sessionId recordIds 0 items = .ok rows ∧
      eachRecord upsertRecord db rows = .ok db1 ∧
      env.Admits (auditRow ctx (bulkUpdated sessionId items)) ∧
      db1.log (auditRow ctx (bulkUpdated sessionId items)) = db' := by
  constructor
  · intro h
    obtain ⟨schoolId, hschool, h⟩ := bind_ok.mp h
    obtain ⟨session, howned, h⟩ := bind_ok.mp h
    obtain ⟨_, hstatus, h⟩ := bind_ok.mp h
    obtain ⟨rows, hrows, h⟩ := bind_ok.mp h
    obtain ⟨db1, hrecords, h⟩ := bind_ok.mp h
    exact ⟨schoolId, session, rows, db1, found_ok.mp hschool, howned, ensure_ok.mp hstatus, hrows,
      hrecords, schoolAudit_ok.mp h⟩
  · rintro ⟨schoolId, session, rows, db1, hschool, howned, hstatus, hrows, hrecords, haudit⟩
    refine bind_ok.mpr ⟨schoolId, found_ok.mpr hschool, bind_ok.mpr ⟨session, howned, ?_⟩⟩
    refine bind_ok.mpr ⟨(), ensure_ok.mpr hstatus, bind_ok.mpr ⟨rows, hrows, ?_⟩⟩
    exact bind_ok.mpr ⟨db1, hrecords, schoolAudit_ok.mpr haudit⟩

/-- **What the rows of a list of items leave.** -/
lemma bulkUpserted_of_rows (hunique : db.attendanceRecords.Excludes SameEntry)
    (hitems : rows.map AttendanceMark.item = items)
    (hsession : ∀ row ∈ rows, row.sessionId = sessionId)
    (h : eachRecord upsertRecord db rows = .ok db') :
    BulkUpserted db.attendanceRecords db'.attendanceRecords sessionId items := by
  have hunique' := (eachRecord_written (fun _ _ _ => upsertRecord_written) h).apart hunique
  have hat : ∀ row ∈ rows, ∃ item ∈ items, item.enrollmentId = row.enrollmentId := by
    intro row hrow
    exact ⟨row.item, hitems ▸ List.mem_map_of_mem hrow, rfl⟩
  refine ⟨fun item hitem => ?_, fun old hold => ?_, fun r hr => ?_⟩
  · -- Each item is read off the last row of its enrollment.
    have hlast := rowsAt_getLast hitems hsession item.enrollmentId
    obtain ⟨last, hlastItem⟩ : ∃ last, lastFor items item.enrollmentId = some last := by
      refine Option.isSome_iff_exists.mp (List.getLast?_isSome.mpr ?_)
      exact List.ne_nil_of_mem (List.mem_filter.mpr ⟨hitem, decide_eq_true rfl⟩)
    rw [hlastItem] at hlast
    obtain ⟨row, hrow, rfl⟩ := Option.map_eq_some_iff.mp hlast
    obtain ⟨base, hbase, _⟩ := eachRecord_last hunique h hrow
    obtain ⟨hmem, hbs, hbe⟩ := (getRecordFor_eq_some hunique').mp hbase
    have hentry : row.enrollmentId = item.enrollmentId := by
      have hrowAt := (List.mem_filter.mp (List.mem_of_getLast? hrow)).2
      exact (of_decide_eq_true hrowAt).2
    refine ⟨row.item, hlastItem, _, hmem, hbs, restamped_item (hbe.trans hentry.symm), ?_⟩
    intro r' hr' hs' he'
    have hfound := (getRecordFor_eq_some hunique').mpr ⟨hr', hs', he'⟩
    exact Option.some.inj (hfound.symm.trans hbase)
  · -- A record keeps its columns, whether a row is of its entry or not.
    have hfound := (getRecordFor_eq_some hunique).mpr ⟨hold, rfl, rfl⟩
    cases hlast : (rowsAt old.sessionId old.enrollmentId rows).getLast? with
    | none =>
      have hnone := List.filter_eq_nil_iff.mp (List.getLast?_eq_none_iff.mp hlast)
      have hsame := eachRecord_other hunique h fun row hrow => by simpa using hnone row hrow
      rw [hfound] at hsame
      exact ⟨old, ((getRecordFor_eq_some hunique').mp hsame).1, rfl, rfl, rfl, rfl, rfl⟩
    | some row =>
      obtain ⟨base, hbase, hwhich⟩ := eachRecord_last hunique h hlast
      obtain rfl : base = old := by
        rcases hwhich with hsome | ⟨hnone, _⟩
        · exact Option.some.inj (hsome.symm.trans hfound)
        · exact absurd (hfound.symm.trans hnone) nofun
      exact ⟨_, ((getRecordFor_eq_some hunique').mp hbase).1, rfl, rfl, rfl, rfl, rfl⟩
  · -- No item names the entry of the record.
    have hsame : getRecordFor db' r.sessionId r.enrollmentId =
        getRecordFor db r.sessionId r.enrollmentId := by
      refine eachRecord_other hunique h fun row hrow hentry => ?_
      obtain ⟨item, hitem, he⟩ := hat row hrow
      exact hr (hentry.1.symm.trans (hsession row hrow)) item hitem (he.trans hentry.2)
    have hafter := getRecordFor_eq_some hunique' (s := r.sessionId) (e := r.enrollmentId) (r := r)
    have hbefore := getRecordFor_eq_some hunique (s := r.sessionId) (e := r.enrollmentId) (r := r)
    rw [hsame, hbefore] at hafter
    simpa using hafter.symm

lemma getRecordFor_congr (h : db'.attendanceRecords = db.attendanceRecords) (s e : Ulid) :
    getRecordFor db' s e = getRecordFor db s e := by
  unfold getRecordFor
  rw [h]

/-- **The same rows again**, with other ids: every entry reads as before. -/
lemma eachRecord_twice (hunique : db.attendanceRecords.Excludes SameEntry)
    {rows' : List AttendanceMark} {db1 db2 : SchoolDB}
    (hitems : rows.map AttendanceMark.item = items)
    (hitems' : rows'.map AttendanceMark.item = items)
    (hsession : ∀ row ∈ rows, row.sessionId = sessionId)
    (hsession' : ∀ row ∈ rows', row.sessionId = sessionId)
    (huser : ∀ row ∈ rows, row.updatedById = ctx.userId)
    (huser' : ∀ row ∈ rows', row.updatedById = ctx.userId)
    (h : eachRecord upsertRecord db rows = .ok db1)
    (hafter : db'.attendanceRecords = db1.attendanceRecords)
    (h' : eachRecord upsertRecord db' rows' = .ok db2) (s e : Ulid) :
    getRecordFor db2 s e = getRecordFor db' s e := by
  have hunique1 : db'.attendanceRecords.Excludes SameEntry :=
    hafter ▸ (eachRecord_written (fun _ _ _ => upsertRecord_written) h).apart hunique
  cases hlast' : (rowsAt s e rows').getLast? with
  | none =>
    have hnone := List.filter_eq_nil_iff.mp (List.getLast?_eq_none_iff.mp hlast')
    exact eachRecord_other hunique1 h' fun row hrow => by simpa using hnone row hrow
  | some row' =>
    -- The last row of the entry brings the same item both times.
    have hmem' := List.mem_filter.mp (List.mem_of_getLast? hlast')
    obtain rfl : sessionId = s :=
      (hsession' row' hmem'.1).symm.trans (of_decide_eq_true hmem'.2).1
    have hsame := (rowsAt_getLast hitems hsession e).trans
      (rowsAt_getLast hitems' hsession' e).symm
    rw [hlast'] at hsame
    obtain ⟨row, hlast, hitem⟩ := Option.map_eq_some_iff.mp hsame
    obtain ⟨base, hbase, _⟩ := eachRecord_last hunique h hlast
    rw [← getRecordFor_congr hafter] at hbase
    obtain ⟨base', hbase', hwhich⟩ := eachRecord_last hunique1 h' hlast'
    obtain rfl : base' = restamped base row := by
      rcases hwhich with hsome | ⟨hnone, _⟩
      · exact Option.some.inj (hsome.symm.trans hbase)
      · exact absurd (hbase.symm.trans hnone) nofun
    have hrow := (List.mem_filter.mp (List.mem_of_getLast? hlast)).1
    rw [hbase', hbase, restamped_restamped,
      restamped_congr hitem ((huser row hrow).trans (huser' row' hmem'.1).symm)]

lemma rows_again {db1 : SchoolDB} (hunique : db.attendanceRecords.Excludes SameEntry)
    {rows' : List AttendanceMark} {recordIds' : ℕ → Ulid} {m : ℕ}
    (hrows : Attendance.markedRows ctx db schoolId sessionId recordIds n items = .ok rows)
    (hrecords : eachRecord upsertRecord db rows = .ok db1)
    (hrecordsOf : db'.attendanceRecords = db1.attendanceRecords)
    (hrows' : Attendance.markedRows ctx db' schoolId sessionId recordIds' m items = .ok rows') :
    ∃ db2, eachRecord upsertRecord db' rows' = .ok db2 := by
  have hunique1 := (eachRecord_written (fun _ _ _ => upsertRecord_written) hrecords).apart hunique
  have hmap : rows'.map AttendanceMark.item = rows.map AttendanceMark.item :=
    (markedRows_items hrows').1.trans (markedRows_items hrows).1.symm
  refine eachRecord_again (hrecordsOf ▸ hunique1) fun row' hrow' => ?_
  have hmem : row'.item ∈ rows.map AttendanceMark.item := hmap ▸ List.mem_map_of_mem hrow'
  obtain ⟨row, hrow, hitem⟩ := List.mem_map.mp hmem
  obtain ⟨hentry, _, _, hnotes⟩ := BulkRecordItem.mk.inj hitem
  obtain ⟨hs, hsession, _⟩ := markedRows_ok hrows row hrow
  obtain ⟨hs', hsession', _⟩ := markedRows_ok hrows' row' hrow'
  obtain ⟨hbindable, hhas⟩ := eachRecord_hasEntry hunique hrecords row hrow
  rw [hs, hsession, hentry] at hhas
  rw [hnotes] at hbindable
  rw [hs', hsession']
  refine ⟨hbindable, ?_⟩
  unfold HasEntry
  rwa [getRecordFor_congr hrecordsOf]

end Request

/-- **A bulk update is an upsert**: each listed enrollment ends with one record as its last item has
it, what was there keeps its identity, and the same request again goes through and leaves every
record as it is. -/
theorem bulkUpdate_upserts (env : SchoolEnv) (ctx : RequestContext) (db db' : SchoolDB)
    (sessionId : Ulid) (items : List BulkRecordItem) (recordIds : ℕ → Ulid)
    (hunique : db.attendanceRecords.Excludes SameEntry)
    (h : Attendance.bulkUpdateRecords env ctx db sessionId items recordIds = .ok db') :
    BulkUpserted db.attendanceRecords db'.attendanceRecords sessionId items ∧
      ∀ recordIds', ∃ db2,
        Attendance.bulkUpdateRecords env ctx db' sessionId items recordIds' = .ok db2 ∧
          ∀ r, r ∈ db2.attendanceRecords ↔ r ∈ db'.attendanceRecords := by
  obtain ⟨schoolId, session, rows, db1, hschool, howned, hstatus, hrows, hrecords, hadmits, hdb⟩ :=
    bulkUpdate_ok.mp h
  obtain ⟨hitems, huser⟩ := markedRows_items hrows
  have hsession := fun row hrow => (markedRows_ok hrows row hrow).2.1
  have hdone := bulkUpserted_of_rows hunique hitems hsession hrecords
  have hunique1 := (eachRecord_written (fun _ _ _ => upsertRecord_written) hrecords).apart hunique
  have hframe := eachRecord_frame (fun _ _ _ => upsertRecord_frame) hrecords
  have hafter : db'.attendanceRecords = db1.attendanceRecords := by rw [← hdb]; rfl
  have hsessions : db'.attendanceSessions = db.attendanceSessions := by rw [← hdb, hframe]; rfl
  have henrollments : db'.enrollments = db.enrollments := by rw [← hdb, hframe]; rfl
  refine ⟨by rwa [hafter], fun recordIds' => ?_⟩
  obtain ⟨rows', hrows'⟩ := markedRows_again henrollments hrows recordIds' 0
  obtain ⟨db2, hrecords'⟩ := rows_again hunique hrows hrecords hafter hrows'
  have howned' : Attendance.getOwned ctx db' sessionId = .ok session := by
    obtain ⟨hctx, hmem, hid⟩ := sessionOwned_iff.mp howned
    exact sessionOwned_iff.mpr ⟨hctx, hsessions ▸ hmem, hid⟩
  refine ⟨_, bulkUpdate_ok.mpr ⟨schoolId, session, rows', db2, hschool, howned', hstatus, hrows',
    hrecords', hadmits, rfl⟩, fun r => ?_⟩
  obtain ⟨hitems', huser'⟩ := markedRows_items hrows'
  have hsession' := fun row hrow => (markedRows_ok hrows' row hrow).2.1
  have hunique2 := (eachRecord_written (fun _ _ _ => upsertRecord_written) hrecords').apart
    (hafter ▸ hunique1)
  have hsame := eachRecord_twice hunique hitems hitems' hsession hsession' huser huser' hrecords
    hafter hrecords' r.sessionId r.enrollmentId
  have hmem2 := getRecordFor_eq_some hunique2 (s := r.sessionId) (e := r.enrollmentId) (r := r)
  have hmem1 := getRecordFor_eq_some (hafter ▸ hunique1) (s := r.sessionId) (e := r.enrollmentId)
    (r := r)
  rw [hsame, hmem1] at hmem2
  simpa using hmem2.symm

instance : DecidableRel SameEntry := fun a b =>
  inferInstanceAs (Decidable (a.sessionId = b.sessionId ∧ a.enrollmentId = b.enrollmentId))

/-- A session that has listed the enrollment 103. -/
def listedOnce : SchoolDB :=
  run (RegisterCall.step .plain) smallSchool.withoutAttendance (backAndMark [])

/-- Its enrollment is marked twice in one request, and stays with the mark that comes last. -/
theorem listedOnce_upserted : ∃ db' : SchoolDB, BulkUpserted listedOnce.attendanceRecords
    db'.attendanceRecords 111 [⟨103, .absent, none, none⟩, ⟨103, .excused, none, none⟩] := by
  obtain ⟨db', h⟩ : ∃ db', Attendance.bulkUpdateRecords .plain staff listedOnce 111
      [⟨103, .absent, none, none⟩, ⟨103, .excused, none, none⟩] (fun _ => 131) = .ok db' :=
    exists_of_isOk (by decide +kernel)
  exact ⟨db', (bulkUpdate_upserts .plain staff listedOnce db' 111 _ _ (by decide +kernel) h).1⟩

end SchoolOs
