import SchoolOs.AnnouncementScripts

/-!
No lost update: the requests on a versioned row, their statements in any order. The committed
changes form a line, each from the row that the one before left, and there is one for each version.
-/

namespace SchoolOs

open ReadCommitted

/-! ### Requests on a row -/

/-- The tables whose rows are changed under a version that the client carries. -/
inductive VersionedKind
  | students | persons | teachers | enrollments | attendanceSessions | timetables | announcements
  deriving DecidableEq

def VersionedKind.entity : VersionedKind → VersionedEntity
  | .students => studentEntity
  | .persons => personEntity
  | .teachers => teacherEntity
  | .enrollments => enrollmentEntity
  | .attendanceSessions => sessionEntity
  | .timetables => timetableEntity
  | .announcements => announcementEntity

/-- A request on a row, with its context and time. -/
structure VersionedCall (kind : VersionedKind) where
  ctx : RequestContext
  clk : Clock
  edit : kind.entity.Edit

namespace VersionedCall

variable {kind : VersionedKind}

/-- The version that the client has read. -/
def carried (c : VersionedCall kind) : ℕ := kind.entity.carried c.edit

def request (env : SchoolEnv) (k : Ulid) (c : VersionedCall kind) :
    ReadCommitted.Request (kind.entity.shelf.row k) ApiError Unit :=
  kind.entity.request env c.clk c.ctx k c.edit

/-- What the request makes of the row: the row changed and touched, or none when it is removed. -/
def outcome (c : VersionedCall kind) (row : kind.entity.Row) : Option kind.entity.Row :=
  kind.entity.outcome c.clk c.ctx c.edit row

/-- The service, as one function. -/
def serve (env : SchoolEnv) (k : Ulid) (c : VersionedCall kind) (db : kind.entity.State) :
    Fallible kind.entity.State :=
  match kind, c, db with
  | .students, ⟨ctx, clk, edit⟩, db => StudentEdit.serve env clk ctx k db edit
  | .persons, ⟨ctx, clk, edit⟩, db => PersonEdit.serve env clk ctx k db edit
  | .teachers, ⟨ctx, clk, edit⟩, db => TeacherEdit.serve env clk ctx k db edit
  | .enrollments, ⟨ctx, _, edit⟩, db => EnrollmentEdit.serve env ctx k db edit
  | .attendanceSessions, ⟨ctx, clk, edit⟩, db => SessionEdit.serve env clk ctx k db edit
  | .timetables, ⟨ctx, clk, edit⟩, db => TimetableEdit.serve env clk ctx k db edit
  | .announcements, ⟨ctx, clk, edit⟩, db => AnnouncementEdit.serve env clk ctx k db edit

end VersionedCall

/-- The rows that are stored meet the constraints that a flush checks. -/
def VersionedKind.Stored : (kind : VersionedKind) → kind.entity.State → Prop
  | .persons, db => PersonsStored db
  | .timetables, db => TimetablesStored db
  | _, _ => True

/-- The statements of a request, one after another, are its service. -/
lemma run_versioned (env : SchoolEnv) (k : Ulid) {kind : VersionedKind} (c : VersionedCall kind)
    {db : kind.entity.State} (hdb : kind.Stored db) :
    ((c.request env k).script staleResourceError).run db =
      (fun db' => ((), db')) <$> c.serve env k db := by
  obtain ⟨ctx, clk, edit⟩ := c
  cases kind with
  | students => exact run_studentEntity env clk ctx k edit db
  | persons => exact run_personEntity env clk ctx k edit hdb
  | teachers => exact run_teacherEntity env clk ctx k edit db
  | enrollments => exact run_enrollmentEntity env clk ctx k edit db
  | attendanceSessions => exact run_sessionEntity env clk ctx k edit db
  | timetables => exact run_timetableEntity env clk ctx k edit hdb
  | announcements => exact run_announcementEntity env clk ctx k edit db

section System

variable {kind : VersionedKind} {ι : Type} [DecidableEq ι] (env : SchoolEnv) (k : Ulid)
  (calls : ι → VersionedCall kind)

/-- The requests, statement by statement, on one database. -/
abbrev VersionedSys (kind : VersionedKind) (ι : Type) :=
  Sessions ι ApiError kind.entity.State Ulid Unit

instance : DecidableEq kind.entity.Row := kind.entity.decEq

/-- A request runs its next statement. -/
abbrev VersionedSys.turn (s : VersionedSys kind ι) (i : ι) : VersionedSys kind ι :=
  ReadCommitted.Request.turn (fun i => (calls i).request env k) staleResourceError s i

/-- The changes of the row that a run commits. -/
abbrev VersionedSys.changes (s : VersionedSys kind ι) (schedule : List ι) :
    List (ReadCommitted.Change ι kind.entity.Row) :=
  ReadCommitted.Request.changes (fun i => (calls i).request env k) staleResourceError s schedule

/-- The committed row. -/
def VersionedSys.row (s : VersionedSys kind ι) (k : Ulid) : Option kind.entity.Row :=
  (kind.entity.shelf.rows s.store.committed).get k

/-- **A request alone** answers and commits as its service does. -/
theorem versioned_alone (pcs : ι → Standing ApiError kind.entity.State Ulid Unit) (i : ι)
    {db : kind.entity.State} (hdb : kind.Stored db) :
    Sessions.ComesTo (fun i => ((calls i).request env k).script staleResourceError) i pcs
      (Procs.solo pcs i db [] .fresh) db
      ((fun db' => ((), db')) <$> (calls i).serve env k db) := by
  rw [← run_versioned env k (calls i) hdb]
  exact Sessions.comesTo_alone _ pcs i db

/-- Changes that each start from the row that the one before left, at the version that the request
carries, and leave there what the request makes of it. -/
inductive Successive (calls : ι → VersionedCall kind) (first : Option kind.entity.Row) :
    List (ReadCommitted.Change ι kind.entity.Row) → Option kind.entity.Row → Prop
  | nil : Successive calls first [] first
  | snoc {changes row i} : Successive calls first changes (some row) →
      kind.entity.shelf.version row = (calls i).carried →
      Successive calls first (changes ++ [⟨i, some row, (calls i).outcome row⟩])
        ((calls i).outcome row)

omit [DecidableEq ι] in
lemma successive_of_lineage {first last : Option kind.entity.Row}
    {changes : List (ReadCommitted.Change ι kind.entity.Row)}
    (h : Lineage (fun i => (calls i).request env k) first changes last) :
    Successive calls first changes last := by
  induction h with
  | nil => exact .nil
  | snoc _ hv hresult ih =>
    obtain rfl := hresult
    exact ih.snoc hv

/-- **No lost update**: whatever the order of their statements, the changes that requests commit on
a row start each from the row that the one before left; the committed versions count up from the
first one; and no two changes were made under one version. -/
theorem no_lost_update {db : kind.entity.State} {first : kind.entity.Row}
    (hfirst : (kind.entity.shelf.rows db).get k = some first) (schedule : List ι) :
    let start : VersionedSys kind ι := .init db
    let changes := VersionedSys.changes env k calls start schedule
    Successive calls (some first) changes
        ((Runs.run (VersionedSys.turn env k calls) start schedule).row k) ∧
      (first :: changes.filterMap ReadCommitted.Change.new).map kind.entity.shelf.version =
        List.range' (kind.entity.shelf.version first)
          (changes.filterMap ReadCommitted.Change.new).length.succ ∧
      (changes.map fun c => (calls c.author).carried).Nodup := by
  have hstart : ReadCommitted.Guarded (fun i => (calls i).request env k) staleResourceError
      (.init db : VersionedSys kind ι) := guarded_init db
  have hline := lineage_changes hstart schedule
  rw [show (kind.entity.shelf.row k).cell (Sessions.init db : VersionedSys kind ι).store.committed =
    some first from hfirst] at hline
  refine ⟨successive_of_lineage env k calls hline, hline.versions, ?_⟩
  have hcarried := hline.carried
  change (_ : List ℕ).Nodup
  rw [show (fun c : ReadCommitted.Change ι kind.entity.Row => (calls c.author).carried) =
    fun c => ((calls c.author).request env k).carried from rfl, hcarried]
  exact List.nodup_range'

end System

/-- Two staff members remove a student at once. -/
def removeBoth : Bool → VersionedCall .students := fun _ => ⟨staff, ⟨0, 0⟩, .delete 1⟩

theorem no_lost_update_removals :
    ((VersionedSys.changes .plain 71 removeBoth (.init smallSchool)
      [true, false, true, false, true, true, false, false]).map
        fun c => (removeBoth c.author).carried).Nodup :=
  (@no_lost_update .students Bool _ .plain 71 removeBoth smallSchool
    ⟨71, 11, 101, 61, "N1", 738000, .active, none, none, none, none, none, 1⟩ rfl
    [true, false, true, false, true, true, false, false]).2.2

end SchoolOs
