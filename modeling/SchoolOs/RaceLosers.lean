import SchoolOs.Creates

/-!
Race losers: creates for one unique key, their statements in any order. One of them commits its
row. A rival that has yet to look for the key finds the row and raises the conflict; one that is
past its search runs into the index, and only some of the services have an answer for that.
-/

namespace SchoolOs

open ReadCommitted

/-! ### Requests -/

/-- The tables whose rows are created after a search for a row with their key. -/
inductive CreateKind
  | attendanceSessions | students | guardians | parentLinks | enrollments | assignments
  deriving DecidableEq

abbrev CreateKind.service : CreateKind → CreateService
  | .attendanceSessions => Attendance.createService
  | .students => Students.createService
  | .guardians => Guardians.createService
  | .parentLinks => ParentLinks.createService
  | .enrollments => Enrollments.createService
  | .assignments => Assignments.createService

lemma createService_lawful (kind : CreateKind) : kind.service.Lawful := by
  cases kind with
  | attendanceSessions => exact Attendance.createService_lawful
  | students => exact Students.createService_lawful
  | guardians => exact Guardians.createService_lawful
  | parentLinks => exact ParentLinks.createService_lawful
  | enrollments => exact Enrollments.createService_lawful
  | assignments => exact Assignments.createService_lawful

/-- A create, with its context. -/
structure CreateCall (kind : CreateKind) where
  ctx : RequestContext
  data : kind.service.Data

namespace CreateCall

variable {kind : CreateKind} (env : SchoolEnv) (c : CreateCall kind)

/-- The request, statement by statement. -/
def script : Script ApiError kind.service.State (EntryLock kind.service.Key) Unit :=
  kind.service.script env c.ctx c.data

/-- The service, as one function. -/
def serve (db : kind.service.State) : Fallible kind.service.State :=
  match kind, c, db with
  | .attendanceSessions, ⟨ctx, d⟩, db =>
    Prod.snd <$> Attendance.createSession env ctx db d.data d.id d.recordIds
  | .students, ⟨ctx, d⟩, db => Prod.snd <$> Students.create env ctx db d.data d.id
  | .guardians, ⟨ctx, d⟩, db => Prod.snd <$> Guardians.addGuardian env ctx db d.data d.id
  | .parentLinks, ⟨ctx, d⟩, db =>
    Prod.snd <$> ParentLinks.linkToStudent env ctx db d.studentId d.data d.id
  | .enrollments, ⟨ctx, d⟩, db => Prod.snd <$> Enrollments.create env ctx db d.data d.id
  | .assignments, ⟨ctx, d⟩, db => Prod.snd <$> Assignments.create env ctx db d.data d.id

/-- The entries of the new row in the unique indexes. -/
def keys (schoolId : Ulid) : List kind.service.Key := kind.service.keys schoolId c.data

/-- The conflicts that the checks before the insert raise on a database. -/
def conflicts (schoolId : Ulid) (db : kind.service.State) : List ApiError :=
  kind.service.conflicts env c.ctx schoolId c.data db

/-- The number of queries up to the one that looks for the key. -/
def place (schoolId : Ulid) (k : kind.service.Key) : ℕ :=
  kind.service.place env c.ctx schoolId c.data k

end CreateCall

/-- The statements of a request, one after another, are its service. -/
lemma run_createCall (env : SchoolEnv) {kind : CreateKind} (c : CreateCall kind)
    (db : kind.service.State) :
    (c.script env).run db = (fun db' => ((), db')) <$> c.serve env db := by
  obtain ⟨ctx, d⟩ := c
  cases kind with
  | attendanceSessions => exact (Attendance.run_create d db).trans (Functor.map_map _ _ _).symm
  | students => exact (Students.run_create d db).trans (Functor.map_map _ _ _).symm
  | guardians => exact (Guardians.run_create d db).trans (Functor.map_map _ _ _).symm
  | parentLinks => exact (ParentLinks.run_create d db).trans (Functor.map_map _ _ _).symm
  | enrollments => exact (Enrollments.run_create d db).trans (Functor.map_map _ _ _).symm
  | assignments => exact (Assignments.run_create d db).trans (Functor.map_map _ _ _).symm

section System

variable {kind : CreateKind} {ι : Type} [DecidableEq ι] (env : SchoolEnv) (schoolId : Ulid)
  (k : kind.service.Key) (calls : ι → CreateCall kind)

/-- The requests, statement by statement, on one database. -/
abbrev CreateSys (kind : CreateKind) (ι : Type) :=
  Sessions ι ApiError kind.service.State (EntryLock kind.service.Key) Unit

/-- The requests, and how many turns each of them has had. -/
abbrev CreateLog (kind : CreateKind) (ι : Type) := CreateSys kind ι × (ι → ℕ)

/-- A request runs its next statement. -/
abbrev CreateLog.turn (w : CreateLog kind ι) (i : ι) : CreateLog kind ι :=
  Sessions.counted (fun i => (calls i).script env) w i

/-- No request has begun. -/
def CreateLog.start (db : kind.service.State) : CreateLog kind ι := (.init db, fun _ => 0)

/-- Each rival of a request that is about to commit has yet to look for the key, unless the service
answers a violation of its index as a conflict. -/
def CreateLog.Orderly (w : CreateLog kind ι) (i : ι) : Prop :=
  (w.1.pc i).ending = true → ∀ j, j ≠ i →
    kind.service.mapped k = true ∨ w.2 j < (calls j).place env schoolId k

/-- **A request alone** answers and commits as its service does. -/
theorem create_alone (pcs : ι → Standing ApiError kind.service.State (EntryLock kind.service.Key)
    Unit) (i : ι) (db : kind.service.State) :
    Sessions.ComesTo (fun i => (calls i).script env) i pcs (Procs.solo pcs i db [] .fresh) db
      ((fun db' => ((), db')) <$> (calls i).serve env db) := by
  rw [← run_createCall env (calls i) db]
  exact Sessions.comesTo_alone _ pcs i db

/-- Nobody is answered and nothing is committed; or one has committed what it commits alone, and
everybody else who is answered is told a conflict that the checks raise on what was committed. -/
abbrev CreateSys.Settled (db : kind.service.State) (outcome : ι → kind.service.State)
    (s : CreateSys kind ι) : Prop :=
  ReadCommitted.Settled db (fun i => ((), outcome i))
    (fun i j e => e ∈ (calls j).conflicts env schoolId (outcome i)) s

/-- **Race losers are told a conflict** in a run whose turns are orderly: one request commits its
row, and the others leave nothing behind. -/
theorem race_losers_told {db : kind.service.State} {outcome : ι → kind.service.State}
    (hschool : ∀ i, (calls i).ctx.schoolId = some schoolId)
    (hkey : ∀ i, k ∈ (calls i).keys schoolId)
    (hid : ∀ i j, i ≠ j → kind.service.id (calls i).data ≠ kind.service.id (calls j).data)
    (halone : ∀ i, (calls i).serve env db = .ok (outcome i)) {schedule : List ι}
    (h : Runs.Along (CreateLog.turn env calls) (CreateLog.Orderly env schoolId k calls) (.start db)
      schedule) :
    CreateSys.Settled env schoolId calls db outcome
      (Runs.run (CreateLog.turn env calls) (.start db) schedule).1 := by
  have hrun : ∀ i, (kind.service.script env (calls i).ctx (calls i).data).run db =
      .ok ((), outcome i) := by
    intro i
    have hrun := run_createCall env (calls i) db
    rw [halone i] at hrun
    exact hrun
  obtain ⟨q, hq, hcontest⟩ :=
    CreateService.contest (createService_lawful kind) hschool hkey hid hrun
  have hscripts : (fun i => (calls i).script env) = fun i => (q i).script := funext hq
  unfold CreateLog.turn at h ⊢
  rw [hscripts] at h ⊢
  exact hcontest.settled h

end System

/-! ### Two creates at the same time -/

/-- What the request makes of the database alone. -/
def CreateCall.outcome {kind : CreateKind} (c : CreateCall kind) (env : SchoolEnv)
    (db : kind.service.State) : kind.service.State := (c.serve env db).toOption.getD db

lemma CreateCall.serve_eq_outcome {kind : CreateKind} {env : SchoolEnv} {db : kind.service.State}
    {c : CreateCall kind} (h : (c.serve env db).isOk = true) :
    c.serve env db = .ok (c.outcome env db) := by
  unfold CreateCall.outcome
  cases hserve : c.serve env db with
  | ok db' => rfl
  | error e =>
    rw [hserve] at h
    cases h

/-- Two enrollments of student 71 in one year. -/
def enrollTwice : Bool → CreateCall .enrollments
  | true => ⟨staff, ⟨⟨71, 21, 31, 51, none, 738000, .regular, no_rollNumber⟩, 501⟩⟩
  | false => ⟨staff, ⟨⟨71, 21, 31, 52, none, 738000, .regular, no_rollNumber⟩, 502⟩⟩

/-- Statement by statement in turns: the second insert waits for the first, and finds its entry. -/
theorem race_losers_told_of_two : CreateSys.Settled .plain 11 enrollTwice smallSchool
    (fun i => (enrollTwice i).outcome .plain smallSchool)
    (Runs.run (CreateLog.turn .plain enrollTwice) (.start smallSchool)
      [true, false, true, false, true, false, true, false, true, false, true, false, true, false,
        false]).1 := by
  refine @race_losers_told .enrollments Bool _ .plain 11 (.studentYear 71 21) enrollTwice _ _
    (by decide) (by decide) (by decide) (fun i => CreateCall.serve_eq_outcome ?_) _
    (Runs.along_of_forall (fun _ _ _ _ _ => .inl rfl) _ _)
  revert i
  decide +kernel

/-- Two students with one admission number. -/
def admitTwice : Bool → CreateCall .students
  | true => ⟨staff, ⟨⟨63, "N3", 738000, .active, by decide⟩, 501⟩⟩
  | false => ⟨staff, ⟨⟨63, "N3", 738000, .active, by decide⟩, 502⟩⟩

/-- Both have looked for the number when the first commits; the other fails in its flush, and there
is no answer for that. -/
theorem race_loser_crashes : ¬ ∀ (env : SchoolEnv) (calls : Bool → CreateCall .students)
    (k : StudentKey) (db : SchoolDB) (outcome : Bool → SchoolDB) (schedule : List Bool),
    (∀ i, (calls i).ctx.schoolId = some 11) → (∀ i, k ∈ (calls i).keys 11) →
    (∀ i j, i ≠ j → (calls i).data.id ≠ (calls j).data.id) →
    (∀ i, (calls i).serve env db = .ok (outcome i)) →
    CreateSys.Settled env 11 calls db outcome
      (Runs.run (CreateLog.turn env calls) (.start db) schedule).1 := by
  intro h
  have hsettled := h .plain admitTwice (.admissionNumber 11 "N3") smallSchool
    (fun i => (admitTwice i).outcome .plain smallSchool)
    [true, true, true, false, false, false, true, true, true, false] (by decide) (by decide)
    (by decide) (fun i => CreateCall.serve_eq_outcome (by revert i; decide +kernel))
  have hwinner : ((Runs.run (CreateLog.turn .plain admitTwice) (.start smallSchool)
      [true, true, true, false, false, false, true, true, true, false]).1.pc true).answer =
        some (.ok ()) := by decide +kernel
  have hloser : ((Runs.run (CreateLog.turn .plain admitTwice) (.start smallSchool)
      [true, true, true, false, false, false, true, true, true, false]).1.pc false).answer =
        some (.error internalError) := by decide +kernel
  cases hsettled with
  | undecided hcommitted hanswers =>
    rw [hanswers true] at hwinner
    cases hwinner
  | decided i hcommitted hi hothers =>
    cases i with
    | false =>
      rw [hi] at hloser
      cases hloser
    | true =>
      obtain ⟨e, he, heq⟩ := hothers false nofun _ hloser
      cases heq
      exact absurd he (by decide +kernel)

end SchoolOs
