import SchoolOs.Announcements
import SchoolOs.Persons
import SchoolOs.PublishStatements
import SchoolOs.SchoolPeople
import SchoolOs.VersionedRows

/-!
The requests that carry a version, one SQL statement at a time: the row is read, its version is
compared, the row is written under the version that was read, and the audit row goes with the
commit.
-/

namespace SchoolOs

open ReadCommitted

lemma run_then {σ : Type} {p : Script ApiError σ Ulid Unit} {f : Unit → Script ApiError σ Ulid Unit}
    {c : σ} {x : Fallible σ} {g : σ → Fallible σ} (hp : p.run c = (fun c' => ((), c')) <$> x)
    (hf : ∀ c', (f ()).run c' = (fun c'' => ((), c'')) <$> g c') :
    (p >>= f).run c = (fun c' => ((), c')) <$> (x >>= g) := by
  rw [Script.run_bind, hp]
  cases x with
  | error e => rfl
  | ok c' => exact hf c'

/-! ### Tables of versioned rows -/

/-- A table of a store whose rows carry a version. -/
structure Shelf (σ Row : Type) where
  id : Row → Ulid
  version : Row → ℕ
  touch : Row → Row
  rows : σ → Table id
  place : σ → Table id → σ
  log : σ → AuditLog → σ
  rows_place : ∀ c t, rows (place c t) = t
  rows_log : ∀ c row, rows (log c row) = rows c
  id_touch : ∀ r, id (touch r) = id r
  version_touch : ∀ r, version (touch r) = version r + 1

namespace Shelf

variable {σ Row : Type} (S : Shelf σ Row)

/-- One row of the table. -/
abbrev row (k : Ulid) : VersionedRow σ Ulid Row where
  cell c := (S.rows c).get k
  version := S.version
  key := k

/-- The statement that writes or deletes a row: it finds it under the version that was read. A
statement that finds no row fails in the ORM. `save` says what the row must meet. -/
def guarded (save : σ → Fallible σ) (effect : σ → σ) (old : Row) : Dml ApiError σ Ulid where
  locks := [S.id old]
  finds c := ensure (((S.rows c).get (S.id old)).map S.version = some (S.version old)) internalError
  admits c := (fun _ => ()) <$> save c
  effect := effect

def written (new : Row) (c : σ) : σ := S.place c ((S.rows c).put (S.touch new))

/-- The flush of a row; a row that did not change is not written. -/
def flush [DecidableEq Row] (save : σ → Fallible σ) (old new : Row) :
    Script ApiError σ Ulid Unit :=
  if new = old then pure () else .exec (S.guarded save (S.written new) old)

variable {S} {r new : Row} {save : σ → Fallible σ} {effect : σ → σ}

lemma run_guarded {c : σ} (hr : (S.rows c).get (S.id r) = some r)
    (heffect : ∀ c', save c = .ok c' → c' = effect c) :
    (Script.exec (S.guarded save effect r)).run c = (fun c' => ((), c')) <$> save c := by
  rw [Script.run_exec]
  simp only [Dml.run, guarded, hr, Option.map_some, ensure, if_true]
  cases hsave : save c with
  | error e => rfl
  | ok c' =>
    rw [heffect c' hsave]
    rfl

lemma run_flush [DecidableEq Row] {c : σ} (hr : (S.rows c).get (S.id r) = some r)
    (hsame : new = r → save c = .ok c) (heffect : ∀ c', save c = .ok c' → new ≠ r →
      c' = S.written new c) :
    (S.flush save r new).run c = (fun c' => ((), c')) <$> save c := by
  unfold flush
  split
  · next heq =>
    rw [hsame heq]
    rfl
  · next hne => exact run_guarded hr fun c' hc' => heffect c' hc' hne

variable {result : Option Row → Prop}

/-- A statement under a version brings the row to what it makes of it. -/
lemma ensures_guarded {x : Option Row} (hx : ∀ c, (S.rows c).get (S.id r) = some r →
    (S.rows (effect c)).get (S.id r) = x) :
    (Script.exec (S.guarded save effect r)).Ensures (S.row (S.id r)).Rely
      ((S.row (S.id r)).Before r) (fun _ => (S.row (S.id r)).After r x) VersionedRow.Any := by
  refine VersionedRow.ensures_flush (by simp [guarded]) (fun c hfinds => ?_) hx
  obtain ⟨r', hr', hv⟩ := Option.map_eq_some_iff.mp (ensure_ok.mp hfinds)
  exact ⟨r', hr', hv⟩

lemma get_written (hid : S.id new = S.id r) {c : σ} (hr : (S.rows c).get (S.id r) = some r) :
    (S.rows (S.written new c)).get (S.id r) = some (S.touch new) := by
  rw [written, S.rows_place, Table.get_put, S.id_touch, if_pos hid.symm, hr]
  rfl

lemma ensures_flush [DecidableEq Row] (hid : S.id new = S.id r)
    (hnew : result (some (S.touch new))) :
    (S.flush save r new).Ensures (S.row (S.id r)).Rely ((S.row (S.id r)).Before r)
      (fun _ => (S.row (S.id r)).Leaves r result) VersionedRow.Any := by
  unfold flush
  split
  · exact VersionedRow.ensures_done
  · intro ws c h
    exact (ensures_guarded (fun c hc => get_written hid hc) ws c h).imp
      fun _ ws c hafter => .inr ⟨_, hnew, hafter⟩

/-! ### Audited changes -/

variable (S) (env : SchoolEnv) (ctx : RequestContext) (entry : AuditEntry)

/-- `audit`. -/
def audit (c : σ) : Fallible σ := do
  ensure (env.Admits (auditRow ctx entry)) internalError
  return S.log c (auditRow ctx entry)

/-- The insert of an audit row, at the commit. -/
def logged : Script ApiError σ Ulid Unit :=
  .exec {
    locks := []
    finds _ := return
    admits c := (fun _ => ()) <$> S.audit env ctx entry c
    effect c := S.log c (auditRow ctx entry) }

/-- A row is written, and what was done is recorded. -/
def rewrite [DecidableEq Row] (save : σ → Fallible σ) (old new : Row) :
    Script ApiError σ Ulid Unit := do
  S.flush save old new
  S.logged env ctx entry

variable {S env ctx entry}

lemma run_logged (c : σ) :
    (S.logged env ctx entry).run c = (fun c' => ((), c')) <$> S.audit env ctx entry c := by
  rw [logged, Script.run_exec]
  unfold audit
  by_cases h : env.Admits (auditRow ctx entry)
  · simp only [ensure, if_pos h]
    rfl
  · simp only [ensure, if_neg h]
    rfl

lemma run_then_logged {p : Script ApiError σ Ulid Unit} {c : σ} {x : Fallible σ}
    (h : p.run c = (fun c' => ((), c')) <$> x) :
    (p >>= fun _ => S.logged env ctx entry).run c =
      (fun c' => ((), c')) <$> (x >>= S.audit env ctx entry) := run_then h run_logged

lemma run_rewrite [DecidableEq Row] {c : σ} (hr : (S.rows c).get (S.id r) = some r)
    (hsame : new = r → save c = .ok c) (heffect : ∀ c', save c = .ok c' → new ≠ r →
      c' = S.written new c) :
    (S.rewrite env ctx entry save r new).run c =
      (fun c' => ((), c')) <$> (save c >>= S.audit env ctx entry) :=
  run_then_logged (run_flush hr hsame heffect)

lemma ensures_logged_of {Row' : Type} {V : VersionedRow σ Ulid Row'} {r' : Row'}
    {result' : Option Row' → Prop} (hV : ∀ c row, V.cell (S.log c row) = V.cell c) :
    (S.logged env ctx entry).Ensures V.Rely (V.Leaves r' result') (fun _ => V.Leaves r' result')
      VersionedRow.Any := VersionedRow.ensures_frame_leaves fun c => hV c _

lemma ensures_logged {k : Ulid} : (S.logged env ctx entry).Ensures (S.row k).Rely
    ((S.row k).Leaves r result) (fun _ => (S.row k).Leaves r result) VersionedRow.Any :=
  ensures_logged_of fun c row => by simp only [S.rows_log]

lemma ensures_rewrite [DecidableEq Row] (hid : S.id new = S.id r)
    (hnew : result (some (S.touch new))) :
    (S.rewrite env ctx entry save r new).Ensures (S.row (S.id r)).Rely
      ((S.row (S.id r)).Before r) (fun _ => (S.row (S.id r)).Leaves r result)
      VersionedRow.Any :=
  Script.ensures_bind VersionedRow.tolerant_rely (ensures_flush hid hnew) fun _ => ensures_logged

lemma ensures_rewrite_other [DecidableEq Row] {k : Ulid} {old : Row} (hne : S.id old ≠ k)
    (hid : S.id new = S.id old) :
    (S.rewrite env ctx entry save old new).Ensures (S.row k).Rely ((S.row k).Before r)
      (fun _ => (S.row k).Before r) VersionedRow.Any := by
  refine Script.ensures_bind VersionedRow.tolerant_rely (Q := fun _ => (S.row k).Before r) ?_
    fun _ => VersionedRow.ensures_frame fun c => by simp only [S.rows_log]
  unfold flush
  split
  · exact VersionedRow.ensures_skip
  · refine VersionedRow.ensures_frame fun c => ?_
    simp only [guarded, written, S.rows_place, Table.get_put, S.id_touch, hid, if_neg hne.symm]

lemma ensures_removal (hnone : result none)
    (hx : ∀ c, (S.rows c).get (S.id r) = some r → (S.rows (effect c)).get (S.id r) = none) :
    (Script.exec (S.guarded save effect r) >>= fun _ => S.logged env ctx entry).Ensures
      (S.row (S.id r)).Rely ((S.row (S.id r)).Before r)
      (fun _ => (S.row (S.id r)).Leaves r result) VersionedRow.Any := by
  refine Script.ensures_bind VersionedRow.tolerant_rely (fun ws c h => ?_) fun _ => ensures_logged
  exact (ensures_guarded hx ws c h).imp fun _ ws c hafter => .inr ⟨_, hnone, hafter⟩

end Shelf

/-! ### Entities -/

/-- The rows of a table, and what the requests that carry a version may do to them. -/
structure VersionedEntity where
  State : Type
  Row : Type
  Edit : Type
  decEq : DecidableEq Row
  shelf : Shelf State Row
  /-- The version in the payload, or in the query. -/
  carried : Edit → ℕ
  /-- The row, and what is checked before the version. -/
  reads : RequestContext → Ulid → Edit → State → Fallible Row
  /-- What is checked after the version. -/
  checks : Edit → Row → Fallible Unit
  rest : SchoolEnv → Clock → RequestContext → Edit → Row → Script ApiError State Ulid Unit
  /-- The row as the request leaves it. -/
  outcome : Clock → RequestContext → Edit → Row → Option Row
  get_of_reads : ∀ {ctx k edit c r}, reads ctx k edit c = .ok r → (shelf.rows c).get k = some r
  counts : ∀ {clk ctx edit r r'}, outcome clk ctx edit r = some r' →
    shelf.version r' = shelf.version r + 1
  rest_ensures : ∀ {env clk ctx k edit c r}, reads ctx k edit c = .ok r →
    checks edit r = .ok () → (rest env clk ctx edit r).Ensures (shelf.row k).Rely
      ((shelf.row k).Before r) (fun _ => (shelf.row k).Leaves r (· = outcome clk ctx edit r))
      VersionedRow.Any

namespace VersionedEntity

/-- A request on a row. -/
def request (E : VersionedEntity) (env : SchoolEnv) (clk : Clock) (ctx : RequestContext)
    (k : Ulid) (edit : E.Edit) : ReadCommitted.Request (E.shelf.row k) ApiError Unit where
  carried := E.carried edit
  reads := E.reads ctx k edit
  checks := E.checks edit
  rest := E.rest env clk ctx edit
  result r x := x = E.outcome clk ctx edit r
  cell_of_reads := E.get_of_reads
  counts h := E.counts h.symm
  rest_ensures := E.rest_ensures

/-- The statements of a request alone come to what the service does as one function. -/
lemma run_script (E : VersionedEntity) (env : SchoolEnv) (clk : Clock) (ctx : RequestContext)
    (k : Ulid) (edit : E.Edit) (c : E.State) (tail : E.Row → Fallible E.State)
    (h : ∀ r, (E.shelf.rows c).get (E.shelf.id r) = some r → E.checks edit r = .ok () →
      (E.rest env clk ctx edit r).run c = (fun c' => ((), c')) <$> tail r) :
    ((E.request env clk ctx k edit).script staleResourceError).run c =
      (fun c' => ((), c')) <$> (do
        let r ← E.reads ctx k edit c
        ensure (E.shelf.version r = E.carried edit) staleResourceError
        E.checks edit r
        tail r) := by
  have hscript : ((E.request env clk ctx k edit).script staleResourceError).run c =
      (E.request env clk ctx k edit).select staleResourceError c >>= fun r =>
        (E.rest env clk ctx edit r).run c := by
    rw [ReadCommitted.Request.script, Script.run_bind, Script.run_look]
    cases (E.request env clk ctx k edit).select staleResourceError c <;> rfl
  rw [hscript]
  simp only [ReadCommitted.Request.select, request]
  cases hreads : E.reads ctx k edit c with
  | error e => rfl
  | ok r =>
    by_cases hv : E.shelf.version r = E.carried edit
    · cases hchecks : E.checks edit r with
      | error e => simp [ensure, hv, hchecks, bind, Except.bind]
      | ok _ =>
        have hget := E.get_of_reads hreads
        have hrest := h r ((Table.get_eq_some.mp hget).2 ▸ hget) hchecks
        simpa [ensure, hv, hchecks, bind, Except.bind, pure, Except.pure] using hrest
    · simp [ensure, hv, bind, Except.bind]

end VersionedEntity

lemma run_asked {σ α : Type} {p : Script ApiError σ Ulid Unit} {f : Unit → Script ApiError σ Ulid α}
    {c : σ} {x : Fallible Unit} (h : p.run c = (fun _ => ((), c)) <$> x) :
    (p >>= f).run c = x >>= fun _ => (f ()).run c := by
  rw [Script.run_bind, h]
  cases x <;> rfl

lemma get_of_owned {α Row : Type} {id : Row → Ulid} {t : Table id} {k : Ulid} {p : α → Row → Bool}
    {x : Option α} {e e' : ApiError} {r : Row}
    (h : (do let a ← found x e; found ((t.get k).filter (p a)) e') = .ok r) :
    t.get k = some r := by
  simp only [bind_ok, found_ok] at h
  obtain ⟨a, -, hr⟩ := h
  exact (Option.filter_eq_some_iff.mp hr).1

/-! ### Students -/

def students : Shelf SchoolDB Student where
  id := Student.id
  version := Student.version
  touch := Student.touch
  rows := SchoolDB.students
  place db rows := { db with students := rows }
  log := SchoolDB.log
  rows_place _ _ := rfl
  rows_log _ _ := rfl
  id_touch _ := rfl
  version_touch _ := rfl

/-- What a request may do to a student. -/
inductive StudentEdit
  | update (data : StudentUpdate)
  | delete (version : ℕ)

namespace StudentEdit

def version : StudentEdit → ℕ
  | .update data => data.version
  | .delete version => version

/-- The row as the request leaves it. -/
def changed (clk : Clock) (ctx : RequestContext) (student : Student) : StudentEdit → Student
  | .update data => Students.applied ctx student data
  | .delete _ => { student with deletedAt := some clk.now, updatedById := ctx.userId }

def entry (env : SchoolEnv) (old new : Student) : StudentEdit → AuditEntry
  | .update _ =>
    { action := "STUDENT_UPDATED", entityType := "student", entityId := some old.id,
      summary := some ("Student " ++ env.repr new.admissionNumber ++ " updated"),
      before := some (studentSnapshot old), after := some (studentSnapshot new) }
  | .delete _ =>
    { action := "STUDENT_DELETED", entityType := "student", entityId := some old.id,
      summary := some ("Student " ++ env.repr old.admissionNumber ++ " deleted"),
      before := some (studentSnapshot old) }

def rest (env : SchoolEnv) (clk : Clock) (ctx : RequestContext) (edit : StudentEdit)
    (student : Student) : Script ApiError SchoolDB Ulid Unit :=
  let new := edit.changed clk ctx student
  students.rewrite env ctx (edit.entry env student new) (Students.save · student new) student new

/-- The service, as one function. -/
def serve (env : SchoolEnv) (clk : Clock) (ctx : RequestContext) (studentId : Ulid)
    (db : SchoolDB) (edit : StudentEdit) : Fallible SchoolDB := do
  let student ← Students.getOwned ctx db studentId
  match edit with
  | .update data => Prod.snd <$> Students.update env ctx db student data
  | .delete version => Students.delete env clk ctx db student version

lemma serve_eq (env : SchoolEnv) (clk : Clock) (ctx : RequestContext) (studentId : Ulid)
    (db : SchoolDB) (edit : StudentEdit) : edit.serve env clk ctx studentId db = (do
      let student ← Students.getOwned ctx db studentId
      ensure (student.version = edit.version) staleResourceError
      let db ← Students.save db student (edit.changed clk ctx student)
      students.audit env ctx (edit.entry env student (edit.changed clk ctx student)) db) := by
  cases edit with
  | update data =>
    simp only [serve, Students.update, map_bind, map_pure, bind_pure]
    rfl
  | delete version => rfl

end StudentEdit

lemma Students.save_ok {db db' : SchoolDB} {old new : Student} (h : save db old new = .ok db')
    (hne : new ≠ old) : db' = students.written new db := by
  simp only [save, if_neg hne, bind_ok, pure_ok] at h
  obtain ⟨_, -, h⟩ := h
  exact h.symm

abbrev studentEntity : VersionedEntity where
  State := SchoolDB
  Row := Student
  Edit := StudentEdit
  decEq := inferInstance
  shelf := students
  carried := StudentEdit.version
  reads ctx studentId _ db := Students.getOwned ctx db studentId
  checks _ _ := return
  rest := StudentEdit.rest
  outcome clk ctx edit student := some (edit.changed clk ctx student).touch
  get_of_reads h := get_of_owned h
  counts {_ _ edit _ _} h := by
    obtain rfl := Option.some.inj h
    cases edit <;> rfl
  rest_ensures {_ _ _ _ edit _ _} hreads _ := by
    obtain rfl := (Table.get_eq_some.mp (get_of_owned hreads)).2
    exact Shelf.ensures_rewrite (by cases edit <;> rfl) rfl

lemma run_studentEntity (env : SchoolEnv) (clk : Clock) (ctx : RequestContext) (k : Ulid)
    (edit : StudentEdit) (db : SchoolDB) :
    ((studentEntity.request env clk ctx k edit).script staleResourceError).run db =
      (fun db' => ((), db')) <$> edit.serve env clk ctx k db := by
  rw [StudentEdit.serve_eq]
  refine studentEntity.run_script env clk ctx k edit db (fun student =>
    Students.save db student (edit.changed clk ctx student) >>=
      students.audit env ctx (edit.entry env student (edit.changed clk ctx student)))
    fun student hget _ => Shelf.run_rewrite hget (fun heq => ?_) fun _ => Students.save_ok
  rw [heq]
  exact if_pos rfl

/-! ### Persons -/

def persons : Shelf SchoolDB Person where
  id := Person.id
  version := Person.version
  touch := Person.touch
  rows := SchoolDB.persons
  place db rows := { db with persons := rows }
  log := SchoolDB.log
  rows_place _ _ := rfl
  rows_log _ _ := rfl
  id_touch _ := rfl
  version_touch _ := rfl

/-- What a request may do to a person. -/
inductive PersonEdit
  | update (data : PersonUpdate)
  | delete (version : ℕ)
  | merge (data : PersonMerge)

namespace PersonEdit

def version : PersonEdit → ℕ
  | .update data => data.version
  | .delete version => version
  | .merge data => data.version

def checks : PersonEdit → Person → Fallible Unit
  | .merge data, p => ensure (p.id ≠ data.targetPersonId)
      (conflictError "A person cannot be merged into itself." "PERSON_MERGE_SELF" [])
  | _, _ => return

/-- What is looked up in other tables, or in other rows. -/
def lookup (ctx : RequestContext) (db : SchoolDB) : PersonEdit → Fallible Unit
  | .update data => Persons.assertAddressOwned ctx db data.addressId
  | .delete _ => return
  | .merge data => do
    let _ ← found (getPerson db ctx.organizationId data.targetPersonId) Persons.targetNotFound

/-- The row as the request leaves it. -/
def changed (clk : Clock) (ctx : RequestContext) (p : Person) : PersonEdit → Person
  | .update data => Persons.applied ctx p data
  | .delete _ => { p with deletedAt := some clk.now, updatedById := ctx.userId }
  | .merge data => Persons.merged ctx p data.targetPersonId

def entry (old new : Person) : PersonEdit → AuditEntry
  | .update _ =>
    { action := "PERSON_UPDATED", entityType := "person", entityId := some old.id,
      summary := some "Person updated",
      before := some (personSnapshot old), after := some (personSnapshot new) }
  | .delete _ =>
    { action := "PERSON_DELETED", entityType := "person", entityId := some old.id,
      summary := some "Person deleted", before := some (personSnapshot old) }
  | .merge data =>
    { action := "PERSON_MERGED", entityType := "person", entityId := some old.id,
      summary := some ("Person merged into " ++ data.targetPersonId.text),
      before := some (personSnapshot old), after := some (personSnapshot new) }

def ask (ctx : RequestContext) : PersonEdit → Script ApiError SchoolDB Ulid Unit
  | .delete _ => pure ()
  | edit => .look fun db => edit.lookup ctx db

def rest (env : SchoolEnv) (clk : Clock) (ctx : RequestContext) (edit : PersonEdit) (p : Person) :
    Script ApiError SchoolDB Ulid Unit := do
  edit.ask ctx
  let new := edit.changed clk ctx p
  persons.rewrite env ctx (edit.entry p new) (Persons.save · p new) p new

/-- The service, as one function. -/
def serve (env : SchoolEnv) (clk : Clock) (ctx : RequestContext) (personId : Ulid)
    (db : SchoolDB) (edit : PersonEdit) : Fallible SchoolDB := do
  let p ← Persons.getOwned ctx db personId
  match edit with
  | .update data => Prod.snd <$> Persons.update env ctx db p data
  | .delete version => Persons.delete env clk ctx db p version
  | .merge data => Prod.snd <$> Persons.merge env ctx db p data

lemma serve_eq (env : SchoolEnv) (clk : Clock) (ctx : RequestContext) (personId : Ulid)
    (db : SchoolDB) (edit : PersonEdit) : edit.serve env clk ctx personId db = (do
      let p ← Persons.getOwned ctx db personId
      ensure (p.version = edit.version) staleResourceError
      edit.checks p
      edit.lookup ctx db
      let db ← Persons.save db p (edit.changed clk ctx p)
      persons.audit env ctx (edit.entry p (edit.changed clk ctx p)) db) := by
  cases edit with
  | update data =>
    simp only [serve, Persons.update, map_bind, map_pure, bind_pure]
    rfl
  | delete version => rfl
  | merge data =>
    simp only [serve, Persons.merge, map_bind, map_pure, bind_pure, lookup, bind_assoc]
    refine bind_congr fun p => bind_congr fun _ => bind_congr fun _ => ?_
    cases htarget : getPerson db ctx.organizationId data.targetPersonId with
    | none => simp only [found, error_bind]
    | some target =>
      obtain ⟨-, hid⟩ := Table.get_eq_some.mp (Option.filter_eq_some_iff.mp htarget).1
      simp only [found, ok_bind, pure_bind, changed, entry, ← hid]
      rfl

end PersonEdit

lemma Persons.save_ok {db db' : SchoolDB} {old new : Person} (h : save db old new = .ok db')
    (hne : new ≠ old) : db' = persons.written new db := by
  simp only [save, bind_ok, pure_ok, flushed, if_neg hne] at h
  obtain ⟨_, -, h⟩ := h
  exact h.symm

abbrev personEntity : VersionedEntity where
  State := SchoolDB
  Row := Person
  Edit := PersonEdit
  decEq := inferInstance
  shelf := persons
  carried := PersonEdit.version
  reads ctx personId _ db := Persons.getOwned ctx db personId
  checks := PersonEdit.checks
  rest := PersonEdit.rest
  outcome clk ctx edit p := some (edit.changed clk ctx p).touch
  get_of_reads h := get_of_owned h
  counts {_ _ edit _ _} h := by
    obtain rfl := Option.some.inj h
    cases edit <;> rfl
  rest_ensures {_ _ _ _ edit _ p} hreads _ := by
    obtain rfl := (Table.get_eq_some.mp (get_of_owned hreads)).2
    refine Script.ensures_bind VersionedRow.tolerant_rely
      (Q := fun _ => (persons.row p.id).Before p) ?_
      fun _ => Shelf.ensures_rewrite (by cases edit <;> rfl) rfl
    cases edit with
    | update data => exact VersionedRow.ensures_query
    | delete version => exact VersionedRow.ensures_skip
    | merge data => exact VersionedRow.ensures_query

lemma PersonEdit.run_ask (ctx : RequestContext) (edit : PersonEdit) (db : SchoolDB) :
    (edit.ask ctx).run db = (fun _ => ((), db)) <$> edit.lookup ctx db := by
  cases edit with
  | delete version => rfl
  | update data => exact Script.run_look _ db
  | merge data => exact Script.run_look _ db

/-- The persons that are stored meet their constraints. -/
def PersonsStored (db : SchoolDB) : Prop := ∀ p ∈ db.persons, p.Fits ∧ Persons.References db p

lemma PersonsStored.save_self {db : SchoolDB} (h : PersonsStored db) {p : Person}
    (hp : p ∈ db.persons) : Persons.save db p p = .ok db := by
  simp only [Persons.save, flushed, if_true, ensure, if_pos (h p hp), Table.put_self hp]
  rfl

lemma run_personEntity (env : SchoolEnv) (clk : Clock) (ctx : RequestContext) (k : Ulid)
    (edit : PersonEdit) {db : SchoolDB} (hdb : PersonsStored db) :
    ((personEntity.request env clk ctx k edit).script staleResourceError).run db =
      (fun db' => ((), db')) <$> edit.serve env clk ctx k db := by
  rw [PersonEdit.serve_eq]
  refine personEntity.run_script env clk ctx k edit db (fun p => do
    edit.lookup ctx db
    let db ← Persons.save db p (edit.changed clk ctx p)
    persons.audit env ctx (edit.entry p (edit.changed clk ctx p)) db) fun p hget _ => ?_
  refine (run_asked (edit.run_ask ctx db)).trans ?_
  rw [map_bind]
  refine bind_congr fun _ => Shelf.run_rewrite hget (fun heq => ?_) fun _ => Persons.save_ok
  rw [heq]
  exact hdb.save_self (Table.get_eq_some.mp hget).1

/-! ### Teachers -/

def teachers : Shelf SchoolDB Teacher where
  id := Teacher.id
  version := Teacher.version
  touch := Teacher.touch
  rows := SchoolDB.teachers
  place db rows := { db with teachers := rows }
  log := SchoolDB.log
  rows_place _ _ := rfl
  rows_log _ _ := rfl
  id_touch _ := rfl
  version_touch _ := rfl

/-- What a request may do to a teacher. -/
inductive TeacherEdit
  | update (data : TeacherUpdate)
  | delete (version : ℕ)

namespace TeacherEdit

def version : TeacherEdit → ℕ
  | .update data => data.version
  | .delete version => version

/-- The teacher who has the new employee number is looked up. -/
def lookup (env : SchoolEnv) (teacher : Teacher) (db : SchoolDB) : TeacherEdit → Fallible Unit
  | .update data => Teachers.checkNewNumber env db teacher data
  | .delete _ => return

/-- The row as the request leaves it. -/
def changed (clk : Clock) (ctx : RequestContext) (teacher : Teacher) : TeacherEdit → Teacher
  | .update data => Teachers.applied ctx teacher data
  | .delete _ => { teacher with deletedAt := some clk.now, updatedById := ctx.userId }

def entry (old new : Teacher) : TeacherEdit → AuditEntry
  | .update _ =>
    { action := "TEACHER_UPDATED", entityType := "teacher", entityId := some old.id,
      summary := some "Teacher updated",
      before := some (teacherSnapshot old), after := some (teacherSnapshot new) }
  | .delete _ =>
    { action := "TEACHER_DELETED", entityType := "teacher", entityId := some old.id,
      summary := some "Teacher deleted", before := some (teacherSnapshot old) }

def ask (env : SchoolEnv) (teacher : Teacher) : TeacherEdit → Script ApiError SchoolDB Ulid Unit
  | .delete _ => pure ()
  | edit => .look fun db => edit.lookup env teacher db

def rest (env : SchoolEnv) (clk : Clock) (ctx : RequestContext) (edit : TeacherEdit)
    (teacher : Teacher) : Script ApiError SchoolDB Ulid Unit := do
  edit.ask env teacher
  let new := edit.changed clk ctx teacher
  teachers.rewrite env ctx (edit.entry teacher new) (Teachers.save · teacher new) teacher new

/-- The service, as one function. -/
def serve (env : SchoolEnv) (clk : Clock) (ctx : RequestContext) (teacherId : Ulid)
    (db : SchoolDB) (edit : TeacherEdit) : Fallible SchoolDB := do
  let teacher ← Teachers.getOwned ctx db teacherId
  match edit with
  | .update data => Prod.snd <$> Teachers.update env ctx db teacher data
  | .delete version => Teachers.delete env clk ctx db teacher version

lemma serve_eq (env : SchoolEnv) (clk : Clock) (ctx : RequestContext) (teacherId : Ulid)
    (db : SchoolDB) (edit : TeacherEdit) : edit.serve env clk ctx teacherId db = (do
      let teacher ← Teachers.getOwned ctx db teacherId
      ensure (teacher.version = edit.version) staleResourceError
      edit.lookup env teacher db
      let db ← Teachers.save db teacher (edit.changed clk ctx teacher)
      teachers.audit env ctx (edit.entry teacher (edit.changed clk ctx teacher)) db) := by
  cases edit with
  | update data =>
    simp only [serve, Teachers.update, map_bind, map_pure, bind_pure]
    rfl
  | delete version => rfl

lemma run_ask (env : SchoolEnv) (teacher : Teacher) (edit : TeacherEdit) (db : SchoolDB) :
    (edit.ask env teacher).run db = (fun _ => ((), db)) <$> edit.lookup env teacher db := by
  cases edit with
  | delete version => rfl
  | update data => exact Script.run_look _ db

end TeacherEdit

lemma Teachers.save_ok {db db' : SchoolDB} {old new : Teacher} (h : save db old new = .ok db')
    (hne : new ≠ old) : db' = teachers.written new db := by
  simp only [save, if_neg hne, bind_ok, pure_ok] at h
  obtain ⟨_, -, h⟩ := h
  exact h.symm

abbrev teacherEntity : VersionedEntity where
  State := SchoolDB
  Row := Teacher
  Edit := TeacherEdit
  decEq := inferInstance
  shelf := teachers
  carried := TeacherEdit.version
  reads ctx teacherId _ db := Teachers.getOwned ctx db teacherId
  checks _ _ := return
  rest := TeacherEdit.rest
  outcome clk ctx edit teacher := some (edit.changed clk ctx teacher).touch
  get_of_reads h := get_of_owned h
  counts {_ _ edit _ _} h := by
    obtain rfl := Option.some.inj h
    cases edit <;> rfl
  rest_ensures {_ _ _ _ edit _ teacher} hreads _ := by
    obtain rfl := (Table.get_eq_some.mp (get_of_owned hreads)).2
    refine Script.ensures_bind VersionedRow.tolerant_rely
      (Q := fun _ => (teachers.row teacher.id).Before teacher) ?_
      fun _ => Shelf.ensures_rewrite (by cases edit <;> rfl) rfl
    cases edit with
    | update data => exact VersionedRow.ensures_query
    | delete version => exact VersionedRow.ensures_skip

lemma run_teacherEntity (env : SchoolEnv) (clk : Clock) (ctx : RequestContext) (k : Ulid)
    (edit : TeacherEdit) (db : SchoolDB) :
    ((teacherEntity.request env clk ctx k edit).script staleResourceError).run db =
      (fun db' => ((), db')) <$> edit.serve env clk ctx k db := by
  rw [TeacherEdit.serve_eq]
  refine teacherEntity.run_script env clk ctx k edit db (fun teacher => do
    edit.lookup env teacher db
    let db ← Teachers.save db teacher (edit.changed clk ctx teacher)
    teachers.audit env ctx (edit.entry teacher (edit.changed clk ctx teacher)) db)
    fun teacher hget _ => ?_
  refine (run_asked (edit.run_ask env teacher db)).trans ?_
  rw [map_bind]
  refine bind_congr fun _ => Shelf.run_rewrite hget (fun heq => ?_) fun _ => Teachers.save_ok
  rw [heq]
  exact if_pos rfl

end SchoolOs
