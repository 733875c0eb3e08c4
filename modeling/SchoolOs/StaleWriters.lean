import SchoolOs.LostUpdates

/-!
Stale writers: which requests learn that another has changed the row under the version that they
carry. The comparison tells it; a request that is past the comparison runs into the guarded write,
whose failure in the ORM has no answer of its own.
-/

namespace SchoolOs

open ReadCommitted

section System

variable {kind : VersionedKind} {ι : Type} [DecidableEq ι] (env : SchoolEnv) (k : Ulid)
  (calls : ι → VersionedCall kind)

/-- The requests, and the changes of the row that they have committed so far. -/
abbrev VersionedLog (kind : VersionedKind) (ι : Type) :=
  VersionedSys kind ι × List (ReadCommitted.Change ι kind.entity.Row)

/-- A request runs its next statement. -/
abbrev VersionedLog.turn (w : VersionedLog kind ι) (i : ι) : VersionedLog kind ι :=
  ReadCommitted.Request.watch (fun i => (calls i).request env k) staleResourceError w i

/-- No request has begun. -/
def VersionedLog.start (db : kind.entity.State) : VersionedLog kind ι := (.init db, [])

/-- Another request has committed a change of the row under the version of this one. -/
def VersionedLog.Beaten (w : VersionedLog kind ι) (i : ι) : Prop :=
  ∃ change ∈ w.2, change.author ≠ i ∧ (calls change.author).carried = (calls i).carried

/-- The request has read the row at its version, and is not answered yet. -/
def VersionedLog.Past (w : VersionedLog kind ι) (i : ι) : Prop :=
  (w.1.pc i).Past staleResourceError

/-- A request that is answered after another's change under its version is told that it is stale,
and changes nothing. -/
def VersionedLog.Told (w : VersionedLog kind ι) (i : ι) : Prop :=
  w.Beaten calls i → (w.1.pc i).answer = none →
    ∀ answer, ((w.turn env k calls i).1.pc i).answer = some answer →
      answer = .error staleResourceError ∧
        (w.turn env k calls i).1.store.committed = w.1.store.committed

/-- A request that commits a write of the row has no rival that is past its comparison, and a
request that begins after a rival's change finds the row, in a status that is compared first and
that the operation takes. -/
structure VersionedLog.Orderly (w : VersionedLog kind ι) (i : ι) : Prop where
  unrivalled : w.1.pc i = .running (.done ()) → (∃ t ∈ w.1.store.own i, k ∈ t.locks) →
    ∀ j, j ≠ i → (calls j).carried = (calls i).carried → ¬ w.Past j
  readable : w.1.pc i = .fresh → w.Beaten calls i →
    ∃ row, kind.entity.reads (calls i).ctx k (calls i).edit w.1.store.committed = .ok row

/-- **Stale writers are told so** along a run whose turns are orderly. -/
theorem stale_writers_told (db : kind.entity.State) {schedule : List ι}
    (h : Runs.Along (VersionedLog.turn env k calls) (VersionedLog.Orderly k calls) (.start db)
      schedule) :
    Runs.Along (VersionedLog.turn env k calls) (VersionedLog.Told env k calls) (.start db)
      schedule := by
  have hstart : ReadCommitted.Guarded (fun i => (calls i).request env k) staleResourceError
      (.init db : VersionedSys kind ι) := guarded_init db
  refine told_of_orderly hstart (h.imp fun w i horderly => ⟨?_, horderly.readable⟩)
  rintro ⟨⟩ hdone hheld
  exact horderly.unrivalled hdone hheld

variable {k calls} in
lemma VersionedLog.orderly_of_idle {w : VersionedLog kind ι} {i : ι}
    (hidle : ∀ j, j ≠ i → (w.1.pc j).idle = true)
    (hreads : (kind.entity.reads (calls i).ctx k (calls i).edit w.1.store.committed).isOk) :
    w.Orderly k calls i where
  unrivalled _ _ j hj _ := Standing.not_past_of_idle (hidle j hj)
  readable _ _ := by
    cases h : kind.entity.reads (calls i).ctx k (calls i).edit w.1.store.committed with
    | ok row => exact ⟨row, rfl⟩
    | error e =>
      rw [h] at hreads
      cases hreads

end System

/-! ### Two updates of a student -/

/-- An update of student 71 at its first version. -/
def touchStudent (by_ : Ulid) : VersionedCall .students where
  ctx := { staff with userId := some by_ }
  clk := ⟨0, 0⟩
  edit := .update ⟨none, none, none, none, none, 1, no_admissionNumber, no_withdrawalReason,
    one_le_first⟩

def touchBoth : Bool → VersionedCall .students
  | true => touchStudent 1
  | false => touchStudent 2

/-- One after the other: the second is told that it is stale. -/
theorem stale_writers_told_in_turn : Runs.Along (VersionedLog.turn .plain 71 touchBoth)
    (VersionedLog.Told .plain 71 touchBoth) (.start smallSchool)
    [true, true, true, true, false, false] := by
  refine stale_writers_told .plain 71 touchBoth smallSchool ?_
  have halone : Runs.Along (VersionedLog.turn .plain 71 touchBoth) (fun w i =>
      (∀ j, j ≠ i → (w.1.pc j).idle = true) ∧ (VersionedKind.students.entity.reads
        (touchBoth i).ctx 71 (touchBoth i).edit w.1.store.committed).isOk)
      (.start smallSchool) [true, true, true, true, false, false] := by decide +kernel
  exact halone.imp fun w i h => VersionedLog.orderly_of_idle h.1 h.2

/-- Both have read the student when the first commits; the other fails in its flush, and there is
no answer for that. -/
theorem stale_writer_crashes : ¬ ∀ (env : SchoolEnv) (calls : Bool → VersionedCall .students)
    (db : SchoolDB) (schedule : List Bool), Runs.Along (VersionedLog.turn env 71 calls)
      (VersionedLog.Told env 71 calls) (.start db) schedule := by
  intro h
  let w := Runs.run (VersionedLog.turn SchoolEnv.plain 71 touchBoth) (.start smallSchool)
    [true, false, true, true, true]
  have htold : w.Told SchoolEnv.plain 71 touchBoth false :=
    (h .plain touchBoth smallSchool [true, false, true, true, true, false]).2.2.2.2.2.1
  have hauthors : w.2.map (·.author) = [true] := by decide +kernel
  obtain ⟨change, hchange, hauthor⟩ : ∃ change ∈ w.2, change.author = true :=
    List.mem_map.mp (hauthors ▸ List.mem_singleton_self true)
  have hbeaten : w.Beaten touchBoth false := ⟨change, hchange, by simp [hauthor], by
    rw [hauthor]
    rfl⟩
  have hopen : (w.1.pc false).answer = none := by decide +kernel
  have hanswer : ((w.turn SchoolEnv.plain 71 touchBoth false).1.pc false).answer =
      some (.error internalError) := by decide +kernel
  exact absurd (htold hbeaten hopen _ hanswer).1 (by decide)

end SchoolOs
