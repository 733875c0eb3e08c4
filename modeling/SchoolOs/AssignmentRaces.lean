import SchoolOs.AssignmentStatements
import SchoolOs.Runs

/-!
Races between requests on assignments. The indexes keep one ACTIVE class teacher for a cohort and
one ACTIVE teacher for each of its subjects, whatever the order of the statements. Subject teachers
without a subject have no entry, and nothing keeps two of them apart but the check of the create
request.
-/

namespace SchoolOs

open ReadCommitted Procs Runs

variable {ι : Type*} [DecidableEq ι] {env : SchoolEnv} {req : ι → AssignmentRequest}

/-! ### One teacher per role -/

/-- Both are ACTIVE, for one cohort in one year: both class teachers, or both teachers of one
subject, where no subject is one as well. -/
def SameRole (a b : TeacherAssignment) : Prop :=
  a.status = .active ∧ b.status = .active ∧ a.schoolId = b.schoolId ∧ a.cohortId = b.cohortId ∧
    a.academicYearId = b.academicYearId ∧ a.role = b.role ∧
    (b.role = .classTeacher ∨ (b.role = .subjectTeacher ∧ a.subjectId = b.subjectId))

instance : DecidableRel SameRole := fun a b =>
  inferInstanceAs (Decidable (a.status = .active ∧ b.status = .active ∧ a.schoolId = b.schoolId ∧
    a.cohortId = b.cohortId ∧ a.academicYearId = b.academicYearId ∧ a.role = b.role ∧
    (b.role = .classTeacher ∨ (b.role = .subjectTeacher ∧ a.subjectId = b.subjectId))))

/-- There is one teacher per role. -/
def OneTeacher (db : SchoolDB) : Prop := db.teacherAssignments.Excludes SameRole

instance (db : SchoolDB) : Decidable (OneTeacher db) :=
  inferInstanceAs (Decidable (db.teacherAssignments.Excludes SameRole))

/-- An ACTIVE subject teacher without a subject: the index has no entry for the row. -/
def TeacherAssignment.Unentered (a : TeacherAssignment) : Prop :=
  a.status = .active ∧ a.role = .subjectTeacher ∧ a.subjectId = none

section Roles

variable {a b : TeacherAssignment}

lemma SameRole.symm (h : SameRole a b) : SameRole b a := by
  obtain ⟨ha, hb, hschool, hcohort, hyear, hrole, hkind⟩ := h
  refine ⟨hb, ha, hschool.symm, hcohort.symm, hyear.symm, hrole.symm, ?_⟩
  rw [hrole]
  exact hkind.imp_right fun h => ⟨h.1, h.2.symm⟩

/-- Two teachers in one role share an entry of an index, unless neither has one. -/
lemma SameRole.entry (h : SameRole a b) (hb : ¬ b.Unentered) :
    Assignments.Collides a b ∧ ∃ k, k ∈ a.indexKey ∧ k ∈ b.indexKey := by
  obtain ⟨hactive, hactive', hschool, hcohort, hyear, hrole, hkind⟩ := h
  rcases hkind with hclass | ⟨hsubject, hsame⟩
  · refine ⟨⟨hschool, hcohort, hyear, hactive, hactive', hrole, .inl hclass⟩,
      .classTeacher b.schoolId b.cohortId b.academicYearId, ?_, ?_⟩
    · simp [TeacherAssignment.indexKey, hactive, hrole, hclass, hschool, hcohort, hyear]
    · simp [TeacherAssignment.indexKey, hactive', hclass]
  · obtain ⟨s, hs⟩ := Option.ne_none_iff_exists'.mp fun hnone => hb ⟨hactive', hsubject, hnone⟩
    have hsome : b.subjectId ≠ none := hs ▸ Option.some_ne_none s
    refine ⟨⟨hschool, hcohort, hyear, hactive, hactive', hrole, .inr ⟨hsubject, hsame, hsome⟩⟩,
      .subjectTeacher b.schoolId b.cohortId s b.academicYearId, ?_, ?_⟩
    · simp [TeacherAssignment.indexKey, hactive, hrole, hsubject, hsame, hs, hschool, hcohort,
        hyear]
    · simp [TeacherAssignment.indexKey, hactive', hsubject, hs]

end Roles

/-! ### Writes of rows -/

/-- The statement writes the row, its version apart. -/
inductive WritesRow : AssignmentWrite → TeacherAssignment → Prop
  | insert (a : TeacherAssignment) : WritesRow (insertAssignment a) a
  | update {old new : TeacherAssignment} (hid : new.id = old.id) :
      WritesRow (updateAssignment old new) new

section Writes

variable {w : AssignmentWrite} {r : TeacherAssignment}

lemma WritesRow.locks (h : WritesRow w r) :
    .row r.id ∈ w.locks ∧ ∀ k ∈ r.indexKey, .key k ∈ w.locks := by
  cases h with
  | insert => simp [insertAssignment]
  | update hid =>
    simp only [updateAssignment, hid, List.mem_cons, List.mem_map, List.mem_append,
      Option.mem_toList, true_or, true_and]
    exact fun k hk => .inr ⟨k, .inr hk, rfl⟩

lemma WritesRow.mem_run (h : WritesRow w r) {c : SchoolDB} {x : TeacherAssignment}
    (hx : x ∈ (w.run c).teacherAssignments) :
    x ∈ c.teacherAssignments ∨ (x.id = r.id ∧ ∀ a, SameRole a x → SameRole a r) := by
  cases h with
  | insert =>
    change x ∈ (c.teacherAssignments.insert r).getD c.teacherAssignments at hx
    cases hinsert : c.teacherAssignments.insert r with
    | none =>
      rw [hinsert] at hx
      exact .inl hx
    | some t =>
      rw [hinsert] at hx
      rcases (Table.mem_of_insert hinsert).mp hx with hx | rfl
      · exact .inl hx
      · exact .inr ⟨rfl, fun _ h => h⟩
  | update hid =>
    rcases Table.mem_put.mp hx with ⟨hx, _⟩ | ⟨rfl, _⟩
    · exact .inl hx
    · exact .inr ⟨rfl, fun _ h => h⟩

end Writes

/-! ### What a turn does -/

/-- A row is written, or at least read, and the commit is to come. -/
def AssignmentPc.Flushed : AssignmentPc → Prop
  | .written _ _ | .logged _ => True
  | _ => False

/-- The row that the next statement of a request writes. -/
def nextRow (req : ι → AssignmentRequest) (s : AssignmentSys ι) (i : ι) :
    Option TeacherAssignment :=
  match s.pc i, (req i).op with
  | .checked schoolId _, .create data id => (req i).ctx.organizationId.map fun organizationId =>
      Assignments.created (req i).ctx schoolId organizationId data id
  | .selected old, .update _ data =>
    if Assignments.applied (req i).ctx old data = old then none
    else some (Assignments.applied (req i).ctx old data)
  | .selected old, .finish _ _ =>
    if Assignments.ended (req i).clk (req i).ctx old = old then none
    else some (Assignments.ended (req i).clk (req i).ctx old)
  | _, _ => none

/-- What one turn of a request may be. -/
inductive AssignmentMove (req : ι → AssignmentRequest) (s : AssignmentSys ι) (i : ι) :
    AssignmentSys ι → Prop
  | idle : AssignmentMove req s i s
  | goto {pc : AssignmentPc} (before : ¬ (s.pc i).Flushed) : AssignmentMove req s i (s.goto i pc)
  | abort {pc : AssignmentPc} (after : ¬ pc.Flushed) : AssignmentMove req s i (s.abort i pc)
  | flush {r : TeacherAssignment} {w : AssignmentWrite} {pc : AssignmentPc}
      {store : Store ι SchoolDB AssignmentLock} (before : ¬ (s.pc i).Flushed)
      (row : nextRow req s i = some r) (writes : WritesRow w r)
      (free : ¬ EntryTaken (s.view i) r) (write : s.store.write i w = some store)
      (after : pc.Flushed) : AssignmentMove req s i ⟨store, Function.update s.pc i pc⟩
  | log {row : AuditLog} {pc : AssignmentPc} {store : Store ι SchoolDB AssignmentLock}
      (write : s.store.write i (insertAssignmentAudit row) = some store) (after : pc.Flushed) :
      AssignmentMove req s i ⟨store, Function.update s.pc i pc⟩
  | commit {pc : AssignmentPc} (after : ¬ pc.Flushed) : AssignmentMove req s i (s.commit i pc)

section Moves

variable {s : AssignmentSys ι} {i : ι}

/-- A write that goes through holds its row and its entry alone, and finds the entry free. -/
lemma not_entryTaken {w : AssignmentWrite} {r : TeacherAssignment}
    {store : Store ι SchoolDB AssignmentLock} (hwrites : WritesRow w r)
    (hwrite : s.store.write i w = some store) (hfree : ¬ s.Violates i r) :
    ¬ EntryTaken (s.view i) r := by
  have hwaits := (Store.write_eq_some.mp hwrite).1
  have hheld : ∀ l ∈ w.locks, ¬ s.Held i l := by
    rintro l hl ⟨p, hp, hne, k, hk, hkp⟩
    obtain rfl := List.mem_singleton.mp hk
    exact hwaits ⟨p, hp, hne, k, hl, hkp⟩
  intro htaken
  exact hfree ⟨hheld _ hwrites.locks.1, fun k hk => hheld _ (hwrites.locks.2 k hk), htaken⟩

lemma move_write {w : AssignmentWrite} {r : TeacherAssignment} {pc : AssignmentPc}
    (hbefore : ¬ (s.pc i).Flushed) (hrow : nextRow req s i = some r) (hwrites : WritesRow w r)
    (hfree : ¬ s.Violates i r) (hafter : pc.Flushed) :
    AssignmentMove req s i (s.write i w pc) := by
  unfold Procs.write
  split
  · exact .idle
  · next store hwrite =>
    exact .flush hbefore hrow hwrites (not_entryTaken hwrites hwrite hfree) hwrite hafter

lemma move_fail (e : ApiError) : AssignmentMove req s i (AssignmentSys.fail s i e) := .abort id

lemma move_lookup {α : Type} {x : Option α} {e : ApiError} {pc : α → AssignmentPc}
    (hbefore : ¬ (s.pc i).Flushed) :
    AssignmentMove req s i (AssignmentSys.lookup s i x e pc) := by
  cases x with
  | none => exact move_fail e
  | some a => exact .goto hbefore

lemma move_flush {old new : TeacherAssignment} {pc : AssignmentPc} (hid : new.id = old.id)
    (hbefore : ¬ (s.pc i).Flushed) (hrow : new ≠ old → nextRow req s i = some new)
    (hafter : pc.Flushed) : AssignmentMove req s i (AssignmentSys.flush s i old new pc) := by
  unfold AssignmentSys.flush
  split
  · exact .goto hbefore
  next hne =>
  split
  · exact move_fail _
  split
  · exact move_fail _
  · next hfree => exact move_write hbefore (hrow hne) (.update hid) hfree hafter

lemma move_insert {a : TeacherAssignment} {pc : AssignmentPc} (hbefore : ¬ (s.pc i).Flushed)
    (hrow : nextRow req s i = some a) (hafter : pc.Flushed) :
    AssignmentMove req s i (AssignmentSys.insert s i a pc) := by
  unfold AssignmentSys.insert
  split
  · exact move_fail _
  split
  · exact move_fail _
  next hfree =>
  split
  · exact move_write hbefore hrow (.insert a) hfree hafter
  · exact move_fail _

lemma move_select {assignmentId : Ulid} {version : ℕ} (hbefore : ¬ (s.pc i).Flushed) :
    AssignmentMove req s i (AssignmentSys.select req s i assignmentId version) := by
  unfold AssignmentSys.select
  split
  · exact move_fail _
  · split
    · exact .goto hbefore
    · exact move_fail _

variable (env req) in
/-- **What a turn does.** -/
theorem assignment_move (s : AssignmentSys ι) (i : ι) :
    AssignmentMove req s i (s.step env req i) := by
  unfold AssignmentSys.step
  split
  · -- The audit row of what was written.
    unfold AssignmentSys.log
    split
    · unfold Procs.write
      split
      · exact .idle
      · next hwrite => exact .log hwrite trivial
    · exact move_fail _
  · exact .commit id
  · exact .idle
  · next hwritten hlogged _ =>
    have hbefore : ¬ (s.pc i).Flushed := by
      intro h
      unfold AssignmentPc.Flushed at h
      split at h
      · next hpc => exact hwritten _ _ hpc
      · next hpc => exact hlogged _ hpc
      · exact h
    split
    · -- A create: its searches, the organization, and the insert.
      next data id hop =>
      unfold AssignmentSys.nextCreate
      split
      · split
        · exact move_fail _
        · exact move_lookup hbefore
      · exact move_lookup hbefore
      · exact move_lookup hbefore
      · split
        · exact .goto hbefore
        · exact move_fail _
      · next schoolId hpc =>
        split
        · exact move_fail _
        · next organizationId horganization =>
          refine move_insert hbefore ?_ trivial
          simp only [nextRow, hpc, hop, horganization, Option.map_some]
      · exact .idle
    · -- An update: the row is read, and then flushed.
      next assignmentId data hop =>
      unfold AssignmentSys.nextUpdate
      split
      · exact move_select hbefore
      · next old hpc =>
        refine move_flush rfl hbefore (fun hne => ?_) trivial
        simp only [nextRow, hpc, hop, hne, if_false]
      · exact .idle
    · -- An end likewise.
      next assignmentId version hop =>
      unfold AssignmentSys.nextEnd
      split
      · exact move_select hbefore
      · next old hpc =>
        refine move_flush rfl hbefore (fun hne => ?_) trivial
        simp only [nextRow, hpc, hop, hne, if_false]
      · exact .idle

end Moves

/-! ### The invariant -/

/-- Before a request writes an ACTIVE subject teacher without a subject, it sees no other one for
the cohort and the year, and no open transaction has written one. -/
def Guarded (req : ι → AssignmentRequest) (s : AssignmentSys ι) (i : ι) : Prop :=
  ∀ r ∈ nextRow req s i, r.Unentered →
    (∀ a ∈ (s.view i).teacherAssignments, a.id ≠ r.id → ¬ SameRole a r) ∧
    ∀ p ∈ s.store.pending, p.1 ≠ i → ∀ r', WritesRow p.2 r' → ¬ SameRole r' r

/-- What the writes of a request come to: one row, or none. -/
structure WroteRow (row : Option TeacherAssignment) (ws : List AssignmentWrite) : Prop where
  mem : ∀ c, ∀ x ∈ (after ws c).teacherAssignments, x ∈ c.teacherAssignments ∨
    ∃ r ∈ row, x.id = r.id ∧ ∀ a, SameRole a x → SameRole a r
  writes : ∀ r ∈ row, ∃ w ∈ ws, WritesRow w r

lemma wroteRow_nil : WroteRow none [] := ⟨fun _ _ hx => .inl hx, nofun⟩

/-- There is one teacher per role, and the rows that are being written, `rows`, are neither in the
role of a committed one nor in each other's. -/
structure RaceInv (s : AssignmentSys ι) (rows : ι → Option TeacherAssignment) : Prop where
  one : OneTeacher s.store.committed
  before : ∀ i, ¬ (s.pc i).Flushed → s.store.own i = []
  wrote : ∀ i, WroteRow (rows i) (s.store.own i)
  apart : ∀ i, ∀ r ∈ rows i, s.store.committed.teacherAssignments.Apart SameRole r
  rivals : ∀ i j, i ≠ j → ∀ r ∈ rows i, ∀ r' ∈ rows j, ¬ SameRole r r'

section Steps

variable {s : AssignmentSys ι} {i : ι} {rows : ι → Option TeacherAssignment}

/-- A row that a request begins to write is in the role of no other. -/
lemma RaceInv.fresh (h : RaceInv s rows) (hguard : Guarded req s i) {r : TeacherAssignment}
    {w : AssignmentWrite} {store : Store ι SchoolDB AssignmentLock}
    (hbefore : ¬ (s.pc i).Flushed) (hrow : nextRow req s i = some r) (hwrites : WritesRow w r)
    (hfree : ¬ EntryTaken (s.view i) r) (hwrite : s.store.write i w = some store) :
    s.store.committed.teacherAssignments.Apart SameRole r ∧
      ∀ j ≠ i, ∀ r' ∈ rows j, ¬ SameRole r' r := by
  have hview : s.view i = s.store.committed := Store.view_of_own_nil (h.before i hbefore)
  by_cases hentry : r.Unentered
  · obtain ⟨hseen, hpending⟩ := hguard r hrow hentry
    rw [hview] at hseen
    refine ⟨hseen, fun j hj r' hr' => ?_⟩
    obtain ⟨w', hw', hwrites'⟩ := (h.wrote j).writes r' hr'
    exact hpending (j, w') (Store.mem_own.mp hw') hj r' hwrites'
  · refine ⟨fun a ha hne hsame => ?_, fun j hj r' hr' hsame => ?_⟩
    · rw [hview] at hfree
      exact hfree ⟨a, ha, hne, (hsame.entry hentry).1⟩
    · -- both would hold the entry
      obtain ⟨w', hw', hwrites'⟩ := (h.wrote j).writes r' hr'
      obtain ⟨_, k, hk', hk⟩ := hsame.entry hentry
      refine (Store.write_eq_some.mp hwrite).1 ⟨(j, w'), Store.mem_own.mp hw', hj, .key k, ?_, ?_⟩
      · exact hwrites.locks.2 k hk
      · exact hwrites'.locks.2 k hk'

lemma RaceInv.flush (h : RaceInv s rows) {r : TeacherAssignment} {w : AssignmentWrite}
    {pc : AssignmentPc} {store : Store ι SchoolDB AssignmentLock} (hbefore : ¬ (s.pc i).Flushed)
    (hwrites : WritesRow w r) (hwrite : s.store.write i w = some store) (hafter : pc.Flushed)
    (hapart : s.store.committed.teacherAssignments.Apart SameRole r)
    (hrivals : ∀ j ≠ i, ∀ r' ∈ rows j, ¬ SameRole r' r) :
    RaceInv ⟨store, Function.update s.pc i pc⟩ (Function.update rows i (some r)) := by
  have hcommitted := Store.write_committed hwrite
  have hown : store.own i = [w] := by
    rw [Store.own_write hwrite, h.before i hbefore, List.nil_append]
  have hothers : ∀ j ≠ i, store.own j = s.store.own j := fun j => Store.own_write_of_ne hwrite
  refine ⟨hcommitted ▸ h.one, fun j hj => ?_, fun j => ?_, fun j => ?_, fun j k hjk => ?_⟩
  · -- Nothing is open for those who have not flushed.
    by_cases hji : j = i
    · subst hji
      exact absurd (show (Function.update s.pc j pc j).Flushed by
        rwa [Function.update_self]) hj
    · change store.own j = []
      rw [hothers j hji]
      refine h.before j ?_
      change ¬ (Function.update s.pc i pc j).Flushed at hj
      rwa [Function.update_of_ne hji] at hj
  · -- Each has written its own row.
    change WroteRow _ (store.own j)
    by_cases hji : j = i
    · subst hji
      rw [Function.update_self, hown]
      refine ⟨fun c x hx => ?_, fun r' hr' => ?_⟩
      · exact (hwrites.mem_run hx).imp_right fun hr => ⟨r, rfl, hr⟩
      · obtain rfl := Option.some.inj hr'
        exact ⟨w, List.mem_singleton.mpr rfl, hwrites⟩
    · rw [Function.update_of_ne hji, hothers j hji]
      exact h.wrote j
  · -- The row is apart from what is committed.
    change ∀ r' ∈ _, store.committed.teacherAssignments.Apart SameRole r'
    rw [hcommitted]
    by_cases hji : j = i
    · subst hji
      rw [Function.update_self]
      intro r' hr'
      obtain rfl := Option.some.inj hr'
      exact hapart
    · rw [Function.update_of_ne hji]
      exact h.apart j
  · -- And no two of those still open are in one role.
    by_cases hji : j = i
    · subst hji
      rw [Function.update_self, Function.update_of_ne hjk.symm]
      intro r1 hr1 r2 hr2 hsame
      obtain rfl := Option.some.inj hr1
      exact hrivals k hjk.symm r2 hr2 hsame.symm
    · rw [Function.update_of_ne hji]
      by_cases hki : k = i
      · subst hki
        rw [Function.update_self]
        intro r1 hr1 r2 hr2
        obtain rfl := Option.some.inj hr2
        exact hrivals j hjk r1 hr1
      · rw [Function.update_of_ne hki]
        exact h.rivals j k hjk

/-- A request has ended, and the committed state is apart from what the others write. -/
lemma RaceInv.ended (h : RaceInv s rows) {s' : AssignmentSys ι} (hself : s'.store.own i = [])
    (hothers : ∀ j ≠ i, s'.store.own j = s.store.own j ∧ s'.pc j = s.pc j)
    (hone : OneTeacher s'.store.committed)
    (hapart : ∀ j ≠ i, ∀ r ∈ rows j, s'.store.committed.teacherAssignments.Apart SameRole r) :
    RaceInv s' (Function.update rows i none) := by
  refine ⟨hone, fun j hj => ?_, ?_, ?_, fun j k hjk => ?_⟩
  · by_cases hji : j = i
    · rw [hji]
      exact hself
    · rw [(hothers j hji).1]
      exact h.before j ((hothers j hji).2 ▸ hj)
  · refine (Function.forall_update_iff rows fun j row => WroteRow row (s'.store.own j)).mpr
      ⟨hself ▸ wroteRow_nil, fun j hji => ?_⟩
    rw [(hothers j hji).1]
    exact h.wrote j
  · exact (Function.forall_update_iff rows fun _ row =>
      ∀ r ∈ row, s'.store.committed.teacherAssignments.Apart SameRole r).mpr ⟨nofun, hapart⟩
  · intro r hr r' hr'
    have hrow : ∀ m r, r ∈ Function.update rows i none m → r ∈ rows m := by
      intro m r hr
      by_cases hmi : m = i
      · subst hmi
        rw [Function.update_self] at hr
        cases hr
      · rwa [Function.update_of_ne hmi] at hr
    exact h.rivals j k hjk r (hrow j r hr) r' (hrow k r' hr')

lemma RaceInv.commit (h : RaceInv s rows) {pc : AssignmentPc} :
    RaceInv (s.commit i pc) (Function.update rows i none) := by
  have hmem := (h.wrote i).mem s.store.committed
  refine h.ended Store.own_commit (fun j hj => ⟨Store.own_commit_of_ne hj,
    Function.update_of_ne hj _ _⟩) ?_ ?_
  · -- two rows in one role are both old, or the one written is among them
    rintro a ha b hb hne hsame
    rcases hmem a ha with ha | ⟨r, hr, hid, hra⟩
    · rcases hmem b hb with hb | ⟨r, hr, hid, hrb⟩
      · exact h.one a ha b hb hne hsame
      · exact h.apart i r hr a ha (hid ▸ hne) (hrb a hsame)
    · rcases hmem b hb with hb | ⟨r', hr', hid', _⟩
      · exact h.apart i r hr b hb (hid ▸ hne.symm) (hra b hsame.symm)
      · obtain rfl := Option.mem_unique hr hr'
        exact hne (hid.trans hid'.symm)
  · intro j hj r' hr' a ha hne hsame
    rcases hmem a ha with ha | ⟨r, hr, _, hra⟩
    · exact h.apart j r' hr' a ha hne hsame
    · exact h.rivals j i hj r' hr' r hr (hra r' hsame.symm)

/-- **One turn keeps the invariant**, when it is guarded. -/
lemma raceInv_step (env : SchoolEnv) (s : AssignmentSys ι) (i : ι) (hguard : Guarded req s i)
    (h : ∃ rows, RaceInv s rows) : ∃ rows, RaceInv (s.step env req i) rows := by
  obtain ⟨rows, h⟩ := h
  generalize hs' : s.step env req i = s'
  have hmove := assignment_move env req s i
  rw [hs'] at hmove
  cases hmove with
  | idle => exact ⟨rows, h⟩
  | @goto pc before =>
    refine ⟨rows, h.one, fun j hj => ?_, h.wrote, h.apart, h.rivals⟩
    by_cases hji : j = i
    · rw [hji]
      exact h.before i before
    · refine h.before j ?_
      change ¬ (Function.update s.pc i pc j).Flushed at hj
      rwa [Function.update_of_ne hji] at hj
  | abort after =>
    exact ⟨_, h.ended Store.own_abort (fun j hj => ⟨Store.own_abort_of_ne hj,
      Function.update_of_ne hj _ _⟩) h.one fun j _ => h.apart j⟩
  | flush before row writes free write after =>
    -- The flush takes a free entry, so the row is in the role of no other.
    obtain ⟨hapart, hrivals⟩ := h.fresh hguard before row writes free write
    exact ⟨_, h.flush before writes write after hapart hrivals⟩
  | @log row pc store write after =>
    -- The audit row touches no assignment.
    have hcommitted := Store.write_committed write
    refine ⟨rows, hcommitted ▸ h.one, fun j hj => ?_, fun j => ?_, fun j => ?_, h.rivals⟩
    · by_cases hji : j = i
      · subst hji
        exact absurd (show (Function.update s.pc j pc j).Flushed by
          rwa [Function.update_self]) hj
      · change store.own j = []
        rw [Store.own_write_of_ne write hji]
        refine h.before j ?_
        change ¬ (Function.update s.pc i pc j).Flushed at hj
        rwa [Function.update_of_ne hji] at hj
    · change WroteRow _ (store.own j)
      by_cases hji : j = i
      · subst hji
        rw [Store.own_write write]
        refine ⟨fun c x hx => ?_, fun r hr => ?_⟩
        · rw [after_snoc] at hx
          exact (h.wrote j).mem c x hx
        · obtain ⟨w, hw, hwrites⟩ := (h.wrote j).writes r hr
          exact ⟨w, List.mem_append_left _ hw, hwrites⟩
      · rw [Store.own_write_of_ne write hji]
        exact h.wrote j
    · change ∀ r ∈ _, store.committed.teacherAssignments.Apart SameRole r
      rw [hcommitted]
      exact h.apart j
  | commit after => exact ⟨_, h.commit⟩

end Steps

lemma raceInv_init {db : SchoolDB} (hdb : OneTeacher db) :
    RaceInv (AssignmentSys.init (ι := ι) db) fun _ => none where
  one := hdb
  before := fun _ _ => Store.own_of_pending_nil rfl
  wrote := fun i => by
    rw [Store.own_of_pending_nil rfl]
    exact wroteRow_nil
  apart := nofun
  rivals := nofun

/-- **One teacher per role**, after any turns of any requests in any order, when no ACTIVE subject
teacher without a subject is written beside another one for the cohort and the year. Everything
else the indexes keep apart. -/
theorem assignments_one (env : SchoolEnv) (req : ι → AssignmentRequest) (db : SchoolDB)
    (hdb : OneTeacher db) (turns : List ι)
    (h : Along (AssignmentSys.step env req) (Guarded req) (.init db) turns) :
    OneTeacher (run (AssignmentSys.step env req) (.init db) turns).store.committed := by
  obtain ⟨rows, hinv⟩ := invariant (raceInv_step env) h ⟨_, raceInv_init hdb⟩
  exact hinv.one

/-- Two requests for the class teacher of one cohort. -/
def twoClassTeachers (i : Fin 2) : AssignmentRequest :=
  ⟨staff, ⟨0, 738010⟩, .create ⟨81, 51, none, 21, .classTeacher, 738010⟩ (.ofNat (501 + i))⟩

/-- They take turns. -/
def inTurns : List (Fin 2) := (List.replicate 7 [0, 1]).flatten

lemma classTeachers_guarded (s : AssignmentSys (Fin 2)) (i : Fin 2) :
    Guarded twoClassTeachers s i := by
  intro r hr hentry
  have hop : (twoClassTeachers i).op =
      .create ⟨81, 51, none, 21, .classTeacher, 738010⟩ (.ofNat (501 + i)) := rfl
  have hrole : r.role = .classTeacher := by
    unfold nextRow at hr
    rw [hop] at hr
    split at hr
    · next heq =>
      obtain ⟨_, _, rfl⟩ := Option.map_eq_some_iff.mp hr
      obtain ⟨rfl, rfl⟩ := AssignmentOp.create.inj heq
      rfl
    · next heq => cases heq
    · next heq => cases heq
    · cases hr
  rw [hentry.2.1] at hrole
  cases hrole

theorem classTeachers_one : OneTeacher (run (AssignmentSys.step .plain twoClassTeachers)
    (.init smallSchool) inTurns).store.committed :=
  assignments_one .plain twoClassTeachers smallSchool (by decide) inTurns
    (along_of_forall classTeachers_guarded inTurns _)

/-- A subject teacher without a subject: assigned, ended, assigned once more, and the first
assignment made ACTIVE again. -/
def reactivate : Fin 4 → AssignmentRequest
  | 0 => ⟨staff, ⟨0, 738010⟩, .create ⟨81, 51, none, 21, .subjectTeacher, 738010⟩ 501⟩
  | 1 => ⟨staff, ⟨0, 738020⟩, .finish 501 1⟩
  | 2 => ⟨staff, ⟨0, 738030⟩, .create ⟨81, 51, none, 21, .subjectTeacher, 738030⟩ 502⟩
  | 3 => ⟨staff, ⟨0, 738040⟩, .update 501 ⟨none, some .active, 2, by decide⟩⟩

/-- One request after the other. -/
def reactivateTurns : List (Fin 4) :=
  .replicate 7 0 ++ .replicate 4 1 ++ .replicate 7 2 ++ .replicate 4 3

/-- Both are ACTIVE then. -/
theorem reactivate_two : ¬ ∀ (env : SchoolEnv) (req : Fin 4 → AssignmentRequest) (db : SchoolDB),
    OneTeacher db → ∀ turns : List (Fin 4),
      OneTeacher (run (AssignmentSys.step env req) (.init db) turns).store.committed := by
  intro h
  have hone := h .plain reactivate smallSchool (by decide) reactivateTurns
  have htwo : ¬ OneTeacher (run (AssignmentSys.step .plain reactivate) (.init smallSchool)
      reactivateTurns).store.committed := by decide
  exact htwo hone

end SchoolOs
