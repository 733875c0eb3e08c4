import SchoolOs.EnrollmentStatements

/-!
Races between enrollment requests. The indexes decide them: whatever the order of the statements,
no two ACTIVE enrollments share an entry. What the losers are told depends on the service: the
create request takes every violated index for the first, the others for an unexpected error.
-/

namespace SchoolOs

open ReadCommitted Procs Runs

variable {ι : Type*} [DecidableEq ι] {env : SchoolEnv} {req : ι → EnrollmentRequest}

/-! ### Enrollments that exclude each other -/

/-- Both are ACTIVE: of one student in one year, or in one cohort with one roll number. -/
def SameActive (a b : StudentEnrollment) : Prop :=
  a.status = .active ∧ b.status = .active ∧
    ((a.studentId = b.studentId ∧ a.academicYearId = b.academicYearId) ∨
      (a.cohortId = b.cohortId ∧ a.rollNumber = b.rollNumber ∧ a.rollNumber ≠ none))

instance : DecidableRel SameActive := fun a b =>
  inferInstanceAs (Decidable (a.status = .active ∧ b.status = .active ∧
    ((a.studentId = b.studentId ∧ a.academicYearId = b.academicYearId) ∨
      (a.cohortId = b.cohortId ∧ a.rollNumber = b.rollNumber ∧ a.rollNumber ≠ none))))

/-- No two enrollments exclude each other. -/
def OneActive (db : SchoolDB) : Prop := db.enrollments.Excludes SameActive

instance (db : SchoolDB) : Decidable (OneActive db) :=
  inferInstanceAs (Decidable (db.enrollments.Excludes _))

lemma mem_keys {e : StudentEnrollment} {k : EnrollmentKey} : k ∈ e.keys ↔ e.status = .active ∧
    (k = .studentYear e.studentId e.academicYearId ∨
      ∃ r, e.rollNumber = some r ∧ k = .cohortRoll e.cohortId r) := by
  unfold StudentEnrollment.keys
  split
  · next h => cases e.rollNumber <;> simp [h]
  · next h => simp [h]

lemma sameActive_iff {a b : StudentEnrollment} : SameActive a b ↔ ∃ k ∈ a.keys, k ∈ b.keys := by
  simp only [mem_keys]
  constructor
  · rintro ⟨ha, hb, ⟨hstudent, hyear⟩ | ⟨hcohort, hroll, hsome⟩⟩
    · exact ⟨_, ⟨ha, .inl rfl⟩, hb, .inl (by rw [hstudent, hyear])⟩
    · obtain ⟨r, hr⟩ := Option.ne_none_iff_exists'.mp hsome
      exact ⟨_, ⟨ha, .inr ⟨r, hr, rfl⟩⟩, hb, .inr ⟨r, hroll ▸ hr, by rw [hcohort]⟩⟩
  · rintro ⟨k, ⟨ha, hka⟩, hb, hkb⟩
    refine ⟨ha, hb, ?_⟩
    rcases hka with rfl | ⟨r, hr, rfl⟩
    · rcases hkb with heq | ⟨r, _, heq⟩
      · exact .inl (EnrollmentKey.studentYear.inj heq)
      · cases heq
    · rcases hkb with heq | ⟨r', hr', heq⟩
      · cases heq
      · obtain ⟨hcohort, rfl⟩ := EnrollmentKey.cohortRoll.inj heq
        exact .inr ⟨hcohort, hr.trans hr'.symm, by simp [hr]⟩

lemma SameActive.symm {a b : StudentEnrollment} (h : SameActive a b) : SameActive b a := by
  obtain ⟨k, hka, hkb⟩ := sameActive_iff.mp h
  exact sameActive_iff.mpr ⟨k, hkb, hka⟩

lemma not_sameActive {db : SchoolDB} {row a : StudentEnrollment}
    (hfree : ∀ k ∈ row.keys, ¬ KeyTaken db row k) (ha : a ∈ db.enrollments) (hne : a.id ≠ row.id) :
    ¬ SameActive a row := by
  intro hsame
  obtain ⟨k, hka, hkrow⟩ := sameActive_iff.mp hsame
  exact hfree k hkrow ⟨a, ha, hne, hka⟩

/-! ### What the writes of a request come to -/

/-- The row that a request has rewritten, and the row that it has inserted. -/
structure Change where
  rewritten : Option StudentEnrollment
  inserted : Option StudentEnrollment

/-- Nothing yet. -/
def Change.none : Change := ⟨.none, .none⟩

/-- The table with the rewritten row. -/
def Change.rewrite (ch : Change) (t : Table StudentEnrollment.id) : Table StudentEnrollment.id :=
  match ch.rewritten with
  | .none => t
  | some row => t.put row

/-- The table with both rows. -/
def Change.on (ch : Change) (t : Table StudentEnrollment.id) : Table StudentEnrollment.id :=
  match ch.inserted with
  | .none => ch.rewrite t
  | some e => ((ch.rewrite t).insert e).getD (ch.rewrite t)

section Change

variable {ch : Change} {t : Table StudentEnrollment.id} {x : StudentEnrollment}

lemma mem_rewrite : x ∈ ch.rewrite t ↔ (x ∈ t ∧ ∀ r ∈ ch.rewritten, x.id ≠ r.id) ∨
    (x ∈ ch.rewritten ∧ ∃ old ∈ t, old.id = x.id) := by
  unfold Change.rewrite
  cases ch.rewritten with
  | none => simp
  | some row =>
    rw [Table.mem_put]
    constructor
    · rintro (⟨hx, hne⟩ | ⟨rfl, hold⟩)
      · exact .inl ⟨hx, fun r hr => Option.some.inj hr ▸ hne⟩
      · exact .inr ⟨rfl, hold⟩
    · rintro (⟨hx, hne⟩ | ⟨hrow, hold⟩)
      · exact .inl ⟨hx, hne row rfl⟩
      · obtain rfl := Option.some.inj hrow
        exact .inr ⟨rfl, hold⟩

lemma exists_rewrite_id {id : Ulid} (hthere : ∀ r ∈ ch.rewritten, ∃ old ∈ t, old.id = r.id) :
    (∃ y ∈ ch.rewrite t, y.id = id) ↔ ∃ y ∈ t, y.id = id := by
  constructor
  · rintro ⟨y, hy, rfl⟩
    rcases mem_rewrite.mp hy with ⟨hy, _⟩ | ⟨_, hold⟩
    · exact ⟨y, hy, rfl⟩
    · exact hold
  · rintro ⟨y, hy, rfl⟩
    by_cases hrow : ∃ r ∈ ch.rewritten, y.id = r.id
    · obtain ⟨r, hr, hid⟩ := hrow
      exact ⟨r, mem_rewrite.mpr (.inr ⟨hr, hthere r hr⟩), hid.symm⟩
    · have hne : ∀ r ∈ ch.rewritten, y.id ≠ r.id := fun r hr hid => hrow ⟨r, hr, hid⟩
      exact ⟨y, mem_rewrite.mpr (.inl ⟨hy, hne⟩), rfl⟩

/-- What is in the table afterwards: the old rows but the rewritten one, and the two rows. -/
lemma mem_on (hthere : ∀ r ∈ ch.rewritten, ∃ old ∈ t, old.id = r.id)
    (hnew : ∀ e ∈ ch.inserted, ∀ y ∈ t, y.id ≠ e.id) : x ∈ ch.on t ↔
      (x ∈ t ∧ ∀ r ∈ ch.rewritten, x.id ≠ r.id) ∨ x ∈ ch.rewritten ∨ x ∈ ch.inserted := by
  have hrewrite : x ∈ ch.rewrite t ↔
      (x ∈ t ∧ ∀ r ∈ ch.rewritten, x.id ≠ r.id) ∨ x ∈ ch.rewritten :=
    mem_rewrite.trans (or_congr_right (and_iff_left_of_imp (hthere x)))
  rw [← or_assoc, ← hrewrite]
  unfold Change.on
  cases hinserted : ch.inserted with
  | none => simp
  | some e =>
    have hfresh : ∀ y ∈ ch.rewrite t, y.id ≠ e.id := by
      intro y hy hid
      obtain ⟨z, hz, hzid⟩ := (exists_rewrite_id hthere).mp ⟨y, hy, hid⟩
      exact hnew e hinserted z hz hzid
    obtain ⟨t', ht'⟩ : ∃ t', (ch.rewrite t).insert e = some t' := by
      unfold Table.insert
      split
      · next hmem =>
        obtain ⟨y, hy, hid⟩ := List.mem_map.mp hmem
        exact absurd hid (hfresh y hy)
      · exact ⟨_, rfl⟩
    simp only [ht', Option.getD_some]
    rw [Table.mem_of_insert ht', Option.mem_some_iff, eq_comm (a := x)]

end Change

/-- A lock that the writes of a request hold. -/
def Locks (ws : List EnrollmentWrite) (l : EnrollmentLock) : Prop := ∃ w ∈ ws, l ∈ w.locks

lemma Locks.append {ws : List EnrollmentWrite} {l : EnrollmentLock} (h : Locks ws l)
    (w : EnrollmentWrite) : Locks (ws ++ [w]) l := by
  obtain ⟨v, hv, hl⟩ := h
  exact ⟨v, List.mem_append_left _ hv, hl⟩

lemma not_locks_both {ws ws' : List EnrollmentWrite} (hapart : Apart ws ws') {l : EnrollmentLock}
    (h : Locks ws l) (h' : Locks ws' l) : False := by
  obtain ⟨w, hw, hl⟩ := h
  obtain ⟨w', hw', hl'⟩ := h'
  exact hapart w hw w' hw' l hl hl'

/-- The row and its entries are locked. -/
def LocksRow (ws : List EnrollmentWrite) (x : StudentEnrollment) : Prop :=
  Locks ws (.row x.id) ∧ ∀ k ∈ x.keys, Locks ws (.key k)

lemma LocksRow.append {ws : List EnrollmentWrite} {x : StudentEnrollment} (h : LocksRow ws x)
    (w : EnrollmentWrite) : LocksRow (ws ++ [w]) x :=
  ⟨h.1.append w, fun k hk => (h.2 k hk).append w⟩

/-- **What the writes have done to the enrollments**, on any state and on this one. -/
structure Wrote (ch : Change) (ws : List EnrollmentWrite) (c : SchoolDB) : Prop where
  run : ∀ c, (after ws c).enrollments = ch.on c.enrollments
  there : ∀ r ∈ ch.rewritten, ∃ old ∈ c.enrollments, old.id = r.id
  new : ∀ e ∈ ch.inserted, ∀ x ∈ c.enrollments, x.id ≠ e.id
  locked : ∀ x, x ∈ ch.rewritten ∨ x ∈ ch.inserted → LocksRow ws x
  unique : OneActive (after ws c)

namespace Wrote

variable {ch ch' : Change} {ws ws' : List EnrollmentWrite} {c : SchoolDB}

lemma nil (h : OneActive c) : Wrote .none [] c where
  run := fun _ => rfl
  there := by simp [Change.none]
  new := by simp [Change.none]
  locked := by simp [Change.none]
  unique := h

lemma mem_after (h : Wrote ch ws c) {x : StudentEnrollment} : x ∈ (after ws c).enrollments ↔
    (x ∈ c.enrollments ∧ ∀ r ∈ ch.rewritten, x.id ≠ r.id) ∨ x ∈ ch.rewritten ∨ x ∈ ch.inserted := by
  rw [h.run]
  exact mem_on h.there h.new

lemma exists_id (h : Wrote ch ws c) {x : StudentEnrollment} (hx : x ∈ c.enrollments) :
    ∃ y ∈ (after ws c).enrollments, y.id = x.id := by
  obtain ⟨y, hy, hid⟩ := (exists_rewrite_id h.there).mpr ⟨x, hx, rfl⟩
  refine ⟨y, h.mem_after.mpr ?_, hid⟩
  rcases mem_rewrite.mp hy with hold | ⟨hrow, _⟩
  · exact .inl hold
  · exact .inr (.inl hrow)

lemma update (h : Wrote .none ws c) {old new : StudentEnrollment} (hid : new.id = old.id)
    (hold : ∃ x ∈ (after ws c).enrollments, x.id = old.id)
    (hfree : ∀ k ∈ new.keys, ¬ KeyTaken (after ws c) new k) :
    Wrote ⟨some new.touch, none⟩ (ws ++ [updateEnrollment old new]) c where
  run := by
    intro d
    rw [after_snoc]
    exact congrArg (fun t => Table.put t new.touch) (h.run d)
  there := by
    intro r hr
    obtain rfl := Option.some.inj hr
    obtain ⟨x, hx, hxid⟩ := hold
    rw [h.run] at hx
    exact ⟨x, hx, hxid.trans hid.symm⟩
  new := by simp
  locked := by
    rintro x (hx | hx)
    · obtain rfl := Option.some.inj hx
      refine ⟨⟨_, List.mem_append_right _ (List.mem_singleton.mpr rfl), ?_⟩, fun k hk =>
        ⟨_, List.mem_append_right _ (List.mem_singleton.mpr rfl), ?_⟩⟩
      · exact List.mem_cons.mpr (.inl (congrArg _ hid))
      · exact List.mem_cons_of_mem _ (List.mem_map_of_mem (List.mem_append_right _ hk))
    · cases hx
  unique := by
    unfold OneActive
    rw [after_snoc]
    exact h.unique.put (fun _ _ => SameActive.symm) fun a ha hne =>
      fun hsame => not_sameActive hfree ha hne hsame

lemma insert (h : Wrote ch ws c) (hch : ch.inserted = none) {e : StudentEnrollment}
    {t : Table StudentEnrollment.id} (hinsert : (after ws c).enrollments.insert e = some t)
    (hfree : ∀ k ∈ e.keys, ¬ KeyTaken (after ws c) e k) :
    Wrote ⟨ch.rewritten, some e⟩ (ws ++ [insertEnrollment e]) c where
  run := by
    intro d
    have hrun := h.run d
    unfold Change.on at hrun ⊢
    simp only [hch] at hrun
    rw [after_snoc, insertEnrollment]
    simp only [hrun]
    rfl
  there := h.there
  new := by
    intro e' he' x hx hid
    obtain rfl := Option.some.inj he'
    obtain ⟨y, hy, hyid⟩ := h.exists_id hx
    exact (Table.insert_eq_some.mp hinsert).1 y hy (hyid.trans hid)
  locked := by
    rintro x (hx | hx)
    · exact (h.locked x (.inl hx)).append _
    · obtain rfl := Option.some.inj hx
      refine ⟨⟨_, List.mem_append_right _ (List.mem_singleton.mpr rfl), ?_⟩, fun k hk =>
        ⟨_, List.mem_append_right _ (List.mem_singleton.mpr rfl), ?_⟩⟩
      · exact List.mem_cons_self
      · exact List.mem_cons_of_mem _ (List.mem_map_of_mem hk)
  unique := by
    have hrun : (after (ws ++ [insertEnrollment e]) c).enrollments = t := by
      rw [after_snoc, insertEnrollment]
      simp only [hinsert, Option.getD_some]
    have hfresh := (Table.insert_eq_some.mp hinsert).1
    unfold OneActive
    rw [hrun]
    exact (Table.excludes_insert (fun _ _ => SameActive.symm) hinsert).mpr
      ⟨h.unique, fun a ha => not_sameActive hfree ha (hfresh a ha)⟩

lemma log (h : Wrote ch ws c) (row : AuditLog) :
    Wrote ch (ws ++ [insertEnrollmentAudit row]) c where
  run := by
    intro d
    rw [after_snoc]
    exact h.run d
  there := h.there
  new := h.new
  locked := fun x hx => (h.locked x hx).append _
  unique := by
    rw [after_snoc]
    exact h.unique

/-- **The commit of another**, which holds other locks. -/
lemma interfere (h : Wrote ch ws c) (h' : Wrote ch' ws' c) (hapart : Apart ws ws') :
    Wrote ch' ws' (after ws c) := by
  have hthere : ∀ r ∈ ch'.rewritten, ∃ old ∈ (after ws c).enrollments, old.id = r.id := by
    intro r hr
    obtain ⟨old, hold, hid⟩ := h'.there r hr
    obtain ⟨y, hy, hyid⟩ := h.exists_id hold
    exact ⟨y, hy, hyid.trans hid⟩
  have hnew : ∀ e ∈ ch'.inserted, ∀ x ∈ (after ws c).enrollments, x.id ≠ e.id := by
    intro e he x hx hid
    rcases h.mem_after.mp hx with ⟨hx, _⟩ | hx | hx
    · exact h'.new e he x hx hid
    · obtain ⟨old, hold, hoid⟩ := h.there x hx
      exact h'.new e he old hold (hoid.trans hid)
    · have hlock := (h'.locked e (.inr he)).1
      rw [← hid] at hlock
      exact not_locks_both hapart (h.locked x (.inr hx)).1 hlock
  refine ⟨h'.run, hthere, hnew, h'.locked, ?_⟩
  -- A row is of this request, or of the other, or of neither.
  have hcases : ∀ x ∈ (after ws' (after ws c)).enrollments,
      (x ∈ (after ws' c).enrollments ∧ LocksRow ws' x) ∨
        (x ∈ (after ws c).enrollments ∧ (x ∈ (after ws' c).enrollments ∨ LocksRow ws x)) := by
    intro x hx
    rw [h'.run] at hx
    rcases (mem_on hthere hnew).mp hx with ⟨hx, hne⟩ | hx
    · refine .inr ⟨hx, ?_⟩
      rcases h.mem_after.mp hx with ⟨hc, _⟩ | hrow
      · exact .inl (h'.mem_after.mpr (.inl ⟨hc, hne⟩))
      · exact .inr (h.locked x hrow)
    · exact .inl ⟨h'.mem_after.mpr (.inr hx), h'.locked x hx⟩
  have hboth : ∀ x y, LocksRow ws x → LocksRow ws' y → ¬ SameActive x y := by
    intro x y hx hy hsame
    obtain ⟨k, hkx, hky⟩ := sameActive_iff.mp hsame
    exact not_locks_both hapart (hx.2 k hkx) (hy.2 k hky)
  intro x hx y hy hne hsame
  rcases hcases x hx with ⟨hx', hxlock⟩ | ⟨hxc, hx'⟩
  · rcases hcases y hy with ⟨hy', _⟩ | ⟨_, hy' | hylock⟩
    · exact h'.unique x hx' y hy' hne hsame
    · exact h'.unique x hx' y hy' hne hsame
    · exact hboth y x hylock hxlock hsame.symm
  · rcases hcases y hy with ⟨hy', hylock⟩ | ⟨hyc, _⟩
    · rcases hx' with hx' | hxlock
      · exact h'.unique x hx' y hy' hne hsame
      · exact hboth x y hxlock hylock hsame
    · exact h.unique x hxc y hyc hne hsame

end Wrote

/-! ### What one turn can do -/

/-- What a request can have written where it stands. -/
def EnrollmentPc.Fits (ch : Change) : EnrollmentPc → Prop
  | .written _ _ | .logged _ => True
  | .ended _ | .moved _ => ch.inserted = none
  | _ => ch = .none

/-- A statement that writes an enrollment, in the state that it sees. -/
inductive EnrollmentWrites (c : SchoolDB) : EnrollmentPc → EnrollmentWrite → EnrollmentPc → Prop
  | update {old new : StudentEnrollment} {pc pc' : EnrollmentPc} :
      (∀ ch, pc.Fits ch → ch = .none) → (∀ ch, ch.inserted = none → pc'.Fits ch) →
      new.id = old.id → (∃ x ∈ c.enrollments, x.id = old.id) →
      (∀ k ∈ new.keys, ¬ KeyTaken c new k) →
      EnrollmentWrites c pc (updateEnrollment old new) pc'
  | insert {e : StudentEnrollment} {t : Table StudentEnrollment.id} {pc pc' : EnrollmentPc} :
      (∀ ch, pc.Fits ch → ch.inserted = none) → (∀ ch, pc'.Fits ch) →
      c.enrollments.insert e = some t → (∀ k ∈ e.keys, ¬ KeyTaken c e k) →
      EnrollmentWrites c pc (insertEnrollment e) pc'
  | log (row : AuditLog) {pc pc' : EnrollmentPc} : (∀ ch, pc.Fits ch → pc'.Fits ch) →
      EnrollmentWrites c pc (insertEnrollmentAudit row) pc'

/-- A transaction commits or rolls back when its request is answered. -/
def enrollmentProgram (ι : Type*) : Program ι SchoolDB EnrollmentLock EnrollmentPc where
  reads _ _ pc pc' := ∀ ch, pc.Fits ch → pc'.Fits ch
  writes _ c pc w pc' := EnrollmentWrites c pc w pc'
  commits _ _ pc' := pc'.Fits .none
  aborts _ _ pc' := pc'.Fits .none
  outside _ _ := False

omit [DecidableEq ι] in
/-- **The outline**: what the writes of a request have done stays done, and stays alone. -/
lemma enrollment_outline : Outline (enrollmentProgram ι) OneActive
    (fun _ pc ws c => ∃ ch, Wrote ch ws c ∧ pc.Fits ch) where
  read := by
    rintro i pc pc' ws c hread _ ⟨ch, hwrote, hfits⟩
    exact ⟨ch, hwrote, hread ch hfits⟩
  write := by
    rintro i pc w pc' ws c hwrite _ ⟨ch, hwrote, hfits⟩
    cases hwrite with
    | update hnone hfits' hid hold hfree =>
      obtain rfl := hnone ch hfits
      exact ⟨_, hwrote.update hid hold hfree, hfits' _ rfl⟩
    | insert hinserted hfits' hinsert hfree =>
      exact ⟨_, hwrote.insert (hinserted ch hfits) hinsert hfree, hfits' _⟩
    | log row hkeep => exact ⟨ch, hwrote.log row, hkeep ch hfits⟩
  commit := by
    rintro i pc pc' ws c hcommit _ ⟨ch, hwrote, _⟩
    exact ⟨hwrote.unique, .none, .nil hwrote.unique, hcommit⟩
  abort := by
    rintro i pc pc' ws c habort hone _
    exact ⟨.none, .nil hone, habort⟩
  interfere := by
    rintro i j pc pc' qc ws ws' c _ hapart _ _ ⟨ch, hwrote, _⟩ ⟨ch', hwrote', hfits'⟩
    exact ⟨ch', hwrote.interfere hwrote' hapart, hfits'⟩
  outside := fun h => h.elim

section Steps

variable {s : EnrollmentSys ι} {i : ι} {pc : EnrollmentPc}

lemma lookup_steps {α : Type} {x : Option α} {e : ApiError} {next : α → EnrollmentPc}
    (h : ∀ a ch, (s.pc i).Fits ch → (next a).Fits ch) :
    s.Steps (enrollmentProgram ι) (EnrollmentSys.lookup s i x e next) := by
  unfold EnrollmentSys.lookup
  split
  · next a => exact .read (h a)
  · exact .abort rfl

lemma search_steps {x : Option StudentEnrollment} {rule : EnrollmentIndex} {e : ApiError}
    (h : ∀ ch, (s.pc i).Fits ch → pc.Fits ch) :
    s.Steps (enrollmentProgram ι) (EnrollmentSys.search s i x rule e pc) := by
  unfold EnrollmentSys.search
  split
  · exact .abort rfl
  · exact .read h

/-- A write that has not to wait finds the entries of its row free. -/
lemma free_of_write {row : StudentEnrollment} {w : EnrollmentWrite}
    {store : Store ι SchoolDB EnrollmentLock} (hw : s.store.write i w = some store)
    (hlocks : LocksRow [w] row) (hinto : EnrollmentSys.runsInto s i row = none) :
    ∀ k ∈ row.keys, ¬ KeyTaken (s.view i) row k := by
  have hheld : ∀ l, Locks [w] l → ¬ EnrollmentSys.Held s i l := by
    rintro l ⟨v, hv, hl⟩ ⟨p, hp, hne, l', hl', hmem⟩
    obtain rfl := List.mem_singleton.mp hv
    obtain rfl := List.mem_singleton.mp hl'
    exact (Store.write_eq_some.mp hw).1 ⟨p, hp, hne, l', hl, hmem⟩
  unfold EnrollmentSys.runsInto at hinto
  rw [if_neg (hheld _ hlocks.1)] at hinto
  intro k hk htaken
  split at hinto
  · next hfind =>
    have hnot := List.find?_eq_none.mp hfind k hk
    exact hnot (decide_eq_true (.inr htaken))
  · next k' hfind =>
    have hmem := List.mem_of_find?_eq_some hfind
    rw [if_neg (hheld _ (hlocks.2 k' hmem))] at hinto
    cases hinto

lemma enrollmentFlush_steps {old new : StudentEnrollment} (hid : new.id = old.id)
    (hbefore : ∀ ch, (s.pc i).Fits ch → ch = .none)
    (hafter : ∀ ch, ch.inserted = none → pc.Fits ch) :
    s.Steps (enrollmentProgram ι) (EnrollmentSys.flush s i old new pc) := by
  unfold EnrollmentSys.flush
  split
  · -- The flush finds nothing to write.
    refine .read fun ch hch => hafter ch ?_
    rw [hbefore ch hch]
    rfl
  split
  · exact .abort rfl
  split
  · exact .abort rfl
  next hversion =>
  split
  · exact .abort rfl
  next hinto =>
  unfold Procs.write
  split
  · exact .idle
  next store hw =>
  -- The version was found, so the row is there.
  have hold : ∃ x ∈ (s.view i).enrollments, x.id = old.id := by
    cases hget : (s.view i).enrollments.get old.id with
    | none => simp [hget] at hversion
    | some x => exact ⟨x, Table.get_eq_some.mp hget⟩
  have hlocks : LocksRow [updateEnrollment old new] new := by
    refine ⟨⟨_, List.mem_singleton.mpr rfl, List.mem_cons.mpr (.inl (congrArg _ hid))⟩,
      fun k hk => ⟨_, List.mem_singleton.mpr rfl, ?_⟩⟩
    exact List.mem_cons_of_mem _ (List.mem_map_of_mem (List.mem_append_right _ hk))
  exact .write (.update hbefore hafter hid hold (free_of_write hw hlocks hinto)) hw

lemma insert_steps {mapped : EnrollmentIndex → ApiError} {e : StudentEnrollment}
    (hbefore : ∀ ch, (s.pc i).Fits ch → ch.inserted = none) (hafter : ∀ ch, pc.Fits ch) :
    s.Steps (enrollmentProgram ι) (EnrollmentSys.insert s i mapped e pc) := by
  unfold EnrollmentSys.insert
  split
  · exact .abort rfl
  split
  · exact .abort rfl
  next hfresh =>
  split
  · exact .abort rfl
  next hinto =>
  split
  · unfold Procs.write
    split
    · exact .idle
    next store hw =>
    obtain ⟨t, ht⟩ := Option.ne_none_iff_exists'.mp hfresh
    have hlocks : LocksRow [insertEnrollment e] e :=
      ⟨⟨_, List.mem_singleton.mpr rfl, List.mem_cons_self⟩, fun k hk =>
        ⟨_, List.mem_singleton.mpr rfl, List.mem_cons_of_mem _ (List.mem_map_of_mem hk)⟩⟩
    exact .write (.insert hbefore hafter ht (free_of_write hw hlocks hinto)) hw
  · exact .abort rfl

lemma enrollmentLog_steps {entry : AuditEntry} (h : ∀ ch, (s.pc i).Fits ch → pc.Fits ch) :
    s.Steps (enrollmentProgram ι) (EnrollmentSys.log env req s i entry pc) := by
  unfold EnrollmentSys.log
  split
  · exact steps_write (.log _ h)
  · exact .abort rfl

lemma nextCreate_steps (ctx : RequestContext) (data : EnrollmentCreate) (id : Ulid) :
    s.Steps (enrollmentProgram ι) (s.nextCreate env i ctx data id) := by
  unfold EnrollmentSys.nextCreate
  split
  · next hpc =>
    split
    · exact .abort rfl
    · exact lookup_steps fun _ _ hch => by rwa [hpc] at hch
  · next hpc => exact lookup_steps fun _ _ hch => by rwa [hpc] at hch
  · next hpc => exact lookup_steps fun _ _ hch => by rwa [hpc] at hch
  · next hpc => exact search_steps fun _ hch => by rwa [hpc] at hch
  · next hpc =>
    split
    · exact .read fun _ hch => by rwa [hpc] at hch
    · split
      · exact .read fun _ hch => by rwa [hpc] at hch
      · exact search_steps fun _ hch => by rwa [hpc] at hch
  · next hpc =>
    split
    · exact .abort rfl
    · refine insert_steps (fun ch hch => ?_) fun _ => trivial
      rw [hpc] at hch
      exact congrArg Change.inserted hch
  · exact .idle

lemma nextUpdate_steps (ctx : RequestContext) (enrollmentId : Ulid) (data : EnrollmentUpdate) :
    s.Steps (enrollmentProgram ι) (s.nextUpdate i ctx enrollmentId data) := by
  unfold EnrollmentSys.nextUpdate
  split
  · next hpc =>
    split
    · exact .abort rfl
    · split
      · exact .read fun _ hch => by rwa [hpc] at hch
      · exact .abort rfl
  · next hpc =>
    split
    · exact .abort rfl
    · exact enrollmentFlush_steps rfl (fun _ hch => by rwa [hpc] at hch) fun _ _ => trivial
  · exact .idle

lemma nextTransfer_steps (ctx : RequestContext) (enrollmentId : Ulid) (data : EnrollmentTransfer)
    (id : Ulid) :
    s.Steps (enrollmentProgram ι) (s.nextTransfer env req i ctx enrollmentId data id) := by
  unfold EnrollmentSys.nextTransfer
  split
  · next hpc =>
    split
    · exact .abort rfl
    · split
      · exact .read fun _ hch => by rwa [hpc] at hch
      · exact .abort rfl
  · next hpc => exact lookup_steps fun _ _ hch => by rwa [hpc] at hch
  · next hpc =>
    exact enrollmentFlush_steps rfl (fun _ hch => by rwa [hpc] at hch) fun _ hch => hch
  · next hpc => exact enrollmentLog_steps fun _ hch => by rwa [hpc] at hch
  · next hpc =>
    split
    · exact .abort rfl
    · exact insert_steps (fun _ hch => by rwa [hpc] at hch) fun _ => trivial
  · exact .idle

variable (env req) in
/-- **One turn**: nothing, a read, a write that did not wait, a commit, or a failure. -/
theorem enrollment_steps (s : EnrollmentSys ι) (i : ι) :
    s.Steps (enrollmentProgram ι) (s.step env req i) := by
  unfold EnrollmentSys.step
  split
  · next hpc => exact enrollmentLog_steps fun _ hch => by rwa [hpc] at hch
  · exact .commit rfl
  · exact .idle
  · split
    · exact nextCreate_steps _ _ _
    · exact nextUpdate_steps _ _ _
    · exact nextTransfer_steps _ _ _ _
    · exact .idle

end Steps

/-! ### Commits -/

section Commits

variable {s : EnrollmentSys ι} {i : ι} {pc : EnrollmentPc}

lemma quiet_flush {old new : StudentEnrollment} :
    s.Quiet i (EnrollmentSys.flush s i old new pc) := by
  unfold EnrollmentSys.flush
  split_ifs
  · exact quiet_goto
  · exact quiet_abort
  · exact quiet_abort
  · split
    · exact quiet_abort
    · exact quiet_write _

lemma quiet_insert {mapped : EnrollmentIndex → ApiError} {e : StudentEnrollment} :
    s.Quiet i (EnrollmentSys.insert s i mapped e pc) := by
  unfold EnrollmentSys.insert
  split_ifs
  · exact quiet_abort
  · exact quiet_abort
  · split
    · exact quiet_abort
    · exact quiet_write _
  · split <;> exact quiet_abort

lemma quiet_log {entry : AuditEntry} : s.Quiet i (EnrollmentSys.log env req s i entry pc) := by
  unfold EnrollmentSys.log
  split_ifs
  · exact quiet_write _
  · exact quiet_abort

lemma quiet_lookup {α : Type} {x : Option α} {e : ApiError} {next : α → EnrollmentPc} :
    s.Quiet i (EnrollmentSys.lookup s i x e next) := by
  cases x with
  | none => exact quiet_abort
  | some a => exact quiet_goto

lemma quiet_search {x : Option StudentEnrollment} {rule : EnrollmentIndex} {e : ApiError} :
    s.Quiet i (EnrollmentSys.search s i x rule e pc) := by
  cases x with
  | none => exact quiet_goto
  | some a => exact quiet_abort

variable (env req) in
/-- **Who commits**: a turn is quiet, or the last one of a request that succeeds. -/
lemma enrollment_quiet (s : EnrollmentSys ι) (i : ι) : s.Quiet i (s.step env req i) ∨
    ∃ e, s.pc i = .logged e ∧ s.step env req i = s.commit i (.answered none (.ok e)) := by
  unfold EnrollmentSys.step
  split
  · exact .inl quiet_log
  · next e hpc => exact .inr ⟨e, hpc, rfl⟩
  · exact .inl quiet_refl
  refine .inl ?_
  split
  · unfold EnrollmentSys.nextCreate
    split
    · split
      · exact quiet_abort
      · exact quiet_lookup
    · exact quiet_lookup
    · exact quiet_lookup
    · exact quiet_search
    · split
      · exact quiet_goto
      · split
        · exact quiet_goto
        · exact quiet_search
    · split
      · exact quiet_abort
      · exact quiet_insert
    · exact quiet_refl
  · unfold EnrollmentSys.nextUpdate
    split
    · split
      · exact quiet_abort
      · split
        · exact quiet_goto
        · exact quiet_abort
    · split
      · exact quiet_abort
      · exact quiet_flush
    · exact quiet_refl
  · unfold EnrollmentSys.nextTransfer
    split
    · split
      · exact quiet_abort
      · split
        · exact quiet_goto
        · exact quiet_abort
    · exact quiet_lookup
    · exact quiet_flush
    · exact quiet_log
    · split
      · exact quiet_abort
      · exact quiet_insert
    · exact quiet_refl
  · exact quiet_refl

lemma enrollment_others (s : EnrollmentSys ι) {i j : ι} (hne : j ≠ i) :
    (s.step env req i).pc j = s.pc j := by
  rcases enrollment_quiet env req s i with hquiet | ⟨e, _, heq⟩
  · exact hquiet.2 j hne
  · rw [heq]
    exact Function.update_of_ne hne _ _

end Commits

/-! ### What the losers are told -/

/-- The code for a rule. -/
def EnrollmentIndex.code : EnrollmentIndex → String
  | .studentYear => "ALREADY_ENROLLED"
  | .cohortRoll => "ROLL_NUMBER_TAKEN"

/-- The answer is a conflict, with the code for the rule. -/
def Reported (k : EnrollmentIndex) (r : Fallible StudentEnrollment) : Prop :=
  ∃ e, r = .error e ∧ e.statusCode = 409 ∧ e.code = k.code

lemma not_reported_internal (k : EnrollmentIndex) : ¬ Reported k (.error internalError) := by
  rintro ⟨e, he, hstatus, _⟩
  obtain rfl := Except.error.inj he
  cases hstatus

/-- A request that a rule ended got another answer. -/
def Misreported (s : EnrollmentSys ι) (i : ι) : Prop :=
  ∃ k r, s.pc i = .answered (some k) r ∧ ¬ Reported k r

/-- No rule ended the request. -/
def EnrollmentPc.Unrefused (pc : EnrollmentPc) : Prop := ∀ k r, pc ≠ .answered (some k) r

/-- The rule that ended the request. -/
def EnrollmentPc.refusal : EnrollmentPc → Option EnrollmentIndex
  | .answered k _ => k
  | _ => none

lemma EnrollmentPc.Unrefused.of_refusal {pc : EnrollmentPc} (h : pc.refusal = none) :
    pc.Unrefused := by
  rintro k r rfl
  cases h

/-- Nothing but an index can keep the row from being written over the old one. -/
def Flushable (s : EnrollmentSys ι) (i : ι) (old new : StudentEnrollment) : Prop :=
  new ≠ old ∧ varchar 20 new.rollNumber = true ∧
    ((s.view i).enrollments.get old.id).map StudentEnrollment.version = some old.version

/-- Nothing but an index and the foreign keys can keep the row from being inserted. -/
def Insertable (s : EnrollmentSys ι) (i : ι) (e : StudentEnrollment) : Prop :=
  varchar 20 e.rollNumber = true ∧ (s.view i).enrollments.insert e ≠ none

/-- No update or transfer runs into an index, and no create into the index of roll numbers. -/
def Mapped (req : ι → EnrollmentRequest) (s : EnrollmentSys ι) (i : ι) : Prop :=
  match (req i).op, s.pc i with
  | .create data id, .checked schoolId => ∀ o ∈ (req i).ctx.organizationId,
      Insertable s i (Enrollments.enrolled (req i).ctx schoolId o data id) →
        s.runsInto i (Enrollments.enrolled (req i).ctx schoolId o data id) ≠ some .cohortRoll
  | .update _ data, .selected old => data.status ≠ some none →
      Flushable s i old (Enrollments.applied (req i).ctx old data) →
        s.runsInto i (Enrollments.applied (req i).ctx old data) = none
  | .transfer _ data _, .placed old => Flushable s i old (Enrollments.ended (req i).ctx old data) →
      s.runsInto i (Enrollments.ended (req i).ctx old data) = none
  | .transfer _ data id, .moved old => ∀ o ∈ (req i).ctx.organizationId,
      Insertable s i (Enrollments.successor (req i).ctx old.schoolId o old data id) →
        s.runsInto i (Enrollments.successor (req i).ctx old.schoolId o old data id) = none
  | _, _ => True

section Reports

variable {s : EnrollmentSys ι} {i : ι} {pc : EnrollmentPc}

omit [DecidableEq ι] in
lemma not_misreported (h : (s.pc i).Unrefused) : ¬ Misreported s i := by
  rintro ⟨k, r, hpc, _⟩
  exact h k r hpc

lemma not_misreported_goto (hpc : pc.Unrefused) : ¬ Misreported (s.goto i pc) i := by
  refine not_misreported ?_
  rwa [goto_self]

lemma not_misreported_fail (e : ApiError) : ¬ Misreported (EnrollmentSys.fail s i e) i := by
  refine not_misreported ?_
  rw [EnrollmentSys.fail, abort_self]
  exact .of_refusal rfl

lemma misreported_refuse {k : EnrollmentIndex} {e : ApiError} :
    Misreported (EnrollmentSys.refuse s i k e) i ↔ ¬ Reported k (.error e) := by
  have hpc : (EnrollmentSys.refuse s i k e).pc i = .answered (some k) (.error e) := abort_self
  unfold Misreported
  rw [hpc]
  constructor
  · rintro ⟨k', r, heq, hnot⟩
    obtain ⟨hk, rfl⟩ := EnrollmentPc.answered.inj heq
    obtain rfl := Option.some.inj hk
    exact hnot
  · exact fun hnot => ⟨k, _, rfl, hnot⟩

lemma not_misreported_write (hs : (s.pc i).Unrefused) (hpc : pc.Unrefused) (w : EnrollmentWrite) :
    ¬ Misreported (s.write i w pc) i := by
  refine not_misreported ?_
  have hself : (s.write i w pc).pc i = s.pc i ∨ (s.write i w pc).pc i = pc := write_self w
  rcases hself with heq | heq
  · rwa [heq]
  · rwa [heq]

lemma not_misreported_lookup {α : Type} {x : Option α} {e : ApiError} {next : α → EnrollmentPc}
    (hpc : ∀ a, (next a).Unrefused) : ¬ Misreported (EnrollmentSys.lookup s i x e next) i := by
  cases x with
  | none => exact not_misreported_fail e
  | some a => exact not_misreported_goto (hpc a)

lemma not_misreported_search {x : Option StudentEnrollment} {k : EnrollmentIndex} {e : ApiError}
    (hpc : pc.Unrefused) (he : Reported k (.error e)) :
    ¬ Misreported (EnrollmentSys.search s i x k e pc) i := by
  cases x with
  | none => exact not_misreported_goto hpc
  | some a => exact fun h => misreported_refuse.mp h he

lemma not_misreported_log {entry : AuditEntry} (hs : (s.pc i).Unrefused) (hpc : pc.Unrefused) :
    ¬ Misreported (EnrollmentSys.log env req s i entry pc) i := by
  unfold EnrollmentSys.log
  split
  · exact not_misreported_write hs hpc _
  · exact not_misreported_fail _

lemma misreported_flush {old new : StudentEnrollment} (hs : (s.pc i).Unrefused)
    (hpc : pc.Unrefused) : Misreported (EnrollmentSys.flush s i old new pc) i ↔
      ¬ (Flushable s i old new → s.runsInto i new = none) := by
  unfold EnrollmentSys.flush
  split
  · next hsame =>
    exact iff_of_false (not_misreported_goto hpc) fun hnot => hnot fun h => absurd hsame h.1
  next hne =>
  split
  · next hlong =>
    refine iff_of_false (not_misreported_fail _) fun hnot => hnot fun h => ?_
    rw [h.2.1] at hlong
    cases hlong
  next hshort =>
  split
  · next hversion =>
    exact iff_of_false (not_misreported_fail _) fun hnot => hnot fun h => absurd h.2.2 hversion
  next hversion =>
  split
  · next k hinto =>
    refine iff_of_true (misreported_refuse.mpr (not_reported_internal k)) fun h => ?_
    have hnone := h ⟨hne, Bool.eq_true_of_not_eq_false hshort, not_not.mp hversion⟩
    cases hinto.symm.trans hnone
  · next hinto =>
    exact iff_of_false (not_misreported_write hs hpc _) fun hnot => hnot fun _ => hinto

lemma misreported_insert {mapped : EnrollmentIndex → ApiError} {e : StudentEnrollment}
    (hs : (s.pc i).Unrefused) (hpc : pc.Unrefused) :
    Misreported (EnrollmentSys.insert s i mapped e pc) i ↔
      Insertable s i e ∧ ∃ k, s.runsInto i e = some k ∧ ¬ Reported k (.error (mapped k)) := by
  unfold EnrollmentSys.insert
  split
  · -- A roll number that is too long is refused before any index is asked.
    next hlong =>
    refine iff_of_false (not_misreported_fail _) ?_
    rintro ⟨⟨hshort, _⟩, _⟩
    rw [hlong] at hshort
    cases hshort
  next hshort =>
  split
  · next htaken => exact iff_of_false (not_misreported_fail _) fun h => absurd htaken h.1.2
  next hfresh =>
  have hinserts : Insertable s i e := ⟨Bool.eq_true_of_not_eq_false hshort, hfresh⟩
  split
  · -- The row runs into an index.
    next k hinto =>
    rw [misreported_refuse, and_iff_right hinserts]
    constructor
    · exact fun hnot => ⟨k, hinto, hnot⟩
    · rintro ⟨k', hinto', hnot⟩
      obtain rfl := Option.some.inj (hinto.symm.trans hinto')
      exact hnot
  · -- It runs into none.
    next hinto =>
    have hnot : ¬ (Insertable s i e ∧
        ∃ k, s.runsInto i e = some k ∧ ¬ Reported k (.error (mapped k))) := by
      rintro ⟨_, k, hk, _⟩
      cases hinto.symm.trans hk
    split
    · exact iff_of_false (not_misreported_write hs hpc _) hnot
    · exact iff_of_false (not_misreported_fail _) hnot

/-- A turn on which nothing is misreported, and nothing to be mapped. -/
lemma misreported_iff_of_not {s' : EnrollmentSys ι} (hs : (s.pc i).Unrefused)
    (hmapped : Mapped req s i) (h : ¬ Misreported s' i) :
    Misreported s' i ↔ Misreported s i ∨ ¬ Mapped req s i :=
  iff_of_false h (not_or.mpr ⟨not_misreported hs, not_not.mpr hmapped⟩)

lemma misreported_iff_of_iff {s' : EnrollmentSys ι} (hs : (s.pc i).Unrefused)
    (h : Misreported s' i ↔ ¬ Mapped req s i) :
    Misreported s' i ↔ Misreported s i ∨ ¬ Mapped req s i :=
  h.trans (or_iff_right (not_misreported hs)).symm

lemma misreported_create {data : EnrollmentCreate} {id : Ulid} (hop : (req i).op = .create data id)
    (hs : (s.pc i).Unrefused) : Misreported (s.nextCreate env i (req i).ctx data id) i ↔
      Misreported s i ∨ ¬ Mapped req s i := by
  have hmapped : (∀ schoolId, s.pc i ≠ .checked schoolId) → Mapped req s i := by
    intro hne
    unfold Mapped
    rw [hop]
    split <;> simp_all
  unfold EnrollmentSys.nextCreate
  split
  · next hpc =>
    refine misreported_iff_of_not hs (hmapped (by simp [hpc])) ?_
    split
    · exact not_misreported_fail _
    · exact not_misreported_lookup fun _ => .of_refusal rfl
  · next hpc =>
    exact misreported_iff_of_not hs (hmapped (by simp [hpc]))
      (not_misreported_lookup fun _ => .of_refusal rfl)
  · next hpc =>
    exact misreported_iff_of_not hs (hmapped (by simp [hpc]))
      (not_misreported_lookup fun _ => .of_refusal rfl)
  · next hpc =>
    exact misreported_iff_of_not hs (hmapped (by simp [hpc]))
      (not_misreported_search (.of_refusal rfl) ⟨_, rfl, rfl, rfl⟩)
  · next hpc =>
    refine misreported_iff_of_not hs (hmapped (by simp [hpc])) ?_
    split
    · exact not_misreported_goto (.of_refusal rfl)
    · split
      · exact not_misreported_goto (.of_refusal rfl)
      · exact not_misreported_search (.of_refusal rfl) ⟨_, rfl, rfl, rfl⟩
  · -- The insert: an index decides.
    next schoolId hpc =>
    refine misreported_iff_of_iff hs ?_
    have hiff : Mapped req s i ↔ ∀ o ∈ (req i).ctx.organizationId,
        Insertable s i (Enrollments.enrolled (req i).ctx schoolId o data id) →
          s.runsInto i (Enrollments.enrolled (req i).ctx schoolId o data id) ≠
            some .cohortRoll := by
      unfold Mapped
      rw [hop, hpc]
    rw [hiff]
    split
    · next hnone => exact iff_of_false (not_misreported_fail _) (by simp [hnone])
    · next o ho =>
      refine (misreported_insert hs (.of_refusal rfl)).trans ?_
      simp only [ho, Option.mem_some_iff, forall_eq', Classical.not_imp, not_not]
      refine and_congr_right fun _ => ?_
      constructor
      · rintro ⟨k, hinto, hnot⟩
        cases k with
        -- Students and years are what the mapping is for.
        | studentYear => exact absurd ⟨_, rfl, rfl, rfl⟩ hnot
        | cohortRoll => exact hinto
      · -- The index of the roll numbers is reported as the other one.
        refine fun hinto => ⟨_, hinto, ?_⟩
        rintro ⟨e, he, _, hcode⟩
        obtain rfl := Except.error.inj he
        have hcodes : EnrollmentIndex.studentYear.code = EnrollmentIndex.cohortRoll.code := hcode
        exact absurd hcodes (by decide)
  · next hpc1 hpc2 hpc3 hpc4 hpc5 hpc6 =>
    exact misreported_iff_of_not hs (hmapped hpc6) (not_misreported hs)

lemma misreported_update {enrollmentId : Ulid} {data : EnrollmentUpdate}
    (hop : (req i).op = .update enrollmentId data) (hs : (s.pc i).Unrefused) :
    Misreported (s.nextUpdate i (req i).ctx enrollmentId data) i ↔
      Misreported s i ∨ ¬ Mapped req s i := by
  have hmapped : (∀ old, s.pc i ≠ .selected old) → Mapped req s i := by
    intro hne
    unfold Mapped
    rw [hop]
    split <;> simp_all
  unfold EnrollmentSys.nextUpdate
  split
  · next hpc =>
    refine misreported_iff_of_not hs (hmapped (by simp [hpc])) ?_
    split
    · exact not_misreported_fail _
    · split
      · exact not_misreported_goto (.of_refusal rfl)
      · exact not_misreported_fail _
  · -- The flush, which nothing maps.
    next old hpc =>
    refine misreported_iff_of_iff hs ?_
    have hiff : Mapped req s i ↔ (data.status ≠ some none →
        Flushable s i old (Enrollments.applied (req i).ctx old data) →
          s.runsInto i (Enrollments.applied (req i).ctx old data) = none) := by
      unfold Mapped
      rw [hop, hpc]
    rw [hiff]
    split
    · next hnone =>
      exact iff_of_false (not_misreported_fail _) fun hnot => hnot fun h => absurd hnone h
    · next hsome =>
      exact (misreported_flush hs (.of_refusal rfl)).trans (not_congr (imp_iff_right hsome).symm)
  · next hpc1 hpc2 => exact misreported_iff_of_not hs (hmapped hpc2) (not_misreported hs)

lemma misreported_transfer {enrollmentId : Ulid} {data : EnrollmentTransfer} {id : Ulid}
    (hop : (req i).op = .transfer enrollmentId data id) (hs : (s.pc i).Unrefused) :
    Misreported (s.nextTransfer env req i (req i).ctx enrollmentId data id) i ↔
      Misreported s i ∨ ¬ Mapped req s i := by
  have hmapped : (∀ old, s.pc i ≠ .placed old) → (∀ old, s.pc i ≠ .moved old) →
      Mapped req s i := by
    intro hne hne'
    unfold Mapped
    rw [hop]
    split <;> simp_all
  unfold EnrollmentSys.nextTransfer
  split
  · next hpc =>
    refine misreported_iff_of_not hs (hmapped (by simp [hpc]) (by simp [hpc])) ?_
    split
    · exact not_misreported_fail _
    · split
      · exact not_misreported_goto (.of_refusal rfl)
      · exact not_misreported_fail _
  · next hpc =>
    exact misreported_iff_of_not hs (hmapped (by simp [hpc]) (by simp [hpc]))
      (not_misreported_lookup fun _ => .of_refusal rfl)
  · -- The end of the old enrollment is flushed.
    next old hpc =>
    refine misreported_iff_of_iff hs ?_
    have hiff : Mapped req s i ↔ (Flushable s i old (Enrollments.ended (req i).ctx old data) →
        s.runsInto i (Enrollments.ended (req i).ctx old data) = none) := by
      unfold Mapped
      rw [hop, hpc]
    rw [hiff]
    exact misreported_flush hs (.of_refusal rfl)
  · next hpc =>
    exact misreported_iff_of_not hs (hmapped (by simp [hpc]) (by simp [hpc]))
      (not_misreported_log hs (.of_refusal rfl))
  · -- The new one is inserted.
    next old hpc =>
    refine misreported_iff_of_iff hs ?_
    have hiff : Mapped req s i ↔ ∀ o ∈ (req i).ctx.organizationId,
        Insertable s i (Enrollments.successor (req i).ctx old.schoolId o old data id) →
          s.runsInto i (Enrollments.successor (req i).ctx old.schoolId o old data id) = none := by
      unfold Mapped
      rw [hop, hpc]
    rw [hiff]
    split
    · next hnone => exact iff_of_false (not_misreported_fail _) (by simp [hnone])
    · next o ho =>
      refine (misreported_insert hs (.of_refusal rfl)).trans ?_
      simp only [ho, Option.mem_some_iff, forall_eq', Classical.not_imp]
      refine and_congr_right fun _ => ?_
      rw [← ne_eq, Option.ne_none_iff_exists']
      exact exists_congr fun k => and_iff_left (not_reported_internal k)
  · next hpc1 hpc2 hpc3 hpc4 hpc5 =>
    exact misreported_iff_of_not hs (hmapped hpc3 hpc5) (not_misreported hs)

variable (env req) in
/-- **One turn**: what it adds to the misreports. -/
lemma misreported_step (s : EnrollmentSys ι) (i : ι) : Misreported (s.step env req i) i ↔
    Misreported s i ∨ ¬ Mapped req s i := by
  have hmapped : (∀ schoolId, s.pc i ≠ .checked schoolId) → (∀ old, s.pc i ≠ .selected old) →
      (∀ old, s.pc i ≠ .placed old) → (∀ old, s.pc i ≠ .moved old) → Mapped req s i := by
    intro h1 h2 h3 h4
    unfold Mapped
    split <;> simp_all
  unfold EnrollmentSys.step
  split
  · next hpc =>
    have hs : (s.pc i).Unrefused := by
      rw [hpc]
      exact .of_refusal rfl
    exact misreported_iff_of_not hs
      (hmapped (by simp [hpc]) (by simp [hpc]) (by simp [hpc]) (by simp [hpc]))
      (not_misreported_log hs (.of_refusal rfl))
  · next hpc =>
    have hs : (s.pc i).Unrefused := by
      rw [hpc]
      exact .of_refusal rfl
    refine misreported_iff_of_not hs
      (hmapped (by simp [hpc]) (by simp [hpc]) (by simp [hpc]) (by simp [hpc])) ?_
    refine not_misreported ?_
    rw [commit_self]
    exact .of_refusal rfl
  · next hpc =>
    have hall := hmapped (by simp [hpc]) (by simp [hpc]) (by simp [hpc]) (by simp [hpc])
    exact (or_iff_left (not_not.mpr hall)).symm
  · next hpc1 hpc2 hpc3 =>
    have hs : (s.pc i).Unrefused := fun k r h => hpc3 _ _ h
    split
    · next hop => exact misreported_create hop hs
    · next hop => exact misreported_update hop hs
    · next hop => exact misreported_transfer hop hs
    · next hop =>
      have hkeeps := (req i).keeps
      rw [hop] at hkeeps
      exact absurd trivial hkeeps

end Reports

/-! ### Runs -/

/-- Every request that a rule ended is told which one. -/
def Reports (s : EnrollmentSys ι) : Prop :=
  ∀ i k r, s.pc i = .answered (some k) r → Reported k r

/-- What the turn changes, a request that succeeds has changed. -/
def OnlySuccess (env : SchoolEnv) (req : ι → EnrollmentRequest) (s : EnrollmentSys ι) (i : ι) :
    Prop :=
  (s.step env req i).store.committed ≠ s.store.committed →
    ∃ e, (s.step env req i).pc i = .answered none (.ok e)

omit [DecidableEq ι] in
lemma reports_iff {s : EnrollmentSys ι} : Reports s ↔ ∀ i, ¬ Misreported s i := by
  unfold Reports Misreported
  simp only [not_exists, not_and, not_not]

lemma reports_step (s : EnrollmentSys ι) (i : ι) :
    Reports (s.step env req i) ↔ Reports s ∧ Mapped req s i := by
  simp only [reports_iff]
  have hother : ∀ j, j ≠ i → (Misreported (s.step env req i) j ↔ Misreported s j) := by
    intro j hne
    unfold Misreported
    rw [enrollment_others s hne]
  have hself := misreported_step env req s i
  constructor
  · intro h
    have hnot := h i
    rw [hself, not_or, not_not] at hnot
    refine ⟨fun j => ?_, hnot.2⟩
    by_cases hj : j = i
    · rw [hj]
      exact hnot.1
    · rw [← hother j hj]
      exact h j
  · rintro ⟨h, hmapped⟩ j
    by_cases hj : j = i
    · rw [hj, hself, not_or, not_not]
      exact ⟨h i, hmapped⟩
    · rw [hother j hj]
      exact h j

/-- **Conflicts between enrollments**, after any turns of any requests in any order: no two ACTIVE
enrollments exclude each other, only requests that succeed change the enrollments, and every
request that a rule ended is told which one exactly when no index was run into but the first, and
that by a create request. -/
theorem enrollment_conflicts (env : SchoolEnv) (req : ι → EnrollmentRequest) (db : SchoolDB)
    (hdb : OneActive db) (turns : List ι) :
    OneActive (run (EnrollmentSys.step env req) (.init db) turns).store.committed ∧
      Along (EnrollmentSys.step env req) (OnlySuccess env req) (.init db) turns ∧
      (Reports (run (EnrollmentSys.step env req) (.init db) turns) ↔
        Along (EnrollmentSys.step env req) (Mapped req) (.init db) turns) := by
  refine ⟨?_, ?_, ?_⟩
  · have hinit : Valid OneActive
        (fun _ (pc : EnrollmentPc) ws c => ∃ ch, Wrote ch ws c ∧ pc.Fits ch)
        (EnrollmentSys.init (ι := ι) db) := valid_of_closed rfl hdb fun _ => ⟨.none, .nil hdb, rfl⟩
    have hvalid := invariant_all (fun s i hs => enrollment_outline.step
      (enrollment_steps env req s i) hs) hinit turns
    exact hvalid.global
  · refine along_of_forall (fun s i hchanges => ?_) turns _
    rcases enrollment_quiet env req s i with hquiet | ⟨e, _, heq⟩
    · exact absurd hquiet.1 hchanges
    · exact ⟨e, by rw [heq, commit_self]⟩
  · have hinit : Reports (EnrollmentSys.init (ι := ι) db) := by
      rintro i k r hpc
      cases hpc
    exact (invariant_iff reports_step turns _).trans (and_iff_right hinit)

/-- Two students of the small school are enrolled with roll numbers, and the second gets the number
of the first. -/
def renumber : Fin 3 → EnrollmentRequest
  | 0 => ⟨staff, .create ⟨71, 21, 31, 51, some "1", 738010, .regular, by decide⟩ 401, nofun⟩
  | 1 => ⟨staff, .create ⟨72, 21, 31, 51, some "2", 738010, .regular, by decide⟩ 402, nofun⟩
  | 2 => ⟨staff, .update 402 ⟨some (some "1"), none, none, 1, by decide, one_le_first⟩, nofun⟩

/-- One request after the other. -/
def renumberTurns : List (Fin 3) := .replicate 8 0 ++ .replicate 8 1 ++ .replicate 2 2

theorem renumber_oneActive :
    OneActive (run (EnrollmentSys.step .plain renumber) (.init smallSchool)
      renumberTurns).store.committed :=
  (enrollment_conflicts .plain renumber smallSchool (by decide) renumberTurns).1

/-- The update ends in an unexpected error. -/
theorem renumber_unreported :
    ¬ Reports (run (EnrollmentSys.step .plain renumber) (.init smallSchool) renumberTurns) := by
  intro h
  have hpc : (run (EnrollmentSys.step .plain renumber) (.init smallSchool) renumberTurns).pc 2 =
      .answered (some .cohortRoll) (.error internalError) := by rfl
  exact not_reported_internal _ (h 2 _ _ hpc)

end SchoolOs
