import SchoolOs.PublishStatements

/-!
Races between publish requests: each archives the publication that it found, so two that found
the same one, or none, leave two. With the schema as migrated neither gets to its commit.
-/

namespace SchoolOs

open ReadCommitted Procs Runs

variable {ι : Type*} [DecidableEq ι] {env : SchoolEnv} {req : ι → TimetableRequest}

/-! ### Publications -/

/-- Both are published, in one school and year. -/
def BothPublished (a b : Timetable) : Prop :=
  a.status = .published ∧ b.status = .published ∧ a.schoolId = b.schoolId ∧
    a.academicYearId = b.academicYearId

instance : DecidableRel BothPublished := fun a b =>
  inferInstanceAs (Decidable (a.status = .published ∧ b.status = .published ∧
    a.schoolId = b.schoolId ∧ a.academicYearId = b.academicYearId))

/-- Each school and year has at most one published timetable. -/
def OnePublished (db : SchoolDB) : Prop := db.timetables.Excludes BothPublished

instance (db : SchoolDB) : Decidable (OnePublished db) :=
  inferInstanceAs (Decidable (db.timetables.Excludes _))

/-! ### What the writes of a request do to publications -/

/-- What is published after the writes was published before, and is none of `old`. -/
def Leaves (ws : List (Write SchoolDB Ulid)) (old : Option Timetable) : Prop :=
  ∀ c : SchoolDB, ∀ x ∈ (after ws c).timetables, x.status = .published →
    x ∈ c.timetables ∧ ∀ o ∈ old, x.id ≠ o.id

/-- What is published after the writes is the timetable `tt`, or was published before and is none
of `old`. -/
def Publishes (ws : List (Write SchoolDB Ulid)) (tt : Timetable) (old : Option Timetable) : Prop :=
  ∀ c : SchoolDB, ∀ x ∈ (after ws c).timetables, x.status = .published →
    (x ∈ c.timetables ∧ x.id ≠ tt.id ∧ ∀ o ∈ old, x.id ≠ o.id) ∨
      (x.id = tt.id ∧ x.schoolId = tt.schoolId ∧ x.academicYearId = tt.academicYearId)

section Writes

variable {ws : List (Write SchoolDB Ulid)} {old new tt : Timetable} {o : Option Timetable}

lemma Leaves.nil : Leaves [] none := fun _ _ hx _ => ⟨hx, nofun⟩

lemma Leaves.log (h : Leaves ws o) (row : AuditLog) : Leaves (ws ++ [insertSchoolAudit row]) o := by
  intro c x hx
  rw [after_snoc] at hx
  exact h c x hx

lemma Publishes.log (h : Publishes ws tt o) (row : AuditLog) :
    Publishes (ws ++ [insertSchoolAudit row]) tt o := by
  intro c x hx
  rw [after_snoc] at hx
  exact h c x hx

lemma Leaves.insert (h : Leaves ws o) (hdraft : tt.status ≠ .published) :
    Leaves (ws ++ [insertTimetable tt]) o := by
  intro c x hx hpub
  rw [after_snoc, insertTimetable] at hx
  cases hinsert : (after ws c).timetables.insert tt with
  | none =>
    simp only [hinsert, Option.getD_none] at hx
    exact h c x hx hpub
  | some timetables =>
    simp only [hinsert, Option.getD_some] at hx
    rcases (Table.mem_of_insert hinsert).mp hx with hx | rfl
    · exact h c x hx hpub
    · exact absurd hpub hdraft

lemma flushed_changed {ρ : Type} [DecidableEq ρ] {touch : ρ → ρ} {old new : ρ} (h : new ≠ old) :
    flushed touch old new = touch new := if_neg h

lemma Leaves.update (h : Leaves ws o) (hid : new.id = old.id) (hne : new ≠ old)
    (hnew : new.status ≠ .published) {o' : Option Timetable}
    (ho : ∀ t ∈ o', t.id = old.id ∨ t ∈ o) : Leaves (ws ++ [updateTimetable old new]) o' := by
  intro c x hx hpub
  simp only [after_snoc, updateTimetable, flushed_changed hne] at hx
  rcases Table.mem_put.mp hx with ⟨hx, hkey⟩ | ⟨rfl, _⟩
  · obtain ⟨hc, hold⟩ := h c x hx hpub
    refine ⟨hc, fun t ht => ?_⟩
    rcases ho t ht with heq | ht
    · rw [heq, ← hid]
      exact hkey
    · exact hold t ht
  · exact absurd hpub hnew

lemma archived_status (clk : Clock) (ctx : RequestContext) (tt : Timetable) :
    (Timetables.archived clk ctx tt).status ≠ .published := by
  simp [Timetables.archived]

lemma Leaves.publish (h : Leaves ws o) (hne : new ≠ tt) (hid : new.id = tt.id)
    (hschool : new.schoolId = tt.schoolId) (hyear : new.academicYearId = tt.academicYearId) :
    Publishes (ws ++ [updateTimetable tt new]) tt o := by
  intro c x hx hpub
  simp only [after_snoc, updateTimetable, flushed_changed hne] at hx
  rcases Table.mem_put.mp hx with ⟨hx, hkey⟩ | ⟨rfl, _⟩
  · obtain ⟨hc, hold⟩ := h c x hx hpub
    have hx' : x.id ≠ tt.id := fun heq => hkey (heq.trans hid.symm)
    exact .inl ⟨hc, hx', hold⟩
  · exact .inr ⟨hid, hschool, hyear⟩

end Writes

/-! ### What one turn can do -/

section Program

variable (env) (q : TimetableRequest)

inductive TimetableReads : TimetablePc → TimetablePc → Prop
  | select {tt : Timetable} : tt.status = .draft → TimetableReads .start (.selected tt)
  | check {tt : Timetable} : (∀ clk, (q.op.changed clk q.ctx tt).id = tt.id ∧
      (q.op.changed clk q.ctx tt).status ≠ .published) → TimetableReads .start (.updating tt)
  | opposed (tt : Timetable) (r : PublishResult) : TimetableReads (.selected tt) (.opposed r)
  | unopposed (tt : Timetable) : TimetableReads (.selected tt) (.unopposed tt)
  | alone (tt : Timetable) : TimetableReads (.unopposed tt) (.publishing tt none)
  | replace (tt : Timetable) {old : Timetable} : old.status = .published →
      TimetableReads (.unopposed tt) (.replacing tt old)
  | unchanged (tt : Timetable) {entry : AuditEntry} (answer : TimetableAnswer) :
      entry.action = q.op.action → TimetableReads (.updating tt) (.written none entry answer)
  | unreplaced {tt old : Timetable} {clk : Clock} {entry : AuditEntry} :
      Timetables.archived clk q.ctx old = old →
      TimetableReads (.replacing tt old) (.replaced tt old entry)
  | unpublished {tt : Timetable} {old : Option Timetable} {clk : Clock} {entry : AuditEntry}
      {answer : TimetableAnswer} : Timetables.published clk q.ctx tt = tt →
      entry.action = "TIMETABLE_PUBLISHED" →
      TimetableReads (.publishing tt old) (.written (some (tt, old)) entry answer)

inductive TimetableWrites : TimetablePc → Write SchoolDB Ulid → TimetablePc → Prop
  | insert {tt : Timetable} {entry : AuditEntry} (answer : TimetableAnswer) : tt.status = .draft →
      entry.action = "TIMETABLE_CREATED" →
      TimetableWrites .start (insertTimetable tt) (.written none entry answer)
  | replace {tt old : Timetable} {clk : Clock} (entry : AuditEntry) :
      Timetables.archived clk q.ctx old ≠ old → TimetableWrites (.replacing tt old)
        (updateTimetable old (Timetables.archived clk q.ctx old)) (.replaced tt old entry)
  | replaced (tt old : Timetable) (entry : AuditEntry) (row : AuditLog) :
      TimetableWrites (.replaced tt old entry) (insertSchoolAudit row) (.publishing tt (some old))
  | publish {tt : Timetable} {old : Option Timetable} {clk : Clock} {entry : AuditEntry}
      (answer : TimetableAnswer) : Timetables.published clk q.ctx tt ≠ tt →
      entry.action = "TIMETABLE_PUBLISHED" →
      TimetableWrites (.publishing tt old) (updateTimetable tt (Timetables.published clk q.ctx tt))
        (.written (some (tt, old)) entry answer)
  | update {tt : Timetable} {clk : Clock} {entry : AuditEntry} (answer : TimetableAnswer) :
      q.op.changed clk q.ctx tt ≠ tt → entry.action = q.op.action →
      TimetableWrites (.updating tt) (updateTimetable tt (q.op.changed clk q.ctx tt))
        (.written none entry answer)
  | log {publishes : Option (Timetable × Option Timetable)} {entry : AuditEntry}
      {answer : TimetableAnswer} : env.Admits (auditRow q.ctx entry) →
      TimetableWrites (.written publishes entry answer) (insertSchoolAudit (auditRow q.ctx entry))
        (.logged publishes answer)

inductive TimetableCommits : TimetablePc → TimetablePc → Prop
  | opposed (r : PublishResult) :
      TimetableCommits (.opposed r) (.answered (.ok (.publication r)))
  | logged (publishes : Option (Timetable × Option Timetable)) (answer : TimetableAnswer) :
      TimetableCommits (.logged publishes answer) (.answered (.ok answer))

inductive TimetableAborts : TimetablePc → TimetablePc → Prop
  | fail (pc : TimetablePc) (e : ApiError) : TimetableAborts pc (.answered (.error e))

end Program

def timetableProgram (env : SchoolEnv) (req : ι → TimetableRequest) :
    Program ι SchoolDB Ulid TimetablePc where
  reads i _ := TimetableReads (req i)
  writes i _ := TimetableWrites env (req i)
  commits _ := TimetableCommits
  aborts _ := TimetableAborts
  outside _ _ := False

lemma flush_steps {s : TimetableSys ι} {i : ι} {old new : Timetable} {pc : TimetablePc}
    (hsame : new = old → TimetableReads (req i) (s.pc i) pc)
    (hchanged : new ≠ old → TimetableWrites env (req i) (s.pc i) (updateTimetable old new) pc) :
    s.Steps (timetableProgram env req) (TimetableSys.flush s i old new pc) := by
  unfold TimetableSys.flush
  split
  · exact .abort (.fail _ _)
  · split
    · next h => exact .read (hsame h)
    · next h =>
      split
      · exact .abort (.fail _ _)
      · exact steps_write (hchanged h)

lemma log_steps {s : TimetableSys ι} {i : ι} {entry : AuditEntry} {pc : TimetablePc}
    (h : env.Admits (auditRow (req i).ctx entry) →
      TimetableWrites env (req i) (s.pc i) (insertSchoolAudit (auditRow (req i).ctx entry)) pc) :
    s.Steps (timetableProgram env req) (TimetableSys.log env req s i entry pc) := by
  unfold TimetableSys.log
  split
  · next hadmits => exact steps_write (h hadmits)
  · exact .abort (.fail _ _)

lemma select_publish {ctx : RequestContext} {db : SchoolDB} {timetableId : Ulid} {version : ℕ}
    {tt : Timetable} (h : (TimetableOp.publish timetableId version).select ctx db = .ok tt) :
    tt.status = .draft := by
  obtain ⟨tt', _, h⟩ := bind_ok.mp h
  obtain ⟨_, hdraft, h⟩ := bind_ok.mp h
  obtain ⟨_, _, h⟩ := bind_ok.mp h
  obtain rfl := pure_ok.mp h
  exact ensure_ok.mp hdraft

lemma select_changed {ctx : RequestContext} {db : SchoolDB} {op : TimetableOp} {tt : Timetable}
    (h : op.select ctx db = .ok tt) (clk : Clock) :
    (op.changed clk ctx tt).id = tt.id ∧ (op.changed clk ctx tt).status ≠ .published := by
  cases op with
  | update timetableId data =>
    obtain ⟨tt', _, h⟩ := bind_ok.mp h
    obtain ⟨_, hdraft, h⟩ := bind_ok.mp h
    obtain ⟨_, _, h⟩ := bind_ok.mp h
    obtain rfl := pure_ok.mp h
    have hstatus : ((TimetableOp.update timetableId data).changed clk ctx tt').status = .draft :=
      ensure_ok.mp hdraft
    exact ⟨rfl, by rw [hstatus]; exact nofun⟩
  | create | publish | archive => exact ⟨rfl, archived_status clk ctx tt⟩

/-- **One turn**: nothing, a read, a write that did not wait, a commit, or a failure. -/
theorem timetable_steps (s : TimetableSys ι) (t : TimetableTurn ι) :
    s.Steps (timetableProgram env req) (s.step env req t) := by
  unfold TimetableSys.step TimetableSys.next
  split
  · next hpc =>
    split
    · next data id _ =>
      unfold TimetableSys.insertDraft
      split
      · exact .abort (.fail _ _)
      · next tt hdraft =>
        split
        · exact .abort (.fail _ _)
        · refine steps_write (hpc ▸ .insert _ ?_ rfl)
          obtain ⟨_, _, hdraft⟩ := bind_ok.mp hdraft
          obtain ⟨_, _, hdraft⟩ := bind_ok.mp hdraft
          obtain rfl := pure_ok.mp hdraft
          rfl
    · split
      · exact .abort (.fail _ _)
      · next hselect => exact .read (hpc ▸ .select (select_publish hselect))
    · split
      · exact .abort (.fail _ _)
      · next hselect => exact .read (hpc ▸ .check (select_changed hselect))
  · next tt hpc =>
    split
    · exact .read (hpc ▸ .unopposed tt)
    · exact .read (hpc ▸ .opposed tt _)
  · next r hpc => exact .commit (hpc ▸ .opposed r)
  · next tt hpc =>
    split
    · exact .read (hpc ▸ .alone tt)
    · next old hold => exact .read (hpc ▸ .replace tt (published_mem hold).2.2.2.1)
  · next tt old hpc =>
    exact flush_steps (fun hsame => hpc ▸ .unreplaced hsame)
      (fun hne => hpc ▸ .replace _ hne)
  · next tt old entry hpc => exact log_steps fun _ => hpc ▸ .replaced tt old entry _
  · next tt old hpc =>
    exact flush_steps (fun hsame => hpc ▸ .unpublished hsame rfl)
      (fun hne => hpc ▸ .publish _ hne rfl)
  · next tt hpc =>
    exact flush_steps (fun _ => hpc ▸ .unchanged tt _ rfl) (fun hne => hpc ▸ .update _ hne rfl)
  · next publishes entry answer hpc => exact log_steps fun hadmits => hpc ▸ .log hadmits
  · next publishes answer hpc => exact .commit (hpc ▸ .logged publishes answer)
  · exact .idle

/-! ### The assertions -/

/-- What the writes of a request have done where it stands. -/
def TimetablePc.Holds (q : TimetableRequest) (ws : List (Write SchoolDB Ulid)) :
    TimetablePc → Prop
  | .start | .opposed _ => Leaves ws none
  | .selected tt | .unopposed tt => tt.status = .draft ∧ Leaves ws none
  | .replacing tt old => tt.status = .draft ∧ old.status = .published ∧ Leaves ws none
  | .replaced tt old _ => tt.status = .draft ∧ Leaves ws (some old)
  | .publishing tt old => tt.status = .draft ∧ Leaves ws old
  | .updating tt => (∀ clk, (q.op.changed clk q.ctx tt).id = tt.id ∧
      (q.op.changed clk q.ctx tt).status ≠ .published) ∧ Leaves ws none
  | .written publishes _ _ | .logged publishes _ =>
    match publishes with
    | none => Leaves ws none
    | some (tt, old) => Publishes ws tt old
  | .answered _ => ws = []

omit [DecidableEq ι] in
/-- **The outline**: the assertions speak of the writes of a request only, so no commit of another
interferes. -/
lemma timetable_outline : Outline (timetableProgram env req) (fun _ => True)
    (fun i pc ws _ => pc.Holds (req i) ws) where
  read := by
    intro i pc pc' ws c h _ hA
    cases h with
    | select hdraft => exact ⟨hdraft, hA⟩
    | check hchanged => exact ⟨hchanged, hA⟩
    | opposed tt r => exact hA.2
    | unopposed tt => exact hA
    | alone tt => exact hA
    | replace tt hold => exact ⟨hA.1, hold, hA.2⟩
    | unchanged tt new answer => exact hA.2
    | unreplaced hsame =>
      have hstatus := congrArg Timetable.status hsame
      exact absurd (hstatus.trans hA.2.1) nofun
    | unpublished hsame =>
      have hstatus := congrArg Timetable.status hsame
      exact absurd (hstatus.trans hA.1) nofun
  write := by
    intro i pc w pc' ws c h _ hA
    cases h with
    | insert answer hdraft =>
      exact Leaves.insert hA (by rw [hdraft]; exact nofun)
    | @replace tt old clk entry hne =>
      obtain ⟨hdraft, _, hleaves⟩ := hA
      have hid : (Timetables.archived clk (req i).ctx old).id = old.id := rfl
      have hold : ∀ t ∈ some old, t.id = old.id ∨ t ∈ (none : Option Timetable) := by
        intro t ht
        exact .inl (congrArg Timetable.id (Option.some.inj ht).symm)
      exact ⟨hdraft, hleaves.update hid hne (archived_status clk _ old) hold⟩
    | replaced tt old entry row => exact ⟨hA.1, hA.2.log row⟩
    | publish answer hne =>
      obtain ⟨_, hleaves⟩ := hA
      exact hleaves.publish hne rfl rfl rfl
    | @update tt clk entry answer hne haction =>
      obtain ⟨hchanged, hleaves⟩ := hA
      exact hleaves.update (hchanged clk).1 hne (hchanged clk).2 (by simp)
    | @log publishes entry answer hadmits =>
      cases publishes with
      | none => exact Leaves.log hA _
      | some p => exact Publishes.log hA _
  commit := by
    intro i pc pc' ws c h _ _
    refine ⟨trivial, ?_⟩
    cases h <;> rfl
  abort := by
    intro i pc pc' ws c h _ _
    cases h
    rfl
  interfere := fun _ _ _ _ _ hA => hA
  outside := fun h => h.elim

/-! ### Commits -/

/-- A publish request that commits finds no other publication of the year than the one it
replaces. -/
def FindsLast (s : TimetableSys ι) (t : TimetableTurn ι) : Prop :=
  ∀ tt old answer, s.pc t.request = .logged (some (tt, old)) answer →
    ∀ x ∈ s.store.committed.timetables, x.status = .published → x.schoolId = tt.schoolId →
      x.academicYearId = tt.academicYearId → x.id = tt.id ∨ ∃ o ∈ old, x.id = o.id

section Quiet

variable {s : TimetableSys ι} {i : ι} {pc : TimetablePc}

lemma TimetableSys.quiet_flush {old new : Timetable} : s.Quiet i (s.flush i old new pc) := by
  unfold TimetableSys.flush
  split_ifs
  · exact quiet_abort
  · exact quiet_goto
  · exact quiet_abort
  · exact quiet_write _

lemma TimetableSys.quiet_log {entry : AuditEntry} : s.Quiet i (s.log env req i entry pc) := by
  unfold TimetableSys.log
  split_ifs
  · exact quiet_write _
  · exact quiet_abort

lemma TimetableSys.quiet_insertDraft {data : TimetableCreate} {id : Ulid} :
    s.Quiet i (s.insertDraft env req i data id) := by
  unfold TimetableSys.insertDraft
  split
  · exact quiet_abort
  · split
    · exact quiet_abort
    · exact quiet_write _

end Quiet

/-- What a turn leaves committed: what there was, or the writes of a request that commits. -/
lemma timetable_committed (s : TimetableSys ι) (t : TimetableTurn ι) :
    (s.step env req t).store.committed = s.store.committed ∨
      ((∃ r, s.pc t.request = .opposed r) ∨
        ∃ publishes answer, s.pc t.request = .logged publishes answer) ∧
      (s.step env req t).store.committed =
        after (s.store.own t.request) s.store.committed := by
  unfold TimetableSys.step TimetableSys.next
  split
  · refine .inl ?_
    split
    · exact TimetableSys.quiet_insertDraft.1
    · split <;> rfl
    · split <;> rfl
  · refine .inl ?_
    split <;> rfl
  · next r hpc => exact .inr ⟨.inl ⟨r, hpc⟩, rfl⟩
  · refine .inl ?_
    split <;> rfl
  · exact .inl TimetableSys.quiet_flush.1
  · exact .inl TimetableSys.quiet_log.1
  · exact .inl TimetableSys.quiet_flush.1
  · exact .inl TimetableSys.quiet_flush.1
  · exact .inl TimetableSys.quiet_log.1
  · next publishes answer hpc => exact .inr ⟨.inr ⟨publishes, answer, hpc⟩, rfl⟩
  · exact .inl rfl

lemma Leaves.onePublished {ws : List (Write SchoolDB Ulid)} {o : Option Timetable} {c : SchoolDB}
    (h : Leaves ws o) (hone : OnePublished c) : OnePublished (after ws c) := by
  intro a ha b hb hne hboth
  exact hone a (h c a ha hboth.1).1 b (h c b hb hboth.2.1).1 hne hboth

lemma Publishes.onePublished {ws : List (Write SchoolDB Ulid)} {tt : Timetable}
    {old : Option Timetable} {c : SchoolDB} (h : Publishes ws tt old) (hone : OnePublished c)
    (hlast : ∀ x ∈ c.timetables, x.status = .published → x.schoolId = tt.schoolId →
      x.academicYearId = tt.academicYearId → x.id = tt.id ∨ ∃ o ∈ old, x.id = o.id) :
    OnePublished (after ws c) := by
  have hold : ∀ x, (x ∈ c.timetables ∧ x.id ≠ tt.id ∧ ∀ o ∈ old, x.id ≠ o.id) →
      x.status = .published → x.schoolId = tt.schoolId →
        x.academicYearId = tt.academicYearId → False := by
    rintro x ⟨hx, hid, hother⟩ hpub hschool hyear
    rcases hlast x hx hpub hschool hyear with heq | ⟨o, ho, heq⟩
    · exact hid heq
    · exact hother o ho heq
  rintro a ha b hb hne ⟨hpa, hpb, hschool, hyear⟩
  rcases h c a ha hpa with hca | ⟨hida, hsa, hya⟩
  · rcases h c b hb hpb with hcb | ⟨_, hsb, hyb⟩
    · exact hone a hca.1 b hcb.1 hne ⟨hpa, hpb, hschool, hyear⟩
    · exact hold a hca hpa (hschool.trans hsb) (hyear.trans hyb)
  · rcases h c b hb hpb with hcb | ⟨hidb, _, _⟩
    · exact hold b hcb hpb (hschool.symm.trans hsa) (hyear.symm.trans hya)
    · exact hne (hida.trans hidb.symm)

lemma timetable_valid (req : ι → TimetableRequest) (db : SchoolDB) :
    Valid (fun _ => True) (fun i pc ws _ => pc.Holds (req i) ws) (TimetableSys.init (ι := ι) db) :=
  valid_of_closed rfl trivial fun _ => Leaves.nil

/-- **Publications under races, whatever actions the audit log admits**: each school and year has
at most one as long as every publish request replaces the last one. -/
theorem published_unraced (env : SchoolEnv) (req : ι → TimetableRequest) (db : SchoolDB)
    (h : OnePublished db) (turns : List (TimetableTurn ι))
    (hlast : Along (TimetableSys.step env req) FindsLast (.init db) turns) :
    OnePublished (run (TimetableSys.step env req) (.init db) turns).store.committed := by
  have hstep : ∀ (s : TimetableSys ι) (t : TimetableTurn ι), FindsLast s t →
      Valid (fun _ => True) (fun i pc ws _ => pc.Holds (req i) ws) s ∧
        OnePublished s.store.committed →
      Valid (fun _ => True) (fun i pc ws _ => pc.Holds (req i) ws) (s.step env req t) ∧
        OnePublished (s.step env req t).store.committed := by
    rintro s t hfinds ⟨hvalid, hone⟩
    refine ⟨timetable_outline.step (timetable_steps s t) hvalid, ?_⟩
    have hself := hvalid.local_ t.request
    rcases timetable_committed s t with heq | ⟨⟨r, hpc⟩ | ⟨publishes, answer, hpc⟩, heq⟩
    · rw [heq]
      exact hone
    · rw [hpc] at hself
      rw [heq]
      exact Leaves.onePublished hself hone
    · rw [hpc] at hself
      rw [heq]
      cases publishes with
      | none => exact Leaves.onePublished hself hone
      | some p => exact Publishes.onePublished hself hone (hfinds p.1 p.2 answer hpc)
  have hinit : Valid (fun _ => True) (fun i pc ws _ => pc.Holds (req i) ws)
      (TimetableSys.init (ι := ι) db) ∧ OnePublished db := ⟨timetable_valid req db, h⟩
  exact (invariant hstep hlast hinit).2

/-! ### The schema as migrated -/

/-- No request gets past its last audit row. -/
def TimetablePc.Refused : TimetablePc → Prop
  | .written _ entry _ => entry.action ∉ auditActions
  | .logged _ _ => False
  | _ => True

lemma action_refused (op : TimetableOp) : op.action ∉ auditActions := by
  cases op <;> exact timetableActions_refused _ (by simp [TimetableOp.action])

omit [DecidableEq ι] in
lemma refused_outline : Outline (timetableProgram env.migrated req) (fun _ => True)
    (fun _ pc _ _ => pc.Refused) where
  read := by
    intro i pc pc' ws c h _ _
    cases h with
    | unchanged tt answer haction => 
      have hrefused := action_refused (req i).op
      rwa [← haction] at hrefused
    | unpublished hsame haction => exact timetableActions_refused _ (by simp [haction])
    | _ => trivial
  write := by
    intro i pc w pc' ws c h _ hA
    cases h with
    | insert answer hdraft haction => exact timetableActions_refused _ (by simp [haction])
    | publish answer hne haction => exact timetableActions_refused _ (by simp [haction])
    | update answer hne haction => 
      have hrefused := action_refused (req i).op
      rwa [← haction] at hrefused
    | log hadmits => exact absurd hadmits.1 hA
    | _ => trivial
  commit := by
    intro i pc pc' ws c h _ _
    cases h <;> exact ⟨trivial, trivial⟩
  abort := by
    intro i pc pc' ws c h _ _
    cases h
    trivial
  interfere := fun _ _ _ _ _ hA => hA
  outside := fun h => h.elim

/-- **One published timetable**: under the schema as migrated, after any turns of any requests in
any order, each school and year has at most one published timetable, when it had at most one before
them. -/
theorem one_published (env : SchoolEnv) (req : ι → TimetableRequest) (db : SchoolDB)
    (h : OnePublished db) (turns : List (TimetableTurn ι)) :
    OnePublished (run (TimetableSys.step env.migrated req) (.init db) turns).store.committed := by
  have hrefused : Valid (fun _ => True) (fun _ pc _ _ => pc.Refused)
      (TimetableSys.init (ι := ι) db) := valid_of_closed rfl trivial fun _ => trivial
  have hlast : Along (TimetableSys.step env.migrated req) FindsLast (.init db) turns := by
    have hall : Along (TimetableSys.step env.migrated req) (fun _ _ => True) (.init db) turns :=
      along_of_forall (fun _ _ => trivial) turns _
    refine along_of_invariant (fun s t _ hs => refused_outline.step (timetable_steps s t) hs)
      (fun s t _ hs => ?_) hall hrefused
    intro tt old answer hpc
    have hself := hs.local_ t.request
    rw [hpc] at hself
    exact hself.elim
  exact published_unraced env.migrated req db h turns hlast

/-- Two drafts of one year. -/
def draftRows : List Timetable :=
  [⟨301, 11, 101, 21, "T1", .draft, none, none, none, none, 1⟩,
    ⟨302, 11, 101, 21, "T2", .draft, none, none, none, none, 1⟩]

def twoDrafts : SchoolDB := { smallSchool with timetables := .ofRows _ draftRows }

/-- The two drafts beside a publication of their year. -/
def draftsBesidePublished : SchoolDB :=
  { smallSchool with
    timetables := .ofRows _
      (⟨300, 11, 101, 21, "T0", .published, some 1, none, none, none, 2⟩ :: draftRows) }

/-- Two requests, each to publish one of them. -/
def publishBoth (second : Bool) : TimetableRequest :=
  ⟨staff, .publish (if second then 302 else 301) 1⟩

/-- The turns of a request that finds no conflict and no publication. -/
def publishTurns (second : Bool) : List (TimetableTurn Bool) := .replicate 6 ⟨second, ⟨0, 0⟩⟩

/-- Turn by turn, beside a publication that both find. -/
theorem publishBoth_inTurn :
    OnePublished (run (TimetableSys.step SchoolEnv.plain.migrated publishBoth)
      (.init draftsBesidePublished)
      ((List.replicate 6 [false, true]).flatten.map (⟨·, ⟨0, 0⟩⟩))).store.committed :=
  one_published .plain publishBoth draftsBesidePublished (by decide) _

/-- With an audit log that admits the actions of timetables, two publish requests that both search
for a publication before either commits leave two. -/
theorem publishBoth_raced : ¬ OnePublished (run (TimetableSys.step
    { SchoolEnv.plain with auditVocabulary := "TIMETABLE_PUBLISHED" :: auditActions } publishBoth)
    (.init twoDrafts) ((publishTurns false).take 3 ++ publishTurns true ++
      (publishTurns false).drop 3)).store.committed := by
  decide

end SchoolOs
