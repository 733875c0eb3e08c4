import Mathlib.Logic.Relation
import SchoolOs.Placement

/-!
The enrollments of a student in a year as a timeline. Transfers are remembered beside the
database: an enrollment that was handed over ends on the day on which its successor starts, and
other enrollments of the student in the year share no day.
-/

namespace SchoolOs

open Runs

def StudentEnrollment.span (e : StudentEnrollment) : Span Date := ⟨e.startDate, e.endDate⟩

/-- Enrollments of one student in one year. -/
def SameYear (e f : StudentEnrollment) : Prop :=
  e.studentId = f.studentId ∧ e.academicYearId = f.academicYearId

instance : DecidableRel SameYear := fun e f =>
  inferInstanceAs (Decidable (e.studentId = f.studentId ∧ e.academicYearId = f.academicYearId))

lemma SameYear.symm {e f : StudentEnrollment} (h : SameYear e f) : SameYear f e :=
  ⟨h.1.symm, h.2.symm⟩

/-! ### Histories -/

/-- A transfer that went through. -/
structure HandOver where
  old : Ulid
  new : Ulid
  day : Date
  deriving DecidableEq

/-- The database, and the transfers that led to it. -/
structure History where
  db : SchoolDB
  handOvers : List HandOver

def EnrollmentOp.handOver : EnrollmentOp → Option HandOver
  | .transfer enrollmentId data id => some ⟨enrollmentId, id, data.effectiveDate⟩
  | _ => none

/-- A failed request leaves no trace. -/
def History.step (env : SchoolEnv) (h : History) (c : EnrollmentCall) : History :=
  match c.handle env h.db with
  | .ok db => ⟨db, h.handOvers ++ c.op.handOver.toList⟩
  | .error _ => h

lemma history_db (env : SchoolEnv) (l : List EnrollmentCall) (h : History) :
    (run (History.step env) h l).db = run (EnrollmentCall.step env) h.db l := by
  induction l generalizing h with
  | nil => rfl
  | cons c l ih =>
    have hstep : (h.step env c).db = c.step env h.db := by
      unfold History.step EnrollmentCall.step
      split <;> simp_all
    rw [run_cons, run_cons, ih, hstep]

/-- The one enrollment was handed over to the other on the day, perhaps through others that began
and ended on it. -/
def History.HandedOver (h : History) (d : Date) : Ulid → Ulid → Prop :=
  Relation.TransGen fun a b => ⟨a, b, d⟩ ∈ h.handOvers

/-- **The timeline.** -/
structure Timeline (h : History) : Prop where
  proper : ∀ e ∈ h.db.enrollments, e.span.Proper
  consecutive : ∀ t ∈ h.handOvers, ∀ e ∈ h.db.enrollments, ∀ f ∈ h.db.enrollments,
    e.id = t.old → f.id = t.new → e.endDate = some f.startDate
  apart : ∀ e ∈ h.db.enrollments, ∀ f ∈ h.db.enrollments, e.id ≠ f.id → SameYear e f →
    ∀ d, e.span.Has d → f.span.Has d →
      (h.HandedOver d e.id f.id ∨ h.HandedOver d f.id e.id) ∧
        ∀ d', e.span.Has d' → f.span.Has d' → d' = d

/-! ### Requests in time -/

/-- The other enrollments of the student in the year. -/
def History.Others (h : History) (e : StudentEnrollment) (P : StudentEnrollment → Prop) : Prop :=
  ∀ f ∈ h.db.enrollments, f.id ≠ e.id → SameYear e f → P f

/-- The enrollment was handed over to no other. -/
def History.Unhanded (h : History) (e : StudentEnrollment) : Prop :=
  ∀ t ∈ h.handOvers, t.old ≠ e.id

/-- An end that comes no earlier than the start and before the next enrollment, of an enrollment
that was not handed over. -/
def History.EndsInTime (h : History) (e : StudentEnrollment) (stop : Option Date) : Prop :=
  (∀ d ∈ stop, e.startDate ≤ d) ∧ h.Unhanded e ∧
    h.Others e fun f => e.startDate < f.startDate → ∃ d ∈ stop, d < f.startDate

/-- Whether a request keeps the order of the enrollments of a student in a year: a new enrollment
starts when the others are over; a new end comes in time; the last enrollment is transferred, and
no earlier than its start. -/
def InTime (env : SchoolEnv) (h : History) (c : EnrollmentCall) : Prop :=
  match c.op with
  | .create data _ => ∀ schoolId, Enrollments.check env c.ctx h.db data = .ok schoolId →
      ∀ f ∈ h.db.enrollments, f.studentId = data.studentId →
        f.academicYearId = data.academicYearId → ∃ stop ∈ f.endDate, stop < data.startDate
  | .update enrollmentId data => ∀ e, Enrollments.getOwned c.ctx h.db enrollmentId = .ok e →
      e.version = data.version → data.status ≠ some none →
        ∀ stop ∈ data.endDate, stop ≠ e.endDate → h.EndsInTime e stop
  | .transfer enrollmentId data _ => ∀ e,
      Enrollments.transferable c.ctx h.db enrollmentId data = .ok e →
        e.startDate ≤ data.effectiveDate ∧ h.Unhanded e ∧
          h.Others e fun f => f.startDate ≤ e.startDate
  | .delete _ _ => True

instance (h : History) (e : StudentEnrollment) (P : StudentEnrollment → Prop) [DecidablePred P] :
    Decidable (h.Others e P) :=
  inferInstanceAs (Decidable (∀ f ∈ h.db.enrollments, f.id ≠ e.id → SameYear e f → P f))

instance (h : History) (e : StudentEnrollment) : Decidable (h.Unhanded e) :=
  inferInstanceAs (Decidable (∀ t ∈ h.handOvers, t.old ≠ e.id))

instance (h : History) (e : StudentEnrollment) (stop : Option Date) :
    Decidable (h.EndsInTime e stop) :=
  inferInstanceAs (Decidable ((∀ d ∈ stop, e.startDate ≤ d) ∧ h.Unhanded e ∧
    h.Others e fun f => e.startDate < f.startDate → ∃ d ∈ stop, d < f.startDate))

instance (env : SchoolEnv) (h : History) (c : EnrollmentCall) : Decidable (InTime env h c) :=
  match c with
  | ⟨ctx, .create data _⟩ =>
    inferInstanceAs (Decidable (∀ schoolId, Enrollments.check env ctx h.db data = .ok schoolId → _))
  | ⟨ctx, .update enrollmentId _⟩ =>
    inferInstanceAs (Decidable (∀ e, Enrollments.getOwned ctx h.db enrollmentId = .ok e → _))
  | ⟨ctx, .transfer enrollmentId data _⟩ =>
    inferInstanceAs (Decidable (∀ e,
      Enrollments.transferable ctx h.db enrollmentId data = .ok e → _))
  | ⟨_, .delete _ _⟩ => .isTrue trivial

/-! ### The order of the enrollments -/

section Order

variable {env : SchoolEnv} {ctx : RequestContext} {h h' : History}

/-- The one enrollment is over when the other starts, or hands the day over. -/
def History.Ordered (h : History) (e f : StudentEnrollment) : Prop :=
  e.span.Follows (fun d => h.HandedOver d e.id f.id) f.span

/-- The enrollments of a student in a year one after another, with the ends of every transfer. -/
structure InOrder (h : History) : Prop where
  proper : ∀ e ∈ h.db.enrollments, e.span.Proper
  known : ∀ t ∈ h.handOvers, ∃ e ∈ h.db.enrollments, ∃ f ∈ h.db.enrollments,
    e.id = t.old ∧ f.id = t.new ∧ e.endDate = some t.day ∧ f.startDate = t.day
  ordered : ∀ e ∈ h.db.enrollments, h.Others e fun f => h.Ordered e f ∨ h.Ordered f e

lemma handedOver_mono (hsub : h.handOvers ⊆ h'.handOvers) {d : Date} {a b : Ulid}
    (hab : h.HandedOver d a b) : h'.HandedOver d a b :=
  Relation.TransGen.mono (fun _ _ ht => hsub ht) _ _ hab

lemma not_handedOver {a b : Ulid} (hnone : ∀ t ∈ h.handOvers, t.old ≠ a) (d : Date) :
    ¬ h.HandedOver d a b := by
  intro hab
  obtain ⟨c, hac, _⟩ := Relation.TransGen.head'_iff.mp hab
  exact hnone _ hac rfl

lemma ordered_mono (hsub : h.handOvers ⊆ h'.handOvers) {e f : StudentEnrollment}
    (hef : h.Ordered e f) : h'.Ordered e f :=
  Span.Follows.mono (fun _ => handedOver_mono hsub) hef

/-- **The order is a timeline.** -/
lemma InOrder.timeline (hin : InOrder h) : Timeline h where
  proper := hin.proper
  consecutive := by
    intro t ht e he f hf hold hnew
    obtain ⟨e', he', f', hf', hold', hnew', hend, hstart⟩ := hin.known t ht
    obtain rfl := Table.eq_of_key he he' (hold.trans hold'.symm)
    obtain rfl := Table.eq_of_key hf hf' (hnew.trans hnew'.symm)
    rw [hend, hstart]
  apart := by
    intro e he f hf hne hsame d hd hd'
    rcases hin.ordered e he f hf hne.symm hsame with hef | hfe
    · obtain ⟨rfl, hhanded⟩ := hef.common hd hd'
      exact ⟨.inl hhanded, fun d' hd1 hd2 => (hef.common hd1 hd2).1⟩
    · obtain ⟨rfl, hhanded⟩ := hfe.common hd' hd
      exact ⟨.inr hhanded, fun d' hd1 hd2 => (hfe.common hd2 hd1).1⟩

/-- An enrollment that hands nothing over, and another that starts no later, come the other way
round. -/
lemma InOrder.before (hin : InOrder h) {e f : StudentEnrollment} (he : e ∈ h.db.enrollments)
    (hf : f ∈ h.db.enrollments) (hne : f.id ≠ e.id) (hsame : SameYear e f)
    (hnone : h.Unhanded e) (hstart : f.startDate ≤ e.startDate) :
    h.Ordered f e := by
  rcases hin.ordered e he f hf hne hsame with hef | hfe
  · have hlt : e.startDate < f.startDate := hef.start_lt (hin.proper e he) (not_handedOver hnone _)
    exact absurd hstart (not_le.mpr hlt)
  · exact hfe

/-- **A new enrollment**, when all others of the student in the year are over or hand their last day
over to it. -/
lemma InOrder.insert (hin : InOrder h) {e : StudentEnrollment} {db : SchoolDB}
    (hinsert : h.db.enrollments.insert e = some db.enrollments) (hproper : e.span.Proper)
    {handOvers : List HandOver} (hsub : h.handOvers ⊆ handOvers)
    (hknown : ∀ t ∈ handOvers, t ∈ h.handOvers ∨ t.new = e.id ∧ t.day = e.startDate ∧
      ∃ f ∈ h.db.enrollments, f.id = t.old ∧ f.endDate = some t.day)
    (hlast : ∀ f ∈ h.db.enrollments, SameYear e f → History.Ordered ⟨db, handOvers⟩ f e) :
    InOrder ⟨db, handOvers⟩ := by
  have hmem := fun x => Table.mem_of_insert hinsert (x := x)
  constructor
  · intro f hf
    rcases (hmem f).mp hf with hf | rfl
    · exact hin.proper f hf
    · exact hproper
  · intro t ht
    rcases hknown t ht with hold | ⟨hnew, hday, f, hf, hfid, hend⟩
    · obtain ⟨a, ha, b, hb, hrest⟩ := hin.known t hold
      exact ⟨a, (hmem a).mpr (.inl ha), b, (hmem b).mpr (.inl hb), hrest⟩
    · exact ⟨f, (hmem f).mpr (.inl hf), e, (hmem e).mpr (.inr rfl), hfid, hnew.symm, hend,
        hday.symm⟩
  · intro a ha b hb hne hsame
    rcases (hmem a).mp ha with hold | rfl
    · rcases (hmem b).mp hb with hbold | rfl
      · exact (hin.ordered a hold b hbold hne hsame).imp (ordered_mono hsub) (ordered_mono hsub)
      · exact .inl (hlast a hold hsame.symm)
    · rcases (hmem b).mp hb with hbold | rfl
      · exact .inr (hlast b hbold hsame)
      · exact absurd rfl hne

/-- **An enrollment rewritten**, with another end: it handed nothing over, and it is over before
later ones start. -/
lemma InOrder.put (hin : InOrder h) {e new : StudentEnrollment} (he : e ∈ h.db.enrollments)
    (hid : new.id = e.id) (hstart : new.startDate = e.startDate) (hsame : SameYear new e)
    (hend : new.endDate ≠ e.endDate → new.span.Proper ∧ h.Unhanded e ∧
      h.Others e fun f => e.startDate < f.startDate → new.span.Before f.span) {db : SchoolDB}
    (hdb : db.enrollments = h.db.enrollments.put new) : InOrder ⟨db, h.handOvers⟩ := by
  have hmem : ∀ x, x ∈ db.enrollments ↔
      (x ∈ h.db.enrollments ∧ x.id ≠ e.id) ∨ x = new := by
    intro x
    rw [hdb, Table.mem_put, hid]
    exact or_congr_right (and_iff_left ⟨e, he, rfl⟩)
  -- The rewritten enrollment among the others: on either side as before.
  have hpair : ∀ f ∈ h.db.enrollments, f.id ≠ e.id → SameYear e f →
      History.Ordered ⟨db, h.handOvers⟩ new f ∨ History.Ordered ⟨db, h.handOvers⟩ f new := by
    intro f hf hne hef
    rcases hin.ordered e he f hf hne hef with hbefore | hafter
    · refine .inl ?_
      by_cases hkeeps : new.endDate = e.endDate
      · unfold History.Ordered Span.Follows Span.Before StudentEnrollment.span at hbefore ⊢
        rwa [hkeeps, hid]
      · obtain ⟨_, hnone, hlater⟩ := hend hkeeps
        have hlt : e.startDate < f.startDate :=
          hbefore.start_lt (hin.proper e he) (not_handedOver hnone _)
        exact .inl (hlater f hf hne hef hlt)
    · refine .inr ?_
      unfold History.Ordered Span.Follows Span.Before StudentEnrollment.span at hafter ⊢
      rwa [hstart, hid]
  constructor
  · intro f hf
    rcases (hmem f).mp hf with ⟨hold, _⟩ | rfl
    · exact hin.proper f hold
    · by_cases hkeeps : f.endDate = e.endDate
      · have hproper := hin.proper e he
        unfold Span.Proper StudentEnrollment.span at hproper ⊢
        rwa [hkeeps, hstart]
      · exact (hend hkeeps).1
  · intro t ht
    obtain ⟨a, ha, b, hb, hold, hnew, hstop, hbegin⟩ := hin.known t ht
    have hlink : ∃ a' ∈ db.enrollments, a'.id = t.old ∧ a'.endDate = some t.day := by
      by_cases haid : a.id = e.id
      · obtain rfl := Table.eq_of_key ha he haid
        have hkeeps : new.endDate = a.endDate := by
          by_contra hne
          exact (hend hne).2.1 t ht hold.symm
        exact ⟨new, (hmem new).mpr (.inr rfl), hid.trans hold, hkeeps.trans hstop⟩
      · exact ⟨a, (hmem a).mpr (.inl ⟨ha, haid⟩), hold, hstop⟩
    have hnext : ∃ b' ∈ db.enrollments, b'.id = t.new ∧ b'.startDate = t.day := by
      by_cases hbid : b.id = e.id
      · obtain rfl := Table.eq_of_key hb he hbid
        exact ⟨new, (hmem new).mpr (.inr rfl), hid.trans hnew, hstart.trans hbegin⟩
      · exact ⟨b, (hmem b).mpr (.inl ⟨hb, hbid⟩), hnew, hbegin⟩
    obtain ⟨a', ha', hold', hstop'⟩ := hlink
    obtain ⟨b', hb', hnew', hbegin'⟩ := hnext
    exact ⟨a', ha', b', hb', hold', hnew', hstop', hbegin'⟩
  · intro a ha b hb hne hab
    rcases (hmem a).mp ha with ⟨haold, haid⟩ | rfl
    · rcases (hmem b).mp hb with ⟨hbold, _⟩ | rfl
      · exact hin.ordered a haold b hbold hne hab
      · have hea : SameYear e a := ⟨hsame.1.symm.trans hab.1.symm, hsame.2.symm.trans hab.2.symm⟩
        exact (hpair a haold haid hea).symm
    · rcases (hmem b).mp hb with ⟨hbold, hbid⟩ | rfl
      · have heb : SameYear e b := ⟨hsame.1.symm.trans hab.1, hsame.2.symm.trans hab.2⟩
        exact hpair b hbold hbid heb
      · exact absurd rfl hne

/-! ### One request -/

lemma InOrder.create (hin : InOrder h) {schoolId organizationId : Ulid} {data : EnrollmentCreate}
    {id : Ulid} {db : SchoolDB} (hinsert : h.db.enrollments.insert
      (Enrollments.enrolled ctx schoolId organizationId data id) = some db.enrollments)
    (htime : ∀ f ∈ h.db.enrollments, f.studentId = data.studentId →
      f.academicYearId = data.academicYearId → ∃ stop ∈ f.endDate, stop < data.startDate) :
    InOrder ⟨db, h.handOvers⟩ := by
  have hproper : (Enrollments.enrolled ctx schoolId organizationId data id).span.Proper :=
    fun _ hstop => nomatch hstop
  refine hin.insert hinsert hproper (List.Subset.refl _) (fun t ht => .inl ht) fun f hf hsame => ?_
  exact .inl (htime f hf hsame.1.symm hsame.2.symm)

lemma InOrder.update (hin : InOrder h) {data : EnrollmentUpdate} {e : StudentEnrollment}
    (he : e ∈ h.db.enrollments) {db : SchoolDB} (hdb : db.enrollments = h.db.enrollments.put
      (flushed StudentEnrollment.touch e (Enrollments.applied ctx e data)))
    (htime : ∀ stop ∈ data.endDate, stop ≠ e.endDate → h.EndsInTime e stop) :
    InOrder ⟨db, h.handOvers⟩ := by
  have hcols := flushed_col StudentEnrollment.touch
    (fun e => (e.id, e.studentId, e.academicYearId, e.span)) (fun _ => rfl) e
    (Enrollments.applied ctx e data)
  simp only [Prod.mk.injEq, StudentEnrollment.span, Span.mk.injEq] at hcols
  obtain ⟨hid, hstudent, hyear, hstart, hstop⟩ := hcols
  refine hin.put he hid hstart ⟨hstudent, hyear⟩ (fun hne => ?_) hdb
  rw [hstop] at hne
  cases hgiven : data.endDate with
  | none => simp [Enrollments.applied, hgiven] at hne
  | some stop =>
    have hend : (Enrollments.applied ctx e data).endDate = stop := by
      simp [Enrollments.applied, hgiven]
    rw [hend] at hne hstop
    obtain ⟨hproper, hunhanded, hlater⟩ := htime stop hgiven hne
    refine ⟨?_, hunhanded, ?_⟩
    · unfold Span.Proper StudentEnrollment.span
      rwa [hstop, hstart]
    · intro f hf hfne hsame hlt
      unfold Span.Before StudentEnrollment.span
      rw [hstop]
      exact hlater f hf hfne hsame hlt

lemma InOrder.transfer (hin : InOrder h) {organizationId : Ulid} {data : EnrollmentTransfer}
    {id : Ulid} {old : StudentEnrollment} (hold : old ∈ h.db.enrollments) {db : SchoolDB}
    (hinsert : (h.db.enrollments.put (Enrollments.ended ctx old data).touch).insert
      (Enrollments.successor ctx old.schoolId organizationId old data id) = some db.enrollments)
    (hday : old.startDate ≤ data.effectiveDate) (hunhanded : h.Unhanded old)
    (hlast : h.Others old fun f => f.startDate ≤ old.startDate) :
    InOrder ⟨db, h.handOvers ++ [⟨old.id, id, data.effectiveDate⟩]⟩ := by
  set ended := (Enrollments.ended ctx old data).touch with hended
  set e := Enrollments.successor ctx old.schoolId organizationId old data id with he
  -- First the old enrollment ends.
  have hput : InOrder ⟨{ h.db with enrollments := h.db.enrollments.put ended }, h.handOvers⟩ := by
    have hid : ended.id = old.id := rfl
    have hsame : SameYear ended old := ⟨rfl, rfl⟩
    refine hin.put hold hid rfl hsame (fun _ => ⟨?_, hunhanded, ?_⟩) rfl
    · intro d hd
      exact Option.some.inj hd ▸ hday
    · intro f hf hne hsame hlt
      exact absurd hlt (not_lt.mpr (hlast f hf hne hsame))
  -- Then its successor begins.
  have hproper : e.span.Proper := fun _ hstop => nomatch hstop
  have hmem : ∀ x, x ∈ h.db.enrollments.put ended ↔
      (x ∈ h.db.enrollments ∧ x.id ≠ old.id) ∨ x = ended := fun x =>
    Table.mem_put.trans (or_congr_right (and_iff_left ⟨old, hold, rfl⟩))
  refine hput.insert hinsert hproper (List.subset_append_left _ _) (fun t ht => ?_)
    fun f hf hsame => ?_
  · rcases List.mem_append.mp ht with ht | ht
    · exact .inl ht
    · obtain rfl := List.mem_singleton.mp ht
      exact .inr ⟨rfl, rfl, ended, (hmem ended).mpr (.inr rfl), rfl, rfl⟩
  · have hlink : (⟨old.id, id, data.effectiveDate⟩ : HandOver) ∈
        h.handOvers ++ [⟨old.id, id, data.effectiveDate⟩] :=
      List.mem_append_right _ (List.mem_singleton.mpr rfl)
    rcases (hmem f).mp hf with ⟨hfold, hne⟩ | rfl
    · have hsame' : SameYear old f := hsame
      have hbefore := hin.before hold hfold hne hsame' hunhanded (hlast f hfold hne hsame')
      rcases hbefore with ⟨stop, hstop, hlt⟩ | ⟨hstop, hhanded⟩
      · exact .inl ⟨stop, hstop, hlt.trans_le hday⟩
      · rcases hday.eq_or_lt with heq | hlt
        · refine .inr ⟨hstop.trans (congrArg some heq), ?_⟩
          have hhanded' : History.HandedOver ⟨db, h.handOvers ++ [⟨old.id, id, data.effectiveDate⟩]⟩
              data.effectiveDate f.id old.id := by
            rw [← heq] at hlink ⊢
            exact handedOver_mono (List.subset_append_left _ _) hhanded
          exact Relation.TransGen.tail hhanded' hlink
        · exact .inl ⟨old.startDate, hstop, hlt⟩
    · exact .inr ⟨rfl, Relation.TransGen.single hlink⟩

/-- **The order, one request.** -/
lemma inOrder_step {c : EnrollmentCall} (hkeeps : ¬ c.op.Deletes) (htime : InTime env h c)
    (hin : InOrder h) : InOrder (h.step env c) := by
  unfold History.step
  split
  · next db hok =>
    obtain ⟨heffect, _⟩ := enrollmentHandle_ok hok
    obtain ⟨ctx, op⟩ := c
    generalize hdb : db.enrollments = enrollments at heffect
    cases heffect with
    | create check references insert =>
      rw [← hdb] at insert
      simpa [EnrollmentOp.handOver] using hin.create insert (htime _ check)
    | @update enrollmentId data e owned version status =>
      have hupdate := hin.update (enrollmentOwned_ok owned).2.1 hdb (htime e owned version status)
      simpa [EnrollmentOp.handOver] using hupdate
    | @transfer organizationId enrollmentId data id old enrollments transferable references
        insert =>
      obtain ⟨_, hold, rfl⟩ := enrollmentOwned_ok (transferable_ok transferable).1
      obtain ⟨hday, hunhanded, hlast⟩ := htime old transferable
      rw [← hdb] at insert
      exact hin.transfer hold insert hday hunhanded hlast
    | delete owned => exact absurd trivial hkeeps
  · exact hin

end Order

/-! ### Runs -/

/-- No enrollments yet, and no transfers. -/
def SchoolDB.noHistory (db : SchoolDB) : History := ⟨db.withoutEnrollments, []⟩

/-- **Enrollments are a timeline**, as long as every date comes in time. -/
theorem enrollments_timeline (env : SchoolEnv) (db : SchoolDB) (l : List EnrollmentCall)
    (hkeeps : ∀ c ∈ l, ¬ c.op.Deletes)
    (htime : Along (History.step env) (InTime env) db.noHistory l) :
    Timeline (run (History.step env) db.noHistory l) := by
  have hstep : ∀ (h : History) (c : EnrollmentCall), ¬ c.op.Deletes ∧ InTime env h c →
      InOrder h → InOrder (h.step env c) := fun h c hc => inOrder_step hc.1 hc.2
  have hinit : InOrder db.noHistory :=
    ⟨fun _ he => absurd he Table.not_mem_empty, fun _ ht => absurd ht List.not_mem_nil,
      fun _ he => absurd he Table.not_mem_empty⟩
  exact (invariant hstep ((along_of_mem hkeeps _).and htime) hinit).timeline

/-- A student of the small school: enrolled, transferred, given an end, and enrolled again. -/
def yearOfTransfers (stop : Date) : List EnrollmentCall :=
  [⟨staff, .create ⟨71, 21, 31, 51, none, 738010, .regular, no_rollNumber⟩ 401⟩,
    ⟨staff, .transfer 401 ⟨52, 31, 738050⟩ 402⟩,
    ⟨staff, .update 402 ⟨none, some (some stop), some (some .withdrawn), 1, nofun, one_le_first⟩⟩,
    ⟨staff, .create ⟨71, 21, 31, 51, none, 738101, .regular, no_rollNumber⟩ 403⟩]

theorem yearOfTransfers_timeline :
    Timeline (run (History.step .plain) smallSchool.noHistory (yearOfTransfers 738100)) :=
  enrollments_timeline .plain smallSchool _ (by simp [yearOfTransfers, EnrollmentOp.Deletes])
    (by decide)

/-- An end before the start. -/
theorem yearOfTransfers_noTimeline : ¬ ∀ (env : SchoolEnv) (db : SchoolDB)
    (l : List EnrollmentCall), (∀ c ∈ l, ¬ c.op.Deletes) →
      Timeline (run (History.step env) db.noHistory l) := by
  intro h
  have hkeeps : ∀ c ∈ yearOfTransfers 738040, ¬ c.op.Deletes := by
    simp [yearOfTransfers, EnrollmentOp.Deletes]
  have hproper := (h .plain smallSchool _ hkeeps).proper
  exact absurd hproper (by decide)

end SchoolOs
