import SchoolOs.Guardians

/-!
One primary guardian: whatever guardian requests are processed, a student has at most one primary
link, and the link a request makes primary is that one.
-/

namespace SchoolOs

/-- Every link names a student of its school, and a student has at most one primary link. -/
structure PrimaryKept (db : FamilyDB) : Prop where
  ofSchool : ∀ g ∈ db.guardians, ∃ s, db.students.get g.studentId = some s ∧ s.schoolId = g.schoolId
  onePrimary : db.guardians.OneFlagged StudentGuardian.studentId StudentGuardian.isPrimary

lemma primaryKept_withoutGuardians (db : SchoolDB) : PrimaryKept db.withoutGuardians where
  ofSchool _ hg := absurd hg Table.not_mem_empty
  onePrimary := Table.excludes_empty

/-! ### What each operation does to the links -/

section Effects

variable {env : SchoolEnv} {ctx : RequestContext} {db db' : FamilyDB}

lemma familyAudit_ok {entry : AuditEntry} (h : db.audit env ctx entry = .ok db') :
    db'.guardians = db.guardians ∧ db'.students = db.students := by
  obtain ⟨school, haudit, rfl⟩ := map_ok.mp h
  obtain ⟨_, rfl⟩ := schoolAudit_ok.mp haudit
  exact ⟨rfl, rfl⟩

lemma getStudent_some {db : SchoolDB} {schoolId studentId : Ulid} {s : Student}
    (h : getStudent db schoolId studentId = some s) :
    db.students.get studentId = some s ∧ s.schoolId = schoolId := by
  obtain ⟨hget, hs⟩ := Option.filter_eq_some_iff.mp h
  exact ⟨hget, (of_decide_eq_true hs).1⟩

lemma getGuardian_some {guardianId schoolId : Ulid} {g : StudentGuardian}
    (h : getGuardian db guardianId schoolId = some g) :
    db.guardians.get guardianId = some g ∧ g.schoolId = schoolId := by
  obtain ⟨hget, hs⟩ := Option.filter_eq_some_iff.mp h
  exact ⟨hget, of_decide_eq_true hs⟩

namespace Guardians

lemma insertRow_ok {g : StudentGuardian} (h : insertRow db g = .ok db') :
    ∃ guardians, db.guardians.insert g = some guardians ∧
      db' = { db with guardians := guardians } := by
  simp only [insertRow, bind_ok, found_ok, ensure_ok, pure_ok] at h
  obtain ⟨guardians, hinsert, -, -, rfl⟩ := h
  exact ⟨guardians, hinsert, rfl⟩

/-- The links with the new one, the others of its student unset when it is primary. -/
lemma addGuardian_ok {data : GuardianCreate} {id : Ulid} {g : StudentGuardian}
    (h : addGuardian env ctx db data id = .ok (g, db')) :
    ∃ schoolId organizationId s guardians, g = created ctx schoolId organizationId data id ∧
      db.students.get data.studentId = some s ∧ s.schoolId = schoolId ∧
      db.guardians.insert g = some guardians ∧ db'.students = db.students ∧
      db'.guardians = if data.isPrimary then
        (unsetOthers { db with guardians := guardians } data.studentId schoolId id).guardians
        else guardians := by
  simp only [addGuardian, bind_ok, found_ok, ensureAbsent_ok, pure_ok] at h
  obtain ⟨schoolId, -, s, hs, -, -, -, -, organizationId, -, db1, hinsert, db2, haudit, he⟩ := h
  obtain ⟨hget, hschool⟩ := getStudent_some hs
  obtain ⟨guardians, hg, rfl⟩ := insertRow_ok hinsert
  obtain ⟨hguardians, hstudents⟩ := familyAudit_ok haudit
  cases he
  refine ⟨schoolId, organizationId, s, guardians, rfl, hget, hschool, hg, ?_, ?_⟩
  · rw [hstudents]
    split <;> rfl
  · rw [hguardians]
    split <;> rfl

/-- The links with the edited one, the others of its student unset when it is made primary. -/
lemma updateGuardian_ok {guardianId : Ulid} {data : GuardianUpdate} {g : StudentGuardian}
    (h : updateGuardian env ctx db guardianId data = .ok (g, db')) :
    ∃ old, old ∈ db.guardians ∧ old.id = guardianId ∧ g = applied ctx old data ∧
      db'.students = db.students ∧
      db'.guardians = ((if data.isPrimary = some true then
        unsetOthers db old.studentId old.schoolId guardianId else db).guardians.put g) := by
  simp only [updateGuardian, bind_ok, found_ok, pure_ok] at h
  obtain ⟨schoolId, -, old, hold, db1, haudit, he⟩ := h
  obtain ⟨hget, hschool⟩ := getGuardian_some hold
  obtain ⟨hmem, hid⟩ := Table.get_eq_some.mp hget
  obtain ⟨hguardians, hstudents⟩ := familyAudit_ok haudit
  cases he
  refine ⟨old, hmem, hid, rfl, ?_, ?_⟩
  · rw [hstudents]
    split <;> rfl
  · rw [hguardians, hschool, hid]

lemma removeGuardian_ok {guardianId : Ulid} (h : removeGuardian env ctx db guardianId = .ok db') :
    ∃ k, db'.students = db.students ∧ db'.guardians = db.guardians.delete k := by
  simp only [removeGuardian, bind_ok, found_ok] at h
  obtain ⟨_, -, old, -, haudit⟩ := h
  obtain ⟨hguardians, hstudents⟩ := familyAudit_ok haudit
  exact ⟨old.id, hstudents, hguardians⟩

end Guardians

end Effects

/-! ### One step -/

section Step

variable {env : SchoolEnv} {ctx : RequestContext} {db db' : FamilyDB}
variable {studentId schoolId guardianId : Ulid}

lemma mem_unsetOthers {g : StudentGuardian}
    (h : g ∈ (Guardians.unsetOthers db studentId schoolId guardianId).guardians) :
    ∃ g0 ∈ db.guardians, g0.id = g.id ∧ g0.studentId = g.studentId ∧ g0.schoolId = g.schoolId := by
  obtain ⟨g0, hg0, rfl⟩ := Tables.mem_setWhere.mp h
  refine ⟨g0, hg0, ?_⟩
  split <;> exact ⟨rfl, rfl, rfl⟩

lemma mem_unsetOthers_self {g : StudentGuardian} (hg : g ∈ db.guardians) (hid : g.id = guardianId) :
    g ∈ (Guardians.unsetOthers db studentId schoolId guardianId).guardians :=
  Tables.mem_setWhere.mpr ⟨g, hg, if_neg fun h => (of_decide_eq_true h).2.2 hid⟩

lemma filter_unsetOthers (db : FamilyDB) :
    (Guardians.unsetOthers db studentId schoolId guardianId).guardians.rows.filter
      (fun g => g.studentId ≠ studentId) =
        db.guardians.rows.filter fun g => g.studentId ≠ studentId := by
  refine Tables.filter_setWhere_of_not fun g _ hg => ?_
  have hstudent : g.studentId = studentId := (of_decide_eq_true hg).1
  exact ⟨decide_eq_false fun hne => hne hstudent, decide_eq_false fun hne => hne hstudent⟩

lemma PrimaryKept.sameSchool (h : PrimaryKept db) {s : Student} {g : StudentGuardian}
    (hg : g ∈ db.guardians) (hs : db.students.get g.studentId = some s) :
    g.schoolId = s.schoolId := by
  obtain ⟨s', hs', hschool⟩ := h.ofSchool g hg
  rw [← hschool, Option.some.inj (hs'.symm.trans hs)]

theorem primaryKept_add {data : GuardianCreate} {id : Ulid} {g : StudentGuardian}
    (h : PrimaryKept db) (hadd : Guardians.addGuardian env ctx db data id = .ok (g, db')) :
    PrimaryKept db' := by
  obtain ⟨schoolId, organizationId, s, guardians, rfl, hs, hschool, hinsert, hstudents,
    hguardians⟩ := Guardians.addGuardian_ok hadd
  have hlinks : ∀ g ∈ guardians, ∃ s, db.students.get g.studentId = some s ∧
      s.schoolId = g.schoolId := by
    intro g hg
    rcases (Table.mem_of_insert hinsert).mp hg with hg | rfl
    · exact h.ofSchool g hg
    · exact ⟨s, hs, hschool⟩
  constructor
  · rw [hstudents, hguardians]
    split
    · intro g hg
      obtain ⟨g0, hg0, -, hstudent, hs0⟩ := mem_unsetOthers hg
      rw [← hstudent, ← hs0]
      exact hlinks g0 hg0
    · exact hlinks
  · rw [hguardians]
    split
    · refine Table.OneFlagged.insert_lower ?_ h.onePrimary hinsert ?_ fun a ha hstudent _ => ?_
      · exact fun _ => rfl
      · exact fun _ => rfl
      -- The others of the student are in the school, so the update reaches them.
      have hsa : a.schoolId = schoolId := by
        rw [← hschool]
        exact h.sameSchool ha (hstudent ▸ hs)
      have hfresh : a.id ≠ id := (Table.insert_eq_some.mp hinsert).1 a ha
      exact decide_eq_true ⟨hstudent, hsa, hfresh⟩
    · next hprimary => exact h.onePrimary.insert hinsert (Bool.eq_false_iff.mpr hprimary)

theorem primaryKept_update {guardianId : Ulid} {data : GuardianUpdate} {g : StudentGuardian}
    (h : PrimaryKept db)
    (hupdate : Guardians.updateGuardian env ctx db guardianId data = .ok (g, db')) :
    PrimaryKept db' := by
  obtain ⟨old, hold, hid, rfl, hstudents, hguardians⟩ := Guardians.updateGuardian_ok hupdate
  obtain ⟨s, hs, hschool⟩ := h.ofSchool old hold
  constructor
  · rw [hstudents, hguardians]
    intro g hg
    rcases Table.mem_put.mp hg with ⟨hg, -⟩ | ⟨rfl, -⟩
    · split at hg
      · obtain ⟨g0, hg0, -, hstudent, hs0⟩ := mem_unsetOthers hg
        rw [← hstudent, ← hs0]
        exact h.ofSchool g0 hg0
      · exact h.ofSchool g hg
    · exact ⟨s, hs, hschool⟩
  · rw [hguardians]
    split
    · refine Table.OneFlagged.lower_put ?_ h.onePrimary ?_ fun a ha hne hstudent _ => ?_
      · exact fun _ => rfl
      · exact fun _ => rfl
      have hsa : a.schoolId = old.schoolId := (h.sameSchool ha (hstudent ▸ hs)).trans hschool
      exact decide_eq_true ⟨hstudent, hsa, hid ▸ hne⟩
    · next hprimary =>
      refine h.onePrimary.put hold rfl rfl fun hnew => ?_
      cases hdata : data.isPrimary with
      | none => simpa only [Guardians.applied, hdata, Option.getD_none] using hnew
      | some b =>
        cases b with
        | false =>
          simp only [Guardians.applied, hdata, Option.getD_some, Bool.false_eq_true] at hnew
        | true => exact absurd hdata hprimary

theorem primaryKept_remove {guardianId : Ulid} (h : PrimaryKept db)
    (hremove : Guardians.removeGuardian env ctx db guardianId = .ok db') : PrimaryKept db' := by
  obtain ⟨k, hstudents, hguardians⟩ := Guardians.removeGuardian_ok hremove
  constructor
  · rw [hstudents, hguardians]
    exact fun g hg => h.ofSchool g (Table.mem_delete.mp hg).1
  · rw [hguardians]
    exact h.onePrimary.delete

theorem primaryKept_handle {c : GuardianCall} (h : PrimaryKept db)
    (hc : c.handle env db = .ok db') : PrimaryKept db' := by
  obtain ⟨ctx, op⟩ := c
  cases op with
  | add data id =>
    obtain ⟨⟨g, db1⟩, hadd, rfl⟩ := map_ok.mp hc
    exact primaryKept_add h hadd
  | update guardianId data =>
    obtain ⟨⟨g, db1⟩, hupdate, rfl⟩ := map_ok.mp hc
    exact primaryKept_update h hupdate
  | remove guardianId => exact primaryKept_remove h hc

lemma primaryKept_step (env : SchoolEnv) (db : FamilyDB) (c : GuardianCall) (h : PrimaryKept db) :
    PrimaryKept (c.step env db) := by
  unfold GuardianCall.step
  split
  · next hc => exact primaryKept_handle h hc
  · exact h

end Step

/-! ### The link a request makes primary -/

/-- The request writes a link that it marks as the primary one. -/
def GuardianOp.setsPrimary : GuardianOp → Bool
  | .add data _ => data.isPrimary
  | .update _ data => data.isPrimary = some true
  | .remove _ => false

/-- The link that the request writes. -/
def GuardianOp.link : GuardianOp → Ulid
  | .add _ id => id
  | .update guardianId _ => guardianId
  | .remove guardianId => guardianId

/-- The link is the only primary one of its student, and the links of the other students are as
they were. -/
def MadePrimary (linkId : Ulid) (db db' : FamilyDB) : Prop :=
  ∃ g ∈ db'.guardians, g.id = linkId ∧ g.isPrimary = true ∧
    (∀ g' ∈ db'.guardians, g'.studentId = g.studentId → g'.isPrimary = true → g' = g) ∧
    db'.guardians.rows.filter (fun g' => g'.studentId ≠ g.studentId) =
      db.guardians.rows.filter (fun g' => g'.studentId ≠ g.studentId)

section Made

variable {env : SchoolEnv} {ctx : RequestContext} {db db' : FamilyDB}

lemma madePrimary_add {data : GuardianCreate} {id : Ulid} {g : StudentGuardian}
    (h : PrimaryKept db) (hadd : Guardians.addGuardian env ctx db data id = .ok (g, db'))
    (hprimary : data.isPrimary = true) : MadePrimary id db db' := by
  have hone := (primaryKept_add h hadd).onePrimary
  obtain ⟨schoolId, organizationId, s, guardians, rfl, -, -, hinsert, -, hguardians⟩ :=
    Guardians.addGuardian_ok hadd
  rw [if_pos hprimary] at hguardians
  have hnew : Guardians.created ctx schoolId organizationId data id ∈ db'.guardians := by
    rw [hguardians]
    exact mem_unsetOthers_self ((Table.mem_of_insert hinsert).mpr (.inr rfl)) rfl
  refine ⟨_, hnew, rfl, hprimary, fun g' hg' => hone.eq hnew hprimary hg', ?_⟩
  rw [hguardians]
  calc (Guardians.unsetOthers { db with guardians := guardians } data.studentId schoolId
        id).guardians.rows.filter (fun g' => g'.studentId ≠ data.studentId)
      = guardians.rows.filter fun g' => g'.studentId ≠ data.studentId := filter_unsetOthers _
    _ = db.guardians.rows.filter fun g' => g'.studentId ≠ data.studentId :=
        Table.filter_insert hinsert (decide_eq_false fun hne => hne rfl)

lemma madePrimary_update {guardianId : Ulid} {data : GuardianUpdate} {g : StudentGuardian}
    (h : PrimaryKept db)
    (hupdate : Guardians.updateGuardian env ctx db guardianId data = .ok (g, db'))
    (hprimary : data.isPrimary = some true) : MadePrimary guardianId db db' := by
  have hone := (primaryKept_update h hupdate).onePrimary
  obtain ⟨old, hold, hid, rfl, -, hguardians⟩ := Guardians.updateGuardian_ok hupdate
  rw [if_pos hprimary] at hguardians
  have hflag : (Guardians.applied ctx old data).isPrimary = true := by
    simp only [Guardians.applied, hprimary, Option.getD_some]
  have hnew : Guardians.applied ctx old data ∈ db'.guardians := by
    rw [hguardians]
    exact Table.mem_put.mpr (.inr ⟨rfl, old, mem_unsetOthers_self hold hid, rfl⟩)
  refine ⟨_, hnew, hid, hflag, fun g' hg' => hone.eq hnew hflag hg', ?_⟩
  rw [hguardians]
  have hput : ((Guardians.unsetOthers db old.studentId old.schoolId guardianId).guardians.put
      (Guardians.applied ctx old data)).rows.filter (fun g' => g'.studentId ≠ old.studentId) =
      (Guardians.unsetOthers db old.studentId old.schoolId guardianId).guardians.rows.filter
        fun g' => g'.studentId ≠ old.studentId := by
    refine Table.filter_put (fun g' hg' => ?_) (decide_eq_false fun hne => hne rfl)
    obtain ⟨hmem, hkey⟩ := Table.get_eq_some.mp hg'
    obtain ⟨g0, hg0, hid0, hstudent, -⟩ := mem_unsetOthers hmem
    have he : g0 = old := Table.eq_of_key hg0 hold (hid0.trans hkey)
    exact decide_eq_false fun hne => hne (hstudent.symm.trans (congrArg _ he))
  exact hput.trans (filter_unsetOthers db)

end Made

/-- **One primary guardian**: whatever guardian requests a school processes, a student has at most
one primary link; and a request that makes a link primary leaves it the only primary one of its
student, and the links of other students as they were. -/
theorem one_primary_guardian (env : SchoolEnv) (db : SchoolDB) (calls : List GuardianCall) :
    let reached := Runs.run (GuardianCall.step env) db.withoutGuardians calls
    (∀ g ∈ reached.guardians, ∀ g' ∈ reached.guardians, g.studentId = g'.studentId →
      g.isPrimary = true → g'.isPrimary = true → g = g') ∧
    ∀ (c : GuardianCall) (next : FamilyDB), c.handle env reached = .ok next →
      c.op.setsPrimary = true → MadePrimary c.op.link reached next := by
  intro reached
  have hkept : PrimaryKept reached :=
    Runs.invariant_all (primaryKept_step env) (primaryKept_withoutGuardians db) calls
  refine ⟨fun g hg g' hg' hstudent hp hp' => hkept.onePrimary.eq hg' hp' hg hstudent hp, ?_⟩
  rintro ⟨ctx, op⟩ next hc hsets
  cases op with
  | add data id =>
    obtain ⟨⟨g, db1⟩, hadd, rfl⟩ := map_ok.mp hc
    exact madePrimary_add hkept hadd hsets
  | update guardianId data =>
    obtain ⟨⟨g, db1⟩, hupdate, rfl⟩ := map_ok.mp hc
    exact madePrimary_update hkept hupdate (of_decide_eq_true hsets)
  | remove guardianId => cases hsets

/-- Cem becomes the primary guardian of a student, and then Ben. -/
theorem one_primary_guardian_second :
    let calls : List GuardianCall := [⟨staff, .add ⟨71, 63, .mother, true, false, true⟩ 901⟩]
    let reached := Runs.run (GuardianCall.step .plain) smallSchool.withoutGuardians calls
    let c : GuardianCall := ⟨staff, .add ⟨71, 62, .father, true, false, true⟩ 902⟩
    ∃ next, c.handle .plain reached = .ok next ∧ next.guardians.rows.map (·.isPrimary) =
      [false, true] ∧ MadePrimary 902 reached next := by
  intro calls reached c
  have hflags : (fun db => db.guardians.rows.map (·.isPrimary)) <$> c.handle .plain reached =
      .ok [false, true] := by decide +kernel
  obtain ⟨next, hnext, hrows⟩ := map_ok.mp hflags
  exact ⟨next, hnext, hrows, (one_primary_guardian .plain smallSchool calls).2 c next hnext rfl⟩

end SchoolOs
