import SchoolOs.ParentLinks
import SchoolOs.PeopleEffects

/-!
The links between students and parents, seen from the side of the parent and from the side of the
student, over runs of requests on people, parents and links.
-/

namespace SchoolOs

open Runs

/-! ### Runs -/

structure ParentCall where
  ctx : RequestContext
  clk : Clock
  op : RowOp ParentCreate ParentUpdate

def ParentCall.handle (env : SchoolEnv) (db : SchoolDB) (c : ParentCall) : Fallible SchoolDB :=
  c.op.handle (Parents.create env c.ctx db) (Parents.get c.ctx db) (Parents.update env c.ctx db)
    (Parents.delete env c.clk c.ctx db)

inductive ParentsCall
  | people (c : PeopleCall)
  | parent (c : ParentCall)
  | link (c : ParentLinkCall)

def ParentsCall.handle (env : SchoolEnv) (db : ParentsDB) : ParentsCall → Fallible ParentsDB
  | .people c => do
    let school ← c.handle env db.toSchoolDB
    return { db with toSchoolDB := school }
  | .parent c => do
    let school ← c.handle env db.toSchoolDB
    return { db with toSchoolDB := school }
  | .link c => c.handle env db

/-- A failed request leaves no trace. -/
def ParentsCall.step (env : SchoolEnv) (db : ParentsDB) (c : ParentsCall) : ParentsDB :=
  match c.handle env db with
  | .ok db' => db'
  | .error _ => db

/-! ### What is kept -/

/-- Two links of one pair. -/
def SamePair (a b : ParentLink) : Prop := a.studentId = b.studentId ∧ a.parentId = b.parentId

/-- **The links are kept**: a link joins a parent and a student of its school, and no two links
join the same two. -/
structure LinksKept (db : ParentsDB) : Prop where
  parents : ∀ l ∈ db.studentParents, ∃ p ∈ db.parents, p.id = l.parentId ∧ p.schoolId = l.schoolId
  students : ∀ l ∈ db.studentParents,
    ∃ s ∈ db.students, s.id = l.studentId ∧ s.schoolId = l.schoolId
  apart : db.studentParents.Excludes SamePair

/-- Parents stay in their schools, and those who are deleted stay what they are. -/
structure ParentsOnward (db db' : SchoolDB) : Prop where
  parents : ∀ p ∈ db.parents, ∃ p' ∈ db'.parents, p'.id = p.id ∧ p'.schoolId = p.schoolId
  deleted : ∀ p ∈ db.parents, p.deletedAt ≠ none → p ∈ db'.parents
  students : StudentsOnward db db'

section Parents

variable {env : SchoolEnv} {ctx : RequestContext} {clk : Clock} {db db' : SchoolDB}

lemma ParentsOnward.same (hparents : db'.parents = db.parents)
    (hstudents : StudentsOnward db db') : ParentsOnward db db' where
  parents := fun p hp => ⟨p, hparents ▸ hp, rfl, rfl⟩
  deleted := fun _ hp _ => hparents ▸ hp
  students := hstudents

lemma ParentsOnward.log (h : ParentsOnward db db') (row : AuditLog) :
    ParentsOnward db (db'.log row) := { h with }

lemma parentGet_ok {parentId : Ulid} {p : Parent} (h : Parents.get ctx db parentId = .ok p) :
    p ∈ db.parents ∧ p.id = parentId ∧ ctx.schoolId = some p.schoolId ∧ p.deletedAt = none := by
  obtain ⟨schoolId, hctx, h⟩ := bind_ok.mp h
  obtain ⟨hget, hp⟩ := Option.filter_eq_some_iff.mp (found_ok.mp h)
  obtain ⟨hmem, hid⟩ := Table.get_eq_some.mp hget
  obtain ⟨hschool, hlive⟩ := of_decide_eq_true hp
  exact ⟨hmem, hid, (found_ok.mp hctx).trans (congrArg some hschool.symm), hlive⟩

lemma parentSave_onward {old new : Parent} (hold : old ∈ db.parents) (hlive : old.deletedAt = none)
    (hid : new.id = old.id) (hschool : new.schoolId = old.schoolId) :
    Yields (Parents.save db old new) (ParentsOnward db) := by
  simp only [Parents.save, yields_ite, yields_bind, yields_ensure, yields_pure]
  refine ⟨fun _ => .same rfl (.refl db), fun _ _ => ⟨?_, fun p hp hdeleted => ?_, .refl db⟩⟩
  · exact kept_put Parent.schoolId hold hid.symm hschool
  · refine Table.mem_put.mpr (.inl ⟨hp, fun heq => hdeleted ?_⟩)
    obtain rfl := Table.eq_of_key hp hold (heq.trans hid)
    exact hlive

lemma parent_onward {c : ParentCall} : Yields (c.handle env db) (ParentsOnward db) := by
  refine RowOp.yields (fun data id => ?_) (fun _ p howned data => ?_) fun _ p howned version => ?_
  · simp only [Parents.create, Parents.insertRow, yields_bind, yields_found, yields_ensureAbsent,
      yields_ensure, yields_audit, yields_pure]
    intro _ _ _ _ _ _ _ parents hinsert _ _
    have hold := fun p hp => (Table.mem_of_insert hinsert (x := p)).mpr (.inl hp)
    exact ⟨fun p hp => ⟨p, hold p hp, rfl, rfl⟩, fun p hp _ => hold p hp, .refl db⟩
  · obtain ⟨hmem, _, _, hlive⟩ := parentGet_ok howned
    simp only [Parents.update, yields_bind, yields_ensure, yields_audit, yields_pure]
    exact fun _ => Yields.imp (parentSave_onward hmem hlive rfl rfl) fun _ h _ => h.log _
  · obtain ⟨hmem, _, _, hlive⟩ := parentGet_ok howned
    simp only [Parents.delete, yields_bind, yields_ensure, yields_audit]
    exact fun _ => Yields.imp (parentSave_onward hmem hlive rfl rfl) fun _ h _ => h.log _

end Parents

section Links

variable {env : SchoolEnv} {ctx : RequestContext} {db : ParentsDB}

lemma samePair_symm (a b : ParentLink) (h : SamePair a b) : SamePair b a := ⟨h.1.symm, h.2.symm⟩

@[simp] lemma yields_parentsAudit {entry : AuditEntry} {S : ParentsDB → Prop} :
    Yields (db.audit env ctx entry) S ↔ (env.Admits (auditRow ctx entry) →
      S { db with toSchoolDB := db.toSchoolDB.log (auditRow ctx entry) }) := by
  simp [ParentsDB.audit]

lemma LinksKept.onward (h : LinksKept db) {school : SchoolDB}
    (hschool : ParentsOnward db.toSchoolDB school) :
    LinksKept { db with toSchoolDB := school } where
  parents := by
    intro l hl
    obtain ⟨p, hp, hid, hpschool⟩ := h.parents l hl
    obtain ⟨p', hp', hid', hpschool'⟩ := hschool.parents p hp
    exact ⟨p', hp', hid'.trans hid, hpschool'.trans hpschool⟩
  students := by
    intro l hl
    obtain ⟨s, hs, hid, hsschool⟩ := h.students l hl
    obtain ⟨s', hs', hid', hsschool'⟩ := hschool.students s hs
    exact ⟨s', hs', hid'.trans hid, hsschool'.trans hsschool⟩
  apart := h.apart

lemma LinksKept.log (h : LinksKept db) (row : AuditLog) :
    LinksKept { db with toSchoolDB := db.toSchoolDB.log row } :=
  h.onward (.same rfl (.refl db.toSchoolDB))

lemma getParent_isSome {school : SchoolDB} {schoolId parentId : Ulid} :
    (getParent school schoolId parentId).isSome ↔
      ∃ p ∈ school.parents, p.id = parentId ∧ p.schoolId = schoolId ∧ p.deletedAt = none := by
  simp only [getParent, Option.isSome_iff_exists, Option.filter_eq_some_iff, Table.get_eq_some,
    decide_eq_true_eq, and_assoc]

lemma getStudent_isSome {school : SchoolDB} {schoolId studentId : Ulid} :
    (getStudent school schoolId studentId).isSome ↔
      ∃ s ∈ school.students, s.id = studentId ∧ s.schoolId = schoolId ∧ s.deletedAt = none := by
  simp only [getStudent, Option.isSome_iff_exists, Option.filter_eq_some_iff, Table.get_eq_some,
    decide_eq_true_eq, and_assoc]

lemma linkInsert_kept (h : LinksKept db) {link : ParentLink}
    (hparent : (getParent db.toSchoolDB link.schoolId link.parentId).isSome)
    (hstudent : (getStudent db.toSchoolDB link.schoolId link.studentId).isSome) :
    Yields (ParentLinks.insertRow db link) LinksKept := by
  obtain ⟨p, hp, hpid, hpschool, _⟩ := getParent_isSome.mp hparent
  obtain ⟨s, hs, hsid, hsschool, _⟩ := getStudent_isSome.mp hstudent
  simp only [ParentLinks.insertRow, yields_bind, yields_found, yields_ensure, yields_pure]
  intro links hinsert hfree
  exact {
    parents := Table.forall_insert hinsert h.parents ⟨p, hp, hpid, hpschool⟩
    students := Table.forall_insert hinsert h.students ⟨s, hs, hsid, hsschool⟩
    apart := (Table.excludes_insert samePair_symm hinsert).mpr ⟨h.apart, hfree.1⟩ }

lemma linkDelete_kept (h : LinksKept db) (linkId : Ulid) :
    LinksKept { db with studentParents := db.studentParents.delete linkId } where
  parents := fun l hl => h.parents l (Table.mem_delete.mp hl).1
  students := fun l hl => h.students l (Table.mem_delete.mp hl).1
  apart := h.apart.delete

lemma link_kept (h : LinksKept db) (c : ParentLinkCall) :
    Yields (c.handle env db) LinksKept := by
  obtain ⟨ctx, op⟩ := c
  cases op with
  | link studentId data id =>
    simp only [ParentLinkCall.handle, ParentLinks.linkToStudent, yields_map, yields_bind,
      yields_found, yields_ensureAbsent, yields_parentsAudit, yields_pure]
    intro schoolId _ p hp s hs _ organizationId _
    exact Yields.imp (linkInsert_kept h (Option.isSome_iff_exists.mpr ⟨p, hp⟩)
      (Option.isSome_iff_exists.mpr ⟨s, hs⟩)) fun _ hkept _ => hkept.log _
  | unlink linkId =>
    simp only [ParentLinkCall.handle, ParentLinks.unlinkFromStudent, yields_bind, yields_found,
      yields_parentsAudit]
    exact fun _ _ l _ _ => (linkDelete_kept h l.id).log _

/-- **One request** keeps the links. -/
lemma parents_step_kept (h : LinksKept db) (c : ParentsCall) : LinksKept (c.step env db) := by
  have hhandle : Yields (c.handle env db) LinksKept := by
    cases c with
    | people c =>
      simp only [ParentsCall.handle, yields_bind, yields_pure]
      exact Yields.imp (people_onward c) fun _ hpeople =>
        h.onward (.same hpeople.parents hpeople.students)
    | parent c =>
      simp only [ParentsCall.handle, yields_bind, yields_pure]
      exact Yields.imp parent_onward fun _ hparent => h.onward hparent
    | link c => exact link_kept h c
  unfold ParentsCall.step
  split
  · next db' hok => exact hhandle db' hok
  · exact h

lemma linksKept_start (db : SchoolDB) : LinksKept db.withoutParents where
  parents := fun _ h => absurd h Table.not_mem_empty
  students := fun _ h => absurd h Table.not_mem_empty
  apart := Table.excludes_empty

/-! ### The two sides -/

section Sides

variable {schoolId studentId parentId : Ulid}

lemma LinksKept.school (h : LinksKept db) {l : ParentLink} (hl : l ∈ db.studentParents)
    (hparent : (getParent db.toSchoolDB schoolId l.parentId).isSome) : l.schoolId = schoolId := by
  obtain ⟨p, hp, hid, hschool, _⟩ := getParent_isSome.mp hparent
  obtain ⟨p', hp', hid', hschool'⟩ := h.parents l hl
  rw [← hschool', ← hschool, Table.eq_of_key hp' hp (hid'.trans hid.symm)]

lemma listChildren_ok (h : LinksKept db) (hctx : ctx.schoolId = some schoolId)
    (hparent : (getParent db.toSchoolDB schoolId parentId).isSome) :
    ∃ children, ParentLinks.listChildren ctx db parentId = .ok children ∧
      ∀ l, l ∈ children ↔ l ∈ db.studentParents ∧ l.parentId = parentId ∧
        (getStudent db.toSchoolDB schoolId l.studentId).isSome := by
  obtain ⟨p, hp⟩ := Option.isSome_iff_exists.mp hparent
  have hget : Parents.get ctx db.toSchoolDB parentId = .ok p := by
    simp only [Parents.get, hctx, found, hp, ok_bind]
  refine ⟨_, by simp only [ParentLinks.listChildren, hctx, hget, ok_bind]; rfl, fun l => ?_⟩
  rw [List.mem_filter, mem_shown hctx, decide_eq_true_eq]
  constructor
  · rintro ⟨⟨hl, _⟩, hrest⟩
    exact ⟨hl, hrest⟩
  · rintro ⟨hl, rfl, hstudent⟩
    exact ⟨⟨hl, h.school hl hparent⟩, rfl, hstudent⟩

lemma mem_listParents (h : LinksKept db) (hctx : ctx.schoolId = some schoolId) {l : ParentLink} :
    l ∈ ParentLinks.listParentsForStudent ctx db studentId ↔ l ∈ db.studentParents ∧
      l.studentId = studentId ∧ (getParent db.toSchoolDB schoolId l.parentId).isSome := by
  simp only [ParentLinks.listParentsForStudent, hctx]
  rw [List.mem_filter, mem_shown hctx, decide_eq_true_eq]
  constructor
  · rintro ⟨⟨hl, _⟩, hrest⟩
    exact ⟨hl, hrest⟩
  · rintro ⟨hl, hstudent, hparent⟩
    exact ⟨⟨hl, h.school hl hparent⟩, hstudent, hparent⟩

lemma linkRest_fails (row : Ulid → ParentLink) : Fails
    (do
      let organizationId ← found ctx.organizationId internalError
      let db ← ParentLinks.insertRow db (row organizationId)
      let db ← db.audit env ctx (ParentLinks.linkedEntry (row organizationId))
      return (row organizationId, db)) (· = internalError) := by
  simp only [ParentLinks.insertRow, ParentsDB.audit, SchoolDB.audit, fails_bind, fails_map,
    fails_pure, fails_found, fails_ensure, yields_true, and_true]

lemma linkToStudent_answer (hctx : ctx.schoolId = some schoolId)
    (hstudent : (getStudent db.toSchoolDB schoolId studentId).isSome)
    (hparent : (getParent db.toSchoolDB schoolId parentId).isSome) {data : StudentParentCreate}
    (hdata : data.parentId = parentId) (id : Ulid) :
    ParentLinks.linkToStudent env ctx db studentId data id =
        .error (ParentLinks.alreadyLinked studentId parentId) ↔
      ∃ l ∈ db.studentParents, l.studentId = studentId ∧ l.parentId = parentId := by
  subst hdata
  obtain ⟨p, hp⟩ := Option.isSome_iff_exists.mp hparent
  obtain ⟨s, hs⟩ := Option.isSome_iff_exists.mp hstudent
  have hpair : (∃ l ∈ db.studentParents, l.studentId = studentId ∧ l.parentId = data.parentId) ↔
      (getStudentParentByPair db studentId data.parentId).isSome := by
    simp [getStudentParentByPair, List.find?_isSome, Table.mem_def]
  rw [hpair]
  simp only [ParentLinks.linkToStudent, hctx, found, hp, hs, ok_bind]
  cases hfind : getStudentParentByPair db studentId data.parentId with
  | some l => simp [ensureAbsent]
  | none =>
    simp only [ensureAbsent, ok_bind, Option.isSome_none, Bool.false_eq_true, iff_false]
    intro herror
    have hinternal := linkRest_fails (ParentLinks.linked ctx schoolId · studentId data id) _ herror
    exact absurd (a := 409 = 500) (congrArg ApiError.statusCode hinternal) (by decide)

end Sides

end Links

/-- **The two sides of a link**, after any run of requests on people, parents and links: a student
and a parent of the school who are not deleted are linked for the student exactly when they are for
the parent, by one link at most, and exactly then linking them again is refused as a conflict. -/
theorem parent_sides (env : SchoolEnv) (start : SchoolDB) (calls : List ParentsCall)
    (ctx : RequestContext) (schoolId : Ulid) (hctx : ctx.schoolId = some schoolId) :
    let db := run (ParentsCall.step env) start.withoutParents calls
    LinksKept db ∧ ∀ studentId parentId,
      (getStudent db.toSchoolDB schoolId studentId).isSome →
      (getParent db.toSchoolDB schoolId parentId).isSome →
      ∃ children, ParentLinks.listChildren ctx db parentId = .ok children ∧
        (∀ l, l ∈ children ∧ l.studentId = studentId ↔
          l ∈ ParentLinks.listParentsForStudent ctx db studentId ∧ l.parentId = parentId) ∧
        (∀ l ∈ children, ∀ l' ∈ children, l.studentId = studentId → l'.studentId = studentId →
          l = l') ∧
        ∀ data id, data.parentId = parentId →
          (ParentLinks.linkToStudent env ctx db studentId data id =
              .error (ParentLinks.alreadyLinked studentId parentId) ↔
            ∃ l ∈ children, l.studentId = studentId) := by
  intro db
  have h : LinksKept db := invariant_all (I := LinksKept) (fun _ c h => parents_step_kept h c)
    (linksKept_start start) calls
  refine ⟨h, fun studentId parentId hstudent hparent => ?_⟩
  obtain ⟨children, hlist, hmem⟩ := listChildren_ok h hctx hparent
  refine ⟨children, hlist, fun l => ?_, fun l hl l' hl' hs hs' => ?_, fun data id hdata => ?_⟩
  · rw [hmem, mem_listParents h hctx]
    constructor
    · rintro ⟨⟨hl, rfl, _⟩, rfl⟩
      exact ⟨⟨hl, rfl, hparent⟩, rfl⟩
    · rintro ⟨⟨hl, rfl, _⟩, rfl⟩
      exact ⟨⟨hl, rfl, hstudent⟩, rfl⟩
  · -- Two links of one parent and one student would share an entry of the index.
    obtain ⟨hl, hp, _⟩ := (hmem l).mp hl
    obtain ⟨hl', hp', _⟩ := (hmem l').mp hl'
    by_contra hne
    exact h.apart l hl l' hl' (fun hid => hne (Table.eq_of_key hl hl' hid))
      ⟨hs.trans hs'.symm, hp.trans hp'.symm⟩
  · -- The refusal is by the student's list, which shows the same link.
    rw [linkToStudent_answer hctx hstudent hparent hdata id]
    constructor
    · rintro ⟨l, hl, rfl, rfl⟩
      exact ⟨l, (hmem l).mpr ⟨hl, rfl, hstudent⟩, rfl⟩
    · rintro ⟨l, hl, hs⟩
      obtain ⟨hl, hp, _⟩ := (hmem l).mp hl
      exact ⟨l, hl, hs, hp⟩

lemma noText_length : ∀ s ∈ (none : Option String), s.length ≤ 200 := by simp

/-- Person 63 becomes a parent, of student 71. -/
def fatherOfOne : List ParentsCall :=
  [.parent ⟨staff, ⟨0, 0⟩, .create ⟨63, none, none, noText_length, noText_length⟩ 901⟩,
    .link ⟨staff, .link 71 ⟨901, .father, true, false, true⟩ 911⟩]

theorem parent_sides_father :
    let db := run (ParentsCall.step .plain) smallSchool.withoutParents fatherOfOne
    ParentLinks.linkToStudent .plain staff db 71 ⟨901, .guardian, false, false, true⟩ 912 =
        .error (ParentLinks.alreadyLinked 71 901) ∧
      ∃ children, ParentLinks.listChildren staff db 901 = .ok children ∧
        ∃ l ∈ children, l.studentId = 71 := by
  intro db
  obtain ⟨children, hlist, hsides, -, hagain⟩ := (parent_sides .plain smallSchool fatherOfOne staff
    11 rfl).2 71 901 (by decide +kernel) (by decide +kernel)
  have hmother : ∃ l ∈ ParentLinks.listParentsForStudent staff db 71, l.parentId = 901 := by
    decide +kernel
  obtain ⟨l, hl, hparent⟩ := hmother
  obtain ⟨hmem, hstudent⟩ := (hsides l).mpr ⟨hl, hparent⟩
  have hlinked : ∃ l ∈ children, l.studentId = 71 := ⟨l, hmem, hstudent⟩
  exact ⟨(hagain ⟨901, .guardian, false, false, true⟩ 912 rfl).mpr hlinked, children, hlist,
    hlinked⟩

/-! ### Links of deleted parents -/

section Deleted

variable {env : SchoolEnv} {ctx : RequestContext} {db : ParentsDB} {p : Parent}

lemma getParent_deleted {school : SchoolDB} (hp : p ∈ school.parents)
    (hdeleted : p.deletedAt ≠ none) (schoolId : Ulid) : getParent school schoolId p.id = none := by
  rw [← Option.not_isSome_iff_eq_none, getParent_isSome]
  rintro ⟨p', hp', hid, _, hlive⟩
  exact hdeleted (Table.eq_of_key hp hp' hid.symm ▸ hlive)

lemma mem_of_shown {ρ : Type} {school : ρ → Ulid} {rows : List ρ} {r : ρ}
    (h : r ∈ shown school ctx rows) : r ∈ rows := by
  unfold shown at h
  split at h
  · exact h
  · exact (List.mem_filter.mp h).1

lemma getStudentParent_some {schoolId linkId : Ulid} {l : ParentLink}
    (h : ParentLinks.getStudentParent ctx db schoolId linkId = some l) :
    l ∈ db.studentParents ∧ l.id = linkId ∧
      (getParent db.toSchoolDB schoolId l.parentId).isSome := by
  unfold ParentLinks.getStudentParent at h
  have hkey := List.find?_some h
  rw [decide_eq_true_eq] at hkey
  exact ⟨mem_of_shown (List.mem_of_find?_eq_some h), hkey⟩

/-- **One request** leaves a deleted parent, and the links of the parent, where they are. -/
lemma deleted_step (env : SchoolEnv) (hp : p ∈ db.parents) (hdeleted : p.deletedAt ≠ none)
    (c : ParentsCall) :
    p ∈ (c.step env db).parents ∧
      ∀ l ∈ db.studentParents, l.parentId = p.id → l ∈ (c.step env db).studentParents := by
  have hhandle : Yields (c.handle env db) fun db' => p ∈ db'.parents ∧
      ∀ l ∈ db.studentParents, l.parentId = p.id → l ∈ db'.studentParents := by
    cases c with
    | people c =>
      simp only [ParentsCall.handle, yields_bind, yields_pure]
      exact Yields.imp (people_onward c) fun _ hpeople => ⟨hpeople.parents ▸ hp, fun _ hl _ => hl⟩
    | parent c =>
      simp only [ParentsCall.handle, yields_bind, yields_pure]
      exact Yields.imp parent_onward fun _ hparent =>
        ⟨hparent.deleted p hp hdeleted, fun _ hl _ => hl⟩
    | link c =>
      obtain ⟨ctx, op⟩ := c
      cases op with
      | link studentId data id =>
        simp only [ParentsCall.handle, ParentLinkCall.handle, ParentLinks.linkToStudent,
          ParentLinks.insertRow, yields_map, yields_bind, yields_found, yields_ensureAbsent,
          yields_ensure, yields_parentsAudit, yields_pure]
        intro _ _ _ _ _ _ _ _ _ links hinsert _ _
        exact ⟨hp, fun l hl _ => (Table.mem_of_insert hinsert).mpr (.inl hl)⟩
      | unlink linkId =>
        simp only [ParentsCall.handle, ParentLinkCall.handle, ParentLinks.unlinkFromStudent,
          yields_bind, yields_found, yields_parentsAudit]
        intro schoolId _ link hlink _
        refine ⟨hp, fun l hl hparent => Table.mem_delete.mpr ⟨hl, fun hid => ?_⟩⟩
        -- The link that is removed is of a live parent.
        obtain ⟨hmem, _, hlive⟩ := getStudentParent_some hlink
        rw [← Table.eq_of_key hl hmem hid, hparent, getParent_deleted hp hdeleted] at hlive
        exact absurd hlive (by decide)
  unfold ParentsCall.step
  split
  · next db' hok => exact hhandle db' hok
  · exact ⟨hp, fun _ hl _ => hl⟩

lemma deleted_run (env : SchoolEnv) (hp : p ∈ db.parents) (hdeleted : p.deletedAt ≠ none)
    (calls : List ParentsCall) :
    p ∈ (run (ParentsCall.step env) db calls).parents ∧
      ∀ l ∈ db.studentParents, l.parentId = p.id →
        l ∈ (run (ParentsCall.step env) db calls).studentParents := by
  refine invariant_all (I := fun db' : ParentsDB => p ∈ db'.parents ∧
    ∀ l ∈ db.studentParents, l.parentId = p.id → l ∈ db'.studentParents) (fun db' c h => ?_)
    ⟨hp, fun _ hl _ => hl⟩ calls
  obtain ⟨hstays, hlinks⟩ := deleted_step env h.1 hdeleted c
  exact ⟨hstays, fun l hl hparent => hlinks l (h.2 l hl hparent) hparent⟩

/-- The link of a deleted parent is on no list, and no request removes it. -/
lemma deleted_link (hp : p ∈ db.parents) (hdeleted : p.deletedAt ≠ none) {l : ParentLink}
    (hl : l ∈ db.studentParents) (hparent : l.parentId = p.id) :
    l ∉ ParentLinks.listParentsForStudent ctx db l.studentId ∧
      ParentLinks.unlinkFromStudent env ctx db l.id = .error ParentLinks.linkNotFound := by
  constructor
  · unfold ParentLinks.listParentsForStudent
    cases hctx : ctx.schoolId with
    | none => simp
    | some schoolId =>
      simp only [List.mem_filter, decide_eq_true_eq, not_and, hparent,
        getParent_deleted hp hdeleted]
      exact fun _ _ => by simp
  · unfold ParentLinks.unlinkFromStudent
    cases hctx : ctx.schoolId with
    | none => rfl
    | some schoolId =>
      cases hfind : ParentLinks.getStudentParent ctx db schoolId l.id with
      | none => simp only [found, hfind, ok_bind, error_bind]
      | some link =>
        obtain ⟨hmem, hid, hlive⟩ := getStudentParent_some hfind
        rw [Table.eq_of_key hmem hl hid, hparent, getParent_deleted hp hdeleted] at hlive
        exact absurd hlive (by decide)

/-- The person of a deleted parent stands in the way of a new parent. -/
lemma deleted_create {school : SchoolDB} (hp : p ∈ school.parents)
    (hctx : ctx.schoolId = some p.schoolId) {data : ParentCreate}
    (hdata : data.personId = p.personId) (id : Ulid) (r : Parent × SchoolDB) :
    Parents.create env ctx school data id ≠ .ok r := by
  intro hok
  have hnone : Yields (Parents.create env ctx school data id) fun _ => False := by
    simp only [Parents.create, Parents.insertRow, yields_bind, yields_found, yields_ensureAbsent,
      yields_ensure, yields_audit, yields_pure]
    intro schoolId hschool _ _ _ organizationId _ _ _ hfree _
    refine hfree.1 p hp ⟨?_, hdata.symm⟩
    exact Option.some.inj (hctx.symm.trans hschool)
  exact hnone r hok

end Deleted

/-- **The end of a parent is final**: once a parent is deleted, each link of the parent stays for
ever, on no list and beyond the reach of every request to end it. The parent is linked to nobody
any more, and the person is never again a parent of the school. -/
theorem deleted_parents (env : SchoolEnv) (db : ParentsDB) (calls : List ParentsCall) (p : Parent)
    (hp : p ∈ db.parents) (hdeleted : p.deletedAt ≠ none) :
    let later := run (ParentsCall.step env) db calls
    ∀ ctx : RequestContext,
      (∀ l ∈ db.studentParents, l.parentId = p.id → l ∈ later.studentParents ∧
        l ∉ ParentLinks.listParentsForStudent ctx later l.studentId ∧
        ParentLinks.unlinkFromStudent env ctx later l.id = .error ParentLinks.linkNotFound) ∧
      (∀ schoolId, ctx.schoolId = some schoolId →
        ParentLinks.listChildren ctx later p.id = .error Parents.notFound ∧
        ∀ studentId data id, data.parentId = p.id →
          ParentLinks.linkToStudent env ctx later studentId data id = .error Parents.notFound) ∧
      (ctx.schoolId = some p.schoolId → ∀ data id r, data.personId = p.personId →
        Parents.create env ctx later.toSchoolDB data id ≠ .ok r) := by
  intro later ctx
  obtain ⟨hstays, hlinks⟩ := deleted_run env hp hdeleted calls
  refine ⟨fun l hl hparent => ?_, fun schoolId hctx => ?_, fun hctx data id r hdata => ?_⟩
  · have hmem := hlinks l hl hparent
    exact ⟨hmem, deleted_link hstays hdeleted hmem hparent⟩
  · have hnone := getParent_deleted hstays hdeleted schoolId
    refine ⟨?_, fun studentId data id hdata => ?_⟩
    · simp only [ParentLinks.listChildren, Parents.get, hctx, found, hnone, ok_bind, error_bind,
        later]
    · simp only [ParentLinks.linkToStudent, hctx, found, hdata, hnone, ok_bind, error_bind, later]
  · exact deleted_create hstays hctx hdata id r

/-- The parent of student 71 is deleted. -/
def fatherDeleted : List ParentsCall :=
  fatherOfOne ++ [.parent ⟨staff, ⟨0, 0⟩, .delete 901 1⟩]

/-- The link stays when the student is unlinked, and the person registered, again and again. -/
theorem deleted_parents_father :
    let db := run (ParentsCall.step .plain) smallSchool.withoutParents fatherDeleted
    let later := run (ParentsCall.step .plain) db
      [.link ⟨staff, .unlink 911⟩,
        .parent ⟨staff, ⟨0, 0⟩, .create ⟨63, none, none, noText_length, noText_length⟩ 902⟩]
    (∃ l ∈ later.studentParents, l.studentId = 71 ∧ l.parentId = 901) ∧
      ParentLinks.unlinkFromStudent .plain staff later 911 = .error ParentLinks.linkNotFound := by
  intro db later
  have hrow : ∃ p ∈ db.parents, p.id = 901 ∧ p.deletedAt ≠ none := by decide +kernel
  have hlink : ∃ l ∈ db.studentParents, l.id = 911 ∧ l.studentId = 71 ∧ l.parentId = 901 := by
    decide +kernel
  obtain ⟨p, hp, hpid, hdeleted⟩ := hrow
  obtain ⟨l, hl, hid, hstudent, hparent⟩ := hlink
  obtain ⟨hlinks, -, -⟩ := deleted_parents .plain db [.link ⟨staff, .unlink 911⟩,
    .parent ⟨staff, ⟨0, 0⟩, .create ⟨63, none, none, noText_length, noText_length⟩ 902⟩]
    p hp hdeleted staff
  obtain ⟨hmem, -, hunlink⟩ := hlinks l hl (hparent.trans hpid.symm)
  rw [hid] at hunlink
  refine ⟨⟨l, ?_, hstudent, hparent⟩, ?_⟩
  · simpa only [later] using hmem
  · simpa only [later] using hunlink

end SchoolOs
