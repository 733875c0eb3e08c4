import SchoolOs.Context

/-!
What row-level security leaves visible to a query that forgot its own school filter.
-/

namespace SchoolOs

variable {db : DB} {ord : RowOrder} {clk : Clock}

/-- The settings a resolved context binds show the rows of its active school, or, with no
active school, every row. -/
theorem visible_iff {request : HttpRequest} {ctx : RequestContext} {g : Gucs}
    (h : getContext db ord clk request = .ok (ctx, g)) (row : SchoolScopedRow) :
    visible g row = true ↔ ctx.schoolId = none ∨ ctx.schoolId = some row.schoolId := by
  obtain ⟨u, p, _, _, he⟩ := getContext_ok.mp h
  obtain ⟨rfl, rfl⟩ := Prod.mk.inj he
  have hctx : (contextOf p request).schoolId = p.schoolId := rfl
  rw [visible, hctx]
  cases p.schoolId with
  | none => simp [schoolScopedPolicy_none]
  | some s =>
    rw [schoolScopedPolicy_some]
    simp only [reduceCtorEq, false_or, Option.some.injEq]
    exact eq_comm

/-- **The backstop of row security**: a tenant user with an active school sees the rows of
that school, which is one the user can reach; with no active school the policy stays open. -/
theorem rls_backstop {request : HttpRequest} {ctx : RequestContext} {g : Gucs}
    (h : getContext db ord clk request = .ok (ctx, g)) (ha : ctx.isPlatformAdmin = false) :
    (∀ s, ctx.schoolId = some s → s ∈ ctx.accessibleSchoolIds ∧
      ∀ row, visible g row = true ↔ row.schoolId = s) ∧
    (ctx.schoolId = none → ∀ row, visible g row = true) := by
  refine ⟨?_, ?_⟩
  · intro s hs
    obtain ⟨u, p, _, hp, he⟩ := getContext_ok.mp h
    obtain ⟨rfl, -⟩ := Prod.mk.inj he
    refine ⟨schoolId_mem_accessible hp ha hs, fun row => ?_⟩
    rw [visible_iff h, hs]
    simp only [reduceCtorEq, false_or, Option.some.injEq]
    exact eq_comm
  · intro hs row
    exact (visible_iff h row).mpr (.inl hs)

/-! ### A user of two schools -/

/-- One user with two memberships and no default one, in an organization of three schools. -/
def twoSchools : DB := { DB.empty with
  schools := [⟨11, 101, .active, none⟩, ⟨12, 101, .active, none⟩, ⟨13, 101, .active, none⟩]
  users := [User.new 1 (some "a@b.c") none none .active none]
  memberships := [Membership.new 31 1 101 (some 11) none none false none,
    Membership.new 32 1 101 (some 12) none none false none] }

def twoSchoolsRequest (header : Option String) : HttpRequest := ⟨some 1, header, "r", none, none⟩

lemma twoSchools_context (header : Option String) (s : Option Ulid)
    (h : selectActiveSchool (loadActiveMemberships twoSchools .heap ⟨0, 0⟩ 1)
      (accessibleSchoolIds twoSchools (loadActiveMemberships twoSchools .heap ⟨0, 0⟩ 1) 101)
      header = .ok s) :
    ∃ ctx g, getContext twoSchools .heap ⟨0, 0⟩ (twoSchoolsRequest header) = .ok (ctx, g) ∧
      ctx.isPlatformAdmin = false ∧ ctx.schoolId = s ∧ ctx.accessibleSchoolIds = {11, 12} := by
  have hfirst : (loadActiveMemberships twoSchools .heap ⟨0, 0⟩ 1).head? =
      some (Membership.new 31 1 101 (some 11) none none false none) := by decide
  have hres := (resolvePrincipal_tenant (p := _) (by rfl) (by rfl) hfirst).mpr ⟨_, h, rfl⟩
  refine ⟨_, _, getContext_ok.mpr ⟨1, _, rfl, hres, rfl⟩, rfl, rfl, ?_⟩
  simp only [contextOf, tenantPrincipal]
  decide

/-- With the header, the rows of the school it names. -/
theorem twoSchools_backstop : ∃ ctx g,
    getContext twoSchools .heap ⟨0, 0⟩ (twoSchoolsRequest (some (Ulid.text 12))) =
      .ok (ctx, g) ∧
    (∀ s, ctx.schoolId = some s → s ∈ ctx.accessibleSchoolIds ∧
      ∀ row, visible g row = true ↔ row.schoolId = s) ∧
    (ctx.schoolId = none → ∀ row, visible g row = true) := by
  obtain ⟨ctx, g, h, ha, _⟩ := twoSchools_context _ _ (selectActiveSchool_some.mpr
    (.header (s := 12) (by decide)))
  exact ⟨ctx, g, h, rls_backstop h ha⟩

/-- Without it, also the rows of a school the user cannot reach. -/
theorem twoSchools_open : ¬ ∀ (db : DB) (ord : RowOrder) (clk : Clock) (request : HttpRequest)
    (ctx : RequestContext) (g : Gucs), getContext db ord clk request = .ok (ctx, g) →
    ctx.isPlatformAdmin = false →
    (∃ u ∈ request.identity, loadActiveMemberships db ord clk u ≠ []) →
    ∀ row, visible g row = true → row.schoolId ∈ ctx.accessibleSchoolIds := by
  intro h
  obtain ⟨ctx, g, hctx, ha, hs, hacc⟩ := twoSchools_context none none (by rfl)
  have hrow := h _ _ _ _ _ _ hctx ha ⟨1, rfl, by decide⟩ ⟨"students", by decide, 13⟩
    ((visible_iff hctx _).mpr (.inl hs))
  rw [hacc] at hrow
  revert hrow
  decide

end SchoolOs
