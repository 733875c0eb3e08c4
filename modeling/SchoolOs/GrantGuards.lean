import SchoolOs.Context
import SchoolOs.Grants

/-!
Grants and guards together: the collected scopes in closed form, and whom a guard on them lets
pass.
-/

namespace SchoolOs

/-- OWN < ASSIGNED < SCHOOL < ORGANIZATION < PLATFORM. -/
instance : LinearOrder DataScope :=
  LinearOrder.lift' DataScope.strength fun _ _ => DataScope.strength_inj

example : List.Pairwise (· < ·)
    [DataScope.own, .assigned, .school, .organization, .platform] := by decide

lemma strength_le_iff {g g' : DataScope} : g.strength ≤ g'.strength ↔ g ≤ g' := Iff.rfl

/-! ### The collected scopes -/

section Collected

variable {db : DB} {ord ord' : RowOrder} {clk : Clock} {ms ms' : List Membership} {c : String}
  {g : DataScope}

lemma mem_scopes : c ∈ (collectGrants db ord clk ms).1 ↔ ∃ m ∈ ms, Carries db clk m c :=
  Finmap.mem_keys.symm.trans mem_collectGrants

lemma lookup_scopes : (collectGrants db ord clk ms).1.lookup c = some g ↔
    IsGreatest {g | ∃ m ∈ ms, Offers db clk m (c, g)} g := by
  have hbest := collectGrants_best db clk ord ms
  constructor
  · intro hg
    obtain ⟨hoffer, hmax⟩ := hbest.sound c g hg
    exact ⟨hoffer, fun g' hoffer' => hmax g' hoffer'⟩
  · rintro ⟨hoffer, hmax⟩
    obtain ⟨g', hg'⟩ := Finmap.mem_iff.mp (hbest.complete c g hoffer)
    obtain ⟨hoffer', hmax'⟩ := hbest.sound c g' hg'
    have heq : g' = g := le_antisymm (hmax hoffer') (hmax' g hoffer)
    rw [hg', heq]

end Collected

/-! ### The guard -/

lemma guard_ok_iff {ctx : RequestContext} {permission : Permission} {required : Option DataScope}
    (hadmin : ctx.isPlatformAdmin = false) : guard permission required ctx = .ok () ↔
      ∃ g, ctx.permissionScopes.lookup permission.code = some g ∧ ∀ r ∈ required, r ≤ g := by
  have hscope : ctx.effectiveScopeFor permission.code =
      ctx.permissionScopes.lookup permission.code := by
    rw [RequestContext.effectiveScopeFor, hadmin]
    rfl
  simp only [guard, bind_ok, found_ok, ensure_ok, hscope, strength_le_iff]

/-- **Grants in closed form**: a code is collected exactly when something live carries it, with the
greatest scope on offer, in whatever order the rows come; and a guard on what was collected lets
pass those who have the code at its scope or a greater one. -/
theorem collectGrants_exact (db : DB) (ord : RowOrder) (clk : Clock) (ms : List Membership) :
    (∀ c, c ∈ (collectGrants db ord clk ms).1 ↔ ∃ m ∈ ms, Carries db clk m c) ∧
    (∀ c g, (collectGrants db ord clk ms).1.lookup c = some g ↔
      IsGreatest {g | ∃ m ∈ ms, Offers db clk m (c, g)} g) ∧
    (∀ (ord' : RowOrder) (ms' : List Membership), ms'.Perm ms →
      collectGrants db ord' clk ms' = collectGrants db ord clk ms) ∧
    ∀ (ctx : RequestContext) (permission : Permission) (required : Option DataScope),
      ctx.isPlatformAdmin = false → ctx.permissionScopes = (collectGrants db ord clk ms).1 →
        (guard permission required ctx = .ok () ↔
          ∃ g, (collectGrants db ord clk ms).1.lookup permission.code = some g ∧
            ∀ r ∈ required, r ≤ g) := by
  refine ⟨fun c => mem_scopes, fun c g => lookup_scopes,
    fun ord' ms' hperm => collectGrants_congr fun m => hperm.mem_iff, ?_⟩
  intro ctx permission required hadmin hscopes
  rw [guard_ok_iff hadmin, hscopes]

/-- A membership with a role that carries a code, which a link of the role widens to the school. -/
def readerOf : DB := { DB.empty with
  memberships := [Membership.new 301 2 101 (some 201) none none true none]
  roles := [Role.new 6 (some 101) "READER" "Reader" none .school .own none]
  membershipRoles := [⟨401, 301, 6, none, none, none⟩]
  permissions := [⟨7, pUserCreate.code⟩]
  rolePermissions := [⟨8, 6, 7, some .school⟩] }

/-- The reader passes a guard at the scope of the school. -/
theorem reader_passes : guard pUserCreate (some .school) { systemCtx none with
    permissionScopes := (collectGrants readerOf .heap ⟨0, 10⟩ readerOf.memberships).1 } =
      .ok () := by
  have hoffers : Offers readerOf ⟨0, 10⟩ (readerOf.memberships.head (by decide))
      (pUserCreate.code, .school) :=
    ⟨⟨401, 301, 6, none, none, none⟩, by decide, rfl, readerOf.roles.head (by decide),
      ⟨nofun, by decide, by decide⟩, ⟨8, 6, 7, some .school⟩, by decide, rfl,
      ⟨7, pUserCreate.code⟩, by decide, rfl⟩
  refine ((collectGrants_exact readerOf .heap ⟨0, 10⟩ readerOf.memberships).2.2.2 _ pUserCreate
    (some .school) rfl rfl).mpr ?_
  have hbest := collectGrants_best readerOf ⟨0, 10⟩ .heap readerOf.memberships
  have hoffer : ∃ m ∈ readerOf.memberships, Offers readerOf ⟨0, 10⟩ m
      (pUserCreate.code, .school) := ⟨_, List.head_mem _, hoffers⟩
  obtain ⟨g, hg⟩ := Finmap.mem_iff.mp (hbest.complete _ _ hoffer)
  refine ⟨g, hg, fun r hr => ?_⟩
  rw [← Option.mem_some_iff.mp hr]
  exact (hbest.sound _ _ hg).2 _ hoffer

end SchoolOs
