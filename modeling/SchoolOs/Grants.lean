import SchoolOs.Principal

/-!
What `_collect_grants` computes, whatever the order of the rows: for every permission code the
strongest scope on offer, and the codes of the roles that are held.
-/

namespace SchoolOs

variable {db : DB} {ord ord' : RowOrder} {clk : Clock}

lemma DataScope.strength_inj {g g' : DataScope} (h : g.strength = g'.strength) : g = g' := by
  cases g <;> cases g' <;> first | rfl | cases h

/-- The scopes hold for every code the strongest of its offers. -/
structure Scopes.Best (offers : String × DataScope → Prop) (scopes : Scopes) : Prop where
  sound : ∀ c g, scopes.lookup c = some g →
    offers (c, g) ∧ ∀ g', offers (c, g') → g'.strength ≤ g.strength
  complete : ∀ c g, offers (c, g) → c ∈ scopes

lemma Scopes.best_empty : Scopes.Best (fun _ => False) ∅ where
  sound := by
    intro c g h
    rw [Finmap.lookup_empty] at h
    cases h
  complete := fun _ _ h => h.elim

/-- The offers determine the scopes. -/
theorem Scopes.Best.unique {offers : String × DataScope → Prop} {a b : Scopes}
    (ha : a.Best offers) (hb : b.Best offers) : a = b := by
  refine Finmap.ext_lookup fun c => ?_
  cases hac : a.lookup c with
  | none =>
    cases hbc : b.lookup c with
    | none => rfl
    | some g =>
      have hmem : c ∈ a := ha.complete c g (hb.sound c g hbc).1
      exact absurd hmem (Finmap.lookup_eq_none.mp hac)
  | some g =>
    obtain ⟨hoffer, hmax⟩ := ha.sound c g hac
    obtain ⟨g', hbc⟩ := Finmap.mem_iff.mp (hb.complete c g hoffer)
    obtain ⟨hoffer', hmax'⟩ := hb.sound c g' hbc
    have heq : g.strength = g'.strength := le_antisymm (hmax' g hoffer) (hmax g' hoffer')
    rw [hbc, DataScope.strength_inj heq]

lemma Scopes.Best.insert {offers : String × DataScope → Prop} {scopes : Scopes} {c : String}
    {g : DataScope} (h : scopes.Best offers)
    (hg : ∀ g', offers (c, g') → g'.strength ≤ g.strength) :
    Scopes.Best (fun o => offers o ∨ o = (c, g)) (scopes.insert c g) where
  sound := by
    intro c' g' hl
    by_cases hc : c' = c
    · subst hc
      rw [Finmap.lookup_insert, Option.some.injEq] at hl
      subst hl
      refine ⟨.inr rfl, fun g' ho => ?_⟩
      rcases ho with ho | ho
      · exact hg g' ho
      · rw [(Prod.mk.inj ho).2]
    · rw [Finmap.lookup_insert_of_ne _ hc] at hl
      obtain ⟨ho, hmax⟩ := h.sound c' g' hl
      refine ⟨.inl ho, fun g'' ho' => ?_⟩
      rcases ho' with ho' | ho'
      · exact hmax g'' ho'
      · exact absurd (Prod.mk.inj ho').1 hc
  complete := by
    intro c' g' ho
    rw [Finmap.mem_insert]
    rcases ho with ho | ho
    · exact .inr (h.complete c' g' ho)
    · exact .inl (Prod.mk.inj ho).1

lemma Scopes.Best.keep {offers : String × DataScope → Prop} {scopes : Scopes} {c : String}
    {g best : DataScope} (h : scopes.Best offers) (hl : scopes.lookup c = some best)
    (hg : g.strength ≤ best.strength) :
    Scopes.Best (fun o => offers o ∨ o = (c, g)) scopes where
  sound := by
    intro c' g' hl'
    obtain ⟨ho, hmax⟩ := h.sound c' g' hl'
    refine ⟨.inl ho, fun g'' ho' => ?_⟩
    rcases ho' with ho' | ho'
    · exact hmax g'' ho'
    · obtain ⟨rfl, rfl⟩ := Prod.mk.inj ho'
      rw [hl] at hl'
      rwa [← Option.some.inj hl']
  complete := by
    intro c' g' ho
    rcases ho with ho | ho
    · exact h.complete c' g' ho
    · rw [(Prod.mk.inj ho).1]
      exact Finmap.mem_of_lookup_eq_some hl

/-! ### Offers -/

/-- What a permission link offers under the scope of the grant. -/
def LinkOffers (db : DB) (grantScope : DataScope) (permLink : RolePermission)
    (offer : String × DataScope) : Prop :=
  ∃ p, Tables.get PermissionRow.id permLink.permissionId db.permissions = some p ∧
    offer = (p.code, permLink.dataScope.getD grantScope)

/-- A role link that counts, with its role: it has not expired, and the role is not archived. -/
def Grants (db : DB) (clk : Clock) (link : MembershipRole) (role : Role) : Prop :=
  (∀ e, link.expiresAt = some e → clk.now < e) ∧
    Tables.get Role.id link.roleId db.roles = some role ∧ role.archivedAt = none

/-- What a role link offers. -/
def RoleOffers (db : DB) (clk : Clock) (link : MembershipRole) (offer : String × DataScope) :
    Prop :=
  ∃ role, Grants db clk link role ∧ ∃ permLink ∈ db.rolePermissions, permLink.roleId = role.id ∧
    LinkOffers db (link.dataScope.getD role.dataScope) permLink offer

/-- What a membership offers. -/
def Offers (db : DB) (clk : Clock) (m : Membership) (offer : String × DataScope) : Prop :=
  ∃ link ∈ db.membershipRoles, link.membershipId = m.id ∧ RoleOffers db clk link offer

lemma expired_iff {clk : Clock} {link : MembershipRole} :
    link.expiresAt.any (· ≤ clk.now) = false ↔
      ∀ e, link.expiresAt = some e → clk.now < e := by
  cases link.expiresAt <;> simp

lemma grants_iff {link : MembershipRole} {role role' : Role}
    (hlive : ∀ e, link.expiresAt = some e → clk.now < e)
    (hr : Tables.get Role.id link.roleId db.roles = some role) (ha : role.archivedAt = none) :
    Grants db clk link role' ↔ role' = role := by
  refine ⟨fun h => ?_, fun he => ?_⟩
  · exact (Option.some.inj (hr.symm.trans h.2.1)).symm
  · exact he ▸ ⟨hlive, hr, ha⟩

lemma best_addPermission (db : DB) (grantScope : DataScope) (offers : String × DataScope → Prop)
    (scopes : Scopes) (permLink : RolePermission) (h : scopes.Best offers) :
    Scopes.Best (fun o => offers o ∨ LinkOffers db grantScope permLink o)
      (addPermission db grantScope scopes permLink) := by
  unfold addPermission LinkOffers
  cases hp : Tables.get PermissionRow.id permLink.permissionId db.permissions with
  | none => simpa using h
  | some p =>
    simp only [Option.some.injEq, exists_eq_left']
    split
    · next hl =>
      refine h.insert fun g' ho => ?_
      exact absurd (h.complete _ _ ho) (Finmap.lookup_eq_none.mp hl)
    · next best hl =>
      split
      · next hlt =>
        refine h.insert fun g' ho => ?_
        exact le_trans ((h.sound _ _ hl).2 g' ho) (Nat.le_of_lt hlt)
      · next hge => exact h.keep hl (Nat.le_of_not_lt hge)

lemma best_of_no_offers {offers more : String × DataScope → Prop} {scopes : Scopes}
    (hno : ∀ o, ¬ more o) (h : scopes.Best offers) :
    Scopes.Best (fun o => offers o ∨ more o) scopes := by
  simpa [hno] using h

lemma best_addLink (db : DB) (ord : RowOrder) (clk : Clock) (offers : String × DataScope → Prop)
    (acc : Scopes × Finset String) (link : MembershipRole) (h : acc.1.Best offers) :
    Scopes.Best (fun o => offers o ∨ RoleOffers db clk link o)
      (addLink db ord clk acc link).1 := by
  unfold addLink
  split
  · next hexp =>
    refine best_of_no_offers ?_ h
    rintro o ⟨role, ⟨hlive, _⟩, _⟩
    rw [← expired_iff, hexp] at hlive
    cases hlive
  next hexp =>
  have hlive := expired_iff.mp (Bool.not_eq_true _ ▸ hexp)
  split
  · next hr =>
    refine best_of_no_offers ?_ h
    rintro o ⟨role, ⟨_, hr', _⟩, _⟩
    rw [hr] at hr'
    cases hr'
  next role hr =>
  split
  · next ha =>
    refine best_of_no_offers ?_ h
    rintro o ⟨role', ⟨_, hr', harch⟩, _⟩
    obtain rfl := Option.some.inj (hr.symm.trans hr')
    exact ha harch
  · next ha =>
    have hgrants : ∀ role', Grants db clk link role' ↔ role' = role := fun _ =>
      grants_iff hlive hr (not_not.mp ha)
    have hfold := Runs.collects (best_addPermission db (link.dataScope.getD role.dataScope)) h
      (permissionLinks db ord role)
    simpa [RoleOffers, hgrants, permissionLinks, (ord.permissionLinks_perm _).mem_iff, and_assoc,
      Runs.run] using hfold

/-- **The scopes `_collect_grants` returns** are the strongest the memberships offer. -/
theorem collectGrants_best (db : DB) (clk : Clock) (ord : RowOrder) (ms : List Membership) :
    Scopes.Best (fun o => ∃ m ∈ ms, Offers db clk m o) (collectGrants db ord clk ms).1 := by
  have hlinks : ∀ (offers : String × DataScope → Prop) (acc : Scopes × Finset String)
      (m : Membership), acc.1.Best offers →
      Scopes.Best (fun o => offers o ∨ Offers db clk m o)
        ((roleLinks db ord m).foldl (addLink db ord clk) acc).1 := by
    intro offers acc m h
    have hfold := Runs.collects (M := fun offers (acc : Scopes × Finset String) =>
      acc.1.Best offers) (best_addLink db ord clk) h (roleLinks db ord m)
    simpa [Offers, roleLinks, (ord.roleLinks_perm _).mem_iff, and_assoc, Runs.run] using hfold
  have hfold := Runs.collects (M := fun offers (acc : Scopes × Finset String) =>
    acc.1.Best offers) hlinks (s := (∅, ∅)) Scopes.best_empty ms
  simpa [Runs.run, collectGrants] using hfold

/-! ### Role codes -/

/-- The membership holds a role of that code. -/
def HoldsRole (db : DB) (clk : Clock) (m : Membership) (code : String) : Prop :=
  ∃ link ∈ db.membershipRoles, link.membershipId = m.id ∧
    ∃ role, Grants db clk link role ∧ role.code = code

lemma mem_addLink_codes (db : DB) (ord : RowOrder) (clk : Clock) (c : String)
    (acc : Scopes × Finset String) (link : MembershipRole) :
    c ∈ (addLink db ord clk acc link).2 ↔
      c ∈ acc.2 ∨ ∃ role, Grants db clk link role ∧ role.code = c := by
  unfold addLink
  split
  · next hexp => simp [Grants, ← expired_iff, hexp]
  next hexp =>
  have hlive := expired_iff.mp (Bool.not_eq_true _ ▸ hexp)
  split
  · next hr => simp [Grants, hr]
  next role hr =>
  split
  · next ha => simp [Grants, hr, ha]
  · next ha =>
    simp only [grants_iff hlive hr (not_not.mp ha), exists_eq_left, Finset.mem_insert]
    rw [or_comm, eq_comm]

/-- **The role codes `_collect_grants` returns** are those a membership of the list holds. -/
theorem mem_roleCodes {ms : List Membership} {c : String} :
    c ∈ (collectGrants db ord clk ms).2 ↔ ∃ m ∈ ms, HoldsRole db clk m c := by
  have hlinks : ∀ (acc : Scopes × Finset String) (m : Membership),
      c ∈ ((roleLinks db ord m).foldl (addLink db ord clk) acc).2 ↔
        c ∈ acc.2 ∨ HoldsRole db clk m c := by
    intro acc m
    have hgather := Runs.gathers (M := fun acc : Scopes × Finset String => c ∈ acc.2)
      (mem_addLink_codes db ord clk c) (roleLinks db ord m) acc
    simp only [Runs.run] at hgather
    rw [hgather]
    simp [HoldsRole, roleLinks, (ord.roleLinks_perm _).mem_iff, and_assoc]
  have hgather := Runs.gathers (M := fun acc : Scopes × Finset String => c ∈ acc.2)
    hlinks ms (∅, ∅)
  simpa [Runs.run, collectGrants] using hgather

/-- **Order does not matter**: the grants depend on which memberships there are. -/
theorem collectGrants_congr {ms ms' : List Membership} (h : ∀ m, m ∈ ms ↔ m ∈ ms') :
    collectGrants db ord clk ms = collectGrants db ord' clk ms' := by
  refine Prod.ext ?_ ?_
  · have hms := collectGrants_best db clk ord ms
    simp only [h] at hms
    exact hms.unique (collectGrants_best db clk ord' ms')
  · ext c
    simp only [mem_roleCodes, h]

end SchoolOs
