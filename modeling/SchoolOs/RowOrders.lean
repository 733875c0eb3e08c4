import SchoolOs.Confinement
import SchoolOs.Grants
import SchoolOs.PlatformRoles

/-!
Whether the order in which the database hands out rows can show: the first live membership
decides the organization, the first default one the school.
-/

namespace SchoolOs

variable {env : Env} {db : DB} {clk : Clock} {ord ord' : RowOrder} {u : Ulid}

/-- Every order of the rows resolves the request the same. -/
def OrderFree (db : DB) (clk : Clock) (u : Ulid) (req : Option String) : Prop :=
  ∀ ord ord', resolvePrincipal db ord clk u req = resolvePrincipal db ord' clk u req

/-- The memberships are of one organization and, when both are default ones of a school, of one
school. -/
structure Agree (m m' : Membership) : Prop where
  organization : m.organizationId = m'.organizationId
  school : ∀ s s', m.isDefault = true → m.schoolId = some s → m'.isDefault = true →
    m'.schoolId = some s' → s = s'

lemma Agree.symm {m m' : Membership} (h : Agree m m') : Agree m' m where
  organization := h.organization.symm
  school := fun s s' hd hs hd' hs' => (h.school s' s hd' hs' hd hs).symm

lemma Agree.refl (m : Membership) : Agree m m where
  organization := rfl
  school := by
    intro s s' _ hs _ hs'
    exact Option.some.inj (hs.symm.trans hs')

/-! ### What agreeing memberships resolve to -/

lemma defaultSchool_some {ms : List Membership} {s : Ulid} (h : defaultSchool ms = some s) :
    ∃ m ∈ ms, m.isDefault = true ∧ m.schoolId = some s := by
  obtain ⟨m, hm, he⟩ := List.exists_of_findSome?_eq_some h
  split at he
  · next hd => exact ⟨m, hm, hd, he⟩
  · cases he

lemma defaultSchool_none {ms : List Membership} (h : defaultSchool ms = none) {m : Membership}
    (hm : m ∈ ms) (hd : m.isDefault = true) : m.schoolId = none := by
  have hnone := List.findSome?_eq_none_iff.mp h m hm
  rwa [if_pos hd] at hnone

lemma defaultSchool_congr {ms ms' : List Membership} (h : ∀ m, m ∈ ms ↔ m ∈ ms')
    (hag : ∀ m ∈ ms, ∀ m' ∈ ms, Agree m m') : defaultSchool ms = defaultSchool ms' := by
  cases hs : defaultSchool ms with
  | none =>
    cases hs' : defaultSchool ms' with
    | none => rfl
    | some s' =>
      obtain ⟨m, hm, hd, he⟩ := defaultSchool_some hs'
      have hnone := defaultSchool_none hs ((h m).mpr hm) hd
      rw [he] at hnone
      cases hnone
  | some s =>
    obtain ⟨m, hm, hd, he⟩ := defaultSchool_some hs
    cases hs' : defaultSchool ms' with
    | none =>
      have hnone := defaultSchool_none hs' ((h m).mp hm) hd
      rw [he] at hnone
      cases hnone
    | some s' =>
      obtain ⟨m', hm', hd', he'⟩ := defaultSchool_some hs'
      rw [(hag m hm m' ((h m').mpr hm')).school s s' hd he hd' he']

lemma find?_text {acc : List Ulid} {r : String} {s : Ulid} :
    acc.find? (·.text = r) = some s ↔ s ∈ acc ∧ s.text = r := by
  refine ⟨fun h => ⟨List.mem_of_find?_eq_some h, by simpa using List.find?_some h⟩, ?_⟩
  rintro ⟨hmem, rfl⟩
  cases hf : acc.find? (·.text = s.text) with
  | none =>
    have hnot := List.find?_eq_none.mp hf s hmem
    simp at hnot
  | some t =>
    have ht : t.text = s.text := by simpa using List.find?_some hf
    rw [Ulid.text_inj.mp ht]

lemma onlyOne_perm {l l' : List Ulid} (h : l.Perm l') : onlyOne l = onlyOne l' := by
  refine Option.ext fun s => ?_
  rw [onlyOne_eq_some, onlyOne_eq_some]
  refine ⟨fun he => ?_, fun he => ?_⟩
  · subst he
    exact List.perm_singleton.mp h.symm
  · subst he
    exact List.perm_singleton.mp h

lemma selectActiveSchool_congr {ms ms' : List Membership} {acc acc' : List Ulid}
    {req : Option String} (hd : defaultSchool ms = defaultSchool ms') (ha : acc.Perm acc') :
    selectActiveSchool ms acc req = selectActiveSchool ms' acc' req := by
  cases req with
  | some r =>
    have hfind : acc.find? (·.text = r) = acc'.find? (·.text = r) := by
      refine Option.ext fun s => ?_
      rw [find?_text, find?_text, ha.mem_iff]
    simp only [selectActiveSchool, hfind]
  | none =>
    have hmem : ∀ s, s ∈ acc ↔ s ∈ acc' := fun s => ha.mem_iff
    simp only [selectActiveSchool, hd, hmem, onlyOne_perm ha]

lemma accessibleSchoolIds_perm (db : DB) {ms ms' : List Membership} (h : ∀ m, m ∈ ms ↔ m ∈ ms')
    (o : Ulid) : (accessibleSchoolIds db ms o).Perm (accessibleSchoolIds db ms' o) := by
  refine (List.perm_ext_iff_of_nodup (List.nodup_dedup _) (List.nodup_dedup _)).mpr fun s => ?_
  change s ∈ accessibleSchoolIds db ms o ↔ s ∈ accessibleSchoolIds db ms' o
  rw [mem_accessibleSchoolIds, mem_accessibleSchoolIds]
  simp only [h]

lemma tenantPrincipal_congr {user : User} {ms ms' : List Membership} {o : Ulid}
    {acc acc' : List Ulid} {s : Option Ulid} (h : ∀ m, m ∈ ms ↔ m ∈ ms') (ha : acc.Perm acc') :
    tenantPrincipal db ord clk user ms o acc s = tenantPrincipal db ord' clk user ms' o acc' s := by
  have hgrants : collectGrants db ord clk
      (ms.filter fun m => m.schoolId = none ∨ m.schoolId = s) = collectGrants db ord' clk
        (ms'.filter fun m => m.schoolId = none ∨ m.schoolId = s) :=
    collectGrants_congr fun m => by rw [List.mem_filter, List.mem_filter, h m]
  simp only [tenantPrincipal, hgrants, List.toFinset_eq_of_perm _ _ ha]

/-- The memberships that count for the user today agree. -/
def AgreeOn (db : DB) (day : Date) (u : Ulid) : Prop :=
  ∀ m ∈ db.memberships, ∀ m' ∈ db.memberships, m.userId = u → m'.userId = u →
    m.Counts day → m'.Counts day → Agree m m'

/-- When the memberships that count agree, the order of the rows does not show. -/
theorem orderFree_of_agreeOn {req : Option String} (h : SignsIn db u → AgreeOn db clk.today u) :
    OrderFree db clk u req := by
  intro ord ord'
  cases hu : loadUser db u with
  | error e => simp only [resolvePrincipal, hu, error_bind]
  | ok user =>
  by_cases ha : user.isPlatformAdmin = true
  · simp only [resolvePrincipal, hu, ok_bind, if_pos ha]
  have ha : user.isPlatformAdmin = false := by simpa using ha
  have hag := h ⟨user, hu, ha⟩
  have hmem : ∀ m, m ∈ loadActiveMemberships db ord clk u ↔
      m ∈ loadActiveMemberships db ord' clk u := fun m => by
    rw [mem_loadActiveMemberships, mem_loadActiveMemberships]
  have hload : ∀ m ∈ loadActiveMemberships db ord clk u,
      ∀ m' ∈ loadActiveMemberships db ord clk u, Agree m m' := by
    intro m hm m' hm'
    obtain ⟨h1, h2, h3⟩ := mem_load.mp hm
    obtain ⟨h1', h2', h3'⟩ := mem_load.mp hm'
    exact hag m h1 m' h1' h2 h2' h3 h3'
  simp only [resolvePrincipal, hu, ok_bind, ha, Bool.false_eq_true, if_false]
  cases hm : (loadActiveMemberships db ord clk u).head? with
  | none =>
    have hnil : loadActiveMemberships db ord' clk u = [] := by
      refine List.eq_nil_iff_forall_not_mem.mpr fun m hmem' => ?_
      have hmem'' := (hmem m).mpr hmem'
      rw [List.head?_eq_none_iff.mp hm] at hmem''
      exact absurd hmem'' List.not_mem_nil
    simp only [hnil, List.head?_nil]
  | some first =>
    have hfirst : first ∈ loadActiveMemberships db ord clk u := List.mem_of_mem_head? hm
    cases hm' : (loadActiveMemberships db ord' clk u).head? with
    | none =>
      rw [hmem, List.head?_eq_none_iff.mp hm'] at hfirst
      exact absurd hfirst List.not_mem_nil
    | some first' =>
      have hfirst' : first' ∈ loadActiveMemberships db ord clk u :=
        (hmem first').mpr (List.mem_of_mem_head? hm')
      have hacc := accessibleSchoolIds_perm db hmem first.organizationId
      simp only [← (hload first hfirst first' hfirst').organization]
      rw [selectActiveSchool_congr (defaultSchool_congr hmem hload) hacc]
      refine congrArg _ (funext fun s => ?_)
      rw [tenantPrincipal_congr hmem hacc]

/-! ### What the first row decides -/

/-- Without a header some principal is resolved, of the first row's organization, and of its
school when it is a default one. -/
lemma resolves_first (clk : Clock) {m : Membership} (hs : SignsIn db u) (hm : m ∈ db.memberships)
    (hu : m.userId = u) (hc : m.Counts clk.today) :
    ∃ p, resolvePrincipal db (.first m) ⟨0, clk.today⟩ u none = .ok p ∧
      p.organizationId = some m.organizationId ∧
      ∀ s, m.isDefault = true → m.schoolId = some s → p.schoolId = some s := by
  obtain ⟨user, hl, ha⟩ := hs
  have hhead := loadActiveMemberships_first hm hu hc
  obtain ⟨rest, hload⟩ := List.head?_eq_some_iff.mp hhead
  generalize hacc : accessibleSchoolIds db (loadActiveMemberships db (.first m) ⟨0, clk.today⟩ u)
    m.organizationId = acc
  have hsel : ∃ s, selectActiveSchool (loadActiveMemberships db (.first m) ⟨0, clk.today⟩ u) acc
      none = .ok s ∧ ∀ t, m.isDefault = true → m.schoolId = some t → s = some t := by
    simp only [selectActiveSchool]
    split
    · -- The default school is within reach.
      next s hs =>
      refine ⟨some s, rfl, fun t hd ht => ?_⟩
      have hdef := (Option.filter_eq_some_iff.mp hs).1
      rw [hload, defaultSchool, List.findSome?_cons, if_pos hd, ht] at hdef
      exact hdef.symm
    · -- It is not, so that the first row has none.
      next hnone =>
      refine ⟨_, rfl, fun t hd ht => ?_⟩
      have hdef : defaultSchool (loadActiveMemberships db (.first m) ⟨0, clk.today⟩ u) =
          some t := by
        rw [hload, defaultSchool, List.findSome?_cons, if_pos hd, ht]
      have hmem : t ∈ acc := by
        rw [← hacc, hload]
        exact mem_accessibleSchoolIds.mpr (.inl ⟨m, List.mem_cons_self, ht⟩)
      simp [hdef, hmem] at hnone
  obtain ⟨s, hs, hdef⟩ := hsel
  refine ⟨_, (resolvePrincipal_tenant hl ha hhead).mpr ⟨s, hacc ▸ hs, rfl⟩, rfl, ?_⟩
  intro t hd ht
  exact hdef t hd ht

/-- Whoever signs in has agreeing memberships, on every day. -/
def Coherent (db : DB) : Prop := ∀ day u, SignsIn db u → AgreeOn db day u

/-- **The order of the rows does not show, exactly when** the memberships that count for a user
on a day agree. -/
theorem orderFree_iff : (∀ clk u req, OrderFree db clk u req) ↔ Coherent db := by
  refine ⟨fun h day u hs m hm m' hm' hu hu' hc hc' => ?_, fun h clk u req => ?_⟩
  · obtain ⟨p, hp, horg, hsch⟩ := resolves_first ⟨0, day⟩ hs hm hu hc
    obtain ⟨p', hp', horg', hsch'⟩ := resolves_first ⟨0, day⟩ hs hm' hu' hc'
    have hpp : p = p' := by
      have heq := h ⟨0, day⟩ u none (.first m) (.first m')
      rw [hp, hp'] at heq
      exact Except.ok.inj heq
    refine ⟨?_, fun s s' hd ht hd' ht' => ?_⟩
    · rw [hpp, horg'] at horg
      exact (Option.some.inj horg).symm
    · have hs := hsch s hd ht
      rw [hpp, hsch' s' hd' ht'] at hs
      exact (Option.some.inj hs).symm
  · exact orderFree_of_agreeOn (h clk.today u)

/-! ### The operations that assign memberships -/

/-- The operations through which users come to memberships. -/
inductive Assigns : IamOp → Prop
  | createMembership (data : MembershipCreate) (draw : ℕ → Ulid) :
      Assigns (.createMembership data draw)
  | updateMembership (id : Ulid) (data : MembershipUpdate) : Assigns (.updateMembership id data)
  | createUser (data : UserCreate) (userId membershipId : Ulid) (salt : ℕ) :
      Assigns (.createUser data userId membershipId salt)

/-- The row agrees with the other memberships of its user that count on a day it counts. -/
def FitsIn (row : Membership) (db : DB) : Prop :=
  SignsIn db row.userId → ∀ day, ∀ m ∈ db.memberships, m.id ≠ row.id → m.userId = row.userId →
    m.Counts day → row.Counts day → Agree m row

/-- The membership an operation writes, if it goes through, fits in. -/
inductive Orderly (env : Env) (ctx : RequestContext) (db : DB) : IamOp → Prop
  | createMembership {data : MembershipCreate} {draw : ℕ → Ulid} :
      (∀ o, Memberships.Creatable env ctx db data draw o →
        FitsIn (Memberships.newMembership ctx data draw o) db) →
      Orderly env ctx db (.createMembership data draw)
  | updateMembership {id : Ulid} {data : MembershipUpdate} :
      (∀ m, Memberships.getOwned ctx db id = .ok m → m.version = data.version →
        Memberships.Savable env ctx "MEMBERSHIP_UPDATED" m
          { Memberships.applyUpdate data m with updatedById := ctx.userId } →
        FitsIn (Memberships.savedRow m
          { Memberships.applyUpdate data m with updatedById := ctx.userId }) db) →
      Orderly env ctx db (.updateMembership id data)
  | createUser (data : UserCreate) (userId membershipId : Ulid) (salt : ℕ) :
      Orderly env ctx db (.createUser data userId membershipId salt)

/-- **One row written**: a coherent state stays coherent exactly when the row fits in. -/
theorem coherent_write {db' : DB} {row : Membership} (h : Coherent db)
    (hu : db'.users = db.users)
    (hm : ∀ m, m ∈ db'.memberships ↔ m = row ∨ m ∈ db.memberships ∧ m.id ≠ row.id) :
    Coherent db' ↔ FitsIn row db := by
  have hsign : ∀ u, SignsIn db' u ↔ SignsIn db u := fun u => signsIn_congr hu
  refine ⟨fun h' hs day m hmem hne hmu hc hrow => ?_,
    fun hfit day u hs m h1 m' h1' h2 h2' h3 h3' => ?_⟩
  · exact h' day row.userId ((hsign _).mpr hs) m ((hm m).mpr (.inr ⟨hmem, hne⟩)) row
      ((hm row).mpr (.inl rfl)) hmu rfl hc hrow
  · have hs := (hsign u).mp hs
    rcases (hm m).mp h1 with rfl | ⟨hold, hne⟩
    · rcases (hm m').mp h1' with rfl | ⟨hold', hne'⟩
      · exact .refl m'
      · exact (hfit (h2 ▸ hs) day m' hold' hne' (h2'.trans h2.symm) h3' h3).symm
    · rcases (hm m').mp h1' with rfl | ⟨hold', hne'⟩
      · exact hfit (h2' ▸ hs) day m hold hne (h2.trans h2'.symm) h3 h3'
      · exact h day u hs m hold m' hold' h2 h2' h3 h3'

lemma coherent_createUser {ctx : RequestContext} {data : UserCreate}
    {userId membershipId o : Ulid} {salt : ℕ} (hfk : UsersExist db) (h : Coherent db)
    (hc : Users.Creatable env clk ctx db data userId membershipId salt o) :
    Coherent (Users.created env clk ctx db data userId membershipId salt o) := by
  have hfresh : ∀ u ∈ db.users, u.id ≠ userId := fun u hu =>
    hc.freshUser.2 (Users.newUser env clk data userId salt) List.mem_cons_self u hu
  have hmem : ∀ u m, m.userId = u → m ∈ (Users.created env clk ctx db data userId membershipId
      salt o).memberships → if u = userId then m = Users.newMembership ctx data userId
        membershipId o else m ∈ db.memberships := by
    intro u m hmu hm
    rcases List.mem_append.mp hm with hold | hnew
    · obtain ⟨user, hin, hid⟩ := hfk m hold
      have hne : u ≠ userId := fun he => hfresh user hin (hid.trans (hmu.trans he))
      rwa [if_neg hne]
    · obtain rfl := List.mem_singleton.mp hnew
      rw [if_pos (show u = userId from hmu.symm)]
  intro day u hs m hm m' hm' hu hu' hc hc'
  have h1 := hmem u m hu hm
  have h2 := hmem u m' hu' hm'
  by_cases he : u = userId
  · rw [if_pos he] at h1 h2
    rw [h1, h2]
    exact .refl _
  · rw [if_neg he] at h1 h2
    exact h day u (signsIn_of_created he hs) m h1 m' h2 hu hu' hc hc'

lemma mem_created_iff {ctx : RequestContext} {data : MembershipCreate} {draw : ℕ → Ulid} {o : Ulid}
    (hc : Memberships.Creatable env ctx db data draw o) (m : Membership) :
    m ∈ (Memberships.created ctx db data draw o).memberships ↔
      m = Memberships.newMembership ctx data draw o ∨
        m ∈ db.memberships ∧ m.id ≠ (Memberships.newMembership ctx data draw o).id := by
  have hfresh := hc.fresh.2 _ List.mem_cons_self
  refine List.mem_append.trans ⟨?_, ?_⟩
  · rintro (hold | hnew)
    · exact .inr ⟨hold, hfresh m hold⟩
    · exact .inl (List.mem_singleton.mp hnew)
  · rintro (rfl | ⟨hold, _⟩)
    · exact .inr (List.mem_singleton_self _)
    · exact .inl hold

lemma mem_saved_iff {ctx : RequestContext} {action : String} {before m : Membership}
    (hb : before ∈ db.memberships) (hid : (Memberships.savedRow before m).id = before.id)
    (r : Membership) :
    r ∈ (Memberships.saved ctx db action before m).memberships ↔
      r = Memberships.savedRow before m ∨
        r ∈ db.memberships ∧ r.id ≠ (Memberships.savedRow before m).id := by
  refine Tables.mem_set.trans ⟨?_, ?_⟩
  · rintro ⟨r0, hr0, he⟩
    split at he
    · exact .inl he.symm
    · next hne => exact .inr ⟨he ▸ hr0, he ▸ hne⟩
  · rintro (rfl | ⟨hold, hne⟩)
    · exact ⟨before, hb, if_pos hid.symm⟩
    · exact ⟨r, hold, if_neg hne⟩

section Steps

variable {ctx : RequestContext}

/-- A new membership leaves a coherent state coherent exactly when it fits in. -/
lemma coherent_createMembership {data : MembershipCreate} {draw : ℕ → Ulid} (h : Coherent db) :
    Coherent ((IamOp.createMembership data draw).step env clk ctx db) ↔
      Orderly env ctx db (.createMembership data draw) := by
  unfold IamOp.step
  by_cases hgo : ∃ o, Memberships.Creatable env ctx db data draw o
  · obtain ⟨o, hc⟩ := hgo
    have hserve : (IamOp.createMembership data draw).serve env clk ctx db =
        .ok (Memberships.created ctx db data draw o) :=
      bind_ok.mpr ⟨_, Memberships.create_ok.mpr ⟨o, hc, rfl⟩, rfl⟩
    have husers : (Memberships.created ctx db data draw o).users = db.users := rfl
    rw [hserve]
    refine (coherent_write h husers (mem_created_iff hc)).trans
      ⟨fun hfit => .createMembership fun o' hc' => ?_, fun ho => ?_⟩
    · obtain rfl : o = o' := Option.some.inj (hc.organization.symm.trans hc'.organization)
      exact hfit
    · cases ho with
      | createMembership hfit => exact hfit o hc
  · cases hserve : (IamOp.createMembership data draw).serve env clk ctx db with
    | error e => exact iff_of_true h (.createMembership fun o hc => absurd ⟨o, hc⟩ hgo)
    | ok db' =>
      cases serve_effect hserve with
      | membershipCreated o hc => exact absurd ⟨o, hc⟩ hgo

/-- A changed membership leaves a coherent state coherent exactly when it fits in. -/
lemma coherent_updateMembership {id : Ulid} {data : MembershipUpdate} (h : Coherent db) :
    Coherent ((IamOp.updateMembership id data).step env clk ctx db) ↔
      Orderly env ctx db (.updateMembership id data) := by
  unfold IamOp.step
  by_cases hgo : ∃ m, Memberships.getOwned ctx db id = .ok m ∧ m.version = data.version ∧
      Memberships.Savable env ctx "MEMBERSHIP_UPDATED" m
        { Memberships.applyUpdate data m with updatedById := ctx.userId }
  · -- The update goes through.
    obtain ⟨m, hm, hv, hsav⟩ := hgo
    have hmid : (Memberships.savedRow m
        { Memberships.applyUpdate data m with updatedById := ctx.userId }).id = m.id :=
      flushed_col Membership.touch Membership.id (fun _ => rfl) _ _
    have hsave : Memberships.save env ctx db "MEMBERSHIP_UPDATED" m
        { Memberships.applyUpdate data m with updatedById := ctx.userId } = .ok _ :=
      Memberships.save_ok.mpr ⟨hsav, rfl⟩
    have hupdate : Memberships.update env ctx db m data = .ok _ :=
      bind_ok.mpr ⟨(), ensure_ok.mpr hv, hsave⟩
    have hserve : (IamOp.updateMembership id data).serve env clk ctx db =
        .ok (Memberships.saved ctx db "MEMBERSHIP_UPDATED" m
          { Memberships.applyUpdate data m with updatedById := ctx.userId }) :=
      bind_ok.mpr ⟨m, hm, bind_ok.mpr ⟨_, hupdate, rfl⟩⟩
    have husers : (Memberships.saved ctx db "MEMBERSHIP_UPDATED" m
        { Memberships.applyUpdate data m with updatedById := ctx.userId }).users = db.users := rfl
    rw [hserve]
    refine (coherent_write h husers (mem_saved_iff (Memberships.getOwned_mem hm) hmid)).trans
      ⟨fun hfit => .updateMembership fun m' hm' _ _ => ?_, fun ho => ?_⟩
    · obtain rfl : m = m' := Except.ok.inj (hm.symm.trans hm')
      exact hfit
    · cases ho with
      | updateMembership hfit => exact hfit m hm hv hsav
  · -- It is refused.
    cases hserve : (IamOp.updateMembership id data).serve env clk ctx db with
    | error e =>
      exact iff_of_true h (.updateMembership fun m hm hv hs => absurd ⟨m, hm, hv, hs⟩ hgo)
    | ok db' =>
      cases serve_effect hserve with
      | membershipUpdated m hm hv hs => exact absurd ⟨m, hm, hv, hs⟩ hgo

end Steps

/-- **One step**: an operation leaves a coherent state coherent exactly when what it writes fits
in. -/
theorem coherent_step {c : Served} (hop : Assigns c.op) (hfk : UsersExist db) (h : Coherent db) :
    Coherent (c.step env db) ↔ Orderly env c.ctx db c.op := by
  obtain ⟨clk, ctx, op⟩ := c
  cases hop with
  | createMembership data draw => exact coherent_createMembership h
  | updateMembership id data => exact coherent_updateMembership h
  | createUser data userId membershipId salt =>
    refine iff_of_true ?_ (.createUser data userId membershipId salt)
    simp only [Served.step, IamOp.step]
    cases hserve : (IamOp.createUser data userId membershipId salt).serve env clk ctx db with
    | error e => exact h
    | ok db' =>
      cases serve_effect hserve with
      | userCreated o hc => exact coherent_createUser hfk h hc

lemma usersExist_step {c : Served} (h : UsersExist db) : UsersExist (c.step env db) := by
  unfold Served.step IamOp.step
  cases hs : c.op.serve env c.clk c.ctx db with
  | error e => exact h
  | ok db' => exact h.effect (serve_effect hs)

/-- In every state of the run, the order of the rows does not show. -/
def OrderFreeAlong (env : Env) (db : DB) (l : List Served) : Prop :=
  (∀ clk u req, OrderFree db clk u req) ∧ Runs.Along (Served.step env)
    (fun db c => ∀ clk u req, OrderFree (c.step env db) clk u req) db l

/-- **Row-order independence, exactly when**: over a run of operations that assign memberships the
order of the rows never shows if and only if it starts in a coherent state and every membership
written fits in. -/
theorem orderFreeAlong_iff {l : List Served} (hfk : UsersExist db) (hl : ∀ c ∈ l, Assigns c.op) :
    OrderFreeAlong env db l ↔ Coherent db ∧
      Runs.Along (Served.step env) (fun db c => Orderly env c.ctx db c.op) db l := by
  unfold OrderFreeAlong
  simp only [orderFree_iff]
  refine and_congr_right fun h => ?_
  induction l generalizing db with
  | nil => exact Iff.rfl
  | cons c l ih =>
    have hstep : Coherent (c.step env db) ↔ Orderly env c.ctx db c.op :=
      coherent_step (hl c List.mem_cons_self) hfk h
    rw [Runs.along_cons, Runs.along_cons, hstep]
    refine and_congr_right fun ho => ?_
    exact ih (usersExist_step hfk) (fun c' hc' => hl c' (List.mem_cons_of_mem _ hc'))
      (hstep.mpr ho)

/-! ### Two default schools -/

/-- A user of an organization with two schools. -/
def newcomer : DB := { DB.empty with
  schools := [⟨201, 101, .active, none⟩, ⟨202, 101, .active, none⟩]
  users := [User.new 2 (some "d@e.f") none none .active none] }

lemma noRoles_length : ([] : List Ulid).length ≤ 50 := by simp

lemma noDates_ordered : ∀ e ∈ (none : Option Date), ∀ s ∈ (none : Option Date), s ≤ e := by simp

/-- Make the user a member of the school. -/
def assign (schoolId : Ulid) (isDefault : Bool) (n : ℕ) : Served where
  clk := ⟨0, 0⟩
  ctx := tenantCtx
  op := .createMembership ⟨2, some schoolId, none, none, isDefault, [], noRoles_length,
    noDates_ordered⟩
    fun k => Ulid.ofNat (k + n)

lemma newcomer_assigns {b : Bool} :
    ∀ c ∈ [assign 201 true 301, assign 202 b 302], Assigns c.op := by
  intro c hc
  rcases List.mem_pair.mp hc with rfl | rfl <;> exact .createMembership _ _

/-- One default school. -/
theorem newcomer_oneDefault :
    OrderFreeAlong .plain newcomer [assign 201 true 301, assign 202 false 302] := by
  have hfk : UsersExist newcomer := by unfold UsersExist; decide
  refine (orderFreeAlong_iff hfk newcomer_assigns).mpr
    ⟨fun _ _ _ m hm => absurd hm List.not_mem_nil, ?_, ?_, trivial⟩
  · exact .createMembership fun o _ _ _ m hm => absurd hm List.not_mem_nil
  · refine .createMembership fun o hc _ _ m hm _ _ _ _ => ?_
    obtain rfl : 101 = o := Option.some.inj hc.organization
    have hms : ((assign 201 true 301).step .plain newcomer).memberships =
        [Membership.new 301 2 101 (some 201) none none true (some 1)] := by decide
    rw [hms] at hm
    obtain rfl := List.mem_singleton.mp hm
    exact ⟨rfl, fun s s' _ _ hd _ => by cases hd⟩

/-- Two of them. -/
theorem newcomer_twoDefaults : ¬ ∀ (env : Env) (db : DB) (l : List Served), UsersExist db →
    db.memberships = [] → (∀ c ∈ l, Assigns c.op) → OrderFreeAlong env db l := by
  intro h
  have hfk : UsersExist newcomer := by unfold UsersExist; decide
  have hfree : OrderFree _ ⟨0, 0⟩ 2 none := (h .plain newcomer
    [assign 201 true 301, assign 202 true 302] hfk rfl newcomer_assigns).2.2.1 ⟨0, 0⟩ 2 none
  have heq := congrArg (Except.map Principal.schoolId) (hfree
    (.first (Membership.new 301 2 101 (some 201) none none true (some 1)))
    (.first (Membership.new 302 2 101 (some 202) none none true (some 1))))
  revert heq
  decide

end SchoolOs
