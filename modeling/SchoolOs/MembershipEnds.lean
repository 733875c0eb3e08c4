import SchoolOs.Confinement
import SchoolOs.Escalation

/-!
The end of a membership. It writes today's date over the end date, which the database refuses when
the membership has not begun; once written, it closes the membership to every later request of its
user, until an update opens it again.
-/

namespace SchoolOs

open Runs

variable {env : Env} {clk : Clock} {ctx : RequestContext} {db : DB} {id : Ulid} {m : Membership}

/-! ### What is asked of an end -/

/-- The state as if the membership and its role links had never been there. -/
def DB.withoutMembership (db : DB) (id : Ulid) : DB :=
  { db with
    memberships := db.memberships.filter (·.id ≠ id)
    membershipRoles := db.membershipRoles.filter (·.membershipId ≠ id) }

/-- The membership gives nobody anything, on any day: principals resolve as if it were not there. -/
def GivesNothing (id : Ulid) (db : DB) : Prop :=
  ∀ ord clk userId requested, resolvePrincipal db ord clk userId requested =
    resolvePrincipal (db.withoutMembership id) ord clk userId requested

/-- The request is an update of the membership. -/
def ApiCall.Edits (id : Ulid) (call : ApiCall) : Prop :=
  ∃ c data, call = .iam c ∧ c.op = .updateMembership id data

/-- The end goes through, and from then on the membership gives nothing, in every run of requests
that do not update it. -/
def EndsForGood (env : Env) (clk : Clock) (ctx : RequestContext) (db : DB) (m : Membership) :
    Prop :=
  ∃ r, Memberships.endMembership env clk ctx db m m.version = .ok r ∧
    ∀ later : List ApiCall, (∀ call ∈ later, ¬ call.Edits m.id) →
      GivesNothing m.id (run (ApiCall.step env) r.2 later)

/-- The membership has begun, and the request fits the audit table. -/
structure Endable (clk : Clock) (ctx : RequestContext) (m : Membership) : Prop where
  begun : ∀ s ∈ m.startDate, s ≤ clk.today
  requestId : varchar 64 (if ctx.requestId = "" then none else some ctx.requestId) = true
  ipAddress : varchar 45 ctx.ipAddress = true

/-- Stored notes have no NUL. -/
def NotesStored (db : DB) : Prop := ∀ m ∈ db.memberships, ∀ n ∈ m.notes, bindable n = true

/-- The membership is there, and is not ACTIVE. -/
structure Closed (id : Ulid) (db : DB) : Prop where
  present : ∃ m ∈ db.memberships, m.id = id
  inactive : ∀ m ∈ db.memberships, m.id = id → m.status ≠ .active

/-! ### Principals without the membership -/

section Principals

variable {ord : RowOrder} {userId : Ulid}

lemma loadActive_without (h : ∀ m ∈ db.memberships, m.id = id → m.status ≠ .active) :
    loadActiveMemberships (db.withoutMembership id) ord clk userId =
      loadActiveMemberships db ord clk userId := by
  have hsame : (db.withoutMembership id).memberships.filter
      (fun m => m.userId = userId ∧ m.status = .active) =
        db.memberships.filter (fun m => m.userId = userId ∧ m.status = .active) := by
    rw [DB.withoutMembership, List.filter_filter]
    refine List.filter_congr fun m hm => ?_
    by_cases hactive : m.status = .active
    · have hne : m.id ≠ id := fun hid => h m hm hid hactive
      simp [hne]
    · simp [hactive]
  rw [loadActiveMemberships, loadActiveMemberships, hsame]

lemma roleLinks_without (hne : m.id ≠ id) :
    roleLinks (db.withoutMembership id) ord m = roleLinks db ord m := by
  have hsame : (db.withoutMembership id).membershipRoles.filter (·.membershipId = m.id) =
      db.membershipRoles.filter (·.membershipId = m.id) := by
    rw [DB.withoutMembership, List.filter_filter]
    refine List.filter_congr fun l _ => ?_
    by_cases hl : l.membershipId = m.id
    · simp [hl, hne]
    · simp [hl]
  rw [roleLinks, roleLinks, hsame]

lemma collectGrants_without {ms : List Membership} (h : ∀ m ∈ ms, m.id ≠ id) :
    collectGrants (db.withoutMembership id) ord clk ms = collectGrants db ord clk ms := by
  refine List.foldl_ext _ _ _ fun acc m hm => ?_
  rw [roleLinks_without (h m hm)]
  rfl

/-- A membership that is not ACTIVE takes no part in what is resolved. -/
lemma givesNothing_of_inactive (h : ∀ m ∈ db.memberships, m.id = id → m.status ≠ .active) :
    GivesNothing id db := by
  intro ord clk userId requested
  have hload : loadActiveMemberships (db.withoutMembership id) ord clk userId =
      loadActiveMemberships db ord clk userId := loadActive_without h
  have hne : ∀ m ∈ loadActiveMemberships db ord clk userId, m.id ≠ id := by
    intro m hm hid
    obtain ⟨hmem, -, hactive, -⟩ := mem_loadActiveMemberships.mp hm
    exact h m hmem hid hactive
  have htenant : ∀ user o accessible active,
      tenantPrincipal (db.withoutMembership id) ord clk user
          (loadActiveMemberships db ord clk userId) o accessible active =
        tenantPrincipal db ord clk user (loadActiveMemberships db ord clk userId) o accessible
          active := by
    intro user o accessible active
    rw [tenantPrincipal, tenantPrincipal, collectGrants_without]
    exact fun m hm => hne m (List.mem_filter.mp hm).1
  have hgroup : resolvePrincipal (db.withoutMembership id) ord clk userId requested =
      resolvePrincipal db ord clk userId requested := by
    simp only [resolvePrincipal, hload, htenant]
    rfl
  exact hgroup.symm

end Principals

/-! ### Requests of the authentication routes -/

section Auth

variable {α : Type}

lemma transaction_memberships {body : Fallible (α × DB)}
    (h : ∀ r, body = .ok r → r.2.memberships = db.memberships) :
    (Outcome.transaction db body).db.memberships = db.memberships := by
  cases hbody : body with
  | ok r => exact h r hbody
  | error e => rfl

lemma noContent_memberships {body : Fallible DB}
    (h : ∀ db', body = .ok db' → db'.memberships = db.memberships) :
    (Outcome.noContent (α := α) db body).db.memberships = db.memberships := by
  refine transaction_memberships fun r hr => ?_
  obtain ⟨db', hdb', rfl⟩ := map_ok.mp hr
  exact h db' hdb'

lemma recorded_memberships {db0 : DB} {userId : Option Ulid} {identifier : String}
    {ipAddress : Option String} {success : Bool} {rest : DB → Outcome α}
    (h0 : db0.memberships = db.memberships)
    (h : ∀ db', db'.memberships = db.memberships → (rest db').db.memberships = db.memberships) :
    (Outcome.after db0 (recordAttempt clk db0 userId identifier ipAddress success)
      rest).db.memberships = db.memberships := by
  cases hrec : recordAttempt clk db0 userId identifier ipAddress success with
  | error e => exact h0
  | ok db' =>
    simp only [recordAttempt, bind_ok, ensure_ok, pure_ok] at hrec
    obtain ⟨_, _, _, _, rfl⟩ := hrec
    exact h _ h0

lemma login_memberships (data : LoginRequest) (ipAddress userAgent : Option String)
    (familyId : Ulid) (draw : TokenDraw) :
    (login env clk db data ipAddress userAgent familyId draw).db.memberships = db.memberships := by
  unfold login
  split
  · rfl
  split
  · exact recorded_memberships rfl fun db' hdb' => hdb'
  · split
    · exact recorded_memberships rfl fun db' hdb' => hdb'
    split
    · exact recorded_memberships rfl fun db' hdb' => hdb'
    split
    · exact recorded_memberships rfl fun db' hdb' => hdb'
    · refine recorded_memberships rfl fun db' hdb' => ?_
      rw [← hdb']
      refine transaction_memberships fun r hr => ?_
      simp only [completeLogin, bind_ok, audit_ok, ensure_ok, pure_ok] at hr
      obtain ⟨_, ⟨_, rfl⟩, _, _, rfl⟩ := hr
      rfl

lemma refresh_memberships (data : RefreshRequest) (ipAddress userAgent : Option String)
    (draw : TokenDraw) :
    (refresh env clk db data ipAddress userAgent draw).db.memberships = db.memberships := by
  unfold refresh
  split
  · rfl
  split
  · rfl
  split
  · rfl
  split
  · rfl
  split
  · rfl
  · refine transaction_memberships fun r hr => ?_
    simp only [rotate, bind_ok, ensure_ok, pure_ok] at hr
    obtain ⟨_, _, rfl⟩ := hr
    rfl

/-- No request of the authentication routes touches a membership. -/
theorem auth_memberships (call : AuthCall) : (call.step env db).memberships = db.memberships := by
  unfold AuthCall.step AuthCall.handle
  cases call.op with
  | login data familyId draw => exact login_memberships _ _ _ _ _
  | refresh data draw => exact refresh_memberships _ _ _ _
  | logout data =>
    refine noContent_memberships fun db' h => ?_
    obtain ⟨ctx, -, hout⟩ := bind_ok.mp h
    unfold logout at hout
    split at hout
    · -- No token: nothing is written.
      rw [← pure_ok.mp hout]
    · obtain ⟨-, rfl⟩ := audit_ok.mp hout
      rfl
  | requestPasswordReset data draw =>
    refine noContent_memberships fun db' h => ?_
    obtain ⟨_, _, hout⟩ := bind_ok.mp h
    split at hout
    · rw [← pure_ok.mp hout]
    · obtain ⟨_, _, hout⟩ := bind_ok.mp hout
      obtain ⟨-, rfl⟩ := audit_ok.mp hout
      rfl
  | confirmPasswordReset data salt =>
    refine noContent_memberships fun db' h => ?_
    simp only [confirmPasswordReset, bind_ok, found_ok, ensure_ok, audit_ok] at h
    obtain ⟨_, _, _, _, _, _, _, _, _, rfl⟩ := h
    rfl
  | changePassword data salt =>
    refine noContent_memberships fun db' h => ?_
    simp only [changePassword, bind_ok, found_ok, ensure_ok, audit_ok] at h
    obtain ⟨_, _, _, _, _, _, _, rfl⟩ := h
    rfl

end Auth

/-! ### Requests of the administration routes -/

/-- What a request of the administration routes does to the memberships: nothing; it adds one, with
a new id; or it writes one over, as an update of it, or as its end. -/
inductive MembershipsChange (op : IamOp) (db db' : DB) : Prop
  | kept : db'.memberships = db.memberships → MembershipsChange op db db'
  | added (row : Membership) : db'.memberships = db.memberships ++ [row] →
      (∀ m ∈ db.memberships, m.id ≠ row.id) → row.notes = none → MembershipsChange op db db'
  | written (row : Membership) :
      db'.memberships = Tables.set Membership.id row.id (fun _ => row) db.memberships →
      (∀ n ∈ row.notes, bindable n = true) →
      row.status = .ended ∨ (∃ data, op = .updateMembership row.id data) →
      MembershipsChange op db db'

lemma savedRow_id (before m : Membership) : (Memberships.savedRow before m).id = m.id :=
  savedRow_col Membership.id (fun _ => rfl) before m

lemma fresh_of_inserts {rows : List Membership} (h : Tables.Inserts Membership.id [m] rows) :
    ∀ r ∈ rows, r.id ≠ m.id :=
  fun r hr => h.2 m (List.mem_singleton_self m) r hr

lemma membershipsChange {op : IamOp} {db' : DB} (h : IamEffect env clk ctx db op db') :
    MembershipsChange op db db' := by
  cases h with
  | membershipCreated o hc => exact .added _ rfl (fresh_of_inserts hc.fresh) rfl
  | @membershipUpdated id data m hm _ hs =>
    obtain ⟨o, -, hget⟩ := Memberships.getOwned_ok.mp hm
    have hid : (Memberships.savedRow m
        { Memberships.applyUpdate data m with updatedById := ctx.userId }).id = id :=
      (savedRow_id _ _).trans (Memberships.getMembership_some hget).2.1
    exact .written _ rfl hs.notes (.inr ⟨data, by rw [hid]⟩)
  | membershipEnded m hm _ hs =>
    exact .written _ rfl hs.notes (.inl (savedRow_col Membership.status (fun _ => rfl) _ _))
  | userCreated o hc => exact .added _ rfl (fresh_of_inserts hc.freshMembership) rfl
  | userUpdated u entry r _ _ hs | userDeleted u entry r _ _ hs =>
    exact .kept (Users.save_keeps hs).1
  | platformAdminToggled u r _ ht =>
    simp only [Users.togglePlatformAdmin, bind_ok] at ht
    obtain ⟨_, _, _, _, hs⟩ := ht
    exact .kept (Users.save_keeps hs).1
  | roleGranted _ _ _ _ _ _ _ _ | roleRevoked _ _ _ _ => exact .kept rfl
  | roleCreated hf | roleUpdated hf | roleDeleted hf =>
    obtain ⟨_, _, _, rfl⟩ := hf
    exact .kept rfl

lemma MembershipsChange.notes {op : IamOp} {db' : DB} (h : MembershipsChange op db db')
    (hdb : NotesStored db) : NotesStored db' := by
  cases h with
  | kept h => rwa [NotesStored, h]
  | added row h _ hnone =>
    intro m hm n hn
    rw [h] at hm
    rcases List.mem_append.mp hm with hold | hnew
    · exact hdb m hold n hn
    · rw [List.mem_singleton.mp hnew, hnone] at hn
      cases hn
  | written row h hnotes _ =>
    intro m hm n hn
    rw [h] at hm
    obtain ⟨m0, hm0, he⟩ := Tables.mem_set.mp hm
    split at he
    · exact hnotes n (he ▸ hn)
    · exact hdb m0 hm0 n (he ▸ hn)

/-- A membership that is closed stays so, short of an update of it. -/
lemma MembershipsChange.closed {op : IamOp} {db' : DB} (h : MembershipsChange op db db')
    (hop : ∀ data, op ≠ .updateMembership id data) (hdb : Closed id db) : Closed id db' := by
  obtain ⟨m0, hm0, hid0⟩ := hdb.present
  cases h with
  | kept h => exact ⟨h ▸ hdb.present, h ▸ hdb.inactive⟩
  | added row h hfresh _ =>
    refine ⟨⟨m0, h ▸ List.mem_append_left _ hm0, hid0⟩, fun m hm hid => ?_⟩
    rw [h] at hm
    rcases List.mem_append.mp hm with hold | hnew
    · exact hdb.inactive m hold hid
    · rw [List.mem_singleton.mp hnew] at hid
      exact absurd (hid0.trans hid.symm) (hfresh m0 hm0)
  | written row h _ hwhy =>
    refine ⟨?_, fun m hm hid => ?_⟩
    · have hmem : m0.id ∈ db'.memberships.map Membership.id := by
        rw [h, Tables.map_key_set_row rfl]
        exact List.mem_map_of_mem hm0
      obtain ⟨m1, hm1, hid1⟩ := List.mem_map.mp hmem
      exact ⟨m1, hm1, hid1.trans hid0⟩
    · rw [h] at hm
      obtain ⟨m1, hm1, he⟩ := Tables.mem_set.mp hm
      split at he
      · rw [← he] at hid ⊢
        rcases hwhy with hended | ⟨data, hdata⟩
        · rw [hended]
          decide
        · exact absurd (hid ▸ hdata) (hop data)
      · exact hdb.inactive m (he ▸ hm1) hid

/-! ### Runs -/

lemma notesStored_step (db : DB) (call : ApiCall) (hdb : NotesStored db) :
    NotesStored (call.step env db) := by
  cases call with
  | iam call =>
    rcases IamCall.step_cases env db call with he | ⟨ctx, db', _, hserve, he⟩
    · rwa [ApiCall.step, he]
    · rw [ApiCall.step, he]
      exact (membershipsChange (serve_effect hserve)).notes hdb
  | auth call =>
    intro m hm
    rw [ApiCall.step, auth_memberships] at hm
    exact hdb m hm

lemma closed_step (db : DB) (call : ApiCall) (hcall : ¬ call.Edits id) (hdb : Closed id db) :
    Closed id (call.step env db) := by
  cases call with
  | iam call =>
    have hop : ∀ data, call.op ≠ .updateMembership id data :=
      fun data h => hcall ⟨call, data, rfl, h⟩
    rcases IamCall.step_cases env db call with he | ⟨ctx, db', _, hserve, he⟩
    · rwa [ApiCall.step, he]
    · rw [ApiCall.step, he]
      exact (membershipsChange (serve_effect hserve)).closed hop hdb
  | auth call =>
    have hsame : (ApiCall.step env db (.auth call)).memberships = db.memberships :=
      auth_memberships call
    exact ⟨hsame ▸ hdb.present, hsame ▸ hdb.inactive⟩

/-! ### Ends -/

/-- The row that an end flushes. -/
def Membership.ending (clk : Clock) (ctx : RequestContext) (m : Membership) : Membership :=
  { m with status := .ended, endDate := some clk.today, updatedById := ctx.userId }

lemma endMembership_ok {r : Membership × DB} :
    Memberships.endMembership env clk ctx db m m.version = .ok r ↔
      Memberships.Savable env ctx "MEMBERSHIP_ENDED" m (m.ending clk ctx) ∧
        r = (Memberships.savedRow m (m.ending clk ctx),
          Memberships.saved ctx db "MEMBERSHIP_ENDED" m (m.ending clk ctx)) := by
  have hversion : ensure (m.version = m.version) staleResourceError = .ok () := ensure_ok.mpr rfl
  rw [← Memberships.save_ok, Memberships.endMembership, hversion]
  rfl

lemma savable_ending (hencodes : ∀ v, env.encodes v = true)
    (hnotes : ∀ n ∈ m.notes, bindable n = true) :
    Memberships.Savable env ctx "MEMBERSHIP_ENDED" m (m.ending clk ctx) ↔ Endable clk ctx m := by
  have hcols := savedRow_col (fun r => (r.startDate, r.endDate, r.notes)) (fun _ => rfl) m
    (m.ending clk ctx)
  simp only [Prod.mk.injEq] at hcols
  obtain ⟨hstart, hend, hnote⟩ := hcols
  have horder : DateOrder (Memberships.savedRow m (m.ending clk ctx)) ↔
      ∀ s ∈ m.startDate, s ≤ clk.today := by
    rw [DateOrder, hstart, hend]
    simp [Membership.ending]
  have haction : "MEMBERSHIP_ENDED" ∈ auditActions := by decide
  refine ⟨fun h => ⟨horder.mp h.dateOrder, h.auditable.2.1, h.auditable.2.2.1⟩, fun h => ?_⟩
  exact ⟨horder.mpr h.begun, hnote ▸ hnotes,
    ⟨haction, h.requestId, h.ipAddress, varchar_mono env.summaryWidth_ge
      (show varchar 400 (some "Membership ended") = true by decide),
      fun _ _ f _ => hencodes f.2, fun _ _ f _ => hencodes f.2⟩⟩

lemma closed_ending (hm : m ∈ db.memberships) {action : String} :
    Closed m.id (Memberships.saved ctx db action m (m.ending clk ctx)) := by
  have hid : (Memberships.savedRow m (m.ending clk ctx)).id = m.id := savedRow_id _ _
  have hended : (Memberships.savedRow m (m.ending clk ctx)).status = .ended :=
    savedRow_col Membership.status (fun _ => rfl) _ _
  refine ⟨⟨_, Tables.mem_set.mpr ⟨m, hm, if_pos hid.symm⟩, hid⟩, fun r hr hrid => ?_⟩
  obtain ⟨r0, hr0, he⟩ := Tables.mem_set.mp hr
  split at he
  · rw [← he, hended]
    decide
  · next hne => exact absurd ((congrArg Membership.id he).trans (hrid.trans hid.symm)) hne

/-- **An end works, and is final, exactly for a membership that has begun**: in every state that the
API reaches, for the stored row of a membership at its version, encodings aside. -/
theorem membership_end_final (hencodes : ∀ v, env.encodes v = true) {start : DB}
    (hstored : NotesStored start) (l : List ApiCall)
    (hm : m ∈ (run (ApiCall.step env) start l).memberships) (clk : Clock) (ctx : RequestContext) :
    EndsForGood env clk ctx (run (ApiCall.step env) start l) m ↔ Endable clk ctx m := by
  have hnotes : ∀ n ∈ m.notes, bindable n = true :=
    invariant_all (I := NotesStored) notesStored_step hstored l m hm
  constructor
  · rintro ⟨r, hend, -⟩
    exact (savable_ending hencodes hnotes).mp (endMembership_ok.mp hend).1
  · intro h
    refine ⟨_, endMembership_ok.mpr ⟨(savable_ending hencodes hnotes).mpr h, rfl⟩, ?_⟩
    intro later hlater
    have halong : Along (ApiCall.step env) (fun _ call => ¬ call.Edits m.id)
        (Memberships.saved ctx (run (ApiCall.step env) start l) "MEMBERSHIP_ENDED" m
          (m.ending clk ctx)) later := along_of_mem hlater _
    have hclosed := invariant (I := Closed m.id) (fun db call hc => closed_step db call hc) halong
      (closed_ending hm)
    exact givesNothing_of_inactive hclosed.inactive

/-! ### A membership that has not begun -/

/-- A deployment whose serializer takes dates. -/
def Env.encoding : Env := { Env.plain with encodes := fun _ => true }

lemma no_roles : ([] : List Ulid).length ≤ 50 := by decide
lemma starts_only (d : Date) : ∀ e ∈ (none : Option Date), ∀ s ∈ some d, s ≤ e := by simp

/-- The administrator creates a membership for the other user, from a day on. -/
def createFrom (startDate : Date) : ApiCall := .iam
  { createFor (some 11) with
    op := .createMembership ⟨2, some 11, some startDate, none, false, [], no_roles,
      starts_only startDate⟩ fun n => Ulid.ofNat (n + 40) }

/-- The membership that is created. -/
def membershipFrom (startDate : Date) : Membership :=
  .new 40 2 101 (some 11) (some startDate) none false (some 1)

/-- The context of the administrator who ends it. -/
def administrator : RequestContext :=
  { systemCtx (some "127.0.0.1") with
    userId := some 1, organizationId := some 101, schoolId := some 11, requestId := "r" }

lemma schoolAdministration_stored : NotesStored schoolAdministration := by
  intro m hm n hn
  rw [List.mem_singleton.mp hm] at hn
  cases hn

theorem membership_end_final_begun : EndsForGood .encoding ⟨0, 738500⟩ administrator
    (run (ApiCall.step .encoding) schoolAdministration [createFrom 738400])
    (membershipFrom 738400) := by
  have hmem : membershipFrom 738400 ∈
      (run (ApiCall.step .encoding) schoolAdministration [createFrom 738400]).memberships := by
    decide
  have hrequest : varchar 64 (if administrator.requestId = "" then none
      else some administrator.requestId) = true := by decide
  have hip : varchar 45 administrator.ipAddress = true := by decide
  refine (membership_end_final (fun _ => rfl) schoolAdministration_stored [createFrom 738400] hmem
    ⟨0, 738500⟩ administrator).mpr ⟨?_, hrequest, hip⟩
  rintro s ⟨⟩
  decide

/-- The membership begins tomorrow: the constraint on the order of its dates refuses the end. -/
theorem membership_end_refused : ¬ ∀ (env : Env) (start : DB) (l : List ApiCall) (m : Membership)
    (clk : Clock) (ctx : RequestContext), (∀ v, env.encodes v = true) → NotesStored start →
      varchar 64 ctx.requestId = true → varchar 45 ctx.ipAddress = true →
        m ∈ (run (ApiCall.step env) start l).memberships →
          EndsForGood env clk ctx (run (ApiCall.step env) start l) m := by
  intro h
  have hmem : membershipFrom 738501 ∈
      (run (ApiCall.step .encoding) schoolAdministration [createFrom 738501]).memberships := by
    decide
  obtain ⟨r, hend, -⟩ := h .encoding schoolAdministration [createFrom 738501]
    (membershipFrom 738501) ⟨0, 738500⟩ administrator (fun _ => rfl) schoolAdministration_stored
    (by decide) (by decide) hmem
  have horder := (endMembership_ok.mp hend).1.dateOrder
  exact absurd horder (by decide)

end SchoolOs
