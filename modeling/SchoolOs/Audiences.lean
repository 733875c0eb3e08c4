import SchoolOs.FanOut

/-!
The audience of an announcement as a function of its list of targets: what a longer list adds, and
what role targets narrow.
-/

namespace SchoolOs

/-! ### Lists of targets -/

/-- The payload of the event, with its targets. -/
def addressed (payload : Payload) (targets : List Payload) : Payload :=
  ("targets", .arr (targets.map .obj)) :: payload

/-- The users whom a call notifies. -/
def HandlerCall.notified (call : HandlerCall) : List Ulid := call.sends.map fun p => p.1.userId

section Targets

variable (wenv : WorkerEnv) (container : Json → String)

/-- A ROLE target with an id. -/
def NamesRole (t : Payload) : Prop :=
  wenv.upper ((Payload.get t "target_type").text container) = "ROLE" ∧
    (Payload.get t "target_id").truthy = true

instance (t : Payload) : Decidable (NamesRole wenv container t) :=
  inferInstanceAs (Decidable (_ ∧ _))

/-- The code a role target names. -/
def roleCode (t : Payload) : String := wenv.upper ((Payload.get t "target_id").text container)

/-- Whom the announcement reaches in the school, with these targets. -/
def audience (tables : WorkerTables) (payload : Payload) (envelope : Envelope) (draw : ℕ → Ulid)
    (organizationId schoolId : Ulid) (targets : List Payload) : List Ulid :=
  (handleAnnouncementPublished wenv container tables (addressed payload targets)
    { envelope with organizationId := some organizationId, schoolId := some schoolId }
    draw).notified

end Targets

variable {wenv : WorkerEnv} {container : Json → String} {tables : WorkerTables}
  {payload : Payload} {envelope : Envelope} {draw : ℕ → Ulid} {o s u : Ulid}
  {targets : List Payload}

lemma mem_roleTargets {c : String} : c ∈ roleTargets wenv container targets ↔
    ∃ t ∈ targets, NamesRole wenv container t ∧ roleCode wenv container t = c := by
  simp [roleTargets, NamesRole, roleCode, and_assoc]

lemma targetsOf_addressed (payload : Payload) (targets : List Payload) :
    targetsOf (addressed payload targets) = .ok targets := by
  have hmap : ∀ f : Json → Except Failure Payload, (∀ fields, f (.obj fields) = .ok fields) →
      ∀ l : List Payload, (l.map Json.obj).mapM f = .ok l := by
    intro f hf l
    induction l with
    | nil => rfl
    | cons t l ih => rw [List.map_cons, List.mapM_cons, hf, ih]; rfl
  cases targets with
  | nil => rfl
  | cons t l => exact hmap _ (fun _ => rfl) (t :: l)

lemma fanOutTo_notified {message : Ulid → ChannelMessage} (h : ∀ u, (message u).userId = u)
    (userIds : List Ulid) (draw : ℕ → Ulid) :
    (fanOutTo message userIds draw).notified = userIds := by
  have hfst : (fun p : Ulid × ℕ => (message p.1).userId) = Prod.fst := by
    funext p
    exact h p.1
  rw [HandlerCall.notified, fanOutTo, List.map_map]
  exact (congrArg (List.map · userIds.zipIdx) hfst).trans (List.zipIdx_map_fst 0 userIds)

/-- **The audience**: the holders of the roles that the targets name, or everyone. -/
lemma mem_audience : u ∈ audience wenv container tables payload envelope draw o s targets ↔
    if ∃ t ∈ targets, NamesRole wenv container t then
      ∃ t ∈ targets, NamesRole wenv container t ∧
        u ∈ userIdsWithRoleCodes tables.access o s {roleCode wenv container t}
    else u ∈ activeUserIdsInSchool tables.access o s := by
  have hnonempty : (roleTargets wenv container targets).Nonempty ↔
      ∃ t ∈ targets, NamesRole wenv container t := by
    constructor
    · rintro ⟨c, hc⟩
      obtain ⟨t, ht, hrole, -⟩ := mem_roleTargets.mp hc
      exact ⟨t, ht, hrole⟩
    · rintro ⟨t, ht, hrole⟩
      exact ⟨_, mem_roleTargets.mpr ⟨t, ht, hrole, rfl⟩⟩
  have hcall : audience wenv container tables payload envelope draw o s targets =
      if (roleTargets wenv container targets).Nonempty then
        userIdsWithRoleCodes tables.access o s (roleTargets wenv container targets)
      else activeUserIdsInSchool tables.access o s := by
    unfold audience handleAnnouncementPublished
    simp only [targetsOf_addressed]
    exact fanOutTo_notified (fun _ => rfl) _ draw
  rw [hcall]
  by_cases hrole : ∃ t ∈ targets, NamesRole wenv container t
  · rw [if_pos (hnonempty.mpr hrole), if_pos hrole, mem_userIdsWithRoleCodes_codes]
    constructor
    · rintro ⟨c, hc, hreach⟩
      obtain ⟨t, ht, hnames, rfl⟩ := mem_roleTargets.mp hc
      exact ⟨t, ht, hnames, mem_userIdsWithRoleCodes.mpr hreach⟩
    · rintro ⟨t, ht, hnames, hreach⟩
      exact ⟨_, mem_roleTargets.mpr ⟨t, ht, hnames, rfl⟩, mem_userIdsWithRoleCodes.mp hreach⟩
  · rw [if_neg (mt hnonempty.mp hrole), if_neg hrole]

lemma mem_audience_single {t : Payload} (h : NamesRole wenv container t) :
    u ∈ audience wenv container tables payload envelope draw o s [t] ↔
      u ∈ userIdsWithRoleCodes tables.access o s {roleCode wenv container t} := by
  simp [mem_audience, h]

lemma mem_active_of_role {db : DB} {r : String} (h : u ∈ userIdsWithRoleCodes db o s {r}) :
    u ∈ activeUserIdsInSchool db o s := by
  obtain ⟨hact, m, hm, hu, hcov, _⟩ := mem_userIdsWithRoleCodes.mp h
  exact mem_activeUserIdsInSchool.mpr ⟨hact, m, hm, hu, hcov⟩

/-- **What more targets do**: to a list that names a role, or without new roles, they only add. A
list of roles reaches the holders of each; a list without roles reaches every user of the school. -/
theorem audience_additive (wenv : WorkerEnv) (container : Json → String) (tables : WorkerTables)
    (payload : Payload) (envelope : Envelope) (draw : ℕ → Ulid) (o s : Ulid) :
    (∀ a b c : List Payload, c.Perm (a ++ b) →
      ((∃ t ∈ a, NamesRole wenv container t) ∨ ∀ t ∈ b, ¬ NamesRole wenv container t) →
        ∀ u ∈ audience wenv container tables payload envelope draw o s a,
          u ∈ audience wenv container tables payload envelope draw o s c) ∧
    (∀ targets : List Payload, targets ≠ [] → (∀ t ∈ targets, NamesRole wenv container t) →
      ∀ u, u ∈ audience wenv container tables payload envelope draw o s targets ↔
        ∃ t ∈ targets, u ∈ audience wenv container tables payload envelope draw o s [t]) ∧
    ∀ targets : List Payload, (∀ t ∈ targets, ¬ NamesRole wenv container t) →
      ∀ u, u ∈ audience wenv container tables payload envelope draw o s targets ↔
        u ∈ activeUserIdsInSchool tables.access o s := by
  refine ⟨?_, ?_, ?_⟩
  · -- A role among the first targets names the holders; without one, the rest names none either.
    intro a b c hperm hroles u hu
    have hmem : ∀ t, t ∈ c ↔ t ∈ a ∨ t ∈ b := fun t => hperm.mem_iff.trans List.mem_append
    rw [mem_audience] at hu ⊢
    by_cases ha : ∃ t ∈ a, NamesRole wenv container t
    · have hc : ∃ t ∈ c, NamesRole wenv container t := by
        obtain ⟨t, ht, hrole⟩ := ha
        exact ⟨t, (hmem t).mpr (.inl ht), hrole⟩
      rw [if_pos ha] at hu
      rw [if_pos hc]
      obtain ⟨t, ht, hrole, hreach⟩ := hu
      exact ⟨t, (hmem t).mpr (.inl ht), hrole, hreach⟩
    · have hb := hroles.resolve_left ha
      have hc : ¬ ∃ t ∈ c, NamesRole wenv container t := by
        rintro ⟨t, ht, hrole⟩
        rcases (hmem t).mp ht with hta | htb
        · exact ha ⟨t, hta, hrole⟩
        · exact hb t htb hrole
      rw [if_neg ha] at hu
      rwa [if_neg hc]
  · -- Each role target reaches its own holders.
    intro targets hne hall u
    obtain ⟨t₀, ht₀⟩ := List.exists_mem_of_ne_nil targets hne
    rw [mem_audience, if_pos ⟨t₀, ht₀, hall t₀ ht₀⟩]
    constructor
    · rintro ⟨t, ht, hrole, hreach⟩
      exact ⟨t, ht, (mem_audience_single hrole).mpr hreach⟩
    · rintro ⟨t, ht, hreach⟩
      exact ⟨t, ht, hall t ht, (mem_audience_single (hall t ht)).mp hreach⟩
  · -- Without a role the whole school is addressed.
    intro targets hnone u
    rw [mem_audience, if_neg (by rintro ⟨t, ht, hrole⟩; exact hnone t ht hrole)]

/-! ### A teacher and a parent -/

/-- Two members of school 201; the second is a teacher. -/
def teacherAndParent : WorkerTables where
  access := { DB.empty with
    users := [User.new 1 (some "a@b.c") none none .active none,
      User.new 2 (some "d@e.f") none none .active none]
    memberships := [Membership.new 301 1 101 (some 201) none none true none,
      Membership.new 302 2 101 (some 201) none none true none]
    roles := [Role.new 6 (some 101) "TEACHER" "Teacher" none .school .school none]
    membershipRoles := [⟨401, 302, 6, none, none, none⟩] }
  attendanceRecords := []
  parents := []
  studentParents := []

def toTeachers : Payload := [("target_type", .str "ROLE"), ("target_id", .str "TEACHER")]

def toSchool : Payload := [("target_type", .str "SCHOOL"), ("target_id", .null)]

/-- The audience of an announcement in school 201. -/
def reached (targets : List Payload) : List Ulid :=
  audience .plain (fun _ => "") teacherAndParent []
    ⟨501, "ANNOUNCEMENT_PUBLISHED", none, none, none, none⟩ (fun k => Ulid.ofNat k) 101 201 targets

theorem teachers_and_school : 2 ∈ reached [toSchool, toTeachers] :=
  (audience_additive .plain (fun _ => "") teacherAndParent [] _ _ 101 201).1 [toTeachers] [toSchool]
    [toSchool, toTeachers] (by decide) (.inl ⟨toTeachers, by decide, by decide⟩) 2 (by decide)

/-- Without targets the announcement is for everyone; a role target narrows it. -/
theorem untargeted_narrowed : ¬ ∀ (wenv : WorkerEnv) (container : Json → String)
    (tables : WorkerTables) (payload : Payload) (envelope : Envelope) (draw : ℕ → Ulid) (o s : Ulid)
    (a b : List Payload), ∀ u ∈ audience wenv container tables payload envelope draw o s a,
      u ∈ audience wenv container tables payload envelope draw o s (a ++ b) := by
  intro h
  have hparent : (1 : Ulid) ∈ reached [] := by decide
  have hnarrow := h .plain (fun _ => "") teacherAndParent [] _ _ 101 201 [] [toTeachers] 1 hparent
  exact absurd (show (1 : Ulid) ∈ reached [toTeachers] from hnarrow) (by decide)

end SchoolOs
