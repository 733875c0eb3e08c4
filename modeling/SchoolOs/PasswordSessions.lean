import SchoolOs.Rotation

/-!
New passwords when refreshes are in flight: the sessions of the user are the tokens selected by
one statement, and an exchange that commits later leaves a token it did not see.
-/

namespace SchoolOs

open ReadCommitted

variable {ι : Type*} [DecidableEq ι] {env : Env} {req : ι → Request} {u : Ulid} {c : ι}

/-! ### What is wanted, and when -/

/-- Every refresh token of the user is revoked. -/
def SessionsRevoked (u : Ulid) (db : DB) : Prop :=
  ∀ t ∈ db.refreshTokens, t.userId = u → t.revokedAt ≠ none

/-- The request sets the password of the user, and has selected the user's sessions. -/
def Pc.HasSelected (u : Ulid) : Pc → Prop
  | .selected _ _ rows | .revoking _ _ (some rows) | .written (some rows) => rows.user.id = u
  | .passwordSet userId => userId = u
  | _ => False

/-- No exchange of a token commits after the request `c`, setting the password of the token's
user, selected the sessions to revoke. -/
def NoLateExchange (c : ι) (s : Sys ι) (e : Turn ι) : Prop :=
  ∀ i clk stored pair, e = .run i clk → s.pc i = .issued stored pair →
    ¬ (s.pc c).HasSelected stored.userId

/-- The next statement commits an exchange. -/
def Pc.exchangesNext : Pc → Bool
  | .issued .. => true
  | _ => false

omit [DecidableEq ι] in
lemma noLateExchange_of_pc {s : Sys ι} {i : ι} {clk : Clock}
    (h : (s.pc i).exchangesNext = false) : NoLateExchange c s (.run i clk) := by
  intro j clk' stored pair he hpc
  cases he
  rw [hpc] at h
  cases h

omit [DecidableEq ι] in
lemma noLateExchange_of_start {s : Sys ι} {e : Turn ι} (h : s.pc c = .start) :
    NoLateExchange c s e := by
  intro _ _ _ _ _ _ hsel
  rw [h] at hsel
  exact hsel

/-! ### The invariant -/

/-- Selected tokens the request has yet to revoke. -/
def Pc.remaining : Pc → List Ulid
  | .selected _ ids _ | .revoking _ ids _ => ids
  | _ => []

/-- The token is revoked, selected for it, or revoked by a write of the open transaction. -/
def Covered (pc : Pc) (ws : List (Write DB Key)) (t : RefreshToken) : Prop :=
  t.revokedAt ≠ none ∨ t.id ∈ pc.remaining ∨ ∃ now, revokeToken now t.id ∈ ws

/-- **The invariant of a password request**: once it has selected the sessions, it covers every
committed token of the user. -/
structure Covering (u : Ulid) (c : ι) (s : Sys ι) : Prop where
  owned : Owned s
  covered : (s.pc c).HasSelected u →
    ∀ t ∈ s.store.committed.refreshTokens, t.userId = u → Covered (s.pc c) (s.store.own c) t

/-! ### One turn -/

/-- The select finds every session of the user that is not revoked. -/
lemma mem_selectTokens {clk : Clock} {db : DB} {t : RefreshToken} (ht : t ∈ db.refreshTokens)
    (hu : t.userId = u) (hr : t.revokedAt = none) : t.id ∈ selectTokens clk db (.sessions u) := by
  rw [selectTokens, List.mem_insertionSort, List.mem_map]
  refine ⟨t, List.mem_filter.mpr ⟨ht, ?_⟩, rfl⟩
  simp [Scope.selects, hu, hr]

lemma covered_reads {clk : Clock} {db : DB} {pc pc' : Pc} (h : Reads clk db pc pc')
    (hsel : pc'.HasSelected u) (ws : List (Write DB Key)) :
    (∃ rows, pc = .authorized rows) ∧
      ∀ t ∈ db.refreshTokens, t.userId = u → Covered pc' ws t := by
  cases h with
  | sessions rows =>
    refine ⟨⟨rows, rfl⟩, fun t ht hu => ?_⟩
    have hu' : rows.user.id = u := hsel
    by_cases hr : t.revokedAt = none
    · refine .inr (.inl ?_)
      rw [hu']
      exact mem_selectTokens ht hu hr
    · exact .inl hr
  | _ => cases hsel

lemma covered_writes {r : Request} {clk : Clock} {db : DB} {pc pc' : Pc} {w : Write DB Key}
    (h : Writes env r clk db pc w pc') (hsel : pc'.HasSelected u) {ws : List (Write DB Key)} :
    pc.HasSelected u ∧ ∀ t, Covered pc ws t → Covered pc' (ws ++ [w]) t := by
  have hgrow : ∀ t : RefreshToken, (∃ now, revokeToken now t.id ∈ ws) →
      ∃ now, revokeToken now t.id ∈ ws ++ [w] :=
    fun t ⟨now, hw⟩ => ⟨now, List.mem_append_left _ hw⟩
  cases h with
  | rotate stored => cases hsel
  | insert stored _ _ _ => cases hsel
  | user now ids rows =>
    refine ⟨hsel, fun t ht => ?_⟩
    rcases ht with hr | hid | hw
    · exact .inl hr
    · exact .inr (.inl hid)
    · exact .inr (.inr (hgrow t hw))
  | revoke now id ids rows =>
    -- The first of the ids that are left to revoke.
    refine ⟨by cases rows <;> exact hsel, fun t ht => ?_⟩
    rcases ht with hr | hid | hw
    · exact .inl hr
    · rcases List.mem_cons.mp hid with hid | hid
      · refine .inr (.inr ⟨now, List.mem_append_right _ ?_⟩)
        rw [hid]
        exact List.mem_singleton.mpr rfl
      · exact .inr (.inl hid)
    · exact .inr (.inr (hgrow t hw))
  | audit now rows =>
    -- No id is left.
    refine ⟨hsel, fun t ht => ?_⟩
    rcases ht with hr | hid | hw
    · exact .inl hr
    · exact absurd hid List.not_mem_nil
    · exact .inr (.inr (hgrow t hw))

lemma sessionsRevoked_commit {s : Sys ι} (h : Covering u c s) {rows : Option NewPasswordRows}
    (hpc : s.pc c = .written rows) (hsel : (s.pc c).HasSelected u) :
    SessionsRevoked u (s.store.commit c).committed := by
  have hr : OnlyRevokes s.store.committed (s.store.commit c).committed :=
    written_committed h.owned hpc
  have ho := h.owned c
  have hcov := h.covered hsel
  rw [hpc] at ho hcov
  intro t' ht' hu'
  obtain ⟨t, ht, hmark⟩ := hr.back ht'
  have hid : t'.id = t.id := by rw [hmark.same]
  have hu : t.userId = u := by
    rw [← hu', hmark.same]
  rcases hcov t ht hu with hrev | hid' | ⟨now, hw⟩
  · exact hmark.revoked hrev
  · exact absurd hid' List.not_mem_nil
  · have hset : ∀ t' ∈ (s.store.commit c).committed.refreshTokens, t'.id = t.id →
        t'.revokedAt ≠ none := by
      refine Store.commit_establishes (I := fun db : DB =>
        ∀ t' ∈ db.refreshTokens, t'.id = t.id → t'.revokedAt ≠ none) hw ?_ ?_
      · -- The write revokes it,
        intro db t2 h2 hid2
        obtain ⟨t1, _, rfl⟩ := Tables.mem_set.mp h2
        split at hid2
        · next heq =>
          rw [if_pos heq]
          exact Option.some_ne_none _
        · next hne => exact absurd hid2 hne
      · -- and no other write of the request takes that back.
        intro w hw db hdb t2 h2 hid2
        obtain ⟨t1, h1, hm⟩ := (ho w hw db).back h2
        refine hm.revoked (hdb t1 h1 ?_)
        rw [← hid2, hm.same]
    exact hset t' ht' hid

/-- The commit of an exchange of another user's token leaves the user's tokens as they were. -/
lemma exchange_back {s : Sys ι} (ho : Owned s) {i : ι} {stored : RefreshToken} {pair : TokenPair}
    (hpc : s.pc i = .issued stored pair) (hne : stored.userId ≠ u) {t' : RefreshToken}
    (ht' : t' ∈ (s.store.commit i).committed.refreshTokens) (hu : t'.userId = u) :
    ∃ t ∈ s.store.committed.refreshTokens, t.userId = u ∧ t.id = t'.id ∧
      t.revokedAt = t'.revokedAt := by
  obtain ⟨clk, token, _, _, huser, _, hcommit⟩ := exchange_committed ho hpc
  rw [hcommit] at ht'
  rcases List.mem_append.mp ht' with ht' | ht'
  · obtain ⟨t, ht, rfl⟩ := Tables.mem_set.mp ht'
    refine ⟨t, ht, ?_, ?_, ?_⟩
    · rw [← hu]
      split <;> rfl
    · split <;> rfl
    · split <;> rfl
  · rw [List.mem_singleton.mp ht', huser] at hu
    exact absurd hu hne

lemma covering_start {s : Sys ι} (hs : Started s) : Covering u c s where
  owned := owned_start hs
  covered := by
    rw [hs.pc c]
    exact fun hsel => hsel.elim

lemma covering_self {s' : Sys ι} (ho : Owned s') {pc : Pc} (hpc : s'.pc c = pc)
    (h : pc.HasSelected u → ∀ t ∈ s'.store.committed.refreshTokens, t.userId = u →
      Covered pc (s'.store.own c) t) : Covering u c s' := by
  subst hpc
  exact ⟨ho, h⟩

/-- Nothing the other requests do uncovers a token: they only commit revocations, or exchanges of
other users' tokens. -/
lemma covering_other {s : Sys ι} (h : Covering u c s) {s' : Sys ι} (ho : Owned s')
    (hpc : s'.pc c = s.pc c) (hown : s'.store.own c = s.store.own c)
    (hback : (s.pc c).HasSelected u → ∀ t' ∈ s'.store.committed.refreshTokens, t'.userId = u →
      ∃ t ∈ s.store.committed.refreshTokens, t.userId = u ∧ t.id = t'.id ∧
        (t.revokedAt ≠ none → t'.revokedAt ≠ none)) : Covering u c s' := by
  refine ⟨ho, ?_⟩
  rw [hpc, hown]
  intro hsel t' ht' hu
  obtain ⟨t, ht, htu, hid, hrev⟩ := hback hsel t' ht' hu
  rcases h.covered hsel t ht htu with hr | hrem | hw
  · exact .inl (hrev hr)
  · exact .inr (.inl (hid ▸ hrem))
  · exact .inr (.inr (hid ▸ hw))

lemma covering_read {s : Sys ι} (h : Covering u c s) {i : ι} {clk : Clock} {pc : Pc}
    (hr : Reads clk (s.store.view i) (s.pc i) pc) : Covering u c (s.goto i pc) := by
  have ho' : Owned (s.goto i pc) := owned_read h.owned hr
  by_cases hi : c = i
  · subst hi
    refine covering_self ho' (Function.update_self _ _ _) fun hsel => ?_
    obtain ⟨⟨rows, hpc⟩, hcov⟩ := covered_reads hr hsel (s.store.own c)
    have ho := h.owned c
    rw [hpc] at ho
    rw [Store.view_of_own_nil ho] at hcov
    exact hcov
  · exact covering_other h ho' (Function.update_of_ne hi _ _) rfl
      fun _ t ht hu => ⟨t, ht, hu, rfl, id⟩

lemma covering_write {s : Sys ι} (h : Covering u c s) {i : ι} {clk : Clock} {w : Write DB Key}
    {pc : Pc} {store : Store ι DB Key}
    (hw : Writes env (req i) clk (s.store.view i) (s.pc i) w pc)
    (hstore : s.store.write i w = some store) :
    Covering u c (⟨store, Function.update s.pc i pc⟩ : Sys ι) := by
  have ho' : Owned (⟨store, Function.update s.pc i pc⟩ : Sys ι) :=
    owned_step (.write hw hstore) h.owned
  have hcommitted : store.committed = s.store.committed := Store.write_committed hstore
  by_cases hi : c = i
  · subst hi
    refine covering_self ho' (Function.update_self _ _ _) fun hsel => ?_
    rw [hcommitted, Store.own_write hstore]
    intro t ht hu
    obtain ⟨hsel0, hcov⟩ := covered_writes hw hsel
    exact hcov t (h.covered hsel0 t ht hu)
  · refine covering_other h ho' (Function.update_of_ne hi _ _)
      (Store.own_write_of_ne hstore hi) fun _ => ?_
    rw [hcommitted]
    exact fun t ht hu => ⟨t, ht, hu, rfl, id⟩

/-- The exchange is of another user's token, or it commits before the sessions are selected. -/
lemma covering_exchange {s : Sys ι} (h : Covering u c s) {i : ι} {stored : RefreshToken}
    {pair : TokenPair} (hpc : s.pc i = .issued stored pair)
    (hlate : ¬ (s.pc c).HasSelected stored.userId) :
    Covering u c (s.commit i (.exchanged stored pair)) := by
  have ho' : Owned (s.commit i (.exchanged stored pair)) :=
    owned_commit h.owned (hpc ▸ .exchange stored pair)
  by_cases hi : c = i
  · subst hi
    exact covering_self ho' (Function.update_self _ _ _) fun hsel => hsel.elim
  · refine covering_other h ho' (Function.update_of_ne hi _ _) (Store.own_commit_of_ne hi) ?_
    intro hsel t' ht' hu
    have hne : stored.userId ≠ u := fun heq => hlate (heq ▸ hsel)
    obtain ⟨t, ht, htu, hid, hrev⟩ := exchange_back h.owned hpc hne ht' hu
    exact ⟨t, ht, htu, hid, fun hr => hrev ▸ hr⟩

lemma covering_revoked {s : Sys ι} (h : Covering u c s) {i : ι} {rows : Option NewPasswordRows}
    (hpc : s.pc i = .written rows) : Covering u c (s.commit i (afterRevocations rows)) := by
  have ho' : Owned (s.commit i (afterRevocations rows)) :=
    owned_commit h.owned (hpc ▸ .revoked rows)
  by_cases hi : c = i
  · subst hi
    refine covering_self ho' (Function.update_self _ _ _) ?_
    cases rows with
    | none => exact fun hsel => hsel.elim
    | some rows =>
      intro hsel t ht hu
      have hsel0 : (s.pc c).HasSelected u := by rw [hpc]; exact hsel
      exact .inl (sessionsRevoked_commit h hpc hsel0 t ht hu)
  · refine covering_other h ho' (Function.update_of_ne hi _ _) (Store.own_commit_of_ne hi) ?_
    intro hsel t' ht' hu
    obtain ⟨t, ht, hmark⟩ := (written_committed h.owned hpc).back ht'
    refine ⟨t, ht, ?_, ?_, hmark.revoked⟩
    · rw [← hu, hmark.same]
    · rw [hmark.same]

lemma covering_fail {s : Sys ι} (h : Covering u c s) (i : ι) (e : ApiError) :
    Covering u c (s.fail i e) := by
  have ho' : Owned (s.fail i e) := owned_fail h.owned i e
  by_cases hi : c = i
  · subst hi
    exact covering_self ho' (Function.update_self _ _ _) fun hsel => hsel.elim
  · exact covering_other h ho' (Function.update_of_ne hi _ _) (Store.own_abort_of_ne hi)
      fun _ t ht hu => ⟨t, ht, hu, rfl, id⟩

/-- **One turn** keeps the user's sessions covered when no exchange commits late. -/
theorem covering_step {s : Sys ι} {e : Turn ι} (h : Covering u c s)
    (hlate : NoLateExchange c s e) : Covering u c (s.step env req e) := by
  have hstep := stepped env req s e
  generalize s.step env req e = s' at hstep ⊢
  cases hstep with
  | idle _ => exact h
  | read hr => exact covering_read h hr
  | write hw hstore => exact covering_write h hw hstore
  | @commit i clk pc hc =>
    generalize hpc : s.pc i = pc0 at hc
    cases hc with
    | exchange stored pair => exact covering_exchange h hpc (hlate i clk stored pair rfl hpc)
    | revoked rows => exact covering_revoked h hpc
  | fail _ i err => exact covering_fail h i err

/-- **A new password kills every session** in every run in which no exchange of a token of the
user commits after the sessions were selected: once the request that set the password has
committed, every refresh token of the user is revoked, in every state reached. -/
theorem sessions_revoked {s : Sys ι} {l : List (Turn ι)} (hs : Started s)
    (hl : Runs.Along (Sys.step env req) (NoLateExchange c) s l)
    (hset : (Runs.run (Sys.step env req) s l).pc c = .passwordSet u) :
    SessionsRevoked u (Runs.run (Sys.step env req) s l).store.committed := by
  have hinv : Covering u c (Runs.run (Sys.step env req) s l) :=
    Runs.invariant (I := Covering u c) (fun _ _ hlate h => covering_step h hlate) hl
      (covering_start hs)
  intro t ht hu
  have ho := hinv.owned c
  have hcov := hinv.covered
  rw [hset] at ho hcov
  rcases hcov rfl t ht hu with hr | hrem | ⟨now, hw⟩
  · exact hr
  · exact absurd hrem List.not_mem_nil
  · rw [ho] at hw
    exact absurd hw List.not_mem_nil

/-! ### A change of the password and a refresh -/

/-- The user changes the password (`true`) while the first token of a session is refreshed. -/
def changeAndRefresh (change : Bool) : Request :=
  if change then .changePassword ⟨"correct1", "correct2", correct1_length, by decide⟩ .heap
    ⟨some 1, none, "r", some "127.0.0.1", some "agent"⟩ 1
  else twoRefreshes false

/-- The refresh first: its successor is selected with it. -/
theorem refresh_then_change : SessionsRevoked 1 (Runs.run (Sys.step .plain changeAndRefresh)
    twoStarted (turns false 5 ++ turns true 7)).store.committed := by
  refine sessions_revoked (c := true) twoStarted_started
    (⟨?_, ?_, ?_, ?_, ?_, ?_, ?_, ?_, ?_, ?_, ?_, ?_, trivial⟩ :
      Runs.Along _ _ _ (turns false 5 ++ turns true 7)) rfl
  iterate 5 exact noLateExchange_of_start rfl
  all_goals exact noLateExchange_of_pc rfl

/-- The refresh reads its token before the change begins and commits after the sessions were
selected: its successor stays live. -/
theorem change_misses_refresh : ¬ ∀ (env : Env) (req : Bool → Request) (s : Sys Bool)
    (before after : List (Turn Bool)) (u : Ulid), Started s →
    (Runs.run (Sys.step env req) s before).pc true = .start →
    (Runs.run (Sys.step env req) s before).pc false ≠ .start →
    (∀ i, ((Runs.run (Sys.step env req) s (before ++ after)).pc i).answer.isSome) →
    (Runs.run (Sys.step env req) s (before ++ after)).pc true = .passwordSet u →
    SessionsRevoked u (Runs.run (Sys.step env req) s (before ++ after)).store.committed := by
  intro h
  have hrev := h .plain changeAndRefresh twoStarted (turns false 2)
    (turns true 2 ++ turns false 3 ++ turns true 4) 1 twoStarted_started rfl
    (fun hpc => by cases hpc) (fun i => by cases i <;> rfl) rfl
  exact hrev ⟨62, 1, "second", 51, 2 + seconds (30 * 24 * 3600), none, none, some "agent",
    some "127.0.0.1"⟩ (by decide) rfl rfl

end SchoolOs
