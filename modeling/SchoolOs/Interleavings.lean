import SchoolOs.Runs
import SchoolOs.Statements

/-!
What one statement can do to the database and to where the requests stand, and what the writes
of an open transaction are at each point.
-/

namespace SchoolOs

open ReadCommitted

variable {ι : Type*} [DecidableEq ι] {env : Env} {req : ι → Request}

/-! ### One turn -/

/-- A read-only statement, or a step without one. -/
inductive Reads (clk : Clock) (db : DB) : Pc → Pc → Prop
  | refuse (e : ApiError) : Reads clk db .start (.failed e)
  | spent (scope : Scope) : Reads clk db .start (.refused scope)
  | find {stored : RefreshToken} : stored ∈ db.refreshTokens → Reads clk db .start (.found stored)
  | authorize (rows : NewPasswordRows) : Reads clk db .start (.authorized rows)
  | inactive (stored : RefreshToken) (e : ApiError) : Reads clk db (.found stored) (.failed e)
  | gone (stored : RefreshToken) (scope : Scope) :
      Reads clk db (.found stored) (.refused scope)
  | check (stored : RefreshToken) : Reads clk db (.found stored) (.checked stored)
  | select (scope : Scope) :
      Reads clk db (.refused scope) (.revoking clk (selectTokens clk db scope) none)
  | sessions (rows : NewPasswordRows) : Reads clk db (.authorized rows)
      (.selected clk (selectTokens clk db (.sessions rows.user.id)) rows)
  | marked (now : Clock) : Reads clk db (.revoking now [] none) (.written none)

/-- A write statement. -/
inductive Writes (env : Env) (r : Request) (clk : Clock) (db : DB) :
    Pc → Write DB Key → Pc → Prop
  | rotate (stored : RefreshToken) :
      Writes env r clk db (.checked stored) (rotateToken clk stored) (.rotated stored)
  | insert (stored : RefreshToken) {data : RefreshRequest} {http : HttpRequest}
      {draw : TokenDraw} {token : RefreshToken} : r = .refresh data http draw →
      buildRefreshToken env clk stored.userId stored.sessionFamilyId http.clientIp
        http.userAgent draw = token →
      TokenStorable db.refreshTokens token →
      Writes env r clk db (.rotated stored) (insertToken token)
        (.issued stored (exchangePair env clk stored draw))
  | user (now : Clock) (ids : List Ulid) (rows : NewPasswordRows) :
      Writes env r clk db (.selected now ids rows) (updateUser rows)
        (.revoking now ids (some rows))
  | revoke (now : Clock) (id : Ulid) (ids : List Ulid) (rows : Option NewPasswordRows) :
      Writes env r clk db (.revoking now (id :: ids) rows) (revokeToken now id)
        (.revoking now ids rows)
  | audit (now : Clock) (rows : NewPasswordRows) :
      Writes env r clk db (.revoking now [] (some rows))
        (insertAudit (auditRow rows.ctx rows.entry)) (.written (some rows))

/-- A commit. -/
inductive Commits : Pc → Pc → Prop
  | exchange (stored : RefreshToken) (pair : TokenPair) :
      Commits (.issued stored pair) (.exchanged stored pair)
  | revoked (rows : Option NewPasswordRows) : Commits (.written rows) (afterRevocations rows)

/-- What one turn can do. -/
inductive Stepped (env : Env) (req : ι → Request) (s : Sys ι) : Turn ι → Sys ι → Prop
  | idle (e : Turn ι) : Stepped env req s e s
  | read {i : ι} {clk : Clock} {pc : Pc} :
      Reads clk (s.store.view i) (s.pc i) pc →
      Stepped env req s (.run i clk) (s.goto i pc)
  | write {i : ι} {clk : Clock} {w : Write DB Key} {pc : Pc} {store : Store ι DB Key} :
      Writes env (req i) clk (s.store.view i) (s.pc i) w pc →
      s.store.write i w = some store →
      Stepped env req s (.run i clk) ⟨store, Function.update s.pc i pc⟩
  | commit {i : ι} {clk : Clock} {pc : Pc} : Commits (s.pc i) pc →
      Stepped env req s (.run i clk) (s.commit i pc)
  | fail (e : Turn ι) (i : ι) (err : ApiError) : Stepped env req s e (s.fail i err)

lemma begin_reads (env : Env) (r : Request) (clk : Clock) (db : DB) :
    Reads clk db .start (r.begin env clk db) := by
  cases r with
  | refresh data http draw =>
    simp only [Request.begin]
    split
    · exact .refuse _
    next stored hfind =>
    split
    · exact .spent _
    split
    · exact .spent _
    · exact .find (Tables.get_mem hfind).1
  | changePassword data ord http salt =>
    simp only [Request.begin]
    split
    · exact .authorize _
    · exact .refuse _
  | confirmPasswordReset data http salt =>
    simp only [Request.begin]
    split
    · exact .authorize _
    · exact .refuse _

lemma readUser_reads (clk : Clock) (db : DB) (stored : RefreshToken) :
    Reads clk db (.found stored) (readUser db stored) := by
  unfold readUser
  split
  · exact .gone stored _
  split
  · exact .inactive stored _
  · exact .check stored

lemma stepped_write {s : Sys ι} {i : ι} {clk : Clock} {w : Write DB Key} {pc : Pc}
    (h : Writes env (req i) clk (s.store.view i) (s.pc i) w pc) :
    Stepped env req s (.run i clk) (s.write i w pc) := by
  unfold Sys.write
  split
  · exact .idle _
  · next store hw => exact .write h hw

/-- **One turn**: nothing, a read, a write that did not wait, a commit, or a failure. -/
theorem stepped (env : Env) (req : ι → Request) (s : Sys ι) (e : Turn ι) :
    Stepped env req s e (s.step env req e) := by
  cases e with
  | abort i =>
    -- A request that is cancelled.
    simp only [Sys.step]
    split
    · exact .fail _ _ _
    · exact .idle _
  | run i clk =>
    simp only [Sys.step, Sys.next]
    split
    · next h => exact .read (h ▸ begin_reads env (req i) clk _)
    · next stored h => exact .read (h ▸ readUser_reads clk _ stored)
    · next stored h => exact stepped_write (h ▸ .rotate stored)
    · next stored h =>
      split
      · next data http draw hr =>
        split
        · next hst => exact stepped_write (h ▸ .insert stored hr rfl hst)
        · exact .fail _ _ _
      · exact .idle _
    · next stored pair h => exact .commit (h ▸ .exchange stored pair)
    · next scope h => exact .read (h ▸ .select scope)
    · next rows h => exact .read (h ▸ .sessions rows)
    · next now ids rows h =>
      split
      · exact stepped_write (h ▸ .user now ids rows)
      · exact .fail _ _ _
    · next now id ids rows h => exact stepped_write (h ▸ .revoke now id ids rows)
    · next now h => exact .read (h ▸ .marked now)
    · next now rows h =>
      split
      · exact stepped_write (h ▸ .audit now rows)
      · exact .fail _ _ _
    · next rows h => exact .commit (h ▸ .revoked rows)
    all_goals exact .idle _

/-! ### Revocations -/

/-- The same token, perhaps revoked. -/
structure Revoking (t t' : RefreshToken) : Prop where
  same : t' = { t with revokedAt := t'.revokedAt }
  revoked : t.revokedAt ≠ none → t'.revokedAt ≠ none

lemma Revoking.refl (t : RefreshToken) : Revoking t t := ⟨rfl, id⟩

lemma Revoking.trans {t t' t'' : RefreshToken} (h : Revoking t t') (h' : Revoking t' t'') :
    Revoking t t'' := by
  refine ⟨?_, fun ht => h'.revoked (h.revoked ht)⟩
  calc t'' = { t' with revokedAt := t''.revokedAt } := h'.same
    _ = { t with revokedAt := t''.revokedAt } := by rw [h.same]

/-- Tokens are at most revoked: none is added, dropped or changed otherwise. -/
def OnlyRevokes (db db' : DB) : Prop :=
  ∃ mark, db'.refreshTokens = db.refreshTokens.map mark ∧ ∀ t, Revoking t (mark t)

lemma OnlyRevokes.of_eq {db db' : DB} (h : db'.refreshTokens = db.refreshTokens) :
    OnlyRevokes db db' := ⟨id, by rw [h, List.map_id], .refl⟩

lemma OnlyRevokes.trans {db db' db'' : DB} (h : OnlyRevokes db db') (h' : OnlyRevokes db' db'') :
    OnlyRevokes db db'' := by
  obtain ⟨mark, htok, hmark⟩ := h
  obtain ⟨mark', htok', hmark'⟩ := h'
  refine ⟨mark' ∘ mark, ?_, fun t => (hmark t).trans (hmark' _)⟩
  rw [htok', htok, List.map_map]

lemma OnlyRevokes.back {db db' : DB} (h : OnlyRevokes db db') {t' : RefreshToken}
    (ht : t' ∈ db'.refreshTokens) : ∃ t ∈ db.refreshTokens, Revoking t t' := by
  obtain ⟨mark, htok, hmark⟩ := h
  rw [htok] at ht
  obtain ⟨t, hmem, rfl⟩ := List.mem_map.mp ht
  exact ⟨t, hmem, hmark t⟩

lemma OnlyRevokes.forth {db db' : DB} (h : OnlyRevokes db db') {t : RefreshToken}
    (ht : t ∈ db.refreshTokens) : ∃ t' ∈ db'.refreshTokens, Revoking t t' := by
  obtain ⟨mark, htok, hmark⟩ := h
  refine ⟨mark t, ?_, hmark t⟩
  rw [htok]
  exact List.mem_map_of_mem ht

lemma OnlyRevokes.ids {db db' : DB} (h : OnlyRevokes db db') :
    db'.refreshTokens.map RefreshToken.id = db.refreshTokens.map RefreshToken.id := by
  obtain ⟨mark, htok, hmark⟩ := h
  rw [htok, List.map_map]
  refine List.map_congr_left fun t _ => ?_
  rw [Function.comp_apply, (hmark t).same]

/-- A write that at most revokes tokens. -/
def Quiet (w : Write DB Key) : Prop := ∀ db, OnlyRevokes db (w.run db)

lemma quiet_revokeToken (clk : Clock) (id : Ulid) : Quiet (revokeToken clk id) := by
  intro db
  refine ⟨_, rfl, fun t => ?_⟩
  split
  · exact ⟨rfl, fun _ => Option.some_ne_none _⟩
  · exact .refl t

lemma quiet_updateUser (rows : NewPasswordRows) : Quiet (updateUser rows) :=
  fun _ => .of_eq rfl

lemma quiet_insertAudit (row : AuditLog) : Quiet (insertAudit row) := fun _ => .of_eq rfl

/-! ### The writes of an open transaction -/

/-- What the open transaction of a request has written, by where the request stands. -/
def Pc.Owns (ws : List (Write DB Key)) : Pc → Prop
  | .rotated stored => ∃ clk, ws = [rotateToken clk stored]
  | .issued stored _ => ∃ clk token, ws = [rotateToken clk stored, insertToken token] ∧
      token.userId = stored.userId ∧ token.sessionFamilyId = stored.sessionFamilyId
  | .revoking .. | .written _ => ∀ w ∈ ws, Quiet w
  | _ => ws = []

/-- Every request has written what it should have by now. -/
def Owned (s : Sys ι) : Prop := ∀ i, (s.pc i).Owns (s.store.own i)

/-- No request has begun. -/
structure Started (s : Sys ι) : Prop where
  pending : s.store.pending = []
  pc : ∀ i, s.pc i = .start

lemma owned_start {s : Sys ι} (hs : Started s) : Owned s := by
  intro i
  rw [hs.pc i]
  exact Store.own_of_pending_nil hs.pending

lemma owns_reads {clk : Clock} {db : DB} {pc pc' : Pc} (h : Reads clk db pc pc')
    {ws : List (Write DB Key)} (ho : pc.Owns ws) : pc'.Owns ws := by
  cases h with
  | select scope =>
    have hnil : ws = [] := ho
    subst hnil
    exact fun w hw => absurd hw List.not_mem_nil
  | _ => exact ho

lemma owns_writes {r : Request} {clk : Clock} {db : DB} {pc pc' : Pc} {w : Write DB Key}
    (h : Writes env r clk db pc w pc') {ws : List (Write DB Key)} (ho : pc.Owns ws) :
    pc'.Owns (ws ++ [w]) := by
  -- A write after quiet writes: the new list is quiet when the write is.
  have hquiet : (∀ v ∈ ws, Quiet v) → Quiet w → ∀ v ∈ ws ++ [w], Quiet v := by
    intro hws hw v hv
    rcases List.mem_append.mp hv with hv | hv
    · exact hws v hv
    · rwa [List.mem_singleton.mp hv]
  cases h with
  | rotate stored =>
    have hnil : ws = [] := ho
    subst hnil
    exact ⟨clk, rfl⟩
  | insert stored _ htok _ =>
    obtain ⟨clk', rfl⟩ := ho
    subst htok
    exact ⟨clk', _, rfl, rfl, rfl⟩
  | user now ids rows =>
    have hnil : ws = [] := ho
    subst hnil
    exact hquiet (fun v hv => absurd hv List.not_mem_nil) (quiet_updateUser rows)
  | revoke now id ids rows => exact hquiet ho (quiet_revokeToken now id)
  | audit now rows => exact hquiet ho (quiet_insertAudit _)

lemma owns_commits {pc pc' : Pc} (h : Commits pc pc') : pc'.Owns [] := by
  cases h with
  | exchange stored pair => rfl
  | revoked rows => cases rows <;> rfl

lemma owned_read {s : Sys ι} (h : Owned s) {i : ι} {clk : Clock} {pc : Pc}
    (hr : Reads clk (s.store.view i) (s.pc i) pc) : Owned (s.goto i pc) :=
  (Function.forall_update_iff _ fun j (pc : Pc) => pc.Owns (s.store.own j)).mpr
    ⟨owns_reads hr (h i), fun j _ => h j⟩

lemma owned_commit {s : Sys ι} (h : Owned s) {i : ι} {pc : Pc} (hc : Commits (s.pc i) pc) :
    Owned (s.commit i pc) := by
  refine (Function.forall_update_iff _
    fun j (pc : Pc) => pc.Owns ((s.store.commit i).own j)).mpr ⟨?_, fun j hj => ?_⟩
  · rw [Store.own_commit]
    exact owns_commits hc
  · rw [Store.own_commit_of_ne hj]
    exact h j

lemma owned_fail {s : Sys ι} (h : Owned s) (i : ι) (e : ApiError) : Owned (s.fail i e) := by
  refine (Function.forall_update_iff _
    fun j (pc : Pc) => pc.Owns ((s.store.abort i).own j)).mpr ⟨?_, fun j hj => ?_⟩
  · rw [Store.own_abort]
    rfl
  · rw [Store.own_abort_of_ne hj]
    exact h j

/-- **What is written** stays what it should be. -/
theorem owned_step {s s' : Sys ι} {e : Turn ι} (hstep : Stepped env req s e s')
    (h : Owned s) : Owned s' := by
  cases hstep with
  | idle _ => exact h
  | read hr => exact owned_read h hr
  | @write i clk w pc store hw hstore =>
    refine (Function.forall_update_iff _ fun j (pc : Pc) => pc.Owns (store.own j)).mpr
      ⟨?_, fun j hj => ?_⟩
    · rw [Store.own_write hstore]
      exact owns_writes hw (h i)
    · rw [Store.own_write_of_ne hstore hj]
      exact h j
  | commit hc => exact owned_commit h hc
  | fail _ i err => exact owned_fail h i err

/-! ### Commits -/

lemma exchange_committed {s : Sys ι} (h : Owned s) {i : ι} {stored : RefreshToken}
    {pair : TokenPair} (hpc : s.pc i = .issued stored pair) :
    ∃ clk token, insertToken token ∈ s.store.own i ∧ rotateToken clk stored ∈ s.store.own i ∧
      token.userId = stored.userId ∧ token.sessionFamilyId = stored.sessionFamilyId ∧
      (s.store.commit i).committed.refreshTokens =
        Tables.set RefreshToken.id stored.id (RefreshToken.rotate clk)
          s.store.committed.refreshTokens ++ [token] := by
  have ho := h i
  rw [hpc] at ho
  obtain ⟨clk, token, hown, huser, hfam⟩ := ho
  refine ⟨clk, token, ?_, ?_, huser, hfam, ?_⟩
  · rw [hown]
    exact List.mem_cons_of_mem _ List.mem_cons_self
  · rw [hown]
    exact List.mem_cons_self
  · rw [Store.commit, Store.view, hown]
    rfl

lemma written_committed {s : Sys ι} (h : Owned s) {i : ι} {rows : Option NewPasswordRows}
    (hpc : s.pc i = .written rows) :
    OnlyRevokes s.store.committed (s.store.commit i).committed := by
  have ho := h i
  rw [hpc] at ho
  exact Store.commit_rule (fun w hw db hdb => hdb.trans (ho w hw db)) (.of_eq rfl)

end SchoolOs
