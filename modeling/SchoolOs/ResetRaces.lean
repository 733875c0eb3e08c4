import SchoolOs.ResetStatements

/-!
Races between password resets: a reset token is used once as long as the row of the user is read
while the token is open, because then the version counter of that row serialises the resets.
-/

namespace SchoolOs

open ReadCommitted Procs

variable {ι : Type*} [DecidableEq ι] {env : Env} {req : ι → ResetRequest}

/-! ### What one turn can do -/

/-- The token is not used. -/
def Unspent (stored : PasswordResetToken) (db : DB) : Prop :=
  ∀ t ∈ db.passwordResetTokens, t.id = stored.id → t.consumedAt = none

/-- When a request reads its user, its token is not used in the meantime. -/
def ReadsUnspent (s : ResetSys ι) (t : ResetTurn ι) : Prop :=
  ∀ i clk stored, t = .run i clk → s.pc i = .found stored → Unspent stored (s.view i)

section Program

variable (env) (q : ResetRequest) (c : DB)

/-- A read of a reset whose token is not used before it reads the user. -/
inductive ResetReads : ResetPc → ResetPc → Prop
  | find {clk : Clock} {stored : PasswordResetToken} :
      readResetToken env clk c q.data = .ok stored → ResetReads .start (.found stored)
  | load {clk : Clock} {stored : PasswordResetToken} {r : Reset} :
      readResetUser env clk c q stored = .ok r → Unspent stored c →
      ResetReads (.found stored) (.loaded r)
  | others (r : Reset) (othersAt : Instant) :
      ResetReads (.loaded r) (.selected r (selectOthers c r) othersAt)
  | sessions (r : Reset) (others : List Ulid) (othersAt : Instant) (sessions : List Ulid)
      (clk : Clock) : ResetReads (.selected r others othersAt)
        (.flushing ⟨r, others, othersAt, sessions, clk⟩ q.flushes)
  | unchanged {rows : ResetRows} (todo : List Flush) : rows.row = rows.user →
      ResetReads (.flushing rows (.user :: todo)) (.flushing rows todo)

inductive ResetWrites : ResetPc → Write DB Key → ResetPc → Prop
  | flush {rows : ResetRows} {f : Flush} (todo : List Flush) :
      (f = .user → (getUser c rows.user.id).map User.version = some rows.user.version) →
      ResetWrites (.flushing rows (f :: todo)) (f.write rows) (.flushing rows todo)
  | audit (rows : ResetRows) (row : AuditLog) :
      ResetWrites (.flushing rows []) (insertAudit row) (.written rows)

inductive ResetCommits : ResetPc → ResetPc → Prop
  | set (rows : ResetRows) : ResetCommits (.written rows) (.passwordSet rows.stored)

end Program

def resetProgram (env : Env) (req : ι → ResetRequest) : Program ι DB Key ResetPc where
  reads i := ResetReads env (req i)
  writes _ := ResetWrites
  commits _ := ResetCommits
  aborts _ _ pc := ∃ e, pc = .failed e
  outside _ _ := False

lemma reset_next_steps {s : ResetSys ι} {i : ι} {clk : Clock}
    (h : ∀ stored, s.pc i = .found stored → Unspent stored (s.view i)) :
    s.Steps (resetProgram env req) (s.next env req i clk) := by
  unfold ResetSys.next
  split
  · -- The token is found, or the reset refused.
    next hpc =>
    split
    · next stored hread => exact .read (hpc ▸ .find hread)
    · exact .abort ⟨_, rfl⟩
  · next stored hpc =>
    split
    · next r hread => exact .read (hpc ▸ .load hread (h stored hpc))
    · exact .abort ⟨_, rfl⟩
  · next r hpc => exact .read (hpc ▸ .others r _)
  · next r others othersAt hpc => exact .read (hpc ▸ .sessions r others othersAt _ clk)
  · -- The flushes, those of the user under the version that was read.
    next rows f todo hpc =>
    unfold ResetSys.flush
    split
    · next hsame =>
      obtain ⟨rfl, hsame⟩ := hsame
      exact .read (hpc ▸ .unchanged todo hsame)
    split
    · exact .abort ⟨_, rfl⟩
    · next hversion =>
      refine steps_write (hpc ▸ .flush todo fun hf => ?_)
      by_contra hne
      exact hversion ⟨hf, hne⟩
  · next rows hpc =>
    split
    · exact steps_write (hpc ▸ .audit rows _)
    · exact .abort ⟨_, rfl⟩
  · next rows hpc => exact .commit (hpc ▸ .set rows)
  all_goals exact .idle

/-- **One turn**: nothing, a read, a write that did not wait, a commit, or a failure. -/
theorem reset_steps {s : ResetSys ι} {t : ResetTurn ι} (h : ReadsUnspent s t) :
    s.Steps (resetProgram env req) (s.step env req t) := by
  cases t with
  | run i clk => exact reset_next_steps fun stored hpc => h i clk stored rfl hpc
  | abort i =>
    simp only [ResetSys.step]
    split
    · exact .abort ⟨_, rfl⟩
    · exact .idle

/-! ### What a reset writes -/

/-- A write of the reset. -/
def ResetWrite (rows : ResetRows) (w : Write DB Key) : Prop :=
  (∃ f : Flush, w = f.write rows) ∨ ∃ row, w = insertAudit row

/-- The same token, perhaps used; when the reset uses it, then it is. -/
structure Consuming (rows : ResetRows) (t t' : PasswordResetToken) : Prop where
  same : t' = { t with consumedAt := t'.consumedAt }
  used : t.consumedAt ≠ none → t'.consumedAt ≠ none
  others : t.id ∉ rows.stored.id :: rows.others → t' = t

lemma Consuming.refl (rows : ResetRows) (t : PasswordResetToken) : Consuming rows t t :=
  ⟨rfl, id, fun _ => rfl⟩

lemma Consuming.id_eq {rows : ResetRows} {t t' : PasswordResetToken} (h : Consuming rows t t') :
    t'.id = t.id ∧ t'.userId = t.userId := by
  rw [h.same]
  exact ⟨rfl, rfl⟩

lemma Consuming.trans {rows : ResetRows} {t t' t'' : PasswordResetToken}
    (h : Consuming rows t t') (h' : Consuming rows t' t'') : Consuming rows t t'' := by
  refine ⟨?_, fun ht => h'.used (h.used ht), fun ht => ?_⟩
  · calc t'' = { t' with consumedAt := t''.consumedAt } := h'.same
      _ = { t with consumedAt := t''.consumedAt } := by rw [h.same]
  · have ht' : t' = t := h.others ht
    rw [h'.others (ht' ▸ ht), ht']

lemma consuming_ite {rows : ResetRows} {t : PasswordResetToken} {p : Prop} [Decidable p]
    (usedAt : Instant) (hp : p → t.id ∈ rows.stored.id :: rows.others) :
    Consuming rows t (if p then { t with consumedAt := some usedAt } else t) := by
  by_cases h : p
  · rw [if_pos h]
    exact ⟨rfl, fun _ => Option.some_ne_none _, fun hnot => absurd (hp h) hnot⟩
  · rw [if_neg h]
    exact .refl rows t

/-- What the writes of a reset leave of the users and of the reset tokens. -/
structure ResetEffect (rows : ResetRows) (db db' : DB) : Prop where
  tokens : ∃ mark, db'.passwordResetTokens = db.passwordResetTokens.map mark ∧
    ∀ t, Consuming rows t (mark t)
  users : ∀ u ∈ db'.users, u ∈ db.users ∨ u = rows.row ∧ ∃ u0 ∈ db.users, u0.id = rows.user.id

lemma ResetEffect.refl (rows : ResetRows) (db : DB) : ResetEffect rows db db where
  tokens := ⟨id, (List.map_id _).symm, .refl rows⟩
  users := fun _ hu => .inl hu

lemma resetEffect_write {rows : ResetRows} {w : Write DB Key} (h : ResetWrite rows w)
    {db db' : DB} (he : ResetEffect rows db db') :
    ResetEffect rows db (w.run db') := by
  rcases h with ⟨f, rfl⟩ | ⟨row, rfl⟩
  · cases f with
    | refreshTokens => exact ⟨he.tokens, he.users⟩
    | user =>
      refine ⟨he.tokens, fun u hu => ?_⟩
      obtain ⟨u1, hu1, rfl⟩ := Tables.mem_set.mp hu
      split
      · next hu1id =>
        refine .inr ⟨rfl, ?_⟩
        rcases he.users u1 hu1 with hold | ⟨_, hexists⟩
        · exact ⟨u1, hold, hu1id⟩
        · exact hexists
      · exact he.users u1 hu1
    | resetTokens =>
      obtain ⟨mark, htok, hmark⟩ := he.tokens
      refine ⟨?_, he.users⟩
      simp only [Flush.write, consumeTokens, Tables.set, Tables.setWhere, htok, List.map_map,
        decide_eq_true_eq]
      refine ⟨_, rfl, fun t => (hmark t).trans ?_⟩
      have hfirst : Consuming rows (mark t) (if (mark t).id = rows.stored.id then
          { mark t with consumedAt := some rows.consumedAt } else mark t) :=
        consuming_ite rows.consumedAt fun h => h ▸ List.mem_cons_self
      exact hfirst.trans (consuming_ite rows.othersAt fun h => List.mem_cons_of_mem _ h)
  · exact ⟨he.tokens, he.users⟩

section Effect

variable {rows : ResetRows} {ws : List (Write DB Key)} {c : DB}

lemma resetEffect_after (hws : ∀ w ∈ ws, ResetWrite rows w) (c : DB) :
    ResetEffect rows c (after ws c) :=
  Store.foldl_keeps (I := ResetEffect rows c) (fun w hw _ he => resetEffect_write (hws w hw) he)
    (.refl rows c)

lemma updated_after (hws : ∀ w ∈ ws, ResetWrite rows w) (hw : updateUserRow rows.toReset ∈ ws)
    (c : DB) : ∀ u ∈ (after ws c).users, u.id = rows.user.id → u = rows.row := by
  refine Store.foldl_establishes (I := fun db : DB => ∀ u ∈ db.users, u.id = rows.user.id →
    u = rows.row) hw ?_ ?_ c
  · intro db u hu hid
    obtain ⟨u0, _, rfl⟩ := Tables.mem_set.mp hu
    split
    · rfl
    · next hne =>
      rw [if_neg hne] at hid
      exact absurd hid hne
  · intro w hw db hdb u hu hid
    rcases hws w hw with ⟨f, rfl⟩ | ⟨row, rfl⟩
    · cases f with
      | user =>
        obtain ⟨u0, hu0, rfl⟩ := Tables.mem_set.mp hu
        split
        · rfl
        · next hne =>
          rw [if_neg hne] at hid
          exact absurd hid hne
      | resetTokens | refreshTokens => exact hdb u hu hid
    · exact hdb u hu hid

lemma consumed_after (hws : ∀ w ∈ ws, ResetWrite rows w) (hw : consumeTokens rows ∈ ws) (c : DB) :
    ∀ t ∈ (after ws c).passwordResetTokens, t.id ∈ rows.stored.id :: rows.others →
      t.consumedAt ≠ none := by
  have hset : ∀ db : DB, ∀ t ∈ ((consumeTokens rows).run db).passwordResetTokens,
      t.id ∈ rows.stored.id :: rows.others → t.consumedAt ≠ none := by
    intro db t ht hid
    obtain ⟨t1, ht1, rfl⟩ := Tables.mem_setWhere.mp ht
    obtain ⟨t0, _, rfl⟩ := Tables.mem_set.mp ht1
    by_cases hst : t0.id = rows.stored.id
    · rw [if_pos hst]
      split <;> exact Option.some_ne_none _
    · rw [if_neg hst] at hid ⊢
      split at hid
      · next hot => simp [hot]
      · next hot =>
        have hmem : t0.id ∈ rows.others := (List.mem_cons.mp hid).resolve_left hst
        exact absurd (decide_eq_true hmem) hot
  refine Store.foldl_establishes (I := fun db : DB => ∀ t ∈ db.passwordResetTokens,
    t.id ∈ rows.stored.id :: rows.others → t.consumedAt ≠ none) hw hset ?_ c
  intro w hw db hdb t ht hid
  obtain ⟨mark, htok, hmark⟩ := (resetEffect_write (hws w hw) (.refl rows db)).tokens
  rw [htok] at ht
  obtain ⟨t0, ht0, rfl⟩ := List.mem_map.mp ht
  have hid0 : t0.id ∈ rows.stored.id :: rows.others := (hmark t0).id_eq.1 ▸ hid
  exact (hmark t0).used (hdb t0 ht0 hid0)

end Effect

/-! ### The assertions -/

/-- The keys of users and of reset tokens. -/
structure ResetSound (c : DB) : Prop where
  users : (c.users.map User.id).Nodup
  tokens : (c.passwordResetTokens.map PasswordResetToken.id).Nodup

/-- The hash that the request is going to store. -/
def ResetRequest.hash (env : Env) (q : ResetRequest) : String :=
  env.hashPassword q.salt q.data.newPassword

/-- No account has the hash. -/
def Unhashed (hash : String) (c : DB) : Prop := ∀ u ∈ c.users, u.passwordHash ≠ some hash

/-- The token belongs to the user. -/
def TokenOf (t : PasswordResetToken) (u : Ulid) (c : DB) : Prop :=
  ∃ t' ∈ c.passwordResetTokens, t'.id = t.id ∧ t'.userId = u

/-- Every reset token of the user is used. -/
def AllSpent (u : Ulid) (c : DB) : Prop :=
  ∀ t ∈ c.passwordResetTokens, t.userId = u → t.consumedAt ≠ none

/-- A request that has read its user: as long as the version is the one that was read, its token
is not used. -/
structure Loaded (hash : String) (r : Reset) (c : DB) : Prop where
  owned : TokenOf r.stored r.user.id c
  sameUser : r.stored.userId = r.user.id
  rowId : r.row.id = r.user.id
  rowVersion : r.row.version = r.user.version + 1
  rowHash : r.row.passwordHash = some hash
  changed : r.row ≠ r.user
  version : ∀ u ∈ c.users, u.id = r.user.id → r.user.version ≤ u.version
  unspent : ∀ u ∈ c.users, u.id = r.user.id → u.version = r.user.version → Unspent r.stored c

/-- The tokens of the user are used, or selected to be used. -/
structure Selected (r : Reset) (others : List Ulid) (c : DB) : Prop where
  covers : ∀ t ∈ c.passwordResetTokens, t.userId = r.user.id →
    t.consumedAt ≠ none ∨ t.id ∈ r.stored.id :: others
  own : ∀ t ∈ c.passwordResetTokens, t.id ∈ r.stored.id :: others → t.userId = r.user.id

/-- A request whose updates are flushed but for `todo`. Once the row of the user is locked, its
version is the one that was read, and the token is not used. -/
structure Flushing (hash : String) (rows : ResetRows) (todo : List Flush)
    (ws : List (Write DB Key)) (c : DB) : Prop where
  loaded : Loaded hash rows.toReset c
  selected : Selected rows.toReset rows.others c
  unhashed : Unhashed hash c
  once : todo.Nodup
  writes : ∀ w ∈ ws, ResetWrite rows w
  untouched : .user ∈ todo → ∀ c : DB, (after ws c).users = c.users
  locked : .user ∉ todo → updateUserRow rows.toReset ∈ ws ∧ Unspent rows.stored c ∧
    ∀ u ∈ c.users, u.id = rows.user.id → u.version = rows.user.version
  consumed : .resetTokens ∉ todo → consumeTokens rows ∈ ws

/-- What holds where a request stands. -/
def ResetPc.Holds (hash : String) (ws : List (Write DB Key)) (c : DB) : ResetPc → Prop
  | .start => ws = [] ∧ Unhashed hash c
  | .found stored => ws = [] ∧ Unhashed hash c ∧ TokenOf stored stored.userId c
  | .loaded r => ws = [] ∧ Unhashed hash c ∧ Loaded hash r c
  | .selected r others _ => ws = [] ∧ Unhashed hash c ∧ Loaded hash r c ∧ Selected r others c
  | .flushing rows todo => Flushing hash rows todo ws c
  | .written rows => Flushing hash rows [] ws c
  | .passwordSet stored => ws = [] ∧ AllSpent stored.userId c ∧ TokenOf stored stored.userId c
  | .failed _ => ws = []

section Holds

variable {hash hash' : String} {rows rows' : ResetRows} {r : Reset} {others : List Ulid}
  {stored : PasswordResetToken} {todo : List Flush} {ws ws' : List (Write DB Key)} {c c' : DB}

/-! ### What a committed reset leaves to the others -/

lemma TokenOf.effect {u : Ulid} (h : TokenOf stored u c) (he : ResetEffect rows c c') :
    TokenOf stored u c' := by
  obtain ⟨t, ht, hid, hu⟩ := h
  obtain ⟨mark, htok, hmark⟩ := he.tokens
  refine ⟨mark t, ?_, (hmark t).id_eq.1.trans hid, (hmark t).id_eq.2.trans hu⟩
  rw [htok]
  exact List.mem_map_of_mem ht

lemma AllSpent.effect {u : Ulid} (h : AllSpent u c) (he : ResetEffect rows c c') :
    AllSpent u c' := by
  intro t ht hu
  obtain ⟨mark, htok, hmark⟩ := he.tokens
  rw [htok] at ht
  obtain ⟨t0, ht0, rfl⟩ := List.mem_map.mp ht
  exact (hmark t0).used (h t0 ht0 ((hmark t0).id_eq.2 ▸ hu))

lemma Unhashed.effect (h : Unhashed hash c) (he : ResetEffect rows c c')
    (hne : rows.row.passwordHash ≠ some hash) : Unhashed hash c' := by
  intro u hu
  rcases he.users u hu with hold | ⟨rfl, _⟩
  · exact h u hold
  · exact hne

lemma Unspent.effect {u : Ulid} (h : Unspent stored c) (hkeys : ResetSound c)
    (hof : TokenOf stored u c) (hown : Selected rows.toReset rows.others c)
    (hne : u ≠ rows.user.id) (he : ResetEffect rows c c') : Unspent stored c' := by
  intro t ht hid
  obtain ⟨mark, htok, hmark⟩ := he.tokens
  rw [htok] at ht
  obtain ⟨t0, ht0, rfl⟩ := List.mem_map.mp ht
  have hid0 : t0.id = stored.id := (hmark t0).id_eq.1 ▸ hid
  obtain ⟨t1, ht1, hid1, hu1⟩ := hof
  obtain rfl := List.inj_on_of_nodup_map hkeys.tokens ht1 ht0 (hid1.trans hid0.symm)
  have hout : t1.id ∉ rows.stored.id :: rows.others := fun hmem =>
    hne (hu1.symm.trans (hown.own t1 ht1 hmem))
  rw [(hmark t1).others hout]
  exact h t1 ht0 hid0

lemma Selected.effect (h : Selected r others c) (he : ResetEffect rows c c') :
    Selected r others c' := by
  obtain ⟨mark, htok, hmark⟩ := he.tokens
  refine ⟨fun t ht hu => ?_, fun t ht hmem => ?_⟩
  · rw [htok] at ht
    obtain ⟨t0, ht0, rfl⟩ := List.mem_map.mp ht
    rw [(hmark t0).id_eq.1]
    exact (h.covers t0 ht0 ((hmark t0).id_eq.2 ▸ hu)).imp_left (hmark t0).used
  · rw [htok] at ht
    obtain ⟨t0, ht0, rfl⟩ := List.mem_map.mp ht
    rw [(hmark t0).id_eq.2]
    exact h.own t0 ht0 ((hmark t0).id_eq.1 ▸ hmem)

/-- The commit of a reset leaves another one loaded: of the same user, with a version that is past
the one that was read. -/
lemma Loaded.effect (h : Loaded hash r c) (hkeys : ResetSound c)
    (hf : Flushing hash' rows [] ws c) : Loaded hash r (after ws c) := by
  have he := resetEffect_after hf.writes c
  obtain ⟨hupdate, _, hversion⟩ := hf.locked List.not_mem_nil
  refine ⟨h.owned.effect he, h.sameUser, h.rowId, h.rowVersion, h.rowHash, h.changed,
    fun u hu hid => ?_, fun u hu hid hv => ?_⟩
  · rcases he.users u hu with hold | ⟨rfl, u0, hu0, hid0⟩
    · exact h.version u hold hid
    · have hsame : u0.id = r.user.id := by rw [hid0, ← hf.loaded.rowId, hid]
      have h0 := h.version u0 hu0 hsame
      rw [hversion u0 hu0 hid0] at h0
      rw [hf.loaded.rowVersion]
      omega
  · by_cases hsame : r.user.id = rows.user.id
    · -- The row of the user is the new one, whose version is higher.
      obtain rfl := updated_after hf.writes hupdate c u hu (hid.trans hsame)
      exfalso
      rcases he.users _ hu with hold | ⟨_, u0, hu0, hid0⟩
      · have h0 := hversion _ hold hf.loaded.rowId
        have h1 := hf.loaded.rowVersion
        omega
      · have h0 := h.version u0 hu0 (hid0.trans hsame.symm)
        have h1 := hversion u0 hu0 hid0
        have h2 := hf.loaded.rowVersion
        omega
    · have hold : u ∈ c.users := by
        refine (he.users u hu).resolve_right ?_
        rintro ⟨rfl, _⟩
        exact hsame (hid.symm.trans hf.loaded.rowId)
      exact (h.unspent u hold hid hv).effect hkeys h.owned hf.selected hsame he

/-- The commit of a reset changes nothing that one of another user has locked. -/
lemma Flushing.effect (h : Flushing hash rows todo ws' c) (hkeys : ResetSound c)
    (hf : Flushing hash' rows' [] ws c) (hne : hash' ≠ hash) (hapart : Apart ws ws') :
    Flushing hash rows todo ws' (after ws c) := by
  have he := resetEffect_after hf.writes c
  refine ⟨h.loaded.effect hkeys hf, h.selected.effect he, h.unhashed.effect he ?_, h.once, h.writes,
    h.untouched, fun htodo => ?_, h.consumed⟩
  · rw [hf.loaded.rowHash]
    exact fun heq => hne (Option.some.inj heq)
  · obtain ⟨hupdate, hunspent, hversion⟩ := h.locked htodo
    obtain ⟨hupdate', _⟩ := hf.locked List.not_mem_nil
    have huser : rows.user.id ≠ rows'.user.id := by
      intro heq
      have hlock : Key.user rows'.user.id ∈ (updateUserRow rows.toReset).locks := by
        rw [← heq]
        exact List.mem_cons_self
      exact hapart _ hupdate' _ hupdate _ List.mem_cons_self hlock
    refine ⟨hupdate, hunspent.effect hkeys h.loaded.owned hf.selected huser he,
      fun u hu hid => ?_⟩
    rcases he.users u hu with hold | ⟨rfl, _⟩
    · exact hversion u hold hid
    · exact absurd (hid.symm.trans hf.loaded.rowId) huser

/-- **No interference**: what holds where a request stands survives the commit of another. -/
lemma holds_effect {pc : ResetPc} (h : pc.Holds hash ws' c) (hkeys : ResetSound c)
    (hf : Flushing hash' rows [] ws c) (hne : hash' ≠ hash) (hapart : Apart ws ws') :
    pc.Holds hash ws' (after ws c) := by
  have he := resetEffect_after hf.writes c
  have hhash : rows.row.passwordHash ≠ some hash := by
    rw [hf.loaded.rowHash]
    exact fun heq => hne (Option.some.inj heq)
  cases pc with
  | start => exact ⟨h.1, h.2.effect he hhash⟩
  | found stored => exact ⟨h.1, h.2.1.effect he hhash, h.2.2.effect he⟩
  | loaded r => exact ⟨h.1, h.2.1.effect he hhash, h.2.2.effect hkeys hf⟩
  | selected r others othersAt =>
    exact ⟨h.1, h.2.1.effect he hhash, h.2.2.1.effect hkeys hf, h.2.2.2.effect he⟩
  | flushing rows todo => exact Flushing.effect h hkeys hf hne hapart
  | written rows => exact Flushing.effect h hkeys hf hne hapart
  | passwordSet stored => exact ⟨h.1, h.2.1.effect he, h.2.2.effect he⟩
  | failed e => exact h

/-! ### What a request does itself -/

lemma loaded_of_read {q : ResetRequest} {clk : Clock} (hkeys : ResetSound c)
    (hhash : Unhashed (q.hash env) c) (hof : TokenOf stored stored.userId c)
    (h : readResetUser env clk c q stored = .ok r) (hunspent : Unspent stored c) :
    Loaded (q.hash env) r c := by
  obtain ⟨user, huser, h⟩ := bind_ok.mp h
  obtain ⟨_, _, h⟩ := bind_ok.mp h
  obtain rfl := Except.ok.inj h
  obtain ⟨hmem, hid⟩ := Tables.get_mem (found_ok.mp huser)
  have hnew : { withPassword env clk user q.data.newPassword q.salt with status := .active } ≠
      user := by
    intro heq
    have hsame := congrArg User.passwordHash heq
    exact hhash user hmem hsame.symm
  have hrow : flushed User.touch user { withPassword env clk user q.data.newPassword q.salt with
      status := .active } = User.touch { withPassword env clk user q.data.newPassword q.salt with
        status := .active } := if_neg hnew
  refine ⟨hid ▸ hof, hid.symm, ?_, ?_, ?_, ?_, fun u hu huid => ?_, fun _ _ _ _ => hunspent⟩
  · simp only [hrow]
    rfl
  · simp only [hrow]
    rfl
  · simp only [hrow]
    rfl
  · simp only [hrow]
    exact fun heq => absurd (congrArg User.version heq) (Nat.succ_ne_self _)
  · obtain rfl := List.inj_on_of_nodup_map hkeys.users hu hmem huid
    exact le_rfl

lemma selected_of_read (h : Loaded hash r c) (hkeys : ResetSound c) :
    Selected r (selectOthers c r) c := by
  have hmem : ∀ id, id ∈ selectOthers c r ↔ ∃ t ∈ c.passwordResetTokens,
      (t.userId = r.user.id ∧ t.consumedAt = none ∧ t.id ≠ r.stored.id) ∧ t.id = id := by
    intro id
    simp only [selectOthers, List.mem_map, List.mem_filter, decide_eq_true_eq, and_assoc]
  refine ⟨fun t ht hu => ?_, fun t ht hin => ?_⟩
  · by_cases hopen : t.consumedAt = none
    · refine .inr ?_
      by_cases hid : t.id = r.stored.id
      · exact List.mem_cons.mpr (.inl hid)
      · exact List.mem_cons_of_mem _ ((hmem t.id).mpr ⟨t, ht, ⟨hu, hopen, hid⟩, rfl⟩)
    · exact .inl hopen
  · rcases List.mem_cons.mp hin with hid | hin
    · obtain ⟨t0, ht0, hid0, hu0⟩ := h.owned
      obtain rfl := List.inj_on_of_nodup_map hkeys.tokens ht0 ht (hid0.trans hid.symm)
      exact hu0
    · obtain ⟨t0, ht0, ⟨hu0, _⟩, hid0⟩ := (hmem t.id).mp hin
      obtain rfl := List.inj_on_of_nodup_map hkeys.tokens ht0 ht hid0
      exact hu0

lemma holds_resetReads {q : ResetRequest} {pc pc' : ResetPc}
    (h : ResetReads env q (after ws c) pc pc') (hkeys : ResetSound c)
    (hp : pc.Holds (q.hash env) ws c) : pc'.Holds (q.hash env) ws c := by
  cases h with
  | find hread =>
    obtain ⟨rfl, hhash⟩ := hp
    obtain ⟨stored, hstored, hread⟩ := bind_ok.mp hread
    obtain ⟨_, _, hread⟩ := bind_ok.mp hread
    obtain rfl := Except.ok.inj hread
    exact ⟨rfl, hhash, stored, (Tables.get_mem (found_ok.mp hstored)).1, rfl, rfl⟩
  | load hread hunspent =>
    obtain ⟨rfl, hhash, hof⟩ := hp
    exact ⟨rfl, hhash, loaded_of_read hkeys hhash hof hread hunspent⟩
  | others r othersAt =>
    obtain ⟨rfl, hhash, hloaded⟩ := hp
    exact ⟨rfl, hhash, hloaded, selected_of_read hloaded hkeys⟩
  | sessions r others othersAt sessions clk =>
    obtain ⟨rfl, hhash, hloaded, hselected⟩ := hp
    have hall : ∀ f : Flush, f ∈ q.flushes := by
      intro f
      rw [q.perm.mem_iff]
      cases f <;> simp
    refine ⟨hloaded, hselected, hhash, ?_, fun w hw => absurd hw List.not_mem_nil,
      fun _ _ => rfl, fun hout => absurd (hall _) hout, fun hout => absurd (hall _) hout⟩
    exact q.perm.nodup_iff.mpr (by decide)
  | unchanged todo hsame => exact absurd hsame hp.loaded.changed

lemma Flushing.flush {f : Flush} (h : Flushing hash rows (f :: todo) ws c) (hkeys : ResetSound c)
    (hversion : f = .user →
      (getUser (after ws c) rows.user.id).map User.version = some rows.user.version) :
    Flushing hash rows todo (ws ++ [f.write rows]) c := by
  obtain ⟨hnot, honce⟩ := List.nodup_cons.mp h.once
  refine ⟨h.loaded, h.selected, h.unhashed, honce, fun w hw => ?_, fun huser c' => ?_,
    fun huser => ?_, fun htokens => ?_⟩
  · rcases List.mem_append.mp hw with hw | hw
    · exact h.writes w hw
    · exact .inl ⟨f, List.mem_singleton.mp hw⟩
  · rw [after_snoc, ← h.untouched (List.mem_cons_of_mem _ huser) c']
    cases f with
    | user => exact absurd huser hnot
    | resetTokens | refreshTokens => rfl
  · -- The update of the user: its row was there under the version that was read.
    by_cases hf : f = .user
    · subst hf
      refine ⟨List.mem_append_right _ List.mem_cons_self, ?_⟩
      obtain ⟨u, hget, hv⟩ := Option.map_eq_some_iff.mp (hversion rfl)
      obtain ⟨hmem, hid⟩ := Tables.get_mem hget
      rw [h.untouched List.mem_cons_self c] at hmem
      refine ⟨h.loaded.unspent u hmem hid hv, fun u' hu' hid' => ?_⟩
      obtain rfl := List.inj_on_of_nodup_map hkeys.users hu' hmem (hid'.trans hid.symm)
      exact hv
    · have hout : .user ∉ f :: todo := by
        intro hmem
        rcases List.mem_cons.mp hmem with heq | hmem
        · exact hf heq.symm
        · exact huser hmem
      obtain ⟨hupdate, hrest⟩ := h.locked hout
      exact ⟨List.mem_append_left _ hupdate, hrest⟩
  · -- The update of the tokens: they are used.
    by_cases hf : f = .resetTokens
    · subst hf
      exact List.mem_append_right _ List.mem_cons_self
    · have hout : .resetTokens ∉ f :: todo := by
        intro hmem
        rcases List.mem_cons.mp hmem with heq | hmem
        · exact hf heq.symm
        · exact htokens hmem
      exact List.mem_append_left _ (h.consumed hout)

lemma Flushing.audit (h : Flushing hash rows [] ws c) (row : AuditLog) :
    Flushing hash rows [] (ws ++ [insertAudit row]) c := by
  obtain ⟨hupdate, hrest⟩ := h.locked List.not_mem_nil
  refine ⟨h.loaded, h.selected, h.unhashed, h.once, fun w hw => ?_,
    fun hin => absurd hin List.not_mem_nil, fun _ => ⟨List.mem_append_left _ hupdate, hrest⟩,
    fun hout => List.mem_append_left _ (h.consumed hout)⟩
  rcases List.mem_append.mp hw with hw | hw
  · exact h.writes w hw
  · exact .inr ⟨row, List.mem_singleton.mp hw⟩

lemma Flushing.commit (h : Flushing hash rows [] ws c) (hkeys : ResetSound c) :
    ResetSound (after ws c) ∧ AllSpent rows.stored.userId (after ws c) ∧
      TokenOf rows.stored rows.stored.userId (after ws c) := by
  have hof : TokenOf rows.stored rows.stored.userId (after ws c) := by
    rw [h.loaded.sameUser]
    exact h.loaded.owned.effect (resetEffect_after h.writes c)
  obtain ⟨mark, htok, hmark⟩ := (resetEffect_after h.writes c).tokens
  have husers : (after ws c).users.map User.id = c.users.map User.id := by
    refine after_frame (f := fun db : DB => db.users.map User.id) (fun w hw db => ?_) c
    rcases h.writes w hw with ⟨f, rfl⟩ | ⟨row, rfl⟩
    · cases f with
      | user => exact Tables.map_key_set_row h.loaded.rowId _
      | resetTokens | refreshTokens => rfl
    · rfl
  have htokens : (after ws c).passwordResetTokens.map PasswordResetToken.id =
      c.passwordResetTokens.map PasswordResetToken.id := by
    rw [htok, List.map_map]
    exact List.map_congr_left fun t _ => (hmark t).id_eq.1
  refine ⟨⟨husers ▸ hkeys.users, htokens ▸ hkeys.tokens⟩, fun t ht hu => ?_, hof⟩
  have hconsumed := consumed_after h.writes (h.consumed List.not_mem_nil) c t ht
  rw [htok] at ht
  obtain ⟨t0, ht0, rfl⟩ := List.mem_map.mp ht
  have hu0 : t0.userId = rows.user.id := by
    rw [← (hmark t0).id_eq.2, hu, h.loaded.sameUser]
  rcases h.selected.covers t0 ht0 hu0 with hused | hin
  · exact (hmark t0).used hused
  · exact hconsumed ((hmark t0).id_eq.1.symm ▸ hin)

end Holds

omit [DecidableEq ι] in
/-- **The proof outline of the resets**, when no two of them store one hash. -/
theorem reset_outline (hsalt : Function.Injective fun i => (req i).hash env) :
    Outline (resetProgram env req) ResetSound fun i pc ws c =>
      pc.Holds ((req i).hash env) ws c where
  read := fun hr hg hp => holds_resetReads hr hg hp
  write := by
    intro i pc w pc' ws c hw hg hp
    cases hw with
    | flush todo hversion => exact hp.flush hg hversion
    | audit rows row => exact hp.audit row
  commit := by
    intro i pc pc' ws c hc hg hp
    cases hc with
    | set rows =>
      obtain ⟨hsound, hspent⟩ := hp.commit hg
      exact ⟨hsound, rfl, hspent⟩
  abort := by
    rintro i pc pc' ws c ⟨e, rfl⟩ _ _
    rfl
  interfere := by
    intro i j pc pc' qc ws ws' c hij hapart hc hg hp hq
    cases hc with
    | set rows => exact holds_effect hq hg hp (fun heq => hij (hsalt heq)) hapart
  outside := fun ho => ho.elim

/-! ### Single use -/

/-- The token whose reset has set a password. -/
def ResetPc.used : ResetPc → Option PasswordResetToken
  | .passwordSet stored => some stored
  | _ => none

/-- A reset token is used by one request, and of the tokens of a user only one is. -/
structure ResetSingleUse (s : ResetSys ι) : Prop where
  token : ∀ i j t t', (s.pc i).used = some t → (s.pc j).used = some t' → t.id = t'.id → i = j
  user : ∀ i j t t', (s.pc i).used = some t → (s.pc j).used = some t' → t.userId = t'.userId →
    i = j

/-- The assertions hold of the system. -/
abbrev ResetValid (env : Env) (req : ι → ResetRequest) (s : ResetSys ι) : Prop :=
  Valid ResetSound (fun i pc ws c => pc.Holds ((req i).hash env) ws c) s

/-- A reset that commits finds its token open, so that none of the user's was used. -/
lemma open_at_commit {s : ResetSys ι} (h : ResetValid env req s) {i j : ι} {rows : ResetRows}
    (hpc : s.pc i = .written rows) {t : PasswordResetToken} (hused : (s.pc j).used = some t) :
    t.userId ≠ rows.stored.userId := by
  intro hsame
  have hi := h.local_ i
  have hj := h.local_ j
  rw [hpc] at hi
  have hflush : Flushing ((req i).hash env) rows [] (s.store.own i) s.store.committed := hi
  obtain ⟨_, hunspent, _⟩ := hflush.locked List.not_mem_nil
  obtain ⟨t0, ht0, hid0, hu0⟩ := hflush.loaded.owned
  generalize s.pc j = qc at hj hused
  cases qc with
  | passwordSet stored =>
    obtain rfl := Option.some.inj hused
    have hspent := hj.2.1 t0 ht0 (by rw [hu0, hsame, hflush.loaded.sameUser])
    exact hspent (hunspent t0 ht0 hid0)
  | _ => cases hused

/-- Of the tokens of a user at most one is used. -/
def OnePerUser (s : ResetSys ι) : Prop :=
  ∀ i j t t', (s.pc i).used = some t → (s.pc j).used = some t' → t.userId = t'.userId → i = j

lemma used_update {s : ResetSys ι} {i j : ι} {pc : ResetPc} {t : PasswordResetToken}
    (hpc : pc.used = none) (h : (Function.update s.pc i pc j).used = some t) :
    (s.pc j).used = some t := by
  by_cases hj : j = i
  · subst hj
    rw [Function.update_self, hpc] at h
    cases h
  · rwa [Function.update_of_ne hj] at h

/-- **Single use, one step.** -/
lemma onePerUser_step {s s' : ResetSys ι} (hstep : s.Steps (resetProgram env req) s')
    (hv : ResetValid env req s) (h : OnePerUser s) : OnePerUser s' := by
  cases hstep with
  | idle => exact h
  | @read i pc hr =>
    have hpc : pc.used = none := by
      generalize s.pc i = pc0 at hr
      cases hr <;> rfl
    exact fun a b t t' ha hb => h a b t t' (used_update hpc ha) (used_update hpc hb)
  | @write i w pc store hw _ =>
    have hpc : pc.used = none := by
      generalize s.pc i = pc0 at hw
      cases hw <;> rfl
    exact fun a b t t' ha hb => h a b t t' (used_update hpc ha) (used_update hpc hb)
  | @abort i pc ha =>
    obtain ⟨e, rfl⟩ := ha
    exact fun a b t t' ha hb => h a b t t' (used_update rfl ha) (used_update rfl hb)
  | @commit i pc hc =>
    generalize hpc : s.pc i = pc0 at hc
    cases hc with
    | set rows =>
      -- The request that commits is the first one of its user.
      have hnew : ∀ j t, ((s.commit i (.passwordSet rows.stored)).pc j).used = some t →
          j = i ∧ t = rows.stored ∨ t.userId ≠ rows.stored.userId ∧ (s.pc j).used = some t := by
        intro j t hj
        by_cases hji : j = i
        · subst hji
          simp only [Procs.commit, Function.update_self] at hj
          exact .inl ⟨rfl, (Option.some.inj hj).symm⟩
        · simp only [Procs.commit, Function.update_of_ne hji] at hj
          exact .inr ⟨open_at_commit hv hpc hj, hj⟩
      intro a b t t' ha hb hsame
      rcases hnew a t ha with ⟨rfl, rfl⟩ | ⟨hne, hused⟩
      · rcases hnew b t' hb with ⟨rfl, _⟩ | ⟨hne', _⟩
        · rfl
        · exact absurd hsame.symm hne'
      · rcases hnew b t' hb with ⟨_, rfl⟩ | ⟨_, hused'⟩
        · exact absurd hsame hne
        · exact h a b t t' hused hused' hsame
  | outside ho => exact ho.elim

lemma sameUser_of_sameToken {s : ResetSys ι} (h : ResetValid env req s) {i j : ι}
    {t t' : PasswordResetToken} (hi : (s.pc i).used = some t) (hj : (s.pc j).used = some t')
    (hid : t.id = t'.id) : t.userId = t'.userId := by
  have hof : ∀ k t, (s.pc k).used = some t → TokenOf t t.userId s.store.committed := by
    intro k t hk
    have hl := h.local_ k
    generalize s.pc k = qc at hl hk
    cases qc with
    | passwordSet stored =>
      obtain rfl := Option.some.inj hk
      exact hl.2.2
    | _ => cases hk
  obtain ⟨t1, ht1, hid1, hu1⟩ := hof i t hi
  obtain ⟨t2, ht2, hid2, hu2⟩ := hof j t' hj
  obtain rfl := List.inj_on_of_nodup_map h.global.tokens ht1 ht2
    (hid1.trans (hid.trans hid2.symm))
  exact hu1.symm.trans hu2

/-- No request has begun, and none of the hashes they are going to store is there. -/
structure ResetsStarted (env : Env) (req : ι → ResetRequest) (s : ResetSys ι) : Prop where
  pending : s.store.pending = []
  pc : ∀ i, s.pc i = .start
  sound : ResetSound s.store.committed
  salted : Function.Injective fun i => (req i).hash env
  unhashed : ∀ i, Unhashed ((req i).hash env) s.store.committed

/-- **Reset tokens are single use** in every run in which every request reads its user while its
token is open, in every state reached. -/
theorem resets_singleUse {s : ResetSys ι} (hs : ResetsStarted env req s) {l : List (ResetTurn ι)}
    (hl : Runs.Along (ResetSys.step env req) ReadsUnspent s l) :
    ResetSingleUse (Runs.run (ResetSys.step env req) s l) := by
  have hstart : ResetValid env req s ∧ OnePerUser s := by
    refine ⟨valid_of_closed hs.pending hs.sound fun i => ?_, fun i j t t' hi => ?_⟩
    · rw [hs.pc i]
      exact ⟨rfl, hs.unhashed i⟩
    · rw [hs.pc i] at hi
      cases hi
  have hinv : ∀ s t, ReadsUnspent s t → ResetValid env req s ∧ OnePerUser s →
      ResetValid env req (s.step env req t) ∧ OnePerUser (s.step env req t) := by
    intro s t ht h
    have hstep : s.Steps (resetProgram env req) (s.step env req t) := reset_steps ht
    exact ⟨(reset_outline hs.salted).step hstep h.1, onePerUser_step hstep h.1 h.2⟩
  obtain ⟨hv, hone⟩ := Runs.invariant hinv hl hstart
  exact ⟨fun i j t t' hi hj hid => hone i j t t' hi hj (sameUser_of_sameToken hv hi hj hid), hone⟩

/-! ### Two resets with one token -/

/-- A user who has asked for a reset. -/
def resetAsked : DB :=
  { DB.empty with
    users := [User.new 1 (some "a@b.c") none (some "$correct1") .active none]
    passwordResetTokens := [⟨71, 1, "reset", seconds 3600, none, none⟩] }

lemma presented_length : 1 ≤ "reset".length := by decide

/-- Two requests that present the token. -/
def twoResets (second : Bool) : ResetRequest where
  data := ⟨"reset", if second then "password2" else "password1", presented_length,
    by cases second <;> decide⟩
  http := ⟨none, none, "r", none, none⟩
  salt := if second then 3 else 2
  flushes := [.user, .resetTokens, .refreshTokens]
  perm := .refl _

def resetsBegin : ResetSys Bool := ⟨⟨resetAsked, []⟩, fun _ => .start⟩

lemma resetsBegin_started : ResetsStarted .plain twoResets resetsBegin where
  pending := rfl
  pc := fun _ => rfl
  sound := ⟨by decide, by decide⟩
  salted := by
    intro a b
    cases a <;> cases b <;> decide
  unhashed := by
    have hall : ∀ i, ∀ u ∈ resetAsked.users, u.passwordHash ≠ some ((twoResets i).hash .plain) := by
      decide
    exact hall

/-- The next `n` statements of one request. -/
def resetTurns (i : Bool) (n : ℕ) : List (ResetTurn Bool) := .replicate n (.run i ⟨2, 0⟩)

/-- The user is read next. -/
def ResetPc.readsUserNext : ResetPc → Bool
  | .found _ => true
  | _ => false

lemma readsUnspent_of_pc {s : ResetSys ι} {i : ι} {clk : Clock}
    (h : (s.pc i).readsUserNext = false) : ReadsUnspent s (.run i clk) := by
  intro j clk' stored he hpc
  cases he
  rw [hpc] at h
  cases h

/-- One reset after the other: the second finds the token used. -/
theorem twoResets_serial : ResetSingleUse (Runs.run (ResetSys.step .plain twoResets) resetsBegin
    (resetTurns false 9 ++ resetTurns true 1)) := by
  refine resets_singleUse resetsBegin_started (⟨readsUnspent_of_pc rfl, ?_,
    readsUnspent_of_pc rfl, readsUnspent_of_pc rfl, readsUnspent_of_pc rfl, readsUnspent_of_pc rfl,
    readsUnspent_of_pc rfl, readsUnspent_of_pc rfl, readsUnspent_of_pc rfl, readsUnspent_of_pc rfl,
    trivial⟩ : Runs.Along _ _ _ (resetTurns false 9 ++ resetTurns true 1))
  -- The first request reads the user of a token that nobody has used.
  intro i clk stored he _ t ht _
  cases he
  exact (show ∀ t ∈ resetAsked.passwordResetTokens, t.consumedAt = none by decide) t ht

/-- The second request reads the token, the first one sets a password and commits, and then the
second one reads the user: it sets another password with the same token. -/
theorem twoResets_raced : ¬ ∀ (env : Env) (req : Bool → ResetRequest) (s : ResetSys Bool)
    (l : List (ResetTurn Bool)), ResetsStarted env req s →
      ResetSingleUse (Runs.run (ResetSys.step env req) s l) := by
  intro h
  have hsingle := h .plain twoResets resetsBegin
    (resetTurns true 1 ++ resetTurns false 9 ++ resetTurns true 8) resetsBegin_started
  exact Bool.false_ne_true (hsingle.token _ _ _ _ rfl rfl rfl)

end SchoolOs
