import SchoolOs.Scripts

/-!
Optimistic locking: a row with a version that every writer counts up, requests that carry the
version that their client has read, and writes that find the row only under the version that the
request has loaded. The changes of a row form a line, and one request for each version.
-/

namespace SchoolOs.ReadCommitted

/-- A row of a store, with its version and the key that its writers lock. -/
structure VersionedRow (σ κ Row : Type) where
  cell : σ → Option Row
  version : Row → ℕ
  key : κ

namespace VersionedRow

variable {ε σ κ Row α : Type} (V : VersionedRow σ κ Row)

/-- A row that is there stays, goes, or comes to a later version. -/
def Evolves (x y : Option Row) : Prop := ∀ r' ∈ y, ∃ r ∈ x, r' = r ∨ V.version r < V.version r'

def Held (ws : List (Write σ κ)) : Prop := ∃ w ∈ ws, V.key ∈ w.locks

/-- What the others may do: to count the version up, unless the row is locked. -/
def Rely (ws : List (Write σ κ)) (c c' : σ) : Prop :=
  V.Evolves (V.cell c) (V.cell c') ∧ (V.Held ws → V.cell c' = V.cell c)

/-- The writes leave the row alone. -/
def Frames (ws : List (Write σ κ)) : Prop := ∀ w ∈ ws, ∀ c, V.cell (w.run c) = V.cell c

/-- The row was read as `r`, and is not written. -/
def Before (r : Row) (ws : List (Write σ κ)) (c : σ) : Prop :=
  V.Frames ws ∧ V.Evolves (some r) (V.cell c)

/-- The row was read as `r`, and is written as `x`. -/
def After (r : Row) (x : Option Row) (ws : List (Write σ κ)) (c : σ) : Prop :=
  V.Held ws ∧ V.cell c = some r ∧ ∀ c', V.cell c' = some r → V.cell (after ws c') = x

/-- What a transaction may commit that has read the row as `r`. -/
def Leaves (r : Row) (result : Option Row → Prop) (ws : List (Write σ κ)) (c : σ) : Prop :=
  V.Frames ws ∨ ∃ x, result x ∧ V.After r x ws c

variable {V} {r : Row} {x y z : Option Row} {ws : List (Write σ κ)} {c : σ}

lemma Evolves.refl (x : Option Row) : V.Evolves x x := fun r hr => ⟨r, hr, .inl rfl⟩

lemma Evolves.trans (h : V.Evolves x y) (h' : V.Evolves y z) : V.Evolves x z := by
  intro r'' hr''
  obtain ⟨r', hr', hle'⟩ := h' r'' hr''
  obtain ⟨r, hr, hle⟩ := h r' hr'
  refine ⟨r, hr, ?_⟩
  rcases hle with rfl | hlt
  · exact hle'
  · rcases hle' with rfl | hlt'
    · exact .inr hlt
    · exact .inr (Nat.lt_trans hlt hlt')

lemma Evolves.eq_of_version (h : V.Evolves (some r) x) {r' : Row} (hx : x = some r')
    (hv : V.version r' = V.version r) : r' = r := by
  obtain ⟨q, hq, heq | hlt⟩ := h r' hx
  · obtain rfl : r = q := Option.some.inj hq
    exact heq
  · obtain rfl : r = q := Option.some.inj hq
    omega

lemma tolerant_rely : Tolerant V.Rely where
  refl _ _ := ⟨.refl _, fun _ => rfl⟩
  trans h h' := ⟨h.1.trans h'.1, fun hk => (h'.2 hk).trans (h.2 hk)⟩

/-! ### Assertions -/

lemma Frames.snoc (h : V.Frames ws) {w : Write σ κ} (hw : ∀ c, V.cell (w.run c) = V.cell c) :
    V.Frames (ws ++ [w]) := by
  intro w' hw'
  rcases List.mem_append.mp hw' with hw' | hw'
  · exact h w' hw'
  · rw [List.mem_singleton.mp hw']
    exact hw

lemma Frames.cell (h : V.Frames ws) (c : σ) : V.cell (after ws c) = V.cell c := after_frame h c

lemma stable_before : Stable V.Rely (V.Before r) := fun _ _ _ hR h => ⟨h.1, h.2.trans hR.1⟩

lemma stable_after : Stable V.Rely (V.After r x) := fun _ _ _ hR h =>
  ⟨h.1, (hR.2 h.1).trans h.2.1, h.2.2⟩

lemma stable_leaves {result : Option Row → Prop} : Stable V.Rely (V.Leaves r result) :=
  fun _ _ _ hR h => h.imp_right fun ⟨x, hx, h⟩ => ⟨x, hx, stable_after _ _ _ hR h⟩

/-- A write of something else keeps what was not written unwritten. -/
lemma Before.frame (h : V.Before r ws c) {w : Write σ κ} (hw : ∀ c, V.cell (w.run c) = V.cell c) :
    V.Before r (ws ++ [w]) c := ⟨h.1.snoc hw, h.2⟩

lemma After.snoc (h : V.After r x ws c) {w : Write σ κ}
    (hw : ∀ c, V.cell c = x → V.cell (w.run c) = y) : V.After r y (ws ++ [w]) c := by
  obtain ⟨⟨w', hw', hk⟩, hc, hx⟩ := h
  refine ⟨⟨w', List.mem_append_left _ hw', hk⟩, hc, fun c' hc' => ?_⟩
  rw [after_snoc]
  exact hw _ (hx c' hc')

lemma Leaves.snoc {result : Option Row → Prop} (h : V.Leaves r result ws c) {w : Write σ κ}
    (hw : ∀ c, V.cell (w.run c) = V.cell c) : V.Leaves r result (ws ++ [w]) c :=
  h.imp (fun hf => hf.snoc hw) fun ⟨x, hx, hafter⟩ =>
    ⟨x, hx, hafter.snoc fun c hc => (hw c).trans hc⟩

lemma Leaves.imp {result result' : Option Row → Prop} (h : V.Leaves r result ws c)
    (himp : ∀ x, result x → result' x) : V.Leaves r result' ws c :=
  h.imp_right fun ⟨x, hx, hafter⟩ => ⟨x, himp x hx, hafter⟩

lemma Before.flush (h : V.Before r ws c) {w : Write σ κ} (hk : V.key ∈ w.locks)
    (hv : ∃ r' ∈ V.cell (after ws c), V.version r' = V.version r)
    (hw : ∀ c, V.cell c = some r → V.cell (w.run c) = x) : V.After r x (ws ++ [w]) c := by
  obtain ⟨r', hr', hv⟩ := hv
  rw [Option.mem_def, h.1.cell] at hr'
  obtain rfl := h.2.eq_of_version hr' hv
  refine ⟨⟨w, by simp, hk⟩, hr', fun c' hc' => ?_⟩
  rw [after_snoc]
  exact hw _ ((h.1.cell c').trans hc')

/-! ### Rules -/

/-- The errors of a script are left open. -/
abbrev Any : ε → σ → Prop := fun _ _ => True

lemma ensures_frame {t : Dml ε σ κ} (ht : ∀ c, V.cell (t.effect c) = V.cell c) :
    (Script.exec t).Ensures V.Rely (V.Before r) (fun _ => V.Before r) Any :=
  Script.ensures_exec stable_before stable_before (fun _ _ h _ _ => h.frame ht)
    fun _ _ _ _ _ => trivial

lemma ensures_look {f : σ → Except ε α} : (Script.look f).Ensures V.Rely (V.Before r)
    (fun a ws c => (∃ c₀, f c₀ = .ok a) ∧ V.Before r ws c) Any :=
  Script.ensures_look stable_before (fun _ _ _ _ hR h => ⟨h.1, stable_before _ _ _ hR h.2⟩)
    (fun _ _ _ h hf => ⟨⟨_, hf⟩, h⟩) fun _ _ _ _ _ _ _ => trivial

lemma ensures_query {f : σ → Except ε α} :
    (Script.look f).Ensures V.Rely (V.Before r) (fun _ => V.Before r) Any :=
  fun ws c h => (ensures_look ws c h).imp fun _ _ _ h' => h'.2

lemma ensures_query_after {f : σ → Except ε α} :
    (Script.look f).Ensures V.Rely (V.After r x) (fun _ => V.After r x) Any :=
  Script.ensures_look stable_after (fun _ => stable_after) (fun _ _ _ h _ => h)
    fun _ _ _ _ _ _ _ => trivial

lemma ensures_flush {t : Dml ε σ κ} (hk : V.key ∈ t.locks)
    (hv : ∀ c, t.finds c = .ok () → ∃ r' ∈ V.cell c, V.version r' = V.version r)
    (ht : ∀ c, V.cell c = some r → V.cell (t.effect c) = x) :
    (Script.exec t).Ensures V.Rely (V.Before r) (fun _ => V.After r x) Any :=
  Script.ensures_exec stable_before stable_after (fun _ _ h hf _ => h.flush hk (hv _ hf) ht)
    fun _ _ _ _ _ => trivial

lemma ensures_frame_leaves {result : Option Row → Prop} {t : Dml ε σ κ}
    (ht : ∀ c, V.cell (t.effect c) = V.cell c) : (Script.exec t).Ensures V.Rely
      (V.Leaves r result) (fun _ => V.Leaves r result) Any :=
  Script.ensures_exec stable_leaves stable_leaves (fun _ _ h _ _ => h.snoc ht)
    fun _ _ _ _ _ => trivial

lemma ensures_query_leaves {result : Option Row → Prop} {f : σ → Except ε α} :
    (Script.look f).Ensures V.Rely (V.Leaves r result) (fun _ => V.Leaves r result) Any :=
  Script.ensures_look stable_leaves (fun _ => stable_leaves) (fun _ _ _ h _ => h)
    fun _ _ _ _ _ _ _ => trivial

lemma ensures_done {a : α} {result : Option Row → Prop} :
    (Script.done a : Script ε σ κ α).Ensures V.Rely (V.Before r) (fun _ => V.Leaves r result)
      Any := Script.ensures_done stable_before fun _ _ h => .inl h.1

lemma ensures_skip_leaves {a : α} {result : Option Row → Prop} :
    (Script.done a : Script ε σ κ α).Ensures V.Rely (V.Leaves r result)
      (fun _ => V.Leaves r result) Any := Script.ensures_done stable_leaves fun _ _ h => h

lemma ensures_skip {a : α} : (Script.done a : Script ε σ κ α).Ensures V.Rely (V.Before r)
    (fun _ => V.Before r) Any := Script.ensures_done stable_before fun _ _ h => h

end VersionedRow

/-! ### Requests -/

/-- A request under a version: it reads the row, compares the version, checks the row, and goes on
with the row as it was read. `result` is what it computes from the row. -/
structure Request {σ κ Row : Type} (V : VersionedRow σ κ Row) (ε α : Type) where
  carried : ℕ
  reads : σ → Except ε Row
  checks : Row → Except ε Unit
  rest : Row → Script ε σ κ α
  result : Row → Option Row → Prop
  cell_of_reads : ∀ {c r}, reads c = .ok r → V.cell c = some r
  counts : ∀ {r r'}, result r (some r') → V.version r' = V.version r + 1
  rest_ensures : ∀ {c r}, reads c = .ok r → checks r = .ok () → (rest r).Ensures V.Rely
    (V.Before r) (fun _ => V.Leaves r (result r)) VersionedRow.Any

namespace Request

variable {ε σ κ Row α : Type} {V : VersionedRow σ κ Row} (q : Request V ε α) (stale : ε)

/-- The row, at the version of the request. -/
def select (c : σ) : Except ε Row := do
  let r ← q.reads c
  if V.version r = q.carried then q.checks r else .error stale
  return r

def script : Script ε σ κ α := Script.look (q.select stale) >>= q.rest

/-- What the request may commit. -/
def Commits (ws : List (Write σ κ)) (c : σ) : Prop :=
  V.Frames ws ∨ ∃ r x, V.version r = q.carried ∧ q.result r x ∧ V.After r x ws c

variable {q stale}

lemma select_ok {c : σ} {r : Row} : q.select stale c = .ok r ↔
    q.reads c = .ok r ∧ V.version r = q.carried ∧ q.checks r = .ok () := by
  unfold select
  cases hreads : q.reads c with
  | error e => simp [bind, Except.bind]
  | ok r' =>
    by_cases hv : V.version r' = q.carried
    · cases hchecks : q.checks r' with
      | error e =>
        simp only [bind, Except.bind, if_pos hv, hchecks, reduceCtorEq, false_iff]
        rintro ⟨hr, -, hok⟩
        obtain rfl := Except.ok.inj hr
        rw [hchecks] at hok
        cases hok
      | ok _ =>
        simp only [bind, Except.bind, if_pos hv, hchecks, pure, Except.pure, Except.ok.injEq]
        constructor
        · rintro rfl
          exact ⟨rfl, hv, hchecks⟩
        · rintro ⟨rfl, -⟩
          rfl
    · simp only [bind, Except.bind, if_neg hv, reduceCtorEq, Except.ok.injEq, false_iff]
      rintro ⟨rfl, hv', -⟩
      exact hv hv'

lemma select_stale {c : σ} {r : Row} (hr : q.reads c = .ok r) (hv : V.version r ≠ q.carried) :
    q.select stale c = .error stale := by
  simp [select, hr, bind, Except.bind, if_neg hv]

/-- A request that sees more beside the row runs the same statements. -/
lemma script_congr {Row' : Type} {V' : VersionedRow σ κ Row'} {q' : Request V' ε α}
    (f : Row' → Row) (hcarried : q'.carried = q.carried)
    (hreads : ∀ c, q.reads c = f <$> q'.reads c)
    (hversion : ∀ r, V'.version r = V.version (f r)) (hchecks : ∀ r, q'.checks r = q.checks (f r))
    (hrest : ∀ r, q'.rest r = q.rest (f r)) : q'.script stale = q.script stale := by
  refine congrArg Script.read (funext fun c => ?_)
  simp only [select, hreads]
  cases q'.reads c with
  | error e => rfl
  | ok r =>
    by_cases hv : V.version (f r) = q.carried
    · simp only [Except.map_ok, bind, Except.bind, hversion, hcarried, if_pos hv, hchecks]
      cases q.checks (f r) with
      | error e => rfl
      | ok _ => exact hrest r
    · simp only [Except.map_ok, bind, Except.bind, hversion, hcarried, if_neg hv]
      rfl

/-- **A request meets its guarantee**, whatever the other requests commit meanwhile. -/
theorem script_meets (c : σ) :
    (q.script stale).Meets V.Rely (fun _ => q.Commits) VersionedRow.Any [] c := by
  refine Script.Meets.bind VersionedRow.tolerant_rely (Q := fun r ws c =>
    (∃ c₀, q.select stale c₀ = .ok r) ∧ V.Before r ws c) ?_ fun r ws c h => ?_
  · intro c' _
    change (Script.lift (q.select stale c')).Meets _ _ _ [] c'
    cases hs : q.select stale c' with
    | error e => exact fun _ _ => trivial
    | ok r =>
      refine fun c'' hc => ⟨⟨c', hs⟩, fun w hw => absurd hw List.not_mem_nil, ?_⟩
      rw [← q.cell_of_reads (select_ok.mp hs).1]
      exact hc.1
  · obtain ⟨⟨c₀, hs⟩, hbefore⟩ := h
    obtain ⟨hreads, hv, hchecks⟩ := select_ok.mp hs
    refine (q.rest_ensures hreads hchecks ws c hbefore).imp fun _ _ _ hl => hl.imp_right ?_
    rintro ⟨x, hx, hafter⟩
    exact ⟨r, x, hv, hx, hafter⟩

/-- A commit leaves the row, or puts into its place what the request computed from it. -/
lemma Commits.cell {ws : List (Write σ κ)} {c : σ} (h : q.Commits ws c) :
    V.cell (after ws c) = V.cell c ∨ ∃ r, V.cell c = some r ∧ V.version r = q.carried ∧
      q.result r (V.cell (after ws c)) := by
  refine h.imp (fun hf => hf.cell c) ?_
  rintro ⟨r, x, hv, hx, -, hc, hafter⟩
  refine ⟨r, hc, hv, ?_⟩
  rwa [hafter c hc]

lemma Commits.rely {ws ws' : List (Write σ κ)} {c : σ} (h : q.Commits ws c)
    (hapart : Apart ws ws') : V.Rely ws' c (after ws c) := by
  refine ⟨?_, fun ⟨w', hw', hk'⟩ => ?_⟩
  · rcases h.cell with heq | ⟨r, hc, hv, hresult⟩
    · rw [heq]
      exact .refl _
    · intro r' hr'
      rw [hr'] at hresult
      exact ⟨r, hc, .inr (by rw [q.counts hresult]; exact Nat.lt_succ_self _)⟩
  · rcases h with hf | ⟨r, x, -, -, ⟨w, hw, hk⟩, -⟩
    · exact hf.cell c
    · exact absurd hk' (hapart w hw w' hw' _ hk)

end Request

/-! ### Runs of requests -/

section Runs

variable {ι ε σ κ Row α : Type} {V : VersionedRow σ κ Row} (q : ι → Request V ε α) (stale : ε)

lemma agreed_requests : Agreed (fun _ => V.Rely) (fun i (_ : α) => (q i).Commits) where
  tolerant _ := VersionedRow.tolerant_rely
  commit _ hapart h := h.rely hapart

variable [DecidableEq ι] [DecidableEq κ] {q stale} {s : Sessions ι ε σ κ α} {i j : ι}

/-- The requests keep to what they may do. -/
abbrev Guarded (q : ι → Request V ε α) (stale : ε) (s : Sessions ι ε σ κ α) : Prop :=
  Sessions.Sound (fun i => (q i).script stale) (fun _ => V.Rely) (fun i _ => (q i).Commits)
    (fun _ => VersionedRow.Any) s

omit [DecidableEq κ] in
lemma guarded_init (c : σ) : Guarded q stale (.init c) :=
  Sessions.sound_init fun i => (q i).script_meets c

/-- A turn of a request. -/
abbrev Request.turn (q : ι → Request V ε α) (stale : ε) (s : Sessions ι ε σ κ α) (i : ι) :
    Sessions ι ε σ κ α :=
  Sessions.turn (fun i => (q i).script stale) s i

lemma Guarded.cell (h : Guarded q stale s) (i : ι) :
    V.cell (Request.turn q stale s i).store.committed = V.cell s.store.committed ∨
      ∃ r, V.cell s.store.committed = some r ∧ V.version r = (q i).carried ∧
        (q i).result r (V.cell (Request.turn q stale s i).store.committed) := by
  rcases h.commits (agreed_requests q) i with hnothing | ⟨hcommits, hafter, -⟩
  · exact .inl (congrArg V.cell hnothing)
  · rw [hafter]
    exact hcommits.cell

/-- A committed change of the row. -/
structure Change (ι Row : Type) where
  author : ι
  old : Option Row
  new : Option Row

variable [DecidableEq Row]

/-- The change that a turn commits, if it commits one. -/
def Request.change (q : ι → Request V ε α) (stale : ε) (s : Sessions ι ε σ κ α) (i : ι) :
    List (Change ι Row) :=
  if V.cell (turn q stale s i).store.committed = V.cell s.store.committed then []
  else [⟨i, V.cell s.store.committed, V.cell (turn q stale s i).store.committed⟩]

lemma Request.mem_change {c : Change ι Row} (h : c ∈ change q stale s i) :
    c.author = i ∧ V.cell (turn q stale s i).store.committed ≠ V.cell s.store.committed := by
  unfold change at h
  split at h
  · cases h
  · next hne =>
    rw [List.mem_singleton.mp h]
    exact ⟨rfl, hne⟩

/-- A turn, and the changes so far. -/
def Request.watch (q : ι → Request V ε α) (stale : ε)
    (w : Sessions ι ε σ κ α × List (Change ι Row)) (i : ι) :
    Sessions ι ε σ κ α × List (Change ι Row) :=
  (turn q stale w.1 i, w.2 ++ change q stale w.1 i)

/-- The changes that a run commits. -/
def Request.changes (q : ι → Request V ε α) (stale : ε) (s : Sessions ι ε σ κ α) (l : List ι) :
    List (Change ι Row) := (Runs.run (watch q stale) (s, []) l).2

lemma Request.run_watch (w : Sessions ι ε σ κ α × List (Change ι Row)) (l : List ι) :
    (Runs.run (watch q stale) w l).1 = Runs.run (turn q stale) w.1 l := by
  induction l generalizing w with
  | nil => rfl
  | cons i l ih => exact ih _

/-- Changes that each start from the row that the one before left, under the version of the
request, and put there what the request computes from it. -/
inductive Lineage (q : ι → Request V ε α) (x : Option Row) :
    List (Change ι Row) → Option Row → Prop
  | nil : Lineage q x [] x
  | snoc {cs r i y} : Lineage q x cs (some r) → V.version r = (q i).carried → (q i).result r y →
      Lineage q x (cs ++ [⟨i, some r, y⟩]) y

omit [DecidableEq ι] [DecidableEq κ] [DecidableEq Row] in
lemma Lineage.version {cs : List (Change ι Row)} {r r' : Row}
    (h : Lineage q (some r) cs (some r')) : V.version r' = V.version r + cs.length := by
  generalize hx : some r' = x at h
  induction h generalizing r' with
  | nil =>
    obtain rfl := Option.some.inj hx
    rfl
  | snoc _ hv hresult ih =>
    rw [← hx] at hresult
    rw [(q _).counts hresult, ih rfl]
    simp only [List.length_append, List.length_singleton]
    omega

omit [DecidableEq ι] [DecidableEq κ] [DecidableEq Row] in
/-- **One request for each version.** -/
theorem Lineage.carried {cs : List (Change ι Row)} {r : Row} {x : Option Row}
    (h : Lineage q (some r) cs x) :
    cs.map (fun c => (q c.author).carried) = List.range' (V.version r) cs.length := by
  induction h with
  | nil => rfl
  | snoc hline hv hresult ih =>
    rw [List.map_append, ih, List.length_append, List.length_singleton, List.range'_concat,
      Nat.one_mul, ← hline.version, hv]
    rfl

omit [DecidableEq ι] [DecidableEq κ] [DecidableEq Row] in
lemma Lineage.length_news {cs : List (Change ι Row)} {r : Row} {x : Option Row}
    (h : Lineage q x cs (some r)) : (cs.filterMap Change.new).length = cs.length := by
  generalize hy : some r = y at h
  induction h generalizing r with
  | nil => rfl
  | snoc _ _ _ ih =>
    subst hy
    simp [ih rfl]

omit [DecidableEq ι] [DecidableEq κ] [DecidableEq Row] in
/-- **The committed versions**, from the first on. -/
theorem Lineage.versions {cs : List (Change ι Row)} {r : Row} {x : Option Row}
    (h : Lineage q (some r) cs x) :
    (r :: cs.filterMap Change.new).map V.version =
      List.range' (V.version r) (cs.filterMap Change.new).length.succ := by
  induction h with
  | nil => rfl
  | @snoc cs r' i y hline hv hresult ih =>
    cases y with
    | none => simpa using ih
    | some r'' =>
      have hversion := (q i).counts hresult
      rw [hline.version, ← hline.length_news] at hversion
      rw [List.filterMap_append, ← List.cons_append, List.map_append, ih, List.length_append,
        Nat.succ_eq_add_one, Nat.succ_eq_add_one]
      simp [List.range'_concat, hversion, Nat.add_assoc]

lemma Lineage.watch {x : Option Row} {cs : List (Change ι Row)} (h : Guarded q stale s)
    (hline : Lineage q x cs (V.cell s.store.committed)) :
    Lineage q x (cs ++ Request.change q stale s i)
      (V.cell (Request.turn q stale s i).store.committed) := by
  unfold Request.change
  split
  · next heq =>
    rw [List.append_nil, heq]
    exact hline
  · next hne =>
    obtain ⟨r, hr, hv, hresult⟩ := (h.cell i).resolve_left hne
    rw [hr] at hline ⊢
    exact hline.snoc hv hresult

/-- **The changes of a run form a line** from the row at its start to the row at its end. -/
theorem lineage_changes (h : Guarded q stale s) (l : List ι) :
    Lineage q (V.cell s.store.committed) (Request.changes q stale s l)
      (V.cell (Runs.run (Request.turn q stale) s l).store.committed) := by
  have hrun : Guarded q stale (Runs.run (Request.watch q stale) (s, []) l).1 ∧
      Lineage q (V.cell s.store.committed) (Runs.run (Request.watch q stale) (s, []) l).2
        (V.cell (Runs.run (Request.watch q stale) (s, []) l).1.store.committed) := by
    refine Runs.invariant_all (I := fun (w : Sessions ι ε σ κ α × List (Change ι Row)) =>
      Guarded q stale w.1 ∧
        Lineage q (V.cell s.store.committed) w.2 (V.cell w.1.store.committed)) ?_ ⟨h, .nil⟩ l
    rintro ⟨s', cs⟩ i ⟨hs', hline⟩
    exact ⟨hs'.turn (agreed_requests q) i, hline.watch hs'⟩
  rw [← Request.run_watch (s, [])]
  exact hrun.2

/-! ### Stale requests -/

/-- Past its comparison, or on its way to another answer than that it is stale. -/
def Standing.Past (stale : ε) : Standing ε σ κ α → Prop
  | .running p => p ≠ .fail stale
  | _ => False

omit [DecidableEq ι] [DecidableEq κ] [DecidableEq Row] in
lemma Standing.not_past_of_idle {pc : Standing ε σ κ α} (h : pc.idle = true) :
    ¬ pc.Past stale := by
  cases pc with
  | running p => cases h
  | _ => exact fun hp => hp

/-- Another request has committed a change under the version that the request carries. -/
def Request.Beaten (q : ι → Request V ε α) (cs : List (Change ι Row)) (i : ι) : Prop :=
  ∃ c ∈ cs, c.author ≠ i ∧ (q c.author).carried = (q i).carried

/-- A request that is answered after another's change under its version is told that it is stale,
and commits nothing. -/
def Request.Told (q : ι → Request V ε α) (stale : ε)
    (w : Sessions ι ε σ κ α × List (Change ι Row)) (i : ι) : Prop :=
  Beaten q w.2 i → (w.1.pc i).answer = none →
    ∀ e, ((turn q stale w.1 i).pc i).answer = some e →
      e = .error stale ∧ (turn q stale w.1 i).store.committed = w.1.store.committed

/-- A request that is about to commit a write of the row has no rival past the comparison, and one
that begins after a rival's change finds the row as far as its version. -/
structure Request.Orderly (q : ι → Request V ε α) (stale : ε)
    (w : Sessions ι ε σ κ α × List (Change ι Row)) (i : ι) : Prop where
  unrivalled : ∀ a, w.1.pc i = .running (.done a) → V.Held (w.1.store.own i) →
    ∀ j, j ≠ i → (q j).carried = (q i).carried → ¬ (w.1.pc j).Past stale
  readable : w.1.pc i = .fresh → Beaten q w.2 i →
    ∃ r, (q i).reads w.1.store.committed = .ok r

omit [DecidableEq ι] [DecidableEq κ] [DecidableEq Row] in
lemma Lineage.lt_version {cs : List (Change ι Row)} {x : Option Row} {r : Row}
    (h : Lineage q x cs (some r)) : ∀ c ∈ cs, (q c.author).carried < V.version r := by
  generalize hy : some r = y at h
  induction h generalizing r with
  | nil => simp
  | snoc _ hv hresult ih =>
    subst hy
    have hcount := (q _).counts hresult
    intro c hc
    rcases List.mem_append.mp hc with hc | hc
    · have := ih rfl c hc
      omega
    · rw [List.mem_singleton.mp hc]
      simp only
      omega

omit [DecidableEq Row] in
lemma Guarded.writes_of_ne (h : Guarded q stale s)
    (hne : V.cell (Request.turn q stale s i).store.committed ≠ V.cell s.store.committed) :
    (∃ a, s.pc i = .running (.done a)) ∧ V.Held (s.store.own i) := by
  constructor
  · unfold Request.turn Sessions.turn at hne
    split at hne
    · exact absurd rfl hne
    · next p hpc =>
      by_contra hdone
      refine hne (congrArg V.cell (Sessions.advance_committed fun a ha => hdone ⟨a, ?_⟩))
      rw [hpc, ha]
    · exact absurd rfl hne
  · rcases h.commits (agreed_requests q) i with hnothing | ⟨hcommits, hafter, -⟩
    · exact absurd (congrArg V.cell hnothing) hne
    · rcases hcommits with hframes | ⟨r, x, -, -, hheld, -⟩
      · exact absurd ((congrArg V.cell hafter).trans (hframes.cell _)) hne
      · exact hheld

omit [DecidableEq Row] in
/-- A beaten request is not past its comparison and gets there no more. -/
lemma Guarded.beaten {x : Option Row} {cs : List (Change ι Row)} (h : Guarded q stale s)
    (hline : Lineage q x cs (V.cell s.store.committed)) (hbeaten : Request.Beaten q cs i)
    (hpast : ¬ (s.pc i).Past stale)
    (hreadable : s.pc i = .fresh → ∃ r, (q i).reads s.store.committed = .ok r) :
    ¬ ((Request.turn q stale s i).pc i).Past stale ∧ Request.Told q stale (s, cs) i := by
  have hi := h.holds i
  unfold Request.Told Request.turn Sessions.turn
  cases hpc : s.pc i with
  | fresh =>
    -- The version is past, so the comparison refuses.
    rw [hpc] at hi
    obtain ⟨r, hr⟩ := hreadable hpc
    obtain ⟨c, hc, -, hcarried⟩ := hbeaten
    rw [(q i).cell_of_reads hr] at hline
    have hlt := hline.lt_version c hc
    have hview : s.view i = s.store.committed := Store.view_of_own_nil hi.1
    have hturn : s.advance i ((q i).script stale) = s.goto i (.running (.fail stale)) := by
      change s.goto i (.running ((Script.lift ((q i).select stale (s.view i))).bind _)) = _
      rw [hview, Request.select_stale hr (by omega)]
      rfl
    simp only [hturn, Procs.goto_self]
    exact ⟨fun hne => hne rfl, fun _ _ e he => by cases he⟩
  | running p =>
    -- It is on its way to the refusal.
    rw [hpc] at hpast
    obtain rfl : p = .fail stale := by_contra hpast
    refine ⟨?_, fun _ _ e he => ⟨?_, rfl⟩⟩
    · simp only [Sessions.advance, Procs.abort_self]
      exact fun hp => hp
    · simp only [Sessions.advance, Procs.abort_self, Standing.answer_eq_some,
        Standing.answered.injEq] at he
      exact he.symm
  | answered e =>
    -- It is refused.
    refine ⟨?_, fun _ hopen => ?_⟩
    · simp only [hpc]
      exact fun hp => hp
    · cases hopen

/-- **Stale requests are told so** in a run whose turns are orderly. -/
theorem told_of_orderly (h : Guarded q stale s) {l : List ι}
    (hl : Runs.Along (Request.watch q stale) (Request.Orderly q stale) (s, []) l) :
    Runs.Along (Request.watch q stale) (Request.Told q stale) (s, []) l := by
  refine Runs.along_of_invariant (I := fun w => Guarded q stale w.1 ∧
    Lineage q (V.cell s.store.committed) w.2 (V.cell w.1.store.committed) ∧
    ∀ i, Request.Beaten q w.2 i → ¬ (w.1.pc i).Past stale) ?_ ?_ hl ⟨h, .nil, ?_⟩
  · rintro ⟨s', cs⟩ i horderly ⟨hs', hline, hbeaten⟩
    refine ⟨hs'.turn (agreed_requests q) i, hline.watch hs', fun j ⟨c, hc, hne, hcarried⟩ => ?_⟩
    by_cases hj : j = i
    · subst hj
      have hold : Request.Beaten q cs j := by
        rcases List.mem_append.mp hc with hc | hc
        · exact ⟨c, hc, hne, hcarried⟩
        · exact absurd (Request.mem_change hc).1 hne
      exact (hs'.beaten hline hold (hbeaten j hold) fun hf => horderly.readable hf hold).1
    · rw [show (Request.watch q stale (s', cs) i).1.pc j = s'.pc j from Sessions.turn_pc_of_ne hj]
      rcases List.mem_append.mp hc with hc | hc
      · exact hbeaten j ⟨c, hc, hne, hcarried⟩
      · obtain ⟨rfl, hwrites⟩ := Request.mem_change hc
        obtain ⟨⟨a, ha⟩, hheld⟩ := hs'.writes_of_ne hwrites
        exact horderly.unrivalled a ha hheld j hj hcarried.symm
  · rintro ⟨s', cs⟩ i horderly ⟨hs', hline, hbeaten⟩
    intro hi
    exact (hs'.beaten hline hi (hbeaten i hi) fun hf => horderly.readable hf hi).2 hi
  · rintro i ⟨c, hc, -⟩
    cases hc

end Runs

end SchoolOs.ReadCommitted
