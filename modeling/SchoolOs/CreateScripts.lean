import SchoolOs.Contests
import SchoolOs.SchoolModels

/-!
Creates, one SQL statement at a time: what a new row refers to is looked up, a row with its unique
key is looked for, the row is inserted, and what goes with it follows up to the audit row.
-/

namespace SchoolOs

open ReadCommitted

/-- What an insert locks: a row, or an entry of a unique index. -/
inductive EntryLock (K : Type)
  | row (id : Ulid)
  | key (k : K)
  deriving DecidableEq

/-- A write statement that does what a function does, or fails as it does. -/
def flushing {σ κ : Type} (locks : List κ) (f : σ → Fallible σ) : Dml ApiError σ κ where
  locks := locks
  finds _ := return
  admits c := (fun _ => ()) <$> f c
  effect c := (f c).toOption.getD c

section Flushing

variable {σ κ α : Type} {locks : List κ} {f : σ → Fallible σ} {c : σ}

lemma run_write_flushing {next : Script ApiError σ κ α} :
    (Script.write (flushing locks f) next).run c = f c >>= next.run := by
  unfold flushing
  cases h : f c with
  | error e => exact Script.run_write_error (.inr ⟨rfl, by simp only [h]; rfl⟩)
  | ok c' =>
    rw [Script.run_write_ok rfl (by simp only [h]; rfl)]
    simp only [h]
    rfl

lemma run_flushing : (Script.exec (flushing locks f)).run c = (fun c' => ((), c')) <$> f c := by
  rw [Script.exec, run_write_flushing]
  cases f c <;> rfl

end Flushing

/-! ### Services that create -/

/-- The search for a row with the unique key of the new one, and the conflict that is raised when
there is one. A check may be there for rows that have no entry in the index. -/
structure Precheck (σ K : Type) where
  key : Option K
  conflict : σ → Option ApiError

/-- The search as a query. -/
def Precheck.query {σ K : Type} (p : Precheck σ K) (c : σ) : Fallible Unit :=
  ensureAbsent (p.conflict c) id

/-- A service that creates rows under a unique key. `Data` is the payload, with the ids that are
drawn. -/
structure CreateService where
  State : Type
  Key : Type
  Data : Type
  decEq : DecidableEq Key
  /-- The answer when no school is set. -/
  noSchool : ApiError
  /-- What the new row refers to. -/
  checks : RequestContext → Ulid → Data → List (State → Fallible Unit)
  prechecks : SchoolEnv → RequestContext → Ulid → Data → List (Precheck State Key)
  id : Data → Ulid
  /-- The entries of the new row in the unique indexes. -/
  keys : Ulid → Data → List Key
  insert : RequestContext → Ulid → Ulid → Data → State → Fallible State
  rest : SchoolEnv → RequestContext → Ulid → Ulid → Data →
    Script ApiError State (EntryLock Key) Unit
  /-- The indexes whose violation by the insert is answered as a conflict. -/
  mapped : Key → Bool

namespace CreateService

variable (S : CreateService) (env : SchoolEnv) (ctx : RequestContext)

instance : DecidableEq S.Key := S.decEq

/-- The queries and the insert. -/
def contestant (schoolId organizationId : Ulid) (data : S.Data) :
    Contestant ApiError S.State (EntryLock S.Key) Unit where
  queries := S.checks ctx schoolId data ++ (S.prechecks env ctx schoolId data).map Precheck.query
  claim := flushing (.row (S.id data) :: (S.keys schoolId data).map .key)
    (S.insert ctx schoolId organizationId data)
  rest := S.rest env ctx schoolId organizationId data

/-- A request, statement by statement. Without an organization the row does not fit its table. -/
def script (data : S.Data) : Script ApiError S.State (EntryLock S.Key) Unit :=
  match ctx.schoolId, ctx.organizationId with
  | none, _ => .fail S.noSchool
  | some schoolId, none =>
    Script.ask (.fail internalError)
      (S.checks ctx schoolId data ++ (S.prechecks env ctx schoolId data).map Precheck.query)
  | some schoolId, some organizationId => (S.contestant env ctx schoolId organizationId data).script

/-- How many queries a request makes up to the one that looks for the key; none of them when
nothing looks for it. -/
def place (schoolId : Ulid) (data : S.Data) (k : S.Key) : ℕ :=
  match (S.prechecks env ctx schoolId data).findIdx? (·.key = some k) with
  | some n => (S.checks ctx schoolId data).length + n + 1
  | none => 0

/-- The conflicts that the checks of a request raise on a database. -/
def conflicts (schoolId : Ulid) (data : S.Data) (c : S.State) : List ApiError :=
  (S.prechecks env ctx schoolId data).filterMap (·.conflict c)

/-- What the checks of one request make of the row of another. -/
structure Lawful : Prop where
  /-- A create leaves alone what other creates refer to. -/
  keeps : ∀ {env ctx ctx' s s' o data data' c c₁ c₂}, S.insert ctx s o data c = .ok c₁ →
    (S.rest env ctx s o data).run c₁ = .ok ((), c₂) →
    ∀ q ∈ S.checks ctx' s' data', q c₂ = q c
  /-- The search for a key sees the row that has taken it. -/
  shows : ∀ {env ctx ctx' s o data data' c c₁ c₂ k}, ctx'.schoolId = some s →
    S.insert ctx s o data c = .ok c₁ → (S.rest env ctx s o data).run c₁ = .ok ((), c₂) →
    k ∈ S.keys s data → ∀ p ∈ S.prechecks env ctx' s data', p.key = some k →
    (p.conflict c₂).isSome
  /-- A violation that is answered as a conflict is answered with one that the checks raise. -/
  tells : ∀ {env ctx ctx' s o o' data data' c c₁ c₂ c' k}, ctx'.schoolId = some s →
    S.insert ctx s o data c = .ok c₁ → (S.rest env ctx s o data).run c₁ = .ok ((), c₂) →
    k ∈ S.keys s data → k ∈ S.keys s data' → S.mapped k = true → S.id data ≠ S.id data' →
    S.insert ctx' s o' data' c = .ok c' →
    ∃ e ∈ S.conflicts env ctx' s data' c₂, S.insert ctx' s o' data' c₂ = .error e

variable {S env ctx} {schoolId organizationId : Ulid} {data : S.Data} {c : S.State} {k : S.Key}

lemma run_script (data : S.Data) (c : S.State) : (S.script env ctx data).run c = (do
    let schoolId ← found ctx.schoolId S.noSchool
    forM (S.checks ctx schoolId data) fun q => q c
    forM (S.prechecks env ctx schoolId data) fun p => p.query c
    let organizationId ← found ctx.organizationId internalError
    let c₁ ← S.insert ctx schoolId organizationId data c
    (S.rest env ctx schoolId organizationId data).run c₁) := by
  unfold script
  cases ctx.schoolId with
  | none => rfl
  | some schoolId =>
    cases ctx.organizationId with
    | none =>
      simp only [Script.run_ask, List.forM_append, List.forM_map, bind_assoc, found, ok_bind]
      rfl
    | some organizationId =>
      simp only [contestant, Contestant.script, Script.run_ask, run_write_flushing,
        List.forM_append, List.forM_map, bind_assoc, found, ok_bind]

variable (organizationId) in
lemma exists_of_lt_place {n : ℕ} (h : n < S.place env ctx schoolId data k) :
    ∃ p ∈ S.prechecks env ctx schoolId data, p.key = some k ∧
      p.query ∈ (S.contestant env ctx schoolId organizationId data).queries.drop n := by
  unfold place at h
  split at h
  · next m hm =>
    obtain ⟨hlt, hkey, -⟩ := List.findIdx?_eq_some_iff_getElem.mp hm
    refine ⟨_, List.getElem_mem hlt, of_decide_eq_true hkey, ?_⟩
    have hle : n ≤ (S.checks ctx schoolId data).length + m := Nat.le_of_lt_succ h
    refine List.drop_subset_drop_left _ hle (List.mem_drop_iff_getElem.mpr ⟨0, ?_, ?_⟩)
    · simp only [contestant, List.length_append, List.length_map]
      omega
    · simp [contestant]
  · exact absurd h (Nat.not_lt_zero n)

lemma query_error {σ K : Type} {p : Precheck σ K} {c : σ} {e : ApiError}
    (h : p.query c = .error e) : p.conflict c = some e := by
  unfold Precheck.query at h
  cases hp : p.conflict c with
  | none =>
    rw [hp] at h
    cases h
  | some e' =>
    rw [hp] at h
    rw [← Except.error.inj h]
    rfl

lemma query_ne_ok {σ K : Type} {p : Precheck σ K} {c : σ} (h : (p.conflict c).isSome) :
    p.query c ≠ .ok () := by
  intro hok
  rw [Precheck.query, ensureAbsent_ok] at hok
  rw [hok] at h
  cases h

/-- A request that goes through makes its queries, inserts its row and does the rest. -/
lemma script_ok {c' : S.State} (h : (S.script env ctx data).run c = .ok ((), c')) :
    ∃ schoolId organizationId c₁, ctx.schoolId = some schoolId ∧
      ctx.organizationId = some organizationId ∧
      (S.contestant env ctx schoolId organizationId data).script.run c = .ok ((), c') ∧
      (∀ q ∈ S.checks ctx schoolId data, q c = .ok ()) ∧
      S.insert ctx schoolId organizationId data c = .ok c₁ ∧
      (S.rest env ctx schoolId organizationId data).run c₁ = .ok ((), c') := by
  unfold script at h
  split at h
  · cases h
  · cases (Script.run_ask_ok h).2
  · next schoolId organizationId hs ho =>
    obtain ⟨hqueries, hwrite⟩ := Script.run_ask_ok h
    rw [contestant, run_write_flushing] at hwrite
    obtain ⟨c₁, hinsert, hrest⟩ := bind_ok.mp hwrite
    exact ⟨schoolId, organizationId, c₁, hs, ho, h,
      fun q hq => hqueries q (List.mem_append_left _ hq), hinsert, hrest⟩

/-- Requests for one key that would each go through alone are in a contest. -/
theorem contest {ι : Type} (hS : S.Lawful) {ctx : ι → RequestContext} {data : ι → S.Data}
    {outcome : ι → S.State} (hschool : ∀ i, (ctx i).schoolId = some schoolId)
    (hkey : ∀ i, k ∈ S.keys schoolId (data i)) (hid : ∀ i j, i ≠ j → S.id (data i) ≠ S.id (data j))
    (halone : ∀ i, (S.script env (ctx i) (data i)).run c = .ok ((), outcome i)) :
    ∃ q : ι → Contestant ApiError S.State (EntryLock S.Key) Unit,
      (∀ i, S.script env (ctx i) (data i) = (q i).script) ∧
      Contest q c (.key k) (fun i => ((), outcome i))
        (fun j n => S.mapped k = true ∨ n < S.place env (ctx j) schoolId (data j) k)
        (fun i j e => e ∈ S.conflicts env (ctx j) schoolId (data j) (outcome i)) := by
  choose school o c₁ hs ho hrun hchecks hinsert hrest using fun i => script_ok (halone i)
  obtain rfl : school = fun _ => schoolId :=
    funext fun i => Option.some.inj ((hs i).symm.trans (hschool i))
  refine ⟨fun i => S.contestant env (ctx i) schoolId (o i) (data i), fun i => ?_, hrun,
    fun i => List.mem_cons_of_mem _ (List.mem_map_of_mem (hkey i)), ?_⟩
  · simp only [script, hs, ho]
  · intro i j hij m htold n hn
    refine Script.run_ask_refused (fun q hq e he => ?_) ?_
    · -- The query was past the key, and finds what it found before.
      rcases List.mem_append.mp (List.mem_of_mem_drop hq) with hq | hq
      · rw [hS.keeps (hinsert i) (hrest i) q hq, hchecks j q hq] at he
        cases he
      · -- The query finds the row of the winner.
        obtain ⟨p, hp, rfl⟩ := List.mem_map.mp hq
        exact List.mem_filterMap.mpr ⟨p, hp, query_error he⟩
    -- The index tells of the conflict.
    rcases htold with hmapped | hplace
    · obtain ⟨e, he, hinsert'⟩ := hS.tells (hschool j) (hinsert i) (hrest i) (hkey i) (hkey j)
        hmapped (hid i j hij) (hinsert j)
      refine .inr ⟨e, he, ?_⟩
      rw [contestant, run_write_flushing, hinsert']
      rfl
    · -- The search for the key is still to come.
      obtain ⟨p, hp, hpk, hmem⟩ := exists_of_lt_place (o j)
        (Nat.lt_of_le_of_lt hn hplace)
      exact .inl ⟨p.query, hmem, query_ne_ok
        (hS.shows (hschool j) (hinsert i) (hrest i) (hkey i) p hp hpk)⟩

end CreateService

end SchoolOs
