import Mathlib.Logic.Function.Basic
import SchoolOs.ReadCommitted

/-!
Processes on one READ COMMITTED store: each runs its statements one at a time, the statements of
different processes interleave, and each process has assertions that the commits of the others
leave solo.
-/

namespace SchoolOs.ReadCommitted

/-- The state after the writes. -/
def after {σ κ : Type*} (ws : List (Write σ κ)) (c : σ) : σ := ws.foldl (fun c w => w.run c) c

/-- A store, and where each process stands. -/
structure Procs (ι σ κ π : Type*) where
  store : Store ι σ κ
  pc : ι → π

/-- What processes may do, by where they stand and what they see. Transactions of others come
from outside, as one step. -/
structure Program (ι σ κ π : Type*) where
  reads : ι → σ → π → π → Prop
  writes : ι → σ → π → Write σ κ → π → Prop
  commits : ι → π → π → Prop
  aborts : ι → π → π → Prop
  outside : σ → σ → Prop

variable {ι σ κ π : Type*}

section After

variable {ws ws' : List (Write σ κ)} {w : Write σ κ} {c : σ}

@[simp] lemma after_nil (c : σ) : after ([] : List (Write σ κ)) c = c := rfl

lemma after_append : after (ws ++ ws') c = after ws' (after ws c) := List.foldl_append ..

lemma after_snoc : after (ws ++ [w]) c = w.run (after ws c) := after_append

lemma after_frame {α : Type*} {f : σ → α} (h : ∀ w ∈ ws, ∀ c, f (w.run c) = f c) (c : σ) :
    f (after ws c) = f c := by
  induction ws generalizing c with
  | nil => rfl
  | cons w ws ih =>
    have hrest := ih (fun v hv => h v (List.mem_cons_of_mem _ hv)) (w.run c)
    exact hrest.trans (h w List.mem_cons_self c)

end After

namespace Procs

variable [DecidableEq ι] (s : Procs ι σ κ π) (i : ι)

/-- What a process sees. -/
def view : σ := s.store.view i

def goto (pc : π) : Procs ι σ κ π := { s with pc := Function.update s.pc i pc }

/-- A write statement goes through, or the process waits. -/
def write [DecidableEq κ] (w : Write σ κ) (pc : π) : Procs ι σ κ π :=
  match s.store.write i w with
  | none => s
  | some store => ⟨store, Function.update s.pc i pc⟩

def commit (pc : π) : Procs ι σ κ π := ⟨s.store.commit i, Function.update s.pc i pc⟩

def abort (pc : π) : Procs ι σ κ π := ⟨s.store.abort i, Function.update s.pc i pc⟩

omit [DecidableEq ι] in
/-- A transaction from outside. -/
def outside (c : σ) : Procs ι σ κ π := { s with store := { s.store with committed := c } }

/-- No process has an open transaction. -/
def Closed : Prop := s.store.pending = []

section Moves

variable {s i} {pc : π}

@[simp] lemma goto_self : (s.goto i pc).pc i = pc := Function.update_self _ _ _

@[simp] lemma commit_self : (s.commit i pc).pc i = pc := Function.update_self _ _ _

@[simp] lemma abort_self : (s.abort i pc).pc i = pc := Function.update_self _ _ _

lemma write_self [DecidableEq κ] (w : Write σ κ) :
    (s.write i w pc).pc i = s.pc i ∨ (s.write i w pc).pc i = pc := by
  unfold write
  split
  · exact .inl rfl
  · exact .inr (Function.update_self _ _ _)

omit [DecidableEq ι] in
/-- Nothing is committed, and no other process moves. -/
def Quiet (s : Procs ι σ κ π) (i : ι) (s' : Procs ι σ κ π) : Prop :=
  s'.store.committed = s.store.committed ∧ ∀ j ≠ i, s'.pc j = s.pc j

omit [DecidableEq ι] in
lemma quiet_refl : s.Quiet i s := ⟨rfl, fun _ _ => rfl⟩

lemma quiet_goto : s.Quiet i (s.goto i pc) := ⟨rfl, fun _ hne => Function.update_of_ne hne _ _⟩

lemma quiet_abort : s.Quiet i (s.abort i pc) := ⟨rfl, fun _ hne => Function.update_of_ne hne _ _⟩

lemma quiet_write [DecidableEq κ] (w : Write σ κ) : s.Quiet i (s.write i w pc) := by
  unfold write
  split
  · exact quiet_refl
  · next hw => exact ⟨Store.write_committed hw, fun _ hne => Function.update_of_ne hne _ _⟩

end Moves

/-- What one step may be. -/
inductive Steps [DecidableEq κ] (P : Program ι σ κ π) : Procs ι σ κ π → Prop
  | idle : Steps P s
  | read {i : ι} {pc : π} : P.reads i (s.view i) (s.pc i) pc → Steps P (s.goto i pc)
  | write {i : ι} {w : Write σ κ} {pc : π} {store : Store ι σ κ} :
      P.writes i (s.view i) (s.pc i) w pc → s.store.write i w = some store →
      Steps P ⟨store, Function.update s.pc i pc⟩
  | commit {i : ι} {pc : π} : P.commits i (s.pc i) pc → Steps P (s.commit i pc)
  | abort {i : ι} {pc : π} : P.aborts i (s.pc i) pc → Steps P (s.abort i pc)
  | outside {c : σ} : P.outside s.store.committed c → Steps P (s.outside c)

variable {s i}

lemma steps_write [DecidableEq κ] {P : Program ι σ κ π} {w : Write σ κ} {pc : π}
    (h : P.writes i (s.view i) (s.pc i) w pc) : s.Steps P (s.write i w pc) := by
  unfold Procs.write
  split
  · exact .idle
  · next store hw => exact .write h hw

lemma Steps.pc_of_halted [DecidableEq κ] {P : Program ι σ κ π} {s' : Procs ι σ κ π}
    (h : s.Steps P s') (hr : ∀ c pc, ¬ P.reads i c (s.pc i) pc)
    (hw : ∀ c w pc, ¬ P.writes i c (s.pc i) w pc) (hc : ∀ pc, ¬ P.commits i (s.pc i) pc)
    (ha : ∀ pc, ¬ P.aborts i (s.pc i) pc) : s'.pc i = s.pc i := by
  have hother : ∀ {j : ι} {pc : π}, j ≠ i → Function.update s.pc j pc i = s.pc i :=
    fun hne => Function.update_of_ne (Ne.symm hne) _ _
  cases h with
  | idle | outside => rfl
  | read h => exact hother fun heq => hr _ _ (heq ▸ h)
  | write h => exact hother fun heq => hw _ _ _ (heq ▸ h)
  | commit h => exact hother fun heq => hc _ (heq ▸ h)
  | abort h => exact hother fun heq => ha _ (heq ▸ h)

lemma view_eq : s.view i = after (s.store.own i) s.store.committed := rfl

lemma commit_committed {pc : π} :
    (s.commit i pc).store.committed = after (s.store.own i) s.store.committed := rfl

end Procs

/-! ### A process alone -/

namespace Procs

section Alone

variable [DecidableEq ι] {pcs : ι → π} {i : ι} {c : σ} {ws : List (Write σ κ)} {pc : π}

/-- Only the process `i` has an open transaction; it wrote `ws` and stands at `pc`. -/
def solo (pcs : ι → π) (i : ι) (c : σ) (ws : List (Write σ κ)) (pc : π) : Procs ι σ κ π :=
  ⟨⟨c, ws.map (Prod.mk i)⟩, Function.update pcs i pc⟩

@[simp] lemma solo_pc : (solo pcs i c ws pc).pc i = pc := Function.update_self _ _ _

@[simp] lemma solo_view : (solo pcs i c ws pc).view i = after ws c := by
  have hown : (solo pcs i c ws pc).store.own i = ws := by
    rw [solo, Store.own, List.filter_eq_self.mpr, List.map_map]
    · exact List.map_id ws
    · intro q hq
      obtain ⟨w, _, rfl⟩ := List.mem_map.mp hq
      exact decide_eq_true rfl
  rw [view_eq, hown]
  rfl

@[simp] lemma solo_goto (pc' : π) :
    (solo pcs i c ws pc).goto i pc' = solo pcs i c ws pc' := by
  simp only [solo, goto, Function.update_idem]

lemma solo_not_waits [DecidableEq κ] (w : Write σ κ) :
    ¬ (solo pcs i c ws pc).store.Waits i w := by
  rintro ⟨q, hq, hne, _⟩
  obtain ⟨v, _, rfl⟩ := List.mem_map.mp hq
  exact hne rfl

@[simp] lemma solo_write [DecidableEq κ] (w : Write σ κ) (pc' : π) :
    (solo pcs i c ws pc).write i w pc' = solo pcs i c (ws ++ [w]) pc' := by
  rw [write, Store.write, if_neg (solo_not_waits w)]
  simp only [solo, Function.update_idem, List.map_append, List.map_cons, List.map_nil]

lemma solo_pending : (solo pcs i c ws pc).store.pending.filter (·.1 ≠ i) = [] := by
  rw [List.filter_eq_nil_iff]
  intro q hq
  obtain ⟨w, _, rfl⟩ := List.mem_map.mp hq
  simp

@[simp] lemma solo_commit (pc' : π) :
    (solo pcs i c ws pc).commit i pc' = solo pcs i (after ws c) [] pc' := by
  have hview : (solo pcs i c ws pc).store.view i = after ws c := solo_view
  rw [commit, Store.commit, solo_pending, hview]
  simp only [solo, Function.update_idem, List.map_nil]

@[simp] lemma solo_abort (pc' : π) :
    (solo pcs i c ws pc).abort i pc' = solo pcs i c [] pc' := by
  rw [abort, Store.abort, solo_pending]
  simp only [solo, Function.update_idem, List.map_nil]

end Alone

end Procs

/-! ### Who has done it -/

/-- What each process has recorded, if anything, in the order in which they did. -/
structure Recorded {α : Type*} (f : ι → Option α) (l : List (ι × α)) : Prop where
  once : (l.map Prod.fst).Nodup
  mem_iff : ∀ i a, (i, a) ∈ l ↔ f i = some a

namespace Recorded

variable {α : Type*} {f : ι → Option α} {l l' : List (ι × α)} {i : ι} {a : α}

lemma nil (h : ∀ i, f i = none) : Recorded f [] where
  once := List.nodup_nil
  mem_iff := fun i a => iff_of_false List.not_mem_nil (by simp [h i])

lemma perm (h : Recorded f l) (hp : l.Perm l') : Recorded f l' where
  once := (hp.map Prod.fst).nodup_iff.mp h.once
  mem_iff := fun i a => hp.mem_iff.symm.trans (h.mem_iff i a)

lemma mem_map (h : Recorded f l) : i ∈ l.map Prod.fst ↔ (f i).isSome := by
  rw [List.mem_map, Option.isSome_iff_exists]
  constructor
  · rintro ⟨⟨j, a⟩, hmem, rfl⟩
    exact ⟨a, (h.mem_iff j a).mp hmem⟩
  · rintro ⟨a, ha⟩
    exact ⟨(i, a), (h.mem_iff i a).mpr ha, rfl⟩

lemma cons [DecidableEq ι] (h : Recorded f l) (hi : f i = none) :
    Recorded (Function.update f i (some a)) ((i, a) :: l) where
  once := by
    have hnew : i ∉ l.map Prod.fst := by
      rw [h.mem_map, hi]
      exact Bool.false_ne_true
    exact List.nodup_cons.mpr ⟨hnew, h.once⟩
  mem_iff := by
    intro j b
    rw [List.mem_cons, Prod.mk.injEq, h.mem_iff]
    by_cases hj : j = i
    · subst hj
      rw [Function.update_self, hi, Option.some.injEq]
      constructor
      · rintro (⟨_, rfl⟩ | hnone)
        · rfl
        · cases hnone
      · exact fun hb => .inl ⟨rfl, hb.symm⟩
    · rw [Function.update_of_ne hj]
      exact ⟨fun hor => hor.resolve_left fun hb => hj hb.1, .inr⟩

lemma snoc [DecidableEq ι] (h : Recorded f l) (hi : f i = none) :
    Recorded (Function.update f i (some a)) (l ++ [(i, a)]) :=
  (h.cons hi).perm (List.perm_append_singleton _ _).symm

lemma update [DecidableEq ι] (h : Recorded f l) {o : Option α} (hi : f i = o) :
    Recorded (Function.update f i o) l := by
  rwa [← hi, Function.update_eq_self]

end Recorded

/-! ### Assertions -/

/-- The writes lock no key in common. -/
def Apart (ws ws' : List (Write σ κ)) : Prop :=
  ∀ w ∈ ws, ∀ w' ∈ ws', ∀ k ∈ w.locks, k ∉ w'.locks

/-- A proof outline: `G` says what holds of every committed state, and `A` what holds where a
process stands, of its writes and of the committed state. Each process keeps its own assertion,
and the commits of the others do not interfere with it. -/
structure Outline (P : Program ι σ κ π) (G : σ → Prop) (A : ι → π → List (Write σ κ) → σ → Prop) :
    Prop where
  read : ∀ {i pc pc' ws c}, P.reads i (after ws c) pc pc' → G c → A i pc ws c → A i pc' ws c
  write : ∀ {i pc w pc' ws c}, P.writes i (after ws c) pc w pc' → G c → A i pc ws c →
    A i pc' (ws ++ [w]) c
  commit : ∀ {i pc pc' ws c}, P.commits i pc pc' → G c → A i pc ws c →
    G (after ws c) ∧ A i pc' [] (after ws c)
  abort : ∀ {i pc pc' ws c}, P.aborts i pc pc' → G c → A i pc ws c → A i pc' [] c
  interfere : ∀ {i j pc pc' qc ws ws' c}, i ≠ j → Apart ws ws' → P.commits i pc pc' → G c →
    A i pc ws c → A j qc ws' c → A j qc ws' (after ws c)
  outside : ∀ {c c'}, P.outside c c' → G c → G c' ∧
    ∀ {i pc ws}, A i pc ws c → A i pc ws c'

variable [DecidableEq ι]

lemma Store.Exclusive.apart {s : Store ι σ κ} (h : s.Exclusive) {i j : ι} (hne : i ≠ j) :
    Apart (s.own i) (s.own j) :=
  fun _ hw _ hw' _ hk hk' => hne (h.eq hw hw' hk hk')

/-- The assertions hold, and locks exclude each other. -/
structure Valid (G : σ → Prop) (A : ι → π → List (Write σ κ) → σ → Prop)
    (s : Procs ι σ κ π) : Prop where
  exclusive : s.store.Exclusive
  global : G s.store.committed
  local_ : ∀ i, A i (s.pc i) (s.store.own i) s.store.committed

/-- When no transaction is open, the assertions are about the committed state. -/
lemma valid_of_closed {G : σ → Prop} {A : ι → π → List (Write σ κ) → σ → Prop}
    {s : Procs ι σ κ π} (h : s.Closed) (hglobal : G s.store.committed)
    (hlocal : ∀ i, A i (s.pc i) [] s.store.committed) : Valid G A s where
  exclusive := Store.exclusive_of_pending_nil h
  global := hglobal
  local_ := by
    intro i
    rw [Store.own_of_pending_nil h]
    exact hlocal i

section Outline

variable [DecidableEq κ] {P : Program ι σ κ π} {G : σ → Prop}
  {A : ι → π → List (Write σ κ) → σ → Prop} {s s' : Procs ι σ κ π}

/-- **The assertions hold along a step** of a program that has a proof outline. -/
theorem Outline.step (hP : Outline P G A) (hstep : s.Steps P s') (h : Valid G A s) :
    Valid G A s' := by
  cases hstep with
  | idle => exact h
  | @read i pc hr =>
    refine ⟨h.exclusive, h.global, ?_⟩
    refine (Function.forall_update_iff _
      fun j (pc : π) => A j pc (s.store.own j) s.store.committed).mpr ⟨?_, fun j _ => h.local_ j⟩
    exact hP.read hr h.global (h.local_ i)
  | @write i w pc store hw hstore =>
    refine ⟨h.exclusive.write hstore, Store.write_committed hstore ▸ h.global, ?_⟩
    rw [Store.write_committed hstore]
    refine (Function.forall_update_iff _
      fun j (pc : π) => A j pc (store.own j) s.store.committed).mpr ⟨?_, fun j hj => ?_⟩
    · rw [Store.own_write hstore]
      exact hP.write hw h.global (h.local_ i)
    · rw [Store.own_write_of_ne hstore hj]
      exact h.local_ j
  | @commit i pc hc =>
    obtain ⟨hglobal, hself⟩ := hP.commit hc h.global (h.local_ i)
    refine ⟨h.exclusive.commit, hglobal, ?_⟩
    refine (Function.forall_update_iff _ fun j (pc : π) =>
      A j pc ((s.store.commit i).own j) (after (s.store.own i) s.store.committed)).mpr
        ⟨?_, fun j hj => ?_⟩
    · rw [Store.own_commit]
      exact hself
    · rw [Store.own_commit_of_ne hj]
      exact hP.interfere hj.symm (h.exclusive.apart hj.symm) hc h.global (h.local_ i) (h.local_ j)
  | @abort i pc ha =>
    refine ⟨h.exclusive.abort, h.global, ?_⟩
    refine (Function.forall_update_iff _ fun j (pc : π) =>
      A j pc ((s.store.abort i).own j) s.store.committed).mpr ⟨?_, fun j hj => ?_⟩
    · rw [Store.own_abort]
      exact hP.abort ha h.global (h.local_ i)
    · rw [Store.own_abort_of_ne hj]
      exact h.local_ j
  | @outside c ho =>
    obtain ⟨hglobal, hlocal⟩ := hP.outside ho h.global
    exact ⟨h.exclusive, hglobal, fun i => hlocal (h.local_ i)⟩

end Outline

end SchoolOs.ReadCommitted
