import Mathlib.Data.List.Basic
import Mathlib.Tactic.Common

/-!
Transactions under READ COMMITTED: a statement sees what is committed when it runs and what its
own transaction wrote; a write locks keys until its transaction ends and waits for the keys that
another open transaction holds; others see it from the commit on.
-/

namespace SchoolOs.ReadCommitted

/-- A write statement: the keys it locks, and what it does to the state it lands on. -/
structure Write (σ κ : Type*) where
  locks : List κ
  run : σ → σ

/-- The committed state, and the writes of the open transactions, oldest first. -/
structure Store (ι σ κ : Type*) where
  committed : σ
  pending : List (ι × Write σ κ)

namespace Store

variable {ι σ κ : Type*} [DecidableEq ι] (s : Store ι σ κ) (i : ι)

/-- The writes of one transaction. -/
def own : List (Write σ κ) := (s.pending.filter (·.1 = i)).map (·.2)

/-- What one transaction sees. -/
def view : σ := (s.own i).foldl (fun c w => w.run c) s.committed

def commit : Store ι σ κ := ⟨s.view i, s.pending.filter (·.1 ≠ i)⟩

def abort : Store ι σ κ := { s with pending := s.pending.filter (·.1 ≠ i) }

section Locks

variable [DecidableEq κ] (w : Write σ κ)

/-- Another open transaction holds a key the write needs. -/
def Waits : Prop := ∃ p ∈ s.pending, p.1 ≠ i ∧ ∃ k ∈ w.locks, k ∈ p.2.locks

instance : Decidable (s.Waits i w) :=
  inferInstanceAs (Decidable (∃ p ∈ s.pending, p.1 ≠ i ∧ ∃ k ∈ w.locks, k ∈ p.2.locks))

/-- The write goes through, or waits. -/
def write : Option (Store ι σ κ) :=
  if s.Waits i w then none else some { s with pending := s.pending ++ [(i, w)] }

end Locks

/-- No key is held by two transactions. -/
def Exclusive : Prop :=
  ∀ p ∈ s.pending, ∀ q ∈ s.pending, ∀ k ∈ p.2.locks, k ∈ q.2.locks → p.1 = q.1

variable {s i} {s' : Store ι σ κ} {j : ι} {w : Write σ κ}

/-! ### What the end of a transaction leaves -/

lemma filter_pending_of_ne (hj : j ≠ i) :
    (s.pending.filter (·.1 ≠ i)).filter (·.1 = j) = s.pending.filter (·.1 = j) := by
  rw [List.filter_filter]
  refine List.filter_congr fun p _ => ?_
  by_cases hp : p.1 = j
  · simp [hp, hj]
  · simp [hp]

lemma filter_pending_self : (s.pending.filter (·.1 ≠ i)).filter (·.1 = i) = [] := by
  rw [List.filter_filter, List.filter_eq_nil_iff]
  intro p _
  by_cases hp : p.1 = i <;> simp [hp]

@[simp] lemma own_commit : (s.commit i).own i = [] := by
  simp only [own, commit, filter_pending_self, List.map_nil]

lemma own_commit_of_ne (hj : j ≠ i) : (s.commit i).own j = s.own j := by
  simp only [own, commit, filter_pending_of_ne hj]

@[simp] lemma own_abort : (s.abort i).own i = [] := by
  simp only [own, abort, filter_pending_self, List.map_nil]

lemma own_abort_of_ne (hj : j ≠ i) : (s.abort i).own j = s.own j := by
  simp only [own, abort, filter_pending_of_ne hj]

lemma mem_own_commit (h : w ∈ (s.commit i).own j) : j ≠ i ∧ w ∈ s.own j := by
  by_cases hj : j = i
  · rw [hj, own_commit] at h
    exact absurd h List.not_mem_nil
  · exact ⟨hj, own_commit_of_ne hj ▸ h⟩

lemma mem_own_abort (h : w ∈ (s.abort i).own j) : j ≠ i ∧ w ∈ s.own j :=
  mem_own_commit (s := ⟨s.committed, s.pending⟩) h

lemma own_of_pending_nil (h : s.pending = []) : s.own i = [] := by
  rw [own, h, List.filter_nil, List.map_nil]

lemma view_of_own_nil (h : s.own i = []) : s.view i = s.committed := by
  rw [view, h, List.foldl_nil]

lemma foldl_keeps {I : σ → Prop} {ws : List (Write σ κ)} {c : σ}
    (hws : ∀ w ∈ ws, ∀ c, I c → I (w.run c)) (hc : I c) :
    I (ws.foldl (fun c w => w.run c) c) := by
  induction ws generalizing c with
  | nil => exact hc
  | cons w ws ih =>
    exact ih (fun w' hw' => hws w' (List.mem_cons_of_mem _ hw')) (hws w List.mem_cons_self c hc)

lemma foldl_establishes {I : σ → Prop} {ws : List (Write σ κ)} {w : Write σ κ} (hw : w ∈ ws)
    (hset : ∀ c, I (w.run c)) (hws : ∀ w ∈ ws, ∀ c, I c → I (w.run c)) (c : σ) :
    I (ws.foldl (fun c w => w.run c) c) := by
  induction ws generalizing c with
  | nil => exact absurd hw List.not_mem_nil
  | cons v ws ih =>
    have hkeep : ∀ w ∈ ws, ∀ c, I c → I (w.run c) :=
      fun w' hw' => hws w' (List.mem_cons_of_mem _ hw')
    rw [List.foldl_cons]
    rcases List.mem_cons.mp hw with rfl | hw
    · exact foldl_keeps hkeep (hset c)
    · exact ih hw hkeep _

/-- **The commit rule**: what every write of the transaction keeps, its commit keeps, -/
theorem commit_rule {I : σ → Prop} (hws : ∀ w ∈ s.own i, ∀ c, I c → I (w.run c))
    (h : I s.committed) : I (s.commit i).committed := foldl_keeps hws h

/-- and what one of them brings about and the others keep holds after it. -/
theorem commit_establishes {I : σ → Prop} (hw : w ∈ s.own i) (hset : ∀ c, I (w.run c))
    (hws : ∀ w ∈ s.own i, ∀ c, I c → I (w.run c)) : I (s.commit i).committed :=
  foldl_establishes hw hset hws _

/-! ### Locks exclude each other -/

lemma mem_own : w ∈ s.own i ↔ (i, w) ∈ s.pending := by
  simp only [own, List.mem_map, List.mem_filter, decide_eq_true_eq]
  refine ⟨?_, fun h => ⟨(i, w), ⟨h, rfl⟩, rfl⟩⟩
  rintro ⟨p, ⟨hp, rfl⟩, rfl⟩
  exact hp

omit [DecidableEq ι] in
lemma exclusive_of_pending_nil (h : s.pending = []) : s.Exclusive := by
  intro p hp
  rw [h] at hp
  exact absurd hp List.not_mem_nil

lemma Exclusive.eq (h : s.Exclusive) {v : Write σ κ} {k : κ} (hw : w ∈ s.own i)
    (hv : v ∈ s.own j) (hk : k ∈ w.locks) (hk' : k ∈ v.locks) : i = j :=
  h (i, w) (mem_own.mp hw) (j, v) (mem_own.mp hv) k hk hk'

lemma Exclusive.commit (h : s.Exclusive) : (s.commit i).Exclusive := fun p hp q hq =>
  h p (List.mem_of_mem_filter hp) q (List.mem_of_mem_filter hq)

lemma Exclusive.abort (h : s.Exclusive) : (s.abort i).Exclusive := fun p hp q hq =>
  h p (List.mem_of_mem_filter hp) q (List.mem_of_mem_filter hq)

variable [DecidableEq κ]

lemma write_eq_some : s.write i w = some s' ↔
    ¬ s.Waits i w ∧ { s with pending := s.pending ++ [(i, w)] } = s' := by
  unfold write
  split
  · next h => exact iff_of_false nofun fun h' => h'.1 h
  · next h => rw [Option.some.injEq, and_iff_right h]

lemma write_committed (h : s.write i w = some s') : s'.committed = s.committed := by
  obtain ⟨_, rfl⟩ := write_eq_some.mp h
  rfl

lemma own_write (h : s.write i w = some s') : s'.own i = s.own i ++ [w] := by
  obtain ⟨_, rfl⟩ := write_eq_some.mp h
  simp [own, List.filter_append]

lemma own_write_of_ne (h : s.write i w = some s') (hj : j ≠ i) : s'.own j = s.own j := by
  obtain ⟨_, rfl⟩ := write_eq_some.mp h
  simp [own, List.filter_append, hj.symm]

/-- **Waiting keeps locks apart**: a write that goes through takes no key of another. -/
theorem Exclusive.write (h : s.Exclusive) (hw : s.write i w = some s') : s'.Exclusive := by
  obtain ⟨hfree, rfl⟩ := write_eq_some.mp hw
  intro p hp q hq k hkp hkq
  have hnew : ∀ r ∈ s.pending, k ∈ r.2.locks → k ∈ w.locks → r.1 = i := by
    intro r hr hkr hkw
    by_contra hne
    exact hfree ⟨r, hr, hne, k, hkw, hkr⟩
  rcases List.mem_append.mp hp with hp | hp
  · rcases List.mem_append.mp hq with hq | hq
    · exact h p hp q hq k hkp hkq
    · obtain rfl := List.mem_singleton.mp hq
      exact hnew p hp hkp hkq
  · obtain rfl := List.mem_singleton.mp hp
    rcases List.mem_append.mp hq with hq | hq
    · exact (hnew q hq hkq hkp).symm
    · obtain rfl := List.mem_singleton.mp hq
      rfl

end Store

end SchoolOs.ReadCommitted
