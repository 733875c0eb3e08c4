import SchoolOs.Processes
import SchoolOs.Runs

/-!
Processes that are one transaction each, which its first error ends. A statement waits, goes through
or fails; what may happen then is said once, for assertions about every process and for a process
that runs alone.
-/

namespace SchoolOs.ReadCommitted

open Runs

universe u

variable {ι ε κ π : Type*} {σ : Type u}

/-- A statement that may fail: what it locks, and what it does to the state that it finds. -/
structure Statement (ε : Type*) (σ : Type u) (κ : Type*) where
  locks : List κ
  run : σ → Except ε σ

/-- What a statement that went through writes. -/
def Statement.write (t : Statement ε σ κ) : Write σ κ where
  locks := t.locks
  run c := (t.run c).toOption.getD c

lemma Statement.write_run {t : Statement ε σ κ} {c c' : σ} (h : t.run c = .ok c') :
    t.write.run c = c' := by
  simp only [Statement.write, h, Except.toOption, Option.getD_some]

/-- What holds of the state that a statement finds and leaves holds of its write. -/
lemma Statement.write_cases {R : σ → σ → Prop} (t : Statement ε σ κ) (c : σ) (hrefl : R c c)
    (hrun : ∀ c', t.run c = .ok c' → R c c') : R c (t.write.run c) := by
  cases h : t.run c with
  | ok c' =>
    rw [t.write_run h]
    exact hrun c' h
  | error e =>
    simp only [Statement.write, h, Except.toOption, Option.getD_none]
    exact hrefl

namespace Procs

variable [DecidableEq ι] (s : Procs ι σ κ π) (i : ι)

/-- What was read is taken further, or ends the transaction. -/
def ask {α : Type u} (x : Except ε α) (next : α → π) (failed : ε → π) : Procs ι σ κ π :=
  match x with
  | .ok a => s.goto i (next a)
  | .error e => s.abort i (failed e)

/-- A statement waits for locks, goes through, or ends the transaction. -/
def exec [DecidableEq κ] (t : Statement ε σ κ) (pc : π) (failed : ε → π) : Procs ι σ κ π :=
  if s.store.Waits i t.write then s
  else
    match t.run (s.view i) with
    | .ok _ => s.write i t.write pc
    | .error e => s.abort i (failed e)

variable {s i}

lemma ask_keeps {I : Procs ι σ κ π → Prop} {α : Type u} {x : Except ε α} {next : α → π}
    {failed : ε → π} (hgoto : ∀ a, x = .ok a → I (s.goto i (next a)))
    (habort : ∀ e, I (s.abort i (failed e))) : I (s.ask i x next failed) := by
  unfold ask
  split
  · exact hgoto _ rfl
  · exact habort _

lemma exec_keeps [DecidableEq κ] {I : Procs ι σ κ π → Prop} {t : Statement ε σ κ} {pc : π}
    {failed : ε → π} (hidle : I s)
    (hwrite : ∀ store, s.store.write i t.write = some store →
      I ⟨store, Function.update s.pc i pc⟩)
    (habort : ∀ e, I (s.abort i (failed e))) : I (s.exec i t pc failed) := by
  unfold exec
  split
  · exact hidle
  split
  · unfold Procs.write
    split
    · exact hidle
    · next hstore => exact hwrite _ hstore
  · exact habort _

/-! ### Assertions about every process -/

/-- The assertion holds of every process. -/
def Holds (A : ι → π → List (Write σ κ) → σ → Prop) (s : Procs ι σ κ π) : Prop :=
  ∀ i, A i (s.pc i) (s.store.own i) s.store.committed

variable {A : ι → π → List (Write σ κ) → σ → Prop} {pc : π}

lemma holds_of_closed (h : s.Closed) (hA : ∀ i, A i (s.pc i) [] s.store.committed) :
    Holds A s := by
  intro i
  rw [Store.own_of_pending_nil h]
  exact hA i

lemma Holds.goto (h : Holds A s) (hi : A i pc (s.store.own i) s.store.committed) :
    Holds A (s.goto i pc) :=
  (Function.forall_update_iff s.pc
    fun j pc => A j pc (s.store.own j) s.store.committed).mpr ⟨hi, fun j _ => h j⟩

lemma Holds.write [DecidableEq κ] {w : Write σ κ} {store : Store ι σ κ} (h : Holds A s)
    (hw : s.store.write i w = some store)
    (hi : A i pc (s.store.own i ++ [w]) s.store.committed) :
    Holds A ⟨store, Function.update s.pc i pc⟩ := by
  refine (Function.forall_update_iff s.pc fun j pc => A j pc (store.own j) store.committed).mpr
    ⟨?_, fun j hj => ?_⟩
  · rw [Store.own_write hw, Store.write_committed hw]
    exact hi
  · rw [Store.own_write_of_ne hw hj, Store.write_committed hw]
    exact h j

lemma Holds.abort (h : Holds A s) (hi : A i pc [] s.store.committed) :
    Holds A (s.abort i pc) := by
  refine (Function.forall_update_iff s.pc
    fun j pc => A j pc ((s.store.abort i).own j) s.store.committed).mpr ⟨?_, fun j hj => ?_⟩
  · rw [Store.own_abort]
    exact hi
  · rw [Store.own_abort_of_ne hj]
    exact h j

/-- A commit keeps the assertions of the others when it does not interfere with them. -/
lemma Holds.commit (h : Holds A s) (hi : A i pc [] (after (s.store.own i) s.store.committed))
    (hothers : ∀ j ≠ i, A j (s.pc j) (s.store.own j) s.store.committed →
      A j (s.pc j) (s.store.own j) (after (s.store.own i) s.store.committed)) :
    Holds A (s.commit i pc) := by
  refine (Function.forall_update_iff s.pc fun j pc => A j pc ((s.store.commit i).own j)
    (after (s.store.own i) s.store.committed)).mpr ⟨?_, fun j hj => ?_⟩
  · rw [Store.own_commit]
    exact hi
  · rw [Store.own_commit_of_ne hj]
    exact hothers j hj (h j)

/-! ### A transaction alone -/

/-- Turns of the one process lead to where it has come to what `r` says: committed, and standing
at `done`, or failed. -/
def Answers (step : Procs ι σ κ π → ι → Procs ι σ κ π) (i : ι) (pcs : ι → π) (done : π)
    (failed : ε → π) (s : Procs ι σ κ π) (c : σ) : Except ε σ → Prop
  | .ok c' => Repeats step i s (solo pcs i c' [] done)
  | .error e => Repeats step i s (solo pcs i c [] (failed e))

section Answers

variable {step : Procs ι σ κ π → ι → Procs ι σ κ π} {pcs : ι → π} {done pc' : π}
  {failed : ε → π} {c : σ} {ws : List (Write σ κ)} {r : Except ε σ}

lemma Answers.next (h : Answers step i pcs done failed (step s i) c r) :
    Answers step i pcs done failed s c r := by
  cases r with
  | ok c' => exact Repeats.next h
  | error e => exact Repeats.next h

lemma answers_fail (e : ε) :
    Answers step i pcs done failed ((solo pcs i c ws pc).abort i (failed e)) c (.error e) := by
  rw [solo_abort]
  exact Repeats.refl _

lemma answers_commit :
    Answers step i pcs done failed ((solo pcs i c ws pc).commit i done) c (.ok (after ws c)) := by
  rw [solo_commit]
  exact Repeats.refl _

lemma answers_ask {α : Type u} {x : Except ε α} {next : α → π} {k : α → Except ε σ}
    (h : ∀ a, x = .ok a → Answers step i pcs done failed (solo pcs i c ws (next a)) c (k a)) :
    Answers step i pcs done failed ((solo pcs i c ws pc).ask i x next failed) c (x >>= k) := by
  cases x with
  | ok a =>
    simp only [ask, solo_goto]
    exact h a rfl
  | error e => exact answers_fail e

lemma answers_exec [DecidableEq κ] {t : Statement ε σ κ} {k : σ → Except ε σ}
    (h : ∀ ws' c', after ws' c = c' → t.run (after ws c) = .ok c' →
      Answers step i pcs done failed (solo pcs i c ws' pc') c (k c')) :
    Answers step i pcs done failed ((solo pcs i c ws pc).exec i t pc' failed) c
      (t.run (after ws c) >>= k) := by
  unfold exec
  rw [if_neg (solo_not_waits t.write), solo_view]
  cases hrun : t.run (after ws c) with
  | ok c' =>
    simp only [solo_write]
    refine h _ c' ?_ hrun
    rw [after_snoc, t.write_run hrun]
  | error e => exact answers_fail e

end Answers

end Procs

end SchoolOs.ReadCommitted
