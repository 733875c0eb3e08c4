import SchoolOs.Scripts

/-!
Contests: transactions that make their queries, lock one and the same key, and would each go
through alone. One of them commits; what becomes of another depends on how many of its queries it
has made by then.
-/

namespace SchoolOs.ReadCommitted

open Runs

/-! ### Queries in a row -/

section Ask

variable {ε σ κ α : Type}

/-- Queries one after another, each of which may end the script. -/
def Script.ask (p : Script ε σ κ α) : List (σ → Except ε Unit) → Script ε σ κ α
  | [] => p
  | q :: qs => .look q >>= fun _ => p.ask qs

namespace Script

variable {p : Script ε σ κ α} {q : σ → Except ε Unit} {qs : List (σ → Except ε Unit)} {c c' : σ}

lemma ask_cons : p.ask (q :: qs) = .read fun c => (lift (q c)).bind fun _ => p.ask qs := rfl

lemma run_ask_cons : (p.ask (q :: qs)).run c = q c >>= fun _ => (p.ask qs).run c := by
  rw [ask_cons]
  cases h : q c with
  | ok u => simp only [run, h]; rfl
  | error e => simp only [run, h]; rfl

lemma run_ask : (p.ask qs).run c = (forM qs fun q => q c) >>= fun _ => p.run c := by
  induction qs with
  | nil => rfl
  | cons q qs ih => rw [run_ask_cons, ih, List.forM_cons, bind_assoc]

lemma run_write_error {t : Dml ε σ κ} {next : Script ε σ κ α} {e : ε}
    (h : t.finds c = .error e ∨ t.finds c = .ok () ∧ t.admits c = .error e) :
    (write t next).run c = .error e := by
  rcases h with h | ⟨hfinds, h⟩
  · simp only [run, Dml.run, h]
    rfl
  · simp only [run, Dml.run, hfinds, h]
    rfl

lemma run_write_ok {t : Dml ε σ κ} {next : Script ε σ κ α} (hfinds : t.finds c = .ok ())
    (hadmits : t.admits c = .ok ()) : (write t next).run c = next.run (t.effect c) := by
  simp only [run, Dml.run, hfinds, hadmits]
  rfl

lemma run_ask_ok {r : α × σ} (h : (p.ask qs).run c = .ok r) :
    (∀ q ∈ qs, q c = .ok ()) ∧ p.run c = .ok r := by
  induction qs with
  | nil => exact ⟨nofun, h⟩
  | cons q qs ih =>
    rw [run_ask_cons] at h
    cases hq : q c with
    | error e =>
      rw [hq] at h
      cases h
    | ok u =>
      rw [hq] at h
      exact ⟨List.forall_mem_cons.mpr ⟨hq, (ih h).1⟩, (ih h).2⟩

/-- Queries that pass unless they refuse with an error of one kind, before a script that fails with
one of that kind, or with one of them that does refuse. -/
lemma run_ask_refused {E : ε → Prop} (hqs : ∀ q ∈ qs, ∀ e, q c = .error e → E e)
    (h : (∃ q ∈ qs, q c ≠ .ok ()) ∨ ∃ e, E e ∧ p.run c = .error e) :
    ∃ e, E e ∧ (p.ask qs).run c = .error e := by
  induction qs with
  | nil => exact h.resolve_left fun ⟨q, hq, _⟩ => absurd hq List.not_mem_nil
  | cons q qs ih =>
    rw [run_ask_cons]
    cases hq : q c with
    | error e => exact ⟨e, hqs q List.mem_cons_self e hq, rfl⟩
    | ok u =>
      refine ih (fun q' hq' => hqs q' (List.mem_cons_of_mem _ hq')) (h.imp_left ?_)
      rintro ⟨q', hq', hne⟩
      rcases List.mem_cons.mp hq' with rfl | hq'
      · exact absurd hq hne
      · exact ⟨q', hq', hne⟩

end Script

end Ask

/-! ### Contestants -/

/-- A transaction that makes queries, then a write statement, and then the rest. -/
structure Contestant (ε σ κ α : Type) where
  queries : List (σ → Except ε Unit)
  claim : Dml ε σ κ
  rest : Script ε σ κ α

section Contestant

variable {ε σ κ α : Type}

/-- The script from the query with the number `n` on. -/
def Contestant.onward (q : Contestant ε σ κ α) (n : ℕ) : Script ε σ κ α :=
  Script.ask (.write q.claim q.rest) (q.queries.drop n)

/-- The whole script. -/
def Contestant.script (q : Contestant ε σ κ α) : Script ε σ κ α :=
  Script.ask (.write q.claim q.rest) q.queries

variable {q : Contestant ε σ κ α} {n : ℕ} {c : σ}

lemma Contestant.onward_cases (q : Contestant ε σ κ α) (n : ℕ) :
    q.onward n = .write q.claim q.rest ∨
      ∃ a : σ → Except ε Unit, q.onward n =
        .read fun c => (Script.lift (a c)).bind fun _ => q.onward (n + 1) := by
  unfold Contestant.onward
  cases h : q.queries.drop n with
  | nil => exact .inl rfl
  | cons a as =>
    refine .inr ⟨a, ?_⟩
    rw [← List.tail_drop, h]
    rfl

lemma Contestant.onward_read {next : σ → Script ε σ κ α} {r : α × σ} (h : q.onward n = .read next)
    (hrun : (q.onward n).run c = .ok r) : next c = q.onward (n + 1) := by
  rcases q.onward_cases n with hwrite | ⟨a, hread⟩
  · rw [hwrite] at h
    cases h
  · rw [hread] at h hrun
    obtain rfl := Script.read.inj h
    cases ha : a c with
    | ok u => simp only [ha, Script.lift, Script.bind]
    | error e =>
      simp only [Script.run, ha] at hrun
      cases hrun

lemma Contestant.onward_ne_done {a : α} : q.onward n ≠ .done a := by
  rcases q.onward_cases n with h | ⟨_, h⟩ <;> rw [h] <;> nofun

lemma Contestant.onward_write {t : Dml ε σ κ} {next : Script ε σ κ α}
    (h : q.onward n = .write t next) : t = q.claim := by
  rcases q.onward_cases n with hwrite | ⟨_, hread⟩
  · rw [hwrite] at h
    exact (Script.write.inj h).1.symm
  · rw [hread] at h
    cases h

end Contestant

/-- About to commit. -/
def Standing.ending {ε σ κ α : Type} : Standing ε σ κ α → Bool
  | .running (.done _) => true
  | _ => false

/-! ### The course of a contest -/

section Contest

variable {ι : Type*} {ε σ κ α : Type}

/-- The contestants with the key that all of them lock and what each would bring about alone.
`Told j n` says that a beaten contestant that has had `n` turns is still to be refused as `T`
says. -/
structure Contest (q : ι → Contestant ε σ κ α) (c : σ) (k : κ) (won : ι → α × σ)
    (Told : ι → ℕ → Prop) (T : ι → ι → ε → Prop) : Prop where
  alone : ∀ i, (q i).script.run c = .ok (won i)
  key : ∀ i, k ∈ (q i).claim.locks
  lost : ∀ i j, i ≠ j → ∀ m, Told j m → ∀ n ≤ m,
    ∃ e, T i j e ∧ ((q j).onward n).run (won i).2 = .error e

/-- Either nobody has an answer, or one has committed and everybody else who has an answer is
refused, as `T` says. -/
inductive Settled (c : σ) (won : ι → α × σ) (T : ι → ι → ε → Prop) (s : Sessions ι ε σ κ α) : Prop
  | undecided : s.store.committed = c → (∀ i, (s.pc i).answer = none) → Settled c won T s
  | decided (i : ι) : s.store.committed = (won i).2 → (s.pc i).answer = some (.ok (won i).1) →
      (∀ j, j ≠ i → ∀ r, (s.pc j).answer = some r → ∃ e, T i j e ∧ r = .error e) →
      Settled c won T s

/-- In the running: at a query, or holding the key. -/
def Contending (q : Contestant ε σ κ α) (k : κ) (won : α × σ) (turns : ℕ) :
    Standing ε σ κ α → List (Write σ κ) → σ → Prop
  | .fresh, ws, _ => ws = []
  | .running p, ws, c => p.run (after ws c) = .ok won ∧
      ((ws = [] ∧ ∃ n ≤ turns, p = q.onward n) ∨ ∃ w ∈ ws, k ∈ w.locks)
  | .answered _, _, _ => False

/-- On the way to a refusal. -/
def Losing (q : Contestant ε σ κ α) (E : ε → Prop) :
    Standing ε σ κ α → List (Write σ κ) → σ → Prop
  | .fresh, ws, c => ws = [] ∧ ∃ e, E e ∧ q.script.run c = .error e
  | .running p, ws, c => ∃ e, E e ∧ p.run (after ws c) = .error e
  | .answered r, _, _ => ∃ e, E e ∧ r = .error e

/-- One has won, and the others are losing. -/
def Lost [DecidableEq ι] (q : ι → Contestant ε σ κ α) (won : ι → α × σ) (T : ι → ι → ε → Prop)
    (i j : ι) (pc : Standing ε σ κ α) (ws : List (Write σ κ)) (c : σ) : Prop :=
  if j = i then pc = .answered (.ok (won i).1) else Losing (q j) (T i j) pc ws c

variable [DecidableEq ι] [DecidableEq κ]

/-- A turn, counted. -/
def Sessions.counted (scripts : ι → Script ε σ κ α) (w : Sessions ι ε σ κ α × (ι → ℕ)) (i : ι) :
    Sessions ι ε σ κ α × (ι → ℕ) :=
  (w.1.turn scripts i, Function.update w.2 i (w.2 i + 1))

/-- Whoever is about to commit has rivals only that are still to be told. -/
def Sessions.Orderly (Told : ι → ℕ → Prop) (w : Sessions ι ε σ κ α × (ι → ℕ)) (i : ι) : Prop :=
  (w.1.pc i).ending = true → ∀ j, j ≠ i → Told j (w.2 j)

variable {q : ι → Contestant ε σ κ α} {c : σ} {k : κ} {won : ι → α × σ} {Told : ι → ℕ → Prop}
  {T : ι → ι → ε → Prop} {s : Sessions ι ε σ κ α} {i : ι} {n : ι → ℕ}

omit [DecidableEq ι] [DecidableEq κ] in
lemma Contending.mono {q : Contestant ε σ κ α} {won : α × σ} {m n : ℕ} {pc : Standing ε σ κ α}
    {ws : List (Write σ κ)} (h : Contending q k won m pc ws c) (hmn : m ≤ n) :
    Contending q k won n pc ws c := by
  cases pc with
  | fresh => exact h
  | running p =>
    refine ⟨h.1, h.2.imp_left ?_⟩
    rintro ⟨hws, m', hm', rfl⟩
    exact ⟨hws, m', Nat.le_trans hm' hmn, rfl⟩
  | answered r => exact h

omit [DecidableEq ι] [DecidableEq κ] in
/-- A rival of the winner that is still to be told does not hold the key, and is losing. -/
lemma Contest.losing (K : Contest q c k won Told T) {j : ι} {m : ℕ} (hij : i ≠ j)
    (htold : Told j m) {pc : Standing ε σ κ α} {ws : List (Write σ κ)}
    (h : Contending (q j) k (won j) m pc ws c) (hfree : ∀ w ∈ ws, k ∉ w.locks) :
    Losing (q j) (T i j) pc ws (won i).2 := by
  cases pc with
  | fresh => exact ⟨h, K.lost i j hij m htold 0 (Nat.zero_le m)⟩
  | running p =>
    rcases h.2 with ⟨rfl, n, hn, rfl⟩ | ⟨w, hw, hk⟩
    · exact K.lost i j hij m htold n hn
    · exact absurd hk (hfree w hw)
  | answered r => exact h.elim

/-- Where a contest stands: everybody is in the running, or one has won. -/
structure Contest.Stage (q : ι → Contestant ε σ κ α) (c : σ) (k : κ) (won : ι → α × σ)
    (T : ι → ι → ε → Prop) (n : ι → ℕ) (s : Sessions ι ε σ κ α) : Prop where
  exclusive : s.store.Exclusive
  course : (s.store.committed = c ∧ Procs.Holds (fun i => Contending (q i) k (won i) (n i)) s) ∨
    ∃ i, s.store.committed = (won i).2 ∧ Procs.Holds (Lost q won T i) s

omit [DecidableEq κ] in
lemma Contest.stage_init : Contest.Stage q c k won T n (.init c) where
  exclusive := Store.exclusive_of_pending_nil rfl
  course := .inl ⟨rfl, Procs.holds_of_closed rfl fun _ => rfl⟩

lemma Contest.contending_advance (K : Contest q c k won Told T) (hex : s.store.Exclusive)
    (hc : s.store.committed = c)
    (h : Procs.Holds (fun j => Contending (q j) k (won j) (Function.update n i (n i + 1) j)) s)
    {p : Script ε σ κ α} (hp : Contending (q i) k (won i) (n i) (.running p) (s.store.own i) c)
    (htold : ∀ a, p = .done a → ∀ j, j ≠ i → Told j (n j)) :
    Contest.Stage q c k won T (Function.update n i (n i + 1)) (s.advance i p) := by
  obtain ⟨hrun, hwhere⟩ := hp
  have hview : s.view i = after (s.store.own i) c := hc ▸ rfl
  have hrefused : ∀ e, p.run (after (s.store.own i) c) ≠ .error e := fun e he => by
    rw [hrun] at he
    cases he
  refine Sessions.advance_keeps ⟨hex, .inl ⟨hc, h⟩⟩ ?_ ?_ ?_ ?_ ?_
  · rintro a rfl
    -- Whoever commits holds the key, so nobody else does.
    obtain ⟨w, hw, hk⟩ := hwhere.resolve_left fun ⟨_, m, _, hm⟩ =>
      Contestant.onward_ne_done hm.symm
    have hwon : won i = (a, after (s.store.own i) c) := (Except.ok.inj hrun).symm
    refine ⟨hex.commit, .inr ⟨i, ?_, ?_⟩⟩
    · rw [hwon, Procs.commit_committed, hc]
    · refine (Function.forall_update_iff s.pc fun j pc => Lost q won T i j pc
        ((s.store.commit i).own j) (s.view i)).mpr ⟨?_, fun j hj => ?_⟩
      · rw [Lost, if_pos rfl, hwon]
      · rw [Lost, if_neg hj, hview, Store.own_commit_of_ne hj]
        have hj' : Contending (q j) k (won j) _ (s.pc j) (s.store.own j) s.store.committed := h j
        rw [Function.update_of_ne hj, hc] at hj'
        have hlosing := K.losing hj.symm (htold a rfl j hj) hj'
          fun w' hw' hk' => hj (hex.eq hw' hw hk' hk)
        rwa [hwon] at hlosing
  · rintro e rfl
    exact absurd rfl (hrefused e)
  · rintro next rfl
    refine ⟨hex, .inl ⟨hc, h.goto ?_⟩⟩
    rw [Function.update_self, hview, hc]
    refine ⟨hrun, hwhere.imp_left ?_⟩
    rintro ⟨hws, m, hm, hread⟩
    rw [hread] at hrun
    rw [hws] at hrun ⊢
    exact ⟨rfl, m + 1, Nat.succ_le_succ hm, Contestant.onward_read hread.symm hrun⟩
  · rintro t next e rfl hfail
    refine absurd ?_ (hrefused e)
    rw [hview] at hfail
    exact Script.run_write_error hfail
  · rintro t next store rfl hfinds hadmits hstore
    refine ⟨hex.write hstore, .inl ⟨(Store.write_committed hstore).trans hc, h.write hstore ?_⟩⟩
    rw [Function.update_self, hc]
    rw [hview] at hfinds hadmits
    rw [Script.run_write_ok hfinds hadmits] at hrun
    refine ⟨by rw [after_snoc]; exact hrun, .inr ?_⟩
    rcases hwhere with ⟨_, m, _, hm⟩ | ⟨w, hw, hk⟩
    · refine ⟨t.write, List.mem_append_right _ List.mem_cons_self, ?_⟩
      rw [Contestant.onward_write hm.symm]
      exact K.key i
    · exact ⟨w, List.mem_append_left _ hw, hk⟩

lemma Contest.losing_advance {w : ι} (hex : s.store.Exclusive)
    (hc : s.store.committed = (won w).2) (h : Procs.Holds (Lost q won T w) s) (hi : i ≠ w)
    {p : Script ε σ κ α} (hp : Losing (q i) (T w i) (.running p) (s.store.own i) (won w).2) :
    Contest.Stage q c k won T n (s.advance i p) := by
  obtain ⟨e, hT, hrun⟩ := hp
  have hview : s.view i = after (s.store.own i) (won w).2 := hc ▸ rfl
  have hfails : ∀ e', p.run (after (s.store.own i) (won w).2) = .error e' →
      Contest.Stage q c k won T n (s.abort i (.answered (.error e'))) := fun e' he' => by
    rw [hrun] at he'
    obtain rfl := Except.error.inj he'
    refine ⟨hex.abort, .inr ⟨w, hc, h.abort ?_⟩⟩
    rw [Lost, if_neg hi]
    exact ⟨e, hT, rfl⟩
  refine Sessions.advance_keeps ⟨hex, .inr ⟨w, hc, h⟩⟩ ?_ ?_ ?_ ?_ ?_
  · -- It does not end well,
    rintro a rfl
    cases hrun
  · -- and where it fails, it fails with the error it was to be told;
    rintro e' rfl
    exact hfails e' rfl
  · -- a read leaves it losing,
    rintro next rfl
    refine ⟨hex, .inr ⟨w, hc, h.goto ?_⟩⟩
    rw [Lost, if_neg hi, hview, hc]
    exact ⟨e, hT, hrun⟩
  · -- a write that is refused fails alike,
    rintro t next e' rfl hfail
    rw [hview] at hfail
    exact hfails e' (Script.run_write_error hfail)
  · -- and one that goes through is one of those that come before the failure.
    rintro t next store rfl hfinds hadmits hstore
    refine ⟨hex.write hstore, .inr ⟨w, (Store.write_committed hstore).trans hc, h.write hstore ?_⟩⟩
    rw [hview] at hfinds hadmits
    rw [Script.run_write_ok hfinds hadmits] at hrun
    rw [Lost, if_neg hi, hc]
    exact ⟨e, hT, by rw [after_snoc]; exact hrun⟩

/-- **A contest stays a contest**: a turn of an orderly run. -/
theorem Contest.Stage.turn (K : Contest q c k won Told T) (h : Contest.Stage q c k won T n s)
    (horderly : Sessions.Orderly Told (s, n) i) :
    Contest.Stage q c k won T (Function.update n i (n i + 1))
      (s.turn (fun i => (q i).script) i) := by
  have hmono : Procs.Holds (fun j => Contending (q j) k (won j) (n j)) s →
      Procs.Holds (fun j => Contending (q j) k (won j) (Function.update n i (n i + 1) j)) s :=
    fun h j => (h j).mono <| by
      by_cases hj : j = i
      · rw [hj, Function.update_self]
        exact Nat.le_succ _
      · exact Nat.le_of_eq (Function.update_of_ne hj _ _).symm
  obtain ⟨hex, ⟨hc, hall⟩ | ⟨w, hc, hall⟩⟩ := h
  · -- Nobody has won yet.
    have hi : Contending (q i) k (won i) (n i) (s.pc i) (s.store.own i) s.store.committed := hall i
    rw [hc] at hi
    unfold Sessions.turn
    split
    · next hpc =>
      rw [hpc] at hi
      have hown : s.store.own i = [] := hi
      refine K.contending_advance hex hc (hmono hall) (p := (q i).script) ?_ fun a ha => ?_
      · rw [hown]
        exact ⟨K.alone i, .inl ⟨rfl, 0, Nat.zero_le _, rfl⟩⟩
      · exact absurd ha (Contestant.onward_ne_done (n := 0))
    · next p hpc =>
      rw [hpc] at hi
      refine K.contending_advance hex hc (hmono hall) hi fun a ha j hj => horderly ?_ j hj
      rw [hpc, ha]
      rfl
    · next r hpc =>
      rw [hpc] at hi
      exact hi.elim
  · -- The winner is done, and the others are losing.
    have hi : Lost q won T w i (s.pc i) (s.store.own i) s.store.committed := hall i
    by_cases hiw : i = w
    · rw [Lost, if_pos hiw] at hi
      rw [Sessions.turn, hi]
      exact ⟨hex, .inr ⟨w, hc, hall⟩⟩
    rw [Lost, if_neg hiw, hc] at hi
    unfold Sessions.turn
    split
    · next hpc =>
      rw [hpc] at hi
      obtain ⟨hown, hrun⟩ := hi
      refine Contest.losing_advance hex hc hall hiw ?_
      rw [hown]
      exact hrun
    · next p hpc =>
      rw [hpc] at hi
      exact Contest.losing_advance hex hc hall hiw hi
    · exact ⟨hex, .inr ⟨w, hc, hall⟩⟩

omit [DecidableEq κ] in
lemma Contest.Stage.settled (h : Contest.Stage q c k won T n s) : Settled c won T s := by
  obtain ⟨-, ⟨hc, hall⟩ | ⟨w, hc, hall⟩⟩ := h
  · refine .undecided hc fun j => ?_
    have hj : Contending (q j) k (won j) (n j) (s.pc j) (s.store.own j) s.store.committed := hall j
    cases hpc : s.pc j with
    | answered r =>
      rw [hpc] at hj
      exact hj.elim
    | _ => rfl
  · have hw : Lost q won T w w (s.pc w) (s.store.own w) s.store.committed := hall w
    rw [Lost, if_pos rfl] at hw
    refine .decided w hc (by rw [hw]; rfl) fun j hj r hr => ?_
    have hlost : Lost q won T w j (s.pc j) (s.store.own j) s.store.committed := hall j
    rw [Standing.answer_eq_some.mp hr, Lost, if_neg hj] at hlost
    exact hlost

/-- **One wins and the others are refused** in a run whose turns are orderly. -/
theorem Contest.settled (K : Contest q c k won Told T) {l : List ι}
    (hl : Along (Sessions.counted fun i => (q i).script) (Sessions.Orderly Told)
      (.init c, fun _ => 0) l) :
    Settled c won T (run (Sessions.counted fun i => (q i).script) (.init c, fun _ => 0) l).1 := by
  have hstage := invariant (I := fun w : Sessions ι ε σ κ α × (ι → ℕ) =>
    Contest.Stage q c k won T w.2 w.1) (fun w i horderly hw => hw.turn K horderly) hl
    Contest.stage_init
  exact hstage.settled

end Contest

end SchoolOs.ReadCommitted
