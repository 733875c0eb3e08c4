import SchoolOs.Transactions

/-!
Transactions as scripts: reads and write statements one after another, each next one depending on
what was read. Scripts of different processes interleave on a READ COMMITTED store; a script alone
does what it does as one function; and a script is proved against what the others may commit while
it is under way.
-/

namespace SchoolOs.ReadCommitted

open Runs

/-! ### Scripts -/

/-- A write statement. It looks for its rows, before it waits for their locks and again after it;
it has constraints to meet; and then it takes effect. -/
structure Dml (ε σ κ : Type) where
  locks : List κ
  finds : σ → Except ε Unit
  admits : σ → Except ε Unit
  effect : σ → σ

/-- What the statement writes. -/
def Dml.write {ε σ κ : Type} (t : Dml ε σ κ) : Write σ κ := ⟨t.locks, t.effect⟩

/-- The statement alone. -/
def Dml.run {ε σ κ : Type} (t : Dml ε σ κ) (c : σ) : Except ε σ := do
  t.finds c
  t.admits c
  return t.effect c

/-- A transaction, statement by statement, up to its commit or its first error. -/
inductive Script (ε σ κ α : Type)
  | done (a : α)
  | fail (e : ε)
  | read (next : σ → Script ε σ κ α)
  | write (t : Dml ε σ κ) (next : Script ε σ κ α)

namespace Script

variable {ε σ κ α β : Type}

/-- One script, and then another. -/
def bind : Script ε σ κ α → (α → Script ε σ κ β) → Script ε σ κ β
  | done a, f => f a
  | fail e, _ => fail e
  | read next, f => read fun c => (next c).bind f
  | write t next, f => write t (next.bind f)

instance : Monad (Script ε σ κ) where
  pure := done
  bind := bind

/-- Code that needs no statement. -/
def lift : Except ε α → Script ε σ κ α
  | .ok a => done a
  | .error e => fail e

/-- A query, and what is made of its rows. -/
def look (f : σ → Except ε α) : Script ε σ κ α := read fun c => lift (f c)

/-- A write statement. -/
def exec (t : Dml ε σ κ) : Script ε σ κ Unit := write t (done ())

/-- The script with nobody else at work. -/
def run : Script ε σ κ α → σ → Except ε (α × σ)
  | done a, c => .ok (a, c)
  | fail e, _ => .error e
  | read next, c => (next c).run c
  | write t next, c => t.run c >>= next.run

@[simp] lemma pure_eq (a : α) : (pure a : Script ε σ κ α) = done a := rfl
@[simp] lemma run_done (a : α) (c : σ) : (done a : Script ε σ κ α).run c = .ok (a, c) := rfl
@[simp] lemma run_fail (e : ε) (c : σ) : (fail e : Script ε σ κ α).run c = .error e := rfl

lemma run_bind (p : Script ε σ κ α) (f : α → Script ε σ κ β) (c : σ) :
    (p >>= f).run c = p.run c >>= fun r => (f r.1).run r.2 := by
  change (p.bind f).run c = _
  induction p generalizing c with
  | done a => rfl
  | fail e => rfl
  | read next ih => exact ih c c
  | write t next ih =>
    simp only [bind, run]
    cases t.run c with
    | ok c' => exact ih c'
    | error e => rfl

@[simp] lemma run_lift (x : Except ε α) (c : σ) :
    (lift x : Script ε σ κ α).run c = (fun a => (a, c)) <$> x := by
  cases x <;> rfl

@[simp] lemma run_look (f : σ → Except ε α) (c : σ) :
    (look f : Script ε σ κ α).run c = (fun a => (a, c)) <$> f c := run_lift (f c) c

@[simp] lemma run_exec (t : Dml ε σ κ) (c : σ) :
    (exec t).run c = (fun c' => ((), c')) <$> t.run c := by
  cases h : t.run c <;> simp [exec, run, h] <;> rfl

end Script

/-! ### Scripts that interleave -/

/-- Where a process stands in its script. -/
inductive Standing (ε σ κ α : Type)
  | fresh
  | running (p : Script ε σ κ α)
  | answered (r : Except ε α)

/-- The answer of a process that has one. -/
def Standing.answer {ε σ κ α : Type} : Standing ε σ κ α → Option (Except ε α)
  | .answered r => some r
  | _ => none

@[simp] lemma Standing.answer_eq_some {ε σ κ α : Type} {pc : Standing ε σ κ α} {r : Except ε α} :
    pc.answer = some r ↔ pc = .answered r := by
  cases pc <;> simp [answer]

/-- Not under way. -/
def Standing.idle {ε σ κ α : Type} : Standing ε σ κ α → Bool
  | .running _ => false
  | _ => true

abbrev Sessions (ι : Type*) (ε σ κ α : Type) := Procs ι σ κ (Standing ε σ κ α)

namespace Sessions

variable {ι : Type*} {ε σ κ α : Type}

/-- No process has begun. -/
def init (c : σ) : Sessions ι ε σ κ α := ⟨⟨c, []⟩, fun _ => .fresh⟩

variable [DecidableEq ι] [DecidableEq κ] (s : Sessions ι ε σ κ α) (i : ι)

/-- A write statement fails, waits or goes through. -/
def issue (t : Dml ε σ κ) (next : Script ε σ κ α) : Sessions ι ε σ κ α :=
  match t.finds (s.view i) with
  | .error e => s.abort i (.answered (.error e))
  | .ok _ =>
    if s.store.Waits i t.write then s
    else
      match t.admits (s.view i) with
      | .error e => s.abort i (.answered (.error e))
      | .ok _ => s.write i t.write (.running next)

/-- The next statement of a script. -/
def advance : Script ε σ κ α → Sessions ι ε σ κ α
  | .done a => s.commit i (.answered (.ok a))
  | .fail e => s.abort i (.answered (.error e))
  | .read next => s.goto i (.running (next (s.view i)))
  | .write t next => s.issue i t next

/-- A process takes its turn. -/
def turn (scripts : ι → Script ε σ κ α) (s : Sessions ι ε σ κ α) (i : ι) : Sessions ι ε σ κ α :=
  match s.pc i with
  | .fresh => s.advance i (scripts i)
  | .running p => s.advance i p
  | .answered _ => s

variable {s i} {scripts : ι → Script ε σ κ α}

/-- **What a statement may come to**: every turn is one of these. -/
lemma advance_keeps {I : Sessions ι ε σ κ α → Prop} {p : Script ε σ κ α} (hidle : I s)
    (hdone : ∀ a, p = .done a → I (s.commit i (.answered (.ok a))))
    (hfail : ∀ e, p = .fail e → I (s.abort i (.answered (.error e))))
    (hread : ∀ next, p = .read next → I (s.goto i (.running (next (s.view i)))))
    (hrefused : ∀ t next e, p = .write t next →
      (t.finds (s.view i) = .error e ∨
        t.finds (s.view i) = .ok () ∧ t.admits (s.view i) = .error e) →
      I (s.abort i (.answered (.error e))))
    (hwrite : ∀ t next store, p = .write t next → t.finds (s.view i) = .ok () →
      t.admits (s.view i) = .ok () → s.store.write i t.write = some store →
      I ⟨store, Function.update s.pc i (.running next)⟩) : I (s.advance i p) := by
  cases p with
  | done a => exact hdone a rfl
  | fail e => exact hfail e rfl
  | read next => exact hread next rfl
  | write t next =>
    change I (s.issue i t next)
    unfold issue
    split
    · next e hfinds => exact hrefused t next e rfl (.inl hfinds)
    · next hfinds =>
      split
      · exact hidle
      split
      · next e hadmits => exact hrefused t next e rfl (.inr ⟨hfinds, hadmits⟩)
      · next hadmits =>
        unfold Procs.write
        split
        · exact hidle
        · next store hstore => exact hwrite t next store rfl hfinds hadmits hstore

lemma turn_pc_of_ne {j : ι} (hj : j ≠ i) : (turn scripts s i).pc j = s.pc j := by
  have hadvance : ∀ p, (s.advance i p).pc j = s.pc j := fun p =>
    advance_keeps (I := fun s' => s'.pc j = s.pc j) rfl
      (fun _ _ => Function.update_of_ne hj _ _) (fun _ _ => Function.update_of_ne hj _ _)
      (fun _ _ => Function.update_of_ne hj _ _) (fun _ _ _ _ _ => Function.update_of_ne hj _ _)
      fun _ _ _ _ _ _ _ => Function.update_of_ne hj _ _
  unfold turn
  split
  · exact hadvance _
  · exact hadvance _
  · rfl

/-- Only the commit at the end of a script changes what is committed. -/
lemma advance_committed {p : Script ε σ κ α} (hp : ∀ a, p ≠ .done a) :
    (s.advance i p).store.committed = s.store.committed :=
  advance_keeps (I := fun s' => s'.store.committed = s.store.committed) rfl
    (fun a ha => absurd ha (hp a)) (fun _ _ => rfl) (fun _ _ => rfl) (fun _ _ _ _ _ => rfl)
    fun _ _ _ _ _ _ hstore => Store.write_committed hstore

/-! ### A script alone -/

/-- Turns of the one process lead to what `r` says. -/
def ComesTo (scripts : ι → Script ε σ κ α) (i : ι) (pcs : ι → Standing ε σ κ α)
    (s : Sessions ι ε σ κ α) (c : σ) : Except ε (α × σ) → Prop
  | .ok (a, c') => Repeats (turn scripts) i s (Procs.solo pcs i c' [] (.answered (.ok a)))
  | .error e => Repeats (turn scripts) i s (Procs.solo pcs i c [] (.answered (.error e)))

lemma ComesTo.next {pcs : ι → Standing ε σ κ α} {c : σ} {r : Except ε (α × σ)}
    (h : ComesTo scripts i pcs (turn scripts s i) c r) : ComesTo scripts i pcs s c r := by
  cases r with
  | ok r => exact Repeats.next h
  | error e => exact Repeats.next h

lemma comesTo_advance (pcs : ι → Standing ε σ κ α) (c : σ) (p : Script ε σ κ α)
    (ws : List (Write σ κ)) (pc : Standing ε σ κ α) :
    ComesTo scripts i pcs (advance (Procs.solo pcs i c ws pc) i p) c (p.run (after ws c)) := by
  have hfail : ∀ (ws : List (Write σ κ)) (pc : Standing ε σ κ α) (e : ε), ComesTo scripts i pcs
      ((Procs.solo pcs i c ws pc).abort i (.answered (.error e))) c (.error e) := by
    intro ws pc e
    rw [Procs.solo_abort]
    exact Repeats.refl _
  induction p generalizing ws pc with
  | done a =>
    simp only [advance, Procs.solo_commit, Script.run_done]
    exact Repeats.refl _
  | fail e => exact hfail ws pc e
  | read next ih =>
    simp only [advance, Procs.solo_view, Procs.solo_goto]
    refine .next ?_
    simp only [turn, Procs.solo_pc]
    exact ih (after ws c) ws _
  | write t next ih =>
    simp only [advance, issue, Procs.solo_view, Script.run, Dml.run,
      if_neg (Procs.solo_not_waits t.write), Procs.solo_write]
    cases hfinds : t.finds (after ws c) with
    | error e => exact hfail ws pc e
    | ok _ =>
      cases hadmits : t.admits (after ws c) with
      | error e => exact hfail ws pc e
      | ok _ =>
        refine .next ?_
        simp only [turn, Procs.solo_pc]
        have hnext := ih (ws ++ [t.write]) (.running next)
        rwa [after_snoc] at hnext

/-- **A script alone** comes to what it does as one function. -/
theorem comesTo_alone (scripts : ι → Script ε σ κ α) (pcs : ι → Standing ε σ κ α) (i : ι) (c : σ) :
    ComesTo scripts i pcs (Procs.solo pcs i c [] .fresh) c ((scripts i).run c) := by
  refine .next ?_
  simp only [turn, Procs.solo_pc]
  exact comesTo_advance pcs c (scripts i) [] .fresh

end Sessions

/-! ### Scripts against what others may do -/

section Meets

variable {ε σ κ α β : Type}

/-- Whatever the others commit meanwhile, the script ends where `Q` allows a commit or `E` an
error: `R` says what they may commit while the writes of the script so far are open. -/
def Script.Meets (R : List (Write σ κ) → σ → σ → Prop) (Q : α → List (Write σ κ) → σ → Prop)
    (E : ε → σ → Prop) : Script ε σ κ α → List (Write σ κ) → σ → Prop
  | .done a, ws, c => ∀ c', R ws c c' → Q a ws c'
  | .fail e, ws, c => ∀ c', R ws c c' → E e c'
  | .read next, ws, c => ∀ c', R ws c c' → Meets R Q E (next (after ws c')) ws c'
  | .write t next, ws, c => ∀ c', R ws c c' →
      (∀ e, t.finds (after ws c') = .error e ∨ t.admits (after ws c') = .error e → E e c') ∧
      (t.finds (after ws c') = .ok () → t.admits (after ws c') = .ok () →
        Meets R Q E next (ws ++ [t.write]) c')

/-- What the others may do is nothing at the least, and any two such things in a row. -/
structure Tolerant (R : List (Write σ κ) → σ → σ → Prop) : Prop where
  refl : ∀ ws c, R ws c c
  trans : ∀ {ws a b c}, R ws a b → R ws b c → R ws a c

variable {R : List (Write σ κ) → σ → σ → Prop} {Q : α → List (Write σ κ) → σ → Prop}
  {E : ε → σ → Prop} {ws : List (Write σ κ)} {c c' : σ}

lemma Script.Meets.later (hR : Tolerant R) {p : Script ε σ κ α} (h : p.Meets R Q E ws c)
    (hc : R ws c c') : p.Meets R Q E ws c' := by
  cases p with
  | done a => exact fun c'' hc' => h c'' (hR.trans hc hc')
  | fail e => exact fun c'' hc' => h c'' (hR.trans hc hc')
  | read next => exact fun c'' hc' => h c'' (hR.trans hc hc')
  | write t next => exact fun c'' hc' => h c'' (hR.trans hc hc')

/-- An assertion that the others do not interfere with. -/
def Stable (R : List (Write σ κ) → σ → σ → Prop) (P : List (Write σ κ) → σ → Prop) : Prop :=
  ∀ ws c c', R ws c c' → P ws c → P ws c'

/-- The triple: from where `P` holds the script ends where `Q` allows a commit or `E` an error. -/
def Script.Ensures (R : List (Write σ κ) → σ → σ → Prop) (P : List (Write σ κ) → σ → Prop)
    (p : Script ε σ κ α) (Q : α → List (Write σ κ) → σ → Prop) (E : ε → σ → Prop) : Prop :=
  ∀ ws c, P ws c → p.Meets R Q E ws c

namespace Script

variable {P : List (Write σ κ) → σ → Prop} {Q' : β → List (Write σ κ) → σ → Prop}

lemma Meets.bind (hR : Tolerant R) {p : Script ε σ κ α} {f : α → Script ε σ κ β}
    (hp : p.Meets R Q E ws c) (hf : ∀ a, (f a).Ensures R (Q a) Q' E) :
    (p >>= f).Meets R Q' E ws c := by
  change (p.bind f).Meets R Q' E ws c
  induction p generalizing ws c with
  | done a => exact hf a ws c (hp c (hR.refl ws c))
  | fail e => exact hp
  | read next ih => exact fun c' hc => ih _ (hp c' hc)
  | write t next ih => exact fun c' hc => ⟨(hp c' hc).1, fun hf ha => ih ((hp c' hc).2 hf ha)⟩

lemma Meets.imp {Q₁ Q₂ : α → List (Write σ κ) → σ → Prop} {p : Script ε σ κ α}
    (hp : p.Meets R Q₁ E ws c) (h : ∀ a ws c, Q₁ a ws c → Q₂ a ws c) : p.Meets R Q₂ E ws c := by
  induction p generalizing ws c with
  | done a => exact fun c' hc => h a ws c' (hp c' hc)
  | fail e => exact hp
  | read next ih => exact fun c' hc => ih _ (hp c' hc)
  | write t next ih => exact fun c' hc => ⟨(hp c' hc).1, fun hf ha => ih ((hp c' hc).2 hf ha)⟩

/-- **The rule of sequence.** -/
theorem ensures_bind (hR : Tolerant R) {p : Script ε σ κ α} {f : α → Script ε σ κ β}
    (hp : p.Ensures R P Q E) (hf : ∀ a, (f a).Ensures R (Q a) Q' E) :
    (p >>= f).Ensures R P Q' E := fun ws c h => (hp ws c h).bind hR hf

lemma ensures_done {a : α} (hP : Stable R P) (h : ∀ ws c, P ws c → Q a ws c) :
    (done a : Script ε σ κ α).Ensures R P Q E := fun _ _ hp c' hc => h _ c' (hP _ _ _ hc hp)

/-- **The rule of a query**: what is read is read from the state of that moment. -/
theorem ensures_look {f : σ → Except ε α} (hP : Stable R P) (hQ : ∀ a, Stable R (Q a))
    (h : ∀ ws c a, P ws c → f (after ws c) = .ok a → Q a ws c)
    (he : ∀ ws c e, P ws c → f (after ws c) = .error e → ∀ c', R ws c c' → E e c') :
    (look f).Ensures R P Q E := by
  intro ws c hp c' hc
  change (lift (f (after ws c'))).Meets R Q E ws c'
  have hp' := hP _ _ _ hc hp
  cases hf : f (after ws c') with
  | ok a => exact fun c'' hc' => hQ a _ _ _ hc' (h ws c' a hp' hf)
  | error e => exact he ws c' e hp' hf

/-- **The rule of a write statement.** -/
theorem ensures_exec {t : Dml ε σ κ} {Q : Unit → List (Write σ κ) → σ → Prop} (hP : Stable R P)
    (hQ : Stable R (Q ()))
    (h : ∀ ws c, P ws c → t.finds (after ws c) = .ok () → t.admits (after ws c) = .ok () →
      Q () (ws ++ [t.write]) c)
    (he : ∀ ws c e, P ws c → t.finds (after ws c) = .error e ∨ t.admits (after ws c) = .error e →
      E e c) : (exec t).Ensures R P Q E := by
  intro ws c hp c' hc
  have hp' := hP _ _ _ hc hp
  refine ⟨fun e hfail => he ws c' e hp' hfail, fun hfinds hadmits c'' hc' => ?_⟩
  exact hQ _ _ _ hc' (h ws c' hp' hfinds hadmits)

end Script

end Meets

/-! ### Processes that run scripts -/

/-- What holds of a process: its script meets its end, or met it. -/
def Stands {ι : Type*} {ε σ κ α : Type} (scripts : ι → Script ε σ κ α)
    (R : ι → List (Write σ κ) → σ → σ → Prop) (Q : ι → α → List (Write σ κ) → σ → Prop)
    (E : ι → ε → σ → Prop) (i : ι) : Standing ε σ κ α → List (Write σ κ) → σ → Prop
  | .fresh, ws, c => ws = [] ∧ (scripts i).Meets (R i) (Q i) (E i) ws c
  | .running p, ws, c => p.Meets (R i) (Q i) (E i) ws c
  | .answered _, ws, _ => ws = []

/-- What a script may commit is what the others reckon with, those apart that hold its locks. -/
structure Agreed {ι : Type*} {σ κ α : Type} (R : ι → List (Write σ κ) → σ → σ → Prop)
    (Q : ι → α → List (Write σ κ) → σ → Prop) : Prop where
  tolerant : ∀ i, Tolerant (R i)
  commit : ∀ {i j a ws ws' c}, i ≠ j → Apart ws ws' → Q i a ws c → R j ws' c (after ws c)

namespace Sessions

variable {ι : Type*} {ε σ κ α : Type} [DecidableEq ι] [DecidableEq κ] {s : Sessions ι ε σ κ α}
  {i : ι} {scripts : ι → Script ε σ κ α} {R : ι → List (Write σ κ) → σ → σ → Prop}
  {Q : ι → α → List (Write σ κ) → σ → Prop} {E : ι → ε → σ → Prop}

/-- The assertions about the processes, and the locks that keep them apart. -/
structure Sound (scripts : ι → Script ε σ κ α) (R : ι → List (Write σ κ) → σ → σ → Prop)
    (Q : ι → α → List (Write σ κ) → σ → Prop) (E : ι → ε → σ → Prop) (s : Sessions ι ε σ κ α) :
    Prop where
  exclusive : s.store.Exclusive
  holds : Procs.Holds (Stands scripts R Q E) s

omit [DecidableEq κ] in
lemma sound_init {c : σ} (h : ∀ i, (scripts i).Meets (R i) (Q i) (E i) [] c) :
    Sound scripts R Q E (init c) where
  exclusive := Store.exclusive_of_pending_nil rfl
  holds := Procs.holds_of_closed rfl fun i => ⟨rfl, h i⟩

omit [DecidableEq ι] [DecidableEq κ] in
/-- What a process stands for it stands for after another's commit, too. -/
lemma Stands.later (hR : Agreed R Q) {j : ι} {pc : Standing ε σ κ α} {ws : List (Write σ κ)}
    {c c' : σ} (h : Stands scripts R Q E j pc ws c) (hc : R j ws c c') :
    Stands scripts R Q E j pc ws c' := by
  cases pc with
  | fresh => exact ⟨h.1, h.2.later (hR.tolerant j) hc⟩
  | running p => exact Script.Meets.later (hR.tolerant j) h hc
  | answered r => exact h

lemma Sound.advance (hR : Agreed R Q) (h : Sound scripts R Q E s) {p : Script ε σ κ α}
    (hp : p.Meets (R i) (Q i) (E i) (s.store.own i) s.store.committed) :
    Sound scripts R Q E (s.advance i p) := by
  have hself := (hR.tolerant i).refl (s.store.own i) s.store.committed
  refine advance_keeps h ?_ ?_ ?_ ?_ ?_
  · rintro a rfl
    refine ⟨h.exclusive.commit, h.holds.commit rfl fun j hj hA => ?_⟩
    exact Stands.later hR hA (hR.commit hj.symm (h.exclusive.apart hj.symm) (hp _ hself))
  · rintro e rfl
    exact ⟨h.exclusive.abort, h.holds.abort rfl⟩
  · rintro next rfl
    exact ⟨h.exclusive, h.holds.goto (hp _ hself)⟩
  · rintro t next e rfl -
    exact ⟨h.exclusive.abort, h.holds.abort rfl⟩
  · rintro t next store rfl hfinds hadmits hstore
    refine ⟨h.exclusive.write hstore, h.holds.write hstore ?_⟩
    exact (hp _ hself).2 hfinds hadmits

/-- **The assertions hold along a turn.** -/
theorem Sound.turn (hR : Agreed R Q) (h : Sound scripts R Q E s) (i : ι) :
    Sound scripts R Q E (turn scripts s i) := by
  have hi := h.holds i
  unfold Sessions.turn
  split
  · next hpc =>
    rw [hpc] at hi
    exact h.advance hR hi.2
  · next p hpc =>
    rw [hpc] at hi
    exact h.advance hR hi
  · exact h

/-- What a turn commits. -/
inductive Commits (Q : ι → α → List (Write σ κ) → σ → Prop) (s s' : Sessions ι ε σ κ α) (i : ι) :
    Prop
  | nothing : s'.store.committed = s.store.committed → Commits Q s s' i
  | script {a : α} : Q i a (s.store.own i) s.store.committed →
      s'.store.committed = after (s.store.own i) s.store.committed →
      s'.pc i = .answered (.ok a) → Commits Q s s' i

lemma commits_advance (hR : Tolerant (R i)) {p : Script ε σ κ α}
    (hp : p.Meets (R i) (Q i) (E i) (s.store.own i) s.store.committed) :
    Commits Q s (s.advance i p) i := by
  have hself := hR.refl (s.store.own i) s.store.committed
  refine advance_keeps (I := fun s' => Commits Q s s' i) (.nothing rfl) ?_ ?_ ?_ ?_ ?_
  · rintro a rfl
    exact .script (hp _ hself) rfl Procs.commit_self
  · rintro e rfl
    exact .nothing rfl
  · rintro next rfl
    exact .nothing rfl
  · rintro t next e rfl -
    exact .nothing rfl
  · rintro t next store rfl - - hstore
    exact .nothing (Store.write_committed hstore)

/-- **What a turn commits is what its script may commit.** -/
theorem Sound.commits (hR : Agreed R Q) (h : Sound scripts R Q E s) (i : ι) :
    Commits Q s (Sessions.turn scripts s i) i := by
  have hi := h.holds i
  unfold Sessions.turn
  split
  · next hpc =>
    rw [hpc] at hi
    exact commits_advance (hR.tolerant i) hi.2
  · next p hpc =>
    rw [hpc] at hi
    exact commits_advance (hR.tolerant i) hi
  · exact .nothing rfl

end Sessions

end SchoolOs.ReadCommitted
