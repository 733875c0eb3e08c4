import Mathlib.Tactic.Common

/-!
Runs of a deterministic machine: the state after a list of inputs, conditions met all along
a run, and the induction that turns what one step preserves into what a run preserves.
-/

namespace SchoolOs.Runs

variable {σ ι : Type*} (step : σ → ι → σ)

/-- The state after the inputs `l`. -/
def run (s : σ) (l : List ι) : σ := l.foldl step s

@[simp] lemma run_nil (s : σ) : run step s [] = s := rfl
@[simp] lemma run_cons (s : σ) (i : ι) (l : List ι) :
    run step s (i :: l) = run step (step s i) l := rfl
lemma run_append (s : σ) (l m : List ι) : run step s (l ++ m) = run step (run step s l) m := by
  simp [run, List.foldl_append]

/-- Every input of the run is taken in a state where `P` allows it. -/
def Along (P : σ → ι → Prop) : σ → List ι → Prop
  | _, [] => True
  | s, i :: l => P s i ∧ Along P (step s i) l

instance decidableAlong {P : σ → ι → Prop} [∀ s i, Decidable (P s i)] :
    (s : σ) → (l : List ι) → Decidable (Along step P s l)
  | _, [] => .isTrue trivial
  | s, i :: l =>
    have : Decidable (Along step P (step s i) l) := decidableAlong (step s i) l
    inferInstanceAs (Decidable (P s i ∧ Along step P (step s i) l))

variable {step} {P Q : σ → ι → Prop}

@[simp] lemma along_nil (s : σ) : Along step P s [] := trivial
@[simp] lemma along_cons (s : σ) (i : ι) (l : List ι) :
    Along step P s (i :: l) ↔ P s i ∧ Along step P (step s i) l := Iff.rfl

lemma Along.imp (h : ∀ s i, P s i → Q s i) {l : List ι} {s : σ} (hl : Along step P s l) :
    Along step Q s l := by
  induction l generalizing s with
  | nil => trivial
  | cons i l ih => exact ⟨h _ _ hl.1, ih hl.2⟩

lemma Along.of_append {l m : List ι} {s : σ} (h : Along step P s (l ++ m)) : Along step P s l := by
  induction l generalizing s with
  | nil => trivial
  | cons i l ih => exact ⟨h.1, ih h.2⟩

lemma Along.last {l : List ι} {i : ι} {s : σ} (h : Along step P s (l ++ [i])) :
    P (run step s l) i := by
  induction l generalizing s with
  | nil => exact h.1
  | cons j l ih => exact ih h.2

lemma along_of_forall (h : ∀ s i, P s i) (l : List ι) (s : σ) : Along step P s l := by
  induction l generalizing s with
  | nil => trivial
  | cons i l ih => exact ⟨h s i, ih _⟩

lemma along_of_mem {C : ι → Prop} {l : List ι} (h : ∀ i ∈ l, C i) (s : σ) :
    Along step (fun _ i => C i) s l := by
  induction l generalizing s with
  | nil => trivial
  | cons i l ih =>
    have htail : ∀ j ∈ l, C j := fun j hj => h j (List.mem_cons_of_mem _ hj)
    exact ⟨h i List.mem_cons_self, ih htail _⟩

lemma Along.and {l : List ι} {s : σ} (hp : Along step P s l) (hq : Along step Q s l) :
    Along step (fun s i => P s i ∧ Q s i) s l := by
  induction l generalizing s with
  | nil => trivial
  | cons i l ih => exact ⟨⟨hp.1, hq.1⟩, ih hp.2 hq.2⟩

variable {I : σ → Prop}

/-- **The invariant rule**: what every allowed step keeps, an allowed run keeps. -/
theorem invariant (hstep : ∀ s i, P s i → I s → I (step s i)) {l : List ι} {s : σ}
    (hl : Along step P s l) (hs : I s) : I (run step s l) := by
  induction l generalizing s with
  | nil => exact hs
  | cons i l ih => exact ih hl.2 (hstep _ _ hl.1 hs)

/-- What every step keeps, every run keeps. -/
theorem invariant_all (hstep : ∀ s i, I s → I (step s i)) {s : σ} (hs : I s) (l : List ι) :
    I (run step s l) := by
  have hall : Along step (fun _ _ => True) s l := along_of_forall (fun _ _ => trivial) l s
  exact invariant (fun s i _ => hstep s i) hall hs

/-- **The blame rule**: when a step that is not allowed leaves a mark that no step removes, a run
that ends without the mark is allowed. -/
theorem along_of_unmarked (hmark : ∀ s i, ¬ P s i → I (step s i))
    (hstay : ∀ s i, I s → I (step s i)) {l : List ι} {s : σ} (h : ¬ I (run step s l)) :
    Along step P s l := by
  induction l generalizing s with
  | nil => trivial
  | cons i l ih =>
    refine ⟨?_, ih h⟩
    by_contra hnot
    exact h (invariant_all hstay (hmark s i hnot) l)

/-- **The exact rule**: when a step keeps `I` exactly when it is allowed, a run does exactly when
all its steps are. -/
theorem invariant_iff (h : ∀ s i, I (step s i) ↔ I s ∧ P s i) (l : List ι) (s : σ) :
    I (run step s l) ↔ I s ∧ Along step P s l := by
  induction l generalizing s with
  | nil => simp
  | cons i l ih => rw [run_cons, ih, h, along_cons, and_assoc]

/-- **The first-failure rule**: when under `I` a step keeps `I` exactly when it is allowed, all
states of a run from `I` are in `I` exactly when all its steps are allowed. -/
theorem along_iff (h : ∀ s i, I s → (I (step s i) ↔ P s i)) (l : List ι) {s : σ} (hs : I s) :
    Along step (fun s i => I (step s i)) s l ↔ Along step P s l := by
  induction l generalizing s with
  | nil => simp
  | cons i l ih =>
    rw [along_cons, along_cons, h s i hs]
    refine and_congr_right fun hp => ?_
    exact ih ((h s i hs).mpr hp)

/-- **The first-failure rule under an invariant** that every step keeps: when under both `J` and
`I` a step keeps `I` exactly when it is allowed. -/
theorem along_iff_of {J : σ → Prop} (hJ : ∀ s i, J s → J (step s i))
    (h : ∀ s i, J s → I s → (I (step s i) ↔ P s i)) (l : List ι) {s : σ} (hs : J s) (hi : I s) :
    Along step (fun s i => I (step s i)) s l ↔ Along step P s l := by
  induction l generalizing s with
  | nil => simp
  | cons i l ih =>
    rw [along_cons, along_cons, h s i hs hi]
    refine and_congr_right fun hp => ?_
    exact ih (hJ s i hs) ((h s i hs hi).mpr hp)

/-- **The two-state rule**: under an invariant, a reflexive and transitive relation that
every allowed step respects relates the ends of an allowed run. -/
theorem relates {R : σ → σ → Prop} (refl : ∀ s, R s s)
    (trans : ∀ {a b c}, R a b → R b c → R a c)
    (hinv : ∀ s i, P s i → I s → I (step s i))
    (hstep : ∀ s i, P s i → I s → R s (step s i)) {l : List ι} {s : σ}
    (hl : Along step P s l) (hs : I s) : R s (run step s l) := by
  induction l generalizing s with
  | nil => exact refl s
  | cons i l ih => exact trans (hstep _ _ hl.1 hs) (ih hl.2 (hinv _ _ hl.1 hs))

/-- What holds of every allowed step taken under an invariant holds all along the run. -/
theorem along_of_invariant (hinv : ∀ s i, P s i → I s → I (step s i))
    (hQ : ∀ s i, P s i → I s → Q s i) {l : List ι} {s : σ} (hl : Along step P s l)
    (hs : I s) : Along step Q s l := by
  induction l generalizing s with
  | nil => trivial
  | cons i l ih => exact ⟨hQ _ _ hl.1 hs, ih hl.2 (hinv _ _ hl.1 hs)⟩

/-- **The gathering rule**: when every input adds `C` to what `M` records, a run adds the
union over its inputs. -/
theorem gathers {M : σ → Prop} {C : ι → Prop} (h : ∀ s i, M (step s i) ↔ M s ∨ C i)
    (l : List ι) (s : σ) : M (run step s l) ↔ M s ∨ ∃ i ∈ l, C i := by
  induction l generalizing s with
  | nil => simp
  | cons i l ih => simp [ih, h, or_assoc]

/-- **The history rule**: when an input adds to what `M` records what `C` says of it and of the
state it is taken in, what a run has recorded was recorded by one of its inputs. -/
theorem history {M : σ → Prop} {C : σ → ι → Prop} (h : ∀ s i, M (step s i) ↔ M s ∨ C s i)
    (l : List ι) (s : σ) : M (run step s l) ↔
      M s ∨ ∃ before i after, l = before ++ i :: after ∧ C (run step s before) i := by
  induction l generalizing s with
  | nil => simp
  | cons j l ih =>
    rw [run_cons, ih, h, or_assoc]
    refine or_congr_right ?_
    constructor
    · rintro (hj | ⟨before, i, after, rfl, hi⟩)
      · exact ⟨[], j, l, rfl, hj⟩
      · exact ⟨j :: before, i, after, rfl, hi⟩
    · rintro ⟨_ | ⟨_, before⟩, i, after, heq, hi⟩
      · obtain ⟨rfl, rfl⟩ := List.cons.inj heq
        exact .inl hi
      · obtain ⟨rfl, rfl⟩ := List.cons.inj heq
        exact .inr ⟨before, i, after, rfl, hi⟩

/-- **The lineage rule**: when under an invariant an input turns the members of the state and adds
those that `C` says, the members after a run are members of its start, or were added by one of its
inputs, and the later inputs have turned them. -/
theorem lineage {α : Type*} {M : σ → α → Prop} {turn : α → ι → α} {C : σ → ι → α → Prop}
    (hstep : ∀ s i, I s → I (step s i))
    (h : ∀ s i, I s → ∀ a, M (step s i) a ↔ (∃ b, M s b ∧ turn b i = a) ∨ C s i a)
    (l : List ι) {s : σ} (hs : I s) (a : α) : M (run step s l) a ↔
      (∃ b, M s b ∧ run turn b l = a) ∨ ∃ before i after b,
        l = before ++ i :: after ∧ C (run step s before) i b ∧ run turn b after = a := by
  induction l generalizing s with
  | nil => simp
  | cons j l ih =>
    rw [run_cons, ih (hstep s j hs)]
    constructor
    · rintro (⟨b, hb, ha⟩ | ⟨before, i, after, b, rfl, hb, ha⟩)
      · rcases (h s j hs b).mp hb with ⟨b₀, hb₀, rfl⟩ | hadded
        · exact .inl ⟨b₀, hb₀, ha⟩
        · exact .inr ⟨[], j, l, b, rfl, hadded, ha⟩
      · exact .inr ⟨j :: before, i, after, b, rfl, hb, ha⟩
    · rintro (⟨b, hb, ha⟩ | ⟨_ | ⟨_, before⟩, i, after, b, heq, hb, ha⟩)
      · exact .inl ⟨turn b j, (h s j hs _).mpr (.inl ⟨b, hb, rfl⟩), ha⟩
      · obtain ⟨rfl, rfl⟩ := List.cons.inj heq
        exact .inl ⟨b, (h s j hs b).mpr (.inr hb), ha⟩
      · obtain ⟨rfl, rfl⟩ := List.cons.inj heq
        exact .inr ⟨before, i, after, b, rfl, hb, ha⟩

/-- **The collecting rule**: when every input takes a state that accounts for `S` to one that
accounts for its own offers as well, a run accounts for the offers of all its inputs. -/
theorem collects {α : Type*} {M : (α → Prop) → σ → Prop} {O : ι → α → Prop}
    (h : ∀ S s i, M S s → M (fun a => S a ∨ O i a) (step s i)) {S : α → Prop} {s : σ}
    (hs : M S s) (l : List ι) : M (fun a => S a ∨ ∃ i ∈ l, O i a) (run step s l) := by
  induction l generalizing S s with
  | nil => simpa using hs
  | cons i l ih => simpa [or_assoc] using ih (h S s i hs)

/-- What the inputs of a run cost, each in the state it is taken in. -/
def total (step : σ → ι → σ) (cost : σ → ι → ℕ) : σ → List ι → ℕ
  | _, [] => 0
  | s, i :: l => cost s i + total step cost (step s i) l

/-- **The accounting rule**: an invariant that accounts for the cost of every allowed step
accounts for the cost of an allowed run. -/
theorem accounts {cost : σ → ι → ℕ} {M : ℕ → σ → Prop}
    (h : ∀ n s i, P s i → M n s → M (n + cost s i) (step s i)) {l : List ι} {n : ℕ} {s : σ}
    (hl : Along step P s l) (hs : M n s) : M (n + total step cost s l) (run step s l) := by
  induction l generalizing n s with
  | nil => exact hs
  | cons i l ih =>
    have hnext := ih hl.2 (h n s i hl.1 hs)
    rwa [Nat.add_assoc] at hnext

/-! ### One input again and again -/

/-- The input, repeated, leads from one state to the other. -/
def Repeats (step : σ → ι → σ) (i : ι) (s s' : σ) : Prop := ∃ n, run step s (.replicate n i) = s'

lemma Repeats.refl {i : ι} (s : σ) : Repeats step i s s := ⟨0, rfl⟩

lemma Repeats.trans {i : ι} {s s' s'' : σ} (h : Repeats step i s s') (h' : Repeats step i s' s'') :
    Repeats step i s s'' := by
  obtain ⟨n, rfl⟩ := h
  obtain ⟨m, rfl⟩ := h'
  refine ⟨n + m, ?_⟩
  rw [← List.replicate_append_replicate, run_append]

lemma Repeats.next {i : ι} {s s' : σ} (h : Repeats step i (step s i) s') :
    Repeats step i s s' :=
  Repeats.trans ⟨1, rfl⟩ h

end SchoolOs.Runs
