import Mathlib.Data.List.Nodup
import Mathlib.Tactic.Common

/-!
Tables as lists of rows, in the order the heap hands them out: selection by key, update of
the rows that meet a condition, and what both do to keys.
-/

namespace SchoolOs.Tables

variable {ρ κ : Type*}

/-- `UPDATE … SET … WHERE p`. -/
def setWhere (p : ρ → Bool) (f : ρ → ρ) (l : List ρ) : List ρ :=
  l.map fun r => if p r then f r else r

lemma mem_setWhere {p : ρ → Bool} {f : ρ → ρ} {l : List ρ} {r : ρ} :
    r ∈ setWhere p f l ↔ ∃ r0 ∈ l, (if p r0 then f r0 else r0) = r := by
  simp [setWhere]

@[simp] lemma setWhere_nil (p : ρ → Bool) (f : ρ → ρ) : setWhere p f [] = [] := rfl

lemma setWhere_of_not {p : ρ → Bool} {f : ρ → ρ} {l : List ρ} (h : ∀ r ∈ l, p r = false) :
    setWhere p f l = l := by
  unfold setWhere
  conv_rhs => rw [← List.map_id l]
  exact List.map_congr_left fun r hr => by simp [h r hr]

lemma map_setWhere {γ : Type*} {p : ρ → Bool} {f : ρ → ρ} (col : ρ → γ)
    (hf : ∀ r, col (f r) = col r) (l : List ρ) :
    (setWhere p f l).map col = l.map col := by
  simp only [setWhere, List.map_map]
  refine List.map_congr_left fun r _ => ?_
  simp only [Function.comp]
  split <;> simp [hf]

/-- A condition the update does not touch selects rows that are updated in place. -/
lemma filter_setWhere {p q : ρ → Bool} {f : ρ → ρ} (hq : ∀ r, q (f r) = q r) (l : List ρ) :
    (setWhere p f l).filter q = setWhere p f (l.filter q) := by
  induction l with
  | nil => rfl
  | cons r l ih =>
    simp only [setWhere, List.map_cons, List.filter_cons] at ih ⊢
    have hr : q (if p r then f r else r) = q r := by split <;> simp [hq]
    rw [hr, ih]
    split <;> simp

lemma filter_setWhere_of_not {p q : ρ → Bool} {f : ρ → ρ} {l : List ρ}
    (h : ∀ r ∈ l, p r = true → q r = false ∧ q (f r) = false) :
    (setWhere p f l).filter q = l.filter q := by
  induction l with
  | nil => rfl
  | cons r l ih =>
    have htail := ih fun r' hr' => h r' (List.mem_cons_of_mem _ hr')
    simp only [setWhere, List.map_cons, List.filter_cons] at htail ⊢
    rw [htail]
    by_cases hr : p r = true
    · obtain ⟨hold, hnew⟩ := h r List.mem_cons_self hr
      simp only [hr, if_true, hold, hnew, Bool.false_eq_true, if_false]
    · simp only [hr, if_false, Bool.false_eq_true]

section Keyed

variable [DecidableEq κ] (key : ρ → κ)

/-- The row with the key `k`. -/
def get (k : κ) (l : List ρ) : Option ρ := l.find? (key · = k)

/-- `UPDATE … SET … WHERE key = k`. -/
def set (k : κ) (f : ρ → ρ) (l : List ρ) : List ρ := setWhere (key · = k) f l

variable {key}

lemma get_mem {k : κ} {l : List ρ} {r : ρ} (h : get key k l = some r) : r ∈ l ∧ key r = k :=
  ⟨List.mem_of_find?_eq_some h, by simpa using List.find?_some h⟩

lemma get_isSome {k : κ} {l : List ρ} : (get key k l).isSome ↔ ∃ r ∈ l, key r = k := by
  simp [get, List.find?_isSome]

lemma get_of_mem {l : List ρ} (hn : (l.map key).Nodup) {r : ρ} (hr : r ∈ l) :
    get key (key r) l = some r := by
  have hsome : (get key (key r) l).isSome := get_isSome.mpr ⟨r, hr, rfl⟩
  obtain ⟨r', hr'⟩ := Option.isSome_iff_exists.mp hsome
  obtain ⟨hmem, hkey⟩ := get_mem hr'
  rw [hr', List.inj_on_of_nodup_map hn hmem hr hkey]

lemma get_eq_none {k : κ} {l : List ρ} : get key k l = none ↔ ∀ r ∈ l, key r ≠ k := by
  simp [get]

lemma mem_set {k : κ} {f : ρ → ρ} {l : List ρ} {r : ρ} :
    r ∈ set key k f l ↔ ∃ r0 ∈ l, (if key r0 = k then f r0 else r0) = r := by
  simp [set, mem_setWhere]

lemma map_set {γ : Type*} {k : κ} {f : ρ → ρ} (col : ρ → γ) (hf : ∀ r, col (f r) = col r)
    (l : List ρ) : (set key k f l).map col = l.map col :=
  map_setWhere col hf l

lemma get_append {k : κ} {l m : List ρ} :
    get key k (l ++ m) = (get key k l).or (get key k m) := by
  simp [get, List.find?_append]

lemma get_setWhere {p : ρ → Bool} {f : ρ → ρ} (hf : ∀ r, key (f r) = key r) (k : κ)
    (l : List ρ) :
    get key k (setWhere p f l) = (get key k l).map fun r => if p r then f r else r := by
  induction l with
  | nil => rfl
  | cons r l ih =>
    have hr : key (if p r then f r else r) = key r := by split <;> simp [hf]
    simp only [get, setWhere, List.map_cons, List.find?_cons, hr] at ih ⊢
    split
    · simp
    · exact ih

lemma get_set {k : κ} {f : ρ → ρ} (hf : ∀ r, key (f r) = key r) (k' : κ) (l : List ρ) :
    get key k' (set key k f l) = (get key k' l).map fun r => if key r = k then f r else r := by
  rw [set, get_setWhere hf]; simp

lemma get_set_row {k : κ} {row : ρ} (hrow : key row = k) (k' : κ) (l : List ρ) :
    get key k' (set key k (fun _ => row) l) =
      if k' = k then (get key k l).map fun _ => row else get key k' l := by
  induction l with
  | nil => simp [get, set]
  | cons r l ih =>
    simp only [get, set, setWhere, List.map_cons, List.find?_cons, decide_eq_true_eq] at ih ⊢
    by_cases hr : key r = k
    · by_cases hk : k' = k
      · simp [hr, hk, hrow]
      · have hne : ¬ k = k' := fun h => hk h.symm
        simpa [hr, hrow, hk, hne] using ih
    · by_cases hk : k' = k
      · subst hk
        simpa [hr] using ih
      · by_cases hr' : key r = k'
        · simp [hr', hk]
        · simpa [hr, hr', hk] using ih

/-- A search that found the row finds the one written over it, if that one meets the condition. -/
lemma find?_set_row {p : ρ → Bool} {l : List ρ} {old row : ρ} (h : l.find? p = some old)
    (hp : p row = true) : (set key (key old) (fun _ => row) l).find? p = some row := by
  induction l with
  | nil => cases h
  | cons r l ih =>
    simp only [set, setWhere, List.map_cons, decide_eq_true_eq] at ih ⊢
    by_cases hr : key r = key old
    · rw [if_pos hr, List.find?_cons_of_pos hp]
    · have hpr : ¬ p r = true := by
        intro hpr
        rw [List.find?_cons_of_pos hpr] at h
        exact hr (congrArg key (Option.some.inj h))
      rw [List.find?_cons_of_neg hpr] at h
      rw [if_neg hr, List.find?_cons_of_neg hpr]
      exact ih h

lemma map_key_set_row {k : κ} {row : ρ} (hrow : key row = k) (l : List ρ) :
    (set key k (fun _ => row) l).map key = l.map key := by
  simp only [set, setWhere, List.map_map]
  refine List.map_congr_left fun r _ => ?_
  by_cases hr : key r = k <;> simp [hr, hrow]

lemma set_set_row {k : κ} {a b : ρ} (ha : key a = k) (l : List ρ) :
    set key k (fun _ => b) (set key k (fun _ => a) l) = set key k (fun _ => b) l := by
  simp only [set, setWhere, List.map_map]
  refine List.map_congr_left fun r _ => ?_
  by_cases hr : key r = k <;> simp [hr, ha]

lemma set_self {l : List ρ} (hn : (l.map key).Nodup) {r : ρ} (hr : r ∈ l) :
    set key (key r) (fun _ => r) l = l := by
  have hid : ∀ r' ∈ l, (if key r' = key r then r else r') = r' := by
    intro r' hr'
    split
    · next hk => exact (List.inj_on_of_nodup_map hn hr' hr hk).symm
    · rfl
  calc set key (key r) (fun _ => r) l = l.map fun r' => if key r' = key r then r else r' := by
        simp only [set, setWhere, decide_eq_true_eq]
    _ = l.map id := List.map_congr_left hid
    _ = l := List.map_id l

/-- Distinct keys make an update by the keys of the selected rows an update of these rows. -/
lemma setWhere_mem_keys {p : ρ → Bool} {f : ρ → ρ} {l : List ρ} (hn : (l.map key).Nodup)
    {ks : List κ} (hks : ∀ k, k ∈ ks ↔ ∃ r ∈ l, p r = true ∧ key r = k) :
    setWhere (key · ∈ ks) f l = setWhere p f l := by
  refine List.map_congr_left fun r hr => ?_
  have hmem : key r ∈ ks ↔ p r = true := by
    rw [hks]
    refine ⟨?_, fun h => ⟨r, hr, h, rfl⟩⟩
    rintro ⟨r', hr', h, hk⟩
    rwa [List.inj_on_of_nodup_map hn hr' hr hk] at h
  simp only [hmem, decide_eq_true_eq]

/-! ### Rows written over others -/

variable (key) in
/-- The rows, with those of `new` over the ones with their keys. -/
def overlay (new l : List ρ) : List ρ := l.map fun r => (get key (key r) new).getD r

lemma overlay_nil (l : List ρ) : overlay key [] l = l := List.map_id l

lemma key_overlay {new : List ρ} (r : ρ) : key ((get key (key r) new).getD r) = key r := by
  cases h : get key (key r) new with
  | none => rfl
  | some r' => exact (get_mem h).2

lemma map_key_overlay (new l : List ρ) : (overlay key new l).map key = l.map key := by
  rw [overlay, List.map_map]
  exact List.map_congr_left fun r _ => key_overlay r

lemma mem_overlay {new l : List ρ} {r : ρ} (h : r ∈ overlay key new l) :
    r ∈ new ∨ r ∈ l ∧ key r ∉ new.map key := by
  obtain ⟨r0, hr0, rfl⟩ := List.mem_map.mp h
  cases hget : get key (key r0) new with
  | none =>
    refine .inr ⟨hr0, fun hmem => ?_⟩
    obtain ⟨r', hr', hk⟩ := List.mem_map.mp hmem
    exact get_eq_none.mp hget r' hr' hk
  | some r' => exact .inl (get_mem hget).1

lemma overlay_left {new l : List ρ} {r : ρ} (hr : r ∈ l) (hk : key r ∉ new.map key) :
    r ∈ overlay key new l := by
  have hget : get key (key r) new = none :=
    get_eq_none.mpr fun r' hr' he => hk (he ▸ List.mem_map_of_mem hr')
  refine List.mem_map.mpr ⟨r, hr, ?_⟩
  rw [hget, Option.getD_none]

lemma overlay_new {new l : List ρ} {r : ρ} (hnew : (new.map key).Nodup) (hr : r ∈ new)
    (hk : key r ∈ l.map key) : r ∈ overlay key new l := by
  obtain ⟨r0, hr0, he⟩ := List.mem_map.mp hk
  have hget : get key (key r0) new = some r := he ▸ get_of_mem hnew hr
  refine List.mem_map.mpr ⟨r0, hr0, ?_⟩
  rw [hget, Option.getD_some]

lemma set_overlay {new : List ρ} {row : ρ} (h : key row ∉ new.map key) (l : List ρ) :
    set key (key row) (fun _ => row) (overlay key new l) = overlay key (new ++ [row]) l := by
  simp only [set, setWhere, overlay, List.map_map]
  refine List.map_congr_left fun r _ => ?_
  have hkey : key ((get key (key r) new).getD r) = key r := key_overlay r
  rw [Function.comp_apply, hkey, get_append]
  by_cases hr : key r = key row
  · have hget : get key (key row) new = none :=
      get_eq_none.mpr fun r' hr' he => h (he ▸ List.mem_map_of_mem hr')
    have hlast : get key (key row) [row] = some row := by simp [get]
    simp [hr, hget, hlast]
  · have hlast : get key (key r) [row] = none := by
      simpa [get] using fun he : key row = key r => hr he.symm
    simp [hr, hlast]

lemma set_overlay_last {new : List ρ} {old row : ρ} (hk : key old = key row)
    (h : key row ∉ new.map key) (l : List ρ) :
    set key (key row) (fun _ => row) (overlay key (new ++ [old]) l) =
      overlay key (new ++ [row]) l := by
  have hold : key old ∉ new.map key := hk ▸ h
  rw [← set_overlay hold, ← set_overlay h, hk, set_set_row hk]

/-! ### What an update brings about -/

variable (key) in
/-- Every row of the later table with the property has a row before it that had it. -/
def NoNew (P : ρ → Prop) (l l' : List ρ) : Prop :=
  ∀ r' ∈ l', P r' → ∃ r ∈ l, key r = key r' ∧ P r

section NoNew

variable {P : ρ → Prop} {l : List ρ}

omit [DecidableEq κ] in
lemma NoNew.refl (P : ρ → Prop) (l : List ρ) : NoNew key P l l := fun r hr h => ⟨r, hr, rfl, h⟩

omit [DecidableEq κ] in
lemma NoNew.trans {l' l'' : List ρ} (h : NoNew key P l l') (h' : NoNew key P l' l'') :
    NoNew key P l l'' := by
  intro r'' hr'' hp''
  obtain ⟨r', hr', hk', hp'⟩ := h' r'' hr'' hp''
  obtain ⟨r, hr, hk, hp⟩ := h r' hr' hp'
  exact ⟨r, hr, hk.trans hk', hp⟩

omit [DecidableEq κ] in
lemma NoNew.append {r : ρ} (hr : ¬ P r) : NoNew key P l (l ++ [r]) := by
  intro r' hr' hp'
  rcases List.mem_append.mp hr' with hold | hnew
  · exact ⟨r', hold, rfl, hp'⟩
  · rw [List.mem_singleton.mp hnew] at hp'
    exact absurd hp' hr

lemma NoNew.set {r row : ρ} (hr : r ∈ l) (hk : key row = key r) (hp : P row → P r) :
    NoNew key P l (set key (key r) (fun _ => row) l) := by
  intro r' hr' hp'
  obtain ⟨r0, hr0, he⟩ := mem_set.mp hr'
  split at he
  · subst he
    exact ⟨r, hr, hk.symm, hp hp'⟩
  · exact ⟨r0, hr0, by rw [he], he ▸ hp'⟩

omit [DecidableEq κ] in
lemma NoNew.setWhere {p : ρ → Bool} {f : ρ → ρ} (hk : ∀ r, key (f r) = key r)
    (hp : ∀ r, P (f r) → P r) : NoNew key P l (setWhere p f l) := by
  intro r' hr' hp'
  obtain ⟨r0, hr0, he⟩ := mem_setWhere.mp hr'
  split at he
  · subst he
    exact ⟨r0, hr0, (hk r0).symm, hp r0 hp'⟩
  · exact ⟨r0, hr0, by rw [he], he ▸ hp'⟩

end NoNew

variable (key) in
/-- A unique constraint on `key` lets the new rows in. -/
def Inserts (new l : List ρ) : Prop :=
  (new.map key).Nodup ∧ ∀ r ∈ new, ∀ r' ∈ l, key r' ≠ key r

instance (new l : List ρ) : Decidable (Inserts key new l) :=
  inferInstanceAs (Decidable (_ ∧ ∀ r ∈ new, ∀ r' ∈ l, key r' ≠ key r))

end Keyed

end SchoolOs.Tables
