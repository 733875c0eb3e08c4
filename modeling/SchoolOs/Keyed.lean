import SchoolOs.Tables

/-!
Tables with a primary key: the rows carry distinct keys, so that a key names one row, and each
statement keeps them distinct. And exclusion constraints: a relation that no two rows may be in.
-/

namespace SchoolOs

/-- Rows with distinct keys, in the order the heap hands them out. -/
structure Table {ρ κ : Type*} (key : ρ → κ) where
  rows : List ρ
  keys : (rows.map key).Nodup

namespace Table

variable {ρ κ : Type*} {key : ρ → κ}

@[ext] lemma ext {t t' : Table key} (h : t.rows = t'.rows) : t = t' := by
  obtain ⟨rows, keys⟩ := t
  obtain ⟨rows', keys'⟩ := t'
  obtain rfl : rows = rows' := h
  rfl

instance [DecidableEq ρ] : DecidableEq (Table key) := fun t t' =>
  decidable_of_iff (t.rows = t'.rows) ⟨ext, fun h => h ▸ rfl⟩

instance : Membership ρ (Table key) := ⟨fun t r => r ∈ t.rows⟩

lemma mem_def {t : Table key} {r : ρ} : r ∈ t ↔ r ∈ t.rows := Iff.rfl

instance {t : Table key} {P : ρ → Prop} [DecidablePred P] : Decidable (∀ r ∈ t, P r) :=
  inferInstanceAs (Decidable (∀ r ∈ t.rows, P r))

instance {t : Table key} {P : ρ → Prop} [DecidablePred P] : Decidable (∃ r ∈ t, P r) :=
  inferInstanceAs (Decidable (∃ r ∈ t.rows, P r))

/-- No rows. -/
def empty (key : ρ → κ) : Table key := ⟨[], List.nodup_nil⟩

@[simp] lemma not_mem_empty {r : ρ} : r ∉ empty key := List.not_mem_nil

lemma eq_of_key {t : Table key} {r r' : ρ} (hr : r ∈ t) (hr' : r' ∈ t) (h : key r = key r') :
    r = r' := List.inj_on_of_nodup_map t.keys hr hr' h

variable [DecidableEq κ]

/-- The row with the key `k`. -/
def get (t : Table key) (k : κ) : Option ρ := Tables.get key k t.rows

/-- `INSERT`, which a row with the key refuses. -/
def insert (t : Table key) (r : ρ) : Option (Table key) :=
  if h : key r ∈ t.rows.map key then none
  else some {
    rows := t.rows ++ [r]
    keys := by
      rw [List.map_append, List.nodup_append_comm]
      exact List.nodup_cons.mpr ⟨h, t.keys⟩ }

/-- The rows one after another, those left out whose key is there already. -/
def ofRows (key : ρ → κ) (rows : List ρ) : Table key :=
  rows.foldl (fun t r => (t.insert r).getD t) (empty key)

/-- A row written over the one with its key. -/
def put (t : Table key) (row : ρ) : Table key where
  rows := Tables.set key (key row) (fun _ => row) t.rows
  keys := by
    rw [Tables.map_key_set_row rfl]
    exact t.keys

/-- `UPDATE … SET … WHERE p`, which writes no key. -/
def setWhere (t : Table key) (p : ρ → Bool) (f : ρ → ρ) (hf : ∀ r, key (f r) = key r) :
    Table key where
  rows := Tables.setWhere p f t.rows
  keys := by
    rw [Tables.map_setWhere key hf]
    exact t.keys

/-- `DELETE` by key. -/
def delete (t : Table key) (k : κ) : Table key where
  rows := t.rows.filter (key · ≠ k)
  keys := (List.filter_sublist.map key).nodup t.keys

/-- `DELETE … WHERE p`. -/
def deleteWhere (t : Table key) (p : ρ → Bool) : Table key where
  rows := t.rows.filter fun r => !p r
  keys := (List.filter_sublist.map key).nodup t.keys

variable {t t' : Table key} {r row : ρ} {k : κ}

lemma get_eq_some : t.get k = some r ↔ r ∈ t ∧ key r = k := by
  refine ⟨fun h => Tables.get_mem h, ?_⟩
  rintro ⟨hr, rfl⟩
  exact Tables.get_of_mem t.keys hr

lemma get_eq_none : t.get k = none ↔ ∀ r ∈ t, key r ≠ k := Tables.get_eq_none

lemma insert_eq_some : t.insert r = some t' ↔ (∀ r' ∈ t, key r' ≠ key r) ∧
    t.rows ++ [r] = t'.rows := by
  have hmem : (∀ r' ∈ t, key r' ≠ key r) ↔ key r ∉ t.rows.map key := by
    simp [mem_def]
  unfold insert
  split
  · next h => simp [hmem, h]
  · next h =>
    rw [Option.some.injEq, hmem]
    exact ⟨fun he => ⟨h, he ▸ rfl⟩, fun he => ext he.2⟩

lemma insert_of_fresh (h : ∀ r' ∈ t, key r' ≠ key r) : ∃ t', t.insert r = some t' := by
  unfold insert
  split
  · next hmem =>
    obtain ⟨r', hr', hk⟩ := List.mem_map.mp hmem
    exact absurd hk (h r' hr')
  · exact ⟨_, rfl⟩

lemma mem_of_insert (h : t.insert r = some t') {x : ρ} : x ∈ t' ↔ x ∈ t ∨ x = r := by
  simp [mem_def, ← (insert_eq_some.mp h).2]

lemma get_insert_of_get (h : t.insert r = some t') (hk : t.get k = some row) :
    t'.get k = some row := by
  obtain ⟨hmem, hkey⟩ := get_eq_some.mp hk
  exact get_eq_some.mpr ⟨(mem_of_insert h).mpr (.inl hmem), hkey⟩

lemma get_insert (h : t.insert r = some t') (k : κ) :
    t'.get k = if k = key r then some r else t.get k := by
  split
  · next hk => exact get_eq_some.mpr ⟨(mem_of_insert h).mpr (.inr rfl), hk.symm⟩
  · next hk =>
    cases hget : t.get k with
    | none =>
      refine get_eq_none.mpr fun x hx => ?_
      rcases (mem_of_insert h).mp hx with hx | rfl
      · exact get_eq_none.mp hget x hx
      · exact fun he => hk he.symm
    | some row => exact get_insert_of_get h hget

lemma mem_put {x : ρ} : x ∈ t.put row ↔
    (x ∈ t ∧ key x ≠ key row) ∨ (x = row ∧ ∃ r ∈ t, key r = key row) := by
  rw [mem_def, put, Tables.mem_set]
  constructor
  · rintro ⟨r, hr, he⟩
    split at he
    · next hk => exact .inr ⟨he.symm, r, hr, hk⟩
    · next hk => exact .inl ⟨he ▸ hr, he ▸ hk⟩
  · rintro (⟨hx, hk⟩ | ⟨rfl, r, hr, hk⟩)
    · exact ⟨x, hx, if_neg hk⟩
    · exact ⟨r, hr, if_pos hk⟩

lemma mem_put_of_insert (h : t.insert r = some t') (hk : key row = key r) {x : ρ} :
    x ∈ t'.put row ↔ x ∈ t ∨ x = row := by
  have hfresh := (insert_eq_some.mp h).1
  rw [mem_put, mem_of_insert h, hk]
  constructor
  · rintro (⟨hx | rfl, hne⟩ | ⟨rfl, _⟩)
    · exact .inl hx
    · exact absurd rfl hne
    · exact .inr rfl
  · rintro (hx | rfl)
    · exact .inl ⟨.inl hx, hfresh x hx⟩
    · exact .inr ⟨rfl, r, (mem_of_insert h).mpr (.inr rfl), rfl⟩

lemma get_put (k : κ) :
    (t.put row).get k = if k = key row then (t.get k).map fun _ => row else t.get k := by
  rw [get, put, Tables.get_set_row rfl]
  split
  · next hk => rw [hk]; rfl
  · rfl

/-- What is selected is the same when neither the row that is written nor the one that was there is
selected. -/
lemma filter_put {p : ρ → Bool} (hold : ∀ old, t.get (key row) = some old → p old = false)
    (hrow : p row = false) : (t.put row).rows.filter p = t.rows.filter p := by
  refine Tables.filter_setWhere_of_not fun r hr hk => ⟨hold r ?_, hrow⟩
  exact get_eq_some.mpr ⟨hr, of_decide_eq_true hk⟩

lemma filter_insert {p : ρ → Bool} (h : t.insert r = some t') (hr : p r = false) :
    t'.rows.filter p = t.rows.filter p := by
  obtain ⟨_, hrows⟩ := insert_eq_some.mp h
  rw [← hrows, List.filter_append, List.filter_singleton, hr]
  exact List.append_nil _

lemma put_self (hr : r ∈ t) : t.put r = t := ext (Tables.set_self t.keys hr)

/-- A column the new row shares with the old one reads the same for every key. -/
lemma map_get_put {γ : Type*} (col : ρ → γ) (h : ∀ old, t.get (key row) = some old →
    col row = col old) (k : κ) : ((t.put row).get k).map col = (t.get k).map col := by
  rw [get_put]
  by_cases hk : k = key row
  · subst hk
    cases hold : t.get (key row) with
    | none => simp
    | some old => simp [h old hold]
  · simp [hk]

lemma mem_delete {x : ρ} : x ∈ t.delete k ↔ x ∈ t ∧ key x ≠ k := by
  simp [mem_def, delete]

lemma get_delete_self {k : κ} : (t.delete k).get k = none :=
  get_eq_none.mpr fun _ hr => (mem_delete.mp hr).2

omit [DecidableEq κ] in
lemma mem_deleteWhere {p : ρ → Bool} {x : ρ} : x ∈ t.deleteWhere p ↔ x ∈ t ∧ p x = false := by
  simp [mem_def, deleteWhere]

/-! ### Views -/

section View

variable {σ : Type*} {key' : σ → κ} {f : ρ → σ}

/-- What a view tells of each row, its key among it. -/
def view (t : Table key) (f : ρ → σ) (hf : ∀ r, key' (f r) = key r) : Table key' where
  rows := t.rows.map f
  keys := by
    have hkeys : (t.rows.map f).map key' = t.rows.map key := by
      rw [List.map_map]
      exact List.map_congr_left fun r _ => hf r
    rw [hkeys]
    exact t.keys

omit [DecidableEq κ] in
lemma mem_view {hf : ∀ r, key' (f r) = key r} {x : σ} :
    x ∈ t.view f hf ↔ ∃ r ∈ t, f r = x := List.mem_map

lemma get_view {hf : ∀ r, key' (f r) = key r} (k : κ) :
    (t.view f hf).get k = (t.get k).map f := by
  cases h : t.get k with
  | none =>
    refine get_eq_none.mpr fun x hx => ?_
    obtain ⟨r, hr, rfl⟩ := mem_view.mp hx
    rw [hf]
    exact get_eq_none.mp h r hr
  | some r =>
    obtain ⟨hmem, hkey⟩ := get_eq_some.mp h
    exact get_eq_some.mpr ⟨mem_view.mpr ⟨r, hmem, rfl⟩, (hf r).trans hkey⟩

lemma insert_view (hf : ∀ r, key' (f r) = key r) (h : t.insert r = some t') :
    (t.view f hf).insert (f r) = some (t'.view f hf) := by
  obtain ⟨hfresh, hrows⟩ := insert_eq_some.mp h
  refine insert_eq_some.mpr ⟨fun x hx => ?_, ?_⟩
  · obtain ⟨r', hr', rfl⟩ := mem_view.mp hx
    rw [hf, hf]
    exact hfresh r' hr'
  · have hmap := congrArg (List.map f) hrows
    rwa [List.map_append, List.map_singleton] at hmap

lemma put_view (hf : ∀ r, key' (f r) = key r) :
    (t.put row).view f hf = (t.view f hf).put (f row) := by
  refine ext ?_
  simp only [view, put, Tables.set, Tables.setWhere, List.map_map]
  refine List.map_congr_left fun r _ => ?_
  simp only [Function.comp, decide_eq_true_eq, hf]
  split <;> rfl

end View

/-! ### Exclusion constraints -/

/-- No two rows of the table clash. -/
def Excludes (t : Table key) (clash : ρ → ρ → Prop) : Prop :=
  ∀ a ∈ t, ∀ b ∈ t, key a ≠ key b → ¬ clash a b

instance {clash : ρ → ρ → Prop} [DecidableRel clash] : Decidable (t.Excludes clash) :=
  inferInstanceAs (Decidable (∀ a ∈ t.rows, ∀ b ∈ t.rows, key a ≠ key b → ¬ clash a b))

variable {clash : ρ → ρ → Prop}

omit [DecidableEq κ] in
lemma excludes_empty : (empty key).Excludes clash := fun _ ha => absurd ha not_mem_empty

/-- **One more row**: the constraint holds when it held and no row clashes with the new one. -/
theorem excludes_insert (hsymm : ∀ a b, clash a b → clash b a) (h : t.insert r = some t') :
    t'.Excludes clash ↔ t.Excludes clash ∧ ∀ a ∈ t, ¬ clash a r := by
  have hfresh := (insert_eq_some.mp h).1
  have hmem := fun x => mem_of_insert h (x := x)
  constructor
  · intro hex
    refine ⟨fun a ha b hb => ?_, fun a ha => ?_⟩
    · exact hex a ((hmem a).mpr (.inl ha)) b ((hmem b).mpr (.inl hb))
    · exact hex a ((hmem a).mpr (.inl ha)) r ((hmem r).mpr (.inr rfl)) (hfresh a ha)
  · rintro ⟨hex, hr⟩ a ha b hb hne
    rcases (hmem a).mp ha with ha | rfl
    · rcases (hmem b).mp hb with hb | rfl
      · exact hex a ha b hb hne
      · exact hr a ha
    · rcases (hmem b).mp hb with hb | rfl
      · exact fun hc => hr b hb (hsymm _ _ hc)
      · exact absurd rfl hne

/-- **A row rewritten**: the constraint holds when it held and no other row clashes with the new
one. -/
theorem Excludes.put (hsymm : ∀ a b, clash a b → clash b a) (hex : t.Excludes clash)
    (hr : ∀ a ∈ t, key a ≠ key row → ¬ clash a row) : (t.put row).Excludes clash := by
  intro a ha b hb hne
  rcases mem_put.mp ha with ⟨ha, hka⟩ | ⟨rfl, _⟩
  · rcases mem_put.mp hb with ⟨hb, _⟩ | ⟨hb, _⟩
    · exact hex a ha b hb hne
    · exact hb ▸ hr a ha hka
  · rcases mem_put.mp hb with ⟨hb, hkb⟩ | ⟨rfl, _⟩
    · exact fun hc => hr b hb hkb (hsymm _ _ hc)
    · exact absurd rfl hne

/-- A rewritten row that clashes with another breaks the constraint. -/
lemma not_excludes_put {old a : ρ} (hold : old ∈ t) (hk : key old = key row) (ha : a ∈ t)
    (hka : key a ≠ key row) (hc : clash a row) : ¬ (t.put row).Excludes clash := by
  intro hex
  have hrow : row ∈ t.put row := mem_put.mpr (.inr ⟨rfl, old, hold, hk⟩)
  exact hex a (mem_put.mpr (.inl ⟨ha, hka⟩)) row hrow hka hc

omit [DecidableEq κ] in
lemma Excludes.nodup_map {γ : Type*} {col : ρ → γ} (hex : t.Excludes clash)
    (hcol : ∀ a b, col a = col b → clash a b) (p : ρ → Bool) :
    ((t.rows.filter p).map col).Nodup := by
  have hrows : t.rows.Nodup := List.Nodup.of_map key t.keys
  refine List.Nodup.map_on (fun a ha b hb hsame => ?_) (hrows.filter p)
  have hat : a ∈ t := List.mem_of_mem_filter ha
  have hbt : b ∈ t := List.mem_of_mem_filter hb
  by_contra hne
  exact hex a hat b hbt (fun hk => hne (eq_of_key hat hbt hk)) (hcol a b hsame)

/-- No other row of the table clashes with the row. -/
def Apart (t : Table key) (clash : ρ → ρ → Prop) (r : ρ) : Prop :=
  ∀ a ∈ t, key a ≠ key r → ¬ clash a r

instance {clash : ρ → ρ → Prop} [DecidableRel clash] {r : ρ} : Decidable (t.Apart clash r) :=
  inferInstanceAs (Decidable (∀ a ∈ t.rows, key a ≠ key r → ¬ clash a r))

omit [DecidableEq κ] in
/-- A row of the table is apart from the others, and so is one that clashes with no more rows. -/
lemma Excludes.apart_of_clash (hex : t.Excludes clash) {old : ρ} (hold : old ∈ t)
    (hk : key row = key old) (hclash : ∀ a, clash a row → clash a old) : t.Apart clash row := by
  intro a ha hne hc
  exact hex a ha old hold (hk ▸ hne) (hclash a hc)

omit [DecidableEq κ] in
/-- The rows that a lookup sees are not in the way when it finds none: those it misses decide. -/
lemma apart_iff_missed (seen : ρ → Prop) (h : ∀ a ∈ t, seen a → ¬ clash a r) :
    t.Apart clash r ↔ ∀ a ∈ t, key a ≠ key r → ¬ seen a → ¬ clash a r := by
  constructor
  · intro hapart a ha hne _
    exact hapart a ha hne
  · intro hmissed a ha hne
    by_cases hseen : seen a
    · exact h a ha hseen
    · exact hmissed a ha hne hseen

lemma Excludes.delete (hex : t.Excludes clash) : (t.delete k).Excludes clash := by
  intro a ha b hb
  exact hex a (mem_delete.mp ha).1 b (mem_delete.mp hb).1

end Table

end SchoolOs
