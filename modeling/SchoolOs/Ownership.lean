import Mathlib.Data.Fintype.Basic
import SchoolOs.Keyed

/-!
Tables whose rows have owners and refer to one another. A store is closed when a row refers only
to rows of its own owner. Foreign keys tell that what is referred to is there, not whose it is:
what a write must check beyond them to keep a store closed.
-/

namespace SchoolOs.Ownership

/-- A row: its key, its owner, and the rows it refers to. -/
structure Entry (ι κ α : Type*) where
  key : κ
  owner : α
  refs : List (ι × κ)

/-- A table of rows for each index. -/
abbrev Store (ι κ α : Type*) := ι → Table fun e : Entry ι κ α => e.key

variable {ι κ α : Type*}

/-- No row is lost, and none changes. -/
def Grows (s s' : Store ι κ α) : Prop := ∀ i, ∀ e ∈ s i, e ∈ s' i

lemma Grows.refl (s : Store ι κ α) : Grows s s := fun _ _ he => he

lemma Grows.trans {s s' s'' : Store ι κ α} (h : Grows s s') (h' : Grows s' s'') : Grows s s'' :=
  fun i e he => h' i e (h i e he)

variable [DecidableEq κ]

/-- Whose the row is that a reference names. -/
def ownerOf (s : Store ι κ α) (r : ι × κ) : Option α := ((s r.1).get r.2).map Entry.owner

/-- What the row refers to is its owner's. -/
def Owns (s : Store ι κ α) (e : Entry ι κ α) : Prop := ∀ r ∈ e.refs, ownerOf s r = some e.owner

/-- No row refers to a row of another owner. -/
def Closed (s : Store ι κ α) : Prop := ∀ i, ∀ e ∈ s i, Owns s e

instance [DecidableEq α] (s : Store ι κ α) (e : Entry ι κ α) : Decidable (Owns s e) :=
  inferInstanceAs (Decidable (∀ r ∈ e.refs, ownerOf s r = some e.owner))

instance [DecidableEq α] [Fintype ι] (s : Store ι κ α) : Decidable (Closed s) :=
  inferInstanceAs (Decidable (∀ i, ∀ e ∈ s i, Owns s e))

variable {s s' : Store ι κ α} {i : ι} {e : Entry ι κ α}

/-- Where a table is a view of another one, its owners are read off there. -/
lemma ownerOf_view {ρ : Type*} {key : ρ → κ} {t : Table key} (f : ρ → Entry ι κ α)
    (hf : ∀ r, (f r).key = key r) (k : κ) (hs : s i = t.view f hf) :
    ownerOf s (i, k) = (t.get k).map fun r => (f r).owner := by
  have hget : (s i).get k = (t.get k).map f := by
    rw [hs]
    exact Table.get_view k
  rw [ownerOf, hget, Option.map_map]
  rfl

lemma owns_of_view {ρ : Type*} {key : ρ → κ} {t : Table key} (i : ι) (f : ρ → Entry ι κ α)
    (hf : ∀ r, (f r).key = key r) {r : ρ} (hclosed : Closed s) (hs : s i = t.view f hf)
    (hr : r ∈ t) : Owns s (f r) := by
  have hmem : f r ∈ s i := by
    rw [hs]
    exact Table.mem_view.mpr ⟨r, hr, rfl⟩
  exact hclosed i (f r) hmem

lemma ownerOf_grows (h : Grows s s') {r : ι × κ} {a : α} (hr : ownerOf s r = some a) :
    ownerOf s' r = some a := by
  obtain ⟨e, he, rfl⟩ := Option.map_eq_some_iff.mp hr
  obtain ⟨hmem, hkey⟩ := Table.get_eq_some.mp he
  have hget : (s' r.1).get r.2 = some e := Table.get_eq_some.mpr ⟨h _ e hmem, hkey⟩
  rw [ownerOf, hget, Option.map_some]

lemma owns_grows (h : Grows s s') (he : Owns s e) : Owns s' e :=
  fun r hr => ownerOf_grows h (he r hr)

lemma owns_grows_iff (h : Grows s s') (hthere : ∀ r ∈ e.refs, (ownerOf s r).isSome) :
    Owns s' e ↔ Owns s e := by
  refine ⟨fun he r hr => ?_, owns_grows h⟩
  obtain ⟨a, ha⟩ := Option.isSome_iff_exists.mp (hthere r hr)
  have hsame : some a = some e.owner := (ownerOf_grows h ha).symm.trans (he r hr)
  exact ha.trans hsame

/-! ### One more row -/

/-- The row is new in its table, and the other tables are as they were. -/
structure Inserts (s : Store ι κ α) (i : ι) (e : Entry ι κ α) (s' : Store ι κ α) : Prop where
  insert : (s i).insert e = some (s' i)
  frame : ∀ j, j ≠ i → s' j = s j

lemma Inserts.of_view {ρ : Type*} {key : ρ → κ} {t t' : Table key} (f : ρ → Entry ι κ α)
    (hf : ∀ r, (f r).key = key r) {r : ρ} (hs : s i = t.view f hf) (hs' : s' i = t'.view f hf)
    (h : t.insert r = some t') (frame : ∀ j, j ≠ i → s' j = s j) : Inserts s i (f r) s' where
  insert := by
    rw [hs, hs']
    exact Table.insert_view hf h
  frame := frame

lemma Inserts.mem_iff (h : Inserts s i e s') {j : ι} {x : Entry ι κ α} :
    x ∈ s' j ↔ x ∈ s j ∨ (j = i ∧ x = e) := by
  by_cases hj : j = i
  · subst hj
    rw [Table.mem_of_insert h.insert]
    simp
  · rw [h.frame j hj]
    simp [hj]

lemma Inserts.grows (h : Inserts s i e s') : Grows s s' := fun _ _ hx => h.mem_iff.mpr (.inl hx)

lemma Inserts.mem (h : Inserts s i e s') : e ∈ s' i := h.mem_iff.mpr (.inr ⟨rfl, rfl⟩)

/-- **One more row** keeps a store closed exactly when it owns what it refers to. -/
theorem Inserts.closed_iff (h : Inserts s i e s') (hs : Closed s) : Closed s' ↔ Owns s' e := by
  refine ⟨fun hs' => hs' i e h.mem, fun he j x hx => ?_⟩
  rcases h.mem_iff.mp hx with hold | ⟨_, rfl⟩
  · exact owns_grows h.grows (hs j x hold)
  · exact he

/-! ### A row rewritten -/

/-- The row is written over one with its key and its owner. -/
structure Rewrites (s : Store ι κ α) (i : ι) (e : Entry ι κ α) (s' : Store ι κ α) : Prop where
  put : s' i = (s i).put e
  frame : ∀ j, j ≠ i → s' j = s j
  old : ∃ x ∈ s i, x.key = e.key ∧ x.owner = e.owner

lemma Rewrites.of_view {ρ : Type*} {key : ρ → κ} {t : Table key} (f : ρ → Entry ι κ α)
    (hf : ∀ r, (f r).key = key r) {old row : ρ} (hs : s i = t.view f hf)
    (hs' : s' i = (t.put row).view f hf) (frame : ∀ j, j ≠ i → s' j = s j) (hold : old ∈ t)
    (hkey : key old = key row) (howner : (f old).owner = (f row).owner) :
    Rewrites s i (f row) s' where
  put := by rw [hs', hs, Table.put_view]
  frame := frame
  old := by
    refine ⟨f old, ?_, ?_, howner⟩
    · rw [hs]
      exact Table.mem_view.mpr ⟨old, hold, rfl⟩
    · rw [hf, hf, hkey]

lemma Rewrites.owner (h : Rewrites s i e s') (r : ι × κ) : ownerOf s' r = ownerOf s r := by
  unfold ownerOf
  by_cases hr : r.1 = i
  · obtain ⟨j, k⟩ := r
    obtain rfl : j = i := hr
    obtain ⟨x, hx, hkey, howner⟩ := h.old
    rw [h.put]
    refine Table.map_get_put Entry.owner (fun y hy => ?_) k
    obtain ⟨hmem, hkey'⟩ := Table.get_eq_some.mp hy
    obtain rfl := Table.eq_of_key hmem hx (hkey'.trans hkey.symm)
    exact howner.symm
  · rw [h.frame _ hr]

/-- **A row rewritten** keeps a store closed exactly when it owns what it refers to. -/
theorem Rewrites.closed_iff (h : Rewrites s i e s') (hs : Closed s) : Closed s' ↔ Owns s e := by
  have howns : ∀ x, Owns s' x ↔ Owns s x := fun x => by simp only [Owns, h.owner]
  constructor
  · intro hs'
    obtain ⟨x, hx, hkey, _⟩ := h.old
    have hmem : e ∈ s' i := by
      rw [h.put]
      exact Table.mem_put.mpr (.inr ⟨rfl, x, hx, hkey⟩)
    exact (howns e).mp (hs' i e hmem)
  · intro he j x hx
    refine (howns x).mpr ?_
    by_cases hj : j = i
    · subst hj
      rw [h.put] at hx
      rcases Table.mem_put.mp hx with ⟨hx, _⟩ | ⟨rfl, _⟩
      · exact hs j x hx
      · exact he
    · rw [h.frame j hj] at hx
      exact hs j x hx

/-! ### What is left to check -/

/-- The references of a row are known to be its owner's, but for those of `left`, which are known
to be there. -/
structure Checked (s : Store ι κ α) (e : Entry ι κ α) (left : List (ι × κ)) : Prop where
  known : ∀ r ∈ e.refs, r ∈ left ∨ ownerOf s r = some e.owner
  there : ∀ r ∈ left, (ownerOf s r).isSome
  left : ∀ r ∈ left, r ∈ e.refs

lemma Checked.isSome {left : List (ι × κ)} (h : Checked s e left) :
    ∀ r ∈ e.refs, (ownerOf s r).isSome := by
  intro r hr
  rcases h.known r hr with hleft | hknown
  · exact h.there r hleft
  · rw [hknown, Option.isSome_some]

lemma Checked.owns_iff {left : List (ι × κ)} (h : Checked s e left) :
    Owns s e ↔ ∀ r ∈ left, ownerOf s r = some e.owner := by
  refine ⟨fun he r hr => he r (h.left r hr), fun hleft r hr => ?_⟩
  rcases h.known r hr with hr | hr
  · exact hleft r hr
  · exact hr

lemma Owns.checked (h : Owns s e) : Checked s e [] where
  known := fun r hr => .inr (h r hr)
  there := by simp
  left := by simp

/-- **The insert rule**: the store stays closed exactly when the references that were not checked
are the owner's. -/
theorem Inserts.closed_of_checked {left : List (ι × κ)} (h : Inserts s i e s')
    (hc : Checked s e left) (hs : Closed s) :
    Closed s' ↔ ∀ r ∈ left, ownerOf s r = some e.owner := by
  rw [h.closed_iff hs, owns_grows_iff h.grows hc.isSome, hc.owns_iff]

/-- **The update rule**: likewise for a row rewritten. -/
theorem Rewrites.closed_of_checked {left : List (ι × κ)} (h : Rewrites s i e s')
    (hc : Checked s e left) (hs : Closed s) :
    Closed s' ↔ ∀ r ∈ left, ownerOf s r = some e.owner := by
  rw [h.closed_iff hs, hc.owns_iff]

end SchoolOs.Ownership
