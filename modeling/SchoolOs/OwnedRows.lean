import SchoolOs.Keyed

/-!
The rows of one owner in a table: what statements on rows of others leave of them.
-/

namespace SchoolOs.Table

variable {ρ κ ο : Type*} {key : ρ → κ} [DecidableEq ο]

/-- The rows of one owner. -/
def rowsOf (t : Table key) (owner : ρ → ο) (o : ο) : List ρ := t.rows.filter fun r => owner r = o

variable {t t' : Table key} {owner : ρ → ο} {o : ο} {r row old : ρ}

lemma rowsOf_setWhere {p : ρ → Bool} {f : ρ → ρ} {hf : ∀ r, key (f r) = key r}
    (howner : ∀ r, owner (f r) = owner r) (ho : ∀ r ∈ t, p r = true → owner r ≠ o) :
    (t.setWhere p f hf).rowsOf owner o = t.rowsOf owner o := by
  unfold rowsOf setWhere
  rw [Tables.filter_setWhere fun r => by rw [howner]]
  refine Tables.setWhere_of_not fun r hr => ?_
  obtain ⟨hmem, hr⟩ := List.mem_filter.mp hr
  cases hp : p r with
  | false => rfl
  | true => exact absurd (of_decide_eq_true hr) (ho r hmem hp)

lemma rowsOf_deleteWhere {p : ρ → Bool} (ho : ∀ r ∈ t, p r = true → owner r ≠ o) :
    (t.deleteWhere p).rowsOf owner o = t.rowsOf owner o := by
  unfold rowsOf deleteWhere
  rw [List.filter_filter]
  refine List.filter_congr fun r hr => ?_
  cases hp : p r with
  | false => simp
  | true => simp [ho r hr hp]

variable [DecidableEq κ]

lemma rowsOf_insert (h : t.insert r = some t') (hr : owner r ≠ o) :
    t'.rowsOf owner o = t.rowsOf owner o :=
  filter_insert h (decide_eq_false hr)

lemma rowsOf_put (hold : old ∈ t) (hk : key old = key row) (howner : owner row = owner old)
    (ho : owner old ≠ o) : (t.put row).rowsOf owner o = t.rowsOf owner o := by
  refine filter_put (fun r hr => ?_) (decide_eq_false (howner ▸ ho))
  obtain ⟨hmem, hkey⟩ := get_eq_some.mp hr
  obtain rfl := eq_of_key hmem hold (hkey.trans hk.symm)
  exact decide_eq_false ho

lemma rowsOf_delete (hold : old ∈ t) (ho : owner old ≠ o) :
    (t.delete (key old)).rowsOf owner o = t.rowsOf owner o := by
  unfold rowsOf delete
  rw [List.filter_filter]
  refine List.filter_congr fun r hr => ?_
  by_cases hk : key r = key old
  · obtain rfl := eq_of_key hr hold hk
    simp [ho]
  · simp [hk]

end SchoolOs.Table
