import Mathlib.Data.List.Sort
import Mathlib.Order.Defs.LinearOrder
import Mathlib.Tactic.Common

/-!
Keyset paging: a listing is cut into pages, and each page is asked for by the key of the last row
of the page before it. What a walk over the pages returns, when the listing is in the order of the
keys and its rows come and go, and when it is in another order.
-/

namespace SchoolOs.Keysets

variable {α K : Type*} [LinearOrder K] (key : α → K)

/-- The rows that a cursor leaves: those below it. -/
def left (c : Option K) (rows : List α) : List α := rows.filter fun r => ∀ k ∈ c, key r < k

/-- The key of the last row of a page. -/
def lastKey (page : List α) : Option K := page.getLast?.map key

/-- Page after page, as long as a listing has `enough` rows. Each request finds its own listing. -/
def walk (limit enough : ℕ) : Option K → List (List α) → List (List α)
  | _, [] => []
  | c, rows :: tables =>
    let listed := left key c rows
    if enough ≤ listed.length then
      listed.take limit :: walk limit enough (lastKey key (listed.take limit)) tables
    else [listed.take limit]

/-- The walk comes to a listing that has not enough rows to go on. -/
def Ends (limit enough : ℕ) : Option K → List (List α) → Prop
  | _, [] => False
  | c, rows :: tables =>
    enough ≤ (left key c rows).length →
      Ends limit enough (lastKey key ((left key c rows).take limit)) tables

variable {key} {limit enough : ℕ} {c : Option K} {rows : List α} {tables : List (List α)} {r : α}

lemma mem_left : r ∈ left key c rows ↔ r ∈ rows ∧ ∀ k ∈ c, key r < k := by
  simp [left]

lemma left_sublist (key : α → K) (c : Option K) (rows : List α) :
    (left key c rows).Sublist rows := List.filter_sublist

lemma exists_last (hlimit : 1 ≤ limit) (henough : limit ≤ enough) {listed : List α}
    (h : enough ≤ listed.length) :
    ∃ x ∈ listed.take limit, (listed.take limit).getLast? = some x := by
  have hne : listed.take limit ≠ [] := by
    refine List.ne_nil_of_length_pos ?_
    rw [List.length_take]
    omega
  exact ⟨_, List.getLast_mem hne, List.getLast?_eq_some_getLast hne⟩

lemma walk_cons (hlimit : 1 ≤ limit) (henough : limit ≤ enough) (key : α → K) (c : Option K)
    (rows : List α) (tables : List (List α)) :
    (∃ x ∈ (left key c rows).take limit, ((left key c rows).take limit).getLast? = some x ∧
      enough ≤ (left key c rows).length ∧ walk key limit enough c (rows :: tables) =
        (left key c rows).take limit :: walk key limit enough (some (key x)) tables) ∨
    (left key c rows).length < enough ∧
      walk key limit enough c (rows :: tables) = [(left key c rows).take limit] := by
  by_cases h : enough ≤ (left key c rows).length
  · obtain ⟨x, hx, hlast⟩ := exists_last hlimit henough h
    refine .inl ⟨x, hx, hlast, h, ?_⟩
    rw [walk, if_pos h, lastKey, hlast, Option.map_some]
  · exact .inr ⟨not_le.mp h, by rw [walk, if_neg h]⟩

lemma left_length_lt {x : α} (hx : x ∈ left key c rows) :
    (left key (some (key x)) rows).length < (left key c rows).length := by
  have hbelow : left key (some (key x)) rows = left key (some (key x)) (left key c rows) := by
    rw [left, left, left, List.filter_filter]
    refine List.filter_congr fun r _ => ?_
    have hx' := (mem_left.mp hx).2
    simp only [Option.mem_some_iff, forall_eq', ← Bool.decide_and, decide_eq_decide]
    exact ⟨fun hlt => ⟨hlt, fun k hk => hlt.trans (hx' k hk)⟩, fun h => h.1⟩
  rw [hbelow]
  exact List.length_filter_lt_length_iff_exists.mpr ⟨x, hx, by simp⟩

lemma ends_replicate (hlimit : 1 ≤ limit) (henough : limit ≤ enough) (n : ℕ) (c : Option K)
    (hn : (left key c rows).length < n) :
    Ends key limit enough c (List.replicate n rows) := by
  induction n generalizing c with
  | zero => exact absurd hn (Nat.not_lt_zero _)
  | succ n ih =>
    intro hgo
    obtain ⟨x, hx, hlast⟩ := exists_last hlimit henough hgo
    rw [lastKey, hlast]
    refine ih (some (key x)) ?_
    have hlt := left_length_lt (List.mem_of_mem_take hx)
    omega

lemma walk_below (hlimit : 1 ≤ limit) (henough : limit ≤ enough) (c : Option K)
    (tables : List (List α)) :
    ∀ r ∈ (walk key limit enough c tables).flatten, ∀ k ∈ c, key r < k := by
  induction tables generalizing c with
  | nil => simp [walk]
  | cons rows tables ih =>
    have hpage : ∀ r ∈ (left key c rows).take limit, ∀ k ∈ c, key r < k := fun r hr =>
      (mem_left.mp (List.mem_of_mem_take hr)).2
    intro r hr
    obtain ⟨x, hx, _, _, hwalk⟩ | ⟨_, hwalk⟩ :=
      walk_cons hlimit henough key c rows tables
    · rw [hwalk, List.flatten_cons] at hr
      rcases List.mem_append.mp hr with hr | hr
      · exact hpage r hr
      · have hlt := ih (some (key x)) r hr (key x) rfl
        exact fun k hk => hlt.trans (hpage x hx k hk)
    · rw [hwalk, List.flatten_singleton] at hr
      exact hpage r hr

lemma mem_of_mem_walk (hlimit : 1 ≤ limit) (henough : limit ≤ enough) {c : Option K}
    {tables : List (List α)} :
    ∀ r ∈ (walk key limit enough c tables).flatten, ∃ rows ∈ tables, r ∈ rows := by
  induction tables generalizing c with
  | nil => simp [walk]
  | cons rows tables ih =>
    have hpage : ∀ r ∈ (left key c rows).take limit, r ∈ rows := fun r hr =>
      (mem_left.mp (List.mem_of_mem_take hr)).1
    intro r hr
    obtain ⟨x, _, _, _, hwalk⟩ | ⟨_, hwalk⟩ := walk_cons hlimit henough key c rows tables
    · rw [hwalk, List.flatten_cons] at hr
      rcases List.mem_append.mp hr with hr | hr
      · exact ⟨rows, List.mem_cons_self, hpage r hr⟩
      · obtain ⟨rows', hrows', hmem⟩ := ih r hr
        exact ⟨rows', List.mem_cons_of_mem _ hrows', hmem⟩
    · rw [hwalk, List.flatten_singleton] at hr
      exact ⟨rows, List.mem_cons_self, hpage r hr⟩

/-! ### Sorting -/

/-- Rows of one listing that are alike in its order are the same. -/
def Distinguished (before : α → α → Prop) (rows : List α) : Prop :=
  ∀ a ∈ rows, ∀ b ∈ rows, before a b → before b a → a = b

/-- What a cursor leaves of a sorted listing is what it leaves, sorted. -/
lemma left_insertionSort {before : α → α → Prop} [DecidableRel before] [Std.Total before]
    [IsTrans α before] (hrows : Distinguished before rows) :
    (left key c rows).insertionSort before = left key c (rows.insertionSort before) := by
  have hsorted : (left key c (rows.insertionSort before)).Pairwise before :=
    (List.pairwise_insertionSort before rows).sublist (left_sublist _ _ _)
  have hperm : ((left key c rows).insertionSort before).Perm
      (left key c (rows.insertionSort before)) :=
    (List.perm_insertionSort before _).trans
      ((List.perm_insertionSort before rows).symm.filter _)
  refine hperm.eq_of_pairwise (fun a b ha hb => ?_) (List.pairwise_insertionSort before _) hsorted
  have ha' := (mem_left.mp ((List.mem_insertionSort before).mp ha)).1
  have hb' := (List.mem_insertionSort before).mp (mem_left.mp hb).1
  exact hrows a ha' b hb'

/-- The order in which a place comes first. -/
def SortedBy {L : Type*} [LinearOrder L] (place : α → L) (a b : α) : Prop := place a ≤ place b

section SortedBy

variable {L : Type*} [LinearOrder L] (place : α → L)

instance : DecidableRel (SortedBy place) := fun a b =>
  inferInstanceAs (Decidable (place a ≤ place b))

instance : Std.Total (SortedBy place) where
  total a b := le_total (place a) (place b)

instance : IsTrans α (SortedBy place) where
  trans _ _ _ := le_trans

variable {place} in
lemma distinguished_sortedBy (h : ∀ a ∈ rows, ∀ b ∈ rows, place a = place b → a = b) :
    Distinguished (SortedBy place) rows := fun a ha b hb hab hba =>
  h a ha b hb (le_antisymm hab hba)

end SortedBy

/-! ### A listing in the order of the keys -/

/-- The rows, greatest key first, no two with one key. -/
def Descending (key : α → K) (rows : List α) : Prop := rows.Pairwise fun a b => key b < key a

lemma Descending.last_le {page : List α} (h : Descending key page) {x : α}
    (hx : page.getLast? = some x) : ∀ r ∈ page, key x ≤ key r := by
  intro r hr
  obtain ⟨front, rfl⟩ := List.getLast?_eq_some_iff.mp hx
  rcases List.mem_append.mp hr with hr | hr
  · exact ((List.pairwise_append.mp h).2.2 r hr x (List.mem_singleton.mpr rfl)).le
  · rw [List.mem_singleton.mp hr]

/-- **No row comes twice**: the pages follow the order of the keys, whatever was inserted and
deleted between them. -/
theorem walk_descending (hlimit : 1 ≤ limit) (henough : limit ≤ enough) (c : Option K)
    (htables : ∀ rows ∈ tables, Descending key rows) :
    Descending key (walk key limit enough c tables).flatten := by
  induction tables generalizing c with
  | nil => exact .nil
  | cons rows tables ih =>
    have hpage : Descending key ((left key c rows).take limit) :=
      (htables rows List.mem_cons_self).sublist
        ((List.take_sublist _ _).trans (left_sublist key c rows))
    obtain ⟨x, hx, hlast, _, hwalk⟩ | ⟨_, hwalk⟩ :=
      walk_cons hlimit henough key c rows tables
    · rw [hwalk, List.flatten_cons]
      refine List.pairwise_append.mpr ⟨hpage, ih (some (key x)) fun rows' hrows' =>
        htables rows' (List.mem_cons_of_mem _ hrows'), fun a ha b hb => ?_⟩
      have hlt := walk_below hlimit henough (some (key x)) tables b hb (key x) rfl
      exact hlt.trans_le (hpage.last_le hlast a ha)
    · rwa [hwalk, List.flatten_singleton]

/-- A row of a listing that is not on its page lies below the last row of the page. -/
lemma Descending.below_last {listed : List α} (h : Descending key listed) {x : α}
    (hx : x ∈ listed.take limit) {r : α} (hr : r ∈ listed) (hnot : r ∉ listed.take limit) :
    key r < key x := by
  have hsplit : Descending key (listed.take limit ++ listed.drop limit) := by
    rwa [List.take_append_drop]
  have hdrop : r ∈ listed.drop limit := by
    rw [← List.take_append_drop limit listed] at hr
    exact (List.mem_append.mp hr).resolve_left hnot
  exact (List.pairwise_append.mp hsplit).2.2 x hx r hdrop

/-- **No row is missed**: a key that every listing of the walk has comes on one of its pages. -/
theorem walk_complete (hlimit : 1 ≤ limit) (henough : limit ≤ enough) (hmore : enough ≤ limit + 1)
    (c : Option K) (htables : ∀ rows ∈ tables, Descending key rows)
    (hends : Ends key limit enough c tables) {k : K} (hc : ∀ k' ∈ c, k < k')
    (hstays : ∀ rows ∈ tables.take (walk key limit enough c tables).length, k ∈ rows.map key) :
    k ∈ (walk key limit enough c tables).flatten.map key := by
  induction tables generalizing c with
  | nil => exact absurd hends id
  | cons rows tables ih =>
    obtain ⟨x, hx, hlast, hgo, hwalk⟩ | ⟨hstop, hwalk⟩ :=
      walk_cons hlimit henough key c rows tables
    · -- The walk goes on.
      rw [hwalk, List.length_cons, List.take_succ_cons] at hstays
      obtain ⟨r, hr, rfl⟩ := List.mem_map.mp (hstays rows List.mem_cons_self)
      have hlisted : r ∈ left key c rows := mem_left.mpr ⟨hr, hc⟩
      rw [hwalk, List.flatten_cons, List.map_append, List.mem_append]
      by_cases hpage : r ∈ (left key c rows).take limit
      · -- The row stands on the page.
        exact .inl (List.mem_map_of_mem hpage)
      · -- Or below its last row, and the rest of the walk shows it.
        have hdesc : Descending key (left key c rows) :=
          (htables rows List.mem_cons_self).sublist (left_sublist key c rows)
        have hlt := hdesc.below_last hx hlisted hpage
        have hrest : Ends key limit enough (some (key x)) tables := by
          have hnext := hends hgo
          rwa [lastKey, hlast] at hnext
        refine .inr (ih (some (key x)) (fun rows' hrows' =>
          htables rows' (List.mem_cons_of_mem _ hrows')) hrest (fun k' hk' => ?_)
          fun rows' hrows' => hstays rows' (List.mem_cons_of_mem _ hrows'))
        rwa [← Option.mem_some_iff.mp hk']
    · -- The walk ends with a page that shows all that is left.
      rw [hwalk, List.length_singleton, List.take_succ_cons, List.take_zero] at hstays
      obtain ⟨r, hr, rfl⟩ := List.mem_map.mp (hstays rows List.mem_cons_self)
      have hlisted : r ∈ left key c rows := mem_left.mpr ⟨hr, hc⟩
      rw [hwalk, List.flatten_singleton, List.take_of_length_le (by omega)]
      exact List.mem_map_of_mem hlisted

/-! ### A listing in another order -/

/-- The rows after a place in the listing are those with a smaller key than the one there. -/
def PartsAt (key : α → K) (listing : List α) (i : ℕ) : Prop :=
  ∀ x ∈ listing[i]?, (∀ r ∈ listing.take (i + 1), key x ≤ key r) ∧
    ∀ r ∈ listing.drop (i + 1), key r < key x

instance (listing : List α) (i : ℕ) : Decidable (PartsAt key listing i) :=
  inferInstanceAs (Decidable (∀ x ∈ listing[i]?, _ ∧ _))

/-- The listing parts wherever a page ends that is followed by another. -/
def Aligned (key : α → K) (limit enough : ℕ) (listing : List α) : Prop :=
  ∀ i < listing.length, limit ∣ i + 1 → i + 1 + enough ≤ listing.length + limit →
    PartsAt key listing i

instance (listing : List α) : Decidable (Aligned key limit enough listing) :=
  inferInstanceAs (Decidable (∀ i < listing.length, _ → _ → PartsAt key listing i))

lemma partsAt_append {front rest : List α} {x : α} :
    PartsAt key (front ++ x :: rest) front.length ↔
      (∀ r ∈ front ++ [x], key x ≤ key r) ∧ ∀ r ∈ rest, key r < key x := by
  have hget : (front ++ x :: rest)[front.length]? = some x := by simp
  have htake : (front ++ x :: rest).take (front.length + 1) = front ++ [x] := by
    rw [List.take_append, List.take_of_length_le (Nat.le_succ _)]
    simp
  have hdrop : (front ++ x :: rest).drop (front.length + 1) = rest := by simp
  rw [PartsAt, hget, htake, hdrop]
  simp only [Option.mem_def, Option.some.injEq, forall_eq']

lemma Descending.aligned {listing : List α} (h : Descending key listing) :
    Aligned key limit enough listing := by
  intro i _ _ _ x hx
  have hsplit : Descending key (listing.take (i + 1) ++ listing.drop (i + 1)) := by
    rwa [List.take_append_drop]
  obtain ⟨hfront, -, hacross⟩ := List.pairwise_append.mp hsplit
  have hlast : (listing.take (i + 1)).getLast? = some x := by
    rw [List.getLast?_take, if_neg (Nat.succ_ne_zero i), Nat.add_sub_cancel,
      Option.mem_def.mp hx, Option.some_or]
  exact ⟨Descending.last_le hfront hlast, fun r hr => hacross x (List.mem_of_getLast? hlast) r hr⟩

lemma dvd_step {m a b : ℕ} (ha : m ∣ a) (hb : m ∣ b) (h : a < b) : a + m ≤ b := by
  have hle := Nat.le_of_dvd (Nat.sub_pos_of_lt h) (Nat.dvd_sub hb ha)
  omega

lemma left_eq_of_split {front rest : List α} {k : K} (hfront : ∀ r ∈ front, k ≤ key r)
    (hrest : ∀ r ∈ rest, key r < k) : left key (some k) (front ++ rest) = rest := by
  have hnone : front.filter (fun r => ∀ k' ∈ some k, key r < k') = [] :=
    List.filter_eq_nil_iff.mpr fun r hr => by simpa using hfront r hr
  have hall : rest.filter (fun r => ∀ k' ∈ some k, key r < k') = rest :=
    List.filter_eq_self.mpr fun r hr => by simpa using hrest r hr
  rw [left, List.filter_append, hnone, hall, List.nil_append]

/-- A cursor that leaves something else shows a row again, or loses one. -/
lemma not_perm_of_misaligned (hlimit : 1 ≤ limit) (henough : limit ≤ enough)
    {front rest : List α} {x : α} (hnodup : (front ++ rest).Nodup) {n : ℕ}
    (hbad : ¬ ((∀ r ∈ front, key x ≤ key r) ∧ ∀ r ∈ rest, key r < key x)) :
    ¬ (walk key limit enough (some (key x))
      (List.replicate (n + 1) (front ++ rest))).flatten.Perm rest := by
  intro hperm
  by_cases hfront : ∀ r ∈ front, key x ≤ key r
  · -- A row that the cursor drops stays away.
    refine hbad ⟨hfront, fun r hr => ?_⟩
    exact walk_below hlimit henough (some (key x)) _ r (hperm.mem_iff.mpr hr) (key x) rfl
  · -- The next page begins with a row that was shown.
    obtain ⟨r, hr, hlt⟩ : ∃ r ∈ front, key r < key x := by
      simpa only [not_forall, not_le, exists_prop] using hfront
    have hsplit : left key (some (key x)) (front ++ rest) =
        left key (some (key x)) front ++ left key (some (key x)) rest := List.filter_append ..
    obtain ⟨y, shown, hshown⟩ : ∃ y shown, left key (some (key x)) front = y :: shown :=
      List.exists_cons_of_ne_nil (List.ne_nil_of_mem (mem_left.mpr ⟨hr, by simpa using hlt⟩))
    have hy : y ∈ front := (mem_left.mp (hshown ▸ List.mem_cons_self)).1
    have hpage : y ∈ (left key (some (key x)) (front ++ rest)).take limit := by
      rw [hsplit, hshown, List.cons_append, ← Nat.sub_add_cancel hlimit, List.take_succ_cons]
      exact List.mem_cons_self
    have hagain : y ∈ (walk key limit enough (some (key x))
        (List.replicate (n + 1) (front ++ rest))).flatten := by
      rw [List.replicate_succ]
      obtain ⟨_, _, _, _, hwalk⟩ | ⟨_, hwalk⟩ := walk_cons hlimit henough key (some (key x))
        (front ++ rest) (List.replicate n (front ++ rest))
      · rw [hwalk, List.flatten_cons]
        exact List.mem_append.mpr (.inl hpage)
      · rwa [hwalk, List.flatten_singleton]
    exact (List.disjoint_of_nodup_append hnodup) hy (hperm.mem_iff.mp hagain)

/-- The walk over the rest of a listing, once the pages before it were right. The induction is on
the requests; a page moves from the rest to the front. -/
lemma walk_rest_iff (hlimit : 1 ≤ limit) (henough : limit ≤ enough) (hmore : enough ≤ limit + 1)
    {listing : List α} (hnodup : listing.Nodup) (n : ℕ) : ∀ (front rest : List α) (c : Option K),
      front ++ rest = listing → left key c listing = rest → rest.length < n →
      limit ∣ front.length →
      ((walk key limit enough c (List.replicate n listing)).flatten.Perm rest ↔
        ∀ i < listing.length, front.length ≤ i → limit ∣ i + 1 →
          i + 1 + enough ≤ listing.length + limit → PartsAt key listing i) := by
  induction n with
  | zero => exact fun front rest c _ _ hn => absurd hn (Nat.not_lt_zero _)
  | succ n ih =>
    intro front rest c hlisting hleft hn hdvd
    have hlength : front.length + rest.length = listing.length := by
      rw [← hlisting, List.length_append]
    rw [List.replicate_succ]
    obtain ⟨x, _, hlast, hgo, hwalk⟩ | ⟨hstop, hwalk⟩ :=
      walk_cons hlimit henough key c listing (List.replicate n listing)
    · -- The page is full, and the walk goes on from its last row.
      rw [hleft] at hlast hgo hwalk
      obtain ⟨shown, hshown⟩ := List.getLast?_eq_some_iff.mp hlast
      have hpage : (shown ++ [x]).length = limit := by
        rw [← hshown, List.length_take]
        omega
      obtain ⟨after, rfl⟩ : ∃ after, rest = shown ++ [x] ++ after :=
        ⟨rest.drop limit, by rw [← hshown, List.take_append_drop]⟩
      have hfront : listing = (front ++ shown) ++ x :: after := by
        rw [← hlisting]
        simp
      have hplace : (front ++ shown).length + 1 = front.length + limit := by
        rw [List.length_append, ← hpage, List.length_append]
        rfl
      have hparts : PartsAt key (front ++ shown ++ x :: after) (front ++ shown).length ↔
          (∀ r ∈ front ++ shown ++ [x], key x ≤ key r) ∧ ∀ r ∈ after, key r < key x :=
        partsAt_append
      rw [← hfront] at hparts
      have hsplit : front ++ shown ++ [x] ++ after = listing := by
        rw [hfront]
        simp
      rw [hwalk, List.flatten_cons, hshown, List.perm_append_left_iff]
      rw [List.length_append, hpage] at hlength hn hgo
      -- The listing parts there, so the cursor leaves what follows the page.
      by_cases hgood : PartsAt key listing (front ++ shown).length
      · have hnext : left key (some (key x)) listing = after := by
          obtain ⟨hbefore, hafter⟩ := hparts.mp hgood
          rw [← hsplit]
          exact left_eq_of_split hbefore hafter
        have hfrontLength : (front ++ shown ++ [x]).length = front.length + limit := by
          rw [List.length_append, List.length_singleton, hplace]
        refine (ih (front ++ shown ++ [x]) after (some (key x)) hsplit hnext (by omega)
          (hfrontLength ▸ (Nat.dvd_add_self_right.mpr hdvd))).trans ?_
        rw [hfrontLength]
        constructor
        · intro h i hi hle hidvd hroom
          rcases Nat.lt_or_ge i (front.length + limit) with hlt | hge
          · have hstep := dvd_step hdvd hidvd (by omega)
            obtain rfl : i = (front ++ shown).length := by omega
            exact hgood
          · exact h i hi hge hidvd hroom
        · exact fun h i hi hge => h i hi (by omega)
      · -- It does not, and rows are shown again or lost.
        obtain ⟨m, rfl⟩ : ∃ m, n = m + 1 := Nat.exists_eq_add_one.mpr (by omega)
        have hbad := mt hparts.mpr hgood
        rw [← hsplit] at hnodup
        constructor
        · intro hperm
          rw [← hsplit] at hperm
          exact absurd hperm (not_perm_of_misaligned hlimit henough hnodup hbad)
        · intro h
          refine absurd (h _ (by omega) (by rw [List.length_append]; omega) ?_ (by omega)) hgood
          rw [hplace]
          exact Nat.dvd_add_self_right.mpr hdvd
    · -- The page is the last one.
      rw [hleft] at hstop hwalk
      rw [hwalk, List.flatten_singleton, List.take_of_length_le (by omega)]
      refine iff_of_true (List.Perm.refl rest) fun i _ hle hidvd hroom => ?_
      have hstep := dvd_step hdvd hidvd (by omega)
      omega

/-- **What an order of its own does to a walk**: it returns every row exactly once just when the
listing parts wherever a page ends. -/
theorem walk_perm_iff (hlimit : 1 ≤ limit) (henough : limit ≤ enough) (hmore : enough ≤ limit + 1)
    {listing : List α} (hnodup : listing.Nodup) {n : ℕ} (hn : listing.length < n) :
    (walk key limit enough none (List.replicate n listing)).flatten.Perm listing ↔
      Aligned key limit enough listing := by
  have hleft : left key none listing = listing := List.filter_eq_self.mpr (by simp)
  have hrest := walk_rest_iff hlimit henough hmore hnodup n [] listing none rfl hleft hn
    (Nat.dvd_zero limit)
  simpa [Aligned] using hrest

end SchoolOs.Keysets
