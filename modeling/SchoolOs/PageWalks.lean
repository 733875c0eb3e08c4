import Mathlib.Data.Prod.Lex
import Mathlib.Data.String.Basic
import SchoolOs.Cursors
import SchoolOs.Keyed
import SchoolOs.Keysets

/-!
Walks over the pages of a listing: each page is asked for with the cursor of the page before, until
there is no more. A walk over the code's pages is a walk over the keys `(created_at, id)`, so that
it misses no row and shows none twice.
-/

namespace SchoolOs

open Keysets

/-! ### The order of the keys -/

/-- The database compares ids by a strict total order. -/
class Paging.Ordered (pg : Paging) : Prop where
  irrefl : ∀ a, pg.idBefore a a = false
  trans : ∀ a b c, pg.idBefore a b = true → pg.idBefore b c = true → pg.idBefore a c = true
  trichotomous : ∀ a b, pg.idBefore a b = false → pg.idBefore b a = false → a = b

/-- An id, as the database orders it. -/
structure IdKey (pg : Paging) where
  text : String

variable {pg : Paging}

lemma IdKey.ext {a b : IdKey pg} (h : a.text = b.text) : a = b := by
  obtain ⟨a⟩ := a
  obtain ⟨b⟩ := b
  exact congrArg _ h

def IdKey.Before (a b : IdKey pg) : Prop := pg.idBefore a.text b.text = true

instance : DecidableRel (@IdKey.Before pg) := fun a b =>
  inferInstanceAs (Decidable (pg.idBefore a.text b.text = true))

instance [pg.Ordered] : IsStrictTotalOrder (IdKey pg) IdKey.Before where
  irrefl a h := by
    rw [IdKey.Before, Paging.Ordered.irrefl] at h
    cases h
  trans a b c := Paging.Ordered.trans a.text b.text c.text
  trichotomous a b hab hba :=
    IdKey.ext (Paging.Ordered.trichotomous _ _ (by simpa [IdKey.Before] using hab)
      (by simpa [IdKey.Before] using hba))

instance [pg.Ordered] : LinearOrder (IdKey pg) := linearOrderOfSTO IdKey.Before

instance : CursorEnv.plain.paging.Ordered where
  irrefl a := decide_eq_false (lt_irrefl a)
  trans a b c hab hbc := by
    have hlt := (of_decide_eq_true hab).trans (of_decide_eq_true hbc)
    exact decide_eq_true hlt
  trichotomous a b hab hba :=
    le_antisymm (not_lt.mp (of_decide_eq_false hba)) (not_lt.mp (of_decide_eq_false hab))

/-! ### Page after page -/

section Pages

variable {ρ : Type} {τ K : Type*}

/-- Page after page, each asked for with the cursor of the page before, as long as there is more.
Each request finds a table of its own. -/
def walkPages (ask : τ → Option String → Fallible (CursorPage ρ)) :
    Option String → List τ → Fallible (List (CursorPage ρ))
  | _, [] => return []
  | cursor, table :: tables => do
    let page ← ask table cursor
    if page.hasMore then do
      let pages ← walkPages ask page.nextCursor tables
      return page :: pages
    else return [page]

/-- The walk came to a page after which there is no more. -/
def Finished (pages : List (CursorPage ρ)) : Prop := ∃ page ∈ pages.getLast?, page.hasMore = false

/-- The rows that the pages of a walk show. -/
def rowsShown (pages : List (CursorPage ρ)) : List ρ := pages.flatMap CursorPage.items

variable {ask : τ → Option String → Fallible (CursorPage ρ)} {cursor : Option String}
  {tables : List τ} {pages : List (CursorPage ρ)}

lemma walkPages_asked (h : walkPages ask cursor tables = .ok pages) :
    List.Forall₂ (fun t page => ∃ cursor, ask t cursor = .ok page) (tables.take pages.length)
      pages := by
  induction tables generalizing cursor pages with
  | nil =>
    obtain rfl := pure_ok.mp h
    exact .nil
  | cons table tables ih =>
    obtain ⟨page, hpage, h⟩ := bind_ok.mp h
    split at h
    · obtain ⟨rest, hrest, h⟩ := bind_ok.mp h
      obtain rfl := pure_ok.mp h
      exact .cons ⟨cursor, hpage⟩ (ih hrest)
    · obtain rfl := pure_ok.mp h
      exact .cons ⟨cursor, hpage⟩ .nil

variable [LinearOrder K] (key : ρ → K) (limit enough : ℕ)
  (stands : Option String → Option K → Prop)

/-- The page of what a cursor leaves of a listing. -/
structure IsPage (listed : List ρ) (page : CursorPage ρ) : Prop where
  items : page.items = listed.take limit
  more : page.hasMore = true ↔ enough ≤ listed.length
  next : page.hasMore = true → stands page.nextCursor (lastKey key page.items)

/-- The pages are those of the walk over the keys. -/
structure WalksOver (c : Option K) (listings : List (List ρ)) (pages : List (CursorPage ρ)) :
    Prop where
  items : pages.map CursorPage.items = walk key limit enough c listings
  finished_iff : Finished pages ↔ Ends key limit enough c listings

variable {key limit enough stands} {c : Option K}

/-- **A walk over the pages is a walk over the keys**, when each request answers with the page of
what its cursor leaves; and no request fails. -/
theorem walkPages_walksOver (hlimit : 1 ≤ limit) (henough : limit ≤ enough) (listing : τ → List ρ)
    (hask : ∀ t ∈ tables, ∀ cursor c, stands cursor c → ∃ page, ask t cursor = .ok page ∧
      IsPage key limit enough stands (left key c (listing t)) page) (h : stands cursor c) :
    ∃ pages, walkPages ask cursor tables = .ok pages ∧
      WalksOver key limit enough c (tables.map listing) pages := by
  induction tables generalizing cursor c with
  | nil => exact ⟨[], rfl, rfl, by simp [Finished, Ends]⟩
  | cons t tables ih =>
    obtain ⟨page, hpage, hitems, hmore, hnext⟩ := hask t List.mem_cons_self cursor c h
    rw [walkPages, hpage, ok_bind, List.map_cons]
    obtain ⟨x, hx, hlast, hgo, hwalk⟩ | ⟨hstop, hwalk⟩ :=
      walk_cons hlimit henough key c (listing t) (tables.map listing)
    · -- The page names a cursor, and the walk goes on from its last row.
      have htrue := hmore.mpr hgo
      have hkey : lastKey key page.items = some (key x) := by
        rw [hitems, lastKey, hlast, Option.map_some]
      obtain ⟨pages, hpages, hrest, hends⟩ := ih
        (fun t' ht' => hask t' (List.mem_cons_of_mem _ ht')) (hkey ▸ hnext htrue)
      have hfinished : Finished (page :: pages) ↔ Finished pages := by
        cases pages with
        | nil => simp [Finished, htrue]
        | cons _ _ => rw [Finished, List.getLast?_cons_cons, Finished]
      refine ⟨page :: pages, ?_, ?_, ?_⟩
      · rw [if_pos htrue, hpages]
        rfl
      · rw [hwalk, List.map_cons, hrest, hitems]
      · rw [hfinished, hends, Ends, lastKey, hlast]
        exact ⟨fun h _ => h, fun h => h hgo⟩
    · -- The page is the last one.
      have hfalse : page.hasMore = false :=
        Bool.eq_false_iff.mpr fun htrue => Nat.not_le.mpr hstop (hmore.mp htrue)
      refine ⟨[page], ?_, ?_, ?_⟩
      · rw [hfalse]
        rfl
      · rw [hwalk, List.map_singleton, hitems]
      · exact iff_of_true ⟨page, rfl, hfalse⟩ fun hgo => absurd hgo (Nat.not_le.mpr hstop)

/-- On data that does not change, the walk comes to an end, and shows every row exactly once just
when a condition holds. -/
def ExactWhen (ask : Option String → Fallible (CursorPage ρ)) (rows : List ρ) (holds : Prop) :
    Prop :=
  ∀ n, rows.length < n → ∃ pages, walkPages (fun _ : Unit => ask) none (List.replicate n ()) =
    .ok pages ∧ Finished pages ∧ ((rowsShown pages).Perm rows ↔ holds)

/-- **A list is walked exactly** when it parts at the cursor wherever a page ends. -/
theorem exactWhen_aligned (hlimit : 1 ≤ limit) (henough : limit ≤ enough)
    (hmore : enough ≤ limit + 1) {ask : Option String → Fallible (CursorPage ρ)}
    {rows listing : List ρ} (hperm : listing.Perm rows) (hnodup : rows.Nodup)
    (hask : ∀ cursor c, stands cursor c → ∃ page, ask cursor = .ok page ∧
      IsPage key limit enough stands (left key c listing) page) (h : stands none none) :
    ExactWhen ask rows (Aligned key limit enough listing) := by
  intro n hn
  obtain ⟨pages, hpages, hitems, hfinished⟩ := walkPages_walksOver hlimit henough
    (fun _ : Unit => listing) (fun _ _ => hask) h
  rw [List.map_replicate] at hitems hfinished
  have hleft : left key none listing = listing := List.filter_eq_self.mpr (by simp)
  have hlength : listing.length < n := hperm.length_eq ▸ hn
  refine ⟨pages, hpages, hfinished.mpr ?_, ?_⟩
  · exact ends_replicate hlimit henough n none (hleft.symm ▸ hlength)
  · rw [← hperm.congr_right, rowsShown, List.flatMap_def, hitems]
    exact walk_perm_iff hlimit henough hmore (hperm.nodup_iff.mpr hnodup) hlength

end Pages

section Walk

variable {ρ : Type} (pg : Paging) (createdAt : ρ → Instant) (id : ρ → Ulid)

/-- The key of a row, that its cursor carries. -/
def keyOf (r : ρ) : Instant ×ₗ IdKey pg := toLex (createdAt r, ⟨(id r).text⟩)

variable {pg createdAt id} in
lemma precedes_iff [pg.Ordered] {r : ρ} {time : Instant} {text : String} :
    precedes pg createdAt id r (time, text) = true ↔
      keyOf pg createdAt id r < toLex (time, (⟨text⟩ : IdKey pg)) := by
  rw [precedes, decide_eq_true_eq, keyOf, Prod.Lex.toLex_lt_toLex]
  rfl

variable {pg createdAt id} in
lemma newer_iff [pg.Ordered] {a b : ρ} :
    Newer pg createdAt id a b ↔ keyOf pg createdAt id b ≤ keyOf pg createdAt id a := by
  rw [Newer, Bool.eq_false_iff, ne_eq, precedes_iff, not_lt]
  rfl

instance [pg.Ordered] : Std.Total (Newer pg createdAt id) where
  total a b := by
    rw [newer_iff, newer_iff]
    exact le_total _ _

instance [pg.Ordered] : IsTrans ρ (Newer pg createdAt id) where
  trans a b c hab hbc := by
    rw [newer_iff] at *
    exact hbc.trans hab

/-- The cursor of the row leads back to its key. -/
def RoundTrips (r : ρ) : Prop :=
  pg.encodeCursor (createdAt r) (id r) ≠ "" ∧
    pg.decodeCursor (pg.encodeCursor (createdAt r) (id r)) = some (createdAt r, (id r).text)

variable {createdAt id} in
/-- The cursor of a row is read back as its key. -/
theorem CursorEnv.roundTrips (env : CursorEnv) {r : ρ}
    (h : Instant.utcDate (createdAt r) ≤ Date.max) : RoundTrips env.paging createdAt id r :=
  ⟨encodeCursor_ne_empty _ _, paging_decodeCursor env h (id r)⟩

/-! ### One page -/

/-- `paginate_cursor` of a statement with an order of its own, which comes before that of the
keys. -/
def paginateOrdered (before : ρ → ρ → Prop) [DecidableRel before] (rows : List ρ)
    (params : CursorParams) : Fallible (CursorPage ρ) := do
  let rows ← afterCursor pg createdAt id rows params.cursor
  let rows := (rows.insertionSort before).take (params.limit + 1)
  let items := rows.take params.limit
  let hasMore : Bool := params.limit < rows.length
  let nextCursor := if hasMore then items.getLast?.map fun r => pg.encodeCursor (createdAt r) (id r)
    else none
  return ⟨items, nextCursor, hasMore⟩

/-- The cursor stands for the key, or both are not there. -/
def Stands (cursor : Option String) (c : Option (Instant ×ₗ IdKey pg)) : Prop :=
  (cursor = none ∧ c = none) ∨
    ∃ r, RoundTrips pg createdAt id r ∧ cursor = some (pg.encodeCursor (createdAt r) (id r)) ∧
      c = some (keyOf pg createdAt id r)

variable {pg createdAt id} {cursor : Option String} {c : Option (Instant ×ₗ IdKey pg)}
  {rows : List ρ}

lemma afterCursor_stands [pg.Ordered] (h : Stands pg createdAt id cursor c) :
    afterCursor pg createdAt id rows cursor =
      .ok (left (keyOf pg createdAt id) c rows) := by
  obtain ⟨rfl, rfl⟩ | ⟨r, ⟨hne, hdecode⟩, rfl, rfl⟩ := h
  · have hall : left (keyOf pg createdAt id) none rows = rows :=
      List.filter_eq_self.mpr (by simp)
    rw [hall]
    rfl
  · rw [afterCursor, if_neg hne, hdecode, found, ok_bind]
    dsimp only
    rw [bindUlid_text, ok_bind]
    refine congrArg Except.ok (List.filter_congr fun r' _ => ?_)
    rw [Bool.eq_iff_iff, precedes_iff]
    simp [keyOf]

/-- **A page is cut off what its cursor leaves** of the sorted listing. -/
theorem paginateOrdered_ok [pg.Ordered] {before : ρ → ρ → Prop} [DecidableRel before]
    [Std.Total before] [IsTrans ρ before] {limit : ℕ} (hlimit : 1 ≤ limit ∧ limit ≤ maxPageSize)
    (hrows : Distinguished before rows) (hcursors : ∀ r ∈ rows, RoundTrips pg createdAt id r)
    (h : Stands pg createdAt id cursor c) :
    ∃ page, paginateOrdered pg createdAt id before rows ⟨limit, cursor, hlimit⟩ = .ok page ∧
      IsPage (keyOf pg createdAt id) limit (limit + 1) (Stands pg createdAt id)
        (left (keyOf pg createdAt id) c (rows.insertionSort before)) page := by
  rw [paginateOrdered, afterCursor_stands h, ok_bind, left_insertionSort hrows]
  set listed := left (keyOf pg createdAt id) c (rows.insertionSort before) with hlisted
  have htake : (listed.take (limit + 1)).take limit = listed.take limit := by
    rw [List.take_take, Nat.min_eq_left (Nat.le_succ _)]
  have hmore : limit < (listed.take (limit + 1)).length ↔ limit + 1 ≤ listed.length := by
    rw [List.length_take]
    omega
  refine ⟨_, rfl, htake, decide_eq_true_iff.trans hmore, fun hgo => ?_⟩
  obtain ⟨x, hx, hlast⟩ := exists_last hlimit.1 (Nat.le_succ limit)
    (hmore.mp (of_decide_eq_true hgo))
  have hmem : x ∈ rows := (List.mem_insertionSort before).mp
    (mem_left.mp (List.mem_of_mem_take hx)).1
  refine .inr ⟨x, hcursors x hmem, ?_, ?_⟩
  · dsimp only at hgo ⊢
    rw [if_pos hgo, htake, hlast, Option.map_some]
  · rw [lastKey, htake, hlast, Option.map_some]

lemma paginateOrdered_cursor {before : ρ → ρ → Prop} [DecidableRel before] {params : CursorParams}
    {page : CursorPage ρ} (h : paginateOrdered pg createdAt id before rows params = .ok page) :
    page.nextCursor.isSome = page.hasMore := by
  obtain ⟨kept, _, h⟩ := bind_ok.mp h
  obtain rfl := pure_ok.mp h
  dsimp only
  split
  · next hmore =>
    have hlength := of_decide_eq_true hmore
    obtain ⟨x, _, hlast⟩ := exists_last params.limit_range.1 le_rfl hlength.le
    rw [hlast, hmore]
    rfl
  · next hmore => rw [Bool.eq_false_iff.mpr hmore, Option.isSome_none]

/-! ### In the order of the keys -/

lemma keyOf_inj [pg.Ordered] {a b : ρ}
    (h : keyOf pg createdAt id a = keyOf pg createdAt id b) : id a = id b := by
  have hsnd := congrArg (fun k => (ofLex k).2.text) h
  exact Ulid.text_inj.mp hsnd

lemma distinguished_newer [pg.Ordered] (hids : ∀ a ∈ rows, ∀ b ∈ rows, id a = id b → a = b) :
    Distinguished (Newer pg createdAt id) rows := by
  intro a ha b hb hab hba
  rw [newer_iff] at hab hba
  exact hids a ha b hb (keyOf_inj (le_antisymm hba hab))

lemma descending_sorted [pg.Ordered] (hids : ∀ a ∈ rows, ∀ b ∈ rows, id a = id b → a = b)
    (hnodup : rows.Nodup) : Descending (keyOf pg createdAt id)
      (rows.insertionSort (Newer pg createdAt id)) := by
  have hsorted := List.pairwise_insertionSort (Newer pg createdAt id) rows
  have hdistinct : (rows.insertionSort (Newer pg createdAt id)).Nodup :=
    (List.perm_insertionSort _ rows).nodup_iff.mpr hnodup
  refine (hsorted.and hdistinct).imp_of_mem fun ha hb h => ?_
  refine lt_of_le_of_ne (newer_iff.mp h.1) fun heq => h.2 ?_
  exact hids _ ((List.mem_insertionSort _).mp ha) _ ((List.mem_insertionSort _).mp hb)
    (keyOf_inj heq.symm)

variable (pg createdAt id) in
/-- What a walk over changing tables shows of the rows that meet a condition: strictly newest
first, none twice, and none missed that was there throughout, once there is no more. -/
structure Complete (p : ρ → Bool) (tables : List (Table id)) (pages : List (CursorPage ρ)) :
    Prop where
  asked : List.Forall₂ (fun t page => page.nextCursor.isSome = page.hasMore ∧
    ∀ r ∈ page.items, r ∈ t ∧ p r = true) (tables.take pages.length) pages
  descending : (rowsShown pages).Pairwise fun a b =>
    precedes pg createdAt id b (createdAt a, (id a).text) = true
  nodup : ((rowsShown pages).map id).Nodup
  once : Finished pages → ∀ u : Ulid,
    (∀ t ∈ tables.take pages.length, ∃ r ∈ t, p r = true ∧ id r = u) →
      ((rowsShown pages).map id).count u = 1

/-- **Cursor pagination is complete and stable**: for all tables that the requests find, whatever
was inserted and deleted between them. -/
theorem cursorWalk_complete [pg.Ordered] (p : ρ → Bool) (limit : ℕ)
    (hlimit : 1 ≤ limit ∧ limit ≤ maxPageSize) (tables : List (Table id))
    (hcreated : ∀ t ∈ tables, ∀ t' ∈ tables, ∀ r ∈ t, ∀ r' ∈ t', id r = id r' →
      createdAt r = createdAt r')
    (hcursors : ∀ t ∈ tables, ∀ r ∈ t, RoundTrips pg createdAt id r) :
    ∃ pages, walkPages (fun t cursor =>
        paginateCursor pg createdAt id (t.rows.filter p) ⟨limit, cursor, hlimit⟩) none tables =
          .ok pages ∧ Complete pg createdAt id p tables pages := by
  have hids : ∀ t : Table id, ∀ a ∈ t.rows.filter p, ∀ b ∈ t.rows.filter p, id a = id b → a = b :=
    fun t a ha b hb => Table.eq_of_key (List.mem_of_mem_filter ha) (List.mem_of_mem_filter hb)
  obtain ⟨pages, hpages, hitems, hends⟩ := walkPages_walksOver hlimit.1 (Nat.le_succ limit)
    (fun t : Table id => (t.rows.filter p).insertionSort (Newer pg createdAt id))
    (fun t ht _ _ h => paginateOrdered_ok hlimit (distinguished_newer (hids t))
      (fun r hr => hcursors t ht r (List.mem_of_mem_filter hr)) h) (.inl ⟨rfl, rfl⟩)
  have hshown : rowsShown pages = (walk (keyOf pg createdAt id) limit (limit + 1) none
      (tables.map fun t => (t.rows.filter p).insertionSort (Newer pg createdAt id))).flatten := by
    rw [← hitems, rowsShown, List.flatMap_def]
  have hlistings : ∀ rows ∈ tables.map (fun t : Table id =>
      (t.rows.filter p).insertionSort (Newer pg createdAt id)),
        Descending (keyOf pg createdAt id) rows :=
    List.forall_mem_map.mpr fun t _ =>
      descending_sorted (hids t) ((List.Nodup.of_map id t.keys).filter p)
  have hdescending : Descending (keyOf pg createdAt id) (rowsShown pages) := by
    rw [hshown]
    exact walk_descending hlimit.1 (Nat.le_succ limit) none hlistings
  have hfrom : ∀ r ∈ rowsShown pages, ∃ t ∈ tables, r ∈ t := by
    intro r hr
    rw [hshown] at hr
    obtain ⟨_, hrows, hr⟩ := mem_of_mem_walk hlimit.1 (Nat.le_succ limit) r hr
    obtain ⟨t, ht, rfl⟩ := List.mem_map.mp hrows
    exact ⟨t, ht, List.mem_of_mem_filter ((List.mem_insertionSort _).mp hr)⟩
  have hnodup : ((rowsShown pages).map id).Nodup := by
    refine List.pairwise_map.mpr (hdescending.imp_of_mem fun {a b} ha hb hlt heq => ?_)
    obtain ⟨t, ht, ha⟩ := hfrom a ha
    obtain ⟨t', ht', hb⟩ := hfrom b hb
    have htime := hcreated t ht t' ht' a ha b hb heq
    rw [keyOf, keyOf, htime, heq] at hlt
    exact lt_irrefl _ hlt
  refine ⟨pages, hpages, ?_, ?_, hnodup, fun hdone u hu => ?_⟩
  · refine (walkPages_asked hpages).imp fun t page ⟨_, hpage⟩ =>
      ⟨paginateOrdered_cursor hpage, fun r hr => ?_⟩
    exact List.mem_filter.mp (mem_of_mem_page hpage hr)
  · exact hdescending.imp fun h => precedes_iff.mpr h
  · -- The key of the row is in every listing of the walk.
    have hlength : pages.length = (walk (keyOf pg createdAt id) limit (limit + 1) none
        (tables.map fun t =>
          (t.rows.filter p).insertionSort (Newer pg createdAt id))).length := by
      rw [← hitems, List.length_map]
    obtain ⟨t₀, ht₀⟩ : ∃ t, t ∈ tables.take pages.length := by
      refine List.exists_mem_of_ne_nil _ fun hnil => ?_
      obtain ⟨page, hpage, _⟩ := hdone
      rcases List.take_eq_nil_iff.mp hnil with hzero | hnil
      · rw [List.length_eq_zero_iff.mp hzero] at hpage
        cases hpage
      · rw [hnil, walkPages] at hpages
        obtain rfl := pure_ok.mp hpages
        cases hpage
    obtain ⟨r₀, hr₀, _, rfl⟩ := hu t₀ ht₀
    have hstays : ∀ rows ∈ (tables.map fun t : Table id =>
        (t.rows.filter p).insertionSort (Newer pg createdAt id)).take pages.length,
          keyOf pg createdAt id r₀ ∈ rows.map (keyOf pg createdAt id) := by
      rw [← List.map_take]
      refine List.forall_mem_map.mpr fun t ht => ?_
      obtain ⟨r, hr, hp, hid⟩ := hu t ht
      have htime := hcreated t (List.mem_of_mem_take ht) t₀ (List.mem_of_mem_take ht₀) r hr r₀ hr₀
        hid
      have hlisted : r ∈ (t.rows.filter p).insertionSort (Newer pg createdAt id) :=
        (List.mem_insertionSort _).mpr (List.mem_filter.mpr ⟨hr, hp⟩)
      refine List.mem_map.mpr ⟨r, hlisted, ?_⟩
      rw [keyOf, keyOf, htime, hid]
    have hfound := walk_complete hlimit.1 (Nat.le_succ limit) le_rfl none hlistings (hends.mp hdone)
      (k := keyOf pg createdAt id r₀) (by simp) (hlength ▸ hstays)
    rw [← hshown] at hfound
    obtain ⟨r, hr, hkey⟩ := List.mem_map.mp hfound
    exact List.count_eq_one_of_mem hnodup (List.mem_map.mpr ⟨r, hr, keyOf_inj hkey⟩)

/-- On data that does not change, the pages show every row exactly once. -/
theorem paginateCursor_exact [pg.Ordered] {limit : ℕ} (hlimit : 1 ≤ limit ∧ limit ≤ maxPageSize)
    (hids : ∀ a ∈ rows, ∀ b ∈ rows, id a = id b → a = b) (hnodup : rows.Nodup)
    (hcursors : ∀ r ∈ rows, RoundTrips pg createdAt id r) :
    ExactWhen (fun cursor => paginateCursor pg createdAt id rows ⟨limit, cursor, hlimit⟩) rows
      True := by
  have hsorted : Descending (keyOf pg createdAt id) (rows.insertionSort (Newer pg createdAt id)) :=
    descending_sorted hids hnodup
  have hwalk : ExactWhen
      (fun cursor => paginateCursor pg createdAt id rows ⟨limit, cursor, hlimit⟩) rows
      (Aligned (keyOf pg createdAt id) limit (limit + 1)
        (rows.insertionSort (Newer pg createdAt id))) :=
    exactWhen_aligned hlimit.1 (Nat.le_succ limit) le_rfl (List.perm_insertionSort _ rows) hnodup
      (fun _ _ => paginateOrdered_ok hlimit (distinguished_newer hids) hcursors) (.inl ⟨rfl, rfl⟩)
  intro n hn
  obtain ⟨pages, hpages, hfinished, hexact⟩ := hwalk n hn
  exact ⟨pages, hpages, hfinished, iff_of_true (hexact.mpr hsorted.aligned) trivial⟩

end Walk

/-- Rows that are no more than their keys, two of them of one time. -/
def sameTimeRows : Table (Prod.snd : Instant × Ulid → Ulid) :=
  ⟨[(3, 1), (7, 2), (7, 3)], by decide⟩

/-- With a row that is newer. -/
def newerRows : Table (Prod.snd : Instant × Ulid → Ulid) :=
  ⟨[(3, 1), (7, 2), (7, 3), (9, 4)], by decide⟩

/-- The new row comes before the second page is asked for. -/
theorem growingWalk_complete :
    ∃ pages, walkPages (fun t : Table (Prod.snd : Instant × Ulid → Ulid) => fun cursor =>
        paginateCursor CursorEnv.plain.paging Prod.fst Prod.snd (t.rows.filter fun _ => true)
          ⟨2, cursor, by decide⟩) none [sameTimeRows, newerRows] = .ok pages ∧
      Complete CursorEnv.plain.paging Prod.fst Prod.snd (fun _ => true)
        [sameTimeRows, newerRows] pages := by
  have hyears : ∀ t ∈ [sameTimeRows, newerRows], ∀ r ∈ t, Instant.utcDate r.1 ≤ Date.max := by
    decide
  exact cursorWalk_complete (fun _ => true) 2 (by decide) [sameTimeRows, newerRows] (by decide)
    fun t ht r hr => CursorEnv.plain.roundTrips (hyears t ht r hr)

end SchoolOs
