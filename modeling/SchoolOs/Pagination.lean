import Mathlib.Data.List.Sort
import SchoolOs.Models

/-!
Keyset pagination: a page of the rows of a query after a cursor, newest first.
-/

namespace SchoolOs

def maxPageSize : ℕ := 100

structure CursorParams where
  limit : ℕ
  cursor : Option String
  limit_range : 1 ≤ limit ∧ limit ≤ maxPageSize

structure CursorPage (ρ : Type) where
  items : List ρ
  nextCursor : Option String
  hasMore : Bool
  deriving DecidableEq

def CursorPage.empty {ρ : Type} : CursorPage ρ := ⟨[], none, false⟩

/-- What paging takes from its libraries: base64 over JSON for the cursors, `str.upper`, and the
order in which the database compares ids. -/
structure Paging where
  encodeCursor : Instant → Ulid → String
  decodeCursor : String → Option (Instant × String)
  upper : String → String
  upper_text : ∀ u : Ulid, upper u.text = u.text
  idBefore : String → String → Bool

def Paging.plain : Paging where
  encodeCursor _ id := id.text
  decodeCursor _ := none
  upper s := String.ofList (s.toList.map Char.toUpper)
  upper_text u := by
    have hfix : ∀ c ∈ alphabet, c.toUpper = c := by simp [alphabet]
    have hmap : u.text.toList.map Char.toUpper = u.text.toList := by
      conv_rhs => rw [← List.map_id u.text.toList]
      exact List.map_congr_left fun c hc => hfix c (Ulid.mem_text hc)
    rw [hmap, String.ofList_toList]
  idBefore a b := a < b

/-- What the column type of ids makes of a text: it reads any letter case, and raises on another
length. -/
def bindUlid (pg : Paging) (value : String) : Fallible String := do
  let value := pg.upper value
  ensure (value.length = 26 ∧ bindable value = true) internalError
  return value

lemma bindUlid_text (pg : Paging) (u : Ulid) : bindUlid pg u.text = .ok u.text := by
  have hlength : u.text.length = 26 := u.length_text
  have hnul : '\x00' ∉ alphabet := by decide
  have hbindable : bindable u.text = true := by
    simpa [bindable] using fun h => hnul (Ulid.mem_text h)
  simp [bindUlid, pg.upper_text, hlength, hbindable, ensure]

section Paginate

variable {ρ : Type} (pg : Paging) (createdAt : ρ → Instant) (id : ρ → Ulid)

/-- Whether a row comes before a key in `(created_at, id)`. -/
def precedes (r : ρ) (key : Instant × String) : Bool :=
  createdAt r < key.1 ∨ (createdAt r = key.1 ∧ pg.idBefore (id r).text key.2 = true)

/-- The order of a page: newest first. -/
def Newer (a b : ρ) : Prop := precedes pg createdAt id a (createdAt b, (id b).text) = false

instance : DecidableRel (Newer pg createdAt id) := fun a b =>
  inferInstanceAs (Decidable (precedes pg createdAt id a (createdAt b, (id b).text) = false))

/-- The rows that the cursor leaves. The empty cursor is none. -/
def afterCursor (rows : List ρ) : Option String → Fallible (List ρ)
  | none => return rows
  | some cursor =>
    if cursor = "" then return rows
    else do
      let (time, rowId) ← found (pg.decodeCursor cursor)
        (invalidRequestError "Malformed pagination cursor.")
      let rowId ← bindUlid pg rowId
      return rows.filter fun r => precedes pg createdAt id r (time, rowId)

/-- `paginate_cursor`: one row more than the page is read, to know whether there is another. -/
def paginateCursor (rows : List ρ) (params : CursorParams) : Fallible (CursorPage ρ) := do
  let rows ← afterCursor pg createdAt id rows params.cursor
  let rows := (rows.insertionSort (Newer pg createdAt id)).take (params.limit + 1)
  let items := rows.take params.limit
  let hasMore : Bool := params.limit < rows.length
  let nextCursor := if hasMore then items.getLast?.map fun r => pg.encodeCursor (createdAt r) (id r)
    else none
  return ⟨items, nextCursor, hasMore⟩

variable {pg createdAt id}

lemma mem_afterCursor {rows kept : List ρ} {cursor : Option String} {r : ρ}
    (h : afterCursor pg createdAt id rows cursor = .ok kept) (hr : r ∈ kept) : r ∈ rows := by
  cases cursor with
  | none =>
    obtain rfl := pure_ok.mp h
    exact hr
  | some cursor =>
    simp only [afterCursor] at h
    split at h
    · obtain rfl := pure_ok.mp h
      exact hr
    · obtain ⟨⟨time, rowId⟩, _, h⟩ := bind_ok.mp h
      obtain ⟨_, _, h⟩ := bind_ok.mp h
      obtain rfl := pure_ok.mp h
      exact List.mem_of_mem_filter hr

/-- **A page holds rows of its query**, whatever the cursor. -/
theorem mem_of_mem_page {rows : List ρ} {params : CursorParams} {page : CursorPage ρ} {r : ρ}
    (h : paginateCursor pg createdAt id rows params = .ok page) (hr : r ∈ page.items) :
    r ∈ rows := by
  obtain ⟨kept, hkept, h⟩ := bind_ok.mp h
  obtain rfl := pure_ok.mp h
  have hsorted := List.mem_of_mem_take (List.mem_of_mem_take hr)
  exact mem_afterCursor hkept ((List.mem_insertionSort _).mp hsorted)

lemma paginateCursor_single (r : ρ) (params : CursorParams) (h : params.cursor = none) :
    paginateCursor pg createdAt id [r] params = .ok ⟨[r], none, false⟩ := by
  have hpos : 1 ≤ params.limit := params.limit_range.1
  have htake : [r].take params.limit = [r] := List.take_of_length_le hpos
  have hnext : [r].take (params.limit + 1) = [r] := List.take_of_length_le (by simp)
  have hmore : ¬ params.limit < 1 := by omega
  simp [paginateCursor, afterCursor, h, htake, hnext, hmore]

end Paginate

end SchoolOs
