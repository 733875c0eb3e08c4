import SchoolOs.Base64
import SchoolOs.IsoTexts
import SchoolOs.JsonTexts
import SchoolOs.Pagination

/-!
The cursors that clients send: the base64 of a JSON text with a timestamp and an id. Which of them
are refused, which run the query, and which crash it; and that the cursor of a row is read back.
-/

namespace SchoolOs

open JsonTexts

/-- What a cursor takes from the interpreter, the driver and the database: how deep JSON may nest,
what `str` makes of numbers with a fraction and of containers, `str.upper`, the instant of a
timestamp in the zone of the server, and the order of ids. -/
structure CursorEnv where
  recursionLimit : ℕ
  reprOf : JsonValue → Option CodePoints
  upper : CodePoints → CodePoints
  localInstant : Date → ℕ → Option ℤ
  idBefore : String → String → Bool
  recursionLimit_pos : 1 ≤ recursionLimit
  upper_text : ∀ u : Ulid, upper (codes u.text.toList) = codes u.text.toList

/-- What holds of every character of a list, as a run over the list shows. -/
lemma of_all {P : Char → Prop} [DecidablePred P] {cs : List Char}
    (h : (cs.all fun c => decide (P c)) = true) {c : Char} (hc : c ∈ cs) : P c :=
  of_decide_eq_true (List.all_eq_true.mp h c hc)

/-- A server in UTC, and ids in the order of their characters. -/
def CursorEnv.plain : CursorEnv where
  recursionLimit := 1000
  reprOf
    | .float literal => some (codes literal)
    | _ => none
  upper s := s.map fun n => if 97 ≤ n ∧ n ≤ 122 then n - 32 else n
  localInstant date time := some (((date : ℤ) - 719163) * dayMicros + time)
  idBefore a b := a < b
  recursionLimit_pos := by decide
  upper_text u := by
    have hfix {c : Char} (hc : c ∈ alphabet) : ¬ (97 ≤ c.toNat ∧ c.toNat ≤ 122) :=
      of_all (P := fun c => ¬ (97 ≤ c.toNat ∧ c.toNat ≤ 122)) (by decide) hc
    rw [codes, List.map_map]
    exact List.map_congr_left fun c hc => if_neg (hfix (Ulid.mem_text hc))

/-! ### Texts -/

/-- The base64 of a JSON list of two strings. -/
def encodePair (a b : String) : String :=
  String.ofList (Base64.encode (String.ofList (dumpsPair a b)).toUTF8.data.toList)

def encodeCursor (createdAt : Instant) (rowId : Ulid) : String :=
  encodePair (Instant.isoFormat createdAt) rowId.text

/-- What an assignment to two names unpacks: a list, a text, or an object, by its keys. -/
def unpackPair : JsonValue → Option (JsonValue × JsonValue)
  | .arr [a, b] => some (a, b)
  | .str [a, b] => some (.str [a], .str [b])
  | .obj members =>
    match (members.map Prod.fst).eraseDups with
    | [a, b] => some (.str a, .str b)
    | _ => none
  | _ => none

/-- Half of a surrogate pair is no character, and may only stand where any character may. -/
def timestampOf : JsonValue → Option PyDatetime
  | .str s => PyDatetime.fromIsoFormat (s.map Char.ofNat)
  | _ => none

namespace CursorEnv

variable (env : CursorEnv)

/-- The JSON of a cursor. -/
def payload (cursor : String) : Except JsonTexts.Failure JsonValue :=
  if cursor.toList.all fun c => c.toNat < 128 then
    match Base64.decode cursor.toList with
    | none => .error .malformed
    | some raw =>
      match String.fromUTF8? ⟨raw.toArray⟩ with
      | none => .error .malformed
      | some text => loads env.recursionLimit text.toList
  else .error .malformed

/-- `str`, which may nest too deep. -/
def strOf : JsonValue → Option CodePoints
  | .null => some (codes "None".toList)
  | .bool b => some (codes (if b then "True" else "False").toList)
  | .int n => some (codes (toString n).toList)
  | .str s => some s
  | v => env.reprOf v

/-- Decode a cursor. A text that nests too deep raises what is not caught. -/
def decodeCursor (cursor : String) : Except JsonTexts.Failure (PyDatetime × CodePoints) := do
  let v ← env.payload cursor
  match unpackPair v with
  | none => throw .malformed
  | some (createdAtIso, rowId) =>
    match timestampOf createdAtIso with
    | none => throw .malformed
    | some createdAt =>
      match env.strOf rowId with
      | none => throw .tooDeep
      | some rowId => return (createdAt, rowId)

/-! ### Binding -/

/-- The instant of a timestamp, from 1970 on, unless it has none in the years 1 to 9999. -/
def instantOf (d : PyDatetime) : Option ℤ :=
  match d.offset with
  | none => env.localInstant d.date d.time
  | some offset =>
    let t : ℤ := ((d.date : ℤ) - 719163) * dayMicros + d.time - offset
    if (1 - 719163 : ℤ) * dayMicros ≤ t ∧ t < ((Date.max : ℤ) + 1 - 719163) * dayMicros then some t
    else none

/-- A text that the database takes: without NUL, and without half of a surrogate pair. -/
def encodable (s : CodePoints) : Bool := s.all fun n => n ≠ 0 ∧ n.isValidChar

/-- What the column of ids makes of a text: it reads any letter case, and raises on another
length. -/
def idOf (rowId : CodePoints) : Option String :=
  let value := env.upper rowId
  if value.length = 26 ∧ encodable value = true then some (String.ofList (value.map Char.ofNat))
  else none

/-! ### The query -/

section Paginate

variable {ρ : Type} (createdAt : ρ → Instant) (id : ρ → Ulid)

def below (r : ρ) (key : ℤ × String) : Bool :=
  (createdAt r : ℤ) < key.1 ∨ ((createdAt r : ℤ) = key.1 ∧ env.idBefore (id r).text key.2 = true)

def afterCursor (rows : List ρ) : Option String → Fallible (List ρ)
  | none => return rows
  | some cursor =>
    if cursor = "" then return rows
    else
      match env.decodeCursor cursor with
      | .error .malformed => throw (invalidRequestError "Malformed pagination cursor.")
      | .error .tooDeep => throw internalError
      | .ok (time, rowId) => do
        let time ← found (env.instantOf time) internalError
        let rowId ← found (env.idOf rowId) internalError
        return rows.filter fun r => env.below createdAt id r (time, rowId)

/-- The order of a page: newest first. -/
def Newest (a b : ρ) : Prop := env.below createdAt id a (createdAt b, (id b).text) = false

instance : DecidableRel (env.Newest createdAt id) := fun a b =>
  inferInstanceAs (Decidable (env.below createdAt id a (createdAt b, (id b).text) = false))

/-- `paginate_cursor`. -/
def paginateCursor (rows : List ρ) (params : CursorParams) : Fallible (CursorPage ρ) := do
  let rows ← env.afterCursor createdAt id rows params.cursor
  let rows := (rows.insertionSort (env.Newest createdAt id)).take (params.limit + 1)
  let items := rows.take params.limit
  let hasMore : Bool := params.limit < rows.length
  let nextCursor := if hasMore then items.getLast?.map fun r => encodeCursor (createdAt r) (id r)
    else none
  return ⟨items, nextCursor, hasMore⟩

end Paginate

/-! ### What a cursor does to a listing -/

/-- A result, or the error that tells the client. -/
def Answers {α : Type} (outcome : Fallible α) : Prop :=
  (∃ a, outcome = .ok a) ∨ outcome = .error (invalidRequestError "Malformed pagination cursor.")

/-- A cursor whose JSON does not nest too deep, and that names nothing but what the query can bind
where it is a pair that begins with a timestamp. -/
structure Harmless (cursor : String) : Prop where
  shallow : env.payload cursor ≠ .error .tooDeep
  bound : ∀ v first second stamp, env.payload cursor = .ok v →
    unpackPair v = some (first, second) → timestampOf first = some stamp →
      ∃ text, env.strOf second = some text ∧ (env.instantOf stamp).isSome ∧ (env.idOf text).isSome

section Answers

variable {env} {ρ : Type} {createdAt : ρ → Instant} {id : ρ → Ulid} {rows : List ρ}
  {cursor : String}

lemma answers_ok {α : Type} {a : α} : Answers (.ok a : Fallible α) := .inl ⟨a, rfl⟩

lemma not_answers_internalError {α : Type} : ¬ Answers (.error internalError : Fallible α) := by
  rintro (⟨a, h⟩ | h)
  · cases h
  · exact absurd (Except.error.inj h) (by decide)

lemma answers_bind {α β : Type} {outcome : Fallible α} {f : α → Fallible β}
    (hf : ∀ a, ∃ b, f a = .ok b) : Answers (outcome >>= f) ↔ Answers outcome := by
  cases outcome with
  | ok a =>
    obtain ⟨b, hb⟩ := hf a
    exact ⟨fun _ => answers_ok, fun _ => .inl ⟨b, hb⟩⟩
  | error e =>
    rw [error_bind]
    constructor
    · rintro (⟨_, h⟩ | h)
      · cases h
      · exact .inr (congrArg Except.error (Except.error.inj h))
    · rintro (⟨_, h⟩ | h)
      · cases h
      · exact .inr (congrArg Except.error (Except.error.inj h))

lemma answers_bound {stamp : PyDatetime} {text : CodePoints} (f : ℤ → String → List ρ) :
    Answers (do
      let time ← found (env.instantOf stamp) internalError
      let rowId ← found (env.idOf text) internalError
      return f time rowId : Fallible (List ρ)) ↔
      (env.instantOf stamp).isSome ∧ (env.idOf text).isSome := by
  cases env.instantOf stamp with
  | none => exact iff_of_false not_answers_internalError (by simp)
  | some time =>
    cases env.idOf text with
    | none => exact iff_of_false not_answers_internalError (by simp)
    | some rowId => exact iff_of_true answers_ok ⟨rfl, rfl⟩

lemma afterCursor_answers (h : cursor ≠ "") :
    Answers (env.afterCursor createdAt id rows (some cursor)) ↔ env.Harmless cursor := by
  rw [afterCursor, if_neg h, decodeCursor]
  cases hv : env.payload cursor with
  | error failure =>
    cases failure with
    | malformed =>
      -- What does not decode is answered as invalid.
      refine iff_of_true (.inr rfl) ⟨by simp [hv], fun v _ _ _ hok => ?_⟩
      rw [hv] at hok
      cases hok
    -- A payload that is nested too deep is not.
    | tooDeep => exact iff_of_false not_answers_internalError fun hall => hall.shallow hv
  | ok v =>
    have hshallow : env.payload cursor ≠ .error .tooDeep := by simp [hv]
    rw [ok_bind]
    cases hpair : unpackPair v with
    | none =>
      -- No pair: an invalid cursor.
      refine iff_of_true (.inr rfl) ⟨hshallow, fun v' _ _ _ hok hsome => ?_⟩
      rw [hv] at hok
      cases hok
      rw [hpair] at hsome
      cases hsome
    | some pair =>
      obtain ⟨first, second⟩ := pair
      cases hstamp : timestampOf first with
      | none =>
        -- No timestamp: an invalid cursor.
        simp only [hstamp]
        refine iff_of_true (.inr rfl) ⟨hshallow, fun v' _ _ _ hok hsome htime => ?_⟩
        rw [hv] at hok
        cases hok
        rw [hpair] at hsome
        cases hsome
        rw [hstamp] at htime
        cases htime
      | some stamp =>
        simp only [hstamp]
        cases hstr : env.strOf second with
        | none =>
          -- The second part has no text, and the comparison fails.
          refine iff_of_false not_answers_internalError fun hall => ?_
          obtain ⟨text, htext, -⟩ := hall.bound v first second stamp hv hpair hstamp
          rw [hstr] at htext
          cases htext
        | some text =>
          -- The key is compared with the rows if it can be bound.
          refine (answers_bound _).trans ⟨fun hbound => ⟨hshallow, ?_⟩, fun hall => ?_⟩
          · intro v' first' second' stamp' hok hsome htime
            rw [hv] at hok
            cases hok
            rw [hpair] at hsome
            cases hsome
            rw [hstamp] at htime
            cases htime
            exact ⟨text, hstr, hbound⟩
          · obtain ⟨text', htext, hbound⟩ := hall.bound v first second stamp hv hpair hstamp
            rw [hstr] at htext
            cases htext
            exact hbound

lemma paginateCursor_answers {params : CursorParams} :
    Answers (env.paginateCursor createdAt id rows params) ↔
      ∀ cursor, params.cursor = some cursor → cursor ≠ "" → env.Harmless cursor := by
  rw [paginateCursor]
  refine (answers_bind fun _ => ⟨_, rfl⟩).trans ?_
  cases params.cursor with
  | none => exact iff_of_true answers_ok (by simp)
  | some cursor =>
    by_cases h : cursor = ""
    · rw [afterCursor, if_pos h]
      refine iff_of_true answers_ok ?_
      rintro _ ⟨⟩ hne
      exact absurd h hne
    · rw [afterCursor_answers h]
      exact ⟨fun hall _ hc _ => Option.some.inj hc ▸ hall, fun hall => hall cursor rfl h⟩

end Answers

/-! ### The cursor of a row -/

lemma plain_digit {c : Char} (h : c.isDigit = true) : Plain c := by
  have hrange : 48 ≤ c.toNat ∧ c.toNat ≤ 57 := Char.isDigit_iff_toNat.mp h
  refine ⟨?_, ?_, ?_, ?_⟩
  · omega
  · omega
  · rintro rfl
    exact absurd h (by decide)
  · rintro rfl
    exact absurd h (by decide)

lemma plain_text {u : Ulid} {c : Char} (h : c ∈ u.text.toList) : Plain c :=
  of_all (by decide) (Ulid.mem_text h)

lemma plain_isoFormat {t : Instant} {c : Char} (h : c ∈ (Instant.isoFormat t).toList) :
    Plain c := by
  have hfixed {d : Char} (hd : d ∈ ['-', ':', '.', 'T', '+', '0']) : Plain d :=
    of_all (by decide) hd
  simp only [toList_isoFormat, List.mem_append, List.mem_cons, List.not_mem_nil, or_false] at h
  obtain h | rfl | h | h := h
  · obtain h | rfl := mem_date_iso h
    · exact plain_digit h
    · exact hfixed (by decide)
  · exact hfixed (by decide)
  · obtain h | rfl | rfl := IsoText.mem_time_iso h
    · exact plain_digit h
    · exact hfixed (by decide)
    · exact hfixed (by decide)
  · obtain rfl | rfl | rfl | rfl | rfl | rfl := h <;> exact hfixed (by decide)

lemma fromUTF8_toUTF8 (s : String) :
    String.fromUTF8? ⟨s.toUTF8.data.toList.toArray⟩ = some s := by
  rw [Array.toArray_toList, String.fromUTF8?]
  exact dif_pos s.isValidUTF8

lemma payload_encodePair {a b : String} (ha : ∀ c ∈ a.toList, Plain c)
    (hb : ∀ c ∈ b.toList, Plain c) :
    env.payload (encodePair a b) = .ok (.arr [.str (codes a.toList), .str (codes b.toList)]) := by
  have hascii : ∀ raw, ((Base64.encode raw).all fun c => c.toNat < 128) = true := fun raw =>
    List.all_eq_true.mpr fun c hc => decide_eq_true (Base64.encode_ascii raw c hc)
  rw [payload, encodePair, String.toList_ofList, if_pos (hascii _), Base64.decode_encode]
  simp only [fromUTF8_toUTF8, String.toList_ofList, loads_dumpsPair env.recursionLimit_pos ha hb]

lemma map_codes (cs : List Char) : (codes cs).map Char.ofNat = cs := by
  rw [codes, List.map_map]
  exact (List.map_congr_left fun c _ => Char.ofNat_toNat c).trans (List.map_id cs)

/-- **The cursor of a row decodes to its key.** -/
lemma decodeCursor_encodeCursor {t : Instant} (h : Instant.utcDate t ≤ Date.max) (u : Ulid) :
    env.decodeCursor (encodeCursor t u) = .ok (t.datetime, codes u.text.toList) := by
  rw [decodeCursor, encodeCursor, payload_encodePair env (fun _ => plain_isoFormat)
    fun _ => plain_text, ok_bind]
  simp only [unpackPair, timestampOf, map_codes, fromIsoFormat_isoFormat h, strOf]
  rfl

lemma instantOf_datetime {t : ℕ} (h : Instant.utcDate t ≤ Date.max) :
    env.instantOf (Instant.datetime t) = some (t : ℤ) := by
  have hmax : 719163 + t / dayMicros ≤ 3652059 := h
  have hday : Instant.utcDate t = 719163 + t / dayMicros := rfl
  have ht : ((Instant.utcDate t : ℤ) - 719163) * dayMicros + (t % dayMicros : ℕ) - 0 = t := by
    rw [hday]
    unfold dayMicros
    omega
  have hrange : (1 - 719163 : ℤ) * dayMicros ≤ (t : ℤ) ∧
      (t : ℤ) < ((Date.max : ℤ) + 1 - 719163) * dayMicros := by
    unfold dayMicros Date.max at *
    omega
  rw [instantOf, Instant.datetime]
  simp only [ht]
  exact if_pos hrange

lemma idOf_text (u : Ulid) : env.idOf (codes u.text.toList) = some u.text := by
  have hlength : (codes u.text.toList).length = 26 := by
    rw [codes, List.length_map, u.text_length]
  have hencodable : encodable (codes u.text.toList) = true := by
    rw [encodable, codes, List.all_map, List.all_eq_true]
    refine fun c hc => decide_eq_true ⟨?_, c.valid⟩
    exact of_all (P := fun c => c.toNat ≠ 0) (by decide) (Ulid.mem_text hc)
  rw [idOf, env.upper_text, if_pos ⟨hlength, hencodable⟩, map_codes, String.ofList_toList]

lemma encodePair_ne_empty {a b : String} (ha : ∀ c ∈ a.toList, Plain c)
    (hb : ∀ c ∈ b.toList, Plain c) : encodePair a b ≠ "" := by
  intro h
  have hread := payload_encodePair .plain ha hb
  rw [h] at hread
  cases hread

lemma encodeCursor_ne_empty (t : Instant) (u : Ulid) : encodeCursor t u ≠ "" :=
  encodePair_ne_empty (fun _ => plain_isoFormat) fun _ => plain_text

section Rows

variable {ρ : Type} {createdAt : ρ → Instant} {id : ρ → Ulid}

lemma afterCursor_encodeCursor (rows : List ρ) {t : Instant} (h : Instant.utcDate t ≤ Date.max)
    (u : Ulid) : env.afterCursor createdAt id rows (some (encodeCursor t u)) =
      .ok (rows.filter fun r => env.below createdAt id r (t, u.text)) := by
  rw [afterCursor, if_neg (encodeCursor_ne_empty t u), decodeCursor_encodeCursor env h u]
  simp only [instantOf_datetime env h, idOf_text]
  rfl

/-! ### The cursors as keys -/

/-- Paging with these cursors, as far as rows have them: no row is older than 1970. -/
def paging : Paging where
  encodeCursor := encodeCursor
  decodeCursor cursor := do
    let (createdAt, rowId) ← (env.decodeCursor cursor).toOption
    let time ← env.instantOf createdAt
    if 0 ≤ time then some (time.toNat, String.ofList (rowId.map Char.ofNat)) else none
  upper s := String.ofList ((env.upper (codes s.toList)).map Char.ofNat)
  upper_text u := by rw [env.upper_text, map_codes, String.ofList_toList]
  idBefore := env.idBefore

lemma paging_decodeCursor {t : Instant} (h : Instant.utcDate t ≤ Date.max) (u : Ulid) :
    env.paging.decodeCursor (encodeCursor t u) = some (t, u.text) := by
  simp only [paging, decodeCursor_encodeCursor env h, Except.toOption, Option.bind_eq_bind,
    Option.bind_some, instantOf_datetime env h, map_codes, String.ofList_toList]
  exact if_pos (Int.natCast_nonneg t)

lemma below_eq (r : ρ) (t : Instant) (rowId : String) :
    env.below createdAt id r (t, rowId) = precedes env.paging createdAt id r (t, rowId) := by
  rw [below, precedes, Bool.eq_iff_iff]
  simp only [decide_eq_true_eq, Int.ofNat_lt, Int.natCast_inj]
  exact Iff.rfl

lemma insertionSort_newest (rows : List ρ) :
    rows.insertionSort (env.Newest createdAt id) =
      rows.insertionSort (Newer env.paging createdAt id) := by
  have hrel : env.Newest createdAt id = Newer env.paging createdAt id := by
    funext a b
    rw [Newest, Newer, below_eq]
  congr!

/-- For the cursors that rows have, the listing is that of the keys. -/
theorem paginateCursor_paging {rows : List ρ} {params : CursorParams}
    (h : ∀ cursor, params.cursor = some cursor → ∃ t u, Instant.utcDate t ≤ Date.max ∧
      cursor = encodeCursor t u) :
    env.paginateCursor createdAt id rows params =
      SchoolOs.paginateCursor env.paging createdAt id rows params := by
  have hafter : env.afterCursor createdAt id rows params.cursor =
      SchoolOs.afterCursor env.paging createdAt id rows params.cursor := by
    cases hcursor : params.cursor with
    | none => rfl
    | some cursor =>
      obtain ⟨t, u, ht, rfl⟩ := h cursor hcursor
      rw [afterCursor_encodeCursor env rows ht, SchoolOs.afterCursor,
        if_neg (encodeCursor_ne_empty t u), paging_decodeCursor env ht]
      simp only [found, ok_bind, bindUlid_text, below_eq]
      rfl
  rw [paginateCursor, SchoolOs.paginateCursor, hafter]
  simp only [insertionSort_newest]
  rfl

end Rows

/-! ### Cursors from clients -/

/-- **What a cursor of a client does to a listing**, and that the cursors of rows are read. -/
theorem clientCursor_answers {ρ : Type} (createdAt : ρ → Instant) (id : ρ → Ulid) (rows : List ρ)
    (params : CursorParams) :
    (Answers (env.paginateCursor createdAt id rows params) ↔
      ∀ cursor, params.cursor = some cursor → cursor ≠ "" → env.Harmless cursor) ∧
    ∀ r : ρ, Instant.utcDate (createdAt r) ≤ Date.max →
      env.decodeCursor (encodeCursor (createdAt r) (id r)) =
        .ok ((createdAt r).datetime, codes (id r).text.toList) ∧
      env.afterCursor createdAt id rows (some (encodeCursor (createdAt r) (id r))) =
        .ok (rows.filter fun r' => env.below createdAt id r' (createdAt r, (id r).text)) :=
  ⟨paginateCursor_answers, fun r h =>
    ⟨decodeCursor_encodeCursor env h (id r), afterCursor_encodeCursor env rows h (id r)⟩⟩

lemma not_harmless_pair {a b : String} {stamp : PyDatetime} (ha : ∀ c ∈ a.toList, Plain c)
    (hb : ∀ c ∈ b.toList, Plain c) (hstamp : PyDatetime.fromIsoFormat a.toList = some stamp)
    (hid : env.idOf (codes b.toList) = none) : ¬ env.Harmless (encodePair a b) := by
  intro hall
  have htime : timestampOf (.str (codes a.toList)) = some stamp := by
    rw [timestampOf, map_codes, hstamp]
  obtain ⟨text, hstr, -, hbound⟩ :=
    hall.bound _ _ _ stamp (payload_encodePair env ha hb) rfl htime
  rw [strOf, Option.some.injEq] at hstr
  rw [← hstr, hid] at hbound
  cases hbound

/-- Two rows of 2023-11-14. -/
def twoRows : List (Instant × Ulid) := [(1700000000000000, 1), (1700000000000001, 2)]

/-- The cursor of the newer row is answered, and leaves the older one. -/
theorem nextPage_answers :
    Answers (CursorEnv.plain.paginateCursor Prod.fst Prod.snd twoRows
      ⟨1, some (encodeCursor 1700000000000001 2), by decide⟩) ∧
    CursorEnv.plain.afterCursor Prod.fst Prod.snd twoRows
      (some (encodeCursor 1700000000000001 2)) = .ok [(1700000000000000, 1)] := by
  have h := clientCursor_answers .plain Prod.fst Prod.snd twoRows
    ⟨1, some (encodeCursor 1700000000000001 2), by decide⟩
  have hread : CursorEnv.plain.afterCursor Prod.fst Prod.snd twoRows
      (some (encodeCursor 1700000000000001 2)) = .ok _ := (h.2 (1700000000000001, 2) (by decide)).2
  refine ⟨h.1.mpr ?_, hread.trans (by decide +kernel)⟩
  intro cursor hcursor hne
  obtain rfl := Option.some.inj hcursor
  have hanswers : Answers (CursorEnv.plain.afterCursor Prod.fst Prod.snd twoRows
      (some (encodeCursor 1700000000000001 2))) := hread ▸ answers_ok
  exact (afterCursor_answers hne).mp hanswers

/-- An id of one character is not refused, and cannot be bound. -/
theorem shortId_crashes :
    ¬ Answers (CursorEnv.plain.paginateCursor Prod.fst Prod.snd
      [((1700000000000000 : Instant), (⟨1, by decide⟩ : Ulid))]
      ⟨20, some (encodePair "2024-01-15T10:30:00+00:00" "x"), by decide⟩) := by
  have hstamp : PyDatetime.fromIsoFormat "2024-01-15T10:30:00+00:00".toList =
      some ⟨738900, 37800000000, some 0⟩ := by
    decide +kernel
  have htime : ∀ c ∈ "2024-01-15T10:30:00+00:00".toList, Plain c := fun c =>
    of_all (by decide +kernel)
  have hshort : ∀ c ∈ "x".toList, Plain c := fun c => of_all (by decide +kernel)
  have hharmless := not_harmless_pair .plain htime hshort hstamp (by decide +kernel)
  rw [paginateCursor_answers]
  exact fun hall => hharmless (hall _ rfl (encodePair_ne_empty htime hshort))

end CursorEnv

end SchoolOs
