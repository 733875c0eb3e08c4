import SchoolOs.Imports
import SchoolOs.PageWalks

/-!
The lists that have an order of their own: the periods of a year, the timetables of a school, and
its import jobs. A walk over their pages shows every row exactly once just when the list parts at
the cursor wherever a page ends.
-/

namespace SchoolOs

open Keysets

/-! ### Rows, with the columns that only the lists read -/

structure PeriodRow extends PeriodDefinition where
  createdAt : Instant
  deriving DecidableEq

structure TimetableRow extends Timetable where
  createdAt : Instant
  deriving DecidableEq

structure ImportJobRow extends ImportJob where
  createdAt : Instant
  deriving DecidableEq

abbrev PeriodRow.key (r : PeriodRow) : Ulid := r.id
abbrev TimetableRow.key (r : TimetableRow) : Ulid := r.id
abbrev ImportJobRow.key (r : ImportJobRow) : Ulid := r.id

/-! ### The lists -/

section Lists

variable (pg : Paging) [pg.Ordered]

/-- `ORDER BY created_at DESC, id DESC`, that paging puts after the order of the statement. -/
def pagingPlace {ρ : Type} (createdAt : ρ → Instant) (id : ρ → Ulid) (r : ρ) :
    (Instant ×ₗ IdKey pg)ᵒᵈ :=
  OrderDual.toDual (keyOf pg createdAt id r)

/-- `ORDER BY sort_order, id`. -/
def periodPlace (r : PeriodRow) : ℤ ×ₗ (IdKey pg ×ₗ (Instant ×ₗ IdKey pg)ᵒᵈ) :=
  toLex (r.sortOrder, toLex (⟨r.id.text⟩, pagingPlace pg PeriodRow.createdAt PeriodRow.key r))

def periodsOfYear (periods : Table PeriodRow.key) (schoolId yearId : Ulid) : List PeriodRow :=
  periods.rows.filter fun r => r.schoolId = schoolId ∧ r.academicYearId = yearId

def listForYear (periods : Table PeriodRow.key) (schoolId yearId : Ulid) (params : CursorParams) :
    Fallible (CursorPage PeriodRow) :=
  paginateOrdered pg PeriodRow.createdAt PeriodRow.key (SortedBy (periodPlace pg))
    (periodsOfYear periods schoolId yearId) params

/-- `ORDER BY created_at DESC, id`. -/
def timetablePlace (r : TimetableRow) :
    Instantᵒᵈ ×ₗ (IdKey pg ×ₗ (Instant ×ₗ IdKey pg)ᵒᵈ) :=
  toLex (OrderDual.toDual r.createdAt,
    toLex (⟨r.id.text⟩, pagingPlace pg TimetableRow.createdAt TimetableRow.key r))

/-- An empty status is none. -/
def timetablesOf (timetables : Table TimetableRow.key) (schoolId : Ulid) (yearId : Option Ulid)
    (status : Option String) : List TimetableRow :=
  timetables.rows.filter fun r => r.schoolId = schoolId ∧
    (∀ y ∈ yearId, r.academicYearId = y) ∧ ∀ st ∈ status, st ≠ "" → r.status.value = st

def listTimetables (timetables : Table TimetableRow.key) (schoolId : Ulid) (yearId : Option Ulid)
    (status : Option String) (params : CursorParams) :
    Fallible (CursorPage TimetableRow) :=
  paginateOrdered pg TimetableRow.createdAt TimetableRow.key (SortedBy (timetablePlace pg))
    (timetablesOf timetables schoolId yearId status) params

/-- `ORDER BY created_at DESC`. The statement leaves open how jobs of one time follow each other:
they come as the heap hands them out. -/
def jobPlace (heap : ImportJobRow → ℕ) (r : ImportJobRow) : Instantᵒᵈ ×ₗ ℕ :=
  toLex (OrderDual.toDual r.createdAt, heap r)

def jobsOf (jobs : Table ImportJobRow.key) (schoolId : Ulid)
    (resourceType : Option ImportResourceType) (status : Option ImportJobStatus) :
    List ImportJobRow :=
  jobs.rows.filter fun r => r.schoolId = schoolId ∧
    (∀ t ∈ resourceType, r.resourceType = t) ∧ ∀ st ∈ status, r.status = st

omit [pg.Ordered] in
/-- The jobs with an id below the cursor. -/
def jobsBelow (rows : List ImportJobRow) : Option String → Fallible (List ImportJobRow)
  | none => return rows
  | some cursor => do
    let cursor ← bindUlid pg cursor
    return rows.filter fun r => pg.idBefore r.id.text cursor

/-- `list_jobs`: a plain list, with no sign of whether there is more. -/
def listJobs (heap : ImportJobRow → ℕ) (jobs : Table ImportJobRow.key) (schoolId : Ulid)
    (resourceType : Option ImportResourceType) (status : Option ImportJobStatus)
    (cursor : Option String) (limit : ℤ) : Fallible (List ImportJobRow) := do
  let rows ← jobsBelow pg (jobsOf jobs schoolId resourceType status) cursor
  ensure (0 ≤ limit) internalError
  return (rows.insertionSort (SortedBy (jobPlace heap))).take limit.toNat

end Lists

/-! ### Walks over the lists -/

section Walks

variable {pg : Paging} [pg.Ordered]

lemma exactWhen_ownOrder {ρ L : Type} [LinearOrder L] {createdAt : ρ → Instant} {id : ρ → Ulid}
    {rows : List ρ} {place : ρ → L} {limit : ℕ} (hlimit : 1 ≤ limit ∧ limit ≤ maxPageSize)
    (hnodup : rows.Nodup) (hplace : ∀ a ∈ rows, ∀ b ∈ rows, place a = place b → a = b)
    (hcursors : ∀ r ∈ rows, RoundTrips pg createdAt id r) :
    ExactWhen (fun cursor =>
        paginateOrdered pg createdAt id (SortedBy place) rows ⟨limit, cursor, hlimit⟩) rows
      (Aligned (keyOf pg createdAt id) limit (limit + 1)
        (rows.insertionSort (SortedBy place))) :=
  exactWhen_aligned hlimit.1 (Nat.le_succ limit) le_rfl (List.perm_insertionSort _ rows) hnodup
    (fun _ _ => paginateOrdered_ok hlimit (distinguished_sortedBy hplace) hcursors)
    (.inl ⟨rfl, rfl⟩)

omit [pg.Ordered] in
lemma eq_of_idPlace {ρ : Type} {id : ρ → Ulid} {t : Table id} {p : ρ → Bool} {a b : ρ}
    (ha : a ∈ t.rows.filter p) (hb : b ∈ t.rows.filter p)
    (h : (⟨(id a).text⟩ : IdKey pg) = ⟨(id b).text⟩) : a = b :=
  Table.eq_of_key (List.mem_of_mem_filter ha) (List.mem_of_mem_filter hb)
    (Ulid.text_inj.mp (IdKey.mk.inj h))

/-- No two jobs stand in one place of the heap. -/
def HeapOf (jobs : Table ImportJobRow.key) (heap : ImportJobRow → ℕ) : Prop :=
  ∀ a ∈ jobs, ∀ b ∈ jobs, heap a = heap b → a = b

/-- What a client makes of a page of jobs: the id of the last is the cursor, and a page that is full
may be followed by another. -/
def jobPage (limit : ℕ) (jobs : List ImportJobRow) : CursorPage ImportJobRow :=
  ⟨jobs, jobs.getLast?.map fun r => r.id.text, limit ≤ jobs.length⟩

variable (pg) in
def jobKey (r : ImportJobRow) : IdKey pg := ⟨r.id.text⟩

/-- The cursor stands for the id of a job, or both are not there. -/
def StandsForJob (cursor : Option String) (c : Option (IdKey pg)) : Prop :=
  (cursor = none ∧ c = none) ∨ ∃ r, cursor = some r.id.text ∧ c = some (jobKey pg r)

lemma jobsBelow_stands {rows : List ImportJobRow} {cursor : Option String}
    {c : Option (IdKey pg)} (h : StandsForJob cursor c) :
    jobsBelow pg rows cursor = .ok (left (jobKey pg) c rows) := by
  obtain ⟨rfl, rfl⟩ | ⟨r, rfl, rfl⟩ := h
  · have hall : left (jobKey pg) none rows = rows := List.filter_eq_self.mpr (by simp)
    rw [hall]
    rfl
  · rw [jobsBelow, bindUlid_text, ok_bind]
    refine congrArg Except.ok (List.filter_congr fun r' _ => ?_)
    rw [Bool.eq_iff_iff, decide_eq_true_iff]
    simp only [Option.mem_some_iff, forall_eq']
    exact Iff.rfl

lemma listJobs_ok {heap : ImportJobRow → ℕ} {jobs : Table ImportJobRow.key}
    (hheap : HeapOf jobs heap) {schoolId : Ulid}
    {resourceType : Option ImportResourceType} {status : Option ImportJobStatus} {limit : ℕ}
    (hlimit : 1 ≤ limit) {cursor : Option String} {c : Option (IdKey pg)}
    (h : StandsForJob cursor c) :
    ∃ page, jobPage limit <$> listJobs pg heap jobs schoolId resourceType status cursor limit =
        .ok page ∧ IsPage (jobKey pg) limit limit StandsForJob (left (jobKey pg) c
          ((jobsOf jobs schoolId resourceType status).insertionSort (SortedBy (jobPlace heap))))
          page := by
  have hplaces : Distinguished (SortedBy (jobPlace heap))
      (jobsOf jobs schoolId resourceType status) :=
    distinguished_sortedBy fun a ha b hb hplace => hheap a (List.mem_of_mem_filter ha) b
      (List.mem_of_mem_filter hb) (congrArg (fun k => (ofLex k).2) hplace)
  have hlimit' : (0 : ℤ) ≤ limit := Int.natCast_nonneg limit
  rw [listJobs, jobsBelow_stands h, ok_bind, ensure, if_pos hlimit', ok_bind,
    left_insertionSort hplaces, Int.toNat_natCast]
  refine ⟨_, rfl, rfl, ?_, fun hgo => ?_⟩
  · rw [jobPage, decide_eq_true_iff, List.length_take]
    omega
  · have hlength := of_decide_eq_true hgo
    rw [List.length_take] at hlength
    obtain ⟨x, _, hlast⟩ := exists_last hlimit le_rfl (hlength.trans (Nat.min_le_right _ _))
    refine .inr ⟨x, ?_, ?_⟩
    · rw [jobPage, hlast, Option.map_some]
    · rw [jobPage, lastKey, hlast, Option.map_some]

section Exact

variable (env : CursorEnv) [env.paging.Ordered] (schoolId : Ulid) {limit : ℕ}

lemma listForYear_exact (hlimit : 1 ≤ limit ∧ limit ≤ maxPageSize) (periods : Table PeriodRow.key)
    (yearId : Ulid) (hyears : ∀ r ∈ periods, Instant.utcDate r.createdAt ≤ Date.max) :
    ExactWhen (fun cursor =>
        listForYear env.paging periods schoolId yearId ⟨limit, cursor, hlimit⟩)
      (periodsOfYear periods schoolId yearId)
      (Aligned (keyOf env.paging PeriodRow.createdAt PeriodRow.key) limit (limit + 1)
        ((periodsOfYear periods schoolId yearId).insertionSort
          (SortedBy (periodPlace env.paging)))) := by
  refine exactWhen_ownOrder hlimit ((List.Nodup.of_map _ periods.keys).filter _)
    (fun a ha b hb h => ?_) fun r hr => env.roundTrips (hyears r (List.mem_of_mem_filter hr))
  exact eq_of_idPlace ha hb (congrArg (fun k => (ofLex (ofLex k).2).1) h)

lemma listTimetables_exact (hlimit : 1 ≤ limit ∧ limit ≤ maxPageSize)
    (timetables : Table TimetableRow.key) (yearId : Option Ulid) (status : Option String)
    (hyears : ∀ r ∈ timetables, Instant.utcDate r.createdAt ≤ Date.max) :
    ExactWhen (fun cursor =>
        listTimetables env.paging timetables schoolId yearId status ⟨limit, cursor, hlimit⟩)
      (timetablesOf timetables schoolId yearId status)
      (Aligned (keyOf env.paging TimetableRow.createdAt TimetableRow.key) limit (limit + 1)
        ((timetablesOf timetables schoolId yearId status).insertionSort
          (SortedBy (timetablePlace env.paging)))) := by
  refine exactWhen_ownOrder hlimit ((List.Nodup.of_map _ timetables.keys).filter _)
    (fun a ha b hb h => ?_) fun r hr => env.roundTrips (hyears r (List.mem_of_mem_filter hr))
  exact eq_of_idPlace ha hb (congrArg (fun k => (ofLex (ofLex k).2).1) h)

lemma listJobs_exact (hlimit : 1 ≤ limit) (jobs : Table ImportJobRow.key)
    (heap : ImportJobRow → ℕ) (hheap : HeapOf jobs heap)
    (resourceType : Option ImportResourceType) (status : Option ImportJobStatus) :
    ExactWhen (fun cursor =>
        jobPage limit <$> listJobs env.paging heap jobs schoolId resourceType status cursor limit)
      (jobsOf jobs schoolId resourceType status)
      (Aligned (jobKey env.paging) limit limit
        ((jobsOf jobs schoolId resourceType status).insertionSort (SortedBy (jobPlace heap)))) :=
  exactWhen_aligned hlimit le_rfl (Nat.le_succ limit) (List.perm_insertionSort _ _)
    ((List.Nodup.of_map _ jobs.keys).filter _) (fun _ _ => listJobs_ok hheap hlimit)
    (.inl ⟨rfl, rfl⟩)

/-- **When the lists with an order of their own are walked exactly**: the periods of a year, the
timetables and the import jobs of a school, wherever the jobs stand in the heap. -/
theorem specialLists_exact (hlimit : 1 ≤ limit) :
    (∀ (periods : Table PeriodRow.key) (yearId : Ulid) (hmax : limit ≤ maxPageSize),
      (∀ r ∈ periods, Instant.utcDate r.createdAt ≤ Date.max) →
        ExactWhen (fun cursor =>
            listForYear env.paging periods schoolId yearId ⟨limit, cursor, hlimit, hmax⟩)
          (periodsOfYear periods schoolId yearId)
          (Aligned (keyOf env.paging PeriodRow.createdAt PeriodRow.key) limit (limit + 1)
            ((periodsOfYear periods schoolId yearId).insertionSort
              (SortedBy (periodPlace env.paging))))) ∧
    (∀ (timetables : Table TimetableRow.key) (yearId : Option Ulid) (status : Option String)
      (hmax : limit ≤ maxPageSize),
      (∀ r ∈ timetables, Instant.utcDate r.createdAt ≤ Date.max) →
        ExactWhen (fun cursor => listTimetables env.paging timetables schoolId yearId status
            ⟨limit, cursor, hlimit, hmax⟩)
          (timetablesOf timetables schoolId yearId status)
          (Aligned (keyOf env.paging TimetableRow.createdAt TimetableRow.key) limit (limit + 1)
            ((timetablesOf timetables schoolId yearId status).insertionSort
              (SortedBy (timetablePlace env.paging))))) ∧
    ∀ (jobs : Table ImportJobRow.key) (heap : ImportJobRow → ℕ), HeapOf jobs heap →
      ∀ (resourceType : Option ImportResourceType) (status : Option ImportJobStatus),
      ExactWhen (fun cursor =>
          jobPage limit <$> listJobs env.paging heap jobs schoolId resourceType status cursor limit)
        (jobsOf jobs schoolId resourceType status)
        (Aligned (jobKey env.paging) limit limit
          ((jobsOf jobs schoolId resourceType status).insertionSort (SortedBy (jobPlace heap)))) :=
  ⟨fun periods yearId hmax => listForYear_exact env schoolId ⟨hlimit, hmax⟩ periods yearId,
    fun timetables yearId status hmax =>
      listTimetables_exact env schoolId ⟨hlimit, hmax⟩ timetables yearId status,
    listJobs_exact env schoolId hlimit⟩

end Exact

end Walks

/-- A lesson of the school day. -/
def lesson (id : Ulid) (sortOrder : ℤ) (createdAt : Instant) : PeriodRow where
  id := id
  schoolId := 11
  organizationId := 101
  academicYearId := 21
  name := "P"
  periodType := .lesson
  startTime := 28800000000
  endTime := 31200000000
  createdById := none
  sortOrder := sortOrder
  createdAt := createdAt

/-- Periods that were created in the order in which they follow each other. -/
def periodsInOrder : Table PeriodRow.key := ⟨[lesson 91 1 1, lesson 92 2 2], by decide⟩

/-- Periods of which the first of the day was created last. -/
def periodsBackwards : Table PeriodRow.key :=
  ⟨[lesson 91 3 1, lesson 92 2 2, lesson 93 1 3], by decide⟩

/-- Pages of one period each show them all: each is below the cursor of the one before it. -/
theorem bothPeriods_shown :
    ∃ pages, walkPages (fun _ : Unit => fun cursor =>
        listForYear CursorEnv.plain.paging periodsBackwards 11 21 ⟨1, cursor, by decide⟩) none
          (List.replicate 4 ()) = .ok pages ∧
      (rowsShown pages).Perm (periodsOfYear periodsBackwards 11 21) := by
  obtain ⟨pages, hpages, -, hperm⟩ := (specialLists_exact .plain 11 (le_refl 1)).1
    periodsBackwards 21 (by decide) (by decide) 4 (by decide)
  exact ⟨pages, hpages, hperm.mpr (by decide +kernel)⟩

/-- Page by page, the second period is below no cursor: it was created after the first. -/
theorem laterPeriod_missed :
    ∃ pages, walkPages (fun _ : Unit => fun cursor =>
        listForYear CursorEnv.plain.paging periodsInOrder 11 21 ⟨1, cursor, by decide⟩) none
          (List.replicate 3 ()) = .ok pages ∧
      Finished pages ∧ ¬ (rowsShown pages).Perm (periodsOfYear periodsInOrder 11 21) := by
  obtain ⟨pages, hpages, hdone, hperm⟩ := listForYear_exact .plain 11 ⟨le_refl 1, by decide⟩
    periodsInOrder 21 (by decide) 3 (by decide)
  exact ⟨pages, hpages, hdone, fun h => absurd (hperm.mp h) (by decide +kernel)⟩

end SchoolOs
