import SchoolOs.SlotBookings

/-!
What the publish check reports, against the overlap queries: the report groups the ACTIVE slots
of a timetable by entity, day and period and does not look at their dates.
-/

namespace SchoolOs

section Reports

variable (env : SchoolEnv) (db : SchoolDB) (timetableId schoolId : Ulid)

/-- The conflicts of kind TEACHER, each with the key of its group. -/
def teacherReports : List (SlotKey × ConflictItem) :=
  (crowded TimetableSlot.teacherId (slotsOf db timetableId schoolId)).flatMap fun g =>
    (g.2.head?.map fun slot => (g.1, teacherConflict env db g.2 slot)).toList

/-- The conflicts of kind COHORT, each with the key of its group. -/
def cohortReports : List (SlotKey × ConflictItem) :=
  (crowded TimetableSlot.cohortId (slotsOf db timetableId schoolId)).flatMap fun g =>
    (g.2.head?.map fun slot => (g.1, cohortConflict db slot)).toList

lemma findConflicts_eq : findConflicts env db timetableId schoolId =
    (teacherReports env db timetableId schoolId ++ cohortReports db timetableId schoolId).map
      Prod.snd := by
  have hitem : ∀ (g : SlotKey × List TimetableSlot) (f : TimetableSlot → ConflictItem),
      ((g.2.head?.map fun slot => (g.1, f slot)).toList).map Prod.snd =
        (g.2.head?.map f).toList := by
    intro g f
    cases g.2.head? <;> rfl
  simp only [findConflicts, conflictsOf, teacherReports, cohortReports, List.map_append,
    List.map_flatMap, hitem]

/-- A slot of the timetable. -/
def OfTimetable (s : TimetableSlot) : Prop :=
  s.timetableId = some timetableId ∧ s.schoolId = schoolId

instance (s : TimetableSlot) : Decidable (OfTimetable timetableId schoolId s) :=
  inferInstanceAs (Decidable (_ ∧ _))

/-- Two ACTIVE slots of the timetable put the entity into the period and day, on overlapping
dates. -/
def DoubleBooked (entity : TimetableSlot → Ulid) (k : SlotKey) : Prop :=
  ∃ a ∈ db.timetableSlots, ∃ b ∈ db.timetableSlots, OfTimetable timetableId schoolId a ∧
    OfTimetable timetableId schoolId b ∧ a.id ≠ b.id ∧ slotKey entity a = k ∧ Clash entity a b

instance (entity : TimetableSlot → Ulid) (k : SlotKey) :
    Decidable (DoubleBooked db timetableId schoolId entity k) :=
  inferInstanceAs (Decidable (∃ a ∈ db.timetableSlots, ∃ b ∈ db.timetableSlots, _ ∧ _))

/-- Two ACTIVE slots of the timetable put the entity into the period and day. -/
def Shared (entity : TimetableSlot → Ulid) (k : SlotKey) : Prop :=
  ∃ a ∈ db.timetableSlots, ∃ b ∈ db.timetableSlots, OfTimetable timetableId schoolId a ∧
    OfTimetable timetableId schoolId b ∧ a.id ≠ b.id ∧ a.status = .active ∧ b.status = .active ∧
      slotKey entity a = k ∧ slotKey entity b = k

/-- The report and the overlap queries agree: each double-booked key is reported once, and no
other key is. -/
structure DetectorsAgree : Prop where
  reports : findConflicts env db timetableId schoolId =
    (teacherReports env db timetableId schoolId ++ cohortReports db timetableId schoolId).map
      Prod.snd
  teacher : ∀ k, ((teacherReports env db timetableId schoolId).map Prod.fst).count k =
    if DoubleBooked db timetableId schoolId TimetableSlot.teacherId k then 1 else 0
  cohort : ∀ k, ((cohortReports db timetableId schoolId).map Prod.fst).count k =
    if DoubleBooked db timetableId schoolId TimetableSlot.cohortId k then 1 else 0

end Reports

variable {env : SchoolEnv} {db : SchoolDB} {timetableId schoolId : Ulid}
  {entity : TimetableSlot → Ulid} {k : SlotKey} {g : List TimetableSlot}

/-! ### Groups of slots -/

/-- Rows without repetition are more than one when two of them differ. -/
lemma one_lt_length {α : Type} {l : List α} (hn : l.Nodup) :
    1 < l.length ↔ ∃ a ∈ l, ∃ b ∈ l, a ≠ b := by
  cases l with
  | nil => simp
  | cons a l =>
    cases l with
    | nil => simp
    | cons b l =>
      have hne : a ≠ b := by
        intro hab
        exact (List.nodup_cons.mp hn).1 (hab ▸ List.mem_cons_self)
      have hlen : 1 < (a :: b :: l).length := by
        simp only [List.length_cons]
        omega
      exact iff_of_true hlen ⟨a, by simp, b, by simp, hne⟩

lemma mem_slotsOf {s : TimetableSlot} : s ∈ slotsOf db timetableId schoolId ↔
    s ∈ db.timetableSlots ∧ OfTimetable timetableId schoolId s ∧ s.status = .active := by
  simp [slotsOf, OfTimetable, Table.mem_def, and_assoc]

lemma mem_crowded {slots : List TimetableSlot} : (k, g) ∈ crowded entity slots ↔
    g = slots.filter (slotKey entity · = k) ∧ 1 < g.length := by
  simp only [crowded, List.mem_filter, Grouping.mem_groups, decide_eq_true_eq, ne_eq]
  constructor
  · rintro ⟨⟨hg, _⟩, hlen⟩
    exact ⟨hg, hlen⟩
  · rintro ⟨hg, hlen⟩
    have hne : ¬ g = [] := List.ne_nil_of_length_pos (by omega)
    exact ⟨⟨hg, hne⟩, hlen⟩

lemma crowded_iff_shared : k ∈ (crowded entity (slotsOf db timetableId schoolId)).map Prod.fst ↔
    Shared db timetableId schoolId entity k := by
  have hnodup : ((slotsOf db timetableId schoolId).filter (slotKey entity · = k)).Nodup := by
    have hrows : db.timetableSlots.rows.Nodup := List.Nodup.of_map _ db.timetableSlots.keys
    exact (hrows.filter _).filter _
  have hmem : k ∈ (crowded entity (slotsOf db timetableId schoolId)).map Prod.fst ↔
      1 < ((slotsOf db timetableId schoolId).filter (slotKey entity · = k)).length := by
    rw [List.mem_map]
    constructor
    · rintro ⟨⟨_, g⟩, hg, rfl⟩
      obtain ⟨rfl, hlen⟩ := mem_crowded.mp hg
      exact hlen
    · exact fun hlen => ⟨⟨k, _⟩, mem_crowded.mpr ⟨rfl, hlen⟩, rfl⟩
  rw [hmem, one_lt_length hnodup]
  simp only [List.mem_filter, decide_eq_true_eq, mem_slotsOf]
  constructor
  · rintro ⟨a, ⟨⟨ha, hta, hactive⟩, hka⟩, b, ⟨⟨hb, htb, hactive'⟩, hkb⟩, hne⟩
    have hid : a.id ≠ b.id := fun hid => hne (Table.eq_of_key ha hb hid)
    exact ⟨a, ha, b, hb, hta, htb, hid, hactive, hactive', hka, hkb⟩
  · rintro ⟨a, ha, b, hb, hta, htb, hid, hactive, hactive', hka, hkb⟩
    have hne : a ≠ b := fun hab => hid (congrArg TimetableSlot.id hab)
    exact ⟨a, ⟨⟨ha, hta, hactive⟩, hka⟩, b, ⟨⟨hb, htb, hactive'⟩, hkb⟩, hne⟩

lemma DoubleBooked.shared (h : DoubleBooked db timetableId schoolId entity k) :
    Shared db timetableId schoolId entity k := by
  obtain ⟨a, ha, b, hb, hta, htb, hid, hka, hactive, hactive', he, hp, hd, _⟩ := h
  have hkb : slotKey entity b = k := by
    rw [← hka, slotKey, slotKey, he, hp, hd]
  exact ⟨a, ha, b, hb, hta, htb, hid, hactive, hactive', hka, hkb⟩

/-! ### Reports -/

lemma reports_keys (f : List TimetableSlot → TimetableSlot → ConflictItem)
    (slots : List TimetableSlot) :
    ((crowded entity slots).flatMap fun g =>
      (g.2.head?.map fun slot => (g.1, f g.2 slot)).toList).map Prod.fst =
        (crowded entity slots).map Prod.fst := by
  have hone : ∀ g ∈ crowded entity slots,
      ((g.2.head?.map fun slot => (g.1, f g.2 slot)).toList).map Prod.fst = [g.1] := by
    rintro ⟨k, g⟩ hg
    have hlen := (mem_crowded.mp hg).2
    cases g with
    | nil => exact absurd hlen (by simp)
    | cons slot g => rfl
  rw [List.map_flatMap, List.map_eq_flatMap]
  exact List.flatMap_congr hone

lemma teacherReports_keys (env : SchoolEnv) :
    (teacherReports env db timetableId schoolId).map Prod.fst =
      (crowded TimetableSlot.teacherId (slotsOf db timetableId schoolId)).map Prod.fst :=
  reports_keys (teacherConflict env db) _

lemma cohortReports_keys : (cohortReports db timetableId schoolId).map Prod.fst =
    (crowded TimetableSlot.cohortId (slotsOf db timetableId schoolId)).map Prod.fst :=
  reports_keys (fun _ => cohortConflict db) _

lemma crowded_count_shared (h : Shared db timetableId schoolId entity k) :
    ((crowded entity (slotsOf db timetableId schoolId)).map Prod.fst).count k = 1 := by
  have hnodup : ((crowded entity (slotsOf db timetableId schoolId)).map Prod.fst).Nodup :=
    (List.filter_sublist.map Prod.fst).nodup Grouping.nodup_groups
  exact List.count_eq_one_of_mem hnodup (crowded_iff_shared.mpr h)

lemma crowded_count_unshared (h : ¬ Shared db timetableId schoolId entity k) :
    ((crowded entity (slotsOf db timetableId schoolId)).map Prod.fst).count k = 0 :=
  List.count_eq_zero.mpr fun hk => h (crowded_iff_shared.mp hk)

/-- **What a report is about**: the day, and the names of two slots' entity and period. -/
lemma teacherReports_item {item : ConflictItem}
    (h : (k, item) ∈ teacherReports env db timetableId schoolId) :
    item.conflictType = "TEACHER" ∧ item.dayOfWeek = k.2.1.value ∧
      ∃ s ∈ db.timetableSlots, slotKey TimetableSlot.teacherId s = k ∧
        item.entityName = teacherName env db s ∧ item.period = periodName db s := by
  obtain ⟨⟨k', g⟩, hg, hitem⟩ := List.mem_flatMap.mp h
  obtain ⟨slot, hslot, heq⟩ := Option.map_eq_some_iff.mp (Option.mem_toList.mp hitem)
  obtain ⟨rfl, rfl⟩ := Prod.mk.inj heq
  have hmem : slot ∈ g := List.mem_of_mem_head? hslot
  rw [(mem_crowded.mp hg).1, List.mem_filter, mem_slotsOf, decide_eq_true_eq] at hmem
  obtain ⟨⟨hs, _⟩, hk⟩ := hmem
  refine ⟨rfl, ?_, slot, hs, hk, rfl, rfl⟩
  rw [← hk]
  rfl

/-- **The two detectors agree** exactly on the timetables on which slots that share an entity, a
day and a period are not all one after another. -/
theorem detectorsAgree_iff (env : SchoolEnv) (db : SchoolDB) (timetableId schoolId : Ulid) :
    DetectorsAgree env db timetableId schoolId ↔
      (∀ k, Shared db timetableId schoolId TimetableSlot.teacherId k →
        DoubleBooked db timetableId schoolId TimetableSlot.teacherId k) ∧
      (∀ k, Shared db timetableId schoolId TimetableSlot.cohortId k →
        DoubleBooked db timetableId schoolId TimetableSlot.cohortId k) := by
  have hkind : ∀ entity : TimetableSlot → Ulid,
      (∀ k, ((crowded entity (slotsOf db timetableId schoolId)).map Prod.fst).count k =
        if DoubleBooked db timetableId schoolId entity k then 1 else 0) ↔
      ∀ k, Shared db timetableId schoolId entity k →
        DoubleBooked db timetableId schoolId entity k := by
    refine fun entity => forall_congr' fun k => ?_
    by_cases hshared : Shared db timetableId schoolId entity k
    · rw [crowded_count_shared hshared]
      by_cases hbooked : DoubleBooked db timetableId schoolId entity k <;> simp [hbooked, hshared]
    · have hbooked : ¬ DoubleBooked db timetableId schoolId entity k := fun h => hshared h.shared
      rw [crowded_count_unshared hshared]
      simp [hbooked, hshared]
  rw [← hkind, ← hkind, ← teacherReports_keys env, ← cohortReports_keys]
  constructor
  · exact fun h => ⟨h.teacher, h.cohort⟩
  · rintro ⟨ht, hc⟩
    exact ⟨findConflicts_eq env db timetableId schoolId, ht, hc⟩

/-- One teacher with one section until the end of a span, and with it again afterwards. -/
def takingTurns : SchoolDB :=
  { smallSchool with
    timetableSlots := .ofRows _
      [⟨201, 11, 101, 21, some 301, 51, 91, 81, 41, .monday, 738010, some 738020, .active, none,
          none, none, 1⟩,
        ⟨202, 11, 101, 21, some 301, 51, 91, 81, 41, .monday, 738021, some 738030, .active, none,
          none, none, 1⟩] }

/-- The report finds a conflict where the overlap queries find none. -/
theorem takingTurns_reported : ¬ ∀ (env : SchoolEnv) (db : SchoolDB) (timetableId schoolId : Ulid),
    DetectorsAgree env db timetableId schoolId := by
  intro h
  have hcount := (h .plain takingTurns 301 11).teacher (81, .monday, 91)
  exact absurd hcount (by decide)

end SchoolOs
