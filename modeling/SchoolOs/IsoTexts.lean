import SchoolOs.CsvHelpers
import SchoolOs.Timetables

/-!
Timestamps as ISO texts: how `datetime.fromisoformat` reads them, and that it reads what `isoformat`
writes of a timestamp in UTC.
-/

namespace SchoolOs

/-! ### The reader -/

/-- A `datetime`: the day, the microseconds of the day, and how far its zone is ahead of UTC. -/
structure PyDatetime where
  date : Date
  time : ℕ
  offset : Option ℤ
  deriving DecidableEq

def dayMicros : ℕ := 86400000000

namespace IsoText

/-- Where the date ends, as its first characters show. A week is read without its day when what
follows could be a time. -/
def separatorAt (cs : List Char) : Option ℕ :=
  if cs.length = 7 then some 7
  else
    match cs.drop 4 with
    | '-' :: 'W' :: _ =>
      match cs.drop 8 with
      | ['-'] => none
      | '-' :: _ :: c :: _ => if c.isDigit then some 8 else some 10
      | '-' :: _ => some 10
      | _ => some 8
    | '-' :: _ => some 10
    | 'W' :: _ =>
      let index := 7 + ((cs.drop 7).takeWhile Char.isDigit).length
      if index < 9 then some index else if index % 2 = 0 then some 7 else some 8
    | _ => some 8

/-- A fraction of a second; digits after the sixth are dropped. -/
def fraction (cs : List Char) : Option ℕ :=
  if cs = [] then none
  else do
    let micros ← digits (cs.take 6)
    let _ ← digits (cs.drop 6)
    return micros * 10 ^ (6 - (cs.take 6).length)

/-- Hours, minutes, seconds and microseconds. -/
abbrev Parts := ℕ × ℕ × ℕ × ℕ

def secondsOf (hour minute : ℕ) : List Char → Option Parts
  | a :: b :: rest => do
    let second ← digits [a, b]
    match rest with
    | [] => return (hour, minute, second, 0)
    | c :: rest =>
      if c = '.' ∨ c = ',' then return (hour, minute, second, ← fraction rest) else none
  | _ => none

/-- The minutes, after an hour that was followed by a colon or not. -/
def minutesOf (colon : Bool) (hour : ℕ) : List Char → Option Parts
  | a :: b :: rest => do
    let minute ← digits [a, b]
    match rest with
    | [] => return (hour, minute, 0, 0)
    | c :: tail =>
      if colon then if c = ':' then secondsOf hour minute tail else none
      else secondsOf hour minute rest
  | _ => none

/-- `HH[:MM[:SS[.ffffff]]]`, with colons or without. -/
def partsOf : List Char → Option Parts
  | a :: b :: rest => do
    let hour ← digits [a, b]
    match rest with
    | [] => return (hour, 0, 0, 0)
    | ':' :: tail => minutesOf true hour tail
    | _ => minutesOf false hour rest
  | _ => none

def microsOf (p : Parts) : ℕ := ((p.1 * 60 + p.2.1) * 60 + p.2.2.1) * 1000000 + p.2.2.2

/-- A time of a day. -/
def timeOf (cs : List Char) : Option ℕ := do
  let p ← partsOf cs
  if p.1 < 24 ∧ p.2.1 < 60 ∧ p.2.2.1 < 60 then some (microsOf p) else none

/-- The zone, from its sign on: nothing, `Z`, or an offset of less than a day. -/
def zoneOf : List Char → Option (Option ℤ)
  | [] => some none
  | ['Z'] => some (some 0)
  | sign :: cs =>
    if sign = '+' ∨ sign = '-' then do
      let p ← partsOf cs
      if microsOf p < dayMicros then
        some (some (if sign = '-' then -(microsOf p : ℤ) else microsOf p))
      else none
    else none

/-- The characters that a zone begins with. -/
def startsZone (c : Char) : Bool := c = '+' ∨ c = '-' ∨ c = 'Z'

end IsoText

open IsoText in
/-- `datetime.fromisoformat`. Any character may stand between the date and the time. -/
def PyDatetime.fromIsoFormat (cs : List Char) : Option PyDatetime :=
  if cs.length < 7 then none
  else do
    let place ← separatorAt cs
    let date ← Date.fromIsoFormat (String.ofList (cs.take place))
    match cs.drop place with
    | [] => return ⟨date, 0, none⟩
    | _ :: rest => do
      let time ← timeOf (rest.takeWhile fun c => !startsZone c)
      let offset ← zoneOf (rest.dropWhile fun c => !startsZone c)
      return ⟨date, time, offset⟩

/-! ### The writer -/

/-- The timestamp of a column, as the driver returns it. -/
def Instant.datetime (t : Instant) : PyDatetime := ⟨Instant.utcDate t, t % dayMicros, some 0⟩

/-- `isoformat` of a timestamp in UTC. -/
def Instant.isoFormat (t : Instant) : String :=
  Date.iso (Instant.utcDate t) ++ "T" ++ Time.iso (t % dayMicros) ++ "+00:00"

/-! ### Digits -/

lemma digits_eq {cs : List Char} (h : ∀ c ∈ cs, c.isDigit = true) :
    digits cs = some (Nat.ofDigitChars 10 cs 0) := by
  rw [digits, if_pos (List.all_eq_true.mpr h), Nat.ofDigitChars_eq_foldl]

lemma toList_padded (width n : ℕ) :
    (padded width n).toList =
      List.replicate (width - (Nat.toDigits 10 n).length) '0' ++ Nat.toDigits 10 n := by
  rw [padded, String.toList_append, String.toList_ofList, Nat.toString_eq_ofList_toDigits,
    String.toList_ofList, String.length_ofList]

lemma isDigit_of_mem_padded {width n : ℕ} {c : Char} (hc : c ∈ (padded width n).toList) :
    c.isDigit = true := by
  rw [toList_padded, List.mem_append] at hc
  cases hc with
  | inl h => rw [List.eq_of_mem_replicate h]; decide
  | inr h => exact Nat.isDigit_of_mem_toDigits (by decide) (by decide) h

lemma digits_padded (width n : ℕ) : digits (padded width n).toList = some n := by
  rw [digits_eq fun c => isDigit_of_mem_padded, toList_padded, Nat.ofDigitChars_append,
    Nat.ofDigitChars_replicate_zero, Nat.mul_zero, Nat.ofDigitChars_ten_toDigits]

lemma length_padded {width n : ℕ} (h0 : 0 < width) (h : n < 10 ^ width) :
    (padded width n).toList.length = width := by
  have hle : (Nat.toDigits 10 n).length ≤ width :=
    (Nat.length_toDigits_le_iff (by decide) h0).mpr h
  rw [toList_padded, List.length_append, List.length_replicate]
  omega

lemma padded_two {n : ℕ} (h : n < 100) :
    ∃ a b, (padded 2 n).toList = [a, b] ∧ digits [a, b] = some n := by
  obtain ⟨a, b, hab⟩ := List.length_eq_two.mp (length_padded (by decide) h)
  exact ⟨a, b, hab, hab ▸ digits_padded 2 n⟩

/-! ### The calendar -/

lemma daysInMonth_congr {y z : ℕ} (h : isLeap y = isLeap z) (m : ℕ) :
    daysInMonth y m = daysInMonth z m := by
  unfold daysInMonth
  rw [h]

lemma monthDay_spec (year : ℕ) {n : ℕ} (h : n < 365) :
    1 ≤ (monthDay (isLeap year) n).1 ∧ (monthDay (isLeap year) n).1 ≤ 12 ∧
      1 ≤ (monthDay (isLeap year) n).2 ∧
      (monthDay (isLeap year) n).2 ≤ daysInMonth year (monthDay (isLeap year) n).1 ∧
      daysBeforeMonth (monthDay (isLeap year) n).1 +
          (if 2 < (monthDay (isLeap year) n).1 ∧ isLeap year then 1 else 0) +
        (monthDay (isLeap year) n).2 = n + 1 := by
  -- one common year and one leap year stand for all
  have hall : ∀ z ∈ [1, 4], ∀ n < 365,
      1 ≤ (monthDay (isLeap z) n).1 ∧ (monthDay (isLeap z) n).1 ≤ 12 ∧
        1 ≤ (monthDay (isLeap z) n).2 ∧
        (monthDay (isLeap z) n).2 ≤ daysInMonth z (monthDay (isLeap z) n).1 ∧
        daysBeforeMonth (monthDay (isLeap z) n).1 +
            (if 2 < (monthDay (isLeap z) n).1 ∧ isLeap z then 1 else 0) +
          (monthDay (isLeap z) n).2 = n + 1 := by
    decide +kernel
  obtain ⟨z, hz, hleap⟩ : ∃ z ∈ [1, 4], isLeap z = isLeap year := by
    cases isLeap year
    · exact ⟨1, by decide, by decide⟩
    · exact ⟨4, by decide, by decide⟩
  rw [← hleap, daysInMonth_congr hleap.symm]
  exact hall z hz n h

/-- The years in a cycle of four hundred: the last of four is a leap year, but of the last of a
hundred only the fourth. -/
lemma isLeap_cycle {a b c e : ℕ} (hb : b < 4) (hc : c < 25) (he : e < 4) :
    isLeap (a * 400 + b * 100 + c * 4 + e + 1) = decide (e = 3 ∧ (c ≠ 24 ∨ b = 3)) := by
  rw [isLeap, Bool.eq_iff_iff]
  simp only [Bool.and_eq_true, Bool.or_eq_true, decide_eq_true_eq]
  omega

lemma div_cycle {a b c e : ℕ} (hb : b < 4) (hc : c < 25) (he : e < 4) :
    (a * 400 + b * 100 + c * 4 + e) * 365 + (a * 400 + b * 100 + c * 4 + e) / 4 -
        (a * 400 + b * 100 + c * 4 + e) / 100 + (a * 400 + b * 100 + c * 4 + e) / 400 =
      a * 146097 + b * 36524 + c * 1461 + e * 365 := by
  omega

theorem Date.ofYmd_ymd {d : Date} (h : 1 ≤ d) :
    Date.ofYmd (Date.ymd d).1 (Date.ymd d).2.1 (Date.ymd d).2.2 = some d := by
  obtain ⟨n, rfl⟩ := Nat.exists_eq_add_of_le' h
  simp only [Date.ymd, Nat.add_sub_cancel]
  generalize ha : n / 146097 = a
  generalize hb : n % 146097 / 36524 = b
  generalize hc : n % 146097 % 36524 / 1461 = c
  generalize he : n % 146097 % 36524 % 1461 / 365 = e
  generalize hr : n % 146097 % 36524 % 1461 % 365 = r
  have hd : n = a * 146097 + b * 36524 + c * 1461 + e * 365 + r := by omega
  have hr365 : r < 365 := by omega
  have hc25 : c < 25 := by omega
  by_cases hlast : e = 4 ∨ b = 4
  · -- the last day of a leap year
    rw [if_pos hlast]
    generalize hy : a * 400 + b * 100 + c * 4 + e = y
    have hleap : isLeap y = true := by
      rw [isLeap]
      simp only [Bool.and_eq_true, Bool.or_eq_true, decide_eq_true_eq]
      omega
    have hdays : (y - 1) * 365 + (y - 1) / 4 - (y - 1) / 100 + (y - 1) / 400 + 334 + 1 + 31 =
        n + 1 := by
      cases hlast with
      | inl h4 =>
        have hc24 : c < 24 := by omega
        have hprev : y - 1 = a * 400 + b * 100 + c * 4 + 3 := by omega
        have hcycle := div_cycle (a := a) (b := b) (e := 3) (by omega) hc25 (by decide)
        rw [← hprev] at hcycle
        omega
      | inr h4 =>
        have hprev : y - 1 = a * 400 + 3 * 100 + 24 * 4 + 3 := by omega
        have hcycle := div_cycle (a := a) (b := 3) (c := 24) (e := 3) (by decide) (by decide)
          (by decide)
        rw [← hprev] at hcycle
        omega
    have hy1 : 1 ≤ y := by omega
    dsimp only
    rw [Date.ofYmd, if_pos ⟨hy1, by decide, by decide, by decide, le_refl 31⟩, ordinal,
      if_pos ⟨by decide, hleap⟩]
    exact congrArg some hdays
  · rw [if_neg hlast]
    have hb4 : b < 4 := by omega
    have he4 : e < 4 := by omega
    rw [← isLeap_cycle (a := a) hb4 hc25 he4]
    obtain ⟨hm1, hm12, hd1, hdm, hsum⟩ :=
      monthDay_spec (a * 400 + b * 100 + c * 4 + e + 1) hr365
    have hdays : a * 146097 + b * 36524 + c * 1461 + e * 365 + (r + 1) = n + 1 := by omega
    rw [Date.ofYmd, if_pos ⟨by omega, hm1, hm12, hd1, hdm⟩, ordinal, Nat.add_sub_cancel]
    dsimp only
    rw [div_cycle hb4 hc25 he4, add_assoc _ _ (monthDay _ _).2, add_assoc _ _ (_ + _),
      ← add_assoc (daysBeforeMonth _), hsum, hdays]

lemma daysInMonth_le (year month : ℕ) : daysInMonth year month ≤ 31 := by
  unfold daysInMonth
  split
  · split <;> decide
  · decide
  · decide
  · decide
  · decide
  · decide

/-- The last day of the year 9999. -/
def Date.max : Date := 3652059

lemma Date.ymd_lt {d : Date} (h : 1 ≤ d) (hmax : d ≤ Date.max) :
    (Date.ymd d).1 < 10000 ∧ (Date.ymd d).2.1 < 100 ∧ (Date.ymd d).2.2 < 100 := by
  obtain ⟨⟨year, month, day⟩, hymd⟩ : ∃ p, Date.ymd d = p := ⟨_, rfl⟩
  have hsome := Date.ofYmd_ymd h
  rw [hymd, Date.ofYmd] at hsome
  rw [hymd]
  split at hsome
  case isFalse => exact absurd hsome (by simp)
  case isTrue hc =>
    obtain ⟨hy, -, hm, hd1, hd⟩ := hc
    have hord : @LE.le ℕ _ (ordinal year month day) 3652059 := by
      rw [Option.some.inj hsome]
      exact hmax
    have hd31 := hd.trans (daysInMonth_le year month)
    rw [ordinal] at hord
    dsimp only at hord hm hd1 hd31 ⊢
    refine ⟨?_, by omega, by omega⟩
    by_contra hge
    have hyear : 9999 ≤ year - 1 := by omega
    generalize year - 1 = y at hord hyear
    omega

/-! ### The round trip -/

lemma toList_date_iso (d : Date) :
    (Date.iso d).toList = (padded 4 d.ymd.1).toList ++ '-' :: ((padded 2 d.ymd.2.1).toList ++
      '-' :: (padded 2 d.ymd.2.2).toList) := by
  simp [Date.iso]

lemma ne_week {n : ℕ} {a b : Char} (h : (padded 2 n).toList = [a, b]) : a ≠ 'W' := by
  have ha : a.isDigit = true := isDigit_of_mem_padded (h ▸ List.mem_cons_self)
  rintro rfl
  exact absurd ha (by decide)

lemma dateOf_iso {d : Date} (h : 1 ≤ d) (hmax : d ≤ Date.max) :
    Date.fromIsoFormat (Date.iso d) = some d := by
  obtain ⟨hy, hm, hd⟩ := Date.ymd_lt h hmax
  obtain ⟨a, b, hab, hmonth⟩ := padded_two hm
  obtain ⟨e, f, hef, hday⟩ := padded_two hd
  have hlength : (padded 4 d.ymd.1).toList.length = 4 := length_padded (by decide) hy
  rw [Date.fromIsoFormat, toList_date_iso, List.take_left' hlength, List.drop_left' hlength,
    digits_padded, hab, hef]
  have ha : a ≠ 'W' := ne_week hab
  simp [hmonth, hday, Date.ofYmd_ymd h, ha]

namespace IsoText

lemma toList_time_iso (t : ℕ) :
    (Time.iso t).toList = (padded 2 (t / 1000000 / 3600)).toList ++
      ':' :: ((padded 2 (t / 1000000 / 60 % 60)).toList ++
        ':' :: ((padded 2 (t / 1000000 % 60)).toList ++
          if t % 1000000 = 0 then [] else '.' :: (padded 6 (t % 1000000)).toList)) := by
  unfold Time.iso
  dsimp only
  split <;> simp

lemma fraction_padded {n : ℕ} (h : n < 1000000) : fraction (padded 6 n).toList = some n := by
  have hlength : (padded 6 n).toList.length = 6 := length_padded (by decide) h
  have hne : (padded 6 n).toList ≠ [] := List.ne_nil_of_length_eq_add_one hlength
  rw [fraction, if_neg hne, List.take_of_length_le hlength.le, List.drop_of_length_le hlength.le,
    digits_padded, hlength]
  simp [digits]

lemma timeOf_iso {t : ℕ} (h : t < dayMicros) : timeOf (Time.iso t).toList = some t := by
  unfold dayMicros at h
  obtain ⟨a, b, hab, hhour⟩ := padded_two (n := t / 1000000 / 3600) (by omega)
  obtain ⟨c, d, hcd, hminute⟩ := padded_two (n := t / 1000000 / 60 % 60) (by omega)
  obtain ⟨e, f, hef, hsecond⟩ := padded_two (n := t / 1000000 % 60) (by omega)
  have hparts : partsOf (Time.iso t).toList =
      some (t / 1000000 / 3600, t / 1000000 / 60 % 60, t / 1000000 % 60, t % 1000000) := by
    rw [toList_time_iso, hab, hcd, hef]
    by_cases hzero : t % 1000000 = 0
    · simp [partsOf, minutesOf, secondsOf, hhour, hminute, hsecond, hzero]
    · have hfraction := fraction_padded (n := t % 1000000) (by omega)
      simp [partsOf, minutesOf, secondsOf, hhour, hminute, hsecond, hzero, hfraction]
  rw [timeOf, hparts]
  have hmicros : microsOf (t / 1000000 / 3600, t / 1000000 / 60 % 60, t / 1000000 % 60,
      t % 1000000) = t := by
    unfold microsOf
    dsimp only
    omega
  simp only [Option.bind_eq_bind, Option.bind_some, hmicros]
  rw [if_pos]
  omega

lemma mem_time_iso {t : ℕ} {c : Char} (h : c ∈ (Time.iso t).toList) :
    c.isDigit = true ∨ c = ':' ∨ c = '.' := by
  rw [toList_time_iso] at h
  simp only [List.mem_append, List.mem_cons] at h
  obtain h | rfl | h | rfl | h | h := h
  · exact .inl (isDigit_of_mem_padded h)
  · exact .inr (.inl rfl)
  · exact .inl (isDigit_of_mem_padded h)
  · exact .inr (.inl rfl)
  · exact .inl (isDigit_of_mem_padded h)
  · split at h
    · exact absurd h List.not_mem_nil
    · obtain rfl | h := List.mem_cons.mp h
      · exact .inr (.inr rfl)
      · exact .inl (isDigit_of_mem_padded h)

lemma startsZone_iso {t : ℕ} {c : Char} (h : c ∈ (Time.iso t).toList) : startsZone c = false := by
  by_contra hz
  simp only [startsZone, Bool.not_eq_false, decide_eq_true_eq] at hz
  obtain rfl | rfl | rfl := hz <;> exact absurd (mem_time_iso h) (by decide)

end IsoText

lemma mem_date_iso {d : Date} {c : Char} (h : c ∈ (Date.iso d).toList) :
    c.isDigit = true ∨ c = '-' := by
  rw [toList_date_iso] at h
  simp only [List.mem_append, List.mem_cons] at h
  obtain h | rfl | h | rfl | h := h
  · exact .inl (isDigit_of_mem_padded h)
  · exact .inr rfl
  · exact .inl (isDigit_of_mem_padded h)
  · exact .inr rfl
  · exact .inl (isDigit_of_mem_padded h)

lemma toList_isoFormat (t : Instant) :
    (Instant.isoFormat t).toList = (Date.iso (Instant.utcDate t)).toList ++
      'T' :: ((Time.iso (t % dayMicros)).toList ++ ['+', '0', '0', ':', '0', '0']) := by
  simp [Instant.isoFormat]

open IsoText in
/-- A timestamp is read as it is written. -/
theorem fromIsoFormat_isoFormat {t : Instant} (h : Instant.utcDate t ≤ Date.max) :
    PyDatetime.fromIsoFormat (Instant.isoFormat t).toList = some t.datetime := by
  have h1 : 1 ≤ Instant.utcDate t := by
    exact Nat.le_trans (by decide) (Nat.le_add_right 719163 _)
  have hten : (Date.iso (Instant.utcDate t)).toList.length = 10 := by
    obtain ⟨hy, hm, hd⟩ := Date.ymd_lt h1 h
    rw [toList_date_iso, List.length_append, List.length_cons, List.length_append,
      List.length_cons, length_padded (by decide) hy, length_padded (by decide) hm,
      length_padded (by decide) hd]
  have hsep : separatorAt (Instant.isoFormat t).toList = some 10 := by
    obtain ⟨hy, hm, hd⟩ := Date.ymd_lt h1 h
    obtain ⟨a, b, hab, -⟩ := padded_two hm
    have hne : (Instant.isoFormat t).toList.length ≠ 7 := by
      rw [toList_isoFormat, List.length_append, hten]
      omega
    rw [separatorAt, if_neg hne, toList_isoFormat, toList_date_iso, List.append_assoc,
      List.drop_left' (length_padded (by decide) hy), hab]
    simp [ne_week hab]
  have hlong : ¬ (Instant.isoFormat t).toList.length < 7 := by
    rw [toList_isoFormat, List.length_append, hten]
    omega
  have hzone : ∀ c ∈ (Time.iso (t % dayMicros)).toList, (!startsZone c) = true := by
    intro c hc
    rw [startsZone_iso hc]
    rfl
  rw [PyDatetime.fromIsoFormat, if_neg hlong, hsep, toList_isoFormat]
  simp only [Option.bind_eq_bind, Option.bind_some, List.take_left' hten, List.drop_left' hten,
    String.ofList_toList, dateOf_iso h1 h]
  rw [List.takeWhile_append_of_pos hzone, List.dropWhile_append_of_pos hzone]
  have htime : t % dayMicros < dayMicros := Nat.mod_lt _ (by decide)
  have hoffset : zoneOf ['+', '0', '0', ':', '0', '0'] = some (some 0) := by decide
  simp [startsZone, timeOf_iso htime, hoffset, Instant.datetime]

end SchoolOs
