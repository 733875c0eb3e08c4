import Mathlib.Data.List.Count
import Mathlib.Data.Rat.Floor
import SchoolOs.Runs
import SchoolOs.SchoolModels

/-!
The sliding-window limiter that the workers share: a sorted set for each key, in which every call
counts the hits of its window by one pipeline and records its own by another. Along a schedule in
which the calls of a key take turns the set keeps the hits of every window, and the limit holds.
-/

namespace SchoolOs.RateLimits

open Runs

/-! ### Numbers -/

/-- `int` of a float. -/
def truncated (x : ℚ) : ℤ := if 0 ≤ x then ⌊x⌋ else ⌈x⌉

/-- The nearest integer, ties to even. -/
def nearest (x : ℚ) : ℤ :=
  if x - ⌊x⌋ < 1 / 2 then ⌊x⌋
  else if 1 / 2 < x - ⌊x⌋ then ⌊x⌋ + 1
  else if ⌊x⌋ % 2 = 0 then ⌊x⌋ else ⌊x⌋ + 1

/-- `f"{now:.6f}"`, of a time that is not negative. -/
def stampText (now : ℚ) : String :=
  let micros := (nearest (now * 1000000)).toNat
  toString (micros / 1000000) ++ "." ++ padded 6 (micros % 1000000)

/-! ### The sorted set of a key -/

structure HitSet where
  /-- Members, no two alike, with their scores. -/
  entries : List (String × ℚ)
  expiresAt : Option ℚ
  deriving DecidableEq

namespace HitSet

def empty : HitSet := ⟨[], none⟩

/-- The key as the store finds it, gone once it has expired. -/
def current (set : HitSet) (clock : ℚ) : HitSet :=
  if ∃ e ∈ set.expiresAt, e ≤ clock then empty else set

def zremrangebyscore (set : HitSet) (low high : ℚ) : HitSet :=
  { set with entries := set.entries.filter fun e => ¬ (low ≤ e.2 ∧ e.2 ≤ high) }

def zcard (set : HitSet) : ℕ := set.entries.length

/-- A member that is there gets the new score. -/
def zadd (set : HitSet) (member : String) (score : ℚ) : HitSet :=
  { set with
    entries := if member ∈ set.entries.map Prod.fst
      then set.entries.map fun e => if e.1 = member then (member, score) else e
      else set.entries ++ [(member, score)] }

def pexpire (set : HitSet) (clock : ℚ) (milliseconds : ℤ) : HitSet :=
  { set with expiresAt := some (clock + milliseconds / 1000) }

/-- The score of the first member. -/
def oldest (set : HitSet) : Option ℚ := (set.entries.map Prod.snd).min?

end HitSet

/-! ### Calls -/

/-- How many calls a key takes in a window. -/
structure RateRule where
  limit : ℕ
  windowSeconds : ℚ
  limit_pos : 1 ≤ limit
  window_pos : 0 < windowSeconds

/-- A call that has read the clock. -/
structure Hit where
  key : String
  now : ℚ
  member : String
  deriving DecidableEq

/-- The workers, each with its counter; the store; and the calls: on their way to the count,
between the count and the record, refused but not answered yet, and answered. -/
structure LimiterState where
  clock : ℚ
  counters : ℕ → ℕ
  sets : String → HitSet
  reading : List Hit
  counted : List Hit
  refused : List Hit
  allowed : List Hit
  denied : List (Hit × ℤ)

/-- No call yet. -/
def LimiterState.start (clock : ℚ) (counters : ℕ → ℕ) (sets : String → HitSet) : LimiterState :=
  ⟨clock, counters, sets, [], [], [], [], []⟩

def redisKey (key : String) : String := "ratelimit:" ++ key

inductive LimiterAction
  | wait (until_ : ℚ)
  | call (worker : ℕ) (key : String)
  | count (hit : Hit)
  | record (hit : Hit)
  | peek (hit : Hit)

variable (rule : String → RateRule)

/-- What the first pipeline leaves of the set: the hits of the window. -/
def trimmed (s : LimiterState) (hit : Hit) : HitSet :=
  ((s.sets (redisKey hit.key)).current s.clock).zremrangebyscore 0
    (hit.now - (rule hit.key).windowSeconds)

/-- The life of the key after a record, in milliseconds. -/
def lifetime (r : RateRule) : ℤ := truncated (r.windowSeconds * 1000) + 1000

def retryAfter (r : RateRule) (now : ℚ) : Option ℚ → ℤ
  | none => truncated r.windowSeconds
  | some oldest => max 1 (truncated (r.windowSeconds - (now - oldest)) + 1)

/-- `allow_async`, up to its next command to the store. -/
def step (s : LimiterState) : LimiterAction → LimiterState
  | .wait until_ => { s with clock := max s.clock until_ }
  | .call worker key =>
    let counter := s.counters worker + 1
    { s with
      counters := Function.update s.counters worker counter
      reading := s.reading ++ [⟨key, s.clock, stampText s.clock ++ ":" ++ toString counter⟩] }
  | .count hit =>
    if hit ∈ s.reading then
      let set := trimmed rule s hit
      let s := { s with
        sets := Function.update s.sets (redisKey hit.key) set
        reading := s.reading.erase hit }
      if (rule hit.key).limit ≤ set.zcard then { s with refused := s.refused ++ [hit] }
      else { s with counted := s.counted ++ [hit] }
    else s
  | .record hit =>
    if hit ∈ s.counted then
      let set := (((s.sets (redisKey hit.key)).current s.clock).zadd hit.member hit.now).pexpire
        s.clock (lifetime (rule hit.key))
      { s with
        sets := Function.update s.sets (redisKey hit.key) set
        counted := s.counted.erase hit
        allowed := s.allowed ++ [hit] }
    else s
  | .peek hit =>
    if hit ∈ s.refused then
      let oldest := ((s.sets (redisKey hit.key)).current s.clock).oldest
      { s with
        refused := s.refused.erase hit
        denied := s.denied ++ [(hit, retryAfter (rule hit.key) hit.now oldest)] }
    else s

/-! ### Windows -/

/-- The call is on the key, and read the clock in the window that begins after `a`. -/
def InWindow (key : String) (a : ℚ) (hit : Hit) : Bool :=
  hit.key = key ∧ a < hit.now ∧ hit.now ≤ a + (rule key).windowSeconds

/-- No window holds more calls that were allowed than its key takes. -/
def Limited (s : LimiterState) : Prop :=
  ∀ key a, s.allowed.countP (InWindow rule key a) ≤ (rule key).limit

/-- The call is on the key, and read the clock after `a`. -/
def After (key : String) (a : ℚ) (hit : Hit) : Bool := hit.key = key ∧ a < hit.now

/-! ### The schedule -/

/-- The calls that have counted, whatever came of it. -/
def LimiterState.past (s : LimiterState) : List Hit :=
  s.counted ++ s.allowed ++ s.refused ++ s.denied.map Prod.fst

/-- The life of the key after a record, in seconds. -/
def lifeSeconds (r : RateRule) : ℚ := (lifetime r : ℚ) / 1000

/-- The call counts in its turn: those of its window that counted before it have recorded, none
of them read the clock later, and it is not so late that the key may have expired. -/
structure CountsInTurn (s : LimiterState) (hit : Hit) : Prop where
  alone : ∀ h ∈ s.counted, h.key = hit.key → h.now ≤ hit.now - (rule hit.key).windowSeconds
  ordered : ∀ h ∈ s.past, h.key = hit.key → h.now ≤ hit.now
  prompt : s.clock ≤ hit.now + (lifeSeconds (rule hit.key) - (rule hit.key).windowSeconds)

/-- No call on the key has recorded under this member. -/
def Fresh (s : LimiterState) (hit : Hit) : Prop :=
  ∀ h ∈ s.allowed, h.key = hit.key → h.member ≠ hit.member

instance (s : LimiterState) (hit : Hit) : Decidable (CountsInTurn rule s hit) :=
  decidable_of_iff
    ((∀ h ∈ s.counted, h.key = hit.key → h.now ≤ hit.now - (rule hit.key).windowSeconds) ∧
      (∀ h ∈ s.past, h.key = hit.key → h.now ≤ hit.now) ∧
      s.clock ≤ hit.now + (lifeSeconds (rule hit.key) - (rule hit.key).windowSeconds))
    ⟨fun ⟨halone, hordered, hprompt⟩ => ⟨halone, hordered, hprompt⟩,
      fun h => ⟨h.alone, h.ordered, h.prompt⟩⟩

instance (s : LimiterState) (hit : Hit) : Decidable (Fresh s hit) :=
  inferInstanceAs (Decidable (∀ h ∈ s.allowed, _))

def InTurn (s : LimiterState) : LimiterAction → Prop
  | .count hit => CountsInTurn rule s hit
  | .record hit => Fresh s hit
  | _ => True

instance (s : LimiterState) : DecidablePred (InTurn rule s) := fun a => by
  cases a <;> unfold InTurn <;> infer_instance

/-! ### What a set keeps -/

variable {rule} {s : LimiterState} {hit : Hit} {key : String} {a : ℚ}

lemma redisKey_inj {k l : String} : redisKey k = redisKey l ↔ k = l := by
  simp [redisKey]

namespace HitSet

variable {set : HitSet} {h : Hit} {t clock : ℚ}

/-- The hit is in the set, which does not expire before the time given. -/
def Holds (set : HitSet) (h : Hit) (t : ℚ) : Prop :=
  (h.member, h.now) ∈ set.entries ∧ ∀ e ∈ set.expiresAt, t ≤ e

lemma Holds.current (hset : set.Holds h t) (hlive : clock < t) : (set.current clock).Holds h t := by
  have hnot : ¬ ∃ e ∈ set.expiresAt, e ≤ clock := by
    rintro ⟨e, he, hle⟩
    exact absurd (hset.2 e he) (not_le.mpr (hle.trans_lt hlive))
  rwa [HitSet.current, if_neg hnot]

lemma Holds.zremrangebyscore {low high : ℚ} (hset : set.Holds h t) (hhigh : high < h.now) :
    (set.zremrangebyscore low high).Holds h t := by
  refine ⟨List.mem_filter.mpr ⟨hset.1, ?_⟩, hset.2⟩
  have hkept : ¬ (low ≤ h.now ∧ h.now ≤ high) := fun hgone => absurd hgone.2 (not_le.mpr hhigh)
  exact decide_eq_true hkept

lemma mem_zadd (set : HitSet) (member : String) (score : ℚ) :
    (member, score) ∈ (set.zadd member score).entries := by
  unfold zadd
  dsimp only
  split
  · next hmem =>
    obtain ⟨e, he, rfl⟩ := List.mem_map.mp hmem
    exact List.mem_map.mpr ⟨e, he, if_pos rfl⟩
  · exact List.mem_append_right _ (List.mem_singleton.mpr rfl)

lemma mem_zadd_of_ne {member : String} {score : ℚ} (hmem : (h.member, h.now) ∈ set.entries)
    (hne : h.member ≠ member) : (h.member, h.now) ∈ (set.zadd member score).entries := by
  unfold zadd
  dsimp only
  split
  · exact List.mem_map.mpr ⟨_, hmem, if_neg hne⟩
  · exact List.mem_append_left _ hmem

lemma holds_pexpire {milliseconds : ℤ} (hmem : (h.member, h.now) ∈ set.entries)
    (ht : t ≤ clock + milliseconds / 1000) : (set.pexpire clock milliseconds).Holds h t := by
  refine ⟨hmem, fun e he => ?_⟩
  obtain rfl := Option.mem_some_iff.mp he
  exact ht

end HitSet

/-- The set of its key still has the hit. -/
def Lives (rule : String → RateRule) (s : LimiterState) (h : Hit) : Prop :=
  (s.sets (redisKey h.key)).Holds h (h.now + lifeSeconds (rule h.key))

/-- No call that counts in its turn asks for the hit any more: its key outlived it, or a call has
counted whose window begins after it. -/
def Passed (rule : String → RateRule) (s : LimiterState) (h : Hit) : Prop :=
  h.now + lifeSeconds (rule h.key) ≤ s.clock ∨
    ∃ h' ∈ s.past, h'.key = h.key ∧ h.now ≤ h'.now - (rule h.key).windowSeconds

/-- What holds of the store along a run in which calls take turns. -/
structure Kept (rule : String → RateRule) (s : LimiterState) : Prop where
  /-- Calls read the clock before. -/
  read : ∀ h ∈ s.reading ++ s.past, h.now ≤ s.clock
  members : ∀ key, ((s.allowed.filter (·.key = key)).map Hit.member).Nodup
  hits : ∀ h ∈ s.allowed, Lives rule s h ∨ Passed rule s h

/-- The hits of the window of a call that counts in its turn are in the set it counts. -/
lemma Kept.trimmed (hs : Kept rule s) (hturn : CountsInTurn rule s hit) {h : Hit}
    (hmem : h ∈ s.allowed)
    (hafter : After hit.key (hit.now - (rule hit.key).windowSeconds) h = true) :
    (RateLimits.trimmed rule s hit).Holds h (h.now + lifeSeconds (rule h.key)) := by
  obtain ⟨hkey, hrecent⟩ := of_decide_eq_true hafter
  have hprompt := hturn.prompt
  have hlate : s.clock < h.now + lifeSeconds (rule h.key) := by
    rw [hkey]
    linarith
  rcases hs.hits h hmem with hlives | hlate' | ⟨h', hpast, hkey', hbefore⟩
  · rw [Lives, hkey] at hlives
    rw [hkey] at hlate ⊢
    exact (hlives.current hlate).zremrangebyscore hrecent
  · exact absurd hlate' (not_le.mpr hlate)
  · have hordered := hturn.ordered h' hpast (hkey'.trans hkey)
    rw [hkey] at hbefore
    linarith

/-- **The set keeps the hits**: it has as many as were allowed in the window of the call. -/
lemma Kept.countP_le (hs : Kept rule s) (hturn : CountsInTurn rule s hit) :
    s.allowed.countP (After hit.key (hit.now - (rule hit.key).windowSeconds)) ≤
      (RateLimits.trimmed rule s hit).zcard := by
  have hsublist :
      (s.allowed.filter (After hit.key (hit.now - (rule hit.key).windowSeconds))).Sublist
      (s.allowed.filter (·.key = hit.key)) := by
    refine List.monotone_filter_right _ fun h hafter => ?_
    exact decide_eq_true (of_decide_eq_true hafter).1
  have hnodup : ((s.allowed.filter (After hit.key (hit.now - (rule hit.key).windowSeconds))).map
      fun h => (h.member, h.now)).Nodup := by
    refine List.Nodup.of_map Prod.fst ?_
    rw [List.map_map]
    exact (hsublist.map Hit.member).nodup (hs.members hit.key)
  have hsubset : (s.allowed.filter (After hit.key (hit.now - (rule hit.key).windowSeconds))).map
      (fun h => (h.member, h.now)) ⊆ (RateLimits.trimmed rule s hit).entries := by
    intro e he
    obtain ⟨h, hh, rfl⟩ := List.mem_map.mp he
    obtain ⟨hmem, hafter⟩ := List.mem_filter.mp hh
    exact (hs.trimmed hturn hmem hafter).1
  have hlength := (hnodup.subperm hsubset).length_le
  rwa [List.length_map, ← List.countP_eq_length_filter] at hlength

/-! ### One step -/

lemma past_mono (act : LimiterAction) {h : Hit} (hh : h ∈ s.past) : h ∈ (step rule s act).past := by
  have hparts : h ∈ s.counted ∨ h ∈ s.allowed ∨ h ∈ s.refused ∨ h ∈ s.denied.map Prod.fst := by
    simpa [LimiterState.past, or_assoc] using hh
  cases act with
  | wait until_ => exact hh
  | call worker key => exact hh
  | count hit =>
    rw [step]
    split
    · dsimp only
      split <;> simp only [LimiterState.past, List.mem_append, List.mem_singleton] <;> tauto
    · exact hh
  | record hit =>
    rw [step]
    split
    · by_cases hhit : h = hit
      · simp [LimiterState.past, hhit]
      · simp only [LimiterState.past, List.mem_append, List.mem_erase_of_ne hhit]
        tauto
    · exact hh
  | peek hit =>
    rw [step]
    split
    · by_cases hhit : h = hit
      · simp [LimiterState.past, hhit]
      · simp only [LimiterState.past, List.mem_append, List.mem_erase_of_ne hhit, List.map_append]
        tauto
    · exact hh

lemma clock_mono (act : LimiterAction) : s.clock ≤ (step rule s act).clock := by
  cases act with
  | wait until_ => exact le_max_left ..
  | call worker key => exact le_rfl
  | count hit =>
    rw [step]
    split
    · dsimp only
      split <;> exact le_rfl
    · exact le_rfl
  | record hit =>
    rw [step]
    split <;> exact le_rfl
  | peek hit =>
    rw [step]
    split <;> exact le_rfl

lemma Passed.step {h : Hit} (hpassed : Passed rule s h) (act : LimiterAction) :
    Passed rule (RateLimits.step rule s act) h := by
  rcases hpassed with hlate | ⟨h', hpast, hbefore⟩
  · exact .inl (hlate.trans (clock_mono act))
  · exact .inr ⟨h', past_mono act hpast, hbefore⟩

/-- The calls of which something is known, or the one that is made. -/
lemma read_step (hs : Kept rule s) (act : LimiterAction) :
    ∀ h ∈ (step rule s act).reading ++ (step rule s act).past,
      h.now ≤ (step rule s act).clock := by
  have hread : ∀ h, h ∈ s.reading ∨ h ∈ s.counted ∨ h ∈ s.allowed ∨ h ∈ s.refused ∨
      h ∈ s.denied.map Prod.fst → h.now ≤ s.clock := by
    intro h hh
    refine hs.read h ?_
    simpa [LimiterState.past, or_assoc] using hh
  intro h hh
  refine le_trans ?_ (clock_mono act)
  cases act with
  | wait until_ => exact hs.read h hh
  | call worker key =>
    simp only [step, LimiterState.past, List.mem_append, List.mem_singleton] at hh
    by_cases hnew : h = ⟨key, s.clock, stampText s.clock ++ ":" ++ toString (s.counters worker + 1)⟩
    · exact (congrArg Hit.now hnew).le
    · exact hread h (by tauto)
  | count hit =>
    by_cases hmem : hit ∈ s.reading
    · refine hread h ?_
      by_cases hhit : h = hit
      · exact .inl (hhit ▸ hmem)
      · rw [step, if_pos hmem] at hh
        dsimp only at hh
        split at hh <;>
          simp only [LimiterState.past, List.mem_append, List.mem_erase_of_ne hhit,
            List.mem_singleton, hhit, or_false] at hh <;> tauto
    · rw [step, if_neg hmem] at hh
      exact hs.read h hh
  | record hit =>
    by_cases hmem : hit ∈ s.counted
    · refine hread h ?_
      by_cases hhit : h = hit
      · exact .inr (.inl (hhit ▸ hmem))
      · rw [step, if_pos hmem] at hh
        simp only [LimiterState.past, List.mem_append, List.mem_erase_of_ne hhit,
          List.mem_singleton, hhit, or_false] at hh
        tauto
    · rw [step, if_neg hmem] at hh
      exact hs.read h hh
  | peek hit =>
    by_cases hmem : hit ∈ s.refused
    · refine hread h ?_
      by_cases hhit : h = hit
      · exact .inr (.inr (.inr (.inl (hhit ▸ hmem))))
      · rw [step, if_pos hmem] at hh
        simp only [LimiterState.past, List.mem_append, List.mem_erase_of_ne hhit, List.map_append,
          List.map_cons, List.map_nil, List.mem_singleton, hhit, or_false] at hh
        tauto
    · rw [step, if_neg hmem] at hh
      exact hs.read h hh

lemma count_sets (hmem : hit ∈ s.reading) : (step rule s (.count hit)).sets =
    Function.update s.sets (redisKey hit.key) (trimmed rule s hit) := by
  rw [step, if_pos hmem]
  dsimp only
  split <;> rfl

lemma record_sets (hmem : hit ∈ s.counted) : (step rule s (.record hit)).sets =
    Function.update s.sets (redisKey hit.key)
      ((((s.sets (redisKey hit.key)).current s.clock).zadd hit.member hit.now).pexpire s.clock
        (lifetime (rule hit.key))) := by
  rw [step, if_pos hmem]

/-- A hit through a count on its key: the window of the call begins after it, or it stays. -/
lemma Lives.count {h : Hit} (hlives : Lives rule s h) (hmem : hit ∈ s.reading) :
    Lives rule (step rule s (.count hit)) h ∨ Passed rule (step rule s (.count hit)) h := by
  have hpast : hit ∈ (step rule s (.count hit)).past := by
    rw [step, if_pos hmem]
    dsimp only
    split <;> simp [LimiterState.past]
  by_cases hkey : h.key = hit.key
  · by_cases hlate : h.now + lifeSeconds (rule h.key) ≤ s.clock
    · exact .inr (.inl (hlate.trans (clock_mono _)))
    by_cases hbefore : h.now ≤ hit.now - (rule h.key).windowSeconds
    · exact .inr (.inr ⟨hit, hpast, hkey.symm, hbefore⟩)
    left
    rw [Lives, count_sets hmem, hkey, Function.update_self]
    rw [Lives] at hlives
    rw [hkey] at hlives hlate hbefore
    exact (hlives.current (not_le.mp hlate)).zremrangebyscore (not_le.mp hbefore)
  · left
    have hne : redisKey h.key ≠ redisKey hit.key := fun he => hkey (redisKey_inj.mp he)
    rw [Lives, count_sets hmem, Function.update_of_ne hne]
    exact hlives

lemma Lives.record (hs : Kept rule s) {h : Hit} (hallowed : h ∈ s.allowed)
    (hlives : Lives rule s h) (hmem : hit ∈ s.counted)
    (hfresh : h.key = hit.key → h.member ≠ hit.member) :
    Lives rule (step rule s (.record hit)) h ∨ Passed rule (step rule s (.record hit)) h := by
  have hread : h.now ≤ s.clock := hs.read h (by simp [LimiterState.past, hallowed])
  by_cases hlate : h.now + lifeSeconds (rule h.key) ≤ s.clock
  · exact .inr (.inl (hlate.trans (clock_mono _)))
  left
  by_cases hkey : h.key = hit.key
  · rw [Lives, record_sets hmem, hkey, Function.update_self]
    rw [Lives] at hlives
    rw [hkey] at hlives hlate
    have hcurrent := hlives.current (not_le.mp hlate)
    refine HitSet.holds_pexpire (HitSet.mem_zadd_of_ne hcurrent.1 (hfresh hkey)) ?_
    exact add_le_add_left hread _
  · have hne : redisKey h.key ≠ redisKey hit.key := fun he => hkey (redisKey_inj.mp he)
    rw [Lives, record_sets hmem, Function.update_of_ne hne]
    exact hlives

lemma kept_step (s : LimiterState) (act : LimiterAction) (hact : InTurn rule s act)
    (hs : Kept rule s) : Kept rule (step rule s act) := by
  refine ⟨read_step hs act, ?_, ?_⟩
  · cases act with
    | wait until_ => exact hs.members
    | call worker key => exact hs.members
    | count hit =>
      rw [step]
      split
      · dsimp only
        split <;> exact hs.members
      · exact hs.members
    | record hit =>
      rw [step]
      split
      · intro key
        by_cases hkey : hit.key = key
        · simp only [List.filter_append, List.map_append, List.filter_singleton, hkey, decide_true,
            cond_true, List.map_cons, List.map_nil]
          refine List.nodup_append.mpr ⟨hs.members key, List.nodup_singleton _, ?_⟩
          rintro _ hm _ hm'
          obtain ⟨h, hh, rfl⟩ := List.mem_map.mp hm
          obtain ⟨hmem, hhkey⟩ := List.mem_filter.mp hh
          rw [List.mem_singleton.mp hm']
          exact hact h hmem ((of_decide_eq_true hhkey).trans hkey.symm)
        · simpa [List.filter_append, hkey] using hs.members key
      · exact hs.members
    | peek hit =>
      rw [step]
      split <;> exact hs.members
  · intro h hh
    by_cases hold : h ∈ s.allowed
    · rcases hs.hits h hold with hlives | hpassed
      · cases act with
        | wait until_ => exact .inl hlives
        | call worker key => exact .inl hlives
        | count hit =>
          by_cases hmem : hit ∈ s.reading
          · exact hlives.count hmem
          · rw [step, if_neg hmem]
            exact .inl hlives
        | record hit =>
          by_cases hmem : hit ∈ s.counted
          · exact hlives.record hs hold hmem (hact h hold)
          · rw [step, if_neg hmem]
            exact .inl hlives
        | peek hit =>
          rw [step]
          split <;> exact .inl hlives
      · exact .inr (hpassed.step act)
    · -- The hit is new: the call has just recorded it.
      cases act with
      | wait until_ => exact absurd hh hold
      | call worker key => exact absurd hh hold
      | count hit =>
        rw [step] at hh
        split at hh
        · dsimp only at hh
          split at hh <;> exact absurd hh hold
        · exact absurd hh hold
      | record hit =>
        by_cases hmem : hit ∈ s.counted
        · rw [step, if_pos hmem] at hh
          obtain rfl : h = hit := List.mem_singleton.mp ((List.mem_append.mp hh).resolve_left hold)
          have hread : h.now ≤ s.clock := hs.read h (by simp [LimiterState.past, hmem])
          left
          rw [Lives, record_sets hmem, Function.update_self]
          refine HitSet.holds_pexpire (HitSet.mem_zadd _ _ _) ?_
          exact add_le_add_left hread _
        · rw [step, if_neg hmem] at hh
          exact absurd hh hold
      | peek hit =>
        rw [step] at hh
        split at hh <;> exact absurd hh hold

/-! ### Runs -/

/-- The calls that have a place: those allowed, and those about to be. -/
def LimiterState.admitted (s : LimiterState) : List Hit := s.counted ++ s.allowed

/-- No window holds more admitted calls than its key takes. -/
def AdmittedLimited (rule : String → RateRule) (s : LimiterState) : Prop :=
  ∀ key a, s.admitted.countP (InWindow rule key a) ≤ (rule key).limit

lemma inWindow_after (hhit : InWindow rule key a hit = true) {h : Hit}
    (h' : InWindow rule key a h = true) :
    After hit.key (hit.now - (rule hit.key).windowSeconds) h = true := by
  simp only [InWindow, After, decide_eq_true_eq] at *
  obtain ⟨rfl, _, hend⟩ := hhit
  obtain ⟨hkey, hstart, _⟩ := h'
  exact ⟨hkey, by linarith⟩

lemma countP_admitted (hs : Kept rule s) (hturn : CountsInTurn rule s hit)
    (hroom : (trimmed rule s hit).zcard < (rule hit.key).limit)
    (hhit : InWindow rule key a hit = true) :
    s.admitted.countP (InWindow rule key a) + 1 ≤ (rule key).limit := by
  have hkey : hit.key = key := (of_decide_eq_true hhit).1
  have hcounted :
      s.counted.countP (After hit.key (hit.now - (rule hit.key).windowSeconds)) = 0 := by
    refine List.countP_eq_zero.mpr fun h hmem hafter => ?_
    obtain ⟨hhkey, hrecent⟩ := of_decide_eq_true hafter
    exact absurd hrecent (not_lt.mpr (hturn.alone h hmem hhkey))
  have hallowed := hs.countP_le hturn
  have hwindow : s.admitted.countP (InWindow rule key a) ≤
      s.admitted.countP (After hit.key (hit.now - (rule hit.key).windowSeconds)) :=
    List.countP_mono_left fun h _ => inWindow_after hhit
  rw [LimiterState.admitted, List.countP_append, List.countP_append, hcounted] at hwindow
  rw [LimiterState.admitted, List.countP_append, ← hkey] at *
  omega

lemma admittedLimited_step (s : LimiterState) (act : LimiterAction) (hact : InTurn rule s act)
    (hkept : Kept rule s) (hs : AdmittedLimited rule s) :
    AdmittedLimited rule (step rule s act) := by
  cases act with
  | wait until_ => exact hs
  | call worker key => exact hs
  | count hit =>
    rw [step]
    split
    · dsimp only
      split
      · exact hs
      · next hroom =>
        intro key a
        have hbefore := hs key a
        simp only [LimiterState.admitted, List.countP_append, List.countP_singleton] at hbefore ⊢
        split
        · next hhit =>
          have hone := countP_admitted hkept hact (not_le.mp hroom) hhit
          rw [LimiterState.admitted, List.countP_append] at hone
          omega
        · omega
    · exact hs
  | record hit =>
    rw [step]
    split
    · next hmem =>
      intro key a
      have hperm : (s.counted.erase hit ++ (s.allowed ++ [hit])).Perm s.admitted := by
        rw [← List.append_assoc]
        refine (List.perm_append_singleton _ _).trans ?_
        rw [← List.cons_append]
        exact (List.perm_cons_erase hmem).symm.append_right _
      exact (hperm.countP_eq _).trans_le (hs key a)
    · exact hs
  | peek hit =>
    rw [step]
    split
    · exact hs
    · exact hs

/-- **The limit holds for every interleaving** in which the calls of a key count in turn and record
under members of their own. -/
theorem limited_run (rule : String → RateRule) (clock : ℚ) (counters : ℕ → ℕ)
    (sets : String → HitSet) {actions : List LimiterAction}
    (h : Along (step rule) (InTurn rule) (.start clock counters sets) actions) :
    Limited rule (run (step rule) (.start clock counters sets) actions) := by
  have hstart : Kept rule (.start clock counters sets) ∧
      AdmittedLimited rule (.start clock counters sets) :=
    ⟨⟨nofun, fun _ => List.nodup_nil, nofun⟩, fun key a => Nat.zero_le _⟩
  have hstep : ∀ (s : LimiterState) (act : LimiterAction), InTurn rule s act →
      Kept rule s ∧ AdmittedLimited rule s →
        Kept rule (step rule s act) ∧ AdmittedLimited rule (step rule s act) :=
    fun s act hact ⟨hkept, hs⟩ =>
      ⟨kept_step s act hact hkept, admittedLimited_step s act hact hkept hs⟩
  have hend := (invariant hstep h hstart).2
  intro key a
  refine le_trans ?_ (hend key a)
  rw [LimiterState.admitted, List.countP_append]
  exact Nat.le_add_left _ _

/-- One call a minute for every key. -/
def onceAMinute : String → RateRule := fun _ => ⟨1, 60, le_rfl, by norm_num⟩

/-- No worker has counted a call, and the store is empty. -/
def quiet : LimiterState := .start 1000 (fun _ => 0) fun _ => .empty

/-- Two workers with two keys at a time, and one of the keys again within its window and after. -/
def inTurns : List LimiterAction :=
  [.call 0 "k", .call 1 "l", .count ⟨"k", 1000, "1000.000000:1"⟩,
    .count ⟨"l", 1000, "1000.000000:1"⟩, .record ⟨"l", 1000, "1000.000000:1"⟩,
    .record ⟨"k", 1000, "1000.000000:1"⟩, .wait 1030, .call 1 "k",
    .count ⟨"k", 1030, "1030.000000:2"⟩, .peek ⟨"k", 1030, "1030.000000:2"⟩, .wait (2121 / 2),
    .call 0 "k", .count ⟨"k", 2121 / 2, "1060.500000:2"⟩,
    .record ⟨"k", 2121 / 2, "1060.500000:2"⟩]

theorem inTurns_limited :
    (run (step onceAMinute) quiet inTurns).allowed.length = 3 ∧
      (run (step onceAMinute) quiet inTurns).denied = [(⟨"k", 1030, "1030.000000:2"⟩, 31)] ∧
      Limited onceAMinute (run (step onceAMinute) quiet inTurns) :=
  ⟨by decide +kernel, by decide +kernel, limited_run onceAMinute 1000 _ _ (by decide +kernel)⟩

/-- Two workers that both count before either records. -/
def sideBySide : List LimiterAction :=
  [.call 0 "k", .wait 1001, .call 1 "k", .count ⟨"k", 1000, "1000.000000:1"⟩,
    .count ⟨"k", 1001, "1001.000000:1"⟩, .record ⟨"k", 1000, "1000.000000:1"⟩,
    .record ⟨"k", 1001, "1001.000000:1"⟩]

/-- Both calls are allowed, in a window that takes one. -/
theorem sideBySide_exceeds : ¬ Limited onceAMinute (run (step onceAMinute) quiet sideBySide) := by
  intro h
  have hcount : (run (step onceAMinute) quiet sideBySide).allowed.countP
      (InWindow onceAMinute "k" 950) = 2 := by decide +kernel
  have hlimit : 2 ≤ (onceAMinute "k").limit := hcount ▸ h "k" 950
  exact absurd hlimit (by decide)

end SchoolOs.RateLimits
