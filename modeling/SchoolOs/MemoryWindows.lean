import Mathlib.Data.List.TakeWhile
import SchoolOs.RateLimits

/-!
The sliding window of one process, which answers when the shared store cannot: a deque of hits for
each key, trimmed at its old end whenever the key is called. What it answers is exact, for every
run of calls.
-/

namespace SchoolOs.MemoryWindows

open Runs RateLimits

/-! ### Calls -/

/-- `_hits`: the deque of each key, the oldest hit first. -/
abbrev Hits := String → List ℚ

/-- The loop over the old end of a deque. -/
def trim (queue : List ℚ) (start : ℚ) : List ℚ := queue.dropWhile fun hit => hit ≤ start

/-- `_MemorySlidingWindow.allow` at the time `now`: the hits, whether the call is allowed, and after
how many seconds to try again. -/
def allow (r : RateRule) (hits : Hits) (key : String) (now : ℚ) : Hits × Bool × ℤ :=
  let queue := trim (hits key) (now - r.windowSeconds)
  if r.limit ≤ queue.length then
    -- the limit is at least one, so a deque that is full has a first hit
    (Function.update hits key queue, false,
      max 1 (truncated (r.windowSeconds - (now - queue.headD now)) + 1))
  else (Function.update hits key (queue ++ [now]), true, 0)

/-- `DistributedSlidingWindowLimiter.allow`, with or without a client of the store, and inside or
outside of a running loop. -/
def syncAllow (client loop : Bool) (r : RateRule) (hits : Hits) (key : String) (now : ℚ) :
    Hits × Bool × ℤ :=
  if ¬ client then allow r hits key now
  else if ¬ loop then allow r hits key now
  else allow r hits key now

@[simp] lemma syncAllow_eq (client loop : Bool) (r : RateRule) (hits : Hits) (key : String)
    (now : ℚ) : syncAllow client loop r hits key now = allow r hits key now := by
  cases client <;> cases loop <;> rfl

/-- The clock, which never goes back; the deques; and the times of the calls that were allowed. -/
structure WindowState where
  clock : ℚ
  hits : Hits
  allowed : Hits

def WindowState.start (clock : ℚ) : WindowState := ⟨clock, fun _ => [], fun _ => []⟩

inductive WindowAction
  | wait (until_ : ℚ)
  | call (client loop : Bool) (key : String)
  deriving DecidableEq

variable (rule : String → RateRule)

/-- What a call on the key is told: whether it is allowed, and when to try again. -/
def WindowState.answer (s : WindowState) (key : String) : Bool × ℤ :=
  (allow (rule key) s.hits key s.clock).2

def step (s : WindowState) : WindowAction → WindowState
  | .wait until_ => { s with clock := max s.clock until_ }
  | .call client loop key =>
    let result := syncAllow client loop (rule key) s.hits key s.clock
    { s with
      hits := result.1
      allowed := if result.2.1 then Function.update s.allowed key (s.allowed key ++ [s.clock])
        else s.allowed }

/-- How many of the times are in the window that ends with `stop`. -/
def held (window : ℚ) (times : List ℚ) (stop : ℚ) : ℕ :=
  times.countP fun t => stop - window < t ∧ t ≤ stop

/-- The action is on the key, or on none. -/
def Concerns (key : String) : WindowAction → Bool
  | .wait _ => true
  | .call _ _ k => k = key

/-! ### One key -/

section Key

variable {r : RateRule} {clock clock' : ℚ} {times queue : List ℚ}

/-- What a deque is to the times that were allowed: their end, without some that have left every
window to come. -/
structure Tracks (r : RateRule) (clock : ℚ) (times queue : List ℚ) : Prop where
  sorted : times.Pairwise (· ≤ ·)
  past : ∀ t ∈ times, t ≤ clock
  kept : ∃ old, times = old ++ queue ∧ ∀ t ∈ old, t ≤ clock - r.windowSeconds
  limited : ∀ stop, held r.windowSeconds times stop ≤ r.limit

lemma tracks_nil (r : RateRule) (clock : ℚ) : Tracks r clock [] [] :=
  ⟨.nil, by simp, ⟨[], rfl, by simp⟩, fun _ => Nat.zero_le _⟩

lemma trim_of_sorted {start : ℚ} (h : queue.Pairwise (· ≤ ·)) :
    trim queue start = queue.filter fun t => start < t := by
  induction queue with
  | nil => rfl
  | cons q queue ih =>
    obtain ⟨hq, hqueue⟩ := List.pairwise_cons.mp h
    by_cases hle : q ≤ start
    · have hdrop : trim (q :: queue) start = trim queue start := by simp [trim, hle]
      rw [hdrop, ih hqueue, List.filter_cons_of_neg (by simpa using hle)]
    · -- the rest is no older than the first
      have hall : ∀ t ∈ q :: queue, start < t := by
        intro t ht
        rcases List.mem_cons.mp ht with rfl | ht
        · exact not_le.mp hle
        · exact (not_le.mp hle).trans_le (hq t ht)
      have hdrop : trim (q :: queue) start = q :: queue := by simp [trim, hle]
      rw [hdrop, List.filter_eq_self.mpr (by simpa using hall)]

lemma Tracks.trim_eq (h : Tracks r clock times queue) :
    trim queue (clock - r.windowSeconds) = times.filter fun t => clock - r.windowSeconds < t := by
  obtain ⟨old, rfl, hold⟩ := h.kept
  have hnone : old.filter (fun t => decide (clock - r.windowSeconds < t)) = [] := by
    simpa using hold
  rw [List.filter_append, hnone, List.nil_append]
  exact trim_of_sorted (List.pairwise_append.mp h.sorted).2.1

lemma Tracks.length_trim (h : Tracks r clock times queue) :
    (trim queue (clock - r.windowSeconds)).length = held r.windowSeconds times clock := by
  rw [h.trim_eq, ← List.countP_eq_length_filter, held]
  refine List.countP_congr fun t ht => ?_
  simp [h.past t ht]

lemma Tracks.mono (h : Tracks r clock times queue) (hle : clock ≤ clock') :
    Tracks r clock' times queue := by
  obtain ⟨old, hsplit, hold⟩ := h.kept
  have hold' : ∀ t ∈ old, t ≤ clock' - r.windowSeconds := fun t ht => by linarith [hold t ht]
  exact ⟨h.sorted, fun t ht => (h.past t ht).trans hle, ⟨old, hsplit, hold'⟩, h.limited⟩

lemma Tracks.trim (h : Tracks r clock times queue) :
    Tracks r clock times (trim queue (clock - r.windowSeconds)) := by
  obtain ⟨old, hsplit, hold⟩ := h.kept
  let gone := queue.takeWhile fun hit => decide (hit ≤ clock - r.windowSeconds)
  refine ⟨h.sorted, h.past, ⟨old ++ gone, ?_, ?_⟩, h.limited⟩
  · rw [hsplit, List.append_assoc, MemoryWindows.trim, List.takeWhile_append_dropWhile]
  · intro t ht
    rcases List.mem_append.mp ht with ht | ht
    · exact hold t ht
    · simpa using List.mem_takeWhile_imp ht

/-- A window that holds the new time begins no earlier than the one that ends with it. -/
lemma Tracks.held_push (h : Tracks r clock times queue)
    (hroom : held r.windowSeconds times clock < r.limit) (stop : ℚ) :
    held r.windowSeconds (times ++ [clock]) stop ≤ r.limit := by
  rw [held, List.countP_append, List.countP_singleton]
  split
  · next hin =>
    simp only [decide_eq_true_eq] at hin
    have hle : held r.windowSeconds times stop ≤ held r.windowSeconds times clock := by
      refine List.countP_mono_left fun t ht hstop => ?_
      simp only [decide_eq_true_eq] at hstop ⊢
      exact ⟨by linarith, h.past t ht⟩
    exact Nat.succ_le_of_lt (hle.trans_lt hroom)
  · exact h.limited stop

lemma Tracks.push (h : Tracks r clock times queue)
    (hroom : held r.windowSeconds times clock < r.limit) :
    Tracks r clock (times ++ [clock]) (queue ++ [clock]) := by
  obtain ⟨old, hsplit, hold⟩ := h.kept
  refine ⟨?_, ?_, ⟨old, ?_, hold⟩, h.held_push hroom⟩
  · refine List.pairwise_append.mpr ⟨h.sorted, List.pairwise_singleton _ _, ?_⟩
    intro t ht now hnow
    exact List.mem_singleton.mp hnow ▸ h.past t ht
  · intro t ht
    rcases List.mem_append.mp ht with ht | ht
    · exact h.past t ht
    · exact (List.mem_singleton.mp ht).le
  · rw [hsplit, List.append_assoc]

end Key

/-! ### Runs -/

variable {rule} {s s' : WindowState} {key : String}

/-- Every deque is what the calls on its key have left. -/
def Faithful (rule : String → RateRule) (s : WindowState) : Prop :=
  ∀ key, Tracks (rule key) s.clock (s.allowed key) (s.hits key)

lemma faithful_start (rule : String → RateRule) (clock : ℚ) : Faithful rule (.start clock) :=
  fun key => tracks_nil (rule key) clock

lemma Faithful.answer_iff (h : Faithful rule s) (key : String) :
    (s.answer rule key).1 = false ↔
      (rule key).limit ≤ held (rule key).windowSeconds (s.allowed key) s.clock := by
  rw [← (h key).length_trim, WindowState.answer, allow]
  split <;> simp [*]

lemma faithful_step (s : WindowState) (act : WindowAction) (h : Faithful rule s) :
    Faithful rule (step rule s act) := by
  cases act with
  | wait until_ => exact fun key => (h key).mono (le_max_left _ _)
  | call client loop key =>
    intro k
    rw [step, syncAllow_eq]
    dsimp only
    by_cases hk : k = key
    · subst hk
      by_cases hfull : (rule k).limit ≤ (trim (s.hits k) (s.clock - (rule k).windowSeconds)).length
      · simp only [allow, if_pos hfull, Bool.false_eq_true, if_false, Function.update_self]
        exact (h k).trim
      · simp only [allow, if_neg hfull, if_true, Function.update_self]
        rw [(h k).length_trim, not_le] at hfull
        exact (h k).trim.push hfull
    · have hhits : (allow (rule key) s.hits key s.clock).1 k = s.hits k := by
        rw [allow]
        split <;> simp [hk]
      have hallowed : (if (allow (rule key) s.hits key s.clock).2.1 = true then
          Function.update s.allowed key (s.allowed key ++ [s.clock]) else s.allowed) k =
            s.allowed k := by
        split <;> simp [hk]
      rw [hhits, hallowed]
      exact h k

lemma faithful_run (rule : String → RateRule) (clock : ℚ) (actions : List WindowAction) :
    Faithful rule (run (step rule) (.start clock) actions) :=
  invariant_all faithful_step (faithful_start rule clock) actions

/-! ### When to try again -/

lemma one_le_retryAfter (h : (s.answer rule key).1 = false) : 1 ≤ (s.answer rule key).2 := by
  rw [WindowState.answer, allow] at h ⊢
  split at h
  · next hfull =>
    rw [if_pos hfull]
    exact le_max_left _ _
  · cases h

/-- The first hit of a deque that is full has left its window when it is time to try again. -/
lemma lt_retryAfter {q : ℚ} {rest : List ℚ} (h : (s.answer rule key).1 = false)
    (hqueue : trim (s.hits key) (s.clock - (rule key).windowSeconds) = q :: rest)
    (hq : s.clock - (rule key).windowSeconds < q) :
    q + (rule key).windowSeconds < s.clock + (s.answer rule key).2 := by
  rw [WindowState.answer, allow] at h ⊢
  split at h
  · next hfull =>
    rw [if_pos hfull, hqueue, List.headD_cons]
    dsimp only
    set left := (rule key).windowSeconds - (s.clock - q) with hleft
    have hpos : 0 ≤ left := by linarith
    have hfloor : left < (truncated left + 1 : ℤ) := by
      rw [truncated, if_pos hpos, Int.cast_add, Int.cast_one]
      exact Int.lt_floor_add_one left
    have hmax : ((truncated left + 1 : ℤ) : ℚ) ≤ (max 1 (truncated left + 1) : ℤ) :=
      Int.cast_le.mpr (le_max_right _ _)
    linarith
  · cases h

lemma answer_after_retry (hs : Faithful rule s) (hs' : Faithful rule s')
    (hdenied : (s.answer rule key).1 = false) (hsame : s'.allowed key = s.allowed key)
    (hclock : s.clock + (s.answer rule key).2 ≤ s'.clock) : (s'.answer rule key).1 = true := by
  have hlater : s.clock ≤ s'.clock := by
    have hone : (1 : ℚ) ≤ (s.answer rule key).2 := by exact_mod_cast one_le_retryAfter hdenied
    linarith
  by_contra hnot
  have hfull := (hs'.answer_iff key).mp (by simpa using hnot)
  have hlimited := (hs key).limited s.clock
  have hpos := (rule key).limit_pos
  rw [← (hs key).length_trim] at hlimited
  rw [← (hs' key).length_trim, (hs' key).trim_eq, hsame] at hfull
  -- what the later window holds, the earlier one held
  have hsub : (s.allowed key).filter (fun t => s'.clock - (rule key).windowSeconds < t) =
      (trim (s.hits key) (s.clock - (rule key).windowSeconds)).filter
        (fun t => s'.clock - (rule key).windowSeconds < t) := by
    rw [(hs key).trim_eq, List.filter_filter]
    refine List.filter_congr fun t _ => ?_
    rw [← Bool.decide_and, decide_eq_decide]
    exact ⟨fun h => ⟨h, by linarith⟩, And.left⟩
  rw [hsub] at hfull
  cases hqueue : trim (s.hits key) (s.clock - (rule key).windowSeconds) with
  | nil =>
    rw [hqueue, List.filter_nil, List.length_nil] at hfull
    omega
  | cons q rest =>
    have hq : s.clock - (rule key).windowSeconds < q := by
      have hmem : q ∈ trim (s.hits key) (s.clock - (rule key).windowSeconds) := by simp [hqueue]
      rw [(hs key).trim_eq] at hmem
      simpa using (List.mem_filter.mp hmem).2
    have hgone := lt_retryAfter hdenied hqueue hq
    rw [hqueue, List.length_cons] at hlimited
    rw [hqueue, List.filter_cons_of_neg (by simp; linarith)] at hfull
    have hrest := List.length_filter_le
      (fun t => decide (s'.clock - (rule key).windowSeconds < t)) rest
    omega

/-! ### One key apart from the others -/

/-- The states look alike to calls on the key. -/
structure Alike (key : String) (s s' : WindowState) : Prop where
  clock : s.clock = s'.clock
  hits : s.hits key = s'.hits key
  allowed : s.allowed key = s'.allowed key

lemma Alike.answer (h : Alike key s s') : s.answer rule key = s'.answer rule key := by
  rw [WindowState.answer, WindowState.answer, allow, allow, h.clock, h.hits]
  split <;> rfl

lemma alike_away {client loop : Bool} {k : String} (hk : k ≠ key) (s : WindowState) :
    Alike key (step rule s (.call client loop k)) s := by
  have hne : key ≠ k := hk.symm
  refine ⟨rfl, ?_, ?_⟩
  · rw [step, syncAllow_eq, allow]
    dsimp only
    split <;> simp [hne]
  · rw [step, syncAllow_eq]
    dsimp only
    split <;> simp [hne]

lemma Alike.step (h : Alike key s s') {act : WindowAction} (hact : Concerns key act = true) :
    Alike key (step rule s act) (step rule s' act) := by
  cases act with
  | wait until_ => exact ⟨by simp [MemoryWindows.step, h.clock], h.hits, h.allowed⟩
  | call client loop k =>
    obtain rfl : k = key := by simpa [Concerns] using hact
    have hanswer : (allow (rule k) s.hits k s.clock).2 = (allow (rule k) s'.hits k s'.clock).2 :=
      h.answer
    refine ⟨h.clock, ?_, ?_⟩
    · simp only [MemoryWindows.step, syncAllow_eq, allow, h.clock, h.hits]
      split <;> simp
    · simp only [MemoryWindows.step, syncAllow_eq, hanswer]
      split
      · simp [h.allowed, h.clock]
      · exact h.allowed

/-- **Keys do not influence each other**: a run, and the run without the calls on other keys. -/
lemma alike_run (actions : List WindowAction) (h : Alike key s s') :
    Alike key (run (step rule) s actions) (run (step rule) s' (actions.filter (Concerns key))) := by
  induction actions generalizing s s' with
  | nil => exact h
  | cons act actions ih =>
    by_cases hact : Concerns key act = true
    · rw [List.filter_cons_of_pos hact]
      exact ih (h.step hact)
    · rw [List.filter_cons_of_neg hact]
      refine ih ?_
      cases act with
      | wait until_ => exact absurd rfl hact
      | call client loop k =>
        have hk : k ≠ key := by simpa [Concerns] using hact
        have haway : Alike key (step rule s (.call client loop k)) s := alike_away hk s
        exact ⟨haway.clock.trans h.clock, haway.hits.trans h.hits, haway.allowed.trans h.allowed⟩

/-! ### The window is exact -/

/-- **The in-process window is exact**: after every run, the next call on a key is denied exactly
when as many calls as its limit were allowed in the window that ends now; no window holds more; the
answer is the one that the calls on the key alone would have led to; and a call that is denied is
told to wait at least a second, and finds room when it has waited, unless another call took it. -/
theorem memory_window_exact (rule : String → RateRule) (clock : ℚ) (actions : List WindowAction)
    (key : String) :
    let s := run (step rule) (.start clock) actions
    let alone := run (step rule) (.start clock) (actions.filter (Concerns key))
    ((s.answer rule key).1 = false ↔
        held (rule key).windowSeconds (s.allowed key) s.clock = (rule key).limit) ∧
      (∀ stop, held (rule key).windowSeconds (s.allowed key) stop ≤ (rule key).limit) ∧
      (s.answer rule key = alone.answer rule key ∧ s.allowed key = alone.allowed key) ∧
      ((s.answer rule key).1 = false → 1 ≤ (s.answer rule key).2 ∧
        ∀ client loop more,
          let s' := run (step rule) s (.call client loop key :: more)
          s'.allowed key = s.allowed key → s.clock + (s.answer rule key).2 ≤ s'.clock →
            (s'.answer rule key).1 = true) := by
  intro s alone
  have hs : Faithful rule s := faithful_run rule clock actions
  have halike : Alike key s alone := alike_run actions ⟨rfl, rfl, rfl⟩
  have hlimited := (hs key).limited
  refine ⟨?_, hlimited, ⟨halike.answer, halike.allowed⟩, fun hdenied => ?_⟩
  · rw [hs.answer_iff key]
    exact ⟨fun hge => (hlimited _).antisymm hge, fun heq => heq.ge⟩
  · refine ⟨one_le_retryAfter hdenied, ?_⟩
    intro client loop more s' hsame hclock
    have hs' : Faithful rule s' := invariant_all faithful_step hs _
    exact answer_after_retry hs hs' hdenied hsame hclock

/-- One call a minute: the call on the edge of the window is allowed, the one before it is told to
wait two seconds. -/
example :
    let s := run (step onceAMinute) (.start 0) [.call false false "k", .wait 59]
    s.answer onceAMinute "k" = (false, 2) ∧
      (run (step onceAMinute) s [.wait 60]).answer onceAMinute "k" = (true, 0) := by
  decide +kernel

end SchoolOs.MemoryWindows
