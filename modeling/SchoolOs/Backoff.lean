import SchoolOs.DeadLetters

/-!
When an event without a handler is tried again. Nothing bounds its attempts, and the delay is cut
off only after the power has become a float: from the attempt 1025 on it cannot be computed, and the
whole pass is rolled back.
-/

namespace SchoolOs

open Runs

/-- `min(30 * 2 ** max(0, attempts - 1), 3600)`. -/
def delaySeconds (attempts : ℕ) : ℕ := min (30 * 2 ^ (attempts - 1)) 3600

/-- No handler is registered for the event. -/
def Pass.Unhandled (p : Pass) (event : OutboxEvent) : Prop := p.handlers event.eventName = none

section Defs

variable (wenv : WorkerEnv) (registry : ChannelRegistry) (p : Pass) (w : WorkerDB)

/-- The row of an event that is tried again after the backoff delay. -/
structure Rescheduled (event row : OutboxEvent) : Prop where
  id : row.id = event.id
  eventName : row.eventName = event.eventName
  status : row.status = .failed
  attempts : row.attempts = event.attempts + 1
  nextAttemptAt : row.nextAttemptAt =
    some ((p.visit event.id).endedAt + seconds (delaySeconds (event.attempts + 1)))

/-- The delays of the pass can be computed; the events without a handler are tried again, whatever
their turn finds; and when the calls of the handlers are harmless, the pass goes through. -/
structure RetriesKept : Prop where
  delays : ∀ event ∈ p.batch wenv w, p.Unhandled event →
    backoffDelay (event.attempts + 1) = .ok (seconds (delaySeconds (event.attempts + 1)))
  turns : ∀ event ∈ p.batch wenv w, p.Unhandled event → ∀ w0, ∃ row w1,
    processEvent wenv registry p w0 event = .ok (row, w1) ∧ Rescheduled p event row
  commits : Along (p.turn wenv registry)
      (fun w0 event => ¬ p.Unhandled event → Harmless wenv registry p w0 event) w (p.batch wenv w) →
    (∃ r, runOnce wenv registry p w = .ok r) ∧
      ∀ event ∈ p.batch wenv w, p.Unhandled event → ∃ row ∈ (p.step wenv registry w).outboxEvents,
        row.id = event.id ∧ row.status = .failed ∧ row.attempts = event.attempts + 1

def OutboxStep.RetriesKept (w : WorkerDB) : OutboxStep → Prop
  | .pass p => SchoolOs.RetriesKept wenv registry p w
  | _ => True

/-- The events without a handler that the pass fetches have been tried fewer than 1024 times. -/
def OutboxStep.FewAttempts (w : WorkerDB) : OutboxStep → Prop
  | .pass p => ∀ event ∈ p.batch wenv w, p.Unhandled event → event.attempts < 1024
  | _ => True

end Defs

variable {wenv : WorkerEnv} {registry : ChannelRegistry} {p : Pass} {w w' : WorkerDB}
  {event : OutboxEvent} {n : ℕ}

/-! ### Delays -/

lemma delaySeconds_mono : Monotone delaySeconds := by
  intro m n h
  have hpow : 2 ^ (m - 1) ≤ 2 ^ (n - 1) := Nat.pow_le_pow_right (by decide) (by omega)
  unfold delaySeconds
  omega

lemma delaySeconds_le (n : ℕ) : delaySeconds n ≤ 3600 := Nat.min_le_right _ _

lemma backoffDelay_iff : backoffDelay n = .ok (seconds (delaySeconds n)) ↔ n ≤ 1024 := by
  rw [backoffDelay_ok, delaySeconds]
  exact and_iff_left rfl

/-! ### Turns -/

lemma Pass.Unhandled.called (h : p.Unhandled event) (w : WorkerDB) :
    p.called wenv registry w event = (w.notifications, .missing) := by
  rw [Pass.called, OutboxEvent.handlerCall, h]
  rfl

lemma Pass.Unhandled.harmless (hrepr : ∀ name, bindable (wenv.repr name) = true)
    (h : p.Unhandled event) (w : WorkerDB) :
    Harmless wenv registry p w event ↔ event.attempts < 1024 := by
  rw [Harmless, h.called]
  exact and_iff_right (bindable_append (by decide) (hrepr _))

lemma Pass.Unhandled.turn (hrepr : ∀ name, bindable (wenv.repr name) = true)
    (h : p.Unhandled event) (hfew : event.attempts < 1024) (w : WorkerDB) : ∃ row w1,
      processEvent wenv registry p w event = .ok (row, w1) ∧ Rescheduled p event row := by
  have hharmless : Harmless wenv registry p w event := (h.harmless hrepr w).mpr hfew
  obtain ⟨⟨row, w1⟩, hrow⟩ := processEvent_goes.mpr hharmless
  refine ⟨row, w1, hrow, ?_⟩
  have hsettle := (processEvent_ok.mp hrow).1
  rw [h.called] at hsettle
  obtain ⟨delay, hdelay, hflush⟩ := bind_ok.mp hsettle
  obtain ⟨-, rfl⟩ := flushFailure_ok.mp hflush
  obtain ⟨-, rfl⟩ := backoffDelay_ok.mp hdelay
  exact ⟨rfl, rfl, rfl, rfl, rfl⟩

/-- A pass goes through when the calls of its handlers are harmless, and its events without a
handler were tried less than 1024 times. -/
lemma runOnce_goes (hrepr : ∀ name, bindable (wenv.repr name) = true)
    (hfew : ∀ event ∈ p.batch wenv w, p.Unhandled event → event.attempts < 1024)
    (hcalls : Along (p.turn wenv registry)
      (fun w0 event => ¬ p.Unhandled event → Harmless wenv registry p w0 event) w
      (p.batch wenv w)) :
    ∃ r, runOnce wenv registry p w = .ok r := by
  refine processAll_goes.mpr ?_
  have hmem : Along (p.turn wenv registry)
      (fun _ event => p.Unhandled event → event.attempts < 1024) w (p.batch wenv w) :=
    along_of_mem hfew w
  refine (hcalls.and hmem).imp fun w0 event ⟨hcall, hfew⟩ => ?_
  by_cases h : p.Unhandled event
  · exact (h.harmless hrepr w0).mpr (hfew h)
  · exact hcall h

/-- **Events without a handler, exactly when they spoil nothing**: one pass. -/
theorem retriesKept_iff (hrepr : ∀ name, bindable (wenv.repr name) = true)
    (hkeys : (w.outboxEvents.map OutboxEvent.id).Nodup) : RetriesKept wenv registry p w ↔
      ∀ event ∈ p.batch wenv w, p.Unhandled event → event.attempts < 1024 := by
  refine ⟨fun h event hmem hun => backoffDelay_iff.mp (h.delays event hmem hun), fun hfew => ?_⟩
  refine ⟨fun event hmem hun => backoffDelay_iff.mpr (hfew event hmem hun),
    fun event hmem hun => hun.turn hrepr (hfew event hmem hun), fun hcalls => ?_⟩
  obtain ⟨⟨stats, w'⟩, hrun⟩ := runOnce_goes hrepr hfew hcalls
  refine ⟨⟨_, hrun⟩, fun event hmem hun => ?_⟩
  obtain ⟨pre, post, hbatch⟩ := List.append_of_mem hmem
  obtain ⟨_, w0, row, -, hrow, hin, -⟩ := runOnce_row hkeys hrun hbatch
  have hfailed := hrow.failed (by simp [hun.called])
  rw [step_of_runOnce hrun]
  exact ⟨row, hin, hrow.id, hfailed⟩

/-! ### Runs -/

lemma outboxStep_keys (w : WorkerDB) (i : OutboxStep)
    (h : (w.outboxEvents.map OutboxEvent.id).Nodup) :
    ((i.step wenv registry w).outboxEvents.map OutboxEvent.id).Nodup := by
  cases i with
  | publish e =>
    rw [OutboxStep.step, WorkerDB.publish]
    split
    · exact h
    next hfresh =>
    rw [List.map_append]
    exact h.append (List.nodup_singleton _) (by simpa using hfresh)
  | pass p => exact (step_keeps wenv registry p w).sameIds ▸ h
  | other tables notifications => exact h

lemma outboxStep_iff (hrepr : ∀ name, bindable (wenv.repr name) = true) (w : WorkerDB)
    (i : OutboxStep) (hkeys : (w.outboxEvents.map OutboxEvent.id).Nodup) :
    i.RetriesKept wenv registry w ↔ i.FewAttempts wenv w := by
  cases i with
  | pass p => exact retriesKept_iff hrepr hkeys
  | publish e => exact Iff.rfl
  | other tables notifications => exact Iff.rfl

/-- **Retries break no pass exactly while they are few**: the delay doubles up to an hour, and can
be computed for the first 1024 attempts; all passes of a run try the events without a handler again
and go on exactly when these were tried less than 1024 times in each. -/
theorem retries_kept_iff (hrepr : ∀ name, bindable (wenv.repr name) = true)
    (hkeys : (w.outboxEvents.map OutboxEvent.id).Nodup) (l : List OutboxStep) :
    (Monotone delaySeconds ∧ ∀ n, delaySeconds n ≤ 3600 ∧
        (backoffDelay n = .ok (seconds (delaySeconds n)) ↔ n ≤ 1024)) ∧
      (Along (OutboxStep.step wenv registry) (OutboxStep.RetriesKept wenv registry) w l ↔
        Along (OutboxStep.step wenv registry) (OutboxStep.FewAttempts wenv) w l) := by
  refine ⟨⟨delaySeconds_mono, fun n => ⟨delaySeconds_le n, backoffDelay_iff⟩⟩,
    fun h => ?_, fun h => ?_⟩
  · exact along_of_invariant (fun w i _ => outboxStep_keys w i)
      (fun w i hi hk => (outboxStep_iff hrepr w i hk).mp hi) h hkeys
  · exact along_of_invariant (fun w i _ => outboxStep_keys w i)
      (fun w i hi hk => (outboxStep_iff hrepr w i hk).mpr hi) h hkeys

/-! ### An event without a handler -/

/-- `repr` of a string, as far as NUL goes. -/
def reprText (s : String) : String :=
  "'" ++ String.ofList (s.toList.flatMap fun c =>
    if c = '\x00' then ['\\', 'x', '0', '0'] else [c]) ++ "'"

lemma reprText_bindable (s : String) : bindable (reprText s) = true := by
  have hinner : bindable (String.ofList (s.toList.flatMap fun c =>
      if c = '\x00' then ['\\', 'x', '0', '0'] else [c])) = true := by
    simp only [bindable, String.toList_ofList, Bool.not_eq_true', List.contains_eq_mem,
      decide_eq_false_iff_not, List.mem_flatMap, not_exists, not_and]
    intro c _
    split
    · decide
    · next hne => exact fun hmem => hne (List.mem_singleton.mp hmem).symm
  exact bindable_append (bindable_append (by decide) hinner) (by decide)

/-- A worker with the default settings, that writes a NUL as four characters. -/
def WorkerEnv.escaping : WorkerEnv := { WorkerEnv.plain with repr := reprText }

lemma escaping_repr (name : String) : bindable (WorkerEnv.escaping.repr name) = true :=
  reprText_bindable name

/-- An event of a kind that has no handler. -/
def unhandledEvent : NewEvent := { newAnnouncement with eventName := "GRADE_PUBLISHED" }

/-- The pass at the hour `h`, of a worker that has a handler for announcements alone. -/
def Pass.hourly (h : ℕ) : Pass :=
  { Pass.leading none .database with
    now := seconds (3600 * h)
    handlers := fun name => if name = "ANNOUNCEMENT_PUBLISHED" then some announcing else none
    visit := fun _ => ⟨seconds (3600 * h), seconds (3600 * h), Ulid.ofNat⟩ }

/-- The event, and a pass every hour. -/
def hourlyRun (n : ℕ) : List OutboxStep :=
  .publish unhandledEvent :: (List.range n).map fun h => .pass (.hourly h)

/-- What the table holds after `n` passes. -/
structure Retried (n : ℕ) (w : WorkerDB) (row : OutboxEvent) : Prop where
  only : w.outboxEvents = [row]
  id : row.id = 501
  eventName : row.eventName = "GRADE_PUBLISHED"
  attempts : row.attempts = n
  due : row.isDue (seconds (3600 * n)) = true

lemma Retried.batch (h : Retried n w event) : (Pass.hourly n).batch .escaping w = [event] := by
  have hfilter : w.outboxEvents.filter (·.isDue (Pass.hourly n).now) = [event] := by
    rw [h.only, List.filter_eq_self]
    intro e he
    rw [List.mem_singleton.mp he]
    exact h.due
  have hsort : (Pass.hourly n).order.sort [event] = [event] :=
    List.perm_singleton.mp ((Pass.hourly n).order.perm [event])
  have hlimit : (Pass.hourly n).limit .escaping = 25 := rfl
  have hleader : (Pass.hourly n).leader = true := rfl
  rw [Pass.batch, if_pos hleader, fetchDueEvents, hfilter, hsort, hlimit]
  rfl

lemma Retried.unhandled (h : Retried n w event) : (Pass.hourly n).Unhandled event := by
  rw [Pass.Unhandled, h.eventName]
  simp [Pass.hourly]

lemma Retried.pass (h : Retried n w event) (hn : n < 1024) : ∃ row,
    Retried (n + 1) ((Pass.hourly n).step .escaping defaultRegistry w) row := by
  have hfew : event.attempts < 1024 := h.attempts.trans_lt hn
  have hgoes : ∃ row w1,
      processEvent .escaping defaultRegistry (.hourly n) w event = .ok (row, w1) ∧
        Rescheduled (.hourly n) event row :=
    h.unhandled.turn escaping_repr hfew w
  obtain ⟨row, w1, hturn, hrow⟩ := hgoes
  have hstep : (Pass.hourly n).step .escaping defaultRegistry w = w1 := by
    have hrun : runOnce .escaping defaultRegistry (.hourly n) w =
        .ok (DispatchStats.count ⟨0, 0, 0⟩ row.status, w1) := by
      rw [runOnce, h.batch, processAll, hturn]
      rfl
    exact step_of_runOnce hrun
  have hw1 := (processEvent_ok.mp hturn).2
  refine ⟨row, ?_, hrow.id.trans h.id, ?_, by rw [hrow.attempts, h.attempts], ?_⟩
  · rw [hstep, hw1, WorkerDB.put, h.only, hrow.id]
    simp [Tables.set, Tables.setWhere]
  · rw [hrow.eventName, h.eventName]
  · have hvisit : ((Pass.hourly n).visit event.id).endedAt = seconds (3600 * n) := rfl
    have hdelay := delaySeconds_le (event.attempts + 1)
    have hdue : seconds (3600 * n) + seconds (delaySeconds (event.attempts + 1)) ≤
        seconds (3600 * (n + 1)) := by
      simp only [seconds]
      omega
    rw [OutboxEvent.isDue, hrow.status, hrow.nextAttemptAt, hvisit]
    simpa using hdue

lemma retried_run (hn : n ≤ 1024) : ∃ row,
    Retried n (run (OutboxStep.step .escaping defaultRegistry) noEvents (hourlyRun n)) row := by
  induction n with
  | zero => exact ⟨unhandledEvent.row, rfl, rfl, rfl, rfl, rfl⟩
  | succ n ih =>
    obtain ⟨row, hrow⟩ := ih (by omega)
    have hlast : hourlyRun (n + 1) = hourlyRun n ++ [.pass (.hourly n)] := by
      simp [hourlyRun, List.range_succ]
    rw [hlast, run_append]
    exact hrow.pass (by omega)

/-- The first pass tries the event again in half a minute. -/
theorem hourlyRun_kept : Along (OutboxStep.step .escaping defaultRegistry)
    (OutboxStep.RetriesKept .escaping defaultRegistry) noEvents (hourlyRun 1) := by
  have hkeys : (noEvents.outboxEvents.map OutboxEvent.id).Nodup := List.nodup_nil
  refine (retries_kept_iff escaping_repr hkeys (hourlyRun 1)).2.mpr ⟨trivial, ?_, trivial⟩
  intro event hmem _
  obtain ⟨row, hrow⟩ : ∃ row, Retried 0
      (run (OutboxStep.step .escaping defaultRegistry) noEvents (hourlyRun 0)) row :=
    retried_run (Nat.zero_le _)
  have hevent : event = row := by
    have hbatch := hrow.batch
    exact List.mem_singleton.mp (hbatch ▸ hmem)
  rw [hevent, hrow.attempts]
  decide

/-- The pass of the hour 1024 raises `OverflowError`. -/
theorem hourlyRun_breaks : ¬ ∀ (wenv : WorkerEnv) (registry : ChannelRegistry) (w : WorkerDB)
    (l : List OutboxStep), (∀ name, bindable (wenv.repr name) = true) →
      (w.outboxEvents.map OutboxEvent.id).Nodup →
        Along (OutboxStep.step wenv registry) (OutboxStep.RetriesKept wenv registry) w l := by
  intro h
  obtain ⟨row, hrow⟩ : ∃ row, Retried 1024
      (run (OutboxStep.step .escaping defaultRegistry) noEvents (hourlyRun 1024)) row :=
    retried_run le_rfl
  have hrun := h .escaping defaultRegistry noEvents (hourlyRun 1024 ++ [.pass (.hourly 1024)])
    escaping_repr List.nodup_nil
  have hlast : RetriesKept .escaping defaultRegistry (.hourly 1024)
      (run (OutboxStep.step .escaping defaultRegistry) noEvents (hourlyRun 1024)) := hrun.last
  have hmem : row ∈ (Pass.hourly 1024).batch .escaping
      (run (OutboxStep.step .escaping defaultRegistry) noEvents (hourlyRun 1024)) := by
    rw [hrow.batch]
    exact List.mem_singleton_self row
  have hdelay := backoffDelay_iff.mp (hlast.delays row hmem hrow.unhandled)
  rw [hrow.attempts] at hdelay
  exact absurd hdelay (by decide)

end SchoolOs
