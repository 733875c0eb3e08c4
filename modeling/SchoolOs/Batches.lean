import SchoolOs.Dispatcher
import Mathlib.Data.List.Sort

/-!
Batches of events in one transaction: what one event that fails does to the others of its pass.
-/

namespace SchoolOs

variable {wenv : WorkerEnv} {registry : ChannelRegistry} {p : Pass} {w w' : WorkerDB}
  {event : OutboxEvent} {stats : DispatchStats} {batch : List OutboxEvent}

section Defs

variable (wenv : WorkerEnv) (registry : ChannelRegistry) (p : Pass) (w : WorkerDB)

/-- The state after the turn of an event. -/
def Pass.turn (event : OutboxEvent) : WorkerDB :=
  match processEvent wenv registry p w event with
  | .ok (_, w') => w'
  | .error _ => w

/-- The call of the handler raises no error of a statement. When it raises an exception, or there
is no handler, the text of the error has no NUL, the counter fits its column, and the delay of
the next attempt, if there is to be one, can be computed. -/
def Harmless (event : OutboxEvent) : Prop :=
  match (p.called wenv registry w event).2 with
  | .returned => True
  | .raised .database => False
  | .raised (.exception text) =>
    bindable (String.ofList (text.toList.take 2000)) = true ∧ event.attempts + 1 < 2 ^ 31 ∧
      (wenv.outboxMaxAttempts ≤ event.attempts + 1 ∨ event.attempts + 1 ≤ 1024)
  | .missing =>
    bindable ("No handler registered for " ++ wenv.repr event.eventName) = true ∧
      event.attempts + 1 ≤ 1024

/-- What the pass leaves of an event whose turn found the state `w0`. -/
structure EventKept (w0 w' : WorkerDB) (event : OutboxEvent) : Prop where
  sent : (p.called wenv registry w0 event).2 = .returned →
    (∃ row ∈ w'.outboxEvents, row.id = event.id ∧ row.status = .sent) ∧
      ∀ call ∈ event.handlerCall p.handlers (p.visit event.id) w0.tables, ∀ s ∈ call.sends,
        ∃ k, s.1.key? wenv = some k ∧ k ∈ w'.notifications.map Notification.key
  failed : (p.called wenv registry w0 event).2 ≠ .returned →
    ∃ row ∈ w'.outboxEvents, row.id = event.id ∧ row.status = .failed ∧
      row.attempts = event.attempts + 1

/-- The pass commits; the events whose handlers succeeded are sent, with their notifications; the
others are failed, with one more attempt; and no later pass adds a second row to a
notification. -/
structure BatchKept : Prop where
  commits : ∃ r, runOnce wenv registry p w = .ok r
  rows : ∀ pre event post stats0 w0, p.batch wenv w = pre ++ event :: post →
    processAll wenv registry p ⟨0, 0, 0⟩ w pre = .ok (stats0, w0) →
      EventKept wenv registry p w0 (p.step wenv registry w) event
  later : ∀ (later : List Pass), ∀ n ∈ (p.step wenv registry w).notifications,
    countKey n.key (Runs.run (Pass.step wenv registry) (p.step wenv registry w) later).notifications
      = countKey n.key (p.step wenv registry w).notifications

end Defs

/-! ### When a batch goes through -/

/-- The settlement goes through exactly when the call was harmless. -/
lemma settle_goes {visit : Visit} : (∃ row, settle wenv visit (claim wenv visit event)
    (p.called wenv registry w event).2 = .ok row) ↔ Harmless wenv registry p w event := by
  unfold Harmless
  cases (p.called wenv registry w event).2 with
  | returned => exact iff_of_true ⟨_, rfl⟩ trivial
  | missing =>
    -- A type without handlers costs an attempt and a delay.
    refine ⟨?_, fun ⟨hbind, hdelay⟩ => ?_⟩
    · rintro ⟨row, hrow⟩
      obtain ⟨delay, hdelay, hflush⟩ := bind_ok.mp hrow
      exact ⟨(flushFailure_ok.mp hflush).1.2 _ rfl, (backoffDelay_ok.mp hdelay).1⟩
    · have hcol : event.attempts + 1 < 2 ^ 31 := by omega
      refine ⟨_, bind_ok.mpr ⟨_, backoffDelay_ok.mpr ⟨hdelay, rfl⟩,
        flushFailure_ok.mpr ⟨⟨hcol, ?_⟩, rfl⟩⟩⟩
      intro e he
      obtain rfl := Option.some.inj he
      exact hbind
  | raised e =>
    cases e with
    -- The session of a failed statement cannot be flushed.
    | database => exact iff_of_false (fun ⟨_, h⟩ => by cases h) id
    | exception text =>
      -- An error text has to fit its column.
      refine ⟨?_, fun ⟨hbind, hcol, hnext⟩ => ?_⟩
      · rintro ⟨row, hrow⟩
        obtain ⟨next, hnext, hflush⟩ := bind_ok.mp hrow
        have hfits := (flushFailure_ok.mp hflush).1
        exact ⟨hfits.2 _ rfl, hfits.1, nextAttempt_ok.mp ⟨next, hnext⟩⟩
      · obtain ⟨next, hnext⟩ := nextAttempt_ok.mpr hnext
        refine ⟨_, bind_ok.mpr ⟨next, hnext, flushFailure_ok.mpr ⟨⟨hcol, ?_⟩, rfl⟩⟩⟩
        intro e he
        obtain rfl := Option.some.inj he
        exact hbind

lemma processEvent_goes : (∃ r, processEvent wenv registry p w event = .ok r) ↔
    Harmless wenv registry p w event := by
  have hgoes : (∃ row, settle wenv (p.visit event.id) (claim wenv (p.visit event.id) event)
      (p.called wenv registry w event).2 = .ok row) ↔ Harmless wenv registry p w event :=
    settle_goes
  rw [← hgoes]
  refine ⟨?_, ?_⟩
  · rintro ⟨⟨row, w'⟩, h⟩
    exact ⟨row, (processEvent_ok.mp h).1⟩
  · rintro ⟨row, h⟩
    exact ⟨(row, _), processEvent_ok.mpr ⟨h, rfl⟩⟩

/-- **All or nothing**: a batch goes through exactly when every turn of it is harmless. -/
theorem processAll_goes : (∃ r, processAll wenv registry p stats w batch = .ok r) ↔
    Runs.Along (Pass.turn wenv registry p) (Harmless wenv registry p) w batch := by
  induction batch generalizing stats w with
  | nil => exact iff_of_true ⟨_, rfl⟩ trivial
  | cons event rest ih =>
    rw [Runs.along_cons, ← processEvent_goes]
    refine ⟨?_, ?_⟩
    · rintro ⟨r, h⟩
      obtain ⟨⟨row, w1⟩, hevent, hrest⟩ := bind_ok.mp h
      have hturn : p.turn wenv registry w event = w1 := by simp only [Pass.turn, hevent]
      rw [hturn]
      exact ⟨⟨_, hevent⟩, ih.mp ⟨r, hrest⟩⟩
    · rintro ⟨⟨⟨row, w1⟩, hevent⟩, hrest⟩
      have hturn : p.turn wenv registry w event = w1 := by simp only [Pass.turn, hevent]
      rw [hturn] at hrest
      obtain ⟨r, hr⟩ := ih.mpr hrest
      exact ⟨r, bind_ok.mpr ⟨_, hevent, hr⟩⟩

/-! ### What a batch that goes through leaves -/

lemma called_stored (hin : .inApp ∈ registry)
    (h : (p.called wenv registry w event).2 = .returned) :
    ∀ call ∈ event.handlerCall p.handlers (p.visit event.id) w.tables, ∀ s ∈ call.sends,
      ∃ k, s.1.key? wenv = some k ∧
        k ∈ (p.called wenv registry w event).1.map Notification.key := by
  intro call hcall s hs
  have hcalled : p.called wenv registry w event = callHandler wenv registry w.notifications
      (some call) := congrArg _ hcall
  rw [hcalled] at h ⊢
  simp only [callHandler] at h ⊢
  split at h
  · next ns' he =>
    have hdone := HandlerCall.run_returns (congrArg Prod.snd he)
    have hfst : (broadcastAll wenv registry w.notifications call.sends).1 = ns' := by
      rw [← HandlerCall.run_fst, he]
    obtain ⟨k, hk, _, hmem⟩ := broadcastAll_complete hin hdone.1 s hs
    rw [hfst] at hmem
    exact ⟨k, hk, hmem⟩
  · cases h

/-- Notifications after later passes: no second row for a key that is there. -/
lemma later_deduped (wenv : WorkerEnv) (registry : ChannelRegistry) (later : List Pass)
    (w : WorkerDB) : Deduped w.notifications
      (Runs.run (Pass.step wenv registry) w later).notifications := by
  induction later generalizing w with
  | nil => exact .refl _
  | cons p later ih => exact (step_keeps wenv registry p w).notifications.trans (ih _)

/-- **One bad event, exactly when it spoils the batch**: the pass keeps what the claim asks for if
and only if every call of a handler, in its turn, is harmless. -/
theorem batchKept_iff (hkeys : (w.outboxEvents.map OutboxEvent.id).Nodup)
    (hin : .inApp ∈ registry) : BatchKept wenv registry p w ↔
      Runs.Along (Pass.turn wenv registry p) (Harmless wenv registry p) w (p.batch wenv w) := by
  rw [← processAll_goes]
  refine ⟨fun h => h.commits, fun ⟨⟨stats', w'⟩, hgo⟩ => ?_⟩
  have hrun : runOnce wenv registry p w = .ok (stats', w') := hgo
  have hstep : p.step wenv registry w = w' := step_of_runOnce hrun
  refine ⟨⟨_, hrun⟩, ?_, fun later n hn => ?_⟩
  · intro pre event post stats0 w0 hbatch hpre
    rw [hstep]
    obtain ⟨stats1, w1, row, hpre1, hrow, hrowmem, hded⟩ := runOnce_row hkeys hrun hbatch
    obtain ⟨rfl, rfl⟩ := Prod.mk.inj (Except.ok.inj (hpre.symm.trans hpre1))
    refine ⟨fun hret => ⟨⟨row, hrowmem, hrow.id, (hrow.sent hret).1⟩, ?_⟩, fun hne => ?_⟩
    · intro call hcall s hs
      obtain ⟨k, hk, hks⟩ := called_stored hin hret call hcall s hs
      exact ⟨k, hk, hded.mem hks⟩
    · exact ⟨row, hrowmem, hrow.id, hrow.failed hne⟩
  · exact (later_deduped wenv registry later _).count_eq (List.mem_map_of_mem hn)

/-! ### A lost connection in the second call of two -/

/-- Rows of one time stay in their order. -/
def FetchOrder.stable : FetchOrder where
  sort := List.insertionSort fun a b => a.createdAt ≤ b.createdAt
  perm := fun l => List.perm_insertionSort _ l
  sorted := by
    intro l
    have htotal : Std.Total fun a b : OutboxEvent => a.createdAt ≤ b.createdAt :=
      ⟨fun a b => le_total a.createdAt b.createdAt⟩
    have htrans : IsTrans OutboxEvent fun a b => a.createdAt ≤ b.createdAt :=
      ⟨fun _ _ _ h h' => le_trans h h'⟩
    exact List.pairwise_insertionSort _ l

/-- Two announcements that wait. -/
def twoAnnouncements : WorkerDB where
  tables := twoMembers
  outboxEvents := [announcement 401, { announcement 402 with id := 502 }]
  notifications := []

/-- A pass of the leader, whose handler fails on the announcement `failing`. -/
def Pass.leading (failing : Option Ulid) (e : Failure) : Pass where
  leader := true
  batchSize := none
  now := 0
  order := .stable
  handlers _ := some fun tables payload envelope draw =>
    if envelope.entityId = failing then stopped (some e)
    else announcing tables payload envelope draw
  visit id := ⟨0, 0, fun k => Ulid.ofNat (k + 2 * id.value)⟩

lemma leading_batch (failing : Option Ulid) (e : Failure) :
    (Pass.leading failing e).batch .plain twoAnnouncements =
      [announcement 401, { announcement 402 with id := 502 }] := rfl

/-- An exception spoils nothing. -/
theorem twoAnnouncements_kept : BatchKept .plain defaultRegistry
    (Pass.leading (some 402) (.exception "ValueError: no such announcement")) twoAnnouncements := by
  refine (batchKept_iff (by decide) (by decide)).mpr ?_
  rw [leading_batch]
  refine ⟨trivial, ⟨by decide, by decide, by decide⟩, trivial⟩

/-- An error of a statement rolls the first announcement back with the second. -/
theorem twoAnnouncements_spoiled : ¬ ∀ (wenv : WorkerEnv) (registry : ChannelRegistry) (p : Pass)
    (w : WorkerDB), (w.outboxEvents.map OutboxEvent.id).Nodup → .inApp ∈ registry →
      BatchKept wenv registry p w := by
  intro h
  have hkept := h .plain defaultRegistry (Pass.leading (some 402) .database) twoAnnouncements
    (by decide) (by decide)
  have halong := processAll_goes.mp hkept.commits
  rw [leading_batch] at halong
  obtain ⟨_, hlost, _⟩ := halong
  exact hlost

end SchoolOs
