import SchoolOs.FanOut

/-!
The outbox dispatcher, one pass in one transaction: the leader fetches a batch of due events,
runs the handler of each, and settles its row.
-/

namespace SchoolOs

/-! ### State and inputs -/

/-- The tables the worker reads and writes. -/
structure WorkerDB where
  tables : WorkerTables
  outboxEvents : List OutboxEvent
  notifications : List Notification

/-- `publish`; the table takes no second row of an id. -/
def WorkerDB.publish (w : WorkerDB) (e : NewEvent) : WorkerDB :=
  if e.id ∈ w.outboxEvents.map OutboxEvent.id then w
  else { w with outboxEvents := w.outboxEvents ++ [e.row] }

/-- `ORDER BY created_at`: some sorted permutation of the rows. -/
structure FetchOrder where
  sort : List OutboxEvent → List OutboxEvent
  perm : ∀ l, (sort l).Perm l
  sorted : ∀ l, (sort l).Pairwise fun a b => a.createdAt ≤ b.createdAt

/-- When the work on an event starts and ends, and the ids its handler draws. -/
structure Visit where
  startedAt : Instant
  endedAt : Instant
  draw : ℕ → Ulid

/-- A pass: whether the leader lock was obtained, and what the pass finds and draws. -/
structure Pass where
  leader : Bool
  batchSize : Option ℕ
  now : Instant
  order : FetchOrder
  handlers : String → Option Handler
  visit : Ulid → Visit

/-- How the call of a handler ends, if there is one for the event. -/
inductive HandlerResult
  | missing
  | returned
  | raised (e : Failure)

/-- Counts of a pass. -/
structure DispatchStats where
  processed : ℕ
  sent : ℕ
  failed : ℕ
  deriving DecidableEq

def DispatchStats.count (stats : DispatchStats) (status : OutboxStatus) : DispatchStats where
  processed := stats.processed + 1
  sent := stats.sent + if status = .sent then 1 else 0
  failed := stats.failed + if status = .sent then 0 else 1

section Dispatch

variable (wenv : WorkerEnv) (registry : ChannelRegistry)

/-! ### Fetching -/

def OutboxEvent.isDue (now : Instant) (e : OutboxEvent) : Bool :=
  (e.status = .pending ∨ e.status = .failed) ∧ ∀ t ∈ e.nextAttemptAt, t ≤ now

/-- The due events among those no other transaction has locked, oldest first. -/
def fetchDueEvents (order : FetchOrder) (now : Instant) (batchSize : ℕ)
    (events : List OutboxEvent) : List OutboxEvent :=
  (order.sort (events.filter (·.isDue now))).take batchSize

/-- `batch_size or settings.outbox_batch_size`. -/
def Pass.limit (p : Pass) : ℕ :=
  match p.batchSize with
  | some (n + 1) => n + 1
  | _ => wenv.outboxBatchSize

/-- The events of the pass. -/
def Pass.batch (p : Pass) (w : WorkerDB) : List OutboxEvent :=
  if p.leader then fetchDueEvents p.order p.now (p.limit wenv) w.outboxEvents else []

/-! ### One event -/

/-- `_backoff_delay`: half a minute, doubled with every attempt, at most an hour. A power of two
from `2 ^ 1024` on does not convert to a float. -/
def backoffDelay (attempts : ℕ) : Except Failure ℕ :=
  if attempts ≤ 1024 then .ok (seconds (min (30 * 2 ^ (attempts - 1)) 3600))
  else .error (.exception "OverflowError: int too large to convert to float")

/-- The claim that is flushed before the handler runs. -/
def claim (visit : Visit) (event : OutboxEvent) : OutboxEvent :=
  { event with
    status := .processing, lockedBy := some wenv.workerId, lockedAt := some visit.startedAt }

/-- The flush of a failed attempt: the counter fits its column, and the text has no NUL. -/
def flushFailure (row : OutboxEvent) : Except Failure OutboxEvent :=
  if row.attempts < 2 ^ 31 ∧ ∀ e ∈ row.lastError, bindable e = true then .ok row
  else .error .database

/-- When a failed event is due again; never set again once it is dead-lettered. -/
def nextAttempt (visit : Visit) (attempts : ℕ) : Except Failure (Option Instant) :=
  if wenv.outboxMaxAttempts ≤ attempts then .ok none
  else (backoffDelay attempts).map fun delay => some (visit.endedAt + delay)

/-- The row after the call of its handler. After an error of a statement the flush raises, too. -/
def settle (visit : Visit) (event : OutboxEvent) : HandlerResult → Except Failure OutboxEvent
  | .missing => do
    let delay ← backoffDelay (event.attempts + 1)
    flushFailure { event with
      status := .failed
      lastError := some ("No handler registered for " ++ wenv.repr event.eventName)
      attempts := event.attempts + 1
      nextAttemptAt := some (visit.endedAt + delay) }
  | .returned => .ok { event with
      status := .sent, processedAt := some visit.endedAt, lastError := none,
      lockedBy := none, lockedAt := none }
  | .raised .database => .error .database
  | .raised (.exception text) => do
    let nextAttemptAt ← nextAttempt wenv visit (event.attempts + 1)
    flushFailure { event with
      status := .failed
      attempts := event.attempts + 1
      nextAttemptAt := nextAttemptAt
      lastError := some (String.ofList (text.toList.take 2000))
      lockedBy := none
      lockedAt := none }

/-- The call the handler of an event makes. -/
def OutboxEvent.handlerCall (event : OutboxEvent) (handlers : String → Option Handler)
    (visit : Visit) (tables : WorkerTables) : Option HandlerCall :=
  (handlers event.eventName).map fun handler =>
    handler tables event.payload event.envelope visit.draw

/-- The notifications after the call, and how it ended. -/
def callHandler (ns : List Notification) : Option HandlerCall → List Notification × HandlerResult
  | none => (ns, .missing)
  | some call =>
    match call.run wenv registry ns with
    | (ns', none) => (ns', .returned)
    | (ns', some e) => (ns', .raised e)

def WorkerDB.put (w : WorkerDB) (row : OutboxEvent) : WorkerDB :=
  { w with outboxEvents := Tables.set OutboxEvent.id row.id (fun _ => row) w.outboxEvents }

/-- What the handler of an event leaves in the state it finds. -/
def Pass.called (p : Pass) (w : WorkerDB) (event : OutboxEvent) :
    List Notification × HandlerResult :=
  callHandler wenv registry w.notifications
    (event.handlerCall p.handlers (p.visit event.id) w.tables)

def processEvent (p : Pass) (w : WorkerDB) (event : OutboxEvent) :
    Except Failure (OutboxEvent × WorkerDB) := do
  let claimed := claim wenv (p.visit event.id) event
  let w := w.put claimed
  let (notifications, result) := p.called wenv registry w event
  let row ← settle wenv (p.visit event.id) claimed result
  return (row, { w with notifications := notifications }.put row)

/-! ### A pass -/

def processAll (p : Pass) : DispatchStats → WorkerDB → List OutboxEvent →
    Except Failure (DispatchStats × WorkerDB)
  | stats, w, [] => .ok (stats, w)
  | stats, w, event :: rest => do
    let (row, w) ← processEvent wenv registry p w event
    processAll p (stats.count row.status) w rest

def runOnce (p : Pass) (w : WorkerDB) : Except Failure (DispatchStats × WorkerDB) :=
  processAll wenv registry p ⟨0, 0, 0⟩ w (p.batch wenv w)

/-- The committed state after the pass: a pass that raises is rolled back. -/
def Pass.step (w : WorkerDB) (p : Pass) : WorkerDB :=
  match runOnce wenv registry p w with
  | .ok (_, w') => w'
  | .error _ => w

end Dispatch

/-! ### What one event leaves -/

variable {wenv : WorkerEnv} {registry : ChannelRegistry} {p : Pass} {w w' : WorkerDB}
  {event row : OutboxEvent} {visit : Visit} {result : HandlerResult}
  {stats stats' : DispatchStats} {batch : List OutboxEvent}

/-- The row of an event whose handler was called, by how the call ended. -/
structure Settled (event : OutboxEvent) (result : HandlerResult) (row : OutboxEvent) : Prop where
  id : row.id = event.id
  sent : result = .returned → row.status = .sent ∧ row.attempts = event.attempts
  failed : result ≠ .returned → row.status = .failed ∧ row.attempts = event.attempts + 1

lemma put_put {a b : OutboxEvent} (h : a.id = b.id) (ns : List Notification) :
    { w.put a with notifications := ns }.put b = { w with notifications := ns }.put b := by
  have hset : Tables.set OutboxEvent.id b.id (fun _ => b)
      (Tables.set OutboxEvent.id b.id (fun _ => a) w.outboxEvents) =
        Tables.set OutboxEvent.id b.id (fun _ => b) w.outboxEvents :=
    Tables.set_set_row h _
  simp only [WorkerDB.put, h, hset]

lemma backoffDelay_ok {attempts delay : ℕ} : backoffDelay attempts = .ok delay ↔
    attempts ≤ 1024 ∧ seconds (min (30 * 2 ^ (attempts - 1)) 3600) = delay := by
  unfold backoffDelay
  split
  · next h => rw [Except.ok.injEq, and_iff_right h]
  · next h => exact iff_of_false nofun fun h' => h h'.1

lemma flushFailure_ok : flushFailure event = .ok row ↔
    (event.attempts < 2 ^ 31 ∧ ∀ e ∈ event.lastError, bindable e = true) ∧ event = row := by
  unfold flushFailure
  split
  · next h => rw [Except.ok.injEq, and_iff_right h]
  · next h => exact iff_of_false nofun fun h' => h h'.1

/-- The next attempt is decided unless its delay cannot be computed. -/
lemma nextAttempt_ok {attempts : ℕ} : (∃ t, nextAttempt wenv visit attempts = .ok t) ↔
    wenv.outboxMaxAttempts ≤ attempts ∨ attempts ≤ 1024 := by
  unfold nextAttempt
  by_cases hmax : wenv.outboxMaxAttempts ≤ attempts
  · rw [if_pos hmax]
    exact iff_of_true ⟨none, rfl⟩ (.inl hmax)
  · rw [if_neg hmax, or_iff_right hmax]
    refine ⟨?_, fun h => ?_⟩
    · rintro ⟨t, ht⟩
      obtain ⟨delay, hdelay, _⟩ := map_ok.mp ht
      exact (backoffDelay_ok.mp hdelay).1
    · exact ⟨_, map_ok.mpr ⟨_, backoffDelay_ok.mpr ⟨h, rfl⟩, rfl⟩⟩

theorem settle_ok (h : settle wenv visit event result = .ok row) : Settled event result row := by
  cases result with
  | missing =>
    obtain ⟨delay, _, hflush⟩ := bind_ok.mp h
    obtain ⟨_, rfl⟩ := flushFailure_ok.mp hflush
    exact ⟨rfl, nofun, fun _ => ⟨rfl, rfl⟩⟩
  | returned =>
    obtain rfl := Except.ok.inj h
    exact ⟨rfl, fun _ => ⟨rfl, rfl⟩, fun hne => absurd rfl hne⟩
  | raised e =>
    cases e with
    | database => cases h
    | exception text =>
      obtain ⟨next, _, hflush⟩ := bind_ok.mp h
      obtain ⟨_, rfl⟩ := flushFailure_ok.mp hflush
      exact ⟨rfl, nofun, fun _ => ⟨rfl, rfl⟩⟩

/-- **One event**: its row is settled as its handler ended, and nothing else of the outbox
changes. -/
theorem processEvent_ok : processEvent wenv registry p w event = .ok (row, w') ↔
    settle wenv (p.visit event.id) (claim wenv (p.visit event.id) event)
        (p.called wenv registry w event).2 = .ok row ∧
      w' = { w with notifications := (p.called wenv registry w event).1 }.put row := by
  have hcalled : p.called wenv registry (w.put (claim wenv (p.visit event.id) event)) event =
      p.called wenv registry w event := rfl
  simp only [processEvent, bind_ok, pure_ok, hcalled, Prod.mk.injEq]
  refine ⟨?_, ?_⟩
  · rintro ⟨row', hrow, rfl, rfl⟩
    exact ⟨hrow, put_put (settle_ok hrow).id.symm _⟩
  · rintro ⟨hrow, rfl⟩
    exact ⟨row, hrow, rfl, put_put (settle_ok hrow).id.symm _⟩

lemma processEvent_error {e : Failure} (h : settle wenv (p.visit event.id)
    (claim wenv (p.visit event.id) event) (p.called wenv registry w event).2 = .error e) :
    processEvent wenv registry p w event = .error e := by
  have hcalled : p.called wenv registry (w.put (claim wenv (p.visit event.id) event)) event =
      p.called wenv registry w event := rfl
  simp only [processEvent, hcalled, h]
  rfl

lemma callHandler_fst {ns : List Notification} {call : HandlerCall} :
    (callHandler wenv registry ns (some call)).1 = (call.run wenv registry ns).1 := by
  simp only [callHandler]
  split <;> next he => rw [he]

lemma called_deduped (p : Pass) (w : WorkerDB) (event : OutboxEvent) :
    Deduped w.notifications (p.called wenv registry w event).1 := by
  unfold Pass.called callHandler
  split
  · exact .refl _
  next call _ =>
  have hrun := HandlerCall.run_deduped wenv registry w.notifications call
  split
  all_goals
    next he =>
    rw [he] at hrun
    exact hrun

/-- What processing an event keeps: the other rows, the ids, and the notifications. -/
structure PassKeeps (ids : List Ulid) (w w' : WorkerDB) : Prop where
  tables : w'.tables = w.tables
  sameIds : w'.outboxEvents.map OutboxEvent.id = w.outboxEvents.map OutboxEvent.id
  others : ∀ r, r.id ∉ ids → (r ∈ w'.outboxEvents ↔ r ∈ w.outboxEvents)
  notifications : Deduped w.notifications w'.notifications

lemma PassKeeps.refl (ids : List Ulid) (w : WorkerDB) : PassKeeps ids w w where
  tables := rfl
  sameIds := rfl
  others := fun _ _ => Iff.rfl
  notifications := .refl _

lemma PassKeeps.trans {ids ids' : List Ulid} {w'' : WorkerDB} (h : PassKeeps ids w w')
    (h' : PassKeeps ids' w' w'') : PassKeeps (ids ++ ids') w w'' where
  tables := h'.tables.trans h.tables
  sameIds := h'.sameIds.trans h.sameIds
  others := by
    intro r hr
    rw [List.mem_append, not_or] at hr
    exact (h'.others r hr.2).trans (h.others r hr.1)
  notifications := h.notifications.trans h'.notifications

lemma mem_put {r : OutboxEvent} (hne : r.id ≠ row.id) :
    r ∈ (w.put row).outboxEvents ↔ r ∈ w.outboxEvents := by
  refine Tables.mem_set.trans ⟨?_, fun h => ⟨r, h, if_neg hne⟩⟩
  rintro ⟨r0, hr0, he⟩
  split at he
  · exact absurd (congrArg OutboxEvent.id he.symm) hne
  · exact he ▸ hr0

lemma processEvent_keeps (h : processEvent wenv registry p w event = .ok (row, w')) :
    PassKeeps [event.id] w w' := by
  obtain ⟨hrow, rfl⟩ := processEvent_ok.mp h
  have hid : row.id = event.id := (settle_ok hrow).id
  refine ⟨rfl, Tables.map_key_set_row rfl _, fun r hr => ?_, called_deduped p w event⟩
  exact mem_put (hid ▸ fun he => hr (List.mem_singleton.mpr he))

/-! ### What a batch leaves -/

lemma processAll_append (wenv : WorkerEnv) (registry : ChannelRegistry) (p : Pass)
    (stats : DispatchStats) (w : WorkerDB) (a b : List OutboxEvent) :
    processAll wenv registry p stats w (a ++ b) =
      processAll wenv registry p stats w a >>= fun r => processAll wenv registry p r.1 r.2 b := by
  induction a generalizing stats w with
  | nil => rfl
  | cons event a ih =>
    simp only [List.cons_append, processAll]
    cases processEvent wenv registry p w event with
    | error e => rfl
    | ok r => exact ih _ _

theorem processAll_keeps (h : processAll wenv registry p stats w batch = .ok (stats', w')) :
    PassKeeps (batch.map OutboxEvent.id) w w' := by
  induction batch generalizing stats w with
  | nil =>
    obtain ⟨_, rfl⟩ := Prod.mk.inj (Except.ok.inj h)
    exact .refl _ w
  | cons event rest ih =>
    obtain ⟨⟨row, w1⟩, hevent, hrest⟩ := bind_ok.mp h
    exact (processEvent_keeps hevent).trans (ih hrest)

/-- The row of an event of the batch, settled in the state its turn found. -/
theorem processAll_row {pre post : List OutboxEvent}
    (h : processAll wenv registry p stats w (pre ++ event :: post) = .ok (stats', w'))
    (hmem : event.id ∈ w.outboxEvents.map OutboxEvent.id)
    (hpost : event.id ∉ post.map OutboxEvent.id) :
    ∃ stats0 w0 row, processAll wenv registry p stats w pre = .ok (stats0, w0) ∧
      Settled event (p.called wenv registry w0 event).2 row ∧ row ∈ w'.outboxEvents ∧
      Deduped (p.called wenv registry w0 event).1 w'.notifications := by
  rw [processAll_append] at h
  obtain ⟨⟨stats0, w0⟩, hpre, h⟩ := bind_ok.mp h
  obtain ⟨⟨row, w1⟩, hevent, hrest⟩ := bind_ok.mp h
  obtain ⟨hsettle, rfl⟩ := processEvent_ok.mp hevent
  have hsettled : Settled event (p.called wenv registry w0 event).2 row :=
    ⟨(settle_ok hsettle).id, (settle_ok hsettle).sent, (settle_ok hsettle).failed⟩
  have hkeep := processAll_keeps hrest
  refine ⟨stats0, w0, row, hpre, hsettled, ?_, hkeep.notifications⟩
  refine (hkeep.others row (hsettled.id ▸ hpost)).mpr ?_
  rw [← (processAll_keeps hpre).sameIds] at hmem
  obtain ⟨r0, hr0, hid⟩ := List.mem_map.mp hmem
  exact Tables.mem_set.mpr ⟨r0, hr0, if_pos (hid.trans hsettled.id.symm)⟩

lemma mem_fetchDueEvents {order : FetchOrder} {now : Instant} {n : ℕ} {events : List OutboxEvent}
    (h : event ∈ fetchDueEvents order now n events) :
    event ∈ events ∧ event.isDue now = true := by
  have hmem := (order.perm _).mem_iff.mp (List.mem_of_mem_take h)
  exact List.mem_filter.mp hmem

lemma batch_mem (h : event ∈ p.batch wenv w) :
    event ∈ w.outboxEvents ∧ event.isDue p.now = true := by
  unfold Pass.batch at h
  split at h
  · exact mem_fetchDueEvents h
  · exact absurd h List.not_mem_nil

lemma fetchDueEvents_nodup {order : FetchOrder} {now : Instant} {n : ℕ}
    {events : List OutboxEvent} (h : (events.map OutboxEvent.id).Nodup) :
    ((fetchDueEvents order now n events).map OutboxEvent.id).Nodup := by
  have hdue : ((events.filter (·.isDue now)).map OutboxEvent.id).Nodup :=
    h.sublist (List.filter_sublist.map _)
  have hsort : ((order.sort (events.filter (·.isDue now))).map OutboxEvent.id).Nodup :=
    ((order.perm _).map _).nodup_iff.mpr hdue
  exact hsort.sublist ((List.take_sublist _ _).map _)

lemma batch_nodup (wenv : WorkerEnv) (p : Pass) (h : (w.outboxEvents.map OutboxEvent.id).Nodup) :
    ((p.batch wenv w).map OutboxEvent.id).Nodup := by
  unfold Pass.batch
  split
  · exact fetchDueEvents_nodup h
  · exact List.nodup_nil

lemma step_of_runOnce (h : runOnce wenv registry p w = .ok (stats', w')) :
    p.step wenv registry w = w' := by
  simp only [Pass.step, h]

/-- The row a pass leaves of an event of its batch. -/
theorem runOnce_row {pre post : List OutboxEvent}
    (hkeys : (w.outboxEvents.map OutboxEvent.id).Nodup)
    (h : runOnce wenv registry p w = .ok (stats', w'))
    (hbatch : p.batch wenv w = pre ++ event :: post) :
    ∃ stats0 w0 row, processAll wenv registry p ⟨0, 0, 0⟩ w pre = .ok (stats0, w0) ∧
      Settled event (p.called wenv registry w0 event).2 row ∧ row ∈ w'.outboxEvents ∧
      Deduped (p.called wenv registry w0 event).1 w'.notifications := by
  have hdistinct := batch_nodup wenv p hkeys
  rw [hbatch, List.map_append, List.map_cons] at hdistinct
  have hpost : event.id ∉ post.map OutboxEvent.id :=
    (List.nodup_cons.mp (List.nodup_append.mp hdistinct).2.1).1
  have hmem : event.id ∈ w.outboxEvents.map OutboxEvent.id := by
    have hb : event ∈ p.batch wenv w := hbatch ▸ List.mem_append_right _ List.mem_cons_self
    exact List.mem_map_of_mem (batch_mem hb).1
  unfold runOnce at h
  rw [hbatch] at h
  exact processAll_row h hmem hpost

/-- **One pass** keeps the rows of the events that it did not fetch, and the notifications. -/
theorem step_keeps (wenv : WorkerEnv) (registry : ChannelRegistry) (p : Pass) (w : WorkerDB) :
    PassKeeps ((p.batch wenv w).map OutboxEvent.id) w (p.step wenv registry w) := by
  unfold Pass.step
  cases h : runOnce wenv registry p w with
  | error e => exact .refl _ w
  | ok r => exact processAll_keeps h

end SchoolOs
