import SchoolOs.Batches

/-!
Dead letters: what becomes of an event whose attempts are used up. The columns that say "never
again" are those that say "at once" of a new event.
-/

namespace SchoolOs

variable {wenv : WorkerEnv} {registry : ChannelRegistry} {p : Pass} {w w' : WorkerDB}
  {event : OutboxEvent} {id : Ulid} {n : ℕ} {batch : List OutboxEvent}

/-! ### The outbox over time -/

/-- What happens to the outbox: events are published, passes run, and other transactions change
the rest of the database. -/
inductive OutboxStep
  | publish (e : NewEvent)
  | pass (p : Pass)
  | other (tables : WorkerTables) (notifications : List Notification)

section Defs

variable (wenv : WorkerEnv) (registry : ChannelRegistry)

def OutboxStep.step (w : WorkerDB) : OutboxStep → WorkerDB
  | .publish e => w.publish e
  | .pass p => p.step wenv registry w
  | .other tables notifications => { w with tables := tables, notifications := notifications }

/-- The ids of the events that a pass hands to a handler, up to the turn that stops it. -/
def Pass.invoked (p : Pass) : WorkerDB → List OutboxEvent → List Ulid
  | _, [] => []
  | w, event :: rest =>
    let handed := if (p.handlers event.eventName).isSome then [event.id] else []
    match processEvent wenv registry p w event with
    | .ok (_, w') => handed ++ Pass.invoked p w' rest
    | .error _ => handed

def OutboxStep.invoked (w : WorkerDB) : OutboxStep → List Ulid
  | .pass p => p.invoked wenv registry w (p.batch wenv w)
  | _ => []

/-- How often the handler of an event is called in a run. -/
def invocations (id : Ulid) : WorkerDB → List OutboxStep → ℕ :=
  Runs.total (OutboxStep.step wenv registry) fun w i => (i.invoked wenv registry w).count id

/-- The event failed, and its attempts are used up. -/
def OutboxEvent.Exhausted (e : OutboxEvent) : Prop :=
  e.status = .failed ∧ wenv.outboxMaxAttempts ≤ e.attempts

/-- How many due events the order of the fetch has before the event. -/
def Pass.ahead (p : Pass) (w : WorkerDB) (id : Ulid) : ℕ :=
  ((p.order.sort (w.outboxEvents.filter (·.isDue p.now))).takeWhile (·.id ≠ id)).length

/-- The leader finds the event due, and before it fewer events than it fetches. -/
def Pass.Reaches (p : Pass) (w : WorkerDB) (id : Ulid) : Prop :=
  p.leader = true ∧ (∃ row ∈ w.outboxEvents, row.id = id ∧ row.isDue p.now = true) ∧
    p.ahead w id < p.limit wenv

/-- A pass while the attempts of the event are used up is not the leader's, or comes before its
next attempt, or fetches no event as recent; and no call of a handler aborts a pass that reaches
the event. -/
def LeavesDead (id : Ulid) (w : WorkerDB) : OutboxStep → Prop
  | .pass p =>
      (∀ row ∈ w.outboxEvents, row.id = id → row.Exhausted wenv →
        p.leader = false ∨ (∃ t ∈ row.nextAttemptAt, p.now < t) ∨ p.limit wenv ≤ p.ahead w id) ∧
      (p.Reaches wenv w id →
        Runs.Along (Pass.turn wenv registry p) (Harmless wenv registry p) w (p.batch wenv w))
  | _ => True

/-- Dead-lettering is final along a run: an event whose attempts are used up is neither selected
nor handed to its handler, and its handler is called at most as often as it may be attempted. -/
structure DeadIsFinal (id : Ulid) (w : WorkerDB) (l : List OutboxStep) : Prop where
  unselected : Runs.Along (OutboxStep.step wenv registry) (fun w i =>
    (∃ row ∈ w.outboxEvents, row.id = id ∧ row.Exhausted wenv) →
      id ∉ i.invoked wenv registry w ∧
        ∀ p, i = .pass p → id ∉ (p.batch wenv w).map OutboxEvent.id) w l
  bounded : invocations wenv registry id w l ≤ wenv.outboxMaxAttempts

end Defs

/-! ### Whom a pass reaches -/

/-- The first elements of a list reach one that meets `P` exactly when there are fewer before. -/
lemma exists_mem_take {α : Type*} {P : α → Bool} {l : List α} {k : ℕ} (h : ∃ a ∈ l, P a = true) :
    (∃ a ∈ l.take k, P a = true) ↔ (l.takeWhile (! P ·)).length < k := by
  induction l generalizing k with
  | nil =>
    obtain ⟨a, ha, _⟩ := h
    exact absurd ha List.not_mem_nil
  | cons b l ih =>
    cases k with
    | zero => simp
    | succ k =>
      by_cases hb : P b = true
      · simp [hb]
      · have hl : ∃ a ∈ l, P a = true := by
          obtain ⟨a, ha, hpa⟩ := h
          rcases List.mem_cons.mp ha with rfl | ha
          · exact absurd hpa hb
          · exact ⟨a, ha, hpa⟩
        simp only [List.take_succ_cons, List.mem_cons, exists_eq_or_imp, hb]
        rw [ih hl]
        simp [hb]

lemma LeavesDead.live (hl : LeavesDead wenv registry id w (.pass p))
    (hkeys : (w.outboxEvents.map OutboxEvent.id).Nodup) (hreach : p.Reaches wenv w id)
    {row : OutboxEvent} (hrow : row ∈ w.outboxEvents) (hid : row.id = id) :
    ¬ row.Exhausted wenv := by
  intro hdead
  obtain ⟨hleader, ⟨row', hrow', hid', hdue⟩, hahead⟩ := hreach
  obtain rfl := List.inj_on_of_nodup_map hkeys hrow' hrow (hid'.trans hid.symm)
  rcases hl.1 row' hrow hid hdead with hno | ⟨t, ht, hlater⟩ | hmany
  · rw [hleader] at hno
    cases hno
  · have hpast : t ≤ p.now := (of_decide_eq_true hdue).2 t ht
    exact absurd hlater (not_lt.mpr hpast)
  · omega

/-- **Selection**: a pass fetches an event exactly when it reaches it. -/
theorem reaches_iff : p.Reaches wenv w id ↔ id ∈ (p.batch wenv w).map OutboxEvent.id := by
  unfold Pass.Reaches Pass.ahead Pass.batch fetchDueEvents
  have hmem : ∀ e, e ∈ p.order.sort (w.outboxEvents.filter (·.isDue p.now)) ↔
      e ∈ w.outboxEvents ∧ e.isDue p.now = true := fun e =>
    (p.order.perm _).mem_iff.trans List.mem_filter
  have htake : ∀ (l : List OutboxEvent) (k : ℕ), (∃ e ∈ l, e.id = id) →
      ((∃ e ∈ l.take k, e.id = id) ↔ (l.takeWhile (·.id ≠ id)).length < k) := by
    intro l k h
    have hP := exists_mem_take (P := fun e : OutboxEvent => decide (e.id = id)) (k := k)
      (l := l) (by simpa using h)
    simpa using hP
  by_cases hleader : p.leader = true
  · rw [if_pos hleader, List.mem_map, and_iff_right hleader]
    refine ⟨fun ⟨⟨row, hrow, hid, hdue⟩, hk⟩ => ?_, fun ⟨e, he, hid⟩ => ?_⟩
    · exact (htake _ _ ⟨row, (hmem row).mpr ⟨hrow, hdue⟩, hid⟩).mpr hk
    · have hin := List.mem_of_mem_take he
      have hdue := (hmem e).mp hin
      exact ⟨⟨e, hdue.1, hid, hdue.2⟩, (htake _ _ ⟨e, hin, hid⟩).mp ⟨e, he, hid⟩⟩
  · rw [if_neg hleader]
    exact iff_of_false (fun h => hleader h.1) List.not_mem_nil

/-! ### Calls of handlers -/

lemma invoked_sublist (wenv : WorkerEnv) (registry : ChannelRegistry) (p : Pass) (w : WorkerDB)
    (batch : List OutboxEvent) :
    (p.invoked wenv registry w batch).Sublist (batch.map OutboxEvent.id) := by
  induction batch generalizing w with
  | nil => exact .slnil
  | cons event rest ih =>
    have hhanded : (if (p.handlers event.eventName).isSome then [event.id] else []).Sublist
        [event.id] := by
      split
      · exact .refl _
      · exact List.nil_sublist _
    simp only [Pass.invoked, List.map_cons]
    split
    · exact hhanded.append (ih _)
    · exact hhanded.trans (List.singleton_sublist.mpr List.mem_cons_self)

/-- What the rows say about the calls so far: `n` is the number of calls of the handler of the
event, none before it is published. -/
structure Accounted (wenv : WorkerEnv) (id : Ulid) (n : ℕ) (w : WorkerDB) : Prop where
  distinct : (w.outboxEvents.map OutboxEvent.id).Nodup
  absent : id ∉ w.outboxEvents.map OutboxEvent.id → n = 0
  bounded : n ≤ wenv.outboxMaxAttempts
  pending : ∀ row ∈ w.outboxEvents, row.id = id → row.status = .pending → row.attempts = 0
  unsent : ∀ row ∈ w.outboxEvents, row.id = id → row.status ≠ .sent → n ≤ row.attempts

lemma Accounted.publish (h : Accounted wenv id n w) (e : NewEvent) :
    Accounted wenv id n (w.publish e) := by
  unfold WorkerDB.publish
  split
  · exact h
  next hfresh =>
  refine ⟨?_, fun habsent => ?_, h.bounded, fun row hrow hid hs => ?_, fun row hrow hid hs => ?_⟩
  · rw [List.map_append]
    exact h.distinct.append (List.nodup_singleton _) (by simpa using hfresh)
  · refine h.absent fun hmem => habsent ?_
    rw [List.map_append]
    exact List.mem_append_left _ hmem
  · rcases List.mem_append.mp hrow with hrow | hrow
    · exact h.pending row hrow hid hs
    · rw [List.mem_singleton.mp hrow]
      rfl
  · rcases List.mem_append.mp hrow with hrow | hrow
    · exact h.unsent row hrow hid hs
    · -- A new event: its handler was not called before.
      obtain rfl := List.mem_singleton.mp hrow
      have hzero : n = 0 := h.absent (hid ▸ hfresh)
      omega

/-- An event that is fetched, and whose attempts are not used up, may be attempted. -/
lemma Accounted.lt_of_due (h : Accounted wenv id n w) (hmax : 1 ≤ wenv.outboxMaxAttempts)
    (hrow : event ∈ w.outboxEvents) (hid : event.id = id) {now : Instant}
    (hdue : event.isDue now = true) (hlive : ¬ event.Exhausted wenv) :
    n < wenv.outboxMaxAttempts := by
  have hstatus : event.status = .pending ∨ event.status = .failed := (of_decide_eq_true hdue).1
  have hspent : n ≤ event.attempts := by
    refine h.unsent event hrow hid ?_
    rcases hstatus with hs | hs <;> simp [hs]
  rcases hstatus with hs | hs
  · have hzero := h.pending event hrow hid hs
    omega
  · have hlt : ¬ wenv.outboxMaxAttempts ≤ event.attempts := fun hle => hlive ⟨hs, hle⟩
    omega

lemma Accounted.unreached (h : Accounted wenv id n w)
    (hout : id ∉ (p.batch wenv w).map OutboxEvent.id) :
    Accounted wenv id n (p.step wenv registry w) := by
  have hkeep := step_keeps wenv registry p w
  have hsame : ∀ row, row.id = id →
      (row ∈ (p.step wenv registry w).outboxEvents ↔ row ∈ w.outboxEvents) := by
    intro row hid
    exact hkeep.others row (hid ▸ hout)
  refine ⟨hkeep.sameIds ▸ h.distinct, fun habsent => h.absent (hkeep.sameIds ▸ habsent),
    h.bounded, fun row hrow hid => ?_, fun row hrow hid => ?_⟩
  · exact h.pending row ((hsame row hid).mp hrow) hid
  · exact h.unsent row ((hsame row hid).mp hrow) hid

/-- **One attempt**: a pass that goes through counts the call it makes. -/
lemma Accounted.reached (h : Accounted wenv id n w) (hmax : 1 ≤ wenv.outboxMaxAttempts)
    (hrow : event ∈ p.batch wenv w) (hid : event.id = id) (hlive : ¬ event.Exhausted wenv)
    (hgo : Runs.Along (Pass.turn wenv registry p) (Harmless wenv registry p) w (p.batch wenv w))
    {k : ℕ} (hk : k ≤ 1) : Accounted wenv id (n + k) (p.step wenv registry w) := by
  obtain ⟨hmem, hdue⟩ := batch_mem hrow
  have hlt := h.lt_of_due hmax hmem hid hdue hlive
  have hkeep := step_keeps wenv registry p w
  obtain ⟨pre, post, hbatch⟩ := List.append_of_mem hrow
  have hcommits : ∃ r, runOnce wenv registry p w = .ok r := processAll_goes.mpr hgo
  obtain ⟨⟨stats', w'⟩, hrun⟩ := hcommits
  have hstep : p.step wenv registry w = w' := step_of_runOnce hrun
  obtain ⟨stats0, w0, row, _, hsettled, hrow', _⟩ := runOnce_row h.distinct hrun hbatch
  rw [← hstep] at hrow'
  have hdistinct : ((p.step wenv registry w).outboxEvents.map OutboxEvent.id).Nodup :=
    hkeep.sameIds ▸ h.distinct
  have hunique : ∀ r ∈ (p.step wenv registry w).outboxEvents, r.id = id → r = row := by
    intro r hr hrid
    exact List.inj_on_of_nodup_map hdistinct hr hrow' (hrid.trans (hid.symm.trans hsettled.id.symm))
  refine ⟨hdistinct, fun habsent => ?_, by omega, fun r hr hrid hs => ?_, fun r hr hrid hs => ?_⟩
  · rw [hkeep.sameIds] at habsent
    exact absurd (hid ▸ List.mem_map_of_mem hmem) habsent
  · -- The row of an attempt is sent or failed.
    rw [hunique r hr hrid] at hs ⊢
    by_cases hret : (p.called wenv registry w0 event).2 = .returned
    · exact absurd ((hsettled.sent hret).1.symm.trans hs) nofun
    · exact absurd ((hsettled.failed hret).1.symm.trans hs) nofun
  · rw [hunique r hr hrid] at hs ⊢
    have hspent : n ≤ event.attempts := by
      refine h.unsent event hmem hid fun hsent => ?_
      have hstatus := (of_decide_eq_true hdue).1
      simp [hsent] at hstatus
    have hfailed := hsettled.failed fun hret => hs (hsettled.sent hret).1
    omega

lemma Accounted.pass (h : Accounted wenv id n w) (hmax : 1 ≤ wenv.outboxMaxAttempts)
    (hl : LeavesDead wenv registry id w (.pass p)) :
    Accounted wenv id (n + (p.invoked wenv registry w (p.batch wenv w)).count id)
      (p.step wenv registry w) := by
  have hsub := invoked_sublist wenv registry p w (p.batch wenv w)
  by_cases hin : id ∈ (p.batch wenv w).map OutboxEvent.id
  · have hreach := reaches_iff.mpr hin
    obtain ⟨event, hevent, hid⟩ := List.mem_map.mp hin
    have hlive := hl.live h.distinct hreach (batch_mem hevent).1 hid
    have hcount : (p.invoked wenv registry w (p.batch wenv w)).count id ≤ 1 :=
      List.nodup_iff_count_le_one.mp ((batch_nodup wenv p h.distinct).sublist hsub) id
    exact h.reached hmax hevent hid hlive (hl.2 hreach) hcount
  · have hzero : (p.invoked wenv registry w (p.batch wenv w)).count id = 0 :=
      List.count_eq_zero.mpr fun hmem => hin (hsub.subset hmem)
    rw [hzero]
    exact h.unreached hin

lemma accounted_step (hmax : 1 ≤ wenv.outboxMaxAttempts) (n : ℕ) (w : WorkerDB) (i : OutboxStep)
    (hl : LeavesDead wenv registry id w i) (h : Accounted wenv id n w) :
    Accounted wenv id (n + (i.invoked wenv registry w).count id) (i.step wenv registry w) := by
  cases i with
  | publish e => exact h.publish e
  | pass p => exact h.pass hmax hl
  | other tables notifications => exact ⟨h.distinct, h.absent, h.bounded, h.pending, h.unsent⟩

/-- **Dead letters stay dead**: from a table without the event, through every run whose passes
leave the event alone once its attempts are used up, and are not aborted when they reach it. -/
theorem deadLetter_final (hmax : 1 ≤ wenv.outboxMaxAttempts)
    (hkeys : (w.outboxEvents.map OutboxEvent.id).Nodup)
    (hfresh : id ∉ w.outboxEvents.map OutboxEvent.id) {l : List OutboxStep}
    (hl : Runs.Along (OutboxStep.step wenv registry) (LeavesDead wenv registry id) w l) :
    DeadIsFinal wenv registry id w l := by
  have hnone : ∀ row ∈ w.outboxEvents, row.id ≠ id := fun row hrow hid =>
    hfresh (hid ▸ List.mem_map_of_mem hrow)
  have hstart : Accounted wenv id 0 w := by
    refine ⟨hkeys, fun _ => rfl, Nat.zero_le _, fun row hrow hid => ?_, fun row hrow hid => ?_⟩
    · exact absurd hid (hnone row hrow)
    · exact absurd hid (hnone row hrow)
  refine ⟨?_, ?_⟩
  · refine Runs.along_of_invariant (I := fun w => ∃ n, Accounted wenv id n w)
      (fun w i hi ⟨n, h⟩ => ⟨_, accounted_step hmax n w i hi h⟩) (fun w i hi ⟨n, h⟩ hdead => ?_) hl
      ⟨0, hstart⟩
    obtain ⟨row, hrow, hid, hdead⟩ := hdead
    have hout : ∀ p, i = .pass p → id ∉ (p.batch wenv w).map OutboxEvent.id := by
      rintro p rfl hin
      exact hi.live h.distinct (reaches_iff.mpr hin) hrow hid hdead
    refine ⟨?_, hout⟩
    cases i with
    | pass p => exact fun hmem => hout p rfl ((invoked_sublist wenv registry p w _).subset hmem)
    | publish | other => exact List.not_mem_nil
  · have hspent := Runs.accounts (M := Accounted wenv id) (accounted_step hmax) hl hstart
    have hbounded := hspent.bounded
    rwa [Nat.zero_add] at hbounded

/-! ### An announcement whose handler always fails -/

/-- No event yet. -/
def noEvents : WorkerDB := ⟨twoMembers, [], []⟩

def newAnnouncement : NewEvent where
  id := 501
  eventName := "ANNOUNCEMENT_PUBLISHED"
  payload := [("announcement_id", .str (Ulid.text 401)), ("title", .str "Sports day")]
  organizationId := some 101
  schoolId := some 201
  entityType := some "announcement"
  entityId := some 401
  createdAt := 0

/-- A pass at the hour `h`, whose handler raises. -/
def Pass.failing (leader : Bool) (h : ℕ) : Pass :=
  { Pass.leading (some 401) (.exception "ValueError: no such announcement") with
    leader := leader
    now := seconds (3600 * h)
    visit := fun _ => ⟨seconds (3600 * h), seconds (3600 * h), Ulid.ofNat⟩ }

/-- A worker that attempts an event once. -/
def WorkerEnv.once : WorkerEnv := { WorkerEnv.plain with outboxMaxAttempts := 1 }

/-- The only attempt is used up, and the next pass is not the leader's. -/
theorem onlyAttempt_final : DeadIsFinal .once defaultRegistry 501 noEvents
    [.publish newAnnouncement, .pass (.failing true 1), .pass (.failing false 2)] := by
  have hnone : noEvents.outboxEvents.map OutboxEvent.id = [] := rfl
  refine deadLetter_final (by decide) (hnone ▸ List.nodup_nil) (hnone ▸ List.not_mem_nil)
    ⟨trivial, ⟨?_, fun _ => ⟨⟨by decide, by decide, .inl (by decide)⟩, trivial⟩⟩,
      ⟨fun _ _ _ _ => .inl rfl, fun hreach => ?_⟩, trivial⟩
  · rintro row hrow - ⟨hfailed, -⟩
    obtain rfl := List.mem_singleton.mp hrow
    cases hfailed
  · cases hreach.1

/-- With the five attempts of the default settings, the sixth pass calls the handler again. -/
theorem deadLetter_selected : ¬ ∀ (wenv : WorkerEnv) (registry : ChannelRegistry) (id : Ulid)
    (w : WorkerDB) (l : List OutboxStep), 1 ≤ wenv.outboxMaxAttempts →
      (w.outboxEvents.map OutboxEvent.id).Nodup → id ∉ w.outboxEvents.map OutboxEvent.id →
        DeadIsFinal wenv registry id w l := by
  intro h
  have hfinal := h .plain defaultRegistry 501 noEvents
    (.publish newAnnouncement :: (List.range 6).map fun n => .pass (.failing true n)) (by decide)
    List.nodup_nil List.not_mem_nil
  exact absurd hfinal.bounded (by decide)

end SchoolOs
