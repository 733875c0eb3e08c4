import SchoolOs.Workers
import SchoolOs.Runs

/-!
What the row locks of a pass guarantee: whatever the workers, the leader lock and the crashes do,
no event is lost, none is left as being processed, and none is sent by two passes.
-/

namespace SchoolOs

open ReadCommitted

/-! ### What one turn can do -/

section Program

variable (wenv : WorkerEnv)

/-- A step of a handler that writes nothing. -/
inductive WorkerReads : WorkerPc → WorkerPc → Prop
  | calls (p : Pass) (settled : List OutboxEvent) (event : OutboxEvent) (rest : List OutboxEvent)
      (call : HandlerCall) :
      WorkerReads (.claimed p settled event rest) (.calling p settled event rest call)
  | missing (p : Pass) (settled : List OutboxEvent) (event : OutboxEvent)
      (rest : List OutboxEvent) :
      WorkerReads (.claimed p settled event rest) (.called p settled event rest .missing)
  | ends (p : Pass) (settled : List OutboxEvent) (event : OutboxEvent) (rest : List OutboxEvent)
      (call : HandlerCall) (result : HandlerResult) :
      WorkerReads (.calling p settled event rest call) (.called p settled event rest result)

/-- A write of a pass. -/
inductive WorkerWrites (c : WorkerDB) : WorkerPc → Write WorkerDB Ulid → WorkerPc → Prop
  | fetch (p : Pass) {batch : List OutboxEvent} :
      (∀ e ∈ batch, e ∈ c.outboxEvents ∧ e.isDue p.now = true) →
      ((c.outboxEvents.map OutboxEvent.id).Nodup → (batch.map OutboxEvent.id).Nodup) →
      WorkerWrites c .idle (lockRows batch) (.ready p [] batch)
  | claim (p : Pass) (settled : List OutboxEvent) (event : OutboxEvent)
      (rest : List OutboxEvent) (visit : Visit) :
      WorkerWrites c (.ready p settled (event :: rest)) (updateRow (claim wenv visit event))
        (.claimed p settled (claim wenv visit event) rest)
  | notify (p : Pass) (settled : List OutboxEvent) (event : OutboxEvent)
      (rest : List OutboxEvent) (call call' : HandlerCall) (rows : List Notification) :
      WorkerWrites c (.calling p settled event rest call) (insertNotifications rows)
        (.calling p settled event rest call')
  | settle (p : Pass) (settled : List OutboxEvent) (event : OutboxEvent)
      (rest : List OutboxEvent) {visit : Visit} {result : HandlerResult} {row : OutboxEvent} :
      settle wenv visit event result = .ok row →
      WorkerWrites c (.called p settled event rest result) (updateRow row)
        (.ready p (settled ++ [row]) rest)

inductive WorkerCommits : WorkerPc → WorkerPc → Prop
  | pass (p : Pass) (settled : List OutboxEvent) : WorkerCommits (.ready p settled []) .idle

/-- What others do to the database. -/
inductive WorkerOutside (c : WorkerDB) : WorkerDB → Prop
  | publish (e : NewEvent) : WorkerOutside c (c.publish e)
  | other (tables : WorkerTables) (notifications : List Notification) :
      WorkerOutside c { c with tables := tables, notifications := notifications }

end Program

variable {ι : Type*} [DecidableEq ι] {wenv : ι → WorkerEnv} {registry : ChannelRegistry}

def workerProgram (wenv : ι → WorkerEnv) : Program ι WorkerDB Ulid WorkerPc where
  reads _ _ := WorkerReads
  writes i := WorkerWrites (wenv i)
  commits _ := WorkerCommits
  aborts _ _ pc := pc = .idle
  outside := WorkerOutside

lemma mem_fetch {s : WorkerSys ι} {i : ι} {p : Pass} {e : OutboxEvent} (h : e ∈ s.fetch wenv i p) :
    e ∈ (s.view i).outboxEvents ∧ e.isDue p.now = true := by
  obtain ⟨hmem, hdue⟩ := mem_fetchDueEvents h
  exact ⟨List.mem_of_mem_filter hmem, hdue⟩

lemma fetch_nodup {s : WorkerSys ι} {i : ι} {p : Pass}
    (h : ((s.view i).outboxEvents.map OutboxEvent.id).Nodup) :
    ((s.fetch wenv i p).map OutboxEvent.id).Nodup := by
  have hfree : (((s.view i).outboxEvents.filter fun e => ¬ s.Skipped i e.id).map
      OutboxEvent.id).Nodup := h.sublist (List.filter_sublist.map _)
  exact fetchDueEvents_nodup hfree

lemma next_steps (wenv : ι → WorkerEnv) (registry : ChannelRegistry) (s : WorkerSys ι) (i : ι) :
    s.Steps (workerProgram wenv) (s.next wenv registry i) := by
  unfold WorkerSys.next
  split
  · exact .idle
  · next p settled h => exact .commit (h ▸ .pass p settled)
  · next p settled event rest h => exact Procs.steps_write (h ▸ .claim p settled event rest _)
  · next p settled event rest h =>
    split
    · exact .read (h ▸ .missing p settled event rest)
    · exact .read (h ▸ .calls p settled event rest _)
  · next p settled event rest h => exact .read (h ▸ .ends p settled event rest _ _)
  · next p settled event rest e h => exact .read (h ▸ .ends p settled event rest _ _)
  · next p settled event rest m id sends raises h =>
    split
    · exact .read (h ▸ .ends p settled event rest _ _)
    · exact Procs.steps_write (h ▸ .notify p settled event rest _ _ _)
  · next p settled event rest result h =>
    split
    · exact .abort rfl
    · next row hrow => exact Procs.steps_write (h ▸ .settle p settled event rest hrow)

/-- **One turn**: a statement of a worker, a crash, or a transaction of others. -/
theorem worker_steps (wenv : ι → WorkerEnv) (registry : ChannelRegistry) (s : WorkerSys ι)
    (t : WorkerTurn ι) : s.Steps (workerProgram wenv) (s.step wenv registry t) := by
  cases t with
  | start i p =>
    simp only [WorkerSys.step]
    split
    · next hidle =>
      split
      · exact Procs.steps_write (hidle ▸ .fetch p (fun e he => mem_fetch he) fetch_nodup)
      · exact .idle
    · exact .idle
  | run i => exact next_steps wenv registry s i
  | crash i => exact .abort rfl
  | publish e => exact .outside (.publish e)
  | other tables notifications => exact .outside (.other tables notifications)

/-! ### The assertions -/

/-- Every committed row waits, or is settled: no claim is ever committed. -/
structure OutboxSound (c : WorkerDB) : Prop where
  distinct : (c.outboxEvents.map OutboxEvent.id).Nodup
  unclaimed : ∀ row ∈ c.outboxEvents, row.status ≠ .processing

def OutboxEvent.Waits (row : OutboxEvent) : Prop := row.status = .pending ∨ row.status = .failed

def OutboxEvent.IsSettled (row : OutboxEvent) : Prop := row.status = .sent ∨ row.status = .failed

/-- The rows settled in the open pass. -/
def WorkerPc.settled : WorkerPc → List OutboxEvent
  | .idle => []
  | .ready _ settled _ | .claimed _ settled _ _ | .calling _ settled _ _ _
  | .called _ settled _ _ _ => settled

/-- What a worker may rely on in its pass: the rows it fetched are locked and wait in the
committed state, and its writes put the rows it flushed over them. -/
structure Holds (pc : WorkerPc) (ws : List (Write WorkerDB Ulid)) (c : WorkerDB) : Prop where
  locked : ∀ id, pc.Handles id → ∃ w ∈ ws, id ∈ w.locks
  distinct : (pc.events.map OutboxEvent.id).Nodup
  present : ∀ id, pc.Handles id → id ∈ c.outboxEvents.map OutboxEvent.id
  waiting : ∀ row ∈ c.outboxEvents, pc.Handles row.id → row.Waits
  flushed : ∀ c : WorkerDB, (after ws c).outboxEvents =
    Tables.overlay OutboxEvent.id pc.flushed c.outboxEvents
  settled : ∀ row ∈ pc.settled, row.IsSettled

section Holds

variable {env : WorkerEnv} {pc pc' : WorkerPc} {ws ws' : List (Write WorkerDB Ulid)}
  {w : Write WorkerDB Ulid} {c c' : WorkerDB} {id : Ulid}

lemma holds_idle (ws : List (Write WorkerDB Ulid)) (c : WorkerDB)
    (h : ∀ c : WorkerDB, (after ws c).outboxEvents = c.outboxEvents) : Holds .idle ws c where
  locked := fun _ h => absurd h List.not_mem_nil
  distinct := List.nodup_nil
  present := fun _ h => absurd h List.not_mem_nil
  waiting := fun _ _ h => absurd h List.not_mem_nil
  flushed := fun c => (h c).trans (Tables.overlay_nil _).symm
  settled := fun _ h => absurd h List.not_mem_nil

lemma holds_reads (h : WorkerReads pc pc') (hp : Holds pc ws c) : Holds pc' ws c := by
  cases h <;> exact ⟨hp.locked, hp.distinct, hp.present, hp.waiting, hp.flushed, hp.settled⟩

lemma Holds.write (h : Holds pc ws c)
    (hids : pc'.events.map OutboxEvent.id = pc.events.map OutboxEvent.id)
    (hflush : ∀ c : WorkerDB, (w.run (after ws c)).outboxEvents =
      Tables.overlay OutboxEvent.id pc'.flushed c.outboxEvents)
    (hsettled : ∀ row ∈ pc'.settled, row.IsSettled) : Holds pc' (ws ++ [w]) c where
  locked := by
    intro id hid
    obtain ⟨v, hv, hlock⟩ := h.locked id (show id ∈ _ from hids ▸ hid)
    exact ⟨v, List.mem_append_left _ hv, hlock⟩
  distinct := hids ▸ h.distinct
  present := fun id hid => h.present id (show id ∈ _ from hids ▸ hid)
  waiting := fun row hrow hid => h.waiting row hrow (show row.id ∈ _ from hids ▸ hid)
  flushed := by
    intro c
    rw [after_snoc]
    exact hflush c
  settled := hsettled

lemma settle_isSettled {visit : Visit} {event row : OutboxEvent} {result : HandlerResult}
    (h : settle env visit event result = .ok row) : row.IsSettled := by
  have hrow := settle_ok h
  by_cases hret : result = .returned
  · exact .inl (hrow.sent hret).1
  · exact .inr (hrow.failed hret).1

lemma holds_writes (h : WorkerWrites env (after ws c) pc w pc') (hg : OutboxSound c)
    (hp : Holds pc ws c) : Holds pc' (ws ++ [w]) c := by
  cases h with
  | fetch p hbatch hnodup =>
    -- The rows that are fetched are locked.
    next batch =>
    have hown : (after ws c).outboxEvents = c.outboxEvents :=
      (hp.flushed c).trans (Tables.overlay_nil _)
    rw [hown] at hbatch hnodup
    refine ⟨fun id hid => ⟨lockRows batch, List.mem_append_right _ List.mem_cons_self, hid⟩,
      hnodup hg.distinct, fun id hid => ?_, fun row hrow hid => ?_, fun c' => ?_,
      fun _ hrow => absurd hrow List.not_mem_nil⟩
    · obtain ⟨e, he, rfl⟩ := List.mem_map.mp hid
      exact List.mem_map_of_mem (hbatch e he).1
    · obtain ⟨e, he, hid⟩ := List.mem_map.mp hid
      obtain rfl := List.inj_on_of_nodup_map hg.distinct (hbatch e he).1 hrow hid
      exact (of_decide_eq_true (hbatch e he).2).1
    · rw [after_snoc]
      exact hp.flushed c'
  | claim p settled event rest visit =>
    -- The claim of a row that is not settled yet.
    have hfresh : (claim env visit event).id ∉ settled.map OutboxEvent.id := by
      have hd := hp.distinct
      simp only [WorkerPc.events, List.map_append, List.map_cons] at hd
      exact fun hmem => (List.nodup_append.mp hd).2.2 _ hmem _ List.mem_cons_self rfl
    refine hp.write (by simp [WorkerPc.events, claim]) (fun c' => ?_) hp.settled
    have hw : ((updateRow (claim env visit event)).run (after ws c')).outboxEvents =
      Tables.set OutboxEvent.id _ (fun _ => _) (after ws c').outboxEvents := rfl
    rw [hw, hp.flushed c']
    exact Tables.set_overlay hfresh _
  | notify p settled event rest call call' rows => exact hp.write rfl hp.flushed hp.settled
  | settle p settled event rest hrow =>
    -- The row goes where its claim stood.
    next visit result row =>
    have hid : row.id = event.id := (settle_ok hrow).id
    have hfresh : row.id ∉ settled.map OutboxEvent.id := by
      have hd := hp.distinct
      simp only [WorkerPc.events, List.map_append, List.map_cons] at hd
      exact fun hmem => (List.nodup_append.mp hd).2.2 _ hmem _ List.mem_cons_self hid
    refine hp.write (by simp [WorkerPc.events, hid]) (fun c' => ?_) fun r hr => ?_
    · have hw : ((updateRow row).run (after ws c')).outboxEvents =
        Tables.set OutboxEvent.id _ (fun _ => _) (after ws c').outboxEvents := rfl
      rw [hw, hp.flushed c']
      exact Tables.set_overlay_last hid.symm hfresh _
    · rcases List.mem_append.mp hr with hr | hr
      · exact hp.settled r hr
      · exact List.mem_singleton.mp hr ▸ settle_isSettled hrow

/-- What the commit of a pass leaves of a row: the settled one, or the row as it was. -/
lemma Holds.committed (h : Holds pc ws c) (hc : WorkerCommits pc pc') {row : OutboxEvent}
    (hrow : row ∈ (after ws c).outboxEvents) :
    row ∈ pc.settled ∨ row ∈ c.outboxEvents ∧ ¬ pc.Handles row.id := by
  rw [h.flushed c] at hrow
  cases hc with
  | pass p settled =>
    refine (Tables.mem_overlay hrow).imp id fun hleft => ⟨hleft.1, fun hid => hleft.2 ?_⟩
    simpa [WorkerPc.Handles, WorkerPc.events, WorkerPc.flushed] using hid

lemma Holds.sameIds (h : Holds pc ws c) : (after ws c).outboxEvents.map OutboxEvent.id =
    c.outboxEvents.map OutboxEvent.id := by
  rw [h.flushed c]
  exact Tables.map_key_overlay _ _

lemma sound_commit (hc : WorkerCommits pc pc') (hg : OutboxSound c) (h : Holds pc ws c) :
    OutboxSound (after ws c) := by
  refine ⟨h.sameIds ▸ hg.distinct, fun row hrow hproc => ?_⟩
  rcases h.committed hc hrow with hset | ⟨hold, _⟩
  · rcases h.settled row hset with hs | hs <;> cases hs.symm.trans hproc
  · exact hg.unclaimed row hold hproc

/-- The commit of another pass changes none of the rows that this one has locked. -/
lemma holds_interfere (hapart : Apart ws ws') (hc : WorkerCommits pc pc') {qc : WorkerPc}
    (hp : Holds pc ws c) (hq : Holds qc ws' c) : Holds qc ws' (after ws c) := by
  refine ⟨hq.locked, hq.distinct, fun id hid => ?_, fun row hrow hid => ?_, hq.flushed, hq.settled⟩
  · rw [hp.sameIds]
    exact hq.present id hid
  · rcases hp.committed hc hrow with hset | ⟨hold, _⟩
    · -- The row would be locked by both.
      have hhandles : pc.Handles row.id := by
        cases hc with
        | pass p settled => simpa [WorkerPc.Handles, WorkerPc.events] using ⟨row, hset, rfl⟩
      obtain ⟨w, hw, hk⟩ := hp.locked row.id hhandles
      obtain ⟨w', hw', hk'⟩ := hq.locked row.id hid
      exact absurd hk' (hapart w hw w' hw' row.id hk)
    · exact hq.waiting row hold hid

lemma outside_sound (h : WorkerOutside c c') (hg : OutboxSound c) :
    OutboxSound c' ∧ ∀ {pc ws}, Holds pc ws c → Holds pc ws c' := by
  cases h with
  | other tables notifications =>
    exact ⟨⟨hg.distinct, hg.unclaimed⟩, fun hp => ⟨hp.locked, hp.distinct, hp.present, hp.waiting,
      hp.flushed, hp.settled⟩⟩
  | publish e =>
    unfold WorkerDB.publish
    split
    · exact ⟨hg, id⟩
    next hfresh =>
    refine ⟨⟨?_, fun row hrow => ?_⟩, fun {pc ws} hp => ⟨hp.locked, hp.distinct, fun id hid => ?_,
      fun row hrow hid => ?_, hp.flushed, hp.settled⟩⟩
    · rw [List.map_append]
      exact hg.distinct.append (List.nodup_singleton _) (by simpa using hfresh)
    · rcases List.mem_append.mp hrow with hrow | hrow
      · exact hg.unclaimed row hrow
      · rw [List.mem_singleton.mp hrow]
        exact nofun
    · rw [List.map_append]
      exact List.mem_append_left _ (hp.present id hid)
    · rcases List.mem_append.mp hrow with hrow | hrow
      · exact hp.waiting row hrow hid
      · rw [List.mem_singleton.mp hrow]
        exact .inl rfl

end Holds

omit [DecidableEq ι] in
/-- **The proof outline of the workers.** -/
theorem worker_outline (wenv : ι → WorkerEnv) :
    Outline (workerProgram wenv) OutboxSound fun _ => Holds where
  read := fun hr _ hp => holds_reads hr hp
  write := fun hw hg hp => holds_writes hw hg hp
  commit := by
    intro i pc pc' ws c hc hg hp
    cases hc with
    | pass p settled =>
      exact ⟨sound_commit (.pass p settled) hg hp, holds_idle [] _ fun _ => rfl⟩
  abort := by
    rintro i pc pc' ws c rfl _ _
    exact holds_idle [] c fun _ => rfl
  interfere := fun _ hapart hc _ hp hq => holds_interfere hapart hc hp hq
  outside := fun ho hg => ⟨(outside_sound ho hg).1, (outside_sound ho hg).2⟩

/-! ### Sent once -/

/-- The committed row of the event is sent. -/
def SentIn (id : Ulid) (c : WorkerDB) : Prop :=
  ∃ row ∈ c.outboxEvents, row.id = id ∧ row.status = .sent

/-- The next statement of the worker commits a pass that sent the event. -/
def WorkerPc.sendsNext (id : Ulid) : WorkerPc → Bool
  | .ready _ settled [] => settled.any fun row => row.id = id ∧ row.status = .sent
  | _ => false

/-- One for the commit of a pass that moves the event to sent. -/
def sentCommit (id : Ulid) (s : WorkerSys ι) : WorkerTurn ι → ℕ
  | .run i => if (s.pc i).sendsNext id then 1 else 0
  | _ => 0

/-- The assertions hold of the system. -/
abbrev WorkersValid (s : WorkerSys ι) : Prop := Valid OutboxSound (fun _ => Holds) s

lemma WorkersValid.not_handles {s : WorkerSys ι} (h : WorkersValid s) {id : Ulid}
    (hsent : SentIn id s.store.committed) (i : ι) : ¬ (s.pc i).Handles id := by
  intro hid
  obtain ⟨row, hrow, rfl, hs⟩ := hsent
  rcases (h.local_ i).waiting row hrow hid with hw | hw <;> cases hs.symm.trans hw

lemma sentIn_step {s s' : WorkerSys ι} {id : Ulid} (hstep : s.Steps (workerProgram wenv) s')
    (h : WorkersValid s) (hsent : SentIn id s.store.committed) : SentIn id s'.store.committed := by
  cases hstep with
  | idle | read _ | abort _ => exact hsent
  | write _ hstore =>
    have hsame := Store.write_committed hstore
    exact (congrArg (SentIn id) hsame).mpr hsent
  | @commit i pc hc =>
    -- Only rows that the pass has locked are written, and no pass has locked a row that is sent.
    have hnot := h.not_handles hsent i
    have hflush := (h.local_ i).flushed s.store.committed
    obtain ⟨row, hrow, hid, hs⟩ := hsent
    refine ⟨row, ?_, hid, hs⟩
    have hleft : row.id ∉ (s.pc i).flushed.map OutboxEvent.id := by
      intro hmem
      generalize s.pc i = qc at hc hnot hmem
      cases hc with
      | pass p settled =>
        refine hnot ?_
        simpa [WorkerPc.Handles, WorkerPc.events, WorkerPc.flushed, hid] using hmem
    rw [Procs.commit_committed, hflush]
    exact Tables.overlay_left hrow hleft
  | outside ho =>
    obtain ⟨row, hrow, hid, hs⟩ := hsent
    cases ho with
    | other tables notifications => exact ⟨row, hrow, hid, hs⟩
    | publish e =>
      refine ⟨row, ?_, hid, hs⟩
      simp only [Procs.outside, WorkerDB.publish]
      split
      · exact hrow
      · exact List.mem_append_left _ hrow

/-- **The commit that sends** an event finds it not sent, and leaves it sent. -/
lemma sentIn_commit {s : WorkerSys ι} {id : Ulid} {i : ι} (h : WorkersValid s)
    (hnext : (s.pc i).sendsNext id = true) :
    ¬ SentIn id s.store.committed ∧ SentIn id (s.next wenv registry i).store.committed := by
  have hi := h.local_ i
  unfold WorkerSys.next
  unfold WorkerPc.sendsNext at hnext
  split at hnext
  · next p settled hpc =>
    obtain ⟨row, hrow, hsent⟩ := List.any_eq_true.mp hnext
    obtain ⟨hid, hs⟩ := of_decide_eq_true hsent
    have hhandles : (s.pc i).Handles id := by
      rw [hpc]
      simpa [WorkerPc.Handles, WorkerPc.events] using ⟨row, hrow, hid⟩
    refine ⟨fun hin => h.not_handles hin i hhandles, row, ?_, hid, hs⟩
    have hpresent := hi.present id hhandles
    have hdistinct := hi.distinct
    have hflush := hi.flushed s.store.committed
    simp only [hpc, WorkerPc.events, WorkerPc.flushed, List.append_nil] at hdistinct hflush ⊢
    rw [Procs.commit_committed, hflush]
    exact Tables.overlay_new hdistinct hrow (hid.symm ▸ hpresent)
  · cases hnext

/-- The commits that sent the event so far: none, or one, and then it is sent. -/
def SentOnce (id : Ulid) (n : ℕ) (s : WorkerSys ι) : Prop :=
  WorkersValid s ∧ (n = 0 ∨ n = 1 ∧ SentIn id s.store.committed)

lemma sentOnce_step (wenv : ι → WorkerEnv) (registry : ChannelRegistry) (id : Ulid) (n : ℕ)
    (s : WorkerSys ι) (t : WorkerTurn ι) (h : SentOnce id n s) :
    SentOnce id (n + sentCommit id s t) (s.step wenv registry t) := by
  obtain ⟨hv, hn⟩ := h
  have hstep := worker_steps wenv registry s t
  refine ⟨(worker_outline wenv).step hstep hv, ?_⟩
  by_cases hcost : sentCommit id s t = 0
  · rw [hcost, Nat.add_zero]
    exact hn.imp_right fun ⟨hone, hsent⟩ => ⟨hone, sentIn_step hstep hv hsent⟩
  · cases t with
    | run i =>
      have hnext : (s.pc i).sendsNext id = true := by
        by_contra hno
        exact hcost (if_neg hno)
      have hcommit : ¬ SentIn id s.store.committed ∧
          SentIn id (s.next wenv registry i).store.committed := sentIn_commit hv hnext
      obtain ⟨hbefore, hafter⟩ := hcommit
      rcases hn with hzero | ⟨_, hsent⟩
      · refine .inr ⟨?_, hafter⟩
        rw [hzero, Nat.zero_add]
        exact if_pos hnext
      · exact absurd hsent hbefore
    | _ => exact absurd rfl hcost

/-! ### Claim safety -/

/-- The workers are idle, and every row of the outbox waits or is settled. -/
structure WorkersIdle (s : WorkerSys ι) : Prop where
  pending : s.store.pending = []
  pc : ∀ i, s.pc i = .idle
  sound : OutboxSound s.store.committed

/-- What holds after the turns `l`, whatever they are. -/
structure ClaimsSafe (wenv : ι → WorkerEnv) (registry : ChannelRegistry) (s : WorkerSys ι)
    (l : List (WorkerTurn ι)) : Prop where
  kept : ∀ pre post, l = pre ++ post →
    ∀ row ∈ (Runs.run (WorkerSys.step wenv registry) s pre).store.committed.outboxEvents,
      ∃ row' ∈ (Runs.run (WorkerSys.step wenv registry) s l).store.committed.outboxEvents,
        row'.id = row.id ∧ (row'.status = .sent ∨ row'.Waits)
  unclaimed : ∀ row ∈ (Runs.run (WorkerSys.step wenv registry) s l).store.committed.outboxEvents,
    row.status ≠ .processing
  once : ∀ id, Runs.total (WorkerSys.step wenv registry) (sentCommit id) s l ≤ 1
  ended : ∀ id pre post, l = pre ++ post →
    SentIn id (Runs.run (WorkerSys.step wenv registry) s pre).store.committed →
      SentIn id (Runs.run (WorkerSys.step wenv registry) s l).store.committed ∧
        ∀ i, ¬ ((Runs.run (WorkerSys.step wenv registry) s l).pc i).Handles id

lemma ids_step {s s' : WorkerSys ι} (hstep : s.Steps (workerProgram wenv) s')
    (h : WorkersValid s) : ∀ id ∈ s.store.committed.outboxEvents.map OutboxEvent.id,
      id ∈ s'.store.committed.outboxEvents.map OutboxEvent.id := by
  intro id hid
  cases hstep with
  | idle | read _ | abort _ => exact hid
  | write _ hstore => rwa [Store.write_committed hstore]
  | @commit i pc hc =>
    rw [Procs.commit_committed, (h.local_ i).sameIds]
    exact hid
  | outside ho =>
    cases ho with
    | other tables notifications => exact hid
    | publish e =>
      simp only [Procs.outside, WorkerDB.publish]
      split
      · exact hid
      · rw [List.map_append]
        exact List.mem_append_left _ hid

lemma workersValid_idle {s : WorkerSys ι} (hs : WorkersIdle s) : WorkersValid s := by
  refine valid_of_closed hs.pending hs.sound fun i => ?_
  rw [hs.pc i]
  exact holds_idle [] _ fun _ => rfl

lemma workersValid_run {s : WorkerSys ι} (h : WorkersValid s) (l : List (WorkerTurn ι)) :
    WorkersValid (Runs.run (WorkerSys.step wenv registry) s l) :=
  Runs.invariant_all
    (fun s t hv => (worker_outline wenv).step (worker_steps wenv registry s t) hv) h l

/-- **Claim safety**: for any workers, whoever of them holds the leader lock, in every order of
their statements, with crashes anywhere. -/
theorem claims_safe {s : WorkerSys ι} (hs : WorkersIdle s) (l : List (WorkerTurn ι)) :
    ClaimsSafe wenv registry s l := by
  have hv := workersValid_idle hs
  have hfinal : WorkersValid (Runs.run (WorkerSys.step wenv registry) s l) := workersValid_run hv l
  -- What the turns after `pre` keep.
  have hsuffix : ∀ (Q : WorkerDB → Prop) (pre post : List (WorkerTurn ι)), l = pre ++ post →
      (∀ s s' : WorkerSys ι, s.Steps (workerProgram wenv) s' → WorkersValid s →
        Q s.store.committed → Q s'.store.committed) →
      Q (Runs.run (WorkerSys.step wenv registry) s pre).store.committed →
        Q (Runs.run (WorkerSys.step wenv registry) s l).store.committed := by
    rintro Q pre post rfl hQ hpre
    rw [Runs.run_append]
    refine (Runs.invariant_all (I := fun s : WorkerSys ι => WorkersValid s ∧ Q s.store.committed)
      ?_ ⟨workersValid_run hv pre, hpre⟩ post).2
    rintro s t ⟨hs, hq⟩
    have hstep := worker_steps wenv registry s t
    exact ⟨(worker_outline wenv).step hstep hs, hQ _ _ hstep hs hq⟩
  refine ⟨fun pre post hl row hrow => ?_, hfinal.global.unclaimed, fun id => ?_,
    fun id pre post hl hsent => ?_⟩
  · have hmem := hsuffix (fun c => row.id ∈ c.outboxEvents.map OutboxEvent.id) pre post hl
      (fun s s' hstep hs => ids_step hstep hs row.id) (List.mem_map_of_mem hrow)
    obtain ⟨row', hrow', hid⟩ := List.mem_map.mp hmem
    refine ⟨row', hrow', hid, ?_⟩
    have hunclaimed := hfinal.global.unclaimed row' hrow'
    unfold OutboxEvent.Waits
    cases hs : row'.status with
    | pending => exact .inr (.inl rfl)
    | processing => exact absurd hs hunclaimed
    | sent => exact .inl rfl
    | failed => exact .inr (.inr rfl)
  · have honce := Runs.accounts (M := SentOnce id) (P := fun _ _ => True)
      (fun n s t _ h => sentOnce_step wenv registry id n s t h)
      (Runs.along_of_forall (fun _ _ => trivial) l s) ⟨hv, .inl rfl⟩
    obtain ⟨_, hn⟩ := honce
    omega
  · have hstays := hsuffix (SentIn id) pre post hl (fun _ _ hstep hs => sentIn_step hstep hs) hsent
    exact ⟨hstays, hfinal.not_handles hstays⟩

/-! ### Two leaders -/

/-- Two workers, neither in a pass, and an announcement that waits. -/
def twoWorkers : WorkerSys Bool where
  store := ⟨{ noEvents with outboxEvents := [announcement 401] }, []⟩
  pc := fun _ => .idle

/-- Both begin a pass as leaders, and one of them crashes on the way. -/
theorem twoLeaders_safe : ClaimsSafe (fun _ => .plain) defaultRegistry twoWorkers
    [.start true (.leading none .database), .start false (.leading none .database), .run true,
      .run true, .run false, .crash true, .start false (.leading none .database), .run false] :=
  claims_safe ⟨rfl, fun _ => rfl, by decide, by decide⟩ _

end SchoolOs
