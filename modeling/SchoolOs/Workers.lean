import SchoolOs.DeadLetters
import SchoolOs.Processes

/-!
Dispatcher workers, one SQL statement at a time: any number of them share the outbox, each may
believe it is the leader, and each may crash between any two statements.
-/

namespace SchoolOs

open ReadCommitted

/-! ### Where a worker stands -/

inductive WorkerPc
  /-- Between two passes. -/
  | idle
  /-- The rows settled, and those fetched that are still to be claimed; without any, the commit
  is next. -/
  | ready (p : Pass) (settled rest : List OutboxEvent)
  /-- The claim is flushed; the handler is called next. -/
  | claimed (p : Pass) (settled : List OutboxEvent) (event : OutboxEvent)
      (rest : List OutboxEvent)
  /-- What the handler has still to send. -/
  | calling (p : Pass) (settled : List OutboxEvent) (event : OutboxEvent)
      (rest : List OutboxEvent) (call : HandlerCall)
  /-- The call has ended; the row is settled next. -/
  | called (p : Pass) (settled : List OutboxEvent) (event : OutboxEvent)
      (rest : List OutboxEvent) (result : HandlerResult)

/-- The rows of the open pass as it has them: settled, claimed and fetched. -/
def WorkerPc.events : WorkerPc → List OutboxEvent
  | .idle => []
  | .ready _ settled rest => settled ++ rest
  | .claimed _ settled event rest | .calling _ settled event rest _
  | .called _ settled event rest _ => settled ++ event :: rest

/-- The rows that are flushed. -/
def WorkerPc.flushed : WorkerPc → List OutboxEvent
  | .idle => []
  | .ready _ settled _ => settled
  | .claimed _ settled event _ | .calling _ settled event _ _
  | .called _ settled event _ _ => settled ++ [event]

/-- The worker handles the event in its open pass. -/
def WorkerPc.Handles (id : Ulid) (pc : WorkerPc) : Prop := id ∈ pc.events.map OutboxEvent.id

/-! ### Statements -/

/-- `FOR UPDATE` locks the rows that are fetched. -/
def lockRows (events : List OutboxEvent) : Write WorkerDB Ulid where
  locks := events.map OutboxEvent.id
  run w := w

def updateRow (row : OutboxEvent) : Write WorkerDB Ulid where
  locks := [row.id]
  run w := w.put row

def insertNotifications (rows : List Notification) : Write WorkerDB Ulid where
  locks := []
  run w := { w with notifications := w.notifications ++ rows }

/-- The database and where every worker stands. -/
abbrev WorkerSys (ι : Type*) := Procs ι WorkerDB Ulid WorkerPc

/-- A worker begins a pass, runs its next statement, or crashes; others publish events, or change
the rest of the database. -/
inductive WorkerTurn (ι : Type*)
  | start (i : ι) (p : Pass)
  | run (i : ι)
  | crash (i : ι)
  | publish (e : NewEvent)
  | other (tables : WorkerTables) (notifications : List Notification)

namespace WorkerSys

variable {ι : Type*} [DecidableEq ι] (wenv : ι → WorkerEnv) (registry : ChannelRegistry)
  (s : WorkerSys ι) (i : ι)

/-- Another worker has locked the row. -/
def Skipped (id : Ulid) : Prop := ∃ q ∈ s.store.pending, q.1 ≠ i ∧ id ∈ q.2.locks

instance (id : Ulid) : Decidable (s.Skipped i id) :=
  inferInstanceAs (Decidable (∃ q ∈ s.store.pending, q.1 ≠ i ∧ id ∈ q.2.locks))

/-- `FOR UPDATE SKIP LOCKED`: the due rows among those that no other worker has locked. -/
def fetch (p : Pass) : List OutboxEvent :=
  fetchDueEvents p.order p.now (p.limit (wenv i))
    ((s.view i).outboxEvents.filter fun e => ¬ s.Skipped i e.id)

/-- The next statement of a worker. -/
def next : WorkerSys ι :=
  match s.pc i with
  | .idle => s
  | .ready _ _ [] => s.commit i .idle
  | .ready p settled (event :: rest) =>
    let event := claim (wenv i) (p.visit event.id) event
    s.write i (updateRow event) (.claimed p settled event rest)
  | .claimed p settled event rest =>
    match event.handlerCall p.handlers (p.visit event.id) (s.view i).tables with
    | none => s.goto i (.called p settled event rest .missing)
    | some call => s.goto i (.calling p settled event rest call)
  | .calling p settled event rest ⟨[], none⟩ => s.goto i (.called p settled event rest .returned)
  | .calling p settled event rest ⟨[], some e⟩ =>
    s.goto i (.called p settled event rest (.raised e))
  | .calling p settled event rest ⟨(m, id) :: sends, raises⟩ =>
    match broadcast (wenv i) (s.view i).notifications m id registry with
    | .error e => s.goto i (.called p settled event rest (.raised e))
    | .ok ns =>
      -- The row that the message adds, if it adds one.
      s.write i (insertNotifications (ns.drop (s.view i).notifications.length))
        (.calling p settled event rest ⟨sends, raises⟩)
  | .called p settled event rest result =>
    match settle (wenv i) (p.visit event.id) event result with
    | .error _ => s.abort i .idle
    | .ok row => s.write i (updateRow row) (.ready p (settled ++ [row]) rest)

def step : WorkerSys ι → WorkerTurn ι → WorkerSys ι
  | s, .start i p =>
    match s.pc i with
    | .idle =>
      if p.leader then
        s.write i (lockRows (s.fetch wenv i p)) (.ready p [] (s.fetch wenv i p))
      else s
    | _ => s
  | s, .run i => s.next wenv registry i
  | s, .crash i => s.abort i .idle
  | s, .publish e => s.outside (s.store.committed.publish e)
  | s, .other tables notifications => s.outside
    { s.store.committed with tables := tables, notifications := notifications }

end WorkerSys

/-! ### A pass that runs alone -/

section Alone

open Procs Runs

variable {ι : Type*} [DecidableEq ι] {wenv : ι → WorkerEnv} {registry : ChannelRegistry}
  {pcs : ι → WorkerPc} {i : ι} {p : Pass} {c w w' : WorkerDB}
  {ws : List (Write WorkerDB Ulid)} {settled rest : List OutboxEvent} {event : OutboxEvent}

/-- Statements of the one worker lead from one state to the other. -/
abbrev PassLeads (wenv : ι → WorkerEnv) (registry : ChannelRegistry) (i : ι)
    (s s' : WorkerSys ι) : Prop :=
  Repeats (WorkerSys.step wenv registry) (.run i) s s'

lemma leads_calling (sends : List (ChannelMessage × Ulid)) (raises : Option Failure)
    (hw : after ws c = w) : ∃ ws', after ws' c = { w with
        notifications :=
          ((⟨sends, raises⟩ : HandlerCall).run (wenv i) registry w.notifications).1 } ∧
      PassLeads wenv registry i (solo pcs i c ws (.calling p settled event rest ⟨sends, raises⟩))
        (solo pcs i c ws' (.called p settled event rest
          (callHandler (wenv i) registry w.notifications (some ⟨sends, raises⟩)).2)) := by
  induction sends generalizing ws w with
  | nil =>
    refine ⟨ws, hw, .next ?_⟩
    -- No message is left.
    cases raises with
    | none =>
      simp only [WorkerSys.step, WorkerSys.next, solo_pc, solo_goto]
      exact .refl _
    | some e =>
      simp only [WorkerSys.step, WorkerSys.next, solo_pc, solo_goto]
      exact .refl _
  | cons s sends ih =>
    obtain ⟨m, id⟩ := s
    -- The message fails, and the handler with it.
    cases hb : broadcast (wenv i) w.notifications m id registry with
    | error e =>
      refine ⟨ws, ?_, .next ?_⟩
      · rw [hw]
        simp only [HandlerCall.run, broadcastAll, hb]
      · simp only [WorkerSys.step, WorkerSys.next, solo_pc, solo_view, hw, hb, solo_goto,
          callHandler, HandlerCall.run, broadcastAll]
        exact .refl _
    | ok ns =>
      -- The message is stored, and the others follow.
      have hprefix := (broadcast_ok hb).1.isPrefix
      have hns : w.notifications ++ ns.drop w.notifications.length = ns := by
        obtain ⟨added, rfl⟩ := hprefix
        rw [List.drop_left]
      have hw' : after (ws ++ [insertNotifications (ns.drop w.notifications.length)]) c =
          { w with notifications := ns } := by
        rw [after_snoc, hw]
        simp only [insertNotifications, hns]
      obtain ⟨ws', hws', hleads⟩ := ih hw'
      refine ⟨ws', ?_, .next ?_⟩
      · rw [hws']
        simp only [HandlerCall.run, broadcastAll, hb]
      · simp only [WorkerSys.step, WorkerSys.next, solo_pc, solo_view, hw, hb, solo_write]
        simpa only [callHandler, HandlerCall.run, broadcastAll, hb] using hleads

lemma leads_called (hw : after ws c = w) : ∃ ws', after ws' c =
      { w.put (claim (wenv i) (p.visit event.id) event) with
        notifications := (p.called (wenv i) registry w event).1 } ∧
    PassLeads wenv registry i (solo pcs i c ws (.ready p settled (event :: rest)))
      (solo pcs i c ws' (.called p settled (claim (wenv i) (p.visit event.id) event) rest
        (p.called (wenv i) registry w event).2)) := by
  have hclaim : after (ws ++ [updateRow (claim (wenv i) (p.visit event.id) event)]) c =
      w.put (claim (wenv i) (p.visit event.id) event) := by
    rw [after_snoc, hw]
    rfl
  have hsame : (claim (wenv i) (p.visit event.id) event).handlerCall p.handlers
      (p.visit (claim (wenv i) (p.visit event.id) event).id)
      (w.put (claim (wenv i) (p.visit event.id) event)).tables =
        event.handlerCall p.handlers (p.visit event.id) w.tables := rfl
  cases hcall : event.handlerCall p.handlers (p.visit event.id) w.tables with
  | none =>
    -- No handler: the outcome is known at once.
    refine ⟨ws ++ [updateRow (claim (wenv i) (p.visit event.id) event)], ?_, .next (.next ?_)⟩
    · rw [hclaim]
      simp only [Pass.called, hcall, callHandler]
      rfl
    · simp only [WorkerSys.step, WorkerSys.next, solo_pc, solo_write, solo_view, hclaim,
        hsame, hcall, solo_goto, Pass.called, callHandler]
      exact .refl _
  | some call =>
    -- The messages of the handler come first.
    obtain ⟨sends, raises⟩ := call
    obtain ⟨ws', hws', hleads⟩ : ∃ ws', after ws' c = _ ∧ PassLeads wenv registry i
        (solo pcs i c (ws ++ [updateRow (claim (wenv i) (p.visit event.id) event)])
          (.calling p settled (claim (wenv i) (p.visit event.id) event) rest ⟨sends, raises⟩))
        (solo pcs i c ws' (.called p settled (claim (wenv i) (p.visit event.id) event) rest _)) :=
      leads_calling sends raises hclaim
    refine ⟨ws', ?_, .next (.next ?_)⟩
    · rw [hws']
      simp only [Pass.called, hcall, callHandler_fst]
      rfl
    · simp only [WorkerSys.step, WorkerSys.next, solo_pc, solo_write, solo_view, hclaim,
        hsame, hcall, solo_goto, Pass.called]
      exact hleads

/-- The turn of an event: its row is settled, or the pass is rolled back. -/
lemma leads_event (wenv : ι → WorkerEnv) (registry : ChannelRegistry) (pcs : ι → WorkerPc) (i : ι)
    (p : Pass) (settled : List OutboxEvent) (event : OutboxEvent) (rest : List OutboxEvent)
    (hw : after ws c = w) :
    match processEvent (wenv i) registry p w event with
    | .ok (row, w') => ∃ ws', after ws' c = w' ∧
        PassLeads wenv registry i (solo pcs i c ws (.ready p settled (event :: rest)))
          (solo pcs i c ws' (.ready p (settled ++ [row]) rest))
    | .error _ => PassLeads wenv registry i (solo pcs i c ws (.ready p settled (event :: rest)))
        (solo pcs i c [] .idle) := by
  obtain ⟨ws', hws', hleads⟩ : ∃ ws', after ws' c = _ ∧
      PassLeads wenv registry i (solo pcs i c ws (.ready p settled (event :: rest)))
        (solo pcs i c ws' (.called p settled _ rest _)) := leads_called hw
  cases hsettle : settle (wenv i) (p.visit event.id) (claim (wenv i) (p.visit event.id) event)
      (p.called (wenv i) registry w event).2 with
  | error e =>
    -- The settlement raises, and the pass is rolled back.
    rw [processEvent_error hsettle]
    refine hleads.trans (.next ?_)
    have hclaimed : settle (wenv i) (p.visit (claim (wenv i) (p.visit event.id) event).id)
      (claim (wenv i) (p.visit event.id) event) (p.called (wenv i) registry w event).2 =
        .error e := hsettle
    simp only [WorkerSys.step, WorkerSys.next, solo_pc, hclaimed, solo_abort]
    exact .refl _
  | ok row =>
    -- The row is settled.
    have hevent : processEvent (wenv i) registry p w event = .ok (row,
        { w with notifications := (p.called (wenv i) registry w event).1 }.put row) :=
      processEvent_ok.mpr ⟨hsettle, rfl⟩
    rw [hevent]
    refine ⟨ws' ++ [updateRow row], ?_, hleads.trans (.next ?_)⟩
    · rw [after_snoc, hws']
      exact put_put (settle_ok hsettle).id.symm _
    · have hclaimed : settle (wenv i) (p.visit (claim (wenv i) (p.visit event.id) event).id)
        (claim (wenv i) (p.visit event.id) event) (p.called (wenv i) registry w event).2 =
          .ok row := hsettle
      simp only [WorkerSys.step, WorkerSys.next, solo_pc, hclaimed, solo_write]
      exact .refl _

lemma leads_batch (stats : DispatchStats) (hw : after ws c = w) :
    PassLeads wenv registry i (solo pcs i c ws (.ready p settled rest))
      (solo pcs i (match processAll (wenv i) registry p stats w rest with
        | .ok (_, w') => w'
        | .error _ => c) [] .idle) := by
  induction rest generalizing ws w settled stats with
  | nil =>
    refine .next ?_
    simp only [WorkerSys.step, WorkerSys.next, solo_pc, solo_commit, hw, processAll]
    exact .refl _
  | cons event rest ih =>
    have hevent := leads_event wenv registry pcs i p settled event rest hw
    cases h : processEvent (wenv i) registry p w event with
    | error e =>
      simp only [processAll, h]
      rw [h] at hevent
      exact hevent
    | ok r =>
      obtain ⟨row, w'⟩ := r
      rw [h] at hevent
      obtain ⟨ws', hws', hleads⟩ := hevent
      simp only [processAll, h]
      exact hleads.trans (ih _ hws')

lemma solo_fetch (h : p.leader = true) :
    WorkerSys.fetch wenv (solo pcs i c [] .idle) i p = p.batch (wenv i) c := by
  have hfree : ∀ e ∈ c.outboxEvents,
      decide (¬ WorkerSys.Skipped (solo pcs i c [] .idle) i e.id) = true := by
    rintro e -
    refine decide_eq_true ?_
    rintro ⟨q, hq, _⟩
    exact absurd hq List.not_mem_nil
  simp only [WorkerSys.fetch, Pass.batch, if_pos h, solo_view, after_nil,
    List.filter_eq_self.mpr hfree]

/-- **The two levels agree**: a worker whose statements run alone leaves what the pass leaves when
it is taken as one step. -/
theorem pass_alone (wenv : ι → WorkerEnv) (registry : ChannelRegistry) (pcs : ι → WorkerPc) (i : ι)
    (c : WorkerDB) (p : Pass) : ∃ n, run (WorkerSys.step wenv registry)
      (solo pcs i c [] .idle) (.start i p :: .replicate n (.run i)) =
        solo pcs i (p.step (wenv i) registry c) [] .idle := by
  by_cases hleader : p.leader = true
  · have hstart : WorkerSys.step wenv registry (solo pcs i c [] .idle) (.start i p) =
        solo pcs i c [lockRows (p.batch (wenv i) c)] (.ready p [] (p.batch (wenv i) c)) := by
      simp only [WorkerSys.step, solo_pc, hleader, if_true, solo_fetch hleader, solo_write,
        List.nil_append]
    obtain ⟨n, hn⟩ : PassLeads wenv registry i _ _ := leads_batch ⟨0, 0, 0⟩
      (show after [lockRows (p.batch (wenv i) c)] c = c from rfl)
    refine ⟨n, ?_⟩
    rw [run_cons, hstart]
    exact hn
  · have hstart : WorkerSys.step wenv registry (solo pcs i c [] .idle) (.start i p) =
        solo pcs i c [] .idle := by
      simp only [WorkerSys.step, solo_pc, hleader]
      rfl
    have hnone : p.step (wenv i) registry c = c := by
      simp only [Pass.step, runOnce, Pass.batch, hleader]
      rfl
    refine ⟨0, ?_⟩
    rw [run_cons, hstart, hnone]
    rfl

end Alone

end SchoolOs
