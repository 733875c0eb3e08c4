import SchoolOs.Handlers
import SchoolOs.Runs

/-!
At-least-once delivery over the in-app channel: however often a handler is called, and wherever
its calls stop, each recipient ends with one notification.
-/

namespace SchoolOs

/-! ### Deliveries -/

/-- One delivery of an event: the tables its handler finds, the ids it draws, and after how many
recipients it stops, if it does not complete. -/
structure Delivery where
  tables : WorkerTables
  draw : ℕ → Ulid
  cut : Option (ℕ × Failure)

def Delivery.call (d : Delivery) (handler : Handler) (event : OutboxEvent) : HandlerCall :=
  let call := handler d.tables event.payload event.envelope d.draw
  match d.cut with
  | none => call
  | some (n, e) => ⟨call.sends.take n, some e⟩

section Steps

variable (wenv : WorkerEnv) (registry : ChannelRegistry)

/-- What the pass commits of a call: all of it, unless the transaction was aborted. -/
def deliver (ns : List Notification) (call : HandlerCall) : List Notification :=
  match call.run wenv registry ns with
  | (_, some .database) => ns
  | (ns', _) => ns'

def Delivery.step (handler : Handler) (event : OutboxEvent) (ns : List Notification)
    (d : Delivery) : List Notification :=
  deliver wenv registry ns (d.call handler event)

/-- What happens to the table of notifications. -/
inductive NotificationOp
  | deliver (call : HandlerCall)
  | markRead (now : Instant) (notificationId userId : Ulid)
  | markAllRead (now : Instant) (userId organizationId : Ulid)

def NotificationOp.step (ns : List Notification) : NotificationOp → List Notification
  | .deliver call => SchoolOs.deliver wenv registry ns call
  | .markRead now notificationId userId => SchoolOs.markRead ns now notificationId userId
  | .markAllRead now userId organizationId => SchoolOs.markAllRead ns now userId organizationId

end Steps

variable {wenv : WorkerEnv} {registry : ChannelRegistry} {ns ns' : List Notification}
  {call : HandlerCall}

lemma HandlerCall.run_deduped (wenv : WorkerEnv) (registry : ChannelRegistry)
    (ns : List Notification) (call : HandlerCall) : Deduped ns (call.run wenv registry ns).1 := by
  rw [HandlerCall.run_fst]
  exact broadcastAll_deduped wenv registry ns call.sends

lemma deliver_deduped (wenv : WorkerEnv) (registry : ChannelRegistry) (ns : List Notification)
    (call : HandlerCall) : Deduped ns (deliver wenv registry ns call) := by
  have hrun := HandlerCall.run_deduped wenv registry ns call
  unfold deliver
  split
  · exact .refl ns
  · next ns' r _ he =>
    rw [he] at hrun
    exact hrun

/-! ### One row for a key -/

/-- No two rows have one key. -/
def OnePerKey (ns : List Notification) : Prop := ∀ k, countKey k ns ≤ 1

lemma OnePerKey.deduped (h : OnePerKey ns) (hd : Deduped ns ns') : OnePerKey ns' := by
  intro k
  have h1 := h k
  have h2 := hd.count k
  omega

lemma OnePerKey.setWhere {p : Notification → Bool} {now : Instant} (h : OnePerKey ns) :
    OnePerKey (Tables.setWhere p (Notification.markRead now) ns) := by
  intro k
  have hkeys := Tables.map_setWhere Notification.key (p := p) (f := Notification.markRead now)
    (fun _ => rfl) ns
  have hcount : ∀ l : List Notification, countKey k l = (l.map Notification.key).count k := by
    intro l
    simp only [countKey, List.count, List.countP_map]
    exact List.countP_congr fun n _ => by simp
  have hk := h k
  rw [hcount] at hk ⊢
  rwa [hkeys]

lemma onePerKey_step {op : NotificationOp} (h : OnePerKey ns) :
    OnePerKey (op.step wenv registry ns) := by
  cases op with
  | deliver call => exact h.deduped (deliver_deduped wenv registry ns call)
  | markRead now notificationId userId => exact h.setWhere
  | markAllRead now userId organizationId => exact h.setWhere

/-- **One row for a key** after every history. -/
theorem onePerKey_run (wenv : WorkerEnv) (registry : ChannelRegistry)
    (history : List NotificationOp) :
    OnePerKey (Runs.run (NotificationOp.step wenv registry) [] history) := by
  have hempty : OnePerKey [] := fun _ => Nat.zero_le 1
  exact Runs.invariant_all (fun _ _ h => onePerKey_step h) hempty history

/-- Deliveries of an event add rows at most, and none for a key that has one. -/
lemma deliveries_deduped (wenv : WorkerEnv) (registry : ChannelRegistry) (handler : Handler)
    (event : OutboxEvent) (l : List Delivery) (ns : List Notification) :
    Deduped ns (Runs.run (Delivery.step wenv registry handler event) ns l) := by
  induction l generalizing ns with
  | nil => exact .refl ns
  | cons d l ih => exact (deliver_deduped wenv registry ns (d.call handler event)).trans (ih _)

/-! ### Fan-out -/

/-- What the deliveries of an event leave, when the last one completes: a notification, and no
second one, for each message of the last; the rows from before as they were; and nothing for a
further delivery to add. -/
structure FannedOut (wenv : WorkerEnv) (registry : ChannelRegistry)
    (before after : List Notification) (last : HandlerCall) : Prop where
  one : ∀ s ∈ last.sends, ∃ k, s.1.key? wenv = some k ∧ countKey k after = 1
  kept : before <+: after
  again : ∀ call : HandlerCall, (∀ s ∈ call.sends, ∃ s' ∈ last.sends, s'.1 = s.1) →
    deliver wenv registry after call = after

/-- **Idempotent fan-out**: from every table that a history of deliveries and readings leaves,
through every sequence of deliveries of an event, cut short anywhere, whose last one completes. -/
theorem fan_out (hin : .inApp ∈ registry) (handler : Handler) (event : OutboxEvent)
    (history : List NotificationOp) (deliveries : List Delivery) (last : Delivery)
    {after : List Notification}
    (hlast : (last.call handler event).run wenv registry
      (Runs.run (Delivery.step wenv registry handler event)
        (Runs.run (NotificationOp.step wenv registry) [] history) deliveries) = (after, none)) :
    FannedOut wenv registry (Runs.run (NotificationOp.step wenv registry) [] history) after
      (last.call handler event) := by
  generalize hbefore : Runs.run (NotificationOp.step wenv registry) [] history = before at hlast ⊢
  have hbetw := deliveries_deduped wenv registry handler event deliveries
    before
  generalize Runs.run (Delivery.step wenv registry handler event) before deliveries = between
    at hlast hbetw
  have hafter : Deduped between after := by
    have hrun := HandlerCall.run_deduped wenv registry between (last.call handler event)
    rwa [hlast] at hrun
  have hone : OnePerKey after :=
    ((hbefore ▸ onePerKey_run wenv registry history).deduped hbetw).deduped hafter
  -- The last delivery ran through, so that every message of it has its row.
  have hrows : ∀ s ∈ (last.call handler event).sends, ∃ k, s.1.key? wenv = some k ∧
      k.Bindable ∧ k ∈ after.map Notification.key := by
    have hdone := HandlerCall.run_returns (congrArg Prod.snd hlast)
    have hfst : (broadcastAll wenv registry between (last.call handler event).sends).1 = after := by
      rw [← HandlerCall.run_fst, hlast]
    have hcomplete := broadcastAll_complete hin hdone.1
    rwa [hfst] at hcomplete
  refine ⟨fun s hs => ?_, (hbetw.trans hafter).isPrefix, fun call hcall => ?_⟩
  · obtain ⟨k, hk, _, hmem⟩ := hrows s hs
    have h1 := hone k
    have h2 := countKey_pos.mpr hmem
    exact ⟨k, hk, by omega⟩
  · have hskip : broadcastAll wenv registry after call.sends = (after, none) := by
      refine broadcastAll_of_mem fun s hs => ?_
      obtain ⟨s', hs', he⟩ := hcall s hs
      rw [← he]
      exact hrows s' hs'
    have hfst : (call.run wenv registry after).1 = after := by
      rw [HandlerCall.run_fst, hskip]
    unfold deliver
    split
    · rfl
    · next ns' r _ he =>
      rw [he] at hfst
      exact hfst

/-! ### An announcement, stopped after its first recipient -/

/-- A worker with the default settings. -/
def WorkerEnv.plain : WorkerEnv where
  outboxMaxAttempts := 5
  outboxBatchSize := 25
  workerId := "host:1"
  upper s := String.ofList (s.toList.map Char.toUpper)
  repr s := "'" ++ s ++ "'"
  bindError _ := "StatementError: ULID must be 26 characters"

/-- Two users of a school. -/
def twoMembers : WorkerTables where
  access := { DB.empty with
    users := [User.new 2 (some "d@e.f") none none .active none,
      User.new 3 (some "g@h.i") none none .active none]
    memberships := [Membership.new 301 2 101 (some 201) none none true none,
      Membership.new 302 3 101 (some 201) none none true none] }
  attendanceRecords := []
  parents := []
  studentParents := []

def announcement (announcementId : Ulid) : OutboxEvent where
  id := 501
  eventName := "ANNOUNCEMENT_PUBLISHED"
  payload := [("announcement_id", .str announcementId.text), ("title", .str "Sports day")]
  organizationId := some 101
  schoolId := some 201
  entityType := some "announcement"
  entityId := some announcementId
  status := .pending
  attempts := 0
  nextAttemptAt := none
  processedAt := none
  lastError := none
  lockedBy := none
  lockedAt := none
  createdAt := 0

def deliveryTo (cut : Option (ℕ × Failure)) (n : ℕ) : Delivery where
  tables := twoMembers
  draw := fun k => Ulid.ofNat (k + n)
  cut := cut

def announcing : Handler := handleAnnouncementPublished .plain fun _ => ""

/-- Two notifications, one for each user. -/
theorem announcement_fannedOut : ∃ after, after.length = 2 ∧
    FannedOut .plain defaultRegistry [] after
      ((deliveryTo none 611).call announcing (announcement 401)) := by
  have hdone : (((deliveryTo none 611).call announcing (announcement 401)).run .plain
      defaultRegistry (Runs.run (Delivery.step .plain defaultRegistry announcing (announcement 401))
        [] [deliveryTo (some (1, .exception "lost")) 601])).2 = none := by decide
  refine ⟨_, ?_, fan_out (show Channel.inApp ∈ defaultRegistry by decide) announcing
    (announcement 401) [] [deliveryTo (some (1, .exception "lost")) 601] (deliveryTo none 611)
    (Prod.ext rfl hdone)⟩
  decide

end SchoolOs
