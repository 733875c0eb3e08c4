import SchoolOs.FanOut
import SchoolOs.PageWalks
import SchoolOs.Rls

/-!
The inboxes of users over every order of deliveries and requests: which notifications are there,
which of them are read, and what the counts and the lists say.
-/

namespace SchoolOs

open Runs

/-! ### Data access -/

/-- The row security of `notifications` shows the row to the request. -/
def NotificationVisible (ctx : RequestContext) (n : Notification) : Prop :=
  orgScopedPolicy (setTenantContext Gucs.unset ctx.schoolId ctx.organizationId)
    (some n.organizationId) false = true

instance (ctx : RequestContext) (n : Notification) : Decidable (NotificationVisible ctx n) :=
  inferInstanceAs (Decidable (_ = true))

/-- `user_id == ctx.user_id`, which no row meets when there is none. -/
def OfUser (ctx : RequestContext) (n : Notification) : Prop :=
  NotificationVisible ctx n ∧ some n.userId = ctx.userId

instance (ctx : RequestContext) (n : Notification) : Decidable (OfUser ctx n) :=
  inferInstanceAs (Decidable (_ ∧ _))

/-- The row is the user's, in the organization of the request. -/
def InInbox (ctx : RequestContext) (n : Notification) : Prop :=
  OfUser ctx n ∧ some n.organizationId = ctx.organizationId

instance (ctx : RequestContext) (n : Notification) : Decidable (InInbox ctx n) :=
  inferInstanceAs (Decidable (_ ∧ _))

structure NotificationListParams where
  isRead : Option Bool
  type : Option String
  cursor : Option String
  limit : ℤ

/-- The rows of a list, before it is paged. -/
def listedNotifications (ns : List Notification) (ctx : RequestContext) (isRead : Option Bool)
    (type : Option String) : List Notification :=
  ns.filter fun n => InInbox ctx n ∧ (∀ b ∈ isRead, n.isRead = b) ∧ ∀ t ∈ type, n.type = t

/-- `list_for_user`. A limit out of range fails the validation of `CursorParams`, which no handler
expects in a service. -/
def listForUser (pg : Paging) (createdAt : Ulid → Instant) (ns : List Notification)
    (ctx : RequestContext) (params : NotificationListParams) :
    Fallible (CursorPage Notification) :=
  if hlimit : 1 ≤ params.limit.toNat ∧ params.limit.toNat ≤ maxPageSize then do
    let page ← paginateCursor pg (fun n => createdAt n.id) Notification.id
      (listedNotifications ns ctx params.isRead params.type)
      ⟨params.limit.toNat, params.cursor, hlimit⟩
    ensure (∀ t ∈ params.type, bindable t = true) internalError
    return page
  else .error internalError

namespace Notifications

def getById (ns : List Notification) (ctx : RequestContext) (notificationId : Ulid) :
    Option Notification :=
  ns.find? fun n => OfUser ctx n ∧ n.id = notificationId

/-! ### The service -/

def notificationNotFound : ApiError :=
  notFoundError "The notification was not found." "NOTIFICATION_NOT_FOUND"

/-- `mark_read`. The time is written again when the notification was read before. -/
def markRead (ns : List Notification) (ctx : RequestContext) (now : Instant)
    (notificationId : Ulid) : Fallible (Notification × List Notification) := do
  let notif ← found (getById ns ctx notificationId) notificationNotFound
  let notif := notif.markRead now
  return (notif, Tables.set Notification.id notif.id (fun _ => notif) ns)

/-- `mark_all_read`, which answers with the number of rows of its update. -/
def markAllRead (ns : List Notification) (ctx : RequestContext) (now : Instant) :
    ℕ × List Notification :=
  (ns.countP fun n => InInbox ctx n ∧ n.isRead = false,
    Tables.setWhere (fun n => InInbox ctx n ∧ n.isRead = false) (Notification.markRead now) ns)

def getUnreadCount (ns : List Notification) (ctx : RequestContext) : ℕ :=
  ns.countP fun n => InInbox ctx n ∧ n.isRead = false

/-- `create_notification`, by other services. -/
def createNotification (ns : List Notification) (row : Notification) :
    Fallible (List Notification) := do
  ensure (NotificationStorable ns { row with isRead := false, readAt := none }) internalError
  return ns ++ [{ row with isRead := false, readAt := none }]

end Notifications

/-! ### Events -/

/-- A handler is called by the worker, a service notifies, or a user reads. -/
inductive InboxEvent
  | deliver (call : HandlerCall)
  | create (row : Notification)
  | markRead (ctx : RequestContext) (now : Instant) (notificationId : Ulid)
  | markAllRead (ctx : RequestContext) (now : Instant)

section Events

variable (wenv : WorkerEnv) (registry : ChannelRegistry)

/-- A failed request leaves no trace. -/
def InboxEvent.step (ns : List Notification) : InboxEvent → List Notification
  | .deliver call => SchoolOs.deliver wenv registry ns call
  | .create row =>
    match Notifications.createNotification ns row with
    | .ok ns' => ns'
    | .error _ => ns
  | .markRead ctx now notificationId =>
    match Notifications.markRead ns ctx now notificationId with
    | .ok (_, ns') => ns'
    | .error _ => ns
  | .markAllRead ctx now => (Notifications.markAllRead ns ctx now).2

/-- The rows that an event adds, at the end of the table. -/
def InboxEvent.sent (ns : List Notification) (e : InboxEvent) : List Notification :=
  (e.step wenv registry ns).drop ns.length

end Events

/-- The event reads the notification. -/
def InboxEvent.Reads (n : Notification) : InboxEvent → Prop
  | .deliver _ | .create _ => False
  | .markRead ctx _ notificationId => OfUser ctx n ∧ n.id = notificationId
  | .markAllRead ctx _ => InInbox ctx n

instance InboxEvent.decidableReads (n : Notification) : (e : InboxEvent) → Decidable (e.Reads n)
  | .deliver _ | .create _ => .isFalse id
  | .markRead ctx _ _ => inferInstanceAs (Decidable (OfUser ctx n ∧ _))
  | .markAllRead ctx _ => inferInstanceAs (Decidable (InInbox ctx n))

/-- Whose request it is. -/
def InboxEvent.user : InboxEvent → Option Ulid
  | .deliver _ | .create _ => none
  | .markRead ctx _ _ | .markAllRead ctx _ => ctx.userId

/-- What an event makes of a notification that is there. -/
def InboxEvent.turn (n : Notification) : InboxEvent → Notification
  | .deliver _ | .create _ => n
  | .markRead ctx now notificationId =>
    if OfUser ctx n ∧ n.id = notificationId then n.markRead now else n
  | .markAllRead ctx now => if InInbox ctx n ∧ n.isRead = false then n.markRead now else n

/-! ### What is sent -/

/-- Rows that come in: none of them read, each with an id of its own. -/
structure Arrived (ns new : List Notification) : Prop where
  unread : ∀ n ∈ new, n.isRead = false ∧ n.readAt = none
  fresh : Tables.Inserts Notification.id new ns

section Arrivals

variable {wenv : WorkerEnv} {registry : ChannelRegistry} {ns ns' new new' : List Notification}
  {m : ChannelMessage} {id : Ulid}

lemma Arrived.nil (ns : List Notification) : Arrived ns [] where
  unread := fun _ hn => absurd hn List.not_mem_nil
  fresh := ⟨List.nodup_nil, fun _ hn => absurd hn List.not_mem_nil⟩

lemma Arrived.append (h : Arrived ns new) (h' : Arrived (ns ++ new) new') :
    Arrived ns (new ++ new') where
  unread := by
    intro n hn
    rcases List.mem_append.mp hn with hn | hn
    · exact h.unread n hn
    · exact h'.unread n hn
  fresh := by
    constructor
    · rw [List.map_append]
      refine h.fresh.1.append h'.fresh.1 fun k hk hk' => ?_
      obtain ⟨a, ha, rfl⟩ := List.mem_map.mp hk
      obtain ⟨b, hb, hba⟩ := List.mem_map.mp hk'
      exact h'.fresh.2 b hb a (List.mem_append_right ns ha) hba.symm
    · intro n hn r hr
      rcases List.mem_append.mp hn with hn | hn
      · exact h.fresh.2 n hn r hr
      · exact h'.fresh.2 n hn r (List.mem_append_left new hr)

lemma Arrived.nodup (h : Arrived ns new) (hns : (ns.map Notification.id).Nodup) :
    ((ns ++ new).map Notification.id).Nodup := by
  rw [List.map_append]
  refine hns.append h.fresh.1 fun k hk hk' => ?_
  obtain ⟨a, ha, rfl⟩ := List.mem_map.mp hk
  obtain ⟨b, hb, hba⟩ := List.mem_map.mp hk'
  exact h.fresh.2 b hb a ha hba.symm

/-- The table grows by rows that are new. -/
def Enlarged (ns ns' : List Notification) : Prop := ∃ new, ns' = ns ++ new ∧ Arrived ns new

lemma Enlarged.refl (ns : List Notification) : Enlarged ns ns :=
  ⟨[], (List.append_nil ns).symm, .nil ns⟩

lemma Enlarged.trans {ns'' : List Notification} (h : Enlarged ns ns') (h' : Enlarged ns' ns'') :
    Enlarged ns ns'' := by
  obtain ⟨new, rfl, hnew⟩ := h
  obtain ⟨new', rfl, hnew'⟩ := h'
  exact ⟨new ++ new', List.append_assoc ns new new', hnew.append hnew'⟩

lemma enlarged_storable {n : Notification} (h : NotificationStorable ns n)
    (hunread : n.isRead = false) (htime : n.readAt = none) : Enlarged ns (ns ++ [n]) := by
  refine ⟨[n], rfl, ⟨fun n' hn' => ?_, h.1⟩⟩
  obtain rfl := List.mem_singleton.mp hn'
  exact ⟨hunread, htime⟩

lemma inAppSend_enlarged (h : inAppSend wenv ns m id = .ok ns') : Enlarged ns ns' := by
  unfold inAppSend at h
  split at h
  · cases h
  split at h
  · cases h
  split at h
  · obtain rfl := Except.ok.inj h
    exact .refl ns
  split at h
  · next hstorable =>
    obtain rfl := Except.ok.inj h
    exact enlarged_storable hstorable rfl rfl
  · cases h

lemma broadcast_enlarged (h : broadcast wenv ns m id registry = .ok ns') : Enlarged ns ns' := by
  induction registry generalizing ns with
  | nil =>
    obtain rfl := Except.ok.inj h
    exact .refl ns
  | cons c rest ih =>
    obtain ⟨ns1, hc, hrest⟩ := bind_ok.mp h
    refine Enlarged.trans ?_ (ih hrest)
    cases c with
    | inApp => exact inAppSend_enlarged hc
    | email | whatsApp =>
      obtain rfl := Except.ok.inj hc
      exact .refl ns

lemma broadcastAll_enlarged (sends : List (ChannelMessage × Ulid)) :
    Enlarged ns (broadcastAll wenv registry ns sends).1 := by
  induction sends generalizing ns with
  | nil => exact .refl ns
  | cons s rest ih =>
    obtain ⟨m, id⟩ := s
    cases hb : broadcast wenv ns m id registry with
    | error e =>
      simp only [broadcastAll, hb]
      exact .refl ns
    | ok ns' =>
      simp only [broadcastAll, hb]
      exact (broadcast_enlarged hb).trans ih

lemma deliver_enlarged (call : HandlerCall) : Enlarged ns (deliver wenv registry ns call) := by
  have hrun : Enlarged ns (call.run wenv registry ns).1 := by
    rw [HandlerCall.run_fst]
    exact broadcastAll_enlarged call.sends
  unfold deliver
  split
  · exact .refl ns
  · next ns' r _ he =>
    rw [he] at hrun
    exact hrun

end Arrivals

/-! ### Steps -/

section Steps

variable {wenv : WorkerEnv} {registry : ChannelRegistry} {ns : List Notification} {e : InboxEvent}
  {n : Notification}

lemma turn_marks (e : InboxEvent) (n : Notification) :
    e.turn n = { n with isRead := (e.turn n).isRead, readAt := (e.turn n).readAt } := by
  cases e with
  | deliver call | create row => rfl
  | markRead ctx now notificationId =>
    simp only [InboxEvent.turn]
    split <;> rfl
  | markAllRead ctx now =>
    simp only [InboxEvent.turn]
    split <;> rfl

@[simp] lemma turn_id (e : InboxEvent) (n : Notification) : (e.turn n).id = n.id := by
  rw [turn_marks]

@[simp] lemma turn_userId (e : InboxEvent) (n : Notification) : (e.turn n).userId = n.userId := by
  rw [turn_marks]

@[simp] lemma turn_organizationId (e : InboxEvent) (n : Notification) :
    (e.turn n).organizationId = n.organizationId := by
  rw [turn_marks]

lemma reads_turn (e' : InboxEvent) : e.Reads (e'.turn n) ↔ e.Reads n := by
  cases e <;> simp [InboxEvent.Reads, InInbox, OfUser, NotificationVisible]

/-- **A notification is read by the events that read it**, and by no others. -/
lemma turn_isRead : (e.turn n).isRead = true ↔ n.isRead = true ∨ e.Reads n := by
  cases e with
  | deliver call | create row => simp [InboxEvent.turn, InboxEvent.Reads]
  | markRead ctx now notificationId =>
    simp only [InboxEvent.turn, InboxEvent.Reads]
    split <;> simp_all [Notification.markRead]
  | markAllRead ctx now =>
    simp only [InboxEvent.turn, InboxEvent.Reads]
    split <;> simp_all [Notification.markRead]

lemma getById_eq_some {ctx : RequestContext} {notificationId : Ulid}
    (h : Notifications.getById ns ctx notificationId = some n) :
    n ∈ ns ∧ OfUser ctx n ∧ n.id = notificationId := by
  have hp := List.find?_some h
  exact ⟨List.mem_of_find?_eq_some h, of_decide_eq_true hp⟩

lemma markRead_step (hns : (ns.map Notification.id).Nodup) (ctx : RequestContext) (now : Instant)
    (notificationId : Ulid) : InboxEvent.step wenv registry ns (.markRead ctx now notificationId) =
      ns.map fun n => (InboxEvent.markRead ctx now notificationId).turn n := by
  cases hget : Notifications.getById ns ctx notificationId with
  | none =>
    have hnone : ∀ n ∈ ns, ¬ (OfUser ctx n ∧ n.id = notificationId) := by
      simpa [Notifications.getById] using hget
    simp only [InboxEvent.step, Notifications.markRead, hget, found, error_bind]
    conv_lhs => rw [← List.map_id ns]
    exact List.map_congr_left fun n hn => (if_neg (hnone n hn)).symm
  | some n =>
    obtain ⟨hmem, huser, hid⟩ := getById_eq_some hget
    simp only [InboxEvent.step, Notifications.markRead, hget, found, ok_bind]
    refine List.map_congr_left fun r hr => ?_
    have hsame : r.id = n.id ↔ OfUser ctx r ∧ r.id = notificationId := by
      constructor
      · intro he
        obtain rfl := List.inj_on_of_nodup_map hns hr hmem he
        exact ⟨huser, hid⟩
      · exact fun h => h.2.trans hid.symm
    by_cases hr' : r.id = n.id
    · obtain rfl := List.inj_on_of_nodup_map hns hr hmem hr'
      simp [InboxEvent.turn, huser, hid, Notification.markRead]
    · have hnot := fun h => hr' (hsame.mpr h)
      simp only [InboxEvent.turn, if_neg hnot, Notification.markRead, decide_eq_true_eq, hr',
        if_false]

lemma markAllRead_snd (ctx : RequestContext) (now : Instant) (ns : List Notification) :
    (Notifications.markAllRead ns ctx now).2 =
      ns.map fun n => (InboxEvent.markAllRead ctx now).turn n := by
  refine List.map_congr_left fun n _ => ?_
  simp only [InboxEvent.turn, decide_eq_true_eq]

/-- An event turns the rows that are there, and adds rows that are new. -/
lemma inboxStep_turns (hns : (ns.map Notification.id).Nodup) (e : InboxEvent) :
    ∃ new, e.step wenv registry ns = (ns.map fun n => e.turn n) ++ new ∧ Arrived ns new := by
  have hsame : ∀ {ns'}, Enlarged ns ns' → (∀ n, e.turn n = n) →
      ∃ new, ns' = (ns.map fun n => e.turn n) ++ new ∧ Arrived ns new := by
    rintro _ ⟨new, rfl, hnew⟩ hturn
    have hid : (ns.map fun n => e.turn n) = ns := by
      conv_rhs => rw [← List.map_id ns]
      exact List.map_congr_left fun n _ => hturn n
    exact ⟨new, by rw [hid], hnew⟩
  cases e with
  | deliver call => exact hsame (deliver_enlarged call) fun _ => rfl
  | create row =>
    refine hsame ?_ fun _ => rfl
    simp only [InboxEvent.step]
    split
    · next ns' h =>
      obtain ⟨_, hstorable, h⟩ := bind_ok.mp h
      obtain rfl := pure_ok.mp h
      exact enlarged_storable (ensure_ok.mp hstorable) rfl rfl
    · exact .refl ns
  | markRead ctx now notificationId =>
    exact ⟨[], by rw [markRead_step hns, List.append_nil], .nil ns⟩
  | markAllRead ctx now =>
    exact ⟨[], by rw [List.append_nil]; exact markAllRead_snd ctx now ns, .nil ns⟩

/-- **What an event does**: it turns the rows that are there, and what it sends comes in unread. -/
theorem inboxStep_eq (hns : (ns.map Notification.id).Nodup) (e : InboxEvent) :
    e.step wenv registry ns = (ns.map fun n => e.turn n) ++ e.sent wenv registry ns ∧
      Arrived ns (e.sent wenv registry ns) := by
  obtain ⟨new, hstep, hnew⟩ : ∃ new, e.step wenv registry ns = (ns.map fun n => e.turn n) ++ new ∧
      Arrived ns new := inboxStep_turns hns e
  have hsent : e.sent wenv registry ns = new := by
    have hlength : ns.length = (ns.map fun n => e.turn n).length := (List.length_map _).symm
    rw [InboxEvent.sent, hstep, hlength, List.drop_left]
  rw [hsent]
  exact ⟨hstep, hnew⟩

lemma inboxStep_nodup (hns : (ns.map Notification.id).Nodup) (e : InboxEvent) :
    ((e.step wenv registry ns).map Notification.id).Nodup := by
  obtain ⟨hstep, hsent⟩ := inboxStep_eq hns e
  have hids : (ns.map fun n => e.turn n).map Notification.id = ns.map Notification.id := by
    rw [List.map_map]
    exact List.map_congr_left fun n _ => turn_id e n
  have hfresh : Arrived (ns.map fun n => e.turn n) (e.sent wenv registry ns) := by
    refine ⟨hsent.unread, hsent.fresh.1, fun n hn r hr => ?_⟩
    obtain ⟨r₀, hr₀, rfl⟩ := List.mem_map.mp hr
    rw [turn_id]
    exact hsent.fresh.2 n hn r₀ hr₀
  rw [hstep]
  exact hfresh.nodup (hids ▸ hns)

end Steps

/-! ### Runs -/

section Runs

variable (wenv : WorkerEnv) (registry : ChannelRegistry)

/-- The run sends the notification, with the events still to come. -/
def SentBefore (events : List InboxEvent) (n : Notification) (after : List InboxEvent) : Prop :=
  ∃ before e, events = before ++ e :: after ∧
    n ∈ e.sent wenv registry (run (InboxEvent.step wenv registry) [] before)

/-- The user has the notification in the organization. -/
def HasFor (userId organizationId : Ulid) (n : Notification) : Prop :=
  n.userId = userId ∧ n.organizationId = organizationId

instance (userId organizationId : Ulid) (n : Notification) :
    Decidable (HasFor userId organizationId n) := inferInstanceAs (Decidable (_ ∧ _))

/-- What the user has been sent in the organization. -/
def received (userId organizationId : Ulid) (ns : List Notification) : ℕ :=
  ns.countP fun n => HasFor userId organizationId n

def unreadOf (userId organizationId : Ulid) (ns : List Notification) : ℕ :=
  ns.countP fun n => HasFor userId organizationId n ∧ n.isRead = false

/-- How many of them the event reads that were not read. -/
def readNow (userId organizationId : Ulid) (ns : List Notification) (e : InboxEvent) : ℕ :=
  ns.countP fun n => (HasFor userId organizationId n ∧ n.isRead = false) ∧ e.Reads n

variable {wenv registry} {events after : List InboxEvent} {ns : List Notification}
  {n : Notification} {userId organizationId : Ulid}

lemma inboxRun_nodup (wenv : WorkerEnv) (registry : ChannelRegistry) (events : List InboxEvent) :
    ((run (InboxEvent.step wenv registry) [] events).map Notification.id).Nodup := by
  have hempty : (([] : List Notification).map Notification.id).Nodup := List.nodup_nil
  exact invariant_all (I := fun ns : List Notification => (ns.map Notification.id).Nodup)
    (fun _ e h => inboxStep_nodup h e) hempty events

/-- After a run a notification is read if it was, or if an event read it. -/
lemma run_turn_isRead (after : List InboxEvent) (n : Notification) :
    (run InboxEvent.turn n after).isRead = true ↔ n.isRead = true ∨ ∃ e ∈ after, e.Reads n := by
  induction after generalizing n with
  | nil => simp
  | cons e after ih =>
    rw [run_cons, ih, turn_isRead, or_assoc]
    simp only [reads_turn, List.exists_mem_cons_iff]

/-- What an event reads is not unread any more, and nothing else changes. -/
lemma unreadOf_turn (userId organizationId : Ulid) (e : InboxEvent) (ns : List Notification) :
    unreadOf userId organizationId (ns.map fun n => e.turn n) +
      readNow userId organizationId ns e = unreadOf userId organizationId ns := by
  set unread := ns.filter fun n => HasFor userId organizationId n ∧ n.isRead = false with hunread
  have hleft : unreadOf userId organizationId (ns.map fun n => e.turn n) =
      unread.countP fun n => ¬ e.Reads n := by
    rw [unreadOf, List.countP_map, hunread, List.countP_filter]
    refine List.countP_congr fun n _ => ?_
    have hread := turn_isRead (e := e) (n := n)
    rw [← Bool.not_eq_false, ← Bool.not_eq_false] at hread
    simp only [Function.comp, decide_eq_true_eq, Bool.and_eq_true]
    simp only [HasFor, turn_userId, turn_organizationId]
    tauto
  have hnow : readNow userId organizationId ns e = unread.countP fun n => e.Reads n := by
    rw [readNow, hunread, List.countP_filter]
    refine List.countP_congr fun n _ => ?_
    simp only [decide_eq_true_eq, Bool.and_eq_true]
    exact and_comm
  have hall : unreadOf userId organizationId ns = unread.length :=
    List.countP_eq_length_filter
  have hsplit : unread.length = _ :=
    List.length_eq_countP_add_countP fun n => decide (InboxEvent.Reads n e)
  simp only [decide_eq_true_eq] at hsplit
  omega

lemma received_turn (userId organizationId : Ulid) (e : InboxEvent) (ns : List Notification) :
    received userId organizationId (ns.map fun n => e.turn n) =
      received userId organizationId ns := by
  rw [received, List.countP_map]
  refine List.countP_congr fun n _ => ?_
  simp only [Function.comp, decide_eq_true_eq]
  simp only [HasFor, turn_userId, turn_organizationId]

lemma Arrived.unreadOf_eq {new : List Notification} (h : Arrived ns new)
    (userId organizationId : Ulid) :
    unreadOf userId organizationId new = received userId organizationId new := by
  refine List.countP_congr fun n hn => ?_
  simp only [decide_eq_true_eq]
  exact and_iff_left (h.unread n hn).1

/-- So many of the notifications have been read by then. -/
structure Balanced (userId organizationId : Ulid) (k : ℕ) (ns : List Notification) : Prop where
  nodup : (ns.map Notification.id).Nodup
  count : unreadOf userId organizationId ns + k = received userId organizationId ns

/-- **The accounts of an inbox**: what was sent is unread, or was read by one event. -/
theorem inbox_accounts (wenv : WorkerEnv) (registry : ChannelRegistry) (events : List InboxEvent)
    (userId organizationId : Ulid) :
    let ns := run (InboxEvent.step wenv registry) [] events
    unreadOf userId organizationId ns +
        total (InboxEvent.step wenv registry) (readNow userId organizationId) [] events =
      received userId organizationId ns := by
  have hstep : ∀ (k : ℕ) (ns : List Notification) (e : InboxEvent), True →
      Balanced userId organizationId k ns →
      Balanced userId organizationId (k + readNow userId organizationId ns e)
        (e.step wenv registry ns) := by
    intro k ns e _ ⟨hns, hcount⟩
    obtain ⟨heq, hsent⟩ := inboxStep_eq hns e
    have hturn := unreadOf_turn userId organizationId e ns
    have hreceived := received_turn userId organizationId e ns
    have hnew := hsent.unreadOf_eq userId organizationId
    refine ⟨inboxStep_nodup hns e, ?_⟩
    rw [heq]
    simp only [unreadOf, received, List.countP_append] at hcount hturn hreceived hnew ⊢
    omega
  have hall : Along (InboxEvent.step wenv registry) (fun _ _ => True) [] events :=
    along_of_forall (fun _ _ => trivial) events []
  have hrun := (accounts hstep hall (n := 0) ⟨List.nodup_nil, rfl⟩).count
  rwa [Nat.zero_add] at hrun

/-- The rows of a run: each was sent by one event, and the later ones turned it. -/
lemma mem_inboxRun (wenv : WorkerEnv) (registry : ChannelRegistry) (events : List InboxEvent)
    (n : Notification) : n ∈ run (InboxEvent.step wenv registry) [] events ↔
      ∃ sent after, SentBefore wenv registry events sent after ∧
        run InboxEvent.turn sent after = n := by
  have hstep : ∀ (ns : List Notification) (e : InboxEvent), (ns.map Notification.id).Nodup →
      ∀ n, n ∈ e.step wenv registry ns ↔
        (∃ n₀, n₀ ∈ ns ∧ e.turn n₀ = n) ∨ n ∈ e.sent wenv registry ns := by
    intro ns e hns n
    rw [(inboxStep_eq hns e).1, List.mem_append, List.mem_map]
  have hempty : (([] : List Notification).map Notification.id).Nodup := List.nodup_nil
  rw [lineage (I := fun ns : List Notification => (ns.map Notification.id).Nodup)
    (M := fun (ns : List Notification) n => n ∈ ns)
    (C := fun ns e n => n ∈ e.sent wenv registry ns) (fun _ e h => inboxStep_nodup h e) hstep events
    hempty n]
  constructor
  · rintro (⟨_, hnone, _⟩ | ⟨before, e, after, sent, heq, hsent, hturned⟩)
    · exact absurd hnone List.not_mem_nil
    · exact ⟨sent, after, ⟨before, e, heq, hsent⟩, hturned⟩
  · rintro ⟨sent, after, ⟨before, e, heq, hsent⟩, hturned⟩
    exact .inr ⟨before, e, after, sent, heq, hsent, hturned⟩

lemma SentBefore.unread {sent : Notification} (h : SentBefore wenv registry events sent after) :
    sent.isRead = false := by
  obtain ⟨before, e, _, hsent⟩ := h
  exact ((inboxStep_eq (inboxRun_nodup wenv registry before) e).2.unread sent hsent).1

end Runs

/-! ### What users see -/

section Seen

variable {ctx : RequestContext} {n : Notification} {userId organizationId : Ulid}

lemma inInbox_iff (huser : ctx.userId = some userId)
    (horganization : ctx.organizationId = some organizationId) :
    InInbox ctx n ↔ HasFor userId organizationId n := by
  have hvisible : n.organizationId = organizationId → NotificationVisible ctx n := by
    rintro rfl
    simp [NotificationVisible, orgScopedPolicy, horganization, gucText]
  simp only [InInbox, OfUser, HasFor, huser, horganization, Option.some.injEq]
  tauto

lemma getUnreadCount_eq (huser : ctx.userId = some userId)
    (horganization : ctx.organizationId = some organizationId) (ns : List Notification) :
    Notifications.getUnreadCount ns ctx = unreadOf userId organizationId ns := by
  refine List.countP_congr fun n _ => ?_
  simp only [decide_eq_true_eq, inInbox_iff huser horganization]

lemma markAllRead_answer (huser : ctx.userId = some userId)
    (horganization : ctx.organizationId = some organizationId) (ns : List Notification)
    (now : Instant) : (Notifications.markAllRead ns ctx now).1 =
      readNow userId organizationId ns (.markAllRead ctx now) := by
  refine List.countP_congr fun n _ => ?_
  simp only [decide_eq_true_eq, InboxEvent.Reads, inInbox_iff huser horganization]
  tauto

lemma reads_user {e : InboxEvent} (h : e.Reads n) : e.user = some n.userId := by
  cases e with
  | deliver call | create row => exact h.elim
  | markRead ctx now notificationId => exact h.1.2.symm
  | markAllRead ctx now => exact h.1.2.symm

lemma readNow_other {e : InboxEvent} (h : e.user ≠ some userId) (ns : List Notification) :
    readNow userId organizationId ns e = 0 := by
  refine List.countP_eq_zero.mpr fun n _ hread => h ?_
  obtain ⟨⟨⟨rfl, _⟩, _⟩, hreads⟩ := of_decide_eq_true hread
  exact reads_user hreads

lemma listForUser_eq {pg : Paging} {createdAt : Ulid → Instant} {ns : List Notification}
    {isRead : Option Bool} {type cursor : Option String} {limit : ℕ}
    (hlimit : 1 ≤ limit ∧ limit ≤ maxPageSize) (htype : ∀ t ∈ type, bindable t = true) :
    listForUser pg createdAt ns ctx ⟨isRead, type, cursor, limit⟩ =
      paginateCursor pg (fun n => createdAt n.id) Notification.id
        (listedNotifications ns ctx isRead type) ⟨limit, cursor, hlimit⟩ := by
  have hensure : ensure (∀ t ∈ type, bindable t = true) internalError = .ok () := if_pos htype
  simp only [listForUser, Int.toNat_natCast, dif_pos hlimit, hensure, ok_bind]
  cases paginateCursor pg (fun n => createdAt n.id) Notification.id
    (listedNotifications ns ctx isRead type) ⟨limit, cursor, hlimit⟩ <;> rfl

end Seen

/-- **Inboxes over every order of deliveries and requests**: a notification was sent by one event,
and is read exactly when a later request of its user has read it. What a user was sent is unread, or
was read by a request of the user. The pages of a list show every row of it once, and those of the
unread ones as many as the count says. -/
theorem inboxes (wenv : WorkerEnv) (registry : ChannelRegistry) (events : List InboxEvent)
    (env : CursorEnv) [env.paging.Ordered] (createdAt : Ulid → Instant)
    (hyears : ∀ id, Instant.utcDate (createdAt id) ≤ Date.max) :
    let ns := run (InboxEvent.step wenv registry) [] events
    (∀ n, n ∈ ns ↔ ∃ sent after, SentBefore wenv registry events sent after ∧
      run InboxEvent.turn sent after = n ∧ (n.isRead = true ↔ ∃ e ∈ after, e.Reads sent)) ∧
    ∀ ctx userId organizationId, ctx.userId = some userId →
      ctx.organizationId = some organizationId →
      Notifications.getUnreadCount ns ctx +
          total (InboxEvent.step wenv registry) (readNow userId organizationId) [] events =
        received userId organizationId ns ∧
      (∀ e, e.user ≠ some userId → ∀ s, readNow userId organizationId s e = 0) ∧
      (∀ now, (Notifications.markAllRead ns ctx now).1 = Notifications.getUnreadCount ns ctx ∧
        Notifications.getUnreadCount (Notifications.markAllRead ns ctx now).2 ctx = 0) ∧
      (listedNotifications ns ctx (some false) none).length =
        Notifications.getUnreadCount ns ctx ∧
      ∀ isRead type limit, (∀ t ∈ type, bindable t = true) → 1 ≤ limit ∧ limit ≤ maxPageSize →
        ExactWhen (fun cursor =>
            listForUser env.paging createdAt ns ctx ⟨isRead, type, cursor, (limit : ℕ)⟩)
          (listedNotifications ns ctx isRead type) True := by
  intro ns
  have hns : (ns.map Notification.id).Nodup := inboxRun_nodup wenv registry events
  refine ⟨fun n => ?_, fun ctx userId organizationId huser horganization => ⟨?_, ?_, ?_, ?_, ?_⟩⟩
  · -- Each row was sent once, and is read if a later event read it.
    rw [mem_inboxRun]
    refine exists₂_congr fun sent after => and_congr_right fun hsent => ?_
    constructor
    · rintro rfl
      have hread := run_turn_isRead after sent
      rw [hsent.unread] at hread
      simpa using hread
    · exact fun h => h.1
  · -- What is unread, and what was read, add up to what was received.
    rw [getUnreadCount_eq huser horganization]
    exact inbox_accounts wenv registry events userId organizationId
  · exact fun e he s => readNow_other he s
  · intro now
    have hanswer := markAllRead_answer huser horganization ns now
    have hturn := unreadOf_turn userId organizationId (.markAllRead ctx now) ns
    have hcount := getUnreadCount_eq huser horganization ns
    refine ⟨rfl, ?_⟩
    rw [getUnreadCount_eq huser horganization, markAllRead_snd]
    change Notifications.getUnreadCount ns ctx = _ at hanswer
    omega
  · rw [listedNotifications, Notifications.getUnreadCount, List.countP_eq_length_filter]
    refine congrArg List.length (List.filter_congr fun n _ => ?_)
    simp
  · -- The pages walk over the listing.
    intro isRead type limit htype hlimit
    simp only [listForUser_eq hlimit htype]
    have hids : ∀ a ∈ listedNotifications ns ctx isRead type,
        ∀ b ∈ listedNotifications ns ctx isRead type, a.id = b.id → a = b :=
      fun a ha b hb => List.inj_on_of_nodup_map hns (List.mem_of_mem_filter ha)
        (List.mem_of_mem_filter hb)
    exact paginateCursor_exact hlimit hids ((List.Nodup.of_map _ hns).filter _)
      fun n _ => env.roundTrips (hyears n.id)

/-- A notification of the system. -/
def systemNote (id userId : Ulid) : Notification where
  id := id
  userId := userId
  schoolId := none
  organizationId := 101
  type := "SYSTEM"
  title := "Backup done"
  body := none
  relatedEntityType := none
  relatedEntityId := none
  isRead := false
  readAt := none

def recipientOf (userId : Ulid) : RequestContext := { staff with userId := some userId }

/-- Two users are notified. One asks for the notification of the other, who reads all and is
notified again. -/
def twoReaders : List InboxEvent :=
  [.create (systemNote 91 2), .create (systemNote 92 3), .markRead (recipientOf 3) 5 91,
    .markAllRead (recipientOf 2) 6, .create (systemNote 93 2)]

theorem inboxes_twoReaders :
    let ns := run (InboxEvent.step .plain defaultRegistry) [] twoReaders
    received 2 101 ns = 2 ∧ Notifications.getUnreadCount ns (recipientOf 2) +
        total (InboxEvent.step .plain defaultRegistry) (readNow 2 101) [] twoReaders = 2 ∧
      (listedNotifications ns (recipientOf 2) (some false) none).length = 1 := by
  have hyear : Instant.utcDate 0 ≤ Date.max := by decide
  obtain ⟨haccounts, -, -, hlisted, -⟩ :=
    (inboxes .plain defaultRegistry twoReaders CursorEnv.plain (fun _ => 0) fun _ => hyear).2
      (recipientOf 2) 2 101 rfl rfl
  have htwo : received 2 101
      (run (InboxEvent.step .plain defaultRegistry) [] twoReaders) = 2 := by decide +kernel
  have hone : Notifications.getUnreadCount
      (run (InboxEvent.step .plain defaultRegistry) [] twoReaders) (recipientOf 2) = 1 := by
    decide +kernel
  exact ⟨htwo, haccounts.trans htwo, hlisted.trans hone⟩

end SchoolOs
