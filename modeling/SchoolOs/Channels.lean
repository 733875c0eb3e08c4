import SchoolOs.Models

/-!
Notification channels: the in-app channel writes rows of `notifications`, the others are stubs.
A message whose row is there already is skipped.
-/

namespace SchoolOs

/-- The settings of the worker, and what it takes from Python and from the database driver. -/
structure WorkerEnv where
  outboxMaxAttempts : ℕ
  outboxBatchSize : ℕ
  workerId : String
  /-- `str.upper`. -/
  upper : String → String
  /-- `repr` of a string. -/
  repr : String → String
  /-- The text of the `StatementError` for an id of the wrong length. -/
  bindError : String → String

/-- What makes a call fail: a Python exception, whose type and text are kept, or an error of a
statement, after which the transaction takes no more statements. -/
inductive Failure
  | exception (text : String)
  | database
  deriving DecidableEq

/-! ### Notifications -/

structure Notification where
  id : Ulid
  userId : Ulid
  schoolId : Option Ulid
  organizationId : Ulid
  type : String
  title : String
  body : Option String
  relatedEntityType : Option String
  relatedEntityId : Option String
  isRead : Bool
  readAt : Option Instant
  deriving DecidableEq

/-- The columns the in-app channel looks a notification up by. -/
structure NotificationKey where
  userId : Ulid
  organizationId : Ulid
  type : String
  relatedEntityType : Option String
  relatedEntityId : Option String
  deriving DecidableEq

def Notification.key (n : Notification) : NotificationKey :=
  ⟨n.userId, n.organizationId, n.type, n.relatedEntityType, n.relatedEntityId⟩

/-- The check constraint on `notifications.type`. -/
def notificationTypes : List String := ["ANNOUNCEMENT", "ATTENDANCE", "ENROLLMENT", "SYSTEM"]

/-- The table takes the row: a fresh id, a known type, texts that fit. -/
def NotificationStorable (ns : List Notification) (n : Notification) : Prop :=
  Tables.Inserts Notification.id [n] ns ∧ n.type ∈ notificationTypes ∧
    varchar 500 (some n.title) = true ∧ (∀ b ∈ n.body, bindable b = true) ∧
    varchar 100 n.relatedEntityType = true

instance (ns : List Notification) (n : Notification) : Decidable (NotificationStorable ns n) :=
  inferInstanceAs (Decidable (_ ∧ _ ∧ _ ∧ _ ∧ _))

def Notification.markRead (now : Instant) (n : Notification) : Notification :=
  { n with isRead := true, readAt := some now }

/-- `mark_read`, by the user. -/
def markRead (ns : List Notification) (now : Instant) (notificationId userId : Ulid) :
    List Notification :=
  Tables.setWhere (fun n => n.id = notificationId ∧ n.userId = userId)
    (Notification.markRead now) ns

/-- `mark_all_read`, for the user in the organization. -/
def markAllRead (ns : List Notification) (now : Instant) (userId organizationId : Ulid) :
    List Notification :=
  Tables.setWhere
    (fun n => n.userId = userId ∧ n.organizationId = organizationId ∧ n.isRead = false)
    (Notification.markRead now) ns

/-! ### Channels -/

/-- A single deliverable unit, fanned out to one user. -/
structure ChannelMessage where
  userId : Ulid
  organizationId : Ulid
  schoolId : Option Ulid
  type : String
  title : String
  body : Option String
  entityType : Option String
  /-- As the payload has it, turned into a string. -/
  entityId : Option String

section Send

variable (wenv : WorkerEnv)

/-- The parameters of the lookup. The column type of ids reads any letter case and raises on
another length. -/
def ChannelMessage.key? (m : ChannelMessage) : Option NotificationKey :=
  let entityId := m.entityId.map wenv.upper
  if ∀ e ∈ entityId, e.length = 26 then
    some ⟨m.userId, m.organizationId, m.type, m.entityType, entityId⟩
  else none

/-- The lookup goes through: its parameters can be bound. -/
def NotificationKey.Bindable (k : NotificationKey) : Prop :=
  bindable k.type = true ∧ (∀ e ∈ k.relatedEntityType, bindable e = true) ∧
    ∀ e ∈ k.relatedEntityId, bindable e = true

instance (k : NotificationKey) : Decidable k.Bindable := inferInstanceAs (Decidable (_ ∧ _ ∧ _))

/-- The row a message becomes, under the id drawn. -/
def ChannelMessage.row (m : ChannelMessage) (k : NotificationKey) (id : Ulid) : Notification where
  id := id
  userId := k.userId
  schoolId := m.schoolId
  organizationId := k.organizationId
  type := k.type
  title := m.title
  body := m.body
  relatedEntityType := k.relatedEntityType
  relatedEntityId := k.relatedEntityId
  isRead := false
  readAt := none

@[simp] lemma ChannelMessage.row_key (m : ChannelMessage) (k : NotificationKey) (id : Ulid) :
    (m.row k id).key = k := rfl

/-- `InAppChannel.send`: skip when the event already produced a row for the user. -/
def inAppSend (ns : List Notification) (m : ChannelMessage) (id : Ulid) :
    Except Failure (List Notification) :=
  match m.key? wenv with
  | none => .error (.exception (wenv.bindError (m.entityId.getD "")))
  | some k =>
    if ¬ k.Bindable then .error .database
    else if k ∈ ns.map Notification.key then .ok ns
    else if NotificationStorable ns (m.row k id) then .ok (ns ++ [m.row k id])
    else .error .database

/-- The providers. The stubs of the external channels only log. -/
inductive Channel
  | inApp | email | whatsApp
  deriving DecidableEq

def Channel.send (ns : List Notification) (m : ChannelMessage) (id : Ulid) :
    Channel → Except Failure (List Notification)
  | .inApp => inAppSend wenv ns m id
  | .email | .whatsApp => .ok ns

/-- The registered channels, in order; every message fans out to all of them. -/
abbrev ChannelRegistry := List Channel

def defaultRegistry : ChannelRegistry := [.inApp]

def broadcast (ns : List Notification) (m : ChannelMessage) (id : Ulid) :
    ChannelRegistry → Except Failure (List Notification)
  | [] => .ok ns
  | provider :: rest => do
    let ns ← provider.send wenv ns m id
    broadcast ns m id rest

end Send

/-! ### What a message leaves -/

/-- How many rows have the key. -/
def countKey (k : NotificationKey) (ns : List Notification) : ℕ := ns.countP (·.key = k)

lemma countKey_pos {k : NotificationKey} {ns : List Notification} :
    0 < countKey k ns ↔ k ∈ ns.map Notification.key := by
  simp [countKey, List.countP_pos_iff]

lemma countKey_append {k : NotificationKey} {ns : List Notification} {n : Notification} :
    countKey k (ns ++ [n]) = countKey k ns + if n.key = k then 1 else 0 := by
  simp [countKey, List.countP_append, List.countP_cons]

/-- Rows were added at most, and none for a key that had one. -/
structure Deduped (ns ns' : List Notification) : Prop where
  isPrefix : ns <+: ns'
  count : ∀ k, countKey k ns' ≤ max 1 (countKey k ns)

variable {wenv : WorkerEnv} {ns ns' : List Notification} {m : ChannelMessage} {id : Ulid}
  {k : NotificationKey}

lemma Deduped.refl (ns : List Notification) : Deduped ns ns where
  isPrefix := List.prefix_refl ns
  count := fun _ => le_max_right _ _

lemma Deduped.trans {ns'' : List Notification} (h : Deduped ns ns') (h' : Deduped ns' ns'') :
    Deduped ns ns'' where
  isPrefix := h.isPrefix.trans h'.isPrefix
  count := by
    intro k
    have h1 := h.count k
    have h2 := h'.count k
    omega

lemma Deduped.le_count (h : Deduped ns ns') (k : NotificationKey) :
    countKey k ns ≤ countKey k ns' :=
  h.isPrefix.sublist.countP_le

lemma Deduped.count_eq (h : Deduped ns ns') (hk : k ∈ ns.map Notification.key) :
    countKey k ns' = countKey k ns := by
  have h1 := h.count k
  have h2 := h.le_count k
  have h3 := countKey_pos.mpr hk
  omega

lemma Deduped.mem (h : Deduped ns ns') (hk : k ∈ ns.map Notification.key) :
    k ∈ ns'.map Notification.key := by
  have h1 := h.le_count k
  have h2 := countKey_pos.mpr hk
  exact countKey_pos.mp (by omega)

/-- A message that goes through leaves the row of its key, and adds it only when there is none. -/
theorem inAppSend_ok (h : inAppSend wenv ns m id = .ok ns') :
    ∃ k, m.key? wenv = some k ∧ k.Bindable ∧ Deduped ns ns' ∧ k ∈ ns'.map Notification.key := by
  unfold inAppSend at h
  split at h
  · cases h
  next k hk =>
  split at h
  · cases h
  next hb =>
  have hb : k.Bindable := not_not.mp hb
  split at h
  · next hin =>
    obtain rfl := Except.ok.inj h
    exact ⟨k, hk, hb, .refl ns, hin⟩
  next hout =>
  split at h
  · obtain rfl := Except.ok.inj h
    have hzero : countKey k ns = 0 := by
      by_contra hne
      exact hout (countKey_pos.mp (Nat.pos_of_ne_zero hne))
    refine ⟨k, hk, hb, ⟨List.prefix_append _ _, fun k' => ?_⟩, by simp⟩
    rw [countKey_append, ChannelMessage.row_key]
    split
    · next he =>
      subst he
      omega
    · omega
  · cases h

lemma inAppSend_of_mem (hk : m.key? wenv = some k) (hb : k.Bindable)
    (hin : k ∈ ns.map Notification.key) : inAppSend wenv ns m id = .ok ns := by
  simp only [inAppSend, hk, hb, not_true_eq_false, if_false, if_pos hin]

lemma channelSend_ok {c : Channel} (h : c.send wenv ns m id = .ok ns') :
    Deduped ns ns' ∧ (c = .inApp →
      ∃ k, m.key? wenv = some k ∧ k.Bindable ∧ k ∈ ns'.map Notification.key) := by
  cases c with
  | inApp =>
    obtain ⟨k, hk, hb, hd, hin⟩ := inAppSend_ok h
    exact ⟨hd, fun _ => ⟨k, hk, hb, hin⟩⟩
  | email | whatsApp =>
    obtain rfl := Except.ok.inj h
    exact ⟨.refl ns, nofun⟩

/-- **One message**: it adds no second row for a key, and leaves one for its own. -/
theorem broadcast_ok {registry : ChannelRegistry} (h : broadcast wenv ns m id registry = .ok ns') :
    Deduped ns ns' ∧ (.inApp ∈ registry →
      ∃ k, m.key? wenv = some k ∧ k.Bindable ∧ k ∈ ns'.map Notification.key) := by
  induction registry generalizing ns with
  | nil =>
    obtain rfl := Except.ok.inj h
    exact ⟨.refl ns, nofun⟩
  | cons c rest ih =>
    obtain ⟨ns1, hc, hrest⟩ := bind_ok.mp h
    obtain ⟨hd, hin⟩ := channelSend_ok hc
    obtain ⟨hd', hin'⟩ := ih hrest
    refine ⟨hd.trans hd', fun hmem => ?_⟩
    rcases List.mem_cons.mp hmem with he | hmem
    · obtain ⟨k, hk, hb, hks⟩ := hin he.symm
      exact ⟨k, hk, hb, hd'.mem hks⟩
    · exact hin' hmem

lemma broadcast_of_mem {registry : ChannelRegistry} (hk : m.key? wenv = some k) (hb : k.Bindable)
    (hin : k ∈ ns.map Notification.key) : broadcast wenv ns m id registry = .ok ns := by
  induction registry with
  | nil => rfl
  | cons c rest ih =>
    have hc : c.send wenv ns m id = .ok ns := by
      cases c with
      | inApp => exact inAppSend_of_mem hk hb hin
      | email | whatsApp => rfl
    simp only [broadcast, hc, ok_bind, ih]

/-! ### What a handler broadcasts -/

/-- The call of a handler: the messages it broadcasts, each with the id drawn for its row, and
how it ends. -/
structure HandlerCall where
  sends : List (ChannelMessage × Ulid)
  raises : Option Failure

/-- The loop over the recipients, up to the first message that fails. -/
def broadcastAll (wenv : WorkerEnv) (registry : ChannelRegistry) (ns : List Notification) :
    List (ChannelMessage × Ulid) → List Notification × Option Failure
  | [] => (ns, none)
  | (m, id) :: rest =>
    match broadcast wenv ns m id registry with
    | .error e => (ns, some e)
    | .ok ns' => broadcastAll wenv registry ns' rest

/-- What the call leaves in the session, and whether it failed. -/
def HandlerCall.run (wenv : WorkerEnv) (registry : ChannelRegistry) (ns : List Notification)
    (call : HandlerCall) : List Notification × Option Failure :=
  match broadcastAll wenv registry ns call.sends with
  | (ns', some e) => (ns', some e)
  | (ns', none) => (ns', call.raises)

variable {registry : ChannelRegistry} {sends : List (ChannelMessage × Ulid)}
  {call : HandlerCall}

lemma broadcastAll_deduped (wenv : WorkerEnv) (registry : ChannelRegistry)
    (ns : List Notification) (sends : List (ChannelMessage × Ulid)) :
    Deduped ns (broadcastAll wenv registry ns sends).1 := by
  induction sends generalizing ns with
  | nil => exact .refl ns
  | cons s rest ih =>
    obtain ⟨m, id⟩ := s
    cases hb : broadcast wenv ns m id registry with
    | error e =>
      simp only [broadcastAll, hb]
      exact .refl ns
    | ok ns' =>
      simp only [broadcastAll, hb]
      exact (broadcast_ok hb).1.trans (ih ns')

lemma broadcastAll_complete (hin : .inApp ∈ registry)
    (h : (broadcastAll wenv registry ns sends).2 = none) :
    ∀ s ∈ sends, ∃ k, s.1.key? wenv = some k ∧ k.Bindable ∧
      k ∈ (broadcastAll wenv registry ns sends).1.map Notification.key := by
  induction sends generalizing ns with
  | nil => exact fun s hs => absurd hs List.not_mem_nil
  | cons s rest ih =>
    obtain ⟨m, id⟩ := s
    cases hb : broadcast wenv ns m id registry with
    | error e =>
      simp only [broadcastAll, hb] at h
      cases h
    | ok ns' =>
      simp only [broadcastAll, hb] at h ⊢
      intro s hs
      rcases List.mem_cons.mp hs with rfl | hs
      · obtain ⟨k, hk, hkb, hmem⟩ := (broadcast_ok hb).2 hin
        exact ⟨k, hk, hkb, (broadcastAll_deduped wenv registry ns' rest).mem hmem⟩
      · exact ih h s hs

lemma broadcastAll_of_mem (h : ∀ s ∈ sends, ∃ k, s.1.key? wenv = some k ∧ k.Bindable ∧
    k ∈ ns.map Notification.key) : broadcastAll wenv registry ns sends = (ns, none) := by
  induction sends with
  | nil => rfl
  | cons s rest ih =>
    obtain ⟨m, id⟩ := s
    obtain ⟨k, hk, hkb, hmem⟩ := h (m, id) List.mem_cons_self
    have hb : broadcast wenv ns m id registry = .ok ns := broadcast_of_mem hk hkb hmem
    simp only [broadcastAll, hb]
    exact ih fun s hs => h s (List.mem_cons_of_mem _ hs)

lemma HandlerCall.run_fst : (call.run wenv registry ns).1 =
    (broadcastAll wenv registry ns call.sends).1 := by
  unfold HandlerCall.run
  split <;> simp_all

lemma HandlerCall.run_returns (h : (call.run wenv registry ns).2 = none) :
    (broadcastAll wenv registry ns call.sends).2 = none ∧ call.raises = none := by
  unfold HandlerCall.run at h
  split at h
  · cases h
  · next ns' he => exact ⟨by rw [he], h⟩

end SchoolOs
