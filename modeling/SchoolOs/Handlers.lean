import SchoolOs.Channels
import SchoolOs.Recipients

/-!
Outbox events and their handlers: what an event carries, and to whom each handler fans it out.
-/

namespace SchoolOs

/-! ### Events -/

/-- A value of a JSONB column. -/
inductive Json
  | null
  | bool (b : Bool)
  | num (n : ℤ)
  | str (s : String)
  | arr (items : List Json)
  | obj (fields : List (String × Json))

mutual

/-- Equality of values, constructor by constructor. -/
def Json.decEq : (a b : Json) → Decidable (a = b)
  | .null, b => match b with
    | .null => .isTrue rfl
    | .bool _ | .num _ | .str _ | .arr _ | .obj _ => .isFalse nofun
  | .bool x, b => match b with
    | .bool y => decidable_of_iff (x = y) (by simp)
    | .null | .num _ | .str _ | .arr _ | .obj _ => .isFalse nofun
  | .num x, b => match b with
    | .num y => decidable_of_iff (x = y) (by simp)
    | .null | .bool _ | .str _ | .arr _ | .obj _ => .isFalse nofun
  | .str x, b => match b with
    | .str y => decidable_of_iff (x = y) (by simp)
    | .null | .bool _ | .num _ | .arr _ | .obj _ => .isFalse nofun
  | .arr xs, b => match b with
    | .arr ys =>
      have := Json.decEqItems xs ys
      decidable_of_iff (xs = ys) (by simp)
    | .null | .bool _ | .num _ | .str _ | .obj _ => .isFalse nofun
  | .obj xs, b => match b with
    | .obj ys =>
      have := Json.decEqFields xs ys
      decidable_of_iff (xs = ys) (by simp)
    | .null | .bool _ | .num _ | .str _ | .arr _ => .isFalse nofun

def Json.decEqItems : (xs ys : List Json) → Decidable (xs = ys)
  | [], [] => .isTrue rfl
  | [], _ :: _ | _ :: _, [] => .isFalse nofun
  | x :: xs, y :: ys =>
    have := Json.decEq x y
    have := Json.decEqItems xs ys
    decidable_of_iff (x = y ∧ xs = ys) (by simp)

def Json.decEqFields : (xs ys : List (String × Json)) → Decidable (xs = ys)
  | [], [] => .isTrue rfl
  | [], _ :: _ | _ :: _, [] => .isFalse nofun
  | (k, x) :: xs, (l, y) :: ys =>
    have := Json.decEq x y
    have := Json.decEqFields xs ys
    decidable_of_iff ((k = l ∧ x = y) ∧ xs = ys) (by simp)

end

instance : DecidableEq Json := Json.decEq

/-- A JSON object. -/
abbrev Payload := List (String × Json)

inductive OutboxStatus
  | pending | processing | sent | failed
  deriving DecidableEq

structure OutboxEvent where
  id : Ulid
  eventName : String
  payload : Payload
  organizationId : Option Ulid
  schoolId : Option Ulid
  entityType : Option String
  entityId : Option Ulid
  status : OutboxStatus
  attempts : ℕ
  nextAttemptAt : Option Instant
  processedAt : Option Instant
  lastError : Option String
  lockedBy : Option String
  lockedAt : Option Instant
  createdAt : Instant
  deriving DecidableEq

/-- What `publish` is given, with the id and the time the row gets. -/
structure NewEvent where
  id : Ulid
  eventName : String
  payload : Payload
  organizationId : Option Ulid
  schoolId : Option Ulid
  entityType : Option String
  entityId : Option Ulid
  createdAt : Instant

/-- The row of a new event: it waits for its first attempt. -/
def NewEvent.row (e : NewEvent) : OutboxEvent where
  id := e.id
  eventName := e.eventName
  payload := e.payload
  organizationId := e.organizationId
  schoolId := e.schoolId
  entityType := e.entityType
  entityId := e.entityId
  status := .pending
  attempts := 0
  nextAttemptAt := none
  processedAt := none
  lastError := none
  lockedBy := none
  lockedAt := none
  createdAt := e.createdAt

@[simp] lemma NewEvent.row_id (e : NewEvent) : e.row.id = e.id := rfl

/-- What a handler learns about the event beside its payload. -/
structure Envelope where
  eventId : Ulid
  eventName : String
  organizationId : Option Ulid
  schoolId : Option Ulid
  entityType : Option String
  entityId : Option Ulid

def OutboxEvent.envelope (e : OutboxEvent) : Envelope :=
  ⟨e.id, e.eventName, e.organizationId, e.schoolId, e.entityType, e.entityId⟩

/-! ### The tables the handlers read -/

structure AttendanceRecord where
  schoolId : Ulid
  sessionId : Ulid
  studentId : Ulid
  deriving DecidableEq

inductive ParentStatus
  | active | inactive
  deriving DecidableEq

def ParentStatus.value : ParentStatus → String
  | .active => "ACTIVE"
  | .inactive => "INACTIVE"

/-- A parent of students of a school. -/
structure Parent where
  id : Ulid
  schoolId : Ulid
  organizationId : Ulid
  personId : Ulid
  occupation : Option String
  workplace : Option String
  status : ParentStatus
  deletedAt : Option Instant
  createdById : Option Ulid
  updatedById : Option Ulid
  version : ℕ
  deriving DecidableEq

structure StudentParent where
  schoolId : Ulid
  studentId : Ulid
  parentId : Ulid
  deriving DecidableEq

/-- What the handlers query, and do not change. -/
structure WorkerTables where
  access : DB
  attendanceRecords : List AttendanceRecord
  parents : List Parent
  studentParents : List StudentParent

/-! ### Python values -/

section Python

/-- `bool(value)`. -/
def Json.truthy : Json → Bool
  | .null => false
  | .bool b => b
  | .num n => n ≠ 0
  | .str s => s ≠ ""
  | .arr items => !items.isEmpty
  | .obj fields => !fields.isEmpty

/-- `str(value)`; the text of a list or an object is a parameter. -/
def Json.text (container : Json → String) : Json → String
  | .null => "None"
  | .bool true => "True"
  | .bool false => "False"
  | .num n => toString n
  | .str s => s
  | j => container j

/-- `payload.get(key)`. -/
def Payload.get (payload : Payload) (key : String) : Json := (payload.lookup key).getD .null

/-- `value or default`. -/
def Json.orElse (j : Json) (default : Json) : Json := if j.truthy then j else default

end Python

/-! ### The handlers -/

/-- The handlers take the tables, the payload, the envelope and the ids they draw. -/
abbrev Handler := WorkerTables → Payload → Envelope → (ℕ → Ulid) → HandlerCall

section Handlers

variable (wenv : WorkerEnv) (container : Json → String)

/-- A handler that broadcasts one message for each user. -/
def fanOutTo (message : Ulid → ChannelMessage) (userIds : List Ulid) (draw : ℕ → Ulid) :
    HandlerCall where
  sends := userIds.zipIdx.map fun p => (message p.1, draw p.2)
  raises := none

/-- A handler that stops before its first message. -/
def stopped (raises : Option Failure) : HandlerCall := ⟨[], raises⟩

/-- `payload.get("targets") or []`, each target an object. -/
def targetsOf (payload : Payload) : Except Failure (List Payload) :=
  let targets := (payload.get "targets").orElse (.arr [])
  match targets with
  | .arr items => items.mapM fun
    | .obj fields => .ok fields
    | _ => .error (.exception "AttributeError: object has no attribute 'get'")
  | .bool _ | .num _ => .error (.exception "TypeError: object is not iterable")
  | _ => .error (.exception "AttributeError: 'str' object has no attribute 'get'")

/-- The role codes a list of targets names. -/
def roleTargets (targets : List Payload) : Finset String :=
  ((targets.filter fun t =>
    wenv.upper ((Payload.get t "target_type").text container) = "ROLE" ∧
      (Payload.get t "target_id").truthy).map fun t =>
        wenv.upper ((Payload.get t "target_id").text container)).toFinset

/-- An id from the payload, as the lookup binds it. -/
def entityIdText (j : Json) : Option String :=
  match j with
  | .null => none
  | j => some (j.text container)

def announcementMessage (payload : Payload) (org school userId : Ulid) : ChannelMessage where
  userId := userId
  organizationId := org
  schoolId := some school
  type := "ANNOUNCEMENT"
  title := ((payload.get "title").orElse (.str "New announcement")).text container
  body := some ("Priority: " ++ ((payload.lookup "priority").getD (.str "NORMAL")).text container)
  entityType := some "announcement"
  entityId := entityIdText container (payload.get "announcement_id")

def handleAnnouncementPublished : Handler := fun tables payload envelope draw =>
  match envelope.organizationId, envelope.schoolId with
  | some org, some school =>
    match targetsOf payload with
    | .error e => stopped (some e)
    | .ok targets =>
      let codes := roleTargets wenv container targets
      let userIds := if codes.Nonempty then userIdsWithRoleCodes tables.access org school codes
        else activeUserIdsInSchool tables.access org school
      fanOutTo (announcementMessage container payload org school) userIds draw
  | _, _ => stopped none

/-- The students recorded in the session. -/
def recordedStudentIds (tables : WorkerTables) (sessionId : String) (schoolId : Ulid) :
    List Ulid :=
  ((tables.attendanceRecords.filter fun r =>
    r.sessionId.text = sessionId ∧ r.schoolId = schoolId).map AttendanceRecord.studentId).dedup

/-- The persons of the parents of the students. -/
def parentPersonIds (tables : WorkerTables) (studentIds : List Ulid) (schoolId : Ulid) :
    List Ulid :=
  ((tables.parents.filter fun p => p.deletedAt = none ∧ tables.studentParents.any fun sp =>
    sp.parentId = p.id ∧ sp.studentId ∈ studentIds ∧ sp.schoolId = schoolId).map
      Parent.personId).dedup

/-- The active accounts of the persons. -/
def userIdsOfPersons (db : DB) (personIds : List Ulid) : List Ulid :=
  (db.users.filter fun u => (u.personId.any (· ∈ personIds)) ∧ u.status = .active ∧
    u.deletedAt = none).map User.id

def attendanceMessage (payload : Payload) (sessionId : String) (org school userId : Ulid) :
    ChannelMessage where
  userId := userId
  organizationId := org
  schoolId := some school
  type := "ATTENDANCE"
  title :=
    let dateLabel := (payload.get "session_date").orElse (.str "")
    "Attendance submitted" ++
      if dateLabel.truthy then " for " ++ dateLabel.text container else ""
  body := some "Your child's attendance has been recorded."
  entityType := some "attendance_session"
  entityId := some sessionId

/-- Notify the parents of the students recorded in the session. -/
def handleAttendanceSubmitted : Handler := fun tables payload envelope draw =>
  let sessionId :=
    (payload.get "session_id").orElse ((envelope.entityId.map fun e => .str e.text).getD .null)
  match envelope.organizationId, envelope.schoolId with
  | some org, some school =>
    if sessionId.truthy then
      let text := sessionId.text container
      if (wenv.upper text).length = 26 then
        let studentIds := recordedStudentIds tables (wenv.upper text) school
        let personIds := parentPersonIds tables studentIds school
        fanOutTo (attendanceMessage container payload text org school)
          (userIdsOfPersons tables.access personIds) draw
      else stopped (some (.exception (wenv.bindError text)))
    else stopped none
  | _, _ => stopped none

/-- The handlers by event name. -/
def defaultHandlers : String → Option Handler
  | "ANNOUNCEMENT_PUBLISHED" => some (handleAnnouncementPublished wenv container)
  | "ATTENDANCE_SUBMITTED" => some (handleAttendanceSubmitted wenv container)
  | _ => none

end Handlers

end SchoolOs
