import SchoolOs.Pagination
import SchoolOs.Runs
import SchoolOs.Timetables

/-!
Documents: a row is written when an upload is requested, confirmed when the object in the storage
was looked at, and served by a link to the object. What is served over whole runs.
-/

namespace SchoolOs

open Runs

inductive DocumentStatus
  | pendingUpload | confirmed | deleted
  deriving DecidableEq

def DocumentStatus.value : DocumentStatus → String
  | .pendingUpload => "PENDING_UPLOAD"
  | .confirmed => "CONFIRMED"
  | .deleted => "DELETED"

def documentEntityTypes : List String := ["STUDENT", "TEACHER", "PARENT", "SCHOOL"]

def documentTypes : List String :=
  ["PHOTO", "ID_PROOF", "BIRTH_CERTIFICATE", "CERTIFICATE", "TRANSCRIPT", "REPORT_CARD", "OTHER"]

/-- A document attached to a school-scoped entity. -/
structure Document where
  id : Ulid
  schoolId : Ulid
  organizationId : Ulid
  entityType : String
  entityId : String
  documentType : String
  originalFilename : String
  /-- Not nullable; unset in the mapper until it is assigned. -/
  storageKey : Option String
  mimeType : Option String
  fileSize : Option ℤ
  status : DocumentStatus
  createdAt : Instant
  deletedAt : Option Instant
  createdById : Option Ulid
  updatedById : Option Ulid
  deriving DecidableEq

structure DocumentDB extends SchoolDB where
  documents : Table Document.id
  deriving DecidableEq

def DocumentDB.audit (db : DocumentDB) (env : SchoolEnv) (ctx : RequestContext)
    (entry : AuditEntry) : Fallible DocumentDB := do
  ensure (env.Admits (auditRow ctx entry)) internalError
  return { db with toSchoolDB := db.toSchoolDB.log (auditRow ctx entry) }

lemma documentAudit_ok {env : SchoolEnv} {ctx : RequestContext} {entry : AuditEntry}
    {db db' : DocumentDB} : db.audit env ctx entry = .ok db' ↔
      env.Admits (auditRow ctx entry) ∧
        { db with toSchoolDB := db.toSchoolDB.log (auditRow ctx entry) } = db' := by
  simp [DocumentDB.audit, map_ok]

/-- A deployment of the document service: its settings, the types it reads off contents and names,
and the links the storage signs. -/
structure DocumentEnv extends SchoolEnv where
  maxUploadSizeBytes : ℤ
  allowedMimeTypes : List String
  /-- `magic.from_buffer`; nothing where it is not installed, or raises. -/
  magic : List UInt8 → Option String
  /-- `mimetypes.guess_type`. -/
  guessType : String → Option String
  uploadUrl : String → String → String
  /-- The link to a key, with the disposition of its response. -/
  downloadUrl : String → String → String

/-! ### Storage -/

/-- How the storage answers `HEAD`. -/
inductive HeadReply
  | timeout
  | raised
  | answered (contentLength : Option ℤ) (contentType etag : Option String)
  deriving DecidableEq

/-- How the storage answers `GET`. -/
inductive GetReply
  | timeout
  | raised
  | answered (body : List UInt8)
  deriving DecidableEq

structure ObjectInfo where
  sizeBytes : ℤ
  contentType : Option String
  etag : Option String

def storageTimeout : ApiError :=
  ⟨504, "TIMEOUT", "Storage verification timed out. Please retry.", []⟩

/-- A missing object raises like any other error of the client, so that there is always an info. -/
def headObjectInfo : HeadReply → Fallible (Option ObjectInfo)
  | .timeout => .error storageTimeout
  | .raised => .error internalError
  | .answered contentLength contentType etag =>
    return some ⟨contentLength.getD 0, contentType, etag⟩

def sampleBytes : ℕ := 2097152

/-- The sample of the confirmation: empty when it cannot be read. -/
def getObjectBytes : GetReply → Fallible (List UInt8)
  | .timeout => .error storageTimeout
  | .raised => return []
  | .answered body => return body.take sampleBytes

/-- Sniff the type from the content, or else guess it from the extension. -/
def detectMime (env : DocumentEnv) (sample : List UInt8) (filename : String) : Option String :=
  match (env.magic sample).filter (· ≠ "") with
  | some sniffed => some sniffed
  | none => if filename = "" then none else env.guessType filename

/-! ### Data access -/

def getDocument (db : DocumentDB) (schoolId documentId : Ulid) (organizationId : Option Ulid) :
    Option Document :=
  (db.documents.get documentId).filter fun d =>
    d.schoolId = schoolId ∧ d.deletedAt = none ∧ ∀ o ∈ organizationId, d.organizationId = o

structure DocumentListParams where
  entityType : Option String
  entityId : Option String
  documentType : Option String
  params : CursorParams

def listDocuments (pg : Paging) (db : DocumentDB) (schoolId : Ulid) (organizationId : Option Ulid)
    (params : DocumentListParams) : Fallible (CursorPage Document) :=
  paginateCursor pg Document.createdAt Document.id
    (db.documents.rows.filter fun d => d.schoolId = schoolId ∧ d.status = .confirmed ∧
      d.deletedAt = none ∧ (∀ o ∈ organizationId, d.organizationId = o) ∧
      (∀ t ∈ params.entityType, d.entityType = t) ∧ (∀ e ∈ params.entityId, d.entityId = e) ∧
      ∀ t ∈ params.documentType, d.documentType = t) params.params

lemma listDocuments_confirmed {pg : Paging} {db : DocumentDB} {schoolId : Ulid}
    {organizationId : Option Ulid} {params : DocumentListParams} {page : CursorPage Document}
    (h : listDocuments pg db schoolId organizationId params = .ok page) {d : Document}
    (hd : d ∈ page.items) : d.status = .confirmed := by
  have hmem := mem_of_mem_page h hd
  simp only [List.mem_filter, decide_eq_true_eq] at hmem
  exact hmem.2.2.1

/-! ### Services -/

namespace Documents

section Service

variable (env : DocumentEnv) (ctx : RequestContext) (db : DocumentDB)

structure DocumentUploadRequest where
  entityType : String
  entityId : String
  documentType : String
  originalFilename : String
  mimeType : String
  fileSize : ℤ
  filename_length : 1 ≤ originalFilename.length ∧ originalFilename.length ≤ 255
  size_pos : 0 < fileSize

def notFound : ApiError := notFoundError "The document was not found." "DOCUMENT_NOT_FOUND"

def fileTooLargeError (subject : String) (actual : ℤ) : ApiError :=
  ⟨413, "PAYLOAD_TOO_LARGE", subject ++ " is too large (" ++ toString actual ++ " bytes). " ++
    "Maximum allowed is " ++ toString env.maxUploadSizeBytes ++ " bytes.",
    [("max_bytes", .num env.maxUploadSizeBytes), ("actual_bytes", .num actual)]⟩

def documentSnapshot (d : Document) : Snapshot :=
  [("original_filename", .text d.originalFilename), ("document_type", .text d.documentType),
    ("entity_type", .text d.entityType), ("entity_id", .text d.entityId),
    ("status", .text d.status.value)]

/-- The row of a request, as it is flushed. -/
def requested (schoolId organizationId : Ulid) (payload : DocumentUploadRequest) (id : Ulid)
    (now : Instant) : Document where
  id := id
  schoolId := schoolId
  organizationId := organizationId
  entityType := payload.entityType
  entityId := payload.entityId
  documentType := payload.documentType
  originalFilename := payload.originalFilename
  storageKey := none
  mimeType := some payload.mimeType
  fileSize := some payload.fileSize
  status := .pendingUpload
  createdAt := now
  deletedAt := none
  createdById := ctx.userId
  updatedById := none

/-- The row satisfies the constraints of the table. -/
def Storable (d : Document) : Prop :=
  d.storageKey.isSome ∧ d.entityType ∈ documentEntityTypes ∧ d.documentType ∈ documentTypes ∧
    d.entityId.length = 26 ∧ bindable d.entityId = true ∧
    varchar 500 d.originalFilename = true ∧ varchar 1000 d.storageKey = true ∧
    varchar 100 d.mimeType = true

instance (d : Document) : Decidable (Storable d) :=
  inferInstanceAs (Decidable (_ ∧ _ ∧ _ ∧ _ ∧ _ ∧ _ ∧ _ ∧ _))

/-- `create` of the repository, which flushes. -/
def insertDocument (d : Document) : Fallible DocumentDB := do
  let documents ← found (db.documents.insert d) internalError
  ensure (Storable d) internalError
  return { db with documents := documents }

structure DocumentUploadResponse where
  id : Ulid
  uploadUrl : String
  storageKey : String

def storageKeyOf (d : Document) : String :=
  d.organizationId.text ++ "/" ++ d.schoolId.text ++ "/" ++ d.entityType ++ "/" ++ d.entityId ++
    "/" ++ d.id.text ++ "/" ++ d.originalFilename

def requestUpload (payload : DocumentUploadRequest) (id : Ulid) (now : Instant) :
    Fallible (DocumentUploadResponse × DocumentDB) := do
  let schoolId ← found ctx.schoolId noSchool
  ensure (payload.fileSize ≤ env.maxUploadSizeBytes)
    (fileTooLargeError env "File" payload.fileSize)
  ensure (payload.mimeType ∈ env.allowedMimeTypes)
    (invalidRequestError ("MIME type " ++ env.repr payload.mimeType ++ " is not allowed."))
  let organizationId ← found ctx.organizationId internalError
  let doc := requested ctx schoolId organizationId payload id now
  let db ← insertDocument db doc
  let storageKey := storageKeyOf doc
  let doc := { doc with storageKey := some storageKey }
  ensure (varchar 1000 storageKey = true) internalError
  let db := { db with documents := db.documents.put doc }
  let db ← db.audit env.toSchoolEnv ctx
    { action := "DOCUMENT_UPLOAD_REQUESTED", entityType := "document", entityId := some doc.id,
      summary := some ("Upload requested for " ++ env.repr payload.originalFilename),
      after := some (documentSnapshot doc) }
  return (⟨doc.id, env.uploadUrl storageKey payload.mimeType, storageKey⟩, db)

/-- The types that may stand for a declared one. -/
def permitted (declared : String) : List String :=
  if declared = "image/jpeg" then ["image/jpeg", "image/jpg"]
  else if declared = "text/csv" then ["text/csv", "text/plain", "application/csv"]
  else if declared = "text/plain" then ["text/plain", "text/csv"]
  else [declared]

/-- What a confirmation sees of the object. -/
structure Inspection where
  size : ℤ
  sniffed : Option String
  deriving DecidableEq

/-- What is sniffed must be allowed, and compatible with what was declared. -/
def checkContent (declared : Option String) : Option String → Fallible Unit
  | none => return ()
  | some sniffed => do
    ensure (sniffed ∈ env.allowedMimeTypes) (invalidRequestError
      ("File content type " ++ env.repr sniffed ++ " does not match an allowed type. " ++
        "The file may be misnamed or disallowed."))
    match declared.filter (· ≠ "") with
    | none => return ()
    | some declared =>
      ensure (sniffed = declared ∨ sniffed ∈ permitted declared) (invalidRequestError
        ("File content (" ++ env.repr sniffed ++ ") does not match declared type " ++
          env.repr declared ++ "."))

/-- The type read off a sample. An empty sample is not looked at. -/
def sniff (sample : List UInt8) (filename : String) : Option String :=
  if sample = [] then none else (detectMime env sample filename).filter (· ≠ "")

/-- The checks of the object before a document is confirmed. -/
def inspect (doc : Document) (head : HeadReply) (get : GetReply) : Fallible Inspection := do
  let info ← headObjectInfo head
  let info ← found info
    (invalidRequestError "The file has not been uploaded to storage yet.")
  ensure (info.sizeBytes ≤ env.maxUploadSizeBytes)
    (fileTooLargeError env "Uploaded file" info.sizeBytes)
  let sample ← getObjectBytes get
  let sniffed := sniff env sample doc.originalFilename
  checkContent env doc.mimeType sniffed
  return ⟨info.sizeBytes, sniffed⟩

/-- The row of a confirmed document, with the size that was seen. -/
def confirmed (doc : Document) (seen : Inspection) : Document :=
  { doc with status := .confirmed, fileSize := some seen.size, updatedById := ctx.userId }

def confirmUpload (documentId : Ulid) (head : HeadReply) (get : GetReply) :
    Fallible ((Document × Inspection) × DocumentDB) := do
  let schoolId ← found ctx.schoolId noSchool
  let doc ← found (getDocument db schoolId documentId ctx.organizationId) notFound
  ensure (doc.status = .pendingUpload) (invalidRequestError "Document is not pending upload.")
  let seen ← inspect env doc head get
  let new := confirmed ctx doc seen
  let db := { db with documents := db.documents.put new }
  let db ← db.audit env.toSchoolEnv ctx
    { action := "DOCUMENT_CONFIRMED", entityType := "document", entityId := some doc.id,
      summary := some ("Document " ++ env.repr doc.originalFilename ++ " confirmed"),
      before := some (documentSnapshot doc), after := some (documentSnapshot new) }
  return ((new, seen), db)

structure DocumentDownloadResponse where
  downloadUrl : String
  filename : String
  deriving DecidableEq

def generateDownloadUrl (key filename : String) : String :=
  env.downloadUrl key ("attachment; filename=\"" ++ filename ++ "\"")

def downloadedEntry (doc : Document) : AuditEntry :=
  { action := "DOCUMENT_DOWNLOADED", entityType := "document", entityId := some doc.id,
    summary := some ("Download URL generated for " ++ env.repr doc.originalFilename) }

/-- The service function. It returns the link before the audit row is written. The status of the
document is not looked at. -/
def getDownloadUrl (documentId : Ulid) :
    Fallible (Returned DocumentDB DocumentDownloadResponse) := do
  let schoolId ← found ctx.schoolId noSchool
  let doc ← found (getDocument db schoolId documentId ctx.organizationId) notFound
  let key ← found doc.storageKey internalError
  let url := generateDownloadUrl env key doc.originalFilename
  return ⟨⟨url, doc.originalFilename⟩, db, some (downloadedEntry env doc)⟩

def deleteDocument (documentId : Ulid) (now : Instant) : Fallible DocumentDB := do
  let schoolId ← found ctx.schoolId noSchool
  let doc ← found (getDocument db schoolId documentId ctx.organizationId) notFound
  let new := { doc with status := .deleted, deletedAt := some now, updatedById := ctx.userId }
  let db := { db with documents := db.documents.put new }
  db.audit env.toSchoolEnv ctx
    { action := "DOCUMENT_DELETED", entityType := "document", entityId := some doc.id,
      summary := some ("Document " ++ env.repr doc.originalFilename ++ " deleted"),
      before := some (documentSnapshot doc) }

end Service

end Documents

end SchoolOs
