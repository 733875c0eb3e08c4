import SchoolOs.Documents

/-!
What the links of the document service lead to, over whole runs of its operations. No operation
stores a document that waits for its upload, so that a link leads to what was verified before; where
such a document is stored, what is served depends on how carefully the operations are called.
-/

namespace SchoolOs.Documents

open Runs

inductive DocumentOp
  | requestUpload (ctx : RequestContext) (payload : DocumentUploadRequest) (id : Ulid)
    (now : Instant)
  | confirmUpload (ctx : RequestContext) (documentId : Ulid) (head : HeadReply) (get : GetReply)
  | getDownloadUrl (ctx : RequestContext) (documentId : Ulid)
  | deleteDocument (ctx : RequestContext) (documentId : Ulid) (now : Instant)

/-- A confirmation that went through: the declared type, and what was seen. -/
structure Confirmation where
  documentId : Ulid
  declared : Option String
  seen : Inspection
  deriving DecidableEq

/-- The documents, the confirmations so far, and what was served. -/
structure DocumentRoom where
  db : DocumentDB
  confirmations : List Confirmation
  served : List (Ulid × DocumentDownloadResponse)

def DocumentRoom.start (db : DocumentDB) : DocumentRoom := ⟨db, [], []⟩

variable (env : DocumentEnv)

/-- Each operation is a transaction of its own, and one that raises leaves nothing. A link is served
once the service function returns it, and its audit row is left to the commit. -/
def step (s : DocumentRoom) : DocumentOp → DocumentRoom
  | .requestUpload ctx payload id now =>
    match requestUpload env ctx s.db payload id now with
    | .ok (_, db) => { s with db := db }
    | .error _ => s
  | .confirmUpload ctx documentId head get =>
    match confirmUpload env ctx s.db documentId head get with
    | .ok ((doc, seen), db) =>
      { s with db := db, confirmations := s.confirmations ++ [⟨doc.id, doc.mimeType, seen⟩] }
    | .error _ => s
  | .getDownloadUrl ctx documentId =>
    match getDownloadUrl env ctx s.db documentId with
    | .ok r =>
      let db := match r.commit (·.audit env.toSchoolEnv ctx) with
        | .ok (_, db) => db
        | .error _ => s.db
      { s with db := db, served := s.served ++ [(documentId, r.answer)] }
    | .error _ => s
  | .deleteDocument ctx documentId now =>
    match deleteDocument env ctx s.db documentId now with
    | .ok db => { s with db := db }
    | .error _ => s

/-- The object was small enough, and its type was sniffed, allowed, and what was declared. -/
def Verified (c : Confirmation) : Prop :=
  c.seen.size ≤ env.maxUploadSizeBytes ∧ ∃ sniffed ∈ c.seen.sniffed,
    sniffed ∈ env.allowedMimeTypes ∧
      ∃ declared ∈ c.declared, sniffed = declared ∨ sniffed ∈ permitted declared

/-- Whatever is served was verified when it was confirmed. -/
def OnlyVerifiedServed (s : DocumentRoom) : Prop :=
  ∀ d ∈ s.served, ∃ c ∈ s.confirmations, c.documentId = d.1 ∧ Verified env c

/-! ### The operations -/

variable {env} {ctx : RequestContext} {db db' : DocumentDB} {doc : Document} {seen : Inspection}
  {schoolId documentId : Ulid} {organizationId : Option Ulid} {head : HeadReply} {get : GetReply}

lemma getDocument_mem (h : getDocument db schoolId documentId organizationId = some doc) :
    doc ∈ db.documents ∧ doc.id = documentId :=
  Table.get_eq_some.mp (Option.filter_eq_some_iff.mp h).1

/-- **No upload can be requested**: the row is flushed before its storage key is set, which the
table does not take. -/
theorem requestUpload_fails (env : DocumentEnv) (ctx : RequestContext) (db : DocumentDB)
    (payload : DocumentUploadRequest) (id : Ulid) (now : Instant)
    (r : DocumentUploadResponse × DocumentDB) :
    requestUpload env ctx db payload id now ≠ .ok r := by
  intro h
  obtain ⟨_, _, h⟩ := bind_ok.mp h
  obtain ⟨_, _, h⟩ := bind_ok.mp h
  obtain ⟨_, _, h⟩ := bind_ok.mp h
  obtain ⟨_, _, h⟩ := bind_ok.mp h
  obtain ⟨_, hinsert, _⟩ := bind_ok.mp h
  obtain ⟨_, _, hinsert⟩ := bind_ok.mp hinsert
  obtain ⟨_, hstorable, _⟩ := bind_ok.mp hinsert
  exact absurd (ensure_ok.mp hstorable).1 (by simp [requested])

lemma inspect_ok (h : inspect env doc head get = .ok seen) : ∃ contentLength contentType etag
    sample, head = .answered contentLength contentType etag ∧ getObjectBytes get = .ok sample ∧
      contentLength.getD 0 ≤ env.maxUploadSizeBytes ∧
      checkContent env doc.mimeType (sniff env sample doc.originalFilename) = .ok () ∧
      seen = ⟨contentLength.getD 0, sniff env sample doc.originalFilename⟩ := by
  obtain ⟨info, hhead, h⟩ := bind_ok.mp h
  cases head with
  | timeout => cases hhead
  | raised => cases hhead
  | answered contentLength contentType etag =>
    obtain rfl := pure_ok.mp hhead
    obtain ⟨_, hinfo, h⟩ := bind_ok.mp h
    obtain rfl := Option.some.inj (found_ok.mp hinfo)
    obtain ⟨_, hsize, h⟩ := bind_ok.mp h
    obtain ⟨sample, hget, h⟩ := bind_ok.mp h
    obtain ⟨_, hcheck, h⟩ := bind_ok.mp h
    exact ⟨contentLength, contentType, etag, sample, rfl, hget, ensure_ok.mp hsize, hcheck,
      (pure_ok.mp h).symm⟩

lemma checkContent_ok {declared : Option String} {sniffed : String}
    (h : checkContent env declared (some sniffed) = .ok ()) : sniffed ∈ env.allowedMimeTypes ∧
      ∀ d ∈ declared, d ≠ "" → sniffed = d ∨ sniffed ∈ permitted d := by
  obtain ⟨_, hallowed, h⟩ := bind_ok.mp h
  refine ⟨ensure_ok.mp hallowed, fun d hd hne => ?_⟩
  have hdeclared : declared.filter (· ≠ "") = some d := by
    rw [Option.mem_def.mp hd]
    simp [hne]
  simp only [hdeclared, ensure_ok] at h
  exact h

lemma confirmUpload_ok {new : Document}
    (h : confirmUpload env ctx db documentId head get = .ok ((new, seen), db')) :
    ∃ schoolId doc, ctx.schoolId = some schoolId ∧
      getDocument db schoolId documentId ctx.organizationId = some doc ∧
      doc.status = .pendingUpload ∧ inspect env doc head get = .ok seen ∧
      new = confirmed ctx doc seen ∧ db'.documents = db.documents.put new := by
  obtain ⟨schoolId, hschool, h⟩ := bind_ok.mp h
  obtain ⟨doc, hdoc, h⟩ := bind_ok.mp h
  obtain ⟨_, hpending, h⟩ := bind_ok.mp h
  obtain ⟨seen', hseen, h⟩ := bind_ok.mp h
  obtain ⟨_, haudit, h⟩ := bind_ok.mp h
  obtain ⟨_, rfl⟩ := documentAudit_ok.mp haudit
  cases pure_ok.mp h
  exact ⟨schoolId, doc, found_ok.mp hschool, found_ok.mp hdoc, ensure_ok.mp hpending, hseen, rfl,
    rfl⟩

lemma getDownloadUrl_ok {r : Returned DocumentDB DocumentDownloadResponse}
    (h : getDownloadUrl env ctx db documentId = .ok r) : ∃ schoolId doc,
      ctx.schoolId = some schoolId ∧
      getDocument db schoolId documentId ctx.organizationId = some doc ∧ r.db = db := by
  obtain ⟨schoolId, hschool, h⟩ := bind_ok.mp h
  obtain ⟨doc, hdoc, h⟩ := bind_ok.mp h
  obtain ⟨_, _, h⟩ := bind_ok.mp h
  obtain rfl := pure_ok.mp h
  exact ⟨schoolId, doc, found_ok.mp hschool, found_ok.mp hdoc, rfl⟩

lemma commit_documents {α : Type} {r : Returned DocumentDB α} {a : α}
    (h : r.commit (·.audit env.toSchoolEnv ctx) = .ok (a, db')) :
    db'.documents = r.db.documents := by
  unfold Returned.commit at h
  split at h
  · cases pure_ok.mp h
    rfl
  · obtain ⟨_, haudit, h⟩ := bind_ok.mp h
    obtain ⟨_, rfl⟩ := documentAudit_ok.mp haudit
    cases pure_ok.mp h
    rfl

lemma deleteDocument_ok {now : Instant}
    (h : deleteDocument env ctx db documentId now = .ok db') :
    ∃ new, new.status = .deleted ∧ new.deletedAt ≠ none ∧
      db'.documents = db.documents.put new := by
  obtain ⟨schoolId, _, h⟩ := bind_ok.mp h
  obtain ⟨doc, _, h⟩ := bind_ok.mp h
  obtain ⟨_, rfl⟩ := documentAudit_ok.mp h
  exact ⟨_, rfl, Option.some_ne_none now, rfl⟩

/-- What an operation makes of the documents and of what is served. -/
inductive DocumentMove (env : DocumentEnv) (s : DocumentRoom) : DocumentOp → DocumentRoom → Prop
  | idle (op : DocumentOp) : DocumentMove env s op s
  | confirm {ctx : RequestContext} {documentId schoolId : Ulid} {head : HeadReply} {get : GetReply}
      {doc : Document} {seen : Inspection} {db : DocumentDB} (school : ctx.schoolId = some schoolId)
      (found : getDocument s.db schoolId documentId ctx.organizationId = some doc)
      (pending : doc.status = .pendingUpload) (saw : inspect env doc head get = .ok seen)
      (put : db.documents = s.db.documents.put (confirmed ctx doc seen)) :
      DocumentMove env s (.confirmUpload ctx documentId head get)
        ⟨db, s.confirmations ++ [⟨doc.id, doc.mimeType, seen⟩], s.served⟩
  | serve {ctx : RequestContext} {documentId schoolId : Ulid} {doc : Document} {db : DocumentDB}
      (response : DocumentDownloadResponse) (school : ctx.schoolId = some schoolId)
      (found : getDocument s.db schoolId documentId ctx.organizationId = some doc)
      (kept : db.documents = s.db.documents) :
      DocumentMove env s (.getDownloadUrl ctx documentId)
        ⟨db, s.confirmations, s.served ++ [(documentId, response)]⟩
  | delete {ctx : RequestContext} {documentId : Ulid} {now : Instant} {new : Document}
      {db : DocumentDB} (deleted : new.status = .deleted) (gone : new.deletedAt ≠ none)
      (put : db.documents = s.db.documents.put new) :
      DocumentMove env s (.deleteDocument ctx documentId now) ⟨db, s.confirmations, s.served⟩

/-- **What an operation does.** A request for an upload does nothing. -/
lemma step_move (env : DocumentEnv) (s : DocumentRoom) (op : DocumentOp) :
    DocumentMove env s op (step env s op) := by
  cases op with
  | requestUpload ctx payload id now =>
    rw [step]
    split
    · next h => exact absurd h (requestUpload_fails env ctx s.db payload id now _)
    · exact .idle _
  | confirmUpload ctx documentId head get =>
    rw [step]
    split
    · next new seen db hok =>
      obtain ⟨schoolId, doc, hschool, hdoc, hpending, hseen, rfl, hput⟩ := confirmUpload_ok hok
      have hmove := DocumentMove.confirm hschool hdoc hpending hseen hput
      exact hmove
    · exact .idle _
  | getDownloadUrl ctx documentId =>
    rw [step]
    split
    · next r hok =>
      obtain ⟨schoolId, doc, hschool, hdoc, hdb⟩ := getDownloadUrl_ok hok
      refine .serve r.answer hschool hdoc ?_
      split
      · next hcommit => rw [commit_documents hcommit, hdb]
      · rfl
    · exact .idle _
  | deleteDocument ctx documentId now =>
    rw [step]
    split
    · next db hok =>
      obtain ⟨new, hdeleted, hgone, hput⟩ := deleteDocument_ok hok
      exact .delete hdeleted hgone hput
    · exact .idle _

/-! ### Runs -/

/-- A confirmation of the document verified it. -/
def Vouched (env : DocumentEnv) (confirmations : List Confirmation) (documentId : Ulid) : Prop :=
  ∃ c ∈ confirmations, c.documentId = documentId ∧ Verified env c

lemma Vouched.append {confirmations : List Confirmation} (h : Vouched env confirmations documentId)
    (later : List Confirmation) : Vouched env (confirmations ++ later) documentId :=
  let ⟨c, hc, hverified⟩ := h
  ⟨c, List.mem_append_left _ hc, hverified⟩

/-- The documents that can be found are vouched for, and so is what was served. -/
structure AllVouched (env : DocumentEnv) (s : DocumentRoom) : Prop where
  stored : ∀ d ∈ s.db.documents, d.deletedAt = none → Vouched env s.confirmations d.id
  served : OnlyVerifiedServed env s

lemma allVouched_start (h : db.documents = .empty _) : AllVouched env (.start db) where
  stored d hd := absurd (show d ∈ Table.empty Document.id from h ▸ hd) Table.not_mem_empty
  served _ hd := absurd hd List.not_mem_nil

lemma getDocument_live (h : getDocument db schoolId documentId organizationId = some doc) :
    doc.deletedAt = none := by
  have hlive := (Option.filter_eq_some_iff.mp h).2
  simp only [decide_eq_true_eq] at hlive
  exact hlive.2.1

lemma allVouched_step (s : DocumentRoom) (op : DocumentOp) (hs : AllVouched env s) :
    AllVouched env (step env s op) := by
  have hmove := step_move env s op
  generalize step env s op = s' at hmove ⊢
  cases hmove with
  | idle => exact hs
  | @confirm ctx _ _ _ _ doc seen db hschool hdoc _ _ hput =>
    refine ⟨fun d hd hlive => ?_, fun d hd => Vouched.append (hs.served d hd) _⟩
    rcases Table.mem_put.mp (hput ▸ hd) with ⟨hd, _⟩ | ⟨rfl, _⟩
    · exact (hs.stored d hd hlive).append _
    · exact (hs.stored doc (getDocument_mem hdoc).1 hlive).append _
  | serve response hschool hdoc hkept =>
    obtain ⟨hmem, hid⟩ := getDocument_mem hdoc
    refine ⟨fun d hd hlive => hs.stored d (hkept ▸ hd) hlive, fun d hd => ?_⟩
    rcases List.mem_append.mp hd with hd | hd
    · exact hs.served d hd
    · obtain rfl := List.mem_singleton.mp hd
      exact hid ▸ hs.stored _ hmem (getDocument_live hdoc)
  | delete hdeleted hgone hput =>
    refine ⟨fun d hd hlive => ?_, hs.served⟩
    rcases Table.mem_put.mp (hput ▸ hd) with ⟨hd, _⟩ | ⟨rfl, _⟩
    · exact hs.stored d hd hlive
    · exact absurd hlive hgone

/-- **Only verified content is served**, whatever the storage answers and whatever order the
operations come in: from a table without documents, and from every room in which what can be found
has been verified. -/
theorem served_onlyVerified (env : DocumentEnv) (ops : List DocumentOp) :
    (∀ db, db.documents = .empty _ → OnlyVerifiedServed env (run (step env) (.start db) ops)) ∧
      ∀ s, AllVouched env s → OnlyVerifiedServed env (run (step env) s ops) := by
  have hstep : ∀ (s : DocumentRoom) (op : DocumentOp), AllVouched env s →
      AllVouched env (step env s op) := fun s op hs => allVouched_step s op hs
  have hrun : ∀ s, AllVouched env s → OnlyVerifiedServed env (run (step env) s ops) :=
    fun s hs => (invariant_all hstep hs ops).served
  exact ⟨fun db hdb => hrun _ (allVouched_start hdb), hrun⟩

/-- A deployment that signs links by the key. -/
def uploadsEnv : DocumentEnv where
  toSchoolEnv := .plain
  maxUploadSizeBytes := 52428800
  allowedMimeTypes := ["application/pdf", "image/jpeg", "image/png", "text/csv", "text/plain"]
  magic sample := some (if [0x25, 0x50, 0x44, 0x46].isPrefixOf sample then "application/pdf"
    else "application/octet-stream")
  guessType _ := none
  uploadUrl key _ := "https://storage/" ++ key
  downloadUrl key _ := "https://storage/" ++ key

/-- A report card. -/
def reportCard (status : DocumentStatus) : Document where
  id := 95
  schoolId := 11
  organizationId := 101
  entityType := "STUDENT"
  entityId := (71 : Ulid).text
  documentType := "REPORT_CARD"
  originalFilename := "report.pdf"
  storageKey := some "report.pdf"
  mimeType := some "application/pdf"
  fileSize := some 1024
  status := status
  createdAt := 0
  deletedAt := none
  createdById := some 1
  updatedById := none

/-- A room with the report card, after it was confirmed as a PDF. -/
def confirmedRoom : DocumentRoom where
  db := ⟨smallSchool, .ofRows _ [reportCard .confirmed]⟩
  confirmations := [⟨95, some "application/pdf", ⟨900, some "application/pdf"⟩⟩]
  served := []

lemma confirmedRoom_vouched : AllVouched uploadsEnv confirmedRoom where
  stored := by
    intro d hd _
    have hall : ∀ d ∈ confirmedRoom.db.documents, d = reportCard .confirmed := by decide
    obtain rfl := hall d hd
    exact ⟨_, List.mem_singleton.mpr rfl, rfl, by decide, "application/pdf", rfl, by decide,
      "application/pdf", rfl, .inl rfl⟩
  served := nofun

/-- The upload of the report card of a student, and what follows it. -/
def uploadCard : List DocumentOp :=
  [.requestUpload staff ⟨"STUDENT", (71 : Ulid).text, "REPORT_CARD", "report.pdf",
      "application/pdf", 1024, by decide, by decide⟩ 95 0,
    .confirmUpload staff 95 (.answered (some 900) none none) (.answered [0x25, 0x50, 0x44, 0x46]),
    .getDownloadUrl staff 95]

/-- Where there is nothing nothing is served, and the confirmed report card is. -/
theorem served_onlyVerified_card :
    OnlyVerifiedServed uploadsEnv
        (run (step uploadsEnv) (.start ⟨smallSchool, .empty _⟩) uploadCard) ∧
      (run (step uploadsEnv) confirmedRoom uploadCard).served.length = 1 ∧
      OnlyVerifiedServed uploadsEnv (run (step uploadsEnv) confirmedRoom uploadCard) :=
  ⟨(served_onlyVerified uploadsEnv uploadCard).1 _ rfl, by decide +kernel,
    (served_onlyVerified uploadsEnv uploadCard).2 _ confirmedRoom_vouched⟩

/-! ### Documents that wait for their upload -/

/-- The storage has an object that is small enough. -/
def Fits (env : DocumentEnv) : HeadReply → Prop
  | .answered contentLength _ _ => contentLength.getD 0 ≤ env.maxUploadSizeBytes
  | _ => False

/-- The sample is read and its type can be told, against a type that was declared. -/
def Told (env : DocumentEnv) (doc : Document) : GetReply → Prop
  | .timeout => True
  | .raised => False
  | .answered body => truthy doc.mimeType = true ∧
    (sniff env (body.take sampleBytes) doc.originalFilename).isSome

/-- A link is asked for when the document is confirmed, and a confirmation does not have to skip
its check of the content. -/
def Careful (env : DocumentEnv) (s : DocumentRoom) : DocumentOp → Prop
  | .requestUpload .. => True
  | .confirmUpload ctx documentId head get => ∀ schoolId ∈ ctx.schoolId,
    ∀ doc ∈ getDocument s.db schoolId documentId ctx.organizationId,
      doc.status = .pendingUpload → Fits env head → Told env doc get
  | .getDownloadUrl ctx documentId => ∀ schoolId ∈ ctx.schoolId,
    ∀ doc ∈ getDocument s.db schoolId documentId ctx.organizationId, doc.status = .confirmed
  | .deleteDocument .. => True

lemma verified_of_inspect (h : inspect env doc head get = .ok seen)
    (htold : Fits env head → Told env doc get) : Verified env ⟨documentId, doc.mimeType, seen⟩ := by
  obtain ⟨_, _, _, sample, rfl, hget, hsize, hcheck, rfl⟩ := inspect_ok h
  have htold' := htold hsize
  cases get with
  | timeout => cases hget
  | raised => exact absurd htold' id
  | answered body =>
    obtain rfl := pure_ok.mp hget
    obtain ⟨hdeclared, hsniffed⟩ := htold'
    obtain ⟨sniffed, hsniff⟩ := Option.isSome_iff_exists.mp hsniffed
    rw [hsniff] at hcheck
    obtain ⟨hallowed, hsame⟩ := checkContent_ok hcheck
    cases hmime : doc.mimeType with
    | none => simp [hmime, truthy] at hdeclared
    | some declared =>
      have hne : declared ≠ "" := by simpa [hmime, truthy] using hdeclared
      exact ⟨hsize, sniffed, hsniff, hallowed, declared, rfl, hsame declared hmime hne⟩

/-- What holds all along a careful run: the confirmed documents were verified, and nothing else
was served. -/
structure Sound (env : DocumentEnv) (s : DocumentRoom) : Prop where
  confirmed : ∀ d ∈ s.db.documents, d.status = .confirmed → Vouched env s.confirmations d.id
  served : OnlyVerifiedServed env s

lemma sound_step (s : DocumentRoom) (op : DocumentOp) (hop : Careful env s op)
    (hs : Sound env s) : Sound env (step env s op) := by
  have hmove := step_move env s op
  generalize step env s op = s' at hmove ⊢
  cases hmove with
  | idle => exact hs
  | @confirm _ _ schoolId _ _ doc seen _ hschool hdoc hpending hseen hput =>
    refine ⟨fun d hd hstatus => ?_, fun d hd => Vouched.append (hs.served d hd) _⟩
    rcases Table.mem_put.mp (hput ▸ hd) with ⟨hd, _⟩ | ⟨rfl, _⟩
    · exact (hs.confirmed d hd hstatus).append _
    · exact ⟨_, List.mem_append_right _ (List.mem_singleton.mpr rfl), rfl,
        verified_of_inspect hseen (hop schoolId hschool doc hdoc hpending)⟩
  | @serve _ _ schoolId doc _ response hschool hdoc hkept =>
    obtain ⟨hmem, hid⟩ := getDocument_mem hdoc
    refine ⟨fun d hd hstatus => hs.confirmed d (hkept ▸ hd) hstatus, fun d hd => ?_⟩
    rcases List.mem_append.mp hd with hd | hd
    · exact hs.served d hd
    · obtain rfl := List.mem_singleton.mp hd
      exact hid ▸ hs.confirmed doc hmem (hop schoolId hschool doc hdoc)
  | delete hdeleted hgone hput =>
    refine ⟨fun d hd hstatus => ?_, hs.served⟩
    rcases Table.mem_put.mp (hput ▸ hd) with ⟨hd, _⟩ | ⟨rfl, _⟩
    · exact hs.confirmed d hd hstatus
    · exact absurd (hdeleted.symm.trans hstatus) nofun

/-- **A careful run** serves only verified content, from any table of documents none of which has
been confirmed yet. -/
theorem careful_onlyVerified (env : DocumentEnv) (db : DocumentDB)
    (hnone : ∀ d ∈ db.documents, d.status ≠ .confirmed) {ops : List DocumentOp}
    (h : Along (step env) (Careful env) (.start db) ops) :
    OnlyVerifiedServed env (run (step env) (.start db) ops) := by
  have hstart : Sound env (.start db) :=
    ⟨fun d hd hstatus => absurd hstatus (hnone d hd), fun d hd => absurd hd List.not_mem_nil⟩
  exact (invariant sound_step h hstart).served

/-- **A link to a pending upload is served like any other.** -/
theorem unconfirmed_served {s : DocumentRoom} {key : String}
    (hschool : ctx.schoolId = some schoolId)
    (hdoc : getDocument s.db schoolId documentId ctx.organizationId = some doc)
    (hkey : doc.storageKey = some key)
    (hnever : ∀ c ∈ s.confirmations, c.documentId ≠ documentId) :
    ¬ OnlyVerifiedServed env (step env s (.getDownloadUrl ctx documentId)) := by
  obtain ⟨r, hok⟩ : ∃ r, getDownloadUrl env ctx s.db documentId = .ok r := by
    rw [getDownloadUrl, hschool, found, ok_bind, hdoc, found, ok_bind, hkey, found, ok_bind]
    exact ⟨_, rfl⟩
  intro h
  rw [step, hok] at h
  obtain ⟨c, hc, hid, _⟩ := h _ (List.mem_append_right _ (List.mem_singleton.mpr rfl))
  exact hnever c hc hid

end SchoolOs.Documents
