import SchoolOs.Reports

/-!
Export jobs over runs: which jobs there are, and what a download of one of them serves, when other
transactions change the tables that the reports read.
-/

namespace SchoolOs.Reports

open Runs

/-! ### Requests -/

/-- A request for an export, with what its generator raises, if it does. -/
structure ExportCall where
  ctx : RequestContext
  clk : Clock
  payload : ExportRequest
  id : Ulid
  raised : Option String

def ExportCall.handle (env : SchoolEnv) (db : ReportDB) (c : ExportCall) :
    Fallible ((ExportJob × Option ByteArray) × ReportDB) :=
  requestExport env c.clk c.ctx db c.payload c.id c.raised

/-- A request for an export, or other transactions that commit: they write any table but the
jobs. -/
inductive ReportEvent
  | request (c : ExportCall)
  | others (school : SchoolDB)

/-- A failed request leaves no trace. -/
def ReportEvent.step (env : SchoolEnv) (db : ReportDB) : ReportEvent → ReportDB
  | .request c =>
    match c.handle env db with
    | .ok (_, db') => db'
    | .error _ => db
  | .others school => { db with toSchoolDB := school }

/-- The request goes through with the job and the report. -/
def ReportEvent.Answers (env : SchoolEnv) (job : ExportJob) (content : Option ByteArray)
    (db : ReportDB) : ReportEvent → Prop
  | .request c => ∃ db', c.handle env db = .ok ((job, content), db')
  | .others _ => False

/-! ### What a request leaves -/

variable {env : SchoolEnv} {db db' : ReportDB} {job : ExportJob} {content : Option ByteArray}

/-- The job is what became of the generator: its rows are counted, or its failure is kept. -/
inductive Finished (school : SchoolDB) (c : ExportCall) (schoolId : Ulid) (job : ExportJob) :
    Option ByteArray → Prop
  | completed (raised : c.raised = none) (status : job.status = .completed)
      (rowCount : job.rowCount = some (generate school c.ctx schoolId job.reportType job.filters).2)
      (errorMessage : job.errorMessage = none) :
      Finished school c schoolId job
        (some (generate school c.ctx schoolId job.reportType job.filters).1)
  | failed {text : String} (raised : c.raised = some text) (status : job.status = .failed)
      (rowCount : job.rowCount = none)
      (errorMessage : job.errorMessage = some (String.ofList (text.toList.take 2000))) :
      Finished school c schoolId job none

/-- The row of a job as its request leaves it. -/
structure Recorded (school : SchoolDB) (c : ExportCall) (job : ExportJob)
    (content : Option ByteArray) : Prop where
  schoolId : c.ctx.schoolId = some job.schoolId
  organizationId : c.ctx.organizationId = some job.organizationId
  reportType : ReportType.ofValue c.payload.reportType = some job.reportType
  filters : job.filters = c.payload.filters
  id : job.id = c.id
  createdById : job.createdById = c.ctx.userId
  finished : Finished school c job.schoolId job content

lemma attempt_recorded {c : ExportCall} {schoolId organizationId : Ulid} {reportType : ReportType}
    (hschool : c.ctx.schoolId = some schoolId)
    (horganization : c.ctx.organizationId = some organizationId)
    (htype : ReportType.ofValue c.payload.reportType = some reportType)
    (h : attempt c.clk c.ctx db schoolId
      (pendingJob c.ctx schoolId organizationId reportType c.payload.filters c.id) c.raised =
        (job, content)) :
    Recorded db.toSchoolDB c job content := by
  cases hraised : c.raised with
  | none =>
    rw [hraised] at h
    obtain ⟨rfl, rfl⟩ := Prod.mk.inj h
    exact ⟨hschool, horganization, htype, rfl, rfl, rfl, .completed hraised rfl rfl rfl⟩
  | some text =>
    rw [hraised] at h
    obtain ⟨rfl, rfl⟩ := Prod.mk.inj h
    exact ⟨hschool, horganization, htype, rfl, rfl, rfl, .failed hraised rfl rfl rfl⟩

/-- **What a request for an export does**: one job more, which is finished. -/
theorem handle_ok {c : ExportCall} (h : c.handle env db = .ok ((job, content), db')) :
    Recorded db.toSchoolDB c job content ∧ (∀ j ∈ db.exportJobs, j.id ≠ job.id) ∧
      (∀ j, j ∈ db'.exportJobs ↔ j ∈ db.exportJobs ∨ j = job) ∧
      ∃ row, db'.toSchoolDB = db.toSchoolDB.log row := by
  obtain ⟨schoolId, hschool, h⟩ := bind_ok.mp h
  obtain ⟨reportType, htype, h⟩ := bind_ok.mp h
  obtain ⟨organizationId, horganization, h⟩ := bind_ok.mp h
  obtain ⟨db1, hcreate, h⟩ := bind_ok.mp h
  obtain ⟨db2, hsave, h⟩ := bind_ok.mp h
  obtain ⟨db3, haudit, h⟩ := bind_ok.mp h
  obtain ⟨hanswer, rfl⟩ := Prod.mk.inj (pure_ok.mp h)
  obtain ⟨jobs, hinsert, hcreate⟩ := bind_ok.mp hcreate
  obtain ⟨_, _, hcreate⟩ := bind_ok.mp hcreate
  obtain rfl := pure_ok.mp hcreate
  obtain ⟨_, _, hsave⟩ := bind_ok.mp hsave
  obtain rfl := pure_ok.mp hsave
  obtain ⟨_, rfl⟩ := reportAudit_ok.mp haudit
  have hrecorded : Recorded db.toSchoolDB c job content :=
    attempt_recorded (found_ok.mp hschool) (found_ok.mp horganization) (found_ok.mp htype) hanswer
  have hjob := congrArg Prod.fst hanswer
  have hinsert := found_ok.mp hinsert
  have hfresh : ∀ j ∈ db.exportJobs, j.id ≠ job.id := by
    rw [hrecorded.id]
    exact (Table.insert_eq_some.mp hinsert).1
  refine ⟨hrecorded, hfresh, fun j => ?_, _, rfl⟩
  dsimp only at hjob ⊢
  rw [hjob]
  exact Table.mem_put_of_insert hinsert hrecorded.id

lemma mem_step (db : ReportDB) (e : ReportEvent) : job ∈ (e.step env db).exportJobs ↔
    job ∈ db.exportJobs ∨ ∃ content, e.Answers env job content db := by
  cases e with
  | others school => simp [ReportEvent.step, ReportEvent.Answers]
  | request c =>
    unfold ReportEvent.step
    cases hanswer : c.handle env db with
    | error e => simp [ReportEvent.Answers, hanswer]
    | ok r =>
      obtain ⟨⟨job', content⟩, db'⟩ := r
      have hmem := (handle_ok hanswer).2.2.1 job
      simp only [ReportEvent.Answers, hanswer, hmem]
      refine or_congr_right ⟨?_, ?_⟩
      · rintro rfl
        exact ⟨content, db', rfl⟩
      · rintro ⟨_, _, he⟩
        obtain ⟨he, _⟩ := Prod.mk.inj (Except.ok.inj he)
        exact (congrArg Prod.fst he).symm

/-! ### Runs -/

/-- The run answers with the job in the state. -/
def Enters (env : SchoolEnv) (start : ReportDB) (events : List ReportEvent) (c : ExportCall)
    (job : ExportJob) (content : Option ByteArray) (db : ReportDB) : Prop :=
  ∃ before after db', events = before ++ .request c :: after ∧
    db = run (ReportEvent.step env) start before ∧ c.handle env db = .ok ((job, content), db')

/-- **The jobs are what the requests of the run have answered.** -/
theorem mem_run {start : ReportDB} (hstart : start.exportJobs = .empty _)
    {events : List ReportEvent} : job ∈ (run (ReportEvent.step env) start events).exportJobs ↔
      ∃ c content db, Enters env start events c job content db := by
  have hhistory := history (M := fun db : ReportDB => job ∈ db.exportJobs)
    (C := fun db e => ∃ content, e.Answers env job content db) (fun db e => mem_step db e) events
    start
  rw [hhistory, hstart]
  constructor
  · rintro (hnone | ⟨before, e, after, rfl, content, hanswers⟩)
    · exact absurd hnone Table.not_mem_empty
    · cases e with
      | others school => exact hanswers.elim
      | request c =>
        obtain ⟨db', hanswer⟩ := hanswers
        exact ⟨c, content, _, before, after, db', rfl, rfl, hanswer⟩
  · rintro ⟨c, content, _, before, after, db', rfl, rfl, hanswer⟩
    exact .inr ⟨before, .request c, after, rfl, content, db', hanswer⟩

lemma Enters.recorded {start db : ReportDB} {events : List ReportEvent} {c : ExportCall}
    (h : Enters env start events c job content db) : Recorded db.toSchoolDB c job content := by
  obtain ⟨_, _, _, _, _, hanswer⟩ := h
  exact (handle_ok hanswer).1

/-- A job is completed exactly if its request has answered with a report. -/
lemma Recorded.completed_iff {school : SchoolDB} {c : ExportCall}
    (h : Recorded school c job content) : job.status = .completed ↔ content.isSome := by
  cases h.finished with
  | completed _ hstatus => simp [hstatus]
  | failed _ hstatus => simp [hstatus]

lemma getJob_ok {ctx : RequestContext} {jobId : Ulid} : getJob ctx db jobId = .ok job ↔
    job ∈ db.exportJobs ∧ job.id = jobId ∧ ctx.schoolId = some job.schoolId := by
  simp only [getJob, bind_ok, found_ok, Option.filter_eq_some_iff, Table.get_eq_some,
    decide_eq_true_eq]
  constructor
  · rintro ⟨schoolId, hctx, ⟨hmem, hid⟩, rfl⟩
    exact ⟨hmem, hid, hctx⟩
  · rintro ⟨hmem, hid, hctx⟩
    exact ⟨_, hctx, ⟨hmem, hid⟩, rfl⟩

lemma getJob_error {ctx : RequestContext} {jobId : Ulid} {e : ApiError}
    (h : getJob ctx db jobId = .error e) : e = jobNotFound := by
  unfold getJob at h
  cases hctx : ctx.schoolId with
  | none =>
    rw [hctx] at h
    exact (Except.error.inj h).symm
  | some schoolId =>
    rw [hctx] at h
    cases hget : (db.exportJobs.get jobId).filter fun job => decide (job.schoolId = schoolId) with
    | none =>
      rw [found, ok_bind, hget] at h
      exact (Except.error.inj h).symm
    | some job =>
      rw [found, ok_bind, hget] at h
      cases h

lemma getDownload_eq {ctx : RequestContext} {jobId : Ulid} (h : getJob ctx db jobId = .ok job) :
    getDownload ctx db jobId = if job.status = .completed then
      .ok (job, (generate db.toSchoolDB ctx job.schoolId job.reportType job.filters).1)
    else .error notCompleted := by
  rw [getDownload, h, ok_bind]
  unfold ensure
  split <;> rfl

lemma notCompleted_ne : notCompleted ≠ jobNotFound := by decide

/-- **Jobs and downloads over runs**: a job is finished by the request that makes it and stays as it
is. Its school can download it as long as it is completed, and what is served is the report of the
state at the time of the download, whatever the filters. -/
theorem export_jobs (env : SchoolEnv) (start : ReportDB) (hstart : start.exportJobs = .empty _)
    (events : List ReportEvent) (ctx : RequestContext) (jobId : Ulid) :
    let now := run (ReportEvent.step env) start events
    (∀ job, job ∈ now.exportJobs ↔ ∃ c content db, Enters env start events c job content db ∧
      Recorded db.toSchoolDB c job content) ∧
    (∀ job bytes, getDownload ctx now jobId = .ok (job, bytes) ↔
      (∃ c report db, Enters env start events c job (some report) db) ∧ job.id = jobId ∧
        ctx.schoolId = some job.schoolId ∧ ∀ filters,
          bytes = (generate now.toSchoolDB ctx job.schoolId job.reportType filters).1) ∧
    (getDownload ctx now jobId = .error notCompleted ↔
      ∃ c job db, Enters env start events c job none db ∧ job.id = jobId ∧
        ctx.schoolId = some job.schoolId) ∧
    (getDownload ctx now jobId = .error jobNotFound ↔ ∀ c job content db,
      Enters env start events c job content db → job.id = jobId →
        ctx.schoolId ≠ some job.schoolId) := by
  intro now
  have hmem : ∀ job, job ∈ now.exportJobs ↔
      ∃ c content db, Enters env start events c job content db := fun job => mem_run hstart
  have hcompleted : ∀ {c job content db}, Enters env start events c job content db →
      (job.status = .completed ↔ content.isSome) :=
    fun henters => henters.recorded.completed_iff
  refine ⟨fun job => ?_, ?_⟩
  · rw [hmem]
    exact exists₃_congr fun c content db => (and_iff_left_of_imp Enters.recorded).symm
  cases hjob : getJob ctx now jobId with
  | error e =>
    obtain rfl := getJob_error hjob
    have hdownload : getDownload ctx now jobId = .error jobNotFound := by
      rw [getDownload, hjob, error_bind]
    have hnone : ∀ c job content db, Enters env start events c job content db →
        job.id = jobId → ctx.schoolId ≠ some job.schoolId := by
      intro c job content db henters hid hctx
      have hfound := getJob_ok.mpr ⟨(hmem job).mpr ⟨c, content, db, henters⟩, hid, hctx⟩
      rw [hjob] at hfound
      cases hfound
    rw [hdownload]
    refine ⟨fun job bytes => iff_of_false nofun ?_, iff_of_false ?_ ?_, iff_of_true rfl hnone⟩
    · rintro ⟨⟨c, report, db, henters⟩, hid, hctx, _⟩
      exact hnone c job _ db henters hid hctx
    · exact fun he => notCompleted_ne (Except.error.inj he).symm
    · rintro ⟨c, job, db, henters, hid, hctx⟩
      exact hnone c job _ db henters hid hctx
  | ok found =>
    obtain ⟨hfound, hid, hctx⟩ := getJob_ok.mp hjob
    obtain ⟨c, content, db, henters⟩ := (hmem found).mp hfound
    -- The id tells the jobs of the run apart.
    have honly : ∀ {c' job content' db'}, Enters env start events c' job content' db' →
        job.id = jobId → job = found := by
      intro c' job content' db' henters' hid'
      exact Table.eq_of_key ((hmem job).mpr ⟨_, _, _, henters'⟩) hfound (hid'.trans hid.symm)
    rw [getDownload_eq hjob]
    refine ⟨fun job bytes => ?_, ?_, iff_of_false ?_ ?_⟩
    · constructor
      · intro hanswer
        split at hanswer
        · next hstatus =>
          obtain ⟨rfl, rfl⟩ := Prod.mk.inj (Except.ok.inj hanswer)
          obtain ⟨report, rfl⟩ := Option.isSome_iff_exists.mp ((hcompleted henters).mp hstatus)
          exact ⟨⟨c, report, db, henters⟩, hid, hctx, fun _ => rfl⟩
        · cases hanswer
      · rintro ⟨⟨c', report, db', henters'⟩, hid', _, hbytes⟩
        obtain rfl := honly henters' hid'
        rw [if_pos ((hcompleted henters').mpr rfl), hbytes job.filters]
    · constructor
      · intro hanswer
        split at hanswer
        · cases hanswer
        · next hstatus =>
          cases content with
          | none => exact ⟨c, found, db, henters, hid, hctx⟩
          | some report => exact absurd ((hcompleted henters).mpr rfl) hstatus
      · rintro ⟨c', job, db', henters', hid', _⟩
        obtain rfl := honly henters' hid'
        have hstatus : ¬ job.status = .completed := fun h => by
          cases (hcompleted henters').mp h
        rw [if_neg hstatus]
    · intro hanswer
      split at hanswer
      · cases hanswer
      · exact notCompleted_ne (Except.error.inj hanswer)
    · intro hnone
      exact hnone c found content db henters hid hctx

/-- A request of the staff for the students, whose generator raises or does not. -/
def studentReport (id : Ulid) (raised : Option String) : ExportCall :=
  ⟨staff, ⟨5, 0⟩, ⟨"STUDENTS", none⟩, id, raised⟩

/-- One report that was made and one that was not, and a student who is gone since. -/
def threeEvents : List ReportEvent :=
  [.request (studentReport 901 none), .request (studentReport 902 (some "gone")),
    .others { smallSchool with students := .empty _ }]

theorem export_jobs_small :
    let now := run (ReportEvent.step .plain) smallSchool.withoutReports threeEvents
    getDownload staff now 902 = .error notCompleted ∧
      ∃ job, job.rowCount = some 2 ∧
        getDownload staff now 901 = .ok (job, (generateCsv studentHeaders []).1) := by
  have hempty : smallSchool.withoutReports.exportJobs = .empty _ := rfl
  constructor
  · have h := (export_jobs .plain smallSchool.withoutReports hempty threeEvents staff 902).2.2.1
    exact h.mpr ⟨studentReport 902 (some "gone"), _, _,
      ⟨[.request (studentReport 901 none)], _, _, rfl, rfl, rfl⟩, rfl, rfl⟩
  · have h := (export_jobs .plain smallSchool.withoutReports hempty threeEvents staff 901).2.1
    exact ⟨_, rfl, (h _ _).mpr ⟨⟨studentReport 901 none, _, _, [], _, _, rfl, rfl, rfl⟩, rfl, rfl,
      fun _ => rfl⟩⟩

end SchoolOs.Reports
