import GvmGateway.Domain.Jobs
import GvmGateway.Domain.Session
import GvmGateway.Domain.Time

/-!
# The job registry

Every function here takes the lock of the registry for its whole body; it returns what the
caller gets, and the registry it leaves. A function that aborts workers also returns their
handles. `now` is the clock reading, in seconds since the epoch.
-/

namespace GvmGateway

/-- `JOB_KIND_REPORT_EXPORT`. -/
def jobKindReportExport : String := "report_export"

/-- `DEFAULT_MAX_JOBS_TOTAL`. -/
def defaultMaxJobsTotal : ℕ := 1000

/-- `DEFAULT_TERMINAL_JOB_RETENTION_SECS`. -/
def defaultTerminalJobRetentionSecs : ℕ := 15 * 60

/-- The handle of a spawned worker task. A task is named by the job it was spawned for. -/
structure AbortHandle where
  task : String
deriving DecidableEq, Repr

/-- How many jobs are kept, and for how long after their end. -/
structure JobPolicy where
  maxJobsTotal : ℕ := defaultMaxJobsTotal
  terminalRetentionSecs : ℕ := defaultTerminalJobRetentionSecs
deriving DecidableEq, Repr

/-- A job with its owner, its session, its artifact and the handle of its worker. -/
structure JobRecord (Digest : Type) where
  ownerUser : String
  sessionTokenDigest : Digest
  job : ReportExportJob
  artifact : Option JobArtifact
  abortHandle : Option AbortHandle
  purgeAfterEpochSecs : Option ℕ

/-- The jobs by their identifiers. -/
structure JobRegistryState (Digest : Type) where
  jobs : AList fun _ : String => JobRecord Digest
  policy : JobPolicy

/-- `report_export_job`: the job of a request, queued. -/
def reportExportJob (now : ℕ) (jobId reportId : String) (request : CreateReportExportRequest) :
    ReportExportJob :=
  let (format, reportFormatId) := match request with
    | .gvmdReportFormat request =>
      (ReportExportFormat.gvmdReportFormat, some request.reportFormatId)
    | .json _ => (.json, none)
  { id := jobId
    kind := jobKindReportExport
    status := .queued
    progress := some { percent := some 0, message := some "queued" }
    createdAt := formatRfc3339 now
    startedAt := none
    completedAt := none
    expiresAt := none
    resultLocation := none
    error := none
    report := { id := reportId, name := none }
    format := format
    reportFormatId := reportFormatId
    result := none }

namespace JobRecord

variable {Digest : Type}

/-- What `mark_job_running` writes. -/
def markRunning (r : JobRecord Digest) (now : ℕ) : JobRecord Digest :=
  { r with job := { r.job with
      status := .running
      startedAt := some (formatRfc3339 now)
      progress := some { percent := some 0, message := some "running" } } }

/-- What `mark_job_succeeded` writes. -/
def markSucceeded (r : JobRecord Digest) (jobId : String) (artifact : JobArtifact)
    (now retentionSecs : ℕ) : JobRecord Digest :=
  let resultLocation := "/api/v1/jobs/" ++ jobId ++ "/result"
  { r with
    job := { r.job with
      status := .succeeded
      completedAt := some (formatRfc3339 now)
      expiresAt := some (formatRfc3339 (now + retentionSecs))
      resultLocation := some resultLocation
      progress := some { percent := some 100, message := some "succeeded" }
      result := some {
        contentType := some artifact.contentType
        filename := some artifact.filename
        size := some artifact.bytes.length
        location := some resultLocation } }
    artifact := some artifact
    -- nothing is left to abort
    abortHandle := none
    purgeAfterEpochSecs := some (now + retentionSecs) }

/-- What `mark_job_failed` writes. -/
def markFailed (r : JobRecord Digest) (error : GatewayError) (now retentionSecs : ℕ) :
    JobRecord Digest :=
  { r with
    job := { r.job with
      status := .failed
      completedAt := some (formatRfc3339 now)
      expiresAt := some (formatRfc3339 (now + retentionSecs))
      progress := some { percent := some 100, message := some "failed" }
      error := some (.fromGatewayError error) }
    abortHandle := none
    purgeAfterEpochSecs := some (now + retentionSecs) }

/-- What `cancel_job_record` writes. It takes the abort handle and leaves the artifact. -/
def markCancelled (r : JobRecord Digest) (now retentionSecs : ℕ) : JobRecord Digest :=
  { r with
    job := { r.job with
      status := .cancelled
      completedAt := some (formatRfc3339 now)
      expiresAt := some (formatRfc3339 (now + retentionSecs))
      progress := some { percent := some 100, message := some "cancelled" } }
    abortHandle := none
    purgeAfterEpochSecs := some (now + retentionSecs) }

end JobRecord

/-- `cancel_job_record_in_place`: as `cancel_job_record`, but the artifact is cleared, and
the handle is the caller's to abort. -/
def cancelJobRecordInPlace {Digest : Type} (record : JobRecord Digest)
    (now retentionSecs : ℕ) : Option AbortHandle × JobRecord Digest :=
  (record.abortHandle, { record.markCancelled now retentionSecs with artifact := none })

namespace JobRegistryState

variable {Digest : Type}

/-- The registry at start. -/
def new (Digest : Type) (policy : JobPolicy) : JobRegistryState Digest :=
  { jobs := ∅, policy := policy }

/-- The error for a job that is unknown or another user's. -/
def jobNotFound (jobId : String) : GatewayError := .notFound ("job " ++ jobId ++ " not found")

/-- The entry of a job is replaced. -/
def put (s : JobRegistryState Digest) (jobId : String) (r : JobRecord Digest) :
    JobRegistryState Digest :=
  { s with jobs := s.jobs.insert jobId r }

/-- Whether `purge_expired_jobs` keeps a record. -/
def isRetained (now : ℕ) (r : JobRecord Digest) : Bool :=
  match r.purgeAfterEpochSecs with
  | some purgeAfter => now < purgeAfter
  -- an open job is never purged
  | none => true

/-- `purge_expired_jobs`, without its count. -/
def purged (s : JobRegistryState Digest) (now : ℕ) : JobRegistryState Digest :=
  { s with jobs := s.jobs.filter fun _ r => isRetained now r }

/-- `purge_expired_jobs`. -/
def purgeExpiredJobs (s : JobRegistryState Digest) (now : ℕ) : ℕ × JobRegistryState Digest :=
  (s.jobs.entries.length - (s.purged now).jobs.entries.length, s.purged now)

/-- `JobRegistry::sweep_expired_jobs`. -/
def sweepExpiredJobs (s : JobRegistryState Digest) (now : ℕ) : ℕ × JobRegistryState Digest :=
  s.purgeExpiredJobs now

/-- `ensure_job_owner`. -/
def ensureJobOwner (record : JobRecord Digest) (ownerUser jobId : String) :
    Except GatewayError Unit :=
  if record.ownerUser = ownerUser then .ok () else .error (jobNotFound jobId)

/-- `insert_job`. -/
def insertJob (s : JobRegistryState Digest) (now : ℕ) (ownerUser : String)
    (sessionTokenDigest : Digest) (job : ReportExportJob) :
    Except GatewayError Unit × JobRegistryState Digest :=
  -- expired jobs make room first
  let s := s.purged now
  if s.policy.maxJobsTotal ≤ s.jobs.entries.length then
    (.error (.tooManyRequests ("job capacity exceeded; at most " ++
      Nat.repr s.policy.maxJobsTotal ++ " jobs are retained")), s)
  else
    (.ok (), s.put job.id
      { ownerUser := ownerUser, sessionTokenDigest := sessionTokenDigest, job := job,
        artifact := none, abortHandle := none, purgeAfterEpochSecs := none })

/-- `set_job_abort_handle`. The second component is the handle that it aborts. -/
def setJobAbortHandle (s : JobRegistryState Digest) (jobId : String) (handle : AbortHandle) :
    Except GatewayError Unit × Option AbortHandle × JobRegistryState Digest :=
  match s.jobs.lookup jobId with
  | none => (.error (jobNotFound jobId), none, s)
  | some record =>
    -- cancelled before its handle could be registered
    if record.job.status.isTerminal then (.ok (), some handle, s)
    else (.ok (), none, s.put jobId { record with abortHandle := some handle })

/-- `mark_job_running`. -/
def markJobRunning (s : JobRegistryState Digest) (now : ℕ) (jobId : String) :
    Except GatewayError Unit × JobRegistryState Digest :=
  match s.jobs.lookup jobId with
  | none => (.error (jobNotFound jobId), s)
  | some record =>
    if record.job.status = .cancelled then
      (.error (.conflict ("job " ++ jobId ++ " was cancelled")), s)
    else (.ok (), s.put jobId (record.markRunning now))

/-- The common shape of `mark_job_succeeded` and `mark_job_failed`: a cancelled job stays
as it is. -/
def completeJob (s : JobRegistryState Digest) (jobId : String)
    (complete : JobRecord Digest → JobRecord Digest) :
    Except GatewayError Unit × JobRegistryState Digest :=
  match s.jobs.lookup jobId with
  | none => (.error (jobNotFound jobId), s)
  | some record =>
    if record.job.status = .cancelled then (.ok (), s)
    else (.ok (), s.put jobId (complete record))

/-- `mark_job_succeeded`. -/
def markJobSucceeded (s : JobRegistryState Digest) (now : ℕ) (jobId : String)
    (artifact : JobArtifact) : Except GatewayError Unit × JobRegistryState Digest :=
  s.completeJob jobId fun record =>
    record.markSucceeded jobId artifact now s.policy.terminalRetentionSecs

/-- `mark_job_failed`. -/
def markJobFailed (s : JobRegistryState Digest) (now : ℕ) (jobId : String)
    (error : GatewayError) : Except GatewayError Unit × JobRegistryState Digest :=
  s.completeJob jobId fun record => record.markFailed error now s.policy.terminalRetentionSecs

/-- The common shape of the calls that look up a job of a user: expired jobs are purged, and
a job of somebody else is not found. -/
def findOwned (s : JobRegistryState Digest) (now : ℕ) (ownerUser jobId : String) :
    Except GatewayError (JobRecord Digest) :=
  match (s.purged now).jobs.lookup jobId with
  | none => .error (jobNotFound jobId)
  | some record => (ensureJobOwner record ownerUser jobId).map fun _ => record

/-- `job_snapshot`. -/
def jobSnapshot (s : JobRegistryState Digest) (now : ℕ) (ownerUser jobId : String) :
    Except GatewayError ReportExportJob × JobRegistryState Digest :=
  ((s.findOwned now ownerUser jobId).map JobRecord.job, s.purged now)

/-- `cancel_job_record`. The clock is read for the purge and again for the record; the second
component is the handle that is aborted, inside the lock. -/
def cancelJobRecord (s : JobRegistryState Digest) (purgeNow now : ℕ)
    (ownerUser jobId : String) :
    Except GatewayError JobCancelOutcome × Option AbortHandle × JobRegistryState Digest :=
  match s.findOwned purgeNow ownerUser jobId with
  | .error err => (.error err, none, s.purged purgeNow)
  | .ok record =>
    if record.job.status.isTerminal then (.ok .alreadyTerminal, none, s.purged purgeNow)
    else (.ok .cancellationRequested, record.abortHandle,
      (s.purged purgeNow).put jobId (record.markCancelled now s.policy.terminalRetentionSecs))

/-- Whether `cancel_jobs_for_session` cancels a record. -/
def isCancelledFor [DecidableEq Digest] (sessionTokenDigest : Digest)
    (record : JobRecord Digest) : Bool :=
  record.sessionTokenDigest = sessionTokenDigest && !record.job.status.isTerminal

/-- `cancel_jobs_for_session`: the number of cancelled jobs, and the handles to abort once
the lock is released. -/
def cancelJobsForSession [DecidableEq Digest] (s : JobRegistryState Digest)
    (purgeNow now : ℕ) (sessionTokenDigest : Digest) :
    ℕ × List AbortHandle × JobRegistryState Digest :=
  let s := s.purged purgeNow
  let cancel := fun record : JobRecord Digest =>
    cancelJobRecordInPlace record now s.policy.terminalRetentionSecs
  -- the open jobs of the session, in the order of the map
  let found := s.jobs.filter fun _ record => isCancelledFor sessionTokenDigest record
  (found.entries.length, found.entries.filterMap fun e => (cancel e.2).1,
    { s with jobs := s.jobs.mapVal fun _ record =>
        if isCancelledFor sessionTokenDigest record then (cancel record).2 else record })

/-- `job_artifact`. -/
def jobArtifact (s : JobRegistryState Digest) (now : ℕ) (ownerUser jobId : String) :
    Except GatewayError JobArtifact × JobRegistryState Digest :=
  (match s.findOwned now ownerUser jobId with
    | .error err => .error err
    | .ok record =>
      if record.job.status ≠ .succeeded then
        .error (.conflict ("job " ++ jobId ++ " has not produced a downloadable result"))
      -- `mark_job_succeeded` has stored one
      else match record.artifact with
        | none => .error (.internal ("job " ++ jobId ++ " artifact is missing"))
        | some artifact => .ok artifact,
    s.purged now)

end JobRegistryState
end GvmGateway
