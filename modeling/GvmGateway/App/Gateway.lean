import GvmGateway.App.Jobs
import GvmGateway.Library.TransitionSystem

/-!
# The gateway as a system of calls

The session registry, the adapter's map of backend clients and the job registry are three
maps under three locks. The calls of `GatewayService`, the reaper and the export workers run
at once; each is a sequence of steps, and a step is what a call does under one lock. Between
its steps a call may wait for any length of time. `step` lets one call make its next step,
or time pass.

A finished call stays in the map of its kind, under a final stage, so the maps also tell
what has been returned; only sweeps and abandoned requests leave no trace.
-/

namespace GvmGateway

open SessionTokenDigest

/-! ## Calls -/

/-- Where `create_session` stands, after a `create_draining_expired` that succeeded. -/
inductive CreateStage (Digest : Type) where
  /-- In `disconnect_expired_sessions`, with the digests still to disconnect. -/
  | disconnecting (pending : List Digest)
  /-- Awaiting `authenticate_session`, which has not inserted the client yet. -/
  | authenticating
  /-- Authentication failed; the session is about to be removed. -/
  | rejecting (err : GatewayError)
  /-- Authentication succeeded; the client is in the adapter's map. -/
  | connected
  | returned
  | failed (err : GatewayError)
  /-- The request was dropped while it waited for the backend. -/
  | dropped
deriving DecidableEq, Repr

namespace CreateStage

variable {Digest : Type}

/-- The sessions that a login has still to disconnect. -/
def pending : CreateStage Digest → List Digest
  | .disconnecting pending => pending
  | _ => []

/-- The login is over. -/
def isDone : CreateStage Digest → Bool
  | .returned | .failed _ | .dropped => true
  | _ => false

end CreateStage

/-- Where `delete_session` stands, after a `remove` that found the session. -/
inductive DeleteStage where
  | removed
  /-- In `cancel_jobs_for_session` after the lock, with the handles still to abort. -/
  | aborting (handles : List AbortHandle)
  | disconnecting
  | returned
deriving DecidableEq, Repr

/-- A logout under way. -/
structure DeleteCall (Digest : Type) where
  session : Digest
  stage : DeleteStage

/-- A `create_report_export_job` call that waits for `get_report`. -/
structure ReportCheck where
  session : Session
  reportId : String
  request : CreateReportExportRequest
deriving DecidableEq, Repr

/-- Where `enqueue_report_export_job` stands, after `hold`. -/
inductive EnqueueStage where
  /-- The session is held, the job not yet inserted. -/
  | held
  /-- `insert_job` failed; the hold is about to be dropped. -/
  | rejecting
  | rejected
  | inserted
  /-- The worker is spawned and owns the hold; its handle is not yet registered. -/
  | spawned
  | returned
deriving DecidableEq, Repr

/-- Where the worker task of a job stands. -/
inductive WorkerStage where
  | queued
  | running
  /-- The work is over or was dropped at an await; the hold is about to be dropped. -/
  | finishing
  | finished
deriving DecidableEq, Repr

/-- A worker task, and whether it is to be aborted. -/
structure Worker where
  stage : WorkerStage
  abortRequested : Bool
deriving DecidableEq, Repr

/-- An export, from the `hold` of its session on: the call that enqueues it and, once it is
spawned, its worker. -/
structure Export (Digest : Type) where
  ownerUser : String
  session : Digest
  createdAt : ℕ
  reportId : String
  request : CreateReportExportRequest
  enqueuer : EnqueueStage
  worker : Option Worker

namespace Export

variable {Digest : Type}

/-- The job that the call has built. -/
def job (e : Export Digest) (jobId : String) : ReportExportJob :=
  reportExportJob e.createdAt jobId e.reportId e.request

def atStage (e : Export Digest) (stage : EnqueueStage) : Export Digest :=
  { e with enqueuer := stage }

def withWorker (e : Export Digest) (w : Worker) : Export Digest := { e with worker := some w }

/-- The worker goes on to another stage. -/
def workerAt (e : Export Digest) (stage : WorkerStage) : Export Digest :=
  { e with worker := e.worker.map fun w => { w with stage := stage } }

/-- What `AbortHandle::abort` does: the task may be dropped where it awaits next. -/
def abortRequested (e : Export Digest) : Export Digest :=
  { e with worker := e.worker.map fun w => { w with abortRequested := true } }

/-- Whether a `SessionHold` guard of the export exists: in the call until the spawn, then in
the worker. -/
def holdsGuard (e : Export Digest) : Bool :=
  match e.worker with
  | none => e.enqueuer = .held || e.enqueuer = .rejecting || e.enqueuer = .inserted
  | some w => w.stage ≠ .finished

end Export

/-! ## The system -/

/-- The three maps, the requests that reached the adapter's `disconnect_session` (the latest
first), and the calls. A session that logs in is named by its digest, an export by its job. -/
structure Gateway (Digest : Type) where
  now : ℕ
  sessions : SessionManager Digest
  clients : Finset Digest
  disconnects : List Digest
  jobs : JobRegistryState Digest
  creates : AList fun _ : Digest => CreateStage Digest
  sweeps : AList fun _ : ℕ => List Digest
  deletes : AList fun _ : ℕ => DeleteCall Digest
  checks : AList fun _ : ℕ => ReportCheck
  exports : AList fun _ : String => Export Digest

namespace Gateway

variable {Digest : Type} [DecidableEq Digest] [SessionTokenDigest Digest]

/-- The gateway at start. -/
def new (Digest : Type) (now idleTimeoutSecs : ℕ) (limits : SessionLimits)
    (policy : JobPolicy) : Gateway Digest :=
  { now := now
    sessions := .withLimits Digest idleTimeoutSecs limits
    clients := ∅
    disconnects := []
    jobs := .new Digest policy
    creates := ∅
    sweeps := ∅
    deletes := ∅
    checks := ∅
    exports := ∅ }

/-! ### Updates -/

section Updates

omit [SessionTokenDigest Digest]

def setSessions (g : Gateway Digest) (m : SessionManager Digest) : Gateway Digest :=
  { g with sessions := m }

def setJobs (g : Gateway Digest) (s : JobRegistryState Digest) : Gateway Digest :=
  { g with jobs := s }

def setCreate (g : Gateway Digest) (d : Digest) (stage : CreateStage Digest) :
    Gateway Digest :=
  { g with creates := g.creates.insert d stage }

def setSweep (g : Gateway Digest) (id : ℕ) (pending : List Digest) : Gateway Digest :=
  { g with sweeps := g.sweeps.insert id pending }

def endSweep (g : Gateway Digest) (id : ℕ) : Gateway Digest :=
  { g with sweeps := g.sweeps.erase id }

def setDelete (g : Gateway Digest) (id : ℕ) (c : DeleteCall Digest) : Gateway Digest :=
  { g with deletes := g.deletes.insert id c }

def setCheck (g : Gateway Digest) (id : ℕ) (c : ReportCheck) : Gateway Digest :=
  { g with checks := g.checks.insert id c }

def endCheck (g : Gateway Digest) (id : ℕ) : Gateway Digest :=
  { g with checks := g.checks.erase id }

def setExport (g : Gateway Digest) (jobId : String) (e : Export Digest) : Gateway Digest :=
  { g with exports := g.exports.insert jobId e }

/-- `AuthPort::disconnect_session` of the adapter, which drops the client if there is one. -/
def disconnectSession (g : Gateway Digest) (d : Digest) : Gateway Digest :=
  { g with clients := g.clients.erase d, disconnects := d :: g.disconnects }

/-- The client of a session enters the adapter's map. -/
def connectSession (g : Gateway Digest) (d : Digest) : Gateway Digest :=
  { g with clients := insert d g.clients }

/-- `AbortHandle::abort`. -/
def abort (g : Gateway Digest) (handle : AbortHandle) : Gateway Digest :=
  match g.exports.lookup handle.task with
  | none => g
  | some e => g.setExport handle.task e.abortRequested

/-- The abort of a handle that was found, if one was. -/
def abortFound (g : Gateway Digest) : Option AbortHandle → Gateway Digest
  | none => g
  | some handle => g.abort handle

end Updates

/-! ### Sessions -/

/-- The first step of `create_session`, under a token that nobody has drawn before. The map
iterates in an order of its own, so the expired digests come in any `order`. -/
def createSession (g : Gateway Digest) (token user : String) (order : List Digest) :
    Option (Gateway Digest) :=
  if (g.creates.lookup (fromToken token)).isSome then none
  else
    match g.sessions.createDrainingExpired g.now token user with
    -- over a limit: the call returns its error, and nothing has been removed
    | (.error _, m) => some (g.setSessions m)
    | (.ok (_, expired), m) =>
      if order.Perm expired then
        some ((g.setSessions m).setCreate (fromToken token) (.disconnecting order))
      else none

/-- The next step of `create_session`, other than the outcome of the authentication. -/
def createStep (g : Gateway Digest) (token : String) : Option (Gateway Digest) :=
  let d : Digest := fromToken token
  match g.creates.lookup d with
  | some (.disconnecting []) => some (g.setCreate d .authenticating)
  | some (.disconnecting (e :: pending)) =>
    some ((g.disconnectSession e).setCreate d (.disconnecting pending))
  -- authentication failed: `remove`, and the error
  | some (.rejecting err) =>
    some ((g.setSessions (g.sessions.remove token).2).setCreate d (.failed err))
  -- the call returns, and the client has its token
  | some .connected => some (g.setCreate d .returned)
  | _ => none

/-- `authenticate_session` ends; when it succeeds its last step has inserted the client. -/
def authenticate (g : Gateway Digest) (token : String) (result : Except GatewayError Unit) :
    Option (Gateway Digest) :=
  let d : Digest := fromToken token
  if g.creates.lookup d = some .authenticating then
    match result with
    | .ok () => some ((g.connectSession d).setCreate d .connected)
    | .error err => some (g.setCreate d (.rejecting err))
  else none

/-- The future of a `create_session` that waits for the backend is dropped. -/
def dropCreate (g : Gateway Digest) (token : String) : Option (Gateway Digest) :=
  if g.creates.lookup (fromToken token) = some .authenticating then
    -- the session stays in the registry
    some (g.setCreate (fromToken token) .dropped)
  else none

omit [SessionTokenDigest Digest] in
/-- The first step of `sweep_once`. -/
def sweepOnce (g : Gateway Digest) (id : ℕ) (order : List Digest) : Option (Gateway Digest) :=
  if (g.sweeps.lookup id).isSome then none
  else
    let (expired, m) := g.sessions.drainExpired g.now
    if order.Perm expired then some ((g.setSessions m).setSweep id order) else none

omit [SessionTokenDigest Digest] in
/-- The next step of `sweep_once`. -/
def sweepStep (g : Gateway Digest) (id : ℕ) : Option (Gateway Digest) :=
  match g.sweeps.lookup id with
  | none => none
  | some [] => some (g.endSweep id)
  | some (d :: pending) => some ((g.disconnectSession d).setSweep id pending)

/-- The first step of `delete_session`; a session that is not found ends the call. -/
def deleteSession (g : Gateway Digest) (id : ℕ) (token : String) : Option (Gateway Digest) :=
  if (g.deletes.lookup id).isSome then none
  else
    match g.sessions.remove token with
    -- not found, also when another call has removed it
    | (none, m) => some (g.setSessions m)
    | (some _, m) =>
      some ((g.setSessions m).setDelete id { session := fromToken token, stage := .removed })

omit [SessionTokenDigest Digest] in
/-- The `cancel_jobs_for_session` of a `delete_session`, which visits the jobs in any order. -/
def cancelJobs (g : Gateway Digest) (id : ℕ) (order : List AbortHandle) :
    Option (Gateway Digest) :=
  match g.deletes.lookup id with
  | some ⟨d, .removed⟩ =>
    -- one lock for the purge and the cancellations; the handles are aborted after it
    let (_, handles, s) := g.jobs.cancelJobsForSession g.now g.now d
    if order.Perm handles then
      some ((g.setJobs s).setDelete id { session := d, stage := .aborting order })
    else none
  | _ => none

omit [SessionTokenDigest Digest] in
/-- The next step of `delete_session` after that. -/
def deleteStep (g : Gateway Digest) (id : ℕ) : Option (Gateway Digest) :=
  match g.deletes.lookup id with
  | some ⟨d, .aborting []⟩ => some (g.setDelete id { session := d, stage := .disconnecting })
  | some ⟨d, .aborting (handle :: handles)⟩ =>
    some ((g.abort handle).setDelete id { session := d, stage := .aborting handles })
  | some ⟨d, .disconnecting⟩ =>
    some ((g.disconnectSession d).setDelete id { session := d, stage := .returned })
  | _ => none

/-! ### Exports -/

/-- The first step of `create_report_export_job`: `execute_with_resource` touches the
session. -/
def createReportExportJob (g : Gateway Digest) (id : ℕ) (token reportId : String)
    (request : CreateReportExportRequest) : Option (Gateway Digest) :=
  if (g.checks.lookup id).isSome then none
  else
    match g.sessions.touch g.now token with
    -- a `touch` of an expired session has marked it
    | (.error _, m) => some (g.setSessions m)
    | (.ok session, m) =>
      some ((g.setSessions m).setCheck id
        { session := session, reportId := reportId, request := request })

omit [DecidableEq Digest] [SessionTokenDigest Digest] in
/-- The report was not found, or the request was dropped while it waited. -/
def dropCheck (g : Gateway Digest) (id : ℕ) : Option (Gateway Digest) :=
  if (g.checks.lookup id).isSome then some (g.endCheck id) else none

/-- The report was found: `enqueue_report_export_job` builds the job, under an identifier
that nobody has drawn before, and holds the session. -/
def holdSession (g : Gateway Digest) (id : ℕ) (jobId : String) : Option (Gateway Digest) :=
  match g.checks.lookup id with
  | none => none
  | some check =>
    if (g.exports.lookup jobId).isSome then none
    else
      match g.sessions.hold g.now check.session.token with
      -- the session has expired or gone while `get_report` was awaited
      | (.error _, m) => some ((g.setSessions m).endCheck id)
      | (.ok d, m) =>
        some (((g.setSessions m).endCheck id).setExport jobId
          { ownerUser := check.session.user, session := d, createdAt := g.now,
            reportId := check.reportId, request := check.request,
            enqueuer := .held, worker := none })

omit [SessionTokenDigest Digest] in
/-- The next step of `enqueue_report_export_job`. -/
def enqueueStep (g : Gateway Digest) (jobId : String) : Option (Gateway Digest) :=
  match g.exports.lookup jobId with
  | none => none
  | some e =>
    match e.enqueuer with
    | .held =>
      match g.jobs.insertJob g.now e.ownerUser e.session (e.job jobId) with
      | (.error _, s) => some ((g.setJobs s).setExport jobId (e.atStage .rejecting))
      | (.ok _, s) => some ((g.setJobs s).setExport jobId (e.atStage .inserted))
    -- the guard goes out of scope with the error
    | .rejecting =>
      some ((g.setSessions (g.sessions.dropHold e.session)).setExport jobId
        (e.atStage .rejected))
    -- `tokio::spawn`, which moves the guard into the worker
    | .inserted =>
      some (g.setExport jobId
        ((e.atStage .spawned).withWorker { stage := .queued, abortRequested := false }))
    | .spawned =>
      -- a job that is terminal by now has its worker aborted at once
      let (_, aborted, s) := g.jobs.setJobAbortHandle jobId ⟨jobId⟩
      some (((g.setJobs s).setExport jobId (e.atStage .returned)).abortFound aborted)
    | .rejected | .returned => none

omit [SessionTokenDigest Digest] in
/-- The next step of a worker, other than the end of the export: `mark_job_running` when it
is first polled, and the drop of its hold at the end. -/
def workerStep (g : Gateway Digest) (jobId : String) : Option (Gateway Digest) :=
  match g.exports.lookup jobId with
  | none => none
  | some e =>
    match e.worker.map Worker.stage with
    | some .queued =>
      match g.jobs.markJobRunning g.now jobId with
      -- a job that is gone or cancelled is not run
      | (.error _, s) => some ((g.setJobs s).setExport jobId (e.workerAt .finishing))
      | (.ok _, s) => some ((g.setJobs s).setExport jobId (e.workerAt .running))
    -- the guard is dropped with the future
    | some .finishing =>
      some ((g.setSessions (g.sessions.dropHold e.session)).setExport jobId
        (e.workerAt .finished))
    | _ => none

omit [SessionTokenDigest Digest] in
/-- The export ends, and the worker marks the job. -/
def exportDone (g : Gateway Digest) (jobId : String)
    (result : Except GatewayError JobArtifact) : Option (Gateway Digest) :=
  match g.exports.lookup jobId with
  | none => none
  | some e =>
    if e.worker.map Worker.stage = some .running then
      let (_, s) := match result with
        | .ok artifact => g.jobs.markJobSucceeded g.now jobId artifact
        | .error err => g.jobs.markJobFailed g.now jobId err
      some ((g.setJobs s).setExport jobId (e.workerAt .finishing))
    else none

omit [SessionTokenDigest Digest] in
/-- An aborted worker is dropped where it awaits: before its first poll, or in the export. -/
def dropWorker (g : Gateway Digest) (jobId : String) : Option (Gateway Digest) :=
  match g.exports.lookup jobId with
  | none => none
  | some e =>
    match e.worker with
    -- once it has marked its job it awaits nothing any more
    | some ⟨.queued, true⟩ | some ⟨.running, true⟩ =>
      some (g.setExport jobId (e.workerAt .finishing))
    | _ => none

omit [SessionTokenDigest Digest] in
/-- `cancel_job_record`, which aborts the worker inside the lock. -/
def cancelJobRecord (g : Gateway Digest) (ownerUser jobId : String) : Gateway Digest :=
  let (_, aborted, s) := g.jobs.cancelJobRecord g.now g.now ownerUser jobId
  (g.setJobs s).abortFound aborted

/-! ### Steps -/

/-- What can happen next. The environment chooses the call that moves, the tokens and the
identifiers that are drawn, the orders in which maps are visited, and what the backend
answers. -/
inductive Action (Digest : Type) where
  | tick (secs : ℕ)
  | touch (token : String)
  | expire (token : String)
  | createSession (token user : String) (order : List Digest)
  | createStep (token : String)
  | authenticate (token : String) (result : Except GatewayError Unit)
  | dropCreate (token : String)
  | sweepOnce (id : ℕ) (order : List Digest)
  | sweepStep (id : ℕ)
  | deleteSession (id : ℕ) (token : String)
  | cancelJobs (id : ℕ) (order : List AbortHandle)
  | deleteStep (id : ℕ)
  | createReportExportJob (id : ℕ) (token reportId : String)
      (request : CreateReportExportRequest)
  | dropCheck (id : ℕ)
  | holdSession (id : ℕ) (jobId : String)
  | enqueueStep (jobId : String)
  | workerStep (jobId : String)
  | exportDone (jobId : String) (result : Except GatewayError JobArtifact)
  | dropWorker (jobId : String)
  | cancelJobRecord (ownerUser jobId : String)
  | jobSnapshot (ownerUser jobId : String)
  | jobArtifact (ownerUser jobId : String)
  | sweepExpiredJobs

/-- One step of any party. -/
def step (g : Gateway Digest) : Action Digest → Option (Gateway Digest)
  | .tick secs => some { g with now := g.now + secs }
  | .touch token => some (g.setSessions (g.sessions.touch g.now token).2)
  | .expire token => some (g.setSessions (g.sessions.expire token).2)
  | .createSession token user order => g.createSession token user order
  | .createStep token => g.createStep token
  | .authenticate token result => g.authenticate token result
  | .dropCreate token => g.dropCreate token
  | .sweepOnce id order => g.sweepOnce id order
  | .sweepStep id => g.sweepStep id
  | .deleteSession id token => g.deleteSession id token
  | .cancelJobs id order => g.cancelJobs id order
  | .deleteStep id => g.deleteStep id
  | .createReportExportJob id token reportId request =>
    g.createReportExportJob id token reportId request
  | .dropCheck id => g.dropCheck id
  | .holdSession id jobId => g.holdSession id jobId
  | .enqueueStep jobId => g.enqueueStep jobId
  | .workerStep jobId => g.workerStep jobId
  | .exportDone jobId result => g.exportDone jobId result
  | .dropWorker jobId => g.dropWorker jobId
  | .cancelJobRecord ownerUser jobId => some (g.cancelJobRecord ownerUser jobId)
  | .jobSnapshot ownerUser jobId => some (g.setJobs (g.jobs.jobSnapshot g.now ownerUser jobId).2)
  | .jobArtifact ownerUser jobId => some (g.setJobs (g.jobs.jobArtifact g.now ownerUser jobId).2)
  | .sweepExpiredJobs => some (g.setJobs (g.jobs.sweepExpiredJobs g.now).2)

end Gateway
end GvmGateway
