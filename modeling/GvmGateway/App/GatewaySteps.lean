import GvmGateway.App.Gateway
import GvmGateway.App.JobsTheorems
import GvmGateway.Domain.SessionTheorems

/-!
# What a step of the gateway can do

`Move` lists the steps of all calls, with their guards and the states they leave, and
`move_of_step` shows that `step` takes no others. What the steps preserve is proved from that
list; `step` is not unfolded again.
-/

namespace GvmGateway

open SessionTokenDigest SessionManager JobRegistryState

namespace Export

variable {Digest : Type}

/-- The record that `insert_job` creates for an export. -/
def newRecord (e : Export Digest) (jobId : String) : JobRecord Digest :=
  { ownerUser := e.ownerUser, sessionTokenDigest := e.session, job := e.job jobId,
    artifact := none, abortHandle := none, purgeAfterEpochSecs := none }

/-- The job that an export's record is inserted as has its identifier. -/
@[simp] theorem id_job (e : Export Digest) (jobId : String) : (e.job jobId).id = jobId := rfl

end Export

namespace Gateway

section Aborts

variable {Digest : Type}

/-! An abort changes nothing but one export. -/

/-- An abort leaves the sessions alone, and everything else but the workers. -/
@[simp] theorem sessions_abort (g : Gateway Digest) (handle : AbortHandle) :
    (g.abort handle).sessions = g.sessions := by
  unfold abort
  split <;> rfl

@[simp] theorem creates_abort (g : Gateway Digest) (handle : AbortHandle) :
    (g.abort handle).creates = g.creates := by
  unfold abort
  split <;> rfl

@[simp] theorem deletes_abort (g : Gateway Digest) (handle : AbortHandle) :
    (g.abort handle).deletes = g.deletes := by
  unfold abort
  split <;> rfl

@[simp] theorem jobs_abort (g : Gateway Digest) (handle : AbortHandle) :
    (g.abort handle).jobs = g.jobs := by
  unfold abort
  split <;> rfl

/-- An abort of a handle that may be missing leaves the sessions alone. -/
@[simp] theorem sessions_abortFound (g : Gateway Digest) (handle : Option AbortHandle) :
    (g.abortFound handle).sessions = g.sessions := by
  cases handle with
  | none => rfl
  | some handle => exact sessions_abort g handle

@[simp] theorem creates_abortFound (g : Gateway Digest) (handle : Option AbortHandle) :
    (g.abortFound handle).creates = g.creates := by
  cases handle with
  | none => rfl
  | some handle => exact creates_abort g handle

@[simp] theorem deletes_abortFound (g : Gateway Digest) (handle : Option AbortHandle) :
    (g.abortFound handle).deletes = g.deletes := by
  cases handle with
  | none => rfl
  | some handle => exact deletes_abort g handle

@[simp] theorem jobs_abortFound (g : Gateway Digest) (handle : Option AbortHandle) :
    (g.abortFound handle).jobs = g.jobs := by
  cases handle with
  | none => rfl
  | some handle => exact jobs_abort g handle

end Aborts

variable {Digest : Type} [DecidableEq Digest] [SessionTokenDigest Digest]

/-- The steps from a state of the gateway. -/
inductive Move (g : Gateway Digest) : Action Digest → Gateway Digest → Prop where
  -- single calls
  | tick (secs : ℕ) : Move g (.tick secs) { g with now := g.now + secs }
  | touch (token : String) :
      Move g (.touch token) (g.setSessions (g.sessions.touch g.now token).2)
  | expire (token : String) :
      Move g (.expire token)
        (g.setSessions (g.sessions.modify (fromToken token) StoredSession.markExpired))
  -- logins
  | loginRefused {token user : String} {order : List Digest} :
      Move g (.createSession token user order) g
  | loginOpened {token user : String} {order : List Digest}
      (fresh : g.creates.lookup (fromToken token) = none)
      (drained : order.Perm
        (expiredSessionDigests g.sessions.inner g.now g.sessions.idleTimeoutSecs)) :
      Move g (.createSession token user order)
        ((g.setSessions ((g.sessions.drained g.now).put (fromToken token)
          (.opened user g.now))).setCreate (fromToken token) (.disconnecting order))
  | loginDisconnects {token : String} {d : Digest} {pending : List Digest}
      (login : g.creates.lookup (fromToken token) = some (.disconnecting (d :: pending))) :
      Move g (.createStep token)
        ((g.disconnectSession d).setCreate (fromToken token) (.disconnecting pending))
  | loginAwaits {token : String}
      (login : g.creates.lookup (fromToken token) = some (.disconnecting [])) :
      Move g (.createStep token) (g.setCreate (fromToken token) .authenticating)
  | loginAccepted {token : String}
      (login : g.creates.lookup (fromToken token) = some .authenticating) :
      Move g (.authenticate token (.ok ()))
        ((g.connectSession (fromToken token)).setCreate (fromToken token) .connected)
  | loginRejected {token : String} {err : GatewayError}
      (login : g.creates.lookup (fromToken token) = some .authenticating) :
      Move g (.authenticate token (.error err))
        (g.setCreate (fromToken token) (.rejecting err))
  | loginRemoved {token : String} {err : GatewayError}
      (login : g.creates.lookup (fromToken token) = some (.rejecting err)) :
      Move g (.createStep token)
        ((g.setSessions (g.sessions.remove token).2).setCreate (fromToken token) (.failed err))
  | loginReturned {token : String}
      (login : g.creates.lookup (fromToken token) = some .connected) :
      Move g (.createStep token) (g.setCreate (fromToken token) .returned)
  | loginDropped {token : String}
      (login : g.creates.lookup (fromToken token) = some .authenticating) :
      Move g (.dropCreate token) (g.setCreate (fromToken token) .dropped)
  -- sweeps of the reaper
  | sweepDrained {id : ℕ} {order : List Digest} (free : g.sweeps.lookup id = none)
      (drained : order.Perm
        (expiredSessionDigests g.sessions.inner g.now g.sessions.idleTimeoutSecs)) :
      Move g (.sweepOnce id order)
        ((g.setSessions (g.sessions.drained g.now)).setSweep id order)
  | sweepDisconnects {id : ℕ} {d : Digest} {pending : List Digest}
      (sweep : g.sweeps.lookup id = some (d :: pending)) :
      Move g (.sweepStep id) ((g.disconnectSession d).setSweep id pending)
  | sweepEnded {id : ℕ} (sweep : g.sweeps.lookup id = some []) :
      Move g (.sweepStep id) (g.endSweep id)
  -- deletions
  | deleteMissed {id : ℕ} {token : String}
      (missing : g.sessions.inner.lookup (fromToken token) = none) :
      Move g (.deleteSession id token) (g.setSessions (g.sessions.remove token).2)
  | deleteRemoved {id : ℕ} {token : String} {s : StoredSession}
      (free : g.deletes.lookup id = none)
      (found : g.sessions.inner.lookup (fromToken token) = some s) :
      Move g (.deleteSession id token)
        ((g.setSessions (g.sessions.remove token).2).setDelete id
          { session := fromToken token, stage := .removed })
  | deleteCancels {id : ℕ} {d : Digest} {order : List AbortHandle}
      (delete : g.deletes.lookup id = some ⟨d, .removed⟩)
      (handles : order.Perm (g.jobs.cancelJobsForSession g.now g.now d).2.1) :
      Move g (.cancelJobs id order)
        ((g.setJobs (g.jobs.cancelJobsForSession g.now g.now d).2.2).setDelete id
          { session := d, stage := .aborting order })
  | deleteAborts {id : ℕ} {d : Digest} {handle : AbortHandle} {handles : List AbortHandle}
      (delete : g.deletes.lookup id = some ⟨d, .aborting (handle :: handles)⟩) :
      Move g (.deleteStep id)
        ((g.abort handle).setDelete id { session := d, stage := .aborting handles })
  | deleteAborted {id : ℕ} {d : Digest}
      (delete : g.deletes.lookup id = some ⟨d, .aborting []⟩) :
      Move g (.deleteStep id) (g.setDelete id { session := d, stage := .disconnecting })
  | deleteDisconnects {id : ℕ} {d : Digest}
      (delete : g.deletes.lookup id = some ⟨d, .disconnecting⟩) :
      Move g (.deleteStep id)
        ((g.disconnectSession d).setDelete id { session := d, stage := .returned })
  -- exports, until their sessions are held
  | checkRefused {id : ℕ} {token reportId : String} {request : CreateReportExportRequest} :
      Move g (.createReportExportJob id token reportId request)
        (g.setSessions (g.sessions.touch g.now token).2)
  | checkStarted {id : ℕ} {token reportId : String} {request : CreateReportExportRequest}
      {session : Session} :
      Move g (.createReportExportJob id token reportId request)
        ((g.setSessions (g.sessions.touch g.now token).2).setCheck id
          { session := session, reportId := reportId, request := request })
  | checkEnded {id : ℕ} : Move g (.dropCheck id) (g.endCheck id)
  | holdRefused {id : ℕ} {jobId : String} {check : ReportCheck}
      (checked : g.checks.lookup id = some check)
      (expired : ∀ s, g.sessions.inner.lookup (fromToken check.session.token) = some s →
        s.isExpiredAt g.now g.sessions.idleTimeoutSecs = true) :
      Move g (.holdSession id jobId)
        ((g.setSessions (g.sessions.modify (fromToken check.session.token)
          StoredSession.markExpired)).endCheck id)
  | held {id : ℕ} {jobId : String} {check : ReportCheck} {s : StoredSession}
      (checked : g.checks.lookup id = some check) (free : g.exports.lookup jobId = none)
      (session : g.sessions.inner.lookup (fromToken check.session.token) = some s)
      (active : s.state = .active) :
      Move g (.holdSession id jobId)
        (((g.setSessions (g.sessions.put (fromToken check.session.token)
          (s.held g.now))).endCheck id).setExport jobId
            { ownerUser := check.session.user, session := fromToken check.session.token,
              createdAt := g.now, reportId := check.reportId, request := check.request,
              enqueuer := .held, worker := none })
  -- enqueuers
  | insertRefused {jobId : String} {e : Export Digest}
      (task : g.exports.lookup jobId = some e) (stage : e.enqueuer = .held) :
      Move g (.enqueueStep jobId)
        ((g.setJobs (g.jobs.purged g.now)).setExport jobId (e.atStage .rejecting))
  | inserted {jobId : String} {e : Export Digest}
      (task : g.exports.lookup jobId = some e) (stage : e.enqueuer = .held)
      (room : g.jobs.HasRoom g.now) :
      Move g (.enqueueStep jobId)
        ((g.setJobs ((g.jobs.purged g.now).put jobId (e.newRecord jobId))).setExport jobId
          (e.atStage .inserted))
  | insertRejected {jobId : String} {e : Export Digest}
      (task : g.exports.lookup jobId = some e) (stage : e.enqueuer = .rejecting) :
      Move g (.enqueueStep jobId)
        ((g.setSessions (g.sessions.dropHold e.session)).setExport jobId
          (e.atStage .rejected))
  | spawned {jobId : String} {e : Export Digest}
      (task : g.exports.lookup jobId = some e) (stage : e.enqueuer = .inserted) :
      Move g (.enqueueStep jobId)
        (g.setExport jobId
          ((e.atStage .spawned).withWorker { stage := .queued, abortRequested := false }))
  | unregistered {jobId : String} {e : Export Digest}
      (task : g.exports.lookup jobId = some e) (stage : e.enqueuer = .spawned)
      (record : g.jobs.jobs.lookup jobId = none) :
      Move g (.enqueueStep jobId) (g.setExport jobId (e.atStage .returned))
  | registeredLate {jobId : String} {e : Export Digest} {r : JobRecord Digest}
      (task : g.exports.lookup jobId = some e) (stage : e.enqueuer = .spawned)
      (record : g.jobs.jobs.lookup jobId = some r) (done : r.job.status.isTerminal = true) :
      Move g (.enqueueStep jobId) ((g.setExport jobId (e.atStage .returned)).abort ⟨jobId⟩)
  | registered {jobId : String} {e : Export Digest} {r : JobRecord Digest}
      (task : g.exports.lookup jobId = some e) (stage : e.enqueuer = .spawned)
      (record : g.jobs.jobs.lookup jobId = some r) (live : r.job.status.isTerminal = false) :
      Move g (.enqueueStep jobId)
        ((g.setJobs (g.jobs.put jobId { r with abortHandle := some ⟨jobId⟩ })).setExport jobId
          (e.atStage .returned))
  -- workers
  | workerStarted {jobId : String} {e : Export Digest} {r : JobRecord Digest}
      (task : g.exports.lookup jobId = some e)
      (worker : e.worker.map Worker.stage = some .queued)
      (record : g.jobs.jobs.lookup jobId = some r) (live : r.job.status ≠ .cancelled) :
      Move g (.workerStep jobId)
        ((g.setJobs (g.jobs.put jobId (r.markRunning g.now))).setExport jobId
          (e.workerAt .running))
  -- its job was cancelled or purged
  | workerRefused {jobId : String} {e : Export Digest}
      (task : g.exports.lookup jobId = some e)
      (worker : e.worker.map Worker.stage = some .queued) :
      Move g (.workerStep jobId) (g.setExport jobId (e.workerAt .finishing))
  | exportMarked {jobId : String} {result : Except GatewayError JobArtifact}
      {e : Export Digest} {r r' : JobRecord Digest} (task : g.exports.lookup jobId = some e)
      (worker : e.worker.map Worker.stage = some .running)
      (record : g.jobs.jobs.lookup jobId = some r) (live : r.job.status ≠ .cancelled)
      (marked : (∃ artifact, result = .ok artifact ∧
          r' = r.markSucceeded jobId artifact g.now g.jobs.policy.terminalRetentionSecs) ∨
        ∃ error, result = .error error ∧
          r' = r.markFailed error g.now g.jobs.policy.terminalRetentionSecs) :
      Move g (.exportDone jobId result)
        ((g.setJobs (g.jobs.put jobId r')).setExport jobId (e.workerAt .finishing))
  -- its job was cancelled or purged
  | exportUnmarked {jobId : String} {result : Except GatewayError JobArtifact}
      {e : Export Digest} (task : g.exports.lookup jobId = some e)
      (worker : e.worker.map Worker.stage = some .running) :
      Move g (.exportDone jobId result) (g.setExport jobId (e.workerAt .finishing))
  | workerDropped {jobId : String} {e : Export Digest}
      (task : g.exports.lookup jobId = some e)
      (worker : e.worker.map Worker.stage = some .queued ∨
        e.worker.map Worker.stage = some .running) :
      Move g (.dropWorker jobId) (g.setExport jobId (e.workerAt .finishing))
  | workerFinished {jobId : String} {e : Export Digest}
      (task : g.exports.lookup jobId = some e)
      (worker : e.worker.map Worker.stage = some .finishing) :
      Move g (.workerStep jobId)
        ((g.setSessions (g.sessions.dropHold e.session)).setExport jobId
          (e.workerAt .finished))
  -- calls on the job registry
  | cancelled {ownerUser jobId : String} {r : JobRecord Digest}
      (record : (g.jobs.purged g.now).jobs.lookup jobId = some r)
      (live : r.job.status.isTerminal = false) :
      Move g (.cancelJobRecord ownerUser jobId)
        ((g.setJobs ((g.jobs.purged g.now).put jobId
          (r.markCancelled g.now g.jobs.policy.terminalRetentionSecs))).abortFound
          r.abortHandle)
  | notCancelled {ownerUser jobId : String} :
      Move g (.cancelJobRecord ownerUser jobId) (g.setJobs (g.jobs.purged g.now))
  | jobRead {ownerUser jobId : String} :
      Move g (.jobSnapshot ownerUser jobId) (g.setJobs (g.jobs.purged g.now))
  | artifactRead {ownerUser jobId : String} :
      Move g (.jobArtifact ownerUser jobId) (g.setJobs (g.jobs.purged g.now))
  | jobsSwept : Move g .sweepExpiredJobs (g.setJobs (g.jobs.purged g.now))

/-! ## There are no others -/

variable {g t : Gateway Digest} {token : String} {id : ℕ} {jobId : String}

/-- The first step of a login. -/
theorem createSession_move {user : String} {order : List Digest}
    (h : g.createSession token user order = some t) :
    g.Move (.createSession token user order) t := by
  unfold createSession at h
  split at h
  · cases h
  · next hfresh =>
    rcases g.sessions.createDrainingExpired_cases g.now token user with ⟨err, hfail⟩ | ⟨-, hdone⟩
    · rw [hfail] at h
      obtain rfl := Option.some.inj h
      exact .loginRefused
    · rw [hdone] at h
      rcases Option.ite_none_right_eq_some.mp h with ⟨hperm, ht⟩
      obtain rfl := Option.some.inj ht
      exact .loginOpened (Option.not_isSome_iff_eq_none.mp hfresh) hperm

/-- The later steps of a login, but for the answer of gvmd. -/
theorem createStep_move (h : g.createStep token = some t) : g.Move (.createStep token) t := by
  unfold createStep at h
  simp only at h
  split at h
  · next hlogin =>
    obtain rfl := Option.some.inj h
    exact .loginAwaits hlogin
  · next d pending hlogin =>
    obtain rfl := Option.some.inj h
    exact .loginDisconnects hlogin
  · next err hlogin =>
    obtain rfl := Option.some.inj h
    exact .loginRemoved hlogin
  · next hlogin =>
    obtain rfl := Option.some.inj h
    exact .loginReturned hlogin
  · cases h

theorem authenticate_move {result : Except GatewayError Unit}
    (h : g.authenticate token result = some t) : g.Move (.authenticate token result) t := by
  rcases Option.ite_none_right_eq_some.mp h with ⟨hlogin, ht⟩
  rcases result with err | _
  · obtain rfl := Option.some.inj ht
    exact .loginRejected hlogin
  · obtain rfl := Option.some.inj ht
    exact .loginAccepted hlogin

/-- The first step of the reaper. -/
theorem sweepOnce_move {order : List Digest} (h : g.sweepOnce id order = some t) :
    g.Move (.sweepOnce id order) t := by
  unfold sweepOnce drainExpired at h
  split at h
  · cases h
  · next hfree =>
    rcases Option.ite_none_right_eq_some.mp h with ⟨hperm, ht⟩
    obtain rfl := Option.some.inj ht
    exact .sweepDrained (Option.not_isSome_iff_eq_none.mp hfree) hperm

/-- Its later steps, one teardown after the other. -/
theorem sweepStep_move (h : g.sweepStep id = some t) : g.Move (.sweepStep id) t := by
  unfold sweepStep at h
  split at h
  · cases h
  · next hsweep =>
    obtain rfl := Option.some.inj h
    exact .sweepEnded hsweep
  · next d pending hsweep =>
    obtain rfl := Option.some.inj h
    exact .sweepDisconnects hsweep

/-- The first step of a logout. -/
theorem deleteSession_move (h : g.deleteSession id token = some t) :
    g.Move (.deleteSession id token) t := by
  unfold deleteSession at h
  split at h
  · cases h
  · next hfree =>
    rcases hs : g.sessions.inner.lookup (fromToken token) with _ | s
    · simp only [SessionManager.remove, hs, Option.map_none] at h
      obtain rfl := Option.some.inj h
      exact .deleteMissed hs
    · simp only [SessionManager.remove, hs, Option.map_some] at h
      obtain rfl := Option.some.inj h
      exact .deleteRemoved (Option.not_isSome_iff_eq_none.mp hfree) hs

/-- A logout cancels the jobs of its session. -/
theorem cancelJobs_move {order : List AbortHandle} (h : g.cancelJobs id order = some t) :
    g.Move (.cancelJobs id order) t := by
  unfold cancelJobs at h
  split at h
  · next d hdelete =>
    rcases Option.ite_none_right_eq_some.mp h with ⟨hperm, ht⟩
    obtain rfl := Option.some.inj ht
    exact .deleteCancels hdelete hperm
  · cases h

/-- A logout aborts the workers one after the other, and disconnects the session. -/
theorem deleteStep_move (h : g.deleteStep id = some t) : g.Move (.deleteStep id) t := by
  unfold deleteStep at h
  split at h
  · next d hdelete =>
    obtain rfl := Option.some.inj h
    exact .deleteAborted hdelete
  · next d handle handles hdelete =>
    obtain rfl := Option.some.inj h
    exact .deleteAborts hdelete
  · next d hdelete =>
    obtain rfl := Option.some.inj h
    exact .deleteDisconnects hdelete
  · cases h

/-- The first step of a request for an export. -/
theorem createReportExportJob_move {reportId : String} {request : CreateReportExportRequest}
    (h : g.createReportExportJob id token reportId request = some t) :
    g.Move (.createReportExportJob id token reportId request) t := by
  unfold createReportExportJob at h
  split at h
  · cases h
  · split at h
    · next m htouch =>
      have hm : (g.sessions.touch g.now token).2 = m := by rw [htouch]
      obtain rfl := Option.some.inj h
      rw [← hm]
      exact .checkRefused
    · next m htouch =>
      have hm : (g.sessions.touch g.now token).2 = m := by rw [htouch]
      obtain rfl := Option.some.inj h
      rw [← hm]
      exact .checkStarted

/-- An export holds its session. -/
theorem holdSession_move (h : g.holdSession id jobId = some t) :
    g.Move (.holdSession id jobId) t := by
  unfold holdSession at h
  split at h
  · cases h
  · next check hcheck =>
    split at h
    · cases h
    · next hfree =>
      rcases hold_cases g.sessions g.now check.session.token with
        ⟨err, hfail, hexpired⟩ | ⟨s, hs, hactive, hdone⟩
      · rw [hfail] at h
        obtain rfl := Option.some.inj h
        exact .holdRefused hcheck hexpired
      · rw [hdone] at h
        obtain rfl := Option.some.inj h
        exact .held hcheck (Option.not_isSome_iff_eq_none.mp hfree) hs hactive

/-- An export inserts its record and spawns its worker. -/
theorem enqueueStep_move (h : g.enqueueStep jobId = some t) :
    g.Move (.enqueueStep jobId) t := by
  unfold enqueueStep at h
  split at h
  · cases h
  · next e htask =>
    split at h
    · next hstage =>
      -- `insert_job`
      rcases g.jobs.insertJob_cases g.now e.ownerUser e.session (e.job jobId) with
        ⟨err, hins⟩ | ⟨hroom, hins⟩
      · rw [hins] at h
        obtain rfl := Option.some.inj h
        exact .insertRefused htask hstage
      · rw [hins, e.id_job jobId] at h
        obtain rfl := Option.some.inj h
        exact .inserted htask hstage hroom
    · next hstage =>
      obtain rfl := Option.some.inj h
      exact .insertRejected htask hstage
    · next hstage =>
      obtain rfl := Option.some.inj h
      exact .spawned htask hstage
    · next hstage =>
      -- `set_job_abort_handle`: no record any more, a terminal one, or a live one
      rcases g.jobs.setJobAbortHandle_cases jobId ⟨jobId⟩ with
        ⟨hrecord, hset⟩ | ⟨r, hrecord, ⟨hdone, hset⟩ | ⟨hopen, hset⟩⟩
      · rw [hset] at h
        obtain rfl := Option.some.inj h
        exact .unregistered htask hstage hrecord
      · rw [hset] at h
        obtain rfl := Option.some.inj h
        exact .registeredLate htask hstage hrecord hdone
      · rw [hset] at h
        obtain rfl := Option.some.inj h
        exact .registered htask hstage hrecord hopen
    · cases h
    · cases h

/-- A worker starts, and finishes. -/
theorem workerStep_move (h : g.workerStep jobId = some t) : g.Move (.workerStep jobId) t := by
  unfold workerStep at h
  split at h
  · cases h
  · next e htask =>
    split at h
    · next hworker =>
      rcases g.jobs.markJobRunning_cases g.now jobId with
        ⟨err, hmark⟩ | ⟨r, hrecord, hlive, hmark⟩
      · rw [hmark] at h
        obtain rfl := Option.some.inj h
        exact .workerRefused htask hworker
      · rw [hmark] at h
        obtain rfl := Option.some.inj h
        exact .workerStarted htask hworker hrecord hlive
    · next hworker =>
      obtain rfl := Option.some.inj h
      exact .workerFinished htask hworker
    · cases h

/-- A worker whose export has ended marks the job, or finds it cancelled or purged. -/
theorem completeJob_move {result : Except GatewayError JobArtifact} {e : Export Digest}
    {complete : JobRecord Digest → JobRecord Digest} (htask : g.exports.lookup jobId = some e)
    (hworker : e.worker.map Worker.stage = some .running)
    (hcomplete : ∀ r, (∃ artifact, result = .ok artifact ∧
        complete r = r.markSucceeded jobId artifact g.now g.jobs.policy.terminalRetentionSecs) ∨
      ∃ error, result = .error error ∧
        complete r = r.markFailed error g.now g.jobs.policy.terminalRetentionSecs) :
    g.Move (.exportDone jobId result) ((g.setJobs (g.jobs.completeJob jobId complete).2).setExport
      jobId (e.workerAt .finishing)) := by
  rcases g.jobs.completeJob_cases jobId complete with hmark | ⟨r, hrecord, hlive, hmark⟩
  · rw [hmark]
    exact .exportUnmarked htask hworker
  · rw [hmark]
    exact .exportMarked htask hworker hrecord hlive (hcomplete r)

/-- The export of a worker ends, with the artifact or an error. -/
theorem exportDone_move {result : Except GatewayError JobArtifact}
    (h : g.exportDone jobId result = some t) : g.Move (.exportDone jobId result) t := by
  unfold exportDone at h
  split at h
  · cases h
  · next e htask =>
    rcases Option.ite_none_right_eq_some.mp h with ⟨hworker, ht⟩
    rcases result with err | artifact
    · obtain rfl := Option.some.inj ht
      exact completeJob_move htask hworker fun r => .inr ⟨err, rfl, rfl⟩
    · obtain rfl := Option.some.inj ht
      exact completeJob_move htask hworker fun r => .inl ⟨artifact, rfl, rfl⟩

/-- An aborted worker is dropped. -/
theorem dropWorker_move (h : g.dropWorker jobId = some t) : g.Move (.dropWorker jobId) t := by
  unfold dropWorker at h
  split at h
  · cases h
  · next e htask =>
    split at h
    · next hw =>
      obtain rfl := Option.some.inj h
      exact .workerDropped htask (.inl (by rw [hw]; rfl))
    · next hw =>
      obtain rfl := Option.some.inj h
      exact .workerDropped htask (.inr (by rw [hw]; rfl))
    · cases h

/-- A cancellation by the owner, whether it finds the job or not. -/
theorem cancelJobRecord_move (g : Gateway Digest) (ownerUser jobId : String) :
    g.Move (.cancelJobRecord ownerUser jobId) (g.cancelJobRecord ownerUser jobId) := by
  unfold cancelJobRecord
  rcases g.jobs.cancelJobRecord_cases g.now g.now ownerUser jobId with
    ⟨result, hcancel⟩ | ⟨r, hrecord, -, hopen, hcancel⟩
  · rw [hcancel]
    exact .notCancelled
  · rw [hcancel]
    exact .cancelled hrecord hopen

/-- Every step is one of the list. -/
theorem move_of_step {a : Action Digest} (h : g.step a = some t) : g.Move a t := by
  cases a with
  | tick secs =>
    obtain rfl := Option.some.inj h
    exact .tick secs
  | touch token =>
    obtain rfl := Option.some.inj h
    exact .touch token
  | expire token =>
    obtain rfl := Option.some.inj h
    rw [expire_eq_modify]
    exact .expire token
  | createSession token user order => exact createSession_move h
  | createStep token => exact createStep_move h
  | authenticate token result => exact authenticate_move h
  | dropCreate token =>
    rcases Option.ite_none_right_eq_some.mp h with ⟨hlogin, ht⟩
    obtain rfl := Option.some.inj ht
    exact .loginDropped hlogin
  | sweepOnce id order => exact sweepOnce_move h
  | sweepStep id => exact sweepStep_move h
  | deleteSession id token => exact deleteSession_move h
  | cancelJobs id order => exact cancelJobs_move h
  | deleteStep id => exact deleteStep_move h
  | createReportExportJob id token reportId request => exact createReportExportJob_move h
  | dropCheck id =>
    rcases Option.ite_none_right_eq_some.mp h with ⟨-, ht⟩
    obtain rfl := Option.some.inj ht
    exact .checkEnded
  | holdSession id jobId => exact holdSession_move h
  | enqueueStep jobId => exact enqueueStep_move h
  | workerStep jobId => exact workerStep_move h
  | exportDone jobId result => exact exportDone_move h
  | dropWorker jobId => exact dropWorker_move h
  | cancelJobRecord ownerUser jobId =>
    obtain rfl := Option.some.inj h
    exact cancelJobRecord_move g ownerUser jobId
  | jobSnapshot ownerUser jobId =>
    obtain rfl := Option.some.inj h
    exact .jobRead
  | jobArtifact ownerUser jobId =>
    obtain rfl := Option.some.inj h
    exact .artifactRead
  | sweepExpiredJobs =>
    obtain rfl := Option.some.inj h
    exact .jobsSwept

end Gateway
end GvmGateway
