import GvmGateway.App.GatewaySteps

/-!
# The life of one job

What the gateway knows about one job: the export it belongs to (the call that enqueues it,
and its worker), its record in the registry, and the abort requests for its worker that
`cancel_jobs_for_session` calls have yet to make. The steps are what any step of the gateway
can do to one job, and the laws of a job are proved here once.
-/

namespace GvmGateway

/-! ## Records -/

namespace JobRecord

variable {Digest : Type}

/-- The fields of a record are in step with its status. -/
structure WellFormed (r : JobRecord Digest) : Prop where
  purgeAfter : r.purgeAfterEpochSecs.isSome = r.job.status.isTerminal
  completedAt : r.job.completedAt.isSome = r.job.status.isTerminal
  expiresAt : r.job.expiresAt.isSome = r.job.status.isTerminal
  artifact : r.artifact.isSome ↔ r.job.status = .succeeded
  result : r.job.result.isSome ↔ r.job.status = .succeeded
  resultLocation : r.job.resultLocation.isSome ↔ r.job.status = .succeeded
  error : r.job.error.isSome ↔ r.job.status = .failed
  abortHandle : r.job.status.isTerminal = true → r.abortHandle = none

variable {r : JobRecord Digest} {now retentionSecs : ℕ}

/-- A record that is not terminal has none of the fields that a final status sets. -/
theorem WellFormed.unset (hr : r.WellFormed) (hopen : r.job.status.isTerminal = false) :
    r.purgeAfterEpochSecs = none ∧ r.job.completedAt = none ∧ r.job.expiresAt = none ∧
      r.artifact = none ∧ r.job.result = none ∧ r.job.resultLocation = none ∧
      r.job.error = none := by
  have hsucceeded : r.job.status ≠ .succeeded := by
    intro h
    rw [h] at hopen
    exact absurd hopen (by decide)
  have hfailed : r.job.status ≠ .failed := by
    intro h
    rw [h] at hopen
    exact absurd hopen (by decide)
  refine ⟨?_, ?_, ?_, ?_, ?_, ?_, ?_⟩ <;> rw [← Option.not_isSome_iff_eq_none]
  · simp [hr.purgeAfter, hopen]
  · simp [hr.completedAt, hopen]
  · simp [hr.expiresAt, hopen]
  · simp [hr.artifact, hsucceeded]
  · simp [hr.result, hsucceeded]
  · simp [hr.resultLocation, hsucceeded]
  · simp [hr.error, hfailed]

theorem WellFormed.markRunning (hr : r.WellFormed) (hopen : r.job.status.isTerminal = false) :
    (r.markRunning now).WellFormed := by
  rcases hr.unset hopen with ⟨h1, h2, h3, h4, h5, h6, h7⟩
  constructor <;> simp [JobRecord.markRunning, JobStatus.isTerminal, *]

theorem WellFormed.markSucceeded (hr : r.WellFormed)
    (hopen : r.job.status.isTerminal = false) (jobId : String) (artifact : JobArtifact) :
    (r.markSucceeded jobId artifact now retentionSecs).WellFormed := by
  rcases hr.unset hopen with ⟨h1, h2, h3, h4, h5, h6, h7⟩
  constructor <;> simp [JobRecord.markSucceeded, JobStatus.isTerminal, *]

theorem WellFormed.markFailed (hr : r.WellFormed) (hopen : r.job.status.isTerminal = false)
    (error : GatewayError) : (r.markFailed error now retentionSecs).WellFormed := by
  rcases hr.unset hopen with ⟨h1, h2, h3, h4, h5, h6, h7⟩
  constructor <;> simp [JobRecord.markFailed, JobStatus.isTerminal, *]

theorem WellFormed.markCancelled (hr : r.WellFormed)
    (hopen : r.job.status.isTerminal = false) :
    (r.markCancelled now retentionSecs).WellFormed := by
  rcases hr.unset hopen with ⟨h1, h2, h3, h4, h5, h6, h7⟩
  constructor <;> simp [JobRecord.markCancelled, JobStatus.isTerminal, *]

/-- A handle may be registered while the job is not terminal. -/
theorem WellFormed.setHandle (hr : r.WellFormed) (hopen : r.job.status.isTerminal = false)
    (handle : AbortHandle) : WellFormed { r with abortHandle := some handle } where
  purgeAfter := hr.purgeAfter
  completedAt := hr.completedAt
  expiresAt := hr.expiresAt
  artifact := hr.artifact
  result := hr.result
  resultLocation := hr.resultLocation
  error := hr.error
  abortHandle := fun hdone => absurd (hopen.symm.trans hdone) Bool.false_ne_true

end JobRecord

theorem Export.status_newRecord {Digest : Type} (e : Export Digest) (jobId : String) :
    (e.newRecord jobId).job.status = .queued := rfl

theorem Export.wellFormed_newRecord {Digest : Type} (e : Export Digest) (jobId : String) :
    (e.newRecord jobId).WellFormed := by
  constructor <;> simp [newRecord, job, reportExportJob, JobStatus.isTerminal]

/-! ## The automaton -/

/-- One job, as the gateway sees it. -/
@[ext]
structure JobView (Digest : Type) where
  task : Option (Export Digest)
  record : Option (JobRecord Digest)
  pendingAborts : ℕ

namespace JobView

variable {Digest : Type}

/-- The worker of the job is asked to stop. -/
def aborted (v : JobView Digest) : JobView Digest :=
  { v with task := v.task.map Export.abortRequested }

/-- What can happen to a job in one step; `admits` says whether the step may insert it. -/
inductive Step (jobId : String) (admits : Prop) (v : JobView Digest) :
    JobView Digest → Prop where
  | idle : Step jobId admits v v
  | purged {r : JobRecord Digest} (record : v.record = some r)
      (due : r.purgeAfterEpochSecs.isSome = true) : Step jobId admits v { v with record := none }
  | held {e : Export Digest} (task : v.task = none) (stage : e.enqueuer = .held)
      (worker : e.worker = none) : Step jobId admits v { v with task := some e }
  | inserted {e : Export Digest} (task : v.task = some e) (stage : e.enqueuer = .held)
      (admitted : admits) :
      Step jobId admits v
        { v with task := some (e.atStage .inserted), record := some (e.newRecord jobId) }
  | refused {e : Export Digest} (task : v.task = some e) (stage : e.enqueuer = .held) :
      Step jobId admits v { v with task := some (e.atStage .rejecting) }
  | rejected {e : Export Digest} (task : v.task = some e) (stage : e.enqueuer = .rejecting) :
      Step jobId admits v { v with task := some (e.atStage .rejected) }
  | spawned {e : Export Digest} (task : v.task = some e) (stage : e.enqueuer = .inserted) :
      Step jobId admits v { v with task := some ((e.atStage .spawned).withWorker
        { stage := .queued, abortRequested := false }) }
  /-- The handle of the worker is registered. -/
  | registered {e : Export Digest} {r : JobRecord Digest} (task : v.task = some e)
      (stage : e.enqueuer = .spawned) (record : v.record = some r)
      (live : r.job.status.isTerminal = false) :
      Step jobId admits v { v with
        task := some (e.atStage .returned),
        record := some { r with abortHandle := some ⟨jobId⟩ } }
  /-- The job was terminal before its handle could be registered. -/
  | registeredLate {e : Export Digest} {r : JobRecord Digest} (task : v.task = some e)
      (stage : e.enqueuer = .spawned) (record : v.record = some r)
      (done : r.job.status.isTerminal = true) :
      Step jobId admits v { v with task := some (e.atStage .returned).abortRequested }
  /-- The record was purged before the handle could be registered. -/
  | unregistered {e : Export Digest} (task : v.task = some e) (stage : e.enqueuer = .spawned)
      (record : v.record = none) : Step jobId admits v { v with task := some (e.atStage .returned) }
  | started {e : Export Digest} {r : JobRecord Digest} {now : ℕ} (task : v.task = some e)
      (worker : e.worker.map Worker.stage = some .queued) (record : v.record = some r)
      (live : r.job.status ≠ .cancelled) :
      Step jobId admits v { v with
        task := some (e.workerAt .running), record := some (r.markRunning now) }
  | completed {e : Export Digest} {r r' : JobRecord Digest} {now retentionSecs : ℕ}
      (task : v.task = some e) (worker : e.worker.map Worker.stage = some .running)
      (record : v.record = some r) (live : r.job.status ≠ .cancelled)
      (marked : (∃ artifact, r' = r.markSucceeded jobId artifact now retentionSecs) ∨
        ∃ error, r' = r.markFailed error now retentionSecs) :
      Step jobId admits v { v with task := some (e.workerAt .finishing), record := some r' }
  /-- The worker is dropped, or ends without marking the job. -/
  | stopped {e : Export Digest} (task : v.task = some e)
      (worker : e.worker.map Worker.stage = some .queued ∨
        e.worker.map Worker.stage = some .running) :
      Step jobId admits v { v with task := some (e.workerAt .finishing) }
  | finished {e : Export Digest} (task : v.task = some e)
      (worker : e.worker.map Worker.stage = some .finishing) :
      Step jobId admits v { v with task := some (e.workerAt .finished) }
  /-- The job is cancelled, and no handle was registered. -/
  | cancelled {r : JobRecord Digest} {now retentionSecs : ℕ} (record : v.record = some r)
      (live : r.job.status.isTerminal = false) (handle : r.abortHandle = none) :
      Step jobId admits v { v with record := some (r.markCancelled now retentionSecs) }
  /-- The job is cancelled, and its worker aborted in the same step. -/
  | cancelledAborting {r : JobRecord Digest} {now retentionSecs : ℕ}
      (record : v.record = some r) (live : r.job.status.isTerminal = false)
      (handle : r.abortHandle = some ⟨jobId⟩) :
      Step jobId admits v { v.aborted with record := some (r.markCancelled now retentionSecs) }
  /-- The job is cancelled, and its handle goes on the list of handles to abort. -/
  | cancelledCollecting {r : JobRecord Digest} {now retentionSecs : ℕ}
      (record : v.record = some r) (live : r.job.status.isTerminal = false)
      (handle : r.abortHandle = some ⟨jobId⟩) :
      Step jobId admits v { v with
        record := some (r.markCancelled now retentionSecs),
        pendingAborts := v.pendingAborts + 1 }
  | abortDelivered {n : ℕ} (pending : v.pendingAborts = n + 1) :
      Step jobId admits v { v.aborted with pendingAborts := n }

/-! ## The laws of a job -/

/-- The statuses a job can have at a stage of its worker. -/
def Expected : Option WorkerStage → JobStatus → Prop
  | none, s | some .queued, s => s = .queued ∨ s = .cancelled
  | some .running, s => s = .running ∨ s = .cancelled
  | some .finishing, _ | some .finished, _ => True

/-- What holds of an export and the record of its job. -/
structure Agrees (jobId : String) (e : Export Digest) (r : JobRecord Digest)
    (pendingAborts : ℕ) : Prop where
  wellFormed : r.WellFormed
  expected : Expected (e.worker.map Worker.stage) r.job.status
  /-- A job that is not terminal has its worker's handle from its registration on. -/
  handle : r.job.status.isTerminal = false →
    r.abortHandle = if e.enqueuer = .returned then some ⟨jobId⟩ else none
  /-- Once the enqueuer has returned, a cancelled job's worker has been asked to stop, or
  the call that cancelled it is about to ask. -/
  cancelled : e.enqueuer = .returned → r.job.status = .cancelled →
    ∀ w, e.worker = some w → w.abortRequested = true ∨ 0 < pendingAborts

/-- What holds of an export, with its record or without. -/
structure TaskInv (jobId : String) (e : Export Digest) (record : Option (JobRecord Digest))
    (pendingAborts : ℕ) : Prop where
  /-- The record is inserted by the enqueuer, once. -/
  early : e.enqueuer = .held ∨ e.enqueuer = .rejecting ∨ e.enqueuer = .rejected →
    record = none
  worker : e.worker.isSome = true ↔ e.enqueuer = .spawned ∨ e.enqueuer = .returned
  unregistered : e.enqueuer ≠ .returned → pendingAborts = 0
  agrees : ∀ r, record = some r → Agrees jobId e r pendingAborts

/-- What holds of every job at any time. -/
def Inv (jobId : String) (v : JobView Digest) : Prop :=
  match v.task with
  | none => v.record = none ∧ v.pendingAborts = 0
  | some e => TaskInv jobId e v.record v.pendingAborts

variable {jobId : String} {admits : Prop} {v v' : JobView Digest} {e : Export Digest}
  {r : JobRecord Digest}

theorem inv_some (task : v.task = some e) :
    v.Inv jobId ↔ TaskInv jobId e v.record v.pendingAborts := by
  rw [Inv, task]

/-- A record belongs to an export. -/
theorem task_of_record (hv : v.Inv jobId) (record : v.record = some r) :
    ∃ e, v.task = some e ∧ TaskInv jobId e (some r) v.pendingAborts := by
  unfold Inv at hv
  split at hv
  · rw [record] at hv
    exact absurd hv.1 (by simp)
  · next e task => exact ⟨e, task, record ▸ hv⟩

/-- A job whose worker runs or waits for its first poll is terminal only by cancellation. -/
theorem live_of_expected {n : ℕ} (h : Agrees jobId e r n)
    (worker : e.worker.map Worker.stage = some .queued ∨
      e.worker.map Worker.stage = some .running) (hne : r.job.status ≠ .cancelled) :
    r.job.status.isTerminal = false := by
  have hexpected := h.expected
  rcases worker with h | h <;> rw [h] at hexpected <;> rcases hexpected with h | h
  · rw [h]
    rfl
  · exact absurd h hne
  · rw [h]
    rfl
  · exact absurd h hne

/-! The steps that concern the enqueuer. -/

/-- Before the spawn there is no worker. -/
theorem worker_eq_none {record : Option (JobRecord Digest)} {n : ℕ}
    (h : TaskInv jobId e record n) (hspawned : e.enqueuer ≠ .spawned)
    (hreturned : e.enqueuer ≠ .returned) : e.worker = none := by
  by_contra hne
  rcases h.worker.mp (Option.isSome_iff_ne_none.mpr hne) with hlate | hlate
  · exact hspawned hlate
  · exact hreturned hlate

theorem taskInv_held (stage : e.enqueuer = .held) (worker : e.worker = none) :
    TaskInv jobId e none 0 where
  early := fun _ => rfl
  worker := by simp [stage, worker]
  unregistered := fun _ => rfl
  agrees := fun _ hr => absurd hr (by simp)

theorem taskInv_inserted {record : Option (JobRecord Digest)} {n : ℕ}
    (h : TaskInv jobId e record n) (stage : e.enqueuer = .held) :
    TaskInv jobId (e.atStage .inserted) (some (e.newRecord jobId)) n := by
  have hworker : e.worker = none := worker_eq_none h (by simp [stage]) (by simp [stage])
  refine ⟨?_, ?_, fun _ => h.unregistered (by simp [stage]), ?_⟩
  · simp [Export.atStage]
  · simp [Export.atStage, hworker]
  · rintro r hr
    cases hr
    refine ⟨e.wellFormed_newRecord jobId, ?_, ?_, ?_⟩
    · simp [Export.atStage, hworker, Expected, Export.status_newRecord]
    · simp [Export.atStage, Export.newRecord]
    · simp [Export.atStage]

theorem taskInv_enqueuer {record : Option (JobRecord Digest)} {n : ℕ} {stage : EnqueueStage}
    (h : TaskInv jobId e record n) (old : e.enqueuer = .held ∨ e.enqueuer = .rejecting)
    (hstage : stage = .rejecting ∨ stage = .rejected) :
    TaskInv jobId (e.atStage stage) record n := by
  have hrecord : record = none := h.early (by tauto)
  have hworker : e.worker = none := by
    apply worker_eq_none h <;> rcases old with h | h <;> simp [h]
  have hpend : n = 0 := h.unregistered (by rcases old with h | h <;> simp [h])
  refine ⟨fun _ => hrecord, ?_, fun _ => hpend, fun r hr => ?_⟩
  · rcases hstage with rfl | rfl <;> simp [Export.atStage, hworker]
  · rw [hrecord] at hr
    exact absurd hr (by simp)

theorem taskInv_spawned {record : Option (JobRecord Digest)} {n : ℕ}
    (h : TaskInv jobId e record n) (stage : e.enqueuer = .inserted) :
    TaskInv jobId
      ((e.atStage .spawned).withWorker { stage := .queued, abortRequested := false })
      record n := by
  have hworker : e.worker = none := worker_eq_none h (by simp [stage]) (by simp [stage])
  refine ⟨?_, ?_, fun _ => h.unregistered (by simp [stage]), fun r hr => ?_⟩
  · simp [Export.atStage, Export.withWorker]
  · simp [Export.atStage, Export.withWorker]
  · have hr := h.agrees r hr
    have hexpected := hr.expected
    rw [hworker] at hexpected
    refine ⟨hr.wellFormed, hexpected, fun hopen => ?_, ?_⟩
    · rw [hr.handle hopen, stage]
      rfl
    · simp [Export.atStage, Export.withWorker]

/-- The enqueuer returns, having registered the handle, found the job terminal and aborted
the worker, or found no record. -/
theorem taskInv_returned {record record' : Option (JobRecord Digest)} {e' : Export Digest}
    {n : ℕ} (h : TaskInv jobId e record n) (stage : e.enqueuer = .spawned)
    (henqueuer : e'.enqueuer = .returned)
    (hworker : e'.worker.map Worker.stage = e.worker.map Worker.stage)
    (hrecord : ∀ r', record' = some r' → ∃ r, record = some r ∧ r'.WellFormed ∧
      r'.job.status = r.job.status ∧
      (r.job.status.isTerminal = false → r'.abortHandle = some ⟨jobId⟩) ∧
      (r.job.status = .cancelled → ∀ w, e'.worker = some w → w.abortRequested = true)) :
    TaskInv jobId e' record' n := by
  have hsome : e'.worker.isSome = e.worker.isSome := by
    rw [← Option.isSome_map (f := Worker.stage), hworker, Option.isSome_map]
  refine ⟨?_, ?_, fun hne => absurd henqueuer hne, fun r' hr' => ?_⟩
  · simp [henqueuer]
  · rw [hsome, h.worker]
    simp [stage, henqueuer]
  · rcases hrecord r' hr' with ⟨r, hr, hwell, hstatus, hhandle, habort⟩
    have hr := h.agrees r hr
    refine ⟨hwell, ?_, fun hopen => ?_, fun _ hcancelled w hw => ?_⟩
    · rw [hworker, hstatus]
      exact hr.expected
    · rw [if_pos henqueuer]
      exact hhandle (hstatus ▸ hopen)
    · exact .inl (habort (hstatus ▸ hcancelled) w hw)

/-! The steps that concern the worker. -/

theorem isSome_worker_of_stage {stage : WorkerStage}
    (h : e.worker.map Worker.stage = some stage) : e.worker.isSome = true := by
  rw [← Option.isSome_map (f := Worker.stage), h]
  rfl

theorem abortRequested_of_worker {w : Worker} (h : e.abortRequested.worker = some w) :
    w.abortRequested = true := by
  simp only [Export.abortRequested, Option.map_eq_some_iff] at h
  obtain ⟨old, -, rfl⟩ := h
  rfl

/-- The worker goes on to another stage, and may mark the job. -/
theorem taskInv_workerAt {record record' : Option (JobRecord Digest)} {n : ℕ}
    {stage : WorkerStage} (h : TaskInv jobId e record n) (hsome : e.worker.isSome = true)
    (hrecord : ∀ r', record' = some r' → ∃ r, record = some r ∧ r'.WellFormed ∧
      Expected (some stage) r'.job.status ∧
      (r'.job.status.isTerminal = false →
        r.job.status.isTerminal = false ∧ r'.abortHandle = r.abortHandle) ∧
      (r'.job.status = .cancelled → r.job.status = .cancelled)) :
    TaskInv jobId (e.workerAt stage) record' n := by
  have hlate := h.worker.mp hsome
  refine ⟨?_, ?_, h.unregistered, fun r' hr' => ?_⟩
  · intro hearly
    rcases hlate with hl | hl <;> simp [Export.workerAt, hl] at hearly
  · simp only [Export.workerAt, Option.isSome_map]
    exact h.worker
  · rcases hrecord r' hr' with ⟨r, hr, hwell, hexpected, hhandle, hcancelled⟩
    have hr := h.agrees r hr
    refine ⟨hwell, ?_, fun hopen => ?_, fun hreturned hdone w hw => ?_⟩
    · rcases hw : e.worker with _ | w
      · simp [hw] at hsome
      · simpa [Export.workerAt, hw] using hexpected
    -- a job that is still open keeps the handle that it had
    · rw [(hhandle hopen).2]
      exact hr.handle (hhandle hopen).1
    · rcases hold : e.worker with _ | old
      · simp [hold] at hsome
      · have hsame : old.abortRequested = w.abortRequested := by
          simp only [Export.workerAt, hold, Option.map_some, Option.some.injEq] at hw
          rw [← hw]
        rw [← hsame]
        exact hr.cancelled hreturned (hcancelled hdone) old hold

/-! The steps that concern the record. -/

/-- The worker is asked to stop. -/
theorem taskInv_abort {record : Option (JobRecord Digest)} {n m : ℕ}
    (h : TaskInv jobId e record n) (hm : e.enqueuer ≠ .returned → m = 0) :
    TaskInv jobId e.abortRequested record m := by
  refine ⟨h.early, ?_, hm, fun r hr => ?_⟩
  · simp only [Export.abortRequested, Option.isSome_map]
    exact h.worker
  · have hr := h.agrees r hr
    refine ⟨hr.wellFormed, ?_, hr.handle, fun _ _ w hw => ?_⟩
    · have hstage : e.abortRequested.worker.map Worker.stage = e.worker.map Worker.stage := by
        simp [Export.abortRequested, Function.comp_def]
      rw [hstage]
      exact hr.expected
    · left
      rcases hold : e.worker with _ | old
      · simp [Export.abortRequested, hold] at hw
      · simp only [Export.abortRequested, hold, Option.map_some, Option.some.injEq] at hw
        rw [← hw]

/-- The job is cancelled: a registered handle is used, or goes on a list. -/
theorem taskInv_cancelled {n m : ℕ} {now retentionSecs : ℕ}
    (h : TaskInv jobId e (some r) n) (live : r.job.status.isTerminal = false)
    (hm : e.enqueuer ≠ .returned → m = 0)
    (hdelivered : e.enqueuer = .returned →
      ∀ w, e.worker = some w → w.abortRequested = true ∨ 0 < m) :
    TaskInv jobId e (some (r.markCancelled now retentionSecs)) m := by
  have hr := h.agrees r rfl
  refine ⟨fun hearly => ?_, h.worker, hm, fun r' hr' => ?_⟩
  · exact absurd (h.early hearly) (by simp)
  · cases hr'
    refine ⟨hr.wellFormed.markCancelled live, ?_, fun hopen => ?_, fun hreturned _ => ?_⟩
    · rcases e.worker.map Worker.stage with _ | stage
      · exact .inr rfl
      · cases stage <;> first | exact .inr rfl | trivial
    · exact absurd hopen (by simp [JobRecord.markCancelled, JobStatus.isTerminal])
    · exact hdelivered hreturned

/-- The laws are kept by every event. -/
theorem inv_step (hv : v.Inv jobId) (h : Step jobId admits v v') : v'.Inv jobId := by
  cases h with
  | idle => exact hv
  | purged record due =>
    rcases task_of_record hv record with ⟨e, task, he⟩
    rw [Inv, task]
    exact ⟨fun _ => rfl, he.worker, he.unregistered, fun _ hr => absurd hr (by simp)⟩
  | held task stage worker =>
    rw [Inv, task] at hv
    rw [Inv, hv.1, hv.2]
    exact taskInv_held stage worker
  | inserted task stage => exact taskInv_inserted ((inv_some task).mp hv) stage
  | refused task stage =>
    exact taskInv_enqueuer ((inv_some task).mp hv) (.inl stage) (.inl rfl)
  | rejected task stage =>
    exact taskInv_enqueuer ((inv_some task).mp hv) (.inr stage) (.inr rfl)
  | spawned task stage => exact taskInv_spawned ((inv_some task).mp hv) stage
  | @registered e r task stage record live =>
    have he := (inv_some task).mp hv
    have hr := he.agrees r record
    refine taskInv_returned he stage rfl rfl fun r' hr' => ⟨r, record, ?_⟩
    cases hr'
    refine ⟨hr.wellFormed.setHandle live _, rfl, fun _ => rfl, fun hcancelled => ?_⟩
    rw [hcancelled] at live
    exact absurd live (by decide)
  | @registeredLate e r task stage record done =>
    have he := (inv_some task).mp hv
    refine taskInv_returned he stage rfl ?_ fun r' hr' => ⟨r', hr', ?_⟩
    · simp [Export.abortRequested, Export.atStage, Function.comp_def]
    · obtain rfl : r = r' := Option.some.inj (record.symm.trans hr')
      refine ⟨(he.agrees r record).wellFormed, rfl, fun hopen => ?_, fun _ w hw => ?_⟩
      · exact absurd (hopen.symm.trans done) Bool.false_ne_true
      · exact abortRequested_of_worker hw
  | unregistered task stage record =>
    have he := (inv_some task).mp hv
    refine taskInv_returned he stage rfl rfl fun r' hr' => ?_
    exact absurd (record.symm.trans hr') (by simp)
  | @started e r now task worker record live =>
    have he := (inv_some task).mp hv
    have hr := he.agrees r record
    have hopen := live_of_expected hr (.inl worker) live
    refine taskInv_workerAt he (isSome_worker_of_stage worker) fun r' hr' => ⟨r, record, ?_⟩
    cases hr'
    exact ⟨hr.wellFormed.markRunning hopen, .inl rfl, fun _ => ⟨hopen, rfl⟩, nofun⟩
  | @completed e r r' now retentionSecs task worker record live marked =>
    have he := (inv_some task).mp hv
    have hr := he.agrees r record
    have hopen := live_of_expected hr (.inr worker) live
    refine taskInv_workerAt he (isSome_worker_of_stage worker) fun r'' hr'' => ⟨r, record, ?_⟩
    cases hr''
    rcases marked with ⟨artifact, rfl⟩ | ⟨error, rfl⟩
    · exact ⟨hr.wellFormed.markSucceeded hopen jobId artifact, trivial, nofun, nofun⟩
    · exact ⟨hr.wellFormed.markFailed hopen error, trivial, nofun, nofun⟩
  | stopped task worker =>
    have he := (inv_some task).mp hv
    have hsome := worker.elim isSome_worker_of_stage isSome_worker_of_stage
    refine taskInv_workerAt he hsome fun r hr => ⟨r, hr, ?_⟩
    exact ⟨(he.agrees r hr).wellFormed, trivial, fun hopen => ⟨hopen, rfl⟩, id⟩
  | finished task worker =>
    have he := (inv_some task).mp hv
    refine taskInv_workerAt he (isSome_worker_of_stage worker) fun r hr => ⟨r, hr, ?_⟩
    exact ⟨(he.agrees r hr).wellFormed, trivial, fun hopen => ⟨hopen, rfl⟩, id⟩
  | @cancelled r now retentionSecs record live handle =>
    rcases task_of_record hv record with ⟨e, task, he⟩
    rw [Inv, task]
    refine taskInv_cancelled he live he.unregistered fun hreturned => ?_
    -- the enqueuer has not returned, or the handle would be there
    have hhandle := (he.agrees r rfl).handle live
    rw [handle, if_pos hreturned] at hhandle
    exact absurd hhandle (by simp)
  | @cancelledAborting r now retentionSecs record live handle =>
    rcases task_of_record hv record with ⟨e, task, he⟩
    simp only [Inv, aborted, task, Option.map_some]
    refine taskInv_cancelled (taskInv_abort he he.unregistered) live he.unregistered
      fun _ w hw => .inl (abortRequested_of_worker hw)
  | @cancelledCollecting r now retentionSecs record live handle =>
    rcases task_of_record hv record with ⟨e, task, he⟩
    rw [Inv, task]
    refine taskInv_cancelled he live (fun hne => ?_) fun _ _ _ => .inr (Nat.succ_pos _)
    have hhandle := (he.agrees r rfl).handle live
    rw [handle, if_neg hne] at hhandle
    exact absurd hhandle (by simp)
  | @abortDelivered n pending =>
    unfold Inv at hv ⊢
    rcases htask : v.task with _ | e
    · rw [htask] at hv
      have hnone : v.pendingAborts = 0 := hv.2
      omega
    · rw [htask] at hv
      have he : TaskInv jobId e v.record v.pendingAborts := hv
      simp only [aborted, htask, Option.map_some]
      refine taskInv_abort he fun hne => ?_
      have hnone := he.unregistered hne
      omega

/-! ## What a job keeps -/

/-- A record was there before, under the same session, or the enqueuer has inserted it. -/
theorem record_origin {r' : JobRecord Digest} (h : Step jobId admits v v')
    (record' : v'.record = some r') :
    (∃ r, v.record = some r ∧ r'.sessionTokenDigest = r.sessionTokenDigest) ∨
    ∃ e, v.task = some e ∧ e.enqueuer = .held ∧ admits ∧ r'.sessionTokenDigest = e.session := by
  cases h with
  | inserted task stage admitted =>
    cases record'
    exact .inr ⟨_, task, stage, admitted, rfl⟩
  | purged => exact absurd record' (by simp)
  | completed task worker record live marked =>
    cases record'
    rcases marked with ⟨artifact, rfl⟩ | ⟨error, rfl⟩ <;> exact .inl ⟨_, record, rfl⟩
  | registered task stage record live | started task worker record live
  | cancelled record live handle | cancelledAborting record live handle
  | cancelledCollecting record live handle =>
    cases record'
    exact .inl ⟨_, record, rfl⟩
  | idle | held | refused | rejected | spawned | registeredLate | unregistered | stopped
  | finished | abortDelivered => exact .inl ⟨r', record', rfl⟩

/-- The enqueuer is past the insertion of the record, and stays so. -/
theorem past_insertion (h : Step jobId admits v v') (task : v.task = some e)
    (stage : e.enqueuer ≠ .held) : ∃ e', v'.task = some e' ∧ e'.enqueuer ≠ .held := by
  have hsame : ∀ e₀, v.task = some e₀ → e₀.enqueuer ≠ .held := by
    rintro e₀ task₀
    rwa [← Option.some.inj (task.symm.trans task₀)]
  cases h with
  | idle | purged | cancelled | cancelledCollecting => exact ⟨e, task, stage⟩
  | held task₀ => exact absurd (task₀.symm.trans task) (by simp)
  | inserted task₀ stage₀ | refused task₀ stage₀ => exact absurd stage₀ (hsame _ task₀)
  | rejected | spawned | registered | registeredLate | unregistered =>
    exact ⟨_, rfl, by simp [Export.atStage, Export.withWorker, Export.abortRequested]⟩
  | @started e₀ r₀ now₀ task₀ | @completed e₀ r₀ r₁ now₀ secs₀ task₀ | @stopped e₀ task₀
  | @finished e₀ task₀ => exact ⟨_, rfl, hsame e₀ task₀⟩
  | cancelledAborting | abortDelivered =>
    exact ⟨e.abortRequested, by simp [aborted, task], stage⟩

/-- A job that has become terminal: the record is the one of that moment, or purged, and will
not be inserted again. -/
structure Settled (r : JobRecord Digest) (v : JobView Digest) : Prop where
  record : v.record = some r ∨ v.record = none
  task : ∃ e, v.task = some e ∧ e.enqueuer ≠ .held

theorem settled_of_record (hv : v.Inv jobId) (record : v.record = some r) : v.Settled r := by
  rcases task_of_record hv record with ⟨e, task, he⟩
  refine ⟨.inl record, e, task, fun stage => ?_⟩
  exact absurd (he.early (.inl stage)) (by simp)

/-- Nothing writes to a terminal record: the two guards against a cancelled job are enough,
since a worker marks its job once. -/
theorem settled_step (hv : v.Inv jobId) (hr : v.Settled r)
    (done : r.job.status.isTerminal = true) (h : Step jobId admits v v') : v'.Settled r := by
  rcases hr.task with ⟨e, task, stage⟩
  refine ⟨?_, past_insertion h task stage⟩
  -- the events that write to the record find it open
  have hopen : ∀ r', v.record = some r' → r'.job.status.isTerminal ≠ false := by
    intro r' record'
    rcases hr.record with record | record
    · obtain rfl : r = r' := Option.some.inj (record.symm.trans record')
      simp [done]
    · exact absurd (record.symm.trans record') (by simp)
  cases h with
  | purged => exact .inr rfl
  | inserted task₀ stage₀ =>
    exact absurd (Option.some.inj (task.symm.trans task₀) ▸ stage₀) stage
  | registered task₀ stage₀ record live | cancelled record live | cancelledAborting record live
  | cancelledCollecting record live => exact absurd live (hopen _ record)
  | started task₀ worker record live =>
    have hagrees := ((inv_some task₀).mp hv).agrees _ record
    exact absurd (live_of_expected hagrees (.inl worker) live) (hopen _ record)
  | completed task₀ worker record live =>
    have hagrees := ((inv_some task₀).mp hv).agrees _ record
    exact absurd (live_of_expected hagrees (.inr worker) live) (hopen _ record)
  | idle | held | refused | rejected | spawned | registeredLate | unregistered | stopped
  | finished | abortDelivered => exact hr.record

/-! ## Aborts -/

/-- Somebody wants the worker to stop: the abort was requested, or is about to be. -/
def Unwanted (v : JobView Digest) : Prop :=
  (∃ e w, v.task = some e ∧ e.worker = some w ∧ w.abortRequested = true) ∨ 0 < v.pendingAborts

/-- The record is there, in a terminal status. -/
def IsTerminal (v : JobView Digest) : Prop :=
  ∃ r, v.record = some r ∧ r.job.status.isTerminal = true

/-- A worker is asked to stop only if its job is terminal, or becomes so in the same step. -/
theorem unwanted_step (h : Step jobId admits v v') (hv' : v'.Unwanted) :
    v.Unwanted ∨ v.IsTerminal ∨ v'.IsTerminal := by
  cases h with
  | idle | purged => exact .inl hv'
  | held task stage worker =>
    rcases hv' with ⟨e, w, ⟨⟩, hw, -⟩ | hpending
    · exact absurd (worker.symm.trans hw) (by simp)
    · exact .inl (.inr hpending)
  | inserted task stage | refused task stage | rejected task stage | registered task stage
  | unregistered task stage =>
    rcases hv' with ⟨e, w, ⟨⟩, hw, habort⟩ | hpending
    · exact .inl (.inl ⟨_, w, task, hw, habort⟩)
    · exact .inl (.inr hpending)
  | spawned task stage =>
    rcases hv' with ⟨e, w, ⟨⟩, hw, habort⟩ | hpending
    -- a new worker has not been asked to stop
    · cases hw
      exact absurd habort (by simp)
    · exact .inl (.inr hpending)
  | registeredLate task stage record done => exact .inr (.inl ⟨_, record, done⟩)
  | started task | completed task | stopped task | finished task =>
    rcases hv' with ⟨e, w, ⟨⟩, hw, habort⟩ | hpending
    · rcases Option.map_eq_some_iff.mp hw with ⟨old, hold, rfl⟩
      exact .inl (.inl ⟨_, old, task, hold, habort⟩)
    · exact .inl (.inr hpending)
  | cancelled record live handle | cancelledAborting record live handle
  | cancelledCollecting record live handle => exact .inr (.inr ⟨_, rfl, rfl⟩)
  | @abortDelivered n pending => exact .inl (.inr (by omega))

/-- What a cancellation achieves. Until the enqueuer has returned it will find the job
cancelled; after that its worker has been asked to stop, or a call is about to ask. -/
structure CancelReaches (v : JobView Digest) : Prop where
  record : ∀ r, v.record = some r → r.job.status = .cancelled
  task : ∃ e, v.task = some e ∧ e.enqueuer ≠ .held ∧ (e.enqueuer = .returned →
    ∃ w, e.worker = some w ∧ (w.abortRequested = true ∨ 0 < v.pendingAborts))

theorem cancelReaches_of_record (hv : v.Inv jobId) (record : v.record = some r)
    (cancelled : r.job.status = .cancelled) : v.CancelReaches := by
  rcases task_of_record hv record with ⟨e, task, he⟩
  refine ⟨?_, e, task, ?_, fun hreturned => ?_⟩
  · rw [record]
    rintro r' ⟨⟩
    exact cancelled
  · intro stage
    exact absurd (he.early (.inl stage)) (by simp)
  · rcases Option.isSome_iff_exists.mp (he.worker.mpr (.inr hreturned)) with ⟨w, hw⟩
    exact ⟨w, hw, (he.agrees r rfl).cancelled hreturned cancelled w hw⟩

/-- A cancellation that is on its way to the worker stays so, unless the record is purged
before the handle is registered. -/
theorem cancelReaches_step (hv : v.Inv jobId) (hreach : v.CancelReaches)
    (hretained : ∀ e e', v.task = some e → e.enqueuer = .spawned → v'.task = some e' →
      e'.enqueuer = .returned → v.record ≠ none)
    (h : Step jobId admits v v') : v'.CancelReaches := by
  rcases hreach.task with ⟨e, task, stage, hstop⟩
  have hsame : ∀ e₀, v.task = some e₀ → e₀ = e := by
    rintro e₀ task₀
    exact Option.some.inj (task₀.symm.trans task)
  have hnot : ∀ r, v.record = some r → r.job.status.isTerminal = false → False := by
    intro r record live
    rw [hreach.record r record] at live
    exact absurd live (by decide)
  cases h with
  | idle => exact hreach
  | purged => exact ⟨fun _ hr => absurd hr (by simp), hreach.task⟩
  | held task₀ => exact absurd (task₀.symm.trans task) (by simp)
  | inserted task₀ stage₀ | refused task₀ stage₀ =>
    obtain rfl := hsame _ task₀
    exact absurd stage₀ stage
  | rejected task₀ | spawned task₀ =>
    exact ⟨hreach.record, _, rfl, by simp [Export.atStage, Export.withWorker],
      by simp [Export.atStage, Export.withWorker]⟩
  -- a cancelled record is not live
  | registered task₀ stage₀ record live => exact (hnot _ record live).elim
  -- the enqueuer finds the job terminal and aborts the worker itself
  | registeredLate task₀ stage₀ =>
    rcases Option.isSome_iff_exists.mp (((inv_some task₀).mp hv).worker.mpr (.inl stage₀))
      with ⟨w, hw⟩
    refine ⟨hreach.record, _, rfl, by simp [Export.atStage, Export.abortRequested], fun _ => ?_⟩
    exact ⟨{ w with abortRequested := true }, by simp [Export.atStage, Export.abortRequested, hw],
      .inl rfl⟩
  -- the only way to lose the cancellation: the record is gone
  | unregistered task₀ stage₀ record =>
    exact absurd record (hretained _ _ task₀ stage₀ rfl rfl)
  | started task₀ worker record live | completed task₀ worker record live =>
    exact absurd (hreach.record _ record) live
  | @stopped e₀ task₀ | @finished e₀ task₀ =>
    obtain rfl := hsame _ task₀
    refine ⟨hreach.record, _, rfl, stage, fun hreturned => ?_⟩
    rcases hstop hreturned with ⟨w, hw, habort⟩
    exact ⟨_, Option.map_eq_some_iff.mpr ⟨w, hw, rfl⟩, habort⟩
  | cancelled record live | cancelledAborting record live | cancelledCollecting record live =>
    exact (hnot _ record live).elim
  -- one abort more does no harm
  | abortDelivered pending =>
    refine ⟨hreach.record, e.abortRequested, by simp [aborted, task], stage, fun hreturned => ?_⟩
    rcases hstop hreturned with ⟨w, hw, -⟩
    exact ⟨{ w with abortRequested := true }, by simp [Export.abortRequested, hw], .inl rfl⟩

end JobView
end GvmGateway
