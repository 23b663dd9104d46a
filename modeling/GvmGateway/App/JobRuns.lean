import GvmGateway.App.JobLife

/-!
# Runs of the job registry

The registry with the readings of the clock that its calls make, each within the lock. The
readings never go back, and a call that reads the clock twice may read a later time the second
time. Beside the registry stands what its callers keep to: a job is inserted under an
identifier that nobody has drawn before, and its worker calls `mark_job_running` first and one
of `mark_job_succeeded` and `mark_job_failed` last, if it is not dropped in between.
-/

namespace GvmGateway

open JobRegistryState

/-- A call on the registry, with its readings of the clock. -/
inductive RegistryCall (Digest : Type) where
  | insertJob (now : ℕ) (ownerUser : String) (sessionTokenDigest : Digest) (createdAt : ℕ)
      (jobId reportId : String) (request : CreateReportExportRequest)
  | setJobAbortHandle (jobId : String) (handle : AbortHandle)
  | markJobRunning (now : ℕ) (jobId : String)
  | markJobSucceeded (now : ℕ) (jobId : String) (artifact : JobArtifact)
  | markJobFailed (now : ℕ) (jobId : String) (error : GatewayError)
  -- the worker is dropped, and makes no more calls
  | dropWorker (jobId : String)
  | jobSnapshot (now : ℕ) (ownerUser jobId : String)
  | cancelJobRecord (purgeNow now : ℕ) (ownerUser jobId : String)
  | cancelJobsForSession (purgeNow now : ℕ) (sessionTokenDigest : Digest)
  | jobArtifact (now : ℕ) (ownerUser jobId : String)
  | sweepExpiredJobs (now : ℕ)

/-- The registry, the last reading of the clock, and where the worker of every job inserted so
far stands. -/
structure JobRun (Digest : Type) where
  clock : ℕ
  registry : JobRegistryState Digest
  worker : String → Option WorkerStage

namespace JobRun

variable {Digest : Type}

/-- The registry at start. -/
def new (Digest : Type) (policy : JobPolicy) : JobRun Digest :=
  ⟨0, .new Digest policy, fun _ => none⟩

/-- The worker of a job goes on. -/
def workerAt (s : JobRun Digest) (jobId : String) (stage : WorkerStage) :
    String → Option WorkerStage :=
  Function.update s.worker jobId (some stage)

/-- The job that a call inserts. -/
def newRecord (ownerUser : String) (sessionTokenDigest : Digest) (createdAt : ℕ)
    (jobId reportId : String) (request : CreateReportExportRequest) : JobRecord Digest :=
  { ownerUser := ownerUser, sessionTokenDigest := sessionTokenDigest,
    job := reportExportJob createdAt jobId reportId request,
    artifact := none, abortHandle := none, purgeAfterEpochSecs := none }

/-- One call on the registry. -/
def step [DecidableEq Digest] (s : JobRun Digest) : RegistryCall Digest → Option (JobRun Digest)
  -- `insert_job`, and the spawn of the worker once it has succeeded
  | .insertJob now ownerUser d createdAt jobId reportId request =>
    if s.clock ≤ now ∧ s.worker jobId = none then
      match s.registry.insertJob now ownerUser d
          (reportExportJob createdAt jobId reportId request) with
      | (.ok _, registry) => some ⟨now, registry, s.workerAt jobId .queued⟩
      | (.error _, registry) => some ⟨now, registry, s.worker⟩
    else none
  | .setJobAbortHandle jobId handle =>
    some ⟨s.clock, (s.registry.setJobAbortHandle jobId handle).2.2, s.worker⟩
  | .markJobRunning now jobId =>
    if s.clock ≤ now ∧ s.worker jobId = some .queued then
      match s.registry.markJobRunning now jobId with
      | (.ok _, registry) => some ⟨now, registry, s.workerAt jobId .running⟩
      | (.error _, registry) => some ⟨now, registry, s.workerAt jobId .finishing⟩
    else none
  | .markJobSucceeded now jobId artifact =>
    if s.clock ≤ now ∧ s.worker jobId = some .running then
      some ⟨now, (s.registry.markJobSucceeded now jobId artifact).2, s.workerAt jobId .finishing⟩
    else none
  | .markJobFailed now jobId error =>
    if s.clock ≤ now ∧ s.worker jobId = some .running then
      some ⟨now, (s.registry.markJobFailed now jobId error).2, s.workerAt jobId .finishing⟩
    else none
  -- the runtime drops the future of an aborted worker
  | .dropWorker jobId =>
    if (s.worker jobId).isSome then some ⟨s.clock, s.registry, s.workerAt jobId .finishing⟩
    else none
  | .jobSnapshot now ownerUser jobId =>
    if s.clock ≤ now then some ⟨now, (s.registry.jobSnapshot now ownerUser jobId).2, s.worker⟩
    else none
  -- a cancellation purges first, and reads the clock again for its mark
  | .cancelJobRecord purgeNow now ownerUser jobId =>
    if s.clock ≤ purgeNow ∧ purgeNow ≤ now then
      some ⟨now, (s.registry.cancelJobRecord purgeNow now ownerUser jobId).2.2, s.worker⟩
    else none
  | .cancelJobsForSession purgeNow now d =>
    if s.clock ≤ purgeNow ∧ purgeNow ≤ now then
      some ⟨now, (s.registry.cancelJobsForSession purgeNow now d).2.2, s.worker⟩
    else none
  | .jobArtifact now ownerUser jobId =>
    if s.clock ≤ now then some ⟨now, (s.registry.jobArtifact now ownerUser jobId).2, s.worker⟩
    else none
  | .sweepExpiredJobs now =>
    if s.clock ≤ now then some ⟨now, (s.registry.sweepExpiredJobs now).2, s.worker⟩
    else none

/-! ## What a call does to one job -/

/-- What can happen to the record of one job in a call that leaves the clock at `now`. -/
inductive Change (fresh : Prop) (now retentionSecs : ℕ) :
    Option (JobRecord Digest) → Option (JobRecord Digest) → Prop where
  | kept (record : Option (JobRecord Digest)) : Change fresh now retentionSecs record record
  | purged {r : JobRecord Digest} (due : isRetained now r = false) :
      Change fresh now retentionSecs (some r) none
  | inserted {r : JobRecord Digest} (free : fresh) (status : r.job.status = .queued)
      (purgeAfter : r.purgeAfterEpochSecs = none) : Change fresh now retentionSecs none (some r)
  -- a job that is not terminal goes on
  | moved {r r' : JobRecord Digest} (live : r.job.status.isTerminal = false)
      (owner : r'.ownerUser = r.ownerUser) (status : r'.job.status.isTerminal = false)
      (purgeAfter : r'.purgeAfterEpochSecs = r.purgeAfterEpochSecs) :
      Change fresh now retentionSecs (some r) (some r')
  -- and ends once
  | ended {r r' : JobRecord Digest} (live : r.job.status.isTerminal = false)
      (owner : r'.ownerUser = r.ownerUser) (status : r'.job.status.isTerminal = true)
      (purgeAfter : r'.purgeAfterEpochSecs = some (now + retentionSecs)) :
      Change fresh now retentionSecs (some r) (some r')

/-- What holds of the record of a job and the stage of its worker. -/
structure RecordInv (worker : Option WorkerStage) (r : JobRecord Digest) : Prop where
  inserted : worker.isSome = true
  purgeAfter : r.purgeAfterEpochSecs.isSome = r.job.status.isTerminal
  expected : JobView.Expected worker r.job.status

/-- What holds of every job at any time. -/
def Inv (s : JobRun Digest) : Prop :=
  ∀ jobId r, s.registry.jobs.lookup jobId = some r → RecordInv (s.worker jobId) r

/-- What a call keeps, and what it does to every job. -/
structure Steps (s t : JobRun Digest) : Prop where
  clock : s.clock ≤ t.clock
  policy : t.registry.policy = s.registry.policy
  size : s.registry.jobs.entries.length ≤ s.registry.policy.maxJobsTotal →
    t.registry.jobs.entries.length ≤ s.registry.policy.maxJobsTotal
  worker : ∀ jobId, (s.worker jobId).isSome = true → (t.worker jobId).isSome = true
  change : ∀ jobId, Change (s.worker jobId = none) t.clock
    s.registry.policy.terminalRetentionSecs
    (s.registry.jobs.lookup jobId) (t.registry.jobs.lookup jobId)
  inv : t.Inv

variable {s t : JobRun Digest} {m : JobRegistryState Digest} {now : ℕ} {jobId : String}

theorem isRetained_mono {r : JobRecord Digest} {purgeNow : ℕ} (hle : purgeNow ≤ now)
    (h : isRetained purgeNow r = false) : isRetained now r = false := by
  unfold isRetained at h ⊢
  split at h
  · simp only [decide_eq_false_iff_not, Nat.not_lt] at h ⊢
    omega
  · cases h

/-- `m` is the registry, or what a purge at `now` or earlier leaves of it. -/
structure PurgedBy (now : ℕ) (r m : JobRegistryState Digest) : Prop where
  policy : m.policy = r.policy
  size : m.jobs.entries.length ≤ r.jobs.entries.length
  lookup : ∀ jobId, m.jobs.lookup jobId = r.jobs.lookup jobId ∨
    ∃ record, r.jobs.lookup jobId = some record ∧ isRetained now record = false ∧
      m.jobs.lookup jobId = none

theorem purgedBy_self (now : ℕ) (r : JobRegistryState Digest) : PurgedBy now r r :=
  ⟨rfl, le_refl _, fun _ => .inl rfl⟩

theorem purgedBy_purged {purgeNow : ℕ} (hle : purgeNow ≤ now) (r : JobRegistryState Digest) :
    PurgedBy now r (r.purged purgeNow) := by
  refine ⟨rfl, List.length_filter_le _ _, fun jobId => ?_⟩
  rw [lookup_purged]
  rcases hlookup : r.jobs.lookup jobId with _ | record
  · exact .inl rfl
  · by_cases hkept : isRetained purgeNow record = true
    · left
      rw [Option.filter_some, if_pos hkept]
    · right
      refine ⟨record, rfl, isRetained_mono hle (Bool.eq_false_iff.mpr hkept), ?_⟩
      rw [Option.filter_some, if_neg hkept]

theorem PurgedBy.of_lookup {r : JobRegistryState Digest} {record : JobRecord Digest}
    (h : PurgedBy now r m) (hm : m.jobs.lookup jobId = some record) :
    r.jobs.lookup jobId = some record := by
  obtain hsame | ⟨-, -, -, hnone⟩ := h.lookup jobId
  · rw [← hsame]
    exact hm
  · cases hm.symm.trans hnone

theorem PurgedBy.change {r : JobRegistryState Digest} (h : PurgedBy now r m) (fresh : Prop)
    (retentionSecs : ℕ) (jobId : String) :
    Change fresh now retentionSecs (r.jobs.lookup jobId) (m.jobs.lookup jobId) := by
  obtain hsame | ⟨record, hrecord, hdue, hnone⟩ := h.lookup jobId
  · rw [hsame]
    exact .kept _
  · rw [hrecord, hnone]
    exact .purged hdue

/-- A worker may end at any time, whatever has become of its job. -/
theorem RecordInv.finishing {worker : Option WorkerStage} {r : JobRecord Digest}
    (h : RecordInv worker r) : RecordInv (some .finishing) r :=
  ⟨rfl, h.purgeAfter, trivial⟩

/-- A call that does no more than purge, and perhaps ends a worker. -/
theorem steps_purged (hs : s.Inv) (hclock : s.clock ≤ now) (hm : PurgedBy now s.registry m)
    {worker : String → Option WorkerStage}
    (hworker : ∀ j, worker j = s.worker j ∨ worker j = some .finishing) :
    Steps s ⟨now, m, worker⟩ := by
  refine ⟨hclock, hm.policy, hm.size.trans, fun j hj => ?_, fun j => hm.change _ _ j,
    fun j r hj => ?_⟩
  · show (worker j).isSome = true
    obtain h | h := hworker j
    · rw [h]
      exact hj
    · rw [h]
      rfl
  · have hr := hs j r (hm.of_lookup hj)
    show RecordInv (worker j) r
    obtain h | h := hworker j
    · rw [h]
      exact hr
    · rw [h]
      exact hr.finishing

/-- A call that purges and enters the record of one job. -/
theorem steps_put (hs : s.Inv) (hclock : s.clock ≤ now) (hm : PurgedBy now s.registry m)
    {worker : String → Option WorkerStage} {r : JobRecord Digest}
    (hroom : jobId ∈ m.jobs ∨ m.jobs.entries.length < s.registry.policy.maxJobsTotal)
    (hworker : ∀ j, j ≠ jobId → worker j = s.worker j) (hr : RecordInv (worker jobId) r)
    (hchange : Change (s.worker jobId = none) now s.registry.policy.terminalRetentionSecs
      (s.registry.jobs.lookup jobId) (some r)) :
    Steps s ⟨now, m.put jobId r, worker⟩ := by
  refine ⟨hclock, hm.policy, fun hsize => ?_, fun j hj => ?_, fun j => ?_, fun j r' hj => ?_⟩
  -- one entry more only where there is room for it, whatever the purge removed
  · obtain hmem | hlt := hroom
    · exact (AList.length_insert_of_mem r hmem).trans_le (hm.size.trans hsize)
    · exact (AList.length_insert_le _ _ _).trans hlt
  · by_cases hne : j = jobId
    · exact hne ▸ hr.inserted
    · show (worker j).isSome = true
      rw [hworker j hne]
      exact hj
  · dsimp only
    rw [lookup_put]
    split
    · next heq => exact heq ▸ hchange
    · exact hm.change _ _ j
  · dsimp only at hj
    rw [lookup_put] at hj
    split at hj
    · next heq =>
      obtain rfl := Option.some.inj hj
      exact heq ▸ hr
    · next hne =>
      show RecordInv (worker j) r'
      rw [hworker j hne]
      exact hs j r' (hm.of_lookup hj)

theorem workerAt_same (s : JobRun Digest) (jobId : String) (stage : WorkerStage) :
    s.workerAt jobId stage jobId = some stage :=
  Function.update_self jobId _ s.worker

theorem workerAt_of_ne (s : JobRun Digest) {j : String} (stage : WorkerStage) (h : j ≠ jobId) :
    s.workerAt jobId stage j = s.worker j :=
  Function.update_of_ne h _ s.worker

theorem workerAt_finishing (s : JobRun Digest) (jobId j : String) :
    s.workerAt jobId .finishing j = s.worker j ∨
      s.workerAt jobId .finishing j = some .finishing := by
  by_cases h : j = jobId
  · right
    rw [h, workerAt_same]
  · left
    exact s.workerAt_of_ne _ h

/-- A job whose worker waits or runs is terminal only by cancellation. -/
theorem RecordInv.live {stage : WorkerStage} {r : JobRecord Digest}
    (h : RecordInv (some stage) r) (hstage : stage = .queued ∨ stage = .running)
    (hne : r.job.status ≠ .cancelled) : r.job.status.isTerminal = false := by
  have hexpected := h.expected
  obtain rfl | rfl := hstage
  · obtain h | h := hexpected
    · rw [h]
      rfl
    · exact absurd h hne
  · obtain h | h := hexpected
    · rw [h]
      rfl
    · exact absurd h hne

/-- `mark_job_succeeded` and `mark_job_failed`. -/
theorem steps_completeJob (hs : s.Inv) (hclock : s.clock ≤ now)
    (hworker : s.worker jobId = some .running) (complete : JobRecord Digest → JobRecord Digest)
    (hcomplete : ∀ r, (complete r).ownerUser = r.ownerUser ∧
      (complete r).job.status.isTerminal = true ∧
      (complete r).purgeAfterEpochSecs =
        some (now + s.registry.policy.terminalRetentionSecs)) :
    Steps s ⟨now, (s.registry.completeJob jobId complete).2, s.workerAt jobId .finishing⟩ := by
  obtain heq | ⟨r, hr, hne, heq⟩ := s.registry.completeJob_cases jobId complete
  · rw [heq]
    exact steps_purged hs hclock (purgedBy_self now _) (s.workerAt_finishing jobId)
  · rw [heq]
    obtain ⟨howner, hterminal, hpurge⟩ := hcomplete r
    -- a running job that is not cancelled has not ended before
    have hlive := (hworker ▸ hs jobId r hr).live (.inr rfl) hne
    apply steps_put hs hclock (purgedBy_self now _) (.inl (AList.mem_of_lookup hr))
    · intro j hj
      exact s.workerAt_of_ne _ hj
    · rw [workerAt_same]
      exact ⟨rfl, by rw [hpurge, hterminal]; rfl, trivial⟩
    · rw [hr]
      exact .ended hlive howner hterminal hpurge

theorem steps_insertJob (hs : s.Inv) (hclock : s.clock ≤ now) (hfree : s.worker jobId = none)
    (hroom : s.registry.HasRoom now)
    (ownerUser : String) (d : Digest) (createdAt : ℕ) (reportId : String)
    (request : CreateReportExportRequest) :
    Steps s ⟨now, (s.registry.purged now).put jobId
      (newRecord ownerUser d createdAt jobId reportId request), s.workerAt jobId .queued⟩ := by
  -- a fresh identifier has no record
  have hnone : s.registry.jobs.lookup jobId = none := by
    rcases hlookup : s.registry.jobs.lookup jobId with _ | r
    · rfl
    · have hinserted := (hs jobId r hlookup).inserted
      rw [hfree] at hinserted
      cases hinserted
  apply steps_put hs hclock (purgedBy_purged (le_refl now) _) (.inr hroom)
  · intro j hj
    exact s.workerAt_of_ne _ hj
  · rw [workerAt_same]
    exact ⟨rfl, rfl, .inl rfl⟩
  · rw [hnone]
    exact .inserted hfree rfl rfl

theorem steps_markJobRunning (hs : s.Inv) (hclock : s.clock ≤ now)
    (hworker : s.worker jobId = some .queued) {r : JobRecord Digest}
    (hr : s.registry.jobs.lookup jobId = some r) (hne : r.job.status ≠ .cancelled) :
    Steps s ⟨now, s.registry.put jobId (r.markRunning now), s.workerAt jobId .running⟩ := by
  have hlive := (hworker ▸ hs jobId r hr).live (.inl rfl) hne
  have hpurge := (hs jobId r hr).purgeAfter
  apply steps_put hs hclock (purgedBy_self now _) (.inl (AList.mem_of_lookup hr))
  · intro j hj
    exact s.workerAt_of_ne _ hj
  · rw [workerAt_same]
    exact ⟨rfl, hpurge.trans hlive, .inl rfl⟩
  · rw [hr]
    exact .moved hlive rfl rfl rfl

theorem steps_setJobAbortHandle (hs : s.Inv) {r : JobRecord Digest}
    (hr : s.registry.jobs.lookup jobId = some r) (hlive : r.job.status.isTerminal = false)
    (handle : AbortHandle) :
    Steps s ⟨s.clock, s.registry.put jobId { r with abortHandle := some handle },
      s.worker⟩ := by
  have hinv := hs jobId r hr
  apply steps_put hs (le_refl _) (purgedBy_self s.clock _) (.inl (AList.mem_of_lookup hr))
  · exact fun _ _ => rfl
  · exact ⟨hinv.inserted, hinv.purgeAfter, hinv.expected⟩
  · rw [hr]
    exact .moved hlive rfl hlive rfl

/-- The record of a cancelled job, in `cancel_job_record` or `cancel_jobs_for_session`. -/
theorem RecordInv.cancelled {worker : Option WorkerStage} {r r' : JobRecord Digest}
    {retentionSecs : ℕ} (h : RecordInv worker r) (hstatus : r'.job.status = .cancelled)
    (hpurge : r'.purgeAfterEpochSecs = some (now + retentionSecs)) : RecordInv worker r' := by
  refine ⟨h.inserted, by rw [hpurge, hstatus]; rfl, ?_⟩
  rw [hstatus]
  rcases worker with _ | stage
  · exact .inr rfl
  · cases stage with
    | queued => exact .inr rfl
    | running => exact .inr rfl
    | finishing => exact trivial
    | finished => exact trivial

theorem steps_cancelJobRecord {purgeNow : ℕ} (hs : s.Inv) (hclock : s.clock ≤ purgeNow)
    (hle : purgeNow ≤ now) {r : JobRecord Digest}
    (hr : (s.registry.purged purgeNow).jobs.lookup jobId = some r)
    (hlive : r.job.status.isTerminal = false) :
    Steps s ⟨now, (s.registry.purged purgeNow).put jobId
      (r.markCancelled now s.registry.policy.terminalRetentionSecs), s.worker⟩ := by
  -- what the purge left was there before it
  have hbefore := (purgedBy_purged hle s.registry).of_lookup hr
  apply steps_put hs (hclock.trans hle) (purgedBy_purged hle _) (.inl (AList.mem_of_lookup hr))
  · exact fun _ _ => rfl
  · exact (hs jobId r hbefore).cancelled rfl rfl
  · rw [hbefore]
    exact .ended hlive rfl rfl rfl

variable [DecidableEq Digest]

theorem steps_cancelJobsForSession {purgeNow : ℕ} (hs : s.Inv) (hclock : s.clock ≤ purgeNow)
    (hle : purgeNow ≤ now) (d : Digest) :
    Steps s ⟨now, (s.registry.cancelJobsForSession purgeNow now d).2.2, s.worker⟩ := by
  have hpurge := purgedBy_purged hle s.registry
  refine ⟨hclock.trans hle, rfl, fun hsize => ?_, fun _ h => h, fun j => ?_, fun j r' hj => ?_⟩
  -- the traversal rewrites records and keeps their number
  · exact (List.length_map _).trans_le (hpurge.size.trans hsize)
  · dsimp only
    rw [lookup_cancelJobsForSession]
    rcases hlookup : (s.registry.purged purgeNow).jobs.lookup j with _ | r
    · rw [Option.map_none, ← hlookup]
      exact hpurge.change _ _ j
    · rw [hpurge.of_lookup hlookup, Option.map_some]
      by_cases hcancel : isCancelledFor d r = true
      · rw [if_pos hcancel]
        exact .ended (isCancelledFor_iff.mp hcancel).2 rfl rfl rfl
      · rw [if_neg hcancel]
        exact .kept _
  · dsimp only at hj
    rw [lookup_cancelJobsForSession, Option.map_eq_some_iff] at hj
    obtain ⟨r, hlookup, rfl⟩ := hj
    have hr := hs j r (hpurge.of_lookup hlookup)
    show RecordInv (s.worker j) _
    split
    · exact hr.cancelled rfl rfl
    · exact hr

/-- Every call. -/
theorem steps_of_step {c : RegistryCall Digest} (hs : s.Inv) (h : s.step c = some t) :
    Steps s t := by
  cases c with
  | insertJob now ownerUser d createdAt jobId reportId request =>
    -- the clock does not step back and the id is new, or the run does not have the call
    obtain ⟨⟨hclock, hfree⟩, h⟩ := Option.ite_none_right_eq_some.mp h
    obtain ⟨err, heq⟩ | ⟨hroom, heq⟩ := s.registry.insertJob_cases now ownerUser d
      (reportExportJob createdAt jobId reportId request)
    · rw [heq] at h
      obtain rfl := Option.some.inj h
      exact steps_purged hs hclock (purgedBy_purged (le_refl now) _) fun _ => .inl rfl
    · rw [heq] at h
      obtain rfl := Option.some.inj h
      exact steps_insertJob hs hclock hfree hroom ownerUser d createdAt reportId request
  | setJobAbortHandle jobId handle =>
    obtain rfl := Option.some.inj h
    obtain ⟨-, heq⟩ | ⟨r, hr, ⟨-, heq⟩ | ⟨hlive, heq⟩⟩ :=
      s.registry.setJobAbortHandle_cases jobId handle
    · rw [heq]
      exact steps_purged hs (le_refl _) (purgedBy_self _ _) fun _ => .inl rfl
    · rw [heq]
      exact steps_purged hs (le_refl _) (purgedBy_self _ _) fun _ => .inl rfl
    · rw [heq]
      exact steps_setJobAbortHandle hs hr hlive handle
  | markJobRunning now jobId =>
    obtain ⟨⟨hclock, hworker⟩, h⟩ := Option.ite_none_right_eq_some.mp h
    obtain ⟨err, heq⟩ | ⟨r, hr, hne, heq⟩ := s.registry.markJobRunning_cases now jobId
    · rw [heq] at h
      obtain rfl := Option.some.inj h
      exact steps_purged hs hclock (purgedBy_self now _) (s.workerAt_finishing jobId)
    · rw [heq] at h
      obtain rfl := Option.some.inj h
      exact steps_markJobRunning hs hclock hworker hr hne
  | markJobSucceeded now jobId artifact =>
    obtain ⟨⟨hclock, hworker⟩, h⟩ := Option.ite_none_right_eq_some.mp h
    obtain rfl := Option.some.inj h
    exact steps_completeJob hs hclock hworker _ fun r => ⟨rfl, rfl, rfl⟩
  | markJobFailed now jobId error =>
    obtain ⟨⟨hclock, hworker⟩, h⟩ := Option.ite_none_right_eq_some.mp h
    obtain rfl := Option.some.inj h
    exact steps_completeJob hs hclock hworker _ fun r => ⟨rfl, rfl, rfl⟩
  -- a dropped future leaves the registry as it is
  | dropWorker jobId =>
    obtain ⟨-, h⟩ := Option.ite_none_right_eq_some.mp h
    obtain rfl := Option.some.inj h
    exact steps_purged hs (le_refl _) (purgedBy_self _ _) (s.workerAt_finishing jobId)
  | jobSnapshot now ownerUser jobId =>
    obtain ⟨hclock, h⟩ := Option.ite_none_right_eq_some.mp h
    obtain rfl := Option.some.inj h
    exact steps_purged hs hclock (purgedBy_purged (le_refl now) _) fun _ => .inl rfl
  -- the purge and the mark each read the clock
  | cancelJobRecord purgeNow now ownerUser jobId =>
    obtain ⟨⟨hclock, hle⟩, h⟩ := Option.ite_none_right_eq_some.mp h
    obtain rfl := Option.some.inj h
    obtain ⟨result, heq⟩ | ⟨r, hr, -, hlive, heq⟩ :=
      s.registry.cancelJobRecord_cases purgeNow now ownerUser jobId
    · rw [heq]
      exact steps_purged hs (hclock.trans hle) (purgedBy_purged hle _) fun _ => .inl rfl
    · rw [heq]
      exact steps_cancelJobRecord hs hclock hle hr hlive
  | cancelJobsForSession purgeNow now d =>
    obtain ⟨⟨hclock, hle⟩, h⟩ := Option.ite_none_right_eq_some.mp h
    obtain rfl := Option.some.inj h
    exact steps_cancelJobsForSession hs hclock hle d
  | jobArtifact now ownerUser jobId =>
    obtain ⟨hclock, h⟩ := Option.ite_none_right_eq_some.mp h
    obtain rfl := Option.some.inj h
    exact steps_purged hs hclock (purgedBy_purged (le_refl now) _) fun _ => .inl rfl
  -- these calls only purge
  | sweepExpiredJobs now =>
    obtain ⟨hclock, h⟩ := Option.ite_none_right_eq_some.mp h
    obtain rfl := Option.some.inj h
    exact steps_purged hs hclock (purgedBy_purged (le_refl now) _) fun _ => .inl rfl

end JobRun
end GvmGateway
