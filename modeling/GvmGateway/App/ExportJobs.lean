import GvmGateway.App.ExportLifecycle

/-!
# Export jobs

Three properties of every interleaving of enqueuers, workers, cancellations and deletions:
the fields of a record are in step with its status, and a terminal one stays as it is;
whether deleting a session ends its jobs; and a cancellation reaches the worker.
-/

namespace GvmGateway
namespace Gateway

open JobRegistryState TransitionSystem

variable {Digest : Type} [DecidableEq Digest] [SessionTokenDigest Digest]
  {g t : Gateway Digest} {a : Action Digest} {as : List (Action Digest)} {j : String} {id : ℕ}
  {now idle : ℕ} {limits : SessionLimits} {policy : JobPolicy}

/-! ## Records -/

/-- From the time a job is terminal on, its record is the same until it is purged, and no
other record takes its place. -/
theorem settled_run {r : JobRecord Digest} (hg : ∀ k, (g.view k).Inv k)
    (hr : g.jobs.jobs.lookup j = some r) (hdone : r.job.status.isTerminal = true)
    (h : run step g as = some t) : (t.view j).Settled r := by
  have hboth := invariant (I := fun g => (∀ k, (g.view k).Inv k) ∧ (g.view j).Settled r)
    (fun g a t hg ht => ⟨view_inv_step hg.1 ht,
      JobView.settled_step (hg.1 j) hg.2 hdone (view_step hg.1 ht j)⟩)
    h ⟨hg, JobView.settled_of_record (hg j) hr⟩
  exact hboth.2

/-- The fields of every record are in step with its status, and a terminal record never
changes while it is retained. -/
theorem job_records_in_step (h : run step (new Digest now idle limits policy) as = some g)
    {r : JobRecord Digest} (hr : g.jobs.jobs.lookup j = some r) :
    r.WellFormed ∧ (r.job.status.isTerminal = true →
      ∀ bs t, run step g bs = some t → ∀ r', t.jobs.jobs.lookup j = some r' → r' = r) := by
  have hg := view_inv_run h
  refine ⟨?_, fun hdone bs t hbs r' hr' => ?_⟩
  · rcases JobView.task_of_record (hg j) hr with ⟨e, -, he⟩
    exact (he.agrees r rfl).wellFormed
  · rcases (settled_run hg hr hdone hbs).record with hsame | hgone
    · exact Option.some.inj (hr'.symm.trans hsame)
    · exact absurd (hr'.symm.trans hgone) (by simp)

/-- The worker completes the job before its handle is registered; a cancellation comes too
late. -/
theorem job_records_in_step_completed :
    ∃ (g t : Gateway String) (r : JobRecord String),
      run step (new String 0 300 {} {}) (oneExport ++ [.workerStep "j",
        .exportDone "j" (.error (.internal "report unavailable"))]) = some g ∧
      g.jobs.jobs.lookup "j" = some r ∧ r.job.status = .failed ∧ r.WellFormed ∧
      run step g [.enqueueStep "j", .cancelJobRecord "alice" "j"] = some t ∧
      t.jobs.jobs.lookup "j" = some r := by
  have hrun : ∃ (g t : Gateway String) (r r' : JobRecord String),
      run step (new String 0 300 {} {}) (oneExport ++ [.workerStep "j",
        .exportDone "j" (.error (.internal "report unavailable"))]) = some g ∧
      g.jobs.jobs.lookup "j" = some r ∧ r.job.status = .failed ∧
      run step g [.enqueueStep "j", .cancelJobRecord "alice" "j"] = some t ∧
      t.jobs.jobs.lookup "j" = some r' := ⟨_, _, _, _, rfl, rfl, rfl, rfl, rfl⟩
  rcases hrun with ⟨g, t, r, r', hg, hr, hfailed, ht, hr'⟩
  have hsteps := job_records_in_step hg hr
  have hsame := hsteps.2 (by rw [hfailed]; rfl) _ _ ht r' hr'
  exact ⟨g, t, r, hg, hr, hfailed, hsteps.1, ht, hsame ▸ hr'⟩

/-! ## Cancellation -/

omit [SessionTokenDigest Digest] in
/-- The record of a job is retained when `set_job_abort_handle` runs. -/
def RetainedAtRegistration (j : String) (g t : Gateway Digest) : Prop :=
  ∀ e e', g.exports.lookup j = some e → e.enqueuer = .spawned →
    t.exports.lookup j = some e' → e'.enqueuer = .returned → g.jobs.jobs.lookup j ≠ none

/-- A job is cancelled: its worker is reached along every run that goes on from there. -/
theorem cancelReaches_run {r : JobRecord Digest} (hg : ∀ k, (g.view k).Inv k)
    (hr : g.jobs.jobs.lookup j = some r) (hcancelled : r.job.status = .cancelled)
    (h : run step g as = some t)
    (hretained : Along step (fun g _ t => RetainedAtRegistration j g t) g as) :
    (t.view j).CancelReaches := by
  have hboth := invariant_along
    (I := fun g => (∀ k, (g.view k).Inv k) ∧ (g.view j).CancelReaches)
    (fun g a t hg hC ht => ⟨view_inv_step hg.1 ht,
      JobView.cancelReaches_step (hg.1 j) hg.2 hC (view_step hg.1 ht j)⟩)
    h hretained ⟨hg, JobView.cancelReaches_of_record (hg j) hr hcancelled⟩
  exact hboth.2

/-- A worker that is not wanted any more has a job that was terminal at some point of the
run. -/
theorem terminal_of_unwanted (h : run step (new Digest now idle limits policy) as = some g)
    (hg : (g.view j).Unwanted) :
    ∃ as₁ as₂ u, as = as₁ ++ as₂ ∧ run step (new Digest now idle limits policy) as₁ = some u ∧
      (u.view j).IsTerminal := by
  have hnew : ¬ ((new Digest now idle limits policy).view j).Unwanted := by
    rintro (⟨e, w, he, -⟩ | hpending)
    · exact absurd he nofun
    · exact absurd hpending (lt_irrefl 0)
  rcases exists_step (P := fun g => (g.view j).Unwanted) h hnew hg with
    ⟨as₁, a, as₂, u, v, has, hu, hv, hnot, hunwanted⟩
  rcases JobView.unwanted_step (view_step (view_inv_run hu) hv j) hunwanted with
    hbefore | hterminal | hterminal
  · exact absurd hbefore hnot
  · exact ⟨as₁, a :: as₂, u, has, hu, hterminal⟩
  · refine ⟨as₁ ++ [a], as₂, v, by simp [has], ?_, hterminal⟩
    exact run_append.mpr ⟨u, hu, run_cons.mpr ⟨v, hv, rfl⟩⟩

/-- Once a job is cancelled and its enqueuer has returned, the abort of its own worker has
been requested, unless a `delete_session` still has the handle on its list. Conversely, when
an abort has been requested, the job was cancelled, or terminal, at that time or before. -/
theorem cancellation_reaches_worker
    (h : run step (new Digest now idle limits policy) as = some g) (j : String) :
    (∀ r, g.jobs.jobs.lookup j = some r → r.job.status = .cancelled →
      ∀ bs t, run step g bs = some t →
      Along step (fun g _ t => RetainedAtRegistration j g t) g bs →
      ∀ e, t.exports.lookup j = some e → e.enqueuer = .returned →
      (∀ id c, t.deletes.lookup id = some c → c.aborts j = 0) →
      ∃ w, e.worker = some w ∧ w.abortRequested = true) ∧
    ∀ e w, g.exports.lookup j = some e → e.worker = some w → w.abortRequested = true →
      ∃ as₁ as₂ u r, as = as₁ ++ as₂ ∧
        run step (new Digest now idle limits policy) as₁ = some u ∧
        u.jobs.jobs.lookup j = some r ∧ r.job.status.isTerminal = true := by
  refine ⟨fun r hr hcancelled bs t hbs hretained e he hreturned hdone => ?_,
    fun e w he hw habort => ?_⟩
  · have hreach := cancelReaches_run (view_inv_run h) hr hcancelled hbs hretained
    rcases hreach.task with ⟨e', he', -, hstop⟩
    obtain rfl : e = e' := Option.some.inj (he.symm.trans he')
    rcases hstop hreturned with ⟨w, hw, habort | hpending⟩
    · exact ⟨w, hw, habort⟩
    · have hnone : (t.view j).pendingAborts = 0 :=
        AList.total_eq_zero.mpr fun id c hc => hdone id c hc
      omega
  · rcases terminal_of_unwanted h (.inl ⟨e, w, he, hw, habort⟩) with
      ⟨as₁, as₂, u, has, hu, r, hr, hdone⟩
    exact ⟨as₁, as₂, u, r, has, hu, hr, hdone⟩

/-- The job is cancelled before its handle is registered. -/
theorem cancellation_reaches_worker_early :
    ∃ (g t : Gateway String) (w : Worker),
      run step (new String 0 300 {} {}) (oneExport ++ [.cancelJobRecord "alice" "j"]) =
        some g ∧
      run step g [.enqueueStep "j"] = some t ∧
      (t.exports.lookup "j").bind Export.worker = some w ∧ w.abortRequested = true := by
  have hrun : ∃ (g t : Gateway String) (r : JobRecord String) (e : Export String),
      run step (new String 0 300 {} {}) (oneExport ++ [.cancelJobRecord "alice" "j"]) =
        some g ∧
      g.jobs.jobs.lookup "j" = some r ∧ r.job.status = .cancelled ∧
      run step g [.enqueueStep "j"] = some t ∧ t.exports.lookup "j" = some e ∧
      e.enqueuer = .returned ∧ t.deletes.entries = [] :=
    ⟨_, _, _, _, rfl, rfl, rfl, rfl, rfl, rfl, rfl⟩
  rcases hrun with ⟨g, t, r, e, hg, hr, hcancelled, ht, he, hreturned, hdeletes⟩
  have hretained : Along step (fun g _ t => RetainedAtRegistration "j" g t) g
      [.enqueueStep "j"] := by
    intro t' _
    refine ⟨fun _ _ _ _ _ _ hnone => ?_, along_nil t'⟩
    exact absurd (hnone.symm.trans hr) (by simp)
  have hdone : ∀ id c, t.deletes.lookup id = some c → c.aborts "j" = 0 := by
    intro id c hc
    have hmem := AList.mem_entries_iff.mpr hc
    rw [hdeletes] at hmem
    exact absurd hmem (by simp)
  rcases (cancellation_reaches_worker hg "j").1 r hr hcancelled _ t ht hretained e he hreturned
    hdone with ⟨w, hw, habort⟩
  refine ⟨g, t, w, hg, ht, ?_, habort⟩
  rw [he]
  exact hw

/-! ## Deletion -/

/-- No job is inserted after the `cancel_jobs_for_session` of a `delete_session` that removed
its session: at the insertion the call has not come to that step, or there is no room. -/
def InsertsInTime (g : Gateway Digest) : Action Digest → Prop
  | .enqueueStep j => ∀ e ∈ g.exports.lookup j, e.enqueuer = .held → g.jobs.HasRoom g.now →
      ∀ c ∈ g.deletes.entries, c.2.session = e.session → c.2.stage = .removed
  | _ => True

instance (g : Gateway Digest) (a : Action Digest) : Decidable (g.InsertsInTime a) := by
  unfold InsertsInTime
  split <;> infer_instance

/-- When a `delete_session` and all enqueuers of its session have returned, no job of the
session is queued or running. -/
def DeletionEndsJobs (g : Gateway Digest) : Prop :=
  ∀ id d, g.deletes.lookup id = some ⟨d, .returned⟩ →
    (∀ j e, g.exports.lookup j = some e → e.session = d →
      e.enqueuer = .rejected ∨ e.enqueuer = .returned) →
    ∀ j r, g.jobs.jobs.lookup j = some r → r.sessionTokenDigest = d →
      r.job.status.isTerminal = true

/-- From its `cancel_jobs_for_session` on, a deleted session has no open job. -/
def DeletedClosed (g : Gateway Digest) : Prop :=
  ∀ id c, g.deletes.lookup id = some c → c.stage ≠ .removed →
    ∀ j r, g.jobs.jobs.lookup j = some r → r.sessionTokenDigest = c.session →
      r.job.status.isTerminal = true

theorem deletedClosed_step (hg : ∀ k, (g.view k).Inv k) (hclosed : g.DeletedClosed)
    (hin : g.InsertsInTime a) (h : g.step a = some t) : t.DeletedClosed := by
  intro id c hc hlate j r' hr' hd
  have hview := view_step hg h j
  rcases deletes_step h hc hlate with ⟨c₀, hc₀, hsession, hlate₀⟩ | hjobs
  · rcases JobView.record_origin hview hr' with
      ⟨r, hr, hdigest⟩ | ⟨e, he, hheld, ⟨ha, hroom⟩, hdigest⟩
    · -- an old record was closed, and stays closed
      have hdone := hclosed id c₀ hc₀ hlate₀ j r hr (by rw [← hdigest, hd, hsession])
      have hsettled := JobView.settled_step (hg j) (JobView.settled_of_record (hg j) hr) hdone
        hview
      rcases hsettled.record with hsame | hgone
      · rwa [Option.some.inj (hr'.symm.trans hsame)]
      · exact absurd (hr'.symm.trans hgone) (by simp)
    · -- a new one is not inserted any more
      subst ha
      have hremoved := hin e he hheld hroom ⟨id, c₀⟩ (AList.mem_entries_iff.mpr hc₀)
      exact absurd (hremoved (by rw [hsession, ← hd, hdigest])) hlate₀
  · rw [hjobs] at hr'
    exact isTerminal_cancelJobsForSession hr' hd

/-- In a run that inserts no job after the `cancel_jobs_for_session` of its session's
deletion, deleting a session ends its jobs. -/
theorem deletion_ends_jobs (h : run step (new Digest now idle limits policy) as = some g)
    (hin : Along step (fun g a _ => g.InsertsInTime a) (new Digest now idle limits policy) as) :
    g.DeletionEndsJobs := by
  have hboth := invariant_along
    (I := fun g => (∀ k, (g.view k).Inv k) ∧ g.DeletedClosed)
    (fun g a t hg hC ht => ⟨view_inv_step hg.1 ht, deletedClosed_step hg.1 hg.2 hC ht⟩)
    h hin ⟨view_inv_new now idle limits policy, fun id c hc => absurd hc (by simp [new])⟩
  intro id d hdelete _ j r hr hd
  exact hboth.2 id _ hdelete (by simp) j r hr hd

/-- A job that is inserted, and then cancelled by the deletion of its session. -/
theorem deletion_ends_jobs_in_time :
    ∃ g : Gateway String,
      run step (new String 0 300 {} {}) (oneExport ++ [.deleteSession 0 "a",
        .cancelJobs 0 [], .deleteStep 0, .deleteStep 0, .enqueueStep "j"]) = some g ∧
      g.DeletionEndsJobs := by
  have hrun : ∃ g : Gateway String, run step (new String 0 300 {} {})
      (oneExport ++ [.deleteSession 0 "a", .cancelJobs 0 [], .deleteStep 0, .deleteStep 0,
        .enqueueStep "j"]) = some g := ⟨_, rfl⟩
  rcases hrun with ⟨g, hg⟩
  exact ⟨g, hg, deletion_ends_jobs hg (by decide)⟩

/-- A deletion that runs from its first step to its last between the `hold` and the insertion
of a job. -/
def lateInsert : List (Action String) :=
  [.createSession "a" "alice" [], .createStep "a", .authenticate "a" (.ok ()),
    .createStep "a", .createReportExportJob 0 "a" "report" (.json ⟨none, none⟩),
    .holdSession 0 "j", .deleteSession 0 "a", .cancelJobs 0 [], .deleteStep 0, .deleteStep 0,
    .enqueueStep "j", .enqueueStep "j", .enqueueStep "j"]

/-- The deletion and the enqueuer have returned, and the job is queued. -/
theorem open_job_reachable :
    ∃ g : Gateway String, run step (new String 0 300 {} {}) lateInsert = some g ∧
      ¬ g.DeletionEndsJobs := by
  have hrun : ∃ (g : Gateway String) (r : JobRecord String),
      run step (new String 0 300 {} {}) lateInsert = some g ∧
      g.deletes.lookup 0 = some ⟨"a", .returned⟩ ∧
      g.exports.entries.map (fun e => e.2.enqueuer) = [.returned] ∧
      g.jobs.jobs.lookup "j" = some r ∧ r.sessionTokenDigest = "a" ∧
      r.job.status = .queued := ⟨_, _, rfl, rfl, rfl, rfl, rfl, rfl⟩
  rcases hrun with ⟨g, r, hg, hdelete, hexports, hr, hd, hqueued⟩
  refine ⟨g, hg, fun hends => ?_⟩
  have hdone := hends 0 "a" hdelete (fun j e he _ => ?_) "j" r hr hd
  · rw [hqueued] at hdone
    exact absurd hdone (by decide)
  · have hmem := List.mem_map_of_mem (f := fun e => e.2.enqueuer) (AList.mem_entries_iff.mpr he)
    rw [hexports, List.mem_singleton] at hmem
    exact .inr hmem

end Gateway
end GvmGateway
