import GvmGateway.App.Jobs
import GvmGateway.Library.FiniteMap

/-!
# What the job registry's functions do

Each function is described by its cases and by what a lookup sees afterwards.
-/

namespace GvmGateway
namespace JobRegistryState

variable {Digest : Type} (s : JobRegistryState Digest)

/-! ## The purge -/

@[simp] theorem lookup_put (k j : String) (r : JobRecord Digest) :
    (s.put k r).jobs.lookup j = if j = k then some r else s.jobs.lookup j :=
  AList.lookup_insert_eq_ite s.jobs k j r

theorem lookup_purged (now : ℕ) (j : String) :
    (s.purged now).jobs.lookup j = (s.jobs.lookup j).filter (isRetained now) :=
  AList.lookup_filter _ s.jobs j

theorem lookup_purged_eq_some {now : ℕ} {j : String} {r : JobRecord Digest} :
    (s.purged now).jobs.lookup j = some r ↔
      s.jobs.lookup j = some r ∧ isRetained now r = true :=
  AList.lookup_filter_eq_some

/-- A record without a deadline is not purged. -/
theorem due_of_not_retained {now : ℕ} {r : JobRecord Digest} (h : isRetained now r = false) :
    r.purgeAfterEpochSecs.isSome = true := by
  unfold isRetained at h
  split at h
  · next purgeAfter hpurge =>
    rw [hpurge]
    rfl
  · exact absurd h (by simp)

/-- A purge leaves a record as it is, or removes it because its deadline has passed. -/
theorem lookup_purged_cases (now : ℕ) (j : String) :
    (s.purged now).jobs.lookup j = s.jobs.lookup j ∨
    ∃ r, s.jobs.lookup j = some r ∧ r.purgeAfterEpochSecs.isSome = true ∧
      (s.purged now).jobs.lookup j = none := by
  rw [lookup_purged]
  rcases hj : s.jobs.lookup j with _ | r
  · exact .inl rfl
  · by_cases hr : isRetained now r = true
    · left
      rw [Option.filter_some, if_pos hr]
    · right
      refine ⟨r, rfl, due_of_not_retained (Bool.eq_false_iff.mpr hr), ?_⟩
      rw [Option.filter_some, if_neg hr]

/-! ## One job -/

variable {s}

/-- After the purge there is room for another job. -/
def HasRoom (s : JobRegistryState Digest) (now : ℕ) : Prop :=
  (s.purged now).jobs.entries.length < s.policy.maxJobsTotal

instance (s : JobRegistryState Digest) (now : ℕ) : Decidable (s.HasRoom now) :=
  inferInstanceAs (Decidable (_ < _))

theorem insertJob_cases (s : JobRegistryState Digest) (now : ℕ) (ownerUser : String)
    (d : Digest) (job : ReportExportJob) :
    (∃ err, s.insertJob now ownerUser d job = (.error err, s.purged now)) ∨
    s.HasRoom now ∧ s.insertJob now ownerUser d job = (.ok (), (s.purged now).put job.id
      { ownerUser := ownerUser, sessionTokenDigest := d, job := job, artifact := none,
        abortHandle := none, purgeAfterEpochSecs := none }) := by
  unfold insertJob
  simp only
  split
  · exact .inl ⟨_, rfl⟩
  · next hroom => exact .inr ⟨Nat.lt_of_not_le hroom, rfl⟩

theorem setJobAbortHandle_cases (s : JobRegistryState Digest) (jobId : String)
    (handle : AbortHandle) :
    (s.jobs.lookup jobId = none ∧
      s.setJobAbortHandle jobId handle = (.error (jobNotFound jobId), none, s)) ∨
    ∃ r, s.jobs.lookup jobId = some r ∧
      ((r.job.status.isTerminal = true ∧
          s.setJobAbortHandle jobId handle = (.ok (), some handle, s)) ∨
        (r.job.status.isTerminal = false ∧ s.setJobAbortHandle jobId handle =
          (.ok (), none, s.put jobId { r with abortHandle := some handle }))) := by
  unfold setJobAbortHandle
  rcases hj : s.jobs.lookup jobId with _ | r
  · exact .inl ⟨rfl, rfl⟩
  · right
    refine ⟨r, rfl, ?_⟩
    by_cases hdone : r.job.status.isTerminal = true
    · exact .inl ⟨hdone, by simp [hdone]⟩
    · exact .inr ⟨Bool.eq_false_iff.mpr hdone, by simp [hdone]⟩

theorem markJobRunning_cases (s : JobRegistryState Digest) (now : ℕ) (jobId : String) :
    (∃ err, s.markJobRunning now jobId = (.error err, s)) ∨
    ∃ r, s.jobs.lookup jobId = some r ∧ r.job.status ≠ .cancelled ∧
      s.markJobRunning now jobId = (.ok (), s.put jobId (r.markRunning now)) := by
  unfold markJobRunning
  rcases hj : s.jobs.lookup jobId with _ | r
  · exact .inl ⟨_, rfl⟩
  · by_cases hcancelled : r.job.status = .cancelled
    · exact .inl ⟨_, by simp only [hcancelled, if_true]; rfl⟩
    · exact .inr ⟨r, rfl, hcancelled, by simp [hcancelled]⟩

theorem completeJob_cases (s : JobRegistryState Digest) (jobId : String)
    (complete : JobRecord Digest → JobRecord Digest) :
    (s.completeJob jobId complete).2 = s ∨
    ∃ r, s.jobs.lookup jobId = some r ∧ r.job.status ≠ .cancelled ∧
      (s.completeJob jobId complete).2 = s.put jobId (complete r) := by
  unfold completeJob
  rcases hj : s.jobs.lookup jobId with _ | r
  · exact .inl rfl
  · by_cases hcancelled : r.job.status = .cancelled
    · exact .inl (by simp [hcancelled])
    · exact .inr ⟨r, rfl, hcancelled, by simp [hcancelled]⟩

theorem findOwned_eq_ok {now : ℕ} {ownerUser jobId : String} {r : JobRecord Digest}
    (h : s.findOwned now ownerUser jobId = .ok r) :
    (s.purged now).jobs.lookup jobId = some r ∧ r.ownerUser = ownerUser := by
  unfold findOwned at h
  split at h
  · exact absurd h (by simp)
  · next r' hlookup =>
    unfold ensureJobOwner at h
    split at h
    · next howner =>
      obtain rfl : r' = r := Except.ok.inj h
      exact ⟨hlookup, howner⟩
    · exact absurd h (by simp [Except.map])

theorem cancelJobRecord_cases (s : JobRegistryState Digest) (purgeNow now : ℕ)
    (ownerUser jobId : String) :
    (∃ result, s.cancelJobRecord purgeNow now ownerUser jobId =
      (result, none, s.purged purgeNow)) ∨
    ∃ r, (s.purged purgeNow).jobs.lookup jobId = some r ∧ r.ownerUser = ownerUser ∧
      r.job.status.isTerminal = false ∧
      s.cancelJobRecord purgeNow now ownerUser jobId =
        (.ok .cancellationRequested, r.abortHandle, (s.purged purgeNow).put jobId
          (r.markCancelled now s.policy.terminalRetentionSecs)) := by
  unfold cancelJobRecord
  rcases hfound : s.findOwned purgeNow ownerUser jobId with err | r
  · exact .inl ⟨_, rfl⟩
  · rcases findOwned_eq_ok hfound with ⟨hlookup, howner⟩
    by_cases hdone : r.job.status.isTerminal = true
    · exact .inl ⟨_, by simp only [hdone, if_true]; rfl⟩
    · exact .inr ⟨r, hlookup, howner, Bool.eq_false_iff.mpr hdone, by simp [hdone]⟩

/-- A record after `cancel_job_record` is an old one, or the record that its owner cancelled. -/
theorem cancelJobRecord_origin {purgeNow now : ℕ} {ownerUser jobId j : String}
    {r : JobRecord Digest}
    (hr : (s.cancelJobRecord purgeNow now ownerUser jobId).2.2.jobs.lookup j = some r) :
    s.jobs.lookup j = some r ∨ (j = jobId ∧ r.ownerUser = ownerUser) := by
  rcases s.cancelJobRecord_cases purgeNow now ownerUser jobId with
    ⟨result, hrefused⟩ | ⟨r₀, -, howner, -, hcancelled⟩
  · rw [hrefused] at hr
    exact .inl (s.lookup_purged_eq_some.mp hr).1
  · rw [hcancelled, lookup_put] at hr
    split at hr
    · next hj =>
      obtain rfl := Option.some.inj hr
      exact .inr ⟨hj, howner⟩
    · exact .inl (s.lookup_purged_eq_some.mp hr).1

/-! ## The jobs of a session -/

variable [DecidableEq Digest] {d : Digest} {purgeNow now : ℕ}

theorem isCancelledFor_iff {r : JobRecord Digest} :
    isCancelledFor d r = true ↔
      r.sessionTokenDigest = d ∧ r.job.status.isTerminal = false := by
  simp [isCancelledFor]

theorem lookup_cancelJobsForSession (s : JobRegistryState Digest) (purgeNow now : ℕ)
    (d : Digest) (j : String) :
    (s.cancelJobsForSession purgeNow now d).2.2.jobs.lookup j =
      ((s.purged purgeNow).jobs.lookup j).map fun r =>
        if isCancelledFor d r then
          (cancelJobRecordInPlace r now s.policy.terminalRetentionSecs).2
        else r :=
  AList.lookup_mapVal _ _ j

/-- A record after `cancel_jobs_for_session` is an old one, or an open record of the session that
has been cancelled. -/
theorem cancelJobsForSession_origin {j : String} {r : JobRecord Digest}
    (hr : (s.cancelJobsForSession purgeNow now d).2.2.jobs.lookup j = some r) :
    s.jobs.lookup j = some r ∨ ∃ r₀, s.jobs.lookup j = some r₀ ∧
      r₀.job.status.isTerminal = false ∧ r₀.sessionTokenDigest = d ∧ r.sessionTokenDigest = d := by
  rw [lookup_cancelJobsForSession, Option.map_eq_some_iff] at hr
  rcases hr with ⟨r₀, hr₀, rfl⟩
  have hold : s.jobs.lookup j = some r₀ := (s.lookup_purged_eq_some.mp hr₀).1
  by_cases hours : isCancelledFor d r₀ = true
  · obtain ⟨hdigest, hopen⟩ := isCancelledFor_iff.mp hours
    rw [if_pos hours]
    exact .inr ⟨r₀, hold, hopen, hdigest, hdigest⟩
  · rw [if_neg hours]
    exact .inl hold

/-- No job of the session is left open. -/
theorem isTerminal_cancelJobsForSession {j : String} {r : JobRecord Digest}
    (h : (s.cancelJobsForSession purgeNow now d).2.2.jobs.lookup j = some r)
    (hd : r.sessionTokenDigest = d) : r.job.status.isTerminal = true := by
  rw [lookup_cancelJobsForSession, Option.map_eq_some_iff] at h
  rcases h with ⟨old, -, rfl⟩
  by_cases hold : isCancelledFor d old = true
  · rw [if_pos hold]
    rfl
  · rw [if_neg hold] at hd ⊢
    by_contra hopen
    exact hold (isCancelledFor_iff.mpr ⟨hd, Bool.eq_false_iff.mpr hopen⟩)

/-- The handle of a job is handed over once, if the job is cancelled and has one. -/
theorem count_cancelJobsForSession (d : Digest) (purgeNow now : ℕ) (j : String)
    (hown : ∀ k r, s.jobs.lookup k = some r → isCancelledFor d r = true →
      ∀ handle, r.abortHandle = some handle → handle = ⟨k⟩) :
    (s.cancelJobsForSession purgeNow now d).2.1.count ⟨j⟩ =
      ((s.purged purgeNow).jobs.lookup j).elim 0 fun r =>
        if isCancelledFor d r = true ∧ r.abortHandle = some ⟨j⟩ then 1 else 0 := by
  have hcount : (s.cancelJobsForSession purgeNow now d).2.1.count ⟨j⟩ = _ :=
    AList.count_filterMap_entries
      (fun _ r => (cancelJobRecordInPlace r now s.policy.terminalRetentionSecs).1)
      ((s.purged purgeNow).jobs.filter fun _ r => isCancelledFor d r) ⟨j⟩
  rw [hcount, AList.total_eq_single j, AList.lookup_filter]
  · rcases (s.purged purgeNow).jobs.lookup j with _ | r
    · rfl
    · by_cases hr : isCancelledFor d r = true
      · by_cases hhandle : r.abortHandle = some ⟨j⟩
        · simp [Option.filter_some, hr, cancelJobRecordInPlace, hhandle]
        · simp [Option.filter_some, hr, cancelJobRecordInPlace, hhandle]
      · simp [Option.filter_some, hr]
  · intro k r hk hne
    rcases AList.lookup_filter_eq_some.mp hk with ⟨hk, hr⟩
    rw [if_neg]
    intro hhandle
    have hsame := hown k r (s.lookup_purged_eq_some.mp hk).1 hr ⟨j⟩ hhandle
    exact hne (AbortHandle.mk.inj hsame).symm

end JobRegistryState
end GvmGateway
