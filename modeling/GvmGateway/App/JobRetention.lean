import GvmGateway.App.JobRuns
import GvmGateway.Library.TransitionSystem

/-!
# How long a job is kept

Along every run of the registry: how many jobs there are, which jobs a call may remove, and
until when a terminal job is found.
-/

namespace GvmGateway
namespace JobRun

open JobRegistryState TransitionSystem

variable {Digest : Type} [DecidableEq Digest] {s t u : JobRun Digest} {jobId : String}
  {r r' : JobRecord Digest} {policy : JobPolicy} {calls : List (RegistryCall Digest)}

/-- What holds in every state of a run. -/
structure Reached (policy : JobPolicy) (s : JobRun Digest) : Prop where
  inv : s.Inv
  fixed : s.registry.policy = policy
  size : s.registry.jobs.entries.length ≤ policy.maxJobsTotal

theorem reached_step {c : RegistryCall Digest} (hs : Reached policy s) (h : s.step c = some t) :
    Reached policy t := by
  have hsteps := steps_of_step hs.inv h
  constructor
  · exact hsteps.inv
  · exact hsteps.policy.trans hs.fixed
  · have hsize := hsteps.size
    rw [hs.fixed] at hsize
    exact hsize hs.size

theorem reached_run (hrun : run step (new Digest policy) calls = some s) : Reached policy s := by
  apply invariant _ hrun
  · exact ⟨(fun _ _ h => nomatch h), rfl, Nat.zero_le _⟩
  · intro s c t hs h
    exact reached_step hs h

/-- The record that a job ends with. -/
theorem ended_of_change {c : RegistryCall Digest} (hs : s.Inv) (h : s.step c = some t)
    (hr : s.registry.jobs.lookup jobId = some r) (hlive : r.job.status.isTerminal = false)
    (hr' : t.registry.jobs.lookup jobId = some r') (hdone : r'.job.status.isTerminal = true) :
    r'.ownerUser = r.ownerUser ∧
      r'.purgeAfterEpochSecs = some (t.clock + s.registry.policy.terminalRetentionSecs) := by
  have hchange := (steps_of_step hs h).change jobId
  rw [hr, hr'] at hchange
  cases hchange with
  | kept => exact absurd (hlive.symm.trans hdone) Bool.false_ne_true
  | moved live owner status purgeAfter =>
    exact absurd (status.symm.trans hdone) Bool.false_ne_true
  | ended live owner status purgeAfter => exact ⟨owner, purgeAfter⟩

/-- A terminal job with the deadline `deadline` keeps its record until then. -/
structure Settled (jobId : String) (r : JobRecord Digest) (deadline : ℕ) (s : JobRun Digest) :
    Prop where
  inv : s.Inv
  drawn : (s.worker jobId).isSome = true
  record : s.registry.jobs.lookup jobId = some r ∨
    (s.registry.jobs.lookup jobId = none ∧ deadline ≤ s.clock)

theorem settled_step {deadline : ℕ} {c : RegistryCall Digest}
    (hdone : r.job.status.isTerminal = true) (hpurge : r.purgeAfterEpochSecs = some deadline)
    (hs : Settled jobId r deadline s) (h : s.step c = some t) : Settled jobId r deadline t := by
  have hsteps := steps_of_step hs.inv h
  have hchange := hsteps.change jobId
  refine ⟨hsteps.inv, hsteps.worker jobId hs.drawn, ?_⟩
  -- the record is there, or has been purged after the deadline
  obtain hsome | ⟨hnone, hdue⟩ := hs.record
  · rw [hsome] at hchange
    generalize t.registry.jobs.lookup jobId = after at hchange
    cases hchange with
    | kept => exact .inl rfl
    | purged due =>
      right
      refine ⟨rfl, ?_⟩
      unfold isRetained at due
      rw [hpurge] at due
      simpa using due
    | moved live => exact absurd (live.symm.trans hdone) Bool.false_ne_true
    | ended live => exact absurd (live.symm.trans hdone) Bool.false_ne_true
  · rw [hnone] at hchange
    generalize t.registry.jobs.lookup jobId = after at hchange
    cases hchange with
    | kept => exact .inr ⟨rfl, hdue.trans hsteps.clock⟩
    -- the identifier has been drawn, so no other job takes the place of the purged one
    | inserted free =>
      have hdrawn := hs.drawn
      rw [free] at hdrawn
      cases hdrawn

omit [DecidableEq Digest] in
/-- What the owner's snapshot of a settled job gives. -/
theorem snapshot_of_settled {deadline now : ℕ} (hpurge : r.purgeAfterEpochSecs = some deadline)
    (hs : Settled jobId r deadline s) (hnow : s.clock ≤ now) :
    (s.registry.jobSnapshot now r.ownerUser jobId).1 =
      if now < deadline then .ok r.job else .error (jobNotFound jobId) := by
  have hkept : isRetained now r = decide (now < deadline) := by
    unfold isRetained
    rw [hpurge]
  unfold jobSnapshot findOwned
  rw [lookup_purged]
  obtain hsome | ⟨hnone, hdue⟩ := hs.record
  · rw [hsome, Option.filter_some, hkept]
    by_cases hbefore : now < deadline
    · simp [hbefore, ensureJobOwner, Except.map]
    · simp [hbefore, Except.map]
  · rw [hnone, if_neg (by omega)]
    rfl

/-- Only a job with a deadline is ever due, and only a terminal one has a deadline. -/
theorem lookup_of_live {c : RegistryCall Digest} (hs : s.Inv) (h : s.step c = some t)
    (hr : s.registry.jobs.lookup jobId = some r) (hlive : r.job.status.isTerminal = false) :
    ∃ r', t.registry.jobs.lookup jobId = some r' ∧ r'.ownerUser = r.ownerUser := by
  have hchange := (steps_of_step hs h).change jobId
  have hpurge := (hs jobId r hr).purgeAfter
  rw [hr] at hchange
  generalize t.registry.jobs.lookup jobId = after at hchange ⊢
  cases hchange with
  | kept => exact ⟨r, rfl, rfl⟩
  | purged due =>
    have hdue := due_of_not_retained due
    rw [hpurge, hlive] at hdue
    cases hdue
  | moved live owner => exact ⟨_, rfl, owner⟩
  | ended live owner => exact ⟨_, rfl, owner⟩

/-- The call in which a terminal job has ended. -/
theorem exists_end (hrun : run step (new Digest policy) calls = some s)
    (hr' : s.registry.jobs.lookup jobId = some r') (hdone : r'.job.status.isTerminal = true) :
    ∃ calls₁ c calls₂ s₁ t₁ r, calls = calls₁ ++ c :: calls₂ ∧
      run step (new Digest policy) calls₁ = some s₁ ∧ s₁.step c = some t₁ ∧
      s₁.registry.jobs.lookup jobId = some r ∧ r.job.status.isTerminal = false ∧
      t₁.registry.jobs.lookup jobId = some r' := by
  -- it is the call in which the record appeared as it is now
  obtain ⟨calls₁, c, calls₂, s₁, t₁, hcalls, hrun₁, hstep, hbefore, hafter⟩ :=
    exists_step (P := fun s : JobRun Digest => s.registry.jobs.lookup jobId = some r') hrun
      nofun hr'
  have hchange := (steps_of_step (reached_run hrun₁).inv hstep).change jobId
  rw [hafter] at hchange
  generalize hold : s₁.registry.jobs.lookup jobId = before at hchange hbefore
  cases hchange with
  | kept => exact absurd rfl hbefore
  | inserted free status =>
    rw [status] at hdone
    cases hdone
  | moved live owner status => exact absurd (status.symm.trans hdone) Bool.false_ne_true
  | ended live => exact ⟨calls₁, c, calls₂, s₁, t₁, _, hcalls, hrun₁, hstep, hold, live, hafter⟩

/-- From the end of a job on, its owner finds it up to its deadline. -/
theorem snapshot_after_end {c : RegistryCall Digest} (hs : Reached policy s)
    (h : s.step c = some t) (hr : s.registry.jobs.lookup jobId = some r)
    (hlive : r.job.status.isTerminal = false) (hr' : t.registry.jobs.lookup jobId = some r')
    (hdone : r'.job.status.isTerminal = true) (hlater : run step t calls = some u) {now : ℕ}
    (hnow : u.clock ≤ now) :
    (u.registry.jobSnapshot now r.ownerUser jobId).1 =
      if now < t.clock + policy.terminalRetentionSecs then .ok r'.job
      else .error (jobNotFound jobId) := by
  obtain ⟨howner, hpurge⟩ := ended_of_change hs.inv h hr hlive hr' hdone
  rw [hs.fixed] at hpurge
  have ht := reached_step hs h
  have hsettled : Settled jobId r' (t.clock + policy.terminalRetentionSecs) t :=
    ⟨ht.inv, (ht.inv jobId r' hr').inserted, .inl hr'⟩
  have hend := invariant (fun _ _ _ hv hw => settled_step hdone hpurge hv hw) hlater hsettled
  rw [← howner]
  exact snapshot_of_settled hpurge hend hnow

omit [DecidableEq Digest] in
/-- An `insert_job` that fails has purged, and found no room. -/
theorem insertJob_error (hs : Reached policy s) {now : ℕ} {ownerUser : String} {d : Digest}
    {job : ReportExportJob} {err : GatewayError} {registry : JobRegistryState Digest}
    (h : s.registry.insertJob now ownerUser d job = (.error err, registry)) :
    registry = s.registry.purged now ∧
      (s.registry.purged now).jobs.entries.length = policy.maxJobsTotal := by
  unfold insertJob at h
  dsimp only at h
  split at h
  · next hfull =>
    obtain ⟨-, rfl⟩ := Prod.mk.inj h
    refine ⟨rfl, le_antisymm ?_ ?_⟩
    · exact (List.length_filter_le _ _).trans hs.size
    · rw [← hs.fixed]
      exact hfull
  · cases (Prod.mk.inj h).1

/-- At most `maxJobsTotal` jobs are retained. No call removes a job that is not terminal. A
terminal job has ended in one call, and from then on its owner's snapshot gives it strictly
before the time of that call plus the retention, and does not find it afterwards, whatever
calls come in between. An `insert_job` that fails leaves what the purge leaves, and finds
`maxJobsTotal` jobs that have not expired. -/
theorem jobs_retained (hrun : run step (new Digest policy) calls = some s) :
    s.registry.jobs.entries.length ≤ policy.maxJobsTotal ∧
    (∀ c t jobId r, s.step c = some t → s.registry.jobs.lookup jobId = some r →
      r.job.status.isTerminal = false →
      ∃ r', t.registry.jobs.lookup jobId = some r' ∧ r'.ownerUser = r.ownerUser) ∧
    (∀ jobId r', s.registry.jobs.lookup jobId = some r' → r'.job.status.isTerminal = true →
      ∃ calls₁ c calls₂ s₁ t₁ r, calls = calls₁ ++ c :: calls₂ ∧
        run step (new Digest policy) calls₁ = some s₁ ∧ s₁.step c = some t₁ ∧
        s₁.registry.jobs.lookup jobId = some r ∧ r.job.status.isTerminal = false ∧
        t₁.registry.jobs.lookup jobId = some r') ∧
    (∀ c t jobId r r', s.step c = some t → s.registry.jobs.lookup jobId = some r →
      r.job.status.isTerminal = false → t.registry.jobs.lookup jobId = some r' →
      r'.job.status.isTerminal = true →
      ∀ later u, run step t later = some u → ∀ now, u.clock ≤ now →
        (u.registry.jobSnapshot now r.ownerUser jobId).1 =
          if now < t.clock + policy.terminalRetentionSecs then .ok r'.job
          else .error (jobNotFound jobId)) ∧
    ∀ now ownerUser d job err registry,
      s.registry.insertJob now ownerUser d job = (.error err, registry) →
      registry = s.registry.purged now ∧
        (s.registry.purged now).jobs.entries.length = policy.maxJobsTotal := by
  have hs := reached_run hrun
  refine ⟨hs.size, ?_, ?_, ?_, ?_⟩
  · intro c t jobId r h hr hlive
    exact lookup_of_live hs.inv h hr hlive
  · intro jobId r' hr' hdone
    exact exists_end hrun hr' hdone
  · intro c t jobId r r' h hr hlive hr' hdone later u hlater now hnow
    exact snapshot_after_end hs h hr hlive hr' hdone hlater hnow
  · intro now ownerUser d job err registry h
    exact insertJob_error hs h

/-- A job is inserted at 10, runs at 11 and succeeds at 20; with a retention of 5 seconds its
owner finds it until 24, in spite of the sweep at 24, and no longer at 25. -/
theorem jobs_retained_until_deadline :
    ∃ (s t u : JobRun ℕ) (r r' : JobRecord ℕ),
      run step (new ℕ ⟨1, 5⟩) [.insertJob 10 "alice" 1 10 "j" "r" (.json ⟨none, none⟩),
        .markJobRunning 11 "j"] = some s ∧
      s.step (.markJobSucceeded 20 "j" ⟨[], "application/json", "report-r.json"⟩) = some t ∧
      run step t [.sweepExpiredJobs 24] = some u ∧
      s.registry.jobs.lookup "j" = some r ∧ t.registry.jobs.lookup "j" = some r' ∧
      (u.registry.jobSnapshot 24 "alice" "j").1 = .ok r'.job ∧
      (u.registry.jobSnapshot 25 "alice" "j").1 = .error (jobNotFound "j") := by
  have hrun : ∃ (s t u : JobRun ℕ) (r r' : JobRecord ℕ),
      run step (new ℕ ⟨1, 5⟩) [.insertJob 10 "alice" 1 10 "j" "r" (.json ⟨none, none⟩),
        .markJobRunning 11 "j"] = some s ∧
      s.step (.markJobSucceeded 20 "j" ⟨[], "application/json", "report-r.json"⟩) = some t ∧
      run step t [.sweepExpiredJobs 24] = some u ∧
      s.registry.jobs.lookup "j" = some r ∧ t.registry.jobs.lookup "j" = some r' ∧
      r.ownerUser = "alice" ∧ r.job.status = .running ∧ r'.job.status = .succeeded ∧
      t.clock = 20 ∧ u.clock = 24 :=
    ⟨_, _, _, _, _, rfl, rfl, rfl, rfl, rfl, rfl, rfl, rfl, rfl, rfl⟩
  obtain ⟨s, t, u, r, r', hs, ht, hu, hr, hr', howner, hlive, hdone, hclock, hend⟩ := hrun
  obtain ⟨-, -, -, hfound, -⟩ := jobs_retained hs
  have hsnapshot := hfound _ t "j" r r' ht hr (by rw [hlive]; rfl) hr' (by rw [hdone]; rfl) _ u hu
  rw [howner, hclock, hend] at hsnapshot
  refine ⟨s, t, u, r, r', hs, ht, hu, hr, hr', ?_, ?_⟩
  · exact hsnapshot 24 (by decide)
  · exact hsnapshot 25 (by decide)

end JobRun
end GvmGateway
