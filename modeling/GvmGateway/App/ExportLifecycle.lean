import GvmGateway.App.JobLife

/-!
# The gateway refines the life of every job

`view g j` is what the gateway says about one job; `view_step` shows that every step of the
gateway is an event, or nothing, in the life of every job.
-/

namespace GvmGateway

open JobRegistryState SessionTokenDigest

/-- How often a `delete_session` is going to abort the worker of a job. -/
def DeleteCall.aborts {Digest : Type} (c : DeleteCall Digest) (jobId : String) : ℕ :=
  match c.stage with
  | .aborting handles => handles.count ⟨jobId⟩
  | .removed | .disconnecting | .returned => 0

namespace Gateway

variable {Digest : Type} [DecidableEq Digest]

/-- What the gateway knows of one job. -/
def view (g : Gateway Digest) (j : String) : JobView Digest :=
  { task := g.exports.lookup j
    record := g.jobs.jobs.lookup j
    pendingAborts := g.deletes.total fun _ c => c.aborts j }

/-! ## Updates -/

section Updates

omit [DecidableEq Digest]

variable {g t : Gateway Digest} {j k : String} {id : ℕ} {admits : Prop}

theorem view_setExport (g : Gateway Digest) (k j : String) (e : Export Digest) :
    (g.setExport k e).view j = if j = k then { g.view j with task := some e } else g.view j := by
  have hlookup : (g.setExport k e).exports.lookup j =
      if j = k then some e else g.exports.lookup j :=
    AList.lookup_insert_eq_ite g.exports k j e
  by_cases hj : j = k
  · rw [if_pos hj] at hlookup ⊢
    exact JobView.ext hlookup rfl rfl
  · rw [if_neg hj] at hlookup ⊢
    exact JobView.ext hlookup rfl rfl

theorem view_put (g : Gateway Digest) (s : JobRegistryState Digest) (k j : String)
    (r : JobRecord Digest) :
    (g.setJobs (s.put k r)).view j =
      if j = k then { g.view j with record := some r } else (g.setJobs s).view j := by
  have hlookup := s.lookup_put k j r
  by_cases hj : j = k
  · rw [if_pos hj] at hlookup ⊢
    exact JobView.ext rfl hlookup rfl
  · rw [if_neg hj] at hlookup ⊢
    exact JobView.ext rfl hlookup rfl

theorem pendingAborts_setDelete {old c : DeleteCall Digest}
    (h : g.deletes.lookup id = some old) (j : String) :
    ((g.setDelete id c).view j).pendingAborts + old.aborts j =
      (g.view j).pendingAborts + c.aborts j :=
  AList.total_insert_of_lookup (fun _ (c : DeleteCall Digest) => c.aborts j) c h

theorem view_setDelete {old c : DeleteCall Digest} (h : g.deletes.lookup id = some old)
    (hsame : c.aborts j = old.aborts j) : (g.setDelete id c).view j = g.view j := by
  have hpending := pendingAborts_setDelete (c := c) h j
  refine JobView.ext rfl rfl ?_
  omega

theorem view_abort (g : Gateway Digest) (k j : String) :
    (g.abort ⟨k⟩).view j = if j = k then (g.view j).aborted else g.view j := by
  unfold abort
  rcases hlookup : g.exports.lookup k with _ | e
  · by_cases hj : j = k
    · subst hj
      have htask : (g.view j).task = none := hlookup
      rw [if_pos rfl, JobView.aborted, htask]
      exact JobView.ext htask rfl rfl
    · rw [if_neg hj]
  · simp only
    rw [view_setExport]
    by_cases hj : j = k
    · subst hj
      have htask : (g.view j).task = some e := hlookup
      rw [if_pos rfl, if_pos rfl, JobView.aborted, htask]
      rfl
    · rw [if_neg hj, if_neg hj]

/-! ## Events -/

/-- A purge is an event in the life of a job, or nothing. -/
theorem purged_view (g : Gateway Digest) (now : ℕ) (j : String) :
    JobView.Step j admits (g.view j) ((g.setJobs (g.jobs.purged now)).view j) := by
  rcases g.jobs.lookup_purged_cases now j with hsame | ⟨r, hr, hdue, hgone⟩
  · have hview : (g.setJobs (g.jobs.purged now)).view j = g.view j :=
      JobView.ext rfl hsame rfl
    rw [hview]
    exact .idle
  · have hview : (g.setJobs (g.jobs.purged now)).view j = { g.view j with record := none } :=
      JobView.ext rfl hgone rfl
    rw [hview]
    exact .purged hr hdue

theorem idle_of_view_eq (h : t.view j = g.view j) : JobView.Step j admits (g.view j) (t.view j) := by
  rw [h]
  exact .idle

/-- The handle of an open record is that of its own worker. -/
theorem handle_eq {r : JobRecord Digest} (hg : (g.view j).Inv j)
    (hr : g.jobs.jobs.lookup j = some r) (hopen : r.job.status.isTerminal = false)
    {handle : AbortHandle} (hhandle : r.abortHandle = some handle) : handle = ⟨j⟩ := by
  rcases JobView.task_of_record hg hr with ⟨e, -, he⟩
  have hown := (he.agrees r rfl).handle hopen
  rw [hhandle] at hown
  split at hown
  · exact Option.some.inj hown
  · exact absurd hown (by simp)

end Updates

variable {g t : Gateway Digest} {j k : String} {id : ℕ} {admits : Prop}

section Targets

omit [DecidableEq Digest]

/-- A step that moves one export on. -/
theorem setExport_view {g' : Gateway Digest} {e : Export Digest}
    (htarget : JobView.Step k admits (g.view k) { g'.view k with task := some e })
    (hothers : JobView.Step j admits (g.view j) (g'.view j)) :
    JobView.Step j admits (g.view j) ((g'.setExport k e).view j) := by
  rw [view_setExport]
  by_cases hj : j = k
  · subst hj
    rwa [if_pos rfl]
  · rwa [if_neg hj]

/-- A step that moves one export on and writes the record of its job. -/
theorem put_setExport_view {s : JobRegistryState Digest} {r : JobRecord Digest}
    {e : Export Digest}
    (htarget : JobView.Step k admits (g.view k)
      { g.view k with task := some e, record := some r })
    (hothers : JobView.Step j admits (g.view j) ((g.setJobs s).view j)) :
    JobView.Step j admits (g.view j) (((g.setJobs (s.put k r)).setExport k e).view j) := by
  rw [view_setExport, view_put]
  by_cases hj : j = k
  · subst hj
    rwa [if_pos rfl, if_pos rfl]
  · rwa [if_neg hj, if_neg hj]

/-- A step that moves one export on and aborts its worker. -/
theorem setExport_abort_view {e : Export Digest}
    (htarget : JobView.Step k admits (g.view k) { g.view k with task := some e.abortRequested }) :
    JobView.Step j admits (g.view j) (((g.setExport k e).abort ⟨k⟩).view j) := by
  rw [view_abort, view_setExport]
  by_cases hj : j = k
  · subst hj
    rw [if_pos rfl, if_pos rfl]
    exact htarget
  · rw [if_neg hj, if_neg hj]
    exact .idle

/-- The insertion of a job is refused. -/
theorem refused_view {e : Export Digest} (hg : (g.view k).Inv k)
    (htask : g.exports.lookup k = some e) (stage : e.enqueuer = .held) (j : String) :
    JobView.Step j admits (g.view j)
      (((g.setJobs (g.jobs.purged g.now)).setExport k (e.atStage .rejecting)).view j) := by
  refine setExport_view ?_ (purged_view g g.now j)
  -- there is no record yet that the purge could remove
  have hnone : g.jobs.jobs.lookup k = none :=
    ((JobView.inv_some htask).mp hg).early (.inl stage)
  have hview : (g.setJobs (g.jobs.purged g.now)).view k = g.view k := by
    refine JobView.ext rfl ?_ rfl
    show (g.jobs.purged g.now).jobs.lookup k = g.jobs.jobs.lookup k
    rw [lookup_purged, hnone]
    rfl
  rw [hview]
  exact .refused htask stage

/-- A job is inserted, by a step that admits it. -/
theorem inserted_view {e : Export Digest} (htask : g.exports.lookup k = some e)
    (stage : e.enqueuer = .held) (hadmits : j = k → admits) :
    JobView.Step j admits (g.view j)
      (((g.setJobs ((g.jobs.purged g.now).put k (e.newRecord k))).setExport k
        (e.atStage .inserted)).view j) := by
  by_cases hj : j = k
  · exact put_setExport_view (.inserted htask stage (hadmits hj)) (purged_view g g.now j)
  · rw [view_setExport, if_neg hj, view_put, if_neg hj]
    exact purged_view g g.now j

/-! Cancellations. -/

/-- A job is cancelled on request, and its worker aborted inside the lock. -/
theorem cancelledOne_view {r : JobRecord Digest} (hg : (g.view k).Inv k)
    (hfound : (g.jobs.purged g.now).jobs.lookup k = some r)
    (hopen : r.job.status.isTerminal = false) (j : String) :
    JobView.Step j admits (g.view j)
      (((g.setJobs ((g.jobs.purged g.now).put k
        (r.markCancelled g.now g.jobs.policy.terminalRetentionSecs))).abortFound
        r.abortHandle).view j) := by
  have hrecord := (g.jobs.lookup_purged_eq_some.mp hfound).1
  rcases hhandle : r.abortHandle with _ | handle
  · show JobView.Step j admits (g.view j) ((g.setJobs ((g.jobs.purged g.now).put k _)).view j)
    rw [view_put]
    by_cases hj : j = k
    · subst hj
      rw [if_pos rfl]
      exact .cancelled hrecord hopen hhandle
    · rw [if_neg hj]
      exact purged_view g g.now j
  -- the handle on record is the job's own
  · obtain rfl := handle_eq hg hrecord hopen hhandle
    show JobView.Step j admits (g.view j)
      (((g.setJobs ((g.jobs.purged g.now).put k _)).abort ⟨k⟩).view j)
    rw [view_abort, view_put]
    by_cases hj : j = k
    · subst hj
      rw [if_pos rfl, if_pos rfl]
      exact .cancelledAborting hrecord hopen hhandle
    · rw [if_neg hj, if_neg hj]
      exact purged_view g g.now j

/-- An open record has no artifact to clear, so both ways of cancelling write the same. -/
theorem cancelInPlace_eq {r : JobRecord Digest} {now retentionSecs : ℕ} (hr : r.WellFormed)
    (hopen : r.job.status.isTerminal = false) :
    (cancelJobRecordInPlace r now retentionSecs).2 = r.markCancelled now retentionSecs := by
  rcases hr.unset hopen with ⟨-, -, -, hartifact, -⟩
  simp [cancelJobRecordInPlace, JobRecord.markCancelled, hartifact]

end Targets

/-- What `cancel_jobs_for_session` does to one job, once the handles it found are on the list
of the call. -/
theorem cancelled_view {d : Digest} (hg : (g.view j).Inv j)
    (htask : (t.view j).task = (g.view j).task)
    (hrecord : (t.view j).record = ((g.jobs.purged g.now).jobs.lookup j).map fun r =>
      if isCancelledFor d r then
        (cancelJobRecordInPlace r g.now g.jobs.policy.terminalRetentionSecs).2
      else r)
    (hpending : (t.view j).pendingAborts = (g.view j).pendingAborts +
      ((g.jobs.purged g.now).jobs.lookup j).elim 0 fun r =>
        if isCancelledFor d r = true ∧ r.abortHandle = some ⟨j⟩ then 1 else 0) :
    JobView.Step j admits (g.view j) (t.view j) := by
  -- a job that is not cancelled sees the purge alone
  have hpurged : (t.view j).record = (g.jobs.purged g.now).jobs.lookup j →
      (t.view j).pendingAborts = (g.view j).pendingAborts →
      JobView.Step j admits (g.view j) (t.view j) := by
    intro hsame hnone
    have hview : t.view j = (g.setJobs (g.jobs.purged g.now)).view j :=
      JobView.ext htask hsame hnone
    rw [hview]
    exact purged_view g g.now j
  rcases hfound : (g.jobs.purged g.now).jobs.lookup j with _ | r
  · rw [hfound] at hrecord hpending
    exact hpurged (hrecord.trans hfound.symm) hpending
  · rw [hfound] at hrecord hpending
    by_cases hr : isCancelledFor d r = true
    · have hopen := (isCancelledFor_iff.mp hr).2
      have hold : (g.view j).record = some r := (g.jobs.lookup_purged_eq_some.mp hfound).1
      rcases JobView.task_of_record hg hold with ⟨e, -, he⟩
      rw [Option.map_some, if_pos hr, cancelInPlace_eq (he.agrees r rfl).wellFormed hopen]
        at hrecord
      rcases hhandle : r.abortHandle with _ | handle
      · have hnone : (t.view j).pendingAborts = (g.view j).pendingAborts := by
          simpa [hhandle] using hpending
        have hview : t.view j = { g.view j with
            record := some (r.markCancelled g.now g.jobs.policy.terminalRetentionSecs) } :=
          JobView.ext htask hrecord hnone
        rw [hview]
        exact .cancelled hold hopen hhandle
      · obtain rfl := handle_eq hg hold hopen hhandle
        have hone : (t.view j).pendingAborts = (g.view j).pendingAborts + 1 := by
          simpa [hhandle, hr] using hpending
        have hview : t.view j = { g.view j with
            record := some (r.markCancelled g.now g.jobs.policy.terminalRetentionSecs),
            pendingAborts := (g.view j).pendingAborts + 1 } :=
          JobView.ext htask hrecord hone
        rw [hview]
        exact .cancelledCollecting hold hopen hhandle
    · refine hpurged ?_ ?_
      · rw [hrecord, Option.map_some, if_neg hr, hfound]
      · simpa [hr] using hpending

/-- The jobs of a session are cancelled, and their handles go on the list of the call. -/
theorem deleteCancels_view {d : Digest} {order : List AbortHandle}
    (hg : ∀ k, (g.view k).Inv k) (hdelete : g.deletes.lookup id = some ⟨d, .removed⟩)
    (hperm : order.Perm (g.jobs.cancelJobsForSession g.now g.now d).2.1) (j : String) :
    JobView.Step j admits (g.view j)
      (((g.setJobs (g.jobs.cancelJobsForSession g.now g.now d).2.2).setDelete id
        ⟨d, .aborting order⟩).view j) := by
  have hcount := hperm.count_eq (⟨j⟩ : AbortHandle)
  have hhandles := count_cancelJobsForSession d g.now g.now j fun k r hk hr handle hhandle =>
    handle_eq (hg k) hk (isCancelledFor_iff.mp hr).2 hhandle
  have htotal := AList.total_insert_of_lookup (fun _ c => DeleteCall.aborts c j)
    (⟨d, .aborting order⟩ : DeleteCall Digest) hdelete
  refine cancelled_view (d := d) (hg j) rfl
    (lookup_cancelJobsForSession g.jobs g.now g.now d j) ?_
  exact htotal.trans (congrArg ((g.view j).pendingAborts + ·) (hcount.trans hhandles))

omit [DecidableEq Digest] in
/-- A `delete_session` aborts the worker of `k`, whose handle is on its list. -/
theorem deleteAborts_view {d : Digest} {handles : List AbortHandle}
    (hdelete : g.deletes.lookup id = some ⟨d, .aborting (⟨k⟩ :: handles)⟩) (j : String) :
    JobView.Step j admits (g.view j)
      (((g.abort ⟨k⟩).setDelete id ⟨d, .aborting handles⟩).view j) := by
  have hpending := pendingAborts_setDelete (g := g.abort ⟨k⟩)
    (c := ⟨d, .aborting handles⟩) ((g.deletes_abort ⟨k⟩).symm ▸ hdelete) j
  have hsame : ((g.abort ⟨k⟩).setDelete id ⟨d, .aborting handles⟩).view j =
      { (g.abort ⟨k⟩).view j with pendingAborts :=
        (((g.abort ⟨k⟩).setDelete id ⟨d, .aborting handles⟩).view j).pendingAborts } := rfl
  simp only [DeleteCall.aborts, List.count_cons] at hpending
  rw [view_abort] at hpending hsame
  rw [hsame]
  by_cases hj : j = k
  · subst hj
    simp only [if_true, beq_self_eq_true] at hpending ⊢
    refine .abortDelivered ?_
    have haborted : (g.view j).aborted.pendingAborts = (g.view j).pendingAborts := rfl
    omega
  · have hne : ((⟨k⟩ : AbortHandle) == ⟨j⟩) = false := by
      simp [Ne.symm hj]
    simp only [if_neg hj, hne, Bool.false_eq_true, if_false] at hpending ⊢
    have hnone : (((g.abort ⟨k⟩).setDelete id ⟨d, .aborting handles⟩).view j).pendingAborts =
        (g.view j).pendingAborts := by omega
    rw [hnone]
    exact .idle

omit [DecidableEq Digest] in
/-- A `delete_session` begins, with no handle on its list. -/
theorem view_setDelete_free {d : Digest} (hfree : g.deletes.lookup id = none) (j : String) :
    (g.setDelete id ⟨d, .removed⟩).view j = g.view j := by
  refine JobView.ext rfl rfl ?_
  have htotal := AList.total_insert_of_notMem (fun _ c => DeleteCall.aborts c j)
    (⟨d, .removed⟩ : DeleteCall Digest) hfree
  exact htotal.trans (Nat.zero_add _)

/-! ## The refinement -/

variable [SessionTokenDigest Digest]

/-- Every step of the gateway is one event, or nothing, in the life of every job. -/
theorem view_step {a : Action Digest} (hg : ∀ k, (g.view k).Inv k) (h : g.step a = some t)
    (j : String) : JobView.Step j (a = .enqueueStep j ∧ g.jobs.HasRoom g.now)
      (g.view j) (t.view j) := by
  cases move_of_step h with
  -- sessions, logins and sweeps do not touch the jobs
  | tick | touch | expire | loginRefused | loginOpened | loginDisconnects | loginAwaits
  | loginAccepted | loginRejected | loginRemoved | loginReturned | loginDropped | sweepDrained
  | sweepDisconnects | sweepEnded | deleteMissed | checkRefused | checkStarted | checkEnded
  | holdRefused => exact .idle
  -- deletions
  | deleteRemoved free =>
    exact idle_of_view_eq (view_setDelete_free (g := g.setSessions _) free j)
  | deleteCancels delete handles => exact deleteCancels_view hg delete handles j
  | deleteAborts delete => exact deleteAborts_view delete j
  | deleteAborted delete => exact idle_of_view_eq (view_setDelete delete rfl)
  | @deleteDisconnects id d delete =>
    exact idle_of_view_eq (view_setDelete (g := g.disconnectSession d) delete rfl)
  -- enqueuers
  | held _ free => exact setExport_view (g := g) (.held free rfl rfl) .idle
  | insertRefused task stage => exact refused_view (hg _) task stage j
  | inserted task stage room => exact inserted_view task stage fun hj => ⟨by rw [hj], room⟩
  | insertRejected task stage => exact setExport_view (g := g) (.rejected task stage) .idle
  | spawned task stage => exact setExport_view (.spawned task stage) .idle
  | unregistered task stage record =>
    exact setExport_view (.unregistered task stage record) .idle
  | registeredLate task stage record done =>
    exact setExport_abort_view (.registeredLate task stage record done)
  | registered task stage record live =>
    exact put_setExport_view (.registered task stage record live) .idle
  -- workers
  | workerStarted task worker record live =>
    exact put_setExport_view (.started task worker record live) .idle
  | workerRefused task worker => exact setExport_view (.stopped task (.inl worker)) .idle
  | exportMarked task worker record live marked =>
    have hmarked := Or.imp (fun h => Exists.imp (fun _ => And.right) h)
      (fun h => Exists.imp (fun _ => And.right) h) marked
    exact put_setExport_view (.completed task worker record live hmarked) .idle
  | exportUnmarked task worker => exact setExport_view (.stopped task (.inr worker)) .idle
  | workerDropped task worker => exact setExport_view (.stopped task worker) .idle
  | workerFinished task worker => exact setExport_view (g := g) (.finished task worker) .idle
  -- the job registry
  | cancelled record live => exact cancelledOne_view (hg _) record live j
  | notCancelled | jobRead | artifactRead | jobsSwept => exact purged_view g g.now j

/-! ## Deletions -/

/-- Where a `delete_session` call comes from: it was there before, and was past its
`cancel_jobs_for_session` unless the step is that very call, or the step is its first. -/
theorem deletes_origin {a : Action Digest} {c : DeleteCall Digest} (h : g.step a = some t)
    (hc : t.deletes.lookup id = some c) :
    (∃ c₀, g.deletes.lookup id = some c₀ ∧ c₀.session = c.session ∧
      (c.stage ≠ .removed → c₀.stage ≠ .removed ∨
        t.jobs = (g.jobs.cancelJobsForSession g.now g.now c.session).2.2)) ∨
    ∃ token, a = .deleteSession id token ∧ c = ⟨fromToken token, .removed⟩ := by
  -- most steps do not touch the deletions
  have hframe : t.deletes = g.deletes → ∃ c₀, g.deletes.lookup id = some c₀ ∧
      c₀.session = c.session ∧ (c.stage ≠ .removed → c₀.stage ≠ .removed ∨
        t.jobs = (g.jobs.cancelJobsForSession g.now g.now c.session).2.2) := by
    intro hsame
    exact ⟨c, hsame ▸ hc, rfl, .inl⟩
  -- the others move one of them on
  have hmoved : ∀ id' c₀ stage, g.deletes.lookup id' = some c₀ →
      t.deletes = g.deletes.insert id' ⟨c₀.session, stage⟩ →
      c₀.stage ≠ .removed ∨
        t.jobs = (g.jobs.cancelJobsForSession g.now g.now c₀.session).2.2 →
      ∃ c₀, g.deletes.lookup id = some c₀ ∧ c₀.session = c.session ∧
        (c.stage ≠ .removed → c₀.stage ≠ .removed ∨
          t.jobs = (g.jobs.cancelJobsForSession g.now g.now c.session).2.2) := by
    intro id' c₀ stage hdelete hsame hstage
    rw [hsame, AList.lookup_insert_eq_ite] at hc
    split at hc
    · next hid =>
      obtain rfl := Option.some.inj hc
      exact ⟨c₀, hid ▸ hdelete, rfl, fun _ => hstage⟩
    · exact ⟨c, hc, rfl, .inl⟩
  cases move_of_step h with
  | tick | touch | expire | loginRefused | loginOpened | loginDisconnects | loginAwaits
  | loginAccepted | loginRejected | loginRemoved | loginReturned | loginDropped | sweepDrained
  | sweepDisconnects | sweepEnded | deleteMissed | checkRefused | checkStarted | checkEnded
  | holdRefused | held | insertRefused | inserted | insertRejected | spawned | unregistered
  | registered | workerStarted | workerRefused | exportMarked | exportUnmarked
  | workerDropped | workerFinished | notCancelled | jobRead | artifactRead | jobsSwept =>
    exact .inl (hframe rfl)
  | registeredLate => exact .inl (hframe (deletes_abort _ _))
  | cancelled => exact .inl (hframe (deletes_abortFound _ _))
  | @deleteRemoved id' token _ free =>
    have hlookup : (g.deletes.insert id' ⟨fromToken token, .removed⟩).lookup id = some c := hc
    rw [AList.lookup_insert_eq_ite] at hlookup
    split at hlookup
    · next hid =>
      obtain rfl := Option.some.inj hlookup
      exact .inr ⟨token, by rw [hid], rfl⟩
    · exact .inl ⟨c, hlookup, rfl, .inl⟩
  | @deleteCancels id' d order delete =>
    exact .inl (hmoved id' _ (.aborting order) delete rfl (.inr rfl))
  | @deleteAborts id' d handle handles delete =>
    refine .inl (hmoved id' _ (.aborting handles) delete ?_ (.inl (by simp)))
    show (g.abort handle).deletes.insert _ _ = _
    rw [deletes_abort]
  | @deleteAborted id' d delete =>
    exact .inl (hmoved id' _ .disconnecting delete rfl (.inl (by simp)))
  | @deleteDisconnects id' d delete =>
    exact .inl (hmoved id' _ .returned delete rfl (.inl (by simp)))

/-- A deletion that is past its `cancel_jobs_for_session` was so before, or the step is that
very call. -/
theorem deletes_step {a : Action Digest} {c : DeleteCall Digest} (h : g.step a = some t)
    (hc : t.deletes.lookup id = some c) (hlate : c.stage ≠ .removed) :
    (∃ c₀, g.deletes.lookup id = some c₀ ∧ c₀.session = c.session ∧ c₀.stage ≠ .removed) ∨
    t.jobs = (g.jobs.cancelJobsForSession g.now g.now c.session).2.2 := by
  rcases deletes_origin h hc with ⟨c₀, hc₀, hsession, hstage⟩ | ⟨token, -, rfl⟩
  · rcases hstage hlate with hlate₀ | hjobs
    · exact .inl ⟨c₀, hc₀, hsession, hlate₀⟩
    · exact .inr hjobs
  · exact absurd rfl hlate

/-! ## Cancellations -/

/-- Where a cancelled record comes from: it was cancelled before, or its owner cancels it in the
step, or the step is the `cancel_jobs_for_session` of its session and it was open. -/
theorem cancelled_origin {a : Action Digest} {r : JobRecord Digest} (h : g.step a = some t)
    (hr : t.jobs.jobs.lookup j = some r) (hcancelled : r.job.status = .cancelled) :
    (∃ r₀, g.jobs.jobs.lookup j = some r₀ ∧ r₀.job.status = .cancelled ∧
      r₀.ownerUser = r.ownerUser ∧ r₀.sessionTokenDigest = r.sessionTokenDigest) ∨
    a = .cancelJobRecord r.ownerUser j ∨
    ∃ id order c r₀, a = .cancelJobs id order ∧ g.deletes.lookup id = some c ∧
      g.jobs.jobs.lookup j = some r₀ ∧ r₀.job.status.isTerminal = false ∧
      c.session = r₀.sessionTokenDigest ∧ r₀.sessionTokenDigest = r.sessionTokenDigest := by
  -- the record is an old one
  have hold : g.jobs.jobs.lookup j = some r → ∃ r₀, g.jobs.jobs.lookup j = some r₀ ∧
      r₀.job.status = .cancelled ∧ r₀.ownerUser = r.ownerUser ∧
      r₀.sessionTokenDigest = r.sessionTokenDigest := by
    intro hr
    exact ⟨r, hr, hcancelled, rfl, rfl⟩
  have hpurged : (g.jobs.purged g.now).jobs.lookup j = some r → ∃ r₀,
      g.jobs.jobs.lookup j = some r₀ ∧ r₀.job.status = .cancelled ∧
      r₀.ownerUser = r.ownerUser ∧ r₀.sessionTokenDigest = r.sessionTokenDigest := by
    intro hr
    exact hold (g.jobs.lookup_purged_eq_some.mp hr).1
  -- the step writes one that is not cancelled
  have hput : ∀ (s : JobRegistryState Digest) k r', (s.put k r').jobs.lookup j = some r →
      (k = j → r' ≠ r) → s.jobs.lookup j = some r := by
    intro s k r' hlookup hne
    rw [lookup_put] at hlookup
    split at hlookup
    · next hk => exact absurd (Option.some.inj hlookup) (hne hk.symm)
    · exact hlookup
  cases move_of_step h with
  | tick | touch | expire | loginRefused | loginOpened | loginDisconnects | loginAwaits
  | loginAccepted | loginRejected | loginRemoved | loginReturned | loginDropped | sweepDrained
  | sweepDisconnects | sweepEnded | deleteMissed | deleteRemoved | deleteAborted
  | deleteDisconnects | checkRefused | checkStarted | checkEnded | holdRefused | held
  | insertRejected | spawned | unregistered | workerRefused | exportUnmarked | workerDropped
  | workerFinished =>
    exact .inl (hold hr)
  | insertRefused | notCancelled | jobRead | artifactRead | jobsSwept => exact .inl (hpurged hr)
  | registeredLate =>
    rw [jobs_abort] at hr
    exact .inl (hold hr)
  | @deleteAborts id d handle handles =>
    have hlookup : (g.abort handle).jobs.jobs.lookup j = some r := hr
    rw [jobs_abort] at hlookup
    exact .inl (hold hlookup)
  | @inserted k e =>
    refine .inl (hpurged (hput _ k (e.newRecord k) hr fun _ hsame => ?_))
    rw [← hsame, Export.status_newRecord] at hcancelled
    exact nomatch hcancelled
  | @registered k e r' task stage record live =>
    refine .inl (hold (hput g.jobs k _ hr fun _ hsame => ?_))
    rw [← hsame] at hcancelled
    have hstatus : r'.job.status = .cancelled := hcancelled
    rw [hstatus] at live
    exact nomatch live
  | @workerStarted k e r' =>
    refine .inl (hold (hput g.jobs k (r'.markRunning g.now) hr fun _ hsame => ?_))
    rw [← hsame] at hcancelled
    exact nomatch hcancelled
  | @exportMarked k result e r₀ r' task worker record live marked =>
    refine .inl (hold (hput g.jobs k r' hr fun _ hsame => ?_))
    rw [← hsame] at hcancelled
    rcases marked with ⟨artifact, -, rfl⟩ | ⟨error, -, rfl⟩
    · exact nomatch hcancelled
    · exact nomatch hcancelled
  | @cancelled ownerUser k r' record live =>
    have hjobs : (g.cancelJobRecord ownerUser k).jobs =
        (g.jobs.cancelJobRecord g.now g.now ownerUser k).2.2 := jobs_abortFound _ _
    rw [Option.some.inj h] at hjobs
    rw [hjobs] at hr
    rcases g.jobs.cancelJobRecord_origin hr with hr | ⟨hj, howner⟩
    · exact .inl (hold hr)
    · exact .inr (.inl (by rw [hj, howner]))
  | @deleteCancels id d order delete =>
    rcases g.jobs.cancelJobsForSession_origin hr with hr | ⟨r₀, hr₀, hopen, hdigest, hsame⟩
    · exact .inl (hold hr)
    · right
      right
      exact ⟨id, order, _, r₀, rfl, delete, hr₀, hopen, hdigest.symm, hdigest.trans hsame.symm⟩

/-! ## Runs -/

open TransitionSystem

variable {as : List (Action Digest)} {now idle : ℕ} {limits : SessionLimits}
  {policy : JobPolicy}

omit [SessionTokenDigest Digest] [DecidableEq Digest] in
theorem view_inv_new (now idle : ℕ) (limits : SessionLimits) (policy : JobPolicy)
    (j : String) : ((new Digest now idle limits policy).view j).Inv j := ⟨rfl, rfl⟩

theorem view_inv_step {a : Action Digest} (hg : ∀ k, (g.view k).Inv k)
    (h : g.step a = some t) : ∀ k, (t.view k).Inv k :=
  fun k => JobView.inv_step (hg k) (view_step hg h k)

theorem view_inv_run (h : run step (new Digest now idle limits policy) as = some g) :
    ∀ k, (g.view k).Inv k :=
  invariant (I := fun g => ∀ k, (g.view k).Inv k) (fun _ _ _ hg hstep => view_inv_step hg hstep)
    h (view_inv_new now idle limits policy)

/-- A session with one export whose worker is spawned: "a" of alice, and job "j". -/
def oneExport : List (Action String) :=
  [.createSession "a" "alice" [], .createStep "a", .authenticate "a" (.ok ()),
    .createStep "a", .createReportExportJob 0 "a" "report" (.json ⟨none, none⟩),
    .holdSession 0 "j", .enqueueStep "j", .enqueueStep "j"]

end Gateway
end GvmGateway
