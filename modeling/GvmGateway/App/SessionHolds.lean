import GvmGateway.App.ExportLifecycle
import GvmGateway.Domain.SessionHold

/-!
# A running export keeps its session alive

`holds g d` is what the gateway says about the holds on the session of a digest; `holds_step`
shows that every step of the gateway is an event, or nothing, for the holds of every session.
From that, the counter of every session counts its guards, and no drain removes the session
of a running worker unless it was expired on request.
-/

namespace GvmGateway

open SessionTokenDigest SessionManager

/-- One for an export whose `SessionHold` guard, for the session of `d`, exists. -/
def Export.guardsOf {Digest : Type} [DecidableEq Digest] (e : Export Digest) (d : Digest) : ℕ :=
  if e.session = d ∧ e.holdsGuard = true then 1 else 0

namespace Gateway

variable {Digest : Type} [DecidableEq Digest]

/-- The number of `SessionHold` guards for a digest. -/
def guards (g : Gateway Digest) (d : Digest) : ℕ := g.exports.total fun _ e => e.guardsOf d

/-- What the gateway knows of the holds of one session. -/
def holds (g : Gateway Digest) (d : Digest) : HoldView :=
  { session := g.sessions.inner.lookup d
    guards := g.guards d
    issued := (g.creates.lookup d).isSome }

/-! ## Updates -/

variable {g t : Gateway Digest} {d : Digest} {j : String} {id : ℕ} {e old : Export Digest}
  {explicit : Prop}

theorem guards_setExport (e : Export Digest) (h : g.exports.lookup j = some old)
    (d : Digest) : (g.setExport j e).guards d + old.guardsOf d = g.guards d + e.guardsOf d :=
  AList.total_insert_of_lookup (fun _ (e : Export Digest) => e.guardsOf d) e h

theorem guards_setExport_free (e : Export Digest) (h : g.exports.lookup j = none)
    (d : Digest) : (g.setExport j e).guards d = e.guardsOf d + g.guards d :=
  AList.total_insert_of_notMem (fun _ (e : Export Digest) => e.guardsOf d) e h

/-- An export goes on and keeps its guard, or stays without one. -/
theorem guards_setExport_same (h : g.exports.lookup j = some old)
    (hsession : e.session = old.session) (hguard : e.holdsGuard = old.holdsGuard)
    (d : Digest) : (g.setExport j e).guards d = g.guards d := by
  have hsum := guards_setExport e h d
  have hsame : e.guardsOf d = old.guardsOf d := by
    unfold Export.guardsOf
    rw [hsession, hguard]
  omega

omit [DecidableEq Digest] in
theorem holdsGuard_abortRequested (e : Export Digest) :
    e.abortRequested.holdsGuard = e.holdsGuard := by
  unfold Export.abortRequested Export.holdsGuard
  rcases e.worker with _ | w <;> rfl

omit [DecidableEq Digest] in
theorem holdsGuard_workerAt {stage : WorkerStage} {w : Worker} (hw : e.worker = some w) :
    (e.workerAt stage).holdsGuard = decide (stage ≠ .finished) := by
  unfold Export.workerAt Export.holdsGuard
  rw [hw]
  rfl

theorem guards_abort (g : Gateway Digest) (handle : AbortHandle) (d : Digest) :
    (g.abort handle).guards d = g.guards d := by
  unfold abort
  split
  · rfl
  · next e he =>
    exact guards_setExport_same (e := e.abortRequested) he rfl (holdsGuard_abortRequested e) d

/-- A login that goes on keeps its digest issued. -/
theorem issued_setCreate {c : Digest} {stage stage' : CreateStage Digest}
    (h : g.creates.lookup c = some stage) (d : Digest) :
    ((g.setCreate c stage').creates.lookup d).isSome = (g.creates.lookup d).isSome := by
  unfold setCreate
  rw [AList.lookup_insert_eq_ite]
  split
  · next hd =>
    rw [hd, h]
    rfl
  · rfl

/-! ## Events -/

/-- Nothing the holds depend on has changed. -/
theorem holds_congr (hsession : t.sessions.inner.lookup d = g.sessions.inner.lookup d)
    (hguards : t.guards d = g.guards d)
    (hissued : (t.creates.lookup d).isSome = (g.creates.lookup d).isSome) :
    HoldView.Step explicit (g.holds d) (t.holds d) := by
  have hsame : t.holds d = g.holds d := HoldView.ext hsession hguards hissued
  rw [hsame]
  exact .idle

/-- A session is left alone, or has left the registry. -/
theorem removed_holds (hsession : t.sessions.inner.lookup d = g.sessions.inner.lookup d ∨
      t.sessions.inner.lookup d = none)
    (hguards : t.guards d = g.guards d)
    (hissued : (t.creates.lookup d).isSome = (g.creates.lookup d).isSome) :
    HoldView.Step explicit (g.holds d) (t.holds d) := by
  rcases hsession with hsame | hnone
  · exact holds_congr hsame hguards hissued
  · have hview : t.holds d = { g.holds d with session := none } :=
      HoldView.ext hnone hguards hissued
    rw [hview]
    exact .removed

/-- A session is changed in place, with its counter as it was. -/
theorem used_holds {c : Digest} {f : StoredSession → StoredSession}
    (hsession : t.sessions.inner.lookup d = (g.sessions.modify c f).inner.lookup d)
    (hguards : t.guards d = g.guards d)
    (hissued : (t.creates.lookup d).isSome = (g.creates.lookup d).isSome)
    (hold : ∀ s, g.sessions.inner.lookup c = some s → (f s).holdCount = s.holdCount ∧
      ((f s).state = .expired → s.state = .expired ∨ s.holdCount = 0)) :
    HoldView.Step explicit (g.holds d) (t.holds d) := by
  rw [lookup_modify] at hsession
  by_cases hd : d = c
  · subst hd
    rw [if_pos rfl] at hsession
    rcases hs : g.sessions.inner.lookup d with _ | s
    · rw [hs] at hsession
      exact holds_congr (hsession.trans hs.symm) hguards hissued
    · rw [hs] at hsession
      have hview : t.holds d = { g.holds d with session := some (f s) } :=
        HoldView.ext hsession hguards hissued
      rw [hview]
      exact .used hs (hold s hs).1 (hold s hs).2
  · rw [if_neg hd] at hsession
    exact holds_congr hsession hguards hissued

/-- An export goes on, and keeps its guard or has none. -/
theorem moved_holds (s : JobRegistryState Digest) (e : Export Digest)
    (hlookup : g.exports.lookup j = some old) (hsession : e.session = old.session)
    (hguard : e.holdsGuard = old.holdsGuard) :
    HoldView.Step explicit (g.holds d) (((g.setJobs s).setExport j e).holds d) :=
  holds_congr rfl (guards_setExport_same (g := g.setJobs s) hlookup hsession hguard d) rfl

/-- A new export holds the session, which is live. -/
theorem held_holds {c : Digest} {s : StoredSession} {now : ℕ}
    (hs : g.sessions.inner.lookup c = some s) (hactive : s.state = .active)
    (hfree : g.exports.lookup j = none) (hsession : e.session = c)
    (hguard : e.holdsGuard = true) :
    HoldView.Step explicit (g.holds d)
      ((((g.setSessions (g.sessions.put c (s.held now))).endCheck id).setExport j e).holds d) := by
  have hput := lookup_put g.sessions c d (s.held now)
  have hsum := guards_setExport_free
    (g := (g.setSessions (g.sessions.put c (s.held now))).endCheck id) e hfree d
  have hsame : ((g.setSessions (g.sessions.put c (s.held now))).endCheck id).guards d =
    g.guards d := rfl
  simp only [Export.guardsOf, hsession, hguard, and_true] at hsum
  by_cases hd : d = c
  · subst hd
    rw [if_pos rfl] at hput hsum
    have hview : (((g.setSessions (g.sessions.put d (s.held now))).endCheck id).setExport j
        e).holds d = { g.holds d with session := some (s.held now), guards := g.guards d + 1 } :=
      HoldView.ext hput (by rw [Nat.add_comm]; exact hsum) rfl
    rw [hview]
    exact .held hs hactive
  · rw [if_neg hd] at hput
    rw [if_neg (Ne.symm hd), Nat.zero_add] at hsum
    exact holds_congr hput hsum rfl

/-- A guard is dropped, and its export has none any more. -/
theorem released_holds (e : Export Digest) (hlookup : g.exports.lookup j = some old)
    (hsession : e.session = old.session) (hold : old.holdsGuard = true)
    (hguard : e.holdsGuard = false) :
    HoldView.Step explicit (g.holds d)
      (((g.setSessions (g.sessions.dropHold old.session)).setExport j e).holds d) := by
  have hsum := guards_setExport (g := g.setSessions (g.sessions.dropHold old.session)) e
    hlookup d
  have hsame : (g.setSessions (g.sessions.dropHold old.session)).guards d = g.guards d := rfl
  have hlookup' : ((g.setSessions (g.sessions.dropHold old.session)).setExport j
      e).sessions.inner.lookup d = (g.sessions.modify old.session _).inner.lookup d := rfl
  rw [lookup_modify] at hlookup'
  simp only [Export.guardsOf, hsession, hold, hguard, Bool.false_eq_true, and_false, and_true,
    if_false] at hsum
  -- of the views only that of the guard's session moves
  by_cases hd : d = old.session
  · subst hd
    rw [if_pos rfl] at hsum hlookup'
    have hview : ((g.setSessions (g.sessions.dropHold old.session)).setExport j e).holds
        old.session = { g.holds old.session with
          session := (g.sessions.inner.lookup old.session).map StoredSession.released,
          guards := ((g.setSessions (g.sessions.dropHold old.session)).setExport j e).guards
            old.session } := HoldView.ext hlookup' rfl rfl
    rw [hview]
    refine .released ?_
    show g.guards old.session = _
    omega
  · rw [if_neg (Ne.symm hd)] at hsum
    rw [if_neg hd] at hlookup'
    exact holds_congr hlookup' (by omega) rfl

/-- A step of a login that is in progress, under any token, and that leaves the sessions. -/
theorem login_holds {c : Digest} {stage stage' : CreateStage Digest}
    (h : g.creates.lookup c = some stage) :
    HoldView.Step explicit (g.holds d) ((g.setCreate c stage').holds d) :=
  holds_congr rfl rfl (issued_setCreate h d)

/-- A login that passes the limits opens its own session, and removes the expired ones. -/
theorem opened_holds {c : Digest} {user : String} {order : List Digest}
    (hfresh : g.creates.lookup c = none) :
    HoldView.Step explicit (g.holds d)
      (((g.setSessions ((g.sessions.drained g.now).put c (.opened user g.now))).setCreate c
        (.disconnecting order)).holds d) := by
  have hput := lookup_put (g.sessions.drained g.now) c d (.opened user g.now)
  have hcreate := AList.lookup_insert_eq_ite g.creates c d (CreateStage.disconnecting order)
  by_cases hd : d = c
  · -- the digest was not issued before
    subst hd
    rw [if_pos rfl] at hput hcreate
    have hun : (g.holds d).issued = false := by
      rw [holds, hfresh]
      rfl
    have hview : ((g.setSessions ((g.sessions.drained g.now).put d
        (.opened user g.now))).setCreate d (.disconnecting order)).holds d =
        { g.holds d with session := some (.opened user g.now), issued := true } :=
      HoldView.ext hput rfl (congrArg Option.isSome hcreate)
    rw [hview]
    exact .opened hun
  · rw [if_neg hd] at hput hcreate
    refine removed_holds ?_ rfl (congrArg Option.isSome hcreate)
    rcases lookup_drained_cases g.sessions g.now d with hsame | hnone
    · exact .inl (hput.trans hsame)
    · exact .inr (hput.trans hnone)

theorem holds_abort (g : Gateway Digest) (handle : AbortHandle) (d : Digest) :
    (g.abort handle).holds d = g.holds d := by
  refine HoldView.ext ?_ (guards_abort g handle d) ?_
  · show (g.abort handle).sessions.inner.lookup d = g.sessions.inner.lookup d
    rw [sessions_abort]
  · show ((g.abort handle).creates.lookup d).isSome = (g.creates.lookup d).isSome
    rw [creates_abort]

theorem idle_of_holds_eq (h : t.holds d = g.holds d) :
    HoldView.Step explicit (g.holds d) (t.holds d) := by
  rw [h]
  exact .idle

/-- The worker goes on, and is not finished. -/
theorem workerAt_holds {stage old : WorkerStage} (s : JobRegistryState Digest)
    (htask : g.exports.lookup j = some e) (hworker : e.worker.map Worker.stage = some old)
    (hold : old ≠ .finished) (hnew : stage ≠ .finished) :
    HoldView.Step explicit (g.holds d)
      (((g.setJobs s).setExport j (e.workerAt stage)).holds d) := by
  rcases Option.map_eq_some_iff.mp hworker with ⟨w, hw, rfl⟩
  refine moved_holds s (e.workerAt stage) htask rfl ?_
  rw [holdsGuard_workerAt hw, decide_eq_true hnew]
  simp [Export.holdsGuard, hw, hold]

/-- The insertion of a job succeeds or fails, and the enqueuer keeps its guard. -/
theorem enqueuerAt_holds {stage : EnqueueStage} (s : JobRegistryState Digest)
    (hg : (g.view j).Inv j) (htask : g.exports.lookup j = some e) (hold : e.enqueuer = .held)
    (hnew : stage = .rejecting ∨ stage = .inserted) :
    HoldView.Step explicit (g.holds d)
      (((g.setJobs s).setExport j (e.atStage stage)).holds d) := by
  have hworker := JobView.worker_eq_none ((JobView.inv_some htask).mp hg) (by simp [hold])
    (by simp [hold])
  refine moved_holds s (e.atStage stage) htask rfl ?_
  rcases hnew with rfl | rfl <;> simp [Export.atStage, Export.holdsGuard, hworker, hold]

/-- The enqueuer returns, and leaves the guard with the worker. -/
theorem returned_holds (s : JobRegistryState Digest) (hg : (g.view j).Inv j)
    (htask : g.exports.lookup j = some e) (hold : e.enqueuer = .spawned) :
    HoldView.Step explicit (g.holds d)
      (((g.setJobs s).setExport j (e.atStage .returned)).holds d) := by
  have he := (JobView.inv_some htask).mp hg
  refine moved_holds s (e.atStage .returned) htask rfl ?_
  rcases Option.isSome_iff_exists.mp (he.worker.mpr (.inl hold)) with ⟨w, hw⟩
  simp [Export.atStage, Export.holdsGuard, hw]

/-! ## The refinement -/

variable [SessionTokenDigest Digest] {token : String}

/-- `touch` keeps the counters. -/
theorem touch_holds (token : String)
    (hsession : t.sessions.inner.lookup d = (g.sessions.touch g.now token).2.inner.lookup d)
    (hguards : t.guards d = g.guards d)
    (hissued : (t.creates.lookup d).isSome = (g.creates.lookup d).isSome) :
    HoldView.Step explicit (g.holds d) (t.holds d) := by
  have htouch : (g.sessions.touch g.now token).2 = _ :=
    useLive_eq_modify g.sessions g.now token (·.touched g.now)
  rw [htouch] at hsession
  refine used_holds hsession hguards hissued fun s _ => ?_
  split
  · next hexpired => exact ⟨rfl, fun _ => StoredSession.idled_of_isExpiredAt hexpired⟩
  · exact ⟨rfl, fun hstate => .inl hstate⟩

/-- A session is expired on request. -/
theorem expired_holds (g : Gateway Digest) (token : String) (d : Digest)
    (hexplicit : fromToken token = d → explicit) :
    HoldView.Step explicit (g.holds d) ((g.setSessions
      (g.sessions.modify (fromToken token) StoredSession.markExpired)).holds d) := by
  have hexpire := lookup_modify g.sessions (fromToken token) d StoredSession.markExpired
  by_cases hd : d = fromToken token
  · rw [if_pos hd] at hexpire
    rcases hs : g.sessions.inner.lookup d with _ | s
    · rw [hs] at hexpire
      exact holds_congr (hexpire.trans hs.symm) rfl rfl
    · rw [hs] at hexpire
      have hview : (g.setSessions (g.sessions.modify (fromToken token)
          StoredSession.markExpired)).holds d =
          { g.holds d with session := some s.markExpired } := HoldView.ext hexpire rfl rfl
      rw [hview]
      exact .expired hs (hexplicit hd.symm)
  · rw [if_neg hd] at hexpire
    exact holds_congr hexpire rfl rfl

/-- Every step of the gateway is one event, or nothing, for the holds of every session. -/
theorem holds_step {a : Action Digest} (hviews : ∀ k, (g.view k).Inv k)
    (h : g.step a = some t) :
    HoldView.Step (∃ token, a = .expire token ∧ fromToken token = d) (g.holds d)
      (t.holds d) := by
  cases move_of_step h with
  | tick | loginRefused | sweepDisconnects | sweepEnded | deleteCancels | deleteAborted
  | deleteDisconnects | checkEnded | notCancelled | jobRead | artifactRead | jobsSwept =>
    exact .idle
  -- the registry
  | touch token => exact touch_holds token rfl rfl rfl
  | checkRefused | checkStarted => exact touch_holds _ rfl rfl rfl
  | expire token => exact expired_holds g token d fun hd => ⟨token, rfl, hd⟩
  | loginOpened fresh => exact opened_holds fresh
  | @loginRemoved token err login =>
    exact removed_holds (lookup_remove_cases g.sessions token d) rfl
      (issued_setCreate (g := g.setSessions (g.sessions.remove token).2) login d)
  | sweepDrained => exact removed_holds (lookup_drained_cases g.sessions g.now d) rfl rfl
  | deleteMissed | deleteRemoved =>
    exact removed_holds (lookup_remove_cases g.sessions _ d) rfl rfl
  | @holdRefused id jobId check _ expired =>
    refine used_holds (c := fromToken check.session.token) (f := StoredSession.markExpired)
      rfl rfl rfl fun s hs => ⟨rfl, fun _ => ?_⟩
    exact StoredSession.idled_of_isExpiredAt (expired s hs)
  | held _ free session active =>
    exact held_holds (e := ⟨_, _, _, _, _, _, _⟩) session active free rfl rfl
  -- logins that go on
  | loginDisconnects login => exact login_holds (g := g.disconnectSession _) login
  | loginAccepted login => exact login_holds (g := g.connectSession _) login
  | loginAwaits login | loginRejected login | loginReturned login | loginDropped login =>
    exact login_holds login
  -- enqueuers; the guard moves into the worker when it is spawned
  | insertRefused task stage => exact enqueuerAt_holds _ (hviews _) task stage (.inl rfl)
  | inserted task stage => exact enqueuerAt_holds _ (hviews _) task stage (.inr rfl)
  | @insertRejected jobId e task stage =>
    have hworker := JobView.worker_eq_none ((JobView.inv_some task).mp (hviews jobId))
      (by simp [stage]) (by simp [stage])
    apply released_holds (e.atStage .rejected) task rfl
    · simp [Export.holdsGuard, hworker, stage]
    · simp [Export.atStage, Export.holdsGuard, hworker]
  | @spawned jobId e task stage =>
    have hworker := JobView.worker_eq_none ((JobView.inv_some task).mp (hviews jobId))
      (by simp [stage]) (by simp [stage])
    refine moved_holds g.jobs ((e.atStage .spawned).withWorker _) task rfl ?_
    simp [Export.atStage, Export.withWorker, Export.holdsGuard, hworker, stage]
  | unregistered task stage => exact returned_holds g.jobs (hviews _) task stage
  | @registeredLate jobId e r task stage =>
    rw [holds_abort]
    exact returned_holds g.jobs (hviews _) task stage
  | registered task stage => exact returned_holds _ (hviews _) task stage
  -- workers
  | workerStarted task worker => exact workerAt_holds _ task worker (by simp) (by simp)
  | workerRefused task worker => exact workerAt_holds g.jobs task worker (by simp) (by simp)
  | exportMarked task worker => exact workerAt_holds _ task worker (by simp) (by simp)
  | exportUnmarked task worker => exact workerAt_holds g.jobs task worker (by simp) (by simp)
  | workerDropped task worker =>
    rcases worker with worker | worker
    · exact workerAt_holds g.jobs task worker (by simp) (by simp)
    · exact workerAt_holds g.jobs task worker (by simp) (by simp)
  | @workerFinished jobId e task worker =>
    rcases Option.map_eq_some_iff.mp worker with ⟨w, hw, hstage⟩
    apply released_holds (e.workerAt .finished) task rfl
    · simp [Export.holdsGuard, hw, hstage]
    · rw [holdsGuard_workerAt hw]
      rfl
  -- aborts
  | deleteAborts => exact idle_of_holds_eq (holds_abort g _ d)
  | @cancelled _ _ r =>
    rcases r.abortHandle with _ | handle
    · exact .idle
    · exact idle_of_holds_eq (holds_abort (g.setJobs _) handle d)

/-! ## Runs -/

open TransitionSystem

variable {a : Action Digest} {as : List (Action Digest)} {now idle : ℕ}
  {limits : SessionLimits} {policy : JobPolicy}

omit [DecidableEq Digest] [SessionTokenDigest Digest] in
/-- There are fewer `SessionHold` guards than the counters can count. -/
def FewGuards (g : Gateway Digest) : Prop :=
  (g.exports.total fun _ e => if e.holdsGuard then 1 else 0) < 2 ^ 64

instance (g : Gateway Digest) : Decidable g.FewGuards := inferInstanceAs (Decidable (_ < _))

omit [SessionTokenDigest Digest] in
theorem FewGuards.guards_lt (hg : g.FewGuards) (d : Digest) : g.guards d < 2 ^ 64 := by
  refine lt_of_le_of_lt (AList.total_mono fun j e => ?_) hg
  unfold Export.guardsOf
  split
  · next hboth => rw [if_pos hboth.2]
  · exact Nat.zero_le _

omit [SessionTokenDigest Digest] in
theorem holds_inv_new (now idle : ℕ) (limits : SessionLimits) (policy : JobPolicy)
    (d : Digest) : ((new Digest now idle limits policy).holds d).Inv :=
  ⟨fun _ hs => absurd hs (by simp [holds, new, withLimits]), fun _ => ⟨rfl, rfl⟩⟩

theorem holds_inv_run (h : run step (new Digest now idle limits policy) as = some g)
    (hfew : Along step (fun _ _ t => t.FewGuards) (new Digest now idle limits policy) as) :
    (∀ k, (g.view k).Inv k) ∧ ∀ d, (g.holds d).Inv :=
  invariant_along (I := fun g => (∀ k, (g.view k).Inv k) ∧ ∀ d, (g.holds d).Inv)
    (fun _ _ _ hg hfew hstep => ⟨view_inv_step hg.1 hstep, fun d =>
      HoldView.inv_step (hg.2 d) (hfew.guards_lt d) (holds_step hg.1 hstep)⟩)
    h hfew ⟨view_inv_new now idle limits policy, holds_inv_new now idle limits policy⟩

/-- The session of `d`, while registered, was expired on request at some point of a run. -/
def ExpiredOnRequest (g : Gateway Digest) (as : List (Action Digest)) (d : Digest) : Prop :=
  ∃ as₁ token as₂ u, as = as₁ ++ .expire token :: as₂ ∧ run step g as₁ = some u ∧
    fromToken token = d ∧ ∃ s, u.sessions.inner.lookup d = some s

/-- A session that is marked while it is held was expired on request. -/
theorem expiredOnRequest_of_held
    (h : run step (new Digest now idle limits policy) as = some g)
    (hfew : Along step (fun _ _ t => t.FewGuards) (new Digest now idle limits policy) as)
    (hd : (g.holds d).ExpiredHeld) :
    ExpiredOnRequest (new Digest now idle limits policy) as d := by
  have hnew : ¬ ((new Digest now idle limits policy).holds d).ExpiredHeld := by
    rintro ⟨s, hs, -⟩
    exact absurd hs (by simp [holds, new, withLimits])
  rcases exists_step (P := fun g => (g.holds d).ExpiredHeld) h hnew hd with
    ⟨as₁, a, as₂, u, v, has, hu, hv, hnot, hheld⟩
  rw [has, along_append hu] at hfew
  have hinv := holds_inv_run hu hfew.1
  rcases HoldView.expiredHeld_step (holds_step hinv.1 hv) hnot hheld with
    ⟨⟨token, rfl, hd⟩, hthere⟩
  exact ⟨as₁, token, as₂, u, has, hu, hd, hthere⟩

/-- A session with a guard is not expired at any time, unless it was expired on request. -/
theorem not_expired_of_guard {s : StoredSession} (later : ℕ)
    (h : run step (new Digest now idle limits policy) as = some g)
    (hfew : Along step (fun _ _ t => t.FewGuards) (new Digest now idle limits policy) as)
    (hguard : 0 < g.guards d)
    (hrequest : ¬ ExpiredOnRequest (new Digest now idle limits policy) as d)
    (hs : g.sessions.inner.lookup d = some s) :
    s.isExpiredAt later g.sessions.idleTimeoutSecs = false := by
  rw [← Bool.not_eq_true]
  intro hexpired
  have hcount := ((holds_inv_run h hfew).2 d).counted s hs
  have hheld : 0 < s.holdCount := by
    rw [hcount]
    exact hguard
  exact hrequest (expiredOnRequest_of_held h hfew
    ⟨s, hs, StoredSession.state_of_isExpiredAt hexpired hheld, hheld⟩)

/-- The counter of every registered session is the number of its guards. So no drain, of the
reaper or of a login under another token, removes the session of a worker that has not
finished, unless the session was expired on request. The drop of a guard whose session has
been removed changes no session. -/
theorem running_export_keeps_session
    (h : run step (new Digest now idle limits policy) as = some g)
    (hfew : Along step (fun _ _ t => t.FewGuards) (new Digest now idle limits policy) as) :
    (∀ d s, g.sessions.inner.lookup d = some s → s.holdCount = g.guards d) ∧
    (∀ j e w s, g.exports.lookup j = some e → e.worker = some w → w.stage ≠ .finished →
      g.sessions.inner.lookup e.session = some s →
      ¬ ExpiredOnRequest (new Digest now idle limits policy) as e.session →
      ∀ later, (g.sessions.drainExpired later).2.inner.lookup e.session = some s ∧
        ∀ token user, fromToken token ≠ e.session →
          (g.sessions.createDrainingExpired later token user).2.inner.lookup e.session =
            some s) ∧
    ∀ d, g.sessions.inner.lookup d = none → g.sessions.dropHold d = g.sessions := by
  refine ⟨fun d s hs => ((holds_inv_run h hfew).2 d).counted s hs, ?_, fun d hd => ?_⟩
  · intro j e w s he hw hstage hs hrequest later
    -- the worker's own guard is one of those that the count sums up
    have hguard : 0 < g.guards e.session := by
      have hle := AList.le_total_of_lookup (f := fun _ e' => Export.guardsOf e' e.session) he
      have hone : e.guardsOf e.session = 1 := by
        simp [Export.guardsOf, Export.holdsGuard, hw, hstage]
      exact lt_of_lt_of_le (by omega) hle
    have hlive := not_expired_of_guard later h hfew hguard hrequest hs
    have hkept : (g.sessions.drained later).inner.lookup e.session = some s := by
      rw [lookup_drained, hs, Option.filter_some, hlive]
      rfl
    refine ⟨hkept, fun token user hne => ?_⟩
    rcases g.sessions.createDrainingExpired_cases later token user with
      ⟨err, hfail⟩ | ⟨-, hdone⟩
    · rw [hfail]
      exact hs
    · rw [hdone, lookup_put, if_neg (Ne.symm hne)]
      exact hkept
  · unfold dropHold SessionManager.modify
    rw [hd]

/-- The worker runs for longer than the idle timeout. -/
theorem running_export_keeps_session_idle :
    ∃ (g : Gateway String) (s : StoredSession),
      run step (new String 0 300 {} {}) (oneExport ++ [.workerStep "j", .tick 400]) = some g ∧
      s.holdCount = g.guards "a" ∧ (g.sessions.drainExpired 1000).2.inner.lookup "a" = some s ∧
      ∀ d, g.sessions.inner.lookup d = none → g.sessions.dropHold d = g.sessions := by
  have hrun : ∃ (g : Gateway String) (e : Export String) (w : Worker) (s : StoredSession),
      run step (new String 0 300 {} {}) (oneExport ++ [.workerStep "j", .tick 400]) = some g ∧
      g.exports.lookup "j" = some e ∧ e.worker = some w ∧ w.stage = .running ∧
      e.session = "a" ∧ g.sessions.inner.lookup "a" = some s :=
    ⟨_, _, _, _, rfl, rfl, rfl, rfl, rfl, rfl⟩
  rcases hrun with ⟨g, e, w, s, hg, he, hw, hstage, hsession, hs⟩
  have hrequest : ¬ ExpiredOnRequest (new String 0 300 {} {})
      (oneExport ++ [.workerStep "j", .tick 400]) e.session := by
    rintro ⟨as₁, token, as₂, u, has, -⟩
    have hmem : Action.expire token ∈ oneExport ++ [.workerStep "j", .tick 400] := by
      rw [has]
      simp
    exact absurd hmem (by simp [oneExport])
  rcases running_export_keeps_session hg (by decide) with ⟨hcount, hdrain, hdrop⟩
  have hkept := (hdrain "j" e w s he hw (by simp [hstage]) (hsession ▸ hs) hrequest 1000).1
  exact ⟨g, s, hg, hcount "a" s hs, hsession ▸ hkept, hdrop⟩

end Gateway
end GvmGateway
