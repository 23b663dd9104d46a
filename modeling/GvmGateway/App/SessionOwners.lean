import GvmGateway.App.ExportLifecycle
import GvmGateway.App.SessionHolds

/-!
# Whose session it is

A user's name enters the gateway with a login and is copied from there: into the session, the
calls that touched it, their exports, and the records of their jobs. `attributed_step` shows
that no step makes up an attribution of a session to a user, except the login itself.
-/

namespace GvmGateway
namespace Gateway

open SessionTokenDigest SessionManager JobRegistryState

variable {Digest : Type} [DecidableEq Digest] [SessionTokenDigest Digest]

/-- Somewhere in the gateway the session of `d` is taken for the user's. -/
inductive Attributed (g : Gateway Digest) (d : Digest) (user : String) : Prop where
  | session {s : StoredSession} (found : g.sessions.inner.lookup d = some s)
      (owner : s.user = user)
  | check {id : ℕ} {c : ReportCheck} (found : g.checks.lookup id = some c)
      (digest : fromToken c.session.token = d) (owner : c.session.user = user)
  | task {j : String} {e : Export Digest} (found : g.exports.lookup j = some e)
      (digest : e.session = d) (owner : e.ownerUser = user)
  | record {j : String} {r : JobRecord Digest} (found : g.jobs.jobs.lookup j = some r)
      (digest : r.sessionTokenDigest = d) (owner : r.ownerUser = user)

/-- The second state attributes no session that the first one does not. -/
def Inherits (g t : Gateway Digest) : Prop :=
  ∀ d user, t.Attributed d user → g.Attributed d user

variable {g t u : Gateway Digest} {d : Digest} {user j : String} {id : ℕ}

/-- A gateway attributes what it does. -/
theorem Inherits.refl (g : Gateway Digest) : g.Inherits g := fun _ _ h => h

/-- Attribution is inherited step by step. -/
theorem Inherits.trans (hgt : g.Inherits t) (htu : t.Inherits u) : g.Inherits u :=
  fun d user h => hgt d user (htu d user h)

/-! ## Updates -/

/-- Attribution is inherited as time passes. -/
theorem inherits_tick (g : Gateway Digest) (secs : ℕ) :
    g.Inherits { g with now := g.now + secs } := by
  intro d user h
  cases h with
  | session found owner => exact .session found owner
  | check found digest owner => exact .check found digest owner
  | task found digest owner => exact .task found digest owner
  | record found digest owner => exact .record found digest owner

theorem inherits_setSessions {m : SessionManager Digest}
    (hm : ∀ d s, m.inner.lookup d = some s →
      ∃ s₀, g.sessions.inner.lookup d = some s₀ ∧ s₀.user = s.user) :
    g.Inherits (g.setSessions m) := by
  intro d user h
  cases h with
  | session found owner =>
    obtain ⟨s₀, found₀, owner₀⟩ := hm d _ found
    exact .session found₀ (owner₀.trans owner)
  | check found digest owner => exact .check found digest owner
  | task found digest owner => exact .task found digest owner
  | record found digest owner => exact .record found digest owner

theorem inherits_setJobs {s : JobRegistryState Digest}
    (hs : ∀ j r, s.jobs.lookup j = some r → g.Attributed r.sessionTokenDigest r.ownerUser) :
    g.Inherits (g.setJobs s) := by
  intro d user h
  cases h with
  | session found owner => exact .session found owner
  | check found digest owner => exact .check found digest owner
  | task found digest owner => exact .task found digest owner
  | record found digest owner => exact owner ▸ digest ▸ hs _ _ found

theorem inherits_setExport {e : Export Digest} (he : g.Attributed e.session e.ownerUser) :
    g.Inherits (g.setExport j e) := by
  intro d user h
  cases h with
  | session found owner => exact .session found owner
  | check found digest owner => exact .check found digest owner
  | record found digest owner => exact .record found digest owner
  | task found digest owner =>
    have hall := AList.forall_lookup_insert (m := g.exports) (k := j) (v := e)
      (P := fun _ e => g.Attributed e.session e.ownerUser) he
      fun _ _ _ hold => .task hold rfl rfl
    exact owner ▸ digest ▸ hall _ _ found

theorem inherits_setCheck {c : ReportCheck}
    (hc : g.Attributed (fromToken c.session.token) c.session.user) :
    g.Inherits (g.setCheck id c) := by
  intro d user h
  cases h with
  | session found owner => exact .session found owner
  | task found digest owner => exact .task found digest owner
  | record found digest owner => exact .record found digest owner
  | check found digest owner =>
    have hall := AList.forall_lookup_insert (m := g.checks) (k := id) (v := c)
      (P := fun _ c => g.Attributed (fromToken c.session.token) c.session.user) hc
      fun _ _ _ hold => .check hold rfl rfl
    exact owner ▸ digest ▸ hall _ _ found

/-- The end of a check attributes nothing new. -/
theorem inherits_endCheck (g : Gateway Digest) (id : ℕ) : g.Inherits (g.endCheck id) := by
  intro d user h
  cases h with
  | session found owner => exact .session found owner
  | task found digest owner => exact .task found digest owner
  | record found digest owner => exact .record found digest owner
  | check found digest owner =>
    have hlookup := AList.lookup_erase_eq_ite g.checks id _ ▸ found
    split at hlookup
    · cases hlookup
    · exact .check hlookup digest owner

/-- The calls that carry no name of a user may change as they like. -/
theorem inherits_calls {g' : Gateway Digest} (hsessions : g'.sessions = g.sessions)
    (hjobs : g'.jobs = g.jobs) (hchecks : g'.checks = g.checks)
    (hexports : g'.exports = g.exports) : g.Inherits g' := by
  intro d user h
  cases h with
  | session found owner => exact .session (hsessions ▸ found) owner
  | check found digest owner => exact .check (hchecks ▸ found) digest owner
  | task found digest owner => exact .task (hexports ▸ found) digest owner
  | record found digest owner => exact .record (hjobs ▸ found) digest owner

theorem inherits_abort (g : Gateway Digest) (handle : AbortHandle) :
    g.Inherits (g.abort handle) := by
  unfold abort
  split
  · exact .refl g
  · next e found => exact inherits_setExport (e := e.abortRequested) (.task found rfl rfl)

theorem inherits_abortFound (g : Gateway Digest) (handle : Option AbortHandle) :
    g.Inherits (g.abortFound handle) := by
  cases handle with
  | none => exact .refl g
  | some handle => exact inherits_abort g handle

/-! ### Sessions -/

/-- An update of a session that keeps its user attributes nothing new. -/
theorem inherits_modify {f : StoredSession → StoredSession} (hf : ∀ s, (f s).user = s.user) :
    g.Inherits (g.setSessions (g.sessions.modify d f)) := by
  refine inherits_setSessions fun c s hs => ?_
  rw [lookup_modify] at hs
  split at hs
  · obtain ⟨s₀, hs₀, rfl⟩ := Option.map_eq_some_iff.mp hs
    exact ⟨s₀, hs₀, (hf s₀).symm⟩
  · exact ⟨s, hs, rfl⟩

theorem inherits_touch (g : Gateway Digest) (token : String) :
    g.Inherits (g.setSessions (g.sessions.touch g.now token).2) := by
  rw [show (g.sessions.touch g.now token).2 =
    (g.sessions.useLive g.now token (·.touched g.now)).2 from rfl, useLive_eq_modify]
  apply inherits_modify
  intro s
  split <;> rfl

theorem inherits_dropHold (g : Gateway Digest) (d : Digest) :
    g.Inherits (g.setSessions (g.sessions.dropHold d)) :=
  inherits_modify (f := StoredSession.released) fun _ => rfl

theorem inherits_drained (g : Gateway Digest) (now : ℕ) :
    g.Inherits (g.setSessions (g.sessions.drained now)) := by
  refine inherits_setSessions fun c s hs => ?_
  rw [lookup_drained, Option.filter_eq_some_iff] at hs
  exact ⟨s, hs.1, rfl⟩

theorem inherits_remove (g : Gateway Digest) (token : String) :
    g.Inherits (g.setSessions (g.sessions.remove token).2) := by
  refine inherits_setSessions fun c s hs => ?_
  rw [lookup_remove] at hs
  split at hs
  · cases hs
  · exact ⟨s, hs, rfl⟩

/-! ### Jobs -/

/-- A job that is not purged belongs to its user. -/
theorem attributed_purged {r : JobRecord Digest} {now : ℕ}
    (hr : (g.jobs.purged now).jobs.lookup j = some r) :
    g.Attributed r.sessionTokenDigest r.ownerUser :=
  .record (g.jobs.lookup_purged_eq_some.mp hr).1 rfl rfl

theorem inherits_purged (g : Gateway Digest) (now : ℕ) :
    g.Inherits (g.setJobs (g.jobs.purged now)) :=
  inherits_setJobs fun _ _ hr => attributed_purged hr

/-- A record is written for a session and a user that go together. -/
theorem inherits_put {s : JobRegistryState Digest} {r : JobRecord Digest}
    (hs : ∀ j r, s.jobs.lookup j = some r → g.Attributed r.sessionTokenDigest r.ownerUser)
    (hr : g.Attributed r.sessionTokenDigest r.ownerUser) :
    g.Inherits (g.setJobs (s.put j r)) :=
  inherits_setJobs (AList.forall_lookup_insert hr fun k r _ hk => hs k r hk)

/-- A job of the user of its session may be put. -/
theorem inherits_jobs_put {r : JobRecord Digest}
    (hr : g.Attributed r.sessionTokenDigest r.ownerUser) :
    g.Inherits (g.setJobs (g.jobs.put j r)) :=
  inherits_put (fun _ _ hk => .record hk rfl rfl) hr

theorem inherits_purged_put {r : JobRecord Digest} {now : ℕ}
    (hr : g.Attributed r.sessionTokenDigest r.ownerUser) :
    g.Inherits (g.setJobs ((g.jobs.purged now).put j r)) :=
  inherits_put (fun _ _ hk => attributed_purged hk) hr

/-- Cancelled jobs keep their owners. -/
theorem inherits_cancelJobsForSession (g : Gateway Digest) (now : ℕ) (d : Digest) :
    g.Inherits (g.setJobs (g.jobs.cancelJobsForSession now now d).2.2) := by
  refine inherits_setJobs fun k r hk => ?_
  rw [lookup_cancelJobsForSession, Option.map_eq_some_iff] at hk
  rcases hk with ⟨r₀, hr₀, rfl⟩
  have hattr := attributed_purged hr₀
  split
  · exact hattr
  · exact hattr

/-! ## Steps -/

/-- The call that is to check a report goes on in the session that its touch has found. -/
theorem createReportExportJob_inherits {token reportId : String}
    {request : CreateReportExportRequest}
    (h : g.createReportExportJob id token reportId request = some t) : g.Inherits t := by
  unfold createReportExportJob at h
  split at h
  · cases h
  · have htouch := inherits_touch g token
    split at h
    · next err m hm =>
      obtain rfl := Option.some.inj h
      rw [hm] at htouch
      exact htouch
    · next session m hm =>
      obtain rfl := Option.some.inj h
      rw [hm] at htouch
      refine htouch.trans (inherits_setCheck ?_)
      obtain ⟨s, -, -, rfl, hput⟩ := touch_eq_ok (congrArg Prod.fst hm)
      obtain rfl : m = g.sessions.put (fromToken token) (s.touched g.now) := by
        rw [← hput, hm]
      refine .session (s := s.touched g.now) ?_ rfl
      show (g.sessions.put (fromToken token) _).inner.lookup (fromToken token) = _
      rw [SessionManager.lookup_put, if_pos rfl]

/-- A hold starts an export for the user of the call that checked the report. -/
theorem inherits_held {check : ReportCheck} {s : StoredSession} {e : Export Digest}
    (checked : g.checks.lookup id = some check)
    (found : g.sessions.inner.lookup (fromToken check.session.token) = some s)
    (session : e.session = fromToken check.session.token)
    (owner : e.ownerUser = check.session.user) (jobId : String) :
    g.Inherits (((g.setSessions (g.sessions.put (fromToken check.session.token)
      (s.held g.now))).endCheck id).setExport jobId e) := by
  have hmodify : g.sessions.put (fromToken check.session.token) (s.held g.now) =
      g.sessions.modify (fromToken check.session.token) (·.held g.now) := by
    rw [SessionManager.modify, found]
  have hexport : g.Inherits (g.setExport jobId e) :=
    inherits_setExport (.check checked session.symm owner.symm)
  have hhold := inherits_modify (g := g.setExport jobId e) (f := (·.held g.now))
    (d := fromToken check.session.token) fun _ => rfl
  rw [hmodify]
  exact (hexport.trans hhold).trans (inherits_endCheck _ id)

/-- Only a login that is admitted attributes a session anew. -/
theorem inherits_step {a : Action Digest} (h : g.step a = some t) :
    g.Inherits t ∨ ∃ token user order, a = .createSession token user order ∧
      g.creates.lookup (fromToken token) = none ∧
      t = (g.setSessions ((g.sessions.drained g.now).put (fromToken token)
        (.opened user g.now))).setCreate (fromToken token) (.disconnecting order) := by
  cases move_of_step h with
  | tick secs => exact .inl (inherits_tick g secs)
  | touch token => exact .inl (inherits_touch g token)
  | expire token => exact .inl (inherits_modify fun _ => rfl)
  | loginRefused => exact .inl (.refl g)
  | @loginOpened token user order fresh => exact .inr ⟨token, user, order, rfl, fresh, rfl⟩
  -- a call in progress moves on, and sessions, checks, exports and jobs stay as they are
  | loginDisconnects | loginAwaits | loginAccepted | loginRejected | loginReturned
  | loginDropped | sweepDisconnects | sweepEnded | deleteAborted | deleteDisconnects =>
    exact .inl (inherits_calls rfl rfl rfl rfl)
  | @loginRemoved token | @deleteRemoved id token =>
    exact .inl ((inherits_remove g token).trans (inherits_calls rfl rfl rfl rfl))
  | sweepDrained => exact .inl ((inherits_drained g g.now).trans (inherits_calls rfl rfl rfl rfl))
  | @deleteMissed id token => exact .inl (inherits_remove g token)
  | @deleteCancels id d =>
    exact .inl ((inherits_cancelJobsForSession g g.now d).trans
      (inherits_calls rfl rfl rfl rfl))
  | @deleteAborts id d handle =>
    exact .inl ((inherits_abort g handle).trans (inherits_calls rfl rfl rfl rfl))
  | checkRefused | checkStarted => exact .inl (createReportExportJob_inherits h)
  | @checkEnded id => exact .inl (inherits_endCheck g id)
  | @holdRefused id =>
    exact .inl ((inherits_modify (f := StoredSession.markExpired) fun _ => rfl).trans
      (inherits_endCheck _ id))
  | held checked free found => exact .inl (inherits_held checked found rfl rfl _)
  | insertRefused task =>
    exact .inl ((inherits_purged g g.now).trans (inherits_setExport (.task task rfl rfl)))
  -- a job is entered for the owner of its export, and for nobody else
  | @inserted jobId e task =>
    have hrecord : g.Attributed e.session e.ownerUser := .task task rfl rfl
    exact .inl ((inherits_purged_put (r := e.newRecord jobId) hrecord).trans
      (inherits_setExport (.task task rfl rfl)))
  | @insertRejected jobId e task | @workerFinished jobId e task =>
    exact .inl ((inherits_dropHold g e.session).trans
      (inherits_setExport (.task task rfl rfl)))
  | spawned task | unregistered task | workerRefused task | exportUnmarked task
  | workerDropped task => exact .inl (inherits_setExport (.task task rfl rfl))
  | @registeredLate jobId e r task =>
    exact .inl ((inherits_setExport (e := e.atStage .returned)
      (.task task rfl rfl)).trans (inherits_abort _ _))
  | @registered jobId e r task stage found =>
    exact .inl ((inherits_jobs_put (r := { r with abortHandle := some ⟨jobId⟩ })
      (.record found rfl rfl)).trans (inherits_setExport (.task task rfl rfl)))
  | @workerStarted jobId e r task worker found =>
    exact .inl ((inherits_jobs_put (r := r.markRunning g.now)
      (.record found rfl rfl)).trans (inherits_setExport (.task task rfl rfl)))
  -- the mark changes a record's outcome, not whose it is
  | @exportMarked jobId result e r r' task worker found live marked =>
    have hrecord : g.Attributed r'.sessionTokenDigest r'.ownerUser := by
      rcases marked with ⟨artifact, -, rfl⟩ | ⟨error, -, rfl⟩
      · exact .record found rfl rfl
      · exact .record found rfl rfl
    exact .inl ((inherits_jobs_put hrecord).trans
      (inherits_setExport (.task task rfl rfl)))
  | @cancelled ownerUser jobId r found =>
    have hrecord : g.Attributed r.sessionTokenDigest r.ownerUser := attributed_purged found
    exact .inl ((inherits_purged_put
      (r := r.markCancelled g.now g.jobs.policy.terminalRetentionSecs) hrecord).trans
      (inherits_abortFound _ _))
  | notCancelled | jobRead | artifactRead | jobsSwept => exact .inl (inherits_purged g g.now)

/-- The session of `d` after the login of its user. -/
theorem attributed_opened {token : String} {order : List Digest}
    (h : ((g.setSessions ((g.sessions.drained g.now).put (fromToken token)
      (.opened user g.now))).setCreate (fromToken token) (.disconnecting order)).Attributed d j) :
    g.Attributed d j ∨ d = fromToken token ∧ j = user := by
  cases h with
  | check found digest owner => exact .inl (.check found digest owner)
  | task found digest owner => exact .inl (.task found digest owner)
  | record found digest owner => exact .inl (.record found digest owner)
  | session found owner =>
    have hlookup := (SessionManager.lookup_put (g.sessions.drained g.now) (fromToken token) d
      (.opened user g.now)).symm.trans found
    split at hlookup
    · next hd =>
      obtain rfl := Option.some.inj hlookup
      exact .inr ⟨hd, owner.symm⟩
    · exact .inl (inherits_drained g g.now d j (.session hlookup owner))

/-- An attribution is an old one, or made by the login under a token that is new. -/
theorem attributed_step {a : Action Digest} (h : g.step a = some t)
    (ht : t.Attributed d user) : g.Attributed d user ∨ ∃ token order,
      a = .createSession token user order ∧ d = fromToken token ∧
      (t.creates.lookup d).isSome = true := by
  rcases inherits_step h with hinherits | ⟨token, owner, order, rfl, fresh, rfl⟩
  · exact .inl (hinherits d user ht)
  · rcases attributed_opened ht with hold | ⟨rfl, rfl⟩
    · exact .inl hold
    · refine .inr ⟨token, order, rfl, rfl, ?_⟩
      show ((g.creates.insert (fromToken token) _).lookup _).isSome = true
      rw [AList.lookup_insert_eq_ite, if_pos rfl]
      rfl

/-- Which tokens have been issued only changes in logins that are admitted. -/
theorem issued_step {a : Action Digest} (h : g.step a = some t) (d : Digest) :
    (t.creates.lookup d).isSome = (g.creates.lookup d).isSome ∨
      (∃ token user order, a = .createSession token user order ∧ fromToken token = d) ∧
        g.creates.lookup d = none ∧ (t.creates.lookup d).isSome = true := by
  cases move_of_step h with
  | tick | touch | expire | loginRefused | sweepDrained | sweepDisconnects | sweepEnded
  | deleteMissed | deleteRemoved | deleteCancels | deleteAborted | deleteDisconnects
  | checkRefused | checkStarted | checkEnded | holdRefused | held | insertRefused | inserted
  | insertRejected | spawned | unregistered | registered | workerStarted | workerRefused
  | exportMarked | exportUnmarked | workerDropped | workerFinished | notCancelled | jobRead
  | artifactRead | jobsSwept => exact .inl rfl
  | @deleteAborts id c handle =>
    left
    show ((g.abort handle).creates.lookup d).isSome = _
    rw [creates_abort]
  | registeredLate => exact .inl (by rw [creates_abort]; rfl)
  | cancelled => exact .inl (by rw [creates_abortFound]; rfl)
  | loginDisconnects login | loginAwaits login | loginAccepted login | loginRejected login
  | loginRemoved login | loginReturned login | loginDropped login =>
    exact .inl (issued_setCreate login d)
  | @loginOpened token user order fresh =>
    show ((g.creates.insert (fromToken token) _).lookup d).isSome = _ ∨ _ ∧ _ ∧
      ((g.creates.insert (fromToken token) _).lookup d).isSome = true
    rw [AList.lookup_insert_eq_ite]
    -- the only step that writes a login for a token that had none
    by_cases hd : d = fromToken token
    · rw [if_pos hd]
      exact .inr ⟨⟨token, user, order, rfl, hd.symm⟩, hd ▸ fresh, rfl⟩
    · rw [if_neg hd]
      exact .inl rfl

end Gateway
end GvmGateway
