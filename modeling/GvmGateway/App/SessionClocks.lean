import GvmGateway.App.SessionOwners
import GvmGateway.App.SessionTeardown
import GvmGateway.Domain.SessionClock
import GvmGateway.Domain.SessionInspection

/-!
# The gateway keeps the clock of every session

`clock g d` is what the gateway knows about the session of a digest, and `clock_step` shows that
each step of the gateway is the event `g.event a d` for it. When sessions end, and how long a
dead one stays registered, follows for whole runs.
-/

namespace GvmGateway

open SessionTokenDigest SessionManager

variable {Digest : Type}

/-- What the next step of a login does to its session. -/
def CreateStage.event : CreateStage Digest → SessionClock.Event
  | .rejecting _ => .remove
  | .disconnecting _ | .authenticating | .connected | .returned | .failed _ | .dropped => .quiet

namespace Export

/-- What the next step of the enqueuer does to the session. -/
def enqueueEvent (e : Export Digest) : SessionClock.Event :=
  if e.enqueuer = .rejecting then .dropHold else .quiet

/-- What the next step of the worker does to the session. -/
def workerEvent (e : Export Digest) : SessionClock.Event :=
  if e.worker.map Worker.stage = some .finishing then .dropHold else .quiet

end Export

namespace Gateway

variable [DecidableEq Digest]

/-- What the registry and the clock say of one session. -/
def clock (g : Gateway Digest) (d : Digest) : SessionClock :=
  { now := g.now
    idleTimeoutSecs := g.sessions.idleTimeoutSecs
    issued := (g.creates.lookup d).isSome
    session := g.sessions.inner.lookup d }

/-- What happens to the session of `d` when `e` happens to that of `c`. -/
def eventAt (c d : Digest) (e : SessionClock.Event) : SessionClock.Event :=
  if c = d then e else .quiet

variable [SessionTokenDigest Digest]

/-- What an action does to the session of a digest. -/
def event (g : Gateway Digest) (d : Digest) : Action Digest → SessionClock.Event
  | .tick secs => .tick secs
  | .touch token | .createReportExportJob _ token _ _ => eventAt (fromToken token) d .touch
  | .expire token => eventAt (fromToken token) d .expire
  | .createSession token user _ =>
    match (g.sessions.createDrainingExpired g.now token user).1 with
    | .error _ => .quiet
    | .ok _ => if fromToken token = d then .opened user else .drain
  | .createStep token => eventAt (fromToken token) d
      ((g.creates.lookup (fromToken token)).elim .quiet CreateStage.event)
  | .sweepOnce _ _ => .drain
  | .deleteSession _ token => eventAt (fromToken token) d .remove
  | .holdSession id _ => (g.checks.lookup id).elim .quiet fun c =>
      eventAt (fromToken c.session.token) d .hold
  | .enqueueStep jobId => (g.exports.lookup jobId).elim .quiet fun e =>
      eventAt e.session d e.enqueueEvent
  | .workerStep jobId => (g.exports.lookup jobId).elim .quiet fun e =>
      eventAt e.session d e.workerEvent
  | .authenticate _ _ | .dropCreate _ | .sweepStep _ | .cancelJobs _ _ | .deleteStep _
  | .dropCheck _ | .exportDone _ _ | .dropWorker _ | .cancelJobRecord _ _ | .jobSnapshot _ _
  | .jobArtifact _ _ | .sweepExpiredJobs => .quiet

/-! ## Steps -/

variable {g t : Gateway Digest} {d c : Digest} {token : String} {id : ℕ} {jobId : String}

omit [SessionTokenDigest Digest] in
/-- The view depends on the clock, the sessions and the logins. -/
theorem clock_congr (hnow : t.now = g.now) (hsessions : t.sessions = g.sessions)
    (hissued : (t.creates.lookup d).isSome = (g.creates.lookup d).isSome) :
    t.clock d = g.clock d := by
  apply SessionClock.ext
  · exact hnow
  · rw [clock, clock, hsessions]
  · exact hissued
  · rw [clock, clock, hsessions]

omit [SessionTokenDigest Digest] in
/-- One session is changed in place. -/
theorem clock_modify {f : StoredSession → StoredSession} (hnow : t.now = g.now)
    (hsessions : t.sessions = g.sessions.modify c f)
    (hissued : (t.creates.lookup d).isSome = (g.creates.lookup d).isSome) :
    t.clock d = if c = d then { g.clock d with session := (g.clock d).session.map f }
      else g.clock d := by
  have hlookup := lookup_modify g.sessions c d f
  rw [← hsessions] at hlookup
  have hidle : t.sessions.idleTimeoutSecs = g.sessions.idleTimeoutSecs := by
    rw [hsessions, idleTimeoutSecs_modify]
  by_cases h : c = d
  · rw [if_pos h.symm] at hlookup
    rw [if_pos h]
    exact SessionClock.ext hnow hidle hissued hlookup
  · rw [if_neg (Ne.symm h)] at hlookup
    rw [if_neg h]
    exact SessionClock.ext hnow hidle hissued hlookup

omit [SessionTokenDigest Digest] in
/-- An event at one session changes the view of that session only. -/
theorem apply_eventAt (v : SessionClock) (e : SessionClock.Event) :
    v.apply (eventAt c d e) = if c = d then v.apply e else v := by
  unfold eventAt
  split
  · rfl
  · rfl

/-- A touch in the registry is one in the view. -/
theorem clock_touch (hnow : t.now = g.now)
    (hsessions : t.sessions = (g.sessions.touch g.now token).2)
    (hissued : (t.creates.lookup d).isSome = (g.creates.lookup d).isSome) :
    t.clock d = (g.clock d).apply (eventAt (fromToken token) d .touch) := by
  rw [apply_eventAt]
  exact clock_modify hnow (hsessions.trans (useLive_eq_modify _ _ _ _)) hissued

theorem clock_hold (hnow : t.now = g.now)
    (hsessions : t.sessions = (g.sessions.hold g.now token).2)
    (hissued : (t.creates.lookup d).isSome = (g.creates.lookup d).isSome) :
    t.clock d = (g.clock d).apply (eventAt (fromToken token) d .hold) := by
  rw [apply_eventAt]
  exact clock_modify hnow (hsessions.trans (useLive_eq_modify _ _ _ _)) hissued

omit [SessionTokenDigest Digest] in
theorem clock_dropHold (hnow : t.now = g.now) (hsessions : t.sessions = g.sessions.dropHold c)
    (hissued : (t.creates.lookup d).isSome = (g.creates.lookup d).isSome) :
    t.clock d = (g.clock d).apply (eventAt c d .dropHold) := by
  rw [apply_eventAt]
  exact clock_modify hnow hsessions hissued

theorem clock_remove (hnow : t.now = g.now) (hsessions : t.sessions = (g.sessions.remove token).2)
    (hissued : (t.creates.lookup d).isSome = (g.creates.lookup d).isSome) :
    t.clock d = (g.clock d).apply (eventAt (fromToken token) d .remove) := by
  have hlookup := lookup_remove g.sessions token d
  rw [← hsessions] at hlookup
  have hidle : t.sessions.idleTimeoutSecs = g.sessions.idleTimeoutSecs := by
    rw [hsessions]
    rfl
  rw [apply_eventAt]
  by_cases h : fromToken token = d
  · rw [if_pos h.symm] at hlookup
    rw [if_pos h]
    exact SessionClock.ext hnow hidle hissued hlookup
  · rw [if_neg (Ne.symm h)] at hlookup
    rw [if_neg h]
    exact SessionClock.ext hnow hidle hissued hlookup

omit [SessionTokenDigest Digest] in
theorem clock_drained (hnow : t.now = g.now) (hsessions : t.sessions = g.sessions.drained g.now)
    (hissued : (t.creates.lookup d).isSome = (g.creates.lookup d).isSome) :
    t.clock d = (g.clock d).apply .drain := by
  have hlookup := lookup_drained g.sessions g.now d
  rw [← hsessions] at hlookup
  exact SessionClock.ext hnow (by rw [clock, hsessions]; rfl) hissued hlookup

/-- What the first step of a login does to a view. -/
theorem createSession_clock {user : String} {order : List Digest}
    (h : g.createSession token user order = some t) (d : Digest) :
    t.clock d = (g.clock d).apply (g.event d (.createSession token user order)) := by
  obtain ⟨-, h⟩ := Option.ite_none_left_eq_some.mp h
  rw [event]
  rcases g.sessions.createDrainingExpired_cases g.now token user with ⟨err, hfail⟩ | ⟨-, hdone⟩
  · rw [hfail] at h
    obtain rfl := Option.some.inj h
    rw [hfail]
    rfl
  · rw [hdone] at h
    obtain ⟨-, h⟩ := Option.ite_none_right_eq_some.mp h
    obtain rfl := Option.some.inj h
    rw [hdone]
    have hlookup := lookup_put (g.sessions.drained g.now) (fromToken token) d (.opened user g.now)
    have hcreates := AList.lookup_insert_eq_ite g.creates (fromToken token) d
      (.disconnecting order)
    -- its own record is new; of the others the expired ones are gone
    by_cases hd : fromToken token = d
    · rw [if_pos hd.symm] at hlookup hcreates
      have hissued := congrArg Option.isSome hcreates
      simp only [if_pos hd]
      exact SessionClock.ext rfl rfl hissued hlookup
    · rw [if_neg (Ne.symm hd)] at hlookup hcreates
      have hissued := congrArg Option.isSome hcreates
      simp only [if_neg hd]
      refine SessionClock.ext rfl rfl hissued (hlookup.trans ?_)
      exact lookup_drained g.sessions g.now d

/-- What its later steps do. -/
theorem createStep_clock (h : g.createStep token = some t) (d : Digest) :
    t.clock d = (g.clock d).apply (g.event d (.createStep token)) := by
  have hquiet : ∀ stage, g.creates.lookup (fromToken token) = some stage →
      stage.event = .quiet → g.event d (.createStep token) = .quiet := by
    intro stage hstage hevent
    rw [event, hstage, Option.elim_some, hevent, eventAt, ite_self]
  cases createStep_move h with
  | loginDisconnects login | loginAwaits login | loginReturned login =>
    rw [hquiet _ login rfl]
    exact clock_congr rfl rfl (issued_setCreate login d)
  | loginRemoved login =>
    have hevent : g.event d (.createStep token) = eventAt (fromToken token) d .remove := by
      rw [event, login]
      rfl
    rw [hevent]
    exact clock_remove rfl rfl (issued_setCreate login d)

omit [SessionTokenDigest Digest] in
/-- The reaper drains. -/
theorem sweepOnce_clock {order : List Digest} (h : g.sweepOnce id order = some t)
    (d : Digest) : t.clock d = (g.clock d).apply .drain := by
  obtain ⟨-, h⟩ := Option.ite_none_left_eq_some.mp h
  obtain ⟨-, h⟩ := Option.ite_none_right_eq_some.mp h
  obtain rfl := Option.some.inj h
  exact clock_drained rfl rfl rfl

/-- A logout removes its session. -/
theorem deleteSession_clock (h : g.deleteSession id token = some t) (d : Digest) :
    t.clock d = (g.clock d).apply (g.event d (.deleteSession id token)) := by
  obtain ⟨-, h⟩ := Option.ite_none_left_eq_some.mp h
  split at h
  · next m hm =>
    obtain rfl := Option.some.inj h
    exact clock_remove rfl (congrArg Prod.snd hm).symm rfl
  · next session m hm =>
    obtain rfl := Option.some.inj h
    exact clock_remove rfl (congrArg Prod.snd hm).symm rfl

/-- A request for an export touches its session. -/
theorem createReportExportJob_clock {reportId : String} {request : CreateReportExportRequest}
    (h : g.createReportExportJob id token reportId request = some t) (d : Digest) :
    t.clock d = (g.clock d).apply (eventAt (fromToken token) d .touch) := by
  obtain ⟨-, h⟩ := Option.ite_none_left_eq_some.mp h
  split at h
  · next err m hm =>
    obtain rfl := Option.some.inj h
    exact clock_touch rfl (congrArg Prod.snd hm).symm rfl
  · next session m hm =>
    obtain rfl := Option.some.inj h
    exact clock_touch rfl (congrArg Prod.snd hm).symm rfl

theorem holdSession_clock (h : g.holdSession id jobId = some t) (d : Digest) :
    t.clock d = (g.clock d).apply (g.event d (.holdSession id jobId)) := by
  rw [event]
  unfold holdSession at h
  split at h
  · cases h
  · next check hcheck =>
    rw [hcheck]
    obtain ⟨-, h⟩ := Option.ite_none_left_eq_some.mp h
    split at h
    · next err m hm =>
      obtain rfl := Option.some.inj h
      exact clock_hold rfl (congrArg Prod.snd hm).symm rfl
    · next e m hm =>
      obtain rfl := Option.some.inj h
      exact clock_hold rfl (congrArg Prod.snd hm).symm rfl

/-- An export that cannot be queued releases its session. -/
theorem enqueueStep_clock (h : g.enqueueStep jobId = some t) (d : Digest) :
    t.clock d = (g.clock d).apply (g.event d (.enqueueStep jobId)) := by
  have hevent : ∀ e, g.exports.lookup jobId = some e →
      g.event d (.enqueueStep jobId) = eventAt e.session d e.enqueueEvent := by
    intro e he
    rw [event, he]
    rfl
  have hquiet : ∀ e, g.exports.lookup jobId = some e → e.enqueuer ≠ .rejecting →
      g.event d (.enqueueStep jobId) = .quiet := by
    intro e he hstage
    rw [hevent e he, Export.enqueueEvent, if_neg hstage]
    exact ite_self _
  cases enqueueStep_move h with
  | insertRefused task stage | inserted task stage | spawned task stage
  | unregistered task stage | registered task stage =>
    rw [hquiet _ task (by simp [stage])]
    exact clock_congr rfl rfl rfl
  | registeredLate task stage =>
    rw [hquiet _ task (by simp [stage])]
    exact clock_congr (by unfold abort; split <;> rfl) (sessions_abort _ _)
      (by rw [creates_abort]; rfl)
  | @insertRejected _ e task stage =>
    rw [hevent e task, Export.enqueueEvent, if_pos stage]
    exact clock_dropHold rfl rfl rfl

/-- A worker that is over releases it. -/
theorem workerStep_clock (h : g.workerStep jobId = some t) (d : Digest) :
    t.clock d = (g.clock d).apply (g.event d (.workerStep jobId)) := by
  have hevent : ∀ e, g.exports.lookup jobId = some e →
      g.event d (.workerStep jobId) = eventAt e.session d e.workerEvent := by
    intro e he
    rw [event, he]
    rfl
  have hquiet : ∀ e, g.exports.lookup jobId = some e →
      e.worker.map Worker.stage = some .queued → g.event d (.workerStep jobId) = .quiet := by
    intro e he hstage
    rw [hevent e he, Export.workerEvent, if_neg (by simp [hstage])]
    exact ite_self _
  cases workerStep_move h with
  | workerStarted task worker | workerRefused task worker =>
    rw [hquiet _ task worker]
    exact clock_congr rfl rfl rfl
  | @workerFinished _ e task worker =>
    rw [hevent e task, Export.workerEvent, if_pos worker]
    exact clock_dropHold rfl rfl rfl

omit [DecidableEq Digest] [SessionTokenDigest Digest] in
/-- An abort takes no time. -/
@[simp] theorem now_abort (g : Gateway Digest) (handle : AbortHandle) :
    (g.abort handle).now = g.now := by
  unfold abort
  split
  · rfl
  · rfl

omit [DecidableEq Digest] [SessionTokenDigest Digest] in
@[simp] theorem now_abortFound (g : Gateway Digest) (handle : Option AbortHandle) :
    (g.abortFound handle).now = g.now := by
  cases handle with
  | none => rfl
  | some handle => exact now_abort g handle

/-- Each step of the gateway is an event for every session. -/
theorem clock_step {a : Action Digest} (h : g.step a = some t) (d : Digest) :
    t.clock d = (g.clock d).apply (g.event d a) := by
  cases a with
  | tick secs =>
    obtain rfl := Option.some.inj h
    rfl
  | touch token =>
    obtain rfl := Option.some.inj h
    exact clock_touch rfl rfl rfl
  | expire token =>
    obtain rfl := Option.some.inj h
    show _ = (g.clock d).apply (eventAt _ d _)
    rw [apply_eventAt]
    exact clock_modify rfl (expire_eq_modify g.sessions token) rfl
  -- the calls that open, touch, hold or drain sessions have lemmas of their own
  | createSession token user order => exact createSession_clock h d
  | createStep token => exact createStep_clock h d
  | sweepOnce id order => exact sweepOnce_clock h d
  | deleteSession id token => exact deleteSession_clock h d
  | createReportExportJob id token reportId request => exact createReportExportJob_clock h d
  | holdSession id jobId => exact holdSession_clock h d
  | enqueueStep jobId => exact enqueueStep_clock h d
  | workerStep jobId => exact workerStep_clock h d
  -- the others leave the sessions alone, and every token drawn stays drawn
  | authenticate token result =>
    cases move_of_step h with
    | loginAccepted login | loginRejected login =>
      exact clock_congr rfl rfl (issued_setCreate login d)
  | dropCreate token =>
    cases move_of_step h with
    | loginDropped login => exact clock_congr rfl rfl (issued_setCreate login d)
  | sweepStep id =>
    cases move_of_step h with
    | sweepDisconnects | sweepEnded => exact clock_congr rfl rfl rfl
  | cancelJobs id order =>
    cases move_of_step h with
    | deleteCancels => exact clock_congr rfl rfl rfl
  | deleteStep id =>
    cases move_of_step h with
    | deleteAborted | deleteDisconnects => exact clock_congr rfl rfl rfl
    | @deleteAborts _ e handle =>
      have hcreates := creates_abort g handle
      exact clock_congr (now_abort g handle) (sessions_abort g handle)
        (congrArg (fun m => (m.lookup d).isSome) hcreates)
  | dropCheck id =>
    cases move_of_step h with
    | checkEnded => exact clock_congr rfl rfl rfl
  | exportDone jobId result =>
    cases move_of_step h with
    | exportMarked | exportUnmarked => exact clock_congr rfl rfl rfl
  | dropWorker jobId =>
    cases move_of_step h with
    | workerDropped => exact clock_congr rfl rfl rfl
  | cancelJobRecord ownerUser jobId =>
    cases move_of_step h with
    | notCancelled => exact clock_congr rfl rfl rfl
    | cancelled =>
      exact clock_congr (now_abortFound _ _) (sessions_abortFound _ _)
        (by rw [creates_abortFound]; rfl)
  | jobSnapshot ownerUser jobId =>
    obtain rfl := Option.some.inj h
    exact clock_congr rfl rfl rfl
  | jobArtifact ownerUser jobId =>
    obtain rfl := Option.some.inj h
    exact clock_congr rfl rfl rfl
  | sweepExpiredJobs =>
    obtain rfl := Option.some.inj h
    exact clock_congr rfl rfl rfl

/-- No token is drawn twice. -/
theorem event_ne_opened {a : Action Digest} (h : g.step a = some t)
    (hissued : (g.clock d).issued = true) (user : String) : g.event d a ≠ .opened user := by
  have hat : ∀ c e, (∀ user, e ≠ .opened user) → eventAt c d e ≠ .opened user := by
    intro c e he
    unfold eventAt
    split
    · exact he user
    · simp
  cases a with
  | createSession token user' order =>
    rw [event]
    split
    · simp
    · split
      -- a login under a token that has been drawn is not a step
      · next htoken =>
        have hfresh := (Option.ite_none_left_eq_some.mp h).1
        exact absurd (htoken ▸ hissued) hfresh
      · simp
  | touch | createReportExportJob | expire | deleteSession => exact hat _ _ (by simp)
  | createStep token =>
    apply hat
    intro user'
    rcases g.creates.lookup (fromToken token) with _ | stage
    · simp
    · cases stage <;> simp [CreateStage.event]
  | holdSession id =>
    rw [event]
    rcases g.checks.lookup id with _ | check
    · simp
    · exact hat _ _ (by simp)
  | enqueueStep jobId =>
    rw [event]
    rcases g.exports.lookup jobId with _ | e
    · simp
    · refine hat _ _ fun user' => ?_
      unfold Export.enqueueEvent
      split <;> simp
  | workerStep jobId =>
    rw [event]
    rcases g.exports.lookup jobId with _ | e
    · simp
    · refine hat _ _ fun user' => ?_
      unfold Export.workerEvent
      split <;> simp
  | tick | sweepOnce | authenticate | dropCreate | sweepStep | cancelJobs | deleteStep
  | dropCheck | exportDone | dropWorker | cancelJobRecord | jobSnapshot | jobArtifact
  | sweepExpiredJobs => simp [event]

/-! ## The end of a session -/

open TransitionSystem

variable {as : List (Action Digest)}

/-- A session that has been issued stays so. -/
theorem issued_clock {a : Action Digest} (h : g.step a = some t)
    (hissued : (g.clock d).issued = true) : (t.clock d).issued = true := by
  rw [clock_step h d]
  exact SessionClock.issued_apply _ hissued

/-- A dead session stays dead. -/
theorem dead_run (h : run step g as = some t) (hissued : (g.clock d).issued = true)
    (hdead : ¬ (g.clock d).Live) : (t.clock d).issued = true ∧ ¬ (t.clock d).Live := by
  apply invariant (I := fun g : Gateway Digest =>
    (g.clock d).issued = true ∧ ¬ (g.clock d).Live) _ h ⟨hissued, hdead⟩
  intro g a t hg hstep
  refine ⟨issued_clock hstep hg.1, ?_⟩
  rw [clock_step hstep d]
  exact SessionClock.not_live_apply hg.2 (event_ne_opened hstep hg.1)

/-- A session that has left the registry stays away. -/
theorem absent_run (h : run step g as = some t) (hissued : (g.clock d).issued = true)
    (habsent : (g.clock d).session = none) : (t.clock d).session = none := by
  have hboth := invariant (I := fun g : Gateway Digest =>
    (g.clock d).issued = true ∧ (g.clock d).session = none) ?_ h ⟨hissued, habsent⟩
  · exact hboth.2
  · intro g a t hg hstep
    refine ⟨issued_clock hstep hg.1, ?_⟩
    rw [clock_step hstep d]
    exact SessionClock.absent_apply hg.2 (event_ne_opened hstep hg.1)

/-- A session can be used when its view is live. -/
theorem touchable_iff_live :
    g.sessions.Touchable g.now token ↔ (g.clock (fromToken token)).Live :=
  touchable_iff

/-- The action does not end the session of `d`: it is no request to delete or expire it, no
rejected login, and does not let it idle away without a hold. -/
def Spares (d : Digest) (g : Gateway Digest) (a : Action Digest) (_ : Gateway Digest) : Prop :=
  ¬ (g.clock d).Ends (g.event d a)

/-- A live session is live at the end of a run iff no step has ended it. -/
theorem live_iff_spared (h : run step g as = some t) (hissued : (g.clock d).issued = true)
    (hlive : (g.clock d).Live) : Along step (Spares d) g as ↔ (t.clock d).Live := by
  refine @along_iff_of_permanent _ _ step (fun g : Gateway Digest => (g.clock d).issued = true)
    (fun g => (g.clock d).Live) (Spares d) ?_ ?_ ?_ ?_ g t as h hissued hlive
  · intro g a t hg hstep
    exact issued_clock hstep hg
  · intro g a t hg hgood hspares hstep
    rw [clock_step hstep]
    exact SessionClock.live_apply hgood (event_ne_opened hstep hg) hspares
  · intro g a t hg hgood hends hstep
    rw [clock_step hstep]
    exact SessionClock.not_live_of_ends (Classical.not_not.mp hends)
  · intro g a t hg hdead hstep
    rw [clock_step hstep]
    exact SessionClock.not_live_apply hdead (event_ne_opened hstep hg)

/-- The first step of the reaper. -/
def Action.isSweep : Action Digest → Bool
  | .sweepOnce _ _ => true
  | _ => false

/-- The interval of `SessionReaper::spawn`. -/
def reaperInterval (idleTimeoutSecs : ℕ) : ℕ := max (idleTimeoutSecs / 2) 1

/-- The time that an action takes. -/
def Action.secs : Action Digest → ℕ
  | .tick secs => secs
  | _ => 0

/-- The reaper drains the registry again before more than the interval has passed, `elapsed`
seconds after its last sweep. -/
def SweptEvery (interval : ℕ) : ℕ → List (Action Digest) → Prop
  | elapsed, [] => elapsed ≤ interval
  | elapsed, a :: as => elapsed ≤ interval ∧
      SweptEvery interval (if a.isSweep then 0 else elapsed + a.secs) as

omit [DecidableEq Digest] [SessionTokenDigest Digest] in
/-- A stretch without a sweep is no longer than the interval. -/
theorem elapsed_le_of_sweptEvery {interval elapsed : ℕ} (h : SweptEvery interval elapsed as)
    (hquiet : ∀ a ∈ as, a.isSweep = false) :
    elapsed + (as.map Action.secs).sum ≤ interval := by
  induction as generalizing elapsed with
  | nil => exact h
  | cons a as ih =>
    have hrest := h.2
    rw [hquiet a List.mem_cons_self] at hrest
    rw [if_neg Bool.false_ne_true] at hrest
    have hle := ih hrest fun b hb => hquiet b (List.mem_cons_of_mem a hb)
    rw [List.map_cons, List.sum_cons]
    omega

omit [DecidableEq Digest] [SessionTokenDigest Digest] in
/-- What follows a part of a run is swept as often. -/
theorem sweptEvery_of_append {interval elapsed : ℕ} {as₁ as₂ : List (Action Digest)}
    (h : SweptEvery interval elapsed (as₁ ++ as₂)) : ∃ n, SweptEvery interval n as₂ := by
  induction as₁ generalizing elapsed with
  | nil => exact ⟨elapsed, h⟩
  | cons a as₁ ih => exact ih h.2

/-- Only ticks move the clock. -/
theorem now_step {a : Action Digest} (h : g.step a = some t) : t.now = g.now + a.secs := by
  cases move_of_step h with
  | tick | touch | expire | loginRefused | loginOpened | loginDisconnects | loginAwaits
  | loginAccepted | loginRejected | loginRemoved | loginReturned | loginDropped | sweepDrained
  | sweepDisconnects | sweepEnded | deleteMissed | deleteRemoved | deleteCancels
  | deleteAborted | deleteDisconnects | checkRefused | checkStarted | checkEnded | holdRefused
  | held | insertRefused | inserted | insertRejected | spawned | unregistered | registered
  | workerStarted | workerRefused | exportMarked | exportUnmarked | workerDropped
  | workerFinished | notCancelled | jobRead | artifactRead | jobsSwept => rfl
  | @deleteAborts id e handle => exact now_abort g handle
  | registeredLate => exact now_abort _ _
  | cancelled => exact now_abortFound _ _

/-- The clock shows the time that a run has taken. -/
theorem now_run (h : run step g as = some t) :
    t.now = g.now + (as.map Action.secs).sum := by
  induction as generalizing g with
  | nil =>
    obtain rfl : g = t := Option.some.inj h
    rfl
  | cons a as ih =>
    obtain ⟨u, hu, hrest⟩ := run_cons.mp h
    rw [ih hrest, now_step hu, List.map_cons, List.sum_cons, Nat.add_assoc]

/-- A sweep takes a dead session out of the registry, and it stays away. -/
theorem absent_of_swept (h : run step g as = some t) (hissued : (g.clock d).issued = true)
    (hdead : ¬ (g.clock d).Live) {a : Action Digest} (ha : a ∈ as) (hsweep : a.isSweep = true) :
    (t.clock d).session = none := by
  obtain ⟨as₁, as₂, rfl⟩ := List.append_of_mem ha
  obtain ⟨u, hu, hrest⟩ := run_append.mp h
  obtain ⟨v, hv, hrest⟩ := run_cons.mp hrest
  obtain ⟨hissued, hdead⟩ := dead_run hu hissued hdead
  apply absent_run hrest (issued_clock hv hissued)
  cases a with
  | sweepOnce id order =>
    rw [clock_step hv d]
    exact SessionClock.drained_of_not_live hdead
  | _ => cases hsweep

/-- A dead session is registered for no longer than an interval. -/
theorem absent_of_late {interval elapsed : ℕ} (h : run step g as = some t)
    (hswept : SweptEvery interval elapsed as) (hissued : (g.clock d).issued = true)
    (hdead : ¬ (g.clock d).Live) (hlate : g.now + interval < t.now) :
    (t.clock d).session = none := by
  by_cases hsweep : ∃ a ∈ as, a.isSweep = true
  · obtain ⟨a, ha, hsweep⟩ := hsweep
    exact absent_of_swept h hissued hdead ha hsweep
  · have hquiet : ∀ a ∈ as, a.isSweep = false := by
      intro a ha
      by_contra hsome
      exact hsweep ⟨a, ha, by simpa using hsome⟩
    have hle := elapsed_le_of_sweptEvery hswept hquiet
    have hnow := now_run h
    omega

/-- The action is no use of the session: it neither touches nor holds it. -/
def Unused (d : Digest) (g : Gateway Digest) (a : Action Digest) (_ : Gateway Digest) : Prop :=
  g.event d a ≠ .touch ∧ g.event d a ≠ .hold

instance (d : Digest) (g : Gateway Digest) (a : Action Digest) (t : Gateway Digest) :
    Decidable (Unused d g a t) := inferInstanceAs (Decidable (_ ∧ _))

/-- A session that nobody uses has been last used when it was. -/
theorem unused_run {lastUsedAt : ℕ} (h : run step g as = some t)
    (hunused : Along step (Unused d) g as) (hissued : (g.clock d).issued = true)
    (hlast : (g.clock d).Unused lastUsedAt) :
    (t.clock d).issued = true ∧ (t.clock d).Unused lastUsedAt ∧
      (t.clock d).idleTimeoutSecs = (g.clock d).idleTimeoutSecs := by
  apply invariant_along (I := fun t : Gateway Digest => (t.clock d).issued = true ∧
    (t.clock d).Unused lastUsedAt ∧
    (t.clock d).idleTimeoutSecs = (g.clock d).idleTimeoutSecs) _ h hunused
  · exact ⟨hissued, hlast, rfl⟩
  · intro u a v hu hquiet hstep
    obtain ⟨hissued, hlast, hidle⟩ := hu
    refine ⟨issued_clock hstep hissued, ?_, ?_⟩
    · rw [clock_step hstep]
      exact SessionClock.unused_apply hlast (event_ne_opened hstep hissued) hquiet.1 hquiet.2
    · rw [clock_step hstep, SessionClock.idleTimeoutSecs_apply, hidle]

end Gateway
end GvmGateway
