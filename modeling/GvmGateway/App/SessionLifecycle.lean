import GvmGateway.App.GatewaySteps
import GvmGateway.Domain.SessionLife

/-!
# The gateway refines the life of every session

`life g d` is what the gateway says about the session of a digest; `life_step` shows that
every step of the gateway is an event, or nothing, in the life of every session.
-/

namespace GvmGateway

open SessionTokenDigest SessionManager

/-- The part of `create_session` that the teardown of its session depends on. -/
def CreateStage.login {Digest : Type} : CreateStage Digest → Login
  | .disconnecting _ | .authenticating | .rejecting _ => .opened
  | .connected => .connected
  | .returned => .returned
  | .failed _ | .dropped => .ended

/-- One for a `delete_session` that has yet to disconnect the session of `d`. -/
def DeleteCall.pending {Digest : Type} [DecidableEq Digest] (c : DeleteCall Digest)
    (d : Digest) : ℕ :=
  if d = c.session ∧ c.stage ≠ .returned then 1 else 0

section

variable {Digest : Type} [DecidableEq Digest] (e d : Digest) (handles : List AbortHandle)

/-- A logout that has removed its session has still to disconnect it. -/
@[simp] theorem DeleteCall.pending_removed :
    DeleteCall.pending { session := e, stage := .removed } d = if d = e then 1 else 0 := by
  simp [pending]

@[simp] theorem DeleteCall.pending_aborting :
    DeleteCall.pending { session := e, stage := .aborting handles } d =
      if d = e then 1 else 0 := by
  simp [pending]

@[simp] theorem DeleteCall.pending_disconnecting :
    DeleteCall.pending { session := e, stage := .disconnecting } d =
      if d = e then 1 else 0 := by
  simp [pending]

@[simp] theorem DeleteCall.pending_returned :
    DeleteCall.pending { session := e, stage := .returned } d = 0 := by
  simp [pending]

end

namespace Gateway

variable {Digest : Type} [DecidableEq Digest]

/-- The number of calls in progress that will ask the backend to disconnect `d`. -/
def pendingDisconnects (g : Gateway Digest) (d : Digest) : ℕ :=
  (g.creates.total fun _ s => s.pending.count d) + (g.sweeps.total fun _ l => l.count d) +
    g.deletes.total fun _ c => c.pending d

/-- Where the login of a session stands. -/
def login (g : Gateway Digest) (d : Digest) : Login :=
  match g.creates.lookup d with
  | none => .unissued
  | some s => s.login

/-- What the gateway knows of one session. -/
def life (g : Gateway Digest) (d : Digest) : Life :=
  { login := g.login d
    registered := registered g.sessions d
    pending := g.pendingDisconnects d
    disconnected := g.disconnects.count d
    client := d ∈ g.clients }

/-! ## Updates -/

variable {g t : Gateway Digest} {d e : Digest} {id : ℕ}

/-- A login that moves on changes its own session only. -/
theorem login_setCreate (g : Gateway Digest) (d e : Digest) (s : CreateStage Digest) :
    (g.setCreate e s).login d = if d = e then s.login else g.login d := by
  unfold login setCreate
  rw [AList.lookup_insert_eq_ite]
  by_cases hd : d = e
  · rw [if_pos hd, if_pos hd]
  · rw [if_neg hd, if_neg hd]

/-- The login of a session is that of its call. -/
theorem login_of_lookup {s : CreateStage Digest} (h : g.creates.lookup d = some s) :
    g.login d = s.login := by
  rw [login, h]

theorem login_eq_unissued (h : g.creates.lookup d = none) : g.login d = .unissued := by
  rw [login, h]

/-- The list of a `create_session` changes. -/
theorem pending_setCreate {old : CreateStage Digest} (s : CreateStage Digest)
    (h : g.creates.lookup e = some old) (d : Digest) :
    (g.setCreate e s).pendingDisconnects d + old.pending.count d =
      g.pendingDisconnects d + s.pending.count d := by
  have htotal := AList.total_insert_of_lookup (fun _ s => s.pending.count d) s h
  unfold pendingDisconnects
  show AList.total _ (g.creates.insert e s) + g.sweeps.total _ + g.deletes.total _ + _ = _
  omega

/-- A new login adds the sessions that it has to disconnect. -/
theorem pending_setCreate_free (s : CreateStage Digest) (h : g.creates.lookup e = none)
    (d : Digest) : (g.setCreate e s).pendingDisconnects d =
      g.pendingDisconnects d + s.pending.count d := by
  have htotal := AList.total_insert_of_notMem (fun _ s => s.pending.count d) s h
  unfold pendingDisconnects
  show AList.total _ (g.creates.insert e s) + g.sweeps.total _ + g.deletes.total _ = _
  omega

/-- A sweep that goes on exchanges its list. -/
theorem pending_setSweep {old : List Digest} (l : List Digest)
    (h : g.sweeps.lookup id = some old) (d : Digest) :
    (g.setSweep id l).pendingDisconnects d + old.count d =
      g.pendingDisconnects d + l.count d := by
  have htotal := AList.total_insert_of_lookup (fun _ l => l.count d) l h
  unfold pendingDisconnects
  show g.creates.total _ + AList.total _ (g.sweeps.insert id l) + g.deletes.total _ + _ = _
  omega

theorem pending_setSweep_free (l : List Digest) (h : g.sweeps.lookup id = none)
    (d : Digest) :
    (g.setSweep id l).pendingDisconnects d = g.pendingDisconnects d + l.count d := by
  have htotal := AList.total_insert_of_notMem (fun _ l => l.count d) l h
  unfold pendingDisconnects
  show g.creates.total _ + AList.total _ (g.sweeps.insert id l) + g.deletes.total _ = _
  omega

theorem pending_endSweep (h : g.sweeps.lookup id = some []) (d : Digest) :
    (g.endSweep id).pendingDisconnects d = g.pendingDisconnects d := by
  have htotal := AList.total_of_lookup (fun _ l => l.count d) h
  rw [List.count_nil, Nat.zero_add] at htotal
  unfold pendingDisconnects
  rw [htotal]
  rfl

/-- A logout that goes on exchanges what it has to disconnect. -/
theorem pending_setDelete {old : DeleteCall Digest} (c : DeleteCall Digest)
    (h : g.deletes.lookup id = some old) (d : Digest) :
    (g.setDelete id c).pendingDisconnects d + old.pending d =
      g.pendingDisconnects d + c.pending d := by
  have htotal := AList.total_insert_of_lookup (fun _ c => c.pending d) c h
  unfold pendingDisconnects
  show g.creates.total _ + g.sweeps.total _ + AList.total _ (g.deletes.insert id c) + _ = _
  omega

theorem pending_setDelete_free (c : DeleteCall Digest) (h : g.deletes.lookup id = none)
    (d : Digest) :
    (g.setDelete id c).pendingDisconnects d = g.pendingDisconnects d + c.pending d := by
  have htotal := AList.total_insert_of_notMem (fun _ c => c.pending d) c h
  unfold pendingDisconnects
  show g.creates.total _ + g.sweeps.total _ + AList.total _ (g.deletes.insert id c) = _
  omega

/-- How often a session is in a list with one more. -/
theorem count_cons_ite (l : List Digest) (d e : Digest) :
    (e :: l).count d = l.count d + if d = e then 1 else 0 := by
  by_cases hd : d = e
  · rw [hd, List.count_cons_self, if_pos rfl]
  · rw [List.count_cons_of_ne (Ne.symm hd), if_neg hd, Nat.add_zero]

/-! ## Events -/

variable {auth : Prop}

/-- Nothing the life depends on has changed. -/
theorem life_congr (hlogin : t.login d = g.login d)
    (hreg : registered t.sessions d = registered g.sessions d)
    (hpend : t.pendingDisconnects d = g.pendingDisconnects d)
    (hdisc : t.disconnects = g.disconnects) (hclients : t.clients = g.clients) :
    t.life d = g.life d := by
  unfold life
  rw [hlogin, hreg, hpend, hdisc, hclients]

/-- A step that changes nothing of a session is an idle one in its life. -/
theorem idle_of_eq (h : t.life d = g.life d) : Life.Step auth (g.life d) (t.life d) := by
  rw [h]
  exact .idle

/-- A call took `k` entries of `d` out of the registry, and has put as many on its list. -/
theorem step_of_drain {k : ℕ} (hlogin : t.login d = g.login d)
    (hreg : registered t.sessions d + k = registered g.sessions d)
    (hpend : t.pendingDisconnects d = g.pendingDisconnects d + k)
    (hdisc : t.disconnects = g.disconnects) (hclients : t.clients = g.clients) :
    Life.Step auth (g.life d) (t.life d) := by
  have hone := registered_le_one g.sessions d
  by_cases hk : k = 0
  · subst hk
    exact idle_of_eq (life_congr hlogin hreg hpend hdisc hclients)
  · have hlife : t.life d = { g.life d with
        registered := 0, pending := (g.life d).pending + 1 } := by
      refine Life.ext hlogin ?_ ?_ ?_ ?_
      · show registered t.sessions d = 0
        omega
      · show t.pendingDisconnects d = g.pendingDisconnects d + 1
        omega
      · show t.disconnects.count d = g.disconnects.count d
        rw [hdisc]
      · show decide (d ∈ t.clients) = decide (d ∈ g.clients)
        rw [hclients]
    rw [hlife]
    apply Life.Step.drained
    show registered g.sessions d = 1
    omega

/-- A call asked the backend to disconnect `e`, which was on its list. -/
theorem step_of_disconnect (hlogin : t.login d = g.login d)
    (hreg : registered t.sessions d = registered g.sessions d)
    (hpend : t.pendingDisconnects d + (if d = e then 1 else 0) = g.pendingDisconnects d)
    (hdisc : t.disconnects = e :: g.disconnects) (hclients : t.clients = g.clients.erase e) :
    Life.Step auth (g.life d) (t.life d) := by
  by_cases hd : d = e
  · subst hd
    rw [if_pos rfl] at hpend
    have hlife : t.life d = { g.life d with
        pending := t.pendingDisconnects d, disconnected := (g.life d).disconnected + 1,
        client := false } := by
      refine Life.ext hlogin hreg rfl ?_ ?_
      · show t.disconnects.count d = g.disconnects.count d + 1
        rw [hdisc, List.count_cons_self]
      · show decide (d ∈ t.clients) = false
        rw [hclients, decide_eq_false_iff_not]
        exact Finset.notMem_erase d g.clients
    rw [hlife]
    exact .disconnected hpend.symm
  · rw [if_neg hd] at hpend
    -- no other session's client or count is touched
    apply idle_of_eq
    refine Life.ext hlogin hreg hpend ?_ ?_
    · show t.disconnects.count d = g.disconnects.count d
      rw [hdisc, List.count_cons_of_ne (Ne.symm hd)]
    · show decide (d ∈ t.clients) = decide (d ∈ g.clients)
      rw [hclients, decide_eq_decide, Finset.mem_erase, and_iff_right hd]

/-- The login of `e` goes on to another stage with the same list. -/
theorem life_setCreate_of_ne (s : CreateStage Digest) {old : CreateStage Digest}
    (h : g.creates.lookup e = some old) (hlist : s.pending = old.pending) (hd : d ≠ e) :
    (g.setCreate e s).life d = g.life d := by
  have hpend := pending_setCreate s h d
  rw [hlist] at hpend
  apply life_congr
  · rw [login_setCreate, if_neg hd]
  · rfl
  · omega
  · rfl
  · rfl

/-- A login that moves on within its list changes the login only. -/
theorem life_setCreate_self (s : CreateStage Digest) {old : CreateStage Digest}
    (h : g.creates.lookup e = some old) (hlist : s.pending = old.pending) :
    (g.setCreate e s).life e = { g.life e with login := s.login } := by
  have hpend := pending_setCreate s h e
  rw [hlist] at hpend
  refine Life.ext ?_ rfl ?_ rfl rfl
  · show (g.setCreate e s).login e = s.login
    rw [login_setCreate, if_pos rfl]
  · show (g.setCreate e s).pendingDisconnects e = g.pendingDisconnects e
    omega

/-- An abort changes the life of no session. -/
theorem life_abort (g : Gateway Digest) (handle : AbortHandle) (d : Digest) :
    (g.abort handle).life d = g.life d := by
  unfold abort
  split <;> rfl

theorem life_abortFound (g : Gateway Digest) (handle : Option AbortHandle) (d : Digest) :
    (g.abortFound handle).life d = g.life d := by
  cases handle with
  | none => rfl
  | some handle => exact life_abort g handle d

/-- Sessions that stay registered live on as before. -/
theorem life_setSessions (m : SessionManager Digest)
    (hreg : registered m d = registered g.sessions d) :
    (g.setSessions m).life d = g.life d :=
  life_congr rfl hreg rfl rfl rfl

/-! ## The refinement -/

/-- A login that passes the limits: it opens its own session, and takes the expired ones. -/
theorem opened_life {order : List Digest} (hg : (g.life d).Inv) (hfresh : g.creates.lookup e = none)
    (hperm : order.Perm (expiredSessionDigests g.sessions.inner g.now
      g.sessions.idleTimeoutSecs)) :
    Life.Step auth (g.life d)
      (((g.setSessions ((g.sessions.drained g.now).put e (.opened user g.now))).setCreate e
        (.disconnecting order)).life d) := by
  have hdrained := registered_drained g.sessions g.now d
  rw [← hperm.count_eq d] at hdrained
  have hput := registered_put (g.sessions.drained g.now) e d (.opened user g.now)
  have hpend := pending_setCreate_free
    (g := g.setSessions ((g.sessions.drained g.now).put e (.opened user g.now)))
    (.disconnecting order) hfresh d
  have hsame : (g.setSessions ((g.sessions.drained g.now).put e
      (.opened user g.now))).pendingDisconnects d = g.pendingDisconnects d := rfl
  rw [hsame] at hpend
  by_cases hd : d = e
  · -- the new session: a fresh digest was in no place before
    subst hd
    have hun : (g.life d).login = .unissued := login_eq_unissued hfresh
    have honce := hg.once
    rw [if_pos hun] at honce
    have hreg : registered g.sessions d + g.pendingDisconnects d + g.disconnects.count d ≤ 0 :=
      honce
    have hlife : ((g.setSessions ((g.sessions.drained g.now).put d
        (.opened user g.now))).setCreate d (.disconnecting order)).life d
        = { g.life d with login := .opened, registered := 1 } := by
      refine Life.ext ?_ ?_ ?_ rfl rfl
      · exact (login_setCreate _ d d _).trans (if_pos rfl)
      · exact hput.trans (if_pos rfl)
      · have hnone : order.count d = 0 := by omega
        exact hpend.trans (congrArg (g.pendingDisconnects d + ·) hnone)
    rw [hlife]
    exact .opened hun
  · rw [if_neg hd] at hput
    refine step_of_drain (g := g) ?_ ?_ hpend rfl rfl
    · exact (login_setCreate _ d _ _).trans (if_neg hd)
    · show registered ((g.sessions.drained g.now).put e _) d + order.count d = _
      rw [hput, hdrained]

/-- A login goes on to another stage with the same list. -/
theorem setCreate_life {u : Gateway Digest} (s : CreateStage Digest) {old : CreateStage Digest}
    (h : u.creates.lookup e = some old) (hlist : s.pending = old.pending)
    (hothers : d ≠ e → u.life d = g.life d)
    (hself : d = e → Life.Step auth (g.life e) { u.life e with login := s.login }) :
    Life.Step auth (g.life d) ((u.setCreate e s).life d) := by
  by_cases hd : d = e
  · subst hd
    rw [life_setCreate_self s h hlist]
    exact hself rfl
  · apply idle_of_eq
    rw [life_setCreate_of_ne s h hlist hd, hothers hd]

/-- The same, where the life does not tell the two stages apart. -/
theorem setCreate_life_eq (s : CreateStage Digest) {old : CreateStage Digest}
    (h : g.creates.lookup e = some old) (hlist : s.pending = old.pending)
    (hlogin : s.login = old.login) (d : Digest) : (g.setCreate e s).life d = g.life d := by
  by_cases hd : d = e
  · subst hd
    rw [life_setCreate_self s h hlist]
    exact Life.ext (hlogin.trans (login_of_lookup h).symm) rfl rfl rfl rfl
  · exact life_setCreate_of_ne s h hlist hd

/-- The login of `c` disconnects the first session of its list. -/
theorem loginDisconnects_life {c : Digest} {pending : List Digest}
    (h : g.creates.lookup c = some (.disconnecting (e :: pending))) :
    Life.Step auth (g.life d)
      (((g.disconnectSession e).setCreate c (.disconnecting pending)).life d) := by
  have hpend := pending_setCreate (g := g.disconnectSession e) (.disconnecting pending) h d
  have hsame : (g.disconnectSession e).pendingDisconnects d = g.pendingDisconnects d := rfl
  refine step_of_disconnect (g := g) (e := e) ?_ rfl ?_ rfl rfl
  · refine (login_setCreate _ d _ _).trans ?_
    by_cases hd : d = c
    · rw [if_pos hd, hd]
      exact (login_of_lookup h).symm
    · rw [if_neg hd]
      rfl
  · simp only [CreateStage.pending, count_cons_ite] at hpend
    omega

/-- An accepted login connects its session, and nothing else. -/
theorem connected_life (hlookup : g.creates.lookup e = some .authenticating) :
    ((g.connectSession e).setCreate e .connected).life e =
      { g.life e with login := .connected, client := true } := by
  rw [life_setCreate_self (g := g.connectSession e) .connected hlookup rfl]
  refine Life.ext rfl rfl rfl rfl ?_
  show decide (e ∈ insert e g.clients) = true
  exact decide_eq_true (Finset.mem_insert_self _ _)

/-- A connection changes the life of its session only. -/
theorem life_connectSession_of_ne (g : Gateway Digest) (hd : d ≠ e) :
    (g.connectSession e).life d = g.life d := by
  refine Life.ext rfl rfl rfl rfl ?_
  show decide (d ∈ insert e g.clients) = decide (d ∈ g.clients)
  rw [decide_eq_decide, Finset.mem_insert, or_iff_right hd]

/-- A `delete_session` moves on to a stage with the same disconnection to come. -/
theorem life_setDelete {old c : DeleteCall Digest} (h : g.deletes.lookup id = some old)
    (hpending : c.pending d = old.pending d) : (g.setDelete id c).life d = g.life d := by
  have hpend := pending_setDelete c h d
  refine life_congr rfl rfl ?_ rfl rfl
  omega

variable [SessionTokenDigest Digest] {token : String}

/-- A `delete_session` takes its session out of the registry. -/
theorem deleteRemoved_life {s : StoredSession} (hfree : g.deletes.lookup id = none)
    (hs : g.sessions.inner.lookup (fromToken token) = some s) :
    Life.Step auth (g.life d) (((g.setSessions (g.sessions.remove token).2).setDelete id
      { session := fromToken token, stage := .removed }).life d) := by
  have hremove := registered_remove g.sessions token d
  have hpend := pending_setDelete_free (g := g.setSessions (g.sessions.remove token).2)
    { session := fromToken token, stage := .removed } hfree d
  rw [DeleteCall.pending_removed] at hpend
  refine step_of_drain (g := g) rfl ?_ hpend rfl rfl
  show registered (g.sessions.remove token).2 d + _ = _
  rw [hremove]
  split
  · next hd => rw [hd, registered_of_lookup hs]
  · rfl

/-- A rejected login removes its session. -/
theorem loginRemoved_life {err : GatewayError}
    (h : g.creates.lookup (fromToken token) = some (.rejecting err)) :
    Life.Step auth (g.life d) (((g.setSessions (g.sessions.remove token).2).setCreate
      (fromToken token) (.failed err)).life d) := by
  refine setCreate_life (u := g.setSessions (g.sessions.remove token).2) (.failed err) h rfl
    (fun hd => ?_) fun _ => ?_
  · have hremove := registered_remove g.sessions token d
    rw [if_neg hd] at hremove
    exact life_setSessions _ hremove
  · have hremove := registered_remove g.sessions token (fromToken token)
    rw [if_pos rfl] at hremove
    have hlife : { (g.setSessions (g.sessions.remove token).2).life (fromToken token) with
        login := (.failed err : CreateStage Digest).login }
        = { g.life (fromToken token) with login := .ended, registered := 0 } :=
      Life.ext rfl hremove rfl rfl rfl
    rw [hlife]
    exact .rejected (login_of_lookup h)

/-- Every step of the gateway is one event, or nothing, in the life of every session. -/
theorem life_step {a : Action Digest} (hg : (g.life d).Inv) (h : g.step a = some t) :
    Life.Step (∃ token, a = .authenticate token (.ok ()) ∧ fromToken token = d)
      (g.life d) (t.life d) := by
  cases move_of_step h with
  | tick | loginRefused | checkEnded | notCancelled | jobRead | artifactRead | jobsSwept =>
    exact .idle
  -- exports touch and hold sessions, but they neither open nor remove any
  | touch token =>
    exact idle_of_eq (life_setSessions _ (registered_useLive g.sessions g.now token _ d))
  | checkRefused | checkStarted =>
    exact idle_of_eq (life_setSessions _ (registered_useLive g.sessions g.now _ _ d))
  | expire => exact idle_of_eq (life_setSessions _ (registered_modify _ _ _ _))
  | holdRefused => exact idle_of_eq (life_setSessions (g := g) _ (registered_modify _ _ _ _))
  | @held _ _ check s _ _ session _ =>
    apply idle_of_eq
    refine life_setSessions (g := g) (g.sessions.put (fromToken check.session.token) _) ?_
    rw [registered_put]
    split
    · next hd => rw [hd, registered_of_lookup session]
    · rfl
  | insertRefused | inserted | spawned | unregistered | registered | workerStarted
  | workerRefused | exportMarked | exportUnmarked | workerDropped => exact .idle
  | insertRejected | workerFinished =>
    exact idle_of_eq (life_setSessions (g := g) _ (registered_modify _ _ _ _))
  | registeredLate => exact idle_of_eq (life_abort _ _ d)
  | cancelled => exact idle_of_eq (life_abortFound _ _ d)
  -- logins
  | loginOpened fresh drained => exact opened_life hg fresh drained
  | loginDisconnects login => exact loginDisconnects_life login
  | loginAwaits login => exact idle_of_eq (setCreate_life_eq .authenticating login rfl rfl d)
  | @loginAccepted token login =>
    refine setCreate_life (u := g.connectSession (fromToken token)) .connected login rfl
      (life_connectSession_of_ne g) fun hd => ?_
    rw [← life_setCreate_self (g := g.connectSession (fromToken token)) .connected login rfl,
      connected_life login]
    exact .connected (login_of_lookup login) ⟨token, rfl, hd.symm⟩
  | loginRejected login => exact idle_of_eq (setCreate_life_eq (.rejecting _) login rfl rfl d)
  | loginRemoved login => exact loginRemoved_life login
  | loginReturned login =>
    exact setCreate_life .returned login rfl (fun _ => rfl) fun _ =>
      .returned (login_of_lookup login)
  | loginDropped login =>
    exact setCreate_life .dropped login rfl (fun _ => rfl) fun _ =>
      .dropped (login_of_lookup login)
  -- sweeps
  | @sweepDrained id order free drained =>
    have hdrained := registered_drained g.sessions g.now d
    rw [← drained.count_eq d] at hdrained
    exact step_of_drain rfl hdrained
      (pending_setSweep_free (g := g.setSessions (g.sessions.drained g.now)) order free d) rfl rfl
  | @sweepDisconnects id e pending sweep =>
    have hpend := pending_setSweep (g := g.disconnectSession e) pending sweep d
    have hsame : (g.disconnectSession e).pendingDisconnects d = g.pendingDisconnects d := rfl
    refine step_of_disconnect (g := g) (e := e) rfl rfl ?_ rfl rfl
    rw [count_cons_ite] at hpend
    omega
  | sweepEnded sweep => exact idle_of_eq (life_congr rfl rfl (pending_endSweep sweep d) rfl rfl)
  -- deletions
  | @deleteMissed id token missing =>
    have hremove := registered_remove g.sessions token d
    apply idle_of_eq
    apply life_setSessions
    rw [hremove]
    split
    · next hd => rw [hd, registered_eq_zero.mpr missing]
    · rfl
  | deleteRemoved free found => exact deleteRemoved_life free found
  | @deleteCancels id e order delete handles =>
    have hsame := life_setDelete (g := g.setJobs (g.jobs.cancelJobsForSession g.now g.now e).2.2)
      (c := { session := e, stage := .aborting order }) (d := d) delete (by simp)
    exact idle_of_eq hsame
  | @deleteAborts id e handle handles delete =>
    have hsame := life_setDelete (g := g.abort handle)
      (c := { session := e, stage := .aborting handles }) (d := d)
      (by rw [deletes_abort, delete]) (by simp)
    exact idle_of_eq (hsame.trans (life_abort g handle d))
  | deleteAborted delete => exact idle_of_eq (life_setDelete delete (by simp))
  | @deleteDisconnects id e delete =>
    have hpend := pending_setDelete (g := g.disconnectSession e)
      { session := e, stage := .returned } delete d
    rw [DeleteCall.pending_returned, DeleteCall.pending_disconnecting] at hpend
    exact step_of_disconnect (g := g) (e := e) rfl rfl hpend rfl rfl

/-! ## Removals -/

/-- The step removes the session of `d`, if it is registered: a drain that finds it expired, or a
deletion. -/
def Removes (g : Gateway Digest) (d : Digest) : Action Digest → Prop
  | .createSession _ _ _ | .sweepOnce _ _ => ∃ s, g.sessions.inner.lookup d = some s ∧
      s.isExpiredAt g.now g.sessions.idleTimeoutSecs = true
  | .deleteSession _ token => d = fromToken token
  | _ => False

omit [SessionTokenDigest Digest] in
/-- A drain leaves the sessions that it does not find expired. -/
theorem registered_drained_eq (m : SessionManager Digest) (now : ℕ)
    (h : ∀ s, m.inner.lookup d = some s → s.isExpiredAt now m.idleTimeoutSecs = false) :
    registered (m.drained now) d = registered m d := by
  have hdrained := registered_drained m now d
  have hcount : (expiredSessionDigests m.inner now m.idleTimeoutSecs).count d = 0 := by
    rw [List.count_eq_zero, mem_expiredSessionDigests]
    rintro ⟨s, hs, hexpired⟩
    rw [h s hs] at hexpired
    exact nomatch hexpired
  omega

/-- A registered session stays so, unless the step removes it or its login has failed. -/
theorem registered_step {a : Action Digest} (h : g.step a = some t)
    (hreg : registered g.sessions d = 1) (hkept : ¬ g.Removes d a) :
    registered t.sessions d = 1 ∨ t.login d = .ended := by
  have hlive : (¬ ∃ s, g.sessions.inner.lookup d = some s ∧
      s.isExpiredAt g.now g.sessions.idleTimeoutSecs = true) →
      ∀ s, g.sessions.inner.lookup d = some s →
        s.isExpiredAt g.now g.sessions.idleTimeoutSecs = false := by
    intro hnone s hs
    by_contra hexpired
    exact hnone ⟨s, hs, by simpa using hexpired⟩
  cases move_of_step h with
  | tick | loginRefused | loginDisconnects | loginAwaits | loginAccepted | loginRejected
  | loginReturned | loginDropped | sweepDisconnects | sweepEnded | deleteCancels
  | deleteAborted | deleteDisconnects | checkEnded | insertRefused | inserted | spawned
  | unregistered | registered | workerStarted | workerRefused | exportMarked | exportUnmarked
  | workerDropped | notCancelled | jobRead | artifactRead | jobsSwept => exact .inl hreg
  | registeredLate => exact .inl (by rw [sessions_abort]; exact hreg)
  | cancelled => exact .inl (by rw [sessions_abortFound]; exact hreg)
  | @deleteAborts id e handle handles =>
    left
    show registered (g.abort handle).sessions d = 1
    rw [sessions_abort, hreg]
  -- sessions are touched, held and released in place
  | touch token => exact .inl ((registered_useLive g.sessions g.now token _ d).trans hreg)
  | @checkRefused id token =>
    exact .inl ((registered_useLive g.sessions g.now token _ d).trans hreg)
  | @checkStarted id token =>
    exact .inl ((registered_useLive g.sessions g.now token _ d).trans hreg)
  | expire => exact .inl ((registered_modify _ _ _ _).trans hreg)
  | holdRefused | insertRejected | workerFinished =>
    exact .inl ((registered_modify g.sessions _ _ _).trans hreg)
  | @held id k check s =>
    left
    show registered (g.sessions.put (fromToken check.session.token) (s.held g.now)) d = 1
    rw [registered_put, hreg]
    exact ite_self 1
  -- drains and deletions
  | @loginOpened token user order =>
    left
    show registered ((g.sessions.drained g.now).put (fromToken token) (.opened user g.now)) d = 1
    rw [registered_put, registered_drained_eq g.sessions g.now (hlive hkept), hreg]
    exact ite_self 1
  | sweepDrained =>
    exact .inl ((registered_drained_eq g.sessions g.now (hlive hkept)).trans hreg)
  | @deleteMissed id token | @deleteRemoved id token =>
    left
    have hd : d ≠ fromToken token := hkept
    show registered (g.sessions.remove token).2 d = 1
    rw [registered_remove, if_neg hd, hreg]
  | @loginRemoved token err login =>
    by_cases hd : d = fromToken token
    · right
      rw [login_setCreate, if_pos hd]
      rfl
    · left
      show registered (g.sessions.remove token).2 d = 1
      rw [registered_remove, if_neg hd, hreg]

/-- A login fails together with the removal of its session. -/
theorem failed_origin {a : Action Digest} {err : GatewayError} (h : g.step a = some t)
    (hfailed : t.creates.lookup d = some (.failed err)) :
    g.creates.lookup d = some (.failed err) ∨ registered t.sessions d = 0 := by
  -- most steps do not touch the login
  have hinsert : ∀ e stage, (g.creates.insert e stage).lookup d = some (.failed err) →
      stage ≠ .failed err → g.creates.lookup d = some (.failed err) := by
    intro e stage hlookup hne
    rw [AList.lookup_insert_eq_ite] at hlookup
    split at hlookup
    · exact absurd (Option.some.inj hlookup) hne
    · exact hlookup
  cases move_of_step h with
  | tick | touch | expire | loginRefused | sweepDrained | sweepDisconnects | sweepEnded
  | deleteMissed | deleteRemoved | deleteCancels | deleteAborted | deleteDisconnects
  | checkRefused | checkStarted | checkEnded | holdRefused | held | insertRefused | inserted
  | insertRejected | spawned | unregistered | registered | workerStarted | workerRefused
  | exportMarked | exportUnmarked | workerDropped | workerFinished | notCancelled | jobRead
  | artifactRead | jobsSwept => exact .inl hfailed
  | registeredLate =>
    rw [creates_abort] at hfailed
    exact .inl hfailed
  | cancelled =>
    rw [creates_abortFound] at hfailed
    exact .inl hfailed
  | @deleteAborts id e handle handles =>
    have hlookup : (g.abort handle).creates.lookup d = some (.failed err) := hfailed
    rw [creates_abort] at hlookup
    exact .inl hlookup
  | loginOpened | loginDisconnects | loginAwaits | loginAccepted | loginRejected
  | loginReturned | loginDropped => exact .inl (hinsert _ _ hfailed nofun)
  | @loginRemoved token err' login =>
    by_cases hd : d = fromToken token
    · right
      show registered (g.sessions.remove token).2 d = 0
      rw [registered_remove, if_pos hd]
    · left
      have hlookup : (g.creates.insert (fromToken token) (.failed err')).lookup d =
          some (.failed err) := hfailed
      rwa [AList.lookup_insert_eq_ite, if_neg hd] at hlookup

end Gateway
end GvmGateway
