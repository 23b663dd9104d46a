import GvmGateway.App.SessionLifecycle
import GvmGateway.Domain.SessionRuns

/-!
# Backend connections end with their sessions

Two properties of every interleaving of logins, deletions and reaper sweeps: whether a client
can outlive its session, and how often the backend is asked to disconnect one.
-/

namespace GvmGateway
namespace Gateway

open SessionTokenDigest SessionManager TransitionSystem

variable {Digest : Type} [DecidableEq Digest]

/-- No `create_session`, `delete_session` or `sweep_once` is in progress. -/
def Quiet (g : Gateway Digest) : Prop :=
  (∀ e ∈ g.creates.entries, e.2.isDone = true) ∧ g.sweeps.entries = [] ∧
    ∀ e ∈ g.deletes.entries, e.2.stage = .returned

instance (g : Gateway Digest) : Decidable g.Quiet :=
  inferInstanceAs (Decidable (_ ∧ _ ∧ _))

variable {g t : Gateway Digest} {d : Digest}

/-- In a quiet gateway nobody is about to disconnect a session. -/
theorem Quiet.pending_eq_zero (hg : g.Quiet) (d : Digest) : g.pendingDisconnects d = 0 := by
  rcases hg with ⟨hcreates, hsweeps, hdeletes⟩
  have hcreate : (g.creates.total fun _ s => s.pending.count d) = 0 := by
    refine AList.total_eq_zero.mpr fun k s hs => ?_
    have hdone := hcreates ⟨k, s⟩ (AList.mem_entries_iff.mpr hs)
    cases s <;> first | rfl | exact absurd hdone Bool.false_ne_true
  have hsweep : (g.sweeps.total fun _ l => l.count d) = 0 := by
    rw [AList.total, hsweeps]
    rfl
  have hdelete : (g.deletes.total fun _ c => c.pending d) = 0 := by
    refine AList.total_eq_zero.mpr fun k c hc => ?_
    have hreturned : c.stage = .returned := hdeletes ⟨k, c⟩ (AList.mem_entries_iff.mpr hc)
    simp only [DeleteCall.pending, hreturned, ne_eq, not_true_eq_false, and_false, if_false]
  rw [pendingDisconnects, hcreate, hsweep, hdelete]

variable [SessionTokenDigest Digest] {a : Action Digest} {as : List (Action Digest)}
  {now idle : ℕ} {limits : SessionLimits} {policy : JobPolicy}

/-! ## The laws of every life, along a run -/

omit [SessionTokenDigest Digest] in
theorem life_inv_new (now idle : ℕ) (limits : SessionLimits) (policy : JobPolicy) (d : Digest) :
    ((new Digest now idle limits policy).life d).Inv :=
  ⟨le_refl _, fun hun => absurd rfl hun, nofun⟩

theorem life_inv_run (h : run step (new Digest now idle limits policy) as = some g) :
    ∀ d, (g.life d).Inv :=
  invariant (I := fun g => ∀ d, (g.life d).Inv)
    (fun _ _ _ hg hstep d => Life.inv_step (hg d) (life_step (hg d) hstep)) h
    (life_inv_new now idle limits policy)

/-! ## Orphans -/

/-- When the backend accepts a login, its session is still registered, or a call in progress
is going to disconnect it. -/
def AuthenticatesInTime (g : Gateway Digest) (a : Action Digest) : Prop :=
  ∀ token, a = .authenticate token (.ok ()) →
    0 < registered g.sessions (fromToken token) + g.pendingDisconnects (fromToken token)

omit [SessionTokenDigest Digest] in
/-- No session has a client that nobody will disconnect. -/
def NoOrphan (g : Gateway Digest) : Prop := ∀ d, ¬ (g.life d).Orphan

theorem noOrphan_step (hg : ∀ d, (g.life d).Inv) (hgood : g.NoOrphan)
    (ha : g.AuthenticatesInTime a) (h : g.step a = some t) : t.NoOrphan := by
  intro d
  apply Life.not_orphan_step (hg d) (hgood d) _ (life_step (hg d) h)
  rintro ⟨token, hauth, rfl⟩
  exact ha token hauth

theorem orphan_of_late (ha : ¬ g.AuthenticatesInTime a) (h : g.step a = some t) :
    ¬ t.NoOrphan := by
  intro hgood
  apply ha
  rintro token rfl
  by_contra hlate
  cases move_of_step h with
  | loginAccepted login =>
    apply hgood (fromToken token)
    rw [connected_life login]
    refine ⟨rfl, ?_, ?_⟩
    · show registered g.sessions (fromToken token) = 0
      omega
    · show g.pendingDisconnects (fromToken token) = 0
      omega

theorem orphan_step (hg : ∀ d, (g.life d).Inv) (hbad : ¬ g.NoOrphan) (h : g.step a = some t) :
    ¬ t.NoOrphan := by
  intro hgood
  apply hbad
  intro d horphan
  exact hgood d (Life.orphan_step (hg d) horphan (life_step (hg d) h))

omit [SessionTokenDigest Digest] in
/-- In a quiet gateway an orphan is a client without a session. -/
theorem Quiet.noOrphan_iff (hg : g.Quiet) :
    g.NoOrphan ↔ ∀ d ∈ g.clients, ∃ s, g.sessions.inner.lookup d = some s := by
  refine forall_congr' fun d => ?_
  have hpend := hg.pending_eq_zero d
  rw [← Option.isSome_iff_exists, Option.isSome_iff_ne_none, ne_eq, ← registered_eq_zero]
  refine ⟨fun hgood hclient hreg => ?_, fun hgood horphan => ?_⟩
  · exact hgood ⟨decide_eq_true hclient, hreg, hpend⟩
  · exact hgood (of_decide_eq_true horphan.1) horphan.2.1

/-- When a run ends with no call in progress, every client belongs to a registered session
iff no login of the run was accepted too late. -/
theorem clients_registered_iff (h : run step (new Digest now idle limits policy) as = some g)
    (hquiet : g.Quiet) :
    Along step (fun g a _ => g.AuthenticatesInTime a) (new Digest now idle limits policy) as ↔
      ∀ d ∈ g.clients, ∃ s, g.sessions.inner.lookup d = some s := by
  rw [← hquiet.noOrphan_iff]
  refine along_iff_of_permanent (I := fun g => ∀ d, (g.life d).Inv) ?_ ?_ ?_ ?_ h
    (life_inv_new now idle limits policy) fun d horphan => ?_
  · exact fun _ _ _ hg hstep d => Life.inv_step (hg d) (life_step (hg d) hstep)
  · exact fun _ _ _ hg hgood ha hstep => noOrphan_step hg hgood ha hstep
  · exact fun _ _ _ _ _ ha hstep => orphan_of_late ha hstep
  · exact fun _ _ _ hg hbad hstep => orphan_step hg hbad hstep
  · exact absurd horphan.1 Bool.false_ne_true

/-- A login that returns in time, and is deleted. -/
theorem clients_registered_iff_deleted :
    ∃ g : Gateway String,
      run step (new String 0 300 {} {})
        [.createSession "a" "alice" [], .createStep "a", .authenticate "a" (.ok ()),
          .createStep "a", .deleteSession 0 "a", .cancelJobs 0 [], .deleteStep 0,
          .deleteStep 0] = some g ∧
      (Along step (fun g a _ => g.AuthenticatesInTime a) (new String 0 300 {} {})
        [.createSession "a" "alice" [], .createStep "a", .authenticate "a" (.ok ()),
          .createStep "a", .deleteSession 0 "a", .cancelJobs 0 [], .deleteStep 0,
          .deleteStep 0] ↔
        ∀ d ∈ g.clients, ∃ s, g.sessions.inner.lookup d = some s) :=
  ⟨_, rfl, clients_registered_iff rfl (by decide)⟩

/-- The backend takes longer over a login than the idle timeout: a sweep drains the session
and asks for its disconnection, and then the client is connected. -/
def slowLogin : List (Action String) :=
  [.createSession "a" "alice" [], .createStep "a", .tick 400, .sweepOnce 0 ["a"],
    .sweepStep 0, .sweepStep 0, .authenticate "a" (.ok ()), .createStep "a"]

/-- The client of the slow login is left behind. -/
theorem orphan_reachable :
    ∃ g : Gateway String, run step (new String 0 300 {} {}) slowLogin = some g ∧
      g.Quiet ∧ "a" ∈ g.clients ∧ g.sessions.inner.lookup "a" = none :=
  ⟨_, rfl, by decide, by decide, rfl⟩

/-! ## Teardown, exactly once -/

omit [SessionTokenDigest Digest] in
/-- Where the session of a returned login is, once every call is over. -/
theorem Quiet.disconnects (hg : g.Quiet) (hlife : (g.life d).Inv) :
    (g.creates.lookup d = some .returned → g.sessions.inner.lookup d = none →
      g.disconnects.count d = 1) ∧
    (g.sessions.inner.lookup d ≠ none → g.disconnects.count d = 0) := by
  have hpend : (g.life d).pending = 0 := hg.pending_eq_zero d
  refine ⟨fun hreturned hgone => ?_, fun hthere => ?_⟩
  · have hlogin : (g.life d).login = .returned := login_of_lookup hreturned
    have hreg : (g.life d).registered = 0 := registered_eq_zero.mpr hgone
    have howed := hlife.owed (by simp [hlogin]) (by simp [hlogin])
    show (g.life d).disconnected = 1
    omega
  · have hreg : (g.life d).registered ≠ 0 := fun h0 => hthere (registered_eq_zero.mp h0)
    have honce := hlife.once
    show (g.life d).disconnected = 0
    split at honce <;> omega

/-- Every session that leaves the registry is torn down once.

In a run of the registry, each digest ever inserted is still registered or has been reported
once, and each call reports exactly the digests that it removes. In a run of the gateway that
ends with no call in progress, the backend has been asked once to disconnect each session
that was returned to a client and is gone, and never one that is still registered. A login
that fails changes nothing; one that succeeds removes the expired sessions and adds its own. -/
theorem torn_down_once (now idle : ℕ) (limits : SessionLimits) (policy : JobPolicy) :
    (∀ (as : List (Registry.Action Digest)) r,
      run Registry.step (Registry.start Digest now idle limits) as = some r →
      (∀ token user, .create token user ∉ as) →
      (∀ d, registered r.manager d +
          (Registry.reports (Registry.start Digest now idle limits) as).count d =
        if d ∈ r.issued then 1 else 0) ∧
      ∀ a t, r.step a = some t → (∀ token user, a ≠ .create token user) → ∀ d,
        d ∈ r.reported a ↔
          (r.manager.inner.lookup d).isSome ∧ t.manager.inner.lookup d = none) ∧
    (∀ (as : List (Action Digest)) g,
      run step (new Digest now idle limits policy) as = some g → g.Quiet → ∀ d,
      (g.creates.lookup d = some .returned → g.sessions.inner.lookup d = none →
        g.disconnects.count d = 1) ∧
      (g.sessions.inner.lookup d ≠ none → g.disconnects.count d = 0)) ∧
    ∀ (m m' : SessionManager Digest) (token user : String) (result : Except GatewayError _),
      m.createDrainingExpired now token user = (result, m') →
      match result with
      | .error _ => m' = m
      | .ok (_, expired) =>
        (∀ d, d ∈ expired ↔
          ∃ s, m.inner.lookup d = some s ∧ s.isExpiredAt now m.idleTimeoutSecs = true) ∧
        ∀ d, m'.inner.lookup d =
          if d = fromToken token then some (.opened user now)
          else (m.inner.lookup d).filter fun s => !s.isExpiredAt now m.idleTimeoutSecs := by
  refine ⟨fun as r hrun hdrain => ⟨?_, ?_⟩, fun as g hrun hquiet d => ?_, ?_⟩
  · exact Registry.registered_add_reports hrun hdrain
  · intro a t hstep ha
    exact Registry.mem_reported (Registry.knowsRegistered_run hrun hdrain) ha hstep
  · exact hquiet.disconnects (life_inv_run hrun d)
  · intro m m' token user result h
    split
    -- the limits are checked before anything is removed
    · rcases m.createDrainingExpired_cases now token user with ⟨err, hfail⟩ | ⟨-, hdone⟩
      · rw [hfail] at h
        exact (congrArg Prod.snd h).symm
      · rw [hdone] at h
        cases h
    · exact createDrainingExpired_eq_ok h

/-- A login that returns, idles, and is swept. -/
def sweptLogin : List (Action String) :=
  [.createSession "a" "alice" [], .createStep "a", .authenticate "a" (.ok ()),
    .createStep "a", .tick 400, .sweepOnce 0 ["a"], .sweepStep 0, .sweepStep 0]

theorem torn_down_once_swept :
    ∃ g : Gateway String, run step (new String 0 300 {} {}) sweptLogin = some g ∧
      g.disconnects.count "a" = 1 := by
  refine ⟨_, rfl, ?_⟩
  have honce := (@torn_down_once String _ _ 0 300 {} {}).2.1 sweptLogin _ rfl
    (by decide) "a"
  exact honce.1 rfl rfl

end Gateway
end GvmGateway
