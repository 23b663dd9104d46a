import GvmGateway.Domain.SessionTheorems
import GvmGateway.Library.TransitionSystem

/-!
# Runs of the session registry

The registry under any sequence of calls, with a clock that does not go back and with fresh
tokens. Two laws hold of every run: the live sessions stay within the limits, and every
session that leaves the registry is reported once, by the call that removed it.
-/

namespace GvmGateway

open SessionTokenDigest TransitionSystem

/-- The registry, the clock, and the digests inserted so far. -/
structure Registry (Digest : Type) where
  now : ℕ
  manager : SessionManager Digest
  issued : List Digest

namespace Registry

variable {Digest : Type} [DecidableEq Digest] [SessionTokenDigest Digest]

/-- An empty registry at some time. -/
def start (Digest : Type) (now idleTimeoutSecs : ℕ) (limits : SessionLimits) :
    Registry Digest :=
  { now := now, manager := .withLimits Digest idleTimeoutSecs limits, issued := [] }

/-- A call of the registry, or the passing of time. A hold may be dropped at any time. -/
inductive Action (Digest : Type) where
  | tick (secs : ℕ)
  | create (token user : String)
  | createDrainingExpired (token user : String)
  | getInfo (token : String)
  | touch (token : String)
  | hold (token : String)
  | dropHold (d : Digest)
  | expire (token : String)
  | drainExpired
  | remove (token : String)

omit [DecidableEq Digest] [SessionTokenDigest Digest] in
/-- The call leaves another registry behind. -/
def leaving (r : Registry Digest) (m : SessionManager Digest) : Registry Digest :=
  { r with manager := m }

/-- A login under a fresh token. -/
def login (r : Registry Digest) (token user : String) : Option (Registry Digest) :=
  if fromToken token ∈ r.issued then none
  else
    match r.manager.createDrainingExpired r.now token user with
    | (.error _, m) => some (r.leaving m)
    | (.ok _, m) => some { r with manager := m, issued := fromToken token :: r.issued }

/-- One operation on the registry, or time that passes. -/
def step (r : Registry Digest) : Action Digest → Option (Registry Digest)
  | .tick secs => some { r with now := r.now + secs }
  | .create token user => r.login token user
  | .createDrainingExpired token user => r.login token user
  | .getInfo _ => some r
  | .touch token => some (r.leaving (r.manager.touch r.now token).2)
  | .hold token => some (r.leaving (r.manager.hold r.now token).2)
  | .dropHold d => some (r.leaving (r.manager.dropHold d))
  | .expire token => some (r.leaving (r.manager.expire token).2)
  | .drainExpired => some (r.leaving (r.manager.drainExpired r.now).2)
  | .remove token => some (r.leaving (r.manager.remove token).2)

/-- The digests that a call hands to its caller for cleanup. -/
def reported (r : Registry Digest) : Action Digest → List Digest
  | .createDrainingExpired token user =>
    match (r.manager.createDrainingExpired r.now token user).1 with
    | .ok (_, expiredTokens) => expiredTokens
    | .error _ => []
  | .drainExpired => (r.manager.drainExpired r.now).1
  | .remove token => if (r.manager.remove token).1.isSome then [fromToken token] else []
  | _ => []

/-- The digests handed out over a run. -/
def reports : Registry Digest → List (Action Digest) → List Digest
  | _, [] => []
  | r, a :: as =>
    r.reported a ++ match r.step a with
      | some t => reports t as
      | none => []

variable {r t : Registry Digest} {a : Action Digest} {m : SessionManager Digest}
  {now later : ℕ} {token user : String} {d : Digest}

/-! ## What a step can do -/

/-- Everything that a step can do: time passes, one session is changed in place without
coming back to life, the expired sessions are drained, one session is removed, or a session
is opened after a drain. -/
inductive Effect (r : Registry Digest) (a : Action Digest) : Registry Digest → Prop where
  | ticked (secs : ℕ) (silent : r.reported a = []) :
      Effect r a { r with now := r.now + secs }
  | modified (d : Digest) (f : StoredSession → StoredSession)
      (user : ∀ s, (f s).user = s.user)
      (dead : ∀ s, s.isExpiredAt r.now r.manager.idleTimeoutSecs = true →
        (f s).isExpiredAt r.now r.manager.idleTimeoutSecs = true)
      (silent : r.reported a = []) : Effect r a (r.leaving (r.manager.modify d f))
  | drained (reported : r.reported a =
        expiredSessionDigests r.manager.inner r.now r.manager.idleTimeoutSecs) :
      Effect r a (r.leaving (r.manager.drained r.now))
  | removed (token : String) (reported : r.reported a =
        if (r.manager.inner.lookup (fromToken token)).isSome then [fromToken token] else []) :
      Effect r a (r.leaving (r.manager.remove token).2)
  | opened (token user : String) (fresh : fromToken token ∉ r.issued)
      (allowed : enforceSessionLimits r.manager.inner user r.manager.limits r.now
        r.manager.idleTimeoutSecs = .ok ())
      (reported : a ≠ .create token user → r.reported a =
        expiredSessionDigests r.manager.inner r.now r.manager.idleTimeoutSecs) :
      Effect r a { r with
        manager := (r.manager.drained r.now).put (fromToken token) (.opened user r.now),
        issued := fromToken token :: r.issued }

/-- A call that finds nothing to do. -/
theorem effect_idle (silent : r.reported a = []) : Effect r a r := .ticked 0 silent

theorem login_effect (h : r.login token user = some t)
    (ha : a = .create token user ∨ a = .createDrainingExpired token user) : Effect r a t := by
  unfold login at h
  split at h
  · cases h
  · next hfresh =>
    rcases r.manager.createDrainingExpired_cases r.now token user with ⟨err, hfail⟩ | ⟨hok, hdone⟩
    · rw [hfail] at h
      cases h
      apply effect_idle
      rcases ha with rfl | rfl
      · rfl
      · simp only [reported, hfail]
    · rw [hdone] at h
      cases h
      refine .opened token user hfresh hok fun hne => ?_
      rcases ha with rfl | rfl
      · exact absurd rfl hne
      · simp only [reported, hdone]

/-- `touch` and `hold` keep the user, and they leave an expired session expired. -/
theorem useLive_effect {update : StoredSession → StoredSession}
    (huser : ∀ s, (update s).user = s.user) (silent : r.reported a = []) :
    Effect r a (r.leaving (r.manager.useLive r.now token update).2) := by
  rw [SessionManager.useLive_eq_modify]
  refine .modified _ _ (fun s => ?_) (fun s hs => ?_) silent
  · split
    · rfl
    · exact huser s
  · rw [if_pos hs]
    rfl

theorem step_effect (h : r.step a = some t) : Effect r a t := by
  cases a with
  | tick secs =>
    cases h
    exact .ticked secs rfl
  | create token user => exact login_effect h (.inl rfl)
  | createDrainingExpired token user => exact login_effect h (.inr rfl)
  | getInfo token =>
    cases h
    exact effect_idle rfl
  | touch token =>
    cases h
    exact useLive_effect (fun _ => rfl) rfl
  | hold token =>
    cases h
    exact useLive_effect (fun _ => rfl) rfl
  | dropHold d =>
    cases h
    exact .modified d _ (fun _ => rfl) (fun _ => StoredSession.isExpiredAt_released) rfl
  | expire token =>
    cases h
    rw [SessionManager.expire_eq_modify]
    exact .modified _ _ (fun _ => rfl) (fun _ _ => rfl) rfl
  | drainExpired =>
    cases h
    exact .drained rfl
  | remove token =>
    cases h
    refine .removed token ?_
    rw [← SessionManager.isSome_remove]
    rfl

/-! ## Capacity -/

omit [DecidableEq Digest] [SessionTokenDigest Digest] in
/-- The live sessions are within both limits. -/
def WithinLimits (r : Registry Digest) : Prop :=
  (∀ n, r.manager.limits.maxGlobal = some n →
    SessionManager.liveSessions r.manager r.now (fun _ => true) ≤ n) ∧
  ∀ n user, r.manager.limits.maxPerUser = some n →
    SessionManager.liveSessions r.manager r.now (· == user) ≤ n

omit [DecidableEq Digest] [SessionTokenDigest Digest] in
/-- A step that adds no live session of any user. -/
theorem withinLimits_of_le (hr : r.WithinLimits) (hlimits : t.manager.limits = r.manager.limits)
    (hle : ∀ q, SessionManager.liveSessions t.manager t.now q
      ≤ SessionManager.liveSessions r.manager r.now q) :
    t.WithinLimits := by
  refine ⟨fun n hn => ?_, fun n user hn => ?_⟩
  · rw [hlimits] at hn
    exact (hle _).trans (hr.1 n hn)
  · rw [hlimits] at hn
    exact (hle _).trans (hr.2 n user hn)

/-- No step takes the registry over a limit. -/
theorem withinLimits_step (hr : r.WithinLimits) (h : r.step a = some t) : t.WithinLimits := by
  cases step_effect h with
  | ticked secs =>
    exact withinLimits_of_le hr rfl fun q => SessionManager.live_le_of_le _ q (Nat.le_add_right _ _)
  | modified d f huser hdead =>
    exact withinLimits_of_le hr (SessionManager.limits_modify _ d f) fun q =>
      SessionManager.live_modify_le q huser hdead
  | drained => exact withinLimits_of_le hr rfl fun q => SessionManager.live_drained_le _ _ _ q
  | removed token => exact withinLimits_of_le hr rfl fun q => SessionManager.live_remove_le _ token _ q
  | opened token user _ allowed =>
    rcases enforceSessionLimits_eq_ok allowed with ⟨hglobal, hperUser⟩
    have hadd : ∀ q, SessionManager.liveSessions ((r.manager.drained r.now).put (fromToken token)
        (.opened user r.now)) r.now q ≤ (if q user then 1 else 0) +
          SessionManager.liveSessions r.manager r.now q := fun q =>
      (SessionManager.live_put_le _ q).trans
        (Nat.add_le_add_left (SessionManager.live_drained_le _ _ _ q) _)
    refine ⟨fun n hn => ?_, fun n other hn => ?_⟩
    · have hone := hadd fun _ => true
      have hroom : SessionManager.liveSessions r.manager r.now (fun _ => true) < n := hglobal n hn
      simp only [if_true] at hone
      exact hone.trans (by omega)
    · have hone := hadd (· == other)
      -- of the new session's user there is one more, of every other user at most as many
      by_cases hother : user = other
      · subst hother
        have hroom : SessionManager.liveSessions r.manager r.now (· == user) < n := hperUser n hn
        simp only [beq_self_eq_true, if_true] at hone
        exact hone.trans (by omega)
      · have hbound := hr.2 n other hn
        rw [if_neg (by simpa using hother)] at hone
        exact hone.trans (by omega)

omit [DecidableEq Digest] [SessionTokenDigest Digest] in
theorem withinLimits_start (now idle : ℕ) (limits : SessionLimits) :
    (start Digest now idle limits).WithinLimits :=
  ⟨fun _ _ => Nat.zero_le _, fun _ _ _ => Nat.zero_le _⟩

/-- The configuration never changes. -/
theorem config_step (h : r.step a = some t) :
    t.manager.limits = r.manager.limits ∧
      t.manager.idleTimeoutSecs = r.manager.idleTimeoutSecs := by
  cases step_effect h with
  | modified d f =>
    exact ⟨SessionManager.limits_modify _ d f, SessionManager.idleTimeoutSecs_modify _ d f⟩
  | _ => exact ⟨rfl, rfl⟩

theorem config_run {as : List (Action Digest)} (h : run step r as = some t) :
    t.manager.limits = r.manager.limits ∧
      t.manager.idleTimeoutSecs = r.manager.idleTimeoutSecs := by
  have hkeep := invariant
    (I := fun u => u.manager.limits = r.manager.limits ∧
      u.manager.idleTimeoutSecs = r.manager.idleTimeoutSecs)
    (fun u b v hu hv => ⟨(config_step hv).1.trans hu.1, (config_step hv).2.trans hu.2⟩) h
    ⟨rfl, rfl⟩
  exact hkeep

/-- At every instant of every run, the sessions that have not expired are within the global
limit, and those of any one user within the per-user limit. -/
theorem live_sessions_within_limits {idle : ℕ} {limits : SessionLimits}
    {as : List (Action Digest)} (h : run step (start Digest now idle limits) as = some r) :
    (∀ n, limits.maxGlobal = some n →
      countSessions r.manager.inner (fun s => !s.isExpiredAt r.now idle) ≤ n) ∧
    ∀ n user, limits.maxPerUser = some n →
      countSessions r.manager.inner (fun s => s.user == user && !s.isExpiredAt r.now idle)
        ≤ n := by
  have hwithin := invariant (I := WithinLimits) (fun _ _ _ => withinLimits_step) h
    (withinLimits_start now idle limits)
  rcases config_run h with ⟨hlimits, hidle⟩
  have hlimits : r.manager.limits = limits := hlimits
  have hidle : r.manager.idleTimeoutSecs = idle := hidle
  subst hlimits hidle
  exact hwithin

/-- Two logins fill the per-user limit, one session is held, and a third login comes after the
other one has expired. -/
theorem live_sessions_within_limits_after_expiry :
    ∃ r : Registry String,
      run step (start String 100 30 { maxGlobal := some 3, maxPerUser := some 2 })
        [.createDrainingExpired "a" "alice", .createDrainingExpired "b" "alice", .hold "a",
          .tick 40, .create "c" "alice"] = some r ∧
      countSessions r.manager.inner (fun s => !s.isExpiredAt r.now 30) ≤ 3 ∧
      countSessions r.manager.inner
        (fun s => s.user == "alice" && !s.isExpiredAt r.now 30) ≤ 2 := by
  refine ⟨_, rfl, ?_⟩
  have hrun : run step (start String 100 30 { maxGlobal := some 3, maxPerUser := some 2 })
      [.createDrainingExpired "a" "alice", .createDrainingExpired "b" "alice", .hold "a",
        .tick 40, .create "c" "alice"] = some _ := rfl
  have hwithin := live_sessions_within_limits hrun
  exact ⟨hwithin.1 3 rfl, hwithin.2 2 "alice" rfl⟩

/-! ## Who is told of a session that leaves -/

open SessionManager (registered registered_le_one)

/-- Every registered digest has been issued. -/
def KnowsRegistered (r : Registry Digest) : Prop :=
  ∀ d, registered r.manager d ≤ r.issued.count d

/-- One step of the balance between the sessions that are registered, those that have been
reported and those that have been issued. -/
theorem balance_step (hr : r.KnowsRegistered) (ha : ∀ token user, a ≠ .create token user)
    (h : r.step a = some t) (d : Digest) :
    registered t.manager d + (r.reported a).count d + r.issued.count d =
      registered r.manager d + t.issued.count d := by
  cases step_effect h with
  | ticked secs silent =>
    rw [silent, List.count_nil]
    rfl
  | modified j f _ _ silent =>
    show registered (r.manager.modify j f) d + _ + _ = _
    rw [silent, List.count_nil, SessionManager.registered_modify]
    rfl
  | drained reported =>
    have hdrained := SessionManager.registered_drained r.manager r.now d
    show registered (r.manager.drained r.now) d + _ + _ = _ + r.issued.count d
    rw [reported]
    omega
  | removed token reported =>
    show registered (r.manager.remove token).2 d + _ + _ = _ + r.issued.count d
    rw [SessionManager.registered_remove, reported]
    by_cases hd : d = fromToken token
    · subst hd
      unfold SessionManager.registered
      rcases r.manager.inner.lookup (fromToken token) with _ | s
      · simp
      · simp
    · have hnone : List.count d
          (if (r.manager.inner.lookup (fromToken token)).isSome then [fromToken token] else [])
          = 0 := by
        split <;> simp [Ne.symm hd]
      rw [if_neg hd, hnone]
      rfl
  | opened token user fresh _ reported =>
    have hdrained := SessionManager.registered_drained r.manager r.now d
    show registered ((r.manager.drained r.now).put (fromToken token) _) d + _ + _ =
      _ + (fromToken token :: r.issued).count d
    rw [SessionManager.registered_put, reported (ha token user), List.count_cons]
    by_cases hd : d = fromToken token
    · -- a fresh digest is not registered, so the drain has not reported it either
      subst hd
      have hnew := hr (fromToken token)
      rw [List.count_eq_zero.mpr fresh] at hnew
      simp only [if_true, beq_self_eq_true]
      omega
    · have hother : (fromToken token == d) = false := beq_eq_false_iff_ne.mpr (Ne.symm hd)
      rw [if_neg hd, hother]
      simp only [Bool.false_eq_true, if_false]
      omega

theorem knowsRegistered_step (hr : r.KnowsRegistered)
    (ha : ∀ token user, a ≠ .create token user) (h : r.step a = some t) :
    t.KnowsRegistered := by
  intro d
  have hbalance := balance_step hr ha h d
  have hd := hr d
  omega

/-- The balance over a whole run. -/
theorem balance_run {as : List (Action Digest)} (hr : r.KnowsRegistered)
    (ha : ∀ token user, .create token user ∉ as) (h : run step r as = some t) (d : Digest) :
    registered t.manager d + (reports r as).count d + r.issued.count d =
      registered r.manager d + t.issued.count d := by
  induction as generalizing r with
  | nil =>
    have hrt : r = t := Option.some.inj h
    rw [hrt, reports, List.count_nil, Nat.add_zero]
  | cons b as ih =>
    rcases run_cons.mp h with ⟨u, hu, hrun⟩
    have hb : ∀ token user, b ≠ .create token user := by
      intro token user hne
      exact ha token user (by simp [hne])
    have hone := balance_step hr hb hu d
    have hrest := ih (knowsRegistered_step hr hb hu)
      (fun token user hmem => ha token user (List.mem_cons_of_mem _ hmem)) hrun
    rw [reports, hu, List.count_append]
    simp only
    omega

/-- A call reports exactly the digests that it removes. -/
theorem mem_reported (hr : r.KnowsRegistered) (ha : ∀ token user, a ≠ .create token user)
    (h : r.step a = some t) (d : Digest) :
    d ∈ r.reported a ↔
      (r.manager.inner.lookup d).isSome ∧ t.manager.inner.lookup d = none := by
  have hbalance := balance_step hr ha h d
  have hone := registered_le_one r.manager d
  rw [← List.count_pos_iff, ← SessionManager.registered_eq_zero]
  have hreg : (r.manager.inner.lookup d).isSome ↔ registered r.manager d = 1 := by
    unfold SessionManager.registered
    split <;> simp [*]
  rw [hreg]
  -- only a login issues a token, and only one that has no session
  have hissued : t.issued.count d = r.issued.count d ∨
      t.issued.count d = r.issued.count d + 1 ∧ registered r.manager d = 0 ∧
        registered t.manager d = 1 := by
    cases step_effect h with
    | opened token user fresh =>
      by_cases hd : d = fromToken token
      · right
        have hnew := hr d
        rw [hd, List.count_eq_zero.mpr fresh] at hnew
        refine ⟨by rw [hd]; exact List.count_cons_self, by rw [hd]; omega, ?_⟩
        show registered ((r.manager.drained r.now).put (fromToken token) _) d = 1
        rw [SessionManager.registered_put, if_pos hd]
      · left
        exact List.count_cons_of_ne (Ne.symm hd)
    | _ => exact .inl rfl
  omega

theorem nodup_issued_step (hr : r.issued.Nodup) (h : r.step a = some t) : t.issued.Nodup := by
  cases step_effect h with
  | opened token user fresh => exact List.nodup_cons.mpr ⟨fresh, hr⟩
  | _ => exact hr

omit [SessionTokenDigest Digest] in
theorem knowsRegistered_start (now idle : ℕ) (limits : SessionLimits) :
    (start Digest now idle limits).KnowsRegistered := fun _ => Nat.zero_le _

/-- Every digest ever inserted is still registered, or has been reported once. -/
theorem registered_add_reports {idle : ℕ} {limits : SessionLimits} {as : List (Action Digest)}
    (h : run step (start Digest now idle limits) as = some r)
    (ha : ∀ token user, .create token user ∉ as) (d : Digest) :
    registered r.manager d + (reports (start Digest now idle limits) as).count d =
      if d ∈ r.issued then 1 else 0 := by
  have hnodup := invariant (I := fun u => u.issued.Nodup) (fun _ _ _ => nodup_issued_step) h
    List.nodup_nil
  have hbalance := balance_run (knowsRegistered_start now idle limits) ha h d
  rw [← hnodup.count, ← Nat.zero_add (r.issued.count d)]
  exact hbalance

/-- Along a run, the registry never holds a digest that was not issued. -/
theorem knowsRegistered_run {idle : ℕ} {limits : SessionLimits} {as : List (Action Digest)}
    (h : run step (start Digest now idle limits) as = some r)
    (ha : ∀ token user, .create token user ∉ as) : r.KnowsRegistered := by
  intro d
  have hbalance := balance_run (knowsRegistered_start now idle limits) ha h d
  have hnone : registered (start Digest now idle limits).manager d = 0 := rfl
  omega

end Registry
end GvmGateway
