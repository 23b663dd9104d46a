import GvmGateway.Domain.Session

/-!
# What the registry's methods do

For each method, the session that a lookup finds after it (`lookup_touch`, `lookup_drained`,
…); the users of the registry never unfold a method.
-/

namespace GvmGateway

open SessionTokenDigest

/-! ## Expiry -/

namespace StoredSession

variable {s : StoredSession} {now later idle : ℕ}

/-- No session comes back to life by the passing of time. -/
theorem isExpiredAt_mono (hle : now ≤ later) (h : s.isExpiredAt now idle = true) :
    s.isExpiredAt later idle = true := by
  unfold isExpiredAt at h ⊢
  split at h
  · split at h
    · cases h
    · next hheld =>
      simp only [decide_eq_true_eq] at h
      simp only [hheld, if_false, decide_eq_true_eq]
      omega
  · rfl

/-- The drop of a hold may let a session expire, but it revives none. -/
theorem isExpiredAt_released (h : s.isExpiredAt now idle = true) :
    s.released.isExpiredAt now idle = true := by
  unfold isExpiredAt released at *
  split at h
  · next hactive =>
    split at h
    · cases h
    · simp only [hactive]
      rw [if_neg (by omega)]
      exact h
  · next hexpired => simp only [hexpired]

/-- A held session only expires when it is marked so. -/
theorem state_of_isExpiredAt (h : s.isExpiredAt now idle = true) (hheld : 0 < s.holdCount) :
    s.state = .expired := by
  unfold isExpiredAt at h
  split at h
  · rw [if_pos hheld] at h
    cases h
  · next hexpired => exact hexpired

/-- A session that is found to have expired was idle without a hold, or marked before. -/
theorem idled_of_isExpiredAt (h : s.isExpiredAt now idle = true) :
    s.state = .expired ∨ s.holdCount = 0 := by
  by_cases hheld : 0 < s.holdCount
  · exact .inl (state_of_isExpiredAt h hheld)
  · exact .inr (by omega)

end StoredSession

/-! ## The expired digests -/

section Registry

variable {Digest : Type} {sessions : AList fun _ : Digest => StoredSession} {d : Digest}
  {now idle : ℕ}

/-- No session is listed twice as expired. -/
theorem nodup_expiredSessionDigests (sessions : AList fun _ : Digest => StoredSession)
    (now idle : ℕ) : (expiredSessionDigests sessions now idle).Nodup :=
  AList.keys_nodup _

theorem mem_expiredSessionDigests [DecidableEq Digest] :
    d ∈ expiredSessionDigests sessions now idle ↔
      ∃ s, sessions.lookup d = some s ∧ s.isExpiredAt now idle = true := by
  rw [expiredSessionDigests, AList.mem_keys_iff_lookup]
  simp only [AList.lookup_filter_eq_some]

/-! ## The capacity limits -/

variable {user : String} {limits : SessionLimits}

/-- A limit that is passed is above the count. -/
theorem checkLimit_eq_ok {limit : Option ℕ} {count : ℕ} {detail : String}
    (h : checkLimit limit count detail = .ok ()) : ∀ n, limit = some n → count < n := by
  intro n hn
  rw [hn] at h
  simp only [checkLimit] at h
  by_contra hle
  rw [if_pos (by omega)] at h
  cases h

/-- A login passes the check only below both limits. -/
theorem enforceSessionLimits_eq_ok
    (h : enforceSessionLimits sessions user limits now idle = .ok ()) :
    (∀ n, limits.maxGlobal = some n →
      countSessions sessions (fun s => !s.isExpiredAt now idle) < n) ∧
    ∀ n, limits.maxPerUser = some n →
      countSessions sessions (fun s => s.user == user && !s.isExpiredAt now idle) < n := by
  unfold enforceSessionLimits at h
  simp only [bind, Except.bind] at h
  split at h
  · cases h
  · next hglobal => exact ⟨checkLimit_eq_ok hglobal, checkLimit_eq_ok h⟩

end Registry

/-! ## Live sessions -/

/-- One for a live session of a user that satisfies `q`. -/
def liveShare (idle now : ℕ) (q : String → Bool) (s : StoredSession) : ℕ :=
  if q s.user && !s.isExpiredAt now idle then 1 else 0

/-- A session that does not come back to life counts for no more than before. -/
theorem liveShare_le {s s' : StoredSession} {now later idle : ℕ} (q : String → Bool)
    (huser : s'.user = s.user)
    (hdead : s.isExpiredAt now idle = true → s'.isExpiredAt later idle = true) :
    liveShare idle later q s' ≤ liveShare idle now q s := by
  unfold liveShare
  rw [huser]
  by_cases hexpired : s.isExpiredAt now idle = true
  · simp [hexpired, hdead hexpired]
  · by_cases hq : q s.user = true
    · simp only [hq, hexpired, Bool.true_and]
      split <;> simp
    · simp [hq]

namespace SessionManager

variable {Digest : Type} {m : SessionManager Digest} {now later : ℕ} {user : String} {d : Digest}

/-- The live sessions of the users that satisfy `q`. -/
def liveSessions (m : SessionManager Digest) (now : ℕ) (q : String → Bool) : ℕ :=
  m.inner.total fun _ s => liveShare m.idleTimeoutSecs now q s

/-- Sessions expire as time goes on. -/
theorem live_le_of_le (m : SessionManager Digest) (q : String → Bool) (hle : now ≤ later) :
    liveSessions m later q ≤ liveSessions m now q :=
  AList.total_mono fun _ _ => liveShare_le q rfl (StoredSession.isExpiredAt_mono hle)

variable [DecidableEq Digest]

/-- An update that revives no session adds no live one. -/
theorem live_modify_le {f : StoredSession → StoredSession} (q : String → Bool)
    (huser : ∀ s, (f s).user = s.user)
    (hdead : ∀ s, s.isExpiredAt now m.idleTimeoutSecs = true →
      (f s).isExpiredAt now m.idleTimeoutSecs = true) :
    liveSessions (m.modify d f) now q ≤ liveSessions m now q := by
  unfold SessionManager.modify
  split
  · exact le_refl _
  · next s hs =>
    have htotal := AList.total_insert_of_lookup
      (fun _ s => liveShare m.idleTimeoutSecs now q s) (f s) hs
    have hshare := liveShare_le q (huser s) (hdead s)
    show AList.total (fun _ s => liveShare m.idleTimeoutSecs now q s) (m.inner.insert d (f s)) ≤
      AList.total (fun _ s => liveShare m.idleTimeoutSecs now q s) m.inner
    omega

/-- A drain adds no live session. -/
theorem live_drained_le (m : SessionManager Digest) (now later : ℕ) (q : String → Bool) :
    liveSessions (m.drained now) later q ≤ liveSessions m later q :=
  AList.total_eraseAll_le (fun _ s => liveShare m.idleTimeoutSecs later q s) _ _

/-- A login adds at most one live session, of its own user. -/
theorem live_put_le (m : SessionManager Digest) (q : String → Bool) :
    liveSessions (m.put d (.opened user now)) now q ≤
      (if q user then 1 else 0) + liveSessions m now q := by
  have htotal := AList.total_insert (fun _ s => liveShare m.idleTimeoutSecs now q s) m.inner d
    (.opened user now)
  have herase := AList.total_erase_le (fun _ s => liveShare m.idleTimeoutSecs now q s)
    m.inner d
  have hshare : liveShare m.idleTimeoutSecs now q (.opened user now) ≤
      (if q user then 1 else 0) := by
    unfold liveShare
    show (if q user && _ then 1 else 0) ≤ _
    by_cases hq : q user = true
    · simp only [hq, Bool.true_and]
      split <;> simp
    · simp [hq]
  show AList.total (fun _ s => liveShare m.idleTimeoutSecs now q s) (m.inner.insert d _) ≤
    _ + AList.total (fun _ s => liveShare m.idleTimeoutSecs now q s) m.inner
  omega

end SessionManager

/-! ## The methods -/

namespace SessionManager

variable {Digest : Type} [DecidableEq Digest] [SessionTokenDigest Digest]
  {m : SessionManager Digest} {now : ℕ} {token user : String} {d : Digest}

omit [SessionTokenDigest Digest] in
/-- A session that is put is there. -/
theorem lookup_put (m : SessionManager Digest) (d j : Digest) (s : StoredSession) :
    (m.put d s).inner.lookup j = if j = d then some s else m.inner.lookup j :=
  AList.lookup_insert_eq_ite _ _ _ _

omit [SessionTokenDigest Digest] in
/-- The sessions that are left are the live ones. -/
theorem lookup_drained (m : SessionManager Digest) (now : ℕ) (d : Digest) :
    (m.drained now).inner.lookup d =
      (m.inner.lookup d).filter fun s => !s.isExpiredAt now m.idleTimeoutSecs := by
  rw [drained, AList.lookup_eraseAll]
  split
  · next hmem =>
    rcases mem_expiredSessionDigests.mp hmem with ⟨s, hs, hexpired⟩
    rw [hs, Option.filter_some, hexpired]
    rfl
  · next hmem =>
    rcases hs : m.inner.lookup d with _ | s
    · rfl
    · have hlive : s.isExpiredAt now m.idleTimeoutSecs = false := by
        by_contra hexpired
        exact hmem (mem_expiredSessionDigests.mpr ⟨s, hs, by simpa using hexpired⟩)
      rw [Option.filter_some, hlive]
      rfl

omit [SessionTokenDigest Digest] in
/-- A drain leaves a session as it was, or removes it. -/
theorem lookup_drained_cases (m : SessionManager Digest) (now : ℕ) (d : Digest) :
    (m.drained now).inner.lookup d = m.inner.lookup d ∨
      (m.drained now).inner.lookup d = none := by
  rw [lookup_drained]
  rcases m.inner.lookup d with _ | s
  · exact .inl rfl
  · rw [Option.filter_some]
    split
    · exact .inl rfl
    · exact .inr rfl

/-- A login fails on a limit and changes nothing, or drains and inserts. -/
theorem createDrainingExpired_cases (m : SessionManager Digest) (now : ℕ)
    (token user : String) :
    (∃ err, m.createDrainingExpired now token user = (.error err, m)) ∨
    enforceSessionLimits m.inner user m.limits now m.idleTimeoutSecs = .ok () ∧
      m.createDrainingExpired now token user =
        (.ok ({ token := token, user := user, state := .active },
            expiredSessionDigests m.inner now m.idleTimeoutSecs),
          (m.drained now).put (fromToken token) (.opened user now)) := by
  unfold createDrainingExpired
  rcases enforceSessionLimits m.inner user m.limits now m.idleTimeoutSecs with err | _
  · exact .inl ⟨err, rfl⟩
  · exact .inr ⟨rfl, rfl⟩

/-- A login that succeeds reports the expired sessions, and leaves the live ones and the new
one. -/
theorem createDrainingExpired_eq_ok {m' : SessionManager Digest} {session : Session}
    {expired : List Digest}
    (h : m.createDrainingExpired now token user = (.ok (session, expired), m')) :
    (∀ d, d ∈ expired ↔
      ∃ s, m.inner.lookup d = some s ∧ s.isExpiredAt now m.idleTimeoutSecs = true) ∧
    ∀ d, m'.inner.lookup d =
      if d = fromToken token then some (.opened user now)
      else (m.inner.lookup d).filter fun s => !s.isExpiredAt now m.idleTimeoutSecs := by
  rcases m.createDrainingExpired_cases now token user with ⟨err, hfail⟩ | ⟨-, hdone⟩
  · rw [hfail] at h
    cases h
  · rw [hdone] at h
    cases h
    refine ⟨fun d => mem_expiredSessionDigests, fun d => ?_⟩
    rw [lookup_put, lookup_drained]

omit [SessionTokenDigest Digest] in
/-- An update changes its own session only. -/
theorem lookup_modify (m : SessionManager Digest) (d j : Digest)
    (f : StoredSession → StoredSession) :
    (m.modify d f).inner.lookup j =
      if j = d then (m.inner.lookup j).map f else m.inner.lookup j := by
  unfold modify
  split
  · next hnone =>
    split
    · next hj => rw [hj, hnone, Option.map_none]
    · rfl
  · next stored hstored =>
    rw [lookup_put]
    split
    · next hj => rw [hj, hstored, Option.map_some]
    · rfl

omit [SessionTokenDigest Digest] in
/-- An update leaves the limits as they are. -/
@[simp] theorem limits_modify (m : SessionManager Digest) (d : Digest)
    (f : StoredSession → StoredSession) : (m.modify d f).limits = m.limits := by
  unfold modify
  split <;> rfl

omit [SessionTokenDigest Digest] in
@[simp] theorem idleTimeoutSecs_modify (m : SessionManager Digest) (d : Digest)
    (f : StoredSession → StoredSession) :
    (m.modify d f).idleTimeoutSecs = m.idleTimeoutSecs := by
  unfold modify
  split <;> rfl

/-- `touch` and `hold` mark the session of their token when it has expired, and update it
otherwise. -/
theorem useLive_eq_modify (m : SessionManager Digest) (now : ℕ) (token : String)
    (update : StoredSession → StoredSession) :
    (m.useLive now token update).2 = m.modify (fromToken token) fun s =>
      if s.isExpiredAt now m.idleTimeoutSecs then s.markExpired else update s := by
  unfold useLive modify
  split
  · rfl
  · next stored hstored =>
    split
    · next hexpired => simp only [hexpired, if_true]
    · next hexpired => simp only [hexpired, Bool.false_eq_true, if_false]

/-- `expire` marks the session of a token. -/
theorem expire_eq_modify (m : SessionManager Digest) (token : String) :
    (m.expire token).2 = m.modify (fromToken token) StoredSession.markExpired := by
  unfold expire modify
  split <;> rfl

/-- A touch that succeeds has found the session live. -/
theorem touch_eq_ok {session : Session} (h : (m.touch now token).1 = .ok session) :
    ∃ s, m.inner.lookup (fromToken token) = some s ∧
      s.isExpiredAt now m.idleTimeoutSecs = false ∧
      session = { token := token, user := s.user, state := .active } ∧
      (m.touch now token).2 = m.put (fromToken token) (s.touched now) := by
  unfold touch useLive at *
  rcases hs : m.inner.lookup (fromToken token) with _ | s
  · simp [hs, Except.map] at h
  · by_cases hexpired : s.isExpiredAt now m.idleTimeoutSecs = true
    · simp [hs, hexpired, Except.map] at h
    · simp only [hs, hexpired, Bool.false_eq_true, if_false, Except.map, Except.ok.injEq] at h ⊢
      exact ⟨s, rfl, Bool.eq_false_iff.mpr hexpired, h.symm, rfl⟩

/-- `hold` finds the session live, or marks it as expired. -/
theorem hold_cases (m : SessionManager Digest) (now : ℕ) (token : String) :
    (∃ err, m.hold now token =
        (.error err, m.modify (fromToken token) StoredSession.markExpired) ∧
      ∀ s, m.inner.lookup (fromToken token) = some s →
        s.isExpiredAt now m.idleTimeoutSecs = true) ∨
    ∃ s, m.inner.lookup (fromToken token) = some s ∧ s.state = .active ∧
      m.hold now token = (.ok (fromToken token), m.put (fromToken token) (s.held now)) := by
  unfold hold useLive SessionManager.modify
  rcases hs : m.inner.lookup (fromToken token) with _ | s
  · exact .inl ⟨_, rfl, nofun⟩
  · by_cases hexpired : s.isExpiredAt now m.idleTimeoutSecs = true
    · refine .inl ⟨_, by simp only [hexpired, if_true]; rfl, ?_⟩
      rintro s' ⟨⟩
      exact hexpired
    · refine .inr ⟨s, rfl, ?_, by simp [hexpired, Except.map]⟩
      rcases hstate : s.state with _ | _
      · rfl
      · exact absurd (by simp [StoredSession.isExpiredAt, hstate]) hexpired

/-- `remove` takes the session of its token away, and no other. -/
theorem lookup_remove (m : SessionManager Digest) (token : String) (d : Digest) :
    (m.remove token).2.inner.lookup d =
      if d = fromToken token then none else m.inner.lookup d :=
  AList.lookup_erase_eq_ite _ _ _

/-- The session of a token is removed, if there is one. -/
theorem lookup_remove_cases (m : SessionManager Digest) (token : String) (d : Digest) :
    (m.remove token).2.inner.lookup d = m.inner.lookup d ∨
      (m.remove token).2.inner.lookup d = none := by
  rw [lookup_remove]
  split
  · exact .inr rfl
  · exact .inl rfl

theorem isSome_remove (m : SessionManager Digest) (token : String) :
    (m.remove token).1.isSome = (m.inner.lookup (fromToken token)).isSome := by
  rw [remove, Option.isSome_map]

/-- Removing adds no live session. -/
theorem live_remove_le (m : SessionManager Digest) (token : String) (now : ℕ)
    (q : String → Bool) : liveSessions (m.remove token).2 now q ≤ liveSessions m now q :=
  AList.total_erase_le (fun _ s => liveShare m.idleTimeoutSecs now q s) _ _

/-! ## Which sessions there are -/

omit [SessionTokenDigest Digest] in
/-- One for a digest that has a session. -/
def registered (m : SessionManager Digest) (d : Digest) : ℕ :=
  if (m.inner.lookup d).isSome then 1 else 0

omit [SessionTokenDigest Digest] in
/-- A session that is not found is not registered. -/
theorem registered_eq_zero : registered m d = 0 ↔ m.inner.lookup d = none := by
  unfold registered
  rcases m.inner.lookup d with _ | s <;> simp

omit [SessionTokenDigest Digest] in
theorem registered_of_lookup {s : StoredSession} (h : m.inner.lookup d = some s) :
    registered m d = 1 := by
  rw [registered, h]
  rfl

omit [SessionTokenDigest Digest] in
theorem registered_le_one (m : SessionManager Digest) (d : Digest) : registered m d ≤ 1 := by
  unfold registered
  split <;> omega

omit [SessionTokenDigest Digest] in
/-- An update registers nobody. -/
@[simp] theorem registered_modify (m : SessionManager Digest) (d j : Digest)
    (f : StoredSession → StoredSession) : registered (m.modify d f) j = registered m j := by
  rw [registered, lookup_modify]
  split
  · rw [Option.isSome_map]
    rfl
  · rfl

@[simp] theorem registered_useLive (m : SessionManager Digest) (now : ℕ) (token : String)
    (update : StoredSession → StoredSession) (d : Digest) :
    registered (m.useLive now token update).2 d = registered m d := by
  rw [useLive_eq_modify, registered_modify]

omit [SessionTokenDigest Digest] in
theorem registered_put (m : SessionManager Digest) (d j : Digest) (s : StoredSession) :
    registered (m.put d s) j = if j = d then 1 else registered m j := by
  rw [registered, lookup_put]
  split <;> rfl

theorem registered_remove (m : SessionManager Digest) (token : String) (d : Digest) :
    registered (m.remove token).2 d = if d = fromToken token then 0 else registered m d := by
  rw [registered, lookup_remove]
  split <;> rfl

omit [SessionTokenDigest Digest] in
/-- A drain takes each session it reports out of the registry, once. -/
theorem registered_drained (m : SessionManager Digest) (now : ℕ) (d : Digest) :
    registered (m.drained now) d +
      (expiredSessionDigests m.inner now m.idleTimeoutSecs).count d = registered m d := by
  rw [(nodup_expiredSessionDigests _ _ _).count, registered, lookup_drained, registered]
  simp only [mem_expiredSessionDigests]
  rcases hs : m.inner.lookup d with _ | s
  · simp
  · by_cases hexpired : s.isExpiredAt now m.idleTimeoutSecs = true <;> simp [hexpired]

end SessionManager
end GvmGateway
