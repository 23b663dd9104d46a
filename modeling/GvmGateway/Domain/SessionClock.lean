import GvmGateway.Domain.SessionTheorems

/-!
# The idle clock of one session

What the registry knows about a single session, the time, and the events that change either.
A session is live until an event ends it, `Ends` says which events do, and a session that has
ended stays so.
-/

namespace GvmGateway

/-- A session as the registry sees it at a time; `issued` once its login was admitted. -/
@[ext]
structure SessionClock where
  now : ℕ
  idleTimeoutSecs : ℕ
  issued : Bool
  session : Option StoredSession

namespace SessionClock

/-- What can happen to a session. -/
inductive Event where
  /-- Nothing happens to the session. -/
  | quiet
  | tick (secs : ℕ)
  | opened (user : String)
  | touch
  | hold
  | dropHold
  /-- It is marked as expired on request. -/
  | expire
  | remove
  /-- A drain of the expired sessions, of the reaper or of another login. -/
  | drain
deriving DecidableEq, Repr

variable {c : SessionClock} {e : Event}

/-- What `touch` and `hold` do to the session. -/
def use (c : SessionClock) (update : StoredSession → StoredSession) : SessionClock :=
  { c with session := c.session.map fun s =>
      if s.isExpiredAt c.now c.idleTimeoutSecs then s.markExpired else update s }

/-- The view after an event. -/
def apply (c : SessionClock) : Event → SessionClock
  | .quiet => c
  | .tick secs => { c with now := c.now + secs }
  | .opened user => { c with issued := true, session := some (.opened user c.now) }
  | .touch => c.use (·.touched c.now)
  | .hold => c.use (·.held c.now)
  | .dropHold => { c with session := c.session.map StoredSession.released }
  | .expire => { c with session := c.session.map StoredSession.markExpired }
  | .remove => { c with session := none }
  | .drain =>
    { c with session := c.session.filter fun s => !s.isExpiredAt c.now c.idleTimeoutSecs }

/-- The session is registered and not expired. -/
def Live (c : SessionClock) : Prop :=
  ∃ s, c.session = some s ∧ s.isExpiredAt c.now c.idleTimeoutSecs = false

/-- Without its last `holds` holds, the session will have idled away `secs` from now. -/
def IdledAway (c : SessionClock) (holds secs : ℕ) : Prop :=
  ∃ s, c.session = some s ∧ s.holdCount ≤ holds ∧
    c.idleTimeoutSecs ≤ c.now + secs - s.lastUsedAt

/-- The events that end a live session. -/
def Ends (c : SessionClock) : Event → Prop
  | .tick secs => c.IdledAway 0 secs
  | .dropHold => c.IdledAway 1 0
  | .expire | .remove => True
  | .quiet | .opened _ | .touch | .hold | .drain => False

@[simp] theorem idleTimeoutSecs_apply (c : SessionClock) (e : Event) :
    (c.apply e).idleTimeoutSecs = c.idleTimeoutSecs := by
  cases e <;> rfl

theorem issued_apply (e : Event) (hc : c.issued = true) : (c.apply e).issued = true := by
  cases e with
  | opened => rfl
  | quiet | tick | touch | hold | dropHold | expire | remove | drain => exact hc

/-! ## Live sessions -/

theorem isExpiredAt_eq_false {s : StoredSession} {now idle : ℕ} :
    s.isExpiredAt now idle = false ↔
      s.state = .active ∧ (0 < s.holdCount ∨ now - s.lastUsedAt < idle) := by
  unfold StoredSession.isExpiredAt
  split
  · next hactive =>
    split
    · next hheld => simp [hactive, hheld]
    · next hheld => simp [hactive, hheld]
  · next hexpired => simp [hexpired]

theorem isExpiredAt_use (update : StoredSession → StoredSession) {s : StoredSession}
    {now idle : ℕ} (h : s.isExpiredAt now idle = true) :
    (if s.isExpiredAt now idle then s.markExpired else update s).isExpiredAt now idle =
      true := by
  rw [if_pos h]
  rfl

/-- A use finds a live session live, and leaves it so. -/
theorem live_use {update : StoredSession → StoredSession} {s : StoredSession}
    (hs : c.session = some s) (hlive : s.isExpiredAt c.now c.idleTimeoutSecs = false)
    (hupdate : (update s).isExpiredAt c.now c.idleTimeoutSecs = false) : (c.use update).Live := by
  refine ⟨update s, ?_, hupdate⟩
  show c.session.map _ = some _
  rw [hs, Option.map_some, hlive]
  rfl

theorem isExpiredAt_touched {s : StoredSession} {now idle : ℕ}
    (h : s.isExpiredAt now idle = false) : (s.touched now).isExpiredAt now idle = false := by
  rw [isExpiredAt_eq_false] at h ⊢
  refine ⟨h.1, ?_⟩
  show 0 < s.holdCount ∨ now - now < idle
  omega

theorem isExpiredAt_held {s : StoredSession} {now idle : ℕ}
    (h : s.isExpiredAt now idle = false) : (s.held now).isExpiredAt now idle = false := by
  rw [isExpiredAt_eq_false] at h ⊢
  refine ⟨h.1, .inl ?_⟩
  show 0 < min (s.holdCount + 1) (2 ^ 64 - 1)
  omega

/-- An event that does not end a live session leaves it live. -/
theorem live_apply (hc : c.Live) (hnew : ∀ user, e ≠ .opened user) (hends : ¬ c.Ends e) :
    (c.apply e).Live := by
  obtain ⟨s, hs, hlive⟩ := hc
  obtain ⟨hactive, hcount⟩ := isExpiredAt_eq_false.mp hlive
  cases e with
  | quiet => exact ⟨s, hs, hlive⟩
  | opened user => exact absurd rfl (hnew user)
  | tick secs =>
    refine ⟨s, hs, isExpiredAt_eq_false.mpr ⟨hactive, ?_⟩⟩
    -- idle for the timeout without a hold: the tick would have ended it
    by_contra hover
    apply hends
    refine ⟨s, hs, ?_, ?_⟩
    · omega
    · show c.idleTimeoutSecs ≤ c.now + secs - s.lastUsedAt
      have hidle : ¬ c.now + secs - s.lastUsedAt < c.idleTimeoutSecs :=
        fun hidle => hover (.inr hidle)
      omega
  | touch => exact live_use hs hlive (isExpiredAt_touched hlive)
  | hold => exact live_use hs hlive (isExpiredAt_held hlive)
  | dropHold =>
    refine ⟨s.released, ?_, isExpiredAt_eq_false.mpr ⟨hactive, ?_⟩⟩
    · show c.session.map _ = some _
      rw [hs, Option.map_some]
    · show 0 < s.holdCount - 1 ∨ c.now - s.lastUsedAt < c.idleTimeoutSecs
      by_contra hover
      apply hends
      refine ⟨s, hs, ?_, ?_⟩
      · omega
      · omega
  | expire => exact absurd trivial hends
  | remove => exact absurd trivial hends
  -- draining takes expired sessions only
  | drain =>
    refine ⟨s, ?_, hlive⟩
    show c.session.filter _ = some _
    rw [hs, Option.filter_some, hlive]
    rfl

/-- An event that ends a session leaves it dead. -/
theorem not_live_of_ends (hends : c.Ends e) : ¬ (c.apply e).Live := by
  rintro ⟨s, hs, hlive⟩
  obtain ⟨hactive, hcount⟩ := isExpiredAt_eq_false.mp hlive
  cases e with
  | quiet | opened | touch | hold | drain => exact hends
  | tick secs =>
    obtain ⟨s₀, hs₀, hholds, hidle⟩ := hends
    obtain rfl : s₀ = s := Option.some.inj (hs₀.symm.trans hs)
    have hnow : 0 < s₀.holdCount ∨ c.now + secs - s₀.lastUsedAt < c.idleTimeoutSecs := hcount
    omega
  | dropHold =>
    obtain ⟨s₀, hs₀, hholds, hidle⟩ := hends
    have hmap : c.session.map StoredSession.released = some s := hs
    rw [hs₀, Option.map_some] at hmap
    obtain rfl := Option.some.inj hmap
    have hnow : 0 < s₀.holdCount - 1 ∨ c.now - s₀.lastUsedAt < c.idleTimeoutSecs := hcount
    omega
  | expire =>
    have hmap : c.session.map StoredSession.markExpired = some s := hs
    obtain ⟨s₀, -, rfl⟩ := Option.map_eq_some_iff.mp hmap
    cases hactive
  | remove => cases hs

/-! ## Dead sessions -/

/-- No event brings a dead session back. -/
theorem not_live_apply (hc : ¬ c.Live) (hnew : ∀ user, e ≠ .opened user) :
    ¬ (c.apply e).Live := by
  -- the session there was, if any, had expired
  have hdead : ∀ s, c.session = some s → s.isExpiredAt c.now c.idleTimeoutSecs = true := by
    intro s hs
    by_contra hlive
    exact hc ⟨s, hs, Bool.eq_false_iff.mpr hlive⟩
  have huse : ∀ update, ¬ (c.use update).Live := by
    rintro update ⟨s, hs, hlive⟩
    have hmap : c.session.map _ = some s := hs
    obtain ⟨s₀, hs₀, rfl⟩ := Option.map_eq_some_iff.mp hmap
    rw [show (c.use update).now = c.now from rfl,
      show (c.use update).idleTimeoutSecs = c.idleTimeoutSecs from rfl,
      isExpiredAt_use update (hdead s₀ hs₀)] at hlive
    cases hlive
  cases e with
  | quiet => exact hc
  | opened user => exact absurd rfl (hnew user)
  | touch => exact huse _
  | hold => exact huse _
  | expire => exact not_live_of_ends (e := .expire) trivial
  | remove => exact not_live_of_ends (e := .remove) trivial
  | tick secs =>
    rintro ⟨s, hs, hlive⟩
    have hlater := StoredSession.isExpiredAt_mono (Nat.le_add_right c.now secs) (hdead s hs)
    exact absurd (hlater.symm.trans hlive) (by decide)
  | dropHold =>
    rintro ⟨s, hs, hlive⟩
    have hmap : c.session.map StoredSession.released = some s := hs
    obtain ⟨s₀, hs₀, rfl⟩ := Option.map_eq_some_iff.mp hmap
    have hreleased := StoredSession.isExpiredAt_released (hdead s₀ hs₀)
    exact absurd (hreleased.symm.trans hlive) (by decide)
  | drain =>
    rintro ⟨s, hs, hlive⟩
    have hfilter : c.session.filter _ = some s := hs
    obtain ⟨hs₀, -⟩ := Option.filter_eq_some_iff.mp hfilter
    exact hc ⟨s, hs₀, hlive⟩

/-- A drain takes a dead session out of the registry. -/
theorem drained_of_not_live (hc : ¬ c.Live) : (c.apply .drain).session = none := by
  rw [Option.eq_none_iff_forall_not_mem]
  intro s hs
  obtain ⟨hs₀, hlive⟩ := Option.filter_eq_some_iff.mp hs
  exact hc ⟨s, hs₀, by simpa using hlive⟩

/-- A session that has left the registry does not come back. -/
theorem absent_apply (hc : c.session = none) (hnew : ∀ user, e ≠ .opened user) :
    (c.apply e).session = none := by
  cases e with
  | quiet | tick => exact hc
  | opened user => exact absurd rfl (hnew user)
  | remove => rfl
  | touch | hold | dropHold | expire =>
    show c.session.map _ = none
    rw [hc]
    rfl
  | drain =>
    show c.session.filter _ = none
    rw [hc]
    rfl

/-! ## Sessions that are not used -/

/-- The session was last used by `lastUsedAt`, and nothing holds it, or it is marked. -/
def Unused (c : SessionClock) (lastUsedAt : ℕ) : Prop :=
  ∀ s, c.session = some s → s.state = .expired ∨ s.holdCount = 0 ∧ s.lastUsedAt ≤ lastUsedAt

/-- Only a use changes that. -/
theorem unused_apply {lastUsedAt : ℕ} (hc : c.Unused lastUsedAt)
    (hnew : ∀ user, e ≠ .opened user) (htouch : e ≠ .touch) (hhold : e ≠ .hold) :
    (c.apply e).Unused lastUsedAt := by
  intro s hs
  cases e with
  | quiet | tick => exact hc s hs
  | opened user => exact absurd rfl (hnew user)
  | touch => exact absurd rfl htouch
  | hold => exact absurd rfl hhold
  | remove => cases hs
  | expire =>
    have hmap : c.session.map StoredSession.markExpired = some s := hs
    obtain ⟨s₀, -, rfl⟩ := Option.map_eq_some_iff.mp hmap
    exact .inl rfl
  | dropHold =>
    have hmap : c.session.map StoredSession.released = some s := hs
    obtain ⟨s₀, hs₀, rfl⟩ := Option.map_eq_some_iff.mp hmap
    rcases hc s₀ hs₀ with hexpired | ⟨hcount, hused⟩
    · exact .inl hexpired
    · refine .inr ⟨?_, hused⟩
      show s₀.holdCount - 1 = 0
      omega
  | drain =>
    have hfilter : c.session.filter _ = some s := hs
    exact hc s (Option.filter_eq_some_iff.mp hfilter).1

/-- A session that is not used is dead once it has idled for the timeout. -/
theorem not_live_of_unused {lastUsedAt : ℕ} (hc : c.Unused lastUsedAt)
    (hidle : lastUsedAt + c.idleTimeoutSecs ≤ c.now) : ¬ c.Live := by
  rintro ⟨s, hs, hlive⟩
  obtain ⟨hactive, hcount⟩ := isExpiredAt_eq_false.mp hlive
  rcases hc s hs with hexpired | ⟨hunheld, hused⟩
  · rw [hactive] at hexpired
    cases hexpired
  · omega

end SessionClock
end GvmGateway
