import GvmGateway.Rest.Shutdown

/-!
# Safety of the drain, and its lost wake-up

`Effect` says once what a step can do to the runtime; every invariant below is proved from
it, one case for each effect.
-/

namespace GvmGateway
namespace Shutdown
namespace ShutdownRuntime

open TransitionSystem

variable {s t : ShutdownRuntime} {a : Action} {id : ℕ} {c old : Call}

/-! ## Counting calls -/

/-- The number of calls in progress that satisfy `p`. -/
def tally (s : ShutdownRuntime) (p : Call → Bool) : ℕ :=
  s.calls.total fun _ c => if p c then 1 else 0

/-- A counted call is a guard or undecided. -/
theorem tally_isCounted (s : ShutdownRuntime) :
    s.tally Call.isCounted = s.guards + s.undecided := by
  unfold tally guards undecided AList.total
  rw [← List.sum_map_add]
  congr 1
  apply List.map_congr_left
  intro e _
  by_cases h : e.2 = .guard
  · simp [h, Call.isCounted]
  · simp [h]

/-- A new call adds its share to a tally. -/
theorem tally_moveTo_free (p : Call → Bool) (h : s.calls.lookup id = none) :
    (s.moveTo id c).tally p = (if p c then 1 else 0) + s.tally p :=
  AList.total_insert_of_notMem _ c h

theorem tally_moveTo (p : Call → Bool) (h : s.calls.lookup id = some old) :
    (s.moveTo id c).tally p + (if p old then 1 else 0) = s.tally p + (if p c then 1 else 0) :=
  AList.total_insert_of_lookup _ c h

theorem tally_leave (p : Call → Bool) (h : s.calls.lookup id = some old) :
    s.tally p = (if p old then 1 else 0) + (s.leave id).tally p :=
  AList.total_of_lookup _ h

/-! ## What the primitives leave alone -/

/-- Sending a phase to the watchers leaves the calls as they are. -/
@[simp] theorem calls_send (s : ShutdownRuntime) (phase : ShutdownPhase) :
    (s.send phase).calls = s.calls := by
  unfold send
  split <;> rfl

@[simp] theorem phase_send (s : ShutdownRuntime) (phase : ShutdownPhase) :
    (s.send phase).phase = s.phase := by
  unfold send
  split <;> rfl

@[simp] theorem inFlight_send (s : ShutdownRuntime) (phase : ShutdownPhase) :
    (s.send phase).inFlight = s.inFlight := by
  unfold send
  split <;> rfl

theorem tally_send (s : ShutdownRuntime) (phase : ShutdownPhase) (p : Call → Bool) :
    (s.send phase).tally p = s.tally p := by
  rw [tally, calls_send, tally]

/-- A notification wakes every call that sleeps. -/
theorem lookup_notifyWaiters (s : ShutdownRuntime) (id : ℕ) :
    s.notifyWaiters.calls.lookup id = (s.calls.lookup id).map Call.wake :=
  AList.lookup_mapVal _ _ _

/-- Waking moves waiters only, so a count that no waiter enters is unchanged. -/
theorem tally_notifyWaiters (s : ShutdownRuntime) {p : Call → Bool}
    (hp : ∀ c : Call, p c.wake = p c) : s.notifyWaiters.tally p = s.tally p := by
  have hmap := AList.total_mapVal (fun _ c => if p c then 1 else 0)
    (fun (_ : ℕ) (c : Call) => c.wake) s.calls
  simp only [hp] at hmap
  exact hmap

/-- A move changes one call. -/
theorem lookup_moveTo (s : ShutdownRuntime) (id j : ℕ) (c : Call) :
    (s.moveTo id c).calls.lookup j = if j = id then some c else s.calls.lookup j :=
  AList.lookup_insert_eq_ite _ _ _ _

/-- An end removes one call. -/
theorem lookup_leave (s : ShutdownRuntime) (id j : ℕ) :
    (s.leave id).calls.lookup j = if j = id then none else s.calls.lookup j :=
  AList.lookup_erase_eq_ite _ _ _

/-! ## What a step can do -/

/-- Everything that one step can do to the runtime. -/
inductive Effect (s : ShutdownRuntime) (a : Action) : ShutdownRuntime → Prop where
  /-- The call returned in its first step. -/
  | refused : Effect s a s
  | entered {id : ℕ} {c : Call} (free : s.calls.lookup id = none)
      (uncounted : c.isCounted = false) (awake : c ≠ .waitZero .parked) :
      Effect s a (s.moveTo id c)
  | beganDraining {id : ℕ} (free : s.calls.lookup id = none) (running : s.phase = .running) :
      Effect s a ({ s with phase := .draining }.moveTo id (.beginShutdown .swapped))
  | stopped {id : ℕ} (free : s.calls.lookup id = none) :
      Effect s a ({ s with phase := .stopped }.moveTo id (.markStopped .stored))
  /-- A call went on; a guard is admitted only while the gateway runs. -/
  | moved {id : ℕ} {old c : Call} (found : s.calls.lookup id = some old)
      (counted : c.isCounted = old.isCounted) (notifies : c.mayNotify = old.mayNotify)
      (awake : c ≠ .waitZero .parked) (admits : c = .guard → s.phase = .running) :
      Effect s a (s.moveTo id c)
  | parked {id : ℕ} (action : a = .advance id)
      (found : s.calls.lookup id = some (.waitZero .loaded)) :
      Effect s a (s.moveTo id (.waitZero .parked))
  | announced {id : ℕ} {old c : Call} {phase : ShutdownPhase}
      (found : s.calls.lookup id = some old) (before : old.isCounted = false)
      (uncounted : c.isCounted = false) (notifies : c.mayNotify = true) :
      Effect s a ((s.send phase).moveTo id c)
  /-- A call returned; one that could have notified had no drained gateway to announce. -/
  | left {id : ℕ} {old : Call} (found : s.calls.lookup id = some old)
      (uncounted : old.isCounted = false)
      (quiet : old.mayNotify = true → s.phase = .running ∨ s.inFlight ≠ 0) :
      Effect s a (s.leave id)
  | incremented {id : ℕ} (found : s.calls.lookup id = some (.tryTrack .checked)) :
      Effect s a ({ s with inFlight := s.inFlight + 1 }.moveTo id (.tryTrack .counted))
  | decremented {id : ℕ} {old : Call} (found : s.calls.lookup id = some old)
      (counted : old.isCounted = true) : Effect s a (s.fetchSub id)
  | notified {id : ℕ} {old : Call} (found : s.calls.lookup id = some old)
      (uncounted : old.isCounted = false) (awake : old.isWaiter = false) :
      Effect s a (s.notifyWaiters.leave id)

/-- The gateway shuts down in every phase but the first. -/
theorem isShuttingDown_eq_true : s.isShuttingDown = true ↔ s.phase ≠ .running := by
  unfold isShuttingDown
  rw [decide_eq_true_iff]

/-- A call starts under a number that is free. -/
theorem start_eq_some {first : ShutdownRuntime} (h : s.start id first = some t) :
    s.calls.lookup id = none ∧ t = first := by
  unfold start at h
  split at h
  · next hfree =>
    exact ⟨Option.isNone_iff_eq_none.mp hfree, (Option.some.inj h).symm⟩
  · exact absurd h (by simp)

/-- The effect of the next atomic step of a call, one case for each point it can be at. -/
theorem advance_effect (hc : s.calls.lookup id = some c) (h : s.advance id c = some t) :
    Effect s (.advance id) t := by
  unfold advance at h
  split at h
  · cases h
    exact .incremented hc
  · split at h
    · cases h
      exact .moved hc rfl rfl (by decide) nofun
    · next hrun =>
      cases h
      refine .moved hc rfl rfl (by decide) fun _ => ?_
      by_contra hphase
      exact hrun (isShuttingDown_eq_true.mpr hphase)
  · cases h
    exact .decremented hc rfl
  · cases h
    exact .decremented hc rfl
  · next previous =>
    split at h
    · next hlast =>
      cases h
      exact .moved hc rfl (by simp [Call.mayNotify, hlast.1]) (by decide) nofun
    · next hlast =>
      cases h
      refine .left hc rfl fun hnotify => ?_
      -- the last one out leaves silently only while the gateway runs
      have hone : previous = 1 := by simpa [Call.mayNotify] using hnotify
      left
      by_contra hphase
      exact hlast ⟨hone, isShuttingDown_eq_true.mpr hphase⟩
  · cases h
    exact .notified hc rfl rfl
  · cases h
    exact .announced hc rfl rfl rfl
  · split at h
    · cases h
      exact .moved hc rfl rfl (by decide) nofun
    · next hbusy =>
      cases h
      exact .left hc rfl fun _ => .inr hbusy
  · cases h
    exact .notified hc rfl rfl
  · cases h
    exact .announced hc rfl rfl rfl
  · cases h
    exact .notified hc rfl rfl
  · split at h
    · cases h
      exact .left hc rfl nofun
    · cases h
      exact .moved hc rfl rfl (by decide) nofun
  · cases h
    exact .parked rfl hc
  · cases h
  · cases h
    exact .moved hc rfl rfl (by simp) nofun
  · split at h
    · cases h
      exact .left hc rfl nofun
    · cases h
      exact .moved hc rfl rfl (by simp) nofun
  · split at h
    · cases h
      exact .moved hc rfl rfl (by simp) nofun
    · cases h

/-- A waiter is not counted. -/
theorem isCounted_of_isWaiter (h : c.isWaiter = true) : c.isCounted = false := by
  cases c <;> first | rfl | exact absurd h (by simp [Call.isWaiter])

theorem mayNotify_of_isWaiter (h : c.isWaiter = true) : c.mayNotify = false := by
  cases c <;> first | rfl | exact absurd h (by simp [Call.isWaiter])

/-- The effect of any step. -/
theorem step_effect (h : step s a = some t) : Effect s a t := by
  cases a with
  | tryTrackRequest id =>
    obtain ⟨hfree, rfl⟩ := start_eq_some h
    split
    · exact .refused
    · exact .entered hfree rfl (by decide)
  | beginShutdown id =>
    obtain ⟨hfree, rfl⟩ := start_eq_some h
    split
    · next hrun => exact .beganDraining hfree hrun
    · exact .refused
  | markStopped id =>
    obtain ⟨hfree, rfl⟩ := start_eq_some h
    exact .stopped hfree
  | waitForZeroInFlight id =>
    obtain ⟨hfree, rfl⟩ := start_eq_some h
    exact .entered hfree rfl (by decide)
  | waitForShutdownStart id =>
    obtain ⟨hfree, rfl⟩ := start_eq_some h
    split
    · exact .refused
    · exact .entered hfree rfl (by decide)
  | advance id =>
    obtain ⟨c, hc, hadv⟩ := Option.bind_eq_some_iff.mp h
    exact advance_effect hc hadv
  | dropWaiter id =>
    obtain ⟨c, hc, hdrop⟩ := Option.bind_eq_some_iff.mp h
    split at hdrop
    · next hwaits =>
      cases hdrop
      have hquiet := mayNotify_of_isWaiter hwaits
      exact .left hc (isCounted_of_isWaiter hwaits) fun hnotify => absurd hnotify (by simp [hquiet])
    · cases hdrop

/-! ## The counter -/

/-- The counter is the number of counted calls. -/
def Balanced (s : ShutdownRuntime) : Prop := s.inFlight = s.tally Call.isCounted

/-- The counter is zero at the start. -/
theorem balanced_new : Balanced new := rfl

/-- Waking counts nobody. -/
theorem isCounted_wake (c : Call) : c.wake.isCounted = c.isCounted := by
  unfold Call.wake
  split <;> rfl

/-- A counted call has its share in the counter, so its `fetch_sub` does not underflow. -/
theorem inFlight_pos (hs : s.Balanced) (hc : s.calls.lookup id = some c)
    (hcounted : c.isCounted = true) : 0 < s.inFlight := by
  have hshare := tally_leave Call.isCounted hc
  rw [Balanced] at hs
  rw [if_pos hcounted] at hshare
  omega

/-- The counter stays right when an uncounted call begins. -/
theorem balanced_moveTo_free (hs : s.Balanced) (h : s.calls.lookup id = none)
    (hc : c.isCounted = false) : (s.moveTo id c).Balanced := by
  have htally := tally_moveTo_free (c := c) Call.isCounted h
  rw [hc] at htally
  rw [Balanced, htally]
  exact hs.trans (Nat.zero_add _).symm

theorem balanced_moveTo (hs : s.Balanced) (h : s.calls.lookup id = some old)
    (hc : c.isCounted = old.isCounted) : (s.moveTo id c).Balanced := by
  have htally := tally_moveTo (c := c) Call.isCounted h
  rw [hc] at htally
  exact hs.trans (by omega)

theorem balanced_leave (hs : s.Balanced) (h : s.calls.lookup id = some old)
    (hold : old.isCounted = false) : (s.leave id).Balanced := by
  have htally := tally_leave Call.isCounted h
  rw [hold] at htally
  exact hs.trans (htally.trans (Nat.zero_add _))

theorem balanced_send (hs : s.Balanced) (phase : ShutdownPhase) : (s.send phase).Balanced := by
  rw [Balanced, inFlight_send, tally_send]
  exact hs

theorem balanced_notifyWaiters (hs : s.Balanced) : s.notifyWaiters.Balanced :=
  hs.trans (tally_notifyWaiters s isCounted_wake).symm

/-- No step brings the counter out of balance. -/
theorem balanced_step (hs : s.Balanced) (h : step s a = some t) : t.Balanced := by
  cases step_effect h with
  | refused => exact hs
  | entered free uncounted => exact balanced_moveTo_free hs free uncounted
  | beganDraining free => exact balanced_moveTo_free (s := { s with phase := _ }) hs free rfl
  | stopped free => exact balanced_moveTo_free (s := { s with phase := _ }) hs free rfl
  | moved found counted => exact balanced_moveTo hs found counted
  | parked _ found => exact balanced_moveTo hs found rfl
  | announced found before uncounted =>
    apply balanced_moveTo (balanced_send hs _) (by rw [calls_send, found])
    rw [before, uncounted]
  | left found uncounted => exact balanced_leave hs found uncounted
  | incremented found =>
    -- the counter and the call that now counts go up together
    have htally := tally_moveTo (c := .tryTrack .counted) Call.isCounted found
    simp only [Call.isCounted, Bool.false_eq_true, if_false, if_true] at htally
    unfold Balanced at hs ⊢
    show s.inFlight + 1 = (s.moveTo _ (.tryTrack .counted)).tally Call.isCounted
    omega
  | decremented found counted =>
    -- `fetch_sub`, and the call that has undone its count
    have htally := tally_moveTo (c := .finish s.inFlight) Call.isCounted found
    rw [counted] at htally
    simp only [Call.isCounted, Bool.false_eq_true, if_false, if_true] at htally
    unfold Balanced at hs ⊢
    show s.inFlight - 1 = (s.moveTo _ (.finish s.inFlight)).tally Call.isCounted
    omega
  | @notified id old found uncounted =>
    have hwoken : s.notifyWaiters.calls.lookup id = some old.wake := by
      rw [lookup_notifyWaiters, found, Option.map_some]
    exact balanced_leave (balanced_notifyWaiters hs) hwoken ((isCounted_wake old).trans uncounted)

/-- The counter is right in every state of a run. -/
theorem balanced_of_run {as : List Action} (h : run step new as = some s) : s.Balanced :=
  invariant (I := Balanced) (fun _ _ _ => balanced_step) h balanced_new

/-! ## The phase -/

/-- No phase comes after `Stopped`. -/
theorem phase_le_stopped (phase : ShutdownPhase) :
    phase.toU8 ≤ ShutdownPhase.stopped.toU8 := by
  cases phase <;> decide

/-- The phase of number zero is `Running`. -/
theorem toU8_running_or (h : s.phase.toU8 = 0) : s.phase = .running := by
  cases hp : s.phase <;> simp [hp, ShutdownPhase.toU8] at h ⊢

/-- The phase only moves forward. -/
theorem phase_le_step (h : step s a = some t) : s.phase.toU8 ≤ t.phase.toU8 := by
  cases step_effect h with
  | beganDraining _ running =>
    rw [running]
    exact Nat.zero_le _
  | stopped => exact phase_le_stopped _
  | announced =>
    show _ ≤ (s.send _).phase.toU8
    rw [phase_send]
  | _ => exact le_refl _

/-- The phase never goes back along a run. -/
theorem phase_le_run {as : List Action} (h : run step s as = some t) :
    s.phase.toU8 ≤ t.phase.toU8 := by
  have hle := invariant (I := fun u => s.phase.toU8 ≤ u.phase.toU8)
    (fun _ _ _ hu hstep => hu.trans (phase_le_step hstep)) h (le_refl _)
  exact hle

/-! ## Guards after the drain -/

/-- The gateway is shutting down and every request has given its guard back. -/
def Closed (s : ShutdownRuntime) : Prop :=
  s.phase ≠ .running ∧ ∀ id, s.calls.lookup id ≠ some .guard

/-- The number of guards is zero when there is none. -/
theorem guards_eq_zero : s.guards = 0 ↔ ∀ id, s.calls.lookup id ≠ some .guard := by
  rw [guards, AList.total_eq_zero]
  constructor
  · intro h id hguard
    exact absurd (h id .guard hguard) (by simp)
  · intro h id c hc
    rw [if_neg]
    rintro rfl
    exact h id hc

/-- When a waiter reads zero during a shutdown, no guard is left. -/
theorem closed_of_inFlight_eq_zero (hs : s.Balanced) (hphase : s.phase ≠ .running)
    (hzero : s.inFlight = 0) : s.Closed := by
  refine ⟨hphase, guards_eq_zero.mp ?_⟩
  have hsum := tally_isCounted s
  rw [Balanced] at hs
  omega

/-- Waking neither makes nor removes a guard. -/
theorem wake_eq_guard : c.wake = .guard ↔ c = .guard := by
  unfold Call.wake
  split <;> simp

/-- A late caller may still increment the counter, but its second look at the phase turns it
away: no guard comes back. -/
theorem closed_step (hs : s.Closed) (h : step s a = some t) : t.Closed := by
  have hphase : t.phase ≠ .running := by
    intro hrun
    have hle := phase_le_step h
    rw [hrun] at hle
    exact hs.1 (toU8_running_or (Nat.le_zero.mp hle))
  refine ⟨hphase, fun j hj => ?_⟩
  have hno := hs.2 j
  cases step_effect h with
  | refused => exact hno hj
  | entered _ uncounted =>
    rw [lookup_moveTo] at hj
    split at hj
    · cases hj
      exact absurd uncounted (by decide)
    · exact hno hj
  -- a guard is returned only while the phase is running
  | moved _ _ _ _ admits =>
    rw [lookup_moveTo] at hj
    split at hj
    · cases hj
      exact hs.1 (admits rfl)
    · exact hno hj
  | announced _ _ uncounted =>
    rw [lookup_moveTo, calls_send] at hj
    split at hj
    · cases hj
      exact absurd uncounted (by decide)
    · exact hno hj
  | left =>
    rw [lookup_leave] at hj
    split at hj
    · cases hj
    · exact hno hj
  | decremented =>
    have hj := (lookup_moveTo s _ j (.finish s.inFlight)).symm.trans hj
    split at hj
    · cases hj
    · exact hno hj
  -- a notification wakes waiters, and makes no guard of them
  | notified =>
    rw [lookup_leave, lookup_notifyWaiters] at hj
    split at hj
    · cases hj
    · obtain ⟨c, hc, hwoken⟩ := Option.map_eq_some_iff.mp hj
      rw [wake_eq_guard.mp hwoken] at hc
      exact hno hc
  | _ =>
    rw [lookup_moveTo] at hj
    split at hj
    · cases hj
    · exact hno hj

/-- Once no request is let in, none ever is. -/
theorem closed_run {as : List Action} (hs : s.Closed) (h : run step s as = some t) :
    t.Closed :=
  invariant (I := Closed) (fun _ _ _ => closed_step) h hs

/-- In every state of every run the counter is the guards plus the undecided callers, and
whoever is about to take one from it finds one there. From there on the phase only moves
forward; and once the gateway is shutting down and the counter reads zero, there is no guard
then (the empty continuation) or later. -/
theorem shutdown_safe {as : List Action} (h : run step new as = some s) :
    s.inFlight = s.guards + s.undecided ∧
    (∀ id c, s.calls.lookup id = some c → c = .guard ∨ c = .tryTrack .undoing →
      0 < s.inFlight) ∧
    ∀ bs t, run step s bs = some t →
      s.phase.toU8 ≤ t.phase.toU8 ∧
      (s.phase ≠ .running → s.inFlight = 0 → t.guards = 0) := by
  have hs := balanced_of_run h
  refine ⟨Eq.trans hs (tally_isCounted s), ?_, ?_⟩
  · intro id c hc hsub
    apply inFlight_pos hs hc
    rcases hsub with rfl | rfl <;> rfl
  · intro bs t hrun
    refine ⟨phase_le_run hrun, fun hphase hzero => ?_⟩
    have ht := closed_run (closed_of_inFlight_eq_zero hs hphase hzero) hrun
    exact guards_eq_zero.mpr ht.2

/-- A caller that looked at the phase before the shutdown increments the counter after the
last guard is gone. -/
theorem shutdown_safe_late_caller :
    ∃ s t, run step new [.tryTrackRequest 0, .advance 0, .advance 0, .tryTrackRequest 3,
        .beginShutdown 1, .advance 0] = some s ∧
      run step s [.advance 3] = some t ∧
      s.inFlight = s.guards + s.undecided ∧ s.phase.toU8 ≤ t.phase.toU8 ∧ t.guards = 0 := by
  refine ⟨_, _, rfl, rfl, ?_⟩
  have hrun : run step new [.tryTrackRequest 0, .advance 0, .advance 0, .tryTrackRequest 3,
      .beginShutdown 1, .advance 0] = some _ := rfl
  have hlate := (shutdown_safe hrun).2.2 [.advance 3] _ rfl
  exact ⟨(shutdown_safe hrun).1, hlate.1, hlate.2 (by decide) (by decide)⟩

/-! ## The lost wake-up -/

/-- In a drained gateway a call that has just moved may not notify. -/
theorem mayNotify_of_drained_moveTo (h : (s.moveTo id c).Drained) : c.mayNotify = false := by
  apply h.2.2 id c
  rw [lookup_moveTo, if_pos rfl]

/-- A drained gateway was drained before the move of a call that cannot notify. -/
theorem drained_of_moveTo (h : (s.moveTo id c).Drained)
    (hold : ∀ old, s.calls.lookup id = some old → old.mayNotify = false) : s.Drained := by
  refine ⟨h.1, h.2.1, fun j d hd => ?_⟩
  by_cases hj : j = id
  · subst hj
    exact hold d hd
  · apply h.2.2 j d
    rw [lookup_moveTo, if_neg hj, hd]

/-- A call that notifies nobody does not drain the gateway by its end. -/
theorem drained_of_leave (h : (s.leave id).Drained)
    (hold : ∀ old, s.calls.lookup id = some old → old.mayNotify = false) : s.Drained := by
  refine ⟨h.1, h.2.1, fun j d hd => ?_⟩
  by_cases hj : j = id
  · subst hj
    exact hold d hd
  · apply h.2.2 j d
    rw [lookup_leave, if_neg hj, hd]

/-- Only the move that parks a waiter can lose it. -/
theorem lostWakeup_of_moveTo (h : (s.moveTo id c).LostWakeup) (hc : c ≠ .waitZero .parked)
    (hold : ∀ old, s.calls.lookup id = some old → old.mayNotify = false) : s.LostWakeup := by
  obtain ⟨hdrained, j, hj⟩ := h
  refine ⟨drained_of_moveTo hdrained hold, j, ?_⟩
  rw [lookup_moveTo] at hj
  split at hj
  · exact absurd (Option.some.inj hj) hc
  · exact hj

theorem lostWakeup_of_leave (h : (s.leave id).LostWakeup)
    (hold : ∀ old, s.calls.lookup id = some old → old.mayNotify = false) : s.LostWakeup := by
  obtain ⟨hdrained, j, hj⟩ := h
  refine ⟨drained_of_leave hdrained hold, j, ?_⟩
  rw [lookup_leave] at hj
  split at hj
  · cases hj
  · exact hj

/-- What is woken does not sleep. -/
theorem wake_ne_parked (c : Call) : c.wake ≠ .waitZero .parked := by
  unfold Call.wake
  split
  · decide
  · next hne => exact hne

/-- As long as waiters register in time, no step loses a wake-up. -/
theorem not_lostWakeup_step (hs : s.Balanced) (hl : ¬ s.LostWakeup) (hr : s.RegistersInTime a)
    (h : step s a = some t) : ¬ t.LostWakeup := by
  intro ht
  cases step_effect h with
  | refused => exact hl ht
  | entered free _ awake =>
    exact hl (lostWakeup_of_moveTo ht awake fun old hold => by simp [free] at hold)
  | beganDraining => exact absurd (mayNotify_of_drained_moveTo ht.1) (by decide)
  | stopped => exact absurd (mayNotify_of_drained_moveTo ht.1) (by decide)
  | moved found _ notifies awake =>
    have hquiet := notifies.symm.trans (mayNotify_of_drained_moveTo ht.1)
    refine hl (lostWakeup_of_moveTo ht awake fun d hd => ?_)
    rw [found] at hd
    exact Option.some.inj hd ▸ hquiet
  | parked action found =>
    -- the waiter had read a non-zero counter, and the gateway drained before it registered
    apply hr _ action found
    refine drained_of_moveTo ht.1 fun d hd => ?_
    rw [found] at hd
    exact Option.some.inj hd ▸ rfl
  | announced _ _ _ notifies =>
    exact absurd (mayNotify_of_drained_moveTo ht.1) (by simp [notifies])
  | @left id old found _ quiet =>
    refine hl (lostWakeup_of_leave ht fun d hd => ?_)
    rw [found] at hd
    obtain rfl : old = d := Option.some.inj hd
    obtain ⟨hphase, hzero, -⟩ := ht.1
    by_contra hnotify
    rcases quiet (by simpa using hnotify) with hrun | hbusy
    · exact absurd (hrun.symm.trans hphase) (by decide)
    · exact hbusy hzero
  | incremented => exact absurd ht.1.2.1 (Nat.succ_ne_zero _)
  | decremented found counted =>
    -- the counter reached zero, so this call is the last one out and will notify
    have hpos := inFlight_pos hs found counted
    have hzero : s.inFlight - 1 = 0 := ht.1.2.1
    have hquiet := mayNotify_of_drained_moveTo
      (s := { s with inFlight := s.inFlight - 1 }) (c := .finish s.inFlight) ht.1
    have hone : s.inFlight = 1 := by omega
    simp [Call.mayNotify, hone] at hquiet
  | notified =>
    obtain ⟨-, j, hj⟩ := ht
    rw [lookup_leave, lookup_notifyWaiters] at hj
    split at hj
    · cases hj
    · obtain ⟨c, -, hwoken⟩ := Option.map_eq_some_iff.mp hj
      exact wake_ne_parked c hwoken

/-- A waiter that registers with a drained gateway is lost at once. -/
theorem registersInTime_of_not_lostWakeup (h : step s a = some t) (ht : ¬ t.LostWakeup) :
    s.RegistersInTime a := by
  rintro id rfl hloaded hdrained
  have hparked : t = s.moveTo id (.waitZero .parked) := by
    simpa [step, hloaded, advance] using h.symm
  apply ht
  rw [hparked]
  refine ⟨⟨hdrained.1, hdrained.2.1, fun j d hd => ?_⟩, id, ?_⟩
  · rw [lookup_moveTo] at hd
    split at hd
    · exact Option.some.inj hd ▸ rfl
    · exact hdrained.2.2 j d hd
  · rw [lookup_moveTo, if_pos rfl]

/-- At the start no wake-up is lost. -/
theorem not_lostWakeup_new : ¬ new.LostWakeup := by
  rintro ⟨⟨hphase, -⟩, -⟩
  exact absurd hphase (by decide)

/-- No state of a run has a lost wake-up iff no waiter of the run creates its `Notified`
future after the gateway has drained. -/
theorem no_lost_wakeup_iff (as : List Action) :
    Along step (fun _ _ t => ¬ t.LostWakeup) new as ↔
      Along step (fun s a _ => s.RegistersInTime a) new as := by
  apply along_congr (I := fun s => s.Balanced ∧ ¬ s.LostWakeup)
  · intro s a t hs ht hstep
    exact ⟨balanced_step hs.1 hstep, ht⟩
  · intro s a t hs hstep
    constructor
    · exact registersInTime_of_not_lostWakeup hstep
    · intro hr
      exact not_lostWakeup_step hs.1 hs.2 hr hstep
  · exact ⟨balanced_new, not_lostWakeup_new⟩

/-- A request is tracked (caller 0) and a shutdown begins (caller 1); the drain waiter
(caller 2) reads the counter; the request ends and notifies, with nobody registered; the
waiter parks. -/
def lateWaiter : List Action :=
  [.tryTrackRequest 0, .advance 0, .advance 0,
    .beginShutdown 1, .advance 1, .advance 1,
    .waitForZeroInFlight 2, .advance 2,
    .advance 0, .advance 0, .advance 0,
    .advance 2]

/-- The waiter's test and its registration are two steps, and the last request can finish
between them. -/
theorem lost_wakeup_reachable : ∃ s, run step new lateWaiter = some s ∧ s.LostWakeup := by
  refine ⟨ShutdownRuntime.mk .draining 0 .running 0 (AList.singleton 2 (.waitZero .parked)),
    rfl, ⟨rfl, rfl, ?_⟩, 2, rfl⟩
  intro id c hc
  rw [← AList.insert_empty, AList.lookup_insert_eq_ite] at hc
  split at hc
  · exact Option.some.inj hc ▸ rfl
  · cases hc

end ShutdownRuntime
end Shutdown
end GvmGateway
