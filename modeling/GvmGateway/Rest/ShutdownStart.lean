import GvmGateway.Rest.ShutdownTheorems

/-!
# The announcement of a shutdown

`wait_for_shutdown_start` looks at the phase, subscribes to the watch channel, and looks at
the value of the channel. `begin_shutdown` changes the phase and then sends it, and a send
to a channel without receivers is lost. Whether a waiter can sleep through a shutdown is a
question about the channel, so `Announce` says once what a step can do to it.
-/

namespace GvmGateway
namespace Shutdown

/-- The calls that the announcement depends on: those with a receiver, the `begin_shutdown`
that has yet to send, and every `mark_stopped`. -/
def Call.announces : Call → Bool
  | .waitStart (.subscribed _) => true
  | .waitStart (.awaiting _) => true
  | .beginShutdown .swapped => true
  | .markStopped _ => true
  | _ => false

namespace ShutdownRuntime

open TransitionSystem

variable {s t : ShutdownRuntime} {a : Action} {id : ℕ} {c old : Call}

/-! ## What the property speaks of -/

/-- The shutdown has begun, and its announcement went to a channel without receivers. -/
def Unannounced (s : ShutdownRuntime) : Prop :=
  s.phase = .draining ∧ s.phaseTx = .running ∧
    ∀ id, s.calls.lookup id ≠ some (.beginShutdown .swapped)

/-- `begin_shutdown` has returned `true`, and a waiter is parked in `changed()` on the version
that the channel has: only a `mark_stopped` could wake it. -/
def LostStart (s : ShutdownRuntime) : Prop :=
  s.phase = .draining ∧ (∀ id stage, s.calls.lookup id ≠ some (.beginShutdown stage)) ∧
    ∃ id, s.calls.lookup id = some (.waitStart (.awaiting s.version))

/-- When a waiter subscribes, the announcement has not been lost. -/
def SubscribesInTime (s : ShutdownRuntime) (a : Action) : Prop :=
  ∀ id, a = .advance id → s.calls.lookup id = some (.waitStart .checked) → ¬ s.Unannounced

instance (s : ShutdownRuntime) : Decidable s.Unannounced :=
  decidable_of_iff (s.phase = .draining ∧ s.phaseTx = .running ∧
    ∀ e ∈ s.calls.entries, e.2 ≠ .beginShutdown .swapped) (by
      refine and_congr_right fun _ => and_congr_right fun _ => ⟨fun h id hid => ?_, fun h e he => ?_⟩
      · exact h ⟨id, _⟩ (AList.mem_entries_iff.mpr hid) rfl
      · intro hswapped
        exact h e.1 (hswapped ▸ AList.mem_entries_iff.mp he))

instance (s : ShutdownRuntime) (a : Action) : Decidable (s.SubscribesInTime a) :=
  match a with
  | .advance id => decidable_of_iff
      (s.calls.lookup id = some (.waitStart .checked) → ¬ s.Unannounced) (by
        refine ⟨fun h k hk => ?_, fun h => h id rfl⟩
        obtain rfl := Action.advance.inj hk
        exact h)
  | .tryTrackRequest _ | .beginShutdown _ | .markStopped _ | .waitForZeroInFlight _
  | .waitForShutdownStart _ | .dropWaiter _ => isTrue nofun

/-! ## What a step does to the channel -/

/-- The effects of the steps on the channel and on the calls that depend on it. -/
inductive Announce (s : ShutdownRuntime) (a : Action) : ShutdownRuntime → Prop where
  | quiet {t : ShutdownRuntime} (phase : t.phase = s.phase) (value : t.phaseTx = s.phaseTx)
      (version : t.version = s.version)
      (older : ∀ j c, c.announces = true → t.calls.lookup j = some c →
        s.calls.lookup j = some c)
      (begins : ∀ j, s.calls.lookup j = some (.beginShutdown .swapped) →
        t.calls.lookup j = some (.beginShutdown .swapped))
      (asleep : ∀ j n, a ≠ .dropWaiter j → s.calls.lookup j = some (.waitStart (.awaiting n)) →
        t.calls.lookup j = some (.waitStart (.awaiting n))) : Announce s a t
  | began {id : ℕ} (running : s.phase = .running) :
      Announce s a ({ s with phase := .draining }.moveTo id (.beginShutdown .swapped))
  | sent {id : ℕ} (found : s.calls.lookup id = some (.beginShutdown .swapped)) :
      Announce s a ((s.send .draining).moveTo id (.beginShutdown .sent))
  | subscribed {id : ℕ} (action : a = .advance id)
      (found : s.calls.lookup id = some (.waitStart .checked)) :
      Announce s a (s.moveTo id (.waitStart (.subscribed s.version)))
  | parked {id seen : ℕ} (found : s.calls.lookup id = some (.waitStart (.subscribed seen)))
      (running : s.phaseTx = .running) :
      Announce s a (s.moveTo id (.waitStart (.awaiting seen)))
  | woken {id seen : ℕ} (found : s.calls.lookup id = some (.waitStart (.awaiting seen)))
      (changed : s.version ≠ seen) :
      Announce s a (s.moveTo id (.waitStart (.subscribed s.version)))
  | stopped {t : ShutdownRuntime} {id : ℕ} (action : a = .markStopped id) : Announce s a t
  | stopping {t : ShutdownRuntime} {id : ℕ} {stage : StopStage}
      (found : s.calls.lookup id = some (.markStopped stage)) : Announce s a t

/-- The call that makes the step is neither about to send nor parked in `changed()`, unless it
is the one that is dropped. -/
def Bystander (s : ShutdownRuntime) (a : Action) (id : ℕ) : Prop :=
  s.calls.lookup id ≠ some (.beginShutdown .swapped) ∧
    ∀ n, a ≠ .dropWaiter id → s.calls.lookup id ≠ some (.waitStart (.awaiting n))

/-- A call moves to a point that the announcement does not depend on. -/
theorem announce_moveTo {u : ShutdownRuntime} (phase : u.phase = s.phase)
    (value : u.phaseTx = s.phaseTx) (version : u.version = s.version)
    (calls : u.calls = s.calls) (hc : c.announces = false) (hold : s.Bystander a id) :
    Announce s a (u.moveTo id c) := by
  refine .quiet phase value version (fun j d hd hj => ?_) (fun j hj => ?_) fun j n ha hj => ?_
  -- no call comes to depend on the announcement
  · rw [lookup_moveTo, calls] at hj
    split at hj
    · obtain rfl : c = d := Option.some.inj hj
      exact absurd (hc.symm.trans hd) Bool.false_ne_true
    · exact hj
  · rw [lookup_moveTo, calls, if_neg]
    · exact hj
    · intro hid
      exact hold.1 (hid ▸ hj)
  · rw [lookup_moveTo, calls, if_neg]
    · exact hj
    · intro hid
      exact hold.2 n (hid ▸ ha) (hid ▸ hj)

theorem announce_fetchSub (hold : s.Bystander a id) : Announce s a (s.fetchSub id) :=
  announce_moveTo (u := { s with inFlight := s.inFlight - 1 }) (c := .finish s.inFlight)
    rfl rfl rfl rfl rfl hold

theorem announce_leave (hold : s.Bystander a id) : Announce s a (s.leave id) := by
  refine .quiet rfl rfl rfl (fun j d _ hj => ?_) (fun j hj => ?_) fun j n ha hj => ?_
  · rw [lookup_leave] at hj
    split at hj
    · cases hj
    · exact hj
  · rw [lookup_leave, if_neg]
    · exact hj
    · intro hid
      exact hold.1 (hid ▸ hj)
  · rw [lookup_leave, if_neg]
    · exact hj
    · intro hid
      exact hold.2 n (hid ▸ ha) (hid ▸ hj)

/-- Waking the drain waiters does not touch the channel. -/
theorem wake_eq_of_announces (hd : c.announces = true) (h : old.wake = c) : old = c := by
  subst h
  unfold Call.wake at hd ⊢
  split
  · exact absurd hd (by decide)
  · rfl

theorem announce_notifyWaiters (hold : s.Bystander a id) :
    Announce s a (s.notifyWaiters.leave id) := by
  refine .quiet rfl rfl rfl (fun j d hd hj => ?_) (fun j hj => ?_) fun j n ha hj => ?_
  · rw [lookup_leave, lookup_notifyWaiters] at hj
    split at hj
    · cases hj
    · obtain ⟨c, hc, hwake⟩ := Option.map_eq_some_iff.mp hj
      rw [← wake_eq_of_announces hd hwake]
      exact hc
  · rw [lookup_leave, lookup_notifyWaiters, if_neg, hj]
    · rfl
    · intro hid
      exact hold.1 (hid ▸ hj)
  · rw [lookup_leave, lookup_notifyWaiters, if_neg, hj]
    · rfl
    · intro hid
      exact hold.2 n (hid ▸ ha) (hid ▸ hj)

theorem advance_announce (hc : s.calls.lookup id = some c) (h : s.advance id c = some t) :
    Announce s (.advance id) t := by
  -- most calls are at a point that the announcement does not depend on
  have hother : c ≠ .beginShutdown .swapped → (∀ n, c ≠ .waitStart (.awaiting n)) →
      s.Bystander (.advance id) id := by
    intro hsend hpark
    exact ⟨fun hlookup => hsend (Option.some.inj (hc.symm.trans hlookup)),
      fun n _ hlookup => hpark n (Option.some.inj (hc.symm.trans hlookup))⟩
  cases c with
  | tryTrack stage =>
    have hold := hother (by simp) (by simp)
    cases stage with
    | checked =>
      obtain rfl := Option.some.inj h
      exact announce_moveTo (u := { s with inFlight := s.inFlight + 1 }) (s := s)
        (c := .tryTrack .counted) rfl rfl rfl rfl rfl hold
    | counted =>
      simp only [advance] at h
      split at h
      · obtain rfl := Option.some.inj h
        exact announce_moveTo rfl rfl rfl rfl rfl hold
      · obtain rfl := Option.some.inj h
        exact announce_moveTo rfl rfl rfl rfl rfl hold
    | undoing =>
      obtain rfl := Option.some.inj h
      exact announce_fetchSub hold
  | guard =>
    obtain rfl := Option.some.inj h
    exact announce_fetchSub (hother (by simp) (by simp))
  | finish previous =>
    have hold := hother (by simp) (by simp)
    simp only [advance] at h
    split at h
    · obtain rfl := Option.some.inj h
      exact announce_moveTo rfl rfl rfl rfl rfl hold
    · obtain rfl := Option.some.inj h
      exact announce_leave hold
  | finishNotifying =>
    obtain rfl := Option.some.inj h
    exact announce_notifyWaiters (hother (by simp) (by simp))
  | beginShutdown stage =>
    cases stage with
    | swapped =>
      obtain rfl := Option.some.inj h
      exact .sent hc
    | sent =>
      have hold := hother (by simp) (by simp)
      simp only [advance] at h
      split at h
      · obtain rfl := Option.some.inj h
        exact announce_moveTo rfl rfl rfl rfl rfl hold
      · obtain rfl := Option.some.inj h
        exact announce_leave hold
    | notifying =>
      obtain rfl := Option.some.inj h
      exact announce_notifyWaiters (hother (by simp) (by simp))
  | markStopped stage => exact .stopping hc
  | waitZero stage =>
    have hold := hother (by simp) (by simp)
    cases stage with
    | looping =>
      simp only [advance] at h
      split at h
      · obtain rfl := Option.some.inj h
        exact announce_leave hold
      · obtain rfl := Option.some.inj h
        exact announce_moveTo rfl rfl rfl rfl rfl hold
    | loaded =>
      obtain rfl := Option.some.inj h
      exact announce_moveTo rfl rfl rfl rfl rfl hold
    | parked => cases h
  | waitStart stage =>
    cases stage with
    | checked =>
      obtain rfl := Option.some.inj h
      exact .subscribed rfl hc
    | subscribed seen =>
      simp only [advance] at h
      split at h
      · obtain rfl := Option.some.inj h
        exact announce_leave (hother (by simp) (by simp))
      · next hrunning =>
        obtain rfl := Option.some.inj h
        exact .parked hc (not_not.mp hrunning)
    | awaiting seen =>
      simp only [advance] at h
      split at h
      · next hchanged =>
        obtain rfl := Option.some.inj h
        exact .woken hc hchanged
      · cases h

theorem step_announce (h : step s a = some t) : Announce s a t := by
  cases a with
  | tryTrackRequest id =>
    obtain ⟨hfree, rfl⟩ := start_eq_some h
    split
    · exact .quiet rfl rfl rfl (fun _ _ _ hj => hj) (fun _ hj => hj) fun _ _ _ hj => hj
    · exact announce_moveTo rfl rfl rfl rfl rfl ⟨by simp [hfree], by simp [hfree]⟩
  | beginShutdown id =>
    obtain ⟨-, rfl⟩ := start_eq_some h
    split
    · next hrunning => exact .began hrunning
    · exact .quiet rfl rfl rfl (fun _ _ _ hj => hj) (fun _ hj => hj) fun _ _ _ hj => hj
  | markStopped id => exact .stopped rfl
  | waitForZeroInFlight id =>
    obtain ⟨hfree, rfl⟩ := start_eq_some h
    exact announce_moveTo rfl rfl rfl rfl rfl ⟨by simp [hfree], by simp [hfree]⟩
  | waitForShutdownStart id =>
    obtain ⟨hfree, rfl⟩ := start_eq_some h
    split
    · exact .quiet rfl rfl rfl (fun _ _ _ hj => hj) (fun _ hj => hj) fun _ _ _ hj => hj
    · exact announce_moveTo rfl rfl rfl rfl rfl ⟨by simp [hfree], by simp [hfree]⟩
  | advance id =>
    obtain ⟨c, hc, hadv⟩ := Option.bind_eq_some_iff.mp h
    exact advance_announce hc hadv
  | dropWaiter id =>
    obtain ⟨c, hc, hdrop⟩ := Option.bind_eq_some_iff.mp h
    split at hdrop
    · next hwaits =>
      obtain rfl := Option.some.inj hdrop
      refine announce_leave ⟨fun hbegin => ?_, fun n hne => absurd rfl hne⟩
      obtain rfl : c = _ := Option.some.inj (hc.symm.trans hbegin)
      exact absurd hwaits (by decide)
    · cases hdrop

/-! ## The invariant -/

/-- What holds of the channel while waiters subscribe in time and nobody stops the runtime. -/
structure Announced (s : ShutdownRuntime) : Prop where
  /-- A channel whose announcement was lost has no receiver. -/
  deaf : s.Unannounced → ∀ id c, s.calls.lookup id = some c → c.hasReceiver = false
  seen : ∀ id n, s.calls.lookup id = some (.waitStart (.subscribed n)) → n ≤ s.version
  /-- A waiter that has seen the last version has seen the value `Running`. -/
  awaited : ∀ id n, s.calls.lookup id = some (.waitStart (.awaiting n)) →
    n ≤ s.version ∧ (n = s.version → s.phaseTx = .running)
  going : ∀ id stage, s.calls.lookup id ≠ some (.markStopped stage)

theorem announced_new : new.Announced where
  deaf := fun _ _ _ hc => absurd hc (by simp [new])
  seen := fun _ _ hc => absurd hc (by simp [new])
  awaited := fun _ _ hc => absurd hc (by simp [new])
  going := fun _ _ hc => absurd hc (by simp [new])

theorem announces_of_hasReceiver (h : c.hasReceiver = true) : c.announces = true := by
  cases c with
  | waitStart stage => cases stage <;> first | rfl | exact absurd h (by decide)
  | _ => exact absurd h (by simp [Call.hasReceiver])

/-- Nobody has a receiver, or the value is sent. -/
theorem send_cases (s : ShutdownRuntime) (phase : ShutdownPhase) :
    (s.send phase = s ∧ ∀ id c, s.calls.lookup id = some c → c.hasReceiver = false) ∨
    s.send phase = { s with phaseTx := phase, version := s.version + 1 } := by
  unfold send
  split
  · exact .inr rfl
  · next hnone =>
    refine .inl ⟨rfl, fun id c hc => ?_⟩
    have hzero := AList.total_eq_zero.mp (Nat.eq_zero_of_not_pos hnone) id c hc
    by_contra hreceiver
    rw [if_pos (by simpa using hreceiver)] at hzero
    exact absurd hzero one_ne_zero

/-- What a lookup finds after a move was there before, or is the call that moved. -/
theorem lookup_of_moveTo {d : Call} {j : ℕ} (h : (s.moveTo id c).calls.lookup j = some d)
    (hne : d ≠ c) : s.calls.lookup j = some d := by
  rw [lookup_moveTo] at h
  split at h
  · exact absurd (Option.some.inj h).symm hne
  · exact h

/-- A move of a call that is not about to send loses no announcement. -/
theorem unannounced_of_moveTo (h : (s.moveTo id c).Unannounced)
    (found : s.calls.lookup id = some old) (hold : old ≠ .beginShutdown .swapped) :
    s.Unannounced := by
  refine ⟨h.1, h.2.1, fun j hj => h.2.2 j ?_⟩
  rw [lookup_moveTo, if_neg]
  · exact hj
  · intro hid
    rw [hid, found] at hj
    exact hold (Option.some.inj hj)

/-- The announcement is sent: it is lost only when there is nobody to hear it. -/
theorem announced_sent (hs : s.Announced) :
    ((s.send .draining).moveTo id (.beginShutdown .sent)).Announced := by
  have hcalls : ∀ j d, ((s.send .draining).moveTo id (.beginShutdown .sent)).calls.lookup j =
      some d → d ≠ .beginShutdown .sent → s.calls.lookup j = some d := by
    intro j d hj hne
    have hold := lookup_of_moveTo hj hne
    rwa [calls_send] at hold
  -- without a receiver the value stays, with one every version seen is older
  rcases s.send_cases .draining with ⟨hsame, hnone⟩ | hsent
  · refine ⟨fun _ j d hd => ?_, fun j n hj => ?_, fun j n hj => ?_, fun j stage hj => ?_⟩
    · by_cases hmoved : d = .beginShutdown .sent
      · rw [hmoved]
        rfl
      · exact hnone j d (hcalls j d hd hmoved)
    · rw [hsame]
      exact hs.seen j n (hcalls j _ hj (by simp))
    · rw [hsame]
      exact hs.awaited j n (hcalls j _ hj (by simp))
    · exact hs.going j stage (hcalls j _ hj (by simp))
  · refine ⟨fun hun => ?_, fun j n hj => ?_, fun j n hj => ?_, fun j stage hj => ?_⟩
    · have hvalue : (s.send .draining).phaseTx = .running := hun.2.1
      rw [hsent] at hvalue
      exact absurd hvalue (by simp)
    · have hn := hs.seen j n (hcalls j _ hj (by simp))
      rw [hsent]
      exact Nat.le_succ_of_le hn
    · have hn := (hs.awaited j n (hcalls j _ hj (by simp))).1
      rw [hsent]
      refine ⟨Nat.le_succ_of_le hn, fun heq => ?_⟩
      have hnew : n = s.version + 1 := heq
      omega
    · exact hs.going j stage (hcalls j _ hj (by simp))

/-- A waiter subscribes, or looks again. -/
theorem announced_subscribed (hs : s.Announced)
    (hdeaf : ¬ (s.moveTo id (.waitStart (.subscribed s.version))).Unannounced) :
    (s.moveTo id (.waitStart (.subscribed s.version))).Announced := by
  refine ⟨fun hun => absurd hun hdeaf, fun j n hj => ?_, fun j n hj => ?_, fun j stage hj => ?_⟩
  · by_cases hn : n = s.version
    · exact le_of_eq hn
    · exact hs.seen j n (lookup_of_moveTo hj (by simp [hn]))
  · exact hs.awaited j n (lookup_of_moveTo hj (by simp))
  · exact hs.going j stage (lookup_of_moveTo hj (by simp))

/-- The channel stays in order, as long as waiters subscribe in time. -/
theorem announced_step (hs : s.Announced) (hstop : ∀ id, a ≠ .markStopped id)
    (hsub : s.SubscribesInTime a) (h : step s a = some t) : t.Announced := by
  cases step_announce h with
  | quiet phase value version older begins =>
    refine ⟨fun hun j d hd => ?_, fun j n hj => ?_, fun j n hj => ?_, fun j stage hj => ?_⟩
    · by_contra hreceiver
      rw [Bool.not_eq_false] at hreceiver
      have hold := older j d (announces_of_hasReceiver hreceiver) hd
      have hunannounced : s.Unannounced :=
        ⟨phase ▸ hun.1, value ▸ hun.2.1, fun k hk => hun.2.2 k (begins k hk)⟩
      exact absurd (hs.deaf hunannounced j d hold) (by simp [hreceiver])
    · rw [version]
      exact hs.seen j n (older j _ rfl hj)
    · rw [version, value]
      exact hs.awaited j n (older j _ rfl hj)
    · exact hs.going j stage (older j _ rfl hj)
  | @began id running =>
    refine ⟨fun hun => ?_, fun j n hj => ?_, fun j n hj => ?_, fun j stage hj => ?_⟩
    · exact absurd (by rw [lookup_moveTo, if_pos rfl]) (hun.2.2 id)
    · exact hs.seen j n (lookup_of_moveTo hj (by simp))
    · exact hs.awaited j n (lookup_of_moveTo hj (by simp))
    · exact hs.going j stage (lookup_of_moveTo hj (by simp))
  | sent found => exact announced_sent hs
  | @subscribed id action found =>
    -- the announcement would have been lost before the waiter subscribed
    apply announced_subscribed hs
    intro hun
    exact hsub id action found (unannounced_of_moveTo hun found (by simp))
  | @parked id seen found running =>
    refine ⟨fun hun => ?_, fun j n hj => ?_, fun j n hj => ?_, fun j stage hj => ?_⟩
    -- the waiter that parks has a receiver, so the announcement reached it
    · have hlost := unannounced_of_moveTo hun found (by simp)
      exact absurd (hs.deaf hlost id _ found) (by simp [Call.hasReceiver])
    · exact hs.seen j n (lookup_of_moveTo hj (by simp))
    -- the waiter that parks has just read the value under the version it has seen
    · by_cases hn : n = seen
      · subst hn
        exact ⟨hs.seen id n found, fun _ => running⟩
      · exact hs.awaited j n (lookup_of_moveTo hj (by simp [hn]))
    · exact hs.going j stage (lookup_of_moveTo hj (by simp))
  | @woken id seen found =>
    apply announced_subscribed hs
    intro hun
    have hlost := unannounced_of_moveTo hun found (by simp)
    exact absurd (hs.deaf hlost id _ found) (by simp [Call.hasReceiver])
  | @stopped _ id action => exact absurd action (hstop id)
  | @stopping _ id stage found => exact absurd found (hs.going id stage)

/-- An announced shutdown is not slept through: the parked waiter would have a receiver. -/
theorem not_lostStart (hs : s.Announced) : ¬ s.LostStart := by
  rintro ⟨hphase, hdone, id, hparked⟩
  have hvalue := (hs.awaited id _ hparked).2 rfl
  have hlost : s.Unannounced := ⟨hphase, hvalue, fun j => hdone j .swapped⟩
  exact absurd (hs.deaf hlost id _ hparked) (by simp [Call.hasReceiver])

/-- A waiter that sleeps through the start of the shutdown sleeps on, until somebody stops the
runtime or drops it. -/
def Asleep (s : ShutdownRuntime) (id : ℕ) : Prop :=
  s.phase = .draining ∧ s.calls.lookup id = some (.waitStart (.awaiting s.version)) ∧
    (∀ j, s.calls.lookup j ≠ some (.beginShutdown .swapped)) ∧
    ∀ j stage, s.calls.lookup j ≠ some (.markStopped stage)

theorem asleep_step (hs : s.Asleep id) (hstop : ∀ j, a ≠ .markStopped j)
    (hdrop : a ≠ .dropWaiter id) (h : step s a = some t) : t.Asleep id := by
  -- without a send the version stays, and the waiter wakes on another version only
  obtain ⟨hphase, hparked, hsent, hgoing⟩ := hs
  -- a move of another waiter leaves the sleeping one where it is
  have hkept : ∀ (j : ℕ) (c old : Call), s.calls.lookup j = some old →
      old ≠ .waitStart (.awaiting s.version) → c.hasReceiver = true →
      (s.moveTo j c).Asleep id := by
    intro j c old hold hne hc
    refine ⟨hphase, ?_, fun k hk => ?_, fun k stage hk => ?_⟩
    · rw [lookup_moveTo, if_neg]
      · exact hparked
      · intro hid
        rw [← hid, hparked] at hold
        exact hne (Option.some.inj hold).symm
    · refine hsent k (lookup_of_moveTo hk fun heq => ?_)
      rw [← heq] at hc
      exact absurd hc (by decide)
    · refine hgoing k stage (lookup_of_moveTo hk fun heq => ?_)
      rw [← heq] at hc
      exact absurd hc (by simp [Call.hasReceiver])
  cases step_announce h with
  | quiet phase value version older begins asleep =>
    refine ⟨phase.trans hphase, ?_, fun k hk => ?_, fun k stage hk => ?_⟩
    · rw [version]
      exact asleep id _ hdrop hparked
    · exact hsent k (older k _ rfl hk)
    · exact hgoing k stage (older k _ rfl hk)
  | began running => exact absurd (running.symm.trans hphase) (by decide)
  | @sent j found => exact absurd found (hsent j)
  | subscribed action found => exact hkept _ _ _ found (by simp) rfl
  | parked found => exact hkept _ _ _ found (by simp) rfl
  | @woken j seen found changed => exact hkept _ _ _ found (by simp [Ne.symm changed]) rfl
  | @stopped _ j action => exact absurd action (hstop j)
  | @stopping _ j stage found => exact absurd found (hgoing j stage)

/-! ## Runs -/

theorem asleep_run {as : List Action} (hs : s.Asleep id) (hstop : ∀ j, .markStopped j ∉ as)
    (hdrop : .dropWaiter id ∉ as) (h : run step s as = some t) : t.Asleep id := by
  have hothers : Along step (fun _ a _ => (∀ j, a ≠ .markStopped j) ∧ a ≠ .dropWaiter id) s as := by
    refine along_of_mem (fun a ha _ _ => ⟨fun j hj => ?_, fun hid => ?_⟩) s
    · exact hstop j (hj ▸ ha)
    · exact hdrop (hid ▸ ha)
  exact invariant_along (I := fun s => s.Asleep id)
    (fun s a t hs hC ht => asleep_step hs hC.1 hC.2 ht) h hothers hs

/-- Before any `mark_stopped`, and as long as no waiter subscribes after the announcement has
gone to a channel without receivers, nobody sleeps through the start of the shutdown. -/
theorem shutdown_start_not_lost {as : List Action} (h : run step new as = some s)
    (hstop : ∀ id, .markStopped id ∉ as)
    (hsub : Along step (fun s a _ => s.SubscribesInTime a) new as) : ¬ s.LostStart := by
  have hgoing : Along step (fun s a _ => (∀ id, a ≠ .markStopped id) ∧ s.SubscribesInTime a)
      new as := by
    refine along_and (along_of_mem (fun a ha _ _ id hid => ?_) new) hsub
    exact hstop id (hid ▸ ha)
  have hs := invariant_along (I := Announced)
    (fun s a t hs hC ht => announced_step hs hC.1 hC.2 ht) h hgoing announced_new
  exact not_lostStart hs

/-- Two waiters that subscribe before the shutdown begins; the first has parked. -/
def earlyWaiters : List Action :=
  [.waitForShutdownStart 0, .advance 0, .advance 0, .waitForShutdownStart 1, .advance 1,
    .beginShutdown 2, .advance 2, .advance 2, .advance 2]

theorem shutdown_start_not_lost_early :
    ∃ s, run step new earlyWaiters = some s ∧ s.phase = .draining ∧ ¬ s.LostStart := by
  have hrun : ∃ s, run step new earlyWaiters = some s ∧ s.phase = .draining := ⟨_, rfl, rfl⟩
  obtain ⟨s, hs, hphase⟩ := hrun
  exact ⟨s, hs, hphase, shutdown_start_not_lost hs (by simp [earlyWaiters]) (by decide)⟩

/-- A waiter looks at the phase; the shutdown begins, and its announcement finds no receiver;
the waiter subscribes, finds the channel running, and parks. -/
def lateSubscriber : List Action :=
  [.waitForShutdownStart 0, .beginShutdown 1, .advance 1, .advance 1, .advance 1,
    .advance 0, .advance 0]

/-- The shutdown has begun and `begin_shutdown` has returned; whatever happens next, the waiter
sleeps on until the runtime is stopped or the waiter dropped. -/
theorem lost_start_reachable :
    ∃ s, run step new lateSubscriber = some s ∧ s.LostStart ∧
      ∀ bs t, (∀ id, .markStopped id ∉ bs) → .dropWaiter 0 ∉ bs → run step s bs = some t →
        t.Asleep 0 := by
  have hcalls : ∀ (id : ℕ) (c : Call), AList.lookup id (AList.singleton (β := fun _ => Call) 0
      (.waitStart (.awaiting 0))) = some c → c = .waitStart (.awaiting 0) := by
    intro id c hc
    rw [← AList.insert_empty, AList.lookup_insert_eq_ite] at hc
    split at hc
    · exact (Option.some.inj hc).symm
    · cases hc
  refine ⟨ShutdownRuntime.mk .draining 0 .running 0
    (AList.singleton 0 (.waitStart (.awaiting 0))), rfl, ⟨rfl, fun id stage hid => ?_, 0, rfl⟩,
    fun bs t hstop hdrop hrun => asleep_run ⟨rfl, rfl, fun id hid => ?_, fun id stage hid => ?_⟩
      hstop hdrop hrun⟩
  · exact absurd (hcalls id _ hid) (by simp)
  · exact absurd (hcalls id _ hid) (by simp)
  · exact absurd (hcalls id _ hid) (by simp)

end ShutdownRuntime
end Shutdown
end GvmGateway
