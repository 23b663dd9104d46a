import GvmGateway.Server.Drain

/-!
# What the drain guarantees

Every step of `serve_with_drain` is at most one step of the runtime, so what holds of the
runtime in every run holds here. `Server.Inv` adds where `serve_with_drain` stands: a drain
that saw the counter at zero leaves no guard behind, and one that gives up has waited.
-/

namespace GvmGateway

open Shutdown TransitionSystem

namespace Shutdown

/-! ## Single calls of the runtime -/

namespace Call

/-- A call in `wait_for_shutdown_start`. -/
def isWaitStart : Call → Bool
  | .waitStart _ => true
  | _ => false

/-- A call in `wait_for_zero_in_flight`. -/
def isWaitZero : Call → Bool
  | .waitZero _ => true
  | _ => false

/-- A notification leaves a waiter in its function. -/
theorem isWaitStart_wake (c : Call) : c.wake.isWaitStart = c.isWaitStart := by
  unfold wake
  split <;> rfl

theorem isWaitZero_wake (c : Call) : c.wake.isWaitZero = c.isWaitZero := by
  unfold wake
  split <;> rfl

end Call

namespace ShutdownRuntime

variable {s t : ShutdownRuntime} {a : Action} {id j : ℕ} {c : Call}

/-- The call is where it was, or has been woken. -/
def Keeps (s t : ShutdownRuntime) (j : ℕ) : Prop :=
  t.calls.lookup j = s.calls.lookup j ∨ t.calls.lookup j = (s.calls.lookup j).map Call.wake

/-- Inserting one call keeps the others. -/
theorem keeps_insert {calls : AList fun _ : ℕ => Call} (hcalls : calls = s.calls)
    (ht : t.calls = calls.insert id c) (hne : j ≠ id) : s.Keeps t j := by
  left
  rw [ht, hcalls, AList.lookup_insert_eq_ite, if_neg hne]

theorem keeps_leave (hne : j ≠ id) : s.Keeps (s.leave id) j := by
  left
  rw [lookup_leave, if_neg hne]

theorem keeps_notified (hne : j ≠ id) : s.Keeps (s.notifyWaiters.leave id) j := by
  right
  rw [lookup_leave, if_neg hne, lookup_notifyWaiters]

theorem keeps_sent {phase : ShutdownPhase} (hne : j ≠ id) :
    s.Keeps ((s.send phase).moveTo id c) j :=
  keeps_insert (calls_send s phase) rfl hne

/-- A call that goes on leaves the phase alone, and the other calls but for waking them. -/
structure Local (s t : ShutdownRuntime) (id : ℕ) : Prop where
  phase : t.phase = s.phase
  keeps : ∀ j, j ≠ id → s.Keeps t j

/-- A call that moves on changes nothing but itself. -/
theorem local_moveTo (s : ShutdownRuntime) (id : ℕ) (c : Call) : s.Local (s.moveTo id c) id :=
  ⟨rfl, fun _ => keeps_insert rfl rfl⟩

theorem local_leave (s : ShutdownRuntime) (id : ℕ) : s.Local (s.leave id) id :=
  ⟨rfl, fun _ => keeps_leave⟩

theorem local_notified (s : ShutdownRuntime) (id : ℕ) :
    s.Local (s.notifyWaiters.leave id) id := ⟨rfl, fun _ => keeps_notified⟩

theorem local_sent (s : ShutdownRuntime) (phase : ShutdownPhase) (id : ℕ) (c : Call) :
    s.Local ((s.send phase).moveTo id c) id := ⟨phase_send s phase, fun _ => keeps_sent⟩

/-- Every step of a call is local to it. -/
theorem advance_local (h : s.advance id c = some t) : s.Local t id := by
  -- the points at which a call goes one way or the other
  have hbranch : ∀ {p : Prop} [Decidable p] {u v : ShutdownRuntime}, s.Local u id →
      s.Local v id → (if p then some u else some v) = some t → s.Local t id := by
    intro p _ u v hu hv hbranch
    split at hbranch
    · exact Option.some.inj hbranch ▸ hu
    · exact Option.some.inj hbranch ▸ hv
  have hmove := s.local_moveTo id
  cases c with
  | tryTrack stage =>
    cases stage with
    | checked =>
      obtain rfl := Option.some.inj h
      exact ⟨rfl, fun _ => keeps_insert rfl rfl⟩
    | counted => exact hbranch (hmove _) (hmove _) h
    | undoing =>
      obtain rfl := Option.some.inj h
      exact ⟨rfl, fun _ => keeps_insert rfl rfl⟩
  | guard =>
    obtain rfl := Option.some.inj h
    exact ⟨rfl, fun _ => keeps_insert rfl rfl⟩
  | finish previous => exact hbranch (hmove _) (s.local_leave id) h
  | finishNotifying =>
    obtain rfl := Option.some.inj h
    exact s.local_notified id
  | beginShutdown stage =>
    cases stage with
    | swapped =>
      obtain rfl := Option.some.inj h
      exact s.local_sent _ id _
    | sent => exact hbranch (hmove _) (s.local_leave id) h
    | notifying =>
      obtain rfl := Option.some.inj h
      exact s.local_notified id
  | markStopped stage =>
    cases stage with
    | stored =>
      obtain rfl := Option.some.inj h
      exact s.local_sent _ id _
    | notifying =>
      obtain rfl := Option.some.inj h
      exact s.local_notified id
  | waitZero stage =>
    cases stage with
    | looping => exact hbranch (s.local_leave id) (hmove _) h
    | loaded =>
      obtain rfl := Option.some.inj h
      exact hmove _
    | parked => cases h
  | waitStart stage =>
    cases stage with
    | checked =>
      obtain rfl := Option.some.inj h
      exact hmove _
    | subscribed seen => exact hbranch (s.local_leave id) (hmove _) h
    | awaiting seen =>
      obtain ⟨-, ht⟩ := Option.ite_none_right_eq_some.mp h
      obtain rfl := Option.some.inj ht
      exact hmove _

/-- An action keeps the calls other than its own. -/
theorem step_keeps (h : step s a = some t) (hne : j ≠ Drain.callId a) : s.Keeps t j := by
  -- a call that starts writes its own entry, whatever it first does to the phase
  have hstart : ∀ {id : ℕ} {first : ShutdownRuntime}, s.Keeps first j →
      s.start id first = some t → s.Keeps t j := by
    intro id first hfirst hstart
    obtain ⟨-, rfl⟩ := start_eq_some hstart
    exact hfirst
  have hself : s.Keeps s j := .inl rfl
  cases a with
  | tryTrackRequest id | waitForShutdownStart id =>
    refine hstart ?_ h
    split
    · exact hself
    · exact keeps_insert rfl rfl hne
  | beginShutdown id =>
    refine hstart ?_ h
    split
    · exact keeps_insert rfl rfl hne
    · exact hself
  | markStopped id | waitForZeroInFlight id => exact hstart (keeps_insert rfl rfl hne) h
  | advance id =>
    obtain ⟨c, -, hc⟩ := Option.bind_eq_some_iff.mp h
    exact (advance_local hc).keeps j hne
  | dropWaiter id =>
    obtain ⟨c, -, hc⟩ := Option.bind_eq_some_iff.mp h
    obtain ⟨-, ht⟩ := Option.ite_none_right_eq_some.mp hc
    obtain rfl := Option.some.inj ht
    exact keeps_leave hne

/-- A property of the kind of a call is kept. -/
theorem Keeps.kind {p : Call → Bool} (hp : ∀ c : Call, p c.wake = p c) (h : s.Keeps t j)
    (hs : ∀ c, s.calls.lookup j = some c → p c = true) :
    ∀ c, t.calls.lookup j = some c → p c = true := by
  intro c hc
  rcases h with hsame | hwoken
  · exact hs c (hsame ▸ hc)
  · rw [hwoken] at hc
    obtain ⟨c₀, hc₀, rfl⟩ := Option.map_eq_some_iff.mp hc
    rw [hp]
    exact hs c₀ hc₀

/-- A call that does not exist is not made by another. -/
theorem Keeps.absent (h : s.Keeps t j) (hs : s.calls.lookup j = none) :
    t.calls.lookup j = none := by
  rcases h with hsame | hwoken
  · exact hsame.trans hs
  · rw [hwoken, hs]
    rfl

/-- `wait_for_shutdown_start` goes on waiting, or returns because the channel tells of a
shutdown. -/
theorem advance_waitStart {stage : WaitStartStage}
    (h : s.advance id (.waitStart stage) = some t) :
    (∃ stage', t = s.moveTo id (.waitStart stage')) ∨
      t = s.leave id ∧ s.phaseTx ≠ .running := by
  cases stage with
  | checked => exact .inl ⟨_, (Option.some.inj h).symm⟩
  | subscribed seen =>
    simp only [advance] at h
    split at h
    · next hphase => exact .inr ⟨(Option.some.inj h).symm, hphase⟩
    · exact .inl ⟨_, (Option.some.inj h).symm⟩
  | awaiting seen =>
    obtain ⟨-, ht⟩ := Option.ite_none_right_eq_some.mp h
    exact .inl ⟨_, (Option.some.inj ht).symm⟩

/-- `wait_for_zero_in_flight` goes on waiting, or returns because nothing is in flight. -/
theorem advance_waitZero {stage : WaitZeroStage}
    (h : s.advance id (.waitZero stage) = some t) :
    (∃ stage', t = s.moveTo id (.waitZero stage')) ∨ t = s.leave id ∧ s.inFlight = 0 := by
  cases stage with
  | looping =>
    simp only [advance] at h
    split at h
    · next hzero => exact .inr ⟨(Option.some.inj h).symm, hzero⟩
    · exact .inl ⟨_, (Option.some.inj h).symm⟩
  | loaded => exact .inl ⟨_, (Option.some.inj h).symm⟩
  | parked => cases h

/-! ## What the channel tells -/

/-- While the gateway runs the channel says so, and nobody is about to send. -/
def Told (s : ShutdownRuntime) : Prop :=
  s.phase = .running → s.phaseTx = .running ∧
    ∀ id c, s.calls.lookup id = some c → c ≠ .beginShutdown .swapped ∧ ∀ stop, c ≠ .markStopped stop

/-- At the start nothing has been told. -/
theorem told_new : new.Told := fun _ => ⟨rfl, nofun⟩

theorem told_step (hs : s.Told) (h : step s a = some t) : t.Told := by
  intro hrunning
  have hle := phase_le_step h
  rw [hrunning] at hle
  obtain ⟨hvalue, hsenders⟩ := hs (toU8_running_or (Nat.le_zero.mp hle))
  -- a call that moves on to a point that sends nothing
  have hmove : ∀ (id : ℕ) (stage : WaitStartStage), (s.moveTo id (.waitStart stage)).Told := by
    intro id stage _
    refine ⟨hvalue, fun j c hc => ?_⟩
    rw [lookup_moveTo] at hc
    split at hc
    · obtain rfl := Option.some.inj hc
      exact ⟨nofun, nofun⟩
    · exact hsenders j c hc
  cases step_announce h with
  | quiet phase value version older =>
    refine ⟨value.trans hvalue, fun j c hc => ?_⟩
    refine ⟨?_, fun stop => ?_⟩
    · rintro rfl
      exact (hsenders j _ (older j _ rfl hc)).1 rfl
    · rintro rfl
      exact (hsenders j _ (older j _ rfl hc)).2 stop rfl
  | began => cases hrunning
  | sent found => exact absurd rfl (hsenders _ _ found).1
  | subscribed _ _ => exact hmove _ _ hrunning
  | parked => exact hmove _ _ hrunning
  | woken => exact hmove _ _ hrunning
  | stopped action =>
    subst action
    obtain ⟨-, rfl⟩ := start_eq_some h
    cases hrunning
  | stopping found => exact absurd rfl ((hsenders _ _ found).2 _)

/-- Nobody marks the runtime as stopped but `mark_stopped`. -/
theorem stopped_step (h : step s a = some t) (ha : ∀ id, a ≠ .markStopped id) :
    t.phase = .stopped ↔ s.phase = .stopped := by
  cases a with
  | tryTrackRequest id | waitForShutdownStart id =>
    obtain ⟨-, rfl⟩ := start_eq_some h
    split
    · rfl
    · rfl
  | beginShutdown id =>
    obtain ⟨-, rfl⟩ := start_eq_some h
    split
    · next hrunning => simp [hrunning]
    · rfl
  | markStopped id => exact absurd rfl (ha id)
  | waitForZeroInFlight id =>
    obtain ⟨-, rfl⟩ := start_eq_some h
    rfl
  | advance id =>
    obtain ⟨c, -, hc⟩ := Option.bind_eq_some_iff.mp h
    rw [(advance_local hc).phase]
  | dropWaiter id =>
    obtain ⟨c, -, hc⟩ := Option.bind_eq_some_iff.mp h
    obtain ⟨-, ht⟩ := Option.ite_none_right_eq_some.mp hc
    obtain rfl := Option.some.inj ht
    rfl

/-- A call that does not exist cannot end. -/
theorem leave_of_absent (h : s.calls.lookup id = none) : s.leave id = s := by
  have hkeys : id ∉ s.calls.entries.keys := AList.lookup_eq_none.mp h
  have herase : s.calls.erase id = s.calls := AList.ext (List.kerase_of_notMem_keys hkeys)
  rw [leave, herase]

/-- `wait_for_shutdown_start` is in progress, or has returned in a shutdown. -/
def Started (t : ShutdownRuntime) (id : ℕ) : Prop :=
  (∃ stage, t.calls.lookup id = some (.waitStart stage)) ∨
    t.calls.lookup id = none ∧ t.phase ≠ .running

/-- The first poll of the wait for the start: it sleeps, or the shutdown has started. -/
theorem started_first (h : step s (.waitForShutdownStart id) = some t) : t.Started id := by
  obtain ⟨hfree, rfl⟩ := start_eq_some h
  split
  · next hdown => exact .inr ⟨hfree, isShuttingDown_eq_true.mp hdown⟩
  · exact .inl ⟨.checked, by rw [lookup_moveTo, if_pos rfl]⟩

/-- So does every later one. -/
theorem started_next (hs : s.Told)
    (hkind : ∀ c, s.calls.lookup id = some c → c.isWaitStart = true)
    (h : step s (.advance id) = some t) : t.Started id := by
  obtain ⟨c, hc, hadvance⟩ := Option.bind_eq_some_iff.mp h
  have hc := hkind c hc
  cases c with
  | waitStart stage =>
    rcases advance_waitStart hadvance with ⟨stage', rfl⟩ | ⟨rfl, htx⟩
    · exact .inl ⟨stage', by rw [lookup_moveTo, if_pos rfl]⟩
    · exact .inr ⟨by rw [lookup_leave, if_pos rfl], fun hrunning => htx (hs hrunning).1⟩
  | _ => cases hc

/-- `wait_for_zero_in_flight` is in progress, or has returned when nothing was in flight. -/
def Emptied (t : ShutdownRuntime) (id : ℕ) : Prop :=
  (∃ stage, t.calls.lookup id = some (.waitZero stage)) ∨
    t.calls.lookup id = none ∧ t.inFlight = 0

/-- A poll of the wait for zero sleeps or has seen zero. -/
theorem emptied_next (hkind : ∀ c, s.calls.lookup id = some c → c.isWaitZero = true)
    (h : step s (.advance id) = some t) : t.Emptied id := by
  obtain ⟨c, hc, hadvance⟩ := Option.bind_eq_some_iff.mp h
  have hc := hkind c hc
  cases c with
  | waitZero stage =>
    rcases advance_waitZero hadvance with ⟨stage', rfl⟩ | ⟨rfl, hzero⟩
    · exact .inl ⟨stage', by rw [lookup_moveTo, if_pos rfl]⟩
    · exact .inr ⟨by rw [lookup_leave, if_pos rfl], hzero⟩
  | _ => cases hc

end ShutdownRuntime
end Shutdown
namespace Drain
namespace Server

open ShutdownRuntime

variable {s t : Server} {r : ShutdownRuntime} {b : ShutdownRuntime.Action}

/-- What holds of the runtime, whoever moves, and of the futures that `serve_with_drain` owns. -/
structure Base (s : Server) : Prop where
  balanced : s.runtime.Balanced
  told : s.runtime.Told
  start : ∀ c, s.runtime.calls.lookup startCall = some c → c.isWaitStart = true
  zero : ∀ c, s.runtime.calls.lookup zeroCall = some c → c.isWaitZero = true

/-- Where `serve_with_drain` stands says what is true of the runtime. -/
structure Inv (s : Server) : Prop extends s.Base where
  draining : s.stage.isDraining = true → s.runtime.phase ≠ .running
  closed : s.stage.sawZero = true → s.runtime.Closed
  marked : s.runtime.phase = .stopped ↔ s.stage.isMarked = true
  gaveUp : ∀ since, s.stage.gaveUp = some since → since + s.drainTimeout ≤ s.now
  unmarked : s.stage.isMarked = false → s.runtime.calls.lookup stopCall = none

/-- The invariant holds at the start. -/
theorem inv_new (now drainTimeout : ℕ) : (new now drainTimeout).Inv where
  balanced := balanced_new
  told := told_new
  start := nofun
  zero := nofun
  draining := nofun
  closed := nofun
  marked := ⟨nofun, nofun⟩
  gaveUp := nofun
  unmarked _ := rfl

/-! ## Steps of the runtime -/

/-- A step of the runtime, in which the futures of `serve_with_drain` stay what they are. -/
theorem Base.step (hs : s.Base) (h : s.runtime.step b = some r)
    (hstart : startCall = callId b → ∀ c, r.calls.lookup startCall = some c →
      c.isWaitStart = true)
    (hzero : zeroCall = callId b → ∀ c, r.calls.lookup zeroCall = some c →
      c.isWaitZero = true) : (s.withRuntime r).Base where
  balanced := balanced_step hs.balanced h
  told := told_step hs.told h
  start := by
    by_cases hid : startCall = callId b
    · exact hstart hid
    · exact (step_keeps h hid).kind Shutdown.Call.isWaitStart_wake hs.start
  zero := by
    by_cases hid : zeroCall = callId b
    · exact hzero hid
    · exact (step_keeps h hid).kind Shutdown.Call.isWaitZero_wake hs.zero

/-- A shutdown that has begun is not undone. -/
theorem phase_ne_running_step (hphase : s.runtime.phase ≠ .running)
    (h : s.runtime.step b = some r) : r.phase ≠ .running := by
  intro hrunning
  have hle := phase_le_step h
  rw [hrunning] at hle
  exact hphase (toU8_running_or (Nat.le_zero.mp hle))

/-- The runtime moves while `serve_with_drain` stays where it is. -/
theorem Inv.step (hs : s.Inv) (h : s.runtime.step b = some r) (hbase : (s.withRuntime r).Base)
    (hstop : ∀ id, b ≠ .markStopped id) (hid : stopCall ≠ callId b) : (s.withRuntime r).Inv where
  toBase := hbase
  draining hstage := phase_ne_running_step (hs.draining hstage) h
  closed hstage := closed_step (hs.closed hstage) h
  marked := (stopped_step h hstop).trans hs.marked
  gaveUp := hs.gaveUp
  unmarked hstage := (step_keeps h hid).absent (hs.unmarked hstage)

/-- Steps of requests keep the invariant. -/
theorem inv_runtime (hs : s.Inv) (hforeign : isForeign b = true)
    (h : s.runtime.step b = some r) : (s.withRuntime r).Inv := by
  have hids : stopCall < callId b ∧ ∀ id, b ≠ .markStopped id := by
    unfold isForeign at hforeign
    rw [Bool.and_eq_true, decide_eq_true_eq] at hforeign
    refine ⟨hforeign.1, ?_⟩
    rintro id rfl
    cases hforeign.2
  refine hs.step h ?_ hids.2 (ne_of_lt hids.1)
  apply hs.toBase.step h
  · intro hid
    have hlt := hids.1
    rw [← hid] at hlt
    cases hlt
  · intro hid
    have hlt := hids.1
    rw [← hid] at hlt
    exact absurd hlt (by decide)

/-- `serve_with_drain` goes on to another stage. -/
theorem Inv.atStage {stage : ServeStage} (hs : s.Inv)
    (hdraining : stage.isDraining = true → s.runtime.phase ≠ .running)
    (hclosed : stage.sawZero = true → s.runtime.Closed)
    (hmarked : stage.isMarked = s.stage.isMarked)
    (hgaveUp : ∀ since, stage.gaveUp = some since → since + s.drainTimeout ≤ s.now) :
    (s.atStage stage).Inv where
  balanced := hs.balanced
  told := hs.told
  start := hs.start
  zero := hs.zero
  draining := hdraining
  closed := hclosed
  marked := hs.marked.trans (by rw [← hmarked]; rfl)
  gaveUp := hgaveUp
  unmarked hstage := hs.unmarked (hmarked.symm.trans hstage)

/-! ## The steps of `serve_with_drain` -/

/-- `wait_for_shutdown_start` was polled: the `select!` goes on, or the drain begins. -/
theorem Inv.started (hs : s.Inv) (h : s.runtime.step b = some r) (hb : callId b = startCall)
    (hstop : ∀ id, b ≠ .markStopped id) (hmarked : s.stage.isMarked = false)
    (hstarted : r.Started startCall) : (s.withRuntime r).started.Inv := by
  have hbase : (s.withRuntime r).Base := by
    apply hs.toBase.step h
    · intro _ c hc
      rcases hstarted with ⟨stage, hwaiting⟩ | ⟨hnone, -⟩
      · obtain rfl := Option.some.inj (hwaiting.symm.trans hc)
        rfl
      · rw [hnone] at hc
        cases hc
    · intro hid
      exact absurd (hid.trans hb) (by decide)
  have hnext := hs.step h hbase hstop (by rw [hb]; decide)
  have hstage : (s.withRuntime r).stage.isMarked = false := hmarked
  unfold Server.started
  split
  · exact hnext.atStage nofun nofun hstage.symm nofun
  · next hnone =>
    refine hnext.atStage (fun _ => ?_) nofun hstage.symm nofun
    rcases hstarted with ⟨stage, hwaiting⟩ | ⟨-, hphase⟩
    · exact absurd (hwaiting.symm.trans hnone) (by simp)
    · exact hphase

theorem inv_pollStart (hs : s.Inv) (h : s.pollStart = some t) : t.Inv := by
  unfold Server.pollStart at h
  split at h
  · next hstage =>
    obtain ⟨r, hr, rfl⟩ := Option.map_eq_some_iff.mp h
    exact hs.started hr rfl nofun (by rw [hstage]; rfl) (started_first hr)
  · next hstage =>
    obtain ⟨r, hr, rfl⟩ := Option.map_eq_some_iff.mp h
    exact hs.started hr rfl nofun (by rw [hstage]; rfl) (started_next hs.told hs.start hr)
  · cases h

/-- `wait_for_zero_in_flight` is called. -/
theorem Inv.zeroCalled (hs : s.Inv)
    (h : s.runtime.step (.waitForZeroInFlight zeroCall) = some r) : (s.withRuntime r).Inv := by
  refine hs.step h ?_ nofun (by decide)
  apply hs.toBase.step h
  · intro hid
    exact absurd hid (by decide)
  · intro _ c hc
    obtain ⟨-, rfl⟩ := start_eq_some h
    rw [lookup_moveTo, if_pos rfl] at hc
    obtain rfl := Option.some.inj hc
    rfl

/-- `wait_for_zero_in_flight` was polled: it goes on, or the gateway has no guard left. -/
theorem Inv.emptied {since : ℕ} (hs : s.Inv) (hstage : s.stage = .draining since)
    (h : s.runtime.step (.advance zeroCall) = some r) :
    ((s.withRuntime r).emptied since).Inv := by
  have hemptied := emptied_next hs.zero h
  have hbase : (s.withRuntime r).Base := by
    apply hs.toBase.step h
    · intro hid
      exact absurd hid (by decide)
    · intro _ c hc
      rcases hemptied with ⟨stage, hwaiting⟩ | ⟨hnone, -⟩
      · obtain rfl := Option.some.inj (hwaiting.symm.trans hc)
        rfl
      · rw [hnone] at hc
        cases hc
  have hnext := hs.step h hbase nofun (by decide)
  have hstage' : (s.withRuntime r).stage = .draining since := hstage
  have hphase : r.phase ≠ .running := hnext.draining (by rw [hstage']; rfl)
  unfold Server.emptied
  split
  · exact hnext
  · next hnone =>
    refine hnext.atStage (fun _ => hphase) (fun _ => ?_) (by rw [hstage']; rfl) nofun
    rcases hemptied with ⟨stage, hwaiting⟩ | ⟨-, hzero⟩
    · exact absurd (hwaiting.symm.trans hnone) (by simp)
    · exact closed_of_inFlight_eq_zero hbase.balanced hphase hzero

theorem inv_pollZero (hs : s.Inv) (h : s.pollZero = some t) : t.Inv := by
  unfold Server.pollZero at h
  split at h
  · obtain ⟨r, hr, rfl⟩ := Option.map_eq_some_iff.mp h
    exact hs.zeroCalled hr
  · next since _ hstage _ =>
    obtain ⟨r, hr, rfl⟩ := Option.map_eq_some_iff.mp h
    exact hs.emptied hstage hr
  · cases h

/-- A future that `serve_with_drain` owns is dropped. -/
theorem Inv.dropCall {id : ℕ} (hs : s.Inv) (hid : id < stopCall)
    (hwaiter : ∀ c, s.runtime.calls.lookup id = some c → c.isWaiter = true) :
    (s.dropCall id).Inv := by
  unfold Server.dropCall
  rcases hc : s.runtime.calls.lookup id with _ | c
  · rw [leave_of_absent hc]
    exact hs
  · have hdrop : s.runtime.step (.dropWaiter id) = some (s.runtime.leave id) := by
      rw [ShutdownRuntime.step, hc, Option.bind_some, if_pos (hwaiter c hc)]
    have habsent : (s.runtime.leave id).calls.lookup id = none := by
      rw [lookup_leave, if_pos rfl]
    refine hs.step hdrop ?_ (fun _ h => by cases h) (ne_of_gt hid)
    apply hs.toBase.step hdrop
    · intro hid c' hc'
      rw [show startCall = id from hid, habsent] at hc'
      cases hc'
    · intro hid c' hc'
      rw [show zeroCall = id from hid, habsent] at hc'
      cases hc'

/-- A wait for the start counts as a waiter. -/
theorem isWaiter_of_isWaitStart {c : Shutdown.Call} (h : c.isWaitStart = true) :
    c.isWaiter = true := by
  cases c with
  | waitStart => rfl
  | _ => cases h

theorem isWaiter_of_isWaitZero {c : Shutdown.Call} (h : c.isWaitZero = true) :
    c.isWaiter = true := by
  cases c with
  | waitZero => rfl
  | _ => cases h

/-- The end of the server keeps the invariant. -/
theorem inv_serverEnds {ok : Bool} (hs : s.Inv) (h : s.serverEnds ok = some t) : t.Inv := by
  unfold Server.serverEnds at h
  -- the server ends before any shutdown
  have hserved : s.stage.isMarked = false →
      ((s.dropCall startCall).atStage (if ok then .stopping .served else .failed)).Inv := by
    intro hmarked
    have hdropped := hs.dropCall (by decide) fun c hc => isWaiter_of_isWaitStart (hs.start c hc)
    cases ok with
    | true => exact hdropped.atStage nofun nofun hmarked.symm nofun
    | false => exact hdropped.atStage nofun nofun hmarked.symm nofun
  split at h
  · next hstage =>
    obtain rfl := Option.some.inj h
    exact hserved (by rw [hstage]; rfl)
  · next hstage =>
    obtain rfl := Option.some.inj h
    exact hserved (by rw [hstage]; rfl)
  · next since hstage =>
    obtain rfl := Option.some.inj h
    have hclosed := hs.closed (by rw [hstage]; rfl)
    cases ok with
    | true => exact hs.atStage nofun (fun _ => hclosed) (by rw [hstage]; rfl) nofun
    | false => exact hs.atStage nofun nofun (by rw [hstage]; rfl) nofun
  · cases h

theorem inv_elapse (hs : s.Inv) (h : s.elapse = some t) : t.Inv := by
  have helapsed : ∀ since, s.stage.isMarked = false → since + s.drainTimeout ≤ s.now →
      ((s.dropCall zeroCall).atStage (.stopping (.timedOut since))).Inv := by
    intro since hmarked hlate
    have hdropped := hs.dropCall (by decide) fun c hc => isWaiter_of_isWaitZero (hs.zero c hc)
    refine hdropped.atStage nofun nofun hmarked.symm fun since' hsince => ?_
    obtain rfl : since = since' := Option.some.inj hsince
    exact hlate
  unfold Server.elapse at h
  split at h
  · next since hstage =>
    obtain ⟨hlate, ht⟩ := Option.ite_none_right_eq_some.mp h
    obtain rfl := Option.some.inj ht
    exact helapsed since (by rw [hstage]; rfl) hlate
  · next since hstage =>
    obtain ⟨hlate, ht⟩ := Option.ite_none_right_eq_some.mp h
    obtain rfl := Option.some.inj ht
    exact helapsed since (by rw [hstage]; rfl) hlate
  · cases h

/-- The base of the invariant does not look at the stage. -/
theorem Base.atStage {stage : ServeStage} (hs : s.Base) : (s.atStage stage).Base :=
  ⟨hs.balanced, hs.told, hs.start, hs.zero⟩

/-- A step of `mark_stopped`, after which the phase is the last one. -/
theorem Inv.marking {ending : Ending} (hs : s.Inv) (h : s.runtime.step b = some r)
    (hb : callId b = stopCall) (hphase : r.phase = .stopped)
    (hzero : ending = .drained → s.stage.sawZero = true)
    (hgaveUp : ∀ since, ending = .timedOut since → s.stage.gaveUp = some since) :
    ((s.withRuntime r).marked ending).Inv := by
  have hbase : (s.withRuntime r).Base := by
    apply hs.toBase.step h
    · intro hid
      exact absurd (hid.trans hb) (by decide)
    · intro hid
      exact absurd (hid.trans hb) (by decide)
  have hclosed : ending = .drained → r.Closed :=
    fun hending => closed_step (hs.closed (hzero hending)) h
  have hlate : ∀ since, ending = .timedOut since → since + s.drainTimeout ≤ s.now :=
    fun since hending => hs.gaveUp since (hgaveUp since hending)
  -- whether `mark_stopped` has returned or not, the facts about the ending are the same
  have hboth : ∀ stage : ServeStage, stage = .marking ending ∨ stage = .returned ending →
      ((s.withRuntime r).atStage stage).Inv := by
    intro stage hstage
    refine ⟨hbase.atStage, ?_, ?_, ?_, ?_, ?_⟩
    · rcases hstage with rfl | rfl <;> nofun
    · intro hsaw
      cases ending with
      | drained => exact hclosed rfl
      | served | timedOut => rcases hstage with rfl | rfl <;> cases hsaw
    · refine ⟨fun _ => ?_, fun _ => hphase⟩
      rcases hstage with rfl | rfl <;> rfl
    · intro since hsince
      cases ending with
      | timedOut since' =>
        obtain rfl : since' = since := by
          rcases hstage with rfl | rfl <;> exact Option.some.inj hsince
        exact hlate since' rfl
      | served | drained => rcases hstage with rfl | rfl <;> cases hsince
    · rcases hstage with rfl | rfl <;> nofun
  unfold Server.marked
  split
  · exact hboth _ (.inl rfl)
  · exact hboth _ (.inr rfl)

theorem inv_stop (hs : s.Inv) (h : s.stop = some t) : t.Inv := by
  unfold Server.stop at h
  split at h
  · next ending hstage =>
    obtain ⟨r, hr, rfl⟩ := Option.map_eq_some_iff.mp h
    obtain ⟨-, hfirst⟩ := start_eq_some hr
    apply hs.marking hr rfl (by rw [hfirst])
    · rintro rfl
      rw [hstage]
      rfl
    · rintro since rfl
      rw [hstage]
      rfl
  · next ending hstage =>
    obtain ⟨r, hr, rfl⟩ := Option.map_eq_some_iff.mp h
    have hstopped := (stopped_step hr nofun).mpr (hs.marked.mpr (by rw [hstage]; rfl))
    apply hs.marking hr rfl hstopped
    · rintro rfl
      rw [hstage]
      rfl
    · rintro since rfl
      rw [hstage]
      rfl
  · cases h

/-- Every step keeps the invariant. -/
theorem inv_step {a : Action} (hs : s.Inv) (h : s.step a = some t) : t.Inv := by
  cases a with
  | tick secs =>
    obtain rfl := Option.some.inj h
    exact { hs with gaveUp := fun since hsince =>
      (hs.gaveUp since hsince).trans (Nat.le_add_right _ _) }
  | runtime b =>
    obtain ⟨hforeign, h⟩ := Option.ite_none_right_eq_some.mp h
    obtain ⟨r, hr, rfl⟩ := Option.map_eq_some_iff.mp h
    exact inv_runtime hs hforeign hr
  | pollStart => exact inv_pollStart hs h
  | pollZero => exact inv_pollZero hs h
  | serverEnds ok => exact inv_serverEnds hs h
  | elapse => exact inv_elapse hs h
  | stop => exact inv_stop hs h

/-! ## Runs -/

variable {now drainTimeout : ℕ} {as : List Action}

theorem inv_run (h : run step (new now drainTimeout) as = some s) : s.Inv :=
  invariant (I := Inv) (fun _ _ _ => inv_step) h (inv_new now drainTimeout)

/-- A step of the runtime that `serve_with_drain` makes for itself. -/
def IsOwn (b : ShutdownRuntime.Action) : Prop :=
  callId b ≤ stopCall ∧ ∀ id, b ≠ .tryTrackRequest id

/-- A step of `serve_with_drain` is at most one step of the runtime. -/
theorem runtime_of_step {a : Action} (hs : s.Inv) (h : s.step a = some t) :
    t.runtime = s.runtime ∨
      ∃ b, s.runtime.step b = some t.runtime ∧ (a = .runtime b ∨ IsOwn b) := by
  -- a future that is dropped takes its call along, when it has made one
  have hdrop : ∀ id ≤ stopCall,
      (∀ c, s.runtime.calls.lookup id = some c → c.isWaiter = true) →
      s.runtime.leave id = s.runtime ∨
        ∃ b, s.runtime.step b = some (s.runtime.leave id) ∧ (a = .runtime b ∨ IsOwn b) := by
    intro id hid hwaiter
    rcases hc : s.runtime.calls.lookup id with _ | c
    · exact .inl (leave_of_absent hc)
    · right
      refine ⟨.dropWaiter id, ?_, .inr ⟨hid, fun _ hb => by cases hb⟩⟩
      rw [ShutdownRuntime.step, hc, Option.bind_some, if_pos (hwaiter c hc)]
  -- the calls of the server's own futures are waiters, whatever they have got to
  have hstart := hdrop startCall (by decide) fun c hc => isWaiter_of_isWaitStart (hs.start c hc)
  have hzero := hdrop zeroCall (by decide) fun c hc => isWaiter_of_isWaitZero (hs.zero c hc)
  cases a with
  | tick secs =>
    obtain rfl := Option.some.inj h
    exact .inl rfl
  | runtime b =>
    obtain ⟨-, h⟩ := Option.ite_none_right_eq_some.mp h
    obtain ⟨r, hr, rfl⟩ := Option.map_eq_some_iff.mp h
    exact .inr ⟨b, hr, .inl rfl⟩
  | pollStart =>
    have hstarted : ∀ u : Server, u.started.runtime = u.runtime := by
      intro u
      unfold started
      split <;> rfl
    replace h : s.pollStart = some t := h
    unfold pollStart at h
    split at h
    · obtain ⟨r, hr, rfl⟩ := Option.map_eq_some_iff.mp h
      exact .inr ⟨_, by rw [hstarted]; exact hr, .inr ⟨by decide, fun _ hb => by cases hb⟩⟩
    · obtain ⟨r, hr, rfl⟩ := Option.map_eq_some_iff.mp h
      exact .inr ⟨_, by rw [hstarted]; exact hr, .inr ⟨by decide, fun _ hb => by cases hb⟩⟩
    · cases h
  | pollZero =>
    have hemptied : ∀ (u : Server) since, (u.emptied since).runtime = u.runtime := by
      intro u since
      unfold emptied
      split <;> rfl
    replace h : s.pollZero = some t := h
    unfold pollZero at h
    split at h
    · obtain ⟨r, hr, rfl⟩ := Option.map_eq_some_iff.mp h
      exact .inr ⟨_, hr, .inr ⟨by decide, fun _ hb => by cases hb⟩⟩
    · obtain ⟨r, hr, rfl⟩ := Option.map_eq_some_iff.mp h
      exact .inr ⟨_, by rw [hemptied]; exact hr, .inr ⟨by decide, fun _ hb => by cases hb⟩⟩
    · cases h
  -- the server ends of itself, and the `select!` drops its wait for the start of the shutdown
  | serverEnds ok =>
    replace h : s.serverEnds ok = some t := h
    unfold serverEnds at h
    split at h
    · obtain rfl := Option.some.inj h
      exact hstart
    · obtain rfl := Option.some.inj h
      exact hstart
    · obtain rfl := Option.some.inj h
      exact .inl rfl
    · cases h
  -- the timeout wins the race, and the wait for zero is dropped
  | elapse =>
    replace h : s.elapse = some t := h
    unfold elapse at h
    split at h
    · obtain ⟨-, ht⟩ := Option.ite_none_right_eq_some.mp h
      obtain rfl := Option.some.inj ht
      exact hzero
    · obtain ⟨-, ht⟩ := Option.ite_none_right_eq_some.mp h
      obtain rfl := Option.some.inj ht
      exact hzero
    · cases h
  | stop =>
    have hmarked : ∀ (u : Server) ending, (u.marked ending).runtime = u.runtime := by
      intro u ending
      unfold marked
      split <;> rfl
    replace h : s.stop = some t := h
    unfold stop at h
    split at h
    · obtain ⟨r, hr, rfl⟩ := Option.map_eq_some_iff.mp h
      exact .inr ⟨_, by rw [hmarked]; exact hr, .inr ⟨by decide, fun _ hb => by cases hb⟩⟩
    · obtain ⟨r, hr, rfl⟩ := Option.map_eq_some_iff.mp h
      exact .inr ⟨_, by rw [hmarked]; exact hr, .inr ⟨by decide, fun _ hb => by cases hb⟩⟩
    · cases h

/-- Once no request is let in, none ever is. -/
theorem closed_server_run (hs : s.Inv) (hclosed : s.runtime.Closed)
    (h : run step s as = some t) : t.runtime.Closed := by
  have hboth := invariant (I := fun s : Server => s.Inv ∧ s.runtime.Closed) ?_ h ⟨hs, hclosed⟩
  · exact hboth.2
  · intro s a t hs hstep
    refine ⟨inv_step hs.1 hstep, ?_⟩
    rcases runtime_of_step hs.1 hstep with hsame | ⟨b, hb, -⟩
    · rw [hsame]
      exact hs.2
    · exact closed_step hs.2 hb

/-- With the call at hand the process marks the end. -/
theorem marked_of_lookup {ending : Ending} {c : Shutdown.Call}
    (h : s.runtime.calls.lookup stopCall = some c) :
    s.marked ending = s.atStage (.marking ending) := by
  rw [marked, h]

theorem marked_of_absent {ending : Ending} (h : s.runtime.calls.lookup stopCall = none) :
    s.marked ending = s.atStage (.returned ending) := by
  rw [marked, h]

/-- The store of the phase. -/
theorem stop_first {ending : Ending} (hstage : s.stage = .stopping ending)
    (hfree : s.runtime.calls.lookup stopCall = none) :
    ∃ t, s.stop = some t ∧ t.stage = .marking ending ∧
      t.runtime.calls.lookup stopCall = some (.markStopped .stored) := by
  obtain ⟨r, hr, hcall⟩ : ∃ r, s.runtime.step (.markStopped stopCall) = some r ∧
      r.calls.lookup stopCall = some (.markStopped .stored) := by
    refine ⟨{ s.runtime with
      phase := .stopped
      calls := s.runtime.calls.insert stopCall (.markStopped .stored) }, ?_,
      AList.lookup_insert s.runtime.calls⟩
    rw [ShutdownRuntime.step, ShutdownRuntime.start, hfree]
    rfl
  refine ⟨(s.withRuntime r).atStage (.marking ending), ?_, rfl, hcall⟩
  rw [stop, hstage]
  show (s.runtime.step _).map _ = _
  rw [hr, Option.map_some, marked_of_lookup (c := .markStopped .stored) hcall]

/-- The send. -/
theorem stop_sent {ending : Ending} (hstage : s.stage = .marking ending)
    (hcall : s.runtime.calls.lookup stopCall = some (.markStopped .stored)) :
    ∃ t, s.stop = some t ∧ t.stage = .marking ending ∧
      t.runtime.calls.lookup stopCall = some (.markStopped .notifying) := by
  have hnext : ((s.runtime.send .stopped).moveTo stopCall (.markStopped .notifying)).calls.lookup
      stopCall = some (.markStopped .notifying) := by
    rw [lookup_moveTo, if_pos rfl]
  refine ⟨(s.withRuntime _).atStage (.marking ending), ?_, rfl, hnext⟩
  rw [stop, hstage]
  show (s.runtime.step _).map _ = _
  rw [ShutdownRuntime.step, hcall, Option.bind_some]
  exact congrArg some (marked_of_lookup (c := .markStopped .notifying) hnext)

/-- The notification. -/
theorem stop_last {ending : Ending} (hstage : s.stage = .marking ending)
    (hcall : s.runtime.calls.lookup stopCall = some (.markStopped .notifying)) :
    ∃ t, s.stop = some t ∧ t.stage = .returned ending := by
  have hnext : (s.runtime.notifyWaiters.leave stopCall).calls.lookup stopCall = none := by
    rw [lookup_leave, if_pos rfl]
  refine ⟨(s.withRuntime (s.runtime.notifyWaiters.leave stopCall)).atStage (.returned ending),
    ?_, rfl⟩
  rw [stop, hstage]
  show (s.runtime.step _).map _ = _
  rw [ShutdownRuntime.step, hcall, Option.bind_some]
  exact congrArg some (marked_of_absent hnext)

/-- From the drain on, nobody can keep `serve_with_drain` from returning: once enough time has
passed, the timeout elapses and `mark_stopped` runs to its end. -/
theorem elapsed_run {since : ℕ} (hs : s.Inv)
    (hstage : s.stage = .draining since ∨ s.stage = .closing since) :
    ∃ t, run step s [.tick (since + s.drainTimeout), .elapse, .stop, .stop, .stop] = some t ∧
      t.stage = .returned (.timedOut since) := by
  have hfree := hs.unmarked (by rcases hstage with h | h <;> rw [h] <;> rfl)
  obtain ⟨late, hlate⟩ : ∃ late : Server,
      late = { s with now := s.now + (since + s.drainTimeout) } := ⟨_, rfl⟩
  have hdue : since + late.drainTimeout ≤ late.now := by
    rw [hlate]
    exact Nat.le_add_left _ _
  obtain ⟨ended, hended⟩ : ∃ ended : Server,
      ended = (late.dropCall zeroCall).atStage (.stopping (.timedOut since)) := ⟨_, rfl⟩
  have helapse : late.elapse = some ended := by
    have hlatestage : late.stage = .draining since ∨ late.stage = .closing since := by
      rw [hlate]
      exact hstage
    rcases hlatestage with h | h
    · simp only [elapse, h, if_pos hdue, hended]
    · simp only [elapse, h, if_pos hdue, hended]
  have hendedfree : ended.runtime.calls.lookup stopCall = none := by
    rw [hended, hlate]
    show (s.runtime.leave zeroCall).calls.lookup stopCall = none
    rw [lookup_leave, if_neg (by decide)]
    exact hfree
  -- `mark_stopped` stores, sends and notifies, with nothing to wait for
  obtain ⟨u, hu, hustage, hucall⟩ := stop_first (by rw [hended]; rfl) hendedfree
  obtain ⟨v, hv, hvstage, hvcall⟩ := stop_sent hustage hucall
  obtain ⟨t, ht, htstage⟩ := stop_last hvstage hvcall
  refine ⟨t, ?_, htstage⟩
  refine run_cons.mpr ⟨late, by rw [hlate]; rfl, run_cons.mpr ⟨ended, helapse, ?_⟩⟩
  exact run_cons.mpr ⟨u, hu, run_cons.mpr ⟨v, hv, run_cons.mpr ⟨t, ht, rfl⟩⟩⟩

/-- In every order of the steps of the server, its requests and the shutdown: a drain that
completes leaves no admitted request behind, then or later; one that gives up has waited for the
drain timeout; the runtime is marked as stopped exactly when `mark_stopped` has been reached,
which an error of the server skips; and a drain can always be ended by its timeout. -/
theorem serve_drains (h : run step (new now drainTimeout) as = some s) :
    (s.stage.sawZero = true → s.runtime.phase ≠ .running ∧
      ∀ bs t, run step s bs = some t → t.runtime.guards = 0) ∧
    (∀ since, s.stage.gaveUp = some since → since + s.drainTimeout ≤ s.now) ∧
    (s.runtime.phase = .stopped ↔ s.stage.isMarked = true) ∧
    ∀ since, s.stage = .draining since ∨ s.stage = .closing since →
      s.runtime.phase ≠ .running ∧
      ∃ t, run step s [.tick (since + s.drainTimeout), .elapse, .stop, .stop, .stop] = some t ∧
        t.stage = .returned (.timedOut since) := by
  have hs := inv_run h
  refine ⟨fun hsaw => ?_, hs.gaveUp, hs.marked, fun since hstage => ?_⟩
  · have hclosed := hs.closed hsaw
    refine ⟨hclosed.1, fun bs t hbs => ?_⟩
    exact guards_eq_zero.mpr (closed_server_run hs hclosed hbs).2
  · refine ⟨hs.draining ?_, elapsed_run hs hstage⟩
    rcases hstage with h | h <;> rw [h] <;> rfl

/-- A request is in flight when the shutdown begins, and the drain waits for it. -/
theorem serve_drains_request :
    ∃ s, run step (new 0 30) [.runtime (.tryTrackRequest 3), .runtime (.advance 3),
        .runtime (.advance 3), .pollStart, .pollStart, .pollStart, .runtime (.beginShutdown 4),
        .runtime (.advance 4), .pollStart, .pollStart, .pollZero, .pollZero, .pollZero,
        .runtime (.advance 3), .runtime (.advance 3), .runtime (.advance 3), .pollZero] = some s ∧
      s.stage = .closing 0 ∧ ∀ bs t, run step s bs = some t → t.runtime.guards = 0 := by
  have hrun : ∃ s, run step (new 0 30) [.runtime (.tryTrackRequest 3), .runtime (.advance 3),
        .runtime (.advance 3), .pollStart, .pollStart, .pollStart, .runtime (.beginShutdown 4),
        .runtime (.advance 4), .pollStart, .pollStart, .pollZero, .pollZero, .pollZero,
        .runtime (.advance 3), .runtime (.advance 3), .runtime (.advance 3), .pollZero] = some s ∧
      s.stage = .closing 0 := ⟨_, rfl, rfl⟩
  rcases hrun with ⟨s, hs, hstage⟩
  exact ⟨s, hs, hstage, ((serve_drains hs).1 (by rw [hstage]; rfl)).2⟩

end Server
end Drain
end GvmGateway
