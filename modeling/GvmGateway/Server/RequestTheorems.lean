import GvmGateway.Server.DrainTheorems
import GvmGateway.Server.Requests

/-!
# Handlers and the drain, and what every answer carries

The guards of the `ShutdownRuntime` are the handlers at work, one each; so a drain that sees
zero leaves no handler behind, and a request that comes after the start of the shutdown never
reaches one. And every answer, whoever gives it, has passed the security middleware.
-/

namespace GvmGateway

open Shutdown TransitionSystem Rest

namespace Shutdown
namespace Call

/-- A call of `try_track_request`, or the `InFlightRequest` that it returned. -/
def tracks : Call → Bool
  | .tryTrack _ | .guard | .finish _ | .finishNotifying => true
  | _ => false

/-- A call of `try_track_request` that has seen the shutdown. -/
def turnsAway : Call → Bool
  | .tryTrack .undoing | .finish _ | .finishNotifying => true
  | _ => false

/-- In `finish_request`. -/
def finishes : Call → Bool
  | .finish _ | .finishNotifying => true
  | _ => false

/-- A notification does not touch a call that tracks a request. -/
theorem wake_of_tracks {c : Call} (h : c.tracks = true) : c.wake = c := by
  cases c with
  | waitZero => cases h
  | _ => rfl

theorem tracks_wake (c : Call) : c.wake.tracks = c.tracks := by
  cases c with
  | waitZero stage => cases stage <;> rfl
  | _ => rfl

/-- A guard and its release belong to a request. -/
theorem tracks_of_finishes {c : Call} (h : c.finishes = true) : c.tracks = true := by
  cases c with
  | finish | finishNotifying => rfl
  | _ => cases h

theorem tracks_of_turnsAway {c : Call} (h : c.turnsAway = true) : c.tracks = true := by
  cases c with
  | tryTrack | finish | finishNotifying => rfl
  | _ => cases h

end Call

namespace ShutdownRuntime

variable {s t : ShutdownRuntime} {b : Action} {id : ℕ} {c : Shutdown.Call}

/-- A call that moves on is where it moves to. -/
theorem lookup_moveTo_self (s : ShutdownRuntime) (id : ℕ) (c : Shutdown.Call) :
    (s.moveTo id c).calls.lookup id = some c :=
  AList.lookup_insert s.calls

/-- A call that ends is gone. -/
theorem lookup_leave_self (s : ShutdownRuntime) (id : ℕ) :
    (s.leave id).calls.lookup id = none := by
  rw [lookup_leave, if_pos rfl]

/-- A shutdown that has begun is not undone. -/
theorem phase_ne_running (hphase : s.phase ≠ .running) (h : s.step b = some t) :
    t.phase ≠ .running := by
  intro hrunning
  have hle := phase_le_step h
  rw [hrunning] at hle
  exact hphase (toU8_running_or (Nat.le_zero.mp hle))

/-! ### The calls of a request -/

/-- `try_track_request` looks at the phase, and returns at once during a shutdown. -/
theorem tryTrackRequest_first (h : s.step (.tryTrackRequest id) = some t) :
    t.phase = s.phase ∧ (t.calls.lookup id = none ∧ s.phase ≠ .running ∨
      t.calls.lookup id = some (.tryTrack .checked) ∧ s.phase = .running) := by
  obtain ⟨hfree, rfl⟩ := start_eq_some h
  split
  · next hshut => exact ⟨rfl, .inl ⟨hfree, isShuttingDown_eq_true.mp hshut⟩⟩
  · next hshut =>
    refine ⟨rfl, .inr ⟨lookup_moveTo_self s id _, ?_⟩⟩
    by_contra hphase
    exact hshut (isShuttingDown_eq_true.mpr hphase)

/-- Then it returns a guard, or has seen the shutdown and gives its count back. -/
theorem tryTrack_next {stage : TryTrackStage} (h : s.advance id (.tryTrack stage) = some t) :
    t.phase = s.phase ∧ (t.calls.lookup id = some (.tryTrack .counted) ∨
      t.calls.lookup id = some .guard ∨
      ∃ c, t.calls.lookup id = some c ∧ c.turnsAway = true ∧
        ((Call.tryTrack stage).turnsAway = true ∨ s.phase ≠ .running)) := by
  cases stage with
  | checked =>
    obtain rfl := Option.some.inj h
    exact ⟨rfl, .inl (AList.lookup_insert s.calls)⟩
  | counted =>
    simp only [advance] at h
    split at h
    · next hshut =>
      obtain rfl := Option.some.inj h
      refine ⟨rfl, .inr (.inr ⟨_, lookup_moveTo_self s id _, rfl, .inr ?_⟩)⟩
      exact isShuttingDown_eq_true.mp hshut
    · obtain rfl := Option.some.inj h
      exact ⟨rfl, .inr (.inl (lookup_moveTo_self s id _))⟩
  | undoing =>
    obtain rfl := Option.some.inj h
    exact ⟨rfl, .inr (.inr ⟨_, AList.lookup_insert s.calls, rfl, .inl rfl⟩)⟩

/-- `finish_request` ends with its call. -/
theorem finish_next (hc : c.finishes = true) (h : s.advance id c = some t) :
    t.phase = s.phase ∧ (t.calls.lookup id = none ∨
      ∃ c', t.calls.lookup id = some c' ∧ c'.finishes = true) := by
  cases c with
  | finish previous =>
    simp only [advance] at h
    split at h
    · obtain rfl := Option.some.inj h
      exact ⟨rfl, .inr ⟨_, lookup_moveTo_self s id _, rfl⟩⟩
    · obtain rfl := Option.some.inj h
      exact ⟨rfl, .inl (lookup_leave_self s id)⟩
  | finishNotifying =>
    obtain rfl := Option.some.inj h
    exact ⟨rfl, .inl (lookup_leave_self s.notifyWaiters id)⟩
  | _ => cases hc

/-- A call of `try_track_request` returns nothing only during a shutdown. -/
theorem tracking_next (hc : c.tracks = true) (hguard : c ≠ .guard)
    (hlate : c.turnsAway = true → s.phase ≠ .running) (h : s.advance id c = some t) :
    t.calls.lookup id = none ∧ t.phase ≠ .running ∨ ∃ c', t.calls.lookup id = some c' ∧
      c'.tracks = true ∧ (c'.turnsAway = true → t.phase ≠ .running) := by
  have hfinish : c.finishes = true → c.turnsAway = true →
      t.calls.lookup id = none ∧ t.phase ≠ .running ∨ ∃ c', t.calls.lookup id = some c' ∧
        c'.tracks = true ∧ (c'.turnsAway = true → t.phase ≠ .running) := by
    intro hfinishes hturns
    obtain ⟨hphase, hnone | ⟨c', hc', hfinishes'⟩⟩ := finish_next hfinishes h
    · exact .inl ⟨hnone, hphase ▸ hlate hturns⟩
    · exact .inr ⟨c', hc', Call.tracks_of_finishes hfinishes', fun _ => hphase ▸ hlate hturns⟩
  cases c with
  | tryTrack stage =>
    right
    obtain ⟨hphase, hcounted | hheld | ⟨c', hc', hturns, hcause⟩⟩ := tryTrack_next h
    · exact ⟨_, hcounted, rfl, fun hturns => by cases hturns⟩
    · exact ⟨_, hheld, rfl, fun hturns => by cases hturns⟩
    · refine ⟨c', hc', Call.tracks_of_turnsAway hturns, fun _ => hphase ▸ ?_⟩
      exact hcause.elim hlate fun hphase => hphase
  | guard => exact absurd rfl hguard
  | finish | finishNotifying => exact hfinish rfl rfl
  | _ => cases hc

/-- During a shutdown `try_track_request` does not return a guard any more. -/
theorem tracking_refused (hc : c.tracks = true) (hguard : c ≠ .guard) (hphase : s.phase ≠ .running)
    (h : s.advance id c = some t) : t.calls.lookup id ≠ some .guard := by
  intro hheld
  have hturned : ∀ c', t.calls.lookup id = some c' → c'.turnsAway = true → False := by
    intro c' hc' hturns
    obtain rfl := Option.some.inj (hc'.symm.trans hheld)
    cases hturns
  have hfinish : c.finishes = true → False := by
    intro hfinishes
    obtain ⟨-, hnone | ⟨c', hc', hfinishes'⟩⟩ := finish_next hfinishes h
    · rw [hnone] at hheld
      cases hheld
    · obtain rfl := Option.some.inj (hc'.symm.trans hheld)
      cases hfinishes'
  cases c with
  | tryTrack stage =>
    cases stage with
    | checked =>
      obtain rfl := Option.some.inj h
      cases (AList.lookup_insert s.calls).symm.trans hheld
    | counted =>
      -- the second reading of the phase, after the increment
      simp only [advance] at h
      rw [if_pos (isShuttingDown_eq_true.mpr hphase)] at h
      obtain rfl := Option.some.inj h
      exact hturned _ (lookup_moveTo_self s id _) rfl
    | undoing =>
      obtain rfl := Option.some.inj h
      exact hturned _ (AList.lookup_insert s.calls) rfl
  | guard => exact hguard rfl
  | finish | finishNotifying => exact hfinish rfl
  | _ => cases hc

/-- A guard that is released leaves the phase, and finishes. -/
theorem guard_next (h : s.advance id .guard = some t) :
    t.phase = s.phase ∧ ∃ c, t.calls.lookup id = some c ∧ c.finishes = true := by
  obtain rfl := Option.some.inj h
  exact ⟨rfl, _, AList.lookup_insert s.calls, rfl⟩

/-! ### Other calls -/

/-- The step of another call leaves the call of a request where it is. -/
theorem lookup_of_tracks (h : s.step b = some t) (hid : id ≠ Drain.callId b)
    (hc : s.calls.lookup id = some c) (htracks : c.tracks = true) :
    t.calls.lookup id = some c := by
  rcases step_keeps h hid with hsame | hwoken
  · exact hsame.trans hc
  · rw [hwoken, hc, Option.map_some, Call.wake_of_tracks htracks]

/-- What becomes of a call that is none of a request's. -/
theorem untracked_next (hc : c.tracks = false) (h : s.advance id c = some t)
    {c' : Shutdown.Call} (hc' : t.calls.lookup id = some c') : c'.tracks = false := by
  have hleft : ∀ {u : ShutdownRuntime}, t = u.leave id → c'.tracks = false := by
    intro u hu
    rw [hu, lookup_leave_self] at hc'
    cases hc'
  have hmoved : ∀ {u : ShutdownRuntime} {c : Shutdown.Call}, c.tracks = false →
      t = u.moveTo id c → c'.tracks = false := by
    intro u c hc hu
    rw [hu, lookup_moveTo_self] at hc'
    exact Option.some.inj hc' ▸ hc
  cases c with
  | tryTrack | guard | finish | finishNotifying => cases hc
  | beginShutdown stage =>
    cases stage with
    | swapped => exact hmoved rfl (Option.some.inj h).symm
    | sent =>
      simp only [advance] at h
      split at h
      · exact hmoved rfl (Option.some.inj h).symm
      · exact hleft (Option.some.inj h).symm
    | notifying => exact hleft (Option.some.inj h).symm
  | markStopped stage =>
    cases stage with
    | stored => exact hmoved rfl (Option.some.inj h).symm
    | notifying => exact hleft (Option.some.inj h).symm
  | waitZero stage =>
    rcases advance_waitZero h with ⟨stage', ht⟩ | ⟨ht, -⟩
    · exact hmoved rfl ht
    · exact hleft ht
  | waitStart stage =>
    rcases advance_waitStart h with ⟨stage', ht⟩ | ⟨ht, -⟩
    · exact hmoved rfl ht
    · exact hleft ht

/-- Only `try_track_request` makes a call that is a request's. -/
theorem tracks_step (h : s.step b = some t) (hb : ∀ id, b ≠ .tryTrackRequest id)
    (hc : t.calls.lookup id = some c) (htracks : c.tracks = true) :
    ∃ c₀, s.calls.lookup id = some c₀ ∧ c₀.tracks = true := by
  by_cases hid : id = Drain.callId b
  · -- the call's own step
    have hstart : ∀ c' : Shutdown.Call, c'.tracks = false →
        s.calls.lookup id = none → t = s ∨ t.calls.lookup id = some c' →
        ∃ c₀, s.calls.lookup id = some c₀ ∧ c₀.tracks = true := by
      intro c' hc' hfree ht
      rcases ht with rfl | ht
      · rw [hfree] at hc
        cases hc
      · obtain rfl := Option.some.inj (ht.symm.trans hc)
        rw [htracks] at hc'
        cases hc'
    cases b with
    | tryTrackRequest id' => exact absurd rfl (hb id')
    | beginShutdown id' =>
      obtain rfl : id = id' := hid
      obtain ⟨hfree, rfl⟩ := start_eq_some h
      refine hstart (.beginShutdown .swapped) rfl hfree ?_
      split
      · exact .inr (AList.lookup_insert s.calls)
      · exact .inl rfl
    | markStopped id' =>
      obtain rfl : id = id' := hid
      obtain ⟨hfree, rfl⟩ := start_eq_some h
      exact hstart (.markStopped .stored) rfl hfree
        (.inr (AList.lookup_insert s.calls))
    | waitForZeroInFlight id' =>
      obtain rfl : id = id' := hid
      obtain ⟨hfree, rfl⟩ := start_eq_some h
      exact hstart (.waitZero .looping) rfl hfree
        (.inr (AList.lookup_insert s.calls))
    | waitForShutdownStart id' =>
      obtain rfl : id = id' := hid
      obtain ⟨hfree, rfl⟩ := start_eq_some h
      refine hstart (.waitStart .checked) rfl hfree ?_
      split
      · exact .inl rfl
      · exact .inr (AList.lookup_insert s.calls)
    | advance id' =>
      obtain rfl : id = id' := hid
      obtain ⟨c₀, hc₀, hadvance⟩ := Option.bind_eq_some_iff.mp h
      refine ⟨c₀, hc₀, ?_⟩
      by_contra hother
      rw [Bool.not_eq_true] at hother
      rw [untracked_next hother hadvance hc] at htracks
      cases htracks
    | dropWaiter id' =>
      obtain rfl : id = id' := hid
      obtain ⟨c₀, -, hdrop⟩ := Option.bind_eq_some_iff.mp h
      obtain ⟨-, ht⟩ := Option.ite_none_right_eq_some.mp hdrop
      rw [← Option.some.inj ht, lookup_leave_self] at hc
      cases hc
  · rcases step_keeps h hid with hsame | hwoken
    · exact ⟨c, hsame ▸ hc, htracks⟩
    · rw [hwoken] at hc
      obtain ⟨c₀, hc₀, rfl⟩ := Option.map_eq_some_iff.mp hc
      exact ⟨c₀, hc₀, (Call.tracks_wake c₀) ▸ htracks⟩

end ShutdownRuntime
end Shutdown
end GvmGateway

namespace GvmGateway

open Shutdown TransitionSystem Rest

namespace Http

/-- Where the security middleware sends a request; `now` is what it reads for the limiter. -/
def stageOf (now : ℕ) : Screening → RequestStage
  | .preflight response => .answered .preflight response
  | .limited => .checking now .global
  | .passed => .passed

namespace HttpServer

variable {s t : HttpServer} {r : ShutdownRuntime} {b : ShutdownRuntime.Action}
variable {config : RestSecurityConfig} {phase : ShutdownPhase} {request : HttpRequest}
variable {id : ℕ} {stage : RequestStage}

/-! ## Steps -/

/-- The request that leaves its handler, and its response. -/
def Action.leaves : Action → Option (ℕ × Option Response)
  | .respond id response => some (id, some response)
  | .drop id => some (id, none)
  | _ => none

/-- Everything that one step can do. -/
inductive Move (s : HttpServer) : Action → HttpServer → Prop where
  | received {id : ℕ} {request : HttpRequest} (reserved : Drain.stopCall < id)
      (fresh : s.requests.lookup id = none) (free : s.runtime.calls.lookup id = none) :
      Move s (.receive id request) (s.setCall id request .received)
  | screened {id now : ℕ} {request : HttpRequest}
      (call : s.requests.lookup id = some ⟨request, .received⟩) :
      Move s (.secure id now) (s.setCall id request (stageOf now (s.security.screen request)))
  | refused {id now : ℕ} {request : HttpRequest} {stage : CheckStage} {retryAfter : ℕ}
      {limiter : RateLimiter} (call : s.requests.lookup id = some ⟨request, .checking now stage⟩)
      (checked : s.security.limiter.checkStage request.toRequest now stage =
        (some retryAfter, limiter)) :
      Move s (.check id) ((s.withLimiter limiter).answer id request (.limiter retryAfter))
  | granted {id now : ℕ} {request : HttpRequest} {stage : CheckStage} {limiter : RateLimiter}
      (call : s.requests.lookup id = some ⟨request, .checking now stage⟩)
      (checked : s.security.limiter.checkStage request.toRequest now stage = (none, limiter)) :
      Move s (.check id) ((s.withLimiter limiter).setCall id request (.afterCheck now stage))
  | bypassed {id : ℕ} {request : HttpRequest}
      (call : s.requests.lookup id = some ⟨request, .passed⟩)
      (bypasses : shouldBypassShutdownGate request.path = true) :
      Move s (.gate id) (s.setCall id request (.handling false))
  | asked {id : ℕ} {request : HttpRequest} {r : ShutdownRuntime}
      (call : s.requests.lookup id = some ⟨request, .passed⟩)
      (gated : shouldBypassShutdownGate request.path = false)
      (moved : s.runtime.step (.tryTrackRequest id) = some r) :
      Move s (.gate id) ((s.withRuntime r).tracked id request)
  | asking {id : ℕ} {request : HttpRequest} {r : ShutdownRuntime}
      (call : s.requests.lookup id = some ⟨request, .tracking⟩)
      (moved : s.runtime.step (.advance id) = some r) :
      Move s (.gate id) ((s.withRuntime r).tracked id request)
  | responded {id : ℕ} {request : HttpRequest} {response : Response}
      (call : s.requests.lookup id = some ⟨request, .handling false⟩) :
      Move s (.respond id response) (s.answer id request (.handler response))
  | dropped {id : ℕ} {request : HttpRequest}
      (call : s.requests.lookup id = some ⟨request, .handling false⟩) :
      Move s (.drop id) (s.setCall id request .dropped)
  | left {id : ℕ} {request : HttpRequest} {response : Option Response} {r : ShutdownRuntime}
      {a : Action} (leaves : a.leaves = some (id, response))
      (call : s.requests.lookup id = some ⟨request, .handling true⟩)
      (moved : s.runtime.step (.advance id) = some r) :
      Move s a ((s.withRuntime r).released id request response)
  | finished {id : ℕ} {request : HttpRequest} {response : Option Response}
      {r : ShutdownRuntime} (call : s.requests.lookup id = some ⟨request, .releasing response⟩)
      (moved : s.runtime.step (.advance id) = some r) :
      Move s (.release id) ((s.withRuntime r).released id request response)
  | processed {a : Drain.Server.Action} {server : Drain.Server} (admitted : s.admits a = true)
      (moved : s.server.step a = some server) :
      Move s (.process a) { s with server := server }

/-- What `try_track_request` can have come to for a request. -/
inductive Tracked (s : HttpServer) (id : ℕ) (request : HttpRequest) : HttpServer → Prop where
  | turnedAway (returned : s.runtime.calls.lookup id = none) :
      Tracked s id request (s.answer id request .gate)
  | letIn (guard : s.runtime.calls.lookup id = some .guard) :
      Tracked s id request (s.setCall id request (.handling true))
  | working {c : Shutdown.Call} (call : s.runtime.calls.lookup id = some c) (noGuard : c ≠ .guard) :
      Tracked s id request (s.setCall id request .tracking)

theorem tracked_cases (s : HttpServer) (id : ℕ) (request : HttpRequest) :
    Tracked s id request (s.tracked id request) := by
  unfold HttpServer.tracked
  split
  · next hnone => exact .turnedAway hnone
  · next hguard => exact .letIn hguard
  · next c noGuard hc => exact .working hc noGuard

/-- What `secure` does: the screening, with one reading of the clock. -/
theorem secure_move {now : ℕ} (h : s.secure id now = some t) : Move s (.secure id now) t := by
  obtain ⟨⟨request, stage⟩, hcall, h⟩ := Option.bind_eq_some_iff.mp h
  cases stage with
  | received =>
    have ht : t = s.setCall id request (stageOf now (s.security.screen request)) := by
      dsimp only at h
      generalize s.security.screen request = screening at h ⊢
      cases screening with
      | preflight | limited | passed => exact (Option.some.inj h).symm
    subst ht
    exact .screened hcall
  | _ => cases h

/-- What one question to the limiter does. -/
theorem check_move (h : s.check id = some t) : Move s (.check id) t := by
  obtain ⟨⟨request, stage⟩, hcall, h⟩ := Option.bind_eq_some_iff.mp h
  cases stage with
  | checking now stage =>
    rcases hchecked : s.security.limiter.checkStage request.toRequest now stage with
      ⟨answer, limiter⟩
    simp only [hchecked] at h
    cases answer with
    | some retryAfter =>
      obtain rfl := Option.some.inj h
      exact .refused hcall hchecked
    | none =>
      obtain rfl := Option.some.inj h
      exact .granted hcall hchecked
  | _ => cases h

/-- What the shutdown gate does. -/
theorem gate_move (h : s.gate id = some t) : Move s (.gate id) t := by
  obtain ⟨⟨request, stage⟩, hcall, h⟩ := Option.bind_eq_some_iff.mp h
  cases stage with
  | passed =>
    cases hbypass : shouldBypassShutdownGate request.path with
    | true =>
      simp only [hbypass, if_true] at h
      obtain rfl := Option.some.inj h
      exact .bypassed hcall hbypass
    | false =>
      simp only [hbypass, Bool.false_eq_true, if_false] at h
      obtain ⟨r, hr, rfl⟩ := Option.map_eq_some_iff.mp h
      exact .asked hcall hbypass hr
  | tracking =>
    obtain ⟨r, hr, rfl⟩ := Option.map_eq_some_iff.mp h
    exact .asking hcall hr
  | _ => cases h

/-- What the response of a handler does. -/
theorem respond_move {response : Response} (h : s.leaveHandler id (some response) = some t) :
    Move s (.respond id response) t := by
  obtain ⟨⟨request, stage⟩, hcall, h⟩ := Option.bind_eq_some_iff.mp h
  cases stage with
  | handling tracked =>
    cases tracked with
    | false =>
      obtain rfl := Option.some.inj h
      exact .responded hcall
    | true =>
      obtain ⟨r, hr, rfl⟩ := Option.map_eq_some_iff.mp h
      exact .left rfl hcall hr
  | _ => cases h

/-- What the drop of a handler does. -/
theorem drop_move (h : s.leaveHandler id none = some t) : Move s (.drop id) t := by
  obtain ⟨⟨request, stage⟩, hcall, h⟩ := Option.bind_eq_some_iff.mp h
  cases stage with
  | handling tracked =>
    cases tracked with
    | false =>
      obtain rfl := Option.some.inj h
      exact .dropped hcall
    | true =>
      obtain ⟨r, hr, rfl⟩ := Option.map_eq_some_iff.mp h
      exact .left rfl hcall hr
  | _ => cases h

/-- Every step is one of the moves. -/
theorem move_of_step {a : Action} (h : s.step a = some t) : Move s a t := by
  cases a with
  | receive id request =>
    obtain ⟨⟨hreserved, hfresh, hfree⟩, ht⟩ := Option.ite_none_right_eq_some.mp h
    obtain rfl := Option.some.inj ht
    exact .received hreserved hfresh hfree
  | secure id now => exact secure_move h
  | check id => exact check_move h
  | gate id => exact gate_move h
  | respond id response => exact respond_move h
  | drop id => exact drop_move h
  | release id =>
    obtain ⟨⟨request, stage⟩, hcall, h⟩ := Option.bind_eq_some_iff.mp h
    cases stage with
    | releasing response =>
      obtain ⟨r, hr, rfl⟩ := Option.map_eq_some_iff.mp h
      exact .finished hcall hr
    | _ => cases h
  | process a =>
    obtain ⟨hadmits, h⟩ := Option.ite_none_right_eq_some.mp h
    obtain ⟨server, hserver, rfl⟩ := Option.map_eq_some_iff.mp h
    exact .processed hadmits hserver

/-! ## What holds of a request -/

/-- The answer is what its giver gives, and the giver had cause. -/
inductive Explained (config : RestSecurityConfig) (phase : ShutdownPhase)
    (request : HttpRequest) : Answerer → Response → Prop where
  | preflight (asks : isCorsPreflight request = true) :
      Explained config phase request .preflight (corsPreflightResponse config request)
  | limiter {retryAfterSecs : ℕ} (screened : isCorsPreflight request = false)
      (limited : isRateLimitedPath request.path = true) :
      Explained config phase request (.limiter retryAfterSecs)
        (protect config request (tooManyRequestsResponse request.path retryAfterSecs))
  | gate (screened : isCorsPreflight request = false)
      (gated : shouldBypassShutdownGate request.path = false) (late : phase ≠ .running) :
      Explained config phase request .gate (protect config request (gateRefusal request.path))
  | handler {response : Response} (screened : isCorsPreflight request = false) :
      Explained config phase request (.handler response) (protect config request response)

/-- What the runtime has of a request, and what the request has met. -/
inductive Sound (config : RestSecurityConfig) (phase : ShutdownPhase) (request : HttpRequest) :
    RequestStage → Option Shutdown.Call → Prop where
  | received : Sound config phase request .received none
  | checking {now : ℕ} {stage : CheckStage} (screened : isCorsPreflight request = false)
      (limited : isRateLimitedPath request.path = true) :
      Sound config phase request (.checking now stage) none
  | passed (screened : isCorsPreflight request = false) :
      Sound config phase request .passed none
  | tracking {c : Shutdown.Call} (screened : isCorsPreflight request = false)
      (gated : shouldBypassShutdownGate request.path = false) (tracks : c.tracks = true)
      (waits : c ≠ .guard) (late : c.turnsAway = true → phase ≠ .running) :
      Sound config phase request .tracking (some c)
  | handling (screened : isCorsPreflight request = false)
      (gated : shouldBypassShutdownGate request.path = false) :
      Sound config phase request (.handling true) (some .guard)
  | bypassing (screened : isCorsPreflight request = false)
      (bypasses : shouldBypassShutdownGate request.path = true) :
      Sound config phase request (.handling false) none
  | releasing {c : Shutdown.Call} {response : Option Response}
      (screened : isCorsPreflight request = false)
      (gated : shouldBypassShutdownGate request.path = false) (finishes : c.finishes = true) :
      Sound config phase request (.releasing response) (some c)
  | answered {answerer : Answerer} {response : Response}
      (explained : Explained config phase request answerer response) :
      Sound config phase request (.answered answerer response) none
  | dropped : Sound config phase request .dropped none

/-- An answer that is explained stays so while the phase goes on. -/
theorem Explained.later {later : ShutdownPhase} {answerer : Answerer} {response : Response}
    (h : Explained config phase request answerer response)
    (hphase : phase ≠ .running → later ≠ .running) :
    Explained config later request answerer response := by
  cases h with
  | preflight asks => exact .preflight asks
  | limiter screened limited => exact .limiter screened limited
  | gate screened gated late => exact .gate screened gated (hphase late)
  | handler screened => exact .handler screened

theorem Sound.later {later : ShutdownPhase} {c : Option Shutdown.Call}
    (h : Sound config phase request stage c) (hphase : phase ≠ .running → later ≠ .running) :
    Sound config later request stage c := by
  cases h with
  | received => exact .received
  | checking screened limited => exact .checking screened limited
  | passed screened => exact .passed screened
  | tracking screened gated tracks waits late =>
    exact .tracking screened gated tracks waits fun hlate => hphase (late hlate)
  | handling screened gated => exact .handling screened gated
  | bypassing screened bypasses => exact .bypassing screened bypasses
  | releasing screened gated finishes => exact .releasing screened gated finishes
  | answered explained => exact .answered (explained.later hphase)
  | dropped => exact .dropped

/-- What the runtime has of a request is a call of it. -/
theorem Sound.tracks {c : Shutdown.Call} (h : Sound config phase request stage (some c)) :
    c.tracks = true := by
  cases h with
  | tracking _ _ tracks => exact tracks
  | handling => rfl
  | releasing _ _ finishes => exact Call.tracks_of_finishes finishes

/-- The steps of others leave a request alone. -/
theorem Sound.elsewhere {u v : ShutdownRuntime}
    (h : Sound config u.phase request stage (u.calls.lookup id)) (hstep : u.step b = some v)
    (hid : id ≠ Drain.callId b) : Sound config v.phase request stage (v.calls.lookup id) := by
  have hlater := h.later fun hphase => ShutdownRuntime.phase_ne_running hphase hstep
  have hsame : v.calls.lookup id = u.calls.lookup id := by
    rcases hcall : u.calls.lookup id with _ | c
    · exact (ShutdownRuntime.step_keeps hstep hid).absent hcall
    · rw [hcall] at h
      exact ShutdownRuntime.lookup_of_tracks hstep hid hcall h.tracks
  rw [hsame]
  exact hlater

/-! ## The invariant -/

/-- What holds of the server, its configuration and all its requests. -/
structure Inv (config : RestSecurityConfig) (s : HttpServer) : Prop where
  server : s.server.Inv
  configured : s.security.config = config
  reserved : ∀ id call, s.requests.lookup id = some call → Drain.stopCall < id
  sound : ∀ id call, s.requests.lookup id = some call →
    Sound config s.runtime.phase call.request call.stage (s.runtime.calls.lookup id)
  /-- The calls of `try_track_request` are those of the requests. -/
  owned : ∀ id c, s.runtime.calls.lookup id = some c → c.tracks = true →
    (s.requests.lookup id).isSome = true

/-- It holds at the start. -/
theorem inv_new (now drainTimeout : ℕ) : Inv config (new config now drainTimeout) where
  server := Drain.Server.inv_new now drainTimeout
  configured := rfl
  reserved _ _ h := by cases h
  sound _ _ h := by cases h
  owned _ _ h := by cases h

/-- An insertion removes no request. -/
theorem isSome_insert {requests : AList fun _ : ℕ => HttpCall} {id j : ℕ} {call : HttpCall}
    (h : (requests.lookup j).isSome = true) :
    ((requests.insert id call).lookup j).isSome = true := by
  rw [AList.lookup_insert_eq_ite]
  split
  · rfl
  · exact h

/-- A request moves without the runtime. -/
theorem Inv.setCall (hs : Inv config s) {security : SecurityRuntime}
    (hconfig : security.config = config) (hreserved : Drain.stopCall < id)
    (hsound : Sound config s.runtime.phase request stage (s.runtime.calls.lookup id)) :
    Inv config ({ s with security := security }.setCall id request stage) where
  server := hs.server
  configured := hconfig
  reserved := AList.forall_lookup_insert hreserved fun j call _ => hs.reserved j call
  sound := AList.forall_lookup_insert hsound fun j call _ => hs.sound j call
  owned j c hc htracks := isSome_insert (hs.owned j c hc htracks)

/-- A request makes a step of the runtime. -/
theorem Inv.moved (hs : Inv config s) (hreserved : Drain.stopCall < id)
    (hforeign : Drain.isForeign b = true) (hb : Drain.callId b = id)
    (hr : s.runtime.step b = some r)
    (hsound : Sound config r.phase request stage (r.calls.lookup id)) :
    Inv config ((s.withRuntime r).setCall id request stage) where
  server := Drain.Server.inv_runtime hs.server hforeign hr
  configured := hs.configured
  reserved := AList.forall_lookup_insert hreserved fun j call _ => hs.reserved j call
  sound := AList.forall_lookup_insert hsound fun j call hj hcall =>
    (hs.sound j call hcall).elsewhere hr (hb ▸ hj)
  owned j c hc htracks := by
    by_cases hj : j = id
    · subst hj
      show ((s.requests.insert j _).lookup j).isSome = true
      rw [AList.lookup_insert]
      rfl
    · apply isSome_insert
      rcases ShutdownRuntime.step_keeps hr (show j ≠ Drain.callId b from hb ▸ hj) with hsame | hwoken
      · exact hs.owned j c (hsame.symm.trans hc) htracks
      · obtain ⟨c₀, hc₀, rfl⟩ := Option.map_eq_some_iff.mp (hwoken.symm.trans hc)
        exact hs.owned j c₀ hc₀ ((Call.tracks_wake c₀) ▸ htracks)

/-- The calls of requests are not those of the process. -/
theorem isForeign_tryTrackRequest (h : Drain.stopCall < id) :
    Drain.isForeign (.tryTrackRequest id) = true := by
  simp [Drain.isForeign, Drain.callId, h]

theorem isForeign_advance (h : Drain.stopCall < id) :
    Drain.isForeign (.advance id) = true := by
  simp [Drain.isForeign, Drain.callId, h]

/-- `try_track_request` has moved. -/
theorem Inv.tracked (hs : Inv config s) (hreserved : Drain.stopCall < id)
    (hscreened : isCorsPreflight request = false)
    (hgated : shouldBypassShutdownGate request.path = false)
    (hforeign : Drain.isForeign b = true) (hb : Drain.callId b = id)
    (hr : s.runtime.step b = some r)
    (hnext : r.calls.lookup id = none ∧ r.phase ≠ .running ∨ ∃ c, r.calls.lookup id = some c ∧
      c.tracks = true ∧ (c.turnsAway = true → r.phase ≠ .running)) :
    Inv config ((s.withRuntime r).tracked id request) := by
  have hmoved : ∀ {stage}, Sound config r.phase request stage (r.calls.lookup id) →
      Inv config ((s.withRuntime r).setCall id request stage) :=
    hs.moved hreserved hforeign hb hr
  have htracked := tracked_cases (s.withRuntime r) id request
  generalize (s.withRuntime r).tracked id request = t at htracked ⊢
  cases htracked with
  -- `None`: the gate answers with its refusal
  | turnedAway returned =>
    have hnone : r.calls.lookup id = none := returned
    rw [hnone] at hmoved hnext
    have hlate : r.phase ≠ .running := by
      rcases hnext with ⟨-, hlate⟩ | ⟨c, hc, -⟩
      · exact hlate
      · cases hc
    apply hmoved
    have hanswer : Sound config r.phase request
        (.answered .gate (protect config request (gateRefusal request.path))) none :=
      .answered (.gate hscreened hgated hlate)
    rw [← hs.configured] at hanswer ⊢
    exact hanswer
  | letIn guard =>
    have hguard : r.calls.lookup id = some .guard := guard
    rw [hguard] at hmoved
    exact hmoved (.handling hscreened hgated)
  -- counted, or giving its count back
  | @working c call noGuard =>
    have hc : r.calls.lookup id = some c := call
    rw [hc] at hmoved hnext
    rcases hnext with ⟨hnone, -⟩ | ⟨c', hc', htracks, hlate⟩
    · cases hnone
    · obtain rfl := Option.some.inj hc'
      exact hmoved (.tracking hscreened hgated htracks noGuard hlate)

/-- `finish_request` has moved. -/
theorem Inv.released {response : Option Response} (hs : Inv config s)
    (hreserved : Drain.stopCall < id) (hscreened : isCorsPreflight request = false)
    (hgated : shouldBypassShutdownGate request.path = false)
    (hr : s.runtime.step (.advance id) = some r)
    (hnext : r.calls.lookup id = none ∨
      ∃ c, r.calls.lookup id = some c ∧ c.finishes = true) :
    Inv config ((s.withRuntime r).released id request response) := by
  have hmoved : ∀ {stage}, Sound config r.phase request stage (r.calls.lookup id) →
      Inv config ((s.withRuntime r).setCall id request stage) :=
    hs.moved hreserved (isForeign_advance hreserved) rfl hr
  rcases hnext with hnone | ⟨c, hc, hfinishes⟩
  · rw [hnone] at hmoved
    unfold HttpServer.released
    rw [show (s.withRuntime r).runtime.calls.lookup id = none from hnone]
    cases response with
    | none => exact hmoved .dropped
    | some response =>
      apply hmoved
      have hanswer : Sound config r.phase request
          (.answered (.handler response) (protect config request response)) none :=
        .answered (.handler hscreened)
      rw [← hs.configured] at hanswer ⊢
      exact hanswer
  · rw [hc] at hmoved
    unfold HttpServer.released
    rw [show (s.withRuntime r).runtime.calls.lookup id = some c from hc]
    exact hmoved (.releasing hscreened hgated hfinishes)

/-- What the screening leads to is sound. -/
theorem Sound.screened {security : SecurityRuntime} {now : ℕ} :
    Sound security.config phase request (stageOf now (security.screen request)) none := by
  unfold SecurityRuntime.screen
  cases hpreflight : isCorsPreflight request with
  | true =>
    rw [if_pos rfl]
    exact .answered (.preflight hpreflight)
  | false =>
    rw [if_neg Bool.false_ne_true]
    split
    · next hlimited => exact .checking hpreflight hlimited
    · exact .passed hpreflight

/-- What the rest of the process does leaves the calls of the requests alone. -/
theorem Inv.processed (hs : Inv config s) {a : Drain.Server.Action} {server : Drain.Server}
    (hadmits : s.admits a = true) (h : s.server.step a = some server) :
    Inv config { s with server := server } := by
  have hserver := Drain.Server.inv_step hs.server h
  rcases Drain.Server.runtime_of_step hs.server h with hsame | ⟨b, hb, hown⟩
  · refine ⟨hserver, hs.configured, hs.reserved, fun id call hcall => ?_, fun id c hc => ?_⟩
    · show Sound config server.runtime.phase call.request call.stage
        (server.runtime.calls.lookup id)
      rw [hsame]
      exact hs.sound id call hcall
    · exact hs.owned id c (by rw [show s.runtime = server.runtime from hsame.symm]; exact hc)
  · -- no request's call, and none that becomes one
    have hother : ∀ id call, s.requests.lookup id = some call → id ≠ Drain.callId b := by
      rintro id call hcall rfl
      rcases hown with rfl | hown
      · have hfree := (Bool.and_eq_true _ _ ▸ hadmits).2
        rw [hcall] at hfree
        cases hfree
      · have hlt := hs.reserved _ call hcall
        have hle := hown.1
        omega
    have hasks : ∀ id, b ≠ .tryTrackRequest id := by
      rintro id rfl
      rcases hown with rfl | hown
      · exact absurd hadmits (by simp [admits, isOutside])
      · exact hown.2 id rfl
    refine ⟨hserver, hs.configured, hs.reserved, fun id call hcall => ?_,
      fun id c hc htracks => ?_⟩
    · exact (hs.sound id call hcall).elsewhere hb (hother id call hcall)
    · obtain ⟨c₀, hc₀, htracks₀⟩ := ShutdownRuntime.tracks_step hb hasks hc htracks
      exact hs.owned id c₀ hc₀ htracks₀

/-- Every step keeps the invariant. -/
theorem inv_step {a : Action} (hs : Inv config s) (h : s.step a = some t) : Inv config t := by
  have hsound : ∀ {id request stage}, s.requests.lookup id = some ⟨request, stage⟩ →
      Sound config s.runtime.phase request stage (s.runtime.calls.lookup id) :=
    fun hcall => hs.sound _ _ hcall
  cases move_of_step h with
  | @received id request reserved fresh free =>
    refine hs.setCall hs.configured reserved ?_
    rw [free]
    exact .received
  | @screened id now request call =>
    refine hs.setCall hs.configured (hs.reserved _ _ call) ?_
    have hreceived := hsound call
    generalize s.runtime.calls.lookup id = o at hreceived
    cases hreceived with
    | received =>
      rw [← hs.configured]
      exact .screened
  -- the limiter does not touch the runtime, so a request's call stays as it was
  | @refused id now request stage retryAfter limiter call checked =>
    refine hs.setCall hs.configured (hs.reserved _ _ call) ?_
    have hchecking := hsound call
    generalize s.runtime.calls.lookup id = o at hchecking
    cases hchecking with
    | checking screened limited =>
      rw [← hs.configured]
      exact .answered (.limiter screened limited)
  | @granted id now request stage limiter call checked =>
    refine hs.setCall hs.configured (hs.reserved _ _ call) ?_
    have hchecking := hsound call
    generalize s.runtime.calls.lookup id = o at hchecking
    cases hchecking with
    | checking screened limited =>
      cases stage with
      | global => exact .checking screened limited
      | subject => exact .passed screened
  | @bypassed id request call bypasses =>
    refine hs.setCall hs.configured (hs.reserved _ _ call) ?_
    have hpassed := hsound call
    generalize s.runtime.calls.lookup id = o at hpassed
    cases hpassed with
    | passed screened => exact .bypassing screened bypasses
  -- the first look at the phase
  | @asked id request r call gated moved =>
    have hreserved := hs.reserved _ _ call
    have hpassed := hsound call
    generalize s.runtime.calls.lookup id = o at hpassed
    cases hpassed with
    | passed screened =>
      apply hs.tracked hreserved screened gated (isForeign_tryTrackRequest hreserved) rfl moved
      obtain ⟨hphase, ⟨hnone, hlate⟩ | ⟨hc, -⟩⟩ := ShutdownRuntime.tryTrackRequest_first moved
      · exact .inl ⟨hnone, hphase ▸ hlate⟩
      · exact .inr ⟨_, hc, rfl, fun hturned => by cases hturned⟩
  -- the second look, and the way back of a request that is turned away
  | @asking id request r call moved =>
    have hreserved := hs.reserved _ _ call
    have htracking := hsound call
    obtain ⟨c, hc, hadvance⟩ := Option.bind_eq_some_iff.mp moved
    rw [hc] at htracking
    cases htracking with
    | tracking screened gated tracks waits late =>
      exact hs.tracked hreserved screened gated (isForeign_advance hreserved) rfl moved
        (ShutdownRuntime.tracking_next tracks waits late hadvance)
  | @responded id request response call =>
    refine hs.setCall hs.configured (hs.reserved _ _ call) ?_
    have hhandling := hsound call
    generalize s.runtime.calls.lookup id = o at hhandling
    cases hhandling with
    | bypassing screened bypasses =>
      have hanswer : Sound config s.runtime.phase request
          (.answered (.handler response) (protect config request response)) none :=
        .answered (.handler screened)
      rw [← hs.configured] at hanswer ⊢
      exact hanswer
  | @dropped id request call =>
    refine hs.setCall hs.configured (hs.reserved _ _ call) ?_
    have hhandling := hsound call
    generalize s.runtime.calls.lookup id = o at hhandling
    cases hhandling with
    | bypassing screened bypasses => exact .dropped
  -- the guard is dropped, which runs `finish_request`
  | @left id request response r a leaves call moved =>
    have hhandling := hsound call
    obtain ⟨c, hc, hadvance⟩ := Option.bind_eq_some_iff.mp moved
    rw [hc] at hhandling
    cases hhandling with
    | handling screened gated =>
      exact hs.released (hs.reserved _ _ call) screened gated moved
        (.inr (ShutdownRuntime.guard_next hadvance).2)
  | @finished id request response r call moved =>
    have hreleasing := hsound call
    obtain ⟨c, hc, hadvance⟩ := Option.bind_eq_some_iff.mp moved
    rw [hc] at hreleasing
    cases hreleasing with
    | releasing screened gated finishes =>
      exact hs.released (hs.reserved _ _ call) screened gated moved
        (ShutdownRuntime.finish_next finishes hadvance).2
  | processed admitted moved => exact hs.processed admitted moved

/-! ## Handlers and guards -/

/-- A guard is a handler at work. -/
theorem Inv.guards_eq (hs : Inv config s) : s.runtime.guards = s.handled := by
  have hguards : s.runtime.guards =
      s.runtime.calls.total fun _ c => if decide (c = .guard) then 1 else 0 := by
    simp only [ShutdownRuntime.guards, decide_eq_true_eq]
  rw [hguards, handled]
  -- both sides count keys, so it is enough that the keys are the same
  apply AList.total_ite_eq
  intro id
  constructor
  · rintro ⟨c, hc, hguard⟩
    obtain rfl := of_decide_eq_true hguard
    obtain ⟨call, hcall⟩ := Option.isSome_iff_exists.mp (hs.owned id .guard hc rfl)
    refine ⟨call, hcall, ?_⟩
    have hsound := hs.sound id call hcall
    rw [hc] at hsound
    generalize call.stage = stage at hsound
    cases hsound with
    | tracking _ _ _ waits => exact absurd rfl waits
    | handling => rfl
    | releasing _ _ finishes => cases finishes
  · rintro ⟨call, hcall, htracked⟩
    have hsound := hs.sound id call hcall
    rw [show call.stage = .handling true from of_decide_eq_true htracked] at hsound
    refine ⟨.guard, ?_, rfl⟩
    generalize s.runtime.calls.lookup id = o at hsound
    cases hsound
    rfl

/-- The runtime makes at most one step. -/
theorem runtime_of_step {a : Action} (hs : Inv config s) (h : s.step a = some t) :
    t.runtime = s.runtime ∨ ∃ b, s.runtime.step b = some t.runtime := by
  have htracked : ∀ (u : HttpServer) id request, (u.tracked id request).runtime = u.runtime := by
    intro u id request
    unfold HttpServer.tracked
    split <;> rfl
  have hreleased : ∀ (u : HttpServer) id request response,
      (u.released id request response).runtime = u.runtime := by
    intro u id request response
    unfold HttpServer.released
    split <;> rfl
  cases move_of_step h with
  | received | screened | refused | granted | bypassed | responded | dropped => exact .inl rfl
  | asked _ _ moved => exact .inr ⟨_, by rw [htracked]; exact moved⟩
  | asking _ moved => exact .inr ⟨_, by rw [htracked]; exact moved⟩
  | left _ _ moved => exact .inr ⟨_, by rw [hreleased]; exact moved⟩
  | finished _ moved => exact .inr ⟨_, by rw [hreleased]; exact moved⟩
  | processed _ moved =>
    rcases Drain.Server.runtime_of_step hs.server moved with hsame | ⟨b, hb, -⟩
    · exact .inl hsame
    · exact .inr ⟨b, hb⟩

/-- Once no request is let in, none ever is. -/
theorem closed_step {a : Action} (hs : Inv config s) (hclosed : s.runtime.Closed)
    (h : s.step a = some t) : t.runtime.Closed := by
  rcases runtime_of_step hs h with hsame | ⟨b, hb⟩
  · rw [hsame]
    exact hclosed
  · exact ShutdownRuntime.closed_step hclosed hb

/-- The shutdown has begun, and no handler has seen the request, unless it goes around the
gate. -/
def Late (id : ℕ) (s : HttpServer) : Prop :=
  s.runtime.phase ≠ .running ∧ ∀ j call, s.requests.lookup j = some call → j = id →
    shouldBypassShutdownGate call.request.path = false → call.stage.isUnhandled = true

/-- A request that the runtime has answered goes on, past the limiter as it was. -/
theorem tracked_goesOn (s : HttpServer) (r : ShutdownRuntime) (id : ℕ) (request : HttpRequest) :
    ∃ stage, ((s.withRuntime r).tracked id request).requests =
        s.requests.insert id ⟨request, stage⟩ ∧ stage.isAdmitted = true ∧
      ((s.withRuntime r).tracked id request).security = s.security := by
  unfold HttpServer.tracked
  split <;> exact ⟨_, rfl, rfl, rfl⟩

/-- A request whose guard is released is past the gate. -/
theorem released_goesOn (s : HttpServer) (r : ShutdownRuntime) (id : ℕ)
    (request : HttpRequest) (response : Option Response) :
    ∃ stage, ((s.withRuntime r).released id request response).requests =
        s.requests.insert id ⟨request, stage⟩ ∧ stage.isAdmitted = true ∧
      ((s.withRuntime r).released id request response).security = s.security := by
  unfold HttpServer.released
  split <;> exact ⟨_, rfl, rfl, rfl⟩

/-- A late request stays late. -/
theorem late_step {a : Action} (hs : Inv config s) (hlate : Late id s) (h : s.step a = some t) :
    Late id t := by
  have hphase : t.runtime.phase ≠ .running := by
    rcases runtime_of_step hs h with hsame | ⟨b, hb⟩
    · rw [hsame]
      exact hlate.1
    · exact ShutdownRuntime.phase_ne_running hlate.1 hb
  refine ⟨hphase, ?_⟩
  -- a request that moves on has not been with a handler before
  have hinsert : ∀ {j : ℕ} {request : HttpRequest} {stage : RequestStage},
      (j = id → shouldBypassShutdownGate request.path = false → stage.isUnhandled = true) →
      ∀ k call, (s.requests.insert j ⟨request, stage⟩).lookup k = some call → k = id →
        shouldBypassShutdownGate call.request.path = false → call.stage.isUnhandled = true :=
    fun hnew => AList.forall_lookup_insert hnew fun k call _ => hlate.2 k call
  have hseen : ∀ {j : ℕ} {request : HttpRequest} {stage : RequestStage},
      s.requests.lookup j = some ⟨request, stage⟩ → stage.isUnhandled = false → j = id →
      shouldBypassShutdownGate request.path = false → False := by
    intro j request stage hcall hstage hj hgated
    have hunhandled := hlate.2 j _ hcall hj hgated
    rw [show stage.isUnhandled = true from hunhandled] at hstage
    cases hstage
  cases move_of_step h with
  | received => exact hinsert fun _ _ => rfl
  | @screened j now request call =>
    refine hinsert fun _ _ => ?_
    cases s.security.screen request <;> rfl
  | refused => exact hinsert fun _ _ => rfl
  | @granted j now request stage =>
    refine hinsert fun _ _ => ?_
    cases stage <;> rfl
  | bypassed call bypasses =>
    refine hinsert fun _ hgated => ?_
    rw [bypasses] at hgated
    cases hgated
  | @asked j request r call gated moved =>
    -- the first look at the phase
    obtain ⟨-, ⟨hnone, -⟩ | ⟨-, hrunning⟩⟩ := ShutdownRuntime.tryTrackRequest_first moved
    · have htracked := tracked_cases (s.withRuntime r) j request
      generalize (s.withRuntime r).tracked j request = u at htracked ⊢
      cases htracked with
      | turnedAway | working => exact hinsert fun _ _ => rfl
      | letIn guard => cases hnone.symm.trans guard
    · exact absurd hrunning hlate.1
  | @asking j request r call moved =>
    -- the second look at the phase, after the request has been counted
    have htracking := hs.sound _ _ call
    obtain ⟨c, hc, hadvance⟩ := Option.bind_eq_some_iff.mp moved
    rw [hc] at htracking
    cases htracking with
    | tracking screened gated tracks waits late =>
      have hrefused := ShutdownRuntime.tracking_refused tracks waits hlate.1 hadvance
      have htracked := tracked_cases (s.withRuntime r) j request
      generalize (s.withRuntime r).tracked j request = u at htracked ⊢
      cases htracked with
      | turnedAway | working => exact hinsert fun _ _ => rfl
      | letIn guard => exact absurd guard hrefused
  | responded call => exact hinsert fun hj hgated => (hseen call rfl hj hgated).elim
  | dropped call => exact hinsert fun hj hgated => (hseen call rfl hj hgated).elim
  | @left j request response r a leaves call moved =>
    obtain ⟨stage, hrequests, -⟩ := s.released_goesOn r j request response
    rw [hrequests]
    exact hinsert fun hj hgated => (hseen call rfl hj hgated).elim
  | @finished j request response r call moved =>
    obtain ⟨stage, hrequests, -⟩ := s.released_goesOn r j request response
    rw [hrequests]
    exact hinsert fun hj hgated => (hseen call rfl hj hgated).elim
  | processed => exact hlate.2

/-! ## Runs -/

variable {now drainTimeout : ℕ} {as : List Action}

/-- The invariant holds in every state of a run. -/
theorem inv_run (h : run step (new config now drainTimeout) as = some s) : Inv config s :=
  invariant (I := Inv config) (fun _ _ _ => inv_step) h (inv_new now drainTimeout)

/-- A request without credentials. -/
def plainRequest : HttpRequest :=
  { method := .get, path := "/status", authorization := none, forwardedFor := none, peer := none,
    origin := none, requestsMethod := false }

/-- A response without headers. -/
def plainResponse : Response := ⟨404, .empty, none⟩

/-- A request is with its handler when the shutdown begins, and the drain waits for it. -/
def drainedRequest : List Action :=
  [.receive 3 plainRequest, .secure 3 0, .gate 3, .gate 3, .gate 3,
    .process .pollStart, .process .pollStart, .process .pollStart,
    .process (.runtime (.beginShutdown 4)), .process (.runtime (.advance 4)),
    .process .pollStart, .process .pollStart, .process .pollZero, .process .pollZero,
    .process .pollZero, .respond 3 plainResponse, .release 3, .release 3, .process .pollZero]

/-- A request that is in `try_track_request`, and counted, when the shutdown begins is turned
away by the second look at the phase. -/
example :
    ((run step (new .default 0 30) [.receive 3 plainRequest, .secure 3 0, .gate 3, .gate 3,
      .process (.runtime (.beginShutdown 4)), .gate 3, .gate 3, .gate 3, .gate 3]).bind fun s =>
        (s.requests.lookup 3).map HttpCall.stage) =
      some (.answered .gate (protect .default plainRequest (gateRefusal plainRequest.path))) := by
  decide

/-- An answer that is explained has the headers of its answerer. -/
theorem Explained.protected {answerer : Answerer} {response : Response}
    (h : Explained config phase request answerer response) :
    Protected config request (answerer.inner config request) response := by
  cases h with
  | preflight => exact protected_preflight config request
  | limiter | gate | handler => exact protected_protect config request _

/-- Every answer, whoever gives it, carries the security headers of its path, and grants the
request's origin exactly when that is an allowed one. A preflight is answered by the security
middleware and nobody else; the limiter turns away limited paths only, and the gate refuses
nobody before the shutdown has begun. -/
theorem answers_are_protected (h : run step (new config now drainTimeout) as = some s)
    {call : HttpCall} {answerer : Answerer} {response : Response}
    (hcall : s.requests.lookup id = some call) (hstage : call.stage = .answered answerer response) :
    Protected config call.request (answerer.inner config call.request) response ∧
    (answerer = .preflight ↔ isCorsPreflight call.request = true) ∧
    (∀ retryAfterSecs, answerer = .limiter retryAfterSecs →
      isRateLimitedPath call.request.path = true) ∧
    (answerer = .gate →
      shouldBypassShutdownGate call.request.path = false ∧ s.runtime.phase ≠ .running) := by
  have hsound := (inv_run h).sound id call hcall
  rw [hstage] at hsound
  generalize s.runtime.calls.lookup id = o at hsound
  cases hsound with
  | answered explained =>
    refine ⟨explained.protected, ?_⟩
    cases explained with
    | preflight asks => simp [asks]
    | limiter screened limited => simp [screened, limited]
    | gate screened gated late => simp [screened, gated, late]
    | handler screened => simp [screened]

/-- A request from an allowed origin comes too late. -/
def originRequest : HttpRequest :=
  { plainRequest with path := "/api/v1/openapi.json", origin := some (some "https://ui") }

/-- One origin is allowed. -/
def originConfig : RestSecurityConfig := { RestSecurityConfig.default with
  corsAllowedOrigins := ["https://ui"] }

/-- A request that arrives after the shutdown has begun. -/
def refusedRequest : List Action :=
  [.process (.runtime (.beginShutdown 4)), .receive 3 originRequest, .secure 3 0, .gate 3]

/-- It is refused by the gate, with all headers. -/
theorem answers_are_protected_refused :
    ∃ s response, run step (new originConfig 0 30) refusedRequest = some s ∧
      s.requests.lookup 3 = some ⟨originRequest, .answered .gate response⟩ ∧
      response.status = 503 ∧ response.headers.values "cache-control" = ["no-store"] ∧
      response.headers.values "access-control-allow-origin" = ["https://ui"] := by
  have hrun : ∃ s response, run step (new originConfig 0 30) refusedRequest = some s ∧
      s.requests.lookup 3 = some ⟨originRequest, .answered .gate response⟩ := ⟨_, _, rfl, rfl⟩
  rcases hrun with ⟨s, response, hs, hcall⟩
  obtain ⟨hprotected, -⟩ := answers_are_protected hs hcall rfl
  have howed : ("cache-control", "no-store") ∈
      securityHeaders originRequest.path originConfig.nativeTlsEnabled := by decide
  exact ⟨s, response, hs, hcall, hprotected.status, hprotected.secured _ _ howed,
    (hprotected.granted "https://ui" rfl).1⟩

end HttpServer
end Http
end GvmGateway
