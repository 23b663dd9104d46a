import GvmGateway.Library.FiniteMap
import GvmGateway.Library.TransitionSystem

/-!
# `ShutdownRuntime`: graceful shutdown of the REST gateway

The runtime is a phase (an atomic), a count of admitted requests (an atomic), a watch
channel that announces the phase, and a `Notify` that wakes the drain waiters. Every method
is a sequence of atomic steps over these, and any number of calls run at once: `calls` holds
the calls in progress, each at the point it has reached, and `step` lets one of them move.

The two primitives that are not the gateway's own are modelled by their documentation:

* `Notify::notify_waiters` wakes exactly the `Notified` futures that exist when it is called
  and stores no permit;
* `watch::Sender::send` fails, and leaves the value alone, when the channel has no receiver;
  a receiver made by `subscribe` has seen the current version, and `changed` waits for a
  later one.
-/

namespace GvmGateway
namespace Shutdown

/-! ## The runtime -/

/-- Lifecycle phase of the gateway process. -/
inductive ShutdownPhase where
  | running
  | draining
  | stopped
deriving DecidableEq, Repr

/-- The byte that `ShutdownRuntime::phase` stores for a phase. -/
def ShutdownPhase.toU8 : ShutdownPhase → ℕ
  | .running => 0
  | .draining => 1
  | .stopped => 2

/-- Where `try_track_request` stands, after its first look at the phase. -/
inductive TryTrackStage where
  /-- The phase was `Running`; the counter is not yet incremented. -/
  | checked
  /-- The counter is incremented; the phase is about to be read again. -/
  | counted
  /-- The second look found the gateway shutting down; `finish_request` is about to undo. -/
  | undoing
deriving DecidableEq, Repr

/-- Where `begin_shutdown` stands, after a successful exchange of the phase. -/
inductive BeginStage where
  | swapped
  | sent
  | notifying
deriving DecidableEq, Repr

/-- Where `mark_stopped` stands, after the store of the phase. -/
inductive StopStage where
  | stored
  | notifying
deriving DecidableEq, Repr

/-- Where `wait_for_zero_in_flight` stands. -/
inductive WaitZeroStage where
  /-- At the top of the loop, about to read the counter. -/
  | looping
  /-- The counter was not zero; the `Notified` future does not exist yet. -/
  | loaded
  /-- Awaiting the `Notified` future. -/
  | parked
deriving DecidableEq, Repr

/-- Where `wait_for_shutdown_start` stands; `seen` is the version its receiver has seen. -/
inductive WaitStartStage where
  | checked
  | subscribed (seen : ℕ)
  | awaiting (seen : ℕ)
deriving DecidableEq, Repr

/-- A call in progress, or an `InFlightRequest` guard that a request holds. -/
inductive Call where
  | tryTrack (stage : TryTrackStage)
  | guard
  /-- In `finish_request`, after the `fetch_sub` that returned `previous`. -/
  | finish (previous : ℕ)
  | finishNotifying
  | beginShutdown (stage : BeginStage)
  | markStopped (stage : StopStage)
  | waitZero (stage : WaitZeroStage)
  | waitStart (stage : WaitStartStage)
deriving DecidableEq, Repr

namespace Call

/-- Whether the call holds a receiver of the watch channel. -/
def hasReceiver : Call → Bool
  | .waitStart (.subscribed _) => true
  | .waitStart (.awaiting _) => true
  | _ => false

/-- What `notify_waiters` does to a call: a `Notified` future that exists is woken, and its
waiter goes back to the top of the loop. -/
def wake : Call → Call
  | .waitZero .parked => .waitZero .looping
  | c => c

/-- The calls that have incremented the counter and not yet given it back: the guards, and
the callers between their increment and their decision or undo. -/
def isCounted : Call → Bool
  | .guard => true
  | .tryTrack .counted => true
  | .tryTrack .undoing => true
  | _ => false

/-- The calls that may still reach a `notify_waiters`. A caller of `try_track_request` that
has passed the first check is one of them: it gives its increment back, and the last to do
so notifies. -/
def mayNotify : Call → Bool
  | .tryTrack _ => true
  | .guard => true
  -- only the last request to finish may wake the waiters
  | .finish previous => previous = 1
  | .finishNotifying => true
  | .beginShutdown _ => true
  | .markStopped _ => true
  | .waitZero _ => false
  | .waitStart _ => false

/-- The futures that wait, which their owner may drop. -/
def isWaiter : Call → Bool
  | .waitZero _ => true
  | .waitStart _ => true
  | _ => false

end Call

/-- The shared state, and the calls in progress under their identifiers. The counter is
unbounded: every guard holds an `Arc` of the runtime, whose own count aborts the process
long before a `usize` could wrap. -/
structure ShutdownRuntime where
  phase : ShutdownPhase
  inFlight : ℕ
  phaseTx : ShutdownPhase
  version : ℕ
  calls : AList fun _ : ℕ => Call

namespace ShutdownRuntime

/-- `ShutdownRuntime::new`. The receiver made with the channel is dropped at once. -/
def new : ShutdownRuntime :=
  { phase := .running, inFlight := 0, phaseTx := .running, version := 0, calls := ∅ }

/-- `is_shutting_down`. -/
def isShuttingDown (s : ShutdownRuntime) : Bool := s.phase ≠ .running

/-- The call moves to another point. -/
def moveTo (s : ShutdownRuntime) (id : ℕ) (c : Call) : ShutdownRuntime :=
  { s with calls := s.calls.insert id c }

/-- The call returns, or its future is dropped. -/
def leave (s : ShutdownRuntime) (id : ℕ) : ShutdownRuntime :=
  { s with calls := s.calls.erase id }

/-- `watch::Sender::send`. -/
def send (s : ShutdownRuntime) (phase : ShutdownPhase) : ShutdownRuntime :=
  if 0 < s.calls.total fun _ c => if c.hasReceiver then 1 else 0 then
    { s with phaseTx := phase, version := s.version + 1 }
  else s

/-- `Notify::notify_waiters`. -/
def notifyWaiters (s : ShutdownRuntime) : ShutdownRuntime :=
  { s with calls := s.calls.mapVal fun _ c => c.wake }

/-- The `fetch_sub` of `finish_request`. -/
def fetchSub (s : ShutdownRuntime) (id : ℕ) : ShutdownRuntime :=
  { s with inFlight := s.inFlight - 1, calls := s.calls.insert id (.finish s.inFlight) }

/-! ## Steps -/

/-- The next atomic step of a call, `none` while it has to wait. -/
def advance (s : ShutdownRuntime) (id : ℕ) : Call → Option ShutdownRuntime
  -- try_track_request
  | .tryTrack .checked =>
    some { s with inFlight := s.inFlight + 1, calls := s.calls.insert id (.tryTrack .counted) }
  | .tryTrack .counted =>
    if s.isShuttingDown then some (s.moveTo id (.tryTrack .undoing))
    else some (s.moveTo id .guard)
  | .tryTrack .undoing => some (s.fetchSub id)
  -- InFlightRequest::drop, and the rest of finish_request
  | .guard => some (s.fetchSub id)
  | .finish previous =>
    if previous = 1 ∧ s.isShuttingDown then some (s.moveTo id .finishNotifying)
    else some (s.leave id)
  | .finishNotifying => some (s.notifyWaiters.leave id)
  -- begin_shutdown
  | .beginShutdown .swapped => some ((s.send .draining).moveTo id (.beginShutdown .sent))
  | .beginShutdown .sent =>
    if s.inFlight = 0 then some (s.moveTo id (.beginShutdown .notifying))
    else some (s.leave id)
  | .beginShutdown .notifying => some (s.notifyWaiters.leave id)
  -- mark_stopped
  | .markStopped .stored => some ((s.send .stopped).moveTo id (.markStopped .notifying))
  | .markStopped .notifying => some (s.notifyWaiters.leave id)
  -- wait_for_zero_in_flight
  | .waitZero .looping =>
    if s.inFlight = 0 then some (s.leave id) else some (s.moveTo id (.waitZero .loaded))
  | .waitZero .loaded => some (s.moveTo id (.waitZero .parked))
  | .waitZero .parked => none
  -- wait_for_shutdown_start
  | .waitStart .checked => some (s.moveTo id (.waitStart (.subscribed s.version)))
  | .waitStart (.subscribed seen) =>
    if s.phaseTx ≠ .running then some (s.leave id)
    else some (s.moveTo id (.waitStart (.awaiting seen)))
  | .waitStart (.awaiting seen) =>
    if s.version ≠ seen then some (s.moveTo id (.waitStart (.subscribed s.version)))
    else none

/-- What can happen next: a new call makes its first step, a call in progress makes its next
one (a guard is dropped by its next step), or the future of a waiter is dropped. -/
inductive Action where
  | tryTrackRequest (id : ℕ)
  | beginShutdown (id : ℕ)
  | markStopped (id : ℕ)
  | waitForZeroInFlight (id : ℕ)
  | waitForShutdownStart (id : ℕ)
  | advance (id : ℕ)
  | dropWaiter (id : ℕ)
deriving DecidableEq, Repr

/-- The first step of a new call. -/
def start (s : ShutdownRuntime) (id : ℕ) (first : ShutdownRuntime) : Option ShutdownRuntime :=
  if (s.calls.lookup id).isNone then some first else none

def step (s : ShutdownRuntime) : Action → Option ShutdownRuntime
  | .tryTrackRequest id =>
    s.start id (if s.isShuttingDown then s else s.moveTo id (.tryTrack .checked))
  | .beginShutdown id =>
    -- the `compare_exchange`
    s.start id (if s.phase = .running then
      { s with phase := .draining, calls := s.calls.insert id (.beginShutdown .swapped) }
      else s)
  | .markStopped id =>
    s.start id { s with phase := .stopped, calls := s.calls.insert id (.markStopped .stored) }
  | .waitForZeroInFlight id => s.start id (s.moveTo id (.waitZero .looping))
  | .waitForShutdownStart id =>
    s.start id (if s.isShuttingDown then s else s.moveTo id (.waitStart .checked))
  | .advance id => (s.calls.lookup id).bind (s.advance id)
  | .dropWaiter id =>
    (s.calls.lookup id).bind fun c => if c.isWaiter then some (s.leave id) else none

/-! ## Guards and lost wake-ups -/

/-- The `InFlightRequest` guards that exist. -/
def guards (s : ShutdownRuntime) : ℕ :=
  s.calls.total fun _ c => if c = .guard then 1 else 0

/-- The callers between their increment and their decision or undo. -/
def undecided (s : ShutdownRuntime) : ℕ :=
  s.calls.total fun _ c => if c.isCounted ∧ c ≠ .guard then 1 else 0

/-- The gateway is draining, nothing is in flight, and no call is left that may wake a
waiter. -/
def Drained (s : ShutdownRuntime) : Prop :=
  s.phase = .draining ∧ s.inFlight = 0 ∧
    ∀ id c, s.calls.lookup id = some c → c.mayNotify = false

/-- A lost wake-up: the gateway is drained and a waiter sleeps on. -/
def LostWakeup (s : ShutdownRuntime) : Prop :=
  s.Drained ∧ ∃ id, s.calls.lookup id = some (.waitZero .parked)

/-- When the step creates a `Notified` future, the gateway is not already drained. -/
def RegistersInTime (s : ShutdownRuntime) (a : Action) : Prop :=
  ∀ id, a = .advance id → s.calls.lookup id = some (.waitZero .loaded) → ¬ s.Drained

end ShutdownRuntime
end Shutdown
end GvmGateway
