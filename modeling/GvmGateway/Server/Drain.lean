import GvmGateway.Rest.ShutdownStart

/-!
# Serving until the drain is over

`serve_with_drain` runs the HTTP server until it ends or a shutdown begins, waits for the
requests in flight no longer than the drain timeout, and marks the runtime as stopped. Its
steps interleave with those of every other user of the `ShutdownRuntime`. The server itself
comes from a package; it may end, with or without an error, whenever it is polled.
-/

namespace GvmGateway

open Shutdown TransitionSystem

namespace Drain

/-- How `serve_with_drain` came to its `mark_stopped`. -/
inductive Ending where
  /-- The server ended before any shutdown. -/
  | served
  /-- The graceful drain completed. -/
  | drained
  /-- The timeout of the drain that began at `since` elapsed. -/
  | timedOut (since : ℕ)
deriving DecidableEq, Repr

/-- Where `serve_with_drain` stands. -/
inductive ServeStage where
  /-- The `select!` is not yet polled. -/
  | entering
  /-- In the `select!`, with the future of `wait_for_shutdown_start`. -/
  | serving
  /-- In the drain that began at `since`, before or in `wait_for_zero_in_flight`. -/
  | draining (since : ℕ)
  /-- In the drain, awaiting the server. -/
  | closing (since : ℕ)
  /-- About to call `mark_stopped`. -/
  | stopping (ending : Ending)
  /-- In `mark_stopped`. -/
  | marking (ending : Ending)
  | returned (ending : Ending)
  /-- The error of the server was returned. -/
  | failed
deriving DecidableEq, Repr

namespace ServeStage

/-- The drain has seen that nothing is in flight. -/
def sawZero : ServeStage → Bool
  | .closing _ | .stopping .drained | .marking .drained | .returned .drained => true
  | _ => false

/-- The drain has begun, and is not over. -/
def isDraining : ServeStage → Bool
  | .draining _ | .closing _ => true
  | _ => false

/-- `mark_stopped` has stored the phase. -/
def isMarked : ServeStage → Bool
  | .marking _ | .returned _ => true
  | _ => false

/-- The start of a drain that was given up. -/
def gaveUp : ServeStage → Option ℕ
  | .stopping (.timedOut since) | .marking (.timedOut since) | .returned (.timedOut since) =>
    some since
  | _ => none

end ServeStage

/-- The calls of `serve_with_drain` on the runtime, under the identifiers that it keeps to
itself. -/
def startCall : ℕ := 0

def zeroCall : ℕ := 1

def stopCall : ℕ := 2

/-- The call that an action of the runtime is about. -/
def callId : ShutdownRuntime.Action → ℕ
  | .tryTrackRequest id | .beginShutdown id | .markStopped id | .waitForZeroInFlight id
  | .waitForShutdownStart id | .advance id | .dropWaiter id => id

/-- The others track requests and begin the shutdown; nobody else marks the runtime as
stopped. -/
def isForeign (a : ShutdownRuntime.Action) : Bool :=
  stopCall < callId a && match a with
    | .markStopped _ => false
    | _ => true

/-- The runtime, the clock, and the `serve_with_drain` of the process. -/
structure Server where
  runtime : ShutdownRuntime
  now : ℕ
  drainTimeout : ℕ
  stage : ServeStage

namespace Server

/-- The process at its start. -/
def new (now drainTimeout : ℕ) : Server :=
  { runtime := .new, now := now, drainTimeout := drainTimeout, stage := .entering }

def atStage (s : Server) (stage : ServeStage) : Server := { s with stage := stage }

def withRuntime (s : Server) (r : ShutdownRuntime) : Server := { s with runtime := r }

/-- The future of a call is dropped, if it is still there. -/
def dropCall (s : Server) (id : ℕ) : Server := s.withRuntime (s.runtime.leave id)

/-- The `select!` looks whether `wait_for_shutdown_start` has returned. -/
def started (s : Server) : Server :=
  match s.runtime.calls.lookup startCall with
  | some _ => s.atStage .serving
  | none => s.atStage (.draining s.now)

/-- `wait_for_shutdown_start` is polled. -/
def pollStart (s : Server) : Option Server :=
  match s.stage with
  | .entering =>
    (s.runtime.step (.waitForShutdownStart startCall)).map fun r => (s.withRuntime r).started
  | .serving => (s.runtime.step (.advance startCall)).map fun r => (s.withRuntime r).started
  | _ => none

/-- The drain looks whether `wait_for_zero_in_flight` has returned. -/
def emptied (s : Server) (since : ℕ) : Server :=
  match s.runtime.calls.lookup zeroCall with
  | some _ => s
  | none => s.atStage (.closing since)

/-- `wait_for_zero_in_flight` is called, or polled. -/
def pollZero (s : Server) : Option Server :=
  match s.stage, s.runtime.calls.lookup zeroCall with
  | .draining _, none =>
    (s.runtime.step (.waitForZeroInFlight zeroCall)).map s.withRuntime
  | .draining since, some _ =>
    (s.runtime.step (.advance zeroCall)).map fun r => (s.withRuntime r).emptied since
  | _, _ => none

/-- The server ends; the futures that the `select!` holds are dropped. -/
def serverEnds (s : Server) (ok : Bool) : Option Server :=
  match s.stage with
  | .entering | .serving =>
    some ((s.dropCall startCall).atStage (if ok then .stopping .served else .failed))
  | .closing _ => some (s.atStage (if ok then .stopping .drained else .failed))
  | _ => none

/-- The drain timeout elapses. -/
def elapse (s : Server) : Option Server :=
  match s.stage with
  | .draining since | .closing since =>
    if since + s.drainTimeout ≤ s.now then
      some ((s.dropCall zeroCall).atStage (.stopping (.timedOut since)))
    else none
  | _ => none

/-- `mark_stopped` returns when it has made its last step. -/
def marked (s : Server) (ending : Ending) : Server :=
  match s.runtime.calls.lookup stopCall with
  | some _ => s.atStage (.marking ending)
  | none => s.atStage (.returned ending)

/-- The next step of `mark_stopped`. -/
def stop (s : Server) : Option Server :=
  match s.stage with
  | .stopping ending =>
    (s.runtime.step (.markStopped stopCall)).map fun r => (s.withRuntime r).marked ending
  | .marking ending =>
    (s.runtime.step (.advance stopCall)).map fun r => (s.withRuntime r).marked ending
  | _ => none

/-- What can happen next. -/
inductive Action where
  | tick (secs : ℕ)
  /-- A step of somebody else. -/
  | runtime (a : ShutdownRuntime.Action)
  | pollStart
  | pollZero
  | serverEnds (ok : Bool)
  | elapse
  | stop
deriving DecidableEq, Repr

/-- One step of the process or of somebody else. -/
def step (s : Server) : Action → Option Server
  | .tick secs => some { s with now := s.now + secs }
  | .runtime a =>
    if isForeign a then (s.runtime.step a).map s.withRuntime else none
  | .pollStart => s.pollStart
  | .pollZero => s.pollZero
  | .serverEnds ok => s.serverEnds ok
  | .elapse => s.elapse
  | .stop => s.stop

end Server
end Drain
end GvmGateway
