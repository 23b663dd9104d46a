import GvmGateway.Rest.Security
import GvmGateway.Server.Drain

/-!
# Requests through the middleware, until the drain

The layers of `build_router_with_runtime_and_security` around a handler: the security
middleware, then the shutdown gate, whose `InFlightRequest` a request holds while the layers
inside (tracing, request-scoped Basic auth, routes) work on it. Any number of requests go
through at once, beside `serve_with_drain` and the task that begins the shutdown on a signal;
what the inner layers answer, and when, is left open.
-/

namespace GvmGateway

open Shutdown TransitionSystem Rest

namespace Http

/-- Who has answered a request. -/
inductive Answerer where
  | preflight
  | limiter (retryAfterSecs : ℕ)
  | gate
  | handler (response : Response)
deriving DecidableEq, Repr

/-- What the answer is made of. -/
def Answerer.inner (config : RestSecurityConfig) (request : HttpRequest) : Answerer → Response
  | .preflight => preflightInner config request
  | .limiter retryAfterSecs => tooManyRequestsResponse request.path retryAfterSecs
  | .gate => gateRefusal request.path
  | .handler response => response

/-- Where a request stands. -/
inductive RequestStage where
  | received
  /-- In `check_request`, which has read the clock and has this stage before it. -/
  | checking (now : ℕ) (stage : CheckStage)
  /-- Past the security middleware, before the shutdown gate. -/
  | passed
  /-- In `try_track_request`. -/
  | tracking
  /-- In the layers inside the gate; a tracked one holds an `InFlightRequest`. -/
  | handling (tracked : Bool)
  /-- In `finish_request`, with the response of the handler; `none` when the future of the
  request has been dropped. -/
  | releasing (response : Option Response)
  | answered (answerer : Answerer) (response : Response)
  | dropped
deriving DecidableEq, Repr

namespace RequestStage

/-- It holds an `InFlightRequest`. -/
def isTracked (stage : RequestStage) : Bool := stage = .handling true

/-- No handler has seen the request: it is not past the gate, or somebody else has answered. -/
def isUnhandled : RequestStage → Bool
  | .received | .checking _ _ | .passed | .tracking => true
  | .answered (.handler _) _ => false
  | .answered _ _ => true
  | _ => false

/-- The request has got past the limiter. -/
def isAdmitted : RequestStage → Bool
  | .received | .checking _ _ | .answered .preflight _ | .answered (.limiter _) _ => false
  | _ => true

/-- Where a request goes that a stage of `check_request` lets through. -/
def afterCheck (now : ℕ) : CheckStage → RequestStage
  | .global => .checking now .subject
  | .subject => .passed

end RequestStage

/-- A request, and where it stands. -/
structure HttpCall where
  request : HttpRequest
  stage : RequestStage
deriving DecidableEq, Repr

/-- The process, its middleware and the requests that it has received. -/
structure HttpServer where
  server : Drain.Server
  security : SecurityRuntime
  requests : AList fun _ : ℕ => HttpCall

/-- What the rest of the process does with the runtime: a signal begins the shutdown, and the
graceful shutdown of the HTTP server waits for its start. Nobody but the gate tracks requests. -/
def isOutside : ShutdownRuntime.Action → Bool
  | .beginShutdown _ | .waitForShutdownStart _ | .advance _ | .dropWaiter _ => true
  | _ => false

namespace HttpServer

/-- A server without requests. -/
def new (config : RestSecurityConfig) (now drainTimeout : ℕ) : HttpServer :=
  { server := .new now drainTimeout, security := .new config, requests := ∅ }

/-- The shutdown state. -/
def runtime (s : HttpServer) : ShutdownRuntime := s.server.runtime

def setCall (s : HttpServer) (id : ℕ) (request : HttpRequest) (stage : RequestStage) :
    HttpServer :=
  { s with requests := s.requests.insert id ⟨request, stage⟩ }

def withRuntime (s : HttpServer) (r : ShutdownRuntime) : HttpServer :=
  { s with server := s.server.withRuntime r }

/-- A request arrives. -/
def receive (s : HttpServer) (id : ℕ) (request : HttpRequest) : Option HttpServer :=
  if Drain.stopCall < id ∧ s.requests.lookup id = none ∧ s.runtime.calls.lookup id = none then
    some (s.setCall id request .received)
  else none

/-- What is done with a response that reaches the security middleware. -/
def answer (s : HttpServer) (id : ℕ) (request : HttpRequest) (answerer : Answerer) : HttpServer :=
  s.setCall id request (.answered answerer
    (protect s.security.config request (answerer.inner s.security.config request)))

/-- `security_middleware` up to its `next.run`, or up to the lock of `check_request`, which has
read `now` from the system clock. -/
def secure (s : HttpServer) (id now : ℕ) : Option HttpServer :=
  (s.requests.lookup id).bind fun call =>
    match call.stage with
    | .received =>
      match s.security.screen call.request with
      | .preflight response => some (s.setCall id call.request (.answered .preflight response))
      | .limited => some (s.setCall id call.request (.checking now .global))
      | .passed => some (s.setCall id call.request .passed)
    | _ => none

def withLimiter (s : HttpServer) (limiter : RateLimiter) : HttpServer :=
  { s with security := ⟨s.security.config, limiter⟩ }

/-- One stage of `check_request`. Other requests may have asked the limiter since this one has
read the clock. -/
def check (s : HttpServer) (id : ℕ) : Option HttpServer :=
  (s.requests.lookup id).bind fun call =>
    match call.stage with
    | .checking now stage =>
      match s.security.limiter.checkStage call.request.toRequest now stage with
      | (some retryAfter, limiter) =>
        some ((s.withLimiter limiter).answer id call.request (.limiter retryAfter))
      | (none, limiter) =>
        some ((s.withLimiter limiter).setCall id call.request (.afterCheck now stage))
    | _ => none

/-- What `try_track_request` has come to. -/
def tracked (s : HttpServer) (id : ℕ) (request : HttpRequest) : HttpServer :=
  match s.runtime.calls.lookup id with
  | none => s.answer id request .gate
  | some .guard => s.setCall id request (.handling true)
  | some _ => s.setCall id request .tracking

/-- `shutdown_gate_middleware` up to its `next.run`. -/
def gate (s : HttpServer) (id : ℕ) : Option HttpServer :=
  (s.requests.lookup id).bind fun call =>
    match call.stage with
    | .passed =>
      if shouldBypassShutdownGate call.request.path then
        some (s.setCall id call.request (.handling false))
      else
        (s.runtime.step (.tryTrackRequest id)).map fun r =>
          (s.withRuntime r).tracked id call.request
    | .tracking =>
      (s.runtime.step (.advance id)).map fun r => (s.withRuntime r).tracked id call.request
    | _ => none

/-- What `finish_request` has come to. -/
def released (s : HttpServer) (id : ℕ) (request : HttpRequest) (response : Option Response) :
    HttpServer :=
  match s.runtime.calls.lookup id, response with
  | some _, _ => s.setCall id request (.releasing response)
  | none, some response => s.answer id request (.handler response)
  | none, none => s.setCall id request .dropped

/-- The inner layers return a response, or the future of the request is dropped while they
work; the `InFlightRequest` is dropped with it. -/
def leaveHandler (s : HttpServer) (id : ℕ) (response : Option Response) : Option HttpServer :=
  (s.requests.lookup id).bind fun call =>
    match call.stage with
    | .handling false =>
      match response with
      | some response => some (s.answer id call.request (.handler response))
      | none => some (s.setCall id call.request .dropped)
    | .handling true =>
      (s.runtime.step (.advance id)).map fun r =>
        (s.withRuntime r).released id call.request response
    | _ => none

/-- The next step of `finish_request`. -/
def release (s : HttpServer) (id : ℕ) : Option HttpServer :=
  (s.requests.lookup id).bind fun call =>
    match call.stage with
    | .releasing response =>
      (s.runtime.step (.advance id)).map fun r =>
        (s.withRuntime r).released id call.request response
    | _ => none

/-- The steps of the rest of the process. -/
def admits (s : HttpServer) : Drain.Server.Action → Bool
  | .runtime b => isOutside b && (s.requests.lookup (Drain.callId b)).isNone
  | _ => true

/-- What can happen next. -/
inductive Action where
  | receive (id : ℕ) (request : HttpRequest)
  | secure (id now : ℕ)
  | check (id : ℕ)
  | gate (id : ℕ)
  | respond (id : ℕ) (response : Response)
  | drop (id : ℕ)
  | release (id : ℕ)
  | process (a : Drain.Server.Action)
deriving DecidableEq, Repr

/-- One step of a request or of the process. -/
def step (s : HttpServer) : Action → Option HttpServer
  | .receive id request => s.receive id request
  | .secure id now => s.secure id now
  | .check id => s.check id
  | .gate id => s.gate id
  | .respond id response => s.leaveHandler id (some response)
  | .drop id => s.leaveHandler id none
  | .release id => s.release id
  | .process a =>
    if s.admits a then (s.server.step a).map fun server => { s with server := server } else none

/-- The handlers at work that a drain has to wait for. -/
def handled (s : HttpServer) : ℕ :=
  s.requests.total fun _ call => if call.stage.isTracked then 1 else 0

end HttpServer
end Http
end GvmGateway
