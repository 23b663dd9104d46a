import GvmGateway.App.Gateway
import GvmGateway.Rest.AuthPolicy

/-!
# Request-scoped Basic auth

`request_scoped_basic_auth_middleware` of `crates/gvm-gateway-rest/src/security.rs`, on top of
the gateway. A Basic request logs in, runs its handler under the new session, and deletes the
session. The request is a future that whoever serves the connection may drop: it waits in two
places, for gvmd to authenticate and for the handler, since the adapter disconnects a session
without waiting.
-/

namespace GvmGateway.Rest

open SessionTokenDigest

/-! ## Credentials and responses -/

/-- `str::split_once`. -/
def splitOnce (value : String) (c : Char) : Option (String × String) :=
  match value.toList.dropWhile (· ≠ c) with
  | [] => none
  | _ :: rest => some (String.ofList (value.toList.takeWhile (· ≠ c)), String.ofList rest)

/-- `basic_credentials`; `decoded` is what Base64 and UTF-8 make of the text after the
scheme. -/
def basicCredentials (request : Request) (decoded : Except GatewayError String) :
    Except GatewayError (String × String) :=
  match isBasicAuth request with
  | none => .error (.unauthorized "expected Basic authentication")
  | some _ =>
    match decoded with
    | .error err => .error err
    | .ok text =>
      match splitOnce text ':' with
      | none => .error (.unauthorized "malformed Basic credentials")
      | some (username, password) =>
        if username = "" then .error (.unauthorized "username must not be empty")
        else .ok (username, password)

/-- `HeaderValue::from_str` accepts visible ASCII and tabs. -/
def isHeaderValue (value : String) : Bool :=
  value.toList.all fun c => (' ' ≤ c && c < '\x7f') || c == '\t'

/-- `StatusCode::is_success`. -/
def isSuccess (status : ℕ) : Bool := 200 ≤ status && status < 300

/-- What the middleware answers: the response of the handler, or an error of its own. -/
inductive BasicAnswer where
  | handler (status : ℕ)
  | error (err : GatewayError)
deriving DecidableEq, Repr

/-- The answer after `delete_session`. There is no response when the bearer header could not be
prepared. -/
def teardownAnswer (response : Option ℕ) (deleted : Except GatewayError Unit) : BasicAnswer :=
  match response with
  | none => .error (.backendUnavailable "failed to prepare request-scoped session")
  | some status =>
    match deleted with
    | .ok () => .handler status
    | .error err => if isSuccess status then .error err else .handler status

/-! ## Requests -/

/-- Where a Basic request stands, after a `create_draining_expired` that succeeded. -/
inductive BasicStage where
  /-- In `create_session`. -/
  | creating
  /-- In `next.run`. -/
  | handling
  /-- About to call `delete_session`. -/
  | leaving
  /-- In `delete_session`, which has removed the session. -/
  | deleting
  | answered (answer : BasicAnswer)
  /-- The client has gone, and the future was dropped. -/
  | dropped
deriving DecidableEq, Repr

/-- `response` is the status of the handler's response, `teardown` the `delete_session` call that
removed the session. -/
structure BasicRequest where
  token : String
  stage : BasicStage
  response : Option ℕ
  teardown : Option ℕ
deriving DecidableEq, Repr

namespace BasicRequest

def atStage (r : BasicRequest) (stage : BasicStage) : BasicRequest := { r with stage := stage }

/-- The request still runs, and has not deleted its session. -/
def inProgress (r : BasicRequest) : Bool :=
  r.stage = .creating || r.stage = .handling || r.stage = .leaving

end BasicRequest

/-- The gateway, and the Basic requests whose logins it has opened. -/
structure RestGateway (Digest : Type) where
  gateway : Gateway Digest
  basic : AList fun _ : ℕ => BasicRequest

namespace RestGateway

variable {Digest : Type} [DecidableEq Digest] [SessionTokenDigest Digest]

/-- A gateway without sessions or requests. -/
def new (Digest : Type) (now idleTimeoutSecs : ℕ) (limits : SessionLimits) (policy : JobPolicy) :
    RestGateway Digest :=
  { gateway := .new Digest now idleTimeoutSecs limits policy, basic := ∅ }

section Updates

omit [DecidableEq Digest] [SessionTokenDigest Digest]

def setGateway (s : RestGateway Digest) (g : Gateway Digest) : RestGateway Digest :=
  { s with gateway := g }

def setBasic (s : RestGateway Digest) (rid : ℕ) (r : BasicRequest) : RestGateway Digest :=
  { s with basic := s.basic.insert rid r }

end Updates

/-- The login of a Basic request is dropped with the request only. -/
def ownsLogin (s : RestGateway Digest) : Gateway.Action Digest → Bool
  | .dropCreate token =>
    s.basic.entries.any fun e => decide ((fromToken e.2.token : Digest) = fromToken token)
  | _ => false

/-- The middleware up to the first step of its `create_session`. Requests that it answers
there leave no trace. -/
def basicStart (s : RestGateway Digest) (rid : ℕ) (request : Request)
    (decoded : Except GatewayError String) (token : String) (order : List Digest) :
    Option (RestGateway Digest) :=
  if (s.basic.lookup rid).isSome then none
  else if usesRequestScopedBasicAuth request then
    match basicCredentials request decoded with
    | .error _ => some s
    | .ok (username, _) =>
      match s.gateway.createSession token username order with
      | none => none
      | some g =>
        if (g.creates.lookup (fromToken token)).isSome then
          some ((s.setGateway g).setBasic rid
            { token := token, stage := .creating, response := none, teardown := none })
        else some (s.setGateway g)
  else none

/-- `create_session` has returned, and the token becomes a bearer header. -/
def basicCreated (s : RestGateway Digest) (rid : ℕ) : Option (RestGateway Digest) :=
  match s.basic.lookup rid with
  | none => none
  | some r =>
    if r.stage = .creating then
      match s.gateway.creates.lookup (fromToken r.token) with
      | some .returned =>
        if isHeaderValue ("Bearer " ++ r.token) then some (s.setBasic rid (r.atStage .handling))
        else some (s.setBasic rid (r.atStage .leaving))
      | some (.failed err) => some (s.setBasic rid (r.atStage (.answered (.error err))))
      | _ => none
    else none

omit [DecidableEq Digest] [SessionTokenDigest Digest] in
/-- The handler has returned. -/
def basicResponse (s : RestGateway Digest) (rid status : ℕ) : Option (RestGateway Digest) :=
  match s.basic.lookup rid with
  | none => none
  | some r =>
    if r.stage = .handling then
      some (s.setBasic rid { r with stage := .leaving, response := some status })
    else none

/-- The first step of the middleware's `delete_session`. -/
def basicDelete (s : RestGateway Digest) (rid id : ℕ) : Option (RestGateway Digest) :=
  match s.basic.lookup rid with
  | none => none
  | some r =>
    if r.stage = .leaving then
      match s.gateway.deleteSession id r.token with
      | none => none
      | some g =>
        if (s.gateway.sessions.get r.token).isSome then
          some ((s.setGateway g).setBasic rid { r with stage := .deleting, teardown := some id })
        else
          some ((s.setGateway g).setBasic rid (r.atStage (.answered
            (teardownAnswer r.response (.error (.notFound "session not found"))))))
    else none

omit [DecidableEq Digest] [SessionTokenDigest Digest] in
/-- `delete_session` has returned. -/
def basicAnswer (s : RestGateway Digest) (rid : ℕ) : Option (RestGateway Digest) :=
  match s.basic.lookup rid with
  | none => none
  | some r =>
    if r.stage = .deleting ∧
        ((r.teardown.bind s.gateway.deletes.lookup).map DeleteCall.stage) = some .returned then
      some (s.setBasic rid (r.atStage (.answered (teardownAnswer r.response (.ok ())))))
    else none

/-- The future of the request is dropped where it waits. -/
def basicDrop (s : RestGateway Digest) (rid : ℕ) : Option (RestGateway Digest) :=
  match s.basic.lookup rid with
  | none => none
  | some r =>
    match r.stage with
    | .creating =>
      (s.gateway.dropCreate r.token).map fun g =>
        (s.setGateway g).setBasic rid (r.atStage .dropped)
    | .handling => some (s.setBasic rid (r.atStage .dropped))
    | _ => none

/-! ## Steps -/

/-- What can happen next. `gateway` is a step of a login, a Bearer request, a handler, the
reaper or a worker, and the later steps of the calls that Basic requests make. -/
inductive Action (Digest : Type) where
  | gateway (a : Gateway.Action Digest)
  | basicStart (rid : ℕ) (request : Request) (decoded : Except GatewayError String)
      (token : String) (order : List Digest)
  | basicCreated (rid : ℕ)
  | basicResponse (rid status : ℕ)
  | basicDelete (rid id : ℕ)
  | basicAnswer (rid : ℕ)
  | basicDrop (rid : ℕ)

/-- One step of the gateway or of a request. -/
def step (s : RestGateway Digest) : Action Digest → Option (RestGateway Digest)
  | .gateway a => if s.ownsLogin a then none else (s.gateway.step a).map s.setGateway
  | .basicStart rid request decoded token order => s.basicStart rid request decoded token order
  | .basicCreated rid => s.basicCreated rid
  | .basicResponse rid status => s.basicResponse rid status
  | .basicDelete rid id => s.basicDelete rid id
  | .basicAnswer rid => s.basicAnswer rid
  | .basicDrop rid => s.basicDrop rid

end RestGateway
end GvmGateway.Rest
