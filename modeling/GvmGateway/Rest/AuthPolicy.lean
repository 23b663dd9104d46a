import GvmGateway.Rest.PeerAddr

/-!
# Requests and their auth policy

What the REST middleware reads of an HTTP request, and the route classification of
`crates/gvm-gateway-rest/src/auth_policy.rs`. A header field holds the text of the header's
first value, `none` when the header is missing or its value is not visible ASCII: the
middleware treats the two alike everywhere.
-/

namespace GvmGateway.Rest

/-- `str::strip_prefix`. -/
def stripPrefix (value pattern : String) : Option String :=
  if pattern.toList.isPrefixOf value.toList then
    some (String.ofList (value.toList.drop pattern.length))
  else none

/-- `str::starts_with`. -/
def startsWith (value pattern : String) : Bool := pattern.toList.isPrefixOf value.toList

/-- The methods that the routes tell apart. -/
inductive Method where
  | options
  | get
  | post
  | put
  | delete
  | head
  | trace
  | connect
  | patch
  | extension (name : String)
deriving DecidableEq, Repr

/-- What the policies and the limiter read of a request. -/
structure Request where
  method : Method
  path : String
  authorization : Option String
  forwardedFor : Option String
  peer : Option ClientPeerAddr
deriving DecidableEq, Repr

/-- Auth policy for a REST route. -/
inductive RestRouteAuthPolicy where
  | publicRoute
  | sessionCreate
  | sessionCurrent
  | protectedRoute
deriving DecidableEq, Repr

/-- Classifies a runtime REST path into its auth policy bucket. -/
def classifyRuntimeRoute (method : Method) (path : String) : Option RestRouteAuthPolicy :=
  if path = "/health" ∨ path = "/ready" then some .publicRoute
  else if path = "/api/v1/version" ∨ path = "/api/v1/openapi.json" ∨ path = "/api/v1/docs" ∨
      path = "/api/v1/docs/redoc.standalone.js" then some .publicRoute
  else if path = "/api/v1/session" ∧ method = .post then some .sessionCreate
  else if path = "/api/v1/session" then some .sessionCurrent
  else if startsWith path "/api/v1/" then some .protectedRoute
  else none

/-- The credentials of a request whose `Authorization` scheme is Basic. -/
def isBasicAuth (request : Request) : Option String :=
  request.authorization.bind fun value => stripPrefix value "Basic "

/-- `uses_request_scoped_basic_auth`. -/
def usesRequestScopedBasicAuth (request : Request) : Bool :=
  (isBasicAuth request).isSome &&
    classifyRuntimeRoute request.method request.path == some .protectedRoute

theorem classify_protected {method : Method} {path : String}
    (h : classifyRuntimeRoute method path = some .protectedRoute) :
    startsWith path "/api/v1/" = true ∧ path ≠ "/api/v1/session" ∧
      path ≠ "/api/v1/openapi.json" := by
  unfold classifyRuntimeRoute at h
  split_ifs at h with hhealth hpublic hpost hsession hstarts
  · cases h
  · cases h
  · cases h
  · cases h
  · exact ⟨hstarts, hsession, fun heq => hpublic (.inr (.inl heq))⟩

end GvmGateway.Rest
