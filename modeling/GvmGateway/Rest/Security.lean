import GvmGateway.Rest.Problems
import GvmGateway.Rest.RateLimit

/-!
# The security middleware

`security_middleware` of `crates/gvm-gateway-rest/src/security.rs`, cut at its `next.run`, and
the answer of `shutdown_gate_middleware` (`router.rs`) to a request that comes too late.
-/

namespace GvmGateway.Rest

/-- REST security middleware configuration. -/
structure RestSecurityConfig where
  corsAllowedOrigins : List String
  rateLimit : RateLimitConfig
  trustedProxyCidrs : List TrustedProxyCidr
  nativeTlsEnabled : Bool

/-- The configuration used when none is given. -/
def RestSecurityConfig.default : RestSecurityConfig := ⟨[], .default, [], false⟩

/-- The configuration and the limiter of the middleware. -/
structure SecurityRuntime where
  config : RestSecurityConfig
  limiter : RateLimiter

/-- `SecurityRuntime::new`. -/
def SecurityRuntime.new (config : RestSecurityConfig) : SecurityRuntime where
  config := config
  limiter := .new config.rateLimit config.trustedProxyCidrs

/-- A request with its CORS headers. The value of an `Origin` header is its text when that is
visible ASCII. -/
structure HttpRequest extends Request where
  origin : Option (Option String)
  /-- There is an `Access-Control-Request-Method` header. -/
  requestsMethod : Bool
deriving DecidableEq, Repr

/-! ## CORS -/

/-- `is_cors_preflight`. -/
def isCorsPreflight (request : HttpRequest) : Bool :=
  request.method == .options && request.origin.isSome && request.requestsMethod

/-- The request's own origin, when it is one of those allowed. -/
def allowedOrigin (config : RestSecurityConfig) (request : HttpRequest) : Option String :=
  request.origin.join.filter fun origin => config.corsAllowedOrigins.contains origin

/-- `apply_cors_headers`. -/
def applyCorsHeaders (headers : HeaderMap) (config : RestSecurityConfig) (request : HttpRequest) :
    HeaderMap :=
  match allowedOrigin config request with
  | some origin =>
    (headers.insert "access-control-allow-origin" origin).insert "vary" "Origin"
  | none => headers

/-! ## Security headers -/

def docsPolicy : String :=
  "default-src 'none'; base-uri 'none'; script-src 'self'; connect-src 'self'; " ++
    "style-src 'unsafe-inline'; img-src data: https:; font-src data:; " ++
    "frame-ancestors 'none'; form-action 'none'"

/-- `apply_security_headers`. -/
def applySecurityHeaders (headers : HeaderMap) (path : String) (nativeTlsEnabled : Bool) :
    HeaderMap :=
  let headers := headers.insert "x-content-type-options" "nosniff"
  let headers := headers.insert "x-frame-options" "DENY"
  let headers := headers.insert "referrer-policy" "no-referrer"
  let headers :=
    if path = "/api/v1/docs" then headers.insert "content-security-policy" docsPolicy else headers
  let headers :=
    if startsWith path "/api/" then headers.insert "cache-control" "no-store" else headers
  if nativeTlsEnabled then
    headers.insert "strict-transport-security" "max-age=31536000; includeSubDomains"
  else headers

/-- What the middleware does to every response but that of a preflight. -/
def protect (config : RestSecurityConfig) (request : HttpRequest) (response : Response) :
    Response :=
  { response with
    headers := applyCorsHeaders
      (applySecurityHeaders response.headers request.path config.nativeTlsEnabled) config request }

/-! ## Before `next.run` -/

/-- `cors_preflight_response`. -/
def corsPreflightResponse (config : RestSecurityConfig) (request : HttpRequest) : Response :=
  match allowedOrigin config request with
  -- a refused preflight is answered with a problem
  | none =>
    let response := (RestError.fromGatewayError (.forbidden "CORS origin is not allowed")
      request.path).intoResponse
    { response with
      headers := applySecurityHeaders response.headers request.path config.nativeTlsEnabled }
  | some origin =>
    let headers := HeaderMap.empty.insert "access-control-allow-origin" origin
    let headers := headers.insert "vary" "Origin"
    let headers := headers.insert "access-control-allow-methods" "GET,POST,PUT,DELETE,OPTIONS"
    let headers := headers.insert "access-control-allow-headers"
      "Authorization,Content-Type,Traceparent,Tracestate,Baggage"
    let headers := headers.insert "access-control-max-age" "600"
    { status := 204
      headers := applySecurityHeaders headers request.path config.nativeTlsEnabled
      problem := none }

/-- `too_many_requests_response`. -/
def tooManyRequestsResponse (instance_ : String) (retryAfterSecs : ℕ) : Response :=
  let response := (RestError.fromGatewayError (.tooManyRequests
    ("rate limit exceeded; retry after " ++ toString retryAfterSecs ++ " seconds"))
    instance_).intoResponse
  { response with headers := response.headers.insert "retry-after" (toString retryAfterSecs) }

/-- What the middleware does with a request before the limiter is asked. -/
inductive Screening where
  | preflight (response : Response)
  /-- It calls `check_request`. -/
  | limited
  /-- It calls `next.run`. -/
  | passed
deriving DecidableEq, Repr

def SecurityRuntime.screen (security : SecurityRuntime) (request : HttpRequest) : Screening :=
  if isCorsPreflight request then .preflight (corsPreflightResponse security.config request)
  else if isRateLimitedPath request.path then .limited
  else .passed

/-! ## The shutdown gate -/

/-- `should_bypass_shutdown_gate`. -/
def shouldBypassShutdownGate (path : String) : Bool := path = "/health" ∨ path = "/ready"

/-- What the gate answers after the shutdown has begun. -/
def gateRefusal (path : String) : Response :=
  (RestError.serviceUnavailable
    "The gateway is shutting down and no longer accepts new requests." path).intoResponse

/-! ## What a response carries -/

/-- The headers that the gateway owes a path. -/
def securityHeaders (path : String) (nativeTlsEnabled : Bool) : List (String × String) :=
  [("x-content-type-options", "nosniff"), ("x-frame-options", "DENY"),
    ("referrer-policy", "no-referrer")] ++
  (if path = "/api/v1/docs" then [("content-security-policy", docsPolicy)] else []) ++
  (if startsWith path "/api/" then [("cache-control", "no-store")] else []) ++
  (if nativeTlsEnabled then
    [("strict-transport-security", "max-age=31536000; includeSubDomains")] else [])

/-- The response carries each of its security headers once, and grants its origin exactly when
that is an allowed one; `inner` is what it was made of. -/
structure Protected (config : RestSecurityConfig) (request : HttpRequest)
    (inner response : Response) : Prop where
  status : response.status = inner.status
  problem : response.problem = inner.problem
  secured : ∀ name value, (name, value) ∈ securityHeaders request.path config.nativeTlsEnabled →
    response.headers.values name = [value]
  granted : ∀ origin, allowedOrigin config request = some origin →
    response.headers.values "access-control-allow-origin" = [origin] ∧
      response.headers.values "vary" = ["Origin"]
  denied : allowedOrigin config request = none →
    response.headers.values "access-control-allow-origin" =
      inner.headers.values "access-control-allow-origin"

/-! ### Each header under its own name -/

/-- The names of the security headers. -/
def securityNames : List String :=
  ["x-content-type-options", "x-frame-options", "referrer-policy", "content-security-policy",
    "cache-control", "strict-transport-security"]

theorem securityHeaders_sublist (path : String) (nativeTlsEnabled : Bool) :
    ((securityHeaders path nativeTlsEnabled).map Prod.fst).Sublist securityNames := by
  unfold securityHeaders
  split_ifs <;> decide

theorem applySecurityHeaders_eq (headers : HeaderMap) (path : String) (nativeTlsEnabled : Bool) :
    applySecurityHeaders headers path nativeTlsEnabled =
      headers.insertAll (securityHeaders path nativeTlsEnabled) := by
  unfold applySecurityHeaders securityHeaders
  split_ifs <;> rfl

theorem values_applySecurityHeaders (headers : HeaderMap) {path name value : String}
    {nativeTlsEnabled : Bool} (h : (name, value) ∈ securityHeaders path nativeTlsEnabled) :
    (applySecurityHeaders headers path nativeTlsEnabled).values name = [value] := by
  rw [applySecurityHeaders_eq]
  have hnames : securityNames.Nodup := by decide
  exact headers.values_insertAll_of_mem
    (hnames.sublist (securityHeaders_sublist path nativeTlsEnabled)) h

theorem values_applySecurityHeaders_of_notMem (headers : HeaderMap) {path name : String}
    {nativeTlsEnabled : Bool} (h : name ∉ securityNames) :
    (applySecurityHeaders headers path nativeTlsEnabled).values name = headers.values name := by
  rw [applySecurityHeaders_eq]
  apply headers.values_insertAll_of_notMem
  exact fun hmem => h ((securityHeaders_sublist path nativeTlsEnabled).subset hmem)

theorem mem_securityNames {path name value : String} {nativeTlsEnabled : Bool}
    (h : (name, value) ∈ securityHeaders path nativeTlsEnabled) : name ∈ securityNames :=
  (securityHeaders_sublist path nativeTlsEnabled).subset (List.mem_map_of_mem h)

theorem protected_protect (config : RestSecurityConfig) (request : HttpRequest)
    (inner : Response) : Protected config request inner (protect config request inner) where
  status := rfl
  problem := rfl
  secured name value h := by
    have hname := mem_securityNames h
    show (applyCorsHeaders _ config request).values name = [value]
    unfold applyCorsHeaders
    cases allowedOrigin config request with
    | none => exact values_applySecurityHeaders _ h
    | some origin =>
      -- the names that CORS inserts are none of the security headers
      have hvary : name ≠ "vary" := by
        rintro rfl
        exact absurd hname (by decide)
      have hallow : name ≠ "access-control-allow-origin" := by
        rintro rfl
        exact absurd hname (by decide)
      rw [HeaderMap.values_insert_of_ne _ _ hvary, HeaderMap.values_insert_of_ne _ _ hallow]
      exact values_applySecurityHeaders _ h
  granted origin h := by
    show (applyCorsHeaders _ config request).values _ = _ ∧
      (applyCorsHeaders _ config request).values _ = _
    unfold applyCorsHeaders
    rw [h]
    refine ⟨?_, HeaderMap.values_insert_self _ _ _⟩
    rw [HeaderMap.values_insert_of_ne _ _ (by decide), HeaderMap.values_insert_self]
  denied h := by
    show (applyCorsHeaders _ config request).values _ = _
    unfold applyCorsHeaders
    rw [h]
    exact values_applySecurityHeaders_of_notMem _ (by decide)

/-- What the answer to a preflight is made of. -/
def preflightInner (config : RestSecurityConfig) (request : HttpRequest) : Response :=
  match allowedOrigin config request with
  | none => (RestError.fromGatewayError (.forbidden "CORS origin is not allowed")
      request.path).intoResponse
  | some _ => ⟨204, .empty, none⟩

theorem protected_preflight (config : RestSecurityConfig) (request : HttpRequest) :
    Protected config request (preflightInner config request)
      (corsPreflightResponse config request) := by
  unfold preflightInner corsPreflightResponse
  cases horigin : allowedOrigin config request with
  | none =>
    refine ⟨rfl, rfl, fun name value h => values_applySecurityHeaders _ h, ?_, fun _ => ?_⟩
    · intro origin h
      rw [horigin] at h
      cases h
    · exact values_applySecurityHeaders_of_notMem _ (by decide)
  | some allowed =>
    refine ⟨rfl, rfl, fun name value h => values_applySecurityHeaders _ h, ?_, fun hnone => ?_⟩
    · intro origin h
      obtain rfl : allowed = origin := Option.some.inj (horigin.symm.trans h)
      constructor
      · refine (values_applySecurityHeaders_of_notMem _ (by decide)).trans ?_
        simp [HeaderMap.values_insert]
      · refine (values_applySecurityHeaders_of_notMem _ (by decide)).trans ?_
        simp [HeaderMap.values_insert]
    · rw [horigin] at hnone
      cases hnone

end GvmGateway.Rest
