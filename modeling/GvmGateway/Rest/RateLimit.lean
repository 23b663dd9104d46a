import GvmGateway.Library.FiniteMap
import GvmGateway.Rest.AuthPolicy

/-!
# REST rate limiting

`crates/gvm-gateway-rest/src/rate_limit.rs`. The limiter's mutex is held for the whole of
`checkKey`, so a call is one step from the state before it to the state after it; a thread
that panics while it holds the lock leaves it poisoned. Times are seconds. `saturating_sub` is
the subtraction of natural numbers, and a count stays below its limit before it is raised, so
no `u64` overflows here.
-/

namespace GvmGateway.Rest

/-- `MAX_RATE_LIMIT_BUCKETS`. -/
def maxRateLimitBuckets : ℕ := 16384

/-- Fixed-window REST rate-limit settings. -/
structure RateLimitConfig where
  windowSecs : ℕ
  globalPerWindow : Option ℕ
  subjectPerWindow : Option ℕ
deriving DecidableEq, Repr

namespace RateLimitConfig

/-- The configuration used when none is given. -/
def default : RateLimitConfig := ⟨60, some 1000, some 500⟩

/-- A window of zero seconds counts as one of one second. -/
def window (config : RateLimitConfig) : ℕ := max config.windowSecs 1

theorem window_pos (config : RateLimitConfig) : 0 < config.window :=
  Nat.lt_of_lt_of_le Nat.one_pos (le_max_right _ _)

end RateLimitConfig

/-- The window of a key, and what it has counted. -/
structure RateBucket where
  windowStartedAt : ℕ
  count : ℕ
deriving DecidableEq, Repr

/-- The buckets by their keys, and when they were last pruned. -/
structure RateLimitState where
  buckets : AList fun _ : String => RateBucket
  lastPrunedAt : ℕ

/-- The limiter; a panic under its lock poisons it. -/
structure RateLimiter where
  config : RateLimitConfig
  trustedProxyCidrs : List TrustedProxyCidr
  state : RateLimitState
  poisoned : Bool

/-- `RateLimiter::new`. -/
def RateLimiter.new (config : RateLimitConfig) (trustedProxyCidrs : List TrustedProxyCidr) :
    RateLimiter :=
  ⟨config, trustedProxyCidrs, ⟨∅, 0⟩, false⟩

/-! ## `check_key` -/

/-- The bucket's window has not run out. -/
def RateBucket.Unexpired (now windowSecs : ℕ) (bucket : RateBucket) : Prop :=
  now - bucket.windowStartedAt < windowSecs

instance (now windowSecs : ℕ) (bucket : RateBucket) :
    Decidable (bucket.Unexpired now windowSecs) :=
  inferInstanceAs (Decidable (now - bucket.windowStartedAt < windowSecs))

/-- `prune_expired_buckets`. -/
def pruneExpiredBuckets (state : RateLimitState) (now windowSecs : ℕ) : RateLimitState where
  buckets := state.buckets.filter fun _ bucket => decide (bucket.Unexpired now windowSecs)
  lastPrunedAt := now

/-- The sweep at the start of a call, at most one in a second. -/
def pruneIfDue (state : RateLimitState) (now windowSecs : ℕ) : RateLimitState :=
  if 1 ≤ now - state.lastPrunedAt then pruneExpiredBuckets state now windowSecs else state

/-- The last part of a call: the bucket is looked up or made, reset in place when its window
has run out, and counted up unless it is full. -/
def countRequest (state : RateLimitState) (key : String) (limit now windowSecs : ℕ) :
    Option ℕ × RateLimitState :=
  let bucket := (state.buckets.lookup key).getD ⟨now, 0⟩
  -- the window is over, and a new one starts with this request
  let bucket := if windowSecs ≤ now - bucket.windowStartedAt then ⟨now, 0⟩ else bucket
  if limit ≤ bucket.count then
    -- until the window's end, and a second at least
    (some (max (windowSecs - (now - bucket.windowStartedAt)) 1),
      ⟨state.buckets.insert key bucket, state.lastPrunedAt⟩)
  else
    (none, ⟨state.buckets.insert key ⟨bucket.windowStartedAt, bucket.count + 1⟩,
      state.lastPrunedAt⟩)

/-- The part of a call that runs under the lock. -/
def checkBuckets (state : RateLimitState) (key : String) (limit now windowSecs : ℕ) :
    Option ℕ × RateLimitState :=
  let state := pruneIfDue state now windowSecs
  if key ∉ state.buckets ∧ maxRateLimitBuckets ≤ state.buckets.entries.length then
    let state := pruneExpiredBuckets state now windowSecs
    if maxRateLimitBuckets ≤ state.buckets.entries.length then (some windowSecs, state)
    else countRequest state key limit now windowSecs
  else countRequest state key limit now windowSecs

namespace RateLimiter

/-- `none` admits the call, `some` rejects it with the seconds after which to retry. -/
def checkKey (limiter : RateLimiter) (key : String) (limit now : ℕ) : Option ℕ × RateLimiter :=
  if limit = 0 then (some limiter.config.window, limiter)
  else if limiter.poisoned then (some limiter.config.window, limiter)
  else
    let (answer, state) := checkBuckets limiter.state key limit now limiter.config.window
    (answer, ⟨limiter.config, limiter.trustedProxyCidrs, state, limiter.poisoned⟩)

end RateLimiter

/-! ## The subject of a request -/

def hex16 (n : ℕ) : String := String.ofList ((Nat.toDigits 16 n).leftpad 16 '0')

/-- FNV-1a with 64 bits. -/
def stableHash (value : String) : String :=
  let hash := value.toUTF8.data.toList.foldl
    (fun (hash : UInt64) byte => (hash ^^^ byte.toUInt64) * 0x00000100000001b3) 0xcbf29ce484222325
  hex16 hash.toNat

/-- The first address of the `X-Forwarded-For` chain. -/
def forwardedForClientIp (request : Request) : Option IpAddr :=
  request.forwardedFor.bind fun value =>
    IpAddr.fromStr
      (String.ofList (Text.trim (value.toList.takeWhile (· ≠ ','))))

/-- `source_ip`. -/
def sourceIp (request : Request) (trustedProxyCidrs : List TrustedProxyCidr) : Option IpAddr :=
  request.peer.bind fun addr =>
    if trustedProxyCidrs.any fun cidr => cidr.contains addr.ip then
      some ((forwardedForClientIp request).getD addr.ip)
    else some addr.ip

/-- `source_subject`. -/
def sourceSubject (request : Request) (trustedProxyCidrs : List TrustedProxyCidr) : String :=
  ((sourceIp request trustedProxyCidrs).map fun ip => "ip:" ++ ip.display).getD "unknown-source"

/-- `rate_limit_subject`. -/
def rateLimitSubject (request : Request) (trustedProxyCidrs : List TrustedProxyCidr) : String :=
  -- the session's own path is counted for its source, whatever credentials come with it
  if request.path = "/api/v1/session" then
    "session-create:" ++ sourceSubject request trustedProxyCidrs
  else
    let auth := request.authorization.getD ""
    match stripPrefix auth "Bearer " with
    | some token => "bearer:" ++ stableHash token
    | none =>
      match stripPrefix auth "Basic " with
      | some credentials => "basic:" ++ stableHash credentials
      | none => "anonymous:" ++ sourceSubject request trustedProxyCidrs

example : rateLimitSubject ⟨.get, "/api/v1/targets", some "Bearer gvm_sess_secret", none, none⟩ [] =
    "bearer:7731b204acf83e17" := by decide

/-! ## `check_request` -/

/-- The stages of `check_request`, each with a lock of its own. -/
inductive CheckStage where
  | global
  | subject
deriving DecidableEq, Repr

/-- The limit of a stage; a stage without one is left out. -/
def RateLimitConfig.limitAt (config : RateLimitConfig) : CheckStage → Option ℕ
  | .global => config.globalPerWindow
  | .subject => config.subjectPerWindow

/-- `is_rate_limited_path`. -/
def isRateLimitedPath (path : String) : Bool :=
  startsWith path "/api/v1/" && path != "/api/v1/openapi.json"

namespace RateLimiter

/-- The global stage: `none` lets the request through to the subject's stage. -/
def checkGlobal (limiter : RateLimiter) (now : ℕ) : Option ℕ × RateLimiter :=
  match limiter.config.globalPerWindow with
  | some limit => limiter.checkKey "global" limit now
  | none => (none, limiter)

/-- The stage of the subject. -/
def checkSubject (limiter : RateLimiter) (request : Request) (now : ℕ) : Option ℕ × RateLimiter :=
  match limiter.config.subjectPerWindow with
  | some limit =>
    limiter.checkKey (rateLimitSubject request limiter.trustedProxyCidrs) limit now
  | none => (none, limiter)

/-- One stage, with the reading `now` that `check_request` has taken before. -/
def checkStage (limiter : RateLimiter) (request : Request) (now : ℕ) :
    CheckStage → Option ℕ × RateLimiter
  | .global => limiter.checkGlobal now
  | .subject => limiter.checkSubject request now

/-- One request, when nobody asks the limiter between its two stages. -/
def checkRequest (limiter : RateLimiter) (request : Request) (now : ℕ) : Option ℕ × RateLimiter :=
  match limiter.checkGlobal now with
  | (some retryAfter, limiter) => (some retryAfter, limiter)
  | (none, limiter) => limiter.checkSubject request now

end RateLimiter

end GvmGateway.Rest
