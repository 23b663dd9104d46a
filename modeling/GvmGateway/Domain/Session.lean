import GvmGateway.Domain.Error
import GvmGateway.Library.FiniteMap

/-!
# The session registry

Every method of `SessionManager` takes the registry's lock for its whole body, so each is one
function of the registry: it returns what the caller gets, and the registry it leaves. The
clock reading `now` and the token that `create` draws are parameters. A poisoned lock is not
modelled: no method panics while it holds the lock.
-/

namespace GvmGateway

/-- `SessionTokenDigest::from_token`. The SHA-256 digest of a token is the key of its session,
in the registry and in the backend adapter. -/
class SessionTokenDigest (Digest : Type) where
  fromToken : String → Digest

/-- Tokens that are their own digests, for running the model. -/
instance : SessionTokenDigest String where
  fromToken token := token

/-- `SessionState`. -/
inductive SessionState where
  | active
  | expired
deriving DecidableEq, Repr

/-- Opaque authenticated session. -/
structure Session where
  token : String
  user : String
  state : SessionState
deriving DecidableEq, Repr

/-- Session details for inspection. -/
structure SessionInfo where
  token : String
  user : String
  state : SessionState
  createdAt : ℕ
  lastUsedAt : ℕ
  /-- Remaining seconds until idle expiry, an `i64`. -/
  expiresIn : ℤ
deriving DecidableEq, Repr

/-- `DEFAULT_MAX_GLOBAL_SESSIONS`. -/
def defaultMaxGlobalSessions : ℕ := 1000

/-- `DEFAULT_MAX_SESSIONS_PER_USER`. -/
def defaultMaxSessionsPerUser : ℕ := 10

/-- Session capacity limits; `none` disables a cap. -/
structure SessionLimits where
  maxGlobal : Option ℕ := some defaultMaxGlobalSessions
  maxPerUser : Option ℕ := some defaultMaxSessionsPerUser
deriving DecidableEq, Repr

/-- A session in the registry, under the digest of its token. -/
structure StoredSession where
  user : String
  state : SessionState
  createdAt : ℕ
  lastUsedAt : ℕ
  holdCount : ℕ
deriving DecidableEq, Repr

namespace StoredSession

/-- A new session of a user. -/
def opened (user : String) (now : ℕ) : StoredSession :=
  { user := user, state := .active, createdAt := now, lastUsedAt := now, holdCount := 0 }

/-- Held sessions do not expire by idling. The subtraction saturates, as in the source. -/
def isExpiredAt (s : StoredSession) (now idleTimeoutSecs : ℕ) : Bool :=
  match s.state with
  | .active => if 0 < s.holdCount then false else idleTimeoutSecs ≤ now - s.lastUsedAt
  | .expired => true

/-- What `touch` does to a live session. -/
def touched (s : StoredSession) (now : ℕ) : StoredSession := { s with lastUsedAt := now }

/-- What `hold` does to a live session; the `u64` counter saturates. -/
def held (s : StoredSession) (now : ℕ) : StoredSession :=
  { s with holdCount := min (s.holdCount + 1) (2 ^ 64 - 1), lastUsedAt := now }

/-- What the drop of a `SessionHold` does; the counter saturates at zero. -/
def released (s : StoredSession) : StoredSession := { s with holdCount := s.holdCount - 1 }

/-- The session is expired from now on. -/
def markExpired (s : StoredSession) : StoredSession := { s with state := .expired }

end StoredSession

/-- A cast `as i64` of a `u64`: the numbers from `2 ^ 63` on wrap to the negative ones. -/
def asI64 (n : ℕ) : ℤ := if n < 2 ^ 63 then n else n - 2 ^ 64

/-- In-memory session registry. -/
structure SessionManager (Digest : Type) where
  inner : AList fun _ : Digest => StoredSession
  idleTimeoutSecs : ℕ
  limits : SessionLimits

section Limits

variable {Digest : Type}

/-- The entries that satisfy `p`, as `values().filter(p).count()`. -/
def countSessions (sessions : AList fun _ : Digest => StoredSession)
    (p : StoredSession → Bool) : ℕ :=
  sessions.total fun _ s => if p s then 1 else 0

/-- One capacity check of `enforce_session_limits`. -/
def checkLimit (limit : Option ℕ) (count : ℕ) (detail : String) : Except GatewayError Unit :=
  match limit with
  | none => .ok ()
  | some max => if max ≤ count then .error (.tooManyRequests detail) else .ok ()

/-- `enforce_session_limits`: the global limit is checked first. -/
def enforceSessionLimits (sessions : AList fun _ : Digest => StoredSession) (user : String)
    (limits : SessionLimits) (now idleTimeoutSecs : ℕ) : Except GatewayError Unit := do
  checkLimit limits.maxGlobal
    (countSessions sessions fun s => !s.isExpiredAt now idleTimeoutSecs)
    "global session limit exceeded"
  checkLimit limits.maxPerUser
    (countSessions sessions fun s => s.user == user && !s.isExpiredAt now idleTimeoutSecs)
    "per-user session limit exceeded"

/-- `expired_session_digests`, in the order of the map. -/
def expiredSessionDigests (sessions : AList fun _ : Digest => StoredSession)
    (now idleTimeoutSecs : ℕ) : List Digest :=
  (sessions.filter fun _ s => s.isExpiredAt now idleTimeoutSecs).keys

end Limits

namespace SessionManager

variable {Digest : Type} [DecidableEq Digest] [SessionTokenDigest Digest]

open SessionTokenDigest

omit [DecidableEq Digest] [SessionTokenDigest Digest] in
/-- `SessionManager::with_limits`. -/
def withLimits (Digest : Type) (idleTimeoutSecs : ℕ) (limits : SessionLimits) :
    SessionManager Digest :=
  { inner := ∅, idleTimeoutSecs := idleTimeoutSecs, limits := limits }

/-- The session under a digest is replaced. -/
def put (m : SessionManager Digest) (d : Digest) (s : StoredSession) : SessionManager Digest :=
  { m with inner := m.inner.insert d s }

omit [SessionTokenDigest Digest] in
/-- The session under a digest, if there is one, is changed in place. -/
def modify (m : SessionManager Digest) (d : Digest) (f : StoredSession → StoredSession) :
    SessionManager Digest :=
  match m.inner.lookup d with
  | none => m
  | some stored => m.put d (f stored)

omit [SessionTokenDigest Digest] in
/-- The expired sessions are removed, by the loop over their digests. -/
def drained (m : SessionManager Digest) (now : ℕ) : SessionManager Digest :=
  { m with inner := m.inner.eraseAll (expiredSessionDigests m.inner now m.idleTimeoutSecs) }

/-- `create_draining_expired`. The limits are checked before anything is removed. -/
def createDrainingExpired (m : SessionManager Digest) (now : ℕ) (token user : String) :
    Except GatewayError (Session × List Digest) × SessionManager Digest :=
  match enforceSessionLimits m.inner user m.limits now m.idleTimeoutSecs with
  | .error err => (.error err, m)
  | .ok () =>
    let expiredTokens := expiredSessionDigests m.inner now m.idleTimeoutSecs
    (.ok ({ token := token, user := user, state := .active }, expiredTokens),
      (m.drained now).put (fromToken token) (.opened user now))

/-- `create` forgets the drained digests. -/
def create (m : SessionManager Digest) (now : ℕ) (token user : String) :
    Except GatewayError Session × SessionManager Digest :=
  ((m.createDrainingExpired now token user).1.map Prod.fst,
    (m.createDrainingExpired now token user).2)

/-- `SessionManager::get`. -/
def get (m : SessionManager Digest) (token : String) : Option Session :=
  (m.inner.lookup (fromToken token)).map fun stored =>
    { token := token, user := stored.user, state := stored.state }

/-- `get_info` does not extend the idle timer. -/
def getInfo (m : SessionManager Digest) (now : ℕ) (token : String) :
    Except GatewayError SessionInfo :=
  match m.inner.lookup (fromToken token) with
  | none => .error (.notFound "session not found")
  | some stored =>
    let (state, expiresIn) :=
      if stored.isExpiredAt now m.idleTimeoutSecs then (SessionState.expired, (0 : ℤ))
      -- a held session does not idle
      else if 0 < stored.holdCount then (.active, asI64 (max m.idleTimeoutSecs 1))
      else
        let elapsed := now - stored.lastUsedAt
        (.active, asI64 (m.idleTimeoutSecs - elapsed))
    .ok { token := token, user := stored.user, state := state, createdAt := stored.createdAt,
          lastUsedAt := stored.lastUsedAt, expiresIn := expiresIn }

/-- The common shape of `touch` and `hold`: a live session is updated, an expired one is
marked so. -/
def useLive (m : SessionManager Digest) (now : ℕ) (token : String)
    (update : StoredSession → StoredSession) :
    Except GatewayError StoredSession × SessionManager Digest :=
  match m.inner.lookup (fromToken token) with
  | none => (.error (.sessionInvalidated "missing session"), m)
  | some stored =>
    -- found expired, it is marked so for good
    if stored.isExpiredAt now m.idleTimeoutSecs then
      (.error (.sessionExpired "session expired"), m.put (fromToken token) stored.markExpired)
    else (.ok stored, m.put (fromToken token) (update stored))

/-- `SessionManager::touch`. -/
def touch (m : SessionManager Digest) (now : ℕ) (token : String) :
    Except GatewayError Session × SessionManager Digest :=
  let used := m.useLive now token (·.touched now)
  (used.1.map fun stored => { token := token, user := stored.user, state := .active }, used.2)

/-- `hold` returns a `SessionHold`, which is the digest it will release. -/
def hold (m : SessionManager Digest) (now : ℕ) (token : String) :
    Except GatewayError Digest × SessionManager Digest :=
  let used := m.useLive now token (·.held now)
  (used.1.map fun _ => fromToken token, used.2)

omit [SessionTokenDigest Digest] in
/-- `SessionHold::drop`. The session may be gone by then. -/
def dropHold (m : SessionManager Digest) (d : Digest) : SessionManager Digest :=
  m.modify d StoredSession.released

/-- `SessionManager::expire`. -/
def expire (m : SessionManager Digest) (token : String) :
    Except GatewayError Unit × SessionManager Digest :=
  match m.inner.lookup (fromToken token) with
  | none => (.error (.sessionInvalidated "missing session"), m)
  | some stored => (.ok (), m.put (fromToken token) stored.markExpired)

omit [SessionTokenDigest Digest] in
/-- `SessionManager::drain_expired`. -/
def drainExpired (m : SessionManager Digest) (now : ℕ) :
    List Digest × SessionManager Digest :=
  (expiredSessionDigests m.inner now m.idleTimeoutSecs, m.drained now)

/-- `SessionManager::remove`. -/
def remove (m : SessionManager Digest) (token : String) :
    Option Session × SessionManager Digest :=
  ((m.inner.lookup (fromToken token)).map fun stored =>
      { token := token, user := stored.user, state := stored.state },
    { m with inner := m.inner.erase (fromToken token) })

end SessionManager
end GvmGateway
