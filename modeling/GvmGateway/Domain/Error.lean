import Mathlib

/-!
# Application errors

The error taxonomy that ports and use cases share.
-/

namespace GvmGateway

/-- Stable machine-readable error identity shared across adapters. -/
inductive GatewayErrorCode where
  | backendUnavailable
  | notImplemented
  | notFound
  | badRequest
  | unauthorized
  | sessionExpired
  | sessionInvalidated
  | forbidden
  | conflict
  | tooManyRequests
  | internalServerError
  | gatewayTimeout
deriving DecidableEq, Repr

namespace GatewayErrorCode

/-- The public `code` string. -/
def asStr : GatewayErrorCode → String
  | .backendUnavailable => "backend_unavailable"
  | .notImplemented => "not_implemented"
  | .notFound => "not_found"
  | .badRequest => "bad_request"
  | .unauthorized => "unauthorized"
  | .sessionExpired => "session_expired"
  | .sessionInvalidated => "session_invalidated"
  | .forbidden => "forbidden"
  | .conflict => "conflict"
  | .tooManyRequests => "too_many_requests"
  | .internalServerError => "internal_server_error"
  | .gatewayTimeout => "gateway_timeout"

/-- The problem-type slug. -/
def problemSlug : GatewayErrorCode → String
  | .backendUnavailable => "bad-gateway"
  | .notImplemented => "not-implemented"
  | .notFound => "not-found"
  | .badRequest => "bad-request"
  | .unauthorized => "unauthorized"
  | .sessionExpired => "session-expired"
  | .sessionInvalidated => "session-invalidated"
  | .forbidden => "forbidden"
  | .conflict => "conflict"
  | .tooManyRequests => "too-many-requests"
  | .internalServerError => "internal-server-error"
  | .gatewayTimeout => "gateway-timeout"

end GatewayErrorCode

/-- Application-level errors surfaced by ports and use cases. -/
inductive GatewayError where
  | backendUnavailable (detail : String)
  | notImplemented (detail : String)
  | notFound (detail : String)
  | invalidInput (detail : String)
  | unauthorized (detail : String)
  | sessionExpired (detail : String)
  | sessionInvalidated (detail : String)
  | forbidden (detail : String)
  | conflict (detail : String)
  | tooManyRequests (detail : String)
  | internal (detail : String)
  | gatewayTimeout (detail : String)
deriving DecidableEq, Repr

namespace GatewayError

def code : GatewayError → GatewayErrorCode
  | .backendUnavailable _ => .backendUnavailable
  | .notImplemented _ => .notImplemented
  | .notFound _ => .notFound
  | .invalidInput _ => .badRequest
  | .unauthorized _ => .unauthorized
  | .sessionExpired _ => .sessionExpired
  | .sessionInvalidated _ => .sessionInvalidated
  | .forbidden _ => .forbidden
  | .conflict _ => .conflict
  | .tooManyRequests _ => .tooManyRequests
  | .internal _ => .internalServerError
  | .gatewayTimeout _ => .gatewayTimeout

/-- The occurrence-specific detail. -/
def detail : GatewayError → String
  | .backendUnavailable detail | .notImplemented detail | .notFound detail
  | .invalidInput detail | .unauthorized detail | .sessionExpired detail
  | .sessionInvalidated detail | .forbidden detail | .conflict detail
  | .tooManyRequests detail | .internal detail | .gatewayTimeout detail => detail

end GatewayError
/-- A sequence of fallible calls succeeds call by call. -/
theorem bind_eq_ok {ε α β : Type} {x : Except ε α} {f : α → Except ε β} {b : β} :
    x >>= f = .ok b ↔ ∃ a, x = .ok a ∧ f a = .ok b := by
  cases x with
  | error err =>
    constructor
    · intro h
      exact nomatch h
    · rintro ⟨a, h, -⟩
      exact nomatch h
  | ok a =>
    constructor
    · intro h
      exact ⟨a, rfl, h⟩
    · rintro ⟨_, ⟨⟩, h⟩
      exact h

theorem ok_of_bind {ε α β : Type} {x : Except ε α} {f : α → Except ε β} {b : β}
    (h : x >>= f = .ok b) : ∃ a, x = .ok a ∧ f a = .ok b :=
  bind_eq_ok.mp h

theorem error_of_bind {ε α β : Type} {x : Except ε α} {f : α → Except ε β} {err : ε}
    (h : x >>= f = .error err) : x = .error err ∨ ∃ a, x = .ok a ∧ f a = .error err := by
  cases x with
  | error err' =>
    left
    exact congrArg Except.error (Except.error.inj h)
  | ok a =>
    right
    exact ⟨a, rfl, h⟩

end GvmGateway
