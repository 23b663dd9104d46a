import GvmGateway.Domain.Error

/-!
# Errors of the GMP client

The errors of `gvm_client` and `gvm_gmp` as the adapter tells them apart, and what it makes of
them. The `display` of an error is what its `to_string` gives.
-/

namespace GvmGateway.Gvmd

/-- `gvm_gmp::responses::ParseError`. -/
inductive ResponseError where
  | serverError (status : ℕ) (message display : String)
  | other (display : String)
deriving DecidableEq, Repr

/-- `gvm_client::GvmError`; `duration` is that of the timeout, as it is printed. -/
inductive GvmError where
  | parse (error : ResponseError)
  | unsupportedCommand (command display : String)
  | server (status : ℕ) (message display : String)
  | timeout (duration : String)
  | other (display : String)
deriving DecidableEq, Repr

/-- `str::to_ascii_lowercase`. -/
def toAsciiLowercase (value : String) : List Char :=
  value.toList.map Char.toLower

/-- `is_authentication_failure`. -/
def isAuthenticationFailure (message : String) : Bool :=
  toAsciiLowercase message = "authentication failed".toList

/-- `map_parse_error`. -/
def mapParseError : ResponseError → GatewayError
  | .serverError 404 message _ => .notFound message
  | .serverError 400 message _ =>
    if isAuthenticationFailure message then .unauthorized message else .invalidInput message
  | .serverError 401 message _ => .unauthorized message
  | .serverError 403 message _ => .forbidden message
  | .serverError _ _ display => .backendUnavailable display
  | .other display => .backendUnavailable display

/-- `map_gvm_error`. -/
def mapGvmError : GvmError → GatewayError
  | .parse error => mapParseError error
  | .unsupportedCommand _ display => .notImplemented display
  | .server 400 message _ =>
    if isAuthenticationFailure message then .unauthorized message else .invalidInput message
  | .server 401 message _ => .unauthorized message
  | .server 403 message _ => .forbidden message
  | .server 404 message _ => .notFound message
  | .timeout duration => .gatewayTimeout ("gvmd timeout after " ++ duration)
  | .server _ _ display => .backendUnavailable display
  | .other display => .backendUnavailable display

/-! ## Credential stores that a backend does not expose -/

/-- `credential_store_command_disabled`. -/
def credentialStoreCommandDisabled (message : String) : Bool :=
  "command disabled".toList <:+: toAsciiLowercase message

/-- `credential_store_capability_unavailable`. -/
def credentialStoreCapabilityUnavailable : GvmError → Bool
  | .unsupportedCommand command _ => command = "get_credential_stores"
  | .server 503 message _ => credentialStoreCommandDisabled message
  | .parse (.serverError 503 message _) => credentialStoreCommandDisabled message
  | _ => false

/-- `unsupported_credential_store_error`. -/
def unsupportedCredentialStoreError : GatewayError :=
  .notImplemented ("credential stores are not available because gvmd does not expose " ++
    "`get_credential_stores` on this backend instance; the proxy does not synthesize " ++
    "credential store entries")

/-- `map_credential_store_error`. -/
def mapCredentialStoreError (error : GvmError) : GatewayError :=
  if credentialStoreCapabilityUnavailable error then unsupportedCredentialStoreError
  else mapGvmError error

end GvmGateway.Gvmd
