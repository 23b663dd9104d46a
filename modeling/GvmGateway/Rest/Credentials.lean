import GvmGateway.Domain.Credentials
import GvmGateway.Rest.Tasks

/-!
# Credential requests

The JSON bodies that create and update credentials and credential stores, and their validation.
A `Uuid` is the text that it prints.
-/

namespace GvmGateway.Rest

/-! ## Types -/

/-- `open_string_enum! CredentialType`: the known codes, and any other value verbatim. -/
inductive CredentialType where
  | clientCertificate
  | passwordOnly
  | snmpV1Or2c
  | snmpV3
  | usernamePassword
  | usernameSshKey
  | credentialStoreClientCertificate
  | credentialStorePasswordOnly
  | credentialStorePgpEncryptionKey
  | credentialStoreSmimeCertificate
  | credentialStoreSnmp
  | credentialStoreUsernamePassword
  | credentialStoreUsernameSshKey
  | unknown (value : String)
deriving DecidableEq, Repr

namespace CredentialType

/-- The code of a type. -/
def asStr : CredentialType → String
  | clientCertificate => "cc"
  | passwordOnly => "pw"
  | snmpV1Or2c => "snmp"
  | snmpV3 => "snmpv3"
  | usernamePassword => "up"
  | usernameSshKey => "usk"
  | credentialStoreClientCertificate => "cs_cc"
  | credentialStorePasswordOnly => "cs_pw"
  | credentialStorePgpEncryptionKey => "cs_pgp"
  | credentialStoreSmimeCertificate => "cs_smime"
  | credentialStoreSnmp => "cs_snmp"
  | credentialStoreUsernamePassword => "cs_up"
  | credentialStoreUsernameSshKey => "cs_usk"
  | unknown value => value

/-- The variants of the enumeration, in their order. -/
def known : List CredentialType :=
  [clientCertificate, passwordOnly, snmpV1Or2c, snmpV3, usernamePassword, usernameSshKey,
    credentialStoreClientCertificate, credentialStorePasswordOnly,
    credentialStorePgpEncryptionKey, credentialStoreSmimeCertificate, credentialStoreSnmp,
    credentialStoreUsernamePassword, credentialStoreUsernameSshKey]

/-- The `match` on the known values, in their order. -/
def parse (value : String) : CredentialType :=
  (known.find? fun variant => variant.asStr = value).getD (unknown value)

/-- No value is lost, known or not. -/
@[simp] theorem asStr_parse (value : String) : (parse value).asStr = value := by
  unfold parse
  cases h : known.find? fun variant => variant.asStr = value with
  | none => rfl
  | some variant =>
    have hvariant := List.find?_some h
    exact of_decide_eq_true hvariant

end CredentialType

/-! ## Create -/

/-- The body that creates a credential. -/
structure CreateCredentialRequest where
  name : String
  comment : Option String
  credentialType : CredentialType
  login : Option String
  password : Option String
  privateKey : Option String
  certificate : Option String
  community : Option String
  authAlgorithm : Option String
  privacyAlgorithm : Option String
  privacyPassword : Option String
  credentialStoreId : Option String
  vaultId : Option String
  hostIdentifier : Option String
deriving DecidableEq, Repr

namespace CreateCredentialRequest

variable (request : CreateCredentialRequest)

/-- `self.credential_type.as_str().starts_with("cs_")`. -/
def storeBacked : Bool :=
  "cs_".toList.isPrefixOf request.credentialType.asStr.toList

/-- The body refers to a credential store. -/
def hasStoreFields : Bool :=
  request.credentialStoreId.isSome || request.vaultId.isSome || request.hostIdentifier.isSome

/-- `value.as_deref().is_none_or(str::is_empty)`. -/
def isNoneOrEmpty (value : Option String) : Bool :=
  value.all fun text => text = ""

/-- The secrets and other values that a credential has of its own. -/
def localValues : List (Option String) :=
  [request.login, request.password, request.privateKey, request.certificate, request.community,
    request.authAlgorithm, request.privacyAlgorithm, request.privacyPassword]

/-- What a credential in a store must and must not have. -/
def checkStoreBacked : Except GatewayError Unit :=
  if isNoneOrEmpty request.vaultId || isNoneOrEmpty request.hostIdentifier then
    .error (.invalidInput
      "vaultId and hostIdentifier are required for credential-store-backed credentials")
  else if request.localValues.any Option.isSome then
    .error (.invalidInput
      "credential-store references cannot be combined with local credential values")
  else .ok ()

/-- Only a credential in a store may refer to one. -/
def checkReference : Except GatewayError Unit :=
  if request.storeBacked then request.checkStoreBacked
  else if request.hasStoreFields then
    .error (.invalidInput
      "credential-store fields require a credential type with the `cs_` prefix")
  else .ok ()

/-- The input of the use case, with the type as it was given. -/
def toInput : CreateCredentialInput where
  name := request.name
  comment := request.comment
  credentialType := request.credentialType.asStr
  login := request.login
  password := request.password
  privateKey := request.privateKey
  certificate := request.certificate
  community := request.community
  authAlgorithm := request.authAlgorithm
  privacyAlgorithm := request.privacyAlgorithm
  privacyPassword := request.privacyPassword
  credentialStoreId := request.credentialStoreId
  vaultId := request.vaultId
  hostIdentifier := request.hostIdentifier

/-- `CreateCredentialRequest::validate`. -/
def validate : Except GatewayError CreateCredentialInput :=
  if Text.isBlank request.name then .error (.invalidInput "name is required")
  else if Text.isBlank request.credentialType.asStr then
    .error (.invalidInput "type is required")
  else do
    let _ ← request.checkReference
    return request.toInput

end CreateCredentialRequest

/-! ## Update -/

/-- The body that updates a credential. -/
structure ModifyCredentialRequest where
  name : Option String
  comment : Option String
  login : Option String
  password : Option String
  privateKey : Option String
  certificate : Option String
  community : Option String
  authAlgorithm : Option String
  privacyAlgorithm : Option String
  privacyPassword : Option String
  credentialStoreId : Option String
  vaultId : Option String
  hostIdentifier : Option String
deriving DecidableEq, Repr

/-- `ModifyCredentialRequest::validate`. -/
def ModifyCredentialRequest.validate (request : ModifyCredentialRequest) :
    ModifyCredentialInput where
  name := request.name
  comment := request.comment
  login := request.login
  password := request.password
  privateKey := request.privateKey
  certificate := request.certificate
  community := request.community
  authAlgorithm := request.authAlgorithm
  privacyAlgorithm := request.privacyAlgorithm
  privacyPassword := request.privacyPassword
  credentialStoreId := request.credentialStoreId
  vaultId := request.vaultId
  hostIdentifier := request.hostIdentifier

end GvmGateway.Rest
