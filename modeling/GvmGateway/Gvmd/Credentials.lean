import GvmGateway.Domain.Credentials
import GvmGateway.Domain.Session
import GvmGateway.Gvmd.Errors
import GvmGateway.Gvmd.Tasks

/-!
# Backend sessions and the credentials port

`connect_session` and `disconnect_session` of the adapter, `call_with_session`, and the
operations of `ports/credentials.rs`, each a program of the calls it makes: on the map of
sessions, on the slots of a client, and on a connection to gvmd. A client is moved into the map
and not shared before, so a connection is named by its number.
-/

namespace GvmGateway.Gvmd

open Calls

/-! ## Commands -/

/-- `gvm_gmp::CredentialStoreCredentialType`. -/
inductive CredentialStoreCredentialType where
  | clientCertificate
  | passwordOnly
  | pgpEncryptionKey
  | smimeCertificate
  | snmp
  | usernamePassword
  | usernameSshKey
deriving DecidableEq, Repr

/-- `gvm_gmp::CredentialType`. -/
structure GmpCredentialType where
  value : String
deriving DecidableEq, Repr

/-- `gvm_gmp::SnmpAuthAlgorithm`. -/
structure SnmpAuthAlgorithm where
  value : String
deriving DecidableEq, Repr

/-- `gvm_gmp::SnmpPrivacyAlgorithm`. -/
structure SnmpPrivacyAlgorithm where
  value : String
deriving DecidableEq, Repr

/-- The options of `create_credential` that the adapter sets. -/
structure CredentialOpts where
  comment : Option String
  credentialType : Option GmpCredentialType
  login : Option String
  password : Option String
  privateKey : Option String
  certificate : Option String
  community : Option String
  authAlgorithm : Option SnmpAuthAlgorithm
  privacyPassword : Option String
  privacyAlgorithm : Option SnmpPrivacyAlgorithm
deriving DecidableEq, Repr

/-- What a credential in a store is created with beside its reference. -/
structure CredentialStoreCredentialOpts where
  comment : Option String
  credentialStoreId : Option EntityId
deriving DecidableEq, Repr

/-- The options of `modify_credential` that the adapter sets. -/
structure ModifyCredentialOpts where
  name : Option String
  comment : Option String
  login : Option String
  password : Option String
  privateKey : Option String
  certificate : Option String
  community : Option String
  authAlgorithm : Option SnmpAuthAlgorithm
  privacyPassword : Option String
  privacyAlgorithm : Option SnmpPrivacyAlgorithm
deriving DecidableEq, Repr

/-- An update of such a credential; what is absent is left as it is. -/
structure ModifyCredentialStoreCredentialOpts where
  name : Option String
  comment : Option String
  credentialStoreId : Option EntityId
  vaultId : Option String
  hostIdentifier : Option String
deriving DecidableEq, Repr

/-- A preference of a credential store, by name. -/
structure CredentialStorePreference where
  name : String
  value : String
deriving DecidableEq, Repr

/-- An update of a credential store. -/
structure ModifyCredentialStoreOpts where
  active : Option Bool
  host : Option String
  path : Option String
  port : Option ℕ
  comment : Option String
  preferences : List CredentialStorePreference
deriving DecidableEq, Repr

/-- What `list_credentials` asks for. -/
structure GetCredentialsOpts where
  filterString : Option String
  filterId : Option EntityId
  trash : Option Bool
  details : Option Bool
deriving DecidableEq, Repr

/-- The commands of the operations below; `other` is one that another port sends through
`call_with_session`. -/
inductive GmpCommand where
  | authenticate (username password : String)
  | getCredentialStores
  | getCredentialStore (id : EntityId) (details : Option Bool)
  | modifyCredentialStore (id : EntityId) (opts : ModifyCredentialStoreOpts)
  | verifyCredentialStore (id : EntityId)
  | createCredentialStoreCredential (name : String)
      (credentialType : CredentialStoreCredentialType) (vaultId hostIdentifier : String)
      (opts : CredentialStoreCredentialOpts)
  | modifyCredentialStoreCredential (id : EntityId) (opts : ModifyCredentialStoreCredentialOpts)
  | getFilter (id : EntityId)
  | getCredentials (opts : GetCredentialsOpts)
  | createCredential (name : String) (opts : CredentialOpts)
  | getCredential (id : EntityId)
  | modifyCredential (id : EntityId) (opts : ModifyCredentialOpts)
  | deleteCredential (id : EntityId) (ultimate : Bool)
  | other (operation : String)
deriving DecidableEq, Repr

/-- `gvm_gmp::responses::CredentialStore`, with the fields that are read. -/
structure GmpCredentialStore where
  id : Option String
  name : String
  type : Option String
deriving DecidableEq, Repr

/-- `gvm_gmp::responses::Credential`, with the fields that are read. -/
structure GmpCredential where
  id : EntityId
  name : String
  comment : Option String
  type : Option String
  login : Option String
  inUse : Bool
  writable : Bool
deriving DecidableEq, Repr

/-- The credentials of a list response, and its counts. -/
structure GetCredentialsResponse where
  items : List GmpCredential
  counts : Counts
deriving DecidableEq, Repr

/-- What the response to a command holds; of a saved filter it is the term. -/
@[reducible] def GmpCommand.Response : GmpCommand → Type
  | .getCredentialStores | .getCredentialStore _ _ => List GmpCredentialStore
  | .createCredentialStoreCredential _ _ _ _ _ | .createCredential _ _ => EntityId
  | .getFilter _ => List (Option String)
  | .getCredentials _ | .getCredential _ => GetCredentialsResponse
  | .authenticate _ _ | .modifyCredentialStore _ _ | .verifyCredentialStore _
  | .modifyCredentialStoreCredential _ _ | .modifyCredential _ _ | .deleteCredential _ _
  | .other _ => Unit

/-! ## Calls -/

/-- What the gateway knows of gvmd's support for credential stores. -/
inductive CredentialStoreCapability where
  | unknown
  | supported
  | unsupported
deriving DecidableEq, Repr

/-- The `SessionClient` of a session, as the map of sessions shares it. -/
structure SharedClient where
  connection : ℕ
  credentialStoreCapability : CredentialStoreCapability
deriving DecidableEq, Repr

/-- What an operation of the adapter may do beside computing. -/
inductive AdapterCall (Digest : Type) where
  /-- `GmpClient::connect`: the connection, and the version it negotiates. -/
  | connect
  /-- `GmpClient::call` and the parser of its response, or a typed method of the client. -/
  | call (connection : ℕ) (command : GmpCommand)
  /-- The client of a session enters the map. -/
  | insert (token : String) (client : SharedClient)
  | get (token : String)
  /-- `SessionClient::lock`: whether it has found a free slot. -/
  | lock (client : SharedClient)
  | remove (session : Digest)
deriving DecidableEq, Repr

/-- The answer to each of these. -/
@[reducible] def AdapterCall.Reply {Digest : Type} : AdapterCall Digest → Type
  | .connect => Except GvmError (ℕ × String)
  | .call _ command => Except GvmError command.Response
  | .insert _ _ | .remove _ => Unit
  | .get _ => Option SharedClient
  | .lock _ => Bool

/-- The answers, as a family over the calls. -/
abbrev AdapterReply (Digest : Type) (c : AdapterCall Digest) : Type := c.Reply

/-- An operation of the adapter. -/
abbrev AdapterProgram (Digest α : Type) : Type :=
  Program (AdapterReply Digest) GatewayError α

variable {Digest : Type}

/-- A call on a connection, with the error as it is. -/
def tryCall (connection : ℕ) (command : GmpCommand) :
    AdapterProgram Digest (Except GvmError command.Response) :=
  .call (.call connection command) fun reply => .done (.ok reply)

/-- `.map_err(map_error)?` on a reply of the client. -/
def mapReply {α : Type} (mapError : GvmError → GatewayError) (reply : Except GvmError α) :
    AdapterProgram Digest α :=
  .done (reply.mapError mapError)

/-! ## Sessions -/

/-- A new connection to gvmd. -/
def connectClient : AdapterProgram Digest (ℕ × String) :=
  .call .connect fun reply => mapReply mapGvmError reply

/-- `connect_authenticated_client`: a new connection on which the user has logged in. -/
def connectAuthenticatedClient (username password : String) :
    AdapterProgram Digest (ℕ × String) := do
  let client ← connectClient
  let response ← tryCall client.1 (.authenticate username password)
  let _ ← mapReply mapGvmError response
  return client

/-- What the probe for credential stores found, and whether it cost the connection. -/
structure CredentialStoreProbeOutcome where
  capability : CredentialStoreCapability
  requiresReconnect : Bool
deriving DecidableEq, Repr

/-- `probe_credential_store_capability`, given the reply to `get_credential_stores`. -/
def probeCredentialStoreCapability {α : Type} :
    Except GvmError α → Except GvmError CredentialStoreProbeOutcome
  | .ok _ => .ok ⟨.supported, false⟩
  | .error (.unsupportedCommand command display) =>
    if command = "get_credential_stores" then .ok ⟨.unsupported, false⟩
    else .error (.unsupportedCommand command display)
  -- other errors may mean that too, and the connection is given up
  | .error err =>
    if credentialStoreCapabilityUnavailable err then .ok ⟨.unsupported, true⟩ else .error err

/-- The client that is stored, and its capability: the one that was probed, or a new one. -/
def settleClient (connection : ℕ) (username password : String)
    (outcome : Except GvmError CredentialStoreProbeOutcome) : AdapterProgram Digest SharedClient :=
  match outcome with
  | .ok ⟨capability, true⟩ => do
    let client ← connectAuthenticatedClient username password
    return ⟨client.1, capability⟩
  | .ok ⟨capability, false⟩ => return ⟨connection, capability⟩
  | .error _ => do
    let client ← connectAuthenticatedClient username password
    return ⟨client.1, .unknown⟩

/-- The client enters the session map. -/
def storeClient (token : String) (client : SharedClient) : AdapterProgram Digest Unit :=
  .call (.insert token client) fun _ => .done (.ok ())

/-- `connect_session`: a login, the probe, and a new connection where the probe cost the first. -/
def connectSession (token username password : String) : AdapterProgram Digest String := do
  let client ← connectAuthenticatedClient username password
  let reply ← tryCall client.1 .getCredentialStores
  let stored ← settleClient client.1 username password (probeCredentialStoreCapability reply)
  let _ ← storeClient token stored
  return client.2

/-- `disconnect_session`. -/
def disconnectSession (session : Digest) : AdapterProgram Digest Unit :=
  .call (.remove session) fun _ => .done (.ok ())

/-- `session_client`. -/
def sessionClient (token : String) : AdapterProgram Digest SharedClient :=
  .call (.get token) fun
    | some client => .done (.ok client)
    | none => .done (.error (.sessionInvalidated "missing gvmd session"))

/-- The lock of a session's client, which may be refused. -/
def lockClient (client : SharedClient) : AdapterProgram Digest Unit :=
  .call (.lock client) fun
    | true => .done (.ok ())
    | false => .done (.error (.tooManyRequests "session command queue saturated"))

/-- A command on the client of a session, under its lock. -/
def exchange (client : SharedClient) (mapError : GvmError → GatewayError)
    (command : GmpCommand) : AdapterProgram Digest command.Response := do
  let reply ← tryCall client.connection command
  mapReply mapError reply

/-- `call_with_session`. -/
def callWithSession (token : String) (command : GmpCommand) :
    AdapterProgram Digest command.Response := do
  let client ← sessionClient token
  let _ ← lockClient client
  exchange client mapGvmError command

/-! ## Identifiers and types -/

/-- What `gvm_gmp` parses, and its filters. -/
structure Gmp where
  filters : PaginatedFilter
  entityId : String → Option EntityId
  credentialType : String → Option GmpCredentialType
  snmpAuthAlgorithm : String → Option SnmpAuthAlgorithm
  snmpPrivacyAlgorithm : String → Option SnmpPrivacyAlgorithm

/-- `from_str(value).map_err(|_| GatewayError::InvalidInput(message))`. -/
def parseAs {α : Type} (parse : String → Option α) (what value : String) :
    Except GatewayError α :=
  match parse value with
  | some parsed => .ok parsed
  | none => .error (.invalidInput (what ++ value))

/-- Parsers that take everything, and filters without a term, for running the model. -/
def Gmp.any : Gmp where
  filters := {
    Builder := Unit
    new := ()
    withClause _ _ := ()
    withFilterString _ _ := ()
    tryWithFilterString _ _ _ := .ok ()
    withPagination _ _ := ()
    build _ := none
  }
  entityId value := some ⟨value⟩
  credentialType value := some ⟨value⟩
  snmpAuthAlgorithm value := some ⟨value⟩
  snmpPrivacyAlgorithm value := some ⟨value⟩

variable (gmp : Gmp)

/-- `parse_entity_id`. -/
def Gmp.parseEntityId (value : String) : Except GatewayError EntityId :=
  parseAs gmp.entityId "invalid UUID: " value

/-- `parse_credential_type`. -/
def Gmp.parseCredentialType (value : String) : Except GatewayError GmpCredentialType :=
  parseAs gmp.credentialType "invalid credential type: " value

/-- `parse_snmp_auth_algorithm`. -/
def Gmp.parseSnmpAuthAlgorithm (value : String) : Except GatewayError SnmpAuthAlgorithm :=
  parseAs gmp.snmpAuthAlgorithm "invalid authAlgorithm: " value

/-- `parse_snmp_privacy_algorithm`. -/
def Gmp.parseSnmpPrivacyAlgorithm (value : String) : Except GatewayError SnmpPrivacyAlgorithm :=
  parseAs gmp.snmpPrivacyAlgorithm "invalid privacyAlgorithm: " value

/-- `parse_credential_store_type`: the types of credentials in a store. -/
def parseCredentialStoreType (value : String) : Option CredentialStoreCredentialType :=
  if value = "cs_cc" then some .clientCertificate
  else if value = "cs_pw" then some .passwordOnly
  else if value = "cs_pgp" then some .pgpEncryptionKey
  else if value = "cs_smime" then some .smimeCertificate
  else if value = "cs_snmp" then some .snmp
  else if value = "cs_up" then some .usernamePassword
  else if value = "cs_usk" then some .usernameSshKey
  else none

/-! ## Checks -/

/-- `ensure_credential_stores_supported`. -/
def ensureCredentialStoresSupported (client : SharedClient) : Except GatewayError Unit :=
  if client.credentialStoreCapability = .unsupported then .error unsupportedCredentialStoreError
  else .ok ()

/-- `ensure_no_local_secret_fields`, of the eight fields in their order. -/
def ensureNoLocalSecretFields (fields : List (Option String)) : Except GatewayError Unit :=
  if fields.any Option.isSome then
    .error (.invalidInput
      "credential-store references cannot be combined with local credential values")
  else .ok ()

/-- The arguments of `ensure_no_local_secret_fields` in `create_credential`. -/
def localSecretFields (input : CreateCredentialInput) : List (Option String) :=
  [input.login, input.password, input.privateKey, input.certificate, input.community,
    input.authAlgorithm, input.privacyAlgorithm, input.privacyPassword]

/-- The arguments of `ensure_no_local_secret_fields` in `modify_credential`. -/
def modifiedSecretFields (input : ModifyCredentialInput) : List (Option String) :=
  [input.login, input.password, input.privateKey, input.certificate, input.community,
    input.authAlgorithm, input.privacyAlgorithm, input.privacyPassword]

/-- The input refers to a credential store. -/
def hasStoreFields (input : CreateCredentialInput) : Bool :=
  input.credentialStoreId.isSome || input.vaultId.isSome || input.hostIdentifier.isSome

/-- The update changes the reference into a credential store. -/
def modifiesStoreReference (input : ModifyCredentialInput) : Bool :=
  input.credentialStoreId.isSome || input.vaultId.isSome || input.hostIdentifier.isSome

/-- `.ok_or_else(|| GatewayError::InvalidInput(message))`. -/
def required (value : Option String) (message : String) : Except GatewayError String :=
  match value with
  | some value => .ok value
  | none => .error (.invalidInput message)

/-! ## Credential stores -/

/-- `credential_store_from_gmp`. -/
def credentialStoreFromGmp (store : GmpCredentialStore) : CredentialStore where
  id := store.id
  name := store.name
  provider := store.type
  default := none
  writable := none

/-- `list_credential_stores`. -/
def listCredentialStores (token : String) : AdapterProgram Digest (List CredentialStore) := do
  let client ← sessionClient token
  let _ ← ensureCredentialStoresSupported client
  let _ ← lockClient client
  let items ← exchange client mapCredentialStoreError .getCredentialStores
  return items.map credentialStoreFromGmp

/-- `get_credential_store`. -/
def getCredentialStore (token id : String) : AdapterProgram Digest CredentialStore := do
  let client ← sessionClient token
  let _ ← ensureCredentialStoresSupported client
  let _ ← lockClient client
  let storeId ← gmp.parseEntityId id
  let items ← exchange client mapCredentialStoreError (.getCredentialStore storeId (some true))
  okOrNotFound (items.head?.map credentialStoreFromGmp) ("credential store " ++ id ++ " not found")

/-- The options that `modify_credential_store` sends. -/
def modifyCredentialStoreOpts (input : ModifyCredentialStoreInput) :
    ModifyCredentialStoreOpts where
  active := input.active
  host := input.host
  path := input.path
  port := input.port
  comment := input.comment
  preferences := input.preferences.map fun preference => ⟨preference.name, preference.value⟩

/-- `modify_credential_store`. -/
def modifyCredentialStore (token id : String) (input : ModifyCredentialStoreInput) :
    AdapterProgram Digest CredentialStore := do
  let client ← sessionClient token
  let _ ← ensureCredentialStoresSupported client
  let _ ← lockClient client
  let storeId ← gmp.parseEntityId id
  let _ ← exchange client mapGvmError
    (.modifyCredentialStore storeId (modifyCredentialStoreOpts input))
  -- the read looks its client up again
  getCredentialStore gmp token id

/-- `verify_credential_store`. -/
def verifyCredentialStore (token id : String) : AdapterProgram Digest Unit := do
  let client ← sessionClient token
  let _ ← ensureCredentialStoresSupported client
  let _ ← lockClient client
  let storeId ← gmp.parseEntityId id
  exchange client mapCredentialStoreError (.verifyCredentialStore storeId)

/-! ## Credentials -/

/-- `credential_from_gmp`. -/
def credentialFromGmp (credential : GmpCredential) : Credential where
  id := credential.id.value
  name := credential.name
  comment := credential.comment
  credentialType := credential.type
  login := credential.login
  inUse := credential.inUse
  writable := credential.writable

/-- The term of a saved filter, read over the session. -/
def savedFilterTerm (token : String) (filterId : Option EntityId) :
    AdapterProgram Digest (Option String) :=
  match filterId with
  | none => return none
  | some id => do
    let terms ← callWithSession token (.getFilter id)
    okOrNotFound terms.head? ("filter " ++ id.value ++ " not found")

/-- One page of credentials. -/
structure CredentialPage where
  data : List Credential
  pagination : Pagination
deriving DecidableEq, Repr

/-- An identifier of a saved filter, with the error text of this port. -/
def Gmp.parseFilterId (filterId : Option String) : Except GatewayError (Option EntityId) :=
  match filterId with
  | none => .ok none
  | some value =>
    match gmp.entityId value with
    | some id => .ok (some id)
    | none => .error (.invalidInput "invalid filterId")

/-- `list_credentials`. -/
def listCredentials (token : String) (query : CredentialQuery) :
    AdapterProgram Digest CredentialPage := do
  let client ← sessionClient token
  let filterId ← gmp.parseFilterId query.filterId
  -- a call of its own, before the client is locked for the list
  let savedFilter ← savedFilterTerm token filterId
  let filterString ← composedFilter gmp.filters none savedFilter query.filterString
    (some ⟨query.page, query.perPage⟩) []
  let _ ← lockClient client
  let response ← exchange client mapGvmError (.getCredentials ⟨filterString, none, none, some true⟩)
  let items := response.items.map credentialFromGmp
  let total := gvmdTotal response.counts.filtered response.counts.total items.length
  return ⟨items, pagedPagination total query.page query.perPage⟩

/-- The command of a credential that a store keeps. -/
def createStoreCredential (client : SharedClient) (input : CreateCredentialInput)
    (credentialType : CredentialStoreCredentialType) : AdapterProgram Digest String := do
  let _ ← ensureCredentialStoresSupported client
  let _ ← ensureNoLocalSecretFields (localSecretFields input)
  let vaultId ← required input.vaultId
    "vaultId is required for a credential-store-backed credential"
  let hostIdentifier ← required input.hostIdentifier
    "hostIdentifier is required for a credential-store-backed credential"
  -- the identifier of the store is parsed under the lock
  let _ ← lockClient client
  let storeId ← parseOptional gmp.parseEntityId input.credentialStoreId
  let id ← exchange client mapGvmError (.createCredentialStoreCredential input.name
    credentialType vaultId hostIdentifier ⟨input.comment, storeId⟩)
  return id.value

/-- The command of a credential with its own secrets. -/
def createLocalCredential (client : SharedClient) (input : CreateCredentialInput) :
    AdapterProgram Digest String := do
  let _ ← lockClient client
  let credentialType ← gmp.parseCredentialType input.credentialType
  let authAlgorithm ← parseOptional gmp.parseSnmpAuthAlgorithm input.authAlgorithm
  let privacyAlgorithm ← parseOptional gmp.parseSnmpPrivacyAlgorithm input.privacyAlgorithm
  let id ← exchange client mapGvmError (.createCredential input.name {
    comment := input.comment
    credentialType := some credentialType
    login := input.login
    password := input.password
    privateKey := input.privateKey
    certificate := input.certificate
    community := input.community
    authAlgorithm := authAlgorithm
    privacyPassword := input.privacyPassword
    privacyAlgorithm := privacyAlgorithm
  })
  return id.value

/-- `create_credential`: in a store, or with secrets of its own. -/
def createCredential (token : String) (input : CreateCredentialInput) :
    AdapterProgram Digest String := do
  let client ← sessionClient token
  match parseCredentialStoreType input.credentialType with
  | some credentialType => createStoreCredential gmp client input credentialType
  | none =>
    if hasStoreFields input then
      .done (.error (.invalidInput
        "credential-store fields require a credential type with the `cs_` prefix"))
    else createLocalCredential gmp client input

/-- `get_credential`. -/
def getCredential (token id : String) : AdapterProgram Digest Credential := do
  let client ← sessionClient token
  let _ ← lockClient client
  let credentialId ← gmp.parseEntityId id
  let response ← exchange client mapGvmError (.getCredential credentialId)
  okOrNotFound (response.items.head?.map credentialFromGmp) ("credential " ++ id ++ " not found")

/-- The update of the reference into a store. -/
def modifyStoreCredential (client : SharedClient) (id : String) (input : ModifyCredentialInput) :
    AdapterProgram Digest Unit := do
  let _ ← ensureCredentialStoresSupported client
  let _ ← ensureNoLocalSecretFields (modifiedSecretFields input)
  let _ ← lockClient client
  let credentialId ← gmp.parseEntityId id
  let storeId ← parseOptional gmp.parseEntityId input.credentialStoreId
  exchange client mapGvmError (.modifyCredentialStoreCredential credentialId
    ⟨input.name, input.comment, storeId, input.vaultId, input.hostIdentifier⟩)

/-- The update of a credential with its own secrets. -/
def modifyLocalCredential (client : SharedClient) (id : String) (input : ModifyCredentialInput) :
    AdapterProgram Digest Unit := do
  let _ ← lockClient client
  let credentialId ← gmp.parseEntityId id
  let authAlgorithm ← parseOptional gmp.parseSnmpAuthAlgorithm input.authAlgorithm
  let privacyAlgorithm ← parseOptional gmp.parseSnmpPrivacyAlgorithm input.privacyAlgorithm
  exchange client mapGvmError (.modifyCredential credentialId {
    name := input.name
    comment := input.comment
    login := input.login
    password := input.password
    privateKey := input.privateKey
    certificate := input.certificate
    community := input.community
    authAlgorithm := authAlgorithm
    privacyPassword := input.privacyPassword
    privacyAlgorithm := privacyAlgorithm
  })

/-- The update of `modify_credential`, which tells the two kinds apart by the fields given. -/
def sendModification (client : SharedClient) (id : String) (input : ModifyCredentialInput) :
    AdapterProgram Digest Unit :=
  if modifiesStoreReference input then modifyStoreCredential gmp client id input
  else modifyLocalCredential gmp client id input

/-- `modify_credential`: the update, and the read of its result. -/
def modifyCredential (token id : String) (input : ModifyCredentialInput) :
    AdapterProgram Digest Credential := do
  let client ← sessionClient token
  let _ ← sendModification gmp client id input
  -- with a client and a lock of its own
  getCredential gmp token id

/-- `delete_credential`. -/
def deleteCredential (token id : String) (ultimate : Bool) : AdapterProgram Digest Unit := do
  let client ← sessionClient token
  let _ ← lockClient client
  let credentialId ← gmp.parseEntityId id
  exchange client mapGvmError (.deleteCredential credentialId ultimate)

end GvmGateway.Gvmd
