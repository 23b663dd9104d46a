import GvmGateway.Domain.Error

/-!
# Credentials

Credentials and credential stores as the ports exchange them, and the commands that create and
update them. A `u16` or `u32` is a natural number.
-/

namespace GvmGateway

/-- Domain credential representation. -/
structure Credential where
  id : String
  name : String
  comment : Option String
  credentialType : Option String
  login : Option String
  inUse : Bool
  writable : Bool
deriving DecidableEq, Repr

/-- Backend credential store available for new credentials. -/
structure CredentialStore where
  id : Option String
  name : String
  provider : Option String
  default : Option Bool
  writable : Option Bool
deriving DecidableEq, Repr

structure CredentialStorePreferenceInput where
  name : String
  value : String
deriving DecidableEq, Repr

/-- Credential-store update command. -/
structure ModifyCredentialStoreInput where
  active : Option Bool
  host : Option String
  path : Option String
  port : Option ℕ
  comment : Option String
  preferences : List CredentialStorePreferenceInput
deriving DecidableEq, Repr

/-- Credential list query options. -/
structure CredentialQuery where
  filterString : Option String
  filterId : Option String
  page : ℕ
  perPage : ℕ
deriving DecidableEq, Repr

/-- Credential create command. -/
structure CreateCredentialInput where
  name : String
  comment : Option String
  credentialType : String
  login : Option String
  password : Option String
  privateKey : Option String
  certificate : Option String
  community : Option String
  authAlgorithm : Option String
  privacyAlgorithm : Option String
  privacyPassword : Option String
  credentialStoreId : Option String
  vaultId : Option String
  hostIdentifier : Option String
deriving DecidableEq, Repr

/-- Credential update command. -/
structure ModifyCredentialInput where
  name : Option String
  comment : Option String
  login : Option String
  password : Option String
  privateKey : Option String
  certificate : Option String
  community : Option String
  authAlgorithm : Option String
  privacyAlgorithm : Option String
  privacyPassword : Option String
  credentialStoreId : Option String
  vaultId : Option String
  hostIdentifier : Option String
deriving DecidableEq, Repr

end GvmGateway
