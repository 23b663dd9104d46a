import GvmGateway.Gvmd.Tasks

/-!
# Scan configs and policies of the gvmd adapter

`ports/scan_configs.rs`: the operations on one scan config and on one policy, which are configs
of two usage types.
-/

namespace GvmGateway.Gvmd

open Calls

inductive ConfigUsageType where
  | scan
  | policy
deriving DecidableEq, Repr

structure ModifyConfigOpts where
  name : Option String
  comment : Option String
  usageType : Option ConfigUsageType
deriving DecidableEq, Repr

structure GetScanConfigsOpts where
  filterString : Option String
  filterId : Option EntityId
  trash : Option Bool
  details : Option Bool
deriving DecidableEq, Repr

/-- The commands on scan configs and policies. -/
inductive ConfigCommand where
  | getScanConfig (id : EntityId)
  | modifyConfigGeneric (id : EntityId) (opts : ModifyConfigOpts)
  | deleteScanConfig (id : EntityId) (ultimate : Bool)
  | getPolicies (opts : GetScanConfigsOpts)
  | deletePolicy (id : EntityId)
deriving DecidableEq, Repr

/-- What the response to a command holds; `Item` is a config in a response. -/
@[reducible] def ConfigCommand.Response (Item : Type) : ConfigCommand → Type
  | .getScanConfig _ | .getPolicies _ => List Item
  | .modifyConfigGeneric _ _ | .deleteScanConfig _ _ | .deletePolicy _ => Unit

abbrev ConfigReply (Item : Type) (command : ConfigCommand) : Type :=
  Except GatewayError (command.Response Item)

abbrev ConfigProgram (Item α : Type) : Type :=
  Program (ConfigReply Item) GatewayError α

/-- A config or a task in a response; `detail` is what it holds beside its usage type. -/
structure UsageItem (Detail : Type) where
  usageType : Option String
  detail : Detail
deriving DecidableEq, Repr

/-- `client.lock().await?.call(..)`. -/
def callConfig {Item : Type} (command : ConfigCommand) :
    ConfigProgram Item (command.Response Item) :=
  Program.request command

namespace GvmdAdapter

variable {Result Detail Config : Type} (adapter : GvmdAdapter Result)

/-! ## Scan configs -/

/-- A policy must not be readable through the scan-config route. -/
def getScanConfig (scanConfigFromGmp : UsageItem Detail → Config) (id : String) :
    ConfigProgram (UsageItem Detail) Config := do
  let _ ← adapter.sessionClient
  let configId ← adapter.parseEntityId id
  let items : List (UsageItem Detail) ← callConfig (.getScanConfig configId)
  okOrNotFound ((items.head?.filter (·.usageType ≠ some "policy")).map scanConfigFromGmp)
    ("scan config " ++ id ++ " not found")

def modifyScanConfig (scanConfigFromGmp : UsageItem Detail → Config) (id : String)
    (input : ModifyScanConfigInput) : ConfigProgram (UsageItem Detail) Config := do
  let _ ← adapter.sessionClient
  let configId ← adapter.parseEntityId id
  let _ ← callConfig (.modifyConfigGeneric configId
    { name := input.name, comment := input.comment, usageType := some .scan })
  adapter.getScanConfig scanConfigFromGmp id

def deleteScanConfig (id : String) (ultimate : Bool) :
    ConfigProgram (UsageItem Detail) Unit := do
  let _ ← adapter.sessionClient
  let configId ← adapter.parseEntityId id
  callConfig (.deleteScanConfig configId ultimate)

/-! ## Policies -/

/-- The read through the policy-scoped `get_configs usage_type="policy"`, filtered to one id. -/
def getPolicy (scanConfigFromGmp : UsageItem Detail → Config) (id : String) :
    ConfigProgram (UsageItem Detail) Config := do
  let _ ← adapter.parseEntityId id
  let _ ← adapter.sessionClient
  let items : List (UsageItem Detail) ← callConfig (.getPolicies {
    filterString := some ("uuid=" ++ id)
    filterId := none
    trash := none
    details := some true
  })
  okOrNotFound (items.head?.map scanConfigFromGmp) ("policy " ++ id ++ " not found")

def modifyPolicy (scanConfigFromGmp : UsageItem Detail → Config) (id : String)
    (input : ModifyScanConfigInput) : ConfigProgram (UsageItem Detail) Config := do
  let _ ← adapter.sessionClient
  let configId ← adapter.parseEntityId id
  let _ ← callConfig (.modifyConfigGeneric configId
    { name := input.name, comment := input.comment, usageType := some .policy })
  adapter.getPolicy scanConfigFromGmp id

def deletePolicy (id : String) : ConfigProgram (UsageItem Detail) Unit := do
  let _ ← adapter.sessionClient
  let configId ← adapter.parseEntityId id
  callConfig (.deletePolicy configId)

end GvmdAdapter

end GvmGateway.Gvmd
