import GvmGateway.Gvmd.Tasks

/-!
# Users, groups, roles and agent groups of the gvmd adapter

The updates of `ports/identity.rs`, and that of an agent group in `ports/agents.rs`, each with
the read that follows it. The items of the responses and their conversions are parameters.
-/

namespace GvmGateway.Gvmd

open Calls

/-- `gvm_gmp::UserHostAccess`: the hosts that a user may scan, or the hosts denied to it. -/
structure UserHostAccess where
  allow : Bool
  hosts : String
deriving DecidableEq, Repr

/-- `UserHostAccess::allow`. -/
def UserHostAccess.ofAllowed (hosts : String) : UserHostAccess where
  allow := true
  hosts := hosts

/-- `CollectionUpdate::from`. -/
def CollectionUpdate.ofList {α : Type} (values : List α) : CollectionUpdate α :=
  if values.isEmpty then .clear else .replace values

/-- `gvm_gmp::UserAuthType`. -/
structure UserAuthType where
  value : String
deriving DecidableEq, Repr

/-- `hostAccess` is absent where the command has no `hosts` element. -/
structure ModifyUserOpts where
  newName : Option String
  comment : Option String
  password : Option String
  hostAccess : Option UserHostAccess
  roleIds : CollectionUpdate EntityId
  authType : Option UserAuthType
deriving DecidableEq, Repr

/-- The options of `modify_group`; no users is the empty list. -/
structure GroupOpts where
  comment : Option String
  users : List String
deriving DecidableEq, Repr

/-- The options of `modify_role`; no users is the empty list. -/
structure RoleOpts where
  comment : Option String
  users : List String
deriving DecidableEq, Repr

/-- The options of `modify_agent_group`; no agents is the empty list. -/
structure ModifyAgentGroupOpts where
  name : Option String
  comment : Option String
  agentIds : List EntityId
deriving DecidableEq, Repr

/-- The commands on users, groups, roles and agent groups. -/
inductive IdentityCommand where
  | getUser (id : EntityId)
  | modifyUser (id : EntityId) (opts : ModifyUserOpts)
  | getGroup (id : EntityId)
  | modifyGroup (id : EntityId) (opts : GroupOpts)
  | getRole (id : EntityId)
  | modifyRole (id : EntityId) (opts : RoleOpts)
  | getAgentGroup (id : EntityId)
  | modifyAgentGroup (id : EntityId) (schedulerCronTime : String) (opts : ModifyAgentGroupOpts)
deriving DecidableEq, Repr

/-- The users, groups, roles and agent groups in responses. `hostAccess` is
`gvm_gmp::responses::User::host_access`. -/
structure IdentityItems where
  User : Type
  Group : Type
  Role : Type
  AgentGroup : Type
  hostAccess : User → Option UserHostAccess

/-- What the response to a command holds. -/
@[reducible] def IdentityCommand.Response (items : IdentityItems) : IdentityCommand → Type
  | .getUser _ => List items.User
  | .getGroup _ => List items.Group
  | .getRole _ => List items.Role
  | .getAgentGroup _ => List items.AgentGroup
  | .modifyUser _ _ | .modifyGroup _ _ | .modifyRole _ _ | .modifyAgentGroup _ _ _ => Unit

/-- The reply to a command: its parsed response, or an error in its place. -/
abbrev IdentityReply (items : IdentityItems) (command : IdentityCommand) : Type :=
  Except GatewayError (command.Response items)

/-- An operation on them. -/
abbrev IdentityProgram (items : IdentityItems) (α : Type) : Type :=
  Program (IdentityReply items) GatewayError α

namespace GvmdAdapter

variable {Result : Type} (adapter : GvmdAdapter Result) {items : IdentityItems}
  {User Group Role AgentGroup : Type}

/-- `call_with_session`, and the session client with its `call`. -/
def callIdentity (command : IdentityCommand) :
    IdentityProgram items (command.Response items) := do
  let _ ← adapter.sessionClient
  Program.request command

/-! ## Users -/

/-- The user as it is in the response. -/
def getGmpUser (id : String) : IdentityProgram items items.User := do
  let userId ← adapter.parseEntityId id
  let users : List items.User ← adapter.callIdentity (.getUser userId)
  okOrNotFound users.head? ("user " ++ id ++ " not found")

/-- `get_user`. -/
def getUser (userFromGmp : items.User → User) (id : String) : IdentityProgram items User := do
  let user ← adapter.getGmpUser id
  return userFromGmp user

/-- The host access of `modify_user`: the one of the input, or else the one read back. -/
def hostAccessFor (id : String) (hosts : Option String) :
    IdentityProgram items (Option UserHostAccess) :=
  match hosts with
  | some hosts => return some (.ofAllowed hosts)
  | none => do
    let user ← adapter.getGmpUser id
    return items.hostAccess user

/-- `authType` is `UserAuthType::from_str`. -/
def parseUserAuthType (authType : String → Option UserAuthType) (value : String) :
    Except GatewayError UserAuthType :=
  match authType value with
  | some authType => .ok authType
  | none => .error (.invalidInput ("invalid authenticationType: " ++ value))

/-- The update of the roles that `modify_user` sends. -/
def roleUpdate (roleIds : Option (List String)) :
    Except GatewayError (CollectionUpdate EntityId) := do
  let roleIds ← roleIds.mapM adapter.parseEntityIds
  return (roleIds.map .ofList).getD .omitted

/-- `modify_user`. -/
def modifyUser (authType : String → Option UserAuthType) (userFromGmp : items.User → User)
    (id : String) (input : ModifyUserInput) : IdentityProgram items User := do
  let userId ← adapter.parseEntityId id
  let hostAccess ← adapter.hostAccessFor id input.hosts
  let roleIds ← adapter.roleUpdate input.roleIds
  let authType ← parseOptional (parseUserAuthType authType) input.authenticationType
  let _ ← adapter.callIdentity (.modifyUser userId {
    newName := input.name
    comment := input.comment
    password := input.password
    hostAccess := hostAccess
    roleIds := roleIds
    authType := authType
  })
  adapter.getUser userFromGmp id

/-! ## Groups, roles and agent groups -/

/-- The session is looked up before the identifier is parsed. -/
def getGroup (groupFromGmp : items.Group → Group) (id : String) : IdentityProgram items Group := do
  let _ ← adapter.sessionClient
  let groupId ← adapter.parseEntityId id
  let groups : List items.Group ← adapter.callIdentity (.getGroup groupId)
  okOrNotFound (groups.head?.map groupFromGmp) ("group " ++ id ++ " not found")

/-- The options that `modify_group` sends. -/
def groupOpts (input : ModifyGroupInput) : GroupOpts where
  comment := input.comment
  users := input.users.getD []

/-- `modify_group`. -/
def modifyGroup (groupFromGmp : items.Group → Group) (id : String) (input : ModifyGroupInput) :
    IdentityProgram items Group := do
  let _ ← adapter.sessionClient
  let groupId ← adapter.parseEntityId id
  let _ ← adapter.callIdentity (.modifyGroup groupId (groupOpts input))
  adapter.getGroup groupFromGmp id

/-- `get_role`, as for a group. -/
def getRole (roleFromGmp : items.Role → Role) (id : String) : IdentityProgram items Role := do
  let _ ← adapter.sessionClient
  let roleId ← adapter.parseEntityId id
  let roles : List items.Role ← adapter.callIdentity (.getRole roleId)
  okOrNotFound (roles.head?.map roleFromGmp) ("role " ++ id ++ " not found")

/-- The options that `modify_role` sends. -/
def roleOpts (input : ModifyRoleInput) : RoleOpts where
  comment := input.comment
  users := input.users.getD []

/-- `modify_role`. -/
def modifyRole (roleFromGmp : items.Role → Role) (id : String) (input : ModifyRoleInput) :
    IdentityProgram items Role := do
  let _ ← adapter.sessionClient
  let roleId ← adapter.parseEntityId id
  let _ ← adapter.callIdentity (.modifyRole roleId (roleOpts input))
  adapter.getRole roleFromGmp id

/-- `get_agent_group`. -/
def getAgentGroup (agentGroupFromGmp : items.AgentGroup → AgentGroup) (id : String) :
    IdentityProgram items AgentGroup := do
  let agentGroupId ← adapter.parseEntityId id
  let agentGroups : List items.AgentGroup ← adapter.callIdentity (.getAgentGroup agentGroupId)
  okOrNotFound (agentGroups.head?.map agentGroupFromGmp) ("agent group " ++ id ++ " not found")

/-- The options that `modify_agent_group` sends. -/
def modifyAgentGroupOpts (input : ModifyAgentGroupInput) :
    Except GatewayError ModifyAgentGroupOpts := do
  let agentIds ← input.agentIds.mapM adapter.parseEntityIds
  return { name := input.name, comment := input.comment, agentIds := agentIds.getD [] }

/-- `modify_agent_group`. -/
def modifyAgentGroup (agentGroupFromGmp : items.AgentGroup → AgentGroup) (id : String)
    (input : ModifyAgentGroupInput) : IdentityProgram items AgentGroup := do
  let agentGroupId ← adapter.parseEntityId id
  let opts ← adapter.modifyAgentGroupOpts input
  let _ ← adapter.callIdentity (.modifyAgentGroup agentGroupId input.schedulerCronTime opts)
  adapter.getAgentGroup agentGroupFromGmp id

end GvmdAdapter

end GvmGateway.Gvmd
