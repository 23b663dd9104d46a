import GvmGateway.Domain.Inputs
import GvmGateway.Gvmd.Filters
import GvmGateway.Library.Calls

/-!
# Tasks and audits of the gvmd adapter

`ports/tasks.rs`: the command that creates a task, the updates of tasks and audits, and the
operations on one audit. An operation is a program of commands to gvmd; the items of its
responses, their conversions and the refusals of the command builders are parameters.
-/

namespace GvmGateway.Gvmd

open Calls

/-! ## Commands -/

/-- `gvm_gmp::HostsOrdering`. -/
inductive HostsOrdering where
  | sequential
  | random
  | reverse
deriving DecidableEq, Repr

/-- The options of a classic task. -/
structure CreateTaskOpts where
  alterable : Option Bool
  hostsOrdering : Option HostsOrdering
  scheduleId : Option EntityId
  alertIds : List EntityId
  comment : Option String
  schedulePeriods : Option ℕ
  observers : List String
  observerGroupIds : List EntityId
  preferences : List (String × String)
deriving DecidableEq, Repr

/-- `CreateAgentGroupTaskOpts`, `CreateOciImageTargetTaskOpts` and
`CreateWebApplicationTaskOpts`. -/
structure CreateVariantTaskOpts where
  comment : Option String
  alterable : Option Bool
  scheduleId : Option EntityId
  alertIds : List EntityId
  schedulePeriods : Option ℕ
  observers : List String
  observerGroupIds : List EntityId
  preferences : List (String × String)
deriving DecidableEq, Repr

/-- `gvm_gmp::ScalarUpdate`, with the two updates that the adapter sends. -/
inductive ScalarUpdate (α : Type) where
  | omitted
  | set (value : α)
deriving DecidableEq, Repr

/-- `gvm_gmp::CollectionUpdate`. -/
inductive CollectionUpdate (α : Type) where
  | omitted
  | clear
  | replace (values : List α)
deriving DecidableEq, Repr

/-- The options of an update; what is omitted is left as it is. -/
structure ModifyTaskOpts where
  name : Option String
  comment : Option String
  alterable : Option Bool
  hostsOrdering : Option HostsOrdering
  scheduleId : ScalarUpdate EntityId
  schedulePeriods : Option ℕ
  targetId : Option EntityId
  configId : Option EntityId
  scannerId : Option EntityId
  alertIds : Option (List EntityId)
  observers : CollectionUpdate String
  observerGroupIds : CollectionUpdate EntityId
  preferences : List (String × String)
deriving DecidableEq, Repr

/-- The options of the list of tasks. -/
structure GetTasksOpts where
  filterString : Option String
  filterId : Option EntityId
  trash : Option Bool
  details : Option Bool
  schedulesOnly : Option Bool
  ignorePagination : Option Bool
deriving DecidableEq, Repr

/-- The five commands that create a task. -/
inductive CreateTaskCommand where
  | createTask (name : String) (configId targetId scannerId : EntityId) (opts : CreateTaskOpts)
  | createAgentGroupTask (name : String) (agentGroupId scannerId : EntityId)
      (opts : CreateVariantTaskOpts)
  | createOciImageTargetTask (name : String) (ociImageTargetId scannerId : EntityId)
      (opts : CreateVariantTaskOpts)
  | createWebApplicationTask (name : String) (webApplicationTargetId scannerId : EntityId)
      (opts : CreateVariantTaskOpts)
  | createImportTask (name : String) (comment : Option String)
deriving DecidableEq, Repr

/-- The commands on tasks and audits. -/
inductive TaskCommand where
  | create (command : CreateTaskCommand)
  | getTask (id : EntityId)
  | modifyTask (id : EntityId) (opts : ModifyTaskOpts)
  | getAudits (opts : GetTasksOpts)
  | modifyAudit (id : EntityId) (opts : ModifyTaskOpts)
  | deleteAudit (id : EntityId)
  | startAudit (id : EntityId)
  | stopAudit (id : EntityId)
  | resumeAudit (id : EntityId)
deriving DecidableEq, Repr

/-- What the response to a command holds; `Item` is a task in a response. -/
@[reducible] def TaskCommand.Response (Item : Type) : TaskCommand → Type
  | .create _ => EntityId
  | .getTask _ | .getAudits _ => List Item
  | .startAudit _ | .resumeAudit _ => Option EntityId
  | .modifyTask _ _ | .modifyAudit _ _ | .deleteAudit _ | .stopAudit _ => Unit

/-- The reply to a command: its parsed response, or the error that gvmd or the transport gives
in its place. -/
abbrev TaskReply (Item : Type) (command : TaskCommand) : Type :=
  Except GatewayError (command.Response Item)

/-- An operation on tasks and audits. -/
abbrev TaskProgram (Item α : Type) : Type :=
  Program (TaskReply Item) GatewayError α

/-- `parse_hosts_ordering`. -/
def parseHostsOrdering (value : String) : Except GatewayError HostsOrdering :=
  if value = "sequential" then .ok .sequential
  else if value = "random" then .ok .random
  else if value = "reverse" then .ok .reverse
  else .error (.invalidInput ("invalid hostsOrdering: " ++ value))

/-- `value.as_deref().map(parse).transpose()?`. -/
def parseOptional {α : Type} (parse : String → Except GatewayError α) (value : Option String) :
    Except GatewayError (Option α) :=
  match value with
  | none => .ok none
  | some value => (parse value).map some

/-- `.ok_or_else(|| GatewayError::NotFound(message))`. -/
def okOrNotFound {α : Type} (item : Option α) (message : String) : Except GatewayError α :=
  match item with
  | some item => .ok item
  | none => .error (.notFound message)

namespace GvmdAdapter

variable {Result Item Task : Type} (adapter : GvmdAdapter Result)

/-- `ids.iter().map(|id| parse_entity_id(id)).collect()`. -/
def parseEntityIds (ids : List String) : Except GatewayError (List EntityId) :=
  ids.mapM adapter.parseEntityId

/-! ## Creating a task -/

/-- The refusal of `create_task` of a hosts ordering on a variant. -/
def refuseHostsOrdering (input : CreateTaskInput) : Except GatewayError Unit :=
  if input.hostsOrdering.isSome then
    .error (.invalidInput "hostsOrdering is only valid for classic tasks")
  else .ok ()

/-- The refusal of `create_task` of what an import task cannot carry. -/
def refuseImportFields (input : CreateTaskInput) : Except GatewayError Unit :=
  if input.scheduleId.isSome || !input.alertIds.isEmpty || input.alterable.isSome
      || input.hostsOrdering.isSome || !input.observers.isEmpty
      || input.schedulePeriods.isSome || !input.preferences.isEmpty then
    .error (.invalidInput "import tasks accept only type, name, and comment")
  else .ok ()

/-- The options of a task that is not a classic one. -/
def createVariantTaskOpts (input : CreateTaskInput) (scheduleId : Option EntityId)
    (alertIds : List EntityId) : CreateVariantTaskOpts where
  comment := input.comment
  alterable := input.alterable
  scheduleId := scheduleId
  alertIds := alertIds
  schedulePeriods := input.schedulePeriods
  observers := input.observers
  observerGroupIds := []
  preferences := input.preferences

/-- The command of a classic task. -/
def createClassicCommand (input : CreateTaskInput) (targetId scanConfigId scannerId : String)
    (scheduleId : Option EntityId) (alertIds : List EntityId) :
    Except GatewayError CreateTaskCommand := do
  let hostsOrdering ← parseOptional parseHostsOrdering input.hostsOrdering
  let configId ← adapter.parseEntityId scanConfigId
  let targetId ← adapter.parseEntityId targetId
  let scannerId ← adapter.parseEntityId scannerId
  return .createTask input.name configId targetId scannerId {
    alterable := input.alterable
    hostsOrdering := hostsOrdering
    scheduleId := scheduleId
    alertIds := alertIds
    comment := input.comment
    schedulePeriods := input.schedulePeriods
    observers := input.observers
    observerGroupIds := []
    preferences := input.preferences
  }

/-- The three variants that name their target by one identifier beside the scanner's. -/
def createVariantCommand
    (command : String → EntityId → EntityId → CreateVariantTaskOpts → CreateTaskCommand)
    (input : CreateTaskInput) (targetId scannerId : String) (scheduleId : Option EntityId)
    (alertIds : List EntityId) : Except GatewayError CreateTaskCommand := do
  let _ ← refuseHostsOrdering input
  let targetId ← adapter.parseEntityId targetId
  let scannerId ← adapter.parseEntityId scannerId
  return command input.name targetId scannerId (createVariantTaskOpts input scheduleId alertIds)

/-- The command that `create_task` sends. -/
def createTaskCommand (input : CreateTaskInput) : Except GatewayError CreateTaskCommand := do
  let scheduleId ← parseOptional adapter.parseEntityId input.scheduleId
  let alertIds ← adapter.parseEntityIds input.alertIds
  match input.target with
  | .classic targetId scanConfigId scannerId =>
    adapter.createClassicCommand input targetId scanConfigId scannerId scheduleId alertIds
  | .agentGroup agentGroupId scannerId =>
    adapter.createVariantCommand .createAgentGroupTask input agentGroupId scannerId scheduleId
      alertIds
  | .ociImage ociImageTargetId scannerId =>
    adapter.createVariantCommand .createOciImageTargetTask input ociImageTargetId scannerId
      scheduleId alertIds
  | .webApplication webApplicationTargetId scannerId =>
    adapter.createVariantCommand .createWebApplicationTask input webApplicationTargetId scannerId
      scheduleId alertIds
  | .import => do
    let _ ← refuseImportFields input
    return .createImportTask input.name input.comment

/-! ## Updates -/

/-- The options of `modify_task` and `modify_audit`. -/
def modifyTaskOpts (input : ModifyTaskInput) : Except GatewayError ModifyTaskOpts := do
  let targetId ← parseOptional adapter.parseEntityId input.targetId
  let configId ← parseOptional adapter.parseEntityId input.scanConfigId
  let scannerId ← parseOptional adapter.parseEntityId input.scannerId
  let scheduleId ← parseOptional adapter.parseEntityId input.scheduleId
  let alertIds ← input.alertIds.mapM adapter.parseEntityIds
  let hostsOrdering ← parseOptional parseHostsOrdering input.hostsOrdering
  return {
    name := input.name
    comment := input.comment
    alterable := input.alterable
    hostsOrdering := hostsOrdering
    scheduleId := (scheduleId.map .set).getD .omitted
    schedulePeriods := input.schedulePeriods
    targetId := targetId
    configId := configId
    scannerId := scannerId
    alertIds := alertIds
    observers := .replace input.observers
    observerGroupIds := .omitted
    preferences := input.preferences
  }

/-- The command of an update. `refuses` tells why its builder, `modify_task_cmd` or
`modify_audit_cmd`, does not take the options. -/
def modifyCommand (command : EntityId → ModifyTaskOpts → TaskCommand)
    (refuses : EntityId → ModifyTaskOpts → Option String) (id : String)
    (input : ModifyTaskInput) : Except GatewayError TaskCommand := do
  let taskId ← adapter.parseEntityId id
  let opts ← adapter.modifyTaskOpts input
  match refuses taskId opts with
  | some error => .error (.invalidInput error)
  | none => return command taskId opts

/-- The command of `modify_task`. -/
def modifyTaskCommand : (EntityId → ModifyTaskOpts → Option String) → String →
    ModifyTaskInput → Except GatewayError TaskCommand :=
  adapter.modifyCommand .modifyTask

/-- The command of `modify_audit`. -/
def modifyAuditCommand : (EntityId → ModifyTaskOpts → Option String) → String →
    ModifyTaskInput → Except GatewayError TaskCommand :=
  adapter.modifyCommand .modifyAudit

/-! ## Operations -/

/-- `call_with_session`. -/
def callTask (command : TaskCommand) : TaskProgram Item (command.Response Item) := do
  let _ ← adapter.sessionClient
  Program.request command

/-- `create_task`. -/
def createTask (input : CreateTaskInput) : TaskProgram Item String := do
  let command ← adapter.createTaskCommand input
  let id : EntityId ← adapter.callTask (.create command)
  return id.value

/-- `get_task`. -/
def getTask (taskFromGmp : Item → Task) (id : String) : TaskProgram Item Task := do
  let taskId ← adapter.parseEntityId id
  let items : List Item ← adapter.callTask (.getTask taskId)
  okOrNotFound (items.head?.map taskFromGmp) ("task " ++ id ++ " not found")

/-- The read through the audit-scoped `get_tasks usage_type="audit"`, filtered to one id. -/
def getAudit (taskFromGmp : Item → Task) (id : String) : TaskProgram Item Task := do
  let _ ← adapter.parseEntityId id
  let items : List Item ← adapter.callTask (.getAudits {
    filterString := some ("uuid=" ++ id)
    filterId := none
    trash := none
    details := some true
    schedulesOnly := none
    ignorePagination := some true
  })
  okOrNotFound (items.head?.map taskFromGmp) ("audit " ++ id ++ " not found")

/-- `modify_task`. -/
def modifyTask (refuses : EntityId → ModifyTaskOpts → Option String) (taskFromGmp : Item → Task)
    (id : String) (input : ModifyTaskInput) : TaskProgram Item Task := do
  let command ← adapter.modifyTaskCommand refuses id input
  let _ ← adapter.callTask command
  adapter.getTask taskFromGmp id

/-- `modify_audit`. -/
def modifyAudit (refuses : EntityId → ModifyTaskOpts → Option String)
    (taskFromGmp : Item → Task) (id : String) (input : ModifyTaskInput) :
    TaskProgram Item Task := do
  let command ← adapter.modifyAuditCommand refuses id input
  let _ ← adapter.callTask command
  adapter.getAudit taskFromGmp id

/-- `delete_audit`, which does not look at the usage type. -/
def deleteAudit (id : String) : TaskProgram Item Unit := do
  let taskId ← adapter.parseEntityId id
  adapter.callTask (.deleteAudit taskId)

/-- The report of a task that was started or resumed. -/
def reportIdOf (operation : String) (reportId : Option EntityId) : Except GatewayError String :=
  match reportId with
  | some reportId => .ok reportId.value
  | none => .error (.backendUnavailable (operation ++ " did not return a report_id"))

/-- The audit discriminator is enforced before the resource is acted on. -/
def startAudit (taskFromGmp : Item → Task) (id : String) : TaskProgram Item String := do
  let _ ← adapter.getAudit taskFromGmp id
  let taskId ← adapter.parseEntityId id
  let reportId : Option EntityId ← adapter.callTask (.startAudit taskId)
  reportIdOf "start_audit" reportId

/-- `stop_audit`. -/
def stopAudit (taskFromGmp : Item → Task) (id : String) : TaskProgram Item Unit := do
  let _ ← adapter.getAudit taskFromGmp id
  let taskId ← adapter.parseEntityId id
  adapter.callTask (.stopAudit taskId)

/-- `resume_audit`. -/
def resumeAudit (taskFromGmp : Item → Task) (id : String) : TaskProgram Item String := do
  let _ ← adapter.getAudit taskFromGmp id
  let taskId ← adapter.parseEntityId id
  let reportId : Option EntityId ← adapter.callTask (.resumeAudit taskId)
  reportIdOf "resume_audit" reportId

end GvmdAdapter

end GvmGateway.Gvmd
