import GvmGateway.Domain.Inputs
import GvmGateway.Library.Text

/-!
# Task requests

The JSON bodies that create and update tasks and audits, and their validation. `validUuid`
stands for `Uuid::parse_str` succeeding.
-/

namespace GvmGateway.Rest

/-! ## Identifiers -/

section Identifiers

variable (validUuid : String → Bool)

/-- `validate_uuid`. -/
def validateUuid (field value : String) : Except GatewayError Unit :=
  if validUuid value then .ok ()
  else .error (.invalidInput (field ++ " must be a valid UUID"))

/-- `validate_optional_uuid`. -/
def validateOptionalUuid (field : String) (value : Option String) : Except GatewayError Unit :=
  match value with
  | none => .ok ()
  | some value => validateUuid validUuid field value

/-- The closure `required_uuid`. -/
def requiredUuid (field : String) (value : Option String) : Except GatewayError String :=
  match value with
  | none => .error (.invalidInput (field ++ " is required"))
  | some value => do
    let _ ← validateUuid validUuid field value
    return value

/-- The loop over `alert_ids.iter().enumerate()`, from the item with the given index on. -/
def validateAlertIds (index : ℕ) (alertIds : List String) : Except GatewayError Unit :=
  match alertIds with
  | [] => .ok ()
  | alertId :: rest => do
    let _ ← validateUuid validUuid ("alertIds[" ++ toString index ++ "]") alertId
    validateAlertIds (index + 1) rest

end Identifiers

/-! ## Create -/

/-- Create-task request payload. Absent lists and maps are read as empty ones. -/
structure CreateTaskRequest where
  name : Option String
  comment : Option String
  taskType : Option String
  targetId : Option String
  agentGroupId : Option String
  ociImageTargetId : Option String
  webApplicationTargetId : Option String
  scanConfigId : Option String
  scannerId : Option String
  scheduleId : Option String
  alertIds : List String
  alterable : Option Bool
  hostsOrdering : Option String
  observers : List String
  schedulePeriods : Option ℕ
  preferences : List (String × String)
deriving DecidableEq, Repr

namespace CreateTaskRequest

variable (validUuid : String → Bool) (request : CreateTaskRequest)

/-- The name, which must not be blank. -/
def requiredName : Except GatewayError String :=
  match request.name.filter (!Text.isBlank ·) with
  | some name => .ok name
  | none => .error (.invalidInput "name is required")

/-- The number of identifiers that select a type. -/
def selectors : ℕ :=
  [request.targetId.isSome, request.agentGroupId.isSome, request.ociImageTargetId.isSome,
    request.webApplicationTargetId.isSome].countP id

/-- At most one of these may be given. -/
def checkSelectors : Except GatewayError Unit :=
  if 1 < request.selectors then
    .error (.invalidInput
      ("exactly one of targetId, agentGroupId, ociImageTargetId, or webApplicationTargetId " ++
        "is allowed"))
  else .ok ()

/-- The type that the identifier given selects. -/
def inferredType : Option String :=
  if request.targetId.isSome then some "classic"
  else if request.agentGroupId.isSome then some "agentGroup"
  else if request.ociImageTargetId.isSome then some "ociImage"
  else if request.webApplicationTargetId.isSome then some "webApplication"
  else none

/-- The type given, or else the inferred one. -/
def selectedType : Except GatewayError String :=
  match request.taskType.or request.inferredType with
  | some selected => .ok selected
  | none => .error (.invalidInput "one task target selector is required unless type is import")

/-- The comparison of an explicit type with the inferred one. -/
def checkType : Except GatewayError Unit :=
  match request.taskType, request.inferredType with
  | some explicit, some inferred =>
    if explicit ≠ inferred then
      .error (.invalidInput ("type " ++ explicit ++ " does not match the supplied " ++ inferred ++
        " target selector"))
    else .ok ()
  | _, _ => .ok ()

/-- The condition under which an import request is refused. -/
def importCarriesMore : Bool :=
  request.selectors ≠ 0 || request.scanConfigId.isSome || request.scannerId.isSome
    || request.scheduleId.isSome || !request.alertIds.isEmpty || request.alterable.isSome
    || request.hostsOrdering.isSome || !request.observers.isEmpty
    || request.schedulePeriods.isSome || !request.preferences.isEmpty

/-- The target of a classic task. -/
def classicTarget : Except GatewayError CreateTaskTarget := do
  let targetId ← requiredUuid validUuid "targetId" request.targetId
  let scanConfigId ← requiredUuid validUuid "scanConfigId" request.scanConfigId
  let scannerId ← requiredUuid validUuid "scannerId" request.scannerId
  return .classic targetId scanConfigId scannerId

/-- The three variants that name their target by one identifier beside the scanner's. -/
def scannedTarget (make : String → String → CreateTaskTarget) (field : String)
    (value : Option String) : Except GatewayError CreateTaskTarget := do
  let id ← requiredUuid validUuid field value
  let scannerId ← requiredUuid validUuid "scannerId" request.scannerId
  return make id scannerId

/-- An import task has no target. -/
def importTarget : Except GatewayError CreateTaskTarget :=
  if request.importCarriesMore then
    .error (.invalidInput "import tasks accept only type, name, and comment")
  else .ok .import

/-- `match selected_type`. -/
def target (selectedType : String) : Except GatewayError CreateTaskTarget :=
  if selectedType = "classic" then request.classicTarget validUuid
  else if selectedType = "agentGroup" then
    request.scannedTarget validUuid .agentGroup "agentGroupId" request.agentGroupId
  else if selectedType = "ociImage" then
    request.scannedTarget validUuid .ociImage "ociImageTargetId" request.ociImageTargetId
  else if selectedType = "webApplication" then
    request.scannedTarget validUuid .webApplication "webApplicationTargetId"
      request.webApplicationTargetId
  else if selectedType = "import" then request.importTarget
  else .error (.invalidInput ("unsupported task type: " ++ selectedType))

def checkScanConfig : CreateTaskTarget → Except GatewayError Unit
  | .classic _ _ _ => .ok ()
  | _ =>
    if request.scanConfigId.isSome then
      .error (.invalidInput "scanConfigId is only valid for classic tasks")
    else .ok ()

def checkHostsOrdering : CreateTaskTarget → Except GatewayError Unit
  | .classic _ _ _ | .import => .ok ()
  | _ =>
    if request.hostsOrdering.isSome then
      .error (.invalidInput "hostsOrdering is only valid for classic tasks")
    else .ok ()

/-- Validate the request and convert it into the application command. -/
def validate : Except GatewayError CreateTaskInput := do
  let name ← request.requiredName
  -- one selector of a target at most
  let _ ← request.checkSelectors
  let selectedType ← request.selectedType
  let _ ← request.checkType
  let target ← request.target validUuid selectedType
  let _ ← request.checkScanConfig target
  let _ ← request.checkHostsOrdering target
  let _ ← validateOptionalUuid validUuid "scheduleId" request.scheduleId
  let _ ← validateAlertIds validUuid 0 request.alertIds
  return {
    name := name
    comment := request.comment
    target := target
    scheduleId := request.scheduleId
    alertIds := request.alertIds
    alterable := request.alterable
    hostsOrdering := request.hostsOrdering
    observers := request.observers
    schedulePeriods := request.schedulePeriods
    preferences := request.preferences
  }

end CreateTaskRequest

/-! ## Update -/

/-- The JSON body of an update: a field is absent, or has a value. -/
structure ModifyTaskBody where
  name : Option String
  comment : Option String
  targetId : Option String
  scanConfigId : Option String
  scannerId : Option String
  scheduleId : Option String
  alertIds : Option (List String)
  alterable : Option Bool
  hostsOrdering : Option String
  observers : Option (List String)
  schedulePeriods : Option ℕ
  preferences : Option (List (String × String))
deriving DecidableEq, Repr

/-- Modify-task request payload. -/
structure ModifyTaskRequest where
  name : Option String
  comment : Option String
  targetId : Option String
  scanConfigId : Option String
  scannerId : Option String
  scheduleId : Option String
  alertIds : Option (List String)
  alterable : Option Bool
  hostsOrdering : Option String
  observers : List String
  schedulePeriods : Option ℕ
  preferences : List (String × String)
deriving DecidableEq, Repr

/-- The request that a body is read as; `observers` and `preferences` are
`#[serde(default)]`. -/
def ModifyTaskBody.deserialize (body : ModifyTaskBody) : ModifyTaskRequest where
  name := body.name
  comment := body.comment
  targetId := body.targetId
  scanConfigId := body.scanConfigId
  scannerId := body.scannerId
  scheduleId := body.scheduleId
  alertIds := body.alertIds
  alterable := body.alterable
  hostsOrdering := body.hostsOrdering
  -- `#[serde(default)]`: without the field the list is empty
  observers := body.observers.getD []
  schedulePeriods := body.schedulePeriods
  preferences := body.preferences.getD []

/-- Validate the request and convert it into the application command. -/
def ModifyTaskRequest.validate (validUuid : String → Bool) (request : ModifyTaskRequest) :
    Except GatewayError ModifyTaskInput := do
  let _ ← validateOptionalUuid validUuid "targetId" request.targetId
  let _ ← validateOptionalUuid validUuid "scanConfigId" request.scanConfigId
  let _ ← validateOptionalUuid validUuid "scannerId" request.scannerId
  let _ ← validateOptionalUuid validUuid "scheduleId" request.scheduleId
  let _ ← validateAlertIds validUuid 0 (request.alertIds.getD [])
  return {
    name := request.name
    comment := request.comment
    targetId := request.targetId
    scanConfigId := request.scanConfigId
    scannerId := request.scannerId
    scheduleId := request.scheduleId
    alertIds := request.alertIds
    alterable := request.alterable
    hostsOrdering := request.hostsOrdering
    observers := request.observers
    schedulePeriods := request.schedulePeriods
    preferences := request.preferences
  }

end GvmGateway.Rest
