import GvmGateway.Gvmd.FilterTheorems
import GvmGateway.Gvmd.Tasks
import GvmGateway.Rest.TaskTheorems

/-!
# Tasks of the gvmd adapter: requests and commands

What becomes of a request that creates or updates a task: which commands the adapter builds for
the requests that validation lets through, and what an update changes of the task it names.
-/

namespace GvmGateway.Gvmd

open Calls Program Rest

/-! ## Errors of the parsers -/

/-- An identifier that gvmd's client library does not take, or an unknown hosts ordering. -/
def ParseError (err : GatewayError) : Prop :=
  ∃ value, err = .invalidInput ("invalid UUID: " ++ value) ∨
    err = .invalidInput ("invalid hostsOrdering: " ++ value)

/-- The two refusals with which `create_task` checks the shape of its input. -/
def ShapeError (err : GatewayError) : Prop :=
  err = .invalidInput "hostsOrdering is only valid for classic tasks" ∨
    err = .invalidInput "import tasks accept only type, name, and comment"

/-- A parse error is not about the shape of the input. -/
theorem ParseError.not_shapeError {err : GatewayError} (h : ParseError err) :
    ¬ ShapeError err := by
  -- the parse errors start with `inv`, the shape errors do not
  have hstart : ∀ text₁ text₂ : String, GatewayError.invalidInput text₁ = .invalidInput text₂ →
      text₁.toList.take 3 = text₂.toList.take 3 := by
    intro text₁ text₂ h
    rw [GatewayError.invalidInput.inj h]
  obtain ⟨value, rfl | rfl⟩ := h
  · rintro (h | h) <;> exact absurd (hstart _ _ h) (by simp)
  · rintro (h | h) <;> exact absurd (hstart _ _ h) (by simp)

/-- An ordering is refused as unknown. -/
theorem parseHostsOrdering_error {value : String} {err : GatewayError}
    (h : parseHostsOrdering value = .error err) : ParseError err := by
  unfold parseHostsOrdering at h
  split_ifs at h
  exact ⟨value, .inr (Except.error.inj h).symm⟩

/-- An optional value that parses is absent, or is one that parses. -/
theorem parseOptional_ok {α : Type} {parse : String → Except GatewayError α}
    {value : Option String} {parsed : Option α} (h : parseOptional parse value = .ok parsed) :
    value = none ∧ parsed = none ∨
      ∃ text a, value = some text ∧ parsed = some a ∧ parse text = .ok a := by
  cases value with
  | none => exact .inl ⟨rfl, (Except.ok.inj h).symm⟩
  | some text =>
    cases hparse : parse text with
    | error err => simp [parseOptional, hparse, Except.map] at h
    | ok a =>
      obtain rfl : some a = parsed := by simpa [parseOptional, hparse, Except.map] using h
      exact .inr ⟨text, a, rfl, rfl, hparse⟩

/-- An optional value is refused for what it is. -/
theorem parseOptional_error {α : Type} {parse : String → Except GatewayError α}
    {P : GatewayError → Prop} (hparse : ∀ {value err}, parse value = .error err → P err)
    {value : Option String} {err : GatewayError} (h : parseOptional parse value = .error err) :
    P err := by
  cases value with
  | none => cases h
  | some value =>
    cases hvalue : parse value with
    | ok a => simp [parseOptional, hvalue, Except.map] at h
    | error err' =>
      obtain rfl : err' = err := by simpa [parseOptional, hvalue, Except.map] using h
      exact hparse hvalue

namespace GvmdAdapter

variable {Result : Type} {adapter : GvmdAdapter Result}

/-- An identifier is refused as an invalid one. -/
theorem parseEntityId_error {value : String} {err : GatewayError}
    (h : adapter.parseEntityId value = .error err) : ParseError err := by
  unfold parseEntityId at h
  split at h
  · cases h
  · exact ⟨value, .inl (Except.error.inj h).symm⟩

theorem parseEntityIds_error {ids : List String} {err : GatewayError}
    (h : adapter.parseEntityIds ids = .error err) : ParseError err := by
  unfold parseEntityIds at h
  induction ids with
  | nil => cases h
  | cons id ids ih =>
    rw [List.mapM_cons] at h
    obtain h | ⟨_, -, h⟩ := error_of_bind h
    · exact parseEntityId_error h
    · obtain h | ⟨_, -, h⟩ := error_of_bind h
      · exact ih h
      · cases h

/-! ## Creating a task -/

/-- The command of a classic task fails for its fields only. -/
theorem createClassicCommand_error {input : CreateTaskInput}
    {targetId scanConfigId scannerId : String} {scheduleId : Option EntityId}
    {alertIds : List EntityId} {err : GatewayError}
    (h : adapter.createClassicCommand input targetId scanConfigId scannerId scheduleId alertIds
      = .error err) : ParseError err := by
  unfold createClassicCommand at h
  obtain h | ⟨_, -, h⟩ := error_of_bind h
  · exact parseOptional_error parseHostsOrdering_error h
  obtain h | ⟨_, -, h⟩ := error_of_bind h
  · exact parseEntityId_error h
  obtain h | ⟨_, -, h⟩ := error_of_bind h
  · exact parseEntityId_error h
  obtain h | ⟨_, -, h⟩ := error_of_bind h
  · exact parseEntityId_error h
  · cases h

theorem createVariantCommand_error
    {command : String → EntityId → EntityId → CreateVariantTaskOpts → CreateTaskCommand}
    {input : CreateTaskInput} {targetId scannerId : String} {scheduleId : Option EntityId}
    {alertIds : List EntityId} {err : GatewayError} (hordering : input.hostsOrdering = none)
    (h : adapter.createVariantCommand command input targetId scannerId scheduleId alertIds
      = .error err) : ParseError err := by
  unfold createVariantCommand refuseHostsOrdering at h
  rw [hordering] at h
  obtain h | ⟨_, -, h⟩ := error_of_bind h
  · cases h
  obtain h | ⟨_, -, h⟩ := error_of_bind h
  · exact parseEntityId_error h
  obtain h | ⟨_, -, h⟩ := error_of_bind h
  · exact parseEntityId_error h
  · cases h

/-- Of a documented request the adapter refuses only identifiers and hosts orderings. -/
theorem createTaskCommand_error {validUuid : String → Bool} {request : CreateTaskRequest}
    {input : CreateTaskInput} (hinput : request.Documents validUuid input) {err : GatewayError}
    (h : adapter.createTaskCommand input = .error err) : ParseError err := by
  unfold createTaskCommand at h
  obtain h | ⟨_, -, h⟩ := error_of_bind h
  · exact parseOptional_error parseEntityId_error h
  obtain h | ⟨_, -, h⟩ := error_of_bind h
  · exact parseEntityIds_error h
  have htarget := hinput.target
  generalize input.target = target at htarget h
  cases htarget with
  | classic => exact createClassicCommand_error h
  | agentGroup scans =>
    exact createVariantCommand_error (hinput.hostsOrdering.trans scans.hostsOrdering) h
  | ociImage scans =>
    exact createVariantCommand_error (hinput.hostsOrdering.trans scans.hostsOrdering) h
  | webApplication scans =>
    exact createVariantCommand_error (hinput.hostsOrdering.trans scans.hostsOrdering) h
  | importTask imports =>
    -- a documented import names none of the fields that are refused
    have hrefuse : refuseImportFields input = .ok () := by
      simp [refuseImportFields, hinput.scheduleId, hinput.alertIds, hinput.alterable,
        hinput.hostsOrdering, hinput.observers, hinput.schedulePeriods, hinput.preferences,
        imports.schedule, imports.alerts, imports.alterable, imports.hostsOrdering,
        imports.observers, imports.schedulePeriods, imports.preferences]
    obtain h | ⟨_, -, h⟩ := error_of_bind h
    · rw [hrefuse] at h
      cases h
    · cases h

/-- `create_task` fails where its command is refused, without a session, or as gvmd replies. -/
theorem run_createTask_error {Item State : Type} {server : Server (TaskReply Item) State}
    {input : CreateTaskInput} {s : State} {err : GatewayError}
    (h : ((adapter.createTask input).run server s).1 = .error err) :
    adapter.createTaskCommand input = .error err ∨ adapter.sessionClient = .error err ∨
      ∃ command, adapter.createTaskCommand input = .ok command ∧
        server.reply (.create command) s = .error err := by
  obtain hcommand | ⟨command, u, hcommand, h⟩ := error_of_run_bind server h
  · exact .inl hcommand
  obtain ⟨hbuilt, rfl⟩ := (run_done_eq_ok server).mp hcommand
  obtain h | ⟨id, v, -, h⟩ := error_of_run_bind server h
  · obtain hsession | ⟨_, v, hsession, h⟩ := error_of_run_bind server h
    · exact .inr (.inl hsession)
    · obtain ⟨-, rfl⟩ := (run_done_eq_ok server).mp hsession
      exact .inr (.inr ⟨command, hbuilt, h⟩)
  · cases h

/-- Validation accepts the documented requests, with the command that each documents, and the
adapter refuses none of these commands for its shape: such an error of `create_task` is the one
that gvmd replies with to the command sent. -/
theorem createTask_accepts_documented (validUuid : String → Bool) (request : CreateTaskRequest) :
    (∀ input, request.validate validUuid = .ok input ↔ request.Documents validUuid input) ∧
    (∀ input, request.validate validUuid = .ok input →
      ∀ {Result : Type} (adapter : GvmdAdapter Result) (err : GatewayError),
        adapter.createTaskCommand input = .error err → ¬ ShapeError err) ∧
    ∀ input, request.validate validUuid = .ok input →
      ∀ {Result Item State : Type} (adapter : GvmdAdapter Result)
        (server : Server (TaskReply Item) State) (s : State) (err : GatewayError),
        adapter.sessionClient = .ok () →
        ((adapter.createTask input).run server s).1 = .error err → ShapeError err →
        ∃ command, adapter.createTaskCommand input = .ok command ∧
          server.reply (.create command) s = .error err := by
  refine ⟨fun input => CreateTaskRequest.validate_eq_ok, ?_, ?_⟩
  · intro input hvalid Result adapter err h
    have hinput := CreateTaskRequest.validate_eq_ok.mp hvalid
    exact (createTaskCommand_error hinput h).not_shapeError
  · intro input hvalid Result Item State adapter server s err hsession h hshape
    have hinput := CreateTaskRequest.validate_eq_ok.mp hvalid
    obtain hcommand | hnone | hreply := run_createTask_error h
    · exact absurd hshape (createTaskCommand_error hinput hcommand).not_shapeError
    · rw [hsession] at hnone
      cases hnone
    · exact hreply

/-- A request for an OCI image task, its type left to be inferred. -/
def imageRequest : CreateTaskRequest where
  name := some "nightly"
  comment := none
  taskType := none
  targetId := none
  agentGroupId := none
  ociImageTargetId := some "a1"
  webApplicationTargetId := none
  scanConfigId := none
  scannerId := some "b2"
  scheduleId := some "c3"
  alertIds := []
  alterable := none
  hostsOrdering := none
  observers := ["alice"]
  schedulePeriods := some 2
  preferences := []

/-- The request for an OCI image task is accepted. -/
theorem createTask_accepts_documented_image :
    ∃ input, input.target = .ociImage "a1" "b2" ∧ imageRequest.Documents (fun _ => true) input ∧
      twoFilters.createTaskCommand input ≠ .error
        (.invalidInput "hostsOrdering is only valid for classic tasks") := by
  have hvalid : ∃ input, imageRequest.validate (fun _ => true) = .ok input ∧
      input.target = .ociImage "a1" "b2" := ⟨_, rfl, rfl⟩
  obtain ⟨input, hvalid, htarget⟩ := hvalid
  have h := createTask_accepts_documented (fun _ => true) imageRequest
  refine ⟨input, htarget, (h.1 input).mp hvalid, ?_⟩
  intro herr
  exact h.2.1 input hvalid twoFilters _ herr (.inl rfl)

end GvmdAdapter

/-! ## What a modify command changes

A backend that leaves a field of the task as it is when the command omits it, and replaces it
otherwise. -/

/-- A task or audit of gvmd, in the fields that an update may change. -/
structure StoredTask where
  name : String
  comment : String
  target : Option EntityId
  config : Option EntityId
  scanner : Option EntityId
  schedule : Option EntityId
  schedulePeriods : ℕ
  alerts : List EntityId
  alterable : Bool
  hostsOrdering : Option HostsOrdering
  observers : List String
  observerGroups : List EntityId
  preferences : List (String × String)
deriving DecidableEq, Repr

/-- The value after an update. -/
def ScalarUpdate.apply {α : Type} (update : ScalarUpdate α) (value : Option α) : Option α :=
  match update with
  | .omitted => value
  | .set new => some new

/-- The members after an update. -/
def CollectionUpdate.apply {α : Type} (update : CollectionUpdate α) (values : List α) : List α :=
  match update with
  | .omitted => values
  | .clear => []
  | .replace new => new

/-- No preferences are preferences omitted. -/
def ModifyTaskOpts.apply (opts : ModifyTaskOpts) (task : StoredTask) : StoredTask where
  name := opts.name.getD task.name
  comment := opts.comment.getD task.comment
  target := opts.targetId.or task.target
  config := opts.configId.or task.config
  scanner := opts.scannerId.or task.scanner
  schedule := opts.scheduleId.apply task.schedule
  schedulePeriods := opts.schedulePeriods.getD task.schedulePeriods
  alerts := opts.alertIds.getD task.alerts
  alterable := opts.alterable.getD task.alterable
  hostsOrdering := opts.hostsOrdering.or task.hostsOrdering
  observers := opts.observers.apply task.observers
  observerGroups := opts.observerGroupIds.apply task.observerGroups
  preferences := if opts.preferences = [] then task.preferences else opts.preferences

/-- The task after a command that names it. -/
def TaskCommand.apply (command : TaskCommand) (task : StoredTask) : StoredTask :=
  match command with
  | .modifyTask _ opts | .modifyAudit _ opts => opts.apply task
  | _ => task

/-- The commands that update the task or audit of an identifier. -/
inductive TaskCommand.Updates (id : EntityId) : TaskCommand → Prop where
  | task (opts : ModifyTaskOpts) : Updates id (.modifyTask id opts)
  | audit (opts : ModifyTaskOpts) : Updates id (.modifyAudit id opts)

/-- gvmd with its tasks, the audits among them: reading leaves them alone, and an update that
succeeds is one of a task that exists. -/
structure TaskBackend {Item State : Type} (server : Server (TaskReply Item) State)
    (tasks : State → EntityId → Option StoredTask) : Prop where
  getTask : ∀ s id, tasks (server.next (.getTask id) s) = tasks s
  getAudits : ∀ s opts, tasks (server.next (.getAudits opts) s) = tasks s
  update : ∀ s id command response, command.Updates id → server.reply command s = .ok response →
    ∃ before, tasks s id = some before ∧
      tasks (server.next command s) = Function.update (tasks s) id (some (command.apply before))

/-- The text that names a hosts ordering in a request. -/
def HostsOrdering.text : HostsOrdering → String
  | .sequential => "sequential"
  | .random => "random"
  | .reverse => "reverse"

/-- An ordering that parses is the one that its text names. -/
theorem text_of_parseHostsOrdering {value : String} {ordering : HostsOrdering}
    (h : parseHostsOrdering value = .ok ordering) : ordering.text = value := by
  unfold parseHostsOrdering at h
  split_ifs at h with h₁ h₂ h₃
  · rw [← Except.ok.inj h, h₁]
    rfl
  · rw [← Except.ok.inj h, h₂]
    rfl
  · rw [← Except.ok.inj h, h₃]
    rfl

namespace GvmdAdapter

variable {Result : Type} (adapter : GvmdAdapter Result)

/-- The fields that a body names have its values afterwards, and every other field is as it was;
preferences that are empty are not named. -/
structure ChangesOnly (body : ModifyTaskBody) (before after : StoredTask) : Prop where
  name : after.name = body.name.getD before.name
  comment : after.comment = body.comment.getD before.comment
  target : after.target = body.targetId.elim before.target adapter.entityId
  config : after.config = body.scanConfigId.elim before.config adapter.entityId
  scanner : after.scanner = body.scannerId.elim before.scanner adapter.entityId
  schedule : after.schedule = body.scheduleId.elim before.schedule adapter.entityId
  schedulePeriods : after.schedulePeriods = body.schedulePeriods.getD before.schedulePeriods
  alerts : body.alertIds.elim (after.alerts = before.alerts) fun ids =>
    after.alerts.map some = ids.map adapter.entityId
  alterable : after.alterable = body.alterable.getD before.alterable
  hostsOrdering : after.hostsOrdering.map HostsOrdering.text
    = body.hostsOrdering.or (before.hostsOrdering.map HostsOrdering.text)
  observers : after.observers = body.observers.getD before.observers
  observerGroups : after.observerGroups = before.observerGroups
  preferences : after.preferences
    = if body.preferences.getD [] = [] then before.preferences else body.preferences.getD []

variable {adapter}

/-- An identifier that parses is the one of its text. -/
theorem entityId_of_parseEntityId {value : String} {id : EntityId}
    (h : adapter.parseEntityId value = .ok id) : adapter.entityId value = some id := by
  unfold parseEntityId at h
  split at h
  · next id' hid =>
    rw [hid, Except.ok.inj h]
  · cases h

/-- An optional identifier that the body gives replaces the stored one. -/
theorem or_of_parseOptional {value : Option String} {id stored : Option EntityId}
    (h : parseOptional adapter.parseEntityId value = .ok id) :
    id.or stored = value.elim stored adapter.entityId := by
  obtain ⟨rfl, rfl⟩ | ⟨text, id', rfl, rfl, hparse⟩ := parseOptional_ok h
  · rfl
  · exact (entityId_of_parseEntityId hparse).symm

theorem map_some_of_parseEntityIds {values : List String} {ids : List EntityId}
    (h : adapter.parseEntityIds values = .ok ids) :
    ids.map some = values.map adapter.entityId := by
  unfold parseEntityIds at h
  induction values generalizing ids with
  | nil =>
    obtain rfl : [] = ids := Except.ok.inj h
    rfl
  | cons value values ih =>
    rw [List.mapM_cons] at h
    obtain ⟨id, hid, h⟩ := ok_of_bind h
    obtain ⟨rest, hrest, h⟩ := ok_of_bind h
    obtain rfl : id :: rest = ids := Except.ok.inj h
    rw [List.map_cons, List.map_cons, entityId_of_parseEntityId hid, ih hrest]

/-- Alerts that the body gives replace the stored ones. -/
theorem alerts_of_mapM {values : Option (List String)} {ids : Option (List EntityId)}
    {stored : List EntityId} (h : values.mapM adapter.parseEntityIds = .ok ids) :
    values.elim (ids.getD stored = stored) fun values =>
      (ids.getD stored).map some = values.map adapter.entityId := by
  cases values with
  | none =>
    obtain rfl : none = ids := Except.ok.inj h
    rfl
  | some values =>
    obtain ⟨ids', hids, h⟩ := ok_of_bind h
    obtain rfl : some ids' = ids := Except.ok.inj h
    exact map_some_of_parseEntityIds hids

/-- An ordering that the body gives replaces the stored one. -/
theorem text_of_parseOptional {value : Option String} {ordering stored : Option HostsOrdering}
    (h : parseOptional parseHostsOrdering value = .ok ordering) :
    (ordering.or stored).map HostsOrdering.text
      = value.or (stored.map HostsOrdering.text) := by
  obtain ⟨rfl, rfl⟩ | ⟨text, ordering', rfl, rfl, hparse⟩ := parseOptional_ok h
  · rfl
  · exact congrArg some (text_of_parseHostsOrdering hparse)

/-- A schedule is set where one is given. -/
theorem apply_scheduleId (id stored : Option EntityId) :
    ((id.map ScalarUpdate.set).getD .omitted).apply stored = id.or stored := by
  cases id <;> rfl

/-- Validation passes every field of an update on. -/
theorem input_of_validate {validUuid : String → Bool} {request : ModifyTaskRequest}
    {input : ModifyTaskInput} (h : request.validate validUuid = .ok input) :
    input = {
      name := request.name
      comment := request.comment
      targetId := request.targetId
      scanConfigId := request.scanConfigId
      scannerId := request.scannerId
      scheduleId := request.scheduleId
      alertIds := request.alertIds
      alterable := request.alterable
      hostsOrdering := request.hostsOrdering
      observers := request.observers
      schedulePeriods := request.schedulePeriods
      preferences := request.preferences
    } := by
  unfold ModifyTaskRequest.validate at h
  obtain ⟨_, -, h⟩ := ok_of_bind h
  obtain ⟨_, -, h⟩ := ok_of_bind h
  obtain ⟨_, -, h⟩ := ok_of_bind h
  obtain ⟨_, -, h⟩ := ok_of_bind h
  obtain ⟨_, -, h⟩ := ok_of_bind h
  exact (Except.ok.inj h).symm

/-- The command of an update names the task asked for, with the options made of the input. -/
theorem opts_of_modifyCommand {command : EntityId → ModifyTaskOpts → TaskCommand}
    {refuses : EntityId → ModifyTaskOpts → Option String} {id : String} {input : ModifyTaskInput}
    {sent : TaskCommand} (h : adapter.modifyCommand command refuses id input = .ok sent) :
    ∃ taskId opts, adapter.entityId id = some taskId ∧ adapter.modifyTaskOpts input = .ok opts ∧
      sent = command taskId opts := by
  unfold modifyCommand at h
  obtain ⟨taskId, hid, h⟩ := ok_of_bind h
  obtain ⟨opts, hopts, h⟩ := ok_of_bind h
  split at h
  · cases h
  · exact ⟨taskId, opts, entityId_of_parseEntityId hid, hopts, (Except.ok.inj h).symm⟩

/-- The options of an update change what the body names, and the observers. -/
theorem changesOnly_apply_iff {validUuid : String → Bool} {body : ModifyTaskBody}
    {input : ModifyTaskInput} {opts : ModifyTaskOpts}
    (hvalid : body.deserialize.validate validUuid = .ok input)
    (hopts : adapter.modifyTaskOpts input = .ok opts) (before : StoredTask) :
    adapter.ChangesOnly body before (opts.apply before) ↔
      body.observers.isSome ∨ before.observers = [] := by
  obtain rfl := input_of_validate hvalid
  unfold modifyTaskOpts at hopts
  obtain ⟨targetId, htarget, hopts⟩ := ok_of_bind hopts
  obtain ⟨configId, hconfig, hopts⟩ := ok_of_bind hopts
  obtain ⟨scannerId, hscanner, hopts⟩ := ok_of_bind hopts
  obtain ⟨scheduleId, hschedule, hopts⟩ := ok_of_bind hopts
  obtain ⟨alertIds, halerts, hopts⟩ := ok_of_bind hopts
  obtain ⟨hostsOrdering, hordering, hopts⟩ := ok_of_bind hopts
  obtain rfl := Except.ok.inj hopts
  -- the command always has the element, so an omitted list reads as an empty one
  have hobservers : body.observers.getD [] = body.observers.getD before.observers ↔
      body.observers.isSome ∨ before.observers = [] := by
    cases body.observers with
    | none => simp [eq_comm]
    | some observers => simp
  rw [← hobservers]
  constructor
  · intro h
    exact h.observers
  · intro h
    exact {
      name := rfl
      comment := rfl
      target := or_of_parseOptional htarget
      config := or_of_parseOptional hconfig
      scanner := or_of_parseOptional hscanner
      schedule := (apply_scheduleId _ _).trans (or_of_parseOptional hschedule)
      schedulePeriods := rfl
      alerts := alerts_of_mapM halerts
      alterable := rfl
      hostsOrdering := text_of_parseOptional hordering
      observers := h
      observerGroups := rfl
      preferences := rfl
    }

section Runs

variable {Item Task State : Type} {server : Server (TaskReply Item) State}
  {tasks : State → EntityId → Option StoredTask}

/-- A command that succeeds has a response, and is the only one sent. -/
theorem run_callTask {command : TaskCommand} {s t : State} {response : command.Response Item}
    (h : (adapter.callTask command).run server s = (.ok response, t)) :
    server.reply command s = .ok response ∧ server.next command s = t := by
  obtain ⟨_, -, h⟩ := (run_done_bind_eq_ok server).mp h
  exact (run_done_eq_ok server).mp h

/-- After a command that leaves the tasks alone they are as before. -/
theorem run_taskRead {command : TaskCommand} (hread : ∀ s, tasks (server.next command s) = tasks s)
    {found : command.Response Item → Except GatewayError Task} {s t : State} {task : Task}
    (h : ((adapter.callTask command).bind fun items => done (found items)).run server s
      = (.ok task, t)) : tasks t = tasks s := by
  obtain ⟨items, u, hcall, h⟩ := (run_bind_eq_ok server).mp h
  obtain ⟨-, rfl⟩ := run_callTask hcall
  obtain ⟨-, rfl⟩ := (run_done_eq_ok server).mp h
  exact hread s

/-- Reading a task changes none. -/
theorem run_getTask (hserver : TaskBackend server tasks) {taskFromGmp : Item → Task} {id : String}
    {s t : State} {task : Task}
    (h : (adapter.getTask taskFromGmp id).run server s = (.ok task, t)) : tasks t = tasks s := by
  obtain ⟨taskId, -, h⟩ := (run_done_bind_eq_ok server).mp h
  exact run_taskRead (hserver.getTask · taskId) h

/-- Reading an audit changes none. -/
theorem run_getAudit (hserver : TaskBackend server tasks) {taskFromGmp : Item → Task}
    {id : String} {s t : State} {task : Task}
    (h : (adapter.getAudit taskFromGmp id).run server s = (.ok task, t)) : tasks t = tasks s := by
  obtain ⟨taskId, -, h⟩ := (run_done_bind_eq_ok server).mp h
  exact run_taskRead (hserver.getAudits · _) h

/-- An update that succeeds has sent its command, and the task that this names exists. -/
theorem run_update (hserver : TaskBackend server tasks) {taskId : EntityId}
    {command : TaskCommand} (hupdates : command.Updates taskId) {read : TaskProgram Item Task}
    (hread : ∀ {u v task}, read.run server u = (.ok task, v) → tasks v = tasks u) {s t : State}
    {task : Task}
    (h : ((adapter.callTask command).bind fun _ => read).run server s = (.ok task, t)) :
    ∃ before, tasks s taskId = some before ∧
      tasks t = Function.update (tasks s) taskId (some (command.apply before)) := by
  obtain ⟨response, u, hcall, h⟩ := (run_bind_eq_ok server).mp h
  obtain ⟨hreply, rfl⟩ := run_callTask hcall
  rw [hread h]
  exact hserver.update s taskId command response hupdates hreply

end Runs

/-- An update changes only what its body names, except that a body without observers takes the
observers of the task or audit away. This holds of the command built, and of the task before and
after `modify_task` or `modify_audit`, which leave every other task alone. -/
theorem modifyTask_changesOnly_iff {validUuid : String → Bool} {body : ModifyTaskBody}
    {input : ModifyTaskInput} (hvalid : body.deserialize.validate validUuid = .ok input)
    (refuses : EntityId → ModifyTaskOpts → Option String) (id : String) :
    (∀ command, adapter.modifyTaskCommand refuses id input = .ok command ∨
        adapter.modifyAuditCommand refuses id input = .ok command →
      ∀ before, adapter.ChangesOnly body before (command.apply before) ↔
        body.observers.isSome ∨ before.observers = []) ∧
    ∀ {Item Task State : Type} {server : Server (TaskReply Item) State}
      {tasks : State → EntityId → Option StoredTask}, TaskBackend server tasks →
      ∀ (taskFromGmp : Item → Task) (s t : State) (task : Task),
        (adapter.modifyTask refuses taskFromGmp id input).run server s = (.ok task, t) ∨
          (adapter.modifyAudit refuses taskFromGmp id input).run server s = (.ok task, t) →
        ∃ taskId before after, adapter.entityId id = some taskId ∧ tasks s taskId = some before ∧
          tasks t = Function.update (tasks s) taskId (some after) ∧
          (adapter.ChangesOnly body before after ↔
            body.observers.isSome ∨ before.observers = []) := by
  constructor
  · intro command hcommand before
    obtain h | h := hcommand
    · obtain ⟨taskId, opts, -, hopts, rfl⟩ := opts_of_modifyCommand h
      exact changesOnly_apply_iff hvalid hopts before
    · obtain ⟨taskId, opts, -, hopts, rfl⟩ := opts_of_modifyCommand h
      exact changesOnly_apply_iff hvalid hopts before
  · intro Item Task State server tasks hserver taskFromGmp s t task hrun
    obtain h | h := hrun
    · obtain ⟨command, hbuilt, h⟩ := (run_done_bind_eq_ok server).mp h
      obtain ⟨taskId, opts, hid, hopts, rfl⟩ := opts_of_modifyCommand hbuilt
      obtain ⟨before, hbefore, hafter⟩ := run_update hserver (.task opts) (run_getTask hserver) h
      exact ⟨taskId, before, _, hid, hbefore, hafter, changesOnly_apply_iff hvalid hopts before⟩
    · obtain ⟨command, hbuilt, h⟩ := (run_done_bind_eq_ok server).mp h
      obtain ⟨taskId, opts, hid, hopts, rfl⟩ := opts_of_modifyCommand hbuilt
      obtain ⟨before, hbefore, hafter⟩ := run_update hserver (.audit opts) (run_getAudit hserver) h
      exact ⟨taskId, before, _, hid, hbefore, hafter, changesOnly_apply_iff hvalid hopts before⟩

/-- gvmd with its tasks and nothing else. -/
def storedTaskServer : Server (TaskReply StoredTask) (EntityId → Option StoredTask) where
  reply
    | .getTask id, tasks => .ok (tasks id).toList
    | .modifyTask id _, tasks | .modifyAudit id _, tasks =>
      if (tasks id).isSome then .ok () else .error (.notFound "no such task")
    | .create _, _ => .error (.backendUnavailable "read only")
    | .getAudits _, _ => .ok []
    | .startAudit _, _ | .resumeAudit _, _ => .ok none
    | .deleteAudit _, _ | .stopAudit _, _ => .error (.notFound "no such audit")
  next command tasks :=
    match command with
    | .modifyTask id _ | .modifyAudit id _ =>
      Function.update tasks id ((tasks id).map command.apply)
    | _ => tasks

theorem storedTaskServer_taskBackend : TaskBackend storedTaskServer id where
  getTask _ _ := rfl
  getAudits _ _ := rfl
  update := by
    intro tasks id command response hupdates hreply
    have hnext : storedTaskServer.next command tasks
        = Function.update tasks id ((tasks id).map command.apply) := by
      cases hupdates <;> rfl
    have hsome : (tasks id).isSome := by
      by_contra hnone
      cases hupdates <;> simp [storedTaskServer, hnone] at hreply
    obtain ⟨before, hbefore⟩ := Option.isSome_iff_exists.mp hsome
    refine ⟨before, hbefore, ?_⟩
    show storedTaskServer.next command tasks = _
    rw [hnext, hbefore]
    rfl

/-- A task with one observer. -/
def observedTask : StoredTask where
  name := "weekly"
  comment := ""
  target := some ⟨"a1"⟩
  config := some ⟨"b2"⟩
  scanner := some ⟨"c3"⟩
  schedule := none
  schedulePeriods := 0
  alerts := []
  alterable := false
  hostsOrdering := some .sequential
  observers := ["alice"]
  observerGroups := []
  preferences := []

/-- A body that names a task and nothing else. -/
def renameBody (observers : Option (List String)) : ModifyTaskBody where
  name := some "monthly"
  comment := none
  targetId := none
  scanConfigId := none
  scannerId := none
  scheduleId := none
  alertIds := none
  alterable := none
  hostsOrdering := none
  observers := observers
  schedulePeriods := none
  preferences := none

/-- An update that repeats the observers keeps everything beside the name. -/
theorem modifyTask_changesOnly_iff_repeated :
    ∃ input task t, (renameBody (some ["alice"])).deserialize.validate (fun _ => true) = .ok input ∧
      (twoFilters.modifyTask (fun _ _ => none) id "ab" input).run storedTaskServer
        (Function.update (fun _ => none) ⟨"ab"⟩ (some observedTask)) = (.ok task, t) ∧
      ∃ after, t ⟨"ab"⟩ = some after ∧ after ≠ observedTask ∧
        twoFilters.ChangesOnly (renameBody (some ["alice"])) observedTask after := by
  have hrun : ∃ input task t,
      (renameBody (some ["alice"])).deserialize.validate (fun _ => true) = .ok input ∧
      (twoFilters.modifyTask (fun _ _ => none) id "ab" input).run storedTaskServer
        (Function.update (fun _ => none) ⟨"ab"⟩ (some observedTask)) = (.ok task, t) ∧
      ∃ after, t ⟨"ab"⟩ = some after ∧ after.name = "monthly" := ⟨_, _, _, rfl, rfl, _, rfl, rfl⟩
  obtain ⟨input, task, t, hvalid, hrun, after, hafter, hname⟩ := hrun
  obtain ⟨taskId, before, after', hid, hbefore, ht, hchanges⟩ :=
    (modifyTask_changesOnly_iff hvalid (fun _ _ => none) "ab").2 storedTaskServer_taskBackend
      id _ _ _ (.inl hrun)
  obtain rfl : ⟨"ab"⟩ = taskId := Option.some.inj hid
  obtain rfl : observedTask = before := Option.some.inj hbefore
  obtain rfl : after' = after := by
    have hsame : t ⟨"ab"⟩ = some after' := (congrFun ht _).trans (Function.update_self _ _ _)
    exact Option.some.inj (hsame.symm.trans hafter)
  refine ⟨input, task, t, hvalid, hrun, after', hafter, ?_, hchanges.mpr (.inl rfl)⟩
  intro heq
  rw [heq] at hname
  exact absurd hname (by decide)

/-- Renaming a task takes its observers away. -/
theorem rename_drops_observers :
    ∃ (input : ModifyTaskInput) (command : TaskCommand),
      (renameBody none).deserialize.validate (fun _ => true) = .ok input ∧
      twoFilters.modifyTaskCommand (fun _ _ => none) "ab" input = .ok command ∧
      (command.apply observedTask).observers = [] ∧
      ¬ twoFilters.ChangesOnly (renameBody none) observedTask (command.apply observedTask) := by
  refine ⟨_, _, rfl, rfl, rfl, ?_⟩
  intro h
  exact absurd h.observers (by decide)

end GvmdAdapter

end GvmGateway.Gvmd
