import GvmGateway.Gvmd.ScanConfigs
import GvmGateway.Gvmd.TaskTheorems

/-!
# Kinds of tasks and configs

Audits are tasks of one usage type, and policies configs of another. Which operations of the
adapter look at the kind of the resource before they act on it.
-/

namespace GvmGateway.Gvmd

open Calls Program

/-! ## Operations -/

/-- The commands that may change a task. -/
def TaskCommand.mutates : TaskCommand → Bool
  | .getTask _ | .getAudits _ => false
  | _ => true

/-- The commands that may change a config. -/
def ConfigCommand.mutates : ConfigCommand → Bool
  | .getScanConfig _ | .getPolicies _ => false
  | _ => true

/-- The operations on one audit. -/
inductive AuditOperation where
  | get
  | start
  | stop
  | resume
  | modify (input : ModifyTaskInput)
  | delete
deriving DecidableEq, Repr

/-- The operations on one scan config and on one policy. -/
inductive ConfigOperation where
  | getScanConfig
  | modifyScanConfig (input : ModifyScanConfigInput)
  | deleteScanConfig (ultimate : Bool)
  | getPolicy
  | modifyPolicy (input : ModifyScanConfigInput)
  | deletePolicy
deriving DecidableEq, Repr

namespace AuditOperation

@[reducible] def Outcome (Task : Type) : AuditOperation → Type
  | .get | .modify _ => Task
  | .start | .resume => String
  | .stop | .delete => Unit

def program {Result Item Task : Type} (adapter : GvmdAdapter Result)
    (refuses : EntityId → ModifyTaskOpts → Option String) (taskFromGmp : Item → Task)
    (id : String) : (op : AuditOperation) → TaskProgram Item (op.Outcome Task)
  | .get => adapter.getAudit taskFromGmp id
  | .start => adapter.startAudit taskFromGmp id
  | .stop => adapter.stopAudit taskFromGmp id
  | .resume => adapter.resumeAudit taskFromGmp id
  | .modify input => adapter.modifyAudit refuses taskFromGmp id input
  | .delete => adapter.deleteAudit id

/-- The operations that read the audit before anything else. -/
def ChecksFirst : AuditOperation → Prop
  | .get | .start | .stop | .resume => True
  | .modify _ | .delete => False

/-- The request is refused for its identifier or its fields. -/
def Rejects {Result : Type} (adapter : GvmdAdapter Result)
    (refuses : EntityId → ModifyTaskOpts → Option String) (id : String) : AuditOperation → Prop
  | .modify input => ∀ command, adapter.modifyAuditCommand refuses id input ≠ .ok command
  | _ => adapter.entityId id = none

end AuditOperation

namespace ConfigOperation

@[reducible] def Outcome (Config : Type) : ConfigOperation → Type
  | .getScanConfig | .modifyScanConfig _ | .getPolicy | .modifyPolicy _ => Config
  | .deleteScanConfig _ | .deletePolicy => Unit

def program {Result Detail Config : Type} (adapter : GvmdAdapter Result)
    (scanConfigFromGmp : UsageItem Detail → Config) (id : String) :
    (op : ConfigOperation) → ConfigProgram (UsageItem Detail) (op.Outcome Config)
  | .getScanConfig => adapter.getScanConfig scanConfigFromGmp id
  | .modifyScanConfig input => adapter.modifyScanConfig scanConfigFromGmp id input
  | .deleteScanConfig ultimate => adapter.deleteScanConfig id ultimate
  | .getPolicy => adapter.getPolicy scanConfigFromGmp id
  | .modifyPolicy input => adapter.modifyPolicy scanConfigFromGmp id input
  | .deletePolicy => adapter.deletePolicy id

/-- The operations that read the config and do nothing else. -/
def ChecksFirst : ConfigOperation → Prop
  | .getScanConfig | .getPolicy => True
  | _ => False

/-- The kind of config that the operation is for. -/
def OnPolicies : ConfigOperation → Prop
  | .getPolicy | .modifyPolicy _ | .deletePolicy => True
  | _ => False

end ConfigOperation

/-! ## Backends -/

/-- A text names a resource of one kind. -/
def Names {Result : Type} (adapter : GvmdAdapter Result) (kind : EntityId → Prop) (id : String) :
    Prop :=
  ∃ entityId, adapter.entityId id = some entityId ∧ kind entityId

section Backends

variable {Result Item Detail State : Type} (adapter : GvmdAdapter Result)

/-- gvmd lists audits for `get_tasks usage_type="audit"`, and of these the one that the filter
names. -/
structure AuditScoped (server : Server (TaskReply Item) State)
    (isAudit : State → EntityId → Prop) : Prop where
  getAudits : ∀ s id taskId opts items, adapter.entityId id = some taskId →
    opts.filterString = some ("uuid=" ++ id) →
    server.reply (.getAudits opts) s = .ok items → items ≠ [] → isAudit s taskId

/-- gvmd lists policies for `get_configs usage_type="policy"`, and of these the one that the
filter names; another read answers with the config that the identifier names. -/
structure PolicyScoped (server : Server (ConfigReply (UsageItem Detail)) State)
    (usageType : State → EntityId → Option (Option String)) : Prop where
  getPolicies : ∀ s id configId opts items, adapter.entityId id = some configId →
    opts.filterString = some ("uuid=" ++ id) →
    server.reply (.getPolicies opts) s = .ok items → items ≠ [] →
    usageType s configId = some (some "policy")
  getScanConfig : ∀ s configId item items,
    server.reply (.getScanConfig configId) s = .ok (item :: items) →
    usageType s configId = some item.usageType

end Backends

/-- The config that an operation is for exists and has the kind of the operation's family. -/
def ConfigOperation.OwnKind (usageType : EntityId → Option (Option String))
    (op : ConfigOperation) (configId : EntityId) : Prop :=
  ∃ usage, usageType configId = some usage ∧ (op.OnPolicies ↔ usage = some "policy")

namespace GvmdAdapter

/-- A text that is no identifier is refused. -/
theorem parseEntityId_of_none {Result : Type} {adapter : GvmdAdapter Result} {id : String}
    (h : adapter.entityId id = none) :
    adapter.parseEntityId id = .error (.invalidInput ("invalid UUID: " ++ id)) := by
  unfold parseEntityId
  rw [h]

theorem parseEntityId_of_some {Result : Type} {adapter : GvmdAdapter Result} {id : String}
    {entityId : EntityId} (h : adapter.entityId id = some entityId) :
    adapter.parseEntityId id = .ok entityId := by
  unfold parseEntityId
  rw [h]

section Audits

variable {Result Item Task State : Type} {adapter : GvmdAdapter Result}
  {server : Server (TaskReply Item) State} {isAudit : State → EntityId → Prop}
  {refuses : EntityId → ModifyTaskOpts → Option String} {taskFromGmp : Item → Task}

/-- Reading an audit fails on every other identifier, and sends nothing but a read. -/
theorem refused_getAudit (hserver : AuditScoped adapter server isAudit) {s : State} {id : String}
    (hid : ¬ Names adapter (isAudit s) id) :
    Refused server (·.mutates = false) (adapter.getAudit taskFromGmp id) s := by
  unfold getAudit callTask
  cases hparse : adapter.parseEntityId id with
  | error err => exact refused_error err s
  | ok taskId =>
    cases adapter.sessionClient with
    | error err => exact refused_error err s
    | ok _ =>
      refine Refused.call rfl ?_
      cases hreply : server.reply _ s with
      | error err => exact refused_error err _
      | ok items =>
        cases items with
        | nil => exact refused_error _ _
        | cons item items =>
          have haudit := hserver.getAudits s id taskId _ _ (entityId_of_parseEntityId hparse) rfl
            hreply (List.cons_ne_nil item items)
          exact absurd ⟨taskId, entityId_of_parseEntityId hparse, haudit⟩ hid

/-- Without a session nothing is sent. -/
theorem refused_callTask (hsession : adapter.sessionClient ≠ .ok ()) (command : TaskCommand)
    (allowed : TaskCommand → Prop) (s : State) :
    Refused server allowed (@callTask _ Item adapter command) s := by
  unfold callTask
  cases hclient : adapter.sessionClient with
  | error err => exact refused_error err s
  | ok _ => exact absurd hclient hsession

/-- A command that is called is sent. -/
theorem mem_sent_callTask (hsession : adapter.sessionClient = .ok ()) (command : TaskCommand)
    (s : State) : command ∈ (@callTask _ Item adapter command).sent server s := by
  unfold callTask
  rw [hsession]
  exact List.mem_cons_self

/-- The operations that look at nothing first send their command, unless the request is
rejected. -/
theorem refused_modifyAudit_iff {id : String} {input : ModifyTaskInput} {s : State} :
    Refused server (·.mutates = false) (adapter.modifyAudit refuses taskFromGmp id input) s ↔
      adapter.sessionClient ≠ .ok () ∨
        ∀ command, adapter.modifyAuditCommand refuses id input ≠ .ok command := by
  unfold modifyAudit
  cases hcommand : adapter.modifyAuditCommand refuses id input with
  | error err =>
    constructor
    · intro _
      exact .inr (by simp)
    · intro _
      exact refused_error err s
  | ok command =>
    have hmutates : command.mutates = true := by
      obtain ⟨_, _, -, -, rfl⟩ := opts_of_modifyCommand hcommand
      rfl
    constructor
    · intro h
      left
      intro hsession
      have hsent := h.allowed command (mem_sent_bind server (mem_sent_callTask hsession command s) _)
      exact Bool.false_ne_true (hsent.symm.trans hmutates)
    · rintro (hsession | h)
      · exact (refused_callTask hsession command _ s).bind _
      · exact absurd rfl (h command)

/-- `delete_audit` is refused without a session or for its identifier only. -/
theorem refused_deleteAudit_iff {id : String} {s : State} :
    Refused server (·.mutates = false) (@deleteAudit _ Item adapter id) s ↔
      adapter.sessionClient ≠ .ok () ∨ adapter.entityId id = none := by
  unfold deleteAudit
  cases hid : adapter.entityId id with
  | none =>
    rw [parseEntityId_of_none hid]
    constructor
    · intro _
      exact .inr rfl
    · intro _
      exact refused_error _ s
  | some taskId =>
    rw [parseEntityId_of_some hid]
    constructor
    · intro h
      left
      intro hsession
      exact Bool.false_ne_true (h.allowed _ (mem_sent_callTask hsession _ s)).symm
    · rintro (hsession | h)
      · exact refused_callTask hsession _ _ s
      · cases h

/-- An operation of the audit family keeps to audits just when it reads the audit first, or the
identifier names an audit, or the request is refused before anything is sent. -/
theorem audit_checked_iff (hserver : AuditScoped adapter server isAudit) (s : State) (id : String)
    (op : AuditOperation) :
    (¬ Names adapter (isAudit s) id →
      Refused server (·.mutates = false) (op.program adapter refuses taskFromGmp id) s) ↔
    op.ChecksFirst ∨ Names adapter (isAudit s) id ∨ adapter.sessionClient ≠ .ok () ∨
      op.Rejects adapter refuses id := by
  by_cases hid : Names adapter (isAudit s) id
  · simp [hid]
  have hget : Refused server (·.mutates = false) (adapter.getAudit taskFromGmp id) s :=
    refused_getAudit hserver hid
  simp only [hid, not_false_eq_true, forall_const, false_or]
  cases op with
  | get => exact iff_of_true hget (.inl trivial)
  | start => exact iff_of_true (hget.bind _) (.inl trivial)
  | stop => exact iff_of_true (hget.bind _) (.inl trivial)
  | resume => exact iff_of_true (hget.bind _) (.inl trivial)
  | modify input =>
    simp only [AuditOperation.ChecksFirst, false_or]
    exact refused_modifyAudit_iff
  | delete =>
    simp only [AuditOperation.ChecksFirst, false_or]
    exact refused_deleteAudit_iff

end Audits

section Configs

variable {Result Detail Config State : Type} {adapter : GvmdAdapter Result}
  {server : Server (ConfigReply (UsageItem Detail)) State}
  {usageType : State → EntityId → Option (Option String)}
  {scanConfigFromGmp : UsageItem Detail → Config}

/-- Reading a scan config fails on every other identifier. -/
theorem refused_getScanConfig (hserver : PolicyScoped adapter server usageType) {s : State}
    {id : String} (hid : ¬ Names adapter (ConfigOperation.getScanConfig.OwnKind (usageType s)) id) :
    Refused server (·.mutates = false) (adapter.getScanConfig scanConfigFromGmp id) s := by
  unfold getScanConfig
  cases adapter.sessionClient with
  | error err => exact refused_error err s
  | ok _ =>
    cases hparse : adapter.parseEntityId id with
    | error err => exact refused_error err s
    | ok configId =>
      refine Refused.call rfl ?_
      cases hreply : server.reply _ s with
      | error err => exact refused_error err _
      | ok items =>
        cases items with
        | nil => exact refused_error _ _
        | cons item items =>
          have husage := hserver.getScanConfig s configId item items hreply
          -- the config is a policy, and so filtered out
          have hpolicy : item.usageType = some "policy" := by
            by_contra hscan
            exact hid ⟨configId, entityId_of_parseEntityId hparse, item.usageType, husage,
              iff_of_false not_false hscan⟩
          have hnone : ((item :: items).head?.filter (·.usageType ≠ some "policy")) = none := by
            simp [hpolicy]
          show Refused server _ (done (okOrNotFound (((item :: items).head?.filter
            (·.usageType ≠ some "policy")).map scanConfigFromGmp) _)) _
          rw [hnone]
          exact refused_error _ _

theorem refused_getPolicy (hserver : PolicyScoped adapter server usageType) {s : State}
    {id : String} (hid : ¬ Names adapter (ConfigOperation.getPolicy.OwnKind (usageType s)) id) :
    Refused server (·.mutates = false) (adapter.getPolicy scanConfigFromGmp id) s := by
  unfold getPolicy
  cases hparse : adapter.parseEntityId id with
  | error err => exact refused_error err s
  | ok configId =>
    cases adapter.sessionClient with
    | error err => exact refused_error err s
    | ok _ =>
      refine Refused.call rfl ?_
      cases hreply : server.reply _ s with
      | error err => exact refused_error err _
      | ok items =>
        cases items with
        | nil => exact refused_error _ _
        | cons item items =>
          have hpolicy := hserver.getPolicies s id configId _ _
            (entityId_of_parseEntityId hparse) rfl hreply (List.cons_ne_nil item items)
          exact absurd ⟨configId, entityId_of_parseEntityId hparse, _, hpolicy,
            iff_of_true trivial rfl⟩ hid

/-- What sends a mutation once its identifier is read is refused only before that. -/
theorem refused_mutation_iff {Item α : Type} {server : Server (ConfigReply Item) State}
    {p : EntityId → ConfigProgram Item α} {id : String} {s : State}
    (hsends : ∀ configId, ∃ command ∈ (p configId).sent server s, command.mutates = true) :
    Refused server (·.mutates = false)
      ((done adapter.sessionClient).bind fun _ => (done (adapter.parseEntityId id)).bind p) s ↔
    adapter.sessionClient ≠ .ok () ∨ adapter.entityId id = none := by
  cases adapter.sessionClient with
  | error err =>
    refine iff_of_true (refused_error err s) (.inl ?_)
    simp
  | ok _ =>
    cases hid : adapter.entityId id with
    | none =>
      rw [parseEntityId_of_none hid]
      exact iff_of_true (refused_error _ s) (.inr rfl)
    | some configId =>
      rw [parseEntityId_of_some hid]
      obtain ⟨command, hsent, hmutates⟩ := hsends configId
      refine iff_of_false (fun h => ?_) (by simp)
      exact Bool.false_ne_true ((h.allowed command hsent).symm.trans hmutates)

/-- An operation on a scan config or a policy keeps to its kind just when it is a read, or the
identifier names a config of the kind, or the request is refused before anything is sent. -/
theorem config_checked_iff (hserver : PolicyScoped adapter server usageType) (s : State)
    (id : String) (op : ConfigOperation) :
    (¬ Names adapter (op.OwnKind (usageType s)) id →
      Refused server (·.mutates = false) (op.program adapter scanConfigFromGmp id) s) ↔
    op.ChecksFirst ∨ Names adapter (op.OwnKind (usageType s)) id ∨
      adapter.sessionClient ≠ .ok () ∨ adapter.entityId id = none := by
  by_cases hid : Names adapter (op.OwnKind (usageType s)) id
  · simp [hid]
  simp only [hid, not_false_eq_true, forall_const, false_or]
  cases op with
  | getScanConfig => exact iff_of_true (refused_getScanConfig hserver hid) (.inl trivial)
  | getPolicy => exact iff_of_true (refused_getPolicy hserver hid) (.inl trivial)
  | modifyScanConfig input =>
    simp only [ConfigOperation.ChecksFirst, false_or]
    exact refused_mutation_iff fun configId => ⟨_, List.mem_cons_self, rfl⟩
  | deleteScanConfig ultimate =>
    simp only [ConfigOperation.ChecksFirst, false_or]
    exact refused_mutation_iff fun configId => ⟨_, List.mem_cons_self, rfl⟩
  | modifyPolicy input =>
    simp only [ConfigOperation.ChecksFirst, false_or]
    exact refused_mutation_iff fun configId => ⟨_, List.mem_cons_self, rfl⟩
  | deletePolicy =>
    simp only [ConfigOperation.ChecksFirst, false_or]
    exact refused_mutation_iff fun configId => ⟨_, List.mem_cons_self, rfl⟩

end Configs

end GvmdAdapter

/-! ## A backend -/

/-- Tasks or configs under their identifiers, of each the usage type and the name. -/
abbrev Store : Type :=
  EntityId → Option (UsageItem String)

namespace Store

/-- The usage type of the resource with an identifier. -/
def usageOf (store : Store) (id : EntityId) : Option (Option String) :=
  (store id).map UsageItem.usageType

/-- The resource of one usage type that a filter `uuid=..` selects. -/
def ofUsage (store : Store) (usageType : String) (filterString : Option String) :
    List (UsageItem String) :=
  let id := String.ofList ((filterString.getD "").toList.drop 5)
  ((store ⟨id⟩).filter (·.usageType = some usageType)).toList

/-- The answer to a command on a resource that exists. -/
def acknowledge {α : Type} (store : Store) (id : EntityId) (answer : α) : Except GatewayError α :=
  if (store id).isSome then .ok answer else .error (.notFound "no such resource")

/-- The resource under a new name. -/
def rename (store : Store) (id : EntityId) (name : Option String) : Store :=
  Function.update store id
    ((store id).map fun item => { item with detail := name.getD item.detail })

/-- Without the resource. -/
def remove (store : Store) (id : EntityId) : Store :=
  Function.update store id none

/-- The commands act on the task that they name, whatever its usage type. -/
def taskServer : Server (TaskReply (UsageItem String)) Store where
  reply
    | .create _, _ => .error (.notImplemented "tasks are not created")
    | .getTask id, store => .ok (store id).toList
    | .getAudits opts, store => .ok (store.ofUsage "audit" opts.filterString)
    | .startAudit id, store | .resumeAudit id, store => store.acknowledge id (some id)
    | .modifyTask id _, store | .modifyAudit id _, store | .deleteAudit id, store
    | .stopAudit id, store => store.acknowledge id ()
  next
    | .modifyTask id opts, store | .modifyAudit id opts, store => store.rename id opts.name
    | .deleteAudit id, store => store.remove id
    | _, store => store

/-- The commands act on the config that they name, whatever its usage type. -/
def configServer : Server (ConfigReply (UsageItem String)) Store where
  reply
    | .getScanConfig id, store => .ok (store id).toList
    | .getPolicies opts, store => .ok (store.ofUsage "policy" opts.filterString)
    | .modifyConfigGeneric id _, store | .deleteScanConfig id _, store
    | .deletePolicy id, store => store.acknowledge id ()
  next
    | .modifyConfigGeneric id opts, store => store.rename id opts.name
    | .deleteScanConfig id _, store | .deletePolicy id, store => store.remove id
    | _, store => store

/-- A filter on one identifier selects no resource but this. -/
theorem usageOf_of_ofUsage {store : Store} {usageType id : String}
    (h : store.ofUsage usageType (some ("uuid=" ++ id)) ≠ []) :
    store.usageOf ⟨id⟩ = some (some usageType) := by
  have hid : String.ofList (("uuid=" ++ id).toList.drop 5) = id := by
    simp
  unfold ofUsage at h
  simp only [Option.getD_some, hid] at h
  unfold usageOf
  cases hitem : store ⟨id⟩ with
  | none => simp [hitem] at h
  | some item =>
    by_cases husage : item.usageType = some usageType
    · rw [Option.map_some, husage]
    · simp [hitem, husage] at h

/-- An identifier is its text. -/
theorem entityId_twoFilters {id : String} {entityId : EntityId}
    (h : GvmdAdapter.twoFilters.entityId id = some entityId) : entityId = ⟨id⟩ := by
  simp only [GvmdAdapter.twoFilters] at h
  split at h
  · exact (Option.some.inj h).symm
  · cases h

/-- This backend lists audits only where audits are asked for. -/
theorem taskServer_auditScoped :
    AuditScoped GvmdAdapter.twoFilters taskServer fun store id =>
      store.usageOf id = some (some "audit") where
  getAudits := by
    intro store id taskId opts items hid hfilter hreply hitems
    obtain rfl := entityId_twoFilters hid
    obtain rfl := Except.ok.inj hreply
    rw [hfilter] at hitems
    exact usageOf_of_ofUsage hitems

theorem configServer_policyScoped :
    PolicyScoped GvmdAdapter.twoFilters configServer usageOf where
  getPolicies := by
    intro store id configId opts items hid hfilter hreply hitems
    obtain rfl := entityId_twoFilters hid
    obtain rfl := Except.ok.inj hreply
    rw [hfilter] at hitems
    exact usageOf_of_ofUsage hitems
  getScanConfig := by
    intro store configId item items hreply
    have hitem : (store configId).toList = item :: items := Except.ok.inj hreply
    unfold usageOf
    cases hstored : store configId with
    | none => simp [hstored] at hitem
    | some stored =>
      have hhead : stored = item := by
        rw [hstored] at hitem
        exact (List.cons.inj hitem).1
      rw [hhead]
      rfl

end Store

/-! ## All operations -/

namespace GvmdAdapter

/-- Which operations on audits, scan configs and policies act on their own kind only. -/
theorem acts_on_own_kind_iff {Result Item Task Detail Config TaskState ConfigState : Type}
    {adapter : GvmdAdapter Result} {tasks : Server (TaskReply Item) TaskState}
    {configs : Server (ConfigReply (UsageItem Detail)) ConfigState}
    {isAudit : TaskState → EntityId → Prop}
    {usageType : ConfigState → EntityId → Option (Option String)}
    (htasks : AuditScoped adapter tasks isAudit) (hconfigs : PolicyScoped adapter configs usageType)
    (refuses : EntityId → ModifyTaskOpts → Option String) (taskFromGmp : Item → Task)
    (scanConfigFromGmp : UsageItem Detail → Config) :
    (∀ s id op,
      (¬ Names adapter (isAudit s) id →
        Refused tasks (·.mutates = false)
          (AuditOperation.program adapter refuses taskFromGmp id op) s) ↔
      op.ChecksFirst ∨ Names adapter (isAudit s) id ∨ adapter.sessionClient ≠ .ok () ∨
        op.Rejects adapter refuses id) ∧
    ∀ s id op,
      (¬ Names adapter (ConfigOperation.OwnKind (usageType s) op) id →
        Refused configs (·.mutates = false)
          (ConfigOperation.program adapter scanConfigFromGmp id op) s) ↔
      op.ChecksFirst ∨ Names adapter (op.OwnKind (usageType s)) id ∨
        adapter.sessionClient ≠ .ok () ∨ adapter.entityId id = none :=
  ⟨audit_checked_iff htasks, config_checked_iff hconfigs⟩

/-- One resource of usage type `scan`. -/
def scanOnly : Store :=
  Function.update (fun _ => none) ⟨"ab"⟩ (some ⟨some "scan", "weekly"⟩)

/-- The one task is no audit. -/
theorem scanOnly_not_audit :
    ¬ Names twoFilters (fun taskId => scanOnly.usageOf taskId = some (some "audit")) "ab" := by
  rintro ⟨taskId, hid, haudit⟩
  obtain rfl := Store.entityId_twoFilters hid
  exact absurd haudit (by decide)

/-- A scan task is not started as an audit, and stays as it is. -/
theorem acts_on_own_kind_iff_start :
    (∃ err, ((twoFilters.startAudit id "ab").run Store.taskServer scanOnly).1 = .error err) ∧
      ((twoFilters.startAudit id "ab").run Store.taskServer scanOnly).2 = scanOnly := by
  have hrefused := ((acts_on_own_kind_iff Store.taskServer_auditScoped
    Store.configServer_policyScoped (fun _ _ => none) id id).1 scanOnly "ab" .start).mpr
      (.inl trivial) scanOnly_not_audit
  refine ⟨hrefused.error, hrefused.run_snd ?_⟩
  intro command hread store
  cases command <;> first | rfl | cases hread

/-- A scan task is deleted as an audit, and a scan config as a policy. -/
theorem delete_acts_on_other_kinds :
    ((twoFilters.deletePolicy "ab").run Store.configServer scanOnly).1 = .ok () ∧
    ((twoFilters.deletePolicy "ab").run Store.configServer scanOnly).2 ⟨"ab"⟩ = none ∧
    ((twoFilters.deleteAudit "ab").run Store.taskServer scanOnly).2 ⟨"ab"⟩ = none ∧
    ¬ (¬ Names twoFilters (fun taskId => scanOnly.usageOf taskId = some (some "audit")) "ab" →
      Refused Store.taskServer (·.mutates = false)
        (AuditOperation.program twoFilters (fun _ _ => none) id "ab" .delete) scanOnly) := by
  refine ⟨by decide, by decide, by decide, ?_⟩
  intro h
  obtain ⟨err, herr⟩ := (h scanOnly_not_audit).error
  cases herr

end GvmdAdapter

end GvmGateway.Gvmd
