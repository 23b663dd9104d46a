import GvmGateway.Gvmd.Identity
import GvmGateway.Gvmd.TaskTheorems

/-!
# Updates of members and of host access

Which updates of users, groups, roles and agent groups keep a collection that the input omits,
and replace it by one that the input gives, the empty one included.
-/

namespace GvmGateway.Gvmd

open Calls Program

/-! ## Users -/

/-- What an update of a user may restrict. -/
structure StoredUser where
  hostAccess : UserHostAccess
  roles : List EntityId
deriving DecidableEq, Repr

/-- The user after the command: without a `hosts` element it may scan all hosts. -/
def ModifyUserOpts.apply (allowAll : UserHostAccess) (opts : ModifyUserOpts) (user : StoredUser) :
    StoredUser where
  hostAccess := opts.hostAccess.getD allowAll
  roles := opts.roleIds.apply user.roles

/-- gvmd with its users. The host access read back is the stored one, and may be absent only for
a user that may scan all hosts. -/
structure UserBackend {items : IdentityItems} {State : Type}
    (server : Server (IdentityReply items) State) (users : State → EntityId → Option StoredUser)
    (allowAll : UserHostAccess) : Prop where
  getUser : ∀ s id item rest, server.reply (.getUser id) s = .ok (item :: rest) →
    ∃ user, users s id = some user ∧ (items.hostAccess item = some user.hostAccess ∨
      items.hostAccess item = none ∧ user.hostAccess = allowAll)
  reads : ∀ s id, users (server.next (.getUser id) s) = users s
  modifyUser : ∀ s id opts, server.reply (.modifyUser id opts) s = .ok () →
    users (server.next (.modifyUser id opts) s) id = (users s id).map (opts.apply allowAll)

namespace GvmdAdapter

section Users

variable {Result State User : Type} {adapter : GvmdAdapter Result} {items : IdentityItems}
  {server : Server (IdentityReply items) State} {users : State → EntityId → Option StoredUser}
  {allowAll : UserHostAccess}

variable (adapter) in
/-- What the input omits is as before, and what it gives replaces it. -/
structure KeepsOrReplaces (input : ModifyUserInput) (before after : StoredUser) : Prop where
  hosts : after.hostAccess = input.hosts.elim before.hostAccess .ofAllowed
  roles : input.roleIds.elim (after.roles = before.roles) fun ids =>
    after.roles.map some = ids.map adapter.entityId

theorem run_callIdentity {command : IdentityCommand} {s t : State}
    {response : command.Response items}
    (h : (adapter.callIdentity command).run server s = (.ok response, t)) :
    server.reply command s = .ok response ∧ server.next command s = t := by
  obtain ⟨_, -, h⟩ := (run_done_bind_eq_ok server).mp h
  exact (run_done_eq_ok server).mp h

theorem ok_of_okOrNotFound {α : Type} {item : Option α} {message : String} {a : α}
    (h : okOrNotFound item message = .ok a) : item = some a := by
  cases item with
  | none => cases h
  | some _ => exact congrArg some (Except.ok.inj h)

/-- A user that is read exists, its host access is the one read, and nothing has changed. -/
theorem run_getGmpUser (hserver : UserBackend server users allowAll) {s t : State} {id : String}
    {item : items.User} (h : (adapter.getGmpUser id).run server s = (.ok item, t)) :
    (∃ userId user, adapter.parseEntityId id = .ok userId ∧ users s userId = some user ∧
      (items.hostAccess item).getD allowAll = user.hostAccess) ∧ users t = users s := by
  obtain ⟨userId, hid, h⟩ := (run_done_bind_eq_ok server).mp h
  obtain ⟨found, u, hfound, h⟩ := (run_bind_eq_ok server).mp h
  obtain ⟨hreply, rfl⟩ := run_callIdentity hfound
  obtain ⟨hhead, rfl⟩ := (run_done_eq_ok server).mp h
  refine ⟨?_, hserver.reads s userId⟩
  cases found with
  | nil => cases ok_of_okOrNotFound hhead
  | cons first rest =>
    obtain rfl : first = item := Option.some.inj (ok_of_okOrNotFound hhead)
    obtain ⟨user, huser, haccess | ⟨haccess, hall⟩⟩ := hserver.getUser s userId first rest hreply
    · exact ⟨userId, user, hid, huser, by rw [haccess, Option.getD_some]⟩
    · exact ⟨userId, user, hid, huser, by rw [haccess, hall, Option.getD_none]⟩

/-- The host access sent is the one given, or else the one that the user has. -/
theorem run_hostAccessFor (hserver : UserBackend server users allowAll) {s t : State} {id : String}
    {hosts : Option String} {access : Option UserHostAccess} {userId : EntityId}
    (hid : adapter.parseEntityId id = .ok userId)
    (h : (@hostAccessFor _ adapter items id hosts).run server s = (.ok access, t)) :
    users t = users s ∧ ∀ user, users s userId = some user →
      access.getD allowAll = hosts.elim user.hostAccess .ofAllowed := by
  cases hosts with
  | some hosts =>
    obtain ⟨haccessed, rfl⟩ := (run_done_eq_ok server).mp h
    obtain rfl := Except.ok.inj haccessed
    exact ⟨rfl, fun _ _ => rfl⟩
  | none =>
    obtain ⟨item, u, hitem, h⟩ := (run_bind_eq_ok server).mp h
    obtain ⟨⟨userId', user', hid', huser', haccess⟩, hread⟩ := run_getGmpUser hserver hitem
    obtain rfl : userId = userId' := Except.ok.inj (hid.symm.trans hid')
    obtain ⟨haccessed, rfl⟩ := (run_done_eq_ok server).mp h
    obtain rfl := Except.ok.inj haccessed
    refine ⟨hread, fun user huser => ?_⟩
    obtain rfl : user' = user := Option.some.inj (huser'.symm.trans huser)
    exact haccess

/-- The role update sent keeps the roles or replaces them by those given. -/
theorem apply_roleUpdate {roleIds : Option (List String)} {update : CollectionUpdate EntityId}
    {roles : List EntityId} (h : adapter.roleUpdate roleIds = .ok update) :
    roleIds.elim (update.apply roles = roles) fun ids =>
      (update.apply roles).map some = ids.map adapter.entityId := by
  obtain ⟨parsed, hparsed, h⟩ := ok_of_bind h
  obtain rfl := Except.ok.inj h
  have happly : ((parsed.map CollectionUpdate.ofList).getD .omitted).apply roles
      = parsed.getD roles := by
    cases parsed with
    | none => rfl
    | some ids => cases ids <;> rfl
  rw [happly]
  exact alerts_of_mapM hparsed

/-- An update of a user that succeeds keeps what its input omits, the allow or deny mode of the
host access included, and replaces what it gives. -/
theorem run_modifyUser (hserver : UserBackend server users allowAll)
    {authType : String → Option UserAuthType} {userFromGmp : items.User → User} {s t : State}
    {id : String} {input : ModifyUserInput} {user : User}
    (h : (adapter.modifyUser authType userFromGmp id input).run server s = (.ok user, t)) :
    ∃ userId before after, adapter.entityId id = some userId ∧ users s userId = some before ∧
      users t userId = some after ∧ adapter.KeepsOrReplaces input before after := by
  -- the steps of `modify_user` in order: the identifier, the access, the roles, the command
  obtain ⟨userId, hid, h⟩ := (run_done_bind_eq_ok server).mp h
  obtain ⟨access, u, haccess, h⟩ := (run_bind_eq_ok server).mp h
  obtain ⟨update, hroles, h⟩ := (run_done_bind_eq_ok server).mp h
  obtain ⟨authType, -, h⟩ := (run_done_bind_eq_ok server).mp h
  obtain ⟨_, v, hmodify, h⟩ := (run_bind_eq_ok server).mp h
  obtain ⟨hreply, rfl⟩ := run_callIdentity hmodify
  obtain ⟨item, w, hitem, h⟩ := (run_bind_eq_ok server).mp h
  obtain ⟨-, rfl⟩ := (run_done_eq_ok server).mp h
  obtain ⟨⟨userId', after, hid', hafter, -⟩, hread⟩ := run_getGmpUser hserver hitem
  obtain rfl : userId = userId' := Except.ok.inj (hid.symm.trans hid')
  have hmodified := hserver.modifyUser u userId _ hreply
  rw [hafter] at hmodified
  obtain ⟨before, hbefore, hafter⟩ := Option.map_eq_some_iff.mp hmodified.symm
  -- asking for the host access has left the users as they were
  obtain ⟨hkept, hsent⟩ := run_hostAccessFor hserver hid haccess
  rw [hkept] at hbefore
  refine ⟨userId, before, after, entityId_of_parseEntityId hid, hbefore, ?_, ?_⟩
  · rw [hread, hserver.modifyUser u userId _ hreply, hkept, hbefore, ← hafter]
    rfl
  · rw [← hafter]
    exact ⟨hsent before hbefore, apply_roleUpdate hroles⟩

end Users

end GvmdAdapter

/-! ## Members -/

section Members

variable {Opts Stored Member : Type} (listed : Opts → List Member) (members : Stored → List Member)

/-- The effect of a command that lists members is to store these; where it lists none, the
backend may take this for the empty list or for no change. -/
def StoresMembers (effect : Opts → Stored → Stored) : Prop :=
  ∀ opts stored, members (effect opts stored) = listed opts ∨
    listed opts = [] ∧ members (effect opts stored) = members stored

variable {listed members}

/-- A command that lists the members given, or none for none given, does what it should with
every backend just when members are given or there are none. -/
theorem members_follow_iff {store : List Member → Stored → Stored}
    (hstore : ∀ new stored, members (store new stored) = new) {given : Option (List Member)}
    {opts : Opts} (hopts : listed opts = given.getD []) (stored : Stored) :
    (∀ effect, StoresMembers listed members effect →
      members (effect opts stored) = given.getD (members stored)) ↔
    members stored = [] ∨ ∃ first rest, given = some (first :: rest) := by
  constructor
  · intro h
    cases given with
    | none =>
      -- a backend that stores the empty list drops the members
      have hdrop := h (fun opts stored => store (listed opts) stored)
        fun opts stored => .inl (hstore _ stored)
      rw [hstore, hopts] at hdrop
      exact .inl hdrop.symm
    | some given =>
      cases given with
      | cons first rest => exact .inr ⟨first, rest, rfl⟩
      | nil =>
        -- a backend that takes the empty list for no change keeps the members
        left
        have hkeep := h (fun opts stored =>
          if (listed opts).isEmpty then stored else store (listed opts) stored) ?_
        · simpa [hopts] using hkeep
        · intro opts stored
          by_cases hlisted : listed opts = []
          · exact .inr ⟨hlisted, by simp [hlisted]⟩
          · exact .inl (by simp [hlisted, hstore])
  · intro h effect heffect
    obtain hstored | ⟨first, rest, rfl⟩ := h
    · have hlisted : given.getD (members stored) = listed opts := by
        rw [hopts, hstored]
      obtain heq | ⟨hnone, heq⟩ := heffect opts stored
      · rw [heq, hlisted]
      · rw [heq, hlisted, hnone, hstored]
    · obtain heq | ⟨hnone, -⟩ := heffect opts stored
      · rw [heq, hopts]
        rfl
      · rw [hopts] at hnone
        cases hnone

/-- Where one input gives no members, another gives the empty list, and both are one command, no
backend does what all commands should unless there are no members. -/
theorem members_follow_all_iff {Input : Type} {effect : Opts → Stored → Stored}
    (heffect : StoresMembers listed members effect) {given : Input → Option (List Member)}
    {opts : Input → Opts} (hopts : ∀ input, listed (opts input) = (given input).getD [])
    {omitting clearing : Input} (homitting : given omitting = none)
    (hclearing : given clearing = some []) (hsame : opts omitting = opts clearing)
    (stored : Stored) :
    (∀ input, members (effect (opts input) stored) = (given input).getD (members stored)) ↔
      members stored = [] := by
  constructor
  · intro h
    have hkeep := h omitting
    rw [hsame, h clearing, homitting, hclearing] at hkeep
    exact hkeep.symm
  · intro hstored input
    obtain heq | ⟨hnone, heq⟩ := heffect (opts input) stored
    · rw [heq, hopts, hstored]
    · rw [heq, hstored, ← hopts, hnone]

/-- Both, for inputs one of which gives no members and another the empty list. -/
theorem members_follow_input_iff {Input : Type} {store : List Member → Stored → Stored}
    (hstore : ∀ new stored, members (store new stored) = new) {given : Input → Option (List Member)}
    {opts : Input → Opts} (hopts : ∀ input, listed (opts input) = (given input).getD [])
    {omitting clearing : Input} (homitting : given omitting = none)
    (hclearing : given clearing = some []) (hsame : opts omitting = opts clearing)
    (stored : Stored) :
    (∀ input, (∀ effect, StoresMembers listed members effect →
        members (effect (opts input) stored) = (given input).getD (members stored)) ↔
      members stored = [] ∨ ∃ first rest, given input = some (first :: rest)) ∧
    ∀ effect, StoresMembers listed members effect →
      ((∀ input, members (effect (opts input) stored) = (given input).getD (members stored)) ↔
        members stored = []) := by
  constructor
  · intro input
    exact members_follow_iff hstore (hopts input) stored
  · intro effect heffect
    exact members_follow_all_iff heffect hopts homitting hclearing hsame stored

end Members

/-- A group of gvmd. -/
structure StoredGroup where
  comment : String
  users : List String
deriving DecidableEq, Repr

/-- A role of gvmd. -/
structure StoredRole where
  comment : String
  users : List String
deriving DecidableEq, Repr

/-- An agent group of gvmd. -/
structure StoredAgentGroup where
  name : String
  comment : String
  schedulerCronTime : String
  agents : List EntityId
deriving DecidableEq, Repr

/-- gvmd with its resources of one kind: reading one leaves all alone, and an update that succeeds
is one of a resource that exists, with a fixed effect on it. -/
structure MembersBackend {items : IdentityItems} {State Opts Stored : Type}
    (server : Server (IdentityReply items) State) (stored : State → EntityId → Option Stored)
    (read : EntityId → IdentityCommand) (modify : EntityId → Opts → IdentityCommand)
    (effect : Opts → Stored → Stored) : Prop where
  reads : ∀ s id, stored (server.next (read id) s) = stored s
  update : ∀ s id opts response, server.reply (modify id opts) s = .ok response →
    ∃ before, stored s id = some before ∧
      stored (server.next (modify id opts) s)
        = Function.update (stored s) id (some (effect opts before))

/-- `modify_agent_group_cmd`, with the cron time among its options. -/
def agentGroupCommand (id : EntityId) (opts : String × ModifyAgentGroupOpts) : IdentityCommand :=
  .modifyAgentGroup id opts.1 opts.2

namespace GvmdAdapter

variable {Result : Type} (adapter : GvmdAdapter Result)

/-- From `s` to `t` the resource that `id` names takes the effect of a command with these options,
and no other changes. -/
def TakesEffect {State Opts Stored : Type} (stored : State → EntityId → Option Stored)
    (effect : Opts → Stored → Stored) (id : String) (opts : Opts) (s t : State) : Prop :=
  ∃ entityId before, adapter.entityId id = some entityId ∧ stored s entityId = some before ∧
    stored t = Function.update (stored s) entityId (some (effect opts before))

/-- The agents are as before where the input omits them, and else those given. -/
def FollowsAgents (input : ModifyAgentGroupInput) (before after : List EntityId) : Prop :=
  input.agentIds.elim (after = before) fun ids => after.map some = ids.map adapter.entityId

/-- The command of `modify_agent_group` beside its identifier. -/
def agentGroupOpts (input : ModifyAgentGroupInput) (agentIds : Option (List EntityId)) :
    String × ModifyAgentGroupOpts :=
  (input.schedulerCronTime, ⟨input.name, input.comment, agentIds.getD []⟩)

variable {adapter}

theorem modifyAgentGroupOpts_eq_ok {input : ModifyAgentGroupInput} {opts : ModifyAgentGroupOpts} :
    adapter.modifyAgentGroupOpts input = .ok opts ↔ ∃ agentIds,
      input.agentIds.mapM adapter.parseEntityIds = .ok agentIds ∧
        (input.schedulerCronTime, opts) = agentGroupOpts input agentIds := by
  unfold modifyAgentGroupOpts agentGroupOpts
  rw [bind_eq_ok]
  constructor
  · rintro ⟨agentIds, hagents, h⟩
    exact ⟨agentIds, hagents, by rw [← Except.ok.inj h]⟩
  · rintro ⟨agentIds, hagents, h⟩
    exact ⟨agentIds, hagents, by rw [(Prod.mk.inj h).2]; rfl⟩

/-- In terms of the identifiers that were parsed. -/
theorem followsAgents_iff {input : ModifyAgentGroupInput} {agentIds : Option (List EntityId)}
    (hagents : input.agentIds.mapM adapter.parseEntityIds = .ok agentIds)
    {before after : List EntityId} :
    adapter.FollowsAgents input before after ↔ after = agentIds.getD before := by
  unfold FollowsAgents
  cases hinput : input.agentIds with
  | none =>
    rw [hinput] at hagents
    obtain rfl : none = agentIds := Except.ok.inj hagents
    rfl
  | some ids =>
    rw [hinput] at hagents
    obtain ⟨parsed, hparsed, h⟩ := ok_of_bind hagents
    obtain rfl : some parsed = agentIds := Except.ok.inj h
    show after.map some = ids.map adapter.entityId ↔ after = parsed
    rw [← map_some_of_parseEntityIds hparsed]
    exact (List.map_injective_iff.mpr (Option.some_injective _)).eq_iff

theorem names_agents_iff {input : ModifyAgentGroupInput} {agentIds : Option (List EntityId)}
    (hagents : input.agentIds.mapM adapter.parseEntityIds = .ok agentIds) :
    (∃ first rest, agentIds = some (first :: rest)) ↔
      ∃ first rest, input.agentIds = some (first :: rest) := by
  cases hinput : input.agentIds with
  | none =>
    rw [hinput] at hagents
    obtain rfl : none = agentIds := Except.ok.inj hagents
    simp
  | some ids =>
    rw [hinput] at hagents
    obtain ⟨parsed, hparsed, h⟩ := ok_of_bind hagents
    obtain rfl : some parsed = agentIds := Except.ok.inj h
    have hlength := congrArg List.length (map_some_of_parseEntityIds hparsed)
    rw [List.length_map, List.length_map] at hlength
    cases parsed <;> cases ids <;> simp at hlength ⊢

/-! ### Runs -/

section Runs

variable {State Opts Stored Out Group Role AgentGroup : Type} {items : IdentityItems}
  {server : Server (IdentityReply items) State} {stored : State → EntityId → Option Stored}
  {effect : Opts → Stored → Stored} {s t : State} {id : String}

/-- After a command that leaves the resources alone they are as before. -/
theorem run_read {command : IdentityCommand}
    (hread : ∀ s, stored (server.next command s) = stored s)
    {found : command.Response items → Except GatewayError Out} {out : Out}
    (h : ((adapter.callIdentity command).bind fun response => done (found response)).run server s
      = (.ok out, t)) : stored t = stored s := by
  obtain ⟨response, u, hcall, h⟩ := (run_bind_eq_ok server).mp h
  obtain ⟨-, rfl⟩ := run_callIdentity hcall
  obtain ⟨-, rfl⟩ := (run_done_eq_ok server).mp h
  exact hread s

/-- An update that succeeds has its effect on the resource that it names, and the read after it
has none. -/
theorem run_updateMembers {read : EntityId → IdentityCommand}
    {modify : EntityId → Opts → IdentityCommand}
    (hserver : MembersBackend server stored read modify effect) {entityId : EntityId}
    (hid : adapter.parseEntityId id = .ok entityId) {opts : Opts}
    {reading : IdentityProgram items Out}
    (hreading : ∀ {u v out}, reading.run server u = (.ok out, v) → stored v = stored u) {out : Out}
    (h : ((adapter.callIdentity (modify entityId opts)).bind fun _ => reading).run server s
      = (.ok out, t)) : adapter.TakesEffect stored effect id opts s t := by
  obtain ⟨response, u, hcall, h⟩ := (run_bind_eq_ok server).mp h
  obtain ⟨hreply, rfl⟩ := run_callIdentity hcall
  obtain ⟨before, hbefore, hafter⟩ := hserver.update s entityId opts response hreply
  exact ⟨entityId, before, entityId_of_parseEntityId hid, hbefore, (hreading h).trans hafter⟩

theorem run_modifyGroup {groups : State → EntityId → Option StoredGroup}
    {effect : GroupOpts → StoredGroup → StoredGroup}
    (hserver : MembersBackend server groups .getGroup .modifyGroup effect)
    {groupFromGmp : items.Group → Group} {input : ModifyGroupInput} {group : Group}
    (h : (adapter.modifyGroup groupFromGmp id input).run server s = (.ok group, t)) :
    adapter.TakesEffect groups effect id (groupOpts input) s t := by
  obtain ⟨_, -, h⟩ := (run_done_bind_eq_ok server).mp h
  obtain ⟨groupId, hid, h⟩ := (run_done_bind_eq_ok server).mp h
  refine run_updateMembers hserver hid ?_ h
  intro u v group h
  obtain ⟨_, -, h⟩ := (run_done_bind_eq_ok server).mp h
  obtain ⟨groupId, -, h⟩ := (run_done_bind_eq_ok server).mp h
  exact run_read (hserver.reads · groupId) h

theorem run_modifyRole {roles : State → EntityId → Option StoredRole}
    {effect : RoleOpts → StoredRole → StoredRole}
    (hserver : MembersBackend server roles .getRole .modifyRole effect)
    {roleFromGmp : items.Role → Role} {input : ModifyRoleInput} {role : Role}
    (h : (adapter.modifyRole roleFromGmp id input).run server s = (.ok role, t)) :
    adapter.TakesEffect roles effect id (roleOpts input) s t := by
  obtain ⟨_, -, h⟩ := (run_done_bind_eq_ok server).mp h
  obtain ⟨roleId, hid, h⟩ := (run_done_bind_eq_ok server).mp h
  refine run_updateMembers hserver hid ?_ h
  intro u v role h
  obtain ⟨_, -, h⟩ := (run_done_bind_eq_ok server).mp h
  obtain ⟨roleId, -, h⟩ := (run_done_bind_eq_ok server).mp h
  exact run_read (hserver.reads · roleId) h

theorem run_modifyAgentGroup {agentGroups : State → EntityId → Option StoredAgentGroup}
    {effect : String × ModifyAgentGroupOpts → StoredAgentGroup → StoredAgentGroup}
    (hserver : MembersBackend server agentGroups .getAgentGroup agentGroupCommand effect)
    {agentGroupFromGmp : items.AgentGroup → AgentGroup} {input : ModifyAgentGroupInput}
    {agentGroup : AgentGroup}
    (h : (adapter.modifyAgentGroup agentGroupFromGmp id input).run server s
      = (.ok agentGroup, t)) :
    ∃ opts, adapter.modifyAgentGroupOpts input = .ok opts ∧
      adapter.TakesEffect agentGroups effect id (input.schedulerCronTime, opts) s t := by
  obtain ⟨agentGroupId, hid, h⟩ := (run_done_bind_eq_ok server).mp h
  obtain ⟨opts, hopts, h⟩ := (run_done_bind_eq_ok server).mp h
  refine ⟨opts, hopts, run_updateMembers hserver hid ?_ h⟩
  intro u v agentGroup h
  obtain ⟨agentGroupId, -, h⟩ := (run_done_bind_eq_ok server).mp h
  exact run_read (hserver.reads · agentGroupId) h

end Runs

/-! ### Agent groups -/

/-- The agents that a command of `modify_agent_group` lists. -/
def listedAgents (command : String × ModifyAgentGroupOpts) : List EntityId :=
  command.2.agentIds

theorem agentGroup_follows_iff (stored : StoredAgentGroup) :
    (∀ input opts, adapter.modifyAgentGroupOpts input = .ok opts →
      ((∀ effect, StoresMembers listedAgents StoredAgentGroup.agents effect →
          adapter.FollowsAgents input stored.agents
            (effect (input.schedulerCronTime, opts) stored).agents) ↔
        stored.agents = [] ∨ ∃ first rest, input.agentIds = some (first :: rest))) ∧
    ∀ effect, StoresMembers listedAgents StoredAgentGroup.agents effect →
      ((∀ input opts, adapter.modifyAgentGroupOpts input = .ok opts →
          adapter.FollowsAgents input stored.agents
            (effect (input.schedulerCronTime, opts) stored).agents) ↔
        stored.agents = []) := by
  have hopts : ∀ input agentIds,
      listedAgents (agentGroupOpts input agentIds) = agentIds.getD [] := fun _ _ => rfl
  constructor
  · intro input opts hok
    obtain ⟨agentIds, hagents, hcommand⟩ := modifyAgentGroupOpts_eq_ok.mp hok
    have hstore : ∀ (new : List EntityId) (stored : StoredAgentGroup),
        StoredAgentGroup.agents { stored with agents := new } = new := fun _ _ => rfl
    rw [hcommand, ← names_agents_iff hagents]
    simp only [followsAgents_iff hagents]
    exact members_follow_iff hstore (hopts input agentIds) stored
  · intro effect heffect
    have hall (input : ModifyAgentGroupInput) := members_follow_all_iff heffect
      (hopts input) rfl rfl rfl stored
    constructor
    · intro h
      -- the two inputs that only differ in whether they give the empty list
      have hnone := h ⟨"", none, none, none⟩ _ rfl
      have hempty := h ⟨"", none, none, some []⟩ _ rfl
      have hkeep := (followsAgents_iff rfl).mp hnone
      have hdrop := (followsAgents_iff rfl).mp hempty
      exact hkeep.symm.trans hdrop
    · intro hstored input opts hok
      obtain ⟨agentIds, hagents, hcommand⟩ := modifyAgentGroupOpts_eq_ok.mp hok
      rw [hcommand, followsAgents_iff hagents]
      exact (hall input).mpr hstored agentIds

/-- Updates of users keep what they omit and replace what they give. Updates of groups, roles and
agent groups have the effect of the command that they send, which does so for the members just
when members are given or there are none. -/
theorem updates_follow_input_iff (adapter : GvmdAdapter Result)
    {State User Group Role AgentGroup : Type} {items : IdentityItems}
    (server : Server (IdentityReply items) State) (authType : String → Option UserAuthType)
    (userFromGmp : items.User → User) (groupFromGmp : items.Group → Group)
    (roleFromGmp : items.Role → Role) (agentGroupFromGmp : items.AgentGroup → AgentGroup) :
    (∀ users allowAll, UserBackend server users allowAll → ∀ id input s user t,
      (adapter.modifyUser authType userFromGmp id input).run server s = (.ok user, t) →
      ∃ userId before after, adapter.entityId id = some userId ∧ users s userId = some before ∧
        users t userId = some after ∧ adapter.KeepsOrReplaces input before after) ∧
    ((∀ (groups : State → EntityId → Option StoredGroup) effect,
      MembersBackend server groups .getGroup .modifyGroup effect → ∀ id input s group t,
        (adapter.modifyGroup groupFromGmp id input).run server s = (.ok group, t) →
        adapter.TakesEffect groups effect id (groupOpts input) s t) ∧
    ∀ stored : StoredGroup,
      (∀ input, (∀ effect, StoresMembers GroupOpts.users StoredGroup.users effect →
          (effect (groupOpts input) stored).users = input.users.getD stored.users) ↔
        stored.users = [] ∨ ∃ first rest, input.users = some (first :: rest)) ∧
      ∀ effect, StoresMembers GroupOpts.users StoredGroup.users effect →
        ((∀ input, (effect (groupOpts input) stored).users = input.users.getD stored.users) ↔
          stored.users = [])) ∧
    ((∀ (roles : State → EntityId → Option StoredRole) effect,
      MembersBackend server roles .getRole .modifyRole effect → ∀ id input s role t,
        (adapter.modifyRole roleFromGmp id input).run server s = (.ok role, t) →
        adapter.TakesEffect roles effect id (roleOpts input) s t) ∧
    ∀ stored : StoredRole,
      (∀ input, (∀ effect, StoresMembers RoleOpts.users StoredRole.users effect →
          (effect (roleOpts input) stored).users = input.users.getD stored.users) ↔
        stored.users = [] ∨ ∃ first rest, input.users = some (first :: rest)) ∧
      ∀ effect, StoresMembers RoleOpts.users StoredRole.users effect →
        ((∀ input, (effect (roleOpts input) stored).users = input.users.getD stored.users) ↔
          stored.users = [])) ∧
    (∀ (agentGroups : State → EntityId → Option StoredAgentGroup) effect,
      MembersBackend server agentGroups .getAgentGroup agentGroupCommand effect →
      ∀ id input s agentGroup t,
        (adapter.modifyAgentGroup agentGroupFromGmp id input).run server s
          = (.ok agentGroup, t) →
        ∃ opts, adapter.modifyAgentGroupOpts input = .ok opts ∧
          adapter.TakesEffect agentGroups effect id (input.schedulerCronTime, opts) s t) ∧
    ∀ stored : StoredAgentGroup,
      (∀ input opts, adapter.modifyAgentGroupOpts input = .ok opts →
        ((∀ effect, StoresMembers listedAgents StoredAgentGroup.agents effect →
            adapter.FollowsAgents input stored.agents
              (effect (input.schedulerCronTime, opts) stored).agents) ↔
          stored.agents = [] ∨ ∃ first rest, input.agentIds = some (first :: rest))) ∧
      ∀ effect, StoresMembers listedAgents StoredAgentGroup.agents effect →
        ((∀ input opts, adapter.modifyAgentGroupOpts input = .ok opts →
            adapter.FollowsAgents input stored.agents
              (effect (input.schedulerCronTime, opts) stored).agents) ↔
          stored.agents = []) := by
  -- groups and roles are one lemma, each with its own options and stored members
  refine ⟨?_, ⟨?_, ?_⟩, ⟨?_, ?_⟩, ?_, agentGroup_follows_iff⟩
  · intro users allowAll hserver id input s user t h
    exact run_modifyUser hserver h
  · intro groups effect hserver id input s group t h
    exact run_modifyGroup hserver h
  · intro stored
    have hstore : ∀ (new : List String) (stored : StoredGroup),
        StoredGroup.users { stored with users := new } = new := fun _ _ => rfl
    have hopts : ∀ input : ModifyGroupInput, (groupOpts input).users = input.users.getD [] :=
      fun _ => rfl
    have hsame : groupOpts ⟨none, none⟩ = groupOpts ⟨none, some []⟩ := rfl
    exact members_follow_input_iff hstore hopts rfl rfl hsame stored
  · intro roles effect hserver id input s role t h
    exact run_modifyRole hserver h
  · intro stored
    have hstore : ∀ (new : List String) (stored : StoredRole),
        StoredRole.users { stored with users := new } = new := fun _ _ => rfl
    have hopts : ∀ input : ModifyRoleInput, (roleOpts input).users = input.users.getD [] :=
      fun _ => rfl
    have hsame : roleOpts ⟨none, none⟩ = roleOpts ⟨none, some []⟩ := rfl
    exact members_follow_input_iff hstore hopts rfl rfl hsame stored
  · intro agentGroups effect hserver id input s agentGroup t h
    exact run_modifyAgentGroup hserver h

/-- Responses that show a resource as it is stored. -/
def storedItems : IdentityItems where
  User := StoredUser
  Group := StoredGroup
  Role := StoredRole
  AgentGroup := StoredAgentGroup
  hostAccess user := some user.hostAccess

/-- The users, groups, roles and agent groups of gvmd. -/
structure IdentityStore where
  users : EntityId → Option StoredUser
  groups : EntityId → Option StoredGroup
  roles : EntityId → Option StoredRole
  agentGroups : EntityId → Option StoredAgentGroup

/-- The update of a resource in a map, refused where there is none. -/
def changed {Stored : Type} (stored : EntityId → Option Stored) (id : EntityId)
    (effect : Stored → Stored) : EntityId → Option Stored :=
  Function.update stored id ((stored id).map effect)

/-- The answer to an update of a resource, which must exist. -/
def existing {Stored : Type} (stored : EntityId → Option Stored) (id : EntityId) :
    Except GatewayError Unit :=
  if (stored id).isSome then .ok () else .error (.notFound "no such resource")

/-- gvmd, storing the members that a command lists. -/
def identityServer : Server (IdentityReply storedItems) IdentityStore where
  reply
    | .getUser id, s => .ok (s.users id).toList
    | .modifyUser id _, s => existing s.users id
    | .getGroup id, s => .ok (s.groups id).toList
    | .modifyGroup id _, s => existing s.groups id
    | .getRole id, s => .ok (s.roles id).toList
    | .modifyRole id _, s => existing s.roles id
    | .getAgentGroup id, s => .ok (s.agentGroups id).toList
    | .modifyAgentGroup id _ _, s => existing s.agentGroups id
  next
    | .modifyUser id opts, s => { s with users := changed s.users id (opts.apply ⟨false, ""⟩) }
    | .modifyGroup id opts, s =>
      { s with groups := changed s.groups id fun group => { group with users := opts.users } }
    | .modifyRole id opts, s =>
      { s with roles := changed s.roles id fun role => { role with users := opts.users } }
    | .modifyAgentGroup id cron opts, s =>
      { s with agentGroups := changed s.agentGroups id fun agentGroup =>
        { agentGroup with schedulerCronTime := cron, agents := opts.agentIds } }
    | _, s => s

theorem changed_of_existing {Stored : Type} {stored : EntityId → Option Stored} {id : EntityId}
    {response : Unit} (h : existing stored id = .ok response) (effect : Stored → Stored) :
    ∃ before, stored id = some before ∧
      changed stored id effect = Function.update stored id (some (effect before)) := by
  unfold existing at h
  split at h
  · next hsome =>
    obtain ⟨before, hbefore⟩ := Option.isSome_iff_exists.mp hsome
    exact ⟨before, hbefore, by rw [changed, hbefore]; rfl⟩
  · cases h

theorem identityServer_userBackend :
    UserBackend identityServer IdentityStore.users ⟨false, ""⟩ where
  getUser := by
    intro s id item rest hreply
    have hitem : (s.users id).toList = item :: rest := Except.ok.inj hreply
    cases huser : s.users id with
    | none => simp [huser] at hitem
    | some user =>
      rw [huser] at hitem
      obtain rfl : user = item := (List.cons.inj hitem).1
      exact ⟨user, rfl, .inl rfl⟩
  reads _ _ := rfl
  modifyUser s id _ _ := Function.update_self id _ s.users

theorem identityServer_groups : MembersBackend identityServer IdentityStore.groups .getGroup
    .modifyGroup (fun opts group => { group with users := opts.users }) where
  reads _ _ := rfl
  update _ _ _ _ hreply := changed_of_existing hreply _

theorem identityServer_roles : MembersBackend identityServer IdentityStore.roles .getRole
    .modifyRole (fun opts role => { role with users := opts.users }) where
  reads _ _ := rfl
  update _ _ _ _ hreply := changed_of_existing hreply _

theorem identityServer_agentGroups : MembersBackend identityServer IdentityStore.agentGroups
    .getAgentGroup agentGroupCommand (fun opts agentGroup =>
      { agentGroup with schedulerCronTime := opts.1, agents := opts.2.agentIds }) where
  reads _ _ := rfl
  update _ _ _ _ hreply := changed_of_existing hreply _

/-- A user that may not scan one network, with a role, and one resource of each other kind. -/
def identityStore : IdentityStore where
  users := Function.update (fun _ => none) ⟨"ab"⟩
    (some ⟨⟨false, "198.51.100.0/24"⟩, [⟨"c1"⟩]⟩)
  groups := Function.update (fun _ => none) ⟨"ab"⟩ (some ⟨"", ["alice"]⟩)
  roles := Function.update (fun _ => none) ⟨"ab"⟩ (some ⟨"", ["alice"]⟩)
  agentGroups := Function.update (fun _ => none) ⟨"ab"⟩ (some ⟨"", "", "0 0 * * *", [⟨"c1"⟩]⟩)

/-- A new comment keeps the denied hosts of a user, and an empty list of roles takes the role
away. A new comment takes the users of a group away. The users of a role and the agents of an
agent group are replaced by those given. -/
theorem updates_follow_input_iff_denied :
    (∃ user t, (twoFilters.modifyUser (fun _ => none) id "ab"
        ⟨none, some "updated", none, none, some [], none⟩).run identityServer identityStore
      = (.ok user, t) ∧ ∃ before after, identityStore.users ⟨"ab"⟩ = some before ∧
        t.users ⟨"ab"⟩ = some after ∧ after.hostAccess = before.hostAccess ∧
        after.roles.map some = []) ∧
    (∃ group t, (twoFilters.modifyGroup id "ab" ⟨some "updated", none⟩).run identityServer
        identityStore = (.ok group, t) ∧
      ∃ after, t.groups ⟨"ab"⟩ = some after ∧ after.users = []) ∧
    (∃ role t, (twoFilters.modifyRole id "ab" ⟨none, some ["bob"]⟩).run identityServer
        identityStore = (.ok role, t) ∧
      ∃ after, t.roles ⟨"ab"⟩ = some after ∧ after.users = ["bob"]) ∧
    ∃ agentGroup t, (twoFilters.modifyAgentGroup id "ab"
        ⟨"0 6 * * *", none, none, some ["cd"]⟩).run identityServer identityStore
      = (.ok agentGroup, t) ∧
      ∃ after, t.agentGroups ⟨"ab"⟩ = some after ∧ after.agents = [⟨"cd"⟩] := by
  have h := updates_follow_input_iff twoFilters identityServer (fun _ => none)
    (fun user => user) (fun group => group) (fun role => role) (fun agentGroup => agentGroup)
  refine ⟨?_, ?_, ?_, ?_⟩
  · have hrun : ∃ user t, (twoFilters.modifyUser (fun _ => none) id "ab"
        ⟨none, some "updated", none, none, some [], none⟩).run identityServer identityStore
      = (.ok user, t) := ⟨_, _, rfl⟩
    obtain ⟨user, t, hrun⟩ := hrun
    obtain ⟨userId, before, after, hid, hbefore, hafter, hfollows⟩ :=
      h.1 _ _ identityServer_userBackend _ _ _ _ _ hrun
    obtain rfl : ⟨"ab"⟩ = userId := Option.some.inj hid
    exact ⟨user, t, hrun, before, after, hbefore, hafter, hfollows.hosts, hfollows.roles⟩
  · have hrun : ∃ group t, (twoFilters.modifyGroup id "ab" ⟨some "updated", none⟩).run
        identityServer identityStore = (.ok group, t) := ⟨_, _, rfl⟩
    obtain ⟨group, t, hrun⟩ := hrun
    obtain ⟨groupId, before, hid, -, ht⟩ := h.2.1.1 _ _ identityServer_groups _ _ _ _ _ hrun
    obtain rfl : ⟨"ab"⟩ = groupId := Option.some.inj hid
    exact ⟨group, t, hrun, _, (congrFun ht _).trans (Function.update_self _ _ _), rfl⟩
  · have hrun : ∃ role t, (twoFilters.modifyRole id "ab" ⟨none, some ["bob"]⟩).run
        identityServer identityStore = (.ok role, t) := ⟨_, _, rfl⟩
    obtain ⟨role, t, hrun⟩ := hrun
    obtain ⟨roleId, before, hid, -, ht⟩ := h.2.2.1.1 _ _ identityServer_roles _ _ _ _ _ hrun
    obtain rfl : ⟨"ab"⟩ = roleId := Option.some.inj hid
    exact ⟨role, t, hrun, _, (congrFun ht _).trans (Function.update_self _ _ _), rfl⟩
  · have hrun : ∃ agentGroup t, (twoFilters.modifyAgentGroup id "ab"
        ⟨"0 6 * * *", none, none, some ["cd"]⟩).run identityServer identityStore
      = (.ok agentGroup, t) := ⟨_, _, rfl⟩
    obtain ⟨agentGroup, t, hrun⟩ := hrun
    obtain ⟨opts, hopts, agentGroupId, before, hid, -, ht⟩ :=
      h.2.2.2.1 _ _ identityServer_agentGroups _ _ _ _ _ hrun
    obtain rfl : ⟨"ab"⟩ = agentGroupId := Option.some.inj hid
    obtain rfl := Except.ok.inj hopts
    exact ⟨agentGroup, t, hrun, _, (congrFun ht _).trans (Function.update_self _ _ _), rfl⟩

/-- Whatever gvmd makes of the command, a group with a member either loses it to an update that
does not name members or keeps it in one that gives no member. -/
theorem omitted_users_are_empty_users :
    groupOpts ⟨none, none⟩ = groupOpts ⟨none, some []⟩ ∧
    ¬ ∃ effect : GroupOpts → StoredGroup → StoredGroup,
      (effect (groupOpts ⟨none, none⟩) ⟨"", ["alice"]⟩).users = ["alice"] ∧
      (effect (groupOpts ⟨none, some []⟩) ⟨"", ["alice"]⟩).users = [] := by
  refine ⟨rfl, ?_⟩
  rintro ⟨effect, hkeep, hdrop⟩
  have hsame : ["alice"] = ([] : List String) := hkeep.symm.trans hdrop
  cases hsame

end GvmdAdapter

end GvmGateway.Gvmd
