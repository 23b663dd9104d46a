import GvmGateway.Gvmd.Filters

/-!
# Lists of the gvmd adapter

The list operations that read a page from gvmd and, when the answer looks as if gvmd had not
paged it, read the whole list and cut the page themselves: targets, OCI image targets, agents,
agent groups and NVTs. The commands to gvmd and the conversions of its items are parameters.
-/

namespace GvmGateway.Gvmd

/-- `TargetQuery` and `AgentQuery`. -/
structure ListQuery where
  filterString : Option String
  filterId : Option String
  page : ℕ
  perPage : ℕ
deriving DecidableEq, Repr

/-- `SpecializedTargetQuery` and `AgentGroupQuery`. -/
structure TrashListQuery extends ListQuery where
  trash : Bool
deriving DecidableEq, Repr

/-- The response to a list command. -/
abbrev ListResponse (Item : Type) := GetResultsResponse Item

structure GetTargetsOpts where
  filterString : Option String
  filterId : Option EntityId
  trash : Option Bool
  details : Option Bool
deriving DecidableEq, Repr

structure GetOciImageTargetsOpts where
  filterString : Option String
  filterId : Option EntityId
  trash : Option Bool
  tasks : Option Bool
deriving DecidableEq, Repr

structure GetAgentsOpts where
  filterString : Option String
  filterId : Option EntityId
deriving DecidableEq, Repr

structure GetAgentGroupsOpts where
  filterString : Option String
  filterId : Option EntityId
  trash : Option Bool
deriving DecidableEq, Repr

/-! ## NVTs -/

structure NvtQuery extends ListQuery where
  configId : Option String
  preferencesConfigId : Option String
  family : Option String
  includePreferences : Option Bool
  includePreferenceCount : Option Bool
  includeTimeout : Option Bool
  sortOrder : Option String
  sortField : Option String
deriving DecidableEq, Repr

structure GetNvtsOpts where
  filterString : Option String
  filterId : Option EntityId
  details : Option Bool
  preferences : Option Bool
  preferenceCount : Option Bool
  timeout : Option Bool
  configId : Option EntityId
  preferencesConfigId : Option EntityId
  family : Option String
  sortOrder : Option String
  sortField : Option String
deriving DecidableEq, Repr

/-- `detail` is what an NVT holds beside its OID and its name. -/
structure Nvt (Detail : Type) where
  oid : String
  name : String
  detail : Detail
deriving DecidableEq, Repr

/-- The comparison of `list_nvts`. -/
def nvtCmp {Detail : Type} : Nvt Detail → Nvt Detail → Ordering :=
  compareLex (compareOn Nvt.oid) (compareOn Nvt.name)

/-- `sort_by` is stable. -/
def sortNvts {Detail : Type} (items : List (Nvt Detail)) : List (Nvt Detail) :=
  items.mergeSort fun left right => (nvtCmp left right).isLE

namespace GvmdAdapter

variable {Result Item Entry : Type} (adapter : GvmdAdapter Result)

/-- `EntityId::new` with the message for one field. -/
def entityIdFor (field : String) (value : Option String) :
    Except GatewayError (Option EntityId) :=
  match value with
  | none => .ok none
  | some value =>
    match adapter.entityId value with
    | some id => .ok (some id)
    | none => .error (.invalidInput ("invalid " ++ field))

/-- `parse_optional_filter_id`. -/
def parseOptionalFilterId (value : Option String) : Except GatewayError (Option EntityId) :=
  adapter.entityIdFor "filterId" value

/-- The check of `nvt_opts` on the sort order. -/
def checkSortOrder (sortOrder : Option String) : Except GatewayError Unit :=
  match sortOrder with
  | none => .ok ()
  | some sortOrder =>
    if sortOrder = "ascending" ∨ sortOrder = "descending" then .ok ()
    else .error (.invalidInput "sortOrder must be ascending or descending")

def nvtOpts (query : NvtQuery) (filterString : Option String) :
    Except GatewayError GetNvtsOpts := do
  let _ ← checkSortOrder query.sortOrder
  let configId ← adapter.entityIdFor "configId" query.configId
  let preferencesConfigId ← adapter.entityIdFor "preferencesConfigId" query.preferencesConfigId
  return {
    filterString := filterString
    filterId := none
    details := some true
    preferences := query.includePreferences
    preferenceCount := query.includePreferenceCount
    timeout := query.includeTimeout
    configId := configId
    preferencesConfigId := preferencesConfigId
    family := query.family
    sortOrder := query.sortOrder
    sortField := query.sortField
  }

/-! ## The list operations -/

/-- What the list operations have in common. `send` is the list command, `arrange` what is done
to the converted items of a response, and `fallback` tells from the items of a page and their
total whether the whole list is read. -/
def listWithFallback (send : Option String → Except GatewayError (ListResponse Item))
    (convert : Item → Entry) (arrange : List Entry → List Entry)
    (fallback : List Entry → ℕ → Bool) (query : ListQuery) :
    Except GatewayError (ResultPage Entry) := do
  let filterId ← adapter.parseOptionalFilterId query.filterId
  let filterString ← adapter.paginatedFilterResolvingFilterId none query.filterString filterId
    query.page query.perPage []
  let parsed ← send filterString
  let items := arrange (parsed.items.map convert)
  let total := gvmdTotal parsed.counts.filtered parsed.counts.total items.length
  -- the whole list, cut here
  if fallback items total then
    let filterString ← adapter.filterResolvingFilterId none query.filterString filterId []
    let parsed ← send filterString
    let items := arrange (parsed.items.map convert)
    let total := gvmdTotal parsed.counts.filtered parsed.counts.total items.length
    -- the total is that of the second answer
    return { data := pagedSlice items query.page query.perPage,
             pagination := pagedPagination total query.page query.perPage }
  else
    return { data := items, pagination := pagedPagination total query.page query.perPage }

def targetsCommand (getTargets : GetTargetsOpts → Except GatewayError (ListResponse Item))
    (filterString : Option String) : Except GatewayError (ListResponse Item) :=
  getTargets
    { filterString := filterString, filterId := none, trash := none, details := some true }

def ociImageTargetsCommand
    (getOciImageTargets : GetOciImageTargetsOpts → Except GatewayError (ListResponse Item))
    (trash : Bool) (filterString : Option String) : Except GatewayError (ListResponse Item) :=
  getOciImageTargets
    { filterString := filterString, filterId := none, trash := some trash, tasks := some true }

def agentsCommand (getAgents : GetAgentsOpts → Except GatewayError (ListResponse Item))
    (filterString : Option String) : Except GatewayError (ListResponse Item) :=
  getAgents { filterString := filterString, filterId := none }

def agentGroupsCommand
    (getAgentGroups : GetAgentGroupsOpts → Except GatewayError (ListResponse Item))
    (trash : Bool) (filterString : Option String) : Except GatewayError (ListResponse Item) :=
  getAgentGroups { filterString := filterString, filterId := none, trash := some trash }

/-- The options are checked before the command is sent. -/
def nvtsCommand (getNvts : GetNvtsOpts → Except GatewayError (ListResponse Item))
    (query : NvtQuery) (filterString : Option String) :
    Except GatewayError (ListResponse Item) := do
  getNvts (← adapter.nvtOpts query filterString)

def listTargets (getTargets : GetTargetsOpts → Except GatewayError (ListResponse Item))
    (targetFromGmp : Item → Entry) (query : ListQuery) :
    Except GatewayError (ResultPage Entry) :=
  adapter.listWithFallback (targetsCommand getTargets) targetFromGmp id
    (fun items total => needsClientSidePaginationFallback items total query.page) query

/-- Every empty page is read again. -/
def listOciImageTargets
    (getOciImageTargets : GetOciImageTargetsOpts → Except GatewayError (ListResponse Item))
    (ociImageTargetFromGmp : Item → Entry) (query : TrashListQuery) :
    Except GatewayError (ResultPage Entry) :=
  adapter.listWithFallback (ociImageTargetsCommand getOciImageTargets query.trash)
    ociImageTargetFromGmp id
    (fun items total =>
      items.isEmpty || needsClientSidePaginationFallback items total query.page)
    query.toListQuery

def listAgents (getAgents : GetAgentsOpts → Except GatewayError (ListResponse Item))
    (agentFromGmp : Item → Entry) (query : ListQuery) :
    Except GatewayError (ResultPage Entry) :=
  adapter.listWithFallback (agentsCommand getAgents) agentFromGmp id
    (fun items total => needsClientSidePaginationFallback items total query.page) query

def listAgentGroups
    (getAgentGroups : GetAgentGroupsOpts → Except GatewayError (ListResponse Item))
    (agentGroupFromGmp : Item → Entry) (query : TrashListQuery) :
    Except GatewayError (ResultPage Entry) :=
  adapter.listWithFallback (agentGroupsCommand getAgentGroups query.trash) agentGroupFromGmp id
    (fun items total => needsClientSidePaginationFallback items total query.page)
    query.toListQuery

/-- The client of the session is looked up first. -/
def listNvts {Detail : Type} (getNvts : GetNvtsOpts → Except GatewayError (ListResponse Item))
    (nvtFromGmp : Item → Nvt Detail) (query : NvtQuery) :
    Except GatewayError (ResultPage (Nvt Detail)) := do
  let _ ← adapter.sessionClient
  adapter.listWithFallback (adapter.nvtsCommand getNvts query) nvtFromGmp sortNvts
    (fun items total => needsClientSidePaginationFallback items total query.page ||
      backendIgnoredPagination items query.perPage)
    query.toListQuery

end GvmdAdapter

end GvmGateway.Gvmd
