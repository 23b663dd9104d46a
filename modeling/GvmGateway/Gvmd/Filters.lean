import GvmGateway.Domain.Error

/-!
# Filters and pages of the gvmd adapter

`gvmd_adapter/filters.rs`, and the functions of `gvmd_adapter/mod.rs` that resolve a saved
filter. `gvm_gmp::PaginatedFilter` and the calls to gvmd are parameters.
-/

namespace GvmGateway.Gvmd

/-! ## Pages -/

/-- The position of a page in a list. -/
structure Pagination where
  page : ℕ
  perPage : ℕ
  total : ℕ
  totalPages : ℕ
deriving DecidableEq, Repr

/-- A page size is at least one: the REST layer rejects zero, and the application asks for
fixed sizes. -/
def pagedPagination (total page perPage : ℕ) : Pagination where
  page := page
  perPage := perPage
  total := total
  totalPages := if total = 0 then 0 else (total - 1) / perPage + 1

/-- The counts of a list response. -/
structure Counts where
  filtered : Option ℕ
  total : Option ℕ
deriving DecidableEq, Repr

/-- `current_len as u32`. -/
def gvmdTotal (filtered total : Option ℕ) (currentLen : ℕ) : ℕ :=
  (filtered.or total).getD (currentLen % 2 ^ 32)

/-- The offset is a `u64`, which a `usize` holds. -/
def pagedSlice {α : Type} (items : List α) (page perPage : ℕ) : List α :=
  (items.drop ((page - 1) * perPage)).take perPage

/-- The value of an unsigned operation of `w` bits, if it is one. -/
def uint (w value : ℕ) : Option ℕ := if value < 2 ^ w then some value else none

def checkedSub (a b : ℕ) : Option ℕ := if b ≤ a then some (a - b) else none

def checkedDiv (a b : ℕ) : Option ℕ := if b = 0 then none else some (a / b)

/-- The number of pages in `u32`, every operation checked. -/
def totalPagesChecked (total perPage : ℕ) : Option ℕ :=
  if total = 0 then some 0
  else do
    let last ← checkedSub total 1
    let full ← checkedDiv last perPage
    uint 32 (full + 1)

/-- `paged_pagination` with its operations checked. -/
def pagedPaginationChecked (total page perPage : ℕ) : Option Pagination := do
  let totalPages ← totalPagesChecked total perPage
  return ⟨page, perPage, total, totalPages⟩

/-- `target_pointer_width`, the width of a `usize`. -/
inductive PointerWidth where
  | bits32
  | bits64
deriving DecidableEq, Repr

def PointerWidth.bits : PointerWidth → ℕ
  | .bits32 => 32
  | .bits64 => 64

/-- `paged_slice` with its multiplication checked and its offset and page size converted. -/
def pagedSliceChecked {α : Type} (width : PointerWidth) (items : List α) (page perPage : ℕ) :
    Option (List α) := do
  let offset ← uint 64 ((page - 1) * perPage)
  if offset < 2 ^ width.bits then
    some ((items.drop offset).take (perPage % 2 ^ width.bits))
  else
    -- `usize::try_from` has failed
    some []

/-- `needs_client_side_pagination_fallback`. -/
def needsClientSidePaginationFallback {α : Type} (items : List α) (total page : ℕ) : Bool :=
  1 < page ∧ items.isEmpty ∧ total = 0

/-- `backend_ignored_pagination`. -/
def backendIgnoredPagination {α : Type} (items : List α) (perPage : ℕ) : Bool :=
  perPage < items.length

/-! ## Filters -/

/-- `gvm_gmp::Pagination`. -/
structure GmpPagination where
  page : ℕ
  perPage : ℕ
deriving DecidableEq, Repr

/-- Why a filter text is refused. -/
inductive FilterFragmentError where
  | reservedTerm (term : String)
deriving DecidableEq, Repr

/-- `gvm_gmp::PaginatedFilter`. -/
structure PaginatedFilter where
  Builder : Type
  new : Builder
  withClause : Builder → String → Builder
  withFilterString : Builder → Option String → Builder
  tryWithFilterString : Builder → Option String → List String →
    Except FilterFragmentError Builder
  withPagination : Builder → GmpPagination → Builder
  build : Builder → Option String

/-- `map_filter_fragment_error`. -/
def mapFilterFragmentError : FilterFragmentError → GatewayError
  | .reservedTerm term => .invalidInput ("filter contains reserved term '" ++ term ++ "'")

variable (P : PaginatedFilter)

/-- `scope` is the clause that the source calls the filter's prefix. -/
def paginatedFilterWithReservedTerms (scope filterString : Option String) (page perPage : ℕ)
    (reservedTerms : List String) : Except GatewayError (Option String) :=
  let filter := match scope with
    | some clause => P.withClause P.new clause
    | none => P.new
  match P.tryWithFilterString filter filterString reservedTerms with
  | .error err => .error (mapFilterFragmentError err)
  | .ok filter => .ok (P.build (P.withPagination filter ⟨page, perPage⟩))

/-- `paginated_filter`. -/
def paginatedFilter (scope filterString : Option String) (page perPage : ℕ) :
    Except GatewayError (Option String) :=
  paginatedFilterWithReservedTerms P scope filterString page perPage []

/-- The filter of a scope, a saved filter and an inline one, with a page if there is one. -/
def composedFilter (scope savedFilterString filterString : Option String)
    (pagination : Option GmpPagination) (reservedTerms : List String) :
    Except GatewayError (Option String) :=
  -- the saved filter is taken as it is
  let filter := P.withFilterString P.new savedFilterString
  let filter := match scope with
    | some clause => P.withClause filter clause
    | none => filter
  -- only the caller's own text is checked for reserved terms
  match P.tryWithFilterString filter filterString reservedTerms with
  | .error err => .error (mapFilterFragmentError err)
  | .ok filter =>
    let filter := match pagination with
      | some pagination => P.withPagination filter pagination
      | none => filter
    .ok (P.build filter)

/-! ## The adapter -/

/-- `gvm_gmp::EntityId`. -/
structure EntityId where
  value : String
deriving DecidableEq, Repr

/-- The results of a response, and its counts. -/
structure GetResultsResponse (Item : Type) where
  items : List Item
  counts : Counts

/-- What the adapter uses of gvmd and its client library, for the session of one token: the
validation of identifiers, the saved filters (the terms in the response to `get_filter`), and
the results that a filter selects. -/
structure GvmdAdapter (Item : Type) where
  filters : PaginatedFilter
  entityId : String → Option EntityId
  sessionClient : Except GatewayError Unit
  getFilter : EntityId → Except GatewayError (List (Option String))
  getResults : Option String → Except GatewayError (GetResultsResponse Item)

/-- A query for one page of results. -/
structure ResultQuery where
  filterString : Option String
  filterId : Option String
  page : ℕ
  perPage : ℕ
deriving DecidableEq, Repr

/-- One page of results. -/
structure ResultPage (Result : Type) where
  data : List Result
  pagination : Pagination

namespace GvmdAdapter

variable {Item Result : Type} (adapter : GvmdAdapter Item)

/-- `parse_entity_id`. -/
def parseEntityId (value : String) : Except GatewayError EntityId :=
  match adapter.entityId value with
  | some id => .ok id
  | none => .error (.invalidInput ("invalid UUID: " ++ value))

/-- `query.filter_id.as_deref().map(parse_entity_id).transpose()`. -/
def parseFilterId (filterId : Option String) : Except GatewayError (Option EntityId) :=
  match filterId with
  | none => .ok none
  | some value => (adapter.parseEntityId value).map some

/-- The term of a saved filter. -/
def savedFilterTerm (filterId : Option EntityId) : Except GatewayError (Option String) :=
  match filterId with
  | none => .ok none
  | some id =>
    match adapter.getFilter id with
    | .error err => .error err
    | .ok [] => .error (.notFound ("filter " ++ id.value ++ " not found"))
    | .ok (term :: _) => .ok term

/-- `paginated_filter_resolving_filter_id`. -/
def paginatedFilterResolvingFilterId (scope filterString : Option String)
    (filterId : Option EntityId) (page perPage : ℕ) (reservedTerms : List String) :
    Except GatewayError (Option String) :=
  match adapter.savedFilterTerm filterId with
  | .error err => .error err
  | .ok saved =>
    composedFilter adapter.filters scope saved filterString (some ⟨page, perPage⟩) reservedTerms

/-- `filter_resolving_filter_id`. -/
def filterResolvingFilterId (scope filterString : Option String) (filterId : Option EntityId)
    (reservedTerms : List String) : Except GatewayError (Option String) :=
  match adapter.savedFilterTerm filterId with
  | .error err => .error err
  | .ok saved => composedFilter adapter.filters scope saved filterString none reservedTerms

/-- The filter that `get_report_results` sends. -/
def reportResultsFilter (reportId : String) (query : ResultQuery) :
    Except GatewayError (Option String) := do
  let _ ← adapter.parseEntityId reportId
  let filterId ← adapter.parseFilterId query.filterId
  adapter.paginatedFilterResolvingFilterId (some ("report_id=" ++ reportId)) query.filterString
    filterId query.page query.perPage ["report_id"]

/-- The filter of `report_detail_query`, whose requests name the report beside the filter. -/
def reportDetailFilter (query : ResultQuery) : Except GatewayError (Option String) := do
  let filterId ← adapter.parseFilterId query.filterId
  adapter.paginatedFilterResolvingFilterId none query.filterString filterId query.page
    query.perPage ["report_id"]

/-- `get_report_results`; `resultFromGmp` converts one item. -/
def getReportResults (resultFromGmp : Item → Result) (reportId : String) (query : ResultQuery) :
    Except GatewayError (ResultPage Result) := do
  let _ ← adapter.sessionClient
  let filter ← adapter.reportResultsFilter reportId query
  let parsed ← adapter.getResults filter
  let items := parsed.items.map resultFromGmp
  let total := gvmdTotal parsed.counts.filtered parsed.counts.total items.length
  return { data := items, pagination := pagedPagination total query.page query.perPage }

end GvmdAdapter

end GvmGateway.Gvmd
