import GvmGateway.Gvmd.FilterTheorems
import GvmGateway.Gvmd.Lists
import GvmGateway.Library.Pages

/-!
# The pages of the list operations

What the list operations return when gvmd serves a list. gvmd is known by its answers: the
one to the filter of the requested page, and the one to the filter without paging terms.
-/

namespace GvmGateway.Gvmd.GvmdAdapter

variable {Result Item Entry : Type} {adapter : GvmdAdapter Result}

/-- The filter that asks for one page. -/
def pageFilter (adapter : GvmdAdapter Result) (query : ListQuery) :
    Except GatewayError (Option String) := do
  let filterId ← adapter.parseOptionalFilterId query.filterId
  adapter.paginatedFilterResolvingFilterId none query.filterString filterId query.page
    query.perPage []

/-- gvmd holds the list `L` for a query, and gives this answer to the filter of its page. -/
structure Serves (adapter : GvmdAdapter Result)
    (send : Option String → Except GatewayError (ListResponse Item)) (query : ListQuery)
    (L : List Item) (answer : ListResponse Item) : Prop where
  paged : ∀ filterId sent, adapter.parseOptionalFilterId query.filterId = .ok filterId →
    adapter.paginatedFilterResolvingFilterId none query.filterString filterId query.page
      query.perPage [] = .ok sent →
    send sent = .ok answer
  whole : ∀ filterId sent, adapter.parseOptionalFilterId query.filterId = .ok filterId →
    adapter.filterResolvingFilterId none query.filterString filterId [] = .ok sent →
    ∃ total, send sent = .ok ⟨L, ⟨some L.length, total⟩⟩

section Terms

variable (T : FilterTerms adapter.filters)

theorem pagingTerms_of_paginated {filterString sent : Option String} {filterId : Option EntityId}
    {page perPage : ℕ} (hsaved : adapter.SavedUnreserved T filterId [])
    (hsent : adapter.paginatedFilterResolvingFilterId none filterString filterId page perPage []
      = .ok sent) :
    T.termsWith sent "first" = ["first=" ++ toString (T.first ⟨page, perPage⟩)] ∧
      T.termsWith sent "rows" = ["rows=" ++ toString perPage] := by
  obtain ⟨saved, hterm, hcomposed⟩ := adapter.paginatedFilterResolvingFilterId_ok hsent
  have hown := (T.onlyOwn_iff hcomposed).mpr (hsaved saved hterm)
  have hfirst := T.keyword_first (T.first ⟨page, perPage⟩)
  have hrows := T.keyword_rows perPage
  have hterms : T.ownTerms none (some ⟨page, perPage⟩) =
      ["first=" ++ toString (T.first ⟨page, perPage⟩), "rows=" ++ toString perPage] := rfl
  constructor
  · rw [hown "first" (by decide), hterms]
    simp only [List.filter_cons, hfirst, hrows, List.filter_nil]
    rfl
  · rw [hown "rows" (by decide), hterms]
    simp only [List.filter_cons, hfirst, hrows, List.filter_nil]
    rfl

theorem pagingTerms_of_unpaged {filterString sent : Option String} {filterId : Option EntityId}
    (hsaved : adapter.SavedUnreserved T filterId [])
    (hsent : adapter.filterResolvingFilterId none filterString filterId [] = .ok sent) :
    T.termsWith sent "first" = [] ∧ T.termsWith sent "rows" = [] := by
  obtain ⟨saved, hterm, hcomposed⟩ := adapter.filterResolvingFilterId_ok hsent
  have hown := (T.onlyOwn_iff hcomposed).mpr (hsaved saved hterm)
  exact ⟨hown "first" (by decide), hown "rows" (by decide)⟩

/-- What is left of a filter without its paging terms: the caller's terms. -/
theorem otherTerms_of_composed {saved filterString sent : Option String}
    {pagination : Option GmpPagination} (hsaved : T.Unreserved saved [])
    (h : composedFilter adapter.filters none saved filterString pagination [] = .ok sent) :
    T.otherTerms sent = T.termsOf saved ++ T.termsOf filterString := by
  obtain ⟨hclean, hterms⟩ := T.composedFilter_ok h
  have hkeep : ∀ text, T.Unreserved text [] →
      (T.termsOf text).filter (T.keyword · ∉ gatewayKeywords []) = T.termsOf text := by
    intro text htext
    exact List.filter_eq_self.mpr fun term hterm => decide_eq_true (htext term hterm)
  have hpaging : (T.paginationTerms pagination).filter (T.keyword · ∉ gatewayKeywords []) = [] := by
    cases pagination with
    | none => rfl
    | some p =>
      have hfirst := T.keyword_first (T.first p)
      have hrows := T.keyword_rows p.perPage
      simp only [FilterTerms.paginationTerms, List.filter_cons, List.filter_nil, hfirst, hrows]
      rfl
  unfold FilterTerms.otherTerms
  rw [hterms]
  simp only [List.filter_append, hkeep _ hsaved, hkeep _ hclean, hpaging, List.append_nil]
  rw [show T.termsOf none = [] from rfl, List.filter_nil, List.append_nil]

end Terms

/-! ## The course of a list operation -/

/-- Whether a filter is refused does not depend on its page. -/
theorem composedFilter_repaged {P : PaginatedFilter} {scope saved filterString sent : Option String}
    {pagination : Option GmpPagination} {reservedTerms : List String}
    (hsent : composedFilter P scope saved filterString pagination reservedTerms = .ok sent)
    (pagination' : Option GmpPagination) :
    ∃ sent', composedFilter P scope saved filterString pagination' reservedTerms = .ok sent' := by
  unfold composedFilter at hsent ⊢
  dsimp only at hsent ⊢
  split at hsent
  · exact absurd hsent (by simp)
  · exact ⟨_, rfl⟩

theorem filterResolvingFilterId_of_paginated {scope filterString sent : Option String}
    {filterId : Option EntityId} {page perPage : ℕ} {reservedTerms : List String}
    (hsent : adapter.paginatedFilterResolvingFilterId scope filterString filterId page perPage
      reservedTerms = .ok sent) :
    ∃ whole, adapter.filterResolvingFilterId scope filterString filterId reservedTerms
      = .ok whole := by
  obtain ⟨saved, hsaved, hcomposed⟩ := adapter.paginatedFilterResolvingFilterId_ok hsent
  unfold filterResolvingFilterId
  rw [hsaved]
  exact composedFilter_repaged hcomposed none

theorem paginatedFilterResolvingFilterId_repaged {scope filterString sent : Option String}
    {filterId : Option EntityId} {page perPage : ℕ} {reservedTerms : List String}
    (hsent : adapter.paginatedFilterResolvingFilterId scope filterString filterId page perPage
      reservedTerms = .ok sent) (page' : ℕ) :
    ∃ sent', adapter.paginatedFilterResolvingFilterId scope filterString filterId page' perPage
      reservedTerms = .ok sent' := by
  obtain ⟨saved, hsaved, hcomposed⟩ := adapter.paginatedFilterResolvingFilterId_ok hsent
  unfold paginatedFilterResolvingFilterId
  rw [hsaved]
  exact composedFilter_repaged hcomposed _

/-- What a list operation returns for an answer of gvmd. -/
def pageFor (convert : Item → Entry) (arrange : List Entry → List Entry)
    (fallback : List Entry → ℕ → Bool) (query : ListQuery) (L : List Item)
    (answer : ListResponse Item) : ResultPage Entry :=
  let items := arrange (answer.items.map convert)
  let total := gvmdTotal answer.counts.filtered answer.counts.total items.length
  if fallback items total then
    { data := Pages.page (arrange (L.map convert)) query.perPage query.page,
      pagination := pagedPagination L.length query.page query.perPage }
  else { data := items, pagination := pagedPagination total query.page query.perPage }

theorem listWithFallback_eq {send : Option String → Except GatewayError (ListResponse Item)}
    {query : ListQuery} {L : List Item} {answer : ListResponse Item}
    (hserves : adapter.Serves send query L answer) (convert : Item → Entry)
    (arrange : List Entry → List Entry) (fallback : List Entry → ℕ → Bool) :
    adapter.listWithFallback send convert arrange fallback query =
      (adapter.pageFilter query).map fun _ =>
        pageFor convert arrange fallback query L answer := by
  unfold listWithFallback pageFilter
  cases hid : adapter.parseOptionalFilterId query.filterId with
  | error err => rfl
  | ok filterId =>
    show (adapter.paginatedFilterResolvingFilterId none query.filterString filterId query.page
      query.perPage [] >>= _) = Except.map _ (adapter.paginatedFilterResolvingFilterId none
        query.filterString filterId query.page query.perPage [])
    cases hsent : adapter.paginatedFilterResolvingFilterId none query.filterString filterId
        query.page query.perPage [] with
    | error err => rfl
    | ok sent =>
      obtain ⟨whole, hwhole⟩ := filterResolvingFilterId_of_paginated hsent
      obtain ⟨total, hall⟩ := hserves.whole filterId whole hid hwhole
      show (send sent >>= _) = .ok (pageFor convert arrange fallback query L answer)
      rw [hserves.paged filterId sent hid hsent]
      unfold pageFor
      dsimp only [Bind.bind, Except.bind, Pure.pure, Except.pure]
      split
      · rw [hwhole]
        dsimp only
        rw [hall]
        rfl
      · rfl

/-! ## Backends that page -/

/-- How a backend that honours `first` and `rows` counts: the items that the filter selects in
every answer, or in no answer without items. -/
inductive CountStyle where
  | always
  | notOnEmptyPages

/-- The answer to the filter of a page, from a backend that honours `first` and `rows`. -/
def CountStyle.PagedAnswer (style : CountStyle) (L : List Item) (query : ListQuery)
    (answer : ListResponse Item) : Prop :=
  answer.items = Pages.page L query.perPage query.page ∧
  match style with
  | .always => answer.counts.filtered = some L.length
  | .notOnEmptyPages =>
    (answer.items = [] → answer.counts = ⟨none, none⟩) ∧
    (answer.items ≠ [] → answer.counts.filtered = some L.length)

/-- The page of a list that a query asks for. -/
def pageOf (L : List Entry) (query : ListQuery) : ResultPage Entry where
  data := Pages.page L query.perPage query.page
  pagination := pagedPagination L.length query.page query.perPage

section Paged

variable {style : CountStyle} {query : ListQuery} {L : List Item} {answer : ListResponse Item}

/-- An answer whose total is wrong is an empty page after the first. -/
theorem CountStyle.PagedAnswer.total_or_fallback (hanswer : style.PagedAnswer L query answer)
    (hpage : 1 ≤ query.page) (hsize : 1 ≤ query.perPage) (convert : Item → Entry) :
    let items := answer.items.map convert
    let total := gvmdTotal answer.counts.filtered answer.counts.total items.length
    total = L.length ∨ needsClientSidePaginationFallback items total query.page = true := by
  obtain ⟨hitems, hcounts⟩ := hanswer
  intro items total
  have hcounted (hfiltered : answer.counts.filtered = some L.length) : total = L.length := by
    show gvmdTotal answer.counts.filtered _ _ = _
    rw [hfiltered]
    rfl
  cases style with
  | always => exact Or.inl (hcounted hcounts)
  | notOnEmptyPages =>
    by_cases hempty : answer.items = []
    · have hnil : items = [] := by
        show answer.items.map convert = []
        rw [hempty, List.map_nil]
      have htotal : total = 0 := by
        show gvmdTotal answer.counts.filtered answer.counts.total items.length = 0
        rw [hcounts.1 hempty, hnil]
        rfl
      rcases Nat.eq_or_lt_of_le hpage with hfirst | hlater
      · -- the first page is empty when the list is
        have hle := (Pages.page_eq_nil_iff hsize L query.page).mp (hitems ▸ hempty)
        rw [← hfirst, Nat.sub_self, Nat.zero_mul] at hle
        exact Or.inl (by omega)
      · exact Or.inr (decide_eq_true ⟨hlater, by rw [hnil]; rfl, htotal⟩)
    · exact Or.inl (hcounted (hcounts.2 hempty))

/-- Whatever else makes an operation read the whole list, it returns the page of the list. -/
theorem pageFor_eq_pageOf (hanswer : style.PagedAnswer L query answer)
    (hpage : 1 ≤ query.page) (hsize : 1 ≤ query.perPage) (convert : Item → Entry)
    {fallback : List Entry → ℕ → Bool}
    (hfallback : ∀ items total,
      needsClientSidePaginationFallback items total query.page = true →
        fallback items total = true) :
    pageFor convert id fallback query L answer = pageOf (L.map convert) query := by
  have hlength : (L.map convert).length = L.length := List.length_map convert
  unfold pageFor pageOf
  dsimp only [id]
  rw [hlength]
  split
  · rfl
  · rename_i hno
    have htotal := (hanswer.total_or_fallback hpage hsize convert).resolve_right
      fun hneeds => hno (hfallback _ _ hneeds)
    rw [htotal, hanswer.1, Pages.map_page]

theorem listWithFallback_eq_pageOf
    {send : Option String → Except GatewayError (ListResponse Item)}
    (hserves : adapter.Serves send query L answer) (hanswer : style.PagedAnswer L query answer)
    (hpage : 1 ≤ query.page) (hsize : 1 ≤ query.perPage) (convert : Item → Entry)
    {fallback : List Entry → ℕ → Bool}
    (hfallback : ∀ items total,
      needsClientSidePaginationFallback items total query.page = true →
        fallback items total = true) :
    adapter.listWithFallback send convert id fallback query =
      (adapter.pageFilter query).map fun _ => pageOf (L.map convert) query := by
  rw [listWithFallback_eq hserves, pageFor_eq_pageOf hanswer hpage hsize convert hfallback]

end Paged

/-- gvmd, counting in this style, serves the list `L` for a query. -/
def CountStyle.Serves (style : CountStyle) (adapter : GvmdAdapter Result)
    (send : Option String → Except GatewayError (ListResponse Item)) (query : ListQuery)
    (L : List Item) : Prop :=
  ∃ answer, adapter.Serves send query L answer ∧ style.PagedAnswer L query answer

/-! ## Backends that read the filter -/

/-- gvmd, counting in this style, reads the filters of a list command: the terms without paging
select the items, `first` and `rows` a page of them, and without these two it answers with all
of them and their count. -/
structure CountStyle.Reads (style : CountStyle) {P : PaginatedFilter} (T : FilterTerms P)
    (send : Option String → Except GatewayError (ListResponse Item))
    (selects : List String → List Item) : Prop where
  paged : ∀ (query : ListQuery) sent, 1 ≤ query.page →
    T.termsWith sent "first" = ["first=" ++ toString ((query.page - 1) * query.perPage + 1)] →
    T.termsWith sent "rows" = ["rows=" ++ toString query.perPage] →
    ∃ answer, send sent = .ok answer ∧
      style.PagedAnswer (selects (T.otherTerms sent)) query answer
  whole : ∀ sent, T.termsWith sent "first" = [] → T.termsWith sent "rows" = [] →
    ∃ total, send sent = .ok ⟨selects (T.otherTerms sent),
      ⟨some (selects (T.otherTerms sent)).length, total⟩⟩

/-- The list that a query asks for: what the terms of its saved filter and of its inline filter
select. -/
def Selected (adapter : GvmdAdapter Result) (T : FilterTerms adapter.filters)
    (selects : List String → List Item) (query : ListQuery) (L : List Item) : Prop :=
  ∀ filterId saved, adapter.parseOptionalFilterId query.filterId = .ok filterId →
    adapter.savedFilterTerm filterId = .ok saved →
      selects (T.termsOf saved ++ T.termsOf query.filterString) = L

/-- Each way of counting has an answer to the filter of a page. -/
theorem CountStyle.exists_pagedAnswer (style : CountStyle) (L : List Item) (query : ListQuery) :
    ∃ answer, style.PagedAnswer L query answer := by
  have hcounted : ∃ answer : ListResponse Item,
      answer.items = Pages.page L query.perPage query.page ∧
        answer.counts.filtered = some L.length := ⟨⟨_, ⟨some L.length, none⟩⟩, rfl, rfl⟩
  obtain ⟨answer, hitems, hcounts⟩ := hcounted
  cases style with
  | always => exact ⟨answer, hitems, hcounts⟩
  | notOnEmptyPages =>
    by_cases hempty : Pages.page L query.perPage query.page = []
    · exact ⟨⟨[], ⟨none, none⟩⟩, hempty.symm, fun _ => rfl, fun hne => absurd rfl hne⟩
    · exact ⟨answer, hitems, fun hnil => absurd (hitems.symm.trans hnil) hempty, fun _ => hcounts⟩

/-- A backend that reads the filter serves the list of a query, unless the saved filter has
paging terms of its own. -/
theorem CountStyle.Reads.serves {style : CountStyle} {T : FilterTerms adapter.filters}
    {send : Option String → Except GatewayError (ListResponse Item)}
    {selects : List String → List Item} {query : ListQuery} {L : List Item}
    (h : style.Reads T send selects) (hpage : 1 ≤ query.page)
    (hsaved : ∀ filterId, adapter.parseOptionalFilterId query.filterId = .ok filterId →
      adapter.SavedUnreserved T filterId [])
    (hL : adapter.Selected T selects query L) : style.Serves adapter send query L := by
  -- the answer to the filter of the page, if there is one
  have hpaged : ∃ answer, style.PagedAnswer L query answer ∧ ∀ filterId sent,
      adapter.parseOptionalFilterId query.filterId = .ok filterId →
      adapter.paginatedFilterResolvingFilterId none query.filterString filterId query.page
        query.perPage [] = .ok sent → send sent = .ok answer := by
    cases hsent : adapter.pageFilter query with
    | error err =>
      obtain ⟨answer, hanswer⟩ := style.exists_pagedAnswer L query
      refine ⟨answer, hanswer, fun filterId sent hid hfilter => ?_⟩
      unfold pageFilter at hsent
      rw [hid] at hsent
      exact absurd (hsent.symm.trans hfilter) (by simp)
    | ok sent =>
      obtain ⟨filterId, hid, hfilter⟩ := ok_of_bind hsent
      obtain ⟨saved, hterm, hcomposed⟩ := adapter.paginatedFilterResolvingFilterId_ok hfilter
      obtain ⟨hfirst, hrows⟩ := pagingTerms_of_paginated T (hsaved filterId hid) hfilter
      rw [T.first_of_page _ hpage] at hfirst
      obtain ⟨answer, hanswer, hstyle⟩ := h.paged query sent hpage hfirst hrows
      rw [otherTerms_of_composed T (hsaved filterId hid saved hterm) hcomposed,
        hL filterId saved hid hterm] at hstyle
      refine ⟨answer, hstyle, fun filterId' sent' hid' hfilter' => ?_⟩
      obtain rfl := Except.ok.inj (hid.symm.trans hid')
      obtain rfl := Except.ok.inj (hfilter.symm.trans hfilter')
      exact hanswer
  obtain ⟨answer, hstyle, hsend⟩ := hpaged
  refine ⟨answer, ⟨hsend, fun filterId sent hid hfilter => ?_⟩, hstyle⟩
  obtain ⟨saved, hterm, hcomposed⟩ := adapter.filterResolvingFilterId_ok hfilter
  obtain ⟨hfirst, hrows⟩ := pagingTerms_of_unpaged T (hsaved filterId hid) hfilter
  obtain ⟨total, hall⟩ := h.whole sent hfirst hrows
  rw [otherTerms_of_composed T (hsaved filterId hid saved hterm) hcomposed,
    hL filterId saved hid hterm] at hall
  exact ⟨total, hall⟩

/-! ## The four operations -/

/-- gvmd's list commands, with what the adapter makes of their items. -/
structure ListCommands (Targets Images Agents Groups Target Image Agent Group : Type) where
  getTargets : GetTargetsOpts → Except GatewayError (ListResponse Targets)
  getOciImageTargets : GetOciImageTargetsOpts → Except GatewayError (ListResponse Images)
  getAgents : GetAgentsOpts → Except GatewayError (ListResponse Agents)
  getAgentGroups : GetAgentGroupsOpts → Except GatewayError (ListResponse Groups)
  targetFromGmp : Targets → Target
  ociImageTargetFromGmp : Images → Image
  agentFromGmp : Agents → Agent
  agentGroupFromGmp : Groups → Group

section Operations

variable {Targets Images Agents Groups Target Image Agent Group : Type}

/-- Each of the four operations returns the page of its list, when its filter is accepted. -/
structure ReturnPages (adapter : GvmdAdapter Result)
    (gmp : ListCommands Targets Images Agents Groups Target Image Agent Group)
    (query : TrashListQuery) (targets : List Targets) (images : List Images)
    (agents : List Agents) (groups : List Groups) : Prop where
  targets : adapter.listTargets gmp.getTargets gmp.targetFromGmp query.toListQuery =
    (adapter.pageFilter query.toListQuery).map fun _ =>
      pageOf (targets.map gmp.targetFromGmp) query.toListQuery
  images : adapter.listOciImageTargets gmp.getOciImageTargets gmp.ociImageTargetFromGmp query =
    (adapter.pageFilter query.toListQuery).map fun _ =>
      pageOf (images.map gmp.ociImageTargetFromGmp) query.toListQuery
  agents : adapter.listAgents gmp.getAgents gmp.agentFromGmp query.toListQuery =
    (adapter.pageFilter query.toListQuery).map fun _ =>
      pageOf (agents.map gmp.agentFromGmp) query.toListQuery
  groups : adapter.listAgentGroups gmp.getAgentGroups gmp.agentGroupFromGmp query =
    (adapter.pageFilter query.toListQuery).map fun _ =>
      pageOf (groups.map gmp.agentGroupFromGmp) query.toListQuery

variable {gmp : ListCommands Targets Images Agents Groups Target Image Agent Group}
  {style : CountStyle} {query : TrashListQuery} {targets : List Targets} {images : List Images}
  {agents : List Agents} {groups : List Groups}

theorem returnPages_of_serves (hpage : 1 ≤ query.page) (hsize : 1 ≤ query.perPage)
    (htargets : style.Serves adapter (targetsCommand gmp.getTargets) query.toListQuery targets)
    (himages : style.Serves adapter (ociImageTargetsCommand gmp.getOciImageTargets query.trash)
      query.toListQuery images)
    (hagents : style.Serves adapter (agentsCommand gmp.getAgents) query.toListQuery agents)
    (hgroups : style.Serves adapter (agentGroupsCommand gmp.getAgentGroups query.trash)
      query.toListQuery groups) :
    adapter.ReturnPages gmp query targets images agents groups := by
  obtain ⟨_, htargets, htargets'⟩ := htargets
  obtain ⟨_, himages, himages'⟩ := himages
  obtain ⟨_, hagents, hagents'⟩ := hagents
  obtain ⟨_, hgroups, hgroups'⟩ := hgroups
  constructor
  · exact listWithFallback_eq_pageOf htargets htargets' hpage hsize gmp.targetFromGmp
      fun _ _ hneeds => hneeds
  · -- the broader trigger of this operation contains the common one
    exact listWithFallback_eq_pageOf himages himages' hpage hsize gmp.ociImageTargetFromGmp
      fun _ _ hneeds => Bool.or_eq_true_iff.mpr (Or.inr hneeds)
  · exact listWithFallback_eq_pageOf hagents hagents' hpage hsize gmp.agentFromGmp
      fun _ _ hneeds => hneeds
  · exact listWithFallback_eq_pageOf hgroups hgroups' hpage hsize gmp.agentGroupFromGmp
      fun _ _ hneeds => hneeds

/-- Whichever way gvmd counts, the four operations return the page of the list: when it reads the
terms of the filters, and the saved filter names no page, and whenever else it answers the two
filters of the query with the page and with the whole list. -/
theorem lists_serve_pages (adapter : GvmdAdapter Result) (style : CountStyle)
    (gmp : ListCommands Targets Images Agents Groups Target Image Agent Group)
    (query : TrashListQuery) (targets : List Targets) (images : List Images)
    (agents : List Agents) (groups : List Groups)
    (hpage : 1 ≤ query.page) (hsize : 1 ≤ query.perPage) :
    (∀ (T : FilterTerms adapter.filters) selectsTargets selectsImages selectsAgents selectsGroups,
      (∀ filterId, adapter.parseOptionalFilterId query.filterId = .ok filterId →
        adapter.SavedUnreserved T filterId []) →
      style.Reads T (targetsCommand gmp.getTargets) selectsTargets →
      adapter.Selected T selectsTargets query.toListQuery targets →
      style.Reads T (ociImageTargetsCommand gmp.getOciImageTargets query.trash) selectsImages →
      adapter.Selected T selectsImages query.toListQuery images →
      style.Reads T (agentsCommand gmp.getAgents) selectsAgents →
      adapter.Selected T selectsAgents query.toListQuery agents →
      style.Reads T (agentGroupsCommand gmp.getAgentGroups query.trash) selectsGroups →
      adapter.Selected T selectsGroups query.toListQuery groups →
        adapter.ReturnPages gmp query targets images agents groups) ∧
    (style.Serves adapter (targetsCommand gmp.getTargets) query.toListQuery targets →
      style.Serves adapter (ociImageTargetsCommand gmp.getOciImageTargets query.trash)
        query.toListQuery images →
      style.Serves adapter (agentsCommand gmp.getAgents) query.toListQuery agents →
      style.Serves adapter (agentGroupsCommand gmp.getAgentGroups query.trash)
        query.toListQuery groups →
        adapter.ReturnPages gmp query targets images agents groups) := by
  refine ⟨?_, returnPages_of_serves hpage hsize⟩
  intro T _ _ _ _ hsaved htargets htargetsL himages himagesL hagents hagentsL hgroups hgroupsL
  exact returnPages_of_serves hpage hsize (htargets.serves hpage hsaved htargetsL)
    (himages.serves hpage hsaved himagesL) (hagents.serves hpage hsaved hagentsL)
    (hgroups.serves hpage hsaved hgroupsL)

end Operations

/-- The number that a paging term names after its keyword. -/
def numberAfter (key term : String) : ℕ := Nat.ofDigitChars 10 (term.toList.drop key.length) 0

theorem numberAfter_toString (key : String) (n : ℕ) :
    numberAfter key (key ++ toString n) = n := by
  have hdigits : (toString n).toList = Nat.toDigits 10 n := by
    show (Nat.repr n).toList = _
    rw [Nat.repr, String.toList_ofList]
  unfold numberAfter
  rw [String.toList_append, ← String.length_toList, List.drop_left, hdigits,
    Nat.ofDigitChars_ten_toDigits]

/-- gvmd with three items, whatever the filter selects, that reads `first` and `rows` and does
not count on empty pages. -/
def threeItems (filterString : Option String) : Except GatewayError (ListResponse String) :=
  match Spaced.filterTerms.termsWith filterString "first",
    Spaced.filterTerms.termsWith filterString "rows" with
  | [first], [rows] =>
    let items := (["a", "b", "c"].drop (numberAfter "first=" first - 1)).take
      (numberAfter "rows=" rows)
    .ok ⟨items, if items = [] then ⟨none, none⟩ else ⟨some 3, some 3⟩⟩
  | _, _ => .ok ⟨["a", "b", "c"], ⟨some 3, some 3⟩⟩

theorem threeItems_reads :
    CountStyle.notOnEmptyPages.Reads Spaced.filterTerms threeItems fun _ => ["a", "b", "c"] where
  paged query sent hpage hfirst hrows := by
    unfold threeItems
    rw [hfirst, hrows]
    dsimp only
    rw [numberAfter_toString, numberAfter_toString, Nat.add_sub_cancel]
    refine ⟨_, rfl, rfl, fun hempty => if_pos hempty, fun hne => ?_⟩
    exact congrArg Counts.filtered (if_neg hne)
  whole sent hfirst hrows := by
    unfold threeItems
    rw [hfirst]
    exact ⟨some 3, rfl⟩

/-- The query for the third page of two. -/
def thirdPage : TrashListQuery :=
  { filterString := some "severity>5", filterId := some "c1", page := 3, perPage := 2,
    trash := false }

/-- A backend that answers every list with the same three items. -/
def threeCommands : ListCommands String String String String String String String String where
  getTargets opts := threeItems opts.filterString
  getOciImageTargets opts := threeItems opts.filterString
  getAgents opts := threeItems opts.filterString
  getAgentGroups opts := threeItems opts.filterString
  targetFromGmp := id
  ociImageTargetFromGmp := id
  agentFromGmp := id
  agentGroupFromGmp := id

/-- The third page of two, with an inline filter and a harmless saved one. -/
theorem lists_serve_pages_third :
    twoFilters.ReturnPages threeCommands thirdPage ["a", "b", "c"] ["a", "b", "c"]
      ["a", "b", "c"] ["a", "b", "c"] ∧
    (twoFilters.pageFilter thirdPage.toListQuery).map (fun _ =>
      pageOf (["a", "b", "c"].map id) thirdPage.toListQuery) = .ok ⟨[], ⟨3, 2, 3, 2⟩⟩ := by
  have hsaved : ∀ filterId,
      twoFilters.parseOptionalFilterId thirdPage.filterId = .ok filterId →
        twoFilters.SavedUnreserved Spaced.filterTerms filterId [] := by
    intro filterId hid saved hterm
    obtain rfl := Except.ok.inj hid
    obtain rfl := Except.ok.inj hterm
    intro term hmem
    have hterms : Spaced.filterTerms.termsOf (some "levels=hm") = ["levels=hm"] := by decide
    obtain rfl := List.mem_singleton.mp (hterms ▸ hmem)
    decide
  have hselected : twoFilters.Selected Spaced.filterTerms (fun _ => ["a", "b", "c"])
      thirdPage.toListQuery ["a", "b", "c"] := fun _ _ _ _ => rfl
  refine ⟨?_, rfl⟩
  exact (lists_serve_pages twoFilters .notOnEmptyPages threeCommands thirdPage _ _ _ _
    (by decide) (by decide)).1 Spaced.filterTerms _ _ _ _ hsaved threeItems_reads hselected
      threeItems_reads hselected threeItems_reads hselected threeItems_reads hselected

end GvmGateway.Gvmd.GvmdAdapter
