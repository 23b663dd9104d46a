import GvmGateway.Gvmd.ListTheorems

/-!
# The pages of the NVT catalogue

`list_nvts` sorts every response by OID and name, and takes a response of more than a page for
that of a backend that does not page.
-/

namespace GvmGateway.Gvmd

variable {Detail : Type}

/-! ## The order of `list_nvts` -/

instance : Std.TransCmp (@nvtCmp Detail) :=
  inferInstanceAs (Std.TransCmp (compareLex (compareOn Nvt.oid) (compareOn Nvt.name)))

/-- By OID, and NVTs of one OID by name. -/
def Ascending (items : List (Nvt Detail)) : Prop :=
  items.Pairwise fun left right => (nvtCmp left right).isLE = true

/-- Two NVTs are ordered one way or the other. -/
theorem nvtCmp_total (left right : Nvt Detail) :
    ((nvtCmp left right).isLE || (nvtCmp right left).isLE) = true := by
  have hswap : nvtCmp right left = (nvtCmp left right).swap := Std.OrientedCmp.eq_swap
  rw [hswap]
  cases nvtCmp left right <;> rfl

/-- `list_nvts` sorts its items. -/
theorem ascending_sortNvts (items : List (Nvt Detail)) : Ascending (sortNvts items) :=
  List.pairwise_mergeSort (fun _ _ _ => Std.TransCmp.isLE_trans) nvtCmp_total items

theorem sortNvts_perm (items : List (Nvt Detail)) : (sortNvts items).Perm items :=
  List.mergeSort_perm items _

theorem length_sortNvts (items : List (Nvt Detail)) : (sortNvts items).length = items.length :=
  (sortNvts_perm items).length_eq

/-- Sorting changes nothing exactly when the items are in order. -/
theorem sortNvts_eq_iff (items : List (Nvt Detail)) : sortNvts items = items ↔ Ascending items := by
  constructor
  · intro hsorted
    rw [← hsorted]
    exact ascending_sortNvts items
  · exact fun hascending => List.mergeSort_of_pairwise hascending

/-- An empty page is sorted. -/
theorem sortNvts_nil : sortNvts ([] : List (Nvt Detail)) = [] := List.mergeSort_nil

/-! ## Backends -/

/-- Whether a backend sends the page asked for, or the whole catalogue. -/
inductive PagingStyle where
  | honours
  | ignores
deriving DecidableEq, Repr

/-- The items of the answer to the filter of a page. -/
def PagingStyle.items {Item : Type} (style : PagingStyle) (L : List Item) (perPage page : ℕ) :
    List Item :=
  match style with
  | .honours => Pages.page L perPage page
  | .ignores => L

/-- The query for another page. -/
def NvtQuery.atPage (query : NvtQuery) (page : ℕ) : NvtQuery := { query with page := page }

namespace GvmdAdapter

variable {Result Item : Type} {adapter : GvmdAdapter Result}
  {getNvts : GetNvtsOpts → Except GatewayError (ListResponse Item)} {style : PagingStyle}
  {query : NvtQuery} {catalogue : Option String → Option String → List Item}

/-- The session, the filters and the options of a query are accepted. -/
structure AcceptsNvts (adapter : GvmdAdapter Result) (query : NvtQuery) : Prop where
  client : adapter.sessionClient = .ok ()
  filter : ∃ sent, adapter.pageFilter query.toListQuery = .ok sent
  opts : ∃ opts, adapter.nvtOpts query none = .ok opts

/-- gvmd holds for each sort field and order the catalogue that the rest of the query selects,
and answers with its count. -/
structure ServesNvts (adapter : GvmdAdapter Result)
    (getNvts : GetNvtsOpts → Except GatewayError (ListResponse Item)) (style : PagingStyle)
    (query : NvtQuery) (catalogue : Option String → Option String → List Item) : Prop where
  paged : ∀ page filterId sent opts, 1 ≤ page →
    adapter.parseOptionalFilterId query.filterId = .ok filterId →
    adapter.paginatedFilterResolvingFilterId none query.filterString filterId page query.perPage []
      = .ok sent →
    adapter.nvtOpts query sent = .ok opts →
    ∃ total, getNvts opts = .ok
      ⟨style.items (catalogue opts.sortField opts.sortOrder) query.perPage page,
        ⟨some (catalogue opts.sortField opts.sortOrder).length, total⟩⟩
  whole : ∀ filterId sent opts, adapter.parseOptionalFilterId query.filterId = .ok filterId →
    adapter.filterResolvingFilterId none query.filterString filterId [] = .ok sent →
    adapter.nvtOpts query sent = .ok opts →
    ∃ total, getNvts opts = .ok
      ⟨catalogue opts.sortField opts.sortOrder,
        ⟨some (catalogue opts.sortField opts.sortOrder).length, total⟩⟩

/-! ## The requests -/

/-- The filter does not decide whether the options are accepted, and the order that the client
asked for is sent as it is. -/
theorem nvtOpts_filterString {opts : GetNvtsOpts} (hopts : adapter.nvtOpts query none = .ok opts)
    (filterString : Option String) :
    ∃ sent, adapter.nvtOpts query filterString = .ok sent ∧
      sent.sortField = query.sortField ∧ sent.sortOrder = query.sortOrder := by
  obtain ⟨_, hsortOrder, hopts⟩ := ok_of_bind hopts
  obtain ⟨configId, hconfigId, hopts⟩ := ok_of_bind hopts
  obtain ⟨preferencesConfigId, hpreferences, hopts⟩ := ok_of_bind hopts
  unfold nvtOpts
  rw [hsortOrder]
  show ∃ sent, (adapter.entityIdFor "configId" query.configId >>= _) = .ok sent ∧ _
  rw [hconfigId]
  show ∃ sent, (adapter.entityIdFor "preferencesConfigId" query.preferencesConfigId >>= _)
    = .ok sent ∧ _
  rw [hpreferences]
  exact ⟨_, rfl, rfl, rfl⟩

/-- The filter of every page can be composed. -/
theorem AcceptsNvts.pageFilter (haccepts : adapter.AcceptsNvts query) (page : ℕ) :
    ∃ sent, adapter.pageFilter (query.atPage page).toListQuery = .ok sent := by
  obtain ⟨sent, hsent⟩ := haccepts.filter
  obtain ⟨filterId, hid, hsent⟩ := ok_of_bind hsent
  obtain ⟨sent', hsent'⟩ := paginatedFilterResolvingFilterId_repaged hsent page
  refine ⟨sent', ?_⟩
  show (adapter.parseOptionalFilterId query.filterId >>= _) = _
  rw [hid]
  exact hsent'

/-- The answer of gvmd to the request for a page, and the list it cuts the page from. -/
theorem ServesNvts.serves (hserves : adapter.ServesNvts getNvts style query catalogue)
    (haccepts : adapter.AcceptsNvts query) {page : ℕ} (hpage : 1 ≤ page) :
    ∃ answer, adapter.Serves (adapter.nvtsCommand getNvts (query.atPage page))
        (query.atPage page).toListQuery (catalogue query.sortField query.sortOrder) answer ∧
      answer.items =
        style.items (catalogue query.sortField query.sortOrder) query.perPage page ∧
      answer.counts.filtered = some (catalogue query.sortField query.sortOrder).length := by
  obtain ⟨sent, hsent⟩ := haccepts.pageFilter page
  obtain ⟨filterId, hid, hsent⟩ := ok_of_bind hsent
  obtain ⟨noFilter, hopts⟩ := haccepts.opts
  -- the answer is the one to the filter that is sent
  obtain ⟨opts, hopts', hfield, horder⟩ := nvtOpts_filterString hopts sent
  obtain ⟨total, hanswer⟩ := hserves.paged page filterId sent opts hpage hid hsent hopts'
  rw [hfield, horder] at hanswer
  refine ⟨⟨_, ⟨_, total⟩⟩,
    ⟨fun filterId' sent' hid' hsent' => ?_, fun filterId' sent' hid' hsent' => ?_⟩, rfl, rfl⟩
  · obtain rfl := Except.ok.inj (hid.symm.trans hid')
    obtain rfl := Except.ok.inj (hsent.symm.trans hsent')
    show (adapter.nvtOpts query sent >>= getNvts) = _
    rw [hopts']
    exact hanswer
  · obtain ⟨opts', hopts'', hfield', horder'⟩ := nvtOpts_filterString hopts sent'
    obtain ⟨total', hwhole⟩ := hserves.whole filterId' sent' opts' hid' hsent' hopts''
    rw [hfield', horder'] at hwhole
    refine ⟨total', ?_⟩
    show (adapter.nvtOpts query sent' >>= getNvts) = _
    rw [hopts'']
    exact hwhole

/-- What `list_nvts` returns for a page of the converted catalogue. -/
def nvtData (style : PagingStyle) (L : List (Nvt Detail)) (perPage page : ℕ) :
    List (Nvt Detail) :=
  match style with
  | .honours => sortNvts (Pages.page L perPage page)
  | .ignores => if perPage < L.length then Pages.page (sortNvts L) perPage page else sortNvts L

/-- The fallback is taken when the answer is longer than a page. -/
theorem backendIgnored_sortNvts (nvtFromGmp : Item → Nvt Detail) (items : List Item)
    (perPage : ℕ) : backendIgnoredPagination (sortNvts (items.map nvtFromGmp)) perPage =
      decide (perPage < items.length) := by
  unfold backendIgnoredPagination
  rw [length_sortNvts, List.length_map]

/-- The page that is returned for an answer of the backend. -/
theorem pageFor_nvts {L : List Item} {answer : ListResponse Item} {page : ℕ}
    (hitems : answer.items = style.items L query.perPage page)
    (hcount : answer.counts.filtered = some L.length) (nvtFromGmp : Item → Nvt Detail) :
    pageFor nvtFromGmp sortNvts
        (fun items total => needsClientSidePaginationFallback items total page ||
          backendIgnoredPagination items query.perPage) (query.atPage page).toListQuery L answer =
      { data := nvtData style (L.map nvtFromGmp) query.perPage page,
        pagination := pagedPagination L.length page query.perPage } := by
  obtain ⟨items, counts⟩ := answer
  obtain rfl : items = style.items L query.perPage page := hitems
  have htotal (n : ℕ) : gvmdTotal counts.filtered counts.total n = L.length := by
    rw [hcount]
    rfl
  unfold pageFor
  dsimp only
  rw [htotal]
  show (if _ then ResultPage.mk (Pages.page (sortNvts (L.map nvtFromGmp)) query.perPage page)
    (pagedPagination L.length page query.perPage) else _) = _
  -- an empty page past the first, with no results in all: the catalogue is empty
  have hempty (hneeds : needsClientSidePaginationFallback
      (sortNvts ((style.items L query.perPage page).map nvtFromGmp)) L.length page = true) :
      L = [] :=
    List.eq_nil_of_length_eq_zero (of_decide_eq_true hneeds).2.2
  cases style with
  | honours =>
    -- a page is never longer than asked for
    have hfits : backendIgnoredPagination
        (sortNvts ((Pages.page L query.perPage page).map nvtFromGmp)) query.perPage = false := by
      rw [backendIgnored_sortNvts]
      exact decide_eq_false (Nat.not_lt.mpr (Pages.length_page_le L query.perPage page))
    rw [nvtData, ← Pages.map_page]
    split
    · rename_i hfallback
      rw [PagingStyle.items, hfits, Bool.or_false] at hfallback
      obtain rfl := hempty hfallback
      rw [Pages.map_page, List.map_nil, sortNvts_nil]
      simp [Pages.page, sortNvts_nil]
    · rfl
  | ignores =>
    -- the whole catalogue comes back; it is cut when it is longer than a page
    have hignored : backendIgnoredPagination
        (sortNvts ((PagingStyle.ignores.items L query.perPage page).map nvtFromGmp))
        query.perPage = decide (query.perPage < (L.map nvtFromGmp).length) := by
      rw [backendIgnored_sortNvts, List.length_map]
      rfl
    rw [nvtData]
    by_cases hlong : query.perPage < (L.map nvtFromGmp).length
    · rw [decide_eq_true hlong] at hignored
      rw [if_pos hlong]
      exact if_pos (Bool.or_eq_true_iff.mpr (Or.inr hignored))
    · rw [decide_eq_false hlong] at hignored
      rw [if_neg hlong]
      split
      · rename_i hfallback
        rw [hignored, Bool.or_false] at hfallback
        obtain rfl := hempty hfallback
        rw [List.map_nil, sortNvts_nil]
        simp [Pages.page]
      · rfl

/-- The pages of `list_nvts`, by the style of the backend. -/
theorem listNvts_eq (hserves : adapter.ServesNvts getNvts style query catalogue)
    (haccepts : adapter.AcceptsNvts query) (nvtFromGmp : Item → Nvt Detail) {page : ℕ}
    (hpage : 1 ≤ page) :
    adapter.listNvts getNvts nvtFromGmp (query.atPage page) = .ok
      { data := nvtData style ((catalogue query.sortField query.sortOrder).map nvtFromGmp)
          query.perPage page,
        pagination := pagedPagination (catalogue query.sortField query.sortOrder).length page
          query.perPage } := by
  obtain ⟨answer, hanswer, hitems, hcount⟩ := hserves.serves haccepts hpage
  obtain ⟨sent, hsent⟩ := haccepts.pageFilter page
  have hcourse := listWithFallback_eq hanswer nvtFromGmp sortNvts fun items total =>
    needsClientSidePaginationFallback items total page ||
      backendIgnoredPagination items query.perPage
  rw [hsent] at hcourse
  unfold listNvts
  rw [haccepts.client]
  exact hcourse.trans (congrArg Except.ok (pageFor_nvts hitems hcount nvtFromGmp))

/-! ## Partition -/

/-- The pages of a list operation, taken together, are the items of a list. -/
structure PartitionsInto {Entry : Type} (list : ℕ → Except GatewayError (ResultPage Entry))
    (L : List Entry) (perPage : ℕ) (data : ℕ → List Entry) : Prop where
  returned : ∀ page, 1 ≤ page →
    list page = .ok ⟨data page, pagedPagination L.length page perPage⟩
  items : ((List.range (Pages.count L.length perPage)).flatMap fun p => data (p + 1)).Perm L
  full : ∀ page, 1 ≤ page → page < Pages.count L.length perPage → (data page).length = perPage
  nothing_after : ∀ page, Pages.count L.length perPage < page → data page = []

/-- The pages are the catalogue, each item once, as long as the fallback is taken where it must. -/
theorem nvtData_partitions {style : PagingStyle} {L : List (Nvt Detail)} {perPage : ℕ}
    (hsize : 1 ≤ perPage) (hstyle : style = .honours ∨ L = [] ∨ perPage < L.length)
    {list : ℕ → Except GatewayError (ResultPage (Nvt Detail))}
    (hlist : ∀ page, 1 ≤ page → list page =
      .ok ⟨nvtData style L perPage page, pagedPagination L.length page perPage⟩) :
    PartitionsInto list L perPage (nvtData style L perPage) := by
  cases style with
  | honours =>
    refine ⟨hlist, ?_, fun page hpage hlt => ?_, fun page hlt => ?_⟩
    · have hperm : ((List.range (Pages.count L.length perPage)).flatMap
          fun p => nvtData .honours L perPage (p + 1)).Perm
          ((List.range (Pages.count L.length perPage)).flatMap
            fun p => Pages.page L perPage (p + 1)) :=
        List.Perm.flatMap_left _ fun p _ => sortNvts_perm _
      rwa [Pages.flatMap_pages hsize] at hperm
    · rw [nvtData, length_sortNvts]
      exact Pages.length_page hpage hlt
    · rw [nvtData, Pages.page_eq_nil_of_count_lt hsize hlt, sortNvts_nil]
  | ignores =>
    -- the fallback cuts its pages from the sorted catalogue
    have hdata (page : ℕ) : nvtData .ignores L perPage page =
        Pages.page (sortNvts L) perPage page := by
      rw [nvtData]
      split
      · rfl
      · rename_i hshort
        obtain rfl : L = [] := hstyle.elim (fun h => nomatch h) fun h => h.resolve_right hshort
        simp [Pages.page, sortNvts_nil]
    have hlength := length_sortNvts L
    refine ⟨hlist, ?_, fun page hpage hlt => ?_, fun page hlt => ?_⟩
    · simp only [hdata]
      rw [← hlength, Pages.flatMap_pages hsize]
      exact sortNvts_perm L
    · rw [hdata]
      exact Pages.length_page hpage (by rwa [hlength])
    · rw [hdata]
      exact Pages.page_eq_nil_of_count_lt hsize (by rwa [hlength])

/-- The pages of `list_nvts` are the catalogue unless gvmd ignores paging and the catalogue fits
on one page. -/
theorem listNvts_partitions_iff (adapter : GvmdAdapter Result)
    (getNvts : GetNvtsOpts → Except GatewayError (ListResponse Item)) (style : PagingStyle)
    (query : NvtQuery) (catalogue : Option String → Option String → List Item)
    (nvtFromGmp : Item → Nvt Detail) (hsize : 1 ≤ query.perPage)
    (haccepts : adapter.AcceptsNvts query)
    (hserves : adapter.ServesNvts getNvts style query catalogue) :
    (∃ data, PartitionsInto (fun page => adapter.listNvts getNvts nvtFromGmp (query.atPage page))
      ((catalogue query.sortField query.sortOrder).map nvtFromGmp) query.perPage data) ↔
    style = .honours ∨ catalogue query.sortField query.sortOrder = [] ∨
      query.perPage < (catalogue query.sortField query.sortOrder).length := by
  have hlist (page : ℕ) (hpage : 1 ≤ page) := listNvts_eq hserves haccepts nvtFromGmp hpage
  obtain ⟨L, hL⟩ : ∃ L, L = catalogue query.sortField query.sortOrder := ⟨_, rfl⟩
  rw [← hL] at hlist ⊢
  have hlength : (L.map nvtFromGmp).length = L.length := List.length_map nvtFromGmp
  constructor
  · rintro ⟨data, hparts⟩
    by_contra hnot
    obtain ⟨hignores, hne, hshort⟩ : style = .ignores ∧ L ≠ [] ∧ ¬query.perPage < L.length := by
      refine ⟨?_, fun h => hnot (Or.inr (Or.inl h)), fun h => hnot (Or.inr (Or.inr h))⟩
      cases style with
      | honours => exact absurd (Or.inl rfl) hnot
      | ignores => rfl
    subst hignores
    -- page 2 is beyond the end, and holds the whole catalogue
    have hcount : Pages.count (L.map nvtFromGmp).length query.perPage < 2 := by
      have hle := (Pages.count_le_iff hsize (L.map nvtFromGmp).length 1).mpr (by omega)
      omega
    have hreturned := (hparts.returned 2 (by decide)).symm.trans (hlist 2 (by decide))
    have hsecond := congrArg ResultPage.data (Except.ok.inj hreturned)
    dsimp only at hsecond
    rw [hparts.nothing_after 2 hcount, nvtData, if_neg (by omega)] at hsecond
    have hnil := congrArg List.length hsecond
    rw [length_sortNvts, hlength] at hnil
    exact hne (List.eq_nil_of_length_eq_zero hnil.symm)
  · intro hstyle
    refine ⟨nvtData style (L.map nvtFromGmp) query.perPage, nvtData_partitions hsize ?_ ?_⟩
    · rw [hlength, List.map_eq_nil_iff]
      exact hstyle
    · rw [hlength]
      exact hlist

/-! ## Order -/

/-- A page is returned as it is exactly when it is in order. -/
theorem sortNvts_data_eq_iff {list : ℕ → Except GatewayError (ResultPage (Nvt Detail))}
    {L : List (Nvt Detail)} {perPage page : ℕ}
    (hlist : list page = .ok ⟨nvtData .honours L perPage page,
      pagedPagination L.length page perPage⟩) :
    (∃ pagination, list page = .ok ⟨Pages.page L perPage page, pagination⟩) ↔
      Ascending (Pages.page L perPage page) := by
  rw [← sortNvts_eq_iff]
  constructor
  · rintro ⟨pagination, hkept⟩
    exact congrArg ResultPage.data (Except.ok.inj (hlist.symm.trans hkept))
  · intro hsorted
    refine ⟨pagedPagination L.length page perPage, ?_⟩
    rw [hlist, nvtData, hsorted]

/-- `list_nvts` keeps the order that the client asked for exactly on the pages that are in
ascending order anyway. -/
theorem listNvts_keeps_order_iff (adapter : GvmdAdapter Result)
    (getNvts : GetNvtsOpts → Except GatewayError (ListResponse Item)) (query : NvtQuery)
    (catalogue : Option String → Option String → List Item) (nvtFromGmp : Item → Nvt Detail)
    (hsize : 1 ≤ query.perPage) (haccepts : adapter.AcceptsNvts query)
    (hserves : adapter.ServesNvts getNvts .honours query catalogue) :
    let L := (catalogue query.sortField query.sortOrder).map nvtFromGmp
    let list := fun page => adapter.listNvts getNvts nvtFromGmp (query.atPage page)
    (∀ page, 1 ≤ page →
      ((∃ pagination, list page = .ok ⟨Pages.page L query.perPage page, pagination⟩) ↔
        Ascending (Pages.page L query.perPage page))) ∧
    ((∃ data : ℕ → List (Nvt Detail),
        (∀ page, 1 ≤ page → ∃ pagination, list page = .ok ⟨data page, pagination⟩) ∧
        (List.range (Pages.count L.length query.perPage)).flatMap (fun p => data (p + 1)) = L) ↔
      ∀ page, 1 ≤ page → Ascending (Pages.page L query.perPage page)) := by
  intro L list
  have hlist (page : ℕ) (hpage : 1 ≤ page) : list page =
      .ok ⟨nvtData .honours L query.perPage page, pagedPagination L.length page query.perPage⟩ := by
    have heq := listNvts_eq hserves haccepts nvtFromGmp hpage
    rwa [← List.length_map nvtFromGmp] at heq
  refine ⟨fun page hpage => sortNvts_data_eq_iff (hlist page hpage), ?_⟩
  constructor
  · rintro ⟨data, hdata, hall⟩ page hpage
    -- the pages that are returned are the sorted ones
    have hsorted (p : ℕ) : data (p + 1) = sortNvts (Pages.page L query.perPage (p + 1)) := by
      obtain ⟨pagination, hreturned⟩ := hdata (p + 1) (Nat.succ_pos p)
      have heq := hreturned.symm.trans (hlist (p + 1) (Nat.succ_pos p))
      exact congrArg ResultPage.data (Except.ok.inj heq)
    have hlength (p : ℕ) : (data (p + 1)).length =
        (Pages.page L query.perPage (p + 1)).length := by
      rw [hsorted, length_sortNvts]
    obtain ⟨p, rfl⟩ : ∃ p, page = p + 1 := ⟨page - 1, by omega⟩
    -- a page of the catalogue, or one behind it
    rcases Nat.lt_or_ge p (Pages.count L.length query.perPage) with hlt | hge
    -- of the same lengths, and together the catalogue: each is the catalogue's own page
    · have htake : L = L.take (Pages.count L.length query.perPage * query.perPage) := by
        rw [← Pages.flatMap_page, Pages.flatMap_pages hsize]
      have heq := Pages.eq_page_of_flatMap hlength (hall.trans htake) p hlt
      rw [← sortNvts_eq_iff, ← hsorted, heq]
    · rw [Pages.page_eq_nil_of_count_lt hsize (Nat.lt_succ_of_le hge)]
      exact List.Pairwise.nil
  · intro hascending
    refine ⟨Pages.page L query.perPage, fun page hpage => ?_, Pages.flatMap_pages hsize L⟩
    exact (sortNvts_data_eq_iff (hlist page hpage)).mpr (hascending page hpage)

/-! ## Two backends -/

/-- The number at the front of a text, and what follows it. -/
def readNumber (cs : List Char) : ℕ × List Char :=
  (Nat.ofDigitChars 10 (cs.takeWhile Char.isDigit) 0, cs.dropWhile Char.isDigit)

/-- gvmd with one list, which reads the terms `first` and `rows` of a filter. -/
def pagingGvmd (L : List Item) (opts : GetNvtsOpts) : Except GatewayError (ListResponse Item) :=
  match opts.filterString with
  | none => .ok ⟨L, ⟨some L.length, none⟩⟩
  | some text =>
    let (first, rest) := readNumber (text.toList.drop "first=".length)
    let (rows, _) := readNumber (rest.drop " rows=".length)
    .ok ⟨(L.drop (first - 1)).take rows, ⟨some L.length, none⟩⟩

/-- gvmd with one list, which it always returns as a whole. -/
def ignoringGvmd (L : List Item) (_ : GetNvtsOpts) : Except GatewayError (ListResponse Item) :=
  .ok ⟨L, ⟨some L.length, none⟩⟩

/-- All NVTs, by pages of this size. -/
def allNvts (perPage : ℕ) (sortField : Option String) : NvtQuery where
  filterString := none
  filterId := none
  page := 1
  perPage := perPage
  configId := none
  preferencesConfigId := none
  family := none
  includePreferences := none
  includePreferenceCount := none
  includeTimeout := none
  sortOrder := some "descending"
  sortField := sortField

/-- A numeral is read up to the next character that is no digit. -/
theorem readNumber_append (n : ℕ) {rest : List Char}
    (hrest : rest = [] ∨ ∃ c cs, rest = c :: cs ∧ c.isDigit = false) :
    readNumber (Nat.toDigits 10 n ++ rest) = (n, rest) := by
  have hdigits : ∀ c ∈ Nat.toDigits 10 n, c.isDigit = true := fun c hc =>
    Nat.isDigit_of_mem_toDigits (by decide) (by decide) hc
  have htake : (Nat.toDigits 10 n ++ rest).takeWhile Char.isDigit = Nat.toDigits 10 n := by
    rw [List.takeWhile_append_of_pos hdigits]
    rcases hrest with rfl | ⟨c, cs, rfl, hc⟩
    · simp
    · simp [hc]
  have hdrop : (Nat.toDigits 10 n ++ rest).dropWhile Char.isDigit = rest := by
    rw [List.dropWhile_append_of_pos hdigits]
    rcases hrest with rfl | ⟨c, cs, rfl, hc⟩
    · rfl
    · simp [hc]
  rw [readNumber, htake, hdrop, Nat.ofDigitChars_ten_toDigits]

/-- The backend reads the page out of its filter. -/
theorem pagingGvmd_of_page (L : List Item) {opts : GetNvtsOpts} {page perPage : ℕ}
    (hfilter : opts.filterString = some ("first=" ++ toString ((page - 1) * perPage + 1) ++
      (" " ++ ("rows=" ++ toString perPage)))) :
    pagingGvmd L opts = .ok ⟨Pages.page L perPage page, ⟨some L.length, none⟩⟩ := by
  have hdigits (n : ℕ) : (toString n).toList = Nat.toDigits 10 n := Nat.toList_repr
  have hfirst : readNumber (("first=" ++ toString ((page - 1) * perPage + 1) ++
      (" " ++ ("rows=" ++ toString perPage))).toList.drop "first=".length) =
      ((page - 1) * perPage + 1, " rows=".toList ++ Nat.toDigits 10 perPage) := by
    rw [String.toList_append, String.toList_append, String.toList_append, String.toList_append,
      hdigits, hdigits, List.append_assoc]
    exact readNumber_append _ (Or.inr ⟨' ', _, rfl, rfl⟩)
  have hrows : readNumber ((" rows=".toList ++ Nat.toDigits 10 perPage).drop " rows=".length) =
      (perPage, []) := by
    have hnothing := readNumber_append perPage (Or.inl rfl)
    rw [List.append_nil] at hnothing
    exact hnothing
  unfold pagingGvmd
  rw [hfilter]
  dsimp only
  rw [hfirst]
  dsimp only
  rw [hrows, Nat.add_sub_cancel]
  rfl

/-- The filter of a page of all NVTs. -/
theorem allNvts_filter (page perPage : ℕ) :
    twoFilters.paginatedFilterResolvingFilterId none none none page perPage [] =
      .ok (some ("first=" ++ toString ((page - 1) * perPage + 1) ++
        (" " ++ ("rows=" ++ toString perPage)))) :=
  rfl

/-- The query for all NVTs is accepted. -/
theorem allNvts_accepted (perPage : ℕ) (sortField : Option String) :
    twoFilters.AcceptsNvts (allNvts perPage sortField) :=
  ⟨rfl, ⟨_, rfl⟩, ⟨_, rfl⟩⟩

/-- This backend honours the page. -/
theorem pagingGvmd_serves (L : List Item) (perPage : ℕ) (sortField : Option String) :
    twoFilters.ServesNvts (pagingGvmd L) .honours (allNvts perPage sortField) fun _ _ => L where
  paged page filterId sent opts hpage hid hsent hopts := by
    obtain rfl := Except.ok.inj hid
    obtain rfl := Except.ok.inj ((allNvts_filter page perPage).symm.trans hsent)
    obtain rfl := Except.ok.inj hopts
    exact ⟨none, pagingGvmd_of_page L rfl⟩
  whole filterId sent opts hid hsent hopts := by
    obtain rfl := Except.ok.inj hid
    obtain rfl := Except.ok.inj hsent
    obtain rfl := Except.ok.inj hopts
    exact ⟨none, rfl⟩

theorem ignoringGvmd_serves (L : List Item) (query : NvtQuery) :
    adapter.ServesNvts (ignoringGvmd L) .ignores query fun _ _ => L where
  paged _ _ _ _ _ _ _ _ := ⟨none, rfl⟩
  whole _ _ _ _ _ _ := ⟨none, rfl⟩

/-- Two NVTs in descending order. -/
def twoNvts : List (Nvt Unit) := [⟨"2", "b", ()⟩, ⟨"1", "a", ()⟩]

/-- They are not in ascending order. -/
theorem twoNvts_not_ascending : ¬Ascending twoNvts := by
  intro hascending
  have hle := List.rel_of_pairwise_cons hascending (List.mem_singleton.mpr rfl)
  exact absurd hle (by decide)

/-- Two NVTs in pages of one, from a backend that sends both each time. -/
theorem listNvts_partitions_iff_ignored :
    ∃ data, PartitionsInto
      (fun page => twoFilters.listNvts (ignoringGvmd twoNvts) id ((allNvts 1 none).atPage page))
      (twoNvts.map id) 1 data :=
  (listNvts_partitions_iff twoFilters (ignoringGvmd twoNvts) .ignores (allNvts 1 none)
    (fun _ _ => twoNvts) id (by decide) (allNvts_accepted 1 none)
    (ignoringGvmd_serves twoNvts _)).mpr (Or.inr (Or.inr (by decide)))

/-- A backend that ignores paging has two NVTs: the second page of 25 holds them once more. -/
theorem second_page_repeats_the_catalogue :
    twoFilters.AcceptsNvts (allNvts 25 none) ∧
    twoFilters.ServesNvts (ignoringGvmd twoNvts) .ignores (allNvts 25 none) (fun _ _ => twoNvts) ∧
    ¬∃ data, PartitionsInto
      (fun page => twoFilters.listNvts (ignoringGvmd twoNvts) id ((allNvts 25 none).atPage page))
      twoNvts 25 data := by
  have hserves := @ignoringGvmd_serves _ _ twoFilters twoNvts (allNvts 25 none)
  refine ⟨allNvts_accepted 25 none, hserves, ?_⟩
  rintro ⟨data, hparts⟩
  have hsecond := listNvts_eq hserves (allNvts_accepted 25 none) id (show 1 ≤ 2 by decide)
  have heq := Except.ok.inj ((hparts.returned 2 (by decide)).symm.trans hsecond)
  have hdata := congrArg (List.length ∘ ResultPage.data) heq
  have hempty := hparts.nothing_after 2 (by decide)
  rw [Function.comp_apply, Function.comp_apply, hempty] at hdata
  have hlength : (sortNvts twoNvts).length = 2 := length_sortNvts twoNvts
  exact absurd (hdata.trans hlength) (by decide)

/-- Four NVTs by severity: of the pages of two the first is in the order of OIDs. -/
def fourNvts : List (Nvt Unit) :=
  [⟨"1", "b", ()⟩, ⟨"2", "a", ()⟩, ⟨"4", "d", ()⟩, ⟨"3", "c", ()⟩]

/-- The first page is returned as the backend has it, the second is not. -/
theorem listNvts_keeps_order_iff_two :
    (∃ pagination, twoFilters.listNvts (pagingGvmd fourNvts) id
      ((allNvts 2 (some "severity")).atPage 1)
        = .ok ⟨[⟨"1", "b", ()⟩, ⟨"2", "a", ()⟩], pagination⟩) ∧
    ¬∃ pagination, twoFilters.listNvts (pagingGvmd fourNvts) id
      ((allNvts 2 (some "severity")).atPage 2)
        = .ok ⟨[⟨"4", "d", ()⟩, ⟨"3", "c", ()⟩], pagination⟩ := by
  have h := (listNvts_keeps_order_iff twoFilters (pagingGvmd fourNvts)
    (allNvts 2 (some "severity")) (fun _ _ => fourNvts) id (by decide) (allNvts_accepted 2 _)
    (pagingGvmd_serves fourNvts 2 _)).1
  constructor
  · refine (h 1 (by decide)).mpr ?_
    exact List.pairwise_pair.mpr (by decide)
  · intro hkept
    have hascending := List.pairwise_pair.mp ((h 2 (by decide)).mp hkept)
    exact absurd hascending (by decide)

/-- The client asks for descending names and gets them in ascending order. -/
theorem descending_page_is_sorted :
    twoFilters.AcceptsNvts (allNvts 2 (some "name")) ∧
    twoFilters.ServesNvts (pagingGvmd twoNvts) .honours (allNvts 2 (some "name"))
      (fun _ _ => twoNvts) ∧
    ¬∃ pagination, twoFilters.listNvts (pagingGvmd twoNvts) id
      ((allNvts 2 (some "name")).atPage 1) = .ok ⟨Pages.page twoNvts 2 1, pagination⟩ := by
  have hserves := pagingGvmd_serves twoNvts 2 (some "name")
  have haccepts := allNvts_accepted 2 (some "name")
  refine ⟨haccepts, hserves, fun hkept => ?_⟩
  have hfirst := listNvts_eq hserves haccepts id (show 1 ≤ 1 by decide)
  have hascending := (@sortNvts_data_eq_iff Unit
    (fun page => twoFilters.listNvts (pagingGvmd twoNvts) id
      ((allNvts 2 (some "name")).atPage page)) twoNvts 2 1 hfirst).mp hkept
  exact twoNvts_not_ascending hascending

end GvmdAdapter

end GvmGateway.Gvmd
