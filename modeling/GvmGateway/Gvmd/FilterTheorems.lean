import GvmGateway.Gvmd.Filters
import Mathlib.Data.List.Basic

/-!
# Reserved filter terms

The terms of the filters that the adapter sends. An inline filter never adds a term that the
gateway reserves for itself; a saved filter adds whatever its owner stored.
-/

namespace GvmGateway.Gvmd

/-- No caller may use these keywords in a filter with the given reserved terms. -/
def gatewayKeywords (reservedTerms : List String) : List String :=
  "first" :: "rows" :: reservedTerms

/-- What the gateway relies on in `gvm_gmp::PaginatedFilter`. A filter is read as a list of
terms, each with a keyword, and `first p` is the item that page `p` starts with. Texts stand for
themselves: a quote that one of them leaves open, and that would swallow what is appended to it,
is not modelled. -/
structure FilterTerms (P : PaginatedFilter) where
  terms : String → List String
  keyword : String → String
  added : P.Builder → List String
  first : GmpPagination → ℕ
  first_of_page : ∀ p : GmpPagination, 1 ≤ p.page → first p = (p.page - 1) * p.perPage + 1
  keyword_first : ∀ n : ℕ, keyword ("first=" ++ toString n) = "first"
  keyword_rows : ∀ n : ℕ, keyword ("rows=" ++ toString n) = "rows"
  added_new : added P.new = []
  added_withClause : ∀ filter text,
    added (P.withClause filter text) = added filter ++ terms text
  added_withFilterString : ∀ filter text,
    added (P.withFilterString filter text) = added filter ++ text.elim [] terms
  tryWithFilterString_ok : ∀ filter text reservedTerms,
    (∀ term ∈ text.elim [] terms, keyword term ∉ gatewayKeywords reservedTerms) →
    ∃ filter', P.tryWithFilterString filter text reservedTerms = .ok filter' ∧
      added filter' = added filter ++ text.elim [] terms
  tryWithFilterString_error : ∀ filter text reservedTerms,
    (∃ term ∈ text.elim [] terms, keyword term ∈ gatewayKeywords reservedTerms) →
    ∃ term, P.tryWithFilterString filter text reservedTerms = .error (.reservedTerm term)
  added_withPagination : ∀ filter p,
    added (P.withPagination filter p) =
      added filter ++ ["first=" ++ toString (first p), "rows=" ++ toString p.perPage]
  terms_build : ∀ filter, (P.build filter).elim [] terms = added filter

namespace FilterTerms

variable {P : PaginatedFilter} (T : FilterTerms P)

/-- The terms of a text that may be absent. -/
def termsOf (text : Option String) : List String :=
  text.elim [] T.terms

/-- The terms of a text that have one keyword. -/
def termsWith (text : Option String) (key : String) : List String :=
  (T.termsOf text).filter (T.keyword · = key)

/-- The terms of a filter that do not name a page of it. -/
def otherTerms (text : Option String) : List String :=
  (T.termsOf text).filter (T.keyword · ∉ gatewayKeywords [])

/-- The terms of a page. -/
def paginationTerms : Option GmpPagination → List String
  | some p => ["first=" ++ toString (T.first p), "rows=" ++ toString p.perPage]
  | none => []

/-- The terms that the gateway itself puts into a filter. -/
def ownTerms (scope : Option String) (pagination : Option GmpPagination) : List String :=
  T.termsOf scope ++ T.paginationTerms pagination

/-- `text` adds no term that the gateway reserves for itself. -/
def Unreserved (text : Option String) (reservedTerms : List String) : Prop :=
  ∀ term ∈ T.termsOf text, T.keyword term ∉ gatewayKeywords reservedTerms

/-! ## Composing a filter -/

/-- A checked text has no reserved term, and adds its terms in order. -/
theorem tryWithFilterString_eq_ok {filter filter' : P.Builder} {text : Option String}
    {reservedTerms : List String}
    (h : P.tryWithFilterString filter text reservedTerms = .ok filter') :
    T.Unreserved text reservedTerms ∧ T.added filter' = T.added filter ++ T.termsOf text := by
  by_cases hclean : T.Unreserved text reservedTerms
  · obtain ⟨sent, hsent, hadded⟩ := T.tryWithFilterString_ok filter text reservedTerms hclean
    rw [h] at hsent
    rw [Except.ok.inj hsent]
    exact ⟨hclean, hadded⟩
  · have hused : ∃ term ∈ text.elim [] T.terms,
        T.keyword term ∈ gatewayKeywords reservedTerms := by
      simpa [Unreserved, termsOf] using hclean
    obtain ⟨term, herror⟩ := T.tryWithFilterString_error filter text reservedTerms hused
    rw [h] at herror
    exact nomatch herror

/-- An inline filter with a reserved term is refused, whatever the saved filter says. -/
theorem composedFilter_reserved {inline : Option String} {reservedTerms : List String}
    (h : ¬ T.Unreserved inline reservedTerms) (scope saved : Option String)
    (pagination : Option GmpPagination) :
    ∃ term, composedFilter P scope saved inline pagination reservedTerms
      = .error (mapFilterFragmentError (.reservedTerm term)) := by
  have hused : ∃ term ∈ inline.elim [] T.terms,
      T.keyword term ∈ gatewayKeywords reservedTerms := by
    simpa [Unreserved, termsOf] using h
  unfold composedFilter
  -- the check comes last, whatever stands in the builder by then
  cases scope with
  | none =>
    obtain ⟨term, herror⟩ := T.tryWithFilterString_error
      (P.withFilterString P.new saved) inline reservedTerms hused
    exact ⟨term, by simp only [herror]⟩
  | some clause =>
    obtain ⟨term, herror⟩ := T.tryWithFilterString_error
      (P.withClause (P.withFilterString P.new saved) clause) inline reservedTerms hused
    exact ⟨term, by simp only [herror]⟩

/-- A scope comes behind the saved filter. -/
theorem added_scope (scope saved : Option String) :
    T.added (match scope with
      | some clause => P.withClause (P.withFilterString P.new saved) clause
      | none => P.withFilterString P.new saved) = T.termsOf saved ++ T.termsOf scope := by
  cases scope with
  | none => simp [T.added_withFilterString, T.added_new, termsOf]
  | some clause =>
    simp [T.added_withClause, T.added_withFilterString, T.added_new, termsOf]

/-- The terms of a filter come from the saved filter, the scope, the inline filter and the page,
in this order, and the inline filter was checked. -/
theorem composedFilter_ok {scope saved inline sent : Option String}
    {pagination : Option GmpPagination} {reservedTerms : List String}
    (h : composedFilter P scope saved inline pagination reservedTerms = .ok sent) :
    T.Unreserved inline reservedTerms ∧
      T.termsOf sent =
        T.termsOf saved ++ T.termsOf scope ++ T.termsOf inline
          ++ T.paginationTerms pagination := by
  have hbase := T.added_scope scope saved
  unfold composedFilter at h
  dsimp only at h
  split at h
  · exact nomatch h
  · rename_i filter hfilter
    obtain ⟨hclean, hadded⟩ := T.tryWithFilterString_eq_ok hfilter
    refine ⟨hclean, ?_⟩
    have hadded := hadded.trans (congrArg (· ++ T.termsOf inline) hbase)
    rw [← Except.ok.inj h]
    cases pagination with
    | none =>
      show (P.build filter).elim [] T.terms = _
      rw [T.terms_build, hadded, paginationTerms, List.append_nil]
    | some p =>
      show (P.build (P.withPagination filter p)).elim [] T.terms = _
      rw [T.terms_build, T.added_withPagination, hadded, paginationTerms]

/-- A text without reserved terms has none with a reserved keyword. -/
theorem termsWith_eq_nil {text : Option String} {reservedTerms : List String}
    (h : T.Unreserved text reservedTerms) {key : String}
    (hkey : key ∈ gatewayKeywords reservedTerms) : T.termsWith text key = [] := by
  apply List.filter_eq_nil_iff.mpr
  intro term hterm heq
  have hsame : T.keyword term = key := of_decide_eq_true heq
  exact h term hterm (hsame ▸ hkey)

/-- The reserved terms of a filter are those of the saved filter and then the gateway's own. -/
theorem termsWith_composed {scope saved inline sent : Option String}
    {pagination : Option GmpPagination} {reservedTerms : List String}
    (h : composedFilter P scope saved inline pagination reservedTerms = .ok sent)
    {key : String} (hkey : key ∈ gatewayKeywords reservedTerms) :
    T.termsWith sent key
      = T.termsWith saved key ++ (T.ownTerms scope pagination).filter (T.keyword · = key) := by
  obtain ⟨hclean, hterms⟩ := T.composedFilter_ok h
  have hinline := T.termsWith_eq_nil hclean hkey
  unfold termsWith at hinline ⊢
  rw [hterms, ownTerms]
  simp only [List.filter_append, hinline, List.nil_append, List.append_assoc]

/-- No text of a caller adds a reserved term to a filter: the reserved terms of the filter are
the gateway's own. -/
def OnlyOwn (scope sent : Option String) (pagination : Option GmpPagination)
    (reservedTerms : List String) : Prop :=
  ∀ key ∈ gatewayKeywords reservedTerms,
    T.termsWith sent key = (T.ownTerms scope pagination).filter (T.keyword · = key)

/-- The gateway's own terms are the only ones of their keywords when the saved filter has none. -/
theorem onlyOwn_iff {scope saved inline sent : Option String}
    {pagination : Option GmpPagination} {reservedTerms : List String}
    (h : composedFilter P scope saved inline pagination reservedTerms = .ok sent) :
    T.OnlyOwn scope sent pagination reservedTerms ↔ T.Unreserved saved reservedTerms := by
  constructor
  · intro hown term hterm hkey
    have heq := T.termsWith_composed h hkey
    rw [hown (T.keyword term) hkey] at heq
    -- the saved filter has the term under its own keyword
    have hmem : term ∈ T.termsWith saved (T.keyword term) :=
      List.mem_filter.mpr ⟨hterm, decide_eq_true rfl⟩
    -- the saved terms come in addition to the own ones, so there are none
    have hnil : T.termsWith saved (T.keyword term) = [] := by
      have hlen := congrArg List.length heq
      rw [List.length_append] at hlen
      apply List.eq_nil_of_length_eq_zero
      omega
    rw [hnil] at hmem
    exact nomatch hmem
  · intro hclean key hkey
    rw [T.termsWith_composed h hkey, T.termsWith_eq_nil hclean hkey, List.nil_append]

/-- A scope adds its terms and nothing else. -/
theorem added_clause (scope : Option String) :
    T.added (match scope with
      | some clause => P.withClause P.new clause
      | none => P.new) = T.termsOf scope := by
  cases scope with
  | none => exact T.added_new
  | some clause => simp [T.added_withClause, T.added_new, termsOf]

/-- A filter without a saved part holds the reserved terms of the gateway only. -/
theorem onlyOwn_of_paginated {scope inline sent : Option String} {page perPage : ℕ}
    {reservedTerms : List String}
    (h : paginatedFilterWithReservedTerms P scope inline page perPage reservedTerms = .ok sent) :
    T.OnlyOwn scope sent (some ⟨page, perPage⟩) reservedTerms := by
  intro key hkey
  have hbase := T.added_clause scope
  unfold paginatedFilterWithReservedTerms at h
  dsimp only at h
  split at h
  · exact nomatch h
  · rename_i filter hfilter
    obtain ⟨hclean, hadded⟩ := T.tryWithFilterString_eq_ok hfilter
    have hadded := hadded.trans (congrArg (· ++ T.termsOf inline) hbase)
    have hterms : T.termsOf sent = T.termsOf scope ++ T.termsOf inline
        ++ T.paginationTerms (some ⟨page, perPage⟩) := by
      rw [← Except.ok.inj h]
      show (P.build (P.withPagination filter ⟨page, perPage⟩)).elim [] T.terms = _
      rw [T.terms_build, T.added_withPagination, hadded, paginationTerms]
    have hinline := T.termsWith_eq_nil hclean hkey
    unfold termsWith at hinline ⊢
    rw [hterms, ownTerms]
    simp only [List.filter_append, hinline, List.append_nil]

end FilterTerms

/-! ## Filters of blank-separated terms

The simplest builder with these laws: it keeps the pieces of the filter and joins them by
blanks. -/

namespace Spaced

/-- The words of a filter, split at white space. -/
def terms (text : String) : List String :=
  ((text.toList.splitOnP Char.isWhitespace).filter (· ≠ [])).map String.ofList

/-- The relations that end the keyword of a term. -/
def isRelation (c : Char) : Bool :=
  c == '=' || c == '<' || c == '>' || c == '~' || c == ':'

/-- What stands before the relation of a term. -/
def keyword (term : String) : String :=
  String.ofList (term.toList.takeWhile (! isRelation ·))

/-- A blank text adds nothing to a filter. -/
def appendPiece (pieces : List String) (text : String) : List String :=
  if terms text = [] then pieces else pieces ++ [text]

/-- Nor does an absent one. -/
def appendOption (pieces : List String) (text : Option String) : List String :=
  text.elim pieces (appendPiece pieces)

/-- The first row of a page, counted from one. -/
def first (p : GmpPagination) : ℕ := (p.page - 1) * p.perPage + 1

/-- The text of a filter: its pieces with blanks between them. -/
def joinPieces : List String → String
  | [] => ""
  | [piece] => piece
  | piece :: next :: pieces => piece ++ (" " ++ joinPieces (next :: pieces))

/-- A builder that joins its pieces by blanks and refuses reserved keywords. -/
def filters : PaginatedFilter where
  Builder := List String
  new := []
  withClause := appendPiece
  withFilterString := appendOption
  tryWithFilterString pieces text reservedTerms :=
    match (text.elim [] terms).find? (keyword · ∈ gatewayKeywords reservedTerms) with
    | some term => .error (.reservedTerm (keyword term))
    | none => .ok (appendOption pieces text)
  withPagination pieces p :=
    pieces ++ ["first=" ++ toString (first p), "rows=" ++ toString p.perPage]
  build pieces := if pieces = [] then none else some (joinPieces pieces)

/-- The words around a blank. -/
theorem terms_space (a b : String) : terms (a ++ (" " ++ b)) = terms a ++ terms b := by
  have hspace : " ".toList = [' '] := rfl
  unfold terms
  rw [String.toList_append, String.toList_append, hspace, List.singleton_append,
    List.splitOnP_append_cons _ _ (by decide), List.filter_append, List.map_append]

/-- The words of a filter are those of its pieces, in order. -/
theorem terms_joinPieces (pieces : List String) :
    terms (joinPieces pieces) = pieces.flatMap terms := by
  induction pieces using joinPieces.induct with
  | case1 => rfl
  | case2 piece => simp [joinPieces]
  | case3 piece next pieces ih => rw [joinPieces, terms_space, ih, ← List.flatMap_cons]

/-- A text without a blank is one term. -/
theorem terms_of_word {text : String} (hne : text.toList ≠ [])
    (h : ∀ c ∈ text.toList, c.isWhitespace = false) : terms text = [text] := by
  unfold terms
  rw [List.splitOnP_eq_singleton h, List.filter_cons_of_pos (by simpa using hne), List.filter_nil,
    List.map_singleton, String.ofList_toList]

/-- Digits are no white space. -/
theorem isWhitespace_of_isDigit {c : Char} (h : c.isDigit) : c.isWhitespace = false := by
  -- the blanks are four characters, and none of them is a digit
  by_contra hblank
  simp only [Char.isWhitespace, Bool.or_eq_true, decide_eq_true_eq, Bool.not_eq_false] at hblank
  rcases hblank with ((rfl | rfl) | rfl) | rfl <;> exact absurd h (by decide)

theorem isWhitespace_toString (n : ℕ) : ∀ c ∈ (toString n).toList, c.isWhitespace = false := by
  intro c hc
  apply isWhitespace_of_isDigit
  have hdigits : (toString n).toList = Nat.toDigits 10 n := by
    show (Nat.repr n).toList = _
    rw [Nat.repr, String.toList_ofList]
  rw [hdigits] at hc
  exact Nat.isDigit_of_mem_toDigits (by omega) (by omega) hc

/-- A clause without white space is one term. -/
theorem terms_clause {key value : String} (hne : key.toList ≠ [])
    (hkey : key.toList.all (! Char.isWhitespace ·))
    (hvalue : ∀ c ∈ value.toList, c.isWhitespace = false) :
    terms (key ++ value) = [key ++ value] := by
  apply terms_of_word
  · rw [String.toList_append]
    simp [hne]
  · intro c hc
    rw [String.toList_append] at hc
    rcases List.mem_append.mp hc with hc | hc
    · simpa using List.all_eq_true.mp hkey c hc
    · exact hvalue c hc

/-- A piece adds its terms at the end. -/
theorem flatMap_appendPiece (pieces : List String) (text : String) :
    (appendPiece pieces text).flatMap terms = pieces.flatMap terms ++ terms text := by
  unfold appendPiece
  split
  · rename_i hblank
    rw [hblank, List.append_nil]
  · simp

theorem flatMap_appendOption (pieces : List String) (text : Option String) :
    (appendOption pieces text).flatMap terms = pieces.flatMap terms ++ text.elim [] terms := by
  cases text with
  | none => simp [appendOption]
  | some text => exact flatMap_appendPiece pieces text

/-- The keyword of a clause is its key. -/
theorem keyword_clause (key value : String) (h : key.toList.all (! isRelation ·)) :
    keyword (key ++ ("=" ++ value)) = key := by
  have hall := List.all_eq_true.mp h
  have hrelation : "=".toList = ['='] := rfl
  unfold keyword
  rw [String.toList_append, String.toList_append, hrelation,
    List.takeWhile_append_of_pos hall, List.singleton_append, List.takeWhile_cons_of_neg (by decide),
    List.append_nil, String.ofList_toList]

/-- A page adds its two terms at the end. -/
theorem flatMap_withPagination (pieces : List String) (p : GmpPagination) :
    List.flatMap terms (filters.withPagination pieces p) =
      pieces.flatMap terms ++ ["first=" ++ toString (first p), "rows=" ++ toString p.perPage] := by
  have hfirst : terms ("first=" ++ toString (first p)) = ["first=" ++ toString (first p)] :=
    terms_clause (by decide) (by decide) (isWhitespace_toString (first p))
  have hrows : terms ("rows=" ++ toString p.perPage) = ["rows=" ++ toString p.perPage] :=
    terms_clause (by decide) (by decide) (isWhitespace_toString p.perPage)
  show (pieces ++ ["first=" ++ toString (first p), "rows=" ++ toString p.perPage]).flatMap terms
    = _
  rw [List.flatMap_append, List.flatMap_cons, List.flatMap_singleton, hfirst, hrows]
  rfl

/-- The text that is built has the terms of the pieces. -/
theorem elim_build (pieces : List String) :
    (filters.build pieces).elim [] terms = pieces.flatMap terms := by
  show (if pieces = [] then none else some (joinPieces pieces)).elim [] terms = _
  by_cases hnil : pieces = []
  · rw [if_pos hnil, hnil]
    rfl
  · rw [if_neg hnil]
    exact terms_joinPieces pieces

/-- The terms of this builder. -/
def filterTerms : FilterTerms filters where
  terms := terms
  keyword := keyword
  added pieces := pieces.flatMap terms
  first := first
  first_of_page _ _ := rfl
  keyword_first n := by
    have h := keyword_clause "first" (toString n) (by decide)
    rwa [← String.append_assoc] at h
  keyword_rows n := by
    have h := keyword_clause "rows" (toString n) (by decide)
    rwa [← String.append_assoc] at h
  added_new := rfl
  added_withClause := flatMap_appendPiece
  added_withFilterString := flatMap_appendOption
  tryWithFilterString_ok pieces text reservedTerms h := by
    refine ⟨appendOption pieces text, ?_, flatMap_appendOption pieces text⟩
    have hnone : (text.elim [] terms).find? (keyword · ∈ gatewayKeywords reservedTerms) = none :=
      List.find?_eq_none.mpr (by simpa using h)
    simp only [filters, hnone]
  tryWithFilterString_error pieces text reservedTerms h := by
    have hsome : ((text.elim [] terms).find?
        (keyword · ∈ gatewayKeywords reservedTerms)).isSome := by
      rw [List.find?_isSome]
      simpa using h
    obtain ⟨term, hterm⟩ := Option.isSome_iff_exists.mp hsome
    exact ⟨keyword term, by simp only [filters, hterm]⟩
  added_withPagination := flatMap_withPagination
  terms_build := elim_build

end Spaced

/-! ## The list operations of the adapter -/

namespace GvmdAdapter

variable {Item : Type} (adapter : GvmdAdapter Item)

/-- The saved filter behind `filterId` adds no term that the gateway reserves for itself. -/
def SavedUnreserved (T : FilterTerms adapter.filters) (filterId : Option EntityId)
    (reservedTerms : List String) : Prop :=
  ∀ saved, adapter.savedFilterTerm filterId = .ok saved → T.Unreserved saved reservedTerms

/-- A paginated filter is composed with the saved one that the backend reads. -/
theorem paginatedFilterResolvingFilterId_ok {scope filterString sent : Option String}
    {filterId : Option EntityId} {page perPage : ℕ} {reservedTerms : List String}
    (h : adapter.paginatedFilterResolvingFilterId scope filterString filterId page perPage
      reservedTerms = .ok sent) :
    ∃ saved, adapter.savedFilterTerm filterId = .ok saved ∧
      composedFilter adapter.filters scope saved filterString (some ⟨page, perPage⟩)
        reservedTerms = .ok sent := by
  unfold paginatedFilterResolvingFilterId at h
  split at h
  · exact nomatch h
  · rename_i saved hsaved
    exact ⟨saved, hsaved, h⟩

/-- So is one without a page. -/
theorem filterResolvingFilterId_ok {scope filterString sent : Option String}
    {filterId : Option EntityId} {reservedTerms : List String}
    (h : adapter.filterResolvingFilterId scope filterString filterId reservedTerms = .ok sent) :
    ∃ saved, adapter.savedFilterTerm filterId = .ok saved ∧
      composedFilter adapter.filters scope saved filterString none reservedTerms = .ok sent := by
  unfold filterResolvingFilterId at h
  split at h
  · exact nomatch h
  · rename_i saved hsaved
    exact ⟨saved, hsaved, h⟩

/-- The saved filter is unreserved when the text that was read is. -/
theorem savedUnreserved_iff (T : FilterTerms adapter.filters) {filterId : Option EntityId}
    {saved : Option String} (h : adapter.savedFilterTerm filterId = .ok saved)
    (reservedTerms : List String) :
    adapter.SavedUnreserved T filterId reservedTerms ↔ T.Unreserved saved reservedTerms := by
  constructor
  · intro hall
    exact hall saved h
  · intro hclean saved' h'
    rw [h] at h'
    rw [← Except.ok.inj h']
    exact hclean

/-- The filter of `get_report_results` is scoped to the report and paginated. -/
theorem reportResultsFilter_ok {reportId : String} {query : ResultQuery} {sent : Option String}
    (h : adapter.reportResultsFilter reportId query = .ok sent) :
    (adapter.entityId reportId).isSome ∧
      ∃ filterId, adapter.parseFilterId query.filterId = .ok filterId ∧
        adapter.paginatedFilterResolvingFilterId (some ("report_id=" ++ reportId))
          query.filterString filterId query.page query.perPage ["report_id"] = .ok sent := by
  obtain ⟨id, hid, h⟩ := ok_of_bind h
  obtain ⟨filterId, hfilterId, hsent⟩ := ok_of_bind h
  refine ⟨?_, filterId, hfilterId, hsent⟩
  unfold parseEntityId at hid
  split at hid
  · rename_i id' hsome
    rw [hsome]
    rfl
  · exact nomatch hid

/-- The filter of `get_report` is paginated, without a scope. -/
theorem reportDetailFilter_ok {query : ResultQuery} {sent : Option String}
    (h : adapter.reportDetailFilter query = .ok sent) :
    ∃ filterId, adapter.parseFilterId query.filterId = .ok filterId ∧
      adapter.paginatedFilterResolvingFilterId none query.filterString filterId query.page
        query.perPage ["report_id"] = .ok sent := ok_of_bind h

/-- gvmd, as far as it answers a request for results with the filter of the request. -/
def echo : GvmdAdapter (Option String) where
  filters := adapter.filters
  entityId := adapter.entityId
  sessionClient := adapter.sessionClient
  getFilter := adapter.getFilter
  getResults sent := .ok ⟨[sent], ⟨none, none⟩⟩

/-- `get_report_results` sends this filter. -/
def SendsFilter (reportId : String) (query : ResultQuery) (sent : Option String) : Prop :=
  ∃ page, adapter.echo.getReportResults id reportId query = .ok page ∧ page.data = [sent]

/-- What `get_report_results` sends is its filter. -/
theorem reportResultsFilter_of_sends {reportId : String} {query : ResultQuery}
    {sent : Option String} (h : adapter.SendsFilter reportId query sent) :
    adapter.reportResultsFilter reportId query = .ok sent := by
  obtain ⟨page, hpage, hdata⟩ := h
  unfold getReportResults at hpage
  obtain ⟨_, -, hpage⟩ := ok_of_bind hpage
  obtain ⟨filter, hfilter, hpage⟩ := ok_of_bind hpage
  have hsame : adapter.reportResultsFilter reportId query = .ok filter := hfilter
  obtain rfl := Except.ok.inj hpage
  obtain rfl : filter = sent := List.head_eq_of_cons_eq hdata
  exact hsame

/-- Nothing is sent for an inline filter with a term that the gateway reserves for itself. -/
theorem paginatedFilterResolvingFilterId_reserved (T : FilterTerms adapter.filters)
    {filterString : Option String} {reservedTerms : List String}
    (h : ¬ T.Unreserved filterString reservedTerms) (scope : Option String)
    (filterId : Option EntityId) (page perPage : ℕ) :
    ∃ err, adapter.paginatedFilterResolvingFilterId scope filterString filterId page perPage
      reservedTerms = .error err := by
  unfold paginatedFilterResolvingFilterId
  cases adapter.savedFilterTerm filterId with
  | error err => exact ⟨err, rfl⟩
  | ok saved =>
    obtain ⟨term, herror⟩ := T.composedFilter_reserved h scope saved (some ⟨page, perPage⟩)
    exact ⟨_, herror⟩

/-- A report identifier that gvmd's client accepts is one value, so its clause is one term. -/
def ReportClause (T : FilterTerms adapter.filters) : Prop :=
  ∀ reportId, (adapter.entityId reportId).isSome →
    T.terms ("report_id=" ++ reportId) = ["report_id=" ++ reportId] ∧
      T.keyword ("report_id=" ++ reportId) = "report_id"

/-- The filter has one `report_id`, `first` and `rows` term: the requested ones. -/
def RequestedTerms (T : FilterTerms adapter.filters) (reportId : String) (query : ResultQuery)
    (sent : Option String) : Prop :=
  T.termsWith sent "report_id" = ["report_id=" ++ reportId] ∧
  T.termsWith sent "first" = ["first=" ++ toString (T.first ⟨query.page, query.perPage⟩)] ∧
  T.termsWith sent "rows" = ["rows=" ++ toString query.perPage]

/-- A filter asks for the page of the report when its reserved terms are the gateway's own. -/
theorem requestedTerms_iff (T : FilterTerms adapter.filters) (hclause : adapter.ReportClause T)
    {reportId : String} (hid : (adapter.entityId reportId).isSome) (query : ResultQuery)
    (sent : Option String) :
    adapter.RequestedTerms T reportId query sent ↔
      T.OnlyOwn (some ("report_id=" ++ reportId)) sent (some ⟨query.page, query.perPage⟩)
        ["report_id"] := by
  obtain ⟨hterms, hkeyword⟩ := hclause reportId hid
  have hown : T.ownTerms (some ("report_id=" ++ reportId)) (some ⟨query.page, query.perPage⟩)
      = ["report_id=" ++ reportId, "first=" ++ toString (T.first ⟨query.page, query.perPage⟩),
        "rows=" ++ toString query.perPage] := by
    show T.terms ("report_id=" ++ reportId) ++ _ = _
    rw [hterms]
    rfl
  have hfirst := T.keyword_first (T.first ⟨query.page, query.perPage⟩)
  have hrows := T.keyword_rows query.perPage
  unfold RequestedTerms FilterTerms.OnlyOwn gatewayKeywords
  -- the three keywords differ, so each picks one of the own terms
  rw [hown]
  simp only [List.forall_mem_cons, List.filter_cons, List.filter_nil, hkeyword, hfirst, hrows]
  simp
  tauto

/-- Which reserved terms a filter of the adapter contains. Those of the gateway alone, if and
only if the saved filter that the caller names has none of them; so also in the filter that
`get_report_results` sends. With an inline filter that has one nothing is sent. -/
theorem reserved_terms_not_overridden (T : FilterTerms adapter.filters)
    (hclause : adapter.ReportClause T) :
    (∀ scope filterString page perPage sent,
      paginatedFilter adapter.filters scope filterString page perPage = .ok sent →
      T.OnlyOwn scope sent (some ⟨page, perPage⟩) []) ∧
    (∀ scope filterString page perPage reservedTerms sent,
      paginatedFilterWithReservedTerms adapter.filters scope filterString page perPage
        reservedTerms = .ok sent →
      T.OnlyOwn scope sent (some ⟨page, perPage⟩) reservedTerms) ∧
    (∀ scope filterString filterId page perPage reservedTerms,
      ¬ T.Unreserved filterString reservedTerms →
      ∃ err, adapter.paginatedFilterResolvingFilterId scope filterString filterId page perPage
        reservedTerms = .error err) ∧
    (∀ scope filterString filterId page perPage reservedTerms sent,
      adapter.paginatedFilterResolvingFilterId scope filterString filterId page perPage
        reservedTerms = .ok sent →
      (T.OnlyOwn scope sent (some ⟨page, perPage⟩) reservedTerms ↔
        adapter.SavedUnreserved T filterId reservedTerms)) ∧
    (∀ scope filterString filterId reservedTerms sent,
      adapter.filterResolvingFilterId scope filterString filterId reservedTerms = .ok sent →
      (T.OnlyOwn scope sent none reservedTerms ↔
        adapter.SavedUnreserved T filterId reservedTerms)) ∧
    (∀ query sent, adapter.reportDetailFilter query = .ok sent →
      (T.OnlyOwn none sent (some ⟨query.page, query.perPage⟩) ["report_id"] ↔
        ∀ filterId, adapter.parseFilterId query.filterId = .ok filterId →
          adapter.SavedUnreserved T filterId ["report_id"])) ∧
    (∀ reportId query sent, adapter.reportResultsFilter reportId query = .ok sent →
      (adapter.RequestedTerms T reportId query sent ↔
        ∀ filterId, adapter.parseFilterId query.filterId = .ok filterId →
          adapter.SavedUnreserved T filterId ["report_id"])) ∧
    (∀ reportId query sent, adapter.SendsFilter reportId query sent →
      (adapter.RequestedTerms T reportId query sent ↔
        ∀ filterId, adapter.parseFilterId query.filterId = .ok filterId →
          adapter.SavedUnreserved T filterId ["report_id"])) := by
  have hpage : ∀ scope filterString filterId page perPage reservedTerms sent,
      adapter.paginatedFilterResolvingFilterId scope filterString filterId page perPage
        reservedTerms = .ok sent →
      (T.OnlyOwn scope sent (some ⟨page, perPage⟩) reservedTerms ↔
        adapter.SavedUnreserved T filterId reservedTerms) := by
    intro scope filterString filterId page perPage reservedTerms sent h
    obtain ⟨saved, hsaved, hsent⟩ := adapter.paginatedFilterResolvingFilterId_ok h
    rw [adapter.savedUnreserved_iff T hsaved]
    exact T.onlyOwn_iff hsent
  -- a query names one saved filter at most
  have hquery : ∀ {query : ResultQuery} {filterId}, adapter.parseFilterId query.filterId =
      .ok filterId → (adapter.SavedUnreserved T filterId ["report_id"] ↔
        ∀ filterId, adapter.parseFilterId query.filterId = .ok filterId →
          adapter.SavedUnreserved T filterId ["report_id"]) := by
    intro query filterId hfilterId
    constructor
    · intro hclean filterId' h'
      rw [hfilterId] at h'
      rw [← Except.ok.inj h']
      exact hclean
    · intro hall
      exact hall filterId hfilterId
  have hreport : ∀ reportId query sent, adapter.reportResultsFilter reportId query = .ok sent →
      (adapter.RequestedTerms T reportId query sent ↔
        ∀ filterId, adapter.parseFilterId query.filterId = .ok filterId →
          adapter.SavedUnreserved T filterId ["report_id"]) := by
    intro reportId query sent h
    obtain ⟨hid, filterId, hfilterId, hsent⟩ := adapter.reportResultsFilter_ok h
    rw [adapter.requestedTerms_iff T hclause hid, hpage _ _ _ _ _ _ _ hsent]
    exact hquery hfilterId
  refine ⟨?_, ?_, ?_, hpage, ?_, ?_, hreport, ?_⟩
  · intro scope filterString page perPage sent h
    exact T.onlyOwn_of_paginated h
  · intro scope filterString page perPage reservedTerms sent h
    exact T.onlyOwn_of_paginated h
  · intro scope filterString filterId page perPage reservedTerms h
    exact adapter.paginatedFilterResolvingFilterId_reserved T h scope filterId page perPage
  · intro scope filterString filterId reservedTerms sent h
    obtain ⟨saved, hsaved, hsent⟩ := adapter.filterResolvingFilterId_ok h
    rw [adapter.savedUnreserved_iff T hsaved]
    exact T.onlyOwn_iff hsent
  · intro query sent h
    obtain ⟨filterId, hfilterId, hsent⟩ := adapter.reportDetailFilter_ok h
    rw [hpage _ _ _ _ _ _ _ hsent]
    exact hquery hfilterId
  · intro reportId query sent h
    exact hreport reportId query sent (adapter.reportResultsFilter_of_sends h)

/-! ## Two saved filters -/

/-- The characters of an identifier. -/
def isIdChar (c : Char) : Bool :=
  c.isDigit || ('a' ≤ c && c ≤ 'f') || c == '-'

/-- gvmd with two saved filters: `c1` is harmless, every other one names a page and a report. -/
def twoFilters : GvmdAdapter String where
  filters := Spaced.filters
  entityId value := if value.toList.all isIdChar then some ⟨value⟩ else none
  sessionClient := .ok ()
  getFilter id := .ok [some (if id.value = "c1" then "levels=hm" else "rows=1000 report_id=def")]
  getResults _ := .ok ⟨[], ⟨none, none⟩⟩

/-- None of them is white space. -/
theorem isWhitespace_of_isIdChar {c : Char} (h : isIdChar c) : c.isWhitespace = false := by
  by_contra hblank
  simp only [Char.isWhitespace, Bool.or_eq_true, decide_eq_true_eq, Bool.not_eq_false] at hblank
  rcases hblank with ((rfl | rfl) | rfl) | rfl <;> exact absurd h (by decide)

/-- The scope to a report is one term. -/
theorem twoFilters_reportClause : twoFilters.ReportClause Spaced.filterTerms := by
  intro reportId hid
  have hchars : reportId.toList.all isIdChar := by simpa [twoFilters] using hid
  constructor
  · have hkey : "report_id=".toList.all (! Char.isWhitespace ·) := by decide
    apply Spaced.terms_clause (by decide) hkey
    intro c hc
    exact isWhitespace_of_isIdChar (List.all_eq_true.mp hchars c hc)
  · have h := Spaced.keyword_clause "report_id" reportId (by decide)
    rwa [← String.append_assoc] at h

/-- A saved filter on severity levels leaves the page and the report alone. -/
theorem reserved_terms_not_overridden_saved :
    ∃ sent, twoFilters.SendsFilter "ab" ⟨some "severity>5", some "c1", 3, 25⟩ sent ∧
      twoFilters.RequestedTerms Spaced.filterTerms "ab" ⟨some "severity>5", some "c1", 3, 25⟩
        sent := by
  have hsent : twoFilters.SendsFilter "ab" ⟨some "severity>5", some "c1", 3, 25⟩
      (some "levels=hm report_id=ab severity>5 first=51 rows=25") := ⟨_, rfl, rfl⟩
  refine ⟨_, hsent, ?_⟩
  have hlaw := (twoFilters.reserved_terms_not_overridden Spaced.filterTerms
    twoFilters_reportClause).2.2.2.2.2.2.2 _ _ _ hsent
  apply hlaw.mpr
  -- the saved filter `c1` has a single term, under a keyword of its own
  intro filterId hfilterId saved hsaved
  obtain rfl := Except.ok.inj hfilterId
  obtain rfl := Except.ok.inj hsaved
  intro term hterm
  have hterms : Spaced.filterTerms.termsOf (some "levels=hm") = ["levels=hm"] := by decide
  obtain rfl := List.mem_singleton.mp (hterms ▸ hterm)
  decide

/-- Another user's saved filter adds a second report and a second page size. -/
theorem saved_filter_overrides_report :
    ∃ sent, twoFilters.SendsFilter "ab" ⟨none, some "c2", 1, 25⟩ sent ∧
      ¬ twoFilters.RequestedTerms Spaced.filterTerms "ab" ⟨none, some "c2", 1, 25⟩ sent ∧
      Spaced.filterTerms.termsWith sent "report_id" = ["report_id=def", "report_id=ab"] ∧
      Spaced.filterTerms.termsWith sent "rows" = ["rows=1000", "rows=25"] := by
  have hsent : twoFilters.SendsFilter "ab" ⟨none, some "c2", 1, 25⟩
      (some "rows=1000 report_id=def report_id=ab first=1 rows=25") := ⟨_, rfl, rfl⟩
  have hreport : Spaced.filterTerms.termsWith
      (some "rows=1000 report_id=def report_id=ab first=1 rows=25") "report_id"
      = ["report_id=def", "report_id=ab"] := by decide
  refine ⟨_, hsent, ?_, hreport, by decide⟩
  intro hrequested
  exact absurd (hreport.symm.trans hrequested.1) (by decide)

end GvmdAdapter

end GvmGateway.Gvmd
