import GvmGateway.App.ReportExport
import GvmGateway.Gvmd.FilterTheorems
import GvmGateway.Library.Pages

/-!
# Completeness of JSON report exports

The loop requests the pages 1, 2, 3, … once each and never runs out of page numbers. It reads
the whole list exactly when gvmd counts the results on every full page before the last.
-/

namespace GvmGateway

open Gvmd

variable {Item Detail Result : Type}

/-- The pages of an export are not empty. -/
theorem jsonExportPageSize_pos : 0 < jsonExportPageSize := by decide

/-! ## The page loop -/

section Loop

variable {fetch : ℕ → Except GatewayError (ResultPage Result)}

/-- What one turn of the loop does. -/
inductive PageRead (fetch : ℕ → Except GatewayError (ResultPage Result)) (left page : ℕ)
    (results : List Result) : List ℕ × Outcome (List Result) → Prop where
  | failed (err : GatewayError) (h : fetch page = .error err) :
    PageRead fetch left page results ([page], .failed err)
  | last (r : ResultPage Result) (h : fetch page = .ok r)
      (hstop : r.data = [] ∨ r.pagination.totalPages ≤ page) :
    PageRead fetch left page results ([page], .done (results ++ r.data))
  | overflow (r : ResultPage Result) (h : fetch page = .ok r)
      (hmore : page < r.pagination.totalPages) (hleft : left = 0) :
    PageRead fetch left page results ([page], .overflow)
  | next (r : ResultPage Result) (left' : ℕ) (h : fetch page = .ok r) (hdata : r.data ≠ [])
      (hmore : page < r.pagination.totalPages) (hleft : left = left' + 1) :
    PageRead fetch left page results
      (page :: (readPages fetch left' (page + 1) (results ++ r.data)).1,
        (readPages fetch left' (page + 1) (results ++ r.data)).2)

variable (fetch) in
/-- The loop reads its pages as it should from any page on. -/
theorem pageRead_readPages (left page : ℕ) (results : List Result) :
    PageRead fetch left page results (readPages fetch left page results) := by
  unfold readPages
  cases h : fetch page with
  | error err => exact .failed err h
  | ok r =>
    dsimp only
    split
    · rename_i hstop
      exact .last r h (hstop.imp_left List.length_eq_zero_iff.mp)
    · rename_i hmore
      have hdata : r.data ≠ [] := fun hnil => hmore (.inl (congrArg List.length hnil))
      have hmore : page < r.pagination.totalPages := by omega
      cases left with
      | zero => exact .overflow r h hmore rfl
      | succ left' => exact .next r left' h hdata hmore rfl

/-- The loop requests consecutive pages. -/
theorem readPages_requests (left page : ℕ) (results : List Result) :
    (readPages fetch left page results).1
      = List.range' page (readPages fetch left page results).1.length := by
  induction left using Nat.strong_induction_on generalizing page results with
  | _ left ih =>
    have hread := pageRead_readPages fetch left page results
    generalize readPages fetch left page results = out at hread ⊢
    cases hread with
    | failed err h => rfl
    | last r h hstop => rfl
    | overflow r h hmore hleft => rfl
    | next r left' h hdata hmore hleft =>
      rw [List.length_cons, List.range'_succ, ← ih left' (by omega)]

/-- The page number stays below the number of pages, itself a `u32`. -/
theorem readPages_ne_overflow {left page : ℕ} {results : List Result}
    (hfew : ∀ page r, 1 ≤ page → fetch page = .ok r → r.pagination.totalPages ≤ 2 ^ 32 - 1)
    (hpage : 1 ≤ page) (hleft : page + left = 2 ^ 32 - 1) :
    (readPages fetch left page results).2 ≠ .overflow := by
  induction left using Nat.strong_induction_on generalizing page results with
  | _ left ih =>
    have hread := pageRead_readPages fetch left page results
    generalize readPages fetch left page results = out at hread ⊢
    cases hread with
    | failed err h => exact fun heq => nomatch heq
    | last r h hstop => exact fun heq => nomatch heq
    | overflow r h hmore hzero =>
      -- the last number that a page can have is also the largest number of pages
      have hpages := hfew page r hpage h
      omega
    | next r left' h hdata hmore hsucc => exact ih left' (by omega) (by omega) (by omega)

/-- What the loop relies on: page `p` is page `p` of `M`, the number of pages counts `M` when the
answer is `counted`, and says that nothing follows otherwise. -/
structure ReadsFrom (fetch : ℕ → Except GatewayError (ResultPage Result)) (M : List Result)
    (counted : ℕ → Prop) : Prop where
  data : ∀ page r, 1 ≤ page → fetch page = .ok r → r.data = Pages.page M jsonExportPageSize page
  counts : ∀ page r, 1 ≤ page → fetch page = .ok r → counted page →
    r.pagination.totalPages ≤ page → M.length ≤ page * jsonExportPageSize
  stops : ∀ page r, 1 ≤ page → fetch page = .ok r → ¬ counted page →
    r.pagination.totalPages ≤ page

variable {M : List Result} {counted : ℕ → Prop}

/-- A loop that ends well has read `M` up to its last page, and only the last page can be one
that gvmd did not count. -/
theorem ReadsFrom.readPages_done (hfetch : ReadsFrom fetch M counted) {left page : ℕ}
    {results out : List Result} (hpage : 1 ≤ page)
    (hresults : results = M.take ((page - 1) * jsonExportPageSize))
    (hout : (readPages fetch left page results).2 = .done out) :
    ∃ last, page ≤ last ∧ out = M.take (last * jsonExportPageSize) ∧
      (∃ r, fetch last = .ok r) ∧
      (∀ p, page ≤ p → p < last → counted p) ∧
      (counted last → M.length ≤ last * jsonExportPageSize) := by
  -- on the page numbers that are left, with the results read so far as the invariant
  induction left using Nat.strong_induction_on generalizing page results with
  | _ left ih =>
    have hread := pageRead_readPages fetch left page results
    generalize readPages fetch left page results = reads at hread hout
    cases hread with
    | failed err h => exact nomatch hout
    | overflow r h hmore hleft => exact nomatch hout
    | last r h hstop =>
      have hdata := hfetch.data page r hpage h
      have heq : results ++ r.data = M.take (page * jsonExportPageSize) := by
        rw [hresults, hdata, Pages.take_append_page M jsonExportPageSize hpage]
      refine ⟨page, le_refl page, ?_, ⟨r, h⟩, fun p hle hlt => absurd hlt (by omega), ?_⟩
      · rw [← heq]
        exact (Outcome.done.inj hout).symm
      · intro hcounted
        rcases hstop with hnil | hle
        · -- an empty page lies behind the end of the list
          rw [hdata, Pages.page_eq_nil_iff jsonExportPageSize_pos] at hnil
          have hmono : (page - 1) * jsonExportPageSize ≤ page * jsonExportPageSize :=
            Nat.mul_le_mul_right _ (by omega)
          omega
        · exact hfetch.counts page r hpage h hcounted hle
    | next r left' h hdata hmore hleft =>
      have hpageData := hfetch.data page r hpage h
      have heq : results ++ r.data = M.take ((page + 1 - 1) * jsonExportPageSize) := by
        rw [hresults, hpageData, Pages.take_append_page M jsonExportPageSize hpage,
          Nat.add_sub_cancel]
      obtain ⟨last, hle, hlast⟩ := ih left' (by omega) (by omega) heq hout
      obtain ⟨hall, hok, hcounted, hend⟩ := hlast
      refine ⟨last, by omega, hall, hok, ?_, hend⟩
      intro p hle' hlt
      -- had this page gone uncounted, the loop would have stopped here
      by_cases hsame : p = page
      · by_contra hnone
        have hstop := hfetch.stops p r (by omega) (hsame ▸ h) hnone
        omega
      · exact hcounted p (by omega) hlt

/-- The loop reads the whole list exactly when no full page before the last goes uncounted. -/
theorem ReadsFrom.complete_iff (hfetch : ReadsFrom fetch M counted) {left : ℕ}
    {out : List Result} (hout : (readPages fetch left 1 []).2 = .done out) :
    out = M ↔ ∀ p r, 1 ≤ p → p * jsonExportPageSize < M.length → fetch p = .ok r → counted p := by
  obtain ⟨last, hpos, rfl, ⟨r, hok⟩, hcounted, hend⟩ :=
    hfetch.readPages_done (le_refl 1) (by simp) hout
  rw [List.take_eq_self_iff]
  constructor
  · intro hall p r' hp hshort _
    apply hcounted p hp
    by_contra hge
    have hmono : last * jsonExportPageSize ≤ p * jsonExportPageSize :=
      Nat.mul_le_mul_right _ (by omega)
    omega
  · intro hall
    by_contra hshort
    exact hshort (hend (hall last r hpos (by omega) hok))

/-- The loop fails only with the error of a page. -/
theorem readPages_failed {left page : ℕ} {results : List Result} {err : GatewayError}
    (h : (readPages fetch left page results).2 = .failed err) : ∃ p, fetch p = .error err := by
  induction left using Nat.strong_induction_on generalizing page results with
  | _ left ih =>
    have hread := pageRead_readPages fetch left page results
    generalize readPages fetch left page results = out at hread h
    cases hread with
    | failed err' herror => exact ⟨page, herror.trans (congrArg _ (Outcome.failed.inj h))⟩
    | last r hok hstop => exact nomatch h
    | overflow r hok hmore hleft => exact nomatch h
    | next r left' hok hdata hmore hleft => exact ih left' (by omega) h

end Loop

/-! ## The answers of gvmd -/

/-- gvmd answers one page request of `get_report_results`. -/
def Gvmd.GvmdAdapter.Answers (adapter : GvmdAdapter Item) (reportId : String)
    (query : ResultQuery) (response : GetResultsResponse Item) : Prop :=
  adapter.sessionClient = .ok () ∧
  ∃ sent, adapter.reportResultsFilter reportId query = .ok sent ∧
    adapter.getResults sent = .ok response

theorem Gvmd.GvmdAdapter.Answers.unique {adapter : GvmdAdapter Item} {reportId : String}
    {query : ResultQuery} {response response' : GetResultsResponse Item}
    (h : adapter.Answers reportId query response)
    (h' : adapter.Answers reportId query response') : response = response' := by
  obtain ⟨_, sent, hsent, hresponse⟩ := h
  obtain ⟨_, sent', hsent', hresponse'⟩ := h'
  rw [hsent] at hsent'
  rw [← Except.ok.inj hsent', hresponse] at hresponse'
  exact Except.ok.inj hresponse'

/-- A page that is returned is made of gvmd's answer and of its counts. -/
theorem Gvmd.GvmdAdapter.getReportResults_ok {adapter : GvmdAdapter Item}
    {resultFromGmp : Item → Result} {reportId : String} {query : ResultQuery}
    {r : ResultPage Result} (h : adapter.getReportResults resultFromGmp reportId query = .ok r) :
    ∃ response, adapter.Answers reportId query response ∧
      r.data = response.items.map resultFromGmp ∧
      r.pagination.totalPages = Pages.count
        (gvmdTotal response.counts.filtered response.counts.total response.items.length)
        query.perPage := by
  obtain ⟨_, hclient, h⟩ := ok_of_bind h
  obtain ⟨sent, hsent, h⟩ := ok_of_bind h
  obtain ⟨response, hresponse, h⟩ := ok_of_bind h
  obtain rfl := Except.ok.inj h
  refine ⟨response, ⟨hclient, sent, hsent, hresponse⟩, rfl, ?_⟩
  show Pages.count (gvmdTotal _ _ (response.items.map resultFromGmp).length) _ = _
  rw [List.length_map]

/-- An answer of gvmd becomes a page. -/
theorem Gvmd.GvmdAdapter.Answers.getReportResults {adapter : GvmdAdapter Item}
    (resultFromGmp : Item → Result) {reportId : String} {query : ResultQuery}
    {response : GetResultsResponse Item} (h : adapter.Answers reportId query response) :
    ∃ r, adapter.getReportResults resultFromGmp reportId query = .ok r := by
  obtain ⟨hclient, sent, hsent, hresponse⟩ := h
  unfold Gvmd.GvmdAdapter.getReportResults
  rw [hclient, hsent]
  show ∃ r, (adapter.getResults sent >>= _) = .ok r
  rw [hresponse]
  exact ⟨_, rfl⟩

/-- The counts in an answer about `n` results: the filtered count, or only a total that is at
least `n`, or none. Each is a `u32`. -/
inductive CountsOf (n : ℕ) : Counts → Prop where
  | filtered (total : Option ℕ) (hbound : n < 2 ^ 32) : CountsOf n ⟨some n, total⟩
  | total (total : ℕ) (hle : n ≤ total) (hbound : total < 2 ^ 32) : CountsOf n ⟨none, some total⟩
  | absent : CountsOf n ⟨none, none⟩

/-- The total of a page is a `u32`. -/
theorem CountsOf.gvmdTotal_lt {n : ℕ} {counts : Counts} (h : CountsOf n counts)
    (currentLen : ℕ) : gvmdTotal counts.filtered counts.total currentLen < 2 ^ 32 := by
  cases h with
  | filtered total hbound => exact hbound
  | total total hle hbound => exact hbound
  | absent => exact Nat.mod_lt _ (by omega)

theorem CountsOf.le_gvmdTotal {n : ℕ} {counts : Counts} (h : CountsOf n counts)
    (hcounted : (counts.filtered.or counts.total).isSome) (currentLen : ℕ) :
    n ≤ gvmdTotal counts.filtered counts.total currentLen := by
  cases h with
  | filtered total hbound => exact le_refl n
  | total total hle hbound => exact hle
  | absent => exact nomatch hcounted

/-! ## Completeness -/

/-- The query for one page of an export. -/
def exportQuery (filterString filterId : Option String) (page : ℕ) : ResultQuery :=
  ⟨filterString, filterId, page, jsonExportPageSize⟩

/-- gvmd serves one list of results to an export. `gvmd page` is gvmd, with the session of the
export, when that page is requested: any request may fail. -/
structure Serves (gvmd : ℕ → GvmdAdapter Item) (reportId : String)
    (filterString filterId : Option String) (L : List Item) : Prop where
  items : ∀ page response, 1 ≤ page →
    (gvmd page).Answers reportId (exportQuery filterString filterId page) response →
    response.items = Pages.page L jsonExportPageSize page
  counts : ∀ page response, 1 ≤ page →
    (gvmd page).Answers reportId (exportQuery filterString filterId page) response →
    CountsOf L.length response.counts

/-- The answer for one page says how many results there are. -/
def Counted (gvmd : ℕ → GvmdAdapter Item) (reportId : String)
    (filterString filterId : Option String) (page : ℕ) : Prop :=
  ∀ response, (gvmd page).Answers reportId (exportQuery filterString filterId page) response →
    (response.counts.filtered.or response.counts.total).isSome

/-- The reports port over gvmd. -/
def gvmdReports (gvmd : ℕ → GvmdAdapter Item) (resultFromGmp : Item → Result)
    (getReport : String → GetReportOpts → Except GatewayError (Report Detail Result)) :
    ReportsPort Detail Result where
  getReport := getReport
  getReportResults reportId query :=
    (gvmd query.page).getReportResults resultFromGmp reportId query

section Export

variable {gvmd : ℕ → GvmdAdapter Item} {resultFromGmp : Item → Result} {reportId : String}
  {filterString filterId : Option String} {L : List Item}

/-- What a page of an export is made of. -/
theorem export_page_ok {page : ℕ} {r : ResultPage Result}
    (h : (gvmd page).getReportResults resultFromGmp reportId
      (exportQuery filterString filterId page) = .ok r) :
    ∃ response,
      (gvmd page).Answers reportId (exportQuery filterString filterId page) response ∧
      r.data = response.items.map resultFromGmp ∧
      r.pagination.totalPages = Pages.count
        (gvmdTotal response.counts.filtered response.counts.total response.items.length)
        jsonExportPageSize :=
  GvmdAdapter.getReportResults_ok h

variable (resultFromGmp) in
/-- A backend that serves the results sends the loop their pages. -/
theorem Serves.readsFrom (h : Serves gvmd reportId filterString filterId L) :
    ReadsFrom
      (fun page => (gvmd page).getReportResults resultFromGmp reportId
        (exportQuery filterString filterId page))
      (L.map resultFromGmp) (Counted gvmd reportId filterString filterId) where
  data page r hpage hok := by
    obtain ⟨response, hanswer, hdata, _⟩ := export_page_ok hok
    rw [hdata, h.items page response hpage hanswer, Pages.map_page]
  counts page r hpage hok hcounted hle := by
    obtain ⟨response, hanswer, _, htotal⟩ := export_page_ok hok
    rw [htotal, Pages.count_le_iff jsonExportPageSize_pos] at hle
    have hlen := (h.counts page response hpage hanswer).le_gvmdTotal (hcounted response hanswer)
      response.items.length
    rw [List.length_map]
    exact hlen.trans hle
  stops page r hpage hok hnone := by
    obtain ⟨response, hanswer, _, htotal⟩ := export_page_ok hok
    have hlen : response.items.length ≤ jsonExportPageSize := by
      rw [h.items page response hpage hanswer]
      exact Pages.length_page_le L jsonExportPageSize page
    -- without a count the page itself counts as everything there is
    have habsent : response.counts = ⟨none, none⟩ := by
      have hcounts := h.counts page response hpage hanswer
      generalize hc : response.counts = counts at hcounts
      have hsome : (counts.filtered.or counts.total).isSome → Counted gvmd reportId filterString
          filterId page := by
        intro hsome response' hanswer'
        rw [← hanswer.unique hanswer', hc]
        exact hsome
      cases hcounts with
      | filtered total hbound => exact absurd (hsome rfl) hnone
      | total total hle hbound => exact absurd (hsome rfl) hnone
      | absent => rfl
    rw [htotal, habsent, Pages.count_le_iff jsonExportPageSize_pos]
    have hmod := Nat.mod_le response.items.length (2 ^ 32)
    have hone : jsonExportPageSize ≤ page * jsonExportPageSize := Nat.le_mul_of_pos_left _ hpage
    show response.items.length % 2 ^ 32 ≤ page * jsonExportPageSize
    omega

theorem Serves.few_pages (h : Serves gvmd reportId filterString filterId L) (page : ℕ)
    (r : ResultPage Result) (hpage : 1 ≤ page)
    (hok : (gvmd page).getReportResults resultFromGmp reportId
      (exportQuery filterString filterId page) = .ok r) :
    r.pagination.totalPages ≤ 2 ^ 32 - 1 := by
  obtain ⟨response, hanswer, _, htotal⟩ := export_page_ok hok
  have hbound := (h.counts page response hpage hanswer).gvmdTotal_lt response.items.length
  rw [htotal]
  exact Nat.le_sub_one_of_lt (Pages.count_lt jsonExportPageSize_pos hbound)

variable (getReport : String → GetReportOpts → Except GatewayError (Report Detail Result))
  (now : String)

/-- An export ends well only after its page loop. -/
theorem reportJsonExport_done {reports : ReportsPort Detail Result}
    {reportExport : ReportJsonExport Detail Result}
    (h : reports.reportJsonExport now reportId filterString filterId = .done reportExport) :
    (reports.readResults reportId filterString filterId).2 = .done reportExport.results := by
  unfold ReportsPort.reportJsonExport at h
  split at h
  · exact nomatch h
  · split at h
    · exact nomatch h
    · exact nomatch h
    · rename_i results hresults
      rw [hresults, ← Outcome.done.inj h]

/-- The export holds the report without its results, and the results that were read. -/
theorem reportJsonExport_of_results {reports : ReportsPort Detail Result}
    {report : Report Detail Result} {results : List Result}
    (hreport : reports.getReport reportId ⟨1, 1⟩ = .ok report)
    (hresults : (reports.readResults reportId filterString filterId).2 = .done results) :
    reports.reportJsonExport now reportId filterString filterId
      = .done ⟨{ report with results := [] }, results, some now⟩ := by
  unfold ReportsPort.reportJsonExport
  rw [hreport]
  dsimp only
  rw [hresults]

/-- The export overflows only where the loop does. -/
theorem reportJsonExport_ne_overflow {reports : ReportsPort Detail Result}
    (h : (reports.readResults reportId filterString filterId).2 ≠ .overflow) :
    reports.reportJsonExport now reportId filterString filterId ≠ .overflow := by
  unfold ReportsPort.reportJsonExport
  split
  · exact fun heq => nomatch heq
  · split
    · exact fun heq => nomatch heq
    · rename_i hoverflow
      exact absurd hoverflow h
    · exact fun heq => nomatch heq

/-- An artifact is the encoded export. -/
theorem exportReportJson_done {reports : ReportsPort Detail Result}
    {toVec : ReportJsonExport Detail Result → Except String (List UInt8)} {artifact : JobArtifact}
    (h : reports.exportReportJson toVec now reportId filterString filterId = .done artifact) :
    ∃ reportExport,
      reports.reportJsonExport now reportId filterString filterId = .done reportExport ∧
      toVec reportExport = .ok artifact.bytes := by
  unfold ReportsPort.exportReportJson at h
  split at h
  · exact nomatch h
  · exact nomatch h
  · rename_i reportExport hexport
    split at h
    · exact nomatch h
    · rename_i bytes hbytes
      refine ⟨reportExport, hexport, ?_⟩
      rw [← Outcome.done.inj h, hbytes]

/-- Encoding adds no overflow. -/
theorem exportReportJson_ne_overflow {reports : ReportsPort Detail Result}
    (toVec : ReportJsonExport Detail Result → Except String (List UInt8))
    (h : reports.reportJsonExport now reportId filterString filterId ≠ .overflow) :
    reports.exportReportJson toVec now reportId filterString filterId ≠ .overflow := by
  unfold ReportsPort.exportReportJson
  split
  · exact fun heq => nomatch heq
  · rename_i hoverflow
    exact absurd hoverflow h
  · split <;> exact fun heq => nomatch heq

/-- The pages requested are those from 1 on. -/
theorem pageRequests_eq (reports : ReportsPort Detail Result) :
    ∃ n, reports.pageRequests reportId filterString filterId = List.range' 1 n := by
  unfold ReportsPort.pageRequests
  split
  · exact ⟨0, rfl⟩
  · exact ⟨_, readPages_requests _ _ _⟩

/-- The results are all there exactly when every answer with later results is counted. -/
theorem Serves.results_eq_iff (h : Serves gvmd reportId filterString filterId L)
    {reportExport : ReportJsonExport Detail Result}
    (hdone : (gvmdReports gvmd resultFromGmp getReport).reportJsonExport now reportId
      filterString filterId = .done reportExport) :
    reportExport.results = L.map resultFromGmp ↔
      ∀ page response, 1 ≤ page → page * jsonExportPageSize < L.length →
        (gvmd page).Answers reportId (exportQuery filterString filterId page) response →
        (response.counts.filtered.or response.counts.total).isSome := by
  have hreads := reportJsonExport_done now hdone
  have hcomplete := (h.readsFrom resultFromGmp).complete_iff hreads
  rw [hcomplete, List.length_map]
  constructor
  · intro hall page response hpage hshort hanswer
    obtain ⟨r, hok⟩ := GvmdAdapter.Answers.getReportResults resultFromGmp hanswer
    exact hall page r hpage hshort hok response hanswer
  · intro hall page r hpage hshort _ response hanswer
    exact hall page response hpage hshort hanswer

/-- The page requests of an export, and which exports hold all results: those of a gvmd that
counts the results in every answer for a page with results after it. -/
theorem json_export_complete
    (toVec : ReportJsonExport Detail Result → Except String (List UInt8))
    (h : Serves gvmd reportId filterString filterId L) :
    (∃ n, (gvmdReports gvmd resultFromGmp getReport).pageRequests reportId filterString filterId
      = List.range' 1 n) ∧
    (gvmdReports gvmd resultFromGmp getReport).exportReportJson toVec now reportId filterString
      filterId ≠ .overflow ∧
    ∀ artifact, (gvmdReports gvmd resultFromGmp getReport).exportReportJson toVec now reportId
        filterString filterId = .done artifact →
      ∃ reportExport,
        (gvmdReports gvmd resultFromGmp getReport).reportJsonExport now reportId filterString
          filterId = .done reportExport ∧
        toVec reportExport = .ok artifact.bytes ∧
        (reportExport.results = L.map resultFromGmp ↔
          ∀ page response, 1 ≤ page → page * jsonExportPageSize < L.length →
            (gvmd page).Answers reportId (exportQuery filterString filterId page) response →
            (response.counts.filtered.or response.counts.total).isSome) := by
  refine ⟨pageRequests_eq _, ?_, ?_⟩
  · apply exportReportJson_ne_overflow
    apply reportJsonExport_ne_overflow
    exact readPages_ne_overflow h.few_pages (le_refl 1) rfl
  · intro artifact hartifact
    obtain ⟨reportExport, hdone, hbytes⟩ := exportReportJson_done now hartifact
    exact ⟨reportExport, hdone, hbytes, h.results_eq_iff getReport now hdone⟩

end Export

/-! ## A report with 1001 results -/

/-- gvmd with one list of results, the same counts in every answer. -/
def servedBy (L : List ℕ) (counts : Counts) (page : ℕ) : GvmdAdapter ℕ where
  filters := Spaced.filters
  entityId value := some ⟨value⟩
  sessionClient := .ok ()
  getFilter id := .error (.notFound ("filter " ++ id.value ++ " not found"))
  getResults _ := .ok ⟨Pages.page L jsonExportPageSize page, counts⟩

/-- A report with these results, and these counts in every answer. -/
def servedReports (L : List ℕ) (counts : Counts) : ReportsPort Unit ℕ :=
  gvmdReports (servedBy L counts) id fun _ _ => .ok ⟨(), []⟩

/-- The backend serves these results. -/
theorem serves_servedBy {L : List ℕ} {counts : Counts} (h : CountsOf L.length counts) :
    Serves (servedBy L counts) "ab" none none L where
  items page response _ hanswer := by
    obtain ⟨_, sent, _, hresponse⟩ := hanswer
    obtain rfl := Except.ok.inj hresponse
    rfl
  counts page response _ hanswer := by
    obtain ⟨_, sent, _, hresponse⟩ := hanswer
    obtain rfl := Except.ok.inj hresponse
    exact h

theorem servedReports_done {L : List ℕ} {counts : Counts} (h : CountsOf L.length counts) :
    ∃ reportExport,
      (servedReports L counts).reportJsonExport "now" "ab" none none = .done reportExport ∧
      (servedReports L counts).exportReportJson (fun _ => .ok []) "now" "ab" none none
        = .done ⟨[], "application/json", "report-ab.json"⟩ := by
  have hresults : ∃ results, ((servedReports L counts).readResults "ab" none none).2
      = .done results := by
    cases hout : ((servedReports L counts).readResults "ab" none none).2 with
    | done results => exact ⟨results, rfl⟩
    | failed err =>
      obtain ⟨page, herror⟩ := readPages_failed hout
      exact nomatch herror
    | overflow =>
      exact absurd hout
        (readPages_ne_overflow (serves_servedBy h).few_pages (le_refl 1) rfl)
  obtain ⟨results, hresults⟩ := hresults
  have hreport : (servedReports L counts).getReport "ab" ⟨1, 1⟩ = .ok ⟨(), []⟩ := rfl
  have hdone := reportJsonExport_of_results "now" hreport hresults
  refine ⟨_, hdone, ?_⟩
  unfold ReportsPort.exportReportJson
  rw [hdone]
  rfl

/-- All of 1001 results arrive when gvmd counts them. -/
theorem json_export_complete_counted : ∃ reportExport,
    (servedReports (List.range 1001) ⟨some 1001, none⟩).reportJsonExport "now" "ab" none none
      = .done reportExport ∧
    reportExport.results = List.range 1001 := by
  have hcounts : CountsOf (List.range 1001).length ⟨some 1001, none⟩ := by
    rw [List.length_range]
    exact .filtered none (by omega)
  obtain ⟨_, _, hartifact⟩ := servedReports_done hcounts
  obtain ⟨reportExport, hdone, _, hcomplete⟩ :=
    (json_export_complete _ "now" _ (serves_servedBy hcounts)).2.2 _ hartifact
  refine ⟨reportExport, hdone, ?_⟩
  rw [hcomplete.mpr, List.map_id]
  intro page response _ _ hanswer
  obtain ⟨_, sent, _, hresponse⟩ := hanswer
  obtain rfl := Except.ok.inj hresponse
  rfl

/-- Without counts the same report is exported with success and without its last result. -/
theorem json_export_truncated :
    Serves (servedBy (List.range 1001) ⟨none, none⟩) "ab" none none (List.range 1001) ∧
    ∃ reportExport,
      (servedReports (List.range 1001) ⟨none, none⟩).reportJsonExport "now" "ab" none none
        = .done reportExport ∧
      (servedReports (List.range 1001) ⟨none, none⟩).exportReportJson (fun _ => .ok []) "now" "ab"
        none none = .done ⟨[], "application/json", "report-ab.json"⟩ ∧
      reportExport.results ≠ List.range 1001 := by
  have hserves := serves_servedBy (L := List.range 1001) .absent
  obtain ⟨reportExport, hdone, hartifact⟩ := servedReports_done (L := List.range 1001) .absent
  refine ⟨hserves, reportExport, hdone, hartifact, ?_⟩
  intro hall
  rw [← List.map_id (List.range 1001)] at hall
  have hcounted := (hserves.results_eq_iff _ "now" hdone).mp hall 1
    ⟨Pages.page (List.range 1001) jsonExportPageSize 1, ⟨none, none⟩⟩ (le_refl 1)
    (by rw [List.length_range]; decide) ⟨rfl, _, rfl, rfl⟩
  exact nomatch hcounted

end GvmGateway
