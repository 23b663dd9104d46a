import GvmGateway.Domain.Jobs
import GvmGateway.Gvmd.Filters
import GvmGateway.Library.InputLoop

/-!
# JSON report exports

`export_report_json` of `jobs.rs`: it reads all results of a report page by page and writes
them into one artifact.
-/

namespace GvmGateway

open Gvmd

variable {Detail Result : Type}

/-- `JSON_EXPORT_PAGE_SIZE`. -/
def jsonExportPageSize : ℕ := 1000

/-- The page of results that comes with a report. -/
structure GetReportOpts where
  page : ℕ
  perPage : ℕ
deriving DecidableEq, Repr

/-- `detail` is what a report holds beside its results. -/
structure Report (Detail Result : Type) where
  detail : Detail
  results : List Result

/-- What an export writes. -/
structure ReportJsonExport (Detail Result : Type) where
  report : Report Detail Result
  results : List Result
  generatedAt : Option String

/-- The calls of the reports port that a JSON export makes. -/
structure ReportsPort (Detail Result : Type) where
  getReport : String → GetReportOpts → Except GatewayError (Report Detail Result)
  getReportResults : String → ResultQuery → Except GatewayError (ResultPage Result)

/-- `overflow`: the page counter, a `u32`, was incremented beyond its range. -/
inductive Outcome (α : Type) where
  | done (value : α)
  | failed (err : GatewayError)
  | overflow

/-- The page loop, with the pages that it requests. The counter can still be incremented `left`
times. -/
def readPages (fetch : ℕ → Except GatewayError (ResultPage Result)) (left page : ℕ)
    (results : List Result) : List ℕ × Outcome (List Result) :=
  match fetch page with
  | .error err => ([page], .failed err)
  | .ok resultPage =>
    let totalPages := resultPage.pagination.totalPages
    let itemCount := resultPage.data.length
    let results := results ++ resultPage.data
    -- an empty page ends the loop too, whatever the total says
    if itemCount = 0 ∨ totalPages ≤ page then ([page], .done results)
    else
      match left with
      -- `page += 1` beyond `u32::MAX`
      | 0 => ([page], .overflow)
      | left + 1 =>
        let rest := readPages fetch left (page + 1) results
        (page :: rest.1, rest.2)

/-! ## One turn of the page loop -/

/-- The loop before a request. -/
structure PageLoop (Result : Type) where
  page : ℕ
  results : List Result

/-- The turn in which `page` is requested and answered. It ends the loop or goes on to the next
page. -/
def PageLoop.turn (loop : PageLoop Result) (answer : Except GatewayError (ResultPage Result)) :
    Outcome (List Result) ⊕ PageLoop Result :=
  match answer with
  | .error err => .inl (.failed err)
  | .ok resultPage =>
    let totalPages := resultPage.pagination.totalPages
    let itemCount := resultPage.data.length
    let results := loop.results ++ resultPage.data
    if itemCount = 0 ∨ totalPages ≤ loop.page then .inl (.done results)
    else if loop.page + 1 < 2 ^ 32 then .inr ⟨loop.page + 1, results⟩
    else .inl .overflow

/-- The pages that the loop requests in at most `n` turns, from page 1, and where it is then.
The requests are answered with `answers`, one after the other. -/
def readAnswers (n : ℕ) (answers : ℕ → Except GatewayError (ResultPage Result)) :
    List ℕ × (Outcome (List Result) ⊕ PageLoop Result) :=
  let run := InputLoop.run PageLoop.turn n answers ⟨1, []⟩
  (run.1.map PageLoop.page, run.2)

/-! ## The export -/

namespace ReportsPort

variable (reports : ReportsPort Detail Result)

/-- The loop over the pages of one report, from page 1. -/
def readResults (reportId : String) (filterString filterId : Option String) :
    List ℕ × Outcome (List Result) :=
  readPages
    (fun page => reports.getReportResults reportId
      ⟨filterString, filterId, page, jsonExportPageSize⟩)
    (2 ^ 32 - 1 - 1) 1 []

/-- The value that the export serialises. -/
def reportJsonExport (now reportId : String) (filterString filterId : Option String) :
    Outcome (ReportJsonExport Detail Result) :=
  -- the head of the report; its results are read page by page
  match reports.getReport reportId ⟨1, 1⟩ with
  | .error err => .failed err
  | .ok report =>
    match (reports.readResults reportId filterString filterId).2 with
    | .failed err => .failed err
    | .overflow => .overflow
    | .done results => .done ⟨{ report with results := [] }, results, some now⟩

/-- The pages that the export requests, in order. -/
def pageRequests (reportId : String) (filterString filterId : Option String) : List ℕ :=
  match reports.getReport reportId ⟨1, 1⟩ with
  | .error _ => []
  | .ok _ => (reports.readResults reportId filterString filterId).1

/-- `toVec` is `serde_json::to_vec`, and `now` the time of the export. -/
def exportReportJson (toVec : ReportJsonExport Detail Result → Except String (List UInt8))
    (now reportId : String) (filterString filterId : Option String) : Outcome JobArtifact :=
  match reports.reportJsonExport now reportId filterString filterId with
  | .failed err => .failed err
  | .overflow => .overflow
  | .done reportExport =>
    match toVec reportExport with
    | .error err => .failed (.internal ("failed to serialize JSON report export: " ++ err))
    | .ok bytes => .done ⟨bytes, "application/json", "report-" ++ reportId ++ ".json"⟩

end ReportsPort

end GvmGateway
