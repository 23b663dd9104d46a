import GvmGateway.App.ReportExportTheorems
import GvmGateway.Library.InputLoop

/-!
# The page loop ends on every backend

The answers to the requests of an export are any sequence of pages. Each may name a larger
number of pages than the one before, but none more than a `u32` holds, which is where the page
counter stops the loop.
-/

namespace GvmGateway

open Gvmd

variable {Item Detail Result : Type}

namespace PageLoop

variable {loop next : PageLoop Result} {answer : Except GatewayError (ResultPage Result)}

/-! ## One turn -/

theorem turn_next (h : loop.turn answer = .inr next) :
    ∃ resultPage, answer = .ok resultPage ∧ loop.page + 1 < 2 ^ 32 ∧
      next = ⟨loop.page + 1, loop.results ++ resultPage.data⟩ := by
  unfold turn at h
  split at h
  · exact nomatch h
  · rename_i resultPage
    dsimp only at h
    split at h
    · exact nomatch h
    · split at h
      · rename_i hfits
        exact ⟨resultPage, rfl, hfits, (Sum.inr.inj h).symm⟩
      · exact nomatch h

/-- The last page number is at least every number of pages, so no turn needs the next one. -/
theorem turn_ended {resultPage : ResultPage Result} {outcome : Outcome (List Result)}
    (htotal : resultPage.pagination.totalPages < 2 ^ 32)
    (h : loop.turn (.ok resultPage) = .inl outcome) :
    outcome = .done (loop.results ++ resultPage.data) := by
  unfold turn at h
  dsimp only at h
  split at h
  · exact (Sum.inl.inj h).symm
  · split at h
    · exact nomatch h
    · omega

theorem turn_page (h : loop.turn answer = .inr next) : next.page = loop.page + 1 := by
  obtain ⟨resultPage, -, -, rfl⟩ := turn_next h
  rfl

/-- Every turn uses up one of the page numbers that are left. -/
theorem turn_rank (h : loop.turn answer = .inr next) :
    2 ^ 32 - 1 - next.page < 2 ^ 32 - 1 - loop.page := by
  obtain ⟨resultPage, -, hfits, rfl⟩ := turn_next h
  dsimp only
  omega

/-- Whatever the answers are, the loop ends within the page numbers. -/
theorem run_ended (answers : ℕ → Except GatewayError (ResultPage Result)) {n : ℕ}
    (hn : 2 ^ 32 - 1 - loop.page < n) :
    ∃ outcome, (InputLoop.run turn n answers loop).2 = .inl outcome := by
  apply InputLoop.exists_result (fun loop => 2 ^ 32 - 1 - loop.page) _ answers hn
  intro loop answer next h
  exact turn_rank h

end PageLoop

/-! ## The loop -/

/-- The data of the first `n` pages that a backend sends. -/
def received (responses : ℕ → ResultPage Result) (n : ℕ) : List Result :=
  (List.range n).flatMap fun i => (responses i).data

theorem received_succ (responses : ℕ → ResultPage Result) (n : ℕ) :
    received responses (n + 1) = received responses n ++ (responses n).data := by
  rw [received, List.range_succ, List.flatMap_append, List.flatMap_singleton, received]

section Responses

variable {responses : ℕ → ResultPage Result}
  (htotal : ∀ i, (responses i).pagination.totalPages < 2 ^ 32)

include htotal

theorem run_done {n : ℕ} {outcome : Outcome (List Result)}
    (h : (InputLoop.run PageLoop.turn n (fun i => .ok (responses i)) ⟨1, []⟩).2
      = .inl outcome) :
    outcome = .done (received responses
      (InputLoop.run PageLoop.turn n (fun i => .ok (responses i)) ⟨1, []⟩).1.length) := by
  apply InputLoop.result_rule (P := fun k loop => loop = ⟨k + 1, received responses k⟩)
    (Q := fun k outcome => outcome = .done (received responses k)) h rfl
  · rintro k loop next rfl hturn
    obtain ⟨resultPage, hok, -, rfl⟩ := PageLoop.turn_next hturn
    rw [received_succ, Except.ok.inj hok]
  · rintro k loop outcome rfl hturn
    rw [received_succ]
    exact PageLoop.turn_ended (htotal k) hturn

theorem readAnswers_done : ∃ n, 1 ≤ n ∧ n ≤ 2 ^ 32 - 1 ∧ ∀ m, n ≤ m →
    readAnswers m (fun i => .ok (responses i))
      = (List.range' 1 n, .inl (.done (received responses n))) := by
  -- the number of turns is a variable, so that nothing evaluates the run
  obtain ⟨turns, hturns⟩ : ∃ turns, turns = 2 ^ 32 - 1 := ⟨_, rfl⟩
  obtain ⟨start, hstart⟩ : ∃ start : PageLoop Result, start = ⟨1, []⟩ := ⟨_, rfl⟩
  obtain ⟨outcome, hresult⟩ := PageLoop.run_ended (fun i => .ok (responses i))
    (show 2 ^ 32 - 1 - start.page < turns by rw [hstart]; dsimp only; omega)
  have hlength : (InputLoop.run PageLoop.turn turns (fun i => .ok (responses i)) start).1.length
      ≤ turns := InputLoop.length_run_le _ _ _
  subst hstart
  refine ⟨_, InputLoop.length_run_pos hresult, by omega, fun m hm => ?_⟩
  unfold readAnswers
  dsimp only
  rw [InputLoop.run_of_length_le hresult hm, hresult, run_done htotal hresult,
    InputLoop.map_run]
  intro loop answer next h
  exact PageLoop.turn_page h

end Responses

/-! ## The loop of the export -/

section Fetch

variable {fetch : ℕ → Except GatewayError (ResultPage Result)} {left page : ℕ}
  {results : List Result}

theorem readPages_of_ended {outcome : Outcome (List Result)} (hleft : page + left = 2 ^ 32 - 1)
    (h : PageLoop.turn ⟨page, results⟩ (fetch page) = .inl outcome) :
    readPages fetch left page results = ([page], outcome) := by
  unfold PageLoop.turn at h
  unfold readPages
  cases hpage : fetch page with
  | error err =>
    rw [hpage] at h
    exact congrArg _ (Sum.inl.inj h)
  | ok r =>
    rw [hpage] at h
    dsimp only at h ⊢
    by_cases hstop : r.data.length = 0 ∨ r.pagination.totalPages ≤ page
    · rw [if_pos hstop] at h ⊢
      rw [Sum.inl.inj h]
    · rw [if_neg hstop] at h ⊢
      split at h
      · cases h
      · obtain rfl : left = 0 := by omega
        exact congrArg _ (Sum.inl.inj h)

theorem readPages_of_next {next : PageLoop Result} (hleft : page + left = 2 ^ 32 - 1)
    (h : PageLoop.turn ⟨page, results⟩ (fetch page) = .inr next) :
    ∃ left', left = left' + 1 ∧ next.page = page + 1 ∧
      readPages fetch left page results =
        (page :: (readPages fetch left' next.page next.results).1,
          (readPages fetch left' next.page next.results).2) := by
  unfold PageLoop.turn at h
  cases hpage : fetch page with
  | error err =>
    rw [hpage] at h
    cases h
  | ok r =>
    rw [hpage] at h
    dsimp only at h
    by_cases hstop : r.data.length = 0 ∨ r.pagination.totalPages ≤ page
    · rw [if_pos hstop] at h
      cases h
    · rw [if_neg hstop] at h
      split at h
      · obtain ⟨left', rfl⟩ : ∃ left', left = left' + 1 := ⟨left - 1, by omega⟩
        obtain rfl := Sum.inr.inj h
        refine ⟨left', rfl, rfl, ?_⟩
        rw [readPages, hpage]
        exact if_neg hstop
      · cases h

/-- `readPages` takes these turns, each with the answer for its page. -/
theorem run_eq_readPages (hleft : page + left = 2 ^ 32 - 1) :
    (InputLoop.run PageLoop.turn (left + 1) (fun i => fetch (page + i)) ⟨page, results⟩).1.map
        PageLoop.page = (readPages fetch left page results).1 ∧
      (InputLoop.run PageLoop.turn (left + 1) (fun i => fetch (page + i)) ⟨page, results⟩).2
        = .inl (readPages fetch left page results).2 := by
  induction left using Nat.strong_induction_on generalizing page results with
  | _ left ih =>
    cases hturn : PageLoop.turn ⟨page, results⟩ (fetch page) with
    | inl outcome =>
      rw [InputLoop.run_succ_of_ended hturn, readPages_of_ended hleft hturn]
      exact ⟨rfl, rfl⟩
    | inr next =>
      obtain ⟨left', rfl, hnext, hread⟩ := readPages_of_next hleft hturn
      obtain ⟨hpages, hend⟩ := @ih left' (by omega) next.page next.results (by omega)
      have hanswers : (fun i => fetch (page + (i + 1))) = fun i => fetch (next.page + i) := by
        funext i
        rw [hnext, Nat.add_right_comm, Nat.add_assoc]
      rw [InputLoop.run_succ_of_next hturn, hread, hanswers]
      exact ⟨congrArg _ hpages, hend⟩

theorem readAnswers_eq_readPages (hleft : 1 + left = 2 ^ 32 - 1) :
    readAnswers (left + 1) (fun i => fetch (1 + i))
      = ((readPages fetch left 1 []).1, .inl (readPages fetch left 1 []).2) := by
  obtain ⟨hpages, hend⟩ := @run_eq_readPages Result fetch left 1 [] hleft
  unfold readAnswers
  dsimp only
  rw [hpages, hend]

end Fetch

/-! ## The number of pages that gvmd names -/

/-- Each count is a `u32`. -/
def CountsFit (counts : Counts) : Prop :=
  (∀ filtered, counts.filtered = some filtered → filtered < 2 ^ 32) ∧
    ∀ total, counts.total = some total → total < 2 ^ 32

theorem CountsFit.gvmdTotal_lt {counts : Counts} (h : CountsFit counts) (currentLen : ℕ) :
    gvmdTotal counts.filtered counts.total currentLen < 2 ^ 32 := by
  obtain ⟨hfiltered, htotal⟩ := h
  unfold gvmdTotal
  cases hf : counts.filtered with
  | some filtered => exact hfiltered filtered hf
  | none =>
    cases ht : counts.total with
    | some total => exact htotal total ht
    | none => exact Nat.mod_lt _ (by omega)

theorem totalPages_lt {adapter : GvmdAdapter Item} {resultFromGmp : Item → Result}
    {reportId : String} {query : ResultQuery} {r : ResultPage Result}
    (hcounts : ∀ sent response, adapter.getResults sent = .ok response →
      CountsFit response.counts)
    (hsize : 0 < query.perPage)
    (h : adapter.getReportResults resultFromGmp reportId query = .ok r) :
    r.pagination.totalPages < 2 ^ 32 := by
  obtain ⟨response, ⟨-, sent, -, hresponse⟩, -, hpages⟩ := GvmdAdapter.getReportResults_ok h
  rw [hpages]
  exact Pages.count_lt hsize ((hcounts sent response hresponse).gvmdTotal_lt _)

/-- An export from gvmd never runs out of page numbers, whatever gvmd answers. -/
theorem gvmd_export_ne_overflow {gvmd : ℕ → GvmdAdapter Item} (resultFromGmp : Item → Result)
    (getReport : String → GetReportOpts → Except GatewayError (Report Detail Result))
    (toVec : ReportJsonExport Detail Result → Except String (List UInt8)) (now reportId : String)
    (filterString filterId : Option String)
    (hcounts : ∀ page sent response, (gvmd page).getResults sent = .ok response →
      CountsFit response.counts) :
    (gvmdReports gvmd resultFromGmp getReport).exportReportJson toVec now reportId filterString
      filterId ≠ .overflow := by
  apply exportReportJson_ne_overflow
  apply reportJsonExport_ne_overflow
  apply readPages_ne_overflow _ (le_refl 1) rfl
  intro page r _ hok
  have hpages := totalPages_lt (hcounts page) jsonExportPageSize_pos hok
  omega

/-! ## Every backend -/

/-- Whatever pages a backend sends, the export requests the pages from 1 on, each once, comes to
an end within the page numbers of a `u32`, and has then read the pages in order. The page numbers
that the gvmd adapter makes of the counts of gvmd are such, so that its exports never overflow. -/
theorem export_page_loop_ends (responses : ℕ → ResultPage Result)
    (htotal : ∀ i, (responses i).pagination.totalPages < 2 ^ 32) :
    (∃ n, 1 ≤ n ∧ n ≤ 2 ^ 32 - 1 ∧
      (∀ m, n ≤ m → readAnswers m (fun i => .ok (responses i))
        = (List.range' 1 n, .inl (.done (received responses n)))) ∧
      ∀ (reports : ReportsPort Detail Result) (reportId : String)
        (filterString filterId : Option String),
        (∀ i, reports.getReportResults reportId
          ⟨filterString, filterId, i + 1, jsonExportPageSize⟩ = .ok (responses i)) →
        reports.readResults reportId filterString filterId
          = (List.range' 1 n, .done (received responses n))) ∧
    ∀ {Item : Type} (gvmd : ℕ → GvmdAdapter Item) (resultFromGmp : Item → Result)
      (getReport : String → GetReportOpts → Except GatewayError (Report Detail Result))
      (toVec : ReportJsonExport Detail Result → Except String (List UInt8))
      (now reportId : String) (filterString filterId : Option String),
      (∀ page sent response, (gvmd page).getResults sent = .ok response →
        CountsFit response.counts) →
      (gvmdReports gvmd resultFromGmp getReport).exportReportJson toVec now reportId filterString
        filterId ≠ .overflow := by
  constructor
  · obtain ⟨n, hpos, hle, hread⟩ := readAnswers_done htotal
    refine ⟨n, hpos, hle, hread, ?_⟩
    intro reports reportId filterString filterId hanswers
    -- the fuel of the loop, hidden so that nothing unfolds it
    obtain ⟨left, hleft⟩ : ∃ left, left = 2 ^ 32 - 1 - 1 := ⟨_, rfl⟩
    have hpages := @readAnswers_eq_readPages Result (fun page => reports.getReportResults reportId
      ⟨filterString, filterId, page, jsonExportPageSize⟩) left (by omega)
    simp only [Nat.add_comm 1, hanswers] at hpages
    rw [hread (left + 1) (by omega)] at hpages
    obtain ⟨hrequests, hresults⟩ := Prod.ext_iff.mp hpages
    unfold ReportsPort.readResults
    rw [← hleft]
    exact Prod.ext hrequests.symm (Sum.inl.inj hresults).symm
  · intro Item gvmd resultFromGmp getReport toVec now reportId filterString filterId hcounts
    exact gvmd_export_ne_overflow resultFromGmp getReport toVec now reportId filterString filterId
      hcounts

/-- Pages of one result, each of which names one page more than the one before. -/
def growingPages (i : ℕ) : ResultPage ℕ :=
  ⟨[i], ⟨i + 1, jsonExportPageSize, i + 1, min (i + 2) (2 ^ 32 - 1)⟩⟩

def growingReports : ReportsPort Unit ℕ where
  getReport _ _ := .ok ⟨(), []⟩
  getReportResults _ query := .ok (growingPages (query.page - 1))

theorem export_page_loop_ends_growing :
    ∃ n, 1 ≤ n ∧ n ≤ 2 ^ 32 - 1 ∧
      (∀ m, n ≤ m → readAnswers m (fun i => .ok (growingPages i))
        = (List.range' 1 n, .inl (.done (received growingPages n)))) ∧
      growingReports.readResults "ab" none none
        = (List.range' 1 n, .done (received growingPages n)) := by
  have hends := @export_page_loop_ends Unit ℕ growingPages fun i => by
    show min (i + 2) (2 ^ 32 - 1) < 2 ^ 32
    omega
  obtain ⟨n, hpos, hle, hread, hexport⟩ := hends.1
  exact ⟨n, hpos, hle, hread, hexport growingReports "ab" none none fun i => rfl⟩

end GvmGateway
