import GvmGateway.Gvmd.Filters
import GvmGateway.Library.Pages

/-!
# The pages that the adapter cuts itself

`paged_slice` takes its offset in `u64` and `paged_pagination` counts pages in `u32`. Neither
leaves its type, and the slices up to the number of pages are the list.
-/

namespace GvmGateway.Gvmd

variable {α : Type} {total page perPage : ℕ}

/-! ## No operation leaves its type -/

theorem uint_bind {β : Type} {w value : ℕ} (hvalue : value < 2 ^ w) (f : ℕ → Option β) :
    (uint w value).bind f = f value := by
  rw [uint, if_pos hvalue, Option.bind_some]

theorem totalPagesChecked_eq (hsize : 1 ≤ perPage) (htotal : total < 2 ^ 32) :
    totalPagesChecked total perPage = some (Pages.count total perPage) := by
  have hcount := Pages.count_lt hsize htotal
  unfold totalPagesChecked
  unfold Pages.count at hcount ⊢
  by_cases hzero : total = 0
  · rw [if_pos hzero, if_pos hzero]
  · rw [if_neg hzero] at hcount ⊢
    have hsub : checkedSub total 1 = some (total - 1) := if_pos (by omega)
    have hdiv : checkedDiv (total - 1) perPage = some ((total - 1) / perPage) :=
      if_neg (by omega)
    rw [if_neg hzero, hsub, Option.bind_eq_bind, Option.bind_some, hdiv, Option.bind_some]
    exact if_pos hcount

theorem pagedPaginationChecked_eq (hsize : 1 ≤ perPage) (htotal : total < 2 ^ 32) :
    pagedPaginationChecked total page perPage = some (pagedPagination total page perPage) := by
  unfold pagedPaginationChecked
  rw [totalPagesChecked_eq hsize htotal]
  rfl

/-- The largest offset is that of the last page of the largest size. -/
theorem offset_lt (hpage : page < 2 ^ 32) (hperPage : perPage < 2 ^ 32) :
    (page - 1) * perPage < 2 ^ 64 := by
  calc (page - 1) * perPage ≤ (2 ^ 32 - 1) * (2 ^ 32 - 1) :=
      Nat.mul_le_mul (by omega) (by omega)
    _ < 2 ^ 64 := by norm_num

theorem pagedSliceChecked_eq (width : PointerWidth) {items : List α}
    (hlength : items.length < 2 ^ 32) (hpage : page < 2 ^ 32) (hperPage : perPage < 2 ^ 32) :
    pagedSliceChecked width items page perPage = some (pagedSlice items page perPage) := by
  have hwidth : 2 ^ 32 ≤ 2 ^ width.bits := by
    apply Nat.pow_le_pow_right (by omega)
    cases width <;> decide
  unfold pagedSliceChecked pagedSlice
  rw [Option.bind_eq_bind, uint_bind (offset_lt hpage hperPage)]
  by_cases hoffset : (page - 1) * perPage < 2 ^ width.bits
  · rw [if_pos hoffset, Nat.mod_eq_of_lt (by omega)]
  · -- an offset that a `usize` cannot hold is behind the end of the list
    rw [if_neg hoffset, List.drop_of_length_le (by omega), List.take_nil]

/-! ## The slices are the list -/

theorem flatMap_pagedSlice (hsize : 1 ≤ perPage) (items : List α) :
    (List.range' 1 (Pages.count items.length perPage)).flatMap
      (fun page => pagedSlice items page perPage) = items := by
  rw [List.range'_eq_map_range, List.flatMap_map]
  have hpages := Pages.flatMap_pages hsize items
  simp only [Nat.add_comm 1]
  exact hpages

/-- For every list with fewer than `2 ^ 32` items and every page size, `paged_pagination` gives
each page the same number of pages, the slices of these pages are the list, all but the last are
full, the last is not empty and what comes after them is. -/
theorem pagedSlices_partition (width : PointerWidth) (items : List α) (perPage : ℕ)
    (hsize : 1 ≤ perPage) (hperPage : perPage < 2 ^ 32) (hlength : items.length < 2 ^ 32) :
    ∃ totalPages < 2 ^ 32,
      (∀ page < 2 ^ 32,
        pagedPaginationChecked items.length page perPage
          = some ⟨page, perPage, items.length, totalPages⟩ ∧
        pagedSliceChecked width items page perPage = some (pagedSlice items page perPage)) ∧
      (List.range' 1 totalPages).flatMap (fun page => pagedSlice items page perPage) = items ∧
      (∀ page, 1 ≤ page → page < totalPages →
        (pagedSlice items page perPage).length = perPage) ∧
      (1 ≤ totalPages → pagedSlice items totalPages perPage ≠ []) ∧
      ∀ page, totalPages < page → page < 2 ^ 32 → pagedSlice items page perPage = [] := by
  refine ⟨Pages.count items.length perPage, Pages.count_lt hsize hlength, ?_,
    flatMap_pagedSlice hsize items, ?_, Pages.page_count_ne_nil hsize, ?_⟩
  · intro page hpage
    exact ⟨pagedPaginationChecked_eq hsize hlength,
      pagedSliceChecked_eq width hlength hpage hperPage⟩
  · intro page hpage hlast
    exact Pages.length_page hpage hlast
  · intro page hlast _
    exact Pages.page_eq_nil_of_count_lt hsize hlast

/-- Two items, on the largest page size. -/
theorem pagedSlices_partition_largest : ∃ totalPages < 2 ^ 32,
    (∀ page < 2 ^ 32,
      pagedPaginationChecked 2 page (2 ^ 32 - 1) = some ⟨page, 2 ^ 32 - 1, 2, totalPages⟩ ∧
      pagedSliceChecked .bits32 ["first", "second"] page (2 ^ 32 - 1)
        = some (pagedSlice ["first", "second"] page (2 ^ 32 - 1))) ∧
    (List.range' 1 totalPages).flatMap
      (fun page => pagedSlice ["first", "second"] page (2 ^ 32 - 1)) = ["first", "second"] ∧
    (∀ page, 1 ≤ page → page < totalPages →
      (pagedSlice ["first", "second"] page (2 ^ 32 - 1)).length = 2 ^ 32 - 1) ∧
    (1 ≤ totalPages → pagedSlice ["first", "second"] totalPages (2 ^ 32 - 1) ≠ []) ∧
    ∀ page, totalPages < page → page < 2 ^ 32 →
      pagedSlice ["first", "second"] page (2 ^ 32 - 1) = [] :=
  pagedSlices_partition .bits32 ["first", "second"] (2 ^ 32 - 1) (by decide) (by decide)
    (by decide)

end GvmGateway.Gvmd
