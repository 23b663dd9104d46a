import Mathlib.Data.List.Basic
import Mathlib.Tactic.Ring

/-!
# Lists read page by page

Page `p` of a list, counted from one, and the number of pages that a list fills.
-/

namespace Pages

variable {α β : Type}

def page (L : List α) (size p : ℕ) : List α :=
  (L.drop ((p - 1) * size)).take size

/-- The number of pages of `total` items. -/
def count (total size : ℕ) : ℕ :=
  if total = 0 then 0 else (total - 1) / size + 1

theorem map_page (f : α → β) (L : List α) (size p : ℕ) :
    (page L size p).map f = page (L.map f) size p := by
  rw [page, page, List.map_take, List.map_drop]

theorem length_page_le (L : List α) (size p : ℕ) : (page L size p).length ≤ size := by
  rw [page, List.length_take]
  omega

theorem page_eq_nil_iff {size : ℕ} (hsize : 0 < size) (L : List α) (p : ℕ) :
    page L size p = [] ↔ L.length ≤ (p - 1) * size := by
  rw [← List.length_eq_zero_iff, page, List.length_take, List.length_drop]
  omega

/-- Reading one more page extends what was read so far. -/
theorem take_append_page (L : List α) (size : ℕ) {p : ℕ} (hp : 1 ≤ p) :
    L.take ((p - 1) * size) ++ page L size p = L.take (p * size) := by
  have hsplit : p * size = (p - 1) * size + size := by
    obtain ⟨q, rfl⟩ : ∃ q, p = q + 1 := ⟨p - 1, by omega⟩
    rw [Nat.add_sub_cancel]
    ring
  rw [page, hsplit, List.take_add]

theorem count_le_iff {size : ℕ} (hsize : 0 < size) (total p : ℕ) :
    count total size ≤ p ↔ total ≤ p * size := by
  unfold count
  by_cases htotal : total = 0
  · rw [if_pos htotal]
    omega
  · rw [if_neg htotal, Nat.succ_le_iff, Nat.div_lt_iff_lt_mul hsize]
    omega

theorem length_page {size p : ℕ} {L : List α} (hp : 1 ≤ p) (hlt : p < count L.length size) :
    (page L size p).length = size := by
  rcases Nat.eq_zero_or_pos size with rfl | hsize
  · exact Nat.le_zero.mp (length_page_le L 0 p)
  · have hfull : p * size < L.length := by
      have hcount := (count_le_iff hsize L.length p).not.mp (Nat.not_le.mpr hlt)
      omega
    have hsplit : p * size = (p - 1) * size + size := by
      obtain ⟨q, rfl⟩ : ∃ q, p = q + 1 := ⟨p - 1, by omega⟩
      rw [Nat.add_sub_cancel]
      ring
    rw [page, List.length_take, List.length_drop]
    omega

theorem page_eq_nil_of_count_lt {size p : ℕ} (hsize : 0 < size) {L : List α}
    (hlt : count L.length size < p) : page L size p = [] := by
  rw [page_eq_nil_iff hsize]
  exact (count_le_iff hsize L.length (p - 1)).mp (by omega)

/-- The last page has something on it. -/
theorem page_count_ne_nil {size : ℕ} (hsize : 0 < size) {L : List α}
    (hpos : 0 < count L.length size) : page L size (count L.length size) ≠ [] := by
  rw [Ne, page_eq_nil_iff hsize, ← count_le_iff hsize]
  omega

theorem count_lt {w total size : ℕ} (hsize : 0 < size) (htotal : total < w) :
    count total size < w := by
  have hle : count total size ≤ total :=
    (count_le_iff hsize total total).mpr (Nat.le_mul_of_pos_right total hsize)
  omega

/-- The first `n` pages, one after the other. -/
theorem flatMap_page (L : List α) (size n : ℕ) :
    (List.range n).flatMap (fun p => page L size (p + 1)) = L.take (n * size) := by
  induction n with
  | zero => simp
  | succ n ih =>
    rw [List.range_succ, List.flatMap_append, ih, List.flatMap_singleton]
    exact take_append_page L size (Nat.succ_pos n)

theorem flatMap_pages {size : ℕ} (hsize : 0 < size) (L : List α) :
    (List.range (count L.length size)).flatMap (fun p => page L size (p + 1)) = L := by
  rw [flatMap_page]
  exact List.take_of_length_le ((count_le_iff hsize L.length _).mp le_rfl)

/-- Pages of the same lengths are the pages of a list when together they are the list. -/
theorem eq_page_of_flatMap {size : ℕ} {L : List α} {data : ℕ → List α} {n : ℕ}
    (hlength : ∀ p, (data (p + 1)).length = (page L size (p + 1)).length)
    (hdata : (List.range n).flatMap (fun p => data (p + 1)) = L.take (n * size)) :
    ∀ p < n, data (p + 1) = page L size (p + 1) := by
  induction n with
  | zero => exact fun p hp => absurd hp (Nat.not_lt_zero p)
  | succ n ih =>
    rw [← flatMap_page, List.range_succ, List.flatMap_append, List.flatMap_append,
      List.flatMap_singleton, List.flatMap_singleton] at hdata
    obtain ⟨hinit, hlast⟩ := List.append_inj' hdata (hlength n)
    intro p hp
    rcases Nat.lt_succ_iff_lt_or_eq.mp hp with hlt | rfl
    · rw [flatMap_page] at hinit
      exact ih hinit p hlt
    · exact hlast

end Pages
