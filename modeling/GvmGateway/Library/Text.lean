import Mathlib

/-!
# White space

Unicode white space, texts without the white space at their ends, and blank texts.
-/

namespace Text

/-- `char::is_whitespace`. -/
def isWhitespace (c : Char) : Bool :=
  (9 ≤ c.toNat ∧ c.toNat ≤ 13) ∨ (0x2000 ≤ c.toNat ∧ c.toNat ≤ 0x200a) ∨
    c.toNat ∈ [0x20, 0x85, 0xa0, 0x1680, 0x2028, 0x2029, 0x202f, 0x205f, 0x3000]

/-- `str::trim`. -/
def trim (cs : List Char) : List Char :=
  ((cs.dropWhile isWhitespace).reverse.dropWhile isWhitespace).reverse

/-- `value.trim().is_empty()`. -/
def isBlank (value : String) : Bool := (trim value.toList).isEmpty

/-- A text of white space only. -/
def Blank (value : String) : Prop := ∀ c ∈ value.toList, isWhitespace c = true

/-- Visible ASCII characters are no white space. -/
theorem isWhitespace_of_printable {c : Char} (hlow : 33 ≤ c.toNat) (hhigh : c.toNat ≤ 126) :
    isWhitespace c = false := by
  unfold isWhitespace
  simp only [List.mem_cons, List.not_mem_nil, or_false, decide_eq_false_iff_not]
  omega

/-- A text without white space at its ends is its own trimmed text. -/
theorem trim_eq_self {cs : List Char} (hhead : ∀ c ∈ cs.head?, isWhitespace c = false)
    (hlast : ∀ c ∈ cs.getLast?, isWhitespace c = false) : trim cs = cs := by
  have hdrop {ds : List Char} (hds : ∀ c ∈ ds.head?, isWhitespace c = false) :
      ds.dropWhile isWhitespace = ds := by
    cases ds with
    | nil => rfl
    | cons c ds => exact List.dropWhile_cons_of_neg (by rw [hds c rfl]; decide)
  unfold trim
  rw [hdrop hhead, hdrop (by rwa [List.head?_reverse]), List.reverse_reverse]

/-- Nothing is left of a text when it is trimmed, exactly when it is blank. -/
theorem isBlank_iff {value : String} : isBlank value = true ↔ Blank value := by
  have hall : ∀ cs : List Char, cs.dropWhile isWhitespace = [] ↔
      ∀ c ∈ cs, isWhitespace c = true := by
    intro cs
    exact List.dropWhile_eq_nil_iff
  unfold isBlank Blank trim
  rw [List.isEmpty_iff, List.reverse_eq_nil_iff, hall]
  constructor
  · intro h
    -- what is left starts with a visible character, unless nothing is left
    by_contra hvalue
    have hne : value.toList.dropWhile isWhitespace ≠ [] := by
      rwa [Ne, hall]
    have hhead := List.head_dropWhile_not isWhitespace hne
    have hspace := h _ (List.mem_reverse.mpr (List.head_mem hne))
    rw [hspace] at hhead
    cases hhead
  · intro h c hc
    exact h c (List.dropWhile_sublist _ |>.mem (List.mem_reverse.mp hc))

end Text
