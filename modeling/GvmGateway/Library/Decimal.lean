import Mathlib.Data.String.Basic

/-!
# Decimal numerals

Lists of decimal digits and the numbers they name. Numerals of one length are ordered as
their numbers are.
-/

namespace Decimal

def IsNumeral (l : List Char) : Prop := ∀ c ∈ l, c.isDigit = true

/-- The number that the digits name. -/
abbrev value (l : List Char) : ℕ := Nat.ofDigitChars 10 l 0

theorem value_cons (c : Char) (l : List Char) :
    value (c :: l) = 10 ^ l.length * (c.toNat - '0'.toNat) + value l := by
  rw [value, Nat.ofDigitChars_cons, Nat.ofDigitChars_eq_ofDigitChars_zero, Nat.mul_zero,
    Nat.zero_add]

theorem value_replicate_zero_append (n : ℕ) (l : List Char) :
    value (List.replicate n '0' ++ l) = value l := by
  rw [value, Nat.ofDigitChars_append, Nat.ofDigitChars_replicate_zero, Nat.mul_zero]

theorem digit_le_nine {c : Char} (hc : c.isDigit = true) : c.toNat - '0'.toNat ≤ 9 := by
  have hbounds := Char.isDigit_iff_toNat.mp hc
  have hzero : '0'.toNat = 48 := rfl
  have hnine : '9'.toNat = 57 := rfl
  omega

theorem value_lt {l : List Char} (hl : IsNumeral l) : value l < 10 ^ l.length := by
  induction l with
  | nil => exact Nat.one_pos
  | cons c l ih =>
    obtain ⟨hc, htail⟩ := List.forall_mem_cons.mp hl
    have hrest := ih htail
    have hdigit := Nat.mul_le_mul_left (10 ^ l.length) (digit_le_nine hc)
    rw [value_cons, List.length_cons, Nat.pow_succ]
    omega

/-- The first digit in which two numerals of one length differ decides which is smaller. -/
theorem lt_of_value_lt {l m : List Char} (hl : IsNumeral l) (hm : IsNumeral m)
    (hlength : l.length = m.length) (hlt : value l < value m) : l < m := by
  induction l generalizing m with
  | nil =>
    obtain rfl := List.length_eq_zero_iff.mp hlength.symm
    exact absurd hlt (lt_irrefl _)
  | cons c l ih =>
    obtain _ | ⟨d, m⟩ := m
    · exact absurd hlength (Nat.succ_ne_zero _)
    obtain ⟨hc, hltail⟩ := List.forall_mem_cons.mp hl
    obtain ⟨hd, hmtail⟩ := List.forall_mem_cons.mp hm
    have htails : l.length = m.length := Nat.succ.inj hlength
    rw [value_cons, value_cons, htails] at hlt
    rcases lt_trichotomy c d with hcd | rfl | hdc
    · exact List.cons_lt_cons_iff.mpr (Or.inl hcd)
    · exact List.cons_lt_cons_iff.mpr (Or.inr ⟨rfl, ih hltail hmtail htails (by omega)⟩)
    · -- the smaller head loses whatever follows it
      have hheads : d.toNat - '0'.toNat + 1 ≤ c.toNat - '0'.toNat := by
        have hnat : d.toNat < c.toNat := hdc
        have hzero : '0'.toNat ≤ d.toNat := (Char.isDigit_iff_toNat.mp hd).1
        omega
      have hscaled := Nat.mul_le_mul_left (10 ^ m.length) hheads
      have hrest := value_lt hmtail
      rw [Nat.mul_succ] at hscaled
      omega

/-- A comparison of equally long beginnings is not changed by what follows them. -/
theorem append_lt_append {l m : List Char} (hlength : l.length = m.length) (hlt : l < m)
    (r s : List Char) : l ++ r < m ++ s := by
  induction l generalizing m with
  | nil =>
    obtain rfl := List.length_eq_zero_iff.mp hlength.symm
    exact absurd hlt (List.lt_irrefl _)
  | cons c l ih =>
    obtain _ | ⟨d, m⟩ := m
    · exact absurd hlength (Nat.succ_ne_zero _)
    refine List.cons_lt_cons_iff.mpr ?_
    rcases List.cons_lt_cons_iff.mp hlt with hcd | ⟨hcd, htail⟩
    · exact Or.inl hcd
    · exact Or.inr ⟨hcd, ih (Nat.succ.inj hlength) htail⟩

end Decimal
