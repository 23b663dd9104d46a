import Mathlib.Algebra.BigOperators.Group.Finset.Basic
import Mathlib.Algebra.BigOperators.Intervals
import Mathlib.Order.Monotone.Basic
import Mathlib.Tactic.IntervalCases

/-!
# The proleptic Gregorian calendar

Date-times by their fields, and the second that a date-time names, counted from the start of
the year 0. The order of the fields is the order of the seconds.
-/

namespace Calendar

def IsLeap (year : ℕ) : Prop := 4 ∣ year ∧ (¬ 100 ∣ year ∨ 400 ∣ year)

instance : DecidablePred IsLeap := fun year =>
  inferInstanceAs (Decidable (4 ∣ year ∧ (¬ 100 ∣ year ∨ 400 ∣ year)))

theorem not_isLeap_iff {year : ℕ} : ¬ IsLeap year ↔ ¬ 4 ∣ year ∨ 100 ∣ year ∧ ¬ 400 ∣ year := by
  rw [IsLeap, not_and_or, not_or, not_not]

def yearLength (year : ℕ) : ℕ := if IsLeap year then 366 else 365

def monthLength (year month : ℕ) : ℕ :=
  if month = 2 then (if IsLeap year then 29 else 28)
  else if month ∈ [4, 6, 9, 11] then 30
  else 31

/-- A day of the calendar and a time of that day, without leap seconds. -/
structure DateTime where
  year : ℕ
  month : ℕ
  day : ℕ
  hour : ℕ
  minute : ℕ
  second : ℕ
  month_pos : 1 ≤ month
  month_le : month ≤ 12
  day_pos : 1 ≤ day
  day_le : day ≤ monthLength year month
  hour_lt : hour < 24
  minute_lt : minute < 60
  second_lt : second < 60
deriving DecidableEq

/-- The days of the years before `year`. -/
def daysBeforeYear (year : ℕ) : ℕ := ∑ y ∈ Finset.range year, yearLength y

/-- The days of the first `months` months of the year. -/
def daysOfMonths (year months : ℕ) : ℕ := ∑ m ∈ Finset.range months, monthLength year (m + 1)

namespace DateTime

def secondOfDay (t : DateTime) : ℕ := t.hour * 3600 + (t.minute * 60 + t.second)

def dayOfYear (t : DateTime) : ℕ := daysOfMonths t.year (t.month - 1) + (t.day - 1)

/-- The days from the first of January of the year 0. -/
def dayNumber (t : DateTime) : ℕ := daysBeforeYear t.year + t.dayOfYear

def secondNumber (t : DateTime) : ℕ := t.dayNumber * 86400 + t.secondOfDay

end DateTime

/-! ## Closed forms -/

theorem daysBeforeYear_succ (year : ℕ) :
    daysBeforeYear (year + 1) = daysBeforeYear year + yearLength year :=
  Finset.sum_range_succ yearLength year

theorem daysOfMonths_succ (year months : ℕ) :
    daysOfMonths year (months + 1) = daysOfMonths year months + monthLength year (months + 1) :=
  Finset.sum_range_succ (fun m => monthLength year (m + 1)) months

/-- Every fourth year has a day more, but for the centuries that 400 does not divide. -/
theorem daysBeforeYear_eq (year : ℕ) :
    daysBeforeYear year + (year + 99) / 100 =
      365 * year + (year + 3) / 4 + (year + 399) / 400 := by
  induction year with
  | zero => rfl
  | succ y ih =>
    rw [daysBeforeYear_succ, yearLength]
    by_cases hleap : IsLeap y
    · rw [if_pos hleap]
      unfold IsLeap at hleap
      omega
    · rw [if_neg hleap]
      rcases not_isLeap_iff.mp hleap with hfour | ⟨hhundred, hera⟩
      · omega
      · omega

theorem daysOfMonths_two (year : ℕ) :
    daysOfMonths year 2 = if IsLeap year then 60 else 59 := by
  rw [daysOfMonths, Finset.sum_range_succ, Finset.sum_range_one]
  show 31 + (if IsLeap year then 29 else 28) = if IsLeap year then 60 else 59
  by_cases hleap : IsLeap year
  · rw [if_pos hleap, if_pos hleap]
  · rw [if_neg hleap, if_neg hleap]

/-- From March on the lengths of the months repeat every five months, 153 days. -/
theorem monthLength_march (year : ℕ) {k : ℕ} (hk : k < 10) :
    monthLength year (k + 3) = (153 * (k + 1) + 2) / 5 - (153 * k + 2) / 5 := by
  unfold monthLength
  interval_cases k <;> rfl

theorem daysOfMonths_march (year : ℕ) {k : ℕ} (hk : k ≤ 10) :
    daysOfMonths year (k + 2) = daysOfMonths year 2 + (153 * k + 2) / 5 := by
  induction k with
  | zero => rfl
  | succ k ih =>
    rw [show k + 1 + 2 = k + 2 + 1 by omega, daysOfMonths_succ, ih (by omega),
      monthLength_march year hk]
    omega

theorem daysOfMonths_twelve (year : ℕ) : daysOfMonths year 12 = yearLength year := by
  rw [daysOfMonths_march year (k := 10) le_rfl, daysOfMonths_two, yearLength]
  split <;> rfl

/-! ## Order -/

/-- Counting in periods of given lengths: the later period first, then the place in it. -/
theorem add_lt_add_iff_of_periods {start length : ℕ → ℕ}
    (hstart : ∀ k, start (k + 1) = start k + length k) {k l r s : ℕ}
    (hr : r < length k) (hs : s < length l) :
    start k + r < start l + s ↔ k < l ∨ k = l ∧ r < s := by
  have hmono : Monotone start := monotone_nat_of_le_succ fun n => by
    rw [hstart]
    omega
  rcases lt_trichotomy k l with hkl | rfl | hlk
  · have hle : start (k + 1) ≤ start l := hmono hkl
    rw [hstart] at hle
    omega
  · omega
  · have hle : start (l + 1) ≤ start k := hmono hlk
    rw [hstart] at hle
    omega

theorem mul_add_lt_mul_add_iff {size k l r s : ℕ} (hr : r < size) (hs : s < size) :
    k * size + r < l * size + s ↔ k < l ∨ k = l ∧ r < s :=
  @add_lt_add_iff_of_periods (fun n => n * size) (fun _ => size) (fun n => Nat.succ_mul n size)
    k l r s hr hs

namespace DateTime

theorem day_sub_one_lt (t : DateTime) :
    t.day - 1 < monthLength t.year (t.month - 1 + 1) := by
  have hpos := t.day_pos
  have hle := t.day_le
  rw [Nat.sub_add_cancel t.month_pos]
  omega

theorem secondOfDay_lt (t : DateTime) : t.secondOfDay < 86400 := by
  have hhour := t.hour_lt
  have hminute := t.minute_lt
  have hsecond := t.second_lt
  unfold secondOfDay
  omega

theorem dayOfYear_lt (t : DateTime) : t.dayOfYear < yearLength t.year := by
  have hday := t.day_sub_one_lt
  have hmono : Monotone (daysOfMonths t.year) := monotone_nat_of_le_succ fun n => by
    rw [daysOfMonths_succ]
    omega
  have hle : daysOfMonths t.year (t.month - 1 + 1) ≤ daysOfMonths t.year 12 :=
    hmono (by have := t.month_le; have := t.month_pos; omega)
  rw [daysOfMonths_twelve, daysOfMonths_succ] at hle
  unfold dayOfYear
  omega

/-- The fields, from the year down, in lexicographic order. -/
def Before (t u : DateTime) : Prop :=
  t.year < u.year ∨ t.year = u.year ∧ (t.month < u.month ∨ t.month = u.month ∧
    (t.day < u.day ∨ t.day = u.day ∧ (t.hour < u.hour ∨ t.hour = u.hour ∧
      (t.minute < u.minute ∨ t.minute = u.minute ∧ t.second < u.second))))

theorem secondOfDay_lt_iff (t u : DateTime) :
    t.secondOfDay < u.secondOfDay ↔ t.hour < u.hour ∨ t.hour = u.hour ∧
      (t.minute < u.minute ∨ t.minute = u.minute ∧ t.second < u.second) := by
  have hrest (v : DateTime) : v.minute * 60 + v.second < 3600 := by
    have hminute := v.minute_lt
    have hsecond := v.second_lt
    omega
  unfold secondOfDay
  rw [mul_add_lt_mul_add_iff (hrest t) (hrest u),
    mul_add_lt_mul_add_iff t.second_lt u.second_lt]

theorem dayNumber_lt_iff (t u : DateTime) :
    t.dayNumber < u.dayNumber ↔ t.year < u.year ∨ t.year = u.year ∧
      (t.month < u.month ∨ t.month = u.month ∧ t.day < u.day) := by
  unfold dayNumber
  rw [add_lt_add_iff_of_periods daysBeforeYear_succ t.dayOfYear_lt u.dayOfYear_lt]
  refine or_congr_right (and_congr_right fun hyear => ?_)
  have hday := u.day_sub_one_lt
  rw [← hyear] at hday
  have hmonths := add_lt_add_iff_of_periods (daysOfMonths_succ t.year) t.day_sub_one_lt hday
  have htm := t.month_pos
  have hum := u.month_pos
  have htd := t.day_pos
  have hud := u.day_pos
  unfold dayOfYear
  rw [← hyear, hmonths]
  omega

theorem dayNumber_eq_iff (t u : DateTime) :
    t.dayNumber = u.dayNumber ↔ t.year = u.year ∧ t.month = u.month ∧ t.day = u.day := by
  have htu := dayNumber_lt_iff t u
  have hut := dayNumber_lt_iff u t
  omega

theorem secondNumber_lt_iff (t u : DateTime) :
    t.secondNumber < u.secondNumber ↔ t.Before u := by
  unfold secondNumber Before
  rw [mul_add_lt_mul_add_iff t.secondOfDay_lt u.secondOfDay_lt, dayNumber_lt_iff,
    dayNumber_eq_iff, secondOfDay_lt_iff]
  omega

/-- A second has one date-time. -/
theorem secondNumber_injective : Function.Injective secondNumber := by
  intro t u htu
  have hlt := (secondNumber_lt_iff t u).not.mp (by omega)
  have hgt := (secondNumber_lt_iff u t).not.mp (by omega)
  unfold Before at hlt hgt
  cases t
  cases u
  simp only [mk.injEq]
  dsimp only at hlt hgt
  omega

end DateTime

end Calendar
