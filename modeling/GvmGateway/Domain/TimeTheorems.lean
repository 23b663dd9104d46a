import GvmGateway.Domain.Time
import GvmGateway.Library.Calendar
import GvmGateway.Library.Decimal

/-!
# The printed timestamp is the calendar's

`format_rfc3339` counts in eras of 400 years that start on the first of March. The calendar
counts the days of whole years and months. Both give the same day.
-/

namespace GvmGateway

open Calendar

/-- 1970-01-01T00:00:00Z. -/
def unixEpoch : DateTime where
  year := 1970
  month := 1
  day := 1
  hour := 0
  minute := 0
  second := 0
  month_pos := by decide
  month_le := by decide
  day_pos := by decide
  day_le := by decide
  hour_lt := by decide
  minute_lt := by decide
  second_lt := by decide

/-- A date-time in the format of RFC 3339, to the second and in UTC. -/
def printRfc3339 (t : DateTime) : String :=
  s!"{padZero 4 t.year}-{padZero 2 t.month}-{padZero 2 t.day}" ++
    s!"T{padZero 2 t.hour}:{padZero 2 t.minute}:{padZero 2 t.second}Z"

/-! ## The day of an era -/

/-- The year of the era is not later than the day. -/
theorem yearOfEra_le {doe yoe : ℕ} (hdoe : doe < 146097)
    (hyoe : yoe = (doe - doe / 1460 + doe / 36524 - doe / 146096) / 365) :
    365 * yoe + yoe / 4 - yoe / 100 ≤ doe := by
  have hdays : 365 * yoe + doe / 1460 ≤ doe + doe / 36524 := by omega
  rcases Nat.lt_or_ge (yoe / 100) (doe / 36524) with hcentury | hcentury
  · have hyear : yoe < 100 * (doe / 36524) := by omega
    omega
  · by_contra hlt
    have hquarter : doe / 1460 + 1 ≤ yoe / 4 := by omega
    omega

/-- A day of an era lies before the end of the year computed for it. -/
theorem lt_yearOfEra_succ {doe yoe : ℕ} (hdoe : doe < 146097)
    (hyoe : yoe = (doe - doe / 1460 + doe / 36524 - doe / 146096) / 365) :
    doe < 365 * (yoe + 1) + (yoe + 1) / 4 - (yoe + 1) / 100 + (yoe + 1) / 400 := by
  have hdays : doe + doe / 36524 < 365 * (yoe + 1) + doe / 1460 + doe / 146096 := by omega
  rcases Nat.lt_or_ge (doe / 36524) ((yoe + 1) / 100) with hcentury | hcentury
  · have hdoe' : doe < 36524 * ((yoe + 1) / 100) + doe / 146096 := by omega
    have hyear : 25 * ((yoe + 1) / 100) ≤ (yoe + 1) / 4 := by omega
    omega
  · by_contra hge
    -- only the last day of the era is not in a quarter of its own
    by_cases hlast : doe = 146096
    · omega
    have hquarter : (yoe + 1) / 4 + 1 ≤ doe / 1460 := by omega
    omega

/-- The year that starts on the first of March of the year `y` ends with February of the
next one. -/
theorem marchYear_length (y : ℕ) :
    yearLength (y + 1) + (365 * y + y / 4 + y / 400) + (y + 1) / 100 =
      365 * (y + 1) + (y + 1) / 4 + (y + 1) / 400 + y / 100 := by
  unfold yearLength
  by_cases hleap : IsLeap (y + 1)
  · rw [if_pos hleap]
    unfold IsLeap at hleap
    omega
  · rw [if_neg hleap]
    rcases not_isLeap_iff.mp hleap with hfour | ⟨hhundred, hera⟩
    · omega
    · omega

/-- The days from the start of the year 0 to the first of March of the year `y`. -/
theorem daysBefore_march (y : ℕ) :
    daysBeforeYear y + daysOfMonths y 2 + y / 100 = 60 + 365 * y + y / 4 + y / 400 := by
  have hyears := daysBeforeYear_eq y
  rw [daysOfMonths_two]
  by_cases hleap : IsLeap y
  · rw [if_pos hleap]
    unfold IsLeap at hleap
    omega
  · rw [if_neg hleap]
    rcases not_isLeap_iff.mp hleap with hfour | ⟨hhundred, hera⟩
    · omega
    · omega

/-- January has 31 days in every year. -/
theorem monthLength_january (y : ℕ) : monthLength y 1 = 31 := rfl

theorem monthLength_february (y : ℕ) : monthLength y 2 + 337 = yearLength y := by
  show (if IsLeap y then 29 else 28) + 337 = if IsLeap y then 366 else 365
  by_cases hleap : IsLeap y
  · rw [if_pos hleap, if_pos hleap]
  · rw [if_neg hleap, if_neg hleap]

/-- Whole eras drop out of the leap days. -/
theorem leapDays_of_era (era n : ℕ) : (n + era * 400) / 4 = n / 4 + era * 100 ∧
    (n + era * 400) / 100 = n / 100 + era * 4 ∧ (n + era * 400) / 400 = n / 400 + era := by
  omega

/-- The day `doe` of an era is the day `doy` of the year `yoe` of the era. -/
theorem dayOfEra_split (era : ℕ) {doe yoe doy : ℕ} (hdoe : doe < 146097)
    (hyoe : yoe = (doe - doe / 1460 + doe / 36524 - doe / 146096) / 365)
    (hdoy : doy = doe - (365 * yoe + yoe / 4 - yoe / 100)) :
    yoe < 400 ∧ doe + yoe / 100 = 365 * yoe + yoe / 4 + doy ∧
      doy < yearLength (yoe + era * 400 + 1) := by
  have hle := yearOfEra_le hdoe hyoe
  have hnext := lt_yearOfEra_succ hdoe hyoe
  have hyear : yoe < 400 := by
    clear hle hnext hdoy
    omega
  clear hyoe
  refine ⟨hyear, by omega, ?_⟩
  obtain ⟨hfour, hhundred, hera⟩ := leapDays_of_era era yoe
  obtain ⟨hfour', hhundred', hera'⟩ := leapDays_of_era era (yoe + 1)
  have hlength := marchYear_length (yoe + era * 400)
  rw [show yoe + era * 400 + 1 = yoe + 1 + era * 400 by omega] at hlength ⊢
  rw [hfour, hhundred, hera, hfour', hhundred', hera'] at hlength
  omega

/-- The date of day `doy` of the year that starts on the first of March of the year `y`. -/
theorem date_of_marchYear {y doy : ℕ} (hdoy : doy < yearLength (y + 1)) :
    let mp := (5 * doy + 2) / 153
    let day := doy - (153 * mp + 2) / 5 + 1
    let month := if mp < 10 then mp + 3 else mp - 9
    let year := if month ≤ 2 then y + 1 else y
    1 ≤ month ∧ month ≤ 12 ∧ day ≤ monthLength year month ∧
      daysBeforeYear year + (daysOfMonths year (month - 1) + (day - 1)) + y / 100 =
        60 + 365 * y + y / 4 + y / 400 + doy := by
  intro mp day month year
  have hmp : mp = (5 * doy + 2) / 153 := rfl
  have hyear : yearLength (y + 1) ≤ 366 := by
    unfold yearLength
    split <;> omega
  have hmarch := daysBefore_march y
  by_cases hlt : mp < 10
  · -- March to December
    have hmonth : month = mp + 3 := if_pos hlt
    have hyear' : year = y := if_neg (by omega)
    have hlength := monthLength_march y hlt
    have hmonths := daysOfMonths_march y hlt.le
    rw [hyear', hmonth, hlength, show mp + 3 - 1 = mp + 2 from rfl, hmonths]
    omega
  · -- January and February belong to the next year
    have hmonth : month = mp - 9 := if_neg hlt
    have hyear' : year = y + 1 := if_pos (by omega)
    have hnext := daysBeforeYear_succ y
    have htwelve := daysOfMonths_twelve y
    have hten : daysOfMonths y 12 = daysOfMonths y 2 + 306 := daysOfMonths_march y le_rfl
    have hfebruary := monthLength_february (y + 1)
    have hmp' : mp = 10 ∨ mp = 11 := by omega
    rcases hmp' with hten' | heleven
    · have hdays : daysOfMonths (y + 1) 0 = 0 := rfl
      rw [hyear', hmonth, hten']
      show 1 ≤ 1 ∧ 1 ≤ 12 ∧ day ≤ monthLength (y + 1) 1 ∧
        daysBeforeYear (y + 1) + (daysOfMonths (y + 1) 0 + (day - 1)) + y / 100 = _
      rw [monthLength_january, hdays]
      omega
    · have hdays : daysOfMonths (y + 1) 1 = 31 := rfl
      rw [hyear', hmonth, heleven]
      show 1 ≤ 2 ∧ 2 ≤ 12 ∧ day ≤ monthLength (y + 1) 2 ∧
        daysBeforeYear (y + 1) + (daysOfMonths (y + 1) 1 + (day - 1)) + y / 100 = _
      rw [hdays]
      omega

/-- The number of the first second of 1970. -/
theorem unixEpoch_secondNumber : unixEpoch.secondNumber = 719528 * 86400 := by
  have hyear : unixEpoch.year = 1970 := rfl
  have hmonth : unixEpoch.month - 1 = 0 := rfl
  have hday : unixEpoch.day - 1 = 0 := rfl
  have htime : unixEpoch.secondOfDay = 0 := rfl
  have hmonths : daysOfMonths 1970 0 = 0 := rfl
  have hyears := daysBeforeYear_eq 1970
  -- as a variable, or its value is computed
  obtain ⟨days, hdays⟩ : ∃ d, d = daysBeforeYear 1970 := ⟨_, rfl⟩
  rw [← hdays] at hyears
  rw [DateTime.secondNumber, DateTime.dayNumber, DateTime.dayOfYear, hyear, hmonth, hday, htime,
    hmonths, ← hdays]
  omega

/-- The day computed within an era has the number that it was computed from. -/
theorem dayNumber_of_era {days era doe yoe doy number : ℕ} (hera : era = (days + 719468) / 146097)
    (hdoe : doe = days + 719468 - era * 146097) (hyear : yoe < 400)
    (hsplit : doe + yoe / 100 = 365 * yoe + yoe / 4 + doy)
    (hnumber : number + (yoe + era * 400) / 100 = 60 + 365 * (yoe + era * 400) +
      (yoe + era * 400) / 4 + (yoe + era * 400) / 400 + doy) :
    number = 719528 + days := by
  obtain ⟨hfour, hhundred, hcentury⟩ := leapDays_of_era era yoe
  have hsame : yoe / 400 = 0 := Nat.div_eq_of_lt hyear
  have hdays : era * 146097 ≤ days + 719468 := by
    rw [hera]
    exact Nat.div_mul_le_self _ _
  clear hera
  rw [hfour, hhundred, hcentury, hsame] at hnumber
  omega

/-- The timestamp printed for a second is the date-time of that second. -/
theorem formatRfc3339_eq_print (epochSecs : ℕ) :
    ∃ t : DateTime, t.secondNumber = unixEpoch.secondNumber + epochSecs ∧
      formatRfc3339 epochSecs = printRfc3339 t := by
  obtain ⟨days, hdays⟩ : ∃ d, d = epochSecs / 86400 := ⟨_, rfl⟩
  have hseconds : (719528 + days) * 86400 + (epochSecs % 86400 / 3600 * 3600 +
      (epochSecs % 86400 % 3600 / 60 * 60 + epochSecs % 86400 % 60)) =
        719528 * 86400 + epochSecs := by omega
  obtain ⟨era, hera⟩ : ∃ e, e = (days + 719468) / 146097 := ⟨_, rfl⟩
  obtain ⟨doe, hdoe⟩ : ∃ d, d = days + 719468 - era * 146097 := ⟨_, rfl⟩
  obtain ⟨yoe, hyoe⟩ :
      ∃ y, y = (doe - doe / 1460 + doe / 36524 - doe / 146096) / 365 := ⟨_, rfl⟩
  obtain ⟨doy, hdoy⟩ : ∃ d, d = doe - (365 * yoe + yoe / 4 - yoe / 100) := ⟨_, rfl⟩
  have hlt : doe < 146097 := by omega
  obtain ⟨hyear, hsplit, hday⟩ := dayOfEra_split era hlt hyoe hdoy
  obtain ⟨hmonth, hmonth', hday', hnumber⟩ := date_of_marchYear hday
  have hnumber' := dayNumber_of_era hera hdoe hyear hsplit hnumber
  refine ⟨⟨_, _, doy - (153 * ((5 * doy + 2) / 153) + 2) / 5 + 1, epochSecs % 86400 / 3600,
    epochSecs % 86400 % 3600 / 60, epochSecs % 86400 % 60, hmonth, hmonth',
    Nat.succ_pos _, hday', by omega, by omega, by omega⟩, ?_, ?_⟩
  · rw [unixEpoch_secondNumber, DateTime.secondNumber, DateTime.dayNumber, DateTime.dayOfYear,
      hnumber', DateTime.secondOfDay]
    exact hseconds
  · subst hdoy hyoe hdoe hera hdays
    rfl

/-! ## No operation leaves its type -/

section Checked

variable {α : Type} {value : ℤ} {n : ℕ}

/-- A value in range is a `u64`. -/
theorem u64_bind (hvalue : value = n) (hn : n < 2 ^ 64) (f : ℤ → Option α) :
    (u64 value).bind f = f n := by
  subst hvalue
  have hu64 : u64 n = some (n : ℤ) := if_pos ⟨Int.natCast_nonneg n, by omega⟩
  rw [hu64]
  rfl

theorem i64_bind (hvalue : value = n) (hn : n < 2 ^ 63) (f : ℤ → Option α) :
    (i64 value).bind f = f n := by
  subst hvalue
  have hi64 : i64 n = some (n : ℤ) := if_pos ⟨by omega, by omega⟩
  rw [hi64]
  rfl

/-- The month fits its type. -/
theorem monthChecked_bind {mp : ℕ} (hmp : mp < 2 ^ 32) (f : ℤ → Option α) :
    (if (mp : ℤ) < 10 then u64 (mp + 3) else u64 (mp - 9)).bind f =
      f (if mp < 10 then mp + 3 else mp - 9 : ℕ) := by
  by_cases hmarch : mp < 10
  · rw [if_pos (by omega), if_pos hmarch]
    exact u64_bind (by omega) (by omega) f
  · rw [if_neg (by omega), if_neg hmarch]
    exact u64_bind (by omega) (by omega) f

theorem yearChecked_bind (month : ℕ) {y : ℕ} (hy : y < 2 ^ 62) (f : ℤ → Option α) :
    (if (month : ℤ) ≤ 2 then i64 (y + 1) else some (y : ℤ)).bind f =
      f (if month ≤ 2 then y + 1 else y : ℕ) := by
  by_cases hmarch : month ≤ 2
  · rw [if_pos (by omega), if_pos hmarch]
    exact i64_bind (by omega) (by omega) f
  · rw [if_neg (by omega), if_neg hmarch]
    exact Option.bind_some _ f

end Checked

/-- No operation of `format_rfc3339` leaves its type. -/
theorem formatRfc3339Checked_eq {epochSecs : ℕ} (hsecs : epochSecs < 2 ^ 64) :
    formatRfc3339Checked epochSecs = some (formatRfc3339 epochSecs) := by
  obtain ⟨days, hdays⟩ : ∃ d, d = epochSecs / 86400 := ⟨_, rfl⟩
  obtain ⟨time, htime⟩ : ∃ t, t = epochSecs % 86400 := ⟨_, rfl⟩
  obtain ⟨era, hera⟩ : ∃ e, e = (days + 719468) / 146097 := ⟨_, rfl⟩
  obtain ⟨doe, hdoe⟩ : ∃ d, d = days + 719468 - era * 146097 := ⟨_, rfl⟩
  obtain ⟨yoe, hyoe⟩ :
      ∃ y, y = (doe - doe / 1460 + doe / 36524 - doe / 146096) / 365 := ⟨_, rfl⟩
  obtain ⟨doy, hdoy⟩ : ∃ d, d = doe - (365 * yoe + yoe / 4 - yoe / 100) := ⟨_, rfl⟩
  obtain ⟨mp, hmp⟩ : ∃ m, m = (5 * doy + 2) / 153 := ⟨_, rfl⟩
  obtain ⟨day, hday⟩ : ∃ d, d = doy - (153 * mp + 2) / 5 + 1 := ⟨_, rfl⟩
  obtain ⟨month, hmonth⟩ : ∃ m, m = if mp < 10 then mp + 3 else mp - 9 := ⟨_, rfl⟩
  obtain ⟨year, hyear⟩ : ∃ y, y = if month ≤ 2 then yoe + era * 400 + 1 else yoe + era * 400 :=
    ⟨_, rfl⟩
  have hprint : formatRfc3339 epochSecs =
      s!"{padZero 4 year}-{padZero 2 month}-{padZero 2 day}" ++
        s!"T{padZero 2 (time / 3600)}:{padZero 2 (time % 3600 / 60)}:{padZero 2 (time % 60)}Z" := by
    subst hyear hmonth hday hmp hdoy hyoe hdoe hera htime hdays
    rfl
  have hlt : doe < 146097 := by omega
  have hle := yearOfEra_le hlt hyoe
  obtain ⟨hyears, -, -⟩ := dayOfEra_split era hlt hyoe hdoy
  have heras : era < 2 ^ 40 := by omega
  have hdays' : doy ≤ doe := hdoy.trans_le (Nat.sub_le _ _)
  unfold formatRfc3339Checked
  dsimp only
  -- the time of the day
  rw [Option.bind_eq_bind, u64_bind rfl hsecs]
  rw [u64_bind (n := days) (by omega) (by omega)]
  rw [i64_bind rfl (by omega)]
  rw [u64_bind (n := time) (by omega) (by omega)]
  rw [u64_bind (n := time / 3600) (by omega) (by omega)]
  rw [u64_bind (n := time % 3600) (by omega) (by omega)]
  rw [u64_bind (n := time % 3600 / 60) (by omega) (by omega)]
  rw [u64_bind (n := time % 60) (by omega) (by omega)]
  -- the era and the day of the era
  rw [i64_bind (n := days + 719468) (by omega) (by omega)]
  rw [if_pos (by omega), Option.bind_some, Int.natCast_tdiv_eq_ediv]
  rw [i64_bind (n := era) (by omega) (by omega)]
  rw [i64_bind (n := era * 146097) (by omega) (by omega)]
  rw [i64_bind (n := doe) (by omega) (by omega)]
  clear hera hdoe hdays htime
  rw [u64_bind rfl (by omega)]
  -- the year of the era
  rw [u64_bind (n := doe / 1460) (by omega) (by omega)]
  rw [u64_bind (n := doe - doe / 1460) (by omega) (by omega)]
  rw [u64_bind (n := doe / 36524) (by omega) (by omega)]
  rw [u64_bind (n := doe - doe / 1460 + doe / 36524) (by omega) (by omega)]
  rw [u64_bind (n := doe / 146096) (by omega) (by omega)]
  rw [u64_bind (n := doe - doe / 1460 + doe / 36524 - doe / 146096) (by omega) (by omega)]
  rw [u64_bind (n := yoe) (by omega) (by omega)]
  rw [i64_bind rfl (by omega)]
  rw [i64_bind (n := era * 400) (by omega) (by omega)]
  rw [i64_bind (n := yoe + era * 400) (by omega) (by omega)]
  clear hyoe
  -- the day of the year
  rw [u64_bind (n := 365 * yoe) (by omega) (by omega)]
  rw [u64_bind (n := yoe / 4) (by omega) (by omega)]
  rw [u64_bind (n := 365 * yoe + yoe / 4) (by omega) (by omega)]
  rw [u64_bind (n := yoe / 100) (by omega) (by omega)]
  rw [u64_bind (n := 365 * yoe + yoe / 4 - yoe / 100) (by omega) (by omega)]
  rw [u64_bind (n := doy) (by omega) (by omega)]
  clear hdoy hle
  -- the month and the day of the month
  rw [u64_bind (n := 5 * doy) (by omega) (by omega)]
  rw [u64_bind (n := 5 * doy + 2) (by omega) (by omega)]
  rw [u64_bind (n := mp) (by omega) (by omega)]
  rw [u64_bind (n := 153 * mp) (by omega) (by omega)]
  rw [u64_bind (n := 153 * mp + 2) (by omega) (by omega)]
  rw [u64_bind (n := (153 * mp + 2) / 5) (by omega) (by omega)]
  rw [u64_bind (n := doy - (153 * mp + 2) / 5) (by omega) (by omega)]
  rw [u64_bind (n := day) (by omega) (by omega)]
  rw [monthChecked_bind (by omega), ← hmonth, yearChecked_bind month (by omega), ← hyear, hprint]
  rfl

/-! ## The printed text -/

/-- A padded number: its digits behind zeros. -/
theorem toList_padZero (width n : ℕ) :
    (padZero width n).toList =
      List.replicate (width - (Nat.toDigits 10 n).length) '0' ++ Nat.toDigits 10 n := by
  show (String.ofList (List.replicate (width - (Nat.repr n).length) '0') ++ Nat.repr n).toList = _
  rw [String.toList_append, String.toList_ofList, Nat.toList_repr, ← String.length_toList,
    Nat.toList_repr]

/-- It is a numeral. -/
theorem isNumeral_padZero (width n : ℕ) : Decimal.IsNumeral (padZero width n).toList := by
  intro c hc
  rw [toList_padZero] at hc
  rcases List.mem_append.mp hc with hzero | hdigit
  · rw [List.eq_of_mem_replicate hzero]
    rfl
  · exact Nat.isDigit_of_mem_toDigits (by decide) (by decide) hdigit

theorem value_padZero (width n : ℕ) : Decimal.value (padZero width n).toList = n := by
  rw [toList_padZero, Decimal.value_replicate_zero_append]
  exact Nat.ofDigitChars_ten_toDigits

theorem length_padZero {width n : ℕ} (hwidth : 0 < width) (hn : n < 10 ^ width) :
    (padZero width n).toList.length = width := by
  have hlength := (Nat.length_toDigits_le_iff (by decide) hwidth).mpr hn
  rw [toList_padZero, List.length_append, List.length_replicate]
  omega

/-- Padded to one width, a smaller number comes first. -/
theorem padZero_lt {width m n : ℕ} (hwidth : 0 < width) (hn : n < 10 ^ width) (hlt : m < n) :
    (padZero width m).toList < (padZero width n).toList := by
  apply Decimal.lt_of_value_lt (isNumeral_padZero width m) (isNumeral_padZero width n)
  · rw [length_padZero hwidth (hlt.trans hn), length_padZero hwidth hn]
  · rw [value_padZero, value_padZero]
    exact hlt

/-- A field and what is printed after it. -/
theorem padZero_append_lt {width m n : ℕ} (hwidth : 0 < width) (hm : m < 10 ^ width)
    (hn : n < 10 ^ width) (c : Char) {r s : List Char} (hlt : m < n ∨ m = n ∧ r < s) :
    (padZero width m).toList ++ c :: r < (padZero width n).toList ++ c :: s := by
  rcases hlt with hlt | ⟨rfl, hlt⟩
  · have hlength : (padZero width m).toList.length = (padZero width n).toList.length := by
      rw [length_padZero hwidth hm, length_padZero hwidth hn]
    exact Decimal.append_lt_append hlength (padZero_lt hwidth hn hlt) _ _
  · exact List.append_left_lt (List.cons_lt_cons_iff.mpr (Or.inr ⟨rfl, hlt⟩))

theorem padZero_injective {width m n : ℕ}
    (heq : (padZero width m).toList = (padZero width n).toList) : m = n := by
  rw [← value_padZero width m, heq, value_padZero]

/-- A field of two digits can be read off a text. -/
theorem padZero_append_inj {m n : ℕ} {r s : List Char} (hm : m < 10 ^ 2) (hn : n < 10 ^ 2)
    (heq : (padZero 2 m).toList ++ r = (padZero 2 n).toList ++ s) : m = n ∧ r = s := by
  have hlength : (padZero 2 m).toList.length = (padZero 2 n).toList.length := by
    rw [length_padZero (by decide) hm, length_padZero (by decide) hn]
  obtain ⟨hnumeral, hrest⟩ := List.append_inj heq hlength
  exact ⟨padZero_injective hnumeral, hrest⟩

/-- The fields and separators of a printed date-time. -/
theorem toList_printRfc3339 (t : DateTime) :
    (printRfc3339 t).toList = (padZero 4 t.year).toList ++ '-' :: ((padZero 2 t.month).toList ++
      '-' :: ((padZero 2 t.day).toList ++ 'T' :: ((padZero 2 t.hour).toList ++
        ':' :: ((padZero 2 t.minute).toList ++ ':' :: ((padZero 2 t.second).toList ++ ['Z'])))))
    := by
  have hdash : "-".toList = ['-'] := rfl
  have htime : "T".toList = ['T'] := rfl
  have hcolon : ":".toList = [':'] := rfl
  have hzone : "Z".toList = ['Z'] := rfl
  show (padZero 4 t.year ++ "-" ++ padZero 2 t.month ++ "-" ++ padZero 2 t.day ++
    ("T" ++ padZero 2 t.hour ++ ":" ++ padZero 2 t.minute ++ ":" ++ padZero 2 t.second ++
      "Z")).toList = _
  simp only [String.toList_append, hdash, htime, hcolon, hzone, List.append_assoc,
    List.cons_append, List.nil_append]

/-- Every field but the year has two digits at most. -/
theorem dateTime_lt_hundred (t : DateTime) :
    t.month < 10 ^ 2 ∧ t.day < 10 ^ 2 ∧ t.hour < 10 ^ 2 ∧ t.minute < 10 ^ 2 ∧
      t.second < 10 ^ 2 := by
  have hlength : monthLength t.year t.month ≤ 31 := by
    unfold monthLength
    split <;> [split; split] <;> omega
  have hday := t.day_le
  have hmonth := t.month_le
  have hhour := t.hour_lt
  have hminute := t.minute_lt
  have hsecond := t.second_lt
  omega

/-- Different date-times are printed differently. -/
theorem printRfc3339_injective : Function.Injective printRfc3339 := by
  intro t u htu
  have htext := congrArg String.toList htu
  rw [toList_printRfc3339, toList_printRfc3339] at htext
  obtain ⟨hmonth, hday, hhour, hminute, hsecond⟩ := dateTime_lt_hundred t
  obtain ⟨hmonth', hday', hhour', hminute', hsecond'⟩ := dateTime_lt_hundred u
  have htwo {n : ℕ} (hn : n < 10 ^ 2) : (padZero 2 n).toList.length = 2 :=
    length_padZero (by decide) hn
  -- the year may have any number of digits, what follows it has sixteen characters
  obtain ⟨hyears, htext⟩ := List.append_inj' htext (by
    simp only [List.length_cons, List.length_append, htwo hmonth, htwo hday, htwo hhour,
      htwo hminute, htwo hsecond, htwo hmonth', htwo hday', htwo hhour', htwo hminute',
      htwo hsecond'])
  have hyears := padZero_injective hyears
  obtain ⟨hmonths, htext⟩ := padZero_append_inj hmonth hmonth' (List.cons.inj htext).2
  obtain ⟨hdays, htext⟩ := padZero_append_inj hday hday' (List.cons.inj htext).2
  obtain ⟨hhours, htext⟩ := padZero_append_inj hhour hhour' (List.cons.inj htext).2
  obtain ⟨hminutes, htext⟩ := padZero_append_inj hminute hminute' (List.cons.inj htext).2
  obtain ⟨hseconds, -⟩ := padZero_append_inj hsecond hsecond' (List.cons.inj htext).2
  cases t
  cases u
  simp only [DateTime.mk.injEq]
  exact ⟨hyears, hmonths, hdays, hhours, hminutes, hseconds⟩

/-- Up to the year 9999 earlier date-times come first. -/
theorem printRfc3339_lt {t u : DateTime} (hyear : u.year ≤ 9999) (htu : t.Before u) :
    printRfc3339 t < printRfc3339 u := by
  obtain ⟨hmonth, hday, hhour, hminute, hsecond⟩ := dateTime_lt_hundred t
  obtain ⟨hmonth', hday', hhour', hminute', hsecond'⟩ := dateTime_lt_hundred u
  have hyears : t.year ≤ u.year := by
    unfold DateTime.Before at htu
    omega
  rw [String.lt_iff_toList_lt, toList_printRfc3339, toList_printRfc3339]
  -- field by field, as `Before` compares them
  refine padZero_append_lt (by decide) (by omega) (by omega) _ (htu.imp_right ?_)
  refine And.imp_right fun htu => padZero_append_lt (by decide) hmonth hmonth' _ (htu.imp_right ?_)
  refine And.imp_right fun htu => padZero_append_lt (by decide) hday hday' _ (htu.imp_right ?_)
  refine And.imp_right fun htu => padZero_append_lt (by decide) hhour hhour' _ (htu.imp_right ?_)
  refine And.imp_right fun htu =>
    padZero_append_lt (by decide) hminute hminute' _ (htu.imp_right ?_)
  exact And.imp_right fun htu =>
    padZero_append_lt (by decide) hsecond hsecond' _ (Or.inl htu)

/-! ## `format_rfc3339` -/

/-- Every `u64` is printed as the one date-time it names, by operations that stay in their types.
Different seconds are printed differently, and up to the year 9999 later ones as greater
strings. -/
theorem formatRfc3339_calendar (epochSecs : ℕ) (hsecs : epochSecs < 2 ^ 64) :
    formatRfc3339Checked epochSecs = some (formatRfc3339 epochSecs) ∧
      ∃ t : DateTime, t.secondNumber = unixEpoch.secondNumber + epochSecs ∧
        (∀ u : DateTime, u.secondNumber = unixEpoch.secondNumber + epochSecs → u = t) ∧
        formatRfc3339 epochSecs = printRfc3339 t ∧
        (∀ other, formatRfc3339 other = formatRfc3339 epochSecs → other = epochSecs) ∧
        (t.year ≤ 9999 → ∀ earlier < epochSecs,
          formatRfc3339 earlier < formatRfc3339 epochSecs) := by
  obtain ⟨t, hnumber, hprint⟩ := formatRfc3339_eq_print epochSecs
  refine ⟨formatRfc3339Checked_eq hsecs, t, hnumber, fun u hu => ?_, hprint,
    fun other hother => ?_, fun hyear earlier hearlier => ?_⟩
  · exact DateTime.secondNumber_injective (hu.trans hnumber.symm)
  · obtain ⟨u, hnumber', hprint'⟩ := formatRfc3339_eq_print other
    obtain rfl : u = t := printRfc3339_injective (by rw [← hprint', hother, hprint])
    omega
  · obtain ⟨u, hnumber', hprint'⟩ := formatRfc3339_eq_print earlier
    rw [hprint, hprint']
    exact printRfc3339_lt hyear ((DateTime.secondNumber_lt_iff u t).mp (by omega))

/-- The last `u64` is printed like every other one. -/
theorem formatRfc3339_calendar_last :
    formatRfc3339Checked (2 ^ 64 - 1) = some (formatRfc3339 (2 ^ 64 - 1)) ∧
      ∃ t : DateTime, t.secondNumber = unixEpoch.secondNumber + (2 ^ 64 - 1) ∧
        (∀ u : DateTime, u.secondNumber = unixEpoch.secondNumber + (2 ^ 64 - 1) → u = t) ∧
        formatRfc3339 (2 ^ 64 - 1) = printRfc3339 t ∧
        (∀ other, formatRfc3339 other = formatRfc3339 (2 ^ 64 - 1) → other = 2 ^ 64 - 1) ∧
        (t.year ≤ 9999 → ∀ earlier < 2 ^ 64 - 1,
          formatRfc3339 earlier < formatRfc3339 (2 ^ 64 - 1)) :=
  formatRfc3339_calendar (2 ^ 64 - 1) (by decide)

end GvmGateway
