import Mathlib

/-!
# Timestamps

Times are seconds since the Unix epoch. The clock is a parameter of everything that reads it.
-/

namespace GvmGateway

/-- `{n:0width}` of the Rust formatter for a number without sign. -/
def padZero (width n : ℕ) : String :=
  let digits := Nat.repr n
  String.ofList (List.replicate (width - digits.length) '0') ++ digits

/-- `format_rfc3339`: the civil date of the day by days since the epoch, counted in eras of
400 years that start on the first of March. Every intermediate value is non-negative, so
`ℕ` stands for both the `u64` and the `i64` of the source. -/
def formatRfc3339 (epochSecs : ℕ) : String :=
  let secsPerDay := 86400
  let days := epochSecs / secsPerDay
  let timeSecs := epochSecs % secsPerDay
  let hours := timeSecs / 3600
  let minutes := timeSecs % 3600 / 60
  let seconds := timeSecs % 60
  -- days since 0000-03-01, in eras of 400 years
  let z := days + 719468
  let era := z / 146097
  let doe := z - era * 146097
  let yoe := (doe - doe / 1460 + doe / 36524 - doe / 146096) / 365
  let y := yoe + era * 400
  let doy := doe - (365 * yoe + yoe / 4 - yoe / 100)
  -- months from March on
  let mp := (5 * doy + 2) / 153
  let day := doy - (153 * mp + 2) / 5 + 1
  let month := if mp < 10 then mp + 3 else mp - 9
  let year := if month ≤ 2 then y + 1 else y
  s!"{padZero 4 year}-{padZero 2 month}-{padZero 2 day}" ++
    s!"T{padZero 2 hours}:{padZero 2 minutes}:{padZero 2 seconds}Z"

/-- `{n:0width}` for a signed number. -/
def padSigned (width : ℕ) : ℤ → String
  | .ofNat n => padZero width n
  | .negSucc n => "-" ++ padZero (width - 1) (n + 1)

/-- The value of a `u64` operation or of a cast to `u64`, if it is one. -/
def u64 (value : ℤ) : Option ℤ := if 0 ≤ value ∧ value < 2 ^ 64 then some value else none

/-- The value of an `i64` operation or of a cast to `i64`, if it is one. -/
def i64 (value : ℤ) : Option ℤ :=
  if -2 ^ 63 ≤ value ∧ value < 2 ^ 63 then some value else none

/-- `format_rfc3339` in the machine's integers, every operation and every cast checked. -/
def formatRfc3339Checked (epochSecs : ℕ) : Option String := do
  let epochSecs ← u64 epochSecs
  let secsPerDay := 86400
  let days ← i64 (← u64 (epochSecs / secsPerDay))
  let timeSecs ← u64 (epochSecs % secsPerDay)
  let hours ← u64 (timeSecs / 3600)
  let minutes ← u64 ((← u64 (timeSecs % 3600)) / 60)
  let seconds ← u64 (timeSecs % 60)
  let z ← i64 (days + 719468)
  -- the division of `i64` rounds toward zero
  let era ← i64 ((← (if z ≥ 0 then some z else i64 (z - 146096))).tdiv 146097)
  let doe ← u64 (← i64 (z - (← i64 (era * 146097))))
  let shortened ← u64 (doe - (← u64 (doe / 1460)))
  let lengthened ← u64 (shortened + (← u64 (doe / 36524)))
  let yoe ← u64 ((← u64 (lengthened - (← u64 (doe / 146096)))) / 365)
  let y ← i64 ((← i64 yoe) + (← i64 (era * 400)))
  -- the days of the era before this year
  let leapDays ← u64 ((← u64 ((← u64 (365 * yoe)) + (← u64 (yoe / 4)))) - (← u64 (yoe / 100)))
  let doy ← u64 (doe - leapDays)
  let mp ← u64 ((← u64 ((← u64 (5 * doy)) + 2)) / 153)
  let before ← u64 ((← u64 ((← u64 (153 * mp)) + 2)) / 5)
  let day ← u64 ((← u64 (doy - before)) + 1)
  let month ← (if mp < 10 then u64 (mp + 3) else u64 (mp - 9))
  let year ← (if month ≤ 2 then i64 (y + 1) else some y)
  return s!"{padSigned 4 year}-{padSigned 2 month}-{padSigned 2 day}" ++
    s!"T{padSigned 2 hours}:{padSigned 2 minutes}:{padSigned 2 seconds}Z"

end GvmGateway
