import Mathlib.Data.Nat.Digits.Defs

/-!
# Time — UTC instants and their text

`OffsetDateTime` of the event log is always UTC, so the offset is left out.  The fields carry their
ranges; years outside 0 to 9999 are instants that RFC 3339 cannot print.
-/

namespace KidProxy

def isLeapYear (year : ℤ) : Bool := year % 4 = 0 && (year % 100 ≠ 0 || year % 400 = 0)

def daysInMonth (year : ℤ) (month : ℕ) : ℕ :=
  if month = 2 then if isLeapYear year then 29 else 28
  else if month = 4 ∨ month = 6 ∨ month = 9 ∨ month = 11 then 30
  else 31

structure OffsetDateTime where
  year : ℤ
  month : ℕ
  day : ℕ
  hour : ℕ
  minute : ℕ
  second : ℕ
  nanosecond : ℕ
  valid : -9999 ≤ year ∧ year ≤ 9999 ∧ 1 ≤ month ∧ month ≤ 12 ∧ 1 ≤ day ∧
    day ≤ daysInMonth year month ∧ hour < 24 ∧ minute < 60 ∧ second < 60 ∧ nanosecond < 1000000000
  deriving DecidableEq

namespace OffsetDateTime

/-- Days since 1970-01-01 in the proleptic Gregorian calendar; the year starts in March here, so that
the leap day is its last one. -/
def unixDays (t : OffsetDateTime) : ℤ :=
  let y := if t.month ≤ 2 then t.year - 1 else t.year
  let era := y.fdiv 400
  let yearOfEra := y - era * 400
  let monthFromMarch := (t.month + 9) % 12
  let dayOfYear := (153 * monthFromMarch + 2) / 5 + t.day - 1
  era * 146097 + yearOfEra * 365 + yearOfEra / 4 - yearOfEra / 100 + dayOfYear - 719468

def unixNanos (t : OffsetDateTime) : ℤ :=
  ((t.unixDays * 24 + t.hour) * 60 + t.minute) * 60000000000 + t.second * 1000000000 + t.nanosecond

/-- `duration_ms_i64(t - s)`: whole milliseconds, towards zero. -/
def millisSince (t s : OffsetDateTime) : ℤ := (t.unixNanos - s.unixNanos).tdiv 1000000

/-- A number in decimal, with zeros in front up to `width` digits. -/
def padded (width n : ℕ) : List Char :=
  let digits := Nat.toDigits 10 n
  List.replicate (width - digits.length) '0' ++ digits

/-- The fractional second without trailing zeros, and nothing at all when it is zero. -/
def fraction (nanosecond : ℕ) : List Char :=
  if nanosecond = 0 then []
  else '.' :: ((padded 9 nanosecond).reverse.dropWhile (· = '0')).reverse

/-- `format(&Rfc3339)`. -/
def formatRfc3339 (t : OffsetDateTime) : Option String :=
  if 0 ≤ t.year then
    some (String.ofList (padded 4 t.year.toNat ++ '-' :: padded 2 t.month ++ '-' :: padded 2 t.day ++
      'T' :: padded 2 t.hour ++ ':' :: padded 2 t.minute ++ ':' :: padded 2 t.second ++
      fraction t.nanosecond ++ ['Z']))
  else none

theorem formatRfc3339_isSome {t : OffsetDateTime} : t.formatRfc3339.isSome ↔ 0 ≤ t.year := by
  unfold formatRfc3339
  by_cases h : 0 ≤ t.year
  · simp [h]
  · simp [h]

example : (⟨2024, 2, 29, 7, 5, 0, 120000000, by decide⟩ : OffsetDateTime).formatRfc3339 =
    some "2024-02-29T07:05:00.12Z" := by decide

example : (⟨2024, 3, 1, 0, 0, 0, 0, by decide⟩ : OffsetDateTime).unixDays = 19783 := by decide

end OffsetDateTime

def sampleTime : OffsetDateTime := ⟨2026, 1, 2, 3, 4, 5, 0, by decide⟩

end KidProxy
