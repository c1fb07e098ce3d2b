/-!
# The calendar

Days are counted from the first of January 1970, which is day 0, and dated by the Gregorian calendar
extended to all years, the year 0 and negative ones included. The calendar repeats every 400 years, so
a day is placed by passing whole cycles, then the years of a cycle, then the months of a year. The day
that a date names is counted over the same spans, which is why the two directions agree.
-/

namespace Environments.Time

/-- Every fourth year is a leap year, but of the full centuries only every fourth. -/
def isLeap (year : Int) : Bool :=
  year % 4 = 0 && (year % 100 ≠ 0 || year % 400 = 0)

def monthLengths (year : Int) : List Nat :=
  [31, if isLeap year then 29 else 28, 31, 30, 31, 30, 31, 31, 30, 31, 30, 31]

/-- The lengths of the years of a cycle, from a year divisible by 400 on, in days. -/
def yearLengths : List Nat :=
  (List.range 400).map fun (year : Nat) => if isLeap year then 366 else 365

/-- The length of a cycle, in days. -/
def cycleLength : Int := 146097

/-- The days from the first day of the year 0 to day 0. -/
def daysBeforeEpoch : Int := 719528

def total (spans : List Nat) : Nat := spans.foldr (· + ·) 0

/-- Passes as many spans of the given lengths as the days fill: the number of spans that are over, and
the days that are left. -/
def passSpans : List Nat → Nat → Nat × Nat
  | [], days => (0, days)
  | length :: rest, days =>
    if days < length then (0, days)
    else ((passSpans rest (days - length)).1 + 1, (passSpans rest (days - length)).2)

/-- A day of the calendar. Months and days of the month count from 1. -/
structure Date where
  year : Int
  month : Nat
  day : Nat
  deriving DecidableEq, Repr

/-- The date of a day. -/
def Date.ofDay (day : Int) : Date :=
  let sinceYearZero := day + daysBeforeEpoch
  let inCycle := passSpans yearLengths (sinceYearZero % cycleLength).toNat
  let year := 400 * (sinceYearZero / cycleLength) + inCycle.1
  let inYear := passSpans (monthLengths year) inCycle.2
  ⟨year, inYear.1 + 1, inYear.2 + 1⟩

/-- The number of the first day of a year. -/
def firstDay (year : Int) : Int :=
  cycleLength * (year / 400) + total (yearLengths.take (year % 400).toNat) - daysBeforeEpoch

/-- The number of the day that a date names. -/
def Date.toDay (d : Date) : Int :=
  firstDay d.year + total ((monthLengths d.year).take (d.month - 1)) + (d.day - 1 : Nat)

/-- Whether the calendar has the date. -/
def Date.isValid (d : Date) : Bool :=
  1 ≤ d.month && d.month ≤ 12 && 1 ≤ d.day && d.day ≤ (monthLengths d.year).getD (d.month - 1) 0

/-- What is passed and what is left make up what there was. -/
theorem sum_take_passSpans (spans : List Nat) (days : Nat) :
    total (spans.take (passSpans spans days).1) + (passSpans spans days).2 = days := by
  induction spans generalizing days with
  | nil => simp [passSpans, total]
  | cons length rest ih =>
    by_cases h : days < length
    · simp [passSpans, total, h]
    · have := ih (days - length)
      simp only [passSpans, h, if_false, List.take_succ_cons, total, List.foldr_cons] at this ⊢
      omega

end Environments.Time
