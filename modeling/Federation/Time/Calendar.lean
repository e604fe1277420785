/-
  Federation.Time.Calendar
  ────────────────────────
  **THE CALENDAR.**

  Days are counted from 1 January 1970 in the proleptic Gregorian calendar.
  A date is named in one of three ways: year, month and day; year and day of
  the year; or ISO week year, week and weekday.  Each way is read into a day
  number, and a day number is shown as year, month and day.

  Main results:
    * `daysBefore_succ` — a year is as long as `daysInYear` says;
    * `yearOf_spec` — the year found for a day number contains the day.
-/

namespace Federation.Time

/-! ## §1. Years and months. -/

/-- Leap years: every fourth, but of the centuries only every fourth. -/
def isLeap (y : Int) : Bool := y % 4 == 0 && (y % 100 != 0 || y % 400 == 0)

def daysInYear (y : Int) : Int := if isLeap y then 366 else 365

/-- Days of the months of a year, January first. -/
def monthLengths (y : Int) : List Nat :=
  [31, if isLeap y then 29 else 28, 31, 30, 31, 30, 31, 31, 30, 31, 30, 31]

/-- Days of a month; zero for a number that is no month. -/
def daysInMonth (y : Int) (month : Nat) : Nat :=
  match month with
  | 0 => 0
  | m + 1 => (monthLengths y)[m]?.getD 0

/-- Days from 1 January 1970 to 1 January of a year. -/
def daysBefore (y : Int) : Int :=
  365 * (y - 1970) + (y + 3) / 4 - (y + 99) / 100 + (y + 399) / 400 - 478

/-- **The next year starts as many days later as the year is long.** -/
theorem daysBefore_succ (y : Int) : daysBefore (y + 1) = daysBefore y + daysInYear y := by
  unfold daysBefore daysInYear isLeap
  by_cases h4 : y % 4 = 0
  · by_cases h100 : y % 100 = 0
    · by_cases h400 : y % 400 = 0
      · simp [h4, h400]; omega
      · simp [h4, h100, h400]; omega
    · simp [h4, h100]; omega
  · simp [h4]; omega

/-! ## §2. From a named date to a day number. -/

/-- The day number of a year and a day of the year, the first being 1. -/
def ofOrdinal? (y : Int) (ordinal : Nat) : Option Int :=
  if 1 ≤ ordinal ∧ (ordinal : Int) ≤ daysInYear y then
    some (daysBefore y + ordinal - 1)
  else none

/-- Days of a year before one of its months. -/
def daysBeforeMonth (y : Int) (month : Nat) : Nat :=
  ((monthLengths y).take (month - 1)).foldl (· + ·) 0

/-- **The months make up the year.** -/
theorem daysBeforeMonth_thirteen (y : Int) : (daysBeforeMonth y 13 : Int) = daysInYear y := by
  unfold daysBeforeMonth monthLengths daysInYear
  cases isLeap y <;> rfl

/-- The day number of a year, month and day. -/
def ofCivil? (y : Int) (month day : Nat) : Option Int :=
  if 1 ≤ month ∧ month ≤ 12 ∧ 1 ≤ day ∧ day ≤ daysInMonth y month then
    some (daysBefore y + daysBeforeMonth y month + day - 1)
  else none

/-- The weekday of a day number: Monday is 0. -/
def weekday (n : Int) : Int := (n + 3) % 7

/-- The Monday of the first ISO week: the week of 4 January. -/
def firstMonday (y : Int) : Int :=
  let fourth := daysBefore y + 3
  fourth - weekday fourth

/-- Weeks of an ISO year. -/
def weeksInYear (y : Int) : Int := (firstMonday (y + 1) - firstMonday y) / 7

/-- The day number of an ISO week year, week and weekday, Monday being 1. -/
def ofWeek? (y : Int) (week weekday : Nat) : Option Int :=
  if 1 ≤ week ∧ (week : Int) ≤ weeksInYear y ∧ 1 ≤ weekday ∧ weekday ≤ 7 then
    some (firstMonday y + 7 * (week - 1) + (weekday - 1))
  else none

/-! ## §3. From a day number to a date. -/

/-- The year of a day number: the estimate by mean length is off by at most
one. -/
def yearOf (n : Int) : Int :=
  let y := (400 * (n + 719528)) / 146097
  if n < daysBefore y then y - 1
  else if daysBefore (y + 1) ≤ n then y + 1
  else y

/-- **The year found contains the day.** -/
theorem yearOf_spec (n : Int) :
    daysBefore (yearOf n) ≤ n ∧ n < daysBefore (yearOf n + 1) := by
  unfold yearOf
  simp only
  split
  · rename_i h
    refine ⟨?_, by simpa using h⟩
    unfold daysBefore at h ⊢
    omega
  · split
    · rename_i h1 h2
      refine ⟨h2, ?_⟩
      unfold daysBefore at h1 h2 ⊢
      omega
    · rename_i h1 h2
      exact ⟨by omega, by omega⟩

/-- Month and day of a day of the year counted from zero, walking along the
month lengths. -/
def monthDay : List Nat → Nat → Nat → Nat × Nat
  | [], month, rest => (month, rest + 1)
  | len :: lens, month, rest =>
      if rest < len then (month, rest + 1) else monthDay lens (month + 1) (rest - len)

/-- A date as it is shown. -/
structure Date where
  year : Int
  month : Nat
  day : Nat
  deriving DecidableEq, Repr

/-- The date of a day number. -/
def Date.ofDay (n : Int) : Date :=
  let y := yearOf n
  let (month, day) := monthDay (monthLengths y) 1 (n - daysBefore y).toNat
  ⟨y, month, day⟩

/-- The first and the last year that a date may lie in. -/
def minYear : Int := -9999
def maxYear : Int := 9999

/-- Whether a day number lies in the years of the calendar. -/
def inCalendar (n : Int) : Bool := daysBefore minYear ≤ n && n < daysBefore (maxYear + 1)

end Federation.Time
