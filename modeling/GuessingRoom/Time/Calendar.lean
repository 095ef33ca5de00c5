/-!
# The calendar

Dates of the Gregorian calendar, which is continued to years before its introduction and to the
year 0 and below. A date is counted by the days since 1 January 1970.
-/

namespace GuessingRoom.Time

def isLeapYear (year : Int) : Bool := year % 4 == 0 && (year % 100 != 0 || year % 400 == 0)

def daysInMonth (leap : Bool) (month : Nat) : Nat :=
  match month with
  | 2 => if leap then 29 else 28
  | 4 | 6 | 9 | 11 => 30
  | _ => 31

structure Date where
  year : Int
  month : Nat
  day : Nat
deriving DecidableEq, Repr

namespace Date

/-- Whether the calendar has the date. -/
def isReal (d : Date) : Bool :=
  1 ≤ d.month && d.month ≤ 12 && 1 ≤ d.day && d.day ≤ daysInMonth (isLeapYear d.year) d.month

end Date

/-! ## Counting days -/

/-- The days of the months before the given one. -/
def daysBeforeMonth (leap : Bool) : Nat → Nat
  | 0 => 0
  | 1 => 0
  | month + 1 => daysBeforeMonth leap month + daysInMonth leap month

/-- The days from 1 January of the year 0 to 1 January of the given year. -/
def daysBeforeYear (year : Int) : Int :=
  365 * year + (year + 3) / 4 - (year + 99) / 100 + (year + 399) / 400

/-- The days from 1 January of the year 0 to 1 January 1970. -/
def epochDay : Int := 719528

namespace Date

def toDays (d : Date) : Int :=
  daysBeforeYear d.year + daysBeforeMonth (isLeapYear d.year) d.month + d.day - 1 - epochDay

end Date

/-! ## From a count to a date -/

/-- The days of 400 years, after which the calendar repeats. -/
def daysPerCycle : Int := 146097

/-- The year in which the given day since 1 January of the year 0 lies. A year has at most 366
days, so that dividing by 366 is at most one year short within a cycle. -/
def yearOfDay (day : Int) : Int :=
  let start := 400 * (day / daysPerCycle)
  let guess := start + day % daysPerCycle / 366
  if daysBeforeYear (guess + 1) ≤ day then guess + 1 else guess

/-- The month and the day in it, of the given day of the year; the first month in question is
given, and how many there are from it on. -/
def monthOfDay (leap : Bool) : Nat → Nat → Nat → Nat × Nat
  | 0, month, day => (month, day + 1)
  | left + 1, month, day =>
    if day < daysInMonth leap month then (month, day + 1)
    else monthOfDay leap left (month + 1) (day - daysInMonth leap month)

namespace Date

def ofDays (days : Int) : Date :=
  let day := days + epochDay
  let year := yearOfDay day
  let (month, day) := monthOfDay (isLeapYear year) 11 1 (day - daysBeforeYear year).toNat
  ⟨year, month, day⟩

end Date

end GuessingRoom.Time
