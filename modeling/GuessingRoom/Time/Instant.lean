import GuessingRoom.Time.Calendar

/-!
# Instants

A point in time, to the nanosecond, on a time line that counts every day as 86400 seconds. A leap
second is a longer last second of a minute: its nanoseconds run from one thousand million on.
-/

namespace GuessingRoom.Time

/-- The second at which the year -262143 begins. -/
def firstSecond : Int := Date.toDays ⟨-262143, 1, 1⟩ * 86400

/-- The last second of the year 262142. -/
def lastSecond : Int := Date.toDays ⟨262142, 12, 31⟩ * 86400 + 86399

structure Instant where
  /-- Seconds since the beginning of 1970. -/
  second : Int
  nano : Nat
  in_years : firstSecond ≤ second ∧ second ≤ lastSecond
  in_second : nano < 1000000000 ∨ nano < 2000000000 ∧ second % 60 = 59
deriving DecidableEq, Repr

namespace Instant

/-- The instant with the given second and nanosecond, if there is one. -/
def ofParts? (second : Int) (nano : Nat) : Option Instant :=
  if h : (firstSecond ≤ second ∧ second ≤ lastSecond) ∧
      (nano < 1000000000 ∨ nano < 2000000000 ∧ second % 60 = 59) then
    some ⟨second, nano, h.1, h.2⟩
  else none

theorem ofParts?_self (t : Instant) : ofParts? t.second t.nano = some t := by
  simp [ofParts?, t.in_years, t.in_second]

/-! ## Parts of the written form -/

def date (t : Instant) : Date := Date.ofDays (t.second / 86400)

def secondOfDay (t : Instant) : Nat := (t.second % 86400).toNat

def hour (t : Instant) : Nat := t.secondOfDay / 3600

def minute (t : Instant) : Nat := t.secondOfDay / 60 % 60

/-- The number of the second in its minute, which is 60 for a leap second. -/
def secondOfMinute (t : Instant) : Nat := t.secondOfDay % 60 + t.nano / 1000000000

/-- Nanoseconds since the beginning of the second, or of the leap second. -/
def fraction (t : Instant) : Nat := t.nano % 1000000000

/-- The instant at the last full microsecond. -/
def floorMicro (t : Instant) : Instant :=
  ⟨t.second, t.nano / 1000 * 1000, t.in_years, by have := t.in_second; omega⟩

/-- Whether the instant comes before the other or is the same. -/
def le (t u : Instant) : Bool := t.second < u.second || t.second == u.second && t.nano ≤ u.nano

end Instant

end GuessingRoom.Time
