import GuessingRoom.Text.Decimal
import GuessingRoom.Time.Instant

/-!
# Local times

A time of day with its date, as a clock of some place shows it, and the offset of that clock from
Greenwich time: the parts of which a written instant consists.
-/

namespace GuessingRoom.Time

open Text (Decimal.isDigit Decimal.digitValue)

/-- Why a text does not tell an instant. -/
inductive TimeFault where
  | tooShort
  | invalid
  | outOfRange
  | tooLong
deriving DecidableEq, Repr

namespace TimeFault

def message : TimeFault → String
  | tooShort => "premature end of input"
  | invalid => "input contains invalid characters"
  | outOfRange => "input is out of range"
  | tooLong => "trailing input"

end TimeFault

/-- What a local clock shows; the second may be 60. -/
structure LocalTime where
  date : Date
  hour : Nat
  minute : Nat
  second : Nat
  /-- Nanoseconds since the beginning of the second. -/
  fraction : Nat

namespace LocalTime

/-- Whether a clock can show the time of day. -/
def isClockTime (t : LocalTime) : Bool :=
  t.hour < 24 && t.minute < 60 && t.second ≤ 60 && t.fraction < 1000000000

/-- Seconds since the beginning of 1970 on the local clock; a 60th second still counts as the one
before it. -/
def toSeconds (t : LocalTime) : Int :=
  t.date.toDays * 86400 + t.hour * 3600 + t.minute * 60 + min t.second 59

def nano (t : LocalTime) : Nat := t.fraction + if t.second = 60 then 1000000000 else 0

/-- The instant at which a clock so many minutes ahead of Greenwich shows the time. -/
def at? (t : LocalTime) (offset : Int) : Option Instant :=
  if -262143 ≤ t.date.year ∧ t.date.year ≤ 262142 then
    Instant.ofParts? (t.toSeconds - offset * 60) t.nano
  else none

end LocalTime

/-! ## Offsets -/

/-- Two digits; the fault of finding something else at the end of the text or before it. -/
def readPair : List Char → Except TimeFault (Nat × List Char)
  | a :: b :: rest =>
    if Decimal.isDigit a && Decimal.isDigit b then
      .ok (10 * Decimal.digitValue a + Decimal.digitValue b, rest)
    else .error .invalid
  | [c] => if c.toNat < 128 then .error .tooShort else .error .invalid
  | [] => .error .tooShort

/-- The minutes of an offset, of which there are fewer than sixty. -/
def readOffsetMinutes (cs : List Char) : Except TimeFault (Nat × List Char) := do
  let (minutes, rest) ← readPair cs
  if minutes < 60 then .ok (minutes, rest) else .error .outOfRange

/-- An offset in minutes: a `Z`, or a sign, hours and minutes with a separator that the given
reader takes. A minus sign may be the typographic one. -/
def readOffset (separator : List Char → Except TimeFault (List Char)) :
    List Char → Except TimeFault (Int × List Char)
  | [] => .error .tooShort
  | c :: rest =>
    if c = 'Z' ∨ c = 'z' then .ok (0, rest)
    else if c = '+' ∨ c = '-' ∨ c = '\u2212' then do
      let (hours, rest) ← readPair rest
      let rest ← separator rest
      let (minutes, rest) ← readOffsetMinutes rest
      let offset : Int := 60 * hours + minutes
      .ok (if c = '+' then offset else -offset, rest)
    else .error .invalid

/-- Whether a clock may be so many minutes ahead of Greenwich. -/
def isOffset (offset : Int) : Bool := -1440 < offset && offset < 1440

/-! ## Decimals of a second -/

/-- The nanoseconds that up to nine decimals stand for; further decimals are passed over. -/
def readDecimals (cs : List Char) : Except TimeFault (Nat × List Char) :=
  match cs.takeWhile Decimal.isDigit with
  | [] => if cs.isEmpty then .error .tooShort else .error .invalid
  | ds =>
    let kept := ds.take 9
    .ok (Text.Decimal.value kept * Nat.pow 10 (9 - kept.length), cs.dropWhile Decimal.isDigit)

end GuessingRoom.Time
