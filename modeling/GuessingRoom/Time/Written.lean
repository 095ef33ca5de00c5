import GuessingRoom.Text.Decimal
import GuessingRoom.Time.Instant

/-!
# The written form of an instant

Instants are written in Greenwich time, as date and time of day joined by a `T` and closed by a
`Z`. A year of other than four digits has a sign. The seconds have as many decimals as the place
asks for: six in storage, and in messages none, three, six or nine, whichever loses nothing.
-/

namespace GuessingRoom.Time

open Text (Decimal.write Decimal.writeFixed)

/-- Four digits, or a sign and at least four digits. -/
def writeYear (year : Int) : List Char :=
  if 0 ≤ year ∧ year ≤ 9999 then Decimal.writeFixed 4 year.toNat
  else
    (if year < 0 then '-' else '+') ::
      (if year.natAbs < 10000 then Decimal.writeFixed 4 year.natAbs
       else Decimal.write year.natAbs)

namespace Date

def write (d : Date) : List Char :=
  writeYear d.year ++ '-' :: (Decimal.writeFixed 2 d.month ++ '-' :: Decimal.writeFixed 2 d.day)

end Date

namespace Instant

/-- The first decimals of the second, after a point; none of them without the point. -/
def writeFraction (t : Instant) (places : Nat) : List Char :=
  if places = 0 then [] else '.' :: Decimal.writeFixed places (t.fraction / Nat.pow 10 (9 - places))

def writeWith (places : Nat) (t : Instant) : List Char :=
  t.date.write ++ 'T' ::
    (Decimal.writeFixed 2 t.hour ++ ':' ::
      (Decimal.writeFixed 2 t.minute ++ ':' ::
        (Decimal.writeFixed 2 t.secondOfMinute ++ t.writeFraction places ++ ['Z'])))

/-- How many decimals lose nothing, in groups of three. -/
def neededPlaces (t : Instant) : Nat :=
  if t.fraction = 0 then 0
  else if t.fraction % 1000000 = 0 then 3
  else if t.fraction % 1000 = 0 then 6
  else 9

/-- The form used in messages. -/
def write (t : Instant) : String := String.ofList (t.writeWith t.neededPlaces)

/-- The form used in storage, in which text order is time order. -/
def stored (t : Instant) : String := String.ofList (t.writeWith 6)

end Instant

end GuessingRoom.Time
