import GuessingRoom.Text.Blank
import GuessingRoom.Time.Offset

/-!
# Reading a time in a message

Messages are read with more latitude than the store: parts may have fewer digits and spaces before
them, a year may have a sign and any number of digits, and the offset may be the letters UTC.
-/

namespace GuessingRoom.Time

open Text (Decimal.isDigit Decimal.value trimStart)

/-- At least one digit and at most so many, as a number. -/
def takeNumber (width : Nat) (cs : List Char) : Option (Nat × List Char) :=
  match (cs.take width).takeWhile Decimal.isDigit with
  | [] => none
  | ds => some (Decimal.value ds, cs.drop ds.length)

/-- A year: up to four digits, or a sign and any number of digits. -/
def takeYear (cs : List Char) : Option (Int × List Char) :=
  match trimStart cs with
  | '-' :: rest => (takeNumber rest.length rest).map fun (n, rest) => (-(n : Int), rest)
  | '+' :: rest => (takeNumber rest.length rest).map fun (n, rest) => ((n : Int), rest)
  | cs => (takeNumber 4 cs).map fun (n, rest) => ((n : Int), rest)

/-- One or two digits after optional spaces. -/
def takePart (cs : List Char) : Option (Nat × List Char) := takeNumber 2 (trimStart cs)

/-- The given mark after optional spaces. -/
def takeMark (mark : Char) (cs : List Char) : Option (List Char) :=
  match trimStart cs with
  | c :: rest => if c = mark then some rest else none
  | [] => none

def takeFraction : List Char → Option (Nat × List Char)
  | '.' :: rest => (readDecimals rest).toOption
  | cs => some (0, cs)

def takeDate (cs : List Char) : Option (Date × List Char) := do
  let (year, cs) ← takeYear cs
  let cs ← takeMark '-' cs
  let (month, cs) ← takePart cs
  let cs ← takeMark '-' cs
  let (day, cs) ← takePart cs
  some (⟨year, month, day⟩, cs)

def takeLocal (cs : List Char) : Option (LocalTime × List Char) := do
  let (date, cs) ← takeDate cs
  let cs ← match cs with
    | c :: rest => if c = 'T' ∨ c = 't' ∨ c = ' ' then some rest else none
    | [] => none
  let (hour, cs) ← takePart cs
  let cs ← takeMark ':' cs
  let (minute, cs) ← takePart cs
  let cs ← takeMark ':' cs
  let (second, cs) ← takePart cs
  let (fraction, cs) ← takeFraction cs
  some (⟨date, hour, minute, second, fraction⟩, cs)

/-- The separator of hours and minutes: any colons and spaces, or nothing. -/
def skipSeparator (cs : List Char) : Except TimeFault (List Char) :=
  .ok (cs.dropWhile fun c => c = ':' || Text.isBlank c)

/-- An offset in minutes, or the letters UTC in any case. -/
def takeOffset (cs : List Char) : Option (Int × List Char) :=
  match trimStart cs with
  | a :: b :: c :: rest =>
    if a.toUpper = 'U' ∧ b.toUpper = 'T' ∧ c.toUpper = 'C' then some (0, rest)
    else (readOffset skipSeparator (a :: b :: c :: rest)).toOption
  | cs => (readOffset skipSeparator cs).toOption

/-- The instant that a text in a message tells. -/
def readLenient? (raw : String) : Option Instant := do
  let (clock, cs) ← takeLocal raw.toList
  let (offset, cs) ← takeOffset cs
  if (trimStart cs).isEmpty && clock.date.isReal && clock.isClockTime && isOffset offset then
    clock.at? offset
  else none

end GuessingRoom.Time
