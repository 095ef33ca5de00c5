import GuessingRoom.Time.Offset

/-!
# Reading a stored time

The storage format: four digits for the year, two for each other part, fixed marks between them,
an optional fraction of a second and an offset from Greenwich time.
-/

namespace GuessingRoom.Time

/-- One of the given characters. -/
def expectOne (allowed : List Char) : List Char → Except TimeFault (List Char)
  | c :: rest => if allowed.contains c then .ok rest else .error .invalid
  | [] => .error .tooShort

/-- A date, followed by a `T` or a space. -/
def readStoredDate (cs : List Char) : Except TimeFault (Date × List Char) := do
  let (century, cs) ← readPair cs
  let (year, cs) ← readPair cs
  let cs ← expectOne ['-'] cs
  let (month, cs) ← readPair cs
  let cs ← expectOne ['-'] cs
  let (day, cs) ← readPair cs
  let date : Date := ⟨100 * century + year, month, day⟩
  if !date.isReal then throw .outOfRange
  let cs ← expectOne ['T', 't', ' '] cs
  .ok (date, cs)

/-- The time of a local clock at the front of the text. -/
def readStoredLocal (cs : List Char) : Except TimeFault (LocalTime × List Char) := do
  let (date, cs) ← readStoredDate cs
  let (hour, cs) ← readPair cs
  let cs ← expectOne [':'] cs
  let (minute, cs) ← readPair cs
  let cs ← expectOne [':'] cs
  let (second, cs) ← readPair cs
  let (fraction, cs) ← match cs with
    | '.' :: rest => readDecimals rest
    | cs => .ok (0, cs)
  let clock : LocalTime := ⟨date, hour, minute, second, fraction⟩
  if clock.isClockTime then .ok (clock, cs) else .error .outOfRange

/-- The instant that a stored text tells. -/
def readStored (raw : String) : Except TimeFault Instant := do
  if raw.utf8ByteSize < 19 then throw .tooShort
  let (clock, cs) ← readStoredLocal raw.toList
  let (offset, cs) ← readOffset (expectOne [':']) cs
  if !isOffset offset then throw .outOfRange
  if !cs.isEmpty then throw .tooLong
  match clock.at? offset with
  | some t => .ok t
  | none => .error .outOfRange

end GuessingRoom.Time
