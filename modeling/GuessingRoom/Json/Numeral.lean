import GuessingRoom.Text.Decimal

/-!
# Number literals

A number literal is a whole part without leading zeros, an optional fraction and an optional
exponent. Only literals without the last two stand for whole numbers.
-/

namespace GuessingRoom.Json

open Text (Decimal.isDigit Decimal.value)

/-- The parts of a number literal; an exponent has a sign and digits. -/
structure Numeral where
  negative : Bool
  whole : List Char
  fraction : Option (List Char)
  exponent : Option (Bool × List Char)
deriving DecidableEq, Repr

namespace Numeral

/-! ## Scanning -/

def scanDigits (cs : List Char) : List Char × List Char :=
  (cs.takeWhile Decimal.isDigit, cs.dropWhile Decimal.isDigit)

/-- One or more digits. -/
def scanDigits? (cs : List Char) : Option (List Char × List Char) :=
  match scanDigits cs with
  | ([], _) => none
  | (ds, rest) => some (ds, rest)

/-- The whole part: a zero that no digit follows, or digits that begin with another one. -/
def scanWhole (cs : List Char) : Option (List Char × List Char) :=
  match scanDigits cs with
  | ([], _) => none
  | ('0' :: _ :: _, _) => none
  | (ds, rest) => some (ds, rest)

def scanFraction : List Char → Option (Option (List Char) × List Char)
  | '.' :: rest => (scanDigits? rest).map fun (ds, rest) => (some ds, rest)
  | cs => some (none, cs)

/-- The sign of an exponent, whether it is negative. -/
def scanSign : List Char → Bool × List Char
  | '+' :: rest => (false, rest)
  | '-' :: rest => (true, rest)
  | cs => (false, cs)

def scanExponent : List Char → Option (Option (Bool × List Char) × List Char)
  | c :: rest =>
    if c = 'e' ∨ c = 'E' then
      (scanDigits? (scanSign rest).2).map fun (ds, left) => (some ((scanSign rest).1, ds), left)
    else some (none, c :: rest)
  | [] => some (none, [])

def scanMagnitude (negative : Bool) (cs : List Char) : Option (Numeral × List Char) := do
  let (whole, cs) ← scanWhole cs
  let (fraction, cs) ← scanFraction cs
  let (exponent, cs) ← scanExponent cs
  some (⟨negative, whole, fraction, exponent⟩, cs)

/-- The number literal at the front of a text. -/
def scan : List Char → Option (Numeral × List Char)
  | '-' :: rest => scanMagnitude true rest
  | cs => scanMagnitude false cs

/-! ## Values -/

/-- The whole number the literal stands for. A minus sign before zero makes the literal one of a
fractional kind, which has a negative zero. -/
def toInt? (n : Numeral) : Option Int :=
  match n.fraction, n.exponent with
  | none, none =>
    let magnitude := Decimal.value n.whole
    if n.negative then (if magnitude = 0 then none else some (-magnitude)) else some magnitude
  | _, _ => none

/-- All digits of the literal, without the point. -/
def significand (n : Numeral) : Nat := Decimal.value (n.whole ++ n.fraction.getD [])

/-- The power of ten by which the significand is to be multiplied. -/
def scale (n : Numeral) : Int :=
  let power : Int := match n.exponent with
    | some (true, ds) => -Decimal.value ds
    | some (false, ds) => Decimal.value ds
    | none => 0
  power - (n.fraction.getD []).length

/-- The least number that a double-precision one cannot come near: halfway from the largest of them
to the next power of two. -/
def hugeBound : Nat := Nat.pow 2 1024 - Nat.pow 2 970

/-- Whether the number is too large for a double-precision one. A scale far out of proportion to the
digits decides by itself. -/
def isHuge (n : Numeral) : Bool :=
  let digits := n.whole.length + (n.fraction.getD []).length
  n.significand != 0 &&
    (if 400 < n.scale then true
     else if 0 ≤ n.scale then hugeBound ≤ n.significand * Nat.pow 10 n.scale.natAbs
     else n.scale.natAbs < digits + 400 &&
      hugeBound * Nat.pow 10 n.scale.natAbs ≤ n.significand)

end Numeral

end GuessingRoom.Json
