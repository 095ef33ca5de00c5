import GuessingRoom.Store.Relational.Row
import GuessingRoom.Text.Decimal

/-!
# Texts in a column of numbers

A text put into a column of whole numbers becomes the number it spells, if it spells one: a whole
number, or one with a fraction or an exponent that is whole all the same.
-/

namespace GuessingRoom.Cell

open Text (Decimal.isDigit Decimal.value)

/-- The white space allowed around a number. -/
def isPadding (c : Char) : Bool := c = ' ' || 9 ≤ c.toNat && c.toNat ≤ 13

def takeSign : List Char → Bool × List Char
  | '-' :: rest => (true, rest)
  | '+' :: rest => (false, rest)
  | cs => (false, cs)

/-- The power of ten at the end of a number, which is zero where none is given. -/
def takePower : List Char → Option Int
  | [] => some 0
  | c :: rest =>
    let (negative, ds) := takeSign rest
    if (c = 'e' ∨ c = 'E') ∧ ds ≠ [] ∧ ds.all Decimal.isDigit then
      some (if negative then -(Decimal.value ds : Int) else Decimal.value ds)
    else none

/-- The digits of a number and the power of ten by which they are to be multiplied. -/
def magnitude? (cs : List Char) : Option (Nat × Int) := do
  let whole := cs.takeWhile Decimal.isDigit
  let rest := cs.dropWhile Decimal.isDigit
  let (decimals, rest) := match rest with
    | '.' :: rest => (rest.takeWhile Decimal.isDigit, rest.dropWhile Decimal.isDigit)
    | rest => ([], rest)
  if whole.isEmpty && decimals.isEmpty then none
  else
    let power ← takePower rest
    some (Decimal.value (whole ++ decimals), power - decimals.length)

/-- A number given by its digits and a power of ten; beyond 64 bits it is no longer whole. -/
def ofMagnitude (negative : Bool) (digits : Nat) (power : Int) : Cell :=
  if digits = 0 then .whole 0
  else if 64 < power then .real
  else
    let shift := Nat.pow 10 power.natAbs
    let scaled := if power < 0 then digits / shift else digits * shift
    let exact := 0 ≤ power || digits % shift == 0
    let n : Int := if negative then -scaled else scaled
    if exact && -9223372036854775808 ≤ n && n ≤ 9223372036854775807 then .whole n else .real

/-- What becomes of a text. -/
def ofText (s : String) : Cell :=
  let cs := ((s.toList.dropWhile isPadding).reverse.dropWhile isPadding).reverse
  let (negative, cs) := takeSign cs
  match magnitude? cs with
  | some (digits, power) =>
    if power.natAbs ≤ 1000 then ofMagnitude negative digits power else .real
  | none => .text

end GuessingRoom.Cell
