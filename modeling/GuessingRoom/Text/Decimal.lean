/-!
# Decimal numerals

Natural numbers written with the digits 0 to 9, either without leading zeros or to a fixed width,
and read back under an upper bound.
-/

namespace GuessingRoom.Text.Decimal

/-- The character of a digit; only numbers below ten are digits. -/
def digitChar (d : Nat) : Char := Char.ofNat (48 + d % 10)

def isDigit (c : Char) : Bool := '0' ≤ c && c ≤ '9'

def digitValue (c : Char) : Nat := c.toNat - 48

/-! ## Writing -/

/-- The numeral without leading zeros. -/
def write (n : Nat) : List Char :=
  if n < 10 then [digitChar n] else write (n / 10) ++ [digitChar n]

/-- The last `width` digits of the numeral, led by zeros where it is shorter. -/
def writeFixed : Nat → Nat → List Char
  | 0, _ => []
  | width + 1, n => writeFixed width (n / 10) ++ [digitChar n]

theorem length_writeFixed (width n : Nat) : (writeFixed width n).length = width := by
  induction width generalizing n with
  | zero => rfl
  | succ width ih => simp [writeFixed, ih]

def writeInt (n : Int) : List Char :=
  if n < 0 then '-' :: write n.natAbs else write n.natAbs

/-! ## Reading -/

/-- The number that a run of digits stands for when it continues the number `acc`. -/
def valueFrom (acc : Nat) (ds : List Char) : Nat :=
  ds.foldl (fun n d => 10 * n + digitValue d) acc

def value (ds : List Char) : Nat := valueFrom 0 ds

inductive NumeralFault where
  | empty
  | invalidDigit
  | tooLarge
deriving DecidableEq, Repr

namespace NumeralFault

def message : NumeralFault → String
  | empty => "cannot parse integer from empty string"
  | invalidDigit => "invalid digit found in string"
  | tooLarge => "number too large to fit in target type"

end NumeralFault

/-- Reads digits on from the number `acc`; the first digit that is none, or that takes the number
past `max`, decides the fault. -/
def readDigits (max : Nat) : Nat → List Char → Except NumeralFault Nat
  | acc, [] => .ok acc
  | acc, c :: rest =>
    if isDigit c then
      let n := 10 * acc + digitValue c
      if n ≤ max then readDigits max n rest else .error .tooLarge
    else .error .invalidDigit

/-- Reads a whole text as a number of at most `max`: one or more digits after an optional plus
sign. -/
def readAtMost (max : Nat) : List Char → Except NumeralFault Nat
  | [] => .error .empty
  | ['+'] => .error .invalidDigit
  | '+' :: rest => readDigits max 0 rest
  | cs => readDigits max 0 cs

end GuessingRoom.Text.Decimal
