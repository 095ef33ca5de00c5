/-!
# Hexadecimal digits

The digits 0 to 9 and, for the values from ten to fifteen, the letters A to F. They are written in
lower case and read in either.
-/

namespace GuessingRoom.Text.Hexadecimal

/-- The digit of a value below sixteen. -/
def digitChar (n : Nat) : Char := if n < 10 then Char.ofNat (48 + n) else Char.ofNat (87 + n)

def digitValue? (c : Char) : Option Nat :=
  if '0' ≤ c ∧ c ≤ '9' then some (c.toNat - 48)
  else if 'a' ≤ c ∧ c ≤ 'f' then some (c.toNat - 87)
  else if 'A' ≤ c ∧ c ≤ 'F' then some (c.toNat - 55)
  else none

theorem digitValue?_digitChar {n : Nat} (h : n < 16) : digitValue? (digitChar n) = some n := by
  have all : ∀ k : Fin 16, digitValue? (digitChar k) = some k.val := by decide
  exact all ⟨n, h⟩

/-- The numeral without leading zeros. -/
def write (n : Nat) : List Char :=
  if n < 16 then [digitChar n] else write (n / 16) ++ [digitChar (n % 16)]

/-- The last `width` digits of the numeral, led by zeros where it is shorter. -/
def writeFixed : Nat → Nat → List Char
  | 0, _ => []
  | width + 1, n => writeFixed width (n / 16) ++ [digitChar (n % 16)]

end GuessingRoom.Text.Hexadecimal
