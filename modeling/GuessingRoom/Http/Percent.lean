import GuessingRoom.Text.Hexadecimal

/-!
# Percent signs

In paths and cookies a percent sign and two hexadecimal digits stand for a byte. The bytes of the
whole text have to be well-formed characters.
-/

namespace GuessingRoom.Http

open Text (Hexadecimal.digitValue?)

/-- The value of a byte that is a hexadecimal digit. -/
def hexValue? (b : UInt8) : Option Nat := Hexadecimal.digitValue? (Char.ofNat b.toNat)

/-- The bytes with those in hexadecimal put in; a percent sign without digits stands for itself. -/
def percentDecode : List UInt8 → List UInt8
  | 37 :: h :: l :: rest =>
    match hexValue? h, hexValue? l with
    | some h, some l => UInt8.ofNat (16 * h + l) :: percentDecode rest
    | _, _ => 37 :: percentDecode (h :: l :: rest)
  | b :: rest => b :: percentDecode rest
  | [] => []

/-- The text that an encoded one stands for. -/
def decodeText? (cs : List Char) : Option String :=
  String.fromUTF8? ⟨(percentDecode (String.ofList cs).toUTF8.toList).toArray⟩

end GuessingRoom.Http
