import GuessingRoom.Json.Quoted
import GuessingRoom.Text.Decimal

/-!
# Values with a compact text

The values that the program writes and accepts, and their text without any space. The members of an
object keep their order.
-/

namespace GuessingRoom

/-- A value whose numbers are whole. -/
inductive Json where
  | text (s : String)
  | flag (b : Bool)
  | integer (n : Int)
  | list (items : List Json)
  | object (members : List (String × Json))
deriving Repr

namespace Json

/-- The texts of several values with a comma between each two. -/
def join : List (List Char) → List Char
  | [] => []
  | [cs] => cs
  | cs :: more => cs ++ ',' :: join more

mutual

def write : Json → List Char
  | .text s => quote s.toList
  | .flag true => ['t', 'r', 'u', 'e']
  | .flag false => ['f', 'a', 'l', 's', 'e']
  | .integer n => Text.Decimal.writeInt n
  | .list items => '[' :: (join (writeItems items) ++ [']'])
  | .object members => '{' :: (join (writeMembers members) ++ ['}'])

def writeItems : List Json → List (List Char)
  | [] => []
  | item :: more => item.write :: writeItems more

def writeMembers : List (String × Json) → List (List Char)
  | [] => []
  | (name, value) :: more => (quote name.toList ++ ':' :: value.write) :: writeMembers more

end

/-- The compact text as a string. -/
def render (j : Json) : String := String.ofList j.write

end Json

end GuessingRoom
