import GuessingRoom.Http.Percent
import GuessingRoom.Text.Blank

/-!
# Cookies

A client sends its cookies as names and values, joined by semicolons, in any number of header
fields. Of several cookies with one name the last one counts.
-/

namespace GuessingRoom.Http

open Text (trim)

/-- The parts between the separators, of which there is at least one. -/
def splitAt (separator : Char) : List Char → List (List Char)
  | [] => [[]]
  | c :: cs =>
    match splitAt separator cs with
    | [] => [[c]]
    | part :: parts => if c = separator then [] :: part :: parts else (c :: part) :: parts

/-- Whether a header field may hold the character: visible ones of ASCII, space and tab. -/
def isPlain (c : Char) : Bool := c = '\t' || 32 ≤ c.toNat && c.toNat < 127

/-- A name and a value, without white space around them. A cookie needs a name. -/
def readCookie? (cs : List Char) : Option (String × String) := do
  let name ← decodeText? (trim (cs.takeWhile (· ≠ '=')))
  match cs.dropWhile (· ≠ '=') with
  | [] => none
  | _ :: value =>
    let value ← decodeText? (trim value)
    if name.isEmpty then none else some (name, value)

/-- The cookies of all header fields that have nothing but plain characters. -/
def readCookies (fields : List String) : List (String × String) :=
  (fields.map String.toList).filter (·.all isPlain) |>.flatMap fun field =>
    (splitAt ';' field).filterMap readCookie?

def cookie? (fields : List String) (name : String) : Option String :=
  (readCookies fields).reverse.lookup name

/-- A cookie to be kept by the client, for the whole site and out of reach of scripts. -/
def writeCookie (name value : String) (secure : Bool) : String :=
  name ++ "=" ++ value ++ "; HttpOnly; SameSite=Lax" ++ (if secure then "; Secure" else "") ++
    "; Path=/"

end GuessingRoom.Http
