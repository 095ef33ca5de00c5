import GuessingRoom.Text.Decimal

/-!
# Media types

The type of a request's body: a type and a subtype with a slash between them, and parameters after
semicolons. A subtype may have a suffix after a plus sign.
-/

namespace GuessingRoom.Http

/-- The characters of a name in a media type. -/
def isToken (c : Char) : Bool :=
  c.isAlphanum || ['!', '#', '$', '%', '&', '\x27', '*', '+', '-', '.', '^', '_', '\x60', '|',
    '~'].contains c

/-- The characters of a quoted value. -/
def isQuotable (c : Char) : Bool := 31 < c.toNat && c.toNat ≠ 127

/-- What follows the next quotation mark, in front of which a quoted value may go on. -/
def skipQuotable : List Char → Option (List Char)
  | [] => none
  | '"' :: rest => some rest
  | c :: rest => if isQuotable c then skipQuotable rest else none

/-- What follows a parameter's value: nothing, or the rest after a semicolon. A quoted value is not
empty, so that a quotation mark in the first place belongs to it. -/
def skipValue? (cs : List Char) : Option (List Char) :=
  match cs with
  | '"' :: cs => do
    let rest ← match cs with
      | c :: rest => if isQuotable c then skipQuotable rest else none
      | [] => none
    match rest.dropWhile (· = ' ') with
    | [] => some []
    | ';' :: rest => some rest
    | _ => none
  | cs =>
    match cs.takeWhile isToken, cs.dropWhile isToken with
    | _, [] => some []
    | [], _ => none
    | _, ';' :: rest => some rest
    | _, _ => none

/-- Whether the text is a list of parameters, possibly an empty one. -/
def areParameters : Nat → List Char → Bool
  | 0, _ => false
  | fuel + 1, cs =>
    match cs.dropWhile (· = ' ') with
    | [] => true
    | cs =>
      match cs.takeWhile isToken, cs.dropWhile isToken with
      | _ :: _, '=' :: rest =>
        match skipValue? rest with
        | some rest => areParameters fuel rest
        | none => false
      | _, _ => false

/-- A media type without its parameters. -/
structure MediaType where
  type : List Char
  subtype : List Char
  suffix : Option (List Char)
deriving DecidableEq, Repr

namespace MediaType

/-- A subtype and its suffix, which begins after the last plus sign but not at the beginning. -/
def splitSuffix (cs : List Char) : List Char × Option (List Char) :=
  let tail := (cs.drop 1).reverse.takeWhile (· ≠ '+') |>.reverse
  if (cs.drop 1).contains '+' then (cs.take (cs.length - tail.length - 1), some tail)
  else (cs, none)

def read? (cs : List Char) : Option MediaType :=
  match cs.takeWhile isToken, cs.dropWhile isToken with
  | c :: type, '/' :: rest =>
    let name := rest.takeWhile isToken
    let (subtype, suffix) := splitSuffix name
    match name, rest.dropWhile isToken with
    | _, [] => some ⟨c :: type, subtype, suffix⟩
    | _ :: _, ';' :: parameters =>
      if areParameters (parameters.length + 1) parameters then some ⟨c :: type, subtype, suffix⟩
      else none
    | _, _ => none
  | _, _ => none

/-- Whether the body is an object in the text form of this program. -/
def isJson (m : MediaType) : Bool :=
  let lower (cs : List Char) := String.ofList (cs.map Char.toLower)
  lower m.type == "application" && (lower m.subtype == "json" || m.suffix.any (lower · == "json"))

end MediaType

end GuessingRoom.Http
