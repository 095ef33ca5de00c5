import GuessingRoom.Json.Skip
import GuessingRoom.Json.Value

/-!
# Shapes

A shape says which values are wanted, and reading a text by a shape gives such a value or says why
there is none: the text is no value at all, or it is one of another kind. Of two faults the one
that stands first in the text decides.

A record is given by an object or by a list. The members of an object may stand in any order, and
members of other names are passed over unless the record is strict. The items of a list are
exactly the record's fields. Either way the value that is read has the record's fields, in the
record's order.
-/

namespace GuessingRoom.Json

inductive Shape where
  | text
  | flag
  | integer
  /-- One of a few names. -/
  | choice (names : List String)
  | list (item : Shape)
  | record (fields : List (String × Shape)) (strict : Bool)
deriving Repr

/-- Why a text cannot be read by a shape. -/
inductive Fault where
  | malformed
  | mismatched
deriving DecidableEq, Repr

/-- A value and the text that follows it. -/
abbrev Reading := Except Fault (Json × List Char)

/-! ## Values of another kind -/

/-- Refuses a value of an unwanted kind. A scalar is looked at in full, and may turn out to be no
value at all; of a list or an object the first character is enough. -/
def refuse (cs : List Char) : Fault :=
  let byWord (word rest : List Char) : Fault :=
    if (skipWord word rest).isSome then .mismatched else .malformed
  match cs with
  | '"' :: rest => if (readQuoted rest).isSome then .mismatched else .malformed
  | '[' :: _ => .mismatched
  | '{' :: _ => .mismatched
  | 'n' :: rest => byWord ['u', 'l', 'l'] rest
  | 't' :: rest => byWord ['r', 'u', 'e'] rest
  | 'f' :: rest => byWord ['a', 'l', 's', 'e'] rest
  | cs =>
    match Numeral.scan cs with
    | some (n, _) => if n.isHuge then .malformed else .mismatched
    | none => .malformed

/-! ## Scalars -/

/-- A string in quotation marks; the text has no leading space. -/
def readText : List Char → Except Fault (String × List Char)
  | '"' :: rest =>
    match readQuoted rest with
    | some (content, rest) => .ok (String.ofList content, rest)
    | none => .error .malformed
  | cs => .error (refuse cs)

def readFlag : List Char → Reading
  | 't' :: rest =>
    match skipWord ['r', 'u', 'e'] rest with
    | some rest => .ok (.flag true, rest)
    | none => .error .malformed
  | 'f' :: rest =>
    match skipWord ['a', 'l', 's', 'e'] rest with
    | some rest => .ok (.flag false, rest)
    | none => .error .malformed
  | cs => .error (refuse cs)

/-- Whether a number has a place among the integers of 64 bits. -/
def inRange (n : Int) : Bool := -9223372036854775808 ≤ n && n ≤ 9223372036854775807

def readInteger (cs : List Char) : Reading :=
  match Numeral.scan cs with
  | some (numeral, rest) =>
    if numeral.isHuge then .error .malformed
    else match numeral.toInt? with
      | some n => if inRange n then .ok (.integer n, rest) else .error .mismatched
      | none => .error .mismatched
  | none => .error (refuse cs)

/-- One of the names, either as a string or as the only member of an object, with null as its
value. -/
def readChoice (names : List String) : List Char → Reading
  | '"' :: rest => do
    let (name, rest) ← readText ('"' :: rest)
    if names.contains name then .ok (.text name, rest) else .error .mismatched
  | '{' :: rest => do
    let (name, rest) ← readText (skipSpace rest)
    if !names.contains name then throw .mismatched
    match skipSpace rest with
    | ':' :: rest =>
      match skipSpace rest with
      | 'n' :: rest =>
        match skipWord ['u', 'l', 'l'] rest with
        | some rest =>
          match skipSpace rest with
          | '}' :: rest => .ok (.text name, rest)
          | _ => .error .malformed
        | none => .error .malformed
      | cs => .error (refuse cs)
    | _ => .error .malformed
  | _ => .error .malformed

/-! ## Lists and records -/

/-- What stands after an item or a member. -/
inductive Ending where
  | more (rest : List Char)
  | closed (rest : List Char)

/-- A comma, or the given closing bracket. -/
def readEnding (close : Char) (cs : List Char) : Except Fault Ending :=
  match skipSpace cs with
  | ',' :: rest => .ok (.more rest)
  | c :: rest => if c = close then .ok (.closed rest) else .error .malformed
  | [] => .error .malformed

/-- The fields of a record in their order, each with the value found for it. -/
def arrange (fields : List (String × Shape)) (found : List (String × Json)) :
    Except Fault (List (String × Json)) :=
  fields.mapM fun (name, _) =>
    match found.lookup name with
    | some value => .ok (name, value)
    | none => .error .mismatched

mutual

/-- The value of the given shape at the front of the text. -/
def readValue : Nat → Shape → List Char → Reading
  | 0, _, _ => .error .malformed
  | fuel + 1, shape, cs =>
    match shape, skipSpace cs with
    | .text, cs => (readText cs).map fun (s, rest) => (.text s, rest)
    | .flag, cs => readFlag cs
    | .integer, cs => readInteger cs
    | .choice names, cs => readChoice names cs
    | .list item, '[' :: rest =>
      match skipSpace rest with
      | ']' :: rest => .ok (.list [], rest)
      | _ => (readItems fuel item rest).map fun (items, rest) => (.list items, rest)
    | .list _, cs => .error (refuse cs)
    | .record fields _, '[' :: rest =>
      match skipSpace rest with
      | ']' :: rest => (arrange fields []).map fun members => (.object members, rest)
      | _ => (readFields fuel fields rest).map fun (members, rest) => (.object members, rest)
    | .record fields strict, '{' :: rest =>
      match skipSpace rest with
      | '}' :: rest => (arrange fields []).map fun members => (.object members, rest)
      | _ => do
        let (found, rest) ← readMembers fuel fields strict [] rest
        (arrange fields found).map fun members => (.object members, rest)
    | .record _ _, cs => .error (refuse cs)

/-- One or more items up to the end of the list. -/
def readItems : Nat → Shape → List Char → Except Fault (List Json × List Char)
  | 0, _, _ => .error .malformed
  | fuel + 1, shape, cs => do
    let (item, rest) ← readValue fuel shape cs
    match ← readEnding ']' rest with
    | .closed rest => .ok ([item], rest)
    | .more rest => (readItems fuel shape rest).map fun (items, rest) => (item :: items, rest)

/-- One or more fields of a record given as a list, up to its end. A list that is too short is of
another kind; one that is too long is no value, as nothing is expected after the last field. -/
def readFields : Nat → List (String × Shape) → List Char →
    Except Fault (List (String × Json) × List Char)
  | 0, _, _ => .error .malformed
  | _ + 1, [], _ => .error .malformed
  | fuel + 1, (name, shape) :: fields, cs => do
    let (value, rest) ← readValue fuel shape cs
    match fields, ← readEnding ']' rest with
    | [], .closed rest => .ok ([(name, value)], rest)
    | [], .more _ => .error .malformed
    | _ :: _, .closed _ => .error .mismatched
    | fields, .more rest =>
      (readFields fuel fields rest).map fun (members, rest) => ((name, value) :: members, rest)

/-- One or more members up to the end of the object, added to those already found. -/
def readMembers : Nat → List (String × Shape) → Bool → List (String × Json) → List Char →
    Except Fault (List (String × Json) × List Char)
  | 0, _, _, _, _ => .error .malformed
  | fuel + 1, fields, strict, found, cs =>
    match skipSpace cs with
    | '"' :: rest => do
      let (name, rest) ← readText ('"' :: rest)
      match fields.lookup name with
      | some shape =>
        if (found.lookup name).isSome then throw .mismatched
        match skipSpace rest with
        | ':' :: rest =>
          let (value, rest) ← readValue fuel shape rest
          match ← readEnding '}' rest with
          | .closed rest => .ok (found ++ [(name, value)], rest)
          | .more rest => readMembers fuel fields strict (found ++ [(name, value)]) rest
        | _ => .error .malformed
      | none =>
        if strict then throw .mismatched
        match skipSpace rest with
        | ':' :: rest =>
          match skip rest with
          | some rest =>
            match ← readEnding '}' rest with
            | .closed rest => .ok (found, rest)
            | .more rest => readMembers fuel fields strict found rest
          | none => .error .malformed
        | _ => .error .malformed
    | _ => .error .malformed

end

/-- Reads a whole text by a shape. -/
def Shape.read (shape : Shape) (cs : List Char) : Except Fault Json := do
  let (value, rest) ← readValue (2 * cs.length + 2) shape cs
  if (skipSpace rest).isEmpty then .ok value else .error .malformed

end GuessingRoom.Json
