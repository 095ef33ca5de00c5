import GuessingRoom.Json.Numeral
import GuessingRoom.Json.Quoted

/-!
# Skipping a value

A value of no interest is passed over without being built: it has to be well formed, but its
strings are not decoded and its numbers may be of any size.
-/

namespace GuessingRoom.Json

def isSpace (c : Char) : Bool := c = ' ' || c = '\n' || c = '\t' || c = '\r'

def skipSpace (cs : List Char) : List Char := cs.dropWhile isSpace

/-- What follows the given word, if the text begins with it. -/
def skipWord : List Char → List Char → Option (List Char)
  | [], cs => some cs
  | w :: ws, c :: cs => if w = c then skipWord ws cs else none
  | _ :: _, [] => none

theorem skipWord_eq_some_iff {word cs rest : List Char} :
    skipWord word cs = some rest ↔ cs = word ++ rest := by
  induction word generalizing cs with
  | nil => simp [skipWord]
  | cons w ws ih =>
    cases cs with
    | nil => simp [skipWord]
    | cons c cs =>
      simp only [skipWord, List.cons_append, List.cons.injEq]
      split
      · next h => simp [ih, h]
      · next h => simp [Ne.symm h]

mutual

/-- What follows the value at the front of the text. -/
def skipValue : Nat → List Char → Option (List Char)
  | 0, _ => none
  | fuel + 1, cs =>
    match skipSpace cs with
    | '"' :: rest => (scanQuoted rest).map (·.2)
    | '[' :: rest =>
      match skipSpace rest with
      | ']' :: rest => some rest
      | _ => skipItems fuel rest
    | '{' :: rest =>
      match skipSpace rest with
      | '}' :: rest => some rest
      | _ => skipMembers fuel rest
    | 'n' :: rest => skipWord ['u', 'l', 'l'] rest
    | 't' :: rest => skipWord ['r', 'u', 'e'] rest
    | 'f' :: rest => skipWord ['a', 'l', 's', 'e'] rest
    | cs => (Numeral.scan cs).map (·.2)

/-- What follows a list of which one or more items are left. -/
def skipItems : Nat → List Char → Option (List Char)
  | 0, _ => none
  | fuel + 1, cs => do
    let rest ← skipValue fuel cs
    match skipSpace rest with
    | ',' :: rest => skipItems fuel rest
    | ']' :: rest => some rest
    | _ => none

/-- What follows an object of which one or more members are left. -/
def skipMembers : Nat → List Char → Option (List Char)
  | 0, _ => none
  | fuel + 1, cs =>
    match skipSpace cs with
    | '"' :: rest => do
      let (_, rest) ← scanQuoted rest
      match skipSpace rest with
      | ':' :: rest =>
        let rest ← skipValue fuel rest
        match skipSpace rest with
        | ',' :: rest => skipMembers fuel rest
        | '}' :: rest => some rest
        | _ => none
      | _ => none
    | _ => none

end

/-- What follows the value at the front of the text, whatever its size and depth. -/
def skip (cs : List Char) : Option (List Char) := skipValue (2 * cs.length + 1) cs

end GuessingRoom.Json
