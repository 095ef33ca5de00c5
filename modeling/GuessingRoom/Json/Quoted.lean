import GuessingRoom.Text.Hexadecimal

/-!
# Quoted text

A string in quotation marks: how it is written, with as few escapes as the format allows, and how
it is taken apart again. Reading has two stages. Scanning splits the text between the marks into
pieces and refuses whatever is no string at all; decoding joins escaped surrogate pairs and refuses
a surrogate that stands alone. A string that is skipped is only scanned.
-/

namespace GuessingRoom.Json

open Text (Hexadecimal.digitValue? Hexadecimal.writeFixed)

/-! ## Writing -/

/-- A character as it stands between quotation marks: the marks themselves, the backslash and
control characters are escaped, with a short escape where there is one. -/
def escape (c : Char) : List Char :=
  if c = '"' then ['\\', '"']
  else if c = '\\' then ['\\', '\\']
  else if c = '\n' then ['\\', 'n']
  else if c = '\r' then ['\\', 'r']
  else if c = '\t' then ['\\', 't']
  else if c = '\x08' then ['\\', 'b']
  else if c = '\x0c' then ['\\', 'f']
  else if c.toNat < 32 then '\\' :: 'u' :: Hexadecimal.writeFixed 4 c.toNat
  else [c]

def quote (cs : List Char) : List Char := '"' :: (cs.flatMap escape ++ ['"'])

/-! ## Scanning -/

/-- What one or more characters between quotation marks stand for: a character, or a UTF-16 unit
given by its number. -/
inductive Piece where
  | plain (c : Char)
  | unit (n : Nat)
deriving DecidableEq, Repr

/-- Four hexadecimal digits. -/
def scanUnit : List Char → Option (Nat × List Char)
  | a :: b :: c :: d :: rest => do
    let a ← Hexadecimal.digitValue? a
    let b ← Hexadecimal.digitValue? b
    let c ← Hexadecimal.digitValue? c
    let d ← Hexadecimal.digitValue? d
    some (((a * 16 + b) * 16 + c) * 16 + d, rest)
  | _ => none

/-- The character that a backslash and one more character stand for. -/
def shortEscape? (c : Char) : Option Char :=
  if c = '"' ∨ c = '\\' ∨ c = '/' then some c
  else if c = 'b' then some '\x08'
  else if c = 'f' then some '\x0c'
  else if c = 'n' then some '\n'
  else if c = 'r' then some '\r'
  else if c = 't' then some '\t'
  else none

/-- What follows a backslash. -/
def scanEscape : List Char → Option (Piece × List Char)
  | [] => none
  | c :: rest =>
    match shortEscape? c with
    | some d => some (.plain d, rest)
    | none => if c = 'u' then (scanUnit rest).map fun (n, rest) => (.unit n, rest) else none

/-- The first piece of a text that does not begin with a quotation mark. -/
def scanPiece : List Char → Option (Piece × List Char)
  | [] => none
  | c :: rest =>
    if c = '\\' then scanEscape rest
    else if c.toNat < 32 then none
    else some (.plain c, rest)

theorem length_of_scanUnit {cs rest : List Char} {n : Nat} (h : scanUnit cs = some (n, rest)) :
    rest.length < cs.length := by
  match cs, h with
  | a :: b :: c :: d :: tail, h =>
    simp only [scanUnit, Option.bind_eq_bind, Option.bind_eq_some_iff, Option.some.injEq,
      Prod.mk.injEq] at h
    obtain ⟨_, _, _, _, _, _, _, _, _, rfl⟩ := h
    simp only [List.length_cons]
    omega

theorem length_of_scanEscape {cs rest : List Char} {p : Piece}
    (h : scanEscape cs = some (p, rest)) : rest.length < cs.length := by
  cases cs with
  | nil => simp [scanEscape] at h
  | cons c tail =>
    simp only [scanEscape] at h
    split at h
    · simp only [Option.some.injEq, Prod.mk.injEq] at h
      simp [← h.2]
    · split at h
      · simp only [Option.map_eq_some_iff, Prod.mk.injEq, Prod.exists] at h
        obtain ⟨_, _, hu, _, rfl⟩ := h
        have := length_of_scanUnit hu
        simp only [List.length_cons]
        omega
      · simp at h

theorem length_of_scanPiece {cs rest : List Char} {p : Piece} (h : scanPiece cs = some (p, rest)) :
    rest.length < cs.length := by
  cases cs with
  | nil => simp [scanPiece] at h
  | cons c tail =>
    simp only [scanPiece] at h
    split at h
    · have := length_of_scanEscape h
      simp only [List.length_cons]
      omega
    · split at h
      · simp at h
      · simp only [Option.some.injEq, Prod.mk.injEq] at h
        simp [← h.2]

/-- The pieces up to the closing quotation mark, and what follows the mark. -/
def scanQuoted : List Char → Option (List Piece × List Char)
  | [] => none
  | c :: cs =>
    if c = '"' then some ([], cs)
    else match _h : scanPiece (c :: cs) with
      | none => none
      | some (p, rest) => (scanQuoted rest).map fun (ps, rest) => (p :: ps, rest)
termination_by cs => cs.length
decreasing_by exact length_of_scanPiece _h

/-! ## Decoding -/

def isHighSurrogate (n : Nat) : Bool := 0xD800 ≤ n && n ≤ 0xDBFF

def isLowSurrogate (n : Nat) : Bool := 0xDC00 ≤ n && n ≤ 0xDFFF

/-- The character beyond U+FFFF that a high and a low surrogate name together. -/
def joinSurrogates (high low : Nat) : Char :=
  Char.ofNat (0x10000 + (high - 0xD800) * 0x400 + (low - 0xDC00))

def decode : List Piece → Option (List Char)
  | [] => some []
  | .plain c :: rest => (decode rest).map (c :: ·)
  | .unit n :: .unit m :: rest =>
    if isHighSurrogate n then
      if isLowSurrogate m then (decode rest).map (joinSurrogates n m :: ·) else none
    else if isLowSurrogate n then none
    else (decode (.unit m :: rest)).map (Char.ofNat n :: ·)
  | .unit n :: rest =>
    if isHighSurrogate n || isLowSurrogate n then none
    else (decode rest).map (Char.ofNat n :: ·)

/-- The string whose opening quotation mark has just been taken, and what follows it. -/
def readQuoted (cs : List Char) : Option (List Char × List Char) := do
  let (pieces, rest) ← scanQuoted cs
  let text ← decode pieces
  some (text, rest)

end GuessingRoom.Json
