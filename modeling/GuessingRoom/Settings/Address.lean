import GuessingRoom.Text.Decimal
import GuessingRoom.Text.Hexadecimal

/-!
# Listen addresses

An internet address with a socket number: four decimal numbers, or eight hexadecimal groups in
brackets of which a run of zeros may be left out. Addresses are written in one form only, whatever
form they were read in.
-/

namespace GuessingRoom

open Text (Decimal.write Hexadecimal.digitValue? Hexadecimal.write)

inductive Host where
  | v4 (a b c d : Nat)
  /-- Eight groups of 16 bits, and the number of a network interface, zero for none. -/
  | v6 (groups : List Nat) (scope : Nat)
deriving DecidableEq, Repr

structure Address where
  host : Host
  socket : Nat
deriving DecidableEq, Repr

namespace Address

/-! ## Numbers -/

/-- The value of a digit to the given base, which is at most sixteen. -/
def digit? (base : Nat) (c : Char) : Option Nat := (Hexadecimal.digitValue? c).filter (· < base)

/-- A number of at most so many digits, all of those that are there. -/
def takeDigits (base : Nat) (width : Option Nat) (cs : List Char) : Option (Nat × List Char) :=
  match cs.takeWhile fun c => (digit? base c).isSome with
  | [] => none
  | ds =>
    if width.any (· < ds.length) then none
    else some (ds.foldl (fun n d => base * n + (digit? base d).getD 0) 0, cs.drop ds.length)

/-- A number up to 255 without leading zeros. -/
def takeOctet (cs : List Char) : Option (Nat × List Char) := do
  let (n, rest) ← takeDigits 10 (some 3) cs
  if n < 256 && (n == 0 && cs.length == rest.length + 1 || n != 0 && cs.head? != some '0') then
    some (n, rest)
  else none

def takeChar (mark : Char) : List Char → Option (List Char)
  | c :: rest => if c = mark then some rest else none
  | [] => none

def takeSocket (cs : List Char) : Option (Nat × List Char) := do
  let (n, rest) ← takeDigits 10 none (← takeChar ':' cs)
  if n < 65536 then some (n, rest) else none

/-! ## Hosts -/

def takeFour (cs : List Char) : Option ((Nat × Nat × Nat × Nat) × List Char) := do
  let (a, cs) ← takeOctet cs
  let (b, cs) ← takeOctet (← takeChar '.' cs)
  let (c, cs) ← takeOctet (← takeChar '.' cs)
  let (d, cs) ← takeOctet (← takeChar '.' cs)
  some ((a, b, c, d), cs)

/-- The text after the colon that parts a group from the one before it. -/
def afterColon (first : Bool) (cs : List Char) : Option (List Char) :=
  if first then some cs else takeChar ':' cs

/-- At most so many groups, as many as there are, and whether the last two were given as four
decimal numbers. -/
def takeGroups : Nat → Bool → List Char → List Nat × Bool × List Char
  | 0, _, cs => ([], false, cs)
  | left + 1, first, cs =>
    match if left = 0 then none else afterColon first cs >>= takeFour with
    | some ((a, b, c, d), rest) => ([256 * a + b, 256 * c + d], true, rest)
    | none =>
      match afterColon first cs >>= takeDigits 16 (some 4) with
      | some (group, rest) =>
        let (groups, decimal, rest) := takeGroups left false rest
        (group :: groups, decimal, rest)
      | none => ([], false, cs)

/-- Eight groups, or fewer ones on both sides of a double colon that stands for zeros. -/
def takeEight (cs : List Char) : Option (List Nat × List Char) :=
  let (head, decimal, cs) := takeGroups 8 true cs
  if head.length = 8 then some (head, cs)
  else if decimal then none
  else do
    let cs ← takeChar ':' (← takeChar ':' cs)
    let (tail, _, cs) := takeGroups (7 - head.length) true cs
    some (head ++ List.replicate (8 - head.length - tail.length) 0 ++ tail, cs)

/-- A percent sign and a number of 32 bits; anything else is left alone and counts as zero. -/
def takeScope (cs : List Char) : Nat × List Char :=
  match takeChar '%' cs >>= takeDigits 10 none with
  | some (n, rest) => if n < 4294967296 then (n, rest) else (0, cs)
  | none => (0, cs)

def takeHost : List Char → Option (Host × List Char)
  | '[' :: cs => do
    let (groups, cs) ← takeEight cs
    let (scope, cs) := takeScope cs
    some (.v6 groups scope, ← takeChar ']' cs)
  | cs => (takeFour cs).map fun ((a, b, c, d), cs) => (.v4 a b c d, cs)

/-- Reads a whole text as host and socket, with a colon between them. -/
def read? (cs : List Char) : Option Address := do
  let (host, cs) ← takeHost cs
  let (socket, cs) ← takeSocket cs
  if cs.isEmpty then some ⟨host, socket⟩ else none

/-! ## Writing -/

def writeFour (a b c d : Nat) : List Char :=
  Decimal.write a ++ '.' :: (Decimal.write b ++ '.' :: (Decimal.write c ++ '.' :: Decimal.write d))

def writeGroups : List Nat → List Char
  | [] => []
  | [g] => Hexadecimal.write g
  | g :: gs => Hexadecimal.write g ++ ':' :: writeGroups gs

/-- Start and length of the longest run of zeros, the first of equal ones, in groups of which the
first has the given number; a run of zeros that ends there is given too. -/
def longestZeros : Nat → Nat → Nat × Nat → List Nat → Nat × Nat
  | _, _, best, [] => best
  | place, run, best, g :: gs =>
    if g = 0 then
      longestZeros (place + 1) (run + 1)
        (if best.2 < run + 1 then (place - run, run + 1) else best) gs
    else longestZeros (place + 1) 0 best gs

/-- Groups with their longest run of two or more zeros left out; an embedded address of the other
kind has its own form. -/
def writeEight : List Nat → List Char
  | [0, 0, 0, 0, 0, 0xFFFF, g, h] =>
    [':', ':', 'f', 'f', 'f', 'f', ':'] ++ writeFour (g / 256) (g % 256) (h / 256) (h % 256)
  | groups =>
    match longestZeros 0 0 (0, 0) groups with
    | (start, length) =>
      if 1 < length then
        writeGroups (groups.take start) ++ ':' :: ':' :: writeGroups (groups.drop (start + length))
      else writeGroups groups

def writeHost : Host → List Char
  | .v4 a b c d => writeFour a b c d
  | .v6 groups scope =>
    '[' :: (writeEight groups ++ (if scope = 0 then [] else '%' :: Decimal.write scope) ++ [']'])

def write (a : Address) : List Char := writeHost a.host ++ ':' :: Decimal.write a.socket

end Address

end GuessingRoom
