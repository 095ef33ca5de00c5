/-!
# Spans of code points

A character class is a list of spans, each standing for every code point between its ends. A class
is as large as the standard that lists it makes it, so membership is the only operation.
-/

namespace GuessingRoom.Text

/-- The code points from `first` to `last`, both included. -/
structure Span where
  first : Nat
  last : Nat
deriving DecidableEq, Repr

namespace Span

def covers (s : Span) (n : Nat) : Bool := s.first ≤ n && n ≤ s.last

theorem covers_iff {s : Span} {n : Nat} : s.covers n = true ↔ s.first ≤ n ∧ n ≤ s.last := by
  simp [covers]

end Span

/-- Whether one of the spans covers the character. -/
def inSpans (spans : List Span) (c : Char) : Bool := spans.any (·.covers c.toNat)

theorem inSpans_iff {spans : List Span} {c : Char} :
    inSpans spans c = true ↔ ∃ s ∈ spans, s.first ≤ c.toNat ∧ c.toNat ≤ s.last := by
  simp [inSpans, Span.covers_iff]

end GuessingRoom.Text
