import GuessingRoom.Store.Memory
import GuessingRoom.Text.Hexadecimal

/-!
# Identifiers, times and choices

What the program takes from outside whenever it stores something new: an identifier, the time, and
a number by which to choose a word. A supply gives one of each for every number of a draw.
-/

namespace GuessingRoom

open Time (Instant Date)

/-- Whether the instant lies in a year of four digits, so that it can be stored. -/
def isStorable (t : Instant) : Prop :=
  Date.toDays ⟨0, 1, 1⟩ * 86400 ≤ t.second ∧ t.second < Date.toDays ⟨10000, 1, 1⟩ * 86400 ∧
    t.nano < 1000000000

structure Supply where
  id : Nat → Id
  time : Nat → Instant
  choice : Nat → Nat
  storable : ∀ n, isStorable (time n)

namespace Supply

/-- The stamp of a draw. -/
def stamp (s : Supply) (n : Nat) : Stamp := ⟨s.id n, s.time n⟩

/-! ## A supply without chance -/

/-- The identifier with a number of 128 bits. -/
def hexId (n : Nat) : Id := String.ofList (Text.Hexadecimal.writeFixed 32 n)

/-- Numbers of the given bits without visible order; an odd factor makes them differ. -/
def scatter (bits factor shift n : Nat) : Nat := (n * factor + shift) % Nat.pow 2 bits

/-- Microseconds after the beginning of 2026, for some thirty years. -/
def tick (n : Nat) : Instant where
  second := 1767225600 + (min n (1000000000000000) / 1000000 : Nat)
  nano := min n (1000000000000000) % 1000000 * 1000
  in_years := by
    have h₁ : Time.firstSecond = -8334601228800 := by decide
    have h₂ : Time.lastSecond = 8210266876799 := by decide
    omega
  in_second := by omega

theorem isStorable_tick (n : Nat) : isStorable (tick n) := by
  have h₁ : Date.toDays ⟨0, 1, 1⟩ = -719528 := by decide
  have h₂ : Date.toDays ⟨10000, 1, 1⟩ = 2932897 := by decide
  simp only [isStorable, tick, h₁, h₂]
  omega

/-- A supply whose identifiers do not repeat and whose clock moves on with every draw. -/
def standard : Supply where
  id n := hexId (scatter 128 267550821372718091231482163487915640613 91874313271 n)
  time := tick
  choice n := scatter 64 6364136223846793005 1442695040888963407 (n * n) / 8589934592
  storable := isStorable_tick

end Supply

end GuessingRoom
