/-!
# Settings of the rooms

The numbers that the rules of the game leave open. Times are in milliseconds.
-/

namespace GuessingRoom

structure RoomSettings where
  /-- How many players can be active in a game. -/
  capacity : Nat := 10
  /-- Points of a right guess before the share for early ones. -/
  basePoints : Int := 10
  /-- From the end of a turn to the next word. -/
  turnDelay : Nat := 5000
  /-- From the loss of a player's connection to that of the seat. -/
  kickDelay : Nat := 5000
deriving DecidableEq, Repr

end GuessingRoom
