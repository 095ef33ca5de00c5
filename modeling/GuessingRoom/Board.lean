import GuessingRoom.Model

/-!
# The board

Who is seated, who has found the word of a turn, and what everyone has earned so far.
-/

namespace GuessingRoom

/-- A line of the leaderboard, as the viewer sees it. -/
structure Standing where
  nickname : String
  me : Bool
  guessedWord : Bool
  score : Int
deriving DecidableEq, Repr

namespace Board

def activePlayers (players : List Player) : List Player := players.filter Player.isActive

/-- Whether the user has an active seat among the players. -/
def isSeated (players : List Player) (user : Id) : Bool :=
  players.any fun p => p.id == user && p.isActive

/-- Whether the player holds a score of the turn. -/
def hasGuessed (scores : List Score) (player turn : Id) : Bool :=
  scores.any fun s => s.playerId == player && s.turnId == turn

/-- All points the player has earned, in whatever turn. -/
def totalScore (scores : List Score) (player : Id) : Int :=
  (scores.filter fun s => s.playerId == player).foldr (fun s total => s.points + total) 0

/-- Whether all of the players have found the word of the turn; an empty room has. -/
def isTurnEnded (active : List Player) (scores : List Score) (turn : Id) : Bool :=
  active.all fun p => hasGuessed scores p.id turn

def standing (scores : List Score) (turn viewer : Id) (p : Player) : Standing where
  nickname := p.nickname
  me := p.id == viewer
  guessedWord := hasGuessed scores p.id turn
  score := totalScore scores p.id

/-- A line for each of the players, in their order. -/
def leaderboard (active : List Player) (scores : List Score) (turn viewer : Id) : List Standing :=
  active.map (standing scores turn viewer)

/-! ## Points -/

/-- The number of 64 bits with a sign that has the same bits as the given count. -/
def signed64 (n : Nat) : Int := Int.bmod n 18446744073709551616

/-- The points of a right guess: the base, as many times as the number of active players holds the
number of those who have found the word, the guesser included. -/
def guessPoints (base : Int) (active guessed : Nat) : Int := base * signed64 (active / guessed)

end Board

end GuessingRoom
