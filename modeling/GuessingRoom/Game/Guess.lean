import GuessingRoom.Board
import GuessingRoom.Secret
import GuessingRoom.Settings.Room
import GuessingRoom.Store.Books

/-!
# Judging a guess

A guess is stored in any case. It scores if it is the word and the player has not yet scored in
this turn; the turn is over when everyone who is active has scored.
-/

namespace GuessingRoom

inductive Verdict where
  | miss
  /-- The word, from a player who has it already. -/
  | again
  | scored (points : Int) (turnOver : Bool)
deriving DecidableEq, Repr

namespace Verdict

def endsTurn : Verdict → Bool
  | scored _ turnOver => turnOver
  | _ => false

end Verdict

namespace Entry

/-- How many of the active players have the word once the guesser does. -/
def guessedCount (active : List Player) (scores : List Score) (guesser turn : Id) : Nat :=
  1 + (active.filter fun p => p.id != guesser && Board.hasGuessed scores p.id turn).length

/-- The verdict on a guess that is the word, and the score that follows from it. -/
def award (settings : RoomSettings) (game : Id) (turn : Turn) (user : User) (message : Message)
    (active : List Player) (scores : List Score) : Entry Verdict := do
  if Board.hasGuessed scores user.id turn.id then return .again
  let guessed := guessedCount active scores user.id turn.id
  let points := Board.guessPoints settings.basePoints active.length guessed
  addScore ⟨game, turn.id, user.id, message.id, points⟩
  return .scored points (guessed == active.length)

/-- Stores a guess of an active player and judges it. -/
def judge (settings : RoomSettings) (game : Id) (turn : Turn) (word : Word) (user : User)
    (content : String) : Entry (Message × Verdict) := do
  let active ← look (·.activePlayers game)
  if !active.any (·.id == user.id) then throw .notInGame
  let message ← addMessage game turn.id user.id content
  if !Secret.sameWord content word.word then return (message, .miss)
  let scores ← look (·.scores game)
  return (message, ← award settings game turn user message active scores)

end Entry

end GuessingRoom
