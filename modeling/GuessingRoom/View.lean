import GuessingRoom.Board
import GuessingRoom.Game.Error
import GuessingRoom.Secret

/-!
# What a player sees of a game

A view is derived from the rows of one game for one of its active players. It covers up the secret
word from those who have not found it and shows the newest message first.
-/

namespace GuessingRoom

/-- A message as the viewer sees it. -/
structure Post where
  me : Bool
  nickname : String
  content : String
deriving DecidableEq, Repr

/-- The game as one of its players sees it. -/
structure View where
  gameId : Id
  viewerId : Id
  turnId : Id
  turnEnded : Bool
  word : String
  hint : String
  messages : List Post
  leaderboard : List Standing
deriving DecidableEq, Repr

/-- The rows of one game: its players in the order of joining, its latest turn with the word, its
messages from the oldest on, and its scores. -/
structure Snapshot where
  gameId : Id
  players : List Player
  turn : Turn
  word : Word
  messages : List Message
  scores : List Score
deriving DecidableEq, Repr

namespace View

/-- The nickname of a player; of several players with one identifier the last one counts. -/
def nicknameOf (players : List Player) (id : Id) : String :=
  match players.reverse.find? (·.id == id) with
  | some p => p.nickname
  | none => ""

def post (players : List Player) (secret : String) (viewer : Id) (m : Message) : Post where
  me := m.playerId == viewer
  nickname := nicknameOf players m.playerId
  content := Secret.visibleContent m.content secret viewer m.playerId

def shownWord (s : Snapshot) (viewer : Id) : String :=
  if Board.hasGuessed s.scores viewer s.turn.id then s.word.word else Secret.mask s.word.word

/-- The game as the viewer sees it, who has to be one of its active players. -/
def derive (s : Snapshot) (viewer : Id) : Except GameError View :=
  let active := Board.activePlayers s.players
  if active.any (·.id == viewer) then
    .ok {
      gameId := s.gameId
      viewerId := viewer
      turnId := s.turn.id
      turnEnded := Board.isTurnEnded active s.scores s.turn.id
      word := shownWord s viewer
      hint := s.word.hint
      messages := s.messages.reverse.map (post s.players s.word.word viewer)
      leaderboard := Board.leaderboard active s.scores s.turn.id viewer }
  else .error .notInGame

end View

end GuessingRoom
