import GuessingRoom.Store.Failure
import GuessingRoom.Time.Stored

/-!
# Rows

The rows of the relational store hold texts, times and states among them. A row becomes a model
when its texts are read, and one that holds anything else is corrupt.
-/

namespace GuessingRoom

open Time (Instant readStored)

/-- What a column of whole numbers holds after a text was put into it. -/
inductive Cell where
  | whole (n : Int)
  | real
  | text
deriving DecidableEq, Repr

structure UserRow where
  id : Id
  nickname : String
  createdAt : String
  updatedAt : String
deriving DecidableEq, Repr

structure GameRow where
  id : Id
  createdAt : String
  updatedAt : String
deriving DecidableEq, Repr

/-- A membership as it is stored, without the nickname. -/
structure MemberRow where
  gameId : Id
  userId : Id
  state : String
  joinedAt : String
deriving DecidableEq, Repr

/-- A membership as it is read, with the user's nickname. -/
structure PlayerRow where
  userId : Id
  nickname : String
  state : String
  joinedAt : String
deriving DecidableEq, Repr

structure TurnRow where
  id : Id
  gameId : Id
  wordId : Id
  createdAt : String
deriving DecidableEq, Repr

structure MessageRow where
  id : Id
  gameId : Id
  turnId : Id
  playerId : Id
  content : String
  createdAt : String
deriving DecidableEq, Repr

structure ScoreRow where
  gameId : Id
  turnId : Id
  playerId : Id
  messageId : Id
  points : Cell
  createdAt : String
deriving DecidableEq, Repr

/-! ## Reading -/

def parseTime (raw : String) : Except Failure Instant :=
  match readStored raw with
  | .ok t => .ok t
  | .error fault => .error (.corruptTime raw fault)

namespace UserRow

def toUser (r : UserRow) : Except Failure User := do
  let createdAt ← parseTime r.createdAt
  let updatedAt ← parseTime r.updatedAt
  return ⟨r.id, r.nickname, createdAt, updatedAt⟩

end UserRow

namespace GameRow

def toGame (r : GameRow) : Except Failure Game := do
  let createdAt ← parseTime r.createdAt
  let updatedAt ← parseTime r.updatedAt
  return ⟨r.id, createdAt, updatedAt⟩

end GameRow

namespace PlayerRow

def toPlayer (r : PlayerRow) : Except Failure Player :=
  match PlayerState.ofName? r.state with
  | some state => return ⟨r.userId, r.nickname, state, ← parseTime r.joinedAt⟩
  | none => .error (.corruptState r.state r.userId)

end PlayerRow

namespace TurnRow

def toTurn (r : TurnRow) : Except Failure Turn :=
  return ⟨r.id, r.gameId, r.wordId, ← parseTime r.createdAt⟩

end TurnRow

namespace MessageRow

def toMessage (r : MessageRow) : Except Failure Message :=
  return ⟨r.id, r.gameId, r.turnId, r.playerId, r.content, ← parseTime r.createdAt⟩

end MessageRow

namespace Cell

def toInt : Cell → Except Failure Int
  | whole n => .ok n
  | real => .error (.notWhole "Real")
  | text => .error (.notWhole "Text")

end Cell

namespace ScoreRow

/-- The score of a row whose points have been read. -/
def toScore (r : ScoreRow) (points : Int) : Except Failure Score :=
  return ⟨⟨r.gameId, r.turnId, r.playerId, r.messageId, points⟩, ← parseTime r.createdAt⟩

end ScoreRow

end GuessingRoom
