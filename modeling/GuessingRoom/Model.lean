import GuessingRoom.Time.Instant

/-!
# Rooms, players and what they leave behind

A game is a room with players in it. It goes through turns, each with a secret word; the players'
messages and the scores of those who found the word belong to the turn in which they came.
-/

namespace GuessingRoom

open Time (Instant)

/-- The identifier of a user, game, turn, message or word; nothing is known of its form. -/
abbrev Id := String

structure User where
  id : Id
  nickname : String
  createdAt : Instant
  updatedAt : Instant
deriving DecidableEq, Repr

structure Game where
  id : Id
  createdAt : Instant
  updatedAt : Instant
deriving DecidableEq, Repr

/-- Whether a player has a seat at present. -/
inductive PlayerState where
  | active
  | inactive
deriving DecidableEq, Repr

namespace PlayerState

def name : PlayerState → String
  | active => "active"
  | inactive => "inactive"

def ofName? : String → Option PlayerState
  | "active" => some active
  | "inactive" => some inactive
  | _ => none

theorem ofName?_name (s : PlayerState) : ofName? s.name = some s := by
  cases s <;> rfl

end PlayerState

/-- A user's membership in a game; the identifier is the user's. -/
structure Player where
  id : Id
  nickname : String
  state : PlayerState
  joinedAt : Instant
deriving DecidableEq, Repr

namespace Player

def isActive (p : Player) : Bool := p.state = .active

end Player

/-- A secret word and the emoji that hint at it. -/
structure Word where
  id : Id
  word : String
  hint : String
deriving DecidableEq, Repr

structure Turn where
  id : Id
  gameId : Id
  wordId : Id
  createdAt : Instant
deriving DecidableEq, Repr

/-- A chat line or a guess, right or wrong. -/
structure Message where
  id : Id
  gameId : Id
  turnId : Id
  playerId : Id
  content : String
  createdAt : Instant
deriving DecidableEq, Repr

/-- What is to be stored of a right guess. -/
structure Award where
  gameId : Id
  turnId : Id
  playerId : Id
  messageId : Id
  points : Int
deriving DecidableEq, Repr

structure Score extends Award where
  createdAt : Instant
deriving DecidableEq, Repr

end GuessingRoom
