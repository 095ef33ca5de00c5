import GuessingRoom.Notice.Wire
import GuessingRoom.Store.Failure

/-!
# Errors of the game

Why an operation on a game fails: the player broke a rule, something named does not exist, or a
part of the program failed.
-/

namespace GuessingRoom

/-- Why a feed ends before it is told to. -/
inductive FeedError where
  | codec (e : CodecError)
  /-- The receiver of the notices failed, with the given text. -/
  | handler (text : String)
deriving DecidableEq, Repr

namespace FeedError

def message : FeedError → String
  | codec e => s!"failed to encode notification: {e.message}"
  | handler text => s!"notification handler failed: {text}"

end FeedError

inductive GameError where
  | alreadyJoined
  | roomFull
  | notInGame
  | gameNotFound (game : Id)
  | userNotFound (user : Id)
  | turnNotFound (game : Id)
  | wordNotFound (word : Id)
  | noWords
  | codec (e : CodecError)
  | feed (e : FeedError)
  | persistence (f : Failure)
deriving DecidableEq, Repr

namespace GameError

def message : GameError → String
  | alreadyJoined => "already joined"
  | roomFull => "room is full"
  | notInGame => "user not in the game"
  | gameNotFound game => s!"game {game} not found"
  | userNotFound user => s!"user {user} not found"
  | turnNotFound game => s!"game {game} has no turn"
  | wordNotFound word => s!"word {word} not found"
  | noWords => "word corpus is empty"
  | codec e => e.message
  | feed e => e.message
  | persistence f => s!"persistence error: {f.report}"

/-- Whether the player broke a rule, so that nothing failed. -/
def isBusiness : GameError → Bool
  | alreadyJoined | roomFull | notInGame => true
  | _ => false

end GameError

end GuessingRoom
