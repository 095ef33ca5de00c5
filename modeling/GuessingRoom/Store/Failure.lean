import GuessingRoom.Model
import GuessingRoom.Time.Offset

/-!
# Failures of the store

What keeps a store from answering. A failure has a text of its own, and behind it the texts of
what caused it.
-/

namespace GuessingRoom

inductive Failure where
  | alreadyPlaying (player game : Id)
  | noSuchUser (user : Id)
  | noSuchGame (game : Id)
  | notPlaying (player game : Id)
  | scoresRefused
  | brokenReference
  | duplicateKey (columns : String)
  | brokenCheck (condition : String)
  | corruptTime (raw : String) (fault : Time.TimeFault)
  | corruptState (raw : String) (player : Id)
  | notWhole (kind : String)
  | noSuchTable (table : String)
  | noSuchColumn (column : String)
  /-- A failure of some other part, by its text. -/
  | other (text : String)
  /-- A failure with a text put before it. -/
  | within (context : String) (cause : Failure)
deriving DecidableEq, Repr

namespace Failure

/-- The texts of a failure and its causes, outermost first. -/
def chain : Failure → List String
  | alreadyPlaying player game => [s!"player {player} already in game {game}"]
  | noSuchUser user => [s!"user {user} does not exist"]
  | noSuchGame game => [s!"game {game} does not exist"]
  | notPlaying player game => [s!"player {player} not in game {game}"]
  | scoresRefused => ["score insert failed"]
  | brokenReference =>
    ["FOREIGN KEY constraint failed", "Error code 787: Foreign key constraint failed"]
  | duplicateKey columns =>
    [s!"UNIQUE constraint failed: {columns}", "Error code 1555: A PRIMARY KEY constraint failed"]
  | brokenCheck condition =>
    [s!"CHECK constraint failed: {condition}", "Error code 275: A CHECK constraint failed"]
  | corruptTime raw fault => [s!"corrupt timestamp '{raw}'", fault.message]
  | corruptState raw player => [s!"corrupt player state '{raw}' for {player}"]
  | notWhole kind => [s!"Invalid column type {kind} at index: 4, name: points"]
  | noSuchTable table => [s!"no such table: {table}"]
  | noSuchColumn column => [s!"no such column: {column}"]
  | other text => [text]
  | within context cause => context :: cause.chain

/-- The outermost text. -/
def message (f : Failure) : String := f.chain.headD ""

/-- All texts, from the outermost one to the first cause. -/
def report (f : Failure) : String := ": ".intercalate f.chain

end Failure

end GuessingRoom
