import GuessingRoom.Http.Message

/-!
# Routes

What a path names, and by which method it is asked for. What belongs to a game needs a session.
-/

namespace GuessingRoom.Http

/-- What a client can ask for. The game is given as it stands in the path. -/
inductive Resource where
  | health
  | session
  | games
  | game (id : List Char)
  | join (id : List Char)
  | leaderboard (id : List Char)
  | word (id : List Char)
  | guess (id : List Char)
  | messages (id : List Char)
  | events (id : List Char)
deriving DecidableEq, Repr

namespace Resource

/-- What a path names that consists of a game and a word. -/
def ofPart? (id : List Char) : String → Option Resource
  | "join" => some (join id)
  | "leaderboard" => some (leaderboard id)
  | "word" => some (word id)
  | "guess" => some (guess id)
  | "messages" => some (messages id)
  | "events" => some (events id)
  | _ => none

def ofPath? (path : List Char) : Option Resource :=
  match (splitAt '/' path).map String.ofList with
  | ["", "health"] => some health
  | ["", "session"] => some session
  | ["", "games"] => some games
  | ["", "games", id] => if id.isEmpty then none else some (game id.toList)
  | ["", "games", id, part] => if id.isEmpty then none else ofPart? id.toList part
  | _ => none

/-- Whether the resource is posted to; all others are got. -/
def isPosted : Resource → Bool
  | session | games | join _ | guess _ | messages _ => true
  | health | game _ | leaderboard _ | word _ | events _ => false

def allow (r : Resource) : String := if r.isPosted then "POST" else "GET,HEAD"

/-- Whether the resource takes the method. -/
def takes (r : Resource) (method : String) : Bool :=
  if r.isPosted then method == "POST" else method == "GET" || method == "HEAD"

def needsSession : Resource → Bool
  | health | session => false
  | _ => true

end Resource

end GuessingRoom.Http
