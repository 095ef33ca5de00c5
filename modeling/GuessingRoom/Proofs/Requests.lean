import GuessingRoom.Game.Operation

/-!
# Requests

All that players can ask of the service, and what happens by itself in the background, as one type,
so that whole runs can be spoken of. A run begins with a service on which nothing was done; the
simplest supply for it is `Supply.counting`.
-/

namespace GuessingRoom

inductive Request where
  | initUser
  | initGame (user : Id)
  | join (game user : Id)
  | kick (game user : Id)
  | guess (game user : Id) (content : String)
  | say (game user : Id) (content : String)
  | view (game viewer : Id)
  /-- An event whose time has come. -/
  | event (e : Event)
deriving DecidableEq, Repr

/-- What a request is answered with if it succeeds. -/
inductive Answer where
  | user (u : User)
  | game (g : Game)
  | done
  /-- Whether a seat was taken away. -/
  | kicked (b : Bool)
  | post (p : Post)
  | view (v : View)
deriving DecidableEq, Repr

namespace Request

def operation : Request → Operation Answer
  | initUser => return .user (← Operation.initUser)
  | initGame user => return .game (← Operation.initGame user)
  | join game user => do
    Operation.join game user
    return .done
  | kick game user => return .kicked (← Operation.kick game user)
  | guess game user content => return .post (← Operation.guess game user content)
  | say game user content => return .post (← Operation.say game user content)
  | view game viewer => return .view (← Operation.view game viewer)
  | event e => do
    Operation.ofEvent e
    return .done

end Request

namespace Supply

/-- A supply that counts in strokes; its identifiers never repeat, and it always chooses the first
word. -/
def counting : Supply where
  id n := String.ofList (List.replicate (n + 1) '|')
  time := tick
  choice _ := 0
  storable := isStorable_tick

theorem counting_injective : Function.Injective counting.id := by
  intro m n h
  have lists : List.replicate (m + 1) '|' = List.replicate (n + 1) '|' := by
    simpa [counting] using congrArg String.toList h
  simpa using congrArg List.length lists

end Supply

/-- A service in memory on which nothing was done. -/
def Service.opening (words : List Word) : Service where
  settings := {}
  books := { store := .memory { words }, supply := .counting }

end GuessingRoom
