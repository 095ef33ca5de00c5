import GuessingRoom.Store.Failure

/-!
# Tables in memory

Lists of models in the order of insertion. A player's nickname is that of the user at the time of
joining. Only joining looks at other tables; turns, messages and scores are taken as they come.
-/

namespace GuessingRoom

open Time (Instant)

/-- What distinguishes a new row: an identifier not used so far, and the time. -/
structure Stamp where
  id : Id
  time : Instant
deriving DecidableEq, Repr

/-- A player together with the game it belongs to. -/
structure Membership where
  gameId : Id
  player : Player
deriving DecidableEq, Repr

namespace Membership

def isOf (m : Membership) (game user : Id) : Bool := m.gameId == game && m.player.id == user

def withState (m : Membership) (state : PlayerState) : Membership :=
  { m with player := { m.player with state } }

end Membership

structure MemoryTables where
  users : List User := []
  games : List Game := []
  memberships : List Membership := []
  turns : List Turn := []
  messages : List Message := []
  scores : List Score := []
deriving DecidableEq, Repr

namespace MemoryTables

/-! ## Users -/

def findUser (t : MemoryTables) (id : Id) : Option User := t.users.find? (·.id == id)

def rename (nickname : String) (time : Instant) (u : User) : User :=
  { u with nickname, updatedAt := time }

/-- Gives the user a nickname; a user not known so far is added. -/
def upsertUser (t : MemoryTables) (id : Id) (nickname : String) (time : Instant) : MemoryTables :=
  if (t.findUser id).isSome then
    { t with users := t.users.map fun u => if u.id == id then rename nickname time u else u }
  else { t with users := t.users ++ [⟨id, nickname, time, time⟩] }

/-! ## Games and players -/

def findGame (t : MemoryTables) (id : Id) : Option Game := t.games.find? (·.id == id)

def createGame (t : MemoryTables) (s : Stamp) : Game × MemoryTables :=
  let game := ⟨s.id, s.time, s.time⟩
  (game, { t with games := t.games ++ [game] })

/-- The players of a game in the order of joining. -/
def players (t : MemoryTables) (game : Id) : List Player :=
  (t.memberships.filter (·.gameId == game)).map (·.player)

def addPlayer (t : MemoryTables) (game user : Id) (time : Instant) :
    Except Failure MemoryTables :=
  if t.memberships.any (·.isOf game user) then .error (.alreadyPlaying user game)
  else match t.findUser user with
    | none => .error (.noSuchUser user)
    | some u =>
      if (t.findGame game).isNone then .error (.noSuchGame game)
      else
        let player : Player := ⟨user, u.nickname, .active, time⟩
        .ok { t with memberships := t.memberships ++ [⟨game, player⟩] }

def setState (t : MemoryTables) (game user : Id) (state : PlayerState) :
    Except Failure MemoryTables :=
  if t.memberships.any (·.isOf game user) then
    .ok { t with
      memberships := t.memberships.map fun m =>
        if m.isOf game user then m.withState state else m }
  else .error (.notPlaying user game)

/-! ## Turns, messages and scores -/

/-- The turn of the game that was added last. -/
def latestTurn (t : MemoryTables) (game : Id) : Option Turn :=
  (t.turns.filter (·.gameId == game)).getLast?

def addTurn (t : MemoryTables) (game word : Id) (s : Stamp) : Turn × MemoryTables :=
  let turn := ⟨s.id, game, word, s.time⟩
  (turn, { t with turns := t.turns ++ [turn] })

/-- The messages of the game, oldest first. -/
def messagesOf (t : MemoryTables) (game : Id) : List Message :=
  t.messages.filter (·.gameId == game)

def addMessage (t : MemoryTables) (game turn player : Id) (content : String) (s : Stamp) :
    Message × MemoryTables :=
  let message := ⟨s.id, game, turn, player, content, s.time⟩
  (message, { t with messages := t.messages ++ [message] })

def scoresOf (t : MemoryTables) (game : Id) : List Score :=
  t.scores.filter fun s => s.gameId == game

def addScore (t : MemoryTables) (award : Award) (time : Instant) : MemoryTables :=
  { t with scores := t.scores ++ [⟨award, time⟩] }

end MemoryTables

/-- A store in memory, with a count of how its units of work ended. -/
structure Memory where
  tables : MemoryTables := {}
  words : List Word := []
  /-- Whether scores are refused, as they would be by a broken store. -/
  refusesScores : Bool := false
  commits : Nat := 0
  rollbacks : Nat := 0
deriving DecidableEq, Repr

end GuessingRoom
