import GuessingRoom.Store.Corpus
import GuessingRoom.Store.Memory
import GuessingRoom.Store.Relational.Row
import GuessingRoom.Time.Written

/-!
# Relational tables

Tables of rows in which keys are unique and every reference has to lead to a row. Rows are read in
the order of their times, compared as texts, and in the order of insertion where the times are
equal. A nickname is looked up with the user each time.
-/

namespace GuessingRoom

open Time (Instant)

structure RelationalTables where
  users : List UserRow := []
  games : List GameRow := []
  members : List MemberRow := []
  words : List Word := []
  turns : List TurnRow := []
  messages : List MessageRow := []
  scores : List ScoreRow := []
deriving DecidableEq, Repr

/-- Rows in the order of a text that each has; rows with equal texts stay in their order. -/
def orderedBy {α : Type} (key : α → String) (rows : List α) : List α :=
  rows.mergeSort fun a b => !decide (key b < key a)

namespace RelationalTables

variable (t : RelationalTables)

/-! ## Keys and references -/

def hasUser (id : Id) : Bool := t.users.any (·.id == id)
def hasGame (id : Id) : Bool := t.games.any (·.id == id)
def hasWord (id : Id) : Bool := t.words.any (·.id == id)
def hasTurn (id : Id) : Bool := t.turns.any (·.id == id)
def hasMessage (id : Id) : Bool := t.messages.any (·.id == id)

def memberHolds (r : MemberRow) : Bool := t.hasGame r.gameId && t.hasUser r.userId

def turnHolds (r : TurnRow) : Bool := t.hasGame r.gameId && t.hasWord r.wordId

def messageHolds (r : MessageRow) : Bool :=
  t.hasGame r.gameId && t.hasTurn r.turnId && t.hasUser r.playerId

def scoreHolds (r : ScoreRow) : Bool :=
  t.hasGame r.gameId && t.hasTurn r.turnId && t.hasUser r.playerId && t.hasMessage r.messageId

/-- Whether every reference leads to a row. -/
def referencesHold : Bool :=
  t.members.all t.memberHolds && t.turns.all t.turnHolds && t.messages.all t.messageHolds &&
    t.scores.all t.scoreHolds

/-! ## Users and words -/

def findUser (id : Id) : Except Failure (Option User) :=
  match t.users.find? (·.id == id) with
  | some r => r.toUser.map some
  | none => .ok none

def renamed (nickname : String) (time : Instant) (r : UserRow) : UserRow :=
  { r with nickname, updatedAt := time.stored }

/-- Gives the user a nickname; a user not known so far is added. -/
def upsertUser (id : Id) (nickname : String) (time : Instant) : RelationalTables :=
  if t.hasUser id then
    { t with users := t.users.map fun r => if r.id == id then renamed nickname time r else r }
  else { t with users := t.users ++ [⟨id, nickname, time.stored, time.stored⟩] }

/-- All words in the order of their identifiers. -/
def allWords : List Word := orderedBy Word.id t.words

def findWord (id : Id) : Option Word := t.words.find? (·.id == id)

/-! ## Games and players -/

def findGame (id : Id) : Except Failure (Option Game) :=
  match t.games.find? (·.id == id) with
  | some r => r.toGame.map some
  | none => .ok none

def createGame (s : Stamp) : Except Failure (Game × RelationalTables) := do
  if t.hasGame s.id then throw (.duplicateKey "games.id")
  let row : GameRow := ⟨s.id, s.time.stored, s.time.stored⟩
  return (← row.toGame, { t with games := t.games ++ [row] })

/-- The membership with the nickname of its user, if there is one. -/
def joinNickname (r : MemberRow) : Option PlayerRow :=
  (t.users.find? (·.id == r.userId)).map fun u => ⟨r.userId, u.nickname, r.state, r.joinedAt⟩

/-- The players of a game in the order of joining. -/
def players (game : Id) : Except Failure (List Player) :=
  ((orderedBy MemberRow.joinedAt (t.members.filter (·.gameId == game))).filterMap
    t.joinNickname).mapM PlayerRow.toPlayer

def isMember (game user : Id) : Bool := t.members.any fun r => r.gameId == game && r.userId == user

def addPlayer (game user : Id) (time : Instant) : Except Failure RelationalTables := do
  if t.isMember game user then throw (.duplicateKey "players.game_id, players.user_id")
  let row : MemberRow := ⟨game, user, PlayerState.active.name, time.stored⟩
  if !t.memberHolds row then throw .brokenReference
  return { t with members := t.members ++ [row] }

def setState (game user : Id) (state : PlayerState) : Except Failure RelationalTables :=
  if t.isMember game user then
    .ok { t with
      members := t.members.map fun r =>
        if r.gameId == game && r.userId == user then { r with state := state.name } else r }
  else .error (.notPlaying user game)

/-! ## Turns, messages and scores -/

/-- The latest turn of the game; of several with the latest time the one that was added last. -/
def latestTurn (game : Id) : Except Failure (Option Turn) :=
  match (orderedBy TurnRow.createdAt (t.turns.filter (·.gameId == game))).getLast? with
  | some r => r.toTurn.map some
  | none => .ok none

def addTurn (game word : Id) (s : Stamp) : Except Failure (Turn × RelationalTables) := do
  let row : TurnRow := ⟨s.id, game, word, s.time.stored⟩
  if t.hasTurn s.id then throw (.duplicateKey "turns.id")
  if !t.turnHolds row then throw .brokenReference
  return (← row.toTurn, { t with turns := t.turns ++ [row] })

/-- The messages of the game, oldest first. -/
def messagesOf (game : Id) : Except Failure (List Message) :=
  (orderedBy MessageRow.createdAt (t.messages.filter (·.gameId == game))).mapM
    MessageRow.toMessage

def addMessage (game turn player : Id) (content : String) (s : Stamp) :
    Except Failure (Message × RelationalTables) := do
  let row : MessageRow := ⟨s.id, game, turn, player, content, s.time.stored⟩
  if t.hasMessage s.id then throw (.duplicateKey "messages.id")
  if !t.messageHolds row then throw .brokenReference
  return (← row.toMessage, { t with messages := t.messages ++ [row] })

/-- The scores of the game, oldest first. The points of all rows are read before any time is. -/
def scoresOf (game : Id) : Except Failure (List Score) := do
  let rows ← (orderedBy ScoreRow.createdAt (t.scores.filter (·.gameId == game))).mapM fun r =>
    r.points.toInt.map fun points => (r, points)
  rows.mapM fun (r, points) => r.toScore points

def addScore (award : Award) (time : Instant) : Except Failure RelationalTables := do
  let row : ScoreRow :=
    ⟨award.gameId, award.turnId, award.playerId, award.messageId, .whole award.points,
      time.stored⟩
  if !t.scoreHolds row then throw .brokenReference
  return { t with scores := t.scores ++ [row] }

end RelationalTables

end GuessingRoom
