import GuessingRoom.Game.Guess
import GuessingRoom.Nickname
import GuessingRoom.Service
import GuessingRoom.View

/-!
# Operations of the game

What players can do: open a session, open a game, join one, guess the word, post a message, and
look at the game. Every look at the store, every single write and every unit of work is one step,
and so is what the operation leaves to the background: notices to go out, a turn to begin.
-/

namespace GuessingRoom.Operation

/-! ## Opening -/

/-- Makes a user with a nickname of two words. -/
def initUser : Operation User := do
  let stamp ← entry Entry.stamp
  let adjective ← entry (Entry.choose Nickname.adjectives)
  let animal ← entry (Entry.choose Nickname.animals)
  entry (Entry.upsertUser stamp.id (adjective.getD "Silly" ++ animal.getD "Cat"))
  entry (Entry.requireUser stamp.id)

/-- Makes a game with its first player and its first turn. -/
def openGame (user : Id) (word : Word) : Entry Game := do
  let game ← Entry.createGame
  Entry.addPlayer game.id user
  let _ ← Entry.addTurn game.id word.id
  return game

def initGame (user : Id) : Operation Game := do
  let user ← entry (Entry.requireUser user)
  let word ← entry Entry.drawWord
  entry (Entry.inUnit (openGame user.id word))

/-! ## Seats -/

/-- Gives the user a seat, or the old seat back. -/
def takeSeat (settings : RoomSettings) (game : Id) (user : User) : Entry Unit := do
  let players ← Entry.look (·.players game)
  let existing := players.find? (·.id == user.id)
  if existing.any Player.isActive then throw .alreadyJoined
  if settings.capacity ≤ (players.filter Player.isActive).length then throw .roomFull
  match existing with
  | some _ => Entry.put (·.setState game user.id .active)
  | none => Entry.addPlayer game user.id

def join (game userId : Id) : Operation Unit := do
  let user ← entry (Entry.requireUser userId)
  let _ ← entry (Entry.requireGame game)
  entryWith fun settings => Entry.inUnit (takeSeat settings game user)
  change (Service.publishLater game [.fromPlayer userId (.join userId user.nickname)])

/-- Takes the seat of a player who is not connected; tells whether there was one to take. -/
def kick (game user : Id) : Operation Bool := do
  if ← look fun s => (s.hub.subscribers game).contains user then return false
  let players ← entry (Entry.look (·.players game))
  match players.find? (·.id == user) with
  | none => throw .notInGame
  | some p =>
    if !p.isActive then return false
    entry (Entry.put (·.setState game user .inactive))
    change (Service.publishLater game [.fromPlayer user (.left user)])
    return true

/-! ## Guesses and messages -/

/-- What the others are told of a message. -/
def chat (m : Message) (nickname content : String) : Outgoing :=
  .fromPlayer m.playerId (.chat m.playerId nickname content)

/-- What is to go out after a guess. -/
def guessNotices (m : Message) (nickname : String) : Verdict → List Outgoing
  | .miss => [chat m nickname m.content]
  | .again => [chat m nickname Secret.redacted]
  | .scored _ turnOver =>
    [chat m nickname Secret.redacted, .fromPlayer m.playerId (.correctGuess m.playerId nickname)] ++
      if turnOver then [.broadcast .turnEnded] else []

/-- The sender's own view of a message. -/
def ownPost (m : Message) (nickname : String) : Post := ⟨true, nickname, m.content⟩

def guess (game user : Id) (content : String) : Operation Post := do
  let user ← entry (Entry.requireUser user)
  let _ ← entry (Entry.requireGame game)
  let turn ← entry (Entry.requireTurn game)
  let word ← entry (Entry.requireWord turn.wordId)
  let (message, verdict) ← entryWith fun settings =>
    Entry.inUnit (Entry.judge settings game turn word user content)
  change (Service.publishLater message.gameId (guessNotices message user.nickname verdict))
  if verdict.endsTurn then
    change fun s => s.schedule s.settings.turnDelay (.nextTurn message.gameId)
  return ownPost message user.nickname

/-- Posts a chat line, which never scores. -/
def say (game user : Id) (content : String) : Operation Post := do
  let user ← entry (Entry.requireUser user)
  let _ ← entry (Entry.requireGame game)
  let turn ← entry (Entry.requireTurn game)
  let word ← entry (Entry.requireWord turn.wordId)
  let active ← entry (Entry.look (·.activePlayers game))
  if !active.any (·.id == user.id) then throw .notInGame
  let message ← entry (Entry.addMessage game turn.id user.id content)
  let shown := if Secret.sameWord content word.word then Secret.redacted else message.content
  change (Service.publishLater message.gameId [chat message user.nickname shown])
  return ownPost message user.nickname

/-! ## Looking -/

/-- The game as an active player sees it. -/
def view (game viewer : Id) : Operation View := do
  let _ ← entry (Entry.requireGame game)
  let players ← entry (Entry.look (·.players game))
  if !Board.isSeated players viewer then throw .notInGame
  let turn ← entry (Entry.requireTurn game)
  let word ← entry (Entry.requireWord turn.wordId)
  let messages ← entry (Entry.look (·.messages game))
  let scores ← entry (Entry.look (·.scores game))
  liftExcept (View.derive ⟨game, players, turn, word, messages, scores⟩ viewer)
where
  liftExcept (r : Except GameError View) : Operation View := ExceptT.mk (pure r)

def leaderboard (game viewer : Id) : Operation (List Standing) :=
  View.leaderboard <$> view game viewer

def word (game viewer : Id) : Operation String := View.word <$> view game viewer

/-! ## In the background -/

/-- Begins the next turn of a game with a word drawn anew. -/
def nextTurn (game : Id) : Operation Unit := do
  let word ← entry Entry.drawWord
  let _ ← entry (Entry.addTurn game word.id)
  return ()

/-- What an event does; nobody is told if it fails. -/
def ofEvent : Event → Operation Unit
  | .nextTurn game => nextTurn game
  | .kick game user => discard (kick game user)

end GuessingRoom.Operation
