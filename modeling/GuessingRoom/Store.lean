import GuessingRoom.Store.Memory
import GuessingRoom.Store.Migration

/-!
# The store

Where users, games and words are kept, either in memory or in relational tables. A write gives the
store it leaves or fails, and a failed write changes nothing.

Writes can be put together in a unit of work. They are made on a draft of the store, which takes
the place of the store when the unit is committed and is forgotten otherwise.
-/

namespace GuessingRoom

open Time (Instant)

inductive Store where
  | memory (m : Memory)
  | relational (t : RelationalTables)
deriving DecidableEq, Repr

namespace Store

/-- Takes up the tables that a write in memory leaves. -/
def keep {α : Type} (m : Memory) : α × MemoryTables → α × Store
  | (a, tables) => (a, .memory { m with tables })

/-- Takes up the tables that a relational write leaves. -/
def keepRows {α : Type} : α × RelationalTables → α × Store
  | (a, tables) => (a, .relational tables)

/-! ## Users and words -/

def findUser (s : Store) (id : Id) : Except Failure (Option User) :=
  match s with
  | .memory m => .ok (m.tables.findUser id)
  | .relational t => t.findUser id

def upsertUser (s : Store) (id : Id) (nickname : String) (time : Instant) : Store :=
  match s with
  | .memory m => .memory { m with tables := m.tables.upsertUser id nickname time }
  | .relational t => .relational (t.upsertUser id nickname time)

def allWords (s : Store) : List Word :=
  match s with
  | .memory m => m.words
  | .relational t => t.allWords

def findWord (s : Store) (id : Id) : Option Word :=
  match s with
  | .memory m => m.words.find? (·.id == id)
  | .relational t => t.findWord id

/-! ## Reading a game -/

def findGame (s : Store) (id : Id) : Except Failure (Option Game) :=
  match s with
  | .memory m => .ok (m.tables.findGame id)
  | .relational t => t.findGame id

def players (s : Store) (game : Id) : Except Failure (List Player) :=
  match s with
  | .memory m => .ok (m.tables.players game)
  | .relational t => t.players game

def activePlayers (s : Store) (game : Id) : Except Failure (List Player) :=
  (s.players game).map fun players => players.filter Player.isActive

def latestTurn (s : Store) (game : Id) : Except Failure (Option Turn) :=
  match s with
  | .memory m => .ok (m.tables.latestTurn game)
  | .relational t => t.latestTurn game

def messages (s : Store) (game : Id) : Except Failure (List Message) :=
  match s with
  | .memory m => .ok (m.tables.messagesOf game)
  | .relational t => t.messagesOf game

def scores (s : Store) (game : Id) : Except Failure (List Score) :=
  match s with
  | .memory m => .ok (m.tables.scoresOf game)
  | .relational t => t.scoresOf game

/-! ## Writing a game -/

def createGame (s : Store) (stamp : Stamp) : Except Failure (Game × Store) :=
  match s with
  | .memory m => .ok (keep m (m.tables.createGame stamp))
  | .relational t => (t.createGame stamp).map keepRows

def addPlayer (s : Store) (game user : Id) (time : Instant) : Except Failure Store :=
  match s with
  | .memory m => (m.tables.addPlayer game user time).map fun tables => .memory { m with tables }
  | .relational t => (t.addPlayer game user time).map .relational

def setState (s : Store) (game user : Id) (state : PlayerState) : Except Failure Store :=
  match s with
  | .memory m => (m.tables.setState game user state).map fun tables => .memory { m with tables }
  | .relational t => (t.setState game user state).map .relational

def addTurn (s : Store) (game word : Id) (stamp : Stamp) : Except Failure (Turn × Store) :=
  match s with
  | .memory m => .ok (keep m (m.tables.addTurn game word stamp))
  | .relational t => (t.addTurn game word stamp).map keepRows

def addMessage (s : Store) (game turn player : Id) (content : String) (stamp : Stamp) :
    Except Failure (Message × Store) :=
  match s with
  | .memory m => .ok (keep m (m.tables.addMessage game turn player content stamp))
  | .relational t => (t.addMessage game turn player content stamp).map keepRows

def addScore (s : Store) (award : Award) (time : Instant) : Except Failure Store :=
  match s with
  | .memory m =>
    if m.refusesScores then .error .scoresRefused
    else .ok (.memory { m with tables := m.tables.addScore award time })
  | .relational t => (t.addScore award time).map .relational

end Store

/-! ## Units of work -/

/-- An open unit of work: the store as it was, and the draft that the unit has made of it. -/
structure WorkUnit where
  base : Store
  draft : Store
deriving DecidableEq, Repr

namespace WorkUnit

def start (s : Store) : WorkUnit := ⟨s, s⟩

/-- The store once the unit is committed. Memory keeps count. -/
def commit (u : WorkUnit) : Store :=
  match u.draft with
  | .memory m => .memory { m with commits := m.commits + 1 }
  | .relational t => .relational t

/-- The store once the unit is given up, on purpose or not. Memory keeps count. -/
def abandon (u : WorkUnit) : Store :=
  match u.base with
  | .memory m => .memory { m with rollbacks := m.rollbacks + 1 }
  | .relational t => .relational t

end WorkUnit

end GuessingRoom
