import GuessingRoom.Game.Error
import GuessingRoom.Store
import GuessingRoom.Store.Supply

/-!
# Keeping the books

The store together with the supply from which new rows get their identifiers and times. A draw is
used up whether or not what it was made for succeeds.

An entry is work on the books that ends with a value or an error of the game. Entries put together
in a unit leave either all of their writes or none.
-/

namespace GuessingRoom

structure Books where
  store : Store
  supply : Supply
  /-- How many draws have been made. -/
  drawn : Nat := 0

/-- Work on the books. -/
abbrev Entry := ExceptT GameError (StateM Books)

namespace Entry

/-- What the store holds. -/
def look {α : Type} (query : Store → Except Failure α) : Entry α := fun books =>
  match query books.store with
  | .ok a => (.ok a, books)
  | .error f => (.error (.persistence f), books)

/-- Changes the store, or leaves it if that fails. -/
def write {α : Type} (change : Store → Except Failure (α × Store)) : Entry α := fun books =>
  match change books.store with
  | .ok (a, store) => (.ok a, { books with store })
  | .error f => (.error (.persistence f), books)

/-- Changes the store without a result. -/
def put (change : Store → Except Failure Store) : Entry Unit :=
  write fun s => (change s).map fun s => ((), s)

def stamp : Entry Stamp := fun books =>
  (.ok (books.supply.stamp books.drawn), { books with drawn := books.drawn + 1 })

/-- One of the items, by the next draw. -/
def choose {α : Type} (items : List α) : Entry (Option α) := fun books =>
  (.ok items[books.supply.choice books.drawn % items.length]?,
    { books with drawn := books.drawn + 1 })

/-- All of the entry's writes if it ends with a value, and none of them otherwise. -/
def inUnit {α : Type} (entry : Entry α) : Entry α := fun books =>
  match entry books with
  | (.ok a, after) => (.ok a, { after with store := WorkUnit.commit ⟨books.store, after.store⟩ })
  | (.error e, after) =>
    (.error e, { after with store := WorkUnit.abandon ⟨books.store, after.store⟩ })

/-! ## Writes with a stamp -/

def createGame : Entry Game := do
  let stamp ← stamp
  write (·.createGame stamp)

def addPlayer (game user : Id) : Entry Unit := do
  let stamp ← stamp
  put (·.addPlayer game user stamp.time)

def addTurn (game word : Id) : Entry Turn := do
  let stamp ← stamp
  write (·.addTurn game word stamp)

def addMessage (game turn player : Id) (content : String) : Entry Message := do
  let stamp ← stamp
  write (·.addMessage game turn player content stamp)

def addScore (award : Award) : Entry Unit := do
  let stamp ← stamp
  put (·.addScore award stamp.time)

def upsertUser (id : Id) (nickname : String) : Entry Unit := do
  let stamp ← stamp
  put fun s => .ok (s.upsertUser id nickname stamp.time)

/-! ## Rows that have to be there -/

def requireUser (id : Id) : Entry User := do
  match ← look (·.findUser id) with
  | some user => return user
  | none => throw (.userNotFound id)

def requireGame (id : Id) : Entry Game := do
  match ← look (·.findGame id) with
  | some game => return game
  | none => throw (.gameNotFound id)

def requireTurn (game : Id) : Entry Turn := do
  match ← look (·.latestTurn game) with
  | some turn => return turn
  | none => throw (.turnNotFound game)

def requireWord (id : Id) : Entry Word := do
  match ← look fun s => .ok (s.findWord id) with
  | some word => return word
  | none => throw (.wordNotFound id)

/-- One of the words. -/
def drawWord : Entry Word := do
  let words ← look fun s => .ok s.allWords
  match ← choose words with
  | some word => return word
  | none => throw .noWords

end Entry

end GuessingRoom
