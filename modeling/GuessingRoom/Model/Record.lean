import GuessingRoom.Json.Shape
import GuessingRoom.Model
import GuessingRoom.Time.Lenient
import GuessingRoom.Time.Written
import GuessingRoom.View

/-!
# Records as messages

The values that the program exchanges with its clients are objects with named fields. Each has a
shape, by which a text is read, a form in which it is written, and a way back from that form.
-/

namespace GuessingRoom

open Time (Instant readLenient?)

/-- Values that are exchanged as objects with named fields. -/
class Record (α : Type) where
  shape : Json.Shape
  toJson : α → Json
  ofJson? : Json → Option α

namespace Record

variable {α : Type} [Record α]

def write (a : α) : String := (toJson a).render

/-- The value of which a text is a form. -/
def read (cs : List Char) : Except Json.Fault α := do
  match ofJson? (← (shape α).read cs) with
  | some a => .ok a
  | none => .error .mismatched

end Record

/-- A value read from a text and written again, in the one form the program uses. -/
def canonical (α : Type) [Record α] (raw : String) : Option String :=
  ((Record.read raw.toList : Except Json.Fault α).toOption).map Record.write

/-! ## Kinds of fields -/

namespace Json

def ofInstant (t : Instant) : Json := .text t.write

def toInstant? : Json → Option Instant
  | .text s => readLenient? s
  | _ => none

def ofState (s : PlayerState) : Json := .text s.name

def toState? : Json → Option PlayerState
  | .text s => PlayerState.ofName? s
  | _ => none

/-- A record all of whose fields are texts. -/
def textShape (names : List String) : Shape := .record (names.map fun name => (name, .text)) false

/-- The items of a list, each of them a record. -/
def toRecords? {α : Type} [Record α] : Json → Option (List α)
  | .list items => items.mapM Record.ofJson?
  | _ => none

end Json

/-! ## Rows -/

instance : Record User where
  shape := Json.textShape ["id", "nickname", "created_at", "updated_at"]
  toJson u := .object [("id", .text u.id), ("nickname", .text u.nickname),
    ("created_at", .ofInstant u.createdAt), ("updated_at", .ofInstant u.updatedAt)]
  ofJson?
    | .object [(_, .text id), (_, .text nickname), (_, created), (_, updated)] => do
      some ⟨id, nickname, ← created.toInstant?, ← updated.toInstant?⟩
    | _ => none

instance : Record Game where
  shape := Json.textShape ["id", "created_at", "updated_at"]
  toJson g := .object [("id", .text g.id), ("created_at", .ofInstant g.createdAt),
    ("updated_at", .ofInstant g.updatedAt)]
  ofJson?
    | .object [(_, .text id), (_, created), (_, updated)] => do
      some ⟨id, ← created.toInstant?, ← updated.toInstant?⟩
    | _ => none

instance : Record Player where
  shape := .record [("id", .text), ("nickname", .text), ("state", .choice ["active", "inactive"]),
    ("joined_at", .text)] false
  toJson p := .object [("id", .text p.id), ("nickname", .text p.nickname),
    ("state", .ofState p.state), ("joined_at", .ofInstant p.joinedAt)]
  ofJson?
    | .object [(_, .text id), (_, .text nickname), (_, state), (_, joined)] => do
      some ⟨id, nickname, ← state.toState?, ← joined.toInstant?⟩
    | _ => none

instance : Record Word where
  shape := Json.textShape ["id", "word", "hint"]
  toJson w := .object [("id", .text w.id), ("word", .text w.word), ("hint", .text w.hint)]
  ofJson?
    | .object [(_, .text id), (_, .text word), (_, .text hint)] => some ⟨id, word, hint⟩
    | _ => none

instance : Record Turn where
  shape := Json.textShape ["id", "game_id", "word_id", "created_at"]
  toJson t := .object [("id", .text t.id), ("game_id", .text t.gameId),
    ("word_id", .text t.wordId), ("created_at", .ofInstant t.createdAt)]
  ofJson?
    | .object [(_, .text id), (_, .text game), (_, .text word), (_, created)] => do
      some ⟨id, game, word, ← created.toInstant?⟩
    | _ => none

instance : Record Message where
  shape := Json.textShape ["id", "game_id", "turn_id", "player_id", "content", "created_at"]
  toJson m := .object [("id", .text m.id), ("game_id", .text m.gameId),
    ("turn_id", .text m.turnId), ("player_id", .text m.playerId), ("content", .text m.content),
    ("created_at", .ofInstant m.createdAt)]
  ofJson?
    | .object [(_, .text id), (_, .text game), (_, .text turn), (_, .text player),
        (_, .text content), (_, created)] => do
      some ⟨id, game, turn, player, content, ← created.toInstant?⟩
    | _ => none

instance : Record Score where
  shape := .record [("game_id", .text), ("turn_id", .text), ("player_id", .text),
    ("message_id", .text), ("points", .integer), ("created_at", .text)] false
  toJson s := .object [("game_id", .text s.gameId), ("turn_id", .text s.turnId),
    ("player_id", .text s.playerId), ("message_id", .text s.messageId),
    ("points", .integer s.points), ("created_at", .ofInstant s.createdAt)]
  ofJson?
    | .object [(_, .text game), (_, .text turn), (_, .text player), (_, .text message),
        (_, .integer points), (_, created)] => do
      some ⟨⟨game, turn, player, message, points⟩, ← created.toInstant?⟩
    | _ => none

/-! ## Views -/

instance : Record Standing where
  shape := .record [("nickname", .text), ("me", .flag), ("guessed_word", .flag),
    ("score", .integer)] false
  toJson s := .object [("nickname", .text s.nickname), ("me", .flag s.me),
    ("guessed_word", .flag s.guessedWord), ("score", .integer s.score)]
  ofJson?
    | .object [(_, .text nickname), (_, .flag me), (_, .flag guessed), (_, .integer score)] =>
      some ⟨nickname, me, guessed, score⟩
    | _ => none

instance : Record Post where
  shape := .record [("me", .flag), ("nickname", .text), ("content", .text)] false
  toJson p := .object [("me", .flag p.me), ("nickname", .text p.nickname),
    ("content", .text p.content)]
  ofJson?
    | .object [(_, .flag me), (_, .text nickname), (_, .text content)] =>
      some ⟨me, nickname, content⟩
    | _ => none

instance : Record View where
  shape := .record [("game_id", .text), ("current_user_id", .text), ("turn_id", .text),
    ("turn_ended", .flag), ("word", .text), ("hint", .text),
    ("messages", .list (Record.shape Post)), ("leaderboard", .list (Record.shape Standing))] false
  toJson v := .object [("game_id", .text v.gameId), ("current_user_id", .text v.viewerId),
    ("turn_id", .text v.turnId), ("turn_ended", .flag v.turnEnded), ("word", .text v.word),
    ("hint", .text v.hint), ("messages", .list (v.messages.map Record.toJson)),
    ("leaderboard", .list (v.leaderboard.map Record.toJson))]
  ofJson?
    | .object [(_, .text game), (_, .text viewer), (_, .text turn), (_, .flag ended),
        (_, .text word), (_, .text hint), (_, messages), (_, leaderboard)] => do
      some ⟨game, viewer, turn, ended, word, hint, ← messages.toRecords?,
        ← leaderboard.toRecords?⟩
    | _ => none

/-! ## Requests and answers -/

/-- The answer to a new session. -/
structure SessionAnswer where
  userId : Id
  nickname : String
deriving DecidableEq, Repr

instance : Record SessionAnswer where
  shape := Json.textShape ["user_id", "nickname"]
  toJson a := .object [("user_id", .text a.userId), ("nickname", .text a.nickname)]
  ofJson?
    | .object [(_, .text user), (_, .text nickname)] => some ⟨user, nickname⟩
    | _ => none

/-- The answer to a new game. -/
structure GameAnswer where
  gameId : Id
deriving DecidableEq, Repr

instance : Record GameAnswer where
  shape := Json.textShape ["game_id"]
  toJson a := .object [("game_id", .text a.gameId)]
  ofJson?
    | .object [(_, .text game)] => some ⟨game⟩
    | _ => none

/-- The text of a guess or a chat line; a request with other fields is refused. -/
structure ContentRequest where
  content : String
deriving DecidableEq, Repr

instance : Record ContentRequest where
  shape := .record [("content", .text)] true
  toJson r := .object [("content", .text r.content)]
  ofJson?
    | .object [(_, .text content)] => some ⟨content⟩
    | _ => none

structure WordAnswer where
  word : String
deriving DecidableEq, Repr

instance : Record WordAnswer where
  shape := Json.textShape ["word"]
  toJson a := .object [("word", .text a.word)]
  ofJson?
    | .object [(_, .text word)] => some ⟨word⟩
    | _ => none

structure ErrorAnswer where
  error : String
deriving DecidableEq, Repr

instance : Record ErrorAnswer where
  shape := Json.textShape ["error"]
  toJson a := .object [("error", .text a.error)]
  ofJson?
    | .object [(_, .text error)] => some ⟨error⟩
    | _ => none

end GuessingRoom
