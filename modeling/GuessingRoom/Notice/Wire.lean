import GuessingRoom.Json.Shape
import GuessingRoom.Notice

/-!
# Notices on the wire

A notice travels as the tag of its kind and a payload: an object of the fields the kind has, and
nothing at all for the end of a turn.
-/

namespace GuessingRoom

/-- Why a tag and a payload stand for no notice. -/
inductive CodecError where
  | unknownKind (tag : String)
  | malformed (kind : NoticeKind)
  | unexpectedPayload (kind : NoticeKind)
deriving DecidableEq, Repr

namespace CodecError

def message : CodecError → String
  | unknownKind tag => s!"unknown notification type '{tag}'"
  | malformed kind => s!"malformed {kind.tag} payload"
  | unexpectedPayload kind => s!"{kind.tag} notifications carry no payload"

end CodecError

namespace NoticeKind

def parse (tag : String) : Except CodecError NoticeKind :=
  match ofTag? tag with
  | some kind => .ok kind
  | none => .error (.unknownKind tag)

/-- The names of the fields of a payload, all of them texts. -/
def fields : NoticeKind → List String
  | join => ["player_id", "nickname"]
  | left => ["player_id"]
  | chat => ["player_id", "nickname", "content"]
  | correctGuess => ["player_id", "nickname"]
  | turnEnded => []

def shape (kind : NoticeKind) : Json.Shape :=
  .record (kind.fields.map fun name => (name, .text)) false

end NoticeKind

namespace Notice

/-- The fields of a notice, in the order of `NoticeKind.fields`. -/
def values : Notice → List String
  | join player nickname => [player, nickname]
  | left player => [player]
  | chat player nickname content => [player, nickname, content]
  | correctGuess player nickname => [player, nickname]
  | turnEnded => []

/-- The notice of a kind with the given fields. -/
def ofValues? : NoticeKind → List String → Option Notice
  | .join, [player, nickname] => some (join player nickname)
  | .left, [player] => some (left player)
  | .chat, [player, nickname, content] => some (chat player nickname content)
  | .correctGuess, [player, nickname] => some (correctGuess player nickname)
  | .turnEnded, [] => some turnEnded
  | _, _ => none

theorem ofValues?_values (n : Notice) : ofValues? n.kind n.values = some n := by
  cases n <;> rfl

/-- The names and values of a notice's fields. -/
def toJson (n : Notice) : Json := .object (n.kind.fields.zip (n.values.map .text))

def payload : Notice → String
  | turnEnded => ""
  | n => n.toJson.render

/-- The notice as tag and payload. -/
def encode (n : Notice) : NoticeKind × String := (n.kind, n.payload)

/-- The values of an object that consists of texts. -/
def textValues? : Json → Option (List String)
  | .object members => members.mapM fun
    | (_, .text s) => some s
    | _ => none
  | _ => none

def decodeKind (kind : NoticeKind) (payload : String) : Except CodecError Notice :=
  match kind with
  | .turnEnded => if payload.isEmpty then .ok turnEnded else .error (.unexpectedPayload .turnEnded)
  | kind =>
    match (kind.shape.read payload.toList).toOption.bind textValues? |>.bind (ofValues? kind) with
    | some n => .ok n
    | none => .error (.malformed kind)

def decode (tag payload : String) : Except CodecError Notice := do
  decodeKind (← NoticeKind.parse tag) payload

end Notice

end GuessingRoom
