import GuessingRoom.Model

/-!
# Notices

What connected players are told while it happens. Notices are not kept: who is not connected
learns of an event from the rows it left.
-/

namespace GuessingRoom

/-- The kinds of notices, each with a tag that stands for it on the wire. -/
inductive NoticeKind where
  | join
  | left
  | chat
  | correctGuess
  | turnEnded
deriving DecidableEq, Repr

namespace NoticeKind

def tag : NoticeKind → String
  | join => "join"
  | left => "left"
  | chat => "chat"
  | correctGuess => "guessed"
  | turnEnded => "turn_ended"

def ofTag? : String → Option NoticeKind
  | "join" => some join
  | "left" => some left
  | "chat" => some chat
  | "guessed" => some correctGuess
  | "turn_ended" => some turnEnded
  | _ => none

theorem ofTag?_tag (k : NoticeKind) : ofTag? k.tag = some k := by
  cases k <;> rfl

end NoticeKind

inductive Notice where
  /-- A player took a seat, for the first time or again. -/
  | join (playerId : Id) (nickname : String)
  /-- A player lost the seat. -/
  | left (playerId : Id)
  /-- A chat line or a guess; one that spells out the word is redacted. -/
  | chat (playerId : Id) (nickname content : String)
  /-- A player found the word. -/
  | correctGuess (playerId : Id) (nickname : String)
  /-- Every active player has found the word. -/
  | turnEnded
deriving DecidableEq, Repr

namespace Notice

def kind : Notice → NoticeKind
  | join .. => .join
  | left .. => .left
  | chat .. => .chat
  | correctGuess .. => .correctGuess
  | turnEnded => .turnEnded

end Notice

end GuessingRoom
