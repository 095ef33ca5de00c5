import GuessingRoom.Http.Message
import GuessingRoom.Service

/-!
# Event streams

A player's connection as the client sees it: the whole view of the game first, then an event for
every notice. A chat line is rendered for the receiver, all else is passed on as it is. When
nothing has been sent for a while, a comment keeps the stream open.
-/

namespace GuessingRoom.Http

structure EventStream where
  /-- The number of the stream, which is that of its feed. -/
  feed : Nat
  viewer : Id
  /-- The view with which the stream begins, until it has been read. -/
  opening : Option View
  /-- When the stream was opened or last read from. -/
  lastFrame : Nat
deriving DecidableEq, Repr

namespace EventStream

/-- How many milliseconds without an event there may be. -/
def keepAlive : Nat := 15000

/-- An event with a name and data, both of which are single lines. -/
def frame (name data : String) : String :=
  if data.isEmpty then "event: " ++ name else "event: " ++ name ++ "\ndata: " ++ data

/-- The data of a notice as the viewer gets it. -/
def renderData (viewer : Id) (kind : NoticeKind) (payload : String) : Except CodecError String :=
  match Notice.decode kind.tag payload with
  | .ok (.chat player nickname content) =>
    .ok (Record.write (Post.mk (player == viewer) nickname content))
  | .ok _ => .ok payload
  | .error e => .error e

/-- The frames of notices, up to the first one that cannot be rendered. -/
def frames (viewer : Id) : List (NoticeKind × String) → List String
  | [] => []
  | (kind, payload) :: rest =>
    match renderData viewer kind payload with
    | .ok data => frame kind.tag data :: frames viewer rest
    | .error _ => []

def openingFrames (s : EventStream) : List String :=
  match s.opening with
  | some v => [frame "init" (Record.write v)]
  | none => []

/-- Everything that can be read at the moment, whether the stream stays open, and the stream
afterwards. -/
def read (s : EventStream) (inbox : Inbox) (now : Nat) : List String × Bool × EventStream :=
  let events := s.openingFrames ++ frames s.viewer inbox.unread
  let isOpen := inbox.outcome.isNone
  let comments := if events.isEmpty && isOpen && keepAlive ≤ now - s.lastFrame then [":"] else []
  let sent := events ++ comments
  (sent, isOpen,
    { s with opening := none, lastFrame := if sent.isEmpty then s.lastFrame else now })

end EventStream

end GuessingRoom.Http
