import GuessingRoom.Game.Error
import GuessingRoom.Hub

/-!
# Feeds

A feed reads the notices of one connection and hands them on, encoded, until it is told to end,
its connection ends or the receiver fails. Whichever way it ends, it takes the player off the hub.
-/

namespace GuessingRoom

/-- Who receives the notices of a feed, and what has come of it. -/
structure Inbox where
  /-- The number of the feed. -/
  feed : Nat
  /-- What has been received and not yet looked at. -/
  unread : List (NoticeKind × String) := []
  /-- How often something has been handed on. -/
  calls : Nat := 0
  /-- The call, counted from one, at which the receiver fails. -/
  failsAt : Option Nat := none
  failure : String := "client went away"
  /-- Whether the receiver has gone for good, so that every call fails. -/
  gone : Bool := false
  /-- How the feed ended. -/
  outcome : Option (Except FeedError Unit) := none

namespace Inbox

/-- Hands on a notice; a receiver that fails gives the text of its failure. -/
def receive (i : Inbox) (n : Notice) : Except String Unit × Inbox :=
  let called := { i with calls := i.calls + 1 }
  if i.gone then (.error "event stream dropped", called)
  else if i.failsAt = some called.calls then (.error i.failure, called)
  else (.ok (), { called with unread := i.unread ++ [n.encode] })

end Inbox

inductive FeedPhase where
  | opening
  | reading (channel : ChannelId)
  | leaving (channel : ChannelId)
  | closing (channel : ChannelId)
deriving DecidableEq, Repr

structure Feed where
  id : Nat
  game : Id
  player : Id
  phase : FeedPhase := .opening
  /-- Whether the feed has been told to end. -/
  cancelled : Bool := false
  /-- Whether the feed ends with the service. -/
  tied : Bool := true
  /-- Whether the player loses the seat if not back in time after the feed has ended. -/
  kicks : Bool := false
  failure : Option FeedError := none
deriving DecidableEq, Repr

end GuessingRoom
