import GuessingRoom.Notice

/-!
# The publish queue

Notices that belong together go out as a batch. The batches of one game go out one after another,
in the order in which they were queued, and no game waits for another. For every game with a batch
still to go out the queue knows the number of the last one.
-/

namespace GuessingRoom

/-- A notice on its way out. -/
inductive Outgoing where
  /-- For everyone in the game but this player. -/
  | fromPlayer (sender : Id) (n : Notice)
  | broadcast (n : Notice)
deriving DecidableEq, Repr

namespace Outgoing

def notice : Outgoing → Notice
  | fromPlayer _ n => n
  | broadcast n => n

/-- The player to whom the notice does not go. -/
def excluded : Outgoing → Option Id
  | fromPlayer sender _ => some sender
  | broadcast _ => none

end Outgoing

structure Batch where
  game : Id
  number : Nat
  /-- The batch of the same game that has to be done first. -/
  previous : Option Nat
  /-- What has not yet begun to go out. -/
  items : List Outgoing
  /-- The delivery of the item that is going out. -/
  delivery : Option Nat := none
  /-- Whether everything has gone out, and the batch is only to leave the queue. -/
  done : Bool := false
deriving DecidableEq, Repr

structure PublishQueue where
  next : Nat := 0
  /-- The last batch of every game with batches still to go out. -/
  tails : List (Id × Nat) := []
deriving DecidableEq, Repr

namespace PublishQueue

/-- Queues the items as a batch of the game. -/
def push (q : PublishQueue) (game : Id) (items : List Outgoing) : Batch × PublishQueue :=
  ({ game, number := q.next, previous := q.tails.lookup game, items },
    { next := q.next + 1,
      tails := q.tails.filter (·.1 != game) ++ [(game, q.next)] })

/-- Forgets a batch, if it is still the last one of its game. -/
def leave (q : PublishQueue) (b : Batch) : PublishQueue :=
  { q with tails := q.tails.filter (· != (b.game, b.number)) }

end PublishQueue

end GuessingRoom
