import GuessingRoom.Script
import GuessingRoom.Service.Feed
import GuessingRoom.Service.Queue
import GuessingRoom.Settings.Room
import GuessingRoom.Store.Books

/-!
# The service

The state that all operations share: the books, the hub with the connected players, and the jobs
that go on in the background. Jobs are deliveries, batches of the publish queue, feeds, and events
that wait for their time.
-/

namespace GuessingRoom

/-- What happens when its time has come. -/
inductive Event where
  /-- The game goes on to its next turn. -/
  | nextTurn (game : Id)
  /-- The player loses the seat unless connected. -/
  | kick (game user : Id)
deriving DecidableEq, Repr

inductive Job where
  | batch (b : Batch)
  /-- A delivery that is not part of a batch. -/
  | delivery (id : Nat)
  | feed (f : Feed)
  | timer (due : Nat) (event : Event)
deriving DecidableEq, Repr

structure Service where
  settings : RoomSettings
  books : Books
  hub : Hub := {}
  queue : PublishQueue := {}
  /-- The jobs, of which the one that has waited longest comes first. -/
  jobs : List Job := []
  inboxes : List Inbox := []
  /-- How many channels took the notice of a delivery that has ended and was no part of a batch. -/
  reports : List (Nat × Nat) := []
  nextFeed : Nat := 0
  /-- Milliseconds since the service began. -/
  now : Nat := 0
  /-- Whether the service has been told to end. -/
  closing : Bool := false

namespace Service

/-- Does work on the books. -/
def work {α : Type} (entry : Entry α) (s : Service) : Except GameError α × Service :=
  match entry s.books with
  | (result, books) => (result, { s with books })

def spawn (t : Job) (s : Service) : Service := { s with jobs := s.jobs ++ [t] }

/-- Queues notices of a game. -/
def publishLater (game : Id) (items : List Outgoing) (s : Service) : Service :=
  match s.queue.push game items with
  | (batch, queue) => { s with queue }.spawn (.batch batch)

/-- Lets an event happen after a time. -/
def schedule (delay : Nat) (event : Event) (s : Service) : Service :=
  s.spawn (.timer (s.now + delay) event)

/-- Lets a player lose the seat of a game after a time. -/
def kickAfter (game user : Id) (delay : Nat) : Service → Service := schedule delay (.kick game user)

/-! ## Feeds -/

/-- Starts a feed with an inbox of its own. -/
def openFeed (game player : Id) (set : Feed → Feed) (receiver : Inbox → Inbox) (s : Service) :
    Nat × Service :=
  (s.nextFeed,
    { s with
      nextFeed := s.nextFeed + 1
      inboxes := s.inboxes ++ [receiver { feed := s.nextFeed }]
      jobs := s.jobs ++ [.feed (set { id := s.nextFeed, game, player })] })

def inbox? (s : Service) (feed : Nat) : Option Inbox := s.inboxes.find? (·.feed == feed)

def setInbox (i : Inbox) (s : Service) : Service :=
  { s with inboxes := s.inboxes.map fun j => if j.feed == i.feed then i else j }

/-- Tells a feed to end, which makes it the last of the jobs that can go on. -/
def cancelFeed (feed : Nat) (s : Service) : Service :=
  let isMeant : Job → Bool
    | .feed f => f.id == feed
    | _ => false
  let cancel : Job → Job
    | .feed f => .feed { f with cancelled := true }
    | t => t
  { s with jobs := s.jobs.filter (!isMeant ·) ++ (s.jobs.filter isMeant).map cancel }

/-- Takes what a feed has handed on since the last time. -/
def readInbox (feed : Nat) (s : Service) : Option Inbox × Service :=
  match s.inbox? feed with
  | some i => (some i, s.setInbox { i with unread := [] })
  | none => (none, s)

end Service

/-! ## Operations -/

/-- A course of steps on the service that may fail. -/
abbrev Operation := ExceptT GameError (Script Service)

namespace Operation

/-- A step of its own. -/
def step {α : Type} (f : Service → Except GameError α × Service) : Operation α := Script.act f

/-- A step that cannot fail. -/
def change (f : Service → Service) : Operation Unit := step fun s => (.ok (), f s)

/-- A step that only looks. -/
def look {α : Type} (f : Service → α) : Operation α := step fun s => (.ok (f s), s)

/-- Work on the books as one step. -/
def entry {α : Type} (e : Entry α) : Operation α := step (Service.work e)

/-- Work on the books that depends on the settings, as one step. -/
def entryWith {α : Type} (e : RoomSettings → Entry α) : Operation α :=
  step fun s => s.work (e s.settings)

/-- All steps in a row. -/
def run {α : Type} (op : Operation α) (s : Service) : Except GameError α × Service :=
  Script.run op s

end Operation

end GuessingRoom
