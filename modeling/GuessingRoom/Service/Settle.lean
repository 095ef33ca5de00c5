import GuessingRoom.Game.Operation

/-!
# The background

Jobs go on by turns. The job that has waited longest and can go on does so until it has to wait
or ends, and then it waits behind all others. The service has settled when every job waits: for a
channel to be read, for an earlier batch, for a notice, or for its time.
-/

namespace GuessingRoom

/-- What a job does next. -/
inductive Job.Move where
  | waiting
  | going (s : Service) (t : Job)
  | ended (s : Service)

namespace Service

open Job (Move)

/-! ## Deliveries and batches -/

/-- The next step of a delivery given by its number; an unknown one has ended without effect. -/
def advanceDelivery (s : Service) (id : Nat) : Hub.Progress :=
  match s.hub.delivery? id with
  | some d => s.hub.advance d s.now
  | none => .finished 0 s.hub

/-- Whether a batch of the given number has still something to deliver. -/
def isPublishing (s : Service) (number : Nat) : Bool :=
  s.jobs.any fun
    | .batch b => b.number == number && !b.done
    | _ => false

def moveBatch (s : Service) (b : Batch) : Move :=
  if b.done then .ended { s with queue := s.queue.leave b }
  else match b.delivery with
    | some id =>
      match s.advanceDelivery id with
      | .waiting => .waiting
      | .going hub => .going { s with hub } (.batch b)
      | .finished _ hub => .going { s with hub } (.batch { b with delivery := none })
    | none =>
      if b.previous.any s.isPublishing then .waiting
      else match b.items with
        | [] => .going s (.batch { b with done := true })
        | item :: items =>
          match s.hub.publish b.game item.excluded item.notice with
          | (id, hub) =>
            .going { s with hub } (.batch { b with items, delivery := some id, previous := none })

def moveDelivery (s : Service) (id : Nat) : Move :=
  match s.advanceDelivery id with
  | .waiting => .waiting
  | .going hub => .going { s with hub } (.delivery id)
  | .finished accepted hub => .ended { s with hub, reports := s.reports ++ [(id, accepted)] }

/-! ## Feeds -/

/-- Whether the feed has been told to end, by itself or with the service. -/
def stops (s : Service) (f : Feed) : Bool := f.cancelled || f.tied && s.closing

/-- Hands a notice on to the inbox of a feed. -/
def handOn (s : Service) (f : Feed) (n : Notice) : Option FeedError × Service :=
  match s.inbox? f.id with
  | some i =>
    match i.receive n with
    | (.ok (), i) => (none, s.setInbox i)
    | (.error text, i) => (some (.handler text), s.setInbox i)
  | none => (none, s)

/-- Records how a feed ended. -/
def closeInbox (f : Feed) (s : Service) : Service :=
  match s.inbox? f.id with
  | some i =>
    s.setInbox { i with
      outcome := some (match f.failure with
        | some e => .error e
        | none => .ok ()) }
  | none => s

def moveFeed (s : Service) (f : Feed) : Move :=
  match f.phase with
  | .opening =>
    match s.hub.subscribe f.game f.player s.now with
    | (channel, hub) => .going { s with hub } (.feed { f with phase := .reading channel })
  | .reading channel =>
    match s.hub.receive channel with
    | (.notice n, hub) =>
      match { s with hub }.handOn f n with
      | (none, s) => .going s (.feed f)
      | (some e, s) => .going s (.feed { f with phase := .leaving channel, failure := some e })
    | (.closed, _) => .going s (.feed { f with phase := .leaving channel })
    | (.empty, _) =>
      if s.stops f then .going s (.feed { f with phase := .leaving channel }) else .waiting
  | .leaving channel =>
    .going { s with hub := s.hub.unsubscribe f.player } (.feed { f with phase := .closing channel })
  | .closing channel =>
    let s := closeInbox f { s with hub := s.hub.release channel }
    .ended (if f.kicks then s.kickAfter f.game f.player s.settings.kickDelay else s)

/-! ## Timers -/

/-- An event happens when its time has come, and not at all once the service is told to end. -/
def moveTimer (s : Service) (due : Nat) (event : Event) : Move :=
  if s.closing then .ended s
  else if due ≤ s.now then .ended ((Operation.ofEvent event).run s).2
  else .waiting

/-! ## Turns -/

def move (s : Service) : Job → Move
  | .batch b => s.moveBatch b
  | .delivery id => s.moveDelivery id
  | .feed f => s.moveFeed f
  | .timer due event => s.moveTimer due event

def isReady (s : Service) (t : Job) : Bool :=
  match s.move t with
  | .waiting => false
  | _ => true

/-- The job that has waited longest of those that can go on, and the service without it. -/
def takeReady (s : Service) : Option (Job × Service) :=
  match s.jobs.find? s.isReady with
  | some t => some (t, { s with jobs := s.jobs.erase t })
  | none => none

/-- A job goes on until it has to wait or ends. -/
def runJob : Nat → Service → Job → Service
  | 0, s, t => s.spawn t
  | fuel + 1, s, t =>
    match s.move t with
    | .waiting => s.spawn t
    | .going s t => runJob fuel s t
    | .ended s => s

/-! ## How much is left to do -/

/-- How many channels a delivery that begins may go to. -/
def reach (s : Service) : Nat :=
  s.hub.subscriptions.length + s.jobs.countP fun
    | .feed _ => true
    | _ => false

/-- A bound for the steps of a number of notices that have not begun to go out. -/
def itemLoad (reach items : Nat) : Nat := items * (4 + 4 * reach)

/-- A bound for the steps of a job and of all that follows from it. -/
def jobLoad (reach : Nat) : Job → Nat
  | .batch b => 4 + itemLoad reach b.items.length
  | .delivery _ => 2
  | .timer .. => 6 + itemLoad reach 1
  | .feed _ => 12 + itemLoad reach 1

/-- A bound for the steps until everything waits: a notice takes three steps at each channel it
still has to go to, one of them its reader's. -/
def load (s : Service) : Nat :=
  s.jobs.foldr (fun t total => jobLoad s.reach t + total) 0 +
    s.hub.deliveries.foldr (fun d total => 2 + 4 * d.targets.length + total) 0 +
    2 * s.hub.slots.length + 1

def settleWith : Nat → Service → Service
  | 0, s => s
  | fuel + 1, s =>
    match s.takeReady with
    | some (t, rest) => settleWith fuel (runJob s.load rest t)
    | none => s

/-- Lets every job go on until all of them wait. -/
def settle (s : Service) : Service := settleWith s.load s

/-! ## Time -/

/-- The next time at which an event is due, not later than the given one. -/
def nextDue (s : Service) (limit : Nat) : Option Nat :=
  (s.jobs.filterMap fun
    | .timer due _ => if due ≤ limit then some due else none
    | _ => none).min?

def passUntil : Nat → Nat → Service → Service
  | 0, limit, s => settle { s with now := max s.now limit }
  | fuel + 1, limit, s =>
    match s.nextDue limit with
    | some due => passUntil fuel limit (settle { s with now := max s.now due })
    | none => settle { s with now := max s.now limit }

/-- Lets some milliseconds pass; what falls due in between happens in its order. -/
def pass (ms : Nat) (s : Service) : Service :=
  let s := s.settle
  passUntil (2 * s.jobs.length + 1) (s.now + ms) s

/-! ## The end -/

/-- Whether something goes on that the end of the service waits for. -/
def isBusy (s : Service) : Bool :=
  s.jobs.any fun
    | .batch _ => true
    | .timer .. => true
    | _ => false

/-- Tells the service to end: events that wait for their time are dropped and feeds end, while
batches are still delivered. -/
def shutdown (s : Service) : Service := settle { s with closing := true }

end Service

end GuessingRoom
