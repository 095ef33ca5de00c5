import GuessingRoom.Notice

/-!
# The hub

The hub brings the notices of a game to the players connected to it. Each connected player has a
channel with room for one notice, so that a delivery waits at a full channel until it is read.

A delivery begins with the channels registered at that moment and goes through them in the order
of registration. It puts the notice into a channel, notes the activity of that player, and goes on
to the next channel. A channel that nobody can read any more is passed over.

A channel is held for reading by its subscription and by every reader, and held for writing by its
subscription and by every delivery that has not yet done with it.
-/

namespace GuessingRoom

/-- The number of a channel; numbers are not used again. -/
abbrev ChannelId := Nat

/-- A player's connection to a game. Times are in milliseconds. -/
structure Subscription where
  game : Id
  player : Id
  channel : ChannelId
  lastActivity : Nat
deriving DecidableEq, Repr

/-- The notice that waits in a channel. -/
structure Slot where
  channel : ChannelId
  notice : Notice
deriving DecidableEq, Repr

/-- A channel a delivery goes to, and the player to whom it belonged at the beginning. -/
structure Target where
  player : Id
  channel : ChannelId
deriving DecidableEq, Repr

structure Delivery where
  id : Nat
  game : Id
  notice : Notice
  /-- The channels not done with, of which the first one is next. -/
  targets : List Target
  /-- Whether the first channel has taken the notice, and only its activity is to be noted. -/
  taken : Bool := false
  /-- How many channels have taken the notice. -/
  accepted : Nat := 0
deriving DecidableEq, Repr

structure Hub where
  /-- The connections in the order of their registration. -/
  subscriptions : List Subscription := []
  slots : List Slot := []
  /-- The channels that readers hold, once for every reader. -/
  readers : List ChannelId := []
  deliveries : List Delivery := []
  nextChannel : ChannelId := 0
  nextDelivery : Nat := 0
deriving DecidableEq, Repr

namespace Subscription

def isFor (s : Subscription) (game player : Id) : Bool := s.game == game && s.player == player

end Subscription

namespace Hub

/-! ## Registry -/

def find? (h : Hub) (game player : Id) : Option Subscription :=
  h.subscriptions.find? (·.isFor game player)

def isSubscribed (h : Hub) (game player : Id) : Bool :=
  h.subscriptions.any (·.isFor game player)

/-- The players connected to a game, in the order of registration and each of them once. -/
def subscribers (h : Hub) (game : Id) : List Id :=
  ((h.subscriptions.filter (·.game == game)).map (·.player)).eraseDups

def subscriberCount (h : Hub) (game : Id) : Nat :=
  (h.subscriptions.filter (·.game == game)).length

/-- When the connection was made or last took a notice. -/
def lastActivity (h : Hub) (game player : Id) : Option Nat :=
  (h.find? game player).map (·.lastActivity)

/-- A reader for the player's channel, which is made if the player is not connected. -/
def subscribe (h : Hub) (game player : Id) (now : Nat) : ChannelId × Hub :=
  match h.find? game player with
  | some s => (s.channel, { h with readers := s.channel :: h.readers })
  | none =>
    (h.nextChannel,
      { h with
        subscriptions := h.subscriptions ++ [⟨game, player, h.nextChannel, now⟩]
        readers := h.nextChannel :: h.readers
        nextChannel := h.nextChannel + 1 })

/-- Ends all connections of a player, to whatever game. -/
def unsubscribe (h : Hub) (player : Id) : Hub :=
  { h with subscriptions := h.subscriptions.filter (·.player != player) }

/-- Gives up one reader of a channel. -/
def release (h : Hub) (channel : ChannelId) : Hub :=
  { h with readers := h.readers.erase channel }

/-! ## Channels -/

def isRegistered (h : Hub) (channel : ChannelId) : Bool :=
  h.subscriptions.any (·.channel == channel)

/-- Whether a notice put into the channel may still be read. -/
def isReadable (h : Hub) (channel : ChannelId) : Bool :=
  h.isRegistered channel || h.readers.contains channel

/-- Whether a notice may still be put into the channel. -/
def isWritable (h : Hub) (channel : ChannelId) : Bool :=
  h.isRegistered channel ||
    h.deliveries.any fun d => d.targets.any (·.channel == channel)

def isFull (h : Hub) (channel : ChannelId) : Bool := h.slots.any (·.channel == channel)

def fill (h : Hub) (channel : ChannelId) (notice : Notice) : Hub :=
  { h with slots := h.slots ++ [⟨channel, notice⟩] }

/-- What a reader finds. -/
inductive Receipt where
  | notice (n : Notice)
  /-- Nothing for the time being. -/
  | empty
  /-- Nothing any more. -/
  | closed
deriving DecidableEq, Repr

/-- Takes the notice out of a channel. -/
def receive (h : Hub) (channel : ChannelId) : Receipt × Hub :=
  match h.slots.find? (·.channel == channel) with
  | some slot =>
    (.notice slot.notice, { h with slots := h.slots.filter (·.channel != channel) })
  | none => (if h.isWritable channel then .empty else .closed, h)

/-! ## Deliveries -/

/-- The channels of a game but for those of the excluded player. -/
def targetsOf (h : Hub) (game : Id) (excluded : Option Id) : List Target :=
  (h.subscriptions.filter fun s => s.game == game && excluded != some s.player).map fun s =>
    ⟨s.player, s.channel⟩

/-- Begins a delivery to everyone in the game but the excluded player. -/
def publish (h : Hub) (game : Id) (excluded : Option Id) (notice : Notice) : Nat × Hub :=
  (h.nextDelivery,
    { h with
      deliveries := h.deliveries ++ [⟨h.nextDelivery, game, notice, h.targetsOf game excluded,
        false, 0⟩]
      nextDelivery := h.nextDelivery + 1 })

def delivery? (h : Hub) (id : Nat) : Option Delivery := h.deliveries.find? (·.id == id)

/-- Replaces the delivery of the same number. -/
def setDelivery (h : Hub) (d : Delivery) : Hub :=
  { h with deliveries := h.deliveries.map fun e => if e.id == d.id then d else e }

/-- Notes that a player took a notice, if the player is connected. -/
def touch (h : Hub) (game player : Id) (now : Nat) : Hub :=
  { h with
    subscriptions := h.subscriptions.map fun s =>
      if s.isFor game player then { s with lastActivity := now } else s }

/-- What a delivery does next. -/
inductive Progress where
  /-- It waits for the reader of a full channel. -/
  | waiting
  | going (h : Hub)
  /-- It has been to every channel, and so many of them took the notice. -/
  | finished (accepted : Nat) (h : Hub)

/-- The next step of a delivery. -/
def advance (h : Hub) (d : Delivery) (now : Nat) : Progress :=
  match d.targets with
  | [] => .finished d.accepted { h with deliveries := h.deliveries.filter (·.id != d.id) }
  | target :: rest =>
    if d.taken then
      .going ((h.touch d.game target.player now).setDelivery
        { d with targets := rest, taken := false })
    else if !h.isReadable target.channel then
      .going (h.setDelivery { d with targets := rest })
    else if h.isFull target.channel then .waiting
    else
      .going ((h.fill target.channel d.notice).setDelivery
        { d with taken := true, accepted := d.accepted + 1 })

end Hub

end GuessingRoom
