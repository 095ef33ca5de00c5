import GuessingRoom.Proofs.Course
import GuessingRoom.Proofs.Hearing

/-!
# How long feeds last

Feeds of any number are opened, go on and end, while notices are published and others connect and
read. A feed has a cause to end if it is told to, if the service is, or if its receiver fails; until
then it lasts, and its player is connected to its game.

Feeds of one player share their channels, and a feed that leaves takes the player off the hub
altogether. This ends the player's other feeds without a cause of theirs. It is the only thing that
does: feeds last if and only if no feed leaves while another one of the same player has no cause to
end (`feeds_last_iff`).
-/

namespace GuessingRoom

/-! ## Connections -/

namespace Hub

/-- The player is connected to the game through the channel. -/
def Connected (h : Hub) (game player : Id) (channel : ChannelId) : Prop :=
  ∃ s ∈ h.subscriptions, s.game = game ∧ s.player = player ∧ s.channel = channel

namespace Connected

variable {h : Hub} {game player : Id} {channel : ChannelId}

theorem isSubscribed (c : h.Connected game player channel) : h.isSubscribed game player = true := by
  obtain ⟨s, mem, rfl, rfl, -⟩ := c
  exact List.any_eq_true.2 ⟨s, mem, by simp [Subscription.isFor]⟩

theorem isWritable (c : h.Connected game player channel) : h.isWritable channel = true := by
  obtain ⟨s, mem, -, -, rfl⟩ := c
  have registered : h.isRegistered s.channel = true := List.any_eq_true.2 ⟨s, mem, beq_self_eq_true _⟩
  rw [Hub.isWritable, registered]
  rfl

/-- Only leaving ends a connection. -/
theorem act (c : h.Connected game player channel) {a : Act} (stays : ∀ p, a ≠ .unsubscribe p) :
    (h.act a).1.Connected game player channel := by
  cases a with
  | subscribe g p now =>
    show (h.subscribe g p now).2.Connected game player channel
    unfold Hub.subscribe
    split
    · exact c
    · obtain ⟨s, mem, own⟩ := c
      exact ⟨s, List.mem_append_left _ mem, own⟩
  | unsubscribe p => exact absurd rfl (stays p)
  | copy channel =>
    unfold Hub.act
    dsimp only
    split <;> exact c
  | release channel => exact c
  | publish g excluded n => exact c
  | advance id now =>
    rcases found : h.delivery? id with _ | d
    · rw [act_advance_of_none found]
      exact c
    · rw [act_advance found]
      have step := advanced h d now
      generalize h.advance d now = progress at step
      cases step with
      | waits => exact c
      | ends => exact c
      | goes t _ _ _ _ after hs _ goes =>
        cases goes with
        | notes player now =>
          obtain ⟨s, mem, own⟩ := c
          refine ⟨_, List.mem_map_of_mem mem, ?_⟩
          split <;> exact own
        | takes => exact c
        | passes => exact c
  | receive channel =>
    unfold Hub.act
    dsimp only
    split
    · rcases found : h.slots.find? (·.channel == channel) with _ | slot
      · rw [receive_of_none found]
        cases h.isWritable channel <;> exact c
      · rw [receive_of_some found]
        exact c
    · exact c

theorem unsubscribe (c : h.Connected game player channel) {other : Id} (ne : player ≠ other) :
    (h.unsubscribe other).Connected game player channel := by
  obtain ⟨s, mem, game, rfl, channel⟩ := c
  exact ⟨s, List.mem_filter.2 ⟨mem, bne_iff_ne.2 ne⟩, game, rfl, channel⟩

theorem subscribe (h : Hub) (game player : Id) (now : Nat) :
    (h.subscribe game player now).2.Connected game player (h.subscribe game player now).1 := by
  unfold Hub.subscribe
  cases found : h.find? game player with
  | none => exact ⟨_, List.mem_append_right _ (List.mem_singleton_self _), rfl, rfl, rfl⟩
  | some s =>
    obtain ⟨rfl, rfl⟩ : s.game = game ∧ s.player = player := by
      simpa [Subscription.isFor] using List.find?_some found
    exact ⟨s, List.mem_of_find?_eq_some found, rfl, rfl, rfl⟩

end Connected

theorem not_isSubscribed_unsubscribe (h : Hub) (game player : Id) :
    (h.unsubscribe player).isSubscribed game player = false := by
  refine List.any_eq_false.2 fun s mem own => ?_
  have gone := bne_iff_ne.1 (List.mem_filter.1 mem).2
  exact gone (beq_iff_eq.1 (Bool.and_eq_true_iff.1 own).2)

end Hub

/-! ## Feeds of a service -/

def Job.feed? : Job → Option Feed
  | .feed f => some f
  | _ => none

namespace Service

/-- The feeds that have not ended. -/
def feeds (s : Service) : List Feed := s.jobs.filterMap Job.feed?

/-- The feed has been told to end, by itself or with the service, or its receiver has failed. -/
def HasCause (s : Service) (f : Feed) : Prop :=
  s.stops f = true ∨ ∃ text, f.failure = some (.handler text)

theorem mem_feeds {s : Service} {f : Feed} : f ∈ s.feeds ↔ .feed f ∈ s.jobs := by
  unfold feeds
  rw [List.mem_filterMap]
  constructor
  · rintro ⟨j, mem, e⟩
    cases j <;> cases e
    exact mem
  · exact fun mem => ⟨_, mem, rfl⟩

theorem feeds_spawn_feed (s : Service) (f : Feed) : (s.spawn (.feed f)).feeds = s.feeds ++ [f] := by
  unfold feeds spawn
  rw [List.filterMap_append]
  rfl

theorem feeds_spawn (s : Service) {j : Job} (h : j.feed? = none) : (s.spawn j).feeds = s.feeds := by
  simp [feeds, spawn, h]

theorem feeds_without (s : Service) (f : Feed) : (s.without (.feed f)).feeds = s.feeds.erase f := by
  have here : Job.feed? (.feed f) = some f := rfl
  refine filterMap_erase_of_some s.jobs here fun j e => ?_
  cases j <;> cases e
  rfl

/-- Telling a feed to end leaves all feeds as they are but for that. -/
theorem feeds_cancelFeed (s : Service) (id : Nat) : (s.cancelFeed id).feeds =
    s.feeds.filter (·.id != id) ++
      (s.feeds.filter (·.id == id)).map fun f => { f with cancelled := true } := by
  refine (List.filterMap_append ..).trans (congrArg₂ (· ++ ·) ?_ ?_)
  · unfold feeds
    rw [List.filterMap_filter, List.filter_filterMap]
    refine List.filterMap_congr fun j _ => ?_
    cases j with
    | feed f => by_cases own : f.id = id <;> simp [Job.feed?, Option.filter, own]
    | _ => rfl
  · unfold feeds
    rw [List.filterMap_map, List.filterMap_filter, List.filter_filterMap, List.map_filterMap]
    refine List.filterMap_congr fun j _ => ?_
    cases j with
    | feed f => by_cases own : f.id = id <;> simp [Job.feed?, Option.filter, own]
    | _ => rfl

theorem mem_feeds_cancelFeed {s : Service} {id : Nat} {f : Feed} :
    f ∈ (s.cancelFeed id).feeds ↔
      (f ∈ s.feeds ∧ f.id ≠ id) ∨ ∃ g ∈ s.feeds, g.id = id ∧ f = { g with cancelled := true } := by
  rw [feeds_cancelFeed, List.mem_append, List.mem_filter, List.mem_map, bne_iff_ne]
  refine or_congr Iff.rfl (exists_congr fun g => ?_)
  rw [List.mem_filter, beq_iff_eq, and_assoc, eq_comm (a := f)]

end Service

/-! ## The step of a feed -/

namespace Hub

theorem exists_slot_of_receive {h after : Hub} {c : ChannelId} {n : Notice}
    (got : h.receive c = (.notice n, after)) :
    ∃ slot, h.slots.find? (·.channel == c) = some slot ∧ slot.notice = n ∧
      after = { h with slots := h.slots.filter (·.channel != c) } := by
  rcases found : h.slots.find? (·.channel == c) with _ | slot
  · rw [receive_of_none found] at got
    cases writable : h.isWritable c <;> rw [writable] at got <;> cases got
  · rw [receive_of_some found] at got
    cases got
    exact ⟨slot, found, rfl, rfl⟩

/-- A channel is found closed when nothing can be put into it any more. -/
theorem not_isWritable_of_receive {h after : Hub} {c : ChannelId}
    (got : h.receive c = (.closed, after)) : h.isWritable c = false := by
  rcases found : h.slots.find? (·.channel == c) with _ | slot
  · rw [receive_of_none found] at got
    cases writable : h.isWritable c
    · rfl
    · rw [writable] at got
      cases got
  · rw [receive_of_some found] at got
    cases got

end Hub

/-- The channel that a feed reads or has read from, for which it has a reader. -/
def FeedPhase.channel? : FeedPhase → Option ChannelId
  | .opening => none
  | .reading c | .leaving c | .closing c => some c

/-- The feed when it has handed on a notice, by which the receiver may have failed. -/
def Feed.handedOn (f : Feed) (channel : ChannelId) : Option FeedError → Feed
  | none => f
  | some e => { f with phase := .leaving channel, failure := some e }

namespace Service

/-- What a feed's next step comes to in the hub. -/
def feedHappenings (s : Service) (f : Feed) : List Hub.Happening :=
  match f.phase with
  | .opening => (s.hub.act (.subscribe f.game f.player s.now)).2
  | .reading channel =>
    match s.hub.receive channel with
    | (.notice n, _) => [.read channel n]
    | _ => []
  | _ => []

/-- What a feed does, and what that comes to in the hub. -/
inductive FeedSteps (s : Service) (f : Feed) : Job.Move → List Hub.Happening → Prop where
  | waits : FeedSteps s f .waiting []
  | connects (opening : f.phase = .opening) :
    FeedSteps s f
      (.going { s with hub := (s.hub.act (.subscribe f.game f.player s.now)).1 }
        (.feed { f with phase := .reading (s.hub.subscribe f.game f.player s.now).1 }))
      (s.hub.act (.subscribe f.game f.player s.now)).2
  | reads (c : ChannelId) (n : Notice) (hub : Hub) (reading : f.phase = .reading c)
    (got : s.hub.receive c = (.notice n, hub)) (result : Option FeedError) (t : Service)
    (handed : { s with hub }.handOn f n = (result, t)) :
    FeedSteps s f (.going t (.feed (f.handedOn c result))) [.read c n]
  | quits (c : ChannelId) (reading : f.phase = .reading c)
    (cause : s.stops f = true ∨ s.hub.isWritable c = false) :
    FeedSteps s f (.going s (.feed { f with phase := .leaving c })) []
  | leaves (c : ChannelId) (leaving : f.phase = .leaving c) :
    FeedSteps s f (.going { s with hub := s.hub.unsubscribe f.player }
      (.feed { f with phase := .closing c })) []
  /-- The player may be given some time to come back. -/
  | ends (c : ChannelId) (closing : f.phase = .closing c) (inboxes : List Inbox) (jobs : List Job)
    (closed : s.closeInbox f = { s with inboxes })
    (kick : jobs = s.jobs ∨ ∃ due, jobs = s.jobs ++ [.timer due (.kick f.game f.player)]) :
    FeedSteps s f (.ended { s with hub := s.hub.release c, inboxes, jobs }) []

theorem exists_closeInbox_eq (s : Service) (f : Feed) :
    ∃ inboxes, s.closeInbox f = { s with inboxes } := by
  unfold closeInbox
  split
  · exact ⟨_, rfl⟩
  · exact ⟨s.inboxes, rfl⟩

theorem closeInbox_hub (s : Service) (f : Feed) (hub : Hub) :
    { s with hub }.closeInbox f = { s.closeInbox f with hub } := by
  have same : { s with hub }.inbox? f.id = s.inbox? f.id := rfl
  unfold closeInbox
  rw [same]
  cases s.inbox? f.id <;> rfl

theorem feedSteps (s : Service) (f : Feed) : FeedSteps s f (s.moveFeed f) (s.feedHappenings f) := by
  unfold moveFeed feedHappenings
  cases phase : f.phase with
  | opening => exact .connects phase
  | reading c =>
    dsimp only
    rcases got : s.hub.receive c with ⟨n | _ | _, hub⟩
    · dsimp only
      split
      · rename_i t handed
        exact .reads c n hub phase got none t handed
      · rename_i e t handed
        exact .reads c n hub phase got (some e) t handed
    · dsimp only
      split
      · rename_i stops
        exact .quits c phase (.inl stops)
      · exact .waits
    · exact .quits c phase (.inr (Hub.not_isWritable_of_receive got))
  | leaving c => exact .leaves c phase
  | closing c =>
    obtain ⟨inboxes, closed⟩ := s.exists_closeInbox_eq f
    dsimp only
    rw [closeInbox_hub, closed]
    split
    · exact .ends c phase inboxes _ closed (.inr ⟨_, rfl⟩)
    · exact .ends c phase inboxes _ closed (.inl rfl)

end Service

/-! ## Acts -/

/-- A service, and the feeds that have ended in it as they were then. -/
structure FeedTraffic where
  service : Service
  ended : List Feed := []

namespace FeedTraffic

inductive Act where
  /-- A feed is opened; it may have been told to end beforehand. -/
  | open_ (game player : Id) (cancelled kicks : Bool) (receiver : Inbox → Inbox)
  | cancel (feed : Nat)
  /-- The feed of the given number goes on, if it can. -/
  | step (feed : Nat)
  /-- A feed that has been told to end stops reading, whether or not there is more to read. -/
  | stop (feed : Nat)
  /-- The service is told to end. -/
  | close
  /-- Notices are published, and others connect and read. -/
  | hub (a : Hub.Act) (stays : ∀ player, a ≠ .unsubscribe player)
  /-- Something goes on that has nothing to do with feeds, after which the service is otherwise as
  given. -/
  | elsewhere (other : Service)

def feed? (a : FeedTraffic) (id : Nat) : Option Feed := a.service.feeds.find? (·.id == id)

/-- What a feed does next, and where that leads. -/
def step (a : FeedTraffic) (f : Feed) : FeedTraffic :=
  match (a.service.without (.feed f)).moveFeed f with
  | .waiting => a
  | .going s j => { a with service := s.spawn j }
  | .ended s => { service := s, ended := a.ended ++ [f] }

/-- The feed leaves at once if it is reading and has been told to end. -/
def stop (a : FeedTraffic) (f : Feed) : FeedTraffic :=
  match f.phase with
  | .reading channel =>
    if a.service.stops f then
      { a with service := (a.service.without (.feed f)).spawn (.feed { f with phase := .leaving channel }) }
    else a
  | _ => a

def act (a : FeedTraffic) : Act → FeedTraffic
  | .open_ game player cancelled kicks receiver =>
    { a with
      service := (a.service.openFeed game player (fun f => { f with cancelled, kicks }) receiver).2 }
  | .cancel id => { a with service := a.service.cancelFeed id }
  | .step id =>
    match a.feed? id with
    | some f => a.step f
    | none => a
  | .stop id =>
    match a.feed? id with
    | some f => a.stop f
    | none => a
  | .close => { a with service := { a.service with closing := true } }
  | .hub x _ => { a with service := { a.service with hub := (a.service.hub.act x).1 } }
  | .elsewhere other =>
    if other.feeds = a.service.feeds then
      { a with service := { other with
        hub := a.service.hub, nextFeed := a.service.nextFeed, closing := a.service.closing } }
    else a

/-- What comes of a new service by the acts, one after another. -/
def run (settings : RoomSettings) (books : Books) (acts : List Act) : FeedTraffic :=
  acts.foldl act { service := { settings, books } }

/-- No feed ends without a cause, and until there is one its player is connected from the moment when
the feed begins to read. -/
structure Lasting (a : FeedTraffic) : Prop where
  goes_on : ∀ f ∈ a.service.feeds, a.service.HasCause f ∨ f.phase = .opening ∨
    (∃ channel, f.phase = .reading channel) ∧ a.service.hub.isSubscribed f.game f.player = true
  ended : ∀ f ∈ a.ended, a.service.HasCause f

/-- With the act a feed takes its player off the hub from under another feed, which has no cause to
end. -/
def Crosses (a : FeedTraffic) : Act → Prop
  | .step id => ∃ f, a.feed? id = some f ∧ (∃ channel, f.phase = .leaving channel) ∧
    ∃ g ∈ a.service.feeds, g.player = f.player ∧ (∃ channel, g.phase = .reading channel) ∧
      ¬ a.service.HasCause g
  | _ => False

/-! ## What a feed keeps -/

/-- A feed without a cause to end reads what comes to its player, once it has begun. -/
def Keeps (s : Service) (f : Feed) : Prop :=
  s.HasCause f ∨ f.phase = .opening ∨
    ∃ channel, f.phase = .reading channel ∧ s.hub.Connected f.game f.player channel

/-- All feeds keep to that, and none has ended without a cause. -/
structure Sound (a : FeedTraffic) : Prop where
  keeps : ∀ f ∈ a.service.feeds, Keeps a.service f
  ended : ∀ f ∈ a.ended, a.service.HasCause f

theorem Sound.lasting {a : FeedTraffic} (h : a.Sound) : a.Lasting where
  goes_on f mem := by
    rcases h.keeps f mem with cause | opening | ⟨channel, reading, connected⟩
    · exact .inl cause
    · exact .inr (.inl opening)
    · exact .inr (.inr ⟨⟨channel, reading⟩, connected.isSubscribed⟩)
  ended := h.ended

theorem hasCause_mono {s t : Service} {f : Feed} (h : s.HasCause f)
    (closing : s.closing = true → t.closing = true) : t.HasCause f := by
  rcases h with stops | failed
  · left
    simp only [Service.stops, Bool.or_eq_true, Bool.and_eq_true] at stops ⊢
    exact stops.imp id fun tied => ⟨tied.1, closing tied.2⟩
  · exact .inr failed

/-- Nothing but the hub and the end of the service matters to a feed. -/
theorem Keeps.mono {s t : Service} {f : Feed} (h : Keeps s f)
    (closing : s.closing = true → t.closing = true)
    (stays : ∀ channel, s.hub.Connected f.game f.player channel →
      t.hub.Connected f.game f.player channel) : Keeps t f := by
  rcases h with cause | opening | ⟨channel, reading, connected⟩
  · exact .inl (hasCause_mono cause closing)
  · exact .inr (.inl opening)
  · exact .inr (.inr ⟨channel, reading, stays channel connected⟩)

/-- Whoever has begun to read and reads no more has a cause. -/
theorem Keeps.hasCause {s : Service} {f : Feed} (h : Keeps s f) (begun : f.phase ≠ .opening)
    (left : ∀ channel, f.phase = .reading channel → ¬ s.hub.Connected f.game f.player channel) :
    s.HasCause f := by
  rcases h with cause | opening | ⟨channel, reading, connected⟩
  · exact cause
  · exact absurd opening begun
  · exact absurd connected (left channel reading)

/-! ## What a step keeps -/

/-- What the next step of a feed that keeps to its connection comes to. -/
inductive FeedMoves (s : Service) (f : Feed) : Job.Move → Prop where
  | waits : FeedMoves s f .waiting
  /-- It goes on in whatever way, and if it leaves then with a cause. -/
  | goes (t : Service) (g : Feed) (closing : t.closing = s.closing) (feeds : t.feeds = s.feeds)
    (keeps : Keeps t g)
    (stays : ∀ game player channel, s.hub.Connected game player channel →
      t.hub.Connected game player channel) : FeedMoves s f (.going t (.feed g))
  | leaves (channel : ChannelId) (phase : f.phase = .leaving channel) (cause : s.HasCause f) :
    FeedMoves s f (.going { s with hub := s.hub.unsubscribe f.player }
      (.feed { f with phase := .closing channel }))
  | ends (t : Service) (closing : t.closing = s.closing) (feeds : t.feeds = s.feeds)
    (same : t.hub.subscriptions = s.hub.subscriptions) (cause : s.HasCause f) :
    FeedMoves s f (.ended t)

theorem handOn_keeps (s : Service) (f : Feed) (n : Notice) :
    (s.handOn f n).2.closing = s.closing ∧ (s.handOn f n).2.feeds = s.feeds ∧
      (s.handOn f n).2.hub = s.hub ∧
      ∀ e, (s.handOn f n).1 = some e → ∃ text, e = .handler text := by
  unfold Service.handOn
  split
  · rename_i i _
    rcases i.receive n with ⟨text | _, i'⟩
    · refine ⟨rfl, rfl, rfl, ?_⟩
      rintro e ⟨⟩
      exact ⟨text, rfl⟩
    · exact ⟨rfl, rfl, rfl, by rintro e ⟨⟩⟩
  · exact ⟨rfl, rfl, rfl, by rintro e ⟨⟩⟩

theorem feedMoves {s : Service} {f : Feed} (keeps : Keeps s f) : FeedMoves s f (s.moveFeed f) := by
  have steps := s.feedSteps f
  generalize s.moveFeed f = move, s.feedHappenings f = hs at steps
  cases steps with
  | waits => exact .waits
  | connects opening =>
    refine .goes _ _ rfl rfl (.inr (.inr ⟨_, rfl, Hub.Connected.subscribe ..⟩)) fun game player c h => ?_
    exact h.act (a := .subscribe f.game f.player s.now) (by rintro p ⟨⟩)
  | reads c n hub reading got result t handed =>
    obtain ⟨slot, -, -, rfl⟩ := Hub.exists_slot_of_receive got
    obtain ⟨closing, feeds, same, fails⟩ := handOn_keeps _ f n
    rw [handed] at closing feeds same fails
    have stays : ∀ game player c, s.hub.Connected game player c → t.hub.Connected game player c := by
      rw [same]
      exact fun _ _ _ connected => connected
    cases result with
    | none => exact .goes t f closing feeds (keeps.mono (fun h => closing ▸ h) (stays _ _)) stays
    | some e =>
      have failed := (fails e rfl).imp fun _ h => congrArg some h
      exact .goes t _ closing feeds (.inl (.inr failed)) stays
  | quits c reading cause =>
    -- the channel of a feed without a cause is not closed
    have cause : s.HasCause f := by
      rcases cause with stops | closed
      · exact .inl stops
      · refine keeps.hasCause (by rw [reading]; rintro ⟨⟩) fun c' reads connected => ?_
        rw [reading] at reads
        cases reads
        rw [connected.isWritable] at closed
        cases closed
    exact .goes s _ rfl rfl (.inl cause) fun _ _ _ h => h
  | leaves c phase =>
    have cause := keeps.hasCause (by rw [phase]; rintro ⟨⟩) fun c reading => by
      rw [phase] at reading
      cases reading
    exact .leaves c phase cause
  | ends c phase inboxes jobs closed kick =>
    have cause := keeps.hasCause (by rw [phase]; rintro ⟨⟩) fun c reading => by
      rw [phase] at reading
      cases reading
    refine .ends _ rfl ?_ rfl cause
    rcases kick with rfl | ⟨due, rfl⟩
    · rfl
    · exact s.feeds_spawn (j := .timer due (.kick f.game f.player)) rfl

/-! ## One act after another -/

section Act

variable {a : FeedTraffic} (h : a.Sound)
include h

/-- A feed is put in another's place, and the rest stays as it is. -/
theorem Sound.replace {s : Service} {f g : Feed} {ended : List Feed}
    (closing : s.closing = a.service.closing) (feeds : s.feeds = a.service.feeds.erase f)
    (keeps : Keeps s g) (others : ∀ x ∈ a.service.feeds, Keeps s x)
    (same : ended = a.ended) : Sound { service := s.spawn (.feed g), ended } where
  keeps x mem := by
    have kept : Keeps s x := by
      rw [Service.feeds_spawn_feed] at mem
      rcases List.mem_append.1 mem with old | new
      · rw [feeds] at old
        exact others x (List.mem_of_mem_erase old)
      · rw [List.mem_singleton.1 new]
        exact keeps
    exact kept
  ended x mem := hasCause_mono (h.ended x (same ▸ mem)) fun c => closing.trans c

theorem Sound.step {id : Nat} {f : Feed} (found : a.feed? id = some f)
    (apart : ¬ a.Crosses (.step id)) : (a.step f).Sound := by
  have mem : f ∈ a.service.feeds := List.mem_of_find?_eq_some found
  have moves := feedMoves (s := a.service.without (.feed f)) (h.keeps f mem)
  unfold FeedTraffic.step
  generalize (a.service.without (.feed f)).moveFeed f = move at moves
  have feeds := a.service.feeds_without f
  cases moves with
  | waits => exact h
  | goes t g closing same keeps stays =>
    refine h.replace closing (same.trans feeds) keeps (fun x there => ?_) rfl
    exact (h.keeps x there).mono (fun c => closing.trans c) (stays _ _)
  | leaves channel phase cause =>
    refine h.replace rfl feeds (.inl cause) (fun x there => ?_) rfl
    rcases h.keeps x there with own | opening | ⟨c, reading, connected⟩
    · exact .inl own
    · exact .inr (.inl opening)
    · by_cases own : a.service.HasCause x
      · exact .inl own
      · have ne : x.player ≠ f.player := fun same =>
          apart ⟨f, found, ⟨channel, phase⟩, x, there, same, ⟨c, reading⟩, own⟩
        exact .inr (.inr ⟨c, reading, connected.unsubscribe ne⟩)
  | ends t closing same subscriptions cause =>
    have stays {game player : Id} {c : ChannelId} (connected : a.service.hub.Connected game player c) :
        t.hub.Connected game player c := by
      unfold Hub.Connected
      rw [subscriptions]
      exact connected
    constructor
    · intro x there
      have there : x ∈ t.feeds := there
      rw [same, feeds] at there
      exact (h.keeps x (List.mem_of_mem_erase there)).mono (fun c => closing.trans c) fun _ => stays
    · intro x there
      rcases List.mem_append.1 there with old | new
      · exact hasCause_mono (h.ended x old) fun c => closing.trans c
      · rw [List.mem_singleton.1 new]
        exact hasCause_mono cause fun c => closing.trans c

theorem Sound.stop (f : Feed) : (a.stop f).Sound := by
  unfold FeedTraffic.stop
  split
  · split
    · rename_i stops
      exact h.replace rfl (a.service.feeds_without f) (.inl (.inl stops)) h.keeps rfl
    · exact h
  · exact h

/-- Feeds last on through every act with which none of them crosses another. -/
theorem Sound.act (x : Act) (apart : ¬ a.Crosses x) : (a.act x).Sound := by
  cases x with
  | open_ game player cancelled kicks receiver =>
    refine ⟨fun f mem => ?_, h.ended⟩
    obtain old | new : f ∈ a.service.feeds ∨ f.phase = .opening := by
      have mem := Service.mem_feeds.1 mem
      rcases List.mem_append.1 mem with old | new
      · exact .inl (Service.mem_feeds.2 old)
      · cases List.mem_singleton.1 new
        exact .inr rfl
    · exact h.keeps f old
    · exact .inr (.inl new)
  | cancel id =>
    refine ⟨fun f mem => ?_, h.ended⟩
    rcases Service.mem_feeds_cancelFeed.1 mem with ⟨old, -⟩ | ⟨g, -, -, rfl⟩
    · exact h.keeps f old
    · exact .inl (.inl rfl)
  | step id =>
    unfold FeedTraffic.act
    dsimp only
    split
    · rename_i f found
      exact h.step found apart
    · exact h
  | stop id =>
    unfold FeedTraffic.act
    dsimp only
    split
    · exact h.stop _
    · exact h
  | close =>
    refine ⟨fun f mem => ?_, fun f mem => ?_⟩
    · exact (h.keeps f mem).mono (fun _ => rfl) fun _ connected => connected
    · exact hasCause_mono (h.ended f mem) fun _ => rfl
  | hub x stays =>
    refine ⟨fun f mem => ?_, h.ended⟩
    exact (h.keeps f mem).mono id fun _ connected => connected.act stays
  | elsewhere other =>
    unfold FeedTraffic.act
    dsimp only
    split
    · rename_i same
      refine ⟨fun f mem => ?_, h.ended⟩
      have mem : f ∈ other.feeds := mem
      rw [same] at mem
      exact h.keeps f mem
    · exact h

end Act

/-- A feed that is crossed by another one does not last. -/
theorem not_lasting_of_crosses {a : FeedTraffic} {x : Act} (h : a.Crosses x) :
    ¬ (a.act x).Lasting := by
  cases x with
  | step id =>
    obtain ⟨f, found, ⟨channel, leaving⟩, g, mem, player, ⟨c, reading⟩, none⟩ := h
    have left : a.act (.step id) = { a with
        service := { a.service.without (.feed f) with hub := a.service.hub.unsubscribe f.player }.spawn
          (.feed { f with phase := .closing channel }) } := by
      unfold FeedTraffic.act
      dsimp only
      rw [found]
      dsimp only [FeedTraffic.step, Service.moveFeed]
      rw [leaving]
      rfl
    have other : g ≠ f := by
      rintro rfl
      rw [leaving] at reading
      cases reading
    have there : g ∈ (a.act (.step id)).service.feeds := by
      rw [left, Service.feeds_spawn_feed]
      refine List.mem_append_left _ ?_
      show g ∈ (a.service.without (.feed f)).feeds
      rw [Service.feeds_without]
      exact (List.mem_erase_of_ne other).2 mem
    intro lasting
    rcases lasting.goes_on g there with cause | opening | ⟨-, subscribed⟩
    · rw [left] at cause
      exact none cause
    · rw [reading] at opening
      cases opening
    · rw [left, player] at subscribed
      have gone := Hub.not_isSubscribed_unsubscribe a.service.hub g.game f.player
      exact absurd (gone.symm.trans subscribed) (by decide)
  | _ => exact absurd h id

/-! ## Whole runs -/

section Run

variable (settings : RoomSettings) (books : Books)

theorem run_snoc (past : List Act) (x : Act) :
    run settings books (past ++ [x]) = (run settings books past).act x := List.foldl_append

theorem sound_run {acts : List Act}
    (apart : ∀ past x, past ++ [x] <+: acts → ¬ (run settings books past).Crosses x) :
    (run settings books acts).Sound := by
  induction acts using List.reverseRecOn with
  | nil =>
    constructor
    · rintro f ⟨⟩
    · rintro f ⟨⟩
  | append_singleton past x ih =>
    rw [run_snoc]
    have before := ih fun past' y h => apart past' y (h.trans (List.prefix_append _ _))
    exact before.act x (apart past x (List.prefix_refl _))

/-- All feeds last at all times if and only if no feed takes its player off the hub from under
another feed that has no cause to end. -/
theorem feeds_last_iff (acts : List Act) :
    (∀ past, past <+: acts → (run settings books past).Lasting) ↔
      ∀ past x, past ++ [x] <+: acts → ¬ (run settings books past).Crosses x := by
  constructor
  · intro lasting past x h crosses
    have after := lasting _ h
    rw [run_snoc] at after
    exact not_lasting_of_crosses crosses after
  · intro apart past h
    refine (sound_run settings books fun past' x h' => ?_).lasting
    exact apart past' x (h'.trans h)

end Run

/-- Somebody connects anew, and only then the old feed is told to end. -/
def reconnect : List Act :=
  [.open_ "g" "u" false false id, .step 0, .open_ "g" "u" false false id, .step 1,
    .cancel 0, .step 0, .step 0, .step 0, .step 1, .step 1, .step 1]

/-- The new feed ends with the old one, though nobody has told it to. -/
theorem new_feed_ends_with_old :
    let a := run {} (Service.opening []).books reconnect
    a.service.closing = false ∧
      a.ended.map (fun f => (f.id, f.cancelled, f.failure)) = [(0, true, none), (1, false, none)] ∧
      ¬ a.Lasting := by
  have mem : ⟨1, "g", "u", .closing 0, false, true, false, none⟩ ∈
      (run {} (Service.opening []).books reconnect).ended := by decide
  refine ⟨by decide, by decide, fun lasting => ?_⟩
  rcases lasting.ended _ mem with stops | ⟨text, failed⟩
  · exact absurd stops (by decide)
  · cases failed

end FeedTraffic

end GuessingRoom
