import GuessingRoom.Proofs.Activity
import GuessingRoom.Proofs.NoticeCodec
import GuessingRoom.Proofs.StreamReadings

/-!
# What a feed owes to its receiver

One feed at work, while whatever else goes on: others connect, leave, publish and read, the feed is told
to end, the receiver goes away or fails at some call (`Attended`). Where the feed has a notice to read and
has been told to end, it may do either.

At any time the receiver has been called with the first of the notices that the feed's channel has taken,
encoded and in their order, and no call but the last has failed. Whichever way the feed ends, it gives the
failure of that call if there is one, and it has taken its player off the hub and nobody else
(`Attended.feed_contract`).
-/

namespace GuessingRoom

/-! ## Channels that are closed -/

namespace Hub

/-- Nothing is in the channel, and nothing can be put into it any more. -/
structure Shut (h : Hub) (channel : ChannelId) : Prop where
  unregistered : ∀ s ∈ h.subscriptions, s.channel ≠ channel
  untargeted : ∀ d ∈ h.deliveries, ∀ t ∈ d.targets, t.channel ≠ channel
  empty : ∀ slot ∈ h.slots, slot.channel ≠ channel

theorem shut_of_receive {h : Hub} {channel : ChannelId} (writable : h.isWritable channel = false)
    (empty : h.slots.find? (·.channel == channel) = none) : h.Shut channel := by
  rw [isWritable, Bool.or_eq_false_iff] at writable
  refine ⟨fun s mem same => ?_, fun d mem t there same => ?_, fun slot mem => ?_⟩
  · have registered : h.isRegistered channel = true := List.any_eq_true.2 ⟨s, mem, beq_iff_eq.2 same⟩
    rw [writable.1] at registered
    cases registered
  · have targeted : (h.deliveries.any fun d => d.targets.any (·.channel == channel)) = true :=
      List.any_eq_true.2 ⟨d, mem, List.any_eq_true.2 ⟨t, there, beq_iff_eq.2 same⟩⟩
    rw [writable.2] at targeted
    cases targeted
  · simpa using List.find?_eq_none.1 empty slot mem

namespace Shut

variable {h : Hub} {channel : ChannelId} (shut : h.Shut channel)
include shut

theorem unsubscribe (player : Id) : (h.unsubscribe player).Shut channel :=
  ⟨fun s mem => shut.unregistered s (List.mem_filter.1 mem).1, shut.untargeted, shut.empty⟩

theorem release (c : ChannelId) : (h.release c).Shut channel :=
  ⟨shut.unregistered, shut.untargeted, shut.empty⟩

/-- A delivery that has still to go on goes to no other channels than before. -/
theorem setDelivery {d t : Delivery} (mem : d ∈ h.deliveries) (fewer : t.targets ⊆ d.targets) :
    (h.setDelivery t).Shut channel := by
  refine ⟨shut.unregistered, fun x there target goes => ?_, shut.empty⟩
  rcases Sound.mem_setDelivery there with rfl | ⟨old, -⟩
  · exact shut.untargeted d mem target (fewer goes)
  · exact shut.untargeted x old target goes

/-- A channel that is closed stays so. -/
theorem act (known : channel < h.nextChannel) (a : Act) : (h.act a).1.Shut channel := by
  by_cases connection : a.isConnection = true
  · have connects := h.connects connection
    generalize h.act a = came at connects
    cases connects with
    | opens game player now =>
      refine ⟨fun s mem => ?_, shut.untargeted, shut.empty⟩
      rcases List.mem_append.1 mem with old | new
      · exact shut.unregistered s old
      · rw [List.mem_singleton.1 new]
        exact Nat.ne_of_gt known
    | reads c n =>
      exact ⟨shut.unregistered, shut.untargeted, fun slot mem => shut.empty slot (List.mem_filter.1 mem).1⟩
    | rests subscriptions kept readers =>
      exact ⟨fun s mem => shut.unregistered s (kept mem), shut.untargeted, shut.empty⟩
  · cases a with
    | publish game excluded n =>
      refine ⟨shut.unregistered, fun d mem t there => ?_, shut.empty⟩
      rcases List.mem_append.1 mem with old | new
      · exact shut.untargeted d old t there
      · rw [List.mem_singleton.1 new] at there
        obtain ⟨s, connected, rfl⟩ := List.mem_map.1 there
        exact shut.unregistered s (List.mem_filter.1 connected).1
    | advance id now =>
      have step := h.went id now
      generalize (h.act (.advance id now)).1 = after at step ⊢
      generalize (h.act (.advance id now)).2 = hs at step
      generalize h.marksOf (.advance id now) = ms at step
      cases step with
      | absent => exact shut
      | ends =>
        exact ⟨shut.unregistered, fun x there => shut.untargeted x (List.mem_filter.1 there).1,
          shut.empty⟩
      | waits => exact shut
      | notes d found target rest targets =>
        have touched : (h.touch d.game target.player now).Shut channel := by
          refine ⟨fun s there => ?_, shut.untargeted, shut.empty⟩
          obtain ⟨x, old, rfl⟩ := List.mem_map.1 there
          split <;> exact shut.unregistered x old
        exact touched.setDelivery (d := d) (mem_of_delivery? found).1 (by simp [targets])
      | takes d found target rest targets =>
        have mem := (mem_of_delivery? found).1
        have filled : (h.fill target.channel d.notice).Shut channel := by
          refine ⟨shut.unregistered, shut.untargeted, fun slot there => ?_⟩
          rcases List.mem_append.1 there with old | new
          · exact shut.empty slot old
          · rw [List.mem_singleton.1 new]
            exact shut.untargeted d mem target (by simp [targets])
        exact filled.setDelivery (d := d) mem (List.Subset.refl _)
      | passes d found target rest targets =>
        exact shut.setDelivery (mem_of_delivery? found).1 (by simp [targets])
    | _ => exact absurd rfl connection

end Shut

end Hub

/-! ## A feed at work -/

/-- With what the receiver was called, and what it answered. -/
structure Attended.Call where
  sent : NoticeKind × String
  answer : Except String Unit
deriving DecidableEq

/-- A feed, the service in which it is at work, and what it has come to. -/
structure Attended where
  service : Service
  feed : Feed
  ended : Bool := false
  /-- Whether it had been told to end when it stopped reading. -/
  heeded : Bool := false
  log : List Hub.Happening := []
  readings : List Reading := []
  calls : List Attended.Call := []
  /-- What the receiver has received and looked at. -/
  collected : List (NoticeKind × String) := []
  /-- The connections when the feed took its player off the hub, just before and just after that. -/
  departures : List (List Subscription × List Subscription) := []

namespace Attended

inductive Act where
  /-- The feed goes on, if it can. -/
  | go
  /-- The feed stops reading if it has been told to end, whether or not there is more to read. -/
  | stop
  | cancel
  /-- What has been received is looked at. -/
  | collect
  /-- The receiver goes away for good. -/
  | lose
  /-- Others connect, leave, publish or read. -/
  | hub (a : Hub.Act)
  /-- Something goes on that has nothing to do with the feed and the hub, after which the service is
  otherwise as given; it may have been told to end. -/
  | elsewhere (other : Service)

/-- The calls of the receiver with which a feed goes on. -/
def callsOf (s : Service) (f : Feed) : List Call :=
  match f.phase with
  | .reading c =>
    match s.hub.receive c with
    | (.notice n, _) => (s.inbox? f.id).toList.map fun i => ⟨n.encode, (i.receive n).1⟩
    | _ => []
  | _ => []

/-- The feed has gone on, and is now the given one in the given service. -/
def record (w : Attended) (f : Feed) (s : Service) : Attended :=
  { w with
    service := s
    feed := f
    heeded := match w.feed.phase, f.phase with
      | .reading _, .leaving _ => w.service.stops w.feed
      | _, _ => w.heeded
    log := w.log ++ w.service.feedHappenings w.feed
    readings := w.readings ++ Live.readingsOf (some w.feed.id) (w.service.feedHappenings w.feed)
    calls := w.calls ++ callsOf w.service w.feed
    departures := match w.feed.phase with
      | .leaving _ => w.departures ++ [(w.service.hub.subscriptions, s.hub.subscriptions)]
      | _ => w.departures }

def go (w : Attended) : Attended :=
  match w.service.moveFeed w.feed with
  | .waiting => w
  | .going s j => w.record (j.feed?.getD w.feed) s
  | .ended s => { w with ended := true }.record w.feed s

def stop (w : Attended) : Attended :=
  match w.feed.phase with
  | .reading c =>
    if w.service.stops w.feed then
      { w with feed := { w.feed with phase := .leaving c }, heeded := true }
    else w
  | _ => w

def act (w : Attended) : Act → Attended
  | .go => if w.ended then w else w.go
  | .stop => w.stop
  | .cancel => { w with feed := { w.feed with cancelled := true } }
  | .collect =>
    match w.service.readInbox w.feed.id with
    | (some i, service) => { w with service, collected := w.collected ++ i.unread }
    | (none, _) => w
  | .lose =>
    match w.service.inbox? w.feed.id with
    | some i => { w with service := w.service.setInbox { i with gone := true } }
    | none => w
  | .hub a =>
    { w with
      service := { w.service with hub := (w.service.hub.act a).1 }
      log := w.log ++ (w.service.hub.act a).2
      readings := w.readings ++ Live.readingsOf none (w.service.hub.act a).2 }
  | .elsewhere other =>
    { w with service := { other with hub := w.service.hub, inboxes := w.service.inboxes } }

/-- A feed that has still to connect, in a service to whose hub nothing has been done. The receiver fails
at the call of the given number, if there is one. -/
def start (s : Service) (f : Feed) (failsAt : Option Nat) (failure : String) : Attended where
  service := { s with hub := {}, inboxes := [{ feed := f.id, failsAt, failure }] }
  feed := { f with phase := .opening, failure := none }

/-- What comes of the feed by the acts, one after another. -/
def attend (s : Service) (f : Feed) (failsAt : Option Nat) (failure : String) (acts : List Act) :
    Attended := acts.foldl act (start s f failsAt failure)

/-! ## What is owed -/

/-- Nobody but the feed has read from the channel. -/
def IsOnlyReader (w : Attended) (channel : ChannelId) : Prop :=
  ∀ r ∈ w.readings, r.channel = channel → r.feed = some w.feed.id

/-- The feed reads no more. -/
def HasLeft (w : Attended) (channel : ChannelId) : Prop :=
  w.feed.phase = .leaving channel ∨ w.feed.phase = .closing channel

def outcome (w : Attended) : Option (Except FeedError Unit) :=
  (w.service.inbox? w.feed.id).bind (·.outcome)

def unread (w : Attended) : List (NoticeKind × String) :=
  (w.service.inbox? w.feed.id).elim [] (·.unread)

/-- What was received with the calls: all but the one that failed. -/
def received (calls : List Call) : List (NoticeKind × String) :=
  calls.filterMap fun c => match c.answer with
    | .ok () => some c.sent
    | .error _ => none

/-- What a feed gives in the end, after the calls. -/
def result (calls : List Call) : Except FeedError Unit :=
  match calls.getLast? with
  | some ⟨_, .error text⟩ => .error (.handler text)
  | _ => .ok ()

structure Contract (w : Attended) : Prop where
  /-- The receiver is called with the first of the notices that the channel has taken, and with all of
  them if the feed left neither for a failure nor because it was told to. -/
  in_order : ∀ c, w.feed.phase.channel? = some c → w.IsOnlyReader c →
    ∃ taken, taken <+: Hub.accepts w.log c ∧ w.calls.map (·.sent) = taken.map Notice.encode ∧
      (∀ n ∈ taken, Notice.decode n.encode.1.tag n.encode.2 = .ok n) ∧
      (w.HasLeft c → w.feed.failure = none → w.heeded = false → taken = Hub.accepts w.log c)
  none_before : w.feed.phase = .opening → w.calls = []
  fails_last : ∀ call ∈ w.calls.dropLast, call.answer = .ok ()
  received : w.collected ++ w.unread = received w.calls
  result : w.outcome = if w.ended then some (result w.calls) else none
  no_codec_error : ∀ e, w.outcome ≠ some (.error (.codec e))
  /-- Whichever way it has ended, it has taken its player off the hub, in all games, and nobody else. -/
  leaves : w.ended = true → ∃ before,
    w.departures = [(before, before.filter (·.player != w.feed.player))]
  /-- It waits only for notices, and not when it has been told to end or its channel is closed. -/
  waits : w.ended = false → w.service.moveFeed w.feed = .waiting → ∃ c, w.feed.phase = .reading c ∧
    w.service.stops w.feed = false ∧ w.service.hub.isWritable c = true ∧
      w.service.hub.isFull c = false

/-! ## The receiver -/

/-- The calls have all succeeded, or the last one has failed and the feed has that failure. -/
inductive Answered : List Call → Option FeedError → Prop where
  | all {calls : List Call} (succeed : ∀ c ∈ calls, c.answer = .ok ()) : Answered calls none
  | last {calls : List Call} (succeed : ∀ c ∈ calls, c.answer = .ok ())
    (sent : NoticeKind × String) (text : String) :
    Answered (calls ++ [⟨sent, .error text⟩]) (some (.handler text))

namespace Answered

variable {calls : List Call} {failure : Option FeedError}

theorem result : Answered calls failure → Attended.result calls = match failure with
    | some e => .error e
    | none => .ok () := by
  intro h
  cases h with
  | all succeed =>
    unfold Attended.result
    split
    · rename_i sent text last
      cases succeed _ (List.mem_of_getLast? last)
    · rfl
  | last succeed sent text =>
    unfold Attended.result
    rw [List.getLast?_concat]

theorem dropLast (h : Answered calls failure) : ∀ c ∈ calls.dropLast, c.answer = .ok () := by
  cases h with
  | all succeed => exact fun c mem => succeed c (List.mem_of_mem_dropLast mem)
  | last succeed sent text =>
    rw [List.dropLast_concat]
    exact succeed

theorem snoc (h : Answered calls none) (sent : NoticeKind × String) (answer : Except String Unit) :
    Answered (calls ++ [⟨sent, answer⟩]) (match answer with
      | .ok () => none
      | .error text => some (.handler text)) := by
  cases h with
  | all succeed =>
    cases answer with
    | ok => exact .all (List.forall_mem_append.2 ⟨succeed, by simp⟩)
    | error text => exact .last succeed sent text

end Answered

theorem received_append (calls calls' : List Call) :
    received (calls ++ calls') = received calls ++ received calls' := List.filterMap_append

/-- What the inbox of the feed has to do with the calls. -/
structure Served (w : Attended) (i : Inbox) : Prop where
  there : w.service.inbox? w.feed.id = some i
  received : w.collected ++ i.unread = received w.calls
  outcome : i.outcome = if w.ended then some (result w.calls) else none

end Attended

theorem Service.inbox?_setInbox {s : Service} {i j : Inbox} {feed : Nat}
    (found : s.inbox? feed = some i) (own : j.feed = feed) :
    (s.setInbox j).inbox? feed = some j := by
  have kept : ((·.feed == feed) ∘ fun k : Inbox => if k.feed == j.feed then j else k) =
      (·.feed == feed) := by
    funext k
    by_cases same : k.feed = feed <;> simp [same, own]
  have feed_eq := (Service.mem_of_inbox? found).2
  unfold Service.inbox? at found ⊢
  rw [Service.setInbox, List.find?_map, kept, found]
  simp [feed_eq, own]

/-- What a receiver answers, and what it has received then. -/
theorem Inbox.receive_eq (i : Inbox) (n : Notice) : (i.receive n).2.feed = i.feed ∧
    (i.receive n).2.outcome = i.outcome ∧
    (i.receive n).2.unread = i.unread ++ Attended.received [⟨n.encode, (i.receive n).1⟩] := by
  unfold Inbox.receive
  dsimp only
  split
  · exact ⟨rfl, rfl, (List.append_nil _).symm⟩
  · split
    · exact ⟨rfl, rfl, (List.append_nil _).symm⟩
    · exact ⟨rfl, rfl, rfl⟩

theorem Service.handOn_of_some {s : Service} {f : Feed} {i : Inbox} (found : s.inbox? f.id = some i)
    (n : Notice) : s.handOn f n = (match (i.receive n).1 with
      | .ok () => none
      | .error text => some (.handler text), s.setInbox (i.receive n).2) := by
  unfold Service.handOn
  rw [found]
  dsimp only
  rcases i.receive n with ⟨⟨⟩ | ⟨⟨⟩⟩, j⟩ <;> rfl

theorem Service.closeInbox_of_some {s : Service} {f : Feed} {i : Inbox}
    (found : s.inbox? f.id = some i) : s.closeInbox f = s.setInbox { i with
      outcome := some (match f.failure with
        | some e => .error e
        | none => .ok ()) } := by
  unfold Service.closeInbox
  cases f.failure <;> simp only [found]

/-- The feed after it has handed on a notice that it has read. -/
theorem Feed.handedOn_eq (f : Feed) {c : ChannelId} (reading : f.phase = .reading c)
    (unfailed : f.failure = none) (failure : Option FeedError) :
    (f.handedOn c failure).id = f.id ∧ (f.handedOn c failure).player = f.player ∧
      (f.handedOn c failure).failure = failure ∧
      (f.handedOn c failure).phase.channel? = some c ∧
      ((f.handedOn c failure).phase = .reading c ∧ failure = none ∨
        (f.handedOn c failure).phase = .leaving c ∧ failure ≠ none) := by
  cases failure with
  | none => exact ⟨rfl, rfl, unfailed, congrArg FeedPhase.channel? reading, .inl ⟨reading, rfl⟩⟩
  | some e => exact ⟨rfl, rfl, rfl, rfl, .inr ⟨rfl, nofun⟩⟩

namespace Attended

/-! ## The feed -/

theorem callsOf_of_notice {s : Service} {f : Feed} {c : ChannelId} {n : Notice} {hub : Hub}
    {i : Inbox} (reading : f.phase = .reading c) (got : s.hub.receive c = (.notice n, hub))
    (found : s.inbox? f.id = some i) : callsOf s f = [⟨n.encode, (i.receive n).1⟩] := by
  unfold callsOf
  rw [reading]
  dsimp only
  rw [got]
  dsimp only
  rw [found]
  rfl

/-- A feed that reads nothing makes no call. -/
theorem callsOf_of_silent {s : Service} {f : Feed}
    (silent : Live.readingsOf (some f.id) (s.feedHappenings f) = []) : callsOf s f = [] := by
  unfold callsOf
  unfold Service.feedHappenings at silent
  split
  · rename_i c reading
    rw [reading] at silent
    dsimp only at silent
    split
    · rename_i n hub got
      rw [got] at silent
      cases silent
    · rfl
  · rfl

/-- A feed finds its channel empty if it stops reading there without a notice. -/
theorem empty_of_silent {s : Service} {f : Feed} {c : ChannelId} (reading : f.phase = .reading c)
    (silent : s.feedHappenings f = []) : s.hub.slots.find? (·.channel == c) = none := by
  unfold Service.feedHappenings at silent
  rw [reading] at silent
  dsimp only at silent
  rcases found : s.hub.slots.find? (·.channel == c) with _ | slot
  · exact found
  · rw [Hub.receive_of_some found] at silent
    cases silent

theorem not_hasLeft_of_reading {w : Attended} {c : ChannelId} (reading : w.feed.phase = .reading c)
    (d : ChannelId) : ¬ w.HasLeft d := by
  rintro (leaving | closing)
  · cases reading.symm.trans leaving
  · cases reading.symm.trans closing

section Record

variable (w : Attended) (f : Feed) (s : Service)

theorem readings_record (silent : Live.readingsOf (some w.feed.id) (w.service.feedHappenings w.feed) = []) :
    (w.record f s).readings = w.readings := by
  show w.readings ++ _ = _
  rw [silent, List.append_nil]

theorem calls_record (silent : Live.readingsOf (some w.feed.id) (w.service.feedHappenings w.feed) = []) :
    (w.record f s).calls = w.calls := by
  show w.calls ++ _ = _
  rw [callsOf_of_silent silent, List.append_nil]

theorem heeded_record (other : ∀ c, w.feed.phase ≠ .reading c) : (w.record f s).heeded = w.heeded := by
  unfold record
  dsimp only
  split
  · rename_i c d reading leaving
    exact absurd reading (other c)
  · rfl

theorem departures_record (other : ∀ c, w.feed.phase ≠ .leaving c) :
    (w.record f s).departures = w.departures := by
  unfold record
  dsimp only
  split
  · rename_i c leaving
    exact absurd leaving (other c)
  · rfl

end Record

/-- What a feed at work, its receiver and the hub have to do with each other. -/
structure Kept (w : Attended) : Prop where
  sound : Hub.Sound w.service.hub w.log
  reads : ∀ c, Hub.reads w.log c = (w.readings.filter (·.channel == c)).map (·.notice)
  own : ∀ r ∈ w.readings, r.feed = some w.feed.id → w.feed.phase.channel? = some r.channel
  known : ∀ c, w.feed.phase.channel? = some c → c < w.service.hub.nextChannel
  sent : w.calls.map (·.sent) =
    ((w.readings.filter (·.feed == some w.feed.id)).map (·.notice)).map Notice.encode
  answered : Answered w.calls w.feed.failure
  failed : w.feed.failure ≠ none → ∃ c, w.HasLeft c
  shut : w.heeded = false → w.feed.failure = none → ∀ c, w.HasLeft c → w.service.hub.Shut c
  served : ∃ i, w.Served i
  stays : (∀ c, w.feed.phase ≠ .closing c) → w.departures = [] ∧ w.ended = false
  leaves : ∀ c, w.feed.phase = .closing c → ∃ before,
    w.departures = [(before, before.filter (·.player != w.feed.player))]

theorem kept_start (s : Service) (f : Feed) (failsAt : Option Nat) (failure : String) :
    (start s f failsAt failure).Kept where
  sound := .start
  reads _ := rfl
  own := by simp [start]
  known := by rintro c ⟨⟩
  sent := rfl
  answered := .all (by simp [start])
  failed failed := absurd rfl failed
  shut := by rintro - - c (⟨⟨⟩⟩ | ⟨⟨⟩⟩)
  served := ⟨{ feed := f.id, failsAt, failure }, by simp [start, Service.inbox?], rfl, rfl⟩
  stays _ := ⟨rfl, rfl⟩
  leaves := by rintro c ⟨⟩

namespace Kept

variable {w : Attended} (k : w.Kept)
include k

theorem not_failed (reading : ∀ c, ¬ w.HasLeft c) : w.feed.failure = none := by
  by_contra failed
  obtain ⟨c, left⟩ := k.failed failed
  exact reading c left

/-- The inbox has changed, but there is the same to look at and to have been looked at. -/
theorem serve {service : Service} (i : Inbox) (collected : List (NoticeKind × String))
    (hub : service.hub = w.service.hub) (served : Served { w with service, collected } i) :
    Kept { w with service, collected } where
  sound := hub ▸ k.sound
  reads := k.reads
  own := k.own
  known := hub ▸ k.known
  sent := k.sent
  answered := k.answered
  failed := k.failed
  shut := hub ▸ k.shut
  served := ⟨i, served⟩
  stays := k.stays
  leaves := k.leaves

theorem collect : (w.act .collect).Kept := by
  obtain ⟨i, there, received, outcome⟩ := k.served
  have own := (Service.mem_of_inbox? there).2
  unfold Attended.act Service.readInbox
  rw [there]
  refine k.serve { i with unread := [] } _ rfl ⟨?_, ?_, outcome⟩
  · exact Service.inbox?_setInbox there own
  · rw [← received]
    exact List.append_nil _

theorem lose : (w.act .lose).Kept := by
  obtain ⟨i, there, received, outcome⟩ := k.served
  unfold Attended.act
  rw [there]
  exact k.serve { i with gone := true } w.collected rfl
    ⟨Service.inbox?_setInbox there (Service.mem_of_inbox? there).2, received, outcome⟩

theorem elsewhere (other : Service) : (w.act (.elsewhere other)).Kept := by
  obtain ⟨i, there, received, outcome⟩ := k.served
  exact k.serve i w.collected rfl ⟨there, received, outcome⟩

theorem cancel : (w.act .cancel).Kept :=
  ⟨k.sound, k.reads, k.own, k.known, k.sent, k.answered, k.failed, k.shut,
    k.served.imp fun _ h => ⟨h.there, h.received, h.outcome⟩, k.stays, k.leaves⟩

theorem stop : (w.act .stop).Kept := by
  unfold Attended.act Attended.stop
  dsimp only
  split
  · rename_i c reading
    split
    · have phase : w.feed.phase.channel? = some c := by rw [reading]; rfl
      obtain ⟨none, going⟩ := k.stays (by rw [reading]; rintro c ⟨⟩)
      exact {
        sound := k.sound
        reads := k.reads
        own := fun r mem its => phase.symm.trans (k.own r mem its)
        known := fun d here => k.known d (phase.trans here)
        sent := k.sent
        answered := k.answered
        failed := fun _ => ⟨c, .inl rfl⟩
        shut := by rintro ⟨⟩
        served := k.served.imp fun _ h => ⟨h.there, h.received, h.outcome⟩
        stays := fun _ => ⟨none, going⟩
        leaves := by rintro d ⟨⟩ }
    · exact k
  · exact k

/-- What was read from the hub is told by its log, whoever read it. -/
theorem reads_append (hs : List Hub.Happening) (reader : Option Nat) (c : ChannelId) :
    Hub.reads (w.log ++ hs) c =
      ((w.readings ++ Live.readingsOf reader hs).filter (·.channel == c)).map (·.notice) := by
  rw [Hub.reads_append, k.reads, Live.reads_eq_readingsOf reader, List.filter_append, List.map_append]

theorem hub (a : Hub.Act) : (w.act (.hub a)).Kept where
  sound := k.sound.act a
  reads := k.reads_append (w.service.hub.act a).2 none
  own r mem its := by
    rcases List.mem_append.1 mem with old | new
    · exact k.own r old its
    · cases (Live.feed_of_mem_readingsOf new).symm.trans its
  known c here := Nat.lt_of_lt_of_le (k.known c here) (Hub.nextChannel_le_act _ a)
  sent := by
    have others : (Live.readingsOf none (w.service.hub.act a).2).filter
        (·.feed == some (w.act (.hub a)).feed.id) = [] :=
      List.filter_eq_nil_iff.2 fun r mem => by simp [Live.feed_of_mem_readingsOf mem]
    show w.calls.map _ = (((w.readings ++ _).filter _).map _).map _
    rw [List.filter_append, others, List.append_nil]
    exact k.sent
  answered := k.answered
  failed := k.failed
  shut heeded failure c left := by
    refine (k.shut heeded failure c left).act (k.known c ?_) a
    rcases left with leaving | closing
    · rw [show w.feed.phase = _ from leaving]; rfl
    · rw [show w.feed.phase = _ from closing]; rfl
  served := k.served.imp fun _ h => ⟨h.there, h.received, h.outcome⟩
  stays := k.stays
  leaves := k.leaves

/-! ### The next step -/

/-- What the feed reads it hands on, encoded. -/
theorem sent_record {f : Feed} {s : Service} (id : f.id = w.feed.id) : (w.record f s).calls.map (·.sent) =
    (((w.record f s).readings.filter (·.feed == some f.id)).map (·.notice)).map Notice.encode := by
  obtain ⟨i, there, -, -⟩ := k.served
  have own : (Live.readingsOf (some w.feed.id) (w.service.feedHappenings w.feed)).filter
      (·.feed == some w.feed.id) =
        Live.readingsOf (some w.feed.id) (w.service.feedHappenings w.feed) :=
    List.filter_eq_self.2 fun r mem => by simp [Live.feed_of_mem_readingsOf mem]
  have sent : (callsOf w.service w.feed).map (·.sent) =
      ((Live.readingsOf (some w.feed.id) (w.service.feedHappenings w.feed)).map (·.notice)).map
        Notice.encode := by
    by_cases silent : Live.readingsOf (some w.feed.id) (w.service.feedHappenings w.feed) = []
    · rw [callsOf_of_silent silent, silent]
      rfl
    · have steps := w.service.feedSteps w.feed
      generalize happened : w.service.feedHappenings w.feed = hs at steps silent ⊢
      generalize w.service.moveFeed w.feed = move at steps
      cases steps with
      | reads c n hub reading got =>
        rw [callsOf_of_notice reading got there]
        rfl
      | connects => exact absurd (Live.readingsOf_subscribe ..) silent
      | _ => exact absurd rfl silent
  show (w.calls ++ _).map _ = (((w.readings ++ _).filter _).map _).map _
  rw [id, List.map_append, List.filter_append, own, List.map_append, List.map_append, sent, k.sent]

/-- A feed goes on without reading or being read from. -/
theorem quiet {f : Feed} {s : Service} (id : f.id = w.feed.id) (player : f.player = w.feed.player)
    (failure : f.failure = w.feed.failure)
    (silent : Live.readingsOf (some w.feed.id) (w.service.feedHappenings w.feed) = [])
    (sound : Hub.Sound s.hub (w.log ++ w.service.feedHappenings w.feed))
    (channel : ∀ c, w.feed.phase.channel? = some c → f.phase.channel? = some c)
    (known : ∀ c, f.phase.channel? = some c → c < s.hub.nextChannel)
    (failed : w.feed.failure ≠ none → ∃ c, (w.record f s).HasLeft c)
    (shut : (w.record f s).heeded = false → w.feed.failure = none → ∀ c, (w.record f s).HasLeft c →
      s.hub.Shut c)
    (inboxes : s.inboxes = w.service.inboxes)
    (stays : (∀ c, f.phase ≠ .closing c) → (w.record f s).departures = [] ∧ w.ended = false)
    (leaves : ∀ c, f.phase = .closing c → ∃ before,
      (w.record f s).departures = [(before, before.filter (·.player != w.feed.player))]) :
    (w.record f s).Kept := by
  have readings := w.readings_record f s silent
  have calls := w.calls_record f s silent
  refine ⟨sound, k.reads_append _ _, fun r mem its => ?_, known, k.sent_record id, ?_, ?_, ?_, ?_,
    stays, ?_⟩
  · rw [readings] at mem
    exact channel _ (k.own r mem (its.trans (congrArg some id)))
  · rw [calls]
    exact failure ▸ k.answered
  · exact fun some => failed (failure ▸ some)
  · exact fun heeded none => shut heeded (failure ▸ none)
  · obtain ⟨i, there, received, outcome⟩ := k.served
    refine ⟨i, ?_, ?_, ?_⟩
    · show s.inbox? f.id = some i
      rw [id, Service.inbox?, inboxes]
      exact there
    · rw [calls]
      exact received
    · rw [calls]
      exact outcome
  · exact player ▸ leaves

theorem connects (opening : w.feed.phase = .opening)
    (happened : w.service.feedHappenings w.feed =
      (w.service.hub.act (.subscribe w.feed.game w.feed.player w.service.now)).2) :
    (w.record
      { w.feed with
        phase := .reading (w.service.hub.subscribe w.feed.game w.feed.player w.service.now).1 }
      { w.service with
        hub := (w.service.hub.act (.subscribe w.feed.game w.feed.player w.service.now)).1 }).Kept := by
  have none : w.feed.failure = none := k.not_failed fun c left => by
    rcases left with phase | phase <;> rw [opening] at phase <;> cases phase
  have sound := k.sound.act (.subscribe w.feed.game w.feed.player w.service.now)
  refine k.quiet rfl rfl rfl ?_ (happened ▸ sound) ?_ ?_ (absurd none) ?_ rfl ?_ ?_
  · rw [happened]
    exact Live.readingsOf_subscribe ..
  · rw [opening]
    rintro c ⟨⟩
  · rintro c ⟨⟩
    obtain ⟨s, mem, -, -, channel⟩ :=
      Hub.Connected.subscribe w.service.hub w.feed.game w.feed.player w.service.now
    exact channel ▸ sound.known_channel _ _ _ (sound.opened s mem)
  · rintro - - c (⟨⟨⟩⟩ | ⟨⟨⟩⟩)
  · rw [departures_record _ _ _ (by rw [opening]; rintro c ⟨⟩)]
    exact fun _ => k.stays (by rw [opening]; rintro c ⟨⟩)
  · rintro c ⟨⟩

/-- The feed reads a notice and calls the receiver with it, which may fail. -/
theorem reads_on (going : w.ended = false) {c : ChannelId} {n : Notice} {hub : Hub}
    (reading : w.feed.phase = .reading c) (got : w.service.hub.receive c = (.notice n, hub))
    {failure : Option FeedError} {t : Service}
    (handed : { w.service with hub }.handOn w.feed n = (failure, t))
    (happened : w.service.feedHappenings w.feed = [.read c n]) :
    (w.record (w.feed.handedOn c failure) t).Kept := by
  obtain ⟨i, there, received, outcome⟩ := k.served
  have here : w.feed.phase.channel? = some c := by rw [reading]; rfl
  have none : w.feed.failure = none := k.not_failed (not_hasLeft_of_reading reading)
  obtain ⟨empty, -⟩ := k.stays (by rw [reading]; rintro c ⟨⟩)
  obtain ⟨same_feed, same_outcome, unread⟩ := i.receive_eq n
  have calls (f : Feed) (s : Service) :
      (w.record f s).calls = w.calls ++ [⟨n.encode, (i.receive n).1⟩] := by
    rw [← callsOf_of_notice reading got there]
    rfl
  have answered := k.answered
  rw [none] at answered
  have answered := answered.snoc n.encode (i.receive n).1
  rw [Service.handOn_of_some (s := { w.service with hub }) there] at handed
  obtain ⟨rfl, rfl⟩ := Prod.mk.inj handed
  obtain ⟨slot, found, rfl, rfl⟩ := Hub.exists_slot_of_receive got
  generalize (match (i.receive slot.notice).1 with
    | .ok () => Option.none
    | .error text => some (FeedError.handler text)) = failure at answered ⊢
  obtain ⟨id, player, failed, channel, phase⟩ := w.feed.handedOn_eq reading none failure
  generalize w.feed.handedOn c failure = g at id player failed channel phase ⊢
  have departures (s : Service) : (w.record g s).departures = [] := by
    rw [departures_record _ _ _ (by rw [reading]; rintro c ⟨⟩)]
    exact empty
  exact {
    sound := by
      show Hub.Sound _ (w.log ++ w.service.feedHappenings w.feed)
      rw [happened]
      exact k.sound.read found
    reads := k.reads_append _ _
    own := fun r mem its => by
      refine channel.trans ?_
      rcases List.mem_append.1 mem with old | new
      · exact here.symm.trans (k.own r old (its.trans (congrArg some id)))
      · rw [happened] at new
        rw [List.mem_singleton.1 new]
    known := fun d own => k.known d (here.trans (channel.symm.trans own))
    sent := k.sent_record id
    answered := by
      rw [calls]
      exact failed ▸ answered
    failed := fun some => ⟨c, .inl (phase.resolve_left fun whole => some (failed.trans whole.2)).1⟩
    shut := fun _ unfailed d left => by
      rcases phase with ⟨reads, -⟩ | ⟨-, some⟩
      · exact absurd left (not_hasLeft_of_reading reads d)
      · exact absurd (failed.symm.trans unfailed) some
    served := ⟨(i.receive slot.notice).2, by
        show Service.inbox? _ g.id = _
        rw [id]
        exact Service.inbox?_setInbox there (same_feed.trans (Service.mem_of_inbox? there).2), by
        rw [calls, received_append, ← received, List.append_assoc, ← unread]
        rfl,
      same_outcome.trans (outcome.trans ((if_neg (ne_true_of_eq_false going)).trans
        (if_neg (ne_true_of_eq_false going)).symm))⟩
    stays := fun _ => ⟨departures _, going⟩
    leaves := fun d closing => by
      rcases phase with ⟨reads, -⟩ | ⟨leaves, -⟩
      · cases reads.symm.trans closing
      · cases leaves.symm.trans closing }

theorem quits {c : ChannelId} (reading : w.feed.phase = .reading c)
    (cause : w.service.stops w.feed = true ∨ w.service.hub.isWritable c = false)
    (happened : w.service.feedHappenings w.feed = []) :
    (w.record { w.feed with phase := .leaving c } w.service).Kept := by
  have here : w.feed.phase.channel? = some c := by rw [reading]; rfl
  have none : w.feed.failure = none := k.not_failed (not_hasLeft_of_reading reading)
  have heeded : (w.record { w.feed with phase := .leaving c } w.service).heeded =
      w.service.stops w.feed := by
    unfold record
    rw [reading]
  refine k.quiet rfl rfl rfl (by rw [happened]; rfl) ?_ (fun d own => here.symm.trans own)
    (fun d own => k.known d (here.trans own)) (absurd none) ?_ rfl ?_ ?_
  · rw [happened, List.append_nil]
    exact k.sound
  · rw [heeded]
    rintro going - d (⟨⟨⟩⟩ | ⟨⟨⟩⟩)
    have closed := cause.resolve_left (by rw [going]; exact Bool.false_ne_true)
    exact Hub.shut_of_receive closed (empty_of_silent reading happened)
  · rw [departures_record _ _ _ (by rw [reading]; rintro c ⟨⟩)]
    exact fun _ => k.stays (by rw [reading]; rintro c ⟨⟩)
  · rintro d ⟨⟩

theorem departs {c : ChannelId} (leaving : w.feed.phase = .leaving c)
    (happened : w.service.feedHappenings w.feed = []) :
    (w.record { w.feed with phase := .closing c }
      { w.service with hub := w.service.hub.unsubscribe w.feed.player }).Kept := by
  have here : w.feed.phase.channel? = some c := by rw [leaving]; rfl
  refine k.quiet rfl rfl rfl (by rw [happened]; rfl) ?_ (fun d own => here.symm.trans own)
    (fun d own => k.known d (here.trans own)) (fun _ => ⟨c, .inr rfl⟩) ?_ rfl ?_ ?_
  · rw [happened, List.append_nil]
    exact k.sound.unsubscribe w.feed.player
  · rw [heeded_record _ _ _ (by rw [leaving]; rintro c ⟨⟩)]
    rintro unheeded unfailed d (⟨⟨⟩⟩ | ⟨⟨⟩⟩)
    exact (k.shut unheeded unfailed c (.inl leaving)).unsubscribe w.feed.player
  · exact fun other => absurd rfl (other c)
  · rintro d ⟨⟩
    obtain ⟨none, -⟩ := k.stays (by rw [leaving]; rintro d ⟨⟩)
    refine ⟨w.service.hub.subscriptions, ?_⟩
    unfold record
    rw [leaving]
    show w.departures ++ _ = _
    rw [none]
    rfl

theorem ends {c : ChannelId} (closing : w.feed.phase = .closing c) {inboxes : List Inbox}
    {jobs : List Job} (closed : w.service.closeInbox w.feed = { w.service with inboxes })
    (happened : w.service.feedHappenings w.feed = []) :
    ({ w with ended := true }.record w.feed
      { w.service with hub := w.service.hub.release c, inboxes, jobs }).Kept := by
  obtain ⟨i, there, received, -⟩ := k.served
  have silent : Live.readingsOf (some w.feed.id) (w.service.feedHappenings w.feed) = [] := by
    rw [happened]
    rfl
  have calls := calls_record { w with ended := true } w.feed
    { w.service with hub := w.service.hub.release c, inboxes, jobs } silent
  have own : i.feed = w.feed.id := (Service.mem_of_inbox? there).2
  rw [Service.closeInbox_of_some there] at closed
  obtain rfl : _ = inboxes := congrArg Service.inboxes closed
  exact {
    sound := by
      show Hub.Sound _ (w.log ++ w.service.feedHappenings w.feed)
      rw [happened, List.append_nil]
      exact k.sound.forget (List.Sublist.refl _) _
    reads := k.reads_append _ _
    own := by
      rw [readings_record { w with ended := true } _ _ silent]
      exact k.own
    known := k.known
    sent := by
      rw [calls, readings_record { w with ended := true } _ _ silent]
      exact k.sent
    answered := by
      rw [calls]
      exact k.answered
    failed := fun _ => ⟨c, .inr closing⟩
    shut := by
      rw [heeded_record _ _ _ (by rw [closing]; rintro c ⟨⟩)]
      exact fun unheeded unfailed d left => (k.shut unheeded unfailed d left).release c
    served := by
      refine ⟨_, Service.inbox?_setInbox there own, ?_, ?_⟩
      · rw [calls]
        exact received
      · rw [calls]
        exact congrArg some k.answered.result.symm
    stays := fun other => absurd closing (other c)
    leaves := by
      rw [departures_record _ _ _ (by rw [closing]; rintro c ⟨⟩)]
      exact k.leaves }

theorem go (going : w.ended = false) : w.go.Kept := by
  unfold Attended.go
  have steps := w.service.feedSteps w.feed
  generalize happened : w.service.feedHappenings w.feed = hs at steps
  generalize w.service.moveFeed w.feed = move at steps ⊢
  cases steps with
  | waits => exact k
  | connects opening => exact k.connects opening happened
  | reads c n hub reading got result t handed => exact k.reads_on going reading got handed happened
  | quits c reading cause => exact k.quits reading cause happened
  | leaves c leaving => exact k.departs leaving happened
  | ends c closing inboxes jobs closed kick => exact k.ends closing closed happened

theorem act (a : Act) : (w.act a).Kept := by
  cases a with
  | go =>
    unfold Attended.act
    dsimp only
    split
    · exact k
    · rename_i going
      exact k.go (Bool.eq_false_iff.2 going)
  | stop => exact k.stop
  | cancel => exact k.cancel
  | collect => exact k.collect
  | lose => exact k.lose
  | hub a => exact k.hub a
  | elsewhere other => exact k.elsewhere other

end Kept

theorem kept_attend (s : Service) (f : Feed) (failsAt : Option Nat) (failure : String)
    (acts : List Act) : (attend s f failsAt failure acts).Kept := by
  induction acts using List.reverseRecOn with
  | nil => exact kept_start s f failsAt failure
  | append_singleton acts a ih =>
    unfold attend at ih ⊢
    rw [List.foldl_append]
    exact ih.act a

/-! ## The contract -/

namespace Kept

variable {w : Attended} (k : w.Kept)
include k

/-- What the only reader of a channel has read there is what it has read at all. -/
theorem reads_eq {c : ChannelId} (here : w.feed.phase.channel? = some c) (only : w.IsOnlyReader c) :
    Hub.reads w.log c = (w.readings.filter (·.feed == some w.feed.id)).map (·.notice) := by
  rw [k.reads]
  refine congrArg (List.map _) (List.filter_congr fun r mem => ?_)
  rw [Bool.eq_iff_iff, beq_iff_eq, beq_iff_eq]
  exact ⟨only r mem, fun own => (Option.some.inj (here.symm.trans (k.own r mem own))).symm⟩

theorem in_order {c : ChannelId} (here : w.feed.phase.channel? = some c) (only : w.IsOnlyReader c) :
    ∃ taken, taken <+: Hub.accepts w.log c ∧ w.calls.map (·.sent) = taken.map Notice.encode ∧
      (∀ n ∈ taken, Notice.decode n.encode.1.tag n.encode.2 = .ok n) ∧
      (w.HasLeft c → w.feed.failure = none → w.heeded = false → taken = Hub.accepts w.log c) := by
  have queued := k.sound.queued c
  rw [k.reads_eq here only] at queued
  refine ⟨_, queued ▸ List.prefix_append _ _, k.sent, fun n _ => n.decode_encode, ?_⟩
  intro left unfailed unheeded
  have shut := k.shut unheeded unfailed c left
  have empty : w.service.hub.slots.filter (·.channel == c) = [] :=
    List.filter_eq_nil_iff.2 fun slot mem => by simpa using shut.empty slot mem
  rw [queued, empty, List.map_nil, List.append_nil]

theorem none_before (opening : w.feed.phase = .opening) : w.calls = [] := by
  have none : w.readings.filter (·.feed == some w.feed.id) = [] := by
    refine List.filter_eq_nil_iff.2 fun r mem own => ?_
    have channel := k.own r mem (beq_iff_eq.1 own)
    rw [opening] at channel
    cases channel
  have sent := k.sent
  rw [none] at sent
  exact List.map_eq_nil_iff.1 sent

theorem outcome_eq : w.outcome = if w.ended then some (result w.calls) else none := by
  obtain ⟨i, there, -, outcome⟩ := k.served
  rw [Attended.outcome, there]
  exact outcome

end Kept

theorem result_ne_codec (calls : List Call) (e : CodecError) : result calls ≠ .error (.codec e) := by
  unfold result
  split <;> nofun

end Attended

theorem Service.exists_reading_of_waits {s : Service} {f : Feed} (waits : s.moveFeed f = .waiting) :
    ∃ c, f.phase = .reading c ∧ s.stops f = false ∧ s.hub.isWritable c = true ∧
      s.hub.isFull c = false := by
  unfold Service.moveFeed at waits
  split at waits
  · cases waits
  · rename_i c reading
    rcases found : s.hub.slots.find? (·.channel == c) with _ | slot
    · rw [Hub.receive_of_none found] at waits
      refine ⟨c, reading, ?_, ?_, ?_⟩
      · by_contra stops
        cases writable : s.hub.isWritable c <;> simp [writable, stops] at waits
      · by_contra writable
        simp [writable] at waits
      · rw [Hub.isFull, List.any_eq_false]
        exact List.find?_eq_none.1 found
    · rw [Hub.receive_of_some found] at waits
      dsimp only at waits
      split at waits <;> cases waits
  · cases waits
  · cases waits

namespace Attended

/-- Whatever goes on beside it, a feed keeps to its contract. -/
theorem feed_contract (s : Service) (f : Feed) (failsAt : Option Nat) (failure : String)
    (acts : List Act) : (attend s f failsAt failure acts).Contract := by
  have k := kept_attend s f failsAt failure acts
  generalize attend s f failsAt failure acts = w at k
  exact {
    in_order := fun c => k.in_order
    none_before := k.none_before
    fails_last := k.answered.dropLast
    received := by
      obtain ⟨i, there, received, -⟩ := k.served
      rw [unread, there]
      exact received
    result := k.outcome_eq
    no_codec_error := fun e same => by
      rw [k.outcome_eq] at same
      split at same
      · exact result_ne_codec _ e (Option.some.inj same)
      · cases same
    leaves := fun ended => by
      by_cases left : ∃ c, w.feed.phase = .closing c
      · obtain ⟨c, closing⟩ := left
        exact k.leaves c closing
      · have going := (k.stays fun c closing => left ⟨c, closing⟩).2
        rw [ended] at going
        cases going
    waits := fun _ waits => Service.exists_reading_of_waits waits }

/-- A feed is brought two notices, and then has the time to end. -/
def twoNotices : List Act :=
  [.go, .hub (.subscribe "hall" "eve" 0), .hub (.publish "room" none (.left "ann")),
    .hub (.advance 0 0), .hub (.advance 0 0), .hub (.advance 0 0), .go,
    .hub (.publish "room" none .turnEnded), .hub (.advance 1 0), .hub (.advance 1 0),
    .hub (.advance 1 0), .go, .go, .go]

/-- The receiver fails at the second call, by which the feed ends. -/
theorem second_call_fails :
    let w := attend (Service.opening []) { id := 0, game := "room", player := "sam" } (some 2)
      "gone" twoNotices
    w.IsOnlyReader 0 ∧ Hub.accepts w.log 0 = [.left "ann", .turnEnded] ∧
      w.calls = [⟨(Notice.left "ann").encode, .ok ()⟩, ⟨(.turnEnded, ""), .error "gone"⟩] ∧
      w.outcome = some (.error (.handler "gone")) ∧
      w.departures = [([⟨"room", "sam", 0, 0⟩, ⟨"hall", "eve", 1, 0⟩], [⟨"hall", "eve", 1, 0⟩])] ∧
      w.Contract := by
  intro w
  have only : ∀ r ∈ w.readings, r.channel = 0 → r.feed = some w.feed.id := by decide
  exact ⟨only, by decide, by decide, by decide, by decide, feed_contract _ _ _ _ _⟩

end Attended

end GuessingRoom
