import GuessingRoom.Proofs.Announcements

/-!
# Requests and streams side by side

A service under way. Requests of any number take their steps one by one; so do batches, feeds and
whoever else connects and reads. What a look at a game has ended with is streamed to the viewer: the
feed behind the stream is opened only then, and connects to the hub only later.

What was announced, and what was put down and is still to be announced, is at all times what was put
down (`Live.Spoken`). Every stream begins with the messages that its look has found (`Live.Looked`).
-/

namespace GuessingRoom

open Hub (Happening)

/-- A request under way, with the message that it has put down and not yet announced. -/
structure LiveCall extends Errand Service Request (Except GameError Answer) where
  unsaid : List Line := []

/-- The request has announced whatever it has put down, or is about to. -/
def LiveCall.IsCandid (c : LiveCall) : Prop :=
  c.unsaid = [] ∧ c.rest.Candid ∨ ∃ line, c.unsaid = [line] ∧ c.rest.Announces line

/-- A stream with the feed behind it, and the look with whose result it begins: the view, and the
states that the look has found step by step. -/
structure LiveStream where
  feed : Nat
  game : Id
  viewer : Id
  view : View
  found : List Service

/-- A notice was read from a channel, for a feed or by somebody else. -/
structure Reading where
  channel : ChannelId
  feed : Option Nat
  notice : Notice
deriving DecidableEq, Repr

/-- A service with its traffic, the messages that it has found in its books, all requests ever begun,
the messages in the order in which they were announced, all streams ever opened, what was read from
the hub, and what clients have read from their streams. -/
structure Live extends Traffic where
  old : List Line
  calls : List LiveCall := []
  told : List Line := []
  streams : List LiveStream := []
  readings : List Reading := []
  sent : List (Nat × NoticeKind × String) := []

namespace Live

inductive Act where
  | begin (r : Request)
  /-- The request of the given number takes its next step, if it has one. -/
  | step (call : Nat)
  | batch (number : Nat)
  /-- What the look of the given number has ended with is streamed. -/
  | stream (call : Nat)
  /-- The feed of the given number goes on, if it can. -/
  | feed (id : Nat)
  /-- A feed that has been told to end stops reading, whether or not there is more to read. -/
  | stop (feed : Nat)
  /-- The client reads what there is on the stream of a feed. -/
  | read (feed : Nat)
  /-- The client of a feed's stream goes away. -/
  | drop (feed : Nat)
  /-- Somebody else connects, leaves, reads, or copies or gives up a reader. -/
  | connect (a : Hub.Act) (connection : a.isConnection = true)
  /-- Something goes on that has nothing to do with the game and its notices, after which the service
  is otherwise as given. -/
  | elsewhere (other : Service)

/-- What was read according to a log, for the given feed. -/
def readingsOf (feed : Option Nat) (log : List Happening) : List Reading :=
  log.filterMap fun
    | .read c n => some ⟨c, feed, n⟩
    | _ => none

/-- The service has changed, by which something happened in the hub. -/
def happen (w : Live) (service : Service) (hs : List Happening) (feed : Option Nat) : Live :=
  { w with service, log := w.log ++ hs, readings := w.readings ++ readingsOf feed hs }

def moveBatch (w : Live) (b : Batch) : Live :=
  w.happen (w.service.stepBatch b) ((w.service.without (.batch b)).happenings b) none

/-- The next step of a request. What it queues announces what the request has put down so far. -/
def step (w : Live) (i : Nat) (c : LiveCall) : Live :=
  match c.rest with
  | .done _ => w
  | .step effect next =>
    let after := effect w.service
    let lines := after.books.ledger.lines.drop w.service.books.ledger.lines.length
    let batches := after.batches.drop w.service.batches.length
    { w with
      service := after
      queued := w.queued ++ batches
      told := if batches.isEmpty then w.told else w.told ++ c.unsaid
      calls := w.calls.set i
        { c with
          found := c.found ++ [w.service]
          rest := next w.service
          unsaid := if batches.isEmpty then c.unsaid ++ lines else [] } }

def openStream (w : Live) (c : LiveCall) : Live :=
  match c.task, c.result? with
  | .view game viewer, some (.ok (.view v)) =>
    match w.service.openFeed game viewer (fun f => { f with kicks := true }) id with
    | (feed, service) =>
      { w with service, streams := w.streams ++ [⟨feed, game, viewer, v, c.found⟩] }
  | _, _ => w

def moveFeed (w : Live) (f : Feed) : Live :=
  let s := w.service.without (.feed f)
  match s.moveFeed f with
  | .waiting => w
  | .going t j => w.happen (t.spawn j) (s.feedHappenings f) (some f.id)
  | .ended t => w.happen t (s.feedHappenings f) (some f.id)

def stopFeed (w : Live) (f : Feed) : Live :=
  match f.phase with
  | .reading channel =>
    if w.service.stops f then
      { w with
        service :=
          (w.service.without (.feed f)).spawn (.feed { f with phase := .leaving channel }) }
    else w
  | _ => w

def readStream (w : Live) (feed : Nat) : Live :=
  match w.service.readInbox feed with
  | (some i, service) => { w with service, sent := w.sent ++ i.unread.map (feed, ·) }
  | (none, _) => w

def dropStream (w : Live) (feed : Nat) : Live :=
  let service := w.service.cancelFeed feed
  { w with
    service := match service.inbox? feed with
      | some i => service.setInbox { i with gone := true }
      | none => service }

def feed? (w : Live) (id : Nat) : Option Feed := w.service.feeds.find? (·.id == id)

def act (w : Live) : Act → Live
  | .begin r => { w with calls := w.calls ++ [{ task := r, rest := r.operation }] }
  | .step i => w.calls[i]?.elim w (w.step i)
  | .batch number => (w.service.batches.find? (·.number == number)).elim w w.moveBatch
  | .stream i => w.calls[i]?.elim w w.openStream
  | .feed id => (w.feed? id).elim w w.moveFeed
  | .stop id => (w.feed? id).elim w w.stopFeed
  | .read id => w.readStream id
  | .drop id => w.dropStream id
  | .connect a _ =>
    w.happen { w.service with hub := (w.service.hub.act a).1 } (w.service.hub.act a).2 none
  | .elsewhere other =>
    if other.batches = w.service.batches ∧ other.feeds = w.service.feeds then
      { w with service := { other with
        books := w.service.books
        hub := w.service.hub
        queue := w.service.queue
        inboxes := w.service.inboxes
        nextFeed := w.service.nextFeed } }
    else w

/-- What comes of a new service by the acts, one after another. -/
def run (settings : RoomSettings) (books : Books) (acts : List Act) : Live :=
  acts.foldl act { service := { settings, books }, old := books.ledger.lines }

/-- The messages that were put down and are still to be announced. -/
def unsaid (w : Live) : List Line := w.calls.flatMap (·.unsaid)

end Live

/-! ## Traffic -/

namespace Hub.TurnByTurn

variable {h : Hub} {log : List Happening} (w : TurnByTurn h log)
include w

/-- Who holds readers is of no account. -/
theorem withReaders (readers : List ChannelId) : TurnByTurn { h with readers } log where
  sound := ⟨w.sound.grounded, w.sound.known_channel, w.sound.known_delivery, w.sound.sorted,
    w.sound.opened, w.sound.ids, w.sound.underway, w.sound.counted, w.sound.one_slot,
    w.sound.queued⟩
  in_turn := w.in_turn
  answered := w.answered
  hears := w.hears

/-- A notice is read by whoever has a reader. -/
theorem receive (alone : ∀ d ∈ h.deliveries, ∀ e ∈ h.deliveries, e.game = d.game → e = d)
    {c : ChannelId} {n : Notice} {after : Hub} (got : h.receive c = (.notice n, after)) :
    TurnByTurn after (log ++ [.read c n]) := by
  obtain ⟨slot, found, rfl, rfl⟩ := exists_slot_of_receive got
  have acted : ({ h with readers := c :: h.readers } : Hub).act (.receive c) =
      ({ h with
        readers := c :: h.readers
        slots := h.slots.filter (·.channel != c) }, [.read c slot.notice]) := by
    unfold Hub.act
    dsimp only
    rw [if_pos List.mem_cons_self, receive_of_some (h := { h with readers := c :: h.readers }) found]
  have next := (w.withReaders (c :: h.readers)).act (.receive c) alone (by rintro _ _ _ ⟨⟩)
  rw [acted] at next
  exact next.withReaders h.readers

end Hub.TurnByTurn

namespace Service

theorem batches_spawn_of_none (s : Service) {j : Job} (h : j.batch? = none) :
    (s.spawn j).batches = s.batches := by
  simp [batches, spawn, h]

theorem batches_without_of_none (s : Service) {j : Job} (h : j.batch? = none) :
    (s.without j).batches = s.batches := filterMap_erase_of_none s.jobs h

theorem feeds_without_of_none (s : Service) {j : Job} (h : j.feed? = none) :
    (s.without j).feeds = s.feeds := filterMap_erase_of_none s.jobs h

theorem batches_cancelFeed (s : Service) (id : Nat) : (s.cancelFeed id).batches = s.batches := by
  refine (List.filterMap_append ..).trans ((congrArg₂ (· ++ ·) ?_ ?_).trans (List.append_nil _))
  · rw [List.filterMap_filter]
    refine List.filterMap_congr fun j _ => ?_
    cases j <;> simp [Job.batch?]
  · refine List.filterMap_eq_nil_iff.2 fun j mem => ?_
    obtain ⟨i, there, rfl⟩ := List.mem_map.1 mem
    have meant := (List.mem_filter.1 there).2
    cases i with
    | feed f => rfl
    | _ => cases meant

end Service

/-- Handing a notice on changes inboxes only. -/
theorem Service.exists_handOn_eq (s : Service) (f : Feed) (n : Notice) :
    ∃ inboxes, (s.handOn f n).2 = { s with inboxes } := by
  unfold Service.handOn
  split
  · split <;> exact ⟨_, rfl⟩
  · exact ⟨s.inboxes, rfl⟩

/-- Nothing begins in the hub, and batches and the queue are as they were. -/
theorem Traffic.Sound.beside {t : Traffic} (s : t.Sound) {service : Service} {hs : List Happening}
    (turns : Hub.TurnByTurn service.hub (t.log ++ hs))
    (deliveries : service.hub.deliveries = t.service.hub.deliveries)
    (others : ∀ e ∈ hs, e.begins = false) (queue : service.queue = t.service.queue)
    (batches : service.batches = t.service.batches) :
    Traffic.Sound { t with service, log := t.log ++ hs } where
  turns := turns
  line := by
    show PublishQueue.InLine service.queue t.queued service.batches
    rw [queue, batches]
    exact s.line
  order game := by
    show Hub.begun (t.log ++ hs) game ++ PublishQueue.leftOf t.queued service.batches game = _
    rw [Hub.begun_append, Hub.begun_of_others others, List.append_nil, batches]
    exact s.order game
  work := by
    show PublishQueue.AtWork service.batches service.hub.places
    rw [batches, Hub.places, deliveries]
    exact s.work

theorem Traffic.Sound.calm {t : Traffic} (s : t.Sound) {service : Service}
    (hub : service.hub = t.service.hub) (queue : service.queue = t.service.queue)
    (batches : service.batches = t.service.batches) : Traffic.Sound { t with service } := by
  have same : Hub.TurnByTurn service.hub (t.log ++ []) := by
    rw [hub, List.append_nil]
    exact s.turns
  have beside := s.beside same (by rw [hub]) (by simp) queue batches
  rw [List.append_nil] at beside
  exact beside

/-! ## The step of a feed -/

/-- Where the move of a job leads, by which something happens in the hub. -/
def Traffic.follow (t : Traffic) (hs : List Happening) : Job.Move → Traffic
  | .waiting => t
  | .going u j => { t with service := u.spawn j, log := t.log ++ hs }
  | .ended u => { t with service := u, log := t.log ++ hs }

/-- Whatever a feed does, the traffic stays in order. -/
theorem Traffic.Sound.feed {t : Traffic} (h : t.Sound) {f : Feed} {move : Job.Move}
    {hs : List Happening} (steps : (t.service.without (.feed f)).FeedSteps f move hs) :
    (t.follow hs move).Sound := by
  have batches : (t.service.without (.feed f)).batches = t.service.batches :=
    t.service.batches_without_of_none rfl
  have acts (a : Hub.Act) (connection : a.isConnection = true) :
      Hub.TurnByTurn (t.service.hub.act a).1 (t.log ++ (t.service.hub.act a).2) :=
    h.turns.act a h.alone (by rintro _ _ _ rfl; cases connection)
  have spawned (u : Service) (g : Feed) (same : u.batches = t.service.batches) :
      (u.spawn (.feed g)).batches = t.service.batches := (u.batches_spawn_of_none rfl).trans same
  cases steps with
  | waits => exact h
  | connects opening =>
    refine h.beside (acts (.subscribe f.game f.player t.service.now) rfl) ?_ ?_ rfl
      (spawned _ _ batches)
    · exact t.service.hub.deliveries_of_connection rfl
    · exact t.service.hub.begins_act (by rintro _ _ _ ⟨⟩)
  | reads c n hub reading got result u handed =>
    obtain ⟨inboxes, e⟩ := Service.exists_handOn_eq { t.service.without (.feed f) with hub } f n
    rw [handed] at e
    obtain rfl : u = _ := e
    obtain ⟨slot, -, -, same⟩ := Hub.exists_slot_of_receive got
    refine h.beside (h.turns.receive h.alone got) ?_ (by simp [Hub.Happening.begins]) rfl
      (spawned _ _ batches)
    show hub.deliveries = _
    rw [same]
    rfl
  | quits c reading =>
    refine h.beside ?_ rfl (by simp) rfl (spawned _ _ batches)
    rw [List.append_nil]
    exact h.turns
  | leaves c leaving =>
    exact h.beside (acts (.unsubscribe f.player) rfl) rfl (by simp) rfl (spawned _ _ batches)
  | ends c closing inboxes jobs closed kick =>
    refine h.beside (acts (.release c) rfl) rfl (by simp) rfl (Eq.trans ?_ batches)
    rcases kick with rfl | ⟨due, rfl⟩
    · rfl
    · exact (t.service.without (.feed f)).batches_spawn_of_none
        (j := .timer due (.kick f.game f.player)) rfl

namespace Live

theorem traffic_moveFeed {w : Live} (h : w.toTraffic.Sound) (f : Feed) :
    (w.moveFeed f).toTraffic.Sound := by
  have moved := h.feed ((w.service.without (.feed f)).feedSteps f)
  unfold moveFeed
  dsimp only
  generalize (w.service.without (.feed f)).moveFeed f = move,
    (w.service.without (.feed f)).feedHappenings f = hs at moved ⊢
  cases move with
  | waiting => exact h
  | going u j => exact moved
  | ended u => exact moved

/-! ## The step of a request -/

/-- What the next step of a request comes to: it does work on the books, or queues notices, one of
which tells of the message that the request has put down before, if there is one. -/
inductive CallSteps (w : Live) (i : Nat) (c : LiveCall) : Live → Prop where
  | rests : CallSteps w i c w
  | works (lines : List Line) (service : Service) (put : w.service.PutsDown lines service) (c' : LiveCall)
    (unsaid : c'.unsaid = c.unsaid ++ lines) (candid : c'.IsCandid) :
    CallSteps w i c { w with service, calls := w.calls.set i c' }
  | queues (game : Id) (items : List Outgoing)
    (tell : List.Forall₂ Outgoing.TellsOf (items.filter Outgoing.isChat) c.unsaid)
    (own : ∀ line ∈ c.unsaid, line.gameId = game) (c' : LiveCall) (unsaid : c'.unsaid = [])
    (candid : c'.IsCandid) :
    CallSteps w i c { w with
      service := w.service.publishLater game items
      queued := w.queued ++ [(w.service.queue.push game items).1]
      told := w.told ++ c.unsaid
      calls := w.calls.set i c' }

section Step

variable {w : Live} {i : Nat} {c : LiveCall} {effect : Service → Service}
  {next : Service → Operation Answer} (rest : c.rest = .step effect next)
include rest

theorem callSteps_of_putsDown {lines : List Line}
    (put : w.service.PutsDown lines (effect w.service))
    (candid : LiveCall.IsCandid { c with
      found := c.found ++ [w.service]
      rest := next w.service
      unsaid := c.unsaid ++ lines }) : CallSteps w i c (w.step i c) := by
  have none : (effect w.service).batches.drop w.service.batches.length = [] := by
    rw [put.batches, List.drop_length]
  have gained : (effect w.service).books.ledger.lines.drop w.service.books.ledger.lines.length =
      lines := by
    rw [put.lines, List.drop_left]
  unfold step
  rw [rest]
  dsimp only
  rw [none, gained, List.append_nil]
  exact .works lines _ put _ rfl candid

theorem callSteps_of_queues {game : Id} {items : List Outgoing}
    (same : effect w.service = w.service.publishLater game items)
    (tell : List.Forall₂ Outgoing.TellsOf (items.filter Outgoing.isChat) c.unsaid)
    (own : ∀ line ∈ c.unsaid, line.gameId = game) (candid : (next w.service).Candid) :
    CallSteps w i c (w.step i c) := by
  have queued : (w.service.publishLater game items).batches.drop w.service.batches.length =
      [(w.service.queue.push game items).1] := by
    rw [Service.batches_publishLater, List.drop_left]
  unfold step
  rw [rest]
  dsimp only
  rw [same, queued]
  exact .queues game items tell own _ rfl (.inl ⟨rfl, candid⟩)

end Step

theorem callSteps (w : Live) (i : Nat) {c : LiveCall} (candid : c.IsCandid) :
    CallSteps w i c (w.step i c) := by
  cases rest : c.rest with
  | done a =>
    unfold step
    rw [rest]
    exact .rests
  | step effect next =>
    rcases candid with ⟨said, candid⟩ | ⟨line, unsaid, announces⟩
    · rw [rest] at candid
      rcases candid w.service with ⟨mute, candid⟩ | ⟨line, put, announces⟩
      · generalize same : effect w.service = after at mute
        cases mute with
        | works put =>
          refine callSteps_of_putsDown rest (same ▸ put) (.inl ⟨?_, candid⟩)
          rw [said]
          rfl
        | queues game items none =>
          refine callSteps_of_queues rest same ?_ ?_ candid
          · rw [said, List.filter_eq_nil_iff.2 fun item mem => by rw [none item mem]; decide]
            exact .nil
          · rw [said]
            simp
      · refine callSteps_of_putsDown rest put (.inr ⟨line, ?_, announces⟩)
        rw [said]
        rfl
    · rw [rest] at announces
      obtain ⟨⟨items, item, chats, tells, same⟩, mute⟩ := announces w.service
      refine callSteps_of_queues rest same ?_ ?_ mute.candid
      · rw [chats, unsaid]
        exact .cons tells .nil
      · rw [unsaid]
        exact fun x mem => congrArg Line.gameId (List.mem_singleton.1 mem)

theorem traffic_step {w : Live} (h : w.toTraffic.Sound) (i : Nat) {c : LiveCall} (candid : c.IsCandid) :
    (w.step i c).toTraffic.Sound := by
  have steps := callSteps w i candid
  generalize w.step i c = after at steps
  cases steps with
  | rests => exact h
  | works lines service put => exact h.calm put.hub put.queue put.batches
  | queues game items => exact h.queue game items

/-! ## What was said -/

/-- What was put down since the beginning is what was announced and what is still to be, and the
chats queued for a game tell of the messages announced in it one by one. -/
structure Spoken (w : Live) : Prop where
  candid : ∀ c ∈ w.calls, c.IsCandid
  lines : w.service.books.ledger.lines.Perm (w.old ++ (w.told ++ w.unsaid))
  chats : ∀ game, List.Forall₂ Outgoing.TellsOf
    ((PublishQueue.itemsOf w.queued game).filter Outgoing.isChat)
    (w.told.filter (·.gameId == game))

namespace Spoken

variable {w : Live} (h : w.Spoken)
include h

/-- Nothing else that goes on has to do with what was said. -/
theorem of_books {service : Service} (books : service.books = w.service.books)
    {log : List Happening} {streams : List LiveStream} {readings : List Reading}
    {sent : List (Nat × NoticeKind × String)} :
    Spoken { w with service, log, streams, readings, sent } where
  candid := h.candid
  lines := by
    show service.books.ledger.lines.Perm _
    rw [books]
    exact h.lines
  chats := h.chats

theorem begin (r : Request) : Spoken (w.act (.begin r)) where
  candid c mem := by
    rcases List.mem_append.1 mem with old | new
    · exact h.candid c old
    · rw [List.mem_singleton.1 new]
      exact .inl ⟨rfl, r.candid⟩
  lines := by
    have same : (w.act (.begin r)).unsaid = w.unsaid := by simp [unsaid, act]
    rw [same]
    exact h.lines
  chats := h.chats

omit h in
/-- What is still to be announced changes with the request that takes a step. -/
theorem exists_unsaid {i : Nat} {c : LiveCall} (here : w.calls[i]? = some c) (c' : LiveCall) :
    ∃ others, w.unsaid.Perm (c.unsaid ++ others) ∧
      ((w.calls.set i c').flatMap (·.unsaid)).Perm (c'.unsaid ++ others) := by
  obtain ⟨lt, rfl⟩ := List.getElem?_eq_some_iff.1 here
  obtain ⟨before, after, split, -, changed⟩ := List.exists_of_set lt
  refine ⟨before.flatMap (·.unsaid) ++ after.flatMap (·.unsaid), ?_, ?_⟩
  · unfold unsaid
    nth_rewrite 1 [split]
    rw [List.flatMap_append, List.flatMap_cons]
    exact List.perm_append_comm_assoc ..
  · rw [changed, List.flatMap_append, List.flatMap_cons]
    exact List.perm_append_comm_assoc ..

theorem step {i : Nat} {c : LiveCall} (here : w.calls[i]? = some c) : (w.step i c).Spoken := by
  have steps := callSteps w i (h.candid c (List.mem_of_getElem? here))
  have set {c' : LiveCall} (candid : c'.IsCandid) : ∀ x ∈ w.calls.set i c', x.IsCandid := by
    intro x mem
    rcases List.mem_or_eq_of_mem_set mem with old | rfl
    · exact h.candid x old
    · exact candid
  generalize w.step i c = after at steps
  cases steps with
  | rests => exact h
  | works lines service put c' unsaid candid =>
    obtain ⟨others, before, after⟩ := exists_unsaid here c'
    refine ⟨set candid, ?_, h.chats⟩
    have whole := (h.lines.trans ((before.append_left _).append_left _)).append_right lines
    show service.books.ledger.lines.Perm
      (w.old ++ (w.told ++ (w.calls.set i c').flatMap (·.unsaid)))
    rw [put.lines]
    refine whole.trans (.trans ?_ ((after.append_left _).append_left _).symm)
    rw [unsaid, List.append_assoc, List.append_assoc, List.append_assoc, List.append_assoc]
    exact ((List.perm_append_comm.append_left _).append_left _).append_left _
  | queues game items tell own c' unsaid candid =>
    obtain ⟨others, before, after⟩ := exists_unsaid here c'
    refine ⟨set candid, ?_, fun other => ?_⟩
    · show w.service.books.ledger.lines.Perm
        (w.old ++ ((w.told ++ c.unsaid) ++ (w.calls.set i c').flatMap (·.unsaid)))
      rw [unsaid, List.nil_append] at after
      rw [List.append_assoc]
      exact h.lines.trans (((before.trans (after.symm.append_left _)).append_left _).append_left _)
    · show List.Forall₂ _ ((PublishQueue.itemsOf (w.queued ++ [(w.service.queue.push game items).1])
        other).filter _) ((w.told ++ c.unsaid).filter _)
      rw [PublishQueue.InLine.itemsOf_push, List.filter_append, List.filter_append]
      refine List.rel_append (h.chats other) ?_
      by_cases same : game = other
      · rw [if_pos same, List.filter_eq_self.2 fun line mem => beq_iff_eq.2 ((own line mem).trans same)]
        exact tell
      · have none : c.unsaid.filter (·.gameId == other) = [] :=
          List.filter_eq_nil_iff.2 fun line mem => by rwa [own line mem, beq_iff_eq]
        rw [if_neg same, none]
        exact .nil

end Spoken

end Live

/-! ## Looks -/

/-- What was put down of messages in the game. -/
def Service.said (s : Service) (game : Id) : List Line :=
  s.books.ledger.lines.filter (·.gameId == game)

theorem Secret.visibleContent_eq_or (content secret : String) (viewer author : Id) :
    visibleContent content secret viewer author = content ∨
      visibleContent content secret viewer author = redacted := by
  unfold visibleContent
  split
  · exact .inr rfl
  · exact .inl rfl

namespace View

/-- The view shows the viewer these messages, each with its text or what stands in place of it. -/
def Shows (v : View) (viewer : Id) (lines : List Line) : Prop :=
  List.Forall₂ (fun line post => post.me = (line.playerId == viewer) ∧ line.ShownAs post.content)
    lines v.messages

/-- The view shows all messages of the game that there were in the fifth of the states found, which is
the one whose messages a look reads. -/
def IsOf (v : View) (game viewer : Id) (found : List Service) : Prop :=
  ∃ s, found[4]? = some s ∧ ∃ lines, lines.Perm (s.said game) ∧ v.Shows viewer lines

theorem shows_derive {s : Snapshot} {viewer : Id} {v : View} (h : derive s viewer = .ok v) :
    v.Shows viewer (s.messages.reverse.map Message.line) := by
  unfold derive at h
  dsimp only at h
  split at h
  · cases h
    refine List.forall₂_map_left_iff.2 (List.forall₂_map_right_iff.2 (List.forall₂_same.2 ?_))
    exact fun m _ => ⟨rfl, Secret.visibleContent_eq_or m.content s.word.word viewer m.playerId⟩
  · cases h

end View

namespace Script

variable {σ α β : Type}

/-- Whatever states its steps find, what the script ends with suits them. -/
def EndsOn (P : List σ → α → Prop) : List σ → Script σ α → Prop
  | found, done a => P found a
  | found, step _ next => ∀ s, (next s).EndsOn P (found ++ [s])

theorem EndsOn.map {P : List σ → α → Prop} {Q : List σ → β → Prop} {found : List σ}
    {x : Script σ α} (h : x.EndsOn P found) {k : α → Script σ β}
    (ends : ∀ found a, P found a → ∃ b, k a = done b ∧ Q found b) : (x >>= k).EndsOn Q found := by
  show (x.bind k).EndsOn Q found
  induction x generalizing found with
  | done a =>
    obtain ⟨b, e, suits⟩ := ends found a h
    show (k a).EndsOn Q found
    rw [e]
    exact suits
  | step effect next ih => exact fun s => ih s (h s)

end Script

namespace Operation

variable {α β : Type} {P : List Service → Except GameError β → Prop} {found : List Service}

theorem endsOn_check {p : Prop} [Decidable p] {x : GameError} {k : α → Operation β}
    {op : Operation β} (fails : P found (.error x)) (rest : Script.EndsOn P found op) :
    Script.EndsOn P found (if p then throw x >>= k else op : Operation β) := by
  split
  · exact fails
  · exact rest

theorem endsOn_entry {e : Entry α} {k : α → Operation β} (fails : ∀ found x, P found (.error x))
    (rest : ∀ (s : Service) a b, e.Yields s.books a b → Script.EndsOn P (found ++ [s]) (k a)) :
    Script.EndsOn P found (entry e >>= k : Operation β) := by
  intro s
  show Script.EndsOn P (found ++ [s]) (ExceptT.bindCont k (s.work e).1)
  rcases h : e s.books with ⟨x | a, b⟩
  · have failed : (s.work e).1 = .error x := by rw [Service.work, h]
    rw [failed]
    exact fails _ x
  · have yielded : (s.work e).1 = .ok a := by rw [Service.work, h]
    rw [yielded]
    exact rest s a b h

/-- Whatever other requests do in between, a look ends with the messages that it has read. -/
theorem endsOn_view (game viewer : Id) : Script.EndsOn
    (fun found (r : Except GameError View) => ∀ v, r = .ok v → v.IsOf game viewer found) []
    (view game viewer) := by
  have fails (found : List Service) (x : GameError) :
      ∀ v, (.error x : Except GameError View) = .ok v → v.IsOf game viewer found := by
    rintro v ⟨⟩
  refine endsOn_entry fails fun s₀ _ _ _ => endsOn_entry fails fun s₁ players _ _ => ?_
  refine endsOn_check (fails _ _) (endsOn_entry fails fun s₂ turn _ _ => ?_)
  refine endsOn_entry fails fun s₃ word _ _ => endsOn_entry fails fun s₄ messages _ read => ?_
  refine endsOn_entry fails fun s₅ scores _ _ => ?_
  intro v derived
  have read := (Entry.yields_look.1 read).1
  refine ⟨s₄, rfl, _, ?_, View.shows_derive derived⟩
  exact ((List.reverse_perm _).map _).trans (Store.perm_messages read)

end Operation

/-- If a request for a view succeeds, then with a view of what its steps have found. -/
theorem Request.endsOn_view (game viewer : Id) : Script.EndsOn
    (fun found (r : Except GameError Answer) => ∀ v, r = .ok (.view v) → v.IsOf game viewer found)
    [] (Request.view game viewer).operation := by
  refine (Operation.endsOn_view game viewer).map fun found result suits => ?_
  cases result with
  | error x => exact ⟨.error x, rfl, by rintro v ⟨⟩⟩
  | ok v =>
    refine ⟨.ok (.view v), rfl, ?_⟩
    rintro _ ⟨⟩
    exact suits v rfl

namespace Live

/-- Every look is on its way to a view of what it has found, and every stream begins with one. -/
structure Looked (w : Live) : Prop where
  calls : ∀ c ∈ w.calls, ∀ game viewer, c.task = .view game viewer → Script.EndsOn
    (fun found r => ∀ v, r = .ok (.view v) → v.IsOf game viewer found) c.found c.rest
  streams : ∀ st ∈ w.streams, st.view.IsOf st.game st.viewer st.found

namespace Looked

variable {w : Live} (h : w.Looked)
include h

theorem begin (r : Request) : Looked (w.act (.begin r)) where
  calls c mem := by
    rcases List.mem_append.1 mem with old | new
    · exact h.calls c old
    · rw [List.mem_singleton.1 new]
      rintro game viewer rfl
      exact Request.endsOn_view game viewer
  streams := h.streams

theorem step {i : Nat} {c : LiveCall} (here : w.calls[i]? = some c) : (w.step i c).Looked := by
  have own := h.calls c (List.mem_of_getElem? here)
  unfold Live.step
  cases rest : c.rest with
  | done a => exact h
  | step effect next =>
    refine ⟨fun x mem => ?_, h.streams⟩
    rcases List.mem_or_eq_of_mem_set mem with old | rfl
    · exact h.calls x old
    · intro game viewer task
      have looks := own game viewer task
      rw [rest] at looks
      exact looks w.service

theorem openStream {c : LiveCall} (mem : c ∈ w.calls) : (w.openStream c).Looked := by
  unfold Live.openStream
  split
  · rename_i game viewer v task result
    refine ⟨h.calls, fun st there => ?_⟩
    rcases List.mem_append.1 there with old | new
    · exact h.streams st old
    · rw [List.mem_singleton.1 new]
      have looks := h.calls c mem game viewer task
      rw [Errand.result?_eq_some_iff.1 result] at looks
      exact looks v rfl
  · exact h

end Looked

end Live

end GuessingRoom
