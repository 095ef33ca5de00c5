import GuessingRoom.Proofs.PublishLaw
import GuessingRoom.Proofs.StreamReadings

/-!
# What streams show

A stream begins with a view of the game, and goes on with one event for each notice that comes to the
viewer. The view is read before the feed behind the stream connects to the hub. Chats that begin to
go out in between never come; a message that the view shows comes again as a chat if that chat had
still to begin. Each message of the others is shown once only if neither happens
(`Live.stream_shows_once_iff`), which nothing in the service sees to: a slow reader who holds up the
notices of a game is enough (`Live.message_shown_twice`).
-/

namespace GuessingRoom

open Hub (Happening)

/-! ## Acts -/

namespace Service

theorem books_stepBatch (s : Service) (b : Batch) : (s.stepBatch b).books = s.books := by
  have calm := calm_moveBatch (s := s.without (.batch b)) b
  unfold stepBatch
  generalize (s.without (.batch b)).moveBatch b = move at calm
  cases move with
  | waiting => rfl
  | going t j => exact calm.books
  | ended t => exact calm.books

theorem feeds_publishLater (s : Service) (game : Id) (items : List Outgoing) :
    (s.publishLater game items).feeds = s.feeds :=
  feeds_spawn { s with queue := (s.queue.push game items).2 } (j := .batch (s.queue.push game items).1)
    rfl

/-- Batches have nothing to do with feeds. -/
theorem feeds_stepBatch (s : Service) (b : Batch) : (s.stepBatch b).feeds = s.feeds ∧
    (s.stepBatch b).inboxes = s.inboxes ∧ (s.stepBatch b).nextFeed = s.nextFeed := by
  have moves := (s.without (.batch b)).batchMoves b
  have rest : (s.without (.batch b)).feeds = s.feeds := s.feeds_without_of_none rfl
  unfold stepBatch
  generalize (s.without (.batch b)).moveBatch b = move,
    (s.without (.batch b)).happenings b = hs at moves
  cases moves with
  | follows | waits => exact ⟨rfl, rfl, rfl⟩
  | leaves => exact ⟨rest, rfl, rfl⟩
  | _ => exact ⟨(feeds_spawn _ rfl).trans rest, rfl, rfl⟩

end Service

namespace Live

theorem books_moveFeed (w : Live) (f : Feed) :
    (w.moveFeed f).service.books = w.service.books := by
  have calm := Service.calm_moveFeed (s := w.service.without (.feed f)) f
  unfold Live.moveFeed
  dsimp only
  generalize (w.service.without (.feed f)).moveFeed f = move at calm
  cases move with
  | waiting => rfl
  | going t j => exact calm.books
  | ended t => exact calm.books

/-- All that holds of a service under way. -/
structure Sound (w : Live) : Prop where
  traffic : w.toTraffic.Sound
  spoken : w.Spoken
  looked : w.Looked
  handed : w.Handed

namespace Looked

theorem of_same {w : Live} (h : w.Looked) {service : Service} {log : List Happening}
    {queued : List Batch} {told : List Line} {readings : List Reading}
    {sent : List (Nat × NoticeKind × String)} :
    Looked { w with service, log, queued, told, readings, sent } := ⟨h.calls, h.streams⟩

end Looked

namespace Sound

variable {w : Live} (h : w.Sound)
include h

theorem step {i : Nat} {c : LiveCall} (here : w.calls[i]? = some c) : (w.step i c).Sound where
  traffic := traffic_step h.traffic i (h.spoken.candid c (List.mem_of_getElem? here))
  spoken := h.spoken.step here
  looked := h.looked.step here
  handed := by
    have steps := callSteps w i (h.spoken.candid c (List.mem_of_getElem? here))
    generalize w.step i c = after at steps
    cases steps with
    | rests => exact h.handed
    | works lines service put => exact h.handed.of_same put.feeds put.inboxes put.nextFeed
    | queues game items => exact h.handed.of_same (w.service.feeds_publishLater game items) rfl rfl

theorem moveBatch {number : Nat} {b : Batch}
    (found : w.service.batches.find? (·.number == number) = some b) : (w.moveBatch b).Sound where
  traffic := by
    have step := h.traffic.act (.step number)
    unfold Traffic.act at step
    dsimp only at step
    rw [found] at step
    exact step
  spoken := h.spoken.of_books (w.service.books_stepBatch b)
  looked := h.looked.of_same
  handed := by
    obtain ⟨feeds, inboxes, nextFeed⟩ := w.service.feeds_stepBatch b
    exact h.handed.happen feeds inboxes nextFeed _

theorem openStream {c : LiveCall} (mem : c ∈ w.calls) : (w.openStream c).Sound where
  traffic := by
    unfold Live.openStream
    split
    · refine h.traffic.calm rfl rfl ?_
      exact (List.filterMap_append ..).trans (List.append_nil _)
    · exact h.traffic
  spoken := by
    unfold Live.openStream
    split
    · exact h.spoken.of_books (by rfl)
    · exact h.spoken
  looked := h.looked.openStream mem
  handed := h.handed.openStream c

theorem moveFeed {f : Feed} (there : f ∈ w.service.feeds) : (w.moveFeed f).Sound where
  traffic := traffic_moveFeed h.traffic f
  spoken := by
    have books := w.books_moveFeed f
    unfold Live.moveFeed at books ⊢
    dsimp only at books ⊢
    split
    · exact h.spoken
    · rename_i moves
      rw [moves] at books
      exact h.spoken.of_books books
    · rename_i moves
      rw [moves] at books
      exact h.spoken.of_books books
  looked := by
    unfold Live.moveFeed
    dsimp only
    split
    · exact h.looked
    · exact h.looked.of_same
    · exact h.looked.of_same
  handed := h.handed.moveFeed there

theorem stopFeed {f : Feed} (there : f ∈ w.service.feeds) : (w.stopFeed f).Sound := by
  have handed := h.handed.stopFeed there
  unfold Live.stopFeed at handed ⊢
  cases phase : f.phase with
  | reading c =>
    rw [phase] at handed
    dsimp only at handed ⊢
    split <;> rename_i stops
    · rw [if_pos stops] at handed
      refine ⟨h.traffic.calm rfl rfl ?_, h.spoken.of_books (by rfl), h.looked.of_same, handed⟩
      exact (Service.batches_spawn_of_none _ rfl).trans (w.service.batches_without_of_none rfl)
    · exact h
  | _ => exact h

theorem readStream (feed : Nat) : (w.readStream feed).Sound := by
  have handed := h.handed.readStream feed
  unfold Live.readStream Service.readInbox at handed ⊢
  cases found : w.service.inbox? feed with
  | none => exact h
  | some i =>
    rw [found] at handed
    exact ⟨h.traffic.calm rfl rfl rfl, h.spoken.of_books (by rfl), h.looked.of_same, handed⟩

theorem dropStream (feed : Nat) : (w.dropStream feed).Sound := by
  have handed := h.handed.dropStream feed
  have batches := w.service.batches_cancelFeed feed
  unfold Live.dropStream at handed ⊢
  dsimp only at handed ⊢
  split <;> rename_i found <;> rw [found] at handed <;>
    exact ⟨h.traffic.calm rfl rfl batches, h.spoken.of_books (by rfl), h.looked.of_same, handed⟩

/-- Where there is nobody of the number given nothing is done. -/
theorem elim {α : Type} {o : Option α} {f : α → Live} (next : ∀ x, o = some x → (f x).Sound) :
    (o.elim w f).Sound := by
  cases o with
  | none => exact h
  | some x => exact next x rfl

theorem act (a : Act) : (w.act a).Sound := by
  cases a with
  | begin r =>
    exact ⟨h.traffic, h.spoken.begin r, h.looked.begin r, h.handed.of_same rfl rfl rfl⟩
  | step i => exact h.elim fun c here => h.step here
  | batch number => exact h.elim fun b found => h.moveBatch found
  | stream i => exact h.elim fun c here => h.openStream (List.mem_of_getElem? here)
  | feed id => exact h.elim fun f found => h.moveFeed (List.mem_of_find?_eq_some found)
  | stop id => exact h.elim fun f found => h.stopFeed (List.mem_of_find?_eq_some found)
  | read id => exact h.readStream id
  | drop id => exact h.dropStream id
  | connect a connection =>
    exact ⟨h.traffic.connect a connection, h.spoken.of_books (by rfl), h.looked.of_same,
      h.handed.happen (by rfl) (by rfl) (by rfl) _⟩
  | elsewhere other =>
    unfold Live.act
    dsimp only
    split
    · rename_i same
      refine ⟨h.traffic.calm rfl rfl same.1, h.spoken.of_books (by rfl), h.looked.of_same,
        h.handed.of_same ?_ (by rfl) (by rfl)⟩
      exact same.2
    · exact h

omit h in
theorem start (settings : RoomSettings) (books : Books) :
    Sound { service := { settings, books }, old := books.ledger.lines } where
  traffic := Traffic.Sound.start settings books
  spoken := ⟨by simp, by simp [unsaid], fun _ => .nil⟩
  looked := ⟨by simp, by simp⟩
  handed := ⟨fun _ => rfl, List.nodup_nil, by simp [Service.feeds], by simp, by simp, by simp,
    by simp [Service.feeds], by simp⟩

end Sound

theorem sound_run (settings : RoomSettings) (books : Books) (acts : List Act) :
    (run settings books acts).Sound := by
  unfold run
  induction acts using List.reverseRecOn with
  | nil => exact .start settings books
  | append_singleton acts a ih =>
    rw [List.foldl_append]
    exact ih.act a

/-! ## What a stream shows -/

/-- What the client of a stream has read, and what there is to read. -/
def events (w : Live) (feed : Nat) : List (NoticeKind × String) :=
  w.sentTo feed ++ match w.service.inbox? feed with
    | some i => i.unread
    | none => []

/-- The messages announced in a game. -/
def toldIn (w : Live) (game : Id) : List Line := w.told.filter (·.gameId == game)

/-- How many chats had begun to go out to a game when a channel was opened. -/
def chatsBefore (w : Live) (game : Id) (c : ChannelId) : Nat :=
  ((Hub.begun (Hub.upTo w.log c) game).filter Outgoing.isChat).length

/-- The messages of a game whose chats began to go out after a channel was opened. -/
def heard (w : Live) (game : Id) (c : ChannelId) : List Line :=
  (w.toldIn game).drop (w.chatsBefore game c)

/-- The other messages of a game: those that were there from the beginning, those whose chats had
begun to go out when the channel was opened, and those that are still to be announced. -/
def unheard (w : Live) (game : Id) (c : ChannelId) : List Line :=
  w.old.filter (·.gameId == game) ++ (w.toldIn game).take (w.chatsBefore game c) ++
    w.unsaid.filter (·.gameId == game)

/-- The stream is open and read: its client is there, its feed reads a channel through which the
viewer is connected to the game, nobody else has read from the channel, and nothing is left there. -/
structure Follows (w : Live) (st : LiveStream) (c : ChannelId) : Prop where
  attended : ∃ i ∈ w.service.inbox? st.feed, i.gone = false
  reading : ∃ f ∈ w.service.feeds, f.id = st.feed ∧ f.phase = .reading c
  connected : w.service.hub.Connected st.game st.viewer c
  alone : ∀ r ∈ w.readings, r.channel = c → r.feed = some st.feed
  drained : w.service.hub.isFull c = false

instance (w : Live) (st : LiveStream) (c : ChannelId) : Decidable (w.Follows st c) :=
  decidable_of_iff
    ((∃ i ∈ w.service.inbox? st.feed, i.gone = false) ∧
      (∃ f ∈ w.service.feeds, f.id = st.feed ∧ f.phase = .reading c) ∧
      (∃ s ∈ w.service.hub.subscriptions, s.game = st.game ∧ s.player = st.viewer ∧ s.channel = c) ∧
      (∀ r ∈ w.readings, r.channel = c → r.feed = some st.feed) ∧
      w.service.hub.isFull c = false)
    ⟨fun ⟨a, r, p, l, d⟩ => ⟨a, r, p, l, d⟩, fun ⟨a, r, p, l, d⟩ => ⟨a, r, p, l, d⟩⟩

end Live

/-- The messages of all but one player. -/
def Line.byOthers (viewer : Id) (lines : List Line) : List Line :=
  lines.filter (·.playerId != viewer)

/-- An event tells whose the message is, and shows it. -/
def Line.ToldBy (line : Line) (event : NoticeKind × String) : Prop :=
  ∃ nickname text, event = (Notice.chat line.playerId nickname text).encode ∧ line.ShownAs text

namespace Live

/-- The stream begins with all messages of the game that there were in the given state, and its chats
are those that tell of the messages heard since, but for the viewer's own. -/
structure Shows (w : Live) (st : LiveStream) (c : ChannelId) (s : Service) : Prop where
  view : ∃ seen, seen.Perm (s.said st.game) ∧ st.view.Shows st.viewer seen
  chats : List.Forall₂ Line.ToldBy (Line.byOthers st.viewer (w.heard st.game c))
    ((w.events st.feed).filter (·.1 == .chat))

/-- What the view shows and the chats tell of, taken together, is every message of the others once. -/
def ShowsOnce (w : Live) (st : LiveStream) (c : ChannelId) (s : Service) : Prop :=
  (Line.byOthers st.viewer (s.said st.game ++ w.heard st.game c)).Perm
    (Line.byOthers st.viewer (w.service.said st.game))

namespace Sound

variable {w : Live} (h : w.Sound) {st : LiveStream} {c : ChannelId} (follows : w.Follows st c)

include h follows

/-- The events of a stream are what was read from the channel of its viewer. -/
theorem events_eq : w.events st.feed = (Hub.reads w.log c).map (·.encode) := by
  obtain ⟨i, inbox, there⟩ := follows.attended
  obtain ⟨mem, own⟩ := Service.mem_of_inbox? inbox
  obtain ⟨f, reads, id, reading⟩ := follows.reading
  have same : w.readFor st.feed = w.readFrom c := by
    refine congrArg (List.map _) (List.filter_congr fun r read => ?_)
    rw [Bool.eq_iff_iff, beq_iff_eq, beq_iff_eq]
    refine ⟨fun its => ?_, follows.alone r read⟩
    have channel := h.handed.channels f reads r read (id ▸ its)
    rw [reading] at channel
    exact (Option.some.inj channel).symm
  unfold events
  rw [h.handed.reads, ← same, Option.mem_def.1 inbox, ← own]
  exact (h.handed.faithful i mem).2 there

/-- In a quiet game the events of a stream are what the viewer was to hear since the channel was
opened. -/
theorem events_of_quiet (quiet : w.IsQuiet st.game) : w.events st.feed =
    (Outgoing.heardBy st.viewer (Hub.begun (Hub.since w.log c) st.game)).map (·.encode) := by
  obtain ⟨x, mem, game, viewer, rfl⟩ := follows.connected
  have opened := h.traffic.turns.sound.opened x mem
  have hears : _ = Outgoing.heardBy _ _ := h.traffic.turns.hears x mem
  rw [game] at opened
  rw [h.traffic.coming_of_quiet quiet opened, List.append_nil, game, viewer] at hears
  have none : w.service.hub.slots.filter (·.channel == x.channel) = [] := by
    simpa [Hub.isFull] using follows.drained
  have queued := h.traffic.turns.sound.queued x.channel
  rw [none, List.map_nil, List.append_nil] at queued
  rw [h.events_eq follows, ← hears, queued]

omit follows in
/-- The chats that began to go out since a channel was opened tell of the messages heard through it. -/
theorem heard_of_quiet {game : Id} (quiet : w.IsQuiet game) (c : ChannelId) :
    List.Forall₂ Outgoing.TellsOf ((Hub.begun (Hub.since w.log c) game).filter Outgoing.isChat)
      (w.heard game c) := by
  have told := h.spoken.chats game
  rw [← h.traffic.begun_of_quiet quiet, ← Hub.upTo_append_since w.log c, Hub.begun_append,
    List.filter_append] at told
  have dropped := List.forall₂_drop (w.chatsBefore game c) told
  rwa [chatsBefore, List.drop_left] at dropped

theorem chats_of_quiet (quiet : w.IsQuiet st.game) : List.Forall₂ Line.ToldBy
    (Line.byOthers st.viewer (w.heard st.game c))
    ((w.events st.feed).filter (·.1 == .chat)) := by
  have chats : (w.events st.feed).filter (·.1 == .chat) =
      (((Hub.begun (Hub.since w.log c) st.game).filter Outgoing.isChat).filter
        (·.excluded != some st.viewer)).map (·.notice.encode) := by
    rw [h.events_of_quiet follows quiet, Outgoing.heardBy, List.map_map, List.filter_map,
      List.filter_comm]
    rfl
  -- A chat is kept from the author of its message.
  have others := List.rel_filter (p := (·.excluded != some st.viewer)) (q := (·.playerId != st.viewer))
    (R := Outgoing.TellsOf) (by rintro item line ⟨nickname, text, rfl, -⟩; simp [Outgoing.excluded])
    (h.heard_of_quiet quiet c)
  rw [chats]
  refine List.forall₂_map_right_iff.2 (others.flip.imp ?_)
  rintro line item ⟨nickname, text, rfl, shown⟩
  exact ⟨nickname, text, rfl, shown⟩

omit follows in
/-- Every message of a game was heard through a channel or was not. -/
theorem said_perm (game : Id) (c : ChannelId) :
    (w.service.said game).Perm (w.unheard game c ++ w.heard game c) := by
  have lines := h.spoken.lines.filter (·.gameId == game)
  have told : w.told.filter (·.gameId == game) = (w.toldIn game).take (w.chatsBefore game c) ++
      w.heard game c := (List.take_append_drop ..).symm
  rw [List.filter_append, List.filter_append, told] at lines
  refine lines.trans ?_
  unfold unheard
  simp only [List.append_assoc]
  exact (List.perm_append_comm.append_left _).append_left _

end Sound

/-- In whatever order requests, batches, feeds and clients take their steps: when all batches of a
game have gone out, a stream that is open and read shows the messages that its look has found, and
those that were heard since the viewer was connected. It shows each message of the others once if and
only if what its look has found of them is what was not heard. -/
theorem stream_shows_once_iff (settings : RoomSettings) (books : Books) (acts : List Act)
    {st : LiveStream} (there : st ∈ (run settings books acts).streams) {c : ChannelId}
    (follows : (run settings books acts).Follows st c)
    (quiet : (run settings books acts).IsQuiet st.game) :
    ∃ s, st.found[4]? = some s ∧ (run settings books acts).Shows st c s ∧
      ((run settings books acts).ShowsOnce st c s ↔
        (Line.byOthers st.viewer (s.said st.game)).Perm
          (Line.byOthers st.viewer ((run settings books acts).unheard st.game c))) := by
  have h := sound_run settings books acts
  obtain ⟨s, found, view⟩ := h.looked.streams st there
  refine ⟨s, found, ⟨view, h.chats_of_quiet follows quiet⟩, ?_⟩
  have said := (h.said_perm st.game c).filter (·.playerId != st.viewer)
  unfold ShowsOnce Line.byOthers
  rw [List.filter_append, said.congr_right, List.filter_append, List.perm_append_right_iff]

/-! ## Runs -/

/-- A request from its beginning to its end. -/
def whole (r : Request) (number steps : Nat) : List Act :=
  .begin r :: List.replicate steps (.step number)

/-- A batch goes on as far as it can. -/
def goesOut (number : Nat) : List Act := List.replicate 8 (.batch number)

/-- Two players sit down in a game. -/
def seated : List Act :=
  whole .initUser 0 5 ++ whole .initUser 1 5 ++ whole (.initGame "|") 2 3 ++
    whole (.join (String.ofList (List.replicate 10 '|')) "|||||") 3 4 ++ goesOut 0

/-- The second player opens a stream after one message and before another. -/
def inTime : List Act :=
  let game := String.ofList (List.replicate 10 '|')
  seated ++ whole (.say game "|" "one") 4 7 ++ goesOut 1 ++
    whole (.view game "|||||") 5 6 ++ [.stream 5, .feed 0] ++
    whole (.say game "|" "two") 6 7 ++ goesOut 2 ++ [.feed 0, .read 0]

theorem stream_in_time_shows_once :
    let w := run {} (Service.opening [⟨"w", "apple", "🍎"⟩]).books inTime
    ∃ st ∈ w.streams, w.Follows st 0 ∧ w.IsQuiet st.game ∧
      st.view.messages = [⟨false, "SillyCat", "one"⟩] ∧
      w.events st.feed = [(Notice.chat "|" "SillyCat" "two").encode] ∧
      ∃ s, st.found[4]? = some s ∧ w.Shows st 0 s ∧ w.ShowsOnce st 0 s := by
  obtain ⟨st, there, follows, quiet, messages, events, s', found', unheard⟩ :
      let w := run {} (Service.opening [⟨"w", "apple", "🍎"⟩]).books inTime
      ∃ st ∈ w.streams, w.Follows st 0 ∧ w.IsQuiet st.game ∧
        st.view.messages = [⟨false, "SillyCat", "one"⟩] ∧
        w.events st.feed = [(Notice.chat "|" "SillyCat" "two").encode] ∧
        ∃ s ∈ st.found[4]?, (Line.byOthers st.viewer (s.said st.game)).Perm
          (Line.byOthers st.viewer (w.unheard st.game 0)) := by decide +kernel
  obtain ⟨s, found, shows, once⟩ := stream_shows_once_iff {} _ inTime there follows quiet
  obtain rfl : s' = s := Option.some.inj (found'.symm.trans found)
  exact ⟨st, there, follows, quiet, messages, events, s', found, shows, once.2 unheard⟩

/-- While somebody who does not read holds up the notices of a game, the second player opens a
stream. -/
def heldUp : List Act :=
  let game := String.ofList (List.replicate 10 '|')
  seated ++ [.connect (.subscribe game "slow" 0) rfl] ++
    whole (.say game "|" "one") 4 7 ++ whole (.say game "|" "two") 5 7 ++
    whole (.say game "|" "three") 6 7 ++ goesOut 1 ++ goesOut 2 ++
    whole (.view game "|||||") 7 6 ++ [.stream 7, .feed 0] ++
    [.connect (.receive 0) rfl] ++ goesOut 2 ++ [.connect (.receive 0) rfl] ++ goesOut 3 ++
    [.connect (.receive 0) rfl, .feed 0, .read 0]

/-- The third message has been said once and is shown twice, by the view and by a chat. -/
theorem message_shown_twice :
    let w := run {} (Service.opening [⟨"w", "apple", "🍎"⟩]).books heldUp
    ∃ st ∈ w.streams, w.Follows st 1 ∧ w.IsQuiet st.game ∧ st.viewer = "|||||" ∧
      (w.service.said st.game).map (fun line => (line.playerId, line.content)) =
        [("|", "one"), ("|", "two"), ("|", "three")] ∧
      st.view.messages = [⟨false, "SillyCat", "three"⟩, ⟨false, "SillyCat", "two"⟩,
        ⟨false, "SillyCat", "one"⟩] ∧
      w.events st.feed = [(Notice.chat "|" "SillyCat" "three").encode] ∧
      ∃ s ∈ st.found[4]?, ¬ w.ShowsOnce st 1 s := by
  unfold ShowsOnce
  decide +kernel

/-- What is said between the look and the connection is not shown at all. -/
example :
    let game := String.ofList (List.replicate 10 '|')
    let w := run {} (Service.opening [⟨"w", "apple", "🍎"⟩]).books
      (seated ++ whole (.view game "|||||") 4 6 ++ whole (.say game "|" "one") 5 7 ++ goesOut 1 ++
        [.stream 4, .feed 0, .feed 0, .read 0])
    ∃ st ∈ w.streams, w.Follows st 0 ∧ w.IsQuiet st.game ∧
      (w.service.said st.game).map (·.content) = ["one"] ∧
      st.view.messages = [] ∧ w.events st.feed = [] := by
  decide +kernel

end Live

end GuessingRoom
