import GuessingRoom.Proofs.FeedTraffic
import GuessingRoom.Proofs.RoomCapacity

/-!
# Kicks and live feeds

Calls take their steps one at a time, and in between feeds are opened, read and leave. A kick looks at
the hub, reads the players and writes the player inactive, and much may happen between its look and
its write. Kicks spare everybody who is connected or has a stream open, but for two cases: the player
has connected since the kick looked, or another feed of the player has taken the player off the hub
while the stream is still open (`kicks_spare_iff`).
-/

namespace GuessingRoom

open Script Operation

theorem Hub.contains_subscribers (h : Hub) (game user : Id) :
    (h.subscribers game).contains user = h.isSubscribed game user := by
  rw [Bool.eq_iff_iff, List.contains_iff_mem, Hub.subscribers, List.mem_eraseDups, Hub.isSubscribed]
  simp [Subscription.isFor, and_assoc]

/-! ## The steps of a kick -/

/-- What a step of a kick does to the seats, given what its steps before have found. -/
inductive KickStep (game user : Id) : List Service → Service → Service → Prop where
  /-- The player was away when the kick looked, and is now written inactive. -/
  | writes (looked read s : Service) (away : looked.hub.isSubscribed game user = false) :
      KickStep game user [looked, read] s (s.work (Entry.put (·.setState game user .inactive))).2
  | other (found : List Service) (s t : Service) (nth : found.length ≠ 2)
      (seats : t.books.ledger.seats = s.books.ledger.seats) : KickStep game user found s t

theorem Operation.stepwise_kick (game user : Id) :
    Script.Stepwise (KickStep game user) [] (Operation.kick game user) := by
  refine stepwise_look fun looked => ⟨.other _ _ _ (by simp) rfl, ?_⟩
  rw [Hub.contains_subscribers]
  split
  · trivial
  rename_i away
  refine stepwise_entry fun read => ⟨.other _ _ _ (by simp) ?_, fun players => ?_⟩
  · have kept := Entry.looks_look (·.players game) read.books
    exact congrArg (fun b => b.ledger.seats) kept
  split
  · trivial
  split
  · trivial
  have away : looked.hub.isSubscribed game user = false := Bool.not_eq_true _ ▸ away
  refine stepwise_entry fun s => ⟨.writes looked read s away, fun _ => ?_⟩
  exact stepwise_change fun t => ⟨.other _ _ _ (by simp) rfl, trivial⟩

/-- Every call that may kick the user takes the steps of a kick. -/
theorem Call.stepwise_of_kicks {c : Call} {game user : Id} (kicks : c.Kicks game user) :
    Script.Stepwise (KickStep game user) [] c.operation := by
  have kick := Operation.stepwise_kick game user
  rcases c with (_ | _ | _ | ⟨g, u⟩ | _ | _ | _ | (_ | ⟨g, u⟩)) | _ | _ <;>
    first | exact absurd kicks id | obtain ⟨rfl, rfl⟩ := kicks
  · exact stepwise_map (stepwise_map kick Answer.kicked) Reply.answer
  · exact stepwise_map (stepwise_map (stepwise_map kick fun _ => ()) fun _ => Answer.done) Reply.answer

/-! ## Feeds in between -/

namespace Hub.Connected

variable {h h' : Hub} {game player : Id} {channel : ChannelId}

theorem of_subscriptions (c : h.Connected game player channel)
    (same : h'.subscriptions = h.subscriptions) : h'.Connected game player channel := by
  unfold Connected
  rw [same]
  exact c

end Hub.Connected

namespace Service

/-- What feeds do and what happens at the hub; the books are not touched by it. -/
def feedAct (x : FeedTraffic.Act) (s : Service) : Service :=
  { ((⟨s, []⟩ : FeedTraffic).act x).service with books := s.books, settings := s.settings }

def IsFeedAct (change : Service → Service) : Prop := ∃ x, change = feedAct x

/-- A feed of the player reads what comes of the game. -/
def Streams (s : Service) (game user : Id) : Prop :=
  ∃ f ∈ s.feeds, f.game = game ∧ f.player = user ∧ ∃ c, f.phase = .reading c

/-- By the act a feed takes its player off the hub while another feed of the player reads. -/
def Severs (s : Service) (x : FeedTraffic.Act) (user : Id) : Prop :=
  ∃ id f c game, x = .step id ∧ s.feeds.find? (·.id == id) = some f ∧ f.player = user ∧
    f.phase = .leaving c ∧ s.Streams game user

/-- All feeds of the user that read are connected. -/
def Attached (s : Service) (user : Id) : Prop :=
  ∀ f ∈ s.feeds, f.player = user → ∀ c, f.phase = .reading c → s.hub.Connected f.game user c

theorem Attached.isSubscribed {s : Service} {game user : Id} (h : s.Attached user)
    (streams : s.Streams game user) : s.hub.isSubscribed game user = true := by
  obtain ⟨f, mem, rfl, rfl, c, reading⟩ := streams
  exact (h f mem rfl c reading).isSubscribed

theorem Attached.of_same {s t : Service} {user : Id} (h : s.Attached user) (feeds : t.feeds = s.feeds)
    (hub : t.hub = s.hub) : t.Attached user := by
  unfold Attached
  rw [feeds, hub]
  exact h

/-- Feeds stay attached when one of them goes on, if the rest stays connected and the one that goes on
is. -/
theorem Attached.replace {s t : Service} {user : Id} {f g : Feed} (h : s.Attached user)
    (feeds : t.feeds = s.feeds.erase f)
    (stays : ∀ x ∈ s.feeds, x.player = user → ∀ c, x.phase = .reading c →
      s.hub.Connected x.game user c → t.hub.Connected x.game user c)
    (own : g.player = user → ∀ c, g.phase = .reading c → t.hub.Connected g.game user c) :
    (t.spawn (.feed g)).Attached user := by
  intro x mem is c reading
  rw [feeds_spawn_feed, feeds] at mem
  rcases List.mem_append.1 mem with old | new
  · have old := List.mem_of_mem_erase old
    exact stays x old is c reading (h x old is c reading)
  · rw [List.mem_singleton.1 new] at is reading ⊢
    exact own is c reading

/-- A feed that goes on leaves the player's other feeds attached, unless it severs them. -/
theorem Attached.step {s : Service} {user : Id} {f : Feed} {id : Nat} (h : s.Attached user)
    (found : s.feeds.find? (·.id == id) = some f) (apart : ¬ s.Severs (.step id) user) :
    ((⟨s, []⟩ : FeedTraffic).step f).service.Attached user := by
  have mem := List.mem_of_find?_eq_some found
  have feeds := s.feeds_without f
  have steps := (s.without (.feed f)).feedSteps f
  unfold FeedTraffic.step
  generalize (s.without (.feed f)).moveFeed f = move, (s.without (.feed f)).feedHappenings f = hs
    at steps
  cases steps with
  | waits => exact h
  | connects opening =>
    refine h.replace feeds (fun x _ _ c _ connected => ?_) fun is c reading => ?_
    · exact connected.act (a := .subscribe f.game f.player s.now) (by rintro p ⟨⟩)
    · subst is
      cases reading
      exact Hub.Connected.subscribe s.hub f.game f.player s.now
  | reads c n hub reading got result t handed =>
    obtain ⟨slot, -, -, rfl⟩ := Hub.exists_slot_of_receive got
    obtain ⟨-, same, hub, -⟩ := FeedTraffic.handOn_keeps _ f n
    rw [handed] at same hub
    have stays {game : Id} {c : ChannelId} (connected : s.hub.Connected game user c) :
        t.hub.Connected game user c := connected.of_subscriptions (congrArg Hub.subscriptions hub :)
    refine h.replace (same.trans feeds) (fun x _ _ c _ => stays) fun is c' reads => ?_
    cases result with
    | none => exact stays (h f mem is c' reads)
    | some e => cases reads
  | quits c reading cause =>
    exact h.replace feeds (fun x _ _ c _ connected => connected) (by rintro - c ⟨⟩)
  | leaves c leaving =>
    refine h.replace feeds (fun x there is c' reading connected => ?_) (by rintro - c ⟨⟩)
    have ne : user ≠ f.player := by
      rintro rfl
      exact apart ⟨id, f, c, x.game, rfl, found, rfl, leaving, x, there, rfl, is, c', reading⟩
    exact connected.unsubscribe ne
  | ends c closing inboxes jobs closed kick =>
    have left : List.filterMap Job.feed? jobs = s.feeds.erase f := by
      rw [← feeds]
      rcases kick with rfl | ⟨due, rfl⟩
      · rfl
      · exact (s.without (.feed f)).feeds_spawn (j := .timer due (.kick f.game f.player)) rfl
    intro x there is c' reading
    have there : x ∈ s.feeds.erase f := left ▸ there
    exact (h x (List.mem_of_mem_erase there) is c' reading).of_subscriptions rfl

/-- Feeds stay attached by every act but that of another feed that severs them. -/
theorem Attached.act {s : Service} {user : Id} (h : s.Attached user) (x : FeedTraffic.Act)
    (apart : ¬ s.Severs x user) : (s.feedAct x).Attached user := by
  have kept : ((⟨s, []⟩ : FeedTraffic).act x).service.Attached user := by
    cases x with
    | open_ game player cancelled kicks receiver =>
      intro f mem is c reading
      rcases List.mem_append.1 (mem_feeds.1 mem) with old | new
      · exact h f (mem_feeds.2 old) is c reading
      · cases List.mem_singleton.1 new
        cases reading
    | cancel id =>
      intro f mem is c reading
      rcases mem_feeds_cancelFeed.1 mem with ⟨old, -⟩ | ⟨g, old, -, rfl⟩
      · exact h f old is c reading
      · exact h g old is c reading
    | step id =>
      unfold FeedTraffic.act
      dsimp only
      split
      · rename_i f found
        exact h.step found apart
      · exact h
    | stop id =>
      unfold FeedTraffic.act
      dsimp only
      split
      · rename_i f found
        unfold FeedTraffic.stop
        split
        · split
          · exact h.replace (s.feeds_without f) (fun _ _ _ _ _ connected => connected) (by rintro - c ⟨⟩)
          · exact h
        · exact h
      · exact h
    | close => exact h
    | hub x stays => exact fun f mem is c reading => (h f mem is c reading).act stays
    | elsewhere other =>
      unfold FeedTraffic.act
      dsimp only
      split
      · rename_i same
        exact h.of_same same rfl
      · exact h
  exact kept.of_same rfl rfl

theorem Stride.feeds {kicks : Id → Id → Prop} {s t : Service} (h : s.Stride kicks t) :
    t.feeds = s.feeds := by
  cases h with
  | works => rfl
  | queues game items few =>
    exact feeds_spawn { s with queue := (s.queue.push game items).2 }
      (j := .batch (s.queue.push game items).1) rfl
  | schedules delay game => exact s.feeds_spawn (j := .timer (s.now + delay) (.nextTurn game)) rfl

theorem Stride.hub {kicks : Id → Id → Prop} {s t : Service} (h : s.Stride kicks t) :
    t.hub = s.hub := by cases h <;> rfl

end Service

/-! ## Who loses a seat -/

namespace Books

/-- Nobody loses a seat who may not be kicked. -/
theorem SeatChange.kicks_of_loses {kicks : Id → Id → Prop} {capacity : Nat} {b b' : Books}
    {game user : Id} (h : b.SeatChange kicks capacity b') (has : user ∈ b.ledger.seated game)
    (loses : user ∉ b'.ledger.seated game) : kicks game user := by
  rw [Ledger.mem_seated] at has loses
  cases h with
  | stay seats => exact absurd (seats ▸ has) loses
  | opens n u fresh seats => exact absurd (seats ▸ List.mem_append_left _ has) loses
  | enters g u room seats => exact absurd (seats ▸ List.mem_append_left _ has) loses
  | returns g u room seats =>
    rw [seats, Ledger.mem_seats_map] at loses
    by_cases own : game = g ∧ user = u
    · exact absurd (.inl ⟨own, rfl, true, has⟩) loses
    · exact absurd (.inr ⟨own, has⟩) loses
  | leaves g u may seats =>
    rw [seats, Ledger.mem_seats_map] at loses
    by_cases own : game = g ∧ user = u
    · obtain ⟨rfl, rfl⟩ := own
      exact may
    · exact absurd (.inr ⟨own, has⟩) loses

/-- To be written inactive is to lose the seat. -/
theorem not_mem_seated_of_put {b : Books} {game user : Id} (has : user ∈ b.ledger.seated game) :
    user ∉ (Entry.put (·.setState game user .inactive) b).2.ledger.seated game := by
  rw [Ledger.mem_seated] at has ⊢
  obtain ⟨store, set⟩ :=
    Store.Healthy.exists_setState (s := b.store) .inactive ⟨_, has, rfl, rfl⟩
  have written : (Entry.put (·.setState game user .inactive)).Yields b () { b with store } :=
    Entry.yields_put.2 ⟨store, set, rfl⟩
  have seats : store.ledger = _ := Store.ledger_setState set
  rw [show (Entry.put (·.setState game user .inactive) b).2 = { b with store } from
    congrArg Prod.snd written]
  show _ ∉ store.ledger.seats
  rw [seats, Ledger.mem_seats_map]
  rintro (⟨-, never, -⟩ | ⟨other, -⟩)
  · cases never
  · exact other ⟨rfl, rfl⟩

end Books

namespace Service

/-! ## Runs -/

namespace Calls

abbrev Act := Interleaving.Move Service Call IsFeedAct

/-- What comes of a new service by the acts, one after another. -/
def run (settings : RoomSettings) (books : Books) (acts : List Act) : Calls :=
  (⟨{ settings, books }, []⟩ : Calls).play Call.operation acts

/-- The next step of the call is a kick's that writes the user inactive, who was looked for in the
given state. -/
def Writes (w : Calls) (i : Nat) (game user : Id) (looked : Service) : Prop :=
  ∃ e read, w.errands[i]? = some e ∧ e.task.Kicks game user ∧ e.found = [looked, read] ∧
    e.result? = none

/-- The user has connected since the kick looked that is about to write. -/
def Overtakes (w : Calls) (i : Nat) (game user : Id) : Prop :=
  ∃ looked, w.Writes i game user looked ∧ looked.hub.isSubscribed game user = false ∧
    w.state.hub.isSubscribed game user = true

/-- The kick is about to take the seat of a user who has a stream open but is no longer connected. -/
def CutsOff (w : Calls) (i : Nat) (game user : Id) : Prop :=
  (∃ looked, w.Writes i game user looked) ∧ w.state.Streams game user ∧
    w.state.hub.isSubscribed game user = false ∧ user ∈ w.state.books.ledger.seated game

section

variable (settings : RoomSettings) (books : Books) (acts : List Act)

/-- No kick writes a user inactive who is connected. -/
def SparesConnected : Prop :=
  ∀ past i game user looked, past ++ [.step i] <+: acts →
    (run settings books past).Writes i game user looked →
      (run settings books past).state.hub.isSubscribed game user = false

/-- Whoever has a seat and a stream open keeps the seat as long as a stream is open. -/
def SparesStreams : Prop :=
  ∀ past later game user, past ++ later <+: acts →
    (∀ mid, mid <+: later → (run settings books (past ++ mid)).state.Streams game user) →
      user ∈ (run settings books past).state.books.ledger.seated game →
        user ∈ (run settings books (past ++ later)).state.books.ledger.seated game

end

variable {settings : RoomSettings} {books : Books}

theorem run_snoc (past : List Act) (x : Act) :
    run settings books (past ++ [x]) =
      (run settings books past).move Call.operation x := Interleaving.play_append _ past [x]

/-- Every call has got as far as the states go that it has found. -/
theorem traced (past : List Act) : Interleaving.Traced Call.operation (fun _ => True)
    (fun _ _ => True) (run settings books past) :=
  Interleaving.traced_play Call.operation _ past

/-- A step of a call is that of its script, or none. -/
theorem step_cases (w : Calls) (i : Nat) : (w.move Call.operation (.step i : Act)).state = w.state ∨
    ∃ e effect next, w.errands[i]? = some e ∧ e.rest = .step effect next ∧
      (w.move Call.operation (.step i : Act)).state = effect w.state := by
  unfold Interleaving.move
  dsimp only
  split
  · rename_i e here
    unfold Errand.advance
    split
    · exact .inl rfl
    · rename_i effect next rest
      exact .inr ⟨e, effect, next, here, rest, rfl⟩
  · exact .inl rfl

section Step

variable {w : Calls} (h : Interleaving.Traced Call.operation (fun _ => True) (fun _ _ => True) w)
include h

theorem step_stride (i : Nat) :
    ∃ kicks, w.state.Stride kicks (w.move Call.operation (.step i : Act)).state := by
  rcases step_cases w i with same | ⟨e, effect, next, here, rest, moved⟩
  · rw [same]
    exact ⟨fun _ _ => True, .refl _⟩
  · have strides := Script.Along.after (Call.strides e.task) e.found
    rw [← h.rest e (List.mem_of_getElem? here), rest] at strides
    rw [moved]
    exact ⟨_, (strides w.state).1⟩

/-- What is left of a call that may kick takes the steps of a kick. -/
theorem kickStep {e : Errand Service Call (Except GameError Reply)} (mem : e ∈ w.errands)
    {game user : Id} (kicks : e.task.Kicks game user) {effect : Service → Service}
    {next : Service → Script Service (Except GameError Reply)} (rest : e.rest = .step effect next)
    (s : Service) : KickStep game user e.found s (effect s) := by
  have way := (Call.stepwise_of_kicks kicks).after e.found
  rw [← h.rest e mem, rest] at way
  exact (way s).1

/-- A kick only comes to write if it has not found the user connected, and then it does write. -/
theorem Writes.writes {i : Nat} {game user : Id} {looked : Service}
    (writes : w.Writes i game user looked) : looked.hub.isSubscribed game user = false ∧
      (w.move Call.operation (.step i : Act)).state =
        (w.state.work (Entry.put (·.setState game user .inactive))).2 := by
  obtain ⟨e, read, here, kicks, found, pending⟩ := writes
  cases rest : e.rest with
  | done a =>
    rw [Errand.result?_eq_some_iff.2 rest] at pending
    cases pending
  | step effect next =>
    have moved : (w.move Call.operation (.step i : Act)).state = effect w.state := by
      simp only [Interleaving.move, here, Errand.advance, rest]
    rw [moved]
    have step := kickStep h (List.mem_of_getElem? here) kicks rest w.state
    generalize effect w.state = t at step
    rw [found] at step
    cases step with
    | writes _ _ _ away => exact ⟨away, rfl⟩
    | other _ _ _ nth => exact absurd rfl nth

/-- Nobody loses a seat but by a kick that writes. -/
theorem exists_writes_of_loses {i : Nat} {game user : Id}
    (has : user ∈ w.state.books.ledger.seated game)
    (loses : user ∉ (w.move Call.operation (.step i : Act)).state.books.ledger.seated game) :
    ∃ looked, w.Writes i game user looked := by
  rcases step_cases w i with same | ⟨e, effect, next, here, rest, moved⟩
  · exact absurd has (same ▸ loses)
  rw [moved] at loses
  have mem := List.mem_of_getElem? here
  have strides := Script.Along.after (Call.strides e.task) e.found
  rw [← h.rest e mem, rest] at strides
  have kicks := (strides w.state).1.seatChange.kicks_of_loses has loses
  have step := kickStep h mem kicks rest w.state
  generalize effect w.state = t, found : e.found = found at step loses
  cases step with
  | writes looked read s away =>
    refine ⟨looked, e, read, here, kicks, found, ?_⟩
    simp only [Errand.result?, rest]
  | other _ _ _ nth seats =>
    rw [Ledger.seated_congr seats] at loses
    exact absurd has loses

end Step

/-- A user's streams are connected as long as none is severed by another feed of the user. -/
theorem attached_run {user : Id} {acts : List Act}
    (apart : ∀ past x h, past ++ [.elsewhere (feedAct x) h] <+: acts →
      ¬ (run settings books past).state.Severs x user) :
    (run settings books acts).state.Attached user := by
  induction acts using List.reverseRecOn with
  | nil => rintro f ⟨⟩
  | append_singleton past a ih =>
    have before := ih fun past' x h there => apart past' x h (there.trans (List.prefix_append _ _))
    rw [run_snoc]
    cases a with
    | begin c => exact before
    | step i =>
      obtain ⟨kicks, stride⟩ := step_stride (traced past) i
      exact before.of_same stride.feeds stride.hub
    | elsewhere change h =>
      obtain ⟨x, rfl⟩ := h
      exact before.act x (apart past x ⟨x, rfl⟩ (List.prefix_refl _))

/-- In a run of calls, feeds and deliveries, kicks spare whoever is connected and whoever has a stream
open if and only if no kick writes after its player has connected, and none while its player has a
stream open without being connected. That comes only of a feed that has taken the player off the hub
while another one of the player's was reading. -/
theorem kicks_spare_iff (settings : RoomSettings) (books : Books) (acts : List Act) :
    (SparesConnected settings books acts ∧ SparesStreams settings books acts ↔
      ∀ past i game user, past ++ [.step i] <+: acts →
        ¬ (run settings books past).Overtakes i game user ∧
          ¬ (run settings books past).CutsOff i game user) ∧
    ∀ i game user, (run settings books acts).CutsOff i game user →
      ∃ past x h, past ++ [.elsewhere (feedAct x) h] <+: acts ∧
        (run settings books past).state.Severs x user := by
  refine ⟨⟨?_, fun none => ⟨?_, ?_⟩⟩, ?_⟩
  · rintro ⟨connected, streams⟩ past i game user here
    refine ⟨?_, ?_⟩
    · rintro ⟨looked, writes, -, is⟩
      have away := connected past i game user looked here writes
      exact absurd (is.symm.trans away) (by decide)
    · rintro ⟨⟨looked, writes⟩, open_, -, has⟩
      have kept := streams past [.step i] game user here (fun mid within => ?_) has
      · rw [run_snoc, (writes.writes (traced past)).2] at kept
        exact Books.not_mem_seated_of_put has kept
      · rcases List.prefix_cons_iff.1 within with rfl | ⟨rest, rfl, none⟩
        · rwa [List.append_nil]
        · obtain rfl := List.prefix_nil.1 none
          obtain ⟨kicks, stride⟩ := step_stride (traced past) i
          rw [run_snoc, Streams, stride.feeds]
          exact open_
  · intro past i game user looked here writes
    by_contra is
    have away := (writes.writes (traced past)).1
    exact (none past i game user here).1 ⟨looked, writes, away, Bool.not_eq_false _ ▸ is⟩
  · intro past later game user here streams has
    induction later using List.reverseRecOn with
    | nil => rwa [List.append_nil]
    | append_singleton later a ih =>
      have last : later <+: later ++ [a] := List.prefix_append _ _
      have kept := ih (((List.prefix_append_right_inj _).2 last).trans here)
        fun mid within => streams mid (within.trans last)
      rw [← List.append_assoc] at here ⊢
      rw [run_snoc]
      cases a with
      | begin c => exact kept
      | step i =>
        by_contra loses
        obtain ⟨looked, writes⟩ := exists_writes_of_loses (traced _) kept loses
        obtain ⟨overtakes, cuts⟩ := none _ i game user here
        cases is : (run settings books (past ++ later)).state.hub.isSubscribed game user with
        | true => exact overtakes ⟨looked, writes, (writes.writes (traced _)).1, is⟩
        | false => exact cuts ⟨⟨looked, writes⟩, streams later last, is, kept⟩
      | elsewhere change h =>
        obtain ⟨x, rfl⟩ := h
        exact kept
  · rintro i game user ⟨-, streams, away, -⟩
    by_contra apart
    have attached : (run settings books acts).state.Attached user :=
      attached_run fun past x h there severs => apart ⟨past, x, h, there, severs⟩
    exact absurd ((attached.isSubscribed streams).symm.trans away) (by decide)

/-- A feed goes on, or something happens at the hub. -/
def between (x : FeedTraffic.Act) : Act := .elsewhere (feedAct x) ⟨x, rfl⟩

/-- Two users sit down in a game. -/
def bothSeated : List Act :=
  .begin (.request .initUser) :: List.replicate 5 (.step 0) ++
    .begin (.request .initUser) :: List.replicate 5 (.step 1) ++
    .begin (.request (.initGame "|")) :: List.replicate 3 (.step 2) ++
    .begin (.request (.join "||||||||||" "|||||")) :: List.replicate 4 (.step 3)

/-- The second user is kicked, and opens a stream when the kick has looked and read. -/
def lateStream : List Act :=
  bothSeated ++ [.begin (.request (.kick "||||||||||" "|||||")), .step 4, .step 4,
    between (.open_ "||||||||||" "|||||" false true id), between (.step 0)]

/-- The second user has two streams, the later of which has just begun to read. -/
def twoStreams : List Act :=
  bothSeated ++ [between (.hub (.subscribe "||||||||||" "|" 0) nofun),
    between (.open_ "||||||||||" "|||||" false true id), between (.step 0),
    between (.open_ "||||||||||" "|||||" false true id), between (.step 1)]

/-- The earlier stream ends while a notice for both users waits for the first one to read. The later
stream waits for it too, and its user is kicked. -/
def earlierEnds : List Act :=
  let publish (delivery : Nat) : List Act :=
    between (.hub (.publish "||||||||||" none .turnEnded) nofun) ::
      List.replicate 4 (between (.hub (.advance delivery 0) nofun))
  publish 0 ++ publish 1 ++ [between (.step 0), between (.cancel 0), between (.step 0),
    between (.step 0), between (.step 0), between (.step 1),
    .begin (.request (.event (.kick "||||||||||" "|||||"))), .step 4, .step 4, .step 4, between (.step 1)]

/-- A kick writes a user inactive who has connected since it looked; and a user who was active when a
stream opened is made inactive while the stream is open. -/
theorem kicks_do_not_spare :
    let books := (Service.opening [⟨"w", "apple", "🍎"⟩]).books
    ¬ SparesConnected {} books (lateStream ++ [.step 4]) ∧
      ("|||||" ∈ (run {} books twoStreams).state.books.ledger.seated "||||||||||" ∧
        (∀ mid, mid <+: earlierEnds →
          (run {} books (twoStreams ++ mid)).state.Streams "||||||||||" "|||||") ∧
        "|||||" ∉ (run {} books (twoStreams ++ earlierEnds)).state.books.ledger.seated "||||||||||") ∧
      ¬ SparesStreams {} books (twoStreams ++ earlierEnds) := by
  intro books
  have open_ : ∀ mid, mid <+: earlierEnds →
      (run {} books (twoStreams ++ mid)).state.Streams "||||||||||" "|||||" := by
    intro mid within
    have all : ∀ n < 22, ∃ f ∈ (run {} books (twoStreams ++ earlierEnds.take n)).state.feeds,
        f.game = "||||||||||" ∧ f.player = "|||||" ∧ f.phase = .reading 1 := by decide +kernel
    have short : mid.length < 22 := Nat.lt_succ_of_le within.length_le
    obtain ⟨f, mem, game, user, reading⟩ := all mid.length short
    rw [← List.prefix_iff_eq_take.1 within] at mem
    exact ⟨f, mem, game, user, 1, reading⟩
  have seated : "|||||" ∈ (run {} books twoStreams).state.books.ledger.seated "||||||||||" := by
    decide +kernel
  have lost : "|||||" ∉
      (run {} books (twoStreams ++ earlierEnds)).state.books.ledger.seated "||||||||||" := by
    decide +kernel
  refine ⟨fun spares => ?_, ⟨seated, open_, lost⟩, fun spares => ?_⟩
  · obtain ⟨e, here, task, found, pending⟩ : ∃ e ∈ (run {} books lateStream).errands[4]?,
        e.task = .request (.kick "||||||||||" "|||||") ∧ e.found.length = 2 ∧ e.result? = none := by
      decide +kernel
    obtain ⟨looked, read, found⟩ := List.length_eq_two.1 found
    have writes : (run {} books lateStream).Writes 4 "||||||||||" "|||||" looked :=
      ⟨e, read, here, task ▸ ⟨rfl, rfl⟩, found, pending⟩
    have is : (run {} books lateStream).state.hub.isSubscribed "||||||||||" "|||||" = true := by
      decide +kernel
    have away := spares lateStream 4 _ _ looked (List.prefix_refl _) writes
    exact absurd (is.symm.trans away) (by decide)
  · exact lost (spares twoStreams earlierEnds _ _ (List.prefix_refl _) open_ seated)

end Calls

end Service

end GuessingRoom
