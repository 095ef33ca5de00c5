import GuessingRoom.Proofs.SiteCourses
import GuessingRoom.Proofs.Shutdown
import GuessingRoom.Proofs.StreamReadings

/-!
# What becomes of feeds

A feed that kicks goes from phase to phase, and at the last one it schedules a kick. If it has been
told to end and its receiver has gone then it never waits, and each of its steps brings it nearer to its
end (`Service.Passes`). Whatever else happens on a site leaves feeds alone, opens a stream with a feed
of its own, or drops a stream (`Http.Site.Turn`). Through all of it every feed has its inbox, and is
told to end when its stream is dropped (`Http.Site.Tended`).
-/

namespace GuessingRoom

section Diff

variable {α : Type} [BEq α] [LawfulBEq α]

theorem diff_of_prefix (l m : List α) : (l ++ m).diff l = m := by
  induction l with
  | nil => rfl
  | cons a l ih =>
    rw [List.cons_append, List.diff_cons, List.erase_cons_head]
    exact ih

theorem diff_of_sublist {l m : List α} (h : l.Sublist m) : l.diff m = [] := by
  have whole : m.diff m = [] := by simpa using diff_of_prefix m []
  have less : (l.diff m).Sublist (m.diff m) := h.diff_right
  rw [whole] at less
  exact List.sublist_nil.1 less

end Diff

/-- Whom a timer may kick. -/
def Job.kick? : Job → Option (Id × Id)
  | .timer _ (.kick game user) => some (game, user)
  | _ => none

/-- The game of a feed, and its player. -/
def Feed.seat (f : Feed) : Id × Id := (f.game, f.player)

namespace Service

/-- The delayed kicks still to come. -/
def kicks (s : Service) : List (Id × Id) := s.jobs.filterMap Job.kick?

theorem kicks_spawn (s : Service) {j : Job} (h : j.kick? = none) : (s.spawn j).kicks = s.kicks := by
  simp [kicks, spawn, h]

theorem kicks_without_of_none (s : Service) {j : Job} (h : j.kick? = none) :
    (s.without j).kicks = s.kicks := filterMap_erase_of_none s.jobs h

theorem kicks_cancelFeed (s : Service) (id : Nat) : (s.cancelFeed id).kicks = s.kicks := by
  refine (List.filterMap_append ..).trans ((congrArg₂ (· ++ ·) ?_ ?_).trans (List.append_nil _))
  · rw [List.filterMap_filter]
    refine List.filterMap_congr fun j _ => ?_
    cases j <;> simp [Job.kick?]
  · refine List.filterMap_eq_nil_iff.2 fun j mem => ?_
    obtain ⟨i, there, rfl⟩ := List.mem_map.1 mem
    have meant := (List.mem_filter.1 there).2
    cases i with
    | feed f => rfl
    | _ => cases meant

/-- Telling a feed to end changes nothing else about feeds but their order. -/
theorem perm_feeds_cancelFeed {α : Type} (s : Service) {k : Feed → α}
    (same : ∀ f, k { f with cancelled := true } = k f) (id : Nat) :
    ((s.cancelFeed id).feeds.map k).Perm (s.feeds.map k) := by
  have form (t : Service) : t.feeds.map k = (t.jobs.map fun j => j.feed?.map k).filterMap (·) := by
    rw [List.filterMap_map]
    exact List.map_filterMap
  rw [form, form]
  exact (s.map_cancelFeed (fun j => j.feed?.map k) (fun f => congrArg some (same f)) id).filterMap _

/-! ## What leaves feeds alone -/

/-- Feeds and their inboxes are as they were, and no kick is scheduled. -/
structure Undisturbed (s t : Service) : Prop where
  feeds : t.feeds = s.feeds
  inboxes : t.inboxes = s.inboxes
  nextFeed : t.nextFeed = s.nextFeed
  kicks : t.kicks.Sublist s.kicks

namespace Undisturbed

variable {s t u : Service}

theorem refl (s : Service) : s.Undisturbed s := ⟨rfl, rfl, rfl, List.Sublist.refl _⟩

theorem trans (h : s.Undisturbed t) (h' : t.Undisturbed u) : s.Undisturbed u :=
  ⟨h'.feeds.trans h.feeds, h'.inboxes.trans h.inboxes, h'.nextFeed.trans h.nextFeed,
    h'.kicks.trans h.kicks⟩

theorem of_stride {kicks : Id → Id → Prop} (h : s.Stride kicks t) : s.Undisturbed t where
  feeds := h.feeds
  inboxes := by cases h <;> rfl
  nextFeed := by cases h <;> rfl
  kicks := by
    have same : t.kicks = s.kicks := by
      cases h with
      | works => rfl
      | queues game items few =>
        exact kicks_spawn { s with queue := (s.queue.push game items).2 }
          (j := .batch (s.queue.push game items).1) rfl
      | schedules delay game => exact s.kicks_spawn (j := .timer (s.now + delay) (.nextTurn game)) rfl
    rw [same]

theorem spawn (h : s.Undisturbed t) {j : Job} (feed : j.feed? = none) (kick : j.kick? = none) :
    s.Undisturbed (t.spawn j) where
  feeds := (t.feeds_spawn feed).trans h.feeds
  inboxes := h.inboxes
  nextFeed := h.nextFeed
  kicks := by
    rw [t.kicks_spawn kick]
    exact h.kicks

theorem without (s : Service) {j : Job} (feed : j.feed? = none) : s.Undisturbed (s.without j) where
  feeds := s.feeds_without_of_none feed
  inboxes := rfl
  nextFeed := rfl
  kicks := List.Sublist.filterMap _ List.erase_sublist

theorem along_ofEvent (e : Event) : Script.Along Undisturbed (Operation.ofEvent e) := by
  cases e with
  | nextTurn game =>
    have strides : (Operation.nextTurn game).Strides fun _ _ => True :=
      Operation.strides_nextTurn game
    exact Script.Along.mono strides fun _ _ => of_stride
  | kick game user =>
    have strides : (Operation.kick game user).Strides fun _ _ => True :=
      Operation.strides_kick trivial
    exact Script.Along.mono (strides.map fun _ => ()) fun _ _ => of_stride

end Undisturbed

/-- Wherever the move leads, feeds are left alone. -/
def SparesFeeds (s : Service) : Job.Move → Prop
  | .waiting => True
  | .going t j => j.feed? = none ∧ j.kick? = none ∧ s.Undisturbed t
  | .ended t => s.Undisturbed t

theorem undisturbed_of_hub (s : Service) (hub : Hub) : s.Undisturbed { s with hub } :=
  ⟨rfl, rfl, rfl, List.Sublist.refl _⟩

theorem sparesFeeds_moveBatch (s : Service) (b : Batch) : s.SparesFeeds (s.moveBatch b) := by
  unfold moveBatch
  split
  · exact ⟨rfl, rfl, rfl, List.Sublist.refl _⟩
  · split
    · split
      · trivial
      · exact ⟨rfl, rfl, s.undisturbed_of_hub _⟩
      · exact ⟨rfl, rfl, s.undisturbed_of_hub _⟩
    · split
      · trivial
      · split
        · exact ⟨rfl, rfl, .refl s⟩
        · exact ⟨rfl, rfl, s.undisturbed_of_hub _⟩

/-- Feeds are left alone by all jobs but feeds. -/
theorem sparesFeeds_move (s : Service) {j : Job} (other : j.feed? = none) :
    s.SparesFeeds (s.move j) := by
  cases j with
  | batch b => exact s.sparesFeeds_moveBatch b
  | delivery id =>
    show s.SparesFeeds (s.moveDelivery id)
    unfold moveDelivery
    split
    · trivial
    · exact ⟨rfl, rfl, s.undisturbed_of_hub _⟩
    · exact ⟨rfl, rfl, rfl, List.Sublist.refl _⟩
  | feed f => cases other
  | timer due event =>
    show s.SparesFeeds (s.moveTimer due event)
    unfold moveTimer
    split
    · exact .refl s
    · split
      · exact (Undisturbed.along_ofEvent event).run Undisturbed.refl Undisturbed.trans s
      · trivial

/-! ## Inboxes -/

/-- The same inboxes are there, and a receiver that has gone does not come back. -/
structure Receives (s t : Service) : Prop where
  feeds : t.inboxes.map (·.feed) = s.inboxes.map (·.feed)
  gone : ∀ id, (∀ i ∈ s.inboxes, i.feed = id → i.gone = true) →
    ∀ i ∈ t.inboxes, i.feed = id → i.gone = true

namespace Receives

variable {s t : Service}

theorem of_inboxes (h : t.inboxes = s.inboxes) : s.Receives t :=
  ⟨by rw [h], fun _ gone => by rwa [h]⟩

theorem setInbox {i i' : Inbox} {id : Nat} (found : s.inbox? id = some i) (own : i'.feed = i.feed)
    (gone : i.gone = true → i'.gone = true) : s.Receives (s.setInbox i') := by
  obtain ⟨mem, -⟩ := mem_of_inbox? found
  constructor
  · show (s.inboxes.map _).map _ = _
    rw [List.map_map]
    refine List.map_congr_left fun j _ => ?_
    rw [Function.comp_apply]
    split
    · rename_i same
      exact (beq_iff_eq.1 same).symm
    · rfl
  · intro id all j there of
    rcases mem_setInbox there with rfl | ⟨old, -⟩
    · exact gone (all i mem (own.symm.trans of))
    · exact all j old of

theorem handOn (s : Service) (f : Feed) (n : Notice) : s.Receives (s.handOn f n).2 := by
  unfold Service.handOn
  cases found : s.inbox? f.id with
  | none => exact of_inboxes rfl
  | some i =>
    have kept : s.Receives (s.setInbox (i.receive n).2) := by
      refine setInbox found (i.feed_receive n) fun gone => ?_
      unfold Inbox.receive
      dsimp only
      rw [if_pos gone]
      exact gone
    dsimp only
    rcases received : i.receive n with ⟨text | _, i'⟩ <;> rw [received] at kept <;> exact kept

theorem closeInbox (s : Service) (f : Feed) : s.Receives (s.closeInbox f) := by
  unfold Service.closeInbox
  split
  · rename_i i found
    exact setInbox found rfl id
  · exact of_inboxes rfl

end Receives

/-! ## The steps of a feed -/

/-- The feed has been told to end and its receiver has gone. -/
structure Released (s : Service) (f : Feed) : Prop where
  cancelled : f.cancelled = true
  received : f.id ∈ s.inboxes.map (·.feed)
  gone : ∀ i ∈ s.inboxes, i.feed = f.id → i.gone = true

/-- A feed goes on: if it is released it comes nearer to its end, and when only its end is left the
player has been taken off the hub. -/
structure FeedGoes (s : Service) (f : Feed) (t : Service) (phase : FeedPhase) : Prop where
  receives : s.Receives t
  feeds : t.feeds = s.feeds
  nextFeed : t.nextFeed = s.nextFeed
  kicks : t.kicks = s.kicks
  onward : phase.weight ≤ f.phase.weight
  nearer : s.Released f → phase.weight < f.phase.weight
  leaves : phase.weight ≤ 1 → ∀ game, t.hub.isSubscribed game f.player = false

/-- A feed ends, and its player will be kicked. -/
structure FeedEnds (s : Service) (f : Feed) (t : Service) : Prop where
  receives : s.Receives t
  feeds : t.feeds = s.feeds
  nextFeed : t.nextFeed = s.nextFeed
  kicks : t.kicks = s.kicks ++ [f.seat]
  closing : f.phase.weight ≤ 1

/-- What the next step of a feed comes to. -/
inductive Passes (s : Service) (f : Feed) : Job.Move → Prop where
  | waits (held : ¬ s.Released f) : Passes s f .waiting
  | goes (t : Service) (phase : FeedPhase) (failure : Option FeedError) (goes : s.FeedGoes f t phase) :
    Passes s f (.going t (.feed { f with phase, failure }))
  | ends (t : Service) (ends : s.FeedEnds f t) : Passes s f (.ended t)

/-- Nothing is handed on to a receiver that has gone. -/
theorem Released.handOn_ne_none {s : Service} {f : Feed} (h : s.Released f) (n : Notice) :
    (s.handOn f n).1 ≠ none := by
  unfold handOn
  cases found : s.inbox? f.id with
  | none =>
    obtain ⟨i, mem, own⟩ := List.mem_map.1 h.received
    exact absurd own (feed_ne_of_inbox? found mem)
  | some i =>
    obtain ⟨mem, own⟩ := mem_of_inbox? found
    have fails : (i.receive n).1 = .error "event stream dropped" := by
      unfold Inbox.receive
      rw [h.gone i mem own]
      rfl
    dsimp only
    rcases received : i.receive n with ⟨text | _, i'⟩
    · nofun
    · rw [received] at fails
      cases fails

/-- A feed that reads stops doing so, or goes on from where it was. -/
theorem feedGoes_reading {s t : Service} {f : Feed} {c : ChannelId} {phase : FeedPhase}
    (reading : f.phase = .reading c) (receives : s.Receives t) (feeds : t.feeds = s.feeds)
    (nextFeed : t.nextFeed = s.nextFeed) (kicks : t.kicks = s.kicks)
    (onward : phase = .leaving c ∨ phase = .reading c ∧ ¬ s.Released f) : s.FeedGoes f t phase := by
  have weights : (FeedPhase.reading c).weight = 3 ∧ (FeedPhase.leaving c).weight = 2 := ⟨rfl, rfl⟩
  refine ⟨receives, feeds, nextFeed, kicks, ?_, fun released => ?_, fun few => ?_⟩ <;>
    obtain rfl | ⟨rfl, held⟩ := onward
  · rw [reading]
    omega
  · rw [reading]
  · rw [reading]
    omega
  · exact absurd released held
  · omega
  · omega

theorem passes {s : Service} {f : Feed} (kicks : f.kicks = true) : s.Passes f (s.moveFeed f) := by
  unfold moveFeed
  cases phase : f.phase with
  | opening =>
    have nearer (c : ChannelId) : (FeedPhase.reading c).weight < f.phase.weight := by
      rw [phase]
      exact (by decide : 3 < 4)
    refine .goes _ _ f.failure ⟨.of_inboxes rfl, rfl, rfl, rfl, (nearer _).le, fun _ => nearer _, ?_⟩
    exact fun few => absurd few (by decide : ¬ 3 ≤ 1)
  | reading c =>
    have quits : s.FeedGoes f s (.leaving c) :=
      feedGoes_reading phase (.of_inboxes rfl) rfl rfl rfl (.inl rfl)
    dsimp only
    rcases got : s.hub.receive c with ⟨n | _ | _, hub⟩
    · have handing := Receives.handOn { s with hub } f n
      have receives : s.Receives ({ s with hub }.handOn f n).2 := ⟨handing.feeds, handing.gone⟩
      have refused := Released.handOn_ne_none (s := { s with hub }) (f := f)
      obtain ⟨inboxes, same⟩ := { s with hub }.exists_handOn_eq f n
      dsimp only
      split
      · rename_i t handed
        rw [handed] at receives same
        have held : ¬ s.Released f := fun h => by
          refine refused ⟨h.cancelled, h.received, h.gone⟩ n ?_
          rw [handed]
        obtain rfl : t = { { s with hub } with inboxes } := same
        exact .goes _ f.phase f.failure
          (feedGoes_reading phase receives rfl rfl rfl (.inr ⟨phase, held⟩))
      · rename_i e t handed
        rw [handed] at receives same
        obtain rfl : t = { { s with hub } with inboxes } := same
        exact .goes _ _ (some e) (feedGoes_reading phase receives rfl rfl rfl (.inl rfl))
    · dsimp only
      split
      · exact .goes s _ f.failure quits
      · rename_i stays
        refine .waits fun h => stays ?_
        rw [stops, h.cancelled]
        rfl
    · exact .goes s _ f.failure quits
  | leaving c =>
    have nearer : (FeedPhase.closing c).weight < f.phase.weight := by
      rw [phase]
      exact (by decide : 1 < 2)
    refine .goes _ _ f.failure ⟨.of_inboxes rfl, rfl, rfl, rfl, nearer.le, fun _ => nearer, ?_⟩
    exact fun _ game => s.hub.not_isSubscribed_unsubscribe game f.player
  | closing c =>
    have few : f.phase.weight ≤ 1 := by
      rw [phase]
      exact le_rfl
    obtain ⟨inboxes, closed⟩ := s.exists_closeInbox_eq f
    have receives := Receives.closeInbox s f
    rw [closed] at receives
    dsimp only
    rw [closeInbox_hub, closed, if_pos kicks]
    exact .ends _ ⟨⟨receives.feeds, receives.gone⟩, feeds_spawn _ rfl, rfl,
      List.filterMap_append .., few⟩

end Service

theorem FeedPhase.exists_eq_closing {phase : FeedPhase} (few : phase.weight ≤ 1) :
    ∃ channel, phase = .closing channel := by
  cases phase with
  | closing channel => exact ⟨channel, rfl⟩
  | _ => simp [weight] at few

/-- One and the same feed, further on. -/
structure Feed.Becomes (f g : Feed) : Prop where
  id : g.id = f.id
  seat : g.seat = f.seat
  kicks : g.kicks = f.kicks
  cancelled : f.cancelled = true → g.cancelled = true
  onward : g.phase.weight ≤ f.phase.weight

theorem Feed.Becomes.refl (f : Feed) : f.Becomes f := ⟨rfl, rfl, rfl, fun h => h, le_rfl⟩

theorem Feed.perm_in_place {α : Type} {k : Feed → α} {l : List Feed} {f g : Feed} (mem : f ∈ l)
    (same : k g = k f) : ((l.erase f ++ [g]).map k).Perm (l.map k) := by
  rw [List.map_append, List.map_singleton, same]
  exact List.perm_append_comm.trans ((List.perm_cons_erase mem).map k).symm

namespace Http

/-! ## Turns of a site -/

/-- What happens to the streams of a site at once, with those for whom a stream is opened and those for
whom a kick is scheduled. -/
inductive Site.Turn (site : Site) : Site → List (Id × Id) → List (Id × Id) → Prop where
  | rests (t : Service) (same : site.service.Undisturbed t) :
    Turn site { site with service := t } [] []
  | reads (id : Nat) : Turn site (site.readStream id).2.2 [] []
  | drops (id : Nat) : Turn site (site.dropStream id) [] []
  | opens (game user : Id) (v : View) : Turn site (site.openStream game user v).2 [(game, user)] []
  | opensHead (game user : Id) (v : View) :
    Turn site ((site.openStream game user v).2.dropStream site.service.nextFeed) [(game, user)] []
  | moves (f : Feed) (mem : f ∈ site.service.feeds) (t : Service) (phase : FeedPhase)
    (failure : Option FeedError) (goes : (site.service.without (.feed f)).FeedGoes f t phase) :
    Turn site { site with service := t.spawn (.feed { f with phase, failure }) } [] []
  | ends (f : Feed) (mem : f ∈ site.service.feeds) (t : Service)
    (ends : (site.service.without (.feed f)).FeedEnds f t) :
    Turn site { site with service := t } [] [f.seat]

namespace Site

variable {site after : Site}

/-- Every feed kicks when it ends and has an inbox of its own, which has gone with the stream. -/
structure Tended (site : Site) : Prop where
  ids : (site.service.feeds.map (·.id)).Nodup
  known : ∀ f ∈ site.service.feeds, f.id < site.service.nextFeed
  numbers : ∀ n ∈ site.service.inboxes.map (·.feed), n < site.service.nextFeed
  kicks : ∀ f ∈ site.service.feeds, f.kicks = true
  received : ∀ f ∈ site.service.feeds, f.id ∈ site.service.inboxes.map (·.feed)
  dropped : ∀ f ∈ site.service.feeds, f.id ∉ site.streams.map (·.feed) → f.cancelled = true ∧
    ∀ i ∈ site.service.inboxes, i.feed = f.id → i.gone = true

theorem Tended.released (h : site.Tended) {f : Feed} (mem : f ∈ site.service.feeds)
    (gone : f.id ∉ site.streams.map (·.feed)) : site.service.Released f :=
  ⟨(h.dropped f mem gone).1, h.received f mem, (h.dropped f mem gone).2⟩

/-- No feed is new, and those whose streams are gone are released. -/
theorem Tended.of_older (h : site.Tended) (receives : site.service.Receives after.service)
    (nextFeed : after.service.nextFeed = site.service.nextFeed)
    (ids : (after.service.feeds.map (·.id)).Nodup)
    (older : ∀ g ∈ after.service.feeds, ∃ f ∈ site.service.feeds, f.Becomes g)
    (streams : ∀ g ∈ after.service.feeds, g.id ∉ after.streams.map (·.feed) →
      g.id ∉ site.streams.map (·.feed) ∨
        g.cancelled = true ∧ ∀ i ∈ after.service.inboxes, i.feed = g.id → i.gone = true) :
    after.Tended where
  ids := ids
  known g mem := by
    obtain ⟨f, there, becomes⟩ := older g mem
    rw [becomes.id, nextFeed]
    exact h.known f there
  numbers := by
    rw [receives.feeds, nextFeed]
    exact h.numbers
  kicks g mem := by
    obtain ⟨f, there, becomes⟩ := older g mem
    rw [becomes.kicks]
    exact h.kicks f there
  received g mem := by
    obtain ⟨f, there, becomes⟩ := older g mem
    rw [becomes.id, receives.feeds]
    exact h.received f there
  dropped g mem gone := by
    obtain ⟨f, there, becomes⟩ := older g mem
    rcases streams g mem gone with before | now
    · rw [becomes.id] at before ⊢
      obtain ⟨cancelled, all⟩ := h.dropped f there before
      exact ⟨becomes.cancelled cancelled, receives.gone f.id all⟩
    · exact now

/-! ## What becomes of feeds, inboxes and streams -/

/-- A feed goes on in its place. -/
theorem feeds_moves {f : Feed} {t : Service} {phase : FeedPhase}
    (goes : (site.service.without (.feed f)).FeedGoes f t phase) (failure : Option FeedError) :
    (t.spawn (.feed { f with phase, failure })).feeds =
      site.service.feeds.erase f ++ [{ f with phase, failure }] := by
  rw [Service.feeds_spawn_feed, goes.feeds, Service.feeds_without]

theorem feeds_ends {f : Feed} {t : Service}
    (ends : (site.service.without (.feed f)).FeedEnds f t) :
    t.feeds = site.service.feeds.erase f := by
  rw [ends.feeds, Service.feeds_without]

/-- The feed of a stream that is dropped is told to end, and its receiver goes. -/
theorem dropStream_eq (site : Site) (id : Nat) : ∃ inboxes,
    site.dropStream id =
      { site with
        service := { site.service.cancelFeed id with inboxes }
        streams := site.streams.filter (·.feed != id) } ∧
    site.service.Receives { site.service.cancelFeed id with inboxes } ∧
    ∀ i ∈ inboxes, i.feed = id → i.gone = true := by
  unfold dropStream
  dsimp only
  split
  · rename_i i found
    have own : i.feed = id := (Service.mem_of_inbox? found).2
    have receives : (site.service.cancelFeed id).Receives
        ((site.service.cancelFeed id).setInbox { i with gone := true }) :=
      .setInbox found rfl fun _ => rfl
    refine ⟨_, rfl, ⟨receives.feeds, receives.gone⟩, fun j mem of => ?_⟩
    rcases Service.mem_setInbox mem with rfl | ⟨-, ne⟩
    · rfl
    · exact absurd (of.trans own.symm) ne
  · rename_i none
    refine ⟨_, rfl, .of_inboxes rfl, fun i mem own => ?_⟩
    exact absurd own (Service.feed_ne_of_inbox? none mem)

/-- To read from a stream empties its inbox. -/
theorem readStream_eq (site : Site) (id : Nat) : ∃ inboxes streams,
    (site.readStream id).2.2 = { site with service := { site.service with inboxes }, streams } ∧
    site.service.Receives { site.service with inboxes } ∧
    streams.map (·.feed) = site.streams.map (·.feed) := by
  unfold readStream
  split
  · rename_i stream inbox service found read
    obtain ⟨there, rfl⟩ : site.service.inbox? id = some inbox ∧
        service = site.service.setInbox { inbox with unread := [] } := by
      unfold Service.readInbox at read
      split at read
      · rename_i there
        cases read
        exact ⟨there, rfl⟩
      · cases read
    have own : stream.feed = id := by simpa using List.find?_some found
    have receives : site.service.Receives (site.service.setInbox { inbox with unread := [] }) :=
      .setInbox there rfl fun h => h
    refine ⟨_, _, rfl, ⟨receives.feeds, receives.gone⟩, ?_⟩
    rw [List.map_map]
    refine List.map_congr_left fun s _ => ?_
    rw [Function.comp_apply]
    split
    · rename_i same
      exact own.trans (beq_iff_eq.1 same).symm
    · rfl
  · exact ⟨_, _, rfl, .of_inboxes rfl, rfl⟩

/-- The feed with which a stream is opened. -/
def newFeed (game user : Id) (site : Site) : Feed :=
  { id := site.service.nextFeed, game, player := user, kicks := true }

theorem feeds_openStream (game user : Id) (v : View) (site : Site) :
    (site.openStream game user v).2.service.feeds =
      site.service.feeds ++ [newFeed game user site] := List.filterMap_append ..

namespace Turn

variable {opened scheduled : List (Id × Id)}

/-- Every feed is an older one further on, or has been opened with its stream. -/
theorem older (h : site.Turn after opened scheduled) : ∀ g ∈ after.service.feeds,
    (∃ f ∈ site.service.feeds, f.Becomes g) ∨
      site.service.nextFeed = g.id ∧ opened = [g.seat] := by
  have cancelled {t : Service} {id : Nat} {g : Feed} (mem : g ∈ (t.cancelFeed id).feeds) :
      ∃ f ∈ t.feeds, f.Becomes g := by
    rcases Service.mem_feeds_cancelFeed.1 mem with ⟨old, -⟩ | ⟨f, old, -, rfl⟩
    · exact ⟨g, old, .refl g⟩
    · exact ⟨f, old, rfl, rfl, rfl, fun _ => rfl, le_rfl⟩
  have isOld {g : Feed} (mem : g ∈ site.service.feeds) : ∃ f ∈ site.service.feeds, f.Becomes g :=
    ⟨g, mem, .refl g⟩
  intro g mem
  cases h with
  | rests t same => exact .inl (isOld (same.feeds ▸ mem))
  | reads id =>
    obtain ⟨inboxes, streams, same, -⟩ := site.readStream_eq id
    rw [same] at mem
    exact .inl (isOld mem)
  | drops id =>
    obtain ⟨inboxes, same, -⟩ := site.dropStream_eq id
    rw [same] at mem
    exact .inl (cancelled mem)
  | opens game user v =>
    rw [feeds_openStream] at mem
    rcases List.mem_append.1 mem with old | new
    · exact .inl (isOld old)
    · cases List.mem_singleton.1 new
      exact .inr ⟨rfl, rfl⟩
  | opensHead game user v =>
    obtain ⟨inboxes, same, -⟩ := (site.openStream game user v).2.dropStream_eq site.service.nextFeed
    rw [same] at mem
    obtain ⟨f, there, becomes⟩ := cancelled mem
    rw [feeds_openStream] at there
    rcases List.mem_append.1 there with old | new
    · exact .inl ⟨f, old, becomes⟩
    · cases List.mem_singleton.1 new
      exact .inr ⟨becomes.id.symm, congrArg (fun x => [x]) becomes.seat.symm⟩
  | moves f there t phase failure goes =>
    dsimp only at mem
    rw [feeds_moves goes] at mem
    rcases List.mem_append.1 mem with old | new
    · exact .inl (isOld (List.mem_of_mem_erase old))
    · cases List.mem_singleton.1 new
      exact .inl ⟨f, there, rfl, rfl, rfl, fun c => c, goes.onward⟩
  | ends f there t ends =>
    dsimp only at mem
    rw [feeds_ends ends] at mem
    exact .inl (isOld (List.mem_of_mem_erase mem))

/-- Whoever has a stream opened has a feed from then on, and when it ends a kick. -/
theorem counted (h : site.Turn after opened scheduled) :
    (scheduled ++ after.service.feeds.map Feed.seat).Perm
      (site.service.feeds.map Feed.seat ++ opened) := by
  cases h with
  | rests t same =>
    dsimp only
    rw [same.feeds, List.append_nil]
    rfl
  | reads id =>
    obtain ⟨inboxes, streams, same, -⟩ := site.readStream_eq id
    rw [same, List.append_nil]
    rfl
  | drops id =>
    obtain ⟨inboxes, same, -⟩ := site.dropStream_eq id
    rw [same, List.append_nil]
    exact site.service.perm_feeds_cancelFeed (fun _ => rfl) id
  | opens game user v =>
    rw [feeds_openStream, List.map_append]
    rfl
  | opensHead game user v =>
    obtain ⟨inboxes, same, -⟩ := (site.openStream game user v).2.dropStream_eq site.service.nextFeed
    rw [same]
    refine (Service.perm_feeds_cancelFeed _ (fun _ => rfl) _).trans ?_
    rw [feeds_openStream, List.map_append]
    rfl
  | moves f mem t phase failure goes =>
    dsimp only
    rw [feeds_moves goes, List.nil_append, List.append_nil]
    exact Feed.perm_in_place mem rfl
  | ends f mem t ends =>
    dsimp only
    rw [feeds_ends ends, List.append_nil]
    exact ((List.perm_cons_erase mem).map Feed.seat).symm

/-- What is scheduled at once is the kick of the feed that has ended, and nothing else. -/
theorem kicks (h : site.Turn after opened scheduled) :
    after.service.kicks.diff site.service.kicks = scheduled := by
  have none {l : List (Id × Id)} (sub : l.Sublist site.service.kicks) :
      l.diff site.service.kicks = [] := diff_of_sublist sub
  have cancelled (t : Service) (id : Nat) (inboxes : List Inbox) :
      Service.kicks { t.cancelFeed id with inboxes } = t.kicks := t.kicks_cancelFeed id
  have new (game user : Id) (v : View) :
      (site.openStream game user v).2.service.kicks = site.service.kicks :=
    (List.filterMap_append ..).trans (List.append_nil _)
  cases h with
  | rests t same => exact none same.kicks
  | reads id =>
    obtain ⟨inboxes, streams, same, -⟩ := site.readStream_eq id
    rw [same]
    exact none (List.Sublist.refl _)
  | drops id =>
    obtain ⟨inboxes, same, -⟩ := site.dropStream_eq id
    rw [same]
    dsimp only
    rw [cancelled]
    exact none (List.Sublist.refl _)
  | opens game user v =>
    rw [new]
    exact none (List.Sublist.refl _)
  | opensHead game user v =>
    obtain ⟨inboxes, same, -⟩ := (site.openStream game user v).2.dropStream_eq site.service.nextFeed
    rw [same]
    dsimp only
    rw [cancelled, new]
    exact none (List.Sublist.refl _)
  | moves f mem t phase failure goes =>
    dsimp only
    rw [Service.kicks_spawn _ rfl, goes.kicks, Service.kicks_without_of_none _ rfl]
    exact none (List.Sublist.refl _)
  | ends f mem t ends =>
    dsimp only
    rw [ends.kicks, Service.kicks_without_of_none _ rfl]
    exact diff_of_prefix _ _

/-- A number is used up only by a feed that begins. -/
theorem begins (h : site.Turn after opened scheduled) :
    after.service.nextFeed = site.service.nextFeed ∨
      after.service.nextFeed = site.service.nextFeed + 1 ∧
        ∃ f ∈ after.service.feeds, f.id = site.service.nextFeed ∧ f.phase = .opening := by
  cases h with
  | rests t same => exact .inl same.nextFeed
  | reads id =>
    obtain ⟨inboxes, streams, same, -⟩ := site.readStream_eq id
    rw [same]
    exact .inl rfl
  | drops id =>
    obtain ⟨inboxes, same, -⟩ := site.dropStream_eq id
    rw [same]
    exact .inl rfl
  | opens game user v =>
    refine .inr ⟨rfl, newFeed game user site, ?_, rfl, rfl⟩
    rw [feeds_openStream]
    exact List.mem_append_right _ (List.mem_singleton_self _)
  | opensHead game user v =>
    obtain ⟨inboxes, same, -⟩ := (site.openStream game user v).2.dropStream_eq site.service.nextFeed
    rw [same]
    refine .inr ⟨rfl, { newFeed game user site with cancelled := true }, ?_, rfl, rfl⟩
    refine Service.mem_feeds_cancelFeed.2 (.inr ⟨newFeed game user site, ?_, rfl, rfl⟩)
    rw [feeds_openStream]
    exact List.mem_append_right _ (List.mem_singleton_self _)
  | moves f mem t phase failure goes => exact .inl goes.nextFeed
  | ends f mem t ends => exact .inl ends.nextFeed

theorem nextFeed_le (h : site.Turn after opened scheduled) :
    site.service.nextFeed ≤ after.service.nextFeed := by
  rcases h.begins with same | ⟨one, -⟩
  · exact same.ge
  · rw [one]
    exact Nat.le_succ _

/-- What has been dropped is not read from any more. -/
theorem gone (h : site.Turn after opened scheduled) {id : Nat} (known : id < site.service.nextFeed)
    (gone : id ∉ site.streams.map (·.feed)) : id ∉ after.streams.map (·.feed) := by
  have dropped (streams : List EventStream) (n : Nat) (away : id ∉ streams.map (·.feed)) :
      id ∉ (streams.filter (·.feed != n)).map (·.feed) := fun mem => by
    obtain ⟨s, there, own⟩ := List.mem_map.1 mem
    exact away (List.mem_map.2 ⟨s, List.mem_of_mem_filter there, own⟩)
  have new (game user : Id) (v : View) :
      id ∉ (site.openStream game user v).2.streams.map (·.feed) := by
    show id ∉ (site.streams ++ _).map _
    rw [List.map_append]
    refine fun mem => (List.mem_append.1 mem).elim gone fun new => ?_
    exact known.ne (List.mem_singleton.1 new)
  cases h with
  | rests => exact gone
  | reads id =>
    obtain ⟨inboxes, streams, same, -, numbers⟩ := site.readStream_eq id
    rw [same]
    dsimp only
    rwa [numbers]
  | drops n =>
    obtain ⟨inboxes, same, -⟩ := site.dropStream_eq n
    rw [same]
    exact dropped _ n gone
  | opens game user v => exact new game user v
  | opensHead game user v =>
    obtain ⟨inboxes, same, -⟩ := (site.openStream game user v).2.dropStream_eq site.service.nextFeed
    rw [same]
    exact dropped _ _ (new game user v)
  | moves => exact gone
  | ends => exact gone

/-- A feed that has not left is there still, and when it leaves the player is off the hub. -/
theorem leaves (h : site.Turn after opened scheduled) {f : Feed} (mem : f ∈ site.service.feeds)
    (stays : 1 < f.phase.weight) : ∃ g ∈ after.service.feeds, f.Becomes g ∧
      (g.phase.weight ≤ 1 → ∀ game, after.service.hub.isSubscribed game f.player = false) := by
  have stays {P : Prop} : f.phase.weight ≤ 1 → P := fun few => absurd few (Nat.not_le_of_lt stays)
  have cancelled {t : Service} (n : Nat) (there : f ∈ t.feeds) :
      ∃ g ∈ (t.cancelFeed n).feeds, f.Becomes g ∧ g.phase = f.phase := by
    by_cases own : f.id = n
    · exact ⟨_, Service.mem_feeds_cancelFeed.2 (.inr ⟨f, there, own, rfl⟩),
        ⟨rfl, rfl, rfl, fun _ => rfl, le_rfl⟩, rfl⟩
    · exact ⟨f, Service.mem_feeds_cancelFeed.2 (.inl ⟨there, own⟩), .refl f, rfl⟩
  cases h with
  | rests t same => exact ⟨f, same.feeds ▸ mem, .refl f, stays⟩
  | reads id =>
    obtain ⟨inboxes, streams, same, -⟩ := site.readStream_eq id
    rw [same]
    exact ⟨f, mem, .refl f, stays⟩
  | drops n =>
    obtain ⟨inboxes, same, -⟩ := site.dropStream_eq n
    rw [same]
    obtain ⟨g, there, becomes, phase⟩ := cancelled n mem
    exact ⟨g, there, becomes, phase ▸ stays⟩
  | opens game user v =>
    rw [feeds_openStream]
    exact ⟨f, List.mem_append_left _ mem, .refl f, stays⟩
  | opensHead game user v =>
    obtain ⟨inboxes, same, -⟩ := (site.openStream game user v).2.dropStream_eq site.service.nextFeed
    rw [same]
    have there : f ∈ (site.openStream game user v).2.service.feeds := by
      rw [feeds_openStream]
      exact List.mem_append_left _ mem
    obtain ⟨g, there, becomes, phase⟩ := cancelled site.service.nextFeed there
    exact ⟨g, there, becomes, phase ▸ stays⟩
  | moves e there t phase failure goes =>
    dsimp only
    rw [feeds_moves goes]
    by_cases own : f = e
    · subst own
      exact ⟨_, List.mem_append_right _ (List.mem_singleton_self _),
        ⟨rfl, rfl, rfl, fun c => c, goes.onward⟩, goes.leaves⟩
    · exact ⟨f, List.mem_append_left _ ((List.mem_erase_of_ne own).2 mem), .refl f, stays⟩
  | ends e there t ends =>
    dsimp only
    rw [feeds_ends ends]
    by_cases own : f = e
    · subst own
      exact stays ends.closing
    · exact ⟨f, (List.mem_erase_of_ne own).2 mem, .refl f, stays⟩

end Turn

/-! ## What is kept -/

namespace Tended

theorem open_ (h : site.Tended) (game user : Id) (v : View) :
    (site.openStream game user v).2.Tended := by
  have feeds := feeds_openStream game user v site
  have inboxes : (site.openStream game user v).2.service.inboxes.map (·.feed) =
      site.service.inboxes.map (·.feed) ++ [site.service.nextFeed] := List.map_append
  have streams : (site.openStream game user v).2.streams.map (·.feed) =
      site.streams.map (·.feed) ++ [site.service.nextFeed] := List.map_append
  have either {P : Feed → Prop} (old : ∀ f ∈ site.service.feeds, P f)
      (new : P (newFeed game user site)) :
      ∀ f ∈ (site.openStream game user v).2.service.feeds, P f := by
    rw [feeds]
    exact List.forall_mem_append.2 ⟨old, List.forall_mem_singleton.2 new⟩
  constructor
  · rw [feeds, List.map_append]
    refine List.nodup_append.2 ⟨h.ids, List.nodup_singleton _, fun a old b new => ?_⟩
    obtain ⟨f, mem, rfl⟩ := List.mem_map.1 old
    rw [List.mem_singleton.1 new]
    exact (h.known f mem).ne
  · exact either (fun f mem => Nat.lt_succ_of_lt (h.known f mem)) (Nat.lt_succ_self _)
  · rw [inboxes]
    refine List.forall_mem_append.2 ⟨fun n mem => Nat.lt_succ_of_lt (h.numbers n mem), ?_⟩
    exact List.forall_mem_singleton.2 (Nat.lt_succ_self _)
  · exact either h.kicks rfl
  · rw [inboxes]
    refine either (fun f mem => List.mem_append_left _ (h.received f mem)) ?_
    exact List.mem_append_right _ (List.mem_singleton_self _)
  · rw [streams]
    refine either (fun f mem gone => ?_) fun gone => ?_
    · obtain ⟨cancelled, all⟩ := h.dropped f mem fun there => gone (List.mem_append_left _ there)
      refine ⟨cancelled, fun i there own => ?_⟩
      rcases List.mem_append.1 there with old | new
      · exact all i old own
      · cases List.mem_singleton.1 new
        exact absurd own (h.known f mem).ne'
    · exact absurd (List.mem_append_right _ (List.mem_singleton_self _)) gone

theorem drop (h : site.Tended) (id : Nat) : (site.dropStream id).Tended := by
  have turn : site.Turn (site.dropStream id) [] [] := .drops id
  have older := turn.older
  obtain ⟨inboxes, same, receives, gone⟩ := site.dropStream_eq id
  rw [same] at older ⊢
  refine h.of_older receives rfl ?_ (fun g mem => ?_) fun g mem away => ?_
  · exact ((site.service.perm_feeds_cancelFeed (fun _ => rfl) id).nodup_iff).2 h.ids
  · exact (older g mem).resolve_right fun new => by cases new.2
  · by_cases own : g.id = id
    · right
      refine ⟨?_, fun i there of => gone i there (of.trans own)⟩
      rcases Service.mem_feeds_cancelFeed.1 mem with ⟨-, ne⟩ | ⟨f, -, -, rfl⟩
      · exact absurd own ne
      · rfl
    · left
      intro there
      obtain ⟨s, mem, of⟩ := List.mem_map.1 there
      refine away (List.mem_map.2 ⟨s, List.mem_filter.2 ⟨mem, bne_iff_ne.2 ?_⟩, of⟩)
      exact fun e => own (of.symm.trans e)

/-- Whatever happens, feeds are tended to. -/
theorem turn {opened scheduled : List (Id × Id)} (h : site.Tended)
    (turn : site.Turn after opened scheduled) : after.Tended := by
  have older := turn.older
  cases turn with
  | rests t same =>
    refine h.of_older (.of_inboxes same.inboxes) same.nextFeed ?_ (fun g mem => ?_)
      fun g _ gone => .inl gone
    · dsimp only
      rw [same.feeds]
      exact h.ids
    · exact ⟨g, same.feeds ▸ mem, .refl g⟩
  | reads id =>
    obtain ⟨inboxes, streams, same, receives, numbers⟩ := site.readStream_eq id
    rw [same]
    refine h.of_older receives rfl h.ids (fun g mem => ⟨g, mem, .refl g⟩) fun g _ gone => .inl ?_
    rwa [← numbers]
  | drops id => exact h.drop id
  | opens game user v => exact h.open_ game user v
  | opensHead game user v => exact (h.open_ game user v).drop _
  | moves f mem t phase failure goes =>
    refine h.of_older ⟨goes.receives.feeds, goes.receives.gone⟩ goes.nextFeed ?_ (fun g there => ?_)
      fun g _ gone => .inl gone
    · dsimp only
      rw [feeds_moves goes]
      have same := Feed.perm_in_place (k := Feed.id) (g := { f with phase, failure }) mem rfl
      exact same.nodup_iff.2 h.ids
    · exact (older g there).resolve_right fun new => by cases new.2
  | ends f mem t ends =>
    refine h.of_older ⟨ends.receives.feeds, ends.receives.gone⟩ ends.nextFeed ?_ (fun g there => ?_)
      fun g _ gone => .inl gone
    · dsimp only
      rw [feeds_ends ends]
      exact (List.erase_sublist.map _).nodup h.ids
    · exact (older g there).resolve_right fun new => by cases new.2

end Tended

end Site

end Http

end GuessingRoom
