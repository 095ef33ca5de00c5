import GuessingRoom.Proofs.LiveTraffic

/-!
# What streams hand on

A feed reads from one channel, and hands on every notice it reads there. What the client has read
from the stream, and what lies in the inbox still to be read, is what the feed has read, for as long
as the client is there (`Live.Handed`).
-/

namespace GuessingRoom

open Hub (Happening)

/-! ## Inboxes -/

namespace Inbox

theorem feed_receive (i : Inbox) (n : Notice) : (i.receive n).2.feed = i.feed := by
  unfold receive
  dsimp only
  split
  · rfl
  · split <;> rfl

/-- A receiver that does not fail of itself receives everything until it has gone. -/
theorem receive_of_lasting {i : Inbox} (n : Notice) (lasts : i.failsAt = none) :
    (i.receive n).2.failsAt = none ∧ (i.receive n).2.gone = i.gone ∧
      (i.gone = false → (i.receive n).2.unread = i.unread ++ [n.encode]) := by
  unfold receive
  cases gone : i.gone <;> simp [lasts]

end Inbox

namespace Service

variable {s : Service} {i j : Inbox} {feed : Nat}

theorem mem_of_inbox? (h : s.inbox? feed = some i) : i ∈ s.inboxes ∧ i.feed = feed :=
  ⟨List.mem_of_find?_eq_some h, by simpa using List.find?_some h⟩

theorem feed_ne_of_inbox? (h : s.inbox? feed = none) (mem : i ∈ s.inboxes) : i.feed ≠ feed := by
  simpa using List.find?_eq_none.1 h i mem

theorem mem_setInbox (h : j ∈ (s.setInbox i).inboxes) :
    j = i ∨ j ∈ s.inboxes ∧ j.feed ≠ i.feed := by
  obtain ⟨k, mem, rfl⟩ := List.mem_map.1 h
  by_cases own : k.feed = i.feed
  · exact .inl (if_pos (beq_iff_eq.2 own))
  · rw [if_neg (by simpa using own)]
    exact .inr ⟨mem, own⟩

/-- Handing a notice on is of account to the inbox of the feed only. -/
theorem mem_handOn {f : Feed} {n : Notice} {result : Option FeedError} {t : Service}
    (handed : s.handOn f n = (result, t)) (mem : j ∈ t.inboxes) :
    j ∈ s.inboxes ∧ j.feed ≠ f.id ∨
      ∃ i ∈ s.inboxes, i.feed = f.id ∧ j = (i.receive n).2 := by
  unfold handOn at handed
  cases found : s.inbox? f.id with
  | none =>
    rw [found] at handed
    cases handed
    exact .inl ⟨mem, feed_ne_of_inbox? found mem⟩
  | some i =>
    obtain ⟨there, own⟩ := mem_of_inbox? found
    rw [found] at handed
    have set : t = s.setInbox (i.receive n).2 := by
      dsimp only at handed
      split at handed <;> rename_i received <;> rw [received] <;> cases handed <;> rfl
    rw [set] at mem
    rcases mem_setInbox mem with rfl | ⟨old, ne⟩
    · exact .inr ⟨i, there, own, rfl⟩
    · rw [i.feed_receive n, own] at ne
      exact .inl ⟨old, ne⟩

end Service

/-! ## Readings -/

namespace Live

/-- What was read from a channel. -/
def readFrom (w : Live) (channel : ChannelId) : List Notice :=
  (w.readings.filter (·.channel == channel)).map (·.notice)

/-- What a feed has read. -/
def readFor (w : Live) (feed : Nat) : List Notice :=
  (w.readings.filter (·.feed == some feed)).map (·.notice)

/-- What the client has read from the stream of a feed. -/
def sentTo (w : Live) (feed : Nat) : List (NoticeKind × String) :=
  (w.sent.filter (·.1 == feed)).map (·.2)

/-- The receiver does not fail of itself, and as long as the client is there what the client has
read, and what there is to read, is what the feed has read. -/
def HandsOn (w : Live) (i : Inbox) : Prop :=
  i.failsAt = none ∧
    (i.gone = false → w.sentTo i.feed ++ i.unread = (w.readFor i.feed).map (·.encode))

/-- Feeds and streams go by numbers of their own, and everything that a feed has read it has handed
on. -/
structure Handed (w : Live) : Prop where
  reads : ∀ c, Hub.reads w.log c = w.readFrom c
  ids : (w.service.feeds.map (·.id)).Nodup
  known_feed : ∀ f ∈ w.service.feeds, f.id < w.service.nextFeed
  known_inbox : ∀ i ∈ w.service.inboxes, i.feed < w.service.nextFeed
  known_reading : ∀ r ∈ w.readings, ∀ id, r.feed = some id → id < w.service.nextFeed
  known_sent : ∀ e ∈ w.sent, e.1 < w.service.nextFeed
  /-- A feed has read from its own channel only. -/
  channels : ∀ f ∈ w.service.feeds, ∀ r ∈ w.readings, r.feed = some f.id →
    f.phase.channel? = some r.channel
  faithful : ∀ i ∈ w.service.inboxes, w.HandsOn i

theorem reads_eq_readingsOf (feed : Option Nat) (hs : List Happening) (c : ChannelId) :
    Hub.reads hs c = ((readingsOf feed hs).filter (·.channel == c)).map (·.notice) := by
  induction hs with
  | nil => rfl
  | cons e hs ih =>
    cases e with
    | read c' n => by_cases own : c' = c <;> simp_all [Hub.reads, readingsOf]
    | _ => exact ih

theorem feed_of_mem_readingsOf {feed : Option Nat} {hs : List Happening} {r : Reading}
    (mem : r ∈ readingsOf feed hs) : r.feed = feed := by
  obtain ⟨e, -, h⟩ := List.mem_filterMap.1 mem
  split at h <;> cases h
  rfl

theorem readingsOf_subscribe (feed : Option Nat) (h : Hub) (game player : Id) (now : Nat) :
    readingsOf feed (h.act (.subscribe game player now)).2 = [] := by
  unfold Hub.act
  dsimp only
  split <;> rfl

/-- What was read for others is of no account to a feed. -/
theorem readFor_happen_of_ne (w : Live) (service : Service) (hs : List Happening)
    {feed : Option Nat} {id : Nat} (ne : feed ≠ some id) :
    (w.happen service hs feed).readFor id = w.readFor id := by
  have none : (readingsOf feed hs).filter (·.feed == some id) = [] :=
    List.filter_eq_nil_iff.2 fun r mem => by
      rw [feed_of_mem_readingsOf mem]
      simpa using ne
  unfold readFor happen
  rw [List.filter_append, none, List.append_nil]

theorem handsOn_happen_of_none {w : Live} {service : Service} {hs : List Happening}
    {feed : Option Nat} (none : readingsOf feed hs = []) :
    (w.happen service hs feed).HandsOn = w.HandsOn := by
  unfold HandsOn readFor happen
  dsimp only
  rw [none, List.append_nil]
  rfl

theorem happen_nil (w : Live) (service : Service) (feed : Option Nat) :
    w.happen service [] feed = { w with service } := by
  simp [happen, readingsOf]

namespace Handed

variable {w : Live} (h : w.Handed)
include h

theorem reads_happen (service : Service) (hs : List Happening) (feed : Option Nat) (c : ChannelId) :
    Hub.reads (w.happen service hs feed).log c = (w.happen service hs feed).readFrom c := by
  show Hub.reads (w.log ++ hs) c = ((w.readings ++ readingsOf feed hs).filter _).map _
  rw [Hub.reads_append, h.reads, reads_eq_readingsOf feed, List.filter_append, List.map_append]
  rfl

/-- Nothing else has to do with what streams hand on. -/
theorem of_same {service : Service} (feeds : service.feeds = w.service.feeds)
    (inboxes : service.inboxes = w.service.inboxes)
    (nextFeed : service.nextFeed = w.service.nextFeed) {queued : List Batch} {calls : List LiveCall}
    {told : List Line} {streams : List LiveStream} :
    Handed { w with service, queued, calls, told, streams } where
  reads := h.reads
  ids := by simpa only [feeds] using h.ids
  known_feed := by simpa only [feeds, nextFeed] using h.known_feed
  known_inbox := by simpa only [inboxes, nextFeed] using h.known_inbox
  known_reading := by simpa only [nextFeed] using h.known_reading
  known_sent := by simpa only [nextFeed] using h.known_sent
  channels := by simpa only [feeds] using h.channels
  faithful i mem := h.faithful i (inboxes ▸ mem)

/-- Others read, or something happens that is no reading. -/
theorem happen {service : Service} (feeds : service.feeds = w.service.feeds)
    (inboxes : service.inboxes = w.service.inboxes)
    (nextFeed : service.nextFeed = w.service.nextFeed) (hs : List Happening) :
    Handed (w.happen service hs none) := by
  have same : Handed { w with service } := h.of_same feeds inboxes nextFeed
  have old {r : Reading} {id : Nat} (mem : r ∈ w.readings ++ readingsOf none hs)
      (own : r.feed = some id) : r ∈ w.readings :=
    (List.mem_append.1 mem).resolve_right fun new => by
      cases (feed_of_mem_readingsOf new).symm.trans own
  refine ⟨h.reads_happen service hs none, same.ids, same.known_feed, same.known_inbox,
    fun r mem id own => same.known_reading r (old mem own) id own, same.known_sent,
    fun f there r mem own => same.channels f there r (old mem own) own, fun i mem => ?_⟩
  unfold HandsOn
  rw [readFor_happen_of_ne w service hs (by simp)]
  exact same.faithful i mem

/-- A feed has gone on, or is no more. -/
theorem move {service : Service} {f : Feed} (there : f ∈ w.service.feeds) (hs : List Happening)
    {next : List Feed} (feeds : service.feeds = w.service.feeds.erase f ++ next)
    (few : (next.map (·.id)).Sublist [f.id])
    (channels : ∀ g ∈ next, ∀ r ∈ w.readings ++ readingsOf (some f.id) hs, r.feed = some f.id →
      g.phase.channel? = some r.channel)
    (nextFeed : service.nextFeed = w.service.nextFeed)
    (known_inbox : ∀ i ∈ service.inboxes, i.feed < w.service.nextFeed)
    (faithful : ∀ i ∈ service.inboxes, (w.happen service hs (some f.id)).HandsOn i) :
    Handed (w.happen service hs (some f.id)) := by
  have ids : (f.id :: (w.service.feeds.erase f).map (·.id)).Nodup :=
    ((List.perm_cons_erase there).map _).nodup_iff.1 h.ids
  have same {g : Feed} (mem : g ∈ next) : g.id = f.id :=
    List.mem_singleton.1 (few.subset (List.mem_map_of_mem mem))
  have other {g : Feed} (mem : g ∈ w.service.feeds.erase f) : g.id ≠ f.id := fun same =>
    (List.nodup_cons.1 ids).1 (same ▸ List.mem_map_of_mem mem)
  refine ⟨h.reads_happen service hs _, ?_, ?_, nextFeed ▸ known_inbox, ?_, ?_, ?_, faithful⟩
  · show (service.feeds.map _).Nodup
    rw [feeds, List.map_append]
    exact (few.append_left _).nodup ((List.perm_append_singleton _ _).nodup_iff.2 ids)
  · show ∀ g ∈ service.feeds, g.id < service.nextFeed
    rw [feeds, nextFeed]
    intro g mem
    rcases List.mem_append.1 mem with old | new
    · exact h.known_feed g (List.mem_of_mem_erase old)
    · exact same new ▸ h.known_feed f there
  · show ∀ r ∈ w.readings ++ readingsOf (some f.id) hs, ∀ id, r.feed = some id →
      id < service.nextFeed
    rw [nextFeed]
    intro r mem id its
    rcases List.mem_append.1 mem with old | new
    · exact h.known_reading r old id its
    · cases (feed_of_mem_readingsOf new).symm.trans its
      exact h.known_feed f there
  · show ∀ e ∈ w.sent, e.1 < service.nextFeed
    rw [nextFeed]
    exact h.known_sent
  · show ∀ g ∈ service.feeds, _
    rw [feeds]
    intro g mem r read its
    rcases List.mem_append.1 mem with old | new
    · -- what was read now was not read for the others
      rcases List.mem_append.1 read with before | now
      · exact h.channels g (List.mem_of_mem_erase old) r before its
      · exact absurd (Option.some.inj (its.symm.trans (feed_of_mem_readingsOf now))) (other old)
    · exact channels g new r read (same new ▸ its)

end Handed

/-! ## Feeds that go on -/

theorem HandsOn.of_eq {w : Live} {i j : Inbox} (h : w.HandsOn i) (feed : j.feed = i.feed)
    (unread : j.unread = i.unread) (failsAt : j.failsAt = i.failsAt)
    (gone : j.gone = false → i.gone = false) : w.HandsOn j := by
  refine ⟨failsAt.trans h.1, fun there => ?_⟩
  rw [feed, unread]
  exact h.2 (gone there)

/-- What was read is what the inbox receives. -/
theorem HandsOn.receive {w : Live} {i : Inbox} (h : w.HandsOn i) {feed : Nat} (own : i.feed = feed)
    (service : Service) (c : ChannelId) (n : Notice) :
    (w.happen service [.read c n] (some feed)).HandsOn (i.receive n).2 := by
  subst own
  have read : (w.happen service [.read c n] (some i.feed)).readFor i.feed =
      w.readFor i.feed ++ [n] := by
    simp [readFor, happen, readingsOf]
  obtain ⟨failsAt, gone, unread⟩ := Inbox.receive_of_lasting n h.1
  refine ⟨failsAt, fun there => ?_⟩
  rw [gone] at there
  rw [i.feed_receive n, read, unread there, List.map_append, ← h.2 there, List.append_assoc]
  rfl

namespace Handed

variable {w : Live} (h : w.Handed)
include h

theorem handOn {f : Feed} {s t : Service} {n : Notice} {result : Option FeedError}
    (inboxes : s.inboxes = w.service.inboxes) (handed : s.handOn f n = (result, t))
    (service : Service) (c : ChannelId) : ∀ i ∈ t.inboxes, i.feed < w.service.nextFeed ∧
      (w.happen service [.read c n] (some f.id)).HandsOn i := by
  intro j mem
  rcases Service.mem_handOn handed mem with ⟨old, ne⟩ | ⟨i, old, own, rfl⟩
  · rw [inboxes] at old
    refine ⟨h.known_inbox j old, ?_⟩
    unfold HandsOn
    rw [readFor_happen_of_ne w service _ fun e => ne (Option.some.inj e).symm]
    exact h.faithful j old
  · rw [inboxes] at old
    exact ⟨i.feed_receive n ▸ h.known_inbox i old, (h.faithful i old).receive own service c n⟩

/-- A change to one inbox that neither adds to what there is to read nor takes from it. -/
theorem of_setInbox {i : Inbox} {s : Service} (inboxes : s.inboxes = w.service.inboxes)
    (there : i ∈ s.inboxes) {j : Inbox} (feed : j.feed = i.feed) (unread : j.unread = i.unread)
    (failsAt : j.failsAt = i.failsAt) (gone : j.gone = false → i.gone = false) :
    ∀ k ∈ (s.setInbox j).inboxes, k.feed < w.service.nextFeed ∧ w.HandsOn k := by
  rw [inboxes] at there
  intro k mem
  rcases Service.mem_setInbox mem with rfl | ⟨old, -⟩
  · exact ⟨feed ▸ h.known_inbox i there, (h.faithful i there).of_eq feed unread failsAt gone⟩
  · rw [inboxes] at old
    exact ⟨h.known_inbox k old, h.faithful k old⟩

theorem closeInbox {s : Service} (inboxes : s.inboxes = w.service.inboxes) (f : Feed) :
    ∀ i ∈ (s.closeInbox f).inboxes, i.feed < w.service.nextFeed ∧ w.HandsOn i := by
  unfold Service.closeInbox
  split
  · rename_i i found
    exact h.of_setInbox inboxes (Service.mem_of_inbox? found).1 rfl rfl rfl id
  · rw [inboxes]
    exact fun i mem => ⟨h.known_inbox i mem, h.faithful i mem⟩

/-- A feed goes on without reading. -/
theorem goesOn {f g : Feed} (there : f ∈ w.service.feeds) {t : Service} {hs : List Happening}
    (none : readingsOf (some f.id) hs = []) (feeds : t.feeds = w.service.feeds.erase f)
    (inboxes : t.inboxes = w.service.inboxes) (nextFeed : t.nextFeed = w.service.nextFeed)
    (id : g.id = f.id) (channel : ∀ c, f.phase.channel? = some c → g.phase.channel? = some c) :
    Handed (w.happen (t.spawn (.feed g)) hs (some f.id)) := by
  refine h.move there hs ((t.feeds_spawn_feed g).trans (congrArg (· ++ [g]) feeds))
    (by simp [id]) ?_ nextFeed ?_ ?_
  · rw [none, List.append_nil]
    rintro k mem r read own
    rw [List.mem_singleton.1 mem]
    exact channel _ (h.channels f there r read own)
  · show ∀ i ∈ t.inboxes, _
    rw [inboxes]
    exact h.known_inbox
  · show ∀ i ∈ t.inboxes, _
    rw [inboxes, handsOn_happen_of_none none]
    exact h.faithful

/-- A feed reads a notice from its channel and hands it on. -/
theorem reads_on {f : Feed} (there : f ∈ w.service.feeds) {c : ChannelId}
    (reading : f.phase = .reading c) {n : Notice} {hub : Hub} {result : Option FeedError}
    {t : Service} (handed : { w.service.without (.feed f) with hub }.handOn f n = (result, t)) :
    Handed (w.happen (t.spawn (.feed (f.handedOn c result))) [.read c n] (some f.id)) := by
  have faithful := h.handOn (s := { w.service.without (.feed f) with hub }) rfl handed
    (t.spawn (.feed (f.handedOn c result))) c
  obtain ⟨inboxes, e⟩ := Service.exists_handOn_eq { w.service.without (.feed f) with hub } f n
  rw [handed] at e
  obtain rfl : t = _ := e
  obtain ⟨id, channel⟩ : (f.handedOn c result).id = f.id ∧
      (f.handedOn c result).phase.channel? = some c := by
    cases result with
    | none => exact ⟨rfl, congrArg FeedPhase.channel? reading⟩
    | some e => exact ⟨rfl, rfl⟩
  refine h.move there _
    ((Service.feeds_spawn_feed _ _).trans (congrArg (· ++ _) (w.service.feeds_without f)))
    (by simp [id]) ?_ rfl (fun i mem => (faithful i mem).1) fun i mem => (faithful i mem).2
  intro g mem r read own
  rw [List.mem_singleton.1 mem, channel]
  rcases List.mem_append.1 read with old | new
  · have before := h.channels f there r old own
    rwa [reading] at before
  · cases List.mem_singleton.1 new
    rfl

theorem moveFeed {f : Feed} (there : f ∈ w.service.feeds) : (w.moveFeed f).Handed := by
  have steps := (w.service.without (.feed f)).feedSteps f
  have rest : (w.service.without (.feed f)).feeds = w.service.feeds.erase f :=
    w.service.feeds_without f
  unfold Live.moveFeed
  dsimp only
  generalize (w.service.without (.feed f)).moveFeed f = move,
    (w.service.without (.feed f)).feedHappenings f = hs at steps ⊢
  cases steps with
  | waits => exact h
  | connects opening =>
    refine h.goesOn there (readingsOf_subscribe ..) rest rfl rfl rfl ?_
    rw [opening]
    rintro c ⟨⟩
  | reads c n hub reading got result t handed => exact h.reads_on there reading handed
  | quits c reading =>
    refine h.goesOn there rfl rest rfl rfl rfl ?_
    rw [reading]
    exact fun _ => id
  | leaves c leaving =>
    refine h.goesOn there rfl rest rfl rfl rfl ?_
    rw [leaving]
    exact fun _ => id
  | ends c closing inboxes jobs closed kick =>
    have faithful := h.closeInbox (s := w.service.without (.feed f)) rfl f
    rw [closed] at faithful
    have feeds : Service.feeds { w.service.without (.feed f) with
        hub := (w.service.without (.feed f)).hub.release c, inboxes, jobs } =
        w.service.feeds.erase f ++ [] := by
      rw [List.append_nil]
      rcases kick with rfl | ⟨due, rfl⟩
      · exact rest
      · exact ((w.service.without (.feed f)).feeds_spawn
          (j := .timer due (.kick f.game f.player)) rfl).trans rest
    refine h.move there [] feeds (List.nil_sublist _) (by simp) rfl
      (fun i mem => (faithful i mem).1) ?_
    rw [handsOn_happen_of_none rfl]
    exact fun i mem => (faithful i mem).2

theorem stopFeed {f : Feed} (there : f ∈ w.service.feeds) : (w.stopFeed f).Handed := by
  unfold Live.stopFeed
  split
  · rename_i c reading
    split
    · have none : readingsOf (some f.id) [] = [] := rfl
      have next := h.goesOn (g := { f with phase := .leaving c }) there none
        (w.service.feeds_without f) rfl rfl rfl (by rw [reading]; exact fun _ => id)
      rwa [happen_nil] at next
    · exact h
  · exact h

/-! ## Clients -/

theorem readFor_next : w.readFor w.service.nextFeed = [] := by
  refine List.map_eq_nil_iff.2 (List.filter_eq_nil_iff.2 fun r mem own => ?_)
  exact Nat.lt_irrefl _ (h.known_reading r mem _ (beq_iff_eq.1 own))

theorem sentTo_next : w.sentTo w.service.nextFeed = [] := by
  refine List.map_eq_nil_iff.2 (List.filter_eq_nil_iff.2 fun e mem own => ?_)
  exact Nat.lt_irrefl _ (beq_iff_eq.1 own ▸ h.known_sent e mem)

/-- A stream is opened with a number that none had before. -/
theorem openStream (c : LiveCall) : (w.openStream c).Handed := by
  unfold Live.openStream
  split
  · rename_i game viewer v _ _
    have feeds : (w.service.openFeed game viewer (fun f => { f with kicks := true }) id).2.feeds =
        w.service.feeds ++ [{ id := w.service.nextFeed, game, player := viewer, kicks := true }] :=
      List.filterMap_append ..
    refine ⟨h.reads, ?_, ?_, ?_, ?_, ?_, ?_, ?_⟩
    · show (Service.feeds _ |>.map _).Nodup
      rw [feeds, List.map_append]
      refine (List.perm_append_singleton _ _).nodup_iff.2 (List.nodup_cons.2 ⟨fun mem => ?_, h.ids⟩)
      obtain ⟨f, there, same⟩ := List.mem_map.1 mem
      exact Nat.lt_irrefl _ (same ▸ h.known_feed f there)
    · show ∀ f ∈ Service.feeds _, f.id < w.service.nextFeed + 1
      rw [feeds]
      intro f mem
      rcases List.mem_append.1 mem with old | new
      · exact Nat.lt_succ_of_lt (h.known_feed f old)
      · rw [List.mem_singleton.1 new]
        exact Nat.lt_succ_self _
    · intro i mem
      rcases List.mem_append.1 mem with old | new
      · exact Nat.lt_succ_of_lt (h.known_inbox i old)
      · rw [List.mem_singleton.1 new]
        exact Nat.lt_succ_self _
    · exact fun r mem id own => Nat.lt_succ_of_lt (h.known_reading r mem id own)
    · exact fun e mem => Nat.lt_succ_of_lt (h.known_sent e mem)
    · show ∀ f ∈ Service.feeds _, _
      rw [feeds]
      intro f mem r read own
      rcases List.mem_append.1 mem with old | new
      · exact h.channels f old r read own
      · rw [List.mem_singleton.1 new] at own
        exact absurd (h.known_reading r read _ own) (Nat.lt_irrefl _)
    · intro i mem
      rcases List.mem_append.1 mem with old | new
      · exact h.faithful i old
      · rw [List.mem_singleton.1 new]
        refine ⟨rfl, fun _ => ?_⟩
        show w.sentTo w.service.nextFeed ++ [] = (w.readFor w.service.nextFeed).map _
        rw [h.readFor_next, h.sentTo_next]
        rfl
  · exact h

/-- What the client reads is read and no longer to be read. -/
theorem readStream (feed : Nat) : (w.readStream feed).Handed := by
  unfold Live.readStream Service.readInbox
  cases found : w.service.inbox? feed with
  | none => exact h
  | some i =>
    obtain ⟨there, rfl⟩ := Service.mem_of_inbox? found
    refine ⟨h.reads, h.ids, h.known_feed, fun j mem => ?_, h.known_reading, fun e mem => ?_,
      h.channels, fun j mem => ?_⟩
    · rcases Service.mem_setInbox mem with rfl | ⟨old, -⟩
      · exact h.known_inbox i there
      · exact h.known_inbox j old
    · rcases List.mem_append.1 mem with old | new
      · exact h.known_sent e old
      · obtain ⟨x, -, rfl⟩ := List.mem_map.1 new
        exact h.known_inbox i there
    · have sent : ((w.sent ++ i.unread.map (i.feed, ·)).filter (·.1 == j.feed)).map (·.2) =
          w.sentTo j.feed ++ if i.feed = j.feed then i.unread else [] := by
        rw [List.filter_append, List.map_append, List.filter_map]
        by_cases own : i.feed = j.feed <;> simp [Function.comp_def, own, sentTo]
      refine ⟨?_, ?_⟩
      · rcases Service.mem_setInbox mem with rfl | ⟨old, -⟩
        · exact (h.faithful i there).1
        · exact (h.faithful j old).1
      · show j.gone = false → ((w.sent ++ i.unread.map (i.feed, ·)).filter (·.1 == j.feed)).map _ ++
          j.unread = (w.readFor j.feed).map _
        rw [sent]
        rcases Service.mem_setInbox mem with rfl | ⟨old, ne⟩
        · rw [if_pos rfl, List.append_nil]
          exact (h.faithful i there).2
        · rw [if_neg (Ne.symm ne), List.append_nil]
          exact (h.faithful j old).2

theorem dropStream (feed : Nat) : (w.dropStream feed).Handed := by
  have feeds := w.service.feeds_cancelFeed feed
  have cancelled : Handed { w with service := w.service.cancelFeed feed } := by
    refine ⟨h.reads, ?_, ?_, h.known_inbox, h.known_reading, h.known_sent, ?_, h.faithful⟩
    · show (Service.feeds _ |>.map _).Nodup
      rw [feeds, List.map_append, List.map_map]
      show (_ ++ ((w.service.feeds.filter (·.id == feed)).map (·.id))).Nodup
      rw [← List.map_append]
      refine (List.Perm.map _ ?_).nodup_iff.2 h.ids
      exact List.perm_append_comm.trans (List.filter_append_perm (·.id == feed) w.service.feeds)
    · intro f mem
      rcases Service.mem_feeds_cancelFeed.1 mem with ⟨old, -⟩ | ⟨g, old, -, rfl⟩
      · exact h.known_feed f old
      · exact h.known_feed g old
    · intro f mem
      rcases Service.mem_feeds_cancelFeed.1 mem with ⟨old, -⟩ | ⟨g, old, -, rfl⟩
      · exact h.channels f old
      · exact h.channels g old
  unfold Live.dropStream
  dsimp only
  split
  · rename_i i found
    have set := cancelled.of_setInbox (s := w.service.cancelFeed feed) (j := { i with gone := true })
      rfl (Service.mem_of_inbox? found).1 rfl rfl rfl (by rintro ⟨⟩)
    exact ⟨cancelled.reads, cancelled.ids, cancelled.known_feed, fun j mem => (set j mem).1,
      cancelled.known_reading, cancelled.known_sent, cancelled.channels, fun j mem => (set j mem).2⟩
  · exact cancelled

end Handed

end Live

end GuessingRoom
