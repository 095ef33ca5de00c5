import GuessingRoom.Proofs.LiveTraffic
import GuessingRoom.Proofs.Strides

/-!
# Who holds the channels

Feeds connect players to the hub and read from it. If nobody else does, every subscription and every
reader is that of a feed at any time (`Service.Owned`): a feed takes its own with it when it goes.
-/

namespace GuessingRoom

/-- The feed has connected its player, and is still to take the player off the hub. -/
def FeedPhase.isConnected : FeedPhase → Bool
  | reading _ | leaving _ => true
  | _ => false

/-- The subscription is the feed's. -/
def Feed.Holds (f : Feed) (x : Subscription) : Prop :=
  f.player = x.player ∧ f.phase.isConnected = true

instance (f : Feed) (x : Subscription) : Decidable (f.Holds x) := inferInstanceAs (Decidable (_ ∧ _))

/-- Nobody connects, and the readers are the same as before. -/
structure Hub.Keeps (h after : Hub) : Prop where
  readers : after.readers = h.readers
  players : ∀ y ∈ after.subscriptions, ∃ x ∈ h.subscriptions, x.player = y.player

theorem Hub.Keeps.of_eq {h after : Hub} (readers : after.readers = h.readers)
    (subscriptions : after.subscriptions = h.subscriptions) : h.Keeps after :=
  ⟨readers, fun y mem => ⟨y, subscriptions ▸ mem, rfl⟩⟩

namespace Service

/-- All subscriptions and readers are those of feeds that end with the service, and nothing is
published but in batches. -/
structure Owned (s : Service) : Prop where
  tied : ∀ f ∈ s.feeds, f.tied = true
  subscriptions : ∀ x ∈ s.hub.subscriptions, ∃ f ∈ s.feeds, f.Holds x
  readers : s.hub.readers.Subperm (s.feeds.filterMap (·.phase.channel?))
  published : ∀ id, .delivery id ∉ s.jobs

namespace Owned

variable {s t : Service} (h : s.Owned)
include h

/-- Nothing but the jobs and the hub is of account. -/
theorem of_eq (jobs : t.jobs = s.jobs) (hub : t.hub = s.hub) : t.Owned := by
  have feeds : t.feeds = s.feeds := congrArg (List.filterMap Job.feed?) jobs
  constructor
  · exact feeds ▸ h.tied
  · exact feeds ▸ hub ▸ h.subscriptions
  · exact feeds ▸ hub ▸ h.readers
  · exact jobs ▸ h.published

/-- Feeds stay as they are. -/
theorem of_feeds (feeds : t.feeds = s.feeds) (keeps : s.hub.Keeps t.hub)
    (published : ∀ id, .delivery id ∉ t.jobs) : t.Owned := by
  refine ⟨?_, fun y mem => ?_, ?_, published⟩
  · rw [feeds]
    exact h.tied
  · obtain ⟨x, there, same⟩ := keeps.players y mem
    obtain ⟨f, own, player, connected⟩ := h.subscriptions x there
    exact ⟨f, feeds ▸ own, player.trans same, connected⟩
  · rw [feeds, keeps.readers]
    exact h.readers

/-- A job that is no feed becomes another or none. -/
theorem of_job {j : Job} {new : List Job} (other : j.feed? = none)
    (jobs : t.jobs = s.jobs.erase j ++ new)
    (others : ∀ i ∈ new, i.feed? = none ∧ ∀ id, i ≠ .delivery id) (keeps : s.hub.Keeps t.hub) :
    t.Owned := by
  refine h.of_feeds ?_ keeps fun id mem => ?_
  · have added : new.filterMap Job.feed? = [] :=
      List.filterMap_eq_nil_iff.2 fun i mem => (others i mem).1
    unfold Service.feeds
    rw [jobs, List.filterMap_append, added, List.append_nil]
    exact filterMap_erase_of_none s.jobs other
  · rw [jobs] at mem
    rcases List.mem_append.1 mem with old | new
    · exact h.published id (List.mem_of_mem_erase old)
    · exact (others _ new).2 id rfl

/-- A batch goes on as another one. -/
theorem of_batch {b b' : Batch} (jobs : t.jobs = s.jobs.erase (.batch b) ++ [.batch b'])
    (keeps : s.hub.Keeps t.hub) : t.Owned :=
  h.of_job rfl jobs (by simp [Job.feed?]) keeps

/-- A job that is no feed leaves. -/
theorem without {j : Job} (other : j.feed? = none) : (s.without j).Owned :=
  h.of_job other (List.append_nil (s.jobs.erase j)).symm (by simp) (.of_eq rfl rfl)

theorem spawn {j : Job} (other : j.feed? = none) (delivery : ∀ id, j ≠ .delivery id) :
    (s.spawn j).Owned := by
  refine h.of_feeds (s.feeds_spawn other) (.of_eq rfl rfl) fun id mem => ?_
  rcases List.mem_append.1 mem with old | new
  · exact h.published id old
  · exact delivery id (List.mem_singleton.1 new).symm

/-- A feed becomes another one or ends, and whatever subscription it had is taken over or gone. -/
theorem of_feed {f : Feed} {new : List Job} (jobs : t.jobs = s.jobs.erase (.feed f) ++ new)
    (published : ∀ id, .delivery id ∉ new) (tied : ∀ g, .feed g ∈ new → g.tied = true)
    (subscriptions : ∀ x ∈ t.hub.subscriptions,
      (∃ g, .feed g ∈ new ∧ g.Holds x) ∨ x ∈ s.hub.subscriptions ∧ ¬ f.Holds x)
    (readers : t.hub.readers.Subperm
      ((s.feeds.erase f ++ new.filterMap Job.feed?).filterMap (·.phase.channel?))) : t.Owned := by
  have feeds : t.feeds = s.feeds.erase f ++ new.filterMap Job.feed? := by
    rw [← s.feeds_without]
    unfold Service.feeds
    rw [jobs, List.filterMap_append]
    rfl
  have mem_feeds (g : Feed) : g ∈ t.feeds ↔ g ∈ s.feeds.erase f ∨ .feed g ∈ new := by
    rw [Service.mem_feeds, jobs, List.mem_append, ← s.feeds_without, Service.mem_feeds]
    rfl
  refine ⟨fun g mem => ?_, fun x mem => ?_, feeds ▸ readers, fun id mem => ?_⟩
  · rcases (mem_feeds g).1 mem with old | there
    · exact h.tied g (List.mem_of_mem_erase old)
    · exact tied g there
  · rcases subscriptions x mem with ⟨g, there, holds⟩ | ⟨old, gone⟩
    · exact ⟨g, (mem_feeds g).2 (.inr there), holds⟩
    · obtain ⟨g, there, holds⟩ := h.subscriptions x old
      have other : g ≠ f := by
        rintro rfl
        exact gone holds
      exact ⟨g, (mem_feeds g).2 (.inl ((List.mem_erase_of_ne other).2 there)), holds⟩
  · rw [jobs] at mem
    rcases List.mem_append.1 mem with old | there
    · exact h.published id (List.mem_of_mem_erase old)
    · exact published id there

/-- The readers, but for the one that a feed has. -/
theorem readers_erase {f : Feed} (mem : f ∈ s.feeds) : s.hub.readers.Subperm
    (f.phase.channel?.toList ++ (s.feeds.erase f).filterMap (·.phase.channel?)) := by
  refine h.readers.trans (((List.perm_cons_erase mem).filterMap _).trans ?_).subperm
  cases held : f.phase.channel? <;> simp [held]

/-- The readers stay as they are if the feed keeps its own. -/
theorem readers_put {f g : Feed} (mem : f ∈ s.feeds) (same : g.phase.channel? = f.phase.channel?) :
    s.hub.readers.Subperm ((s.feeds.erase f ++ [g]).filterMap (·.phase.channel?)) := by
  refine (h.readers_erase mem).trans (List.Perm.subperm ?_)
  rw [List.filterMap_append]
  refine List.perm_append_comm.trans (List.Perm.append_left _ ?_)
  cases held : f.phase.channel? <;> simp [same, held]

/-- A feed goes on with what it holds. -/
theorem keeps {f g : Feed} (mem : f ∈ s.feeds) (jobs : t.jobs = s.jobs.erase (.feed f) ++ [.feed g])
    (player : g.player = f.player) (tied : g.tied = f.tied)
    (channel : g.phase.channel? = f.phase.channel?) (connected : g.phase.isConnected = true)
    (subscriptions : t.hub.subscriptions = s.hub.subscriptions)
    (readers : t.hub.readers = s.hub.readers) : t.Owned := by
  refine h.of_feed jobs (by simp) (fun x there => ?_) (fun x there => ?_) ?_
  · cases List.mem_singleton.1 there
    exact tied.trans (h.tied f mem)
  · rw [subscriptions] at there
    by_cases holds : f.Holds x
    · exact .inl ⟨g, List.mem_singleton_self _, player.trans holds.1, connected⟩
    · exact .inr ⟨there, holds⟩
  · rw [readers]
    exact h.readers_put mem channel

end Owned

end Service

/-! ## The steps of jobs -/

namespace Hub

variable {h after : Hub} {d : Delivery} {now : Nat}

theorem keeps_of_going (step : h.advance d now = .going after) : h.Keeps after := by
  have moved := advanced h d now
  rw [step] at moved
  cases moved with
  | goes t _ _ _ _ _ _ _ goes =>
    cases goes with
    | notes player now =>
      refine ⟨rfl, fun y mem => ?_⟩
      obtain ⟨x, there, rfl⟩ := List.mem_map.1 mem
      refine ⟨x, there, ?_⟩
      split <;> rfl
    | takes | passes => exact .of_eq rfl rfl

theorem keeps_of_finished {count : Nat} (step : h.advance d now = .finished count after) :
    h.Keeps after := by
  have moved := advanced h d now
  rw [step] at moved
  cases moved with
  | ends => exact .of_eq rfl rfl

/-- Who subscribes has a reader, and is connected at most. -/
theorem subscribes (h : Hub) (game player : Id) (now : Nat) :
    (h.subscribe game player now).2.readers = (h.subscribe game player now).1 :: h.readers ∧
      ∀ x ∈ (h.subscribe game player now).2.subscriptions, x ∈ h.subscriptions ∨ x.player = player := by
  unfold subscribe
  split
  · exact ⟨rfl, fun x mem => .inl mem⟩
  · refine ⟨rfl, fun x mem => (List.mem_append.1 mem).imp id fun new => ?_⟩
    rw [List.mem_singleton.1 new]

end Hub

namespace Traffic

variable {t : Traffic} {move : Job.Move} {hs : List Hub.Happening}

theorem owned_batch (h : t.service.Owned) {b : Batch}
    (moves : (t.service.without (.batch b)).BatchMoves b move hs) :
    (t.follow hs move).service.Owned := by
  cases moves with
  | follows | waits => exact h
  | leaves done => exact (h.without rfl).of_eq rfl rfl
  | goes d undone delivery found hub step => exact h.of_batch rfl (Hub.keeps_of_going step)
  | delivers d undone delivery found count hub step =>
    exact h.of_batch rfl (Hub.keeps_of_finished step)
  | misses | ends | begins => exact h.of_batch rfl (.of_eq rfl rfl)

/-- A feed takes its subscription and its reader with it when it goes. -/
theorem owned_feed (h : t.service.Owned) {f : Feed} (mem : f ∈ t.service.feeds)
    (steps : (t.service.without (.feed f)).FeedSteps f move hs) :
    (t.follow hs move).service.Owned := by
  have others := h.readers_erase mem
  have tied : ∀ g : Feed, g.tied = f.tied → g.tied = true := fun g same => same.trans (h.tied f mem)
  cases steps with
  | waits => exact h
  | connects opening =>
    obtain ⟨readers, new⟩ := Hub.subscribes t.service.hub f.game f.player t.service.now
    refine h.of_feed rfl (by simp) (by simpa using tied f rfl) (fun x there => ?_) ?_
    · rcases new x there with old | own
      · refine .inr ⟨old, fun holds => ?_⟩
        rw [Feed.Holds, opening] at holds
        cases holds.2
      · exact .inl ⟨_, List.mem_singleton_self _, own.symm, rfl⟩
    · show (t.service.hub.subscribe f.game f.player t.service.now).2.readers.Subperm _
      rw [opening] at others
      rw [readers, List.filterMap_append]
      exact ((List.subperm_cons _).2 others).trans (List.perm_append_singleton ..).symm.subperm
  | reads c n hub reading got result u handed =>
    obtain ⟨inboxes, e⟩ := Service.exists_handOn_eq { t.service.without (.feed f) with hub } f n
    rw [handed] at e
    obtain rfl : u = _ := e
    obtain ⟨slot, -, -, rfl⟩ := Hub.exists_slot_of_receive got
    cases result with
    | none =>
      refine h.keeps mem rfl rfl rfl rfl ?_ rfl rfl
      rw [Feed.handedOn, reading]
      rfl
    | some x =>
      refine h.keeps mem rfl rfl rfl ?_ rfl rfl rfl
      rw [reading]
      rfl
  | quits c reading =>
    refine h.keeps mem rfl rfl rfl ?_ rfl rfl rfl
    rw [reading]
    rfl
  | leaves c leaving =>
    refine h.of_feed rfl (by simp) (by simpa using tied f rfl) (fun x there => .inr ?_)
      (h.readers_put mem ?_)
    · obtain ⟨old, other⟩ := List.mem_filter.1 there
      exact ⟨old, fun holds => bne_iff_ne.1 other holds.1.symm⟩
    · rw [leaving]
      rfl
  | ends c closing inboxes jobs closed kick =>
    obtain ⟨new, rfl, none⟩ : ∃ new, jobs = t.service.jobs.erase (.feed f) ++ new ∧
        ∀ j ∈ new, ∃ due event, j = .timer due event := by
      rcases kick with rfl | ⟨due, rfl⟩
      · exact ⟨[], (List.append_nil _).symm, by simp⟩
      · exact ⟨[_], rfl, by simp⟩
    have no_feed : new.filterMap Job.feed? = [] := by
      refine List.filterMap_eq_nil_iff.2 fun j there => ?_
      obtain ⟨due, event, rfl⟩ := none j there
      rfl
    refine h.of_feed rfl (fun id there => ?_) (fun g there => ?_) (fun x there => .inr ⟨there, ?_⟩) ?_
    · obtain ⟨due, event, e⟩ := none _ there
      cases e
    · obtain ⟨due, event, e⟩ := none _ there
      cases e
    · intro holds
      rw [Feed.Holds, closing] at holds
      cases holds.2
    · rw [closing] at others
      rw [no_feed, List.append_nil]
      exact (others.erase c).trans (List.Perm.of_eq (List.erase_cons_head ..)).subperm

end Traffic

/-! ## Calls and clients -/

theorem Service.Stride.owned {kicks : Id → Id → Prop} {s u : Service} (h : s.Stride kicks u)
    (o : s.Owned) : u.Owned := by
  cases h with
  | works => exact o.of_eq rfl rfl
  | queues game items few =>
    have queue : { s with queue := (s.queue.push game items).2 }.Owned := o.of_eq rfl rfl
    exact queue.spawn rfl (by simp)
  | schedules delay game => exact o.spawn rfl (by simp)

namespace Service

/-- Jobs are the same as before in whatever does not depend on who has been told to end. -/
theorem map_cancelFeed {α : Type} (s : Service) (k : Job → α)
    (same : ∀ f : Feed, k (.feed { f with cancelled := true }) = k (.feed f)) (id : Nat) :
    ((s.cancelFeed id).jobs.map k).Perm (s.jobs.map k) := by
  obtain ⟨meant, cancel, jobs, as_before⟩ : ∃ (meant : Job → Bool) (cancel : Job → Job),
      (s.cancelFeed id).jobs = s.jobs.filter (!meant ·) ++ (s.jobs.filter meant).map cancel ∧
        ∀ j, k (cancel j) = k j := by
    refine ⟨_, _, rfl, fun j => ?_⟩
    cases j with
    | feed f => exact same f
    | _ => rfl
  rw [jobs, List.map_append, List.map_map, show k ∘ cancel = k from funext as_before,
    ← List.map_append]
  exact (List.perm_append_comm.trans (List.filter_append_perm meant s.jobs)).map k

theorem Owned.cancelFeed {s : Service} (h : s.Owned) (id : Nat) : (s.cancelFeed id).Owned where
  tied f mem := by
    rcases mem_feeds_cancelFeed.1 mem with ⟨old, -⟩ | ⟨g, old, -, rfl⟩
    · exact h.tied f old
    · exact h.tied g old
  subscriptions x mem := by
    obtain ⟨f, there, holds⟩ := h.subscriptions x mem
    by_cases own : f.id = id
    · exact ⟨_, mem_feeds_cancelFeed.2 (.inr ⟨f, there, own, rfl⟩), holds⟩
    · exact ⟨f, mem_feeds_cancelFeed.2 (.inl ⟨there, own⟩), holds⟩
  readers := by
    have held (t : Service) : t.feeds.filterMap (·.phase.channel?) =
        (t.jobs.map fun j => j.feed?.bind (·.phase.channel?)).filterMap (·) := by
      rw [List.filterMap_map]
      exact List.filterMap_filterMap
    refine h.readers.trans (List.Perm.subperm ?_)
    rw [held, held]
    exact ((s.map_cancelFeed _ (fun _ => rfl) id).filterMap _).symm
  published other mem := by
    rcases List.mem_append.1 mem with old | new
    · exact h.published other (List.mem_of_mem_filter old)
    · obtain ⟨j, there, e⟩ := List.mem_map.1 new
      cases j with
      | delivery i =>
        cases e
        exact h.published other (List.mem_of_mem_filter there)
      | _ => cases e

end Service

end GuessingRoom
