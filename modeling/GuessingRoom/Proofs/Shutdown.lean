import GuessingRoom.Proofs.Holdings
import GuessingRoom.Proofs.Potential

/-!
# The end of the service

The service is told to end while calls, batches, feeds and timers are under way. Feeds leave then,
wherever they are, and with them the last readers; so a batch that waited for a full channel passes
it over in the end, and the batches behind it follow. In whatever order all this goes on, every step
uses up some of what there is to do (`UnderWay.Ending.step`), and when nothing goes on any more,
nothing is left (`UnderWay.Ending.isOver`). Time passes only while no timer can go on, and no timer
waits any more; so those that had time left are dropped before any time passes.
-/

namespace GuessingRoom

/-! ## What goes on takes no time -/

namespace Service

/-- A feed that has been told to end never waits. -/
theorem moveFeed_ne_waiting {s : Service} {f : Feed} (told : s.stops f = true) :
    s.moveFeed f ≠ .waiting := by
  unfold moveFeed
  cases f.phase with
  | reading c =>
    dsimp only
    rcases s.hub.receive c with ⟨n | _ | _, hub⟩
    · dsimp only
      split <;> nofun
    · rw [told]
      nofun
    · nofun
  | _ => nofun

/-- Nothing that goes on takes time, or has the service go on, and the books stay as they are. -/
structure Steady (s t : Service) : Prop where
  now : t.now = s.now
  closing : t.closing = s.closing
  books : t.books = s.books

end Service

namespace Traffic

variable {t : Traffic} {move : Job.Move} {hs : List Hub.Happening}

theorem steady_batch {b : Batch} (moves : (t.service.without (.batch b)).BatchMoves b move hs) :
    t.service.Steady (t.follow hs move).service := by
  cases moves <;> exact ⟨rfl, rfl, rfl⟩

theorem steady_feed {f : Feed} (steps : (t.service.without (.feed f)).FeedSteps f move hs) :
    t.service.Steady (t.follow hs move).service := by
  cases steps with
  | reads c n hub reading got result u handed =>
    obtain ⟨inboxes, e⟩ := Service.exists_handOn_eq { t.service.without (.feed f) with hub } f n
    rw [handed] at e
    obtain rfl : u = _ := e
    exact ⟨rfl, rfl, rfl⟩
  | _ => exact ⟨rfl, rfl, rfl⟩

end Traffic

/-! ## The steps of calls -/

namespace Service.Stride

variable {kicks : Id → Id → Prop} {s u : Service} (h : s.Stride kicks u)
include h

theorem closing : u.closing = s.closing := by
  cases h <;> rfl

theorem now : u.now = s.now := by
  cases h <;> rfl

end Service.Stride

namespace Traffic.Sound

variable {t : Traffic} (s : t.Sound)
include s

theorem follow_batch {b : Batch} (mem : b ∈ t.service.batches) :
    (t.follow ((t.service.without (.batch b)).happenings b)
      ((t.service.without (.batch b)).moveBatch b)).Sound := by
  have stepped := s.step mem
  unfold Service.stepBatch at stepped
  cases move : (t.service.without (.batch b)).moveBatch b with
  | waiting => exact s
  | going u j =>
    rw [move] at stepped
    exact stepped
  | ended u =>
    rw [move] at stepped
    exact stepped

theorem stride {kicks : Id → Id → Prop} {u : Service} (h : t.service.Stride kicks u) :
    Traffic.Sound { t with
      service := u, queued := t.queued ++ u.batches.drop t.service.batches.length } := by
  have calm {u : Service} (hub : u.hub = t.service.hub) (queue : u.queue = t.service.queue)
      (batches : u.batches = t.service.batches) : Traffic.Sound { t with
        service := u, queued := t.queued ++ u.batches.drop t.service.batches.length } := by
    rw [batches, List.drop_length, List.append_nil]
    exact s.calm hub queue batches
  cases h with
  | works => exact calm rfl rfl rfl
  | queues game items =>
    have added : (t.service.publishLater game items).batches.drop t.service.batches.length =
        [(t.service.queue.push game items).1] := by
      rw [Service.batches_publishLater, List.drop_left]
    rw [added]
    exact s.queue game items
  | schedules delay game =>
    exact calm rfl rfl (t.service.batches_spawn_of_none (j := .timer _ (.nextTurn game)) rfl)

end Traffic.Sound

/-! ## The service has been told to end -/

namespace UnderWay

open PublishQueue (itemsOf)

/-- The service has been told to end, and what is under way is as the acts before have left it. -/
structure Ending (w : UnderWay) : Prop where
  sound : w.toTraffic.Sound
  owned : w.service.Owned
  closing : w.service.closing = true
  under_way : ∀ e ∈ w.calls, e.rest = (Call.operation e.task).after e.found

namespace Ending

variable {w w' : UnderWay} (h : w.Ending)
include h

theorem stops {f : Feed} (mem : f ∈ w.service.feeds) : w.service.stops f = true := by
  unfold Service.stops
  rw [h.owned.tied f mem, h.closing]
  exact Bool.or_true _

/-- No timer waits any more. -/
theorem moveTimer (due : Nat) (event : Event) :
    (w.service.without (.timer due event)).moveTimer due event =
      .ended (w.service.without (.timer due event)) :=
  if_pos h.closing

theorem proceed {i : Nat} {e : Errand Service Call (Except GameError Reply)}
    (here : w.calls[i]? = some e) (unended : e.result? = none) :
    (w.proceed i e).Ending ∧ (w.proceed i e).service.now = w.service.now := by
  have under_way := h.under_way e (List.mem_of_getElem? here)
  obtain ⟨task, found, a | ⟨effect, next⟩⟩ := e
  · cases unended
  · have under_way : .step effect next = (Call.operation task).after found := under_way
    have strides : Script.Along (fun s t : Service => s.Stride task.Kicks t)
        (.step effect next : Script Service (Except GameError Reply)) := by
      rw [under_way]
      exact task.strides.after found
    have stride := (strides w.service).1
    refine ⟨⟨h.sound.stride stride, stride.owned h.owned, stride.closing.trans h.closing, ?_⟩,
      stride.now⟩
    intro x mem
    rcases List.mem_or_eq_of_mem_set mem with old | rfl
    · exact h.under_way x old
    · show next w.service = (Call.operation task).after (found ++ [w.service])
      rw [Script.after_concat, ← under_way, Script.after_cons, Script.after_nil]

theorem happen {due : Nat} (event : Event) : (w.happen due event).Ending where
  sound := h.sound.calm rfl rfl (w.service.batches_without_of_none rfl)
  owned := h.owned.without rfl
  closing := h.closing
  under_way e mem := by
    rcases List.mem_append.1 mem with old | new
    · exact h.under_way e old
    · rw [List.mem_singleton.1 new]
      exact (Script.after_nil _).symm

theorem stop {f : Feed} {c : ChannelId} (mem : f ∈ w.service.feeds) (reading : f.phase = .reading c) :
    Ending { w with
      service := (w.service.without (.feed f)).spawn (.feed { f with phase := .leaving c }) } where
  sound := by
    have batches : ((w.service.without (.feed f)).spawn
        (.feed { f with phase := .leaving c })).batches = w.service.batches :=
      (Service.batches_spawn_of_none _ rfl).trans (w.service.batches_without_of_none rfl)
    exact h.sound.calm rfl rfl batches
  owned := by
    refine h.owned.keeps mem rfl rfl rfl ?_ rfl rfl rfl
    rw [reading]
    rfl
  closing := h.closing
  under_way := h.under_way

/-- What a job does leaves all in order, and uses something up. -/
theorem job {price : Event → Nat} (worth : ∀ event, 0 < price event) {j : Job}
    (mem : j ∈ w.service.jobs) (goes : (w.service.without j).move j ≠ .waiting) :
    let t := w.follow ((w.service.without j).jobHappenings j) ((w.service.without j).move j)
    Ending { w with toTraffic := t } ∧ w.service.Steady t.service ∧
      w.service.Eases price t.service := by
  cases j with
  | delivery id => exact absurd mem (h.owned.published id)
  | timer due event =>
    have move : (w.service.without (.timer due event)).move (.timer due event) = _ :=
      h.moveTimer due event
    dsimp only
    rw [move]
    have dropped : w.follow [] (.ended (w.service.without (.timer due event))) =
        { w.toTraffic with service := w.service.without (.timer due event) } := by
      simp [Traffic.follow]
    show Ending { w with toTraffic := w.follow [] _ } ∧ _
    rw [dropped]
    exact ⟨⟨h.sound.calm rfl rfl (w.service.batches_without_of_none rfl), h.owned.without rfl,
      h.closing, h.under_way⟩, ⟨rfl, rfl, rfl⟩, Service.eases_timer mem (worth event)⟩
  | batch b =>
    have mem := Service.mem_batches.2 mem
    have moves := (w.service.without (.batch b)).batchMoves b
    have steady := Traffic.steady_batch (t := w.toTraffic) moves
    exact ⟨⟨h.sound.follow_batch mem, Traffic.owned_batch h.owned moves,
      steady.closing.trans h.closing, h.under_way⟩, steady, h.sound.eases_batch mem moves goes⟩
  | feed f =>
    have mem := Service.mem_feeds.2 mem
    have steps := (w.service.without (.feed f)).feedSteps f
    have steady := Traffic.steady_feed (t := w.toTraffic) steps
    exact ⟨⟨h.sound.feed steps, Traffic.owned_feed h.owned mem steps,
      steady.closing.trans h.closing, h.under_way⟩, steady, Traffic.eases_feed mem steps goes⟩

/-- Whatever goes on leaves all in order, takes no time, and brings the end nearer. -/
theorem step (step : w.Step w') :
    w'.Ending ∧ w'.service.now = w.service.now ∧ w'.potential < w.potential := by
  cases step with
  | call i e here unended =>
    obtain ⟨ending, now⟩ := h.proceed here unended
    have under_way := h.under_way e (List.mem_of_getElem? here)
    exact ⟨ending, now, potential_proceed here under_way unended⟩
  | job j mem goes =>
    obtain ⟨ending, steady, eases⟩ := h.job (Event.weight_pos w.service.audience) mem goes
    exact ⟨ending, steady.now, potential_lt_of_eases eases rfl⟩
  | stop f c mem reading told =>
    exact ⟨h.stop mem reading, rfl, potential_lt_of_eases (Service.eases_stop mem reading) rfl⟩
  | happens due event mem come => exact ⟨h.happen event, rfl, potential_happen mem⟩

/-- Nothing but a step of a call changes the books. -/
theorem proceeds_of_books (step : w.Step w') (changed : w'.service.books ≠ w.service.books) :
    ∃ i e, w.calls[i]? = some e ∧ e.result? = none ∧ w' = w.proceed i e := by
  cases step with
  | call i e here unended => exact ⟨i, e, here, unended, rfl⟩
  | job j mem goes => exact absurd (h.job (Event.weight_pos 0) mem goes).2.1.books changed
  | stop | happens => exact absurd rfl changed

end Ending

/-! ## Nothing is left -/

/-- All feeds have returned and left the hub, every batch has gone out and left the queue, no task
is left, and all calls have ended. -/
structure IsOver (w : UnderWay) : Prop where
  feeds : w.service.feeds = []
  subscriptions : w.service.hub.subscriptions = []
  readers : w.service.hub.readers = []
  batches : w.service.batches = []
  published : ∀ game, Hub.begun w.log game = itemsOf w.queued game
  returned : ∀ id game excluded n registry, .began id game excluded n registry ∈ w.log →
    ∃ count, .returned id count ∈ w.log
  queue : w.service.queue.tails = []
  jobs : w.service.jobs = []
  calls : ∀ e ∈ w.calls, e.result? ≠ none

namespace Ending

variable {w : UnderWay} (h : w.Ending)
  (waits : ∀ j ∈ w.service.jobs, (w.service.without j).move j = .waiting)
include h waits

theorem no_feeds : w.service.feeds = [] := by
  refine List.eq_nil_iff_forall_not_mem.2 fun f mem => ?_
  have told : (w.service.without (.feed f)).stops f = true := h.stops mem
  exact Service.moveFeed_ne_waiting told (waits _ (Service.mem_feeds.1 mem))

/-- With the feeds their subscriptions and readers have gone. -/
theorem nobody_connected : w.service.hub.subscriptions = [] ∧ w.service.hub.readers = [] := by
  have feeds := h.no_feeds waits
  constructor
  · refine List.eq_nil_iff_forall_not_mem.2 fun x mem => ?_
    obtain ⟨f, there, -⟩ := h.owned.subscriptions x mem
    rw [feeds] at there
    cases there
  · have held := h.owned.readers
    rw [feeds] at held
    exact List.subperm_nil.1 held

/-- Nobody can read any more, so no batch waits for a reader. -/
theorem isQuiet (game : Id) : w.IsQuiet game := by
  obtain ⟨subscriptions, readers⟩ := h.nobody_connected waits
  by_contra busy
  obtain ⟨b, mem, -, -, goes⟩ := h.sound.law.goes_on game busy fun c player _ readable => by
    rw [Hub.isReadable, Hub.isRegistered, subscriptions, readers] at readable
    cases readable
  exact goes (waits _ (Service.mem_batches.1 mem))

theorem no_batches : w.service.batches = [] := by
  refine List.eq_nil_iff_forall_not_mem.2 fun b mem => ?_
  have leaves : (w.service.without (.batch b)).moveBatch b = _ :=
    if_pos (h.isQuiet waits b.game b mem rfl)
  cases leaves.symm.trans (waits _ (Service.mem_batches.1 mem))

theorem no_jobs : w.service.jobs = [] := by
  refine List.eq_nil_iff_forall_not_mem.2 fun j mem => ?_
  cases j with
  | batch b =>
    have there := Service.mem_batches.2 mem
    rw [h.no_batches waits] at there
    cases there
  | feed f =>
    have there := Service.mem_feeds.2 mem
    rw [h.no_feeds waits] at there
    cases there
  | delivery id => exact h.owned.published id mem
  | timer due event => cases (h.moveTimer due event).symm.trans (waits _ mem)

end Ending

/-- When nothing can go on any more, it is all over. -/
theorem Ending.isOver {w : UnderWay} (h : w.Ending) (stuck : ∀ w', ¬ w.Step w') : w.IsOver := by
  have waits : ∀ j ∈ w.service.jobs, (w.service.without j).move j = .waiting := by
    intro j mem
    by_contra goes
    exact stuck _ (.job j mem goes)
  exact {
    feeds := h.no_feeds waits
    subscriptions := (h.nobody_connected waits).1
    readers := (h.nobody_connected waits).2
    batches := h.no_batches waits
    published := fun game => (h.sound.law.gone_out game (h.isQuiet waits game)).1
    returned := fun id game excluded n registry began =>
      (h.sound.law.gone_out game (h.isQuiet waits game)).2 id excluded n registry began
    queue := h.sound.law.clean (h.no_batches waits)
    jobs := h.no_jobs waits
    calls := fun e mem unended => by
      obtain ⟨i, here⟩ := List.mem_iff_getElem?.1 mem
      exact stuck _ (.call i e here unended) }

end UnderWay

/-! ## What else happens -/

namespace Service

/-- What may happen beside: clients read what there is for them, or go away, and time passes as long
as no timer can go on. -/
inductive Meanwhile (s : Service) : Service → Prop where
  | receives (inboxes : List Inbox) : Meanwhile s { s with inboxes }
  | cancels (feed : Nat) : Meanwhile s (s.cancelFeed feed)
  | passes (now : Nat) (later : s.now ≤ now) (waits : ∀ due event, .timer due event ∈ s.jobs →
      (s.without (.timer due event)).moveTimer due event = .waiting) : Meanwhile s { s with now }

theorem audience_cancelFeed (s : Service) (id : Nat) : (s.cancelFeed id).audience = s.audience := by
  have opens (t : Service) : t.jobs.countP Job.opens = (t.jobs.map Job.opens).countP fun b => b :=
    (List.countP_map (p := fun b => b) (f := Job.opens)).symm
  unfold audience
  rw [opens, opens, (s.map_cancelFeed Job.opens (fun _ => rfl) id).countP_eq]
  rfl

theorem weight_cancelFeed (s : Service) (id : Nat) (price : Event → Nat) (reach : Nat) :
    (s.cancelFeed id).weight price reach = s.weight price reach :=
  congrArg (· + s.hub.weight) (s.map_cancelFeed (Job.weight price reach) (fun _ => rfl) id).sum_nat

end Service

namespace UnderWay

/-- What is under way goes on by so many steps, and nothing new is asked for. -/
inductive Continues (w : UnderWay) : Nat → UnderWay → Prop where
  | refl : Continues w 0 w
  | step {n : Nat} {v u : UnderWay} (past : Continues w n v) (step : v.Step u) :
    Continues w (n + 1) u
  | meanwhile {n : Nat} {v : UnderWay} {s : Service} (past : Continues w n v)
    (beside : v.service.Meanwhile s) : Continues w n { v with service := s }

theorem Continues.trans {w v u : UnderWay} {m n : Nat} (h : w.Continues m v) (h' : v.Continues n u) :
    w.Continues (m + n) u := by
  induction h' with
  | refl => exact h
  | step _ step ih => exact ih.step step
  | meanwhile _ beside ih => exact ih.meanwhile beside

namespace Ending

variable {w : UnderWay} (h : w.Ending)
include h

theorem meanwhile {s : Service} (beside : w.service.Meanwhile s) :
    Ending { w with service := s } ∧
      UnderWay.potential { w with service := s } = w.potential := by
  cases beside with
  | receives inboxes =>
    exact ⟨⟨h.sound.calm rfl rfl rfl, h.owned.of_eq rfl rfl, h.closing, h.under_way⟩, rfl⟩
  | cancels feed =>
    refine ⟨⟨h.sound.calm rfl rfl (w.service.batches_cancelFeed feed), h.owned.cancelFeed feed,
      h.closing, h.under_way⟩, ?_⟩
    unfold potential
    rw [Service.audience_cancelFeed, Service.weight_cancelFeed]
  | passes now later waits =>
    exact ⟨⟨h.sound.calm rfl rfl rfl, h.owned.of_eq rfl rfl, h.closing, h.under_way⟩, rfl⟩

theorem continues {n : Nat} {v : UnderWay} (goes : w.Continues n v) :
    v.Ending ∧ n + v.potential ≤ w.potential := by
  induction goes with
  | refl => exact ⟨h, (Nat.zero_add _).le⟩
  | step _ step ih =>
    obtain ⟨ending, -, less⟩ := ih.1.step step
    exact ⟨ending, by have := ih.2; omega⟩
  | meanwhile _ beside ih =>
    obtain ⟨ending, same⟩ := ih.1.meanwhile beside
    exact ⟨ending, same ▸ ih.2⟩

/-- Whatever is under way can come to its end. -/
theorem exists_isOver : ∃ n v, w.Continues n v ∧ v.IsOver := by
  induction left : w.potential using Nat.strong_induction_on generalizing w with
  | _ _ ih =>
    by_cases stuck : ∀ u, ¬ w.Step u
    · exact ⟨0, w, .refl, h.isOver stuck⟩
    · push Not at stuck
      obtain ⟨u, step⟩ := stuck
      obtain ⟨ending, -, less⟩ := h.step step
      obtain ⟨n, v, goes, ended⟩ := ih _ (left ▸ less) ending rfl
      exact ⟨0 + 1 + n, v, (Continues.refl.step step).trans goes, ended⟩

end Ending

/-! ## Timers -/

theorem getElem?_of_set {α : Type} {l : List α} {i j : Nat} {a e : α}
    (here : (l.set j a)[i]? = some e) : l[i]? = some e ∨ j = i ∧ a = e := by
  rw [List.getElem?_set] at here
  split at here
  · rename_i same
    split at here
    · exact .inr ⟨same, Option.some.inj here⟩
    · cases here
  · exact .inl here

theorem getElem?_of_snoc {α : Type} {l : List α} {i : Nat} {a e : α}
    (here : (l ++ [a])[i]? = some e) : l[i]? = some e ∨ e = a := by
  rcases Nat.lt_or_ge i l.length with old | new
  · rw [List.getElem?_append_left old] at here
    exact .inl here
  · rw [List.getElem?_append_right new] at here
    exact .inr (List.mem_singleton.1 (List.mem_of_getElem? here))

/-- In the course of things there was a moment without a timer, so all that are there were set
since. -/
def AllSetSince (w v : UnderWay) : Prop :=
  ∃ m k u, w.Continues m u ∧ u.Continues k v ∧ ∀ due event, .timer due event ∉ u.service.jobs

/-- An event happened in the course of things, and was due at the beginning or set since then. -/
def Happened (w v : UnderWay) (event : Event) : Prop :=
  ∃ m k u due, w.Continues m u ∧ .timer due event ∈ u.service.jobs ∧ due ≤ u.service.now ∧
    (u.happen due event).Continues k v ∧ (due ≤ w.service.now ∨ w.AllSetSince u)

theorem Happened.later {w v u : UnderWay} {event : Event} (h : w.Happened v event) {n : Nat}
    (goes : v.Continues n u) : w.Happened u event := by
  obtain ⟨m, k, x, due, before, mem, come, after, since⟩ := h
  exact ⟨m, k + n, x, due, before, mem, come, after.trans goes, since⟩

namespace Ending

variable {w v : UnderWay} (h : w.Ending) {n : Nat} (goes : w.Continues n v)
include h goes

/-- No time passes before every timer that was there at the beginning is gone. -/
theorem now_eq_or : v.service.now = w.service.now ∨ w.AllSetSince v := by
  induction goes with
  | refl => exact .inl rfl
  | step past step ih =>
    obtain ⟨-, same, -⟩ := (h.continues past).1.step step
    rcases ih with now | ⟨m, k, u, before, after, none⟩
    · exact .inl (same.trans now)
    · exact .inr ⟨m, k + 1, u, before, after.step step, none⟩
  | @meanwhile n v s past beside ih =>
    rcases ih with now | ⟨m, k, u, before, after, none⟩
    · cases beside with
      | receives | cancels => exact .inl now
      | passes later le waits =>
        refine .inr ⟨n, 0, v, past, .meanwhile .refl (.passes later le waits), fun due event mem => ?_⟩
        cases ((h.continues past).1.moveTimer due event).symm.trans (waits due event mem)
    · exact .inr ⟨m, k, u, before, after.meanwhile beside, none⟩

omit goes in
/-- All calls were under way at the beginning, but for events that happened. -/
theorem call_origin (goes : w.Continues n v) {i : Nat}
    {e : Errand Service Call (Except GameError Reply)} (here : v.calls[i]? = some e) :
    (∃ e₀, w.calls[i]? = some e₀ ∧ e.task = e₀.task) ∨
      ∃ event, e.task = .request (.event event) ∧ w.Happened v event := by
  induction goes generalizing i e with
  | refl => exact .inl ⟨e, here, rfl⟩
  | @step n v u past step ih =>
    have earlier {i : Nat} {e : Errand Service Call (Except GameError Reply)}
        (here : v.calls[i]? = some e) :=
      (ih here).imp id (Exists.imp fun _ => And.imp id (·.later (.step .refl step)))
    cases step with
    | job | stop => exact earlier here
    | call j x there unended =>
      rcases getElem?_of_set here with old | ⟨rfl, rfl⟩
      · exact earlier old
      · rw [Errand.task_advance]
        exact earlier there
    | happens due event mem come =>
      rcases getElem?_of_snoc here with old | rfl
      · exact earlier old
      · refine .inr ⟨event, rfl, n, 0, v, due, past, mem, come, .refl, ?_⟩
        exact (h.now_eq_or past).imp come.trans_eq id
  | meanwhile past beside ih =>
    exact (ih here).imp id (Exists.imp fun _ => And.imp id (·.later (.meanwhile .refl beside)))

end Ending

/-! ## The end -/

/-- However things go on, if nothing new is asked for, they come to an end, and whatever was still to
come at the beginning does not come. -/
structure EndsWell (w : UnderWay) : Prop where
  /-- There is a bound for the steps. -/
  bounded : ∀ n v, w.Continues n v → n ≤ w.potential
  /-- What cannot go on any more is over. -/
  final : ∀ n v, w.Continues n v → (∀ u, ¬ v.Step u) → v.IsOver
  /-- At any time it can go on until it is over. -/
  ends : ∀ n v, w.Continues n v → ∃ m u, v.Continues m u ∧ u.IsOver
  /-- The books change only with the calls that were under way at the beginning, and with events that
  were due then or are set later. -/
  spared : ∀ n v u, w.Continues n v → v.Step u → u.service.books ≠ v.service.books →
    ∃ i e, v.calls[i]? = some e ∧ u = v.proceed i e ∧
      ((∃ e₀, w.calls[i]? = some e₀ ∧ e.task = e₀.task) ∨
        ∃ event, e.task = .request (.event event) ∧ w.Happened v event)

theorem Ending.endsWell {w : UnderWay} (h : w.Ending) : w.EndsWell where
  bounded n v goes := by
    have less := (h.continues goes).2
    omega
  final n v goes stuck := (h.continues goes).1.isOver stuck
  ends n v goes := (h.continues goes).1.exists_isOver
  spared n v u goes step changed := by
    obtain ⟨i, e, here, -, same⟩ := (h.continues goes).1.proceeds_of_books step changed
    exact ⟨i, e, here, same, h.call_origin goes here⟩

/-- The service is told to end, as `Service.shutdown` does before it lets all jobs go on. -/
def close (w : UnderWay) : UnderWay := { w with service := { w.service with closing := true } }

/-- Whenever the service is told to end, with whatever calls partway, it does: if all subscriptions and
readers are those of feeds that end with it, and nothing is published but in batches. It is assumed
that no time passes while a timer that is called off has still to be dropped (`Meanwhile.passes`);
otherwise such a timer could come due first. -/
theorem shutdown_ends_well (settings : RoomSettings) (books : Books) (acts : List Traffic.Act)
    (w : UnderWay) (run : w.toTraffic = Traffic.run settings books acts)
    (under_way : ∀ e ∈ w.calls, e.rest = (Call.operation e.task).after e.found)
    (owned : w.service.Owned) : w.close.EndsWell := by
  have sound : w.toTraffic.Sound := run ▸ Traffic.sound_run settings books acts
  have ending : w.close.Ending :=
    ⟨sound.calm rfl rfl rfl, owned.of_eq rfl rfl, rfl, under_way⟩
  exact ending.endsWell

/-- A batch of two notices for the only player, who reads none, and another one behind it. -/
def unread : List Traffic.Act :=
  [.connect (.subscribe "g" "reader" 0) rfl, .queue "g" [.broadcast (.left "a"), .broadcast (.left "b")],
    .queue "g" [.broadcast (.left "c")]] ++ List.replicate 5 (.step 0)

/-- The player's feed is reading, and the next turn is to begin. -/
def withFeed (s : Service) : Service :=
  (s.spawn (.feed { id := 0, game := "g", player := "reader", phase := .reading 0, kicks := true })).spawn
    (.timer 5 (.nextTurn "g"))

/-- Everything waits: the batch for the player to read, and the other one for the first. -/
def standstill : Traffic :=
  Traffic.run {} (Service.opening []).books
    (unread ++ [.elsewhere (withFeed (Traffic.run {} (Service.opening []).books unread).service)])

/-- A user is being made, and has drawn the stamp. -/
def halted : UnderWay where
  toTraffic := standstill
  calls :=
    [{ task := .request .initUser
       found := [standstill.service]
       rest := (Call.operation (.request .initUser)).after [standstill.service] }]

/-- A batch that waits for a full channel, the one behind it and a call partway come to their end all
the same. -/
theorem halted_ends_well : standstill.service.hub.isFull 0 = true ∧
    (standstill.service.batches.map fun b =>
      (standstill.service.without (.batch b)).isReady (.batch b)) = [false, false] ∧
    (halted.calls.map fun e => e.result?.isNone) = [true] ∧ halted.close.EndsWell := by
  refine ⟨by decide +kernel, by decide +kernel, by decide +kernel,
    shutdown_ends_well _ _ _ halted rfl ?_ ⟨?_, ?_, ?_, ?_⟩⟩
  · intro e mem
    rw [List.mem_singleton.1 mem]
  · show ∀ f ∈ standstill.service.feeds, f.tied = true
    decide +kernel
  · show ∀ x ∈ standstill.service.hub.subscriptions, ∃ f ∈ standstill.service.feeds, f.Holds x
    decide +kernel
  · show standstill.service.hub.readers.Subperm
      (standstill.service.feeds.filterMap (·.phase.channel?))
    decide +kernel
  · have apart : ∀ j ∈ standstill.service.jobs, (match j with
        | .delivery _ => false
        | _ => true) = true := by decide +kernel
    exact fun id mem => Bool.false_ne_true (apart _ mem)

end UnderWay

end GuessingRoom
