import Mathlib.Algebra.Order.BigOperators.Group.List
import GuessingRoom.Proofs.LiveTraffic
import GuessingRoom.Proofs.PublishLaw
import GuessingRoom.Proofs.RoomCapacity

/-!
# How much is left to do

Calls, batches, feeds and timers are under way in a service that has been told to end, and nothing
new is asked of it. Whatever takes a step (`UnderWay.Step`) uses up some of a potential: a feed goes
from phase to phase, a notice that begins to go out has only so many channels before it, a notice
that is read is gone, and a step of a call gives rise to a batch of three notices or to a turn at most.
-/

namespace GuessingRoom

open Hub (Happening)

/-- A service with its traffic, and the calls that were ever begun. -/
structure UnderWay extends Traffic where
  calls : List (Errand Service Call (Except GameError Reply)) := []

/-- What the next step of a job comes to in the hub. -/
def Service.jobHappenings (s : Service) : Job → List Happening
  | .batch b => s.happenings b
  | .feed f => s.feedHappenings f
  | _ => []

namespace UnderWay

/-- A call takes its next step, by which it may queue notices. -/
def proceed (w : UnderWay) (i : Nat) (e : Errand Service Call (Except GameError Reply)) : UnderWay :=
  { w with
    service := (e.advance w.service).1
    queued := w.queued ++ (e.advance w.service).1.batches.drop w.service.batches.length
    calls := w.calls.set i (e.advance w.service).2 }

/-- A timer is due, and its event happens as a call of its own. -/
def happen (w : UnderWay) (due : Nat) (event : Event) : UnderWay :=
  { w with
    service := w.service.without (.timer due event)
    calls := w.calls ++
      [{ task := .request (.event event), rest := Call.operation (.request (.event event)) }] }

/-- Something that is under way goes on. -/
inductive Step (w : UnderWay) : UnderWay → Prop where
  | call (i : Nat) (e : Errand Service Call (Except GameError Reply)) (here : w.calls[i]? = some e)
    (unended : e.result? = none) : Step w (w.proceed i e)
  | job (j : Job) (mem : j ∈ w.service.jobs) (goes : (w.service.without j).move j ≠ .waiting) :
    Step w { w with
      toTraffic := w.follow ((w.service.without j).jobHappenings j) ((w.service.without j).move j) }
  /-- A feed that has been told to end stops reading, whether or not there is more to read. -/
  | stop (f : Feed) (c : ChannelId) (mem : f ∈ w.service.feeds) (reading : f.phase = .reading c)
    (told : w.service.stops f = true) :
    Step w { w with
      service := (w.service.without (.feed f)).spawn (.feed { f with phase := .leaving c }) }
  /-- The time of an event has come, and it happens even if the service has been told to end. -/
  | happens (due : Nat) (event : Event) (mem : .timer due event ∈ w.service.jobs)
    (come : due ≤ w.service.now) : Step w (w.happen due event)

end UnderWay

/-! ## Weights -/

def Job.opens : Job → Bool
  | feed f => f.phase = .opening
  | _ => false

/-- How many channels a notice may have to go to that begins to go out from now on, if no feed is
opened. -/
def Service.audience (s : Service) : Nat :=
  s.hub.subscriptions.length + s.jobs.countP Job.opens

def FeedPhase.weight : FeedPhase → Nat
  | opening => 4
  | reading _ => 3
  | leaving _ => 2
  | closing _ => 1

/-- What a step of a call may give rise to: a batch of three notices, or a timer for the next turn. -/
def strideWeight (reach : Nat) : Nat := 12 * reach + 20

/-- The next turn takes two steps, and a kick not more than any call. -/
def Event.weight (reach : Nat) : Event → Nat
  | nextTurn _ => 3
  | kick .. => 7 * strideWeight reach + 1

/-- What a job may have to do, if an event that is waited for is counted at its price. -/
def Job.weight (price : Event → Nat) (reach : Nat) : Job → Nat
  | batch b => 2 * b.stepsWith reach
  | delivery _ => 0
  | feed f => f.phase.weight + price (.kick f.game f.player)
  | timer _ event => price event

/-- A step of a delivery counts twice, since it may leave a notice to be read. -/
def Hub.weight (h : Hub) : Nat := 2 * h.steps + h.slots.length

def Service.weight (price : Event → Nat) (reach : Nat) (s : Service) : Nat :=
  (s.jobs.map (Job.weight price reach)).sum + s.hub.weight

def Errand.weight (reach : Nat) (e : Errand Service Call (Except GameError Reply)) : Nat :=
  match e.task with
  | .request (.event (.nextTurn _)) => 2 - e.found.length
  | _ => (7 - e.found.length) * strideWeight reach

/-- A bound for the steps that are still to be taken. -/
def UnderWay.potential (w : UnderWay) : Nat :=
  w.service.weight (Event.weight w.service.audience) w.service.audience +
    (w.calls.map (Errand.weight w.service.audience)).sum

theorem strideWeight_mono {m n : Nat} (h : m ≤ n) : strideWeight m ≤ strideWeight n := by
  unfold strideWeight
  omega

theorem Event.weight_mono {m n : Nat} (h : m ≤ n) (event : Event) :
    event.weight m ≤ event.weight n := by
  have more := strideWeight_mono h
  cases event with
  | nextTurn game => exact le_rfl
  | kick game user => exact Nat.succ_le_succ (Nat.mul_le_mul_left 7 more)

theorem Batch.stepsWith_mono {m n : Nat} (h : m ≤ n) (b : Batch) : b.stepsWith m ≤ b.stepsWith n := by
  have more : b.items.length * (2 * m + 2) ≤ b.items.length * (2 * n + 2) :=
    Nat.mul_le_mul_left _ (by omega)
  unfold stepsWith
  omega

theorem Job.weight_mono {m n : Nat} (h : m ≤ n) (j : Job) :
    j.weight (Event.weight m) m ≤ j.weight (Event.weight n) n := by
  cases j with
  | batch b => exact Nat.mul_le_mul_left 2 (b.stepsWith_mono h)
  | delivery id => exact le_rfl
  | feed f => exact Nat.add_le_add_left (Event.weight_mono h _) _
  | timer due event => exact event.weight_mono h

theorem Errand.weight_mono {m n : Nat} (h : m ≤ n)
    (e : Errand Service Call (Except GameError Reply)) : e.weight m ≤ e.weight n := by
  unfold weight
  split
  · exact le_rfl
  · exact Nat.mul_le_mul_left _ (strideWeight_mono h)

theorem Service.weight_mono {m n : Nat} (h : m ≤ n) (s : Service) :
    s.weight (Event.weight m) m ≤ s.weight (Event.weight n) n :=
  Nat.add_le_add_right (List.sum_le_sum fun j _ => j.weight_mono h) _

/-- If less is left to do for the service and for the calls, and no more channels may be gone to, then
some of the potential has been used up. -/
theorem UnderWay.potential_lt {w w' : UnderWay} {reach : Nat} (same : w.service.audience = reach)
    (few : w'.service.audience ≤ reach)
    (less : w'.service.weight (Event.weight reach) reach +
        (w'.calls.map (Errand.weight reach)).sum <
      w.service.weight (Event.weight reach) reach + (w.calls.map (Errand.weight reach)).sum) :
    w'.potential < w.potential := by
  subst same
  refine lt_of_le_of_lt (Nat.add_le_add (Service.weight_mono few _) ?_) less
  exact List.sum_le_sum fun e _ => e.weight_mono few

/-! ## The steps of jobs -/

namespace Service

variable {price : Event → Nat} {s t : Service} {j : Job}

/-- Less is left to do, and notices have no more channels to go to. -/
def Eases (price : Event → Nat) (s t : Service) : Prop :=
  t.audience ≤ s.audience ∧ t.weight price s.audience < s.weight price s.audience

theorem weight_erase (price : Event → Nat) (reach : Nat) (mem : j ∈ s.jobs) :
    s.weight price reach = (s.without j).weight price reach + j.weight price reach := by
  have whole := ((List.perm_cons_erase mem).map (Job.weight price reach)).sum_nat
  show (s.jobs.map (Job.weight price reach)).sum + s.hub.weight =
    ((s.jobs.erase j).map (Job.weight price reach)).sum + s.hub.weight + j.weight price reach
  rw [whole, List.map_cons, List.sum_cons]
  omega

theorem audience_erase (mem : j ∈ s.jobs) :
    s.audience = (s.without j).audience + [j].countP Job.opens := by
  have whole := (List.perm_cons_erase mem).countP_eq Job.opens
  show s.hub.subscriptions.length + s.jobs.countP Job.opens =
    s.hub.subscriptions.length + (s.jobs.erase j).countP Job.opens + [j].countP Job.opens
  rw [whole, List.countP_cons, List.countP_singleton]
  omega

theorem weight_spawn (price : Event → Nat) (reach : Nat) (s : Service) (j : Job) :
    (s.spawn j).weight price reach = s.weight price reach + j.weight price reach := by
  unfold weight spawn
  rw [List.map_append, List.sum_append, List.map_singleton, List.sum_singleton]
  exact Nat.add_right_comm _ _ _

theorem audience_spawn (s : Service) (j : Job) :
    (s.spawn j).audience = s.audience + [j].countP Job.opens := by
  unfold audience spawn
  rw [List.countP_append]
  exact (Nat.add_assoc _ _ _).symm

/-- What has to be seen to when a job has become others. -/
theorem eases_of_jobs (hub : Hub) (new : List Job) (mem : j ∈ s.jobs) (same : t.hub = hub)
    (jobs : t.jobs = s.jobs.erase j ++ new)
    (audience : hub.subscriptions.length + new.countP Job.opens ≤
      s.hub.subscriptions.length + [j].countP Job.opens)
    (less : (new.map (Job.weight price s.audience)).sum + hub.weight <
      j.weight price s.audience + s.hub.weight) : s.Eases price t := by
  have before := audience_erase mem
  have heavy := weight_erase price s.audience mem
  have after : t.audience = hub.subscriptions.length + ((s.without j).jobs ++ new).countP Job.opens :=
    congrArg₂ (fun h l => h.subscriptions.length + l.countP Job.opens) same jobs
  have light : t.weight price s.audience =
      (((s.without j).jobs ++ new).map (Job.weight price s.audience)).sum + hub.weight :=
    congrArg₂ (fun h l => (l.map (Job.weight price s.audience)).sum + h.weight) same jobs
  rw [List.countP_append] at after
  rw [List.map_append, List.sum_append] at light
  have kept : (s.without j).audience =
    s.hub.subscriptions.length + (s.without j).jobs.countP Job.opens := rfl
  have left : (s.without j).weight price s.audience =
    ((s.without j).jobs.map (Job.weight price s.audience)).sum + s.hub.weight := rfl
  exact ⟨by omega, by omega⟩

end Service

namespace Hub

variable {h : Hub} {log : List Happening} (s : Sound h log) {d : Delivery} (mem : d ∈ h.deliveries)
  {now : Nat} {after : Hub}
include s mem

/-- A delivery that goes on leaves one more notice to be read at most. -/
theorem Sound.weight_of_going (step : h.advance d now = .going after) :
    after.weight < h.weight ∧ after.subscriptions.length = h.subscriptions.length := by
  obtain ⟨less, same⟩ := s.steps_of_going mem step
  have more : after.slots.length ≤ h.slots.length + 1 := by
    have moved := advanced h d now
    rw [step] at moved
    cases moved with
    | goes t id _ _ _ _ _ _ goes =>
      cases goes with
      | notes => exact Nat.le_succ _
      | takes c => exact (List.length_append ..).le
      | passes => exact Nat.le_succ _
  refine ⟨?_, same⟩
  unfold weight
  omega

theorem Sound.weight_of_finished {count : Nat} (step : h.advance d now = .finished count after) :
    after.weight < h.weight ∧ after.subscriptions.length = h.subscriptions.length := by
  obtain ⟨less, same⟩ := s.steps_of_finished mem step
  have slots : after.slots = h.slots := by
    have moved := advanced h d now
    rw [step] at moved
    cases moved with
    | ends => rfl
  refine ⟨?_, same⟩
  unfold weight
  rw [slots]
  omega

end Hub

namespace Hub

theorem weight_publish_le (h : Hub) (game : Id) (excluded : Option Id) (n : Notice) :
    (h.publish game excluded n).2.weight ≤ h.weight + (4 * h.subscriptions.length + 2) := by
  have few := h.steps_publish_le game excluded n
  have same : (h.publish game excluded n).2.slots = h.slots := rfl
  unfold weight
  rw [same]
  omega

/-- A feed that connects has the hub do nothing, and no more than one player is connected anew. -/
theorem weight_subscribe (h : Hub) (game player : Id) (now : Nat) :
    (h.subscribe game player now).2.weight = h.weight ∧
      (h.subscribe game player now).2.subscriptions.length ≤ h.subscriptions.length + 1 := by
  unfold subscribe
  split
  · exact ⟨rfl, Nat.le_succ _⟩
  · exact ⟨rfl, (List.length_append ..).le⟩

/-- A notice that has been read is gone. -/
theorem weight_receive {h after : Hub} {c : ChannelId} {n : Notice}
    (got : h.receive c = (.notice n, after)) : after.weight < h.weight := by
  obtain ⟨slot, found, -, rfl⟩ := exists_slot_of_receive got
  have here : ¬ (slot.channel != c) = true := by simpa using List.find?_some found
  have fewer : (h.slots.filter (·.channel != c)).length < h.slots.length :=
    List.length_filter_lt_length_iff_exists.2 ⟨slot, List.mem_of_find?_eq_some found, here⟩
  exact Nat.add_lt_add_left fewer (2 * h.steps)

end Hub

namespace Traffic

variable {price : Event → Nat} {t : Traffic} {move : Job.Move} {hs : List Happening}

/-- Whatever a batch does uses something up. -/
theorem Sound.eases_batch (s : t.Sound) {b : Batch} (mem : b ∈ t.service.batches)
    (moves : (t.service.without (.batch b)).BatchMoves b move hs) (goes : move ≠ .waiting) :
    t.service.Eases price (t.follow hs move).service := by
  have there := Service.mem_batches.1 mem
  cases moves with
  | follows | waits => exact absurd rfl goes
  | leaves done =>
    refine Service.eases_of_jobs t.service.hub [] there rfl (List.append_nil _).symm le_rfl ?_
    simp [Job.weight, Batch.stepsWith, done]
  | goes d undone delivery found hub step =>
    obtain ⟨less, same⟩ := s.turns.sound.weight_of_going (Hub.mem_of_delivery? found).1 step
    exact Service.eases_of_jobs hub [_] there rfl rfl same.le (Nat.add_lt_add_left less _)
  | delivers d undone delivery found count hub step =>
    obtain ⟨less, same⟩ := s.turns.sound.weight_of_finished (Hub.mem_of_delivery? found).1 step
    exact Service.eases_of_jobs hub [_] there rfl rfl same.le (Nat.add_lt_add_left less _)
  | misses id undone delivery gone => exact absurd gone (s.found_of_delivery mem delivery)
  | ends undone idle free items =>
    refine Service.eases_of_jobs t.service.hub [_] there rfl rfl le_rfl ?_
    simp [Job.weight, Batch.stepsWith, undone]
  | begins item items undone idle free begins =>
    have few := t.service.hub.weight_publish_le b.game item.excluded item.notice
    have reach : t.service.hub.subscriptions.length ≤ t.service.audience := Nat.le_add_right ..
    refine Service.eases_of_jobs (t.service.hub.publish b.game item.excluded item.notice).2 [_] there
      rfl rfl le_rfl ?_
    simp only [List.map_singleton, List.sum_singleton, Job.weight, Batch.stepsWith, begins,
      List.length_cons, Nat.add_mul, Nat.one_mul]
    omega

/-- Whatever a feed does uses something up, be it only that it is nearer to its end. -/
theorem eases_feed {f : Feed} (mem : f ∈ t.service.feeds)
    (steps : (t.service.without (.feed f)).FeedSteps f move hs) (goes : move ≠ .waiting) :
    t.service.Eases price (t.follow hs move).service := by
  have there := Service.mem_feeds.1 mem
  cases steps with
  | waits => exact absurd rfl goes
  | connects opening =>
    obtain ⟨same, one⟩ := t.service.hub.weight_subscribe f.game f.player t.service.now
    refine Service.eases_of_jobs (t.service.hub.subscribe f.game f.player t.service.now).2 [_] there
      rfl rfl ?_ ?_
    · simpa [Job.opens, opening] using one
    · simp [Job.weight, FeedPhase.weight, opening, same]
  | reads c n hub reading got result u handed =>
    obtain ⟨inboxes, e⟩ := Service.exists_handOn_eq { t.service.without (.feed f) with hub } f n
    rw [handed] at e
    obtain rfl : u = _ := e
    obtain ⟨slot, -, -, same⟩ := Hub.exists_slot_of_receive got
    have less : hub.weight < t.service.hub.weight := Hub.weight_receive got
    refine Service.eases_of_jobs hub [_] there rfl rfl ?_ ?_
    · cases result <;> simp [Job.opens, Feed.handedOn, reading, same, Service.without]
    · cases result <;> simp [Job.weight, FeedPhase.weight, Feed.handedOn, reading] <;>
        omega
  | quits c reading =>
    refine Service.eases_of_jobs t.service.hub [_] there rfl rfl ?_ ?_
    · simp [Job.opens]
    · simp [Job.weight, FeedPhase.weight, reading]
  | leaves c leaving =>
    refine Service.eases_of_jobs (t.service.hub.unsubscribe f.player) [_] there rfl rfl ?_ ?_
    · have fewer : (t.service.hub.unsubscribe f.player).subscriptions.length ≤
          t.service.hub.subscriptions.length := List.length_filter_le ..
      simpa [Job.opens, leaving] using fewer
    · have same : (t.service.hub.unsubscribe f.player).weight = t.service.hub.weight := rfl
      simp [Job.weight, FeedPhase.weight, leaving, same]
  | ends c closing inboxes jobs closed kick =>
    have same : (t.service.hub.release c).weight = t.service.hub.weight := rfl
    have as_many : (t.service.hub.release c).subscriptions = t.service.hub.subscriptions := rfl
    rcases kick with rfl | ⟨due, rfl⟩
    · refine Service.eases_of_jobs (t.service.hub.release c) [] there rfl
        (List.append_nil _).symm ?_ ?_
      · simp [as_many]
      · simp [Job.weight, FeedPhase.weight, closing, same]
    · refine Service.eases_of_jobs (t.service.hub.release c) [_] there rfl rfl ?_ ?_
      · simp [Job.opens, as_many]
      · simp [Job.weight, FeedPhase.weight, closing, same]

end Traffic

/-- A feed that stops reading is nearer to its end as well. -/
theorem Service.eases_stop {price : Event → Nat} {s : Service} {f : Feed} (mem : f ∈ s.feeds)
    {c : ChannelId} (reading : f.phase = .reading c) :
    s.Eases price ((s.without (.feed f)).spawn (.feed { f with phase := .leaving c })) := by
  refine eases_of_jobs s.hub [_] (mem_feeds.1 mem) rfl rfl ?_ ?_
  · simp [Job.opens]
  · simp [Job.weight, FeedPhase.weight, reading]

theorem Service.eases_timer {price : Event → Nat} {s : Service} {due : Nat} {event : Event}
    (mem : .timer due event ∈ s.jobs) (worth : 0 < price event) :
    s.Eases price (s.without (.timer due event)) := by
  refine eases_of_jobs s.hub [] mem rfl (List.append_nil _).symm ?_ ?_
  · simp
  · exact Nat.add_lt_add_right worth _

theorem Event.weight_pos (reach : Nat) (event : Event) : 0 < event.weight reach := by
  cases event <;> exact Nat.succ_pos _

/-! ## The steps of calls -/

theorem Call.atMost (c : Call) : Script.AtMost 7 c.operation := by
  have look (game viewer : Id) : Script.AtMost 7 (Operation.view game viewer) :=
    (Operation.atMost_view game viewer).mono (by decide)
  cases c with
  | request r => exact Operation.atMost_map r.atMost _
  | leaderboard game viewer => exact Operation.atMost_map (Operation.atMost_map (look game viewer) _) _
  | word game viewer => exact Operation.atMost_map (Operation.atMost_map (look game viewer) _) _

namespace Service.Stride

variable {kicks : Id → Id → Prop} {s t : Service}

theorem audience (h : s.Stride kicks t) : t.audience = s.audience := by
  cases h with
  | works => rfl
  | queues game items => exact audience_spawn ..
  | schedules delay game => exact audience_spawn ..

/-- What a step of a call gives rise to. -/
theorem weight_lt (h : s.Stride kicks t) (reach : Nat) :
    t.weight (Event.weight reach) reach < s.weight (Event.weight reach) reach + strideWeight reach := by
  cases h with
  | works => exact Nat.lt_add_of_pos_right (Nat.succ_pos _)
  | queues game items few =>
    have most : items.length * (2 * reach + 2) ≤ 3 * (2 * reach + 2) := Nat.mul_le_mul_right _ few
    have spawned : (s.publishLater game items).weight (Event.weight reach) reach =
        s.weight (Event.weight reach) reach + 2 * (2 + items.length * (2 * reach + 2)) :=
      weight_spawn ..
    unfold strideWeight
    omega
  | schedules delay game =>
    have spawned : (s.schedule delay (.nextTurn game)).weight (Event.weight reach) reach =
        s.weight (Event.weight reach) reach + 3 := weight_spawn ..
    unfold strideWeight
    omega

end Service.Stride

namespace Errand

variable {task : Call} {found : List Service} {effect : Service → Service}
  {next : Service → Script Service (Except GameError Reply)}
  (under_way : .step effect next = (Call.operation task).after found)
include under_way

/-- A call that has a step left takes it at the cost of what is left to do for the call. -/
theorem weight_next (reach : Nat) (s : Service) : (effect s).audience = s.audience ∧
    (effect s).weight (Event.weight reach) reach + weight reach ⟨task, found ++ [s], next s⟩ <
      s.weight (Event.weight reach) reach + weight reach ⟨task, found, .step effect next⟩ := by
  by_cases turn : ∃ game, task = .request (.event (.nextTurn game))
  · obtain ⟨game, rfl⟩ := turn
    obtain ⟨few, works⟩ := Request.nextTurn_works game
    have few : Script.AtMost (2 - found.length) (.step effect next : Script Service _) := by
      rw [under_way]
      exact (Operation.atMost_map few _).after found
    have works : Script.Along (fun s t : Service => ∃ books, t = { s with books })
        (.step effect next : Script Service (Except GameError Reply)) := by
      rw [under_way]
      have replies := Operation.steps_bind (k := fun a => pure (Reply.answer a)) works fun _ => trivial
      exact Script.Along.after replies found
    obtain ⟨books, same⟩ := (works s).1
    have left := few.pos
    rw [same]
    refine ⟨rfl, Nat.add_lt_add_left ?_ _⟩
    simp only [weight, List.length_append, List.length_singleton]
    omega
  · have few : Script.AtMost (7 - found.length) (.step effect next : Script Service _) := by
      rw [under_way]
      exact task.atMost.after found
    have strides : Script.Along (fun s t : Service => s.Stride task.Kicks t)
        (.step effect next : Script Service (Except GameError Reply)) := by
      rw [under_way]
      exact task.strides.after found
    have stride := (strides s).1
    have before (rest : Script Service (Except GameError Reply)) (found : List Service) :
        weight reach ⟨task, found, rest⟩ = (7 - found.length) * strideWeight reach := by
      unfold weight
      split
      · rename_i game same
        exact absurd ⟨game, same⟩ turn
      · rfl
    have one_less : 7 - found.length = 7 - (found ++ [s]).length + 1 := by
      have left := few.pos
      rw [List.length_append, List.length_singleton]
      omega
    have less := stride.weight_lt reach
    rw [before, before, one_less, Nat.succ_mul]
    exact ⟨stride.audience, by omega⟩

end Errand

/-! ## What a step uses up -/

namespace UnderWay

variable {w w' : UnderWay}

theorem potential_lt_of_eases
    (eases : w.service.Eases (Event.weight w.service.audience) w'.service)
    (calls : w'.calls = w.calls) : w'.potential < w.potential := by
  refine potential_lt rfl eases.1 ?_
  rw [calls]
  exact Nat.add_lt_add_right eases.2 _

theorem potential_proceed {i : Nat} {e : Errand Service Call (Except GameError Reply)}
    (here : w.calls[i]? = some e) (under_way : e.rest = (Call.operation e.task).after e.found)
    (unended : e.result? = none) : (w.proceed i e).potential < w.potential := by
  obtain ⟨task, found, a | ⟨effect, next⟩⟩ := e
  · cases unended
  · have under_way : .step effect next = (Call.operation task).after found := under_way
    obtain ⟨same, less⟩ := Errand.weight_next under_way w.service.audience w.service
    refine potential_lt rfl same.le ?_
    obtain ⟨lt, there⟩ := List.getElem?_eq_some_iff.1 here
    obtain ⟨before, after, split, -, changed⟩ := List.exists_of_set lt
    show (effect w.service).weight _ w.service.audience +
      ((w.calls.set i ⟨task, found ++ [w.service], next w.service⟩).map _).sum < _
    rw [changed, split, there]
    simp only [List.map_append, List.map_cons, List.sum_append, List.sum_cons]
    omega

theorem potential_happen {due : Nat} {event : Event} (mem : .timer due event ∈ w.service.jobs) :
    (w.happen due event).potential < w.potential := by
  refine potential_lt rfl (Service.eases_timer mem (event.weight_pos 0)).1 ?_
  have lighter := Service.weight_erase (Event.weight w.service.audience) w.service.audience mem
  have begun : Errand.weight w.service.audience
      { task := .request (.event event), rest := Call.operation (.request (.event event)) } <
        (Job.timer due event).weight (Event.weight w.service.audience) w.service.audience := by
    cases event <;> simp [Errand.weight, Job.weight, Event.weight]
  show (w.service.without (.timer due event)).weight _ _ + ((w.calls ++ [_]).map _).sum < _
  rw [List.map_append, List.sum_append, List.map_singleton, List.sum_singleton]
  omega

end UnderWay

end GuessingRoom
