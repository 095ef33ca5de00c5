import GuessingRoom.Proofs.Course
import GuessingRoom.Proofs.Hearing
import GuessingRoom.Proofs.PublishLine

/-!
# The order of publication

Nothing is published but in batches. They are queued for any number of games, and go out by steps
of their own between which everything else may happen: other batches are queued or take their steps,
players connect and leave, readers read. The invariant `Traffic.Sound` ties the batches to what was
queued and to what happened in the hub: what began to go out to a game, and then what its batches
have still to begin with, is what was queued for it.
-/

namespace GuessingRoom

def Job.batch? : Job → Option Batch
  | .batch b => some b
  | _ => none

namespace Service

/-- The batches that have not left the queue. -/
def batches (s : Service) : List Batch := s.jobs.filterMap Job.batch?

/-- A batch takes a step, if it can, and is then behind all other jobs. -/
def stepBatch (s : Service) (b : Batch) : Service :=
  match (s.without (.batch b)).moveBatch b with
  | .waiting => s
  | .going t j => t.spawn j
  | .ended t => t

/-- What the next step of a batch does to the hub, if anything. -/
def hubAct? (s : Service) (b : Batch) : Option Hub.Act :=
  if b.done then none
  else match b.delivery with
    | some id => some (.advance id s.now)
    | none =>
      if b.previous.any s.isPublishing then none
      else b.items.head?.map fun item => .publish b.game item.excluded item.notice

/-- What the next step of a batch comes to in the hub. -/
def happenings (s : Service) (b : Batch) : List Hub.Happening :=
  match s.hubAct? b with
  | some a => (s.hub.act a).2
  | none => []

end Service

/-- A service, all that happened to its hub, and the batches as they were queued. -/
structure Traffic where
  service : Service
  log : List Hub.Happening := []
  queued : List Batch := []

namespace Traffic

inductive Act where
  | queue (game : Id) (items : List Outgoing)
  /-- The batch of the given number takes a step. -/
  | step (number : Nat)
  /-- Someone connects, leaves, reads, or copies or gives up a reader. -/
  | connect (a : Hub.Act) (connection : a.isConnection = true)
  /-- Something goes on that has nothing to do with notices, after which the service is otherwise
  as given. -/
  | elsewhere (other : Service)

def act (t : Traffic) : Act → Traffic
  | .queue game items =>
    { t with
      service := t.service.publishLater game items
      queued := t.queued ++ [(t.service.queue.push game items).1] }
  | .step number =>
    match t.service.batches.find? (·.number == number) with
    | some b =>
      { t with
        service := t.service.stepBatch b
        log := t.log ++ (t.service.without (.batch b)).happenings b }
    | none => t
  | .connect a _ =>
    { t with
      service := { t.service with hub := (t.service.hub.act a).1 }
      log := t.log ++ (t.service.hub.act a).2 }
  | .elsewhere other =>
    if other.batches = t.service.batches then
      { t with service := { other with hub := t.service.hub, queue := t.service.queue } }
    else t

/-- What comes of a new service by the acts, one after another. -/
def run (settings : RoomSettings) (books : Books) (acts : List Act) : Traffic :=
  acts.foldl act { service := { settings, books } }

end Traffic

/-! ## The step of a batch -/

namespace Service

open Hub (Happening)

theorem mem_batches {s : Service} {b : Batch} : b ∈ s.batches ↔ .batch b ∈ s.jobs := by
  unfold batches
  rw [List.mem_filterMap]
  constructor
  · rintro ⟨j, mem, e⟩
    cases j <;> cases e
    exact mem
  · exact fun mem => ⟨_, mem, rfl⟩

theorem batches_spawn (s : Service) (b : Batch) :
    (s.spawn (.batch b)).batches = s.batches ++ [b] := by
  unfold batches spawn
  rw [List.filterMap_append]
  rfl

theorem batches_publishLater (s : Service) (game : Id) (items : List Outgoing) :
    (s.publishLater game items).batches = s.batches ++ [(s.queue.push game items).1] :=
  batches_spawn _ _

theorem batches_without (s : Service) (b : Batch) :
    (s.without (.batch b)).batches = s.batches.erase b := by
  have here : Job.batch? (.batch b) = some b := rfl
  refine filterMap_erase_of_some s.jobs here fun j e => ?_
  cases j <;> cases e
  rfl

theorem isPublishing_iff {s : Service} {number : Nat} :
    s.isPublishing number = true ↔ ∃ b ∈ s.batches, b.number = number ∧ b.done = false := by
  unfold isPublishing
  rw [List.any_eq_true]
  constructor
  · rintro ⟨j, mem, e⟩
    cases j with
    | batch b => exact ⟨b, mem_batches.2 mem, by simpa using e⟩
    | _ => cases e
  · rintro ⟨b, mem, number, undone⟩
    exact ⟨_, mem_batches.1 mem, by simp [number, undone]⟩

/-- What a batch does, and what that comes to in the hub. -/
inductive BatchMoves (s : Service) (b : Batch) : Job.Move → List Happening → Prop where
  | follows (p : Nat) (undone : b.done = false) (idle : b.delivery = none)
    (previous : b.previous = some p) (open_ : s.isPublishing p = true) :
    BatchMoves s b .waiting []
  | waits (d : Delivery) (undone : b.done = false) (delivery : b.delivery = some d.id)
    (mem : d ∈ s.hub.deliveries) (step : s.hub.advance d s.now = .waiting) :
    BatchMoves s b .waiting []
  | goes (d : Delivery) (undone : b.done = false) (delivery : b.delivery = some d.id)
    (found : s.hub.delivery? d.id = some d) (hub : Hub)
    (step : s.hub.advance d s.now = .going hub) :
    BatchMoves s b (.going { s with hub } (.batch b)) (s.hub.act (.advance d.id s.now)).2
  | delivers (d : Delivery) (undone : b.done = false) (delivery : b.delivery = some d.id)
    (found : s.hub.delivery? d.id = some d) (count : Nat) (hub : Hub)
    (step : s.hub.advance d s.now = .finished count hub) :
    BatchMoves s b (.going { s with hub } (.batch { b with delivery := none }))
      (s.hub.act (.advance d.id s.now)).2
  | misses (id : Nat) (undone : b.done = false) (delivery : b.delivery = some id)
    (gone : s.hub.delivery? id = none) :
    BatchMoves s b (.going s (.batch { b with delivery := none })) []
  | ends (undone : b.done = false) (idle : b.delivery = none)
    (free : ∀ p, b.previous = some p → s.isPublishing p = false) (items : b.items = []) :
    BatchMoves s b (.going s (.batch { b with done := true })) []
  | begins (item : Outgoing) (items : List Outgoing) (undone : b.done = false)
    (idle : b.delivery = none) (free : ∀ p, b.previous = some p → s.isPublishing p = false)
    (begins : b.items = item :: items) :
    BatchMoves s b
      (.going { s with hub := (s.hub.publish b.game item.excluded item.notice).2 }
        (.batch { b with items, delivery := some s.hub.nextDelivery, previous := none }))
      (s.hub.act (.publish b.game item.excluded item.notice)).2
  | leaves (done : b.done = true) :
    BatchMoves s b (.ended { s with queue := s.queue.leave b }) []

theorem batchMoves (s : Service) (b : Batch) : BatchMoves s b (s.moveBatch b) (s.happenings b) := by
  obtain ⟨game, number, previous, items, delivery, done⟩ := b
  unfold moveBatch happenings hubAct?
  cases done with
  | true => exact .leaves rfl
  | false =>
    cases delivery with
    | none =>
      by_cases blocked : previous.any s.isPublishing = true
      · obtain ⟨p, previous, open_⟩ := (Option.any_eq_true _ _).1 blocked
        simp only [blocked, if_true, Bool.false_eq_true, if_false]
        exact .follows p rfl rfl previous open_
      · have free : ∀ p, previous = some p → s.isPublishing p = false := by
          rintro p rfl
          simpa using blocked
        simp only [blocked, Bool.false_eq_true, if_false]
        cases items with
        | nil => exact .ends rfl rfl free rfl
        | cons item items => exact .begins item items rfl rfl free rfl
    | some id =>
      simp only [Bool.false_eq_true, if_false]
      unfold advanceDelivery
      rcases found : s.hub.delivery? id with _ | d
      · rw [Hub.act_advance_of_none found]
        exact .misses id rfl rfl found
      · obtain ⟨mem, rfl⟩ := Hub.mem_of_delivery? found
        dsimp only
        rcases step : s.hub.advance d s.now with _ | hub | ⟨count, hub⟩
        · rw [Hub.act_advance found, step]
          exact .waits d rfl rfl mem step
        · exact .goes d rfl rfl found hub step
        · exact .delivers d rfl rfl found count hub step

/-- By the step of a batch the hub is as it was, or a delivery has begun or gone on. -/
theorem hub_stepBatch (s : Service) (b : Batch) : (s.stepBatch b).hub = s.hub ∨
    ∃ a : Hub.Act, a.isConnection = false ∧ (s.stepBatch b).hub = (s.hub.act a).1 := by
  have moves := (s.without (.batch b)).batchMoves b
  unfold stepBatch
  generalize (s.without (.batch b)).moveBatch b = move,
    (s.without (.batch b)).happenings b = hs at moves
  cases moves with
  | follows | waits | misses | ends | leaves => exact .inl rfl
  | goes d undone delivery found hub step =>
    refine .inr ⟨.advance d.id s.now, rfl, ?_⟩
    have found : s.hub.delivery? d.id = some d := found
    have step : s.hub.advance d s.now = .going hub := step
    rw [Hub.act_advance found, step]
    rfl
  | delivers d undone delivery found count hub step =>
    refine .inr ⟨.advance d.id s.now, rfl, ?_⟩
    have found : s.hub.delivery? d.id = some d := found
    have step : s.hub.advance d s.now = .finished count hub := step
    rw [Hub.act_advance found, step]
    rfl
  | begins item => exact .inr ⟨.publish b.game item.excluded item.notice, rfl, rfl⟩

end Service

/-! ## Batches and deliveries -/

namespace PublishQueue

/-- The deliveries under way are of the batches' items, each of one batch. -/
structure AtWork (batches : List Batch) (places : List (Nat × Id)) : Prop where
  under_way : ∀ b ∈ batches, ∀ id, b.delivery = some id → (id, b.game) ∈ places
  owned : ∀ p ∈ places, ∃ b ∈ batches, b.delivery = some p.1 ∧ b.game = p.2

namespace AtWork

variable {queue : PublishQueue} {queued batches : List Batch} {places : List (Nat × Id)}
  (w : AtWork batches places) (line : InLine queue queued batches) {b b' : Batch}

include w

theorem push (idle : b.delivery = none) : AtWork (batches ++ [b]) places where
  under_way x there id delivery := by
    rcases mem_snoc.1 there with old | rfl
    · exact w.under_way x old id delivery
    · rw [idle] at delivery
      cases delivery
  owned p mem := by
    obtain ⟨x, there, own⟩ := w.owned p mem
    exact ⟨x, mem_snoc.2 (.inl there), own⟩

theorem leave (idle : b.delivery = none) : AtWork (batches.erase b) places where
  under_way x there := w.under_way x (List.mem_of_mem_erase there)
  owned p mem := by
    obtain ⟨x, there, own⟩ := w.owned p mem
    refine ⟨x, (List.mem_erase_of_ne ?_).2 there, own⟩
    rintro rfl
    rw [idle] at own
    cases own.1

include line

/-- A batch does something without another delivery. -/
theorem keep (mem : b ∈ batches) (game : b'.game = b.game) (same : b'.delivery = b.delivery) :
    AtWork (batches.erase b ++ [b']) places where
  under_way x there id delivery := by
    rcases (line.mem_stepped mem).1 there with ⟨old, -⟩ | rfl
    · exact w.under_way x old id delivery
    · rw [game]
      exact w.under_way b mem id (same ▸ delivery)
  owned p place := by
    obtain ⟨x, there, own⟩ := w.owned p place
    by_cases stepped : x.number = b.number
    · obtain rfl := line.batch_eq there mem stepped
      exact ⟨b', (line.mem_stepped mem).2 (.inr rfl), same ▸ own.1, game ▸ own.2⟩
    · exact ⟨x, (line.mem_stepped mem).2 (.inl ⟨there, stepped⟩), own⟩

/-- A batch begins a delivery. -/
theorem begin (mem : b ∈ batches) (game : b'.game = b.game) {id : Nat} (idle : b.delivery = none)
    (delivery : b'.delivery = some id) :
    AtWork (batches.erase b ++ [b']) (places ++ [(id, b.game)]) where
  under_way x there i its := by
    rcases (line.mem_stepped mem).1 there with ⟨old, -⟩ | rfl
    · exact mem_snoc.2 (.inl (w.under_way x old i its))
    · rw [delivery] at its
      cases its
      rw [game]
      exact mem_snoc.2 (.inr rfl)
  owned p place := by
    rcases mem_snoc.1 place with old | rfl
    · obtain ⟨x, there, own⟩ := w.owned p old
      refine ⟨x, (line.mem_stepped mem).2 (.inl ⟨there, fun same => ?_⟩), own⟩
      rw [line.batch_eq there mem same, idle] at own
      cases own.1
    · exact ⟨b', (line.mem_stepped mem).2 (.inr rfl), delivery, game⟩

/-- The delivery of a batch has ended. -/
theorem finish (mem : b ∈ batches) {id : Nat} (delivery : b.delivery = some id)
    (idle : b'.delivery = none)
    (unique : ∀ p ∈ places, ∀ q ∈ places, p.1 = q.1 → p = q) :
    AtWork (batches.erase b ++ [b']) (places.filter (·.1 != id)) where
  under_way x there i its := by
    rcases (line.mem_stepped mem).1 there with ⟨old, ne⟩ | rfl
    · have place := w.under_way x old i its
      refine List.mem_filter.2 ⟨place, bne_iff_ne.2 ?_⟩
      rintro rfl
      -- two batches of one game cannot both have a delivery
      have same := unique _ place _ (w.under_way b mem i delivery) rfl
      rw [Prod.mk.injEq] at same
      exact ne (congrArg Batch.number (line.eq_of_delivery mem old same.2 (by simp [delivery])
        (by simp [its])))
    · rw [idle] at its
      cases its
  owned p place := by
    obtain ⟨place, ne⟩ := List.mem_filter.1 place
    obtain ⟨x, there, own⟩ := w.owned p place
    refine ⟨x, (line.mem_stepped mem).2 (.inl ⟨there, fun same => ?_⟩), own⟩
    rw [line.batch_eq there mem same, delivery] at own
    exact bne_iff_ne.1 ne (Option.some.inj own.1).symm

end AtWork

end PublishQueue

/-! ## One act after another -/

namespace Traffic

open PublishQueue (InLine AtWork IsNext leftOf itemsOf)

/-- What the service, the log and the batches that were queued have to do with each other. -/
structure Sound (t : Traffic) : Prop where
  turns : Hub.TurnByTurn t.service.hub t.log
  line : InLine t.service.queue t.queued t.service.batches
  /-- What began to go out, and what is left, is what was queued. -/
  order : ∀ game, Hub.begun t.log game ++ leftOf t.queued t.service.batches game =
    itemsOf t.queued game
  work : AtWork t.service.batches t.service.hub.places

namespace Sound

theorem start (settings : RoomSettings) (books : Books) :
    Sound { service := { settings, books } } where
  turns := Hub.TurnByTurn.start
  line := InLine.start
  order _ := rfl
  work := ⟨by simp [Service.batches], by simp [Hub.places]⟩

variable {t : Traffic} (s : Sound t)

include s

/-- Two deliveries to one game are never under way together. -/
theorem alone : ∀ d ∈ t.service.hub.deliveries, ∀ e ∈ t.service.hub.deliveries,
    e.game = d.game → e = d := by
  intro d mem e mem' game
  obtain ⟨b, there, delivery, own⟩ := s.work.owned (d.id, d.game) (List.mem_map_of_mem mem)
  obtain ⟨x, there', delivery', own'⟩ := s.work.owned (e.id, e.game) (List.mem_map_of_mem mem')
  have same := s.line.eq_of_delivery there there' (own'.trans (game.trans own.symm))
    (by simp [delivery]) (by simp [delivery'])
  rw [same, delivery] at delivery'
  exact (s.turns.sound.delivery_eq mem mem' (Option.some.inj delivery')).symm

theorem queue (game : Id) (items : List Outgoing) : Sound (t.act (.queue game items)) where
  turns := s.turns
  line := by
    show InLine _ _ (t.service.publishLater game items).batches
    rw [Service.batches_publishLater]
    exact s.line.push game items
  order other := by
    show Hub.begun t.log other ++ leftOf (t.queued ++ [(t.service.queue.push game items).1])
      (t.service.publishLater game items).batches other =
        itemsOf (t.queued ++ [(t.service.queue.push game items).1]) other
    rw [Service.batches_publishLater, s.line.leftOf_push, InLine.itemsOf_push,
      ← List.append_assoc, s.order]
  work := by
    show AtWork (t.service.publishLater game items).batches _
    rw [Service.batches_publishLater]
    exact s.work.push rfl

theorem connect (a : Hub.Act) (connection : a.isConnection = true) :
    Sound (t.act (.connect a connection)) where
  turns := s.turns.act a s.alone fun game excluded n e => by
    rw [e] at connection
    cases connection
  line := s.line
  order game := by
    have others : ∀ e ∈ (t.service.hub.act a).2, e.begins = false := by
      refine t.service.hub.begins_act fun g e n same => ?_
      rw [same] at connection
      cases connection
    show Hub.begun (t.log ++ (t.service.hub.act a).2) game ++ _ = _
    rw [Hub.begun_append, Hub.begun_of_others others, List.append_nil]
    exact s.order game
  work := by
    show AtWork _ (t.service.hub.act a).1.places
    rw [Hub.places, t.service.hub.deliveries_of_connection connection]
    exact s.work

theorem elsewhere (other : Service) : Sound (t.act (.elsewhere other)) := by
  unfold Traffic.act
  dsimp only
  split
  · rename_i same
    have same : Service.batches { other with hub := t.service.hub, queue := t.service.queue } =
        t.service.batches := same
    exact ⟨s.turns, by rw [same]; exact s.line, by rw [same]; exact s.order,
      by rw [same]; exact s.work⟩
  · exact s

/-- A batch that waits for nobody is next in its game. -/
theorem isNext_of_free {b : Batch} (mem : b ∈ t.service.batches)
    (free : ∀ p, b.previous = some p → (t.service.without (.batch b)).isPublishing p = false) :
    IsNext t.service.batches b := by
  refine s.line.isNext_of_free mem fun p previous x there number => ?_
  by_contra undone
  rw [Bool.not_eq_true] at undone
  obtain ⟨-, lt, -⟩ := s.line.previous b mem p previous
  have kept : x ∈ (t.service.without (.batch b)).batches := by
    rw [Service.batches_without, s.line.mem_erase mem]
    exact ⟨there, number ▸ Nat.ne_of_lt lt⟩
  have open_ := Service.isPublishing_iff.2 ⟨x, kept, number, undone⟩
  rw [free p previous] at open_
  cases open_

omit s in
theorem batches_put {b : Batch} (b' : Batch) (hub : Hub) :
    ({ t.service.without (.batch b) with hub }.spawn (.batch b')).batches =
      t.service.batches.erase b ++ [b'] := by
  rw [Service.batches_spawn, ← Service.batches_without]
  rfl

omit s in
theorem batches_leave (b : Batch) (queue : PublishQueue) :
    Service.batches { t.service.without (.batch b) with queue } = t.service.batches.erase b :=
  t.service.batches_without b

/-- What has to be seen to when a batch has become another one. -/
theorem put {b b' : Batch} {hub : Hub} {hs : List Hub.Happening}
    (turns : Hub.TurnByTurn hub (t.log ++ hs))
    (line : InLine t.service.queue t.queued (t.service.batches.erase b ++ [b']))
    (order : ∀ game, Hub.begun hs game ++
      leftOf t.queued (t.service.batches.erase b ++ [b']) game =
        leftOf t.queued t.service.batches game)
    (work : AtWork (t.service.batches.erase b ++ [b']) hub.places) :
    Sound { t with
      service := { t.service.without (.batch b) with hub }.spawn (.batch b')
      log := t.log ++ hs } := by
  have batches := batches_put (t := t) (b := b) b' hub
  exact {
    turns := turns
    line := by
      rw [batches]
      exact line
    order := fun game => by
      rw [batches, Hub.begun_append, List.append_assoc, order]
      exact s.order game
    work := by
      rw [batches]
      exact work }

theorem leave {b : Batch} (mem : b ∈ t.service.batches) (done : b.done = true) :
    Sound { t with
      service := { t.service.without (.batch b) with queue := t.service.queue.leave b } } := by
  have batches := batches_leave (t := t) b (t.service.queue.leave b)
  exact {
    turns := s.turns
    line := by
      rw [batches]
      exact s.line.leave mem done
    order := fun game => by
      rw [batches, s.line.leftOf_leave mem done]
      exact s.order game
    work := by
      rw [batches]
      exact s.work.leave (s.line.ended b mem done).2 }

/-- The delivery of a batch takes a step, by which nothing begins. -/
theorem advance {b : Batch} (b' : Batch) (mem : b ∈ t.service.batches) {id : Nat}
    (delivery : b.delivery = some id) (number : b'.number = b.number) (game : b'.game = b.game)
    (previous : b'.previous = b.previous) (items : b'.items = b.items) (undone : b'.done = false)
    {hub : Hub} (moved : (t.service.hub.act (.advance id t.service.now)).1 = hub)
    (work : AtWork (t.service.batches.erase b ++ [b']) hub.places) :
    Sound { t with
      service := { t.service.without (.batch b) with hub }.spawn (.batch b')
      log := t.log ++ (t.service.hub.act (.advance id t.service.now)).2 } := by
  have line := s.line.step mem (s.line.undone_of_delivery mem (by simp [delivery]))
    (s.line.isNext_of_delivery mem (by simp [delivery])) number game (.inl previous) fun done => by
      rw [undone] at done
      cases done
  refine s.put (moved ▸ s.turns.act _ s.alone fun _ _ _ e => by cases e) line (fun game => ?_) work
  rw [Hub.begun_of_others (t.service.hub.begins_act fun _ _ _ e => by cases e), List.nil_append]
  exact s.line.leftOf_step mem line number items game

/-- A batch begins with its next item. -/
theorem begin {b : Batch} (b' : Batch) (mem : b ∈ t.service.batches) (undone : b.done = false)
    (idle : b.delivery = none) (next : IsNext t.service.batches b) (number : b'.number = b.number)
    (game : b'.game = b.game) (previous : b'.previous = none) (undone' : b'.done = false)
    {item : Outgoing} (items : b.items = item :: b'.items)
    (delivery : b'.delivery = some t.service.hub.nextDelivery) :
    Sound { t with
      service := { t.service.without (.batch b) with
        hub := (t.service.hub.publish b.game item.excluded item.notice).2 }.spawn (.batch b')
      log := t.log ++ (t.service.hub.act (.publish b.game item.excluded item.notice)).2 } := by
  have line := s.line.step mem undone next number game (.inr previous) fun done => by
    rw [undone'] at done
    cases done
  have turn : ∀ p ∈ t.service.hub.places, p.2 ≠ b.game := by
    rintro p place own
    obtain ⟨x, there, its, game⟩ := s.work.owned p place
    by_cases same : x.number = b.number
    · rw [s.line.batch_eq there mem same, idle] at its
      cases its
    · rw [s.line.idle_of_isNext mem undone next there (game.trans own) same] at its
      cases its
  refine s.put (s.turns.act (.publish b.game item.excluded item.notice) s.alone ?_) line
    (fun other => ?_) ?_
  · intro game excluded n e
    cases e
    exact turn
  · show Hub.begun [.began _ b.game item.excluded item.notice _] other ++ _ = _
    rw [Hub.begun_began, Outgoing.of_excluded_notice]
    exact (s.line.leftOf_begin mem next line number items other).symm
  · rw [Hub.places_publish]
    exact s.work.begin s.line mem game idle delivery

/-- The delivery of a batch has its place in the hub. -/
theorem found_of_delivery {b : Batch} (mem : b ∈ t.service.batches) {id : Nat}
    (delivery : b.delivery = some id) : t.service.hub.delivery? id ≠ none := by
  obtain ⟨d, there, same⟩ := List.mem_map.1 (s.work.under_way b mem id delivery)
  intro gone
  refine absurd (List.find?_eq_none.1 gone d there) ?_
  simpa using congrArg Prod.fst same

theorem step {b : Batch} (mem : b ∈ t.service.batches) :
    Sound { t with
      service := t.service.stepBatch b
      log := t.log ++ (t.service.without (.batch b)).happenings b } := by
  have moves := (t.service.without (.batch b)).batchMoves b
  unfold Service.stepBatch
  generalize (t.service.without (.batch b)).moveBatch b = move,
    (t.service.without (.batch b)).happenings b = hs at moves
  cases moves with
  | follows | waits =>
    rw [List.append_nil]
    exact s
  | leaves done =>
    rw [List.append_nil]
    exact s.leave mem done
  | goes d undone delivery found hub step =>
    have found : t.service.hub.delivery? d.id = some d := found
    have step : t.service.hub.advance d t.service.now = .going hub := step
    have moved : (t.service.hub.act (.advance d.id t.service.now)).1 = hub := by
      rw [Hub.act_advance found, step]
    refine s.advance b mem delivery rfl rfl rfl rfl undone moved ?_
    rw [s.turns.sound.places_of_going (Hub.mem_of_delivery? found).1 step]
    exact s.work.keep s.line mem rfl rfl
  | delivers d undone delivery found count hub step =>
    have found : t.service.hub.delivery? d.id = some d := found
    have step : t.service.hub.advance d t.service.now = .finished count hub := step
    have moved : (t.service.hub.act (.advance d.id t.service.now)).1 = hub := by
      rw [Hub.act_advance found, step]
    refine s.advance { b with delivery := none } mem delivery rfl rfl rfl rfl undone moved ?_
    rw [Hub.places_of_finished step]
    exact s.work.finish s.line mem delivery rfl fun p place q place' =>
      s.turns.place_eq place place'
  | misses id undone delivery gone => exact absurd gone (s.found_of_delivery mem delivery)
  | ends undone idle free items =>
    have next := s.isNext_of_free mem free
    have line : InLine t.service.queue t.queued
        (t.service.batches.erase b ++ [{ b with done := true }]) :=
      s.line.step mem undone next rfl rfl (.inl rfl) fun _ => ⟨items, idle⟩
    refine s.put (by rw [List.append_nil]; exact s.turns) line (fun game => ?_) ?_
    · exact s.line.leftOf_step mem line rfl rfl game
    · exact s.work.keep s.line mem rfl rfl
  | begins item items undone idle free begins =>
    have next := s.isNext_of_free mem free
    exact s.begin { b with items, delivery := some t.service.hub.nextDelivery, previous := none }
      mem undone idle next rfl rfl rfl undone begins rfl

theorem act (a : Act) : Sound (t.act a) := by
  cases a with
  | queue game items => exact s.queue game items
  | connect a connection => exact s.connect a connection
  | elsewhere other => exact s.elsewhere other
  | step number =>
    unfold Traffic.act
    dsimp only
    split
    · rename_i b found
      exact s.step (List.mem_of_find?_eq_some found)
    · exact s

end Sound

theorem sound_run (settings : RoomSettings) (books : Books) (acts : List Act) :
    Sound (run settings books acts) := by
  unfold run
  have start := Sound.start settings books
  generalize ({ service := { settings, books } } : Traffic) = t at start
  induction acts generalizing t with
  | nil => exact start
  | cons a acts ih => exact ih _ (start.act a)

end Traffic

end GuessingRoom
